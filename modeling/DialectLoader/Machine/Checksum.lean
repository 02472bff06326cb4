import DialectLoader.Text.Utf8

/-!
# Digests in blocks of 64 bytes

Three digests that are built alike. The input is followed by one bit, by zeros and by its length in
bits, so that it consists of blocks of 64 bytes. Each block is taken as sixteen words and changes a
state of some words. They differ in the order of the bytes of a word, in the state they start with,
and in how a block changes it.

The tools that show digests use them. The loader itself has another digest, and nothing is proved
about these three.
-/

namespace DialectLoader.Digest.Blocks

def rotateLeft (word amount : UInt32) : UInt32 :=
  (word <<< amount) ||| (word >>> (32 - amount))

def turnRight (word amount : UInt32) : UInt32 :=
  (word >>> amount) ||| (word <<< (32 - amount))

def lowFirst : Nat → Nat → Bytes
  | 0, _ => []
  | count + 1, value => value.toUInt8 :: lowFirst count (value / 256)

def numberBytes (isBig : Bool) (count value : Nat) : Bytes :=
  if isBig then (lowFirst count value).reverse else lowFirst count value

def wordOf (isBig : Bool) (bytes : Bytes) : UInt32 :=
  (if isBig then bytes else bytes.reverse).foldl (fun word byte => word * 256 + byte.toUInt32) 0

def inPieces {α : Type} (size : Nat) : Nat → List α → List (List α)
  | 0, _ | _ + 1, [] => []
  | fuel + 1, items => items.take size :: inPieces size fuel (items.drop size)

def blocks (isBig : Bool) (input : Bytes) : List (Array UInt32) :=
  let filled := input ++ 0x80 :: List.replicate ((119 - input.length % 64) % 64) 0
    ++ numberBytes isBig 8 (8 * input.length)
  (inPieces 64 filled.length filled).map fun block =>
    ((inPieces 4 block.length block).map (wordOf isBig)).toArray

def hexDigest (isBig : Bool) (start : List UInt32)
    (change : List UInt32 → Array UInt32 → List UInt32) (input : Bytes) : List Char :=
  let final := (blocks isBig input).foldl change start
  let bytes := final.flatMap fun word => numberBytes isBig 4 word.toNat
  bytes.flatMap fun byte => [Nat.digitChar (byte.toNat / 16), Nat.digitChar (byte.toNat % 16)]

def sum (left right : List UInt32) : List UInt32 :=
  (left.zip right).map fun (a, b) => a + b

def sines : Array UInt32 :=
  #[0xD76AA478, 0xE8C7B756, 0x242070DB, 0xC1BDCEEE, 0xF57C0FAF, 0x4787C62A, 0xA8304613, 0xFD469501,
    0x698098D8, 0x8B44F7AF, 0xFFFF5BB1, 0x895CD7BE, 0x6B901122, 0xFD987193, 0xA679438E, 0x49B40821,
    0xF61E2562, 0xC040B340, 0x265E5A51, 0xE9B6C7AA, 0xD62F105D, 0x02441453, 0xD8A1E681, 0xE7D3FBC8,
    0x21E1CDE6, 0xC33707D6, 0xF4D50D87, 0x455A14ED, 0xA9E3E905, 0xFCEFA3F8, 0x676F02D9, 0x8D2A4C8A,
    0xFFFA3942, 0x8771F681, 0x6D9D6122, 0xFDE5380C, 0xA4BEEA44, 0x4BDECFA9, 0xF6BB4B60, 0xBEBFBC70,
    0x289B7EC6, 0xEAA127FA, 0xD4EF3085, 0x04881D05, 0xD9D4D039, 0xE6DB99E5, 0x1FA27CF8, 0xC4AC5665,
    0xF4292244, 0x432AFF97, 0xAB9423A7, 0xFC93A039, 0x655B59C3, 0x8F0CCC92, 0xFFEFF47D, 0x85845DD1,
    0x6FA87E4F, 0xFE2CE6E0, 0xA3014314, 0x4E0811A1, 0xF7537E82, 0xBD3AF235, 0x2AD7D2BB, 0xEB86D391]

def turns : List (Array UInt32) :=
  [#[7, 12, 17, 22], #[5, 9, 14, 20], #[4, 11, 16, 23], #[6, 10, 15, 21]]

def stepFirst (words : Array UInt32) (state : List UInt32) (index : Nat) : List UInt32 :=
  match state with
  | [a, b, c, d] =>
    let (mixed, source) := match index / 16 with
      | 0 => ((b &&& c) ||| (~~~b &&& d), index)
      | 1 => ((d &&& b) ||| (~~~d &&& c), (5 * index + 1) % 16)
      | 2 => (b ^^^ c ^^^ d, (3 * index + 5) % 16)
      | _ => (c ^^^ (b ||| ~~~d), 7 * index % 16)
    let amount := (turns.getD (index / 16) #[]).getD (index % 4) 0
    let turned := rotateLeft (a + mixed + sines.getD index 0 + words.getD source 0) amount
    [d, b + turned, b, c]
  | other => other

def md5 (input : Bytes) : List Char :=
  hexDigest false [0x67452301, 0xEFCDAB89, 0x98BADCFE, 0x10325476]
    (fun state words => sum state ((List.range 64).foldl (stepFirst words) state)) input

def extended (next : Array UInt32 → Nat → UInt32) (count : Nat) (words : Array UInt32) :
    Array UInt32 :=
  (List.range (count - 16)).foldl (fun words index => words.push (next words (index + 16))) words

def stepSecond (words : Array UInt32) (state : List UInt32) (index : Nat) : List UInt32 :=
  match state with
  | [a, b, c, d, e] =>
    let (mixed, constant) : UInt32 × UInt32 := match index / 20 with
      | 0 => ((b &&& c) ||| (~~~b &&& d), 0x5A827999)
      | 1 => (b ^^^ c ^^^ d, 0x6ED9EBA1)
      | 2 => ((b &&& c) ||| (b &&& d) ||| (c &&& d), 0x8F1BBCDC)
      | _ => (b ^^^ c ^^^ d, 0xCA62C1D6)
    [rotateLeft a 5 + mixed + e + constant + words.getD index 0, a, rotateLeft b 30, c, d]
  | other => other

def sha1 (input : Bytes) : List Char :=
  let next (words : Array UInt32) (index : Nat) : UInt32 :=
    rotateLeft (words.getD (index - 3) 0 ^^^ words.getD (index - 8) 0 ^^^ words.getD (index - 14) 0
      ^^^ words.getD (index - 16) 0) 1
  hexDigest true [0x67452301, 0xEFCDAB89, 0x98BADCFE, 0x10325476, 0xC3D2E1F0]
    (fun state words =>
      sum state ((List.range 80).foldl (stepSecond (extended next 80 words)) state)) input

def cubeRoots : Array UInt32 :=
  #[0x428A2F98, 0x71374491, 0xB5C0FBCF, 0xE9B5DBA5, 0x3956C25B, 0x59F111F1, 0x923F82A4, 0xAB1C5ED5,
    0xD807AA98, 0x12835B01, 0x243185BE, 0x550C7DC3, 0x72BE5D74, 0x80DEB1FE, 0x9BDC06A7, 0xC19BF174,
    0xE49B69C1, 0xEFBE4786, 0x0FC19DC6, 0x240CA1CC, 0x2DE92C6F, 0x4A7484AA, 0x5CB0A9DC, 0x76F988DA,
    0x983E5152, 0xA831C66D, 0xB00327C8, 0xBF597FC7, 0xC6E00BF3, 0xD5A79147, 0x06CA6351, 0x14292967,
    0x27B70A85, 0x2E1B2138, 0x4D2C6DFC, 0x53380D13, 0x650A7354, 0x766A0ABB, 0x81C2C92E, 0x92722C85,
    0xA2BFE8A1, 0xA81A664B, 0xC24B8B70, 0xC76C51A3, 0xD192E819, 0xD6990624, 0xF40E3585, 0x106AA070,
    0x19A4C116, 0x1E376C08, 0x2748774C, 0x34B0BCB5, 0x391C0CB3, 0x4ED8AA4A, 0x5B9CCA4F, 0x682E6FF3,
    0x748F82EE, 0x78A5636F, 0x84C87814, 0x8CC70208, 0x90BEFFFA, 0xA4506CEB, 0xBEF9A3F7, 0xC67178F2]

def stepThird (words : Array UInt32) (state : List UInt32) (index : Nat) : List UInt32 :=
  match state with
  | [a, b, c, d, e, f, g, h] =>
    let first := turnRight e 6 ^^^ turnRight e 11 ^^^ turnRight e 25
    let second := turnRight a 2 ^^^ turnRight a 13 ^^^ turnRight a 22
    let fresh :=
      h + first + ((e &&& f) ^^^ (~~~e &&& g)) + cubeRoots.getD index 0 + words.getD index 0
    let major := (a &&& b) ^^^ (a &&& c) ^^^ (b &&& c)
    [fresh + second + major, a, b, c, d + fresh, e, f, g]
  | other => other

def sha256 (input : Bytes) : List Char :=
  let next (words : Array UInt32) (index : Nat) : UInt32 :=
    let near := words.getD (index - 2) 0
    let far := words.getD (index - 15) 0
    words.getD (index - 16) 0 + (turnRight far 7 ^^^ turnRight far 18 ^^^ (far >>> 3)) +
      words.getD (index - 7) 0
      + (turnRight near 17 ^^^ turnRight near 19 ^^^ (near >>> 10))
  hexDigest true
    [0x6A09E667, 0xBB67AE85, 0x3C6EF372, 0xA54FF53A, 0x510E527F, 0x9B05688C, 0x1F83D9AB, 0x5BE0CD19]
    (fun state words =>
      sum state ((List.range 64).foldl (stepThird (extended next 64 words)) state)) input

end DialectLoader.Digest.Blocks
