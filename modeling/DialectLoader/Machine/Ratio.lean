import DialectLoader.Text.Digit

/-!
# Ratios as decimal numbers

A ratio of whole numbers, read from a decimal numeral and written as one: with a fixed number of
places, with an exponent, or in the shorter of these forms with a number of significant digits.
Where a ratio lies in the middle between two numerals, the one with the even last digit is taken.

Programs that would use floating point numbers use these ratios instead. So a result is exact where
a machine would round it, and there are no infinities.
-/

namespace DialectLoader.Text

/-- A ratio. Its denominator is not zero, which the operations keep up and the structure does not
demand. -/
structure Ratio where
  numerator : Int
  denominator : Nat
deriving DecidableEq

namespace Ratio

def tens : Nat → Nat
  | 0 => 1
  | count + 1 => 10 * tens count

def of (numerator : Int) (denominator : Nat) : Ratio :=
  let common := Nat.gcd numerator.natAbs denominator
  if denominator = 0 then ⟨0, 1⟩ else ⟨numerator.tdiv common, denominator / common⟩

def ofInt (value : Int) : Ratio := ⟨value, 1⟩

def isWhole (value : Ratio) : Bool := value.denominator == 1

def isZero (value : Ratio) : Bool := value.numerator == 0

def negate (value : Ratio) : Ratio := ⟨-value.numerator, value.denominator⟩

def add (left right : Ratio) : Ratio :=
  of (left.numerator * right.denominator + right.numerator * left.denominator)
    (left.denominator * right.denominator)

def subtract (left right : Ratio) : Ratio := left.add right.negate

def multiply (left right : Ratio) : Ratio :=
  of (left.numerator * right.numerator) (left.denominator * right.denominator)

def divide? (left right : Ratio) : Option Ratio :=
  if right.isZero then none
  else
    let numerator := left.numerator * right.denominator
    some (of (if right.numerator < 0 then -numerator else numerator)
      (left.denominator * right.numerator.natAbs))

def whole (value : Ratio) : Int := value.numerator.tdiv value.denominator

def remainder? (left right : Ratio) : Option Ratio :=
  (left.divide? right).map fun quotient => left.subtract (right.multiply (ofInt quotient.whole))

def power (base : Ratio) : Nat → Ratio
  | 0 => ofInt 1
  | exponent + 1 => base.multiply (power base exponent)

def isLess (left right : Ratio) : Bool :=
  left.numerator * right.denominator < right.numerator * left.denominator

def nearest (numerator denominator : Nat) : Nat :=
  let quotient := numerator / denominator
  let twice := 2 * (numerator % denominator)
  if denominator < twice || (denominator == twice && quotient % 2 == 1) then quotient + 1
  else quotient

def pointed (places : Nat) (digits : Nat) : List Char :=
  let written := decimal digits
  let padded := List.replicate (places + 1 - written.length) '0' ++ written
  let front := padded.take (padded.length - places)
  if places = 0 then front else front ++ '.' :: padded.drop (padded.length - places)

def fixed (places : Nat) (value : Ratio) : List Char :=
  pointed places (nearest (value.numerator.natAbs * tens places) value.denominator)

def tensIn : Nat → Nat → Nat → Nat
  | 0, _, _ => 0
  | fuel + 1, numerator, denominator =>
    if numerator < 10 * denominator then 0 else tensIn fuel numerator (10 * denominator) + 1

def tensUnder : Nat → Nat → Nat → Nat
  | 0, _, _ => 0
  | fuel + 1, numerator, denominator =>
    if denominator ≤ numerator then 0 else tensUnder fuel (10 * numerator) denominator + 1

def scientific (places : Nat) (value : Ratio) : Nat × Int :=
  let size := value.numerator.natAbs
  if size = 0 then (0, 0)
  else
    let bound := (decimal size).length + (decimal value.denominator).length + 1
    let up := tensIn bound size value.denominator
    let down := tensUnder bound size value.denominator
    let digits := nearest (size * tens (places + down)) (value.denominator * tens up)
    let exponent := (up : Int) - down
    if digits < tens (places + 1) then (digits, exponent) else (digits / 10, exponent + 1)

def exponentText (exponent : Int) : List Char :=
  let digits := decimal exponent.natAbs
  (if exponent < 0 then '-' else '+') :: List.replicate (2 - digits.length) '0' ++ digits

def exponential (places : Nat) (value : Ratio) : List Char :=
  let (digits, exponent) := value.scientific places
  pointed places digits ++ 'e' :: exponentText exponent

def trimPlaces (text : List Char) : List Char :=
  if text.contains '.' then
    let trimmed := (text.reverse.dropWhile (· == '0'))
    (if trimmed.head? == some '.' then trimmed.drop 1 else trimmed).reverse
  else text

def general (precision : Nat) (value : Ratio) : List Char :=
  let precision := max precision 1
  let (digits, exponent) := value.scientific (precision - 1)
  if exponent < -4 || (precision : Int) ≤ exponent then
    trimPlaces (pointed (precision - 1) digits) ++ 'e' :: exponentText exponent
  else trimPlaces (value.fixed ((precision : Int) - 1 - exponent).toNat)

def readSize? (text : List Char) : Option (Ratio × List Char) :=
  let isDigit (c : Char) : Bool := (digitValue? c).isSome
  let front := text.takeWhile isDigit
  let rest := text.drop front.length
  let places := match rest with
    | '.' :: more => more.takeWhile isDigit
    | _ => []
  let rest := match rest with
    | '.' :: more => if front.isEmpty && places.isEmpty then rest else more.drop places.length
    | _ => rest
  if front.isEmpty && places.isEmpty then none
  else
    let value := (readDigitsFrom 0 (front ++ places)).getD 0
    let plain := of value (tens places.length)
    let scaled? (more : List Char) : Option (Ratio × List Char) :=
      let down := more.head? == some '-'
      let spelled := if down || more.head? == some '+' then more.drop 1 else more
      let digits := spelled.takeWhile isDigit
      (readDecimal? 1000 digits).map fun exponent =>
        (if down then of value (tens (places.length + exponent))
          else of (value * tens exponent) (tens places.length), spelled.drop digits.length)
    match rest with
    | 'e' :: more | 'E' :: more => some ((scaled? more).getD (plain, rest))
    | _ => some (plain, rest)

def read? (text : List Char) : Option (Ratio × List Char) :=
  match text with
  | '-' :: rest => (readSize? rest).map fun (value, rest) => (value.negate, rest)
  | '+' :: rest => readSize? rest
  | _ => readSize? text

end Ratio

end DialectLoader.Text
