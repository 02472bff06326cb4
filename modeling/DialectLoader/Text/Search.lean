/-!
# Finding a text inside another

The leftmost occurrence decides. The empty text occurs in every text, at its start.
-/

namespace DialectLoader.Text

/-- The number of elements before the leftmost occurrence of `needle`. The empty needle is found at
once, also in the empty list. -/
def indexOf? {α : Type} [BEq α] (needle : List α) : List α → Option Nat
  | [] => if needle.isEmpty then some 0 else none
  | item :: rest =>
    if needle.isPrefixOf (item :: rest) then some 0 else (indexOf? needle rest).map (· + 1)

def occursIn (needle text : String) : Bool :=
  (indexOf? needle.toList text.toList).isSome

end DialectLoader.Text
