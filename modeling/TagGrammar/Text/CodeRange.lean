/-!
# Ranges of code points

Character properties are given by lists of ranges. A range may skip: with step two it holds every
other code point, which is how alphabets lie whose capital and small letters alternate.
-/

namespace TagGrammar.Text

/-- The code points `first`, `first + step`, …, up to `last`. -/
structure CodeRange where
  first : Nat
  /-- No code point is above this one. -/
  last : Nat
  step : Nat
  deriving DecidableEq, Repr

def CodeRange.contains (r : CodeRange) (n : Nat) : Bool :=
  decide (r.first ≤ n ∧ n ≤ r.last ∧ (n - r.first) % r.step = 0)

end TagGrammar.Text
