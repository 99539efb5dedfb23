import TagGrammar.Json.Fault

/-!
# Numerals

The text of a number is first cut into its parts (`Numeral.read`) and then given its value
(`Numeral.value?`). The value of a numeral that is no 64-bit integer is computed from the leading
digits that fit into 64 bits and one rounded scaling by a power of ten, so it can differ from the
nearest double in its last place. A numeral too large for a double has no value.
-/

namespace TagGrammar.Json

/-- The parts of the text of a number. -/
structure Numeral where
  negative : Bool
  whole : List Char
  /-- The digits behind the point; there are some if there is a point. -/
  fraction : List Char
  /-- The exponent of ten, if one is written. -/
  exponent : Option Int
  deriving DecidableEq, Repr

namespace Numeral

/-- The number that a row of digits stands for. -/
def ofDigits (digits : List Char) : Nat :=
  digits.foldl (fun n d => 10 * n + (d.toNat - '0'.toNat)) 0

/-! ### Reading -/

/-- What is wrong where a digit should come. -/
def noDigit : List Char → TextFault
  | [] => .ended
  | _ :: _ => .malformed

/-- The digits that come first, of which there is at least one. -/
def readDigits (cs : List Char) : Except TextFault (List Char × List Char) :=
  match cs.takeWhile Char.isDigit with
  | [] => .error (noDigit cs)
  | d :: ds => .ok (d :: ds, cs.dropWhile Char.isDigit)

/-- The point and the digits behind it, if a point comes first. -/
def readFraction : List Char → Except TextFault (List Char × List Char)
  | '.' :: cs => readDigits cs
  | cs => .ok ([], cs)

/-- A signed whole number. -/
def readSigned : List Char → Except TextFault (Int × List Char)
  | '-' :: cs => do
    let (digits, rest) ← readDigits cs
    return (-(ofDigits digits : Int), rest)
  | cs => do
    let (digits, rest) ← readDigits (if cs.head? = some '+' then cs.drop 1 else cs)
    return ((ofDigits digits : Int), rest)

/-- The exponent, if its letter comes first. -/
def readExponent : List Char → Except TextFault (Option Int × List Char)
  | c :: cs =>
    if c = 'e' ∨ c = 'E' then do
      let (power, rest) ← readSigned cs
      return (some power, rest)
    else .ok (none, c :: cs)
  | [] => .ok (none, [])

/-- The numeral at the start of a text. A zero that comes first is the only digit before the
point. -/
def read (cs : List Char) : Except TextFault (Numeral × List Char) := do
  let negative := decide (cs.head? = some '-')
  let (whole, rest) ← readDigits (if negative then cs.drop 1 else cs)
  if whole.head? = some '0' ∧ whole.length ≠ 1 then .error .malformed
  else
    let (fraction, rest) ← readFraction rest
    let (exponent, rest) ← readExponent rest
    return (⟨negative, whole, fraction, exponent⟩, rest)

/-! ### Value -/

-- Powers of whole numbers are the built-in ones, also where algebra is imported.
attribute [local instance (2000)] instPowNat

/-- Append digits to a number for as long as it stays within 64 bits, and count those that are left
over. -/
def absorb (n : Nat) : List Char → Nat × Nat
  | [] => (n, 0)
  | d :: ds =>
    let next := 10 * n + (d.toNat - '0'.toNat)
    if next < 2 ^ (64 : Nat) then absorb next ds else (n, ds.length + 1)

/-- The largest power of ten by which one step scales. -/
def scaleLimit : Nat := 308

/-- A magnitude divided by the largest scale `steps` times over. -/
def shrink : (steps : Nat) → Decimal.Magnitude → Option Decimal.Magnitude
  | 0, x => some x
  | steps + 1, x =>
    if x.mantissa = 0 then some x
    else do shrink steps (← x.over (← Decimal.powerOfTen scaleLimit))

/-- A magnitude divided by `10 ^ n`, by the largest scale for as long as more than that is left. -/
def scaleDown (x : Decimal.Magnitude) (n : Nat) : Option Decimal.Magnitude := do
  let steps := (n - 1) / scaleLimit
  let y ← shrink steps x
  y.over (← Decimal.powerOfTen (n - scaleLimit * steps))

/-- A magnitude times `10 ^ n`. -/
def scaleUp (x : Decimal.Magnitude) (n : Nat) : Option Decimal.Magnitude :=
  if n ≤ scaleLimit then do x.times (← Decimal.powerOfTen n)
  else if x.mantissa = 0 then some x
  else none

def scale (x : Decimal.Magnitude) (power : Int) : Option Decimal.Magnitude :=
  if 0 ≤ power then scaleUp x power.toNat else scaleDown x (-power).toNat

def real? (n : Numeral) : Option Decimal.Binary64 := do
  let (leading, surplus) := absorb 0 n.whole
  let (significand, unused) := absorb leading n.fraction
  let power : Int := surplus - (n.fraction.length - unused : Nat) + n.exponent.getD 0
  let start ← Decimal.roundQuotient significand 1
  return ⟨n.negative, ← scale start power⟩

/-- The integer of a numeral, if it is written as one and has 64 bits at most. There is no negative
zero among the integers. -/
def integer? (n : Numeral) : Option Int :=
  if n.fraction = [] ∧ n.exponent = none then
    let m := ofDigits n.whole
    if n.negative then if 0 < m ∧ m ≤ 2 ^ (63 : Nat) then some (-m) else none
    else if m < 2 ^ (64 : Nat) then some m else none
  else none

/-- The value of a numeral; `none` if it is too large for a double. -/
def value? (n : Numeral) : Option Number :=
  match n.integer? with
  | some i => some (.integer i)
  | none => n.real?.map .real

end Numeral

end TagGrammar.Json
