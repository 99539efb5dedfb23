import TagGrammar.Decimal.Binary64

/-!
# Shortest decimal text

A double is written with the fewest digits that still read back as the same double. `shortest`
looks for the coarsest decimal grid that has a point in the interval of reals which round to the
double; of two such points it takes the nearer one, and of two equally near the even one.
-/

namespace TagGrammar.Decimal

-- Powers of whole numbers are the built-in ones, also where algebra is imported.
attribute [local instance (2000)] instPowNat

/-- The reals that round to a magnitude, in units of a quarter of its last place: from `low` to
`high`, the ends included if the mantissa is even. -/
def Magnitude.interval (x : Magnitude) : Nat × Nat :=
  let isPower := x.mantissa = 2 ^ (52 : Nat) ∧ minExponent < x.exponent
  (4 * x.mantissa - (if isPower then 1 else 2), 4 * x.mantissa + 2)

/-- Whether the decimal `digits · 10 ^ power` rounds to `x`. -/
def Magnitude.roundsTo (x : Magnitude) (digits : Nat) (power : Int) : Bool :=
  let unit := x.exponent - 2
  let scale (n : Nat) : Nat := n * 2 ^ unit.toNat * 10 ^ (-power).toNat
  let point := digits * 10 ^ power.toNat * 2 ^ (-unit).toNat
  let (low, high) := x.interval
  if x.mantissa % 2 = 0 then decide (scale low ≤ point ∧ point ≤ scale high)
  else decide (scale low < point ∧ point < scale high)

/-- The point of the grid of step `10 ^ power` that rounds to `x` and lies next to it, if any. -/
def gridPoint? (x : Magnitude) (power : Int) : Option Nat :=
  let num := x.quotient.1 * 10 ^ (-power).toNat
  let den := x.quotient.2 * 10 ^ power.toNat
  let below := num / den
  let nearest := roundHalfEven num den
  if x.roundsTo nearest power then some nearest
  else if x.roundsTo below power then some below
  else if x.roundsTo (below + 1) power then some (below + 1)
  else none

/-- The first point found on the grids from `10 ^ power` down, and its exponent. -/
def shortestFrom (x : Magnitude) : (grids : Nat) → (power : Int) → Nat × Int
  | 0, power => (0, power)
  | grids + 1, power =>
    match gridPoint? x power with
    | some digits => (digits, power)
    | none => shortestFrom x grids (power - 1)

/-- The digits and the exponent of ten of the shortest decimal that reads back as `x`, for `x` not
zero. No double reaches `10 ^ 309`, and all are points of the grid of step `10 ^ -1074`. -/
def shortest (x : Magnitude) : Nat × Int := shortestFrom x 1400 309

/-! ### Notation

Numbers whose first digit stands from `10 ^ -5` to `10 ^ 15` are written out, with at least one
digit behind the point; all others have one digit before the point and a signed exponent. -/

/-- The smallest and the largest exponent of the first digit of a number that is written out. -/
def writtenOut : Int × Int := (-5, 15)

/-- The text of `digits · 10 ^ power`. -/
def writtenForm (digits : Nat) (power : Int) : List Char :=
  let ds := Nat.toDigits 10 digits
  let leading : Int := power + ds.length - 1
  if writtenOut.1 ≤ leading ∧ leading ≤ writtenOut.2 then
    if 0 ≤ power then ds ++ List.replicate power.toNat '0' ++ ['.', '0']
    else if 0 ≤ leading then ds.take (leading.toNat + 1) ++ '.' :: ds.drop (leading.toNat + 1)
    else ['0', '.'] ++ List.replicate (-leading - 1).toNat '0' ++ ds
  else
    let fraction := if ds.length ≤ 1 then [] else '.' :: ds.drop 1
    let sign := if leading < 0 then '-' else '+'
    ds.take 1 ++ fraction ++ 'e' :: sign :: Nat.toDigits 10 leading.natAbs

def Binary64.text (x : Binary64) : String :=
  let sign := if x.negative then ['-'] else []
  let unsigned :=
    if x.magnitude.mantissa = 0 then ['0', '.', '0']
    else writtenForm (shortest x.magnitude).1 (shortest x.magnitude).2
  String.ofList (sign ++ unsigned)

end TagGrammar.Decimal
