/-!
# Binary floating point with 53 bits

A finite double is a sign, a whole `mantissa` below `2 ^ 53` and an `exponent` of two not below
`-1074`. `roundQuotient` takes a quotient of whole numbers to the nearest magnitude of this kind,
ties to the even mantissa; the arithmetic of the reader of numbers is built on it, in exact whole
numbers throughout.
-/

namespace TagGrammar.Decimal

-- Powers of whole numbers are the built-in ones, also where algebra is imported.
attribute [local instance (2000)] instPowNat

def minExponent : Int := -1074

def maxExponent : Int := 971

/-- The magnitude `mantissa · 2 ^ exponent`. -/
structure Magnitude where
  mantissa : Nat
  exponent : Int
  deriving DecidableEq, Repr

/-- A finite double. -/
structure Binary64 where
  /-- Whether the sign is minus; zero has a sign, too. -/
  negative : Bool
  magnitude : Magnitude
  deriving DecidableEq, Repr

def Magnitude.zero : Magnitude := ⟨0, minExponent⟩

/-- The magnitude as a quotient of whole numbers. -/
def Magnitude.quotient (x : Magnitude) : Nat × Nat :=
  (x.mantissa * 2 ^ x.exponent.toNat, 2 ^ (-x.exponent).toNat)

/-- The whole number nearest to `num / den`, and of two the even one. -/
def roundHalfEven (num den : Nat) : Nat :=
  let whole := num / den
  let rest := num % den
  if 2 * rest < den then whole
  else if den < 2 * rest then whole + 1
  else whole + whole % 2

/-- The exponent at which `num / den` has a mantissa of 53 bits, or the smallest exponent if that
one is smaller. -/
def exponentOf (num den : Nat) : Int :=
  let guess : Int := (num.log2 : Int) - den.log2 - 52
  let short := num * 2 ^ (-guess).toNat < 2 ^ (52 : Nat) * (den * 2 ^ guess.toNat)
  max (if short then guess - 1 else guess) minExponent

/-- The magnitude nearest to `num / den`, where `den` is not zero; `none` if that lies beyond the
largest one. -/
def roundQuotient (num den : Nat) : Option Magnitude :=
  if num = 0 then some .zero
  else
    let e := exponentOf num den
    let m := roundHalfEven (num * 2 ^ (-e).toNat) (den * 2 ^ e.toNat)
    let x : Magnitude := if m = 2 ^ (53 : Nat) then ⟨2 ^ (52 : Nat), e + 1⟩ else ⟨m, e⟩
    if maxExponent < x.exponent then none else some x

/-- The magnitude nearest to a power of ten. -/
def powerOfTen (n : Nat) : Option Magnitude := roundQuotient (10 ^ n) 1

/-- The rounded product. -/
def Magnitude.times (x y : Magnitude) : Option Magnitude :=
  roundQuotient (x.quotient.1 * y.quotient.1) (x.quotient.2 * y.quotient.2)

/-- The rounded quotient, where `y` is not zero. -/
def Magnitude.over (x y : Magnitude) : Option Magnitude :=
  roundQuotient (x.quotient.1 * y.quotient.2) (x.quotient.2 * y.quotient.1)

end TagGrammar.Decimal
