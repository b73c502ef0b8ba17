/-!
# Binary numbers of sixty-four bits

A finite binary number is `m · 2^e` with a mantissa of at most fifty-three bits.  A decimal numeral
stands for the binary number that is nearest to it, and of two equally near ones for the one with
the even mantissa.

* `roundHalfEven`: the integer nearest to a rational number.
* `Binary64`: a finite binary number with its sign.
* `Binary64.nearest?`: the binary number nearest to a rational number, unless it is too large.
* `Binary64.ofDecimal?`: the same for a decimal numeral, without writing out an extreme power of
  ten.
-/

namespace Orchestrator
namespace Decimal

/-- The integer nearest to a rational number; of two, the even one. -/
def roundHalfEven (x : Rat) : Int :=
  let k := x.floor
  if x - k < 1 / 2 then k
  else if 1 / 2 < x - k then k + 1
  else k + k % 2

/-- The greatest `k` with `2 ^ k ≤ x`, for a positive `x`. -/
def log2Floor (x : Rat) : Int :=
  let k : Int := (Nat.log2 x.num.natAbs : Int) - (Nat.log2 x.den : Int)
  if (2 : Rat) ^ k ≤ x then k else k - 1

end Decimal

/-- A finite binary number: the sign, and the magnitude `mantissa · 2 ^ exponent`. -/
structure Binary64 where
  negative : Bool
  /-- Less than `2 ^ 53`, and at least `2 ^ 52` unless the exponent is the smallest. -/
  mantissa : Nat
  exponent : Int
  deriving DecidableEq, Repr

namespace Binary64

/-- What every mantissa stays below: the fifty-third power of two. -/
def mantissaBound : Nat := 9007199254740992

/-- The mantissa of a power of two, which is half the bound. -/
def leadingMantissa : Nat := 4503599627370496

/-- The smallest exponent. -/
def minExponent : Int := -1074

/-- The greatest exponent. -/
def maxExponent : Int := 971

/-- The magnitude. -/
def magnitude (b : Binary64) : Rat :=
  (b.mantissa : Rat) * (2 : Rat) ^ b.exponent

/-- Zero with a sign. -/
def zero (negative : Bool) : Binary64 := ⟨negative, 0, minExponent⟩

/-- The binary number nearest to a positive rational number, `none` when it is too large. -/
def nearest? (negative : Bool) (x : Rat) : Option Binary64 :=
  let e := max (Decimal.log2Floor x - 52) minExponent
  let m := (Decimal.roundHalfEven (x / (2 : Rat) ^ e)).toNat
  let rounded : Binary64 :=
    if m = mantissaBound then ⟨negative, leadingMantissa, e + 1⟩
    else ⟨negative, m, e⟩
  if maxExponent < rounded.exponent then none else some rounded

/-- The binary number nearest to `digits · 10 ^ exponent`, `none` when it is too large.  Numerals
that are far out of range are decided by their length alone. -/
def ofDecimal? (negative : Bool) (digits : Nat) (exponent : Int) : Option Binary64 :=
  let top := ((Nat.toDigits 10 digits).length : Int) + exponent
  if digits = 0 then some (zero negative)
  else if 310 < top then none
  else if top < -330 then some (zero negative)
  else nearest? negative ((digits : Rat) * (10 : Rat) ^ exponent)

/-- Whether two numbers are equal as numbers; the two zeros are. -/
def same (a b : Binary64) : Bool :=
  a = b || (a.mantissa = 0 && b.mantissa = 0)

end Binary64
end Orchestrator
