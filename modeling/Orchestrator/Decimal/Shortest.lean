import Orchestrator.Decimal.Binary64

/-!
# The shortest decimal numeral of a binary number

A binary number is written with the fewest decimal digits that read back as it, and of the numerals
with so many digits by the nearest.

* `Binary64.readsBack`: whether a decimal number lies among those that round to a binary number.
* `Binary64.shortest`: the digits and the power of ten of the shortest numeral.
* `Decimal.layOut`: how digits and a power of ten are written.
* `Binary64.render`: the numeral of a binary number.
-/

namespace Orchestrator
namespace Binary64

/-- Half the distance to the next number above. -/
def gapAbove (b : Binary64) : Rat :=
  (2 : Rat) ^ (b.exponent - 1)

/-- Half the distance to the next number below, which is nearer below a power of two. -/
def gapBelow (b : Binary64) : Rat :=
  if b.mantissa = leadingMantissa ∧ minExponent < b.exponent then (2 : Rat) ^ (b.exponent - 2)
  else (2 : Rat) ^ (b.exponent - 1)

/-- Whether a number rounds to a binary number.  A number halfway to a neighbour does when the
mantissa is even. -/
def readsBack (b : Binary64) (x : Rat) : Bool :=
  let low := b.magnitude - b.gapBelow
  let high := b.magnitude + b.gapAbove
  if b.mantissa % 2 = 0 then decide (low ≤ x) && decide (x ≤ high)
  else decide (low < x) && decide (x < high)

/-- The greatest exponent of ten, of those that occur, whose power is at most `x`. -/
def log10Floor (x : Rat) : Int :=
  match (List.range 640).find? fun (i : Nat) => (10 : Rat) ^ (310 - (i : Int)) ≤ x with
  | some i => 310 - (i : Int)
  | none => -330

/-- Of the two multiples of a power of ten around the magnitude, the nearer of those that read back,
as its factor. -/
def onGrid? (b : Binary64) (exponent : Int) : Option Nat :=
  let x := b.magnitude / (10 : Rat) ^ exponent
  let below := x.floor.toNat
  let fits (n : Nat) : Bool := b.readsBack ((n : Rat) * (10 : Rat) ^ exponent)
  let rounded := (Decimal.roundHalfEven x).toNat
  if fits rounded then some rounded
  else if fits below then some below
  else if fits (below + 1) then some (below + 1)
  else none

/-- The digits and the power of ten of the shortest numeral of a positive magnitude. -/
def shortest (b : Binary64) : Nat × Int :=
  let top := log10Floor b.magnitude
  match (List.range 17).findSome? fun (i : Nat) =>
      (b.onGrid? (top - (i : Int))).map fun n => (n, top - (i : Int)) with
  | some found => found
  | none => (0, 0)

end Binary64

namespace Decimal

/-- Digits without the zeros at their end, and the power of ten that makes up for them. -/
def dropZeros (digits : List Char) (exponent : Int) : List Char × Int :=
  let kept := (digits.reverse.dropWhile (· = '0')).reverse
  (kept, exponent + (digits.length - kept.length : Nat))

/-- Zeros. -/
def zeros (n : Nat) : List Char :=
  List.replicate n '0'

/-- Digits times a power of ten.  The point is written where it falls from five places before the
first digit to sixteen places behind it, and a number without a fraction ends in `.0`; farther out,
the power of ten is written. -/
def layOut (digits : List Char) (exponent : Int) : List Char :=
  let point := (digits.length : Int) + exponent
  if 0 ≤ exponent ∧ point ≤ 16 then digits ++ zeros exponent.toNat ++ ['.', '0']
  else if 0 < point ∧ point ≤ 16 then
    digits.take point.toNat ++ ['.'] ++ digits.drop point.toNat
  else if -5 < point ∧ point ≤ 0 then ['0', '.'] ++ zeros (-point).toNat ++ digits
  else
    let fraction := digits.drop 1
    digits.take 1 ++ (if fraction = [] then [] else '.' :: fraction) ++ ['e'] ++
      (toString (point - 1)).toList

end Decimal

namespace Binary64

/-- The shortest numeral of a number, with its sign. -/
def render (b : Binary64) : String :=
  let sign := if b.negative then ['-'] else []
  let body :=
    if b.mantissa = 0 then ['0', '.', '0']
    else
      let (n, e) := b.shortest
      let (digits, e) := Decimal.dropZeros (Nat.toDigits 10 n) e
      Decimal.layOut digits e
  String.ofList (sign ++ body)

end Binary64
end Orchestrator
