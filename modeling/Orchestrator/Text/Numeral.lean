/-!
# Unsigned decimal numerals

Reading and writing the numbers of the settings and of the command line: an optional plus sign
and one or more ASCII digits, whose value must fit into thirty-two bits.

* `digitsValue`: the value of a run of digits.
* `readCount`: the number written by a text, if it is one.
-/

namespace Orchestrator
namespace Text

/-- The largest number that fits into thirty-two bits. -/
def maxCount : Nat := 4294967295

/-- The value of a run of decimal digits, most significant first. -/
def digitsValue (ds : List Char) : Nat :=
  ds.foldl (fun n d => n * 10 + (d.toNat - '0'.toNat)) 0

/-- The digits of a numeral, after an optional plus sign. -/
def unsignedDigits : List Char → List Char
  | '+' :: ds => ds
  | ds => ds

/-- The number written by an optional plus sign and at least one digit, if it fits. -/
def readCount (cs : List Char) : Option Nat :=
  let ds := unsignedDigits cs
  if ds.isEmpty = false ∧ ds.all Char.isDigit = true ∧ digitsValue ds ≤ maxCount then
    some (digitsValue ds)
  else
    none

end Text
end Orchestrator
