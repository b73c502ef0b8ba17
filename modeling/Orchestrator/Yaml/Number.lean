import Orchestrator.Decimal.Shortest

/-!
# Numbers in YAML

The plain scalars that are numbers, and how a number is written.

* `Number.readInteger`: an integer in base ten, sixteen, eight or two.  Sixty-four bits are enough
  for a value; an integer that only fits into more is refused, and one that fits into none is left
  to be read as something else.
* `Number.readFloat`: a decimal fraction or power, and the words for infinity and for no number.
* `Number.render`: the text of a number.
-/

namespace Orchestrator
namespace Yaml

/-- A number. -/
inductive Number where
  | integer (value : Int)
  | float (value : Binary64)
  | infinity (negative : Bool)
  | notANumber
  deriving DecidableEq, Repr

namespace Number

/-! ## Integers -/

/-- The value of a digit in any base up to sixteen. -/
def digitValue? (c : Char) : Option Nat :=
  if c.isDigit then some (c.toNat - '0'.toNat)
  else if 'a' ≤ c ∧ c ≤ 'f' then some (c.toNat - 'a'.toNat + 10)
  else if 'A' ≤ c ∧ c ≤ 'F' then some (c.toNat - 'A'.toNat + 10)
  else none

/-- The value of a run of at least one digit in a base. -/
def valueInBase? (base : Nat) (cs : List Char) : Option Nat :=
  if cs = [] then none
  else cs.foldlM (fun n c =>
    (digitValue? c).bind fun d => if d < base then some (n * base + d) else none) 0

/-- A sign that may be left out, and the text behind it. -/
def splitSign : List Char → Bool × List Char
  | '-' :: cs => (true, cs)
  | '+' :: cs => (false, cs)
  | cs => (false, cs)

/-- Whether a text is a run of digits that starts with a needless zero, which makes it a text. -/
def hasLeadingZero (cs : List Char) : Bool :=
  match (splitSign cs).2 with
  | '0' :: d :: ds => (d :: ds).all Char.isDigit
  | _ => false

/-- The magnitude that stands behind the sign of an integer. -/
def magnitude? : List Char → Option Nat
  | '0' :: 'x' :: cs => valueInBase? 16 cs
  | '0' :: 'o' :: cs => valueInBase? 8 cs
  | '0' :: 'b' :: cs => valueInBase? 2 cs
  | cs => valueInBase? 10 cs

/-- What becomes of a text that is read as an integer. -/
inductive IntegerReading where
  /-- It is an integer. -/
  | found (value : Int)
  /-- It is an integer that is too large. -/
  | tooLarge
  /-- It is no integer. -/
  | notAnInteger
  deriving DecidableEq, Repr

/-- The least number that does not fit in so many bits. -/
def bitLimit (bits : Nat) : Nat := 1 <<< bits

/-- Sorts an integer by its size: unsigned in sixty-four bits, or signed when negative; refused in
up to twice as many bits; and beyond that no integer. -/
def IntegerReading.ofSigned (negative : Bool) (n : Nat) : IntegerReading :=
  if negative then
    if n ≤ bitLimit 63 then .found (-(n : Int))
    else if n ≤ bitLimit 127 then .tooLarge
    else .notAnInteger
  else
    if n < bitLimit 64 then .found n
    else if n < bitLimit 128 then .tooLarge
    else .notAnInteger

/-- Reads a text as an integer. -/
def readInteger (cs : List Char) : IntegerReading :=
  if hasLeadingZero cs then .notAnInteger
  else
    let (negative, body) := splitSign cs
    match magnitude? body with
    | some n => IntegerReading.ofSigned negative n
    | none => .notAnInteger

/-! ## Fractions and powers -/

/-- A run of digits and what is behind it. -/
def splitDigits (cs : List Char) : List Char × List Char :=
  (cs.takeWhile Char.isDigit, cs.dropWhile Char.isDigit)

/-- The value of a run of digits. -/
def natOfDigits (cs : List Char) : Nat :=
  cs.foldl (fun n c => n * 10 + (c.toNat - '0'.toNat)) 0

/-- The exponent at the end of a numeral; none at all counts as zero. -/
def readExponent? : List Char → Option Int
  | [] => some 0
  | c :: cs =>
    if c = 'e' ∨ c = 'E' then
      let (negative, body) := splitSign cs
      if body ≠ [] ∧ body.all Char.isDigit then
        some (if negative then -(natOfDigits body : Int) else natOfDigits body)
      else none
    else none

/-- The digits and the power of ten of an unsigned decimal numeral. -/
def readDecimal? (cs : List Char) : Option (Nat × Int) :=
  let (whole, rest) := splitDigits cs
  let (fraction, rest) := match rest with
    | '.' :: rest => splitDigits rest
    | rest => ([], rest)
  if whole = [] ∧ fraction = [] then none
  else
    (readExponent? rest).map fun e => (natOfDigits (whole ++ fraction), e - (fraction.length : Int))

/-- The words for infinity. -/
def infinityWords : List (List Char) := [".inf".toList, ".Inf".toList, ".INF".toList]

/-- The words for no number. -/
def notANumberWords : List (List Char) := [".nan".toList, ".NaN".toList, ".NAN".toList]

/-- Reads a text as a float.  A numeral that is too large is none. -/
def readFloat? (cs : List Char) : Option Number :=
  let (negative, body) := splitSign cs
  if infinityWords.contains body then some (.infinity negative)
  else if notANumberWords.contains cs then some .notANumber
  else
    (readDecimal? body).bind fun (digits, e) =>
      (Binary64.ofDecimal? negative digits e).map .float

/-! ## Text and equality -/

/-- The text of a number: an integer in decimal, a float in its shortest numeral. -/
def render : Number → String
  | .integer n => toString n
  | .float x => x.render
  | .infinity negative => if negative then "-.inf" else ".inf"
  | .notANumber => ".nan"

/-- Whether two numbers are equal as keys.  An integer equals no float. -/
def same : Number → Number → Bool
  | .integer a, .integer b => a = b
  | .float a, .float b => a.same b
  | .infinity a, .infinity b => a = b
  | .notANumber, .notANumber => true
  | _, _ => false

end Number
end Yaml
end Orchestrator
