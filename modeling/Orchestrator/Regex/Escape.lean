import Orchestrator.Regex.Cursor
import Orchestrator.Regex.Syntax

/-!
# Escapes in expressions

What a backslash and the characters behind it stand for: a character, a class of characters, or an
assertion.

* `readEscape`: an escape.
* `readCount`: the number of a counted repetition.
-/

namespace Orchestrator
namespace Regex

/-! ## Numbers -/

/-- The value of a hexadecimal digit. -/
def hexDigit? (c : Char) : Option Nat :=
  if '0' ≤ c && c ≤ '9' then some (c.toNat - '0'.toNat)
  else if 'a' ≤ c && c ≤ 'f' then some (c.toNat - 'a'.toNat + 10)
  else if 'A' ≤ c && c ≤ 'F' then some (c.toNat - 'A'.toNat + 10)
  else none

/-- The character with a code point. -/
def scalar? (n : Nat) : Option Char :=
  if n.isValidChar then some (Char.ofNat n) else none

/-- So many hexadecimal digits, and the number that they continue. -/
def readHexDigits : Nat → Nat → Cursor → Reading Nat
  | 0, value, c => .ok (value, c)
  | n + 1, value, c =>
    match c.next? with
    | none => refuse .escapeUnfinished c.here
    | some ch =>
      match hexDigit? ch with
      | none => refuse .hexDigit c.charSpan
      | some d => readHexDigits n (16 * value + d) c.step

/-- Hexadecimal digits up to a closing brace, and the number that they continue; `none` when there
is no digit.  The parameters are the place of the opening brace and a bound on the digits. -/
def readBracedDigits (brace : Position) : Nat → Option Nat → Cursor → Reading (Option Nat)
  | 0, _, c => refuse .escapeUnfinished (c.since brace)
  | fuel + 1, value, c =>
    match c.next? with
    | none => refuse .escapeUnfinished (c.since brace)
    | some '}' => .ok (value, c)
    | some ch =>
      match hexDigit? ch with
      | none => refuse .hexDigit c.charSpan
      | some d => readBracedDigits brace fuel (some (16 * value.getD 0 + d)) c.step

/-- A character written by its code point.  The parameters are the place of the backslash and how
many digits there are without braces; the cursor stands behind the letter. -/
def readHex (start : Position) (digits : Nat) (c : Cursor) : Reading Literal :=
  match c.next? with
  | some '{' =>
    let brace := c.position
    (readBracedDigits brace (c.rest.length + 1) none c.step).bind fun (value, closing) =>
      let behind := closing.step
      match value with
      | none => refuse .hexEmpty (behind.since brace)
      | some value =>
        match scalar? value with
        | none => refuse .hexInvalid ⟨c.advance.position, closing.position⟩
        | some ch => .ok (⟨ch, false, behind.since start⟩, behind)
  | _ =>
    (readHexDigits digits 0 c).bind fun (value, behind) =>
      match scalar? value with
      | none => refuse .hexInvalid (behind.since c.position)
      | some ch => .ok (⟨ch, digits == 2, behind.since start⟩, behind)

/-- Decimal digits and the place behind them. -/
def takeDigits : Nat → Cursor → List Char × Cursor
  | 0, c => ([], c)
  | fuel + 1, c =>
    match c.next? with
    | some ch =>
      if ch.isDigit then
        let (digits, c) := takeDigits fuel c.step
        (ch :: digits, c)
      else ([], c)
    | none => ([], c)

/-- The number of a counted repetition and the place behind it, with blanks around the number
passed over.  The place is known even when there is no number. -/
def readCount (c : Cursor) : Except Fault Nat × Cursor :=
  let c := c.skipAllBlanks
  let (digits, behind) := takeDigits c.rest.length c
  let span := behind.since c.position
  let value := digits.foldl (fun n d => 10 * n + (d.toNat - '0'.toNat)) 0
  let number :=
    if digits.isEmpty then refuse .countEmpty span
    else if value < 4294967296 then .ok value
    else refuse .decimalInvalid span
  (number, behind.skipAllBlanks.skipBlanks)

/-! ## Properties -/

/-- The name of a property between braces, split at its first sign of equality. -/
def PropertyName.ofText (text : List Char) : PropertyName :=
  let split (sign : List Char → Option (List Char)) :=
    (List.range text.length).findSome? fun n =>
      (sign (text.drop n)).map fun behind =>
        PropertyName.valued (String.ofList (text.take n)) (String.ofList behind)
  let unequal := split fun cs => match cs with
    | '!' :: '=' :: value => some value
    | _ => none
  let after (c : Char) := split fun cs => if cs.head? = some c then some (cs.drop 1) else none
  (unequal.or ((after ':').or (after '='))).getD (.named (String.ofList text))

/-- The characters up to a closing brace, and the place of the brace. -/
def takeBraced : Nat → Cursor → Reading (List Char)
  | 0, c => refuse .escapeUnfinished c.here
  | fuel + 1, c =>
    match c.next? with
    | none => refuse .escapeUnfinished c.here
    | some '}' => .ok ([], c)
    | some ch => (takeBraced fuel c.step).map fun (cs, c) => (ch :: cs, c)

/-- The name of a property, of one letter or between braces.  The cursor stands behind the letter
that starts the class. -/
def readPropertyName (c : Cursor) : Reading PropertyName :=
  match c.next? with
  | none => refuse .escapeUnfinished c.here
  | some '{' =>
    (takeBraced (c.rest.length + 1) c.step).map fun (cs, c) => (.ofText cs, c.advance)
  | some '\\' => refuse .propertyEscape c.charSpan
  | some ch => .ok (.named (String.singleton ch), c.step)

/-! ## Words -/

/-- The letters of the name of a word boundary, and the place behind them. -/
def takeBoundaryName : Nat → Cursor → List Char × Cursor
  | 0, c => ([], c)
  | fuel + 1, c =>
    match c.next? with
    | some ch =>
      if ch.isAlpha || ch == '-' then
        let (name, c) := takeBoundaryName fuel c.step
        (ch :: name, c)
      else ([], c)
    | none => ([], c)

/-- The word boundaries that have a name. -/
def boundaries : List (String × Assertion) :=
  [("start", .wordStart), ("end", .wordEnd), ("start-half", .wordStartHalf),
   ("end-half", .wordEndHalf)]

/-- What stands between braces behind the letter for a word boundary: the name of a special one, or
the count of a repetition, which is not read here.  The cursor stands at the brace. -/
def readBoundary (start : Position) (c : Cursor) : Reading Assertion :=
  let inside := c.step
  match inside.next? with
  | none => refuse .boundaryUnfinished (inside.since start)
  | some ch =>
    if ch.isAlpha || ch == '-' then
      let (name, closing) := takeBoundaryName inside.rest.length inside
      if closing.next? ≠ some '}' then refuse .boundaryUnclosed (closing.since c.position)
      else
        match boundaries.lookup (String.ofList name) with
        | none => refuse .boundaryUnknown (closing.since inside.position)
        | some a => .ok (a, closing.advance)
    else .ok (.wordBoundary, c)

/-! ## Escapes -/

/-- The characters that have a meaning of their own in an expression. -/
def metaCharacters : List Char :=
  ['\\', '.', '+', '*', '?', '(', ')', '|', '[', ']', '{', '}', '^', '$', '#', '&', '-', '~']

/-- Whether a character behind a backslash stands for itself. -/
def standsForItself (c : Char) : Bool :=
  metaCharacters.contains c || c < '\x80' && !c.isAlphanum && c ≠ '<' && c ≠ '>'

/-- The control characters that letters stand for. -/
def controlLetters : List (Char × Char) :=
  [('a', '\x07'), ('f', '\x0c'), ('t', '\t'), ('n', '\n'), ('r', '\r'), ('v', '\x0b')]

/-- The assertions that letters and signs stand for. -/
def assertionLetters : List (Char × Assertion) :=
  [('A', .textStart), ('z', .textEnd), ('B', .noWordBoundary), ('<', .wordStart), ('>', .wordEnd)]

/-- The classes that letters stand for, and whether the letter negates the class. -/
def classLetters : List (Char × ShortClass × Bool) :=
  [('d', .digit, false), ('s', .space, false), ('w', .word, false), ('D', .digit, true),
   ('S', .space, true), ('W', .word, true)]

/-- The letters before a code point, and how many digits it has without braces. -/
def hexLetters : List (Char × Nat) := [('x', 2), ('u', 4), ('U', 8)]

/-- What an escape of one character stands for.  The cursor stands behind that character. -/
def shortEscape (start : Position) (ch : Char) (c : Cursor) : Reading Syntax :=
  let span := c.since start
  if standsForItself ch then .ok (.literal ⟨ch, false, span⟩, c)
  else if ch = 'b' then
    if c.next? = some '{' then
      (readBoundary start c).map fun (a, c) =>
        (.assertion a (if a = .wordBoundary then span else c.since start), c)
    else .ok (.assertion .wordBoundary span, c)
  else
    match controlLetters.lookup ch, assertionLetters.lookup ch, classLetters.lookup ch with
    | some ch, _, _ => .ok (.literal ⟨ch, false, span⟩, c)
    | _, some a, _ => .ok (.assertion a span, c)
    | _, _, some (cls, negated) => .ok (.short cls negated span, c)
    | none, none, none => refuse .escapeUnknown span

/-- Reads an escape; the cursor stands at the backslash. -/
def readEscape (c : Cursor) : Reading Syntax :=
  let start := c.position
  let c := c.advance
  match c.next? with
  | none => refuse .escapeUnfinished (c.since start)
  | some ch =>
    if ch.isDigit then refuse .backreference (c.advance.since start)
    else if ch = 'p' || ch = 'P' then
      (readPropertyName c.step).map fun (name, c) => (.property name (ch = 'P') (c.since start), c)
    else
      match hexLetters.lookup ch with
      | some digits => (readHex start digits c.step).map fun (l, c) => (.literal l, c)
      | none => shortEscape start ch c.advance

end Regex
end Orchestrator
