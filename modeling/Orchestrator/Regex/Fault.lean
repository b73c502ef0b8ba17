/-!
# What is wrong with an expression

An expression that is refused is shown with the place that is at fault underlined.

* `Position`, `Span`: places in an expression.
* `Cause`: why an expression is refused, with its wording `Cause.message`.
* `Fault.report`: the expression, its place at fault, and the cause.
-/

namespace Orchestrator
namespace Regex

/-- A place between two characters of an expression.  Lines and columns count from one. -/
structure Position where
  /-- How many characters come before. -/
  offset : Nat
  line : Nat
  column : Nat
  deriving DecidableEq, Repr

namespace Position

/-- The place before the first character. -/
def start : Position := ⟨0, 1, 1⟩

/-- The place behind a character. -/
def after (p : Position) (c : Char) : Position :=
  if c = '\n' then ⟨p.offset + 1, p.line + 1, 1⟩ else ⟨p.offset + 1, p.line, p.column + 1⟩

end Position

/-- A part of an expression, which may be empty. -/
structure Span where
  first : Position
  /-- The place behind the part. -/
  last : Position
  deriving DecidableEq, Repr

namespace Span

/-- The empty part at a place. -/
def point (p : Position) : Span := ⟨p, p⟩

/-- From the start of one part to the end of another. -/
def through (a b : Span) : Span := ⟨a.first, b.last⟩

/-- Whether a part comes before another one. -/
def isBefore (a b : Span) : Bool :=
  a.first.offset < b.first.offset || a.first.offset = b.first.offset && a.last.offset < b.last.offset

/-- Whether a part begins and ends on one line. -/
def isOnOneLine (s : Span) : Bool := s.first.line == s.last.line

end Span

/-- Why an expression is refused. -/
inductive Cause where
  | classEscape
  | classRange
  | classRangeBound
  | classUnclosed
  | decimalInvalid
  | hexEmpty
  | hexInvalid
  | hexDigit
  | escapeUnfinished
  | escapeUnknown
  | flagDangling
  | flagDuplicate
  | flagNegatedTwice
  | flagUnfinished
  | flagUnknown
  | groupNameDuplicate
  | groupNameEmpty
  | groupNameInvalid
  | groupNameUnclosed
  | groupUnclosed
  | groupUnopened
  | tooDeep (limit : Nat)
  | countRange
  | countEmpty
  | countUnclosed
  | repetitionOfNothing
  | boundaryUnclosed
  | boundaryUnknown
  | boundaryUnfinished
  | propertyEscape
  | backreference
  | lookAround
  | unicodeNotAllowed
  | invalidEncoding
  | propertyUnknown
  | propertyValueUnknown
  deriving DecidableEq, Repr

/-- The wording of a cause. -/
def Cause.message : Cause → String
  | .classEscape => "invalid escape sequence found in character class"
  | .classRange => "invalid character class range, the start must be <= the end"
  | .classRangeBound => "invalid range boundary, must be a literal"
  | .classUnclosed => "unclosed character class"
  | .decimalInvalid => "decimal literal invalid"
  | .hexEmpty => "hexadecimal literal empty"
  | .hexInvalid => "hexadecimal literal is not a Unicode scalar value"
  | .hexDigit => "invalid hexadecimal digit"
  | .escapeUnfinished => "incomplete escape sequence, reached end of pattern prematurely"
  | .escapeUnknown => "unrecognized escape sequence"
  | .flagDangling => "dangling flag negation operator"
  | .flagDuplicate => "duplicate flag"
  | .flagNegatedTwice => "flag negation operator repeated"
  | .flagUnfinished => "expected flag but got end of regex"
  | .flagUnknown => "unrecognized flag"
  | .groupNameDuplicate => "duplicate capture group name"
  | .groupNameEmpty => "empty capture group name"
  | .groupNameInvalid => "invalid capture group character"
  | .groupNameUnclosed => "unclosed capture group name"
  | .groupUnclosed => "unclosed group"
  | .groupUnopened => "unopened group"
  | .tooDeep limit => s!"exceed the maximum number of nested parentheses/brackets ({limit})"
  | .countRange => "invalid repetition count range, the start must be <= the end"
  | .countEmpty => "repetition quantifier expects a valid decimal"
  | .countUnclosed => "unclosed counted repetition"
  | .repetitionOfNothing => "repetition operator missing expression"
  | .boundaryUnclosed =>
    "special word boundary assertion is either unclosed or contains an invalid character"
  | .boundaryUnknown =>
    "unrecognized special word boundary assertion, valid choices are: " ++
      "start, end, start-half or end-half"
  | .boundaryUnfinished =>
    "found either the beginning of a special word boundary or a bounded repetition on a \\b " ++
      "with an opening brace, but no closing brace"
  | .propertyEscape => "invalid Unicode character class"
  | .backreference => "backreferences are not supported"
  | .lookAround => "look-around, including look-ahead and look-behind, is not supported"
  | .unicodeNotAllowed => "Unicode not allowed here"
  | .invalidEncoding => "pattern can match invalid UTF-8"
  | .propertyUnknown => "Unicode property not found"
  | .propertyValueUnknown => "Unicode property value not found"

/-- A cause, the part of the expression at fault, and another part that has to do with it. -/
structure Fault where
  cause : Cause
  span : Span
  other : Option Span
  deriving DecidableEq, Repr

namespace Fault

/-- The parts that are underlined, in order. -/
def spans (f : Fault) : List Span :=
  match f.other with
  | none => [f.span]
  | some other => if other.isBefore f.span then [other, f.span] else [f.span, other]

/-- So many times one character. -/
def repeated (n : Nat) (c : Char) : String := String.ofList (List.replicate n c)

/-- The lines of an expression, without the characters that end them. -/
def lines (expression : List Char) : List (List Char) :=
  let pieces := expression.splitOn '\n'
  let ended := pieces.dropLast.map fun l => if l.getLast? = some '\r' then l.dropLast else l
  ended ++ pieces.getLast?.toList.filter (· ≠ [])

/-- The line below a line: spaces up to each part and a mark for each character of it, at least
one.  The first parameter tells how long the line already is. -/
def underline (length : Nat) : List Span → String
  | [] => ""
  | s :: ss =>
    let marks := max 1 (s.last.column - s.first.column)
    repeated (s.first.column - 1 - length) ' ' ++ repeated marks '^' ++
      underline (max length (s.first.column - 1) + marks) ss

/-- A line with what stands in front of it, and the line below it if a part lies on it. -/
def shownLine (f : Fault) (margin : String) (number : Nat) (line : List Char) : String :=
  let here := f.spans.filter fun s => s.isOnOneLine && s.first.line == number
  margin ++ String.ofList line ++ "\n" ++
    if here.isEmpty then "" else repeated margin.length ' ' ++ underline 0 here ++ "\n"

/-- A line number, filled up with spaces at its left side. -/
def lineNumber (width number : Nat) : String :=
  repeated (width - (toString number).length) ' ' ++ toString number

/-- The expression on several numbered lines, between two dividers. -/
def shownLines (f : Fault) (expression : List Char) : String :=
  let count := (lines expression).length + if expression.getLast? = some '\n' then 1 else 0
  let width := if count ≤ 1 then 0 else (toString count).length
  let divider := repeated 79 '~' ++ "\n"
  let shown := (lines expression).zipIdx.map fun l =>
    f.shownLine (if width = 0 then "    " else lineNumber width (l.2 + 1) ++ ": ") (l.2 + 1) l.1
  let notes := (f.spans.filter fun s => !s.isOnOneLine).map fun s =>
    "on line " ++ toString s.first.line ++ " (column " ++ toString s.first.column ++
      ") through line " ++ toString s.last.line ++ " (column " ++ toString (s.last.column - 1) ++
      ")\n"
  divider ++ String.join shown ++ divider ++ String.join notes

/-- What is said about an expression that is refused. -/
def report (f : Fault) (expression : String) : String :=
  let cs := expression.toList
  let shown := if cs.contains '\n' then f.shownLines cs else f.shownLine "    " 1 cs
  "regex parse error:\n" ++ shown ++ "error: " ++ f.cause.message

end Fault
end Regex
end Orchestrator
