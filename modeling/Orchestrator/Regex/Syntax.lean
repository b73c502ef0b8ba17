import Orchestrator.Regex.Fault

/-!
# The syntax of expressions

An expression as it is written.  Every part knows its place, because what is wrong with it may show
only when its meaning is sought.

* `SetItem`: what stands between brackets.
* `Syntax`: expressions.
-/

namespace Orchestrator
namespace Regex

/-- What may be switched on and off in an expression. -/
inductive Flag where
  /-- Letters match in any case. -/
  | anyCase
  /-- `^` and `$` match at the ends of lines. -/
  | manyLines
  /-- A dot matches the end of a line. -/
  | dotAll
  /-- Repetitions prefer few and many in turn. -/
  | swapped
  /-- Classes hold characters beyond ASCII. -/
  | unicode
  /-- A carriage return ends a line too. -/
  | carriageReturn
  /-- Blanks and comments in the expression do not count. -/
  | verbose
  deriving DecidableEq, Repr

/-- Flags that are switched on or off. -/
abbrev FlagChanges := List (Flag × Bool)

/-- The new state of a flag, if it changes. -/
def flagState? (changes : FlagChanges) (f : Flag) : Option Bool :=
  (changes.find? fun e => e.1 = f).map Prod.snd

/-- A character, and whether it is written as a byte of two hexadecimal digits. -/
structure Literal where
  char : Char
  isByte : Bool
  span : Span
  deriving DecidableEq, Repr

/-- What an expression may ask for between two characters. -/
inductive Assertion where
  | lineStart
  | lineEnd
  | textStart
  | textEnd
  | wordBoundary
  | noWordBoundary
  | wordStart
  | wordEnd
  /-- No word goes on before. -/
  | wordStartHalf
  /-- No word goes on behind. -/
  | wordEndHalf
  deriving DecidableEq, Repr

/-- The classes that a letter behind a backslash names. -/
inductive ShortClass where
  | digit
  | space
  | word
  deriving DecidableEq, Repr

/-- The classes of ASCII characters that have a name. -/
inductive AsciiClass where
  | alnum
  | alpha
  | ascii
  | blank
  | cntrl
  | digit
  | graph
  | lower
  | print
  | punct
  | space
  | upper
  | word
  | xdigit
  deriving DecidableEq, Repr

/-- How a property of characters is named. -/
inductive PropertyName where
  | named (name : String)
  | valued (property value : String)
  deriving DecidableEq, Repr

/-- What is done with the classes on both sides of an operator. -/
inductive SetOperator where
  | intersection
  | difference
  | symmetricDifference
  deriving DecidableEq, Repr

/-- What stands between brackets. -/
inductive SetItem where
  | empty (span : Span)
  | literal (literal : Literal)
  | range (first last : Literal)
  | short (cls : ShortClass) (negated : Bool) (span : Span)
  | ascii (cls : AsciiClass) (negated : Bool) (span : Span)
  | property (name : PropertyName) (negated : Bool) (span : Span)
  | bracketed (item : SetItem) (negated : Bool) (span : Span)
  | union (items : List SetItem) (span : Span)
  | operation (operator : SetOperator) (left right : SetItem) (span : Span)
  deriving Repr

/-- The place of what stands between brackets. -/
def SetItem.span : SetItem → Span
  | .empty s => s
  | .literal l => l.span
  | .range first last => first.span.through last.span
  | .short _ _ s => s
  | .ascii _ _ s => s
  | .property _ _ s => s
  | .bracketed _ _ s => s
  | .union _ s => s
  | .operation _ _ _ s => s

/-- An expression as it is written. -/
inductive Syntax where
  | empty (span : Span)
  | flags (changes : FlagChanges) (span : Span)
  | literal (literal : Literal)
  | dot (span : Span)
  | assertion (assertion : Assertion) (span : Span)
  | short (cls : ShortClass) (negated : Bool) (span : Span)
  | property (name : PropertyName) (negated : Bool) (span : Span)
  | bracketed (item : SetItem) (negated : Bool) (span : Span)
  | repetition (body : Syntax) (least : Nat) (most : Option Nat) (span : Span)
  /-- A group, of which is noted where it was found or not. -/
  | group (isNoted : Bool) (changes : FlagChanges) (body : Syntax) (span : Span)
  | alternation (branches : List Syntax) (span : Span)
  | concatenation (parts : List Syntax) (span : Span)
  deriving Repr

/-- The place of an expression. -/
def Syntax.span : Syntax → Span
  | .empty s => s
  | .flags _ s => s
  | .literal l => l.span
  | .dot s => s
  | .assertion _ s => s
  | .short _ _ s => s
  | .property _ _ s => s
  | .bracketed _ _ s => s
  | .repetition _ _ _ s => s
  | .group _ _ _ s => s
  | .alternation _ s => s
  | .concatenation _ s => s

end Regex
end Orchestrator
