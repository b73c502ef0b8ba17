import Orchestrator.Regex.Fault
import Orchestrator.Text.Blank

/-!
# Reading an expression

* `Cursor`: a place in an expression, with what is left to read.
* `Cursor.step`: past a character, and past blanks and comments where these do not count.
-/

namespace Orchestrator
namespace Regex

/-- A place in an expression that is read. -/
structure Cursor where
  position : Position
  /-- The characters behind the place. -/
  rest : List Char
  /-- Whether blanks and comments do not count. -/
  isVerbose : Bool
  deriving DecidableEq, Repr

namespace Cursor

/-- The start of an expression. -/
def start (expression : List Char) : Cursor := ⟨.start, expression, false⟩

/-- The next character. -/
def next? (c : Cursor) : Option Char := c.rest.head?

/-- Past the next character. -/
def advance (c : Cursor) : Cursor :=
  match c.rest with
  | [] => c
  | ch :: rest => { c with position := c.position.after ch, rest }

/-- Past so many characters. -/
def advanceBy (n : Nat) (c : Cursor) : Cursor :=
  match n with
  | 0 => c
  | n + 1 => c.advance.advanceBy n

/-- Past blanks and comments.  A comment runs from a number sign to the end of the line. -/
def afterBlanks (inComment : Bool) (p : Position) : List Char → Position × List Char
  | [] => (p, [])
  | ch :: rest =>
    if inComment then afterBlanks (ch ≠ '\n') (p.after ch) rest
    else if Text.isBlank ch then afterBlanks false (p.after ch) rest
    else if ch = '#' then afterBlanks true (p.after ch) rest
    else (p, ch :: rest)

/-- Past blanks and comments, where these do not count. -/
def skipBlanks (c : Cursor) : Cursor :=
  if c.isVerbose then
    let (position, rest) := afterBlanks false c.position c.rest
    { c with position, rest }
  else c

/-- Past the next character, and past blanks and comments where these do not count. -/
def step (c : Cursor) : Cursor := c.advance.skipBlanks

/-- Past blanks, whether they count or not. -/
def skipAllBlanks (c : Cursor) : Cursor :=
  c.advanceBy (c.rest.takeWhile Text.isBlank).length

/-- The character behind the next one. -/
def second? (c : Cursor) : Option Char := (c.rest.drop 1).head?

/-- The character behind the next one, and behind blanks and the sign of a comment where these do
not count. -/
def secondAfterBlanks? (c : Cursor) : Option Char :=
  if c.isVerbose then
    match (c.rest.drop 1).dropWhile Text.isBlank with
    | '#' :: rest => (rest.dropWhile Text.isBlank).head?
    | rest => rest.head?
  else c.second?

/-- The empty part at a place. -/
def here (c : Cursor) : Span := .point c.position

/-- The next character as a part of the expression. -/
def charSpan (c : Cursor) : Span := ⟨c.position, c.advance.position⟩

/-- From a place to the cursor. -/
def since (c : Cursor) (first : Position) : Span := ⟨first, c.position⟩

/-- Past a text, if it comes next. -/
def dropText? (c : Cursor) (text : String) : Option Cursor :=
  if text.toList.isPrefixOf c.rest then some (c.advanceBy text.length) else none

end Cursor

/-- Refuses an expression. -/
def refuse {α : Type} (cause : Cause) (span : Span) : Except Fault α :=
  .error ⟨cause, span, none⟩

/-- What is read, and the place behind it. -/
abbrev Reading (α : Type) := Except Fault (α × Cursor)

end Regex
end Orchestrator
