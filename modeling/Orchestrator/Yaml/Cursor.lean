/-!
# Positions in a YAML text

Reading a YAML text depends on where a character stands: on its column, which is the indentation, on
its line, and on its distance from the characters before it, which is counted in bytes.

* Character classes: `isBreak`, `isBlank`, `isWordChar`, `isAllowed`.
* `Cursor`: the text that is left and the position of its first character.
* `Cursor.eatWhile`, `Cursor.eatBreak?`: reading on inside a line, and to the next one.
* `Gap`: a run of blanks and line breaks, and what it folds to.
-/

namespace Orchestrator
namespace Yaml

/-! ## Characters -/

/-- Whether a character ends a line. -/
def isBreak (c : Char) : Bool :=
  c = '\n' || c = '\r' || c = '\u0085' || c = '\u2028' || c = '\u2029'

/-- Whether a character is a space or a tab. -/
def isBlank (c : Char) : Bool :=
  c = ' ' || c = '\t'

/-- Whether a character may stand in a name: ASCII letters, digits, and two signs. -/
def isWordChar (c : Char) : Bool :=
  c.isAlphanum || c = '_' || c = '-'

/-- Whether a character may occur in a text at all. -/
def isAllowed (c : Char) : Bool :=
  let n := c.toNat
  n = 0x09 || n = 0x0a || n = 0x0d || (0x20 ≤ n && n ≤ 0x7e) || n = 0x85 ||
    (0xa0 ≤ n && n ≤ 0xd7ff) || (0xe000 ≤ n && n ≤ 0xfffd) || 0x10000 ≤ n

/-- Whether a place in the text is a blank, a line break or the end. -/
def isGapOrEnd : Option Char → Bool
  | none => true
  | some c => isBlank c || isBreak c

/-- Whether a place in the text is a line break or the end. -/
def isBreakOrEnd : Option Char → Bool
  | none => true
  | some c => isBreak c

/-! ## Cursors -/

/-- The text that is left, and where it starts. -/
structure Cursor where
  text : List Char
  /-- The number of bytes before, in the UTF-8 form of the text. -/
  index : Nat
  line : Nat
  column : Nat
  deriving Repr

namespace Cursor

/-- The start of a text. -/
def ofText (cs : List Char) : Cursor :=
  ⟨cs, 0, 0, 0⟩

/-- The character so many places ahead. -/
def peek (c : Cursor) (n : Nat) : Option Char :=
  c.text[n]?

/-- Whether a character comes next. -/
def at? (c : Cursor) (ch : Char) : Bool :=
  c.text.head? = some ch

/-- Whether one of some characters comes next. -/
def atAny (c : Cursor) (chars : List Char) : Bool :=
  match c.text with
  | ch :: _ => chars.contains ch
  | [] => false

/-- The number of bytes in the UTF-8 form of some characters. -/
def byteCount (cs : List Char) : Nat :=
  cs.foldl (fun n c => n + c.utf8Size) 0

/-- Reads so many characters, none of them a line break. -/
def advance (c : Cursor) (n : Nat) : Cursor :=
  { c with
    text := c.text.drop n
    index := c.index + byteCount (c.text.take n)
    column := c.column + n }

/-- Reads a byte order mark at the start of a line. -/
def skipMark (c : Cursor) : Cursor :=
  if c.column = 0 && c.at? '\uFEFF' then c.advance 1 else c

/-- Reads the characters of a class that holds no line break. -/
def eatWhile (c : Cursor) (p : Char → Bool) : List Char × Cursor :=
  let taken := c.text.takeWhile p
  (taken, c.advance taken.length)

/-- Reads blanks. -/
def skipBlanks (c : Cursor) : Cursor :=
  (c.eatWhile isBlank).2

/-- Reads to the end of the line. -/
def skipLineRest (c : Cursor) : Cursor :=
  (c.eatWhile fun ch => !isBreak ch).2

/-- Reads a line break.  A carriage return with a line feed is one break, and all breaks but the two
Unicode separators count as line feeds. -/
def eatBreak? (c : Cursor) : Option (Char × Cursor) :=
  match c.text with
  | '\r' :: '\n' :: rest => some ('\n', ⟨rest, c.index + 2, c.line + 1, 0⟩)
  | ch :: rest =>
    if isBreak ch then
      let shown := if ch = '\u2028' ∨ ch = '\u2029' then ch else '\n'
      some (shown, ⟨rest, c.index + ch.utf8Size, c.line + 1, 0⟩)
    else none
  | [] => none

/-- Whether a line starts here with a mark between documents. -/
def atDocumentMark (c : Cursor) : Bool :=
  c.column = 0 &&
    match c.text with
    | '-' :: '-' :: '-' :: rest => isGapOrEnd rest.head?
    | '.' :: '.' :: '.' :: rest => isGapOrEnd rest.head?
    | _ => false

end Cursor

/-! ## Gaps -/

/-- A run of blanks and line breaks inside a scalar. -/
structure Gap where
  /-- The blanks before the first line break. -/
  blanks : List Char
  /-- Whether the line has ended. -/
  broken : Bool
  /-- The first line break, if it counts. -/
  first : Option Char
  /-- The line breaks after the first. -/
  more : List Char
  deriving Repr

namespace Gap

/-- The gap without anything in it. -/
def empty : Gap := ⟨[], false, none, []⟩

/-- The gap behind a line break that was escaped and does not count. -/
def escaped : Gap := ⟨[], true, none, []⟩

/-- Whether there is nothing in a gap. -/
def isEmpty (g : Gap) : Bool :=
  !g.broken && g.blanks = []

/-- What stands for a gap in the scalar: blanks as they are, a single line break as a space, and of
several line breaks all but the first. -/
def folded (g : Gap) : List Char :=
  if !g.broken then g.blanks
  else match g.first with
    | none => g.more
    | some '\n' => if g.more = [] then [' '] else g.more
    | some c => c :: g.more

/-- Reads blanks and line breaks.  A tab in front of the indentation is refused. -/
def scanFrom (indent : Nat) : Nat → Gap → Cursor → Option (Gap × Cursor)
  | 0, g, c => some (g, c)
  | fuel + 1, g, c =>
    match c.text with
    | [] => some (g, c)
    | ch :: _ =>
      if isBlank ch then
        if g.broken then
          if ch = '\t' && c.column < indent then none else scanFrom indent fuel g (c.advance 1)
        else scanFrom indent fuel { g with blanks := g.blanks ++ [ch] } (c.advance 1)
      else
        match c.eatBreak? with
        | none => some (g, c)
        | some (br, c) =>
          if g.broken then scanFrom indent fuel { g with more := g.more ++ [br] } c
          else scanFrom indent fuel ⟨[], true, some br, []⟩ c

/-- Reads a whole gap. -/
def scan (indent : Nat) (start : Gap) (c : Cursor) : Option (Gap × Cursor) :=
  scanFrom indent c.text.length start c

end Gap
end Yaml
end Orchestrator
