import Orchestrator.Yaml.Cursor

/-!
# The three ways to write a scalar

* `Plain.scan`: a scalar without quotes, which ends at an indicator, a comment or a line that is not
  indented enough.
* `Quoted.scan`: a scalar between single or double quotes, with its escapes.
* `Block.scan`: a scalar that is a block of lines, kept or folded.

Line breaks inside the first two fold as `Gap.folded` says.
-/

namespace Orchestrator
namespace Yaml

/-! ## Plain scalars -/

namespace Plain

/-- The characters that end a plain scalar inside brackets. -/
def flowIndicators : List Char := [',', '[', ']', '{', '}']

/-- The characters of a plain scalar up to a blank or an indicator.  Inside brackets, a colon may
not touch an indicator. -/
def run (flow : Bool) : List Char → Option (List Char)
  | [] => some []
  | ch :: rest =>
    if isBlank ch || isBreak ch then some []
    else if ch = ':' then
      if flow && (match rest with
        | next :: _ => next = '?' || flowIndicators.contains next
        | [] => false) then none
      else if isGapOrEnd rest.head? then some []
      else (run flow rest).map (ch :: ·)
    else if flow && flowIndicators.contains ch then some []
    else (run flow rest).map (ch :: ·)

/-- A plain scalar and what is behind it. -/
structure Found where
  text : List Char
  cursor : Cursor
  /-- Whether the last gap went over the end of a line. -/
  lineEnded : Bool

/-- Reads runs and the gaps between them. -/
def scanFrom (flow : Bool) (indent : Nat) : Nat → List Char → Gap → Cursor → Option Found
  | 0, text, g, c => some ⟨text, c, g.broken⟩
  | fuel + 1, text, g, c =>
    if c.atDocumentMark || c.at? '#' then some ⟨text, c, g.broken⟩
    else
      match run flow c.text with
      | none => none
      | some [] => some ⟨text, c, g.broken⟩
      | some (ch :: chars) =>
        let taken := ch :: chars
        let text := text ++ g.folded ++ taken
        match Gap.scan indent .empty (c.advance taken.length) with
        | none => none
        | some (g, c) =>
          if g.isEmpty then some ⟨text, c, false⟩
          else if !flow && c.column < indent then some ⟨text, c, g.broken⟩
          else scanFrom flow indent fuel text g c

/-- Reads a plain scalar whose lines have to be indented so far. -/
def scan (flow : Bool) (indent : Nat) (c : Cursor) : Option Found :=
  scanFrom flow indent (c.text.length + 1) [] .empty c

end Plain

/-! ## Quoted scalars -/

namespace Quoted

/-- The character that an escape of one letter stands for. -/
def simpleEscape? (c : Char) : Option Char :=
  [('0', '\x00'), ('a', '\x07'), ('b', '\x08'), ('t', '\t'), ('\t', '\t'), ('n', '\n'),
    ('v', '\x0b'), ('f', '\x0c'), ('r', '\r'), ('e', '\x1b'), (' ', ' '), ('"', '"'), ('/', '/'),
    ('\\', '\\'), ('N', '\u0085'), ('_', '\u00a0'), ('L', '\u2028'), ('P', '\u2029')].lookup c

/-- The number of hexadecimal digits behind an escape by code point. -/
def escapeLength? (c : Char) : Option Nat :=
  [('x', 2), ('u', 4), ('U', 8)].lookup c

/-- The value of a hexadecimal digit. -/
def hexValue? (c : Char) : Option Nat :=
  if c.isDigit then some (c.toNat - '0'.toNat)
  else if 'a' ≤ c ∧ c ≤ 'f' then some (c.toNat - 'a'.toNat + 10)
  else if 'A' ≤ c ∧ c ≤ 'F' then some (c.toNat - 'A'.toNat + 10)
  else none

/-- The value of a list of hexadecimal digits. -/
def hexNumber? (cs : List Char) : Option Nat :=
  cs.foldlM (fun n c => (hexValue? c).map fun d => n * 16 + d) 0

/-- The character of a code point, unless there is none. -/
def charOfNumber? (n : Nat) : Option Char :=
  if n.isValidChar then some (Char.ofNat n) else none

/-- The character of an escape, and the number of characters that the escape takes; the text starts
behind the backslash. -/
def escape? : List Char → Option (Char × Nat)
  | [] => none
  | c :: rest =>
    match simpleEscape? c, escapeLength? c with
    | some ch, _ => some (ch, 2)
    | none, none => none
    | none, some n =>
      if (rest.take n).length = n then
        ((hexNumber? (rest.take n)).bind charOfNumber?).map fun ch => (ch, n + 2)
      else none

/-- How a run of characters without gaps ended. -/
inductive Stop where
  /-- At a blank, a line break or the end of the text. -/
  | gap
  /-- At the closing quote. -/
  | quote
  /-- Behind a line break with a backslash before it. -/
  | escapedBreak
  deriving DecidableEq

/-- Reads characters and escapes up to a gap or the closing quote. -/
def run (single : Bool) : Nat → Cursor → Option (List Char × Stop × Cursor)
  | 0, c => some ([], .gap, c)
  | fuel + 1, c =>
    let andThen (ch : Char) (c : Cursor) : Option (List Char × Stop × Cursor) :=
      (run single fuel c).map fun found => (ch :: found.1, found.2)
    match c.text with
    | [] => some ([], .gap, c)
    | ch :: rest =>
      if isBlank ch || isBreak ch then some ([], .gap, c)
      else if single && ch = '\'' then
        if rest.head? = some '\'' then andThen '\'' (c.advance 2) else some ([], .quote, c)
      else if !single && ch = '"' then some ([], .quote, c)
      else if !single && ch = '\\' then
        match (c.advance 1).eatBreak? with
        | some (_, c) => some ([], .escapedBreak, c)
        | none =>
          match escape? rest with
          | none => none
          | some (e, n) => andThen e (c.advance n)
      else andThen ch (c.advance 1)

/-- Reads runs and the gaps between them, up to the closing quote. -/
def scanFrom (single : Bool) : Nat → List Char → Cursor → Option (List Char × Cursor)
  | 0, _, _ => none
  | fuel + 1, text, c =>
    if c.atDocumentMark || c.text = [] then none
    else
      match run single (c.text.length + 1) c with
      | none => none
      | some (chars, stop, c) =>
        let text := text ++ chars
        if stop = .quote then some (text, c.advance 1)
        else if stop = .escapedBreak && c.at? (if single then '\'' else '"') then
          some (text, c.advance 1)
        else
          match Gap.scan 0 (if stop = .escapedBreak then .escaped else .empty) c with
          | none => none
          | some (g, c) => scanFrom single fuel (text ++ g.folded) c

/-- Reads a quoted scalar from its opening quote. -/
def scan (single : Bool) (c : Cursor) : Option (List Char × Cursor) :=
  scanFrom single (c.text.length + 1) [] (c.advance 1)

end Quoted

/-! ## Block scalars -/

namespace Block

/-- What becomes of the line breaks at the end of a block. -/
inductive Chomping where
  /-- All are dropped. -/
  | strip
  /-- The first stays. -/
  | clip
  /-- All stay. -/
  | keep
  deriving DecidableEq

/-- The chomping that a sign asks for. -/
def chomping? (c : Option Char) : Option Chomping :=
  match c with
  | some '+' => some .keep
  | some '-' => some .strip
  | _ => none

/-- The additional indentation that a digit asks for; zero is refused. -/
def increment? (c : Option Char) : Option (Option Nat) :=
  match c with
  | some d => if d.isDigit then (if d = '0' then none else some (some (d.toNat - '0'.toNat)))
    else some none
  | none => some none

/-- Reads the signs behind the indicator of a block, in either order. -/
def header (c : Cursor) : Option (Chomping × Option Nat × Cursor) :=
  match chomping? (c.peek 0) with
  | some k =>
    match increment? (c.peek 1) with
    | none => none
    | some none => some (k, none, c.advance 1)
    | some (some n) => some (k, some n, c.advance 2)
  | none =>
    match increment? (c.peek 0) with
    | none => none
    | some none => some (.clip, none, c)
    | some (some n) =>
      match chomping? (c.peek 1) with
      | some k => some (k, some n, c.advance 2)
      | none => some (.clip, some n, c.advance 1)

/-- Reads empty lines, and the indentation of the line behind them.  Without an indentation that is
known, all spaces are read and the greatest column is returned; a tab where indentation belongs is
refused. -/
def breaksFrom (indent : Option Nat) :
    Nat → List Char → Nat → Cursor → Option (List Char × Nat × Cursor)
  | 0, _, _, _ => none
  | fuel + 1, breaks, widest, c =>
    let spaces := (c.text.takeWhile (· = ' ')).length
    let n := match indent with
      | none => spaces
      | some i => min spaces (i - c.column)
    let c := c.advance n
    let widest := max widest c.column
    let inside := match indent with
      | none => true
      | some i => decide (c.column < i)
    if inside && c.at? '\t' then none
    else
      match c.eatBreak? with
      | none => some (breaks, widest, c)
      | some (br, c) => breaksFrom indent fuel (breaks ++ [br]) widest c

/-- The indentation of a block that does not state it: that of its first line, but more than the
indentation around it, and at least one. -/
def detected (around : Int) (widest : Nat) : Nat :=
  max widest (max (around + 1) 1).toNat

/-- The lines of a block so far. -/
structure Lines where
  text : List Char
  /-- The line break at the end of the last line. -/
  lastBreak : List Char
  /-- The empty lines behind it. -/
  emptyLines : List Char
  /-- Whether the last line starts with a blank, which keeps it from being folded. -/
  blankStart : Bool

/-- Adds what stands between the last line and a line that starts with a blank or not. -/
def joined (literal : Bool) (l : Lines) (blankNow : Bool) : List Char :=
  if !literal && l.lastBreak = ['\n'] && !l.blankStart && !blankNow then
    (if l.emptyLines = [] then [' '] else []) ++ l.emptyLines
  else l.lastBreak ++ l.emptyLines

/-- Reads the lines of a block. -/
def linesFrom (literal : Bool) (indent : Nat) : Nat → Lines → Cursor → Option (Lines × Cursor)
  | 0, _, _ => none
  | fuel + 1, l, c =>
    match c.text with
    | [] => some (l, c)
    | ch :: _ =>
      if c.column ≠ indent then some (l, c)
      else
        let text := l.text ++ joined literal l (isBlank ch)
        let (line, c) := c.eatWhile fun ch => !isBreak ch
        let (br, c) := match c.eatBreak? with
          | some (br, c) => ([br], c)
          | none => ([], c)
        match breaksFrom (some indent) (c.text.length + 1) [] 0 c with
        | none => none
        | some (breaks, _, c) =>
          linesFrom literal indent fuel ⟨text ++ line, br, breaks, isBlank ch⟩ c

/-- Reads to the end of the line of the indicator, where only a comment may stand. -/
def endOfHeader (c : Cursor) : Option Cursor :=
  let c := c.skipBlanks
  let c := if c.at? '#' then c.skipLineRest else c
  if isBreakOrEnd (c.peek 0) then
    match c.eatBreak? with
    | some (_, c) => some c
    | none => some c
  else none

/-- Reads a block from its indicator, inside an indentation. -/
def scan (literal : Bool) (around : Int) (c : Cursor) : Option (List Char × Cursor) := do
  let (chomping, increment, c) ← header (c.advance 1)
  let c ← endOfHeader c
  let known := increment.map fun n => if 0 ≤ around then around.toNat + n else n
  let (breaks, widest, c) ← breaksFrom known (c.text.length + 1) [] 0 c
  let indent := known.getD (detected around widest)
  let (l, c) ← linesFrom literal indent (c.text.length + 1) ⟨[], [], breaks, false⟩ c
  let tail := match chomping with
    | .strip => []
    | .clip => l.lastBreak
    | .keep => l.lastBreak ++ l.emptyLines
  return (l.text ++ tail, c)

end Block
end Yaml
end Orchestrator
