import Orchestrator.Yaml.Scalar

/-!
# The tokens of a YAML text

A YAML text becomes a list of tokens, in which indentation shows as tokens that open and close
blocks.  A key is known as one only by the colon behind it, so that its tokens are read first and
the token that announces it is put before them later.

* `Token`: the tokens.
* `Lexeme`: anchors, tags and directives.
* `Scanner`: the tokens so far with the open blocks and the places where a key may have started.
* `Token.ofText?`: all tokens of a text.
-/

namespace Orchestrator
namespace Yaml

/-- A token. -/
inductive Token where
  | versionDirective (major minor : Nat)
  | tagDirective (handle : String) (expansion : List UInt8)
  | documentStart
  | documentEnd
  | blockSequenceStart
  | blockMappingStart
  | blockEnd
  | flowSequenceStart
  | flowSequenceEnd
  | flowMappingStart
  | flowMappingEnd
  | blockEntry
  | flowEntry
  | key
  | value
  | alias (name : String)
  | anchor (name : String)
  | tag (handle : String) (suffix : List UInt8)
  | scalar (text : String) (plain : Bool)
  deriving DecidableEq, Repr

/-! ## Names, tags and directives -/

namespace Lexeme

/-- The name behind the sign of an anchor or an alias. -/
def anchorName? (c : Cursor) : Option (String × Cursor) :=
  let (name, c) := (c.advance 1).eatWhile isWordChar
  if name ≠ [] ∧ (isGapOrEnd (c.peek 0) ∨ c.atAny ['?', ':', ',', ']', '}', '%', '@', '`']) then
    some (String.ofList name, c)
  else none

/-- The characters of a tag that stand for themselves. -/
def isTagChar (verbatim : Bool) (c : Char) : Bool :=
  isWordChar c || [';', '/', '?', ':', '@', '&', '=', '+', '$', '.', '!', '~', '*', '\'', '(',
    ')'].contains c || (verbatim && [',', '[', ']'].contains c)

/-- The number of bytes in the UTF-8 form of the character that a byte starts. -/
def utf8Width? (byte : Nat) : Option Nat :=
  if byte < 0x80 then some 1
  else if 0xc0 ≤ byte ∧ byte < 0xe0 then some 2
  else if 0xe0 ≤ byte ∧ byte < 0xf0 then some 3
  else if 0xf0 ≤ byte ∧ byte < 0xf8 then some 4
  else none

/-- The bytes of so many percent escapes. -/
def escapedBytes? : Nat → List Char → Option (List Nat)
  | 0, _ => some []
  | n + 1, '%' :: a :: b :: rest => do
    let byte ← Quoted.hexNumber? [a, b]
    let bytes ← escapedBytes? n rest
    return byte :: bytes
  | _ + 1, _ => none

/-- The bytes of the percent escapes of one character.  The first byte says how many there are, and
the others have to be ones that go on with a character; whether all of them are one is not asked. -/
def escapedGroup? (cs : List Char) : Option (List Nat) := do
  let lead ← escapedBytes? 1 cs
  let width ← utf8Width? (lead.headD 0)
  let bytes ← escapedBytes? width cs
  if (bytes.drop 1).all fun b => 0x80 ≤ b && b < 0xc0 then return bytes else none

/-- Reads the characters of a tag. -/
def tagChars (verbatim : Bool) : Nat → Cursor → Option (List UInt8 × Cursor)
  | 0, c => some ([], c)
  | fuel + 1, c =>
    match c.text with
    | [] => some ([], c)
    | ch :: _ =>
      if ch = '%' then
        match escapedGroup? c.text with
        | none => none
        | some bytes =>
          (tagChars verbatim fuel (c.advance (3 * bytes.length))).map fun f =>
            (bytes.map UInt8.ofNat ++ f.1, f.2)
      else if isTagChar verbatim ch then
        (tagChars verbatim fuel (c.advance 1)).map fun f => (ch.toUInt8 :: f.1, f.2)
      else some ([], c)

/-- The bytes in front of a zero, with which a tag ends. -/
def untilZero (bytes : List UInt8) : List UInt8 :=
  bytes.takeWhile (· ≠ 0)

/-- Reads a tag between angle brackets, behind the first of them. -/
def verbatimTag? (c : Cursor) : Option (Token × Cursor) := do
  let (suffix, c) ← tagChars true c.text.length c
  if suffix ≠ [] ∧ c.at? '>' then
    return (.tag "" (untilZero suffix), c.advance 1)
  else none

/-- Reads a tag with a handle or with the sign alone. -/
def shorthandTag? (c : Cursor) : Option (Token × Cursor) := do
  let (name, behind) := (c.advance 1).eatWhile isWordChar
  if behind.at? '!' then
    let (suffix, c) ← tagChars false behind.text.length (behind.advance 1)
    if suffix = [] then none
    else return (.tag (String.ofList ('!' :: name ++ ['!'])) (untilZero suffix), c)
  else
    let (more, c) ← tagChars false behind.text.length behind
    let suffix := untilZero (name.map Char.toUInt8 ++ more)
    if suffix = [] then return (.tag "" ['!'.toUInt8], c) else return (.tag "!" suffix, c)

/-- Reads a tag, which a blank has to follow, or a comma inside brackets. -/
def tag? (flow : Bool) (c : Cursor) : Option (Token × Cursor) := do
  let (t, c) ← if c.peek 1 = some '<' then verbatimTag? (c.advance 2) else shorthandTag? c
  if isGapOrEnd (c.peek 0) ∨ (flow = true ∧ c.at? ',' = true) then return (t, c) else none

/-- A number of at most nine digits. -/
def versionNumber? (c : Cursor) : Option (Nat × Cursor) :=
  let (digits, c) := c.eatWhile Char.isDigit
  if digits ≠ [] ∧ digits.length ≤ 9 then
    some (digits.foldl (fun n d => n * 10 + (d.toNat - '0'.toNat)) 0, c)
  else none

/-- Reads the version behind the name of its directive. -/
def version? (c : Cursor) : Option (Token × Cursor) := do
  let (major, c) ← versionNumber? c.skipBlanks
  if c.at? '.' then
    let (minor, c) ← versionNumber? (c.advance 1)
    return (.versionDirective major minor, c)
  else none

/-- Reads a handle and what it stands for, behind the name of their directive. -/
def tagPair? (c : Cursor) : Option (Token × Cursor) := do
  let c := c.skipBlanks
  if !c.at? '!' then none
  let (name, behind) := (c.advance 1).eatWhile isWordChar
  if !behind.at? '!' && name ≠ [] then none
  let (handle, c) :=
    if behind.at? '!' then ('!' :: name ++ ['!'], behind.advance 1) else (['!'], behind)
  if !(c.peek 0).any isBlank then none
  let c := c.skipBlanks
  let (expansion, c) ← tagChars true c.text.length c
  if expansion = [] ∨ !isGapOrEnd (c.peek 0) then none
  return (.tagDirective (String.ofList handle) (untilZero expansion), c)

/-- Reads a directive with the rest of its line. -/
def directive? (c : Cursor) : Option (Token × Cursor) := do
  let (name, c) := (c.advance 1).eatWhile isWordChar
  if name = [] ∨ !isGapOrEnd (c.peek 0) then none
  let (t, c) ←
    if name = "YAML".toList then version? c
    else if name = "TAG".toList then tagPair? c
    else none
  let c ← Block.endOfHeader c
  return (t, c)

end Lexeme

/-! ## The scanner -/

/-- A place where a key may have started. -/
structure KeyPlace where
  /-- The number of tokens before it. -/
  tokens : Nat
  /-- Whether a key is the only thing that can stand there. -/
  required : Bool
  index : Nat
  line : Nat
  column : Nat

/-- The tokens so far, and what decides how to go on. -/
structure Scanner where
  cursor : Cursor
  /-- The indentation of the innermost open block, `-1` without one. -/
  indent : Int
  /-- The indentations around it. -/
  outer : List Int
  /-- For each open bracket, innermost first, and for the text around all brackets, the place where
  a key may have started. -/
  keys : List (Option KeyPlace)
  /-- Whether a key may start at the cursor. -/
  keyAllowed : Bool
  /-- The tokens so far, the last one first. -/
  reversed : List Token
  /-- Their number. -/
  count : Nat

namespace Scanner

/-- The scanner at the start of a text. -/
def start (text : List Char) : Scanner :=
  ⟨.ofText text, -1, [], [none], true, [], 0⟩

/-- Whether a bracket is open. -/
def inFlow (s : Scanner) : Bool :=
  1 < s.keys.length

/-- The column of the cursor. -/
def column (s : Scanner) : Int :=
  s.cursor.column

/-- Adds a token. -/
def push (s : Scanner) (t : Token) : Scanner :=
  { s with reversed := t :: s.reversed, count := s.count + 1 }

/-- Adds a token behind the first so many. -/
def insertAt (s : Scanner) (n : Nat) (t : Token) : Scanner :=
  let behind := s.count - n
  { s with
    reversed := s.reversed.take behind ++ t :: s.reversed.drop behind
    count := s.count + 1 }

/-- Puts the cursor elsewhere. -/
def goTo (s : Scanner) (c : Cursor) : Scanner :=
  { s with cursor := c }

/-- Says whether a key may start from here on. -/
def allowKey (s : Scanner) (allowed : Bool) : Scanner :=
  { s with keyAllowed := allowed }

/-- Adds a token for the next so many characters. -/
def take (s : Scanner) (n : Nat) (t : Token) : Scanner :=
  (s.push t).goTo (s.cursor.advance n)

/-- Forgets the place of a key, which must not be one where a key is required. -/
def dropKey (s : Scanner) : Option Scanner :=
  match s.keys with
  | some place :: rest => if place.required then none else some { s with keys := none :: rest }
  | _ => some s

/-- Notes that a key may start at the cursor. -/
def noteKey (s : Scanner) : Option Scanner :=
  let c := s.cursor
  let place : KeyPlace := ⟨s.count, !s.inFlow && s.indent = s.column, c.index, c.line, c.column⟩
  if s.keyAllowed then
    s.dropKey.map fun t => { t with keys := some place :: t.keys.drop 1 }
  else some s

/-- Whether a key that started at a place can no longer be one: a key stands on one line and takes
at most 1024 bytes. -/
def isStale (c : Cursor) (place : KeyPlace) : Bool :=
  place.line < c.line || place.index + 1024 < c.index

/-- Forgets the places of keys that can no longer be ones. -/
def dropStaleKeys (s : Scanner) : Option Scanner :=
  let stale (k : Option KeyPlace) : Bool := k.any (isStale s.cursor)
  if s.keys.any fun k => stale k && k.any KeyPlace.required then none
  else some { s with keys := s.keys.map fun k => if stale k then none else k }

/-- Opens a block at a column that is deeper than the innermost block, with a token behind the first
so many. -/
def openBlock (s : Scanner) (column : Int) (n : Nat) (t : Token) : Scanner :=
  if !s.inFlow && s.indent < column then
    { s.insertAt n t with indent := column, outer := s.indent :: s.outer }
  else s

/-- Closes the blocks that are deeper than a column; there are at most so many. -/
def closeBlocksFrom (column : Int) : List Int → Scanner → Scanner
  | [], s => s
  | around :: outer, s =>
    if column < s.indent then
      closeBlocksFrom column outer { s.push .blockEnd with indent := around, outer }
    else s

/-- Closes the blocks that are deeper than a column. -/
def closeBlocks (s : Scanner) (column : Int) : Scanner :=
  if s.inFlow then s else closeBlocksFrom column s.outer s

/-- Reads blanks, comments and line breaks up to the next token.  A byte order mark may start a
line, where it takes a column, and a tab does not count as a blank where a key may start. -/
def skipToToken : Nat → Scanner → Scanner
  | 0, s => s
  | fuel + 1, s =>
    let tabs := s.inFlow || !s.keyAllowed
    let c := (s.cursor.skipMark.eatWhile fun ch => ch = ' ' || (tabs && ch = '\t')).2
    let c := if c.at? '#' then c.skipLineRest else c
    match c.eatBreak? with
    | some (_, c) => skipToToken fuel ((s.goTo c).allowKey (s.keyAllowed || !s.inFlow))
    | none => s.goTo c

/-- The end of the text: all blocks are closed. -/
def finish (s : Scanner) : Option Scanner :=
  (s.closeBlocks (-1)).dropKey

/-- A mark between documents. -/
def documentMark (s : Scanner) (t : Token) : Option Scanner :=
  (s.closeBlocks (-1)).dropKey.map fun s => (s.allowKey false).take 3 t

/-- A directive. -/
def directive (s : Scanner) : Option Scanner := do
  let s ← (s.closeBlocks (-1)).dropKey
  let (t, c) ← Lexeme.directive? s.cursor
  return ((s.allowKey false).push t).goTo c

/-- An open bracket. -/
def openFlow (s : Scanner) (t : Token) : Option Scanner :=
  s.noteKey.map fun s => ({ s with keys := none :: s.keys }.allowKey true).take 1 t

/-- A closing bracket. -/
def closeFlow (s : Scanner) (t : Token) : Option Scanner :=
  s.dropKey.map fun s =>
    let keys := if s.inFlow then s.keys.drop 1 else s.keys
    ({ s with keys }.allowKey false).take 1 t

/-- A comma inside brackets. -/
def flowEntry (s : Scanner) : Option Scanner :=
  s.dropKey.map fun s => (s.allowKey true).take 1 .flowEntry

/-- The dash of an entry. -/
def blockEntry (s : Scanner) : Option Scanner :=
  if !s.inFlow && !s.keyAllowed then none
  else
    (s.openBlock s.column s.count .blockSequenceStart).dropKey.map fun s =>
      (s.allowKey true).take 1 .blockEntry

/-- The question mark of a key. -/
def keyMark (s : Scanner) : Option Scanner :=
  if !s.inFlow && !s.keyAllowed then none
  else
    (s.openBlock s.column s.count .blockMappingStart).dropKey.map fun s =>
      (s.allowKey (!s.inFlow)).take 1 .key

/-- The colon of a value.  If a key may have started before it, that is one now. -/
def valueMark (s : Scanner) : Option Scanner :=
  match s.keys with
  | some place :: rest =>
    let t := { s.insertAt place.tokens .key with keys := none :: rest }
    let t := t.openBlock place.column place.tokens .blockMappingStart
    some ((t.allowKey false).take 1 .value)
  | _ =>
    if !s.inFlow && !s.keyAllowed then none
    else
      let t := s.openBlock s.column s.count .blockMappingStart
      some ((t.allowKey (!s.inFlow)).take 1 .value)

/-- An anchor or an alias. -/
def name (s : Scanner) (make : String → Token) : Option Scanner := do
  let s ← s.noteKey
  let (name, c) ← Lexeme.anchorName? s.cursor
  return ((s.allowKey false).push (make name)).goTo c

/-- A tag. -/
def tag (s : Scanner) : Option Scanner := do
  let s ← s.noteKey
  let (t, c) ← Lexeme.tag? s.inFlow s.cursor
  return ((s.allowKey false).push t).goTo c

/-- A block of lines. -/
def block (s : Scanner) (literal : Bool) : Option Scanner := do
  let s ← s.dropKey
  let (text, c) ← Block.scan literal s.indent s.cursor
  return ((s.allowKey true).push (.scalar (String.ofList text) false)).goTo c

/-- A scalar between quotes. -/
def quoted (s : Scanner) (single : Bool) : Option Scanner := do
  let s ← s.noteKey
  let (text, c) ← Quoted.scan single s.cursor
  return ((s.allowKey false).push (.scalar (String.ofList text) false)).goTo c

/-- A scalar without quotes. -/
def plain (s : Scanner) : Option Scanner := do
  let s ← s.noteKey
  let found ← Plain.scan s.inFlow (s.indent + 1).toNat s.cursor
  return ((s.allowKey found.lineEnded).push (.scalar (String.ofList found.text) true)).goTo
    found.cursor

/-- The characters with which no plain scalar starts. -/
def indicators : List Char :=
  ['-', '?', ':', ',', '[', ']', '{', '}', '#', '&', '*', '!', '|', '>', '\'', '"', '%', '@', '`']

/-- Whether a plain scalar starts with a character, given the one behind it. -/
def startsPlain (flow : Bool) (c : Char) (next : Option Char) : Bool :=
  !(isBlank c || isBreak c || indicators.contains c) ||
    (c = '-' && !next.any isBlank) ||
    (!flow && (c = '?' || c = ':') && !isGapOrEnd next)

/-- Reads the token that starts with a character. -/
def token (s : Scanner) (c : Char) : Option Scanner :=
  let next := s.cursor.peek 1
  let flow := s.inFlow
  if c = '%' && s.column = 0 then s.directive
  else if s.cursor.atDocumentMark then
    s.documentMark (if c = '-' then .documentStart else .documentEnd)
  else if c = '[' then s.openFlow .flowSequenceStart
  else if c = '{' then s.openFlow .flowMappingStart
  else if c = ']' then s.closeFlow .flowSequenceEnd
  else if c = '}' then s.closeFlow .flowMappingEnd
  else if c = ',' then s.flowEntry
  else if c = '-' && isGapOrEnd next then s.blockEntry
  else if c = '?' && (flow || isGapOrEnd next) then s.keyMark
  else if c = ':' && (flow || isGapOrEnd next) then s.valueMark
  else if c = '*' then s.name .alias
  else if c = '&' then s.name .anchor
  else if c = '!' then s.tag
  else if c = '|' && !flow then s.block true
  else if c = '>' && !flow then s.block false
  else if c = '\'' then s.quoted true
  else if c = '"' then s.quoted false
  else if startsPlain flow c next then s.plain
  else none

/-- Reads tokens up to the end of the text. -/
def run : Nat → Scanner → Option Scanner
  | 0, _ => none
  | fuel + 1, s =>
    match (skipToToken (s.cursor.text.length + 1) s).dropStaleKeys with
    | none => none
    | some s =>
      let s := s.closeBlocks s.column
      match s.cursor.text with
      | [] => s.finish
      | c :: _ =>
        match s.token c with
        | none => none
        | some s => run fuel s

end Scanner

/-- The tokens of a text, `none` when it cannot be cut into tokens. -/
def Token.ofText? (text : List Char) : Option (List Token) :=
  if text.all isAllowed then
    (Scanner.run (text.length + 2) (.start text)).map fun s => s.reversed.reverse
  else none

end Yaml
end Orchestrator
