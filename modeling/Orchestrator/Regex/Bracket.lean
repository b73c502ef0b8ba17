import Orchestrator.Regex.Escape

/-!
# Classes between brackets

A class lists characters, ranges and other classes.  Classes may stand inside of classes, and two
equal signs between two parts of a class intersect them or take one from the other.

* `readBracketed`: a class between brackets.
-/

namespace Orchestrator
namespace Regex

/-- The items of a class so far, and their place. -/
structure ItemList where
  items : List SetItem
  span : Span
  deriving Repr

namespace ItemList

/-- No items, at a place. -/
def none (p : Position) : ItemList := ⟨[], .point p⟩

/-- One more item. -/
def push (l : ItemList) (i : SetItem) : ItemList :=
  ⟨l.items ++ [i], if l.items.isEmpty then i.span else l.span.through i.span⟩

/-- The items as one. -/
def toItem (l : ItemList) : SetItem :=
  match l.items with
  | [] => .empty l.span
  | [i] => i
  | is => .union is l.span

end ItemList

/-- What waits for the end of a part of a class. -/
inductive BracketFrame where
  /-- A class that is open, with the items before it and the place of its opening. -/
  | opened (before : ItemList) (negated : Bool) (span : Span)
  /-- An operator, with the class at its left side. -/
  | operator (operator : SetOperator) (left : SetItem)
  deriving Repr

/-- The fault of a class that is not closed: the innermost one is shown. -/
def unclosed (frames : List BracketFrame) (c : Cursor) : Fault :=
  let opening := frames.findSome? fun f => match f with
    | .opened _ _ span => some span
    | .operator _ _ => none
  ⟨.classUnclosed, opening.getD c.here, none⟩

/-- Dashes at the start of a class, which stand for themselves.  The first parameter is the place
of the opening bracket. -/
def readDashes (start : Position) : Nat → ItemList → Cursor → Reading ItemList
  | 0, l, c => .ok (l, c)
  | fuel + 1, l, c =>
    match c.next? with
    | none => refuse .classUnclosed (.point start)
    | some '-' => readDashes start fuel (l.push (.literal ⟨'-', false, c.charSpan⟩)) c.step
    | some _ => .ok (l, c)

/-- Opens a class: whether it is negated, the place of its opening, and the items that may only
stand at the start of a class.  The cursor stands at the bracket. -/
def openClass (c : Cursor) : Reading (Bool × Span × ItemList) :=
  let start := c.position
  let c := c.step
  let negated := c.next? == some '^'
  let c := if negated then c.step else c
  if c.next?.isNone then refuse .classUnclosed (c.since start)
  else
    (readDashes start (c.rest.length + 1) (.none c.position) c).bind fun (l, c) =>
      if l.items.isEmpty && c.next? == some ']' then
        let behind := c.step
        if behind.next?.isNone then refuse .classUnclosed (behind.since start)
        else
          .ok ((negated, behind.since start, l.push (.literal ⟨']', false, c.charSpan⟩)), behind)
      else .ok ((negated, c.since start, l), c)

/-- The classes of ASCII characters, by their names. -/
def asciiNames : List (String × AsciiClass) :=
  [("alnum", .alnum), ("alpha", .alpha), ("ascii", .ascii), ("blank", .blank), ("cntrl", .cntrl),
   ("digit", .digit), ("graph", .graph), ("lower", .lower), ("print", .print), ("punct", .punct),
   ("space", .space), ("upper", .upper), ("word", .word), ("xdigit", .xdigit)]

/-- The class of ASCII characters that starts at the cursor, if one does. -/
def readAscii? (c : Cursor) : Option (SetItem × Cursor) :=
  (c.dropText? "[:").bind fun inside =>
    let (negated, named) := match inside.dropText? "^" with
      | some named => (true, named)
      | none => (false, inside)
    let name := named.rest.takeWhile (· ≠ ':')
    ((named.advanceBy name.length).dropText? ":]").bind fun behind =>
      (asciiNames.lookup (String.ofList name)).map fun cls =>
        (.ascii cls negated (behind.since c.position), behind)

/-- One part of a range, or an item of its own. -/
def readPart (c : Cursor) : Reading Syntax :=
  match c.next? with
  | some '\\' => readEscape c
  | some ch => .ok (.literal ⟨ch, false, c.charSpan⟩, c.advance)
  | none => refuse .classUnclosed c.here

/-- A part as an item of a class. -/
def itemOf : Syntax → Except Fault SetItem
  | .literal l => .ok (.literal l)
  | .short cls negated span => .ok (.short cls negated span)
  | .property name negated span => .ok (.property name negated span)
  | e => refuse .classEscape e.span

/-- A part as the bound of a range. -/
def boundOf : Syntax → Except Fault Literal
  | .literal l => .ok l
  | e => refuse .classRangeBound e.span

/-- The range between two parts. -/
def rangeOf (first last : Syntax) : Except Fault SetItem := do
  let a ← boundOf first
  let b ← boundOf last
  if a.char ≤ b.char then return .range a b
  else refuse .classRange (first.span.through last.span)

/-- An item or a range of a class. -/
def readItem (frames : List BracketFrame) (c : Cursor) : Reading SetItem :=
  (readPart c).bind fun (first, c) =>
    let c := c.skipBlanks
    match c.next? with
    | none => .error (unclosed frames c)
    | some ch =>
      let behind := c.secondAfterBlanks?
      if ch ≠ '-' || behind = some ']' || behind = some '-' then
        (itemOf first).map fun i => (i, c)
      else
        let c := c.step
        if c.next?.isNone then .error (unclosed frames c)
        else (readPart c).bind fun (last, c) => (rangeOf first last).map fun i => (i, c)

/-- Ends the right side of an operator, if an operator waits for it. -/
def closeOperator (frames : List BracketFrame) (right : SetItem) :
    SetItem × List BracketFrame :=
  match frames with
  | .operator o left :: frames => (.operation o left right (left.span.through right.span), frames)
  | frames => (right, frames)

/-- The operator that two equal signs stand for. -/
def operator? : Char → Option SetOperator
  | '&' => some .intersection
  | '-' => some .difference
  | '~' => some .symmetricDifference
  | _ => none

/-- Reads on in a class.  The cursor stands at the opening bracket when nothing is open yet; the
first parameter bounds the number of parts. -/
def readClass : Nat → List BracketFrame → ItemList → Cursor → Reading Syntax
  | 0, frames, _, c => .error (unclosed frames c)
  | fuel + 1, frames, l, c =>
    let c := c.skipBlanks
    match c.next? with
    | none => .error (unclosed frames c)
    | some '[' =>
      match if frames.isEmpty then none else readAscii? c with
      | some (i, c) => readClass fuel frames (l.push i) c
      | none =>
        (openClass c).bind fun ((negated, span, inner), c) =>
          readClass fuel (.opened l negated span :: frames) inner c
    | some ']' =>
      let (item, frames) := closeOperator frames l.toItem
      let behind := c.advance
      match frames with
      | .opened before negated span :: frames =>
        let span := behind.since span.first
        if frames.isEmpty then .ok (.bracketed item negated span, behind)
        else readClass fuel frames (before.push (.bracketed item negated span)) behind
      | frames => .error (unclosed frames c)
    | some ch =>
      match if c.second? = some ch then operator? ch else none with
      | some o =>
        let behind := c.advanceBy 2
        let (left, frames) := closeOperator frames l.toItem
        readClass fuel (.operator o left :: frames) (.none behind.position) behind
      | none =>
        (readItem frames c).bind fun (i, c) => readClass fuel frames (l.push i) c

/-- Reads a class between brackets; the cursor stands at the opening one. -/
def readBracketed (c : Cursor) : Reading Syntax :=
  readClass (c.rest.length + 1) [] (.none c.position) c

end Regex
end Orchestrator
