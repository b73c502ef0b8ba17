import Orchestrator.Regex.Bracket
import Orchestrator.Text.Alphabetic

/-!
# Reading whole expressions

An expression is a list of alternatives, each of them a list of parts: characters, classes,
assertions, groups, and repetitions of the part before.

* `readSyntax`: an expression as it is written, or what is wrong with it.
-/

namespace Orchestrator
namespace Regex

/-! ## Groups -/

/-- The flags of a group that were read so far, each with its place. -/
structure FlagReader where
  changes : List (Flag × Bool × Span)
  /-- The place of the sign that negates the flags behind it. -/
  negation : Option Span
  /-- Whether that sign was read last. -/
  isDangling : Bool

/-- The flags, by their letters. -/
def flagLetters : List (Char × Flag) :=
  [('i', .anyCase), ('m', .manyLines), ('s', .dotAll), ('U', .swapped), ('u', .unicode),
   ('R', .carriageReturn), ('x', .verbose)]

namespace FlagReader

/-- Nothing read. -/
def empty : FlagReader := ⟨[], none, false⟩

/-- One more character. -/
def take (r : FlagReader) (ch : Char) (span : Span) : Except Fault FlagReader :=
  if ch = '-' then
    match r.negation with
    | some other => .error ⟨.flagNegatedTwice, span, some other⟩
    | none => .ok { r with negation := some span, isDangling := true }
  else
    match flagLetters.lookup ch with
    | none => refuse .flagUnknown span
    | some f =>
      match r.changes.lookup f with
      | some (_, other) => .error ⟨.flagDuplicate, span, some other⟩
      | none =>
        .ok { r with changes := r.changes ++ [(f, r.negation.isNone, span)], isDangling := false }

/-- The changes that were read. -/
def finish (r : FlagReader) : Except Fault FlagChanges :=
  match r.isDangling, r.negation with
  | true, some span => refuse .flagDangling span
  | _, _ => .ok (r.changes.map fun (f, value, _) => (f, value))

end FlagReader

/-- Reads flags up to the colon or the parenthesis that ends them. -/
def readFlags : Nat → FlagReader → Cursor → Reading FlagChanges
  | 0, _, c => refuse .flagUnfinished c.here
  | fuel + 1, r, c =>
    match c.next? with
    | none => refuse .flagUnfinished c.here
    | some ch =>
      if ch = ':' || ch = ')' then r.finish.map fun changes => (changes, c)
      else
        (r.take ch c.charSpan).bind fun r =>
          if c.advance.next?.isNone then refuse .flagUnfinished c.advance.here
          else readFlags fuel r c.advance

/-- Whether a character may stand in the name of a group. -/
def isNameCharacter (isFirst : Bool) (c : Char) : Bool :=
  if isFirst then c = '_' || Text.isAlphabetic c
  else ['_', '.', '[', ']'].contains c || Text.isAlphanumeric c

/-- The name of a group and its place; the cursor stands behind the sign that opens it, and then
behind the sign that closes it. -/
def readGroupName (c : Cursor) : Reading (List Char × Span) :=
  let name := c.rest.takeWhile (· ≠ '>')
  let good := (name.take 1).takeWhile (isNameCharacter true) ++
    (name.drop 1).takeWhile (isNameCharacter false)
  let good := if (name.take 1).all (isNameCharacter true) then good else []
  let stop := c.advanceBy good.length
  match stop.next? with
  | none => refuse .groupNameUnclosed stop.here
  | some '>' =>
    if good.isEmpty then refuse .groupNameEmpty c.here
    else .ok ((good, stop.since c.position), stop.advance)
  | some _ => refuse .groupNameInvalid stop.charSpan

/-- What a parenthesis starts. -/
inductive Opening where
  /-- Flags for what follows. -/
  | flags (changes : FlagChanges)
  /-- A group, of which is noted where it was found or not, with its name and the place of the name,
  if it has one. -/
  | group (isNoted : Bool) (changes : FlagChanges) (name : Option (List Char × Span))

/-- The signs of expressions that look ahead or back. -/
def lookAroundSigns : List String := ["?=", "?!", "?<=", "?<!"]

/-- Reads what a parenthesis starts; the cursor stands at the parenthesis. -/
def readOpening (c : Cursor) : Reading Opening :=
  let span := c.charSpan
  let inside := c.step
  match lookAroundSigns.findSome? inside.dropText? with
  | some behind => refuse .lookAround (behind.since c.position)
  | none =>
    match (inside.dropText? "?P<").or (inside.dropText? "?<"), inside.dropText? "?" with
    | some named, _ =>
      (readGroupName named).map fun (name, c) => (.group true [] (some name), c)
    | none, none => .ok (.group true [] none, inside)
    | none, some behind =>
      if behind.next?.isNone then refuse .groupUnclosed span
      else
        (readFlags (behind.rest.length + 1) .empty behind).bind fun (changes, c) =>
          if c.next? = some ')' then
            if changes.isEmpty then refuse .repetitionOfNothing inside.here
            else .ok (.flags changes, c.advance)
          else .ok (.group false changes none, c.advance)

/-! ## Expressions -/

/-- The parts of an alternative so far. -/
structure PartList where
  parts : List Syntax
  start : Position
  deriving Repr

namespace PartList

/-- No parts, at a place. -/
def none (p : Position) : PartList := ⟨[], p⟩

/-- One more part. -/
def push (l : PartList) (e : Syntax) : PartList := { l with parts := l.parts ++ [e] }

/-- The parts as one, when they end at a place. -/
def toSyntax (l : PartList) (last : Position) : Syntax :=
  match l.parts with
  | [] => .empty ⟨l.start, last⟩
  | [e] => e
  | es => .concatenation es ⟨l.start, last⟩

end PartList

/-- What waits for the end of a part of an expression. -/
inductive Frame where
  /-- A group that is open, with the parts before it and whether blanks counted there. -/
  | group (before : PartList) (isNoted : Bool) (changes : FlagChanges) (span : Span)
    (wasVerbose : Bool)
  /-- The alternatives before the one that is read. -/
  | branches (start : Position) (branches : List Syntax)
  deriving Repr

/-- How far an expression is read. -/
structure Reader where
  cursor : Cursor
  parts : PartList
  frames : List Frame
  /-- The names of the groups, with their places. -/
  names : List (List Char × Span)

namespace Reader

/-- Before the first character. -/
def start (expression : List Char) : Reader :=
  ⟨.start expression, .none .start, [], []⟩

/-- One more part, and the place behind it. -/
def push (r : Reader) (e : Syntax) (c : Cursor) : Reader :=
  { r with parts := r.parts.push e, cursor := c }

/-- Notes the name of a group, which may not have been noted before. -/
def addName (r : Reader) (name : List Char) (span : Span) : Except Fault Reader :=
  match r.names.lookup name with
  | some other => .error ⟨.groupNameDuplicate, span, some other⟩
  | none => .ok { r with names := r.names ++ [(name, span)] }

/-- At an opening parenthesis. -/
def openGroup (r : Reader) : Except Fault Reader :=
  let c := r.cursor
  (readOpening c).bind fun (opening, behind) =>
    match opening with
    | .flags changes =>
      let isVerbose := (flagState? changes .verbose).getD c.isVerbose
      .ok (r.push (.flags changes (behind.since c.position)) { behind with isVerbose })
    | .group isNoted changes name =>
      let isVerbose := (flagState? changes .verbose).getD c.isVerbose
      let opened := { r with
        cursor := { behind with isVerbose }
        parts := .none behind.position
        frames := .group r.parts isNoted changes c.charSpan c.isVerbose :: r.frames }
      match name with
      | none => .ok opened
      | some (name, span) => opened.addName name span

/-- At a closing parenthesis. -/
def closeGroup (r : Reader) : Except Fault Reader :=
  let c := r.cursor
  let close (before : PartList) (isNoted : Bool) (changes : FlagChanges) (span : Span)
      (isVerbose : Bool) (body : Syntax) (frames : List Frame) : Reader :=
    let behind := { c.advance with isVerbose }
    { r with
      cursor := behind
      parts := before.push (.group isNoted changes body (behind.since span.first))
      frames }
  let last := r.parts.toSyntax c.position
  match r.frames with
  | .group before isNoted changes span isVerbose :: frames =>
    .ok (close before isNoted changes span isVerbose last frames)
  | .branches first branches :: .group before isNoted changes span isVerbose :: frames =>
    let body := .alternation (branches ++ [last]) (c.since first)
    .ok (close before isNoted changes span isVerbose body frames)
  | _ => refuse .groupUnopened c.charSpan

/-- At the sign between two alternatives. -/
def nextBranch (r : Reader) : Reader :=
  let c := r.cursor
  let branch := r.parts.toSyntax c.position
  let frames := match r.frames with
    | .branches first branches :: frames => .branches first (branches ++ [branch]) :: frames
    | frames => .branches r.parts.start [branch] :: frames
  { r with cursor := c.advance, parts := .none c.advance.position, frames }

/-- The part that a repetition repeats, and the parts before it. -/
def repeated? (r : Reader) : Option (Syntax × PartList) :=
  match r.parts.parts.getLast? with
  | none => none
  | some (.empty _) => none
  | some (.flags _ _) => none
  | some e => some (e, { r.parts with parts := r.parts.parts.dropLast })

/-- Repeats the last part. -/
def addRepetition (r : Reader) (e : Syntax) (before : PartList) (least : Nat)
    (most : Option Nat) (c : Cursor) : Reader :=
  { r with
    cursor := c
    parts := before.push (.repetition e least most (c.since e.span.first)) }

/-- Past the question mark behind a repetition, if there is one. -/
def skipLazy (c : Cursor) : Cursor :=
  if c.next? = some '?' then c.advance else c

/-- At a sign that repeats the part before it. -/
def repeatBySign (r : Reader) (least : Nat) (most : Option Nat) : Except Fault Reader :=
  match r.repeated? with
  | none => refuse .repetitionOfNothing r.cursor.here
  | some (e, before) => .ok (r.addRepetition e before least most (skipLazy r.cursor.advance))

/-- Reads the counts of a repetition; the cursor stands at the opening brace, and then at the
closing one. -/
def readCounts (c : Cursor) : Reading (Nat × Option Nat) :=
  let start := c.position
  let inside := c.step
  let unfinished (c : Cursor) : Reading (Nat × Option Nat) := refuse .countUnclosed (c.since start)
  if inside.next?.isNone then unfinished inside
  else
    let (least, c) := readCount inside
    match c.next? with
    | none => unfinished c
    | some ',' =>
      let c := c.step
      match c.next? with
      | none => unfinished c
      | some '}' => least.map fun n => ((n, none), c)
      | some _ =>
        least.bind fun n =>
          let (most, c) := readCount c
          most.map fun m => ((n, some m), c)
    | some _ => least.map fun n => ((n, some n), c)

/-- At an opening brace. -/
def repeatByCount (r : Reader) : Except Fault Reader :=
  let start := r.cursor.position
  match r.repeated? with
  | none => refuse .repetitionOfNothing r.cursor.here
  | some (e, before) =>
    (readCounts r.cursor).bind fun ((least, most), c) =>
      if c.next? ≠ some '}' then refuse .countUnclosed (c.since start)
      else
        let behind := skipLazy c.step
        if most.any (· < least) then refuse .countRange (behind.since start)
        else .ok (r.addRepetition e before least most behind)

/-- Reads the next part; the cursor stands at its first character. -/
def readPart (r : Reader) (ch : Char) : Except Fault Reader :=
  let c := r.cursor
  match ch with
  | '(' => r.openGroup
  | ')' => r.closeGroup
  | '|' => .ok r.nextBranch
  | '[' => (readBracketed c).map fun (e, c) => r.push e c
  | '?' => r.repeatBySign 0 (some 1)
  | '*' => r.repeatBySign 0 none
  | '+' => r.repeatBySign 1 none
  | '{' => r.repeatByCount
  | '\\' => (readEscape c).map fun (e, c) => r.push e c
  | '.' => .ok (r.push (.dot c.charSpan) c.advance)
  | '^' => .ok (r.push (.assertion .lineStart c.charSpan) c.advance)
  | '$' => .ok (r.push (.assertion .lineEnd c.charSpan) c.advance)
  | ch => .ok (r.push (.literal ⟨ch, false, c.charSpan⟩) c.advance)

/-- The expression, when nothing is left to read. -/
def finish (r : Reader) : Except Fault Syntax :=
  let last := r.parts.toSyntax r.cursor.position
  match r.frames with
  | [] => .ok last
  | [.branches first branches] =>
    .ok (.alternation (branches ++ [last]) (r.cursor.since first))
  | .branches _ _ :: .group _ _ _ span _ :: _ => refuse .groupUnclosed span
  | .group _ _ _ span _ :: _ => refuse .groupUnclosed span
  | .branches _ _ :: _ => refuse .groupUnclosed r.cursor.here

/-- Reads on to the end; the first parameter bounds the number of parts. -/
def run : Nat → Reader → Except Fault Syntax
  | 0, r => r.finish
  | fuel + 1, r =>
    let r := { r with cursor := r.cursor.skipBlanks }
    match r.cursor.next? with
    | none => r.finish
    | some ch => (r.readPart ch).bind (run fuel)

end Reader

/-! ## Depth -/

/-- How deep parts may lie inside of each other. -/
def depthLimit : Nat := 250

/-- Refuses a part that lies too deep. -/
def checkDepth (depth : Nat) (span : Span) : Except Fault Unit :=
  if depthLimit ≤ depth then refuse (.tooDeep depthLimit) span else .ok ()

mutual

/-- Refuses an item in which a part lies too deep. -/
def SetItem.checkDepth (depth : Nat) : SetItem → Except Fault Unit
  | .bracketed item _ span => do
    Regex.checkDepth depth span
    item.checkDepth (depth + 1)
  | .union items span => do
    Regex.checkDepth depth span
    checkItemDepths (depth + 1) items
  | .operation _ left right span => do
    Regex.checkDepth depth span
    left.checkDepth (depth + 1)
    right.checkDepth (depth + 1)
  | _ => .ok ()

/-- Refuses items in which a part lies too deep. -/
def checkItemDepths (depth : Nat) : List SetItem → Except Fault Unit
  | [] => .ok ()
  | i :: is => do
    i.checkDepth depth
    checkItemDepths depth is

end

mutual

/-- Refuses an expression in which a part lies too deep. -/
def Syntax.checkDepth (depth : Nat) : Syntax → Except Fault Unit
  | .bracketed item _ span => do
    Regex.checkDepth depth span
    item.checkDepth (depth + 1)
  | .repetition body _ _ span => do
    Regex.checkDepth depth span
    body.checkDepth (depth + 1)
  | .group _ _ body span => do
    Regex.checkDepth depth span
    body.checkDepth (depth + 1)
  | .alternation branches span => do
    Regex.checkDepth depth span
    checkDepths (depth + 1) branches
  | .concatenation parts span => do
    Regex.checkDepth depth span
    checkDepths (depth + 1) parts
  | _ => .ok ()

/-- Refuses expressions in which a part lies too deep. -/
def checkDepths (depth : Nat) : List Syntax → Except Fault Unit
  | [] => .ok ()
  | e :: es => do
    e.checkDepth depth
    checkDepths depth es

end

/-- Reads an expression. -/
def readSyntax (expression : List Char) : Except Fault Syntax := do
  let e ← (Reader.start expression).run (expression.length + 1)
  e.checkDepth 0
  return e

end Regex
end Orchestrator
