import Orchestrator.Regex.Property
import Orchestrator.Regex.Reader
import Orchestrator.Regex.Room

/-!
# The meaning of expressions

What is written is given a meaning part by part.  Flags change what the parts behind them mean, up
to the end of the group in which they stand.  Without the flag for Unicode, classes hold ASCII
characters only, and a class that could hold a part of the encoding of another one is refused.

* `Regex.ofText`: the expression that a text writes, or what is said about it.
-/

namespace Orchestrator
namespace Regex

/-- The flags that have to do with the meaning. -/
structure Flags where
  anyCase : Bool
  manyLines : Bool
  dotAll : Bool
  unicode : Bool
  carriageReturn : Bool
  deriving DecidableEq, Repr

namespace Flags

/-- The flags at the start. -/
def standard : Flags := ⟨false, false, false, true, false⟩

/-- The flags after some changes. -/
def change (f : Flags) (changes : FlagChanges) : Flags :=
  { anyCase := (flagState? changes .anyCase).getD f.anyCase
    manyLines := (flagState? changes .manyLines).getD f.manyLines
    dotAll := (flagState? changes .dotAll).getD f.dotAll
    unicode := (flagState? changes .unicode).getD f.unicode
    carriageReturn := (flagState? changes .carriageReturn).getD f.carriageReturn }

/-- A set, with the other case of its characters if that is asked for. -/
def cased (f : Flags) (s : CharacterSet) : CharacterSet :=
  if f.anyCase then if f.unicode then .anyCase s else .intersection (.anyCase s) .ascii else s

end Flags

/-! ## Classes -/

/-- The classes of ASCII characters. -/
def AsciiClass.set : AsciiClass → CharacterSet
  | .alnum => .ranges [(0x30, 0x39), (0x41, 0x5a), (0x61, 0x7a)]
  | .alpha => .ranges [(0x41, 0x5a), (0x61, 0x7a)]
  | .ascii => .ascii
  | .blank => .ofChars ['\t', ' ']
  | .cntrl => .ranges [(0, 0x1f), (0x7f, 0x7f)]
  | .digit => .ranges [(0x30, 0x39)]
  | .graph => .ranges [(0x21, 0x7e)]
  | .lower => .ranges [(0x61, 0x7a)]
  | .print => .ranges [(0x20, 0x7e)]
  | .punct => .ranges [(0x21, 0x2f), (0x3a, 0x40), (0x5b, 0x60), (0x7b, 0x7e)]
  | .space => .ranges [(0x09, 0x0d), (0x20, 0x20)]
  | .upper => .ranges [(0x41, 0x5a)]
  | .word => .ranges [(0x30, 0x39), (0x41, 0x5a), (0x5f, 0x5f), (0x61, 0x7a)]
  | .xdigit => .ranges [(0x30, 0x39), (0x41, 0x46), (0x61, 0x66)]

/-- The classes that a letter names. -/
def ShortClass.set (isUnicode : Bool) : ShortClass → CharacterSet
  | .digit => if isUnicode then .categories [.decimalNumber] else AsciiClass.digit.set
  | .space => if isUnicode then .blank else AsciiClass.space.set
  | .word => if isUnicode then .word else AsciiClass.word.set

/-- A class, negated if that is asked for. -/
def negate (f : Flags) (negated : Bool) (span : Span) (s : CharacterSet) :
    Except Fault CharacterSet :=
  if negated then
    if f.unicode then .ok (.complement s) else refuse .invalidEncoding span
  else .ok s

/-- A class with a property. -/
def propertyClass (f : Flags) (name : PropertyName) (negated : Bool) (span : Span) :
    Except Fault CharacterSet :=
  if f.unicode then
    match name.set with
    | .ok s => negate f negated span (f.cased s)
    | .error cause => refuse cause span
  else refuse .unicodeNotAllowed span

/-- Refuses a byte that is no character. -/
def checkByte (f : Flags) (l : Literal) : Except Fault Unit :=
  if !f.unicode && l.isByte && '\x7f' < l.char then refuse .invalidEncoding l.span else .ok ()

/-- A character in a class. -/
def classCharacter (f : Flags) (l : Literal) : Except Fault Char := do
  checkByte f l
  if !f.unicode && '\x7f' < l.char then refuse .unicodeNotAllowed l.span else return l.char

/-- Two classes joined by an operator. -/
def SetOperator.apply : SetOperator → CharacterSet → CharacterSet → CharacterSet
  | .intersection, a, b => .intersection a b
  | .difference, a, b => a.difference b
  | .symmetricDifference, a, b => a.symmetricDifference b

mutual

/-- The set of an item of a class. -/
def SetItem.set (f : Flags) : SetItem → Except Fault CharacterSet
  | .empty _ => .ok .none
  | .literal l => (classCharacter f l).map .single
  | .range first last => do
    let a ← classCharacter f first
    let b ← classCharacter f last
    return .between a b
  | .short cls negated span => negate f negated span (cls.set f.unicode)
  | .ascii cls negated span => negate f negated span (f.cased cls.set)
  | .property name negated span => propertyClass f name negated span
  | .bracketed item negated span => do
    let s ← item.set f
    negate f negated span (f.cased s)
  | .union items _ => itemSets f items
  | .operation o left right _ => do
    let a ← left.set f
    let b ← right.set f
    return o.apply (f.cased a) (f.cased b)

/-- The set of several items. -/
def itemSets (f : Flags) : List SetItem → Except Fault CharacterSet
  | [] => .ok .none
  | i :: is => do
    let a ← i.set f
    let b ← itemSets f is
    return .union a b

end

/-! ## Expressions -/

/-- A character by itself. -/
def literalMeaning (f : Flags) (l : Literal) : Except Fault Regex := do
  checkByte f l
  if f.anyCase && (f.unicode || l.char < '\x80') then return .set (f.cased (.single l.char))
  else return .set (.single l.char)

/-- A dot. -/
def dotMeaning (f : Flags) (span : Span) : Except Fault Regex :=
  if !f.unicode then refuse .invalidEncoding span
  else if f.dotAll then .ok (.set .all)
  else if f.carriageReturn then .ok (.set (.complement (.ofChars ['\r', '\n'])))
  else .ok (.set (.complement (.single '\n')))

/-- An assertion. -/
def assertionMeaning (f : Flags) : Assertion → Look
  | .lineStart => if f.manyLines then .lineStart f.carriageReturn else .textStart
  | .lineEnd => if f.manyLines then .lineEnd f.carriageReturn else .textEnd
  | .textStart => .textStart
  | .textEnd => .textEnd
  | .wordBoundary => .word .either !f.unicode
  | .noWordBoundary => .word .neither !f.unicode
  | .wordStart => .word .begins !f.unicode
  | .wordEnd => .word .ends !f.unicode
  | .wordStartHalf => .word .startHalf !f.unicode
  | .wordEndHalf => .word .endHalf !f.unicode

mutual

/-- The meaning of an expression, and the flags behind it. -/
def Syntax.meaning (f : Flags) : Syntax → Except Fault (Regex × Flags)
  | .empty _ => .ok (.empty, f)
  | .flags changes _ => .ok (.empty, f.change changes)
  | .literal l => (literalMeaning f l).map fun r => (r, f)
  | .dot span => (dotMeaning f span).map fun r => (r, f)
  | .assertion a _ => .ok (.look (assertionMeaning f a), f)
  | .short cls negated span => do
    let s ← negate f negated span (cls.set f.unicode)
    return (.set s, f)
  | .property name negated span => do
    let s ← propertyClass f name negated span
    return (.set s, f)
  | .bracketed item negated span => do
    let s ← item.set f
    let s ← negate f negated span (f.cased s)
    return (.set s, f)
  | .repetition body least most _ => do
    let (r, f) ← body.meaning f
    return (.repeated r least most, f)
  | .group isNoted changes body _ => do
    let (r, _) ← body.meaning (f.change changes)
    return (if isNoted then .group r else r, f)
  | .alternation branches _ => branchesMeaning f branches
  | .concatenation parts _ => partsMeaning f parts

/-- The meaning of parts that stand one behind the other. -/
def partsMeaning (f : Flags) : List Syntax → Except Fault (Regex × Flags)
  | [] => .ok (.empty, f)
  | e :: es => do
    let (a, f) ← e.meaning f
    let (b, f) ← partsMeaning f es
    return (.sequence a b, f)

/-- The meaning of alternatives. -/
def branchesMeaning (f : Flags) : List Syntax → Except Fault (Regex × Flags)
  | [] => .ok (.set .none, f)
  | [e] => e.meaning f
  | e :: es => do
    let (a, f) ← e.meaning f
    let (b, f) ← branchesMeaning f es
    return (.either a b, f)

end

/-- The expression that a text writes, or what is said about it. -/
def ofText (text : String) : Except String Regex :=
  match (readSyntax text.toList).bind fun e => e.meaning .standard with
  | .error fault => .error (fault.report text)
  | .ok (r, _) =>
    if r.fits then .ok r
    else .error s!"Compiled regex exceeds size limit of {sizeLimit} bytes."

end Regex
end Orchestrator
