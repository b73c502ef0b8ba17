import Orchestrator.Regex.CharacterSet

/-!
# The bytes of the characters of a set

A set of characters is read byte by byte.  Its code points make up ranges, and each range is cut
into forms: lists of ranges of bytes such that the encodings of the characters are just the lists
with one byte out of each range.

* `CodeRanges`: ranges of code points, and `CharacterSet.codeRanges`, those of a set.
* `ByteForm.ofCodes`: the forms of ranges of code points, in order.
* `ByteForm.countBackward`: how many states an automaton takes that reads the forms from the last
  byte to the first, when forms that start alike share the states of what is alike.
* `ByteForm.nodes`: the states of an automaton that reads the forms from the first byte to the last,
  when what may follow alike is one state.
-/

namespace Orchestrator
namespace Regex

/-! ## Ranges of code points -/

/-- Ranges of code points, ends included, in order and with gaps between them. -/
abbrev CodeRanges := List (Nat × Nat)

namespace CodeRanges

/-- The greatest code point. -/
def lastCode : Nat := 0x10ffff

/-- Makes one range of those that touch; they are in the order of their starts. -/
def join : List (Nat × Nat) → CodeRanges
  | [] => []
  | (a, b) :: rs =>
    match join rs with
    | (c, d) :: joined => if c ≤ b + 1 then (a, max b d) :: joined else (a, b) :: (c, d) :: joined
    | [] => [(a, b)]

/-- Some ranges, which may overlap and be in any order. -/
def ofRanges (rs : List (Nat × Nat)) : CodeRanges :=
  join (rs.mergeSort fun r s => r.1 ≤ s.1)

/-- The code points that lie in the ranges of one or another. -/
def union (a b : CodeRanges) : CodeRanges := ofRanges (a ++ b)

/-- The code points from one on that lie in no range. -/
def gapsFrom (n : Nat) : CodeRanges → CodeRanges
  | [] => if n ≤ lastCode then [(n, lastCode)] else []
  | (a, b) :: rs => (if n < a then [(n, a - 1)] else []) ++ gapsFrom (b + 1) rs

/-- The code points that lie in no range. -/
def complement (rs : CodeRanges) : CodeRanges := gapsFrom 0 rs

/-- The code points that lie in ranges of both. -/
def intersection (a b : CodeRanges) : CodeRanges :=
  complement (union (complement a) (complement b))

/-- The runs of a table of categories that a test picks; the first run starts at a code point. -/
def ofRuns (p : Text.GeneralCategory → Bool) (start : Nat) :
    List (Nat × Text.GeneralCategory) → List (Nat × Nat)
  | [] => []
  | (length, category) :: runs =>
    let rest := ofRuns p (start + length) runs
    if p category then (start, start + length - 1) :: rest else rest

/-- The code points of the categories that a test picks. -/
def ofCategories (p : Text.GeneralCategory → Bool) : CodeRanges :=
  join (ofRuns p 0 Text.categoryRuns)

/-- The code points that have others that are the same up to case. -/
def cased : List Nat :=
  Text.foldRuns.flatMap fun r =>
    (List.range ((r.last - r.first) / r.step + 1)).flatMap fun i =>
      let n := r.first + i * r.step
      [n, ((n : Int) + r.shift).toNat]

/-- Ranges, with the code points that are the same as one in them up to case. -/
def anyCase (rs : CodeRanges) : CodeRanges :=
  let found := cased.filter fun n =>
    (Text.caseVariants (Char.ofNat n)).any fun c => Text.inRanges rs c.toNat
  union rs (found.map fun n => (n, n))

end CodeRanges

/-- The code points of a set. -/
def CharacterSet.codeRanges : CharacterSet → CodeRanges
  | .ranges rs => .ofRanges rs
  | .categories gs => .ofCategories gs.contains
  | .alphabetic =>
    .union (.ofCategories fun g => g.isLetter || g = .letterNumber) Text.otherAlphabeticRanges
  | .word =>
    let inWords (g : Text.GeneralCategory) : Bool :=
      g.isLetter || g.isMark || g = .decimalNumber || g = .letterNumber ||
        g = .connectorPunctuation
    .ofRanges (CodeRanges.ofCategories inWords ++ circledRanges ++ [(0x200c, 0x200d)])
  | .blank => Text.blankRanges
  | .anyCase s => s.codeRanges.anyCase
  | .complement s => s.codeRanges.complement
  | .union a b => a.codeRanges.union b.codeRanges
  | .intersection a b => a.codeRanges.intersection b.codeRanges

/-! ## Forms -/

/-- A range for each byte of an encoding, the first byte first. -/
abbrev ByteForm := List (Nat × Nat)

namespace ByteForm

/-- How many characters have the same first bytes, when so many bytes are left. -/
def blockSize : Nat → Nat
  | 0 => 1
  | k + 1 => 64 * blockSize k

/-- The forms of a range of numbers that are written with a first byte, to which something is added,
and so many further bytes. -/
def ofNumbers : Nat → Nat → Nat → Nat → List ByteForm
  | 0, mark, a, b => [[(mark + a, mark + b)]]
  | k + 1, mark, a, b =>
    let size := blockSize (k + 1)
    let under (byte a b : Nat) : List ByteForm :=
      (ofNumbers k 0x80 a b).map ((mark + byte, mark + byte) :: ·)
    let first := a / size
    let last := b / size
    if first = last then under first (a % size) (b % size)
    else
      let startsBlock := a % size = 0
      let endsBlock := b % size = size - 1
      let low := if startsBlock then first else first + 1
      let high := if endsBlock then last + 1 else last
      (if startsBlock then [] else under first (a % size) (size - 1)) ++
        (if low < high then
          [(mark + low, mark + high - 1) :: List.replicate (k + 1) (0x80, 0xbf)]
        else []) ++
        (if endsBlock then [] else under last 0 (b % size))

/-- The code points that are written alike: the first and the last of them, the number of bytes
behind the first byte, and what is added to the first byte.  The halves of pairs are left out. -/
def encodings : List (Nat × Nat × Nat × Nat) :=
  [(0, 0x7f, 0, 0), (0x80, 0x7ff, 1, 0xc0), (0x800, 0xd7ff, 2, 0xe0), (0xe000, 0xffff, 2, 0xe0),
   (0x10000, 0x10ffff, 3, 0xf0)]

/-- The forms of a range of code points. -/
def ofRange (r : Nat × Nat) : List ByteForm :=
  encodings.flatMap fun (low, high, more, mark) =>
    if max r.1 low ≤ min r.2 high then ofNumbers more mark (max r.1 low) (min r.2 high) else []

/-- The forms of ranges of code points. -/
def ofCodes (rs : CodeRanges) : List ByteForm := rs.flatMap ofRange

/-! ## States -/

/-- How many bytes two forms have in common at the start. -/
def commonLength : ByteForm → ByteForm → Nat
  | r :: f, s :: g => if r = s then commonLength f g + 1 else 0
  | _, _ => 0

/-- How many different starts forms have, besides those of a form before them. -/
def countBackwardFrom (before : ByteForm) : List ByteForm → Nat
  | [] => 0
  | f :: fs => f.length - commonLength before f + countBackwardFrom f fs

/-- How many different starts forms have. -/
def countBackward (fs : List ByteForm) : Nat := countBackwardFrom [] fs

/-- Puts together the forms with the same first range. -/
def grouped : List ByteForm → List ((Nat × Nat) × List ByteForm)
  | [] => []
  | [] :: fs => grouped fs
  | (r :: f) :: fs =>
    match grouped fs with
    | (s, tails) :: groups =>
      if r = s then (s, f :: tails) :: groups else (r, [f]) :: (s, tails) :: groups
    | [] => [(r, [f])]

/-- A state: ranges of bytes, each with the number of the state to which it leads; the end has the
number zero. -/
abbrev Node := List ((Nat × Nat) × Nat)

/-- The number of a state among others, which it joins if it is not one of them.  The last state
comes first. -/
def number (node : Node) (nodes : List Node) : Nat × List Node :=
  match nodes.findIdx? (· = node) with
  | some i => (nodes.length - i, nodes)
  | none => (nodes.length + 1, node :: nodes)

/-- Adds the states of forms with at most so many bytes; the number of the first state comes with
them. -/
def addNodes : Nat → List ByteForm → List Node → Nat × List Node
  | 0, _, nodes => (0, nodes)
  | fuel + 1, fs, nodes =>
    let groups := grouped fs
    if groups.isEmpty then (0, nodes)
    else
      let (node, nodes) := groups.foldl (fun (acc : Node × List Node) g =>
        let (n, nodes) := addNodes fuel g.2 acc.2
        (acc.1 ++ [(g.1, n)], nodes)) ([], nodes)
      number node nodes

/-- The states of an automaton that reads forms. -/
def nodes (fs : List ByteForm) : List Node := (addNodes 5 fs []).2

end ByteForm
end Regex
end Orchestrator
