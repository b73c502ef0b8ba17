import Orchestrator.Text.Alphabetic
import Orchestrator.Text.CaseFold

/-!
# Sets of characters

* `CharacterSet`: the sets that an expression may name, and what is made of them.
* `CharacterSet.contains`: membership.
-/

namespace Orchestrator
namespace Regex

/-- A set of characters. -/
inductive CharacterSet where
  /-- The code points in some ranges, ends included. -/
  | ranges (ranges : List (Nat × Nat))
  | categories (categories : List Text.GeneralCategory)
  | alphabetic
  /-- The characters of which words consist. -/
  | word
  | blank
  /-- The characters that are in a set up to case. -/
  | anyCase (set : CharacterSet)
  | complement (set : CharacterSet)
  | union (a b : CharacterSet)
  | intersection (a b : CharacterSet)
  deriving DecidableEq, Repr

/-- The ranges of the characters in circles and squares with which words are written. -/
def circledRanges : List (Nat × Nat) :=
  [(0x24b6, 0x24e9), (0x1f130, 0x1f149), (0x1f150, 0x1f169), (0x1f170, 0x1f189)]

/-- Whether words consist of a character: of letters, marks, digits, signs that connect, and the two
signs that tell whether letters join. -/
def isWordCharacter (c : Char) : Bool :=
  if c.toNat < 0x80 then c.isAlphanum || c == '_'
  else
    let category := Text.generalCategory c
    category.isLetter || category.isMark || category = .decimalNumber ||
      category = .letterNumber || category = .connectorPunctuation ||
      Text.inRanges circledRanges c.toNat || c == '\u200c' || c == '\u200d'

namespace CharacterSet

/-- No character. -/
def none : CharacterSet := .ranges []

/-- All characters. -/
def all : CharacterSet := .complement .none

/-- The characters of ASCII. -/
def ascii : CharacterSet := .ranges [(0, 0x7f)]

/-- One character. -/
def single (c : Char) : CharacterSet := .ranges [(c.toNat, c.toNat)]

/-- The characters between two, ends included. -/
def between (a b : Char) : CharacterSet := .ranges [(a.toNat, b.toNat)]

/-- A few characters. -/
def ofChars (cs : List Char) : CharacterSet := .ranges (cs.map fun c => (c.toNat, c.toNat))

/-- The characters of a set that are not in another. -/
def difference (a b : CharacterSet) : CharacterSet := .intersection a (.complement b)

/-- The characters that are in one of two sets only. -/
def symmetricDifference (a b : CharacterSet) : CharacterSet :=
  .union (a.difference b) (b.difference a)

/-- Whether a character is in a set. -/
def contains : CharacterSet → Char → Bool
  | .ranges rs, c => Text.inRanges rs c.toNat
  | .categories gs, c => gs.contains (Text.generalCategory c)
  | .alphabetic, c => Text.isAlphabetic c
  | .word, c => isWordCharacter c
  | .blank, c => Text.isBlank c
  | .anyCase s, c => (Text.caseVariants c).any s.contains
  | .complement s, c => !s.contains c
  | .union a b, c => a.contains c || b.contains c
  | .intersection a b, c => a.contains c && b.contains c

@[simp] theorem contains_complement (s : CharacterSet) (c : Char) :
    (complement s).contains c = !s.contains c := rfl

@[simp] theorem contains_union (a b : CharacterSet) (c : Char) :
    (union a b).contains c = (a.contains c || b.contains c) := rfl

@[simp] theorem contains_intersection (a b : CharacterSet) (c : Char) :
    (intersection a b).contains c = (a.contains c && b.contains c) := rfl

/-- All characters are in the set of all. -/
@[simp] theorem contains_all (c : Char) : all.contains c = true := rfl

end CharacterSet
end Regex
end Orchestrator
