import Orchestrator.Text.Blank
import Orchestrator.Text.Category

/-!
# Characters that are not shown as themselves

A quoted text spells out the characters that could not be told apart on a screen: control, format
and private characters, those that are not assigned, all separators but the space, the marks and
other characters of the property `Grapheme_Extend`, which would join the character before them, and
three letters of the Hangul script that only fill a place.

* `isSpelledOut`: whether a character is one of them.
-/

namespace Orchestrator
namespace Text

namespace GeneralCategory

/-- Whether the characters of a category show nothing, or join the character before them. -/
def isInvisible : GeneralCategory → Bool
  | .control | .format | .surrogate | .privateUse | .unassigned => true
  | .spaceSeparator | .lineSeparator | .paragraphSeparator => true
  | .nonspacingMark | .enclosingMark => true
  | _ => false

end GeneralCategory

/-- The ranges of `Grapheme_Extend` whose characters are no marks, or marks that take space. -/
def joiningRanges : List (Nat × Nat) :=
  [(0x9be, 0x9be), (0x9d7, 0x9d7), (0xb3e, 0xb3e), (0xb57, 0xb57), (0xbbe, 0xbbe),
   (0xbd7, 0xbd7), (0xcc0, 0xcc0), (0xcc2, 0xcc2), (0xcc7, 0xcc8), (0xcca, 0xccb),
   (0xcd5, 0xcd6), (0xd3e, 0xd3e), (0xd57, 0xd57), (0xdcf, 0xdcf), (0xddf, 0xddf),
   (0x1715, 0x1715), (0x1734, 0x1734), (0x1b35, 0x1b35), (0x1b3b, 0x1b3b), (0x1b3d, 0x1b3d),
   (0x1b43, 0x1b44), (0x1baa, 0x1baa), (0x1bf2, 0x1bf3), (0x200c, 0x200c), (0x302e, 0x302f),
   (0xa953, 0xa953), (0xa9c0, 0xa9c0), (0xff9e, 0xff9f), (0x111c0, 0x111c0), (0x11235, 0x11235),
   (0x1133e, 0x1133e), (0x1134d, 0x1134d), (0x11357, 0x11357), (0x113b8, 0x113b8),
   (0x113c2, 0x113c2), (0x113c5, 0x113c5), (0x113c7, 0x113c9), (0x113cf, 0x113cf),
   (0x114b0, 0x114b0), (0x114bd, 0x114bd), (0x115af, 0x115af), (0x116b6, 0x116b6),
   (0x11930, 0x11930), (0x1193d, 0x1193d), (0x11f41, 0x11f41), (0x16ff0, 0x16ff1),
   (0x1d165, 0x1d166), (0x1d16d, 0x1d172), (0xe0020, 0xe007f)]

/-- The letters that fill the place of a vowel, of a syllable, and of half a syllable. -/
def fillers : List Nat := [0x1160, 0x3164, 0xffa0]

/-- Whether a character is spelled out between quotes. -/
def isSpelledOut (c : Char) : Bool :=
  if c.toNat < 0x80 then c < ' ' || c = '\x7f'
  else
    (generalCategory c).isInvisible || inRanges joiningRanges c.toNat || fillers.contains c.toNat

end Text
end Orchestrator
