/-!
# Two columns

Lists of names with a description each, the descriptions in a column.  The column stands behind the
longest name, whose length is counted in bytes of UTF-8; blanks are added by characters.

* `columnWidth`, `padTo`: the width of the first column, and a name filled up to it.
* `columnLine`: one line of the list.
-/

namespace Orchestrator
namespace Text

/-- The greatest length of a name, in bytes of UTF-8. -/
def columnWidth (names : List String) : Nat :=
  (names.map String.utf8ByteSize).foldr max 0

/-- A text filled up with spaces to so many characters. -/
def padTo (width : Nat) (s : String) : String :=
  s ++ String.ofList (List.replicate (width - s.length) ' ')

/-- A name and its description on one line. -/
def columnLine (width : Nat) (name description : String) : String :=
  "  " ++ padTo width name ++ "  " ++ description

end Text
end Orchestrator
