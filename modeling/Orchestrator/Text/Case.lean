/-!
# Texts without regard to case

* `sameIgnoringCase`: equality up to the case of ASCII letters.
-/

namespace Orchestrator
namespace Text

/-- Whether two texts are equal up to the case of ASCII letters. -/
def sameIgnoringCase (a b : String) : Bool :=
  a.toList.map Char.toLower = b.toList.map Char.toLower

end Text
end Orchestrator
