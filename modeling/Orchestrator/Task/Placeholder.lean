import Orchestrator.Pattern.Combination
import Orchestrator.Text.Blank

/-!
# Placeholders

A placeholder is a key between braces, as in `{COMPILER}`.  The key has at least one character, and
neither braces nor blanks.  Replacement reads a text from left to right; a key that is not bound
stays as it is, and what a key is replaced by is not read again.

* `keyBetweenBraces?`: the key that an open brace starts, and the text behind its placeholder.
* `replacePlaceholders`: the replacement.
-/

namespace Orchestrator
namespace Placeholder

/-- Whether a character may stand in a key. -/
def isKeyChar (c : Char) : Bool :=
  c != '{' && c != '}' && !Text.isBlank c

/-- The key and the rest of the text, when the text behind an open brace completes a placeholder. -/
def keyBetweenBraces? (cs : List Char) : Option (List Char × List Char) :=
  match cs.takeWhile isKeyChar, cs.dropWhile isKeyChar with
  | k :: key, '}' :: rest => some (k :: key, rest)
  | _, _ => none

theorem length_lt_of_keyBetweenBraces? {cs key rest : List Char}
    (h : keyBetweenBraces? cs = some (key, rest)) : rest.length < cs.length := by
  have hlen : (cs.dropWhile isKeyChar).length ≤ cs.length :=
    (List.dropWhile_suffix isKeyChar).length_le
  unfold keyBetweenBraces? at h
  split at h
  · rename_i heq
    simp only [Option.some.injEq, Prod.mk.injEq] at h
    rw [heq, List.length_cons] at hlen
    rw [← h.2]
    omega
  · cases h

/-- What a placeholder becomes: the value bound to its key, or itself. -/
def expansion (binding : String → Option String) (key : List Char) : List Char :=
  match binding (String.ofList key) with
  | some value => value.toList
  | none => '{' :: key ++ ['}']

/-- Replaces the bound placeholders of a text, read from left to right. -/
def replaceAll (binding : String → Option String) : List Char → List Char
  | [] => []
  | c :: cs =>
    if c = '{' then
      match _h : keyBetweenBraces? cs with
      | some (key, rest) => expansion binding key ++ replaceAll binding rest
      | none => c :: replaceAll binding cs
    else c :: replaceAll binding cs
termination_by cs => cs.length
decreasing_by
  · have := length_lt_of_keyBetweenBraces? _h
    simp only [List.length_cons]
    omega
  · simp
  · simp

end Placeholder

/-- Replaces the placeholders of a text that a combination binds. -/
def replacePlaceholders (c : Combination) (text : String) : String :=
  String.ofList (Placeholder.replaceAll c.get? text.toList)

end Orchestrator
