import Orchestrator.Environment
import Orchestrator.Text.Alphabetic

/-!
# Paths with variables in them

The path of a settings file may name environment variables and the home directory, as in a shell.

* `$NAME` and `${NAME}` stand for the value of a variable, which may be empty, `${NAME:-text}` for
  the text when the variable is not set, and `$$` for a dollar sign.  A variable that is not set is
  an error when no text stands in for it.
* A brace that is not closed, and a dollar sign before any other character, stand for themselves.
  Names are of letters, digits and underscores, or whatever stands between braces.
* A tilde alone or before a slash at the front stands for the home directory, unless it came out of
  a variable.

`expandPath` expands a path.
-/

namespace Orchestrator
namespace Shell

/-- A variable that is named and not set. -/
structure UnsetVariable where
  name : String
  deriving DecidableEq, Repr

/-- Whether a name without braces goes on with a character. -/
def isNameCharacter (c : Char) : Bool :=
  Text.isAlphanumeric c || c == '_'

/-- The text in front of the first colon that a dash follows, and the text behind the dash. -/
def splitFallback : List Char → Option (List Char × List Char)
  | ':' :: '-' :: fallback => some ([], fallback)
  | c :: cs => (splitFallback cs).map fun (name, fallback) => (c :: name, fallback)
  | [] => none

/-- The name and the text that stands in for the value, of what is between braces.  The name is not
empty when there is a text to stand in. -/
def splitBraced (inside : List Char) : List Char × Option (List Char) :=
  match splitFallback inside with
  | some (c :: name, fallback) => (c :: name, some fallback)
  | _ => (inside, none)

/-- What a variable between braces stands for. -/
def bracedValue (environment : Environment) (inside : List Char) :
    Except UnsetVariable (List Char) :=
  let (name, fallback) := splitBraced inside
  let name := String.ofList name
  match environment.valueOf? name, fallback with
  | none, none => .error ⟨name⟩
  | none, some fallback => .ok fallback
  | some value, _ => .ok value.toList

/-- What a variable without braces stands for. -/
def plainValue (environment : Environment) (name : List Char) :
    Except UnsetVariable (List Char) :=
  match environment.valueOf? (String.ofList name) with
  | some value => .ok value.toList
  | none => .error ⟨String.ofList name⟩

/-- What stands behind a dollar sign: the text that it gives, or the variable that is not set, and
the characters left. -/
def dollar (environment : Environment) (cs : List Char) :
    Except UnsetVariable (List Char) × List Char :=
  match cs with
  | '{' :: cs =>
    match cs.dropWhile (· ≠ '}') with
    | [] => (.ok ['$', '{'], cs)
    | _ :: rest => (bracedValue environment (cs.takeWhile (· ≠ '}')), rest)
  | '$' :: cs => (.ok ['$'], cs)
  | cs =>
    match cs.takeWhile isNameCharacter with
    | [] => (.ok ['$'], cs)
    | c :: name => (plainValue environment (c :: name), cs.dropWhile isNameCharacter)

theorem length_dropWhile_le (p : Char → Bool) (cs : List Char) :
    (cs.dropWhile p).length ≤ cs.length :=
  (List.dropWhile_sublist p).length_le

/-- What stands behind a dollar sign leaves no more than was there. -/
theorem length_dollar_le (environment : Environment) (cs : List Char) :
    (dollar environment cs).2.length ≤ cs.length := by
  unfold dollar
  split
  · rename_i cs
    have h := length_dropWhile_le (· ≠ '}') cs
    split
    · simp
    · rename_i heq
      rw [heq] at h
      simp only [List.length_cons] at h ⊢
      omega
  · simp
  · split
    · exact Nat.le_refl _
    · exact length_dropWhile_le _ _

/-- Expands the variables of a text. -/
def expandVariables (environment : Environment) :
    List Char → Except UnsetVariable (List Char)
  | [] => .ok []
  | c :: cs =>
    if c = '$' then
      match h : dollar environment cs with
      | (.error e, _) => .error e
      | (.ok text, rest) =>
        have shorter : rest.length ≤ cs.length := by
          have le := length_dollar_le environment cs
          rwa [h] at le
        (expandVariables environment rest).map (text ++ ·)
    else (expandVariables environment cs).map (c :: ·)
termination_by cs => cs.length
decreasing_by
  · exact Nat.lt_succ_of_le shorter
  · exact Nat.lt_succ_self _

/-- Expands a tilde at the front of a text. -/
def expandTilde (home : Option String) (cs : List Char) : List Char :=
  match home, cs with
  | some home, ['~'] => home.toList
  | some home, '~' :: '/' :: rest => home.toList ++ '/' :: rest
  | _, cs => cs

/-- Expands a path. -/
def expandPath (home : Option String) (environment : Environment) (path : String) :
    Except UnsetVariable String :=
  (expandVariables environment path.toList).map fun cs =>
    String.ofList (if path.toList.head? = some '~' then expandTilde home cs else cs)

end Shell
end Orchestrator
