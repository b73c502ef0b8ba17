import Orchestrator.Task.Basic

/-!
# Arguments quoted for a shell

An argument is written as a shell word that can be pasted into any common shell.  It is cut into
chunks, each as long as one style of quoting can hold it.

* Without quotes stand ASCII letters, digits and a few signs.
* Between single quotes stands everything but the single quote, the backslash and the caret.
* Between double quotes stands everything but the backquote, the dollar sign, the exclamation mark
  and the caret; a double quote and a backslash get a backslash.
* A caret, which some shells expand even between quotes, stands only first in a chunk, and that
  chunk is between single quotes.

`Task.shellLine` is the task as one line; a NUL character fits into no word, so that a task with one
is written plainly.
-/

namespace Orchestrator
namespace Shell

/-- The styles of quoting that can hold a chunk. -/
structure Styles where
  bare : Bool
  single : Bool
  double : Bool
  deriving DecidableEq, Repr

namespace Styles

/-- Whether a style is left. -/
def any (s : Styles) : Bool :=
  s.bare || s.single || s.double

/-- The styles in both. -/
def inter (s t : Styles) : Styles :=
  ⟨s.bare && t.bare, s.single && t.single, s.double && t.double⟩

end Styles

/-- The signs that need no quotes. -/
def bareSigns : List Char := ['+', '-', '.', '/', ':', '@', ']', '_']

/-- The styles that can hold a character behind the first of a chunk. -/
def stylesOf (c : Char) : Styles where
  bare := c.isAlphanum || bareSigns.contains c
  single := !(['\'', '^', '\\'].contains c)
  double := !(['`', '$', '!', '^'].contains c)

/-- The styles that can hold a character at the start of a chunk. -/
def stylesOfFirst (c : Char) : Styles :=
  if c = '^' then ⟨false, true, false⟩ else stylesOf c

/-- The longest continuation of a chunk that some style can hold together with what is in the chunk
already: the styles left, the characters taken and the others. -/
def extendChunk (s : Styles) : List Char → Styles × List Char × List Char
  | [] => (s, [], [])
  | c :: cs =>
    if (s.inter (stylesOf c)).any then
      let (t, taken, rest) := extendChunk (s.inter (stylesOf c)) cs
      (t, c :: taken, rest)
    else (s, [], c :: cs)

theorem length_rest_extendChunk_le (s : Styles) (cs : List Char) :
    (extendChunk s cs).2.2.length ≤ cs.length := by
  induction cs generalizing s with
  | nil => simp [extendChunk]
  | cons c cs ih =>
    rw [extendChunk]
    split
    · exact Nat.le_succ_of_le (ih _)
    · simp

/-- A character between double quotes. -/
def escapeInDouble (c : Char) : List Char :=
  if c = '"' ∨ c = '\\' then ['\\', c] else [c]

/-- A chunk in the first style that can hold it. -/
def quoteChunk (s : Styles) (chunk : List Char) : List Char :=
  if s.bare then chunk
  else if s.single then '\'' :: chunk ++ ['\'']
  else '"' :: chunk.flatMap escapeInDouble ++ ['"']

/-- The chunks of a word, each quoted. -/
def quoteChunks : List Char → List Char
  | [] => []
  | c :: cs =>
    let chunk := extendChunk (stylesOfFirst c) cs
    quoteChunk chunk.1 (c :: chunk.2.1) ++ quoteChunks chunk.2.2
termination_by cs => cs.length
decreasing_by
  have := length_rest_extendChunk_le (stylesOfFirst c) cs
  simp only [List.length_cons]
  omega

/-- A text as a shell word. -/
def quoteWord (cs : List Char) : List Char :=
  if cs = [] then ['\'', '\''] else quoteChunks cs

/-- Texts as a line of shell words, with a space between any two. -/
def quoteWords (words : List (List Char)) : List Char :=
  [' '].intercalate (words.map quoteWord)

end Shell

namespace Task

/-- Whether an argument holds a NUL character. -/
def hasNul (t : Task) : Bool :=
  t.args.any fun arg => arg.toList.contains '\x00'

/-- The task as a line that can be pasted into a shell. -/
def shellLine (t : Task) : String :=
  if t.hasNul then t.render
  else String.ofList (Shell.quoteWords (t.args.map String.toList))

end Task
end Orchestrator
