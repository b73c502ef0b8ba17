import Mathlib.Data.List.Basic
import Orchestrator.Text.Blank

/-!
# The words of a shell line

A POSIX shell cuts a line into words at the blanks that stand outside of quotes, and takes the
quotes away.

* Between single quotes every character stands for itself.
* Between double quotes a backslash takes its meaning from a dollar sign, a backquote, a double
  quote or a backslash behind it, and vanishes together with a line feed.  In front of any other
  character it stands for itself.
* Outside of quotes a backslash takes its meaning from any character behind it, and vanishes
  together with a line feed.
* Parts that touch are one word, so that two quotes with nothing between them are an empty word.

Some texts are more than words: those with a sign outside of quotes that means something else to a
shell, or may do so in some places, with an expansion between double quotes, or with quotes that are
not closed.  They are not read, and neither is a text with a NUL character.  Of the blanks, only
spaces and tabs are blanks in every locale, so that a text with another one outside of quotes is not
read either.

The reader takes one character after the other.  What it does with a word is said once, as the word
that grows by some characters, so that a reading of a piece of text is described by the characters
that the piece stands for.

* `LineReading.step`, `words?`: the reader.
* `LineReading.run_append`: reading one text behind another.
* `LineReading.run_eq_none_of_mem`: a NUL character is not read.
* `LineReading.run_plain`, `LineReading.run_single`, `LineReading.run_double`: **what stands for
  itself is read as itself**, outside of quotes and between them.
-/

namespace Orchestrator
namespace Shell

/-! ## The reader -/

/-- The blanks between words. -/
def wordBlanks : List Char := [' ', '\t']

/-- The signs that mean something else outside of quotes, or may do so in some places.  A closing
bracket, a dash or a comma may do so only behind one of them. -/
def reservedSigns : List Char :=
  ['\n', '|', '&', ';', '<', '>', '(', ')', '$', '`', '*', '?', '[', '#', '~', '=', '%', '!', '{',
    '}', '^']

/-- Whether a character stands for itself outside of quotes. -/
def IsPlain (c : Char) : Prop :=
  c ∉ ['\x00', '\'', '"', '\\'] ++ reservedSigns ∧ Text.isBlank c = false

instance (c : Char) : Decidable (IsPlain c) :=
  inferInstanceAs (Decidable (_ ∧ _))

/-- What the next character stands behind. -/
inductive Quotation where
  | bare
  | single
  | double
  /-- A backslash outside of quotes. -/
  | escaped
  /-- A backslash between double quotes. -/
  | escapedInDouble
  deriving DecidableEq, Repr

/-- How far the reading of a line has come. -/
structure LineReading where
  quotation : Quotation
  /-- The word that is being read. -/
  word : Option (List Char)
  /-- The words before it. -/
  words : List (List Char)
  deriving DecidableEq, Repr

namespace LineReading

/-- The reading of nothing. -/
def start : LineReading := ⟨.bare, none, []⟩

/-- The reading in other quotes. -/
def within (r : LineReading) (q : Quotation) : LineReading :=
  { r with quotation := q }

/-- The reading with more characters in its word, which begins with them if there was none. -/
def take (r : LineReading) (cs : List Char) : LineReading :=
  { r with word := some (r.word.getD [] ++ cs) }

/-- The reading with its word at an end. -/
def close (r : LineReading) : LineReading :=
  match r.word with
  | none => r
  | some w => { r with word := none, words := r.words ++ [w] }

/-- A character outside of quotes. -/
def stepBare (r : LineReading) (c : Char) : Option LineReading :=
  if wordBlanks.contains c then some r.close
  else if c = '\'' then some ((r.take []).within .single)
  else if c = '"' then some ((r.take []).within .double)
  else if c = '\\' then some (r.within .escaped)
  else if reservedSigns.contains c || Text.isBlank c then none
  else some (r.take [c])

/-- A character between double quotes. -/
def stepDouble (r : LineReading) (c : Char) : Option LineReading :=
  if c = '"' then some (r.within .bare)
  else if c = '\\' then some (r.within .escapedInDouble)
  else if c = '$' ∨ c = '`' then none
  else some (r.take [c])

/-- What a backslash and a character stand for between double quotes. -/
def behindBackslash (c : Char) : List Char :=
  if ['$', '`', '"', '\\'].contains c then [c] else ['\\', c]

/-- Reads a character, if it has its place in a word or between words. -/
def step (r : LineReading) (c : Char) : Option LineReading :=
  if c = '\x00' then none
  else
    match r.quotation with
    | .bare => r.stepBare c
    | .single => some (if c = '\'' then r.within .bare else r.take [c])
    | .double => r.stepDouble c
    | .escaped => some ((if c = '\n' then r else r.take [c]).within .bare)
    | .escapedInDouble => some ((if c = '\n' then r else r.take (behindBackslash c)).within .double)

/-- Reads characters in order. -/
def run (r : LineReading) (cs : List Char) : Option LineReading :=
  cs.foldlM step r

/-- The words of a reading, if no quotes are open. -/
def finish? (r : LineReading) : Option (List (List Char)) :=
  if r.quotation = .bare then some r.close.words else none

end LineReading

/-- The words of a line. -/
def words? (line : String) : Option (List String) :=
  ((LineReading.start.run line.toList).bind LineReading.finish?).map (·.map String.ofList)

/-- Three kinds of quotes in one word, and an empty one. -/
example : words? "cc -o 'a b'\"\\\"c\"\\ d ''" = some ["cc", "-o", "a b\"c d", ""] := by decide

/-- A redirection, an expansion and open quotes are no words. -/
example : words? "cc >log" = none ∧ words? "cc \"$CFLAGS\"" = none ∧ words? "cc 'a b" = none := by
  decide

namespace LineReading

variable {r : LineReading} {q : Quotation} {c : Char} {cs ds : List Char}

@[simp] theorem quotation_within (r : LineReading) (q : Quotation) :
    (r.within q).quotation = q := rfl

@[simp] theorem quotation_take (r : LineReading) (cs : List Char) :
    (r.take cs).quotation = r.quotation := rfl

theorem take_take (r : LineReading) (cs ds : List Char) :
    (r.take cs).take ds = r.take (cs ++ ds) := by
  simp [take]

/-- Going into quotes and out again leaves what was read between them. -/
theorem take_within_within (hr : r.quotation = .bare) (q : Quotation) (cs : List Char) :
    ((r.within q).take cs).within .bare = r.take cs := by
  obtain ⟨_, w, ws⟩ := r
  cases hr
  rfl

/-! ## Reading on -/

@[simp] theorem run_nil (r : LineReading) : r.run [] = some r := rfl

theorem run_cons (r : LineReading) (c : Char) (cs : List Char) :
    r.run (c :: cs) = (r.step c).bind fun r => r.run cs := rfl

theorem run_append (r : LineReading) (cs ds : List Char) :
    r.run (cs ++ ds) = (r.run cs).bind fun r => r.run ds := by
  rw [run, List.foldlM_append]
  rfl

theorem run_of_step {r' : LineReading} (h : r.step c = some r') : r.run (c :: cs) = r'.run cs := by
  rw [run_cons, h, Option.bind_some]

theorem run_append_of_run {r' : LineReading} (h : r.run cs = some r') :
    r.run (cs ++ ds) = r'.run ds := by
  rw [run_append, h, Option.bind_some]

/-- A text with a NUL character is not read. -/
theorem run_eq_none_of_mem (h : '\x00' ∈ cs) : r.run cs = none := by
  induction cs generalizing r with
  | nil => cases h
  | cons c cs ih =>
    rw [run_cons]
    rcases List.mem_cons.1 h with rfl | h
    · rfl
    · exact Option.bind_eq_none_iff.2 fun r' _ => ih h

/-! ## Characters that stand for themselves -/

theorem step_of_isPlain (hc : IsPlain c) (hr : r.quotation = .bare) :
    r.step c = some (r.take [c]) := by
  obtain ⟨hsign, hblank⟩ := hc
  have hspaces : wordBlanks.all Text.isBlank = true := by decide
  have hword : c ∉ wordBlanks :=
    fun h => Bool.false_ne_true (hblank.symm.trans (List.all_eq_true.1 hspaces c h))
  simp only [List.mem_append, List.mem_cons, List.not_mem_nil, or_false, not_or] at hsign
  obtain ⟨⟨hnul, hsingle, hdouble, hbackslash⟩, hreserved⟩ := hsign
  simp [step, stepBare, hr, hnul, hsingle, hdouble, hbackslash, hblank, hword, hreserved]

/-- Pieces of text that each stand for one character, in quotes that they do not leave, are read as
these characters. -/
theorem run_flatMap {f : Char → List Char}
    (h : ∀ c ∈ cs, ∀ r : LineReading, r.quotation = q → r.run (f c) = some (r.take [c]))
    (hr : r.quotation = q) (ds : List Char) :
    (r.take ds).run (cs.flatMap f) = some (r.take (ds ++ cs)) := by
  induction cs generalizing ds with
  | nil => simp
  | cons c cs ih =>
    have hc : (r.take ds).run (f c) = some (r.take (ds ++ [c])) := by
      rw [h c List.mem_cons_self (r.take ds) hr, take_take]
    rw [List.flatMap_cons, run_append_of_run hc,
      ih (fun d hd => h d (List.mem_cons_of_mem c hd)), List.append_assoc, List.singleton_append]

/-- Plain characters are read as themselves. -/
theorem run_plain (h : ∀ c ∈ cs, IsPlain c) (hne : cs ≠ []) (hr : r.quotation = .bare) :
    r.run cs = some (r.take cs) := by
  obtain ⟨c, cs, rfl⟩ := List.exists_cons_of_ne_nil hne
  have hstep : ∀ d ∈ cs, ∀ r : LineReading, r.quotation = .bare → r.run [d] = some (r.take [d]) :=
    fun d hd r hr => run_of_step (step_of_isPlain (h d (List.mem_cons_of_mem c hd)) hr)
  have hrest := run_flatMap hstep hr [c]
  rw [List.flatMap_singleton', List.singleton_append] at hrest
  rw [run_of_step (step_of_isPlain (h c List.mem_cons_self) hr), hrest]

/-- A text between quotes, each of its characters written as these quotes want it, is read as the
text, which may be empty. -/
theorem run_quoted {quote : Char} {f : Char → List Char}
    (hopen : r.step quote = some ((r.take []).within q))
    (hclose : ∀ r : LineReading, r.quotation = q → r.step quote = some (r.within .bare))
    (h : ∀ c ∈ cs, ∀ r : LineReading, r.quotation = q → r.run (f c) = some (r.take [c]))
    (hr : r.quotation = .bare) :
    r.run (quote :: cs.flatMap f ++ [quote]) = some (r.take cs) := by
  have hinside : ((r.take []).within q).run (cs.flatMap f) = some ((r.within q).take cs) :=
    run_flatMap (r := r.within q) h rfl []
  rw [List.cons_append, run_of_step hopen, run_append_of_run hinside, run_of_step (hclose _ rfl),
    run_nil, take_within_within hr]

/-- A text between single quotes is read as itself. -/
theorem run_single (hquote : '\'' ∉ cs) (hnul : '\x00' ∉ cs) (hr : r.quotation = .bare) :
    r.run ('\'' :: cs ++ ['\'']) = some (r.take cs) := by
  have hpieces : ∀ c ∈ cs, ∀ r : LineReading, r.quotation = .single →
      r.run [c] = some (r.take [c]) := by
    intro c hc r hr
    have hc' : c ≠ '\'' := fun h => hquote (h ▸ hc)
    have hc'' : c ≠ '\x00' := fun h => hnul (h ▸ hc)
    exact run_of_step (by simp [step, hr, hc', hc''])
  have hopen : r.step '\'' = some ((r.take []).within .single) := by
    simp [step, stepBare, wordBlanks, hr]
  have hrun := run_quoted hopen (fun r hr => by simp [step, hr]) hpieces hr
  rwa [List.flatMap_singleton'] at hrun

/-- A text between double quotes is read as itself, if each of its characters is written as double
quotes want it. -/
theorem run_double {f : Char → List Char}
    (h : ∀ c ∈ cs, ∀ r : LineReading, r.quotation = .double → r.run (f c) = some (r.take [c]))
    (hr : r.quotation = .bare) :
    r.run ('"' :: cs.flatMap f ++ ['"']) = some (r.take cs) := by
  have hopen : r.step '"' = some ((r.take []).within .double) := by
    simp [step, stepBare, wordBlanks, hr]
  exact run_quoted hopen (fun r hr => by simp [step, stepDouble, hr]) h hr

end LineReading
end Shell
end Orchestrator
