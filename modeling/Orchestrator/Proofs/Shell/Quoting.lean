import Orchestrator.Proofs.Shell.Words
import Orchestrator.Proofs.Text.Numeral
import Orchestrator.Shell.Quoting

/-!
# A task is read back from its shell line

The line of a task quotes every argument by itself.  An argument is cut into chunks, and a chunk is
written in one style: a style is left for a chunk as long as it can hold every character of it.  A
chunk that is written in a style that can hold it is read as what it was written from, and chunks
that touch are one word, so that an argument is read as one word however it was cut.  A blank ends
the word, and an argument without characters has quotes of its own.

A line that is read says what its words are, so that no two argument lists have one line.

* `Styles.Hold`: the characters that the styles left can hold.
* `isChunk_extendChunk`: what is left for a chunk can hold every character of it.
* `LineReading.run_quoteChunk`, `LineReading.run_quoteWord`, `LineReading.finish?_quoteWords`: a
  chunk, an argument and a list of arguments are read back.
* `Task.shellLine_words`: **the line of a task is the words of its arguments**.
-/

namespace Orchestrator
namespace Shell

variable {s t : Styles} {c : Char} {cs : List Char}

/-! ## What a style can hold -/

/-- Whether the styles that are left can hold a character. -/
structure Styles.Hold (s : Styles) (c : Char) : Prop where
  bare : s.bare = true → IsPlain c
  single : s.single = true → c ≠ '\''
  double : s.double = true → c ≠ '$' ∧ c ≠ '`'

theorem Styles.Hold.inter_left (h : s.Hold c) (t : Styles) : (s.inter t).Hold c where
  bare hbare := h.bare (Bool.and_eq_true_iff.1 hbare).1
  single hsingle := h.single (Bool.and_eq_true_iff.1 hsingle).1
  double hdouble := h.double (Bool.and_eq_true_iff.1 hdouble).1

theorem Styles.Hold.inter_right (h : t.Hold c) (s : Styles) : (s.inter t).Hold c where
  bare hbare := h.bare (Bool.and_eq_true_iff.1 hbare).2
  single hsingle := h.single (Bool.and_eq_true_iff.1 hsingle).2
  double hdouble := h.double (Bool.and_eq_true_iff.1 hdouble).2

/-- Letters and digits are no blanks. -/
theorem isBlank_eq_false_of_isAlphanum (h : c.isAlphanum = true) : Text.isBlank c = false := by
  have hrange : 48 ≤ c.toNat ∧ c.toNat ≤ 122 := by
    rcases Bool.or_eq_true_iff.1 h with hletter | hdigit
    · rcases Bool.or_eq_true_iff.1 hletter with hupper | hlower
      · obtain ⟨hfirst, hlast⟩ := of_decide_eq_true hupper
        have hfirst : 65 ≤ c.toNat := UInt32.le_iff_toNat_le.1 hfirst
        have hlast : c.toNat ≤ 90 := UInt32.le_iff_toNat_le.1 hlast
        omega
      · obtain ⟨hfirst, hlast⟩ := Bool.and_eq_true_iff.1 hlower
        have hfirst : 97 ≤ c.toNat := UInt32.le_iff_toNat_le.1 (of_decide_eq_true hfirst)
        have hlast : c.toNat ≤ 122 := UInt32.le_iff_toNat_le.1 (of_decide_eq_true hlast)
        omega
    · have hdigits := Text.toNat_of_isDigit hdigit
      omega
  exact Text.isBlank_eq_false_of_toNat (by omega) (by omega)

/-- No character with a meaning is written without quotes. -/
theorem isPlain_of_bare (h : (stylesOf c).bare = true) : IsPlain c := by
  have hspecial : (['\x00', '\'', '"', '\\'] ++ reservedSigns).all
      (fun d => !(stylesOf d).bare) = true := by decide
  have hsigns : bareSigns.all (fun d => !Text.isBlank d) = true := by decide
  constructor
  · intro hc
    have hbare := List.all_eq_true.1 hspecial c hc
    rw [h] at hbare
    cases hbare
  · rcases Bool.or_eq_true_iff.1 h with halphanum | hsign
    · exact isBlank_eq_false_of_isAlphanum halphanum
    · simpa using List.all_eq_true.1 hsigns c (List.contains_iff_mem.1 hsign)

theorem hold_stylesOf (c : Char) : (stylesOf c).Hold c where
  bare := isPlain_of_bare
  single hsingle := by
    rintro rfl
    cases hsingle
  double hdouble := by
    constructor
    · rintro rfl
      cases hdouble
    · rintro rfl
      cases hdouble

theorem hold_stylesOfFirst (c : Char) : (stylesOfFirst c).Hold c := by
  rw [stylesOfFirst]
  split
  · rename_i hcaret
    subst hcaret
    exact ⟨nofun, fun _ => by decide, nofun⟩
  · exact hold_stylesOf c

/-- Every character has a style: single quotes, but for the two that stand between double quotes. -/
theorem any_stylesOfFirst (c : Char) : (stylesOfFirst c).any = true := by
  rw [stylesOfFirst]
  split
  · rfl
  · rename_i hcaret
    by_cases hsingle : c = '\''
    · subst hsingle
      rfl
    · by_cases hbackslash : c = '\\'
      · subst hbackslash
        rfl
      · simp [Styles.any, stylesOf, hcaret, hsingle, hbackslash]

/-! ## Chunks -/

/-- Whether styles, the front of a text and what is behind it are a chunk of the text: the styles
are what is left of other ones, and can hold the front. -/
structure IsChunk (s : Styles) (cs : List Char) (chunk : Styles × List Char × List Char) :
    Prop where
  append : chunk.2.1 ++ chunk.2.2 = cs
  any : s.any = true → chunk.1.any = true
  keeps : ∀ c, s.Hold c → chunk.1.Hold c
  holds : ∀ c ∈ chunk.2.1, chunk.1.Hold c

theorem isChunk_nil (s : Styles) (cs : List Char) : IsChunk s cs (s, [], cs) :=
  ⟨rfl, id, fun _ => id, fun _ hc => by cases hc⟩

/-- A character is held by what is left when it is taken, and by what is left of this later on. -/
theorem isChunk_extendChunk (s : Styles) (cs : List Char) : IsChunk s cs (extendChunk s cs) := by
  induction cs generalizing s with
  | nil => exact isChunk_nil s []
  | cons c cs ih =>
    rw [extendChunk]
    split
    · rename_i hnext
      obtain ⟨happend, hany, hkeeps, hholds⟩ := ih (s.inter (stylesOf c))
      refine ⟨congrArg (c :: ·) happend, fun _ => hany hnext,
        fun d hd => hkeeps d (hd.inter_left _), fun d hd => ?_⟩
      rcases List.mem_cons.1 hd with rfl | hd
      · exact hkeeps d ((hold_stylesOf d).inter_right s)
      · exact hholds d hd
    · exact isChunk_nil s (c :: cs)

/-! ## Reading back -/

namespace LineReading

variable {r : LineReading}

/-- A character between double quotes is read as itself, with or without a backslash. -/
theorem run_escapeInDouble (hc : c ≠ '$' ∧ c ≠ '`') (hnul : c ≠ '\x00')
    (hr : r.quotation = .double) : r.run (escapeInDouble c) = some (r.take [c]) := by
  obtain ⟨hdollar, hbackquote⟩ := hc
  rw [escapeInDouble]
  split
  · rename_i hescaped
    obtain ⟨_, w, ws⟩ := r
    cases hr
    rcases hescaped with rfl | rfl
    · rfl
    · rfl
  · rename_i hplain
    rw [not_or] at hplain
    have hstep : r.step c = some (r.take [c]) := by
      simp [step, stepDouble, hr, hnul, hdollar, hbackquote, hplain]
    rw [run_of_step hstep, run_nil]

/-- **A chunk is read back**, in any style that can hold it. -/
theorem run_quoteChunk (hs : s.any = true) (hold : ∀ c ∈ cs, s.Hold c) (hne : cs ≠ [])
    (hnul : '\x00' ∉ cs) (hr : r.quotation = .bare) :
    r.run (quoteChunk s cs) = some (r.take cs) := by
  rw [quoteChunk]
  split
  · rename_i hbare
    exact run_plain (fun c hc => (hold c hc).bare hbare) hne hr
  · rename_i hbare
    split
    · rename_i hsingle
      exact run_single (fun hquote => (hold _ hquote).single hsingle rfl) hnul hr
    · rename_i hsingle
      have hdouble : s.double = true := by simpa [Styles.any, hbare, hsingle] using hs
      refine run_double (fun c hc r hr => ?_) hr
      exact run_escapeInDouble ((hold c hc).double hdouble) (fun h => hnul (h ▸ hc)) hr

/-- The chunk at the front of a text is read back. -/
theorem run_firstChunk {chunk : Styles × List Char × List Char}
    (h : IsChunk (stylesOfFirst c) cs chunk) (hnul : '\x00' ∉ c :: cs) (hr : r.quotation = .bare) :
    r.run (quoteChunk chunk.1 (c :: chunk.2.1)) = some (r.take (c :: chunk.2.1)) := by
  refine run_quoteChunk (h.any (any_stylesOfFirst c)) ?_ (List.cons_ne_nil _ _) ?_ hr
  · intro d hd
    rcases List.mem_cons.1 hd with rfl | hd
    · exact h.keeps d (hold_stylesOfFirst d)
    · exact h.holds d hd
  · rw [← h.append, ← List.cons_append] at hnul
    exact fun hmem => hnul (List.mem_append_left _ hmem)

/-- **Chunks that touch are read as one text.** -/
theorem run_quoteChunks (hne : cs ≠ []) (hnul : '\x00' ∉ cs) (hr : r.quotation = .bare) :
    r.run (quoteChunks cs) = some (r.take cs) := by
  fun_induction quoteChunks cs generalizing r with
  | case1 => exact absurd rfl hne
  | case2 c cs chunk =>
    rename_i ih
    have hchunk : IsChunk (stylesOfFirst c) cs chunk := isChunk_extendChunk _ _
    have hcs := hchunk.append
    rw [run_append_of_run (run_firstChunk hchunk hnul hr)]
    by_cases hrest : chunk.2.2 = []
    · rw [hrest, List.append_nil] at hcs
      rw [hrest, quoteChunks, run_nil, hcs]
    · have hnul' : '\x00' ∉ chunk.2.2 :=
        fun h => hnul (List.mem_cons_of_mem c (hcs ▸ List.mem_append_right _ h))
      have hrun := ih (r := r.take (c :: chunk.2.1)) hrest hnul' hr
      rw [hrun, take_take, List.cons_append, hcs]

/-- **A word is read back**, an empty one too. -/
theorem run_quoteWord (hnul : '\x00' ∉ cs) (hr : r.quotation = .bare) :
    r.run (quoteWord cs) = some (r.take cs) := by
  rw [quoteWord]
  split
  · rename_i hnil
    subst hnil
    exact run_single List.not_mem_nil hnul hr
  · rename_i hne
    exact run_quoteChunks hne hnul hr

theorem quoteWords_cons_cons (v w : List Char) (words : List (List Char)) :
    quoteWords (v :: w :: words) = quoteWord v ++ ([' '] ++ quoteWords (w :: words)) := by
  rw [quoteWords, List.map_cons, List.map_cons, List.intercalate_cons_cons, List.append_assoc]
  rfl

/-- **A list of words is read back**, behind any words before it. -/
theorem finish?_quoteWords {words : List (List Char)} (h : ∀ w ∈ words, '\x00' ∉ w)
    (done : List (List Char)) :
    ((LineReading.mk .bare none done).run (quoteWords words)).bind finish? =
      some (done ++ words) := by
  induction words generalizing done with
  | nil => simp [quoteWords, finish?, close]
  | cons w words ih =>
    have hw := run_quoteWord (h w List.mem_cons_self) (r := ⟨.bare, none, done⟩) rfl
    cases words with
    | nil =>
      rw [quoteWords, List.map_singleton, List.intercalate_singleton, hw]
      rfl
    | cons v words =>
      have hblank : ((LineReading.mk .bare none done).take w).run [' '] =
          some ⟨.bare, none, done ++ [w]⟩ := rfl
      have hrest := ih (fun u hu => h u (List.mem_cons_of_mem w hu)) (done ++ [w])
      rw [quoteWords_cons_cons, run_append_of_run hw, run_append_of_run hblank, hrest,
        List.append_assoc, List.singleton_append]

end LineReading

/-- The characters of the parts are in the whole, whatever stands between the parts. -/
theorem mem_intercalate {α : Type} {a : α} {part : List α} {parts : List (List α)}
    (hpart : part ∈ parts) (ha : a ∈ part) (between : List α) : a ∈ between.intercalate parts := by
  induction parts with
  | nil => cases hpart
  | cons first parts ih =>
    cases parts with
    | nil =>
      rw [List.mem_singleton.1 hpart] at ha
      rwa [List.intercalate_singleton]
    | cons second parts =>
      rw [List.intercalate_cons_cons, List.append_assoc, List.mem_append, List.mem_append]
      rcases List.mem_cons.1 hpart with rfl | hrest
      · exact Or.inl ha
      · exact Or.inr (Or.inr (ih hrest))

/-- A line with a NUL character is not read. -/
theorem words?_of_mem {line : String} (h : '\x00' ∈ line.toList) : words? line = none := by
  rw [words?, LineReading.run_eq_none_of_mem h]
  rfl

end Shell

/-! ## Lines of tasks -/

namespace Task

variable {t : Task}

theorem hasNul_eq_true_iff : t.hasNul = true ↔ ∃ arg ∈ t.args, '\x00' ∈ arg.toList := by
  simp [hasNul]

theorem shellLine_of_nul (h : ∃ arg ∈ t.args, '\x00' ∈ arg.toList) : t.shellLine = t.render := by
  rw [shellLine, if_pos (hasNul_eq_true_iff.2 h)]

theorem toList_shellLine (h : ∀ arg ∈ t.args, '\x00' ∉ arg.toList) :
    t.shellLine.toList = Shell.quoteWords (t.args.map String.toList) := by
  have hnul : ¬ t.hasNul = true := by
    rw [hasNul_eq_true_iff]
    rintro ⟨arg, harg, hmem⟩
    exact h arg harg hmem
  rw [shellLine, if_neg hnul, String.toList_ofList]

/-- The plain line of a task keeps the characters of its arguments. -/
theorem mem_toList_render {arg : String} {c : Char} (harg : arg ∈ t.args) (hc : c ∈ arg.toList) :
    c ∈ t.render.toList := by
  rw [render, String.toList_intercalate]
  exact Shell.mem_intercalate (List.mem_map_of_mem harg) hc _

/-- Without NUL characters the line of a task is read as its arguments. -/
theorem words?_shellLine (h : ∀ arg ∈ t.args, '\x00' ∉ arg.toList) :
    Shell.words? t.shellLine = some t.args := by
  have hwords : ∀ w ∈ t.args.map String.toList, '\x00' ∉ w := by
    intro w hw
    obtain ⟨arg, harg, rfl⟩ := List.mem_map.1 hw
    exact h arg harg
  rw [Shell.words?, toList_shellLine h, Shell.LineReading.start,
    Shell.LineReading.finish?_quoteWords hwords]
  simp [Function.comp_def]

/-- **The line of a task is the words of its arguments.**  When no argument holds a NUL character, a
shell reads the line as the arguments, each of them one word and nothing else between them, so that
a task has this line exactly when it has these arguments.  When one does, the line is the arguments
with a space between any two. -/
theorem shellLine_words (t : Task) :
    ((∀ arg ∈ t.args, '\x00' ∉ arg.toList) →
      Shell.words? t.shellLine = some t.args ∧
        ∀ u : Task, u.shellLine = t.shellLine ↔ u.args = t.args) ∧
      ((∃ arg ∈ t.args, '\x00' ∈ arg.toList) → t.shellLine = String.intercalate " " t.args) := by
  refine ⟨fun h => ⟨words?_shellLine h, fun u => ⟨fun hline => ?_, fun hargs => ?_⟩⟩,
    fun h => shellLine_of_nul h⟩
  · by_cases hu : ∃ arg ∈ u.args, '\x00' ∈ arg.toList
    · -- a line with a NUL character is not read, and this one is
      obtain ⟨arg, harg, hnul⟩ := hu
      have hmem : '\x00' ∈ t.shellLine.toList := by
        rw [← hline, shellLine_of_nul ⟨arg, harg, hnul⟩]
        exact mem_toList_render harg hnul
      have hread := words?_shellLine h
      rw [Shell.words?_of_mem hmem] at hread
      cases hread
    · have hread := words?_shellLine (t := u) fun arg harg hnul => hu ⟨arg, harg, hnul⟩
      rw [hline, words?_shellLine h, Option.some.injEq] at hread
      exact hread.symm
  · rw [shellLine, shellLine, hasNul, hasNul, render, render, hargs]

/-- Every kind of quoting in one line: none for the program, double quotes for the apostrophe and
the backslash, single quotes for the rest. -/
theorem shellLine_words_printf :
    let t := Task.ofArgs ["printf", "it's ^1\\", "", "$HOME `id`!", "a\nb", "äöü"]
    (∀ arg ∈ t.args, '\x00' ∉ arg.toList) ∧ Shell.words? t.shellLine = some t.args := by
  intro t
  have hargs : ∀ arg ∈ t.args, '\x00' ∉ arg.toList := by decide
  exact ⟨hargs, ((shellLine_words t).1 hargs).1⟩

example : (Task.ofArgs ["printf", "it's ^1\\", "", "$HOME `id`!", "a\nb", "äöü"]).shellLine =
    "printf \"it's \"'^1'\"\\\\\" '' '$HOME `id`!' 'a\nb' 'äöü'" := by decide +kernel

end Task
end Orchestrator
