import Mathlib.Data.List.Basic
import Mathlib.Data.List.TakeWhile
import Orchestrator.Task.Placeholder

/-!
# The pieces of a text with placeholders

A text falls into pieces, read from left to right: where an open brace is followed by a key and a
closing brace, these are one placeholder, and everywhere else the next character is a piece by
itself.  A key never holds a brace, so that there is no choice in this: an open brace either starts
one placeholder, with one key, or none.

The replacement of placeholders fills the pieces in one by one.  As the pieces are those of the text
alone, what is put in the place of a placeholder takes no part in finding the next one.

* `IsKey`, `Opens`: the keys, and the texts behind an open brace that starts a placeholder, with
  `keyBetweenBraces?_eq_some_iff`.
* `Piece`, `Reads`: the pieces of a text, with `exists_reads` and `Reads.unique`: there is one way
  to read a text.
* `Reads.replaceAll_eq`: **a replacement fills in the pieces**.
* `replacePlaceholders_pieces`: the replacement by a combination, in terms of the pieces of a text.
-/

namespace Orchestrator
namespace Placeholder

/-! ## Keys -/

/-- Whether some characters are a key: at least one, and none of them a brace or a blank. -/
structure IsKey (key : List Char) : Prop where
  ne_nil : key ≠ []
  chars : ∀ c ∈ key, c ≠ '{' ∧ c ≠ '}' ∧ Text.isBlank c = false

/-- Whether a text completes a placeholder that is opened before it. -/
def Opens (cs : List Char) : Prop :=
  ∃ key rest, IsKey key ∧ cs = key ++ '}' :: rest

variable {cs key rest : List Char}

theorem isKeyChar_iff {c : Char} :
    isKeyChar c = true ↔ c ≠ '{' ∧ c ≠ '}' ∧ Text.isBlank c = false := by
  simp [isKeyChar, and_assoc]

/-- The key that an open brace starts is found, and no other. -/
theorem keyBetweenBraces?_eq_some_iff :
    keyBetweenBraces? cs = some (key, rest) ↔ IsKey key ∧ cs = key ++ '}' :: rest := by
  constructor
  · intro h
    unfold keyBetweenBraces? at h
    split at h
    · rename_i k ks rest' hkey hrest
      simp only [Option.some.injEq, Prod.mk.injEq] at h
      obtain ⟨rfl, rfl⟩ := h
      refine ⟨⟨List.cons_ne_nil k ks, fun c hc => ?_⟩, ?_⟩
      · rw [← hkey] at hc
        exact isKeyChar_iff.1 (List.mem_takeWhile_imp hc)
      · rw [← hkey, ← hrest, List.takeWhile_append_dropWhile]
    · cases h
  · rintro ⟨hkey, rfl⟩
    have hchars : ∀ c ∈ key, isKeyChar c = true := fun c hc => isKeyChar_iff.2 (hkey.chars c hc)
    have htake : (key ++ '}' :: rest).takeWhile isKeyChar = key := by
      rw [List.takeWhile_append_of_pos hchars, List.takeWhile_cons_of_neg (by decide),
        List.append_nil]
    have hdrop : (key ++ '}' :: rest).dropWhile isKeyChar = '}' :: rest := by
      rw [List.dropWhile_append_of_pos hchars, List.dropWhile_cons_of_neg (by decide)]
    obtain ⟨k, ks, rfl⟩ := List.exists_cons_of_ne_nil hkey.ne_nil
    rw [keyBetweenBraces?, htake, hdrop]
    rfl

theorem keyBetweenBraces?_eq_none_iff : keyBetweenBraces? cs = none ↔ ¬ Opens cs := by
  rw [Option.eq_none_iff_forall_ne_some]
  constructor
  · rintro h ⟨key, rest, hkey, hcs⟩
    exact h (key, rest) (keyBetweenBraces?_eq_some_iff.2 ⟨hkey, hcs⟩)
  · rintro h ⟨key, rest⟩ hsome
    obtain ⟨hkey, hcs⟩ := keyBetweenBraces?_eq_some_iff.1 hsome
    exact h ⟨key, rest, hkey, hcs⟩

/-! ## Pieces -/

/-- A piece of a text. -/
inductive Piece where
  | char (c : Char)
  | placeholder (key : List Char)
  deriving DecidableEq, Repr

/-- The text of a piece. -/
def Piece.source : Piece → List Char
  | .char c => [c]
  | .placeholder key => '{' :: key ++ ['}']

/-- What a piece becomes: the value bound to the key of a placeholder, and anything else its own
text. -/
def Piece.filled (binding : String → Option String) : Piece → List Char
  | .char c => [c]
  | .placeholder key =>
    match binding (String.ofList key) with
    | some value => value.toList
    | none => '{' :: key ++ ['}']

/-- The pieces of a text, read from left to right. -/
inductive Reads : List Char → List Piece → Prop where
  | nil : Reads [] []
  /-- An open brace, a key and a closing brace are one placeholder. -/
  | placeholder {key rest : List Char} {pieces : List Piece} (hkey : IsKey key)
      (h : Reads rest pieces) : Reads ('{' :: (key ++ '}' :: rest)) (.placeholder key :: pieces)
  /-- Any other character is a piece by itself, also an open brace. -/
  | char {c : Char} {cs : List Char} {pieces : List Piece} (hc : c = '{' → ¬ Opens cs)
      (h : Reads cs pieces) : Reads (c :: cs) (.char c :: pieces)

variable {pieces : List Piece}

/-- Every text falls into pieces. -/
theorem exists_reads : ∀ cs : List Char, ∃ pieces, Reads cs pieces
  | [] => ⟨[], .nil⟩
  | c :: cs => by
    by_cases hopens : c = '{' ∧ Opens cs
    · obtain ⟨rfl, key, rest, hkey, hcs⟩ := hopens
      have hlength : rest.length < cs.length := by
        rw [hcs, List.length_append, List.length_cons]
        omega
      obtain ⟨pieces, hpieces⟩ := exists_reads rest
      rw [hcs]
      exact ⟨_, .placeholder hkey hpieces⟩
    · obtain ⟨pieces, hpieces⟩ := exists_reads cs
      exact ⟨_, .char (fun hc hcs => hopens ⟨hc, hcs⟩) hpieces⟩
termination_by cs => cs.length
decreasing_by
  all_goals
    rw [List.length_cons]
    omega

/-- The two ways in which a text may begin. -/
theorem Reads.cons_cases {c : Char} (h : Reads (c :: cs) pieces) :
    (∃ key rest pieces', c = '{' ∧ IsKey key ∧ cs = key ++ '}' :: rest ∧ Reads rest pieces' ∧
      pieces = .placeholder key :: pieces') ∨
    (∃ pieces', (c = '{' → ¬ Opens cs) ∧ Reads cs pieces' ∧ pieces = .char c :: pieces') := by
  generalize htext : c :: cs = text at h
  cases h with
  | nil => cases htext
  | placeholder hkey h =>
    obtain ⟨rfl, rfl⟩ := List.cons.inj htext
    exact Or.inl ⟨_, _, _, rfl, hkey, rfl, h, rfl⟩
  | char hc h =>
    obtain ⟨rfl, rfl⟩ := List.cons.inj htext
    exact Or.inr ⟨_, hc, h, rfl⟩

/-- There is one way to read a text. -/
theorem Reads.unique (h : Reads cs pieces) {pieces' : List Piece} (h' : Reads cs pieces') :
    pieces' = pieces := by
  induction h generalizing pieces' with
  | nil => cases h'; rfl
  | @placeholder key rest pieces hkey h ih =>
    rcases h'.cons_cases with ⟨key', rest', pieces'', -, hkey', hrest, h'', rfl⟩ | ⟨_, hc, -, -⟩
    · have hfound := keyBetweenBraces?_eq_some_iff.2 ⟨hkey, (rfl : key ++ '}' :: rest = _)⟩
      have hfound' := keyBetweenBraces?_eq_some_iff.2 ⟨hkey', hrest⟩
      cases hfound.symm.trans hfound'
      rw [ih h'']
    · exact absurd ⟨key, rest, hkey, rfl⟩ (hc rfl)
  | char hc h ih =>
    rcases h'.cons_cases with ⟨key', rest', _, rfl, hkey', rfl, -, -⟩ | ⟨pieces'', -, h'', rfl⟩
    · exact absurd ⟨key', rest', hkey', rfl⟩ (hc rfl)
    · rw [ih h'']

/-- The pieces of a text are the text. -/
theorem Reads.flatMap_source (h : Reads cs pieces) : pieces.flatMap Piece.source = cs := by
  induction h with
  | nil => rfl
  | placeholder hkey h ih => simp [Piece.source, ih]
  | char hc h ih => simp [Piece.source, ih]

/-! ## Replacement -/

variable {binding : String → Option String}

theorem replaceAll_placeholder (hkey : IsKey key) :
    replaceAll binding ('{' :: (key ++ '}' :: rest)) =
      Piece.filled binding (.placeholder key) ++ replaceAll binding rest := by
  have hfound := keyBetweenBraces?_eq_some_iff.2 ⟨hkey, (rfl : key ++ '}' :: rest = _)⟩
  rw [replaceAll, if_pos rfl]
  split
  · rename_i heq
    cases hfound.symm.trans heq
    rfl
  · rename_i heq
    cases hfound.symm.trans heq

theorem replaceAll_char {c : Char} (hc : c = '{' → ¬ Opens cs) :
    replaceAll binding (c :: cs) = c :: replaceAll binding cs := by
  rw [replaceAll]
  split
  · rename_i hbrace
    have hnone := keyBetweenBraces?_eq_none_iff.2 (hc hbrace)
    split
    · rename_i heq
      cases hnone.symm.trans heq
    · rfl
  · rfl

/-- **A replacement fills in the pieces**, and nothing else of the text. -/
theorem Reads.replaceAll_eq (h : Reads cs pieces) :
    replaceAll binding cs = pieces.flatMap (Piece.filled binding) := by
  induction h with
  | nil => rw [replaceAll, List.flatMap_nil]
  | placeholder hkey h ih => rw [replaceAll_placeholder hkey, ih, List.flatMap_cons]
  | char hc h ih =>
    rw [replaceAll_char hc, ih, List.flatMap_cons]
    rfl

/-- Bindings of keys that do not occur have no effect. -/
theorem Reads.replaceAll_congr (h : Reads cs pieces) {binding' : String → Option String}
    (hbinding : ∀ key, Piece.placeholder key ∈ pieces →
      binding (String.ofList key) = binding' (String.ofList key)) :
    replaceAll binding cs = replaceAll binding' cs := by
  rw [h.replaceAll_eq, h.replaceAll_eq]
  refine List.flatMap_congr fun piece hpiece => ?_
  cases piece with
  | char c => rfl
  | placeholder key => rw [Piece.filled, Piece.filled, hbinding key hpiece]

/-- A text is left as it is when none of its placeholders is bound. -/
theorem Reads.replaceAll_eq_self (h : Reads cs pieces)
    (hbinding : ∀ key, Piece.placeholder key ∈ pieces → binding (String.ofList key) = none) :
    replaceAll binding cs = cs := by
  have hfilled : pieces.flatMap (Piece.filled binding) = pieces.flatMap Piece.source := by
    refine List.flatMap_congr fun piece hpiece => ?_
    cases piece with
    | char c => rfl
    | placeholder key =>
      rw [Piece.filled, hbinding key hpiece]
      rfl
  rw [h.replaceAll_eq, hfilled, h.flatMap_source]

end Placeholder

open Placeholder

/-- **The replacement of placeholders.**  A text has one reading into pieces, which together are the
text: from left to right, an open brace that is followed by a key and a closing brace is the start
of a placeholder, and any other character is a piece by itself.  A replacement by a combination
writes, in this order, the value bound to the key of a placeholder, the placeholder itself when its
key is not bound, and every other character once.  The reading does not depend on the combination,
so that no value is read again.  Two combinations that bind the keys of the text in the same way
have the same effect, and one that binds none of them has no effect. -/
theorem replacePlaceholders_pieces (text : String) :
    ∃ pieces, Reads text.toList pieces ∧
      (∀ pieces', Reads text.toList pieces' → pieces' = pieces) ∧
      pieces.flatMap Piece.source = text.toList ∧
      (∀ c : Combination,
        (replacePlaceholders c text).toList = pieces.flatMap (Piece.filled c.get?)) ∧
      (∀ c d : Combination, (∀ key, Piece.placeholder key ∈ pieces →
          c.get? (String.ofList key) = d.get? (String.ofList key)) →
        replacePlaceholders c text = replacePlaceholders d text) ∧
      ∀ c : Combination, (∀ key, Piece.placeholder key ∈ pieces →
          c.get? (String.ofList key) = none) →
        replacePlaceholders c text = text := by
  obtain ⟨pieces, hpieces⟩ := exists_reads text.toList
  refine ⟨pieces, hpieces, fun _ h => hpieces.unique h, hpieces.flatMap_source, ?_, ?_, ?_⟩
  · intro c
    rw [replacePlaceholders, String.toList_ofList, hpieces.replaceAll_eq]
  · intro c d hsame
    exact congrArg String.ofList (hpieces.replaceAll_congr hsame)
  · intro c hnone
    rw [replacePlaceholders, hpieces.replaceAll_eq_self hnone, String.ofList_toList]

/-- A value that looks like a placeholder is not read again. -/
example : replacePlaceholders (.ofList [("A", "{B}"), ("B", "x")]) "{A}-{B}-{C}" = "{B}-x-{C}" := by
  cbv

end Orchestrator
