import Orchestrator.Proofs.Task.Pieces
import Orchestrator.Task.Basic

/-!
# Layers of replacement

A wrapper replaces its placeholders in a task, and the commands that it wraps replace theirs in what
comes of this.  The second replacement reads the text again, and finds the placeholders that the
first one left, and no others, as long as no open brace comes into the text by itself: each open
brace of the text opens a placeholder, and no value that is put in has one.  A closing brace that
closes nothing does no harm.

Under this condition one replacement after another is a single replacement, by the first combination
and, for what it does not bind, by the second.  From there on it is a matter of combinations: when
they bind different keys it does not matter which one comes first.

* `Placeholder.IsTemplate`, `Combination.BraceFree`: the condition, on a text and on values.
* `Placeholder.Reads.replaced`: the pieces of a text after a replacement.
* `replacePlaceholders_replacePlaceholders`, `Task.substitute_substitute`: **two layers are one**,
  in a text and in a task.
* `Task.substitute_layers`: **layers with different keys commute**, and repeating one has no effect.
-/

namespace Orchestrator
namespace Placeholder

variable {cs : List Char} {pieces : List Piece} {first second : String → Option String}

/-! ## Templates -/

/-- Whether every open brace of a text opens a placeholder. -/
def IsTemplate (cs : List Char) : Prop :=
  ∀ before after, cs = before ++ '{' :: after → Opens after

theorem isTemplate_cons_iff {c : Char} :
    IsTemplate (c :: cs) ↔ (c = '{' → Opens cs) ∧ IsTemplate cs := by
  constructor
  · intro h
    refine ⟨fun hc => h [] cs (by rw [hc, List.nil_append]), fun before after hcs => ?_⟩
    exact h (c :: before) after (by rw [hcs, List.cons_append])
  · rintro ⟨hhead, htail⟩ before after hcs
    rcases before with _ | ⟨b, before⟩
    · obtain ⟨rfl, rfl⟩ := List.cons.inj hcs
      exact hhead rfl
    · exact htail before after (List.cons.inj hcs).2

theorem IsTemplate.of_append {before : List Char} (h : IsTemplate (before ++ cs)) :
    IsTemplate cs := by
  induction before with
  | nil => exact h
  | cons b before ih => exact ih (isTemplate_cons_iff.1 h).2

instance (cs : List Char) : Decidable (Opens cs) :=
  decidable_of_iff ((keyBetweenBraces? cs).isSome = true) <| by
    rw [← not_iff_not, Option.not_isSome_iff_eq_none, keyBetweenBraces?_eq_none_iff]

instance decidableIsTemplate : (cs : List Char) → Decidable (IsTemplate cs)
  | [] => isTrue fun before after h => by cases before <;> cases h
  | _ :: cs =>
    have := decidableIsTemplate cs
    decidable_of_iff _ isTemplate_cons_iff.symm

/-- In a template no open brace is a piece by itself. -/
theorem Reads.notMem_of_isTemplate (h : Reads cs pieces) (ht : IsTemplate cs) :
    Piece.char '{' ∉ pieces := by
  induction h with
  | nil => exact List.not_mem_nil
  | @placeholder key rest pieces hkey h ih =>
    have hsplit : '{' :: (key ++ '}' :: rest) = ('{' :: (key ++ ['}'])) ++ rest := by simp
    have hrest : IsTemplate rest := (hsplit ▸ ht : IsTemplate (_ ++ rest)).of_append
    intro hmem
    rcases List.mem_cons.1 hmem with hmem | hmem
    · cases hmem
    · exact ih hrest hmem
  | char hc h ih =>
    obtain ⟨hhead, htail⟩ := isTemplate_cons_iff.1 ht
    intro hmem
    rcases List.mem_cons.1 hmem with hmem | hmem
    · cases hmem
      exact hc rfl (hhead rfl)
    · exact ih htail hmem

/-! ## A text after a replacement -/

/-- The pieces that a piece becomes, when nothing in a value is a placeholder. -/
def Piece.replaced (binding : String → Option String) : Piece → List Piece
  | .char c => [.char c]
  | .placeholder key =>
    match binding (String.ofList key) with
    | some value => value.toList.map .char
    | none => [.placeholder key]

/-- Characters that are not open braces are pieces by themselves. -/
theorem Reads.append_chars {value : List Char} (hvalue : '{' ∉ value) (h : Reads cs pieces) :
    Reads (value ++ cs) (value.map .char ++ pieces) := by
  induction value with
  | nil => exact h
  | cons c value ih =>
    obtain ⟨hc, hrest⟩ := not_or.1 (mt List.mem_cons.2 hvalue)
    exact .char (fun hbrace => absurd hbrace.symm hc) (ih hrest)

/-- **After a replacement** the placeholders that it left are pieces as before, and the characters
of the values are pieces by themselves. -/
theorem Reads.replaced (h : Reads cs pieces) (hpieces : Piece.char '{' ∉ pieces)
    (hfirst : ∀ key value, first key = some value → '{' ∉ value.toList) :
    Reads (replaceAll first cs) (pieces.flatMap (Piece.replaced first)) := by
  induction h with
  | nil =>
    rw [replaceAll]
    exact .nil
  | @placeholder key rest pieces hkey h ih =>
    have hrest := ih fun hmem => hpieces (List.mem_cons_of_mem _ hmem)
    rw [replaceAll_placeholder hkey, List.flatMap_cons, Piece.filled, Piece.replaced]
    cases hbound : first (String.ofList key) with
    | some value => exact hrest.append_chars (hfirst _ value hbound)
    | none => simpa using Reads.placeholder hkey hrest
  | char hc h ih =>
    obtain ⟨hhead, hrest⟩ := not_or.1 (mt List.mem_cons.2 hpieces)
    rw [replaceAll_char hc, List.flatMap_cons]
    exact .char (fun hbrace => absurd (congrArg Piece.char hbrace.symm) hhead) (ih hrest)

/-- Filling in what a piece has become is filling it in by both bindings. -/
theorem Piece.flatMap_filled_replaced (piece : Piece) :
    (piece.replaced first).flatMap (Piece.filled second) =
      piece.filled fun key => (first key).or (second key) := by
  cases piece with
  | char c => rfl
  | placeholder key =>
    rw [Piece.replaced, Piece.filled]
    cases hbound : first (String.ofList key) with
    | none => simp [Piece.filled]
    | some value => simp [List.flatMap_map, Piece.filled]

/-- One replacement after another is a single one, in which the first binding wins. -/
theorem replaceAll_replaceAll (ht : IsTemplate cs)
    (hfirst : ∀ key value, first key = some value → '{' ∉ value.toList) :
    replaceAll second (replaceAll first cs) =
      replaceAll (fun key => (first key).or (second key)) cs := by
  obtain ⟨pieces, hpieces⟩ := exists_reads cs
  have hreplaced := hpieces.replaced (hpieces.notMem_of_isTemplate ht) hfirst
  rw [hreplaced.replaceAll_eq, hpieces.replaceAll_eq, List.flatMap_assoc]
  exact List.flatMap_congr fun piece _ => piece.flatMap_filled_replaced

end Placeholder

open Placeholder

/-! ## Combinations -/

/-- Whether no value of a combination has an open brace. -/
def Combination.BraceFree (c : Combination) : Prop :=
  ∀ e ∈ c.entries, '{' ∉ e.2.toList

variable {c d : Combination}

/-- **Two layers are one** in a text. -/
theorem replacePlaceholders_replacePlaceholders {text : String} (ht : IsTemplate text.toList)
    (hc : c.BraceFree) :
    replacePlaceholders d (replacePlaceholders c text) =
      replacePlaceholders (d.overlay c) text := by
  have hvalues : ∀ key value, c.get? key = some value → '{' ∉ value.toList :=
    fun key value h => hc (key, value) (KeyedMap.mem_entries_iff.2 h)
  have hboth : (d.overlay c).get? = fun key => (c.get? key).or (d.get? key) :=
    funext fun key => KeyedMap.get?_overlay d c key
  rw [replacePlaceholders, replacePlaceholders, replacePlaceholders, String.toList_ofList,
    replaceAll_replaceAll ht hvalues, hboth]

/-- A combination without bindings replaces nothing. -/
theorem replacePlaceholders_of_isEmpty (h : c.isEmpty = true) (text : String) :
    replacePlaceholders c text = text := by
  obtain ⟨pieces, hpieces⟩ := exists_reads text.toList
  have hnone : ∀ key, c.get? key = none := by
    intro key
    rw [KeyedMap.get?, List.isEmpty_iff.1 h]
    rfl
  rw [replacePlaceholders, hpieces.replaceAll_eq_self fun key _ => hnone _, String.ofList_toList]

namespace Task

/-! ## Tasks -/

/-- Whether every open brace in a task opens a placeholder. -/
structure IsTemplate (t : Task) : Prop where
  args : ∀ arg ∈ t.args, Placeholder.IsTemplate arg.toList
  env : ∀ e ∈ t.env.entries, Placeholder.IsTemplate e.2.toList
  workingDir : ∀ dir ∈ t.workingDir, Placeholder.IsTemplate dir.text.toList

variable {t : Task}

theorem substitute_of_ne_empty (h : c ≠ .empty) (t : Task) : t.substitute c = t.replaced c :=
  if_neg fun hempty => h (KeyedMap.isEmpty_iff.1 hempty)

/-- A substitution replaces the placeholders of every argument. -/
theorem args_substitute (t : Task) (c : Combination) :
    (t.substitute c).args = t.args.map (replacePlaceholders c) := by
  rw [substitute]
  split
  · rename_i hempty
    rw [List.map_congr_left fun arg _ => replacePlaceholders_of_isEmpty hempty arg, List.map_id']
  · rfl

/-- A replacement reads what another one wrote into a directory as a text. -/
theorem replaced_replaced (ht : t.IsTemplate) (hc : c.BraceFree) :
    (t.replaced c).replaced d = t.replaced (d.overlay c) := by
  have hargs : (t.args.map (replacePlaceholders c)).map (replacePlaceholders d) =
      t.args.map (replacePlaceholders (d.overlay c)) := by
    rw [List.map_map]
    exact List.map_congr_left fun arg harg =>
      replacePlaceholders_replacePlaceholders (ht.args arg harg) hc
  have henv : (t.env.mapValues (replacePlaceholders c)).mapValues (replacePlaceholders d) =
      t.env.mapValues (replacePlaceholders (d.overlay c)) := by
    refine KeyedMap.eq_of_entries ?_
    rw [KeyedMap.entries_mapValues, KeyedMap.entries_mapValues, KeyedMap.entries_mapValues,
      List.map_map]
    exact List.map_congr_left fun e he =>
      Prod.ext rfl (replacePlaceholders_replacePlaceholders (ht.env e he) hc)
  have hdir : (t.workingDir.map (Path.replacePlaceholders c)).map (Path.replacePlaceholders d) =
      t.workingDir.map (Path.replacePlaceholders (d.overlay c)) := by
    rw [Option.map_map]
    refine Option.map_congr fun dir hdir => ?_
    rw [Function.comp_apply, Path.replacePlaceholders, Path.text_replacePlaceholders,
      replacePlaceholders_replacePlaceholders (ht.workingDir dir hdir) hc]
    rfl
  simp only [replaced, hargs, henv, hdir]

/-- **Two layers are one** in a task. -/
theorem substitute_substitute (ht : t.IsTemplate) (hc : c.BraceFree) :
    (t.substitute c).substitute d = t.substitute (d.overlay c) := by
  -- a combination without bindings does not even read the directory
  by_cases hcempty : c = .empty
  · subst hcempty
    rfl
  by_cases hdempty : d = .empty
  · subst hdempty
    rw [KeyedMap.empty_overlay]
    rfl
  rw [substitute_of_ne_empty hcempty, substitute_of_ne_empty hdempty,
    substitute_of_ne_empty (KeyedMap.overlay_ne_empty hcempty), replaced_replaced ht hc]

/-- **Layers with different keys commute.**  When every open brace in a task opens a placeholder,
and two combinations bind different keys to values without open braces, it does not matter which one
is substituted first, and both together are the substitution by their union.  The substitution by
one of them is idempotent. -/
theorem substitute_layers (ht : t.IsTemplate) (hc : c.BraceFree) (hd : d.BraceFree)
    (hkeys : ∀ key ∈ c.keys, key ∉ d.keys) :
    (t.substitute c).substitute d = t.substitute (c.overlay d) ∧
      (t.substitute d).substitute c = t.substitute (c.overlay d) ∧
      (t.substitute c).substitute c = t.substitute c := by
  refine ⟨?_, substitute_substitute ht hd, ?_⟩
  · rw [substitute_substitute ht hc, KeyedMap.overlay_comm hkeys]
  · rw [substitute_substitute ht hc, KeyedMap.overlay_self]

/-- A wrapper chooses the compiler, and the command that it wraps the mode.  Nobody chooses the
architecture, and its placeholder stays. -/
theorem substitute_layers_compilerAndMode :
    let t : Task :=
      ⟨["make", "-C", "build/{COMPILER}/{MODE}/{ARCH}"], .ofList [("CC", "{COMPILER}")],
        some (.ofText "out/{MODE}")⟩
    let c : Combination := .ofList [("COMPILER", "gcc")]
    let d : Combination := .ofList [("MODE", "debug")]
    let both : Task :=
      ⟨["make", "-C", "build/gcc/debug/{ARCH}"], .ofList [("CC", "gcc")],
        some (.ofText "out/debug")⟩
    t.IsTemplate ∧ c.BraceFree ∧ d.BraceFree ∧ (∀ key ∈ c.keys, key ∉ d.keys) ∧
      (t.substitute c).substitute d = both ∧ (t.substitute d).substitute c = both ∧
      (t.substitute c).substitute c = t.substitute c := by
  intro t c d both
  have ht : t.IsTemplate := ⟨by decide, by decide, by decide⟩
  have hc : c.BraceFree := by unfold Combination.BraceFree; decide
  have hd : d.BraceFree := by unfold Combination.BraceFree; decide
  have hkeys : ∀ key ∈ c.keys, key ∉ d.keys := by decide
  have hboth : t.substitute (c.overlay d) = both := by decide +kernel
  obtain ⟨hfirst, hsecond, hsame⟩ := substitute_layers ht hc hd hkeys
  exact ⟨ht, hc, hd, hkeys, hfirst.trans hboth, hsecond.trans hboth, hsame⟩

end Task
end Orchestrator
