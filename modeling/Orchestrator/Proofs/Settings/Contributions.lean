import Orchestrator.Proofs.Settings.Construction
import Orchestrator.Proofs.Settings.Values

/-!
# What a document contributes to its settings

The loader of documents walks a value with a path and a tree, and stops at the first key that is no
name.  The walk is taken apart here.  What a value contributes is a list in document order, with one
contribution for each key of a mapping and one for each scalar, each with the names on the way to
it.  This list no longer knows of sequences, tags and nulls, and the loader performs it.

* `Yaml.Value.IsName`, `Yaml.Value.IsKeyIn`: the values that may name a node, and the keys of the
  mappings in a value, at any depth.
* `inductionOnVisited`: induction over the values that the loader visits.
* `Contribution`, `contributions`: what a value contributes, in document order.
* `addValue_eq_foldlM`: **the loader performs the contributions in order**.
* `isKeyIn_of_mem_contributions`, `isName_of_isKeyIn`: the keys among the contributions are those of
  the value, up to the first one that is no name.
-/

namespace Orchestrator

/-! ## Keys and names -/

theorem Decimal.layOut_ne_nil (digits : List Char) (exponent : Int) :
    layOut digits exponent ≠ [] := by
  rw [layOut]
  split_ifs <;> simp

namespace Yaml

/-- A number is never written as the empty text. -/
theorem Number.render_ne_empty (n : Number) : n.render ≠ "" := by
  cases n with
  | integer n => cases n <;> simp [render, toString, Int.repr]
  | float x =>
    rw [render, Binary64.render]
    split_ifs <;> simp [Decimal.layOut_ne_nil]
  | infinity negative => cases negative <;> decide
  | notANumber => decide

namespace Value

/-- Whether a value may name a node: a boolean, a number, or a text that is not empty. -/
def IsName : Value → Prop
  | .bool _ => True
  | .number _ => True
  | .text s => s ≠ ""
  | _ => False

/-- The keys of the mappings in a value, at any depth in sequences, tags and the values of
mappings. -/
inductive IsKeyIn (k : Value) : Value → Prop where
  | key {v : Value} {entries : List (Value × Value)} (h : (k, v) ∈ entries) :
      IsKeyIn k (.map entries)
  | entry {j v : Value} {entries : List (Value × Value)} (h : (j, v) ∈ entries)
      (hk : IsKeyIn k v) : IsKeyIn k (.map entries)
  | item {v : Value} {items : List Value} (h : v ∈ items) (hk : IsKeyIn k v) :
      IsKeyIn k (.list items)
  | tagged {tag : String} {v : Value} (hk : IsKeyIn k v) : IsKeyIn k (.tagged tag v)

end Value
end Yaml

namespace SettingsTree

open Yaml (Value)

/-- The values with a text are booleans, numbers and texts. -/
theorem scalarText?_eq_some_cases {v : Value} {s : String} (h : scalarText? v = some s) :
    (∃ b, v = .bool b ∧ s = if b then "true" else "false") ∨
      (∃ n, v = .number n ∧ s = n.render) ∨ v = .text s := by
  cases v with
  | bool b =>
    cases h
    exact Or.inl ⟨b, rfl, rfl⟩
  | number n =>
    cases h
    exact Or.inr (Or.inl ⟨n, rfl, rfl⟩)
  | text s =>
    cases h
    exact Or.inr (Or.inr rfl)
  | null => cases h
  | list items => cases h
  | map entries => cases h
  | tagged tag v => cases h

/-- Induction over the values that are visited: the items of a sequence, the values of a mapping and
what is in a tag, but no keys.  Scalars are all alike. -/
@[elab_as_elim]
theorem inductionOnVisited {P : Value → Prop} (null : P .null)
    (scalar : ∀ v s, scalarText? v = some s → P v)
    (list : ∀ items, (∀ v ∈ items, P v) → P (.list items))
    (map : ∀ entries, (∀ k v, (k, v) ∈ entries → P v) → P (.map entries))
    (tagged : ∀ tag v, P v → P (.tagged tag v)) : ∀ v, P v
  | .null => null
  | .bool b => scalar (.bool b) _ rfl
  | .number n => scalar (.number n) _ rfl
  | .text s => scalar (.text s) s rfl
  | .list items => list items fun v hv => by
    have := List.sizeOf_lt_of_mem hv
    exact inductionOnVisited null scalar list map tagged v
  | .map entries => map entries fun k v hv => by
    have hlt : 1 + sizeOf k + sizeOf v < sizeOf entries := List.sizeOf_lt_of_mem hv
    exact inductionOnVisited null scalar list map tagged v
  | .tagged tag v => tagged tag v (inductionOnVisited null scalar list map tagged v)
termination_by v => sizeOf v

/-- The name of the node that a key makes. -/
def nameOf? (k : Value) : Option String :=
  (scalarText? k).filter fun name => name ≠ ""

theorem nameOf?_eq_some_iff {k : Value} {name : String} :
    nameOf? k = some name ↔ scalarText? k = some name ∧ name ≠ "" := by
  rw [nameOf?, Option.filter_eq_some_iff, decide_eq_true_eq]

/-- The values that may be names are those that have one. -/
theorem isName_iff_exists (k : Value) : k.IsName ↔ ∃ name, nameOf? k = some name := by
  simp only [nameOf?_eq_some_iff]
  cases k with
  | bool b => cases b <;> simp [Value.IsName, scalarText?]
  | number n => simp [Value.IsName, scalarText?, n.render_ne_empty]
  | text s => simp [Value.IsName, scalarText?]
  | null => simp [Value.IsName, scalarText?]
  | list items => simp [Value.IsName, scalarText?]
  | map entries => simp [Value.IsName, scalarText?]
  | tagged tag v => simp [Value.IsName, scalarText?]

/-! ## Contributions -/

/-- What a document says at a path of names. -/
inductive Contribution where
  /-- A mapping at the path has a key. -/
  | key (path : List String) (key : Value)
  /-- A scalar stands at the path. -/
  | text (path : List String) (text : String)

mutual

/-- What a value contributes at a path, in document order.  A sequence and a tag do not lengthen the
path, a null contributes nothing, and a key that is no name leads nowhere. -/
def contributions (path : List String) : Value → List Contribution
  | .null => []
  | .map entries => entryContributions path entries
  | .list items => itemContributions path items
  | .tagged _ v => contributions path v
  | .text s => [.text path s]
  | .bool b => [.text path (if b then "true" else "false")]
  | .number n => [.text path n.render]

/-- What the items of a sequence contribute. -/
def itemContributions (path : List String) : List Value → List Contribution
  | [] => []
  | v :: vs => contributions path v ++ itemContributions path vs

/-- What the entries of a mapping contribute: each its key, then its value at the longer path. -/
def entryContributions (path : List String) : List (Value × Value) → List Contribution
  | [] => []
  | (k, v) :: es =>
    .key path k ::
      ((match nameOf? k with
        | none => []
        | some name => contributions (path ++ [name]) v) ++ entryContributions path es)

end

variable {path p : List String} {k v : Value} {c : Contribution} {cs ds : List Contribution}
  {t u : SettingsTree} {name : String}

/-- A scalar contributes its text. -/
theorem contributions_of_scalarText? {s : String} (h : scalarText? v = some s)
    (path : List String) : contributions path v = [.text path s] := by
  rcases scalarText?_eq_some_cases h with ⟨b, rfl, rfl⟩ | ⟨n, rfl, rfl⟩ | rfl
  · rfl
  · rfl
  · rfl

theorem itemContributions_append (path : List String) (as bs : List Value) :
    itemContributions path (as ++ bs) =
      itemContributions path as ++ itemContributions path bs := by
  induction as with
  | nil => rw [itemContributions, List.nil_append, List.nil_append]
  | cons v as ih =>
    rw [List.cons_append, itemContributions, itemContributions, ih, List.append_assoc]

theorem entryContributions_append (path : List String) (as bs : List (Value × Value)) :
    entryContributions path (as ++ bs) =
      entryContributions path as ++ entryContributions path bs := by
  induction as with
  | nil => rw [entryContributions, List.nil_append, List.nil_append]
  | cons e as ih =>
    obtain ⟨k, v⟩ := e
    rw [List.cons_append, entryContributions, entryContributions, ih, List.cons_append,
      List.append_assoc]

theorem mem_itemContributions_iff {vs : List Value} :
    c ∈ itemContributions path vs ↔ ∃ v ∈ vs, c ∈ contributions path v := by
  induction vs with
  | nil => simp [itemContributions]
  | cons v vs ih => simp [itemContributions, ih]

theorem mem_entryContributions_iff {es : List (Value × Value)} :
    c ∈ entryContributions path es ↔ ∃ k v, (k, v) ∈ es ∧
      (c = .key path k ∨ ∃ name, nameOf? k = some name ∧ c ∈ contributions (path ++ [name]) v) := by
  induction es with
  | nil => simp [entryContributions]
  | cons e es ih =>
    obtain ⟨j, w⟩ := e
    rw [entryContributions, List.mem_cons, List.mem_append, ih]
    constructor
    · rintro (hkey | hbelow | ⟨k, v, hmem, hc⟩)
      · exact ⟨j, w, List.mem_cons_self, Or.inl hkey⟩
      · cases hname : nameOf? j with
        | none =>
          rw [hname] at hbelow
          cases hbelow
        | some name =>
          rw [hname] at hbelow
          exact ⟨j, w, List.mem_cons_self, Or.inr ⟨name, hname, hbelow⟩⟩
      · exact ⟨k, v, List.mem_cons_of_mem _ hmem, hc⟩
    · rintro ⟨k, v, hmem, hc⟩
      rcases List.mem_cons.1 hmem with heq | hmem
      · cases heq
        rcases hc with hkey | ⟨name, hname, hbelow⟩
        · exact Or.inl hkey
        · refine Or.inr (Or.inl ?_)
          rw [hname]
          exact hbelow
      · exact Or.inr (Or.inr ⟨k, v, hmem, hc⟩)

/-! ## The loader performs the contributions -/

/-- What a contribution does to a tree: a key makes its node and a text is added. -/
def Contribution.perform (t : SettingsTree) : Contribution → Except DocumentError SettingsTree
  | .key path k =>
    match scalarText? k with
    | none => .error (.unsupported path)
    | some name => (t.ensurePath (path ++ [name])).mapError .settings
  | .text path s => (t.add path s).mapError .settings

/-- A scalar is added as its text. -/
theorem addValue_of_scalarText? {s : String} (h : scalarText? v = some s) (path : List String)
    (t : SettingsTree) : addValue path v t = (Contribution.text path s).perform t := by
  have htext : t.addText path s = (Contribution.text path s).perform t := by
    rw [addText, Contribution.perform]
    cases t.add path s <;> rfl
  rw [← htext]
  rcases scalarText?_eq_some_cases h with ⟨b, rfl, rfl⟩ | ⟨n, rfl, rfl⟩ | rfl
  · rfl
  · rfl
  · rfl

/-- A key is refused, or its node is made and leads on. -/
theorem addKey_cases (t : SettingsTree) (path : List String) (k : Value) :
    (∃ e, t.addKey path k = .error e ∧ (Contribution.key path k).perform t = .error e) ∨
      ∃ name u, nameOf? k = some name ∧ t.addKey path k = .ok (path ++ [name], u) ∧
        (Contribution.key path k).perform t = .ok u := by
  rw [addKey, Contribution.perform]
  cases hk : scalarText? k with
  | none => exact Or.inl ⟨.unsupported path, rfl, rfl⟩
  | some name =>
    cases hu : t.ensurePath (path ++ [name]) with
    | error e => exact Or.inl ⟨.settings e, by simp only [hu], by simp only [hu, Except.mapError]⟩
    | ok u =>
      obtain ⟨hnamed, -⟩ := ensurePath_eq_ok_iff.1 hu
      have hname : name ≠ "" := hnamed name (List.mem_append_right path List.mem_cons_self)
      exact Or.inr ⟨name, u, nameOf?_eq_some_iff.2 ⟨hk, hname⟩, by simp only [hu],
        by simp only [hu, Except.mapError]⟩

/-- The items of a sequence are added one after the other. -/
theorem addItems_eq_foldlM {vs : List Value}
    (h : ∀ v ∈ vs, ∀ path t,
      addValue path v t = (contributions path v).foldlM Contribution.perform t)
    (path : List String) (t : SettingsTree) :
    addItems path vs t = (itemContributions path vs).foldlM Contribution.perform t := by
  induction vs generalizing t with
  | nil => rfl
  | cons v vs ih =>
    rw [addItems, itemContributions, List.foldlM_append, ← h v List.mem_cons_self]
    cases addValue path v t with
    | error e => rfl
    | ok u => exact ih (fun w hw => h w (List.mem_cons_of_mem v hw)) u

/-- The node of a key is made first and its value is added at the longer path, before the entries
that follow are added at the path of the mapping again. -/
theorem addEntries_eq_foldlM {es : List (Value × Value)}
    (h : ∀ k v, (k, v) ∈ es → ∀ path t,
      addValue path v t = (contributions path v).foldlM Contribution.perform t)
    (path : List String) (t : SettingsTree) :
    addEntries path es t = (entryContributions path es).foldlM Contribution.perform t := by
  induction es generalizing t with
  | nil => rfl
  | cons e es ih =>
    obtain ⟨k, v⟩ := e
    rw [addEntries, entryContributions, List.foldlM_cons]
    rcases addKey_cases t path k with ⟨e, hadd, hperform⟩ | ⟨name, u, hname, hadd, hperform⟩
    · rw [hadd, hperform]
      rfl
    · rw [hadd, hperform, hname]
      show _ = (contributions (path ++ [name]) v ++ _).foldlM Contribution.perform u
      rw [List.foldlM_append, ← h k v List.mem_cons_self]
      dsimp only
      cases addValue (path ++ [name]) v u with
      | error e => rfl
      | ok w => exact ih (fun j x hx => h j x (List.mem_cons_of_mem _ hx)) w

/-- **The loader performs the contributions in order**, and stops at the first that is refused. -/
theorem addValue_eq_foldlM (v : Value) : ∀ path t,
    addValue path v t = (contributions path v).foldlM Contribution.perform t := by
  induction v using inductionOnVisited with
  | null => exact fun path t => rfl
  | scalar v s hs =>
    intro path t
    rw [addValue_of_scalarText? hs, contributions_of_scalarText? hs, List.foldlM_cons]
    exact (bind_pure _).symm
  | list items ih => exact addItems_eq_foldlM ih
  | map entries ih => exact addEntries_eq_foldlM ih
  | tagged tag v ih => exact ih

/-! ## The keys among the contributions -/

/-- Whether a contribution is no key, or one that is a name. -/
def Contribution.HasName : Contribution → Prop
  | .key _ k => k.IsName
  | .text _ _ => True

/-- The path of names at which a contribution stands. -/
def Contribution.place : Contribution → List String
  | .key path _ => path
  | .text path _ => path

/-- A key that contributes is one of the keys of the value. -/
theorem isKeyIn_of_mem_contributions (v : Value) : ∀ {path p : List String} {k : Value},
    .key p k ∈ contributions path v → k.IsKeyIn v := by
  induction v using inductionOnVisited with
  | null =>
    intro path p k h
    cases h
  | scalar v s hs =>
    intro path p k h
    rw [contributions_of_scalarText? hs] at h
    cases List.mem_singleton.1 h
  | list items ih =>
    intro path p k h
    obtain ⟨v, hv, hk⟩ := mem_itemContributions_iff.1 h
    exact .item hv (ih v hv hk)
  | map entries ih =>
    intro path p k h
    obtain ⟨j, v, hv, hkey | ⟨name, -, hk⟩⟩ := mem_entryContributions_iff.1 h
    · cases hkey
      exact .key hv
    · exact .entry hv (ih j v hv hk)
  | tagged tag v ih =>
    intro path p k h
    exact .tagged (ih h)

/-- When all keys that contribute are names, all keys of the value contribute. -/
theorem isName_of_isKeyIn (hk : k.IsKeyIn v) :
    ∀ {path : List String}, (∀ c ∈ contributions path v, c.HasName) → k.IsName := by
  induction hk with
  | key h =>
    intro path hnames
    exact hnames _ (mem_entryContributions_iff.2 ⟨_, _, h, Or.inl rfl⟩)
  | @entry j v entries h _ ih =>
    intro path hnames
    have hj : j.IsName := hnames _ (mem_entryContributions_iff.2 ⟨j, v, h, Or.inl rfl⟩)
    obtain ⟨name, hname⟩ := (isName_iff_exists j).1 hj
    exact ih fun c hc => hnames c (mem_entryContributions_iff.2 ⟨j, v, h, Or.inr ⟨name, hname, hc⟩⟩)
  | item h _ ih =>
    intro path hnames
    exact ih fun c hc => hnames c (mem_itemContributions_iff.2 ⟨_, h, hc⟩)
  | tagged _ ih => exact ih

/-- The names on the way to a contribution are names of nodes. -/
theorem place_of_mem_contributions (v : Value) : ∀ {path : List String} {c : Contribution},
    (∀ name ∈ path, name ≠ "") → c ∈ contributions path v → ∀ name ∈ c.place, name ≠ "" := by
  induction v using inductionOnVisited with
  | null =>
    intro path c _ h
    cases h
  | scalar v s hs =>
    intro path c hpath h
    rw [contributions_of_scalarText? hs] at h
    cases List.mem_singleton.1 h
    exact hpath
  | list items ih =>
    intro path c hpath h
    obtain ⟨v, hv, hc⟩ := mem_itemContributions_iff.1 h
    exact ih v hv hpath hc
  | map entries ih =>
    intro path c hpath h
    obtain ⟨j, v, hv, hkey | ⟨name, hname, hc⟩⟩ := mem_entryContributions_iff.1 h
    · cases hkey
      exact hpath
    · obtain ⟨-, hne⟩ := nameOf?_eq_some_iff.1 hname
      exact ih j v hv (List.forall_mem_append.2 ⟨hpath, List.forall_mem_singleton.2 hne⟩) hc
  | tagged tag v ih => exact ih

end SettingsTree
end Orchestrator
