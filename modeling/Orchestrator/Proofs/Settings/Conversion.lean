import Orchestrator.Proofs.Settings.Contributions

/-!
# The settings of a document

Performing what a value contributes ends at the first key that is no name, and is otherwise one
change of the tree after another.  Each of them adds at a path that is there already: a key of a
mapping has made the node at which the value of the key contributes.  A change at such a path is
seen at this path only, so that the values at a path are what was contributed there, in document
order.

* `foldlM_perform_eq_ok`, `foldlM_perform_eq_error`: what becomes of contributions.
* `Contribution.addTo`, `valuesAt`: the values that contributions give to a path.
* `ReadBack`, `readBack_contributions`: **what a value contributes is read back at the paths at
  which it was contributed**.
* `Yaml.Value.Regrouped`: values that differ in how they group what they hold, which contribute the
  same.
* `ofValue_contributions`: **the settings of a document are its keys and scalars**.
-/

namespace Orchestrator

/-- Whether two values differ only in how they group what they hold: a sequence in a sequence or its
items, a tag or none, nulls in a sequence or none, at any depth.  Keys are the same; one with a tag
is no name. -/
inductive Yaml.Value.Regrouped : Yaml.Value → Yaml.Value → Prop where
  | refl (v : Value) : Regrouped v v
  | symm {v w : Value} (h : Regrouped v w) : Regrouped w v
  | trans {u v w : Value} (h : Regrouped u v) (h' : Regrouped v w) : Regrouped u w
  | splice (before inner after : List Value) :
      Regrouped (.list (before ++ .list inner :: after)) (.list (before ++ (inner ++ after)))
  | untag (tag : String) (v : Value) : Regrouped (.tagged tag v) v
  | null (before after : List Value) :
      Regrouped (.list (before ++ .null :: after)) (.list (before ++ after))
  | item {v w : Value} (before after : List Value) (h : Regrouped v w) :
      Regrouped (.list (before ++ v :: after)) (.list (before ++ w :: after))
  | entry {v w : Value} (before : List (Value × Value)) (k : Value)
      (after : List (Value × Value)) (h : Regrouped v w) :
      Regrouped (.map (before ++ (k, v) :: after)) (.map (before ++ (k, w) :: after))

namespace SettingsTree

open Yaml (Value)

variable {path p : List String} {k v w : Value} {c : Contribution} {cs ds : List Contribution}
  {t u : SettingsTree}

/-! ## Contributions that are refused -/

/-- Why a key that is no name is refused: a text for being empty, anything else for being no
scalar. -/
def fault (path : List String) : Value → DocumentError
  | .text _ => .settings (.invalidPath (path ++ [""]))
  | _ => .unsupported path

theorem perform_key_of_not_isName (hk : ¬ k.IsName) (path : List String) (t : SettingsTree) :
    (Contribution.key path k).perform t = .error (fault path k) := by
  cases k with
  | bool b => exact absurd trivial hk
  | number n => exact absurd trivial hk
  | text s =>
    obtain rfl : s = "" := Classical.not_not.1 hk
    have hempty : (path ++ [""]).any String.isEmpty = true := by
      rw [List.any_append]
      exact Bool.or_true _
    show (t.ensurePath (path ++ [""])).mapError DocumentError.settings = _
    rw [ensurePath, checkPath, if_pos hempty]
    rfl
  | null => rfl
  | list items => rfl
  | map entries => rfl
  | tagged tag v => rfl

/-- The change of a tree that a contribution makes; a key that is no name makes none. -/
def Contribution.change (t : SettingsTree) : Contribution → SettingsTree
  | .key path k => (nameOf? k).elim t fun name => modifyAt id (path ++ [name]) t
  | .text path s => modifyAt (appendLeaves [s]) path t

/-- A text is never refused, nor is a key that is a name. -/
theorem perform_eq_ok (hplace : ∀ name ∈ c.place, name ≠ "") (hc : c.HasName)
    (t : SettingsTree) : c.perform t = .ok (c.change t) := by
  cases c with
  | key path k =>
    obtain ⟨name, hname⟩ := (isName_iff_exists k).1 hc
    obtain ⟨htext, hne⟩ := nameOf?_eq_some_iff.1 hname
    have hpath : ∀ n ∈ path ++ [name], n ≠ "" :=
      List.forall_mem_append.2 ⟨hplace, List.forall_mem_singleton.2 hne⟩
    have hensure : t.ensurePath (path ++ [name]) = .ok (modifyAt id (path ++ [name]) t) :=
      ensurePath_eq_ok_iff.2 ⟨hpath, rfl⟩
    simp only [Contribution.perform, Contribution.change, htext, hname, hensure, Except.mapError,
      Option.elim_some]
  | text path s =>
    have hadd : t.add path s = .ok (modifyAt (appendLeaves [s]) path t) :=
      addValues_eq_ok_iff.2 ⟨hplace, rfl⟩
    simp only [Contribution.perform, Contribution.change, hadd, Except.mapError]

theorem foldlM_perform_eq_ok (hplace : ∀ c ∈ cs, ∀ name ∈ c.place, name ≠ "")
    (hnames : ∀ c ∈ cs, c.HasName) (t : SettingsTree) :
    cs.foldlM Contribution.perform t = .ok (cs.foldl Contribution.change t) := by
  induction cs generalizing t with
  | nil => rfl
  | cons c cs ih =>
    rw [List.foldlM_cons, perform_eq_ok (hplace c List.mem_cons_self) (hnames c List.mem_cons_self)]
    exact ih (fun d hd => hplace d (List.mem_cons_of_mem c hd))
      (fun d hd => hnames d (List.mem_cons_of_mem c hd)) (c.change t)

/-- Nothing is performed behind the first key that is no name. -/
theorem foldlM_perform_eq_error (hplace : ∀ c ∈ cs, ∀ name ∈ c.place, name ≠ "")
    (hnames : ∀ c ∈ cs, c.HasName) (hk : ¬ k.IsName) (path : List String)
    (ds : List Contribution) (t : SettingsTree) :
    (cs ++ .key path k :: ds).foldlM Contribution.perform t = .error (fault path k) := by
  rw [List.foldlM_append, foldlM_perform_eq_ok hplace hnames]
  show (Contribution.key path k :: ds).foldlM Contribution.perform _ = _
  rw [List.foldlM_cons, perform_key_of_not_isName hk]
  rfl

/-- Either all keys are names or one is the first that is none. -/
theorem forall_hasName_or_exists (cs : List Contribution) :
    (∀ c ∈ cs, c.HasName) ∨ ∃ before path k after, cs = before ++ .key path k :: after ∧
      (∀ c ∈ before, c.HasName) ∧ ¬ k.IsName := by
  induction cs with
  | nil => exact Or.inl fun c hc => (by cases hc)
  | cons c cs ih =>
    by_cases hc : c.HasName
    · rcases ih with hall | ⟨before, path, k, after, rfl, hbefore, hk⟩
      · exact Or.inl (List.forall_mem_cons.2 ⟨hc, hall⟩)
      · exact Or.inr ⟨c :: before, path, k, after, rfl, List.forall_mem_cons.2 ⟨hc, hbefore⟩, hk⟩
    · cases c with
      | key path k =>
        exact Or.inr ⟨[], path, k, cs, rfl, fun c hc => (by cases hc), hc⟩
      | text path s => exact absurd trivial hc

/-! ## The values at a path -/

/-- The values at a path `p` after a contribution: a text at this path comes behind them, and so
does the name of a key, unless it is one of them. -/
def Contribution.addTo (p : List String) (names : List String) : Contribution → List String
  | .key path k =>
    match nameOf? k with
    | none => names
    | some name => if p = path ∧ name ∉ names then names ++ [name] else names
  | .text path s => if p = path then names ++ [s] else names

/-- What was contributed at a path, in order. -/
def valuesAt (p : List String) (cs : List Contribution) : List String :=
  cs.foldl (Contribution.addTo p) []

/-- Whether contributions at or below a path that is there leave it there and are read back at the
paths at which they were made. -/
structure ReadBack (path : List String) (t : SettingsTree) (cs : List Contribution) : Prop where
  contains : (cs.foldl Contribution.change t).contains path = true
  namesAt : ∀ p, (cs.foldl Contribution.change t).namesAt p =
    cs.foldl (Contribution.addTo p) (t.namesAt p)

theorem ReadBack.nil (h : t.contains path = true) : ReadBack path t [] :=
  ⟨h, fun _ => rfl⟩

theorem ReadBack.append (hcs : ReadBack path t cs)
    (hds : ReadBack path (cs.foldl Contribution.change t) ds) : ReadBack path t (cs ++ ds) := by
  constructor
  · rw [List.foldl_append]
    exact hds.contains
  · intro p
    rw [List.foldl_append, List.foldl_append, hds.namesAt, hcs.namesAt]

theorem ReadBack.above {name : String} (h : ReadBack (path ++ [name]) t cs) : ReadBack path t cs :=
  ⟨contains_of_append h.contains, h.namesAt⟩

/-- A text is a value at its path and nowhere else. -/
theorem readBack_text (h : t.contains path = true) (s : String) :
    ReadBack path t [.text path s] := by
  constructor
  · show (modifyAt (appendLeaves [s]) path t).contains path = true
    exact contains_modifyAt_appendLeaves h [s]
  · intro p
    show (modifyAt (appendLeaves [s]) path t).namesAt p = _
    rw [namesAt_modifyAt_appendLeaves h]
    rfl

/-- A key that is a name is a value at its path and nowhere else. -/
theorem readBack_key {name : String} (h : t.contains path = true) (hname : nameOf? k = some name) :
    ReadBack (path ++ [name]) t [.key path k] := by
  have hchange : (Contribution.key path k).change t = modifyAt id (path ++ [name]) t := by
    rw [Contribution.change, hname, Option.elim_some]
  have hnames : ∀ p, ((Contribution.key path k).change t).namesAt p =
      if p = path ∧ name ∉ t.namesAt p then t.namesAt p ++ [name] else t.namesAt p := by
    intro p
    rw [hchange, namesAt_modifyAt_id h]
  constructor
  · show ((Contribution.key path k).change t).contains (path ++ [name]) = true
    rw [contains_append_singleton_iff, hnames]
    by_cases hmem : name ∈ t.namesAt path
    · rw [if_neg fun hnew => hnew.2 hmem]
      exact hmem
    · rw [if_pos ⟨rfl, hmem⟩]
      exact List.mem_append_right _ List.mem_cons_self
  · intro p
    show ((Contribution.key path k).change t).namesAt p =
      (Contribution.key path k).addTo p (t.namesAt p)
    rw [hnames, Contribution.addTo, hname]

/-- A key that is no name leaves everything as it is. -/
theorem readBack_key_of_nameOf?_eq_none (h : t.contains path = true) (hname : nameOf? k = none) :
    ReadBack path t [.key path k] := by
  have hchange : (Contribution.key path k).change t = t := by
    rw [Contribution.change, hname, Option.elim_none]
  constructor
  · show ((Contribution.key path k).change t).contains path = true
    rw [hchange]
    exact h
  · intro p
    show ((Contribution.key path k).change t).namesAt p =
      (Contribution.key path k).addTo p (t.namesAt p)
    rw [hchange, Contribution.addTo, hname]

theorem readBack_itemContributions {vs : List Value}
    (h : ∀ v ∈ vs, ∀ path t, t.contains path = true → ReadBack path t (contributions path v))
    (path : List String) (t : SettingsTree) (ht : t.contains path = true) :
    ReadBack path t (itemContributions path vs) := by
  induction vs generalizing t with
  | nil => exact .nil ht
  | cons v vs ih =>
    have hv : ReadBack path t (contributions path v) := h v List.mem_cons_self path t ht
    rw [itemContributions]
    exact hv.append (ih (fun w hw => h w (List.mem_cons_of_mem v hw)) _ hv.contains)

/-- Below a key stands what its value contributes, and behind that the path of the mapping is there
still. -/
theorem readBack_entryContributions {es : List (Value × Value)}
    (h : ∀ k v, (k, v) ∈ es →
      ∀ path t, t.contains path = true → ReadBack path t (contributions path v))
    (path : List String) (t : SettingsTree) (ht : t.contains path = true) :
    ReadBack path t (entryContributions path es) := by
  induction es generalizing t with
  | nil => exact .nil ht
  | cons e es ih =>
    obtain ⟨k, v⟩ := e
    have hrest : ∀ t : SettingsTree, t.contains path = true →
        ReadBack path t (entryContributions path es) :=
      ih fun j w hw => h j w (List.mem_cons_of_mem _ hw)
    rw [entryContributions]
    cases hname : nameOf? k with
    | none =>
      have hkey : ReadBack path t [.key path k] := readBack_key_of_nameOf?_eq_none ht hname
      exact hkey.append (hrest _ hkey.contains)
    | some name =>
      have hkey : ReadBack (path ++ [name]) t [.key path k] := readBack_key ht hname
      have hbelow := hkey.append (h k v List.mem_cons_self (path ++ [name]) _ hkey.contains)
      exact hbelow.above.append (hrest _ hbelow.above.contains)

/-- **What a value contributes is read back at the paths at which it was contributed.** -/
theorem readBack_contributions (v : Value) : ∀ path t, t.contains path = true →
    ReadBack path t (contributions path v) := by
  induction v using inductionOnVisited with
  | null => exact fun path t ht => .nil ht
  | scalar v s hs =>
    intro path t ht
    rw [contributions_of_scalarText? hs]
    exact readBack_text ht s
  | list items ih => exact readBack_itemContributions ih
  | map entries ih => exact readBack_entryContributions ih
  | tagged tag v ih => exact ih

/-! ## Values that contribute the same -/

theorem contributions_eq_of_regrouped (h : v.Regrouped w) :
    ∀ path, contributions path v = contributions path w := by
  induction h with
  | refl v => exact fun path => rfl
  | symm _ ih => exact fun path => (ih path).symm
  | trans _ _ ih ih' => exact fun path => (ih path).trans (ih' path)
  | splice before inner after =>
    intro path
    simp only [contributions, itemContributions_append, itemContributions]
  | untag tag v => exact fun path => rfl
  | null before after =>
    intro path
    simp only [contributions, itemContributions_append, itemContributions, List.nil_append]
  | item before after _ ih =>
    intro path
    simp only [contributions, itemContributions_append, itemContributions, ih]
  | entry before k after _ ih =>
    intro path
    simp only [contributions, entryContributions_append, entryContributions, ih]

/-! ## The settings of a document -/

/-- A value whose keys are names is added as its contributions. -/
theorem addValue_eq_ok (hpath : ∀ name ∈ path, name ≠ "")
    (hnames : ∀ c ∈ contributions path v, c.HasName) (t : SettingsTree) :
    addValue path v t = .ok ((contributions path v).foldl Contribution.change t) := by
  rw [addValue_eq_foldlM]
  exact foldlM_perform_eq_ok (fun c hc => place_of_mem_contributions v hpath hc) hnames t

/-- A value is refused for the first key that is no name. -/
theorem addValue_eq_error (hpath : ∀ name ∈ path, name ≠ "")
    (hsplit : contributions path v = cs ++ .key p k :: ds) (hnames : ∀ c ∈ cs, c.HasName)
    (hk : ¬ k.IsName) (t : SettingsTree) : addValue path v t = .error (fault p k) := by
  rw [addValue_eq_foldlM, hsplit]
  refine foldlM_perform_eq_error (fun c hc => place_of_mem_contributions v hpath ?_) hnames hk p ds t
  rw [hsplit]
  exact List.mem_append_left _ hc

theorem hasName_of_addValue_eq_ok (hpath : ∀ name ∈ path, name ≠ "")
    (h : addValue path v t = .ok u) : ∀ c ∈ contributions path v, c.HasName := by
  rcases forall_hasName_or_exists (contributions path v) with
    hall | ⟨before, p, k, after, hsplit, hbefore, hk⟩
  · exact hall
  · rw [addValue_eq_error hpath hsplit hbefore hk] at h
    cases h

/-- There is an error exactly when some key is no name, and the first such key tells which. -/
theorem addValue_eq_error_iff (hpath : ∀ name ∈ path, name ≠ "") {e : DocumentError} :
    addValue path v t = .error e ↔ ∃ before p k after,
      contributions path v = before ++ .key p k :: after ∧ (∀ c ∈ before, c.HasName) ∧
        ¬ k.IsName ∧ e = fault p k := by
  constructor
  · intro he
    rcases forall_hasName_or_exists (contributions path v) with
      hall | ⟨before, p, k, after, hsplit, hbefore, hk⟩
    · rw [addValue_eq_ok hpath hall] at he
      cases he
    · rw [addValue_eq_error hpath hsplit hbefore hk] at he
      exact ⟨before, p, k, after, hsplit, hbefore, hk, (Except.error.inj he).symm⟩
  · rintro ⟨before, p, k, after, hsplit, hbefore, hk, rfl⟩
    exact addValue_eq_error hpath hsplit hbefore hk t

/-- There is a tree exactly when every key in the value is a name. -/
theorem exists_addValue_eq_ok_iff (hpath : ∀ name ∈ path, name ≠ "") :
    (∃ u, addValue path v t = .ok u) ↔ ∀ k : Value, k.IsKeyIn v → k.IsName := by
  constructor
  · rintro ⟨u, hu⟩ k hk
    exact isName_of_isKeyIn hk (hasName_of_addValue_eq_ok hpath hu)
  · intro hall
    refine ⟨_, addValue_eq_ok hpath (fun c hc => ?_) t⟩
    cases c with
    | key p k => exact hall k (isKeyIn_of_mem_contributions v hc)
    | text p s => trivial

/-- **The settings of a document.**  Let the contributions of a value be its keys and scalars in
document order, each with the names on the way to it.

* There are settings exactly when every key of a mapping in the value, at any depth, is a name.
* Otherwise the error is that of the first key among the contributions that is none.
* The settings are what is made by performing the contributions in order: a node for each key and a
  leaf for each scalar.
* The values at a path are what was contributed at this path, in order.
* Replacing a sequence in a sequence by its items, removing the tag of a value and adding nulls to a
  sequence change neither the settings nor the error. -/
theorem ofValue_contributions (v : Value) :
    let cs := contributions [] v
    ((∃ t, ofValue v = .ok t) ↔ ∀ k : Value, k.IsKeyIn v → k.IsName) ∧
      (∀ e, ofValue v = .error e ↔ ∃ before path k after, cs = before ++ .key path k :: after ∧
        (∀ c ∈ before, c.HasName) ∧ ¬ k.IsName ∧ e = fault path k) ∧
      (∀ t, ofValue v = .ok t ↔ cs.foldlM Contribution.perform (leaf Names.root) = .ok t) ∧
      (∀ t p, ofValue v = .ok t →
        t.get? p = if valuesAt p cs = [] then none else some (valuesAt p cs)) ∧
      ∀ w, v.Regrouped w → ofValue v = ofValue w := by
  intro cs
  have hpath : ∀ name ∈ ([] : List String), name ≠ "" := fun name hname => (by cases hname)
  refine ⟨exists_addValue_eq_ok_iff hpath, fun e => addValue_eq_error_iff hpath, ?_, ?_, ?_⟩
  · intro t
    rw [ofValue, addValue_eq_foldlM]
  · intro t p ht
    have hread := (readBack_contributions v [] (leaf Names.root) rfl).namesAt p
    rw [ofValue, addValue_eq_ok hpath (hasName_of_addValue_eq_ok hpath ht)] at ht
    cases ht
    rw [get?_eq_namesAt, hread, namesAt_leaf]
    rfl
  · intro w hw
    rw [ofValue, ofValue, addValue_eq_foldlM, addValue_eq_foldlM, contributions_eq_of_regrouped hw]

/-- A section in a nested sequence goes below the value of its name, which is not repeated. -/
example :
    let make := Value.map [(.text "make", .text "lib")]
    let v := Value.map [(.text "build", .list [.text "make", .list [.null, make], .text "all"])]
    valuesAt ["build"] (contributions [] v) = ["make", "all"] ∧
      valuesAt ["build", "make"] (contributions [] v) = ["lib"] := by
  decide

end SettingsTree
end Orchestrator
