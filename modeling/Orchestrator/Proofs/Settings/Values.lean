import Orchestrator.Proofs.Settings.Shadowing

/-!
# What a change does to the values at a path

The values at a path are the names of the children of the node there.  A change at a path that is
there leaves alone what is stored at every other path, above it, beside it and below it: the nodes
on the way keep their names and places, and what comes behind the children of the node itself is
leaves, in which there is nothing.

* `SettingsTree.namesAt`: the values at a path, none when there are none; `get?_eq_namesAt`.
* `contains_append_singleton_iff`: a path is there when its last name is a value at the path before.
* `namesAt_modifyAt`: **a change of one list of children is a change of the values at one path**.
* `namesAt_modifyAt_appendLeaves`, `namesAt_modifyAt_id`: the values after values were added, and
  after a node was made.
-/

namespace Orchestrator
namespace SettingsTree

/-- The names of the children of the node at a path, none when there is no such node. -/
def namesAt (t : SettingsTree) (path : List String) : List String :=
  (t.childrenAt path).map key

variable {t c : SettingsTree} {k : String} {path p q : List String}
  {f : SettingsTree → SettingsTree}

@[simp] theorem namesAt_nil (t : SettingsTree) : t.namesAt [] = t.children.map key := rfl

theorem namesAt_cons (t : SettingsTree) (k : String) (path : List String) :
    t.namesAt (k :: path) = (t.child? k).elim [] fun c => c.namesAt path := by
  rw [namesAt, childrenAt, childAt?_cons]
  cases t.child? k <;> rfl

@[simp] theorem namesAt_leaf (k : String) (path : List String) : (leaf k).namesAt path = [] := by
  cases path with
  | nil => rfl
  | cons j path => exact namesAt_cons (leaf k) j path

theorem namesAt_of_childAt? (h : t.childAt? path = some c) :
    t.namesAt path = c.children.map key := by
  rw [namesAt, childrenAt, h]
  rfl

/-- The values at a path are these names, unless there are none. -/
theorem get?_eq_namesAt (t : SettingsTree) (path : List String) :
    t.get? path = if t.namesAt path = [] then none else some (t.namesAt path) := by
  rw [get?, namesAt, childrenAt]
  cases t.childAt? path with
  | none => rfl
  | some c =>
    show c.values? = if c.children.map key = [] then none else some (c.children.map key)
    rw [values?]
    simp only [List.isEmpty_iff, List.map_eq_nil_iff]

/-! ## Paths that are there -/

theorem exists_childAt?_of_contains (h : t.contains path = true) : ∃ c, t.childAt? path = some c :=
  Option.isSome_iff_exists.1 h

theorem contains_of_append (h : t.contains (path ++ q) = true) : t.contains path = true := by
  obtain ⟨c, hc⟩ := exists_childAt?_of_contains h
  rw [childAt?_append] at hc
  obtain ⟨d, hd, -⟩ := Option.bind_eq_some_iff.1 hc
  rw [contains, hd]
  rfl

theorem isSome_child?_iff (t : SettingsTree) (k : String) :
    (t.child? k).isSome = true ↔ k ∈ t.children.map key := by
  rw [child?_eq_find?, List.find?_isSome, List.mem_map]
  simp only [decide_eq_true_eq]

/-- A path is there when its last name is one of the values at the path before it. -/
theorem contains_append_singleton_iff :
    t.contains (path ++ [k]) = true ↔ k ∈ t.namesAt path := by
  rw [contains, childAt?_append]
  cases h : t.childAt? path with
  | none => simp [namesAt, childrenAt, h]
  | some c =>
    rw [Option.bind_some, childAt?_cons, namesAt_of_childAt? h, ← isSome_child?_iff]
    cases c.child? k <;> rfl

/-! ## A change of one list of children -/

/-- The child of a name after a change behind a name: the changed child, made when there was none,
for this name, and what was there for any other. -/
theorem child?_modifyAt_cons (hkey : ∀ c, (f c).key = c.key) (k : String) (path : List String)
    (t : SettingsTree) (j : String) :
    (modifyAt f (k :: path) t).child? j =
      if k = j then some (modifyAt f path ((t.child? k).getD (leaf k))) else t.child? j := by
  rw [modifyAt_cons, child?_eq_find?, children_node]
  cases h : t.child? k with
  | some c =>
    have hmem : k ∈ t.children.map key := by
      rw [← isSome_child?_iff, h]
      rfl
    rw [updateChild_of_mem hmem, find?_updateExisting (key_modifyAt hkey path), ← child?_eq_find?]
    by_cases hj : k = j
    · rw [if_pos hj, if_pos hj, ← hj, h]
      rfl
    · rw [if_neg hj, if_neg hj]
  | none =>
    have hnew : k ∉ t.children.map key := by
      rw [← isSome_child?_iff, h]
      exact Bool.false_ne_true
    have hmade : (modifyAt f path (leaf k)).key = k := key_modifyAt hkey path (leaf k)
    rw [updateChild_of_notMem hnew, List.find?_append, ← child?_eq_find?, List.find?_singleton,
      hmade, Option.getD_none]
    by_cases hj : k = j
    · rw [if_pos hj, ← hj, h, decide_eq_true rfl, if_pos rfl, Option.none_or]
    · rw [if_neg hj, decide_eq_false hj, if_neg Bool.false_ne_true, Option.or_none]

/-- **A change of one list of children is a change of the values at one path.**  It may not touch
what the children hold, and the node must be there. -/
theorem namesAt_modifyAt (hkey : ∀ c, (f c).key = c.key)
    (hbelow : ∀ c j r, (f c).namesAt (j :: r) = c.namesAt (j :: r))
    (h : t.childAt? path = some c) (p : List String) :
    (modifyAt f path t).namesAt p =
      if p = path then (f c).children.map key else t.namesAt p := by
  induction path generalizing t p with
  | nil =>
    obtain rfl : t = c := Option.some.inj h
    cases p with
    | nil => rfl
    | cons j r => exact hbelow t j r
  | cons k path ih =>
    rw [childAt?_cons] at h
    obtain ⟨d, hd, hrest⟩ := Option.bind_eq_some_iff.1 h
    cases p with
    | nil =>
      have hmem : k ∈ t.children.map key := by
        rw [← isSome_child?_iff, hd]
        rfl
      rw [if_neg (List.cons_ne_nil k path).symm, namesAt_nil, modifyAt_cons, children_node,
        updateChild_of_mem hmem, map_key_updateExisting (key_modifyAt hkey path), namesAt_nil]
    | cons j r =>
      rw [namesAt_cons, child?_modifyAt_cons hkey, namesAt_cons]
      by_cases hj : k = j
      · rw [if_pos hj, ← hj, hd, Option.elim_some, Option.elim_some, Option.getD_some, ih hrest r]
        simp only [List.cons.injEq, true_and]
      · have hne : ¬ j :: r = k :: path := fun heq => hj (List.cons.inj heq).1.symm
        rw [if_neg hj, if_neg hne]

/-! ## Values and nodes that are added -/

theorem key_appendLeaves (values : List String) (c : SettingsTree) :
    (appendLeaves values c).key = c.key := rfl

/-- Values are added behind the names of the children. -/
theorem map_key_map_leaf (values : List String) : (values.map leaf).map key = values := by
  rw [List.map_map]
  exact List.map_id values

theorem map_key_appendLeaves (values : List String) (c : SettingsTree) :
    (appendLeaves values c).children.map key = c.children.map key ++ values := by
  rw [appendLeaves, children_node, List.map_append, map_key_map_leaf]

/-- There is nothing in leaves that come behind the children of a node. -/
theorem namesAt_appendLeaves_cons (values : List String) (c : SettingsTree) (j : String)
    (r : List String) : (appendLeaves values c).namesAt (j :: r) = c.namesAt (j :: r) := by
  have happend : (appendLeaves values c).child? j =
      (c.child? j).or ((values.map leaf).find? fun d => d.key = j) :=
    List.find?_append
  rw [namesAt_cons, namesAt_cons, happend]
  cases c.child? j with
  | some d => rfl
  | none =>
    rw [Option.none_or, Option.elim_none]
    cases hleaf : (values.map leaf).find? fun d => d.key = j with
    | none => rfl
    | some d =>
      obtain ⟨value, -, rfl⟩ := List.mem_map.1 (List.mem_of_find?_eq_some hleaf)
      exact namesAt_leaf value r

/-- **The values after values were added at a path that is there.** -/
theorem namesAt_modifyAt_appendLeaves (h : t.contains path = true) (values p : List String) :
    (modifyAt (appendLeaves values) path t).namesAt p =
      if p = path then t.namesAt p ++ values else t.namesAt p := by
  obtain ⟨c, hc⟩ := exists_childAt?_of_contains h
  rw [namesAt_modifyAt (key_appendLeaves values) (namesAt_appendLeaves_cons values) hc]
  by_cases hp : p = path
  · rw [if_pos hp, if_pos hp, hp, namesAt_of_childAt? hc, map_key_appendLeaves]
  · rw [if_neg hp, if_neg hp]

/-- A path stays there when values are added at it. -/
theorem contains_modifyAt_appendLeaves (h : t.contains path = true) (values : List String) :
    (modifyAt (appendLeaves values) path t).contains path = true := by
  rcases List.eq_nil_or_concat path with rfl | ⟨above, k, rfl⟩
  · rfl
  · rw [List.concat_eq_append] at h ⊢
    have habove : ¬ above = above ++ [k] := by simp
    rw [contains_append_singleton_iff, namesAt_modifyAt_appendLeaves h, if_neg habove]
    exact contains_append_singleton_iff.1 h

/-- A change along two paths in a row is one along the first, of the node to which it leads. -/
theorem modifyAt_append (f : SettingsTree → SettingsTree) (path q : List String)
    (t : SettingsTree) : modifyAt f (path ++ q) t = modifyAt (modifyAt f q) path t := by
  induction path generalizing t with
  | nil => rfl
  | cons k path ih =>
    have hstep : modifyAt f (path ++ q) = modifyAt (modifyAt f q) path := funext ih
    rw [List.cons_append, modifyAt_cons, modifyAt_cons, hstep]

theorem updateExisting_id (k : String) (cs : List SettingsTree) : updateExisting k id cs = cs := by
  induction cs with
  | nil => rfl
  | cons c cs ih =>
    rw [updateExisting, ih]
    exact ite_id (c :: cs)

/-- A child that is made comes last, and it is not made when there is one of its name. -/
theorem modifyAt_id_singleton (k : String) (t : SettingsTree) :
    modifyAt id [k] t = if k ∈ t.children.map key then t else appendLeaves [k] t := by
  have hid : modifyAt id [] = id := rfl
  obtain ⟨name, cs⟩ := t
  rw [modifyAt_cons, hid, children_node]
  by_cases h : k ∈ cs.map key
  · rw [if_pos h, updateChild_of_mem h, updateExisting_id]
    rfl
  · rw [if_neg h, updateChild_of_notMem h]
    rfl

/-- **The values after a node was made below a path that is there.** -/
theorem namesAt_modifyAt_id (h : t.contains path = true) (k : String) (p : List String) :
    (modifyAt id (path ++ [k]) t).namesAt p =
      if p = path ∧ k ∉ t.namesAt p then t.namesAt p ++ [k] else t.namesAt p := by
  obtain ⟨c, hc⟩ := exists_childAt?_of_contains h
  have hkey : ∀ c, (modifyAt id [k] c).key = c.key := fun _ => rfl
  have hbelow : ∀ c j r, (modifyAt id [k] c).namesAt (j :: r) = c.namesAt (j :: r) := by
    intro c j r
    rw [modifyAt_id_singleton]
    split
    · rfl
    · exact namesAt_appendLeaves_cons [k] c j r
  rw [modifyAt_append, namesAt_modifyAt hkey hbelow hc, modifyAt_id_singleton]
  by_cases hp : p = path
  · rw [if_pos hp, hp, namesAt_of_childAt? hc]
    by_cases hk : k ∈ c.children.map key
    · rw [if_pos hk, if_neg fun hnew => hnew.2 hk]
    · rw [if_neg hk, if_pos ⟨rfl, hk⟩, appendLeaves, children_node, List.map_append]
      rfl
  · rw [if_neg hp, if_neg fun hnew => hp hnew.1]

end SettingsTree
end Orchestrator
