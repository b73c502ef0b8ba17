import Orchestrator.Proofs.Settings.Precedence

/-!
# Trees in which nothing is shadowed

Values and sections share one name space and siblings may repeat a name, while a look-up takes the
first child of a name.  What stands below a later child of the same name could not be reached.  No
operation makes such a tree from trees that are none: new children are leaves or have a new name,
and a change goes to the first child of its name, where look-ups go.

* `Unshadowed`: of siblings with one name only the first has children, and a node with children has
  a name.
* `Siblings`: the same of a list of children, with one lemma for each way to change it.
* `Unshadowed.modifyAt`, `Unshadowed.removeAt`, `Unshadowed.overwrite`, `Unshadowed.childAt`: **what
  is kept by the changes of a tree**.
* `nodeAt?`, `namesTo`, `locate?`: nodes by position, and the position to which names lead.
* `Unshadowed.locate?_namesTo`: **the names on the way to a node with children lead to this node**.
-/

namespace Orchestrator
namespace SettingsTree

/-! ## The invariant -/

/-- Whether nothing in a tree is shadowed.  The name of its root does not count. -/
inductive Unshadowed : SettingsTree → Prop where
  | node {k : String} {cs : List SettingsTree}
      (hfirst : cs.Pairwise fun a b => a.key = b.key → b.children = [])
      (hnamed : ∀ c ∈ cs, c.children ≠ [] → c.key ≠ "")
      (hinside : ∀ c ∈ cs, Unshadowed c) : Unshadowed (node k cs)

/-- Whether a tree may stand among siblings: it has a name when it has children, and nothing in it
is shadowed. -/
structure Sibling (c : SettingsTree) : Prop where
  named : c.children ≠ [] → c.key ≠ ""
  inside : c.Unshadowed

/-- Whether nothing in a list of siblings is shadowed. -/
structure Siblings (cs : List SettingsTree) : Prop where
  /-- Only the first of a name has children. -/
  firstOnly : cs.Pairwise fun a b => a.key = b.key → b.children = []
  each : ∀ c ∈ cs, c.Sibling

variable {t c d : SettingsTree} {cs ds : List SettingsTree} {k : String} {path : List String}
  {f : SettingsTree → SettingsTree}

theorem unshadowed_iff : t.Unshadowed ↔ Siblings t.children := by
  obtain ⟨k, cs⟩ := t
  constructor
  · rintro ⟨hfirst, hnamed, hinside⟩
    exact ⟨hfirst, fun c hc => ⟨hnamed c hc, hinside c hc⟩⟩
  · intro h
    exact .node h.firstOnly (fun c hc => (h.each c hc).named) fun c hc => (h.each c hc).inside

theorem unshadowed_of_children_eq_nil (h : t.children = []) : t.Unshadowed := by
  refine unshadowed_iff.2 ?_
  rw [h]
  exact ⟨.nil, fun c hc => (by cases hc)⟩

/-- Only the children of a tree count. -/
theorem Unshadowed.of_children_eq (h : c.Unshadowed) (hd : d.children = c.children) :
    d.Unshadowed := by
  rw [unshadowed_iff, hd]
  exact unshadowed_iff.1 h

theorem sibling_of_children_eq_nil (h : c.children = []) : c.Sibling :=
  ⟨fun hne => absurd h hne, unshadowed_of_children_eq_nil h⟩

/-! ## Changes of siblings -/

/-- Leaves may come behind, whatever their names. -/
theorem Siblings.append_leaves (h : Siblings cs) (hds : ∀ d ∈ ds, d.children = []) :
    Siblings (cs ++ ds) := by
  constructor
  · refine List.pairwise_append.2 ⟨h.firstOnly, ?_, fun a _ b hb _ => hds b hb⟩
    exact List.pairwise_of_forall_mem_list fun a _ b hb _ => hds b hb
  · intro c hc
    rcases List.mem_append.1 hc with hc | hc
    · exact h.each c hc
    · exact sibling_of_children_eq_nil (hds c hc)

/-- A tree with a new name may come behind. -/
theorem Siblings.append_new (h : Siblings cs) (hd : d.Sibling) (hnew : d.key ∉ cs.map key) :
    Siblings (cs ++ [d]) := by
  constructor
  · refine List.pairwise_append.2 ⟨h.firstOnly, List.pairwise_singleton _ d, ?_⟩
    intro a ha b hb hkey
    rw [List.mem_singleton] at hb
    exact absurd (List.mem_map.2 ⟨a, ha, hb ▸ hkey⟩) hnew
  · intro c hc
    rcases List.mem_append.1 hc with hc | hc
    · exact h.each c hc
    · exact List.mem_singleton.1 hc ▸ hd

theorem Siblings.filter (h : Siblings cs) (p : SettingsTree → Bool) : Siblings (cs.filter p) :=
  ⟨h.firstOnly.filter p, fun c hc => h.each c (List.mem_filter.1 hc).1⟩

theorem mem_updateExisting (h : d ∈ updateExisting k f cs) :
    d ∈ cs ∨ ∃ c ∈ cs, c.key = k ∧ d = f c := by
  induction cs with
  | nil => cases h
  | cons a cs ih =>
    rw [updateExisting] at h
    split at h
    · rename_i ha
      rcases List.mem_cons.1 h with h | h
      · exact Or.inr ⟨a, List.mem_cons_self, ha, h⟩
      · exact Or.inl (List.mem_cons_of_mem a h)
    · rcases List.mem_cons.1 h with h | h
      · exact Or.inl (List.mem_cons.2 (Or.inl h))
      · rcases ih h with h | ⟨c, hc, hkey, hd⟩
        · exact Or.inl (List.mem_cons_of_mem a h)
        · exact Or.inr ⟨c, List.mem_cons_of_mem a hc, hkey, hd⟩

/-- The first tree of a name may be changed into another one of this name. -/
theorem Siblings.updateExisting (h : Siblings cs)
    (hf : ∀ c ∈ cs, c.key = k → (f c).key = k ∧ (f c).Sibling) :
    Siblings (updateExisting k f cs) := by
  constructor
  · have hfirst := h.firstOnly
    clear h
    induction cs with
    | nil => exact .nil
    | cons a cs ih =>
      obtain ⟨hhead, htail⟩ := List.pairwise_cons.1 hfirst
      rw [SettingsTree.updateExisting]
      by_cases ha : a.key = k
      · obtain ⟨hkey, -⟩ := hf a List.mem_cons_self ha
        rw [if_pos ha]
        refine List.pairwise_cons.2 ⟨fun b hb hab => ?_, htail⟩
        exact hhead b hb (ha.trans (hkey.symm.trans hab))
      · rw [if_neg ha]
        have hcs : ∀ c ∈ cs, c.key = k → (f c).key = k ∧ (f c).Sibling :=
          fun c hc => hf c (List.mem_cons_of_mem a hc)
        refine List.pairwise_cons.2 ⟨fun b hb hab => ?_, ih hcs htail⟩
        -- the changed tree keeps its name, which is not that of `a`
        rcases mem_updateExisting hb with hb | ⟨c, hc, hck, rfl⟩
        · exact hhead b hb hab
        · exact absurd (hab.trans (hcs c hc hck).1) ha
  · intro d hd
    rcases mem_updateExisting hd with hd | ⟨c, hc, hck, rfl⟩
    · exact h.each d hd
    · exact (hf c hc hck).2

/-- What is there is changed, the first tree of its name. -/
theorem updateChild_of_mem (h : k ∈ cs.map key) : updateChild k f cs = updateExisting k f cs := by
  induction cs with
  | nil => cases h
  | cons a cs ih =>
    rw [updateChild, updateExisting]
    by_cases ha : a.key = k
    · rw [if_pos ha, if_pos ha]
    · rw [if_neg ha, if_neg ha]
      rw [List.map_cons] at h
      rcases List.mem_cons.1 h with h | h
      · exact absurd h.symm ha
      · rw [ih h]

/-- What is missing is made behind the others. -/
theorem updateChild_of_notMem (h : k ∉ cs.map key) : updateChild k f cs = cs ++ [f (leaf k)] := by
  induction cs with
  | nil => rfl
  | cons a cs ih =>
    rw [List.map_cons, List.mem_cons, not_or] at h
    obtain ⟨hne, hcs⟩ := h
    rw [updateChild, if_neg (Ne.symm hne), ih hcs]
    rfl

theorem Siblings.updateChild (h : Siblings cs) (hk : k ≠ "") (hkey : ∀ c, (f c).key = c.key)
    (hf : ∀ c, c.Unshadowed → (f c).Unshadowed) : Siblings (updateChild k f cs) := by
  have hsibling : ∀ c, c.key = k → c.Unshadowed → (f c).Sibling := by
    intro c hc hinside
    refine ⟨fun _ => ?_, hf c hinside⟩
    rw [hkey, hc]
    exact hk
  by_cases hmem : k ∈ cs.map key
  · rw [updateChild_of_mem hmem]
    exact h.updateExisting fun c hc hck =>
      ⟨(hkey c).trans hck, hsibling c hck (h.each c hc).inside⟩
  · rw [updateChild_of_notMem hmem]
    refine h.append_new (hsibling (leaf k) rfl (unshadowed_of_children_eq_nil rfl)) ?_
    rw [hkey]
    exact hmem

/-- Another tree may be laid over siblings. -/
theorem Siblings.overlay (h : Siblings cs) (hd : d.Sibling) : Siblings (overlay cs d) := by
  rw [SettingsTree.overlay]
  split
  · refine h.updateExisting fun c _ hck => ⟨hck, fun hne => ?_, ?_⟩
    · show c.key ≠ ""
      rw [hck]
      exact hd.named hne
    · exact hd.inside.of_children_eq rfl
  · rename_i hany
    exact h.append_new hd (mt (any_key_eq_true_iff d.key cs).2 hany)

theorem Siblings.foldl_overlay (h : Siblings cs) (hds : Siblings ds) :
    Siblings (ds.foldl SettingsTree.overlay cs) := by
  have heach := hds.each
  clear hds
  induction ds generalizing cs with
  | nil => exact h
  | cons d ds ih =>
    exact ih (h.overlay (heach d List.mem_cons_self)) fun c hc =>
      heach c (List.mem_cons_of_mem d hc)

/-! ## Changes of a tree -/

theorem checkPath_eq_ok_iff : checkPath path = .ok () ↔ ∀ k ∈ path, k ≠ "" := by
  rw [checkPath]
  by_cases h : path.any String.isEmpty = true
  · rw [if_pos h]
    obtain ⟨k, hk, hempty⟩ := List.any_eq_true.1 h
    simp only [reduceCtorEq, false_iff]
    exact fun hall => hall k hk (String.isEmpty_iff.1 hempty)
  · rw [if_neg h]
    simp only [true_iff]
    intro k hk hempty
    exact h (List.any_eq_true.2 ⟨k, hk, String.isEmpty_iff.2 hempty⟩)

theorem key_modifyAt (hkey : ∀ c, (f c).key = c.key) (path : List String) (t : SettingsTree) :
    (modifyAt f path t).key = t.key := by
  cases path with
  | nil => exact hkey t
  | cons k path => rfl

/-- A change of the node at a path is made where look-ups go. -/
theorem Unshadowed.modifyAt (ht : t.Unshadowed) (hpath : ∀ k ∈ path, k ≠ "")
    (hkey : ∀ c, (f c).key = c.key) (hf : ∀ c, c.Unshadowed → (f c).Unshadowed) :
    (modifyAt f path t).Unshadowed := by
  induction path generalizing t with
  | nil => exact hf t ht
  | cons k path ih =>
    have hrest : ∀ name ∈ path, name ≠ "" := fun name hname =>
      hpath name (List.mem_cons_of_mem k hname)
    refine unshadowed_iff.2 ?_
    exact (unshadowed_iff.1 ht).updateChild (hpath k List.mem_cons_self) (key_modifyAt hkey path)
      fun c hc => ih hc hrest

theorem Unshadowed.appendLeaves (ht : t.Unshadowed) (values : List String) :
    (appendLeaves values t).Unshadowed := by
  refine unshadowed_iff.2 ((unshadowed_iff.1 ht).append_leaves fun d hd => ?_)
  obtain ⟨value, -, rfl⟩ := List.mem_map.1 hd
  rfl

theorem key_removeAt (path : List String) (t : SettingsTree) : (removeAt path t).key = t.key := by
  match path with
  | [] => rfl
  | [_] => rfl
  | _ :: _ :: _ => rfl

/-- There is nothing to remove from a leaf. -/
theorem children_removeAt_of_nil (h : t.children = []) : (removeAt path t).children = [] := by
  match path with
  | [] => exact h
  | [k] =>
    show removeChild k t.children = []
    rw [h]
    rfl
  | k :: l :: path =>
    show updateExisting k _ t.children = []
    rw [h]
    rfl

/-- A removal goes to the first child of a name as well, and leaves leaves as they are. -/
theorem Unshadowed.removeAt (ht : t.Unshadowed) (path : List String) :
    (removeAt path t).Unshadowed := by
  induction path generalizing t with
  | nil => exact ht
  | cons k path ih =>
    cases path with
    | nil => exact unshadowed_iff.2 ((unshadowed_iff.1 ht).filter _)
    | cons l path =>
      refine unshadowed_iff.2 ((unshadowed_iff.1 ht).updateExisting fun c hc hck => ?_)
      have hc := (unshadowed_iff.1 ht).each c hc
      refine ⟨(key_removeAt _ c).trans hck, fun hne => ?_, ih hc.inside⟩
      rw [key_removeAt]
      exact hc.named fun hnil => hne (children_removeAt_of_nil hnil)

theorem Unshadowed.overwrite {other : SettingsTree} (ht : t.Unshadowed) (ho : other.Unshadowed) :
    (t.overwrite other).Unshadowed :=
  unshadowed_iff.2 ((unshadowed_iff.1 ht).foldl_overlay (unshadowed_iff.1 ho))

theorem Unshadowed.childAt (ht : t.Unshadowed) (h : t.childAt? path = some c) : c.Unshadowed := by
  induction path generalizing t with
  | nil =>
    cases h
    exact ht
  | cons k path ih =>
    rw [childAt?_cons] at h
    obtain ⟨d, hd, hrest⟩ := Option.bind_eq_some_iff.1 h
    exact ih ((unshadowed_iff.1 ht).each d (mem_children_of_child? hd)).inside hrest

/-! ## Positions -/

/-- The node at a path of positions; the empty path leads to the node itself. -/
def nodeAt? (t : SettingsTree) : List Nat → Option SettingsTree
  | [] => some t
  | i :: positions => t.children[i]?.bind fun c => c.nodeAt? positions

/-- The names of the nodes at a path of positions, from the first one below the root. -/
def namesTo (t : SettingsTree) : List Nat → List String
  | [] => []
  | i :: positions =>
    match t.children[i]? with
    | none => []
    | some c => c.key :: c.namesTo positions

/-- The positions to which a path of names leads. -/
def locate? (t : SettingsTree) : List String → Option (List Nat)
  | [] => some []
  | k :: path =>
    (t.children.findIdx? fun c => c.key = k).bind fun i =>
      t.children[i]?.bind fun c => (c.locate? path).map (i :: ·)

/-- A look-up finds the node at the position to which its names lead. -/
theorem childAt?_eq_locate?_bind (t : SettingsTree) (path : List String) :
    t.childAt? path = (t.locate? path).bind t.nodeAt? := by
  induction path generalizing t with
  | nil => rfl
  | cons k path ih =>
    rw [childAt?_cons, locate?, child?_eq_find?, List.find?_eq_bind_findIdx?_getElem?]
    cases t.children.findIdx? fun c => c.key = k with
    | none => rfl
    | some i =>
      simp only [Option.bind_some]
      cases hc : t.children[i]? with
      | none => rfl
      | some c =>
        simp only [Option.bind_some, ih]
        cases c.locate? path with
        | none => rfl
        | some positions => simp [nodeAt?, hc]

/-- A node on the way to a node with children has children. -/
theorem children_ne_nil_of_nodeAt? {positions : List Nat} {n : SettingsTree}
    (h : t.nodeAt? positions = some n) (hn : n.children ≠ []) : t.children ≠ [] := by
  cases positions with
  | nil =>
    cases h
    exact hn
  | cons i positions =>
    intro hnil
    rw [nodeAt?, hnil] at h
    cases h

/-- Among siblings a node with children is the first of its name. -/
theorem Siblings.findIdx?_key {i : Nat} (h : Siblings cs) (hi : cs[i]? = some c)
    (hc : c.children ≠ []) : (cs.findIdx? fun d => d.key = c.key) = some i := by
  obtain ⟨hlt, hget⟩ := List.getElem?_eq_some_iff.1 hi
  refine List.findIdx?_eq_some_iff_getElem.2 ⟨hlt, decide_eq_true (congrArg key hget), ?_⟩
  intro j hj hkey
  have hfirst := List.pairwise_iff_getElem.1 h.firstOnly j i (Nat.lt_trans hj hlt) hlt hj
  rw [hget] at hfirst
  exact hc (hfirst (of_decide_eq_true hkey))

/-- **The names on the way to a node with children lead to this node**, and it has a name unless it
is the root. -/
theorem Unshadowed.locate?_namesTo (ht : t.Unshadowed) {positions : List Nat} {n : SettingsTree}
    (h : t.nodeAt? positions = some n) (hn : n.children ≠ []) :
    t.locate? (t.namesTo positions) = some positions ∧ (positions ≠ [] → n.key ≠ "") := by
  induction positions generalizing t with
  | nil => exact ⟨rfl, fun hne => absurd rfl hne⟩
  | cons i positions ih =>
    obtain ⟨c, hc, hrest⟩ := Option.bind_eq_some_iff.1 h
    have hsiblings := unshadowed_iff.1 ht
    have hsibling := hsiblings.each c (List.mem_of_getElem? hc)
    have hchildren : c.children ≠ [] := children_ne_nil_of_nodeAt? hrest hn
    have hfirst : (t.children.findIdx? fun d => d.key = c.key) = some i :=
      hsiblings.findIdx?_key hc hchildren
    obtain ⟨hlocate, hnamed⟩ := ih hsibling.inside hrest
    constructor
    · rw [namesTo, hc]
      show (t.children.findIdx? fun d => d.key = c.key).bind _ = _
      rw [hfirst, Option.bind_some, hc, Option.bind_some, hlocate]
      rfl
    · intro _
      cases positions with
      | nil =>
        cases hrest
        exact hsibling.named hn
      | cons j positions => exact hnamed (List.cons_ne_nil j positions)

theorem Unshadowed.nodeAt? (ht : t.Unshadowed) {positions : List Nat} {n : SettingsTree}
    (h : t.nodeAt? positions = some n) : n.Unshadowed := by
  induction positions generalizing t with
  | nil =>
    cases h
    exact ht
  | cons i positions ih =>
    obtain ⟨c, hc, hrest⟩ := Option.bind_eq_some_iff.1 h
    exact ih ((unshadowed_iff.1 ht).each c (List.mem_of_getElem? hc)).inside hrest

end SettingsTree
end Orchestrator
