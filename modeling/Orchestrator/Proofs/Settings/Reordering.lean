import Mathlib.Logic.Relation
import Orchestrator.Proofs.Settings.Equality

/-!
# Agreement is equality up to the order of siblings

Agreement looks at one side only: it counts the children and finds each child of the first tree in
the second.  When no two siblings share a name this is all there is to say.  The names are the same
on both sides, so that the children that are found are the children of the second tree in another
order.

* `Reordered`: the children of one node, anywhere in a tree, in another order.
* `reorderings_map`: reorderings inside each of some siblings are reorderings of the whole.
* `Reordered.noTwins`, `Reordered.agree`: **one reordering** makes no twins, and keeps agreement.
* `NoTwins.reorderings_of_agree`: **trees that agree** differ by reorderings.
* `NoTwins.childAt?_of_agree`: trees that agree have nodes at the same paths, and these agree.
* `NoTwins.agree_iff_reorderings`: **what agreement means**.
-/

namespace Orchestrator
namespace SettingsTree

variable {a b c d t : SettingsTree} {k : String} {cs ds : List SettingsTree}

theorem noTwins_iff :
    t.NoTwins ↔ (t.children.Pairwise fun a b => a.key ≠ b.key) ∧ ∀ c ∈ t.children, c.NoTwins :=
  siblingsAre_iff

theorem noTwins_node :
    (node k cs).NoTwins ↔ (cs.Pairwise fun a b => a.key ≠ b.key) ∧ ∀ c ∈ cs, c.NoTwins :=
  siblingsAre_node

/-! ## Reorderings -/

/-- Whether the second tree is the first one with the children of one node, anywhere in it, in
another order. -/
inductive Reordered : SettingsTree → SettingsTree → Prop where
  | here {k : String} {cs ds : List SettingsTree} (h : cs.Perm ds) :
      Reordered (node k cs) (node k ds)
  | inside {k : String} {before after : List SettingsTree} {c d : SettingsTree}
      (h : Reordered c d) :
      Reordered (node k (before ++ c :: after)) (node k (before ++ d :: after))

theorem Reordered.key_eq (h : Reordered a b) : a.key = b.key := by
  cases h with
  | here _ => rfl
  | inside _ => rfl

/-- Reorderings inside one child are reorderings of the tree. -/
theorem reorderings_inside (k : String) (before after : List SettingsTree)
    (h : Relation.ReflTransGen Reordered c d) :
    Relation.ReflTransGen Reordered (node k (before ++ c :: after))
      (node k (before ++ d :: after)) :=
  h.lift (fun x => node k (before ++ x :: after)) fun _ _ => .inside

/-- Reorderings inside each of some siblings are reorderings of the tree. -/
theorem reorderings_map {g : SettingsTree → SettingsTree} (k : String) (before : List SettingsTree)
    (h : ∀ c ∈ cs, Relation.ReflTransGen Reordered c (g c)) :
    Relation.ReflTransGen Reordered (node k (before ++ cs)) (node k (before ++ cs.map g)) := by
  induction cs generalizing before with
  | nil => exact .refl
  | cons c cs ih =>
    have hfirst := reorderings_inside k before cs (h c List.mem_cons_self)
    have hrest := ih (before ++ [g c]) fun x hx => h x (List.mem_cons_of_mem c hx)
    rw [List.append_assoc, List.append_assoc] at hrest
    exact hfirst.trans hrest

/-! ## One reordering -/

/-- Trees agree when each child of the first agrees with one of the second that has its name, and no
two children of the second share theirs. -/
theorem agree_of_forall_exists (hb : b.children.Pairwise fun c d => c.key ≠ d.key)
    (hkey : a.key = b.key) (hlength : a.children.length = b.children.length)
    (h : ∀ c ∈ a.children, ∃ d ∈ b.children, d.key = c.key ∧ agree d c = true) :
    agree a b = true := by
  refine agree_iff.2 ⟨hkey, hlength, fun c hc => ?_⟩
  obtain ⟨d, hd, hdc, hagree⟩ := h c hc
  exact ⟨d, hdc ▸ child?_key_of_pairwise hb hd, hagree⟩

/-- A reordering makes no twins. -/
theorem Reordered.noTwins (h : Reordered a b) (ha : a.NoTwins) : b.NoTwins := by
  induction h with
  | @here k cs ds h =>
    obtain ⟨hnames, hinside⟩ := noTwins_node.1 ha
    refine noTwins_node.2 ⟨hnames.perm h fun hne => hne.symm, fun c hc => ?_⟩
    exact hinside c (h.mem_iff.2 hc)
  | @inside k before after c d h ih =>
    obtain ⟨hnames, hinside⟩ := noTwins_node.1 ha
    have hc : c ∈ before ++ c :: after := List.mem_append_right before List.mem_cons_self
    refine noTwins_node.2 ⟨?_, fun x hx => ?_⟩
    · -- the names of the children stay as they are
      refine List.pairwise_map.1 (?_ : ((before ++ d :: after).map key).Nodup)
      have hnodup : ((before ++ c :: after).map key).Nodup := List.pairwise_map.2 hnames
      rwa [List.map_append, List.map_cons, h.key_eq, ← List.map_cons, ← List.map_append] at hnodup
    · rcases List.mem_append.1 hx with hx | hx
      · exact hinside x (List.mem_append_left _ hx)
      · rcases List.mem_cons.1 hx with rfl | hx
        · exact ih (hinside c hc)
        · exact hinside x (List.mem_append_right before (List.mem_cons_of_mem c hx))

/-- A tree agrees with what it is reordered to. -/
theorem Reordered.agree (h : Reordered a b) (ha : a.NoTwins) : agree a b = true := by
  induction h with
  | @here k cs ds h =>
    obtain ⟨hnames, -⟩ := noTwins_node.1 ((Reordered.here h).noTwins ha)
    obtain ⟨-, hinside⟩ := noTwins_node.1 ha
    refine agree_of_forall_exists hnames rfl h.length_eq fun c hc => ?_
    exact ⟨c, h.mem_iff.1 hc, rfl, (hinside c hc).twinsAreLeaves.agree_self⟩
  | @inside k before after c d h ih =>
    obtain ⟨hnames, -⟩ := noTwins_node.1 ((Reordered.inside h).noTwins ha)
    obtain ⟨-, hinside⟩ := noTwins_node.1 ha
    have hlength : (before ++ c :: after).length = (before ++ d :: after).length := by simp
    refine agree_of_forall_exists hnames rfl hlength fun x hx => ?_
    have hself : SettingsTree.agree x x = true := (hinside x hx).twinsAreLeaves.agree_self
    rcases List.mem_append.1 hx with hx | hx
    · exact ⟨x, List.mem_append_left _ hx, rfl, hself⟩
    · rcases List.mem_cons.1 hx with rfl | hx'
      · have hx := hinside x (List.mem_append_right before hx)
        have hd : d ∈ before ++ d :: after := List.mem_append_right before List.mem_cons_self
        exact ⟨d, hd, h.key_eq.symm, (hx.agree_comm (h.noTwins hx)).1 (ih hx)⟩
      · exact ⟨x, List.mem_append_right before (List.mem_cons_of_mem d hx'), rfl, hself⟩

/-! ## Trees that agree -/

section

variable {α β γ δ : Type} {R : α → β → Prop} {S : γ → δ → Prop} {o : Option α} {o' : Option β}

theorem isSome_eq_of_rel (h : Option.Rel R o o') : o.isSome = o'.isSome := by
  cases h <;> rfl

/-- Going on from two related results leads to related results. -/
theorem rel_bind {g : α → Option γ} {g' : β → Option δ} (h : Option.Rel R o o')
    (hg : ∀ x y, o = some x → o' = some y → R x y → Option.Rel S (g x) (g' y)) :
    Option.Rel S (o.bind g) (o'.bind g') := by
  cases h with
  | none => exact .none
  | some hxy => exact hg _ _ rfl rfl hxy

end

/-- A tree without twins agrees with all that it is reordered to. -/
theorem NoTwins.agree_of_reorderings (ha : a.NoTwins)
    (h : Relation.ReflTransGen Reordered a b) : agree a b = true := by
  induction h using Relation.ReflTransGen.head_induction_on with
  | refl => exact ha.twinsAreLeaves.agree_self
  | head hfirst _ ih => exact agree_trans (hfirst.agree ha) (ih (hfirst.noTwins ha))

/-- The first child of a name, as a leaf where there is none. -/
def childOrLeaf (t : SettingsTree) (name : String) : SettingsTree :=
  (t.child? name).getD (leaf name)

theorem childOrLeaf_of_child? (h : t.child? k = some c) : t.childOrLeaf k = c := by
  rw [childOrLeaf, h, Option.getD_some]

/-- Without twins, the children are those that their names lead to. -/
theorem map_childOrLeaf (h : t.children.Pairwise fun c d => c.key ≠ d.key) :
    (t.children.map key).map t.childOrLeaf = t.children := by
  rw [List.map_map]
  refine (List.map_congr_left fun d hd => ?_).trans (List.map_id _)
  exact childOrLeaf_of_child? (child?_key_of_pairwise h hd)

/-- **Trees that agree differ by reorderings.**  Each child of the first tree is reordered into the
child of its name in the second, and then the children are put into their new order. -/
theorem NoTwins.reorderings_of_agree (ha : a.NoTwins) (hb : b.NoTwins) (h : agree a b = true) :
    Relation.ReflTransGen Reordered a b := by
  induction a using inductionOnChildren generalizing b with
  | step a ih =>
    obtain ⟨hnames, hinside⟩ := noTwins_iff.1 ha
    obtain ⟨hnames', hinside'⟩ := noTwins_iff.1 hb
    obtain ⟨hkey, -, hchildren⟩ := agree_iff.1 h
    have hfound : ∀ c ∈ a.children, Relation.ReflTransGen Reordered c (b.childOrLeaf c.key) := by
      intro c hc
      obtain ⟨d, hd, hdc⟩ := hchildren c hc
      have hd' := hinside' d (mem_children_of_child? hd)
      have hcd : agree c d = true := (hd'.agree_comm (hinside c hc)).1 hdc
      rw [childOrLeaf_of_child? hd]
      exact ih c hc (hinside c hc) hd' hcd
    have hperm : (a.children.map fun c => b.childOrLeaf c.key).Perm b.children := by
      have hmap := (perm_map_key_of_agree hnames h).map b.childOrLeaf
      rwa [map_childOrLeaf hnames', List.map_map] at hmap
    have hmapped := reorderings_map a.key [] hfound
    obtain ⟨k, cs⟩ := a
    obtain ⟨l, ds⟩ := b
    obtain rfl : k = l := hkey
    exact hmapped.tail (.here hperm)

/-- Of trees that agree, both have a child of a name or none has, and these agree. -/
theorem NoTwins.child?_of_agree (ha : a.NoTwins) (hb : b.NoTwins) (h : agree a b = true)
    (k : String) : Option.Rel (fun c d => agree c d = true) (a.child? k) (b.child? k) := by
  obtain ⟨hnames, hinside⟩ := noTwins_iff.1 ha
  obtain ⟨-, hinside'⟩ := noTwins_iff.1 hb
  cases hc : a.child? k with
  | none =>
    have hnone : b.child? k = none := by
      rw [← Option.isNone_iff_eq_none, ← Option.not_isSome, Bool.not_eq_true', ← Bool.not_eq_true,
        isSome_child?_iff, ← (perm_map_key_of_agree hnames h).mem_iff, ← isSome_child?_iff, hc]
      exact Bool.false_ne_true
    rw [hnone]
    exact .none
  | some c =>
    obtain ⟨-, -, hchildren⟩ := agree_iff.1 h
    have hmem := mem_children_of_child? hc
    obtain ⟨d, hd, hdc⟩ := hchildren c hmem
    rw [key_eq_of_child? hc] at hd
    rw [hd]
    exact .some (((hinside' d (mem_children_of_child? hd)).agree_comm (hinside c hmem)).1 hdc)

/-- **Trees that agree have nodes at the same paths**, and these agree. -/
theorem NoTwins.childAt?_of_agree (ha : a.NoTwins) (hb : b.NoTwins) (h : agree a b = true)
    (path : List String) :
    Option.Rel (fun c d => agree c d = true) (a.childAt? path) (b.childAt? path) := by
  induction path generalizing a b with
  | nil => exact .some h
  | cons k path ih =>
    rw [childAt?_cons, childAt?_cons]
    refine rel_bind (ha.child?_of_agree hb h k) fun c d hc hd hcd => ?_
    have hc' := (noTwins_iff.1 ha).2 c (mem_children_of_child? hc)
    have hd' := (noTwins_iff.1 hb).2 d (mem_children_of_child? hd)
    exact ih hc' hd' hcd

theorem NoTwins.childAt (ha : a.NoTwins) {path : List String} (hc : a.childAt? path = some c) :
    c.NoTwins := by
  induction path generalizing a with
  | nil =>
    cases hc
    exact ha
  | cons k path ih =>
    rw [childAt?_cons] at hc
    obtain ⟨d, hd, hrest⟩ := Option.bind_eq_some_iff.1 hc
    exact ih ((noTwins_iff.1 ha).2 d (mem_children_of_child? hd)) hrest

/-- Nodes that agree have the same values, up to their order, or both have none. -/
theorem NoTwins.values?_of_agree (hc : c.NoTwins) (h : agree c d = true) :
    Option.Rel List.Perm c.values? d.values? := by
  have hperm := perm_map_key_of_agree (noTwins_iff.1 hc).1 h
  obtain ⟨-, hlength, -⟩ := agree_iff.1 h
  have hempty : c.children.isEmpty = d.children.isEmpty := by
    rw [Bool.eq_iff_iff, List.isEmpty_iff, List.isEmpty_iff, ← List.length_eq_zero_iff, hlength,
      List.length_eq_zero_iff]
  rw [values?, values?, hempty]
  split
  · exact .none
  · exact .some hperm

/-- **What agreement means**, for trees in which no two siblings share a name.  Two trees agree
exactly when the second is the first with the children of some of its nodes in another order.  Then
the same paths are there in both, lead to nodes that agree, and have the same values up to their
order. -/
theorem NoTwins.agree_iff_reorderings (ha : a.NoTwins) (hb : b.NoTwins) :
    (agree a b = true ↔ Relation.ReflTransGen Reordered a b) ∧
      (agree a b = true → ∀ path,
        a.contains path = b.contains path ∧
          Option.Rel (fun c d => agree c d = true) (a.childAt? path) (b.childAt? path) ∧
          Option.Rel List.Perm (a.get? path) (b.get? path)) := by
  refine ⟨⟨ha.reorderings_of_agree hb, ha.agree_of_reorderings⟩, fun h path => ?_⟩
  have hnodes := ha.childAt?_of_agree hb h path
  refine ⟨isSome_eq_of_rel hnodes, hnodes, ?_⟩
  exact rel_bind hnodes fun c d hc _ hcd => (ha.childAt hc).values?_of_agree hcd

/-- Sections and values in another order, at two levels. -/
theorem NoTwins.agree_iff_reorderings_sections :
    let a := node "exec-helper"
      [node "build" [leaf "make", node "env" [leaf "A", leaf "B"]], leaf "test"]
    let b := node "exec-helper"
      [leaf "test", node "build" [node "env" [leaf "B", leaf "A"], leaf "make"]]
    let c := node "exec-helper" [leaf "test", node "build" [leaf "make", leaf "env"]]
    a.NoTwins ∧ b.NoTwins ∧ c.NoTwins ∧ agree a b = true ∧
      Relation.ReflTransGen Reordered a b ∧ ¬ Relation.ReflTransGen Reordered a c ∧
      Option.Rel List.Perm (a.get? ["build", "env"]) (b.get? ["build", "env"]) := by
  intro a b c
  have ha : a.NoTwins := by simp [a, leaf, noTwins_node]
  have hb : b.NoTwins := by simp [b, leaf, noTwins_node]
  have hc : c.NoTwins := by simp [c, leaf, noTwins_node]
  have hab : agree a b = true := by cbv
  have hac : agree a c = false := by cbv
  obtain ⟨hiff, hreads⟩ := ha.agree_iff_reorderings hb
  obtain ⟨hiff', -⟩ := ha.agree_iff_reorderings hc
  refine ⟨ha, hb, hc, hab, hiff.1 hab, fun h => ?_, (hreads hab ["build", "env"]).2.2⟩
  rw [hiff'.2 h] at hac
  cases hac

end SettingsTree
end Orchestrator
