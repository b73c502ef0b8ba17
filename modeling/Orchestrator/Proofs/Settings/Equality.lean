import Mathlib.Data.List.Nodup
import Mathlib.Data.List.Pairwise
import Mathlib.Data.List.Perm.Subperm
import Orchestrator.Proofs.Settings.Construction
import Orchestrator.Proofs.Settings.Nodes
import Orchestrator.Proofs.Settings.Values

/-!
# Whether trees agree

Two trees agree when each child of the first agrees with the first child of its name in the second,
the sides changing places at every level.  A child whose name was used before is compared with the
same child again, so that nothing speaks for the other children of the second tree.

What is left of an equivalence relation is this.  Agreement carries over from one tree to the next,
for all trees, because two changes of sides are none.  A tree agrees with itself when those of its
siblings that share a name are leaves.  The sides may change places when there are no siblings that
share a name: then as many names as there are children are all the names there are.

* `agree_iff`: one level of agreement.
* `agree_trans`: **agreement carries over**.
* `SiblingsAre`: what holds between siblings everywhere in a tree, with `TwinsAreLeaves` and
  `NoTwins` as its cases.
* `Unshadowed.agree_self_iff`: **which trees agree with themselves**.
* `NoTwins.agree_comm`: **which trees agree both ways**.
* `agree_laws`: the three together; `agree_is_no_equivalence`: what fails in general.
-/

namespace Orchestrator
namespace SettingsTree

variable {a b c t : SettingsTree} {k : String} {cs : List SettingsTree}

/-! ## One level -/

/-- Some child has the name of a child. -/
theorem exists_child?_key (hc : c ∈ t.children) : ∃ d, t.child? c.key = some d :=
  Option.isSome_iff_exists.1 ((isSome_child?_iff t c.key).2 (List.mem_map_of_mem hc))

/-- Agreement by the children that are compared. -/
theorem agree_iff :
    agree a b = true ↔ a.key = b.key ∧ a.children.length = b.children.length ∧
      ∀ c ∈ a.children, ∃ d, b.child? c.key = some d ∧ agree d c = true := by
  rw [agree_eq, Bool.and_eq_true, Bool.and_eq_true, decide_eq_true_eq, decide_eq_true_eq,
    List.all_eq_true, and_assoc]
  refine and_congr_right fun _ => and_congr_right fun _ => forall₂_congr fun c _ => ?_
  rw [Option.any_eq_true]

/-! ## Agreement carries over -/

/-- **Agreement carries over** from one tree to the next.  The induction is on the tree in the
middle: a level further down it stands in the middle again. -/
theorem agree_trans (hab : agree a b = true) (hbc : agree b c = true) : agree a c = true := by
  induction b using inductionOnChildren generalizing a c with
  | step b ih =>
    obtain ⟨hkey, hlength, hchildren⟩ := agree_iff.1 hab
    obtain ⟨hkey', hlength', hchildren'⟩ := agree_iff.1 hbc
    refine agree_iff.2 ⟨hkey.trans hkey', hlength.trans hlength', fun x hx => ?_⟩
    obtain ⟨y, hy, hyx⟩ := hchildren x hx
    obtain ⟨z, hz, hzy⟩ := hchildren' y (mem_children_of_child? hy)
    rw [key_eq_of_child? hy] at hz
    exact ⟨z, hz, ih y (mem_children_of_child? hy) hzy hyx⟩

/-! ## Siblings -/

/-- Whether a relation holds between any two siblings, everywhere in a tree. -/
inductive SiblingsAre (R : SettingsTree → SettingsTree → Prop) : SettingsTree → Prop where
  | node {k : String} {cs : List SettingsTree} (hhere : cs.Pairwise R)
      (hinside : ∀ c ∈ cs, SiblingsAre R c) : SiblingsAre R (node k cs)

variable {R S : SettingsTree → SettingsTree → Prop}

theorem siblingsAre_node :
    SiblingsAre R (node k cs) ↔ cs.Pairwise R ∧ ∀ c ∈ cs, SiblingsAre R c := by
  constructor
  · rintro ⟨hhere, hinside⟩
    exact ⟨hhere, hinside⟩
  · rintro ⟨hhere, hinside⟩
    exact .node hhere hinside

theorem siblingsAre_iff :
    SiblingsAre R t ↔ t.children.Pairwise R ∧ ∀ c ∈ t.children, SiblingsAre R c := by
  obtain ⟨k, cs⟩ := t
  exact siblingsAre_node

theorem siblingsAre_of_children_eq_nil (h : t.children = []) : SiblingsAre R t := by
  rw [siblingsAre_iff, h]
  exact ⟨.nil, fun c hc => by cases hc⟩

theorem SiblingsAre.imp (hRS : ∀ a b, R a b → S a b) (h : SiblingsAre R t) : SiblingsAre S t := by
  induction h with
  | node hhere _ ih => exact .node (hhere.imp (hRS _ _)) ih

/-- Whether two trees are leaves if they share a name. -/
def LeavesIfTwins (a b : SettingsTree) : Prop :=
  a.key = b.key → a.children = [] ∧ b.children = []

instance : Std.Symm LeavesIfTwins where
  symm _ _ h hkey := (h hkey.symm).symm

/-- Whether siblings that share a name are leaves, everywhere in a tree. -/
def TwinsAreLeaves (t : SettingsTree) : Prop :=
  t.SiblingsAre LeavesIfTwins

/-- Whether no two siblings share a name, anywhere in a tree. -/
def NoTwins (t : SettingsTree) : Prop :=
  t.SiblingsAre fun a b => a.key ≠ b.key

theorem NoTwins.twinsAreLeaves (h : t.NoTwins) : t.TwinsAreLeaves :=
  SiblingsAre.imp (fun _ _ hne hkey => absurd hkey hne) h

/-! ## Agreement with itself -/

/-- Leaves of one name agree. -/
theorem agree_of_children_eq_nil (hkey : a.key = b.key) (ha : a.children = [])
    (hb : b.children = []) : agree a b = true := by
  refine agree_iff.2 ⟨hkey, by rw [ha, hb], fun c hc => ?_⟩
  rw [ha] at hc
  cases hc

/-- A tree in which only leaves share their names agrees with itself. -/
theorem TwinsAreLeaves.agree_self (h : t.TwinsAreLeaves) : agree t t = true := by
  induction t using inductionOnChildren with
  | step t ih =>
    obtain ⟨htwins, hinside⟩ := siblingsAre_iff.1 h
    refine agree_iff.2 ⟨rfl, rfl, fun c hc => ?_⟩
    obtain ⟨d, hd⟩ := exists_child?_key hc
    refine ⟨d, hd, ?_⟩
    by_cases hdc : d = c
    · rw [hdc]
      exact ih c hc (hinside c hc)
    · -- another child of the name is found, so that both are leaves
      have hkey : d.key = c.key := key_eq_of_child? hd
      obtain ⟨hleaf, hleaf'⟩ := htwins.forall (mem_children_of_child? hd) hc hdc hkey
      exact agree_of_children_eq_nil hkey hleaf hleaf'

/-- In a tree in which nothing is shadowed the first child of a name is the only one that may have
children. -/
theorem Unshadowed.child?_key (ht : t.Unshadowed) (hc : c ∈ t.children) (hne : c.children ≠ []) :
    t.child? c.key = some c := by
  obtain ⟨i, hi⟩ := List.mem_iff_getElem?.1 hc
  rw [child?_eq_find?, List.find?_eq_bind_findIdx?_getElem?,
    (unshadowed_iff.1 ht).findIdx?_key hi hne, Option.bind_some, hi]

/-- **Which trees agree with themselves**, when nothing in them is shadowed. -/
theorem Unshadowed.agree_self_iff (ht : t.Unshadowed) : agree t t = true ↔ t.TwinsAreLeaves := by
  refine ⟨fun h => ?_, TwinsAreLeaves.agree_self⟩
  induction t using inductionOnChildren with
  | step t ih =>
    have hsiblings := unshadowed_iff.1 ht
    obtain ⟨-, -, hchildren⟩ := agree_iff.1 h
    have hinside : ∀ c ∈ t.children, c.TwinsAreLeaves := by
      intro c hc
      by_cases hne : c.children = []
      · exact siblingsAre_of_children_eq_nil hne
      · obtain ⟨d, hd, hdc⟩ := hchildren c hc
        rw [ht.child?_key hc hne, Option.some.injEq] at hd
        exact ih c hc (hsiblings.each c hc).inside (hd ▸ hdc)
    refine siblingsAre_iff.2 ⟨?_, hinside⟩
    refine hsiblings.firstOnly.imp_of_mem fun {a b} ha hb hab hkey => ⟨?_, hab hkey⟩
    -- the later of the two is compared with the first of the name, which is the earlier one
    by_contra hne
    obtain ⟨d, hd, hdb⟩ := hchildren b hb
    rw [← hkey, ht.child?_key ha hne, Option.some.injEq] at hd
    obtain ⟨-, hlength, -⟩ := agree_iff.1 hdb
    rw [← hd, hab hkey, List.length_nil] at hlength
    exact hne (List.eq_nil_of_length_eq_zero hlength)

/-! ## Agreement both ways -/

/-- Without twins every child is the one that its name means. -/
theorem child?_key_of_pairwise (h : t.children.Pairwise fun a b => a.key ≠ b.key)
    (hc : c ∈ t.children) : t.child? c.key = some c := by
  obtain ⟨d, hd⟩ := exists_child?_key hc
  have hnodup : (t.children.map key).Nodup := List.pairwise_map.2 h
  rw [hd, List.inj_on_of_nodup_map hnodup (mem_children_of_child? hd) hc (key_eq_of_child? hd)]

/-- Without twins, trees that agree have the same names.  The first tree has as many names as it has
children, all of them in the second, which has no more children: so these are all of its names. -/
theorem perm_map_key_of_agree (ha : a.children.Pairwise fun c d => c.key ≠ d.key)
    (h : agree a b = true) : (a.children.map key).Perm (b.children.map key) := by
  obtain ⟨-, hlength, hchildren⟩ := agree_iff.1 h
  have hnodup : (a.children.map key).Nodup := List.pairwise_map.2 ha
  have hnames : a.children.map key ⊆ b.children.map key := by
    intro name hname
    obtain ⟨c, hc, rfl⟩ := List.mem_map.1 hname
    obtain ⟨d, hd, -⟩ := hchildren c hc
    exact List.mem_map.2 ⟨d, mem_children_of_child? hd, key_eq_of_child? hd⟩
  refine (List.subperm_of_subset hnodup hnames).perm_of_length_le (Nat.le_of_eq ?_)
  rw [List.length_map, List.length_map, hlength]

/-- One level of the change of sides: what the second tree names is what the first one names. -/
theorem agree_swap (ha : a.children.Pairwise fun c d => c.key ≠ d.key)
    (hb : b.children.Pairwise fun c d => c.key ≠ d.key)
    (hswap : ∀ c ∈ a.children, ∀ d ∈ b.children, agree d c = true → agree c d = true)
    (h : agree a b = true) : agree b a = true := by
  obtain ⟨hkey, hlength, hchildren⟩ := agree_iff.1 h
  refine agree_iff.2 ⟨hkey.symm, hlength.symm, fun d hd => ?_⟩
  have hname : d.key ∈ a.children.map key :=
    (perm_map_key_of_agree ha h).mem_iff.2 (List.mem_map_of_mem hd)
  obtain ⟨c, hc, hcd⟩ := List.mem_map.1 hname
  obtain ⟨d', hd', hagree⟩ := hchildren c hc
  rw [hcd, child?_key_of_pairwise hb hd, Option.some.injEq] at hd'
  rw [← hcd]
  exact ⟨c, child?_key_of_pairwise ha hc, hswap c hc d hd (hd' ▸ hagree)⟩

/-- **Trees without twins agree both ways**, or not at all. -/
theorem NoTwins.agree_comm (ha : a.NoTwins) (hb : b.NoTwins) :
    agree a b = true ↔ agree b a = true := by
  induction a using inductionOnChildren generalizing b with
  | step a ih =>
    obtain ⟨hnames, hinside⟩ := siblingsAre_iff.1 ha
    obtain ⟨hnames', hinside'⟩ := siblingsAre_iff.1 hb
    constructor
    · refine agree_swap hnames hnames' fun c hc d hd => ?_
      exact (ih c hc (hinside c hc) (hinside' d hd)).2
    · refine agree_swap hnames' hnames fun d hd c hc => ?_
      exact (ih c hc (hinside c hc) (hinside' d hd)).1

/-- **What agreement is.**  It carries over from one tree to the next, whatever the trees.  A tree
that came about through the operations on trees agrees with itself exactly when siblings that share
a name are leaves.  When no two siblings share a name, a tree agrees with itself, and two trees
agree in one order exactly when they agree in the other. -/
theorem agree_laws (a b c : SettingsTree) :
    (agree a b = true → agree b c = true → agree a c = true) ∧
      (a.Built → (agree a a = true ↔ a.TwinsAreLeaves)) ∧
      (a.NoTwins → agree a a = true) ∧
      (a.NoTwins → b.NoTwins → (agree a b = true ↔ agree b a = true)) :=
  ⟨agree_trans, fun ha => (ha.of_kept kept_unshadowed).agree_self_iff,
    fun ha => ha.twinsAreLeaves.agree_self, NoTwins.agree_comm⟩

/-- The same settings in three orders. -/
theorem agree_laws_reordered :
    let a := node "exec-helper" [node "build" [leaf "make", leaf "ninja"], leaf "test"]
    let b := node "exec-helper" [leaf "test", node "build" [leaf "ninja", leaf "make"]]
    let c := node "exec-helper" [leaf "test", node "build" [leaf "make", leaf "ninja"]]
    a.Built ∧ a.NoTwins ∧ b.NoTwins ∧ agree a b = true ∧ agree b c = true ∧ agree a c = true ∧
      agree a a = true ∧ a.TwinsAreLeaves ∧ agree b a = true := by
  intro a b c
  have hcommands : (leaf "exec-helper").addValues [] ["build", "test"] =
      .ok (node "exec-helper" [leaf "build", leaf "test"]) := rfl
  have hplugins : (node "exec-helper" [leaf "build", leaf "test"]).addValues ["build"]
      ["make", "ninja"] = .ok a := rfl
  have hbuilt : a.Built := ((Built.new _).addValues hcommands).addValues hplugins
  have ha : a.NoTwins := by simp [NoTwins, a, leaf, siblingsAre_node]
  have hb : b.NoTwins := by simp [NoTwins, b, leaf, siblingsAre_node]
  have hab : agree a b = true := by cbv
  have hbc : agree b c = true := by cbv
  obtain ⟨htrans, hself, hrefl, hcomm⟩ := agree_laws a b c
  exact ⟨hbuilt, ha, hb, hab, hbc, htrans hab hbc, hrefl ha, (hself hbuilt).1 (hrefl ha),
    (hcomm ha hb).1 hab⟩

/-- A tree may disagree with itself: of two values of one name the first has got a value of its own.
Two trees may agree in one order only: a value that is given twice is found twice in a list that has
it once, and not the other way about. -/
theorem agree_is_no_equivalence :
    let twin := node "exec-helper" [node "build" [leaf "make"], leaf "build"]
    let twice := node "exec-helper" [leaf "make", leaf "make"]
    let both := node "exec-helper" [leaf "make", leaf "ninja"]
    twin.Built ∧ agree twin twin = false ∧
      twice.Built ∧ both.Built ∧ agree twice both = true ∧ agree both twice = false := by
  intro twin twice both
  have htwo : (leaf "exec-helper").addValues [] ["build", "build"] =
      .ok (node "exec-helper" [leaf "build", leaf "build"]) := rfl
  have htwin : (node "exec-helper" [leaf "build", leaf "build"]).add ["build"] "make" =
      .ok twin := rfl
  have htwice : (leaf "exec-helper").addValues [] ["make", "make"] = .ok twice := rfl
  have hboth : (leaf "exec-helper").addValues [] ["make", "ninja"] = .ok both := rfl
  exact ⟨((Built.new _).addValues htwo).add htwin, by cbv, (Built.new _).addValues htwice,
    (Built.new _).addValues hboth, by cbv, by cbv⟩

end SettingsTree
end Orchestrator
