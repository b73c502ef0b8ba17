import Orchestrator.Pattern.Registry
import Orchestrator.Proofs.Settings.Shadowing
import Orchestrator.Settings.Document
import Orchestrator.Settings.Scoped

/-!
# How settings come about

A settings tree starts without children and is changed step by step, by hand or by the loader of
documents, and trees are laid over each other and taken apart.  What is kept by a few changes holds
of every tree that comes about in this way, since the others are put together from these.

* `SettingsTree.Built`: the trees that come about through the operations on trees.
* `SettingsTree.Kept`: the properties that the few changes keep; `Kept.replace`, `Kept.mergeScoped`
  and `Kept.parse` for the others.
* `Built.of_kept`: **a property that is kept holds of every built tree**.
* `built_nothing_shadowed`: **no part of a built tree is shadowed**.
-/

namespace Orchestrator
namespace SettingsTree

/-! ## Built trees -/

/-- The trees that come about through the operations on trees, in any order and number. -/
inductive Built : SettingsTree → Prop where
  | new (k : String) : Built (leaf k)
  | add {t u : SettingsTree} {path : List String} {value : String} (h : Built t)
      (hu : t.add path value = .ok u) : Built u
  | addValues {t u : SettingsTree} {path values : List String} (h : Built t)
      (hu : t.addValues path values = .ok u) : Built u
  | ensurePath {t u : SettingsTree} {path : List String} (h : Built t)
      (hu : t.ensurePath path = .ok u) : Built u
  /-- The node that `ensurePath` gives access to may be changed in the same ways, but keeps its
  name. -/
  | within {t u v : SettingsTree} {path : List String} (h : Built t)
      (hu : t.ensurePath path = .ok u) (hv : Built v) :
      Built (modifyAt (fun c => .node c.key v.children) path u)
  /-- Also the tree of a replacement that is refused. -/
  | replace {t : SettingsTree} (h : Built t) (path values : List String) :
      Built (t.replace path values).1
  | clear {t : SettingsTree} (h : Built t) (path : List String) : Built (t.clear path).1
  | overwrite {t other : SettingsTree} (h : Built t) (ho : Built other) : Built (t.overwrite other)
  | childAt {t c : SettingsTree} {path : List String} (h : Built t)
      (hc : t.childAt? path = some c) : Built c
  | mergeScoped {defaults settings : SettingsTree} (hd : Built defaults) (hs : Built settings)
      (plugin command : String) : Built (mergeScoped defaults settings plugin command)
  | parse {text : String} {t : SettingsTree} (h : parse text = .ok t) : Built t
  /-- What is left when the inline pattern definitions are taken out. -/
  | extract {t : SettingsTree} (h : Built t) : Built (InlinePatterns.extract t).rest

/-! ## Properties that are kept -/

/-- Whether a property holds of trees without children and is kept by the changes from which all
others are put together. -/
structure Kept (P : SettingsTree → Prop) : Prop where
  leaf : ∀ k, P (leaf k)
  addValues : ∀ {t u : SettingsTree} {path values : List String}, P t →
    t.addValues path values = .ok u → P u
  ensurePath : ∀ {t u : SettingsTree} {path : List String}, P t → t.ensurePath path = .ok u → P u
  within : ∀ {t u v : SettingsTree} {path : List String}, P t → t.ensurePath path = .ok u → P v →
    P (modifyAt (fun c => .node c.key v.children) path u)
  clear : ∀ {t : SettingsTree} (path : List String), P t → P (t.clear path).1
  overwrite : ∀ {t other : SettingsTree}, P t → P other → P (t.overwrite other)
  childAt : ∀ {t c : SettingsTree} {path : List String}, P t → t.childAt? path = some c → P c

variable {P : SettingsTree → Prop} {t u : SettingsTree}

/-- A replacement is a removal, after which the new values are added or refused. -/
theorem Kept.replace (hP : Kept P) (h : P t) (path values : List String) :
    P (t.replace path values).1 := by
  have hcleared : P (t.clear path).1 := hP.clear path h
  rw [SettingsTree.replace]
  split
  · rename_i u hu
    exact hP.addValues hcleared hu
  · exact hcleared

theorem Kept.overwriteWith {settings : SettingsTree} (hP : Kept P) (h : P t) (hs : P settings)
    (path : List String) : P (t.overwriteWith settings path) := by
  rw [SettingsTree.overwriteWith]
  split
  · rename_i scope hscope
    exact hP.overwrite h (hP.childAt hs hscope)
  · exact h

/-- A merged configuration is the defaults under two sections. -/
theorem Kept.mergeScoped {defaults settings : SettingsTree} (hP : Kept P) (hd : P defaults)
    (hs : P settings) (plugin command : String) :
    P (mergeScoped defaults settings plugin command) :=
  hP.overwriteWith (hP.overwriteWith hd hs [plugin]) hs [plugin, command]

/-! ### The loader of documents -/

section

open Yaml (Value)

variable {path inner : List String}

theorem Kept.addKey (hP : Kept P) (ht : P t) {k : Value} (h : t.addKey path k = .ok (inner, u)) :
    P u := by
  unfold SettingsTree.addKey at h
  split at h
  · cases h
  · split at h
    · rename_i hu
      cases h
      exact hP.ensurePath ht hu
    · cases h

theorem Kept.addText (hP : Kept P) (ht : P t) {s : String} (h : t.addText path s = .ok u) :
    P u := by
  unfold SettingsTree.addText at h
  split at h
  · rename_i hu
    cases h
    exact hP.addValues ht hu
  · cases h

mutual

/-- A document only makes nodes and adds values, so that it keeps what these two keep.  The three
statements follow the three functions of the loader. -/
theorem Kept.addValue (hP : Kept P) (path : List String) : ∀ (v : Value) (t u : SettingsTree),
    P t → addValue path v t = .ok u → P u
  | .null, t, u, ht, h => by
    rw [SettingsTree.addValue] at h
    cases h
    exact ht
  | .map entries, t, u, ht, h => by
    rw [SettingsTree.addValue] at h
    exact Kept.addEntries hP path entries t u ht h
  | .list items, t, u, ht, h => by
    rw [SettingsTree.addValue] at h
    exact Kept.addItems hP path items t u ht h
  | .tagged _ v, t, u, ht, h => by
    rw [SettingsTree.addValue] at h
    exact Kept.addValue hP path v t u ht h
  | .text s, t, u, ht, h => by
    rw [SettingsTree.addValue] at h
    exact hP.addText ht h
  | .bool b, t, u, ht, h => by
    rw [SettingsTree.addValue] at h
    exact hP.addText ht h
  | .number n, t, u, ht, h => by
    rw [SettingsTree.addValue] at h
    exact hP.addText ht h

theorem Kept.addItems (hP : Kept P) (path : List String) : ∀ (vs : List Value) (t u : SettingsTree),
    P t → addItems path vs t = .ok u → P u
  | [], t, u, ht, h => by
    rw [SettingsTree.addItems] at h
    cases h
    exact ht
  | v :: vs, t, u, ht, h => by
    rw [SettingsTree.addItems] at h
    split at h
    · rename_i w hw
      exact Kept.addItems hP path vs w u (Kept.addValue hP path v t w ht hw) h
    · cases h

theorem Kept.addEntries (hP : Kept P) (path : List String) :
    ∀ (es : List (Value × Value)) (t u : SettingsTree), P t → addEntries path es t = .ok u → P u
  | [], t, u, ht, h => by
    rw [SettingsTree.addEntries] at h
    cases h
    exact ht
  | (k, v) :: es, t, u, ht, h => by
    rw [SettingsTree.addEntries] at h
    split at h
    · cases h
    · rename_i inner w hw
      split at h
      · rename_i w' hw'
        exact Kept.addEntries hP path es w' u
          (Kept.addValue hP inner v w w' (hP.addKey ht hw) hw') h
      · cases h

end

theorem Kept.parse (hP : Kept P) {text : String} (h : parse text = .ok t) : P t := by
  unfold SettingsTree.parse at h
  split at h
  · cases h
  · rename_i v _
    exact Kept.addValue hP [] v _ t (hP.leaf Names.root) h

end

/-- **What is kept by the changes of a tree holds of every built tree.** -/
theorem Built.of_kept (hP : Kept P) (h : t.Built) : P t := by
  induction h with
  | new k => exact hP.leaf k
  | add _ hu ih => exact hP.addValues ih hu
  | addValues _ hu ih => exact hP.addValues ih hu
  | ensurePath _ hu ih => exact hP.ensurePath ih hu
  | within _ hu _ ih ihv => exact hP.within ih hu ihv
  | replace _ path values ih => exact hP.replace ih path values
  | clear _ path ih => exact hP.clear path ih
  | overwrite _ _ ih iho => exact hP.overwrite ih iho
  | childAt _ hc ih => exact hP.childAt ih hc
  | mergeScoped _ _ plugin command ihd ihs => exact hP.mergeScoped ihd ihs plugin command
  | parse h => exact hP.parse h
  | extract _ ih => exact hP.clear _ ih

/-! ## Nothing is shadowed -/

theorem addValues_eq_ok_iff {path values : List String} :
    t.addValues path values = .ok u ↔
      (∀ k ∈ path, k ≠ "") ∧ modifyAt (appendLeaves values) path t = u := by
  rw [← checkPath_eq_ok_iff, addValues]
  cases checkPath path <;> simp

theorem ensurePath_eq_ok_iff {path : List String} :
    t.ensurePath path = .ok u ↔ (∀ k ∈ path, k ≠ "") ∧ modifyAt id path t = u := by
  rw [← checkPath_eq_ok_iff, ensurePath]
  cases checkPath path <;> simp

theorem kept_unshadowed : Kept Unshadowed where
  leaf _ := unshadowed_of_children_eq_nil rfl
  addValues {t u path values} ht h := by
    obtain ⟨hpath, rfl⟩ := addValues_eq_ok_iff.1 h
    exact ht.modifyAt hpath (fun _ => rfl) fun c hc => hc.appendLeaves values
  ensurePath {t u path} ht h := by
    obtain ⟨hpath, rfl⟩ := ensurePath_eq_ok_iff.1 h
    exact ht.modifyAt hpath (fun _ => rfl) fun c hc => hc
  within {t u v path} ht h hv := by
    obtain ⟨hpath, rfl⟩ := ensurePath_eq_ok_iff.1 h
    have hu : (modifyAt id path t).Unshadowed := ht.modifyAt hpath (fun _ => rfl) fun c hc => hc
    exact hu.modifyAt hpath (fun _ => rfl) fun c _ => hv.of_children_eq rfl
  clear path h := h.removeAt path
  overwrite h ho := h.overwrite ho
  childAt h hc := h.childAt hc

/-- **No part of a built tree is shadowed.**  Every node with children is the node to which the
names on the way to it lead, at this position and no other, and it has a name unless it is the root.
Of the children of a node that have one name, all but the first are leaves. -/
theorem built_nothing_shadowed (h : t.Built) {positions : List Nat} {n : SettingsTree}
    (hn : t.nodeAt? positions = some n) :
    (n.hasChildren = true →
      t.locate? (t.namesTo positions) = some positions ∧
        t.childAt? (t.namesTo positions) = some n ∧ (positions ≠ [] → n.key ≠ "")) ∧
      n.children.Pairwise fun a b => a.key = b.key → b.hasChildren = false := by
  have ht : t.Unshadowed := h.of_kept kept_unshadowed
  constructor
  · intro hchildren
    have hne : n.children ≠ [] := by
      intro hnil
      rw [hasChildren, hnil] at hchildren
      cases hchildren
    obtain ⟨hlocate, hnamed⟩ := ht.locate?_namesTo hn hne
    refine ⟨hlocate, ?_, hnamed⟩
    rw [childAt?_eq_locate?_bind, hlocate]
    exact hn
  · refine (unshadowed_iff.1 (ht.nodeAt? hn)).firstOnly.imp fun hab hkey => ?_
    rw [hasChildren, hab hkey]
    rfl

/-- A value is given twice, and then a value below it, which goes to the first of the two.  Laid
over other settings, the first keeps its child. -/
theorem built_nothing_shadowed_repeated :
    let twice := node "exec-helper" [node "build" [leaf "make", leaf "make"]]
    let below := node "exec-helper" [node "build" [node "make" [leaf "lib"], leaf "make"]]
    let merged :=
      node "exec-helper" [leaf "all", node "build" [node "make" [leaf "lib"], leaf "make"]]
    (leaf "exec-helper").addValues ["build"] ["make", "make"] = .ok twice ∧
      twice.add ["build", "make"] "lib" = .ok below ∧
      (node "exec-helper" [leaf "all"]).overwrite below = merged ∧
      merged.Built ∧
      merged.nodeAt? [1, 0] = some (node "make" [leaf "lib"]) ∧
      (node "make" [leaf "lib"]).hasChildren = true ∧
      merged.namesTo [1, 0] = ["build", "make"] ∧
      merged.locate? ["build", "make"] = some [1, 0] ∧
      merged.childAt? ["build", "make"] = some (node "make" [leaf "lib"]) := by
  intro twice below merged
  have htwice : (leaf "exec-helper").addValues ["build"] ["make", "make"] = .ok twice := rfl
  have hbelow : twice.add ["build", "make"] "lib" = .ok below := rfl
  have hmerged : (node "exec-helper" [leaf "all"]).overwrite below = merged := rfl
  have hall : (leaf "exec-helper").addValues [] ["all"] = .ok (node "exec-helper" [leaf "all"]) :=
    rfl
  have hbuilt : merged.Built := by
    rw [← hmerged]
    exact ((Built.new _).addValues hall).overwrite (((Built.new _).addValues htwice).add hbelow)
  have hnode : merged.nodeAt? [1, 0] = some (node "make" [leaf "lib"]) := rfl
  obtain ⟨hlocated, -⟩ := built_nothing_shadowed hbuilt hnode
  obtain ⟨hlocate, hchild, -⟩ := hlocated rfl
  exact ⟨htwice, hbelow, hmerged, hbuilt, hnode, rfl, rfl, hlocate, hchild⟩

end SettingsTree
end Orchestrator
