import Orchestrator.Settings.Basic

/-!
# The nodes of a tree

A statement about every name in a tree is one about its nodes, which are the tree itself and the
nodes of its children.

* `inductionOnChildren`: induction over trees.
* `nodes`: the nodes of a tree, with `mem_nodes_self` and `mem_nodes_of_mem_children`.
-/

namespace Orchestrator
namespace SettingsTree

/-- What holds of a tree as soon as it holds of its children holds of all trees. -/
theorem inductionOnChildren {P : SettingsTree → Prop}
    (step : ∀ t : SettingsTree, (∀ c ∈ t.children, P c) → P t) (t : SettingsTree) : P t :=
  step t fun c _ => inductionOnChildren step c
termination_by sizeOf t
decreasing_by exact sizeOf_lt_of_mem_children ‹_›

mutual

/-- The nodes of a tree, the tree itself first. -/
def nodes : SettingsTree → List SettingsTree
  | .node k cs => .node k cs :: nodesOfAll cs

/-- The nodes of a list of trees. -/
def nodesOfAll : List SettingsTree → List SettingsTree
  | [] => []
  | c :: cs => nodes c ++ nodesOfAll cs

end

variable {t c n : SettingsTree}

theorem mem_nodes_self (t : SettingsTree) : t ∈ t.nodes := by
  obtain ⟨k, cs⟩ := t
  rw [nodes]
  exact List.mem_cons_self

theorem mem_nodesOfAll_iff {cs : List SettingsTree} :
    n ∈ nodesOfAll cs ↔ ∃ c ∈ cs, n ∈ c.nodes := by
  induction cs with
  | nil => simp [nodesOfAll]
  | cons c cs ih => simp [nodesOfAll, ih]

theorem mem_nodes_of_mem_children (hc : c ∈ t.children) (hn : n ∈ c.nodes) : n ∈ t.nodes := by
  obtain ⟨k, cs⟩ := t
  rw [nodes]
  exact List.mem_cons_of_mem _ (mem_nodesOfAll_iff.2 ⟨c, hc, hn⟩)

end SettingsTree
end Orchestrator
