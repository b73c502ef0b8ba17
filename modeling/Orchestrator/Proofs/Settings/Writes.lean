import Orchestrator.Proofs.Settings.Construction
import Orchestrator.Proofs.Settings.Values

/-!
# What is read after values were added

Values are added at a path whose nodes may be missing, in part or altogether.  What is read at any
other path afterwards depends on how it lies to this one.  There are four cases: it is the same, it
stops on the way, it leads on from there, or the two part at some name.  A missing node is made
without children, so that it reads as if there were none, and the cases need not be told apart by
what was there before.

* `Diverge`: paths that part, with `diverge_cons_cons_iff` for the induction along both.
* `exists_childAt?_modifyAt`, `namesAt_modifyAt_above`, `childAt?_modifyAt_of_diverge`: a change of
  one node, **at its path, above it and beside it**.
* `childAt?_modifyAt_appendLeaves_below`: what is below the path when leaves were added there.
* `addValues_reads`: **reading after adding**, at every path.
-/

namespace Orchestrator
namespace SettingsTree

variable {k j : String} {path p q : List String} {f : SettingsTree → SettingsTree}

/-! ## Paths that part -/

/-- Whether two paths part: neither of them leads on from the other. -/
structure Diverge (p q : List String) : Prop where
  not_prefix : ¬ p <+: q
  not_extension : ¬ q <+: p

instance (p q : List String) : Decidable (Diverge p q) :=
  decidable_of_iff (¬ p <+: q ∧ ¬ q <+: p) ⟨fun h => ⟨h.1, h.2⟩, fun h => ⟨h.1, h.2⟩⟩

theorem Diverge.ne_nil (h : Diverge p q) : q ≠ [] := by
  rintro rfl
  exact h.not_extension List.nil_prefix

theorem not_diverge_nil (q : List String) : ¬ Diverge [] q :=
  fun h => h.not_prefix List.nil_prefix

/-- Paths part at their first names or behind them. -/
theorem diverge_cons_cons_iff : Diverge (k :: p) (j :: q) ↔ k ≠ j ∨ Diverge p q := by
  constructor
  · intro h
    by_cases hj : k = j
    · refine Or.inr ⟨fun hp => h.not_prefix ?_, fun hq => h.not_extension ?_⟩
      · exact List.cons_prefix_cons.2 ⟨hj, hp⟩
      · exact List.cons_prefix_cons.2 ⟨hj.symm, hq⟩
    · exact Or.inl hj
  · rintro (hj | h)
    · exact ⟨fun hp => hj (List.cons_prefix_cons.1 hp).1,
        fun hq => hj (List.cons_prefix_cons.1 hq).1.symm⟩
    · exact ⟨fun hp => h.not_prefix (List.cons_prefix_cons.1 hp).2,
        fun hq => h.not_extension (List.cons_prefix_cons.1 hq).2⟩

/-! ## Nodes that are missing -/

/-- Nothing is below a leaf. -/
theorem childAt?_leaf (k : String) (path : List String) :
    (leaf k).childAt? path = if path = [] then some (leaf k) else none := by
  cases path with
  | nil => rfl
  | cons j path => rfl

theorem childrenAt_cons (t : SettingsTree) (k : String) (path : List String) :
    t.childrenAt (k :: path) = ((t.child? k).getD (leaf k)).childrenAt path := by
  rw [childrenAt, childAt?_cons]
  cases t.child? k with
  | some c => rfl
  | none =>
    rw [Option.getD_none, childrenAt, childAt?_leaf]
    cases path <;> rfl

/-- A path leads on from another one by the children that are there. -/
theorem childAt?_append_cons (t : SettingsTree) (path : List String) (v : String)
    (rest : List String) :
    t.childAt? (path ++ v :: rest) =
      ((t.childrenAt path).find? fun c => c.key = v).bind fun c => c.childAt? rest := by
  rw [childAt?_append, childrenAt]
  cases t.childAt? path with
  | some c => rfl
  | none => rfl

/-! ## A change of one node -/

/-- **At its path** there is the changed node, with the children that were there. -/
theorem exists_childAt?_modifyAt (hkey : ∀ c, (f c).key = c.key) (path : List String)
    (t : SettingsTree) :
    ∃ d, d.children = t.childrenAt path ∧ (modifyAt f path t).childAt? path = some (f d) := by
  induction path generalizing t with
  | nil => exact ⟨t, rfl, rfl⟩
  | cons k path ih =>
    obtain ⟨d, hd, hnode⟩ := ih ((t.child? k).getD (leaf k))
    refine ⟨d, hd.trans (childrenAt_cons t k path).symm, ?_⟩
    rw [childAt?_cons, child?_modifyAt_cons hkey, if_pos rfl, Option.bind_some, hnode]

theorem map_key_updateChild (hkey : ∀ c, (f c).key = c.key) (k : String)
    (cs : List SettingsTree) :
    (updateChild k f cs).map key = if k ∈ cs.map key then cs.map key else cs.map key ++ [k] := by
  by_cases h : k ∈ cs.map key
  · rw [if_pos h, updateChild_of_mem h, map_key_updateExisting hkey]
  · rw [if_neg h, updateChild_of_notMem h, List.map_append, List.map_singleton, hkey]
    rfl

/-- **Above its path** a change adds the next name of the path, if that is missing. -/
theorem namesAt_modifyAt_above (hkey : ∀ c, (f c).key = c.key) (above : List String)
    (next : String) (rest : List String) (t : SettingsTree) :
    (modifyAt f (above ++ next :: rest) t).namesAt above =
      if t.contains (above ++ [next]) = true then t.namesAt above
      else t.namesAt above ++ [next] := by
  have hnext : ∀ c, (modifyAt f (next :: rest) c).key = c.key := fun _ => rfl
  obtain ⟨d, hd, hnode⟩ := exists_childAt?_modifyAt hnext above t
  have hnames : t.namesAt above = d.children.map key := by rw [namesAt, hd]
  simp only [contains_append_singleton_iff]
  rw [modifyAt_append, namesAt_of_childAt? hnode, modifyAt_cons, children_node,
    map_key_updateChild (key_modifyAt hkey rest), hnames]

/-- **Beside its path** a change is not seen. -/
theorem childAt?_modifyAt_of_diverge (hkey : ∀ c, (f c).key = c.key) (h : Diverge path q)
    (t : SettingsTree) : (modifyAt f path t).childAt? q = t.childAt? q := by
  induction path generalizing t q with
  | nil => exact absurd h (not_diverge_nil q)
  | cons k path ih =>
    obtain ⟨j, q, rfl⟩ := List.exists_cons_of_ne_nil h.ne_nil
    rw [childAt?_cons, child?_modifyAt_cons hkey, childAt?_cons]
    by_cases hj : k = j
    · have hrest : Diverge path q := (diverge_cons_cons_iff.1 h).resolve_left (not_not_intro hj)
      rw [if_pos hj, Option.bind_some, ih hrest, ← hj]
      -- a node that was made has nothing below it
      cases t.child? k with
      | some c => rfl
      | none => rw [Option.getD_none, childAt?_leaf, if_neg hrest.ne_nil, Option.bind_none]
    · rw [if_neg hj]

/-! ## Leaves that are added -/

theorem find?_map_leaf (values : List String) (v : String) :
    ((values.map leaf).find? fun c => c.key = v) = if v ∈ values then some (leaf v) else none := by
  induction values with
  | nil => rfl
  | cons w values ih =>
    rw [List.map_cons, List.find?_cons]
    by_cases hw : w = v
    · have hkey : decide ((leaf w).key = v) = true := decide_eq_true hw
      rw [hkey, hw, if_pos List.mem_cons_self]
    · have hkey : decide ((leaf w).key = v) = false := decide_eq_false hw
      rw [hkey, ih]
      simp only [List.mem_cons, Ne.symm hw, false_or]

/-- Below the path at which leaves were added there is what was there, and a new leaf for each new
value. -/
theorem childAt?_modifyAt_appendLeaves_below (values path : List String) (v : String)
    (rest : List String) (t : SettingsTree) :
    (modifyAt (appendLeaves values) path t).childAt? (path ++ v :: rest) =
      if t.contains (path ++ [v]) = true then t.childAt? (path ++ v :: rest)
      else if rest = [] ∧ v ∈ values then some (leaf v) else none := by
  obtain ⟨d, hd, hnode⟩ := exists_childAt?_modifyAt (key_appendLeaves values) path t
  have hold : t.contains (path ++ [v]) = ((t.childrenAt path).find? fun c => c.key = v).isSome := by
    rw [contains, childAt?_append_cons]
    cases (t.childrenAt path).find? fun c => c.key = v <;> rfl
  rw [childAt?_append, hnode, Option.bind_some, childAt?_cons, child?_eq_find?, appendLeaves,
    children_node, List.find?_append, hd, find?_map_leaf, hold, childAt?_append_cons]
  cases (t.childrenAt path).find? fun c => c.key = v with
  | some c => rfl
  | none =>
    rw [Option.none_or, Option.isSome_none, if_neg Bool.false_ne_true]
    by_cases hv : v ∈ values
    · rw [if_pos hv, Option.bind_some, childAt?_leaf]
      simp only [hv, and_true]
    · rw [if_neg hv, if_neg fun h => hv h.2, Option.bind_none]

/-! ## Adding values -/

theorem addValues_of_mem (h : "" ∈ path) (values : List String) (t : SettingsTree) :
    t.addValues path values = .error (.invalidPath path) := by
  have hany : path.any String.isEmpty = true :=
    List.any_eq_true.2 ⟨"", h, rfl⟩
  rw [addValues, checkPath, if_pos hany]

theorem addValues_of_notMem (h : "" ∉ path) (values : List String) (t : SettingsTree) :
    t.addValues path values = .ok (modifyAt (appendLeaves values) path t) :=
  addValues_eq_ok_iff.2 ⟨fun _ hk hempty => h (hempty ▸ hk), rfl⟩

/-- **Reading after adding.**  A path with an empty name is refused, and there is no new tree.  At
any other path values can be added, after which it is there.  Its values are the old ones and then
the new ones.  A path that stops on the way has the values it had, with the next name behind them if
that was missing.  A path that leads on through a value reads as before if this was a value already,
and otherwise there is a leaf for each new value and nothing else.  Every path that parts from this
one reads as before. -/
theorem addValues_reads (t : SettingsTree) (path values : List String) :
    ("" ∈ path → t.addValues path values = .error (.invalidPath path)) ∧
      ("" ∉ path → ∃ u, t.addValues path values = .ok u ∧ u.contains path = true ∧
        u.namesAt path = t.namesAt path ++ values ∧
        (∀ above next rest, path = above ++ next :: rest →
          u.namesAt above =
            if t.contains (above ++ [next]) = true then t.namesAt above
            else t.namesAt above ++ [next]) ∧
        (∀ v rest, u.childAt? (path ++ v :: rest) =
          if t.contains (path ++ [v]) = true then t.childAt? (path ++ v :: rest)
          else if rest = [] ∧ v ∈ values then some (leaf v) else none) ∧
        ∀ q, Diverge path q → u.childAt? q = t.childAt? q) := by
  refine ⟨fun h => addValues_of_mem h values t, fun h => ?_⟩
  obtain ⟨d, hd, hnode⟩ := exists_childAt?_modifyAt (key_appendLeaves values) path t
  refine ⟨_, addValues_of_notMem h values t, ?_, ?_, ?_, ?_, ?_⟩
  · rw [contains, hnode]
    rfl
  · rw [namesAt_of_childAt? hnode, map_key_appendLeaves, hd, namesAt]
  · rintro above next rest rfl
    exact namesAt_modifyAt_above (key_appendLeaves values) above next rest t
  · exact fun v rest => childAt?_modifyAt_appendLeaves_below values path v rest t
  · exact fun q hq => childAt?_modifyAt_of_diverge (key_appendLeaves values) hq t

/-- A value is given twice, and then a setting below it: the path leads through the first of the two
values, which had no child. -/
theorem addValues_reads_belowValue :
    let t := node "exec-helper" [node "build" [leaf "make", leaf "make"], leaf "test"]
    let path := ["build", "make", "flags"]
    let u := node "exec-helper"
      [node "build" [node "make" [node "flags" [leaf "-k", leaf "-k"]], leaf "make"], leaf "test"]
    "" ∉ path ∧ t.addValues path ["-k", "-k"] = .ok u ∧ u.namesAt path = ["-k", "-k"] ∧
      u.namesAt ["build", "make"] = ["flags"] ∧ u.namesAt ["build"] = ["make", "make"] ∧
      u.childAt? ["build", "make", "flags", "-k"] = some (leaf "-k") ∧
      u.childAt? ["build", "make", "flags", "-j"] = none ∧
      Diverge path ["test"] ∧ u.childAt? ["test"] = t.childAt? ["test"] ∧
      "" ∈ ["build", ""] ∧
      t.addValues ["build", ""] ["-k"] = .error (.invalidPath ["build", ""]) := by
  intro t path u
  have hpath : "" ∉ path := by decide
  have hrefused : "" ∈ ["build", ""] := by decide
  have hbeside : Diverge path ["test"] := by decide
  obtain ⟨w, hw, -, hat, habove, hbelow, hother⟩ :=
    (addValues_reads t path ["-k", "-k"]).2 hpath
  obtain rfl : u = w := Except.ok.inj hw
  exact ⟨hpath, hw, hat, habove ["build", "make"] "flags" [] rfl,
    habove ["build"] "make" ["flags"] rfl, hbelow "-k" [], hbelow "-j" [], hbeside,
    hother ["test"] hbeside, hrefused, (addValues_reads t ["build", ""] ["-k"]).1 hrefused⟩

end SettingsTree
end Orchestrator
