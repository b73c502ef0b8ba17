import Orchestrator.Proofs.Settings.Writes

/-!
# What is read after values were replaced

A replacement removes what is stored at a path and then adds the new values there.  The two have
different ideas of a path: nothing can be removed at the empty path, at which values can be added,
and a path with an empty name may hold something to remove, while nothing is added there.  For all
other paths the removal and the addition fit together, and both leave alone what parts from the
path.

* `childAt?_removeAt_append`, `namesAt_removeAt_above`, `childAt?_removeAt_of_diverge`: what a
  removal leaves **below its path, above it and beside it**.
* `clear_answer`: a removal tells whether its path is clear then.
* `removeAt_eq_self_iff`: a removal changes nothing exactly when there is nothing to remove.
* `replace_reads`: **reading after replacing**, at every path, and what becomes of the tree when a
  replacement is refused.
* `replace_keeps_or_loses`: the old values may stay, and they may be lost without new ones.
-/

namespace Orchestrator
namespace SettingsTree

variable {t : SettingsTree} {k : String} {path q : List String} {f : SettingsTree → SettingsTree}
  {cs : List SettingsTree}

/-! ## Removal -/

/-- The child of a name after a removal behind a name. -/
theorem child?_removeAt_cons (k : String) (path : List String) (t : SettingsTree) (j : String) :
    (removeAt (k :: path) t).child? j =
      if k = j then if path = [] then none else (t.child? k).map (removeAt path) else t.child? j := by
  cases path with
  | nil =>
    show ((removeChild k t.children).find? fun c => c.key = j) = _
    rw [if_pos rfl, child?_eq_find?, removeChild]
    by_cases hj : k = j
    · rw [if_pos hj]
      refine List.find?_eq_none.2 fun c hc hkey => ?_
      have hne : c.key ≠ k := of_decide_eq_true (List.mem_filter.1 hc).2
      exact hne ((of_decide_eq_true hkey).trans hj.symm)
    · rw [if_neg hj, List.find?_filter]
      -- of the children named `j` none is removed
      refine congrArg (fun p => t.children.find? p) (funext fun c => ?_)
      by_cases hc : c.key = j
      · simp [hc, Ne.symm hj]
      · simp [hc]
  | cons l path =>
    have hne : l :: path ≠ [] := List.cons_ne_nil l path
    show ((updateExisting k (removeAt (l :: path)) t.children).find? fun c => c.key = j) = _
    rw [find?_updateExisting (key_removeAt (l :: path)), if_neg hne, ← child?_eq_find?]
    by_cases hj : k = j
    · rw [if_pos hj, if_pos hj, hj]
    · rw [if_neg hj, if_neg hj]

/-- **At its path and below it** a removal leaves nothing. -/
theorem childAt?_removeAt_append (h : path ≠ []) (rest : List String) (t : SettingsTree) :
    (removeAt path t).childAt? (path ++ rest) = none := by
  induction path generalizing t with
  | nil => exact absurd rfl h
  | cons k path ih =>
    rw [List.cons_append, childAt?_cons, child?_removeAt_cons, if_pos rfl]
    by_cases hpath : path = []
    · rw [if_pos hpath, Option.bind_none]
    · rw [if_neg hpath]
      cases t.child? k with
      | none => rfl
      | some c => exact ih hpath c

theorem childAt?_removeAt_self (h : path ≠ []) (t : SettingsTree) :
    (removeAt path t).childAt? path = none := by
  have hnone := childAt?_removeAt_append h [] t
  rwa [List.append_nil] at hnone

theorem contains_removeAt (h : path ≠ []) (t : SettingsTree) :
    (removeAt path t).contains path = false := by
  rw [contains, childAt?_removeAt_self h]
  rfl

/-- **The answer of a removal**: the path is clear then, unless it is the empty one. -/
theorem clear_answer (t : SettingsTree) (path : List String) :
    (t.clear path).2 = !(t.clear path).1.contains path := by
  by_cases h : path = []
  · subst h
    rfl
  · show (!path.isEmpty) = !(removeAt path t).contains path
    rw [contains_removeAt h, List.isEmpty_eq_false_iff.2 h]

/-- **Above its path** a removal takes away the next name, when it is the last of the path. -/
theorem namesAt_removeAt_above (above : List String) (next : String) (rest : List String)
    (t : SettingsTree) :
    (removeAt (above ++ next :: rest) t).namesAt above =
      if rest = [] then (t.namesAt above).filter fun name => name ≠ next
      else t.namesAt above := by
  induction above generalizing t with
  | nil =>
    cases rest with
    | nil =>
      show (removeChild next t.children).map key = (t.children.map key).filter _
      rw [removeChild, List.filter_map]
      rfl
    | cons l rest => exact map_key_updateExisting (key_removeAt (l :: rest)) next t.children
  | cons k above ih =>
    have hne : above ++ next :: rest ≠ [] := by simp
    rw [List.cons_append, namesAt_cons, child?_removeAt_cons, if_pos rfl, if_neg hne, namesAt_cons]
    cases t.child? k with
    | none =>
      show [] = if rest = [] then [].filter _ else []
      rw [List.filter_nil, ite_self]
    | some c => exact ih c

/-- **Beside its path** a removal is not seen. -/
theorem childAt?_removeAt_of_diverge (h : Diverge path q) (t : SettingsTree) :
    (removeAt path t).childAt? q = t.childAt? q := by
  induction path generalizing t q with
  | nil => rfl
  | cons k path ih =>
    obtain ⟨j, q, rfl⟩ := List.exists_cons_of_ne_nil h.ne_nil
    rw [childAt?_cons, child?_removeAt_cons, childAt?_cons]
    by_cases hj : k = j
    · have hrest : Diverge path q := (diverge_cons_cons_iff.1 h).resolve_left (not_not_intro hj)
      have hpath : path ≠ [] := fun hnil => not_diverge_nil q (hnil ▸ hrest)
      rw [if_pos hj, if_neg hpath, ← hj]
      cases t.child? k with
      | none => rfl
      | some c => exact ih hrest c
    · rw [if_neg hj]

theorem updateExisting_eq_self (h : ∀ c, (cs.find? fun c => c.key = k) = some c → f c = c) :
    updateExisting k f cs = cs := by
  induction cs with
  | nil => rfl
  | cons c cs ih =>
    rw [updateExisting]
    by_cases hc : c.key = k
    · have hfirst : ((c :: cs).find? fun c => c.key = k) = some c :=
        List.find?_cons_of_pos (decide_eq_true hc)
      rw [if_pos hc, h c hfirst]
    · have hrest : ((c :: cs).find? fun c => c.key = k) = cs.find? fun c => c.key = k :=
        List.find?_cons_of_neg (mt of_decide_eq_true hc)
      rw [if_neg hc, ih fun d hd => h d (hrest.trans hd)]

/-- Where there is nothing, nothing is removed. -/
theorem removeAt_eq_self (h : t.contains path = false) : removeAt path t = t := by
  induction path generalizing t with
  | nil => rfl
  | cons k path ih =>
    obtain ⟨name, cs⟩ := t
    have hnone : (((node name cs).child? k).bind fun c => c.childAt? path) = none :=
      Option.not_isSome_iff_eq_none.1 (Bool.eq_false_iff.1 h)
    cases path with
    | nil =>
      have hfind : (cs.find? fun c => c.key = k) = none := by
        cases hc : (node name cs).child? k with
        | none => exact hc
        | some c =>
          rw [hc] at hnone
          cases hnone
      show node name (removeChild k cs) = node name cs
      rw [removeChild, List.filter_eq_self.2 fun c hc => ?_]
      have hkey := List.find?_eq_none.1 hfind c hc
      exact decide_eq_true fun heq => hkey (decide_eq_true heq)
    | cons l path =>
      show node name (updateExisting k (removeAt (l :: path)) cs) = node name cs
      rw [updateExisting_eq_self fun c hc => ih ?_]
      have hc : (node name cs).child? k = some c := hc
      rw [hc] at hnone
      rw [contains, ← Option.bind_some c fun c => c.childAt? (l :: path), hnone]
      rfl

/-- A removal changes nothing exactly when there is nothing to remove. -/
theorem removeAt_eq_self_iff (h : path ≠ []) : removeAt path t = t ↔ t.contains path = false := by
  refine ⟨fun heq => ?_, removeAt_eq_self⟩
  rw [← heq]
  exact contains_removeAt h t

/-! ## Replacement -/

theorem replace_of_mem (h : "" ∈ path) (values : List String) (t : SettingsTree) :
    t.replace path values = (removeAt path t, .error (.invalidPath path)) := by
  simp only [replace, clear, addValues_of_mem h]

theorem replace_of_notMem (h : "" ∉ path) (values : List String) (t : SettingsTree) :
    t.replace path values = (modifyAt (appendLeaves values) path (removeAt path t), .ok ()) := by
  simp only [replace, clear, addValues_of_notMem h]

/-- Where everything was removed, the values that are added are the only ones. -/
theorem namesAt_addedTo_removeAt (h : path ≠ []) (values : List String) (t : SettingsTree) :
    (modifyAt (appendLeaves values) path (removeAt path t)).namesAt path = values := by
  obtain ⟨d, hd, hnode⟩ := exists_childAt?_modifyAt (key_appendLeaves values) path (removeAt path t)
  have hchildren : d.children = [] := by
    rw [hd, childrenAt, childAt?_removeAt_self h]
    rfl
  rw [namesAt_of_childAt? hnode, map_key_appendLeaves, hchildren, List.map_nil, List.nil_append]

/-- The last name of the path is taken away before it is made, so that it comes to stand last. -/
theorem namesAt_addedTo_removeAt_above (values above : List String) (next : String)
    (rest : List String) (t : SettingsTree) :
    (modifyAt (appendLeaves values) (above ++ next :: rest)
        (removeAt (above ++ next :: rest) t)).namesAt above =
      if rest = [] then ((t.namesAt above).filter fun name => name ≠ next) ++ [next]
      else if t.contains (above ++ [next]) = true then t.namesAt above
      else t.namesAt above ++ [next] := by
  rw [namesAt_modifyAt_above (key_appendLeaves values)]
  simp only [contains_append_singleton_iff, namesAt_removeAt_above]
  by_cases hrest : rest = []
  · have hgone : next ∉ (t.namesAt above).filter fun name => name ≠ next := by simp
    rw [if_pos hrest, if_pos hrest, if_neg hgone]
  · rw [if_neg hrest, if_neg hrest]

/-- **Reading after replacing.**  At a path that has a name and no empty one, the values are the new
ones, none when there are none, and nothing else is below it.  The path stands last among the values
before it, once, and further up it is made as by an addition.  Every path that parts from it reads
as before.  At the empty path nothing is replaced: the new values are added to the old ones.  A path
with an empty name is refused, after what was stored there has been removed, so that the tree is
what it was exactly when there was nothing. -/
theorem replace_reads (t : SettingsTree) (path values : List String) :
    let after := (t.replace path values).1
    let result := (t.replace path values).2
    (path ≠ [] → "" ∉ path →
      result = .ok () ∧ after.get? path = (if values = [] then none else some values) ∧
        (∀ v rest, after.childAt? (path ++ v :: rest) =
          if rest = [] ∧ v ∈ values then some (leaf v) else none) ∧
        (∀ above next rest, path = above ++ next :: rest →
          after.namesAt above =
            if rest = [] then ((t.namesAt above).filter fun name => name ≠ next) ++ [next]
            else if t.contains (above ++ [next]) = true then t.namesAt above
            else t.namesAt above ++ [next]) ∧
        ∀ q, Diverge path q → after.childAt? q = t.childAt? q) ∧
      (path = [] →
        result = .ok () ∧ t.addValues path values = .ok after ∧
          after.namesAt path = t.namesAt path ++ values) ∧
      ("" ∈ path →
        result = .error (.invalidPath path) ∧ after.contains path = false ∧
          (∀ q, Diverge path q → after.childAt? q = t.childAt? q) ∧
          (after = t ↔ t.contains path = false)) := by
  intro after result
  refine ⟨fun hne hnamed => ?_, ?_, fun hempty => ?_⟩
  · have hreplace := replace_of_notMem hnamed values t
    have hafter : after = modifyAt (appendLeaves values) path (removeAt path t) :=
      congrArg Prod.fst hreplace
    refine ⟨congrArg Prod.snd hreplace, ?_, ?_, ?_, ?_⟩
    · rw [get?_eq_namesAt, hafter, namesAt_addedTo_removeAt hne]
    · intro v rest
      have hmissing : (removeAt path t).contains (path ++ [v]) = false := by
        rw [contains, childAt?_removeAt_append hne]
        rfl
      rw [hafter, childAt?_modifyAt_appendLeaves_below, hmissing, if_neg Bool.false_ne_true]
    · rintro above next rest rfl
      rw [hafter, namesAt_addedTo_removeAt_above]
    · intro q hq
      rw [hafter, childAt?_modifyAt_of_diverge (key_appendLeaves values) hq,
        childAt?_removeAt_of_diverge hq]
  · rintro rfl
    exact ⟨rfl, rfl, map_key_appendLeaves values t⟩
  · have hreplace := replace_of_mem hempty values t
    have hafter : after = removeAt path t := congrArg Prod.fst hreplace
    have hne : path ≠ [] := List.ne_nil_of_mem hempty
    refine ⟨congrArg Prod.snd hreplace, ?_, fun q hq => ?_, ?_⟩
    · rw [hafter, contains_removeAt hne]
    · rw [hafter, childAt?_removeAt_of_diverge hq]
    · rw [hafter, removeAt_eq_self_iff hne]

/-- The command line of a tool is replaced, an empty path, and a path that ends in an empty name. -/
theorem replace_reads_commandLine :
    let t := node "exec-helper"
      [node "make" [node "command-line" [leaf "a", leaf "b"], leaf "jobs"], leaf "ninja"]
    let path := ["make", "command-line"]
    let after := node "exec-helper"
      [node "make" [leaf "jobs", node "command-line" [leaf "c"]], leaf "ninja"]
    path ≠ [] ∧ "" ∉ path ∧ t.replace path ["c"] = (after, .ok ()) ∧
      after.get? path = some ["c"] ∧ after.childAt? ["make", "command-line", "a"] = none ∧
      after.namesAt ["make"] = ["jobs", "command-line"] ∧ Diverge path ["make", "jobs"] ∧
      after.childAt? ["make", "jobs"] = t.childAt? ["make", "jobs"] ∧
      (t.replace [] ["c"]).1.namesAt [] = ["make", "ninja", "c"] ∧ "" ∈ ["make", ""] ∧
      t.contains ["make", ""] = false ∧ (t.replace ["make", ""] ["c"]).1 = t := by
  intro t path after
  have hne : path ≠ [] := List.cons_ne_nil _ _
  have hnamed : "" ∉ path := by decide
  have hbeside : Diverge path ["make", "jobs"] := by decide
  have hempty : "" ∈ ["make", ""] := by decide
  have hreplace : t.replace path ["c"] = (after, .ok ()) := rfl
  obtain ⟨-, hat, hbelow, habove, hother⟩ := (replace_reads t path ["c"]).1 hne hnamed
  obtain ⟨-, -, hroot⟩ := (replace_reads t [] ["c"]).2.1 rfl
  obtain ⟨-, -, -, hunchanged⟩ := (replace_reads t ["make", ""] ["c"]).2.2 hempty
  exact ⟨hne, hnamed, hreplace, hat, hbelow "a" [], habove ["make"] "command-line" [] rfl, hbeside,
    hother ["make", "jobs"] hbeside, hroot, hempty, rfl, hunchanged.2 rfl⟩

/-- At the empty path the old values stay beside the new ones.  At a path with an empty name they
are lost, although the replacement is refused. -/
theorem replace_keeps_or_loses :
    let t := node "exec-helper" [leaf "old", leaf ""]
    t.replace [] ["new"] = (node "exec-helper" [leaf "old", leaf "", leaf "new"], .ok ()) ∧
      (t.replace [] ["new"]).1.get? [] ≠ some ["new"] ∧
      t.replace [""] ["new"] = (node "exec-helper" [leaf "old"], .error (.invalidPath [""])) ∧
      (t.replace [""] ["new"]).1 ≠ t := by
  intro t
  have hlost : t.replace [""] ["new"] =
      (node "exec-helper" [leaf "old"], .error (.invalidPath [""])) := rfl
  refine ⟨rfl, by decide, hlost, fun hsame => ?_⟩
  rw [hlost] at hsame
  exact absurd (congrArg (fun u => u.children.length) hsame) (by decide)

end SettingsTree
end Orchestrator
