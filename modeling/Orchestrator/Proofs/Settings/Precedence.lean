import Mathlib.Data.List.Nodup
import Orchestrator.Settings.Scoped

/-!
# Which setting a plugin reads

The configuration of a plugin is built by overlays, in which the last write of a name wins, while a
single setting can also be looked up in a list of sections, in which the first section that has the
name wins.  Both are the same rule: the section for the command comes before that of the plugin, and
both come before the defaults.

An overlay works name by name, so that the two sections may as well be laid over the defaults as one
list of children.  All that is said about a merged configuration is said about such a fold first.

* `SettingsTree.lastNamed?`: the last tree of a name in a list; `SettingsTree.childrenAt`: the
  children of a section.
* `find?_overlay`, `keys_overlay`, `getElem?_overlay`: what one overlay changes, by name and by
  position; `find?_foldl_overlay`, `keys_foldl_overlay` and `getElem?_foldl_overlay` say the same of
  a list of overlays.
* `children_mergeScoped`: the merged configuration as a fold.
* `mergeScoped_precedence`: **the section for the command, then that of the plugin, then the
  defaults**, with the order of the names, and the agreement with `lookupScoped`.
-/

namespace Orchestrator
namespace SettingsTree

/-- The last tree of a name in a list. -/
def lastNamed? (k : String) (cs : List SettingsTree) : Option SettingsTree :=
  cs.reverse.find? fun c => c.key = k

/-- The children of the node at a path, none when there is no such node. -/
def childrenAt (t : SettingsTree) (path : List String) : List SettingsTree :=
  ((t.childAt? path).map children).getD []

variable {k : String} {cs ds : List SettingsTree}

theorem child?_eq_find? (t : SettingsTree) (k : String) :
    t.child? k = t.children.find? fun c => c.key = k := rfl

theorem lastNamed?_append (k : String) (cs ds : List SettingsTree) :
    lastNamed? k (cs ++ ds) = (lastNamed? k ds).or (lastNamed? k cs) := by
  rw [lastNamed?, lastNamed?, lastNamed?, List.reverse_append, List.find?_append]

theorem lastNamed?_cons (k : String) (c : SettingsTree) (cs : List SettingsTree) :
    lastNamed? k (c :: cs) = (lastNamed? k cs).or (if c.key = k then some c else none) := by
  have hone : lastNamed? k [c] = if c.key = k then some c else none := by
    by_cases h : c.key = k <;> simp [lastNamed?, h]
  rw [← hone, ← lastNamed?_append]
  rfl

/-- Without repeated names the last tree of a name is the first one. -/
theorem lastNamed?_eq_find? (h : (cs.map key).Nodup) (k : String) :
    lastNamed? k cs = cs.find? fun c => c.key = k := by
  induction cs with
  | nil => rfl
  | cons c cs ih =>
    rw [List.map_cons, List.nodup_cons] at h
    obtain ⟨hnew, hrest⟩ := h
    rw [lastNamed?_cons, ih hrest]
    by_cases hc : c.key = k
    · -- no later tree has the name of the first one
      have hnone : (cs.find? fun d => d.key = k) = none := by
        refine List.find?_eq_none.2 fun d hd hdk => hnew ?_
        have hkey : d.key = c.key := (of_decide_eq_true hdk).trans hc.symm
        rw [← hkey]
        exact List.mem_map_of_mem hd
      simp [hnone, hc]
    · simp [hc]

/-! ## One overlay -/

/-- A change that keeps names changes the first tree of its name only. -/
theorem find?_updateExisting {f : SettingsTree → SettingsTree} (hf : ∀ c, (f c).key = c.key)
    (name k : String) (cs : List SettingsTree) :
    ((updateExisting name f cs).find? fun c => c.key = k) =
      if name = k then (cs.find? fun c => c.key = k).map f else cs.find? fun c => c.key = k := by
  induction cs with
  | nil => simp [updateExisting]
  | cons c cs ih =>
    rw [updateExisting]
    by_cases hc : c.key = name
    · rw [if_pos hc]
      by_cases hk : name = k
      · simp [hc, hk, hf]
      · have hck : ¬ c.key = k := fun h => hk (hc.symm.trans h)
        simp [hk, hck, hf]
    · rw [if_neg hc]
      by_cases hck : c.key = k
      · have hk : ¬ name = k := fun h => hc (hck.trans h.symm)
        simp [hck, hk]
      · simp only [List.find?_cons, hck, decide_false]
        exact ih

theorem map_key_updateExisting {f : SettingsTree → SettingsTree} (hf : ∀ c, (f c).key = c.key)
    (name : String) (cs : List SettingsTree) :
    (updateExisting name f cs).map key = cs.map key := by
  induction cs with
  | nil => rfl
  | cons c cs ih =>
    rw [updateExisting]
    by_cases hc : c.key = name
    · rw [if_pos hc, List.map_cons, List.map_cons, hf]
    · rw [if_neg hc, List.map_cons, List.map_cons, ih]

/-- A tree of another name, or behind one of the same name, is not changed. -/
theorem getElem?_updateExisting (name : String) (f : SettingsTree → SettingsTree) {i : Nat}
    {c : SettingsTree} (h : cs[i]? = some c)
    (hc : c.key ≠ name ∨ c.key ∈ (cs.take i).map key) :
    (updateExisting name f cs)[i]? = some c := by
  induction cs generalizing i with
  | nil => simp at h
  | cons d cs ih =>
    rw [updateExisting]
    cases i with
    | zero =>
      have hdc : d = c := by simpa using h
      have hne : d.key ≠ name := by simpa [hdc] using hc
      rw [if_neg hne, List.getElem?_cons_zero, hdc]
    | succ i =>
      rw [List.getElem?_cons_succ] at h
      by_cases hd : d.key = name
      · rw [if_pos hd, List.getElem?_cons_succ, h]
      · rw [if_neg hd, List.getElem?_cons_succ]
        refine ih h ?_
        rcases hc with hc | hc
        · exact Or.inl hc
        · rw [List.take_succ_cons, List.map_cons, List.mem_cons] at hc
          rcases hc with hc | hc
          · exact Or.inl fun hname => hd (hc.symm.trans hname)
          · exact Or.inr hc

theorem any_key_eq_true_iff (k : String) (cs : List SettingsTree) :
    (cs.any fun c => c.key = k) = true ↔ k ∈ cs.map key := by
  rw [List.any_eq_true, List.mem_map]
  simp only [decide_eq_true_eq]

/-- **What an overlay changes, by name**: it becomes the tree of its own name. -/
theorem find?_overlay (cs : List SettingsTree) (incoming : SettingsTree) (k : String) :
    ((overlay cs incoming).find? fun c => c.key = k) =
      if incoming.key = k then some incoming else cs.find? fun c => c.key = k := by
  rw [overlay]
  split
  · rename_i hany
    have hkeeps : ∀ c : SettingsTree, (node c.key incoming.children).key = c.key := fun _ => rfl
    rw [find?_updateExisting hkeeps]
    by_cases hk : incoming.key = k
    · rw [if_pos hk, if_pos hk]
      -- the tree that was there keeps its name, which is that of the incoming one
      cases hfind : cs.find? fun c => c.key = k with
      | none =>
        obtain ⟨c, hc, hkey⟩ := List.any_eq_true.1 hany
        refine absurd ?_ (List.find?_eq_none.1 hfind c hc)
        simpa [hk] using hkey
      | some c =>
        have hc : c.key = k := by simpa using List.find?_some hfind
        obtain ⟨name, children⟩ := incoming
        rw [Option.map_some, hc, ← hk]
        rfl
    · rw [if_neg hk, if_neg hk]
  · rename_i hany
    rw [List.find?_append]
    by_cases hk : incoming.key = k
    · have hnone : (cs.find? fun c => c.key = k) = none := by
        refine List.find?_eq_none.2 fun c hc hck => hany ?_
        refine List.any_eq_true.2 ⟨c, hc, ?_⟩
        simpa [hk] using hck
      simp [hnone, hk]
    · simp [hk]

/-- **What an overlay changes, in the names**: a new one comes last. -/
theorem keys_overlay (cs : List SettingsTree) (incoming : SettingsTree) :
    (overlay cs incoming).map key =
      if incoming.key ∈ cs.map key then cs.map key else cs.map key ++ [incoming.key] := by
  have hkeeps : ∀ c : SettingsTree, (node c.key incoming.children).key = c.key := fun _ => rfl
  rw [overlay]
  by_cases h : incoming.key ∈ cs.map key
  · rw [if_pos ((any_key_eq_true_iff _ _).2 h), if_pos h, map_key_updateExisting hkeeps]
  · rw [if_neg (mt (any_key_eq_true_iff _ _).1 h), if_neg h, List.map_append, List.map_singleton]

/-- **What an overlay changes, by position**: nothing but the first tree of its name. -/
theorem getElem?_overlay {incoming c : SettingsTree} {i : Nat} (h : cs[i]? = some c)
    (hc : c.key ≠ incoming.key ∨ c.key ∈ (cs.take i).map key) :
    (overlay cs incoming)[i]? = some c := by
  rw [overlay]
  split
  · exact getElem?_updateExisting _ _ h hc
  · obtain ⟨hi, -⟩ := List.getElem?_eq_some_iff.1 h
    rw [List.getElem?_append_left hi, h]

/-! ## Overlays in a row -/

/-- After overlays in a row, a name means the last of them, or what it meant before. -/
theorem find?_foldl_overlay (cs ds : List SettingsTree) (k : String) :
    ((ds.foldl overlay cs).find? fun c => c.key = k) =
      (lastNamed? k ds).or (cs.find? fun c => c.key = k) := by
  induction ds generalizing cs with
  | nil => rfl
  | cons d ds ih =>
    rw [List.foldl_cons, ih, find?_overlay, lastNamed?_cons]
    by_cases hd : d.key = k
    · simp only [hd, if_true, Option.or_assoc, Option.some_or]
    · simp only [hd, if_false, Option.or_none]

/-- After overlays in a row, the new names come last, each once, in the order in which they occur
first. -/
theorem keys_foldl_overlay (cs ds : List SettingsTree) :
    (ds.foldl overlay cs).map key =
      cs.map key ++ ((ds.map key).filter fun k => k ∉ cs.map key).eraseDups := by
  induction ds generalizing cs with
  | nil => simp
  | cons d ds ih =>
    rw [List.foldl_cons, ih, keys_overlay, List.map_cons, List.filter_cons]
    by_cases hd : d.key ∈ cs.map key
    · simp only [hd, if_true, not_true_eq_false, decide_false, Bool.false_eq_true, if_false]
    · simp only [hd, if_false, not_false_eq_true, decide_true, if_true]
      rw [List.eraseDups_cons, List.filter_filter, List.append_assoc, List.singleton_append]
      have hfilter : ∀ k : String, decide (k ∉ cs.map key ++ [d.key]) =
          ((!k == d.key) && decide (k ∉ cs.map key)) := by
        intro k
        by_cases hk : k = d.key <;> simp [hk]
      simp only [hfilter]

/-- After overlays in a row, a tree whose name none of them has, or behind one of the same name, is
where it was. -/
theorem getElem?_foldl_overlay {c : SettingsTree} {i : Nat} (h : cs[i]? = some c)
    (hc : c.key ∉ ds.map key ∨ c.key ∈ (cs.take i).map key) :
    (ds.foldl overlay cs)[i]? = some c := by
  induction ds generalizing cs with
  | nil => exact h
  | cons d ds ih =>
    rw [List.foldl_cons]
    have hstep : c.key ≠ d.key ∨ c.key ∈ (cs.take i).map key := by
      rcases hc with hc | hc
      · exact Or.inl fun hd => hc (hd ▸ List.mem_cons_self)
      · exact Or.inr hc
    refine ih (getElem?_overlay h hstep) ?_
    rcases hc with hc | hc
    · exact Or.inl fun hmem => hc (List.mem_cons_of_mem _ hmem)
    · -- the names before position `i` are those that were there
      refine Or.inr ?_
      obtain ⟨hi, -⟩ := List.getElem?_eq_some_iff.1 h
      have hi' : i ≤ (cs.map key).length := by
        rw [List.length_map]
        omega
      rw [List.map_take, keys_overlay]
      rw [List.map_take] at hc
      split
      · exact hc
      · rwa [List.take_append_of_le_length hi']

/-! ## The merged configuration -/

theorem children_overwriteWith (t settings : SettingsTree) (path : List String) :
    (t.overwriteWith settings path).children =
      (settings.childrenAt path).foldl overlay t.children := by
  rw [overwriteWith, childrenAt]
  cases settings.childAt? path with
  | none => rfl
  | some scope => rfl

theorem key_overwriteWith (t settings : SettingsTree) (path : List String) :
    (t.overwriteWith settings path).key = t.key := by
  rw [overwriteWith]
  cases settings.childAt? path with
  | none => rfl
  | some scope => rfl

/-- A merged configuration is one fold: the children of the section of the plugin, then those of the
section for the command, laid over the defaults. -/
theorem children_mergeScoped (defaults settings : SettingsTree) (plugin command : String) :
    (mergeScoped defaults settings plugin command).children =
      (settings.childrenAt [plugin] ++ settings.childrenAt [plugin, command]).foldl overlay
        defaults.children := by
  rw [mergeScoped, children_overwriteWith, children_overwriteWith, List.foldl_append]

theorem lookupScoped_cons (settings : SettingsTree) (path : List String)
    (paths : List (List String)) (k : String) :
    lookupScoped settings (path :: paths) k =
      ((settings.childrenAt path).find? fun c => c.key = k).or (lookupScoped settings paths k) := by
  rw [lookupScoped, List.findSome?_cons, childrenAt]
  cases settings.childAt? path with
  | none => rfl
  | some scope =>
    rw [Option.bind_some, Option.map_some, Option.getD_some, ← child?_eq_find?]
    cases scope.child? k with
    | none => rfl
    | some c => rfl

theorem nodup_eraseDups : ∀ ks : List String, ks.eraseDups.Nodup
  | [] => by
    rw [List.eraseDups_nil]
    exact List.nodup_nil
  | k :: ks => by
    rw [List.eraseDups_cons, List.nodup_cons]
    refine ⟨fun hmem => ?_, nodup_eraseDups (ks.filter fun b => !b == k)⟩
    simpa using (List.mem_filter.1 (List.mem_eraseDups.1 hmem)).2
termination_by ks => ks.length
decreasing_by
  have := List.length_filter_le (fun b => !b == k) ks
  rw [List.length_cons]
  omega

/-- A new name stands once in a list of names with its new names behind it. -/
theorem count_append_eraseDups {ks fresh : List String} (hfresh : ∀ k ∈ fresh, k ∉ ks)
    (h : k ∈ fresh) : (ks ++ fresh.eraseDups).count k = 1 := by
  have hold : ks.count k = 0 := List.count_eq_zero.2 (hfresh k h)
  have hnew : fresh.eraseDups.count k = 1 :=
    List.count_eq_one_of_mem (nodup_eraseDups fresh) (List.mem_eraseDups.2 h)
  rw [List.count_append, hold, hnew]

/-- **Which setting wins.**  In a merged configuration a name means the last child of that name in
the section for the command; without one, the last child of that name in the section of the plugin;
without one of these either, what it means in the defaults.  The node is named as the defaults are.
Their children come first and keep their places, and stay as they are unless they are the first of a
name that is overlaid; each name that is new comes behind them once, in the order in which the two
sections have it first.  When neither section repeats a name, this is what is found by looking into
the section for the command, then into that of the plugin, and then into the defaults. -/
theorem mergeScoped_precedence (defaults settings : SettingsTree) (plugin command k : String) :
    let merged := mergeScoped defaults settings plugin command
    let general := settings.childrenAt [plugin]
    let specific := settings.childrenAt [plugin, command]
    let known := defaults.children.map key
    let fresh := ((general ++ specific).map key).filter fun name => name ∉ known
    merged.child? k =
        (lastNamed? k specific).or ((lastNamed? k general).or (defaults.child? k)) ∧
      merged.key = defaults.key ∧
      merged.children.map key = known ++ fresh.eraseDups ∧
      (∀ name ∈ fresh, (merged.children.map key).count name = 1) ∧
      (∀ i c, defaults.children[i]? = some c →
        c.key ∉ (general ++ specific).map key ∨ c.key ∈ (defaults.children.take i).map key →
        merged.children[i]? = some c) ∧
      ((general.map key).Nodup → (specific.map key).Nodup →
        merged.child? k =
          (lookupScoped settings [[plugin, command], [plugin]] k).or (defaults.child? k)) := by
  intro merged general specific known fresh
  have hchildren : merged.children = (general ++ specific).foldl overlay defaults.children :=
    children_mergeScoped defaults settings plugin command
  have hchild : merged.child? k =
      (lastNamed? k specific).or ((lastNamed? k general).or (defaults.child? k)) := by
    rw [child?_eq_find?, hchildren, find?_foldl_overlay, lastNamed?_append, Option.or_assoc]
    rfl
  have hkeys : merged.children.map key = known ++ fresh.eraseDups := by
    rw [hchildren]
    exact keys_foldl_overlay _ _
  refine ⟨hchild, ?_, hkeys, ?_, ?_, ?_⟩
  · exact (key_overwriteWith _ settings _).trans (key_overwriteWith defaults settings _)
  · intro name hname
    rw [hkeys]
    refine count_append_eraseDups (fun k hk => ?_) hname
    simpa using (List.mem_filter.1 hk).2
  · intro i c hc hkept
    rw [hchildren]
    exact getElem?_foldl_overlay hc hkept
  · intro hgeneral hspecific
    rw [hchild, lookupScoped_cons, lookupScoped_cons, lastNamed?_eq_find? hspecific,
      lastNamed?_eq_find? hgeneral, Option.or_assoc, Option.or_assoc]
    rfl

/-- A number of jobs for the plugin, and another one for one of its commands.  The section for the
command is itself a child of the section of the plugin, and so a new name of the configuration. -/
theorem mergeScoped_precedence_jobs :
    let defaults := node "make" [node "jobs" [leaf "8"], node "verbose" [leaf "no"]]
    let build := node "build" [node "target" [leaf "all"], node "jobs" [leaf "2"]]
    let settings := node "exec-helper" [node "make" [node "jobs" [leaf "4"], build]]
    let merged := mergeScoped defaults settings "make" "build"
    ((settings.childrenAt ["make"]).map key).Nodup ∧
      ((settings.childrenAt ["make", "build"]).map key).Nodup ∧
      merged.child? "jobs" = some (node "jobs" [leaf "2"]) ∧
      lookupScoped settings [["make", "build"], ["make"]] "jobs" =
        some (node "jobs" [leaf "2"]) ∧
      merged.children.map key = ["jobs", "verbose", "build", "target"] ∧
      (merged.children.map key).count "target" = 1 ∧
      merged.children[1]? = some (node "verbose" [leaf "no"]) := by
  intro defaults build settings merged
  have hgeneral : ((settings.childrenAt ["make"]).map key).Nodup := by decide
  have hspecific : ((settings.childrenAt ["make", "build"]).map key).Nodup := by decide
  obtain ⟨hchild, -, hkeys, hcount, hkept, hlookup⟩ :=
    mergeScoped_precedence defaults settings "make" "build" "jobs"
  refine ⟨hgeneral, hspecific, hchild, ?_, hkeys, ?_, ?_⟩
  · have hagree := (hlookup hgeneral hspecific).symm.trans hchild
    exact hagree
  · exact hcount "target" (by decide)
  · exact hkept 1 _ rfl (Or.inl (by decide))

end SettingsTree
end Orchestrator
