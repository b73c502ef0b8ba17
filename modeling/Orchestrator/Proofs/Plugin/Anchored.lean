import Orchestrator.Proofs.Plugin.Plans
import Orchestrator.Proofs.Settings.Nodes
import Orchestrator.Proofs.Settings.Values

/-!
# Tasks that know their working directory

A task holds its working directory twice: as the directory in which its process starts, and as a
text in the variable `PWD` of the environment.  Both are set together and placeholders are replaced
in the text of both, so that they stay the same, unless a configuration sets the variable by itself.

* `Task.Anchored`: whether the two are there and the same; `Task.BuiltOn.anchored` says that plugins
  keep this.
* `SettingsTree.SetsPwd`: whether some environment in the settings sets the variable.
* `Plugin.child?_environment_defaults`: no plugin has an environment by default.
* `notMem_environmentOf_mergeScoped`: **without such settings no merged configuration has an
  environment that sets the variable**.
-/

namespace Orchestrator

/-! ## Two copies of one directory -/

namespace Task

/-- Whether a task has a working directory, and the variable `PWD` repeats its text. -/
def Anchored (t : Task) : Prop :=
  ∃ dir, t.workingDir = some dir ∧ t.env.get? Names.pwd = some dir.text

variable {t u : Task}

theorem anchored_setWorkingDir (t : Task) (dir : Path) : (t.setWorkingDir dir).Anchored := by
  refine ⟨dir, rfl, ?_⟩
  show (t.env.insert Names.pwd dir.text).get? Names.pwd = some dir.text
  rw [KeyedMap.get?_insert, if_pos rfl]

theorem Anchored.extendEnv (h : t.Anchored) {env : List (String × String)}
    (henv : Names.pwd ∉ env.map Prod.fst) : (t.extendEnv env).Anchored := by
  obtain ⟨dir, hdir, hpwd⟩ := h
  refine ⟨dir, hdir, ?_⟩
  show (t.env.extend env).get? Names.pwd = some dir.text
  rw [KeyedMap.get?_extend_of_notMem henv, hpwd]

/-- Placeholders are replaced in both copies alike. -/
theorem Anchored.substitute (h : t.Anchored) (c : Combination) : (t.substitute c).Anchored := by
  obtain ⟨dir, hdir, hpwd⟩ := h
  rw [Task.substitute]
  split
  · exact ⟨dir, hdir, hpwd⟩
  · refine ⟨dir.replacePlaceholders c, ?_, ?_⟩
    · show t.workingDir.map _ = _
      rw [hdir]
      rfl
    · show (t.env.mapValues _).get? Names.pwd = _
      rw [KeyedMap.get?_mapValues, hpwd, Path.text_replacePlaceholders]
      rfl

/-- **Building on a task keeps it anchored**, unless the environment sets the variable. -/
theorem BuiltOn.anchored {env : List (String × String)} (h : BuiltOn env t u) (ht : t.Anchored)
    (henv : Names.pwd ∉ env.map Prod.fst) : u.Anchored := by
  induction h with
  | refl => exact ht
  | appendAll _ args ih => exact ih
  | extendEnv _ ih => exact ih.extendEnv henv
  | @setWorkingDir u _ dir ih => exact anchored_setWorkingDir u dir
  | substitute _ c ih => exact ih.substitute c

end Task

/-! ## Environments in the settings -/

namespace SettingsTree

/-- Whether a node named `environment` has a child named `PWD`. -/
def SetsPwd (t : SettingsTree) : Prop :=
  ∃ n ∈ t.nodes, n.key = Names.environment ∧ Names.pwd ∈ n.children.map key

instance (t : SettingsTree) : Decidable t.SetsPwd :=
  inferInstanceAs (Decidable (∃ n ∈ t.nodes, _ ∧ _))

variable {t c n : SettingsTree}

theorem mem_nodes_of_childAt? {path : List String} (hc : t.childAt? path = some c)
    (hn : n ∈ c.nodes) : n ∈ t.nodes := by
  induction path generalizing t with
  | nil =>
    cases hc
    exact hn
  | cons k path ih =>
    rw [childAt?_cons] at hc
    obtain ⟨d, hd, hrest⟩ := Option.bind_eq_some_iff.1 hc
    exact mem_nodes_of_mem_children (mem_children_of_child? hd) (ih hrest)

theorem mem_nodes_of_mem_childrenAt {path : List String} (h : c ∈ t.childrenAt path) :
    c ∈ t.nodes := by
  rw [childrenAt] at h
  cases hscope : t.childAt? path with
  | none =>
    rw [hscope] at h
    cases h
  | some scope =>
    rw [hscope] at h
    exact mem_nodes_of_childAt? hscope (mem_nodes_of_mem_children h (mem_nodes_self c))

/-- What a name means in a merged configuration is a node of the settings, or what it means in the
defaults. -/
theorem mem_nodes_of_child?_mergeScoped {defaults settings : SettingsTree}
    {plugin command k : String}
    (h : (mergeScoped defaults settings plugin command).child? k = some c) :
    c ∈ settings.nodes ∨ defaults.child? k = some c := by
  rw [child?_eq_find?, children_mergeScoped, find?_foldl_overlay, Option.or_eq_some_iff] at h
  rcases h with h | ⟨-, h⟩
  · have hmem := List.mem_reverse.1 (List.mem_of_find?_eq_some h)
    rcases List.mem_append.1 hmem with hmem | hmem
    · exact Or.inl (mem_nodes_of_mem_childrenAt hmem)
    · exact Or.inl (mem_nodes_of_mem_childrenAt hmem)
  · exact Or.inr h

/-- A change of one child leaves the children of other names as they were. -/
theorem child?_modifyAt_singleton_of_ne {f : SettingsTree → SettingsTree}
    (hf : ∀ c, (f c).key = c.key) {k q : String} (h : k ≠ q) (t : SettingsTree) :
    (modifyAt f [k] t).child? q = t.child? q := by
  rw [child?_modifyAt_cons hf, if_neg h]

end SettingsTree

/-! ## The environments of plugins -/

theorem child?_withDefault_of_ne {k q : String} (h : k ≠ q) (value : String) (t : SettingsTree) :
    (withDefault k value t).child? q = t.child? q :=
  SettingsTree.child?_modifyAt_singleton_of_ne (f := SettingsTree.appendLeaves [value])
    (fun _ => rfl) h t

/-- An applier that has defaults has them for its own setting, which is no environment. -/
theorem Applier.child?_environment_addDefaults (a : Applier) (options : RunOptions)
    (t : SettingsTree) :
    (a.addDefaults options t).child? Names.environment = t.child? Names.environment := by
  have hjobs : Names.jobs ≠ Names.environment := by decide
  have hverbose : Names.verbose ≠ Names.environment := by decide
  cases a with
  | jobs style => exact child?_withDefault_of_ne hjobs _ t
  | verbosity flag => exact child?_withDefault_of_ne hverbose _ t
  | _ => rfl

/-- No plugin has an environment by default. -/
theorem Plugin.child?_environment_defaults (p : Plugin) (options : RunOptions) :
    (p.defaults options).child? Names.environment = none := by
  cases p with
  | builtIn b => cases b <;> rfl
  | strategy s =>
    have hfold : ∀ (as : List Applier) (t : SettingsTree), t.child? Names.environment = none →
        (as.foldl (fun t a => Applier.addDefaults options a t) t).child? Names.environment =
          none := by
      intro as
      induction as with
      | nil => exact fun t ht => ht
      | cons a as ih =>
        intro t ht
        exact ih _ ((a.child?_environment_addDefaults options t).trans ht)
    exact hfold s.appliers _ rfl
  | memory name fails => rfl

/-- **Without settings for the variable no merged configuration sets it**, since its environment is
a node of the settings or of the defaults. -/
theorem notMem_environmentOf_mergeScoped {defaults settings : SettingsTree}
    (h : ¬ settings.SetsPwd) (hdefaults : defaults.child? Names.environment = none)
    (plugin command : String) :
    Names.pwd ∉ (environmentOf
      (SettingsTree.mergeScoped defaults settings plugin command)).map Prod.fst := by
  rw [environmentOf]
  split
  · exact List.not_mem_nil
  · rename_i node hnode
    rw [List.map_map]
    intro hpwd
    rcases SettingsTree.mem_nodes_of_child?_mergeScoped hnode with hmem | hdefault
    · exact h ⟨node, hmem, SettingsTree.key_eq_of_child? hnode, hpwd⟩
    · rw [hdefaults] at hdefault
      cases hdefault

end Orchestrator
