import Orchestrator.Proofs.Journal
import Orchestrator.Resolution.Basic

/-!
# What a plugin is asked, and what it answers

Before a plugin plans, its configuration is merged and the patterns that the configuration selects
are looked up.  Both belong to the frame that the plugin has entered.  What the resolution does at a
plugin can then be said without opening the definitions: a plan is the answer of the plugin to its
request, an error is a pattern that is not registered or a fault of the plugin, and but for log
messages the journal holds the application alone.

* `Configuration.requestIn`, `Configuration.patternKeys`: what a plugin is given to plan with, and
  the patterns that its configuration lists.
* `Plugin.defaults_congr`, `Configuration.prepare_congr`: what the answer of a plugin depends on.
* `Configuration.result_selectPatterns_eq_ok`: the patterns that some names select.
* `Configuration.result_prepare_eq_ok_iff`, `Configuration.error_prepare_cases`,
  `Configuration.mem_journal_prepare_cases`: **what comes of asking a plugin for its plan**.
* `Configuration.applied_mem_journal_prepare`: it is on record.
-/

namespace Orchestrator

theorem Applier.addDefaults_congr {o o' : RunOptions} (hverbose : o'.verbose = o.verbose)
    (hjobs : o'.jobs = o.jobs) (a : Applier) (t : SettingsTree) :
    a.addDefaults o' t = a.addDefaults o t := by
  cases a with
  | jobs style => rw [addDefaults, addDefaults, hjobs]
  | verbosity flag => rw [addDefaults, addDefaults, hverbose]
  | _ => rfl

/-- The defaults of a plugin depend on the verbosity and on the number of jobs only. -/
theorem Plugin.defaults_congr {o o' : RunOptions} (hverbose : o'.verbose = o.verbose)
    (hjobs : o'.jobs = o.jobs) (p : Plugin) : p.defaults o' = p.defaults o := by
  have happlier := Applier.addDefaults_congr hverbose hjobs
  cases p with
  | builtIn b =>
    cases b <;> simp only [defaults, BuiltIn.defaults, Wrapper.valgrindDefaults,
      Wrapper.scanBuildDefaults, Analyzer.cppcheckDefaults, Analyzer.pmdDefaults, happlier]
  | strategy s =>
    have happliers : (fun t (a : Applier) => a.addDefaults o' t) =
        fun t a => a.addDefaults o t := by
      funext t a
      exact happlier a t
    rw [defaults, defaults, Strategy.defaults, Strategy.defaults, happliers]
  | memory name fails => rfl

namespace Configuration

/-- What a plugin is given to plan with, in the frame that it has entered. -/
def requestIn (cfg : Configuration) (f : Frame) (p : Plugin) (patterns : List Pattern)
    (task : Task) : Request :=
  ⟨f.scopedCommand p.name, cfg.pluginVariables f p, patterns, task⟩

/-- The patterns that the configuration of a plugin lists in a frame. -/
def patternKeys (cfg : Configuration) (f : Frame) (p : Plugin) : List String :=
  (cfg.pluginVariables f p).getD [Names.patterns] []

variable {cfg cfg' : Configuration} {f : Frame} {p : Plugin} {t : Task} {r : Request}
  {e : DispatchError} {entry : Entry} {steps : List Step}

/-! ## What an answer depends on -/

/-- The configuration of a plugin depends on its defaults and on its section. -/
theorem pluginVariables_congr (hverbose : cfg'.options.verbose = cfg.options.verbose)
    (hjobs : cfg'.options.jobs = cfg.options.jobs)
    (hsection : cfg'.settings.child? p.name = cfg.settings.child? p.name) (f : Frame) :
    cfg'.pluginVariables f p = cfg.pluginVariables f p := by
  simp only [pluginVariables, SettingsTree.mergeScoped, SettingsTree.overwriteWith,
    SettingsTree.childAt?_cons, hsection, p.defaults_congr hverbose hjobs]

/-- Which patterns are selected depends on those that are listed, and on whether each of them has to
be registered. -/
theorem selectPatterns_congr {keys : List String}
    (hstrict : cfg'.options.strictPatterns = cfg.options.strictPatterns)
    (hpatterns : ∀ key ∈ keys, cfg'.patterns.get? key = cfg.patterns.get? key) (plugin : String) :
    cfg'.selectPatterns plugin keys = cfg.selectPatterns plugin keys := by
  induction keys with
  | nil => rfl
  | cons key keys ih =>
    rw [selectPatterns, selectPatterns, hpatterns key List.mem_cons_self, hstrict,
      ih fun other hother => hpatterns other (List.mem_cons_of_mem key hother)]

/-- The answer of a plugin depends on its defaults, its section and the patterns that its
configuration lists. -/
theorem prepare_congr (cfg cfg' : Configuration)
    (hverbose : cfg'.options.verbose = cfg.options.verbose)
    (hjobs : cfg'.options.jobs = cfg.options.jobs)
    (hstrict : cfg'.options.strictPatterns = cfg.options.strictPatterns)
    (hsection : cfg'.settings.child? p.name = cfg.settings.child? p.name)
    (hpatterns : ∀ key ∈ cfg.patternKeys f p, cfg'.patterns.get? key = cfg.patterns.get? key)
    (t : Task) : cfg'.prepare f p t = cfg.prepare f p t := by
  have hsections : cfg'.sections f p = cfg.sections f p := by
    refine congrArg (List.map _) (List.filter_congr fun path hpath => ?_)
    obtain ⟨rest, rfl⟩ : ∃ rest, path = p.name :: rest := by
      rcases List.mem_cons.1 hpath with rfl | hpath
      · exact ⟨[], rfl⟩
      · exact ⟨_, List.mem_singleton.1 hpath⟩
    rw [SettingsTree.childAt?_cons, SettingsTree.childAt?_cons, hsection]
  have hactive : cfg'.activePatterns p.name (cfg.pluginVariables f p) =
      cfg.activePatterns p.name (cfg.pluginVariables f p) :=
    selectPatterns_congr hstrict hpatterns p.name
  rw [prepare, prepare, pluginVariables_congr hverbose hjobs hsection, hsections, hactive]

/-! ## The selection of patterns -/

section

variable {plugin : String} {keys : List String} {patterns : List Pattern}

/-- The selected patterns are those that are registered, in the order of the names. -/
theorem result_selectPatterns_eq_ok (h : (cfg.selectPatterns plugin keys).result = .ok patterns) :
    patterns = keys.filterMap cfg.patterns.get? := by
  induction keys generalizing patterns with
  | nil =>
    cases h
    rfl
  | cons key keys ih =>
    rw [selectPatterns] at h
    split at h
    · rename_i p hp
      obtain ⟨rest, hrest, rfl⟩ := Outcome.result_map_eq_ok_iff.1 h
      rw [List.filterMap_cons_some hp, ih hrest]
    · rename_i hp
      rw [List.filterMap_cons_none hp]
      split at h
      · cases h
      · exact ih h

theorem error_selectPatterns (h : (cfg.selectPatterns plugin keys).result = .error e) :
    ∃ key, e = .unregisteredPattern plugin key := by
  induction keys with
  | nil => cases h
  | cons key keys ih =>
    rw [selectPatterns] at h
    split at h
    · exact ih (Outcome.result_map_eq_error_iff.1 h)
    · split at h
      · cases h
        exact ⟨key, rfl⟩
      · exact ih h

/-- Selecting patterns writes log messages only. -/
theorem log_of_mem_journal_selectPatterns
    (h : entry ∈ (cfg.selectPatterns plugin keys).journal) : ∃ m, entry = .log m := by
  induction keys with
  | nil => cases h
  | cons key keys ih =>
    rw [selectPatterns] at h
    split at h
    · exact ih h
    · split at h
      · cases h
      · rcases List.mem_cons.1 h with rfl | h
        · exact ⟨_, rfl⟩
        · exact ih h

end

/-! ## The plan -/

theorem result_planOf_eq_ok_iff : (planOf p r).result = .ok steps ↔ p.plan r = .ok steps :=
  Outcome.result_mapError_eq_ok_iff (o := ⟨_, p.plan r⟩)

theorem result_planOf_eq_error_iff :
    (planOf p r).result = .error e ↔
      ∃ fault, p.plan r = .error fault ∧ .fault p.name fault = e :=
  Outcome.result_mapError_eq_error_iff (o := ⟨_, p.plan r⟩)

theorem mem_selection_cases (h : entry ∈ selection p r) :
    ∃ command commands, entry = .log (.selecting command commands) := by
  unfold selection at h
  split at h
  · exact ⟨_, _, List.mem_singleton.1 h⟩
  · cases h

theorem mem_journal_planOf_cases (h : entry ∈ (planOf p r).journal) :
    (∃ m, entry = .log m) ∨ entry = .applied ⟨p, r⟩ := by
  rcases List.mem_cons.1 h with h | h
  · exact Or.inr h
  · obtain ⟨command, commands, rfl⟩ := mem_selection_cases h
    exact Or.inl ⟨_, rfl⟩

/-- A plugin has a plan when its patterns can be selected and it plans with them. -/
theorem result_prepare_eq_ok_iff :
    (cfg.prepare f p t).result = .ok steps ↔
      ∃ patterns, (cfg.activePatterns p.name (cfg.pluginVariables f p)).result = .ok patterns ∧
        p.plan (cfg.requestIn f p patterns t) = .ok steps := by
  have h : (cfg.prepare f p t).result = ((cfg.activePatterns p.name
    (cfg.pluginVariables f p)).andThen fun patterns =>
      planOf p (cfg.requestIn f p patterns t)).result := rfl
  rw [h, Outcome.result_andThen_eq_ok_iff]
  simp only [result_planOf_eq_ok_iff]

/-- A plugin that has no plan selects a pattern that is not registered, or has a fault. -/
theorem error_prepare_cases (h : (cfg.prepare f p t).result = .error e) :
    (∃ key, e = .unregisteredPattern p.name key) ∨ ∃ fault, e = .fault p.name fault := by
  rcases Outcome.result_andThen_eq_error_iff.1 h with h | ⟨patterns, -, h⟩
  · exact Or.inl (error_selectPatterns h)
  · obtain ⟨fault, -, rfl⟩ := result_planOf_eq_error_iff.1 h
    exact Or.inr ⟨fault, rfl⟩

/-- A plugin that is asked for a plan is applied with its own configuration.  All else is written to
the log. -/
theorem mem_journal_prepare_cases (h : entry ∈ (cfg.prepare f p t).journal) :
    (∃ m, entry = .log m) ∨
      ∃ patterns, (cfg.activePatterns p.name (cfg.pluginVariables f p)).result = .ok patterns ∧
        entry = .applied ⟨p, cfg.requestIn f p patterns t⟩ := by
  rcases List.mem_append.1 h with h | h
  · obtain ⟨path, -, rfl⟩ := List.mem_map.1 h
    exact Or.inl ⟨_, rfl⟩
  · rcases Outcome.mem_journal_andThen h with h | ⟨patterns, hpatterns, h⟩
    · exact Or.inl (log_of_mem_journal_selectPatterns h)
    · rcases mem_journal_planOf_cases h with h | h
      · exact Or.inl h
      · exact Or.inr ⟨patterns, hpatterns, h⟩

/-- A plugin whose patterns can be selected is on record with them. -/
theorem applied_mem_journal_prepare {patterns : List Pattern}
    (h : (cfg.activePatterns p.name (cfg.pluginVariables f p)).result = .ok patterns) :
    .applied ⟨p, cfg.requestIn f p patterns t⟩ ∈ (cfg.prepare f p t).journal := by
  refine List.mem_append_right _ ?_
  rw [Outcome.andThen, h]
  exact List.mem_append_right _ List.mem_cons_self

end Configuration
end Orchestrator
