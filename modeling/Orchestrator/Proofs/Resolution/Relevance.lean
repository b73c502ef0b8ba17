import Orchestrator.Proofs.Resolution.Forwarding
import Orchestrator.Proofs.Resolution.Lookups

/-!
# What a resolution does not use does not matter

A settings file serves many commands, and most of it has nothing to do with the one that is run.
Every look-up of a resolution goes by a name, and finds the first section of this name.  So the
sections of other names may be edited at will, and so may the patterns that no plugin lists which
the resolution comes to.  What is used is read off the run on the settings and patterns before the
edit alone; that the run after it uses the same is part of what is proved.

* `SettingsTree.EditedOutside`: sections are added, removed and changed, but for those of some
  names.
* `Configuration.edited`: the configuration with other settings and patterns.
* `Configuration.referent_edited`, `perform_congr`: one look-up and one plan depend on what they
  look at, as an application does by `Configuration.prepare_congr`.
* `executeCommands_edited`: **an edit of what is not used changes nothing**, neither the tasks that
  are handed over nor the result nor the journal.
-/

namespace Orchestrator

namespace SettingsTree

/-- Whether sections come from other ones by an edit that leaves those of some names as they are.
Sections of other names are removed and added anywhere; a section that is changed is removed, and
added as it is then. -/
inductive EditedOutside (used : String → Prop) : List SettingsTree → List SettingsTree → Prop where
  | nil : EditedOutside used [] []
  | kept (t : SettingsTree) {before after : List SettingsTree}
      (h : EditedOutside used before after) : EditedOutside used (t :: before) (t :: after)
  | removed {t : SettingsTree} {before after : List SettingsTree} (ht : ¬ used t.key)
      (h : EditedOutside used before after) : EditedOutside used (t :: before) after
  | added {t : SettingsTree} {before after : List SettingsTree} (ht : ¬ used t.key)
      (h : EditedOutside used before after) : EditedOutside used before (t :: after)

variable {used : String → Prop} {name : String}

theorem find?_cons_of_unused {t : SettingsTree} (ht : ¬ used t.key) (hname : used name)
    (ts : List SettingsTree) :
    ((t :: ts).find? fun c => c.key = name) = ts.find? fun c => c.key = name := by
  refine List.find?_cons_of_neg fun hkey => ht ?_
  rw [of_decide_eq_true hkey]
  exact hname

/-- The first section of a name that is used stays the first one. -/
theorem EditedOutside.find?_eq {before after : List SettingsTree}
    (h : EditedOutside used before after) (hname : used name) :
    (after.find? fun c => c.key = name) = before.find? fun c => c.key = name := by
  induction h with
  | nil => rfl
  | kept t h ih => rw [List.find?_cons, List.find?_cons, ih]
  | removed ht h ih => rw [find?_cons_of_unused ht hname, ih]
  | added ht h ih => rw [find?_cons_of_unused ht hname, ih]

end SettingsTree

namespace Configuration

/-- The configuration with other settings and other patterns. -/
def edited (cfg : Configuration) (settings : SettingsTree) (patterns : PatternRegistry) :
    Configuration :=
  { cfg with settings := settings, patterns := patterns }

/-- What a name stands for depends on the section of the name. -/
theorem referent_edited {cfg : Configuration} {settings : SettingsTree} {name : String}
    (h : settings.child? name = cfg.settings.child? name) (patterns : PatternRegistry) (f : Frame) :
    (cfg.edited settings patterns).referent f name = cfg.referent f name := by
  simp only [referent, edited, SettingsTree.get?, SettingsTree.childAt?_cons, h]

end Configuration

/-! ## Plans -/

/-- Two configurations do the same with a plan when the commands that they come to resolve to the
same.  Which these are is said by one of them alone. -/
theorem perform_congr {cfg cfg' : Configuration} {f : Frame} {plugin : String} {steps : List Step}
    (h : ∀ before commands u after tasks, steps = before ++ .resolve commands u :: after →
      (perform cfg f plugin before).result = .ok tasks →
      resolveCommands cfg' f u commands = resolveCommands cfg f u commands) :
    perform cfg' f plugin steps = perform cfg f plugin steps := by
  induction steps with
  | nil => rw [perform_nil, perform_nil]
  | cons step steps ih =>
    cases step with
    | emit t =>
      rw [perform_emit, perform_emit, ih]
      intro before commands u after tasks hsteps hbefore
      refine h (.emit t :: before) commands u after (t :: tasks) (congrArg _ hsteps) ?_
      rw [perform_emit]
      exact Outcome.result_map_eq_ok_iff.2 ⟨tasks, hbefore, rfl⟩
    | resolve commands t =>
      rw [perform_resolve, perform_resolve, h [] commands t steps [] rfl (by rw [perform_nil]; rfl)]
      refine Outcome.andThen_congr fun collected hcollected => ?_
      rw [ih]
      intro before inner u after tasks hsteps hbefore
      refine h (.resolve commands t :: before) inner u after (collected ++ tasks)
        (congrArg _ hsteps) ?_
      rw [perform_resolve]
      exact Outcome.result_andThen_eq_ok_iff.2
        ⟨collected, hcollected, Outcome.result_map_eq_ok_iff.2 ⟨tasks, hbefore, rfl⟩⟩

/-! ## Resolutions -/

section

variable {cfg : Configuration} {settings : SettingsTree} {patterns : PatternRegistry}

/-- Whether an edit leaves what is looked at when a name is looked up in a frame: the section of the
name, and the patterns that the configuration of a plugin of this name lists. -/
structure Configuration.Spares (cfg : Configuration) (settings : SettingsTree)
    (patterns : PatternRegistry) (f : Frame) (name : String) : Prop where
  child? : settings.child? name = cfg.settings.child? name
  pattern : ∀ p, cfg.referent f name = .plugin p → ∀ key ∈ cfg.patternKeys (f.pushed name) p,
    patterns.get? key = cfg.patterns.get? key

/-- An edit that leaves what a resolution comes to does not change the resolution.  Each look-up is
one that the resolution makes before the edit, which is what the hypothesis is about. -/
theorem executeCommands_eq_of_spares
    (hplugins : ∀ key p, cfg.plugins.get? key = some p →
      settings.child? p.name = cfg.settings.child? p.name) {σ : Type} (x : Executor σ) (f : Frame)
    (task : Task) (commands : List String) (s : σ)
    (h : ∀ g name, cfg.LooksUp x f task commands s g name → cfg.Spares settings patterns g name) :
    executeCommands (cfg.edited settings patterns) x f task commands s =
      executeCommands cfg x f task commands s := by
  induction f, commands using cfg.command_induction generalizing σ task with
  | nil f => rw [executeCommands_nil, executeCommands_nil]
  | cons f command commands ihcommand ihcommands =>
    have hcommand := ihcommand x task s fun g name hg => h g name hg.of_singleton
    rw [executeCommands_singleton, executeCommands_singleton] at hcommand
    rw [executeCommands_cons, executeCommands_cons, hcommand]
    refine Progress.andThen_congr fun hnone => ?_
    exact ihcommands x task _ fun g name hg => h g name (.tail hnone hg)
  | plugin f command p hname ih =>
    have hspares := h f command .head
    have hprepare : (cfg.edited settings patterns).prepare (f.pushed command) p task =
        cfg.prepare (f.pushed command) p task :=
      Configuration.prepare_congr cfg (cfg.edited settings patterns) rfl rfl rfl
        (hplugins command p (Configuration.get?_of_referent_plugin hname).1)
        (hspares.pattern p hname) task
    have happlication : (cfg.edited settings patterns).application (f.pushed command) p task =
        cfg.application (f.pushed command) p task := by
      rw [Configuration.application, Configuration.application, hprepare]
      refine Outcome.andThen_congr fun steps hsteps => ?_
      refine perform_congr fun before inner u after tasks hinner hbefore => ?_
      rw [hinner] at hsteps
      exact congrArg Progress.toOutcome <| ih inner Executor.collector u [] fun g name hg =>
        h g name (.wrapped hname hsteps hbefore hg)
    rw [executeCommands_singleton_eq, executeCommands_singleton_eq,
      Configuration.referent_edited hspares.child?, hname]
    simp only [happlication]
  | values f command values hname ih =>
    rw [executeCommands_singleton_eq, executeCommands_singleton_eq,
      Configuration.referent_edited (h f command .head).child?, hname]
    exact congrArg (Progress.noting _) (ih x task s fun g name hg => h g name (.value hname hg))
  | unknown f command hname =>
    rw [executeCommands_singleton_eq, executeCommands_singleton_eq,
      Configuration.referent_edited (h f command .head).child?, hname]
  | cyclic f command hname =>
    rw [executeCommands_singleton_eq, executeCommands_singleton_eq,
      Configuration.referent_edited (h f command .head).child?, hname]

/-- **An edit of what is not used changes nothing.**  Let sections of the settings be added, removed
or changed which are neither sections of registered plugins nor looked up as commands by a
resolution.  Let the patterns differ, but for those that a plugin lists which the resolution comes
to.  Then the executor is handed the same tasks in the same order, and the resolution ends in the
same state with the same error and the same journal. -/
theorem executeCommands_edited {σ : Type} (x : Executor σ) (f : Frame) (task : Task)
    (commands : List String) (s : σ)
    (hsettings : SettingsTree.EditedOutside (cfg.UsesSection x f task commands s)
      cfg.settings.children settings.children)
    (hpatterns : ∀ key, cfg.UsesPattern x f task commands s key →
      patterns.get? key = cfg.patterns.get? key) :
    handed (cfg.edited settings patterns) x f task commands s = handed cfg x f task commands s ∧
      executeCommands (cfg.edited settings patterns) x f task commands s =
        executeCommands cfg x f task commands s := by
  have hplugins : ∀ key p, cfg.plugins.get? key = some p →
      settings.child? p.name = cfg.settings.child? p.name :=
    fun key p hp => hsettings.find?_eq (Or.inl ⟨key, p, hp, rfl⟩)
  have hspares : ∀ g name, cfg.LooksUp x f task commands s g name →
      cfg.Spares settings patterns g name := by
    refine fun g name hg => ⟨hsettings.find?_eq (Or.inr ⟨g, hg⟩), fun p hp key hkey => ?_⟩
    exact hpatterns key ⟨g, name, p, hg, hp, hkey⟩
  have hwatched := executeCommands_eq_of_spares hplugins x.watched f task commands ⟨[], s⟩
    fun g name hg => hspares g name (hg.of_follows x.watched_follows)
  refine ⟨?_, executeCommands_eq_of_spares hplugins x f task commands s hspares⟩
  rw [handed, hwatched, handed]

end

/-- Two commands that stand for a plugin each; one of them chooses its commands by a pattern. -/
def releases : Configuration where
  options := default
  settings := .node Names.root
    [.node "build" [.leaf "selector"], .node "deploy" [.leaf "make"],
      .node "selector" [.node Names.patterns [.leaf "STEP"]]]
  patterns := (PatternRegistry.empty.add ⟨"STEP", ["make"], none, none, by decide⟩).add
    ⟨"HOST", ["alpha"], none, none, by decide⟩
  plugins := (PluginRegistry.empty.register (.memory "make" false)).register (.builtIn .selector)

/-- What is looked up to build: a section, the plugin in it, and the command that this chooses. -/
theorem looksUp_releases {g : Frame} {name : String}
    (h : releases.LooksUp .collector .root (Task.ofArgs ["base"]) ["build"] [] g name) :
    (name = "build" ∧ g = .root) ∨ (name = "selector" ∧ g = ⟨["build"], some "build"⟩) ∨
      (name = "make" ∧ g = ⟨["build", "selector"], some "build"⟩) := by
  let base := Task.ofArgs ["base"]
  have hbuild : releases.referent .root "build" = .values ["selector"] := rfl
  have hselector : releases.referent ⟨["build"], some "build"⟩ "selector" =
      .plugin (.builtIn .selector) := rfl
  have hmake : releases.referent ⟨["build", "selector"], some "build"⟩ "make" =
      .plugin (.memory "make" false) := rfl
  have hselected : (releases.prepare ⟨["build", "selector"], some "build"⟩ (.builtIn .selector)
      base).result = .ok [.resolve ["make"] base] := rfl
  have hmade : (releases.prepare ⟨["build", "selector", "make"], some "build"⟩
      (.memory "make" false) base).result = .ok [.emit base] := rfl
  cases h with
  | head => exact Or.inl ⟨rfl, rfl⟩
  | tail _ h => cases h
  | wrapped hplugin => cases hbuild.symm.trans hplugin
  | value hvalues h =>
    cases hbuild.symm.trans hvalues
    cases h with
    | head => exact Or.inr (Or.inl ⟨rfl, rfl⟩)
    | tail _ h => cases h
    | value hvalues => cases hselector.symm.trans hvalues
    | @wrapped _ _ _ _ _ u _ _ _ inner _ _ before after _ hplugin hsteps _ h =>
      cases hselector.symm.trans hplugin
      have hstep : Step.resolve inner u ∈ [Step.resolve ["make"] base] := by
        rw [Except.ok.inj (hselected.symm.trans hsteps)]
        exact List.mem_append_right before List.mem_cons_self
      cases List.mem_singleton.1 hstep
      cases h with
      | head => exact Or.inr (Or.inr ⟨rfl, rfl⟩)
      | tail _ h => cases h
      | value hvalues => cases hmake.symm.trans hvalues
      | @wrapped _ _ _ _ _ u _ _ _ inner _ _ before after _ hplugin hsteps _ h =>
        cases hmake.symm.trans hplugin
        have hstep : Step.resolve inner u ∈ [Step.emit base] := by
          rw [Except.ok.inj (hmade.symm.trans hsteps)]
          exact List.mem_append_right before List.mem_cons_self
        cases List.mem_singleton.1 hstep

/-- Between the sections that are used one is added and one removed, and the pattern that is not
listed gets other values. -/
theorem executeCommands_edited_releases :
    let base := Task.ofArgs ["base"]
    let settings := SettingsTree.node Names.root
      [.node "build" [.leaf "selector"], .node "spare" [.leaf "make"],
        .node "selector" [.node Names.patterns [.leaf "STEP"]]]
    let patterns := releases.patterns.add ⟨"HOST", ["beta", "gamma"], none, none, by decide⟩
    SettingsTree.EditedOutside (releases.UsesSection .collector .root base ["build"] [])
        releases.settings.children settings.children ∧
      (∀ key, releases.UsesPattern .collector .root base ["build"] [] key →
        patterns.get? key = releases.patterns.get? key) ∧
      handed (releases.edited settings patterns) .collector .root base ["build"] [] =
        handed releases .collector .root base ["build"] [] := by
  intro base settings patterns
  have hunused : ∀ name, name ∉ ["build", "selector", "make"] →
      ¬ releases.UsesSection .collector .root base ["build"] [] name := by
    rintro name hname (⟨key, p, hp, rfl⟩ | ⟨g, hg⟩)
    · obtain ⟨entry, hentry, rfl⟩ := Option.map_eq_some_iff.1 hp
      have hplugins : ∀ e ∈ releases.plugins.byName.entries,
          e.2.name ∈ ["build", "selector", "make"] := by decide
      exact hname (hplugins entry (List.mem_of_find?_eq_some hentry))
    · rcases looksUp_releases hg with ⟨rfl, -⟩ | ⟨rfl, -⟩ | ⟨rfl, -⟩ <;>
        exact hname (by decide)
  have hsettings : SettingsTree.EditedOutside
      (releases.UsesSection .collector .root base ["build"] [])
      releases.settings.children settings.children :=
    .kept _ <| .removed (hunused "deploy" (by decide)) <|
      .added (hunused "spare" (by decide)) <| .kept _ .nil
  have hpatterns : ∀ key, releases.UsesPattern .collector .root base ["build"] [] key →
      patterns.get? key = releases.patterns.get? key := by
    rintro key ⟨g, name, p, hg, hp, hkey⟩
    rcases looksUp_releases hg with ⟨rfl, rfl⟩ | ⟨rfl, rfl⟩ | ⟨rfl, rfl⟩
    · cases hp
    · cases hp
      obtain rfl : key = "STEP" := List.mem_singleton.1 hkey
      rfl
    · cases hp
      cases hkey
  exact ⟨hsettings, hpatterns,
    (executeCommands_edited .collector .root base ["build"] [] hsettings hpatterns).1⟩

end Orchestrator
