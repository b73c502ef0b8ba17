import Orchestrator.Proofs.Plugin.Anchored
import Orchestrator.Proofs.Resolution.Visits
import Orchestrator.Proofs.Run.KeepGoing

/-!
# The tasks of a run are well formed

A process can only be started for a task that has a program, and it is to find its working directory
in the variable `PWD`.  The task on which a run builds has no program yet and is anchored.  Plugins
keep it anchored, however they are nested, and each of them adds a program before it plans a task.

* `Task.WellFormed`: whether a task has a program and is anchored.
* `Configuration.Visits.anchored`: the invariant, that names are visited on top of anchored tasks.
* `Configuration.Emits.wellFormed`: the tasks that are emitted at visited names are well formed.
* `handedTasks_wellFormed`: **every task of a run is well formed**, so that no process is missing
  its program.
-/

namespace Orchestrator

/-- Whether a task has a program, and has a working directory whose text the variable `PWD`
repeats. -/
structure Task.WellFormed (t : Task) : Prop where
  args_ne_nil : t.args ≠ []
  anchored : t.Anchored

/-! ## Plugins -/

namespace PluginRegistry

/-- Whether no plugin of a registry is one for tests. -/
def IsReal (r : PluginRegistry) : Prop :=
  ∀ name p, r.get? name = some p → p.isMemory = false

theorem mem_toList_of_get? {r : PluginRegistry} {name : String} {p : Plugin}
    (h : r.get? name = some p) : p ∈ r.toList := by
  obtain ⟨e, he, rfl⟩ := Option.map_eq_some_iff.1 h
  exact List.mem_map_of_mem (List.mem_of_find?_eq_some he)

/-- The plugins that every run has are real. -/
theorem isReal_standard : standard.IsReal := by
  have hall : ∀ p ∈ standard.toList, p.isMemory = false := by decide
  intro name p h
  exact hall p (mem_toList_of_get? h)

end PluginRegistry

namespace Configuration

variable {cfg : Configuration} {base : Task} {requested : List String} {f : Frame} {p : Plugin}
  {t u : Task} {name : String} {steps : List Step} {step : Step}

/-- Every step of a plan is planned for the request that the plugin is given. -/
theorem plans_of_mem_prepare (h : (cfg.prepare f p t).result = .ok steps) (hstep : step ∈ steps) :
    ∃ patterns, p.Plans (cfg.requestIn f p patterns t) step := by
  obtain ⟨patterns, -, hplan⟩ := result_prepare_eq_ok_iff.1 h
  exact ⟨patterns, Plugin.plans_of_mem_plan hplan hstep⟩

theorem notMem_env_requestIn (hpwd : ¬ cfg.settings.SetsPwd) (f : Frame) (p : Plugin)
    (patterns : List Pattern) (t : Task) :
    Names.pwd ∉ (cfg.requestIn f p patterns t).env.map Prod.fst :=
  notMem_environmentOf_mergeScoped hpwd (p.child?_environment_defaults cfg.options) p.name
    (f.scopedCommand p.name)

/-- **The invariant**: names are visited on top of anchored tasks. -/
theorem Visits.anchored (hpwd : ¬ cfg.settings.SetsPwd) (hbase : base.Anchored)
    (h : cfg.Visits base requested f t name) : t.Anchored := by
  induction h with
  | requested hname => exact hbase
  | value hvisit hvalues hv ih => exact ih
  | @wrapped f t u name command p steps commands hvisit hp hsteps hstep hcommand ih =>
    obtain ⟨patterns, hplans⟩ := plans_of_mem_prepare hsteps hstep
    cases hplans with
    | resolve hon =>
      exact hon.anchored ih (notMem_env_requestIn hpwd (f.pushed name) p patterns t)

/-- A task that is emitted at a visited name is well formed. -/
theorem Emits.wellFormed (hreal : cfg.plugins.IsReal) (hpwd : ¬ cfg.settings.SetsPwd)
    (hbase : base.Anchored) (h : cfg.Emits base requested u) : u.WellFormed := by
  obtain ⟨f, p, t, steps, ⟨g, name, hvisit, hp, rfl⟩, hsteps, hstep⟩ := h
  obtain ⟨hplugin, -⟩ := get?_of_referent_plugin hp
  obtain ⟨patterns, hplans⟩ := plans_of_mem_prepare hsteps hstep
  have ht : t.Anchored := hvisit.anchored hpwd hbase
  cases hplans with
  | emit hon hargs =>
    have hu : u.Anchored :=
      hon.anchored ht (notMem_env_requestIn hpwd (g.pushed name) p patterns t)
    exact ⟨hargs (hreal name p hplugin), hu⟩

end Configuration

namespace Run

open Executor (immediate)

/-! ## The tasks of a run -/

/-- A run that hands over a task has accepted its commands, and hands it over for one of them. -/
theorem exists_of_mem_handedTasks {σ : Type} {cfg : Configuration} {dirs : RunDirectories}
    {x : Executor σ} {s : σ} {t : Task} (h : t ∈ handedTasks cfg dirs x s) :
    ∃ command ∈ cfg.options.commands, ∃ start,
      t ∈ handed cfg x Frame.root (baseTask dirs) [command] start := by
  cases hvalid : validate cfg with
  | error e =>
    rw [handedTasks, execute_of_error cfg dirs _ _ hvalid] at h
    cases h
  | ok _ =>
    rw [handedTasks_of_ok cfg dirs x s hvalid] at h
    obtain ⟨a, ha, ht⟩ := List.mem_flatMap.1 h
    have hprefix := map_command_attempts cfg x (baseTask dirs) cfg.options.commands s
    exact ⟨a.command, hprefix.subset (List.mem_map_of_mem ha), a.start, ht⟩

/-- **Every task of a run is well formed.**  When no environment in the settings sets the variable
`PWD`, every task that a run with real plugins hands to an executor has a program, and a working
directory whose text the variable repeats.  So no command fails since there is no program to run. -/
theorem handedTasks_wellFormed (cfg : Configuration) (dirs : RunDirectories)
    (hreal : cfg.plugins.IsReal) (hpwd : ¬ cfg.settings.SetsPwd) :
    (∀ {σ : Type} (x : Executor σ) (s : σ), ∀ t ∈ handedTasks cfg dirs x s,
        t.args ≠ [] ∧
          ∃ dir, t.workingDir = some dir ∧ t.env.get? Names.pwd = some dir.text) ∧
      ∀ {ω : Type} (l : Launcher ω) (keepGoing : Bool) (w : ω),
        ∀ a ∈ attempts cfg (immediate l keepGoing) (baseTask dirs) cfg.options.commands
            (.initial w),
          a.progress.error ≠ some (.execution .emptyCommand) := by
  have hbase : (baseTask dirs).Anchored := Task.anchored_setWorkingDir Task.empty dirs.root
  constructor
  · intro σ x s t ht
    obtain ⟨command, -, start, ht⟩ := exists_of_mem_handedTasks ht
    have hemits := emits_of_mem_handed cfg (baseTask dirs) [command] start ht
    have hwell : t.WellFormed := hemits.wellFormed hreal hpwd hbase
    exact ⟨hwell.args_ne_nil, hwell.anchored⟩
  · intro ω l keepGoing w a ha herror
    rw [progress_of_mem_attempts cfg _ (baseTask dirs) cfg.options.commands _ ha,
      ← executeCommands_singleton, error_executeCommands, Option.or_eq_some_iff] at herror
    rcases herror with herror | ⟨-, herror⟩
    · -- the executor refuses one of the tasks, all of which have a program
      obtain ⟨e, he, heq⟩ := Option.map_eq_some_iff.1 herror
      cases heq
      obtain ⟨t, ht, u, hu⟩ := Executor.exists_of_error_executeAll _ he
      have hemits := emits_of_mem_delivered cfg (baseTask dirs) [a.command] ht
      have hwell : t.WellFormed := hemits.wellFormed hreal hpwd hbase
      exact Executor.error_execute_immediate_ne_emptyCommand l hwell.args_ne_nil keepGoing u hu
    · -- no leaf has an error of an executor
      exact not_concernsExecution_of_firstError cfg Frame.root (baseTask dirs) [a.command] herror
        trivial

/-- A build inside a memory checker, with a variable and a working directory of its own. -/
def checkedBuild : Configuration where
  options := { (default : RunOptions) with commands := ["check"] }
  settings := .node Names.root
    [.node Names.commands [.leaf "check"],
      .node "check" [.leaf "valgrind"],
      .node "valgrind" [.node Names.runCommand [.leaf "make"]],
      .node "make" [.node Names.environment [.node "CC" [.leaf "gcc"]],
        .node "check" [.node Names.workingDir [.leaf "/src"]]]]
  patterns := .empty
  plugins := .standard

/-- The run starts in one directory and its only task is in another one, which the variable
repeats. -/
theorem handedTasks_wellFormed_checkedBuild :
    let dirs : RunDirectories := ⟨.ofText "/home", .ofText "/home"⟩
    let task : Task := ⟨["valgrind", "make", "--jobs", "0"],
      .ofList [("CC", "gcc"), ("PWD", "/src")], some (.ofText "/src")⟩
    checkedBuild.plugins.IsReal ∧ ¬ checkedBuild.settings.SetsPwd ∧
      task ∈ handedTasks checkedBuild dirs Executor.collector [] ∧
      task.args ≠ [] ∧
      ∃ dir, task.workingDir = some dir ∧ task.env.get? Names.pwd = some dir.text := by
  intro dirs task
  have hreal : checkedBuild.plugins.IsReal := PluginRegistry.isReal_standard
  have hpwd : ¬ checkedBuild.settings.SetsPwd := by decide
  let wrapped : Frame := ⟨["check", "valgrind"], some "check"⟩
  let given : Task := (baseTask dirs).append "valgrind"
  -- what the three names stand for where they occur
  have hcheck : checkedBuild.referent .root "check" = .values ["valgrind"] := rfl
  have hvalgrind : checkedBuild.referent ((Frame.root.pushed "check").scopedTo "check") "valgrind" =
      .plugin (.builtIn .valgrind) := rfl
  have hmake : checkedBuild.referent wrapped "make" = .plugin (.strategy .gnuMake) := rfl
  have hplan : (checkedBuild.prepare (wrapped.pushed "make") (.strategy .gnuMake) given).result =
      .ok [.emit task] := by decide
  have hbuild : ((Leaf.application (wrapped.pushed "make") (.strategy .gnuMake)).outcome
      checkedBuild given).result = .ok [task] :=
    Leaf.result_outcome_of_emit hplan
  have hinner : (Outcome.concat (checkedBuild.outcomes wrapped given ["make"])).result =
      .ok [task] := by
    rw [Configuration.outcomes_cons_of_plugin _ hmake, Configuration.outcomes_nil]
    exact Outcome.result_andThen_eq_ok_iff.2 ⟨[task], hbuild, rfl⟩
  have hchecker : ((Leaf.application wrapped (.builtIn .valgrind)).outcome checkedBuild
      (baseTask dirs)).result = .ok [task] := by
    rw [Leaf.outcome_application]
    refine Outcome.result_andThen_eq_ok_iff.2 ⟨[.resolve ["make"] given], rfl, ?_⟩
    refine Outcome.result_andThen_eq_ok_iff.2 ⟨[task], ?_, rfl⟩
    exact Outcome.result_mapError_eq_ok_iff.2 hinner
  have htasks : checkedBuild.tasks .root (baseTask dirs) ["check"] = [task] := by
    rw [Configuration.tasks, Configuration.outcomes_cons_of_values _ hcheck,
      Configuration.outcomes_cons_of_plugin _ hvalgrind, Configuration.outcomes_nil,
      Configuration.outcomes_nil]
    exact Outcome.delivered_cons_of_ok hchecker
  have hmem : task ∈ handedTasks checkedBuild dirs Executor.collector [] := by
    rw [handedTasks_of_ok checkedBuild dirs _ _ rfl]
    obtain ⟨rest, hrest⟩ :=
      exists_attempts_cons checkedBuild Executor.collector (baseTask dirs) "check" [] []
    show task ∈ (attempts checkedBuild Executor.collector (baseTask dirs) ["check"] []).flatMap _
    rw [hrest, List.flatMap_cons, tasks_attemptOf, htasks]
    exact List.mem_append_left _ List.mem_cons_self
  obtain ⟨hwell, -⟩ := handedTasks_wellFormed checkedBuild dirs hreal hpwd
  obtain ⟨hargs, hdir⟩ := hwell Executor.collector [] task hmem
  exact ⟨hreal, hpwd, hmem, hargs, hdir⟩

end Run
end Orchestrator
