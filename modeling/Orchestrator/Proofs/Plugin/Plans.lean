import Orchestrator.Plugin.Basic

/-!
# What a plan consists of

Each plugin plans in its own way, but all plans are of one kind.  A task in a plan is the given one
with more arguments, with the environment and the working directory of the configuration, and with
placeholders replaced.  The commands that a plan asks for stand in the configuration of the plugin
or are the values of its patterns, and they are the same in all steps of the plan.

* `bind_eq_ok_iff`, `map_eq_ok_iff`: where a result comes from, by which the plans are
  taken apart reading by reading.
* `Task.BuiltOn`: the tasks that are built on another one; `Applier.builtOn_applyAll` for appliers.
* `Plugin.commandsOf`: the commands that a plugin asks for.
* `Plugin.Plans`, `Plugin.plans_of_mem_plan`: **every step of a plan is of this kind**.
-/

namespace Orchestrator

/-! ## Results -/

section

variable {ε α β : Type} {e : Except ε α} {b : β}

theorem bind_eq_ok_iff {k : α → Except ε β} :
    (e >>= k) = .ok b ↔ ∃ a, e = .ok a ∧ k a = .ok b := by
  cases e with
  | error e =>
    constructor
    · intro h
      cases h
    · rintro ⟨a, h, -⟩
      cases h
  | ok a =>
    constructor
    · intro h
      exact ⟨a, rfl, h⟩
    · rintro ⟨a', h, hk⟩
      cases h
      exact hk

theorem map_eq_ok_iff {g : α → β} : e.map g = .ok b ↔ ∃ a, e = .ok a ∧ g a = b := by
  cases e <;> simp [Except.map]

end

/-! ## Values of settings -/

theorem SettingsTree.ne_nil_of_values? {t : SettingsTree} {values : List String}
    (h : t.values? = some values) : values ≠ [] := by
  rw [values?] at h
  split at h
  · cases h
  · rename_i hempty
    cases h
    intro hnil
    rw [List.map_eq_nil_iff.1 hnil] at hempty
    exact hempty rfl

/-- A setting that is there has a value. -/
theorem SettingsTree.ne_nil_of_get? {t : SettingsTree} {path values : List String}
    (h : t.get? path = some values) : values ≠ [] := by
  obtain ⟨node, -, hvalues⟩ := Option.bind_eq_some_iff.1 h
  exact ne_nil_of_values? hvalues

/-- A setting that a plugin cannot do without is in its configuration. -/
theorem Request.get?_of_require_list {r : Request} {plugin key : String} {values : List String}
    (h : r.require plugin .list key = .ok values) : r.settings.get? [key] = some values := by
  unfold Request.require Request.read? SettingsTree.read? at h
  cases hget : r.settings.get? [key] with
  | none =>
    rw [hget] at h
    cases h
  | some found =>
    rw [hget] at h
    cases h
    rfl

theorem Request.getD_of_require_list {r : Request} {plugin key : String} {values : List String}
    (h : r.require plugin .list key = .ok values) : r.settings.getD [key] [] = values := by
  rw [SettingsTree.getD, r.get?_of_require_list h]
  rfl

/-! ## Tasks that are built on another one -/

namespace Task

/-- The tasks that a plugin can build on another one, for an environment. -/
inductive BuiltOn (env : List (String × String)) (t : Task) : Task → Prop where
  | refl : BuiltOn env t t
  | appendAll {u : Task} (h : BuiltOn env t u) (args : List String) :
      BuiltOn env t (u.appendAll args)
  | extendEnv {u : Task} (h : BuiltOn env t u) : BuiltOn env t (u.extendEnv env)
  | setWorkingDir {u : Task} (h : BuiltOn env t u) (dir : Path) :
      BuiltOn env t (u.setWorkingDir dir)
  | substitute {u : Task} (h : BuiltOn env t u) (c : Combination) : BuiltOn env t (u.substitute c)

variable {env : List (String × String)} {t u v : Task}

theorem BuiltOn.append (h : BuiltOn env t u) (arg : String) : BuiltOn env t (u.append arg) :=
  h.appendAll [arg]

theorem BuiltOn.trans (h : BuiltOn env t u) (hv : BuiltOn env u v) : BuiltOn env t v := by
  induction hv with
  | refl => exact h
  | appendAll hv args ih => exact ih.appendAll args
  | extendEnv hv ih => exact ih.extendEnv
  | setWorkingDir hv dir ih => exact ih.setWorkingDir dir
  | substitute hv c ih => exact ih.substitute c

theorem length_args_substitute (t : Task) (c : Combination) :
    (t.substitute c).args.length = t.args.length := by
  rw [substitute]
  split
  · rfl
  · exact List.length_map _

/-- No argument is taken away. -/
theorem BuiltOn.length_args_le (h : BuiltOn env t u) : t.args.length ≤ u.args.length := by
  induction h with
  | refl => exact Nat.le_refl _
  | @appendAll u h args ih =>
    show t.args.length ≤ (u.args ++ args).length
    rw [List.length_append]
    omega
  | extendEnv h ih => exact ih
  | setWorkingDir h dir ih => exact ih
  | substitute h c ih => rwa [length_args_substitute]

theorem BuiltOn.args_ne_nil (h : BuiltOn env t u) (ht : t.args ≠ []) : u.args ≠ [] := by
  have hle := h.length_args_le
  rw [← List.length_pos_iff] at ht ⊢
  omega

theorem substitute_args_ne_nil (c : Combination) (h : t.args ≠ []) :
    (t.substitute c).args ≠ [] := by
  rwa [← List.length_pos_iff, length_args_substitute, List.length_pos_iff]

theorem appendAll_args_ne_nil {args : List String} (h : args ≠ []) : (t.appendAll args).args ≠ [] :=
  List.append_ne_nil_of_right_ne_nil _ h

end Task

/-- The environment that the configuration of a request sets. -/
abbrev Request.env (r : Request) : List (String × String) :=
  environmentOf r.settings

/-! ## Appliers -/

namespace Applier

variable {r : Request} {t u : Task}

theorem builtOn_apply {a : Applier} (h : a.apply r t = .ok u) : Task.BuiltOn r.env t u := by
  cases a with
  | jobs style =>
    obtain ⟨n, -, h⟩ := bind_eq_ok_iff.1 h
    cases n with
    | none =>
      cases h
      exact .refl
    | some n =>
      cases h
      exact Task.BuiltOn.refl.appendAll _
  | buildDir style =>
    obtain ⟨dir, -, h⟩ := bind_eq_ok_iff.1 h
    split at h
    · cases h
      exact .refl
    · cases style with
      | long =>
        cases h
        exact Task.BuiltOn.refl.append _
      | short =>
        cases h
        exact Task.BuiltOn.refl.appendAll _
  | verbosity flag =>
    obtain ⟨verbose, -, h⟩ := bind_eq_ok_iff.1 h
    cases verbose with
    | false =>
      cases h
      exact .refl
    | true =>
      cases h
      exact Task.BuiltOn.refl.append flag
  | commandLine =>
    obtain ⟨args, -, h⟩ := bind_eq_ok_iff.1 h
    cases h
    exact Task.BuiltOn.refl.appendAll args
  | environment =>
    cases h
    exact Task.BuiltOn.refl.extendEnv
  | workingDir =>
    obtain ⟨dir, -, h⟩ := bind_eq_ok_iff.1 h
    cases dir with
    | none =>
      cases h
      exact .refl
    | some dir =>
      cases h
      exact Task.BuiltOn.refl.setWorkingDir dir

/-- Appliers build on the task that they are given. -/
theorem builtOn_applyAll {as : List Applier} (h : applyAll r as t = .ok u) :
    Task.BuiltOn r.env t u := by
  induction as generalizing t with
  | nil =>
    cases h
    exact .refl
  | cons a as ih =>
    rw [applyAll] at h
    cases ha : a.apply r t with
    | error e =>
      rw [ha] at h
      cases h
    | ok v =>
      rw [ha] at h
      exact (builtOn_apply ha).trans (ih h)

/-- A command line and appliers behind it make a task with arguments. -/
theorem builtOn_applyAll_appendAll {as : List Applier} {args : List String} (hargs : args ≠ [])
    (h : applyAll r as (r.task.appendAll args) = .ok u) :
    Task.BuiltOn r.env r.task u ∧ u.args ≠ [] := by
  have hu : Task.BuiltOn r.env (r.task.appendAll args) u := builtOn_applyAll h
  have hstart : Task.BuiltOn r.env r.task (r.task.appendAll args) :=
    Task.BuiltOn.refl.appendAll args
  exact ⟨hstart.trans hu, hu.args_ne_nil (Task.appendAll_args_ne_nil hargs)⟩

end Applier

/-! ## Plans -/

/-- The commands that a plugin asks for, by its configuration and its patterns. -/
def Plugin.commandsOf (settings : SettingsTree) (patterns : List Pattern) : Plugin → List String
  | .builtIn .valgrind => settings.getD [Names.runCommand] []
  | .builtIn .lcov => settings.getD [Names.runCommand] []
  | .builtIn .scanBuild => settings.getD ["build-command"] []
  | .builtIn .selector => patterns.flatMap Pattern.values
  | _ => []

/-- The steps that a plugin can plan. -/
inductive Plugin.Plans (p : Plugin) (r : Request) : Step → Prop where
  /-- A task that is built on the given one; only a plugin for tests leaves it without arguments. -/
  | emit {u : Task} (h : Task.BuiltOn r.env r.task u) (hargs : p.isMemory = false → u.args ≠ []) :
      Plans p r (.emit u)
  /-- The commands that the plugin asks for, on top of such a task. -/
  | resolve {u : Task} (h : Task.BuiltOn r.env r.task u) :
      Plans p r (.resolve (p.commandsOf r.settings r.patterns) u)

section

variable {r : Request} {steps : List Step} {step : Step}

theorem plans_of_mem_emitExpanded {p : Plugin} {u : Task} (h : Task.BuiltOn r.env r.task u)
    (hargs : p.isMemory = false → u.args ≠ []) (hstep : step ∈ emitExpanded u r.patterns) :
    p.Plans r step := by
  obtain ⟨v, hv, rfl⟩ := List.mem_map.1 hstep
  obtain ⟨c, -, rfl⟩ := List.mem_map.1 hv
  exact .emit (h.substitute c) fun hp => Task.substitute_args_ne_nil c (hargs hp)

theorem Strategy.plans_of_mem_plan {s : Strategy} (h : s.plan r = .ok steps)
    (hstep : step ∈ steps) : (Plugin.strategy s).Plans r step := by
  obtain ⟨built, hbuilt, rfl⟩ := map_eq_ok_iff.1 h
  obtain ⟨hon, hargs⟩ :=
    Applier.builtOn_applyAll_appendAll (List.cons_ne_nil s.binary []) hbuilt
  exact plans_of_mem_emitExpanded hon (fun _ => hargs) hstep

namespace Script

theorem plans_of_mem_bootstrap (h : bootstrap r = .ok steps) (hstep : step ∈ steps) :
    (Plugin.builtIn .bootstrap).Plans r step := by
  obtain ⟨filename, -, h⟩ := bind_eq_ok_iff.1 h
  obtain ⟨task, htask, h⟩ := bind_eq_ok_iff.1 h
  obtain ⟨dir, -, h⟩ := bind_eq_ok_iff.1 h
  cases h
  obtain ⟨hon, hargs⟩ := Applier.builtOn_applyAll_appendAll (List.cons_ne_nil _ []) htask
  exact plans_of_mem_emitExpanded (hon.setWorkingDir dir) (fun _ => hargs) hstep

/-- No command line of a configuration is empty. -/
theorem ne_nil_of_mem_lines {settings : SettingsTree} {line : List String}
    (h : line ∈ lines settings) : line ≠ [] := by
  rw [lines] at h
  split at h
  · cases h
  · rename_i node _
    split at h
    · obtain ⟨child, -, hchild⟩ := List.mem_filterMap.1 h
      exact SettingsTree.ne_nil_of_values? hchild
    · exact SettingsTree.ne_nil_of_values? (Option.mem_toList.1 h)

theorem plans_of_mem_commandLines (h : commandLines r = .ok steps) (hstep : step ∈ steps) :
    (Plugin.builtIn .commandLines).Plans r step := by
  unfold commandLines at h
  dsimp only at h
  split at h
  · cases h
  · obtain ⟨base, hbase, rfl⟩ := map_eq_ok_iff.1 h
    obtain ⟨line, hline, hstep⟩ := List.mem_flatMap.1 hstep
    have hon : Task.BuiltOn r.env r.task base := Applier.builtOn_applyAll hbase
    have hargs : (base.appendAll line).args ≠ [] :=
      Task.appendAll_args_ne_nil (ne_nil_of_mem_lines hline)
    exact plans_of_mem_emitExpanded (hon.appendAll line) (fun _ => hargs) hstep

end Script

namespace Analyzer

theorem plans_of_mem_cppcheck (h : cppcheck r = .ok steps) (hstep : step ∈ steps) :
    (Plugin.builtIn .cppcheck).Plans r step := by
  obtain ⟨checks, -, h⟩ := bind_eq_ok_iff.1 h
  obtain ⟨srcDir, -, h⟩ := bind_eq_ok_iff.1 h
  obtain ⟨target, -, h⟩ := bind_eq_ok_iff.1 h
  obtain ⟨task, htask, h⟩ := bind_eq_ok_iff.1 h
  cases h
  obtain ⟨hon, -⟩ := Applier.builtOn_applyAll_appendAll (List.cons_ne_nil _ _) htask
  refine plans_of_mem_emitExpanded (hon.append _) (fun _ => ?_) hstep
  exact Task.appendAll_args_ne_nil (List.cons_ne_nil _ [])

theorem plans_of_mem_clangTidy (h : clangTidy r = .ok steps) (hstep : step ∈ steps) :
    (Plugin.builtIn .clangTidy).Plans r step := by
  obtain ⟨checks, -, h⟩ := bind_eq_ok_iff.1 h
  obtain ⟨warnings, -, h⟩ := bind_eq_ok_iff.1 h
  obtain ⟨task, htask, h⟩ := bind_eq_ok_iff.1 h
  obtain ⟨sources, -, h⟩ := bind_eq_ok_iff.1 h
  cases h
  obtain ⟨hon, hargs⟩ := Applier.builtOn_applyAll_appendAll (List.cons_ne_nil _ _) htask
  have hsources : Task.BuiltOn r.env task (task.appendAll sources) :=
    Task.BuiltOn.refl.appendAll sources
  refine plans_of_mem_emitExpanded (hon.appendAll sources) (fun _ => ?_) hstep
  exact hsources.args_ne_nil hargs

theorem plans_of_mem_pmd (h : pmd r = .ok steps) (hstep : step ∈ steps) :
    (Plugin.builtIn .pmd).Plans r step := by
  obtain ⟨exec, -, h⟩ := bind_eq_ok_iff.1 h
  obtain ⟨tool, -, h⟩ := bind_eq_ok_iff.1 h
  obtain ⟨special, -, h⟩ := bind_eq_ok_iff.1 h
  obtain ⟨language, -, h⟩ := bind_eq_ok_iff.1 h
  obtain ⟨task, htask, h⟩ := bind_eq_ok_iff.1 h
  cases h
  obtain ⟨hon, hargs⟩ := Applier.builtOn_applyAll_appendAll (List.cons_ne_nil _ _) htask
  exact plans_of_mem_emitExpanded hon (fun _ => hargs) hstep

end Analyzer

namespace Wrapper

theorem plans_of_mem_valgrind (h : valgrind r = .ok steps) (hstep : step ∈ steps) :
    (Plugin.builtIn .valgrind).Plans r step := by
  obtain ⟨commands, hcommands, h⟩ := bind_eq_ok_iff.1 h
  obtain ⟨tool, -, h⟩ := bind_eq_ok_iff.1 h
  obtain ⟨task, htask, h⟩ := bind_eq_ok_iff.1 h
  cases h
  obtain ⟨u, hu, rfl⟩ := List.mem_map.1 hstep
  obtain ⟨c, -, rfl⟩ := List.mem_map.1 hu
  obtain ⟨hon, -⟩ := Applier.builtOn_applyAll_appendAll (List.cons_ne_nil _ _) htask
  have hsame : (Plugin.builtIn .valgrind).commandsOf r.settings r.patterns = commands :=
    Request.getD_of_require_list hcommands
  rw [← hsame]
  exact .resolve (hon.substitute c)

theorem plans_of_mem_scanBuild (h : scanBuild r = .ok steps) (hstep : step ∈ steps) :
    (Plugin.builtIn .scanBuild).Plans r step := by
  obtain ⟨commands, hcommands, h⟩ := bind_eq_ok_iff.1 h
  obtain ⟨task, htask, h⟩ := bind_eq_ok_iff.1 h
  cases h
  obtain ⟨hon, -⟩ := Applier.builtOn_applyAll_appendAll (List.cons_ne_nil "scan-build" []) htask
  have hsame : (Plugin.builtIn .scanBuild).commandsOf r.settings r.patterns = commands :=
    Request.getD_of_require_list hcommands
  rw [List.mem_singleton.1 hstep, ← hsame]
  exact .resolve hon

theorem plans_of_mem_selector (h : selector r = .ok steps) (hstep : step ∈ steps) :
    (Plugin.builtIn .selector).Plans r step := by
  rw [selector] at h
  split at h
  · cases h
    rw [List.mem_singleton.1 hstep]
    exact .resolve .refl
  · cases h

/-- The steps of a coverage run are calls of its two programs. -/
theorem exists_args_of_coverageSteps {s : CoverageSteps} (h : coverageSteps r = .ok s) {u : Task}
    (hu : u ∈ s.zeroCounters.toList ++ [s.capture] ++ s.exclude.toList ++ s.report.toList) :
    ∃ program args, u = r.task.appendAll (program :: args) := by
  obtain ⟨info, -, h⟩ := bind_eq_ok_iff.1 h
  obtain ⟨baseDir, -, h⟩ := bind_eq_ok_iff.1 h
  obtain ⟨dir, -, h⟩ := bind_eq_ok_iff.1 h
  obtain ⟨extra, -, h⟩ := bind_eq_ok_iff.1 h
  obtain ⟨zero, -, h⟩ := bind_eq_ok_iff.1 h
  obtain ⟨excludes, -, h⟩ := bind_eq_ok_iff.1 h
  obtain ⟨html, -, h⟩ := bind_eq_ok_iff.1 h
  obtain ⟨output, -, h⟩ := bind_eq_ok_iff.1 h
  obtain ⟨title, -, h⟩ := bind_eq_ok_iff.1 h
  obtain ⟨htmlExtra, -, h⟩ := bind_eq_ok_iff.1 h
  cases h
  simp only [List.mem_append, List.mem_singleton, Option.mem_toList] at hu
  rcases hu with ((hu | hu) | hu) | hu
  · split at hu
    · cases hu
      exact ⟨_, _, rfl⟩
    · cases hu
  · exact ⟨_, _, hu⟩
  · split at hu
    · cases hu
    · cases hu
      exact ⟨_, _, rfl⟩
  · split at hu
    · cases hu
      exact ⟨_, _, rfl⟩
    · cases hu

/-- A step for one combination is one of the commands in the middle, or one of the calls. -/
theorem CoverageSteps.mem_block_cases {s : CoverageSteps} {commands : List String} {t : Task}
    {c : Combination} (h : step ∈ s.block commands t c) :
    step = .resolve commands t ∨
      ∃ u ∈ s.zeroCounters.toList ++ [s.capture] ++ s.exclude.toList ++ s.report.toList,
        step = .emit (u.substitute c) := by
  simp only [block, List.mem_append, List.mem_map, List.mem_singleton] at h ⊢
  rcases h with (((⟨u, hu, rfl⟩ | h) | ⟨u, hu, rfl⟩) | ⟨u, hu, rfl⟩) | ⟨u, hu, rfl⟩
  · exact Or.inr ⟨u, Or.inl (Or.inl (Or.inl hu)), rfl⟩
  · exact Or.inl h
  · exact Or.inr ⟨u, Or.inl (Or.inl (Or.inr (List.mem_singleton.1 hu))), rfl⟩
  · exact Or.inr ⟨u, Or.inl (Or.inr hu), rfl⟩
  · exact Or.inr ⟨u, Or.inr hu, rfl⟩

theorem plans_of_mem_lcov (h : lcov r = .ok steps) (hstep : step ∈ steps) :
    (Plugin.builtIn .lcov).Plans r step := by
  obtain ⟨commands, hcommands, h⟩ := bind_eq_ok_iff.1 h
  obtain ⟨s, hs, h⟩ := bind_eq_ok_iff.1 h
  cases h
  obtain ⟨c, -, hstep⟩ := List.mem_flatMap.1 hstep
  have hsame : (Plugin.builtIn .lcov).commandsOf r.settings r.patterns = commands :=
    Request.getD_of_require_list hcommands
  rcases CoverageSteps.mem_block_cases hstep with rfl | ⟨u, hu, rfl⟩
  · rw [← hsame]
    exact .resolve .refl
  · obtain ⟨program, args, rfl⟩ := exists_args_of_coverageSteps hs hu
    have hcall : (r.task.appendAll (program :: args)).args ≠ [] :=
      Task.appendAll_args_ne_nil (List.cons_ne_nil program args)
    exact .emit ((Task.BuiltOn.refl.appendAll _).substitute c) fun _ =>
      Task.substitute_args_ne_nil c hcall

end Wrapper

/-- **Every step of a plan** is a task that is built on the given one, or asks for the commands of
the plugin on top of such a task. -/
theorem Plugin.plans_of_mem_plan {p : Plugin} (h : p.plan r = .ok steps) (hstep : step ∈ steps) :
    p.Plans r step := by
  cases p with
  | builtIn b =>
    cases b with
    | bootstrap => exact Script.plans_of_mem_bootstrap h hstep
    | commandLines => exact Script.plans_of_mem_commandLines h hstep
    | selector => exact Wrapper.plans_of_mem_selector h hstep
    | valgrind => exact Wrapper.plans_of_mem_valgrind h hstep
    | cppcheck => exact Analyzer.plans_of_mem_cppcheck h hstep
    | clangTidy => exact Analyzer.plans_of_mem_clangTidy h hstep
    | scanBuild => exact Wrapper.plans_of_mem_scanBuild h hstep
    | pmd => exact Analyzer.plans_of_mem_pmd h hstep
    | lcov => exact Wrapper.plans_of_mem_lcov h hstep
  | strategy s => exact s.plans_of_mem_plan h hstep
  | memory name fails =>
    cases fails with
    | true => cases h
    | false =>
      cases h
      exact plans_of_mem_emitExpanded .refl (fun hp => by cases hp) hstep

end
end Orchestrator
