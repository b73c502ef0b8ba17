import Orchestrator.Plugin.Basic
import Orchestrator.Proofs.Task.Overlay

/-!
# Plans on top of a task

The plan of a plugin for a task that is laid over another one is its plan for the upper task, with
every task in it laid over the lower one.  In other words a plugin neither looks at the task that it
is given nor changes what is in it.  This holds of each plugin since it holds of each applier, and
since a plugin reads its configuration and its patterns but only builds on its task.

There is one exception.  A plugin that fills in patterns reads the working directory as a text,
which is then all that is left of it.  Most plugins fill in their patterns in each step.  Two never
do, and a coverage run does it in the steps of its own and not in the commands between them.

* `Request.over`, `Step.over`: a request and a step of a plan on top of a task.
* `Request.below`, `Plugin.shows`: the lower task when patterns are filled in, and the steps in
  which this happens.
* `Applier.apply_over`, `Applier.applyAll_over`: an applier builds on the upper task;
  `Applier.bind_applyAll_over` is the form in which most plans use it.
* `Plugin.plan_over`: **the plan on top of a task without braces** is the plan with its tasks laid
  over it, or the same fault.
-/

namespace Orchestrator

/-! ## Steps that follow each other -/

section

variable {ε α α' β γ : Type} {k : α → Except ε β} {k' : α → Except ε γ} {g : γ → β}

/-- When what follows a reading is mapped, the whole is mapped. -/
theorem bind_eq_map_bind (x : Except ε α) (h : ∀ a, k a = (k' a).map g) :
    (x >>= k) = (x >>= k').map g := by
  cases x with
  | error e => rfl
  | ok a => exact h a

/-- The same for a reading that is mapped itself. -/
theorem map_bind_eq_map_bind (x : Except ε α) {l : α → α'} {k : α' → Except ε β}
    (h : ∀ a, k (l a) = (k' a).map g) : (x.map l >>= k) = (x >>= k').map g := by
  cases x with
  | error e => rfl
  | ok a => exact h a

end

/-! ## Requests and steps -/

/-- The request with its task laid over another one. -/
def Request.over (t : Task) (r : Request) : Request :=
  { r with task := t.overlay r.task }

/-- The step with its task laid over another one. -/
def Step.over (t : Task) : Step → Step
  | .emit u => .emit (t.overlay u)
  | .resolve commands u => .resolve commands (t.overlay u)

/-- The lower task when the patterns of a request are filled in on top of it. -/
def Request.below (r : Request) (t : Task) : Task :=
  t.shown !r.patterns.isEmpty

/-- Whether a plugin fills in patterns in the task of a step.  What a coverage run and two other
plugins hand down is not filled in. -/
def Plugin.fillsIn : Plugin → Step → Bool
  | .builtIn .selector, _ => false
  | .builtIn .scanBuild, _ => false
  | .builtIn .lcov, .resolve _ _ => false
  | _, _ => true

/-- Whether the directory below the task of a step is shown as a text. -/
def Plugin.shows (p : Plugin) (r : Request) (step : Step) : Bool :=
  p.fillsIn step && !r.patterns.isEmpty

variable {t : Task}

theorem emitExpanded_overlay (ht : t.BraceFree) (u : Task) (patterns : List Pattern) :
    emitExpanded (t.overlay u) patterns =
      (emitExpanded u patterns).map (Step.over (t.shown !patterns.isEmpty)) := by
  rw [emitExpanded, emitExpanded, ht.expand_overlay, List.map_map, List.map_map]
  rfl

/-! ## Appliers -/

namespace Applier

/-- An applier builds on the upper task. -/
theorem apply_over (t : Task) (r : Request) (u : Task) (a : Applier) :
    a.apply (r.over t) (t.overlay u) = (a.apply r u).map t.overlay := by
  cases a with
  | jobs style =>
    refine bind_eq_map_bind (r.read? .count Names.jobs) fun n => ?_
    cases n with
    | none => rfl
    | some n => exact congrArg Except.ok (t.overlay_appendAll u _)
  | buildDir style =>
    refine bind_eq_map_bind (r.readD .text Names.buildDir "") fun dir => ?_
    split
    · rfl
    · cases style with
      | long => exact congrArg Except.ok (t.overlay_append u _)
      | short => exact congrArg Except.ok (t.overlay_appendAll u _)
  | verbosity flag =>
    refine bind_eq_map_bind (r.readD .yesNo Names.verbose false) fun verbose => ?_
    cases verbose with
    | false => rfl
    | true => exact congrArg Except.ok (t.overlay_append u _)
  | commandLine =>
    refine bind_eq_map_bind (r.readD .list Names.commandLine []) fun args => ?_
    exact congrArg Except.ok (t.overlay_appendAll u _)
  | environment => exact congrArg Except.ok (t.overlay_extendEnv u _)
  | workingDir =>
    refine bind_eq_map_bind (r.read? .path Names.workingDir) fun dir => ?_
    cases dir with
    | none => rfl
    | some dir => exact congrArg Except.ok (t.overlay_setWorkingDir u dir)

/-- A list of appliers builds on the upper task. -/
theorem applyAll_over (t : Task) (r : Request) (as : List Applier) (u : Task) :
    applyAll (r.over t) as (t.overlay u) = (applyAll r as u).map t.overlay := by
  induction as generalizing u with
  | nil => rfl
  | cons a as ih =>
    rw [applyAll, applyAll, apply_over]
    cases a.apply r u with
    | error e => rfl
    | ok u => exact ih u

/-- A plugin that builds a command line with appliers, and goes on with it, builds on the upper
task when it goes on so. -/
theorem bind_applyAll_over {α β : Type} {k : Task → Except PluginFault α}
    {k' : Task → Except PluginFault β} {g : β → α} (r : Request) (as : List Applier)
    (args : List String) (h : ∀ u, k (t.overlay u) = (k' u).map g) :
    (applyAll (r.over t) as ((r.over t).task.appendAll args) >>= k) =
      (applyAll r as (r.task.appendAll args) >>= k').map g := by
  show (applyAll (r.over t) as ((t.overlay r.task).appendAll args) >>= k) = _
  rw [Task.overlay_appendAll, applyAll_over]
  exact map_bind_eq_map_bind _ h

end Applier

/-! ## Plans -/

section

variable (r : Request)

theorem Strategy.plan_over (ht : t.BraceFree) (s : Strategy) :
    s.plan (r.over t) = (s.plan r).map (List.map (Step.over (r.below t))) := by
  rw [Strategy.plan, Strategy.plan, Strategy.build, Strategy.build]
  show (Applier.applyAll (r.over t) s.appliers ((t.overlay r.task).append s.binary)).map _ = _
  rw [Task.overlay_append, Applier.applyAll_over]
  cases Applier.applyAll r s.appliers (r.task.append s.binary) with
  | error e => rfl
  | ok built => exact congrArg Except.ok (emitExpanded_overlay ht built r.patterns)

theorem Script.bootstrap_over (ht : t.BraceFree) :
    bootstrap (r.over t) = (bootstrap r).map (List.map (Step.over (r.below t))) := by
  refine bind_eq_map_bind (r.readD .path "filename" (.ofText standardScript)) fun filename => ?_
  refine Applier.bind_applyAll_over r _ [_] fun task => ?_
  refine bind_eq_map_bind (r.readD .path Names.buildDir (.ofText ".")) fun dir => ?_
  rw [Task.overlay_setWorkingDir]
  exact congrArg Except.ok (emitExpanded_overlay ht _ r.patterns)

theorem Script.commandLines_over (ht : t.BraceFree) :
    commandLines (r.over t) = (commandLines r).map (List.map (Step.over (r.below t))) := by
  rw [commandLines, commandLines]
  show (if (lines r.settings).isEmpty then _ else _) = _
  split
  · rfl
  · show (Applier.applyAll (r.over t) _ (t.overlay r.task)).map _ = _
    rw [Applier.applyAll_over]
    cases Applier.applyAll r [.environment, .workingDir] r.task with
    | error e => rfl
    | ok base =>
      refine congrArg Except.ok ?_
      rw [List.map_flatMap]
      refine congrArg (List.flatMap · (lines r.settings)) (funext fun line => ?_)
      rw [Task.overlay_appendAll]
      exact emitExpanded_overlay ht _ r.patterns

theorem Wrapper.valgrind_over (ht : t.BraceFree) :
    valgrind (r.over t) = (valgrind r).map (List.map (Step.over (r.below t))) := by
  refine bind_eq_map_bind (r.require "valgrind" .list Names.runCommand) fun commands => ?_
  refine bind_eq_map_bind (r.read? .text "tool") fun tool => ?_
  refine Applier.bind_applyAll_over r _ _ fun task => ?_
  refine congrArg Except.ok ?_
  rw [List.map_map]
  show ((t.overlay task).expand r.patterns).map _ = _
  rw [ht.expand_overlay, List.map_map]
  rfl

theorem Wrapper.scanBuild_over :
    scanBuild (r.over t) = (scanBuild r).map (List.map (Step.over t)) := by
  refine bind_eq_map_bind (r.require "clang-static-analyzer" .list "build-command")
    fun commands => ?_
  exact Applier.bind_applyAll_over r _ ["scan-build"] fun task => rfl

theorem Wrapper.selector_over :
    selector (r.over t) = (selector r).map (List.map (Step.over t)) := by
  rw [selector, selector]
  show (if r.settings.contains [Names.patterns] then _ else _) = _
  split <;> rfl

theorem Analyzer.cppcheck_over (ht : t.BraceFree) :
    cppcheck (r.over t) = (cppcheck r).map (List.map (Step.over (r.below t))) := by
  refine bind_eq_map_bind (r.readD .list "enable-checks" ["all"]) fun checks => ?_
  refine bind_eq_map_bind (r.readD .text "src-dir" ".") fun srcDir => ?_
  refine bind_eq_map_bind (r.readD .text "target-path" "") fun target => ?_
  refine Applier.bind_applyAll_over r _ _ fun task => ?_
  show Except.ok (emitExpanded ((t.overlay task).append _) r.patterns) = _
  rw [Task.overlay_append]
  exact congrArg Except.ok (emitExpanded_overlay ht _ r.patterns)

theorem Analyzer.clangTidy_over (ht : t.BraceFree) :
    clangTidy (r.over t) = (clangTidy r).map (List.map (Step.over (r.below t))) := by
  refine bind_eq_map_bind (r.readD .list "checks" []) fun checks => ?_
  refine bind_eq_map_bind (r.read? .list "warning-as-errors") fun warnings => ?_
  refine Applier.bind_applyAll_over r _ _ fun task => ?_
  refine bind_eq_map_bind (r.readD .list "sources" ["*.cpp"]) fun sources => ?_
  rw [Task.overlay_appendAll]
  exact congrArg Except.ok (emitExpanded_overlay ht _ r.patterns)

theorem Analyzer.pmd_over (ht : t.BraceFree) :
    pmd (r.over t) = (pmd r).map (List.map (Step.over (r.below t))) := by
  refine bind_eq_map_bind (r.require "pmd" .text "exec") fun exec => ?_
  refine bind_eq_map_bind (r.require "pmd" .text "tool") fun tool => ?_
  refine bind_eq_map_bind (duplicationArguments r tool) fun special => ?_
  refine bind_eq_map_bind (r.read? .text "language") fun language => ?_
  refine Applier.bind_applyAll_over r _ _ fun task => ?_
  exact congrArg Except.ok (emitExpanded_overlay ht _ r.patterns)

/-! ### Coverage runs -/

namespace Wrapper

/-- The steps around the commands of a coverage run, each laid over a task. -/
def CoverageSteps.over (t : Task) (s : CoverageSteps) : CoverageSteps where
  zeroCounters := s.zeroCounters.map t.overlay
  capture := t.overlay s.capture
  exclude := s.exclude.map t.overlay
  report := s.report.map t.overlay

theorem coverageCall_over (baseDir dir : String) (tail extra : List String) :
    coverageCall (r.over t) baseDir dir tail extra =
      t.overlay (coverageCall r baseDir dir tail extra) :=
  t.overlay_appendAll r.task _

theorem coverageSteps_over :
    coverageSteps (r.over t) = (coverageSteps r).map (CoverageSteps.over t) := by
  refine bind_eq_map_bind (r.readD .text "info-file" "") fun info => ?_
  refine bind_eq_map_bind (r.readD .text "base-directory" "") fun baseDir => ?_
  refine bind_eq_map_bind (r.readD .text "directory" "") fun dir => ?_
  refine bind_eq_map_bind (r.readD .list Names.commandLine []) fun extra => ?_
  refine bind_eq_map_bind (r.readD .yesNo "zero-counters" false) fun zero => ?_
  refine bind_eq_map_bind (r.readD .list "excludes" []) fun excludes => ?_
  refine bind_eq_map_bind (r.readD .yesNo "gen-html" false) fun html => ?_
  refine bind_eq_map_bind (r.readD .text "gen-html-output" "") fun output => ?_
  refine bind_eq_map_bind (r.readD .text "gen-html-title" "") fun title => ?_
  refine bind_eq_map_bind (r.readD .list "gen-html-command-line" []) fun htmlExtra => ?_
  show Except.ok (CoverageSteps.mk _ _ _ _) = Except.ok (CoverageSteps.mk _ _ _ _)
  rw [coverageCall_over, coverageCall_over]
  show Except.ok (CoverageSteps.mk _ _ (if _ then _ else some ((t.overlay r.task).appendAll _))
    (if _ then some ((t.overlay r.task).appendAll _) else _)) = _
  rw [Task.overlay_appendAll, Task.overlay_appendAll]
  cases zero <;> cases excludes.isEmpty <;> cases html <;> rfl

/-- The steps for one combination, on top of a task. -/
theorem CoverageSteps.block_over (ht : t.BraceFree) (s : CoverageSteps) (commands : List String)
    (u : Task) {c : Combination} (hc : c ∈ Combination.ofPatterns r.patterns) :
    (s.over t).block commands (t.overlay u) c =
      (s.block commands u c).map fun step =>
        step.over (t.shown (Plugin.shows (.builtIn .lcov) r step)) := by
  have hone : ∀ v : Task, (t.overlay v).substitute c = (r.below t).overlay (v.substitute c) := by
    intro v
    rw [ht.substitute_overlay, Combination.isEmpty_of_mem_ofPatterns hc]
    rfl
  have hown : ∀ step : Option Task,
      (step.map t.overlay).toList.map (fun u => Step.emit (u.substitute c)) =
        (step.toList.map fun u => Step.emit (u.substitute c)).map fun step =>
          step.over (t.shown (Plugin.shows (.builtIn .lcov) r step)) := by
    intro step
    cases step with
    | none => rfl
    | some v => exact congrArg (fun w => [Step.emit w]) (hone v)
  rw [block, block, List.map_append, List.map_append, List.map_append, List.map_append, ← hown,
    ← hown, ← hown, ← hown]
  rfl

theorem lcov_over (ht : t.BraceFree) :
    lcov (r.over t) = (lcov r).map (List.map fun step =>
      step.over (t.shown (Plugin.shows (.builtIn .lcov) r step))) := by
  refine bind_eq_map_bind (r.require "lcov" .list Names.runCommand) fun commands => ?_
  rw [coverageSteps_over]
  refine map_bind_eq_map_bind _ fun steps => ?_
  refine congrArg Except.ok ?_
  rw [List.map_flatMap]
  exact List.flatMap_congr fun c hc => CoverageSteps.block_over r ht steps commands r.task hc

end Wrapper

/-! ### All plugins -/

/-- **A plugin builds on its task.**  Its plan on top of a task without braces is its plan with each
task in it laid over this one, or over what is left of it when patterns are filled in, or the same
fault. -/
theorem Plugin.plan_over (ht : t.BraceFree) (p : Plugin) :
    p.plan (r.over t) =
      (p.plan r).map (List.map fun step => step.over (t.shown (p.shows r step))) := by
  cases p with
  | builtIn b =>
    cases b with
    | bootstrap => exact Script.bootstrap_over r ht
    | commandLines => exact Script.commandLines_over r ht
    | selector => exact Wrapper.selector_over r
    | valgrind => exact Wrapper.valgrind_over r ht
    | cppcheck => exact Analyzer.cppcheck_over r ht
    | clangTidy => exact Analyzer.clangTidy_over r ht
    | scanBuild => exact Wrapper.scanBuild_over r
    | pmd => exact Analyzer.pmd_over r ht
    | lcov => exact Wrapper.lcov_over r ht
  | strategy s => exact s.plan_over r ht
  | memory name fails =>
    cases fails with
    | true => rfl
    | false => exact congrArg Except.ok (emitExpanded_overlay ht r.task r.patterns)

end
end Orchestrator
