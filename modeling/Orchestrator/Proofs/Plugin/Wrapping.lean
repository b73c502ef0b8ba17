import Orchestrator.Proofs.Plugin.Applying
import Orchestrator.Proofs.Plugin.Productive

/-!
# The blocks of the wrapping plugins

The coverage run and the memory checker both go through the combinations of their patterns, and both
have other commands resolved for each of them.  They differ in what a combination is put into.  The
coverage run puts it into its own steps and resolves the commands on top of the task that it was
given, so that these come to the same in every block.  The memory checker puts it into the command
line on top of which the commands are resolved.

* `Wrapper.coverageRun`, `Wrapper.CoverageSteps.tasks`: the steps of a coverage run by the settings,
  and its tasks for one combination, to which `CoverageSteps.flatMap_block` brings its plan.
* `Wrapper.checkerPrefix`: the command line that the memory checker puts before a command.
* `Wrapper.result_lcov`, `Wrapper.valgrind_eq`: the two plugins by what they read.
* `Wrapper.blocks_in_order`: **one block for each combination**, in order, and when there is none.
-/

namespace Orchestrator
namespace Wrapper

variable (cfg : Configuration) (f : Frame) (r : Request)

/-- The commands that a request wraps. -/
def wrapped (r : Request) : List String :=
  r.settings.namesAt [Names.runCommand]

/-- A switch in the settings of a request, which is off where it is not set. -/
def switch (r : Request) (key : String) : Except SettingsError Bool :=
  r.settings.readD .yesNo [key] false

theorem require_wrapped (plugin : String) :
    r.require plugin .list Names.runCommand =
      if wrapped r = [] then .error (.missingSetting plugin r.command Names.runCommand)
      else .ok (wrapped r) :=
  r.require_list plugin Names.runCommand

theorem readD_switch (key : String) :
    r.readD .yesNo key false = (switch r key).mapError .settings :=
  r.readD_eq_mapError key Reading.yesNo false

/-! ## The coverage run -/

/-- The steps of a coverage run, by its settings and its two switches. -/
def coverageRun (r : Request) (zero html : Bool) : CoverageSteps :=
  let text (key : String) := (r.settings.namesAt [key]).getLast?.getD ""
  let list (key : String) := r.settings.namesAt [key]
  let call (tail : List String) := r.task.appendAll <|
    ["lcov", "--base-directory", text "base-directory", "--directory", text "directory"] ++ tail ++
      list Names.commandLine
  { zeroCounters := if zero then some (call ["--zerocounters"]) else none
    capture := call ["--capture", "--output", text "info-file"]
    exclude :=
      if list "excludes" = [] then none
      else some <| r.task.appendAll <|
        ["lcov", "--remove", text "info-file"] ++ (list "excludes").map (fun e => "\"" ++ e ++ "\"")
          ++ ["--output-file", text "info-file"] ++ list Names.commandLine
    report :=
      if html then
        some <| r.task.appendAll <|
          ["genhtml", "--output-directory", text "gen-html-output", "--title",
            text "gen-html-title", text "info-file"] ++ list "gen-html-command-line"
      else none }

/-- The tasks of a coverage run for one combination, around the tasks of the wrapped commands. -/
def CoverageSteps.tasks (s : CoverageSteps) (inner : List Task) (c : Combination) : List Task :=
  let own (step : Option Task) : List Task := step.toList.map fun t => t.substitute c
  own s.zeroCounters ++ inner ++ own (some s.capture) ++ own s.exclude ++ own s.report

/-- The tasks of a step of a plan in which all commands come to the same tasks. -/
def tasksOfStep (inner : List Task) : Step → List Task
  | .emit t => [t]
  | .resolve _ _ => inner

theorem CoverageSteps.flatMap_block (s : CoverageSteps) (commands : List String) (t : Task)
    (inner : List Task) (c : Combination) :
    (s.block commands t c).flatMap (tasksOfStep inner) = s.tasks inner c := by
  have hown (step : Option Task) :
      (step.toList.map fun u => Step.emit (u.substitute c)).flatMap (tasksOfStep inner) =
        step.toList.map fun u => u.substitute c := by
    cases step <;> rfl
  have hresolve : [Step.resolve commands t].flatMap (tasksOfStep inner) = inner :=
    List.append_nil inner
  simp only [block, tasks, List.flatMap_append, hown, hresolve]

/-- Only the two switches of a coverage run can be refused. -/
theorem coverageSteps_eq :
    coverageSteps r =
      match switch r "zero-counters", switch r "gen-html" with
      | .error e, _ => .error (.settings e)
      | .ok _, .error e => .error (.settings e)
      | .ok zero, .ok html => .ok (coverageRun r zero html) := by
  simp only [coverageSteps, r.readD_text, r.readD_list_nil, readD_switch]
  cases switch r "zero-counters" with
  | error e => rfl
  | ok zero =>
    cases switch r "gen-html" with
    | error e => rfl
    | ok html =>
      simp only [coverageRun, ← List.isEmpty_iff]
      rfl

theorem lcov_eq :
    lcov r =
      if wrapped r = [] then .error (.missingSetting "lcov" r.command Names.runCommand)
      else
        match switch r "zero-counters", switch r "gen-html" with
        | .error e, _ => .error (.settings e)
        | .ok _, .error e => .error (.settings e)
        | .ok zero, .ok html => .ok <| (Combination.ofPatterns r.patterns).flatMap
            ((coverageRun r zero html).block (wrapped r) r.task) := by
  rw [lcov, require_wrapped, coverageSteps_eq]
  by_cases hwrapped : wrapped r = []
  · rw [if_pos hwrapped, if_pos hwrapped]
    rfl
  · rw [if_neg hwrapped, if_neg hwrapped]
    cases switch r "zero-counters" with
    | error e => rfl
    | ok zero => cases switch r "gen-html" <;> rfl

section

variable {cfg f}

/-- A block of a coverage run gives its own tasks around those of the wrapped commands. -/
theorem coverage_of_ok {s : CoverageSteps} {commands : List String} {t : Task} {inner : List Task}
    (h : (resolveCommands cfg f t commands).result = .ok inner) (plugin : String)
    (combinations : List Combination) :
    (perform cfg f plugin (combinations.flatMap (s.block commands t))).result =
      .ok (combinations.flatMap (s.tasks inner)) := by
  have hgives : ∀ step ∈ combinations.flatMap (s.block commands t),
      step.Gives cfg f (tasksOfStep inner step) := by
    intro step hstep
    obtain ⟨c, -, hstep⟩ := List.mem_flatMap.1 hstep
    rcases CoverageSteps.mem_block_cases hstep with rfl | ⟨u, -, rfl⟩
    · exact .resolve h
    · exact .emit _
  rw [perform_of_forall_gives hgives, List.flatMap_assoc]
  simp only [s.flatMap_block]

/-- When the wrapped commands fail, they do so in the first block. -/
theorem coverage_of_error {s : CoverageSteps} {commands : List String} {t : Task}
    {e : DispatchError} (h : (resolveCommands cfg f t commands).result = .error e) (plugin : String)
    {combinations : List Combination} (hne : combinations ≠ []) :
    (perform cfg f plugin (combinations.flatMap (s.block commands t))).result =
      .error (.within plugin e) := by
  obtain ⟨c, cs, rfl⟩ := List.exists_cons_of_ne_nil hne
  rw [List.flatMap_cons, CoverageSteps.block]
  simp only [List.append_assoc, List.singleton_append]
  refine perform_of_first_error (fun step hstep => ?_) h
  obtain ⟨u, -, rfl⟩ := List.mem_map.1 hstep
  exact ⟨_, .emit _⟩

end

/-- **A coverage run** by what it reads and by what the wrapped commands come to. -/
theorem result_lcov :
    (applyPlugin cfg f (.builtIn .lcov) r).result =
      if wrapped r = [] then
        .error (.fault "lcov" (.missingSetting "lcov" r.command Names.runCommand))
      else
        match switch r "zero-counters", switch r "gen-html" with
        | .error e, _ => .error (.fault "lcov" (.settings e))
        | .ok _, .error e => .error (.fault "lcov" (.settings e))
        | .ok zero, .ok html =>
          match (resolveCommands cfg (f.scopedTo r.command) r.task (wrapped r)).result with
          | .error e => .error (.within "lcov" e)
          | .ok inner => .ok <| (Combination.ofPatterns r.patterns).flatMap
              ((coverageRun r zero html).tasks inner) := by
  have hplan : (Plugin.builtIn .lcov).plan r = _ := lcov_eq r
  by_cases hwrapped : wrapped r = []
  · rw [if_pos hwrapped] at hplan ⊢
    exact applyPlugin_of_fault cfg f hplan
  · rw [if_neg hwrapped] at hplan ⊢
    cases hzero : switch r "zero-counters" with
    | error e =>
      rw [hzero] at hplan
      exact applyPlugin_of_fault cfg f hplan
    | ok zero =>
      rw [hzero] at hplan
      cases hhtml : switch r "gen-html" with
      | error e =>
        rw [hhtml] at hplan
        exact applyPlugin_of_fault cfg f hplan
      | ok html =>
        rw [hhtml] at hplan
        rw [applyPlugin_of_plan cfg f hplan]
        cases hinner : (resolveCommands cfg (f.scopedTo r.command) r.task (wrapped r)).result with
        | error e =>
          exact coverage_of_error hinner "lcov" (Combination.ofPatterns_ne_nil r.patterns)
        | ok inner => exact coverage_of_ok hinner "lcov" _

/-- A coverage run succeeds when it can read its switches and the wrapped commands succeed. -/
theorem result_lcov_eq_ok_iff {tasks : List Task} :
    (applyPlugin cfg f (.builtIn .lcov) r).result = .ok tasks ↔
      wrapped r ≠ [] ∧ ∃ zero html nested, switch r "zero-counters" = .ok zero ∧
        switch r "gen-html" = .ok html ∧
        (resolveCommands cfg (f.scopedTo r.command) r.task (wrapped r)).result = .ok nested ∧
        tasks = (Combination.ofPatterns r.patterns).flatMap
          ((coverageRun r zero html).tasks nested) := by
  rw [result_lcov]
  constructor
  · intro h
    by_cases hwrapped : wrapped r = []
    · rw [if_pos hwrapped] at h
      cases h
    · rw [if_neg hwrapped] at h
      split at h
      · cases h
      · cases h
      · rename_i zero html hzero hhtml
        split at h
        · cases h
        · rename_i nested hnested
          cases h
          exact ⟨hwrapped, zero, html, nested, hzero, hhtml, hnested, rfl⟩
  · rintro ⟨hwrapped, zero, html, nested, hzero, hhtml, hnested, rfl⟩
    rw [if_neg hwrapped, hzero, hhtml]
    dsimp only
    rw [hnested]

/-! ## The memory checker -/

/-- The command line that the memory checker puts before a command. -/
def checkerPrefix (r : Request) (verbose : Bool) : Task :=
  r.task.appendAll <|
    ["valgrind"] ++ toolArgument (r.settings.namesAt ["tool"]).getLast? ++
      (if verbose then ["--verbose"] else []) ++ r.settings.namesAt [Names.commandLine]

/-- Only the switch of the memory checker can be refused. -/
theorem applyAll_checker :
    Applier.applyAll r [.verbosity "--verbose", .commandLine]
        (r.task.appendAll ("valgrind" :: toolArgument (r.settings.namesAt ["tool"]).getLast?)) =
      ((switch r Names.verbose).mapError .settings).map (checkerPrefix r) := by
  rw [Applier.applyAll_cons, Applier.apply_verbosity, readD_switch]
  cases switch r Names.verbose with
  | error e => rfl
  | ok verbose =>
    show Applier.applyAll r [.commandLine] _ = .ok (checkerPrefix r verbose)
    rw [Applier.applyAll_cons, Applier.apply_commandLine, Task.appendAll_appendAll,
      Task.appendAll_appendAll, checkerPrefix, List.append_assoc, List.append_assoc]
    rfl

theorem valgrind_eq :
    valgrind r =
      if wrapped r = [] then .error (.missingSetting "valgrind" r.command Names.runCommand)
      else
        match switch r Names.verbose with
        | .error e => .error (.settings e)
        | .ok verbose =>
          .ok (((checkerPrefix r verbose).expand r.patterns).map (.resolve (wrapped r))) := by
  rw [valgrind, require_wrapped, r.read?_text]
  by_cases hwrapped : wrapped r = []
  · rw [if_pos hwrapped, if_pos hwrapped]
    rfl
  · rw [if_neg hwrapped, if_neg hwrapped]
    show (Applier.applyAll r [.verbosity "--verbose", .commandLine] _ >>= fun task =>
      .ok ((task.expand r.patterns).map (Step.resolve (wrapped r)))) = _
    rw [applyAll_checker]
    cases switch r Names.verbose <;> rfl

/-- **A run of the memory checker** by what it reads and by what the wrapped commands come to. -/
theorem result_valgrind :
    (applyPlugin cfg f (.builtIn .valgrind) r).result =
      if wrapped r = [] then
        .error (.fault "valgrind" (.missingSetting "valgrind" r.command Names.runCommand))
      else
        match switch r Names.verbose with
        | .error e => .error (.fault "valgrind" (.settings e))
        | .ok verbose =>
          (perform cfg (f.scopedTo r.command) "valgrind"
            (((checkerPrefix r verbose).expand r.patterns).map (.resolve (wrapped r)))).result := by
  have hplan : (Plugin.builtIn .valgrind).plan r = _ := valgrind_eq r
  by_cases hwrapped : wrapped r = []
  · rw [if_pos hwrapped] at hplan ⊢
    exact applyPlugin_of_fault cfg f hplan
  · rw [if_neg hwrapped] at hplan ⊢
    cases hverbose : switch r Names.verbose with
    | error e =>
      rw [hverbose] at hplan
      exact applyPlugin_of_fault cfg f hplan
    | ok verbose =>
      rw [hverbose] at hplan
      exact applyPlugin_of_plan cfg f hplan

/-- A run of the memory checker succeeds when it can read its switch and the wrapped commands
succeed for every combination. -/
theorem result_valgrind_eq_ok_iff {tasks : List Task} :
    (applyPlugin cfg f (.builtIn .valgrind) r).result = .ok tasks ↔
      wrapped r ≠ [] ∧ ∃ verbose parts, switch r Names.verbose = .ok verbose ∧
        List.Forall₂
          (fun c part => (resolveCommands cfg (f.scopedTo r.command)
            ((checkerPrefix r verbose).substitute c) (wrapped r)).result = .ok part)
          (Combination.ofPatterns r.patterns) parts ∧ tasks = parts.flatten := by
  rw [result_valgrind]
  constructor
  · intro h
    by_cases hwrapped : wrapped r = []
    · rw [if_pos hwrapped] at h
      cases h
    · rw [if_neg hwrapped] at h
      split at h
      · cases h
      · rename_i verbose hverbose
        obtain ⟨parts, hparts, rfl⟩ := perform_map_resolve_eq_ok_iff.1 h
        exact ⟨hwrapped, verbose, parts, hverbose, List.forall₂_map_left_iff.1 hparts, rfl⟩
  · rintro ⟨hwrapped, verbose, parts, hverbose, hparts, rfl⟩
    rw [if_neg hwrapped, hverbose]
    exact perform_map_resolve_eq_ok_iff.2 ⟨parts, List.forall₂_map_left_iff.2 hparts, rfl⟩

/-- The first combination for which the wrapped commands fail decides otherwise. -/
theorem result_valgrind_of_first_error (hwrapped : wrapped r ≠ []) {verbose : Bool}
    (hverbose : switch r Names.verbose = .ok verbose) {before after : List Combination}
    {c : Combination} {e : DispatchError}
    (hsplit : Combination.ofPatterns r.patterns = before ++ c :: after)
    (hbefore : ∀ b ∈ before, ∃ part, (resolveCommands cfg (f.scopedTo r.command)
      ((checkerPrefix r verbose).substitute b) (wrapped r)).result = .ok part)
    (he : (resolveCommands cfg (f.scopedTo r.command)
      ((checkerPrefix r verbose).substitute c) (wrapped r)).result = .error e) :
    (applyPlugin cfg f (.builtIn .valgrind) r).result = .error (.within "valgrind" e) := by
  rw [result_valgrind, if_neg hwrapped, hverbose]
  dsimp only
  rw [Task.expand, hsplit, List.map_append, List.map_append, List.map_cons, List.map_cons]
  refine perform_of_first_error (fun step hstep => ?_) he
  obtain ⟨u, hu, rfl⟩ := List.mem_map.1 hstep
  obtain ⟨b, hb, rfl⟩ := List.mem_map.1 hu
  obtain ⟨part, hpart⟩ := hbefore b hb
  exact ⟨part, .resolve hpart⟩

/-! ## Both -/

/-- **The blocks of the wrapping plugins.**  A coverage run that succeeds has a block for each
combination, in order, in which its own steps stand around the tasks of the wrapped commands, the
same ones in each block.  A run of the memory checker that succeeds has the tasks of the wrapped
commands for each combination, in order.  Either fails when there are no commands to wrap, when a
switch has another value, and when the wrapped commands fail; nothing else that is read can be
refused. -/
theorem blocks_in_order (cfg : Configuration) (f : Frame) (r : Request) :
    let combinations := Combination.ofPatterns r.patterns
    let inner (t : Task) := (resolveCommands cfg (f.scopedTo r.command) t (wrapped r)).result
    let covered := (applyPlugin cfg f (.builtIn .lcov) r).result
    let checked := (applyPlugin cfg f (.builtIn .valgrind) r).result
    (∀ tasks, covered = .ok tasks ↔
      wrapped r ≠ [] ∧ ∃ zero html nested, switch r "zero-counters" = .ok zero ∧
        switch r "gen-html" = .ok html ∧ inner r.task = .ok nested ∧
        tasks = combinations.flatMap ((coverageRun r zero html).tasks nested)) ∧
    (∀ tasks, checked = .ok tasks ↔
      wrapped r ≠ [] ∧ ∃ verbose parts, switch r Names.verbose = .ok verbose ∧
        List.Forall₂ (fun c part => inner ((checkerPrefix r verbose).substitute c) = .ok part)
          combinations parts ∧ tasks = parts.flatten) ∧
    (wrapped r = [] →
      covered = .error (.fault "lcov" (.missingSetting "lcov" r.command Names.runCommand)) ∧
      checked =
        .error (.fault "valgrind" (.missingSetting "valgrind" r.command Names.runCommand))) ∧
    (wrapped r ≠ [] →
      (∀ e, switch r "zero-counters" = .error e → covered = .error (.fault "lcov" (.settings e))) ∧
      (∀ zero, switch r "zero-counters" = .ok zero →
        (∀ e, switch r "gen-html" = .error e → covered = .error (.fault "lcov" (.settings e))) ∧
        (∀ html e, switch r "gen-html" = .ok html → inner r.task = .error e →
          covered = .error (.within "lcov" e))) ∧
      (∀ e, switch r Names.verbose = .error e →
        checked = .error (.fault "valgrind" (.settings e))) ∧
      (∀ verbose before c after e, switch r Names.verbose = .ok verbose →
        combinations = before ++ c :: after →
        (∀ b ∈ before, ∃ part, inner ((checkerPrefix r verbose).substitute b) = .ok part) →
        inner ((checkerPrefix r verbose).substitute c) = .error e →
        checked = .error (.within "valgrind" e))) := by
  intro combinations inner covered checked
  have hcovered : covered = _ := result_lcov cfg f r
  have hchecked : checked = _ := result_valgrind cfg f r
  refine ⟨fun _ => result_lcov_eq_ok_iff cfg f r, fun _ => result_valgrind_eq_ok_iff cfg f r,
    fun hwrapped => ?_, fun hwrapped => ⟨?_, ?_, ?_, ?_⟩⟩
  · rw [hcovered, hchecked, if_pos hwrapped, if_pos hwrapped]
    exact ⟨rfl, rfl⟩
  · intro e he
    rw [hcovered, if_neg hwrapped, he]
  · intro zero hzero
    constructor
    · intro e he
      rw [hcovered, if_neg hwrapped, hzero, he]
    · intro html e hhtml he
      rw [hcovered, if_neg hwrapped, hzero, hhtml]
      dsimp only
      rw [show (resolveCommands cfg (f.scopedTo r.command) r.task (wrapped r)).result = .error e
        from he]
  · intro e he
    rw [hchecked, if_neg hwrapped, he]
  · intro verbose before c after e hverbose hsplit hbefore he
    exact result_valgrind_of_first_error cfg f r hwrapped hverbose hsplit hbefore he

/-- Two commands, of which one fails. -/
def twoCommands : Configuration where
  options := default
  settings := .node Names.root []
  patterns := .empty
  plugins := (PluginRegistry.empty.register (.memory "tests" false)).register
    (.memory "broken" true)

/-- Two blocks of a coverage run and two of the memory checker, and one failure of each kind. -/
theorem blocks_in_order_twoCommands :
    let mode : Pattern := ⟨"MODE", ["debug", "release"], none, none, by decide⟩
    let run (b : BuiltIn) (settings : List SettingsTree) :=
      (applyPlugin twoCommands .root (.builtIn b)
        ⟨"check", .node "check" settings, [mode], Task.ofArgs ["nice"]⟩).result
    let tests : SettingsTree := .node Names.runCommand [.leaf "tests"]
    let broken : SettingsTree := .node Names.runCommand [.leaf "broken"]
    let maybe (key : String) : SettingsTree := .node key [.leaf "maybe"]
    let refused (plugin key : String) : DispatchError :=
      .fault plugin (.settings (.cast [key] ["maybe"] .yesNo))
    run .lcov [tests, .node "info-file" [.leaf "{MODE}"]] =
        .ok [Task.ofArgs ["nice"],
          Task.ofArgs ["nice", "lcov", "--base-directory", "", "--directory", "", "--capture",
            "--output", "debug"],
          Task.ofArgs ["nice"],
          Task.ofArgs ["nice", "lcov", "--base-directory", "", "--directory", "", "--capture",
            "--output", "release"]] ∧
      run .valgrind [tests, .node "tool" [.leaf "{MODE}"]] =
        .ok [Task.ofArgs ["nice", "valgrind", "--tool=debug"],
          Task.ofArgs ["nice", "valgrind", "--tool=release"]] ∧
      run .lcov [] = .error (.fault "lcov" (.missingSetting "lcov" "check" Names.runCommand)) ∧
      run .lcov [tests, maybe "zero-counters"] = .error (refused "lcov" "zero-counters") ∧
      run .lcov [tests, maybe "gen-html"] = .error (refused "lcov" "gen-html") ∧
      run .valgrind [tests, maybe Names.verbose] = .error (refused "valgrind" Names.verbose) ∧
      run .lcov [broken] = .error (.within "lcov" (.fault "broken" (.toldToFail "broken"))) ∧
      run .valgrind [broken] =
        .error (.within "valgrind" (.fault "broken" (.toldToFail "broken"))) := by
  intro mode run tests broken maybe refused
  let request (settings : List SettingsTree) : Request :=
    ⟨"check", .node "check" settings, [mode], Task.ofArgs ["nice"]⟩
  let inner : Frame := Frame.root.scopedTo "check"
  have hfirst : twoCommands.referent inner "tests" = .plugin (.memory "tests" false) := rfl
  have hsecond : twoCommands.referent inner "broken" = .plugin (.memory "broken" true) := rfl
  have hinner (t : Task) : (resolveCommands twoCommands inner t ["tests"]).result = .ok [t] := by
    rw [result_resolveCommands_of_plugin twoCommands inner hfirst]
    exact Leaf.result_outcome_of_emit rfl
  have hbroken (t : Task) : (resolveCommands twoCommands inner t ["broken"]).result =
      .error (.fault "broken" (.toldToFail "broken")) := by
    rw [result_resolveCommands_of_plugin twoCommands inner hsecond]
    exact Leaf.result_outcome_of_error rfl
  have hlaw (settings : List SettingsTree) :=
    blocks_in_order twoCommands .root (request settings)
  refine ⟨?_, ?_, ?_, ?_, ?_, ?_, ?_, ?_⟩
  · refine ((hlaw _).1 _).2 ⟨by decide, false, false, _, rfl, rfl, hinner _, ?_⟩
    decide +kernel
  · refine ((hlaw _).2.1 _).2 ⟨by decide, false, _, rfl,
      .cons (hinner _) (.cons (hinner _) .nil), ?_⟩
    decide +kernel
  · exact ((hlaw []).2.2.1 rfl).1
  · exact ((hlaw [tests, maybe "zero-counters"]).2.2.2 (by decide)).1 _ rfl
  · exact (((hlaw [tests, maybe "gen-html"]).2.2.2 (by decide)).2.1 false rfl).1 _ rfl
  · exact ((hlaw [tests, maybe Names.verbose]).2.2.2 (by decide)).2.2.1 _ rfl
  · exact (((hlaw [broken]).2.2.2 (by decide)).2.1 false rfl).2 false _ rfl (hbroken _)
  · exact ((hlaw [broken]).2.2.2 (by decide)).2.2.2 false [] _ _ _ rfl rfl
      (fun b hb => by cases hb) (hbroken _)

end Wrapper
end Orchestrator
