import Orchestrator.CommandLine.Invocation
import Orchestrator.Proofs.Plugin.Anchored
import Orchestrator.Proofs.Plugin.CommandLines
import Orchestrator.Proofs.Resolution.Preparation
import Orchestrator.Proofs.Task.Layers
import Orchestrator.Proofs.Task.Overlay
import Orchestrator.Proofs.Text.Numeral

/-!
# From the number of jobs to the tool

The number of jobs is read from the command line, where blanks around it are refused, and so is
zero.  It becomes a default of each build system, as a text, and settings may be laid over this
default.  The build system reads the text again, now with blanks left out and with zero allowed, and
writes what it has read into the arguments of its task.

The number comes through all of this.  Both readers take the same numerals, and what the first one
takes fits into thirty-two bits, so that the second one takes the digits of it.  Settings are laid
over the defaults name by name, so that a section without the name leaves the default as it is.  And
neither the flag nor the digits have an open brace, in which a pattern could put a value.

* `readJobs_eq_ok_iff`: **which texts are numbers of jobs**.
* `SettingsTree.child?_mergeScoped_of_lookupScoped`: a name that no section has means what it means
  in the defaults.
* `Strategy.build_eq`: **the task of a build system**, by its settings.
* `Strategy.jobs_reach_tool`: **the number of jobs reaches the tool**.
-/

namespace Orchestrator

/-! ## The option -/

section

variable {processors : Option ProcessorCount} {value : String} {n : Nat}

/-- **Which texts are numbers of jobs.** -/
theorem readJobs_eq_ok_iff :
    readJobs processors value = .ok n ↔
      (Text.sameIgnoringCase value "auto" = true ∧ n = autoJobs processors) ∨
        (Text.IsNumeral value.toList n ∧ 1 ≤ n ∧ n ≤ Text.maxCount) := by
  rw [readJobs, JobCount.read]
  by_cases hauto : Text.sameIgnoringCase value "auto" = true
  · rw [if_pos hauto]
    constructor
    · intro h
      cases h
      exact Or.inl ⟨hauto, rfl⟩
    · rintro (⟨-, rfl⟩ | ⟨hnumeral, -⟩)
      · rfl
      · exact absurd hauto hnumeral.not_sameIgnoringCase_auto
  · rw [if_neg hauto]
    constructor
    · intro h
      refine Or.inr ?_
      rcases hread : Text.readCount value.toList with _ | _ | m
      · rw [hread] at h
        cases h
      · rw [hread] at h
        cases h
      · rw [hread] at h
        cases h
        obtain ⟨hnumeral, hmax⟩ := Text.readCount_eq_some_iff.1 hread
        exact ⟨hnumeral, Nat.le_add_left 1 m, hmax⟩
    · rintro (⟨h, -⟩ | ⟨hnumeral, hpos, hmax⟩)
      · exact absurd h hauto
      · obtain ⟨m, rfl⟩ := Nat.exists_eq_add_of_le' hpos
        rw [Text.readCount_eq_some_iff.2 ⟨hnumeral, hmax⟩]
        rfl

/-- The automatic number on a machine with eight processors, and on one that does not tell. -/
example : readJobs (some ⟨8, by decide⟩) "Auto" = .ok 8 ∧ readJobs none "auto" = .ok 1 := by decide

/-- The automatic number of jobs is between the same bounds as the others. -/
theorem bounds_of_readJobs (h : readJobs processors value = .ok n) :
    1 ≤ n ∧ n ≤ Text.maxCount := by
  rcases readJobs_eq_ok_iff.1 h with ⟨-, rfl⟩ | ⟨-, hbounds⟩
  · exact ⟨one_le_autoJobs processors, autoJobs_le_maxCount processors⟩
  · exact hbounds

end

/-- The option gives the number to the run, or its refusal to the command line. -/
theorem CommandLine.Invocation.assign_jobs {i : Invocation} (h : i.jobs = none)
    (processors : Option ProcessorCount) (value : String) :
    (i.assign .jobs value).map (fun j => (j.options processors).jobs) =
      (readJobs processors value).mapError .invalidJobs := by
  have hnew : ¬ i.isAssigned .jobs = true := by simp [isAssigned, h]
  rw [assign, if_neg hnew, readJobs]
  cases JobCount.read value <;> rfl

/-! ## Settings over defaults -/

namespace SettingsTree

variable {cs : List SettingsTree} {defaults settings t : SettingsTree} {plugin command k : String}

theorem lastNamed?_eq_none (h : (cs.find? fun c => c.key = k) = none) : lastNamed? k cs = none := by
  rw [lastNamed?, List.find?_eq_none]
  intro c hc
  exact List.find?_eq_none.1 h c (List.mem_reverse.1 hc)

/-- **A name that no section has** means what it means in the defaults. -/
theorem child?_mergeScoped_of_lookupScoped
    (h : lookupScoped settings [[plugin, command], [plugin]] k = none) :
    (mergeScoped defaults settings plugin command).child? k = defaults.child? k := by
  rw [lookupScoped_cons, lookupScoped_cons, Option.or_eq_none_iff, Option.or_eq_none_iff] at h
  obtain ⟨hspecific, hgeneral, -⟩ := h
  rw [child?_eq_find?, children_mergeScoped, find?_foldl_overlay, lastNamed?_append,
    lastNamed?_eq_none hspecific, lastNamed?_eq_none hgeneral]
  rfl

/-- A number that was written out as a setting is read as this number. -/
theorem read?_count_of_toString {n : Nat} {path : List String} (h : t.namesAt path = [toString n])
    (hmax : n ≤ Text.maxCount) : t.read? .count path = .ok (some n) := by
  rw [t.read?_of_last path fun _ => rfl, h, List.getLast?_singleton]
  dsimp only
  rw [Text.readCount_trimBlanks_toString hmax]

end SettingsTree

/-- A default for a setting that has none is its value. -/
theorem namesAt_withDefault {t : SettingsTree} {k : String} (h : t.child? k = none)
    (value : String) : (withDefault k value t).namesAt [k] = [value] := by
  rw [SettingsTree.namesAt_cons, withDefault,
    SettingsTree.child?_modifyAt_cons (SettingsTree.key_appendLeaves [value]), if_pos rfl, h]
  rfl

/-! ## The arguments of a build system -/

namespace FlagStyle

/-- The arguments for the directory to build in. -/
def directory (style : FlagStyle) (dir : String) : List String :=
  if dir = "" then []
  else
    match style with
    | .long => ["--directory=" ++ dir]
    | .short => ["-C", dir]

/-- The arguments for a number of jobs. -/
def jobCount (style : FlagStyle) (n : Nat) : List String :=
  match style with
  | .long => ["--jobs", toString n]
  | .short => ["-j", toString n]

/-- No open brace is in the arguments for a number of jobs. -/
theorem notMem_of_mem_jobCount {style : FlagStyle} {n : Nat} {arg : String}
    (h : arg ∈ style.jobCount n) : '{' ∉ arg.toList := by
  have hdigits : '{' ∉ (toString n).toList := by
    intro hbrace
    rcases (Text.isNumeral_toString n).mem_cases hbrace with hplus | hdigit
    · exact absurd hplus (by decide)
    · exact absurd hdigit (by decide)
  cases style with
  | long =>
    rcases List.mem_pair.1 h with rfl | rfl
    · decide
    · exact hdigits
  | short =>
    rcases List.mem_pair.1 h with rfl | rfl
    · decide
    · exact hdigits

end FlagStyle

namespace Applier

variable (r : Request) (t : Task) (style : FlagStyle)

theorem apply_buildDir :
    (Applier.buildDir style).apply r t =
      .ok (t.appendAll
        (style.directory ((r.settings.namesAt [Names.buildDir]).getLast?.getD ""))) := by
  simp only [apply, r.readD_text]
  generalize (r.settings.namesAt [Names.buildDir]).getLast?.getD "" = dir
  by_cases hdir : dir = ""
  · subst hdir
    cases style <;> exact congrArg Except.ok t.appendAll_nil.symm
  · cases style with
    | long =>
      show (if dir = "" then .ok t else .ok (t.append ("--directory=" ++ dir))) =
        Except.ok (t.appendAll (if dir = "" then [] else ["--directory=" ++ dir]))
      rw [if_neg hdir, if_neg hdir]
      rfl
    | short =>
      show (if dir = "" then .ok t else .ok (t.appendAll ["-C", dir])) =
        Except.ok (t.appendAll (if dir = "" then [] else ["-C", dir]))
      rw [if_neg hdir, if_neg hdir]

theorem apply_jobs :
    (Applier.jobs style).apply r t =
      (r.read? .count Names.jobs).map fun jobs => t.appendAll (jobs.elim [] style.jobCount) := by
  simp only [apply]
  rcases r.read? .count Names.jobs with e | _ | n
  · rfl
  · exact congrArg Except.ok t.appendAll_nil.symm
  · cases style <;> rfl

end Applier

namespace Strategy

/-- The build systems, with the style of their options and the flag for when they are verbose. -/
def buildSystems : List (Strategy × FlagStyle × String) :=
  [(gnuMake, .long, "--debug"), (ninja, .short, "-v"), (scons, .long, "--debug=explain")]

/-- The arguments that a build system puts behind its name. -/
def toolArgs (style : FlagStyle) (flag : String) (settings : SettingsTree) (jobs : Option Nat)
    (verbose : Bool) : List String :=
  style.directory ((settings.namesAt [Names.buildDir]).getLast?.getD "") ++
    jobs.elim [] style.jobCount ++ (if verbose then [flag] else []) ++
    settings.namesAt [Names.commandLine]

variable {s : Strategy} {style : FlagStyle} {flag : String}

theorem appliers_of_mem_buildSystems (h : (s, style, flag) ∈ buildSystems) :
    s.appliers = buildAppliers style flag := by
  simp only [buildSystems, List.mem_cons, List.not_mem_nil, or_false, Prod.mk.injEq] at h
  rcases h with ⟨rfl, rfl, rfl⟩ | ⟨rfl, rfl, rfl⟩ | ⟨rfl, rfl, rfl⟩ <;> rfl

/-- **The task of a build system.**  Only the number of jobs and the switch can be refused. -/
theorem build_eq (h : s.appliers = buildAppliers style flag) (r : Request) :
    s.build r =
      (r.read? .count Names.jobs).bind fun jobs =>
        (r.readD .yesNo Names.verbose false).map fun verbose =>
          (Script.base r).appendAll (s.binary :: toolArgs style flag r.settings jobs verbose) := by
  have hname : r.task.append s.binary = r.task.appendAll [s.binary] := rfl
  -- the directory cannot be refused, the number of jobs can, and then the switch
  rw [build, h, buildAppliers, hname, Applier.applyAll_cons, Applier.apply_buildDir, Except.bind,
    Applier.applyAll_cons, Applier.apply_jobs]
  cases r.read? .count Names.jobs with
  | error e => rfl
  | ok jobs =>
    rw [Except.map, Except.bind, Applier.applyAll_cons, Applier.apply_verbosity]
    show _ = (r.readD .yesNo Names.verbose false).map _
    cases r.readD .yesNo Names.verbose false with
    | error e => rfl
    | ok verbose =>
      rw [Except.map, Except.bind, Applier.applyAll_cons, Applier.apply_commandLine, Except.bind,
        Task.appendAll_appendAll, Task.appendAll_appendAll, Task.appendAll_appendAll,
        Task.appendAll_appendAll, Script.applyAll_base_appendAll]
      simp only [Except.map, toolArgs, List.append_assoc, List.singleton_append]

/-- The number of jobs is a default of a build system. -/
theorem namesAt_jobs_defaults (h : s.appliers = buildAppliers style flag) (options : RunOptions) :
    (s.defaults options).namesAt [Names.jobs] = [toString options.jobs] := by
  have hne : Names.verbose ≠ Names.jobs := by decide
  rw [defaults, h, buildAppliers]
  show (withDefault Names.verbose _ (withDefault Names.jobs _ _)).namesAt _ = _
  rw [SettingsTree.namesAt_cons, child?_withDefault_of_ne hne, ← SettingsTree.namesAt_cons,
    namesAt_withDefault rfl]

/-- A pattern changes nothing in the arguments for a number of jobs. -/
theorem map_replacePlaceholders_jobCount (c : Combination) (n : Nat) :
    (style.jobCount n).map (replacePlaceholders c) = style.jobCount n := by
  have hself : ∀ arg ∈ style.jobCount n, replacePlaceholders c arg = arg := fun arg harg =>
    replacePlaceholders_of_notMem c (FlagStyle.notMem_of_mem_jobCount harg)
  rw [List.map_congr_left hself, List.map_id']

/-- The arguments for a number of jobs stand together among those of a build system. -/
theorem jobCount_infix_toolArgs (style : FlagStyle) (flag : String) (settings : SettingsTree)
    (n : Nat) (verbose : Bool) :
    style.jobCount n <:+: toolArgs style flag settings (some n) verbose := by
  refine ⟨style.directory ((settings.namesAt [Names.buildDir]).getLast?.getD ""),
    (if verbose then [flag] else []) ++ settings.namesAt [Names.commandLine], ?_⟩
  rw [toolArgs, Option.elim_some, List.append_assoc _ _ (settings.namesAt [Names.commandLine])]

/-- **The number of jobs reaches the tool.**  A value of the option is a number of jobs when it is
the word for the automatic number, or a numeral of a number from one to the largest one of
thirty-two bits; then this number is that of the run.  The automatic number, which depends on the
processors of the machine, is between these bounds too.  A build system for which no section of the
settings has a number of jobs has the digits of this number as its setting, and reads them as this
number.  Its task is the given one, in the environment and the working directory of its settings,
with its name, the directory to build in, the flag of its style and the digits, the flag for when it
is verbose and the arguments of the settings.  Only a switch that is none keeps it from this task.
In every task that is made of this one for a combination of patterns, the flag and the digits are as
they were. -/
theorem jobs_reach_tool (processors : Option ProcessorCount) (value : String) (n : Nat) :
    (readJobs processors value = .ok n ↔
      (Text.sameIgnoringCase value "auto" = true ∧ n = autoJobs processors) ∨
        (Text.IsNumeral value.toList n ∧ 1 ≤ n ∧ n ≤ 2 ^ 32 - 1)) ∧
      (∀ i : CommandLine.Invocation, i.jobs = none →
        (i.assign .jobs value).map (fun j => (j.options processors).jobs) =
          (readJobs processors value).mapError .invalidJobs) ∧
      (readJobs processors value = .ok n → 1 ≤ n ∧ n ≤ 2 ^ 32 - 1 ∧
        ∀ (cfg : Configuration) (f : Frame) (patterns : List Pattern) (task : Task)
          (s : Strategy) (style : FlagStyle) (flag : String),
          (s, style, flag) ∈ buildSystems → cfg.options.jobs = n →
          cfg.settings.lookupScoped [[s.name, f.scopedCommand s.name], [s.name]] Names.jobs = none →
          let r := cfg.requestIn f (.strategy s) patterns task
          let dir := (r.settings.namesAt [Names.buildDir]).getLast?.getD ""
          r.settings.get? [Names.jobs] = some [toString n] ∧
            r.settings.read? .count [Names.jobs] = .ok (some n) ∧
            s.build r = (r.readD .yesNo Names.verbose false).map (fun verbose =>
              (Script.base r).appendAll (s.binary :: style.directory dir ++ style.jobCount n ++
                (if verbose then [flag] else []) ++ r.settings.namesAt [Names.commandLine])) ∧
            ∀ steps, s.plan r = .ok steps →
              ∀ step ∈ steps, ∃ t, step = .emit t ∧ style.jobCount n <:+: t.args) := by
  refine ⟨readJobs_eq_ok_iff, fun i hi => CommandLine.Invocation.assign_jobs hi processors value,
    fun hread => ?_⟩
  obtain ⟨hpos, hmax⟩ := bounds_of_readJobs hread
  refine ⟨hpos, hmax, ?_⟩
  intro cfg f patterns task s style flag hs hjobs hnone r dir
  have happliers := appliers_of_mem_buildSystems hs
  have hnames : r.settings.namesAt [Names.jobs] = [toString n] := by
    rw [← hjobs, ← namesAt_jobs_defaults happliers cfg.options, SettingsTree.namesAt_cons,
      SettingsTree.namesAt_cons]
    exact congrArg (fun c => Option.elim c [] _)
      (SettingsTree.child?_mergeScoped_of_lookupScoped hnone)
  have hcount : r.settings.read? .count [Names.jobs] = .ok (some n) :=
    SettingsTree.read?_count_of_toString hnames hmax
  have hbuild : s.build r = (r.readD .yesNo Names.verbose false).map fun verbose =>
      (Script.base r).appendAll (s.binary :: toolArgs style flag r.settings (some n) verbose) := by
    rw [build_eq happliers, Request.read?, hcount]
    rfl
  refine ⟨?_, hcount, hbuild, ?_⟩
  · rw [SettingsTree.get?_eq_namesAt, hnames]
    rfl
  · intro steps hsteps step hstep
    obtain ⟨built, hbuilt, rfl⟩ := map_eq_ok_iff.1 hsteps
    rw [hbuild] at hbuilt
    obtain ⟨verbose, -, rfl⟩ := map_eq_ok_iff.1 hbuilt
    obtain ⟨t, ht, rfl⟩ := List.mem_map.1 hstep
    obtain ⟨c, -, rfl⟩ := List.mem_map.1 ht
    refine ⟨_, rfl, ?_⟩
    rw [Task.args_substitute, ← map_replacePlaceholders_jobCount c n]
    refine List.IsInfix.map _ ?_
    refine (jobCount_infix_toolArgs style flag r.settings n verbose).trans ?_
    exact ((List.suffix_cons s.binary _).trans (List.suffix_append _ _)).isInfix

/-- A sign and zeros in front are no part of the number that a tool is given, in each of the two
tasks that a pattern makes of the one that is built. -/
theorem jobs_reach_tool_signed :
    let settings : SettingsTree :=
      .node "exec-helper" [.node "ninja" [.node "build-dir" [.leaf "\x7bMODE\x7d"]]]
    let options : RunOptions := { (default : RunOptions) with jobs := 7, verbose := true }
    let cfg : Configuration := ⟨options, settings, .empty, .standard⟩
    let mode : Pattern := ⟨"MODE", ["debug", "release"], none, none, List.cons_ne_nil _ _⟩
    let r := cfg.requestIn .root (.strategy ninja) [mode] (.ofArgs ["nice"])
    let steps : List Step :=
      [.emit (.ofArgs ["nice", "ninja", "-C", "debug", "-j", "7", "-v"]),
        .emit (.ofArgs ["nice", "ninja", "-C", "release", "-j", "7", "-v"])]
    readJobs none "+007" = .ok 7 ∧
      (CommandLine.Invocation.empty.assign .jobs "+007").map (fun j => (j.options none).jobs) =
        .ok 7 ∧
      settings.lookupScoped [["ninja", "ninja"], ["ninja"]] "jobs" = none ∧
      r.settings.get? ["jobs"] = some ["7"] ∧
      r.settings.read? .count ["jobs"] = .ok (some 7) ∧
      ninja.build r =
        .ok (.ofArgs ["nice", "ninja", "-C", "\x7bMODE\x7d", "-j", "7", "-v"]) ∧
      ninja.plan r = .ok steps ∧
      ∀ step ∈ steps, ∃ t, step = .emit t ∧ ["-j", "7"] <:+: t.args := by
  intro settings options cfg mode r steps
  have hread : readJobs none "+007" = .ok 7 := by decide
  have hnone : settings.lookupScoped [["ninja", "ninja"], ["ninja"]] "jobs" = none := by rfl
  have hplan : ninja.plan r = .ok steps := by decide +kernel
  obtain ⟨-, hassign, hreach⟩ := jobs_reach_tool none "+007" 7
  obtain ⟨hvalues, hcount, hbuild, hsteps⟩ :=
    (hreach hread).2.2 cfg .root [mode] (.ofArgs ["nice"]) ninja .short "-v" (by decide) rfl hnone
  refine ⟨hread, ?_, hnone, hvalues, hcount, ?_, hplan, hsteps steps hplan⟩
  · rw [hassign .empty rfl, hread]
    rfl
  · rw [hbuild]
    decide

end Strategy
end Orchestrator
