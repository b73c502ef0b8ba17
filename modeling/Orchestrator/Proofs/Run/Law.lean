import Mathlib.Data.List.Basic
import Orchestrator.Proofs.Run.Attempts

/-!
# The law of a run

What a run does follows from the commands that it takes up.  It starts with a check of the requested
commands, before anything is done.  A cancellation ends it without another word.  Otherwise the
executor is told, once, that no more tasks come, and what it answers comes before the count of the
commands that failed.

* `validate_eq_ok_iff`: the requested commands are accepted when there is one and all are offered.
* `Executor.WritesNoErrors`: an executor that leaves the error stream to the run.
* `execute_law`: **the law**, for every executor.
-/

namespace Orchestrator

/-- Whether an executor writes nothing on the error stream. -/
structure Executor.WritesNoErrors {σ : Type} (x : Executor σ) : Prop where
  execute : ∀ t s, Entry.errorTexts (x.execute t s).journal = []
  finish : ∀ s, Entry.errorTexts (x.finish s).journal = []

theorem Executor.WritesNoErrors.executeAll {σ : Type} {x : Executor σ} (hx : x.WritesNoErrors)
    (ts : List Task) (s : σ) : Entry.errorTexts (x.executeAll ts s).journal = [] :=
  filterMap_executeAll hx.execute ts s

theorem Executor.writesNoErrors_scripted (refuse : Nat → Task → Option ExecutionError)
    (atEnd : Option ExecutionError) : (scripted refuse atEnd).WritesNoErrors :=
  ⟨fun _ _ => rfl, fun _ => rfl⟩

namespace Run

/-! ## The check of the requested commands -/

/-- The values of the section of commands are the commands that are offered. -/
theorem getD_commands (settings : SettingsTree) :
    settings.getD [Names.commands] [] = (configuredCommands settings).map Prod.fst := by
  rw [SettingsTree.getD, SettingsTree.get?, SettingsTree.childAt?_cons, configuredCommands]
  cases settings.child? Names.commands with
  | none => rfl
  | some scope =>
    obtain ⟨key, children⟩ := scope
    show ((SettingsTree.node key children).values?).getD [] = _
    rw [SettingsTree.values?, SettingsTree.children_node]
    cases children with
    | nil => rfl
    | cons c cs =>
      show (c :: cs).map SettingsTree.key = _
      rw [List.map_map]
      rfl

/-- **The check**: there is a requested command, and each one is offered. -/
theorem validate_eq_ok_iff (cfg : Configuration) :
    validate cfg = .ok () ↔
      cfg.options.commands ≠ [] ∧
        ∀ c ∈ cfg.options.commands, c ∈ (configuredCommands cfg.settings).map Prod.fst := by
  rw [validate, ← getD_commands]
  by_cases hempty : cfg.options.commands = []
  · simp [hempty]
  · rw [if_neg (by simpa using hempty)]
    dsimp only
    cases hfind : cfg.options.commands.find? fun c =>
        decide (c ∉ cfg.settings.getD [Names.commands] []) with
    | none =>
      refine ⟨fun _ => ⟨hempty, fun c hc => ?_⟩, fun _ => rfl⟩
      have hoffered := List.find?_eq_none.1 hfind c hc
      simpa using hoffered
    | some c =>
      refine ⟨fun h => (by cases h), fun h => ?_⟩
      have hmissing : c ∉ cfg.settings.getD [Names.commands] [] := by
        simpa using List.find?_some hfind
      exact absurd (h.2 c (List.mem_of_find?_eq_some hfind)) hmissing

/-! ## The run -/

section

variable {σ : Type} {cfg : Configuration} {dirs : RunDirectories} {x : Executor σ} {base : Task}
  {commands : List String} {s : σ}

theorem Attempt.ends_iff {keepGoing : Bool} {a : Attempt σ} :
    a.ends keepGoing = true ↔
      ∃ e, a.progress.error = some (.execution e) ∧ (e = .cancelled ∨ keepGoing = false) := by
  rw [ends, Option.any_eq_true]
  constructor
  · rintro ⟨e, he, hends⟩
    cases e with
    | execution e => exact ⟨e, he, by simpa [endsRun] using hends⟩
    | _ => cases hends
  · rintro ⟨e, he, hends⟩
    exact ⟨_, he, by simpa [endsRun] using hends⟩

theorem Attempt.ends_of_isCancelled {keepGoing : Bool} {a : Attempt σ}
    (h : a.isCancelled = true) : a.ends keepGoing = true :=
  ends_iff.2 ⟨.cancelled, of_decide_eq_true h, Or.inl rfl⟩

theorem Attempt.isCancelled_eq_false_of_not_exists {as : List (Attempt σ)}
    (h : ¬ ∃ a ∈ as, a.isCancelled = true) : ∀ a ∈ as, a.isCancelled = false := by
  intro a ha
  rw [← Bool.not_eq_true]
  intro hstop
  exact h ⟨a, ha, hstop⟩

/-- A cancelled command is the last one that is taken up. -/
theorem exists_attempts_eq_append_of_isCancelled {a : Attempt σ}
    (ha : a ∈ attempts cfg x base commands s) (h : a.isCancelled = true) :
    attempts cfg x base commands s = (attempts cfg x base commands s).dropLast ++ [a] := by
  have hne : attempts cfg x base commands s ≠ [] := List.ne_nil_of_mem ha
  have hsplit := List.dropLast_concat_getLast hne
  have hlast : (attempts cfg x base commands s).getLast hne = a := by
    rw [← hsplit, List.mem_append, List.mem_singleton] at ha
    rcases ha with ha | ha
    · have hgoes := not_ends_of_mem_dropLast cfg x base commands s a ha
      rw [Attempt.ends_of_isCancelled h] at hgoes
      cases hgoes
    · exact ha.symm
  rw [hlast] at hsplit
  exact hsplit.symm

/-- Beside an executor that writes no errors, only the reports are written. -/
theorem Attempt.written_eq (hx : x.WritesNoErrors) {a : Attempt σ}
    (ha : a ∈ attempts cfg x base commands s) :
    a.written = if a.isCancelled then [] else a.line?.toList := by
  have hsilent : Entry.errorTexts a.progress.journal = [] := by
    rw [progress_of_mem_attempts cfg x base commands s ha, ← executeCommands_singleton,
      errorTexts_executeCommands]
    exact hx.executeAll _ _
  rw [written, hsilent, List.nil_append]

/-- The reports of commands of which none is cancelled. -/
theorem flatMap_written (hx : x.WritesNoErrors) {as : List (Attempt σ)}
    (has : ∀ a ∈ as, a ∈ attempts cfg x base commands s ∧ a.isCancelled = false) :
    as.flatMap Attempt.written = as.filterMap Attempt.line? := by
  rw [List.filterMap_eq_flatMap_toList]
  refine List.flatMap_congr fun a ha => ?_
  obtain ⟨hmem, hnot⟩ := has a ha
  rw [Attempt.written_eq hx hmem, hnot]
  rfl

/-- An error of the executor in the end comes before the count of failed commands. -/
theorem conclude_eq (total failed : Nat) (p : Progress ExecutionError σ) :
    conclude total failed p =
      ⟨p.journal, p.state, (p.error.map .execution).or
        (if 0 < failed then some (.commandsFailed failed total) else none)⟩ := by
  rw [conclude]
  cases p.error with
  | none => rfl
  | some e => rfl

variable (cfg dirs x s)

theorem execute_of_error {e : RunError} (h : validate cfg = .error e) :
    execute cfg dirs x s = .failed s e := by
  rw [execute, h]

theorem execute_of_ok (h : validate cfg = .ok ()) :
    execute cfg dirs x s =
      let a := attempt cfg x (baseTask dirs) cfg.options.commands s
      if a.cancelled then ⟨a.journal, a.state, some (.execution .cancelled)⟩
      else (conclude cfg.options.commands.length a.failed (x.finish a.state)).after a.journal := by
  rw [execute, h]

/-- A run that is cancelled ends with the last command that it takes up. -/
theorem execute_of_isCancelled (h : validate cfg = .ok ())
    (hcancelled : ∃ a ∈ attempts cfg x (baseTask dirs) cfg.options.commands s,
      a.isCancelled = true) :
    let attempts := attempts cfg x (baseTask dirs) cfg.options.commands s
    let run := execute cfg dirs x s
    run.state = Attempt.lastState s attempts ∧ run.error = some (.execution .cancelled) ∧
      (execute cfg dirs x.recorded ⟨[], s⟩).state.calls =
        (attempts.flatMap (Attempt.tasks cfg x (baseTask dirs))).map .task ∧
      (x.WritesNoErrors →
        Entry.errorTexts run.journal = attempts.dropLast.filterMap Attempt.line?) := by
  dsimp only
  obtain ⟨a, ha, haCancelled⟩ := hcancelled
  obtain ⟨hstate, hany, -, htexts⟩ := attempt_eq cfg x (baseTask dirs) cfg.options.commands s
  obtain ⟨hcalls, hsame⟩ := attempt_recorded cfg x (baseTask dirs) cfg.options.commands s []
  have hstop : (attempt cfg x (baseTask dirs) cfg.options.commands s).cancelled = true := by
    rw [hany]
    exact List.any_eq_true.2 ⟨a, ha, haCancelled⟩
  rw [execute_of_ok cfg dirs x s h, execute_of_ok cfg dirs x.recorded ⟨[], s⟩ h]
  simp only [hstop, hsame, if_true]
  refine ⟨hstate, trivial, ?_, fun hx => ?_⟩
  · rw [hcalls]
    exact List.nil_append _
  · have hsplit := exists_attempts_eq_append_of_isCancelled ha haCancelled
    have hearlier : ∀ b ∈ (attempts cfg x (baseTask dirs) cfg.options.commands s).dropLast,
        b ∈ attempts cfg x (baseTask dirs) cfg.options.commands s ∧ b.isCancelled = false := by
      intro b hb
      refine ⟨(List.dropLast_sublist _).subset hb, Bool.eq_false_iff.2 fun hbCancelled => ?_⟩
      have hgoes := not_ends_of_mem_dropLast cfg x (baseTask dirs) cfg.options.commands s b hb
      rw [Attempt.ends_of_isCancelled hbCancelled] at hgoes
      cases hgoes
    calc Entry.errorTexts (attempt cfg x (baseTask dirs) cfg.options.commands s).journal
      _ = (attempts cfg x (baseTask dirs) cfg.options.commands s).flatMap Attempt.written := htexts
      _ = (attempts cfg x (baseTask dirs) cfg.options.commands s).dropLast.flatMap
            Attempt.written ++ a.written := by
        conv => lhs; rw [hsplit]
        rw [List.flatMap_append, List.flatMap_singleton]
      _ = _ := by
        rw [flatMap_written hx hearlier, Attempt.written_eq hx ha, haCancelled, if_pos rfl,
          List.append_nil]

/-- A run that is not cancelled tells the executor, once, that no more tasks come. -/
theorem execute_of_not_isCancelled (h : validate cfg = .ok ())
    (hgoes : ∀ a ∈ attempts cfg x (baseTask dirs) cfg.options.commands s,
      a.isCancelled = false) :
    let attempts := attempts cfg x (baseTask dirs) cfg.options.commands s
    let finish := x.finish (Attempt.lastState s attempts)
    let failed := attempts.countP Attempt.failed
    let run := execute cfg dirs x s
    run.state = finish.state ∧
      run.error = (finish.error.map .execution).or
        (if 0 < failed then some (.commandsFailed failed cfg.options.commands.length) else none) ∧
      (execute cfg dirs x.recorded ⟨[], s⟩).state.calls =
        (attempts.flatMap (Attempt.tasks cfg x (baseTask dirs))).map .task ++ [.finish] ∧
      (x.WritesNoErrors → Entry.errorTexts run.journal = attempts.filterMap Attempt.line?) := by
  dsimp only
  obtain ⟨hstate, hany, hfailed, htexts⟩ := attempt_eq cfg x (baseTask dirs) cfg.options.commands s
  obtain ⟨hcalls, hsame⟩ := attempt_recorded cfg x (baseTask dirs) cfg.options.commands s []
  have hgoOn : (attempt cfg x (baseTask dirs) cfg.options.commands s).cancelled = false := by
    rw [hany]
    exact List.any_eq_false.2 fun a ha => by rw [hgoes a ha]; exact Bool.false_ne_true
  rw [execute_of_ok cfg dirs x s h, execute_of_ok cfg dirs x.recorded ⟨[], s⟩ h]
  simp only [hgoOn, hsame, Bool.false_eq_true, if_false]
  rw [hstate, hfailed hgoOn, conclude_eq, conclude_eq]
  refine ⟨rfl, rfl, ?_, fun hx => ?_⟩
  · rw [hcalls]
    exact congrArg (· ++ [Call.finish]) (List.nil_append _)
  · show Entry.errorTexts (_ ++ _) = _
    rw [Entry.errorTexts_append, htexts, hx.finish, List.append_nil]
    exact flatMap_written hx fun a ha => ⟨ha, hgoes a ha⟩

end

/-- **The law of a run.**  Unless there is a requested command and all of them are offered, nothing
is done.  Otherwise the requested commands are taken up in order, up to and including the first that
ends with a cancellation, or with another error of the executor when the run is not to keep going;
no other failure keeps a command from being taken up.  A cancellation is the result, without a
report and without a last call of the executor.  Otherwise the executor is told once, in the end,
that no more tasks come; each command that failed is reported in one line; and the result is the
answer of the executor, or else how many of the requested commands failed. -/
theorem execute_law {σ : Type} (cfg : Configuration) (dirs : RunDirectories) (x : Executor σ)
    (s : σ) :
    let requested := cfg.options.commands
    let attempts := attempts cfg x (baseTask dirs) requested s
    let tasks := attempts.flatMap (Attempt.tasks cfg x (baseTask dirs))
    let last := Attempt.lastState s attempts
    let run := execute cfg dirs x s
    let calls := (execute cfg dirs x.recorded ⟨[], s⟩).state.calls
    (validate cfg = .ok () ↔
        requested ≠ [] ∧
          ∀ c ∈ requested, c ∈ (configuredCommands cfg.settings).map Prod.fst) ∧
      (∀ e, validate cfg = .error e → run = .failed s e ∧ calls = []) ∧
      (validate cfg = .ok () →
        attempts.map Attempt.command <+: requested ∧
        (∀ a ∈ attempts.dropLast, ∀ e, a.progress.error = some (.execution e) →
          e ≠ .cancelled ∧ cfg.options.keepGoing = true) ∧
        (attempts.length < requested.length → ∃ a e, attempts.getLast? = some a ∧
          a.progress.error = some (.execution e) ∧
          (e = .cancelled ∨ cfg.options.keepGoing = false)) ∧
        ((∃ a ∈ attempts, a.isCancelled = true) →
          run.state = last ∧ run.error = some (.execution .cancelled) ∧
            calls = tasks.map .task ∧
            (x.WritesNoErrors →
              Entry.errorTexts run.journal = attempts.dropLast.filterMap Attempt.line?)) ∧
        ((∀ a ∈ attempts, a.isCancelled = false) →
          run.state = (x.finish last).state ∧
            run.error = ((x.finish last).error.map .execution).or
              (if 0 < attempts.countP Attempt.failed then
                some (.commandsFailed (attempts.countP Attempt.failed) requested.length)
              else none) ∧
            calls = tasks.map .task ++ [.finish] ∧
            (x.WritesNoErrors →
              Entry.errorTexts run.journal = attempts.filterMap Attempt.line?))) := by
  refine ⟨validate_eq_ok_iff cfg, fun e he => ⟨?_, ?_⟩, fun h => ⟨?_, ?_, ?_, ?_, ?_⟩⟩
  · exact execute_of_error cfg dirs x s he
  · rw [execute_of_error cfg dirs x.recorded ⟨[], s⟩ he]
    rfl
  · exact map_command_attempts cfg x (baseTask dirs) cfg.options.commands s
  · intro a ha e he
    have hgoes := not_ends_of_mem_dropLast cfg x (baseTask dirs) cfg.options.commands s a ha
    rw [← Bool.not_eq_true, Attempt.ends_iff] at hgoes
    constructor
    · intro hcancelled
      exact hgoes ⟨e, he, Or.inl hcancelled⟩
    · rw [← Bool.not_eq_false]
      intro hkeep
      exact hgoes ⟨e, he, Or.inr hkeep⟩
  · intro hlength
    obtain ⟨a, hlast, hends⟩ :=
      exists_ends_of_length_lt cfg x (baseTask dirs) cfg.options.commands s hlength
    obtain ⟨e, he, hstop⟩ := Attempt.ends_iff.1 hends
    exact ⟨a, e, hlast, he, hstop⟩
  · exact execute_of_isCancelled cfg dirs x s h
  · exact execute_of_not_isCancelled cfg dirs x s h

/-- Two commands, of which one stands for nothing. -/
def halfBroken (requested : List String) : Configuration where
  options := { (default : RunOptions) with commands := requested }
  settings := .node Names.root [.node Names.commands [.leaf "first", .leaf "broken"]]
  patterns := .empty
  plugins := PluginRegistry.empty.register (.memory "first" false)

/-- A run with two failures.  The first is that of a name and stops nothing; the second is that of
the second task, and keeps the last command from being taken up. -/
theorem execute_law_halfBroken :
    let cfg := halfBroken ["broken", "first", "first", "first"]
    let dirs : RunDirectories := ⟨.ofText "/project", .ofText "/project/sub"⟩
    let failure := ExecutionError.nonZeroExit "first" 1
    let x := Executor.scripted (fun i _ => if i = 1 then some failure else none) none
    validate cfg = .ok () ∧
      (execute cfg dirs x .initial).error = some (.commandsFailed 2 4) ∧
      (execute cfg dirs x.recorded ⟨[], .initial⟩).state.calls =
        [.task (baseTask dirs), .task (baseTask dirs), .finish] ∧
      Entry.errorTexts (execute cfg dirs x .initial).journal =
        [report "broken" (.unknownCommand "broken"), report "first" (.execution failure)] := by
  intro cfg dirs failure x
  have hvalid : validate cfg = .ok () := rfl
  have hbroken : cfg.outcomes Frame.root (baseTask dirs) ["broken"] =
      [.error (.unknownCommand "broken")] := by
    have hreferent : cfg.referent Frame.root "broken" = .unknown := rfl
    rw [Configuration.outcomes, Configuration.leaves_cons, Configuration.leavesOf_eq, hreferent,
      Configuration.leaves_nil, ← Leaf.outcome_unknown cfg (baseTask dirs)]
    rfl
  have hfirst : Outcome.delivered (cfg.outcomes Frame.root (baseTask dirs) ["first"]) =
        [baseTask dirs] ∧
      Outcome.firstError (cfg.outcomes Frame.root (baseTask dirs) ["first"]) = none := by
    have hreferent : cfg.referent Frame.root "first" = .plugin (.memory "first" false) := rfl
    have hone : ((Leaf.application (Frame.root.pushed "first") (.memory "first" false)).outcome cfg
        (baseTask dirs)).result = .ok [baseTask dirs] := Leaf.result_outcome_of_emit rfl
    have houtcomes : cfg.outcomes Frame.root (baseTask dirs) ["first"] =
        [(Leaf.application (Frame.root.pushed "first") (.memory "first" false)).outcome cfg
          (baseTask dirs)] := by
      rw [Configuration.outcomes, Configuration.leaves_cons, Configuration.leavesOf_eq, hreferent,
        Configuration.leaves_nil]
      rfl
    rw [houtcomes, Outcome.delivered_cons_of_ok hone, Outcome.firstError_cons_of_ok hone]
    exact ⟨rfl, rfl⟩
  -- the three commands that are taken up
  let s₀ := Executor.Script.State.initial
  let s₁ : Executor.Script.State := ⟨[baseTask dirs], 0⟩
  let s₂ : Executor.Script.State := ⟨[baseTask dirs, baseTask dirs], 0⟩
  let a₀ := attemptOf cfg x (baseTask dirs) "broken" s₀
  let a₁ := attemptOf cfg x (baseTask dirs) "first" s₀
  let a₂ := attemptOf cfg x (baseTask dirs) "first" s₁
  have herror₀ : a₀.progress.error = some (.unknownCommand "broken") := by
    rw [error_attemptOf, Configuration.tasks, hbroken]
    rfl
  have hstate₀ : a₀.progress.state = s₀ := by
    rw [state_attemptOf, Configuration.tasks, hbroken]
    rfl
  have herror₁ : a₁.progress.error = none := by
    rw [error_attemptOf, Configuration.tasks, hfirst.1, hfirst.2]
    rfl
  have hstate₁ : a₁.progress.state = s₁ := by
    rw [state_attemptOf, Configuration.tasks, hfirst.1]
    rfl
  have herror₂ : a₂.progress.error = some (.execution failure) := by
    rw [error_attemptOf, Configuration.tasks, hfirst.1]
    rfl
  have hstate₂ : a₂.progress.state = s₂ := by
    rw [state_attemptOf, Configuration.tasks, hfirst.1]
    rfl
  have hattempts : attempts cfg x (baseTask dirs) cfg.options.commands s₀ = [a₀, a₁, a₂] := by
    show attempts cfg x (baseTask dirs) ["broken", "first", "first", "first"] s₀ = _
    rw [attempts_cons_of_not_ends (h := by rw [Attempt.ends, herror₀]; rfl), hstate₀,
      attempts_cons_of_not_ends (h := by rw [Attempt.ends, herror₁]; rfl), hstate₁,
      attempts_cons_of_ends (h := by rw [Attempt.ends, herror₂]; rfl)]
  have hgoes : ∀ a ∈ attempts cfg x (baseTask dirs) cfg.options.commands s₀,
      a.isCancelled = false := by
    rw [hattempts]
    simp only [List.forall_mem_cons, List.not_mem_nil, false_imp_iff, implies_true, and_true]
    refine ⟨?_, ?_, ?_⟩
    · rw [Attempt.isCancelled, herror₀]
      rfl
    · rw [Attempt.isCancelled, herror₁]
      rfl
    · rw [Attempt.isCancelled, herror₂]
      rfl
  obtain ⟨-, herror, hcalls, htexts⟩ :=
    ((execute_law cfg dirs x s₀).2.2 hvalid).2.2.2.2 hgoes
  rw [hattempts] at herror hcalls htexts
  have hlines := htexts (Executor.writesNoErrors_scripted _ _)
  refine ⟨hvalid, ?_, ?_, ?_⟩
  · rw [herror]
    simp only [List.countP_cons, List.countP_nil, Attempt.failed, herror₀, herror₁, herror₂]
    rfl
  · rw [hcalls]
    have htasks₀ : a₀.tasks cfg x (baseTask dirs) = [] := by
      rw [tasks_attemptOf, Configuration.tasks, hbroken]
      rfl
    have htasks₁ : a₁.tasks cfg x (baseTask dirs) = [baseTask dirs] := by
      rw [tasks_attemptOf, Configuration.tasks, hfirst.1]
      rfl
    have htasks₂ : a₂.tasks cfg x (baseTask dirs) = [baseTask dirs] := by
      rw [tasks_attemptOf, Configuration.tasks, hfirst.1]
      rfl
    simp only [List.flatMap_cons, List.flatMap_nil, htasks₀, htasks₁, htasks₂]
    rfl
  · rw [hlines]
    simp only [List.filterMap_cons, List.filterMap_nil, Attempt.line?, herror₀, herror₁, herror₂]
    rfl

end Run
end Orchestrator
