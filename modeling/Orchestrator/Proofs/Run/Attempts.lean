import Orchestrator.Proofs.Resolution.Calls
import Orchestrator.Proofs.Resolution.Independence
import Orchestrator.Proofs.Resolution.Silence
import Orchestrator.Run

/-!
# The commands that a run takes up

A run goes from command to command and stops inside its recursion.  The same can be said in two
steps that do not know of each other: all requested commands in turn, each on the state that the one
before it left, as if nothing ended the run; and of these the ones up to and including the first
that ends it.

* `Run.Attempt`, `Run.inTurn`, `Run.attempts`: a command that is taken up, all requested commands,
  and those that are taken up.
* `Run.Attempt.ends`: only an error of the executor ends a run.
* `attempt_eq`: **the recursion of a run, read off the attempts**: its last state, how many commands
  failed, whether the run was cancelled, and what was written on the error stream.
* `attempt_recorded`: the calls of the executor.
* `attempt_preserves`, `execute_preserves`: what each call of an executor keeps, a run keeps.
-/

namespace Orchestrator
namespace Run

variable {σ : Type}

/-- A command that is taken up in a state, and what comes of it. -/
structure Attempt (σ : Type) where
  command : String
  start : σ
  progress : Progress DispatchError σ

/-- Whether an error ends the run: a cancellation does, and any other error of the executor unless
the run is to keep going. -/
def endsRun (keepGoing : Bool) : DispatchError → Bool
  | .execution e => decide (e = .cancelled) || !keepGoing
  | _ => false

namespace Attempt

/-- Whether the command failed. -/
def failed (a : Attempt σ) : Bool := a.progress.error.isSome

/-- Whether the user stopped the run while the command was taken up. -/
def isCancelled (a : Attempt σ) : Bool := decide (a.progress.error = some (.execution .cancelled))

/-- Whether the commands behind this one are not taken up. -/
def ends (keepGoing : Bool) (a : Attempt σ) : Bool := a.progress.error.any (endsRun keepGoing)

/-- The line that reports a failure. -/
def line? (a : Attempt σ) : Option String := a.progress.error.map (report a.command)

/-- The tasks that the executor is handed for the command. -/
def tasks (cfg : Configuration) (x : Executor σ) (base : Task) (a : Attempt σ) : List Task :=
  handed cfg x Frame.root base [a.command] a.start

/-- The state after some commands. -/
def lastState (s : σ) (as : List (Attempt σ)) : σ :=
  (as.getLast?.map fun a => a.progress.state).getD s

end Attempt

section

variable (cfg : Configuration) (x : Executor σ) (base : Task)

/-- A command, taken up in a state. -/
def attemptOf (command : String) (s : σ) : Attempt σ :=
  ⟨command, s, executeCommand cfg x Frame.root base command s⟩

/-- An executor that takes up a command ends where it ends on the tasks of the command. -/
theorem state_attemptOf (command : String) (s : σ) :
    (attemptOf cfg x base command s).progress.state =
      (x.executeAll (cfg.tasks Frame.root base [command]) s).state := by
  rw [attemptOf, ← executeCommands_singleton, state_executeCommands]

/-- A command fails with the error of the executor on its tasks, or else with its own. -/
theorem error_attemptOf (command : String) (s : σ) :
    (attemptOf cfg x base command s).progress.error =
      ((x.executeAll (cfg.tasks Frame.root base [command]) s).error.map .execution).or
        (Outcome.firstError (cfg.outcomes Frame.root base [command])) := by
  rw [attemptOf, ← executeCommands_singleton, error_executeCommands]

/-- A command hands over what the executor takes of its tasks. -/
theorem tasks_attemptOf (command : String) (s : σ) :
    (attemptOf cfg x base command s).tasks cfg x base =
      x.taken (cfg.tasks Frame.root base [command]) s :=
  handed_eq cfg x Frame.root base [command] s

/-- Commands in turn, each on the state that the one before it left. -/
def inTurn : List String → σ → List (Attempt σ)
  | [], _ => []
  | command :: commands, s =>
    attemptOf cfg x base command s ::
      inTurn commands (attemptOf cfg x base command s).progress.state

/-- The commands up to and including the first that ends the run. -/
def attempts (commands : List String) (s : σ) : List (Attempt σ) :=
  let all := inTurn cfg x base commands s
  all.take ((all.takeWhile fun a => !a.ends cfg.options.keepGoing).length + 1)

variable (commands : List String) (s : σ)

variable {cfg x base s} in
theorem attempts_cons_of_ends {command : String}
    (h : (attemptOf cfg x base command s).ends cfg.options.keepGoing = true) :
    attempts cfg x base (command :: commands) s = [attemptOf cfg x base command s] := by
  simp [attempts, inTurn, h]

variable {cfg x base s} in
theorem attempts_cons_of_not_ends {command : String}
    (h : (attemptOf cfg x base command s).ends cfg.options.keepGoing = false) :
    attempts cfg x base (command :: commands) s =
      attemptOf cfg x base command s ::
        attempts cfg x base commands (attemptOf cfg x base command s).progress.state := by
  simp [attempts, inTurn, h]

/-- The commands that are taken up are the requested ones, in order, as far as it goes. -/
theorem map_command_attempts :
    (attempts cfg x base commands s).map Attempt.command <+: commands := by
  have hall : (inTurn cfg x base commands s).map Attempt.command = commands := by
    induction commands generalizing s with
    | nil => rfl
    | cons command commands ih => exact congrArg (command :: ·) (ih _)
  rw [attempts, List.map_take, hall]
  exact List.take_prefix _ _

/-- What comes of a command that is taken up is what its resolution comes to. -/
theorem progress_of_mem_attempts {a : Attempt σ} (h : a ∈ attempts cfg x base commands s) :
    a.progress = executeCommand cfg x Frame.root base a.command a.start := by
  have hall : a ∈ inTurn cfg x base commands s := List.mem_of_mem_take h
  clear h
  induction commands generalizing s with
  | nil => cases hall
  | cons command commands ih =>
    rcases List.mem_cons.1 hall with rfl | hall
    · rfl
    · exact ih _ hall

/-- Only the last command that is taken up may end the run. -/
theorem not_ends_of_mem_dropLast :
    ∀ a ∈ (attempts cfg x base commands s).dropLast, a.ends cfg.options.keepGoing = false := by
  induction commands generalizing s with
  | nil =>
    intro a ha
    cases ha
  | cons command commands ih =>
    cases hends : (attemptOf cfg x base command s).ends cfg.options.keepGoing with
    | true =>
      rw [attempts_cons_of_ends commands hends]
      intro a ha
      cases ha
    | false =>
      rw [attempts_cons_of_not_ends commands hends]
      intro a ha
      cases hrest : attempts cfg x base commands
          (attemptOf cfg x base command s).progress.state with
      | nil =>
        rw [hrest] at ha
        cases ha
      | cons b rest =>
        rw [hrest, List.dropLast_cons_of_ne_nil (List.cons_ne_nil _ _), ← hrest] at ha
        rcases List.mem_cons.1 ha with rfl | ha
        · exact hends
        · exact ih _ a ha

/-- When a requested command is not taken up, the last one that is ends the run. -/
theorem exists_ends_of_length_lt (h : (attempts cfg x base commands s).length < commands.length) :
    ∃ a, (attempts cfg x base commands s).getLast? = some a ∧
      a.ends cfg.options.keepGoing = true := by
  induction commands generalizing s with
  | nil => cases h
  | cons command commands ih =>
    cases hends : (attemptOf cfg x base command s).ends cfg.options.keepGoing with
    | true =>
      rw [attempts_cons_of_ends commands hends]
      exact ⟨_, rfl, hends⟩
    | false =>
      rw [attempts_cons_of_not_ends commands hends] at h ⊢
      obtain ⟨a, hlast, hstop⟩ := ih _ (Nat.lt_of_succ_lt_succ h)
      refine ⟨a, ?_, hstop⟩
      rw [List.getLast?_cons, hlast]
      rfl

end

/-! ## The recursion of a run -/

/-- What is written on the error stream for a command: what the executor writes, and the report of
its failure, unless that is a cancellation. -/
def Attempt.written (a : Attempt σ) : List String :=
  Entry.errorTexts a.progress.journal ++ if a.isCancelled then [] else a.line?.toList

theorem Attempt.lastState_cons (a : Attempt σ) (as : List (Attempt σ)) (s : σ) :
    lastState s (a :: as) = lastState a.progress.state as := by
  rw [lastState, lastState, List.getLast?_cons]
  cases as.getLast? <;> rfl

theorem verdict_eq_cancel_iff {keepGoing : Bool} {e : DispatchError} :
    verdict keepGoing e = .cancel ↔ e = .execution .cancelled := by
  unfold verdict
  constructor
  · intro h
    split at h
    · rfl
    · split at h <;> cases h
    · cases h
  · rintro rfl
    rfl

theorem endsRun_eq_false_iff {keepGoing : Bool} {e : DispatchError} :
    endsRun keepGoing e = false ↔ verdict keepGoing e = .goOn := by
  unfold verdict endsRun
  cases e with
  | execution e =>
    cases e <;> cases keepGoing <;> simp
  | _ => exact ⟨fun _ => rfl, fun _ => rfl⟩

section

variable {cfg : Configuration} {x : Executor σ} {base : Task} {s : σ} {command : String}

/-- A command that ends the run is the last one whose failure counts. -/
theorem attempt_cons_of_ends
    (h : (attemptOf cfg x base command s).ends cfg.options.keepGoing = true)
    (commands : List String) :
    let a := attemptOf cfg x base command s
    let r := attempt cfg x base (command :: commands) s
    r.state = a.progress.state ∧ r.cancelled = a.isCancelled ∧
      (r.cancelled = false → r.failed = 1 ∧ a.failed = true) ∧
      Entry.errorTexts r.journal = a.written := by
  dsimp only
  rw [Attempt.ends, Option.any_eq_true] at h
  obtain ⟨e, he, hends⟩ := h
  have herror : (executeCommand cfg x Frame.root base command s).error = some e := he
  rw [attempt]
  cases hverdict : verdict cfg.options.keepGoing e with
  | cancel =>
    obtain rfl := verdict_eq_cancel_iff.1 hverdict
    have hcancelled : (attemptOf cfg x base command s).isCancelled = true := decide_eq_true he
    simp only [Progress.noting, herror, hverdict]
    refine ⟨rfl, hcancelled.symm, fun h => (by cases h), ?_⟩
    rw [Attempt.written, hcancelled, if_pos rfl, List.append_nil, Entry.errorTexts_log_cons]
    rfl
  | stop =>
    have hne : e ≠ .execution .cancelled := by
      rintro rfl
      cases hverdict
    have hcancelled : (attemptOf cfg x base command s).isCancelled = false := by
      rw [Attempt.isCancelled, he]
      exact decide_eq_false fun h => hne (Option.some.inj h)
    have hfailed : (attemptOf cfg x base command s).failed = true := by
      rw [Attempt.failed, he]
      rfl
    simp only [Progress.noting, herror, hverdict]
    refine ⟨rfl, hcancelled.symm, fun _ => ⟨trivial, hfailed⟩, ?_⟩
    rw [Attempt.written, hcancelled]
    simp [Attempt.line?, attemptOf, herror]
  | goOn =>
    rw [endsRun_eq_false_iff.2 hverdict] at hends
    cases hends

/-- After a command that does not end the run, the others are taken up. -/
theorem attempt_cons_of_not_ends
    (h : (attemptOf cfg x base command s).ends cfg.options.keepGoing = false)
    (commands : List String) :
    let a := attemptOf cfg x base command s
    let r := attempt cfg x base (command :: commands) s
    let rest := attempt cfg x base commands a.progress.state
    r.state = rest.state ∧ r.cancelled = rest.cancelled ∧
      r.failed = rest.failed + (if a.failed then 1 else 0) ∧ a.isCancelled = false ∧
      Entry.errorTexts r.journal = a.written ++ Entry.errorTexts rest.journal := by
  dsimp only
  cases he : (attemptOf cfg x base command s).progress.error with
  | none =>
    have herror : (executeCommand cfg x Frame.root base command s).error = none := he
    rw [attempt]
    simp only [Progress.noting, herror]
    refine ⟨rfl, rfl, ?_, ?_, ?_⟩
    · rw [Attempt.failed, he]
      rfl
    · rw [Attempt.isCancelled, he]
      rfl
    · simp [Attempt.written, Attempt.isCancelled, Attempt.line?, attemptOf, herror]
  | some e =>
    have herror : (executeCommand cfg x Frame.root base command s).error = some e := he
    have hverdict : verdict cfg.options.keepGoing e = .goOn := by
      rw [Attempt.ends, he, Option.any_some] at h
      exact endsRun_eq_false_iff.1 h
    have hne : e ≠ .execution .cancelled := by
      rintro rfl
      cases hverdict
    rw [attempt]
    simp only [Progress.noting, herror, hverdict]
    refine ⟨rfl, rfl, ?_, ?_, ?_⟩
    · rw [Attempt.failed, he]
      rfl
    · rw [Attempt.isCancelled, he]
      exact decide_eq_false fun h => hne (Option.some.inj h)
    · simp [Attempt.written, Attempt.isCancelled, Attempt.line?, attemptOf, herror, hne]

end

section

variable (cfg : Configuration) (x : Executor σ) (base : Task)

/-- **The recursion of a run, read off the attempts.** -/
theorem attempt_eq (commands : List String) (s : σ) :
    (attempt cfg x base commands s).state =
        Attempt.lastState s (attempts cfg x base commands s) ∧
      (attempt cfg x base commands s).cancelled =
        (attempts cfg x base commands s).any Attempt.isCancelled ∧
      ((attempt cfg x base commands s).cancelled = false →
        (attempt cfg x base commands s).failed =
          (attempts cfg x base commands s).countP Attempt.failed) ∧
      Entry.errorTexts (attempt cfg x base commands s).journal =
        (attempts cfg x base commands s).flatMap Attempt.written := by
  induction commands generalizing s with
  | nil => exact ⟨rfl, rfl, fun _ => rfl, rfl⟩
  | cons command commands ih =>
    cases hends : (attemptOf cfg x base command s).ends cfg.options.keepGoing with
    | true =>
      obtain ⟨hstate, hcancelled, hfailed, htexts⟩ := attempt_cons_of_ends hends commands
      rw [attempts_cons_of_ends commands hends]
      refine ⟨hstate, ?_, fun h => ?_, ?_⟩
      · rw [hcancelled, List.any_cons, List.any_nil, Bool.or_false]
      · obtain ⟨hone, hcounts⟩ := hfailed h
        rw [hone, List.countP_singleton, if_pos hcounts]
      · rw [htexts, List.flatMap_singleton]
    | false =>
      obtain ⟨hstate, hcancelled, hfailed, hnot, htexts⟩ := attempt_cons_of_not_ends hends commands
      obtain ⟨ihstate, ihcancelled, ihfailed, ihtexts⟩ :=
        ih (attemptOf cfg x base command s).progress.state
      rw [attempts_cons_of_not_ends commands hends]
      refine ⟨?_, ?_, fun h => ?_, ?_⟩
      · rw [hstate, ihstate, Attempt.lastState_cons]
      · rw [hcancelled, ihcancelled, List.any_cons, hnot, Bool.false_or]
      · rw [hcancelled] at h
        rw [hfailed, ihfailed h, List.countP_cons]
      · rw [htexts, ihtexts, List.flatMap_cons]

/-- A command hands over its tasks and does nothing else with the executor. -/
theorem attemptOf_recorded (command : String) (s : σ) (calls : List Call) :
    let a := attemptOf cfg x base command s
    let r := attemptOf cfg x.recorded base command ⟨calls, s⟩
    r.progress.state = ⟨calls ++ (a.tasks cfg x base).map .task, a.progress.state⟩ ∧
      r.progress.error = a.progress.error := by
  have h := executeCommands_recorded cfg x Frame.root base [command] s calls
  rw [executeCommands_singleton, executeCommands_singleton] at h
  exact h

/-- The calls of an executor while commands are taken up are the tasks of the attempts. -/
theorem attempt_recorded (commands : List String) (s : σ) (calls : List Call) :
    (attempt cfg x.recorded base commands ⟨calls, s⟩).state =
        ⟨calls ++ ((attempts cfg x base commands s).flatMap (Attempt.tasks cfg x base)).map .task,
          (attempt cfg x base commands s).state⟩ ∧
      (attempt cfg x.recorded base commands ⟨calls, s⟩).cancelled =
        (attempt cfg x base commands s).cancelled := by
  induction commands generalizing s calls with
  | nil => exact ⟨congrArg (fun k => (⟨k, s⟩ : Record σ)) (List.append_nil calls).symm, rfl⟩
  | cons command commands ih =>
    obtain ⟨hstep, herror⟩ := attemptOf_recorded cfg x base command s calls
    have hsame : (attemptOf cfg x.recorded base command ⟨calls, s⟩).ends cfg.options.keepGoing =
        (attemptOf cfg x base command s).ends cfg.options.keepGoing := by
      rw [Attempt.ends, herror, Attempt.ends]
    cases hends : (attemptOf cfg x base command s).ends cfg.options.keepGoing with
    | true =>
      obtain ⟨hstate, hcancelled, -, -⟩ := attempt_cons_of_ends hends commands
      obtain ⟨hstate', hcancelled', -, -⟩ := attempt_cons_of_ends (hsame.trans hends) commands
      rw [attempts_cons_of_ends commands hends, List.flatMap_singleton]
      refine ⟨?_, ?_⟩
      · rw [hstate', hstate, hstep]
      · rw [hcancelled', hcancelled, Attempt.isCancelled, herror, Attempt.isCancelled]
    | false =>
      obtain ⟨hstate, hcancelled, -, -, -⟩ := attempt_cons_of_not_ends hends commands
      obtain ⟨hstate', hcancelled', -, -, -⟩ :=
        attempt_cons_of_not_ends (hsame.trans hends) commands
      obtain ⟨ihstate, ihcancelled⟩ := ih (attemptOf cfg x base command s).progress.state
        (calls ++ ((attemptOf cfg x base command s).tasks cfg x base).map .task)
      rw [attempts_cons_of_not_ends commands hends, List.flatMap_cons]
      refine ⟨?_, ?_⟩
      · rw [hstate', hstep, ihstate, hstate, List.map_append, List.append_assoc]
      · rw [hcancelled', hstep, ihcancelled, hcancelled]

/-! ## What a run keeps -/

/-- What an executor keeps with each task, taking up commands keeps. -/
theorem attempt_preserves {P : σ → Prop} (h : ∀ t s, P s → P (x.execute t s).state)
    (commands : List String) {s : σ} (hs : P s) : P (attempt cfg x base commands s).state := by
  induction commands generalizing s with
  | nil => exact hs
  | cons command commands ih =>
    have hstep : P (attemptOf cfg x base command s).progress.state := by
      rw [state_attemptOf]
      exact x.executeAll_preserves h _ hs
    cases hends : (attemptOf cfg x base command s).ends cfg.options.keepGoing with
    | true =>
      rw [(attempt_cons_of_ends hends commands).1]
      exact hstep
    | false =>
      rw [(attempt_cons_of_not_ends hends commands).1]
      exact ih hstep

/-- **What each call of an executor keeps, a run keeps.** -/
theorem execute_preserves (dirs : RunDirectories) {P : σ → Prop}
    (h : ∀ t s, P s → P (x.execute t s).state) (hfinish : ∀ s, P s → P (x.finish s).state) {s : σ}
    (hs : P s) : P (execute cfg dirs x s).state := by
  rw [execute]
  cases validate cfg with
  | error e => exact hs
  | ok u =>
    have hattempt := attempt_preserves cfg x (baseTask dirs) h cfg.options.commands hs
    dsimp only
    split
    · exact hattempt
    · show P (conclude _ _ (x.finish _)).state
      rw [conclude]
      split <;> exact hfinish _ hattempt

end
end Run
end Orchestrator
