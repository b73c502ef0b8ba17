import Orchestrator.Proofs.Execution.Processes
import Orchestrator.Proofs.Resolution.Keeping
import Orchestrator.Proofs.Run.Law

/-!
# Runs of processes

A run whose executor starts processes can lose sight of a failure in two places: when the failure
is put off because the run keeps going, and when a command stops in the middle.  Neither happens.

* `Run.handedTasks`: the tasks that the executor of a run is handed.
* `attempts_complete_iff`: **no failure is lost**, by induction on the commands; the number of
  failures that were put off never goes down.
* `flatMap_tasks_prefix`: **keeping going only adds work**; up to the first error of an executor,
  runs with the same processes go side by side.
* `processes_law`: both of these, and that no process is started once the user has stopped the run.
-/

namespace Orchestrator

/-- The task that a call hands over. -/
def Call.task? : Call → Option Task
  | .task t => some t
  | .finish => none

namespace Run

open Executor (immediate)

/-- The tasks that the executor of a run is handed, in order. -/
def handedTasks (cfg : Configuration) (dirs : RunDirectories) {σ : Type} (x : Executor σ)
    (s : σ) : List Task :=
  (execute cfg dirs x.recorded ⟨[], s⟩).state.calls.filterMap Call.task?

/-- They are the tasks of the commands that are taken up. -/
theorem handedTasks_of_ok {σ : Type} (cfg : Configuration) (dirs : RunDirectories)
    (x : Executor σ) (s : σ) (h : validate cfg = .ok ()) :
    handedTasks cfg dirs x s =
      (attempts cfg x (baseTask dirs) cfg.options.commands s).flatMap
        (Attempt.tasks cfg x (baseTask dirs)) := by
  have htasks : ∀ ts : List Task, (ts.map Call.task).filterMap Call.task? = ts := by
    intro ts
    rw [List.filterMap_map]
    exact List.filterMap_some
  rw [handedTasks]
  by_cases hcancelled : ∃ a ∈ attempts cfg x (baseTask dirs) cfg.options.commands s,
      a.isCancelled = true
  · rw [(execute_of_isCancelled cfg dirs x s h hcancelled).2.2.1, htasks]
  · have hgoes := Attempt.isCancelled_eq_false_of_not_exists hcancelled
    rw [(execute_of_not_isCancelled cfg dirs x s h hgoes).2.2.1, List.filterMap_append, htasks]
    exact List.append_nil _

section

variable {σ : Type} (cfg : Configuration) (x : Executor σ) (base : Task)

/-- The first command is taken up in any case. -/
theorem exists_attempts_cons (command : String) (commands : List String) (s : σ) :
    ∃ rest, attempts cfg x base (command :: commands) s =
      attemptOf cfg x base command s :: rest := by
  cases hends : (attemptOf cfg x base command s).ends cfg.options.keepGoing with
  | true => exact ⟨[], attempts_cons_of_ends commands hends⟩
  | false => exact ⟨_, attempts_cons_of_not_ends commands hends⟩

/-- A command that did not fail does not end the run. -/
theorem not_ends_of_error_eq_none {a : Attempt σ} (h : a.progress.error = none)
    (keepGoing : Bool) : a.ends keepGoing = false := by
  rw [Attempt.ends, h]
  rfl

/-- A command whose tasks are all taken does not end the run, whether it resolves or not. -/
theorem not_ends_of_executeAll {command : String} {s : σ}
    (h : (x.executeAll (cfg.tasks Frame.root base [command]) s).error = none)
    (keepGoing : Bool) : (attemptOf cfg x base command s).ends keepGoing = false := by
  rw [← Bool.not_eq_true, Attempt.ends_iff]
  rintro ⟨e, he, -⟩
  rw [error_attemptOf, h] at he
  exact not_concernsExecution_of_firstError cfg Frame.root base [command] he trivial

/-- A command resolves exactly when none of its leaves fails. -/
theorem resolves_iff (command : String) :
    (∃ ts, (resolveCommands cfg Frame.root base [command]).result = .ok ts) ↔
      Outcome.firstError (cfg.outcomes Frame.root base [command]) = none := by
  have herror := error_of_neverFails cfg Frame.root base [command] []
    (x := Executor.collector) fun _ _ => rfl
  rw [← herror, resolveCommands, Progress.toOutcome]
  cases (executeCommands cfg Executor.collector Frame.root base [command] []).error with
  | none => exact ⟨fun _ => rfl, fun _ => ⟨_, rfl⟩⟩
  | some e =>
    constructor
    · rintro ⟨ts, h⟩
      cases h
    · intro h
      cases h

end

section

variable {ω : Type} (cfg : Configuration) (l : Launcher ω) (keepGoing : Bool) (base : Task)

/-- Failures that were put off are not forgotten while commands are taken up. -/
theorem le_failures_lastState (commands : List String) (s : Executor.Immediate.State ω) :
    s.failures ≤ (Attempt.lastState s
      (attempts cfg (immediate l keepGoing) base commands s)).failures := by
  rw [← (attempt_eq cfg (immediate l keepGoing) base commands s).1]
  exact attempt_preserves cfg (immediate l keepGoing) base
    (P := fun s' => s.failures ≤ s'.failures) (fun t s' => Executor.le_failures_execute l t s')
    commands (Nat.le_refl _)

/-- One command: it does not fail and no failure is put off, exactly when it resolves and its tasks
complete; and then it leaves the world of its processes. -/
theorem attemptOf_completes_iff (command : String) (n : Nat) (w : ω) :
    let a := attemptOf cfg (immediate l keepGoing) base command ⟨n, w⟩
    (a.progress.error = none ∧ a.progress.state.failures ≤ n ↔
      Outcome.firstError (cfg.outcomes Frame.root base [command]) = none ∧
        l.Completes (a.tasks cfg (immediate l keepGoing) base) w) ∧
      (a.progress.error = none → a.progress.state.failures ≤ n → a.progress.state =
        ⟨n, l.worldAfter (a.tasks cfg (immediate l keepGoing) base) w⟩) := by
  dsimp only
  have herror := error_attemptOf cfg (immediate l keepGoing) base command ⟨n, w⟩
  rw [state_attemptOf, tasks_attemptOf, herror]
  cases hp : ((immediate l keepGoing).executeAll (cfg.tasks Frame.root base [command])
      ⟨n, w⟩).error with
  | some e =>
    refine ⟨⟨fun h => (by cases h.1), fun h => ?_⟩, fun h => (by cases h)⟩
    rw [(Executor.executeAll_of_completes_taken h.2).1] at hp
    cases hp
  | none =>
    have htaken := Executor.taken_of_error_none _ hp
    have hstate : l.Completes (cfg.tasks Frame.root base [command]) w →
        ((immediate l keepGoing).executeAll (cfg.tasks Frame.root base [command]) ⟨n, w⟩).state =
          ⟨n, l.worldAfter (cfg.tasks Frame.root base [command]) w⟩ := by
      intro h
      rw [← htaken] at h
      exact (Executor.executeAll_of_completes_taken h).2
    rw [htaken, Option.map_none, Option.none_or]
    refine ⟨⟨fun h => ⟨h.1, Executor.completes_of_executeAll hp h.2⟩, fun h => ⟨h.1, ?_⟩⟩,
      fun _ h => hstate (Executor.completes_of_executeAll hp h)⟩
    exact Nat.le_of_eq (congrArg Executor.Immediate.State.failures (hstate h.2))

/-- **No failure is lost** while commands are taken up: no command fails and no failure is put off
exactly when each command resolves and each task completes. -/
theorem attempts_complete_iff (commands : List String) (n : Nat) (w : ω) :
    let as := attempts cfg (immediate l keepGoing) base commands ⟨n, w⟩
    ((∀ a ∈ as, a.progress.error = none) ∧ (Attempt.lastState ⟨n, w⟩ as).failures ≤ n) ↔
      (∀ command ∈ commands, Outcome.firstError (cfg.outcomes Frame.root base [command]) = none) ∧
        l.Completes (as.flatMap (Attempt.tasks cfg (immediate l keepGoing) base)) w := by
  induction commands generalizing w with
  | nil =>
    exact ⟨fun _ => ⟨fun c hc => (by cases hc), trivial⟩,
      fun _ => ⟨fun a ha => (by cases ha), Nat.le_refl n⟩⟩
  | cons command commands ih =>
    obtain ⟨hiff, hstate⟩ := attemptOf_completes_iff cfg l keepGoing base command n w
    dsimp only at ih hiff hstate ⊢
    by_cases hfine :
        (attemptOf cfg (immediate l keepGoing) base command ⟨n, w⟩).progress.error = none ∧
          (attemptOf cfg (immediate l keepGoing) base command ⟨n, w⟩).progress.state.failures ≤ n
    · obtain ⟨hnone, hle⟩ := hfine
      obtain ⟨hresolves, hcompletes⟩ := hiff.1 ⟨hnone, hle⟩
      rw [attempts_cons_of_not_ends commands (not_ends_of_error_eq_none hnone _),
        Attempt.lastState_cons, hstate hnone hle, List.flatMap_cons, Launcher.completes_append,
        List.forall_mem_cons, List.forall_mem_cons, and_iff_right hnone, and_iff_right hresolves,
        and_iff_right hcompletes]
      exact ih _
    · -- both sides say that the first command is fine
      refine iff_of_false (fun h => hfine ?_) (fun h => hfine (hiff.2 ?_))
      · obtain ⟨hnone, hfailures⟩ := h
        obtain ⟨rest, hrest⟩ :=
          exists_attempts_cons cfg (immediate l keepGoing) base command commands ⟨n, w⟩
        have hhead := hnone _ (hrest ▸ List.mem_cons_self)
        refine ⟨hhead, ?_⟩
        rw [attempts_cons_of_not_ends commands (not_ends_of_error_eq_none hhead _),
          Attempt.lastState_cons] at hfailures
        exact Nat.le_trans (le_failures_lastState cfg l keepGoing base commands _) hfailures
      · obtain ⟨hresolves, hcompletes⟩ := h
        obtain ⟨rest, hrest⟩ :=
          exists_attempts_cons cfg (immediate l keepGoing) base command commands ⟨n, w⟩
        rw [hrest, List.flatMap_cons, Launcher.completes_append] at hcompletes
        exact ⟨hresolves command List.mem_cons_self, hcompletes.1⟩

/-- **Keeping going only adds work.**  With the same processes, what a run that does not keep going
hands over is the beginning of what one that does hands over. -/
theorem flatMap_tasks_prefix (commands : List String) (n m : Nat) (w : ω) :
    (attempts (cfg.keeping false) (immediate l false) base commands ⟨n, w⟩).flatMap
        (Attempt.tasks (cfg.keeping false) (immediate l false) base) <+:
      (attempts (cfg.keeping true) (immediate l true) base commands ⟨m, w⟩).flatMap
        (Attempt.tasks (cfg.keeping true) (immediate l true) base) := by
  induction commands generalizing n m w with
  | nil => exact List.prefix_rfl
  | cons command commands ih =>
    have hoffTasks := tasks_attemptOf (cfg.keeping false) (immediate l false) base command ⟨n, w⟩
    have honTasks := tasks_attemptOf (cfg.keeping true) (immediate l true) base command ⟨m, w⟩
    have hoffState := state_attemptOf (cfg.keeping false) (immediate l false) base command ⟨n, w⟩
    have honState := state_attemptOf (cfg.keeping true) (immediate l true) base command ⟨m, w⟩
    -- the two runs have the same tasks before them
    have htasks : ∀ keepGoing, (cfg.keeping keepGoing).tasks Frame.root base [command] =
        cfg.tasks Frame.root base [command] := by
      intro keepGoing
      rw [Configuration.tasks, Configuration.tasks, cfg.outcomes_keeping]
    rw [htasks] at hoffTasks honTasks hoffState honState
    rcases Executor.executeAll_keepGoing l (cfg.tasks Frame.root base [command]) n m w with
      ⟨hoff, hon, hworld⟩ | ⟨hoff, hprefix⟩
    · have hoffGoes := not_ends_of_executeAll (cfg.keeping false) (immediate l false) base
        (htasks false ▸ hoff) false
      have honGoes := not_ends_of_executeAll (cfg.keeping true) (immediate l true) base
        (htasks true ▸ hon) true
      rw [attempts_cons_of_not_ends commands hoffGoes, attempts_cons_of_not_ends commands honGoes,
        List.flatMap_cons, List.flatMap_cons, hoffTasks, honTasks,
        Executor.taken_of_error_none _ hoff, Executor.taken_of_error_none _ hon, hoffState,
        honState, List.prefix_append_right_inj]
      have hsame : ((immediate l true).executeAll (cfg.tasks Frame.root base [command])
          ⟨m, w⟩).state = ⟨_, ((immediate l false).executeAll
            (cfg.tasks Frame.root base [command]) ⟨n, w⟩).state.world⟩ :=
        congrArg (Executor.Immediate.State.mk _) hworld
      rw [hsame]
      exact ih _ _ _
    · have hends : (attemptOf (cfg.keeping false) (immediate l false) base command
          ⟨n, w⟩).ends false = true := by
        obtain ⟨e, he⟩ := Option.ne_none_iff_exists'.1 hoff
        refine Attempt.ends_iff.2 ⟨e, ?_, Or.inr rfl⟩
        rw [error_attemptOf, htasks, he]
        rfl
      obtain ⟨rest, hrest⟩ :=
        exists_attempts_cons (cfg.keeping true) (immediate l true) base command commands ⟨m, w⟩
      rw [attempts_cons_of_ends commands hends, hrest, List.flatMap_singleton, List.flatMap_cons,
        hoffTasks, honTasks]
      exact hprefix.trans (List.prefix_append _ _)

end

section

variable {ω : Type} {cfg : Configuration} {dirs : RunDirectories} {l : Launcher ω} {w : ω}

/-- An accepted run succeeds when no command fails and no failure was put off. -/
theorem execute_immediate_eq_none_iff (h : validate cfg = .ok ()) (keepGoing : Bool) :
    let as := attempts cfg (immediate l keepGoing) (baseTask dirs) cfg.options.commands ⟨0, w⟩
    (execute cfg dirs (immediate l keepGoing) (.initial w)).error = none ↔
      (∀ a ∈ as, a.progress.error = none) ∧ (Attempt.lastState ⟨0, w⟩ as).failures ≤ 0 := by
  dsimp only
  by_cases hcancelled : ∃ a ∈ attempts cfg (immediate l keepGoing) (baseTask dirs)
      cfg.options.commands ⟨0, w⟩, a.isCancelled = true
  · obtain ⟨-, herror, -⟩ := execute_of_isCancelled cfg dirs _ _ h hcancelled
    refine iff_of_false (fun hnone => ?_) (fun hfine => ?_)
    · cases herror.symm.trans hnone
    · obtain ⟨a, ha, hstop⟩ := hcancelled
      cases (hfine.1 a ha).symm.trans (of_decide_eq_true hstop)
  · have hgoes := Attempt.isCancelled_eq_false_of_not_exists hcancelled
    obtain ⟨-, herror, -⟩ := execute_of_not_isCancelled cfg dirs _ _ h hgoes
    rw [Executor.Immediate.State.initial, herror, Option.or_eq_none_iff, Option.map_eq_none_iff,
      and_comm]
    refine and_congr ?_ ?_
    · rw [ite_eq_right_iff]
      constructor
      · intro hcount a ha
        have hzero : ¬ 0 < _ := fun hpos => by cases hcount hpos
        have hfine := List.countP_eq_zero.1 (Nat.eq_zero_of_not_pos hzero) a ha
        exact Option.not_isSome_iff_eq_none.1 hfine
      · intro hnone hpos
        obtain ⟨a, ha, hfailed⟩ := List.countP_pos_iff.1 hpos
        rw [Attempt.failed, hnone a ha] at hfailed
        cases hfailed
    · show (if _ = 0 then none else some _) = none ↔ _
      rw [ite_eq_left_iff, Nat.le_zero]
      constructor
      · intro hzero
        exact Decidable.not_not.1 fun hne => by cases hzero hne
      · intro hzero hne
        exact absurd hzero hne

/-- **The law of runs of processes.**  A run succeeds exactly when its commands are accepted, each
of them resolves, and each task that is handed over runs as a process that ends with the code zero,
so that no failure is lost.  With the same processes, the tasks of a run that does not keep going
are the beginning of those of a run that does.  Whether it keeps going or not, no process is started
after one during which the user stopped the run, nor when the run was stopped before it began. -/
theorem processes_law (cfg : Configuration) (dirs : RunDirectories) (l : Launcher ω) (w : ω) :
    let x := immediate l cfg.options.keepGoing
    let spawns := (execute cfg dirs (immediate l.traced cfg.options.keepGoing)
      (.initial ⟨[], w⟩)).state.world.spawns
    ((execute cfg dirs x (.initial w)).error = none ↔
        validate cfg = .ok () ∧
          (∀ command ∈ cfg.options.commands, ∃ ts,
            (resolveCommands cfg Frame.root (baseTask dirs) [command]).result = .ok ts) ∧
          l.Completes (handedTasks cfg dirs x (.initial w)) w) ∧
      handedTasks (cfg.keeping false) dirs (immediate l false) (.initial w) <+:
        handedTasks (cfg.keeping true) dirs (immediate l true) (.initial w) ∧
      (∀ p ∈ spawns.dropLast, l.isCancelled p.world = false) ∧
      (l.isCancelled w = true → spawns = []) := by
  dsimp only
  refine ⟨?_, ?_, ?_⟩
  · cases hvalid : validate cfg with
    | error e =>
      rw [execute_of_error cfg dirs _ _ hvalid]
      exact ⟨fun h => (nomatch h), fun h => (nomatch h.1)⟩
    | ok u =>
      refine (execute_immediate_eq_none_iff hvalid _).trans ?_
      refine (attempts_complete_iff cfg l _ (baseTask dirs) _ 0 w).trans ?_
      rw [handedTasks_of_ok cfg dirs _ _ hvalid, and_iff_right rfl]
      exact and_congr (forall₂_congr fun command _ =>
        (resolves_iff cfg (baseTask dirs) command).symm) Iff.rfl
  · cases hvalid : validate cfg with
    | error e =>
      have hnothing : ∀ keepGoing, handedTasks (cfg.keeping keepGoing) dirs
          (immediate l keepGoing) (.initial w) = [] := by
        intro keepGoing
        rw [handedTasks, execute_of_error (cfg.keeping keepGoing) dirs _ _ hvalid]
        rfl
      simp only [hnothing, List.prefix_rfl]
    | ok u =>
      rw [handedTasks_of_ok (cfg.keeping false) dirs _ _ hvalid,
        handedTasks_of_ok (cfg.keeping true) dirs _ _ hvalid]
      exact flatMap_tasks_prefix cfg l (baseTask dirs) cfg.options.commands 0 0 w
  · have hobedient : l.Obedient w (execute cfg dirs (immediate l.traced cfg.options.keepGoing)
        (.initial ⟨[], w⟩)).state.world :=
      execute_preserves cfg (immediate l.traced cfg.options.keepGoing) dirs
        (P := fun s => l.Obedient w s.world) (fun t s hs => Launcher.obedient_execute t s hs)
        (fun s hs => hs) (l.obedient_start w)
    exact ⟨hobedient.earlier, fun hstart => (hobedient.stopped hstart).1⟩

end
end Run
end Orchestrator
