import Orchestrator.Proofs.Execution.Watch

/-!
# Processes one after the other

A task that is run as a process may succeed, may fail in a way that a run that is to keep going puts
off, or may fail for good.  What comes of a list of tasks follows from these three.

* `Launcher.worldAfter`, `completes_append`: the world that processes leave.
* `execute_immediate_cases`: **what one task can do** to an executor that runs its tasks.
* `executeAll_of_completes_taken`, `completes_of_executeAll`: no failure, put off or not, exactly
  when each process ends with the code zero.
* `executeAll_keepGoing`: **an executor that keeps going takes what one that does not takes**, and
  then more.
* `Launcher.traced`, `Launcher.Obedient`: the processes that are started, and that none is once the
  user has stopped the run; `obedient_run` is one step.
-/

namespace Orchestrator

namespace Launcher

variable {ω : Type} (l : Launcher ω)

/-- The world that the processes of some tasks leave. -/
def worldAfter (ts : List Task) (w : ω) : ω :=
  ts.foldl (fun w t => (l.launch t w).world) w

@[simp] theorem worldAfter_cons (t : Task) (ts : List Task) (w : ω) :
    l.worldAfter (t :: ts) w = l.worldAfter ts (l.launch t w).world := rfl

/-- Two lists of processes that are run one behind the other. -/
theorem completes_append (ts us : List Task) (w : ω) :
    l.Completes (ts ++ us) w ↔ l.Completes ts w ∧ l.Completes us (l.worldAfter ts w) := by
  induction ts generalizing w with
  | nil => exact (and_iff_right trivial).symm
  | cons t ts ih =>
    rw [List.cons_append, Completes, Completes, ih, worldAfter_cons]
    simp only [and_assoc]

/-- A task without a program, or after the user has stopped the run, starts no process. -/
theorem run_of_not_started {t : Task} {w : ω}
    (h : ¬ (t.args ≠ [] ∧ l.isCancelled w = false)) : ∃ e, l.run t w = .failed w e := by
  rw [run]
  by_cases hargs : t.args = []
  · refine ⟨.emptyCommand, if_pos ?_⟩
    rw [hargs]
    rfl
  · have hcancelled : l.isCancelled w = true := by
      rw [← Bool.not_eq_false]
      intro hgo
      exact h ⟨hargs, hgo⟩
    refine ⟨.cancelled, ?_⟩
    rw [if_neg (mt List.isEmpty_iff.1 hargs), if_pos hcancelled]

theorem run_of_started {t : Task} {w : ω} (hargs : t.args ≠ []) (hgo : l.isCancelled w = false) :
    l.run t w =
      ⟨(l.launch t w).journal ++ complaint t (l.launch t w).result, (l.launch t w).world,
        l.verdict t (l.launch t w).world (l.launch t w).result⟩ := by
  rw [run, if_neg (mt List.isEmpty_iff.1 hargs), if_neg (Bool.not_eq_true _ ▸ hgo)]

/-- A process did what it was to do exactly when it ended with the code zero. -/
theorem verdict_eq_none_iff (t : Task) (w : ω) (result : Except SpawnError Ending) :
    l.verdict t w result = none ↔ result = .ok (.exited 0) := by
  cases result with
  | error e => exact ⟨fun h => (by cases h), fun h => (by cases h)⟩
  | ok ending =>
    rw [verdict]
    cases ending with
    | killed =>
      refine ⟨fun h => ?_, fun h => (by cases h)⟩
      rw [Ending.succeeded, if_neg Bool.false_ne_true] at h
      split at h <;> cases h
    | exited code =>
      by_cases hcode : code = 0
      · rw [hcode]
        exact ⟨fun _ => rfl, fun _ => rfl⟩
      · have hfailed : (Ending.exited code).succeeded = false := beq_eq_false_iff_ne.2 hcode
        rw [hfailed, if_neg Bool.false_ne_true]
        refine ⟨fun h => ?_, fun h => ?_⟩
        · split at h <;> cases h
        · cases h
          exact absurd rfl hcode

/-- A task runs without an error exactly when it is a process that ends with the code zero. -/
theorem error_run_eq_none_iff (t : Task) (w : ω) :
    (l.run t w).error = none ↔
      t.args ≠ [] ∧ l.isCancelled w = false ∧ (l.launch t w).result = .ok (.exited 0) := by
  by_cases hstarted : t.args ≠ [] ∧ l.isCancelled w = false
  · rw [l.run_of_started hstarted.1 hstarted.2, verdict_eq_none_iff]
    exact ⟨fun h => ⟨hstarted.1, hstarted.2, h⟩, fun h => h.2.2⟩
  · obtain ⟨e, he⟩ := l.run_of_not_started hstarted
    rw [he]
    exact ⟨fun h => (by cases h), fun h => absurd ⟨h.1, h.2.1⟩ hstarted⟩

/-- A task with a program is never said to have none. -/
theorem error_run_ne_emptyCommand {t : Task} (h : t.args ≠ []) (w : ω) :
    (l.run t w).error ≠ some .emptyCommand := by
  by_cases hgo : l.isCancelled w = false
  · rw [l.run_of_started h hgo]
    show l.verdict t _ _ ≠ _
    cases (l.launch t w).result with
    | error e =>
      intro he
      cases he
    | ok ending =>
      rw [verdict]
      split
      · intro he
        cases he
      · split
        · intro he
          cases he
        · intro he
          cases he
  · rw [Bool.not_eq_false] at hgo
    rw [run, if_neg (mt List.isEmpty_iff.1 h), if_pos hgo]
    intro he
    cases he

theorem state_run_of_error_eq_none {t : Task} {w : ω} (h : (l.run t w).error = none) :
    (l.run t w).state = (l.launch t w).world := by
  obtain ⟨hargs, hgo, -⟩ := (l.error_run_eq_none_iff t w).1 h
  rw [l.run_of_started hargs hgo]

end Launcher

namespace Executor

variable {ω : Type} (l : Launcher ω) {keepGoing : Bool}

/-- **What one task can do**: its process succeeds, or its failure is put off, or the executor fails
with the error of the task. -/
theorem execute_immediate_cases (keepGoing : Bool) (t : Task) (n : Nat) (w : ω) :
    let p := l.run t w
    let q := (immediate l keepGoing).execute t ⟨n, w⟩
    (p.error = none ∧ q.error = none ∧ q.state = ⟨n, p.state⟩) ∨
      (p.error ≠ none ∧ keepGoing = true ∧ q.error = none ∧ q.state = ⟨n + 1, p.state⟩) ∨
      (∃ e, p.error = some e ∧ q.error = some e ∧ q.state = ⟨n, p.state⟩) := by
  dsimp only [immediate]
  cases he : (l.run t w).error with
  | none => exact Or.inl ⟨rfl, rfl, rfl⟩
  | some e =>
    refine Or.inr ?_
    cases e with
    | nonZeroExit command code =>
      cases keepGoing with
      | true => exact Or.inl ⟨Option.some_ne_none _, rfl, rfl, rfl⟩
      | false => exact Or.inr ⟨_, rfl, rfl, rfl⟩
    | _ => exact Or.inr ⟨_, rfl, rfl, rfl⟩

theorem error_execute_immediate_ne_emptyCommand {t : Task} (h : t.args ≠ []) (keepGoing : Bool)
    (s : Immediate.State ω) :
    ((immediate l keepGoing).execute t s).error ≠ some .emptyCommand := by
  intro he
  rcases execute_immediate_cases l keepGoing t s.failures s.world with
    ⟨-, hq, -⟩ | ⟨-, -, hq, -⟩ | ⟨e, hp, hq, -⟩
  · cases he.symm.trans hq
  · cases he.symm.trans hq
  · cases he.symm.trans hq
    exact l.error_run_ne_emptyCommand h s.world hp

/-- A task whose process succeeds is taken, whether the executor keeps going or not. -/
theorem execute_immediate_of_error_eq_none {t : Task} {w : ω} (h : (l.run t w).error = none)
    (keepGoing : Bool) (n : Nat) :
    ((immediate l keepGoing).execute t ⟨n, w⟩).error = none ∧
      ((immediate l keepGoing).execute t ⟨n, w⟩).state = ⟨n, (l.run t w).state⟩ := by
  rcases execute_immediate_cases l keepGoing t n w with
    ⟨-, hq, hstate⟩ | ⟨hp, -, -, -⟩ | ⟨e, hp, -, -⟩
  · exact ⟨hq, hstate⟩
  · exact absurd h hp
  · rw [h] at hp
    cases hp

/-- Failures that were put off are not forgotten. -/
theorem le_failures_execute {n : Nat} (t : Task) (s : Immediate.State ω) (h : n ≤ s.failures) :
    n ≤ ((immediate l keepGoing).execute t s).state.failures := by
  obtain ⟨m, w⟩ := s
  rcases execute_immediate_cases l keepGoing t m w with ⟨-, -, hq⟩ | ⟨-, -, -, hq⟩ | ⟨e, -, -, hq⟩
  · rw [hq]
    exact h
  · rw [hq]
    exact Nat.le_succ_of_le h
  · rw [hq]
    exact h

variable {l}

/-- When the tasks that are taken complete, there is no failure, and all tasks are taken. -/
theorem executeAll_of_completes_taken {ts : List Task} {n : Nat} {w : ω}
    (h : l.Completes ((immediate l keepGoing).taken ts ⟨n, w⟩) w) :
    ((immediate l keepGoing).executeAll ts ⟨n, w⟩).error = none ∧
      ((immediate l keepGoing).executeAll ts ⟨n, w⟩).state = ⟨n, l.worldAfter ts w⟩ := by
  induction ts generalizing w with
  | nil => exact ⟨rfl, rfl⟩
  | cons t ts ih =>
    rcases execute_immediate_cases l keepGoing t n w with
      ⟨hp, hq, hstate⟩ | ⟨hp, -, hq, -⟩ | ⟨e, hp, hq, -⟩
    · have hworld := l.state_run_of_error_eq_none hp
      rw [taken_cons_of_none _ hq, hstate, hworld] at h
      rw [executeAll_cons, Progress.andThen_of_none hq, hstate, hworld, Launcher.worldAfter_cons]
      exact ih h.2.2.2
    · rw [taken_cons_of_none _ hq] at h
      exact absurd ((l.error_run_eq_none_iff t w).2 ⟨h.1, h.2.1, h.2.2.1⟩) hp
    · rw [taken_cons_of_some _ hq] at h
      rw [(l.error_run_eq_none_iff t w).2 ⟨h.1, h.2.1, h.2.2.1⟩] at hp
      cases hp

/-- When there is no failure, not even one that was put off, all tasks complete. -/
theorem completes_of_executeAll {ts : List Task} {n : Nat} {w : ω}
    (herror : ((immediate l keepGoing).executeAll ts ⟨n, w⟩).error = none)
    (hfailures : ((immediate l keepGoing).executeAll ts ⟨n, w⟩).state.failures ≤ n) :
    l.Completes ts w := by
  induction ts generalizing w with
  | nil => trivial
  | cons t ts ih =>
    rcases execute_immediate_cases l keepGoing t n w with
      ⟨hp, hq, hstate⟩ | ⟨-, -, hq, hstate⟩ | ⟨e, -, hq, -⟩
    · rw [executeAll_cons, Progress.andThen_of_none hq, hstate,
        l.state_run_of_error_eq_none hp] at herror hfailures
      obtain ⟨hargs, hgo, hzero⟩ := (l.error_run_eq_none_iff t w).1 hp
      exact ⟨hargs, hgo, hzero, ih herror hfailures⟩
    · -- a failure that was put off is counted to the end
      rw [executeAll_cons, Progress.andThen_of_none hq, hstate] at hfailures
      have hcounted := executeAll_preserves (immediate l keepGoing)
        (P := fun s => n + 1 ≤ s.failures) (fun t s => le_failures_execute l t s) ts
        (s := ⟨n + 1, (l.run t w).state⟩) (Nat.le_refl _)
      exact absurd (Nat.le_trans hcounted hfailures) (Nat.not_succ_le_self n)
    · rw [executeAll_cons, Progress.andThen_of_error hq, hq] at herror
      cases herror

/-- **Keeping going only adds work.**  Without a failure both executors end in the same world.
Otherwise what the one that does not keep going takes is the beginning of what the other takes. -/
theorem executeAll_keepGoing (l : Launcher ω) (ts : List Task) (n m : Nat) (w : ω) :
    (((immediate l false).executeAll ts ⟨n, w⟩).error = none ∧
        ((immediate l true).executeAll ts ⟨m, w⟩).error = none ∧
        ((immediate l true).executeAll ts ⟨m, w⟩).state.world =
          ((immediate l false).executeAll ts ⟨n, w⟩).state.world) ∨
      (((immediate l false).executeAll ts ⟨n, w⟩).error ≠ none ∧
        (immediate l false).taken ts ⟨n, w⟩ <+: (immediate l true).taken ts ⟨m, w⟩) := by
  induction ts generalizing w with
  | nil => exact Or.inl ⟨rfl, rfl, rfl⟩
  | cons t ts ih =>
    cases hp : (l.run t w).error with
    | none =>
      obtain ⟨hoff, hoffState⟩ := execute_immediate_of_error_eq_none l hp false n
      obtain ⟨hon, honState⟩ := execute_immediate_of_error_eq_none l hp true m
      rw [executeAll_cons, executeAll_cons, Progress.andThen_of_none hoff,
        Progress.andThen_of_none hon, taken_cons_of_none _ hoff, taken_cons_of_none _ hon,
        hoffState, honState]
      exact (ih (l.run t w).state).imp id fun h => ⟨h.1, List.cons_prefix_cons.2 ⟨rfl, h.2⟩⟩
    | some e =>
      refine Or.inr ?_
      rcases execute_immediate_cases l false t n w with
        ⟨hp', -, -⟩ | ⟨-, hkeep, -, -⟩ | ⟨e', -, hoff, -⟩
      · rw [hp] at hp'
        cases hp'
      · cases hkeep
      · rw [executeAll_cons, Progress.andThen_of_error hoff, taken_cons_of_some _ hoff, hoff]
        refine ⟨Option.some_ne_none _, ?_⟩
        cases hon : ((immediate l true).execute t ⟨m, w⟩).error with
        | none =>
          rw [taken_cons_of_none _ hon]
          exact List.cons_prefix_cons.2 ⟨rfl, List.nil_prefix⟩
        | some e'' =>
          simp only [taken_cons_of_some _ hon, List.prefix_rfl]

end Executor

/-! ## The processes that are started -/

/-- A process that was started, and the world that it left. -/
structure Spawn (ω : Type) where
  task : Task
  world : ω

/-- A world, and the processes that were started in it. -/
structure Trace (ω : Type) where
  spawns : List (Spawn ω)
  world : ω

namespace Launcher

variable {ω : Type} (l : Launcher ω)

/-- The launcher, with the processes traced that it starts. -/
def traced : Launcher (Trace ω) where
  launch t tr :=
    let r := l.launch t tr.world
    ⟨r.journal, ⟨tr.spawns ++ [⟨t, r.world⟩], r.world⟩, r.result⟩
  isCancelled tr := l.isCancelled tr.world

/-- Whether no process was started once the user had stopped the run. -/
structure Obedient (start : ω) (tr : Trace ω) : Prop where
  /-- Only the last process may have left a world in which the user had stopped the run. -/
  earlier : ∀ p ∈ tr.spawns.dropLast, l.isCancelled p.world = false
  /-- While the user has not stopped the run, no process has left such a world. -/
  going : l.isCancelled tr.world = false → ∀ p ∈ tr.spawns, l.isCancelled p.world = false
  /-- When the run was stopped before it began, there is no process. -/
  stopped : l.isCancelled start = true → tr.spawns = [] ∧ l.isCancelled tr.world = true

theorem obedient_start (w : ω) : l.Obedient w ⟨[], w⟩ :=
  ⟨fun _ hp => (by cases hp), fun _ _ hp => (by cases hp), fun h => ⟨rfl, h⟩⟩

variable {l}

/-- One task starts one process, or none when the user has stopped the run. -/
theorem obedient_run {start : ω} {tr : Trace ω} (h : l.Obedient start tr) (t : Task) :
    l.Obedient start (l.traced.run t tr).state := by
  by_cases hstarted : t.args ≠ [] ∧ l.isCancelled tr.world = false
  · obtain ⟨hargs, hgo⟩ := hstarted
    rw [l.traced.run_of_started hargs hgo]
    refine ⟨fun p hp => ?_, fun hgo' p hp => ?_, fun hstart => ?_⟩
    · rw [traced, List.dropLast_concat] at hp
      exact h.going hgo p hp
    · rcases List.mem_append.1 hp with hp | hp
      · exact h.going hgo p hp
      · rw [List.mem_singleton.1 hp]
        exact hgo'
    · rw [(h.stopped hstart).2] at hgo
      cases hgo
  · obtain ⟨e, he⟩ := l.traced.run_of_not_started hstarted
    rw [he]
    exact h

/-- So do executors that run their tasks, whether they keep going or not. -/
theorem obedient_execute {start : ω} {keepGoing : Bool} (t : Task)
    (s : Executor.Immediate.State (Trace ω)) (h : l.Obedient start s.world) :
    l.Obedient start ((Executor.immediate l.traced keepGoing).execute t s).state.world := by
  obtain ⟨n, tr⟩ := s
  rcases Executor.execute_immediate_cases l.traced keepGoing t n tr with
    ⟨-, -, hq⟩ | ⟨-, -, -, hq⟩ | ⟨e, -, -, hq⟩
  · rw [hq]
    exact obedient_run h t
  · rw [hq]
    exact obedient_run h t
  · rw [hq]
    exact obedient_run h t

end Launcher
end Orchestrator
