import Orchestrator.Proofs.Execution.Delivery

/-!
# Watching executors and processes

To say which tasks an executor is handed, one watches it: the watched executor keeps the list of the
tasks that it was handed beside the state of the other, and does nothing else.  A launcher is
watched in the same way, for the tasks whose process it starts.

* `Executor.watched`, `Launcher.watched`: with `Watch` as their state.
* `Executor.taken`: the tasks of a list up to and including the first that is refused, which
  `executeAll_watched` finds in the watch.
* `Executor.FirstError`: an executor refuses its first task at a certain place of a list; what is
  taken then is `taken_of_firstError`.
* `Launcher.Completes`: each task of a list runs as a process that ends with the code zero; then
  `Completes.executeAll_immediate` starts exactly these.
* `executeAll_reporting`: a dry run reports every task.
-/

namespace Orchestrator

/-- A state, and the tasks that came by. -/
structure Watch (σ : Type) where
  tasks : List Task
  state : σ

namespace Executor

variable {σ : Type} (x : Executor σ)

/-- The executor, watched for the tasks that it is handed. -/
def watched : Executor (Watch σ) where
  execute t w :=
    let p := x.execute t w.state
    ⟨p.journal, ⟨w.tasks ++ [t], p.state⟩, p.error⟩
  finish w :=
    let p := x.finish w.state
    ⟨p.journal, ⟨w.tasks, p.state⟩, p.error⟩

/-- The tasks that an executor takes of a list, the one that it refuses included. -/
def taken : List Task → σ → List Task
  | [], _ => []
  | t :: ts, s =>
    match (x.execute t s).error with
    | some _ => [t]
    | none => t :: taken ts (x.execute t s).state

theorem taken_cons_of_some {t : Task} {s : σ} {e : ExecutionError}
    (h : (x.execute t s).error = some e) (ts : List Task) : x.taken (t :: ts) s = [t] := by
  rw [taken, h]

theorem taken_cons_of_none {t : Task} {s : σ} (h : (x.execute t s).error = none)
    (ts : List Task) : x.taken (t :: ts) s = t :: x.taken ts (x.execute t s).state := by
  rw [taken, h]

/-- What is taken of a list is in the list. -/
theorem mem_of_mem_taken {t : Task} {ts : List Task} {s : σ} (h : t ∈ x.taken ts s) : t ∈ ts := by
  induction ts generalizing s with
  | nil => cases h
  | cons u us ih =>
    cases he : (x.execute u s).error with
    | some e =>
      rw [x.taken_cons_of_some he, List.mem_singleton] at h
      rw [h]
      exact List.mem_cons_self
    | none =>
      rw [x.taken_cons_of_none he] at h
      rcases List.mem_cons.1 h with rfl | h
      · exact List.mem_cons_self
      · exact List.mem_cons_of_mem u (ih h)

/-- Watching changes nothing but the watch. -/
theorem executeAll_watched (ts before : List Task) (s : σ) :
    x.watched.executeAll ts ⟨before, s⟩ =
      ⟨(x.executeAll ts s).journal, ⟨before ++ x.taken ts s, (x.executeAll ts s).state⟩,
        (x.executeAll ts s).error⟩ := by
  induction ts generalizing before s with
  | nil =>
    show Progress.done _ = _
    rw [taken, List.append_nil]
    rfl
  | cons t ts ih =>
    rw [executeAll_cons, executeAll_cons]
    cases he : (x.execute t s).error with
    | some e =>
      -- the refused task is in the watch, and the last one there
      have hwatched : (x.watched.execute t ⟨before, s⟩).error = some e := he
      rw [Progress.andThen_of_error he, Progress.andThen_of_error hwatched,
        x.taken_cons_of_some he]
      rfl
    | none =>
      have hwatched : (x.watched.execute t ⟨before, s⟩).error = none := he
      rw [Progress.andThen_of_none he, Progress.andThen_of_none hwatched,
        x.taken_cons_of_none he]
      show (x.watched.executeAll ts ⟨before ++ [t], (x.execute t s).state⟩).after _ = _
      rw [ih, List.append_assoc]
      rfl

theorem taken_append {ts : List Task} (us : List Task) {s : σ}
    (h : (x.executeAll ts s).error = none) :
    x.taken (ts ++ us) s = ts ++ x.taken us (x.executeAll ts s).state := by
  induction ts generalizing s with
  | nil => rfl
  | cons t ts ih =>
    rw [executeAll_cons] at h ⊢
    cases he : (x.execute t s).error with
    | some e =>
      rw [Progress.andThen_of_error he, he] at h
      cases h
    | none =>
      rw [Progress.andThen_of_none he] at h ⊢
      rw [List.cons_append, x.taken_cons_of_none he, List.cons_append]
      exact congrArg (t :: ·) (ih h)

/-- An executor that has no error takes all tasks. -/
theorem taken_of_error_none {ts : List Task} {s : σ} (h : (x.executeAll ts s).error = none) :
    x.taken ts s = ts := by
  have happend := x.taken_append [] h
  rwa [taken, List.append_nil] at happend

/-- An executor that is handed a list of tasks takes the first `n` of them and answers the next one,
if there is one, with an error. -/
structure FirstError (ts : List Task) (s : σ) (n : Nat) (e : ExecutionError) : Prop where
  /-- The tasks before number `n` are taken. -/
  accepts : (x.executeAll (ts.take n) s).error = none
  /-- Task number `n` is refused. -/
  refuses : ∀ t, ts[n]? = some t →
    (x.execute t (x.executeAll (ts.take n) s).state).error = some e

variable {x} {ts : List Task} {s : σ} {n : Nat} {e : ExecutionError}

/-- When there is no task number `n`, all tasks are taken. -/
theorem FirstError.error_eq_none (h : x.FirstError ts s n e) (hn : ts.length ≤ n) :
    (x.executeAll ts s).error = none := by
  have haccepts := h.accepts
  rwa [List.take_of_length_le hn] at haccepts

/-- When there is a task number `n`, the list comes apart at it. -/
theorem FirstError.exists_refused (h : x.FirstError ts s n e) (hn : n < ts.length) :
    ∃ t us, ts = ts.take n ++ t :: us ∧ ts.take (n + 1) = ts.take n ++ [t] ∧
      (x.execute t (x.executeAll (ts.take n) s).state).error = some e := by
  refine ⟨ts[n], ts.drop (n + 1), ?_, ?_, h.refuses ts[n] (List.getElem?_eq_getElem hn)⟩
  · rw [← List.drop_eq_getElem_cons hn, List.take_append_drop]
  · rw [List.take_append_getElem]

/-- The error at task number `n` is the error of the whole list. -/
theorem FirstError.error_eq_some (h : x.FirstError ts s n e) (hn : n < ts.length) :
    (x.executeAll ts s).error = some e := by
  obtain ⟨t, us, hsplit, -, hrefuses⟩ := h.exists_refused hn
  rw [hsplit, executeAll_append, Progress.andThen_of_none h.accepts, executeAll_cons,
    Progress.andThen_of_error hrefuses]
  exact hrefuses

/-- Exactly the tasks up to and including number `n` are taken. -/
theorem taken_of_firstError (h : x.FirstError ts s n e) (hn : n < ts.length) :
    x.taken ts s = ts.take (n + 1) := by
  obtain ⟨t, us, hsplit, htake, hrefuses⟩ := h.exists_refused hn
  calc x.taken ts s = x.taken (ts.take n ++ t :: us) s := by rw [← hsplit]
    _ = ts.take n ++ [t] := by
      rw [x.taken_append _ h.accepts, x.taken_cons_of_some hrefuses]
    _ = ts.take (n + 1) := htake.symm

/-- A dry run reports every task, and takes it. -/
theorem executeAll_reporting (ts : List Task) (n : Nat) :
    reporting.executeAll ts n =
      ⟨ts.map fun t => .out (reportLines t), n + ts.length, none⟩ := by
  induction ts generalizing n with
  | nil => rfl
  | cons t ts ih =>
    rw [executeAll_cons, Progress.andThen_of_none rfl]
    show (reporting.executeAll ts (n + 1)).after _ = _
    rw [ih, Nat.add_right_comm, Nat.add_assoc, List.length_cons]
    rfl

end Executor

/-! ## Processes -/

namespace Launcher

variable {ω : Type} (l : Launcher ω)

/-- The launcher, watched for the tasks whose process it starts. -/
def watched : Launcher (Watch ω) where
  launch t w :=
    let r := l.launch t w.state
    ⟨r.journal, ⟨w.tasks ++ [t], r.world⟩, r.result⟩
  isCancelled w := l.isCancelled w.state

/-- Whether each task of a list, one run after the other, is a process that ends with the code
zero. -/
def Completes : List Task → ω → Prop
  | [], _ => True
  | t :: ts, w =>
    t.args ≠ [] ∧ l.isCancelled w = false ∧ (l.launch t w).result = .ok (.exited 0) ∧
      Completes ts (l.launch t w).world

variable {l}

theorem run_watched {t : Task} {w : ω} (hargs : t.args ≠ []) (hgo : l.isCancelled w = false)
    (hzero : (l.launch t w).result = .ok (.exited 0)) (before : List Task) :
    l.watched.run t ⟨before, w⟩ =
      ⟨(l.launch t w).journal, ⟨before ++ [t], (l.launch t w).world⟩, none⟩ := by
  have hempty : t.args.isEmpty = false := by
    rw [← Bool.not_eq_true, List.isEmpty_iff]
    exact hargs
  have hcancelled : l.watched.isCancelled ⟨before, w⟩ = false := hgo
  have hlaunch : l.watched.launch t ⟨before, w⟩ =
      ⟨(l.launch t w).journal, ⟨before ++ [t], (l.launch t w).world⟩, .ok (.exited 0)⟩ := by
    rw [← hzero]
    rfl
  rw [run, hempty, hcancelled, hlaunch]
  show (⟨(l.launch t w).journal ++ [], _, none⟩ : Progress ExecutionError (Watch ω)) = _
  rw [List.append_nil]

/-- A real run in which each process ends with the code zero starts one for each task. -/
theorem Completes.executeAll_immediate {ts : List Task} {w : ω} (h : l.Completes ts w)
    (keepGoing : Bool) (failures : Nat) (before : List Task) :
    ((Executor.immediate l.watched keepGoing).executeAll ts ⟨failures, ⟨before, w⟩⟩).error = none ∧
      ((Executor.immediate l.watched keepGoing).executeAll ts
        ⟨failures, ⟨before, w⟩⟩).state.world.tasks = before ++ ts := by
  induction ts generalizing w before with
  | nil => exact ⟨rfl, (List.append_nil before).symm⟩
  | cons t ts ih =>
    obtain ⟨hargs, hgo, hzero, hrest⟩ := h
    have hexecute : (Executor.immediate l.watched keepGoing).execute t ⟨failures, ⟨before, w⟩⟩ =
        ⟨.out ("→ " ++ t.render ++ "\n") :: (l.launch t w).journal,
          ⟨failures, ⟨before ++ [t], (l.launch t w).world⟩⟩, none⟩ := by
      simp only [Executor.immediate, run_watched hargs hgo hzero]
    rw [Executor.executeAll_cons, hexecute, Progress.andThen_of_none rfl]
    obtain ⟨herror, htasks⟩ := ih hrest (before ++ [t])
    rw [List.append_assoc] at htasks
    exact ⟨herror, htasks⟩

end Launcher
end Orchestrator
