import Orchestrator.Proofs.Resolution.Forwarding
import Orchestrator.Proofs.Resolution.Preparation

/-!
# Executors do not influence resolution

Which tasks a resolution hands over, and how it ends, does not depend on the executor, as long as
the executor takes what it is handed.  An executor that refuses a task cuts the resolution short at
this task, and that is all it can do: the commands that a plugin wraps are resolved into a list of
their own, which refuses nothing, so that the error of an executor never stands inside that of a
plugin.

* `DispatchError.ConcernsExecution`: an executor caused the error, at whatever depth.
* `Outcome.Planned`: nothing in an outcome comes from an executor; outcomes of leaves are such.
* `independent_of_executor`: **resolution is independent of the executor**.  An executor sees a
  prefix of the tasks that one that never fails sees, and a dry run reports what a real run starts.
-/

namespace Orchestrator

/-- Whether an error comes from an executor, inside plugins or not. -/
def DispatchError.ConcernsExecution : DispatchError → Prop
  | .execution _ => True
  | .within _ e => e.ConcernsExecution
  | _ => False

/-! ## Outcomes without an executor -/

namespace Outcome

variable {α β : Type}

/-- Whether nothing in an outcome comes from an executor: its error does not concern the execution,
and its journal prints nothing. -/
structure Planned (o : Outcome DispatchError α) : Prop where
  error : ∀ e, o.result = .error e → ¬ e.ConcernsExecution
  silent : o.journal.filterMap Entry.out? = []

theorem planned_ok (a : α) : (ok a : Outcome DispatchError α).Planned :=
  ⟨fun _ h => (by cases h), rfl⟩

theorem planned_error {e : DispatchError} (h : ¬ e.ConcernsExecution) :
    (Outcome.error e : Outcome DispatchError α).Planned := by
  refine ⟨fun e' he => ?_, rfl⟩
  cases he
  exact h

variable {o : Outcome DispatchError α}

theorem Planned.after (h : o.Planned) {j : List Entry} (hj : j.filterMap Entry.out? = []) :
    (o.after j).Planned := by
  refine ⟨h.error, ?_⟩
  rw [Outcome.after, List.filterMap_append, hj, h.silent]
  rfl

theorem Planned.map (h : o.Planned) (g : α → β) : (o.map g).Planned := by
  obtain ⟨j, r⟩ := o
  refine ⟨fun e he => h.error e ?_, h.silent⟩
  cases r with
  | error e' =>
    cases he
    rfl
  | ok a => cases he

theorem Planned.andThen {next : α → Outcome DispatchError β} (h : o.Planned)
    (hnext : ∀ a, o.result = .ok a → (next a).Planned) : (o.andThen next).Planned := by
  obtain ⟨j, r⟩ := o
  cases r with
  | error e =>
    refine ⟨fun e' he => h.error e' ?_, h.silent⟩
    cases he
    rfl
  | ok a => exact (hnext a rfl).after h.silent

/-- An error inside a plugin concerns the execution only if it does so without the plugin. -/
theorem Planned.within (h : o.Planned) (plugin : String) :
    (o.mapError (.within plugin)).Planned := by
  obtain ⟨j, r⟩ := o
  refine ⟨fun e he => ?_, h.silent⟩
  cases r with
  | error e' =>
    cases he
    exact h.error e' rfl
  | ok a => cases he

theorem planned_concat {os : List (Outcome DispatchError (List α))} (h : ∀ o ∈ os, o.Planned) :
    (concat os).Planned := by
  induction os with
  | nil => exact planned_ok []
  | cons o os ih =>
    refine (h o List.mem_cons_self).andThen fun as _ => ?_
    exact (ih fun p hp => h p (List.mem_cons_of_mem o hp)).map _

end Outcome

/-! ## Leaves are planned -/

/-- A plugin that has no plan selects a pattern that is not registered or has a fault of its own,
and it prints nothing. -/
theorem Configuration.planned_prepare (cfg : Configuration) (f : Frame) (p : Plugin)
    (task : Task) : (cfg.prepare f p task).Planned := by
  refine ⟨fun e he => ?_, List.filterMap_eq_nil_iff.2 fun e he => ?_⟩
  · rcases error_prepare_cases he with ⟨key, rfl⟩ | ⟨fault, rfl⟩ <;> exact id
  · rcases mem_journal_prepare_cases he with ⟨m, rfl⟩ | ⟨patterns, -, rfl⟩ <;> rfl

/-- **Nothing in what comes of a leaf comes from an executor**, at any depth: a plugin has what its
steps have, and the commands in them are collected. -/
theorem Leaf.planned_outcome (cfg : Configuration) (task : Task) (l : Leaf) :
    (l.outcome cfg task).Planned := by
  induction l using cfg.leaf_induction generalizing task with
  | unknown name =>
    rw [outcome_unknown]
    exact Outcome.planned_error id
  | cyclic chain =>
    rw [outcome_cyclic]
    exact Outcome.planned_error id
  | application f p ih =>
    rw [outcome_application]
    refine (cfg.planned_prepare f p task).andThen fun steps _ => ?_
    refine Outcome.planned_concat fun o ho => ?_
    obtain ⟨step, -, rfl⟩ := List.mem_map.1 ho
    cases step with
    | emit t => exact Outcome.planned_ok [t]
    | resolve commands t =>
      refine (Outcome.planned_concat fun o ho => ?_).within p.name
      obtain ⟨l, hl, rfl⟩ := List.mem_map.1 ho
      exact ih commands l hl t

theorem Configuration.planned_of_mem_outcomes {cfg : Configuration} {f : Frame} {task : Task}
    {names : List String} {o : Outcome DispatchError (List Task)}
    (h : o ∈ cfg.outcomes f task names) : o.Planned := by
  obtain ⟨l, -, rfl⟩ := List.mem_map.1 h
  exact l.planned_outcome cfg task

/-! ## Runs side by side -/

section

variable {σ : Type} (cfg : Configuration) (f : Frame) (task : Task) (commands : List String)

/-- The delivered tasks of some commands, which an executor that never fails is handed. -/
abbrev Configuration.tasks : List Task :=
  Outcome.delivered (cfg.outcomes f task commands)

/-- An executor whose first error is at task number `n` is handed the tasks up to this one, and its
error is the error of the resolution. -/
theorem run_of_firstError {x : Executor σ} {s : σ} {n : Nat} {e : ExecutionError}
    (h : x.FirstError (cfg.tasks f task commands) s n e)
    (hn : n < (cfg.tasks f task commands).length) :
    handed cfg x f task commands s = (cfg.tasks f task commands).take (n + 1) ∧
      (executeCommands cfg x f task commands s).error = some (.execution e) := by
  refine ⟨?_, ?_⟩
  · rw [handed_eq]
    exact x.taken_of_firstError h hn
  · rw [error_executeCommands, h.error_eq_some hn]
    rfl

/-- An executor that refuses none of the tasks is handed all of them, and the error of the
resolution is that of the leaves. -/
theorem run_of_error_none {x : Executor σ} {s : σ}
    (h : (x.executeAll (cfg.tasks f task commands) s).error = none) :
    handed cfg x f task commands s = cfg.tasks f task commands ∧
      (executeCommands cfg x f task commands s).error =
        Outcome.firstError (cfg.outcomes f task commands) := by
  refine ⟨?_, ?_⟩
  · rw [handed_eq]
    exact x.taken_of_error_none h
  · rw [error_executeCommands, h]
    rfl

theorem not_concernsExecution_of_firstError {e : DispatchError}
    (h : Outcome.firstError (cfg.outcomes f task commands) = some e) : ¬ e.ConcernsExecution := by
  obtain ⟨o, ho, he⟩ := Outcome.exists_of_firstError h
  exact (Configuration.planned_of_mem_outcomes ho).error e he

/-- A dry run prints the announcements of the tasks, and nothing else. -/
theorem output_reporting (count : Nat) :
    Entry.output (executeCommands cfg .reporting f task commands count).journal =
      String.join ((cfg.tasks f task commands).map Executor.reportLines) := by
  have hsilent : ∀ o ∈ cfg.outcomes f task commands, o.journal.filterMap Entry.out? = [] :=
    fun o ho => (Configuration.planned_of_mem_outcomes ho).silent
  have hquiet := congrArg (fun p => Entry.output p.journal)
    (quiet_executeCommands cfg f .reporting task commands count)
  calc Entry.output (executeCommands cfg .reporting f task commands count).journal
    _ = Entry.output (executeCommands cfg .reporting f task commands count).quiet.journal :=
      (Entry.output_unlogged _).symm
    _ = Entry.output (Executor.reporting.deliver (cfg.outcomes f task commands) count).journal :=
      hquiet.trans (Entry.output_unlogged _)
    _ = String.join ((cfg.tasks f task commands).map Executor.reportLines) := by
      rw [Entry.output, Executor.printed_deliver .reporting hsilent, Executor.executeAll_reporting,
        List.filterMap_map, ← List.filterMap_eq_map]
      rfl

/-- A real run in which each process ends with the code zero starts one for each task, in order, and
ends with the error of the leaves. -/
theorem run_of_completes {ω : Type} {l : Launcher ω} {w : ω}
    (h : l.Completes (cfg.tasks f task commands) w) (keepGoing : Bool) :
    (executeCommands cfg (Executor.immediate l.watched keepGoing) f task commands
        (.initial ⟨[], w⟩)).state.world.tasks = cfg.tasks f task commands ∧
      (executeCommands cfg (Executor.immediate l.watched keepGoing) f task commands
        (.initial ⟨[], w⟩)).error = Outcome.firstError (cfg.outcomes f task commands) := by
  obtain ⟨herror, htasks⟩ := h.executeAll_immediate keepGoing 0 []
  refine ⟨?_, (run_of_error_none cfg f task commands herror).2⟩
  rw [state_executeCommands]
  exact htasks

/-- **Resolution is independent of the executor.**  Let an executor that never fails be handed some
tasks.  One whose first error is at task number `n` of these is handed them up to this task, and its
error is that of the resolution, inside no plugin; if there is no such task, it is handed all of
them, and the resolution ends as without it.  No error without an executor concerns the execution.
A dry run prints exactly these tasks, and a real run in which each process ends with the code zero
starts exactly these. -/
theorem independent_of_executor {y : Executor σ} (hy : y.NeverFails) (u : σ) {tasks : List Task}
    {error : Option DispatchError} (htasks : handed cfg y f task commands u = tasks)
    (herror : (executeCommands cfg y f task commands u).error = error) :
    (∀ {τ : Type} (x : Executor τ) (s : τ) (n : Nat) (e : ExecutionError),
      x.FirstError tasks s n e →
        (n < tasks.length → handed cfg x f task commands s = tasks.take (n + 1) ∧
          (executeCommands cfg x f task commands s).error = some (.execution e)) ∧
        (tasks.length ≤ n → handed cfg x f task commands s = tasks ∧
          (executeCommands cfg x f task commands s).error = error)) ∧
      (∀ e, error = some e → ¬ e.ConcernsExecution) ∧
      (∀ count, handed cfg .reporting f task commands count = tasks ∧
        Entry.output (executeCommands cfg .reporting f task commands count).journal =
          String.join (tasks.map Executor.reportLines) ∧
        (executeCommands cfg .reporting f task commands count).error = error) ∧
      (∀ {ω : Type} (l : Launcher ω) (w : ω) (keepGoing : Bool), l.Completes tasks w →
        (executeCommands cfg (Executor.immediate l.watched keepGoing) f task commands
            (.initial ⟨[], w⟩)).state.world.tasks = tasks ∧
          (executeCommands cfg (Executor.immediate l.watched keepGoing) f task commands
            (.initial ⟨[], w⟩)).error = error) := by
  -- neither the tasks nor the error mentions an executor any more
  rw [handed_of_neverFails cfg f task commands u hy] at htasks
  rw [error_of_neverFails cfg f task commands u hy] at herror
  subst htasks herror
  refine ⟨fun x s n e hx => ⟨?_, fun hn => ?_⟩, fun e he => ?_, fun count => ⟨?_, ?_, ?_⟩, ?_⟩
  · exact run_of_firstError cfg f task commands hx
  · exact run_of_error_none cfg f task commands (hx.error_eq_none hn)
  · exact not_concernsExecution_of_firstError cfg f task commands he
  · exact handed_of_neverFails cfg f task commands count fun _ _ => rfl
  · exact output_reporting cfg f task commands count
  · exact error_of_neverFails cfg f task commands count fun _ _ => rfl
  · intro ω l w keepGoing h
    exact run_of_completes cfg f task commands h keepGoing

/-- An executor that refuses its first task, beside a collector, on two commands and a name that
stands for nothing; and processes that all end with the code zero. -/
theorem independent_of_executor_failFast :
    let base := Task.ofArgs ["base"]
    let commands := ["first", "first", "nothing"]
    let refusing := Executor.scripted (fun i _ => if i = 0 then some .cancelled else none) none
    let exiting : Launcher Unit := ⟨fun _ _ => ⟨[], (), .ok (.exited 0)⟩, fun _ => false⟩
    Executor.collector.NeverFails ∧
      handed failFast .collector .root base commands [] = [base, base] ∧
      (executeCommands failFast .collector .root base commands []).error =
        some (.unknownCommand "nothing") ∧
      refusing.FirstError [base, base] .initial 0 .cancelled ∧
      handed failFast refusing .root base commands .initial = [base] ∧
      (executeCommands failFast refusing .root base commands .initial).error =
        some (.execution .cancelled) ∧
      exiting.Completes [base, base] () ∧
      (executeCommands failFast (Executor.immediate exiting.watched false) .root base commands
        (.initial ⟨[], ()⟩)).state.world.tasks = [base, base] := by
  intro base commands refusing exiting
  have hnever : Executor.collector.NeverFails := fun _ _ => rfl
  have hfirst : failFast.referent Frame.root "first" = .plugin (.memory "first" false) := rfl
  have hnothing : failFast.referent Frame.root "nothing" = .unknown := rfl
  have hone : ((Leaf.application (Frame.root.pushed "first") (.memory "first" false)).outcome
      failFast base).result = .ok [base] := Leaf.result_outcome_of_emit rfl
  have houtcomes : failFast.outcomes .root base commands =
      [(Leaf.application (Frame.root.pushed "first") (.memory "first" false)).outcome failFast
          base,
        (Leaf.application (Frame.root.pushed "first") (.memory "first" false)).outcome failFast
          base,
        .error (.unknownCommand "nothing")] := by
    rw [Configuration.outcomes, Configuration.leaves_cons, Configuration.leaves_cons,
      Configuration.leaves_cons, Configuration.leaves_nil, Configuration.leavesOf_eq, hfirst,
      Configuration.leavesOf_eq, hnothing, ← Leaf.outcome_unknown failFast base]
    rfl
  have htasks : handed failFast .collector .root base commands [] = [base, base] := by
    rw [handed_of_neverFails failFast .root base commands [] hnever, houtcomes,
      Outcome.delivered_cons_of_ok hone, Outcome.delivered_cons_of_ok hone,
      Outcome.delivered_cons_of_error rfl]
    rfl
  have herror : (executeCommands failFast .collector .root base commands []).error =
      some (.unknownCommand "nothing") := by
    rw [error_of_neverFails failFast .root base commands [] hnever, houtcomes,
      Outcome.firstError_cons_of_ok hone, Outcome.firstError_cons_of_ok hone,
      Outcome.firstError_cons_of_error rfl]
  have hrefuses : refusing.FirstError [base, base] .initial 0 .cancelled := ⟨rfl, fun _ _ => rfl⟩
  have hargs : base.args ≠ [] := List.cons_ne_nil "base" []
  have hcompletes : exiting.Completes [base, base] () :=
    ⟨hargs, rfl, rfl, hargs, rfl, rfl, trivial⟩
  obtain ⟨hrefused, -, -, hcompleted⟩ :=
    independent_of_executor failFast .root base commands hnever [] htasks herror
  obtain ⟨hhanded, hexecution⟩ :=
    (hrefused refusing .initial 0 .cancelled hrefuses).1 (Nat.zero_lt_succ 1)
  exact ⟨hnever, htasks, herror, hrefuses, hhanded, hexecution, hcompletes,
    (hcompleted exiting () false hcompletes).1⟩

end
end Orchestrator
