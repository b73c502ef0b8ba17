import Orchestrator.Proofs.Execution.Watch
import Orchestrator.Proofs.Resolution.Leaves

/-!
# What resolution forwards

An executor sees of a resolution the tasks that it is handed, in order, and the error in the end.
Both can be read off the outcomes of the leaves.

* `handed`: the tasks that an executor is handed; it is watched for them.
* `handed_eq`, `error_executeCommands`: for any executor, what it takes of the delivered tasks, and
  its own error before the first error of the leaves.
* `forwards_leaves`: **under an executor that never fails, resolution forwards the tasks of the
  leaves before the first one that fails**, all of them and in order, and ends with the error of
  that leaf; no plugin is applied after it.
-/

namespace Orchestrator

section

variable {σ : Type} (cfg : Configuration) (x : Executor σ) (f : Frame) (task : Task)
  (commands : List String) (s : σ)

/-- The tasks that an executor is handed when commands are resolved, in order, the one that it
refuses included. -/
def handed : List Task :=
  (executeCommands cfg x.watched f task commands ⟨[], s⟩).state.tasks

/-- An executor ends in the state in which it ends on the delivered tasks. -/
theorem state_executeCommands :
    (executeCommands cfg x f task commands s).state =
      (x.executeAll (Outcome.delivered (cfg.outcomes f task commands)) s).state := by
  have h := congrArg Progress.state (quiet_executeCommands cfg f x task commands s)
  exact h.trans (x.state_deliver _ s)

/-- The error of an executor on the delivered tasks comes before the first error of a leaf, and is
not wrapped into anything. -/
theorem error_executeCommands :
    (executeCommands cfg x f task commands s).error =
      ((x.executeAll (Outcome.delivered (cfg.outcomes f task commands)) s).error.map
        .execution).or (Outcome.firstError (cfg.outcomes f task commands)) := by
  have h := congrArg Progress.error (quiet_executeCommands cfg f x task commands s)
  exact h.trans (x.error_deliver _ s)

/-- The applications on record are those of the delivery. -/
theorem applications_executeCommands :
    Entry.applications (executeCommands cfg x f task commands s).journal =
      Entry.applications (x.deliver (cfg.outcomes f task commands) s).journal := by
  have h := congrArg Progress.journal (quiet_executeCommands cfg f x task commands s)
  rw [← Entry.applications_unlogged]
  exact (congrArg Entry.applications h).trans (Entry.applications_unlogged _)

/-- An executor is handed what it takes of the delivered tasks. -/
theorem handed_eq :
    handed cfg x f task commands s =
      x.taken (Outcome.delivered (cfg.outcomes f task commands)) s := by
  rw [handed, state_executeCommands, Executor.executeAll_watched]
  exact List.nil_append _

variable {x}

theorem handed_of_neverFails (hx : x.NeverFails) :
    handed cfg x f task commands s = Outcome.delivered (cfg.outcomes f task commands) := by
  rw [handed_eq]
  exact x.taken_of_error_none (hx.executeAll _ s)

theorem error_of_neverFails (hx : x.NeverFails) :
    (executeCommands cfg x f task commands s).error =
      Outcome.firstError (cfg.outcomes f task commands) := by
  rw [error_executeCommands, hx.executeAll]
  rfl

/-- **Resolution forwards its leaves.**  Under an executor that never fails, the tasks that are
handed over are the complete lists of the leaves before the first one that fails.  There is an error
exactly when a leaf fails, and it is that of the first such leaf.  Plugins are applied for the
leaves up to and including this one, and for no later leaf. -/
theorem forwards_leaves (hx : x.NeverFails) :
    handed cfg x f task commands s = Outcome.delivered (cfg.outcomes f task commands) ∧
      (executeCommands cfg x f task commands s).error =
        Outcome.firstError (cfg.outcomes f task commands) ∧
      ((executeCommands cfg x f task commands s).error = none ↔
        ∀ l ∈ cfg.leaves f commands, (l.outcome cfg task).succeeded) ∧
      (x.AppliesNothing →
        Entry.applications (executeCommands cfg x f task commands s).journal =
          (Outcome.reached (cfg.outcomes f task commands)).flatMap fun o =>
            Entry.applications o.journal) := by
  refine ⟨handed_of_neverFails cfg f task commands s hx,
    error_of_neverFails cfg f task commands s hx, ?_, fun hnothing => ?_⟩
  · rw [error_of_neverFails cfg f task commands s hx, Outcome.firstError_eq_none_iff,
      Configuration.outcomes, List.forall_mem_map]
  · -- the journals agree up to log messages, which record no application
    have h := congrArg Progress.journal (quiet_executeCommands cfg f x task commands s)
    rw [← Executor.applications_deliver hx hnothing, ← Entry.applications_unlogged]
    exact (congrArg Entry.applications h).trans (Entry.applications_unlogged _)

/-- A command in which a wrapper fails between two applications of a plugin. -/
def failFast : Configuration where
  options := default
  settings := .node Names.root
    [.node "build" [.leaf "first", .leaf "valgrind", .leaf "first"],
      .node "valgrind" [.node Names.runCommand [.leaf "first", .leaf "second"]]]
  patterns := .empty
  plugins := ((PluginRegistry.empty.register (.memory "first" false)).register
    (.memory "second" true)).register (.builtIn .valgrind)

/-- The wrapper has a task when it fails, which is not handed over; nor is anything that comes
after it. -/
theorem forwards_leaves_failFast :
    Executor.collector.NeverFails ∧
      handed failFast Executor.collector Frame.root (Task.ofArgs ["base"]) ["build"] [] =
        [Task.ofArgs ["base"]] ∧
      (executeCommands failFast Executor.collector Frame.root (Task.ofArgs ["base"]) ["build"]
        []).error = some (.within "valgrind" (.fault "second" (.toldToFail "second"))) := by
  have hnever : Executor.collector.NeverFails := fun _ _ => rfl
  obtain ⟨hhanded, herror, -, -⟩ :=
    forwards_leaves failFast Frame.root (Task.ofArgs ["base"]) ["build"] [] hnever
  let inner : Frame := ⟨["build"], some "build"⟩
  let wrapped : Frame := ⟨["build", "valgrind"], some "build"⟩
  -- what the five names stand for where they occur
  have hbuild : failFast.referent Frame.root "build" = .values ["first", "valgrind", "first"] := rfl
  have hfirst : failFast.referent inner "first" = .plugin (.memory "first" false) := rfl
  have hvalgrind : failFast.referent inner "valgrind" = .plugin (.builtIn .valgrind) := rfl
  have hfirst' : failFast.referent wrapped "first" = .plugin (.memory "first" false) := rfl
  have hsecond' : failFast.referent wrapped "second" = .plugin (.memory "second" true) := rfl
  have hwrapped : (Outcome.concat (failFast.outcomes wrapped (Task.ofArgs ["base", "valgrind"])
      ["first", "second"])).result = .error (.fault "second" (.toldToFail "second")) := by
    rw [Configuration.outcomes_cons, Configuration.outcomes_cons, Configuration.leavesOf_eq,
      hfirst', Configuration.leavesOf_eq, hsecond', Configuration.outcomes_nil]
    simp only [List.map_cons, List.map_nil, List.cons_append, List.nil_append, Outcome.concat_cons]
    rw [Outcome.andThen, Leaf.result_outcome_of_emit (t := Task.ofArgs ["base", "valgrind"]) rfl]
    simp only [Outcome.map, Outcome.andThen]
    rw [Leaf.result_outcome_of_error (e := .fault "second" (.toldToFail "second")) rfl]
    rfl
  have hone : ((Leaf.application (inner.pushed "first") (.memory "first" false)).outcome failFast
      (Task.ofArgs ["base"])).result = .ok [Task.ofArgs ["base"]] :=
    Leaf.result_outcome_of_emit rfl
  have htwo : ((Leaf.application wrapped (.builtIn .valgrind)).outcome failFast
      (Task.ofArgs ["base"])).result =
        .error (.within "valgrind" (.fault "second" (.toldToFail "second"))) :=
    Leaf.result_outcome_of_resolve rfl hwrapped
  have houtcomes : failFast.outcomes Frame.root (Task.ofArgs ["base"]) ["build"] =
      [(Leaf.application (inner.pushed "first") (.memory "first" false)).outcome failFast
          (Task.ofArgs ["base"]),
        (Leaf.application wrapped (.builtIn .valgrind)).outcome failFast (Task.ofArgs ["base"]),
        (Leaf.application (inner.pushed "first") (.memory "first" false)).outcome failFast
          (Task.ofArgs ["base"])] := by
    rw [Configuration.outcomes, Configuration.leaves_cons, Configuration.leavesOf_eq, hbuild]
    show (failFast.leaves inner _ ++ _).map _ = _
    simp only [Configuration.leaves_cons, Configuration.leaves_nil, Configuration.leavesOf_eq,
      hfirst, hvalgrind]
    rfl
  rw [houtcomes, Outcome.delivered_cons_of_ok hone, Outcome.delivered_cons_of_error htwo]
    at hhanded
  rw [houtcomes, Outcome.firstError_cons_of_ok hone, Outcome.firstError_cons_of_error htwo]
    at herror
  exact ⟨hnever, hhanded, herror⟩

end
end Orchestrator
