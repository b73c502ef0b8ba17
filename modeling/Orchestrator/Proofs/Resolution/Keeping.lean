import Orchestrator.Proofs.Resolution.Leaves
import Orchestrator.Proofs.Resolution.Preparation

/-!
# Resolution does not know whether the run keeps going

Whether a run is to keep going matters to its executor and to the run itself.  No plugin is told, so
that commands have the same leaves, and leaves the same outcomes.

* `Configuration.keeping`: the configuration of a run that keeps going, or does not.
* `outcomes_keeping`: **the outcomes of commands are the same**.
-/

namespace Orchestrator

/-- The configuration with the choice whether the run is to keep going. -/
def Configuration.keeping (cfg : Configuration) (keepGoing : Bool) : Configuration :=
  { cfg with options := { cfg.options with keepGoing := keepGoing } }

variable (cfg : Configuration) (keepGoing : Bool)

namespace Configuration

theorem prepare_keeping (f : Frame) (p : Plugin) (task : Task) :
    (cfg.keeping keepGoing).prepare f p task = cfg.prepare f p task :=
  prepare_congr cfg (cfg.keeping keepGoing) rfl rfl rfl rfl (fun _ _ => rfl) task

theorem leaves_keeping (f : Frame) :
    ∀ names, (cfg.keeping keepGoing).leaves f names = cfg.leaves f names := by
  induction f using cfg.frame_induction with
  | step f ih =>
    intro names
    induction names with
    | nil => rw [leaves_nil, leaves_nil]
    | cons name names ihnames =>
      have hreferent : (cfg.keeping keepGoing).referent f name = cfg.referent f name := rfl
      rw [leaves_cons, leaves_cons, ihnames, leavesOf_eq, leavesOf_eq, hreferent]
      cases h : cfg.referent f name with
      | values values =>
        have hopens := opens_of_referent_values (g := (f.pushed name).scopedTo name) h rfl
        exact congrArg (· ++ cfg.leaves f names) (ih _ hopens values)
      | _ => rfl

end Configuration

theorem Leaf.outcome_keeping (task : Task) (l : Leaf) :
    l.outcome (cfg.keeping keepGoing) task = l.outcome cfg task := by
  induction l using cfg.leaf_induction generalizing task with
  | unknown name => rw [outcome_unknown, outcome_unknown]
  | cyclic chain => rw [outcome_cyclic, outcome_cyclic]
  | application f p ih =>
    have hsteps : Step.outcome (cfg.keeping keepGoing) (f.wrapping p) p.name =
        Step.outcome cfg (f.wrapping p) p.name := by
      funext step
      cases step with
      | emit t => rfl
      | resolve commands t =>
        rw [Step.outcome, Step.outcome, Configuration.outcomes, Configuration.outcomes,
          cfg.leaves_keeping]
        exact congrArg (fun os => (Outcome.concat os).mapError _)
          (List.map_congr_left fun l hl => ih commands l hl t)
    rw [outcome_application, outcome_application, cfg.prepare_keeping, hsteps]

/-- **Commands have the same outcomes** whether the run keeps going or not. -/
theorem Configuration.outcomes_keeping (f : Frame) (task : Task) (names : List String) :
    (cfg.keeping keepGoing).outcomes f task names = cfg.outcomes f task names := by
  rw [outcomes, outcomes, cfg.leaves_keeping]
  exact List.map_congr_left fun l _ => l.outcome_keeping cfg keepGoing task

end Orchestrator
