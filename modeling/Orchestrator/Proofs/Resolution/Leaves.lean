import Orchestrator.Proofs.Resolution.Descent

/-!
# Leaves

What a list of commands means can be said without an executor and without a collector.  The
commands are expanded, depth first, until only leaves are left: applications of plugins, names that
stand for nothing, and names that would close a cycle.  The expansion looks at the settings and at
the names of the plugins only, so that it does not depend on the task.  Each leaf then has an
outcome of its own, the complete list of its tasks or an error, and the commands that a plugin wraps
have theirs inside it.

* `Leaf`, `Configuration.leaves`: the expansion.
* `Leaf.outcome`, `Step.outcome`: what comes of a leaf, and of a step of the plan of a plugin.
* `quiet_executeCommands`: **resolution is the delivery of the outcomes of the leaves**, in order,
  whatever the executor.

The recursion of `Leaf.outcome` goes from an application to the leaves of the commands that it
wraps.  These stand in frames that are opened inside the frame of the application, which is what
`Leaf.weight` measures.  What is proved of all leaves is proved along the same recursion, by
`Configuration.leaf_induction`.
-/

namespace Orchestrator

/-- An end of the expansion of commands. -/
inductive Leaf where
  /-- A plugin, applied in the frame that it has entered. -/
  | application (frame : Frame) (plugin : Plugin)
  /-- A name that stands for nothing. -/
  | unknown (name : String)
  /-- A name that is on the chain already, behind the names of the chain. -/
  | cyclic (chain : List String)

/-! ## The expansion -/

namespace Configuration

mutual

/-- The leaves of a list of names, in order. -/
def leaves (cfg : Configuration) (f : Frame) : List String → List Leaf
  | [] => []
  | name :: names => cfg.leavesOf f name ++ cfg.leaves f names
termination_by names => ((cfg.freshNames f).length, names.length)

/-- The leaves of one name.  A section of the settings is replaced by the leaves of its values, in a
frame that is scoped to it. -/
def leavesOf (cfg : Configuration) (f : Frame) (name : String) : List Leaf :=
  match _h : cfg.referent f name with
  | .plugin p => [.application (f.pushed name) p]
  | .values values => cfg.leaves ((f.pushed name).scopedTo name) values
  | .unknown => [.unknown name]
  | .cyclic => [.cyclic (f.chain ++ [name])]
termination_by ((cfg.freshNames f).length, 0)
decreasing_by exact Prod.Lex.left _ _ (opens_of_referent_values _h rfl).length_freshNames_lt

end

variable (cfg : Configuration) (f : Frame)

@[simp] theorem leaves_nil : cfg.leaves f [] = [] := by
  rw [leaves]

@[simp] theorem leaves_cons (name : String) (names : List String) :
    cfg.leaves f (name :: names) = cfg.leavesOf f name ++ cfg.leaves f names := by
  rw [leaves]

variable {cfg f} in
theorem exists_of_mem_leaves {names : List String} {l : Leaf} (h : l ∈ cfg.leaves f names) :
    ∃ name ∈ names, l ∈ cfg.leavesOf f name := by
  induction names with
  | nil =>
    rw [leaves_nil] at h
    cases h
  | cons name names ih =>
    rw [leaves_cons, List.mem_append] at h
    rcases h with h | h
    · exact ⟨name, List.mem_cons_self, h⟩
    · obtain ⟨other, hother, hl⟩ := ih h
      exact ⟨other, List.mem_cons_of_mem name hother, hl⟩

theorem leavesOf_eq (name : String) :
    cfg.leavesOf f name =
      match cfg.referent f name with
      | .plugin p => [.application (f.pushed name) p]
      | .values values => cfg.leaves ((f.pushed name).scopedTo name) values
      | .unknown => [.unknown name]
      | .cyclic => [.cyclic (f.chain ++ [name])] := by
  rw [leavesOf]
  split <;> rename_i h <;> rw [h]

end Configuration

/-! ## Outcomes -/

/-- How much recursion is left below a leaf. -/
def Leaf.weight (cfg : Configuration) : Leaf → Nat
  | .application f _ => (cfg.freshNames f).length + 1
  | _ => 0

/-- The leaves of some names weigh less than a leaf in the frame of these names. -/
theorem Configuration.weight_le_of_mem_leaves {cfg : Configuration} (f : Frame) :
    ∀ names, ∀ l ∈ cfg.leaves f names, l.weight cfg ≤ (cfg.freshNames f).length := by
  induction f using cfg.frame_induction with
  | step f ih =>
    intro names l hl
    obtain ⟨name, -, hl⟩ := exists_of_mem_leaves hl
    rw [leavesOf_eq] at hl
    cases h : cfg.referent f name with
    | plugin p =>
      rw [h, List.mem_singleton] at hl
      rw [hl]
      exact (opens_of_referent_plugin h rfl).length_freshNames_lt
    | values values =>
      rw [h] at hl
      have hopens := opens_of_referent_values (g := (f.pushed name).scopedTo name) h rfl
      exact Nat.le_trans (ih _ hopens values l hl) (Nat.le_of_lt hopens.length_freshNames_lt)
    | unknown =>
      rw [h, List.mem_singleton] at hl
      rw [hl]
      exact Nat.zero_le _
    | cyclic =>
      rw [h, List.mem_singleton] at hl
      rw [hl]
      exact Nat.zero_le _

/-- **Induction over leaves.**  What holds of the names without a plugin, and of an application
whenever it holds of the leaves of the commands that the plugin wraps, holds of every leaf. -/
theorem Configuration.leaf_induction (cfg : Configuration) {P : Leaf → Prop}
    (unknown : ∀ name, P (.unknown name)) (cyclic : ∀ chain, P (.cyclic chain))
    (application : ∀ f p, (∀ commands, ∀ l ∈ cfg.leaves (f.wrapping p) commands, P l) →
      P (.application f p)) : ∀ l, P l
  | .unknown name => unknown name
  | .cyclic chain => cyclic chain
  | .application f p =>
    application f p fun _ l _ => cfg.leaf_induction unknown cyclic application l
termination_by l => l.weight cfg
decreasing_by exact Nat.lt_succ_of_le (weight_le_of_mem_leaves (f.wrapping p) _ l ‹_›)

/-- What comes of a leaf on top of a task.  A plugin answers with the steps of its plan, and has the
tasks of all steps or none. -/
def Leaf.outcome (cfg : Configuration) (task : Task) : Leaf → Outcome DispatchError (List Task)
  | .unknown name => .error (.unknownCommand name)
  | .cyclic chain => .error (.cyclicCommand chain)
  | .application f p =>
    (cfg.prepare f p task).andThen fun steps => .concat <| steps.map fun
      | .emit t => .ok [t]
      | .resolve commands t =>
        (Outcome.concat <| (cfg.leaves (f.wrapping p) commands).attach.map fun l =>
          outcome cfg t l.1).mapError (.within p.name)
termination_by l => l.weight cfg
decreasing_by
  exact Nat.lt_succ_of_le (Configuration.weight_le_of_mem_leaves (f.wrapping p) commands l.1 l.2)

/-- What comes of a list of names on top of a task, leaf by leaf. -/
def Configuration.outcomes (cfg : Configuration) (f : Frame) (task : Task) (names : List String) :
    List (Outcome DispatchError (List Task)) :=
  (cfg.leaves f names).map (Leaf.outcome cfg task)

/-- What comes of a step of the plan of a plugin, in the frame for the commands that it wraps. -/
def Step.outcome (cfg : Configuration) (f : Frame) (plugin : String) :
    Step → Outcome DispatchError (List Task)
  | .emit t => .ok [t]
  | .resolve commands t => (Outcome.concat (cfg.outcomes f t commands)).mapError (.within plugin)

theorem Leaf.outcome_unknown (cfg : Configuration) (task : Task) (name : String) :
    (Leaf.unknown name).outcome cfg task = .error (.unknownCommand name) := by
  rw [outcome]

theorem Leaf.outcome_cyclic (cfg : Configuration) (task : Task) (chain : List String) :
    (Leaf.cyclic chain).outcome cfg task = .error (.cyclicCommand chain) := by
  rw [outcome]

/-- **An application is all or nothing**: it has the tasks of all steps of its plan, or the first
error. -/
theorem Leaf.outcome_application (cfg : Configuration) (task : Task) (f : Frame) (p : Plugin) :
    (Leaf.application f p).outcome cfg task =
      (cfg.prepare f p task).andThen fun steps =>
        .concat (steps.map (Step.outcome cfg (f.wrapping p) p.name)) := by
  rw [outcome]
  refine congrArg (cfg.prepare f p task).andThen (funext fun steps => ?_)
  refine congrArg Outcome.concat (List.map_congr_left fun step _ => ?_)
  cases step with
  | emit t => rfl
  | resolve commands t =>
    simp only [Step.outcome, Configuration.outcomes]
    rw [List.attach_map_val (f := fun l => outcome cfg t l)]

/-- A plugin that plans one task has this task. -/
theorem Leaf.result_outcome_of_emit {cfg : Configuration} {task t : Task} {f : Frame} {p : Plugin}
    (h : (cfg.prepare f p task).result = .ok [.emit t]) :
    ((Leaf.application f p).outcome cfg task).result = .ok [t] := by
  rw [Leaf.outcome_application, Outcome.andThen, h]
  rfl

/-- A plugin that cannot plan has its error. -/
theorem Leaf.result_outcome_of_error {cfg : Configuration} {task : Task} {f : Frame} {p : Plugin}
    {e : DispatchError} (h : (cfg.prepare f p task).result = .error e) :
    ((Leaf.application f p).outcome cfg task).result = .error e := by
  rw [Leaf.outcome_application, Outcome.andThen, h]

/-- A plugin whose commands fail has their error, and none of their tasks. -/
theorem Leaf.result_outcome_of_resolve {cfg : Configuration} {task t : Task} {f : Frame}
    {p : Plugin} {commands : List String} {e : DispatchError}
    (h : (cfg.prepare f p task).result = .ok [.resolve commands t])
    (he : (Outcome.concat (cfg.outcomes (f.wrapping p) t commands)).result = .error e) :
    ((Leaf.application f p).outcome cfg task).result = .error (.within p.name e) := by
  rw [Leaf.outcome_application, Outcome.andThen, h]
  simp only [List.map_cons, Step.outcome, Outcome.concat_cons, Outcome.andThen, Outcome.mapError,
    he]
  rfl

/-! ## Resolution delivers the outcomes -/

section

variable (cfg : Configuration) (f : Frame) (task : Task)

@[simp] theorem Configuration.outcomes_nil : cfg.outcomes f task [] = [] := by
  rw [outcomes, leaves_nil, List.map_nil]

theorem Configuration.outcomes_cons (name : String) (names : List String) :
    cfg.outcomes f task (name :: names) =
      (cfg.leavesOf f name).map (Leaf.outcome cfg task) ++ cfg.outcomes f task names := by
  rw [outcomes, leaves_cons, List.map_append]
  rfl

section

variable {cfg f} {name : String}

/-- A section comes to what its values come to. -/
theorem Configuration.outcomes_cons_of_values {values : List String}
    (h : cfg.referent f name = .values values) (names : List String) :
    cfg.outcomes f task (name :: names) =
      cfg.outcomes ((f.pushed name).scopedTo name) task values ++ cfg.outcomes f task names := by
  rw [outcomes_cons, leavesOf_eq, h]
  rfl

theorem Configuration.outcomes_cons_of_plugin {p : Plugin} (h : cfg.referent f name = .plugin p)
    (names : List String) :
    cfg.outcomes f task (name :: names) =
      (Leaf.application (f.pushed name) p).outcome cfg task :: cfg.outcomes f task names := by
  rw [outcomes_cons, leavesOf_eq, h]
  rfl

theorem Configuration.outcomes_cons_of_cyclic (h : cfg.referent f name = .cyclic)
    (names : List String) :
    cfg.outcomes f task (name :: names) =
      .error (.cyclicCommand (f.chain ++ [name])) :: cfg.outcomes f task names := by
  rw [outcomes_cons, leavesOf_eq, h, ← Leaf.outcome_cyclic cfg task]
  rfl

end

/-- The steps of a plan have the outcomes that the commands in them have. -/
theorem quiet_perform {plugin : String}
    (hresolve : ∀ t commands, (resolveCommands cfg f t commands).quiet =
      (Outcome.concat (cfg.outcomes f t commands)).quiet) (steps : List Step) :
    (perform cfg f plugin steps).quiet =
      (Outcome.concat (steps.map (Step.outcome cfg f plugin))).quiet := by
  induction steps with
  | nil => rw [perform_nil, List.map_nil, Outcome.concat_nil]
  | cons step steps ih =>
    rw [List.map_cons, Outcome.concat_cons]
    cases step with
    | emit t =>
      rw [perform_emit, Outcome.quiet_map, ih]
      rfl
    | resolve commands t =>
      rw [perform_resolve, Outcome.quiet_andThen, Outcome.quiet_andThen, Outcome.quiet_mapError,
        hresolve]
      simp only [Outcome.quiet_map, ih]
      rfl

/-- When resolution in a frame delivers the outcomes of its leaves, the tasks of commands in the
frame are these outcomes one behind the other. -/
theorem quiet_resolveCommands_of_deliver {commands : List String}
    (h : (executeCommands cfg Executor.collector f task commands []).quiet =
      (Executor.collector.deliver (cfg.outcomes f task commands) []).quiet) :
    (resolveCommands cfg f task commands).quiet =
      (Outcome.concat (cfg.outcomes f task commands)).quiet := by
  have hcollected := Executor.collector_deliver (cfg.outcomes f task commands) []
  rw [resolveCommands, Progress.quiet_toOutcome, h, ← Progress.quiet_toOutcome, hcollected]
  rw [Outcome.quiet_map]
  generalize (Outcome.concat (cfg.outcomes f task commands)).quiet = o
  obtain ⟨j, r⟩ := o
  cases r <;> rfl

/-- **Resolution is the delivery of the outcomes of the leaves**, up to log messages.  The induction
is on the frame: the values of a section and the commands that a plugin wraps are resolved in frames
that are opened inside it. -/
theorem quiet_executeCommands :
    ∀ {σ : Type} (x : Executor σ) (task : Task) (commands : List String) (s : σ),
      (executeCommands cfg x f task commands s).quiet =
        (x.deliver (cfg.outcomes f task commands) s).quiet := by
  induction f using cfg.frame_induction with
  | step f ih =>
    intro σ x task commands
    have hone : ∀ command s, (executeCommand cfg x f task command s).quiet =
        (x.deliver ((cfg.leavesOf f command).map (Leaf.outcome cfg task)) s).quiet := by
      intro command s
      rw [executeCommand_eq, Configuration.leavesOf_eq]
      cases h : cfg.referent f command with
      | plugin p =>
        have hperform : ∀ steps, (perform cfg ((f.pushed command).wrapping p) p.name steps).quiet =
            (Outcome.concat (steps.map
              (Step.outcome cfg ((f.pushed command).wrapping p) p.name))).quiet :=
          quiet_perform cfg _ fun t commands => quiet_resolveCommands_of_deliver cfg _ t <|
            ih _ (Configuration.opens_of_referent_plugin h rfl) Executor.collector t commands []
        rw [List.map_singleton, Executor.deliver_singleton, Leaf.outcome_application]
        -- the two sides differ in a log message about the number of tasks
        refine x.quiet_accept_congr ?_ s
        rw [Outcome.quiet_counted, Configuration.application]
        exact Outcome.quiet_andThen_congr hperform
      | values values =>
        rw [Progress.quiet_noting_log]
        exact ih _ (Configuration.opens_of_referent_values h rfl) x task values s
      | unknown =>
        rw [List.map_singleton, Executor.deliver_singleton, Leaf.outcome_unknown]
        rfl
      | cyclic =>
        rw [List.map_singleton, Executor.deliver_singleton, Leaf.outcome_cyclic]
        rfl
    induction commands with
    | nil =>
      intro s
      rw [executeCommands_nil, Configuration.outcomes_nil, Executor.deliver_nil]
    | cons command commands ihcommands =>
      intro s
      rw [executeCommands_cons, Configuration.outcomes_cons, Executor.deliver_append,
        Progress.quiet_andThen, Progress.quiet_andThen, hone]
      simp only [ihcommands]

/-- What commands resolve to is what their leaves come to, one behind the other. -/
theorem result_resolveCommands (commands : List String) :
    (resolveCommands cfg f task commands).result =
      (Outcome.concat (cfg.outcomes f task commands)).result := by
  have hquiet := quiet_resolveCommands_of_deliver cfg f task
    (quiet_executeCommands cfg f Executor.collector task commands [])
  rw [← Outcome.result_quiet, hquiet, Outcome.result_quiet]

end
end Orchestrator
