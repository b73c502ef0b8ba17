import Orchestrator.Proofs.Plugin.Productive
import Orchestrator.Proofs.Resolution.Forwarding
import Orchestrator.Proofs.Resolution.Preparation

/-!
# A command that succeeds does something

A command that ends without an error could still have lost all its tasks on the way, and nobody
would notice.  It cannot.  A name that is resolved has a leaf, since a section has a value.  A leaf
that succeeds has a task, since the plan of its plugin has a step, and the commands in a step have
leaves again.  The one way to succeed with nothing is a selector that has no active pattern, and
then it is on record that this selector was applied.

* `Configuration.leaves_ne_nil`: names have leaves.
* `Outcome.Productive`: a result has a task, or a selector was applied without a pattern.
* `Leaf.productive_outcome`: the outcome of a leaf is such.
* `executeCommand_productive`: **a command that succeeds hands over a task**, or such a selector was
  applied.
-/

namespace Orchestrator

/-! ## Names have leaves -/

/-- A command stands for a leaf at least. -/
theorem Configuration.leaves_ne_nil {cfg : Configuration} (f : Frame) {names : List String}
    (h : names ≠ []) : cfg.leaves f names ≠ [] := by
  induction f, names using cfg.command_induction with
  | nil f => exact absurd rfl h
  | cons f name names ihname ihnames =>
    rw [leaves_cons]
    have hname := ihname (List.cons_ne_nil name [])
    rw [leaves_cons, leaves_nil, List.append_nil] at hname
    exact List.append_ne_nil_of_left_ne_nil hname _
  | plugin f name p hname ih =>
    rw [leaves_cons, leavesOf_eq, hname]
    exact List.cons_ne_nil _ _
  | values f name values hname ih =>
    rw [leaves_cons, leavesOf_eq, hname]
    have hvalues := SettingsTree.ne_nil_of_get? (get?_of_referent_values hname).1
    exact List.append_ne_nil_of_left_ne_nil (ih hvalues) _
  | unknown f name hname =>
    rw [leaves_cons, leavesOf_eq, hname]
    exact List.cons_ne_nil _ _
  | cyclic f name hname =>
    rw [leaves_cons, leavesOf_eq, hname]
    exact List.cons_ne_nil _ _

/-! ## Outcomes -/

/-- Whether a journal records that a selector was applied without a pattern. -/
def Entry.SelectsNothing (journal : List Entry) : Prop :=
  ∃ a ∈ Entry.applications journal, a.plugin = .builtIn .selector ∧ a.request.patterns = []

theorem Entry.SelectsNothing.mono {j k : List Entry} (h : Entry.SelectsNothing j) (hjk : j ⊆ k) :
    Entry.SelectsNothing k := by
  obtain ⟨a, ha, hselector⟩ := h
  exact ⟨a, mem_applications_iff.2 (hjk (mem_applications_iff.1 ha)), hselector⟩

namespace Outcome

/-- Whether a result has a task, unless a selector was applied without a pattern. -/
def Productive (o : Outcome DispatchError (List Task)) : Prop :=
  ∀ tasks, o.result = .ok tasks → tasks ≠ [] ∨ Entry.SelectsNothing o.journal

variable {o : Outcome DispatchError (List Task)}

theorem productive_of_error {e : DispatchError} (h : o.result = .error e) : o.Productive := by
  intro tasks htasks
  cases h.symm.trans htasks

theorem Productive.mapError (h : o.Productive) (g : DispatchError → DispatchError) :
    (o.mapError g).Productive :=
  fun tasks htasks => h tasks (result_mapError_eq_ok_iff.1 htasks)

/-- Of productive outcomes one behind the other the first one suffices. -/
theorem productive_concat {os : List (Outcome DispatchError (List Task))} (hne : os ≠ [])
    (h : ∀ o ∈ os, o.Productive) : (concat os).Productive := by
  obtain ⟨o, os, rfl⟩ := List.exists_cons_of_ne_nil hne
  intro tasks htasks
  rw [concat_cons] at htasks ⊢
  obtain ⟨first, hfirst, hrest⟩ := result_andThen_eq_ok_iff.1 htasks
  obtain ⟨rest, -, rfl⟩ := result_map_eq_ok_iff.1 hrest
  rcases h o List.mem_cons_self first hfirst with hfirst | hselects
  · exact Or.inl (List.append_ne_nil_of_left_ne_nil hfirst rest)
  · exact Or.inr (hselects.mono (o.journal_subset_andThen _))

end Outcome

/-! ## Leaves -/

variable {cfg : Configuration}

/-- What comes of the steps of a plan is productive when the plan is, and what comes of the leaves
of its commands. -/
theorem productive_steps {f : Frame} {plugin : String} {steps : List Step} (h : Productive steps)
    (hleaves : ∀ commands, ∀ l ∈ cfg.leaves f commands, ∀ t, (l.outcome cfg t).Productive) :
    (Outcome.concat (steps.map (Step.outcome cfg f plugin))).Productive := by
  refine Outcome.productive_concat (fun hnil => h.ne_nil (List.map_eq_nil_iff.1 hnil)) ?_
  intro o ho
  obtain ⟨step, hstep, rfl⟩ := List.mem_map.1 ho
  have hproductive := h.step step hstep
  cases step with
  | emit t =>
    intro tasks htasks
    cases htasks
    exact Or.inl (List.cons_ne_nil t [])
  | resolve commands t =>
    refine Outcome.Productive.mapError (Outcome.productive_concat ?_ fun o ho => ?_) _
    · exact fun hnil => Configuration.leaves_ne_nil f hproductive (List.map_eq_nil_iff.1 hnil)
    · obtain ⟨l, hl, rfl⟩ := List.mem_map.1 ho
      exact hleaves commands l hl t

/-- **A leaf that succeeds has a task**, or a selector in it was applied without a pattern.  The
induction is on the leaf, from an application to the leaves of the commands that it wraps. -/
theorem Leaf.productive_outcome (task : Task) (l : Leaf) : (l.outcome cfg task).Productive := by
  induction l using cfg.leaf_induction generalizing task with
  | unknown name =>
    rw [outcome_unknown]
    exact Outcome.productive_of_error rfl
  | cyclic chain =>
    rw [outcome_cyclic]
    exact Outcome.productive_of_error rfl
  | application f p ih =>
    intro tasks htasks
    rw [outcome_application] at htasks ⊢
    obtain ⟨steps, hsteps, htasks⟩ := Outcome.result_andThen_eq_ok_iff.1 htasks
    obtain ⟨patterns, hpatterns, hplan⟩ := Configuration.result_prepare_eq_ok_iff.1 hsteps
    rcases Plugin.productive_of_plan _ hplan with hproductive | ⟨hp, hnil⟩
    · rcases productive_steps hproductive ih tasks htasks with htasks | hselects
      · exact Or.inl htasks
      · refine Or.inr (hselects.mono ?_)
        rw [Outcome.andThen, hsteps]
        exact List.subset_append_right ..
    · have happlied := Configuration.applied_mem_journal_prepare (t := task) hpatterns
      refine Or.inr ⟨⟨p, cfg.requestIn f p patterns task⟩, ?_, hp, hnil⟩
      exact Entry.mem_applications_iff.2 (Outcome.journal_subset_andThen _ _ happlied)

/-! ## Commands -/

/-- **A command that succeeds hands over a task**, unless a selector was applied without a pattern
while it was resolved. -/
theorem executeCommand_productive (cfg : Configuration) {σ : Type} (x : Executor σ) (f : Frame)
    (task : Task) (command : String) (s : σ)
    (h : (executeCommand cfg x f task command s).error = none) :
    handed cfg x f task [command] s ≠ [] ∨
      ∃ a ∈ Entry.applications (executeCommand cfg x f task command s).journal,
        a.plugin = .builtIn .selector ∧ a.request.patterns = [] := by
  rw [← executeCommands_singleton] at h ⊢
  have herror := error_executeCommands cfg x f task [command] s
  rw [h, eq_comm, Option.or_eq_none_iff, Option.map_eq_none_iff] at herror
  obtain ⟨htaken, hfirst⟩ := herror
  have hne : cfg.outcomes f task [command] ≠ [] := fun hnil =>
    Configuration.leaves_ne_nil f (List.cons_ne_nil command []) (List.map_eq_nil_iff.1 hnil)
  -- no outcome is an error, so that the first one decides
  obtain ⟨o, os, hos⟩ := List.exists_cons_of_ne_nil hne
  have ho : o ∈ cfg.outcomes f task [command] := hos ▸ List.mem_cons_self
  obtain ⟨l, -, rfl⟩ := List.mem_map.1 ho
  cases hresult : (l.outcome cfg task).result with
  | error e =>
    rw [hos, Outcome.firstError_cons_of_error hresult] at hfirst
    cases hfirst
  | ok tasks =>
    rcases l.productive_outcome task tasks hresult with htasks | hselects
    · left
      rw [handed_eq, x.taken_of_error_none htaken, hos, Outcome.delivered_cons_of_ok hresult]
      exact List.append_ne_nil_of_left_ne_nil htasks _
    · right
      have hjournal : (l.outcome cfg task).journal ⊆
          (x.deliver (cfg.outcomes f task [command]) s).journal := by
        rw [hos, Executor.deliver_cons]
        exact List.Subset.trans (x.journal_subset_accept _ s) (Progress.journal_subset_andThen _ _)
      rw [applications_executeCommands]
      exact hselects.mono hjournal

/-- A selector whose one pattern is not registered. -/
def unselected : Configuration where
  options := default
  settings := .node Names.root [.node "selector" [.node Names.patterns [.leaf "STEP"]]]
  patterns := .empty
  plugins := .register .empty (.builtIn .selector)

/-- The selector succeeds without a task, and is on record. -/
theorem executeCommand_productive_unselected :
    let base := Task.ofArgs ["base"]
    (executeCommand unselected .collector .root base "selector" []).error = none ∧
      handed unselected .collector .root base ["selector"] [] = [] ∧
      ∃ a ∈ Entry.applications
          (executeCommand unselected .collector .root base "selector" []).journal,
        a.plugin = .builtIn .selector ∧ a.request.patterns = [] := by
  intro base
  have hnever : Executor.collector.NeverFails := fun _ _ => rfl
  have hselector : unselected.referent .root "selector" = .plugin (.builtIn .selector) := rfl
  have hplan : (unselected.prepare (Frame.root.pushed "selector") (.builtIn .selector)
      (Task.ofArgs ["base"])).result = .ok [.resolve [] (Task.ofArgs ["base"])] := rfl
  have hempty : ((Leaf.application (Frame.root.pushed "selector") (.builtIn .selector)).outcome
      unselected base).result = .ok [] := by
    rw [Leaf.outcome_application, Outcome.result_andThen_eq_ok_iff]
    refine ⟨_, hplan, ?_⟩
    rw [List.map_singleton, Step.outcome, Configuration.outcomes_nil]
    rfl
  have houtcomes : unselected.outcomes .root base ["selector"] =
      [(Leaf.application (Frame.root.pushed "selector") (.builtIn .selector)).outcome unselected
        base] := by
    rw [Configuration.outcomes_cons_of_plugin _ hselector, Configuration.outcomes_nil]
  have herror : (executeCommand unselected .collector .root base "selector" []).error = none := by
    rw [← executeCommands_singleton, error_of_neverFails _ _ _ _ _ hnever, houtcomes,
      Outcome.firstError_cons_of_ok hempty]
    rfl
  have hhanded : handed unselected .collector .root base ["selector"] [] = [] := by
    rw [handed_of_neverFails _ _ _ _ _ hnever, houtcomes, Outcome.delivered_cons_of_ok hempty]
    rfl
  refine ⟨herror, hhanded, ?_⟩
  rcases executeCommand_productive unselected .collector .root base "selector" [] herror with
    hne | hselects
  · exact absurd hhanded hne
  · exact hselects

end Orchestrator
