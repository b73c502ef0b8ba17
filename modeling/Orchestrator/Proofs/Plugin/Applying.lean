import Mathlib.Data.List.Forall2
import Orchestrator.Proofs.Plugin.Plans
import Orchestrator.Proofs.Resolution.Leaves
import Orchestrator.Proofs.Settings.Readings

/-!
# Applying one plugin

A plugin is applied in two parts: it plans for its request, and the steps of the plan are carried
out one behind the other.  Of what a plan reads only switches and numbers can be refused, and what
the steps give is known when it is known of each step.

* `Request.require_list` and its siblings: what a request reads, by the values of its settings.
* `Applier.apply_verbosity`, `Applier.apply_commandLine`: the arguments that an applier adds.
* `Step.Gives`: the tasks that one step gives.
* `perform_eq_ok_iff`: **a plan succeeds when all its steps do**, and gives their tasks one behind
  the other.
* `perform_of_first_error`: **the first step that fails** decides otherwise.
* `applyPlugin_of_plan`, `applyPlugin_of_fault`: the two parts put together.
-/

namespace Orchestrator

/-! ## Reading a request -/

namespace Request

variable (r : Request) (plugin key fallback : String)

/-- A list that a plugin cannot do without is there when it has a value. -/
theorem require_list :
    r.require plugin .list key =
      if r.settings.namesAt [key] = [] then .error (.missingSetting plugin r.command key)
      else .ok (r.settings.namesAt [key]) := by
  rw [require, read?, SettingsTree.read?_list]
  by_cases hnil : r.settings.namesAt [key] = []
  · rw [if_pos hnil, if_pos hnil]
  · rw [if_neg hnil, if_neg hnil]

theorem read?_text : r.read? .text key = .ok (r.settings.namesAt [key]).getLast? := by
  rw [read?, SettingsTree.read?_text]

theorem read?_path :
    r.read? .path key = .ok ((r.settings.namesAt [key]).getLast?.map .ofText) := by
  rw [read?, SettingsTree.read?_path]

theorem readD_text :
    r.readD .text key fallback = .ok ((r.settings.namesAt [key]).getLast?.getD fallback) := by
  rw [readD, read?_text]
  rfl

/-- A reading is refused as the settings refuse it. -/
theorem readD_eq_mapError {α : Type} (reading : Reading α) (fallback : α) :
    r.readD reading key fallback =
      (r.settings.readD reading [key] fallback).mapError .settings := by
  rw [readD, read?, SettingsTree.readD]
  cases r.settings.read? reading [key] <;> rfl

theorem readD_list_nil : r.readD .list key [] = .ok (r.settings.namesAt [key]) := by
  rw [readD_eq_mapError, SettingsTree.readD_list_nil]
  rfl

end Request

/-! ## Appliers -/

namespace Task

theorem appendAll_nil (t : Task) : t.appendAll [] = t :=
  congrArg (fun args => { t with args }) (List.append_nil t.args)

theorem appendAll_appendAll (t : Task) (args rest : List String) :
    (t.appendAll args).appendAll rest = t.appendAll (args ++ rest) :=
  congrArg (fun args => { t with args }) (List.append_assoc t.args args rest)

end Task

namespace Applier

variable (r : Request) (t : Task)

theorem applyAll_cons (a : Applier) (as : List Applier) :
    applyAll r (a :: as) t = (a.apply r t).bind (applyAll r as) := by
  rw [applyAll]
  cases a.apply r t <;> rfl

theorem apply_verbosity (flag : String) :
    (Applier.verbosity flag).apply r t =
      (r.readD .yesNo Names.verbose false).map fun verbose =>
        t.appendAll (if verbose then [flag] else []) := by
  simp only [apply]
  rcases r.readD .yesNo Names.verbose false with e | _ | _
  · rfl
  · exact congrArg Except.ok t.appendAll_nil.symm
  · rfl

theorem apply_commandLine :
    Applier.commandLine.apply r t = .ok (t.appendAll (r.settings.namesAt [Names.commandLine])) := by
  rw [apply, r.readD_list_nil]
  rfl

end Applier

/-! ## Steps -/

/-- The tasks that a step of a plan gives in a frame. -/
inductive Step.Gives (cfg : Configuration) (f : Frame) : Step → List Task → Prop where
  | emit (t : Task) : Gives cfg f (.emit t) [t]
  | resolve {commands : List String} {t : Task} {tasks : List Task}
      (h : (resolveCommands cfg f t commands).result = .ok tasks) :
      Gives cfg f (.resolve commands t) tasks

section

variable {cfg : Configuration} {f : Frame} {plugin : String}

theorem gives_resolve_iff {commands : List String} {t : Task} {part : List Task} :
    Step.Gives cfg f (.resolve commands t) part ↔
      (resolveCommands cfg f t commands).result = .ok part := by
  constructor
  · rintro (_ | h)
    exact h
  · exact .resolve

/-- **A plan succeeds when all its steps do**, and gives their tasks one behind the other. -/
theorem perform_eq_ok_iff {steps : List Step} {tasks : List Task} :
    (perform cfg f plugin steps).result = .ok tasks ↔
      ∃ parts, List.Forall₂ (Step.Gives cfg f) steps parts ∧ parts.flatten = tasks := by
  induction steps generalizing tasks with
  | nil =>
    rw [perform_nil]
    constructor
    · intro h
      cases h
      exact ⟨[], .nil, rfl⟩
    · rintro ⟨_, ⟨⟩, rfl⟩
      rfl
  | cons step steps ih =>
    cases step with
    | emit t =>
      rw [perform_emit, Outcome.result_map_eq_ok_iff]
      constructor
      · rintro ⟨rest, hrest, rfl⟩
        obtain ⟨parts, hparts, rfl⟩ := ih.1 hrest
        exact ⟨[t] :: parts, .cons (.emit t) hparts, rfl⟩
      · rintro ⟨_, _ | ⟨⟨⟩, hparts⟩, rfl⟩
        exact ⟨_, ih.2 ⟨_, hparts, rfl⟩, rfl⟩
    | resolve commands t =>
      rw [perform_resolve, Outcome.result_andThen_eq_ok_iff]
      constructor
      · rintro ⟨part, hpart, h⟩
        obtain ⟨rest, hrest, rfl⟩ := Outcome.result_map_eq_ok_iff.1 h
        obtain ⟨parts, hparts, rfl⟩ := ih.1 hrest
        have hgives : Step.Gives cfg f (.resolve commands t) part :=
          .resolve (Outcome.result_mapError_eq_ok_iff.1 hpart)
        exact ⟨part :: parts, .cons hgives hparts, rfl⟩
      · rintro ⟨_, _ | ⟨hgives, hparts⟩, rfl⟩
        have hpart := gives_resolve_iff.1 hgives
        exact ⟨_, Outcome.result_mapError_eq_ok_iff.2 hpart,
          Outcome.result_map_eq_ok_iff.2 ⟨_, ih.2 ⟨_, hparts, rfl⟩, rfl⟩⟩

/-- When it is known what each step gives, it is known what the plan gives. -/
theorem perform_of_forall_gives {steps : List Step} {g : Step → List Task}
    (h : ∀ step ∈ steps, step.Gives cfg f (g step)) :
    (perform cfg f plugin steps).result = .ok (steps.flatMap g) :=
  perform_eq_ok_iff.2
    ⟨steps.map g, List.forall₂_map_right_iff.2 (List.forall₂_same.2 h), rfl⟩

/-- A plan that asks for no commands gives its tasks. -/
theorem perform_map_emit (ts : List Task) :
    (perform cfg f plugin (ts.map .emit)).result = .ok ts := by
  refine perform_eq_ok_iff.2 ⟨ts.map fun t => [t], ?_, ?_⟩
  · refine List.forall₂_map_left_iff.2 (List.forall₂_map_right_iff.2 (List.forall₂_same.2 ?_))
    exact fun t _ => .emit t
  · rw [← List.flatMap_def, List.flatMap_singleton']

/-- A plan in which the same commands are asked for on top of several tasks gives what they come to
on top of each. -/
theorem perform_map_resolve_eq_ok_iff {commands : List String} {ts tasks : List Task} :
    (perform cfg f plugin (ts.map (.resolve commands))).result = .ok tasks ↔
      ∃ parts, List.Forall₂
        (fun t part => (resolveCommands cfg f t commands).result = .ok part) ts parts ∧
          parts.flatten = tasks := by
  simp only [perform_eq_ok_iff, List.forall₂_map_left_iff, gives_resolve_iff]

/-- **The first commands that fail** are the error of the plan, inside the plugin. -/
theorem perform_of_first_error {before after : List Step} {commands : List String} {t : Task}
    {e : DispatchError} (hbefore : ∀ step ∈ before, ∃ part, step.Gives cfg f part)
    (he : (resolveCommands cfg f t commands).result = .error e) :
    (perform cfg f plugin (before ++ .resolve commands t :: after)).result =
      .error (.within plugin e) := by
  induction before with
  | nil =>
    rw [List.nil_append, perform_resolve]
    exact Outcome.result_andThen_eq_error_iff.2
      (Or.inl (Outcome.result_mapError_eq_error_iff.2 ⟨e, he, rfl⟩))
  | cons step before ih =>
    have hrest := ih fun s hs => hbefore s (List.mem_cons_of_mem step hs)
    obtain ⟨part, hstep⟩ := hbefore step List.mem_cons_self
    rw [List.cons_append]
    cases hstep with
    | emit u =>
      rw [perform_emit]
      exact Outcome.result_map_eq_error_iff.2 hrest
    | resolve h =>
      rw [perform_resolve]
      exact Outcome.result_andThen_eq_error_iff.2 (Or.inr
        ⟨part, Outcome.result_mapError_eq_ok_iff.2 h, Outcome.result_map_eq_error_iff.2 hrest⟩)

end

/-! ## Plugins -/

section

variable (cfg : Configuration) (f : Frame) {p : Plugin} {r : Request}

/-- The name of a plugin comes to what its application comes to. -/
theorem result_resolveCommands_of_plugin {name : String}
    (h : cfg.referent f name = .plugin p) (t : Task) :
    (resolveCommands cfg f t [name]).result =
      ((Leaf.application (f.pushed name) p).outcome cfg t).result := by
  rw [result_resolveCommands, Configuration.outcomes_cons_of_plugin t h,
    Configuration.outcomes_nil, Outcome.concat_cons]
  generalize (Leaf.application (f.pushed name) p).outcome cfg t = o
  obtain ⟨j, r⟩ := o
  cases r with
  | error e => rfl
  | ok tasks => exact congrArg Except.ok (List.append_nil tasks)

/-- A plugin that can plan comes to what its plan comes to, in the frame of its command. -/
theorem applyPlugin_of_plan {steps : List Step} (h : p.plan r = .ok steps) :
    (applyPlugin cfg f p r).result = (perform cfg (f.scopedTo r.command) p.name steps).result := by
  simp only [applyPlugin, Configuration.planOf, Outcome.andThen, h, Except.mapError]

/-- A plugin that cannot plan has its fault. -/
theorem applyPlugin_of_fault {e : PluginFault} (h : p.plan r = .error e) :
    (applyPlugin cfg f p r).result = .error (.fault p.name e) := by
  simp only [applyPlugin, Configuration.planOf, Outcome.andThen, h, Except.mapError]

end

end Orchestrator
