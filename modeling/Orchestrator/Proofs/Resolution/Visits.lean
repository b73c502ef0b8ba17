import Orchestrator.Proofs.Resolution.Forwarding
import Orchestrator.Proofs.Resolution.Preparation

/-!
# Where a resolution comes to

The recursion of a resolution runs through commands, plans and frames, and what it does is spread
over all of them.  It is easier to say where it comes to: a name, in a frame, on top of a task.  At
the top these are the requested commands.  From a section of the settings it comes to the values of
the section, and from a plugin to the commands in the plan of the plugin.  Failures do not count
here, so that the names behind one that fails are among the visited ones as well.

Then everything that a resolution does, it does at a visited name: it applies a plugin, emits a task
of its plan, or fails.  What is to be shown of all applications, all tasks or all errors is thereby
shown of the visited names, by induction along the three ways in which they are come to.

* `Configuration.Visits`: the visited names.
* `Configuration.Applies`, `Configuration.Emits`, `Configuration.Fails`: what is done at one.
* `Outcome.Sourced`: whether all of an outcome is done at visited names; the outcomes of visited
  leaves are such, by induction over leaves.
* `applies_of_mem_applications`, `emits_of_mem_handed`, `error_executeCommands_cases`: **all that a
  resolution does is done at visited names**, whatever the executor.
-/

namespace Orchestrator

/-! ## Causes of errors -/

/-- What an error comes from, inside whatever plugins. -/
def DispatchError.cause : DispatchError → DispatchError
  | .within _ e => e.cause
  | e => e

/-! ## Visited names -/

namespace Configuration

/-- The names that a resolution from the top comes to, each with its frame and the task on top of
which it is resolved. -/
inductive Visits (cfg : Configuration) (base : Task) (requested : List String) :
    Frame → Task → String → Prop where
  /-- A requested command. -/
  | requested {name : String} (h : name ∈ requested) : Visits cfg base requested .root base name
  /-- A value of a section of the settings, in the frame that is scoped to the section. -/
  | value {f : Frame} {t : Task} {name v : String} {values : List String}
      (h : Visits cfg base requested f t name) (hvalues : cfg.referent f name = .values values)
      (hv : v ∈ values) : Visits cfg base requested ((f.pushed name).scopedTo name) t v
  /-- A command in the plan of a plugin. -/
  | wrapped {f : Frame} {t u : Task} {name command : String} {p : Plugin} {steps : List Step}
      {commands : List String} (h : Visits cfg base requested f t name)
      (hp : cfg.referent f name = .plugin p)
      (hsteps : (cfg.prepare (f.pushed name) p t).result = .ok steps)
      (hstep : .resolve commands u ∈ steps) (hcommand : command ∈ commands) :
      Visits cfg base requested ((f.pushed name).wrapping p) u command

variable (cfg : Configuration) (base : Task) (requested : List String)

/-- Whether a plugin is applied at a visited name, in the frame that it has entered there. -/
def Applies (f : Frame) (p : Plugin) (t : Task) : Prop :=
  ∃ g name, cfg.Visits base requested g t name ∧ cfg.referent g name = .plugin p ∧
    f = g.pushed name

/-- Whether a task is in the plan of a plugin that is applied at a visited name. -/
def Emits (u : Task) : Prop :=
  ∃ f p t steps, cfg.Applies base requested f p t ∧ (cfg.prepare f p t).result = .ok steps ∧
    .emit u ∈ steps

/-- The errors that arise at visited names. -/
inductive Fails : DispatchError → Prop where
  | unknown {f : Frame} {t : Task} {name : String} (h : cfg.Visits base requested f t name)
      (hname : cfg.referent f name = .unknown) : Fails (.unknownCommand name)
  | cyclic {f : Frame} {t : Task} {name : String} (h : cfg.Visits base requested f t name)
      (hname : cfg.referent f name = .cyclic) : Fails (.cyclicCommand (f.chain ++ [name]))
  | unplanned {f : Frame} {p : Plugin} {t : Task} {e : DispatchError}
      (h : cfg.Applies base requested f p t) (he : (cfg.prepare f p t).result = .error e) : Fails e

/-- The error of a plugin that has no plan arises there and not inside another plugin. -/
theorem cause_of_error_prepare {cfg : Configuration} {f : Frame} {p : Plugin} {t : Task}
    {e : DispatchError} (h : (cfg.prepare f p t).result = .error e) : e.cause = e := by
  rcases error_prepare_cases h with ⟨key, rfl⟩ | ⟨fault, rfl⟩ <;> rfl

end Configuration

/-! ## Outcomes of visited names -/

/-- Whether a leaf stands at a visited name, on top of a task. -/
inductive Leaf.Visited (cfg : Configuration) (base : Task) (requested : List String) (t : Task) :
    Leaf → Prop where
  | application {f : Frame} {p : Plugin} (h : cfg.Applies base requested f p t) :
      Visited cfg base requested t (.application f p)
  | unknown {f : Frame} {name : String} (h : cfg.Visits base requested f t name)
      (hname : cfg.referent f name = .unknown) : Visited cfg base requested t (.unknown name)
  | cyclic {f : Frame} {name : String} (h : cfg.Visits base requested f t name)
      (hname : cfg.referent f name = .cyclic) :
      Visited cfg base requested t (.cyclic (f.chain ++ [name]))

/-- Whether all of an outcome is done at visited names. -/
structure Outcome.Sourced (cfg : Configuration) (base : Task) (requested : List String)
    (o : Outcome DispatchError (List Task)) : Prop where
  /-- Each plugin that is applied is applied at one, with its own configuration there. -/
  applied : ∀ a, .applied a ∈ o.journal → ∃ f patterns,
    cfg.Applies base requested f a.plugin a.request.task ∧
      a.request = cfg.requestIn f a.plugin patterns a.request.task
  /-- Each task is emitted at one. -/
  emitted : ∀ ts, o.result = .ok ts → ∀ t ∈ ts, cfg.Emits base requested t
  /-- An error arises at one, inside whatever plugins. -/
  failed : ∀ e, o.result = .error e → cfg.Fails base requested e.cause

section

variable {cfg : Configuration} {base : Task} {requested : List String}

/-- The leaves of visited names are visited. -/
theorem Leaf.visited_of_mem_leaves {t : Task} (f : Frame) :
    ∀ names, (∀ name ∈ names, cfg.Visits base requested f t name) →
      ∀ l ∈ cfg.leaves f names, l.Visited cfg base requested t := by
  induction f using cfg.frame_induction with
  | step f ih =>
    intro names hnames l hl
    obtain ⟨name, hname, hl⟩ := Configuration.exists_of_mem_leaves hl
    have hvisit := hnames name hname
    rw [Configuration.leavesOf_eq] at hl
    cases h : cfg.referent f name with
    | plugin p =>
      rw [h, List.mem_singleton] at hl
      rw [hl]
      exact .application ⟨f, name, hvisit, h, rfl⟩
    | values values =>
      rw [h] at hl
      exact ih _ (Configuration.opens_of_referent_values h rfl) values
        (fun v hv => hvisit.value h hv) l hl
    | unknown =>
      rw [h, List.mem_singleton] at hl
      rw [hl]
      exact .unknown hvisit h
    | cyclic =>
      rw [h, List.mem_singleton] at hl
      rw [hl]
      exact .cyclic hvisit h

namespace Outcome

theorem Sourced.within {o : Outcome DispatchError (List Task)} (h : o.Sourced cfg base requested)
    (plugin : String) : (o.mapError (.within plugin)).Sourced cfg base requested where
  applied := h.applied
  emitted ts hts := h.emitted ts (result_mapError_eq_ok_iff.1 hts)
  failed e he := by
    obtain ⟨e', he', rfl⟩ := result_mapError_eq_error_iff.1 he
    exact h.failed e' he'

theorem sourced_concat {os : List (Outcome DispatchError (List Task))}
    (h : ∀ o ∈ os, o.Sourced cfg base requested) : (concat os).Sourced cfg base requested := by
  induction os with
  | nil =>
    refine ⟨fun a ha => (by cases ha), fun ts hts t ht => ?_, fun e he => (by cases he)⟩
    cases hts
    cases ht
  | cons o os ih =>
    have ho := h o List.mem_cons_self
    have hos := ih fun p hp => h p (List.mem_cons_of_mem o hp)
    refine ⟨fun a ha => ?_, fun ts hts t ht => ?_, fun e he => ?_⟩
    · rcases mem_journal_andThen ha with ha | ⟨us, -, ha⟩
      · exact ho.applied a ha
      · exact hos.applied a ha
    · obtain ⟨us, hus, hrest⟩ := result_andThen_eq_ok_iff.1 hts
      obtain ⟨vs, hvs, rfl⟩ := result_map_eq_ok_iff.1 hrest
      rcases List.mem_append.1 ht with ht | ht
      · exact ho.emitted us hus t ht
      · exact hos.emitted vs hvs t ht
    · rcases result_andThen_eq_error_iff.1 he with he | ⟨us, -, he⟩
      · exact ho.failed e he
      · exact hos.failed e (result_map_eq_error_iff.1 he)

end Outcome

/-- **All that comes of a visited leaf is done at visited names.**  The commands that a plugin wraps
are visited when the plugin is, so that the induction goes from an application to their leaves. -/
theorem Leaf.Visited.sourced {t : Task} {l : Leaf} (h : l.Visited cfg base requested t) :
    (l.outcome cfg t).Sourced cfg base requested := by
  induction l using cfg.leaf_induction generalizing t with
  | unknown name =>
    cases h with
    | unknown hvisit hname =>
      rw [outcome_unknown]
      refine ⟨fun a ha => (by cases ha), fun ts hts => (by cases hts), fun e he => ?_⟩
      cases he
      exact .unknown hvisit hname
  | cyclic chain =>
    cases h with
    | cyclic hvisit hname =>
      rw [outcome_cyclic]
      refine ⟨fun a ha => (by cases ha), fun ts hts => (by cases hts), fun e he => ?_⟩
      cases he
      exact .cyclic hvisit hname
  | application f p ih =>
    cases h with
    | application happlies =>
      have hall : ∀ steps, (cfg.prepare f p t).result = .ok steps →
          (Outcome.concat (steps.map (Step.outcome cfg (f.wrapping p) p.name))).Sourced cfg base
            requested := by
        intro steps hsteps
        refine Outcome.sourced_concat fun o ho => ?_
        obtain ⟨step, hstep, rfl⟩ := List.mem_map.1 ho
        cases step with
        | emit u =>
          refine ⟨fun a ha => (by cases ha), fun ts hts v hv => ?_, fun e he => (by cases he)⟩
          cases hts
          rw [List.mem_singleton.1 hv]
          exact ⟨f, p, t, steps, happlies, hsteps, hstep⟩
        | resolve commands u =>
          refine (Outcome.sourced_concat fun o ho => ?_).within p.name
          obtain ⟨l, hl, rfl⟩ := List.mem_map.1 ho
          obtain ⟨g, name, hvisit, hp, rfl⟩ := happlies
          exact ih commands l hl (Leaf.visited_of_mem_leaves _ commands
            (fun command hcommand => .wrapped hvisit hp hsteps hstep hcommand) l hl)
      rw [outcome_application]
      refine ⟨fun a ha => ?_, fun ts hts u hu => ?_, fun e he => ?_⟩
      · rcases Outcome.mem_journal_andThen ha with ha | ⟨steps, hsteps, ha⟩
        · rcases Configuration.mem_journal_prepare_cases ha with ⟨m, hm⟩ | ⟨patterns, -, ha⟩
          · cases hm
          · cases ha
            exact ⟨f, patterns, happlies, rfl⟩
        · exact (hall steps hsteps).applied a ha
      · obtain ⟨steps, hsteps, hts⟩ := Outcome.result_andThen_eq_ok_iff.1 hts
        exact (hall steps hsteps).emitted ts hts u hu
      · rcases Outcome.result_andThen_eq_error_iff.1 he with he | ⟨steps, hsteps, he⟩
        · rw [Configuration.cause_of_error_prepare he]
          exact .unplanned happlies he
        · exact (hall steps hsteps).failed e he

theorem Configuration.sourced_of_mem_outcomes {f : Frame} {t : Task} {names : List String}
    (hnames : ∀ name ∈ names, cfg.Visits base requested f t name)
    {o : Outcome DispatchError (List Task)} (ho : o ∈ cfg.outcomes f t names) :
    o.Sourced cfg base requested := by
  obtain ⟨l, hl, rfl⟩ := List.mem_map.1 ho
  exact (Leaf.visited_of_mem_leaves f names hnames l hl).sourced

end

/-! ## All that a resolution does -/

section

variable {σ : Type} (cfg : Configuration) {x : Executor σ} (base : Task) (commands : List String)
  (s : σ)

/-- The tasks of the leaves are emitted at visited names. -/
theorem emits_of_mem_delivered {t : Task}
    (h : t ∈ Outcome.delivered (cfg.outcomes .root base commands)) :
    cfg.Emits base commands t := by
  obtain ⟨o, ho, ts, hts, ht⟩ := Outcome.exists_of_mem_delivered h
  exact (Configuration.sourced_of_mem_outcomes (fun _ => .requested) ho).emitted ts hts t ht

/-- **Each task that an executor is handed is emitted at a visited name.** -/
theorem emits_of_mem_handed {t : Task} (h : t ∈ handed cfg x .root base commands s) :
    cfg.Emits base commands t := by
  rw [handed_eq] at h
  exact emits_of_mem_delivered cfg base commands (x.mem_of_mem_taken h)

/-- **Each error of a resolution is one of the executor, or arises at a visited name.** -/
theorem error_executeCommands_cases {e : DispatchError}
    (h : (executeCommands cfg x .root base commands s).error = some e) :
    (∃ e', e = .execution e') ∨ cfg.Fails base commands e.cause := by
  rw [error_executeCommands, Option.or_eq_some_iff] at h
  rcases h with h | ⟨-, h⟩
  · obtain ⟨e', -, rfl⟩ := Option.map_eq_some_iff.1 h
    exact Or.inl ⟨e', rfl⟩
  · obtain ⟨o, ho, he⟩ := Outcome.exists_of_firstError h
    exact Or.inr
      ((Configuration.sourced_of_mem_outcomes (fun _ => .requested) ho).failed e he)

/-- **Each plugin that is applied is applied at a visited name**, with its own configuration in the
frame that it has entered there. -/
theorem applies_of_mem_applications (hx : x.AppliesNothing) {a : Application}
    (h : a ∈ Entry.applications (executeCommands cfg x .root base commands s).journal) :
    ∃ f patterns, cfg.Applies base commands f a.plugin a.request.task ∧
      a.request = cfg.requestIn f a.plugin patterns a.request.task := by
  have hquiet := congrArg (fun p => Entry.applications p.journal)
    (quiet_executeCommands cfg .root x base commands s)
  have hsame : Entry.applications (executeCommands cfg x .root base commands s).journal =
      Entry.applications (x.deliver (cfg.outcomes .root base commands) s).journal := by
    simpa [Progress.quiet] using hquiet
  rw [hsame] at h
  obtain ⟨o, ho, ha⟩ := Executor.exists_of_mem_applications_deliver hx h
  exact (Configuration.sourced_of_mem_outcomes (fun _ => .requested) ho).applied a
    (Entry.mem_applications_iff.1 ha)

end
end Orchestrator
