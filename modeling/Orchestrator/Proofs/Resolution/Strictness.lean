import Orchestrator.Proofs.Resolution.Forwarding
import Orchestrator.Proofs.Resolution.Projection
import Orchestrator.Proofs.Resolution.Silence

/-!
# Strict patterns only restrict

A pattern that is selected but not registered is passed over with a warning, or is an error when
patterns are strict.  Every application at any depth looks at this option.  A strict resolution and
a lenient one go on alike until the first such pattern.  There the strict one fails, while the
lenient one has written a warning and may hand over more tasks.  A wrapper inside which it fails
hands over nothing of its own, so that the strict resolution is never ahead.

* `Entry.Misses`: a journal with such a warning.
* `Configuration.strictly`: the configuration with the option.
* `Outcome.Restricts`, `Progress.Restricts`: the strict work is the lenient one, or has failed where
  the lenient one writes a warning.  Everything that work is put together from keeps this.
* `executeCommands_restricts`: so it is for every resolution.
* `strictly_restricts`: **what this means** for the tasks that are handed over and for the result.
-/

namespace Orchestrator

/-! ## Warnings about patterns -/

/-- Whether an entry is a warning about a pattern that is not registered. -/
def Entry.IsMiss : Entry → Prop
  | .log (.patternUnregistered _ _) => True
  | _ => False

/-- Whether a journal has a warning about a pattern that is not registered. -/
def Entry.Misses (journal : List Entry) : Prop :=
  ∃ e ∈ journal, e.IsMiss

theorem Entry.Misses.mono {j k : List Entry} (h : Entry.Misses j) (hjk : j ⊆ k) :
    Entry.Misses k := by
  obtain ⟨e, he, hmiss⟩ := h
  exact ⟨e, hjk he, hmiss⟩

/-- The configuration with the choice whether patterns have to be registered. -/
def Configuration.strictly (cfg : Configuration) (strict : Bool) : Configuration :=
  { cfg with options := { cfg.options with strictPatterns := strict } }

/-! ## Outcomes -/

namespace Outcome

variable {ε ε' α β : Type}

/-- Whether an outcome is another one, or has failed where the other one misses a pattern. -/
def Restricts (o o' : Outcome ε α) : Prop :=
  o = o' ∨ (∃ e, o.result = .error e) ∧ Entry.Misses o'.journal

theorem Restricts.refl (o : Outcome ε α) : o.Restricts o := Or.inl rfl

variable {o o' : Outcome ε α}

theorem Restricts.map (h : o.Restricts o') (g : α → β) : (o.map g).Restricts (o'.map g) := by
  rcases h with rfl | ⟨⟨e, he⟩, hmisses⟩
  · exact .refl _
  · exact Or.inr ⟨⟨e, result_map_eq_error_iff.2 he⟩, hmisses⟩

theorem Restricts.mapError (h : o.Restricts o') (g : ε → ε') :
    (o.mapError g).Restricts (o'.mapError g) := by
  rcases h with rfl | ⟨⟨e, he⟩, hmisses⟩
  · exact .refl _
  · exact Or.inr ⟨⟨g e, result_mapError_eq_error_iff.2 ⟨e, he, rfl⟩⟩, hmisses⟩

theorem Restricts.after (h : o.Restricts o') (j : List Entry) :
    (o.after j).Restricts (o'.after j) := by
  rcases h with rfl | ⟨he, hmisses⟩
  · exact .refl _
  · exact Or.inr ⟨he, hmisses.mono (List.subset_append_right ..)⟩

theorem Restricts.andThen (h : o.Restricts o') {next next' : α → Outcome ε β}
    (hnext : ∀ a, (next a).Restricts (next' a)) :
    (o.andThen next).Restricts (o'.andThen next') := by
  rcases h with rfl | ⟨⟨e, he⟩, hmisses⟩
  · obtain ⟨j, r⟩ := o
    cases r with
    | error e => exact .refl _
    | ok a => exact (hnext a).after j
  · exact Or.inr ⟨⟨e, result_andThen_eq_error_iff.2 (Or.inl he)⟩,
      hmisses.mono (o'.journal_subset_andThen next')⟩

theorem Restricts.counted {o o' : Outcome DispatchError (List Task)} (h : o.Restricts o')
    (command : String) : (o.counted command).Restricts (o'.counted command) := by
  rcases h with rfl | ⟨⟨e, he⟩, hmisses⟩
  · exact .refl _
  · refine Or.inr ⟨⟨e, ?_⟩, ?_⟩
    · rw [Outcome.counted, he]
      exact he
    · obtain ⟨j, r⟩ := o'
      cases r with
      | error e => exact hmisses
      | ok tasks => exact hmisses.mono (List.subset_append_left ..)

end Outcome

/-! ## Progress -/

namespace Progress

variable {ε σ : Type} (seen : σ → List Task)

/-- Whether a progress is another one, or has failed where the other one misses a pattern, with the
tasks that were seen by then. -/
def Restricts (p p' : Progress ε σ) : Prop :=
  p = p' ∨ (∃ e, p.error = some e) ∧ Entry.Misses p'.journal ∧ seen p.state <+: seen p'.state

theorem Restricts.refl (p : Progress ε σ) : p.Restricts seen p := Or.inl rfl

variable {seen} {p p' : Progress ε σ}

theorem Restricts.after (h : p.Restricts seen p') (j : List Entry) :
    (p.after j).Restricts seen (p'.after j) := by
  rcases h with rfl | ⟨he, hmisses, hseen⟩
  · exact .refl seen _
  · exact Or.inr ⟨he, hmisses.mono (List.subset_append_right ..), hseen⟩

/-- The lenient work may go on where the strict one has failed; no task is unseen by that. -/
theorem Restricts.andThen (h : p.Restricts seen p') {next next' : σ → Progress ε σ}
    (hnext : ∀ s, (next s).Restricts seen (next' s))
    (hseen : ∀ s, seen s <+: seen (next' s).state) :
    (p.andThen next).Restricts seen (p'.andThen next') := by
  rcases h with rfl | ⟨⟨e, he⟩, hmisses, hstate⟩
  · cases he : p.error with
    | some e =>
      rw [andThen_of_error he, andThen_of_error he]
      exact .refl seen p
    | none =>
      rw [andThen_of_none he, andThen_of_none he]
      exact (hnext p.state).after p.journal
  · rw [andThen_of_error he]
    cases he' : p'.error with
    | some e' =>
      rw [andThen_of_error he']
      exact Or.inr ⟨⟨e, he⟩, hmisses, hstate⟩
    | none =>
      rw [andThen_of_none he']
      exact Or.inr ⟨⟨e, he⟩, hmisses.mono (List.subset_append_left ..),
        hstate.trans (hseen p'.state)⟩

theorem Restricts.toOutcome (h : p.Restricts seen p') : p.toOutcome.Restricts p'.toOutcome := by
  rcases h with rfl | ⟨⟨e, he⟩, hmisses, -⟩
  · exact .refl _
  · refine Or.inr ⟨⟨e, ?_⟩, hmisses⟩
    rw [Progress.toOutcome, he]

end Progress

/-! ## Resolutions -/

section

variable {cfg : Configuration}

/-- What a name stands for does not depend on the option. -/
theorem referent_strictly (strict : Bool) (f : Frame) (name : String) :
    (cfg.strictly strict).referent f name = cfg.referent f name := rfl

/-- A strict plugin selects what a lenient one selects, or fails where the other one misses a
pattern. -/
theorem Configuration.selectPatterns_restricts (plugin : String) (keys : List String) :
    ((cfg.strictly true).selectPatterns plugin keys).Restricts
      ((cfg.strictly false).selectPatterns plugin keys) := by
  induction keys with
  | nil => exact .refl _
  | cons key keys ih =>
    rw [selectPatterns, selectPatterns]
    have hstrict : (cfg.strictly true).patterns.get? key = cfg.patterns.get? key := rfl
    have hlenient : (cfg.strictly false).patterns.get? key = cfg.patterns.get? key := rfl
    rw [hstrict, hlenient]
    cases cfg.patterns.get? key with
    | some pattern => exact ih.map (pattern :: ·)
    | none => exact Or.inr ⟨⟨_, rfl⟩, _, List.mem_cons_self, trivial⟩

theorem Configuration.prepare_restricts (f : Frame) (p : Plugin) (task : Task) :
    ((cfg.strictly true).prepare f p task).Restricts ((cfg.strictly false).prepare f p task) := by
  have hvariables : (cfg.strictly true).pluginVariables f p =
      (cfg.strictly false).pluginVariables f p := pluginVariables_congr rfl rfl rfl f
  rw [prepare, prepare, hvariables]
  refine Outcome.Restricts.after (Outcome.Restricts.andThen ?_ fun patterns => .refl _) _
  exact selectPatterns_restricts p.name _

theorem perform_restricts {f : Frame} {plugin : String}
    (h : ∀ t commands, (resolveCommands (cfg.strictly true) f t commands).Restricts
      (resolveCommands (cfg.strictly false) f t commands)) (steps : List Step) :
    (perform (cfg.strictly true) f plugin steps).Restricts
      (perform (cfg.strictly false) f plugin steps) := by
  induction steps with
  | nil =>
    rw [perform_nil, perform_nil]
    exact .refl _
  | cons step steps ih =>
    cases step with
    | emit t =>
      rw [perform_emit, perform_emit]
      exact ih.map _
    | resolve commands t =>
      rw [perform_resolve, perform_resolve]
      exact ((h t commands).mapError _).andThen fun tasks => ih.map _

/-- What an executor has seen, it has seen after more tasks. -/
theorem Executor.prefix_executeAll {σ : Type} {x : Executor σ} {seen : σ → List Task}
    (hseen : ∀ t s, seen s <+: seen (x.execute t s).state) (ts : List Task) (s : σ) :
    seen s <+: seen (x.executeAll ts s).state :=
  x.executeAll_preserves (P := fun s' => seen s <+: seen s')
    (fun t s' hs' => hs'.trans (hseen t s')) ts List.prefix_rfl

theorem Executor.accept_restricts {σ : Type} {x : Executor σ} {seen : σ → List Task}
    (hseen : ∀ t s, seen s <+: seen (x.execute t s).state)
    {o o' : Outcome DispatchError (List Task)} (h : o.Restricts o') (s : σ) :
    (x.accept o s).Restricts seen (x.accept o' s) := by
  rcases h with rfl | ⟨⟨e, he⟩, hmisses⟩
  · exact .refl seen _
  · rw [x.accept_of_error he]
    refine Or.inr ⟨⟨e, rfl⟩, ?_⟩
    cases ho : o'.result with
    | error e' =>
      rw [x.accept_of_error ho]
      exact ⟨hmisses, List.prefix_rfl⟩
    | ok ts =>
      rw [x.accept_of_ok ho]
      exact ⟨hmisses.mono (List.subset_append_left ..), x.prefix_executeAll hseen ts s⟩

/-- **A strict resolution is the lenient one, or has failed** where the lenient one misses a
pattern.  The commands that a plugin wraps are collected, and a collector has seen what it keeps. -/
theorem executeCommands_restricts {σ : Type} (x : Executor σ) (seen : σ → List Task)
    (hseen : ∀ t s, seen s <+: seen (x.execute t s).state) (f : Frame) (task : Task)
    (commands : List String) (s : σ) :
    (executeCommands (cfg.strictly true) x f task commands s).Restricts seen
      (executeCommands (cfg.strictly false) x f task commands s) := by
  induction f, commands using cfg.command_induction generalizing σ task with
  | nil f =>
    rw [executeCommands_nil, executeCommands_nil]
    exact .refl seen _
  | cons f command commands ihcommand ihcommands =>
    simp only [executeCommands_singleton] at ihcommand
    rw [executeCommands_cons, executeCommands_cons]
    refine (ihcommand x seen hseen task s).andThen (ihcommands x seen hseen task) fun s' => ?_
    rw [state_executeCommands]
    exact x.prefix_executeAll hseen _ s'
  | plugin f command p hname ih =>
    simp only [executeCommands_singleton_eq, referent_strictly, hname]
    refine x.accept_restricts hseen (Outcome.Restricts.counted ?_ command) s
    refine (Configuration.prepare_restricts _ p task).andThen fun steps => ?_
    refine perform_restricts (fun t commands => ?_) steps
    have hcollected := ih commands Executor.collector id
      (fun u us => List.prefix_append us [u]) t []
    exact hcollected.toOutcome
  | values f command values hname ih =>
    simp only [executeCommands_singleton_eq, referent_strictly, hname]
    exact (ih x seen hseen task s).after [.log (.resolving command values)]
  | unknown f command hname =>
    simp only [executeCommands_singleton_eq, referent_strictly, hname]
    exact .refl seen _
  | cyclic f command hname =>
    simp only [executeCommands_singleton_eq, referent_strictly, hname]
    exact .refl seen _

theorem Configuration.journal_selectPatterns_strictly (plugin : String) (keys : List String) :
    ((cfg.strictly true).selectPatterns plugin keys).journal = [] := by
  induction keys with
  | nil => rfl
  | cons key keys ih =>
    rw [selectPatterns]
    split
    · exact ih
    · rfl

/-- A strict plugin writes no warning about a pattern. -/
theorem Configuration.not_isMiss_of_mem_prepare {f : Frame} {p : Plugin} {task : Task}
    {entry : Entry} (h : entry ∈ ((cfg.strictly true).prepare f p task).journal) :
    ¬ entry.IsMiss := by
  rcases List.mem_append.1 h with h | h
  · obtain ⟨path, -, rfl⟩ := List.mem_map.1 h
    exact id
  · rcases Outcome.mem_journal_andThen h with h | ⟨patterns, -, h⟩
    · rw [activePatterns, journal_selectPatterns_strictly] at h
      cases h
    · rcases List.mem_cons.1 h with rfl | h
      · exact id
      · obtain ⟨command, commands, rfl⟩ := mem_selection_cases h
        exact id

/-- A strict resolution writes no such warning, unless the executor does. -/
theorem not_misses_strictly {σ : Type} {x : Executor σ}
    (hx : ∀ t s, ¬ Entry.Misses (x.execute t s).journal) (f : Frame) (task : Task)
    (commands : List String) (s : σ) :
    ¬ Entry.Misses (executeCommands (cfg.strictly true) x f task commands s).journal := by
  rintro ⟨entry, hentry, hmiss⟩
  rcases mem_journal_executeCommands_cases hentry with
    ⟨t, u, h⟩ | ⟨m, n, rfl⟩ | ⟨m, n, rfl⟩ | ⟨g, p, t, h⟩
  · exact hx t u ⟨entry, h, hmiss⟩
  · exact hmiss
  · exact hmiss
  · exact Configuration.not_isMiss_of_mem_prepare h hmiss

/-- **Strict patterns only restrict.**  When the lenient resolution writes no warning about a
pattern that is not registered, the strict one hands over the same tasks, and both end alike.  When
the strict one succeeds, so does the lenient one, with the same tasks and without such a warning,
unless the executor writes one.  In any case the tasks that the strict one hands over are the first
of those that the lenient one does. -/
theorem strictly_restricts (cfg : Configuration) {σ : Type} (x : Executor σ) (f : Frame)
    (task : Task) (commands : List String) (s : σ) :
    (¬ Entry.Misses (executeCommands (cfg.strictly false) x f task commands s).journal →
      handed (cfg.strictly true) x f task commands s =
          handed (cfg.strictly false) x f task commands s ∧
        executeCommands (cfg.strictly true) x f task commands s =
          executeCommands (cfg.strictly false) x f task commands s) ∧
      ((executeCommands (cfg.strictly true) x f task commands s).error = none →
        (executeCommands (cfg.strictly false) x f task commands s).error = none ∧
          handed (cfg.strictly false) x f task commands s =
            handed (cfg.strictly true) x f task commands s ∧
          ((∀ t u, ¬ Entry.Misses (x.execute t u).journal) →
            ¬ Entry.Misses (executeCommands (cfg.strictly false) x f task commands s).journal)) ∧
      handed (cfg.strictly true) x f task commands s <+:
        handed (cfg.strictly false) x f task commands s := by
  have hstrict : (executeCommands (cfg.strictly true) x.watched f task commands ⟨[], s⟩).mapState
      Watch.state = executeCommands (cfg.strictly true) x f task commands s :=
    executeCommands_mapState x.watched_follows f task commands ⟨[], s⟩
  have hlenient : (executeCommands (cfg.strictly false) x.watched f task commands ⟨[], s⟩).mapState
      Watch.state = executeCommands (cfg.strictly false) x f task commands s :=
    executeCommands_mapState x.watched_follows f task commands ⟨[], s⟩
  have hwatched : (executeCommands (cfg.strictly true) x.watched f task commands ⟨[], s⟩).Restricts
      Watch.tasks (executeCommands (cfg.strictly false) x.watched f task commands ⟨[], s⟩) :=
    executeCommands_restricts x.watched Watch.tasks (fun t w => List.prefix_append w.tasks [t]) f
      task commands ⟨[], s⟩
  rw [handed, handed]
  rcases hwatched with hsame | ⟨⟨e, he⟩, hmisses, hprefix⟩
  · rw [hsame, hlenient] at hstrict
    rw [hsame, hstrict]
    refine ⟨fun _ => ⟨rfl, rfl⟩, fun hnone => ⟨hnone, rfl, fun hx => ?_⟩, List.prefix_rfl⟩
    exact not_misses_strictly hx f task commands s
  · refine ⟨fun hnone => absurd ?_ hnone, fun hnone => ?_, hprefix⟩
    · rw [← hlenient]
      exact hmisses
    · rw [← hstrict] at hnone
      cases he.symm.trans hnone

end

/-- A wrapper around two plugins, of which one selects a pattern that is not registered. -/
def partlyRegistered : Configuration where
  options := default
  settings := .node Names.root
    [.node "valgrind" [.node Names.runCommand [.leaf "first", .leaf "second"]],
      .node "second" [.node Names.patterns [.leaf "MODE"]]]
  patterns := .empty
  plugins := ((PluginRegistry.empty.register (.memory "first" false)).register
    (.memory "second" false)).register (.builtIn .valgrind)

/-- Without the wrapper both resolutions do the same.  The strict one fails inside the wrapper,
whose first task it gives up; what it hands over before, the lenient one hands over first. -/
theorem strictly_restricts_partlyRegistered :
    let base := Task.ofArgs ["base"]
    let strict := partlyRegistered.strictly true
    let lenient := partlyRegistered.strictly false
    (executeCommands strict .collector .root base ["first"] []).error = none ∧
      executeCommands strict .collector .root base ["first"] [] =
        executeCommands lenient .collector .root base ["first"] [] ∧
      (executeCommands strict .collector .root base ["first", "valgrind", "first"] []).error =
        some (.within "valgrind" (.unregisteredPattern "second" "MODE")) ∧
      [base] <+: handed lenient .collector .root base ["first", "valgrind", "first"] [] := by
  intro base strict lenient
  let inner : Frame := ⟨["valgrind"], some "valgrind"⟩
  have hnever : Executor.collector.NeverFails := fun _ _ => rfl
  have hsilent : ∀ t u, ¬ Entry.Misses (Executor.collector.execute t u).journal := by
    rintro t u ⟨entry, hentry, -⟩
    cases hentry
  have hfirst : strict.referent .root "first" = .plugin (.memory "first" false) := rfl
  have hvalgrind : strict.referent .root "valgrind" = .plugin (.builtIn .valgrind) := rfl
  have hfirst' : strict.referent inner "first" = .plugin (.memory "first" false) := rfl
  have hsecond' : strict.referent inner "second" = .plugin (.memory "second" false) := rfl
  have hone : ((Leaf.application (Frame.root.pushed "first") (.memory "first" false)).outcome
      strict base).result = .ok [base] := Leaf.result_outcome_of_emit rfl
  have hsecond : ((Leaf.application (inner.pushed "second") (.memory "second" false)).outcome strict
      (Task.ofArgs ["base", "valgrind"])).result = .error (.unregisteredPattern "second" "MODE") :=
    Leaf.result_outcome_of_error rfl
  have hwrapped : (Outcome.concat (strict.outcomes inner (Task.ofArgs ["base", "valgrind"])
      ["first", "second"])).result = .error (.unregisteredPattern "second" "MODE") := by
    rw [Configuration.outcomes_cons_of_plugin _ hfirst',
      Configuration.outcomes_cons_of_plugin _ hsecond', Outcome.concat_cons,
      Outcome.result_andThen_eq_error_iff]
    refine Or.inr ⟨[Task.ofArgs ["base", "valgrind"]], Leaf.result_outcome_of_emit rfl, ?_⟩
    rw [Outcome.result_map_eq_error_iff, Outcome.concat_cons, Outcome.result_andThen_eq_error_iff]
    exact Or.inl hsecond
  have hplan : ((partlyRegistered.strictly true).prepare ⟨["valgrind"], none⟩ (.builtIn .valgrind)
      (Task.ofArgs ["base"])).result =
        .ok [.resolve ["first", "second"] (Task.ofArgs ["base", "valgrind"])] := rfl
  have htwo : ((Leaf.application (Frame.root.pushed "valgrind") (.builtIn .valgrind)).outcome strict
      base).result = .error (.within "valgrind" (.unregisteredPattern "second" "MODE")) :=
    Leaf.result_outcome_of_resolve hplan hwrapped
  have hfirsts : (executeCommands strict .collector .root base ["first"] []).error = none := by
    rw [error_of_neverFails _ _ _ _ _ hnever, Configuration.outcomes_cons_of_plugin _ hfirst,
      Configuration.outcomes_nil, Outcome.firstError_cons_of_ok hone]
    rfl
  have houtcomes : strict.outcomes .root base ["first", "valgrind", "first"] =
      [(Leaf.application (Frame.root.pushed "first") (.memory "first" false)).outcome strict base,
        (Leaf.application (Frame.root.pushed "valgrind") (.builtIn .valgrind)).outcome strict base,
        (Leaf.application (Frame.root.pushed "first") (.memory "first" false)).outcome strict
          base] := by
    rw [Configuration.outcomes_cons_of_plugin _ hfirst,
      Configuration.outcomes_cons_of_plugin _ hvalgrind,
      Configuration.outcomes_cons_of_plugin _ hfirst, Configuration.outcomes_nil]
  have hfailed : (executeCommands strict .collector .root base ["first", "valgrind", "first"]
      []).error = some (.within "valgrind" (.unregisteredPattern "second" "MODE")) := by
    rw [error_of_neverFails _ _ _ _ _ hnever, houtcomes, Outcome.firstError_cons_of_ok hone,
      Outcome.firstError_cons_of_error htwo]
  have hhanded : handed strict .collector .root base ["first", "valgrind", "first"] [] =
      [base] := by
    rw [handed_of_neverFails _ _ _ _ _ hnever, houtcomes, Outcome.delivered_cons_of_ok hone,
      Outcome.delivered_cons_of_error htwo]
    rfl
  obtain ⟨hsame, hsucceeds, -⟩ :=
    strictly_restricts partlyRegistered .collector .root base ["first"] []
  obtain ⟨-, -, hprefix⟩ := strictly_restricts partlyRegistered .collector .root base
    ["first", "valgrind", "first"] []
  obtain ⟨-, -, hnone⟩ := hsucceeds hfirsts
  refine ⟨hfirsts, (hsame (hnone hsilent)).2, hfailed, ?_⟩
  rw [← hhanded]
  exact hprefix

end Orchestrator
