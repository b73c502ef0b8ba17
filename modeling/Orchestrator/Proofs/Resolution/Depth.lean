import Mathlib.Data.Finset.Card
import Orchestrator.Proofs.Resolution.Descent

/-!
# How deep resolution goes

Nothing that a resolution is given gets smaller on the way down: settings name each other, plugins
wrap commands that settings name, and the values of patterns may be the names of commands.  What
bounds it is an invariant of the frames.  The names on the chain of a frame are all different, and
each of them is live; so there are at most as many of them as there are live names.

To say so of the frames that a resolution is really in, the resolution is done again with a bound
and with a record.  `traceCommands` follows `executeCommands` call by call, notes each frame, and
gives up when a name is to enter a chain for which there is no room left.  Its recursion is on the
room, so that it needs no measure of the settings.

* `Frame.Sound`: the invariant, with `Sound.root`, `Sound.of_opens` and `Sound.length_le`.
* `traceCommands`, `traceCommand`, `tracePerform`: the resolution with a bound and a record.
* `resolution_within_live_names`: **from the top, room for the live names is enough for every
  resolution**, and every frame that it is in is sound.
-/

namespace Orchestrator

/-! ## The invariant -/

/-- The names for which a frame can be opened. -/
def Configuration.liveNames (cfg : Configuration) : Finset String :=
  (cfg.knownNames.filter fun name => cfg.IsLive name).toFinset

@[simp] theorem Configuration.mem_liveNames {cfg : Configuration} {name : String} :
    name ∈ cfg.liveNames ↔ cfg.IsLive name := by
  rw [liveNames, List.mem_toFinset, List.mem_filter, decide_eq_true_iff]
  exact ⟨fun h => h.2, fun h => ⟨h.mem_knownNames, h⟩⟩

namespace Frame

/-- The names on the chain of a frame are different and live. -/
structure Sound (cfg : Configuration) (f : Frame) : Prop where
  nodup : f.chain.Nodup
  live : ∀ name ∈ f.chain, cfg.IsLive name

variable {cfg : Configuration} {f g : Frame}

theorem Sound.root (cfg : Configuration) : root.Sound cfg :=
  ⟨List.nodup_nil, fun _ h => (by cases h)⟩

/-- Soundness speaks about the chain only. -/
theorem Sound.of_chain_eq (h : f.Sound cfg) (hg : g.chain = f.chain) : g.Sound cfg := by
  refine ⟨?_, ?_⟩
  · rw [hg]
    exact h.nodup
  · rw [hg]
    exact h.live

/-- A frame that stands directly inside a sound one is sound. -/
theorem Sound.of_opens (h : f.Sound cfg) (hg : cfg.Opens f g) : g.Sound cfg := by
  obtain ⟨name, hlive, hnew, hchain⟩ := hg
  refine ⟨?_, fun other hother => ?_⟩
  · rw [hchain, List.nodup_append]
    refine ⟨h.nodup, List.nodup_singleton name, fun a ha b hb hab => ?_⟩
    rw [List.mem_singleton] at hb
    exact hnew (hb ▸ hab ▸ ha)
  · rw [hchain, List.mem_append, List.mem_singleton] at hother
    rcases hother with hother | rfl
    · exact h.live other hother
    · exact hlive

/-- No chain of a sound frame is longer than there are live names. -/
theorem Sound.length_le (h : f.Sound cfg) : f.chain.length ≤ cfg.liveNames.card := by
  rw [← List.toFinset_card_of_nodup h.nodup]
  refine Finset.card_le_card fun name hname => ?_
  exact Configuration.mem_liveNames.2 (h.live name (List.mem_toFinset.1 hname))

end Frame

/-! ## Resolution with a bound and a record -/

/-- A result, and the frames in which a resolution was on the way to it. -/
structure Traced (α : Type) where
  frames : List Frame
  result : α

namespace Traced

variable {ε σ α β : Type}

/-- Goes on with the result, if there is one. -/
def andThen (t : Traced (Outcome ε α)) (next : α → Option (Traced (Outcome ε β))) :
    Option (Traced (Outcome ε β)) :=
  match t.result.result with
  | .error e => some ⟨t.frames, ⟨t.result.journal, .error e⟩⟩
  | .ok a => (next a).map fun u => ⟨t.frames ++ u.frames, u.result.after t.result.journal⟩

/-- Goes on with the state, unless an error ended the work. -/
def goOn (t : Traced (Progress ε σ)) (next : σ → Option (Traced (Progress ε σ))) :
    Option (Traced (Progress ε σ)) :=
  match t.result.error with
  | some _ => some t
  | none =>
    (next t.result.state).map fun u => ⟨t.frames ++ u.frames, u.result.after t.result.journal⟩

end Traced

mutual

/-- Resolves commands in order, as `executeCommands` does, with room for so many more names on the
chain. -/
def traceCommands (cfg : Configuration) {σ : Type} (x : Executor σ) (room : Nat) (f : Frame)
    (task : Task) : List String → σ → Option (Traced (Progress DispatchError σ))
  | [], s => some ⟨[f], .done s⟩
  | command :: commands, s =>
    (traceCommand cfg x room f task command s).bind fun first =>
      first.goOn (traceCommands cfg x room f task commands)
termination_by commands => (room, 0, commands.length + 1)
decreasing_by
  · exact Prod.Lex.right _ (Prod.Lex.right _ (by simp only [List.length_cons]; omega))
  · exact Prod.Lex.right _ (Prod.Lex.right _ (by simp only [List.length_cons]; omega))

/-- Resolves one command, as `executeCommand` does. -/
def traceCommand (cfg : Configuration) {σ : Type} (x : Executor σ) (room : Nat) (f : Frame)
    (task : Task) (command : String) (s : σ) : Option (Traced (Progress DispatchError σ)) :=
  match cfg.plugins.get? command with
  | some p =>
    match f.enter command, room with
    | .error e, _ => some ⟨[f], .failed s e⟩
    | .ok _, 0 => none
    | .ok inner, room + 1 =>
      (Traced.andThen ⟨[f, inner], cfg.prepare inner p task⟩
        (tracePerform cfg room (inner.scopedTo (inner.scopedCommand p.name)) p.name)).map fun t =>
          ⟨t.frames, x.accept (t.result.counted command) s⟩
  | none =>
    match cfg.settings.get? [command] with
    | none => some ⟨[f], .failed s (.unknownCommand command)⟩
    | some subCommands =>
      match f.descend command, room with
      | .error e, _ => some ⟨[f], .failed s e⟩
      | .ok _, 0 => none
      | .ok inner, room + 1 =>
        (traceCommands cfg x room inner task subCommands s).map fun t =>
          ⟨f :: t.frames, t.result.noting (.log (.resolving command subCommands))⟩
termination_by (room, 0, 1)

/-- Carries out the steps of a plan, as `perform` does. -/
def tracePerform (cfg : Configuration) (room : Nat) (f : Frame) (plugin : String) :
    List Step → Option (Traced (Outcome DispatchError (List Task)))
  | [] => some ⟨[f], .ok []⟩
  | .emit t :: steps =>
    (tracePerform cfg room f plugin steps).map fun u => ⟨u.frames, u.result.map (t :: ·)⟩
  | .resolve commands t :: steps =>
    (traceCommands cfg Executor.collector room f t commands []).bind fun u =>
      Traced.andThen ⟨u.frames, u.result.toOutcome.mapError (.within plugin)⟩ fun tasks =>
        (tracePerform cfg room f plugin steps).map fun v => ⟨v.frames, v.result.map (tasks ++ ·)⟩
termination_by steps => (room, 1, steps.length)

end

/-! ## The record is faithful -/

/-- Whether a traced resolution has room enough: it gives a certain result, and is in sound frames
only. -/
def Configuration.Traces {α : Type} (cfg : Configuration) (o : Option (Traced α)) (a : α) : Prop :=
  ∃ frames, o = some ⟨frames, a⟩ ∧ ∀ g ∈ frames, g.Sound cfg

section

variable {cfg : Configuration} {ε σ α β : Type}

theorem traces_singleton {f : Frame} (hf : f.Sound cfg) (a : α) : cfg.Traces (some ⟨[f], a⟩) a :=
  ⟨[f], rfl, fun _ hg => List.mem_singleton.1 hg ▸ hf⟩

/-- What is done with the result alone keeps the frames. -/
theorem Configuration.Traces.map {o : Option (Traced α)} {a : α} (h : cfg.Traces o a) (k : α → β) :
    cfg.Traces (o.map fun t => ⟨t.frames, k t.result⟩) (k a) := by
  obtain ⟨frames, rfl, hframes⟩ := h
  exact ⟨frames, rfl, hframes⟩

theorem Configuration.Traces.andThen {o : Outcome ε α} {frames : List Frame}
    (hframes : ∀ g ∈ frames, g.Sound cfg) {next : α → Option (Traced (Outcome ε β))}
    {next' : α → Outcome ε β} (hnext : ∀ a, cfg.Traces (next a) (next' a)) :
    cfg.Traces (Traced.andThen ⟨frames, o⟩ next) (o.andThen next') := by
  obtain ⟨j, r⟩ := o
  cases r with
  | error e => exact ⟨frames, rfl, hframes⟩
  | ok a =>
    obtain ⟨more, hmore, hsound⟩ := hnext a
    refine ⟨frames ++ more, ?_, fun g hg => ?_⟩
    · simp only [Traced.andThen, hmore]
      rfl
    · exact (List.mem_append.1 hg).elim (hframes g) (hsound g)

theorem Configuration.Traces.goOn {o : Option (Traced (Progress ε σ))} {p : Progress ε σ}
    (h : cfg.Traces o p) {next : σ → Option (Traced (Progress ε σ))} {next' : σ → Progress ε σ}
    (hnext : ∀ s, cfg.Traces (next s) (next' s)) :
    cfg.Traces (o.bind fun t => t.goOn next) (p.andThen next') := by
  obtain ⟨frames, rfl, hframes⟩ := h
  obtain ⟨j, s, e⟩ := p
  cases e with
  | some e => exact ⟨frames, rfl, hframes⟩
  | none =>
    obtain ⟨more, hmore, hsound⟩ := hnext s
    refine ⟨frames ++ more, ?_, fun g hg => ?_⟩
    · simp only [Option.bind_some, Traced.goOn, hmore]
      rfl
    · exact (List.mem_append.1 hg).elim (hframes g) (hsound g)

/-- The steps of a plan are traced when the commands in them are. -/
theorem traces_perform {f : Frame} (hf : f.Sound cfg) {room : Nat} {plugin : String}
    (h : ∀ t commands, cfg.Traces (traceCommands cfg .collector room f t commands [])
      (executeCommands cfg .collector f t commands [])) (steps : List Step) :
    cfg.Traces (tracePerform cfg room f plugin steps) (perform cfg f plugin steps) := by
  induction steps with
  | nil =>
    rw [tracePerform, perform_nil]
    exact traces_singleton hf _
  | cons step steps ih =>
    cases step with
    | emit t =>
      rw [tracePerform, perform_emit]
      exact ih.map _
    | resolve commands t =>
      rw [tracePerform, perform_resolve, resolveCommands]
      obtain ⟨frames, hframes, hsound⟩ := h t commands
      rw [hframes]
      exact Configuration.Traces.andThen hsound fun tasks => ih.map _

/-- A frame that is opened inside a sound one finds room, one name less. -/
theorem Frame.Sound.exists_room {f g : Frame} (h : f.Sound cfg) (hg : cfg.Opens f g) {room : Nat}
    (hroom : cfg.liveNames.card ≤ f.chain.length + room) :
    ∃ left, room = left + 1 ∧ cfg.liveNames.card ≤ g.chain.length + left := by
  have hle := (h.of_opens hg).length_le
  obtain ⟨name, -, -, hchain⟩ := hg
  rw [hchain, List.length_append, List.length_singleton] at hle ⊢
  exact ⟨room - 1, by omega, by omega⟩

/-- One call of the traced resolution, by what its command stands for. -/
theorem traceCommand_eq (x : Executor σ) (room : Nat) (f : Frame) (task : Task) (command : String)
    (s : σ) :
    traceCommand cfg x room f task command s =
      match cfg.referent f command, room with
      | .plugin _, 0 => none
      | .plugin p, room + 1 =>
        (Traced.andThen ⟨[f, f.pushed command], cfg.prepare (f.pushed command) p task⟩
          (tracePerform cfg room ((f.pushed command).wrapping p) p.name)).map fun t =>
            ⟨t.frames, x.accept (t.result.counted command) s⟩
      | .values _, 0 => none
      | .values values, room + 1 =>
        (traceCommands cfg x room ((f.pushed command).scopedTo command) task values s).map fun t =>
          ⟨f :: t.frames, t.result.noting (.log (.resolving command values))⟩
      | .unknown, _ => some ⟨[f], .failed s (.unknownCommand command)⟩
      | .cyclic, _ => some ⟨[f], .failed s (.cyclicCommand (f.chain ++ [command]))⟩ := by
  rw [traceCommand, Configuration.referent, f.enter_eq, f.descend_eq]
  by_cases hf : command ∈ f.chain
  · rw [if_pos hf, if_pos hf]
    cases cfg.plugins.get? command with
    | some p => simp only [hf, if_true]
    | none =>
      cases cfg.settings.get? [command] with
      | some values => simp only [hf, if_true]
      | none => rfl
  · rw [if_neg hf, if_neg hf]
    cases cfg.plugins.get? command with
    | some p =>
      simp only [hf, if_false]
      cases room <;> rfl
    | none =>
      cases cfg.settings.get? [command] with
      | some values =>
        simp only [hf, if_false]
        cases room <;> rfl
      | none => rfl

/-- **The record is faithful.**  In a sound frame with room for the live names that are not yet on
the chain, the traced resolution does what the resolution does, and is in sound frames only.  The
induction is on the frame. -/
theorem traces_executeCommands (f : Frame) : ∀ (room : Nat), f.Sound cfg →
    cfg.liveNames.card ≤ f.chain.length + room →
      ∀ {σ : Type} (x : Executor σ) (task : Task) (commands : List String) (s : σ),
        cfg.Traces (traceCommands cfg x room f task commands s)
          (executeCommands cfg x f task commands s) := by
  induction f using cfg.frame_induction with
  | step f ih =>
    intro room hf hroom σ x task commands
    have hone : ∀ command s, cfg.Traces (traceCommand cfg x room f task command s)
        (executeCommand cfg x f task command s) := by
      intro command s
      rw [traceCommand_eq, executeCommand_eq]
      cases h : cfg.referent f command with
      | plugin p =>
        -- the frames of the plugin and of its commands have one chain, with room for one name less
        have hopens : cfg.Opens f (f.pushed command) := Configuration.opens_of_referent_plugin h rfl
        have hpushed := hf.of_opens hopens
        have hwrapping : ((f.pushed command).wrapping p).Sound cfg := hpushed.of_chain_eq rfl
        obtain ⟨left, rfl, hleft⟩ := hf.exists_room hopens hroom
        have hperform : ∀ steps, cfg.Traces
            (tracePerform cfg left ((f.pushed command).wrapping p) p.name steps)
            (perform cfg ((f.pushed command).wrapping p) p.name steps) :=
          traces_perform hwrapping fun t commands =>
            ih _ (Configuration.opens_of_referent_plugin h rfl) left hwrapping hleft
              Executor.collector t commands []
        refine Configuration.Traces.map (Configuration.Traces.andThen ?_ hperform)
          fun o => x.accept (o.counted command) s
        intro g hg
        rcases List.mem_cons.1 hg with rfl | hg
        · exact hf
        · exact List.mem_singleton.1 hg ▸ hpushed
      | values values =>
        have hopens := Configuration.opens_of_referent_values
          (g := (f.pushed command).scopedTo command) h rfl
        obtain ⟨left, rfl, hleft⟩ := hf.exists_room hopens hroom
        obtain ⟨frames, hframes, hsound⟩ :=
          ih _ hopens left (hf.of_opens hopens) hleft x task values s
        refine ⟨f :: frames, ?_, fun g hg => ?_⟩
        · simp only [hframes]
          rfl
        · rcases List.mem_cons.1 hg with rfl | hg
          · exact hf
          · exact hsound g hg
      | unknown => exact traces_singleton hf _
      | cyclic => exact traces_singleton hf _
    induction commands with
    | nil =>
      intro s
      rw [traceCommands, executeCommands_nil]
      exact traces_singleton hf _
    | cons command commands ihcommands =>
      intro s
      rw [traceCommands, executeCommands_cons]
      exact (hone command s).goOn ihcommands

end

/-- **Resolution ends within the live names.**  From the top, every resolution comes to its end with
room for as many names on the chain as there are live names.  In each frame that it is in, the names
on the chain are different, each is a plugin or a section of the settings that has values, and there
are no more of them than live names. -/
theorem resolution_within_live_names (cfg : Configuration) {σ : Type} (x : Executor σ) (task : Task)
    (commands : List String) (s : σ) :
    ∃ frames, traceCommands cfg x cfg.liveNames.card .root task commands s =
        some ⟨frames, executeCommands cfg x .root task commands s⟩ ∧
      ∀ g ∈ frames, g.chain.Nodup ∧
        (∀ name ∈ g.chain,
          (cfg.plugins.get? name).isSome ∨ (cfg.settings.get? [name]).isSome) ∧
        g.chain.length ≤ cfg.liveNames.card := by
  have hroom : cfg.liveNames.card ≤ Frame.root.chain.length + cfg.liveNames.card :=
    Nat.le_add_left _ _
  obtain ⟨frames, hframes, hsound⟩ :=
    traces_executeCommands .root cfg.liveNames.card (.root cfg) hroom x task commands s
  exact ⟨frames, hframes, fun g hg => ⟨(hsound g hg).nodup, (hsound g hg).live,
    (hsound g hg).length_le⟩⟩

end Orchestrator
