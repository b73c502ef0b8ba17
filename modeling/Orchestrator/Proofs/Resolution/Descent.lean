import Orchestrator.Proofs.Execution.Delivery
import Orchestrator.Resolution.Basic

/-!
# How resolution descends

Resolution recurses through user-written settings, so nothing that it is given gets smaller.  What
gets smaller is the set of names that may still enter the chain: each frame that is opened inside
another one has one more live name on its chain.  This file says so once, and everything about the
recursion is derived from it.

* `Referent`, `Configuration.referent`: what a name stands for in a frame.
* `executeCommand_eq`: **one call of the resolution**, by what its command stands for; with
  `executeCommands_cons` and the equations of `perform` it replaces the definitions.
* `Configuration.IsLive`: the names that a frame can be opened for, a registered plugin or a section
  of the settings that has values.
* `Configuration.Opens` and `Configuration.frame_induction`: induction over the frames that are
  opened inside a frame; `Configuration.command_induction` for the commands in them.
-/

namespace Orchestrator

/-! ## Frames -/

namespace Frame

/-- The frame with one more name on its chain. -/
def pushed (f : Frame) (name : String) : Frame :=
  { f with chain := f.chain ++ [name] }

@[simp] theorem chain_pushed (f : Frame) (name : String) :
    (f.pushed name).chain = f.chain ++ [name] := rfl

theorem enter_eq (f : Frame) (name : String) :
    f.enter name =
      if name ∈ f.chain then .error (.cyclicCommand (f.chain ++ [name]))
      else .ok (f.pushed name) := rfl

theorem descend_eq (f : Frame) (name : String) :
    f.descend name =
      if name ∈ f.chain then .error (.cyclicCommand (f.chain ++ [name]))
      else .ok ((f.pushed name).scopedTo name) := by
  rw [descend, enter_eq]
  by_cases h : name ∈ f.chain
  · rw [if_pos h, if_pos h]
    rfl
  · rw [if_neg h, if_neg h]
    rfl

/-- The frame in which a plugin that stands in a frame resolves the commands that it wraps. -/
def wrapping (f : Frame) (p : Plugin) : Frame :=
  f.scopedTo (f.scopedCommand p.name)

end Frame

/-! ## What a name stands for -/

/-- What a name stands for in a frame. -/
inductive Referent where
  /-- A plugin, which is applied. -/
  | plugin (p : Plugin)
  /-- A section of the settings, which is replaced by its values. -/
  | values (names : List String)
  /-- Nothing. -/
  | unknown
  /-- A plugin or a section that is being resolved already. -/
  | cyclic

namespace Configuration

/-- What a name stands for in a frame.  Plugins come before sections of the settings, and a section
without values is nothing. -/
def referent (cfg : Configuration) (f : Frame) (name : String) : Referent :=
  match cfg.plugins.get? name, cfg.settings.get? [name] with
  | some p, _ => if name ∈ f.chain then .cyclic else .plugin p
  | none, some values => if name ∈ f.chain then .cyclic else .values values
  | none, none => .unknown

variable {cfg : Configuration} {f g : Frame} {name : String}

theorem get?_of_referent_plugin {p : Plugin} (h : cfg.referent f name = .plugin p) :
    cfg.plugins.get? name = some p ∧ name ∉ f.chain := by
  unfold referent at h
  split at h
  · rename_i q hq
    split at h
    · cases h
    · rename_i hf
      cases h
      exact ⟨hq, hf⟩
  · split at h <;> cases h
  · cases h

theorem get?_of_referent_values {values : List String}
    (h : cfg.referent f name = .values values) :
    cfg.settings.get? [name] = some values ∧ name ∉ f.chain := by
  unfold referent at h
  split at h
  · split at h <;> cases h
  · rename_i values' _ hvalues
    split at h
    · cases h
    · rename_i hf
      cases h
      exact ⟨hvalues, hf⟩
  · cases h

/-! ## Frames inside frames -/

/-- Whether a frame can be opened for a name: it is a registered plugin, or a section of the
settings that has values. -/
def IsLive (cfg : Configuration) (name : String) : Prop :=
  (cfg.plugins.get? name).isSome ∨ (cfg.settings.get? [name]).isSome

instance (name : String) : Decidable (cfg.IsLive name) :=
  inferInstanceAs (Decidable (_ ∨ _))

theorem IsLive.mem_knownNames (h : cfg.IsLive name) : name ∈ cfg.knownNames := by
  rcases h with h | h
  · obtain ⟨p, hp⟩ := Option.isSome_iff_exists.1 h
    exact mem_knownNames_of_plugin hp
  · obtain ⟨values, hvalues⟩ := Option.isSome_iff_exists.1 h
    exact mem_knownNames_of_settings hvalues

/-- Whether a frame stands directly inside another one: a live name has entered the chain. -/
def Opens (cfg : Configuration) (f g : Frame) : Prop :=
  ∃ name, cfg.IsLive name ∧ name ∉ f.chain ∧ g.chain = f.chain ++ [name]

theorem Opens.length_freshNames_lt (h : cfg.Opens f g) :
    (cfg.freshNames g).length < (cfg.freshNames f).length := by
  obtain ⟨name, hlive, hnew, hchain⟩ := h
  exact Configuration.length_freshNames_lt hlive.mem_knownNames hnew hchain

/-- The frame of a plugin stands inside the frame in which the plugin is named, and so does the
frame for the commands that it wraps. -/
theorem opens_of_referent_plugin {p : Plugin} (h : cfg.referent f name = .plugin p)
    (hg : g.chain = f.chain ++ [name]) : cfg.Opens f g := by
  obtain ⟨hp, hf⟩ := get?_of_referent_plugin h
  exact ⟨name, Or.inl (Option.isSome_of_eq_some hp), hf, hg⟩

/-- The frame of a section stands inside the frame in which the section is named. -/
theorem opens_of_referent_values {values : List String}
    (h : cfg.referent f name = .values values) (hg : g.chain = f.chain ++ [name]) :
    cfg.Opens f g := by
  obtain ⟨hvalues, hf⟩ := get?_of_referent_values h
  exact ⟨name, Or.inr (Option.isSome_of_eq_some hvalues), hf, hg⟩

/-- **Induction over frames.**  What holds of a frame whenever it holds of all frames that stand
directly inside it holds of every frame. -/
theorem frame_induction (cfg : Configuration) {P : Frame → Prop}
    (step : ∀ f, (∀ g, cfg.Opens f g → P g) → P f) (f : Frame) : P f :=
  step f fun g _ => frame_induction cfg step g
termination_by (cfg.freshNames f).length
decreasing_by exact Opens.length_freshNames_lt ‹_›

/-- **Induction over lists of commands**, in the frames in which they are resolved.  A command is
looked at by what it stands for: of a plugin, what is to be proved may be assumed of all commands
that it might wrap, and of a section it may be assumed of its values. -/
theorem command_induction (cfg : Configuration) {P : Frame → List String → Prop}
    (nil : ∀ f, P f [])
    (cons : ∀ f command commands, P f [command] → P f commands → P f (command :: commands))
    (plugin : ∀ f command p, cfg.referent f command = .plugin p →
      (∀ commands, P ((f.pushed command).wrapping p) commands) → P f [command])
    (values : ∀ f command values, cfg.referent f command = .values values →
      P ((f.pushed command).scopedTo command) values → P f [command])
    (unknown : ∀ f command, cfg.referent f command = .unknown → P f [command])
    (cyclic : ∀ f command, cfg.referent f command = .cyclic → P f [command])
    (f : Frame) (commands : List String) : P f commands := by
  induction f using cfg.frame_induction generalizing commands with
  | step f ih =>
    induction commands with
    | nil => exact nil f
    | cons command commands ihcommands =>
      refine cons f command commands ?_ ihcommands
      cases hname : cfg.referent f command with
      | plugin p =>
        exact plugin f command p hname fun inner => ih _ (opens_of_referent_plugin hname rfl) inner
      | values names =>
        exact values f command names hname (ih _ (opens_of_referent_values hname rfl) names)
      | unknown => exact unknown f command hname
      | cyclic => exact cyclic f command hname

/-- What comes of one application of a plugin, in the frame that it has entered. -/
def application (cfg : Configuration) (f : Frame) (p : Plugin) (task : Task) :
    Outcome DispatchError (List Task) :=
  (cfg.prepare f p task).andThen (perform cfg (f.wrapping p) p.name)

end Configuration

/-! ## One call of the resolution -/

section Equations

variable {σ : Type} (cfg : Configuration) (x : Executor σ) (f : Frame) (task : Task)

@[simp] theorem executeCommands_nil (s : σ) : executeCommands cfg x f task [] s = .done s := by
  rw [executeCommands]

theorem executeCommands_cons (command : String) (commands : List String) (s : σ) :
    executeCommands cfg x f task (command :: commands) s =
      (executeCommand cfg x f task command s).andThen (executeCommands cfg x f task commands) := by
  rw [executeCommands]

/-- A list of one command is that command. -/
theorem executeCommands_singleton (s : σ) (command : String) :
    executeCommands cfg x f task [command] s = executeCommand cfg x f task command s := by
  rw [executeCommands_cons]
  have hnil : executeCommands cfg x f task [] = Progress.done := by
    funext s
    exact executeCommands_nil cfg x f task s
  rw [hnil, Progress.andThen_done]

/-- The first command that fails ends a list of commands with its error, in the state in which the
commands before it leave the executor. -/
theorem exists_of_error_executeCommands {commands : List String} {s : σ} {e : DispatchError}
    (h : (executeCommands cfg x f task commands s).error = some e) :
    ∃ before command after, commands = before ++ command :: after ∧
      (executeCommands cfg x f task before s).error = none ∧
      (executeCommand cfg x f task command
        (executeCommands cfg x f task before s).state).error = some e := by
  induction commands generalizing s with
  | nil =>
    rw [executeCommands_nil] at h
    cases h
  | cons command commands ih =>
    rw [executeCommands_cons] at h
    cases hfirst : (executeCommand cfg x f task command s).error with
    | some e' =>
      rw [Progress.andThen_of_error hfirst, hfirst] at h
      cases h
      refine ⟨[], command, commands, rfl, ?_, ?_⟩
      · rw [executeCommands_nil]
        rfl
      · rw [executeCommands_nil]
        exact hfirst
    | none =>
      rw [Progress.andThen_of_none hfirst] at h
      obtain ⟨before, failing, after, rfl, hbefore, hfailing⟩ := ih h
      refine ⟨command :: before, failing, after, rfl, ?_, ?_⟩
      · rw [executeCommands_cons, Progress.andThen_of_none hfirst]
        exact hbefore
      · rw [executeCommands_cons, Progress.andThen_of_none hfirst]
        exact hfailing

variable {command : String}

/-- The name of a plugin, whatever the settings say. -/
theorem executeCommand_of_plugin {p : Plugin} (hp : cfg.plugins.get? command = some p) (s : σ) :
    executeCommand cfg x f task command s =
      match f.enter command with
      | .error e => .failed s e
      | .ok inner => x.accept ((cfg.application inner p task).counted command) s := by
  rw [executeCommand]
  split
  · rename_i q hq
    cases hq.symm.trans hp
    split
    · rename_i e he
      rw [he]
    · rename_i inner he
      rw [he]
      exact (x.accept_counted command (cfg.application inner p task) s).symm
  · rename_i hq
    cases hq.symm.trans hp

/-- The name of no plugin. -/
theorem executeCommand_of_section (hp : cfg.plugins.get? command = none) (s : σ) :
    executeCommand cfg x f task command s =
      match cfg.settings.get? [command], f.descend command with
      | none, _ => .failed s (.unknownCommand command)
      | some _, .error e => .failed s e
      | some values, .ok inner =>
        (executeCommands cfg x inner task values s).noting (.log (.resolving command values)) := by
  rw [executeCommand]
  split
  · rename_i q hq
    cases hq.symm.trans hp
  · split
    · rename_i hs
      rw [hs]
    · rename_i values hs
      rw [hs]
      split
      · rename_i e he
        rw [he]
      · rename_i inner he
        rw [he]

/-- **One call of the resolution.**  A plugin is applied once, and what it produces is handed over;
a section stands for its values, in a frame that is scoped to it. -/
theorem executeCommand_eq (command : String) (s : σ) :
    executeCommand cfg x f task command s =
      match cfg.referent f command with
      | .plugin p => x.accept ((cfg.application (f.pushed command) p task).counted command) s
      | .values values =>
        (executeCommands cfg x ((f.pushed command).scopedTo command) task values s).noting
          (.log (.resolving command values))
      | .unknown => .failed s (.unknownCommand command)
      | .cyclic => .failed s (.cyclicCommand (f.chain ++ [command])) := by
  rw [Configuration.referent]
  cases hp : cfg.plugins.get? command with
  | some p =>
    rw [executeCommand_of_plugin cfg x f task hp, f.enter_eq]
    by_cases hf : command ∈ f.chain
    · simp only [hf, if_true]
    · simp only [hf, if_false]
  | none =>
    rw [executeCommand_of_section cfg x f task hp, f.descend_eq]
    cases cfg.settings.get? [command] with
    | none => rfl
    | some values =>
      by_cases hf : command ∈ f.chain
      · simp only [hf, if_true]
      · simp only [hf, if_false]

theorem executeCommands_singleton_eq (command : String) (s : σ) :
    executeCommands cfg x f task [command] s =
      match cfg.referent f command with
      | .plugin p => x.accept ((cfg.application (f.pushed command) p task).counted command) s
      | .values values =>
        (executeCommands cfg x ((f.pushed command).scopedTo command) task values s).noting
          (.log (.resolving command values))
      | .unknown => .failed s (.unknownCommand command)
      | .cyclic => .failed s (.cyclicCommand (f.chain ++ [command])) := by
  rw [executeCommands_singleton, executeCommand_eq]

variable (plugin : String)

@[simp] theorem perform_nil : perform cfg f plugin [] = .ok [] := by
  rw [perform]

theorem perform_emit (t : Task) (steps : List Step) :
    perform cfg f plugin (.emit t :: steps) = (perform cfg f plugin steps).map (t :: ·) := by
  rw [perform]

theorem perform_resolve (commands : List String) (t : Task) (steps : List Step) :
    perform cfg f plugin (.resolve commands t :: steps) =
      ((resolveCommands cfg f t commands).mapError (.within plugin)).andThen fun tasks =>
        (perform cfg f plugin steps).map (tasks ++ ·) := by
  rw [perform]
  rfl

end Equations
end Orchestrator
