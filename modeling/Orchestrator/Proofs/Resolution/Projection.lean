import Orchestrator.Proofs.Execution.Watch
import Orchestrator.Proofs.Resolution.Descent

/-!
# Executors that do the same

An executor may keep more in its state than another one and answer every task alike, as a watched
executor does.  Then a resolution under it goes as under the other one, entry for entry, and ends in
a state that projects to the state of the other one.

* `Progress.mapState`: a progress on a part of the state.
* `Executor.Follows`: whether an executor does what another one does on a part of its state;
  `Executor.watched_follows`.
* `executeCommands_mapState`: **resolution passes to the part of the state**, log messages included.
-/

namespace Orchestrator

namespace Progress

variable {ε ε' σ τ : Type} (g : τ → σ)

/-- The progress on a part of the state. -/
def mapState (p : Progress ε τ) : Progress ε σ :=
  ⟨p.journal, g p.state, p.error⟩

@[simp] theorem mapState_done (w : τ) : (done w : Progress ε τ).mapState g = done (g w) := rfl

@[simp] theorem mapState_failed (w : τ) (e : ε) : (failed w e).mapState g = failed (g w) e := rfl

@[simp] theorem mapState_mapError (k : ε → ε') (p : Progress ε τ) :
    (p.mapError k).mapState g = (p.mapState g).mapError k := rfl

@[simp] theorem mapState_noting (entry : Entry) (p : Progress ε τ) :
    (p.noting entry).mapState g = (p.mapState g).noting entry := rfl

@[simp] theorem mapState_after (j : List Entry) (p : Progress ε τ) :
    (p.after j).mapState g = (p.mapState g).after j := rfl

theorem mapState_andThen {next : τ → Progress ε τ} {next' : σ → Progress ε σ}
    (h : ∀ w, (next w).mapState g = next' (g w)) (p : Progress ε τ) :
    (p.andThen next).mapState g = (p.mapState g).andThen next' := by
  obtain ⟨j, w, e⟩ := p
  cases e with
  | some e => rfl
  | none =>
    rw [andThen_of_none rfl, andThen_of_none rfl, mapState_after, h]
    rfl

end Progress

namespace Executor

variable {σ τ : Type} {y : Executor τ} {x : Executor σ} {g : τ → σ}

/-- Whether an executor does what another one does on a part of its state. -/
def Follows (y : Executor τ) (x : Executor σ) (g : τ → σ) : Prop :=
  ∀ t w, (y.execute t w).mapState g = x.execute t (g w)

/-- A watched executor does what it does without the watch. -/
theorem watched_follows (x : Executor σ) : x.watched.Follows x Watch.state := fun _ _ => rfl

theorem Follows.executeAll (h : y.Follows x g) (ts : List Task) (w : τ) :
    (y.executeAll ts w).mapState g = x.executeAll ts (g w) := by
  induction ts generalizing w with
  | nil => rfl
  | cons t ts ih =>
    rw [executeAll_cons, executeAll_cons, Progress.mapState_andThen g ih, h]

theorem Follows.accept (h : y.Follows x g) (o : Outcome DispatchError (List Task)) (w : τ) :
    (y.accept o w).mapState g = x.accept o (g w) := by
  cases ho : o.result with
  | error e =>
    rw [accept_of_error ho, accept_of_error ho]
    rfl
  | ok ts =>
    rw [accept_of_ok ho, accept_of_ok ho, Progress.mapState_after, Progress.mapState_mapError,
      h.executeAll]

end Executor

section

variable {σ τ : Type} {cfg : Configuration} {y : Executor τ} {x : Executor σ} {g : τ → σ}

/-- **Resolution passes to the part of the state** on which executors do the same. -/
theorem executeCommands_mapState (h : y.Follows x g) (f : Frame) (task : Task)
    (commands : List String) (w : τ) :
    (executeCommands cfg y f task commands w).mapState g =
      executeCommands cfg x f task commands (g w) := by
  induction f, commands using cfg.command_induction generalizing w with
  | nil f => rw [executeCommands_nil, executeCommands_nil, Progress.mapState_done]
  | cons f command commands ihcommand ihcommands =>
    simp only [executeCommands_singleton] at ihcommand
    rw [executeCommands_cons, executeCommands_cons, Progress.mapState_andThen g ihcommands,
      ihcommand]
  | plugin f command p hname ih =>
    simp only [executeCommands_singleton_eq, hname]
    exact h.accept _ w
  | values f command values hname ih =>
    simp only [executeCommands_singleton_eq, hname]
    exact congrArg (Progress.noting _) (ih w)
  | unknown f command hname =>
    simp only [executeCommands_singleton_eq, hname]
    rfl
  | cyclic f command hname =>
    simp only [executeCommands_singleton_eq, hname]
    rfl

theorem executeCommand_mapState (h : y.Follows x g) (f : Frame) (task : Task) (command : String)
    (w : τ) :
    (executeCommand cfg y f task command w).mapState g =
      executeCommand cfg x f task command (g w) := by
  rw [← executeCommands_singleton, ← executeCommands_singleton]
  exact executeCommands_mapState h f task [command] w

end
end Orchestrator
