import Orchestrator.Proofs.Resolution.Preparation
import Orchestrator.Proofs.Resolution.Projection

/-!
# The names that a resolution looks up

A resolution looks a name up when it comes to it, and it does not come to the names behind one that
fails, nor to the commands in a plan behind such that fail.  Which names it looks up thus depends on
the executor as well, by the tasks that it refuses.

* `Configuration.LooksUp`: the names that are looked up, each with its frame.
* `Configuration.LooksUp.of_follows`: executors that do the same lead to the same names.
* `Configuration.UsesSection`, `Configuration.UsesPattern`: **what a resolution uses of the settings
  and of the patterns**.
-/

namespace Orchestrator

namespace Configuration

/-! ## Names -/

/-- The names that a resolution of commands looks up, each with its frame. -/
inductive LooksUp (cfg : Configuration) :
    {σ : Type} → Executor σ → Frame → Task → List String → σ → Frame → String → Prop where
  /-- The first command. -/
  | head {σ : Type} {x : Executor σ} {f : Frame} {t : Task} {command : String}
      {commands : List String} {s : σ} : LooksUp cfg x f t (command :: commands) s f command
  /-- What the other commands look up, once the first one has succeeded. -/
  | tail {σ : Type} {x : Executor σ} {f g : Frame} {t : Task} {command name : String}
      {commands : List String} {s : σ} (h : (executeCommand cfg x f t command s).error = none)
      (hname : LooksUp cfg x f t commands (executeCommand cfg x f t command s).state g name) :
      LooksUp cfg x f t (command :: commands) s g name
  /-- What the values of a section look up, in the frame that is scoped to the section. -/
  | value {σ : Type} {x : Executor σ} {f g : Frame} {t : Task} {command name : String}
      {commands values : List String} {s : σ} (h : cfg.referent f command = .values values)
      (hname : LooksUp cfg x ((f.pushed command).scopedTo command) t values s g name) :
      LooksUp cfg x f t (command :: commands) s g name
  /-- What the commands in the plan of a plugin look up, once the steps before them have been
  carried out.  Their tasks are collected. -/
  | wrapped {σ : Type} {x : Executor σ} {f g : Frame} {t u : Task} {command name : String}
      {commands inner : List String} {s : σ} {p : Plugin} {before after : List Step}
      {tasks : List Task} (h : cfg.referent f command = .plugin p)
      (hsteps : (cfg.prepare (f.pushed command) p t).result =
        .ok (before ++ .resolve inner u :: after))
      (hbefore : (perform cfg ((f.pushed command).wrapping p) p.name before).result = .ok tasks)
      (hname : LooksUp cfg Executor.collector ((f.pushed command).wrapping p) u inner [] g name) :
      LooksUp cfg x f t (command :: commands) s g name

/-- What the first command of a list looks up, the list looks up. -/
theorem LooksUp.of_singleton {cfg : Configuration} {σ : Type} {x : Executor σ} {f g : Frame}
    {t : Task} {command name : String} {commands : List String} {s : σ}
    (h : cfg.LooksUp x f t [command] s g name) :
    cfg.LooksUp x f t (command :: commands) s g name := by
  cases h with
  | head => exact .head
  | tail _ hname => cases hname
  | value h hname => exact .value h hname
  | wrapped h hsteps hbefore hname => exact .wrapped h hsteps hbefore hname

/-- An executor that does on a part of its state what another one does looks up the same names. -/
theorem LooksUp.of_follows {cfg : Configuration} {τ : Type} {y : Executor τ} {f g : Frame}
    {t : Task} {commands : List String} {w : τ} {name : String}
    (h : cfg.LooksUp y f t commands w g name) :
    ∀ {σ : Type} {x : Executor σ} {k : τ → σ}, y.Follows x k →
      cfg.LooksUp x f t commands (k w) g name := by
  induction h with
  | head =>
    intro σ x k hk
    exact .head
  | @tail τ y f g t command name commands w h hname ih =>
    intro σ x k hk
    have hfirst : (executeCommand cfg y f t command w).mapState k =
        executeCommand cfg x f t command (k w) := executeCommand_mapState hk f t command w
    refine .tail ?_ ?_
    · rw [← hfirst]
      exact h
    · rw [← hfirst]
      exact ih hk
  | value h hname ih =>
    intro σ x k hk
    exact .value h (ih hk)
  | wrapped h hsteps hbefore hname ih =>
    intro σ x k hk
    exact .wrapped h hsteps hbefore hname

/-! ## Sections and patterns -/

section

variable (cfg : Configuration) {σ : Type} (x : Executor σ) (f : Frame) (task : Task)
  (commands : List String) (s : σ)

/-- The sections of the settings that a resolution may look at: those of registered plugins, and
those that it looks up as commands. -/
def UsesSection (name : String) : Prop :=
  (∃ key p, cfg.plugins.get? key = some p ∧ p.name = name) ∨
    ∃ g, cfg.LooksUp x f task commands s g name

/-- The patterns that a resolution may look at: those that the configuration of a plugin lists which
it comes to. -/
def UsesPattern (key : String) : Prop :=
  ∃ g name p, cfg.LooksUp x f task commands s g name ∧ cfg.referent g name = .plugin p ∧
    key ∈ cfg.patternKeys (g.pushed name) p

end

end Configuration
end Orchestrator
