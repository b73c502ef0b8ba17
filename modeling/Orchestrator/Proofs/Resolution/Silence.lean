import Orchestrator.Proofs.Resolution.Leaves
import Orchestrator.Proofs.Resolution.Preparation

/-!
# Resolution writes nothing

What a resolution says of its own accord goes to the log, or records that a plugin is applied.  Text
on the two streams comes from the executor alone.

* `mem_journal_executeCommands_cases`: where an entry of the journal of a resolution comes from.
* `Outcome.WritesNothing`: a journal without text; outcomes of leaves are such.
* `errorTexts_executeCommands`: **the texts on the error stream are those of the executor**.
-/

namespace Orchestrator

namespace Entry

/-- Whether an entry is text for one of the two streams. -/
def isText : Entry → Bool
  | .out _ => true
  | .err _ => true
  | _ => false

/-- The texts of a journal for the error stream, in order. -/
def errorTexts (journal : List Entry) : List String :=
  journal.filterMap err?

@[simp] theorem errorTexts_nil : errorTexts [] = [] := rfl

@[simp] theorem errorTexts_append (j k : List Entry) :
    errorTexts (j ++ k) = errorTexts j ++ errorTexts k :=
  List.filterMap_append ..

@[simp] theorem errorTexts_log_cons (m : Message) (j : List Entry) :
    errorTexts (.log m :: j) = errorTexts j := rfl

@[simp] theorem errorTexts_err_cons (t : String) (j : List Entry) :
    errorTexts (.err t :: j) = t :: errorTexts j := rfl

@[simp] theorem errorTexts_unlogged (j : List Entry) :
    errorTexts (unlogged j) = errorTexts j := by
  induction j with
  | nil => rfl
  | cons e j ih =>
    cases e with
    | log m => exact ih
    | applied a => exact ih
    | out t => exact ih
    | err t => exact congrArg (t :: ·) ih

end Entry

/-! ## Where an entry comes from -/

section

variable {cfg : Configuration} {entry : Entry}

theorem mem_journal_perform {f : Frame} {plugin : String} {steps : List Step}
    (h : entry ∈ (perform cfg f plugin steps).journal) :
    ∃ t commands, entry ∈ (resolveCommands cfg f t commands).journal := by
  induction steps with
  | nil =>
    rw [perform_nil] at h
    cases h
  | cons step steps ih =>
    cases step with
    | emit t =>
      rw [perform_emit] at h
      exact ih h
    | resolve commands t =>
      rw [perform_resolve] at h
      rcases Outcome.mem_journal_andThen h with h | ⟨tasks, -, h⟩
      · exact ⟨t, commands, h⟩
      · exact ih h

/-- **Where an entry comes from**: the executor writes it, the resolution says which values stand
for a section or how many tasks a plugin has, or it is written when a plugin is asked for its
plan. -/
theorem mem_journal_executeCommands_cases {σ : Type} {x : Executor σ} {f : Frame} {task : Task}
    {commands : List String} {s : σ}
    (h : entry ∈ (executeCommands cfg x f task commands s).journal) :
    (∃ t u, entry ∈ (x.execute t u).journal) ∨
      (∃ command values, entry = .log (.resolving command values)) ∨
      (∃ command count, entry = .log (.produced command count)) ∨
      ∃ g p t, entry ∈ (cfg.prepare g p t).journal := by
  induction f, commands using cfg.command_induction generalizing σ x task s with
  | nil f =>
    rw [executeCommands_nil] at h
    cases h
  | cons f command commands ihcommand ihcommands =>
    rw [executeCommands_cons, ← executeCommands_singleton] at h
    rcases Progress.mem_journal_andThen h with h | h
    · exact ihcommand h
    · exact ihcommands h
  | plugin f command p hname ih =>
    rw [executeCommands_singleton_eq, hname] at h
    rcases x.mem_journal_accept h with h | h
    · rcases Outcome.mem_journal_counted h with h | ⟨count, rfl⟩
      · rcases Outcome.mem_journal_andThen h with h | ⟨steps, -, h⟩
        · exact Or.inr (Or.inr (Or.inr ⟨_, p, task, h⟩))
        · obtain ⟨t, inner, h⟩ := mem_journal_perform h
          -- the collector, to which these commands are handed, writes nothing
          rcases ih inner h with ⟨t, v, h⟩ | h
          · cases h
          · exact Or.inr h
      · exact Or.inr (Or.inr (Or.inl ⟨command, count, rfl⟩))
    · exact Or.inl h
  | values f command values hname ih =>
    rw [executeCommands_singleton_eq, hname] at h
    rcases List.mem_cons.1 h with rfl | h
    · exact Or.inr (Or.inl ⟨command, values, rfl⟩)
    · exact ih h
  | unknown f command hname =>
    rw [executeCommands_singleton_eq, hname] at h
    cases h
  | cyclic f command hname =>
    rw [executeCommands_singleton_eq, hname] at h
    cases h

end

/-! ## Outcomes without text -/

namespace Outcome

variable {ε ε' α β : Type} {o : Outcome ε α}

/-- Whether no entry of a journal is text. -/
def WritesNothing (o : Outcome ε α) : Prop :=
  ∀ e ∈ o.journal, e.isText = false

theorem WritesNothing.after (h : o.WritesNothing) {j : List Entry}
    (hj : ∀ e ∈ j, e.isText = false) : (o.after j).WritesNothing := by
  intro e he
  rcases List.mem_append.1 he with he | he
  · exact hj e he
  · exact h e he

theorem WritesNothing.andThen {next : α → Outcome ε β} (h : o.WritesNothing)
    (hnext : ∀ a, (next a).WritesNothing) : (o.andThen next).WritesNothing := by
  obtain ⟨j, r⟩ := o
  cases r with
  | error e => exact h
  | ok a => exact (hnext a).after h

theorem writesNothing_concat {os : List (Outcome ε (List α))} (h : ∀ o ∈ os, o.WritesNothing) :
    (concat os).WritesNothing := by
  induction os with
  | nil =>
    intro e he
    cases he
  | cons o os ih =>
    refine (h o List.mem_cons_self).andThen fun as => ?_
    exact ih fun p hp => h p (List.mem_cons_of_mem o hp)

end Outcome

theorem Configuration.writesNothing_prepare (cfg : Configuration) (f : Frame) (p : Plugin)
    (task : Task) : (cfg.prepare f p task).WritesNothing := by
  intro e he
  rcases mem_journal_prepare_cases he with ⟨m, rfl⟩ | ⟨patterns, -, rfl⟩ <;> rfl

/-- Nothing that comes of a leaf is text. -/
theorem Leaf.writesNothing_outcome (cfg : Configuration) (task : Task) (l : Leaf) :
    (l.outcome cfg task).WritesNothing := by
  induction l using cfg.leaf_induction generalizing task with
  | unknown name =>
    rw [outcome_unknown]
    intro e he
    cases he
  | cyclic chain =>
    rw [outcome_cyclic]
    intro e he
    cases he
  | application f p ih =>
    rw [outcome_application]
    refine (cfg.writesNothing_prepare f p task).andThen fun steps => ?_
    refine Outcome.writesNothing_concat fun o ho => ?_
    obtain ⟨step, -, rfl⟩ := List.mem_map.1 ho
    cases step with
    | emit t =>
      intro e he
      cases he
    | resolve commands t =>
      refine Outcome.writesNothing_concat fun o ho => ?_
      obtain ⟨l, hl, rfl⟩ := List.mem_map.1 ho
      exact ih commands l hl t

theorem Configuration.errorTexts_of_mem_outcomes {cfg : Configuration} {f : Frame} {task : Task}
    {names : List String} {o : Outcome DispatchError (List Task)}
    (h : o ∈ cfg.outcomes f task names) : Entry.errorTexts o.journal = [] := by
  obtain ⟨l, -, rfl⟩ := List.mem_map.1 h
  refine List.filterMap_eq_nil_iff.2 fun e he => ?_
  have htext := l.writesNothing_outcome cfg task e he
  cases e with
  | log m => rfl
  | applied a => rfl
  | out t => rfl
  | err t => cases htext

/-! ## Deliveries -/

section

variable {σ : Type} (cfg : Configuration) (x : Executor σ) (f : Frame) (task : Task)
  (commands : List String) (s : σ)

/-- **The texts on the error stream are those of the executor** on the delivered tasks. -/
theorem errorTexts_executeCommands :
    Entry.errorTexts (executeCommands cfg x f task commands s).journal =
      Entry.errorTexts
        (x.executeAll (Outcome.delivered (cfg.outcomes f task commands)) s).journal := by
  have hsilent : ∀ o ∈ cfg.outcomes f task commands, o.journal.filterMap Entry.err? = [] :=
    fun o ho => Configuration.errorTexts_of_mem_outcomes ho
  have hquiet := congrArg (fun p => Entry.errorTexts p.journal)
    (quiet_executeCommands cfg f x task commands s)
  calc Entry.errorTexts (executeCommands cfg x f task commands s).journal
    _ = Entry.errorTexts (executeCommands cfg x f task commands s).quiet.journal :=
      (Entry.errorTexts_unlogged _).symm
    _ = Entry.errorTexts (x.deliver (cfg.outcomes f task commands) s).journal :=
      hquiet.trans (Entry.errorTexts_unlogged _)
    _ = _ := x.filterMap_deliver Entry.err? hsilent s

end
end Orchestrator
