import Orchestrator.Execution.Process
import Orchestrator.Proofs.Journal
import Orchestrator.Resolution.Error

/-!
# Handing over

What a resolution hands over comes in outcomes, each a list of tasks or an error.  An executor that
is handed a list of outcomes takes the tasks up to the first error, whether that is one of the
outcomes or one of its own.

* `Executor.accept`, `Executor.deliver`: one outcome, and a list of outcomes, handed over.
* `Outcome.delivered`, `Outcome.firstError`: the tasks before the first error, and that error; they
  do not depend on an executor.
* `Executor.state_deliver`, `Executor.error_deliver`: **an executor that is handed outcomes ends
  where it ends on the delivered tasks alone**, and only its own errors come before the first error.
* `Executor.collector_deliver`: what is collected is what `Outcome.concat` says.
* `Executor.applications_deliver`, `Executor.filterMap_deliver`: what a journal says about plugins,
  and what is printed.
-/

namespace Orchestrator

/-! ## Outcomes in a row -/

namespace Outcome

variable {ε α : Type}

/-- The results before the first error, one behind the other. -/
def delivered (os : List (Outcome ε (List α))) : List α :=
  (os.takeWhile succeeded).flatMap resultD

/-- The first error. -/
def firstError (os : List (Outcome ε (List α))) : Option ε :=
  os.findSome? error?

/-- The outcomes up to and including the first error. -/
def reached (os : List (Outcome ε (List α))) : List (Outcome ε (List α)) :=
  os.take ((os.takeWhile succeeded).length + 1)

variable {o : Outcome ε (List α)} {os : List (Outcome ε (List α))}

theorem delivered_cons_of_ok {as : List α} (h : o.result = .ok as) :
    delivered (o :: os) = as ++ delivered os := by
  simp [delivered, succeeded, resultD, h]

theorem delivered_cons_of_error {e : ε} (h : o.result = .error e) : delivered (o :: os) = [] := by
  simp [delivered, succeeded, h]

theorem firstError_cons_of_ok {as : List α} (h : o.result = .ok as) :
    firstError (o :: os) = firstError os := by
  simp [firstError, error?, h]

theorem firstError_cons_of_error {e : ε} (h : o.result = .error e) :
    firstError (o :: os) = some e := by
  simp [firstError, error?, h]

theorem reached_cons_of_ok {as : List α} (h : o.result = .ok as) :
    reached (o :: os) = o :: reached os := by
  simp [reached, succeeded, h]

theorem reached_cons_of_error {e : ε} (h : o.result = .error e) : reached (o :: os) = [o] := by
  simp [reached, succeeded, h]

theorem exists_of_mem_delivered {a : α} (h : a ∈ delivered os) :
    ∃ o ∈ os, ∃ as, o.result = .ok as ∧ a ∈ as := by
  obtain ⟨o, ho, ha⟩ := List.mem_flatMap.1 h
  refine ⟨o, (List.takeWhile_sublist _).subset ho, ?_⟩
  rw [resultD] at ha
  cases hr : o.result with
  | ok as =>
    rw [hr] at ha
    exact ⟨as, rfl, ha⟩
  | error e =>
    rw [hr] at ha
    cases ha

theorem exists_of_firstError {e : ε} (h : firstError os = some e) :
    ∃ o ∈ os, o.result = .error e := by
  obtain ⟨o, ho, he⟩ := List.exists_of_findSome?_eq_some h
  refine ⟨o, ho, ?_⟩
  rw [error?] at he
  cases hr : o.result with
  | ok as =>
    rw [hr] at he
    cases he
  | error e' =>
    rw [hr] at he
    cases he
    rfl

/-- There is no first error exactly when every outcome has a result. -/
theorem firstError_eq_none_iff : firstError os = none ↔ ∀ o ∈ os, o.succeeded := by
  rw [firstError, List.findSome?_eq_none_iff]
  refine forall₂_congr fun o _ => ?_
  rw [error?, succeeded]
  cases o.result <;> simp

/-- The outcome with a last log message about its tasks, if there are any. -/
def counted (command : String) (o : Outcome DispatchError (List Task)) :
    Outcome DispatchError (List Task) :=
  match o.result with
  | .error _ => o
  | .ok tasks => ⟨o.journal ++ [.log (.produced command tasks.length)], o.result⟩

theorem quiet_counted (command : String) (o : Outcome DispatchError (List Task)) :
    (o.counted command).quiet = o.quiet := by
  obtain ⟨j, r⟩ := o
  cases r with
  | error e => rfl
  | ok tasks =>
    simp only [counted, quiet, Entry.unlogged_append, Entry.unlogged_log_cons, Entry.unlogged_nil,
      List.append_nil]

theorem mem_journal_counted {o : Outcome DispatchError (List Task)} {command : String}
    {entry : Entry} (h : entry ∈ (o.counted command).journal) :
    entry ∈ o.journal ∨ ∃ count, entry = .log (.produced command count) := by
  obtain ⟨j, r⟩ := o
  cases r with
  | error e => exact Or.inl h
  | ok tasks => exact (List.mem_append.1 h).imp id fun h => ⟨_, List.mem_singleton.1 h⟩

end Outcome

namespace Executor

variable {σ : Type} (x : Executor σ)

/-! ## Lists of tasks -/

@[simp] theorem executeAll_nil (s : σ) : x.executeAll [] s = .done s := rfl

@[simp] theorem executeAll_cons (t : Task) (ts : List Task) (s : σ) :
    x.executeAll (t :: ts) s = (x.execute t s).andThen (x.executeAll ts) := rfl

/-- Two lists of tasks are handed over one behind the other. -/
theorem executeAll_append (ts us : List Task) (s : σ) :
    x.executeAll (ts ++ us) s = (x.executeAll ts s).andThen (x.executeAll us) := by
  induction ts generalizing s with
  | nil => rfl
  | cons t ts ih =>
    rw [List.cons_append, executeAll_cons, executeAll_cons, Progress.andThen_assoc]
    exact congrArg (x.execute t s).andThen (funext ih)

/-- What an executor keeps with each task, it keeps with a list of tasks. -/
theorem executeAll_preserves {P : σ → Prop} (h : ∀ t s, P s → P (x.execute t s).state)
    (ts : List Task) {s : σ} (hs : P s) : P (x.executeAll ts s).state := by
  induction ts generalizing s with
  | nil => exact hs
  | cons t ts ih =>
    rw [executeAll_cons]
    cases he : (x.execute t s).error with
    | some e =>
      rw [Progress.andThen_of_error he]
      exact h t s hs
    | none =>
      rw [Progress.andThen_of_none he]
      exact ih (h t s hs)

/-- The error of an executor on a list of tasks is its error on one of them. -/
theorem exists_of_error_executeAll {ts : List Task} {s : σ} {e : ExecutionError}
    (h : (x.executeAll ts s).error = some e) : ∃ t ∈ ts, ∃ u, (x.execute t u).error = some e := by
  induction ts generalizing s with
  | nil => cases h
  | cons t ts ih =>
    rw [executeAll_cons] at h
    cases he : (x.execute t s).error with
    | some e' =>
      rw [Progress.andThen_of_error he, he] at h
      cases h
      exact ⟨t, List.mem_cons_self, s, he⟩
    | none =>
      rw [Progress.andThen_of_none he] at h
      obtain ⟨t', ht', u, hu⟩ := ih h
      exact ⟨t', List.mem_cons_of_mem t ht', u, hu⟩

/-- What an executor writes on a list of tasks, it writes on one of them. -/
theorem mem_journal_executeAll {ts : List Task} {s : σ} {entry : Entry}
    (h : entry ∈ (x.executeAll ts s).journal) : ∃ t u, entry ∈ (x.execute t u).journal := by
  induction ts generalizing s with
  | nil => cases h
  | cons t ts ih =>
    rw [executeAll_cons] at h
    rcases Progress.mem_journal_andThen h with h | h
    · exact ⟨t, s, h⟩
    · exact ih h

/-- The collector keeps every task that it is handed. -/
theorem executeAll_collector (ts collected : List Task) :
    collector.executeAll ts collected = .done (collected ++ ts) := by
  induction ts generalizing collected with
  | nil => rw [executeAll_nil, List.append_nil]
  | cons t ts ih =>
    show (Progress.done (collected ++ [t])).andThen _ = _
    rw [Progress.done_andThen, ih, List.append_assoc]
    rfl

/-! ## Lists of outcomes -/

/-- Hands over the tasks of an outcome.  An error hands over nothing. -/
def accept (o : Outcome DispatchError (List Task)) (s : σ) : Progress DispatchError σ :=
  match o.result with
  | .error e => ⟨o.journal, s, some e⟩
  | .ok tasks => ((x.executeAll tasks s).mapError .execution).after o.journal

/-- Hands over outcomes in order; the first error ends it. -/
def deliver : List (Outcome DispatchError (List Task)) → σ → Progress DispatchError σ
  | [], s => .done s
  | o :: os, s => (x.accept o s).andThen (deliver os)

variable {x} {o : Outcome DispatchError (List Task)}

theorem accept_of_error {e : DispatchError} (h : o.result = .error e) (s : σ) :
    x.accept o s = ⟨o.journal, s, some e⟩ := by
  rw [accept, h]

theorem accept_of_ok {ts : List Task} (h : o.result = .ok ts) (s : σ) :
    x.accept o s = ((x.executeAll ts s).mapError .execution).after o.journal := by
  rw [accept, h]

theorem journal_subset_accept (x : Executor σ) (o : Outcome DispatchError (List Task)) (s : σ) :
    o.journal ⊆ (x.accept o s).journal := by
  cases ho : o.result with
  | error e =>
    rw [accept_of_error ho]
    exact List.Subset.refl _
  | ok ts =>
    rw [accept_of_ok ho]
    exact List.subset_append_left ..

theorem mem_journal_accept {s : σ} {entry : Entry} (h : entry ∈ (x.accept o s).journal) :
    entry ∈ o.journal ∨ ∃ t u, entry ∈ (x.execute t u).journal := by
  cases ho : o.result with
  | error e =>
    rw [accept_of_error ho] at h
    exact Or.inl h
  | ok ts =>
    rw [accept_of_ok ho] at h
    exact (List.mem_append.1 h).imp id x.mem_journal_executeAll

variable (x)

theorem accept_counted (command : String) (o : Outcome DispatchError (List Task)) (s : σ) :
    x.accept (o.counted command) s =
      match o.result with
      | .error e => ⟨o.journal, s, some e⟩
      | .ok tasks => ((x.executeAll tasks s).mapError .execution).after
          (o.journal ++ [.log (.produced command tasks.length)]) := by
  obtain ⟨j, r⟩ := o
  cases r <;> rfl

/-- What an outcome logs does not matter to what comes of handing it over. -/
theorem quiet_accept_congr {o o' : Outcome DispatchError (List Task)} (h : o.quiet = o'.quiet)
    (s : σ) : (x.accept o s).quiet = (x.accept o' s).quiet := by
  obtain ⟨j, r⟩ := o
  obtain ⟨j', r'⟩ := o'
  rw [Outcome.quiet, Outcome.quiet, Outcome.mk.injEq] at h
  obtain ⟨hj, rfl⟩ := h
  cases r with
  | error e => simp only [accept, Progress.quiet, hj]
  | ok ts => rw [accept, accept, Progress.quiet_after, Progress.quiet_after, hj]

@[simp] theorem deliver_nil (s : σ) : x.deliver [] s = .done s := rfl

@[simp] theorem deliver_cons (o : Outcome DispatchError (List Task))
    (os : List (Outcome DispatchError (List Task))) (s : σ) :
    x.deliver (o :: os) s = (x.accept o s).andThen (x.deliver os) := rfl

theorem deliver_singleton (o : Outcome DispatchError (List Task)) (s : σ) :
    x.deliver [o] s = x.accept o s :=
  Progress.andThen_done _

/-- Two lists of outcomes are handed over one behind the other. -/
theorem deliver_append (os ps : List (Outcome DispatchError (List Task))) (s : σ) :
    x.deliver (os ++ ps) s = (x.deliver os s).andThen (x.deliver ps) := by
  induction os generalizing s with
  | nil => rfl
  | cons o os ih =>
    rw [List.cons_append, deliver_cons, deliver_cons, Progress.andThen_assoc]
    exact congrArg (x.accept o s).andThen (funext ih)

section

variable {x} {o : Outcome DispatchError (List Task)} {ts : List Task} {s : σ}

theorem deliver_cons_of_error {e : DispatchError} (h : o.result = .error e)
    (os : List (Outcome DispatchError (List Task))) :
    x.deliver (o :: os) s = ⟨o.journal, s, some e⟩ := by
  rw [deliver_cons, accept_of_error h]
  rfl

/-- When the executor refuses a task of an outcome, nothing after it is handed over. -/
theorem deliver_cons_of_refused {e : ExecutionError} (h : o.result = .ok ts)
    (he : (x.executeAll ts s).error = some e) (os : List (Outcome DispatchError (List Task))) :
    x.deliver (o :: os) s =
      ⟨o.journal ++ (x.executeAll ts s).journal, (x.executeAll ts s).state,
        some (.execution e)⟩ := by
  have hmap : ((x.executeAll ts s).mapError DispatchError.execution).error =
      some (.execution e) := congrArg (Option.map _) he
  rw [deliver_cons, accept_of_ok h, Progress.after_andThen, Progress.andThen_of_error hmap, ← hmap]
  rfl

/-- When the executor takes the tasks of an outcome, the next outcome follows. -/
theorem deliver_cons_of_taken (h : o.result = .ok ts) (he : (x.executeAll ts s).error = none)
    (os : List (Outcome DispatchError (List Task))) :
    x.deliver (o :: os) s =
      ((x.deliver os (x.executeAll ts s).state).after (x.executeAll ts s).journal).after
        o.journal := by
  have hmap : ((x.executeAll ts s).mapError DispatchError.execution).error = none :=
    congrArg (Option.map _) he
  rw [deliver_cons, accept_of_ok h, Progress.after_andThen, Progress.andThen_of_none hmap]
  rfl

end

/-- An executor that is handed outcomes ends in the state in which it ends on their delivered tasks,
and its own error on these comes before the first error of the outcomes. -/
theorem ending_deliver (os : List (Outcome DispatchError (List Task))) (s : σ) :
    (x.deliver os s).state = (x.executeAll (Outcome.delivered os) s).state ∧
      (x.deliver os s).error =
        ((x.executeAll (Outcome.delivered os) s).error.map .execution).or
          (Outcome.firstError os) := by
  induction os generalizing s with
  | nil => exact ⟨rfl, rfl⟩
  | cons o os ih =>
    cases ho : o.result with
    | error e =>
      rw [deliver_cons_of_error ho, Outcome.delivered_cons_of_error ho,
        Outcome.firstError_cons_of_error ho]
      exact ⟨rfl, rfl⟩
    | ok ts =>
      rw [Outcome.delivered_cons_of_ok ho, Outcome.firstError_cons_of_ok ho, executeAll_append]
      cases he : (x.executeAll ts s).error with
      | some e =>
        -- the executor's own error stands before the first error of `os`, which is not reached
        rw [deliver_cons_of_refused ho he, Progress.andThen_of_error he, he]
        exact ⟨rfl, rfl⟩
      | none =>
        rw [deliver_cons_of_taken ho he, Progress.andThen_of_none he]
        exact ih _

/-- **Only the delivered tasks count** for the state in which an executor ends. -/
theorem state_deliver (os : List (Outcome DispatchError (List Task))) (s : σ) :
    (x.deliver os s).state = (x.executeAll (Outcome.delivered os) s).state :=
  (x.ending_deliver os s).1

/-- **Only the first error counts**, after the executor's own on the delivered tasks. -/
theorem error_deliver (os : List (Outcome DispatchError (List Task))) (s : σ) :
    (x.deliver os s).error =
      ((x.executeAll (Outcome.delivered os) s).error.map .execution).or
        (Outcome.firstError os) :=
  (x.ending_deliver os s).2

/-- What is collected from outcomes is what they are one behind the other. -/
theorem collector_deliver (os : List (Outcome DispatchError (List Task))) (collected : List Task) :
    (collector.deliver os collected).toOutcome =
      (Outcome.concat os).map (collected ++ ·) := by
  induction os generalizing collected with
  | nil =>
    show (⟨[], .ok collected⟩ : Outcome DispatchError (List Task)) = ⟨[], .ok (collected ++ [])⟩
    rw [List.append_nil]
  | cons o os ih =>
    rw [Outcome.concat_cons]
    cases ho : o.result with
    | error e =>
      rw [deliver_cons_of_error ho, Outcome.andThen, ho]
      rfl
    | ok ts =>
      have htaken : (collector.executeAll ts collected).error = none := by
        rw [executeAll_collector]
        rfl
      rw [deliver_cons_of_taken ho htaken, executeAll_collector, Outcome.andThen, ho]
      show (collector.deliver os (collected ++ ts)).toOutcome.after o.journal = _
      rw [ih (collected ++ ts)]
      cases hr : (Outcome.concat os).result with
      | error e => simp [Outcome.after, Outcome.map, hr, Except.map]
      | ok us => simp [Outcome.after, Outcome.map, hr, Except.map]

/-! ## Executors that do not interfere -/

/-- Whether an executor takes every task. -/
def NeverFails : Prop :=
  ∀ t s, (x.execute t s).error = none

/-- Whether an executor applies no plugin, as far as its journal says. -/
def AppliesNothing : Prop :=
  ∀ t s, Entry.applications (x.execute t s).journal = []

variable {x}

theorem NeverFails.executeAll (hx : x.NeverFails) (ts : List Task) (s : σ) :
    (x.executeAll ts s).error = none := by
  induction ts generalizing s with
  | nil => rfl
  | cons t ts ih =>
    rw [executeAll_cons, Progress.andThen_of_none (hx t s)]
    exact ih _

/-- What no task brings into the journal of an executor, no list of tasks does. -/
theorem filterMap_executeAll {β : Type} {g : Entry → Option β}
    (h : ∀ t s, (x.execute t s).journal.filterMap g = []) (ts : List Task) (s : σ) :
    (x.executeAll ts s).journal.filterMap g = [] := by
  induction ts generalizing s with
  | nil => rfl
  | cons t ts ih =>
    rw [executeAll_cons]
    cases he : (x.execute t s).error with
    | some e =>
      rw [Progress.andThen_of_error he]
      exact h t s
    | none =>
      rw [Progress.andThen_of_none he]
      show ((x.execute t s).journal ++ _).filterMap g = []
      rw [List.filterMap_append, h t s, ih]
      rfl

theorem AppliesNothing.executeAll (hx : x.AppliesNothing) (ts : List Task) (s : σ) :
    Entry.applications (x.executeAll ts s).journal = [] :=
  filterMap_executeAll hx ts s

/-- **Nothing is applied after the first error**: the applications in the journal are those of the
outcomes up to and including it. -/
theorem applications_deliver (hx : x.NeverFails) (hquiet : x.AppliesNothing)
    (os : List (Outcome DispatchError (List Task))) (s : σ) :
    Entry.applications (x.deliver os s).journal =
      (Outcome.reached os).flatMap fun o => Entry.applications o.journal := by
  induction os generalizing s with
  | nil => rfl
  | cons o os ih =>
    cases ho : o.result with
    | error e =>
      rw [deliver_cons_of_error ho, Outcome.reached_cons_of_error ho]
      exact (List.append_nil _).symm
    | ok ts =>
      rw [deliver_cons_of_taken ho (hx.executeAll ts s), Outcome.reached_cons_of_ok ho]
      show Entry.applications (o.journal ++ ((x.executeAll ts s).journal ++ _)) = _
      rw [Entry.applications_append, Entry.applications_append, hquiet.executeAll ts s, ih,
        List.nil_append]
      rfl

/-- Whatever the executor takes, only plugins of the outcomes are applied. -/
theorem exists_of_mem_applications_deliver (hquiet : x.AppliesNothing)
    {os : List (Outcome DispatchError (List Task))} {s : σ} {a : Application}
    (h : a ∈ Entry.applications (x.deliver os s).journal) :
    ∃ o ∈ os, a ∈ Entry.applications o.journal := by
  induction os generalizing s with
  | nil => cases h
  | cons o os ih =>
    have hhere : a ∈ Entry.applications o.journal →
        ∃ o' ∈ o :: os, a ∈ Entry.applications o'.journal :=
      fun ha => ⟨o, List.mem_cons_self, ha⟩
    cases ho : o.result with
    | error e =>
      rw [deliver_cons_of_error ho] at h
      exact hhere h
    | ok ts =>
      cases he : (x.executeAll ts s).error with
      | some e =>
        rw [deliver_cons_of_refused ho he, Entry.applications_append, hquiet.executeAll,
          List.append_nil] at h
        exact hhere h
      | none =>
        rw [deliver_cons_of_taken ho he] at h
        simp only [Progress.after, Entry.applications_append, hquiet.executeAll, List.nil_append,
          List.mem_append] at h
        rcases h with h | h
        · exact hhere h
        · obtain ⟨o', ho', ha⟩ := ih h
          exact ⟨o', List.mem_cons_of_mem o ho', ha⟩

/-- What is found in the journal while outcomes are handed over in which nothing of the kind is, is
what is found in the journal of the executor on the delivered tasks. -/
theorem filterMap_deliver {β : Type} (x : Executor σ) (g : Entry → Option β)
    {os : List (Outcome DispatchError (List Task))} (h : ∀ o ∈ os, o.journal.filterMap g = [])
    (s : σ) :
    (x.deliver os s).journal.filterMap g =
      (x.executeAll (Outcome.delivered os) s).journal.filterMap g := by
  induction os generalizing s with
  | nil => rfl
  | cons o os ih =>
    have hsilent := h o List.mem_cons_self
    cases ho : o.result with
    | error e =>
      rw [deliver_cons_of_error ho, Outcome.delivered_cons_of_error ho]
      exact hsilent
    | ok ts =>
      rw [Outcome.delivered_cons_of_ok ho, executeAll_append]
      cases he : (x.executeAll ts s).error with
      | some e =>
        rw [deliver_cons_of_refused ho he, Progress.andThen_of_error he]
        show (o.journal ++ _).filterMap g = _
        rw [List.filterMap_append, hsilent, List.nil_append]
      | none =>
        have hrest := ih (fun p hp => h p (List.mem_cons_of_mem o hp)) (x.executeAll ts s).state
        rw [deliver_cons_of_taken ho he, Progress.andThen_of_none he]
        show (o.journal ++ ((x.executeAll ts s).journal ++ _)).filterMap g =
          ((x.executeAll ts s).journal ++ _).filterMap g
        rw [List.filterMap_append, List.filterMap_append, List.filterMap_append, hsilent, hrest,
          List.nil_append]

/-- What is printed while silent outcomes are handed over is what the executor prints on the
delivered tasks. -/
theorem printed_deliver (x : Executor σ) {os : List (Outcome DispatchError (List Task))}
    (h : ∀ o ∈ os, o.journal.filterMap Entry.out? = []) (s : σ) :
    (x.deliver os s).journal.filterMap Entry.out? =
      (x.executeAll (Outcome.delivered os) s).journal.filterMap Entry.out? :=
  x.filterMap_deliver Entry.out? h s

end Executor
end Orchestrator
