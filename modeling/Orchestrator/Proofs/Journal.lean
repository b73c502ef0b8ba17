import Orchestrator.Journal

/-!
# Journals without their log messages

Two ways to do the same work say the same, except for what they log.  The laws of `Outcome` and
`Progress` come in two layers: the laws of going on, which are exact, and `quiet`, which forgets
the log messages of a journal and passes through everything that work is put together from.

* `Progress.andThen_assoc`, `Progress.done_andThen`: going on is associative, and doing nothing is
  neutral.
* `Outcome.concat`: results one behind the other, all or nothing, with `Outcome.succeeded`,
  `Outcome.resultD` and `Outcome.error?` to take an outcome apart.
* `Outcome.result_andThen_eq_ok_iff`, `Outcome.mem_journal_andThen` and their siblings: where a
  result, an error and an entry of a journal come from.
* `Entry.unlogged`, `Outcome.quiet`, `Progress.quiet`: what is left without log messages.
* `Entry.applications`: the applications of plugins in a journal, which no log message hides.
-/

namespace Orchestrator

namespace Entry

/-- Whether an entry is a log message. -/
def isLog : Entry → Bool
  | .log _ => true
  | _ => false

/-- The entries of a journal that are no log messages. -/
def unlogged (journal : List Entry) : List Entry :=
  journal.filter fun e => !e.isLog

/-- The application that an entry records. -/
def application? : Entry → Option Application
  | .applied a => some a
  | _ => none

/-- The applications of plugins in a journal, in order. -/
def applications (journal : List Entry) : List Application :=
  journal.filterMap application?

@[simp] theorem unlogged_nil : unlogged [] = [] := rfl

@[simp] theorem unlogged_append (j k : List Entry) :
    unlogged (j ++ k) = unlogged j ++ unlogged k :=
  List.filter_append ..

@[simp] theorem unlogged_log_cons (m : Message) (j : List Entry) :
    unlogged (.log m :: j) = unlogged j := rfl

@[simp] theorem applications_append (j k : List Entry) :
    applications (j ++ k) = applications j ++ applications k :=
  List.filterMap_append ..

theorem mem_applications_iff {a : Application} {j : List Entry} :
    a ∈ applications j ↔ .applied a ∈ j := by
  rw [applications, List.mem_filterMap]
  constructor
  · rintro ⟨entry, hentry, ha⟩
    cases entry with
    | applied b =>
      cases ha
      exact hentry
    | _ => cases ha
  · intro ha
    exact ⟨_, ha, rfl⟩

@[simp] theorem applications_unlogged (j : List Entry) :
    applications (unlogged j) = applications j := by
  induction j with
  | nil => rfl
  | cons e j ih =>
    cases e with
    | log m => exact ih
    | applied a => exact congrArg (a :: ·) ih
    | out t => exact ih
    | err t => exact ih

@[simp] theorem output_unlogged (j : List Entry) : output (unlogged j) = output j := by
  have h : (unlogged j).filterMap out? = j.filterMap out? := by
    induction j with
    | nil => rfl
    | cons e j ih =>
      cases e with
      | log m => exact ih
      | applied a => exact ih
      | out t => exact congrArg (t :: ·) ih
      | err t => exact ih
  rw [output, output, h]

end Entry

/-! ## Outcomes -/

namespace Outcome

variable {ε ε' α β : Type}

/-- Whether there is a result. -/
def succeeded (o : Outcome ε α) : Bool :=
  match o.result with
  | .ok _ => true
  | .error _ => false

/-- The error, if there is no result. -/
def error? (o : Outcome ε α) : Option ε :=
  match o.result with
  | .ok _ => none
  | .error e => some e

/-- The list that is the result, empty when there is none. -/
def resultD (o : Outcome ε (List α)) : List α :=
  match o.result with
  | .ok as => as
  | .error _ => []

/-- The results one behind the other.  The first error is the error of the whole, which then has no
result at all, and nothing after it counts. -/
def concat : List (Outcome ε (List α)) → Outcome ε (List α)
  | [] => .ok []
  | o :: os => o.andThen fun as => (concat os).map (as ++ ·)

@[simp] theorem concat_nil : concat ([] : List (Outcome ε (List α))) = .ok [] := rfl

@[simp] theorem concat_cons (o : Outcome ε (List α)) (os : List (Outcome ε (List α))) :
    concat (o :: os) = o.andThen fun as => (concat os).map (as ++ ·) := rfl

/-- The outcome without the log messages of its journal. -/
def quiet (o : Outcome ε α) : Outcome ε α :=
  ⟨Entry.unlogged o.journal, o.result⟩

@[simp] theorem result_quiet (o : Outcome ε α) : o.quiet.result = o.result := rfl

@[simp] theorem quiet_map (f : α → β) (o : Outcome ε α) : (o.map f).quiet = o.quiet.map f := rfl

@[simp] theorem quiet_mapError (f : ε → ε') (o : Outcome ε α) :
    (o.mapError f).quiet = o.quiet.mapError f := rfl

theorem quiet_andThen (o : Outcome ε α) (next : α → Outcome ε β) :
    (o.andThen next).quiet = o.quiet.andThen fun a => (next a).quiet := by
  obtain ⟨j, r⟩ := o
  cases r with
  | error e => rfl
  | ok a =>
    simp only [andThen, quiet, Entry.unlogged_append]

/-- Going on alike with the result there is gives alike. -/
theorem andThen_congr {o : Outcome ε α} {next next' : α → Outcome ε β}
    (h : ∀ a, o.result = .ok a → next a = next' a) : o.andThen next = o.andThen next' := by
  obtain ⟨j, r⟩ := o
  cases r with
  | error e => rfl
  | ok a => simp only [andThen, h a rfl]

/-- Going on alike gives alike, up to log messages. -/
theorem quiet_andThen_congr {o : Outcome ε α} {next next' : α → Outcome ε β}
    (h : ∀ a, (next a).quiet = (next' a).quiet) :
    (o.andThen next).quiet = (o.andThen next').quiet := by
  rw [quiet_andThen, quiet_andThen, funext h]

/-! ### Where results, errors and entries come from -/

section

variable {o : Outcome ε α} {next : α → Outcome ε β} {a : α} {b : β} {e : ε}

theorem result_map_eq_ok_iff {g : α → β} :
    (o.map g).result = .ok b ↔ ∃ a, o.result = .ok a ∧ g a = b := by
  obtain ⟨j, r⟩ := o
  cases r <;> simp [map, Except.map]

theorem result_map_eq_error_iff {g : α → β} :
    (o.map g).result = .error e ↔ o.result = .error e := by
  obtain ⟨j, r⟩ := o
  cases r <;> simp [map, Except.map]

theorem result_mapError_eq_ok_iff {g : ε → ε'} :
    (o.mapError g).result = .ok a ↔ o.result = .ok a := by
  obtain ⟨j, r⟩ := o
  constructor
  · intro h
    cases r with
    | error e => cases h
    | ok a =>
      cases h
      rfl
  · intro h
    obtain rfl : r = .ok a := h
    rfl

theorem result_mapError_eq_error_iff {g : ε → ε'} {e' : ε'} :
    (o.mapError g).result = .error e' ↔ ∃ e, o.result = .error e ∧ g e = e' := by
  obtain ⟨j, r⟩ := o
  constructor
  · intro h
    cases r with
    | error e =>
      cases h
      exact ⟨e, rfl, rfl⟩
    | ok a => cases h
  · rintro ⟨e, h, rfl⟩
    obtain rfl : r = .error e := h
    rfl

theorem result_andThen_eq_ok_iff :
    (o.andThen next).result = .ok b ↔ ∃ a, o.result = .ok a ∧ (next a).result = .ok b := by
  obtain ⟨j, r⟩ := o
  cases r <;> simp [andThen]

theorem result_andThen_eq_error_iff :
    (o.andThen next).result = .error e ↔
      o.result = .error e ∨ ∃ a, o.result = .ok a ∧ (next a).result = .error e := by
  obtain ⟨j, r⟩ := o
  cases r <;> simp [andThen]

theorem journal_subset_andThen (o : Outcome ε α) (next : α → Outcome ε β) :
    o.journal ⊆ (o.andThen next).journal := by
  obtain ⟨j, r⟩ := o
  cases r with
  | error e => exact List.Subset.refl _
  | ok a => exact List.subset_append_left ..

/-- An entry of work that goes on is written before or after it goes on. -/
theorem mem_journal_andThen {entry : Entry} (h : entry ∈ (o.andThen next).journal) :
    entry ∈ o.journal ∨ ∃ a, o.result = .ok a ∧ entry ∈ (next a).journal := by
  obtain ⟨j, r⟩ := o
  cases r with
  | error e => exact Or.inl h
  | ok a => exact (List.mem_append.1 h).imp id fun hnext => ⟨a, rfl, hnext⟩

end

end Outcome

/-! ## Progress -/

namespace Progress

variable {ε ε' σ : Type}

theorem andThen_of_error {p : Progress ε σ} {e : ε} (h : p.error = some e)
    (next : σ → Progress ε σ) : p.andThen next = p := by
  rw [andThen, h]

theorem andThen_of_none {p : Progress ε σ} (h : p.error = none) (next : σ → Progress ε σ) :
    p.andThen next = (next p.state).after p.journal := by
  rw [andThen, h]
  rfl

theorem andThen_congr {p : Progress ε σ} {next next' : σ → Progress ε σ}
    (h : p.error = none → next p.state = next' p.state) : p.andThen next = p.andThen next' := by
  cases he : p.error with
  | some e => rw [andThen_of_error he, andThen_of_error he]
  | none => rw [andThen_of_none he, andThen_of_none he, h he]

theorem journal_subset_andThen (p : Progress ε σ) (next : σ → Progress ε σ) :
    p.journal ⊆ (p.andThen next).journal := by
  cases he : p.error with
  | some e =>
    rw [andThen_of_error he]
    exact List.Subset.refl _
  | none =>
    rw [andThen_of_none he]
    exact List.subset_append_left ..

/-- An entry of work that goes on is written before or after it goes on. -/
theorem mem_journal_andThen {p : Progress ε σ} {next : σ → Progress ε σ} {entry : Entry}
    (h : entry ∈ (p.andThen next).journal) :
    entry ∈ p.journal ∨ entry ∈ (next p.state).journal := by
  cases he : p.error with
  | some e =>
    rw [andThen_of_error he] at h
    exact Or.inl h
  | none =>
    rw [andThen_of_none he] at h
    exact List.mem_append.1 h

@[simp] theorem done_andThen (s : σ) (next : σ → Progress ε σ) :
    (done s).andThen next = next s := rfl

@[simp] theorem andThen_done (p : Progress ε σ) : p.andThen done = p := by
  obtain ⟨j, s, e⟩ := p
  cases e with
  | some e => rfl
  | none =>
    rw [andThen_of_none rfl]
    exact congrArg (fun k => (⟨k, s, none⟩ : Progress ε σ)) (List.append_nil j)

theorem after_andThen (j : List Entry) (p : Progress ε σ) (next : σ → Progress ε σ) :
    (p.after j).andThen next = (p.andThen next).after j := by
  obtain ⟨k, s, e⟩ := p
  cases e with
  | some e => rfl
  | none => simp only [after, andThen, List.append_assoc]

/-- Going on twice is going on with what goes on. -/
theorem andThen_assoc (p : Progress ε σ) (f g : σ → Progress ε σ) :
    (p.andThen f).andThen g = p.andThen fun s => (f s).andThen g := by
  obtain ⟨j, s, e⟩ := p
  cases e with
  | some e => rfl
  | none => exact after_andThen j (f s) g

/-- The progress without the log messages of its journal. -/
def quiet (p : Progress ε σ) : Progress ε σ :=
  ⟨Entry.unlogged p.journal, p.state, p.error⟩

@[simp] theorem quiet_noting_log (m : Message) (p : Progress ε σ) :
    (p.noting (.log m)).quiet = p.quiet := rfl

theorem quiet_after (j : List Entry) (p : Progress ε σ) :
    (p.after j).quiet = p.quiet.after (Entry.unlogged j) := by
  simp only [quiet, after, Entry.unlogged_append]

theorem quiet_andThen (p : Progress ε σ) (next : σ → Progress ε σ) :
    (p.andThen next).quiet = p.quiet.andThen fun s => (next s).quiet := by
  obtain ⟨j, s, e⟩ := p
  cases e with
  | some e => rfl
  | none => exact quiet_after j (next s)

theorem quiet_toOutcome (p : Progress ε σ) : p.toOutcome.quiet = p.quiet.toOutcome := rfl

end Progress
end Orchestrator
