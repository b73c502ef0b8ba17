import Orchestrator.Proofs.CommandLine.Accepted

/-!
# What the early scan finds of an accepted command line

The settings file and the log level are looked for twice, first by a scan that does not know the
options of patterns, and then by the reading of the whole command line.  Where the reading accepts
the command line, the two are followed side by side, argument by argument.

A setting is given at most once, and what looks like an option never is the value of another one.
So the scan finds what the reading finds, with one exception: several letters may share an argument,
and the scan looks only at the first one.  A setting that is given behind other letters is hidden
from it.

* `OptionTable.lettersRead`, `OptionTable.Hides`: the letters that an argument gives, and whether a
  setting is given behind other letters.
* `Invocation.Tracks`: what the scan has found so far, compared with the invocation.
* `OptionTable.Advance`: what the reading and the scan do with one argument; `tracks_readFrom` is
  the run.
* `scan_of_read`: **the scan finds what the reading finds, except for what is hidden from it**.
-/

namespace Orchestrator
namespace CommandLine

namespace OptionTable

/-! ## Letters that share an argument -/

/-- The letters that are read as options, up to the first one that takes values. -/
def lettersRead (table : OptionTable) : List Char → List Char
  | [] => []
  | c :: rest =>
    match table.findShort? c with
    | some o => if o.kind.takesValues then [c] else c :: table.lettersRead rest
    | none => [c]

/-- The letters that an argument gives behind its first one. -/
def grouped (table : OptionTable) (arg : String) : List Char :=
  match Shape.ofArgument arg with
  | .short letters => (table.lettersRead letters).tail
  | _ => []

/-- Whether a setting is given behind other letters, by an argument before two dashes alone. -/
def Hides (table : OptionTable) (s : Setting) (args : List String) : Prop :=
  ∃ arg ∈ args.takeWhile (· ≠ "--"), s.letter ∈ table.grouped arg

instance (table : OptionTable) (s : Setting) (args : List String) :
    Decidable (table.Hides s args) :=
  inferInstanceAs (Decidable (∃ arg ∈ _, _))

variable (table : OptionTable) {s : Setting} {arg : String} {args : List String}

theorem not_hides_nil (s : Setting) : ¬ table.Hides s [] := by
  rintro ⟨arg, harg, -⟩
  cases harg

theorem not_hides_of_endOfOptions (h : Shape.ofArgument arg = .endOfOptions) (s : Setting)
    (args : List String) : ¬ table.Hides s (arg :: args) := by
  rintro ⟨a, ha, -⟩
  rw [Shape.ofArgument_eq_endOfOptions_iff.1 h] at ha
  simp at ha

theorem hides_cons_iff (h : Shape.ofArgument arg ≠ .endOfOptions) (s : Setting)
    (args : List String) :
    table.Hides s (arg :: args) ↔ s.letter ∈ table.grouped arg ∨ table.Hides s args := by
  have hne : arg ≠ "--" := mt Shape.ofArgument_eq_endOfOptions_iff.2 h
  have htake : (arg :: args).takeWhile (· ≠ "--") = arg :: args.takeWhile (· ≠ "--") :=
    List.takeWhile_cons_of_pos (decide_eq_true hne)
  rw [Hides, htake, Hides]
  constructor
  · rintro ⟨a, ha, hletter⟩
    rcases List.mem_cons.1 ha with rfl | ha
    · exact Or.inl hletter
    · exact Or.inr ⟨a, ha, hletter⟩
  · rintro (hletter | ⟨a, ha, hletter⟩)
    · exact ⟨arg, List.mem_cons_self, hletter⟩
    · exact ⟨a, List.mem_cons_of_mem _ ha, hletter⟩

/-- An argument that holds no letters hides nothing. -/
theorem hides_cons_iff_of_grouped (h : Shape.ofArgument arg ≠ .endOfOptions)
    (hgrouped : table.grouped arg = []) (s : Setting) (args : List String) :
    table.Hides s (arg :: args) ↔ table.Hides s args := by
  rw [table.hides_cons_iff h, hgrouped]
  simp

theorem grouped_of_long {name : String} {value : Option String}
    (h : Shape.ofArgument arg = .long name value) : table.grouped arg = [] := by
  rw [grouped, h]

theorem grouped_of_plain (h : Shape.ofArgument arg = .plain) : table.grouped arg = [] := by
  rw [grouped, h]

end OptionTable

/-! ## What an invocation holds of the settings -/

namespace Invocation

/-- What the scan would have to find for an invocation. -/
def early (i : Invocation) : EarlyOptions :=
  ⟨i.settingsFile, i.logLevel.getD .standard, i.switches.contains .listPlugins⟩

/-- Whether two invocations differ at most in what the scan does not look for. -/
structure SameSettings (i j : Invocation) : Prop where
  early_eq : j.early = i.early
  isAssigned_eq : ∀ s, j.isAssigned s = i.isAssigned s

variable {i j k : Invocation} {s t : Setting} {value : String}

theorem SameSettings.refl (i : Invocation) : i.SameSettings i := ⟨rfl, fun _ => rfl⟩

theorem SameSettings.trans (h : i.SameSettings j) (h' : j.SameSettings k) : i.SameSettings k :=
  ⟨h'.early_eq.trans h.early_eq, fun s => (h'.isAssigned_eq s).trans (h.isAssigned_eq s)⟩

theorem sameSettings_addCommand (i : Invocation) (command : String) :
    i.SameSettings (i.addCommand command) :=
  ⟨rfl, fun s => by cases s <;> rfl⟩

theorem sameSettings_addValues (i : Invocation) (key : String) (values : List String) :
    i.SameSettings (i.addValues key values) :=
  ⟨rfl, fun s => by cases s <;> rfl⟩

theorem set_eq_ok {w : Switch} (h : i.set w = .ok j) :
    j = { i with switches := i.switches ++ [w] } := by
  rw [set] at h
  split at h
  · cases h
  · cases h
    rfl

/-- Only one switch is looked for by the scan. -/
theorem sameSettings_of_set {w : Switch} (h : i.set w = .ok j) (hw : w ≠ .listPlugins) :
    i.SameSettings j := by
  obtain rfl := set_eq_ok h
  refine ⟨?_, fun s => by cases s <;> rfl⟩
  have hcontains : (i.switches ++ [w]).contains .listPlugins =
      i.switches.contains .listPlugins := by
    have hne : (Switch.listPlugins == w) = false := beq_eq_false_iff_ne.2 hw.symm
    rw [List.contains_eq_mem, List.contains_eq_mem]
    simp [hw.symm]
  rw [early, early, hcontains]

theorem early_of_set_listPlugins (h : i.set .listPlugins = .ok j) :
    j.early = { i.early with listPlugins := true } ∧
      ∀ s, j.isAssigned s = i.isAssigned s := by
  obtain rfl := set_eq_ok h
  refine ⟨?_, fun s => by cases s <;> rfl⟩
  simp [early]

/-- A name of the command line names the level that the scan knows by it. -/
theorem ofName?_of_levelNamed? {l : LogLevel} (h : levelNamed? value = some l) :
    LogLevel.ofName? value = some l := by
  have hname : l.name = value := by simpa using List.find?_some h
  rw [← hname]
  cases l <;> decide

/-- What a setting with its value does to an invocation. -/
theorem assign_eq_ok (h : i.assign s value = .ok j) :
    i.isAssigned s = false ∧
      match s with
      | .settingsFile => j = { i with settingsFile := some value }
      | .jobs => ∃ n, j = { i with jobs := some n }
      | .logLevel => ∃ l, levelNamed? value = some l ∧ j = { i with logLevel := some l } := by
  rw [assign.eq_def] at h
  split at h
  · cases h
  · rename_i hassigned
    refine ⟨Bool.eq_false_iff.2 hassigned, ?_⟩
    cases s with
    | jobs =>
      dsimp only at h
      split at h
      · rename_i n _
        cases h
        exact ⟨n, rfl⟩
      · cases h
    | settingsFile =>
      cases h
      rfl
    | logLevel =>
      dsimp only at h
      split at h
      · rename_i l hl
        cases h
        exact ⟨l, hl, rfl⟩
      · cases h

/-- **A setting is given once**: it has no value before, and has one after. -/
theorem isAssigned_of_assign (h : i.assign s value = .ok j) (t : Setting) :
    j.isAssigned t = true ↔ i.isAssigned t = true ∨ t = s := by
  obtain ⟨-, hj⟩ := assign_eq_ok h
  cases s with
  | jobs =>
    obtain ⟨n, rfl⟩ := hj
    cases t <;> simp [isAssigned]
  | settingsFile =>
    have hj : j = { i with settingsFile := some value } := hj
    subst hj
    cases t <;> simp [isAssigned]
  | logLevel =>
    obtain ⟨l, -, rfl⟩ := hj
    cases t <;> simp [isAssigned]

/-- A setting without a value is as the scan starts with it. -/
theorem valueOf_early_of_not_isAssigned (h : i.isAssigned s = false) :
    i.early.valueOf s = EarlyOptions.empty.valueOf s := by
  cases s with
  | jobs => rfl
  | settingsFile => exact Option.isSome_eq_false_iff.1 h |> Option.isNone_iff_eq_none.1
  | logLevel =>
    have hnone : i.logLevel = none := Option.isNone_iff_eq_none.1 (Option.isSome_eq_false_iff.1 h)
    rw [early, hnone]
    rfl

/-- The scan understands a value as the reading does, and both leave the other settings alone. -/
theorem valueOf_early_of_assign (h : i.assign s value = .ok j) :
    (∀ e : EarlyOptions, (e.withValue s value).valueOf s = j.early.valueOf s) ∧
      (∀ t, t ≠ s → j.early.valueOf t = i.early.valueOf t) ∧
      j.early.listPlugins = i.early.listPlugins := by
  obtain ⟨-, hj⟩ := assign_eq_ok h
  cases s with
  | jobs =>
    obtain ⟨n, rfl⟩ := hj
    exact ⟨fun _ => rfl, fun _ _ => rfl, rfl⟩
  | settingsFile =>
    have hj : j = { i with settingsFile := some value } := hj
    subst hj
    refine ⟨fun _ => rfl, fun t ht => ?_, rfl⟩
    cases t with
    | jobs => rfl
    | settingsFile => exact absurd rfl ht
    | logLevel => rfl
  | logLevel =>
    obtain ⟨l, hl, rfl⟩ := hj
    refine ⟨fun e => ?_, fun t ht => ?_, rfl⟩
    · rw [EarlyOptions.withValue, EarlyOptions.withLogLevel, ofName?_of_levelNamed? hl]
      rfl
    · cases t with
      | jobs => rfl
      | settingsFile => rfl
      | logLevel => exact absurd rfl ht

/-- What the scan has found so far, when some settings were hidden from it. -/
structure Tracks (i : Invocation) (e : EarlyOptions) (hidden : Setting → Prop) : Prop where
  listPlugins : e.listPlugins = i.early.listPlugins
  /-- What is not hidden was found. -/
  seen : ∀ s, ¬ hidden s → e.valueOf s = i.early.valueOf s
  /-- What is hidden is as at the start. -/
  unseen : ∀ s, hidden s → e.valueOf s = EarlyOptions.empty.valueOf s
  /-- What is hidden has a value, so that it is not given again. -/
  given : ∀ s, hidden s → i.isAssigned s = true

namespace Tracks

variable {e : EarlyOptions} {hidden hidden' : Setting → Prop}

theorem congr (h : Tracks i e hidden) (hiff : ∀ t, hidden' t ↔ hidden t) : Tracks i e hidden' :=
  ⟨h.listPlugins, fun t ht => h.seen t (mt (hiff t).2 ht), fun t ht => h.unseen t ((hiff t).1 ht),
    fun t ht => h.given t ((hiff t).1 ht)⟩

theorem of_sameSettings (h : Tracks i e hidden) (hsame : i.SameSettings j) :
    Tracks j e hidden := by
  refine ⟨?_, ?_, h.unseen, ?_⟩
  · rw [hsame.early_eq]
    exact h.listPlugins
  · intro t ht
    rw [hsame.early_eq]
    exact h.seen t ht
  · intro t ht
    rw [hsame.isAssigned_eq]
    exact h.given t ht

theorem of_set_listPlugins (h : Tracks i e hidden) (hset : i.set .listPlugins = .ok j) :
    Tracks j { e with listPlugins := true } hidden := by
  obtain ⟨hearly, hassigned⟩ := early_of_set_listPlugins hset
  refine ⟨?_, ?_, ?_, ?_⟩
  · rw [hearly]
  · intro t ht
    rw [hearly]
    have hseen := h.seen t ht
    cases t with
    | jobs => rfl
    | settingsFile => exact hseen
    | logLevel => exact hseen
  · intro t ht
    have hunseen := h.unseen t ht
    cases t with
    | jobs => rfl
    | settingsFile => exact hunseen
    | logLevel => exact hunseen
  · intro t ht
    rw [hassigned]
    exact h.given t ht

theorem not_hidden_of_assign (h : Tracks i e hidden) (hassign : i.assign s value = .ok j) :
    ¬ hidden s := by
  intro hs
  have hfree := (assign_eq_ok hassign).1
  rw [h.given s hs] at hfree
  cases hfree

/-- A setting that the scan sees. -/
theorem of_assign (h : Tracks i e hidden) (hassign : i.assign s value = .ok j) :
    Tracks j (e.withValue s value) hidden := by
  obtain ⟨hvalue, hothers, hlist⟩ := valueOf_early_of_assign hassign
  refine ⟨?_, ?_, ?_, ?_⟩
  · rw [EarlyOptions.listPlugins_withValue, hlist]
    exact h.listPlugins
  · intro t ht
    by_cases hts : t = s
    · rw [hts]
      exact hvalue e
    · rw [EarlyOptions.valueOf_withValue_of_ne hts, hothers t hts]
      exact h.seen t ht
  · intro t ht
    have hts : t ≠ s := by
      rintro rfl
      exact h.not_hidden_of_assign hassign ht
    rw [EarlyOptions.valueOf_withValue_of_ne hts]
    exact h.unseen t ht
  · intro t ht
    exact (isAssigned_of_assign hassign t).2 (Or.inl (h.given t ht))

/-- A setting that is hidden from the scan. -/
theorem of_hidden_assign (h : Tracks i e hidden) (hassign : i.assign s value = .ok j) :
    Tracks j e fun t => hidden t ∨ t = s := by
  obtain ⟨-, hothers, hlist⟩ := valueOf_early_of_assign hassign
  refine ⟨?_, ?_, ?_, ?_⟩
  · rw [hlist]
    exact h.listPlugins
  · intro t ht
    rw [hothers t fun hts => ht (Or.inr hts)]
    exact h.seen t fun hhidden => ht (Or.inl hhidden)
  · rintro t (ht | rfl)
    · exact h.unseen t ht
    · rw [h.seen t (h.not_hidden_of_assign hassign)]
      exact valueOf_early_of_not_isAssigned (assign_eq_ok hassign).1
  · rintro t (ht | rfl)
    · exact (isAssigned_of_assign hassign t).2 (Or.inl (h.given t ht))
    · exact (isAssigned_of_assign hassign t).2 (Or.inr rfl)

end Tracks
end Invocation

/-! ## One argument -/

namespace Supplies

variable {value : Option String} {args args' : List String} {v : String}

/-- The scan passes over a value by itself. -/
theorem scanFrom_eq (h : Supplies value args v args') (e : EarlyOptions) :
    EarlyOptions.scanFrom args e = EarlyOptions.scanFrom args' e := by
  cases h with
  | attached => rfl
  | detached _ _ hvalue => exact EarlyOptions.scanFrom_of_plain hvalue args' e

/-- A value hides nothing by itself. -/
theorem hides_iff (table : OptionTable) (h : Supplies value args v args') (t : Setting) :
    table.Hides t args ↔ table.Hides t args' := by
  cases h with
  | attached => exact Iff.rfl
  | detached _ _ hvalue =>
    refine table.hides_cons_iff_of_grouped ?_ (table.grouped_of_plain hvalue) t args'
    rw [hvalue]
    exact Shape.noConfusion

/-- How an argument is spelled that gives a setting with a value or without. -/
def spelling : Option String → Spelling
  | some value => .attached value
  | none => .detached

/-- The scan takes the value of a setting that it sees. -/
theorem scanFrom_cons_eq (h : Supplies value args v args') {arg : String} {s : Setting}
    (hspelling : (Shape.ofArgument arg).spelling s = spelling value) (e : EarlyOptions) :
    EarlyOptions.scanFrom (arg :: args) e = EarlyOptions.scanFrom args' (e.withValue s v) := by
  cases h with
  | attached => exact EarlyOptions.scanFrom_of_attached hspelling args e
  | detached _ _ hvalue => exact EarlyOptions.scanFrom_of_detached hspelling hvalue args' e

end Supplies

namespace Reading

variable {r r' : Reading} {i : Invocation}

/-- The options that ask for a page end the reading. -/
theorem ne_of_settle_eq_ok {kind : OptionKind} {values : List String}
    (h : r.settle kind values = .ok r') : kind ≠ .help ∧ kind ≠ .version := by
  rw [settle] at h
  cases hclose : r.close with
  | error e =>
    rw [hclose] at h
    cases h
  | ok j =>
    rw [hclose] at h
    constructor
    · rintro rfl
      cases h
    · rintro rfl
      cases h

/-- An open pattern is taken into the invocation, and the settings stay. -/
theorem sameSettings_of_close (hidle : r.Idle) (h : r.close = .ok i) :
    r.invocation.SameSettings i := by
  obtain ⟨j, pending⟩ := r
  cases pending with
  | none =>
    cases h
    exact .refl j
  | some o =>
    obtain ⟨kind, values⟩ := o
    obtain ⟨key, hkey⟩ := hidle _ rfl
    have hkind : kind = .pattern key := hkey
    subst hkind
    cases values with
    | nil => cases h
    | cons value values =>
      cases h
      exact j.sameSettings_addValues key (value :: values)

/-- Taking a plain argument leaves the settings as they are. -/
theorem take_of_idle {arg : String} (hidle : r.Idle) (h : r.take arg = .ok r') :
    r'.Idle ∧ r.invocation.SameSettings r'.invocation := by
  obtain ⟨j, pending⟩ := r
  cases pending with
  | none =>
    obtain ⟨i, hclose, rfl⟩ := addCommand_eq_ok h
    cases hclose
    exact ⟨idle_of_none _, j.sameSettings_addCommand arg⟩
  | some o =>
    obtain ⟨kind, values⟩ := o
    obtain ⟨key, hkey⟩ := hidle _ rfl
    have hkind : kind = .pattern key := hkey
    subst hkind
    cases h
    exact ⟨idle_of_pattern j key _, .refl j⟩

/-- Opening a pattern leaves the settings as they are. -/
theorem openPattern_of_idle {key : String} (hidle : r.Idle)
    (h : r.openOption (.pattern key) = .ok r') :
    r'.Idle ∧ r.invocation.SameSettings r'.invocation := by
  obtain ⟨i, hclose, rfl⟩ := openOption_eq_ok h
  exact ⟨idle_of_pattern i key [], sameSettings_of_close hidle hclose⟩

/-- Taking a pattern with its value leaves the settings as they are. -/
theorem settlePattern_of_idle {key value : String} (hidle : r.Idle)
    (h : r.settle (.pattern key) [value] = .ok r') :
    r'.Idle ∧ r.invocation.SameSettings r'.invocation := by
  obtain ⟨i, j, hclose, haccept, rfl⟩ := settle_eq_ok h
  cases haccept
  exact ⟨idle_of_none _,
    (sameSettings_of_close hidle hclose).trans (i.sameSettings_addValues key [value])⟩

/-- Taking a switch other than the one for the list of plugins. -/
theorem settleSwitch_of_idle {w : Switch} (hidle : r.Idle) (hw : w ≠ .listPlugins)
    (h : r.settle (.switch w) [] = .ok r') :
    r'.Idle ∧ r.invocation.SameSettings r'.invocation := by
  obtain ⟨i, j, hclose, haccept, rfl⟩ := settle_eq_ok h
  exact ⟨idle_of_none _,
    (sameSettings_of_close hidle hclose).trans (Invocation.sameSettings_of_set haccept hw)⟩

theorem sameSettings_of_addCommands {args : List String} (hidle : r.Idle)
    (h : r.addCommands args = .ok i) : r.invocation.SameSettings i := by
  induction args generalizing r with
  | nil =>
    rw [addCommands] at h
    exact sameSettings_of_close hidle h
  | cons command args ih =>
    rw [addCommands] at h
    cases hadd : r.addCommand command with
    | error e =>
      rw [hadd] at h
      cases h
    | ok r' =>
      rw [hadd] at h
      obtain ⟨j, hclose, rfl⟩ := addCommand_eq_ok hadd
      exact (sameSettings_of_close hidle hclose).trans
        ((j.sameSettings_addCommand command).trans (ih (idle_of_none _) h))

end Reading

namespace OptionTable

variable {table : OptionTable} {arg : String} {args : List String} {r r' : Reading}
  {i k : Invocation} {e : EarlyOptions} {hidden : Setting → Prop}

/-- What a long option does to a reading. -/
theorem readLong_cases (hnames : table.NamesSettings) {name : String} {value : Option String}
    (hidle : r.Idle) (h : table.readLong name value r = .ok r') :
    (∃ s : Setting, name = s.longName ∧ r.give s value = .ok r') ∨
      (name = "list-plugins" ∧ value = none ∧ r.settle (.switch .listPlugins) [] = .ok r') ∨
      ((∀ s : Setting, name ≠ s.longName) ∧ ¬ (name = "list-plugins" ∧ value = none) ∧ r'.Idle ∧
        r.invocation.SameSettings r'.invocation) := by
  rw [readLong] at h
  cases hfind : table.findLong? name with
  | none =>
    rw [hfind] at h
    cases h
  | some o =>
    obtain ⟨kind, short, long⟩ := o
    have hsetting : ∀ s, kind = .setting s ↔ name = s.longName := fun s =>
      hnames.long_iff hfind s
    have hlist : kind = .switch .listPlugins ↔ name = "list-plugins" :=
      hnames.long_listPlugins hfind
    simp only [hfind] at h
    cases kind with
    | setting s =>
      refine Or.inl ⟨s, (hsetting s).1 rfl, ?_⟩
      cases value with
      | none => exact h
      | some v => exact h
    | pattern key =>
      have hnone : ∀ s : Setting, name ≠ s.longName := fun s hs => by cases (hsetting s).2 hs
      refine Or.inr (Or.inr ⟨hnone, fun hname => (by cases hlist.2 hname.1), ?_⟩)
      cases value with
      | none => exact Reading.openPattern_of_idle hidle h
      | some v => exact Reading.settlePattern_of_idle hidle h
    | switch w =>
      cases value with
      | some v => cases h
      | none =>
        by_cases hw : w = .listPlugins
        · subst hw
          exact Or.inr (Or.inl ⟨hlist.1 rfl, rfl, h⟩)
        · have hnone : ∀ s : Setting, name ≠ s.longName := fun s hs => by cases (hsetting s).2 hs
          refine Or.inr (Or.inr ⟨hnone, fun hname => hw ?_, ?_⟩)
          · exact OptionKind.switch.inj (hlist.2 hname.1)
          · exact Reading.settleSwitch_of_idle hidle hw h
    | help =>
      cases value with
      | some v => cases h
      | none => exact absurd rfl (Reading.ne_of_settle_eq_ok h).1
    | version =>
      cases value with
      | some v => cases h
      | none => exact absurd rfl (Reading.ne_of_settle_eq_ok h).2

/-- The value that stands behind a letter in its argument. -/
def letterValue (rest : List Char) : Option String :=
  if rest.isEmpty then none else some (attached rest)

/-- What the first of several letters does to a reading. -/
theorem readShort_cons_cases (hnames : table.NamesSettings) {c : Char} {rest : List Char}
    (hidle : r.Idle) (h : table.readShort (c :: rest) r = .ok r') :
    (∃ s : Setting, c = s.letter ∧ table.lettersRead (c :: rest) = [c] ∧
        r.give s (letterValue rest) = .ok r') ∨
      ((∀ s : Setting, c ≠ s.letter) ∧ table.lettersRead (c :: rest) = [c] ∧ r'.Idle ∧
        r.invocation.SameSettings r'.invocation) ∨
      ((∀ s : Setting, c ≠ s.letter) ∧ table.lettersRead (c :: rest) = c :: table.lettersRead rest ∧
        ∃ r₁, r₁.Idle ∧ r.invocation.SameSettings r₁.invocation ∧
          table.readShort rest r₁ = .ok r') := by
  rw [readShort] at h
  cases hfind : table.findShort? c with
  | none =>
    rw [hfind] at h
    cases h
  | some o =>
    obtain ⟨kind, short, long⟩ := o
    have hsetting : ∀ s, kind = .setting s ↔ c = s.letter := fun s => hnames.short_iff hfind s
    have hlist : kind ≠ .switch .listPlugins := hnames.short_listPlugins hfind
    have hletters : table.lettersRead (c :: rest) =
        if kind.takesValues then [c] else c :: table.lettersRead rest := by
      rw [lettersRead, hfind]
    simp only [hfind] at h
    cases kind with
    | setting s =>
      refine Or.inl ⟨s, (hsetting s).1 rfl, hletters, ?_⟩
      rw [letterValue]
      cases rest with
      | nil => exact h
      | cons c' rest => exact h
    | pattern key =>
      have hnone : ∀ s : Setting, c ≠ s.letter := fun s hs => by cases (hsetting s).2 hs
      refine Or.inr (Or.inl ⟨hnone, hletters, ?_⟩)
      cases rest with
      | nil => exact Reading.openPattern_of_idle hidle h
      | cons c' rest => exact Reading.settlePattern_of_idle hidle h
    | switch w =>
      have hnone : ∀ s : Setting, c ≠ s.letter := fun s hs => by cases (hsetting s).2 hs
      have hw : w ≠ .listPlugins := fun hw => hlist (congrArg OptionKind.switch hw)
      refine Or.inr (Or.inr ⟨hnone, hletters, ?_⟩)
      cases hsettle : r.settle (.switch w) [] with
      | error e =>
        rw [hsettle] at h
        cases h
      | ok r₁ =>
        rw [hsettle] at h
        obtain ⟨hidle₁, hsame⟩ := Reading.settleSwitch_of_idle hidle hw hsettle
        exact ⟨r₁, hidle₁, hsame, h⟩
    | help =>
      cases hsettle : r.settle .help [] with
      | error e =>
        rw [hsettle] at h
        cases h
      | ok r₁ => exact absurd rfl (Reading.ne_of_settle_eq_ok hsettle).1
    | version =>
      cases hsettle : r.settle .version [] with
      | error e =>
        rw [hsettle] at h
        cases h
      | ok r₁ => exact absurd rfl (Reading.ne_of_settle_eq_ok hsettle).2

/-- Letters that share an argument give one setting at most, by the last letter that is read. -/
theorem readShort_cases (hnames : table.NamesSettings) {letters : List Char} (hidle : r.Idle)
    (h : table.readShort letters r = .ok r') :
    ((∀ s : Setting, s.letter ∉ table.lettersRead letters) ∧ r'.Idle ∧
        r.invocation.SameSettings r'.invocation) ∨
      ∃ (s : Setting) (value : Option String) (r₁ : Reading),
        (∀ t : Setting, t.letter ∈ table.lettersRead letters ↔ t = s) ∧ r₁.Idle ∧
          r.invocation.SameSettings r₁.invocation ∧ r₁.give s value = .ok r' := by
  induction letters generalizing r with
  | nil =>
    rw [readShort] at h
    cases h
    exact Or.inl ⟨fun s => List.not_mem_nil, hidle, .refl _⟩
  | cons c rest ih =>
    rcases readShort_cons_cases hnames hidle h with
      ⟨s, rfl, hletters, hgive⟩ | ⟨hnone, hletters, hidle', hsame⟩ |
        ⟨hnone, hletters, r₁, hidle₁, hsame₁, hrest⟩
    · refine Or.inr ⟨s, letterValue rest, r, fun t => ?_, hidle, .refl _, hgive⟩
      rw [hletters, List.mem_singleton]
      exact ⟨fun ht => Setting.letter_injective ht, congrArg Setting.letter⟩
    · refine Or.inl ⟨fun s hs => ?_, hidle', hsame⟩
      rw [hletters, List.mem_singleton] at hs
      exact hnone s hs.symm
    · have hcons : ∀ t : Setting, t.letter ∈ table.lettersRead (c :: rest) ↔
          t.letter ∈ table.lettersRead rest := by
        intro t
        rw [hletters, List.mem_cons]
        exact or_iff_right fun ht => hnone t ht.symm
      rcases ih hidle₁ hrest with
        ⟨hnone', hidle', hsame⟩ | ⟨s, value, r₂, hread, hidle₂, hsame, hgive⟩
      · exact Or.inl ⟨fun s hs => hnone' s ((hcons s).1 hs), hidle', hsame₁.trans hsame⟩
      · exact Or.inr ⟨s, value, r₂, fun t => (hcons t).trans (hread t), hidle₂,
          hsame₁.trans hsame, hgive⟩

/-! ### The run -/

/-- How an accepted reading passes its first argument, and what the scan does there. -/
inductive Advance (table : OptionTable) (arg : String) (args : List String) (i k : Invocation) :
    Prop where
  /-- The argument gives nothing that the scan looks for. -/
  | passed (r' : Reading) (hidle : r'.Idle) (hread : table.readFrom args r' = .ok k)
      (hsame : i.SameSettings r'.invocation)
      (hgrouped : ∀ t : Setting, t.letter ∉ table.grouped arg)
      (hscan : ∀ e, EarlyOptions.scanFrom (arg :: args) e = EarlyOptions.scanFrom args e)
  /-- The argument asks for the list of plugins. -/
  | listed (i' j : Invocation) (hread : table.readFrom args ⟨j, none⟩ = .ok k)
      (hsame : i.SameSettings i') (hset : i'.set .listPlugins = .ok j)
      (hgrouped : ∀ t : Setting, t.letter ∉ table.grouped arg)
      (hscan : ∀ e, EarlyOptions.scanFrom (arg :: args) e =
        EarlyOptions.scanFrom args { e with listPlugins := true })
  /-- The argument gives a setting, and the scan sees it. -/
  | given (s : Setting) (value : Option String) (v : String) (args' : List String)
      (i' j : Invocation) (hread : table.readFrom args' ⟨j, none⟩ = .ok k)
      (hsame : i.SameSettings i') (hassign : i'.assign s v = .ok j)
      (hsupplies : Supplies value args v args')
      (hgrouped : ∀ t : Setting, t.letter ∉ table.grouped arg)
      (hspelling : (Shape.ofArgument arg).spelling s = Supplies.spelling value)
  /-- The argument gives a setting behind other letters. -/
  | hidden (s : Setting) (value : Option String) (v : String) (args' : List String)
      (i' j : Invocation) (hread : table.readFrom args' ⟨j, none⟩ = .ok k)
      (hsame : i.SameSettings i') (hassign : i'.assign s v = .ok j)
      (hsupplies : Supplies value args v args')
      (hgrouped : ∀ t : Setting, t.letter ∈ table.grouped arg ↔ t = s)
      (hscan : ∀ e, EarlyOptions.scanFrom (arg :: args) e = EarlyOptions.scanFrom args e)

theorem spelling_long_of_longName {s : Setting} (value : Option String) :
    Shape.spelling s (.long s.longName value) = Supplies.spelling value := by
  cases value with
  | none => rw [Shape.spelling, if_pos rfl, Supplies.spelling]
  | some v => rw [Shape.spelling, if_pos rfl, Supplies.spelling]

theorem spelling_short_of_letter {s : Setting} (rest : List Char) :
    Shape.spelling s (.short (s.letter :: rest)) = Supplies.spelling (letterValue rest) := by
  rw [Shape.spelling, if_pos rfl, letterValue]
  cases rest with
  | nil => rfl
  | cons c rest =>
    rw [List.isEmpty_cons, if_neg Bool.false_ne_true]
    by_cases hc : c = '='
    · rw [hc]
      rfl
    · simp [Spelling.afterShort, Supplies.spelling, attached, hc]

theorem advance_of_long (hnames : table.NamesSettings) {name : String} {value : Option String}
    (hshape : Shape.ofArgument arg = .long name value) (hidle : r.Idle)
    (h : table.readLong name value r = .ok r') (hread : table.readFrom args r' = .ok k) :
    table.Advance arg args r.invocation k := by
  have hgrouped : ∀ t : Setting, t.letter ∉ table.grouped arg := by
    intro t ht
    rw [table.grouped_of_long hshape] at ht
    cases ht
  rcases readLong_cases hnames hidle h with
    ⟨s, rfl, hgive⟩ | ⟨rfl, rfl, hsettle⟩ | ⟨hnone, hlist, hidle', hsame⟩
  · obtain ⟨v, args', i', j, hsupplies, hclose, hassign, hread'⟩ :=
      table.readFrom_of_give hgive hread
    refine .given s value v args' i' j hread' (Reading.sameSettings_of_close hidle hclose) hassign
      hsupplies hgrouped ?_
    rw [hshape]
    exact spelling_long_of_longName value
  · obtain ⟨i', j, hclose, hset, rfl⟩ := Reading.settle_eq_ok hsettle
    exact .listed i' j hread (Reading.sameSettings_of_close hidle hclose) hset hgrouped
      fun e => EarlyOptions.scanFrom_of_listPlugins hshape args e
  · refine .passed r' hidle' hread hsame hgrouped fun e => ?_
    refine EarlyOptions.scanFrom_of_other ?_ ?_ ?_ args e
    · rw [hshape]
      exact Shape.noConfusion
    · rw [hshape]
      rintro ⟨⟩
      exact hlist ⟨rfl, rfl⟩
    · intro s _
      rw [hshape]
      cases value with
      | none => exact if_neg (hnone s)
      | some v => exact if_neg (hnone s)

theorem advance_of_short (hnames : table.NamesSettings) {c : Char} {rest : List Char}
    (hshape : Shape.ofArgument arg = .short (c :: rest)) (hidle : r.Idle)
    (h : table.readShort (c :: rest) r = .ok r') (hread : table.readFrom args r' = .ok k) :
    table.Advance arg args r.invocation k := by
  have hgrouped : table.grouped arg = (table.lettersRead (c :: rest)).tail := by
    rw [grouped, hshape]
  have hpass : (∀ s : Setting, c ≠ s.letter) → ∀ e,
      EarlyOptions.scanFrom (arg :: args) e = EarlyOptions.scanFrom args e := by
    intro hnone e
    refine EarlyOptions.scanFrom_of_other ?_ ?_ ?_ args e
    · rw [hshape]
      exact Shape.noConfusion
    · rw [hshape]
      exact Shape.noConfusion
    · intro s _
      rw [hshape]
      exact if_neg (hnone s)
  rcases readShort_cons_cases hnames hidle h with
    ⟨s, rfl, hletters, hgive⟩ | ⟨hnone, hletters, hidle', hsame⟩ |
      ⟨hnone, hletters, r₁, hidle₁, hsame₁, hrest⟩
  · obtain ⟨v, args', i', j, hsupplies, hclose, hassign, hread'⟩ :=
      table.readFrom_of_give hgive hread
    refine .given s (letterValue rest) v args' i' j hread'
      (Reading.sameSettings_of_close hidle hclose) hassign hsupplies ?_ ?_
    · intro t ht
      rw [hgrouped, hletters] at ht
      cases ht
    · rw [hshape]
      exact spelling_short_of_letter rest
  · refine .passed r' hidle' hread hsame ?_ (hpass hnone)
    intro t ht
    rw [hgrouped, hletters] at ht
    cases ht
  · rw [hletters, List.tail_cons] at hgrouped
    rcases readShort_cases hnames hidle₁ hrest with
      ⟨hnone', hidle', hsame⟩ | ⟨s, value, r₂, hiff, hidle₂, hsame₂, hgive⟩
    · refine .passed r' hidle' hread (hsame₁.trans hsame) ?_ (hpass hnone)
      rw [hgrouped]
      exact hnone'
    · obtain ⟨v, args', i', j, hsupplies, hclose, hassign, hread'⟩ :=
        table.readFrom_of_give hgive hread
      refine .hidden s value v args' i' j hread' ?_ hassign hsupplies ?_ (hpass hnone)
      · exact hsame₁.trans (hsame₂.trans (Reading.sameSettings_of_close hidle₂ hclose))
      · rw [hgrouped]
        exact hiff

/-- **One argument of an accepted reading**, before which no setting is open. -/
theorem advance_of_readFrom (hnames : table.NamesSettings)
    (hend : Shape.ofArgument arg ≠ .endOfOptions) (hidle : r.Idle)
    (h : table.readFrom (arg :: args) r = .ok k) : table.Advance arg args r.invocation k := by
  obtain ⟨r', hstep, hread⟩ := table.readFrom_cons_eq_ok hend h
  rw [step] at hstep
  cases hshape : Shape.ofArgument arg with
  | endOfOptions => exact absurd hshape hend
  | long name value =>
    rw [hshape] at hstep
    exact advance_of_long hnames hshape hidle hstep hread
  | short letters =>
    obtain ⟨c, rest, rfl⟩ := Shape.exists_cons_of_short hshape
    rw [hshape] at hstep
    exact advance_of_short hnames hshape hidle hstep hread
  | plain =>
    rw [hshape] at hstep
    obtain ⟨hidle', hsame⟩ := Reading.take_of_idle hidle hstep
    refine .passed r' hidle' hread hsame ?_ fun e => EarlyOptions.scanFrom_of_plain hshape args e
    intro t ht
    rw [table.grouped_of_plain hshape] at ht
    cases ht

/-- **The scan keeps track of an accepted reading**, except for the settings that are hidden from
it.  The induction is on the number of arguments, since a setting may take the next one as well. -/
theorem tracks_readFrom (hnames : table.NamesSettings) (hidle : r.Idle)
    (h : table.readFrom args r = .ok k) (htracks : r.invocation.Tracks e hidden) :
    k.Tracks (EarlyOptions.scanFrom args e) fun s => hidden s ∨ table.Hides s args := by
  induction hn : args.length using Nat.strongRecOn generalizing args r e hidden with
  | ind n ih =>
    cases args with
    | nil =>
      rw [readFrom] at h
      rw [EarlyOptions.scanFrom]
      refine (htracks.of_sameSettings (Reading.sameSettings_of_close hidle h)).congr fun t => ?_
      exact or_iff_left (table.not_hides_nil t)
    | cons arg args =>
      by_cases hend : Shape.ofArgument arg = .endOfOptions
      · rw [table.readFrom_of_endOfOptions hend] at h
        rw [EarlyOptions.scanFrom_of_endOfOptions hend]
        refine (htracks.of_sameSettings (Reading.sameSettings_of_addCommands hidle h)).congr
          fun t => ?_
        exact or_iff_left (table.not_hides_of_endOfOptions hend t args)
      · have hlength : ∀ {args' : List String}, args'.length ≤ args.length → args'.length < n := by
          intro args' hle
          rw [← hn]
          exact Nat.lt_succ_of_le hle
        have hhides : ∀ t, table.Hides t (arg :: args) ↔
            t.letter ∈ table.grouped arg ∨ table.Hides t args := fun t =>
          table.hides_cons_iff hend t args
        cases advance_of_readFrom hnames hend hidle h with
        | passed r' hidle' hread hsame hgrouped hscan =>
          rw [hscan]
          refine (ih _ (hlength (Nat.le_refl _)) hidle' hread (htracks.of_sameSettings hsame)
            rfl).congr fun t => ?_
          rw [hhides, or_iff_right (hgrouped t)]
        | listed i' j hread hsame hset hgrouped hscan =>
          rw [hscan]
          refine (ih _ (hlength (Nat.le_refl _)) (Reading.idle_of_none j) hread
            ((htracks.of_sameSettings hsame).of_set_listPlugins hset) rfl).congr fun t => ?_
          rw [hhides, or_iff_right (hgrouped t)]
        | given s value v args' i' j hread hsame hassign hsupplies hgrouped hspelling =>
          rw [hsupplies.scanFrom_cons_eq hspelling]
          refine (ih _ (hlength hsupplies.length_le) (Reading.idle_of_none j) hread
            ((htracks.of_sameSettings hsame).of_assign hassign) rfl).congr fun t => ?_
          rw [hhides, or_iff_right (hgrouped t), hsupplies.hides_iff table]
        | hidden s value v args' i' j hread hsame hassign hsupplies hgrouped hscan =>
          rw [hscan, hsupplies.scanFrom_eq]
          refine (ih _ (hlength hsupplies.length_le) (Reading.idle_of_none j) hread
            ((htracks.of_sameSettings hsame).of_hidden_assign hassign) rfl).congr fun t => ?_
          rw [hhides, hgrouped, hsupplies.hides_iff table, or_assoc]

end OptionTable

/-! ## The two together -/

variable {patterns : PatternRegistry} {args : List String} {i : Invocation}

/-- Some settings are hidden by the command line as a whole, and none before it. -/
theorem tracks_of_read (h : (OptionTable.ofPatterns patterns).read args = .ok i) :
    i.Tracks (EarlyOptions.scan args) fun s => (OptionTable.ofPatterns patterns).Hides s args := by
  have hstart : Invocation.empty.Tracks EarlyOptions.empty fun _ => False := by
    refine ⟨rfl, fun s _ => ?_, fun s hs => hs.elim, fun s hs => hs.elim⟩
    cases s <;> rfl
  have hrun := OptionTable.tracks_readFrom (OptionTable.namesSettings_ofPatterns patterns)
    (Reading.idle_of_none .empty) h hstart
  exact hrun.congr fun s => (or_iff_right not_false).symm

/-- **What the scan finds of an accepted command line.**  It finds the settings file and the log
level of the invocation, unless they are given behind other letters: then it finds no settings file,
or the level that is used when none is given.  So it agrees with the reading exactly when no
settings file is hidden from it, and no level other than that one. -/
theorem scan_of_read (h : (OptionTable.ofPatterns patterns).read args = .ok i)
    (processors : Option ProcessorCount) :
    EarlyOptions.scan args =
        { settingsFile :=
            if (OptionTable.ofPatterns patterns).Hides .settingsFile args then none
            else i.settingsFile
          logLevel :=
            if (OptionTable.ofPatterns patterns).Hides .logLevel args then .standard
            else (i.options processors).logLevel
          listPlugins := (i.options processors).listPlugins } ∧
      (EarlyOptions.scan args =
          ⟨i.settingsFile, (i.options processors).logLevel, (i.options processors).listPlugins⟩ ↔
        ¬ (OptionTable.ofPatterns patterns).Hides .settingsFile args ∧
          ((OptionTable.ofPatterns patterns).Hides .logLevel args →
            (i.options processors).logLevel = .standard)) := by
  have htracks := tracks_of_read h
  have hfile : (EarlyOptions.scan args).settingsFile =
      if (OptionTable.ofPatterns patterns).Hides .settingsFile args then none
      else i.settingsFile := by
    split
    · rename_i hhidden
      exact htracks.unseen .settingsFile hhidden
    · rename_i hhidden
      exact htracks.seen .settingsFile hhidden
  have hlevel : (EarlyOptions.scan args).logLevel =
      if (OptionTable.ofPatterns patterns).Hides .logLevel args then .standard
      else (i.options processors).logLevel := by
    split
    · rename_i hhidden
      exact EarlyOptions.logLevel_eq_of_valueOf (htracks.unseen .logLevel hhidden)
    · rename_i hhidden
      exact EarlyOptions.logLevel_eq_of_valueOf (htracks.seen .logLevel hhidden)
  have hlist : (EarlyOptions.scan args).listPlugins = (i.options processors).listPlugins :=
    htracks.listPlugins
  generalize EarlyOptions.scan args = e at hfile hlevel hlist
  obtain ⟨file, level, listed⟩ := e
  subst hfile hlevel hlist
  refine ⟨rfl, ?_⟩
  rw [EarlyOptions.mk.injEq]
  constructor
  · rintro ⟨hfile', hlevel', -⟩
    constructor
    · intro hhidden
      -- a hidden file was given, so that there is one
      have hgiven : i.settingsFile.isSome = true := htracks.given .settingsFile hhidden
      rw [if_pos hhidden] at hfile'
      rw [← hfile'] at hgiven
      cases hgiven
    · intro hhidden
      rw [if_pos hhidden] at hlevel'
      exact hlevel'.symm
  · rintro ⟨hfile', hlevel'⟩
    refine ⟨if_neg hfile', ?_, rfl⟩
    split
    · rename_i hhidden
      exact (hlevel' hhidden).symm
    · rfl

/-- Values in each spelling, behind switches that share an argument. -/
theorem scan_of_read_spellings :
    (OptionTable.ofPatterns .empty).read
        ["-vn", "-s=custom.yml", "--log-level", "debug", "--list-plugins", "--", "-s"] =
      .ok ⟨[.verbose, .dryRun, .listPlugins], none, some "custom.yml", some .debug, .empty,
        ["-s"]⟩ ∧
    EarlyOptions.scan
        ["-vn", "-s=custom.yml", "--log-level", "debug", "--list-plugins", "--", "-s"] =
      ⟨some "custom.yml", .debug, true⟩ := by
  have hread : (OptionTable.ofPatterns .empty).read
      ["-vn", "-s=custom.yml", "--log-level", "debug", "--list-plugins", "--", "-s"] =
      .ok ⟨[.verbose, .dryRun, .listPlugins], none, some "custom.yml", some .debug, .empty,
        ["-s"]⟩ := rfl
  refine ⟨hread, (scan_of_read hread none).2.2 ⟨by decide +kernel, fun hhidden => ?_⟩⟩
  exact absurd hhidden (by decide +kernel)

/-- A settings file behind another letter: the reading takes it, and the scan misses it. -/
theorem scan_misses_grouped_settings_file :
    (OptionTable.ofPatterns .empty).read ["-vs", "custom.yml", "build"] =
        .ok ⟨[.verbose], none, some "custom.yml", none, .empty, ["build"]⟩ ∧
      EarlyOptions.scan ["-vs", "custom.yml", "build"] = ⟨none, .standard, false⟩ := by
  exact ⟨rfl, rfl⟩

end CommandLine
end Orchestrator
