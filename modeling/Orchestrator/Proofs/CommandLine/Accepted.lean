import Orchestrator.Proofs.CommandLine.Scan

/-!
# How an accepted reading goes on

When a command line is accepted, what comes next closes the option that is open.  A setting that has
its value may as well be closed at once, and a setting without its value takes the next argument,
which then does not look like an option.

* `OptionTable.NamesSettings`: which names mean a setting, whatever patterns are registered.
* `OptionTable.close_of_readFrom`: an option that has its values may be closed at once.
* `Reading.give`, `Supplies`: how a setting is taken or opened, and where its value comes from.
* `OptionTable.readFrom_of_give`: **a setting that is given has a value**, and the reading goes on
  behind it.
-/

namespace Orchestrator
namespace CommandLine

/-! ## Names -/

namespace OptionTable

/-- The names by which the settings are given, and the switch that the scan looks for. -/
structure NamesSettings (table : OptionTable) : Prop where
  /-- A letter means a setting exactly when it is the letter of the setting. -/
  short_iff : ∀ {c o}, table.findShort? c = some o → ∀ s, o.kind = .setting s ↔ c = s.letter
  /-- A long name means a setting exactly when it is the name of the setting. -/
  long_iff : ∀ {name o}, table.findLong? name = some o →
    ∀ s, o.kind = .setting s ↔ name = s.longName
  /-- No letter asks for the list of plugins. -/
  short_listPlugins : ∀ {c o}, table.findShort? c = some o → o.kind ≠ .switch .listPlugins
  /-- One long name asks for the list of plugins. -/
  long_listPlugins : ∀ {name o}, table.findLong? name = some o →
    (o.kind = .switch .listPlugins ↔ name = "list-plugins")

/-- The option of a pattern is no setting and no switch. -/
theorem mem_standard_of_mem_options {patterns : PatternRegistry} {o : CommandOption}
    (h : o ∈ (ofPatterns patterns).options)
    (hkind : (∃ s, o.kind = .setting s) ∨ ∃ s, o.kind = .switch s) :
    o ∈ CommandOption.standard := by
  rw [ofPatterns, List.mem_append, List.mem_append] at h
  rcases h with (h | h) | h
  · exact h
  · obtain ⟨p, -, hp⟩ := List.mem_filterMap.1 h
    rw [CommandOption.ofPattern?] at hp
    split at hp
    · cases hp
    · cases hp
      rcases hkind with ⟨s, hs⟩ | ⟨s, hs⟩
      · cases hs
      · cases hs
  · rw [CommandOption.closing, List.mem_cons, List.mem_singleton] at h
    rcases h with rfl | rfl
    · rcases hkind with ⟨s, hs⟩ | ⟨s, hs⟩
      · cases hs
      · cases hs
    · rcases hkind with ⟨s, hs⟩ | ⟨s, hs⟩
      · cases hs
      · cases hs

/-- The names of the settings, and of the switch for the list of plugins. -/
theorem names_of_mem_standard {o : CommandOption} (h : o ∈ CommandOption.standard) :
    (∀ s, o.kind = .setting s → o.short = some s.letter ∧ o.long = some s.longName) ∧
      (o.kind = .switch .listPlugins → o.short = none ∧ o.long = some "list-plugins") := by
  simp only [CommandOption.standard, List.mem_cons, List.not_mem_nil, or_false] at h
  rcases h with rfl | rfl | rfl | rfl | rfl | rfl | rfl | rfl
  all_goals
    refine ⟨fun s hs => ?_, fun hs => ?_⟩
    · cases hs
      try exact ⟨rfl, rfl⟩
    · cases hs
      try exact ⟨rfl, rfl⟩

/-- **Patterns take no name away**: the names of the settings mean the settings. -/
theorem namesSettings_ofPatterns (patterns : PatternRegistry) :
    (ofPatterns patterns).NamesSettings where
  short_iff := by
    intro c o h s
    have hshort : o.short = some c := by simpa using List.find?_some h
    constructor
    · intro hkind
      have hmem := mem_standard_of_mem_options (List.mem_of_find?_eq_some h) (Or.inl ⟨s, hkind⟩)
      have hletter := ((names_of_mem_standard hmem).1 s hkind).1
      exact Option.some.inj (hshort.symm.trans hletter)
    · rintro rfl
      have hfirst : (ofPatterns patterns).findShort? s.letter =
          some ⟨.setting s, some s.letter, some s.longName⟩ := by
        cases s <;> rfl
      rw [hfirst] at h
      cases h
      rfl
  long_iff := by
    intro name o h s
    have hlong : o.long = some name := by simpa using List.find?_some h
    constructor
    · intro hkind
      have hmem := mem_standard_of_mem_options (List.mem_of_find?_eq_some h) (Or.inl ⟨s, hkind⟩)
      have hname := ((names_of_mem_standard hmem).1 s hkind).2
      exact Option.some.inj (hlong.symm.trans hname)
    · rintro rfl
      have hfirst : (ofPatterns patterns).findLong? s.longName =
          some ⟨.setting s, some s.letter, some s.longName⟩ := by
        cases s <;> rfl
      rw [hfirst] at h
      cases h
      rfl
  short_listPlugins := by
    intro c o h hkind
    have hshort : o.short = some c := by simpa using List.find?_some h
    have hmem := mem_standard_of_mem_options (List.mem_of_find?_eq_some h) (Or.inr ⟨_, hkind⟩)
    have hnone := ((names_of_mem_standard hmem).2 hkind).1
    cases hnone.symm.trans hshort
  long_listPlugins := by
    intro name o h
    have hlong : o.long = some name := by simpa using List.find?_some h
    constructor
    · intro hkind
      have hmem := mem_standard_of_mem_options (List.mem_of_find?_eq_some h) (Or.inr ⟨_, hkind⟩)
      have hname := ((names_of_mem_standard hmem).2 hkind).2
      exact Option.some.inj (hlong.symm.trans hname)
    · rintro rfl
      have hfirst : (ofPatterns patterns).findLong? "list-plugins" =
          some ⟨.switch .listPlugins, none, some "list-plugins"⟩ := rfl
      rw [hfirst] at h
      cases h
      rfl

end OptionTable

/-! ## How an accepted reading goes on -/

namespace Reading

variable {r r' : Reading} {i : Invocation} {kind : OptionKind} {values : List String}

theorem settle_eq_ok (h : r.settle kind values = .ok r') :
    ∃ i j, r.close = .ok i ∧ accept i kind values = .ok j ∧ r' = ⟨j, none⟩ := by
  rw [settle] at h
  cases hclose : r.close with
  | error e =>
    rw [hclose] at h
    cases h
  | ok i =>
    rw [hclose] at h
    cases haccept : accept i kind values with
    | error e =>
      cases kind with
      | help => cases h
      | version => cases h
      | _ =>
        simp only [haccept] at h
        cases h
    | ok j =>
      cases kind with
      | help => cases h
      | version => cases h
      | _ =>
        simp only [haccept] at h
        cases h
        exact ⟨i, j, rfl, haccept, rfl⟩

theorem openOption_eq_ok (h : r.openOption kind = .ok r') :
    ∃ i, r.close = .ok i ∧ r' = ⟨i, some ⟨kind, []⟩⟩ := by
  rw [openOption] at h
  cases hclose : r.close with
  | error e =>
    rw [hclose] at h
    cases h
  | ok i =>
    rw [hclose] at h
    cases h
    exact ⟨i, rfl, rfl⟩

theorem addCommand_eq_ok {command : String} (h : r.addCommand command = .ok r') :
    ∃ i, r.close = .ok i ∧ r' = ⟨i.addCommand command, none⟩ := by
  rw [addCommand] at h
  cases hclose : r.close with
  | error e =>
    rw [hclose] at h
    cases h
  | ok i =>
    rw [hclose] at h
    cases h
    exact ⟨i, rfl, rfl⟩

@[simp] theorem close_of_none (i : Invocation) : close ⟨i, none⟩ = .ok i := rfl

/-- What a reading does with a further option depends on what it closes to. -/
theorem settle_congr (h : r.close = r'.close) (kind : OptionKind) (values : List String) :
    r.settle kind values = r'.settle kind values := by
  rw [settle, settle, h]

theorem openOption_congr (h : r.close = r'.close) (kind : OptionKind) :
    r.openOption kind = r'.openOption kind := by
  rw [openOption, openOption, h]

theorem addCommand_congr (h : r.close = r'.close) (command : String) :
    r.addCommand command = r'.addCommand command := by
  rw [addCommand, addCommand, h]

end Reading

/-- An argument with letters has one at least. -/
theorem Shape.exists_cons_of_short {arg : String} {letters : List Char}
    (h : Shape.ofArgument arg = .short letters) : ∃ c rest, letters = c :: rest := by
  rw [Shape.ofArgument] at h
  split at h
  · cases h
  · cases h
  · cases h
    exact ⟨_, _, rfl⟩
  · cases h

namespace OptionTable

variable (table : OptionTable) {arg : String} {args : List String} {r r' : Reading}
  {i : Invocation}

/-- What an argument does to a reading.  Two dashes alone do nothing themselves. -/
def step (arg : String) (r : Reading) : Except Stop Reading :=
  match Shape.ofArgument arg with
  | .endOfOptions => .ok r
  | .long name value => table.readLong name value r
  | .short letters => table.readShort letters r
  | .plain => r.take arg

theorem readFrom_cons (hend : Shape.ofArgument arg ≠ .endOfOptions) (args : List String)
    (r : Reading) :
    table.readFrom (arg :: args) r =
      match table.step arg r with
      | .ok r => table.readFrom args r
      | .error e => .error e := by
  rw [readFrom, step]
  cases hshape : Shape.ofArgument arg with
  | endOfOptions => exact absurd hshape hend
  | long name value =>
    dsimp only
    cases table.readLong name value r with
    | error e => rfl
    | ok r => rfl
  | short letters =>
    dsimp only
    cases table.readShort letters r with
    | error e => rfl
    | ok r => rfl
  | plain =>
    dsimp only
    cases r.take arg with
    | error e => rfl
    | ok r => rfl

/-- One argument of an accepted reading. -/
theorem readFrom_cons_eq_ok (hend : Shape.ofArgument arg ≠ .endOfOptions)
    (h : table.readFrom (arg :: args) r = .ok i) :
    ∃ r', table.step arg r = .ok r' ∧ table.readFrom args r' = .ok i := by
  rw [table.readFrom_cons hend] at h
  cases hr : table.step arg r with
  | error e =>
    rw [hr] at h
    cases h
  | ok r' =>
    rw [hr] at h
    exact ⟨r', rfl, h⟩

theorem readFrom_of_endOfOptions (hend : Shape.ofArgument arg = .endOfOptions) :
    table.readFrom (arg :: args) r = r.addCommands args := by
  rw [readFrom, hend]

/-! ### Open options

A setting that has its value is closed by whatever comes next, so that it may as well be closed at
once.  A setting without its value takes the next argument. -/

theorem readLong_close {name : String} {value : Option String}
    (h : table.readLong name value r = .ok r') :
    ∃ j, r.close = .ok j ∧ table.readLong name value ⟨j, none⟩ = .ok r' := by
  rw [readLong] at h
  cases hfind : table.findLong? name with
  | none =>
    rw [hfind] at h
    cases h
  | some o =>
    simp only [hfind] at h
    split at h
    · rename_i v htakes
      obtain ⟨j, -, hclose, -, -⟩ := Reading.settle_eq_ok h
      refine ⟨j, hclose, ?_⟩
      simp only [readLong, hfind, htakes]
      rwa [← Reading.settle_congr (hclose.trans (Reading.close_of_none j).symm)]
    · rename_i htakes
      obtain ⟨j, hclose, -⟩ := Reading.openOption_eq_ok h
      refine ⟨j, hclose, ?_⟩
      simp only [readLong, hfind, htakes]
      rwa [← Reading.openOption_congr (hclose.trans (Reading.close_of_none j).symm)]
    · cases h
    · rename_i htakes
      obtain ⟨j, -, hclose, -, -⟩ := Reading.settle_eq_ok h
      refine ⟨j, hclose, ?_⟩
      simp only [readLong, hfind, htakes]
      rwa [← Reading.settle_congr (hclose.trans (Reading.close_of_none j).symm)]

theorem readShort_close {c : Char} {rest : List Char}
    (h : table.readShort (c :: rest) r = .ok r') :
    ∃ j, r.close = .ok j ∧ table.readShort (c :: rest) ⟨j, none⟩ = .ok r' := by
  rw [readShort] at h
  cases hfind : table.findShort? c with
  | none =>
    rw [hfind] at h
    cases h
  | some o =>
    simp only [hfind] at h
    split at h
    · rename_i htakes
      split at h
      · rename_i hrest
        obtain ⟨j, hclose, -⟩ := Reading.openOption_eq_ok h
        refine ⟨j, hclose, ?_⟩
        simp only [readShort, hfind, htakes, hrest, if_true]
        rwa [← Reading.openOption_congr (hclose.trans (Reading.close_of_none j).symm)]
      · rename_i hrest
        obtain ⟨j, -, hclose, -, -⟩ := Reading.settle_eq_ok h
        refine ⟨j, hclose, ?_⟩
        simp only [readShort, hfind, htakes, hrest, if_true]
        rwa [← Reading.settle_congr (hclose.trans (Reading.close_of_none j).symm)]
    · rename_i htakes
      cases hsettle : r.settle o.kind [] with
      | error e =>
        rw [hsettle] at h
        cases h
      | ok r₁ =>
        obtain ⟨j, -, hclose, -, -⟩ := Reading.settle_eq_ok hsettle
        refine ⟨j, hclose, ?_⟩
        rw [hsettle] at h
        rw [Reading.settle_congr (hclose.trans (Reading.close_of_none j).symm)] at hsettle
        simp only [readShort, hfind, htakes, hsettle]
        exact h

/-- When an option that has its values is open, an accepted reading goes on as if it were closed. -/
theorem close_of_readFrom (hfull : ∀ o, r.pending = some o → o.takesMore = false)
    (h : table.readFrom args r = .ok i) :
    ∃ j, r.close = .ok j ∧ table.readFrom args ⟨j, none⟩ = .ok i := by
  have htake : ∀ {command r'}, r.take command = .ok r' →
      ∃ j, r.close = .ok j ∧ Reading.take ⟨j, none⟩ command = .ok r' := by
    intro command r' hr
    have hadd : r.take command = r.addCommand command := by
      rw [Reading.take]
      cases hpending : r.pending with
      | none => rfl
      | some o => simp only [hfull o hpending, Bool.false_eq_true, if_false]
    rw [hadd] at hr
    obtain ⟨j, hclose, -⟩ := Reading.addCommand_eq_ok hr
    refine ⟨j, hclose, ?_⟩
    rw [Reading.addCommand_congr (hclose.trans (Reading.close_of_none j).symm)] at hr
    exact hr
  cases args with
  | nil =>
    rw [readFrom] at h
    exact ⟨i, h, by rw [readFrom, Reading.close_of_none]⟩
  | cons arg args =>
    by_cases hend : Shape.ofArgument arg = .endOfOptions
    · rw [table.readFrom_of_endOfOptions hend] at h
      cases args with
      | nil =>
        rw [Reading.addCommands] at h
        refine ⟨i, h, ?_⟩
        rw [table.readFrom_of_endOfOptions hend, Reading.addCommands, Reading.close_of_none]
      | cons command args =>
        rw [Reading.addCommands] at h
        cases hadd : r.addCommand command with
        | error e =>
          rw [hadd] at h
          cases h
        | ok r' =>
          rw [hadd] at h
          obtain ⟨j, hclose, -⟩ := Reading.addCommand_eq_ok hadd
          refine ⟨j, hclose, ?_⟩
          rw [Reading.addCommand_congr (hclose.trans (Reading.close_of_none j).symm)] at hadd
          rw [table.readFrom_of_endOfOptions hend, Reading.addCommands, hadd]
          exact h
    · obtain ⟨r', hstep, hrest⟩ := table.readFrom_cons_eq_ok hend h
      have hclosed : ∃ j, r.close = .ok j ∧ table.step arg ⟨j, none⟩ = .ok r' := by
        rw [step] at hstep
        cases hshape : Shape.ofArgument arg with
        | endOfOptions => exact absurd hshape hend
        | long name value =>
          rw [hshape] at hstep
          simp only [step, hshape]
          exact table.readLong_close hstep
        | short letters =>
          rw [hshape] at hstep
          simp only [step, hshape]
          obtain ⟨c, rest, rfl⟩ := Shape.exists_cons_of_short hshape
          exact table.readShort_close hstep
        | plain =>
          rw [hshape] at hstep
          simp only [step, hshape]
          exact htake hstep
      obtain ⟨j, hclose, hstep'⟩ := hclosed
      refine ⟨j, hclose, ?_⟩
      rw [table.readFrom_cons hend, hstep']
      exact hrest

end OptionTable

/-- How an option gets its value: with the option, or else from the next argument. -/
inductive Supplies : Option String → List String → String → List String → Prop where
  | attached (value : String) (args : List String) : Supplies (some value) args value args
  | detached (value : String) (args : List String) (hvalue : Shape.ofArgument value = .plain) :
      Supplies none (value :: args) value args

theorem Supplies.length_le {value : Option String} {args args' : List String} {v : String}
    (h : Supplies value args v args') : args'.length ≤ args.length := by
  cases h with
  | attached => exact Nat.le_refl _
  | detached => exact Nat.le_succ _

namespace Reading

/-- Closes the open option, and takes a setting with its value or opens it. -/
def give (r : Reading) (s : Setting) : Option String → Except Stop Reading
  | some value => r.settle (.setting s) [value]
  | none => r.openOption (.setting s)

/-- No setting is open. -/
def Idle (r : Reading) : Prop :=
  ∀ o, r.pending = some o → ∃ key, o.kind = .pattern key

theorem idle_of_none (i : Invocation) : Idle ⟨i, none⟩ := by
  intro o h
  cases h

theorem idle_of_pattern (i : Invocation) (key : String) (values : List String) :
    Idle ⟨i, some ⟨.pattern key, values⟩⟩ := by
  rintro o ⟨⟩
  exact ⟨key, rfl⟩

end Reading

namespace OptionTable

variable (table : OptionTable) {arg : String} {args : List String} {r r' : Reading}
  {i j : Invocation} {s : Setting}

/-- A setting that is open takes the next argument, which does not look like an option. -/
theorem readFrom_of_waiting (h : table.readFrom args ⟨j, some ⟨.setting s, []⟩⟩ = .ok i) :
    ∃ value args' j', Supplies none args value args' ∧ j.assign s value = .ok j' ∧
      table.readFrom args' ⟨j', none⟩ = .ok i := by
  have hclose : ∀ j', Reading.close ⟨j, some ⟨.setting s, []⟩⟩ ≠ .ok j' := by
    intro j' hj'
    cases hj'
  cases args with
  | nil =>
    rw [readFrom] at h
    exact absurd h (hclose i)
  | cons arg args =>
    by_cases hend : Shape.ofArgument arg = .endOfOptions
    · rw [table.readFrom_of_endOfOptions hend] at h
      cases args with
      | nil =>
        rw [Reading.addCommands] at h
        exact absurd h (hclose i)
      | cons command args => cases h
    · obtain ⟨r', hstep, hrest⟩ := table.readFrom_cons_eq_ok hend h
      rw [step] at hstep
      cases hshape : Shape.ofArgument arg with
      | endOfOptions => exact absurd hshape hend
      | long name value =>
        rw [hshape] at hstep
        obtain ⟨j', hj', -⟩ := table.readLong_close hstep
        exact absurd hj' (hclose j')
      | short letters =>
        obtain ⟨c, rest, rfl⟩ := Shape.exists_cons_of_short hshape
        rw [hshape] at hstep
        obtain ⟨j', hj', -⟩ := table.readShort_close hstep
        exact absurd hj' (hclose j')
      | plain =>
        rw [hshape] at hstep
        have hr' : r' = ⟨j, some ⟨.setting s, [arg]⟩⟩ := by
          cases hstep
          rfl
        rw [hr'] at hrest
        obtain ⟨j', hj', hread⟩ := table.close_of_readFrom (by rintro o ⟨⟩; rfl) hrest
        refine ⟨arg, args, j', .detached arg args hshape, ?_, hread⟩
        have hclosed : (j.assign s arg).mapError Stop.usage = .ok j' := hj'
        cases hassign : j.assign s arg with
        | error e =>
          rw [hassign] at hclosed
          cases hclosed
        | ok j'' =>
          rw [hassign] at hclosed
          cases hclosed
          rfl

/-- **A setting that is given has a value**, and the reading goes on behind it. -/
theorem readFrom_of_give {value : Option String} (hgive : r.give s value = .ok r')
    (h : table.readFrom args r' = .ok i) :
    ∃ v args' j j', Supplies value args v args' ∧ r.close = .ok j ∧ j.assign s v = .ok j' ∧
      table.readFrom args' ⟨j', none⟩ = .ok i := by
  cases value with
  | some v =>
    rw [Reading.give] at hgive
    obtain ⟨j, j', hclose, hassign, rfl⟩ := Reading.settle_eq_ok hgive
    exact ⟨v, args, j, j', .attached v args, hclose, hassign, h⟩
  | none =>
    rw [Reading.give] at hgive
    obtain ⟨j, hclose, rfl⟩ := Reading.openOption_eq_ok hgive
    obtain ⟨v, args', j', hsupplies, hassign, hread⟩ := table.readFrom_of_waiting h
    exact ⟨v, args', j, j', hsupplies, hclose, hassign, hread⟩

end OptionTable

end CommandLine
end Orchestrator
