import Orchestrator.Proofs.Pattern.Extraction
import Orchestrator.Proofs.Settings.Writes

/-!
# Patterns and their definitions

A pattern is written into the settings as a node of its name, with one setting for its values and
one for each option that it has.  In the settings there are only names, so that three things could
get lost: an option that is missing and one that is empty, a value that is given twice, and the one
character of a short option.  None of them does.  A setting is there exactly when the pattern has
what it stands for, a pattern has a value, and a character is read from a text of length one.

## Writing

The definition comes about through the operations on trees, which may refuse a path.  They do not
refuse here: each of the three paths is one name, which is not empty.  The name is new as well, so
that the setting is put behind those that are there (`SettingsTree.addValues_singleton`).

## Reading

A definition gives a pattern its name, its values and its options (`Pattern.DefinedBy`), and no two
patterns get the same ones from one definition (`Pattern.DefinedBy.unique`).  The definition of a
pattern gives it its own, so that it is the pattern that is read.

* `Pattern.define`: writes the definition of a pattern; `Pattern.define_eq`: **it always can**.
* `Pattern.ofDefinition_definition`: **the definition of a pattern is read as the pattern**.
* `Pattern.definition_roundTrip`: both, and what this says of a definition that somebody wrote.
-/

namespace Orchestrator

open SettingsTree

/-! ## Writing a definition -/

/-- A setting whose name is new is put behind those that are there. -/
theorem SettingsTree.addValues_singleton {t : SettingsTree} {k : String} (hk : k ≠ "")
    (hnew : k ∉ t.children.map key) (values : List String) :
    t.addValues [k] values = .ok (node t.key (t.children ++ [node k (values.map leaf)])) := by
  have hpath : "" ∉ [k] := by simpa using hk.symm
  rw [addValues_of_notMem hpath, modifyAt_cons, updateChild_of_notMem hnew]
  rfl

namespace Pattern

/-- Writes a setting, if there is a value for it. -/
def writeOption (k : String) (value : Option String) (t : SettingsTree) :
    Except SettingsError SettingsTree :=
  match value with
  | some v => t.add [k] v
  | none => .ok t

/-- Writes the definition of a pattern: the values first, and then the options that there are. -/
def define (p : Pattern) : Except SettingsError SettingsTree := do
  let t ← (leaf p.key).addValues [Names.defaultValues] p.values
  let t ← writeOption Names.shortOption (p.shortOption.map String.singleton) t
  writeOption Names.longOption p.longOption t

theorem writeOption_eq {t : SettingsTree} {k : String} (hk : k ≠ "")
    (hnew : k ∉ t.children.map SettingsTree.key) (value : Option String) :
    writeOption k value t =
      .ok (node t.key (t.children ++ (value.map fun v => node k [leaf v]).toList)) := by
  cases value with
  | none =>
    obtain ⟨name, cs⟩ := t
    simp [writeOption]
  | some v => exact addValues_singleton hk hnew [v]

variable {p q : Pattern}

/-- **A definition can always be written.** -/
theorem define_eq (p : Pattern) : p.define = .ok p.definition := by
  obtain ⟨name, values, short, long, hvalues⟩ := p
  -- no setting has the name of one that is written before it
  have hshort : Names.shortOption ∉ [Names.defaultValues] := by decide
  have hlong : Names.longOption ∉ ([node Names.defaultValues (values.map leaf)] ++
      ((short.map String.singleton).map fun v => node Names.shortOption [leaf v]).toList).map
        SettingsTree.key := by
    cases short with
    | none =>
      show Names.longOption ∉ [Names.defaultValues]
      decide
    | some c =>
      show Names.longOption ∉ [Names.defaultValues, Names.shortOption]
      decide
  calc define ⟨name, values, short, long, hvalues⟩
    _ = (writeOption Names.shortOption (short.map String.singleton)
          (node name [node Names.defaultValues (values.map leaf)]) >>=
        writeOption Names.longOption long) := by
      rw [define, addValues_singleton (by decide) List.not_mem_nil]
      rfl
    _ = writeOption Names.longOption long
          (node name ([node Names.defaultValues (values.map leaf)] ++
            ((short.map String.singleton).map fun v =>
              node Names.shortOption [leaf v]).toList)) := by
      rw [writeOption_eq (by decide) hshort]
      rfl
    _ = .ok (definition ⟨name, values, short, long, hvalues⟩) := by
      rw [writeOption_eq (by decide) hlong, Option.map_map]
      rfl

/-! ## Reading it -/

theorem namesAt_definition_defaultValues (p : Pattern) :
    p.definition.namesAt [Names.defaultValues] = p.values :=
  map_key_map_leaf p.values

theorem namesAt_definition_shortOption (p : Pattern) :
    p.definition.namesAt [Names.shortOption] = (p.shortOption.map String.singleton).toList := by
  obtain ⟨name, values, short, long, hvalues⟩ := p
  cases short <;> cases long <;> rfl

theorem namesAt_definition_longOption (p : Pattern) :
    p.definition.namesAt [Names.longOption] = p.longOption.toList := by
  obtain ⟨name, values, short, long, hvalues⟩ := p
  cases short <;> cases long <;> rfl

theorem definedBy_definition (p : Pattern) : DefinedBy p.key p.definition p where
  key_eq := rfl
  values_eq := (namesAt_definition_defaultValues p).symm
  shortOption_eq := by
    rw [namesAt_definition_shortOption]
    cases p.shortOption <;> rfl
  longOption_eq := by
    rw [namesAt_definition_longOption]
    cases p.longOption <;> rfl

theorem isDefinition_definition (p : Pattern) : IsDefinition p.definition where
  hasValue := by
    rw [namesAt_definition_defaultValues]
    exact p.values_ne_nil
  hasShortOption := by
    rw [HasShortOption, ← p.definedBy_definition.shortOption_eq]
    intro v hv
    obtain ⟨c, -, rfl⟩ := Option.map_eq_some_iff.1 hv
    exact String.length_singleton

/-- One definition does not give two patterns of one name. -/
theorem DefinedBy.unique {key : String} {d : SettingsTree} (hp : DefinedBy key d p)
    (hq : DefinedBy key d q) : p = q := by
  have hkey : p.key = q.key := hp.key_eq.trans hq.key_eq.symm
  have hvalues : p.values = q.values := hp.values_eq.trans hq.values_eq.symm
  have hlong : p.longOption = q.longOption := hp.longOption_eq.trans hq.longOption_eq.symm
  have hsingle : Function.Injective String.singleton := by
    intro c d hcd
    simpa using congrArg String.toList hcd
  have hshort : p.shortOption = q.shortOption :=
    Option.map_injective hsingle (hp.shortOption_eq.trans hq.shortOption_eq.symm)
  cases p
  cases q
  simp_all

/-- **What a definition is read as**: the pattern that it gives, if it is valid. -/
theorem ofDefinition_eq_ok_iff {key : String} {d : SettingsTree} :
    ofDefinition key d = .ok p ↔ IsDefinition d ∧ DefinedBy key d p := by
  by_cases hd : IsDefinition d
  · obtain ⟨q, hq, hdefined⟩ := ofDefinition_of_isDefinition hd key
    rw [hq, Except.ok.injEq]
    constructor
    · rintro rfl
      exact ⟨hd, hdefined⟩
    · rintro ⟨-, hp⟩
      exact hdefined.unique hp
  · rw [ofDefinition_of_not_isDefinition hd]
    constructor
    · intro h
      cases h
    · rintro ⟨h, -⟩
      exact absurd h hd

/-- **The definition of a pattern is read as the pattern.** -/
theorem ofDefinition_definition (p : Pattern) : ofDefinition p.key p.definition = .ok p :=
  ofDefinition_eq_ok_iff.2 ⟨p.isDefinition_definition, p.definedBy_definition⟩

/-- **Patterns go into the settings and come back.**  The definition of any pattern can be written,
and is read as the pattern.  So it is for a pattern that was read from any other definition.  What
is written for it has all values of that definition and the last of each of its options, and so it
is read as the same pattern. -/
theorem definition_roundTrip :
    (∀ p : Pattern, p.define = .ok p.definition ∧ ofDefinition p.key p.definition = .ok p) ∧
      ∀ (key : String) (d : SettingsTree) (p : Pattern), ofDefinition key d = .ok p →
        p.define = .ok p.definition ∧ ofDefinition key p.definition = .ok p ∧
          p.definition.namesAt [Names.defaultValues] = d.namesAt [Names.defaultValues] ∧
          ∀ option ∈ [Names.shortOption, Names.longOption],
            p.definition.namesAt [option] = (d.namesAt [option]).getLast?.toList := by
  refine ⟨fun p => ⟨p.define_eq, p.ofDefinition_definition⟩, fun key d p h => ?_⟩
  have hdefined : DefinedBy key d p := (ofDefinition_eq_ok_iff.1 h).2
  obtain rfl : p.key = key := hdefined.key_eq
  refine ⟨p.define_eq, p.ofDefinition_definition, ?_, fun option hoption => ?_⟩
  · rw [namesAt_definition_defaultValues, hdefined.values_eq]
  · rcases List.mem_pair.1 hoption with rfl | rfl
    · rw [namesAt_definition_shortOption, hdefined.shortOption_eq]
    · rw [namesAt_definition_longOption, hdefined.longOption_eq]

/-- A definition with each option given twice, a setting that is none of the three, and a value that
is repeated.  The options that count are one character of two bytes and an empty text. -/
theorem definition_roundTrip_twice :
    let d := node "compilers" [node Names.longOption [leaf "compiler", leaf ""],
      node "comment" [leaf "unused"], node Names.defaultValues [leaf "gcc", leaf "gcc", leaf ""],
      node Names.shortOption [leaf "cc", leaf "é"]]
    let p : Pattern := ⟨"COMPILER", ["gcc", "gcc", ""], some 'é', some "", List.cons_ne_nil _ _⟩
    ofDefinition "COMPILER" d = .ok p ∧
      p.define = .ok (node "COMPILER" [node Names.defaultValues [leaf "gcc", leaf "gcc", leaf ""],
        node Names.shortOption [leaf "é"], node Names.longOption [leaf ""]]) ∧
      ofDefinition "COMPILER" p.definition = .ok p ∧
      Names.longOption ∈ [Names.shortOption, Names.longOption] ∧
      p.definition.namesAt [Names.longOption] = [""] := by
  intro d p
  have hread : ofDefinition "COMPILER" d = .ok p := rfl
  have hlong : Names.longOption ∈ [Names.shortOption, Names.longOption] := by decide
  obtain ⟨hwritten, hback, -, hoptions⟩ := definition_roundTrip.2 "COMPILER" d p hread
  exact ⟨hread, hwritten, hback, hlong, hoptions Names.longOption hlong⟩

end Pattern
end Orchestrator
