import Mathlib.Data.List.Induction
import Orchestrator.Proofs.Settings.Construction
import Orchestrator.Proofs.Settings.Readings
import Orchestrator.Settings.Discovery

/-!
# Which inline patterns are taken out of the settings

The definitions of inline patterns are the children of the first section of their name.  They are
gone through in order.  A valid definition makes a pattern, in the place of an earlier one of its
name, and any other is reported.  After that all sections of the name are removed, not only the one
that was read.  In a tree that came about through the operations on trees nothing is lost in this
way, since the others are leaves.

* `Pattern.DefinedBy`, `Pattern.IsDefinition`, `Pattern.refusal`: what a definition says, whether it
  is valid, and what is wrong with it when it is not.
* `Pattern.ofDefinition_of_isDefinition`, `Pattern.ofDefinition_of_not_isDefinition`: **how a
  definition is read**.
* `InlinePatterns.rel_registry`, `InlinePatterns.refused_eq`: what is registered and what is
  reported, by induction along the definitions.
* `InlinePatterns.extract_partitions`: **the definitions are parted** into those that are
  registered, those that are replaced and those that are reported, and the settings into the
  sections and the rest.
-/

namespace Orchestrator

open SettingsTree

namespace Pattern

/-! ## Definitions -/

/-- Whether a pattern is the one of a name that a definition gives. -/
structure DefinedBy (key : String) (definition : SettingsTree) (p : Pattern) : Prop where
  key_eq : p.key = key
  values_eq : p.values = definition.namesAt [Names.defaultValues]
  shortOption_eq :
    p.shortOption.map String.singleton = (definition.namesAt [Names.shortOption]).getLast?
  longOption_eq : p.longOption = (definition.namesAt [Names.longOption]).getLast?

/-- Whether the last short option of a definition, if it has any, is one character. -/
def HasShortOption (definition : SettingsTree) : Prop :=
  ∀ v ∈ (definition.namesAt [Names.shortOption]).getLast?, v.length = 1

instance (definition : SettingsTree) : Decidable (HasShortOption definition) :=
  match h : (definition.namesAt [Names.shortOption]).getLast? with
  | none => isTrue fun v hv => by
    rw [h] at hv
    cases hv
  | some v => decidable_of_iff (v.length = 1) (by simp [HasShortOption, h])

/-- Whether a definition is valid: it has a value, and a short option is one character. -/
structure IsDefinition (definition : SettingsTree) : Prop where
  hasValue : definition.namesAt [Names.defaultValues] ≠ []
  hasShortOption : HasShortOption definition

theorem isDefinition_iff {definition : SettingsTree} :
    IsDefinition definition ↔
      definition.namesAt [Names.defaultValues] ≠ [] ∧ HasShortOption definition :=
  ⟨fun h => ⟨h.hasValue, h.hasShortOption⟩, fun h => ⟨h.1, h.2⟩⟩

instance (definition : SettingsTree) : Decidable (IsDefinition definition) :=
  decidable_of_iff _ isDefinition_iff.symm

/-- What is wrong with a definition that is not valid.  The short option is looked at first. -/
def refusal (key : String) (definition : SettingsTree) : PatternError :=
  if HasShortOption definition then .noValues key
  else .invalidDefinition key
    (.cast [Names.shortOption] (definition.namesAt [Names.shortOption]) .character)

variable {key : String} {definition : SettingsTree}

/-- What a definition is read as depends on its short option and on whether there is a value. -/
theorem ofDefinition_eq (key : String) (definition : SettingsTree) :
    ofDefinition key definition =
      (inDefinition key (definition.read? .character [Names.shortOption])).bind fun short =>
        make key (definition.namesAt [Names.defaultValues]) short
          (definition.namesAt [Names.longOption]).getLast? := by
  rw [ofDefinition, definition.readD_list_nil, definition.read?_text]
  rfl

/-- A short option is read as a character when it is one. -/
theorem exists_read?_character (h : HasShortOption definition) :
    ∃ short, definition.read? .character [Names.shortOption] = .ok short ∧
      short.map String.singleton = (definition.namesAt [Names.shortOption]).getLast? := by
  rw [read?_character]
  cases hlast : (definition.namesAt [Names.shortOption]).getLast? with
  | none => exact ⟨none, rfl, rfl⟩
  | some v =>
    have hone : v.toList.length = 1 := by
      rw [String.length_toList]
      exact h v hlast
    obtain ⟨c, hc⟩ := List.length_eq_one_iff.1 hone
    refine ⟨some c, by simp only [hc], congrArg some ?_⟩
    rw [← String.toList_inj, hc, String.toList_singleton]

/-- Anything else is refused. -/
theorem read?_character_of_not (h : ¬ HasShortOption definition) :
    definition.read? .character [Names.shortOption] =
      .error (.cast [Names.shortOption] (definition.namesAt [Names.shortOption]) .character) := by
  rw [read?_character]
  cases hlast : (definition.namesAt [Names.shortOption]).getLast? with
  | none =>
    refine absurd (fun v hv => ?_) h
    rw [hlast] at hv
    cases hv
  | some v =>
    dsimp only
    split
    · rename_i c hc
      refine absurd (fun w hw => ?_) h
      rw [hlast, Option.mem_some_iff] at hw
      rw [← hw, ← String.length_toList, hc]
      rfl
    · rfl

/-- **A valid definition is read** as the pattern that it gives. -/
theorem ofDefinition_of_isDefinition (h : IsDefinition definition) (key : String) :
    ∃ p, ofDefinition key definition = .ok p ∧ DefinedBy key definition p := by
  obtain ⟨short, hshort, hsingle⟩ := exists_read?_character h.hasShortOption
  rw [ofDefinition_eq, hshort]
  show ∃ p, make _ _ _ _ = .ok p ∧ _
  rw [make, dif_neg h.hasValue]
  exact ⟨_, rfl, rfl, rfl, hsingle, rfl⟩

/-- **A definition that is not valid is refused** for what is wrong with it. -/
theorem ofDefinition_of_not_isDefinition (h : ¬ IsDefinition definition) (key : String) :
    ofDefinition key definition = .error (refusal key definition) := by
  rw [ofDefinition_eq, refusal]
  by_cases hshort : HasShortOption definition
  · have hnone : definition.namesAt [Names.defaultValues] = [] :=
      Decidable.not_not.1 fun hne => h ⟨hne, hshort⟩
    obtain ⟨short, hread, -⟩ := exists_read?_character hshort
    rw [if_pos hshort, hread, hnone]
    rfl
  · rw [if_neg hshort, read?_character_of_not hshort]
    rfl

end Pattern

namespace InlinePatterns

open Pattern

/-! ## Going through the definitions -/

variable {found : PatternRegistry × List (String × PatternError)} {d : SettingsTree}

theorem readDefinition_of_isDefinition (h : IsDefinition d)
    (found : PatternRegistry × List (String × PatternError)) :
    ∃ p, DefinedBy d.key d p ∧ readDefinition found d = (found.1.add p, found.2) := by
  obtain ⟨p, hp, hdefined⟩ := ofDefinition_of_isDefinition h d.key
  refine ⟨p, hdefined, ?_⟩
  rw [readDefinition, hp]

theorem readDefinition_of_not_isDefinition (h : ¬ IsDefinition d)
    (found : PatternRegistry × List (String × PatternError)) :
    readDefinition found d = (found.1, found.2 ++ [(d.key, refusal d.key d)]) := by
  rw [readDefinition, ofDefinition_of_not_isDefinition h]

/-- **The last valid definition of a name is registered**, and nothing when there is none. -/
theorem rel_registry (ds : List SettingsTree) (key : String) :
    Option.Rel (DefinedBy key) (ds.filter fun d => d.key = key ∧ IsDefinition d).getLast?
      ((ds.foldl readDefinition (.empty, [])).1.get? key) := by
  induction ds using List.reverseRecOn with
  | nil => exact .none
  | append_singleton ds d ih =>
    rw [List.foldl_append, List.foldl_cons, List.foldl_nil, List.filter_append]
    generalize ds.foldl readDefinition (.empty, []) = found at ih
    by_cases hd : IsDefinition d
    · obtain ⟨p, hp, hread⟩ := readDefinition_of_isDefinition hd found
      rw [hread]
      show Option.Rel _ _ ((found.1.byKey.insert p.key p).get? key)
      rw [KeyedMap.get?_insert, hp.key_eq]
      by_cases hkey : d.key = key
      · rw [if_pos hkey, List.filter_singleton, decide_eq_true ⟨hkey, hd⟩]
        subst hkey
        rw [cond_true, List.getLast?_concat]
        exact .some hp
      · rw [if_neg hkey, List.filter_singleton, decide_eq_false fun h => hkey h.1]
        rw [cond_false, List.append_nil]
        exact ih
    · rw [readDefinition_of_not_isDefinition hd, List.filter_singleton,
        decide_eq_false fun h => hd h.2, cond_false, List.append_nil]
      exact ih

/-- **Every definition that is not valid is reported once**, in order. -/
theorem refused_eq (ds : List SettingsTree) :
    (ds.foldl readDefinition (.empty, [])).2 =
      (ds.filter fun d => ¬ IsDefinition d).map fun d => (d.key, refusal d.key d) := by
  induction ds using List.reverseRecOn with
  | nil => rfl
  | append_singleton ds d ih =>
    rw [List.foldl_append, List.foldl_cons, List.foldl_nil, List.filter_append, List.map_append,
      ← ih]
    generalize ds.foldl readDefinition (.empty, []) = found
    by_cases hd : IsDefinition d
    · obtain ⟨p, -, hread⟩ := readDefinition_of_isDefinition hd found
      rw [hread, List.filter_singleton, decide_eq_false (not_not_intro hd)]
      exact (List.append_nil _).symm
    · rw [readDefinition_of_not_isDefinition hd, List.filter_singleton, decide_eq_true hd]
      rfl

/-! ## The settings that hold the definitions -/

/-- The definitions are gone through, and the sections of their name are removed. -/
theorem extract_eq (t : SettingsTree) :
    extract t =
      { registry := ((t.childrenAt [Names.patterns]).foldl readDefinition (.empty, [])).1
        refused := ((t.childrenAt [Names.patterns]).foldl readDefinition (.empty, [])).2
        rest := node t.key (t.children.filter fun c => c.key ≠ Names.patterns) } := by
  rw [extract, childrenAt, childAt?_cons]
  cases t.child? Names.patterns <;> rfl

/-- Where there is no section of the name, nothing is found. -/
theorem extract_of_notMem {t : SettingsTree} (h : ∀ c ∈ t.children, c.key ≠ Names.patterns) :
    extract t = ⟨.empty, [], t⟩ := by
  have hnone : t.child? Names.patterns = none := by
    rw [child?_eq_find?, List.find?_eq_none]
    exact fun c hc hkey => h c hc (of_decide_eq_true hkey)
  have hdefinitions : t.childrenAt [Names.patterns] = [] := by
    rw [childrenAt, childAt?_cons, hnone]
    rfl
  have hall : (t.children.filter fun c => c.key ≠ Names.patterns) = t.children :=
    List.filter_eq_self.2 fun c hc => decide_eq_true (h c hc)
  rw [extract_eq, hdefinitions, hall]
  cases t
  rfl

/-- Every refusal is a warning, and that the settings were loaded is none. -/
theorem warnings_takeSettings (l : Location) (t : SettingsTree) :
    Entry.warnings (Machine.takeSettings l t).journal =
      (extract t).refused.map fun r => (Message.patternIgnored r.1 r.2).text := by
  have hrefused (refused : List (String × PatternError)) :
      Entry.warnings (refused.map fun r => .log (.patternIgnored r.1 r.2)) =
        refused.map fun r => (Message.patternIgnored r.1 r.2).text := by
    rw [Entry.warnings, List.filterMap_map, ← List.filterMap_eq_map]
    rfl
  have hloaded (settings patterns : Nat) :
      Entry.warnings [.log (.settingsLoaded settings patterns l.text)] = [] := rfl
  rw [Machine.takeSettings]
  dsimp only
  rw [Entry.warnings, List.filterMap_append]
  exact (congrArg₂ (· ++ ·) (hrefused _) (hloaded _ _)).trans (List.append_nil _)

/-- In a tree that came about through the operations on trees only the first of several sections of
one name has children. -/
theorem children_eq_nil_of_built {t c : SettingsTree} {before after : List SettingsTree}
    (h : t.Built) (hsplit : t.children = before ++ c :: after)
    (hearlier : c.key ∈ before.map SettingsTree.key) : c.children = [] := by
  have hfirst := (unshadowed_iff.1 (h.of_kept kept_unshadowed)).firstOnly
  rw [hsplit] at hfirst
  obtain ⟨first, hmem, hkey⟩ := List.mem_map.1 hearlier
  exact (List.pairwise_append.1 hfirst).2.2 first hmem c List.mem_cons_self hkey

/-- **The inline patterns are parted exactly.**  Of every name the last valid definition is
registered, every definition that is not valid is reported once and in order, and nothing else is
registered.  The settings lose all sections of the definitions and nothing else, so that nothing is
found the second time.  What is lost unread was without definitions, in a tree that came about
through the operations on trees. -/
theorem extract_partitions (t : SettingsTree) :
    let definitions := t.childrenAt [Names.patterns]
    let found := extract t
    (∀ key, Option.Rel (DefinedBy key)
      (definitions.filter fun d => d.key = key ∧ IsDefinition d).getLast?
      (found.registry.get? key)) ∧
    found.refused =
      (definitions.filter fun d => ¬ IsDefinition d).map (fun d => (d.key, refusal d.key d)) ∧
    (∀ l, Entry.warnings (Machine.takeSettings l t).journal =
      found.refused.map fun r => (Message.patternIgnored r.1 r.2).text) ∧
    found.rest = node t.key (t.children.filter fun c => c.key ≠ Names.patterns) ∧
    extract found.rest = ⟨.empty, [], found.rest⟩ ∧
    (t.Built → ∀ before c after, t.children = before ++ c :: after → c.key = Names.patterns →
      Names.patterns ∈ before.map SettingsTree.key → c.children = []) := by
  intro definitions found
  have hfound : found = _ := extract_eq t
  refine ⟨fun key => ?_, ?_, fun l => warnings_takeSettings l t, ?_, ?_, ?_⟩
  · rw [hfound]
    exact rel_registry definitions key
  · rw [hfound]
    exact refused_eq definitions
  · rw [hfound]
  · refine extract_of_notMem fun c hc => ?_
    rw [hfound] at hc
    exact of_decide_eq_true (List.mem_filter.1 hc).2
  · intro hbuilt before c after hsplit hkey hearlier
    rw [← hkey] at hearlier
    exact children_eq_nil_of_built hbuilt hsplit hearlier

/-- A definition that is not valid stands between two of one name, of which the second says nothing,
and a value behind the section has its name. -/
theorem extract_partitions_twins :
    let mode := node "MODE" [node Names.defaultValues [leaf "debug", leaf "release"],
      node Names.shortOption [leaf "m"]]
    let broken := node "BROKEN" [node Names.defaultValues [leaf "x"],
      node Names.shortOption [leaf "bb"]]
    let t := node "exec-helper" [node Names.patterns [mode, broken, leaf "MODE"],
      node "build" [leaf "make"], leaf Names.patterns]
    t.Built ∧
      (∃ p, (extract t).registry.get? "MODE" = some p ∧ p.values = ["debug", "release"]) ∧
      (extract t).registry.get? "BROKEN" = none ∧
      (extract t).refused.map Prod.fst = ["BROKEN", "MODE"] ∧
      (extract t).rest = node "exec-helper" [node "build" [leaf "make"]] ∧
      (leaf Names.patterns).children = [] := by
  intro mode broken t
  have hmode : (leaf "exec-helper").addValues [Names.patterns, "MODE", Names.defaultValues]
      ["debug", "release"] = .ok (node "exec-helper" [node Names.patterns [node "MODE"
        [node Names.defaultValues [leaf "debug", leaf "release"]]]]) := rfl
  have hshort : (node "exec-helper" [node Names.patterns [node "MODE"
      [node Names.defaultValues [leaf "debug", leaf "release"]]]]).addValues
        [Names.patterns, "MODE", Names.shortOption] ["m"] =
      .ok (node "exec-helper" [node Names.patterns [mode]]) := rfl
  have hvalue : (node "exec-helper" [node Names.patterns [mode]]).addValues
      [Names.patterns, "BROKEN", Names.defaultValues] ["x"] =
      .ok (node "exec-helper" [node Names.patterns [mode,
        node "BROKEN" [node Names.defaultValues [leaf "x"]]]]) := rfl
  have hbroken : (node "exec-helper" [node Names.patterns [mode,
      node "BROKEN" [node Names.defaultValues [leaf "x"]]]]).addValues
        [Names.patterns, "BROKEN", Names.shortOption] ["bb"] =
      .ok (node "exec-helper" [node Names.patterns [mode, broken]]) := rfl
  have htwin : (node "exec-helper" [node Names.patterns [mode, broken]]).addValues [Names.patterns]
      ["MODE"] = .ok (node "exec-helper" [node Names.patterns [mode, broken, leaf "MODE"]]) := rfl
  have hbuild : (node "exec-helper" [node Names.patterns [mode, broken, leaf "MODE"]]).addValues
      ["build"] ["make"] = .ok (node "exec-helper"
        [node Names.patterns [mode, broken, leaf "MODE"], node "build" [leaf "make"]]) := rfl
  have hbehind : (node "exec-helper" [node Names.patterns [mode, broken, leaf "MODE"],
      node "build" [leaf "make"]]).addValues [] [Names.patterns] = .ok t := rfl
  have hbuilt : t.Built :=
    (((((((Built.new _).addValues hmode).addValues hshort).addValues hvalue).addValues
      hbroken).addValues htwin).addValues hbuild).addValues hbehind
  obtain ⟨hregistry, hrefused, -, hrest, -, hunread⟩ := extract_partitions t
  have hlast : ((t.childrenAt [Names.patterns]).filter fun d =>
      d.key = "MODE" ∧ IsDefinition d).getLast? = some mode := rfl
  have hnone : ((t.childrenAt [Names.patterns]).filter fun d =>
      d.key = "BROKEN" ∧ IsDefinition d).getLast? = none := rfl
  refine ⟨hbuilt, ?_, ?_, ?_, hrest, ?_⟩
  · have hrel := hregistry "MODE"
    rw [hlast] at hrel
    cases hget : (extract t).registry.get? "MODE" with
    | none =>
      rw [hget] at hrel
      cases hrel
    | some p =>
      rw [hget] at hrel
      cases hrel with
      | some hp => exact ⟨p, rfl, hp.values_eq⟩
  · have hrel := hregistry "BROKEN"
    rw [hnone] at hrel
    generalize (extract t).registry.get? "BROKEN" = found at hrel
    cases hrel
    rfl
  · rw [hrefused]
    decide
  · exact hunread hbuilt [_, _] (leaf Names.patterns) [] rfl rfl (by decide)

end InlinePatterns
end Orchestrator
