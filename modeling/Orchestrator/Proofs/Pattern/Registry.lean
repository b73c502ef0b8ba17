import Orchestrator.Pattern.Registry
import Orchestrator.Proofs.Pattern.Extraction

/-!
# What changes a registry of patterns

A registry is filled from the settings and by the program itself, and after that its patterns get
other values, one by one or from the command line.  Each of these changes may be refused, and then
leaves the registry as it was.

The registry is a map from names to patterns, and a pattern has a name itself.  That the two are the
same is not part of the type.  It holds since a pattern is only ever put at its own name, and a
pattern that gets other values keeps its name (`PatternRegistry.WellKeyed`).  Hence the patterns are
listed in the order of their own names, each name once.

What the overrides of a command line do can be said pattern by pattern.  An override acts on the
pattern of its name alone, and of several the last one that has values decides
(`Pattern.revise`).

* `PatternRegistry.Change`, `PatternRegistry.after`: the changes, and a registry after some of them.
* `PatternRegistry.WellKeyed.apply`, `PatternRegistry.wellKeyed_after`: **every pattern keeps under
  its own name**, by one step and by a run.
* `PatternRegistry.get?_override`: **what overrides leave**, name by name.
* `PatternRegistry.after_override`: both together.
-/

namespace Orchestrator

/-! ## Overrides of one pattern -/

/-- The values of a name after some overrides: those of the last override of the name that has any,
and otherwise the ones before. -/
def lastValues (os : List PatternOverride) (key : String) (values : List String) : List String :=
  ((os.filter fun o => o.key = key ∧ o.values ≠ []).getLast?.map PatternOverride.values).getD values

theorem lastValues_append (os more : List PatternOverride) (key : String) (values : List String) :
    lastValues (os ++ more) key values = lastValues more key (lastValues os key values) := by
  unfold lastValues
  rw [List.filter_append, List.getLast?_append]
  cases (more.filter fun o => o.key = key ∧ o.values ≠ []).getLast? <;> rfl

theorem lastValues_singleton (o : PatternOverride) (key : String) (values : List String) :
    lastValues [o] key values = if o.key = key ∧ o.values ≠ [] then o.values else values := by
  unfold lastValues
  by_cases h : o.key = key ∧ o.values ≠ []
  · simp [h]
  · simp [h]

theorem lastValues_ne_nil {values : List String} (h : values ≠ []) (os : List PatternOverride)
    (key : String) : lastValues os key values ≠ [] := by
  induction os using List.reverseRecOn with
  | nil => exact h
  | append_singleton os o ih =>
    rw [lastValues_append, lastValues_singleton]
    split
    · rename_i ho
      exact ho.2
    · exact ih

namespace Pattern

/-- The pattern after some overrides, which change nothing but its values. -/
def revise (os : List PatternOverride) (p : Pattern) : Pattern :=
  { p with
    values := lastValues os p.key p.values
    values_ne_nil := lastValues_ne_nil p.values_ne_nil os p.key }

@[simp] theorem key_revise (os : List PatternOverride) (p : Pattern) : (p.revise os).key = p.key :=
  rfl

theorem revise_append (os more : List PatternOverride) (p : Pattern) :
    p.revise (os ++ more) = (p.revise os).revise more := by
  simp only [revise, lastValues_append]

variable {o : PatternOverride} {p : Pattern}

theorem revise_of_acts (hkey : o.key = p.key) (hvalues : o.values ≠ []) :
    p.revise [o] = { p with values := o.values, values_ne_nil := hvalues } := by
  have hlast : lastValues [o] p.key p.values = o.values := by
    rw [lastValues_singleton, if_pos ⟨hkey, hvalues⟩]
  simp only [revise, hlast]

/-- An override of another name, or without values, does nothing. -/
theorem revise_of_passes (h : ¬ (o.key = p.key ∧ o.values ≠ [])) : p.revise [o] = p := by
  have hlast : lastValues [o] p.key p.values = p.values := by
    rw [lastValues_singleton, if_neg h]
  simp only [revise, hlast]

end Pattern

namespace PatternRegistry

/-! ## Changes -/

/-- What changes a registry. -/
inductive Change where
  /-- A pattern is registered. -/
  | add (p : Pattern)
  /-- One definition of the settings is read, and its pattern is registered. -/
  | define (definition : SettingsTree)
  /-- The registry starts over with the patterns that the settings define. -/
  | extract (settings : SettingsTree)
  /-- A registered pattern gets other values. -/
  | setValues (key : String) (values : List String)
  /-- Overrides are applied. -/
  | override (os : List PatternOverride)

/-- The registry after a change.  One that is refused leaves it as it was. -/
def apply (r : PatternRegistry) : Change → PatternRegistry
  | .add p => r.add p
  | .define d => (InlinePatterns.readDefinition (r, []) d).1
  | .extract settings => (InlinePatterns.extract settings).registry
  | .setValues key values =>
    match r.setValues key values with
    | some (.ok changed) => changed
    | _ => r
  | .override os => (override os r).1

/-- The registry after some changes, from the empty one on. -/
def after (changes : List Change) : PatternRegistry :=
  changes.foldl apply .empty

/-! ## Patterns under their own names -/

/-- Whether each pattern stands under its own name. -/
def WellKeyed (r : PatternRegistry) : Prop :=
  ∀ key p, r.get? key = some p → p.key = key

variable {r : PatternRegistry} {key : String} {p : Pattern}

theorem get?_insert (r : PatternRegistry) (key : String) (p : Pattern) (other : String) :
    get? ⟨r.byKey.insert key p⟩ other = if key = other then some p else r.get? other :=
  KeyedMap.get?_insert r.byKey key other p

theorem wellKeyed_empty : empty.WellKeyed := by
  intro key p h
  cases h

/-- A pattern that is put at its own name keeps the registry in order. -/
theorem WellKeyed.insert (h : r.WellKeyed) (hp : p.key = key) :
    WellKeyed ⟨r.byKey.insert key p⟩ := by
  intro other q hq
  rw [get?_insert] at hq
  by_cases hother : key = other
  · rw [if_pos hother] at hq
    cases hq
    exact hp.trans hother
  · rw [if_neg hother] at hq
    exact h other q hq

theorem WellKeyed.add (h : r.WellKeyed) (p : Pattern) : (r.add p).WellKeyed :=
  h.insert rfl

theorem WellKeyed.readDefinition (h : r.WellKeyed) (refused : List (String × PatternError))
    (d : SettingsTree) : (InlinePatterns.readDefinition (r, refused) d).1.WellKeyed := by
  unfold InlinePatterns.readDefinition
  split
  · exact h.add _
  · exact h

theorem wellKeyed_extract (settings : SettingsTree) :
    (InlinePatterns.extract settings).registry.WellKeyed := by
  rw [InlinePatterns.extract_eq]
  generalize settings.childrenAt [Names.patterns] = ds
  induction ds using List.reverseRecOn with
  | nil => exact wellKeyed_empty
  | append_singleton ds d ih =>
    rw [List.foldl_append]
    exact ih.readDefinition _ d

/-! ## Overrides of a registry -/

/-- **One override**, name by name: it acts on the pattern of its own name, if there is one and it
has values. -/
theorem get?_overrideOne (h : r.WellKeyed) (o : PatternOverride) (key : String) :
    (r.overrideOne o).1.get? key = (r.get? key).map (Pattern.revise [o]) := by
  have hsame (hpasses : ∀ p, r.get? key = some p → ¬ (o.key = p.key ∧ o.values ≠ [])) :
      r.get? key = (r.get? key).map (Pattern.revise [o]) := by
    cases hp : r.get? key with
    | none => rfl
    | some p => exact congrArg some (Pattern.revise_of_passes (hpasses p hp)).symm
  have hother (hkey : o.key ≠ key) : r.get? key = (r.get? key).map (Pattern.revise [o]) :=
    hsame fun p hp hacts => hkey (hacts.1.trans (h key p hp))
  unfold overrideOne setValues
  cases hregistered : r.get? o.key with
  | none =>
    by_cases hkey : o.key = key
    · rw [← hkey]
      show r.get? o.key = _
      rw [hregistered]
      rfl
    · exact hother hkey
  | some p =>
    by_cases hvalues : o.values = []
    · have hrefused : p.withValues o.values = .error (.noValues p.key) := dif_pos hvalues
      rw [Option.map_some, hrefused]
      exact hsame fun q hq hacts => hacts.2 hvalues
    · have hset : p.withValues o.values =
          .ok { p with values := o.values, values_ne_nil := hvalues } := dif_neg hvalues
      rw [Option.map_some, hset]
      show get? ⟨r.byKey.insert o.key _⟩ key = _
      rw [get?_insert]
      by_cases hkey : o.key = key
      · rw [if_pos hkey, ← hkey, hregistered, Option.map_some,
          Pattern.revise_of_acts (h o.key p hregistered).symm hvalues]
      · rw [if_neg hkey]
        exact hother hkey

/-- Patterns that are revised keep their names. -/
theorem WellKeyed.of_get?_revise {changed : PatternRegistry} {os : List PatternOverride}
    (h : r.WellKeyed) (hget : ∀ key, changed.get? key = (r.get? key).map (Pattern.revise os)) :
    changed.WellKeyed := by
  intro key q hq
  rw [hget] at hq
  obtain ⟨p, hp, rfl⟩ := Option.map_eq_some_iff.1 hq
  exact h key p hp

/-- **What overrides leave**, name by name. -/
theorem get?_override (h : r.WellKeyed) (os : List PatternOverride) (key : String) :
    (override os r).1.get? key = (r.get? key).map (Pattern.revise os) := by
  induction os generalizing r with
  | nil => exact Option.map_id'.symm
  | cons o os ih =>
    have hone := get?_overrideOne h o
    have hrevise : Pattern.revise (o :: os) = Pattern.revise os ∘ Pattern.revise [o] :=
      funext fun p => Pattern.revise_append [o] os p
    show (override os (r.overrideOne o).1).1.get? key = _
    rw [ih (h.of_get?_revise hone), hone, Option.map_map, hrevise]

/-- Overrides revise each pattern at its place. -/
theorem override_eq (h : r.WellKeyed) (os : List PatternOverride) :
    (override os r).1.byKey = r.byKey.mapValues (Pattern.revise os) := by
  refine KeyedMap.ext_get? fun key => ?_
  rw [KeyedMap.get?_mapValues]
  exact get?_override h os key

theorem toList_override (h : r.WellKeyed) (os : List PatternOverride) :
    (override os r).1.toList = r.toList.map (Pattern.revise os) := by
  show (override os r).1.byKey.values = r.byKey.values.map _
  rw [override_eq h, KeyedMap.values, KeyedMap.values, KeyedMap.entries_mapValues, List.map_map,
    List.map_map]
  rfl

/-! ## One change and many -/

/-- Values are given to a registered pattern as one override does. -/
theorem apply_setValues (r : PatternRegistry) (key : String) (values : List String) :
    r.apply (.setValues key values) = (r.overrideOne ⟨key, values⟩).1 := by
  unfold apply overrideOne
  dsimp only
  cases r.setValues key values with
  | none => rfl
  | some result => cases result <;> rfl

/-- **A change keeps every pattern under its own name.** -/
theorem WellKeyed.apply (h : r.WellKeyed) (change : Change) : (r.apply change).WellKeyed := by
  cases change with
  | add p => exact h.add p
  | define d => exact h.readDefinition [] d
  | extract settings => exact wellKeyed_extract settings
  | setValues key values =>
    rw [apply_setValues]
    exact h.of_get?_revise (get?_overrideOne h _)
  | override os => exact h.of_get?_revise (get?_override h os)

/-- **After any changes every pattern stands under its own name.** -/
theorem wellKeyed_after (changes : List Change) : (after changes).WellKeyed := by
  induction changes using List.reverseRecOn with
  | nil => exact wellKeyed_empty
  | append_singleton changes change ih =>
    have hstep : after (changes ++ [change]) = (after changes).apply change := by
      rw [after, List.foldl_append]
      rfl
    rw [hstep]
    exact ih.apply change

/-- The patterns are listed in the order of their own names. -/
theorem WellKeyed.pairwise_toList (h : r.WellKeyed) :
    r.toList.Pairwise fun p q => p.key < q.key := by
  refine List.pairwise_map.2 (r.byKey.sorted.imp_of_mem fun {a b} ha hb hlt => ?_)
  have hkey (e : String × Pattern) (he : e ∈ r.byKey.entries) : e.2.key = e.1 :=
    h e.1 e.2 (KeyedMap.mem_entries_iff.1 he)
  rw [hkey a ha, hkey b hb]
  exact hlt

/-- A pattern that would be left without values keeps those that it has. -/
theorem apply_setValues_nil (r : PatternRegistry) (key : String) :
    r.apply (.setValues key []) = r := by
  have hrefused : r.setValues key [] = (r.get? key).map fun p => .error (.noValues p.key) := rfl
  unfold apply
  dsimp only
  rw [hrefused]
  cases r.get? key <;> rfl

/-- **What holds of a registry after any changes.**  Its patterns are listed by increasing names,
and each stands under its own name.  Each has a value, and taking all values away is refused.
Overrides that come after that leave the same names in the same order.  Of each pattern they change
nothing but the values, which become those of the last override of its name that has any, if there
is one. -/
theorem after_override (changes : List Change) :
    let r := after changes
    r.toList.Pairwise (fun p q => p.key < q.key) ∧
      (∀ key p, r.get? key = some p → p.key = key) ∧
      (∀ p ∈ r.toList, p.values ≠ []) ∧
      (∀ key, r.apply (.setValues key []) = r) ∧
      ∀ os : List PatternOverride,
        (override os r).1.toList = r.toList.map (Pattern.revise os) ∧
          ∀ key, (override os r).1.get? key = (r.get? key).map (Pattern.revise os) := by
  have h : (after changes).WellKeyed := wellKeyed_after changes
  exact ⟨h.pairwise_toList, h, fun p _ => p.values_ne_nil, apply_setValues_nil _,
    fun os => ⟨toList_override h os, get?_override h os⟩⟩

/-- Of three overrides the first one counts: the second has no values, and the third no pattern. -/
example :
    let mode : Pattern := ⟨"MODE", ["debug"], some 'm', none, List.cons_ne_nil _ _⟩
    let os : List PatternOverride := [⟨"MODE", ["release"]⟩, ⟨"MODE", []⟩, ⟨"ARCH", ["arm"]⟩]
    (after [.add mode, .override os]).toList.map Pattern.values = [["release"]] := by
  decide

end PatternRegistry
end Orchestrator
