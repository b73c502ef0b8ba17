import Mathlib.Algebra.Group.Nat.Defs
import Mathlib.Data.List.Forall2
import Mathlib.Data.List.Nodup
import Orchestrator.Pattern.Combination

/-!
# The choices of nested loops

What the combinations of some axes are, as a list: a combination chooses one value of each axis, and
the list has as many of them as the sizes of the axes multiplied.

* `Combination.mem_product_iff`: **a choice takes one value of each axis**, in the order of the
  axes.
* `Combination.length_product`, `Combination.product_eq_nil_iff`, `Combination.nodup_product`: how
  many choices there are, when there are none, and that they differ when no axis repeats a value.
* `Combination.map_entries_ofAxes`: the combinations of a map of axes are these choices, as maps.
* `Combination.LoopsOver`: the axes that are left when axes are given in any order and keys may be
  repeated.
* `Combination.exists_get?_of_mem_ofPatterns`: **every selected pattern is bound** in every
  combination, so that one without bindings comes of no patterns only.
-/

namespace Orchestrator
namespace Combination

variable {axes : List (String × List String)}

/-! ## Choices -/

/-- **A choice takes one value of each axis**, in the order of the axes. -/
theorem mem_product_iff {c : List (String × String)} :
    c ∈ product axes ↔
      List.Forall₂ (fun choice axis => choice.1 = axis.1 ∧ choice.2 ∈ axis.2) c axes := by
  induction axes generalizing c with
  | nil => rw [product, List.mem_singleton, List.forall₂_nil_right_iff]
  | cons axis axes ih =>
    obtain ⟨key, values⟩ := axis
    rw [product, List.forall₂_cons_right_iff]
    simp only [List.mem_flatMap, List.mem_map, ih]
    constructor
    · rintro ⟨v, hv, rest, hrest, rfl⟩
      exact ⟨(key, v), rest, ⟨rfl, hv⟩, hrest, rfl⟩
    · rintro ⟨⟨k, v⟩, rest, ⟨rfl, hv⟩, hrest, rfl⟩
      exact ⟨v, hv, rest, hrest, rfl⟩

/-- The keys of a choice are those of the axes. -/
theorem map_fst_of_mem_product {c : List (String × String)} (h : c ∈ product axes) :
    c.map Prod.fst = axes.map Prod.fst := by
  have hchoice := mem_product_iff.1 h
  clear h
  induction hchoice with
  | nil => rfl
  | cons hhead _ ih => rw [List.map_cons, List.map_cons, hhead.1, ih]

/-- A choice has a value of every axis. -/
theorem exists_mem_of_mem_product {c : List (String × String)} (h : c ∈ product axes)
    {key : String} {values : List String} (haxis : (key, values) ∈ axes) :
    ∃ v ∈ values, (key, v) ∈ c := by
  have hchoice := mem_product_iff.1 h
  clear h
  induction hchoice with
  | nil => cases haxis
  | @cons choice axis _ _ hhead _ ih =>
    rcases List.mem_cons.1 haxis with rfl | haxis
    · exact ⟨choice.2, hhead.2, List.mem_cons.2 (Or.inl (Prod.ext hhead.1.symm rfl))⟩
    · obtain ⟨v, hv, hmem⟩ := ih haxis
      exact ⟨v, hv, List.mem_cons_of_mem _ hmem⟩

/-- There are as many choices as the sizes of the axes multiplied. -/
theorem length_product (axes : List (String × List String)) :
    (product axes).length = (axes.map fun axis => axis.2.length).prod := by
  induction axes with
  | nil => rfl
  | cons axis axes ih =>
    obtain ⟨key, values⟩ := axis
    rw [product, List.length_flatMap, List.map_cons, List.prod_cons, ← ih]
    simp only [List.length_map, List.map_const', List.sum_replicate_nat]

/-- There is no choice exactly when some axis has no value. -/
theorem product_eq_nil_iff : product axes = [] ↔ ∃ axis ∈ axes, axis.2 = [] := by
  induction axes with
  | nil => simp [product]
  | cons axis axes ih =>
    obtain ⟨key, values⟩ := axis
    simp only [product, List.flatMap_eq_nil_iff, List.map_eq_nil_iff, ih, List.exists_mem_cons_iff]
    constructor
    · intro h
      cases values with
      | nil => exact Or.inl rfl
      | cons v values => exact Or.inr (h v List.mem_cons_self)
    · rintro (rfl | h) v hv
      · cases hv
      · exact h

/-- Choices differ when no axis repeats a value. -/
theorem nodup_product (h : ∀ axis ∈ axes, axis.2.Nodup) : (product axes).Nodup := by
  induction axes with
  | nil => exact List.nodup_singleton []
  | cons axis axes ih =>
    obtain ⟨key, values⟩ := axis
    have hvalues : values.Nodup := h (key, values) List.mem_cons_self
    have hrest : (product axes).Nodup := ih fun axis haxis => h axis (List.mem_cons_of_mem _ haxis)
    rw [product, List.nodup_flatMap]
    refine ⟨fun v _ => hrest.map fun a b hab => (List.cons.inj hab).2, ?_⟩
    -- choices that start with different values differ
    refine hvalues.imp fun {v w} hne c hv hw => ?_
    obtain ⟨a, -, rfl⟩ := List.mem_map.1 hv
    obtain ⟨b, -, hb⟩ := List.mem_map.1 hw
    exact hne (Prod.ext_iff.1 (List.cons.inj hb).1).2.symm

/-! ## Combinations -/

/-- The combinations of a map of axes are the choices of the loops over its entries. -/
theorem map_entries_ofAxes (m : KeyedMap (List String)) :
    (ofAxes m).map KeyedMap.entries = product m.entries := by
  rw [ofAxes, List.map_map]
  refine (List.map_congr_left fun c hc => ?_).trans (List.map_id _)
  refine KeyedMap.entries_ofList_of_sorted ?_
  have hkeys : (c.map Prod.fst).Pairwise (· < ·) := by
    rw [map_fst_of_mem_product hc]
    exact List.pairwise_map.2 m.sorted
  exact List.pairwise_map.1 hkeys

theorem length_ofAxes (m : KeyedMap (List String)) :
    (ofAxes m).length = (m.entries.map fun axis => axis.2.length).prod := by
  rw [ofAxes, List.length_map, length_product]

/-! ## Axes in any order -/

/-- The axes over which loops go when axes are given in any order and with repeated keys: each key
once, with its last values, sorted by key. -/
structure LoopsOver (given axes : List (String × List String)) : Prop where
  sorted : axes.Pairwise fun a b => a.1 < b.1
  mem_iff : ∀ key values, (key, values) ∈ axes ↔ KeyedMap.IsLast given key values

theorem loopsOver_ofList (given : List (String × List String)) :
    LoopsOver given (KeyedMap.ofList given).entries where
  sorted := (KeyedMap.ofList given).sorted
  mem_iff _ _ := KeyedMap.mem_entries_iff.trans KeyedMap.get?_ofList_eq_some_iff

/-! ## Combinations of patterns -/

/-- **Every selected pattern is bound** in every combination, by a value of a selected pattern of
its name. -/
theorem exists_get?_of_mem_ofPatterns {c : Combination} {patterns : List Pattern}
    {p : Pattern} (hp : p ∈ patterns) (hc : c ∈ ofPatterns patterns) :
    ∃ q ∈ patterns, q.key = p.key ∧ ∃ v ∈ q.values, c.get? p.key = some v := by
  have hkey : p.key ∈ (patterns.map fun p => (p.key, p.values)).map Prod.fst := by
    rw [List.map_map]
    exact List.mem_map_of_mem hp
  obtain ⟨values, hvalues⟩ := KeyedMap.exists_isLast hkey
  obtain ⟨q, hq, heq⟩ := List.mem_map.1 hvalues.mem
  obtain ⟨hqkey, rfl⟩ := Prod.mk.inj heq
  have haxis : (p.key, q.values) ∈ (axes patterns).entries :=
    ((loopsOver_ofList _).mem_iff _ _).2 hvalues
  have hproduct : c.entries ∈ product (axes patterns).entries := by
    rw [← map_entries_ofAxes]
    exact List.mem_map_of_mem hc
  obtain ⟨v, hv, hbound⟩ := exists_mem_of_mem_product hproduct haxis
  exact ⟨q, hq, hqkey, v, hv, KeyedMap.mem_entries_iff.1 hbound⟩

/-- A combination of patterns binds something as soon as there is a pattern. -/
theorem isEmpty_of_mem_ofPatterns {c : Combination} {patterns : List Pattern}
    (hc : c ∈ ofPatterns patterns) : c.isEmpty = patterns.isEmpty := by
  cases patterns with
  | nil =>
    obtain rfl := List.mem_singleton.1 hc
    rfl
  | cons p patterns =>
    obtain ⟨-, -, -, v, -, hv⟩ := exists_get?_of_mem_ofPatterns List.mem_cons_self hc
    exact List.isEmpty_eq_false_iff.2 (List.ne_nil_of_mem (KeyedMap.mem_entries_iff.2 hv))

end Combination
end Orchestrator
