/-!
# Maps from texts, in key order

A map is the list of its entries, strictly increasing in the key, so that two maps with the same
entries are equal and every listing comes in one order.  Keys compare code point by code point.

* `insert` sets one entry; `extend` inserts a list of entries, and of several with one key the last
  remains; `overlay` lays one map over another.
* `get?`, `contains`, `keys`, `values` read a map; `mapValues` and `filter` keep its order.
* `get?_insert`, `get?_overlay` say what an insertion and an overlay change, and `ext_get?` that a
  map is known by its look-ups.
* `overlay_insert`, `overlay_comm`, `mapValues_overlay`: the laws of the overlay.
* `get?_ofList_eq_some_iff`, `entries_ofList_of_sorted`, `ofList_eq_of_perm`: the map of a list, by
  its look-ups and by its entries, and when the order of the list does not matter.
-/

namespace Orchestrator

/-- A map from texts to values. -/
structure KeyedMap (α : Type) where
  /-- The entries, in key order. -/
  entries : List (String × α)
  /-- The keys increase. -/
  sorted : entries.Pairwise fun a b => a.1 < b.1
  deriving DecidableEq, Repr

namespace KeyedMap

variable {α β : Type}

/-- The map without entries. -/
def empty : KeyedMap α := ⟨[], .nil⟩

instance : Inhabited (KeyedMap α) := ⟨empty⟩

/-! ## Insertion -/

/-- Puts an entry at its place, in the place of an entry with the same key. -/
def insertEntry (k : String) (v : α) : List (String × α) → List (String × α)
  | [] => [(k, v)]
  | e :: es =>
    if k = e.1 then (k, v) :: es
    else if k < e.1 then (k, v) :: e :: es
    else e :: insertEntry k v es

theorem mem_insertEntry {k : String} {v : α} {a : String × α} {es : List (String × α)}
    (h : a ∈ insertEntry k v es) : a = (k, v) ∨ a ∈ es := by
  induction es with
  | nil => exact Or.inl (List.mem_singleton.1 h)
  | cons e es ih =>
    rw [insertEntry] at h
    split at h
    · rcases List.mem_cons.1 h with h | h
      · exact Or.inl h
      · exact Or.inr (List.mem_cons_of_mem _ h)
    · split at h
      · exact List.mem_cons.1 h
      · rcases List.mem_cons.1 h with h | h
        · exact Or.inr (List.mem_cons.2 (Or.inl h))
        · exact (ih h).imp id (List.mem_cons_of_mem _)

/-- An insertion keeps the order of the keys. -/
theorem sorted_insertEntry (k : String) (v : α) {es : List (String × α)}
    (h : es.Pairwise fun a b => a.1 < b.1) :
    (insertEntry k v es).Pairwise fun a b => a.1 < b.1 := by
  induction es with
  | nil => exact List.pairwise_singleton _ _
  | cons e es ih =>
    obtain ⟨hhead, htail⟩ := List.pairwise_cons.1 h
    rw [insertEntry]
    split
    · rename_i hk
      subst hk
      exact List.pairwise_cons.2 ⟨hhead, htail⟩
    · rename_i hne
      split
      · rename_i hlt
        refine List.pairwise_cons.2 ⟨fun a ha => ?_, h⟩
        rcases List.mem_cons.1 ha with rfl | ha
        · exact hlt
        · exact String.lt_trans hlt (hhead a ha)
      · rename_i hge
        refine List.pairwise_cons.2 ⟨fun a ha => ?_, ih htail⟩
        rcases mem_insertEntry ha with rfl | ha
        · refine Decidable.byContradiction fun hle => hne ?_
          exact String.le_antisymm (String.not_lt.1 hle) (String.not_lt.1 hge)
        · exact hhead a ha

/-- The map with the value of one key set. -/
def insert (m : KeyedMap α) (k : String) (v : α) : KeyedMap α :=
  ⟨insertEntry k v m.entries, sorted_insertEntry k v m.sorted⟩

/-- Inserts the entries of a list, one after the other. -/
def extend (m : KeyedMap α) (es : List (String × α)) : KeyedMap α :=
  es.foldl (fun m e => m.insert e.1 e.2) m

/-- The map of a list of entries; of several with one key the last remains. -/
def ofList (es : List (String × α)) : KeyedMap α :=
  empty.extend es

/-- The map with the entries of another one laid over its own. -/
def overlay (m n : KeyedMap α) : KeyedMap α :=
  m.extend n.entries

/-! ## Reading -/

/-- The value of a key. -/
def get? (m : KeyedMap α) (k : String) : Option α :=
  (m.entries.find? fun e => e.1 = k).map Prod.snd

/-- Whether a key has a value. -/
def contains (m : KeyedMap α) (k : String) : Bool :=
  m.entries.any fun e => e.1 = k

/-- The keys, in order. -/
def keys (m : KeyedMap α) : List String :=
  m.entries.map Prod.fst

/-- The values, in the order of their keys. -/
def values (m : KeyedMap α) : List α :=
  m.entries.map Prod.snd

/-- Whether there is no entry. -/
def isEmpty (m : KeyedMap α) : Bool :=
  m.entries.isEmpty

/-- The map with a function applied to each value. -/
def mapValues (f : α → β) (m : KeyedMap α) : KeyedMap β :=
  ⟨m.entries.map fun e => (e.1, f e.2), List.pairwise_map.2 m.sorted⟩

/-- The map of the entries whose keys pass a test. -/
def filter (p : String → Bool) (m : KeyedMap α) : KeyedMap α :=
  ⟨m.entries.filter fun e => p e.1, m.sorted.filter _⟩

@[simp] theorem entries_empty : (empty : KeyedMap α).entries = [] := rfl

@[simp] theorem entries_insert (m : KeyedMap α) (k : String) (v : α) :
    (m.insert k v).entries = insertEntry k v m.entries := rfl

@[simp] theorem entries_mapValues (f : α → β) (m : KeyedMap α) :
    (m.mapValues f).entries = m.entries.map fun e => (e.1, f e.2) := rfl

@[simp] theorem extend_nil (m : KeyedMap α) : m.extend [] = m := rfl

@[simp] theorem extend_cons (m : KeyedMap α) (e : String × α) (es : List (String × α)) :
    m.extend (e :: es) = (m.insert e.1 e.2).extend es := rfl

@[simp] theorem get?_empty (k : String) : (empty : KeyedMap α).get? k = none := rfl

/-- An insertion changes the value of its own key only. -/
theorem get?_insert (m : KeyedMap α) (k q : String) (v : α) :
    (m.insert k v).get? q = if k = q then some v else m.get? q := by
  obtain ⟨es, hes⟩ := m
  simp only [get?, insert]
  clear hes
  induction es with
  | nil => by_cases h : k = q <;> simp [insertEntry, h]
  | cons e es ih =>
    rw [insertEntry]
    split
    · rename_i hk
      subst hk
      by_cases h : e.1 = q <;> simp [h]
    · split
      · by_cases h : k = q <;> simp [h]
      · by_cases he : e.1 = q
        · have h : ¬ k = q := fun h' => by simp_all
          simp [he, h]
        · simp [he, ih]

/-! ## Maps are known by their look-ups -/

/-- No key below the first one of a sorted list occurs in it. -/
theorem find?_eq_none_of_lt {k : String} {es : List (String × α)} (h : ∀ e ∈ es, k < e.1) :
    (es.find? fun e => e.1 = k) = none := by
  refine List.find?_eq_none.2 fun e he hk => ?_
  have hlt := h e he
  rw [of_decide_eq_true hk] at hlt
  exact String.lt_irrefl k hlt

theorem entries_eq_of_find? {es fs : List (String × α)}
    (hes : es.Pairwise fun a b => a.1 < b.1) (hfs : fs.Pairwise fun a b => a.1 < b.1)
    (h : ∀ k : String, (es.find? fun e => e.1 = k).map Prod.snd =
      (fs.find? fun e => e.1 = k).map Prod.snd) : es = fs := by
  induction es generalizing fs with
  | nil =>
    cases fs with
    | nil => rfl
    | cons f fs => simpa using h f.1
  | cons e es ih =>
    cases fs with
    | nil => simpa using h e.1
    | cons f fs =>
      obtain ⟨hehead, hetail⟩ := List.pairwise_cons.1 hes
      obtain ⟨hfhead, hftail⟩ := List.pairwise_cons.1 hfs
      have hnlt : ¬ e.1 < f.1 := fun hlt => by
        have hnone : ((f :: fs).find? fun a => a.1 = e.1) = none :=
          find?_eq_none_of_lt fun a ha => by
            rcases List.mem_cons.1 ha with rfl | ha
            · exact hlt
            · exact String.lt_trans hlt (hfhead a ha)
        simpa [hnone] using h e.1
      have hngt : ¬ f.1 < e.1 := fun hlt => by
        have hnone : ((e :: es).find? fun a => a.1 = f.1) = none :=
          find?_eq_none_of_lt fun a ha => by
            rcases List.mem_cons.1 ha with rfl | ha
            · exact hlt
            · exact String.lt_trans hlt (hehead a ha)
        simpa [hnone] using h f.1
      have hkey : e.1 = f.1 := String.le_antisymm (String.not_lt.1 hngt) (String.not_lt.1 hnlt)
      have hvalue : e.2 = f.2 := by simpa [hkey] using h e.1
      rw [Prod.ext hkey hvalue, ih hetail hftail fun k => ?_]
      by_cases hk : e.1 = k
      · rw [find?_eq_none_of_lt fun a ha => hk ▸ hehead a ha,
          find?_eq_none_of_lt fun a ha => hk ▸ hkey ▸ hfhead a ha]
      · simpa [hk, ← hkey] using h k

theorem eq_of_entries {m n : KeyedMap α} (h : m.entries = n.entries) : m = n := by
  obtain ⟨es, hes⟩ := m
  obtain ⟨fs, hfs⟩ := n
  cases h
  rfl

theorem isEmpty_iff {m : KeyedMap α} : m.isEmpty = true ↔ m = empty := by
  constructor
  · exact fun h => eq_of_entries (List.isEmpty_iff.1 h)
  · rintro rfl
    rfl

/-- Two maps with the same look-ups are equal. -/
theorem ext_get? {m n : KeyedMap α} (h : ∀ k, m.get? k = n.get? k) : m = n :=
  eq_of_entries (entries_eq_of_find? m.sorted n.sorted h)

/-- An entry of a map is what its key is bound to. -/
theorem mem_entries_iff {m : KeyedMap α} {k : String} {v : α} :
    (k, v) ∈ m.entries ↔ m.get? k = some v := by
  obtain ⟨es, hes⟩ := m
  show (k, v) ∈ es ↔ (es.find? fun e => e.1 = k).map Prod.snd = some v
  induction es with
  | nil => simp
  | cons e es ih =>
    obtain ⟨hhead, htail⟩ := List.pairwise_cons.1 hes
    rw [List.mem_cons, ih htail]
    by_cases hk : e.1 = k
    · rw [find?_eq_none_of_lt fun a ha => hk ▸ hhead a ha]
      simp [← hk, Prod.ext_iff, eq_comm]
    · have hne : (k, v) ≠ e := fun h => hk (h ▸ rfl)
      simp [hk, hne]

/-! ## Overlays -/

theorem get?_extend_of_sorted {es : List (String × α)} (h : es.Pairwise fun a b => a.1 < b.1)
    (m : KeyedMap α) (k : String) :
    (m.extend es).get? k = ((es.find? fun e => e.1 = k).map Prod.snd).or (m.get? k) := by
  induction es generalizing m with
  | nil => rfl
  | cons e es ih =>
    obtain ⟨hhead, htail⟩ := List.pairwise_cons.1 h
    rw [extend_cons, ih htail, get?_insert]
    by_cases hk : e.1 = k
    · rw [find?_eq_none_of_lt fun a ha => hk ▸ hhead a ha]
      simp [hk]
    · simp [hk]

/-- The upper map of an overlay wins. -/
theorem get?_overlay (m n : KeyedMap α) (k : String) :
    (m.overlay n).get? k = (n.get? k).or (m.get? k) :=
  get?_extend_of_sorted n.sorted m k

@[simp] theorem overlay_empty (m : KeyedMap α) : m.overlay empty = m := rfl

theorem empty_overlay (m : KeyedMap α) : empty.overlay m = m := by
  refine ext_get? fun k => ?_
  rw [get?_overlay, get?_empty, Option.or_none]

/-- What is laid over another map is not lost. -/
theorem overlay_ne_empty {m n : KeyedMap α} (h : n ≠ empty) : m.overlay n ≠ empty := by
  intro hempty
  refine h (ext_get? fun k => ?_)
  have hnone := get?_overlay m n k
  rw [hempty, get?_empty] at hnone
  exact (Option.or_eq_none_iff.1 hnone.symm).1

/-- An insertion into the upper map is one into the overlay. -/
theorem overlay_insert (m n : KeyedMap α) (k : String) (v : α) :
    m.overlay (n.insert k v) = (m.overlay n).insert k v := by
  refine ext_get? fun q => ?_
  rw [get?_overlay, get?_insert, get?_insert, get?_overlay]
  by_cases h : k = q <;> simp [h]

/-- A map laid over itself is the map. -/
theorem overlay_self (m : KeyedMap α) : m.overlay m = m := by
  refine ext_get? fun k => ?_
  rw [get?_overlay, Option.or_self]

theorem get?_eq_none_iff {m : KeyedMap α} {k : String} : m.get? k = none ↔ k ∉ m.keys := by
  rw [get?, Option.map_eq_none_iff, List.find?_eq_none, keys, List.mem_map, not_exists]
  refine forall_congr' fun e => ?_
  rw [not_and, decide_eq_true_eq]

/-- Of two maps with different keys either may be laid over the other. -/
theorem overlay_comm {m n : KeyedMap α} (h : ∀ k ∈ m.keys, k ∉ n.keys) :
    n.overlay m = m.overlay n := by
  refine ext_get? fun k => ?_
  rw [get?_overlay, get?_overlay]
  by_cases hk : k ∈ m.keys
  · rw [get?_eq_none_iff.2 (h k hk), Option.or_none, Option.none_or]
  · rw [get?_eq_none_iff.2 hk, Option.or_none, Option.none_or]

theorem overlay_extend (m n : KeyedMap α) (es : List (String × α)) :
    m.overlay (n.extend es) = (m.overlay n).extend es := by
  induction es generalizing n with
  | nil => rfl
  | cons e es ih => rw [extend_cons, extend_cons, ih, overlay_insert]

theorem get?_mapValues (f : α → β) (m : KeyedMap α) (k : String) :
    (m.mapValues f).get? k = (m.get? k).map f := by
  rw [get?, get?, entries_mapValues, List.find?_map, Option.map_map, Option.map_map]
  rfl

/-- A function of the values passes through an overlay. -/
theorem mapValues_overlay (f : α → β) (m n : KeyedMap α) :
    (m.overlay n).mapValues f = (m.mapValues f).overlay (n.mapValues f) := by
  refine ext_get? fun q => ?_
  rw [get?_mapValues, get?_overlay, get?_overlay, get?_mapValues, get?_mapValues]
  cases n.get? q <;> rfl

/-- A function that fixes every value changes nothing. -/
theorem mapValues_eq_self {f : α → α} {m : KeyedMap α} (h : ∀ e ∈ m.entries, f e.2 = e.2) :
    m.mapValues f = m := by
  have hentries : (m.entries.map fun e => (e.1, f e.2)) = m.entries.map id :=
    List.map_congr_left fun e he => Prod.ext rfl (h e he)
  refine eq_of_entries ?_
  rw [entries_mapValues, hentries, List.map_id]

/-! ## Lists of entries -/

theorem extend_append (m : KeyedMap α) (es fs : List (String × α)) :
    m.extend (es ++ fs) = (m.extend es).extend fs :=
  List.foldl_append

/-- A key that does not occur among the entries keeps its value. -/
theorem get?_extend_of_notMem {es : List (String × α)} {k : String}
    (h : k ∉ es.map Prod.fst) (m : KeyedMap α) : (m.extend es).get? k = m.get? k := by
  induction es generalizing m with
  | nil => rfl
  | cons e es ih =>
    rw [List.map_cons, List.mem_cons, not_or] at h
    obtain ⟨hne, hes⟩ := h
    rw [extend_cons, ih hes, get?_insert, if_neg (Ne.symm hne)]

theorem mem_entries_extend {e : String × α} {es : List (String × α)} {m : KeyedMap α}
    (h : e ∈ (m.extend es).entries) : e ∈ m.entries ∨ e ∈ es := by
  induction es generalizing m with
  | nil => exact Or.inl h
  | cons d es ih =>
    rw [extend_cons] at h
    rcases ih h with h | h
    · rcases mem_insertEntry h with rfl | h
      · exact Or.inr List.mem_cons_self
      · exact Or.inl h
    · exact Or.inr (List.mem_cons_of_mem d h)

/-- Whether an entry is the last one of its key in a list. -/
def IsLast (es : List (String × α)) (k : String) (v : α) : Prop :=
  ∃ before after, es = before ++ (k, v) :: after ∧ k ∉ after.map Prod.fst

theorem IsLast.mem {es : List (String × α)} {k : String} {v : α} (h : IsLast es k v) :
    (k, v) ∈ es := by
  obtain ⟨before, after, rfl, -⟩ := h
  exact List.mem_append_right before List.mem_cons_self

theorem exists_isLast {es : List (String × α)} {k : String} (h : k ∈ es.map Prod.fst) :
    ∃ v, IsLast es k v := by
  induction es with
  | nil => cases h
  | cons e es ih =>
    by_cases hes : k ∈ es.map Prod.fst
    · obtain ⟨v, before, after, rfl, hafter⟩ := ih hes
      exact ⟨v, e :: before, after, rfl, hafter⟩
    · rw [List.map_cons, List.mem_cons] at h
      obtain rfl := h.resolve_right hes
      exact ⟨e.2, [], es, rfl, hes⟩

theorem get?_ofList_of_isLast {es : List (String × α)} {k : String} {v : α}
    (h : IsLast es k v) : (ofList es).get? k = some v := by
  obtain ⟨before, after, rfl, hafter⟩ := h
  rw [ofList, extend_append, extend_cons, get?_extend_of_notMem hafter, get?_insert, if_pos rfl]

/-- Of several entries with one key the last one remains. -/
theorem get?_ofList_eq_some_iff {es : List (String × α)} {k : String} {v : α} :
    (ofList es).get? k = some v ↔ IsLast es k v := by
  refine ⟨fun h => ?_, get?_ofList_of_isLast⟩
  by_cases hk : k ∈ es.map Prod.fst
  · obtain ⟨w, hw⟩ := exists_isLast hk
    rw [get?_ofList_of_isLast hw, Option.some.injEq] at h
    exact h ▸ hw
  · rw [ofList, get?_extend_of_notMem hk, get?_empty] at h
    cases h

/-- Without repeated keys every entry is the last one of its key. -/
theorem isLast_iff_mem {es : List (String × α)} (h : (es.map Prod.fst).Nodup) {k : String} {v : α} :
    IsLast es k v ↔ (k, v) ∈ es := by
  constructor
  · exact IsLast.mem
  · intro hmem
    obtain ⟨before, after, rfl⟩ := List.append_of_mem hmem
    rw [List.map_append, List.map_cons] at h
    exact ⟨before, after, rfl, (List.nodup_cons.1 (List.nodup_append.1 h).2.1).1⟩

/-- Entries without repeated keys may come in any order. -/
theorem ofList_eq_of_perm {es fs : List (String × α)} (h : es.Perm fs)
    (hkeys : (fs.map Prod.fst).Nodup) : ofList es = ofList fs := by
  have hkeys' : (es.map Prod.fst).Nodup := (h.map Prod.fst).nodup_iff.2 hkeys
  refine ext_get? fun k => Option.ext fun v => ?_
  rw [get?_ofList_eq_some_iff, get?_ofList_eq_some_iff, isLast_iff_mem hkeys',
    isLast_iff_mem hkeys, h.mem_iff]

/-- A sorted list of entries is the list of a map. -/
theorem entries_ofList_of_sorted {es : List (String × α)}
    (h : es.Pairwise fun a b => a.1 < b.1) : (ofList es).entries = es := by
  refine entries_eq_of_find? (ofList es).sorted h fun k => ?_
  show (empty.extend es).get? k = _
  rw [get?_extend_of_sorted h, get?_empty, Option.or_none]

end KeyedMap
end Orchestrator
