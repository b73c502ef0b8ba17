import Orchestrator.Proofs.Pattern.Product

/-!
# A walk goes through the choices of nested loops

A walk keeps one position on each axis and moves them like an odometer.  Where it stands it still
has some choices before it, and these are what the loops would go on to find: with the first axis
where it is, the choices that are left on the others; and then, with the later values of the first
axis, all choices on the others.  This is `Permutator.left`, and a step of the odometer takes the
first of them away, which is `left_eq_cons`.

From there on positions are no longer needed.  A walk after `n` steps has all combinations before it
but the first `n`, so that its next answer is the one with the number `n`, and none when there are
no more.  A walk that is started again or copied is a walk after some number of steps as well, so
that any number of walks may be used in any order.

* `left_zeros`, `left_eq_cons`: the choices from the first position on, and what a step leaves.
* `Permutator.StandsAt`: a walk after so many steps, kept by `next` and `restart`.
* `Operation`, `walksAfter`, `positionsAfter`: several walks that are used in any order, and how
  many steps each of them has made.
* `walks_nestedLoops`: **every walk gives the combinations of nested loops**, whatever is done with
  it and the others.
-/

namespace Orchestrator
namespace Permutator

/-! ## What is left from a position on -/

/-- Whether there is a position on each axis, inside its values. -/
def Within (axes : List (String × List String)) (positions : List Nat) : Prop :=
  List.Forall₂ (fun axis i => i < axis.2.length) axes positions

/-- The choices from a position on. -/
def left : List (String × List String) → List Nat → List (List (String × String))
  | [], _ => [[]]
  | _ :: _, [] => []
  | (key, values) :: axes, i :: positions =>
    (values[i]?.toList.flatMap fun v => (left axes positions).map fun c => (key, v) :: c) ++
      Combination.product ((key, values.drop (i + 1)) :: axes)

variable {axes : List (String × List String)} {positions : List Nat}

theorem left_cons_of_lt {key : String} {values : List String} {i : Nat} (h : i < values.length) :
    left ((key, values) :: axes) (i :: positions) =
      ((left axes positions).map fun c => (key, values[i]) :: c) ++
        Combination.product ((key, values.drop (i + 1)) :: axes) := by
  rw [left, List.getElem?_eq_getElem h, Option.toList_some, List.flatMap_singleton]

/-- The loops over a value and the values behind it. -/
theorem product_drop_of_lt {key : String} {values : List String} {i : Nat}
    (h : i < values.length) :
    Combination.product ((key, values.drop i) :: axes) =
      ((Combination.product axes).map fun c => (key, values[i]) :: c) ++
        Combination.product ((key, values.drop (i + 1)) :: axes) := by
  rw [List.drop_eq_getElem_cons h]
  rfl

theorem Within.ne_nil (h : Within axes positions) : ∀ axis ∈ axes, axis.2 ≠ [] := by
  induction h with
  | nil => exact fun axis haxis => (by cases haxis)
  | cons hlt _ ih =>
    intro axis haxis
    rcases List.mem_cons.1 haxis with rfl | haxis
    · exact List.ne_nil_of_length_pos (Nat.zero_lt_of_lt hlt)
    · exact ih axis haxis

theorem within_zeros (h : ∀ axis ∈ axes, axis.2 ≠ []) : Within axes (axes.map fun _ => 0) := by
  induction axes with
  | nil => exact .nil
  | cons axis axes ih =>
    have hpos : 0 < axis.2.length := List.length_pos_iff.2 (h axis List.mem_cons_self)
    exact .cons hpos (ih fun axis haxis => h axis (List.mem_cons_of_mem _ haxis))

/-- From the first position on, everything is left. -/
theorem left_zeros (h : ∀ axis ∈ axes, axis.2 ≠ []) :
    left axes (axes.map fun _ => 0) = Combination.product axes := by
  induction axes with
  | nil => rfl
  | cons axis axes ih =>
    obtain ⟨key, values⟩ := axis
    have hpos : 0 < values.length := List.length_pos_iff.2 (h (key, values) List.mem_cons_self)
    have hrest := ih fun axis haxis => h axis (List.mem_cons_of_mem _ haxis)
    rw [List.map_cons, left_cons_of_lt hpos, hrest, ← product_drop_of_lt hpos, List.drop_zero]

/-- An odometer on the remaining axes starts again at zero. -/
theorem Within.map_zero (h : Within axes positions) :
    (positions.map fun _ => 0) = axes.map fun _ => 0 := by
  rw [List.map_const', List.map_const', h.length_eq]

/-- A step of the odometer leads to a position. -/
theorem Within.advance (h : Within axes positions) {next : List Nat}
    (hnext : advance (axes.map Prod.snd) positions = some next) : Within axes next := by
  induction h generalizing next with
  | nil => cases hnext
  | @cons axis i axes positions hlt hrest ih =>
    rw [List.map_cons, Permutator.advance] at hnext
    split at hnext
    · rename_i inner hinner
      cases hnext
      exact .cons hlt (ih hinner)
    · split at hnext
      · rename_i hlt'
        cases hnext
        refine .cons hlt' ?_
        rw [Within.map_zero hrest]
        exact within_zeros (Within.ne_nil hrest)
      · cases hnext

/-- **A step of the odometer.**  The first of the choices that are left is the one at the position,
and the others are left from the next position on. -/
theorem left_eq_cons (h : Within axes positions) :
    left axes positions =
      choose axes positions ::
        ((advance (axes.map Prod.snd) positions).elim [] fun next => left axes next) := by
  induction h with
  | nil => rfl
  | @cons axis i axes positions hlt hrest ih =>
    obtain ⟨key, values⟩ := axis
    have hvalue : values[i]? = some values[i] := List.getElem?_eq_getElem hlt
    have hchoose : choose ((key, values) :: axes) (i :: positions) =
        (key, values[i]) :: choose axes positions := by
      rw [choose, hvalue]
    rw [left_cons_of_lt hlt, ih, hchoose, List.map_cons, List.cons_append,
      List.map_cons (f := Prod.snd), advance]
    refine congrArg _ ?_
    cases hadvance : advance (axes.map Prod.snd) positions with
    | some next => exact (left_cons_of_lt hlt).symm
    | none =>
      -- the other axes are through, so that this one moves on or is through as well
      by_cases hlast : i + 1 < values.length
      · have hzeros : left axes (positions.map fun _ => 0) = Combination.product axes := by
          rw [Within.map_zero hrest, left_zeros (Within.ne_nil hrest)]
        simp only [if_pos hlast, Option.elim_some, Option.elim_none]
        rw [left_cons_of_lt hlast, hzeros, product_drop_of_lt hlast]
        rfl
      · have hdrop : values.drop (i + 1) = [] := List.drop_eq_nil_of_le (Nat.le_of_not_lt hlast)
        simp only [if_neg hlast, Option.elim_none, hdrop]
        rfl

/-! ## Walks -/

/-- The walk at the first combination of some axes. -/
def first (m : KeyedMap (List String)) : Permutator :=
  ⟨m, start m⟩

/-- The combinations that a walk has before it. -/
def rest (p : Permutator) : List Combination :=
  (p.cursor.elim [] fun positions => left p.axes.entries positions).map KeyedMap.ofList

/-- Whether a walk stands where it comes to after so many steps. -/
structure StandsAt (m : KeyedMap (List String)) (n : Nat) (p : Permutator) : Prop where
  axes_eq : p.axes = m
  within : ∀ positions, p.cursor = some positions → Within m.entries positions
  rest_eq : p.rest = (Combination.ofAxes m).drop n

variable {m : KeyedMap (List String)} {n : Nat} {p : Permutator}

theorem standsAt_first (m : KeyedMap (List String)) : StandsAt m 0 (first m) := by
  by_cases hempty : m.values.any List.isEmpty = true
  · have hcursor : (first m).cursor = none := if_pos hempty
    refine ⟨rfl, fun positions h => (by cases hcursor.symm.trans h), ?_⟩
    -- an axis without values leaves no choice
    have hnone : Combination.product m.entries = [] := by
      obtain ⟨values, hvalues, hnil⟩ := List.any_eq_true.1 hempty
      obtain ⟨axis, haxis, rfl⟩ := List.mem_map.1 hvalues
      exact Combination.product_eq_nil_iff.2 ⟨axis, haxis, List.isEmpty_iff.1 hnil⟩
    rw [rest, hcursor, Combination.ofAxes, hnone]
    rfl
  · have hvalues : ∀ axis ∈ m.entries, axis.2 ≠ [] := by
      intro axis haxis hnil
      refine hempty (List.any_eq_true.2 ⟨axis.2, List.mem_map_of_mem haxis, ?_⟩)
      rw [hnil]
      rfl
    have hzeros : (m.values.map fun _ => 0) = m.entries.map fun _ => 0 := by
      rw [KeyedMap.values, List.map_map]
      rfl
    have hcursor : (first m).cursor = some (m.entries.map fun _ => 0) :=
      (if_neg hempty).trans (congrArg some hzeros)
    refine ⟨rfl, fun positions h => ?_, ?_⟩
    · cases hcursor.symm.trans h
      exact within_zeros hvalues
    · rw [rest, hcursor, Option.elim_some]
      show (left m.entries _).map _ = _
      rw [left_zeros hvalues, List.drop_zero, Combination.ofAxes]

/-- **A step of a walk** gives the first combination before it, and leaves the others. -/
theorem StandsAt.next (h : StandsAt m n p) :
    p.next.1 = (Combination.ofAxes m)[n]? ∧ StandsAt m (n + 1) p.next.2 := by
  obtain ⟨axes, cursor⟩ := p
  obtain ⟨rfl, hwithin, hrest⟩ := h
  rw [← List.head?_drop, ← hrest]
  cases cursor with
  | none =>
    refine ⟨rfl, rfl, hwithin, ?_⟩
    rw [← List.tail_drop, ← hrest]
    rfl
  | some positions =>
    have hleft := left_eq_cons (hwithin positions rfl)
    have hcombination : rest ⟨axes, some positions⟩ =
        .ofList (choose axes.entries positions) :: rest (next ⟨axes, some positions⟩).2 := by
      show (left axes.entries positions).map _ = _
      rw [hleft, List.map_cons]
      rfl
    refine ⟨?_, rfl, fun positions' h => (hwithin positions rfl).advance h, ?_⟩
    · rw [hcombination]
      rfl
    · rw [← List.tail_drop, ← hrest, hcombination, List.tail_cons]

theorem StandsAt.total_eq (h : StandsAt m n p) : p.total = (Combination.ofAxes m).length := by
  rw [total, h.axes_eq, Combination.length_ofAxes, KeyedMap.values, List.map_map]
  rfl

/-- So many steps give so many of the combinations before a walk. -/
theorem StandsAt.take_eq (h : StandsAt m n p) (k : Nat) :
    (take k p).1 = ((Combination.ofAxes m).drop n).take k := by
  induction k generalizing n p with
  | zero => rfl
  | succ k ih =>
    obtain ⟨hanswer, hnext⟩ := h.next
    have hrest := ih hnext
    rw [take]
    split
    · rename_i q hq
      rw [hq] at hanswer
      have hle : (Combination.ofAxes m).length ≤ n := List.getElem?_eq_none_iff.1 hanswer.symm
      rw [List.drop_eq_nil_of_le hle, List.take_nil]
    · rename_i c q hq
      rw [hq] at hanswer hrest
      obtain ⟨hlt, hget⟩ := List.getElem?_eq_some_iff.1 hanswer.symm
      rw [List.drop_eq_getElem_cons hlt, List.take_succ_cons, hget]
      exact congrArg (c :: ·) hrest

/-- A walk that is driven to its end gives all combinations before it. -/
theorem StandsAt.drain_eq (h : StandsAt m n p) : p.drain.1 = (Combination.ofAxes m).drop n := by
  have hlength : ((Combination.ofAxes m).drop n).length ≤ p.total := by
    rw [h.total_eq, List.length_drop]
    exact Nat.sub_le _ _
  rw [drain, h.take_eq, List.take_of_length_le hlength]

/-- The combinations of some patterns are those that a walk through them gives. -/
theorem drain_ofPatterns (patterns : List Pattern) :
    (ofPatterns patterns).drain.1 = Combination.ofPatterns patterns :=
  (standsAt_first (Combination.axes patterns)).drain_eq

/-! ## Several walks -/

/-- What is done with one of several walks, which are numbered in the order in which they are
made. -/
inductive Operation where
  | next (walk : Nat)
  | restart (walk : Nat)
  /-- A copy of the walk is made. -/
  | clone (walk : Nat)
  deriving DecidableEq, Repr

/-- Does something with one of several walks, of which only what it is to move on and to start again
is known.  A walk that does not exist is left alone. -/
def Operation.apply {σ : Type} (next restart : σ → σ) : Operation → List σ → List σ
  | .next i, walks => walks.modify i next
  | .restart i, walks => walks.modify i restart
  | .clone i, walks => walks ++ walks[i]?.toList

/-- The walks after some operations on one walk. -/
def walksAfter (given : List (String × List String)) (ops : List Operation) : List Permutator :=
  ops.foldl (fun walks op => op.apply (fun p => p.next.2) restart walks) [ofAxes given]

/-- How many steps each walk has made since it was made or started again.  A copy starts with the
number of the walk that it is a copy of. -/
def positionsAfter (ops : List Operation) : List Nat :=
  ops.foldl (fun counts op => op.apply (fun n => n + 1) (fun _ => 0) counts) [0]

theorem modify_map {σ τ : Type} {f : σ → τ} {g : σ → σ} {g' : τ → τ} (h : ∀ a, g' (f a) = f (g a))
    (walks : List σ) (i : Nat) : (walks.map f).modify i g' = (walks.modify i g).map f := by
  refine List.ext_getElem? fun j => ?_
  rw [List.getElem?_modify, List.getElem?_map, List.getElem?_map, List.getElem?_modify]
  cases walks[j]? with
  | none => rfl
  | some a => by_cases hij : i = j <;> simp [hij, h]

/-- An operation on the images of some walks is one on the walks. -/
theorem Operation.apply_map {σ τ : Type} (f : σ → τ) (next restart : σ → σ)
    (next' restart' : τ → τ) (hnext : ∀ a, next' (f a) = f (next a))
    (hrestart : ∀ a, restart' (f a) = f (restart a)) (op : Operation) (walks : List σ) :
    op.apply next' restart' (walks.map f) = (op.apply next restart walks).map f := by
  cases op with
  | next i => exact modify_map hnext walks i
  | restart i => exact modify_map hrestart walks i
  | clone i =>
    simp only [Operation.apply, List.map_append, List.getElem?_map]
    cases walks[i]? <;> rfl

/-- The walk after so many steps. -/
def walkAt (m : KeyedMap (List String)) : Nat → Permutator
  | 0 => first m
  | n + 1 => (walkAt m n).next.2

theorem standsAt_walkAt (m : KeyedMap (List String)) (n : Nat) : StandsAt m n (walkAt m n) := by
  induction n with
  | zero => exact standsAt_first m
  | succ n ih => exact ih.next.2

theorem restart_walkAt (m : KeyedMap (List String)) (n : Nat) :
    (walkAt m n).restart = walkAt m 0 := by
  obtain ⟨haxes, -, -⟩ := standsAt_walkAt m n
  exact congrArg first haxes

/-- Operations on walks only count steps. -/
theorem foldl_apply_walkAt (m : KeyedMap (List String)) (ops : List Operation)
    (counts : List Nat) :
    ops.foldl (fun walks op => op.apply (fun p => p.next.2) restart walks)
        (counts.map (walkAt m)) =
      (ops.foldl (fun counts op => op.apply (fun n => n + 1) (fun _ => 0) counts) counts).map
        (walkAt m) := by
  induction ops generalizing counts with
  | nil => rfl
  | cons op ops ih =>
    have hop := op.apply_map (walkAt m) (fun n => n + 1) (fun _ => 0) (fun p => p.next.2) restart
      (fun _ => rfl) (restart_walkAt m) counts
    rw [List.foldl_cons, List.foldl_cons, hop, ih]

/-- Whatever is done with several walks, each of them stands where the number of its steps says. -/
theorem walksAfter_eq (given : List (String × List String)) (ops : List Operation) :
    walksAfter given ops = (positionsAfter ops).map (walkAt (KeyedMap.ofList given)) :=
  foldl_apply_walkAt (KeyedMap.ofList given) ops [0]

/-- **Every walk gives the combinations of nested loops.**  Of axes that are given in any order, and
with a repeated key several times, the loops go over each key once, with its last values, in the
order of the keys, the last axis fastest.  They find the combinations `all`, each of which binds
the keys of the axes and no others.  Whatever is done with a walk through them and its copies, a
walk that has made `n` steps since it was made or started again answers with the combination number
`n` next, which is none when there are no more; it goes through the combinations from this one on;
and its total is the number of all, which is the product of the sizes of the axes.  The combinations
differ from each other when no axis repeats a value.  Axes with distinct keys may be given in any
order. -/
theorem walks_nestedLoops (given : List (String × List String)) :
    ∃ (axes : List (String × List String)) (all : List Combination),
      Combination.LoopsOver given axes ∧
      all.map KeyedMap.entries = Combination.product axes ∧
      (∀ (ops : List Operation) (i : Nat),
        ((walksAfter given ops)[i]?.map fun p => (p.next.1, p.drain.1, p.total)) =
          (positionsAfter ops)[i]?.map fun n => (all[n]?, all.drop n, all.length)) ∧
      all.length = (axes.map fun axis => axis.2.length).prod ∧
      (all = [] ↔ ∃ axis ∈ axes, axis.2 = []) ∧
      (∀ c ∈ all, c.keys = axes.map Prod.fst) ∧
      ((∀ axis ∈ axes, axis.2.Nodup) → all.Nodup) ∧
      ((given.map Prod.fst).Nodup → ∀ given', given'.Perm given → ofAxes given' = ofAxes given) := by
  have hentries := Combination.map_entries_ofAxes (KeyedMap.ofList given)
  refine ⟨(KeyedMap.ofList given).entries, Combination.ofAxes (KeyedMap.ofList given),
    Combination.loopsOver_ofList given, hentries, ?_, Combination.length_ofAxes _,
    List.map_eq_nil_iff.trans Combination.product_eq_nil_iff, ?_, ?_, ?_⟩
  · intro ops i
    rw [walksAfter_eq, List.getElem?_map, Option.map_map]
    refine congrArg (Option.map · _) (funext fun n => ?_)
    have hstands := standsAt_walkAt (KeyedMap.ofList given) n
    exact Prod.ext hstands.next.1 (Prod.ext hstands.drain_eq hstands.total_eq)
  · intro c hc
    refine Combination.map_fst_of_mem_product ?_
    rw [← hentries]
    exact List.mem_map_of_mem hc
  · intro hvalues
    refine List.Nodup.of_map KeyedMap.entries ?_
    rw [hentries]
    exact Combination.nodup_product hvalues
  · intro hkeys given' hperm
    rw [ofAxes, ofAxes, KeyedMap.ofList_eq_of_perm hperm hkeys]

/-- A copy goes on from where the walk stood, and the walk from its beginning. -/
example : positionsAfter [.next 0, .next 0, .clone 0, .next 1, .restart 0] = [0, 3] := rfl

end Permutator
end Orchestrator
