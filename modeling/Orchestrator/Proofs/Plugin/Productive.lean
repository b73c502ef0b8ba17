import Orchestrator.Proofs.Pattern.Product
import Orchestrator.Proofs.Plugin.Plans

/-!
# Plans come to something

A plan has a step, and a step that asks for commands names one.  What this rests on is spread over
the plugins: a pattern has a value by construction, so that there is a combination of any patterns;
a setting that is there has a value, so that a wrapper that requires its commands has one.  The one
exception is a selector that is given no pattern.

* `Combination.ofPatterns_ne_nil`: **some combination** of any patterns.
* `Productive`: a plan that comes to something, with a lemma for each way to put plans together.
* `Yields`: a computation whose plans are such, with a lemma for each step of the computation.
* `Plugin.productive_of_plan`: **every plan of a plugin comes to something**, unless a selector has
  no pattern.
-/

namespace Orchestrator

/-! ## Combinations -/

namespace Combination

/-- **Some combination.**  A pattern has a value, and keeps one when its values are replaced. -/
theorem ofPatterns_ne_nil (patterns : List Pattern) : ofPatterns patterns ≠ [] := by
  intro hnil
  obtain ⟨axis, haxis, hempty⟩ := product_eq_nil_iff.1 (List.map_eq_nil_iff.1 hnil)
  rcases KeyedMap.mem_entries_extend haxis with h | h
  · cases h
  · obtain ⟨p, -, rfl⟩ := List.mem_map.1 h
    exact p.values_ne_nil hempty

end Combination

theorem Task.expand_ne_nil (t : Task) (patterns : List Pattern) : t.expand patterns ≠ [] :=
  fun hnil => Combination.ofPatterns_ne_nil patterns (List.map_eq_nil_iff.1 hnil)

/-! ## Plans -/

/-- Whether a step has a task or names a command. -/
def Step.IsProductive : Step → Prop
  | .emit _ => True
  | .resolve commands _ => commands ≠ []

/-- Whether a plan has a step, and every step has a task or names a command. -/
structure Productive (steps : List Step) : Prop where
  ne_nil : steps ≠ []
  step : ∀ step ∈ steps, step.IsProductive

theorem productive_map {α : Type} {as : List α} {g : α → Step} (has : as ≠ [])
    (hg : ∀ a, (g a).IsProductive) : Productive (as.map g) := by
  refine ⟨fun hnil => has (List.map_eq_nil_iff.1 hnil), fun step hstep => ?_⟩
  obtain ⟨a, -, rfl⟩ := List.mem_map.1 hstep
  exact hg a

theorem productive_flatMap {α : Type} {as : List α} {g : α → List Step} (has : as ≠ [])
    (hg : ∀ a, Productive (g a)) : Productive (as.flatMap g) := by
  obtain ⟨a, ha⟩ := List.exists_mem_of_ne_nil as has
  refine ⟨fun hnil => (hg a).ne_nil (List.flatMap_eq_nil_iff.1 hnil a ha), fun step hstep => ?_⟩
  obtain ⟨b, -, hstep⟩ := List.mem_flatMap.1 hstep
  exact (hg b).step step hstep

theorem productive_emitExpanded (t : Task) (patterns : List Pattern) :
    Productive (emitExpanded t patterns) :=
  productive_map (t.expand_ne_nil patterns) fun _ => trivial

/-- A coverage run collects the counters in any case. -/
theorem Wrapper.CoverageSteps.productive_block (s : CoverageSteps) {commands : List String}
    (h : commands ≠ []) (t : Task) (c : Combination) : Productive (s.block commands t c) := by
  refine ⟨fun hnil => ?_, fun step hstep => ?_⟩
  · simp [block] at hnil
  · rcases mem_block_cases hstep with rfl | ⟨u, -, rfl⟩
    · exact h
    · trivial

/-! ## Plugins -/

/-- Whether the plans that a computation may end with come to something. -/
def Yields (e : Except PluginFault (List Step)) : Prop :=
  ∀ steps, e = .ok steps → Productive steps

theorem Yields.ok {steps : List Step} (h : Productive steps) : Yields (.ok steps) := by
  intro _ hsteps
  cases hsteps
  exact h

theorem Yields.bind {α : Type} {e : Except PluginFault α} {k : α → Except PluginFault (List Step)}
    (h : ∀ a, e = .ok a → Yields (k a)) : Yields (e >>= k) := by
  intro steps hsteps
  obtain ⟨a, ha, hk⟩ := bind_eq_ok_iff.1 hsteps
  exact h a ha steps hk

variable (r : Request)

theorem Strategy.yields_plan (s : Strategy) : Yields (s.plan r) := by
  intro steps h
  obtain ⟨built, -, rfl⟩ := map_eq_ok_iff.1 h
  exact productive_emitExpanded built r.patterns

namespace Script

theorem yields_bootstrap : Yields (bootstrap r) :=
  .bind fun _ _ => .bind fun _ _ => .bind fun _ _ => .ok (productive_emitExpanded ..)

theorem yields_commandLines : Yields (commandLines r) := by
  intro steps h
  unfold commandLines at h
  dsimp only at h
  split at h
  · cases h
  · rename_i hlines
    obtain ⟨base, -, rfl⟩ := map_eq_ok_iff.1 h
    rw [List.isEmpty_iff] at hlines
    exact productive_flatMap hlines fun line => productive_emitExpanded ..

end Script

namespace Analyzer

theorem yields_cppcheck : Yields (cppcheck r) :=
  .bind fun _ _ => .bind fun _ _ => .bind fun _ _ => .bind fun _ _ =>
    .ok (productive_emitExpanded ..)

theorem yields_clangTidy : Yields (clangTidy r) :=
  .bind fun _ _ => .bind fun _ _ => .bind fun _ _ => .bind fun _ _ =>
    .ok (productive_emitExpanded ..)

theorem yields_pmd : Yields (pmd r) :=
  .bind fun _ _ => .bind fun _ _ => .bind fun _ _ => .bind fun _ _ => .bind fun _ _ =>
    .ok (productive_emitExpanded ..)

end Analyzer

namespace Wrapper

theorem yields_valgrind : Yields (valgrind r) :=
  .bind fun _ hcommands => .bind fun _ _ => .bind fun task _ =>
    .ok (productive_map (task.expand_ne_nil r.patterns) fun _ =>
      SettingsTree.ne_nil_of_get? (r.get?_of_require_list hcommands))

theorem yields_scanBuild : Yields (scanBuild r) :=
  .bind fun _ hcommands => .bind fun task _ =>
    .ok (productive_map (List.cons_ne_nil task []) fun _ =>
      SettingsTree.ne_nil_of_get? (r.get?_of_require_list hcommands))

theorem yields_lcov : Yields (lcov r) :=
  .bind fun _ hcommands => .bind fun s _ =>
    .ok (productive_flatMap (Combination.ofPatterns_ne_nil r.patterns) fun c =>
      s.productive_block (SettingsTree.ne_nil_of_get? (r.get?_of_require_list hcommands)) r.task c)

/-- A selector asks for the values of its patterns, of which there are none without patterns. -/
theorem productive_of_selector {steps : List Step} (h : selector r = .ok steps)
    (hpatterns : r.patterns ≠ []) : Productive steps := by
  rw [selector] at h
  split at h
  · cases h
    obtain ⟨p, hp⟩ := List.exists_mem_of_ne_nil r.patterns hpatterns
    refine productive_map (List.cons_ne_nil r.task []) fun _ hnil => ?_
    exact p.values_ne_nil (List.flatMap_eq_nil_iff.1 hnil p hp)
  · cases h

end Wrapper

/-- **Every plan of a plugin comes to something**, unless a selector has no pattern. -/
theorem Plugin.productive_of_plan {p : Plugin} {steps : List Step} (h : p.plan r = .ok steps) :
    Productive steps ∨ (p = .builtIn .selector ∧ r.patterns = []) := by
  cases p with
  | builtIn b =>
    cases b with
    | bootstrap => exact Or.inl (Script.yields_bootstrap r steps h)
    | commandLines => exact Or.inl (Script.yields_commandLines r steps h)
    | selector =>
      by_cases hpatterns : r.patterns = []
      · exact Or.inr ⟨rfl, hpatterns⟩
      · exact Or.inl (Wrapper.productive_of_selector r h hpatterns)
    | valgrind => exact Or.inl (Wrapper.yields_valgrind r steps h)
    | cppcheck => exact Or.inl (Analyzer.yields_cppcheck r steps h)
    | clangTidy => exact Or.inl (Analyzer.yields_clangTidy r steps h)
    | scanBuild => exact Or.inl (Wrapper.yields_scanBuild r steps h)
    | pmd => exact Or.inl (Analyzer.yields_pmd r steps h)
    | lcov => exact Or.inl (Wrapper.yields_lcov r steps h)
  | strategy s => exact Or.inl (s.yields_plan r steps h)
  | memory name fails =>
    cases fails with
    | true => cases h
    | false =>
      cases h
      exact Or.inl (productive_emitExpanded r.task r.patterns)

end Orchestrator
