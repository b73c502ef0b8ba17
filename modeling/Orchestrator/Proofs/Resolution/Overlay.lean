import Orchestrator.Proofs.Plugin.Overlay
import Orchestrator.Proofs.Resolution.Leaves

/-!
# Resolution on top of a task

Commands that are resolved on top of a task come to what they come to without it, laid over it.
Plugins do so one by one; this file carries it through the recursion.  The leaves of commands do
not depend on the task, and the commands that a plugin wraps are resolved on top of a task that is
itself laid over the given one.

A plugin that fills in patterns shows the working directory below as a text, and a path that is no
text does not survive this.  Whether it happens on the way to a task is a matter of the plugins and
of what they are configured to do, and does not depend on the task below.  So commands come to one
list of layers, each of which is laid over whatever task is given, with its directory as it is or
shown as a text.

* `Layered`: whether outcomes on top of tasks are one list of layers, or one error;
  `Layered.concat` for outcomes one behind the other.
* `Leaf.layered`: **what comes of a leaf**, by induction through the plugins that wrap commands.
* `resolveCommands_builds_on`: **the resolution on top of a task without braces**, from that on top
  of nothing.
* `resolveCommands_respells`: a working directory that is no text becomes another one.
-/

namespace Orchestrator

/-! ## Layers -/

/-- Whether outcomes on top of tasks are one list of layers, laid over each task without braces, or
one error. -/
def Layered {ε : Type} (F : Task → Except ε (List Task)) : Prop :=
  ∃ layers : Except ε (List Layer),
    ∀ t, t.BraceFree → F t = layers.map (List.map fun l => l.on t)

namespace Layered

variable {ε ε' ι : Type}

theorem error (e : ε) : Layered fun _ => .error e :=
  ⟨.error e, fun _ _ => rfl⟩

theorem single (l : Layer) : Layered (ε := ε) fun t => .ok [l.on t] :=
  ⟨.ok [l], fun _ _ => rfl⟩

theorem mapError {F : Task → Except ε (List Task)} (h : Layered F) (g : ε → ε') :
    Layered fun t => (F t).mapError g := by
  obtain ⟨layers, hlayers⟩ := h
  refine ⟨layers.mapError g, fun t ht => ?_⟩
  dsimp only
  rw [hlayers t ht]
  cases layers <;> rfl

/-- Outcomes one behind the other have the layers of all, or the first error. -/
theorem concat {F : ι → Task → Outcome ε (List Task)} {is : List ι}
    (h : ∀ i ∈ is, Layered fun t => (F i t).result) :
    Layered fun t => (Outcome.concat (is.map fun i => F i t)).result := by
  induction is with
  | nil => exact ⟨.ok [], fun _ _ => rfl⟩
  | cons i is ih =>
    obtain ⟨first, hfirst⟩ := h i List.mem_cons_self
    obtain ⟨others, hothers⟩ := ih fun j hj => h j (List.mem_cons_of_mem i hj)
    refine ⟨first.bind fun a => others.map (a ++ ·), fun t ht => ?_⟩
    have hhead : (F i t).result = first.map (List.map fun l => l.on t) := hfirst t ht
    have htail : (Outcome.concat (is.map fun i => F i t)).result =
        others.map (List.map fun l => l.on t) := hothers t ht
    dsimp only
    rw [List.map_cons, Outcome.concat_cons, Outcome.andThen, hhead]
    cases first with
    | error e => rfl
    | ok a =>
      show ((Outcome.concat (is.map fun i => F i t)).result.map _ : Except ε (List Task)) = _
      rw [htail]
      cases others with
      | error e => rfl
      | ok b => exact congrArg Except.ok (List.map_append ..).symm

end Layered

/-! ## Leaves -/

/-- A plugin prepares the same steps on top of every task, and shows the directory below in the same
ones. -/
theorem Configuration.exists_result_prepare_overlay (cfg : Configuration) (f : Frame) (p : Plugin)
    (u : Task) :
    ∃ shows : Step → Bool, ∀ t : Task, t.BraceFree →
      (cfg.prepare f p (t.overlay u)).result =
        (cfg.prepare f p u).result.map
          (List.map fun step => step.over (t.shown (shows step))) := by
  simp only [prepare, Outcome.after, Outcome.andThen]
  cases (cfg.activePatterns p.name (cfg.pluginVariables f p)).result with
  | error e => exact ⟨fun _ => false, fun _ _ => rfl⟩
  | ok patterns =>
    let r : Request := ⟨f.scopedCommand p.name, cfg.pluginVariables f p, patterns, u⟩
    refine ⟨p.shows r, fun t ht => ?_⟩
    show (p.plan (r.over t)).mapError _ = ((p.plan r).mapError _).map _
    rw [p.plan_over r ht]
    cases p.plan r <;> rfl

/-- **What comes of a leaf** on top of a layer is one list of layers, or one error. -/
theorem Leaf.layered (cfg : Configuration) (l : Leaf) (layer : Layer) :
    Layered fun t => (l.outcome cfg (layer.on t)).result := by
  induction l using cfg.leaf_induction generalizing layer with
  | unknown name =>
    simp only [outcome_unknown]
    exact Layered.error _
  | cyclic chain =>
    simp only [outcome_cyclic]
    exact Layered.error _
  | application f p ih =>
    obtain ⟨shows, hshows⟩ := cfg.exists_result_prepare_overlay f p layer.upper
    have hplan : ∀ t : Task, t.BraceFree →
        (cfg.prepare f p (layer.on t)).result = (cfg.prepare f p layer.upper).result.map
          (List.map fun step => step.over (t.shown (layer.isShown || shows step))) := by
      intro t ht
      rw [Layer.on, hshows _ (ht.shown layer.isShown)]
      simp only [Task.shown_shown]
    cases hsteps : (cfg.prepare f p layer.upper).result with
    | error e =>
      refine ⟨.error e, fun t ht => ?_⟩
      dsimp only
      rw [outcome_application, Outcome.andThen, hplan t ht, hsteps]
      rfl
    | ok steps =>
      have hstep : ∀ step ∈ steps, Layered fun t => (Step.outcome cfg (f.wrapping p) p.name
          (step.over (t.shown (layer.isShown || shows step)))).result := by
        intro step _
        cases step with
        | emit v => exact Layered.single ⟨v, _⟩
        | resolve commands v =>
          -- the task that the plugin hands down is a layer again, so the induction applies
          exact (Layered.concat fun l hl => ih commands l hl ⟨v, _⟩).mapError _
      obtain ⟨layers, hlayers⟩ := Layered.concat hstep
      refine ⟨layers, fun t ht => ?_⟩
      dsimp only
      rw [← hlayers t ht, outcome_application, Outcome.andThen, hplan t ht, hsteps]
      show (Outcome.concat ((steps.map _).map _)).result = _
      rw [List.map_map]
      rfl

theorem layered_resolveCommands (cfg : Configuration) (f : Frame) (commands : List String) :
    Layered fun t => (resolveCommands cfg f t commands).result := by
  simp only [result_resolveCommands]
  exact Layered.concat fun l _ => by simpa only [Layer.bare_on] using l.layered cfg .bare

/-- **Resolution is the same on top of every task.**  Commands resolve to one list of layers, or to
one error.  On top of nothing the tasks are those of the layers.  On top of a task without braces
they have its arguments in front and its variables below, and where they have no working directory
of their own they start in its working directory: in the directory itself, or, in the layers in
which patterns were filled in on the way, in what is left of it once it was shown as a text.  This
is the directory itself when it is a text. -/
theorem resolveCommands_builds_on (cfg : Configuration) (f : Frame) (commands : List String) :
    ∃ layers : Except DispatchError (List Layer),
      (resolveCommands cfg f .empty commands).result = layers.map (List.map Layer.upper) ∧
      ∀ t : Task, t.BraceFree →
        (resolveCommands cfg f t commands).result =
            layers.map (List.map fun l =>
              ⟨t.args ++ l.upper.args, t.env.overlay l.upper.env,
                l.upper.workingDir.or
                  (if l.isShown then t.workingDir.map .legible else t.workingDir)⟩) ∧
          ((∀ dir, t.workingDir = some dir → ∃ text, dir = .ofText text) →
            (resolveCommands cfg f t commands).result =
              (resolveCommands cfg f .empty commands).result.map fun tasks =>
                tasks.map fun u =>
                  ⟨t.args ++ u.args, t.env.overlay u.env, u.workingDir.or t.workingDir⟩) := by
  obtain ⟨layers, hlayers⟩ := layered_resolveCommands cfg f commands
  have hempty : (resolveCommands cfg f .empty commands).result =
      layers.map (List.map Layer.upper) := by
    rw [← funext Layer.on_empty]
    exact hlayers .empty Task.braceFree_empty
  have hover : ∀ t : Task, t.BraceFree → (resolveCommands cfg f t commands).result =
      layers.map (List.map fun l => l.on t) := hlayers
  refine ⟨layers, hempty, fun t ht => ⟨?_, fun hdir => ?_⟩⟩
  · simp only [hover t ht, Layer.on_eq]
  · have hkept : t.workingDir.map Path.legible = t.workingDir :=
      congrArg Task.workingDir (Task.legible_eq_self hdir)
    simp only [hover t ht, hempty, Layer.on_eq, hkept, ite_self]
    cases layers with
    | error e => rfl
    | ok ls =>
      show Except.ok _ = Except.ok ((ls.map _).map _)
      rw [List.map_map]
      rfl

/-- A build with a variable and a working directory of its own. -/
def localBuild : Configuration where
  options := default
  settings := .node Names.root
    [.node "make" [.node Names.environment [.node "CC" [.leaf "gcc"]],
      .node Names.workingDir [.leaf "/src"]]]
  patterns := .empty
  plugins := PluginRegistry.empty.register (.strategy .gnuMake)

/-- The build on top of a task with other variables and another working directory. -/
theorem resolveCommands_builds_on_localBuild :
    let nice : Task :=
      ⟨["nice"], .ofList [("CC", "clang"), ("LANG", "C")], some (.ofText "/tmp")⟩
    nice.BraceFree ∧
      (∀ dir, nice.workingDir = some dir → ∃ text, dir = .ofText text) ∧
      (resolveCommands localBuild .root nice ["make"]).result =
        .ok [⟨["nice", "make", "--jobs", "0"],
          .ofList [("CC", "gcc"), ("LANG", "C"), ("PWD", "/src")], some (.ofText "/src")⟩] := by
  intro nice
  have hnice : nice.BraceFree := by
    refine ⟨?_, ?_, ?_⟩
    · decide
    · decide
    · rintro dir ⟨⟩
      decide
  have htext : ∀ dir, nice.workingDir = some dir → ∃ text, dir = .ofText text := by
    rintro dir ⟨⟩
    exact ⟨"/tmp", rfl⟩
  have hmake : localBuild.referent .root "make" = .plugin (.strategy .gnuMake) := rfl
  have hone : ((Leaf.application (Frame.root.pushed "make") (.strategy .gnuMake)).outcome localBuild
      .empty).result = .ok [⟨["make", "--jobs", "0"],
        .ofList [("CC", "gcc"), ("PWD", "/src")], some (.ofText "/src")⟩] :=
    Leaf.result_outcome_of_emit rfl
  have hempty : (resolveCommands localBuild .root .empty ["make"]).result =
      .ok [⟨["make", "--jobs", "0"], .ofList [("CC", "gcc"), ("PWD", "/src")],
        some (.ofText "/src")⟩] := by
    rw [result_resolveCommands, Configuration.outcomes_cons, Configuration.leavesOf_eq, hmake,
      Configuration.outcomes_nil]
    simp only [List.map_cons, List.map_nil, List.append_nil, Outcome.concat_cons]
    rw [Outcome.andThen, hone]
    rfl
  obtain ⟨layers, -, hover⟩ := resolveCommands_builds_on localBuild .root ["make"]
  refine ⟨hnice, htext, ?_⟩
  rw [(hover nice hnice).2 htext, hempty]
  rfl

/-- A build whose settings select a pattern. -/
def patternedBuild : Configuration where
  options := default
  settings := .node Names.root [.node "make" [.node Names.patterns [.leaf "MODE"]]]
  patterns :=
    PatternRegistry.empty.add ⟨"MODE", ["debug"], none, none, List.cons_ne_nil _ _⟩
  plugins := PluginRegistry.empty.register (.strategy .gnuMake)

/-- A working directory that is no text does not survive a pattern, although there are no braces in
it: its last byte becomes a mark.  Without a task below, the build has no working directory. -/
theorem resolveCommands_respells :
    let base : Task := ⟨[], .empty, some ⟨[0x2F, 0x70, 0xFF]⟩⟩
    base.BraceFree ∧
      (resolveCommands patternedBuild .root .empty ["make"]).result =
        .ok [⟨["make", "--jobs", "0"], .empty, none⟩] ∧
      (resolveCommands patternedBuild .root base ["make"]).result =
        .ok [⟨["make", "--jobs", "0"], .empty, some (.ofText "/p\uFFFD")⟩] ∧
      some (.ofText "/p\uFFFD") ≠ base.workingDir := by
  intro base
  have hmake : patternedBuild.referent .root "make" = .plugin (.strategy .gnuMake) := rfl
  have hbuild : ∀ t u : Task,
      ((Leaf.application (Frame.root.pushed "make") (.strategy .gnuMake)).outcome patternedBuild
        t).result = .ok [u] →
      (resolveCommands patternedBuild .root t ["make"]).result = .ok [u] := by
    intro t u hone
    rw [result_resolveCommands, Configuration.outcomes_cons, Configuration.leavesOf_eq, hmake,
      Configuration.outcomes_nil]
    simp only [List.map_cons, List.map_nil, List.append_nil, Outcome.concat_cons]
    rw [Outcome.andThen, hone]
    rfl
  refine ⟨?_, hbuild _ _ (Leaf.result_outcome_of_emit (by decide +kernel)),
    hbuild _ _ (Leaf.result_outcome_of_emit (by decide +kernel)), by decide⟩
  refine ⟨?_, ?_, ?_⟩
  · decide
  · decide
  · rintro dir ⟨⟩
    decide

end Orchestrator
