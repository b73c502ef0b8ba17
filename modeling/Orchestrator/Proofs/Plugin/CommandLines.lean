import Orchestrator.Proofs.Plugin.Applying
import Orchestrator.Proofs.Plugin.Productive

/-!
# Which command lines are run

The setting of the command lines is either one line, whose words are the children of a node, or
several lines with names, whose words are the children of these children.  The children tell which
of the two it is: one child with children makes it several lines.  A child without children is then
a name without words, and nothing is run for it.

* `Script.lines_of_plain`, `Script.lines_of_named`: the lines of the two forms.
* `Script.base`, `Script.block`: the task on which the lines are put, and the tasks of one line.
* `Script.result_commandLines`: the tasks of all lines, one line behind the other.
* `Script.runs_named_lines`: **which children of the setting are run**.
* `Script.wordless_line_is_dropped`: a name without words beside a line is passed over in silence.
-/

namespace Orchestrator

/-! ## Lines -/

namespace SettingsTree

variable {c : SettingsTree}

theorem hasChildren_iff : c.hasChildren = true ↔ c.children ≠ [] := by
  rw [hasChildren, Bool.not_eq_true', List.isEmpty_eq_false_iff]

theorem values?_of_ne_nil (h : c.children ≠ []) : c.values? = some (c.children.map key) := by
  rw [values?, if_neg (mt List.isEmpty_iff.1 h)]

theorem values?_of_nil (h : c.children = []) : c.values? = none := by
  rw [values?, if_pos (List.isEmpty_iff.2 h)]

/-- The trees that have values are those with children. -/
theorem filterMap_values? (cs : List SettingsTree) :
    cs.filterMap values? =
      (cs.filter fun c => c.children ≠ []).map fun c => c.children.map key := by
  induction cs with
  | nil => rfl
  | cons c cs ih =>
    by_cases h : c.children = []
    · rw [List.filterMap_cons_none (values?_of_nil h), ih, List.filter_cons_of_neg]
      simpa using h
    · rw [List.filterMap_cons_some (values?_of_ne_nil h), ih, List.filter_cons_of_pos,
        List.map_cons]
      simpa using h

end SettingsTree

namespace Script

open SettingsTree

variable {settings node : SettingsTree}

/-- Children without children are the words of one line. -/
theorem lines_of_plain (hnode : settings.child? Names.commandLine = some node)
    (hne : node.children ≠ []) (hplain : ∀ c ∈ node.children, c.children = []) :
    lines settings = [node.children.map key] := by
  have hnone : ¬ node.children.any hasChildren = true := by
    intro hany
    obtain ⟨c, hc, hchildren⟩ := List.any_eq_true.1 hany
    exact hasChildren_iff.1 hchildren (hplain c hc)
  rw [lines, hnode]
  dsimp only
  rw [if_neg hnone, values?_of_ne_nil hne, Option.toList_some]

/-- A child with children makes every child a line of its own, and those without words are left
out. -/
theorem lines_of_named (hnode : settings.child? Names.commandLine = some node)
    (hnamed : ∃ c ∈ node.children, c.children ≠ []) :
    lines settings =
      (node.children.filter fun c => c.children ≠ []).map fun c => c.children.map key := by
  obtain ⟨c, hc, hchildren⟩ := hnamed
  have hany : node.children.any hasChildren = true :=
    List.any_eq_true.2 ⟨c, hc, hasChildren_iff.2 hchildren⟩
  rw [lines, hnode]
  dsimp only
  rw [if_pos hany, filterMap_values?]

/-- Children are words or lines, so that a setting with children has a line. -/
theorem lines_ne_nil (hnode : settings.child? Names.commandLine = some node)
    (hne : node.children ≠ []) : lines settings ≠ [] := by
  by_cases hplain : ∀ c ∈ node.children, c.children = []
  · rw [lines_of_plain hnode hne hplain]
    exact List.cons_ne_nil _ []
  · push Not at hplain
    obtain ⟨c, hc, hchildren⟩ := hplain
    rw [lines_of_named hnode ⟨c, hc, hchildren⟩]
    have hmem : c ∈ node.children.filter fun c => c.children ≠ [] :=
      List.mem_filter.2 ⟨hc, decide_eq_true hchildren⟩
    exact fun hnil => List.ne_nil_of_mem hmem (List.map_eq_nil_iff.1 hnil)

/-! ## Tasks -/

/-- The task on which command lines are put: the given one, with the environment of the settings and
the last working directory in them. -/
def base (r : Request) : Task :=
  let task := r.task.extendEnv (environmentOf r.settings)
  match (r.settings.namesAt [Names.workingDir]).getLast? with
  | none => task
  | some dir => task.setWorkingDir (.ofText dir)

/-- The tasks of one command line, one for each combination. -/
def block (r : Request) (words : List String) : List Task :=
  ((base r).appendAll words).expand r.patterns

variable (cfg : Configuration) (f : Frame) (r : Request)

/-- Nothing that the base is made of can be refused, and arguments that are there already are put on
top of it. -/
theorem applyAll_base_appendAll (args : List String) :
    Applier.applyAll r [.environment, .workingDir] (r.task.appendAll args) =
      .ok ((base r).appendAll args) := by
  simp only [Applier.applyAll, Applier.apply, r.read?_path, base]
  cases (r.settings.namesAt [Names.workingDir]).getLast? <;> rfl

theorem applyAll_base :
    Applier.applyAll r [.environment, .workingDir] r.task = .ok (base r) := by
  simpa only [Task.appendAll_nil] using applyAll_base_appendAll r []

theorem length_block (words : List String) :
    (block r words).length = (Combination.ofPatterns r.patterns).length := by
  rw [block, Task.expand, List.length_map]

theorem block_ne_nil (words : List String) : block r words ≠ [] :=
  Task.expand_ne_nil _ r.patterns

/-- **The tasks of all lines**, one line behind the other. -/
theorem result_commandLines (h : lines r.settings ≠ []) :
    (applyPlugin cfg f (.builtIn .commandLines) r).result =
      .ok ((lines r.settings).flatMap (block r)) := by
  have hemit : ((lines r.settings).flatMap fun line =>
      emitExpanded ((base r).appendAll line) r.patterns) =
        ((lines r.settings).flatMap (block r)).map .emit := by
    rw [List.map_flatMap]
    rfl
  have hplan : (Plugin.builtIn .commandLines).plan r =
      .ok (((lines r.settings).flatMap (block r)).map .emit) := by
    show commandLines r = _
    rw [commandLines, if_neg (mt List.isEmpty_iff.1 h), applyAll_base, ← hemit]
    rfl
  rw [applyPlugin_of_plan cfg f hplan, perform_map_emit]

/-! ## Which children are run -/

/-- **Which children of the setting are run.**  A setting with children always comes to tasks.  When
none of its children has children, these are the words of the one line.  When some have, each of
these is a line with a block of its own, in order, and the others come to nothing: all children are
run when all have children. -/
theorem runs_named_lines (cfg : Configuration) (f : Frame) (r : Request) {node : SettingsTree}
    (hnode : r.settings.child? Names.commandLine = some node) (hne : node.children ≠ []) :
    let result := (applyPlugin cfg f (.builtIn .commandLines) r).result
    let words (c : SettingsTree) := c.children.map key
    (∀ line, block r line ≠ [] ∧
      (block r line).length = (Combination.ofPatterns r.patterns).length) ∧
    ((∀ c ∈ node.children, c.children = []) → result = .ok (block r (words node))) ∧
    ((∃ c ∈ node.children, c.children ≠ []) →
      result = .ok ((node.children.filter fun c => c.children ≠ []).flatMap fun c =>
        block r (words c))) ∧
    ((∀ c ∈ node.children, c.children ≠ []) →
      result = .ok (node.children.flatMap fun c => block r (words c))) := by
  intro result words
  have hresult : result = .ok ((lines r.settings).flatMap (block r)) :=
    result_commandLines cfg f r (lines_ne_nil hnode hne)
  have hsome (hnamed : ∃ c ∈ node.children, c.children ≠ []) :
      result = .ok ((node.children.filter fun c => c.children ≠ []).flatMap fun c =>
        block r (words c)) := by
    rw [hresult, lines_of_named hnode hnamed, List.flatMap_map]
  refine ⟨fun line => ⟨block_ne_nil r line, length_block r line⟩, fun hplain => ?_, hsome,
    fun hall => ?_⟩
  · rw [hresult, lines_of_plain hnode hne hplain, List.flatMap_singleton]
  · obtain ⟨c, hc⟩ := List.exists_mem_of_ne_nil _ hne
    have hkept : (node.children.filter fun c => c.children ≠ []) = node.children :=
      List.filter_eq_self.2 fun c hc => decide_eq_true (hall c hc)
    rw [hsome ⟨c, hc, hall c hc⟩, hkept]

/-- A configuration without settings of other plugins. -/
def nothingElse : Configuration where
  options := default
  settings := .node Names.root []
  patterns := .empty
  plugins := .empty

/-- A request for command lines on top of `nice`. -/
def requestOf (patterns : List Pattern) (children : List SettingsTree) : Request where
  command := "command-line-command"
  settings := .node "command-line-command" [.node Names.commandLine children]
  patterns := patterns
  task := Task.ofArgs ["nice"]

/-- One line, two lines, and a line beside a name without words. -/
theorem runs_named_lines_echo :
    let mode : Pattern := ⟨"MODE", ["debug", "release"], none, none, by decide⟩
    let run (children : List SettingsTree) :=
      (applyPlugin nothingElse .root (.builtIn .commandLines) (requestOf [mode] children)).result
    let first : SettingsTree := .node "first" [.leaf "echo", .leaf "{MODE}"]
    run [.leaf "echo", .leaf "{MODE}"] =
        .ok [Task.ofArgs ["nice", "echo", "debug"], Task.ofArgs ["nice", "echo", "release"]] ∧
      run [first, .node "second" [.leaf "true"]] =
        .ok [Task.ofArgs ["nice", "echo", "debug"], Task.ofArgs ["nice", "echo", "release"],
          Task.ofArgs ["nice", "true"], Task.ofArgs ["nice", "true"]] ∧
      run [first, .leaf "second"] =
        .ok [Task.ofArgs ["nice", "echo", "debug"], Task.ofArgs ["nice", "echo", "release"]] := by
  intro mode run first
  have hnode (cs : List SettingsTree) : (requestOf [mode] cs).settings.child? Names.commandLine =
      some (.node Names.commandLine cs) := rfl
  have hlaw (c : SettingsTree) (cs : List SettingsTree) :=
    runs_named_lines nothingElse .root (requestOf [mode] (c :: cs)) (hnode _)
      (List.cons_ne_nil c cs)
  refine ⟨?_, ?_, ?_⟩
  · refine ((hlaw _ _).2.1 ?_).trans (congrArg Except.ok ?_)
    · intro c hc
      rcases List.mem_pair.1 hc with rfl | rfl <;> rfl
    · decide +kernel
  · refine ((hlaw _ _).2.2.2 ?_).trans (congrArg Except.ok ?_)
    · intro c hc
      rcases List.mem_pair.1 hc with rfl | rfl <;> exact List.cons_ne_nil _ _
    · decide +kernel
  · refine ((hlaw _ _).2.2.1 ⟨first, List.mem_cons_self, List.cons_ne_nil _ _⟩).trans
      (congrArg Except.ok ?_)
    decide +kernel

/-- **A name without words beside a line is passed over in silence.**  The one task is neither that
of a line of the two names, nor is there a block for each of the two. -/
theorem wordless_line_is_dropped :
    let children : List SettingsTree :=
      [.node "first" [.leaf "echo", .leaf "1"], .leaf "second"]
    let r := requestOf [] children
    let run := (applyPlugin nothingElse .root (.builtIn .commandLines) r).result
    run = .ok [Task.ofArgs ["nice", "echo", "1"]] ∧
      [Task.ofArgs ["nice", "echo", "1"]] ≠ block r (children.map key) ∧
      ¬ ∃ blocks : List (List Task), blocks.length = children.length ∧ (∀ b ∈ blocks, b ≠ []) ∧
        blocks.flatten = [Task.ofArgs ["nice", "echo", "1"]] := by
  intro children r run
  have hlines : lines r.settings = [["echo", "1"]] := rfl
  have hne : lines r.settings ≠ [] := by
    rw [hlines]
    exact List.cons_ne_nil _ []
  have hrun : run = .ok ((lines r.settings).flatMap (block r)) :=
    result_commandLines nothingElse .root r hne
  refine ⟨?_, by decide +kernel, ?_⟩
  · rw [hrun, hlines]
    exact congrArg Except.ok (by decide +kernel)
  · rintro ⟨blocks, hlength, hne, hflatten⟩
    obtain ⟨a, b, rfl⟩ := List.length_eq_two.1 hlength
    have ha : 0 < a.length := List.length_pos_iff.2 (hne a (by simp))
    have hb : 0 < b.length := List.length_pos_iff.2 (hne b (by simp))
    have hone : a.length + b.length = 1 := by simpa using congrArg List.length hflatten
    omega

end Script
end Orchestrator
