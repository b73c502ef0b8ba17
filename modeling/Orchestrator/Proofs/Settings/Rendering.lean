import Mathlib.Data.List.Basic
import Orchestrator.Proofs.Settings.Nodes

/-!
# Trees are told apart by their renderings

A tree is rendered as lines, one for each node: an indentation, a dash, the name, and a colon when
there are children.  A name may be of any characters but a line feed, spaces, dashes and colons
among them, and it may be empty.

A line does not say by itself where the name ends: the line of a node without children whose name
ends in a colon is the line of another node with children.  What tells them apart is the next line,
which is deeper only behind a node with children.  So the lines are read from the front, with the
lines behind them kept general: below a node stand as many lines as are deeper than it, the trees
among them are told apart first, and when the children are known the name is what is left of the
line.

How deep a line is can be seen, because the first character behind the indentation is the dash.

* `Line`, `lines`: the lines of a tree, with their depths.
* `toList_renderAt`: the rendering writes these lines.
* `Line.written_append_inj`: a line without line feeds is told apart from what is behind it.
* `lines_append_inj`: **lines say which tree they are the lines of**, and where they end.
* `eq_of_render_eq`: trees with one rendering are one tree.
-/

namespace Orchestrator
namespace SettingsTree

/-! ## The lines of a tree -/

/-- A line of a rendering: how deep it is, and what stands behind the dash. -/
structure Line where
  depth : Nat
  text : List Char

/-- The characters of a line, with the line feed at its end. -/
def Line.written (l : Line) : List Char :=
  List.replicate (2 * l.depth) ' ' ++ '-' :: ' ' :: (l.text ++ ['\n'])

/-- The name of a node, with a colon when it has children. -/
def heading (t : SettingsTree) : List Char :=
  t.key.toList ++ if t.children.isEmpty then [] else [':']

mutual

/-- The lines of a tree at a depth. -/
def lines (depth : Nat) : SettingsTree → List Line
  | .node k cs => ⟨depth, heading (.node k cs)⟩ :: linesOfAll (depth + 1) cs

/-- The lines of a list of trees at a depth. -/
def linesOfAll (depth : Nat) : List SettingsTree → List Line
  | [] => []
  | t :: ts => lines depth t ++ linesOfAll depth ts

end

variable {l m : Line} {x y : List Char} {d : Nat} {rest rest' : List Line}

theorem heading_node_inj {k k' : String} {cs : List SettingsTree}
    (h : heading (node k cs) = heading (node k' cs)) : k = k' :=
  String.toList_inj.1 (List.append_cancel_right h)

theorem notMem_heading {t : SettingsTree} (h : '\n' ∉ t.key.toList) : '\n' ∉ t.heading := by
  rw [heading, List.mem_append, not_or]
  refine ⟨h, ?_⟩
  split <;> decide

/-- The line of a node. -/
theorem toList_renderLine {indent : String} (h : indent.toList = List.replicate (2 * d) ' ')
    (k : String) (cs : List SettingsTree) :
    (indent ++ "- " ++ k ++ (if cs.isEmpty then "" else ":") ++ "\n").toList =
      Line.written ⟨d, heading (node k cs)⟩ := by
  cases cs <;> simp [Line.written, heading, h]

mutual

/-- A rendering writes the lines of the tree, two spaces for each level. -/
theorem toList_renderAt : ∀ (t : SettingsTree) {d : Nat} {indent : String},
    indent.toList = List.replicate (2 * d) ' ' →
      (renderAt indent t).toList = (lines d t).flatMap Line.written
  | .node k cs, d, indent, h => by
    have hnested : (indent ++ "  ").toList = List.replicate (2 * (d + 1)) ' ' := by
      rw [String.toList_append, h, Nat.mul_succ, List.replicate_add]
      rfl
    rw [renderAt, lines, List.flatMap_cons, String.toList_append, toList_renderLine h,
      toList_renderAll cs hnested]

/-- The renderings of trees write the lines of the trees. -/
theorem toList_renderAll : ∀ (ts : List SettingsTree) {d : Nat} {indent : String},
    indent.toList = List.replicate (2 * d) ' ' →
      (renderAll indent ts).toList = (linesOfAll d ts).flatMap Line.written
  | [], _, _, _ => rfl
  | t :: ts, d, indent, h => by
    rw [renderAll, linesOfAll, List.flatMap_append, String.toList_append, toList_renderAt t h,
      toList_renderAll ts h]

end

theorem toList_render (t : SettingsTree) : t.render.toList = (lines 0 t).flatMap Line.written := by
  have hnothing : "".toList = List.replicate (2 * 0) ' ' := rfl
  exact toList_renderAt t hnothing

mutual

/-- Every line is the line of a node. -/
theorem exists_of_mem_lines : ∀ (t : SettingsTree) {d : Nat}, l ∈ lines d t →
    ∃ n ∈ t.nodes, l.text = n.heading
  | .node k cs, d, h => by
    rw [lines] at h
    rw [nodes]
    rcases List.mem_cons.1 h with rfl | h
    · exact ⟨.node k cs, List.mem_cons_self, rfl⟩
    · obtain ⟨n, hn, htext⟩ := exists_of_mem_linesOfAll cs h
      exact ⟨n, List.mem_cons_of_mem _ hn, htext⟩

/-- Every line of some trees is the line of a node. -/
theorem exists_of_mem_linesOfAll : ∀ (ts : List SettingsTree) {d : Nat}, l ∈ linesOfAll d ts →
    ∃ n ∈ nodesOfAll ts, l.text = n.heading
  | [], _, h => by cases h
  | t :: ts, d, h => by
    rw [linesOfAll] at h
    rw [nodesOfAll]
    rcases List.mem_append.1 h with h | h
    · obtain ⟨n, hn, htext⟩ := exists_of_mem_lines t h
      exact ⟨n, List.mem_append_left _ hn, htext⟩
    · obtain ⟨n, hn, htext⟩ := exists_of_mem_linesOfAll ts h
      exact ⟨n, List.mem_append_right _ hn, htext⟩

end

/-! ## From a text to its lines -/

/-- Lists that are divided where an element stands first are divided in one way. -/
theorem eq_and_eq_of_append_cons {α : Type} {a : α} {as bs cs ds : List α} (ha : a ∉ as)
    (hc : a ∉ cs) (h : as ++ a :: bs = cs ++ a :: ds) : as = cs ∧ bs = ds := by
  induction as generalizing cs with
  | nil =>
    cases cs with
    | nil => exact ⟨rfl, (List.cons.inj h).2⟩
    | cons c cs => exact absurd (List.mem_cons.2 (Or.inl (List.cons.inj h).1)) hc
  | cons b as ih =>
    cases cs with
    | nil => exact absurd (List.mem_cons.2 (Or.inl (List.cons.inj h).1.symm)) ha
    | cons c cs =>
      obtain ⟨hbc, hrest⟩ := List.cons.inj h
      obtain ⟨has, hbs⟩ := ih (List.not_mem_of_not_mem_cons ha) (List.not_mem_of_not_mem_cons hc)
        hrest
      exact ⟨by rw [hbc, has], hbs⟩

/-- **A line is told apart from what is behind it**: the dash ends the indentation, and the first
line feed the line. -/
theorem Line.written_append_inj (hl : '\n' ∉ l.text) (hm : '\n' ∉ m.text)
    (h : l.written ++ x = m.written ++ y) : l = m ∧ x = y := by
  have hspaces : ∀ n, '-' ∉ List.replicate n ' ' := by simp
  obtain ⟨depth, text⟩ := l
  obtain ⟨depth', text'⟩ := m
  simp only [written, List.append_assoc, List.cons_append, List.nil_append] at h
  obtain ⟨hindent, hbehind⟩ := eq_and_eq_of_append_cons (hspaces _) (hspaces _) h
  obtain ⟨htext, hxy⟩ : text = text' ∧ x = y :=
    eq_and_eq_of_append_cons hl hm (List.cons.inj hbehind).2
  have hdepth : 2 * depth = 2 * depth' := by simpa using congrArg List.length hindent
  exact ⟨by rw [Nat.eq_of_mul_eq_mul_left (by decide) hdepth, htext], hxy⟩

theorem Line.written_ne_nil (l : Line) : l.written ≠ [] := by
  simp [written]

/-- A text of lines is the text of no other lines. -/
theorem eq_of_flatMap_written_eq {ls ms : List Line} (hls : ∀ l ∈ ls, '\n' ∉ l.text)
    (hms : ∀ m ∈ ms, '\n' ∉ m.text) (h : ls.flatMap Line.written = ms.flatMap Line.written) :
    ls = ms := by
  induction ls generalizing ms with
  | nil =>
    cases ms with
    | nil => rfl
    | cons m ms => exact absurd (List.append_eq_nil_iff.1 h.symm).1 m.written_ne_nil
  | cons l ls ih =>
    cases ms with
    | nil => exact absurd (List.append_eq_nil_iff.1 h).1 l.written_ne_nil
    | cons m ms =>
      rw [List.flatMap_cons, List.flatMap_cons] at h
      obtain ⟨rfl, hrest⟩ := Line.written_append_inj (hls l List.mem_cons_self)
        (hms m List.mem_cons_self) h
      rw [ih (fun l' hl' => hls l' (List.mem_cons_of_mem l hl'))
        (fun m' hm' => hms m' (List.mem_cons_of_mem l hm')) hrest]

/-! ## From lines to their tree -/

/-- Whether lines do not begin as deep as a depth, or deeper. -/
def EndsAbove (d : Nat) (rest : List Line) : Prop :=
  ∀ l ∈ rest.head?, l.depth < d

theorem head?_lines (d : Nat) (t : SettingsTree) : (lines d t).head? = some ⟨d, t.heading⟩ := by
  obtain ⟨k, cs⟩ := t
  rw [lines, List.head?_cons]

/-- The line of a tree ends what is deeper. -/
theorem not_endsAbove_lines_append (t : SettingsTree) : ¬ EndsAbove d (lines d t ++ rest) := by
  intro h
  have hhead : (⟨d, t.heading⟩ : Line) ∈ (lines d t ++ rest).head? := by
    rw [List.head?_append, head?_lines]
    rfl
  exact Nat.lt_irrefl d (h _ hhead)

theorem EndsAbove.linesOfAll_append (h : EndsAbove d rest) (ts : List SettingsTree) :
    EndsAbove (d + 1) (linesOfAll d ts ++ rest) := by
  intro l hl
  cases ts with
  | nil => exact Nat.lt_succ_of_lt (h l hl)
  | cons t ts =>
    rw [linesOfAll, List.append_assoc, List.head?_append, head?_lines] at hl
    cases hl
    exact Nat.lt_succ_self d

mutual

/-- **Lines say which tree they are the lines of**, when what is behind them is not deeper than the
tree.  The children come first: with them the name is what the line leaves for it. -/
theorem lines_append_inj : ∀ (t u : SettingsTree) {d : Nat} {rest rest' : List Line},
    lines d t ++ rest = lines d u ++ rest' → EndsAbove (d + 1) rest → EndsAbove (d + 1) rest' →
      t = u ∧ rest = rest'
  | .node k cs, .node k' cs', d, rest, rest', h, hrest, hrest' => by
    rw [lines, lines, List.cons_append, List.cons_append, List.cons.injEq, Line.mk.injEq] at h
    obtain ⟨⟨-, hheading⟩, hbelow⟩ := h
    obtain ⟨rfl, rfl⟩ := linesOfAll_append_inj cs cs' hbelow hrest hrest'
    exact ⟨by rw [heading_node_inj hheading], rfl⟩

/-- Lines say which trees they are the lines of. -/
theorem linesOfAll_append_inj : ∀ (ts us : List SettingsTree) {d : Nat} {rest rest' : List Line},
    linesOfAll d ts ++ rest = linesOfAll d us ++ rest' → EndsAbove d rest → EndsAbove d rest' →
      ts = us ∧ rest = rest'
  | [], [], _, _, _, h, _, _ => ⟨rfl, h⟩
  | [], u :: us, d, rest, rest', h, hrest, _ => by
    rw [linesOfAll, List.nil_append, linesOfAll, List.append_assoc] at h
    exact absurd (h ▸ hrest) (not_endsAbove_lines_append u)
  | t :: ts, [], d, rest, rest', h, _, hrest' => by
    rw [linesOfAll, linesOfAll, List.nil_append, List.append_assoc] at h
    exact absurd (h ▸ hrest') (not_endsAbove_lines_append t)
  | t :: ts, u :: us, d, rest, rest', h, hrest, hrest' => by
    rw [linesOfAll, linesOfAll, List.append_assoc, List.append_assoc] at h
    obtain ⟨rfl, hbehind⟩ := lines_append_inj t u h (hrest.linesOfAll_append ts)
      (hrest'.linesOfAll_append us)
    obtain ⟨rfl, rfl⟩ := linesOfAll_append_inj ts us hbehind hrest hrest'
    exact ⟨rfl, rfl⟩

end

/-! ## Trees with one rendering -/

/-- **Trees with one rendering are one tree**, in all names, in the order of siblings and in the
siblings that share a name, as long as no name holds a line feed. -/
theorem eq_of_render_eq {a b : SettingsTree} (ha : ∀ n ∈ a.nodes, '\n' ∉ n.key.toList)
    (hb : ∀ n ∈ b.nodes, '\n' ∉ n.key.toList) (h : a.render = b.render) : a = b := by
  have hfeeds : ∀ t : SettingsTree, (∀ n ∈ t.nodes, '\n' ∉ n.key.toList) →
      ∀ l ∈ lines 0 t, '\n' ∉ l.text := by
    intro t ht l hl
    obtain ⟨n, hn, htext⟩ := exists_of_mem_lines t hl
    rw [htext]
    exact notMem_heading (ht n hn)
  have hwritten : (lines 0 a).flatMap Line.written = (lines 0 b).flatMap Line.written := by
    rw [← toList_render, ← toList_render, h]
  have hlines : lines 0 a = lines 0 b :=
    eq_of_flatMap_written_eq (hfeeds a ha) (hfeeds b hb) hwritten
  have hnone : EndsAbove 1 [] := nofun
  exact (lines_append_inj a b (congrArg (· ++ []) hlines) hnone hnone).1

/-- Names that look like parts of a rendering, given in two ways. -/
theorem eq_of_render_eq_lookalikes :
    let a := node "build:" [leaf "- make", node "" [leaf ":", leaf ":"]]
    let b := modifyAt (appendLeaves [":", ":"]) [""] (node "build:" [leaf "- make"])
    (∀ n ∈ a.nodes, '\n' ∉ n.key.toList) ∧ (∀ n ∈ b.nodes, '\n' ∉ n.key.toList) ∧
      a.render = b.render ∧ a = b := by
  intro a b
  have ha : ∀ n ∈ a.nodes, '\n' ∉ n.key.toList := by decide
  have hb : ∀ n ∈ b.nodes, '\n' ∉ n.key.toList := by decide
  have hrender : a.render = b.render := by decide
  exact ⟨ha, hb, hrender, eq_of_render_eq ha hb hrender⟩

/-- A name with a line feed may look like more than one node. -/
example : (leaf "build:\n  - make").render = (node "build" [leaf "make"]).render := by decide

end SettingsTree
end Orchestrator
