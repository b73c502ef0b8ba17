import Orchestrator.Proofs.Pattern.Product
import Orchestrator.Task.Basic

/-!
# One task laid over another

A plugin adds to the task that it is given: arguments behind the arguments, variables over the
variables, a working directory in the place of the working directory.  What it adds is a task by
itself, the one that it makes of nothing, and `Task.overlay` lays this over the task that it was
given.

Whatever builds tasks passes through an overlay.  For most of it this is immediate, but the
replacement of placeholders looks at the whole task.  In a lower one without open braces, which is
`Task.BraceFree`, it finds nothing to replace.  All the same it leaves a trace: it reads the working
directory as a text and writes this text back, so that a path that is no text becomes another one.

* `Task.overlay`: the upper task over the lower one.
* `overlay_append`, `overlay_appendAll`, `overlay_extendEnv`, `overlay_setWorkingDir`: building the
  upper task builds the overlay.
* `Task.legible`, `Task.shown`: a task whose working directory was shown as a text.
* `BraceFree.substitute_overlay`, `BraceFree.expand_overlay`: **placeholders are replaced in the
  upper task only**, and the directory of the lower one is shown as a text.
* `Layer`: an upper task that may have shown the directory below.
-/

namespace Orchestrator

/-! ## Texts without braces -/

namespace Placeholder

/-- Without an open brace there is nothing to replace. -/
theorem replaceAll_of_notMem (binding : String → Option String) {cs : List Char} (h : '{' ∉ cs) :
    replaceAll binding cs = cs := by
  induction cs with
  | nil => rw [replaceAll]
  | cons c cs ih =>
    have hc : c ≠ '{' := fun hc => h (hc ▸ List.mem_cons_self)
    rw [replaceAll, if_neg hc, ih fun hcs => h (List.mem_cons_of_mem c hcs)]

end Placeholder

theorem replacePlaceholders_of_notMem (c : Combination) {text : String} (h : '{' ∉ text.toList) :
    replacePlaceholders c text = text := by
  rw [replacePlaceholders, Placeholder.replaceAll_of_notMem _ h, String.ofList_toList]

namespace Task

/-! ## Overlays -/

/-- A task with another one laid over it: the arguments come one behind the other, and the variables
and the working directory of the upper one win. -/
def overlay (t u : Task) : Task where
  args := t.args ++ u.args
  env := t.env.overlay u.env
  workingDir := u.workingDir.or t.workingDir

variable (t u : Task)

@[simp] theorem overlay_empty : t.overlay empty = t := by
  obtain ⟨args, env, dir⟩ := t
  show (⟨args ++ [], _, _⟩ : Task) = _
  rw [List.append_nil]
  rfl

theorem overlay_append (arg : String) : (t.overlay u).append arg = t.overlay (u.append arg) := by
  simp only [overlay, append, List.append_assoc]

theorem overlay_appendAll (args : List String) :
    (t.overlay u).appendAll args = t.overlay (u.appendAll args) := by
  simp only [overlay, appendAll, List.append_assoc]

theorem overlay_extendEnv (env : List (String × String)) :
    (t.overlay u).extendEnv env = t.overlay (u.extendEnv env) := by
  simp only [overlay, extendEnv, KeyedMap.overlay_extend]

theorem overlay_setWorkingDir (dir : Path) :
    (t.overlay u).setWorkingDir dir = t.overlay (u.setWorkingDir dir) := by
  simp only [overlay, setWorkingDir, KeyedMap.overlay_insert, Option.some_or]

/-! ## Directories shown as texts -/

/-- The task that is left of a task once its working directory was shown as a text. -/
def legible (t : Task) : Task :=
  { t with workingDir := t.workingDir.map Path.legible }

/-- The task, or what is left of it once its working directory was shown as a text. -/
def shown (isShown : Bool) (t : Task) : Task :=
  if isShown then t.legible else t

/-- A task whose working directory is a text stays as it is. -/
theorem legible_eq_self {t : Task}
    (h : ∀ dir, t.workingDir = some dir → ∃ text, dir = .ofText text) : t.legible = t := by
  have hdir : t.workingDir.map Path.legible = t.workingDir := by
    cases hwd : t.workingDir with
    | none => rfl
    | some dir =>
      obtain ⟨text, rfl⟩ := h dir hwd
      exact congrArg some (Path.legible_ofText text)
  rw [legible, hdir]

theorem legible_legible (t : Task) : t.legible.legible = t.legible := by
  have hdir : (t.workingDir.map Path.legible).map Path.legible = t.workingDir.map Path.legible := by
    rw [Option.map_map]
    exact Option.map_congr fun dir _ => dir.legible_legible
  show ({ t with workingDir := _ } : Task) = _
  rw [legible, hdir]

/-- A directory that was shown as a text stays as it is from then on. -/
theorem shown_shown (a b : Bool) (t : Task) : (t.shown a).shown b = t.shown (a || b) := by
  cases a
  · rfl
  · cases b
    · rfl
    · exact t.legible_legible

/-! ## Placeholders -/

/-- Whether no text of a task has an open brace. -/
structure BraceFree (t : Task) : Prop where
  args : ∀ arg ∈ t.args, '{' ∉ arg.toList
  env : ∀ e ∈ t.env.entries, '{' ∉ e.2.toList
  workingDir : ∀ dir, t.workingDir = some dir → '{' ∉ dir.text.toList

theorem braceFree_empty : BraceFree empty where
  args _ h := by cases h
  env _ h := by cases h
  workingDir _ h := by cases h

variable {t}

/-- The text of a directory is the same when the directory was shown as a text. -/
theorem BraceFree.shown (ht : t.BraceFree) (isShown : Bool) : (t.shown isShown).BraceFree := by
  cases isShown with
  | false => exact ht
  | true =>
    refine ⟨ht.args, ht.env, fun dir hdir => ?_⟩
    obtain ⟨below, hbelow, rfl⟩ := Option.map_eq_some_iff.1 hdir
    rw [Path.text_legible]
    exact ht.workingDir below hbelow

/-- There is nothing to replace in a task without braces, whose directory is shown as a text. -/
theorem BraceFree.replaced_eq (ht : t.BraceFree) (c : Combination) : t.replaced c = t.legible := by
  have hargs : t.args.map (replacePlaceholders c) = t.args := by
    rw [List.map_congr_left fun arg harg => replacePlaceholders_of_notMem c (ht.args arg harg),
      List.map_id']
  have henv : t.env.mapValues (replacePlaceholders c) = t.env :=
    KeyedMap.mapValues_eq_self fun e he => replacePlaceholders_of_notMem c (ht.env e he)
  have hdir : t.workingDir.map (Path.replacePlaceholders c) = t.workingDir.map Path.legible :=
    Option.map_congr fun dir hdir =>
      congrArg Path.ofText (replacePlaceholders_of_notMem c (ht.workingDir dir hdir))
  rw [replaced, hargs, henv, hdir]
  rfl

theorem BraceFree.substitute_eq (ht : t.BraceFree) (c : Combination) :
    t.substitute c = t.shown !c.isEmpty := by
  rw [substitute, ht.replaced_eq]
  cases c.isEmpty <;> rfl

/-- A replacement passes through an overlay. -/
theorem substitute_overlay (t u : Task) (c : Combination) :
    (t.overlay u).substitute c = (t.substitute c).overlay (u.substitute c) := by
  rw [substitute, substitute, substitute]
  split
  · rfl
  · simp only [overlay, replaced, List.map_append, KeyedMap.mapValues_overlay, Option.map_or]

/-- **Placeholders are replaced in the upper task only**, when there are no braces in the lower
one. -/
theorem BraceFree.substitute_overlay (ht : t.BraceFree) (c : Combination) :
    (t.overlay u).substitute c = (t.shown !c.isEmpty).overlay (u.substitute c) := by
  rw [Task.substitute_overlay, ht.substitute_eq]

/-- An expansion shows the directory of the lower task as a text when there are patterns. -/
theorem BraceFree.expand_overlay (ht : t.BraceFree) (patterns : List Pattern) :
    (t.overlay u).expand patterns =
      (u.expand patterns).map (t.shown !patterns.isEmpty).overlay := by
  rw [expand, expand, List.map_map]
  refine List.map_congr_left fun c hc => ?_
  rw [Function.comp_apply, ht.substitute_overlay, Combination.isEmpty_of_mem_ofPatterns hc]

end Task

/-! ## Layers -/

/-- A task that is laid over others, and whether their working directory was shown as a text
before. -/
structure Layer where
  upper : Task
  isShown : Bool

namespace Layer

/-- A layer on top of a task. -/
def on (l : Layer) (t : Task) : Task :=
  (t.shown l.isShown).overlay l.upper

/-- What a layer makes of a task. -/
theorem on_eq (l : Layer) (t : Task) :
    l.on t = ⟨t.args ++ l.upper.args, t.env.overlay l.upper.env,
      l.upper.workingDir.or (if l.isShown then t.workingDir.map .legible else t.workingDir)⟩ := by
  obtain ⟨upper, isShown⟩ := l
  cases isShown <;> rfl

/-- The layer with nothing in it. -/
def bare : Layer := ⟨.empty, false⟩

@[simp] theorem bare_on (t : Task) : bare.on t = t := t.overlay_empty

/-- A layer on top of nothing is its own task. -/
theorem on_empty (l : Layer) : l.on .empty = l.upper := by
  rw [on_eq]
  show (⟨[] ++ l.upper.args, KeyedMap.empty.overlay l.upper.env,
    l.upper.workingDir.or (if _ then none else none)⟩ : Task) = _
  rw [List.nil_append, KeyedMap.empty_overlay, ite_self, Option.or_none]

end Layer
end Orchestrator
