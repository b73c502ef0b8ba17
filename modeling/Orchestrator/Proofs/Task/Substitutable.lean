import Orchestrator.Proofs.Pattern.Product
import Orchestrator.Proofs.Plugin.Plans
import Orchestrator.Proofs.Task.Layers
import Orchestrator.Proofs.Task.Overlay

/-!
# Which patterns are substitutable

A pattern may have any name, but only a key can stand in a placeholder: at least one character, and
neither braces nor blanks.  This alone decides what becomes of the placeholder of a pattern in a
task.

Of a key it is found wherever it stands.  What is before it does not matter, as an open brace ends
whatever may have been opened before: a text is read up to an open brace as it is read without what
follows, which is `Placeholder.Reads.append_openBrace`.  Of any other name it is never found.  The
pattern still is a factor in the number of combinations, so that a task that is expanded by it comes
once for each of its values, and always as it was, apart from a working directory that is no text.

* `replacePlaceholders_braced`: **the placeholder of a key is filled**, in any text.
* `replacePlaceholders_of_not_isKey`: what is bound to other names is never used.
* `Pattern.Substitutable`, `Pattern.registered_substitutable`: **which registered patterns are
  substitutable**, and what an expansion makes of either kind.
* `Pattern.blank_in_name_not_substitutable`: a pattern with a blank in its name is accepted.
-/

namespace Orchestrator
namespace Placeholder

variable {cs key rest : List Char} {pieces more : List Piece} {binding : String → Option String}

/-! ## Up to an open brace -/

/-- What is opened is closed before the next open brace, as there is none in a key. -/
theorem Opens.of_append_openBrace (h : Opens (cs ++ '{' :: rest)) : Opens cs := by
  obtain ⟨key, rest', hkey, heq⟩ := h
  rcases List.append_eq_append_iff.1 heq with ⟨inside, hinside, hrest⟩ | ⟨behind, hcs, hrest⟩
  · -- the open brace would be in the key, or in the place of the closing one
    cases inside with
    | nil => cases hrest
    | cons c inside =>
      obtain ⟨hc, -⟩ := List.cons.inj hrest
      have hmem : '{' ∈ key := by
        rw [hinside, hc]
        exact List.mem_append_right cs List.mem_cons_self
      exact absurd rfl (hkey.chars '{' hmem).1
  · cases behind with
    | nil => cases hrest
    | cons c behind =>
      obtain ⟨hc, -⟩ := List.cons.inj hrest
      exact ⟨key, behind, hkey, by rw [hcs, hc]⟩

/-- **A text is read up to an open brace** as it is read without what follows. -/
theorem Reads.append_openBrace (h : Reads cs pieces) (hrest : Reads ('{' :: rest) more) :
    Reads (cs ++ '{' :: rest) (pieces ++ more) := by
  induction h with
  | nil => exact hrest
  | @placeholder key cs pieces hkey h ih =>
    have hassoc : '{' :: (key ++ '}' :: cs) ++ '{' :: rest =
        '{' :: (key ++ '}' :: (cs ++ '{' :: rest)) := by simp
    rw [hassoc]
    exact .placeholder hkey ih
  | char hc h ih => exact .char (fun hbrace hopens => hc hbrace hopens.of_append_openBrace) ih

theorem replaceAll_append_openBrace (cs rest : List Char) :
    replaceAll binding (cs ++ '{' :: rest) =
      replaceAll binding cs ++ replaceAll binding ('{' :: rest) := by
  obtain ⟨pieces, hpieces⟩ := exists_reads cs
  obtain ⟨more, hmore⟩ := exists_reads ('{' :: rest)
  rw [(hpieces.append_openBrace hmore).replaceAll_eq, hpieces.replaceAll_eq, hmore.replaceAll_eq,
    List.flatMap_append]

/-! ## Names and keys -/

/-- Only keys are read as placeholders. -/
theorem Reads.isKey_of_mem (h : Reads cs pieces) (hmem : Piece.placeholder key ∈ pieces) :
    IsKey key := by
  induction h with
  | nil => cases hmem
  | placeholder hkey h ih =>
    rcases List.mem_cons.1 hmem with heq | hmem
    · cases heq
      exact hkey
    · exact ih hmem
  | char hc h ih =>
    rcases List.mem_cons.1 hmem with heq | hmem
    · cases heq
    · exact ih hmem

theorem isKey_iff : IsKey key ↔ (!key.isEmpty && key.all isKeyChar) = true := by
  rw [Bool.and_eq_true, Bool.not_eq_true', List.isEmpty_eq_false_iff, List.all_eq_true]
  constructor
  · intro h
    exact ⟨h.ne_nil, fun c hc => isKeyChar_iff.2 (h.chars c hc)⟩
  · rintro ⟨hne, hchars⟩
    exact ⟨hne, fun c hc => isKeyChar_iff.1 (hchars c hc)⟩

instance (key : List Char) : Decidable (IsKey key) :=
  decidable_of_iff _ isKey_iff.symm

/-- A name between braces. -/
def braced (name : String) : String :=
  "\x7b" ++ name ++ "\x7d"

theorem toList_braced (name : String) : (braced name).toList = '{' :: (name.toList ++ ['}']) := by
  rw [braced, String.toList_append, String.toList_append]
  rfl

/-- Whether there are no braces in a text. -/
structure Plain (text : String) : Prop where
  no_open : '{' ∉ text.toList
  no_close : '}' ∉ text.toList

end Placeholder

open Placeholder

variable {c : Combination} {key name v : String}

/-- **The placeholder of a key is filled**, whatever is before it and behind it. -/
theorem replacePlaceholders_braced (hkey : IsKey key.toList) (hv : c.get? key = some v)
    (before after : String) :
    replacePlaceholders c (before ++ braced key ++ after) =
      replacePlaceholders c before ++ v ++ replacePlaceholders c after := by
  have htext : (before ++ braced key ++ after).toList =
      before.toList ++ '{' :: (key.toList ++ '}' :: after.toList) := by
    rw [String.toList_append, String.toList_append, toList_braced]
    simp
  have hfilled : Piece.filled c.get? (.placeholder key.toList) = v.toList := by
    rw [Piece.filled, String.ofList_toList, hv]
  refine String.toList_injective ?_
  rw [String.toList_append, String.toList_append, replacePlaceholders, replacePlaceholders,
    replacePlaceholders, String.toList_ofList, String.toList_ofList, String.toList_ofList, htext,
    replaceAll_append_openBrace, replaceAll_placeholder hkey, hfilled, List.append_assoc]

/-- What is bound to names that are no keys is never used. -/
theorem replacePlaceholders_of_not_isKey
    (hc : ∀ name v, c.get? name = some v → ¬ IsKey name.toList) (text : String) :
    replacePlaceholders c text = text := by
  obtain ⟨pieces, hpieces⟩ := exists_reads text.toList
  rw [replacePlaceholders, hpieces.replaceAll_eq_self fun key hkey => ?_, String.ofList_toList]
  refine Option.eq_none_iff_forall_ne_some.2 fun v hv => hc _ v hv ?_
  rw [String.toList_ofList]
  exact hpieces.isKey_of_mem hkey

/-! ## Combinations of patterns -/

namespace Combination

theorem get?_ofList_singleton (name v other : String) :
    (KeyedMap.ofList [(name, v)] : Combination).get? other =
      if name = other then some v else none := by
  rw [KeyedMap.ofList, KeyedMap.extend_cons, KeyedMap.extend_nil, KeyedMap.get?_insert,
    KeyedMap.get?_empty]

/-- The combinations of one pattern are its values, one by one. -/
theorem ofPatterns_singleton (p : Pattern) :
    ofPatterns [p] = p.values.map fun v => .ofList [(p.key, v)] := by
  have haxes : (axes [p]).entries = [(p.key, p.values)] := rfl
  simp only [ofPatterns, ofAxes, haxes, product, List.map_singleton, List.map_flatMap]
  exact List.flatMap_pure_eq_map _ _

end Combination

namespace Pattern

/-! ## Patterns -/

/-- Whether the values of a pattern are put in the place of its name between braces, in any text
that has no other braces. -/
def Substitutable (p : Pattern) : Prop :=
  ∀ v ∈ p.values, ∀ pre post, Plain pre → Plain post →
    replacePlaceholders (.ofList [(p.key, v)]) (pre ++ braced p.key ++ post) = pre ++ v ++ post

variable {p : Pattern}

theorem substitutable_of_isKey (hkey : IsKey p.key.toList) : p.Substitutable := by
  intro v hv pre post hpre hpost
  have hbound : (KeyedMap.ofList [(p.key, v)] : Combination).get? p.key = some v := by
    rw [Combination.get?_ofList_singleton, if_pos rfl]
  rw [replacePlaceholders_braced hkey hbound, replacePlaceholders_of_notMem _ hpre.no_open,
    replacePlaceholders_of_notMem _ hpost.no_open]

/-- A value of a pattern whose name is no key is never put in. -/
theorem replacePlaceholders_singleton (hname : ¬ IsKey p.key.toList) (v text : String) :
    replacePlaceholders (.ofList [(p.key, v)]) text = text := by
  refine replacePlaceholders_of_not_isKey (fun name w hw => ?_) text
  rw [Combination.get?_ofList_singleton] at hw
  by_cases h : p.key = name
  · exact h ▸ hname
  · rw [if_neg h] at hw
    cases hw

/-- Such a value leaves a task as it is, with its working directory shown as a text. -/
theorem substitute_singleton (hname : ¬ IsKey p.key.toList) (v : String) (t : Task) :
    t.substitute (.ofList [(p.key, v)]) = t.legible := by
  have hself : replacePlaceholders (.ofList [(p.key, v)]) = id :=
    funext (replacePlaceholders_singleton hname v)
  have hlegible : Path.replacePlaceholders (.ofList [(p.key, v)]) = Path.legible :=
    funext fun dir => congrArg Path.ofText (replacePlaceholders_singleton hname v dir.text)
  show t.replaced (.ofList [(p.key, v)]) = t.legible
  rw [Task.replaced, hself, hlegible, List.map_id, KeyedMap.mapValues_eq_self fun _ _ => rfl]
  rfl

/-- Patterns whose names are keys are substitutable, and no others, unless each of their values is
their own placeholder. -/
theorem substitutable_iff :
    p.Substitutable ↔ IsKey p.key.toList ∨ ∀ v ∈ p.values, v = braced p.key := by
  by_cases hkey : IsKey p.key.toList
  · exact iff_of_true (substitutable_of_isKey hkey) (Or.inl hkey)
  · rw [or_iff_right hkey]
    constructor
    · intro h v hv
      have hplain : Plain "" := ⟨List.not_mem_nil, List.not_mem_nil⟩
      have hempty := h v hv "" "" hplain hplain
      rw [replacePlaceholders_singleton hkey] at hempty
      simpa using hempty.symm
    · intro h v hv pre post _ _
      rw [replacePlaceholders_singleton hkey, ← h v hv]

theorem key_of_make {key : String} {values : List String} {short : Option Char}
    {long : Option String} (h : make key values short long = .ok p) : p.key = key := by
  rw [make] at h
  split at h
  · cases h
  · cases h
    rfl

/-- The name of a pattern does not decide whether it is accepted. -/
theorem exists_make_eq_ok (p : Pattern) (name : String) :
    ∃ q, make name p.values p.shortOption p.longOption = .ok q ∧ q.key = name := by
  rw [make, dif_neg p.values_ne_nil]
  exact ⟨_, rfl, rfl⟩

theorem key_of_ofDefinition {key : String} {definition : SettingsTree}
    (h : ofDefinition key definition = .ok p) : p.key = key := by
  obtain ⟨values, -, h⟩ := bind_eq_ok_iff.1 h
  obtain ⟨short, -, h⟩ := bind_eq_ok_iff.1 h
  obtain ⟨long, -, h⟩ := bind_eq_ok_iff.1 h
  exact key_of_make h

/-- **Which registered patterns are substitutable.**  A pattern keeps the name that it is made or
defined with, and any other name would have been accepted as well.  If the name is a key, the
pattern is substitutable, and in each copy of a task that is expanded by this and other patterns,
every placeholder of the name is filled by a value of a selected pattern of that name, wherever it
stands.  If the name is no key, the pattern is substitutable only if each of its values is the name
between braces, and a task that is expanded by it comes once for each of its values, and always as
it was, but for a working directory that is no text, of which the text is left. -/
theorem registered_substitutable (key : String) (values : List String) (short : Option Char)
    (long : Option String) (definition : SettingsTree)
    (hp : make key values short long = .ok p ∨ ofDefinition key definition = .ok p) :
    p.key = key ∧
      (∀ name, ∃ q, make name p.values p.shortOption p.longOption = .ok q ∧ q.key = name) ∧
      (p.Substitutable ↔ IsKey key.toList ∨ ∀ v ∈ p.values, v = braced key) ∧
      (IsKey key.toList → ∀ (t : Task) (selected : List Pattern), p ∈ selected →
        ∀ copy ∈ t.expand selected, ∃ c : Combination,
          copy =
            { args := t.args.map (replacePlaceholders c)
              env := t.env.mapValues (replacePlaceholders c)
              workingDir := t.workingDir.map (Path.replacePlaceholders c) } ∧
          ∃ q ∈ selected, q.key = key ∧ ∃ v ∈ q.values, ∀ before after,
            replacePlaceholders c (before ++ braced key ++ after) =
              replacePlaceholders c before ++ v ++ replacePlaceholders c after) ∧
      (¬ IsKey key.toList → ∀ t : Task,
        t.expand [p] = List.replicate p.values.length t.legible ∧
          ((∀ dir, t.workingDir = some dir → ∃ text, dir = .ofText text) →
            t.expand [p] = List.replicate p.values.length t)) := by
  obtain rfl : p.key = key := hp.elim key_of_make key_of_ofDefinition
  refine ⟨rfl, exists_make_eq_ok p, substitutable_iff,
    fun hkey t selected hmem copy hcopy => ?_, fun hkey t => ?_⟩
  · obtain ⟨c, hc, rfl⟩ := List.mem_map.1 hcopy
    obtain ⟨q, hq, hqkey, v, hv, hbound⟩ := Combination.exists_get?_of_mem_ofPatterns hmem hc
    have hbinds : c ≠ .empty := by
      rintro rfl
      cases hbound
    exact ⟨c, Task.substitute_of_ne_empty hbinds t, q, hq, hqkey, v, hv,
      replacePlaceholders_braced hkey hbound⟩
  · have hcopies : t.expand [p] = List.replicate p.values.length t.legible := by
      rw [Task.expand, Combination.ofPatterns_singleton, List.map_map]
      exact (List.map_congr_left fun v _ => substitute_singleton hkey v t).trans List.map_const'
    refine ⟨hcopies, fun hdir => ?_⟩
    rw [hcopies, Task.legible_eq_self hdir]

/-- A task is expanded by a pattern that is named as it should be, and by one with a blank in its
name. -/
theorem registered_substitutable_compiler :
    let compiler : Pattern := ⟨"COMPILER", ["gcc", "clang"], some 'c', none, List.cons_ne_nil _ _⟩
    let blank : Pattern := ⟨"MY KEY", ["x", "y"], none, none, List.cons_ne_nil _ _⟩
    let t := Task.ofArgs ["make", "-C", "build/{COMPILER}/{MY KEY}"]
    make "COMPILER" ["gcc", "clang"] (some 'c') none = .ok compiler ∧ IsKey "COMPILER".toList ∧
      compiler.Substitutable ∧ compiler ∈ [compiler] ∧
      (∀ copy ∈ t.expand [compiler], ∃ c : Combination,
        copy.args = t.args.map (replacePlaceholders c) ∧
          ∃ v ∈ ["gcc", "clang"], ∀ before after,
            replacePlaceholders c (before ++ braced "COMPILER" ++ after) =
              replacePlaceholders c before ++ v ++ replacePlaceholders c after) ∧
      ofDefinition "MY KEY" blank.definition = .ok blank ∧ ¬ IsKey "MY KEY".toList ∧
      t.expand [blank] = [t, t] := by
  intro compiler blank t
  have hmade : make "COMPILER" ["gcc", "clang"] (some 'c') none = .ok compiler := rfl
  have hdefined : ofDefinition "MY KEY" blank.definition = .ok blank := rfl
  have hkey : IsKey "COMPILER".toList := by decide
  have hname : ¬ IsKey "MY KEY".toList := by decide
  have hselected : compiler ∈ [compiler] := List.mem_singleton.2 rfl
  obtain ⟨-, -, hiff, hfilled, -⟩ := registered_substitutable "COMPILER" ["gcc", "clang"] (some 'c')
    none compiler.definition (Or.inl hmade)
  obtain ⟨-, -, -, -, hcopied⟩ := registered_substitutable "MY KEY" ["x", "y"] none none
    blank.definition (Or.inr hdefined)
  refine ⟨hmade, hkey, hiff.2 (Or.inl hkey), hselected, fun copy hcopy => ?_, hdefined, hname,
    (hcopied hname t).2 fun dir hdir => by cases hdir⟩
  obtain ⟨c, rfl, q, hq, -, v, hv, hfill⟩ := hfilled hkey t [compiler] hselected copy hcopy
  obtain rfl := List.mem_singleton.1 hq
  exact ⟨c, rfl, v, hv, hfill⟩

/-- A pattern with a blank in its name is accepted, made or defined.  Its placeholder is left in,
and the task comes twice. -/
theorem blank_in_name_not_substitutable :
    let blank : Pattern := ⟨"MY KEY", ["gcc", "clang"], none, none, List.cons_ne_nil _ _⟩
    let definition := SettingsTree.node "MY KEY"
      [.node "default-values" [.leaf "gcc", .leaf "clang"]]
    let t := Task.ofArgs ["cc", "{MY KEY}"]
    make "MY KEY" ["gcc", "clang"] none none = .ok blank ∧
      ofDefinition "MY KEY" definition = .ok blank ∧
      replacePlaceholders (.ofList [("MY KEY", "gcc")]) (braced "MY KEY") = "{MY KEY}" ∧
      ¬ blank.Substitutable ∧ t.expand [blank] = [t, t] := by
  intro blank definition t
  have hname : ¬ IsKey blank.key.toList := by decide
  refine ⟨rfl, rfl, replacePlaceholders_singleton hname "gcc" _, fun h => ?_, by decide +kernel⟩
  rcases substitutable_iff.1 h with hkey | hself
  · exact hname hkey
  · exact absurd (hself "gcc" List.mem_cons_self) (by decide)

end Pattern
end Orchestrator
