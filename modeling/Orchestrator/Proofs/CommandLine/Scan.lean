import Orchestrator.CommandLine.Early
import Orchestrator.CommandLine.Grammar

/-!
# The early scan, by the shape of arguments

The early scan compares texts, while the reading of a command line looks at the shape of an argument
first.  Here the scan is said by shapes too, so that both can be followed argument by argument.

* `Setting.letter`, `Setting.longName`: the two names of a setting.
* `Shape.spelling`: how an argument of a shape gives a setting; `Spelling.of_eq` finds this in the
  text of the argument.
* `EarlyOptions.withValue`, `EarlyOptions.valueOf`: what the scan keeps, setting by setting.
* `scanFrom_of_attached`, `scanFrom_of_detached`, `scanFrom_of_listPlugins`, `scanFrom_of_other`,
  `scanFrom_of_endOfOptions`: **one step of the scan**, by what the shape of the argument gives.
-/

namespace Orchestrator
namespace CommandLine

/-- The letter of a setting. -/
def Setting.letter : Setting → Char
  | .jobs => 'j'
  | .settingsFile => 's'
  | .logLevel => 'd'

/-- The long name of a setting. -/
def Setting.longName : Setting → String
  | .jobs => "jobs"
  | .settingsFile => "settings-file"
  | .logLevel => "log-level"

theorem Setting.letter_injective : ∀ {s t : Setting}, s.letter = t.letter → s = t := by
  intro s t
  cases s <;> cases t <;> decide

theorem Setting.longName_injective : ∀ {s t : Setting}, s.longName = t.longName → s = t := by
  intro s t
  cases s <;> cases t <;> decide

theorem Setting.equals_notMem_longName (s : Setting) : '=' ∉ s.longName.toList := by
  cases s <;> decide

/-! ## Spellings -/

/-- How an argument of a shape gives a setting. -/
def Shape.spelling (s : Setting) : Shape → Spelling
  | .long name none => if name = s.longName then .detached else .other
  | .long name (some value) => if name = s.longName then .attached value else .other
  | .short (c :: rest) => if c = s.letter then .afterShort rest else .other
  | _ => .other

/-- The characters before the first equals sign are a name without one exactly when the name is
followed by an equals sign or by nothing. -/
theorem takeWhile_eq_iff {name : List Char} (hname : '=' ∉ name) (rest : List Char) :
    rest.takeWhile (· ≠ '=') = name ↔ rest = name ∨ ∃ value, rest = name ++ '=' :: value := by
  have hall : ∀ c ∈ name, (decide (c ≠ '=')) = true := by
    intro c hc
    exact decide_eq_true fun h => hname (h ▸ hc)
  constructor
  · intro h
    have hsplit := List.takeWhile_append_dropWhile (p := fun c => decide (c ≠ '=')) (l := rest)
    rw [h] at hsplit
    cases hdrop : rest.dropWhile (· ≠ '=') with
    | nil =>
      rw [hdrop, List.append_nil] at hsplit
      exact Or.inl hsplit.symm
    | cons c value =>
      have hc : c = '=' := by
        have hhead := List.head?_dropWhile_not (fun c => decide (c ≠ '=')) rest
        rw [hdrop] at hhead
        simpa using hhead
      rw [hdrop, hc] at hsplit
      exact Or.inr ⟨value, hsplit.symm⟩
  · rintro (rfl | ⟨value, rfl⟩)
    · have happend : (rest ++ []).takeWhile (· ≠ '=') = rest ++ [].takeWhile (· ≠ '=') :=
        List.takeWhile_append_of_pos hall
      simpa using happend
    · rw [List.takeWhile_append_of_pos hall]
      simp

theorem dropWhile_of_equals_notMem {name : List Char} (hname : '=' ∉ name) (rest : List Char) :
    (name ++ rest).dropWhile (· ≠ '=') = rest.dropWhile (· ≠ '=') := by
  refine List.dropWhile_append_of_pos fun c hc => ?_
  exact decide_eq_true fun h => hname (h ▸ hc)

/-- The text behind two dashes gives a setting as its shape says. -/
theorem spelling_long (s : Setting) (rest : List Char) :
    (if s.longName.toList <+: rest then Spelling.afterLong (rest.drop s.longName.toList.length)
      else .other) =
      Shape.spelling s (.long (String.ofList (rest.takeWhile (· ≠ '=')))
        (match rest.dropWhile (· ≠ '=') with
          | [] => none
          | _ :: value => some (String.ofList value))) := by
  have hname := s.equals_notMem_longName
  have hlong : String.ofList (rest.takeWhile (· ≠ '=')) = s.longName ↔
      rest = s.longName.toList ∨ ∃ value, rest = s.longName.toList ++ '=' :: value := by
    rw [← takeWhile_eq_iff hname, ← String.toList_inj, String.toList_ofList]
  by_cases h : rest = s.longName.toList ∨ ∃ value, rest = s.longName.toList ++ '=' :: value
  · rcases h with rfl | ⟨value, rfl⟩
    · have hdrop := dropWhile_of_equals_notMem hname []
      rw [List.append_nil, List.dropWhile_nil] at hdrop
      rw [hdrop, Shape.spelling, if_pos (hlong.2 (Or.inl rfl)), if_pos (List.prefix_rfl),
        List.drop_length]
      rfl
    · have hdrop := dropWhile_of_equals_notMem hname ('=' :: value)
      rw [List.dropWhile_cons_of_neg (by simp)] at hdrop
      rw [hdrop, Shape.spelling, if_pos (hlong.2 (Or.inr ⟨value, rfl⟩)),
        if_pos (List.prefix_append _ _), List.drop_left]
      rfl
  · -- behind the name there is neither an end nor an equals sign
    have hright : ∀ value : Option String,
        Shape.spelling s (.long (String.ofList (rest.takeWhile (· ≠ '='))) value) = .other := by
      intro value
      cases value <;> rw [Shape.spelling, if_neg (mt hlong.1 h)]
    rw [hright]
    split
    · rename_i hprefix
      obtain ⟨tail, rfl⟩ := hprefix
      rw [List.drop_left]
      match tail, h with
      | [], h => exact absurd (Or.inl (List.append_nil _)) h
      | c :: tail, h =>
        by_cases hc : c = '='
        · exact absurd (Or.inr ⟨tail, by rw [hc]⟩) h
        · simp [Spelling.afterLong, hc]
    · rfl

/-! ## Shapes of texts -/

theorem Shape.ofArgument_of_long {arg : String} {rest : List Char}
    (h : arg.toList = '-' :: '-' :: rest) (hrest : rest ≠ []) :
    Shape.ofArgument arg =
      .long (String.ofList (rest.takeWhile (· ≠ '=')))
        (match rest.dropWhile (· ≠ '=') with
          | [] => none
          | _ :: value => some (String.ofList value)) := by
  rw [Shape.ofArgument, h]
  cases rest with
  | nil => exact absurd rfl hrest
  | cons c rest => rfl

theorem Shape.ofArgument_of_short {arg : String} {c : Char} {rest : List Char}
    (h : arg.toList = '-' :: c :: rest) (hc : c ≠ '-') :
    Shape.ofArgument arg = .short (c :: rest) := by
  rw [Shape.ofArgument, h]
  split
  · rename_i heq
    cases heq
    exact absurd rfl hc
  · rename_i heq
    cases heq
    exact absurd rfl hc
  · rename_i heq
    cases heq
    rfl
  · rename_i hshort
    exact absurd rfl (hshort c rest)

theorem Shape.ofArgument_of_plain {arg : String} (h : ∀ c rest, arg.toList ≠ '-' :: c :: rest) :
    Shape.ofArgument arg = .plain := by
  rw [Shape.ofArgument]
  split
  · rename_i heq
    exact absurd heq (h '-' [])
  · rename_i rest _ heq
    exact absurd heq (h '-' rest)
  · rename_i c rest _ _ heq
    exact absurd heq (h c rest)
  · rfl

/-- Only two dashes alone end the options. -/
theorem Shape.ofArgument_eq_endOfOptions_iff {arg : String} :
    Shape.ofArgument arg = .endOfOptions ↔ arg = "--" := by
  constructor
  · intro h
    rw [Shape.ofArgument] at h
    split at h
    · rename_i heq
      rw [← String.toList_inj, heq]
      rfl
    · cases h
    · cases h
    · cases h
  · rintro rfl
    rfl

/-- A long name without a value is all that its argument holds. -/
theorem Shape.eq_of_ofArgument_long_none {arg name : String}
    (h : Shape.ofArgument arg = .long name none) : arg = "--" ++ name := by
  rw [Shape.ofArgument] at h
  split at h
  · cases h
  · rename_i rest _ heq
    have hsplit := List.takeWhile_append_dropWhile (p := fun c => decide (c ≠ '=')) (l := rest)
    rw [Shape.long.injEq] at h
    obtain ⟨hname, hvalue⟩ := h
    cases hdrop : rest.dropWhile (· ≠ '=') with
    | nil =>
      rw [hdrop, List.append_nil] at hsplit
      have htext : name.toList = rest := by rw [← hname, hsplit, String.toList_ofList]
      rw [← String.toList_inj, heq, String.toList_append, htext]
      rfl
    | cons c value =>
      rw [hdrop] at hvalue
      cases hvalue
  · cases h
  · cases h

/-- **The early scan sees of an argument what its shape gives.** -/
theorem Spelling.of_eq (s : Setting) (arg : String) :
    Spelling.of s.letter s.longName arg = (Shape.ofArgument arg).spelling s := by
  rw [Spelling.of]
  split
  · rename_i rest heq
    cases rest with
    | nil =>
      have harg : arg = "--" := String.toList_inj.1 heq
      rw [harg]
      cases s <;> rfl
    | cons c rest =>
      rw [Shape.ofArgument_of_long heq (List.cons_ne_nil c rest)]
      exact spelling_long s (c :: rest)
  · rename_i c rest hc heq
    rw [Shape.ofArgument_of_short heq hc]
    rfl
  · rename_i hlong hshort
    rw [Shape.ofArgument_of_plain hshort]
    rfl

/-- An argument gives at most one setting. -/
theorem Shape.spelling_eq_other_of_ne {shape : Shape} {s t : Setting}
    (h : shape.spelling s ≠ .other) (hst : t ≠ s) : shape.spelling t = .other := by
  cases shape with
  | endOfOptions => rfl
  | plain => rfl
  | long name value =>
    by_cases hname : name = s.longName
    · have hne : ¬ name = t.longName := fun ht =>
        hst (Setting.longName_injective (ht.symm.trans hname))
      cases value <;> rw [Shape.spelling, if_neg hne]
    · refine absurd ?_ h
      cases value <;> rw [Shape.spelling, if_neg hname]
  | short letters =>
    cases letters with
    | nil => rfl
    | cons c rest =>
      by_cases hc : c = s.letter
      · have hne : ¬ c = t.letter := fun ht =>
          hst (Setting.letter_injective (ht.symm.trans hc))
        rw [Shape.spelling, if_neg hne]
      · refine absurd ?_ h
        rw [Shape.spelling, if_neg hc]

/-! ## One step of the scan -/

namespace EarlyOptions

/-- With the value of a setting, if the scan looks for it and there is such a value. -/
def withValue (e : EarlyOptions) : Setting → String → EarlyOptions
  | .jobs, _ => e
  | .settingsFile, value => e.withSettingsFile value
  | .logLevel, value => e.withLogLevel value

/-- What is kept of a setting, as a text. -/
def valueOf (e : EarlyOptions) : Setting → Option String
  | .jobs => none
  | .settingsFile => e.settingsFile
  | .logLevel => some e.logLevel.name

theorem logLevel_eq_of_valueOf {e e' : EarlyOptions}
    (h : e.valueOf .logLevel = e'.valueOf .logLevel) : e.logLevel = e'.logLevel := by
  have hname : e.logLevel.name = e'.logLevel.name := Option.some.inj h
  revert hname
  cases e.logLevel <;> cases e'.logLevel <;> decide

theorem valueOf_withValue_of_ne {s t : Setting} (hst : t ≠ s) (e : EarlyOptions)
    (value : String) : (e.withValue s value).valueOf t = e.valueOf t := by
  cases s with
  | jobs => rfl
  | settingsFile =>
    cases t with
    | jobs => rfl
    | settingsFile => exact absurd rfl hst
    | logLevel => rfl
  | logLevel =>
    rw [withValue, withLogLevel]
    cases t with
    | jobs => split <;> rfl
    | settingsFile => split <;> rfl
    | logLevel => exact absurd rfl hst

@[simp] theorem listPlugins_withValue (e : EarlyOptions) (s : Setting) (value : String) :
    (e.withValue s value).listPlugins = e.listPlugins := by
  cases s with
  | jobs => rfl
  | settingsFile => rfl
  | logLevel =>
    rw [withValue, withLogLevel]
    split <;> rfl

variable {arg : String} {s : Setting}

theorem scanFrom_cons (arg : String) (args : List String) (e : EarlyOptions) :
    scanFrom (arg :: args) e =
      if arg = "--" then e
      else if arg = "--list-plugins" then scanFrom args { e with listPlugins := true }
      else
        match (Shape.ofArgument arg).spelling .settingsFile,
          (Shape.ofArgument arg).spelling .logLevel, args with
        | .attached file, _, args => scanFrom args (e.withSettingsFile file)
        | .detached, _, file :: args => scanFrom args (e.withSettingsFile file)
        | .detached, _, [] => e
        | .other, .attached level, args => scanFrom args (e.withLogLevel level)
        | .other, .detached, level :: args => scanFrom args (e.withLogLevel level)
        | .other, .detached, [] => e
        | .other, .other, args => scanFrom args e := by
  rw [← Spelling.of_eq, ← Spelling.of_eq, scanFrom.eq_def]
  rfl

/-- An argument that gives a setting is none of the two that are compared as a whole. -/
theorem ne_of_spelling_ne_other (h : (Shape.ofArgument arg).spelling s ≠ .other) :
    arg ≠ "--" ∧ arg ≠ "--list-plugins" := by
  constructor
  · rintro rfl
    exact h rfl
  · rintro rfl
    refine h ?_
    cases s <;> rfl

theorem scanFrom_of_endOfOptions (h : Shape.ofArgument arg = .endOfOptions) (args : List String)
    (e : EarlyOptions) : scanFrom (arg :: args) e = e := by
  rw [scanFrom_cons, if_pos (Shape.ofArgument_eq_endOfOptions_iff.1 h)]

/-- A value that is attached to its setting. -/
theorem scanFrom_of_attached {value : String}
    (h : (Shape.ofArgument arg).spelling s = .attached value) (args : List String)
    (e : EarlyOptions) : scanFrom (arg :: args) e = scanFrom args (e.withValue s value) := by
  have hgiven : (Shape.ofArgument arg).spelling s ≠ .other := by
    rw [h]
    exact Spelling.noConfusion
  obtain ⟨hend, hlist⟩ := ne_of_spelling_ne_other hgiven
  have hother : ∀ t, t ≠ s → (Shape.ofArgument arg).spelling t = .other := fun t ht =>
    Shape.spelling_eq_other_of_ne hgiven ht
  rw [scanFrom_cons, if_neg hend, if_neg hlist]
  cases s with
  | jobs =>
    rw [hother .settingsFile (by decide), hother .logLevel (by decide)]
    rfl
  | settingsFile =>
    rw [h]
    rfl
  | logLevel =>
    rw [hother .settingsFile (by decide), h]
    rfl

/-- An argument that gives nothing that is looked for. -/
theorem scanFrom_of_other (hend : Shape.ofArgument arg ≠ .endOfOptions)
    (hlist : Shape.ofArgument arg ≠ .long "list-plugins" none)
    (h : ∀ s, s ≠ .jobs → (Shape.ofArgument arg).spelling s = .other) (args : List String)
    (e : EarlyOptions) : scanFrom (arg :: args) e = scanFrom args e := by
  have hend' : arg ≠ "--" := by
    rintro rfl
    exact hend rfl
  have hlist' : arg ≠ "--list-plugins" := by
    rintro rfl
    exact hlist rfl
  rw [scanFrom_cons, if_neg hend', if_neg hlist', h .settingsFile (by decide),
    h .logLevel (by decide)]

/-- An argument that is no option is passed over. -/
theorem scanFrom_of_plain (h : Shape.ofArgument arg = .plain) (args : List String)
    (e : EarlyOptions) : scanFrom (arg :: args) e = scanFrom args e := by
  refine scanFrom_of_other ?_ ?_ ?_ args e
  · rw [h]
    exact Shape.noConfusion
  · rw [h]
    exact Shape.noConfusion
  · intro s _
    rw [h]
    rfl

/-- A value that is the argument behind its setting. -/
theorem scanFrom_of_detached {value : String} (h : (Shape.ofArgument arg).spelling s = .detached)
    (hvalue : Shape.ofArgument value = .plain) (args : List String) (e : EarlyOptions) :
    scanFrom (arg :: value :: args) e = scanFrom args (e.withValue s value) := by
  have hgiven : (Shape.ofArgument arg).spelling s ≠ .other := by
    rw [h]
    exact Spelling.noConfusion
  obtain ⟨hend, hlist⟩ := ne_of_spelling_ne_other hgiven
  have hother : ∀ t, t ≠ s → (Shape.ofArgument arg).spelling t = .other := fun t ht =>
    Shape.spelling_eq_other_of_ne hgiven ht
  rw [scanFrom_cons, if_neg hend, if_neg hlist]
  cases s with
  | jobs =>
    -- the scan does not know this setting, and passes over its value for another reason
    rw [hother .settingsFile (by decide), hother .logLevel (by decide)]
    exact scanFrom_of_plain hvalue args e
  | settingsFile =>
    rw [h]
    rfl
  | logLevel =>
    rw [hother .settingsFile (by decide), h]
    rfl

theorem scanFrom_of_listPlugins (h : Shape.ofArgument arg = .long "list-plugins" none)
    (args : List String) (e : EarlyOptions) :
    scanFrom (arg :: args) e = scanFrom args { e with listPlugins := true } := by
  have harg : arg = "--list-plugins" := Shape.eq_of_ofArgument_long_none h
  rw [scanFrom_cons, if_neg (by rw [harg]; decide), if_pos harg]

end EarlyOptions
end CommandLine
end Orchestrator
