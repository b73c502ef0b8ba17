import Mathlib.Data.List.Induction
import Orchestrator.CommandLine.Early

/-!
# Where the early scan looks

The early scan goes through the arguments in order.  An argument at which it stands is passed over,
or is kept, or is a bare option, whose value is the next argument whatever that is.  So a position
is reached as the start of an argument unless a bare option stands before it, and nothing is reached
behind two dashes (`Reached`).

At a position that is reached, what was scanned before counts only through what was found.  This is
shown step by step: an argument that is no bare option is scanned by itself
(`scanFrom_cons_of_notMem`), and a bare option together with its value (`scanFrom_cons_of_mem`).
The rest is an induction along the position (`scanFrom_append`).  Arguments that are put in at such
a position are scanned one by one, and if each of them is passed over, the scan goes on as if they
were not there.

* `bareOptions`, `PassedOver`: the options that take the next argument, and the arguments that say
  nothing to the scan.
* `Spelling.of_eq_other`, `Spelling.of_ne_detached`: what this means for the spelling of an
  argument.
* `scanFrom_append`: **the scan up to a position, and the scan from there on**.
* `reached_cases`: which positions are not reached.
* `scan_insert`: **arguments that are passed over may be put in anywhere**.
-/

namespace Orchestrator
namespace CommandLine

/-- The options whose value is the next argument. -/
def bareOptions : List String := ["-s", "-d", "--settings-file", "--log-level"]

/-- Whether an argument is none that the scan looks for: neither of the two that are compared as a
whole, nor one that starts with the letter of an option, nor the name of one, alone or with a
value. -/
structure PassedOver (arg : String) : Prop where
  ne_end : arg ≠ "--"
  ne_listing : arg ≠ "--list-plugins"
  no_letter : ∀ letter ∈ ["-s", "-d"], ¬ letter.toList <+: arg.toList
  no_name : ∀ name ∈ ["--settings-file", "--log-level"],
    arg ≠ name ∧ ¬ (name ++ "=").toList <+: arg.toList

theorem passedOver_iff {arg : String} :
    PassedOver arg ↔ (arg ≠ "--" ∧ arg ≠ "--list-plugins") ∧
      (∀ letter ∈ ["-s", "-d"], ¬ letter.toList <+: arg.toList) ∧
      ∀ name ∈ ["--settings-file", "--log-level"],
        arg ≠ name ∧ ¬ (name ++ "=").toList <+: arg.toList :=
  ⟨fun h => ⟨⟨h.ne_end, h.ne_listing⟩, h.no_letter, h.no_name⟩,
    fun h => ⟨h.1.1, h.1.2, h.2.1, h.2.2⟩⟩

instance (arg : String) : Decidable (PassedOver arg) :=
  decidable_of_iff _ passedOver_iff.symm

/-- Whether the scan reaches the position behind some arguments as the start of an argument. -/
inductive Reached : List String → Prop where
  | start : Reached []
  | argument {before : List String} {arg : String} (h : Reached before) (hend : arg ≠ "--")
      (hbare : arg ∉ bareOptions) : Reached (before ++ [arg])
  | option {before : List String} {arg : String} (h : Reached before) (hbare : arg ∈ bareOptions)
      (value : String) : Reached (before ++ [arg, value])

/-! ## Spellings -/

namespace Spelling

variable {short : Char} {long arg : String} {cs : List Char}

theorem afterLong_ne_detached (h : cs ≠ []) : afterLong cs ≠ .detached := by
  unfold afterLong
  split <;> simp_all

theorem afterShort_ne_detached (h : cs ≠ []) : afterShort cs ≠ .detached := by
  unfold afterShort
  split <;> simp_all

theorem afterLong_eq_other (hne : cs ≠ []) (hvalue : ∀ value, cs ≠ '=' :: value) :
    afterLong cs = .other := by
  unfold afterLong
  split <;> simp_all

/-- An argument without the letter in front, which is not the name and not the name with a value,
gives another option or none. -/
theorem of_eq_other (hletter : ¬ ['-', short] <+: arg.toList) (hname : arg ≠ "--" ++ long)
    (hvalue : ¬ ("--" ++ long ++ "=").toList <+: arg.toList) : of short long arg = .other := by
  unfold of
  split
  · rename_i rest heq
    split
    · rename_i hprefix
      obtain ⟨tail, rfl⟩ := hprefix
      rw [List.drop_left]
      refine afterLong_eq_other ?_ ?_
      · rintro rfl
        refine hname (String.toList_inj.1 ?_)
        simp [heq]
      · rintro value rfl
        refine hvalue ⟨value, ?_⟩
        simp [heq]
    · rfl
  · rename_i c rest hc heq
    refine if_neg ?_
    rintro rfl
    refine hletter ⟨rest, ?_⟩
    simp [heq]
  · rfl

/-- An argument that is neither the letter alone nor the name alone does not leave its value to the
next argument. -/
theorem of_ne_detached (hletter : arg.toList ≠ ['-', short]) (hname : arg ≠ "--" ++ long) :
    of short long arg ≠ .detached := by
  unfold of
  split
  · rename_i rest heq
    split
    · rename_i hprefix
      obtain ⟨tail, rfl⟩ := hprefix
      rw [List.drop_left]
      refine afterLong_ne_detached ?_
      rintro rfl
      refine hname (String.toList_inj.1 ?_)
      simp [heq]
    · simp
  · rename_i c rest hc heq
    split
    · rename_i hshort
      refine afterShort_ne_detached ?_
      rintro rfl
      exact hletter (by rw [heq, hshort])
    · simp
  · simp

end Spelling

namespace EarlyOptions

variable {before inserted : List String} {arg : String}

/-! ## One argument -/

/-- An argument that is no bare option is scanned by itself. -/
theorem scanFrom_cons_of_notMem (hend : arg ≠ "--") (hbare : arg ∉ bareOptions)
    (args : List String) (e : EarlyOptions) :
    scanFrom (arg :: args) e = scanFrom args (scanFrom [arg] e) := by
  have hne : ∀ option ∈ bareOptions, arg ≠ option := fun option hoption h => hbare (h ▸ hoption)
  have hfile : Spelling.of 's' "settings-file" arg ≠ .detached :=
    Spelling.of_ne_detached (fun h => hne "-s" (by decide) (String.toList_inj.1 h))
      (hne "--settings-file" (by decide))
  have hlevel : Spelling.of 'd' "log-level" arg ≠ .detached :=
    Spelling.of_ne_detached (fun h => hne "-d" (by decide) (String.toList_inj.1 h))
      (hne "--log-level" (by decide))
  rw [scanFrom.eq_def (arg :: args), scanFrom.eq_def [arg]]
  dsimp only
  rw [if_neg hend, if_neg hend]
  by_cases hlisting : arg = "--list-plugins"
  · rw [if_pos hlisting, if_pos hlisting]
    rfl
  · rw [if_neg hlisting, if_neg hlisting]
    cases hf : Spelling.of 's' "settings-file" arg with
    | attached file => rfl
    | detached => exact absurd hf hfile
    | other =>
      cases hl : Spelling.of 'd' "log-level" arg with
      | attached level => rfl
      | detached => exact absurd hl hlevel
      | other => rfl

/-- A bare option is scanned with its value. -/
theorem scanFrom_cons_of_mem (hbare : arg ∈ bareOptions) (value : String) (args : List String)
    (e : EarlyOptions) :
    scanFrom (arg :: value :: args) e = scanFrom args (scanFrom [arg, value] e) := by
  have hcases : arg = "-s" ∨ arg = "-d" ∨ arg = "--settings-file" ∨ arg = "--log-level" := by
    simpa [bareOptions] using hbare
  rcases hcases with rfl | rfl | rfl | rfl <;> rfl

/-- An argument that is passed over leaves what was found as it is. -/
theorem scanFrom_cons_of_passedOver (h : PassedOver arg) (args : List String) (e : EarlyOptions) :
    scanFrom (arg :: args) e = scanFrom args e := by
  have hfile : Spelling.of 's' "settings-file" arg = .other :=
    Spelling.of_eq_other (h.no_letter "-s" (by decide))
      (h.no_name "--settings-file" (by decide)).1 (h.no_name "--settings-file" (by decide)).2
  have hlevel : Spelling.of 'd' "log-level" arg = .other :=
    Spelling.of_eq_other (h.no_letter "-d" (by decide))
      (h.no_name "--log-level" (by decide)).1 (h.no_name "--log-level" (by decide)).2
  rw [scanFrom.eq_def]
  dsimp only
  rw [if_neg h.ne_end, if_neg h.ne_listing, hfile, hlevel]

/-- Two dashes alone end the scan. -/
theorem scanFrom_cons_end (args : List String) (e : EarlyOptions) :
    scanFrom ("--" :: args) e = e := by
  rw [scanFrom.eq_def]
  exact if_pos rfl

/-! ## Many arguments -/

/-- **The scan of what is before a position, and then of what is behind it**, if the position is
reached. -/
theorem scanFrom_append (h : Reached before) (args : List String) (e : EarlyOptions) :
    scanFrom (before ++ args) e = scanFrom args (scanFrom before e) := by
  induction h generalizing args with
  | start => rfl
  | @argument before arg _ hend hbare ih =>
    calc scanFrom (before ++ [arg] ++ args) e
      _ = scanFrom (arg :: args) (scanFrom before e) := by
        rw [List.append_assoc, List.singleton_append, ih]
      _ = scanFrom args (scanFrom [arg] (scanFrom before e)) :=
        scanFrom_cons_of_notMem hend hbare ..
      _ = scanFrom args (scanFrom (before ++ [arg]) e) := by rw [ih]
  | @option before arg _ hbare value ih =>
    calc scanFrom (before ++ [arg, value] ++ args) e
      _ = scanFrom (arg :: value :: args) (scanFrom before e) := by
        rw [List.append_assoc, ih]
        rfl
      _ = scanFrom args (scanFrom [arg, value] (scanFrom before e)) := scanFrom_cons_of_mem hbare ..
      _ = scanFrom args (scanFrom (before ++ [arg, value]) e) := by rw [ih]

/-- Arguments that are passed over need not be there. -/
theorem scanFrom_append_of_passedOver (h : ∀ arg ∈ inserted, PassedOver arg) (args : List String)
    (e : EarlyOptions) : scanFrom (inserted ++ args) e = scanFrom args e := by
  induction inserted with
  | nil => rfl
  | cons arg inserted ih =>
    obtain ⟨harg, hrest⟩ := List.forall_mem_cons.1 h
    rw [List.cons_append, scanFrom_cons_of_passedOver harg, ih hrest]

/-- **Which positions are not reached**: the one of the value of a bare option, and all behind two
dashes. -/
theorem reached_cases (args : List String) :
    Reached args ∨
      (∃ before option, Reached before ∧ option ∈ bareOptions ∧ args = before ++ [option]) ∨
      ∃ before after, Reached before ∧ args = before ++ "--" :: after := by
  induction args using List.reverseRecOn with
  | nil => exact Or.inl .start
  | append_singleton args arg ih =>
    rcases ih with h | ⟨before, option, h, hbare, rfl⟩ | ⟨before, after, h, rfl⟩
    · by_cases hend : arg = "--"
      · subst hend
        exact Or.inr (Or.inr ⟨args, [], h, rfl⟩)
      · by_cases hbare : arg ∈ bareOptions
        · exact Or.inr (Or.inl ⟨args, arg, h, hbare, rfl⟩)
        · exact Or.inl (.argument h hend hbare)
    · left
      rw [List.append_assoc]
      exact .option h hbare arg
    · right
      right
      exact ⟨before, after ++ [arg], h, by simp⟩

/-- **What the scan does not look for does not matter.**  At a position that is reached as the start
of an argument, any arguments that are passed over may be put in, and all three settings are found
as before.  Whatever comes behind two dashes at such a position is without effect.  What the scan
does look for is found there, after anything before it.  A position that is not reached belongs to
the value of a bare option or lies behind two dashes. -/
theorem scan_insert :
    (∀ before inserted after : List String, Reached before →
      (∀ arg ∈ inserted, PassedOver arg) →
        scan (before ++ inserted ++ after) = scan (before ++ after)) ∧
      (∀ before after : List String, Reached before →
        scan (before ++ "--" :: after) = scan before) ∧
      (∀ before : List String, Reached before →
        (∀ file, scan (before ++ ["-s", file]) =
          { scan before with settingsFile := some file }) ∧
          scan (before ++ ["--list-plugins"]) = { scan before with listPlugins := true }) ∧
      ∀ args : List String, Reached args ∨
        (∃ before option, Reached before ∧ option ∈ bareOptions ∧ args = before ++ [option]) ∨
        ∃ before after, Reached before ∧ args = before ++ "--" :: after := by
  refine ⟨fun before inserted after h hinserted => ?_, fun before after h => ?_,
    fun before h => ⟨fun file => ?_, ?_⟩, reached_cases⟩
  · show scanFrom (before ++ inserted ++ after) .empty = scanFrom (before ++ after) .empty
    rw [List.append_assoc, scanFrom_append h, scanFrom_append_of_passedOver hinserted,
      ← scanFrom_append h]
  · show scanFrom (before ++ "--" :: after) .empty = scanFrom before .empty
    rw [scanFrom_append h, scanFrom_cons_end]
  · exact scanFrom_append h ["-s", file] .empty
  · exact scanFrom_append h ["--list-plugins"] .empty

/-- Options of a pattern, and one whose name goes on where that of an option of the scan ends, are
put in behind a settings file; a settings file behind two dashes is not read, and a second one
without them is; and behind a bare option its value stands. -/
theorem scan_insert_options :
    scan (["build", "-s", "custom.yml"] ++ ["--settings-file-x", "-m", "release", "-"] ++
        ["-d", "debug"]) = scan (["build", "-s", "custom.yml"] ++ ["-d", "debug"]) ∧
      scan (["build", "-s", "custom.yml"] ++ "--" :: ["-s", "late.yml"]) =
        scan ["build", "-s", "custom.yml"] ∧
      scan (["build", "-s", "custom.yml"] ++ ["-s", "late.yml"]) =
        { scan ["build", "-s", "custom.yml"] with settingsFile := some "late.yml" } ∧
      (Reached ["build", "-s"] ∨
        (∃ before option, Reached before ∧ option ∈ bareOptions ∧
          ["build", "-s"] = before ++ [option]) ∨
        ∃ before after, Reached before ∧ ["build", "-s"] = before ++ "--" :: after) := by
  have hreached : Reached ["build", "-s", "custom.yml"] :=
    .option (.argument .start (by decide) (by decide)) (by decide) "custom.yml"
  obtain ⟨hinsert, hend, hfound, hcases⟩ := scan_insert
  exact ⟨hinsert _ _ _ hreached (by decide), hend _ _ hreached, (hfound _ hreached).1 "late.yml",
    hcases ["build", "-s"]⟩

end EarlyOptions
end CommandLine
end Orchestrator
