import Orchestrator.CommandLine.Option

/-!
# The options that a name belongs to

The options that are always there reserve their names, and no pattern gets one of these.  Any other
name goes to every pattern that declares it.  So a name belongs to more than one option exactly when
two patterns declare it and it is not reserved; it then means the option of the pattern whose key
comes first, and the other one cannot be given by it.

* `OptionName`: a letter or a word, so that what holds of both is said once.
* `CommandOption.forPattern`: the option of a pattern, with the names that it gets.
* `OptionTable.bearers`, `PatternRegistry.declarers`: the options that have a name, and the patterns
  that ask for it.
* `OptionTable.names_belong_to_one_iff`: **which options have a name**, for every registry.
* `OptionTable.letter_of_two_patterns`: two patterns with one letter.
-/

namespace Orchestrator
namespace CommandLine

/-- A name by which an option is given. -/
inductive OptionName where
  /-- A letter, behind one dash. -/
  | short (letter : Char)
  /-- A word, behind two dashes. -/
  | long (word : String)
  deriving DecidableEq, Repr

/-- The names that a letter and a word make, either of which may be missing. -/
def OptionName.ofParts (letter : Option Char) (word : Option String) : List OptionName :=
  (letter.map .short).toList ++ (word.map .long).toList

/-- The names of an option. -/
def CommandOption.names (o : CommandOption) : List OptionName :=
  OptionName.ofParts o.short o.long

/-- The names of the options that are always there. -/
def OptionName.reserved : List OptionName :=
  (CommandOption.standard ++ CommandOption.closing).flatMap CommandOption.names

end CommandLine

/-- The names that a pattern asks for. -/
def Pattern.declaredNames (p : Pattern) : List CommandLine.OptionName :=
  CommandLine.OptionName.ofParts p.shortOption p.longOption

/-- The patterns that ask for a name, in the order of their keys. -/
def PatternRegistry.declarers (patterns : PatternRegistry) (n : CommandLine.OptionName) :
    List Pattern :=
  patterns.toList.filter fun p => n ∈ p.declaredNames

namespace CommandLine

namespace OptionName

variable {letter : Option Char} {word : Option String}

@[simp] theorem short_mem_ofParts {c : Char} : short c ∈ ofParts letter word ↔ letter = some c := by
  simp [ofParts]

@[simp] theorem long_mem_ofParts {w : String} : long w ∈ ofParts letter word ↔ word = some w := by
  simp [ofParts]

theorem short_mem_reserved {c : Char} : short c ∈ reserved ↔ c ∈ CommandOption.takenShorts := by
  simp [reserved, CommandOption.takenShorts, CommandOption.names]

theorem long_mem_reserved {w : String} : long w ∈ reserved ↔ w ∈ CommandOption.takenLongs := by
  simp [reserved, CommandOption.takenLongs, CommandOption.names]

/-- A reserved name belongs to one of the options that are always there, and to no other one. -/
theorem exists_bearer_of_mem_reserved : ∀ n ∈ reserved,
    ∃ o ∈ CommandOption.standard ++ CommandOption.closing,
      ((CommandOption.standard ++ CommandOption.closing).filter fun o => n ∈ o.names) = [o] := by
  decide

theorem filter_eq_nil_of_notMem_reserved {n : OptionName} (h : n ∉ reserved)
    {os : List CommandOption} (hos : os ⊆ CommandOption.standard ++ CommandOption.closing) :
    (os.filter fun o => n ∈ o.names) = [] := by
  rw [List.filter_eq_nil_iff]
  intro o ho hn
  exact h (List.mem_flatMap.2 ⟨o, hos ho, of_decide_eq_true hn⟩)

end OptionName

/-! ## The option of a pattern -/

namespace CommandOption

/-- The option of a pattern, which may be left without a name. -/
def forPattern (p : Pattern) : CommandOption :=
  ⟨.pattern p.key, grantedShort p, grantedLong p⟩

/-- A pattern gets the names that it asks for, except for the reserved ones. -/
theorem mem_names_forPattern {p : Pattern} {n : OptionName} :
    n ∈ (forPattern p).names ↔ n ∈ p.declaredNames ∧ n ∉ OptionName.reserved := by
  cases n with
  | short c =>
    rw [names, Pattern.declaredNames, OptionName.short_mem_ofParts, OptionName.short_mem_ofParts,
      OptionName.short_mem_reserved]
    simp [forPattern, grantedShort, Option.filter_eq_some_iff]
  | long w =>
    rw [names, Pattern.declaredNames, OptionName.long_mem_ofParts, OptionName.long_mem_ofParts,
      OptionName.long_mem_reserved]
    simp [forPattern, grantedLong, Option.filter_eq_some_iff]

/-- A pattern has an option when it gets a name. -/
theorem ofPattern?_eq (p : Pattern) :
    ofPattern? p = if (forPattern p).names = [] then none else some (forPattern p) := by
  rw [ofPattern?, names, forPattern]
  cases grantedShort p <;> cases grantedLong p <;> rfl

/-- Among the options of some patterns, those of the declaring ones have a name. -/
theorem filter_filterMap_ofPattern? (n : OptionName) (ps : List Pattern) :
    ((ps.filterMap ofPattern?).filter fun o => n ∈ o.names) =
      (ps.filter fun p => n ∈ p.declaredNames ∧ n ∉ OptionName.reserved).map forPattern := by
  induction ps with
  | nil => rfl
  | cons p ps ih =>
    by_cases hn : n ∈ (forPattern p).names
    · have hsome : ofPattern? p = some (forPattern p) := by
        rw [ofPattern?_eq, if_neg (List.ne_nil_of_mem hn)]
      rw [List.filterMap_cons_some hsome, List.filter_cons_of_pos (by simpa using hn),
        List.filter_cons_of_pos (by simpa using mem_names_forPattern.1 hn), List.map_cons, ih]
    · have hskip : ((p :: ps).filter fun p => n ∈ p.declaredNames ∧ n ∉ OptionName.reserved) =
          ps.filter fun p => n ∈ p.declaredNames ∧ n ∉ OptionName.reserved :=
        List.filter_cons_of_neg (by simpa using fun h => hn (mem_names_forPattern.2 h))
      rw [hskip, ← ih, List.filterMap_cons, ofPattern?_eq]
      by_cases hempty : (forPattern p).names = []
      · rw [if_pos hempty]
      · rw [if_neg hempty]
        exact List.filter_cons_of_neg (by simpa using hn)

end CommandOption

/-! ## All options -/

namespace OptionTable

/-- The names of all options. -/
def names (table : OptionTable) : List OptionName :=
  table.options.flatMap CommandOption.names

/-- The options that have a name, in order. -/
def bearers (table : OptionTable) (n : OptionName) : List CommandOption :=
  table.options.filter fun o => n ∈ o.names

/-- The option that a name means. -/
def find? (table : OptionTable) : OptionName → Option CommandOption
  | .short c => table.findShort? c
  | .long w => table.findLong? w

/-- Of the options that have a name, it means the first one. -/
theorem find?_eq_head?_bearers (table : OptionTable) (n : OptionName) :
    table.find? n = (table.bearers n).head? := by
  rw [bearers, List.head?_filter]
  cases n with
  | short c => simp [find?, findShort?, CommandOption.names]
  | long w => simp [find?, findLong?, CommandOption.names]

variable (patterns : PatternRegistry) {n : OptionName}

/-- The options are taken apart into those that are always there and those of the patterns. -/
theorem bearers_ofPatterns (n : OptionName) :
    (ofPatterns patterns).bearers n =
      (CommandOption.standard.filter fun o => n ∈ o.names) ++
        (patterns.toList.filter fun p => n ∈ p.declaredNames ∧ n ∉ OptionName.reserved).map
          CommandOption.forPattern ++
        (CommandOption.closing.filter fun o => n ∈ o.names) := by
  rw [bearers, ofPatterns, List.filter_append, List.filter_append,
    CommandOption.filter_filterMap_ofPattern?]

/-- No pattern takes a part in a reserved name. -/
theorem bearers_of_mem_reserved (h : n ∈ OptionName.reserved) :
    ∃ o ∈ CommandOption.standard ++ CommandOption.closing,
      (ofPatterns patterns).bearers n = [o] := by
  obtain ⟨o, ho, hone⟩ := OptionName.exists_bearer_of_mem_reserved n h
  refine ⟨o, ho, ?_⟩
  have hnone : (patterns.toList.filter fun p => n ∈ p.declaredNames ∧ n ∉ OptionName.reserved) =
      [] := by
    rw [List.filter_eq_nil_iff]
    intro p _ hp
    exact (of_decide_eq_true hp).2 h
  rw [bearers_ofPatterns, hnone, List.map_nil, List.append_nil, ← List.filter_append, hone]

/-- A name that is not reserved goes to all patterns that declare it. -/
theorem bearers_of_notMem_reserved (h : n ∉ OptionName.reserved) :
    (ofPatterns patterns).bearers n = (patterns.declarers n).map CommandOption.forPattern := by
  have hdeclarers : (patterns.toList.filter fun p =>
      n ∈ p.declaredNames ∧ n ∉ OptionName.reserved) = patterns.declarers n :=
    List.filter_congr fun p _ => by simp [h]
  rw [bearers_ofPatterns, hdeclarers,
    OptionName.filter_eq_nil_of_notMem_reserved h (List.subset_append_left _ _),
    OptionName.filter_eq_nil_of_notMem_reserved h (List.subset_append_right _ _),
    List.nil_append, List.append_nil]

theorem mem_names_iff {table : OptionTable} : n ∈ table.names ↔ table.bearers n ≠ [] := by
  rw [names, List.mem_flatMap, bearers, Ne, List.filter_eq_nil_iff]
  simp

/-- **Which options have a name.**  A reserved name belongs to one of the options that are always
there and to no other option.  Any other name belongs to the options of the patterns that declare
it, one for each, and means the first of them.  So a name that one pattern alone declares is kept on
the option of this pattern, and all names belong to one option each exactly when no two patterns
declare one name that is not reserved. -/
theorem names_belong_to_one_iff :
    (∀ n ∈ OptionName.reserved, ∃ o ∈ CommandOption.standard ++ CommandOption.closing,
        (ofPatterns patterns).bearers n = [o]) ∧
      (∀ n ∉ OptionName.reserved,
        (ofPatterns patterns).bearers n = (patterns.declarers n).map CommandOption.forPattern) ∧
      (∀ n, (ofPatterns patterns).find? n = ((ofPatterns patterns).bearers n).head?) ∧
      (∀ n ∉ OptionName.reserved, ∀ p, patterns.declarers n = [p] →
        (ofPatterns patterns).bearers n = [CommandOption.forPattern p] ∧
          n ∈ (CommandOption.forPattern p).names ∧
          (CommandOption.forPattern p).kind = .pattern p.key) ∧
      ((∀ n ∈ (ofPatterns patterns).names, ∃ o, (ofPatterns patterns).bearers n = [o]) ↔
        ∀ n ∉ OptionName.reserved, (patterns.declarers n).length ≤ 1) := by
  refine ⟨fun n => bearers_of_mem_reserved patterns, fun n => bearers_of_notMem_reserved patterns,
    find?_eq_head?_bearers _, fun n hn p hp => ?_, fun h n hn => ?_, fun h n hn => ?_⟩
  · have hmem : p ∈ patterns.declarers n := by
      rw [hp]
      exact List.mem_cons_self
    have hdeclared : n ∈ p.declaredNames := of_decide_eq_true (List.mem_filter.1 hmem).2
    refine ⟨?_, CommandOption.mem_names_forPattern.2 ⟨hdeclared, hn⟩, rfl⟩
    rw [bearers_of_notMem_reserved patterns hn, hp]
    rfl
  · -- a name that no option has is declared by no pattern
    have hbearers := bearers_of_notMem_reserved patterns hn
    by_cases hmem : n ∈ (ofPatterns patterns).names
    · obtain ⟨o, ho⟩ := h n hmem
      rw [ho] at hbearers
      have hlength := congrArg List.length hbearers
      rw [List.length_map, List.length_singleton] at hlength
      exact Nat.le_of_eq hlength.symm
    · rw [mem_names_iff, Classical.not_not] at hmem
      rw [hmem] at hbearers
      rw [List.map_eq_nil_iff.1 hbearers.symm]
      exact Nat.zero_le 1
  · by_cases hreserved : n ∈ OptionName.reserved
    · obtain ⟨o, -, ho⟩ := bearers_of_mem_reserved patterns hreserved
      exact ⟨o, ho⟩
    · have hbearers := bearers_of_notMem_reserved patterns hreserved
      have hle : ((ofPatterns patterns).bearers n).length ≤ 1 := by
        rw [hbearers, List.length_map]
        exact h n hreserved
      have hpos : 0 < ((ofPatterns patterns).bearers n).length :=
        List.length_pos_iff.2 (mem_names_iff.1 hn)
      exact List.length_eq_one_iff.1 (Nat.le_antisymm hle hpos)

/-- Two patterns that ask for one letter both get it, and only one of them can be given by it. -/
theorem letter_of_two_patterns :
    let mode : Pattern := ⟨"MODE", ["debug"], some 'm', none, by decide⟩
    let mood : Pattern := ⟨"MOOD", ["calm"], some 'm', none, by decide⟩
    let table := ofPatterns ((PatternRegistry.empty.add mode).add mood)
    .short 'm' ∈ table.names ∧
      (table.bearers (.short 'm')).map CommandOption.kind = [.pattern "MODE", .pattern "MOOD"] ∧
      (¬ ∃ o, table.bearers (.short 'm') = [o]) ∧
      (table.find? (.short 'm')).map CommandOption.kind = some (.pattern "MODE") := by
  intro mode mood table
  have hbearers : table.bearers (.short 'm') =
      [CommandOption.forPattern mode, CommandOption.forPattern mood] := by decide
  refine ⟨by decide, by decide, ?_, by decide⟩
  rintro ⟨o, ho⟩
  rw [hbearers] at ho
  cases ho

end OptionTable
end CommandLine
end Orchestrator
