import Orchestrator.Proofs.Plugin.Plans
import Orchestrator.Proofs.Resolution.Depth
import Orchestrator.Proofs.Resolution.Scope

/-!
# Reported cycles

A resolution that comes to a name of its chain again ends with the names on the way there.  These
are no mere record of what was entered: each name leads to the next one.  A section of the settings
leads to its values, and a plugin leads to the commands that it asks for with the configuration that
it has at this place, which depends on the names before it.

* `Configuration.commandsRun`: the commands that a plugin asks for with a configuration.
* `Configuration.callsOf`: the names to which a name leads, for the scope in which it stands.
* `Configuration.IsWalk`: a list of names each of which leads to the next one.
* `Configuration.Visits.isWalk`: the invariant, that the way to a visited name is a walk.
* `cyclicCommand_isWalk`: **every reported cycle is a closed walk** from the command that is being
  executed, and closes at its last name only.
-/

namespace Orchestrator
namespace Configuration

section

variable (cfg : Configuration)

/-- The commands that a plugin asks for with a configuration.  The patterns that it selects count
when they are registered. -/
def commandsRun (p : Plugin) (settings : SettingsTree) : List String :=
  p.commandsOf settings ((settings.getD [Names.patterns] []).filterMap cfg.patterns.get?)

/-- The names to which a name leads in a scope: the commands that a plugin asks for, with its
defaults under its section and under its section for the scope, or else the values of a section of
the settings. -/
def callsOf (scope name : String) : List String :=
  match cfg.plugins.get? name with
  | some p =>
    cfg.commandsRun p
      (SettingsTree.mergeScoped (p.defaults cfg.options) cfg.settings p.name scope)
  | none => cfg.settings.getD [name] []

/-- Whether a list of names starts with a requested one and each name in it leads to the next one,
in the scope of the names up to it. -/
structure IsWalk (requested names : List String) : Prop where
  starts : ∃ first ∈ requested, names.head? = some first
  goesOn : ∀ before name next, before ++ [name, next] <+: names →
    ∃ scope, cfg.scope? (before ++ [name]) = some scope ∧ next ∈ cfg.callsOf scope name

end

variable {cfg : Configuration} {base : Task} {requested : List String} {f : Frame} {t : Task}
  {name : String}

theorem isWalk_singleton (h : name ∈ requested) : cfg.IsWalk requested [name] := by
  refine ⟨⟨name, h, rfl⟩, fun before a b hprefix => ?_⟩
  have hle := hprefix.length_le
  simp at hle

/-- A walk may go on with any name to which its last one leads. -/
theorem IsWalk.snoc {chain : List String} {scope next : String}
    (h : cfg.IsWalk requested (chain ++ [name]))
    (hscope : cfg.scope? (chain ++ [name]) = some scope)
    (hnext : next ∈ cfg.callsOf scope name) : cfg.IsWalk requested (chain ++ [name] ++ [next]) := by
  obtain ⟨first, hfirst, hhead⟩ := h.starts
  refine ⟨⟨first, hfirst, ?_⟩, fun before a b hprefix => ?_⟩
  · rw [List.head?_append, hhead]
    rfl
  · rcases List.prefix_concat_iff.1 hprefix with heq | hprefix
    · -- the new step is the one from the last name
      have hsnoc : (before ++ [a]) ++ [b] = (chain ++ [name]) ++ [next] := by
        rw [List.append_assoc]
        exact heq
      obtain ⟨hinit, hlast⟩ := List.append_inj' hsnoc rfl
      obtain ⟨-, hname⟩ := List.append_inj' hinit rfl
      cases hlast
      cases hname
      rw [hinit]
      exact ⟨scope, hscope, hnext⟩
    · exact h.goesOn before a b hprefix

/-! ## The calls of a resolution -/

/-- The commands in the plan of a plugin are those that it asks for with its configuration. -/
theorem commands_of_resolve_mem_prepare {p : Plugin} {u : Task} {steps : List Step}
    {commands : List String} (h : (cfg.prepare f p t).result = .ok steps)
    (hstep : .resolve commands u ∈ steps) :
    commands = cfg.commandsRun p (cfg.pluginVariables f p) := by
  obtain ⟨patterns, hpatterns, hplan⟩ := result_prepare_eq_ok_iff.1 h
  have hselected : patterns = ((cfg.pluginVariables f p).getD [Names.patterns] []).filterMap
      cfg.patterns.get? := result_selectPatterns_eq_ok hpatterns
  cases Plugin.plans_of_mem_plan hplan hstep with
  | resolve h =>
    rw [commandsRun, ← hselected]
    rfl

/-- **The invariant**: the way to a visited name is a walk. -/
theorem Visits.isWalk (hcfg : cfg.plugins.WellNamed) (h : cfg.Visits base requested f t name) :
    cfg.IsWalk requested (f.chain ++ [name]) := by
  induction h with
  | requested hname => exact isWalk_singleton hname
  | @value f t name v values hvisit hvalues hv ih =>
    have hplugin : cfg.plugins.get? name = none := plugins_get?_of_referent_values hvalues
    obtain ⟨hget, -⟩ := get?_of_referent_values hvalues
    refine ih.snoc (cfg.scope?_append_of_section hplugin f.chain) ?_
    rw [callsOf, hplugin, SettingsTree.getD, hget]
    exact hv
  | @wrapped f t u name command p steps commands hvisit hp hsteps hstep hcommand ih =>
    obtain ⟨hplugin, -⟩ := get?_of_referent_plugin hp
    have happlies : cfg.Applies base requested (f.pushed name) p t := ⟨f, name, hvisit, hp, rfl⟩
    have hcommands : commands = cfg.commandsRun p (cfg.pluginVariables (f.pushed name) p) :=
      commands_of_resolve_mem_prepare hsteps hstep
    refine ih.snoc (happlies.scope?_chain hcfg) ?_
    rw [hcommands] at hcommand
    rw [callsOf, hplugin]
    exact hcommand

/-- The frame of a visited name is sound. -/
theorem Visits.sound (h : cfg.Visits base requested f t name) : f.Sound cfg := by
  induction h with
  | requested hname => exact Frame.Sound.root cfg
  | value hvisit hvalues hv ih => exact ih.of_opens (opens_of_referent_values hvalues rfl)
  | wrapped hvisit hp hsteps hstep hcommand ih =>
    exact ih.of_opens (opens_of_referent_plugin hp rfl)

theorem mem_chain_of_referent_cyclic (h : cfg.referent f name = .cyclic) : name ∈ f.chain := by
  unfold referent at h
  split at h
  · split at h
    · assumption
    · cases h
  · split at h
    · assumption
    · cases h
  · cases h

/-- A cycle arises at a visited name, behind a chain on which it stands. -/
theorem Fails.exists_of_cyclicCommand {names : List String}
    (h : cfg.Fails base requested (.cyclicCommand names)) :
    ∃ f t name, cfg.Visits base requested f t name ∧ name ∈ f.chain ∧
      names = f.chain ++ [name] := by
  cases h with
  | @cyclic f t name hvisit hname =>
    exact ⟨f, t, name, hvisit, mem_chain_of_referent_cyclic hname, rfl⟩
  | unplanned happlies he =>
    rcases error_prepare_cases he with ⟨key, hkey⟩ | ⟨fault, hfault⟩
    · cases hkey
    · cases hfault

end Configuration

/-- **Every reported cycle is a closed walk.**  When commands fail with a cycle, inside whatever
plugins, then one of them fails with it after those before it have succeeded.  The reported names
start with this command, and each leads to the next one: a plugin to one of the commands that it
asks for with its merged configuration at this place, and any other name to one of its values in the
settings.  The last name is one of the others, and these are different. -/
theorem cyclicCommand_isWalk (cfg : Configuration) (hcfg : cfg.plugins.WellNamed) {σ : Type}
    (x : Executor σ) (base : Task) (commands : List String) (s : σ) {e : DispatchError}
    {names : List String} (he : (executeCommands cfg x .root base commands s).error = some e)
    (hcycle : e.cause = .cyclicCommand names) :
    ∃ before command after, commands = before ++ command :: after ∧
      (executeCommands cfg x .root base before s).error = none ∧
      (executeCommand cfg x .root base command
        (executeCommands cfg x .root base before s).state).error = some e ∧
      cfg.IsWalk [command] names ∧
      ∃ chain last, names = chain ++ [last] ∧ chain.Nodup ∧ last ∈ chain := by
  obtain ⟨before, command, after, hcommands, hbefore, herror⟩ :=
    exists_of_error_executeCommands cfg x .root base he
  refine ⟨before, command, after, hcommands, hbefore, herror, ?_⟩
  have hone := herror
  rw [← executeCommands_singleton] at hone
  rcases error_executeCommands_cases cfg base [command] _ hone with ⟨e', rfl⟩ | hfails
  · -- an executor reports no cycles
    cases hcycle
  · rw [hcycle] at hfails
    obtain ⟨f, t, name, hvisit, hmem, rfl⟩ := hfails.exists_of_cyclicCommand
    exact ⟨hvisit.isWalk hcfg, f.chain, name, rfl, hvisit.sound.nodup, hmem⟩

/-- A command that chooses what it checks by a pattern, and the check runs the command again. -/
def selfChecking : Configuration where
  options := default
  settings := .node Names.root
    [.node "all" [.leaf "selector"],
      .node "selector" [.node "all" [.node Names.patterns [.leaf "TARGET"]]],
      .node "check" [.leaf "valgrind"],
      .node "valgrind" [.node Names.runCommand [.leaf "make"],
        .node "check" [.node Names.runCommand [.leaf "all"]]]]
  patterns := PatternRegistry.empty.add ⟨"TARGET", ["check"], none, none, by decide⟩
  plugins := .standard

/-- The cycle goes through both plugins and is reported inside them.  Only the section for the check
makes the checker lead back to the command. -/
theorem cyclicCommand_isWalk_selfChecking :
    let names := ["all", "selector", "check", "valgrind", "all"]
    let e : DispatchError := .within "selector" (.within "valgrind" (.cyclicCommand names))
    selfChecking.plugins.WellNamed ∧
      (executeCommands selfChecking .collector .root .empty ["all"] []).error = some e ∧
      e.cause = .cyclicCommand names ∧
      selfChecking.IsWalk ["all"] names ∧
      selfChecking.callsOf "all" "selector" = ["check"] ∧
      selfChecking.callsOf "check" "valgrind" = ["all"] ∧
      selfChecking.callsOf "all" "valgrind" = ["make"] := by
  intro names e
  have hnamed : selfChecking.plugins.WellNamed := PluginRegistry.wellNamed_standard
  have hnever : Executor.collector.NeverFails := fun _ _ => rfl
  -- the frames on the way, and what the names stand for in them
  let selecting : Frame := ⟨["all", "selector"], some "all"⟩
  let checking : Frame := ⟨["all", "selector", "check", "valgrind"], some "check"⟩
  have hall : selfChecking.referent .root "all" = .values ["selector"] := rfl
  have hselector : selfChecking.referent ((Frame.root.pushed "all").scopedTo "all") "selector" =
      .plugin (.builtIn .selector) := rfl
  have hcheck : selfChecking.referent selecting "check" = .values ["valgrind"] := rfl
  have hvalgrind : selfChecking.referent ((selecting.pushed "check").scopedTo "check") "valgrind" =
      .plugin (.builtIn .valgrind) := rfl
  have hagain : selfChecking.referent checking "all" = .cyclic := rfl
  have hinner : (Outcome.concat (selfChecking.outcomes checking (.ofArgs ["valgrind"])
      ["all"])).result = .error (.cyclicCommand names) := by
    rw [Configuration.outcomes_cons_of_cyclic _ hagain]
    exact Outcome.result_andThen_eq_error_iff.2 (Or.inl rfl)
  have hchecker : ((Leaf.application checking (.builtIn .valgrind)).outcome selfChecking
      .empty).result = .error (.within "valgrind" (.cyclicCommand names)) :=
    Leaf.result_outcome_of_resolve rfl hinner
  have hchosen : (Outcome.concat (selfChecking.outcomes selecting .empty ["check"])).result =
      .error (.within "valgrind" (.cyclicCommand names)) := by
    rw [Configuration.outcomes_cons_of_values _ hcheck,
      Configuration.outcomes_cons_of_plugin _ hvalgrind]
    exact Outcome.result_andThen_eq_error_iff.2 (Or.inl hchecker)
  have hchooser : ((Leaf.application selecting (.builtIn .selector)).outcome selfChecking
      .empty).result = .error e :=
    Leaf.result_outcome_of_resolve rfl hchosen
  have herror : (executeCommands selfChecking .collector .root .empty ["all"] []).error =
      some e := by
    rw [error_of_neverFails _ _ _ _ _ hnever, Configuration.outcomes_cons_of_values _ hall,
      Configuration.outcomes_cons_of_plugin _ hselector]
    exact Outcome.firstError_cons_of_error hchooser
  obtain ⟨before, command, after, hcommands, -, -, hwalk, -⟩ :=
    cyclicCommand_isWalk selfChecking hnamed .collector .empty ["all"] [] herror rfl
  have hcommand : command = "all" := by
    have hmem : command ∈ before ++ command :: after := by simp
    rw [← hcommands, List.mem_singleton] at hmem
    exact hmem
  rw [hcommand] at hwalk
  exact ⟨hnamed, herror, rfl, hwalk, rfl, rfl, rfl⟩

end Orchestrator
