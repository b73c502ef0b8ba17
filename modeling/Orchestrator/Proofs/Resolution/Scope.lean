import Orchestrator.Proofs.Resolution.Visits

/-!
# The command to which plugins are scoped

The settings of a plugin have a section for each command that it may run for, and the plugin reads
the one for the command of its frame.  A frame gets its command in three ways: a section of the
settings sets it, a plugin keeps it, and a plugin that wraps commands fixes the one that it runs for
itself.  However these are nested, the command can be read off the chain.

* `PluginRegistry.WellNamed`: each plugin is registered under its own name, which holds of every
  registry that is made by registering plugins.
* `Configuration.scope?`: **the last name of a chain that is no plugin**, or the first one when all
  are plugins.
* `Configuration.Visits.initialCommand_eq`: the invariant, that the command of a visited frame is
  the scope of its chain.
* `applications_scoped`: every plugin that is applied reads its section for the scope of its chain.
-/

namespace Orchestrator

/-! ## Registries -/

namespace PluginRegistry

/-- Whether each plugin stands under its own name. -/
def WellNamed (r : PluginRegistry) : Prop :=
  ∀ name p, r.get? name = some p → p.name = name

theorem get?_register (r : PluginRegistry) (p : Plugin) (name : String) :
    (r.register p).get? name = if p.name = name then some p else r.get? name :=
  KeyedMap.get?_insert r.byName p.name name p

theorem wellNamed_empty : empty.WellNamed := by
  intro name p h
  cases h

theorem WellNamed.register {r : PluginRegistry} (h : r.WellNamed) (p : Plugin) :
    (r.register p).WellNamed := by
  intro name q hq
  rw [get?_register] at hq
  by_cases hname : p.name = name
  · rw [if_pos hname] at hq
    cases hq
    exact hname
  · rw [if_neg hname] at hq
    exact h name q hq

theorem WellNamed.foldl_register {r : PluginRegistry} (h : r.WellNamed) (ps : List Plugin) :
    (ps.foldl PluginRegistry.register r).WellNamed := by
  induction ps generalizing r with
  | nil => exact h
  | cons p ps ih => exact ih (h.register p)

/-- The plugins that every run has stand under their own names. -/
theorem wellNamed_standard : standard.WellNamed :=
  wellNamed_empty.foldl_register _

end PluginRegistry

namespace Configuration

/-! ## The scope of a chain -/

section

variable (cfg : Configuration) {name : String}

/-- The last name of a chain that is not the name of a plugin, or the first name of the chain when
each of its names is. -/
def scope? (chain : List String) : Option String :=
  ((chain.filter fun name => (cfg.plugins.get? name).isNone).getLast?).or chain.head?

/-- A name that is no plugin is the scope from its place on. -/
theorem scope?_append_of_section (h : cfg.plugins.get? name = none) (chain : List String) :
    cfg.scope? (chain ++ [name]) = some name := by
  simp [scope?, h]

/-- A plugin keeps the scope, and is its own scope at the top. -/
theorem scope?_append_of_plugin {p : Plugin} (h : cfg.plugins.get? name = some p)
    (chain : List String) : cfg.scope? (chain ++ [name]) = (cfg.scope? chain).or (some name) := by
  cases chain with
  | nil => simp [scope?, h]
  | cons first rest =>
    have hhead : (first :: rest ++ [name]).head? = (first :: rest).head? := rfl
    rw [scope?, scope?, List.filter_append, hhead]
    simp [h]

end

variable {cfg : Configuration} {base : Task} {requested : List String} {f : Frame} {t : Task}
  {name : String}

theorem plugins_get?_of_referent_values {values : List String}
    (h : cfg.referent f name = .values values) : cfg.plugins.get? name = none := by
  unfold referent at h
  split at h
  · split at h <;> cases h
  · assumption
  · cases h

/-- **The invariant**: the command of a visited frame is the scope of its chain. -/
theorem Visits.initialCommand_eq (hcfg : cfg.plugins.WellNamed)
    (h : cfg.Visits base requested f t name) : f.initialCommand = cfg.scope? f.chain := by
  induction h with
  | requested hname => rfl
  | @value f t name v values hvisit hvalues hv ih =>
    exact (cfg.scope?_append_of_section (plugins_get?_of_referent_values hvalues) f.chain).symm
  | @wrapped f t u name command p steps commands hvisit hp hsteps hstep hcommand ih =>
    -- the wrapper passes on the command that it runs for itself
    obtain ⟨hplugin, -⟩ := get?_of_referent_plugin hp
    show some (f.initialCommand.getD p.name) = cfg.scope? (f.chain ++ [name])
    rw [cfg.scope?_append_of_plugin hplugin, ih, hcfg name p hplugin]
    cases cfg.scope? f.chain <;> rfl

/-- A plugin that is applied runs for the scope of its chain. -/
theorem Applies.scope?_chain {p : Plugin} (hcfg : cfg.plugins.WellNamed)
    (h : cfg.Applies base requested f p t) :
    cfg.scope? f.chain = some (f.scopedCommand p.name) := by
  obtain ⟨g, name, hvisit, hp, rfl⟩ := h
  obtain ⟨hplugin, -⟩ := get?_of_referent_plugin hp
  have hcommand : g.initialCommand = cfg.scope? g.chain := hvisit.initialCommand_eq hcfg
  show cfg.scope? (g.chain ++ [name]) = some (g.initialCommand.getD p.name)
  rw [cfg.scope?_append_of_plugin hplugin, hcommand, hcfg name p hplugin]
  cases cfg.scope? g.chain <;> rfl

end Configuration

/-- **The scope of the settings.**  From the top, whatever the plugins are nested in, each plugin
that is applied runs for the last name of its chain that is no plugin, or for the first name of the
chain when all are plugins.  Its configuration is its defaults under its section, under its section
for this name, and this is what the plugin is given. -/
theorem applications_scoped (cfg : Configuration) (hcfg : cfg.plugins.WellNamed) {σ : Type}
    (x : Executor σ) (base : Task) (commands : List String) (s : σ) :
    (∀ f p t, cfg.Applies base commands f p t → ∃ scope, cfg.scope? f.chain = some scope ∧
        f.scopedCommand p.name = scope ∧
        cfg.pluginVariables f p = ((p.defaults cfg.options).overwriteWith cfg.settings
          [p.name]).overwriteWith cfg.settings [p.name, scope]) ∧
      (x.AppliesNothing →
        ∀ a ∈ Entry.applications (executeCommands cfg x .root base commands s).journal,
          ∃ f scope, cfg.Applies base commands f a.plugin a.request.task ∧
            cfg.scope? f.chain = some scope ∧ a.request.command = scope ∧
            a.request.settings = ((a.plugin.defaults cfg.options).overwriteWith cfg.settings
              [a.plugin.name]).overwriteWith cfg.settings [a.plugin.name, scope]) := by
  have hscope : ∀ f p t, cfg.Applies base commands f p t →
      cfg.scope? f.chain = some (f.scopedCommand p.name) :=
    fun f p t h => h.scope?_chain hcfg
  constructor
  · intro f p t h
    exact ⟨f.scopedCommand p.name, hscope f p t h, rfl, rfl⟩
  · intro hx a ha
    obtain ⟨f, patterns, happlies, hrequest⟩ :=
      applies_of_mem_applications cfg base commands s hx ha
    refine ⟨f, f.scopedCommand a.plugin.name, happlies, hscope f _ _ happlies, ?_, ?_⟩
    · rw [hrequest]
      rfl
    · rw [hrequest]
      rfl

/-- A command that runs another one under a memory checker, with numbers of jobs for both. -/
def nestedScopes : Configuration where
  options := default
  settings := .node Names.root
    [.node "check" [.leaf "valgrind"],
      .node "valgrind" [.node Names.runCommand [.leaf "lib", .leaf "make"]],
      .node "lib" [.leaf "make"],
      .node "make" [.node Names.jobs [.leaf "4"],
        .node "check" [.node Names.jobs [.leaf "8"]],
        .node "lib" [.node Names.jobs [.leaf "2"]]]]
  patterns := .empty
  plugins := .standard

/-- The build stands twice inside the checker: inside the library, where it takes the two jobs for
the library, and directly, where it takes the eight jobs for the command that the checker runs
for. -/
theorem applications_scoped_nestedScopes :
    let lib : Frame := ⟨["check", "valgrind", "lib", "make"], some "lib"⟩
    let direct : Frame := ⟨["check", "valgrind", "make"], some "check"⟩
    let task : Task := .ofArgs ["valgrind"]
    let make : Plugin := .strategy .gnuMake
    nestedScopes.plugins.WellNamed ∧
      nestedScopes.Applies .empty ["check"] lib make task ∧
      nestedScopes.Applies .empty ["check"] direct make task ∧
      nestedScopes.scope? lib.chain = some "lib" ∧
      nestedScopes.scope? direct.chain = some "check" ∧
      (nestedScopes.pluginVariables lib make).get? [Names.jobs] = some ["2"] ∧
      (nestedScopes.pluginVariables direct make).get? [Names.jobs] = some ["8"] ∧
      ∀ a ∈ Entry.applications
          (executeCommands nestedScopes Executor.collector .root .empty ["check"] []).journal,
        ∃ f, nestedScopes.Applies .empty ["check"] f a.plugin a.request.task ∧
          nestedScopes.scope? f.chain = some a.request.command := by
  intro lib direct task make
  have hnamed : nestedScopes.plugins.WellNamed := PluginRegistry.wellNamed_standard
  have hquiet : Executor.collector.AppliesNothing := fun _ _ => rfl
  have hcheck : nestedScopes.Visits .empty ["check"] .root .empty "check" :=
    .requested List.mem_cons_self
  have hvalues : nestedScopes.referent .root "check" = .values ["valgrind"] := rfl
  have hvalgrind : nestedScopes.Visits .empty ["check"] ⟨["check"], some "check"⟩ .empty
      "valgrind" :=
    hcheck.value hvalues List.mem_cons_self
  have hsteps : (nestedScopes.prepare ⟨["check", "valgrind"], some "check"⟩ (.builtIn .valgrind)
      .empty).result = .ok [.resolve ["lib", "make"] task] := rfl
  have hwrapped : ∀ command ∈ ["lib", "make"], nestedScopes.Visits .empty ["check"]
      ⟨["check", "valgrind"], some "check"⟩ task command := fun command hcommand =>
    hvalgrind.wrapped (p := .builtIn .valgrind) rfl hsteps List.mem_cons_self hcommand
  have hlibrary : nestedScopes.referent ⟨["check", "valgrind"], some "check"⟩ "lib" =
      .values ["make"] := rfl
  have hmake : nestedScopes.Visits .empty ["check"] ⟨["check", "valgrind", "lib"], some "lib"⟩ task
      "make" :=
    (hwrapped "lib" (by decide)).value hlibrary List.mem_cons_self
  have hlib : nestedScopes.Applies .empty ["check"] lib make task := ⟨_, "make", hmake, rfl, rfl⟩
  have hdirect : nestedScopes.Applies .empty ["check"] direct make task :=
    ⟨_, "make", hwrapped "make" (by decide), rfl, rfl⟩
  obtain ⟨happlies, hjournal⟩ :=
    applications_scoped nestedScopes hnamed Executor.collector .empty ["check"] []
  obtain ⟨scope, hscope, hscoped, -⟩ := happlies lib make task hlib
  obtain ⟨scope', hscope', hscoped', -⟩ := happlies direct make task hdirect
  refine ⟨hnamed, hlib, hdirect, ?_, ?_, rfl, rfl, fun a ha => ?_⟩
  · rw [hscope, ← hscoped]
    rfl
  · rw [hscope', ← hscoped']
    rfl
  · obtain ⟨f, scope, hf, hchain, hcommand, -⟩ := hjournal hquiet a ha
    exact ⟨f, hf, hcommand ▸ hchain⟩

end Orchestrator
