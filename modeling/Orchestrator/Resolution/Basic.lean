import Orchestrator.Execution.Executor
import Orchestrator.Resolution.Context

/-!
# Resolution of commands

A command is the name of a plugin, which is applied with its merged configuration, or a section of
the settings, whose values are the names of further commands.  Tasks are handed to the executor as
soon as the plugin that produced them has succeeded; the first failure ends a list of commands, and
tasks that were handed over stay handed over.

A plugin answers with a plan.  The commands that a plan asks for are resolved into a list first, so
that a plugin that fails hands over nothing.

* `Configuration.pluginVariables`, `Configuration.selectPatterns`: what a plugin is given.
* `executeCommands`, `executeCommand`, `perform`: the resolution, which ends since each name that
  it enters is no longer fresh.
* `resolveCommands`: the tasks of some commands as a list.
-/

namespace Orchestrator

namespace Configuration

/-- The configuration of a plugin: its defaults under the settings for it. -/
def pluginVariables (cfg : Configuration) (f : Frame) (p : Plugin) : SettingsTree :=
  SettingsTree.mergeScoped (p.defaults cfg.options) cfg.settings p.name (f.scopedCommand p.name)

/-- The registered patterns of some names.  A name that is not registered is passed over with a
warning, or is an error when the options say so. -/
def selectPatterns (cfg : Configuration) (plugin : String) :
    List String → Outcome DispatchError (List Pattern)
  | [] => .ok []
  | key :: keys =>
    match cfg.patterns.get? key with
    | some p => (cfg.selectPatterns plugin keys).map (p :: ·)
    | none =>
      if cfg.options.strictPatterns then .error (.unregisteredPattern plugin key)
      else (cfg.selectPatterns plugin keys).noting (.log (.patternUnregistered key plugin))

/-- The patterns that the configuration of a plugin selects. -/
def activePatterns (cfg : Configuration) (plugin : String) (settings : SettingsTree) :
    Outcome DispatchError (List Pattern) :=
  cfg.selectPatterns plugin (settings.getD [Names.patterns] [])

/-- What is said about the commands that a plugin selects. -/
def selection (p : Plugin) (r : Request) : List Entry :=
  match p, p.plan r with
  | .builtIn .selector, .ok [.resolve commands _] => [.log (.selecting r.command commands)]
  | _, _ => []

/-- Asks a plugin for its plan. -/
def planOf (p : Plugin) (r : Request) : Outcome DispatchError (List Step) :=
  ⟨.applied ⟨p, r⟩ :: selection p r, (p.plan r).mapError (.fault p.name)⟩

/-- What is said about the sections of the settings that count for a plugin. -/
def sections (cfg : Configuration) (f : Frame) (p : Plugin) : List Entry :=
  ([[p.name], [p.name, f.scopedCommand p.name]].filter fun path =>
    (cfg.settings.childAt? path).isSome).map fun path => .log (.merging path p.name)

/-- Asks a plugin for its plan in a frame, with its own configuration and patterns. -/
def prepare (cfg : Configuration) (f : Frame) (p : Plugin) (task : Task) :
    Outcome DispatchError (List Step) :=
  let settings := cfg.pluginVariables f p
  ((cfg.activePatterns p.name settings).andThen fun patterns =>
    planOf p ⟨f.scopedCommand p.name, settings, patterns, task⟩).after (cfg.sections f p)

end Configuration

mutual

/-- Resolves commands in order on top of a task and hands their tasks to an executor. -/
def executeCommands (cfg : Configuration) {σ : Type} (x : Executor σ) (f : Frame) (task : Task) :
    List String → σ → Progress DispatchError σ
  | [], s => .done s
  | command :: commands, s =>
    (executeCommand cfg x f task command s).andThen (executeCommands cfg x f task commands)
termination_by commands => ((cfg.freshNames f).length, 0, commands.length + 1)
decreasing_by
  · simp only [List.length_cons]
    decreasing_tactic
  · simp only [List.length_cons]
    decreasing_tactic

/-- Resolves one command on top of a task and hands its tasks to an executor. -/
def executeCommand (cfg : Configuration) {σ : Type} (x : Executor σ) (f : Frame) (task : Task)
    (command : String) (s : σ) : Progress DispatchError σ :=
  match _hp : cfg.plugins.get? command with
  | some p =>
    match _hf : f.enter command with
    | .error e => .failed s e
    | .ok inner =>
      let planned := cfg.prepare inner p task
      let produced := planned.andThen fun steps =>
        perform cfg (inner.scopedTo (inner.scopedCommand p.name)) p.name steps
      match produced.result with
      | .error e => ⟨produced.journal, s, some e⟩
      | .ok tasks =>
        ((x.executeAll tasks s).mapError .execution).after
          (produced.journal ++ [.log (.produced command tasks.length)])
  | none =>
    match _hs : cfg.settings.get? [command] with
    | none => .failed s (.unknownCommand command)
    | some subCommands =>
      match _hf : f.descend command with
      | .error e => .failed s e
      | .ok inner =>
        (executeCommands cfg x inner task subCommands s).noting
          (.log (.resolving command subCommands))
termination_by ((cfg.freshNames f).length, 0, 1)
decreasing_by
  · have h := Frame.chain_of_enter _hf
    have := Configuration.length_freshNames_lt (Configuration.mem_knownNames_of_plugin _hp) h.1
      (g := inner.scopedTo (inner.scopedCommand p.name)) h.2
    exact Prod.Lex.left _ _ this
  · have h := Frame.chain_of_descend _hf
    have := Configuration.length_freshNames_lt (Configuration.mem_knownNames_of_settings _hs) h.1 h.2
    exact Prod.Lex.left _ _ this

/-- Carries out the steps of the plan of a plugin and collects the tasks. -/
def perform (cfg : Configuration) (f : Frame) (plugin : String) :
    List Step → Outcome DispatchError (List Task)
  | [] => .ok []
  | .emit t :: steps => (perform cfg f plugin steps).map (t :: ·)
  | .resolve commands t :: steps =>
    ((executeCommands cfg Executor.collector f t commands []).toOutcome.mapError
      (.within plugin)).andThen fun tasks =>
        (perform cfg f plugin steps).map (tasks ++ ·)
termination_by steps => ((cfg.freshNames f).length, 1, steps.length)
decreasing_by
  · simp only [List.length_cons]
    decreasing_tactic
  · exact Prod.Lex.right _ (Prod.Lex.left _ _ (by decide))
  · simp only [List.length_cons]
    decreasing_tactic

end

/-- The tasks of some commands on top of a task. -/
def resolveCommands (cfg : Configuration) (f : Frame) (task : Task) (commands : List String) :
    Outcome DispatchError (List Task) :=
  (executeCommands cfg Executor.collector f task commands []).toOutcome

/-- The tasks of a plugin that is applied to a request, with the commands that it wraps resolved in
a frame. -/
def applyPlugin (cfg : Configuration) (f : Frame) (p : Plugin) (r : Request) :
    Outcome DispatchError (List Task) :=
  (Configuration.planOf p r).andThen fun steps =>
    perform cfg (f.scopedTo r.command) p.name steps

end Orchestrator
