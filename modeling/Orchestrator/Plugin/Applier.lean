import Orchestrator.Options
import Orchestrator.Plugin.Plan

/-!
# Appliers

An applier turns one setting, such as the number of jobs, into arguments of a task.  Many plugins
are a program followed by a list of appliers.

* `Applier.addDefaults`: the defaults of the setting that an applier reads.
* `Applier.apply`, `Applier.applyAll`: the task with the arguments.
* `environmentOf`: the environment variables that a configuration sets.
* `Strategy`: a plugin that is a program and its appliers.
-/

namespace Orchestrator

/-- Whether a tool takes long options or short ones. -/
inductive FlagStyle where
  | long
  | short
  deriving DecidableEq, Repr

/-- What turns one setting into arguments. -/
inductive Applier where
  /-- The number of jobs. -/
  | jobs (style : FlagStyle)
  /-- The directory to build in. -/
  | buildDir (style : FlagStyle)
  /-- A flag for when the tool is to be verbose. -/
  | verbosity (flag : String)
  /-- Arguments as they are. -/
  | commandLine
  /-- Environment variables. -/
  | environment
  /-- The working directory. -/
  | workingDir
  deriving DecidableEq, Repr

/-- A configuration with one more value of a setting. -/
def withDefault (key value : String) (t : SettingsTree) : SettingsTree :=
  SettingsTree.modifyAt (SettingsTree.appendLeaves [value]) [key] t

/-- A switch, as it stands in the settings. -/
def yesOrNo (b : Bool) : String :=
  if b then "yes" else "no"

/-- The environment variables that a configuration sets, with the last value of each. -/
def environmentOf (settings : SettingsTree) : List (String × String) :=
  match settings.child? Names.environment with
  | none => []
  | some node =>
    node.children.map fun entry =>
      (entry.key, ((entry.values?.getD []).getLast?).getD "")

namespace Applier

/-- Adds the defaults of the setting that an applier reads; most have none. -/
def addDefaults (options : RunOptions) : Applier → SettingsTree → SettingsTree
  | .jobs _, t => withDefault Names.jobs (toString options.jobs) t
  | .verbosity _, t => withDefault Names.verbose (yesOrNo options.verbose) t
  | _, t => t

/-- Adds to a task what an applier makes of its setting. -/
def apply (r : Request) (task : Task) : Applier → Except PluginFault Task
  | .jobs style => do
    match ← r.read? .count Names.jobs with
    | none => return task
    | some n =>
      let flag := match style with
        | .long => "--jobs"
        | .short => "-j"
      return task.appendAll [flag, toString n]
  | .buildDir style => do
    let dir ← r.readD .text Names.buildDir ""
    if dir = "" then return task
    match style with
    | .long => return task.append ("--directory=" ++ dir)
    | .short => return task.appendAll ["-C", dir]
  | .verbosity flag => do
    if ← r.readD .yesNo Names.verbose false then return task.append flag
    return task
  | .commandLine => do
    return task.appendAll (← r.readD .list Names.commandLine [])
  | .environment => return task.extendEnv (environmentOf r.settings)
  | .workingDir => do
    match ← r.read? .path Names.workingDir with
    | none => return task
    | some dir => return task.setWorkingDir dir

/-- Adds to a task what a list of appliers makes of the configuration, in order. -/
def applyAll (r : Request) : List Applier → Task → Except PluginFault Task
  | [], task => .ok task
  | a :: as, task =>
    match a.apply r task with
    | .ok task => applyAll r as task
    | .error e => .error e

end Applier

/-- A plugin that is a program and its appliers. -/
structure Strategy where
  name : String
  summary : String
  /-- The program. -/
  binary : String
  appliers : List Applier
  deriving DecidableEq, Repr

namespace Strategy

/-- The defaults of all appliers. -/
def defaults (s : Strategy) (options : RunOptions) : SettingsTree :=
  s.appliers.foldl (fun t a => a.addDefaults options t) (.leaf s.name)

/-- The task with the program and the arguments of all appliers. -/
def build (s : Strategy) (r : Request) : Except PluginFault Task :=
  Applier.applyAll r s.appliers (r.task.append s.binary)

/-- The built task, once for each combination of patterns. -/
def plan (s : Strategy) (r : Request) : Except PluginFault (List Step) :=
  (s.build r).map fun built => emitExpanded built r.patterns

/-- The appliers of a build system. -/
def buildAppliers (style : FlagStyle) (verboseFlag : String) : List Applier :=
  [.buildDir style, .jobs style, .verbosity verboseFlag, .commandLine, .environment, .workingDir]

/-- The build system `make`. -/
def gnuMake : Strategy :=
  ⟨"make", "Build with GNU make", "make", buildAppliers .long "--debug"⟩

/-- The build system `ninja`. -/
def ninja : Strategy :=
  ⟨"ninja", "Build with ninja", "ninja", buildAppliers .short "-v"⟩

/-- The build system `scons`. -/
def scons : Strategy :=
  ⟨"scons", "Build with SCons", "scons", buildAppliers .long "--debug=explain"⟩

end Strategy
end Orchestrator
