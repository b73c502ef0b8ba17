import Orchestrator.Machine.Basic
import Orchestrator.Pattern.Registry
import Orchestrator.Settings.Document
import Orchestrator.Shell.Expansion

/-!
# The settings file of a run

The settings file is the one that the command line names, or else the first of the usual name in the
working directory, in one of the directories around it, or in the home directory.

* `LoadError`: why there are no settings.
* `Machine.findSettings`: the location of the settings file.
* `Machine.loadSettings`: the settings and the patterns in it.
-/

namespace Orchestrator

/-- Why there are no settings. -/
inductive LoadError where
  /-- The path names a variable that is not set. -/
  | unsetVariable (path unset : String)
  /-- There is no file at the path. -/
  | missing (path : String)
  /-- No file was found from a directory on. -/
  | notFound (dir : String)
  /-- The file holds bytes that are no text. -/
  | notText (path : String)
  | document (path : String) (source : DocumentError)
  deriving DecidableEq, Repr

/-- The wording of an error. -/
def LoadError.message : LoadError → String
  | .unsetVariable path unset =>
    s!"Could not expand path '{path}': error looking key '{unset}' up: " ++
      "environment variable not found"
  | .missing path => s!"Settings file '{path}' does not exist"
  | .notFound dir =>
    s!"Could not find a '{Names.settingsFile}' settings file in '{dir}', its parents or the " ++
      "home directory"
  | .notText path =>
    s!"Could not read settings file '{path}': stream did not contain valid UTF-8"
  | .document path source => source.message path

/-- The wording of an error with that of its cause. -/
def LoadError.report (e : LoadError) : String :=
  match e with
  | .notText _ => e.message ++ ": stream did not contain valid UTF-8"
  | e => e.message

/-- What a settings file holds. -/
structure LoadedSettings where
  /-- The settings without the inline patterns. -/
  settings : SettingsTree
  patterns : PatternRegistry
  /-- The directory of the file. -/
  rootDir : Path

namespace Machine

/-- The home directory: the one that the environment names, or else the one of the account. -/
def home? (m : Machine) : Option String :=
  ((m.environment.valueOf? "HOME").filter (· ≠ "")).or m.accountHome

/-- The paths at which a settings file is searched for, in order. -/
def candidates (m : Machine) : List Path :=
  (m.workingDir.path.ancestors ++ (m.home?.map Path.ofText).toList).map
    (Path.join · (.ofText Names.settingsFile))

/-- The path that the command line names, seen from the working directory. -/
def namedPath (m : Machine) (path : String) : Except LoadError Path :=
  match Shell.expandPath m.home? m.environment path with
  | .error e => .error (.unsetVariable path e.name)
  | .ok expanded => .ok (m.workingDir.path.join (.ofText expanded))

/-- The path of the settings file. -/
def settingsPath (m : Machine) : Option String → Outcome LoadError Path
  | some path =>
    match m.namedPath path with
    | .error e => .error e
    | .ok path =>
      if m.files.isFile m.workingDir path then .ok path else .error (.missing path.text)
  | none =>
    match m.candidates.find? (m.files.isFile m.workingDir) with
    | some path => (Outcome.ok path).noting (.log (.settingsFound path.text))
    | none => .error (.notFound m.workingDir.text)

/-- The location of the settings file. -/
def findSettings (m : Machine) (named : Option String) : Outcome LoadError Location :=
  (m.settingsPath named).andThen fun path =>
    match m.files.locate m.workingDir path with
    | .ok l => .ok l
    | .error _ => .error (.missing path.text)

/-- The settings of a document, without its inline patterns, in the file at a location. -/
def takeSettings (l : Location) (tree : SettingsTree) : Outcome LoadError LoadedSettings :=
  let found := InlinePatterns.extract tree
  let loaded :=
    .settingsLoaded found.rest.children.length found.registry.toList.length l.text
  ⟨found.refused.map (fun r => .log (.patternIgnored r.1 r.2)) ++ [.log loaded],
    .ok ⟨found.rest, found.registry, Location.path l.dropLast⟩⟩

/-- The settings in the file at a location. -/
def readSettings (m : Machine) (l : Location) : Outcome LoadError LoadedSettings :=
  match (m.files.content? l).bind String.fromUTF8? with
  | none => .error (.notText l.text)
  | some text =>
    match SettingsTree.parse text with
    | .error e => .error (.document l.text e)
    | .ok tree => takeSettings l tree

/-- The settings of a run. -/
def loadSettings (m : Machine) (named : Option String) : Outcome LoadError LoadedSettings :=
  (m.findSettings named).andThen m.readSettings

end Machine
end Orchestrator
