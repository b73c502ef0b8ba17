import Orchestrator.Journal
import Orchestrator.Regex.Meaning
import Orchestrator.Text.Terminal

/-!
# What of the log is shown

Each message comes from a module of the program.  A filter is a list of rules, each with the level
up to which messages are shown and, if it is not for all messages, how the names of the modules
begin for which it holds.  The rule with the longest name decides.  Besides, a filter may ask for
messages in which a regular expression is found.

* `Message.origin`: where a message comes from.
* `LogFilter.ofSpecification`: the filter that a level and the text of an environment variable give;
  what is wrong in the text is reported.
* `LogFilter.shows`: whether a message is shown.
* `Entry.errorLines`: what goes to the standard error stream, log lines among it.
-/

namespace Orchestrator

/-- The module of the program from which a message comes. -/
def Message.origin : Message → String
  | .scanned _ => "exec_helper"
  | .shortOptionTaken .. | .longOptionTaken .. => "exec_helper::cli"
  | .overrideIgnored .. | .overridden _ => "exec_helper::cli"
  | .parsed _ => "exec_helper::cli::handlers::run"
  | .patternIgnored .. | .settingsFound _ | .settingsLoaded .. => "exec_helper::core::config_loader"
  | .patternReplaced _ => "exec_helper::core::pattern"
  | .executing _ | .succeeded _ | .stopping _ => "exec_helper::core::commander"
  | .patternUnregistered .. | .resolving .. | .produced .. => "exec_helper::core::dispatcher"
  | .merging .. => "exec_helper::core::variables"
  | .selecting .. => "exec_helper::plugins::selector"
  | .continuing .. | .programMissing _ => "exec_helper::system::executor"

/-- The module of the program from which it comes that a plugin is applied. -/
def Application.origin : String := "exec_helper::core::dispatcher"

/-- A rule of a filter. -/
structure LogRule where
  /-- How the names of the modules begin for which the rule holds; without it the rule is for
  all. -/
  name : Option String
  level : LogLevel
  deriving DecidableEq, Repr

/-- Rules, and what has to be found in the messages that are shown. -/
structure LogFilter where
  rules : List LogRule
  expression : Option Regex
  deriving DecidableEq, Repr

/-- What of a message counts for a filter. -/
structure LogRecord where
  origin : String
  level : LogLevel
  text : String
  deriving DecidableEq, Repr

namespace LogFilter

/-- The filter of a level. -/
def ofLevel (level : LogLevel) : LogFilter := ⟨[⟨none, level⟩], none⟩

/-- Puts a rule at the end of others, or in the place of the one with the same name. -/
def putRule (r : LogRule) : List LogRule → List LogRule
  | [] => [r]
  | s :: rules => if s.name = r.name then r :: rules else s :: putRule r rules

/-- The filter with one more rule. -/
def addRule (f : LogFilter) (r : LogRule) : LogFilter :=
  { f with rules := putRule r f.rules }

/-- The level of a name in a specification, in any case. -/
def levelLabeled? (s : String) : Option LogLevel :=
  LogLevel.all.find? fun l => Text.sameIgnoringCase l.label s

/-- The rule that a part of a specification gives, or what is wrong with it. -/
def rule (part : List Char) : Except String LogRule :=
  match part.splitOn '=' with
  | [name] =>
    match levelLabeled? (String.ofList name) with
    | some level => .ok ⟨none, level⟩
    | none => .ok ⟨some (String.ofList name), .trace⟩
  | [name, level] =>
    let level := String.ofList (Text.trimBlanks level)
    if level = "" then .ok ⟨some (String.ofList name), .trace⟩
    else
      match levelLabeled? level with
      | some level => .ok ⟨some (String.ofList name), level⟩
      | none => .error ("invalid logging spec '" ++ level ++ "'")
  | _ => .error ("invalid logging spec '" ++ String.ofList part ++ "'")

/-- Adds the rules of the parts of a specification; what is wrong with the others is returned. -/
def addParts : List (List Char) → LogFilter → LogFilter × List String
  | [], f => (f, [])
  | part :: parts, f =>
    if part = [] then addParts parts f
    else
      match rule part with
      | .ok r => addParts parts (f.addRule r)
      | .error e =>
        let (f, es) := addParts parts f
        (f, e :: es)

/-- The filter with an expression, or what is wrong with the expression. -/
def addExpression (f : LogFilter) (expression : String) : LogFilter × List String :=
  match Regex.ofText expression with
  | .ok r => ({ f with expression := some r }, [])
  | .error e => (f, ["invalid regex filter - " ++ e])

/-- The filter of a level, with the rules and the expression of a specification. -/
def ofSpecification (level : LogLevel) (specification : String) : LogFilter × List String :=
  let withRules (rules : List Char) :=
    addParts ((rules.splitOn ',').map Text.trimBlanks) (ofLevel level)
  match specification.toList.splitOn '/' with
  | [rules] => withRules rules
  | [rules, expression] =>
    let (f, es) := withRules rules
    let (f, more) := f.addExpression (String.ofList expression)
    (f, es ++ more)
  | _ =>
    (ofLevel level, ["invalid logging spec '" ++ specification ++ "' (too many '/'s)"])

/-- Whether a rule is for a module. -/
def applies (origin : String) (r : LogRule) : Bool :=
  match r.name with
  | none => true
  | some name => name.toList.isPrefixOf origin.toList

/-- How long the name of a rule is, in bytes of UTF-8. -/
def nameLength (r : LogRule) : Nat :=
  (r.name.getD "").utf8ByteSize

/-- The rule that decides of two; of two with names of one length it is the later one. -/
def narrower (a b : LogRule) : LogRule :=
  if nameLength a ≤ nameLength b then b else a

/-- The level up to which messages of a module are shown. -/
def threshold (f : LogFilter) (origin : String) : LogLevel :=
  match f.rules.filter (applies origin) with
  | [] => .none
  | r :: rs => (rs.foldl narrower r).level

/-- Whether a message is shown. -/
def shows (f : LogFilter) (r : LogRecord) : Bool :=
  r.level.rank ≤ (f.threshold r.origin).rank &&
    (f.expression.map fun e => e.isFoundIn r.text).getD true

/-- A message as it stands in the log: further lines are indented, and terminal sequences are left
out. -/
def line (r : LogRecord) : String :=
  let indented := r.text.toList.flatMap fun c =>
    if c = '\n' then ['\n', ' ', ' ', ' ', ' '] else [c]
  Text.writtenWithoutSequences (r.level.label ++ " " ++ String.ofList indented ++ "\n")

/-- The log line of a message, if it is shown. -/
def line? (f : LogFilter) (r : LogRecord) : Option String :=
  if f.shows r then some (line r) else none

end LogFilter

namespace Entry

/-- The text of an entry for the standard error stream. -/
def errorLine? (f : LogFilter) : Entry → Option String
  | .log m => f.line? ⟨m.origin, m.level, m.text⟩
  | .applied a => f.line? ⟨Application.origin, .trace, a.text⟩
  | .err text => some text
  | .out _ => none

/-- The text of a journal for the standard error stream, log lines among it. -/
def errorLines (f : LogFilter) (journal : List Entry) : String :=
  String.join (journal.filterMap (errorLine? f))

end Entry
end Orchestrator
