import Orchestrator.CommandLine.Invocation

/-!
# Reading a command line

An argument that starts with two dashes names a long option, with a value behind an equals sign if
there is one; one that starts with a single dash holds letters of short options, of which the first
that takes values has the rest of the argument as its value.  Two dashes alone end the options.  A
single dash alone, and any other argument, is a value of the option that is still open, or else a
command.

An option with an attached value has that one value.  An option without stays open: a setting until
it has its value, a pattern until the next option or the two dashes.  An open option is taken into
the invocation when it closes, and then its values are checked.

* `Shape`: what an argument looks like.
* `Reading`: how far the reading of a command line has come, with `close`, `settle` and `take`.
* `OptionTable.read`: the invocation of a list of arguments, or why there is none.
-/

namespace Orchestrator
namespace CommandLine

/-- What an argument looks like. -/
inductive Shape where
  /-- Two dashes alone. -/
  | endOfOptions
  /-- The name of a long option, and the text behind the first equals sign. -/
  | long (name : String) (value : Option String)
  /-- Letters of short options. -/
  | short (letters : List Char)
  /-- No option. -/
  | plain
  deriving DecidableEq, Repr

/-- What an argument looks like. -/
def Shape.ofArgument (arg : String) : Shape :=
  match arg.toList with
  | ['-', '-'] => .endOfOptions
  | '-' :: '-' :: rest =>
    .long (String.ofList (rest.takeWhile (· ≠ '=')))
      (match rest.dropWhile (· ≠ '=') with
        | [] => none
        | _ :: value => some (String.ofList value))
  | '-' :: c :: rest => .short (c :: rest)
  | _ => .plain

/-- What comes of a command line that is not run. -/
inductive Stop where
  | help
  | version
  | usage (error : UsageError)
  deriving DecidableEq, Repr

/-- An option that waits for values. -/
structure OpenOption where
  kind : OptionKind
  values : List String
  deriving DecidableEq, Repr

/-- Whether the next plain argument is a value of an open option. -/
def OpenOption.takesMore (o : OpenOption) : Bool :=
  match o.kind with
  | .pattern _ => true
  | .setting _ => o.values.isEmpty
  | _ => false

/-- How far the reading of a command line has come. -/
structure Reading where
  invocation : Invocation
  pending : Option OpenOption
  deriving DecidableEq, Repr

namespace Reading

/-- The start. -/
def start : Reading := ⟨.empty, none⟩

/-- Takes an option with all its values into an invocation. -/
def accept (i : Invocation) (kind : OptionKind) (values : List String) :
    Except UsageError Invocation :=
  match kind, values with
  | .switch s, _ => i.set s
  | .setting s, [] => .error (.missingValue (.setting s))
  | .setting s, value :: _ => i.assign s value
  | .pattern key, [] => .error (.missingValue (.pattern key))
  | .pattern key, value :: values => .ok (i.addValues key (value :: values))
  | .help, _ => .ok i
  | .version, _ => .ok i

/-- Closes the open option. -/
def close (r : Reading) : Except Stop Invocation :=
  match r.pending with
  | none => .ok r.invocation
  | some o => (accept r.invocation o.kind o.values).mapError .usage

/-- Closes the open option and takes another one with all its values. -/
def settle (r : Reading) (kind : OptionKind) (values : List String) : Except Stop Reading :=
  match r.close with
  | .error e => .error e
  | .ok i =>
    match kind with
    | .help => .error .help
    | .version => .error .version
    | kind =>
      match accept i kind values with
      | .ok i => .ok ⟨i, none⟩
      | .error e => .error (.usage e)

/-- Closes the open option and opens another one. -/
def openOption (r : Reading) (kind : OptionKind) : Except Stop Reading :=
  r.close.map fun i => ⟨i, some ⟨kind, []⟩⟩

/-- Closes the open option and takes a command. -/
def addCommand (r : Reading) (command : String) : Except Stop Reading :=
  r.close.map fun i => ⟨i.addCommand command, none⟩

/-- Takes an argument that is no option. -/
def take (r : Reading) (arg : String) : Except Stop Reading :=
  match r.pending with
  | none => r.addCommand arg
  | some o =>
    if o.takesMore then .ok { r with pending := some { o with values := o.values ++ [arg] } }
    else r.addCommand arg

/-- Takes arguments that are all commands. -/
def addCommands (r : Reading) : List String → Except Stop Invocation
  | [] => r.close
  | arg :: args =>
    match r.addCommand arg with
    | .ok r => addCommands r args
    | .error e => .error e

end Reading

namespace OptionTable

variable (table : OptionTable)

/-- Takes a long option. -/
def readLong (name : String) (value : Option String) (r : Reading) : Except Stop Reading :=
  match table.findLong? name with
  | none => .error (.usage (.unknownOption ("--" ++ name)))
  | some o =>
    match o.kind.takesValues, value with
    | true, some v => r.settle o.kind [v]
    | true, none => r.openOption o.kind
    | false, some _ => .error (.usage (.unexpectedValue o.kind))
    | false, none => r.settle o.kind []

/-- The value that is attached to a short option, without an equals sign in front. -/
def attached (rest : List Char) : String :=
  match rest with
  | '=' :: value => String.ofList value
  | value => String.ofList value

/-- Takes the letters of short options. -/
def readShort : List Char → Reading → Except Stop Reading
  | [], r => .ok r
  | c :: rest, r =>
    match table.findShort? c with
    | none => .error (.usage (.unknownOption ("-" ++ String.singleton c)))
    | some o =>
      if o.kind.takesValues then
        if rest.isEmpty then r.openOption o.kind else r.settle o.kind [attached rest]
      else
        match r.settle o.kind [] with
        | .ok r => readShort rest r
        | .error e => .error e

/-- Takes arguments in order. -/
def readFrom : List String → Reading → Except Stop Invocation
  | [], r => r.close
  | arg :: args, r =>
    let next := match Shape.ofArgument arg with
      | .endOfOptions => none
      | .long name value => some (table.readLong name value r)
      | .short letters => some (table.readShort letters r)
      | .plain => some (r.take arg)
    match next with
    | none => r.addCommands args
    | some (.ok r) => readFrom args r
    | some (.error e) => .error e

/-- The invocation of a list of arguments, which does not hold the name of the program. -/
def read (args : List String) : Except Stop Invocation :=
  table.readFrom args .start

end OptionTable
end CommandLine
end Orchestrator
