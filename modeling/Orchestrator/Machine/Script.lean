/-!
# Shell scripts

A script is a list of simple commands, joined by semicolons, line ends, `&&` and `||`.  A command
has words and redirections of its output.  A word is put together from text and from parameters such
as `$HOME` or `${A:-b}`, each of them quoted or not.  Pipes, jobs in the background, nested commands
and input redirections are no part of this language, and a script with one of them is refused.

* `WordPart`, `Token`: what the characters of a script form; `Token.ofScript?` forms them.
* `ScriptStep`: a command and the condition under which it runs; `ScriptStep.ofScript?` reads them.
-/

namespace Orchestrator
namespace Machine

/-! ## Words -/

/-- A part of a word. -/
inductive WordPart where
  | text (text : List Char) (quoted : Bool)
  /-- The value of a parameter, or the text that stands in for it when it has no value. -/
  | parameter (name : String) (fallback : Option (List Char)) (quoted : Bool)
  deriving DecidableEq, Repr

/-- A word of a script. -/
abbrev ScriptWord := List WordPart

/-- The word with one more character. -/
def addToWord (c : Char) (quoted : Bool) (w : ScriptWord) : ScriptWord :=
  match w.getLast? with
  | some (.text t q) =>
    if q = quoted then w.dropLast ++ [.text (t ++ [c]) q] else w ++ [.text [c] quoted]
  | _ => w ++ [.text [c] quoted]

/-- What the characters of a script form. -/
inductive Token where
  | word (word : ScriptWord)
  /-- A sign with a meaning of its own. -/
  | sign (sign : Char)
  /-- A redirection of what goes to a descriptor. -/
  | redirect (descriptor : Nat)
  deriving DecidableEq, Repr

/-- What the next character is seen as. -/
inductive ScanMode where
  | plain
  | comment
  | single
  | double
  /-- Behind a backslash. -/
  | escape (inDouble : Bool)
  /-- Behind a dollar sign. -/
  | dollar (inDouble : Bool)
  /-- In the name of a parameter. -/
  | name (soFar : List Char) (inDouble : Bool)
  /-- In a parameter between braces. -/
  | brace (soFar : List Char) (inDouble : Bool)
  deriving DecidableEq, Repr

/-- How far the scan of a script has come. -/
structure Scan where
  mode : ScanMode
  word : Option ScriptWord
  tokens : List Token
  deriving DecidableEq, Repr

namespace Scan

/-- The mode outside of a parameter. -/
def outer (inDouble : Bool) : ScanMode :=
  if inDouble then .double else .plain

/-- Takes a character into the word. -/
def add (s : Scan) (c : Char) (quoted : Bool) : Scan :=
  { s with word := some (addToWord c quoted (s.word.getD [])) }

/-- Takes a part into the word. -/
def addPart (s : Scan) (p : WordPart) : Scan :=
  { s with word := some (s.word.getD [] ++ [p]) }

/-- Ends the word. -/
def endWord (s : Scan) : Scan :=
  match s.word with
  | none => s
  | some w => { s with word := none, tokens := s.tokens ++ [.word w] }

/-- Takes a token behind the word. -/
def addToken (s : Scan) (t : Token) : Scan :=
  { s.endWord with tokens := s.endWord.tokens ++ [t] }

/-- Changes the mode; a quote starts a word even when nothing stands between it and its partner. -/
def openQuote (s : Scan) (mode : ScanMode) : Scan :=
  { s with mode, word := some (s.word.getD []) }

/-- The number that a word of digits without quotes is. -/
def descriptor? (w : Option ScriptWord) : Option Nat :=
  match w with
  | some [.text t false] => if t.all Char.isDigit then (String.ofList t).toNat? else none
  | _ => none

/-- A character outside of quotes. -/
def plain (s : Scan) (c : Char) : Scan :=
  match c with
  | ' ' => s.endWord
  | '\t' => s.endWord
  | '\'' => s.openQuote .single
  | '"' => s.openQuote .double
  | '\\' => { s with mode := .escape false }
  | '$' => { s with mode := .dollar false }
  | '#' => if s.word.isNone then { s with mode := .comment } else s.add c false
  | '>' =>
    match descriptor? s.word with
    | some n => { s with word := none, tokens := s.tokens ++ [.redirect n] }
    | none => s.addToken (.redirect 1)
  | c =>
    if ['\n', ';', '&', '|', '(', ')', '<', '`'].contains c then s.addToken (.sign c)
    else s.add c false

/-- A character between double quotes. -/
def double (s : Scan) (c : Char) : Scan :=
  match c with
  | '"' => { s with mode := .plain }
  | '\\' => { s with mode := .escape true }
  | '$' => { s with mode := .dollar true }
  | c => s.add c true

/-- A character in the mode outside of a parameter. -/
def resume (s : Scan) (inDouble : Bool) (c : Char) : Scan :=
  let s := { s with mode := outer inDouble }
  if inDouble then s.double c else s.plain c

/-- Whether a name may start with a character. -/
def startsName (c : Char) : Bool :=
  c.isAlpha || c == '_'

/-- The parameter that is written between braces. -/
def braced (inside : List Char) (quoted : Bool) : WordPart :=
  let name := inside.takeWhile fun c => startsName c || c.isDigit
  match inside.drop name.length with
  | ':' :: '-' :: fallback => .parameter (String.ofList name) (some fallback) quoted
  | '-' :: fallback => .parameter (String.ofList name) (some fallback) quoted
  | rest => .parameter (String.ofList (name ++ rest)) none quoted

/-- The next character. -/
def step (s : Scan) (c : Char) : Scan :=
  match s.mode with
  | .plain => s.plain c
  | .comment => if c = '\n' then { s with mode := .plain }.plain c else s
  | .single => if c = '\'' then { s with mode := .plain } else s.add c true
  | .double => s.double c
  | .escape false =>
    let s := { s with mode := .plain }
    if c = '\n' then s else s.add c true
  | .escape true =>
    let s := { s with mode := .double }
    if c = '\n' then s
    else if ['$', '`', '"', '\\'].contains c then s.add c true
    else (s.add '\\' true).add c true
  | .dollar q =>
    if c = '{' then { s with mode := .brace [] q }
    else if startsName c then { s with mode := .name [c] q }
    else if c.isDigit || ['?', '$', '#', '@', '*'].contains c then
      { s with mode := outer q }.addPart (.parameter (String.singleton c) none q)
    else (s.add '$' q).resume q c
  | .name soFar q =>
    if startsName c || c.isDigit then { s with mode := .name (soFar ++ [c]) q }
    else (s.addPart (.parameter (String.ofList soFar) none q)).resume q c
  | .brace soFar q =>
    if c = '}' then { s with mode := outer q }.addPart (braced soFar q)
    else { s with mode := .brace (soFar ++ [c]) q }

/-- The tokens when the script ends; a quote or a brace that is open is refused. -/
def finish? (s : Scan) : Option (List Token) :=
  match s.mode with
  | .plain => some s.endWord.tokens
  | .comment => some s.endWord.tokens
  | .dollar false => some (s.add '$' false).endWord.tokens
  | .name soFar false =>
    some (s.addPart (.parameter (String.ofList soFar) none false)).endWord.tokens
  | .escape false => some (s.add '\\' true).endWord.tokens
  | _ => none

end Scan

/-- The tokens of a script. -/
def Token.ofScript? (script : String) : Option (List Token) :=
  (script.toList.foldl Scan.step ⟨.plain, none, []⟩).finish?

/-! ## Commands -/

/-- Where the output to a descriptor goes instead. -/
inductive RedirectTarget where
  | file (path : ScriptWord) (append : Bool)
  /-- Where the output to another descriptor goes. -/
  | descriptor (number : ScriptWord)
  deriving DecidableEq, Repr

/-- A redirection. -/
structure Redirect where
  descriptor : Nat
  target : RedirectTarget
  deriving DecidableEq, Repr

/-- Words and redirections. -/
structure SimpleCommand where
  words : List ScriptWord
  redirects : List Redirect
  deriving DecidableEq, Repr

/-- When a command runs. -/
inductive Condition where
  | always
  | afterSuccess
  | afterFailure
  deriving DecidableEq, Repr

/-- A command with its place in the script. -/
structure ScriptStep where
  condition : Condition
  /-- Whether success and failure change places. -/
  negated : Bool
  command : SimpleCommand
  deriving DecidableEq, Repr

namespace ScriptStep

/-- A step without words. -/
def blank (condition : Condition) : ScriptStep := ⟨condition, false, ⟨[], []⟩⟩

/-- Whether there is nothing in a step. -/
def isBlank (s : ScriptStep) : Bool :=
  s.command.words.isEmpty && s.command.redirects.isEmpty && !s.negated

/-- A step with one more word. -/
def addWord (s : ScriptStep) (w : ScriptWord) : ScriptStep :=
  if s.command.words.isEmpty ∧ w = [.text ['!'] false] then { s with negated := !s.negated }
  else { s with command := { s.command with words := s.command.words ++ [w] } }

/-- A step with one more redirection. -/
def addRedirect (s : ScriptStep) (r : Redirect) : ScriptStep :=
  { s with command := { s.command with redirects := s.command.redirects ++ [r] } }

/-- Reads the steps behind an unfinished one. -/
def ofTokens? : List Token → ScriptStep → Option (List ScriptStep)
  | [], s =>
    if s.isBlank then (if s.condition = .always then some [] else none) else some [s]
  | .word w :: ts, s => ofTokens? ts (s.addWord w)
  | .sign '&' :: .sign '&' :: ts, s =>
    if s.isBlank then none else (ofTokens? ts (blank .afterSuccess)).map (s :: ·)
  | .sign '|' :: .sign '|' :: ts, s =>
    if s.isBlank then none else (ofTokens? ts (blank .afterFailure)).map (s :: ·)
  | .sign '\n' :: ts, s =>
    if s.isBlank then ofTokens? ts s else (ofTokens? ts (blank .always)).map (s :: ·)
  | .sign ';' :: ts, s =>
    if s.isBlank then none else (ofTokens? ts (blank .always)).map (s :: ·)
  | .redirect n :: .redirect _ :: .word w :: ts, s =>
    ofTokens? ts (s.addRedirect ⟨n, .file w true⟩)
  | .redirect n :: .sign '&' :: .word w :: ts, s =>
    ofTokens? ts (s.addRedirect ⟨n, .descriptor w⟩)
  | .redirect n :: .word w :: ts, s => ofTokens? ts (s.addRedirect ⟨n, .file w false⟩)
  | _, _ => none

/-- The steps of a script. -/
def ofScript? (script : String) : Option (List ScriptStep) :=
  (Token.ofScript? script).bind fun ts => ofTokens? ts (blank .always)

end ScriptStep
end Machine
end Orchestrator
