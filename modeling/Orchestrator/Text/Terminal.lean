/-!
# Texts without terminal sequences

Texts are shown without the sequences by which a text may set colours or a title on a terminal, and
without control characters that are no white space.  A sequence starts with the escape character.
What follows tells how it ends: one letter, parameters and a letter behind a bracket, or a string
that a bell or a closing sign ends.

* `SequenceState`, `SequenceState.next`: where in a sequence a character stands.
* `withoutSequences`: what is shown of a text that is cleaned at once.
* `writtenWithoutSequences`: what is shown of a text that is cleaned while it is written.
-/

namespace Orchestrator
namespace Text

/-- Where in a sequence a character stands. -/
inductive SequenceState where
  | outside
  /-- Behind the escape character. -/
  | escape
  /-- Behind an escape character and signs that do not end the sequence. -/
  | escapeSigns
  /-- Behind the bracket that starts a control sequence. -/
  | control
  | controlParameters
  | controlSigns
  /-- In a control sequence that is not well formed. -/
  | controlIgnored
  /-- At the start of a string for the device. -/
  | device
  | deviceParameters
  | deviceSigns
  /-- In a string for the device that is not well formed. -/
  | deviceIgnored
  | deviceString
  /-- In a command for the operating system, such as a title. -/
  | systemString
  /-- In a message that no terminal shows. -/
  | message
  deriving DecidableEq, Repr

/-- Whether a character lies between two others. -/
def isBetween (first last c : Char) : Bool :=
  first ≤ c && c ≤ last

/-- Whether a character is encoded with the byte that ends a string. -/
def hasTerminatorByte (c : Char) : Bool :=
  '\x7f' < c && (String.singleton c).toUTF8.toList.contains 0x9c

namespace SequenceState

/-- Where the character behind the one after an escape character stands. -/
def afterEscape (c : Char) : SequenceState :=
  if isBetween ' ' '/' c then .escapeSigns
  else
    match c with
    | '[' => .control
    | ']' => .systemString
    | 'P' => .device
    | 'X' | '^' | '_' => .message
    | c => if isBetween '0' '~' c then .outside else .escape

/-- Goes on in a sequence whose last character is a letter or a sign from `@` on: what signs, what
parameters and what a last character leads to. -/
def afterPart (current signs : SequenceState) (parameter : Char → SequenceState)
    (last : SequenceState) (c : Char) : SequenceState :=
  if isBetween ' ' '/' c then signs
  else if isBetween '0' '?' c then parameter c
  else if isBetween '@' '~' c then last
  else current

/-- In a string that the terminator ends. -/
def inString (current : SequenceState) (c : Char) : SequenceState :=
  if hasTerminatorByte c then .outside else current

/-- Where the next character stands. -/
def next (s : SequenceState) (c : Char) : SequenceState :=
  if c = '\x18' || c = '\x1a' then .outside
  else if c = '\x1b' then .escape
  else
    match s with
    | .outside => .outside
    | .escape => afterEscape c
    | .escapeSigns => if isBetween '0' '~' c then .outside else .escapeSigns
    | .control => afterPart s .controlSigns (fun _ => .controlParameters) .outside c
    | .controlParameters =>
      afterPart s .controlSigns (fun p => if p < '<' then s else .controlIgnored) .outside c
    | .controlSigns => afterPart s s (fun _ => .controlIgnored) .outside c
    | .controlIgnored => afterPart s s (fun _ => s) .outside c
    | .device =>
      afterPart s .deviceSigns (fun p => if p = ':' then .deviceIgnored else .deviceParameters)
        .deviceString c
    | .deviceParameters =>
      afterPart s .deviceSigns (fun p => if p < ':' || p = ';' then s else .deviceIgnored)
        .deviceString c
    | .deviceSigns => afterPart s s (fun _ => .deviceIgnored) .deviceString c
    | .deviceIgnored => inString s c
    | .deviceString => inString s c
    | .systemString => if c = '\x07' then .outside else s
    | .message => inString s c

/-- Whether control characters that are white space are shown where a character stands: inside of
strings they are not. -/
def showsBlanks : SequenceState → Bool
  | .outside | .escape | .escapeSigns => true
  | .control | .controlParameters | .controlSigns | .controlIgnored => true
  | _ => false

/-- Whether a character is shown where it stands. -/
def shows (s : SequenceState) (c : Char) : Bool :=
  if ['\t', '\n', '\x0c', '\r'].contains c then s.showsBlanks
  else s = .outside && ' ' ≤ c && c ≠ '\x7f'

end SequenceState

/-- What is shown of some characters, of which the first stands somewhere.  A character that is
shown ends the sequence in which it stands. -/
def shownFrom : SequenceState → List Char → List Char
  | _, [] => []
  | s, c :: cs => if s.shows c then c :: shownFrom .outside cs else shownFrom (s.next c) cs

/-- What is shown of a text. -/
def withoutSequences (s : String) : String :=
  String.ofList (shownFrom .outside s.toList)

/-- What is shown of some characters that are written one after the other.  White space inside of a
sequence is shown and does not end it: the characters up to the next control character are shown
too, and then the sequence goes on, unless a character that is no ASCII character came between. -/
def writtenFrom (isShowing : Bool) (s : SequenceState) : List Char → List Char
  | [] => []
  | c :: cs =>
    if SequenceState.shows (if isShowing then .outside else s) c then
      c :: writtenFrom true (if '\x7f' < c then .outside else s) cs
    else writtenFrom false (s.next c) cs

/-- What is shown of a text that is cleaned while it is written. -/
def writtenWithoutSequences (s : String) : String :=
  String.ofList (writtenFrom false .outside s.toList)

end Text
end Orchestrator
