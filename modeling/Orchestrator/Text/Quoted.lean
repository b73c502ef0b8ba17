import Orchestrator.Text.Unprintable

/-!
# Quoted texts in messages

Messages show lists of settings values between brackets, each value between double quotes.  A quote
or a backslash in a value gets a backslash, four control characters have a letter of their own, and
a character that could not be told apart on a screen is spelled out by its code point.

* `quote`: one text between double quotes.
* `quoteList`: several, between brackets.
-/

namespace Orchestrator
namespace Text

/-- The hexadecimal digits of a number, in lower case and without leading zeros. -/
def hexDigits (n : Nat) : List Char :=
  Nat.toDigits 16 n

/-- A code point spelled out, as in `\u{301}`. -/
def spellOut (c : Char) : List Char :=
  ['\\', 'u', '{'] ++ hexDigits c.toNat ++ ['}']

/-- One character inside double quotes. -/
def quoteChar (c : Char) : List Char :=
  if c = '\t' then ['\\', 't']
  else if c = '\r' then ['\\', 'r']
  else if c = '\n' then ['\\', 'n']
  else if c = '\x00' then ['\\', '0']
  else if c = '\\' then ['\\', '\\']
  else if c = '"' then ['\\', '"']
  else if isSpelledOut c then spellOut c
  else [c]

/-- A text between double quotes. -/
def quote (s : String) : String :=
  "\"" ++ String.ofList (s.toList.flatMap quoteChar) ++ "\""

/-- A list of texts, each between double quotes. -/
def quoteList (ss : List String) : String :=
  "[" ++ String.intercalate ", " (ss.map quote) ++ "]"

end Text
end Orchestrator
