import Orchestrator.Regex.CharacterSet
import Orchestrator.Regex.Fault
import Orchestrator.Regex.Syntax
import Orchestrator.Text.Script

/-!
# Properties of characters by name

An expression may name a general category, a script, or a property that a character has or has not.
The case of a name does not count, nor do spaces, dashes and underscores in it, nor `is` in front.

* `PropertyName.set`: the characters with a property, or why there is none of that name.
-/

namespace Orchestrator
namespace Regex

/-- A name without what does not count. -/
def plainName (name : String) : String :=
  let cs := name.toList.map Char.toLower
  let keep (cs : List Char) := cs.filter fun c => c < '\x80' && !(['_', '-', ' '].contains c)
  match cs with
  | 'i' :: 's' :: rest => if keep rest = ['c'] then "isc" else String.ofList (keep rest)
  | cs => String.ofList (keep cs)

open Text.GeneralCategory in
/-- The general categories by their names, and groups of them. -/
def categoryNames : List (List String × List Text.GeneralCategory) :=
  let letter := [uppercaseLetter, lowercaseLetter, titlecaseLetter, modifierLetter, otherLetter]
  let mark := [nonspacingMark, spacingMark, enclosingMark]
  let number := [decimalNumber, letterNumber, otherNumber]
  let punctuation := [connectorPunctuation, dashPunctuation, openPunctuation, closePunctuation,
    initialPunctuation, finalPunctuation, otherPunctuation]
  let symbol := [mathSymbol, currencySymbol, modifierSymbol, otherSymbol]
  let separator := [spaceSeparator, lineSeparator, paragraphSeparator]
  let other := [control, format, surrogate, privateUse, unassigned]
  [(["l", "letter"], letter), (["lc", "casedletter"], letter.take 3),
   (["lu", "uppercaseletter"], [uppercaseLetter]), (["ll", "lowercaseletter"], [lowercaseLetter]),
   (["lt", "titlecaseletter"], [titlecaseLetter]), (["lm", "modifierletter"], [modifierLetter]),
   (["lo", "otherletter"], [otherLetter]), (["m", "mark", "combiningmark"], mark),
   (["mn", "nonspacingmark"], [nonspacingMark]), (["mc", "spacingmark"], [spacingMark]),
   (["me", "enclosingmark"], [enclosingMark]), (["n", "number"], number),
   (["nd", "decimalnumber", "digit"], [decimalNumber]), (["nl", "letternumber"], [letterNumber]),
   (["no", "othernumber"], [otherNumber]), (["p", "punctuation", "punct"], punctuation),
   (["pc", "connectorpunctuation"], [connectorPunctuation]),
   (["pd", "dashpunctuation"], [dashPunctuation]), (["ps", "openpunctuation"], [openPunctuation]),
   (["pe", "closepunctuation"], [closePunctuation]),
   (["pi", "initialpunctuation"], [initialPunctuation]),
   (["pf", "finalpunctuation"], [finalPunctuation]),
   (["po", "otherpunctuation"], [otherPunctuation]), (["s", "symbol"], symbol),
   (["sm", "mathsymbol"], [mathSymbol]), (["sc", "currencysymbol"], [currencySymbol]),
   (["sk", "modifiersymbol"], [modifierSymbol]), (["so", "othersymbol"], [otherSymbol]),
   (["z", "separator"], separator), (["zs", "spaceseparator"], [spaceSeparator]),
   (["zl", "lineseparator"], [lineSeparator]), (["zp", "paragraphseparator"], [paragraphSeparator]),
   (["c", "other"], other), (["cc", "control", "cntrl"], [control]), (["cf", "format"], [format]),
   (["co", "privateuse"], [privateUse]), (["cn", "unassigned"], [unassigned])]

/-- The set of a general category, or of one of the names that are used like categories. -/
def categorySet? (name : String) : Option CharacterSet :=
  match name with
  | "any" => some .all
  | "assigned" => some (.complement (.categories [.unassigned]))
  | "ascii" => some .ascii
  | name => (categoryNames.find? fun e => e.1.contains name).map fun e => .categories e.2

/-- The set of a script. -/
def scriptSet? (name : String) : Option CharacterSet :=
  match name with
  | "latin" | "latn" => some (.ranges Text.latinRanges)
  | "greek" | "grek" => some (.ranges Text.greekRanges)
  | "cyrillic" | "cyrl" => some (.ranges Text.cyrillicRanges)
  | "hebrew" | "hebr" => some (.ranges Text.hebrewRanges)
  | "arabic" | "arab" => some (.ranges Text.arabicRanges)
  | "han" | "hani" => some (.ranges Text.hanRanges)
  | "hiragana" | "hira" => some (.ranges Text.hiraganaRanges)
  | "katakana" | "kana" => some (.ranges Text.katakanaRanges)
  | _ => none

/-- The set of a property that a character has or has not. -/
def propertySet? (name : String) : Option CharacterSet :=
  let hexDigits := [(0x30, 0x39), (0x41, 0x46), (0x61, 0x66)]
  match name with
  | "alphabetic" | "alpha" => some .alphabetic
  | "lowercase" | "lower" =>
    some (.union (.categories [.lowercaseLetter]) (.ranges Text.otherLowercaseRanges))
  | "uppercase" | "upper" =>
    some (.union (.categories [.uppercaseLetter]) (.ranges Text.otherUppercaseRanges))
  | "whitespace" | "wspace" | "space" => some .blank
  | "asciihexdigit" | "ahex" => some (.ranges hexDigits)
  | "hexdigit" | "hex" =>
    some (.ranges (hexDigits ++ [(0xff10, 0xff19), (0xff21, 0xff26), (0xff41, 0xff46)]))
  | _ => none

/-- The set of a property with several values. -/
def valueSet (property value : String) : Except Cause CharacterSet :=
  let found (set? : Option CharacterSet) : Except Cause CharacterSet :=
    match set? with
    | some s => .ok s
    | none => .error .propertyValueUnknown
  match property with
  | "gc" | "generalcategory" => found (categorySet? value)
  | "sc" | "script" | "scx" | "scriptextensions" => found (scriptSet? value)
  | property => if (propertySet? property).isSome then found none else .error .propertyUnknown

/-- The characters with a property. -/
def PropertyName.set : PropertyName → Except Cause CharacterSet
  | .valued property value => valueSet (plainName property) (plainName value)
  | .named name =>
    let name := plainName name
    match name, (propertySet? name).or ((categorySet? name).or (scriptSet? name)) with
    | _, some s => .ok s
    | "cs", none => .error .propertyValueUnknown
    | "surrogate", none => .error .propertyValueUnknown
    | _, none => .error .propertyUnknown

end Regex
end Orchestrator
