import Orchestrator.Yaml.Token

/-!
# The nodes of a YAML document

The tokens of a text make up one document, which is a tree of scalars, sequences and mappings.  A
node may have a tag and an anchor, and an alias stands for the node with its anchor.

* `Node`: the tree, over a type of references.
* `Grammar`: how tokens make up nodes.
* `Node.ofTokens?`: the node of a document.
* `Node.link?`: the tree with numbers in the place of the names of anchors.
-/

namespace Orchestrator
namespace Yaml

/-- What may stand before a node. -/
structure Properties (ρ : Type) where
  anchor : Option ρ
  /-- The bytes of the tag, which need not be the UTF-8 form of a text. -/
  tag : Option (List UInt8)
  deriving DecidableEq, Repr

/-- A node; anchors and aliases are references of some type. -/
inductive Node (ρ : Type) where
  | scalar (properties : Properties ρ) (text : String) (plain : Bool)
  | sequence (properties : Properties ρ) (items : List (Node ρ))
  | mapping (properties : Properties ρ) (entries : List (Node ρ × Node ρ))
  | alias (target : ρ)
  deriving Repr

namespace Node

/-- The node that stands where there is none. -/
def absent {ρ : Type} : Node ρ :=
  .scalar ⟨none, none⟩ "" true

/-- The properties of a node. -/
def properties {ρ : Type} : Node ρ → Properties ρ
  | .scalar p _ _ => p
  | .sequence p _ => p
  | .mapping p _ => p
  | .alias _ => ⟨none, none⟩

/-- Whether a node stands for another one. -/
def isAlias {ρ : Type} : Node ρ → Bool
  | .alias _ => true
  | _ => false

end Node

/-! ## Grammar -/

namespace Grammar

/-- The handles of tags and what they stand for. -/
abbrev Handles := List (String × List UInt8)

/-- The bytes of a text. -/
def bytesOf (s : String) : List UInt8 :=
  s.toUTF8.data.toList

/-- The handles that every document has. -/
def standardHandles : Handles :=
  [("!", bytesOf "!"), ("!!", bytesOf "tag:yaml.org,2002:")]

/-- A whole tag. -/
def tagBytes? (handles : Handles) (handle : String) (suffix : List UInt8) :
    Option (List UInt8) :=
  if handle = "" then some suffix else (handles.lookup handle).map (· ++ suffix)

/-- Reads an anchor and a tag, in either order. -/
def properties? (handles : Handles) : List Token → Option (Properties String × List Token)
  | .anchor a :: .tag h s :: ts => (tagBytes? handles h s).map fun t => (⟨some a, some t⟩, ts)
  | .anchor a :: ts => some (⟨some a, none⟩, ts)
  | .tag h s :: .anchor a :: ts => (tagBytes? handles h s).map fun t => (⟨some a, some t⟩, ts)
  | .tag h s :: ts => (tagBytes? handles h s).map fun t => (⟨none, some t⟩, ts)
  | ts => some (⟨none, none⟩, ts)

/-- Whether the next token is one of some. -/
def next (ts : List Token) (among : List Token) : Bool :=
  match ts with
  | t :: _ => among.contains t
  | [] => false

/-- What is behind a comma. -/
def behindComma : List Token → Option (List Token)
  | .flowEntry :: ts => some ts
  | _ => none

mutual

/-- Reads a node.  Outside brackets it may be a block, and behind a key a sequence whose dashes are
not indented. -/
def node (handles : Handles) :
    Nat → Bool → Bool → List Token → Option (Node String × List Token)
  | 0, _, _, _ => none
  | fuel + 1, block, indentless, ts =>
    match ts with
    | .alias name :: ts => some (.alias name, ts)
    | ts =>
      match properties? handles ts with
      | none => none
      | some (p, ts) =>
        match ts with
        | .scalar text plain :: ts => some (.scalar p text plain, ts)
        | .flowSequenceStart :: ts =>
          (flowSequence handles fuel true ts).map fun f => (.sequence p f.1, f.2)
        | .flowMappingStart :: ts =>
          (flowMapping handles fuel true ts).map fun f => (.mapping p f.1, f.2)
        | ts =>
          if indentless && next ts [.blockEntry] then
            (indentlessSequence handles fuel ts).map fun f => (.sequence p f.1, f.2)
          else if block && next ts [.blockSequenceStart] then
            (blockSequence handles fuel (ts.drop 1)).map fun f => (.sequence p f.1, f.2)
          else if block && next ts [.blockMappingStart] then
            (blockMapping handles fuel (ts.drop 1)).map fun f => (.mapping p f.1, f.2)
          else if p.anchor.isSome || p.tag.isSome then some (.scalar p "" true, ts)
          else none

/-- Reads a node, or none where one of some tokens follows. -/
def nodeUnless (handles : Handles) :
    Nat → Bool → Bool → List Token → List Token → Option (Node String × List Token)
  | 0, _, _, _, _ => none
  | fuel + 1, block, indentless, among, ts =>
    if next ts among then some (.absent, ts) else node handles fuel block indentless ts

/-- Reads the entries of a sequence of dashes. -/
def blockSequence (handles : Handles) : Nat → List Token → Option (List (Node String) × List Token)
  | 0, _ => none
  | fuel + 1, ts =>
    match ts with
    | .blockEntry :: ts =>
      match nodeUnless handles fuel true false [.blockEntry, .blockEnd] ts with
      | none => none
      | some (item, ts) => (blockSequence handles fuel ts).map fun f => (item :: f.1, f.2)
    | .blockEnd :: ts => some ([], ts)
    | _ => none

/-- Reads the entries of a sequence whose dashes are not indented. -/
def indentlessSequence (handles : Handles) :
    Nat → List Token → Option (List (Node String) × List Token)
  | 0, _ => none
  | fuel + 1, ts =>
    match ts with
    | .blockEntry :: ts =>
      match nodeUnless handles fuel true false [.blockEntry, .key, .value, .blockEnd] ts with
      | none => none
      | some (item, ts) => (indentlessSequence handles fuel ts).map fun f => (item :: f.1, f.2)
    | ts => some ([], ts)

/-- Reads the entries of a mapping outside brackets. -/
def blockMapping (handles : Handles) :
    Nat → List Token → Option (List (Node String × Node String) × List Token)
  | 0, _ => none
  | fuel + 1, ts =>
    match ts with
    | .key :: ts =>
      match nodeUnless handles fuel true true [.key, .value, .blockEnd] ts with
      | none => none
      | some (k, ts) =>
        match blockValue handles fuel ts with
        | none => none
        | some (v, ts) => (blockMapping handles fuel ts).map fun f => ((k, v) :: f.1, f.2)
    | .blockEnd :: ts => some ([], ts)
    | _ => none

/-- Reads the value behind a key outside brackets. -/
def blockValue (handles : Handles) : Nat → List Token → Option (Node String × List Token)
  | 0, _ => none
  | fuel + 1, ts =>
    match ts with
    | .value :: ts => nodeUnless handles fuel true true [.key, .value, .blockEnd] ts
    | ts => some (.absent, ts)

/-- Reads the entries of a sequence in brackets.  An entry may be a mapping of one key. -/
def flowSequence (handles : Handles) :
    Nat → Bool → List Token → Option (List (Node String) × List Token)
  | 0, _, _ => none
  | fuel + 1, first, ts =>
    match ts with
    | .flowSequenceEnd :: ts => some ([], ts)
    | ts =>
      match (if first then some ts else behindComma ts) with
      | none => none
      | some (.flowSequenceEnd :: ts) => some ([], ts)
      | some (.key :: ts) =>
        match flowPair handles fuel ts with
        | none => none
        | some (item, ts) => (flowSequence handles fuel false ts).map fun f => (item :: f.1, f.2)
      | some ts =>
        match node handles fuel false false ts with
        | none => none
        | some (item, ts) => (flowSequence handles fuel false ts).map fun f => (item :: f.1, f.2)

/-- Reads a mapping of one key, behind the token of the key.  Where the key is absent, the token
behind it is passed over. -/
def flowPair (handles : Handles) : Nat → List Token → Option (Node String × List Token)
  | 0, _ => none
  | fuel + 1, ts =>
    let key := if next ts [.value, .flowEntry, .flowSequenceEnd] then some (.absent, ts.drop 1)
      else node handles fuel false false ts
    match key with
    | none => none
    | some (k, ts) =>
      match ts with
      | .value :: ts =>
        (nodeUnless handles fuel false false [.flowEntry, .flowSequenceEnd] ts).map fun f =>
          (.mapping ⟨none, none⟩ [(k, f.1)], f.2)
      | ts => some (.mapping ⟨none, none⟩ [(k, .absent)], ts)

/-- Reads the entries of a mapping in brackets. -/
def flowMapping (handles : Handles) :
    Nat → Bool → List Token → Option (List (Node String × Node String) × List Token)
  | 0, _, _ => none
  | fuel + 1, first, ts =>
    match ts with
    | .flowMappingEnd :: ts => some ([], ts)
    | ts =>
      match (if first then some ts else behindComma ts) with
      | none => none
      | some (.flowMappingEnd :: ts) => some ([], ts)
      | some (.key :: ts) =>
        match nodeUnless handles fuel false false [.value, .flowEntry, .flowMappingEnd] ts with
        | none => none
        | some (k, ts) =>
          match flowValue handles fuel ts with
          | none => none
          | some (v, ts) =>
            (flowMapping handles fuel false ts).map fun f => ((k, v) :: f.1, f.2)
      | some ts =>
        match node handles fuel false false ts with
        | none => none
        | some (k, ts) =>
          (flowMapping handles fuel false ts).map fun f => ((k, .absent) :: f.1, f.2)

/-- Reads the value behind a key in brackets. -/
def flowValue (handles : Handles) : Nat → List Token → Option (Node String × List Token)
  | 0, _ => none
  | fuel + 1, ts =>
    match ts with
    | .value :: ts => nodeUnless handles fuel false false [.flowEntry, .flowMappingEnd] ts
    | ts => some (.absent, ts)

end

/-! ## Documents -/

/-- Reads directives: at most one version, which must be known, and each handle at most once. -/
def directives : Option (Nat × Nat) → Handles → List Token → Option (Handles × List Token)
  | version, handles, .versionDirective major minor :: ts =>
    if version.isNone && major = 1 && (minor = 1 || minor = 2) then
      directives (some (major, minor)) handles ts
    else none
  | version, handles, .tagDirective handle expansion :: ts =>
    if (handles.lookup handle).isSome then none
    else directives version (handles ++ [(handle, expansion)]) ts
  | _, handles, ts => some (handles ++ standardHandles, ts)

/-- Whether a token belongs to the frame of a document and not to its content. -/
def isFrame : Token → Bool
  | .versionDirective _ _ | .tagDirective _ _ | .documentStart | .documentEnd => true
  | _ => false

/-- Whether a token can start a document only with the mark before its content. -/
def needsMark : Token → Bool
  | .versionDirective _ _ | .tagDirective _ _ | .documentStart => true
  | _ => false

/-- Reads the content of the first document. -/
def document (ts : List Token) : Option (Node String × List Token) :=
  let fuel := 4 * ts.length + 4
  match ts with
  | [] => some (.absent, [])
  | t :: _ =>
    if needsMark t then
      match directives none [] ts with
      | some (handles, .documentStart :: ts) =>
        if ts.head?.all isFrame then some (.absent, ts) else node handles fuel true false ts
      | _ => none
    else node standardHandles fuel true false ts

end Grammar

/-- The node of the only document of some tokens.  Without any content it is the absent node. -/
def Node.ofTokens? (ts : List Token) : Option (Node String) :=
  match Grammar.document ts with
  | some (n, rest) => if rest.all (· = .documentEnd) then some n else none
  | none => none

/-! ## References -/

namespace Node

/-- The numbers given to the names of anchors.  A name that is given again gets a new number, which
counts the distinct names before it. -/
abbrev Numbers := List (String × Nat)

/-- Gives a number to the anchor of a node. -/
def Numbers.give (numbers : Numbers) (p : Properties String) : Properties Nat × Numbers :=
  match p.anchor with
  | none => (⟨none, p.tag⟩, numbers)
  | some name =>
    let n := numbers.length
    (⟨some n, p.tag⟩, (name, n) :: numbers.filter fun e => e.1 ≠ name)

mutual

/-- Puts numbers in the place of names, in the order of the text.  An alias to a name that has no
number yet is refused. -/
def linkFrom (numbers : Numbers) : Node String → Option (Node Nat × Numbers)
  | .scalar p text plain =>
    let (p, numbers) := numbers.give p
    some (.scalar p text plain, numbers)
  | .sequence p items =>
    let (p, numbers) := numbers.give p
    (linkItems numbers items).map fun f => (.sequence p f.1, f.2)
  | .mapping p entries =>
    let (p, numbers) := numbers.give p
    (linkEntries numbers entries).map fun f => (.mapping p f.1, f.2)
  | .alias name => (numbers.lookup name).map fun n => (.alias n, numbers)

/-- The same for the items of a sequence. -/
def linkItems (numbers : Numbers) : List (Node String) → Option (List (Node Nat) × Numbers)
  | [] => some ([], numbers)
  | item :: items =>
    match linkFrom numbers item with
    | none => none
    | some (item, numbers) => (linkItems numbers items).map fun f => (item :: f.1, f.2)

/-- The same for the entries of a mapping. -/
def linkEntries (numbers : Numbers) :
    List (Node String × Node String) → Option (List (Node Nat × Node Nat) × Numbers)
  | [] => some ([], numbers)
  | (k, v) :: entries =>
    match linkFrom numbers k with
    | none => none
    | some (k, numbers) =>
      match linkFrom numbers v with
      | none => none
      | some (v, numbers) => (linkEntries numbers entries).map fun f => ((k, v) :: f.1, f.2)

end

/-- The tree with numbers in the place of names. -/
def link? (n : Node String) : Option (Node Nat) :=
  (linkFrom [] n).map Prod.fst

mutual

/-- The nodes with an anchor, in the order of the text. -/
def anchored : Node Nat → List (Nat × Node Nat)
  | .scalar p text plain => p.anchor.toList.map fun a => (a, .scalar p text plain)
  | .sequence p items =>
    (p.anchor.toList.map fun a => (a, .sequence p items)) ++ anchoredItems items
  | .mapping p entries =>
    (p.anchor.toList.map fun a => (a, .mapping p entries)) ++ anchoredEntries entries
  | .alias _ => []

/-- The same for the items of a sequence. -/
def anchoredItems : List (Node Nat) → List (Nat × Node Nat)
  | [] => []
  | item :: items => anchored item ++ anchoredItems items

/-- The same for the entries of a mapping. -/
def anchoredEntries : List (Node Nat × Node Nat) → List (Nat × Node Nat)
  | [] => []
  | (k, v) :: entries => anchored k ++ anchored v ++ anchoredEntries entries

end

mutual

/-- The number of scalars and aliases, and twice the number of sequences and mappings. -/
def weight : Node Nat → Nat
  | .scalar _ _ _ => 1
  | .sequence _ items => 2 + weightItems items
  | .mapping _ entries => 2 + weightEntries entries
  | .alias _ => 1

/-- The same for the items of a sequence. -/
def weightItems : List (Node Nat) → Nat
  | [] => 0
  | item :: items => weight item + weightItems items

/-- The same for the entries of a mapping. -/
def weightEntries : List (Node Nat × Node Nat) → Nat
  | [] => 0
  | (k, v) :: entries => weight k + weight v + weightEntries entries

end

end Node
end Yaml
end Orchestrator
