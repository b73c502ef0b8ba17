import Orchestrator.Yaml.Node
import Orchestrator.Yaml.Number

/-!
# The value of a YAML document

A value is what a document means: plain scalars are sorted into nulls, booleans, numbers and texts,
and an alias has become a copy of the node with its anchor.

* `Value`: the values, and `Value.same`, their equality as keys.
* `Value.ofScalar?`: the value of a scalar.
* `Value.ofNode?`: the value of a node.  Nesting deeper than `maxDepth`, a key that occurs twice in
  a mapping and copies without end are refused.
* `Value.parse?`: the value of a text.
-/

namespace Orchestrator
namespace Yaml

/-- What a node means. -/
inductive Value where
  | null
  | bool (value : Bool)
  | number (value : Number)
  | text (value : String)
  | list (items : List Value)
  | map (entries : List (Value × Value))
  /-- A value with a tag of the document's own. -/
  | tagged (tag : String) (value : Value)
  deriving Inhabited, Repr

namespace Value

/-! ## Equality as keys -/

/-- A tag without a sign in front of it, unless the sign is all of it. -/
def bareTag (tag : String) : String :=
  match tag.toList with
  | '!' :: c :: cs => String.ofList (c :: cs)
  | _ => tag

mutual

/-- Whether two values are equal as keys of a mapping.  The order of the entries of a mapping does
not count. -/
def same : Value → Value → Bool
  | .null, .null => true
  | .bool a, .bool b => a = b
  | .number a, .number b => a.same b
  | .text a, .text b => a = b
  | .list as, .list bs => sameItems as bs
  | .map as, .map bs => as.length = bs.length && sameEntries as bs
  | .tagged s a, .tagged t b => bareTag s = bareTag t && same a b
  | _, _ => false

/-- Whether two lists have equal items. -/
def sameItems : List Value → List Value → Bool
  | [], [] => true
  | a :: as, b :: bs => same a b && sameItems as bs
  | _, _ => false

/-- Whether each entry of one mapping is one of another. -/
def sameEntries : List (Value × Value) → List (Value × Value) → Bool
  | [], _ => true
  | (k, v) :: as, bs => (bs.any fun b => same k b.1 && same v b.2) && sameEntries as bs

end

/-! ## Scalars -/

/-- The words for null. -/
def nullWords : List String := ["", "~", "null", "Null", "NULL"]

/-- The meaning of a word as a boolean. -/
def boolOfWord? (s : String) : Option Bool :=
  if s ∈ ["true", "True", "TRUE"] then some true
  else if s ∈ ["false", "False", "FALSE"] then some false
  else none

/-- The value of a plain scalar without a tag, `none` for an integer that is too large. -/
def ofPlain? (s : String) : Option Value :=
  if s ∈ nullWords then some .null
  else
    match boolOfWord? s with
    | some b => some (.bool b)
    | none =>
      match Number.readInteger s.toList with
      | .found n => some (.number (.integer n))
      | .tooLarge => none
      | .notAnInteger =>
        if Number.hasLeadingZero s.toList then some (.text s)
        else
          match Number.readFloat? s.toList with
          | some n => some (.number n)
          | none => some (.text s)

/-- The tag of a kind of scalar. -/
def coreTag (kind : String) : List UInt8 :=
  Grammar.bytesOf ("tag:yaml.org,2002:" ++ kind)

/-- The value of a scalar with a tag that asks for one kind; the tags of no kind ask for a text. -/
def ofTagged? (tag : List UInt8) (s : String) : Option Value :=
  if tag = coreTag "bool" then (boolOfWord? s).map .bool
  else if tag = coreTag "int" then
    match Number.readInteger s.toList with
    | .found n => some (.number (.integer n))
    | _ => none
  else if tag = coreTag "float" then (Number.readFloat? s.toList).map .number
  else if tag = coreTag "null" then
    if s ≠ "" ∧ s ∈ nullWords then some .null else none
  else some (.text s)

/-- Whether a tag is of the document's own, which its sign tells. -/
def isLocalTag (tag : List UInt8) : Bool :=
  tag.head? = some '!'.toUInt8

/-- The text of a tag of the document's own, without its sign unless the sign is all of it.  A tag
whose bytes are no text has none. -/
def localTag? (tag : Option (List UInt8)) : Option String :=
  match tag with
  | none => none
  | some t =>
    if isLocalTag t then
      String.fromUTF8? ⟨(if t.length = 1 then t else t.drop 1).toArray⟩
    else none

/-- The value of a scalar; a tag of the document's own does not change it. -/
def ofScalar? (tag : Option (List UInt8)) (s : String) (plain : Bool) : Option Value :=
  match tag.filter fun t => !isLocalTag t with
  | some t => ofTagged? t s
  | none => if plain then ofPlain? s else some (.text s)

/-! ## Nodes -/

/-- The greatest depth of nested sequences and mappings. -/
def maxDepth : Nat := 128

/-- Puts a tag of the document's own on a value. -/
def withTag (tag : Option (List UInt8)) (v : Value) : Value :=
  match localTag? tag with
  | none => v
  | some t => .tagged t v

/-- The nodes that aliases stand for, and how many aliases may be followed. -/
structure Targets where
  nodes : List (Nat × Node Nat)
  limit : Nat

/-- The targets of a document.  Of several nodes with one number the last counts. -/
def Targets.ofNode (n : Node Nat) : Targets :=
  ⟨n.anchored.reverse, 100 * n.weight⟩

/-- Follows an alias, and counts that it did. -/
def Targets.follow (t : Targets) (n : Node Nat) (used : Nat) : Option (Node Nat × Nat) :=
  match n with
  | .alias i =>
    if t.limit < used + 1 then none else (t.nodes.lookup i).map fun m => (m, used + 1)
  | n => some (n, used)

/-- Applies a function that counts to the items of a list, in order. -/
def mapCounting {α β : Type} (f : α → Nat → Option (β × Nat)) :
    List α → Nat → Option (List β × Nat)
  | [], used => some ([], used)
  | a :: as, used =>
    match f a used with
    | none => none
    | some (b, used) => (mapCounting f as used).map fun r => (b :: r.1, r.2)

/-- Adds the entries of a mapping in order, keys and values each read in their way; a key that is
there already is refused. -/
def mapEntries (key value : Node Nat → Nat → Option (Value × Nat)) :
    List (Node Nat × Node Nat) → List (Value × Value) → Nat →
      Option (List (Value × Value) × Nat)
  | [], done, used => some (done, used)
  | (k, v) :: entries, done, used =>
    match key k used with
    | none => none
    | some (k, used) =>
      if done.any fun e => same e.1 k then none
      else
        match value v used with
        | none => none
        | some (v, used) => mapEntries key value entries (done ++ [(k, v)]) used

/-- The value of a node inside so many levels that are left.  Inside a tag of the document's own a
node is read as if it had no tag itself, and so are the keys of a mapping that is read there. -/
def ofNodeAt (t : Targets) : Nat → Bool → Node Nat → Nat → Option (Value × Nat)
  | depth, inside, n, used =>
    match t.follow n used with
    | none => none
    | some (m, used) =>
      let inside := inside && !n.isAlias
      let tag := if inside then none else m.properties.tag
      let tagged := inside || (localTag? tag).isSome
      let content : Option (Value × Nat) :=
        match m, depth with
        | .scalar _ s plain, _ => (ofScalar? tag s plain).map fun v => (v, used)
        | .sequence _ items, depth + 1 =>
          (mapCounting (ofNodeAt t depth false) items used).map fun r => (.list r.1, r.2)
        | .mapping _ entries, depth + 1 =>
          (mapEntries (ofNodeAt t depth tagged) (ofNodeAt t depth false) entries [] used).map
            fun r => (.map r.1, r.2)
        | _, _ => none
      content.map fun r => (withTag tag r.1, r.2)

/-- The value of the node of a document. -/
def ofNode? (n : Node Nat) : Option Value :=
  (ofNodeAt (.ofNode n) maxDepth false n 0).map Prod.fst

/-- The value of a text, `none` when it is not one YAML document with a value. -/
def parse? (text : String) : Option Value :=
  (((Token.ofText? text.toList).bind Node.ofTokens?).bind Node.link?).bind ofNode?

end Value
end Yaml
end Orchestrator
