/-!
# Texts as bytes

A text is written as bytes in UTF-8, with one to four of them for each character.  Most sequences of
bytes are no text, and still they are shown as one.  They are read from left to right: where a
character is written, it is read, and where none is, a mark takes its place.  One mark stands for
all the bytes with which a character could begin, or for a single byte if there is no such
character.

Where bytes are looked at one by one, as processes do, they are kept in a row.  This is a text with
one character for each byte, in which ASCII characters stand for themselves.

* `encode`: the bytes of a text.
* `decode`: the text that bytes are shown as.
* `decode_encode`: the bytes of a text are shown as this text.
* `rowOf`, `bytesOf`: bytes in a row; `toRow` and `ofRow` go from texts to rows and back.
-/

namespace Orchestrator
namespace Text

/-- The bytes of a text. -/
def encode (text : String) : List UInt8 :=
  text.toList.flatMap String.utf8EncodeChar

/-- What stands where bytes are no character. -/
def replacementMark : Char := '\uFFFD'

/-- The character that is written at the front of some bytes. -/
def frontChar? (bytes : List UInt8) : Option Char :=
  (bytes.take 4).toByteArray.utf8DecodeChar? 0

/-- How many bytes a character has behind its first one, and the least and the greatest byte that
may come next; `none` when no character of several bytes has this first one. -/
def tail? (first : UInt8) : Option (Nat × UInt8 × UInt8) :=
  if 0xC2 ≤ first ∧ first ≤ 0xDF then some (1, 0x80, 0xBF)
  else if first = 0xE0 then some (2, 0xA0, 0xBF)
  else if first = 0xED then some (2, 0x80, 0x9F)
  else if 0xE1 ≤ first ∧ first ≤ 0xEF then some (2, 0x80, 0xBF)
  else if first = 0xF0 then some (3, 0x90, 0xBF)
  else if 0xF1 ≤ first ∧ first ≤ 0xF3 then some (3, 0x80, 0xBF)
  else if first = 0xF4 then some (3, 0x80, 0x8F)
  else none

/-- How many of the bytes behind a first one could go on with a character, when none is written
there in full. -/
def tailLength (first : UInt8) (bytes : List UInt8) : Nat :=
  match tail? first, bytes with
  | some (count, least, greatest), next :: rest =>
    if least ≤ next ∧ next ≤ greatest then
      ((rest.take (count - 1)).takeWhile fun b => 0x80 ≤ b && b ≤ 0xBF).length + 1
    else 0
  | _, _ => 0

/-- The characters that bytes are shown as, when the first ones belong to what was read before. -/
def charsBehind : Nat → List UInt8 → List Char
  | _, [] => []
  | n + 1, _ :: bytes => charsBehind n bytes
  | 0, b :: bytes =>
    match frontChar? (b :: bytes) with
    | some c => c :: charsBehind (c.utf8Size - 1) bytes
    | none => replacementMark :: charsBehind (tailLength b bytes) bytes

/-- The text that bytes are shown as. -/
def decode (bytes : List UInt8) : String :=
  String.ofList (charsBehind 0 bytes)

/-- Bytes that are no text: one that no character begins with, the beginning of a character, a
letter, and the beginning of another one at the end. -/
example : decode [0xFF, 0xE2, 0x82, 0x61, 0xC3] = "\uFFFD\uFFFDa\uFFFD" := by decide

/-! ## Reading back -/

theorem charsBehind_length_append (front bytes : List UInt8) :
    charsBehind front.length (front ++ bytes) = charsBehind 0 bytes := by
  induction front with
  | nil => rfl
  | cons b front ih => exact ih

theorem frontChar?_append (c : Char) (bytes : List UInt8) :
    frontChar? (String.utf8EncodeChar c ++ bytes) = some c := by
  have hlength : (String.utf8EncodeChar c).length ≤ 4 := by
    rw [String.length_utf8EncodeChar]
    exact c.utf8Size_le_four
  rw [frontChar?, List.take_append, List.take_of_length_le hlength, List.toByteArray_append]
  exact ByteArray.utf8DecodeChar?_utf8EncodeChar_append

/-- A character that is written in front is read, and then what is behind it. -/
theorem charsBehind_append (c : Char) (bytes : List UInt8) :
    charsBehind 0 (String.utf8EncodeChar c ++ bytes) = c :: charsBehind 0 bytes := by
  obtain ⟨b, front, hfront⟩ := List.exists_cons_of_ne_nil (String.utf8EncodeChar_ne_nil (c := c))
  have hlength : front.length = c.utf8Size - 1 := by
    rw [← String.length_utf8EncodeChar, hfront]
    rfl
  have hread := frontChar?_append c bytes
  rw [hfront, List.cons_append] at hread ⊢
  rw [charsBehind, hread]
  dsimp only
  rw [← hlength, charsBehind_length_append]

/-- The bytes of a text are shown as this text. -/
@[simp] theorem decode_encode (text : String) : decode (encode text) = text := by
  have hchars : ∀ cs : List Char, charsBehind 0 (cs.flatMap String.utf8EncodeChar) = cs := by
    intro cs
    induction cs with
    | nil => rfl
    | cons c cs ih => rw [List.flatMap_cons, charsBehind_append, ih]
  rw [decode, encode, hchars, String.ofList_toList]

/-! ## Rows -/

/-- Bytes in a row. -/
def rowOf (bytes : List UInt8) : String :=
  String.ofList (bytes.map fun b => Char.ofNat b.toNat)

/-- The bytes in a row. -/
def bytesOf (row : String) : List UInt8 :=
  row.toList.map fun c => c.toNat.toUInt8

/-- A text as a row of its bytes. -/
def toRow (text : String) : String := rowOf (encode text)

/-- The text that the bytes in a row are shown as. -/
def ofRow (row : String) : String := decode (bytesOf row)

/-- The character that stands for a byte has its number. -/
theorem byte_of_char (b : UInt8) : (Char.ofNat b.toNat).toNat.toUInt8 = b := by
  have hvalid : b.toNat.isValidChar := .inl (by have := b.toNat_lt; omega)
  have hnumber : (Char.ofNat b.toNat).toNat = b.toNat := by
    rw [Char.ofNat, dif_pos hvalid]
    rfl
  rw [hnumber]
  exact UInt8.ofNat_toNat

theorem bytesOf_rowOf (bytes : List UInt8) : bytesOf (rowOf bytes) = bytes := by
  rw [bytesOf, rowOf, String.toList_ofList, List.map_map]
  exact (List.map_congr_left fun b _ => byte_of_char b).trans (List.map_id bytes)

/-- Nothing is lost of a text that is kept as a row. -/
theorem ofRow_toRow (text : String) : ofRow (toRow text) = text := by
  rw [ofRow, toRow, bytesOf_rowOf, decode_encode]

end Text
end Orchestrator
