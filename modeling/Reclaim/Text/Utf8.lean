/-!
# UTF-8

Texts as bytes and bytes as texts.  `pieces` reads a byte list from left to
right into characters and faults: a fault stands for the longest run of bytes
that could have begun a character but did not go on to be one, or for one byte
that begins none.  A strict reading refuses faults; a lenient one puts the
replacement character for each.
-/

set_option autoImplicit false

namespace Reclaim.Text.Utf8

def encode (text : String) : List UInt8 := text.toList.flatMap String.utf8EncodeChar

/-- A character whose first bytes have been read: what they contribute to its code point, how many
bytes are missing, and the bounds of the next one. -/
structure Opened where
  value : Nat
  missing : Nat
  lowest : UInt8
  highest : UInt8

inductive Start where
  | whole (c : Char)
  | opened (part : Opened)
  | fault

/-- The reading of a byte where a character may begin.  The bounds of the second byte keep out
the overlong forms, the surrogates, and what lies beyond the last code point. -/
def start (b : UInt8) : Start :=
  let value := b.toNat
  if b ≤ 0x7f then .whole (Char.ofNat value)
  else if b ≤ 0xc1 then .fault
  else if b ≤ 0xdf then .opened ⟨value - 0xc0, 1, 0x80, 0xbf⟩
  else if b = 0xe0 then .opened ⟨value - 0xe0, 2, 0xa0, 0xbf⟩
  else if b = 0xed then .opened ⟨value - 0xe0, 2, 0x80, 0x9f⟩
  else if b ≤ 0xef then .opened ⟨value - 0xe0, 2, 0x80, 0xbf⟩
  else if b = 0xf0 then .opened ⟨value - 0xf0, 3, 0x90, 0xbf⟩
  else if b = 0xf4 then .opened ⟨value - 0xf0, 3, 0x80, 0x8f⟩
  else if b ≤ 0xf3 then .opened ⟨value - 0xf0, 3, 0x80, 0xbf⟩
  else .fault

def Opened.extend (part : Opened) (b : UInt8) : Opened :=
  ⟨part.value * 64 + (b.toNat - 0x80), part.missing - 1, 0x80, 0xbf⟩

/-- Reads bytes after those of an opened character, if there is one; `none` is a fault. -/
def piecesAfter : Option Opened → List UInt8 → List (Option Char)
  | none, [] => []
  | some _, [] => [none]
  | none, b :: rest =>
    match start b with
    | .whole c => some c :: piecesAfter none rest
    | .opened part => piecesAfter (some part) rest
    | .fault => none :: piecesAfter none rest
  | some part, b :: rest =>
    if part.lowest ≤ b ∧ b ≤ part.highest then
      if part.missing ≤ 1 then
        some (Char.ofNat (part.extend b).value) :: piecesAfter none rest
      else piecesAfter (some (part.extend b)) rest
    else
      match start b with
      | .whole c => none :: some c :: piecesAfter none rest
      | .opened next => none :: piecesAfter (some next) rest
      | .fault => none :: none :: piecesAfter none rest

def pieces (bytes : List UInt8) : List (Option Char) := piecesAfter none bytes

def decode? (bytes : List UInt8) : Option String :=
  ((pieces bytes).mapM id).map String.ofList

/-- The characters of any bytes, with the replacement character for each fault. -/
def lenientChars (bytes : List UInt8) : List Char :=
  (pieces bytes).map fun piece => piece.getD '\uFFFD'

def lenient (bytes : List UInt8) : String := String.ofList (lenientChars bytes)

end Reclaim.Text.Utf8
