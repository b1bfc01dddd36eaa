/-!
# Texts

What is asked of characters and texts in many places.  Properties of characters
are tables of inclusive ranges of code points; blank are the characters with the
property White_Space.  A line ends at a line feed, and a carriage return right
before that line feed belongs to the ending; what follows the last line feed is
a line of its own when it is not empty, and keeps a carriage return at its end.
-/

set_option autoImplicit false

namespace Reclaim.Text

abbrev Ranges := List (Nat × Nat)

def liesIn (ranges : Ranges) (code : Nat) : Bool :=
  ranges.any fun range => range.1 ≤ code && code ≤ range.2

/-! ## Blank characters -/

def blankRanges : Ranges :=
  [(0x09, 0x0d), (0x20, 0x20), (0x85, 0x85), (0xa0, 0xa0), (0x1680, 0x1680), (0x2000, 0x200a),
    (0x2028, 0x2029), (0x202f, 0x202f), (0x205f, 0x205f), (0x3000, 0x3000)]

def isBlank (c : Char) : Bool := liesIn blankRanges c.toNat

def trim (text : List Char) : List Char :=
  (((text.dropWhile isBlank).reverse).dropWhile isBlank).reverse

def trimmed (text : String) : String := String.ofList (trim text.toList)

theorem dropWhile_eq_self_of_head? {test : Char → Bool} {text : List Char}
    (keeps : ∀ c, text.head? = some c → test c = false) : text.dropWhile test = text := by
  cases text with
  | nil => rfl
  | cons c rest => simp [keeps c rfl]

theorem trim_eq_self {text : List Char} (first : ∀ c, text.head? = some c → isBlank c = false)
    (last : ∀ c, text.getLast? = some c → isBlank c = false) : trim text = text := by
  unfold trim
  rw [dropWhile_eq_self_of_head? first, dropWhile_eq_self_of_head? (by simpa using last),
    List.reverse_reverse]

/-! ## Lines -/

/-- Takes one carriage return off the end of a reversed line. -/
def withoutReturn : List Char → List Char
  | '\r' :: rest => rest
  | line => line

/-- The lines of a text, after the characters of the first one read so far in reverse. -/
def linesAfter (read : List Char) : List Char → List (List Char)
  | [] => if read.isEmpty then [] else [read.reverse]
  | '\n' :: rest => (withoutReturn read).reverse :: linesAfter [] rest
  | c :: rest => linesAfter (c :: read) rest

def lines (text : List Char) : List (List Char) := linesAfter [] text

/-! ## Lower case -/

def lowerLetter (c : Char) : Char :=
  if 'A' ≤ c ∧ c ≤ 'Z' then Char.ofNat (c.toNat + 32) else c

def lowered (text : List Char) : List Char := text.map lowerLetter

end Reclaim.Text
