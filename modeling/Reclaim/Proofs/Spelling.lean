import Reclaim.Json.Literal

/-!
# How texts are spelled in JSON

A character can stand for itself in a JSON text, behind a backslash if it has a
short name, or by the code units that encode it.  However a text is spelled, it
is read as itself (`readText_spelled`).  A text that is passed over need not
spell anything: there half of a surrogate pair will do.
-/

set_option autoImplicit false

namespace Reclaim.Json

/-! ## Code units -/

def NamesDigit (c : Char) (value : Nat) : Prop :=
  "0123456789abcdef".toList[value]? = some c ∨ "0123456789ABCDEF".toList[value]? = some c

/-- Four hexadecimal digits, in either case, that name a code unit. -/
inductive NamesUnit : List Char → Nat → Prop where
  | digits {a b c d : Char} {w x y z : Nat} (first : NamesDigit a w) (second : NamesDigit b x)
      (third : NamesDigit c y) (fourth : NamesDigit d z) :
      NamesUnit [a, b, c, d] (w * 0x1000 + x * 0x100 + y * 0x10 + z)

theorem NamesDigit.hexDigit? {c : Char} {value : Nat} (named : NamesDigit c value) :
    Text.hexDigit? c = some value := by
  have lower : ∀ v : Fin 16, Text.hexDigit? "0123456789abcdef".toList[v] = some v.val := by decide
  have upper : ∀ v : Fin 16, Text.hexDigit? "0123456789ABCDEF".toList[v] = some v.val := by decide
  rcases named with named | named
  · obtain ⟨small, rfl⟩ := List.getElem?_eq_some_iff.mp named
    exact lower ⟨value, small⟩
  · obtain ⟨small, rfl⟩ := List.getElem?_eq_some_iff.mp named
    exact upper ⟨value, small⟩

/-! ## Spellings -/

/-- The characters that have a short name, behind the letter that names them. -/
def shortNames : List (Char × Char) :=
  [('"', '"'), ('\\', '\\'), ('/', '/'), ('b', '\x08'), ('f', '\x0c'), ('n', '\n'), ('r', '\r'),
    ('t', '\t')]

/-- The ways to write a character in a JSON text. -/
inductive SpellsChar : Char → List Char → Prop where
  | plain {c : Char} (noQuote : c ≠ '"') (noBackslash : c ≠ '\\') (noControl : 0x20 ≤ c.toNat) :
      SpellsChar c [c]
  | short {letter c : Char} (listed : (letter, c) ∈ shortNames) : SpellsChar c ['\\', letter]
  | unit {c : Char} {digits : List Char} (named : NamesUnit digits c.toNat) :
      SpellsChar c ('\\' :: 'u' :: digits)
  /-- A surrogate pair. -/
  | pair {c : Char} {high low : List Char} (beyond : 0x10000 ≤ c.toNat)
      (first : NamesUnit high (0xd800 + (c.toNat - 0x10000) / 0x400))
      (second : NamesUnit low (0xdc00 + (c.toNat - 0x10000) % 0x400)) :
      SpellsChar c ('\\' :: 'u' :: high ++ '\\' :: 'u' :: low)

inductive Spells : List Char → List Char → Prop where
  | nil : Spells [] []
  | cons {c : Char} {piece content spelling : List Char} (first : SpellsChar c piece)
      (rest : Spells content spelling) : Spells (c :: content) (piece ++ spelling)

/-- A text without quotation marks, backslashes and controls. -/
def Plain (text : List Char) : Prop := ∀ c ∈ text, c ≠ '"' ∧ c ≠ '\\' ∧ 0x20 ≤ c.toNat

instance (text : List Char) : Decidable (Plain text) := List.decidableBAll _ text

theorem spells_of_plain {text : List Char} (plain : Plain text) : Spells text text := by
  induction text with
  | nil => exact .nil
  | cons c rest ih =>
    obtain ⟨⟨noQuote, noBackslash, noControl⟩, later⟩ := List.forall_mem_cons.mp plain
    exact .cons (.plain noQuote noBackslash noControl) (ih later)

/-- What may stand between quotation marks, whether or not it is the spelling of a text. -/
inductive WellFormed : List Char → Prop where
  | nil : WellFormed []
  | plain {c : Char} {rest : List Char} (noQuote : c ≠ '"') (noBackslash : c ≠ '\\')
      (noControl : 0x20 ≤ c.toNat) (wellFormed : WellFormed rest) : WellFormed (c :: rest)
  | short {letter c : Char} {rest : List Char} (listed : (letter, c) ∈ shortNames)
      (wellFormed : WellFormed rest) : WellFormed ('\\' :: letter :: rest)
  | unit {digits rest : List Char} {value : Nat} (named : NamesUnit digits value)
      (wellFormed : WellFormed rest) : WellFormed ('\\' :: 'u' :: digits ++ rest)

theorem escape?_of_listed {letter c : Char} (listed : (letter, c) ∈ shortNames) :
    letter ≠ 'u' ∧ escape? letter = some c := by
  have all : ∀ pair ∈ shortNames, pair.1 ≠ 'u' ∧ escape? pair.1 = some pair.2 := by decide
  exact all _ listed

theorem isControl_eq_false {c : Char} (noControl : 0x20 ≤ c.toNat) : isControl c = false := by
  simp [isControl, noControl]

/-! ## Reading -/

theorem readTextFrom_unit {digits : List Char} {value : Nat} (named : NamesUnit digits value)
    (high : Option Nat) (read rest : List Char) :
    readTextFrom (.unit high 0 4) read (digits ++ rest) =
      match afterUnit high value read with
      | some (stage, read) => readTextFrom stage read rest
      | none => .error (Flaw.loneHalf.before rest) := by
  obtain ⟨first, second, third, fourth⟩ := named
  rename_i w x y z
  have value : (((0 * 16 + w) * 16 + x) * 16 + y) * 16 + z =
      w * 0x1000 + x * 0x100 + y * 0x10 + z := by omega
  simp only [List.cons_append, List.nil_append, readTextFrom, first.hexDigit?, second.hexDigit?,
    third.hexDigit?, fourth.hexDigit?, value]
  rfl

/-- Whichever way a character is written, it is read. -/
theorem readTextFrom_char {c : Char} {piece : List Char} (spelled : SpellsChar c piece)
    (read rest : List Char) :
    readTextFrom .plain read (piece ++ rest) = readTextFrom .plain (c :: read) rest := by
  have scalar : c.toNat < 0xd800 ∨ 0xdfff < c.toNat ∧ c.toNat < 0x110000 := c.valid
  cases spelled with
  | plain noQuote noBackslash noControl =>
    simp [readTextFrom, noQuote, noBackslash, isControl_eq_false noControl]
  | short listed =>
    obtain ⟨noUnit, named⟩ := escape?_of_listed listed
    simp [readTextFrom, noUnit, named]
  | @unit _ digits named =>
    have whole : afterUnit none c.toNat read = some (.plain, c :: read) := by
      rw [afterUnit, if_neg (by omega), if_neg (by omega), Char.ofNat_toNat]
    have behind := readTextFrom_unit named none read rest
    rw [whole] at behind
    simpa [readTextFrom] using behind
  | @pair _ high low beyond first second =>
    generalize firstUnit : 0xd800 + (c.toNat - 0x10000) / 0x400 = one at first
    generalize secondUnit : 0xdc00 + (c.toNat - 0x10000) % 0x400 = two at second
    have half : afterUnit none one read = some (.half one, read) := by
      rw [afterUnit, if_neg (by omega), if_pos (by omega)]
    have itself : 0x10000 + (one - 0xd800) * 0x400 + (two - 0xdc00) = c.toNat := by omega
    have whole : afterUnit (some one) two read = some (.plain, c :: read) := by
      rw [afterUnit, if_pos (by omega), itself, Char.ofNat_toNat]
    have behind := readTextFrom_unit first none read ('\\' :: 'u' :: low ++ rest)
    have further := readTextFrom_unit second (some one) read rest
    rw [half] at behind
    rw [whole] at further
    simpa [readTextFrom, further] using behind

theorem readTextFrom_spelled {content spelling : List Char} (spelled : Spells content spelling)
    (read rest : List Char) :
    readTextFrom .plain read (spelling ++ '"' :: rest) = .ok (read.reverse ++ content, rest) := by
  induction spelled generalizing read with
  | nil => simp [readTextFrom]
  | cons first later ih => rw [List.append_assoc, readTextFrom_char first, ih]; simp

/-- However a text is spelled, it is read as itself. -/
theorem readText_spelled {content spelling : List Char} (spelled : Spells content spelling)
    (rest : List Char) : readText (spelling ++ '"' :: rest) = .ok (content, rest) :=
  readTextFrom_spelled spelled [] rest

/-! ## Passing over -/

theorem skipTextFrom_unit {digits : List Char} {value : Nat} (named : NamesUnit digits value)
    (rest : List Char) : skipTextFrom (.unit 4) (digits ++ rest) = skipTextFrom .plain rest := by
  obtain ⟨first, second, third, fourth⟩ := named
  simp [skipTextFrom, first.hexDigit?, second.hexDigit?, third.hexDigit?, fourth.hexDigit?]

theorem skipText_wellFormed {text : List Char} (wellFormed : WellFormed text) (rest : List Char) :
    skipText (text ++ '"' :: rest) = .ok rest := by
  unfold skipText
  induction wellFormed with
  | nil => rfl
  | plain noQuote noBackslash noControl later ih =>
    simpa [skipTextFrom, noQuote, noBackslash, isControl_eq_false noControl] using ih
  | short listed later ih =>
    obtain ⟨noUnit, named⟩ := escape?_of_listed listed
    simpa [skipTextFrom, noUnit, named] using ih
  | @unit digits more value named later ih =>
    have behind := skipTextFrom_unit named (more ++ '"' :: rest)
    rw [ih] at behind
    simpa [skipTextFrom] using behind

end Reclaim.Json
