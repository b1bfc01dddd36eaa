import Reclaim.Proofs.Utf8

/-!
# Reading UTF-8 strictly

A strict reading gives a text for the bytes of that text, and for no others
(`decode?_eq_some_iff`).  Where no fault is met, the first byte of a character
tells how many follow it, and each of these is within its bounds; so the bytes
are those that the character is written with (`encode_of_pieces`).
-/

set_option autoImplicit false

namespace Reclaim.Text.Utf8

/-! ## First bytes -/

/-- A first byte of a character, and the character as it is opened by it.  The bounds of the second
byte keep out what has fewer bytes, the surrogates, and what is no code point. -/
inductive Opens (b : UInt8) : Opened → Prop where
  | two (value : Nat) (first : b.toNat = value + 0xc0) (long : 2 ≤ value) (small : value < 32) :
      Opens b ⟨value, 1, 0x80, 0xbf⟩
  | three (value : Nat) (lowest highest : UInt8) (first : b.toNat = value + 0xe0)
      (small : value < 16) (above : 0x80 ≤ lowest.toNat) (below : highest.toNat ≤ 0xbf)
      (long : value = 0 → 0xa0 ≤ lowest.toNat) (scalar : value = 13 → highest.toNat ≤ 0x9f) :
      Opens b ⟨value, 2, lowest, highest⟩
  | four (value : Nat) (lowest highest : UInt8) (first : b.toNat = value + 0xf0)
      (small : value < 5) (above : 0x80 ≤ lowest.toNat) (below : highest.toNat ≤ 0xbf)
      (long : value = 0 → 0x90 ≤ lowest.toNat) (scalar : value = 4 → highest.toNat ≤ 0x8f) :
      Opens b ⟨value, 3, lowest, highest⟩

theorem opens_of_start {b : UInt8} {part : Opened} (opened : start b = .opened part) :
    Opens b part := by
  rw [start_eq] at opened
  by_cases one : b.toNat ≤ 0x7f
  · rw [if_pos one] at opened
    cases opened
  by_cases continuing : b.toNat ≤ 0xc1
  · rw [if_neg one, if_pos continuing] at opened
    cases opened
  rw [if_neg one, if_neg continuing] at opened
  by_cases two : b.toNat ≤ 0xdf
  · rw [if_pos two] at opened
    rw [← Start.opened.inj opened]
    exact .two _ (by omega) (by omega) (by omega)
  rw [if_neg two] at opened
  by_cases three : b.toNat ≤ 0xef
  · by_cases least : b.toNat = 0xe0
    · rw [if_pos least] at opened
      rw [← Start.opened.inj opened]
      exact .three _ _ _ (by omega) (by omega) (by decide) (by decide) (fun _ => by decide)
        (by omega)
    rw [if_neg least] at opened
    by_cases surrogates : b.toNat = 0xed
    · rw [if_pos surrogates] at opened
      rw [← Start.opened.inj opened]
      exact .three _ _ _ (by omega) (by omega) (by decide) (by decide) (by omega)
        (fun _ => by decide)
    · rw [if_neg surrogates, if_pos three] at opened
      rw [← Start.opened.inj opened]
      exact .three _ _ _ (by omega) (by omega) (by decide) (by decide) (by omega) (by omega)
  rw [if_neg (by omega), if_neg (by omega), if_neg three] at opened
  by_cases least : b.toNat = 0xf0
  · rw [if_pos least] at opened
    rw [← Start.opened.inj opened]
    exact .four _ _ _ (by omega) (by omega) (by decide) (by decide) (fun _ => by decide) (by omega)
  rw [if_neg least] at opened
  by_cases greatest : b.toNat = 0xf4
  · rw [if_pos greatest] at opened
    rw [← Start.opened.inj opened]
    exact .four _ _ _ (by omega) (by omega) (by decide) (by decide) (by omega) (fun _ => by decide)
  rw [if_neg greatest] at opened
  by_cases four : b.toNat ≤ 0xf3
  · rw [if_pos four] at opened
    rw [← Start.opened.inj opened]
    exact .four _ _ _ (by omega) (by omega) (by decide) (by decide) (by omega) (by omega)
  · rw [if_neg four] at opened
    cases opened

theorem start_whole {b : UInt8} {c : Char} (whole : start b = .whole c) :
    b.toNat ≤ 0x7f ∧ c = Char.ofNat b.toNat := by
  rw [start_eq] at whole
  by_cases one : b.toNat ≤ 0x7f
  · rw [if_pos one] at whole
    cases whole
    exact ⟨one, rfl⟩
  · rw [if_neg one] at whole
    repeat' split at whole
    all_goals cases whole

/-! ## The bytes of a character, told by the bits that they contribute -/

theorem ofNat_eq {b : UInt8} {value : Nat} (same : b.toNat = value) : UInt8.ofNat value = b := by
  rw [← same, UInt8.ofNat_toNat]

theorem toNat_scalar {value : Nat} (scalar : value < 0xd800 ∨ 0xdfff < value ∧ value < 0x110000) :
    (Char.ofNat value).toNat = value := by
  have valid : value.isValidChar := scalar
  rw [Char.ofNat, dif_pos valid]
  rfl

theorem encodeChar_one {b : UInt8} (small : b.toNat ≤ 0x7f) :
    String.utf8EncodeChar (Char.ofNat b.toNat) = [b] := by
  have same : (Char.ofNat b.toNat).val.toNat = b.toNat := toNat_scalar (by omega)
  unfold String.utf8EncodeChar
  dsimp only
  rw [same, if_pos small, UInt8.ofNat_toNat]

theorem encodeChar_two {first second : UInt8} {value : Nat} (large : 0x7f < value)
    (small : value ≤ 0x7ff) (firstIs : first.toNat = value / 64 % 32 + 0xc0)
    (secondIs : second.toNat = value % 64 + 0x80) :
    String.utf8EncodeChar (Char.ofNat value) = [first, second] := by
  have same : (Char.ofNat value).val.toNat = value := toNat_scalar (by omega)
  unfold String.utf8EncodeChar
  dsimp only
  rw [same, if_neg (by omega), if_pos small, ofNat_eq firstIs, ofNat_eq secondIs]

theorem encodeChar_three {first second third : UInt8} {value : Nat} (large : 0x7ff < value)
    (small : value ≤ 0xffff) (scalar : value < 0xd800 ∨ 0xdfff < value)
    (firstIs : first.toNat = value / 4096 % 16 + 0xe0)
    (secondIs : second.toNat = value / 64 % 64 + 0x80)
    (thirdIs : third.toNat = value % 64 + 0x80) :
    String.utf8EncodeChar (Char.ofNat value) = [first, second, third] := by
  have same : (Char.ofNat value).val.toNat = value := toNat_scalar (by omega)
  unfold String.utf8EncodeChar
  dsimp only
  rw [same, if_neg (by omega), if_neg (by omega), if_pos small, ofNat_eq firstIs,
    ofNat_eq secondIs, ofNat_eq thirdIs]

theorem encodeChar_four {first second third fourth : UInt8} {value : Nat} (large : 0xffff < value)
    (small : value < 0x110000) (firstIs : first.toNat = value / 262144 % 8 + 0xf0)
    (secondIs : second.toNat = value / 4096 % 64 + 0x80)
    (thirdIs : third.toNat = value / 64 % 64 + 0x80)
    (fourthIs : fourth.toNat = value % 64 + 0x80) :
    String.utf8EncodeChar (Char.ofNat value) = [first, second, third, fourth] := by
  have same : (Char.ofNat value).val.toNat = value := toNat_scalar (by omega)
  unfold String.utf8EncodeChar
  dsimp only
  rw [same, if_neg (by omega), if_neg (by omega), if_neg (by omega), ofNat_eq firstIs,
    ofNat_eq secondIs, ofNat_eq thirdIs, ofNat_eq fourthIs]

/-! ## Readings without a fault -/

theorem not_fault_cons {pieces : List (Option Char)} {characters : List Char} :
    none :: pieces ≠ characters.map some := by
  cases characters <;> simp

/-- Where no fault is met, the next byte is within its bounds. -/
theorem piecesAfter_some {part : Opened} {bytes : List UInt8} {characters : List Char}
    (read : piecesAfter (some part) bytes = characters.map some) :
    ∃ b rest, bytes = b :: rest ∧ part.lowest.toNat ≤ b.toNat ∧ b.toNat ≤ part.highest.toNat ∧
      (if part.missing ≤ 1 then
        some (Char.ofNat (part.extend b).value) :: piecesAfter none rest
      else piecesAfter (some (part.extend b)) rest) = characters.map some := by
  cases bytes with
  | nil => exact absurd read not_fault_cons
  | cons b rest =>
    rw [piecesAfter] at read
    by_cases within : part.lowest ≤ b ∧ b ≤ part.highest
    · rw [if_pos within] at read
      obtain ⟨lowest, highest⟩ := within
      rw [UInt8.le_iff_toNat_le] at lowest highest
      exact ⟨b, rest, rfl, lowest, highest, read⟩
    · rw [if_neg within] at read
      split at read <;> exact absurd read not_fault_cons

/-- Bytes that are read without a fault are the bytes of what is read. -/
theorem encode_of_pieces {bytes : List UInt8} {characters : List Char}
    (read : pieces bytes = characters.map some) :
    characters.flatMap String.utf8EncodeChar = bytes := by
  induction long : bytes.length using Nat.strongRecOn generalizing bytes characters with
  | ind length ih =>
    -- The character that is read first, once its bytes are known to be those of its code point.
    have behind {value : Nat} {front rest : List UInt8} (ahead : front ≠ [])
        (whole : bytes = front ++ rest)
        (encoded : String.utf8EncodeChar (Char.ofNat value) = front)
        (told : some (Char.ofNat value) :: piecesAfter none rest = characters.map some) :
        characters.flatMap String.utf8EncodeChar = bytes := by
      cases characters with
      | nil => cases told
      | cons c others =>
        obtain ⟨same, later⟩ := List.cons_eq_cons.mp told
        obtain rfl := Option.some.inj same
        have shorter : rest.length < length := by
          have counted := List.length_pos_iff.mpr ahead
          rw [← long, whole, List.length_append]
          omega
        rw [List.flatMap_cons, encoded, ih _ shorter later rfl, whole]
    cases bytes with
    | nil =>
      cases characters with
      | nil => rfl
      | cons c others => cases read
    | cons first rest =>
      rw [pieces, piecesAfter] at read
      cases started : start first with
      | fault =>
        rw [started] at read
        exact absurd read not_fault_cons
      | whole c =>
        obtain ⟨small, rfl⟩ := start_whole started
        rw [started] at read
        exact behind (List.cons_ne_nil _ _) rfl (encodeChar_one small) read
      | opened part =>
        rw [started] at read
        obtain ⟨second, rest, rfl, above, below, read⟩ := piecesAfter_some read
        cases opens_of_start started with
        | two value lead long small =>
          change 0x80 ≤ _ at above
          change _ ≤ 0xbf at below
          have encoded : String.utf8EncodeChar
              (Char.ofNat (value * 64 + (second.toNat - 0x80))) = [first, second] :=
            encodeChar_two (by omega) (by omega) (by omega) (by omega)
          exact behind (List.cons_ne_nil _ _) rfl encoded read
        | three value lowest highest lead small atLeast atMost long scalar =>
          dsimp only at above below
          obtain ⟨third, rest, rfl, thirdAbove, thirdBelow, read⟩ := piecesAfter_some read
          change 0x80 ≤ _ at thirdAbove
          change _ ≤ 0xbf at thirdBelow
          have encoded : String.utf8EncodeChar
              (Char.ofNat ((value * 64 + (second.toNat - 0x80)) * 64 + (third.toNat - 0x80))) =
                [first, second, third] :=
            encodeChar_three (by omega) (by omega) (by omega) (by omega) (by omega) (by omega)
          exact behind (List.cons_ne_nil _ _) rfl encoded read
        | four value lowest highest lead small atLeast atMost long scalar =>
          dsimp only at above below
          obtain ⟨third, rest, rfl, thirdAbove, thirdBelow, read⟩ := piecesAfter_some read
          obtain ⟨fourth, rest, rfl, fourthAbove, fourthBelow, read⟩ := piecesAfter_some read
          change 0x80 ≤ _ at thirdAbove fourthAbove
          change _ ≤ 0xbf at thirdBelow fourthBelow
          have encoded : String.utf8EncodeChar
              (Char.ofNat (((value * 64 + (second.toNat - 0x80)) * 64 + (third.toNat - 0x80)) * 64 +
                (fourth.toNat - 0x80))) = [first, second, third, fourth] :=
            encodeChar_four (by omega) (by omega) (by omega) (by omega) (by omega) (by omega)
          exact behind (List.cons_ne_nil _ _) rfl encoded read

theorem mapM_pieces_eq_some_iff {pieces : List (Option Char)} {characters : List Char} :
    pieces.mapM id = some characters ↔ pieces = characters.map some := by
  induction pieces generalizing characters with
  | nil => cases characters <;> simp
  | cons piece rest ih =>
    cases piece with
    | none => cases characters <;> simp
    | some c =>
      simp only [List.mapM_cons, id, Option.bind_eq_bind, Option.bind_some, Option.pure_def,
        Option.bind_eq_some_iff, ih]
      constructor
      · rintro ⟨others, rfl, whole⟩
        rw [← Option.some.inj whole]
        rfl
      · intro whole
        cases characters with
        | nil => cases whole
        | cons other others =>
          obtain ⟨same, later⟩ := List.cons_eq_cons.mp whole
          exact ⟨others, later, by rw [Option.some.inj same]⟩

/-- A strict reading gives a text exactly for the bytes of that text. -/
theorem decode?_eq_some_iff {bytes : List UInt8} {text : String} :
    decode? bytes = some text ↔ bytes = encode text := by
  rw [decode?, Option.map_eq_some_iff]
  constructor
  · rintro ⟨characters, read, rfl⟩
    rw [encode, String.toList_ofList, encode_of_pieces (mapM_pieces_eq_some_iff.mp read)]
  · rintro rfl
    exact ⟨text.toList, mapM_pieces_eq_some_iff.mpr (pieces_encode _), String.ofList_toList⟩

end Reclaim.Text.Utf8
