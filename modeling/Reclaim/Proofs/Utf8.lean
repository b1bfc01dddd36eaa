import Reclaim.Text.Utf8

/-!
# Reading UTF-8 back

A text that has been written as bytes is read as itself: the bytes of each
character are read as that character, whatever follows them
(`pieces_encodeChar`), so no reading meets a fault (`lenient_encode`).
-/

set_option autoImplicit false

namespace Reclaim.Text.Utf8

/-! ## The first byte of a character -/

theorem start_eq (b : UInt8) :
    start b =
      if b.toNat ≤ 0x7f then .whole (Char.ofNat b.toNat)
      else if b.toNat ≤ 0xc1 then .fault
      else if b.toNat ≤ 0xdf then .opened ⟨b.toNat - 0xc0, 1, 0x80, 0xbf⟩
      else if b.toNat = 0xe0 then .opened ⟨b.toNat - 0xe0, 2, 0xa0, 0xbf⟩
      else if b.toNat = 0xed then .opened ⟨b.toNat - 0xe0, 2, 0x80, 0x9f⟩
      else if b.toNat ≤ 0xef then .opened ⟨b.toNat - 0xe0, 2, 0x80, 0xbf⟩
      else if b.toNat = 0xf0 then .opened ⟨b.toNat - 0xf0, 3, 0x90, 0xbf⟩
      else if b.toNat = 0xf4 then .opened ⟨b.toNat - 0xf0, 3, 0x80, 0x8f⟩
      else if b.toNat ≤ 0xf3 then .opened ⟨b.toNat - 0xf0, 3, 0x80, 0xbf⟩
      else .fault := by
  simp only [start, UInt8.le_iff_toNat_le, ← UInt8.toNat_inj]
  rfl

theorem start_of_one {value : Nat} (small : value ≤ 0x7f) :
    start (UInt8.ofNat value) = .whole (Char.ofNat value) := by
  have isByte : value < 256 := by omega
  rw [start_eq, UInt8.toNat_ofNat_of_lt' isByte, if_pos small]

theorem start_of_two {value : Nat} (large : 0x7f < value) (small : value ≤ 0x7ff) :
    start (UInt8.ofNat (value / 64 % 32 + 0xc0)) = .opened ⟨value / 64, 1, 0x80, 0xbf⟩ := by
  have isByte : value / 64 % 32 + 0xc0 < 256 := by omega
  have contributed : value / 64 % 32 + 0xc0 - 0xc0 = value / 64 := by omega
  rw [start_eq, UInt8.toNat_ofNat_of_lt' isByte, if_neg (by omega), if_neg (by omega),
    if_pos (by omega), contributed]

/-- A byte that continues a character, and what it contributes. -/
structure Opened.Admits (part : Opened) (value : Nat) : Prop where
  lowest : part.lowest.toNat ≤ value % 64 + 0x80
  highest : value % 64 + 0x80 ≤ part.highest.toNat

/-- The bounds of the second byte are those of the scalar values: no surrogates, and nothing that
two bytes could have told. -/
theorem start_of_three {value : Nat} (large : 0x7ff < value) (small : value ≤ 0xffff)
    (scalar : value < 0xd800 ∨ 0xdfff < value) :
    ∃ lowest highest,
      start (UInt8.ofNat (value / 4096 % 16 + 0xe0)) =
        .opened ⟨value / 4096, 2, lowest, highest⟩ ∧
      (⟨value / 4096, 2, lowest, highest⟩ : Opened).Admits (value / 64) := by
  have isByte : value / 4096 % 16 + 0xe0 < 256 := by omega
  have contributed : value / 4096 % 16 + 0xe0 - 0xe0 = value / 4096 := by omega
  rw [start_eq, UInt8.toNat_ofNat_of_lt' isByte, if_neg (by omega), if_neg (by omega),
    if_neg (by omega), contributed]
  by_cases least : value / 4096 % 16 + 0xe0 = 0xe0
  · refine ⟨0xa0, 0xbf, if_pos least, ?_, ?_⟩
    · change 0xa0 ≤ _
      omega
    · change _ ≤ 0xbf
      omega
  · rw [if_neg least]
    by_cases beforeSurrogates : value / 4096 % 16 + 0xe0 = 0xed
    · refine ⟨0x80, 0x9f, if_pos beforeSurrogates, ?_, ?_⟩
      · change 0x80 ≤ _
        omega
      · change _ ≤ 0x9f
        omega
    · rw [if_neg beforeSurrogates]
      refine ⟨0x80, 0xbf, if_pos (by omega), ?_, ?_⟩
      · change 0x80 ≤ _
        omega
      · change _ ≤ 0xbf
        omega

theorem start_of_four {value : Nat} (large : 0xffff < value) (small : value < 0x110000) :
    ∃ lowest highest,
      start (UInt8.ofNat (value / 262144 % 8 + 0xf0)) =
        .opened ⟨value / 262144, 3, lowest, highest⟩ ∧
      (⟨value / 262144, 3, lowest, highest⟩ : Opened).Admits (value / 4096) := by
  have isByte : value / 262144 % 8 + 0xf0 < 256 := by omega
  have contributed : value / 262144 % 8 + 0xf0 - 0xf0 = value / 262144 := by omega
  rw [start_eq, UInt8.toNat_ofNat_of_lt' isByte, if_neg (by omega), if_neg (by omega),
    if_neg (by omega), if_neg (by omega), if_neg (by omega), if_neg (by omega), contributed]
  by_cases least : value / 262144 % 8 + 0xf0 = 0xf0
  · refine ⟨0x90, 0xbf, if_pos least, ?_, ?_⟩
    · change 0x90 ≤ _
      omega
    · change _ ≤ 0xbf
      omega
  · rw [if_neg least]
    by_cases greatest : value / 262144 % 8 + 0xf0 = 0xf4
    · refine ⟨0x80, 0x8f, if_pos greatest, ?_, ?_⟩
      · change 0x80 ≤ _
        omega
      · change _ ≤ 0x8f
        omega
    · rw [if_neg greatest]
      refine ⟨0x80, 0xbf, if_pos (by omega), ?_, ?_⟩
      · change 0x80 ≤ _
        omega
      · change _ ≤ 0xbf
        omega

/-! ## The bytes that follow -/

theorem Opened.admits_after (value missing next : Nat) :
    (⟨value, missing, 0x80, 0xbf⟩ : Opened).Admits next := by
  constructor
  · change 0x80 ≤ _
    omega
  · change _ ≤ 0xbf
    omega

theorem extend_eq (part : Opened) {b : UInt8} {value : Nat}
    (continues : b.toNat = value % 64 + 0x80) :
    part.extend b = ⟨part.value * 64 + value % 64, part.missing - 1, 0x80, 0xbf⟩ := by
  have contributed : b.toNat - 0x80 = value % 64 := by omega
  unfold Opened.extend
  simp only [contributed]

theorem toNat_continuing (value : Nat) :
    (UInt8.ofNat (value % 64 + 0x80)).toNat = value % 64 + 0x80 := by
  have isByte : value % 64 + 0x80 < 256 := by omega
  exact UInt8.toNat_ofNat_of_lt' isByte

theorem piecesAfter_of_admits {part : Opened} {value : Nat} (admits : part.Admits value)
    (rest : List UInt8) :
    piecesAfter (some part) (UInt8.ofNat (value % 64 + 0x80) :: rest) =
      if part.missing ≤ 1 then
        some (Char.ofNat (part.value * 64 + value % 64)) :: piecesAfter none rest
      else
        piecesAfter (some ⟨part.value * 64 + value % 64, part.missing - 1, 0x80, 0xbf⟩) rest := by
  have within : part.lowest ≤ UInt8.ofNat (value % 64 + 0x80) ∧
      UInt8.ofNat (value % 64 + 0x80) ≤ part.highest := by
    rw [UInt8.le_iff_toNat_le, UInt8.le_iff_toNat_le, toNat_continuing]
    exact ⟨admits.lowest, admits.highest⟩
  rw [piecesAfter, if_pos within, extend_eq part (toNat_continuing value)]

theorem piecesAfter_last {part : Opened} {value : Nat} (admits : part.Admits value)
    (last : part.missing = 1) (rest : List UInt8) :
    piecesAfter (some part) (UInt8.ofNat (value % 64 + 0x80) :: rest) =
      some (Char.ofNat (part.value * 64 + value % 64)) :: piecesAfter none rest := by
  rw [piecesAfter_of_admits admits, if_pos (Nat.le_of_eq last)]

theorem piecesAfter_more {part : Opened} {value missing : Nat} (admits : part.Admits value)
    (more : part.missing = missing + 2) (rest : List UInt8) :
    piecesAfter (some part) (UInt8.ofNat (value % 64 + 0x80) :: rest) =
      piecesAfter (some ⟨part.value * 64 + value % 64, missing + 1, 0x80, 0xbf⟩) rest := by
  rw [piecesAfter_of_admits admits, if_neg (by omega), more]
  rfl

/-! ## Characters and texts -/

/-- The bytes of a character are read as that character, whatever follows them. -/
theorem pieces_encodeChar (c : Char) (rest : List UInt8) :
    pieces (String.utf8EncodeChar c ++ rest) = some c :: pieces rest := by
  have scalar : c.toNat < 0xd800 ∨ 0xdfff < c.toNat ∧ c.toNat < 0x110000 := c.valid
  have itself : Char.ofNat c.toNat = c := Char.ofNat_toNat c
  have sameValue : c.val.toNat = c.toNat := rfl
  unfold pieces String.utf8EncodeChar
  dsimp only
  rw [sameValue]
  generalize c.toNat = value at *
  -- One case for each length; the bytes are put together again from the left.
  by_cases one : value ≤ 0x7f
  · rw [if_pos one, List.singleton_append, piecesAfter, start_of_one one, itself]
  rw [if_neg one]
  by_cases two : value ≤ 0x7ff
  · have joined : value / 64 * 64 + value % 64 = value := by omega
    rw [if_pos two, List.cons_append, piecesAfter, start_of_two (by omega) two]
    dsimp only
    rw [List.singleton_append, piecesAfter_last (Opened.admits_after _ _ _) rfl, joined, itself]
  rw [if_neg two]
  by_cases three : value ≤ 0xffff
  · obtain ⟨lowest, highest, opened, admits⟩ :=
      start_of_three (by omega) three (by omega : value < 0xd800 ∨ 0xdfff < value)
    have joined : (value / 4096 * 64 + value / 64 % 64) * 64 + value % 64 = value := by omega
    rw [if_pos three, List.cons_append, piecesAfter, opened]
    dsimp only
    rw [List.cons_append, piecesAfter_more admits rfl, List.singleton_append,
      piecesAfter_last (Opened.admits_after _ _ _) rfl, joined, itself]
  · obtain ⟨lowest, highest, opened, admits⟩ :=
      start_of_four (by omega) (by omega : value < 0x110000)
    have joined : ((value / 262144 * 64 + value / 4096 % 64) * 64 + value / 64 % 64) * 64 +
        value % 64 = value := by omega
    rw [if_neg three, List.cons_append, piecesAfter, opened]
    dsimp only
    rw [List.cons_append, piecesAfter_more admits rfl, List.cons_append,
      piecesAfter_more (Opened.admits_after _ _ _) rfl, List.singleton_append,
      piecesAfter_last (Opened.admits_after _ _ _) rfl, joined, itself]

theorem pieces_encode (characters : List Char) :
    pieces (characters.flatMap String.utf8EncodeChar) = characters.map some := by
  induction characters with
  | nil => rfl
  | cons c rest ih => rw [List.flatMap_cons, pieces_encodeChar, ih, List.map_cons]

theorem lenientChars_encode (text : String) : lenientChars (encode text) = text.toList := by
  have same : (fun piece : Option Char => piece.getD '\uFFFD') ∘ some = id := rfl
  rw [lenientChars, encode, pieces_encode, List.map_map, same, List.map_id]

/-- A text that has been written is read as itself. -/
theorem lenient_encode (text : String) : lenient (encode text) = text := by
  rw [lenient, lenientChars_encode, String.ofList_toList]

end Reclaim.Text.Utf8
