import Reclaim.Proofs.Acknowledgment
import Reclaim.Proofs.Utf8

/-!
# Reading forms back

The form of a selector is read back as `application/x-www-form-urlencoded`:
cut at `&`, each piece at its first `=`, `+` for spaces, and percent signs with
two digits for bytes.  That gives the selector's clauses in order
(`pairs_query`), because no separator occurs in what has been escaped.  No line
ending does either, so on a stream that takes what is written each selector
has a line of its own (`written_lines_decode`).
-/

set_option autoImplicit false

namespace Reclaim.Wire.Form

/-! ## What reads a form -/

def hexValue? (b : UInt8) : Option UInt8 :=
  if 0x30 ≤ b ∧ b ≤ 0x39 then some (b - 0x30)
  else if 0x41 ≤ b ∧ b ≤ 0x46 then some (b - 0x37)
  else if 0x61 ≤ b ∧ b ≤ 0x66 then some (b - 0x57)
  else none

/-- Puts a byte for each percent sign with two digits; any other percent sign stands for itself. -/
def percentDecode : List UInt8 → List UInt8
  | b :: high :: low :: rest =>
    if b = 0x25 then
      match hexValue? high, hexValue? low with
      | some first, some second => (first * 16 + second) :: percentDecode rest
      | some _, none | none, _ => b :: percentDecode (high :: low :: rest)
    else b :: percentDecode (high :: low :: rest)
  | short => short

def unplus (b : UInt8) : UInt8 := if b = 0x2b then 0x20 else b

def decode (bytes : List UInt8) : String :=
  Text.Utf8.lenient (percentDecode (bytes.map unplus))

/-- Reads a pair, which is cut at its first `=`. -/
def decodePair (bytes : List UInt8) : String × String :=
  (decode (bytes.takeWhile (· != 0x3d)), decode ((bytes.dropWhile (· != 0x3d)).drop 1))

def pairs (bytes : List UInt8) : List (String × String) :=
  ((bytes.splitOn 0x26).filter fun piece => !piece.isEmpty).map decodePair

/-! ## Bytes -/

theorem isPlain_hexDigit {value : UInt8} (small : value < 16) :
    isPlain (hexDigit value) = true := by
  have all : ∀ digit : Fin 16, isPlain (hexDigit (UInt8.ofNat digit.val)) = true := by decide
  have same := all ⟨value.toNat, UInt8.lt_iff_toNat_lt.mp small⟩
  rwa [UInt8.ofNat_toNat] at same

theorem hexValue?_hexDigit {value : UInt8} (small : value < 16) :
    hexValue? (hexDigit value) = some value := by
  have all : ∀ digit : Fin 16,
      hexValue? (hexDigit (UInt8.ofNat digit.val)) = some (UInt8.ofNat digit.val) := by decide
  have same := all ⟨value.toNat, UInt8.lt_iff_toNat_lt.mp small⟩
  rwa [UInt8.ofNat_toNat] at same

theorem high_lt (b : UInt8) : b / 16 < 16 := by
  have bound := b.toNat_lt
  rw [UInt8.lt_iff_toNat_lt, UInt8.toNat_div]
  change b.toNat / 16 < 16
  omega

theorem low_lt (b : UInt8) : b % 16 < 16 := by
  rw [UInt8.lt_iff_toNat_lt, UInt8.toNat_mod]
  change b.toNat % 16 < 16
  omega

theorem high_low (b : UInt8) : b / 16 * 16 + b % 16 = b := by
  have bound := b.toNat_lt
  rw [← UInt8.toNat_inj, UInt8.toNat_add, UInt8.toNat_mul, UInt8.toNat_div, UInt8.toNat_mod]
  change (b.toNat / 16 * 16 % 256 + b.toNat % 16) % 256 = b.toNat
  omega

theorem mem_encodeByte {b written : UInt8} (member : written ∈ encodeByte b) :
    isPlain written = true ∨ written = 0x2b ∨ written = 0x25 := by
  unfold encodeByte at member
  split at member
  next plain =>
    rw [List.mem_singleton.mp member]
    exact Or.inl plain
  next =>
    split at member
    · exact Or.inr (Or.inl (List.mem_singleton.mp member))
    · simp only [List.mem_cons, List.not_mem_nil, or_false] at member
      rcases member with rfl | rfl | rfl
      · exact Or.inr (Or.inr rfl)
      · exact Or.inl (isPlain_hexDigit (high_lt b))
      · exact Or.inl (isPlain_hexDigit (low_lt b))

theorem unplus_of_plain {b : UInt8} (plain : isPlain b = true) : unplus b = b := by
  apply if_neg
  rintro rfl
  exact absurd plain (by decide)

theorem percentDecode_cons {b : UInt8} (ordinary : b ≠ 0x25) (rest : List UInt8) :
    percentDecode (b :: rest) = b :: percentDecode rest := by
  match rest with
  | [] => rfl
  | [_] => rfl
  | high :: low :: more => rw [percentDecode, if_neg ordinary]

/-- A byte that has been written is read back, whatever follows it. -/
theorem percentDecode_encodeByte (b : UInt8) (rest : List UInt8) :
    percentDecode ((encodeByte b).map unplus ++ rest) = b :: percentDecode rest := by
  unfold encodeByte
  by_cases plain : isPlain b = true
  · have ordinary : b ≠ 0x25 := by
      rintro rfl
      exact absurd plain (by decide)
    rw [if_pos plain, List.map_singleton, unplus_of_plain plain, List.singleton_append,
      percentDecode_cons ordinary]
  · rw [if_neg plain]
    by_cases blank : b = 0x20
    · rw [if_pos blank, blank, List.map_singleton, List.singleton_append]
      exact percentDecode_cons (by decide) rest
    · have high := hexValue?_hexDigit (high_lt b)
      have low := hexValue?_hexDigit (low_lt b)
      have percent : unplus 0x25 = 0x25 := rfl
      rw [if_neg blank, List.map_cons, List.map_cons, List.map_singleton, percent,
        unplus_of_plain (isPlain_hexDigit (high_lt b)),
        unplus_of_plain (isPlain_hexDigit (low_lt b))]
      rw [List.cons_append, List.cons_append, List.singleton_append, percentDecode, if_pos rfl,
        high, low]
      dsimp only
      rw [high_low]

/-! ## Keys and values -/

theorem percentDecode_encode (bytes rest : List UInt8) :
    percentDecode ((bytes.flatMap encodeByte).map unplus ++ rest) =
      bytes ++ percentDecode rest := by
  induction bytes with
  | nil => rfl
  | cons b more ih =>
    rw [List.flatMap_cons, List.map_append, List.append_assoc, percentDecode_encodeByte, ih]
    rfl

theorem decode_encode (text : String) : decode (encode text) = text := by
  have bytes := percentDecode_encode (Text.Utf8.encode text) []
  rw [List.append_nil] at bytes
  rw [decode, encode, bytes]
  have whole : percentDecode [] = [] := rfl
  rw [whole, List.append_nil]
  exact Text.Utf8.lenient_encode text

def Reserved (b : UInt8) : Prop := isPlain b = false ∧ b ≠ 0x2b ∧ b ≠ 0x25

theorem notMem_encode {mark : UInt8} (reserved : Reserved mark) (text : String) :
    mark ∉ encode text := by
  obtain ⟨notPlain, notPlus, notPercent⟩ := reserved
  intro member
  obtain ⟨b, -, written⟩ := List.mem_flatMap.mp member
  rcases mem_encodeByte written with plain | plus | percent
  · rw [notPlain] at plain
    cases plain
  · exact notPlus plus
  · exact notPercent percent

/-! ## Forms -/

theorem notMem_encodeClause {mark : UInt8} (reserved : Reserved mark) (other : mark ≠ 0x3d)
    (clause : Clause) : mark ∉ encodeClause clause := by
  rw [encodeClause, List.mem_append, List.mem_cons]
  rintro (inKey | here | inValue)
  · exact notMem_encode reserved clause.key inKey
  · exact other here
  · exact notMem_encode reserved clause.value inValue

theorem notMem_intercalate {mark separator : UInt8} (other : mark ≠ separator)
    {pieces : List (List UInt8)} (absent : ∀ piece ∈ pieces, mark ∉ piece) :
    mark ∉ [separator].intercalate pieces := by
  induction pieces with
  | nil => exact List.not_mem_nil
  | cons piece rest ih =>
    have absentHere := absent piece List.mem_cons_self
    have absentLater := ih fun later member => absent later (List.mem_cons_of_mem _ member)
    cases rest with
    | nil => rwa [List.intercalate_singleton]
    | cons next more =>
      rw [List.intercalate_cons_cons, List.mem_append, List.mem_append, List.mem_singleton]
      rintro ((inPiece | here) | later)
      · exact absentHere inPiece
      · exact other here
      · exact absentLater later

/-- Neither line ending, nor any other reserved byte but the two separators, occurs in a form. -/
theorem notMem_query {mark : UInt8} (reserved : Reserved mark) (noEquals : mark ≠ 0x3d)
    (noAmpersand : mark ≠ 0x26) (selector : Selector) : mark ∉ query selector := by
  apply notMem_intercalate noAmpersand
  intro piece member
  obtain ⟨clause, -, rfl⟩ := List.mem_map.mp member
  exact notMem_encodeClause reserved noEquals clause

theorem lineFeed_notMem_query (selector : Selector) : 0x0a ∉ query selector :=
  notMem_query ⟨by decide, by decide, by decide⟩ (by decide) (by decide) selector

theorem carriageReturn_notMem_query (selector : Selector) : 0x0d ∉ query selector :=
  notMem_query ⟨by decide, by decide, by decide⟩ (by decide) (by decide) selector

theorem decodePair_encodeClause (clause : Clause) :
    decodePair (encodeClause clause) = (clause.key, clause.value) := by
  have inKey : ∀ b ∈ encode clause.key, (b != 0x3d) = true := by
    intro b member
    rw [bne_iff_ne]
    rintro rfl
    exact notMem_encode ⟨by decide, by decide, by decide⟩ clause.key member
  have key : (encodeClause clause).takeWhile (· != 0x3d) = encode clause.key := by
    rw [encodeClause, List.takeWhile_append_of_pos inKey]
    exact List.append_nil _
  have value : ((encodeClause clause).dropWhile (· != 0x3d)).drop 1 = encode clause.value := by
    rw [encodeClause, List.dropWhile_append_of_pos inKey]
    rfl
  rw [decodePair, key, value, decode_encode, decode_encode]

theorem splitOn_query {selector : Selector} (nonempty : selector.clauses ≠ []) :
    (query selector).splitOn 0x26 = selector.clauses.map encodeClause := by
  apply List.splitOn_intercalate
  · intro piece member
    obtain ⟨clause, -, rfl⟩ := List.mem_map.mp member
    exact notMem_encodeClause ⟨by decide, by decide, by decide⟩ (by decide) clause
  · simpa using nonempty

/-- A form is read back as the clauses of its selector, in order. -/
theorem pairs_query (selector : Selector) :
    pairs (query selector) = selector.clauses.map fun clause => (clause.key, clause.value) := by
  by_cases empty : selector.clauses = []
  · rw [pairs, query, empty]
    rfl
  · have whole : ((selector.clauses.map encodeClause).filter fun piece => !piece.isEmpty) =
        selector.clauses.map encodeClause := by
      rw [List.filter_eq_self]
      intro piece member
      obtain ⟨clause, -, rfl⟩ := List.mem_map.mp member
      simp [encodeClause]
    rw [pairs, splitOn_query empty, whole, List.map_map]
    apply List.map_congr_left
    intro clause _
    exact decodePair_encodeClause clause

theorem eq_of_pair_eq {first second : Clause}
    (same : (first.key, first.value) = (second.key, second.value)) : first = second := by
  cases first
  cases second
  cases same
  rfl

theorem query_injective {first second : Selector} (same : query first = query second) :
    first = second := by
  have sameClauses := congrArg pairs same
  rw [pairs_query, pairs_query] at sameClauses
  cases first
  cases second
  rw [Selector.mk.injEq]
  exact (List.map_inj_right fun _ _ => eq_of_pair_eq).mp sameClauses

end Reclaim.Wire.Form

namespace Reclaim.Wire

/-! ## Forms on a stream -/

theorem Stream.Reliable.streamAfter {stream : Stream} (reliable : stream.Reliable)
    (selectors : List Selector) :
    (streamAfter stream selectors).written =
      stream.written ++ selectors.flatMap fun selector => Form.query selector ++ [0x0a] := by
  induction selectors generalizing stream with
  | nil => exact (List.append_nil _).symm
  | cons selector rest ih =>
    obtain ⟨still, line, -, -⟩ := reliable.register selector
    rw [streamAfter_cons, ih still, line, List.flatMap_cons, List.append_assoc]

theorem splitOn_lines (selectors : List Selector) :
    (selectors.flatMap fun selector => Form.query selector ++ [0x0a]).splitOn 0x0a =
      selectors.map Form.query ++ [[]] := by
  induction selectors with
  | nil => rfl
  | cons selector rest ih =>
    have unbroken := Form.lineFeed_notMem_query selector
    rw [List.flatMap_cons, List.append_assoc, List.singleton_append,
      List.splitOn_append_cons_self_of_not_mem unbroken, ih, List.map_cons, List.cons_append]

/-- What is written for several selectors on a reliable stream has no carriage return, and its
lines are read back as the clauses of the selectors, one line for each in order; two selectors
never have the same line. -/
theorem written_lines_decode (stream : Stream) (reliable : stream.Reliable)
    (fresh : stream.written = []) (selectors : List Selector) :
    let written := (streamAfter stream selectors).written
    0x0d ∉ written ∧
    written.splitOn 0x0a = selectors.map Form.query ++ [[]] ∧
    (written.splitOn 0x0a).dropLast.map Form.pairs =
      selectors.map (fun selector =>
        selector.clauses.map fun clause => (clause.key, clause.value)) ∧
    ∀ first second : Selector, Form.query first = Form.query second → first = second := by
  intro written
  have whole : written = selectors.flatMap fun selector => Form.query selector ++ [0x0a] := by
    have appended := reliable.streamAfter selectors
    rwa [fresh, List.nil_append] at appended
  have lines : written.splitOn 0x0a = selectors.map Form.query ++ [[]] := by
    rw [whole]
    exact splitOn_lines selectors
  refine ⟨?_, lines, ?_, fun first second => Form.query_injective⟩
  · rw [whole, List.mem_flatMap]
    rintro ⟨selector, -, member⟩
    rcases List.mem_append.mp member with inForm | ending
    · exact Form.carriageReturn_notMem_query selector inForm
    · exact absurd (List.mem_singleton.mp ending) (by decide)
  · rw [lines, List.dropLast_concat, List.map_map]
    apply List.map_congr_left
    intro selector _
    exact Form.pairs_query selector

def awkward : Selector :=
  ⟨[⟨"a b", "x=y&z", by decide⟩, ⟨labelKey, "é\r\n%2B+", labelKey_ne_empty⟩]⟩

/-- A stream on which the first write is short, the second is interrupted, and reads fail. -/
def grudging : Stream :=
  ⟨[.fault ⟨false, "reset"⟩], [.upTo 5, .fault ⟨true, "interrupted"⟩], [], []⟩

theorem reliable_grudging : grudging.Reliable := by
  constructor
  · intro acceptance member
    rcases List.mem_cons.mp member with rfl | member
    · exact Nat.succ_ne_zero 4
    · cases List.mem_singleton.mp member
      rfl
  · exact nofun

/-- The empty selector has an empty line of its own. -/
theorem written_lines_decode_awkward :
    grudging.Reliable ∧ grudging.written = [] ∧
      0x0d ∉ (streamAfter grudging [awkward, .empty]).written ∧
      ((streamAfter grudging [awkward, .empty]).written.splitOn 0x0a).dropLast.map Form.pairs =
        [[("a b", "x=y&z"), ("label", "é\r\n%2B+")], []] := by
  obtain ⟨noReturn, -, decoded, -⟩ :=
    written_lines_decode grudging reliable_grudging rfl [awkward, .empty]
  exact ⟨reliable_grudging, rfl, noReturn, decoded⟩

end Reclaim.Wire
