import Reclaim.Json.Value
import Reclaim.Proofs.Spelling

/-!
# Values that are passed over

The grammar of JSON values, and that whatever it describes is passed over as a
whole, at any depth (`skipValue_written`).
-/

set_option autoImplicit false

namespace Reclaim.Json

/-! ## Gaps -/

def blanks : List Char := [' ', '\t', '\n', '\r']

def Gap (text : List Char) : Prop := ∀ c ∈ text, c ∈ blanks

instance (text : List Char) : Decidable (Gap text) := List.decidableBAll _ text

theorem Gap.nil : Gap [] := nofun

theorem Gap.one : Gap [' '] := by decide

theorem isSpace_iff {c : Char} : isSpace c = true ↔ c ∈ blanks := by
  simp [isSpace, blanks, or_assoc]

theorem skipBlanks_gap {gap : List Char} (blank : Gap gap) (rest : List Char) :
    skipBlanks (gap ++ rest) = skipBlanks rest :=
  List.dropWhile_append_of_pos fun c member => isSpace_iff.mpr (blank c member)

theorem skipBlanks_cons {c : Char} (visible : isSpace c = false) (rest : List Char) :
    skipBlanks (c :: rest) = c :: rest :=
  List.dropWhile_cons_of_neg (by simp [visible])

/-- What can follow a value: a blank, a mark, or nothing. -/
def Delimited (rest : List Char) : Prop :=
  ∀ c, rest.head? = some c → c ∈ blanks ++ [',', ']', '\x7d']

theorem delimited_cons {c : Char} (listed : c ∈ blanks ++ [',', ']', '\x7d']) (rest : List Char) :
    Delimited (c :: rest) := by
  rintro other ⟨⟩
  exact listed

theorem Gap.delimited {gap rest : List Char} (blank : Gap gap) (delimited : Delimited rest) :
    Delimited (gap ++ rest) := by
  cases gap with
  | nil => exact delimited
  | cons c more => exact delimited_cons (List.mem_append_left _ (blank c (.head _))) _

/-! ## Numbers -/

def WritesDigits (text : List Char) : Prop := text ≠ [] ∧ ∀ c ∈ text, '0' ≤ c ∧ c ≤ '9'

instance (text : List Char) : Decidable (WritesDigits text) :=
  have := List.decidableBAll (fun c : Char => '0' ≤ c ∧ c ≤ '9') text
  inferInstanceAs (Decidable (_ ∧ _))

/-- A zero alone, or digits of which the first is none. -/
def WritesWhole (text : List Char) : Prop :=
  text = ['0'] ∨ WritesDigits text ∧ text.head? ≠ some '0'

inductive WritesFraction : List Char → Prop where
  | none : WritesFraction []
  | digits {text : List Char} (digits : WritesDigits text) : WritesFraction ('.' :: text)

inductive WritesExponent : List Char → Prop where
  | none : WritesExponent []
  | digits {mark : Char} {sign text : List Char} (marked : mark ∈ ['e', 'E'])
      (signed : sign ∈ [[], ['+'], ['-']]) (digits : WritesDigits text) :
      WritesExponent (mark :: sign ++ text)

inductive WritesUnsigned : List Char → Prop where
  | parts {whole fraction exponent : List Char} (first : WritesWhole whole)
      (second : WritesFraction fraction) (third : WritesExponent exponent) :
      WritesUnsigned (whole ++ fraction ++ exponent)

theorem isDigit_iff {c : Char} : isDigit c = true ↔ '0' ≤ c ∧ c ≤ '9' := by
  unfold isDigit digit?
  split <;> simp_all

theorem ne_of_isDigit {c other : Char} (digit : isDigit c = true)
    (noDigit : isDigit other = false) : c ≠ other := by
  rintro rfl
  rw [noDigit] at digit
  cases digit

def NoDigit (rest : List Char) : Prop := ∀ c, rest.head? = some c → isDigit c = false

theorem Delimited.noDigit {rest : List Char} (delimited : Delimited rest) : NoDigit rest := by
  have marks : (blanks ++ [',', ']', '\x7d']).all (!isDigit ·) = true := by decide
  intro c first
  simpa using List.all_eq_true.mp marks c (delimited c first)

theorem Delimited.head_ne {rest : List Char} (delimited : Delimited rest) {c : Char}
    (other : c ∉ blanks ++ [',', ']', '\x7d']) : rest.head? ≠ some c :=
  fun first => other (delimited c first)

theorem readDigits_written {text rest : List Char} (digits : WritesDigits text)
    (behind : NoDigit rest) (atEnd : Flaw) :
    ∃ values, readDigits atEnd (text ++ rest) = .ok (values, rest) := by
  obtain ⟨nonempty, all⟩ := digits
  have dropped : (text ++ rest).dropWhile isDigit = rest := by
    rw [List.dropWhile_append_of_pos fun c member => isDigit_iff.mpr (all c member)]
    cases rest with
    | nil => rfl
    | cons c more => exact List.dropWhile_cons_of_neg (by simp [behind c rfl])
  cases text with
  | nil => exact absurd rfl nonempty
  | cons c more =>
    have digit : isDigit c = true := isDigit_iff.mpr (all c (.head _))
    rw [List.cons_append] at dropped ⊢
    rw [readDigits, if_pos digit, dropped]
    exact ⟨_, rfl⟩

theorem readWhole_written {text rest : List Char} (written : WritesWhole text)
    (behind : NoDigit rest) (atEnd : Flaw) :
    ∃ values, readWhole atEnd (text ++ rest) = .ok (values, rest) := by
  rcases written with rfl | ⟨digits, noZero⟩
  · have ends : ¬ rest.head?.any isDigit = true := by
      cases first : rest.head? with
      | none => exact Bool.false_ne_true
      | some c => simp [behind c first]
    exact ⟨[0], if_neg ends⟩
  · have same : readWhole atEnd (text ++ rest) = readDigits atEnd (text ++ rest) := by
      cases text with
      | nil => exact absurd rfl digits.1
      | cons c more =>
        have other : c ≠ '0' := fun zero => noZero (congrArg some zero)
        unfold readWhole
        split
        · simp_all
        · rfl
    rw [same]
    exact readDigits_written digits behind atEnd

theorem readFraction_written {text rest : List Char} (written : WritesFraction text)
    (behind : NoDigit rest) (noPoint : rest.head? ≠ some '.') (atEnd : Flaw) :
    ∃ values, readFraction atEnd (text ++ rest) = .ok (values, rest) := by
  cases written with
  | none =>
    refine ⟨none, ?_⟩
    rw [List.nil_append]
    unfold readFraction
    split
    · exact absurd rfl noPoint
    · rfl
  | digits digits =>
    obtain ⟨values, read⟩ := readDigits_written digits behind atEnd
    exact ⟨some values, by rw [List.cons_append, readFraction, read]; rfl⟩

theorem readSign_written {sign text : List Char} (signed : sign ∈ [[], ['+'], ['-']])
    (digits : WritesDigits text) (rest : List Char) :
    ∃ negative, readSign (sign ++ text ++ rest) = (negative, text ++ rest) := by
  obtain ⟨nonempty, all⟩ := digits
  cases text with
  | nil => exact absurd rfl nonempty
  | cons c more =>
    have digit : isDigit c = true := isDigit_iff.mpr (all c (.head _))
    have noPlus : c ≠ '+' := ne_of_isDigit digit (by decide)
    have noMinus : c ≠ '-' := ne_of_isDigit digit (by decide)
    simp only [List.mem_cons, List.not_mem_nil, or_false] at signed
    rcases signed with rfl | rfl | rfl
    · exact ⟨false, by simp [readSign, noPlus, noMinus]⟩
    · exact ⟨false, rfl⟩
    · exact ⟨true, rfl⟩

theorem readExponent_written {text rest : List Char} (written : WritesExponent text)
    (delimited : Delimited rest) (atEnd : Flaw) :
    ∃ values, readExponent atEnd (text ++ rest) = .ok (values, rest) := by
  cases written with
  | none =>
    refine ⟨none, ?_⟩
    cases rest with
    | nil => rfl
    | cons c more =>
      have noMark : ¬ (c = 'e' ∨ c = 'E') := by
        rintro (rfl | rfl)
        · exact delimited.head_ne (by decide) rfl
        · exact delimited.head_ne (by decide) rfl
      exact if_neg noMark
  | @digits mark sign digits marked signed written =>
    obtain ⟨negative, read⟩ := readSign_written signed written rest
    obtain ⟨values, digits⟩ := readDigits_written written delimited.noDigit atEnd
    refine ⟨some (negative, values), ?_⟩
    have isMark : mark = 'e' ∨ mark = 'E' := by simpa using marked
    rw [List.cons_append, List.cons_append, readExponent, if_pos isMark, read]
    simp only [digits]
    rfl

theorem WritesExponent.noDigit {exponent rest : List Char} (written : WritesExponent exponent)
    (delimited : Delimited rest) :
    NoDigit (exponent ++ rest) ∧ (exponent ++ rest).head? ≠ some '.' := by
  cases written with
  | none => exact ⟨delimited.noDigit, delimited.head_ne (by decide)⟩
  | digits marked signed written =>
    simp only [List.mem_cons, List.not_mem_nil, or_false] at marked
    rcases marked with rfl | rfl
    · exact ⟨by rintro c ⟨⟩; decide, by simp⟩
    · exact ⟨by rintro c ⟨⟩; decide, by simp⟩

theorem WritesFraction.noDigit {fraction rest : List Char} (written : WritesFraction fraction)
    (behind : NoDigit rest) : NoDigit (fraction ++ rest) := by
  cases written with
  | none => exact behind
  | digits written =>
    rintro c ⟨⟩
    decide

theorem skipNumeral_written {text rest : List Char} (written : WritesUnsigned text)
    (delimited : Delimited rest) : skipNumeral (text ++ rest) = .ok rest := by
  obtain ⟨first, second, third⟩ := written
  rename_i whole fraction exponent
  obtain ⟨behind, noPoint⟩ := third.noDigit delimited
  obtain ⟨digits, readFirst⟩ := readWhole_written first (second.noDigit behind) .noNumber
  obtain ⟨decimals, readSecond⟩ := readFraction_written second behind noPoint .noNumber
  obtain ⟨power, readThird⟩ := readExponent_written third delimited .noNumber
  rw [List.append_assoc, List.append_assoc, skipNumeral, readNumeral, readFirst]
  simp only [bind, Except.bind, readSecond, readThird]
  rfl

/-! ## Values -/

inductive Scalar : List Char → Prop where
  | word {word : String} (listed : word ∈ ["null", "true", "false"]) : Scalar word.toList
  | unsigned {text : List Char} (number : WritesUnsigned text) : Scalar text
  | negative {text : List Char} (number : WritesUnsigned text) : Scalar ('-' :: text)
  | text {text : List Char} (wellFormed : WellFormed text) : Scalar ('"' :: text ++ ['"'])

def Bracket.opening : Bracket → Char
  | .list => '['
  | .object => '\x7b'

def Bracket.closing : Bracket → Char
  | .list => ']'
  | .object => '\x7d'

/-- A part of a JSON text: a value, one item between brackets, or the items up to the end. -/
inductive Part where
  | value
  | item (around : Bracket)
  | items (around : Bracket)

/-- How the parts of a JSON text are written. -/
inductive Written : Part → List Char → Prop where
  | scalar {text : List Char} (scalar : Scalar text) : Written .value text
  | hollow {around : Bracket} {gap : List Char} (blank : Gap gap) :
      Written .value (around.opening :: gap ++ [around.closing])
  | around {around : Bracket} {inner : List Char} (items : Written (.items around) inner) :
      Written .value (around.opening :: inner ++ [around.closing])
  | element {before value after : List Char} (blankBefore : Gap before)
      (written : Written .value value) (blankAfter : Gap after) :
      Written (.item .list) (before ++ value ++ after)
  | member {before key gap between value after : List Char} (blankBefore : Gap before)
      (wellFormed : WellFormed key) (blank : Gap gap) (blankBetween : Gap between)
      (written : Written .value value) (blankAfter : Gap after) :
      Written (.item .object)
        (before ++ '"' :: key ++ '"' :: gap ++ ':' :: between ++ value ++ after)
  | last {around : Bracket} {item : List Char} (written : Written (.item around) item) :
      Written (.items around) item
  | next {around : Bracket} {item rest : List Char} (written : Written (.item around) item)
      (others : Written (.items around) rest) : Written (.items around) (item ++ ',' :: rest)

/-! ### Scalars -/

def Begins (c : Char) : Prop :=
  isSpace c = false ∧ c ≠ '[' ∧ c ≠ ']' ∧ c ≠ '\x7b' ∧ c ≠ '\x7d'

instance (c : Char) : Decidable (Begins c) := inferInstanceAs (Decidable (_ ∧ _))

theorem skipWord_append (word rest : List Char) : skipWord word (word ++ rest) = .ok rest := by
  induction word with
  | nil => rfl
  | cons c more ih => simpa [skipWord] using ih

theorem WritesUnsigned.begins {text : List Char} (written : WritesUnsigned text) :
    ∃ c more, text = c :: more ∧ isDigit c = true := by
  obtain ⟨first, -, -⟩ := written
  rcases first with rfl | ⟨⟨nonempty, all⟩, -⟩
  · exact ⟨'0', _, rfl, by decide⟩
  · rename_i whole fraction exponent
    cases whole with
    | nil => exact absurd rfl nonempty
    | cons c more => exact ⟨c, _, rfl, isDigit_iff.mpr (all c (.head _))⟩

theorem begins_of_isDigit {c : Char} (digit : isDigit c = true) : Begins c := by
  have visible : isSpace c = false := by
    refine Bool.eq_false_iff.mpr fun space => ?_
    have noDigits : blanks.all (!isDigit ·) = true := by decide
    have other := List.all_eq_true.mp noDigits c (isSpace_iff.mp space)
    simp [digit] at other
  exact ⟨visible, ne_of_isDigit digit (by decide), ne_of_isDigit digit (by decide),
    ne_of_isDigit digit (by decide), ne_of_isDigit digit (by decide)⟩

/-- A scalar is passed over up to the blank or mark behind it. -/
theorem skipScalar_of_scalar {text : List Char} (scalar : Scalar text) :
    ∃ c more, text = c :: more ∧ Begins c ∧
      ∀ rest, Delimited rest → skipScalar (text ++ rest) = .ok rest := by
  cases scalar with
  | @word word listed =>
    simp only [List.mem_cons, List.not_mem_nil, or_false] at listed
    rcases listed with rfl | rfl | rfl
    · exact ⟨'n', _, rfl, by decide, fun rest _ => skipWord_append ['u', 'l', 'l'] rest⟩
    · exact ⟨'t', _, rfl, by decide, fun rest _ => skipWord_append ['r', 'u', 'e'] rest⟩
    · exact ⟨'f', _, rfl, by decide, fun rest _ => skipWord_append ['a', 'l', 's', 'e'] rest⟩
  | unsigned number =>
    obtain ⟨c, more, rfl, digit⟩ := number.begins
    refine ⟨c, more, rfl, begins_of_isDigit digit, fun rest delimited => ?_⟩
    have skipped := skipNumeral_written number delimited
    have noQuote : c ≠ '"' := ne_of_isDigit digit (by decide)
    have noNull : c ≠ 'n' := ne_of_isDigit digit (by decide)
    have noTrue : c ≠ 't' := ne_of_isDigit digit (by decide)
    have noFalse : c ≠ 'f' := ne_of_isDigit digit (by decide)
    have noMinus : c ≠ '-' := ne_of_isDigit digit (by decide)
    rw [List.cons_append] at skipped ⊢
    rw [skipScalar, if_neg noQuote, if_neg noNull, if_neg noTrue, if_neg noFalse, if_neg noMinus,
      if_pos digit, skipped]
  | negative number =>
    refine ⟨'-', _, rfl, by decide, fun rest delimited => ?_⟩
    exact skipNumeral_written number delimited
  | text wellFormed =>
    refine ⟨'"', _, rfl, by decide, fun rest _ => ?_⟩
    have skipped := skipText_wellFormed wellFormed rest
    simpa [skipScalar] using skipped

/-! ### Steps -/

section Steps

variable {awaiting : Awaiting} {opened : List Bracket} {c : Char}

/-- What a character leads to that is no blank and closes no bracket. -/
def takeFrom (opened : List Bracket) (c : Char) (rest : List Char) :
    Awaiting → Except Stop (List Char)
  | .value | .valueOrEnd =>
    if c = '[' then skipFrom .valueOrEnd (.list :: opened) rest
    else if c = '\x7b' then skipFrom .keyOrEnd (.object :: opened) rest
    else (skipScalar (c :: rest)).bind (skipFrom .separator opened)
  | .key | .keyOrEnd =>
    if c = '"' then (skipText rest).bind (skipFrom .colon opened)
    else .error (Flaw.noKey.upon (c :: rest))
  | .colon =>
    if c = ':' then skipFrom .value opened rest else .error (Flaw.noColon.upon (c :: rest))
  | .separator =>
    if c = ',' then skipFrom (if inList opened then .value else .key) opened rest
    else .error ((if inList opened then Flaw.noElementEnd else .noMemberEnd).upon (c :: rest))

theorem skipFrom_cons (inside : awaiting ≠ .separator ∨ opened ≠ []) (rest : List Char) :
    skipFrom awaiting opened (c :: rest) =
      if isSpace c then skipFrom awaiting opened rest
      else if closes awaiting opened c then skipFrom .separator opened.tail rest
      else takeFrom opened c rest awaiting := by
  cases awaiting with
  | value | valueOrEnd =>
    rw [skipFrom, takeFrom]
    cases skipScalar (c :: rest) <;> rfl
  | key | keyOrEnd =>
    rw [skipFrom, takeFrom]
    cases skipText rest <;> rfl
  | colon => rw [skipFrom, takeFrom]
  | separator =>
    cases opened with
    | nil => simp at inside
    | cons around others =>
      rw [skipFrom, takeFrom]
      exact fun _ => List.cons_ne_nil _ _

theorem skipFrom_space (space : isSpace c = true) (inside : awaiting ≠ .separator ∨ opened ≠ [])
    (rest : List Char) : skipFrom awaiting opened (c :: rest) = skipFrom awaiting opened rest := by
  rw [skipFrom_cons inside, if_pos space]

theorem skipFrom_gap {gap : List Char} (blank : Gap gap)
    (inside : awaiting ≠ .separator ∨ opened ≠ []) (rest : List Char) :
    skipFrom awaiting opened (gap ++ rest) = skipFrom awaiting opened rest := by
  induction gap with
  | nil => rfl
  | cons c more ih =>
    obtain ⟨space, later⟩ := List.forall_mem_cons.mp blank
    rw [List.cons_append, skipFrom_space (isSpace_iff.mpr space) inside, ih later]

def Bracket.first : Bracket → Awaiting
  | .list => .valueOrEnd
  | .object => .keyOrEnd

def Bracket.next : Bracket → Awaiting
  | .list => .value
  | .object => .key

def Bracket.Awaits (around : Bracket) (awaiting : Awaiting) : Prop :=
  awaiting = around.first ∨ awaiting = around.next

theorem Bracket.Awaits.inside {around : Bracket} (awaits : around.Awaits awaiting) :
    awaiting ≠ .separator := by
  rcases awaits with rfl | rfl <;> cases around <;> decide

theorem closes_eq_false (noListEnd : c ≠ ']') (noObjectEnd : c ≠ '\x7d') :
    closes awaiting opened c = false := by
  rw [closes]
  split <;> simp [noListEnd, noObjectEnd]

theorem skipFrom_scalar (awaits : Bracket.list.Awaits awaiting) (begins : Begins c)
    {more rest : List Char} (skipped : skipScalar (c :: more) = .ok rest) :
    skipFrom awaiting opened (c :: more) = skipFrom .separator opened rest := by
  obtain ⟨visible, noList, noListEnd, noObject, noObjectEnd⟩ := begins
  have unclosed : closes awaiting opened c = false := closes_eq_false noListEnd noObjectEnd
  rw [skipFrom_cons (.inl awaits.inside) more, visible, unclosed]
  rcases awaits with rfl | rfl
  · simp [Bracket.first, takeFrom, noList, noObject, skipped, Except.bind]
  · simp [Bracket.next, takeFrom, noList, noObject, skipped, Except.bind]

theorem skipFrom_opening (awaits : Bracket.list.Awaits awaiting) (around : Bracket)
    (rest : List Char) :
    skipFrom awaiting opened (around.opening :: rest) =
      skipFrom around.first (around :: opened) rest := by
  have unclosed : closes awaiting opened around.opening = false := by
    cases around <;> exact closes_eq_false (by decide) (by decide)
  rw [skipFrom_cons (.inl awaits.inside) rest, unclosed]
  rcases awaits with rfl | rfl <;> cases around <;>
    simp [Bracket.first, Bracket.next, Bracket.opening, takeFrom, isSpace]

theorem skipFrom_closing (around : Bracket)
    (ends : awaiting = around.first ∨ awaiting = .separator) (rest : List Char) :
    skipFrom awaiting (around :: opened) (around.closing :: rest) =
      skipFrom .separator opened rest := by
  rw [skipFrom_cons (.inr (List.cons_ne_nil _ _)) rest]
  rcases ends with rfl | rfl <;> cases around <;>
    simp [Bracket.first, Bracket.closing, closes, inList, isSpace]

theorem skipFrom_comma (around : Bracket) (rest : List Char) :
    skipFrom .separator (around :: opened) (',' :: rest) =
      skipFrom around.next (around :: opened) rest := by
  rw [skipFrom_cons (.inr (List.cons_ne_nil _ _)) rest]
  cases around <;> simp [closes, inList, isSpace, takeFrom, Bracket.next]

theorem skipFrom_key (awaits : Bracket.object.Awaits awaiting) {key : List Char}
    (wellFormed : WellFormed key) (rest : List Char) :
    skipFrom awaiting opened ('"' :: key ++ '"' :: rest) = skipFrom .colon opened rest := by
  have skipped := skipText_wellFormed wellFormed rest
  have unclosed : closes awaiting opened '"' = false := closes_eq_false (by decide) (by decide)
  rw [List.cons_append, skipFrom_cons (.inl awaits.inside) _, unclosed]
  rcases awaits with rfl | rfl
  · simp [Bracket.first, takeFrom, isSpace, skipped, Except.bind]
  · simp [Bracket.next, takeFrom, isSpace, skipped, Except.bind]

theorem skipFrom_colon (rest : List Char) :
    skipFrom .colon opened (':' :: rest) = skipFrom .value opened rest := by
  rw [skipFrom_cons (.inl (by decide)) rest]
  simp [closes, isSpace, takeFrom]

end Steps

/-! ### All values -/

/-- What passing over a part of a text amounts to. -/
def Passed : Part → List Char → Prop
  | .value, text => ∀ awaiting opened rest, Bracket.list.Awaits awaiting → Delimited rest →
      skipFrom awaiting opened (text ++ rest) = skipFrom .separator opened rest
  | .item around, text => ∀ awaiting opened rest, around.Awaits awaiting → Delimited rest →
      skipFrom awaiting (around :: opened) (text ++ rest) =
        skipFrom .separator (around :: opened) rest
  | .items around, text => ∀ awaiting opened rest, around.Awaits awaiting →
      skipFrom awaiting (around :: opened) (text ++ around.closing :: rest) =
        skipFrom .separator opened rest

theorem passed_of_written {part : Part} {text : List Char} (written : Written part text) :
    Passed part text := by
  induction written with
  | scalar scalar =>
    intro awaiting opened rest awaits delimited
    obtain ⟨c, more, rfl, begins, skipped⟩ := skipScalar_of_scalar scalar
    exact skipFrom_scalar awaits begins (skipped rest delimited)
  | @hollow around gap blank =>
    intro awaiting opened rest awaits delimited
    rw [List.cons_append, List.cons_append, List.append_assoc, List.singleton_append,
      skipFrom_opening awaits, skipFrom_gap blank (.inr (List.cons_ne_nil _ _)),
      skipFrom_closing around (.inl rfl)]
  | @around around inner items ih =>
    intro awaiting opened rest awaits delimited
    rw [List.cons_append, List.cons_append, List.append_assoc, List.singleton_append,
      skipFrom_opening awaits, ih around.first opened rest (.inl rfl)]
  | @element before value after blankBefore written blankAfter ih =>
    intro awaiting opened rest awaits delimited
    rw [List.append_assoc, List.append_assoc, skipFrom_gap blankBefore (.inl awaits.inside),
      ih awaiting _ _ awaits (blankAfter.delimited delimited),
      skipFrom_gap blankAfter (.inr (List.cons_ne_nil _ _))]
  | @member before key gap between value after blankBefore wellFormed blank blankBetween written
      blankAfter ih =>
    intro awaiting opened rest awaits delimited
    have shape : before ++ '"' :: key ++ '"' :: gap ++ ':' :: between ++ value ++ after ++ rest =
        before ++
          ('"' :: key ++ '"' :: (gap ++ ':' :: (between ++ (value ++ (after ++ rest))))) := by
      simp
    rw [shape, skipFrom_gap blankBefore (.inl awaits.inside), skipFrom_key awaits wellFormed,
      skipFrom_gap blank (.inl (by decide)), skipFrom_colon,
      skipFrom_gap blankBetween (.inl (by decide)),
      ih .value _ _ (.inr rfl) (blankAfter.delimited delimited),
      skipFrom_gap blankAfter (.inr (List.cons_ne_nil _ _))]
  | @last around item written ih =>
    intro awaiting opened rest awaits
    have delimited : Delimited (around.closing :: rest) :=
      delimited_cons (by cases around <;> decide) rest
    rw [ih awaiting opened _ awaits delimited, skipFrom_closing around (.inr rfl)]
  | @next around item more written others itemPassed morePassed =>
    intro awaiting opened rest awaits
    have delimited : Delimited (',' :: (more ++ around.closing :: rest)) :=
      delimited_cons (by decide) _
    rw [List.append_assoc, List.cons_append, itemPassed awaiting opened _ awaits delimited,
      skipFrom_comma, morePassed around.next opened rest (.inr rfl)]

/-- A value is passed over as a whole, with the blanks before it. -/
theorem skipValue_written {gap text rest : List Char} (blank : Gap gap)
    (written : Written .value text) (delimited : Delimited rest) :
    skipValue (gap ++ (text ++ rest)) = .ok rest := by
  rw [skipValue, skipFrom_gap blank (.inl (by decide)),
    passed_of_written written .value [] rest (.inr rfl) delimited, skipFrom]

end Reclaim.Json
