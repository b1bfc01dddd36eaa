/-!
# What can be wrong with a JSON text

The faults that a reader of records tells apart, their wording, and the place
where a fault shows.  A text that is no JSON has one of a number of flaws; a
text that is JSON can still be no record.  A reader that stops knows how much of
the text is left behind the fault, and the place follows from that.
-/

set_option autoImplicit false

namespace Reclaim.Json

/-! ## Faults -/

inductive Flaw where
  | endInValue
  | endInText
  | endInList
  | endInObject
  | noValue
  | noWord
  | noNumber
  | numberTooLarge
  | controlInText
  | noEscape
  | brokenPair
  /-- Half of a surrogate pair stands where a whole one, or none, should. -/
  | loneHalf
  | noKey
  | noColon
  | noElementEnd
  | noMemberEnd
  | trailingComma
  | trailingText
  deriving DecidableEq, Repr

def Flaw.message : Flaw → String
  | .endInValue => "EOF while parsing a value"
  | .endInText => "EOF while parsing a string"
  | .endInList => "EOF while parsing a list"
  | .endInObject => "EOF while parsing an object"
  | .noValue => "expected value"
  | .noWord => "expected ident"
  | .noNumber => "invalid number"
  | .numberTooLarge => "number out of range"
  | .controlInText => "control character (\\u0000-\\u001F) found while parsing a string"
  | .noEscape => "invalid escape"
  | .brokenPair => "unexpected end of hex escape"
  | .loneHalf => "lone leading surrogate in hex escape"
  | .noKey => "key must be a string"
  | .noColon => "expected `:`"
  | .noElementEnd => "expected `,` or `]`"
  | .noMemberEnd => "expected `,` or `\x7d`"
  | .trailingComma => "trailing comma"
  | .trailingText => "trailing characters"

inductive Fault where
  | malformed (flaw : Flaw)
  | wrongType (found : String) (expected : String)
  | missingField (name : String)
  | duplicateField (name : String)
  | tooShort (count : Nat) (expected : String)
  | unknownVariant (found : String) (expected : List String)
  deriving DecidableEq, Repr

def alternatives : List String → String
  | [] => "there are no variants"
  | [only] => "expected `" ++ only ++ "`"
  | [first, second] => "expected `" ++ first ++ "` or `" ++ second ++ "`"
  | names => "expected one of " ++
      String.intercalate ", " (names.map fun name => "`" ++ name ++ "`")

def Fault.message : Fault → String
  | .malformed flaw => flaw.message
  | .wrongType found expected => "invalid type: " ++ found ++ ", expected " ++ expected
  | .missingField name => "missing field `" ++ name ++ "`"
  | .duplicateField name => "duplicate field `" ++ name ++ "`"
  | .tooShort count expected => "invalid length " ++ toString count ++ ", expected " ++ expected
  | .unknownVariant found expected => "unknown variant `" ++ found ++ "`, " ++ alternatives expected

/-! ## Places -/

def byteCount (text : List Char) : Nat := text.foldl (fun count c => count + c.utf8Size) 0

/-- A fault, and how many bytes of the text are left behind the place where it shows. -/
structure Stop where
  fault : Fault
  left : Nat
  deriving DecidableEq, Repr

def Fault.before (fault : Fault) (rest : List Char) : Stop := ⟨fault, byteCount rest⟩

def Flaw.before (flaw : Flaw) (rest : List Char) : Stop := Fault.before (.malformed flaw) rest

/-- The stop of a reader to which the first byte of the rest is the flaw, or the end of the text if
there is none: the flaw shows behind that byte. -/
def Flaw.upon (flaw : Flaw) (rest : List Char) : Stop := ⟨.malformed flaw, byteCount rest - 1⟩

abbrev Reading (α : Type) := Except Stop (α × List Char)

theorem ok_of_map {α β : Type} {reading : Except Stop α} {f : α → β} {b : β}
    (found : reading.map f = .ok b) : ∃ a, reading = .ok a ∧ f a = b := by
  cases reading with
  | error stop => simp [Except.map] at found
  | ok a => exact ⟨a, rfl, by simpa [Except.map] using found⟩

theorem ok_of_bind {α β : Type} {reading : Except Stop α} {next : α → Except Stop β} {b : β}
    (found : reading.bind next = .ok b) : ∃ a, reading = .ok a ∧ next a = .ok b := by
  cases reading with
  | error stop => simp [Except.bind] at found
  | ok a => exact ⟨a, rfl, by simpa [Except.bind] using found⟩

structure Place where
  line : Nat
  column : Nat
  deriving DecidableEq, Repr

/-- The place in a text behind which some number of bytes is left. -/
def placeBefore (left : Nat) (text : List Char) : Place :=
  let bytes := text.flatMap String.utf8EncodeChar
  let read := (bytes.take (bytes.length - left)).reverse
  ⟨read.count 0x0a + 1, (read.takeWhile fun b => b != 0x0a).length⟩

structure Refusal where
  fault : Fault
  place : Place
  deriving DecidableEq, Repr

def Stop.refusal (text : List Char) (stop : Stop) : Refusal :=
  ⟨stop.fault, placeBefore stop.left text⟩

def Refusal.ofWhole (fault : Fault) (text : List Char) : Refusal := ⟨fault, placeBefore 0 text⟩

def Refusal.message (refusal : Refusal) : String :=
  refusal.fault.message ++ " at line " ++ toString refusal.place.line ++ " column " ++
    toString refusal.place.column

end Reclaim.Json
