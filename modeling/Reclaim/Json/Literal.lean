import Reclaim.Json.Fault
import Reclaim.Text.Digits

/-!
# JSON words and texts

The pieces of a JSON text that are read letter by letter: blanks, the words
`true`, `false` and `null`, and texts with their escapes.  A text that is passed
over has to be well formed, too, but may name half of a surrogate pair.  Main
statements: whatever is read or passed over leaves no more than there was, and a
text, which has a closing quotation mark, leaves less.
-/

set_option autoImplicit false

namespace Reclaim.Json

/-! ## Blanks and words -/

def isSpace (c : Char) : Bool := c = ' ' || c = '\t' || c = '\n' || c = '\r'

def skipBlanks (text : List Char) : List Char := text.dropWhile isSpace

def skipWord : (letters : List Char) → List Char → Except Stop (List Char)
  | [], rest => .ok rest
  | _ :: _, [] => .error (Flaw.endInValue.upon [])
  | letter :: letters, c :: rest =>
    if c = letter then skipWord letters rest else .error (Flaw.noWord.upon (c :: rest))

/-! ## Escapes -/

def escape? (c : Char) : Option Char :=
  if c = '"' then some '"'
  else if c = '\\' then some '\\'
  else if c = '/' then some '/'
  else if c = 'b' then some '\x08'
  else if c = 'f' then some '\x0c'
  else if c = 'n' then some '\n'
  else if c = 'r' then some '\r'
  else if c = 't' then some '\t'
  else none

def isControl (c : Char) : Bool := c.toNat < 0x20

/-- The stop at a character that is none of the `missing` hexadecimal digits that should begin the
rest: they are taken as bytes, whatever they are, and complained about as a whole. -/
def stopInUnit (missing : Nat) (rest : List Char) : Stop :=
  if byteCount rest < missing then Flaw.endInText.upon []
  else ⟨.malformed .noEscape, byteCount rest - missing⟩

/-! ## Texts -/

inductive TextStage where
  | plain
  | escape
  /-- Before the last `missing` of the four digits that name a code unit, perhaps the second one of
  a surrogate pair. -/
  | unit (high : Option Nat) (value : Nat) (missing : Nat)
  | half (high : Nat)
  | halfEscape (high : Nat)
  deriving DecidableEq, Repr

/-- What a code unit makes of a text that has been read up to it, in reverse: half of a surrogate
pair waits for the other half, and may not stand alone. -/
def afterUnit (high : Option Nat) (value : Nat) (read : List Char) :
    Option (TextStage × List Char) :=
  let isLow := 0xdc00 ≤ value ∧ value ≤ 0xdfff
  match high with
  | some high =>
    if isLow then
      some (.plain, Char.ofNat (0x10000 + (high - 0xd800) * 0x400 + (value - 0xdc00)) :: read)
    else none
  | none =>
    if isLow then none
    else if 0xd800 ≤ value ∧ value ≤ 0xdbff then some (.half value, read)
    else some (.plain, Char.ofNat value :: read)

/-- Reads the rest of a text whose characters so far are given in reverse. -/
def readTextFrom : TextStage → (read : List Char) → List Char → Reading (List Char)
  | _, _, [] => .error (Flaw.endInText.upon [])
  | .plain, read, c :: rest =>
    if c = '"' then .ok (read.reverse, rest)
    else if c = '\\' then readTextFrom .escape read rest
    else if isControl c then .error (Flaw.controlInText.upon (c :: rest))
    else readTextFrom .plain (c :: read) rest
  | .escape, read, c :: rest =>
    if c = 'u' then readTextFrom (.unit none 0 4) read rest
    else
      match escape? c with
      | some named => readTextFrom .plain (named :: read) rest
      | none => .error (Flaw.noEscape.upon (c :: rest))
  | .unit high value missing, read, c :: rest =>
    match Text.hexDigit? c with
    | none => .error (stopInUnit missing (c :: rest))
    | some digit =>
      if 1 < missing then readTextFrom (.unit high (value * 16 + digit) (missing - 1)) read rest
      else
        match afterUnit high (value * 16 + digit) read with
        | some (stage, read) => readTextFrom stage read rest
        | none => .error (Flaw.loneHalf.before rest)
  | .half high, read, c :: rest =>
    if c = '\\' then readTextFrom (.halfEscape high) read rest
    else .error (Flaw.brokenPair.upon (c :: rest))
  | .halfEscape high, read, c :: rest =>
    if c = 'u' then readTextFrom (.unit (some high) 0 4) read rest
    else .error (Flaw.brokenPair.upon (c :: rest))

def readText (text : List Char) : Reading (List Char) := readTextFrom .plain [] text

inductive SkipStage where
  | plain
  | escape
  | unit (missing : Nat)
  deriving DecidableEq, Repr

def skipTextFrom : SkipStage → List Char → Except Stop (List Char)
  | _, [] => .error (Flaw.endInText.upon [])
  | .plain, c :: rest =>
    if c = '"' then .ok rest
    else if c = '\\' then skipTextFrom .escape rest
    else if isControl c then .error (Flaw.controlInText.before (c :: rest))
    else skipTextFrom .plain rest
  | .escape, c :: rest =>
    if c = 'u' then skipTextFrom (.unit 4) rest
    else if (escape? c).isSome then skipTextFrom .plain rest
    else .error (Flaw.noEscape.upon (c :: rest))
  | .unit missing, c :: rest =>
    if (Text.hexDigit? c).isNone then .error (stopInUnit missing (c :: rest))
    else skipTextFrom (if 1 < missing then .unit (missing - 1) else .plain) rest

def skipText (text : List Char) : Except Stop (List Char) := skipTextFrom .plain text

/-! ## What is left -/

theorem length_skipBlanks_le (text : List Char) : (skipBlanks text).length ≤ text.length :=
  (List.dropWhile_suffix _).length_le

theorem length_le_of_skipWord {letters text rest : List Char}
    (skipped : skipWord letters text = .ok rest) : rest.length ≤ text.length := by
  fun_induction skipWord letters text <;> grind

theorem length_lt_of_readTextFrom {stage : TextStage} {read text content rest : List Char}
    (found : readTextFrom stage read text = .ok (content, rest)) : rest.length < text.length := by
  fun_induction readTextFrom stage read text <;> grind

theorem length_lt_of_readText {text content rest : List Char}
    (found : readText text = .ok (content, rest)) : rest.length < text.length :=
  length_lt_of_readTextFrom found

theorem length_lt_of_skipTextFrom {stage : SkipStage} {text rest : List Char}
    (skipped : skipTextFrom stage text = .ok rest) : rest.length < text.length := by
  fun_induction skipTextFrom stage text <;> grind

theorem length_lt_of_skipText {text rest : List Char} (skipped : skipText text = .ok rest) :
    rest.length < text.length :=
  length_lt_of_skipTextFrom skipped

end Reclaim.Json
