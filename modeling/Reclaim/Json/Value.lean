import Reclaim.Json.Literal
import Reclaim.Json.Numeral
import Reclaim.Text.Printable

/-!
# JSON values of no account

Values that nobody asked for: those that are passed over, of any depth, and
those that stand where another kind of value was expected, of which no more is
read than it takes to say what they are.  Main statement: a value that has been
passed over leaves less text than there was.
-/

set_option autoImplicit false

namespace Reclaim.Json

/-! ## Values that are passed over -/

def skipScalar (text : List Char) : Except Stop (List Char) :=
  match text with
  | [] => .error (Flaw.endInValue.upon [])
  | c :: rest =>
    if c = '"' then skipText rest
    else if c = 'n' then skipWord ['u', 'l', 'l'] rest
    else if c = 't' then skipWord ['r', 'u', 'e'] rest
    else if c = 'f' then skipWord ['a', 'l', 's', 'e'] rest
    else if c = '-' then skipNumeral rest
    else if isDigit c then skipNumeral (c :: rest)
    else .error (Flaw.noValue.upon (c :: rest))

theorem length_lt_of_skipScalar {text rest : List Char} (skipped : skipScalar text = .ok rest) :
    rest.length < text.length := by
  cases text with
  | nil => simp [skipScalar] at skipped
  | cons c behind =>
    grind [skipScalar, → length_lt_of_skipText, → length_le_of_skipWord,
      → length_lt_of_skipNumeral]

/-- What must come next while a value is passed over. -/
inductive Awaiting where
  | value
  | valueOrEnd
  | key
  | keyOrEnd
  | colon
  /-- A comma or the end of the list or object around; nothing if there is none. -/
  | separator
  deriving DecidableEq, Repr

inductive Bracket where
  | list
  | object
  deriving DecidableEq, Repr

def inList (opened : List Bracket) : Bool := opened.head? = some .list

def closes (awaiting : Awaiting) (opened : List Bracket) (c : Char) : Bool :=
  (awaiting = .valueOrEnd || awaiting = .keyOrEnd || awaiting = .separator) &&
    c = if inList opened then ']' else '\x7d'

def Awaiting.atEnd (opened : List Bracket) : Awaiting → Flaw
  | .value => .endInValue
  | .valueOrEnd => .endInList
  | .key | .keyOrEnd | .colon => .endInObject
  | .separator => if inList opened then .endInList else .endInObject

/-- Passes over the rest of a value inside of open brackets, the innermost first. -/
def skipFrom : Awaiting → (opened : List Bracket) → List Char → Except Stop (List Char)
  | .separator, [], text => .ok text
  | awaiting, opened, [] => .error ((awaiting.atEnd opened).upon [])
  | awaiting, opened, c :: rest =>
    if isSpace c then skipFrom awaiting opened rest
    else if closes awaiting opened c then skipFrom .separator opened.tail rest
    else
      match awaiting with
      | .value | .valueOrEnd =>
        if c = '[' then skipFrom .valueOrEnd (.list :: opened) rest
        else if c = '\x7b' then skipFrom .keyOrEnd (.object :: opened) rest
        else
          match _scalar : skipScalar (c :: rest) with
          | .error stop => .error stop
          | .ok rest => skipFrom .separator opened rest
      | .key | .keyOrEnd =>
        if c = '"' then
          match _key : skipText rest with
          | .error stop => .error stop
          | .ok rest => skipFrom .colon opened rest
        else .error (Flaw.noKey.upon (c :: rest))
      | .colon =>
        if c = ':' then skipFrom .value opened rest else .error (Flaw.noColon.upon (c :: rest))
      | .separator =>
        if c = ',' then skipFrom (if inList opened then .value else .key) opened rest
        else
          .error ((if inList opened then Flaw.noElementEnd else .noMemberEnd).upon (c :: rest))
termination_by _ _ text => text.length
decreasing_by
  all_goals grind [→ length_lt_of_skipScalar, → length_lt_of_skipText]

theorem length_le_of_skipFrom {awaiting : Awaiting} {opened : List Bracket}
    {text rest : List Char} (skipped : skipFrom awaiting opened text = .ok rest) :
    rest.length ≤ text.length := by
  fun_induction skipFrom awaiting opened text <;>
    grind [→ length_lt_of_skipScalar, → length_lt_of_skipText]

def skipValue (text : List Char) : Except Stop (List Char) := skipFrom .value [] text

theorem length_le_of_skipValue {text rest : List Char} (skipped : skipValue text = .ok rest) :
    rest.length ≤ text.length :=
  length_le_of_skipFrom skipped

/-! ## Values of another kind -/

def Quantity.description : Quantity → String
  | .integer value => "integer `" ++ toString value ++ "`"
  | .floating value => "floating point `" ++ floatText value ++ "`"

/-- Reads what kind of value stands where no blanks do.  Lists and objects are not gone into. -/
def readKind (text : List Char) : Reading String :=
  match text with
  | [] => .error (Flaw.endInValue.upon [])
  | c :: rest =>
    if c = '"' then
      (readText rest).map fun (content, rest) =>
        ("string " ++ Text.quoted (String.ofList content), rest)
    else if c = '[' then .ok ("sequence", c :: rest)
    else if c = '\x7b' then .ok ("map", c :: rest)
    else if c = 'n' then (skipWord ['u', 'l', 'l'] rest).map fun rest => ("null", rest)
    else if c = 't' then (skipWord ['r', 'u', 'e'] rest).map fun rest => ("boolean `true`", rest)
    else if c = 'f' then
      (skipWord ['a', 'l', 's', 'e'] rest).map fun rest => ("boolean `false`", rest)
    else if c = '-' then
      (readQuantity true rest).map fun (quantity, rest) => (quantity.description, rest)
    else if isDigit c then
      (readQuantity false (c :: rest)).map fun (quantity, rest) => (quantity.description, rest)
    else .error (Flaw.noValue.upon (c :: rest))

def refuse (expected : String) (text : List Char) : Stop :=
  match readKind text with
  | .error stop => stop
  | .ok (found, rest) => (Fault.wrongType found expected).before rest

end Reclaim.Json
