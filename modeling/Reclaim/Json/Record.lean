import Reclaim.Json.Value

/-!
# Records in JSON

A record is described by its title and its fields; a field holds a text, a flag
or one of several names.  A record is written as an object, whose fields stand
in any order among others that are passed over, or as a list of its fields in
their order.  A field that is not required may be left out; in a list only at
its end.  Reading goes from left to right and stops at the first fault; a fault
of the record as a whole shows behind its end.

A text is written between quotation marks: the quotation mark, the backslash and
the controls are escaped, all other characters stand for themselves.
-/

set_option autoImplicit false

namespace Reclaim.Json

inductive Shape where
  | text
  | flag
  | choice (names : List String)
  deriving DecidableEq, Repr

inductive Datum where
  | text (value : String)
  | flag (value : Bool)
  deriving DecidableEq, Repr

structure Field where
  name : String
  shape : Shape
  required : Bool
  deriving DecidableEq, Repr

structure Layout where
  title : String
  fields : List Field
  deriving DecidableEq, Repr

/-- The fields that have been read, by name. -/
abbrev Row := List (String × Datum)

def Row.text? (row : Row) (name : String) : Option String :=
  match row.lookup name with
  | some (.text value) => some value
  | _ => none

def Row.flag? (row : Row) (name : String) : Option Bool :=
  match row.lookup name with
  | some (.flag value) => some value
  | _ => none

/-! ## Marks -/

def readColon (text : List Char) : Except Stop (List Char) :=
  match skipBlanks text with
  | ':' :: rest => .ok rest
  | [] => .error (Flaw.endInObject.upon [])
  | c :: rest => .error (Flaw.noColon.upon (c :: rest))

def readFirstKey (text : List Char) : Except Stop (Option (List Char)) :=
  match skipBlanks text with
  | '\x7d' :: _ => .ok none
  | '"' :: rest => .ok (some rest)
  | [] => .error (Flaw.endInObject.upon [])
  | c :: rest => .error (Flaw.noKey.upon (c :: rest))

def readNextKey (text : List Char) : Except Stop (Option (List Char)) :=
  match skipBlanks text with
  | '\x7d' :: _ => .ok none
  | ',' :: rest =>
    match skipBlanks rest with
    | '"' :: rest => .ok (some rest)
    | '\x7d' :: rest => .error (Flaw.trailingComma.upon ('\x7d' :: rest))
    | [] => .error (Flaw.endInValue.upon [])
    | c :: rest => .error (Flaw.noKey.upon (c :: rest))
  | [] => .error (Flaw.endInObject.upon [])
  | c :: rest => .error (Flaw.noMemberEnd.upon (c :: rest))

def passMark (mark : Char) (text : List Char) : List Char :=
  match skipBlanks text with
  | [] => []
  | c :: rest => if c = mark then rest else c :: rest

/-- Reads up to the next element of a list, `first` if it is the first one; `none` if the list ends
instead. -/
def readNextElement (first : Bool) (text : List Char) : Except Stop (Option (List Char)) :=
  match skipBlanks text with
  | ']' :: _ => .ok none
  | [] => .error (Flaw.endInList.upon [])
  | c :: rest =>
    if first then .ok (some (c :: rest))
    else if c = ',' then
      match skipBlanks rest with
      | ']' :: rest => .error (Flaw.trailingComma.upon (']' :: rest))
      | rest => .ok (some rest)
    else .error (Flaw.noElementEnd.upon (c :: rest))

def readListEnd (text : List Char) : Except Stop (List Char) :=
  match skipBlanks text with
  | ']' :: rest => .ok rest
  | ',' :: rest =>
    match skipBlanks rest with
    | ']' :: rest => .error (Flaw.trailingComma.upon (']' :: rest))
    | rest => .error (Flaw.trailingText.upon rest)
  | [] => .error (Flaw.endInList.upon [])
  | c :: rest => .error (Flaw.trailingText.upon (c :: rest))

/-! ## Values of fields -/

def readName (names : List String) (text : List Char) : Reading String :=
  match readText text with
  | .error stop => .error stop
  | .ok (content, rest) =>
    let name := String.ofList content
    if name ∈ names then .ok (name, rest)
    else .error ((Fault.unknownVariant name names).before rest)

def readNull (text : List Char) : Except Stop (List Char) :=
  match skipBlanks text with
  | 'n' :: rest => skipWord ['u', 'l', 'l'] rest
  | text => .error (refuse "unit" text)

def readObjectEnd (text : List Char) : Except Stop (List Char) :=
  match skipBlanks text with
  | '\x7d' :: rest => .ok rest
  | [] => .error (Flaw.endInObject.upon [])
  | c :: rest => .error (Flaw.noValue.before (c :: rest))

def readNullMember (text : List Char) : Except Stop (List Char) := do
  readObjectEnd (← readNull (← readColon text))

/-- Reads an object whose one key is a name and whose value is null, behind its opening brace. -/
def readWrappedName (names : List String) (text : List Char) : Reading String :=
  match readFirstKey text with
  | .error stop => .error stop
  | .ok none => .error (Flaw.noKey.upon (skipBlanks text))
  | .ok (some rest) =>
    match readName names rest with
    | .error stop => .error stop
    | .ok (name, rest) => (readNullMember rest).map fun rest => (name, rest)

/-- Reads one of several names: as a text, or as an object with that key and the value null. -/
def readChoice (names : List String) (text : List Char) : Reading String :=
  match skipBlanks text with
  | '"' :: rest => readName names rest
  | '\x7b' :: rest => readWrappedName names rest
  | [] => .error (Flaw.endInValue.upon [])
  | c :: rest => .error (Flaw.noValue.upon (c :: rest))

def readString (text : List Char) : Reading String :=
  match skipBlanks text with
  | '"' :: rest => (readText rest).map fun (content, rest) => (String.ofList content, rest)
  | text => .error (refuse "a string" text)

def readFlag (text : List Char) : Reading Bool :=
  match skipBlanks text with
  | 't' :: rest => (skipWord ['r', 'u', 'e'] rest).map fun rest => (true, rest)
  | 'f' :: rest => (skipWord ['a', 'l', 's', 'e'] rest).map fun rest => (false, rest)
  | text => .error (refuse "a boolean" text)

def readDatum (shape : Shape) (text : List Char) : Reading Datum :=
  match shape with
  | .text => (readString text).map fun (value, rest) => (.text value, rest)
  | .flag => (readFlag text).map fun (value, rest) => (.flag value, rest)
  | .choice names => (readChoice names text).map fun (name, rest) => (.text name, rest)

/-! ## Records -/

def Layout.missing? (layout : Layout) (row : Row) : Option Field :=
  layout.fields.find? fun field => field.required && (row.lookup field.name).isNone

def Layout.close (layout : Layout) (row : Row) (text : List Char) : Reading Row :=
  let rest := passMark '\x7d' text
  match layout.missing? row with
  | some field => .error ((Fault.missingField field.name).before rest)
  | none => .ok (row, rest)

/-- Reads the value of a member with some key: that of a field enters the row, any other one is
passed over. -/
def Layout.readMember (layout : Layout) (row : Row) (key : String) (text : List Char) :
    Except Stop (Row × List Char) :=
  match layout.fields.find? fun field => field.name == key with
  | some field =>
    if (row.lookup key).isSome then
      .error ((Fault.duplicateField key).before (passMark '\x7d' text))
    else do
      let (datum, rest) ← readDatum field.shape (← readColon text)
      return (row ++ [(key, datum)], rest)
  | none => do
    let rest ← skipValue (← readColon text)
    return (row, rest)

/-! ### What is left -/

theorem length_le_of_readColon {text rest : List Char} (found : readColon text = .ok rest) :
    rest.length ≤ text.length := by
  grind [readColon, length_skipBlanks_le]

theorem length_le_of_readNextKey {text rest : List Char}
    (found : readNextKey text = .ok (some rest)) : rest.length ≤ text.length := by
  grind [readNextKey, length_skipBlanks_le]

theorem length_le_of_readName {names : List String} {text rest : List Char} {name : String}
    (found : readName names text = .ok (name, rest)) : rest.length ≤ text.length := by
  grind [readName, → length_lt_of_readText]

theorem length_le_of_readNull {text rest : List Char} (found : readNull text = .ok rest) :
    rest.length ≤ text.length := by
  grind [readNull, length_skipBlanks_le, → length_le_of_skipWord]

theorem length_le_of_readObjectEnd {text rest : List Char} (found : readObjectEnd text = .ok rest) :
    rest.length ≤ text.length := by
  grind [readObjectEnd, length_skipBlanks_le]

theorem length_le_of_readFirstKey {text rest : List Char}
    (found : readFirstKey text = .ok (some rest)) : rest.length ≤ text.length := by
  grind [readFirstKey, length_skipBlanks_le]

theorem length_le_of_readNullMember {text rest : List Char}
    (found : readNullMember text = .ok rest) : rest.length ≤ text.length := by
  simp only [readNullMember, bind, Except.bind] at found
  grind [→ length_le_of_readColon, → length_le_of_readNull, → length_le_of_readObjectEnd]

theorem length_le_of_readWrappedName {names : List String} {text rest : List Char} {name : String}
    (found : readWrappedName names text = .ok (name, rest)) : rest.length ≤ text.length := by
  grind [readWrappedName, → ok_of_map, → length_le_of_readFirstKey, → length_le_of_readName,
    → length_le_of_readNullMember]

theorem length_le_of_readChoice {names : List String} {text rest : List Char} {name : String}
    (found : readChoice names text = .ok (name, rest)) : rest.length ≤ text.length := by
  grind [readChoice, length_skipBlanks_le, → length_le_of_readName,
    → length_le_of_readWrappedName]

theorem length_le_of_readString {text rest : List Char} {value : String}
    (found : readString text = .ok (value, rest)) : rest.length ≤ text.length := by
  grind [readString, → ok_of_map, length_skipBlanks_le, → length_lt_of_readText]

theorem length_le_of_readFlag {text rest : List Char} {value : Bool}
    (found : readFlag text = .ok (value, rest)) : rest.length ≤ text.length := by
  grind [readFlag, → ok_of_map, length_skipBlanks_le, → length_le_of_skipWord]

theorem length_le_of_readDatum {shape : Shape} {text rest : List Char} {datum : Datum}
    (found : readDatum shape text = .ok (datum, rest)) : rest.length ≤ text.length := by
  cases shape <;> grind [readDatum, → ok_of_map, → length_le_of_readString,
    → length_le_of_readFlag, → length_le_of_readChoice]

theorem length_le_of_readMember {layout : Layout} {row read : Row} {key : String}
    {text rest : List Char} (found : layout.readMember row key text = .ok (read, rest)) :
    rest.length ≤ text.length := by
  simp only [Layout.readMember, bind, Except.bind, pure, Except.pure] at found
  grind [→ length_le_of_readColon, → length_le_of_readDatum, → length_le_of_skipValue]

def Layout.readMembers (layout : Layout) (row : Row) (text : List Char) : Reading Row :=
  match _key : readText text with
  | .error stop => .error stop
  | .ok (key, rest) =>
    match _member : layout.readMember row (String.ofList key) rest with
    | .error stop => .error stop
    | .ok (row, rest) =>
      match _next : readNextKey rest with
      | .error stop => .error stop
      | .ok none => layout.close row rest
      | .ok (some rest) => layout.readMembers row rest
termination_by text.length
decreasing_by
  have := length_lt_of_readText _key
  have := length_le_of_readMember _member
  have := length_le_of_readNextKey _next
  omega

def Layout.readObject (layout : Layout) (text : List Char) : Reading Row :=
  match readFirstKey text with
  | .error stop => .error stop
  | .ok none => layout.close [] text
  | .ok (some rest) => layout.readMembers [] rest

def Layout.cutShort (layout : Layout) (count : Nat) : Fault :=
  .tooShort count ("struct " ++ layout.title ++ " with " ++ toString layout.fields.length ++
    " elements")

/-- Reads the fields of a record from a list, `count` of which have been read. -/
def Layout.readElements (layout : Layout) (count : Nat) (row : Row) :
    List Field → List Char → Reading Row
  | [], text => (readListEnd text).map fun rest => (row, rest)
  | field :: fields, text =>
    match readNextElement (count = 0) text with
    | .error stop => .error stop
    | .ok none =>
      if field.required then .error ((layout.cutShort count).before (passMark ']' text))
      else layout.readElements (count + 1) row fields text
    | .ok (some rest) =>
      match readDatum field.shape rest with
      | .error stop => .error stop
      | .ok (datum, rest) =>
        layout.readElements (count + 1) (row ++ [(field.name, datum)]) fields rest

def Layout.readRecord (layout : Layout) (text : List Char) : Reading Row :=
  match skipBlanks text with
  | '\x7b' :: rest => layout.readObject rest
  | '[' :: rest => layout.readElements 0 [] layout.fields rest
  | text => .error (refuse ("struct " ++ layout.title) text)

def complete {α : Type} (reading : Reading α) : Except Stop α :=
  match reading with
  | .error stop => .error stop
  | .ok (value, rest) =>
    match skipBlanks rest with
    | [] => .ok value
    | c :: rest => .error (Flaw.trailingText.upon (c :: rest))

def Layout.decode (layout : Layout) (text : List Char) : Except Refusal Row :=
  (complete (layout.readRecord text)).mapError (Stop.refusal text)

def decodeChoice (names : List String) (text : List Char) : Except Refusal String :=
  (complete (readChoice names text)).mapError (Stop.refusal text)

/-! ## Writing -/

def writeChar (c : Char) : List Char :=
  if c = '"' then ['\\', '"']
  else if c = '\\' then ['\\', '\\']
  else if c = '\x08' then ['\\', 'b']
  else if c = '\x0c' then ['\\', 'f']
  else if c = '\n' then ['\\', 'n']
  else if c = '\r' then ['\\', 'r']
  else if c = '\t' then ['\\', 't']
  else if c.toNat < 0x20 then
    ['\\', 'u', '0', '0', Text.hexDigit (c.toNat / 16), Text.hexDigit (c.toNat % 16)]
  else [c]

def writeText (text : String) : String :=
  String.ofList ('"' :: text.toList.flatMap writeChar ++ ['"'])

def writeObject (members : List (String × String)) : String :=
  "\x7b" ++ String.intercalate "," (members.map fun member =>
    writeText member.1 ++ ":" ++ member.2) ++ "\x7d"

def writeList (elements : List String) : String := "[" ++ String.intercalate "," elements ++ "]"

end Reclaim.Json
