import Reclaim.Text.Terminal

/-!
# The grammar of command lines

A command line is read in levels: the options of the program itself, and from
the name of a command on the options of that command.  Options are long and
take one value, either behind an equals sign or as the next argument, which
must not begin with a hyphen then unless it is a hyphen alone.  An option may
also take its value from an environment variable.

A value is looked at when the option is complete, which is when the next option
begins or the level ends; what is wrong with an earlier argument is therefore
not always found first.
-/

set_option autoImplicit false

namespace Reclaim.CommandLine

open Text.Terminal (highlighted)

inductive Refusal where
  | blank
  | because (reason : String)
  deriving DecidableEq, Repr

structure Flag where
  name : String
  valueName : String
  repeatable : Bool
  required : Bool
  standIn? : Option String
  check : String → Except Refusal Unit

inductive UsageFault where
  | help
  | helpInstead
  | version
  | missingCommand
  | unknownCommand
  | unknownArgument
  | missingValue
  | surplusValue
  | repeatedFlag
  | missingFlag
  | refusedValue (flag : String) (value : String) (reason : String)
  deriving DecidableEq, Repr

inductive Source where
  | environment
  | arguments
  deriving DecidableEq, Repr

structure Given where
  name : String
  source : Source
  values : List String
  deriving DecidableEq, Repr

/-- The reading of a level: what has been found, and the option that is not complete yet, with its
value if that has been seen. -/
structure Reading where
  given : List Given
  pending : Option (Flag × Option String)

abbrev Environment := List (String × String)

/-- What is written about a refused value.  It is composed for a terminal and then freed of all
that a terminal does not show, in the value as in the rest. -/
def refusalText (flag value reason : String) : String :=
  Text.Terminal.shown (highlighted "error:" ++ " invalid value '" ++ highlighted value ++
    "' for '" ++ highlighted flag ++ "': " ++ reason ++ "\n\nFor more information, try '" ++
    highlighted "--help" ++ "'.\n")

def Flag.usage (flag : Flag) : String := "--" ++ flag.name ++ " <" ++ flag.valueName ++ ">"

namespace Reading

def opening : Reading := ⟨[], none⟩

def find? (reading : Reading) (name : String) : Option Given :=
  reading.given.find? fun given => given.name == name

def accept (reading : Reading) (flag : Flag) (source : Source) (value : String) :
    Except UsageFault Reading :=
  let earlier := reading.find? flag.name
  if earlier.isSome && !flag.repeatable then .error .repeatedFlag
  else
    match flag.check value with
    | .error .blank => .error .missingValue
    | .error (.because reason) => .error (.refusedValue flag.usage value reason)
    | .ok () =>
      let others := reading.given.filter fun given => given.name != flag.name
      let values := (earlier.map Given.values).getD [] ++ [value]
      .ok { reading with given := others ++ [⟨flag.name, source, values⟩] }

def settle (reading : Reading) : Except UsageFault Reading :=
  match reading.pending with
  | none => .ok reading
  | some (_, none) => .error .missingValue
  | some (flag, some value) => { reading with pending := none }.accept flag .arguments value

def awaitsValue (reading : Reading) : Bool :=
  match reading.pending with
  | some (_, none) => true
  | _ => false

end Reading

structure Level where
  flags : List Flag
  versioned : Bool
  commands : List String

/-- The name and the value of a long option: what is before and after its first equals sign. -/
def cutEquals : List Char → List Char × Option (List Char)
  | [] => ([], none)
  | '=' :: rest => ([], some rest)
  | c :: rest => let (name, value) := cutEquals rest; (c :: name, value)

inductive Shape where
  | endOfFlags
  | long (name : String) (value : Option String)
  | short (letter : Char)
  | word
  deriving DecidableEq, Repr

def shapeOf (argument : String) : Shape :=
  match argument.toList with
  | ['-', '-'] => .endOfFlags
  | '-' :: '-' :: rest =>
    let (name, value) := cutEquals rest
    .long (String.ofList name) (value.map String.ofList)
  | '-' :: letter :: _ => .short letter
  | _ => .word

def Reading.question (reading : Reading) (fault : UsageFault) : UsageFault :=
  match reading.settle with
  | .error earlier => earlier
  | .ok _ => fault

def Level.readLong (level : Level) (reading : Reading) (name : String) (value : Option String) :
    Except UsageFault Reading :=
  match level.flags.find? fun flag => flag.name == name with
  | some flag => do
    let reading ← reading.settle
    match value with
    | some value => reading.accept flag .arguments value
    | none => .ok { reading with pending := some (flag, none) }
  | none =>
    if name = "help" || (name = "version" && level.versioned) then
      if value.isSome then .error .surplusValue
      else .error (reading.question (if name = "help" then .help else .version))
    else .error .unknownArgument

def Level.shortFault (level : Level) (reading : Reading) (letter : Char) : UsageFault :=
  if letter = 'h' then reading.question .help
  else if letter = 'V' && level.versioned then reading.question .version
  else .unknownArgument

def Level.strayFault (level : Level) (afterEnd : Bool) (argument : String) : UsageFault :=
  if level.commands.isEmpty then .unknownArgument
  else if afterEnd && level.commands.contains argument then .unknownArgument
  else .unknownCommand

/-- Reads the arguments of a level up to the name of a command. -/
def Level.read (level : Level) (reading : Reading) :
    List String → Except UsageFault (Reading × Option (String × List String))
  | [] => .ok (reading, none)
  | argument :: rest =>
    if !reading.awaitsValue && level.commands.contains argument then
      .ok (reading, some (argument, rest))
    else
      match shapeOf argument with
      | .endOfFlags =>
        match rest with
        | [] => .ok (reading, none)
        | stray :: _ => .error (level.strayFault true stray)
      | .long name value =>
        match level.readLong reading name value with
        | .error fault => .error fault
        | .ok reading => level.read reading rest
      | .short letter => .error (level.shortFault reading letter)
      | .word =>
        match reading.pending with
        | some (flag, none) =>
          level.read { reading with pending := some (flag, some argument) } rest
        | _ => .error (level.strayFault false argument)

/-- Looks up the options that were not given on the command line in the environment. -/
def Reading.consult (environment : Environment) (reading : Reading) :
    List Flag → Except UsageFault Reading
  | [] => .ok reading
  | flag :: rest =>
    match (reading.find? flag.name).isSome, flag.standIn?.bind (List.lookup · environment) with
    | false, some value => do
      let reading ← reading.accept flag .environment value
      reading.consult environment rest
    | _, _ => reading.consult environment rest

def Level.finish (level : Level) (environment : Environment) (reading : Reading) :
    Except UsageFault Reading := do
  let reading ← reading.settle
  reading.consult environment level.flags

def Level.finishCommand (level : Level) (environment : Environment) (reading : Reading) :
    Except UsageFault Reading := do
  let reading ← level.finish environment reading
  if level.flags.any fun flag => flag.required && (reading.find? flag.name).isNone then
    .error .missingFlag
  else .ok reading

end Reclaim.CommandLine
