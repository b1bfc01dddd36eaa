import Reclaim.Text.Utf8

/-!
# Paths of log files

A path is bytes with slashes between its components.  Empty components and
single dots mean nothing, except that a dot at the very beginning is kept.
From the path that somebody gives for the log the directory of the log files
and the beginning of their names are derived: the path itself if it is a
directory, and otherwise the path without its last component and that
component.
-/

set_option autoImplicit false

namespace Reclaim.LogPath

abbrev Path := List UInt8

def slash : UInt8 := 0x2f

def dot : UInt8 := 0x2e

def segments : Path → List (List UInt8)
  | [] => [[]]
  | b :: rest =>
    if b = slash then [] :: segments rest
    else
      match segments rest with
      | [] => [[b]]
      | first :: others => (b :: first) :: others

def isIdle (segment : List UInt8) : Bool := segment.isEmpty || segment == [dot]

inductive Component where
  | root
  | here
  | up
  | name (bytes : List UInt8)
  deriving DecidableEq, Repr

def Component.ofSegment? (segment : List UInt8) : Option Component :=
  if isIdle segment then none
  else if segment = [dot, dot] then some .up
  else some (.name segment)

/-- What a path begins with before its first slash-separated name, and the rest of it. -/
def head : Path → List UInt8 × Option Component × Path
  | [] => ([], none, [])
  | [b] =>
    if b = slash then ([b], some .root, []) else if b = dot then ([b], some .here, []) else
      ([], none, [b])
  | b :: c :: rest =>
    if b = slash then ([b], some .root, c :: rest)
    else if b = dot ∧ c = slash then ([b], some .here, c :: rest)
    else ([], none, b :: c :: rest)

def components (path : Path) : List Component :=
  let (_, first, body) := head path
  first.toList ++ (segments body).filterMap Component.ofSegment?

def cutLast : List UInt8 → List UInt8 × List UInt8
  | [] => ([], [])
  | b :: rest =>
    if b = slash then ([], rest)
    else
      let (segment, before) := cutLast rest
      (segment ++ [b], before)

def trimEnd : Nat → List UInt8 → List UInt8
  | 0, body => body
  | tries + 1, body =>
    if body.isEmpty then []
    else
      let (segment, before) := cutLast body
      if isIdle segment then trimEnd tries before else body

/-- A path split at its last component: what is before it, and the component. -/
def splitLast (path : Path) : Option (Path × Component) :=
  let (lead, first, body) := head path
  let trimmed := trimEnd (body.length + 1) body.reverse
  if trimmed.isEmpty then
    match first with
    | some .here => some ([], .here)
    | _ => none
  else
    let (segment, before) := cutLast trimmed
    let parent := lead ++ (trimEnd (before.length + 1) before).reverse
    (Component.ofSegment? segment).map fun component => (parent, component)

def defaultName : String := "reaper.log"

def workingDirectory : Path := [dot]

def place (isDirectory : Path → Bool) (path : Path) : Path × String :=
  if isDirectory path then (path, defaultName)
  else
    let (parent, component) : Path × Option Component :=
      match splitLast path with
      | some (parent, component) => (parent, some component)
      | none => ([], none)
    let directory := if parent.isEmpty then workingDirectory else parent
    match component with
    | some (.name bytes) => (directory, (Text.Utf8.decode? bytes).getD defaultName)
    | _ => (directory, defaultName)

/-! ## Directories that are known -/

def pathLimit : Nat := 4095

/-- A place in a tree of directories: the names from the root down, or a number of levels above
the working directory. -/
inductive Position where
  | below (names : List (List UInt8))
  | above (levels : Nat)
  deriving DecidableEq, Repr

/-- Goes from one directory to another by one component; only known directories have names. -/
def Position.enter (known : List (List (List UInt8))) (position : Position) :
    Component → Option Position
  | .root => some (.below [])
  | .here => some position
  | .up =>
    match position with
    | .below names => some (.below names.dropLast)
    | .above levels => some (.above (levels + 1))
  | .name bytes =>
    match position with
    | .below names =>
      if (names ++ [bytes]) ∈ known then some (.below (names ++ [bytes])) else none
    | .above _ => none

/-- Whether a path leads to a directory, where the directories below the root that are known are
these, and of the working directory only those above it.  A path that is too long leads nowhere. -/
def leadsToDirectory (known : List (List (List UInt8))) (path : Path) : Bool :=
  if path.isEmpty ∨ pathLimit < path.length then false
  else
    ((components path).foldl (fun position component =>
      position.bind (Position.enter known · component)) (some (.above 0))).isSome

end Reclaim.LogPath
