import Reclaim.Text.Utf8

/-!
# What a terminal shows

Some of the bytes that are sent to a terminal are not shown.  An escape byte
begins a sequence that changes the looks of what follows it, moves the cursor,
or carries a string that is meant for the terminal itself; how far it reaches
depends on its kind.  A sequence that is never ended swallows what comes after
it, until another one begins.  Outside of sequences all text is shown, and of
the controls only those that are blank.
-/

set_option autoImplicit false

namespace Reclaim.Text.Terminal

inductive Mode where
  | showing
  /-- Outside of sequences, behind a byte that it has not shown. -/
  | idle
  | escape
  | escapeTail
  | control
  | device
  | deviceParameters
  | deviceTail
  | string
  | command
  deriving DecidableEq, Repr

def between (lowest highest b : UInt8) : Bool := lowest ≤ b && b ≤ highest

def isBlankControl (b : UInt8) : Bool := b == 0x09 || b == 0x0a || b == 0x0c || b == 0x0d

/-- The bytes that are shown outside of sequences, those inside of a character apart. -/
def isText (b : UInt8) : Bool := between 0x20 0x7e b || between 0xc2 0xf4 b || isBlankControl b

def isInside (b : UInt8) : Bool := between 0x80 0xbf b

def Mode.inside (mode : Mode) (b : UInt8) : Mode :=
  match mode with
  | .showing => if isText b || isInside b then .showing else .idle
  | .idle => if isText b then .showing else .idle
  | .escape =>
    if isBlankControl b then .showing
    else if between 0x20 0x2f b then .escapeTail
    else if b == 0x5b then .control
    else if b == 0x5d then .command
    else if b == 0x50 then .device
    else if b == 0x58 || b == 0x5e || b == 0x5f then .string
    else if between 0x30 0x7e b then .idle
    else .escape
  | .escapeTail =>
    if isBlankControl b then .showing else if between 0x30 0x7e b then .idle else .escapeTail
  | .control =>
    if isBlankControl b then .showing else if between 0x40 0x7e b then .idle else .control
  | .device =>
    if between 0x20 0x2f b then .deviceTail
    else if between 0x30 0x3f b then .deviceParameters
    else if between 0x40 0x7e b then .string
    else .device
  | .deviceParameters =>
    if between 0x20 0x2f b then .deviceTail
    else if between 0x3c 0x7e b then .string
    else .deviceParameters
  | .deviceTail => if between 0x30 0x7e b then .string else .deviceTail
  | .string => if b == 0x9c then .idle else .string
  | .command => if b == 0x07 then .idle else .command

/-- The mode behind a byte: an escape byte begins a sequence in any mode, and two controls break
one off. -/
def Mode.next (mode : Mode) (b : UInt8) : Mode :=
  if b == 0x1b then .escape else if b == 0x18 || b == 0x1a then .idle else mode.inside b

def shownFrom (mode : Mode) : List UInt8 → List UInt8
  | [] => []
  | b :: rest =>
    if mode.next b = .showing then b :: shownFrom .showing rest
    else shownFrom (mode.next b) rest

def shown (text : String) : String := Utf8.lenient (shownFrom .idle (Utf8.encode text))

def highlighted (text : String) : String := "\x1b[1m" ++ text ++ "\x1b[0m"

/-! ## Text without controls -/

end Reclaim.Text.Terminal
