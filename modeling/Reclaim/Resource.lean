import Reclaim.Json.Record

/-!
# Resources

The kinds of resources that are owned one by one, and the record of one that is
held: its kind, its id and a label, which is for the log only.
-/

set_option autoImplicit false

namespace Reclaim

inductive ResourceKind where
  | container
  | network
  | image
  deriving DecidableEq, Repr

namespace ResourceKind

def name : ResourceKind → String
  | .container => "container"
  | .network => "network"
  | .image => "image"

/-- All kinds, in the order in which resources are given up. -/
def all : List ResourceKind := [.container, .network, .image]

def ofName? (name : String) : Option ResourceKind := all.find? fun kind => kind.name == name

def decode (text : String) : Except Json.Refusal ResourceKind :=
  match Json.decodeChoice (all.map name) text.toList with
  | .error refusal => .error refusal
  | .ok found =>
    match ofName? found with
    | some kind => .ok kind
    | none => .error (.ofWhole (.unknownVariant found (all.map name)) text.toList)

def toJson (kind : ResourceKind) : String := Json.writeText kind.name

end ResourceKind

structure Holding where
  kind : ResourceKind
  id : String
  label : String
  deriving DecidableEq, Repr

namespace Holding

/-- A resource that is labelled by its own id. -/
def unlabelled (kind : ResourceKind) (id : String) : Holding := ⟨kind, id, id⟩

def layout : Json.Layout :=
  ⟨"ResourceRegistration",
    [⟨"id", .text, true⟩, ⟨"kind", .choice (ResourceKind.all.map ResourceKind.name), true⟩,
      ⟨"label", .text, true⟩]⟩

def ofRow? (row : Json.Row) : Option Holding := do
  let id ← row.text? "id"
  let kind ← row.text? "kind" >>= ResourceKind.ofName?
  let label ← row.text? "label"
  return ⟨kind, id, label⟩

def decode (text : String) : Except Json.Refusal Holding :=
  match layout.decode text.toList with
  | .error refusal => .error refusal
  | .ok row =>
    match ofRow? row with
    | some holding => .ok holding
    | none => .error (.ofWhole (.missingField "kind") text.toList)

def toJson (holding : Holding) : String :=
  Json.writeObject [("id", Json.writeText holding.id), ("kind", holding.kind.toJson),
    ("label", Json.writeText holding.label)]

end Holding

end Reclaim
