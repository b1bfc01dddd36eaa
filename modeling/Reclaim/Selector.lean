import Reclaim.Json.Record
import Reclaim.Keyed

/-!
# Selectors

A selector says which resources are meant: a list of clauses, all of which must
hold of a resource.  A clause is a key and a value, and its key is never empty.
Clauses on labels have the key `label` and a value of the form `key=value`;
they are the only ones that an engine is asked to match.
-/

set_option autoImplicit false

namespace Reclaim

def labelKey : String := "label"

theorem labelKey_ne_empty : labelKey ≠ "" := by decide

structure Clause where
  key : String
  value : String
  key_ne_empty : key ≠ ""
  deriving DecidableEq

namespace Clause

inductive Fault where
  | emptyKey
  | emptyLabelKey (value : String)
  deriving DecidableEq, Repr

def Fault.message : Fault → String
  | .emptyKey => "filter clause key must not be empty"
  | .emptyLabelKey value => "label filter key must not be empty (value `" ++ value ++ "`)"

def ofPair (key value : String) : Except Fault Clause :=
  if nonempty : key ≠ "" then .ok ⟨key, value, nonempty⟩ else .error .emptyKey

def labelText (name value : String) : String := name ++ "=" ++ value

def ofLabel (name value : String) : Except Fault Clause :=
  if name = "" then .error (.emptyLabelKey value) else ofPair labelKey (labelText name value)

def isLabel (clause : Clause) : Bool := clause.key == labelKey

end Clause

/-- An ordered list of clauses, all of which must hold. -/
structure Selector where
  clauses : List Clause
  deriving DecidableEq

namespace Selector

def empty : Selector := ⟨[]⟩

def push (selector : Selector) (clause : Clause) : Selector := ⟨selector.clauses ++ [clause]⟩

def ofLabels (labels : List (String × String)) : Except Clause.Fault Selector :=
  (labels.mapM fun label => Clause.ofLabel label.1 label.2).map Selector.mk

/-- The labels asked for, in the order of their clauses and in the form `key=value`. -/
def labelFilters (selector : Selector) : List String :=
  (selector.clauses.filter Clause.isLabel).map Clause.value

def size (selector : Selector) : Nat := selector.clauses.length

def toJson (selector : Selector) : String :=
  let clause (clause : Clause) : String :=
    Json.writeObject [("key", Json.writeText clause.key), ("value", Json.writeText clause.value)]
  Json.writeObject [("clauses", Json.writeList (selector.clauses.map clause))]

end Selector

end Reclaim
