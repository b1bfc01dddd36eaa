import Reclaim.Journal
import Reclaim.Selector

/-!
# Procedures

The unattended work of this library, as data.  A procedure is either done, or
it makes a request of its surroundings and goes on with the reply.  Requests go
to the engine, to the custody whose resources are being given up, and to the
journal.  As a procedure is a finite tree, it always comes to an end, whatever
it is answered; `run` carries it out wherever requests can be answered, and two
procedures can also be taken apart and interleaved request by request.
-/

set_option autoImplicit false

namespace Reclaim

inductive Request where
  | call (asked : Engine.Call)
  | log (event : Journal.Event)
  | holdings
  | label (id : String)
  | forget (kind : ResourceKind) (id : String)
  | watched
  | testament
  deriving DecidableEq, Repr

abbrev Request.Reply : Request → Type
  | .call asked => Engine.Answer asked
  | .log _ => Unit
  | .holdings => List Holding
  | .label _ => Option String
  | .forget _ _ => Unit
  | .watched => Bool
  | .testament => List Selector

inductive Procedure (α : Type) : Type where
  | done (value : α)
  | ask (request : Request) (next : request.Reply → Procedure α)

namespace Procedure

variable {α β γ : Type}

def bind : Procedure α → (α → Procedure β) → Procedure β
  | .done value, next => next value
  | .ask request rest, next => .ask request fun reply => (rest reply).bind next

instance : Monad Procedure where
  pure := .done
  bind := bind

def request (request : Request) : Procedure request.Reply := .ask request .done

def call (asked : Engine.Call) : Procedure (Engine.Answer asked) := request (.call asked)

def log (event : Journal.Event) : Procedure Unit := request (.log event)

def each (work : β → Procedure Unit) : List β → Procedure Unit
  | [] => .done ()
  | first :: rest => (work first).bind fun _ => each work rest

/-- Carries a procedure out where requests can be answered. -/
def run {m : Type → Type} [Monad m] (answer : (request : Request) → m request.Reply) :
    Procedure α → m α
  | .done value => pure value
  | .ask request next => do
    let reply ← answer request
    run answer (next reply)

@[simp] theorem bind_done (value : α) (next : α → Procedure β) :
    (Procedure.done value).bind next = next value := rfl

@[simp] theorem bind_ask (request : Request) (rest : request.Reply → Procedure α)
    (next : α → Procedure β) :
    (Procedure.ask request rest).bind next = .ask request fun reply => (rest reply).bind next := rfl

theorem bind_done_right (work : Procedure α) : work.bind .done = work := by
  induction work with
  | done value => rfl
  | ask request rest ih => simp only [bind_ask, ih]

theorem bind_assoc (work : Procedure α) (second : α → Procedure β) (third : β → Procedure γ) :
    (work.bind second).bind third = work.bind fun value => (second value).bind third := by
  induction work with
  | done value => rfl
  | ask request rest ih => simp only [bind_ask, ih]

end Procedure

end Reclaim
