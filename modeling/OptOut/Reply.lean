import OptOut.Json.Printer
import OptOut.Json.Record

/-!
# Replies

The decision on one event. A reply is one line of text, and carries the id of the event it is on.
-/

namespace OptOut

open Json

inductive Action where
  | accept
  | reject
    /-- The sender is told that the event was accepted, and it goes nowhere. -/
  | shadowReject
deriving DecidableEq, Repr

namespace Action

def name : Action → String
  | accept => "accept"
  | reject => "reject"
  | shadowReject => "shadowReject"

def ofName? : String → Option Action
  | "accept" => some accept
  | "reject" => some reject
  | "shadowReject" => some shadowReject
  | _ => none

/-- An action is its name, or an object with its name over null. -/
def ofValue : Value → Option Action
  | .text name => ofName? name
  | .object [(name, .null)] => ofName? name
  | _ => none

end Action

structure Reply where
    id : String
    action : Action
    message : String
deriving DecidableEq, Repr

namespace Reply

def accept (id : String) : Reply := ⟨id, .accept, ""⟩

def reject (id message : String) : Reply := ⟨id, .reject, message⟩

def shadowReject (id : String) : Reply := ⟨id, .shadowReject, ""⟩

def isAccept (reply : Reply) : Bool :=
  reply.action = .accept

def fieldNames : List String :=
  ["id", "action", "msg"]

def toValue (reply : Reply) : Value :=
  .object [
    ("id", .text reply.id),
    ("action", .text reply.action.name),
    ("msg", .text reply.message)]

def ofValue (value : Value) : Option Reply := do
  let id ← value.required "id" Value.text?
  let action ← value.required "action" Action.ofValue
  let message ← value.required "msg" Value.text?
  some { id, action, message }

def line (reply : Reply) : String :=
  reply.toValue.compact

def ofText (text : String) : Option Reply :=
  (recordOfText fieldNames text).bind ofValue

end Reply

end OptOut
