import OptOut.Event.Wire

/-!
# Requests

What the relay asks on one line: to decide on an event, with what it knows about where the event
came from. Requests of other types than `new` need no decision.
-/

namespace OptOut

open Json

structure Request where
    type : String
    event : Event
    receivedAt : Option UInt64
    sourceType : Option String
    sourceInfo : Option String
deriving DecidableEq, Repr

def decisionType : String := "new"

namespace Request

def ofEvent (event : Event) : Request :=
  ⟨decisionType, event, none, none, none⟩

def optionalField (name : String) : Option Value → List (String × Value)
  | some value => [(name, value)]
  | none => []

def toValue (request : Request) : Value :=
  .object ([("type", .text request.type), ("event", request.event.toValue)] ++
    optionalField "receivedAt" (request.receivedAt.map fun moment => .ofNat moment.toNat) ++
    optionalField "sourceType" (request.sourceType.map .text) ++
    optionalField "sourceInfo" (request.sourceInfo.map .text))

def ofValue (value : Value) : Option Request := do
  let type ← value.required "type" Value.text?
  let event ← value.required "event" Event.ofValue
  let receivedAt ← value.optional "receivedAt" Value.word?
  let sourceType ← value.optional "sourceType" Value.text?
  let sourceInfo ← value.optional "sourceInfo" Value.text?
  some { type, event, receivedAt, sourceType, sourceInfo }

def text (request : Request) : String :=
  request.toValue.compact

end Request

end OptOut
