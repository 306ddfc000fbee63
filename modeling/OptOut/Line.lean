import OptOut.Request
import OptOut.Text.Blank
import OptOut.Text.Octets

/-!
# Lines from the relay

Every line is a request to decide, a request of another type, blank, or malformed. The id of the
event is recovered from a malformed line where that is possible, so that the relay gets an answer.
-/

namespace OptOut

open Json

inductive LineFault where
  | invalidUtf8 (detail : String)
  | invalidJson (detail : String)
  | missingField (field : String)
  | invalidEvent (detail : String)
deriving DecidableEq, Repr

namespace LineFault

def message : LineFault → String
  | invalidUtf8 detail => "invalid UTF-8: " ++ detail
  | invalidJson detail => "invalid JSON: " ++ detail
  | missingField field => "missing field: " ++ field
  | invalidEvent detail => "invalid event: " ++ detail

/-- The error without the part that would quote the line. -/
def summary : LineFault → String
  | invalidJson _ => "invalid JSON"
  | invalidEvent _ => "invalid event"
  | error => error.message

end LineFault

inductive Line where
  | blank
  | ignored (requestType : String)
  | request (request : Request)
  | malformed (eventId : Option String) (error : LineFault)
deriving DecidableEq, Repr

namespace Line

/-- The id at `event.id`, if it is a text that is not empty. -/
def eventIdOf (value : Value) : Option String :=
  (((value.field? "event").bind (·.field? "id")).bind Value.text?).filter (· ≠ "")

def ofValue (value : Value) : Line :=
  match value.required "type" Value.text? with
  | none => .malformed (eventIdOf value) (.missingField "type")
  | some type =>
    if type ≠ decisionType then .ignored type
    else match eventIdOf value with
      | none => .malformed none (.missingField "event.id")
      | some id =>
        match Request.ofValue value with
        | some decoded => .request decoded
        | none => .malformed (some id) (.invalidEvent "a field is missing or of the wrong type")

def ofText (text : String) : Line :=
  if Text.blank text then .blank
  else match Value.ofText (Text.trim text) with
    | none => .malformed none (.invalidJson "not a JSON text")
    | some value => ofValue value

/-- Classifies the octets of a line, its line end included. -/
def ofOctets (octets : List UInt8) : Line :=
  match Text.decodeOctets octets with
  | .ok text => ofText text
  | .error error => .malformed none (.invalidUtf8 error.message)

end Line

end OptOut
