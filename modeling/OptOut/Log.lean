import OptOut.Event.Wire
import OptOut.Line
import OptOut.Replica.Batch
import OptOut.Roster.Settings

/-!
# Log

What an operator should know about: writes that were lost, senders that are remembered in memory
only, lines that could not be answered.
-/

namespace OptOut.Log

inductive Level where
  | warn
  | error
deriving DecidableEq, Repr

def Level.name : Level → String
  | warn => "WARN"
  | error => "ERROR"

inductive Entry where
  | trimFailed (error : RosterFault) (capacity : UInt64)
  | writerStopped
  | writeFailed (failure : Replica.Failure)
    /-- A request to vanish that must be submitted again by hand. -/
  | appendFailed (event : Event) (error : StoreFault)
  | rememberedInMemoryOnly (sender : Sender) (error : RosterFault)
  | coldStart (error : RosterFault)
    /-- The writer of this number was stopped before its service ended, and so has no report. -/
  | writerFailed (number : Nat)
  | drainGivenUp (afterSeconds : Nat)
  | malformedRejected (eventId : String) (error : LineFault)
  | malformedSkipped (error : LineFault)
deriving DecidableEq, Repr

namespace Entry

def level : Entry → Level
  | appendFailed _ _ => .error
  | _ => .warn

def message : Entry → String
  | trimFailed _ _ => "Could not trim durable mirror; retrying on next start"
  | writerStopped => "Mirror writer stopped; writing mirror inline"
  | writeFailed _ => "Durable mirror write failed; in-memory membership kept"
  | appendFailed _ _ => "Failed to append vanish request to stream; resubmit manually"
  | rememberedInMemoryOnly _ _ => "Vanished sender remembered in memory only"
  | coldStart _ =>
    "Starting with an empty vanish cache; previously vanished senders are not filtered"
  | writerFailed _ => "Mirror writer task failed"
  | drainGivenUp _ => "Gave up waiting for mirror writes"
  | malformedRejected _ _ => "Malformed request; rejecting"
  | malformedSkipped _ => "Malformed request without event id; skipping"

def fields : Entry → List Field
  | trimFailed error capacity =>
    [("error", error.message), ("capacity", Text.decimal capacity.toNat)]
  | writerStopped => []
  | writeFailed failure =>
    [("operation", failure.write.operation.name), ("pubkey", failure.write.member),
      ("error", failure.error.message)]
  | appendFailed event error =>
    [("pubkey", event.pubkey), ("error", error.message), ("event", event.text)]
  | rememberedInMemoryOnly sender error => [("pubkey", sender), ("error", error.message)]
  | coldStart error => [("error", error.message)]
  | writerFailed number => [("error", "task " ++ Text.decimal number ++ " was cancelled")]
  | drainGivenUp afterSeconds => [("after_secs", Text.decimal afterSeconds)]
  | malformedRejected eventId error => [("id", eventId), ("error", error.summary)]
  | malformedSkipped error => [("error", error.summary)]

def line (entry : Entry) : String :=
  entry.level.name ++ " " ++ entry.message ++
    String.join (entry.fields.map fun (name, value) => " " ++ name ++ "=" ++ value)

def toValue (entry : Entry) : Json.Value :=
  .object [
    ("level", .text entry.level.name),
    ("message", .text entry.message),
    ("fields", .object (entry.fields.map fun (name, value) => (name, .text value)))]

end Entry

end OptOut.Log
