import OptOut.Roster.Settings
import OptOut.Scope

/-!
# Settings of the registrar
-/

namespace OptOut

inductive RegistrarFault where
  | missingRelayScope
  | emptyStreamKey
  | zeroTimeout
  | roster (error : RosterFault)
deriving DecidableEq, Repr

def RegistrarFault.message : RegistrarFault → String
  | missingRelayScope => "relay scope is required and must not be blank"
  | emptyStreamKey => "stream key must not be empty"
  | zeroTimeout => "stream append timeout must be greater than zero"
  | roster error => "invalid cache configuration: " ++ error.message

/-- The stream that requests to vanish are recorded on. -/
def optOutStream : String := "vanish_requests"

structure RegistrarSettings where
    /-- The name of this relay. -/
    relayScope : String
    roster : RosterSettings := {}
    streamKey : String := optOutStream
    /-- How long an append to the stream is waited for. -/
    appendTimeout : Millis := 500
deriving DecidableEq, Repr

/-- Checks the settings, and puts the name of the relay into normal form. -/
def RegistrarSettings.check (settings : RegistrarSettings) : Except RegistrarFault Scope :=
  match Scope.ofText? settings.relayScope with
  | none => .error .missingRelayScope
  | some scope =>
    match settings.roster.check with
    | .error error => .error (.roster error)
    | .ok () =>
      if Text.blank settings.streamKey then .error .emptyStreamKey
      else if settings.appendTimeout = 0 then .error .zeroTimeout
      else .ok scope

end OptOut
