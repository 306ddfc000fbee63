import OptOut.Store.Fault
import OptOut.Text.Blank

/-!
# Settings of the roster of senders
-/

namespace OptOut

inductive RosterFault where
  | zeroCapacity
  | zeroTimeout
  | emptyReplicaKey
  | store (error : StoreFault)
deriving DecidableEq, Repr

def RosterFault.message : RosterFault → String
  | zeroCapacity => "cache capacity must be greater than zero"
  | zeroTimeout => "store timeout must be greater than zero"
  | emptyReplicaKey => "mirror key must not be empty"
  | store error => "durable mirror error: " ++ error.message

structure RosterSettings where
    /-- How many senders are remembered at most. -/
    capacity : UInt64 := 1000000
    /-- The key of the durable replica. -/
    replicaKey : String := "processed_pubkeys_zset"
    /-- How long a call on the replica is waited for. -/
    storeTimeout : Millis := 500
deriving DecidableEq, Repr

def RosterSettings.check (settings : RosterSettings) : Except RosterFault Unit :=
  if settings.capacity = 0 then .error .zeroCapacity
  else if settings.storeTimeout = 0 then .error .zeroTimeout
  else if Text.blank settings.replicaKey then .error .emptyReplicaKey
  else .ok ()

end OptOut
