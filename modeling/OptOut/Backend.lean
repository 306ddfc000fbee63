import OptOut.Log
import OptOut.Store.Call

/-!
# What decisions rest on

Decisions are made in memory, and everything else they touch is behind these operations: the two
durable stores, a clock, and the queues of writers that bring the replica up to date on their own
time. Nothing is assumed of how they behave.
-/

namespace OptOut

class Clock (β : Type) where
    now : β → Millis × β

/-- Tells the replica writers apart. -/
abbrev WriterId := Nat

class ReplicaQueue (β : Type) where
    /-- Queues a batch for a writer; refuses it once that one has stopped. -/
    enqueue (writer : WriterId) (batch : Replica.Batch) : β → Bool × β
    /-- The batches that a writer has failed to apply so far. -/
    failedBatches (writer : WriterId) : β → Nat

class Backend (β : Type) extends SortedSets β, Streams β, Clock β, ReplicaQueue β

/-- What a step of `σ` leaves behind: its answer, the state and the backend after it, and what it
logged. -/
structure Turn (α σ β : Type) where
    answer : α
    state : σ
    backend : β
    log : List Log.Entry

end OptOut
