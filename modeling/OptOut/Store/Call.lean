import OptOut.Event
import OptOut.Record
import OptOut.Score
import OptOut.Store.Fault
import OptOut.Store.Operation

/-!
# Calls on a durable store

The two kinds of durable store, each given by its operations alone, so that everything built on them
holds for any store. A call takes the store a while, and a caller may wait for it without end or
only up to a limit.

Ranks count the members of a sorted set from the lowest score up, starting at 0; negative ranks
count back from the highest, which is -1.
-/

namespace OptOut

/-- One call on a store in a given state. -/
structure Call (σ α : Type) where
    /-- How long the store takes to answer. -/
    delay : Millis
    answer : Except StoreFault α
    /-- The store once it has answered. -/
    served : σ
    /-- The store if the caller does not wait for the answer. -/
    abandoned : σ

namespace Call

variable {σ α : Type}

def await (call : Call σ α) : Except StoreFault α × σ :=
  (call.answer, call.served)

/-- Whether a caller with a limit gives up before the answer comes. -/
def expires (limit : Millis) (call : Call σ α) : Bool :=
  limit < call.delay

/-- What a caller with a limit is left with, once it is settled whether the limit came first. -/
def conclude (limit : Millis) (operation : Operation) (expired : Bool) (call : Call σ α) :
    Except StoreFault α × σ :=
  if expired then (.error (.timeout operation.name limit), call.abandoned)
  else (call.answer, call.served)

/-- Waits for the answer up to a limit. -/
def within (limit : Millis) (operation : Operation) (call : Call σ α) : Except StoreFault α × σ :=
  call.conclude limit operation (call.expires limit)

/-- How long a caller with a limit waits. -/
def waited (limit : Millis) (call : Call σ α) : Millis :=
  if call.expires limit then limit else call.delay

end Call

/-- Sets of identifiers in order of a score, one under each key. -/
class SortedSets (σ : Type) where
    /-- The members between two ranks inclusive, counted from the highest score down. -/
    rangeDescending (key : String) (start stop : Int64) : σ → Call σ (List Sender)
    /-- The number of members. -/
    cardinality (key : String) : σ → Call σ UInt64
    /-- Removes the members between two ranks inclusive, and tells how many there were. -/
    trimLowest (key : String) (start stop : Int64) : σ → Call σ UInt64
    /-- Puts a member in, or moves it to its new score. -/
    upsert (key : String) (score : Score) (member : Sender) : σ → Call σ Unit
    /-- Takes a member out, if it is there. -/
    remove (key : String) (member : Sender) : σ → Call σ Unit

/-- Streams of entries that are only ever added to, one under each key. -/
class Streams (σ : Type) where
    /-- Adds an entry to the end, and tells the id that the store gave it. -/
    append (key : String) (fields : List Field) : σ → Call σ String

end OptOut
