import OptOut.ManualClock
import OptOut.Replica.Crew
import OptOut.Store.Memory

/-!
# A deployment in one process

A store in memory, a clock and the writers that bring queued replica writes to the store.
-/

namespace OptOut

/-- The same call, seen as a call on a larger state. -/
def Call.embed {σ τ α : Type} (call : Call σ α) (larger : σ → τ) : Call τ α :=
  ⟨call.delay, call.answer, larger call.served, larger call.abandoned⟩

structure Deployment where
    memory : Memory := {}
    clock : ManualClock
    crew : Replica.Crew := {}

namespace Deployment

def withMemory (deployment : Deployment) (memory : Memory) : Deployment :=
  { deployment with memory }

instance : Backend Deployment where
  rangeDescending key start stop deployment :=
    (SortedSets.rangeDescending key start stop deployment.memory).embed deployment.withMemory
  cardinality key deployment :=
    (SortedSets.cardinality key deployment.memory).embed deployment.withMemory
  trimLowest key start stop deployment :=
    (SortedSets.trimLowest key start stop deployment.memory).embed deployment.withMemory
  upsert key score member deployment :=
    (SortedSets.upsert key score member deployment.memory).embed deployment.withMemory
  remove key member deployment :=
    (SortedSets.remove key member deployment.memory).embed deployment.withMemory
  append key fields deployment :=
    (Streams.append key fields deployment.memory).embed deployment.withMemory
  now deployment :=
    let (moment, clock) := Clock.now deployment.clock
    (moment, { deployment with clock })
  enqueue writer batch deployment :=
    let (queued, crew) := deployment.crew.enqueue writer batch
    (queued, { deployment with crew })
  failedBatches writer deployment :=
    ((deployment.crew.find? writer).map (·.failed)).getD 0

def startWriter (deployment : Deployment) (limit : Millis) : WriterId × Deployment :=
  let (writer, crew) := deployment.crew.hire limit
  (writer, { deployment with crew })

/-- Lets the writers work, until one of them is done or all are, or until the time is up. -/
def runWriters (deployment : Deployment) (target : Option WriterId) (time : Option Nat) :
    Deployment × List Log.Entry :=
  let (crew, memory, log) := deployment.crew.run target time deployment.memory
  ({ deployment with crew, memory }, log)

def drain (deployment : Deployment) : Deployment × List Log.Entry :=
  deployment.runWriters none none

/-- Waits until a writer has applied what is queued for it, without end or only for a time. -/
def awaitWriter (deployment : Deployment) (writer : WriterId) (time : Option Nat) :
    Deployment × List Log.Entry :=
  deployment.runWriters (some writer) time

/-- Stops a writer at once; what is queued for it is lost. Tells whether it was running. -/
def stopWriter (deployment : Deployment) (writer : WriterId) : Bool × Deployment :=
  let (stopped, crew) := deployment.crew.stop writer
  (stopped, { deployment with crew })

def dismissWriter (deployment : Deployment) (writer : WriterId) : Deployment :=
  { deployment with crew := deployment.crew.dismiss writer }

/-- Ends a writer that is done, for its report. One that was stopped has none. -/
def endWriter (deployment : Deployment) (writer : WriterId) :
    Option Replica.WriterTally × Deployment :=
  (((deployment.crew.find? writer).filter (·.running)).map (·.report),
    deployment.dismissWriter writer)

end Deployment

end OptOut
