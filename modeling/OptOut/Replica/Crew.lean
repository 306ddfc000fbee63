import OptOut.Replica.Writer

/-!
# Replica writers at work together

Each service and each policy may have a writer of its own, with its own queue, on a store that they
share. They work side by side: the writer whose wait ends first acts first. Of several that can act
at the same moment, the one that has been waiting for its turn longest does.
-/

namespace OptOut.Replica

structure Crew where
    /-- The writers in the order of their turns. -/
    writers : List (WriterId × Writer) := []
    /-- How many were hired so far; they are numbered from 0. -/
    hired : Nat := 0

/-- The shortest of some waits, with its writer; of equal ones, the first. -/
def soonest : List (WriterId × Nat) → Option (WriterId × Nat)
  | [] => none
  | first :: rest =>
    match soonest rest with
    | some other => if other.2 < first.2 then some other else some first
    | none => some first

namespace Crew

def find? (crew : Crew) (id : WriterId) : Option Writer :=
  crew.writers.lookup id

def put (crew : Crew) (id : WriterId) (writer : Writer) : Crew :=
  { crew with writers := crew.writers.map fun (other, old) =>
      if other = id then (other, writer) else (other, old) }

/-- Gives up the turn of a writer for the last one. -/
def postpone (crew : Crew) (id : WriterId) : Crew :=
  { crew with writers :=
      crew.writers.filter (·.1 ≠ id) ++ crew.writers.filter (·.1 = id) }

def hire (crew : Crew) (limit : Millis) : WriterId × Crew :=
  (crew.hired,
    { writers := crew.writers ++ [(crew.hired, { limit })], hired := crew.hired + 1 })

def dismiss (crew : Crew) (id : WriterId) : Crew :=
  { crew with writers := crew.writers.filter (·.1 ≠ id) }

/-- Stops a writer at once. Tells whether it was running. -/
def stop (crew : Crew) (id : WriterId) : Bool × Crew :=
  match crew.find? id with
  | some writer => (writer.running, crew.put id writer.stop)
  | none => (false, crew)

/-- Queues a batch for a writer. If that one was asleep, it gets the last turn. -/
def enqueue (crew : Crew) (id : WriterId) (batch : Batch) : Bool × Crew :=
  match crew.find? id with
  | some writer =>
    let (queued, busy) := writer.enqueue batch
    let crew := crew.put id busy
    (queued, if writer.awake then crew else crew.postpone id)
  | none => (false, crew)

def isIdle (crew : Crew) (id : WriterId) : Bool :=
  (crew.find? id).all (·.isIdle)

/-- The writer that acts next, and how long it takes until then. -/
def next? (crew : Crew) : Option (WriterId × Nat) :=
  soonest (crew.writers.filterMap fun (id, writer) => writer.wait?.map (id, ·))

/-- The number of steps until no writer has anything left to do. -/
def work (crew : Crew) : Nat :=
  crew.writers.foldr (fun (_, writer) total => writer.work + total) 0

def pass (crew : Crew) (time : Nat) : Crew :=
  { crew with writers := crew.writers.map fun (id, writer) => (id, writer.pass time) }

/-- Lets those that have nothing to do fall asleep. -/
def settle (crew : Crew) : Crew :=
  { crew with writers := crew.writers.map fun (id, writer) => (id, writer.settle) }

variable {σ : Type} [SortedSets σ]

/-- Lets a writer take a step. If it has to wait after that, it gets the last turn. -/
def act (crew : Crew) (id : WriterId) (store : σ) : Crew × σ × List Log.Entry :=
  match crew.find? id with
  | some writer =>
    let (writer, store, log) := writer.step store
    let crew := crew.put id writer
    (if writer.wait?.any (0 < ·) then crew.postpone id else crew, store, log)
  | none => (crew, store, [])

/-- Runs up to a number of steps, until one writer is done, or all are if none is given, or until
the time is up. Steps that can be taken at once still are. -/
def runSteps (target : Option WriterId) :
    Nat → Option Nat → Crew → σ → Crew × σ × List Log.Entry
  | 0, _, crew, store => (crew, store, [])
  | steps + 1, time, crew, store =>
    match crew.next? with
    | none => (crew, store, [])
    | some (id, wait) =>
      if 0 < wait ∧ target.any crew.isIdle then (crew, store, [])
      else match time.filter (· ≤ wait) with
        | some time => (crew.pass time, store, [])
        | none =>
          let (crew, store, log) := (crew.pass wait).act id store
          let (crew, store, later) := runSteps target steps (time.map (· - wait)) crew store
          (crew, store, log ++ later)

/-- Each step reduces the work by one, so the work bounds their number. -/
def run (crew : Crew) (target : Option WriterId) (time : Option Nat) (store : σ) :
    Crew × σ × List Log.Entry :=
  let (crew, store, log) := runSteps target crew.work time crew store
  (crew.settle, store, log)

end Crew

end OptOut.Replica
