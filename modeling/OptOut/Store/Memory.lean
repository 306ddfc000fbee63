import OptOut.Store.Call
import OptOut.Store.Ranks
import OptOut.Store.SortedSet
import Std.Data.TreeMap

/-!
# A store in memory

Both kinds of durable store, held in memory. What the store holds is kept apart from how it serves:
each call meets conditions of its own, under which it may be slow or refused, and a call that is
refused or given up leaves the contents as they were.
-/

namespace OptOut

structure StreamEntry where
    id : String
    fields : List Field
deriving DecidableEq, Repr

def StreamEntry.field? (entry : StreamEntry) (name : String) : Option String :=
  (entry.fields.find? (·.1 = name)).map (·.2)

/-- What a store holds. One sequence numbers the entries of all streams. -/
structure Contents where
    sets : Std.TreeMap String SortedSet := ∅
    streams : Std.TreeMap String (List StreamEntry) := ∅
    appended : Nat := 0
    /-- Upserts and removals served so far. -/
    writes : Nat := 0

namespace Contents

def set (contents : Contents) (key : String) : SortedSet :=
  contents.sets.getD key .empty

def stream (contents : Contents) (key : String) : List StreamEntry :=
  contents.streams.getD key []

def putSet (contents : Contents) (key : String) (set : SortedSet) : Contents :=
  { contents with sets := contents.sets.insert key set }

/-- Puts a member in from outside, which is not counted as a write. -/
def seed (contents : Contents) (key : String) (score : Score) (member : Sender) : Contents :=
  contents.putSet key ((contents.set key).insert score member)

def countWrite (contents : Contents) : Contents :=
  { contents with writes := contents.writes + 1 }

def rangeDescending (contents : Contents) (key : String) (start stop : Int64) : List Sender :=
  let set := contents.set key
  match rankSpan set.size start stop with
  | some (first, last) => set.descending first last
  | none => []

/-- Removes members by rank; also how many. -/
def trimLowest (contents : Contents) (key : String) (start stop : Int64) : Nat × Contents :=
  let set := contents.set key
  match rankSpan set.size start stop with
  | some (first, last) => (last - first + 1, contents.putSet key (set.eraseRange first last))
  | none => (0, contents)

def upsert (contents : Contents) (key : String) (score : Score) (member : Sender) : Contents :=
  (contents.seed key score member).countWrite

/-- Removes a member. An absent key stays absent. -/
def remove (contents : Contents) (key : String) (member : Sender) : Contents :=
  let contents := contents.countWrite
  match contents.sets[key]? with
  | some set => contents.putSet key (set.erase member)
  | none => contents

/-- Adds an entry under the next number; also its id. -/
def append (contents : Contents) (key : String) (fields : List Field) : String × Contents :=
  let appended := contents.appended + 1
  let id := Text.decimal appended ++ "-0"
  (id, { contents with
    appended
    streams := contents.streams.insert key (contents.stream key ++ [⟨id, fields⟩]) })

end Contents

/-- What a call meets: how long it takes, and which parts of the store are up. -/
structure Conditions where
    latency : Millis := 0
    sortedSetUp : Bool := true
    trimUp : Bool := true
    streamUp : Bool := true
deriving DecidableEq, Repr

namespace Conditions

def sortedSetRefusal (conditions : Conditions) : Option StoreFault :=
  if conditions.sortedSetUp then none else some (.unavailable "sorted set offline")

def trimRefusal (conditions : Conditions) : Option StoreFault :=
  conditions.sortedSetRefusal <|>
    if conditions.trimUp then none else some (.unavailable "trim refused")

def streamRefusal (conditions : Conditions) : Option StoreFault :=
  if conditions.streamUp then none else some (.unavailable "stream offline")

end Conditions

structure Memory where
    contents : Contents := {}
    /-- The conditions that the call of each number meets. -/
    conditions : Nat → Conditions := fun _ => {}
    /-- The number of the next call. -/
    calls : Nat := 0

namespace Memory

/-- The conditions of the next call. -/
def current (memory : Memory) : Conditions :=
  memory.conditions memory.calls

/-- Makes the conditions of the next call last. -/
def change (memory : Memory) (update : Conditions → Conditions) : Memory :=
  let conditions := update memory.current
  { memory with conditions := fun _ => conditions }

/-- A call takes the latency of the moment and has its effect unless it is refused. -/
def call {α : Type} (memory : Memory) (refusal : Conditions → Option StoreFault)
    (effect : Contents → α × Contents) : Call Memory α :=
  let next := { memory with calls := memory.calls + 1 }
  match refusal memory.current with
  | some error =>
    { delay := memory.current.latency, answer := .error error, served := next, abandoned := next }
  | none =>
    let (answer, contents) := effect memory.contents
    { delay := memory.current.latency
      answer := .ok answer
      served := { next with contents }
      abandoned := next }

instance : SortedSets Memory where
  rangeDescending key start stop memory :=
    memory.call Conditions.sortedSetRefusal fun contents =>
      (contents.rangeDescending key start stop, contents)
  cardinality key memory :=
    memory.call Conditions.sortedSetRefusal fun contents =>
      (UInt64.ofNat (contents.set key).size, contents)
  trimLowest key start stop memory :=
    memory.call Conditions.trimRefusal fun contents =>
      let (removed, contents) := contents.trimLowest key start stop
      (UInt64.ofNat removed, contents)
  upsert key score member memory :=
    memory.call Conditions.sortedSetRefusal fun contents =>
      ((), contents.upsert key score member)
  remove key member memory :=
    memory.call Conditions.sortedSetRefusal fun contents => ((), contents.remove key member)

instance : Streams Memory where
  append key fields memory :=
    memory.call Conditions.streamRefusal fun contents => contents.append key fields

end Memory

end OptOut
