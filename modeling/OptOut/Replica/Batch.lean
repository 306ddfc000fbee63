import OptOut.Store.Call

/-!
# Writes to the durable replica

The replica is the sorted set in which the remembered senders outlive the process. Remembering a
sender owes it a batch of writes: one that puts the sender in and, if another was forgotten for it,
one that takes that one out. A batch is best effort: every write is tried, whatever became of the
ones before.
-/

namespace OptOut.Replica

inductive Write where
  | upsert (member : Sender) (score : Score)
  | remove (member : Sender)
deriving DecidableEq, Repr

namespace Write

def operation : Write → Operation
  | upsert _ _ => .upsert
  | remove _ => .remove

def member : Write → Sender
  | upsert member _ => member
  | remove member => member

/-- The call on the store that a write makes. -/
def call {σ : Type} [SortedSets σ] (key : String) (write : Write) (store : σ) : Call σ Unit :=
  match write with
  | upsert member score => SortedSets.upsert key score member store
  | remove member => SortedSets.remove key member store

def apply {σ : Type} [SortedSets σ] (key : String) (limit : Millis) (write : Write)
    (store : σ) : Except StoreFault Unit × σ :=
  (write.call key store).within limit write.operation

end Write

structure Batch where
    key : String
    writes : List Write
deriving DecidableEq, Repr

structure Failure where
    write : Write
    error : StoreFault
deriving DecidableEq, Repr

/-- Tries the writes in order, and collects those that fail. -/
def applyWrites {σ : Type} [SortedSets σ] (key : String) (limit : Millis) :
    List Write → σ → List Failure × σ
  | [], store => ([], store)
  | write :: rest, store =>
    match write.apply key limit store with
    | (.ok (), store) => applyWrites key limit rest store
    | (.error error, store) =>
      let (failures, store) := applyWrites key limit rest store
      (⟨write, error⟩ :: failures, store)

def Batch.apply {σ : Type} [SortedSets σ] (limit : Millis) (batch : Batch) (store : σ) :
    List Failure × σ :=
  applyWrites batch.key limit batch.writes store

/-- A batch succeeds if all its writes do; otherwise it fails as its first failure did. -/
def outcome : List Failure → Except StoreFault Unit
  | [] => .ok ()
  | first :: _ => .error first.error

end OptOut.Replica
