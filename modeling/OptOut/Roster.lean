import OptOut.Backend
import OptOut.Roster.Settings
import Std.Data.TreeSet

/-!
# The roster of senders

Remembers the senders that asked to vanish, up to a capacity. Once it is full, the sender that was
added longest ago is forgotten for each new one; looking a sender up changes nothing. Memory is
changed before the durable replica, and no failure of the replica takes a change back.
-/

namespace OptOut

structure Roster where
    settings : RosterSettings
    /-- The remembered senders in order of addition, oldest first. -/
    order : List Sender := []
    members : Std.TreeSet Sender := ∅
    /-- The writer that replica writes are queued for; without one, they are awaited. -/
    writer : Option WriterId := none
    additions : Nat := 0
    evictions : Nat := 0
    /-- Batches that failed when they were written without a writer. -/
    inlineFailures : Nat := 0

structure RosterFigures where
    members : Nat
    capacity : UInt64
    additions : Nat
    evictions : Nat
    replicaFailures : Nat
deriving DecidableEq, Repr

namespace Roster

def ofSettings (settings : RosterSettings) : Except RosterFault Roster :=
  settings.check.map fun () => { settings }

def has (roster : Roster) (sender : Sender) : Bool :=
  roster.members.contains sender

/-- Notes a sender that was not noted before; those noted, newest first, and the set of them. -/
def note (noted : List Sender × Std.TreeSet Sender) (sender : Sender) :
    List Sender × Std.TreeSet Sender :=
  if noted.2.contains sender then noted else (sender :: noted.1, noted.2.insert sender)

/-- Each sender once, at the place of its first occurrence; also the set of them. -/
def distinct (senders : List Sender) : List Sender × Std.TreeSet Sender :=
  let (newestFirst, members) := senders.foldl note ([], ∅)
  (newestFirst.reverse, members)

/-- Remembers the given senders, oldest first, in place of all others. -/
def replace (roster : Roster) (senders : List Sender) : Roster :=
  let (order, members) := distinct senders
  { roster with order, members }

variable {β : Type}

/-- Removes from the replica the oldest entries beyond the capacity. -/
def trimReplica [SortedSets β] (roster : Roster) (backend : β) : Except StoreFault Unit × β :=
  let limit := roster.settings.storeTimeout
  let key := roster.settings.replicaKey
  match (SortedSets.cardinality key backend).within limit .cardinality with
  | (.error error, backend) => (.error error, backend)
  | (.ok total, backend) =>
    if total ≤ roster.settings.capacity then (.ok (), backend)
    else
      let excess := total - roster.settings.capacity
      match (SortedSets.trimLowest key 0 (excess.toInt64 - 1) backend).within limit .trim with
      | (.error error, backend) => (.error error, backend)
      | (.ok _, backend) => (.ok (), backend)

/-- Loads the newest senders of the replica, up to the capacity, in place of those in memory, and
trims the replica to them. Tells how many were loaded. Only a failure to load is an error. -/
def load [SortedSets β] (roster : Roster) (backend : β) :
    Turn (Except RosterFault Nat) Roster β :=
  let capacity := roster.settings.capacity
  match (SortedSets.rangeDescending roster.settings.replicaKey 0 (capacity.toInt64 - 1)
      backend).within roster.settings.storeTimeout .range with
  | (.error error, backend) => ⟨.error (.store error), roster, backend, []⟩
  | (.ok newestFirst, backend) =>
    let roster := roster.replace (newestFirst.take capacity.toNat).reverse
    let (trimmed, backend) := roster.trimReplica backend
    let log := match trimmed with
      | .ok () => []
      | .error error => [.trimFailed (.store error) capacity]
    ⟨.ok roster.order.length, roster, backend, log⟩

/-- Remembers a sender that is not a member, and the writes that this owes the replica. -/
def enrol (roster : Roster) (sender : Sender) (score : Score) : Roster × Replica.Batch :=
  let order := roster.order ++ [sender]
  let members := roster.members.insert sender
  let roster := { roster with order, members, additions := roster.additions + 1 }
  let upsert := Replica.Write.upsert sender score
  match order with
  | oldest :: rest =>
    if roster.settings.capacity.toNat < order.length then
      ({ roster with
          order := rest
          members := members.erase oldest
          evictions := roster.evictions + 1 },
        ⟨roster.settings.replicaKey, [upsert, .remove oldest]⟩)
    else (roster, ⟨roster.settings.replicaKey, [upsert]⟩)
  | [] => (roster, ⟨roster.settings.replicaKey, [upsert]⟩)

def writeInline [SortedSets β] (roster : Roster) (batch : Replica.Batch) (backend : β) :
    Turn (Except RosterFault Unit) Roster β :=
  let (failures, backend) := batch.apply roster.settings.storeTimeout backend
  let log := failures.map Log.Entry.writeFailed
  match Replica.outcome failures with
  | .ok () => ⟨.ok (), roster, backend, log⟩
  | .error error =>
    ⟨.error (.store error), { roster with inlineFailures := roster.inlineFailures + 1 },
      backend, log⟩

/-- Queues a batch for the writer, if there is one and it has not stopped. -/
def persist [SortedSets β] [ReplicaQueue β] (roster : Roster) (batch : Replica.Batch)
    (backend : β) : Turn (Except RosterFault Unit) Roster β :=
  match roster.writer with
  | none => roster.writeInline batch backend
  | some writer =>
    match ReplicaQueue.enqueue writer batch backend with
    | (true, backend) => ⟨.ok (), roster, backend, []⟩
    | (false, backend) =>
      let turn := roster.writeInline batch backend
      { turn with log := .writerStopped :: turn.log }

/-- Adds a sender; one that is a member stays where it is. -/
def add [SortedSets β] [Clock β] [ReplicaQueue β] (roster : Roster) (sender : Sender)
    (backend : β) : Turn (Except RosterFault Unit) Roster β :=
  if roster.has sender then ⟨.ok (), roster, backend, []⟩
  else
    let (now, backend) := Clock.now backend
    let (roster, batch) := roster.enrol sender (.ofMillis now)
    roster.persist batch backend

/-- The figures of the roster; a writer's failures count only where there is one. -/
def figures [ReplicaQueue β] (roster : Roster) (backend : β) : RosterFigures :=
  { members := roster.order.length
    capacity := roster.settings.capacity
    additions := roster.additions
    evictions := roster.evictions
    replicaFailures := roster.inlineFailures + match roster.writer with
      | some writer => ReplicaQueue.failedBatches writer backend
      | none => 0 }

end Roster

end OptOut
