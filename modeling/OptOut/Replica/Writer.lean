import OptOut.Backend

/-!
# The replica writer

Takes batches off the decision path: they are queued, and applied in the order in which they came,
whenever the writer gets to run. A batch leaves the queue whether it succeeds or fails. The writer
works in steps, between which time may pass and the store may change: it takes up a batch, or it
ends the wait for a write.
-/

namespace OptOut.Replica

/-- A write whose outcome is waited for. How the wait ends and when is settled at its beginning;
whether the store refuses the write, at its end. -/
structure Underway where
    key : String
    write : Write
    /-- The writes of the same batch that come after it. -/
    later : List Write
    /-- Whether one that came before it failed. -/
    flawed : Bool
    /-- How much longer it is waited for, in milliseconds. -/
    remaining : Nat
    /-- Whether the limit comes before the answer. -/
    expires : Bool
deriving DecidableEq, Repr

/-- Begins to wait for a write. -/
def Underway.begin {σ : Type} [SortedSets σ] (key : String) (limit : Millis) (write : Write)
    (later : List Write) (flawed : Bool) (store : σ) : Underway :=
  let call := write.call key store
  { key, write, later, flawed
    remaining := (call.waited limit).toNat
    expires := call.expires limit }

def Underway.conclude {σ : Type} [SortedSets σ] (underway : Underway) (limit : Millis)
    (store : σ) : Except StoreFault Unit × σ :=
  (underway.write.call underway.key store).conclude limit underway.write.operation underway.expires

structure Writer where
    /-- How long each write is waited for. -/
    limit : Millis
    /-- The batches still to be taken up, oldest first. -/
    queue : List Batch := []
    underway : Option Underway := none
    applied : Nat := 0
    failed : Nat := 0
    running : Bool := true
    /-- Whether it is at work or on its turn, instead of asleep until there is a batch. -/
    awake : Bool := true
deriving DecidableEq, Repr

/-- What a writer did until there was nothing left to do. -/
structure WriterTally where
    applied : Nat
    failed : Nat
deriving DecidableEq, Repr

namespace Writer

def report (writer : Writer) : WriterTally :=
  ⟨writer.applied, writer.failed⟩

/-- Queues a batch, unless the writer has stopped. -/
def enqueue (writer : Writer) (batch : Batch) : Bool × Writer :=
  if writer.running then
    (true, { writer with queue := writer.queue ++ [batch], awake := true })
  else (false, writer)

/-- Stops the writer at once; what it had to do is lost. -/
def stop (writer : Writer) : Writer :=
  { writer with queue := [], underway := none, running := false }

/-- How long it takes until the next step, unless there is nothing to do. -/
def wait? (writer : Writer) : Option Nat :=
  match writer.underway with
  | some underway => some underway.remaining
  | none => if writer.queue.isEmpty then none else some 0

def isIdle (writer : Writer) : Bool :=
  writer.wait?.isNone

/-- The number of steps until there is nothing left to do: one for each batch that is not yet taken
up, and one for each write. -/
def work (writer : Writer) : Nat :=
  writer.queue.foldr (fun batch total => batch.writes.length + 1 + total)
    ((writer.underway.map fun underway => underway.later.length + 1).getD 0)

/-- Lets time pass that is not longer than the wait. -/
def pass (time : Nat) (writer : Writer) : Writer :=
  { writer with underway := writer.underway.map fun underway =>
      { underway with remaining := underway.remaining - time } }

/-- Falls asleep if there is nothing to do. -/
def settle (writer : Writer) : Writer :=
  { writer with awake := !writer.isIdle }

variable {σ : Type} [SortedSets σ]

/-- Goes on with a batch of which these writes are left. With the last of them, the batch is
done. -/
def proceed (writer : Writer) (key : String) (flawed : Bool) (store : σ) : List Write → Writer
  | [] =>
    if flawed then { writer with underway := none, failed := writer.failed + 1 }
    else { writer with underway := none, applied := writer.applied + 1 }
  | write :: later =>
    { writer with underway := some (.begin key writer.limit write later flawed store) }

/-- Takes up the oldest batch, or ends the wait for the write that is underway. -/
def step (writer : Writer) (store : σ) : Writer × σ × List Log.Entry :=
  match writer.underway with
  | some underway =>
    match underway.conclude writer.limit store with
    | (.ok (), store) =>
      (writer.proceed underway.key underway.flawed store underway.later, store, [])
    | (.error error, store) =>
      (writer.proceed underway.key true store underway.later, store,
        [.writeFailed ⟨underway.write, error⟩])
  | none =>
    match writer.queue with
    | [] => (writer, store, [])
    | batch :: queue =>
      ({ writer with queue }.proceed batch.key false store batch.writes, store, [])

end Writer

end OptOut.Replica
