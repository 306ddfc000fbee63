import OptOut.Proofs.Enrolment
import OptOut.Proofs.Memory
import OptOut.Proofs.Registrar

/-!
# What a decision asks of the outside

A backend with a record of all that it is asked behaves as it does without, and shows what a
decision does to the world: nothing at all, unless the event is a request to vanish that is to be
recorded; then one append, and after it the writes that are owed to the replica, in their order, or
the same writes as one batch for a writer. What the store answers has no part in it.
-/

namespace OptOut

open Replica

/-! ## Recorded backends -/

/-- Something that is asked of what decisions rest on. -/
inductive Effect where
    /-- The clock is read, and shows a moment. -/
  | reading (moment : Millis)
  | append (key : String) (fields : List Field)
  | write (key : String) (write : Write)
  | range (key : String) (start stop : Int64)
  | cardinality (key : String)
  | trim (key : String) (start stop : Int64)
    /-- A batch is offered to a writer, which takes it or does not. -/
  | offer (writer : WriterId) (batch : Batch) (taken : Bool)
deriving DecidableEq

def Effect.isWrite : Effect → Bool
  | write _ _ => true
  | _ => false

def Quiet (effects : List Effect) : Prop :=
  ∀ effect ∈ effects, effect.isWrite = false

theorem quiet_nil : Quiet [] :=
  fun _ held => absurd held List.not_mem_nil

theorem Quiet.cons {effect : Effect} {effects : List Effect} (quiet : Quiet effects)
    (other : effect.isWrite = false) : Quiet (effect :: effects) :=
  List.forall_mem_cons.2 ⟨other, quiet⟩

/-- A backend, or a store, with what it was asked so far. -/
structure Traced (β : Type) where
    inner : β
    trace : List Effect := []

namespace Traced

variable {β : Type}

def note (traced : Traced β) (effect : Effect) (inner : β) : Traced β :=
  ⟨inner, traced.trace ++ [effect]⟩

instance [SortedSets β] : SortedSets (Traced β) where
  rangeDescending key start stop traced :=
    (SortedSets.rangeDescending key start stop traced.inner).embed
      (traced.note (.range key start stop))
  cardinality key traced :=
    (SortedSets.cardinality key traced.inner).embed (traced.note (.cardinality key))
  trimLowest key start stop traced :=
    (SortedSets.trimLowest key start stop traced.inner).embed (traced.note (.trim key start stop))
  upsert key score member traced :=
    (SortedSets.upsert key score member traced.inner).embed
      (traced.note (.write key (.upsert member score)))
  remove key member traced :=
    (SortedSets.remove key member traced.inner).embed (traced.note (.write key (.remove member)))

instance [Streams β] : Streams (Traced β) where
  append key fields traced :=
    (Streams.append key fields traced.inner).embed (traced.note (.append key fields))

instance [Backend β] : Backend (Traced β) where
  now traced :=
    let (moment, inner) := Clock.now traced.inner
    (moment, traced.note (.reading moment) inner)
  enqueue writer batch traced :=
    let (taken, inner) := ReplicaQueue.enqueue writer batch traced.inner
    (taken, traced.note (.offer writer batch taken) inner)
  failedBatches writer traced := ReplicaQueue.failedBatches writer traced.inner

end Traced

def Turn.recording {α σ β : Type} (turn : Turn α σ β) (trace : List Effect) :
    Turn α σ (Traced β) :=
  ⟨turn.answer, turn.state, ⟨turn.backend, trace⟩, turn.log⟩

/-! ## Writes -/

def Replica.Batch.effects (batch : Batch) : List Effect :=
  batch.writes.map (.write batch.key)

theorem Replica.Write.call_traced {σ : Type} [SortedSets σ] (key : String) (write : Write)
    (traced : Traced σ) : write.call key traced =
      (write.call key traced.inner).embed (traced.note (.write key write)) := by
  cases write <;> rfl

theorem Replica.apply_writes_traced {σ : Type} [SortedSets σ] (key : String) (limit : Millis)
    (writes : List Write) (traced : Traced σ) :
    applyWrites key limit writes traced =
      let (failures, inner) := applyWrites key limit writes traced.inner
      (failures, ⟨inner, traced.trace ++ writes.map (.write key)⟩) := by
  induction writes generalizing traced with
  | nil => simp [applyWrites]
  | cons write rest induction =>
      have apply : write.apply key limit traced =
          ((write.apply key limit traced.inner).1,
            traced.note (.write key write) (write.apply key limit traced.inner).2) := by
        rw [Write.apply, Write.call_traced, Call.within_embed]
        rfl
      cases ended : write.apply key limit traced.inner with
      | mk result inner =>
          cases result <;>
            simp only [applyWrites, apply, ended, induction, Traced.note, List.map_cons,
              List.append_assoc, List.singleton_append]

variable {β : Type} [Backend β]

def ReplicaQueue.takers (batch : Batch) (backend : β) (writer : WriterId) : Bool :=
  (enqueue writer batch backend).1

namespace Roster

theorem write_inline_traced (roster : Roster) (batch : Batch) (traced : Traced β) :
    roster.writeInline batch traced =
      (roster.writeInline batch traced.inner).recording (traced.trace ++ batch.effects) := by
  simp only [writeInline, Batch.apply, apply_writes_traced, Batch.effects]
  split <;> rfl

/-- What bringing a batch to the replica asks: its writes in order, or that a writer take it; and if
that one does not, its writes after all. -/
def bringing (roster : Roster) (takes : WriterId → Bool) (batch : Batch) : List Effect :=
  match roster.writer with
  | none => batch.effects
  | some writer =>
    .offer writer batch (takes writer) :: if takes writer then [] else batch.effects

theorem persist_traced (roster : Roster) (batch : Batch) (traced : Traced β) :
    roster.persist batch traced = (roster.persist batch traced.inner).recording
      (traced.trace ++ roster.bringing (ReplicaQueue.takers batch traced.inner) batch) := by
  cases employed : roster.writer with
  | none =>
      simp only [persist, bringing, employed]
      exact roster.write_inline_traced batch traced
  | some writer =>
      cases offered : ReplicaQueue.enqueue writer batch traced.inner with
      | mk taken inner =>
          have noted : ReplicaQueue.enqueue writer batch traced =
              (taken, traced.note (.offer writer batch taken) inner) := by
            simp only [ReplicaQueue.enqueue, offered]
          cases taken with
          | true =>
              simp only [persist, bringing, ReplicaQueue.takers, employed, offered, noted]
              rfl
          | false =>
              simp only [persist, bringing, ReplicaQueue.takers, employed, offered, noted,
                write_inline_traced]
              simp [Turn.recording, Traced.note]

/-- The writes that are owed for a new sender: only a full roster forgets one for it, the one that
was added longest ago. -/
structure Owes (roster : Roster) (sender : Sender) (score : Score) (batch : Batch) : Prop where
    key : batch.key = roster.settings.replicaKey
    full : roster.order.length = roster.settings.capacity.toNat →
      ∃ oldest others, roster.order = oldest :: others ∧
        batch.writes = [.upsert sender score, .remove oldest]
    free : roster.order.length ≠ roster.settings.capacity.toNat →
      batch.writes = [.upsert sender score]

theorem owes_enrolment {roster : Roster} (bounded : roster.order.length ≤ roster.room)
    (any : 0 < roster.room) (sender : Sender) (score : Score) :
    roster.Owes sender score
      ((roster.enrolment sender score).batch roster.settings.replicaKey) := by
  refine ⟨rfl, fun full => ?_, fun free => ?_⟩
  · have none_free : ¬roster.order.length < roster.room := Nat.not_lt.2 (Nat.le_of_eq full.symm)
    have filled : 0 < roster.order.length := Nat.lt_of_lt_of_eq any full.symm
    obtain ⟨oldest, others, order⟩ := List.exists_cons_of_length_pos filled
    refine ⟨oldest, others, order, ?_⟩
    rw [Enrolment.batch, enrolment, if_neg none_free, order]
    rfl
  · rw [Enrolment.batch, enrolment, if_pos (Nat.lt_of_le_of_ne bounded free)]
    rfl

def adding (roster : Roster) (sender : Sender) (backend : β) : List Effect :=
  let (now, backend) := Clock.now backend
  let batch := (roster.enrolment sender (.ofMillis now)).batch roster.settings.replicaKey
  .reading now :: roster.bringing (ReplicaQueue.takers batch backend) batch

theorem bringing_of_writer {roster other : Roster} (writer : roster.writer = other.writer)
    (takes : WriterId → Bool) (batch : Batch) :
    roster.bringing takes batch = other.bringing takes batch := by
  rw [bringing, bringing, writer]

theorem add_traced {roster : Roster} {sender : Sender} (stranger : roster.has sender = false)
    (traced : Traced β) :
    roster.add sender traced = (roster.add sender traced.inner).recording
      (traced.trace ++ roster.adding sender traced.inner) := by
  cases read : Clock.now traced.inner with
  | mk now inner =>
      have noted : Clock.now traced = (now, traced.note (.reading now) inner) := by
        simp only [Clock.now, read]
      have kept : ∀ takes batch, (roster.enrol sender (.ofMillis now)).1.bringing takes batch =
          roster.bringing takes batch := bringing_of_writer enrol_writer
      simp only [add, stranger, Bool.false_eq_true, if_false, adding, read, noted, enrol_batch,
        persist_traced]
      simp [Traced.note, kept]

/-! A load reads the replica and may trim it, but makes none of the writes that a request does. -/

theorem trim_replica_traced (roster : Roster) (traced : Traced β) :
    ∃ effects, Quiet effects ∧ roster.trimReplica traced =
      ((roster.trimReplica traced.inner).1,
        ⟨(roster.trimReplica traced.inner).2, traced.trace ++ effects⟩) := by
  have count : (SortedSets.cardinality roster.settings.replicaKey traced).within
      roster.settings.storeTimeout .cardinality = _ :=
    Call.within_embed _ (traced.note (.cardinality roster.settings.replicaKey))
      roster.settings.storeTimeout .cardinality
  cases counted : (SortedSets.cardinality roster.settings.replicaKey traced.inner).within
      roster.settings.storeTimeout .cardinality with
  | mk total inner =>
      rw [counted] at count
      cases total with
      | error fault =>
          refine ⟨[.cardinality roster.settings.replicaKey], quiet_nil.cons rfl, ?_⟩
          simp only [trimReplica, count, counted]
          rfl
      | ok total =>
          simp only [trimReplica, count, counted]
          by_cases few : total ≤ roster.settings.capacity
          · refine ⟨[.cardinality roster.settings.replicaKey], quiet_nil.cons rfl, ?_⟩
            rw [if_pos few, if_pos few]
            rfl
          · have trim : (SortedSets.trimLowest roster.settings.replicaKey 0
                ((total - roster.settings.capacity).toInt64 - 1)
                (traced.note (.cardinality roster.settings.replicaKey) inner)).within
                roster.settings.storeTimeout .trim = _ :=
              Call.within_embed (SortedSets.trimLowest roster.settings.replicaKey 0
                ((total - roster.settings.capacity).toInt64 - 1) inner) _
                roster.settings.storeTimeout .trim
            refine ⟨[.cardinality roster.settings.replicaKey, .trim roster.settings.replicaKey 0
              ((total - roster.settings.capacity).toInt64 - 1)],
              (quiet_nil.cons rfl).cons rfl, ?_⟩
            rw [if_neg few, if_neg few, trim]
            cases (SortedSets.trimLowest roster.settings.replicaKey 0
                ((total - roster.settings.capacity).toInt64 - 1) inner).within
                roster.settings.storeTimeout .trim with
            | mk removed left => cases removed <;> simp [Traced.note]

theorem load_traced (roster : Roster) (traced : Traced β) :
    ∃ effects, Quiet effects ∧
      roster.load traced = (roster.load traced.inner).recording (traced.trace ++ effects) := by
  have range : (SortedSets.rangeDescending roster.settings.replicaKey 0
      (roster.settings.capacity.toInt64 - 1) traced).within
      roster.settings.storeTimeout .range = _ :=
    Call.within_embed _ (traced.note (.range roster.settings.replicaKey 0
      (roster.settings.capacity.toInt64 - 1))) roster.settings.storeTimeout .range
  cases answer : (SortedSets.rangeDescending roster.settings.replicaKey 0
      (roster.settings.capacity.toInt64 - 1) traced.inner).within
      roster.settings.storeTimeout .range with
  | mk result inner =>
      rw [answer] at range
      cases result with
      | error fault =>
          refine ⟨[.range roster.settings.replicaKey 0 (roster.settings.capacity.toInt64 - 1)],
            quiet_nil.cons rfl, ?_⟩
          rw [load_refused roster traced range, load_refused roster traced.inner answer]
          rfl
      | ok newestFirst =>
          obtain ⟨effects, quiet, trim⟩ := trim_replica_traced
            (roster.replace (newestFirst.take roster.settings.capacity.toNat).reverse)
            (traced.note (.range roster.settings.replicaKey 0
              (roster.settings.capacity.toInt64 - 1)) inner)
          refine ⟨.range roster.settings.replicaKey 0 (roster.settings.capacity.toInt64 - 1) ::
            effects, quiet.cons rfl, ?_⟩
          simp only [load, range, answer, trim]
          simp [Turn.recording, Traced.note]

end Roster

namespace Registrar

def registering (registrar : Registrar) (event : Event) (target : Target) (backend : β) :
    List Effect :=
  let (now, backend) := Clock.now backend
  let record := Record.ofEvent event target (secondOf now)
  .reading now :: .append registrar.streamKey record.fields ::
    registrar.roster.adding event.pubkey (registrar.appendRecord record backend).2

theorem append_record_traced (registrar : Registrar) (record : Record) (traced : Traced β) :
    registrar.appendRecord record traced =
      ((registrar.appendRecord record traced.inner).1,
        traced.note (.append registrar.streamKey record.fields)
          (registrar.appendRecord record traced.inner).2) :=
  Call.within_embed _ _ _ _

theorem register_traced {registrar : Registrar} {event : Event}
    (stranger : registrar.roster.has event.pubkey = false) (target : Target) (traced : Traced β) :
    registrar.register event target traced =
      (registrar.register event target traced.inner).recording
        (traced.trace ++ registrar.registering event target traced.inner) := by
  cases read : Clock.now traced.inner with
  | mk now inner =>
      have noted : Clock.now traced = (now, traced.note (.reading now) inner) := by
        simp only [Clock.now, read]
      simp only [register, registering, read, noted, append_record_traced,
        Roster.add_traced stranger]
      simp [Turn.recording, Traced.note]

def deciding (registrar : Registrar) (event : Event) (backend : β) : List Effect :=
  if registrar.roster.has event.pubkey ∨ event.kind ≠ optOutKind then []
  else match registrar.scope.target? event with
    | none => []
    | some target => registrar.registering event target backend

theorem decide_traced (registrar : Registrar) (event : Event) (traced : Traced β) :
    registrar.decide event traced = (registrar.decide event traced.inner).recording
      (traced.trace ++ registrar.deciding event traced.inner) := by
  cases known : registrar.roster.has event.pubkey with
  | true => simp [decide, deciding, known, Turn.recording]
  | false =>
      by_cases kind : event.kind = optOutKind
      · cases addressed : registrar.scope.target? event with
        | none => simp [decide, deciding, known, kind, addressed, Turn.recording]
        | some target =>
            have stranger : registrar.counted.roster.has event.pubkey = false := known
            have recorded := register_traced stranger target traced
            simp only [counted] at recorded
            simp only [decide, deciding, known, kind, addressed, recorded, Turn.recording]
            simp
            rfl
      · simp [decide, deciding, known, kind, Turn.recording]

/-- What a decision asks, given what is remembered and which writers take a batch. -/
structure Asks (registrar : Registrar) (event : Event) (takes : WriterId → Bool)
    (effects : List Effect) : Prop where
    nothing : registrar.roster.has event.pubkey = true ∨ ¬registrar.Qualifies event → effects = []
    request : registrar.roster.has event.pubkey = false → event.kind = optOutKind →
      ∀ target, registrar.scope.target? event = some target → ∃ first second batch,
        registrar.roster.Owes event.pubkey (.ofMillis second) batch ∧
        effects = .reading first ::
          .append registrar.streamKey (Record.ofEvent event target (secondOf first)).fields ::
            .reading second :: registrar.roster.bringing takes batch

/-- The batch that a request is owed, and the backend when it is brought to the replica. -/
def owed (registrar : Registrar) (event : Event) (target : Target) (backend : β) : Batch × β :=
  let (now, backend) := Clock.now backend
  let record := Record.ofEvent event target (secondOf now)
  let (now, backend) := Clock.now (registrar.appendRecord record backend).2
  ((registrar.roster.enrolment event.pubkey (.ofMillis now)).batch
    registrar.roster.settings.replicaKey, backend)

theorem Reachable.asks {registrar : Registrar} (reachable : registrar.Reachable) {event : Event}
    {backend : β} {takes : WriterId → Bool}
    (settled : ∀ target, registrar.scope.target? event = some target →
      ReplicaQueue.takers (registrar.owed event target backend).1
        (registrar.owed event target backend).2 = takes) :
    registrar.Asks event takes (registrar.deciding event backend) := by
  constructor
  · rintro (known | unqualified)
    · rw [deciding, if_pos (.inl known)]
    · rw [deciding]
      split
      · rfl
      · rename_i eligible
        rw [not_or, not_not] at eligible
        cases addressed : registrar.scope.target? event with
        | none => rfl
        | some target => exact absurd ⟨eligible.2, by rw [addressed]; rfl⟩ unqualified
  · intro stranger kind target addressed
    have coherent := reachable.coherent
    have asked : registrar.deciding event backend = registrar.registering event target backend := by
      rw [deciding, if_neg (by simp [stranger, kind]), addressed]
    rw [asked, ← settled target addressed]
    exact ⟨_, _, _,
      Roster.owes_enrolment coherent.bounded reachable.room_pos event.pubkey _, rfl⟩

theorem Reachable.asks_some {registrar : Registrar} (reachable : registrar.Reachable)
    (event : Event) (backend : β) :
    ∃ takes, registrar.Asks event takes (registrar.deciding event backend) := by
  cases addressed : registrar.scope.target? event with
  | none => exact ⟨fun _ => false, reachable.asks (by simp [addressed])⟩
  | some target =>
      let owed := registrar.owed event target backend
      refine ⟨ReplicaQueue.takers owed.1 owed.2, reachable.asks fun other also => ?_⟩
      rw [← Option.some.inj (addressed.symm.trans also)]

end Registrar

end OptOut
