import OptOut.Proofs.Life
import OptOut.Proofs.Registrar
import OptOut.Proofs.SortedSet

/-!
# What a step touches

Of all that a store in memory holds, a write touches one member of one sorted set, a load takes
members out of one, and an append adds to the end of one stream. What an addition or a decision does
to a deployment is put together from these.
-/

namespace OptOut

open Replica

/-! ## Contents -/

namespace SortedSet

variable {set : SortedSet} {sender member : Sender}

theorem mem_members_erase :
    sender ∈ (set.erase member).members ↔ sender ∈ set.members ∧ sender ≠ member := by
  rw [members_erase, List.mem_filter, decide_eq_true_iff]

theorem mem_members_insert {score : Score} :
    sender ∈ (set.insert score member).members ↔ sender = member ∨ sender ∈ set.members := by
  have perm := (ScoredMember.place_perm ⟨score, member⟩ (set.erase member).entries).map
    ScoredMember.member
  have same : sender ∈ (set.insert score member).members ↔
      sender = member ∨ sender ∈ (set.erase member).members := by
    rw [members, insert, perm.mem_iff, List.map_cons, List.mem_cons]
    rfl
  rw [same, mem_members_erase]
  by_cases own : sender = member <;> simp [own]

theorem mem_of_mem_erase_range {first last : Nat}
    (held : sender ∈ (set.eraseRange first last).members) : sender ∈ set.members := by
  obtain ⟨entry, kept, rfl⟩ := List.mem_map.1 held
  refine List.mem_map_of_mem ?_
  rcases List.mem_append.1 kept with kept | kept
  · exact List.mem_of_mem_take kept
  · exact List.mem_of_mem_drop kept

theorem mem_of_mem_descending {first last : Nat} (held : sender ∈ set.descending first last) :
    sender ∈ set.members :=
  List.mem_reverse.1 (List.mem_of_mem_take (List.mem_of_mem_drop held))

end SortedSet

namespace Contents

variable {contents : Contents} {key other : String} {sender : Sender}

theorem set_put_set_other (apart : key ≠ other) (contents : Contents) (set : SortedSet) :
    (contents.putSet key set).set other = contents.set other := by
  rw [Contents.set, putSet, Std.TreeMap.getD_insert, if_neg (by simpa using apart)]
  rfl

theorem mem_put_set {set : SortedSet}
    (own : ∀ other ∈ set.members, other ∈ (contents.set key).members)
    (held : sender ∈ ((contents.putSet key set).set other).members) :
    sender ∈ (contents.set other).members := by
  by_cases same : key = other
  · subst same
    rw [set_put_set] at held
    exact own sender held
  · rwa [set_put_set_other same] at held

theorem mem_of_mem_range {start stop : Int64}
    (held : sender ∈ contents.rangeDescending key start stop) :
    sender ∈ (contents.set key).members := by
  simp only [rangeDescending] at held
  split at held
  · exact SortedSet.mem_of_mem_descending held
  · exact absurd held List.not_mem_nil

theorem mem_of_mem_trim {start stop : Int64}
    (held : sender ∈ ((contents.trimLowest key start stop).2.set other).members) :
    sender ∈ (contents.set other).members := by
  simp only [trimLowest] at held
  split at held
  · exact mem_put_set (fun _ => SortedSet.mem_of_mem_erase_range) held
  · exact held

theorem streams_trim (contents : Contents) (key : String) (start stop : Int64) :
    (contents.trimLowest key start stop).2.streams = contents.streams := by
  simp only [trimLowest]
  split <;> rfl

theorem stream_append (contents : Contents) (key : String) (fields : List Field) :
    (contents.append key fields).2.stream key =
      contents.stream key ++ [⟨(contents.append key fields).1, fields⟩] := by
  simp [append, stream, Std.TreeMap.getD_insert_self]

end Contents

namespace Replica

def Write.Vouched (known : Sender → Prop) : Write → Prop
  | upsert member _ => known member
  | remove _ => True

theorem Write.mem_enact {known : Sender → Prop} {write : Write} (vouched : write.Vouched known)
    {key other : String} {contents : Contents} {sender : Sender}
    (held : sender ∈ ((write.enact key contents).set other).members) :
    known sender ∨ sender ∈ (contents.set other).members := by
  by_cases same : key = other
  · subst same
    rw [set_enact] at held
    cases write with
    | upsert member score =>
        rcases SortedSet.mem_members_insert.1 held with rfl | held
        · exact .inl vouched
        · exact .inr held
    | remove member => exact .inr (SortedSet.mem_members_erase.1 held).1
  · right
    cases write with
    | upsert member score =>
        rwa [enact, Contents.upsert, Contents.set_count_write, Contents.seed,
          Contents.set_put_set_other same] at held
    | remove member =>
        simp only [enact, Contents.remove] at held
        split at held
        · rwa [Contents.set_put_set_other same] at held
        · exact held

theorem Write.streams_enact (write : Write) (key : String) (contents : Contents) :
    (write.enact key contents).streams = contents.streams := by
  cases write with
  | upsert member score => rfl
  | remove member =>
      simp only [enact, Contents.remove]
      split <;> rfl

/-- What every one of some writes keeps is kept by all of them, whichever take effect. -/
theorem apply_writes_keep (holds : Contents → Prop) {key : String} {writes : List Write}
    (keep : ∀ write ∈ writes, ∀ contents, holds contents → holds (write.enact key contents))
    (limit : Millis) {memory : Memory} (start : holds memory.contents) :
    holds (applyWrites key limit writes memory).2.contents := by
  induction writes generalizing memory with
  | nil => exact start
  | cons write rest induction =>
      have later := fun other held => keep other (List.mem_cons_of_mem write held)
      cases lands : memory.lands limit memory.calls with
      | true =>
          simp only [applyWrites, Write.apply_landing lands key write]
          exact induction later (keep write List.mem_cons_self _ start)
      | false =>
          obtain ⟨fault, failed⟩ := Write.apply_failing lands key write
          simp only [applyWrites, failed]
          exact induction later start

end Replica

/-! ## Loading -/

namespace Roster

theorem trim_replica_contents (roster : Roster) (memory : Memory) :
    (roster.trimReplica memory).2.contents = memory.contents ∨
      ∃ stop, (roster.trimReplica memory).2.contents =
        (memory.contents.trimLowest roster.settings.replicaKey 0 stop).2 := by
  rcases memory.cardinality_cases roster.settings.replicaKey roster.settings.storeTimeout with
    ⟨fault, uncounted⟩ | counted
  · simp only [trimReplica, uncounted]
    exact .inl rfl
  simp only [trimReplica, counted]
  split
  · exact .inl rfl
  · rcases memory.skip.trim_cases roster.settings.replicaKey 0
        ((UInt64.ofNat (memory.contents.set roster.settings.replicaKey).size -
          roster.settings.capacity).toInt64 - 1) roster.settings.storeTimeout with
      ⟨fault, untrimmed⟩ | trimmed
    · rw [untrimmed]
      exact .inl rfl
    · rw [trimmed]
      exact .inr ⟨_, rfl⟩

/-- What a load may do, however little of the store answers. -/
structure Drawn (roster : Roster) (memory : Memory)
    (turn : Turn (Except RosterFault Nat) Roster Memory) : Prop where
    order : ∀ sender ∈ turn.state.order,
      sender ∈ roster.order ∨ sender ∈ (memory.contents.set roster.settings.replicaKey).members
    members : ∀ key, ∀ sender ∈ (turn.backend.contents.set key).members,
      sender ∈ (memory.contents.set key).members
    streams : turn.backend.contents.streams = memory.contents.streams
    log : ∀ entry ∈ turn.log, entry.level = .warn

theorem load_draws (roster : Roster) (memory : Memory) :
    roster.Drawn memory (roster.load memory) := by
  rcases memory.range_cases roster.settings.replicaKey 0 (roster.settings.capacity.toInt64 - 1)
      roster.settings.storeTimeout with ⟨fault, refused⟩ | answered
  · rw [load_refused roster memory refused]
    exact ⟨fun _ => .inl, fun _ _ held => held, rfl, by simp⟩
  · obtain ⟨_, state, backend, _⟩ := load_answered roster memory answered
    have contents := trim_replica_contents (roster.replace ((memory.contents.rangeDescending
      roster.settings.replicaKey 0 (roster.settings.capacity.toInt64 - 1)).take
        roster.room).reverse) memory.skip
    rw [← backend] at contents
    refine ⟨?_, ?_, ?_, ?_⟩
    · intro sender held
      rw [state] at held
      have ranged := List.mem_of_mem_take (List.mem_reverse.1 ((mem_replace _).1 held))
      exact .inr (Contents.mem_of_mem_range ranged)
    · intro key sender held
      rcases contents with same | ⟨stop, trimmed⟩
      · rwa [same] at held
      · rw [trimmed] at held
        exact Contents.mem_of_mem_trim held
    · rcases contents with same | ⟨stop, trimmed⟩
      · rw [same]
        rfl
      · rw [trimmed]
        exact Contents.streams_trim _ _ _ _
    · intro entry logged
      simp only [load, answered] at logged
      split at logged
      · exact absurd logged List.not_mem_nil
      · rw [List.mem_singleton.1 logged]
        rfl

/-! ## Additions -/

structure Persisted (batch : Batch) (before after : Deployment) (log : List Log.Entry) : Prop where
    crew : after.crew = before.crew ∨ ∃ id, after.crew = (before.crew.enqueue id batch).2
    memory : after.memory = before.memory ∨ ∃ limit,
      after.memory = (applyWrites batch.key limit batch.writes before.memory).2
    log : ∀ entry ∈ log, entry.level = .warn

theorem write_inline_persists (roster : Roster) (batch : Batch) (deployment : Deployment) :
    let turn := roster.writeInline batch deployment
    turn.backend = deployment.withMemory
        (applyWrites batch.key roster.settings.storeTimeout batch.writes deployment.memory).2 ∧
      turn.log = (applyWrites batch.key roster.settings.storeTimeout batch.writes
        deployment.memory).1.map .writeFailed := by
  simp only [writeInline, Batch.apply, Deployment.apply_writes]
  split <;> exact ⟨rfl, rfl⟩

theorem persist_crew (roster : Roster) (batch : Batch) (deployment : Deployment) :
    (roster.persist batch deployment).backend.crew = match roster.writer with
      | none => deployment.crew
      | some id => (deployment.crew.enqueue id batch).2 := by
  have inline : ∀ deployment : Deployment,
      (roster.writeInline batch deployment).backend.crew = deployment.crew := by
    intro deployment
    rw [(roster.write_inline_persists batch deployment).1]
    rfl
  cases employed : roster.writer with
  | none =>
      simp only [persist, employed]
      exact inline deployment
  | some id =>
      have handed : ReplicaQueue.enqueue id batch deployment =
          ((deployment.crew.enqueue id batch).1,
            { deployment with crew := (deployment.crew.enqueue id batch).2 }) := rfl
      cases taken : (deployment.crew.enqueue id batch).1 with
      | true =>
          rw [taken] at handed
          simp only [persist, employed, handed]
      | false =>
          rw [taken] at handed
          simp only [persist, employed, handed]
          exact inline _

theorem persists (roster : Roster) (batch : Batch) (deployment : Deployment) :
    Persisted batch deployment (roster.persist batch deployment).backend
      (roster.persist batch deployment).log := by
  have inline : ∀ deployment : Deployment,
      Persisted batch deployment (roster.writeInline batch deployment).backend
        (roster.writeInline batch deployment).log := by
    intro deployment
    obtain ⟨backend, log⟩ := roster.write_inline_persists batch deployment
    rw [backend, log]
    refine ⟨.inl rfl, .inr ⟨_, rfl⟩, ?_⟩
    intro entry logged
    obtain ⟨failure, _, rfl⟩ := List.mem_map.1 logged
    rfl
  cases employed : roster.writer with
  | none =>
      simp only [persist, employed]
      exact inline deployment
  | some id =>
      have handed : ReplicaQueue.enqueue id batch deployment =
          ((deployment.crew.enqueue id batch).1,
            { deployment with crew := (deployment.crew.enqueue id batch).2 }) := rfl
      cases taken : (deployment.crew.enqueue id batch).1 with
      | true =>
          rw [taken] at handed
          simp only [persist, employed, handed]
          exact ⟨.inr ⟨id, rfl⟩, .inl rfl, by simp⟩
      | false =>
          -- The writer has stopped, and the batch is written inline after all.
          rw [taken] at handed
          have crew := roster.persist_crew batch deployment
          obtain ⟨_, memory, log⟩ :=
            inline { deployment with crew := (deployment.crew.enqueue id batch).2 }
          simp only [persist, employed, handed] at crew ⊢
          refine ⟨.inr ⟨id, crew⟩, memory, ?_⟩
          intro entry logged
          rcases List.mem_cons.1 logged with rfl | logged
          · rfl
          · exact log entry logged

theorem add_stranger_turn {roster : Roster} {sender : Sender}
    (stranger : roster.has sender = false) (deployment : Deployment) :
    let score := Score.ofMillis deployment.clock.current
    roster.add sender deployment = (roster.enrol sender score).1.persist
      ((roster.enrolment sender score).batch roster.settings.replicaKey) deployment.ticked := by
  simp only [add, stranger, Bool.false_eq_true, if_false, ← enrol_batch]
  rfl

theorem add_persists {roster : Roster} {sender : Sender} (stranger : roster.has sender = false)
    (deployment : Deployment) :
    let turn := roster.add sender deployment
    Persisted ((roster.enrolment sender (.ofMillis deployment.clock.current)).batch
      roster.settings.replicaKey) deployment.ticked turn.backend turn.log := by
  intro turn
  rw [show turn = _ from add_stranger_turn stranger deployment]
  exact persists _ _ _

theorem add_streams (roster : Roster) (sender : Sender) (deployment : Deployment) :
    (roster.add sender deployment).backend.memory.contents.streams =
      deployment.memory.contents.streams := by
  cases known : roster.has sender with
  | true => rw [Roster.add_member known]
  | false =>
      rcases (add_persists known deployment).memory with same | ⟨limit, written⟩
      · rw [same]
        rfl
      · rw [written]
        exact apply_writes_keep (fun contents => contents.streams = _)
          (fun write _ contents same => (write.streams_enact _ contents).trans same) limit rfl

theorem add_additions {roster : Roster} {sender : Sender} (stranger : roster.has sender = false)
    (deployment : Deployment) :
    (roster.add sender deployment).state.additions = roster.additions + 1 := by
  obtain ⟨failures, state⟩ := add_stranger_state stranger ⟨0⟩ deployment
  obtain ⟨oldest, rest, joined⟩ := exists_oldest roster.order sender
  rw [state]
  by_cases free : roster.order.length < roster.room
  · rw [enrol_with_room free]
  · rw [enrol_when_full (Nat.le_of_not_lt free) joined]

end Roster

/-! ## Requests to vanish -/

namespace Log

def errors (log : List Entry) : List Entry :=
  log.filter (·.level = .error)

theorem errors_append (log later : List Entry) :
    errors (log ++ later) = errors log ++ errors later :=
  List.filter_append ..

theorem errors_of_warnings {log : List Entry} (warnings : ∀ entry ∈ log, entry.level = .warn) :
    errors log = [] := by
  rw [errors, List.filter_eq_nil_iff]
  intro entry logged
  simp [warnings entry logged]

end Log

namespace Registrar

def recordAt (event : Event) (target : Target) (moment : Millis) : Record :=
  .ofEvent event target (secondOf moment)

/-- A request that is recorded: between its entry and the addition of its sender, the deployment is
`between`. -/
structure Recorded (registrar : Registrar) (event : Event) (target : Target)
    (deployment : Deployment) (streamId : Option String) (between : Deployment)
    (turn : Turn Outcome Registrar Deployment) : Prop where
    answer : ∃ replicated, turn.answer = .registered target streamId replicated
    state : turn.state = { registrar with
      roster := (registrar.roster.add event.pubkey between).state
      appendFailures := registrar.appendFailures + streamId.isNone.toNat
      registrations := registrar.registrations + 1 }
    backend : turn.backend = (registrar.roster.add event.pubkey between).backend
    crew : between.crew = deployment.crew
    entered : ∀ id, streamId = some id → (id, between.memory.contents) =
      deployment.memory.contents.append registrar.streamKey
        (recordAt event target deployment.clock.current).fields
    missed : streamId = none → between.memory.contents = deployment.memory.contents
    errors : ∃ fault, Log.errors turn.log =
      if streamId.isNone then [.appendFailed event fault] else []

theorem add_warns (roster : Roster) (sender : Sender) (deployment : Deployment) :
    ∀ entry ∈ (roster.add sender deployment).log, entry.level = .warn := by
  cases known : roster.has sender with
  | true =>
      rw [Roster.add_member known]
      simp
  | false => exact (Roster.add_persists known deployment).log

/-- An append is refused or too late, or the entry is there. -/
theorem append_record_cases (registrar : Registrar) (record : Record) (deployment : Deployment) :
    (∃ fault, registrar.appendRecord record deployment =
        (.error fault, deployment.withMemory deployment.memory.skip)) ∨
      registrar.appendRecord record deployment =
        (.ok (deployment.memory.contents.append registrar.streamKey record.fields).1,
          deployment.withMemory { deployment.memory.skip with contents :=
            (deployment.memory.contents.append registrar.streamKey record.fields).2 }) := by
  have append : registrar.appendRecord record deployment = _ :=
    Call.within_embed (Streams.append registrar.streamKey record.fields deployment.memory)
      deployment.withMemory registrar.appendTimeout .append
  rcases deployment.memory.call_cases Conditions.streamRefusal registrar.appendTimeout
      (fun contents => contents.append registrar.streamKey record.fields) .append with
    ⟨fault, failed⟩ | served
  · have refused : (Streams.append registrar.streamKey record.fields deployment.memory).within
        registrar.appendTimeout .append = (.error fault, deployment.memory.skip) := failed
    rw [refused] at append
    exact .inl ⟨fault, append⟩
  · have entered : (Streams.append registrar.streamKey record.fields deployment.memory).within
        registrar.appendTimeout .append = _ := served
    rw [entered] at append
    exact .inr append

def lossOf (event : Event) : Except StoreFault String → List Log.Entry
  | .ok _ => []
  | .error error => [.appendFailed event error]

theorem register_turn {registrar : Registrar} {event : Event} {target : Target}
    {deployment left : Deployment} {appended : Except StoreFault String}
    (append : registrar.appendRecord (recordAt event target deployment.clock.current)
      deployment.ticked = (appended, left)) :
    let turn := registrar.register event target deployment
    let added := registrar.roster.add event.pubkey left
    (∃ replicated, turn.answer = .registered target appended.toOption replicated) ∧
      turn.state = { registrar with
        roster := added.state
        appendFailures := registrar.appendFailures + appended.toOption.isNone.toNat
        registrations := registrar.registrations + 1 } ∧
      turn.backend = added.backend ∧ Log.errors turn.log = lossOf event appended := by
  have now : Clock.now deployment = (deployment.clock.current, deployment.ticked) := rfl
  have warnings := Log.errors_of_warnings (add_warns registrar.roster event.pubkey left)
  rw [recordAt] at append
  cases appended <;> cases answer : (registrar.roster.add event.pubkey left).answer <;>
    simp only [register, now, append, answer, Log.errors_append, warnings, List.append_nil] <;>
    exact ⟨⟨_, rfl⟩, rfl, trivial, rfl⟩

theorem register_records (registrar : Registrar) (event : Event) (target : Target)
    (deployment : Deployment) :
    ∃ streamId between, registrar.Recorded event target deployment streamId between
      (registrar.register event target deployment) := by
  rcases registrar.append_record_cases (recordAt event target deployment.clock.current)
      deployment.ticked with ⟨fault, failed⟩ | entered
  · obtain ⟨answer, state, backend, errors⟩ := register_turn failed
    exact ⟨none, _, answer, state, backend, rfl, by simp, fun _ => rfl, fault, errors⟩
  · obtain ⟨answer, state, backend, errors⟩ := register_turn entered
    refine ⟨_, _, answer, state, backend, rfl, ?_, by simp [Except.toOption], .unavailable "",
      errors⟩
    intro id own
    rw [← Option.some.inj own]
    rfl

end Registrar

end OptOut
