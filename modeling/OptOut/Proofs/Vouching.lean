import OptOut.Proofs.Footprint
import OptOut.Proofs.Loading

/-!
# Who may come into the replica

Writers put in nobody but the members of the upserts that are pending with them, and whatever they
do, no write becomes pending that was not before. So if all members of the replica and of pending
upserts satisfy some property, they go on to do so, however the writers are run, stopped or lost.
-/

namespace OptOut

open Replica

/-- However a call ends, it has its effect on the contents or none. -/
theorem Memory.conclude_contents {α : Type} (memory : Memory)
    (refusal : Conditions → Option StoreFault) (effect : Contents → α × Contents) (limit : Millis)
    (operation : Operation) (expired : Bool) :
    let left := ((memory.call refusal effect).conclude limit operation expired).2
    left.contents = memory.contents ∨ left.contents = (effect memory.contents).2 := by
  cases refused : refusal memory.current with
  | some fault =>
      rw [call_refused effect refused]
      cases expired <;> exact .inl rfl
  | none =>
      rw [call_accepted effect refused]
      cases expired with
      | true => exact .inl rfl
      | false => exact .inr rfl

namespace Replica

def Touched (writes : List Write) (before after : Contents) : Prop :=
  after = before ∨ ∃ key, ∃ write ∈ writes, after = write.enact key before

theorem Touched.mono {writes more : List Write} {before after : Contents}
    (touched : Touched writes before after) (among : ∀ write ∈ writes, write ∈ more) :
    Touched more before after :=
  touched.imp_right fun ⟨key, write, held, effect⟩ => ⟨key, write, among write held, effect⟩

/-! ## Writers -/

namespace Writer

def pending (writer : Writer) : List Write :=
  (match writer.underway with
    | none => []
    | some underway => underway.write :: underway.later) ++ writer.queue.flatMap Batch.writes

variable {writer : Writer} {write : Write}

theorem pending_proceed (writer : Writer) (key : String) (flawed : Bool) (memory : Memory)
    (rest : List Write) :
    (writer.proceed key flawed memory rest).pending =
      rest ++ writer.queue.flatMap Batch.writes := by
  cases rest with
  | cons write later => rfl
  | nil => cases flawed <;> rfl

theorem pending_pass (writer : Writer) (time : Nat) :
    (writer.pass time).pending = writer.pending := by
  cases busy : writer.underway <;> simp [pending, pass, busy]

theorem pending_enqueue (batch : Batch) (pends : write ∈ (writer.enqueue batch).2.pending) :
    write ∈ batch.writes ∨ write ∈ writer.pending := by
  cases running : writer.running with
  | false => exact .inr (by simpa [enqueue, running] using pends)
  | true =>
      simp only [enqueue, running, if_true, pending, List.flatMap_append,
        ← List.append_assoc] at pends
      exact (List.mem_append.1 pends).symm.imp_left fun own => by simpa using own

/-- A write that is underway ends with its effect on the contents, or with none. -/
theorem conclude_touches (underway : Underway) (limit : Millis) (memory : Memory) :
    Touched [underway.write] memory.contents (underway.conclude limit memory).2.contents := by
  obtain ⟨key, write, later, flawed, remaining, expires⟩ := underway
  cases write with
  | upsert member score =>
      have ended := memory.conclude_contents Conditions.sortedSetRefusal
        (fun contents => ((), contents.upsert key score member)) limit .upsert expires
      exact ended.imp_right fun effect => ⟨key, _, List.mem_singleton_self _, effect⟩
  | remove member =>
      have ended := memory.conclude_contents Conditions.sortedSetRefusal
        (fun contents => ((), contents.remove key member)) limit .remove expires
      exact ended.imp_right fun effect => ⟨key, _, List.mem_singleton_self _, effect⟩

theorem step_touches (writer : Writer) (memory : Memory) :
    let turn := writer.step memory
    (∀ write ∈ turn.1.pending, write ∈ writer.pending) ∧
      Touched writer.pending memory.contents turn.2.1.contents := by
  cases busy : writer.underway with
  | some underway =>
      have pending : writer.pending =
          underway.write :: (underway.later ++ writer.queue.flatMap Batch.writes) := by
        simp [Writer.pending, busy]
      have touched : Touched writer.pending memory.contents
          (underway.conclude writer.limit memory).2.contents := by
        refine (conclude_touches underway writer.limit memory).mono fun write held => ?_
        rw [List.mem_singleton.1 held, pending]
        exact List.mem_cons_self
      cases ended : underway.conclude writer.limit memory with
      | mk result left =>
          rw [ended] at touched
          cases result <;> simp only [step, busy, ended, pending_proceed] <;>
            exact ⟨fun write held => pending ▸ List.mem_cons_of_mem _ held, touched⟩
  | none =>
      cases queued : writer.queue with
      | nil =>
          have still : writer.step memory = (writer, memory, []) := by
            simp only [step, busy, queued]
          rw [still]
          exact ⟨fun _ held => held, .inl rfl⟩
      | cons batch rest =>
          have taken : writer.step memory =
              ({ writer with queue := rest }.proceed batch.key false memory batch.writes, memory,
                []) := by
            simp only [step, busy, queued]
          rw [taken]
          refine ⟨fun write held => ?_, .inl rfl⟩
          rw [pending_proceed] at held
          simpa [Writer.pending, busy, queued] using held

end Writer

/-! ## Crews -/

namespace Crew

def pending (crew : Crew) : List Write :=
  crew.writers.flatMap (·.2.pending)

variable {crew : Crew} {id : WriterId} {writer : Writer} {write : Write}

theorem mem_pending : write ∈ crew.pending ↔ ∃ entry ∈ crew.writers, write ∈ entry.2.pending :=
  List.mem_flatMap

theorem pending_find (found : crew.find? id = some writer) (pends : write ∈ writer.pending) :
    write ∈ crew.pending := by
  obtain ⟨before, after, split, _⟩ := List.lookup_eq_some_iff.1 found
  refine mem_pending.2 ⟨(id, writer), ?_, pends⟩
  rw [split]
  exact List.mem_append_right _ List.mem_cons_self

theorem pending_put (pends : write ∈ (crew.put id writer).pending) :
    write ∈ writer.pending ∨ write ∈ crew.pending := by
  obtain ⟨_, changed, pends⟩ := mem_pending.1 pends
  obtain ⟨⟨other, old⟩, held, rfl⟩ := List.mem_map.1 changed
  by_cases own : other = id
  · simp only [own, if_true] at pends
    exact .inl pends
  · simp only [own, if_false] at pends
    exact .inr (mem_pending.2 ⟨(other, old), held, pends⟩)

theorem pending_sub {other : Crew} (sub : ∀ entry ∈ other.writers, entry ∈ crew.writers)
    (pends : write ∈ other.pending) : write ∈ crew.pending := by
  obtain ⟨entry, held, pends⟩ := mem_pending.1 pends
  exact mem_pending.2 ⟨entry, sub entry held, pends⟩

theorem pending_postpone (pends : write ∈ (crew.postpone id).pending) : write ∈ crew.pending := by
  refine pending_sub (fun entry held => ?_) pends
  rcases List.mem_append.1 held with held | held
  · exact (List.mem_filter.1 held).1
  · exact (List.mem_filter.1 held).1

theorem pending_dismiss (pends : write ∈ (crew.dismiss id).pending) : write ∈ crew.pending :=
  pending_sub (fun _ held => (List.mem_filter.1 held).1) pends

theorem pending_enqueue (batch : Batch) (pends : write ∈ (crew.enqueue id batch).2.pending) :
    write ∈ batch.writes ∨ write ∈ crew.pending := by
  cases found : crew.find? id with
  | none =>
      simp only [enqueue, found] at pends
      exact .inr pends
  | some writer =>
      have put : write ∈ (crew.put id (writer.enqueue batch).2).pending := by
        simp only [enqueue, found] at pends
        split at pends
        · exact pends
        · exact pending_postpone pends
      rcases pending_put put with own | held
      · exact (Writer.pending_enqueue batch own).imp_right (pending_find found)
      · exact .inr held

theorem pending_stop (pends : write ∈ (crew.stop id).2.pending) : write ∈ crew.pending := by
  cases found : crew.find? id with
  | none =>
      simp only [stop, found] at pends
      exact pends
  | some writer =>
      simp only [stop, found] at pends
      exact (pending_put pends).resolve_left List.not_mem_nil

theorem pending_hire (crew : Crew) (limit : Millis) :
    (crew.hire limit).2.pending = crew.pending := by
  simp [pending, hire, Writer.pending]

theorem pending_pass (crew : Crew) (time : Nat) : (crew.pass time).pending = crew.pending := by
  simp [pending, pass, List.flatMap_map, Writer.pending_pass]

theorem pending_settle (crew : Crew) : crew.settle.pending = crew.pending := by
  simp only [pending, settle, List.flatMap_map]
  rfl

theorem act_touches (crew : Crew) (id : WriterId) (memory : Memory) :
    let turn := crew.act id memory
    (∀ write ∈ turn.1.pending, write ∈ crew.pending) ∧
      Touched crew.pending memory.contents turn.2.1.contents := by
  cases found : crew.find? id with
  | none =>
      have idle : crew.act id memory = (crew, memory, []) := by
        simp only [act, found]
      rw [idle]
      exact ⟨fun _ held => held, .inl rfl⟩
  | some writer =>
      obtain ⟨fewer, touched⟩ := writer.step_touches memory
      simp only [act, found]
      constructor
      · intro write held
        -- Giving up a turn moves a writer, and what is pending with it.
        have put : write ∈ (crew.put id (writer.step memory).1).pending := by
          split at held
          · exact pending_postpone held
          · exact held
        exact (pending_put put).elim (fun own => pending_find found (fewer write own))
          fun held => held
      · exact touched.mono fun write pends => pending_find found pends

/-- All that is in a set or may be put there by the writers satisfies `known`. -/
structure Vouched (known : Sender → Prop) (key : String) (crew : Crew) (memory : Memory) :
    Prop where
    members : ∀ sender ∈ (memory.contents.set key).members, known sender
    pending : ∀ write ∈ crew.pending, write.Vouched known

variable {known wider : Sender → Prop} {key : String} {memory : Memory}

theorem Vouched.mono (vouched : Vouched known key crew memory)
    (widen : ∀ sender, known sender → wider sender) : Vouched wider key crew memory := by
  refine ⟨fun sender held => widen sender (vouched.members sender held), fun write pends => ?_⟩
  cases write with
  | upsert member score => exact widen member (vouched.pending _ pends)
  | remove member => trivial

theorem Vouched.fewer (vouched : Vouched known key crew memory) {other : Crew}
    (fewer : ∀ write ∈ other.pending, write ∈ crew.pending) : Vouched known key other memory :=
  ⟨vouched.members, fun write pends => vouched.pending write (fewer write pends)⟩

theorem Vouched.pass (vouched : Vouched known key crew memory) (time : Nat) :
    Vouched known key (crew.pass time) memory :=
  vouched.fewer fun write pends => by rwa [pending_pass] at pends

theorem Vouched.settle (vouched : Vouched known key crew memory) :
    Vouched known key crew.settle memory :=
  vouched.fewer fun write pends => by rwa [pending_settle] at pends

theorem Vouched.hire (vouched : Vouched known key crew memory) (limit : Millis) :
    Vouched known key (crew.hire limit).2 memory :=
  vouched.fewer fun write pends => by rwa [pending_hire] at pends

theorem Vouched.dismiss (vouched : Vouched known key crew memory) (id : WriterId) :
    Vouched known key (crew.dismiss id) memory :=
  vouched.fewer fun _ => pending_dismiss

theorem Vouched.stop (vouched : Vouched known key crew memory) (id : WriterId) :
    Vouched known key (crew.stop id).2 memory :=
  vouched.fewer fun _ => pending_stop

theorem Vouched.act (vouched : Vouched known key crew memory) (id : WriterId) :
    Vouched known key (crew.act id memory).1 (crew.act id memory).2.1 := by
  obtain ⟨fewer, touched⟩ := crew.act_touches id memory
  refine ⟨fun sender held => ?_, fun write pends => vouched.pending write (fewer write pends)⟩
  rcases touched with same | ⟨other, write, pends, effect⟩
  · rw [same] at held
    exact vouched.members sender held
  · rw [effect] at held
    exact (write.mem_enact (vouched.pending write pends) held).elim (fun known => known)
      (vouched.members sender)

theorem Vouched.run (vouched : Vouched known key crew memory) (target : Option WriterId)
    (time : Option Nat) :
    Vouched known key (crew.run target time memory).1 (crew.run target time memory).2.1 :=
  run_keeps (fun _ _ id kept => kept.act id) (fun _ _ time kept => kept.pass time)
    (fun _ _ kept => kept.settle) target time vouched

end Crew

end Replica

/-! ## Deployments -/

def Deployment.Vouched (known : Sender → Prop) (key : String) (deployment : Deployment) : Prop :=
  deployment.crew.Vouched known key deployment.memory

variable {known : Sender → Prop} {key : String} {deployment : Deployment}

theorem Roster.add_vouched (vouched : deployment.Vouched known key) (roster : Roster)
    {sender : Sender} (own : known sender) :
    (roster.add sender deployment).backend.Vouched known key := by
  cases member : roster.has sender with
  | true =>
      rw [add_member member]
      exact vouched
  | false =>
      obtain ⟨crew, memory, _⟩ := add_persists member deployment
      let batch := (roster.enrolment sender (.ofMillis deployment.clock.current)).batch
        roster.settings.replicaKey
      have writes : ∀ write ∈ batch.writes, write.Vouched known := by
        intro write held
        rcases List.mem_cons.1 held with rfl | held
        · exact own
        · obtain ⟨oldest, _, rfl⟩ := List.mem_map.1 held
          trivial
      constructor
      · rcases memory with same | ⟨limit, written⟩
        · rw [same]
          exact vouched.members
        · rw [written]
          refine apply_writes_keep
            (fun contents => ∀ sender ∈ (contents.set key).members, known sender)
            (fun write held contents members sender among => ?_) limit vouched.members
          exact (write.mem_enact (writes write held) among).elim (fun known => known)
            (members sender)
      · intro write pends
        rcases crew with same | ⟨id, queued⟩
        · rw [same] at pends
          exact vouched.pending write pends
        · rw [queued] at pends
          exact (Crew.pending_enqueue batch pends).elim (writes write) (vouched.pending write)

namespace Registrar

variable {event : Event} {target : Target}

theorem Recorded.sets {registrar : Registrar} {streamId : Option String} {between : Deployment}
    {turn : Turn Outcome Registrar Deployment}
    (recorded : registrar.Recorded event target deployment streamId between turn) :
    between.memory.contents.sets = deployment.memory.contents.sets := by
  cases entered : streamId with
  | none => rw [recorded.missed entered]
  | some id =>
      have append := congrArg Prod.snd (recorded.entered id entered)
      rw [show between.memory.contents = _ from append]
      rfl

/-- A decision vouches for the sender of a request that it records, and for nobody else. -/
theorem decide_vouched (vouched : deployment.Vouched known key) (registrar : Registrar)
    (event : Event)
    (asked : (registrar.decide event deployment).answer.outcome.isRegistered = true →
      known event.pubkey) :
    (registrar.decide event deployment).backend.Vouched known key := by
  rcases registrar.decide_cases event deployment with ⟨_, turn⟩ | ⟨_, _, _, _, turn⟩ |
    ⟨_, _, target, _, turn⟩
  · rw [turn]
    exact vouched
  · rw [turn]
    exact vouched
  · obtain ⟨streamId, between, recorded⟩ :=
      register_records registrar.counted event target deployment
    obtain ⟨replicated, answer⟩ := recorded.answer
    have own : known event.pubkey := by
      apply asked
      rw [turn, answer]
      rfl
    have unchanged : between.Vouched known key := by
      constructor
      · have same : between.memory.contents.set key = deployment.memory.contents.set key := by
          rw [Contents.set, recorded.sets, Contents.set]
        rw [same]
        exact vouched.members
      · rw [recorded.crew]
        exact vouched.pending
    rw [turn, recorded.backend]
    exact Roster.add_vouched unchanged _ own

theorem load_vouched {registrar : Registrar}
    (vouched : deployment.Vouched known registrar.roster.settings.replicaKey)
    (order : ∀ sender ∈ registrar.roster.order, known sender) :
    (registrar.load deployment).backend.Vouched known registrar.roster.settings.replicaKey ∧
      ∀ sender ∈ (registrar.load deployment).state.roster.order, known sender := by
  have drawn := registrar.roster.load_draws deployment.memory
  have load := registrar.roster.load_deployment deployment
  rw [Registrar.load, load]
  refine ⟨⟨fun sender held => vouched.members sender (drawn.members _ sender held),
    vouched.pending⟩, fun sender held => ?_⟩
  exact (drawn.order sender held).elim (order sender) (vouched.members sender)

end Registrar

end OptOut
