import OptOut.Proofs.Life

/-!
# Writing behind and writing at once

A roster may write its replica at once or hand its batches to a writer that works them off whenever
it gets to run. Both bring the replica to the same contents: between two batches of the writer, the
replica is what writing at once would have made of a beginning of the same additions, and once the
queue is worked off, of all of them. A roster whose writer has stopped writes at once again.
-/

namespace OptOut

open Replica

/-! ## Batches that are written at once -/

namespace Roster

theorem write_inline_life (roster : Roster) (batch : Batch) (deployment : Deployment) :
    Life.ofTurn (roster.writeInline batch deployment) =
      { roster := { roster with inlineFailures := roster.inlineFailures +
          (flawed (deployment.memory.lands roster.settings.storeTimeout) deployment.memory.calls
            batch.writes).toNat }
        deployment := deployment.withMemory (applyWrites batch.key roster.settings.storeTimeout
          batch.writes deployment.memory).2 } := by
  obtain ⟨_, flaws⟩ := apply_writes_replay batch.key roster.settings.storeTimeout batch.writes
    deployment.memory
  simp only [writeInline, Batch.apply, Deployment.apply_writes]
  cases failures : (applyWrites batch.key roster.settings.storeTimeout batch.writes
      deployment.memory).1 with
  | nil =>
      rw [flaws.1 failures]
      rfl
  | cons first others =>
      have flaw : flawed (deployment.memory.lands roster.settings.storeTimeout)
          deployment.memory.calls batch.writes = true := by
        rw [← Bool.not_eq_false, ← flaws, failures]
        simp
      rw [flaw]
      rfl

end Roster

/-- A writer that takes no batches any more and has none left, with what it did until then. -/
structure Replica.Writer.Stopped (tally : WriterTally) (writer : Writer) : Prop where
    running : writer.running = false
    queue : writer.queue = []
    underway : writer.underway = none
    tally : writer.report = tally

theorem Replica.Writer.stop_stopped (writer : Writer) : writer.stop.Stopped writer.report :=
  ⟨rfl, rfl, rfl, rfl⟩

theorem Replica.Writer.Stopped.pass {tally : WriterTally} {writer : Writer}
    (stopped : writer.Stopped tally) (time : Nat) : (writer.pass time).Stopped tally := by
  refine ⟨stopped.running, stopped.queue, ?_, stopped.tally⟩
  rw [Writer.pass, stopped.underway, Option.map_none]

theorem Replica.Writer.Stopped.settle {tally : WriterTally} {writer : Writer}
    (stopped : writer.Stopped tally) : writer.settle.Stopped tally :=
  ⟨stopped.running, stopped.queue, stopped.underway, stopped.tally⟩

theorem Replica.Writer.Stopped.step {tally : WriterTally} {writer : Writer}
    (stopped : writer.Stopped tally) (memory : Memory) : writer.step memory = (writer, memory, []) := by
  simp only [Writer.step, stopped.underway, stopped.queue]

theorem Replica.Writer.Stopped.run {tally : WriterTally} {writer : Writer}
    (stopped : writer.Stopped tally) {crew : Crew} {id : WriterId}
    (sole : crew.writers = [(id, writer)]) (target : Option WriterId) (time : Option Nat)
    (memory : Memory) :
    crew.run target time memory =
      ({ crew with writers := [(id, writer.settle)] }, memory, []) := by
  have idle : writer.wait? = none := by
    simp [Writer.wait?, stopped.underway, stopped.queue]
  have nothing : Crew.runSteps target crew.work time crew memory = (crew, memory, []) := by
    cases crew.work with
    | zero => rfl
    | succ steps => rw [Crew.runSteps, Crew.next_sole sole, idle, Option.map_none]
  simp only [Crew.run, nothing, Crew.settle_sole sole]

namespace Life

def WritesAtOnce (tally : WriterTally) (life : Life) : Prop :=
  ∀ id, life.roster.writer = some id →
    ∃ writer : Writer, life.deployment.crew.writers = [(id, writer)] ∧ writer.Stopped tally

variable {tally : WriterTally}

theorem writes_at_once {life : Life} {id : WriterId} {writer : Writer}
    (employed : life.roster.writer = some id)
    (sole : life.deployment.crew.writers = [(id, writer)]) (stopped : writer.Stopped tally) :
    life.WritesAtOnce tally := by
  intro other also
  obtain rfl : id = other := Option.some.inj (employed.symm.trans also)
  exact ⟨writer, sole, stopped⟩

theorem persist_at_once {life : Life} (direct : life.WritesAtOnce tally) {roster : Roster}
    (writer : roster.writer = life.roster.writer) (batch : Batch) {deployment : Deployment}
    (crew : deployment.crew = life.deployment.crew) :
    ofTurn (roster.persist batch deployment) = ofTurn (roster.writeInline batch deployment) := by
  cases employed : life.roster.writer with
  | none =>
      rw [employed] at writer
      simp only [Roster.persist, writer]
  | some id =>
      rw [employed] at writer
      obtain ⟨stopped, sole, done⟩ := direct id employed
      have refused : ReplicaQueue.enqueue id batch deployment = (false, deployment) := by
        rw [← crew] at sole
        have kept : { deployment.crew with writers := [(id, stopped)] } = deployment.crew := by
          rw [← sole]
        have answer : stopped.enqueue batch = (false, stopped) := by
          simp [Writer.enqueue, done.running]
        simp only [ReplicaQueue.enqueue, Crew.enqueue_sole sole, answer, kept]
      simp only [Roster.persist, writer, refused, ofTurn]

structure Wrote (origin : Life) (senders : List Sender) (life : Life) : Prop where
    remembers : origin.Remembers senders life
    store : Replica.Wrote origin.key
      (replay origin.verdicts origin.number (writesOf (origin.batches senders)) origin.replica)
      (writesOf (origin.batches senders)).length origin.deployment.memory life.deployment.memory
    failures : life.roster.inlineFailures = origin.roster.inlineFailures +
      flawedBatches origin.verdicts origin.number (origin.batches senders)

theorem wrote_start (life : Life) : life.Wrote [] life :=
  ⟨remembers_start life, ⟨rfl, rfl, rfl⟩, rfl⟩

variable {origin life : Life} {senders : List Sender}

theorem Wrote.add (wrote : origin.Wrote senders life) (direct : life.WritesAtOnce tally)
    (sender : Sender) :
    origin.Wrote (senders ++ [sender]) (life.step (.add sender)) ∧
      (life.step (.add sender)).WritesAtOnce tally := by
  cases known : life.roster.has sender with
  | true =>
      have same := wrote.remembers.batches_member known
      rw [add_member_life known]
      refine ⟨⟨wrote.remembers.add_member known, ?_, ?_⟩, direct⟩
      · rw [same]
        exact wrote.store
      · rw [same]
        exact wrote.failures
  | false =>
      have key := wrote.remembers.key_eq
      have limit : (life.roster.enrol sender life.score).1.settings.storeTimeout =
          origin.roster.settings.storeTimeout := by
        rw [Roster.enrol_settings, wrote.remembers.settings_eq]
      have number : life.deployment.memory.calls =
          origin.number + (writesOf (origin.batches senders)).length := wrote.store.calls
      have more := wrote.remembers.batches_stranger known
      have step := add_stranger_life known
      generalize owed : (life.roster.enrolment sender life.score).batch life.key = batch
        at step more
      have own : batch.key = origin.key := by
        rw [← owed, ← key]
        rfl
      have atOnce : ofTurn ((life.roster.enrol sender life.score).1.persist batch
          life.deployment.ticked) = _ :=
        persist_at_once direct Roster.enrol_writer batch rfl
      have inline := Roster.write_inline_life (life.roster.enrol sender life.score).1 batch
        life.deployment.ticked
      rw [step, atOnce, inline]
      refine ⟨⟨wrote.remembers.add known rfl rfl, ?_, ?_⟩,
        fun id employed => direct id (Roster.enrol_writer.symm.trans employed)⟩
      · rw [more, writes_of_append, writes_of_singleton, limit, own]
        exact wrote.store.apply_writes batch.writes
      · have verdicts := wrote.store.verdicts origin.roster.settings.storeTimeout
        rw [more, flawed_batches_append, ← Nat.add_assoc, ← wrote.failures, ← number, Life.verdicts,
          ← verdicts, ← limit]
        simp [flawedBatches, Deployment.ticked]

theorem Wrote.transfer (wrote : origin.Wrote senders life) {after : Life}
    (roster : after.roster = life.roster)
    (clock : after.deployment.clock = life.deployment.clock)
    (memory : after.deployment.memory = life.deployment.memory) : origin.Wrote senders after := by
  refine ⟨wrote.remembers.idle roster clock, ?_, ?_⟩
  · rw [memory]
    exact wrote.store
  · rw [roster]
    exact wrote.failures

theorem Wrote.idle (wrote : origin.Wrote senders life) (direct : life.WritesAtOnce tally)
    {move : Move} (idle : move.sender? = none) :
    origin.Wrote senders (life.step move) ∧ (life.step move).WritesAtOnce tally := by
  cases move with
  | add sender => cases idle
  | act =>
      cases employed : life.roster.writer with
      | none =>
          simp only [step, employed]
          exact ⟨wrote, direct⟩
      | some id =>
          obtain ⟨writer, sole, stopped⟩ := direct id employed
          simp only [step, employed, Crew.act_sole sole, stopped.step]
          exact ⟨wrote.transfer rfl rfl rfl, writes_at_once employed rfl stopped⟩
  | pass time =>
      constructor
      · exact wrote.transfer rfl rfl rfl
      · intro id employed
        obtain ⟨writer, sole, stopped⟩ := direct id employed
        refine ⟨writer.pass time, ?_, stopped.pass time⟩
        simp only [step, Crew.pass_sole sole]
  | settle =>
      constructor
      · exact wrote.transfer rfl rfl rfl
      · intro id employed
        obtain ⟨writer, sole, stopped⟩ := direct id employed
        refine ⟨writer.settle, ?_, stopped.settle⟩
        simp only [step, Crew.settle_sole sole]
  | work target time =>
      cases employed : life.roster.writer with
      | none =>
          simp only [step, employed]
          exact ⟨wrote, direct⟩
      | some id =>
          obtain ⟨writer, sole, stopped⟩ := direct id employed
          simp only [step, employed, Deployment.runWriters, stopped.run sole]
          exact ⟨wrote.transfer rfl rfl rfl, writes_at_once employed rfl stopped.settle⟩

theorem wrote_run (direct : life.WritesAtOnce tally) (moves : List Move) :
    life.Wrote (added moves) (life.run moves) ∧ (life.run moves).WritesAtOnce tally := by
  exact @run_keeps (fun senders later => life.Wrote senders later ∧ later.WritesAtOnce tally) life
    ⟨wrote_start life, direct⟩ (fun _ _ sender written => written.1.add written.2 sender)
    (fun _ _ _ idle written => written.1.idle written.2 idle) moves

/-! ## Batches that are queued -/

structure Queued (origin : Life) (id : WriterId) (limit : Millis) (senders : List Sender)
    (life : Life) : Prop where
    remembers : origin.Remembers senders life
    failures : life.roster.inlineFailures = origin.roster.inlineFailures
    crew : life.deployment.crew.Keeps id limit (origin.deployment.memory.lands limit) origin.key
      origin.number origin.replica (origin.batches senders) life.deployment.memory

variable {id : WriterId} {limit : Millis}

theorem Queued.add (queued : origin.Queued id limit senders life)
    (employed : origin.roster.writer = some id) (sender : Sender) :
    origin.Queued id limit (senders ++ [sender]) (life.step (.add sender)) := by
  cases known : life.roster.has sender with
  | true =>
      have same := queued.remembers.batches_member known
      rw [add_member_life known]
      refine ⟨queued.remembers.add_member known, queued.failures, ?_⟩
      rw [same]
      exact queued.crew
  | false =>
      have key := queued.remembers.key_eq
      have more := queued.remembers.batches_stranger known
      obtain ⟨taken, kept⟩ := queued.crew.enqueue
        (show ((life.roster.enrolment sender life.score).batch life.key).key = origin.key from key)
      have writer : (life.roster.enrol sender life.score).1.writer = some id := by
        rw [Roster.enrol_writer, queued.remembers.writer, employed]
      have handed : ReplicaQueue.enqueue id
          ((life.roster.enrolment sender life.score).batch life.key) life.deployment.ticked =
            (true, { life.deployment.ticked with
              crew := (life.deployment.crew.enqueue id
                ((life.roster.enrolment sender life.score).batch life.key)).2 }) := by
        rw [← taken]
        rfl
      rw [add_stranger_life known]
      simp only [Roster.persist, writer, handed]
      refine ⟨queued.remembers.add known rfl rfl, ?_, ?_⟩
      · exact Roster.enrol_failures.trans queued.failures
      · rw [more]
        exact kept

theorem Queued.idle (queued : origin.Queued id limit senders life)
    (employed : origin.roster.writer = some id) {move : Move} (idle : move.sender? = none) :
    origin.Queued id limit senders (life.step move) := by
  cases move with
  | add sender => cases idle
  | act =>
      have writer := queued.remembers.writer.trans employed
      simp only [step, writer]
      exact ⟨queued.remembers.idle rfl rfl, queued.failures, queued.crew.act id⟩
  | pass time =>
      exact ⟨queued.remembers.idle rfl rfl, queued.failures, queued.crew.pass time⟩
  | settle => exact ⟨queued.remembers.idle rfl rfl, queued.failures, queued.crew.settle⟩
  | work target time =>
      have writer := queued.remembers.writer.trans employed
      simp only [step, writer]
      exact ⟨queued.remembers.idle rfl rfl, queued.failures, queued.crew.run target time⟩

/-- A writer that runs and has not been given anything yet. -/
structure Fresh (id : WriterId) (limit : Millis) (life : Life) : Prop where
    employed : life.roster.writer = some id
    sole : ∃ awake, life.deployment.crew.writers = [(id, { limit, awake })]

theorem queued_run (fresh : life.Fresh id limit) (moves : List Move) :
    life.Queued id limit (added moves) (life.run moves) := by
  obtain ⟨awake, sole⟩ := fresh.sole
  have nothing := @Writer.keeps_nothing life.key { limit, awake } life.deployment.memory rfl rfl
    rfl rfl
  have start : life.Queued id limit [] life :=
    ⟨remembers_start life, rfl, _, sole, rfl, rfl, nothing⟩
  exact run_keeps start (fun _ _ sender queued => queued.add fresh.employed sender)
    (fun _ _ _ idle queued => queued.idle fresh.employed idle) moves

end Life

end OptOut
