import OptOut.Proofs.WriteBehind

/-!
# Writing behind refines writing at once

A life whose roster hands its batches to a writer is set beside one that begins alike and writes at
once. Both remember the same senders at every moment. The replica of the first is what the second
would have made of a beginning of the same additions, and never anything else; once the writer has
nothing left to do, of all of them.
-/

namespace OptOut

open Replica

namespace Replica

theorem flawed_batches_congr {lands lands' : Nat → Bool} {number number' : Nat}
    (same : ∀ position, lands (number + position) = lands' (number' + position))
    (batches : List Batch) :
    flawedBatches lands number batches = flawedBatches lands' number' batches := by
  induction batches generalizing number number' with
  | nil => rfl
  | cons batch rest induction =>
      have next : ∀ position, lands (number + batch.writes.length + position) =
          lands' (number' + batch.writes.length + position) := by
        intro position
        rw [Nat.add_assoc, Nat.add_assoc, same]
      rw [flawedBatches, flawedBatches, flawed_congr same, induction next]

end Replica

namespace Life

/-- A life without a writer beside one whose replica writes are bounded by a limit: they remember
the same, their replicas hold the same, their clocks will show the same, and each write ends in the
same way by its position among all writes. -/
structure Alike (limit : Millis) (life direct : Life) : Prop where
    roster : direct.roster.Agrees life.roster
    inline : direct.roster.writer = none
    replica : direct.replica = life.replica
    clock : direct.deployment.clock = life.deployment.clock
    outcomes : ∀ position, direct.verdicts (direct.number + position) =
      life.deployment.memory.lands limit (life.number + position)

structure Brings (direct : Life) (senders : List Sender) (replica : SortedSet)
    (written failed : Nat) : Prop where
    replica : (direct.addAll senders).replica = replica
    written : (direct.addAll senders).roster.additions = direct.roster.additions + written
    failed : (direct.addAll senders).roster.inlineFailures = direct.roster.inlineFailures + failed

variable {life direct : Life} {limit : Millis}

theorem Alike.key (alike : life.Alike limit direct) : direct.key = life.key := by
  rw [Life.key, alike.roster.settings, Life.key]

theorem Alike.enrolments (alike : life.Alike limit direct) (senders : List Sender) :
    direct.enrolments senders = life.enrolments senders := by
  rw [Life.enrolments, alike.clock, alike.roster.history, Life.enrolments]

theorem Alike.batches (alike : life.Alike limit direct) (senders : List Sender) :
    direct.batches senders = life.batches senders := by
  rw [Life.batches, alike.enrolments, alike.key, Life.batches]

theorem Alike.wrote (alike : life.Alike limit direct) (senders : List Sender) :
    direct.Wrote senders (direct.addAll senders) := by
  have atOnce : direct.WritesAtOnce ⟨0, 0⟩ := by
    intro id employed
    rw [alike.inline] at employed
    cases employed
  obtain ⟨wrote, _⟩ := wrote_run atOnce (senders.map .add)
  rw [added_map_add] at wrote
  exact wrote

theorem Alike.brings (alike : life.Alike limit direct) (senders : List Sender) :
    direct.Brings senders
      (replay (life.deployment.memory.lands limit) life.number (writesOf (life.batches senders))
        life.replica)
      (life.batches senders).length
      (flawedBatches (life.deployment.memory.lands limit) life.number (life.batches senders)) := by
  have wrote := alike.wrote senders
  constructor
  · have set := wrote.store.set
    rw [alike.batches, alike.replica, replay_congr alike.outcomes] at set
    rw [← set, Life.replica, wrote.remembers.key_eq]
  · rw [wrote.remembers.roster.additions, ← alike.batches, Life.batches, List.length_map]
    exact Roster.history_additions _ _ _ _
  · have failures := wrote.failures
    rw [alike.batches, flawed_batches_congr alike.outcomes] at failures
    exact failures

theorem Alike.agrees (alike : life.Alike limit direct) {senders : List Sender} {later : Life}
    (remembers : life.Remembers senders later) :
    later.roster.Agrees (direct.addAll senders).roster :=
  remembers.roster.trans
    ((alike.roster.remember_all senders).symm.trans (alike.wrote senders).remembers.roster.symm)

/-! ## A writer at work -/

/-- A beginning of some additions that owes the replica a given beginning of the batches. -/
theorem batches_take (life : Life) (senders : List Sender) (count : Nat)
    (within : count ≤ (life.batches senders).length) :
    ∃ first ≤ senders.length,
      life.batches (senders.take first) = (life.batches senders).take count := by
  rw [batches, List.length_map] at within
  obtain ⟨first, bound, same⟩ := Roster.history_take life.deployment.clock.shows senders
    life.deployment.clock.next life.roster count within
  refine ⟨first, bound, ?_⟩
  rw [batches, enrolments, same, batches, List.map_take]
  rfl

structure Trails (direct : Life) (senders : List Sender) (later : Life) (writer : Writer) :
    Prop where
    /-- Memory is never behind. -/
    memory : later.roster.Agrees (direct.addAll senders).roster
    /-- Between two batches, the replica is what a beginning of the additions makes of it, and the
    counts are those of that beginning. -/
    between : writer.underway = none → ∃ first ≤ senders.length,
      direct.Brings (senders.take first) later.replica (writer.applied + writer.failed)
        writer.failed
    /-- With nothing left to do, nothing is missing. -/
    through : writer.wait? = none →
      direct.Brings senders later.replica (writer.applied + writer.failed) writer.failed
    /-- Every batch is applied, failed, underway or queued. -/
    counted : (direct.addAll senders).roster.additions = direct.roster.additions +
      (writer.applied + writer.failed + writer.underway.toList.length + writer.queue.length)
    /-- No batch is passed over, and none comes twice. -/
    queue : writer.queue = (direct.batches senders).drop
      (writer.applied + writer.failed + writer.underway.toList.length)

theorem Alike.trails (alike : life.Alike limit direct) {senders : List Sender} {later : Life}
    {writer : Writer} (remembers : life.Remembers senders later)
    (keeps : writer.Keeps (life.deployment.memory.lands limit) life.key life.number life.replica
      (life.batches senders) later.deployment.memory) :
    direct.Trails senders later writer := by
  obtain ⟨done, made, progress⟩ := keeps
  have whole := alike.brings senders
  have current : (writer.current made).length = writer.underway.toList.length := by
    cases busy : writer.underway <;> simp [Writer.current, busy]
  have total : (life.batches senders).length =
      done.length + writer.underway.toList.length + writer.queue.length := by
    rw [progress.parts, List.length_append, List.length_append, current, Nat.add_assoc]
  have start : done = (life.batches senders).take done.length := by
    rw [progress.parts, List.take_left]
  -- Between two batches nothing was made but the batches that are done.
  have between : writer.underway = none → later.replica =
      replay (life.deployment.memory.lands limit) life.number (writesOf done) life.replica := by
    intro idle
    rw [Life.replica, remembers.key_eq, progress.set, progress.rest idle, List.append_nil]
  refine ⟨alike.agrees remembers, ?_, ?_, ?_, ?_⟩
  · intro idle
    obtain ⟨first, bound, same⟩ := life.batches_take senders done.length (by omega)
    have brings := alike.brings (senders.take first)
    rw [same, ← start, ← between idle, ← progress.finished, ← progress.failed] at brings
    exact ⟨first, bound, brings⟩
  · intro rests
    obtain ⟨idle, empty⟩ := Writer.rests_iff.1 rests
    have all : life.batches senders = done := by
      simp [progress.parts, Writer.current, idle, empty]
    rw [all, ← between idle, ← progress.finished, ← progress.failed] at whole
    exact whole
  · rw [whole.written, total, progress.finished]
  · rw [alike.batches, progress.finished, progress.parts, ← List.append_assoc, ← current,
      ← List.length_append, List.drop_left]

/-! ## A drain, and a writer that stops -/

def halt (id : WriterId) (life : Life) : Life :=
  { life with deployment := (life.deployment.stopWriter id).2 }

structure Matches (direct : Life) (senders : List Sender) (origin after : Life) : Prop where
    memory : after.roster.Agrees (direct.addAll senders).roster
    replica : after.replica = (direct.addAll senders).replica
    failures : ∃ failed, after.roster.inlineFailures = origin.roster.inlineFailures + failed ∧
      (direct.addAll senders).roster.inlineFailures = direct.roster.inlineFailures + failed

variable {id : WriterId} {tally : WriterTally}

theorem Alike.matches (alike : life.Alike life.roster.settings.storeTimeout direct)
    (atOnce : life.WritesAtOnce tally) (moves : List Move) :
    direct.Matches (added moves) life (life.run moves) := by
  obtain ⟨wrote, _⟩ := wrote_run atOnce moves
  have brings := alike.brings (added moves)
  refine ⟨alike.agrees wrote.remembers, ?_, _, wrote.failures, brings.failed⟩
  rw [brings.replica, Life.replica, wrote.remembers.key_eq, wrote.store.set]
  rfl

theorem halt_writes_at_once {writer : Writer} (employed : life.roster.writer = some id)
    (sole : life.deployment.crew.writers = [(id, writer)]) :
    (life.halt id).WritesAtOnce writer.report := by
  have stopped : (life.halt id).deployment.crew.writers = [(id, writer.stop)] := by
    simp only [halt, Deployment.stopWriter, Crew.stop, Crew.find_sole sole, Crew.put_sole sole]
  exact writes_at_once employed stopped writer.stop_stopped

theorem end_report {writer : Writer} (sole : life.deployment.crew.writers = [(id, writer)])
    (running : writer.running = true) :
    (life.deployment.endWriter id).1 = some writer.report := by
  simp [Deployment.endWriter, Crew.find_sole sole, Option.filter, running]

/-- Adding senders with a writer and without one comes to the same. At every moment the writer has
made the writes of the batches in the order in which they were handed over, and stands where writing
at once would have stood after a beginning of the additions. What it reports once it is done covers
all of them. If it is stopped at any moment, every later addition is written at once. -/
theorem write_behind_refines (fresh : life.Fresh id limit) (alike : life.Alike limit direct)
    (moves : List Move) :
    ∃ writer : Writer, (life.run moves).deployment.crew.writers = [(id, writer)] ∧
      writer.running = true ∧
      writer.Keeps (life.deployment.memory.lands limit) life.key life.number life.replica
        (life.batches (added moves)) (life.run moves).deployment.memory ∧
      direct.Trails (added moves) (life.run moves) writer ∧
      (∀ target time, let ended := (life.run moves).step (.work target time)
        (ended.deployment.crew.isIdle id = true → ∃ tally,
          (ended.deployment.endWriter id).1 = some tally ∧
            direct.Brings (added moves) ended.replica (tally.applied + tally.failed)
              tally.failed) ∧
        (time = none → target = none ∨ target = some id →
          ended.deployment.crew.isIdle id = true)) ∧
      (let stopped := (life.run moves).halt id
        ∀ inline, stopped.Alike life.roster.settings.storeTimeout inline → ∀ more,
          inline.Matches (added more) stopped (stopped.run more) ∧
            ∃ halted : Writer, (stopped.run more).deployment.crew.writers = [(id, halted)] ∧
              halted.Stopped writer.report) := by
  have queued := queued_run fresh moves
  have employed := queued.remembers.writer.trans fresh.employed
  obtain ⟨writer, sole, running, _, keeps⟩ := queued.crew
  refine ⟨writer, sole, running, keeps, alike.trails queued.remembers keeps, ?_, ?_⟩
  · intro target time ended
    have drained := queued.idle fresh.employed (rfl : (Move.work target time).sender? = none)
    obtain ⟨after, alone, runs, _, kept⟩ := drained.crew
    have trails := alike.trails drained.remembers kept
    refine ⟨fun idle => ⟨after.report, end_report alone runs, ?_⟩, ?_⟩
    · have rests : after.wait? = none := by
        rwa [Crew.idle_sole alone, Writer.isIdle, Option.isNone_iff_eq_none] at idle
      exact trails.through rests
    · intro unlimited aim
      have own : ∀ other, target = some other → other = id := by
        intro other named
        rcases aim with aim | aim
        · rw [aim] at named
          cases named
        · exact Option.some.inj (named.symm.trans aim)
      have idle := Crew.run_idle own sole (life.run moves).deployment.memory
      simp only [ended, step, employed, unlimited]
      exact idle
  · intro stopped inline beside more
    have atOnce := halt_writes_at_once employed sole
    have settings : stopped.roster.settings = life.roster.settings :=
      queued.remembers.settings_eq
    constructor
    · rw [← settings] at beside
      exact beside.matches atOnce more
    · obtain ⟨wrote, still⟩ := wrote_run atOnce more
      exact still id (wrote.remembers.writer.trans employed)

/-- With room for one, the second sender is queued while the first is on its way. The store refuses
the second write, and the drain reports it. -/
theorem write_behind_refines_one_refusal :
    let memory : Memory := { conditions := fun number => { sortedSetUp := number != 1 } }
    let site := ({ memory, clock := .standing 7 } : Deployment).startWriter 500
    let settings : RosterSettings := { capacity := 1 }
    let life : Life := ⟨{ settings, writer := some site.1 }, site.2⟩
    let ended := (life.run [.add "alice", .act, .add "bob", .act]).step (.work none none)
    (ended.deployment.endWriter site.1).1 = some ⟨1, 1⟩ ∧
      Brings ⟨{ settings }, site.2⟩ ["alice", "bob"] ended.replica 2 1 := by
  intro memory site settings life ended
  have fresh : life.Fresh site.1 500 := ⟨rfl, true, rfl⟩
  have alike : life.Alike 500 ⟨{ settings }, site.2⟩ :=
    ⟨⟨rfl, rfl, rfl, rfl, rfl⟩, rfl, rfl, rfl, fun _ => rfl⟩
  obtain ⟨_, _, _, _, _, drained, _⟩ :=
    write_behind_refines fresh alike [.add "alice", .act, .add "bob", .act]
  obtain ⟨complete, ends⟩ := drained none none
  obtain ⟨tally, reported, brings⟩ := complete (ends rfl (.inl rfl))
  have counts : (ended.deployment.endWriter site.1).1 = some ⟨1, 1⟩ := by
    decide +kernel
  obtain rfl : (⟨1, 1⟩ : WriterTally) = tally := Option.some.inj (counts.symm.trans reported)
  exact ⟨counts, brings⟩

end Life

end OptOut
