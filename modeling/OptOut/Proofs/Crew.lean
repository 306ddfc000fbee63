import OptOut.Deployment
import OptOut.Proofs.Writer

/-!
# A crew of one writer

The turns of a writer that works alone are its own. However it is run, the batches that it was given
and the store stay accounted for, and if no time is set, it works until there is nothing left to do.
-/

namespace OptOut.Replica

namespace Crew

variable {crew : Crew} {id : WriterId} {writer : Writer}

theorem find_sole (sole : crew.writers = [(id, writer)]) : crew.find? id = some writer := by
  simp [find?, sole]

theorem put_sole (sole : crew.writers = [(id, writer)]) (other : Writer) :
    crew.put id other = { crew with writers := [(id, other)] } := by
  simp [put, sole]

theorem postpone_sole (sole : crew.writers = [(id, writer)]) : crew.postpone id = crew := by
  obtain ⟨writers, hired⟩ := crew
  obtain rfl : writers = [(id, writer)] := sole
  simp [postpone]

theorem enqueue_sole (sole : crew.writers = [(id, writer)]) (batch : Batch) :
    crew.enqueue id batch =
      ((writer.enqueue batch).1, { crew with writers := [(id, (writer.enqueue batch).2)] }) := by
  simp only [enqueue, find_sole sole, put_sole sole]
  split
  · rfl
  · rw [postpone_sole rfl]

theorem find_other (sole : crew.writers = [(id, writer)]) {other : WriterId} (apart : other ≠ id) :
    crew.find? other = none := by
  simp [find?, sole, List.lookup_cons, beq_false_of_ne apart]

variable {σ : Type} [SortedSets σ]

theorem act_sole (sole : crew.writers = [(id, writer)]) (store : σ) :
    crew.act id store =
      ({ crew with writers := [(id, (writer.step store).1)] }, (writer.step store).2.1,
        (writer.step store).2.2) := by
  simp only [act, find_sole sole, put_sole sole]
  split
  · rw [postpone_sole rfl]
  · rfl

theorem act_absent (absent : crew.find? id = none) (store : σ) :
    crew.act id store = (crew, store, []) := by
  simp only [act, absent]

theorem pass_sole (sole : crew.writers = [(id, writer)]) (time : Nat) :
    crew.pass time = { crew with writers := [(id, writer.pass time)] } := by
  simp [pass, sole]

theorem settle_sole (sole : crew.writers = [(id, writer)]) :
    crew.settle = { crew with writers := [(id, writer.settle)] } := by
  simp [settle, sole]

theorem next_sole (sole : crew.writers = [(id, writer)]) :
    crew.next? = writer.wait?.map (id, ·) := by
  cases waits : writer.wait? <;> simp [next?, sole, waits, soonest]

/-! ## What a run keeps -/

/-- A run keeps whatever is kept by a step of any writer, by time and by falling asleep. -/
theorem run_keeps {holds : Crew → σ → Prop}
    (act : ∀ crew store id, holds crew store → holds (crew.act id store).1 (crew.act id store).2.1)
    (pass : ∀ crew store time, holds crew store → holds (crew.pass time) store)
    (settle : ∀ crew store, holds crew store → holds crew.settle store)
    (target : Option WriterId) (time : Option Nat) {crew : Crew} {store : σ}
    (start : holds crew store) :
    holds (crew.run target time store).1 (crew.run target time store).2.1 := by
  have kept : ∀ steps time crew store, holds crew store →
      holds (runSteps target steps time crew store).1
        (runSteps target steps time crew store).2.1 := by
    intro steps
    induction steps with
    | zero => exact fun _ _ _ held => held
    | succ steps induction =>
        intro time crew store held
        rw [runSteps]
        split
        · exact held
        · split
          · exact held
          · split
            · exact pass crew store _ held
            · exact induction _ _ _ (act _ store _ (pass crew store _ held))
  exact settle _ _ (kept crew.work time crew store start)

/-- A crew whose only writer is running and accounts for the batches that it was given. -/
def Keeps (id : WriterId) (limit : Millis) (lands : Nat → Bool) (key : String) (start : Nat)
    (origin : SortedSet) (given : List Batch) (crew : Crew) (memory : Memory) : Prop :=
  ∃ writer : Writer, crew.writers = [(id, writer)] ∧ writer.running = true ∧
    writer.limit = limit ∧ writer.Keeps lands key start origin given memory

variable {limit : Millis} {lands : Nat → Bool} {key : String} {start : Nat} {origin : SortedSet}
  {given : List Batch} {memory : Memory}

theorem Keeps.enqueue (keeps : Keeps id limit lands key start origin given crew memory)
    {batch : Batch} (own : batch.key = key) :
    (crew.enqueue id batch).1 = true ∧
      Keeps id limit lands key start origin (given ++ [batch]) (crew.enqueue id batch).2 memory := by
  obtain ⟨writer, sole, running, waits, kept⟩ := keeps
  obtain ⟨taken, kept⟩ := kept.enqueue own running
  rw [enqueue_sole sole]
  refine ⟨taken, _, rfl, ?_, ?_, kept⟩
  · simp only [Writer.enqueue, running, if_true]
  · simp only [Writer.enqueue, running, if_true, waits]

theorem Keeps.act (keeps : Keeps id limit lands key start origin given crew memory)
    (other : WriterId) :
    Keeps id limit lands key start origin given (crew.act other memory).1
      (crew.act other memory).2.1 := by
  have ⟨writer, sole, running, waits, kept⟩ := keeps
  by_cases own : other = id
  · obtain ⟨limits, runs⟩ := writer.step_keeps memory
    rw [own, act_sole sole]
    exact ⟨_, rfl, runs.trans running, limits.trans waits, kept.step⟩
  · rw [act_absent (find_other sole own)]
    exact keeps

theorem Keeps.pass (keeps : Keeps id limit lands key start origin given crew memory) (time : Nat) :
    Keeps id limit lands key start origin given (crew.pass time) memory := by
  obtain ⟨writer, sole, running, waits, kept⟩ := keeps
  rw [pass_sole sole]
  exact ⟨_, rfl, running, waits, kept.pass time⟩

theorem Keeps.settle (keeps : Keeps id limit lands key start origin given crew memory) :
    Keeps id limit lands key start origin given crew.settle memory := by
  obtain ⟨writer, sole, running, waits, kept⟩ := keeps
  rw [settle_sole sole]
  exact ⟨_, rfl, running, waits, kept.settle⟩

theorem Keeps.run (keeps : Keeps id limit lands key start origin given crew memory)
    (target : Option WriterId) (time : Option Nat) :
    Keeps id limit lands key start origin given (crew.run target time memory).1
      (crew.run target time memory).2.1 :=
  run_keeps (fun _ _ other kept => kept.act other) (fun _ _ time kept => kept.pass time)
    (fun _ _ kept => kept.settle) target time keeps

end Crew

/-! ## Running to the end

Each step uses up some of the work, so a run without a limit ends because nothing is left to do. -/

namespace Writer

theorem work_eq (writer : Writer) :
    writer.work = writer.queue.foldr (fun batch total => batch.writes.length + 1 + total) 0 +
      (writer.underway.map fun underway => underway.later.length + 1).getD 0 := by
  rw [work]
  induction writer.queue with
  | nil => simp
  | cons batch rest induction =>
      rw [List.foldr_cons, List.foldr_cons, induction]
      exact (Nat.add_assoc _ _ _).symm

theorem proceed_work (writer : Writer) (key : String) (flawed : Bool) (memory : Memory)
    (rest : List Write) :
    (writer.proceed key flawed memory rest).work =
      { writer with underway := none }.work + rest.length := by
  cases rest with
  | cons write later => simp [work_eq, proceed, Underway.begin]
  | nil => cases flawed <;> simp [work_eq, proceed]

theorem step_work {writer : Writer} {wait : Nat} (busy : writer.wait? = some wait)
    (memory : Memory) : (writer.step memory).1.work + 1 = writer.work := by
  cases occupied : writer.underway with
  | some underway =>
      have used : { writer with underway := none }.work + underway.later.length + 1 =
          writer.work := by
        simp [work_eq, occupied, Nat.add_assoc]
      simp only [step, occupied]
      split
      · rw [proceed_work, used]
      · rw [proceed_work, used]
  | none =>
      cases queued : writer.queue with
      | nil => simp [wait?, occupied, queued] at busy
      | cons batch rest =>
          simp only [step, occupied, queued, proceed_work]
          simp [work_eq, occupied, queued]
          omega

theorem pass_work (writer : Writer) (time : Nat) : (writer.pass time).work = writer.work := by
  cases occupied : writer.underway <;> simp [work_eq, pass, occupied]

theorem idle_of_no_work {writer : Writer} (done : writer.work = 0) : writer.wait? = none := by
  rw [work_eq] at done
  cases occupied : writer.underway with
  | some underway => simp [occupied] at done
  | none =>
      cases queued : writer.queue with
      | nil => simp [wait?, occupied, queued]
      | cons batch rest => simp [queued] at done

end Writer

namespace Crew

variable {crew : Crew} {id : WriterId} {writer : Writer}

theorem idle_sole (sole : crew.writers = [(id, writer)]) : crew.isIdle id = writer.isIdle := by
  rw [isIdle, find_sole sole, Option.all_some]

/-- A run with as many steps as there is work leaves nothing to do. -/
theorem run_steps_idle {target : Option WriterId} (own : ∀ other, target = some other → other = id)
    (steps : Nat) (sole : crew.writers = [(id, writer)]) (enough : writer.work ≤ steps)
    (memory : Memory) :
    ∃ after : Writer, (runSteps target steps none crew memory).1.writers = [(id, after)] ∧
      after.wait? = none := by
  induction steps generalizing crew writer memory with
  | zero => exact ⟨writer, sole, Writer.idle_of_no_work (Nat.le_zero.1 enough)⟩
  | succ steps induction =>
      rw [runSteps, next_sole sole]
      cases waits : writer.wait? with
      | none => exact ⟨writer, sole, waits⟩
      | some wait =>
          have busy : target.any crew.isIdle = false := by
            cases aim : target with
            | none => rfl
            | some other =>
                rw [own other aim, Option.any_some, idle_sole sole, Writer.isIdle, waits]
                rfl
          have passed : (crew.pass wait).writers = [(id, writer.pass wait)] := by
            rw [pass_sole sole]
          have still : ∃ later, (writer.pass wait).wait? = some later := by
            cases occupied : writer.underway with
            | some underway =>
                exact ⟨underway.remaining - wait, by simp [Writer.wait?, Writer.pass, occupied]⟩
            | none => exact ⟨wait, by simpa [Writer.wait?, Writer.pass, occupied] using waits⟩
          obtain ⟨later, still⟩ := still
          have used := Writer.step_work still memory
          rw [Writer.pass_work] at used
          simp only [Option.map_some, busy, Bool.false_eq_true, and_false, if_false,
            Option.filter_none]
          rw [act_sole passed]
          exact induction rfl (by omega) _

theorem run_idle {target : Option WriterId} (own : ∀ other, target = some other → other = id)
    (sole : crew.writers = [(id, writer)]) (memory : Memory) :
    (crew.run target none memory).1.isIdle id = true := by
  have enough : writer.work ≤ crew.work := by
    simp [Crew.work, sole]
  obtain ⟨after, alone, done⟩ := run_steps_idle own crew.work sole enough memory
  have settled : (crew.run target none memory).1.writers = [(id, after.settle)] := by
    simp only [run]
    rw [settle_sole alone]
  rw [idle_sole settled, Writer.isIdle, show after.settle.wait? = none from done]
  rfl

end Crew

end OptOut.Replica
