import OptOut.Proofs.Replay

/-!
# What a replica writer has done

At every moment the batches that a writer was given fall into three parts, in the order in which
they came: those it is done with, at most one that is underway, and those still queued. The sorted
set is the replay of the writes made so far, and the counts of the writer are those of the first
part.
-/

namespace OptOut.Replica

namespace Writer

/-- The batch that is underway, if there is one, given those of its writes that were made. -/
def current (writer : Writer) (made : List Write) : List Batch :=
  match writer.underway with
  | none => []
  | some underway => [⟨underway.key, made ++ underway.write :: underway.later⟩]

/-- A writer on a store whose calls were numbered on from `start` when the set was `origin`: it is
done with some of the batches that it was given, and of the next one some writes were made. -/
structure Progress (lands : Nat → Bool) (key : String) (start : Nat) (origin : SortedSet)
    (given done : List Batch) (made : List Write) (writer : Writer) (memory : Memory) : Prop where
    verdicts : memory.lands writer.limit = lands
    parts : given = done ++ (writer.current made ++ writer.queue)
    keys : ∀ batch ∈ given, batch.key = key
    set : memory.contents.set key = replay lands start (writesOf done ++ made) origin
    calls : memory.calls = start + (writesOf done).length + made.length
    finished : writer.applied + writer.failed = done.length
    failed : writer.failed = flawedBatches lands start done
    rest : writer.underway = none → made = []
    flaw : ∀ underway, writer.underway = some underway →
      underway.flawed = flawed lands (start + (writesOf done).length) made
    wait : ∀ underway, writer.underway = some underway →
      underway.expires = (underway.write.call underway.key memory).expires writer.limit

def Keeps (lands : Nat → Bool) (key : String) (start : Nat) (origin : SortedSet)
    (given : List Batch) (writer : Writer) (memory : Memory) : Prop :=
  ∃ done made, Progress lands key start origin given done made writer memory

variable {lands : Nat → Bool} {key : String} {start : Nat} {origin : SortedSet}
  {given : List Batch} {writer : Writer} {memory : Memory}

theorem keeps_nothing (queue : writer.queue = []) (underway : writer.underway = none)
    (applied : writer.applied = 0) (failed : writer.failed = 0) :
    Keeps (memory.lands writer.limit) key memory.calls (memory.contents.set key) [] writer
      memory := by
  refine ⟨[], [], rfl, ?_, ?_, rfl, rfl, ?_, ?_, fun _ => rfl, ?_, ?_⟩
  · simp [current, underway, queue]
  · simp
  · simp [applied, failed]
  · simp [failed, flawedBatches]
  · simp [underway]
  · simp [underway]

theorem rests_iff {writer : Writer} :
    writer.wait? = none ↔ writer.underway = none ∧ writer.queue = [] := by
  cases busy : writer.underway <;> simp [wait?, busy]

/-- With nothing left to do, the set is the replay of all that was given. -/
theorem Keeps.rests (keeps : Keeps lands key start origin given writer memory)
    (rests : writer.wait? = none) :
    memory.contents.set key = replay lands start (writesOf given) origin := by
  obtain ⟨done, made, progress⟩ := keeps
  obtain ⟨idle, empty⟩ := rests_iff.1 rests
  have all : given = done := by
    simp [progress.parts, current, idle, empty]
  rw [progress.set, progress.rest idle, List.append_nil, all]

theorem Keeps.enqueue (keeps : Keeps lands key start origin given writer memory) {batch : Batch}
    (own : batch.key = key) (running : writer.running = true) :
    (writer.enqueue batch).1 = true ∧
      Keeps lands key start origin (given ++ [batch]) (writer.enqueue batch).2 memory := by
  obtain ⟨done, made, progress⟩ := keeps
  simp only [Writer.enqueue, running, if_true, true_and]
  refine ⟨done, made, progress.verdicts, ?_, ?_, progress.set, progress.calls, progress.finished,
    progress.failed, progress.rest, progress.flaw, progress.wait⟩
  · rw [progress.parts]
    simp only [current, List.append_assoc]
  · intro other held
    rcases List.mem_append.1 held with held | held
    · exact progress.keys other held
    · rw [List.mem_singleton.1 held, own]

/-! ## Steps -/

theorem keeps_proceed {done : List Batch} {made rest : List Write} {flag : Bool}
    (verdicts : memory.lands writer.limit = lands)
    (given_eq : given = done ++ ⟨key, made ++ rest⟩ :: writer.queue)
    (keys : ∀ batch ∈ given, batch.key = key)
    (set : memory.contents.set key = replay lands start (writesOf done ++ made) origin)
    (calls : memory.calls = start + (writesOf done).length + made.length)
    (finished : writer.applied + writer.failed = done.length)
    (failed : writer.failed = flawedBatches lands start done)
    (flaw : flag = flawed lands (start + (writesOf done).length) made) :
    Keeps lands key start origin given (writer.proceed key flag memory rest) memory := by
  cases rest with
  | cons write later =>
      refine ⟨done, made, verdicts, ?_, keys, set, calls, finished, failed, ?_, ?_, ?_⟩
      · simpa [proceed, current, Underway.begin] using given_eq
      · simp [proceed]
      · simpa [proceed, Underway.begin] using flaw
      · simp [proceed, Underway.begin]
  | nil =>
      rw [List.append_nil] at given_eq
      have counted : flawedBatches lands start (done ++ [⟨key, made⟩]) =
          writer.failed + flag.toNat := by
        rw [flawed_batches_append, failed, flaw]
        rfl
      have complete : ∀ after : Writer, after.limit = writer.limit → after.queue = writer.queue →
          after.underway = none → after.applied + after.failed = done.length + 1 →
          after.failed = writer.failed + flag.toNat →
          Keeps lands key start origin given after memory := by
        intro after limit queue underway total flaws
        refine ⟨done ++ [⟨key, made⟩], [], ?_, ?_, keys, ?_, ?_, ?_, ?_, fun _ => rfl, ?_, ?_⟩
        · rw [limit, verdicts]
        · rw [given_eq]
          simp [current, underway, queue]
        · rw [set]
          simp
        · rw [calls]
          simp [Nat.add_assoc]
        · rw [total, List.length_append, List.length_singleton]
        · rw [flaws, counted]
        · simp [underway]
        · simp [underway]
      cases flag with
      | true => exact complete _ rfl rfl rfl (by simp [proceed]; omega) rfl
      | false => exact complete _ rfl rfl rfl (by simp [proceed]; omega) rfl

/-- The wait that a writer began ends as the write would have ended at once. -/
theorem conclude_eq_apply (underway : Underway) (limit : Millis)
    (wait : underway.expires = (underway.write.call underway.key memory).expires limit) :
    underway.conclude limit memory = underway.write.apply underway.key limit memory := by
  rw [Underway.conclude, wait]
  rfl

/-- The end of a wait is a write, and what is left of its batch is gone on with. -/
theorem step_underway {underway : Underway} (busy : writer.underway = some underway)
    (wait : underway.expires = (underway.write.call underway.key memory).expires writer.limit) :
    let after := (underway.write.apply underway.key writer.limit memory).2
    (writer.step memory).1 = writer.proceed underway.key
        (underway.flawed || !memory.lands writer.limit memory.calls) after underway.later ∧
      (writer.step memory).2.1 = after := by
  have fails := apply_fails_iff underway.key writer.limit underway.write memory
  have conclude := conclude_eq_apply underway writer.limit wait
  cases ended : underway.write.apply underway.key writer.limit memory with
  | mk result after =>
      rw [ended] at fails conclude
      cases result with
      | ok done =>
          have landed : memory.lands writer.limit memory.calls = true := by
            rw [← Bool.not_eq_false, ← fails]
            simp
          simp only [Writer.step, busy, conclude, landed, Bool.not_true, Bool.or_false, and_self]
      | error fault =>
          have missed : memory.lands writer.limit memory.calls = false := fails.1 ⟨fault, rfl⟩
          simp only [Writer.step, busy, conclude, missed, Bool.not_false, Bool.or_true, and_self]

theorem Keeps.step (keeps : Keeps lands key start origin given writer memory) :
    Keeps lands key start origin given (writer.step memory).1 (writer.step memory).2.1 := by
  obtain ⟨done, made, progress⟩ := keeps
  cases busy : writer.underway with
  | none =>
      have fresh : made = [] := progress.rest busy
      have split := progress.parts
      subst fresh
      cases queue : writer.queue with
      | nil =>
          simp only [Writer.step, busy, queue]
          exact ⟨done, [], progress⟩
      | cons batch queued =>
          have own : batch.key = key := by
            apply progress.keys
            rw [split, queue]
            simp
          simp only [Writer.step, busy, queue, own]
          refine keeps_proceed progress.verdicts ?_ progress.keys progress.set progress.calls
            progress.finished progress.failed rfl
          rw [split, queue, ← own]
          simp [current, busy]
  | some underway =>
      have own : underway.key = key := by
        apply progress.keys ⟨underway.key, made ++ underway.write :: underway.later⟩
        rw [progress.parts]
        simp [current, busy]
      have one := wrote_one key writer.limit underway.write memory
      have verdicts := one.verdicts writer.limit
      have number := progress.calls
      obtain ⟨state, store⟩ := step_underway busy (progress.wait underway busy)
      rw [own, progress.verdicts] at state
      rw [own] at store
      rw [progress.verdicts] at one verdicts
      rw [state, store]
      have split : given = done ++ ⟨key, (made ++ [underway.write]) ++ underway.later⟩ ::
          writer.queue := by
        rw [progress.parts]
        simp [current, busy, own]
      apply keeps_proceed verdicts split progress.keys ?_ ?_ progress.finished progress.failed
      · rw [flawed_append, ← progress.flaw underway busy, ← number]
        simp [flawed]
      · -- The store after the write is the replay with this write at the end.
        rw [one.set, ← List.append_assoc, replay_append, List.length_append, ← Nat.add_assoc,
          ← number, progress.set]
        rfl
      · rw [one.calls, number, List.length_append, List.length_singleton, Nat.add_assoc]

theorem step_keeps {σ : Type} [SortedSets σ] (writer : Writer) (store : σ) :
    (writer.step store).1.limit = writer.limit ∧
      (writer.step store).1.running = writer.running := by
  have proceeds : ∀ (writer : Writer) (key : String) (flag : Bool) (store : σ)
      (writes : List Write), (writer.proceed key flag store writes).limit = writer.limit ∧
        (writer.proceed key flag store writes).running = writer.running := by
    intro writer key flag store writes
    cases writes with
    | nil => cases flag <;> exact ⟨rfl, rfl⟩
    | cons write later => exact ⟨rfl, rfl⟩
  simp only [Writer.step]
  split
  · split
    · exact proceeds _ _ _ _ _
    · exact proceeds _ _ _ _ _
  · split
    · exact ⟨rfl, rfl⟩
    · exact proceeds _ _ _ _ _

theorem Keeps.pass (keeps : Keeps lands key start origin given writer memory) (time : Nat) :
    Keeps lands key start origin given (writer.pass time) memory := by
  obtain ⟨done, made, progress⟩ := keeps
  refine ⟨done, made, progress.verdicts, ?_, progress.keys, progress.set, progress.calls,
    progress.finished, progress.failed, ?_, ?_, ?_⟩
  · rw [progress.parts]
    cases busy : writer.underway <;> simp [current, Writer.pass, busy]
  · intro idle
    exact progress.rest (by simpa [Writer.pass] using idle)
  · intro underway busy
    obtain ⟨before, held, rfl⟩ := Option.map_eq_some_iff.1 busy
    exact progress.flaw before held
  · intro underway busy
    obtain ⟨before, held, rfl⟩ := Option.map_eq_some_iff.1 busy
    exact progress.wait before held

theorem Keeps.settle (keeps : Keeps lands key start origin given writer memory) :
    Keeps lands key start origin given writer.settle memory := by
  obtain ⟨done, made, progress⟩ := keeps
  exact ⟨done, made, progress.verdicts, progress.parts, progress.keys, progress.set,
    progress.calls, progress.finished, progress.failed, progress.rest, progress.flaw,
    progress.wait⟩

end Writer

end OptOut.Replica
