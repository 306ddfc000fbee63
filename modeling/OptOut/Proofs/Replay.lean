import OptOut.Proofs.Memory

/-!
# Replaying writes

What becomes of a sorted set when writes are made to it one after another is determined by the
writes and by which of them take effect. The writes are numbered, and a verdict for each number says
whether the write of that number lands. Both the writer that works off a queue and the roster that
writes at once do what such a replay says.
-/

namespace OptOut.Replica

/-- The set after writes that are numbered on from `number`. -/
def replay (lands : Nat → Bool) : Nat → List Write → SortedSet → SortedSet
  | _, [], set => set
  | number, write :: rest, set =>
    replay lands (number + 1) rest (if lands number then write.effect set else set)

def flawed (lands : Nat → Bool) : Nat → List Write → Bool
  | _, [] => false
  | number, _ :: rest => !lands number || flawed lands (number + 1) rest

def flawedBatches (lands : Nat → Bool) : Nat → List Batch → Nat
  | _, [] => 0
  | number, batch :: rest =>
    (flawed lands number batch.writes).toNat +
      flawedBatches lands (number + batch.writes.length) rest

def writesOf (batches : List Batch) : List Write :=
  batches.flatMap Batch.writes

@[simp]
theorem writes_of_append (batches later : List Batch) :
    writesOf (batches ++ later) = writesOf batches ++ writesOf later :=
  List.flatMap_append

@[simp]
theorem writes_of_singleton (batch : Batch) : writesOf [batch] = batch.writes := by
  simp [writesOf]

variable {lands : Nat → Bool}

theorem replay_append (number : Nat) (writes later : List Write) (set : SortedSet) :
    replay lands number (writes ++ later) set =
      replay lands (number + writes.length) later (replay lands number writes set) := by
  induction writes generalizing number set with
  | nil => rfl
  | cons write rest induction =>
      rw [List.cons_append, replay, induction, List.length_cons, replay]
      congr 1
      omega

theorem flawed_append (number : Nat) (writes later : List Write) :
    flawed lands number (writes ++ later) =
      (flawed lands number writes || flawed lands (number + writes.length) later) := by
  induction writes generalizing number with
  | nil => simp [flawed]
  | cons write rest induction =>
      rw [List.cons_append, flawed, induction, List.length_cons, flawed, Bool.or_assoc]
      congr 3
      omega

theorem flawed_batches_append (number : Nat) (batches later : List Batch) :
    flawedBatches lands number (batches ++ later) =
      flawedBatches lands number batches +
        flawedBatches lands (number + (writesOf batches).length) later := by
  induction batches generalizing number with
  | nil => simp [flawedBatches, writesOf]
  | cons batch rest induction =>
      have total : (writesOf (batch :: rest)).length =
          batch.writes.length + (writesOf rest).length := by
        simp [writesOf]
      rw [List.cons_append, flawedBatches, induction, flawedBatches, total, ← Nat.add_assoc number]
      omega

/-- A replay reads the verdicts on its own writes only. -/
theorem replay_congr {lands' : Nat → Bool} {number number' : Nat}
    (same : ∀ step, lands (number + step) = lands' (number' + step)) (writes : List Write)
    (set : SortedSet) : replay lands number writes set = replay lands' number' writes set := by
  induction writes generalizing number number' set with
  | nil => rfl
  | cons write rest induction =>
      have next : ∀ step, lands (number + 1 + step) = lands' (number' + 1 + step) := by
        intro step
        rw [Nat.add_assoc, Nat.add_assoc, same]
      rw [replay, replay, show lands number = lands' number' from same 0, induction next]

theorem flawed_congr {lands' : Nat → Bool} {number number' : Nat}
    (same : ∀ step, lands (number + step) = lands' (number' + step)) (writes : List Write) :
    flawed lands number writes = flawed lands' number' writes := by
  induction writes generalizing number number' with
  | nil => rfl
  | cons write rest induction =>
      have next : ∀ step, lands (number + 1 + step) = lands' (number' + 1 + step) := by
        intro step
        rw [Nat.add_assoc, Nat.add_assoc, same]
      rw [flawed, flawed, show lands number = lands' number' from same 0, induction next]

/-! ## Writes at once -/

/-- The store after some calls that changed nothing but the set under a key. -/
structure Wrote (key : String) (set : SortedSet) (calls : Nat) (before after : Memory) : Prop where
    set : after.contents.set key = set
    calls : after.calls = before.calls + calls
    conditions : after.conditions = before.conditions

theorem Wrote.verdicts {key : String} {set : SortedSet} {calls : Nat} {before after : Memory}
    (wrote : Wrote key set calls before after) (limit : Millis) :
    after.lands limit = before.lands limit := by
  funext number
  rw [Memory.lands, Memory.lands, wrote.conditions]

theorem wrote_one (key : String) (limit : Millis) (write : Write) (memory : Memory) :
    Wrote key
      (if memory.lands limit memory.calls then write.effect (memory.contents.set key)
        else memory.contents.set key)
      1 memory (write.apply key limit memory).2 := by
  cases lands : memory.lands limit memory.calls with
  | true =>
      rw [Write.apply_landing lands key write]
      exact ⟨write.set_enact key memory.contents, rfl, rfl⟩
  | false =>
      obtain ⟨fault, failed⟩ := Write.apply_failing lands key write
      rw [failed]
      exact ⟨rfl, rfl, rfl⟩

theorem apply_fails_iff (key : String) (limit : Millis) (write : Write) (memory : Memory) :
    (∃ fault, (write.apply key limit memory).1 = .error fault) ↔
      memory.lands limit memory.calls = false := by
  cases lands : memory.lands limit memory.calls with
  | true => simp [Write.apply_landing lands key write]
  | false =>
      obtain ⟨fault, failed⟩ := Write.apply_failing lands key write
      simp [failed]

theorem apply_writes_replay (key : String) (limit : Millis) (writes : List Write)
    (memory : Memory) :
    Wrote key (replay (memory.lands limit) memory.calls writes (memory.contents.set key))
        writes.length memory (applyWrites key limit writes memory).2 ∧
      ((applyWrites key limit writes memory).1 = [] ↔
        flawed (memory.lands limit) memory.calls writes = false) := by
  induction writes generalizing memory with
  | nil => exact ⟨⟨rfl, rfl, rfl⟩, by simp [applyWrites, flawed]⟩
  | cons write rest induction =>
      have one := wrote_one key limit write memory
      have fails := apply_fails_iff key limit write memory
      obtain ⟨more, flaws⟩ := induction (write.apply key limit memory).2
      rw [one.verdicts, one.calls, one.set] at more
      rw [one.verdicts, one.calls] at flaws
      have whole : Wrote key (replay (memory.lands limit) memory.calls (write :: rest)
          (memory.contents.set key)) (rest.length + 1) memory
          (applyWrites key limit rest (write.apply key limit memory).2).2 :=
        ⟨more.set, by rw [more.calls, one.calls]; omega, by rw [more.conditions, one.conditions]⟩
      cases first : write.apply key limit memory with
      | mk result after =>
          rw [first] at whole flaws fails
          cases result with
          | ok done =>
              have landed : memory.lands limit memory.calls = true := by
                rw [← Bool.not_eq_false, ← fails]
                simp
              refine ⟨by simpa only [applyWrites, first, List.length_cons] using whole, ?_⟩
              simpa only [applyWrites, first, flawed, landed, Bool.not_true, Bool.false_or] using
                flaws
          | error fault =>
              have missed : memory.lands limit memory.calls = false := fails.1 ⟨fault, rfl⟩
              refine ⟨by simpa only [applyWrites, first, List.length_cons] using whole, ?_⟩
              simp [applyWrites, first, flawed, missed]

theorem Wrote.apply_writes {key : String} {limit : Millis} {writes : List Write}
    {set : SortedSet} {before after : Memory}
    (wrote : Wrote key (replay (before.lands limit) before.calls writes set) writes.length before
      after) (later : List Write) :
    Wrote key (replay (before.lands limit) before.calls (writes ++ later) set)
      (writes ++ later).length before (applyWrites key limit later after).2 := by
  obtain ⟨more, _⟩ := apply_writes_replay key limit later after
  rw [wrote.verdicts, wrote.calls, wrote.set, ← replay_append] at more
  refine ⟨more.set, ?_, more.conditions.trans wrote.conditions⟩
  rw [more.calls, wrote.calls, List.length_append, Nat.add_assoc]

end OptOut.Replica
