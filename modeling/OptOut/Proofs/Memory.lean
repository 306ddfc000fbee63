import OptOut.Deployment

/-!
# Calls on a store in memory

A call that is bounded by a limit either takes effect at once or leaves the contents as they were;
which of the two is settled by the conditions that the call of its number meets. A write that takes
effect acts on the sorted set of its key alone.
-/

namespace OptOut

def Conditions.serves (conditions : Conditions) (refusal : Conditions → Option StoreFault)
    (limit : Millis) : Bool :=
  (refusal conditions).isNone && !decide (limit < conditions.latency)

namespace Memory

variable {α : Type} {refusal : Conditions → Option StoreFault} {limit : Millis}

def skip (memory : Memory) : Memory :=
  { memory with calls := memory.calls + 1 }

theorem call_refused {memory : Memory} {fault : StoreFault} (effect : Contents → α × Contents)
    (refused : refusal memory.current = some fault) :
    memory.call refusal effect =
      ⟨memory.current.latency, .error fault, memory.skip, memory.skip⟩ := by
  simp only [call, refused, skip]

theorem call_accepted {memory : Memory} (effect : Contents → α × Contents)
    (accepted : refusal memory.current = none) :
    memory.call refusal effect =
      ⟨memory.current.latency, .ok (effect memory.contents).1,
        { memory.skip with contents := (effect memory.contents).2 }, memory.skip⟩ := by
  simp only [call, accepted, skip]

theorem call_served {memory : Memory} (effect : Contents → α × Contents)
    (serves : memory.current.serves refusal limit = true) (operation : Operation) :
    (memory.call refusal effect).within limit operation =
      (.ok (effect memory.contents).1,
        { memory.skip with contents := (effect memory.contents).2 }) := by
  simp only [Conditions.serves, Bool.and_eq_true, Option.isNone_iff_eq_none,
    Bool.not_eq_true'] at serves
  obtain ⟨accepted, inTime⟩ := serves
  rw [call_accepted effect accepted]
  simp only [Call.within, Call.conclude, Call.expires, inTime, Bool.false_eq_true, if_false]

theorem call_failed {memory : Memory} (effect : Contents → α × Contents)
    (serves : memory.current.serves refusal limit = false) (operation : Operation) :
    ∃ fault, (memory.call refusal effect).within limit operation = (.error fault, memory.skip) := by
  cases refused : refusal memory.current with
  | some fault =>
      rw [call_refused effect refused]
      simp only [Call.within, Call.conclude]
      split
      · exact ⟨_, rfl⟩
      · exact ⟨_, rfl⟩
  | none =>
      have late : decide (limit < memory.current.latency) = true := by
        simpa [Conditions.serves, refused] using serves
      rw [call_accepted effect refused]
      simp only [Call.within, Call.conclude, Call.expires, late, if_true]
      exact ⟨_, rfl⟩

/-- A bounded call is served, or it fails and leaves the contents as they were. -/
theorem call_cases (memory : Memory) (refusal : Conditions → Option StoreFault) (limit : Millis)
    (effect : Contents → α × Contents) (operation : Operation) :
    (∃ fault, (memory.call refusal effect).within limit operation = (.error fault, memory.skip)) ∨
      (memory.call refusal effect).within limit operation =
        (.ok (effect memory.contents).1,
          { memory.skip with contents := (effect memory.contents).2 }) := by
  cases serves : memory.current.serves refusal limit with
  | false => exact .inl (call_failed effect serves operation)
  | true => exact .inr (call_served effect serves operation)

/-! The three calls of a load. -/

theorem range_cases (memory : Memory) (key : String) (start stop : Int64) (limit : Millis) :
    (∃ fault, (SortedSets.rangeDescending key start stop memory).within limit .range =
        (.error fault, memory.skip)) ∨
      (SortedSets.rangeDescending key start stop memory).within limit .range =
        (.ok (memory.contents.rangeDescending key start stop), memory.skip) :=
  memory.call_cases Conditions.sortedSetRefusal limit
    (fun contents => (contents.rangeDescending key start stop, contents)) .range

theorem cardinality_cases (memory : Memory) (key : String) (limit : Millis) :
    (∃ fault, (SortedSets.cardinality key memory).within limit .cardinality =
        (.error fault, memory.skip)) ∨
      (SortedSets.cardinality key memory).within limit .cardinality =
        (.ok (.ofNat (memory.contents.set key).size), memory.skip) :=
  memory.call_cases Conditions.sortedSetRefusal limit
    (fun contents => (UInt64.ofNat (contents.set key).size, contents)) .cardinality

theorem trim_cases (memory : Memory) (key : String) (start stop : Int64) (limit : Millis) :
    (∃ fault, (SortedSets.trimLowest key start stop memory).within limit .trim =
        (.error fault, memory.skip)) ∨
      (SortedSets.trimLowest key start stop memory).within limit .trim =
        (.ok (.ofNat (memory.contents.trimLowest key start stop).1),
          { memory.skip with contents := (memory.contents.trimLowest key start stop).2 }) :=
  memory.call_cases Conditions.trimRefusal limit
    (fun contents => (UInt64.ofNat (contents.trimLowest key start stop).1,
      (contents.trimLowest key start stop).2)) .trim

/-- Whether the write that is the call of a number takes effect within a limit. -/
def lands (memory : Memory) (limit : Millis) (number : Nat) : Bool :=
  (memory.conditions number).serves Conditions.sortedSetRefusal limit

def trims (memory : Memory) (limit : Millis) (number : Nat) : Bool :=
  (memory.conditions number).serves Conditions.trimRefusal limit

theorem range_served {memory : Memory} (served : memory.lands limit memory.calls = true)
    (key : String) (start stop : Int64) :
    (SortedSets.rangeDescending key start stop memory).within limit .range =
      (.ok (memory.contents.rangeDescending key start stop), memory.skip) :=
  call_served (fun contents => (contents.rangeDescending key start stop, contents)) served .range

theorem range_failed {memory : Memory} (failed : memory.lands limit memory.calls = false)
    (key : String) (start stop : Int64) :
    ∃ fault, (SortedSets.rangeDescending key start stop memory).within limit .range =
      (.error fault, memory.skip) :=
  call_failed (fun contents => (contents.rangeDescending key start stop, contents)) failed .range

theorem cardinality_served {memory : Memory} (served : memory.lands limit memory.calls = true)
    (key : String) :
    (SortedSets.cardinality key memory).within limit .cardinality =
      (.ok (.ofNat (memory.contents.set key).size), memory.skip) :=
  call_served (fun contents => (UInt64.ofNat (contents.set key).size, contents)) served .cardinality

theorem cardinality_failed {memory : Memory} (failed : memory.lands limit memory.calls = false)
    (key : String) :
    ∃ fault, (SortedSets.cardinality key memory).within limit .cardinality =
      (.error fault, memory.skip) :=
  call_failed (fun contents => (UInt64.ofNat (contents.set key).size, contents)) failed .cardinality

theorem trim_served {memory : Memory} (served : memory.trims limit memory.calls = true)
    (key : String) (start stop : Int64) :
    (SortedSets.trimLowest key start stop memory).within limit .trim =
      (.ok (.ofNat (memory.contents.trimLowest key start stop).1),
        { memory.skip with contents := (memory.contents.trimLowest key start stop).2 }) :=
  call_served (fun contents => (UInt64.ofNat (contents.trimLowest key start stop).1,
    (contents.trimLowest key start stop).2)) served .trim

theorem trim_failed {memory : Memory} (failed : memory.trims limit memory.calls = false)
    (key : String) (start stop : Int64) :
    ∃ fault, (SortedSets.trimLowest key start stop memory).within limit .trim =
      (.error fault, memory.skip) :=
  call_failed (fun contents => (UInt64.ofNat (contents.trimLowest key start stop).1,
    (contents.trimLowest key start stop).2)) failed .trim

end Memory

/-! ## Sorted sets under their keys -/

namespace Contents

variable (contents : Contents) (key : String)

@[simp]
theorem set_put_set (set : SortedSet) : (contents.putSet key set).set key = set := by
  simp [putSet, Contents.set, Std.TreeMap.getD_insert_self]

@[simp]
theorem set_count_write : contents.countWrite.set key = contents.set key :=
  rfl

theorem sets_count_write : contents.countWrite.sets = contents.sets :=
  rfl

theorem set_upsert (score : Score) (member : Sender) :
    (contents.upsert key score member).set key = (contents.set key).insert score member := by
  rw [upsert, seed, set_count_write, set_put_set]

theorem set_remove (member : Sender) :
    (contents.remove key member).set key = (contents.set key).erase member := by
  simp only [remove, sets_count_write]
  split
  · rename_i set found
    have present : contents.set key = set := by
      rw [Contents.set, Std.TreeMap.getD_eq_getD_getElem?, found, Option.getD_some]
    rw [set_put_set, present]
  · rename_i missing
    have absent : contents.set key = .empty := by
      rw [Contents.set, Std.TreeMap.getD_eq_getD_getElem?, missing, Option.getD_none]
    rw [set_count_write, absent]
    rfl

end Contents

/-! ## Writes -/

namespace Replica.Write

def effect : Write → SortedSet → SortedSet
  | upsert member score, set => set.insert score member
  | remove member, set => set.erase member

def enact (key : String) : Write → Contents → Contents
  | upsert member score, contents => contents.upsert key score member
  | remove member, contents => contents.remove key member

theorem set_enact (key : String) (write : Write) (contents : Contents) :
    (write.enact key contents).set key = write.effect (contents.set key) := by
  cases write with
  | upsert member score => exact contents.set_upsert key score member
  | remove member => exact contents.set_remove key member

variable {memory : Memory} {limit : Millis}

theorem apply_landing (lands : memory.lands limit memory.calls = true) (key : String)
    (write : Write) :
    write.apply key limit memory =
      (.ok (), { memory.skip with contents := write.enact key memory.contents }) := by
  cases write with
  | upsert member score =>
      exact Memory.call_served (fun contents => ((), contents.upsert key score member)) lands .upsert
  | remove member =>
      exact Memory.call_served (fun contents => ((), contents.remove key member)) lands .remove

theorem apply_failing (lands : memory.lands limit memory.calls = false) (key : String)
    (write : Write) :
    ∃ fault, write.apply key limit memory = (.error fault, memory.skip) := by
  cases write with
  | upsert member score =>
      exact Memory.call_failed (fun contents => ((), contents.upsert key score member)) lands .upsert
  | remove member =>
      exact Memory.call_failed (fun contents => ((), contents.remove key member)) lands .remove

end Replica.Write

/-! ## The store of a deployment -/

theorem Call.conclude_embed {σ τ α : Type} (call : Call σ α) (larger : σ → τ) (limit : Millis)
    (operation : Operation) (expired : Bool) :
    (call.embed larger).conclude limit operation expired =
      ((call.conclude limit operation expired).1,
        larger (call.conclude limit operation expired).2) := by
  cases expired <;> rfl

theorem Call.within_embed {σ τ α : Type} (call : Call σ α) (larger : σ → τ) (limit : Millis)
    (operation : Operation) :
    (call.embed larger).within limit operation =
      ((call.within limit operation).1, larger (call.within limit operation).2) :=
  call.conclude_embed larger limit operation (call.expires limit)

namespace Deployment

theorem apply_write (deployment : Deployment) (write : Replica.Write) (key : String)
    (limit : Millis) :
    write.apply key limit deployment =
      ((write.apply key limit deployment.memory).1,
        deployment.withMemory (write.apply key limit deployment.memory).2) := by
  cases write with
  | upsert member score => exact Call.within_embed _ deployment.withMemory limit .upsert
  | remove member => exact Call.within_embed _ deployment.withMemory limit .remove

theorem apply_writes (deployment : Deployment) (writes : List Replica.Write) (key : String)
    (limit : Millis) :
    Replica.applyWrites key limit writes deployment =
      ((Replica.applyWrites key limit writes deployment.memory).1,
        deployment.withMemory (Replica.applyWrites key limit writes deployment.memory).2) := by
  induction writes generalizing deployment with
  | nil => rfl
  | cons write rest induction =>
      simp only [Replica.applyWrites, apply_write]
      cases first : write.apply key limit deployment.memory with
      | mk result memory =>
          cases result with
          | ok done =>
              dsimp only
              rw [induction]
              rfl
          | error fault =>
              dsimp only
              rw [induction]
              rfl

end Deployment

end OptOut
