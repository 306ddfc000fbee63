import OptOut.Proofs.SortedSet

/-!
# Loading from a store in memory

What a load remembers is the newest of the replica, up to the capacity. The replica is left as it
was or is trimmed to just these, and a load that logs nothing has trimmed it.
-/

namespace OptOut

namespace Roster

variable (roster : Roster) (memory : Memory)

def stored : List ScoredMember :=
  (memory.contents.set roster.settings.replicaKey).entries

def replica : SortedSet :=
  memory.contents.set roster.settings.replicaKey

def trimmed : Contents :=
  memory.contents.putSet roster.settings.replicaKey ((roster.replica memory).newest roster.room)

/-- The number of entries is one that a rank can count. -/
def Countable : Prop :=
  (roster.stored memory).length < rankCount

variable {roster memory}

/-! A trim needs up to two calls: one that counts the entries, and if they are too many, one that
removes the oldest. -/

theorem toNat_total (countable : roster.Countable memory) :
    (UInt64.ofNat (roster.replica memory).size).toNat = (roster.replica memory).size :=
  UInt64.toNat_ofNat_of_lt' (Nat.lt_trans countable (by decide))

theorem total_le_iff (countable : roster.Countable memory) :
    UInt64.ofNat (roster.replica memory).size ≤ roster.settings.capacity ↔
      (roster.replica memory).size ≤ roster.room := by
  rw [UInt64.le_iff_toNat_le, toNat_total countable]
  rfl

theorem excess_eq (countable : roster.Countable memory)
    (many : roster.room < (roster.replica memory).size) :
    (UInt64.ofNat (roster.replica memory).size - roster.settings.capacity).toInt64 =
      Int64.ofNat ((roster.replica memory).size - roster.room) := by
  have fits : roster.settings.capacity ≤ UInt64.ofNat (roster.replica memory).size := by
    rw [UInt64.le_iff_toNat_le, toNat_total countable]
    exact Nat.le_of_lt many
  rw [int64_of_uint64, UInt64.toNat_sub_of_le _ _ fits, toNat_total countable]
  rfl

theorem trim_uncounted
    (failed : memory.lands roster.settings.storeTimeout memory.calls = false) :
    ∃ fault, roster.trimReplica memory = (.error fault, memory.skip) := by
  obtain ⟨fault, uncounted⟩ := Memory.cardinality_failed failed roster.settings.replicaKey
  exact ⟨fault, by simp only [trimReplica, uncounted]⟩

theorem trim_few (countable : roster.Countable memory)
    (counts : memory.lands roster.settings.storeTimeout memory.calls = true)
    (few : (roster.replica memory).size ≤ roster.room) :
    roster.trimReplica memory = (.ok (), memory.skip) := by
  simp only [trimReplica, Memory.cardinality_served counts]
  exact if_pos ((total_le_iff countable).2 few)

theorem trim_refused (countable : roster.Countable memory)
    (counts : memory.lands roster.settings.storeTimeout memory.calls = true)
    (many : roster.room < (roster.replica memory).size)
    (failed : memory.trims roster.settings.storeTimeout (memory.calls + 1) = false) :
    ∃ fault, roster.trimReplica memory = (.error fault, memory.skip.skip) := by
  have beyond := mt (total_le_iff countable).1 (Nat.not_le.2 many)
  have failed' : memory.skip.trims roster.settings.storeTimeout memory.skip.calls = false := failed
  obtain ⟨fault, untrimmed⟩ := Memory.trim_failed failed' roster.settings.replicaKey 0
    ((UInt64.ofNat (roster.replica memory).size - roster.settings.capacity).toInt64 - 1)
  rw [replica] at beyond untrimmed
  exact ⟨fault, by
    simp only [trimReplica, Memory.cardinality_served counts, if_neg beyond, untrimmed]⟩

theorem trim_newest (countable : roster.Countable memory)
    (counts : memory.lands roster.settings.storeTimeout memory.calls = true)
    (many : roster.room < (roster.replica memory).size)
    (trims : memory.trims roster.settings.storeTimeout (memory.calls + 1) = true) :
    roster.trimReplica memory =
      (.ok (), { memory.skip.skip with contents := roster.trimmed memory }) := by
  have beyond := mt (total_le_iff countable).1 (Nat.not_le.2 many)
  have excess := excess_eq countable many
  have oldest : memory.skip.contents.trimLowest roster.settings.replicaKey 0
      (Int64.ofNat ((roster.replica memory).size - roster.room) - 1) =
        ((roster.replica memory).size - roster.room, roster.trimmed memory) := by
    have kept := memory.contents.trim_oldest roster.settings.replicaKey countable
      (Nat.sub_pos_of_lt many) (Nat.sub_le _ _)
    rwa [← replica, Nat.sub_sub_self (Nat.le_of_lt many)] at kept
  have trims' : memory.skip.trims roster.settings.storeTimeout memory.skip.calls = true := trims
  have served := Memory.trim_served trims' roster.settings.replicaKey 0
    (Int64.ofNat ((roster.replica memory).size - roster.room) - 1)
  rw [oldest] at served
  rw [replica] at beyond excess served
  simp only [trimReplica, Memory.cardinality_served counts, if_neg beyond, excess, served]

/-- A trim changes the store if there is something to remove and both of its calls are served. It
does not succeed without the calls that it needs. -/
theorem trim_outcome (countable : roster.Countable memory) :
    ((roster.trimReplica memory).2.contents =
      if memory.lands roster.settings.storeTimeout memory.calls = true ∧
          memory.trims roster.settings.storeTimeout (memory.calls + 1) = true ∧
          roster.room < (roster.replica memory).size
        then roster.trimmed memory
        else memory.contents) ∧
    ((roster.trimReplica memory).1 = .ok () →
      memory.lands roster.settings.storeTimeout memory.calls = true ∧
        (roster.room < (roster.replica memory).size →
          memory.trims roster.settings.storeTimeout (memory.calls + 1) = true)) := by
  cases counts : memory.lands roster.settings.storeTimeout memory.calls with
  | false =>
      obtain ⟨fault, trim⟩ := trim_uncounted counts
      rw [trim, if_neg (by simp)]
      exact ⟨rfl, fun done => nomatch done⟩
  | true =>
      rcases Nat.lt_or_ge roster.room (roster.replica memory).size with many | few
      · cases trims : memory.trims roster.settings.storeTimeout (memory.calls + 1) with
        | false =>
            obtain ⟨fault, trim⟩ := trim_refused countable counts many trims
            rw [trim, if_neg (by simp)]
            exact ⟨rfl, fun done => nomatch done⟩
        | true =>
            rw [trim_newest countable counts many trims, if_pos ⟨rfl, rfl, many⟩]
            exact ⟨rfl, fun _ => ⟨rfl, fun _ => rfl⟩⟩
      · rw [trim_few countable counts few, if_neg (fun all => Nat.not_lt.2 few all.2.2)]
        exact ⟨rfl, fun _ => ⟨rfl, fun many => absurd many (Nat.not_lt.2 few)⟩⟩

theorem stored_trimmed {trimmed : Memory} (contents : trimmed.contents = roster.trimmed memory) :
    roster.stored trimmed = (roster.stored memory).rtake roster.room := by
  rw [stored, contents, Roster.trimmed, Contents.set_put_set]
  rfl

theorem trim_replica (countable : roster.Countable memory) :
    (roster.stored (roster.trimReplica memory).2 = roster.stored memory ∨
        roster.stored (roster.trimReplica memory).2 = (roster.stored memory).rtake roster.room) ∧
      ((roster.trimReplica memory).1 = .ok () →
        roster.stored (roster.trimReplica memory).2 = (roster.stored memory).rtake roster.room) := by
  obtain ⟨contents, needed⟩ := trim_outcome countable
  split at contents
  · have newest := stored_trimmed contents
    exact ⟨.inr newest, fun _ => newest⟩
  · rename_i idle
    have same : roster.stored (roster.trimReplica memory).2 = roster.stored memory := by
      rw [stored, contents, stored]
    refine ⟨.inl same, fun done => ?_⟩
    obtain ⟨counts, trims⟩ := needed done
    have few : (roster.stored memory).length ≤ roster.room :=
      Nat.not_lt.1 fun many => idle ⟨counts, trims many, many⟩
    rw [same, rtake_of_length_le few]

theorem members_rtake (set : SortedSet) (count : Nat) :
    (set.entries.rtake count).map ScoredMember.member = set.members.rtake count := by
  rw [List.rtake, List.map_drop, List.rtake, set.length_members]
  rfl

structure Loaded (roster : Roster) (memory : Memory)
    (turn : Turn (Except RosterFault Nat) Roster Memory) : Prop where
    answer : turn.answer = .ok turn.state.order.length
    order : turn.state.order = ((roster.stored memory).rtake roster.room).map ScoredMember.member
    replica : roster.stored turn.backend = roster.stored memory ∨
      roster.stored turn.backend = (roster.stored memory).rtake roster.room
    trimmed : turn.log = [] →
      roster.stored turn.backend = (roster.stored memory).rtake roster.room

/-- A load fails and changes nothing, or it brings the newest of the replica. -/
theorem load_cases (countable : roster.Countable memory) (any : 0 < roster.room)
    (limited : roster.room < rankCount) :
    (∃ fault, roster.load memory = ⟨.error (.store fault), roster, memory.skip, []⟩) ∨
      roster.Loaded memory (roster.load memory) := by
  have newest : memory.contents.rangeDescending roster.settings.replicaKey 0
      (roster.settings.capacity.toInt64 - 1) =
        (memory.contents.set roster.settings.replicaKey).members.reverse.take roster.room := by
    rw [int64_of_uint64]
    exact memory.contents.range_newest _ countable any limited
  have range := memory.range_cases roster.settings.replicaKey 0
    (roster.settings.capacity.toInt64 - 1) roster.settings.storeTimeout
  rw [newest] at range
  rcases range with ⟨fault, refused⟩ | answered
  · exact .inl ⟨fault, load_refused roster memory refused⟩
  · right
    obtain ⟨answer, state, backend, quiet⟩ := load_answered roster memory answered
    have settings : (roster.load memory).state.settings = roster.settings :=
      load_settings roster memory
    have room : (roster.load memory).state.room = roster.room := by
      rw [Roster.room, settings, Roster.room]
    have kept : ∀ other, (roster.load memory).state.stored other = roster.stored other := by
      intro other
      rw [stored, settings, stored]
    have countable' : (roster.load memory).state.Countable memory.skip := by
      rw [Countable, kept]
      exact countable
    obtain ⟨replica, trimmed⟩ := trim_replica countable'
    rw [kept, kept, room] at replica trimmed
    rw [← state] at answer backend quiet
    have distinct := (memory.contents.set roster.settings.replicaKey).members_nodup
    have order : ((((memory.contents.set roster.settings.replicaKey).members.reverse.take
        roster.room).take roster.room).reverse) =
          (memory.contents.set roster.settings.replicaKey).members.rtake roster.room := by
      rw [List.take_take, Nat.min_self, ← List.rtake_eq_reverse_take_reverse]
    refine ⟨answer, ?_, ?_, ?_⟩
    · rw [state, order, replace_order _ (distinct.sublist (rtake_suffix _ _).sublist), stored,
        members_rtake]
    · rw [backend]
      exact replica
    · intro silent
      rw [backend]
      exact trimmed (quiet silent)

/-- What a load leaves in the replica in front of what it brings: nothing, unless the roster is
full and the replica was not trimmed. -/
theorem Loaded.layers {turn : Turn (Except RosterFault Nat) Roster Memory}
    (loaded : roster.Loaded memory turn) :
    ∃ older, (roster.stored turn.backend).map ScoredMember.member = older ++ turn.state.order ∧
      (∀ entry ∈ roster.stored turn.backend, entry ∈ roster.stored memory) ∧
      (older = [] ∨ turn.state.order.length = roster.room) ∧ (turn.log = [] → older = []) := by
  rcases loaded.replica with untouched | trimmed
  · let entries := roster.stored memory
    refine ⟨(entries.take (entries.length - roster.room)).map ScoredMember.member, ?_, ?_, ?_, ?_⟩
    · rw [untouched, loaded.order, ← List.map_append, List.rtake, List.take_append_drop]
    · intro entry held
      rwa [untouched] at held
    · rcases Nat.le_total entries.length roster.room with few | many
      · rw [Nat.sub_eq_zero_of_le few]
        exact .inl rfl
      · right
        rw [loaded.order, List.length_map, List.rtake, List.length_drop]
        exact Nat.sub_sub_self many
    · intro quiet
      have same : entries = entries.rtake roster.room := untouched.symm.trans (loaded.trimmed quiet)
      have few : entries.length ≤ roster.room := by
        rw [same]
        exact length_rtake_le _ _
      rw [Nat.sub_eq_zero_of_le few]
      rfl
  · refine ⟨[], ?_, ?_, .inl rfl, fun _ => rfl⟩
    · rw [trimmed, loaded.order, List.nil_append]
    · intro entry held
      rw [trimmed] at held
      exact (rtake_suffix _ _).subset held

/-! ## In a deployment

Only the store of a deployment takes part in a load. -/

theorem trim_replica_deployment (roster : Roster) (deployment : Deployment) :
    roster.trimReplica deployment =
      ((roster.trimReplica deployment.memory).1,
        deployment.withMemory (roster.trimReplica deployment.memory).2) := by
  have count : (SortedSets.cardinality roster.settings.replicaKey deployment).within
      roster.settings.storeTimeout .cardinality = _ :=
    Call.within_embed _ deployment.withMemory roster.settings.storeTimeout .cardinality
  cases counted : (SortedSets.cardinality roster.settings.replicaKey deployment.memory).within
      roster.settings.storeTimeout .cardinality with
  | mk total memory =>
      rw [counted] at count
      cases total with
      | error fault => simp only [trimReplica, count, counted]
      | ok total =>
          simp only [trimReplica, count, counted]
          by_cases few : total ≤ roster.settings.capacity
          · rw [if_pos few, if_pos few]
          · rw [if_neg few, if_neg few]
            have trim : (SortedSets.trimLowest roster.settings.replicaKey 0
                ((total - roster.settings.capacity).toInt64 - 1)
                (deployment.withMemory memory)).within roster.settings.storeTimeout .trim = _ :=
              Call.within_embed (SortedSets.trimLowest roster.settings.replicaKey 0
                ((total - roster.settings.capacity).toInt64 - 1) memory) deployment.withMemory
                roster.settings.storeTimeout .trim
            rw [trim]
            cases (SortedSets.trimLowest roster.settings.replicaKey 0
                ((total - roster.settings.capacity).toInt64 - 1) memory).within
                roster.settings.storeTimeout .trim with
            | mk removed left => cases removed <;> rfl

theorem load_deployment (roster : Roster) (deployment : Deployment) :
    let turn := roster.load deployment.memory
    roster.load deployment =
      ⟨turn.answer, turn.state, deployment.withMemory turn.backend, turn.log⟩ := by
  have range : (SortedSets.rangeDescending roster.settings.replicaKey 0
      (roster.settings.capacity.toInt64 - 1) deployment).within
      roster.settings.storeTimeout .range = _ :=
    Call.within_embed _ deployment.withMemory roster.settings.storeTimeout .range
  cases answer : (SortedSets.rangeDescending roster.settings.replicaKey 0
      (roster.settings.capacity.toInt64 - 1) deployment.memory).within
      roster.settings.storeTimeout .range with
  | mk result left =>
      rw [answer] at range
      cases result with
      | error fault =>
          rw [load_refused roster deployment range, load_refused roster deployment.memory answer]
      | ok newestFirst =>
          have trim := trim_replica_deployment
            (roster.replace (newestFirst.take roster.settings.capacity.toNat).reverse)
            (deployment.withMemory left)
          simp only [load, range, answer, trim]
          rfl

end Roster

end OptOut
