import OptOut.Proofs.Footprint
import OptOut.Proofs.Reach

/-!
# The outcome of a load

A load asks the store for the newest entries, counts all of them, and removes the oldest if there
are too many. Which of these calls are served settles what becomes of memory and of the store:
without the first, nothing changes at all; without one of the others, only memory does.
-/

namespace OptOut.Roster

variable {roster : Roster} {memory : Memory}

/-- What a load does whose first call is served. The calls after it have the next two numbers. -/
structure Brought (roster : Roster) (memory : Memory)
    (turn : Turn (Except RosterFault Nat) Roster Memory) : Prop where
    answer : turn.answer = .ok (min (roster.replica memory).size roster.room)
    order : turn.state.order = ((roster.stored memory).rtake roster.room).map ScoredMember.member
    known : ∀ sender, turn.state.has sender = true ↔ sender ∈ turn.state.order
    rest : turn.state = { roster with order := turn.state.order, members := turn.state.members }
    trimmed : memory.lands roster.settings.storeTimeout (memory.calls + 1) = true →
      (roster.room < (roster.replica memory).size →
        memory.trims roster.settings.storeTimeout (memory.calls + 2) = true) →
      roster.stored turn.backend = (roster.stored memory).rtake roster.room
    untouched : memory.lands roster.settings.storeTimeout (memory.calls + 1) = false ∨
        memory.trims roster.settings.storeTimeout (memory.calls + 2) = false ∨
        (roster.replica memory).size ≤ roster.room →
      turn.backend.contents = memory.contents
    others : ∀ key ≠ roster.settings.replicaKey,
      turn.backend.contents.set key = memory.contents.set key
    streams : turn.backend.contents.streams = memory.contents.streams ∧
      turn.backend.contents.appended = memory.contents.appended
    writes : turn.backend.contents.writes = memory.contents.writes

theorem load_brought (any : 0 < roster.room) (limited : roster.room < rankCount)
    (countable : roster.Countable memory)
    (served : memory.lands roster.settings.storeTimeout memory.calls = true) :
    roster.Brought memory (roster.load memory) := by
  obtain ⟨answer, state, order, backend⟩ := load_reached countable any served
  rw [reach_of_limited (Nat.le_of_lt limited)] at answer state order backend
  let newest := (roster.replica memory).members.rtake roster.room
  have countable' : (roster.replace newest).Countable memory.skip := countable
  have contents : (roster.load memory).backend.contents =
      if memory.lands roster.settings.storeTimeout (memory.calls + 1) = true ∧
          memory.trims roster.settings.storeTimeout (memory.calls + 2) = true ∧
          roster.room < (roster.replica memory).size
        then roster.trimmed memory
        else memory.contents := by
    rw [backend]
    exact (trim_outcome countable').1
  constructor
  · rw [answer, length_members_rtake, Nat.min_comm]
  · rw [state, order, stored, members_rtake]
    rfl
  · intro sender
    rw [state]
    exact (roster.replace_coherent (length_rtake_le _ _)).agree sender
  · rw [state]
    rfl
  · intro counts trims
    split at contents
    · exact stored_trimmed contents
    · rename_i idle
      have few : (roster.replica memory).size ≤ roster.room :=
        Nat.not_lt.1 fun many => idle ⟨counts, trims many, many⟩
      rw [stored, contents]
      exact (rtake_of_length_le few).symm
  · intro reasons
    rw [contents, if_neg]
    rintro ⟨counts, trims, many⟩
    rcases reasons with uncounted | untrimmed | few
    · rw [counts] at uncounted
      cases uncounted
    · rw [trims] at untrimmed
      cases untrimmed
    · exact Nat.not_lt.2 few many
  · intro key apart
    rw [contents]
    split
    · exact Contents.set_put_set_other (Ne.symm apart) _ _
    · rfl
  · rw [contents]
    split <;> exact ⟨rfl, rfl⟩
  · rw [contents]
    split <;> rfl

def Unhindered (roster : Roster) (memory : Memory) : Prop :=
  memory.lands roster.settings.storeTimeout memory.calls = true ∧
    memory.lands roster.settings.storeTimeout (memory.calls + 1) = true ∧
    (roster.room < (roster.replica memory).size →
      memory.trims roster.settings.storeTimeout (memory.calls + 2) = true)

/-- A second load finds what the first one left. -/
theorem load_again (any : 0 < roster.room) (limited : roster.room < rankCount)
    (countable : roster.Countable memory) (unhindered : roster.Unhindered memory) {later : Memory}
    (same : later.contents = (roster.load memory).backend.contents)
    (unhindered' : (roster.load memory).state.Unhindered later) :
    let turn := roster.load memory
    let again := turn.state.load later
    again.answer = turn.answer ∧ again.state = turn.state ∧
      again.backend.contents = later.contents := by
  intro turn again
  let newest := (roster.replica memory).members.rtake roster.room
  have brought := load_brought any limited countable unhindered.1
  obtain ⟨answer, state, order, _⟩ := load_reached countable any unhindered.1
  rw [reach_of_limited (Nat.le_of_lt limited)] at answer state order
  have settings : turn.state.settings = roster.settings := load_settings roster memory
  have room : turn.state.room = roster.room := by
    rw [Roster.room, settings, Roster.room]
  have few : newest.length ≤ roster.room := length_rtake_le _ _
  have members : (turn.state.replica later).members = newest := by
    have entries := brought.trimmed unhindered.2.1 unhindered.2.2
    rw [SortedSet.members, replica, settings, same]
    exact (congrArg (List.map ScoredMember.member) entries).trans (members_rtake _ _)
  have size : (turn.state.replica later).size = newest.length := by
    rw [← SortedSet.length_members, members]
  have countable' : turn.state.Countable later :=
    Nat.lt_of_le_of_lt (size.trans_le few) limited
  have any' : 0 < turn.state.room := room ▸ any
  have limited' : turn.state.room < rankCount := room ▸ limited
  obtain ⟨answer', state', _, _⟩ := load_reached countable' any' unhindered'.1
  rw [reach_of_limited (Nat.le_of_lt limited'), members, room, rtake_of_length_le few]
    at answer' state'
  refine ⟨answer'.trans answer.symm, ?_, ?_⟩
  · rw [show again.state = _ from state', show turn.state = _ from state]
    rfl
  · -- What the first load left fits, so that the second has nothing to remove.
    have unneeded := (load_brought any' limited' countable' unhindered'.1).untouched
    exact unneeded (.inr (.inr (size.trans_le (few.trans room.ge))))

/-- What becomes of a load, whichever of its calls are served. -/
theorem load_outcome (any : 0 < roster.room) (limited : roster.room < rankCount)
    (countable : roster.Countable memory) :
    let turn := roster.load memory
    (memory.lands roster.settings.storeTimeout memory.calls = false →
      ∃ fault, (SortedSets.rangeDescending roster.settings.replicaKey 0
          (roster.settings.capacity.toInt64 - 1) memory).within
            roster.settings.storeTimeout .range = (.error fault, memory.skip) ∧
        turn = ⟨.error (.store fault), roster, memory.skip, []⟩) ∧
    (memory.lands roster.settings.storeTimeout memory.calls = true →
      roster.Brought memory turn) ∧
    (roster.Unhindered memory → ∀ later : Memory, later.contents = turn.backend.contents →
      turn.state.Unhindered later →
      let again := turn.state.load later
      again.answer = turn.answer ∧ again.state = turn.state ∧
        again.backend.contents = later.contents) := by
  intro turn
  refine ⟨?_, load_brought any limited countable, ?_⟩
  · intro failed
    obtain ⟨fault, refused⟩ := Memory.range_failed failed roster.settings.replicaKey 0
      (roster.settings.capacity.toInt64 - 1)
    exact ⟨fault, refused, load_refused roster memory refused⟩
  · intro unhindered later same unhindered'
    exact load_again any limited countable unhindered same unhindered'

/-- With room for two, the scores of negative zero and zero differ, those of two senders at zero do
not, and not-a-number comes last. The store refuses to trim, until the load is repeated. -/
theorem load_outcome_of_ties :
    let roster : Roster := { settings := { capacity := 2 }, order := ["erin"] }
    let negativeZero : Score := ⟨0x8000000000000000⟩
    let notANumber : Score := ⟨0x7FF8000000000000⟩
    let seeds := [(notANumber, "dave"), (⟨0⟩, "bob"), (negativeZero, "carol"), (⟨0⟩, "alice")]
    let contents := seeds.foldl
      (fun contents entry => contents.seed "processed_pubkeys_zset" entry.1 entry.2) ({} : Contents)
    let refusing : Memory := { contents, conditions := fun number => { trimUp := number != 2 } }
    let memory : Memory := { contents }
    roster.Brought refusing (roster.load refusing) ∧
      (roster.load refusing).backend.contents = contents ∧
      (roster.load memory).answer = .ok 2 ∧ (roster.load memory).state.order = ["bob", "dave"] ∧
      roster.stored (roster.load memory).backend = [⟨⟨0⟩, "bob"⟩, ⟨notANumber, "dave"⟩] ∧
      ((roster.load memory).state.load (roster.load memory).backend).state =
        (roster.load memory).state := by
  intro roster negativeZero notANumber seeds contents refusing memory
  have any : 0 < roster.room := by decide
  have limited : roster.room < rankCount := by decide
  have countable : roster.Countable memory := by
    unfold Countable
    decide +kernel
  have entries : (roster.stored memory).rtake roster.room =
      [⟨⟨0⟩, "bob"⟩, ⟨notANumber, "dave"⟩] := by
    decide +kernel
  have size : min (roster.replica memory).size roster.room = 2 := by decide +kernel
  have unhindered : roster.Unhindered memory := by
    unfold Unhindered
    decide +kernel
  have unhindered' : (roster.load memory).state.Unhindered (roster.load memory).backend := by
    unfold Unhindered
    decide +kernel
  obtain ⟨_, brought, again⟩ := load_outcome any limited countable
  have brought := brought unhindered.1
  have countable' : roster.Countable refusing := countable
  obtain ⟨_, brought', _⟩ := load_outcome any limited countable'
  have brought' := brought' (by decide +kernel)
  refine ⟨brought', brought'.untouched (.inr (.inl (by decide +kernel))),
    size ▸ brought.answer, ?_, ?_, ?_⟩
  · rw [brought.order, entries]
    rfl
  · rw [brought.trimmed unhindered.2.1 unhindered.2.2, entries]
  · exact (again unhindered _ rfl unhindered').2.1

end OptOut.Roster
