import OptOut.Proofs.Roster

/-!
# A roster over any store

A store may answer a load with more senders than it was asked for, in any order and some of them
twice, it may fail, and it may change in any way while nobody looks. Whatever it does, the order and
the members of a roster agree and stay within the capacity, and there are as many of them as the
last load brought and were added since, less those evicted since.
-/

namespace OptOut

namespace Roster

variable {β : Type} [Backend β] {roster : Roster} {sender : Sender}

theorem of_settings_eq {settings : RosterSettings} (made : ofSettings settings = .ok roster) :
    settings.check = .ok () ∧ roster = { settings } := by
  cases check : settings.check with
  | error fault => simp [ofSettings, check, Except.map] at made
  | ok valid => exact ⟨rfl, by simpa [ofSettings, check, Except.map, eq_comm] using made⟩

/-- A sender that is added is counted, and so is the one that has to go for it. -/
theorem add_counts (stranger : roster.has sender = false) (backend : β) :
    let after := (roster.add sender backend).state
    after.additions = roster.additions + 1 ∧
      after.evictions = roster.evictions + (if roster.order.length < roster.room then 0 else 1) ∧
      after.order.length =
        roster.order.length + (if roster.order.length < roster.room then 1 else 0) := by
  intro after
  obtain ⟨failures, state⟩ := add_stranger_state stranger ⟨0⟩ backend
  obtain ⟨oldest, rest, joined⟩ := exists_oldest roster.order sender
  have length := congrArg List.length joined
  simp only [List.length_append, List.length_cons, List.length_nil] at length
  rw [show after = _ from state]
  by_cases free : roster.order.length < roster.room
  · rw [enrol_with_room free, if_pos free, if_pos free]
    exact ⟨rfl, rfl, List.length_append⟩
  · rw [enrol_when_full (Nat.le_of_not_lt free) joined, if_neg free, if_neg free]
    exact ⟨rfl, rfl, (Nat.succ.inj length).symm⟩

theorem add_has (coherent : roster.Coherent) (any : 0 < roster.room) (sender : Sender)
    (backend : β) : (roster.add sender backend).state.has sender = true := by
  cases known : roster.has sender with
  | true =>
      rw [add_member known]
      exact known
  | false =>
      obtain ⟨room, positive⟩ := Nat.exists_eq_add_of_lt any
      rw [(coherent.add sender backend).agree, add_order coherent known, positive,
        List.rtake_concat_succ]
      simp

theorem load_result (roster : Roster) (backend : β) :
    (∃ fault, (roster.load backend).answer = .error fault ∧
      (roster.load backend).state = roster) ∨
    (roster.load backend).answer = .ok (roster.load backend).state.order.length := by
  cases answer : (SortedSets.rangeDescending roster.settings.replicaKey 0
      (roster.settings.capacity.toInt64 - 1) backend).within
        roster.settings.storeTimeout .range with
  | mk result left =>
      cases result with
      | error fault =>
          rw [load_refused roster backend answer]
          exact .inl ⟨_, rfl, rfl⟩
      | ok newestFirst =>
          obtain ⟨count, state, _⟩ := load_answered roster backend answer
          rw [count, state]
          exact .inr rfl

end Roster

/-- A roster over some backend, and what it was like when it was last loaded. -/
structure Epoch (β : Type) where
    roster : Roster
    backend : β
    /-- How many senders the last successful load brought. -/
    loaded : Nat := 0
    /-- What the roster had counted right after that load. -/
    additions : Nat := 0
    evictions : Nat := 0

namespace Epoch

inductive Move where
  | load
  | add (sender : Sender)

variable {β : Type} {settings : RosterSettings}

def added (epoch : Epoch β) : Nat :=
  epoch.roster.additions - epoch.additions

def evicted (epoch : Epoch β) : Nat :=
  epoch.roster.evictions - epoch.evictions

structure Kept (settings : RosterSettings) (epoch : Epoch β) : Prop where
    settings : epoch.roster.settings = settings
    coherent : epoch.roster.Coherent
    additions : epoch.additions ≤ epoch.roster.additions
    evictions : epoch.evictions ≤ epoch.roster.evictions
    balance : epoch.roster.order.length + epoch.evicted = epoch.loaded + epoch.added

theorem Kept.start (settings : RosterSettings) (writer : Option WriterId) (backend : β) :
    Kept settings { roster := { settings, writer }, backend : Epoch β } := by
  refine ⟨rfl, ?_, Nat.le_refl 0, Nat.le_refl 0, rfl⟩
  exact (Roster.empty_coherent settings).transfer rfl rfl rfl

variable {epoch : Epoch β}

theorem Kept.beside (kept : epoch.Kept settings) (backend : β) :
    Kept settings { epoch with backend } :=
  ⟨kept.settings, kept.coherent, kept.additions, kept.evictions, kept.balance⟩

section Moves

variable [Backend β]

def step (epoch : Epoch β) : Move → Epoch β
  | .load =>
    let turn := epoch.roster.load epoch.backend
    match turn.answer with
    | .ok loaded =>
      ⟨turn.state, turn.backend, loaded, turn.state.additions, turn.state.evictions⟩
    | .error _ => { epoch with roster := turn.state, backend := turn.backend }
  | .add sender =>
    let turn := epoch.roster.add sender epoch.backend
    { epoch with roster := turn.state, backend := turn.backend }

/-- Makes some moves in turn. Before each of them, the backend may have changed in any way. -/
def run (epoch : Epoch β) (moves : List (Move × (β → β))) : Epoch β :=
  moves.foldl (fun epoch move => { epoch with backend := move.2 epoch.backend }.step move.1) epoch

theorem Kept.load (kept : epoch.Kept settings) : (epoch.step .load).Kept settings := by
  have coherent := kept.coherent.load epoch.backend
  rcases epoch.roster.load_result epoch.backend with ⟨fault, failed, unchanged⟩ | answered
  · simp only [step, failed, unchanged]
    exact kept.beside _
  · simp only [step, answered]
    refine ⟨?_, coherent, Nat.le_refl _, Nat.le_refl _, ?_⟩
    · rw [Roster.load_settings, kept.settings]
    · simp only [evicted, added, Nat.sub_self]

theorem Kept.add (kept : epoch.Kept settings) (sender : Sender) :
    (epoch.step (.add sender)).Kept settings := by
  cases known : epoch.roster.has sender with
  | true =>
      simp only [step, Roster.add_member known]
      exact kept.beside _
  | false =>
      obtain ⟨additions, evictions, length⟩ := Roster.add_counts known epoch.backend
      have counted := kept.additions
      have counted' := kept.evictions
      have balance := kept.balance
      simp only [evicted, added] at balance
      refine ⟨?_, kept.coherent.add sender epoch.backend, ?_, ?_, ?_⟩
      · exact (Roster.add_settings _ _ _).trans kept.settings
      · simp only [step, additions]
        omega
      · simp only [step, evictions]
        omega
      · -- One more is counted as added, and either one more is remembered or one more has gone.
        simp only [step, evicted, added, additions, evictions, length]
        split <;> omega

theorem Kept.run (kept : epoch.Kept settings) (moves : List (Move × (β → β))) :
    (epoch.run moves).Kept settings := by
  induction moves generalizing epoch with
  | nil => exact kept
  | cons move rest induction =>
      obtain ⟨move, meanwhile⟩ := move
      have changed := kept.beside (meanwhile epoch.backend)
      apply induction
      cases move with
      | load => exact changed.load
      | add sender => exact changed.add sender

/-- What one more move does to a roster, on a store that is in any state by then. -/
structure Responds (roster : Roster) (backend : β) : Prop where
    added : ∀ sender, (roster.add sender backend).state.has sender = true
    known : ∀ sender, roster.has sender = true →
      roster.add sender backend = ⟨.ok (), roster, backend, []⟩
    loaded : ∀ newestFirst left, (SortedSets.rangeDescending roster.settings.replicaKey 0
        (roster.settings.capacity.toInt64 - 1) backend).within
          roster.settings.storeTimeout .range = (.ok newestFirst, left) →
      (∃ count, (roster.load backend).answer = .ok count) ∧
        ∀ sender, (roster.load backend).state.has sender = true ↔
          sender ∈ newestFirst.take roster.room
    refused : ∀ fault, (roster.load backend).answer = .error fault →
      (roster.load backend).state = roster

theorem responds {roster : Roster} (coherent : roster.Coherent) (any : 0 < roster.room)
    (backend : β) : Responds roster backend := by
  constructor
  · exact fun sender => Roster.add_has coherent any sender backend
  · exact fun sender known => Roster.add_member known backend
  · intro newestFirst left answered
    obtain ⟨answer, state, _⟩ := Roster.load_answered roster backend answered
    refine ⟨⟨_, answer⟩, fun sender => ?_⟩
    rw [(coherent.load backend).agree, state, Roster.mem_replace, List.mem_reverse]
  · intro fault failed
    rcases roster.load_result backend with ⟨_, _, unchanged⟩ | answered
    · exact unchanged
    · rw [answered] at failed
      cases failed

/-- What holds after any moves from an empty roster on, whatever the store answers and the queue
takes. -/
theorem over_any_store {built : Roster} (made : Roster.ofSettings settings = .ok built)
    (writer : Option WriterId) (backend : β) (moves : List (Move × (β → β))) :
    let epoch := { roster := { built with writer }, backend : Epoch β }.run moves
    epoch.roster.settings = settings ∧ epoch.roster.order.Nodup ∧
      (∀ sender, epoch.roster.has sender = true ↔ sender ∈ epoch.roster.order) ∧
      epoch.roster.order.length ≤ settings.capacity.toNat ∧
      (epoch.additions ≤ epoch.roster.additions ∧ epoch.evictions ≤ epoch.roster.evictions ∧
        epoch.roster.order.length + epoch.evicted = epoch.loaded + epoch.added) ∧
      ∀ later : β, Responds epoch.roster later := by
  intro epoch
  obtain ⟨valid, rfl⟩ := Roster.of_settings_eq made
  have kept : epoch.Kept settings := (Kept.start settings writer backend).run moves
  have room : epoch.roster.room = settings.capacity.toNat := by
    rw [Roster.room, kept.settings]
  have any : 0 < epoch.roster.room := room ▸ RosterSettings.capacity_pos valid
  exact ⟨kept.settings, kept.coherent.distinct, kept.coherent.agree, room ▸ kept.coherent.bounded,
    ⟨kept.additions, kept.evictions, kept.balance⟩, responds kept.coherent any⟩

end Moves

/-- A store that answers every load with the same senders, and nothing else. -/
structure Parrot where
    senders : List Sender

instance : Backend Parrot where
  rangeDescending _ _ _ parrot := ⟨0, .ok parrot.senders, parrot, parrot⟩
  cardinality _ parrot := ⟨0, .error (.unavailable "cardinality"), parrot, parrot⟩
  trimLowest _ _ _ parrot := ⟨0, .error (.unavailable "trim"), parrot, parrot⟩
  upsert _ _ _ parrot := ⟨0, .error (.unavailable "upsert"), parrot, parrot⟩
  remove _ _ parrot := ⟨0, .error (.unavailable "remove"), parrot, parrot⟩
  append _ _ parrot := ⟨0, .error (.unavailable "append"), parrot, parrot⟩
  now parrot := (0, parrot)
  enqueue _ _ parrot := (false, parrot)
  failedBatches _ _ := 0

/-- Of three senders, two of them the same, a roster with room for two remembers one. -/
theorem over_parrot :
    let parrot : Parrot := ⟨["alice", "alice", "bob"]⟩
    let start : Epoch Parrot := { roster := { settings := { capacity := 2 } }, backend := parrot }
    let moves := [.load, .add "dave", .add "erin"].map fun move : Move => (move, id)
    let epoch := start.run moves
    epoch.roster.order = ["dave", "erin"] ∧ epoch.loaded = 1 ∧ epoch.added = 2 ∧
      epoch.evicted = 1 ∧ epoch.roster.order.length + 1 = 1 + 2 ∧
      (epoch.roster.add "alice" parrot).state.has "alice" = true := by
  intro parrot start moves epoch
  have made : Roster.ofSettings { capacity := 2 } = .ok { settings := { capacity := 2 } } := rfl
  obtain ⟨_, _, _, _, counts, later⟩ := over_any_store made none parrot moves
  have loaded : epoch.loaded = 1 := by decide +kernel
  have added : epoch.added = 2 := by decide +kernel
  have evicted : epoch.evicted = 1 := by decide +kernel
  refine ⟨by decide +kernel, loaded, added, evicted, ?_, (later parrot).added "alice"⟩
  have balance := counts.2.2
  rwa [show epoch.evicted = 1 from evicted, loaded, added] at balance

end Epoch

end OptOut
