import OptOut.Proofs.Layers
import OptOut.Proofs.Loading
import OptOut.Proofs.WriteBehind

/-!
# Restarts

What a roster remembers outlives it in the replica. Whatever removals and trims fail, the newest
senders that a second roster loads are those that the first remembered last, in the same order. More
than these it loads only where the replica held more than the first roster knew.
-/

namespace OptOut

open Replica

/-! ## The newest of a list in two parts -/

theorem rtake_append_of_le {α : Type} (older : List α) {newest : List α} {count : Nat}
    (few : count ≤ newest.length) : (older ++ newest).rtake count = newest.rtake count := by
  have beyond : (older ++ newest).length - count = older.length + (newest.length - count) := by
    rw [List.length_append]
    omega
  rw [List.rtake, beyond, List.drop_append, List.drop_of_length_le (Nat.le_add_right _ _),
    List.nil_append, Nat.add_sub_cancel_left, List.rtake]

theorem rtake_rtake {α : Type} (entries : List α) (count fewer : Nat) :
    (entries.rtake count).rtake fewer = entries.rtake (min fewer count) := by
  simp [List.rtake_eq_reverse_take_reverse, List.take_take]

/-! ## A first life -/

structure Lifetime where
    settings : RosterSettings
    writer : Option WriterId
    limit : Millis
    deployment : Deployment
    moves : List Life.Move

namespace Lifetime

def roster (lifetime : Lifetime) : Roster :=
  { settings := lifetime.settings, writer := lifetime.writer }

def initial (lifetime : Lifetime) : SortedSet :=
  lifetime.deployment.memory.contents.set lifetime.settings.replicaKey

def load (lifetime : Lifetime) : Turn (Except RosterFault Nat) Roster Deployment :=
  lifetime.roster.load lifetime.deployment

def begun (lifetime : Lifetime) : Life :=
  .ofTurn lifetime.load

def ended (lifetime : Lifetime) : Life :=
  lifetime.begun.run lifetime.moves

def enrolments (lifetime : Lifetime) : List Enrolment :=
  lifetime.begun.enrolments (Life.added lifetime.moves)

def enrolled (lifetime : Lifetime) : List Sender :=
  lifetime.enrolments.map (·.entry.member)

def AllLand (operation : Operation) (lifetime : Lifetime) : Prop :=
  Land operation (lifetime.begun.deployment.memory.lands lifetime.limit) lifetime.begun.number
    (writesOf (lifetime.begun.batches (Life.added lifetime.moves)))

/-- A life in which every upsert lands and scores rise, and which ends with nothing left to write.
Its roster writes at once or has a new writer. -/
structure Sound (lifetime : Lifetime) : Prop where
    valid : lifetime.settings.check = .ok ()
    limited : lifetime.settings.capacity.toNat < rankCount
    countable : lifetime.initial.size < rankCount
    persists : (lifetime.writer = none ∧ lifetime.limit = lifetime.settings.storeTimeout) ∨
      ∃ id, Life.Fresh id lifetime.limit ⟨lifetime.roster, lifetime.deployment⟩
    settled : ∀ id, lifetime.writer = some id → lifetime.ended.deployment.crew.isIdle id = true
    upserts : lifetime.AllLand .upsert
    rising : lifetime.enrolments.Pairwise fun earlier later =>
      earlier.entry.score.rank < later.entry.score.rank
    above : ∀ entry ∈ lifetime.initial.entries, ∀ enrolment ∈ lifetime.enrolments,
      entry.score.rank < enrolment.entry.score.rank

variable {lifetime : Lifetime}

theorem begun_settings : lifetime.begun.roster.settings = lifetime.settings :=
  Roster.load_settings lifetime.roster lifetime.deployment

theorem begun_coherent : lifetime.begun.roster.Coherent := by
  have empty : lifetime.roster.Coherent :=
    (Roster.empty_coherent lifetime.settings).transfer rfl rfl rfl
  exact empty.load lifetime.deployment

structure Begun (lifetime : Lifetime) (older : List Sender) : Prop where
    layers : lifetime.begun.replica.members = older ++ lifetime.begun.roster.order
    held : ∀ entry ∈ lifetime.begun.replica.entries, entry ∈ lifetime.initial.entries
    cold : ∀ fault, lifetime.load.answer = .error fault →
      older = lifetime.initial.members ∧ lifetime.begun.roster.order = []
    warm : ∀ count, lifetime.load.answer = .ok count →
      older = [] ∨ lifetime.begun.roster.order.length = lifetime.begun.roster.room
    trimmed : ∀ count, lifetime.load.answer = .ok count → lifetime.load.log = [] → older = []

theorem begins (sound : lifetime.Sound) : ∃ older, lifetime.Begun older := by
  let turn := lifetime.roster.load lifetime.deployment.memory
  have load := Roster.load_deployment lifetime.roster lifetime.deployment
  have answer : lifetime.load.answer = turn.answer := congrArg Turn.answer load
  have log : lifetime.load.log = turn.log := congrArg Turn.log load
  have state : lifetime.begun.roster = turn.state := congrArg Turn.state load
  have replica : lifetime.begun.replica.entries = lifetime.roster.stored turn.backend := by
    rw [Life.replica, Life.key, begun_settings, begun, Lifetime.load, load]
    rfl
  have countable : lifetime.roster.Countable lifetime.deployment.memory := sound.countable
  have initial : lifetime.roster.stored lifetime.deployment.memory = lifetime.initial.entries := rfl
  have any := RosterSettings.capacity_pos sound.valid
  rcases Roster.load_cases countable any sound.limited with ⟨fault, refused⟩ | loaded
  · have same : lifetime.begun.replica.entries = lifetime.initial.entries := by
      rw [replica, show turn = _ from refused]
      rfl
    have empty : lifetime.begun.roster.order = [] := by
      rw [state, show turn = _ from refused]
      rfl
    have failed : lifetime.load.answer = .error (.store fault) := by
      rw [answer, show turn = _ from refused]
    refine ⟨lifetime.initial.members, ?_, ?_, fun _ _ => ⟨rfl, empty⟩, ?_, ?_⟩
    · rw [empty, List.append_nil, SortedSet.members, same, SortedSet.members]
    · intro entry held
      rwa [same] at held
    · intro count answered
      rw [failed] at answered
      cases answered
    · intro count answered
      rw [failed] at answered
      cases answered
  · obtain ⟨older, layers, held, full, trimmed⟩ := loaded.layers
    have room : lifetime.begun.roster.room = lifetime.roster.room := by
      rw [Roster.room, begun_settings]
      rfl
    refine ⟨older, ?_, ?_, ?_, ?_, ?_⟩
    · rw [SortedSet.members, replica, state]
      exact layers
    · intro entry stored
      rw [replica] at stored
      exact held entry stored
    · intro fault failed
      rw [answer, loaded.answer] at failed
      cases failed
    · intro _ _
      rw [room, state]
      exact full
    · intro _ _ quiet
      exact trimmed (log.symm.trans quiet)

/-! ## The end of a first life -/

/-- With nothing left to write, the replica is the replay of all that the enrolments owed. -/
theorem ends (sound : lifetime.Sound) :
    lifetime.begun.Remembers (Life.added lifetime.moves) lifetime.ended ∧
      lifetime.ended.replica = replay (lifetime.begun.deployment.memory.lands lifetime.limit)
        lifetime.begun.number (writesOf (lifetime.begun.batches (Life.added lifetime.moves)))
        lifetime.begun.replica := by
  have employed : lifetime.begun.roster.writer = lifetime.writer :=
    Roster.load_writer lifetime.roster lifetime.deployment
  rcases sound.persists with ⟨none, limit⟩ | ⟨id, fresh⟩
  · have direct : lifetime.begun.WritesAtOnce ⟨0, 0⟩ := by
      intro id hired
      rw [employed, none] at hired
      cases hired
    obtain ⟨wrote, _⟩ := Life.wrote_run direct lifetime.moves
    refine ⟨wrote.remembers, ?_⟩
    rw [limit, ← begun_settings, ended, Life.replica, wrote.remembers.key_eq]
    exact wrote.store.set
  · have crew : lifetime.begun.deployment.crew = lifetime.deployment.crew := by
      rw [begun, Lifetime.load, Roster.load_deployment]
      rfl
    have hired : lifetime.begun.Fresh id lifetime.limit :=
      ⟨employed.trans fresh.employed, crew ▸ fresh.sole⟩
    have queued := Life.queued_run hired lifetime.moves
    obtain ⟨writer, sole, _, _, keeps⟩ := queued.crew
    have settled : lifetime.ended.deployment.crew.isIdle id = true :=
      sound.settled id fresh.employed
    have rests : writer.wait? = none := by
      rwa [ended, Crew.idle_sole sole, Writer.isIdle, Option.isNone_iff_eq_none] at settled
    refine ⟨queued.remembers, ?_⟩
    rw [ended, Life.replica, queued.remembers.key_eq]
    exact keeps.rests rests

/-- What the replica holds at the end in front of what is in memory. -/
structure Ended (lifetime : Lifetime) (older : List Sender) : Prop where
    layers : lifetime.ended.replica.members = older ++ lifetime.ended.roster.order
    cold : ∀ fault, lifetime.load.answer = .error fault →
      (∀ sender ∈ older, sender ∈ lifetime.initial.members ∨ sender ∈ lifetime.enrolled) ∧
        (lifetime.AllLand .remove → older = lifetime.initial.members.filter (· ∉ lifetime.enrolled))
    warm : ∀ count, lifetime.load.answer = .ok count →
      (older = [] ∨ lifetime.ended.roster.order.length = lifetime.settings.capacity.toNat) ∧
        (lifetime.load.log = [] → lifetime.AllLand .remove → older = [])

theorem ends_layered (sound : lifetime.Sound) : ∃ older, lifetime.Ended older := by
  obtain ⟨older, begun⟩ := begins sound
  obtain ⟨remembers, replica⟩ := ends sound
  have room : lifetime.begun.roster.room = lifetime.settings.capacity.toNat := by
    rw [Roster.room, begun_settings]
  have any : 0 < lifetime.begun.roster.room := room ▸ RosterSettings.capacity_pos sound.valid
  have above : ∀ entry ∈ lifetime.begun.replica.entries, ∀ enrolment ∈ lifetime.enrolments,
      entry.score.rank < enrolment.entry.score.rank :=
    fun entry held => sound.above entry (begun.held entry held)
  obtain ⟨left, layers, leftover⟩ := Roster.replay_layers lifetime.begun.deployment.clock.shows
    (Life.added lifetime.moves) lifetime.begun.key begun_coherent any begun.layers above
    sound.rising sound.upserts
  have cleared : lifetime.AllLand .remove → left = older.filter (· ∉ lifetime.enrolled) :=
    leftover.cleared
  have final : (lifetime.begun.roster.rememberAll (Life.added lifetime.moves)).room =
      lifetime.settings.capacity.toNat := by
    rw [Roster.room, Roster.remember_all_settings, begun_settings]
  refine ⟨left, ?_, ?_, ?_⟩
  · rw [replica, remembers.roster.order]
    exact layers
  · intro fault failed
    obtain ⟨all, empty⟩ := begun.cold fault failed
    rw [all] at cleared
    refine ⟨?_, cleared⟩
    intro sender held
    rcases leftover.known sender held with held | held | held
    · exact .inl (all ▸ held)
    · rw [empty] at held
      cases held
    · exact .inr held
  · intro count loaded
    constructor
    · rw [remembers.roster.order, ← final]
      exact leftover.full (begun.warm count loaded)
    · intro quiet complete
      rw [cleared complete, begun.trimmed count loaded quiet]
      rfl

/-! ## A second life -/

structure Restored (lifetime : Lifetime) (capacity : Nat) (order : List Sender) : Prop where
    /-- The newest are the newest of the first life. -/
    newest : order.rtake (min capacity lifetime.ended.roster.order.length) =
      lifetime.ended.roster.order.rtake capacity
    /-- After a load, a roster that is not larger gets nothing else. -/
    warm : ∀ count, lifetime.load.answer = .ok count →
      capacity ≤ lifetime.settings.capacity.toNat → order = lifetime.ended.roster.order.rtake capacity
    /-- If moreover nothing failed, no roster does. -/
    complete : ∀ count, lifetime.load.answer = .ok count → lifetime.load.log = [] →
      lifetime.AllLand .remove → order = lifetime.ended.roster.order.rtake capacity
    /-- Without a load, what was in the replica may come before, as far as it was left there. -/
    cold : ∀ fault, lifetime.load.answer = .error fault →
      ∃ older, order = (older ++ lifetime.ended.roster.order).rtake capacity ∧
        (∀ sender ∈ older, sender ∈ lifetime.initial.members ∨ sender ∈ lifetime.enrolled) ∧
        (lifetime.AllLand .remove → older = lifetime.initial.members.filter (· ∉ lifetime.enrolled))

theorem loaded_order {settings : RosterSettings} (valid : settings.check = .ok ())
    (limited : settings.capacity.toNat < rankCount) {deployment : Deployment}
    (countable : (deployment.memory.contents.set settings.replicaKey).size < rankCount)
    {writer : Option WriterId} {count : Nat}
    (loaded : (({ settings, writer } : Roster).load deployment).answer = .ok count) :
    (({ settings, writer } : Roster).load deployment).state.order =
      (deployment.memory.contents.set settings.replicaKey).members.rtake
        settings.capacity.toNat := by
  let roster : Roster := { settings, writer }
  have load := roster.load_deployment deployment
  have fits : roster.Countable deployment.memory := countable
  have any := RosterSettings.capacity_pos valid
  rcases Roster.load_cases fits any limited with ⟨fault, refused⟩ | answered
  · rw [congrArg Turn.answer load, refused] at loaded
    cases loaded
  · rw [congrArg Turn.state load, answered.order]
    exact Roster.members_rtake _ _

/-- A second roster on the same store remembers the newest senders of the first in their order, and
it is told what may come before them. -/
theorem restart_restores (sound : lifetime.Sound) {settings : RosterSettings}
    (valid : settings.check = .ok ()) (limited : settings.capacity.toNat < rankCount)
    (key : settings.replicaKey = lifetime.settings.replicaKey) {deployment : Deployment}
    (store : deployment.memory.contents = lifetime.ended.deployment.memory.contents)
    (countable : lifetime.ended.replica.size < rankCount) (writer : Option WriterId) {count : Nat}
    (loaded : (({ settings, writer } : Roster).load deployment).answer = .ok count) :
    lifetime.Restored settings.capacity.toNat
      (({ settings, writer } : Roster).load deployment).state.order := by
  obtain ⟨older, layers, cold, warm⟩ := ends_layered sound
  have same : deployment.memory.contents.set settings.replicaKey = lifetime.ended.replica := by
    obtain ⟨remembers, _⟩ := ends sound
    rw [store, key, Life.replica, remembers.key_eq, Life.key, begun_settings]
  have order := loaded_order valid limited (same ▸ countable) loaded
  rw [same, layers] at order
  constructor
  · rw [order, rtake_rtake, Nat.min_right_comm, Nat.min_self,
      rtake_append_of_le older (Nat.min_le_right _ _)]
    rcases Nat.le_total settings.capacity.toNat lifetime.ended.roster.order.length with few | all
    · rw [Nat.min_eq_left few]
    · rw [Nat.min_eq_right all, rtake_of_length_le (Nat.le_refl _), rtake_of_length_le all]
  · intro count loaded smaller
    rw [order]
    rcases (warm count loaded).1 with nothing | full
    · rw [nothing, List.nil_append]
    · exact rtake_append_of_le older (full ▸ smaller)
  · intro count loaded quiet complete
    rw [order, (warm count loaded).2 quiet complete, List.nil_append]
  · intro fault failed
    obtain ⟨known, cleared⟩ := cold fault failed
    exact ⟨older, order, known, cleared⟩

/-- The trim of the load fails, and so does the removal of the first sender that is forgotten. Both
that sender and one that was never loaded stay in the replica, but the newest are found again. -/
theorem restart_restores_after_failures :
    let refused : Nat → Conditions := fun number =>
      { trimUp := number != 2, sortedSetUp := number != 4 }
    let contents := ["alice", "bob", "carol"].foldl
      (fun contents sender => contents.seed "processed_pubkeys_zset" (.ofMillis 5) sender) {}
    let clock : ManualClock := { shows := fun reading => 7 + .ofNat reading }
    let deployment : Deployment := { memory := { contents, conditions := refused }, clock }
    let lifetime : Lifetime :=
      { settings := { capacity := 2 }, writer := some 0, limit := 500
        deployment := (deployment.startWriter 500).2
        moves := [.add "dave", .act, .add "erin", .work none none] }
    let smaller : RosterSettings := { capacity := 1 }
    let later : Deployment :=
      { memory := { contents := lifetime.ended.deployment.memory.contents }, clock }
    let second := ({ settings := smaller, writer := none } : Roster).load later
    lifetime.ended.replica.members = ["alice", "bob", "dave", "erin"] ∧
      lifetime.Restored smaller.capacity.toNat second.state.order := by
  intro refused contents clock deployment lifetime smaller later second
  have sound : lifetime.Sound := by
    have hired : Life.Fresh 0 lifetime.limit ⟨lifetime.roster, lifetime.deployment⟩ :=
      ⟨rfl, true, by decide +kernel⟩
    refine ⟨by decide +kernel, by decide, by decide +kernel, .inr ⟨0, hired⟩, ?_, ?_, ?_, ?_⟩
    · intro id hired
      obtain rfl : 0 = id := Option.some.inj hired
      decide +kernel
    · unfold AllLand
      decide +kernel
    · decide +kernel
    · decide +kernel
  have valid : smaller.check = .ok () := by decide +kernel
  have limited : smaller.capacity.toNat < rankCount := by decide
  have key : smaller.replicaKey = lifetime.settings.replicaKey := rfl
  have store : later.memory.contents = lifetime.ended.deployment.memory.contents := by
    dsimp only [later]
  have countable : lifetime.ended.replica.size < rankCount := by decide +kernel
  have loaded : second.answer = .ok 1 := by decide +kernel
  have members : lifetime.ended.replica.members = ["alice", "bob", "dave", "erin"] := by
    decide +kernel
  -- What was shown of the first life is all that counts from here on, not how it went.
  clear_value lifetime later
  exact ⟨members, restart_restores sound valid limited key store countable none loaded⟩

end Lifetime

end OptOut
