import Mathlib.Data.List.Perm.Subperm
import OptOut.Proofs.Footprint
import OptOut.Proofs.Restart

/-!
# How far the replica drifts

A roster that writes for itself, after a load that left the replica trimmed to what it brought. From
then on the replica and the order of the roster differ by failed writes only: a sender is missing
from the replica if the upsert of its latest insertion failed, and is left over in it if the removal
of its latest eviction did. Scores and the clock have no part in this.
-/

namespace OptOut

open Replica

/-! ## Batches -/

def Replica.Write.puts : Write → Bool
  | upsert _ _ => true
  | remove _ => false

namespace Replica

variable {key : String} {limit : Millis}

theorem Write.mem_effect_own (write : Write) (set : SortedSet) :
    write.member ∈ (write.effect set).members ↔ write.puts = true := by
  cases write with
  | upsert member score =>
      exact ⟨fun _ => rfl, fun _ => SortedSet.mem_members_insert.2 (.inl rfl)⟩
  | remove member =>
      constructor
      · intro held
        exact absurd rfl (SortedSet.mem_members_erase.1 held).2
      · exact fun put => nomatch put

theorem Write.mem_effect_other {write : Write} {sender : Sender} (other : sender ≠ write.member)
    (set : SortedSet) : sender ∈ (write.effect set).members ↔ sender ∈ set.members := by
  cases write with
  | upsert member score =>
      exact SortedSet.mem_members_insert.trans ⟨fun held => held.resolve_left other, .inr⟩
  | remove member => exact SortedSet.mem_members_erase.trans ⟨And.left, fun held => ⟨held, other⟩⟩

theorem apply_writes_leave {writes : List Write} {sender : Sender}
    (apart : ∀ write ∈ writes, sender ≠ write.member) (memory : Memory) :
    sender ∈ ((applyWrites key limit writes memory).2.contents.set key).members ↔
      sender ∈ (memory.contents.set key).members := by
  refine apply_writes_keep (fun contents => sender ∈ (contents.set key).members ↔ _) ?_ limit
    Iff.rfl
  intro write held contents same
  rw [write.set_enact, Write.mem_effect_other (apart write held)]
  exact same

/-- Of writes to different members, each leaves the set as it should or is among the failures. -/
theorem apply_writes_settle {writes : List Write} (distinct : (writes.map Write.member).Nodup)
    (memory : Memory) {write : Write} (held : write ∈ writes) :
    (write.member ∈ ((applyWrites key limit writes memory).2.contents.set key).members ↔
        write.puts = true) ∨
      ∃ failure ∈ (applyWrites key limit writes memory).1, failure.write = write := by
  induction writes generalizing memory with
  | nil => exact absurd held List.not_mem_nil
  | cons first rest induction =>
      rw [List.map_cons, List.nodup_cons] at distinct
      have apart : ∀ other ∈ rest, first.member ≠ other.member :=
        fun other later same => distinct.1 (same ▸ List.mem_map_of_mem later)
      cases lands : memory.lands limit memory.calls with
      | true =>
          simp only [applyWrites, Write.apply_landing lands key first]
          rcases List.mem_cons.1 held with rfl | later
          · left
            rw [apply_writes_leave apart, write.set_enact]
            exact write.mem_effect_own _
          · exact induction distinct.2 _ later
      | false =>
          obtain ⟨fault, failed⟩ := Write.apply_failing lands key first
          simp only [applyWrites, failed]
          rcases List.mem_cons.1 held with rfl | later
          · exact .inr ⟨_, List.mem_cons_self, rfl⟩
          · refine (induction distinct.2 _ later).imp_right ?_
            rintro ⟨failure, among, same⟩
            exact ⟨failure, List.mem_cons_of_mem _ among, same⟩

end Replica

/-! ## Additions and what became of them -/

structure Addition where
    sender : Sender
    before : Roster
    after : Roster
    log : List Log.Entry

def Log.Entry.failure? : Log.Entry → Option Failure
  | .writeFailed failure => some failure
  | _ => none

namespace Addition

def Inserts (addition : Addition) (sender : Sender) : Prop :=
  sender ∉ addition.before.order ∧ sender ∈ addition.after.order

def Evicts (addition : Addition) (sender : Sender) : Prop :=
  sender ∈ addition.before.order ∧ sender ∉ addition.after.order

def failures (addition : Addition) : List Failure :=
  addition.log.filterMap Log.Entry.failure?

def Fails (addition : Addition) (operation : Operation) (sender : Sender) : Prop :=
  ∃ failure ∈ addition.failures,
    failure.write.operation = operation ∧ failure.write.member = sender

def IsLatest (holds : Addition → Prop) (additions : List Addition) (addition : Addition) : Prop :=
  ∃ earlier later, additions = earlier ++ addition :: later ∧ holds addition ∧
    ∀ other ∈ later, ¬holds other

variable {holds : Addition → Prop} {additions : List Addition} {addition next : Addition}

theorem IsLatest.mem (latest : IsLatest holds additions addition) : addition ∈ additions := by
  obtain ⟨earlier, later, split, _⟩ := latest
  rw [split]
  exact List.mem_append_right _ List.mem_cons_self

theorem IsLatest.append (latest : IsLatest holds additions addition) (fails : ¬holds next) :
    IsLatest holds (additions ++ [next]) addition := by
  obtain ⟨earlier, later, split, here, after⟩ := latest
  refine ⟨earlier, later ++ [next], ?_, here, ?_⟩
  · rw [split, List.append_assoc, List.cons_append]
  · intro other held
    rcases List.mem_append.1 held with held | held
    · exact after other held
    · rwa [List.mem_singleton.1 held]

theorem is_latest_append_self (here : holds next) : IsLatest holds (additions ++ [next]) next :=
  ⟨additions, [], rfl, here, fun _ held => absurd held List.not_mem_nil⟩

end Addition

structure Trail where
    roster : Roster
    deployment : Deployment
    additions : List Addition := []

namespace Trail

def started (settings : RosterSettings) (deployment : Deployment) : Trail :=
  let turn := ({ settings } : Roster).load deployment
  { roster := turn.state, deployment := turn.backend }

def add (trail : Trail) (sender : Sender) : Trail :=
  let turn := trail.roster.add sender trail.deployment
  { roster := turn.state
    deployment := turn.backend
    additions := trail.additions ++ [⟨sender, trail.roster, turn.state, turn.log⟩] }

def addAll (trail : Trail) (senders : List Sender) : Trail :=
  senders.foldl add trail

def replica (trail : Trail) : SortedSet :=
  trail.deployment.memory.contents.set trail.roster.settings.replicaKey

def failures (trail : Trail) : List Failure :=
  trail.additions.flatMap Addition.failures

def failedRemovals (trail : Trail) : List Failure :=
  trail.failures.filter fun failure => failure.write.operation = .remove

/-- Every difference between memory and the replica is owed to a failed write. -/
structure Explained (trail : Trail) : Prop where
    missing : ∀ sender ∈ trail.roster.order, sender ∉ trail.replica.members →
      ∃ addition, addition.Fails .upsert sender ∧
        Addition.IsLatest (·.Inserts sender) trail.additions addition
    stale : ∀ sender ∈ trail.replica.members, sender ∉ trail.roster.order →
      ∃ addition, addition.Fails .remove sender ∧
        Addition.IsLatest (·.Evicts sender) trail.additions addition

end Trail

/-! ## One addition -/

namespace Roster

variable {roster : Roster} {sender : Sender}

/-- What an addition of a stranger does to a roster that writes for itself and to its replica. -/
structure Adds (roster : Roster) (sender : Sender) (deployment : Deployment)
    (forgotten : Option Sender) (addition : Addition) (replica : SortedSet) : Prop where
    order : ∀ other, other ∈ addition.after.order ↔
      (other = sender ∨ other ∈ roster.order) ∧ forgotten ≠ some other
    known : ∀ other, forgotten = some other → other ∈ roster.order
    untouched : ∀ other, other ≠ sender → forgotten ≠ some other →
      (other ∈ replica.members ↔
        other ∈ (deployment.memory.contents.set roster.settings.replicaKey).members)
    inserted : sender ∈ replica.members ∨ addition.Fails .upsert sender
    removed : ∀ other, forgotten = some other →
      other ∉ replica.members ∨ addition.Fails .remove other

/-- A roster that writes for itself makes the writes of an addition one after the other. -/
theorem add_alone (alone : roster.writer = none) (stranger : roster.has sender = false)
    (deployment : Deployment) :
    let turn := roster.add sender deployment
    let writes := ((roster.enrolment sender (.ofMillis deployment.clock.current)).batch
      roster.settings.replicaKey).writes
    let written := applyWrites roster.settings.replicaKey roster.settings.storeTimeout writes
      deployment.memory
    turn.backend.memory = written.2 ∧ turn.log = written.1.map .writeFailed := by
  intro turn writes written
  let score := Score.ofMillis deployment.clock.current
  have employed : (roster.enrol sender score).1.writer = none := enrol_writer.trans alone
  have inline : turn = (roster.enrol sender score).1.writeInline
      ((roster.enrolment sender score).batch roster.settings.replicaKey) deployment.ticked := by
    rw [show turn = _ from add_stranger_turn stranger deployment, persist, employed]
  obtain ⟨backend, log⟩ := write_inline_persists (roster.enrol sender score).1
    ((roster.enrolment sender score).batch roster.settings.replicaKey) deployment.ticked
  rw [← inline, enrol_settings] at backend log
  exact ⟨congrArg Deployment.memory backend, log⟩

theorem add_adds (coherent : roster.Coherent) (alone : roster.writer = none)
    (any : 0 < roster.room) (stranger : roster.has sender = false) (deployment : Deployment) :
    let turn := roster.add sender deployment
    ∃ forgotten, roster.Adds sender deployment forgotten ⟨sender, roster, turn.state, turn.log⟩
      (turn.backend.memory.contents.set roster.settings.replicaKey) := by
  intro turn
  let enrolment := roster.enrolment sender (.ofMillis deployment.clock.current)
  let writes := (enrolment.batch roster.settings.replicaKey).writes
  obtain ⟨memory, log⟩ := add_alone alone stranger deployment
  obtain ⟨failures, state⟩ :=
    add_stranger_state stranger (.ofMillis deployment.clock.current) deployment
  have absent : sender ∉ roster.order := by
    rw [← coherent.agree, stranger]
    decide
  have known : ∀ other, enrolment.forgotten = some other → other ∈ roster.order :=
    fun other forgotten => forgotten_mem any forgotten
  have distinct : (writes.map Write.member).Nodup := by
    cases forgotten : enrolment.forgotten with
    | none => simp [writes, Enrolment.batch, forgotten]
    | some oldest =>
        have both : writes.map Write.member = [sender, oldest] := by
          simp only [writes, Enrolment.batch, forgotten]
          rfl
        have apart : sender ≠ oldest := fun same => absent (same ▸ known oldest forgotten)
        simpa [both] using apart
  have settles : ∀ write ∈ writes,
      (write.member ∈ (turn.backend.memory.contents.set roster.settings.replicaKey).members ↔
        write.puts = true) ∨
      Addition.Fails ⟨sender, roster, turn.state, turn.log⟩ write.operation write.member := by
    intro write held
    rw [show turn.backend.memory = _ from memory, show turn.log = _ from log]
    refine (apply_writes_settle distinct deployment.memory held).imp_right ?_
    rintro ⟨failure, among, rfl⟩
    refine ⟨failure, List.mem_filterMap.2 ⟨.writeFailed failure, ?_, rfl⟩, rfl, rfl⟩
    exact List.mem_map_of_mem among
  refine ⟨enrolment.forgotten, ?_, known, ?_, ?_, ?_⟩
  · intro other
    rw [show turn.state = _ from state]
    exact mem_enrol_order coherent stranger _ other
  · intro other new remembered
    rw [show turn.backend.memory = _ from memory]
    refine apply_writes_leave ?_ deployment.memory
    intro write held
    rcases List.mem_cons.1 held with rfl | held
    · exact new
    · obtain ⟨oldest, forgotten, rfl⟩ := List.mem_map.1 held
      exact fun same => remembered (same ▸ Option.mem_toList.1 forgotten)
  · exact (settles _ List.mem_cons_self).imp_left fun put => put.2 rfl
  · intro oldest forgotten
    refine (settles (.remove oldest) ?_).imp_left fun put held => absurd (put.1 held) Bool.false_ne_true
    simp [writes, Enrolment.batch, forgotten]

end Roster

/-! ## Runs of additions -/

namespace Trail

structure Sound (trail : Trail) : Prop where
    coherent : trail.roster.Coherent
    alone : trail.roster.writer = none
    any : 0 < trail.roster.room
    explained : trail.Explained

variable {trail : Trail} {sender : Sender}

theorem Explained.add_member (explained : trail.Explained)
    (known : trail.roster.has sender = true) : (trail.add sender).Explained := by
  have idle : trail.add sender = { trail with
      additions := trail.additions ++ [⟨sender, trail.roster, trail.roster, []⟩] } := by
    simp only [add, Roster.add_member known]
  rw [idle]
  constructor
  · intro other held absent
    obtain ⟨addition, fails, latest⟩ := explained.missing other held absent
    exact ⟨addition, fails, latest.append fun inserts => inserts.1 inserts.2⟩
  · intro other left absent
    obtain ⟨addition, fails, latest⟩ := explained.stale other left absent
    exact ⟨addition, fails, latest.append fun evicts => evicts.2 evicts.1⟩

theorem replica_add (trail : Trail) (sender : Sender) :
    (trail.add sender).replica = (trail.add sender).deployment.memory.contents.set
      trail.roster.settings.replicaKey := by
  have settings : (trail.add sender).roster.settings = trail.roster.settings :=
    trail.roster.add_settings sender trail.deployment
  rw [replica, settings]

theorem Sound.add_stranger (sound : trail.Sound) (stranger : trail.roster.has sender = false) :
    (trail.add sender).Explained := by
  obtain ⟨forgotten, adds⟩ :=
    Roster.add_adds sound.coherent sound.alone sound.any stranger trail.deployment
  let turn := trail.roster.add sender trail.deployment
  let addition : Addition := ⟨sender, trail.roster, turn.state, turn.log⟩
  have absent : sender ∉ trail.roster.order := by
    rw [← sound.coherent.agree, stranger]
    decide
  constructor
  · intro other held missing
    rw [replica_add] at missing
    obtain ⟨new | before, remembered⟩ := (adds.order other).1 held
    · -- Nothing but a failure of its own upsert keeps the new sender out: the removal in the same
      -- batch is of another member.
      subst new
      have inserts : addition.Inserts other := ⟨absent, held⟩
      exact ⟨addition, adds.inserted.resolve_left missing, Addition.is_latest_append_self inserts⟩
    · have old : other ≠ sender := fun same => absent (same ▸ before)
      have lost : other ∉ trail.replica.members :=
        fun left => missing ((adds.untouched other old remembered).2 left)
      obtain ⟨earlier, fails, latest⟩ := sound.explained.missing other before lost
      exact ⟨earlier, fails, latest.append fun inserts => inserts.1 before⟩
  · intro other left gone
    rw [replica_add] at left
    by_cases now : forgotten = some other
    · have evicts : addition.Evicts other := ⟨adds.known other now, gone⟩
      exact ⟨addition, (adds.removed other now).resolve_left (not_not_intro left),
        Addition.is_latest_append_self evicts⟩
    · have apart : ¬(other = sender ∨ other ∈ trail.roster.order) :=
        fun held => gone ((adds.order other).2 ⟨held, now⟩)
      have stale : other ∈ trail.replica.members :=
        (adds.untouched other (apart ∘ .inl) now).1 left
      obtain ⟨earlier, fails, latest⟩ := sound.explained.stale other stale (apart ∘ .inr)
      exact ⟨earlier, fails, latest.append fun evicts => apart (.inr evicts.1)⟩

theorem Sound.add (sound : trail.Sound) (sender : Sender) : (trail.add sender).Sound := by
  refine ⟨sound.coherent.add sender trail.deployment, ?_, ?_, ?_⟩
  · exact (trail.roster.add_writer sender trail.deployment).trans sound.alone
  · have settings := trail.roster.add_settings sender trail.deployment
    rw [Roster.room, show (trail.add sender).roster.settings = _ from settings]
    exact sound.any
  · cases known : trail.roster.has sender with
    | true => exact sound.explained.add_member known
    | false => exact sound.add_stranger known

theorem Sound.add_all (sound : trail.Sound) (senders : List Sender) :
    (trail.addAll senders).Sound := by
  induction senders generalizing trail with
  | nil => exact sound
  | cons sender rest induction => exact induction (sound.add sender)

theorem settings_add_all (trail : Trail) (senders : List Sender) :
    (trail.addAll senders).roster.settings = trail.roster.settings := by
  induction senders generalizing trail with
  | nil => rfl
  | cons sender rest induction =>
      exact (induction (trail.add sender)).trans (trail.roster.add_settings sender trail.deployment)

theorem sound_started {settings : RosterSettings} (valid : settings.check = .ok ())
    (limited : settings.capacity.toNat < rankCount) {deployment : Deployment}
    (countable : (deployment.memory.contents.set settings.replicaKey).size < rankCount)
    {count : Nat} (loaded : (({ settings } : Roster).load deployment).answer = .ok count)
    (trimmed : (({ settings } : Roster).load deployment).log = []) :
    (started settings deployment).Sound := by
  let roster : Roster := { settings }
  have load := roster.load_deployment deployment
  have any : 0 < roster.room := RosterSettings.capacity_pos valid
  have fits : roster.Countable deployment.memory := countable
  have answered : roster.Loaded deployment.memory (roster.load deployment.memory) := by
    refine (Roster.load_cases fits any limited).resolve_left ?_
    rintro ⟨fault, refused⟩
    rw [congrArg Turn.answer load, refused] at loaded
    exact nomatch loaded
  obtain ⟨older, layers, _, _, quiet⟩ := answered.layers
  have same : (started settings deployment).replica.members =
      (started settings deployment).roster.order := by
    rw [quiet (by rwa [congrArg Turn.log load] at trimmed), List.nil_append] at layers
    rw [replica, started, load, Roster.load_settings]
    exact layers
  refine ⟨(Roster.empty_coherent settings).load deployment, roster.load_writer deployment, ?_,
    fun sender held missing => ?_, fun sender left gone => ?_⟩
  · rw [Roster.room, started, Roster.load_settings]
    exact any
  · exact absurd held (same ▸ missing)
  · exact absurd left (same ▸ gone)

/-- The members of the replica are those in memory and those whose removals failed. -/
theorem Explained.size_le (explained : trail.Explained) (coherent : trail.roster.Coherent) :
    trail.replica.size ≤ trail.roster.room + trail.failedRemovals.length := by
  have within : trail.replica.members ⊆
      trail.roster.order ++ trail.failedRemovals.map fun failure => failure.write.member := by
    intro sender held
    by_cases remembered : sender ∈ trail.roster.order
    · exact List.mem_append_left _ remembered
    · obtain ⟨addition, ⟨failure, among, operation, member⟩, latest⟩ :=
        explained.stale sender held remembered
      have failed : failure ∈ trail.failures := List.mem_flatMap.2 ⟨addition, latest.mem, among⟩
      refine List.mem_append_right _ (List.mem_map.2 ⟨failure, ?_, member⟩)
      exact List.mem_filter.2 ⟨failed, decide_eq_true operation⟩
  have bound := (List.Nodup.subperm trail.replica.members_nodup within).length_le
  rw [SortedSet.length_members, List.length_append, List.length_map] at bound
  exact bound.trans (Nat.add_le_add_right coherent.bounded _)

theorem Explained.same_members (explained : trail.Explained) (coherent : trail.roster.Coherent)
    (complete : trail.failures = []) (sender : Sender) :
    sender ∈ trail.replica.members ↔ trail.roster.has sender = true := by
  have nothing : ∀ {operation : Operation} {holds : Addition → Prop}, ¬∃ addition : Addition,
      addition.Fails operation sender ∧ Addition.IsLatest holds trail.additions addition := by
    rintro operation holds ⟨addition, ⟨failure, among, _⟩, latest⟩
    have failed : failure ∈ trail.failures := List.mem_flatMap.2 ⟨addition, latest.mem, among⟩
    exact List.not_mem_nil (complete ▸ failed)
  rw [coherent.agree]
  constructor
  · intro held
    by_contra gone
    exact nothing (explained.stale sender held gone)
  · intro held
    by_contra missing
    exact nothing (explained.missing sender held missing)

/-- After a load that left the replica trimmed, memory and the replica differ by failed writes only,
after any additions and whatever the clock shows. The replica is of a size that ranks can count. -/
theorem drift_explained {settings : RosterSettings} (valid : settings.check = .ok ())
    (limited : settings.capacity.toNat < rankCount) {deployment : Deployment}
    (countable : (deployment.memory.contents.set settings.replicaKey).size < rankCount)
    {count : Nat} (loaded : (({ settings } : Roster).load deployment).answer = .ok count)
    (trimmed : (({ settings } : Roster).load deployment).log = []) (senders : List Sender) :
    let trail := (started settings deployment).addAll senders
    trail.Explained ∧
      trail.replica.size ≤ settings.capacity.toNat + trail.failedRemovals.length ∧
      (trail.failures = [] →
        ∀ sender, sender ∈ trail.replica.members ↔ trail.roster.has sender = true) := by
  intro trail
  have sound : trail.Sound :=
    (sound_started valid limited countable loaded trimmed).add_all senders
  have room : trail.roster.room = settings.capacity.toNat := by
    rw [Roster.room, settings_add_all, started, Roster.load_settings]
  refine ⟨sound.explained, ?_, sound.explained.same_members sound.coherent⟩
  rw [← room]
  exact sound.explained.size_le sound.coherent

/-- With room for one, neither write of the second addition succeeds: the first sender stays in the
replica, and the second does not get there. The clock runs backwards all the while. -/
theorem drift_explained_after_outage :
    let settings : RosterSettings := { capacity := 1 }
    let deployment : Deployment :=
      { memory := { conditions := fun number => { sortedSetUp := number < 3 } }
        clock := { shows := fun reading => 9 - .ofNat reading } }
    let trail := (started settings deployment).addAll ["alice", "bob"]
    settings.check = .ok () ∧ settings.capacity.toNat < rankCount ∧
      (deployment.memory.contents.set settings.replicaKey).size < rankCount ∧
      (({ settings } : Roster).load deployment).answer = .ok 0 ∧
      (({ settings } : Roster).load deployment).log = [] ∧
      trail.roster.order = ["bob"] ∧ trail.replica.members = ["alice"] ∧ trail.Explained := by
  intro settings deployment trail
  have valid : settings.check = .ok () := by decide +kernel
  have limited : settings.capacity.toNat < rankCount := by decide
  have countable : (deployment.memory.contents.set settings.replicaKey).size < rankCount := by
    decide +kernel
  have loaded : (({ settings } : Roster).load deployment).answer = .ok 0 := by decide +kernel
  have trimmed : (({ settings } : Roster).load deployment).log = [] := by decide +kernel
  have drift := drift_explained valid limited countable loaded trimmed ["alice", "bob"]
  exact ⟨valid, limited, countable, loaded, trimmed, by decide +kernel, by decide +kernel, drift.1⟩

end Trail

end OptOut
