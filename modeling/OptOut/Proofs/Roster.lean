import Mathlib.Data.List.DropRight
import Mathlib.Data.List.Nodup
import OptOut.Roster

/-!
# Coherent rosters

The order of addition and the set that is asked for members agree, and stay within the capacity,
whatever the stores behind a roster do. An addition leaves in memory the newest senders of the order
extended by the new one; failures of the replica show in the count of failures alone.
-/

namespace OptOut

/-- Keeping the newest of a list before an element joins it is the same as keeping them after. -/
theorem rtake_append_newest {α : Type} (entries : List α) (newest : α) (count : Nat) :
    (entries.rtake count ++ [newest]).rtake count = (entries ++ [newest]).rtake count := by
  cases count with
  | zero => simp
  | succ count =>
      have shorter : (entries.rtake (count + 1)).rtake count = entries.rtake count := by
        simp [List.rtake_eq_reverse_take_reverse, List.take_take]
      rw [List.rtake_concat_succ, List.rtake_concat_succ, shorter]

theorem rtake_of_length_le {α : Type} {entries : List α} {count : Nat}
    (few : entries.length ≤ count) : entries.rtake count = entries := by
  simp [List.rtake, Nat.sub_eq_zero_of_le few]

theorem length_rtake_le {α : Type} (entries : List α) (count : Nat) :
    (entries.rtake count).length ≤ count := by
  simp only [List.rtake, List.length_drop]
  omega

theorem rtake_suffix {α : Type} (entries : List α) (count : Nat) :
    entries.rtake count <:+ entries :=
  List.drop_suffix _ _

theorem RosterSettings.capacity_pos {settings : RosterSettings} (valid : settings.check = .ok ()) :
    0 < settings.capacity.toNat := by
  rcases Nat.eq_zero_or_pos settings.capacity.toNat with none | any
  · have zero : settings.capacity = 0 := UInt64.toNat_inj.1 none
    rw [RosterSettings.check, if_pos zero] at valid
    cases valid
  · exact any

namespace Roster

def room (roster : Roster) : Nat :=
  roster.settings.capacity.toNat

structure Coherent (roster : Roster) : Prop where
    distinct : roster.order.Nodup
    bounded : roster.order.length ≤ roster.room
    agree : ∀ sender, roster.has sender = true ↔ sender ∈ roster.order

theorem Coherent.transfer {roster other : Roster} (coherent : roster.Coherent)
    (settings : other.settings = roster.settings) (order : other.order = roster.order)
    (members : other.members = roster.members) : other.Coherent := by
  constructor
  · rw [order]
    exact coherent.distinct
  · rw [order, room, settings]
    exact coherent.bounded
  · intro sender
    rw [has, members, order]
    exact coherent.agree sender

theorem Coherent.has_eq {roster other : Roster} (coherent : roster.Coherent)
    (coherentOther : other.Coherent) (order : roster.order = other.order) (sender : Sender) :
    roster.has sender = other.has sender := by
  rw [Bool.eq_iff_iff, coherent.agree, coherentOther.agree, order]

theorem empty_coherent (settings : RosterSettings) : ({ settings } : Roster).Coherent := by
  refine ⟨List.nodup_nil, Nat.zero_le _, ?_⟩
  intro sender
  simp [has]

/-! ## Additions -/

variable {roster : Roster} {sender oldest : Sender} {rest : List Sender} {score : Score}

theorem exists_oldest (order : List Sender) (sender : Sender) :
    ∃ oldest rest, order ++ [sender] = oldest :: rest := by
  cases order with
  | nil => exact ⟨sender, [], rfl⟩
  | cons first others => exact ⟨first, others ++ [sender], rfl⟩

theorem enrol_with_room (free : roster.order.length < roster.room) :
    roster.enrol sender score =
      ({ roster with
          order := roster.order ++ [sender]
          members := roster.members.insert sender
          additions := roster.additions + 1 },
        ⟨roster.settings.replicaKey, [.upsert sender score]⟩) := by
  obtain ⟨first, others, joined⟩ := exists_oldest roster.order sender
  have within : ¬roster.settings.capacity.toNat < (first :: others).length := by
    rw [← joined, List.length_append]
    simp only [room, List.length_singleton] at free ⊢
    omega
  simp only [enrol, joined, if_neg within]

theorem enrol_when_full (full : roster.room ≤ roster.order.length)
    (joined : roster.order ++ [sender] = oldest :: rest) :
    roster.enrol sender score =
      ({ roster with
          order := rest
          members := (roster.members.insert sender).erase oldest
          additions := roster.additions + 1
          evictions := roster.evictions + 1 },
        ⟨roster.settings.replicaKey, [.upsert sender score, .remove oldest]⟩) := by
  have beyond : roster.settings.capacity.toNat < (oldest :: rest).length := by
    rw [← joined, List.length_append]
    simp only [room, List.length_singleton] at full ⊢
    omega
  simp only [enrol, joined, if_pos beyond]

theorem enrol_keeps :
    (roster.enrol sender score).1.settings = roster.settings ∧
      (roster.enrol sender score).1.writer = roster.writer ∧
      (roster.enrol sender score).1.inlineFailures = roster.inlineFailures := by
  obtain ⟨oldest, rest, joined⟩ := exists_oldest roster.order sender
  by_cases free : roster.order.length < roster.room
  · rw [enrol_with_room free]
    exact ⟨rfl, rfl, rfl⟩
  · rw [enrol_when_full (Nat.le_of_not_lt free) joined]
    exact ⟨rfl, rfl, rfl⟩

@[simp]
theorem enrol_settings : (roster.enrol sender score).1.settings = roster.settings :=
  enrol_keeps.1

@[simp]
theorem enrol_writer : (roster.enrol sender score).1.writer = roster.writer :=
  enrol_keeps.2.1

@[simp]
theorem enrol_failures :
    (roster.enrol sender score).1.inlineFailures = roster.inlineFailures :=
  enrol_keeps.2.2

@[simp]
theorem enrol_room : (roster.enrol sender score).1.room = roster.room := by
  rw [room, enrol_settings, room]

theorem enrol_order (bounded : roster.order.length ≤ roster.room) :
    (roster.enrol sender score).1.order = (roster.order ++ [sender]).rtake roster.room := by
  by_cases free : roster.order.length < roster.room
  · rw [enrol_with_room free, rtake_of_length_le]
    simp only [List.length_append, List.length_singleton]
    omega
  · obtain ⟨oldest, rest, joined⟩ := exists_oldest roster.order sender
    have length := congrArg List.length joined
    simp only [List.length_append, List.length_cons, List.length_nil] at length
    have one : (oldest :: rest).length - roster.room = 1 := by
      simp only [List.length_cons]
      omega
    rw [enrol_when_full (Nat.le_of_not_lt free) joined, joined, List.rtake, one]
    rfl

theorem Coherent.joined_distinct (coherent : roster.Coherent) (stranger : roster.has sender = false) :
    (roster.order ++ [sender]).Nodup := by
  have absent : sender ∉ roster.order := by
    rw [← coherent.agree, stranger]
    decide
  rw [List.nodup_append]
  refine ⟨coherent.distinct, by simp, ?_⟩
  rintro other held _ new rfl
  exact absent (List.mem_singleton.1 new ▸ held)

theorem Coherent.enrol (coherent : roster.Coherent) (stranger : roster.has sender = false) :
    (roster.enrol sender score).1.Coherent := by
  have distinct := coherent.joined_distinct stranger
  have order : (roster.enrol sender score).1.order = _ := enrol_order coherent.bounded
  constructor
  · rw [order]
    exact distinct.sublist (rtake_suffix _ _).sublist
  · rw [order, enrol_room]
    exact length_rtake_le _ _
  · intro other
    by_cases free : roster.order.length < roster.room
    · have known := coherent.agree other
      simp only [has] at known
      rw [enrol_with_room free]
      simp only [has, Std.TreeSet.contains_insert, Bool.or_eq_true, beq_iff_eq,
        Std.LawfulEqOrd.compare_eq_iff_eq, known, List.mem_append, List.mem_singleton]
      tauto
    · obtain ⟨oldest, rest, joined⟩ := exists_oldest roster.order sender
      have known := coherent.agree other
      simp only [has] at known
      have member : other ∈ roster.order ∨ other = sender ↔ other = oldest ∨ other ∈ rest := by
        rw [← List.mem_cons, ← joined, List.mem_append, List.mem_singleton]
      rw [joined, List.nodup_cons] at distinct
      rw [enrol_when_full (Nat.le_of_not_lt free) joined]
      simp only [has, Std.TreeSet.contains_erase, Std.TreeSet.contains_insert, Bool.and_eq_true,
        Bool.or_eq_true, bne_iff_ne, beq_iff_eq, ne_eq, Std.LawfulEqOrd.compare_eq_iff_eq, known]
      constructor
      · rintro ⟨notOldest, added⟩
        have held := member.1 (added.symm.imp_right Eq.symm)
        exact held.resolve_left (fun same => notOldest same.symm)
      · intro held
        constructor
        · rintro rfl
          exact distinct.1 held
        · exact (member.2 (.inr held)).symm.imp_left Eq.symm

/-! ## Persistence

Whatever becomes of a batch, only the count of inline failures may change in memory. -/

variable {β : Type} [Backend β]

theorem persist_state (roster : Roster) (batch : Replica.Batch) (backend : β) :
    ∃ failures, (roster.persist batch backend).state =
      { roster with inlineFailures := failures } := by
  have inline : ∀ backend : β, ∃ failures, (roster.writeInline batch backend).state =
      { roster with inlineFailures := failures } := by
    intro backend
    simp only [writeInline]
    split
    · exact ⟨_, rfl⟩
    · exact ⟨_, rfl⟩
  simp only [persist]
  split
  · exact inline backend
  · split
    · exact ⟨_, rfl⟩
    · exact inline _

/-- The time an addition is marked with is known to the replica only. -/
theorem enrol_state_of_score (roster : Roster) (sender : Sender) (score other : Score) :
    (roster.enrol sender score).1 = (roster.enrol sender other).1 := by
  obtain ⟨oldest, rest, joined⟩ := exists_oldest roster.order sender
  by_cases free : roster.order.length < roster.room
  · rw [enrol_with_room free, enrol_with_room free]
  · rw [enrol_when_full (Nat.le_of_not_lt free) joined,
      enrol_when_full (Nat.le_of_not_lt free) joined]

theorem add_member (known : roster.has sender = true) (backend : β) :
    roster.add sender backend = ⟨.ok (), roster, backend, []⟩ := by
  simp only [add, known, if_true]

theorem add_stranger_state (stranger : roster.has sender = false) (score : Score) (backend : β) :
    ∃ failures, (roster.add sender backend).state =
      { (roster.enrol sender score).1 with inlineFailures := failures } := by
  simp only [add, stranger, Bool.false_eq_true, if_false]
  rw [enrol_state_of_score roster sender score (.ofMillis (Clock.now backend).1)]
  exact persist_state _ _ _

theorem Coherent.add (coherent : roster.Coherent) (sender : Sender) (backend : β) :
    (roster.add sender backend).state.Coherent := by
  cases known : roster.has sender with
  | true =>
      rw [add_member known]
      exact coherent
  | false =>
      obtain ⟨failures, state⟩ := add_stranger_state known ⟨0⟩ backend
      have enrolled : (roster.enrol sender ⟨0⟩).1.Coherent := coherent.enrol known
      rw [state]
      exact enrolled.transfer rfl rfl rfl

theorem add_order (coherent : roster.Coherent) (stranger : roster.has sender = false)
    (backend : β) :
    (roster.add sender backend).state.order = (roster.order ++ [sender]).rtake roster.room := by
  obtain ⟨failures, state⟩ := add_stranger_state stranger ⟨0⟩ backend
  rw [state]
  exact enrol_order coherent.bounded

@[simp]
theorem add_settings (roster : Roster) (sender : Sender) (backend : β) :
    (roster.add sender backend).state.settings = roster.settings := by
  cases known : roster.has sender with
  | true => rw [add_member known]
  | false =>
      obtain ⟨failures, state⟩ := add_stranger_state known ⟨0⟩ backend
      rw [state]
      exact enrol_settings

@[simp]
theorem add_writer (roster : Roster) (sender : Sender) (backend : β) :
    (roster.add sender backend).state.writer = roster.writer := by
  cases known : roster.has sender with
  | true => rw [add_member known]
  | false =>
      obtain ⟨failures, state⟩ := add_stranger_state known ⟨0⟩ backend
      rw [state]
      exact enrol_writer

/-! ## Loading

A store may answer a load with anything; what is remembered of it is coherent all the same. -/

/-- The senders noted agree with their set, and are as many as were seen at most. -/
structure Noted (seen : Nat) (noted : List Sender × Std.TreeSet Sender) : Prop where
    distinct : noted.1.Nodup
    agree : ∀ sender, noted.2.contains sender = true ↔ sender ∈ noted.1
    bounded : noted.1.length ≤ seen

theorem Noted.note {seen : Nat} {noted : List Sender × Std.TreeSet Sender}
    (noting : Noted seen noted) (sender : Sender) :
    Noted (seen + 1) (note noted sender) := by
  unfold Roster.note
  split
  · exact ⟨noting.distinct, noting.agree, Nat.le_succ_of_le noting.bounded⟩
  · rename_i fresh
    rw [noting.agree] at fresh
    refine ⟨List.nodup_cons.2 ⟨fresh, noting.distinct⟩, ?_, Nat.succ_le_succ noting.bounded⟩
    intro other
    rw [List.mem_cons, @eq_comm _ other sender, ← noting.agree other]
    simp only [Std.TreeSet.contains_insert, Bool.or_eq_true, beq_iff_eq,
      Std.LawfulEqOrd.compare_eq_iff_eq]

theorem noted_foldl (senders : List Sender) {seen : Nat}
    {noted : List Sender × Std.TreeSet Sender} (noting : Noted seen noted) :
    Noted (seen + senders.length) (senders.foldl note noted) := by
  induction senders generalizing seen noted with
  | nil => exact noting
  | cons sender rest induction =>
      have later := induction (noting.note sender)
      rw [List.length_cons, Nat.add_comm rest.length, ← Nat.add_assoc]
      exact later

theorem mem_foldl_note (senders : List Sender) {seen : Nat}
    {noted : List Sender × Std.TreeSet Sender} (noting : Noted seen noted) (sender : Sender) :
    sender ∈ (senders.foldl note noted).1 ↔ sender ∈ noted.1 ∨ sender ∈ senders := by
  induction senders generalizing seen noted with
  | nil => simp
  | cons first rest induction =>
      have next : sender ∈ (note noted first).1 ↔ sender ∈ noted.1 ∨ sender = first := by
        unfold note
        split
        · rename_i held
          rw [noting.agree] at held
          exact ⟨.inl, fun either => either.elim id fun same => same ▸ held⟩
        · rw [List.mem_cons, or_comm]
      rw [List.foldl_cons, induction (noting.note first), next, List.mem_cons, or_assoc]

/-- Of the senders that take the place of all others, none is lost. -/
theorem mem_replace (roster : Roster) {senders : List Sender} {sender : Sender} :
    sender ∈ (roster.replace senders).order ↔ sender ∈ senders := by
  have start : Noted 0 ([], ∅) := ⟨List.nodup_nil, by simp, Nat.le_refl 0⟩
  simp only [replace, distinct, List.mem_reverse, mem_foldl_note senders start, List.not_mem_nil,
    false_or]

theorem replace_coherent (roster : Roster) {senders : List Sender}
    (few : senders.length ≤ roster.room) : (roster.replace senders).Coherent := by
  have start : Noted 0 ([], ∅) := ⟨List.nodup_nil, by simp, Nat.le_refl 0⟩
  have noting := noted_foldl senders start
  rw [Nat.zero_add] at noting
  refine ⟨List.nodup_reverse.2 noting.distinct, ?_, ?_⟩
  · simp only [replace, distinct, List.length_reverse]
    exact noting.bounded.trans few
  · intro sender
    simp only [replace, distinct, has, List.mem_reverse]
    exact noting.agree sender

/-- Senders that differ from each other and from all that were noted are noted one by one. -/
theorem foldl_note_of_nodup (senders : List Sender) {seen : Nat}
    {noted : List Sender × Std.TreeSet Sender} (noting : Noted seen noted)
    (fresh : (noted.1.reverse ++ senders).Nodup) :
    (senders.foldl note noted).1 = senders.reverse ++ noted.1 := by
  induction senders generalizing seen noted with
  | nil => rfl
  | cons sender rest induction =>
      have new : noted.2.contains sender = false := by
        rw [← Bool.not_eq_true, noting.agree]
        intro held
        exact (List.nodup_append.1 fresh).2.2 sender (List.mem_reverse.2 held) sender (by simp) rfl
      have noted' : note noted sender = (sender :: noted.1, noted.2.insert sender) := by
        rw [note, new]
        rfl
      have rest' := induction (noting.note sender) (by
        rw [noted', List.reverse_cons, List.append_assoc]
        exact fresh)
      rw [List.foldl_cons, rest', noted', List.reverse_cons, List.append_assoc]
      rfl

theorem replace_order (roster : Roster) {senders : List Sender} (distinct : senders.Nodup) :
    (roster.replace senders).order = senders := by
  have start : Noted 0 ([], ∅) := ⟨List.nodup_nil, by simp, Nat.le_refl 0⟩
  simp only [replace, Roster.distinct]
  rw [foldl_note_of_nodup senders start distinct, List.append_nil, List.reverse_reverse]

section Loading

variable {σ : Type} [SortedSets σ]

theorem load_answered (roster : Roster) (store : σ) {newestFirst : List Sender} {left : σ}
    (answered : (SortedSets.rangeDescending roster.settings.replicaKey 0
      (roster.settings.capacity.toInt64 - 1) store).within roster.settings.storeTimeout .range =
        (.ok newestFirst, left)) :
    let loaded := roster.replace (newestFirst.take roster.room).reverse
    let turn := roster.load store
    turn.answer = .ok loaded.order.length ∧ turn.state = loaded ∧
      turn.backend = (loaded.trimReplica left).2 ∧
      (turn.log = [] → (loaded.trimReplica left).1 = .ok ()) := by
  simp only [load, answered]
  refine ⟨rfl, rfl, rfl, ?_⟩
  intro quiet
  cases trimmed : ((roster.replace (newestFirst.take roster.room).reverse).trimReplica left).1 with
  | ok done => rfl
  | error fault =>
      rw [room] at trimmed
      simp [trimmed] at quiet

theorem load_refused (roster : Roster) (store : σ) {fault : StoreFault} {left : σ}
    (refused : (SortedSets.rangeDescending roster.settings.replicaKey 0
      (roster.settings.capacity.toInt64 - 1) store).within roster.settings.storeTimeout .range =
        (.error fault, left)) :
    roster.load store = ⟨.error (.store fault), roster, left, []⟩ := by
  simp only [load, refused]

theorem Coherent.load (coherent : roster.Coherent) (store : σ) :
    (roster.load store).state.Coherent := by
  cases answer : (SortedSets.rangeDescending roster.settings.replicaKey 0
      (roster.settings.capacity.toInt64 - 1) store).within roster.settings.storeTimeout .range with
  | mk result left =>
      cases result with
      | error fault =>
          rw [load_refused roster store answer]
          exact coherent
      | ok newestFirst =>
          rw [(load_answered roster store answer).2.1]
          apply replace_coherent
          rw [List.length_reverse, List.length_take]
          exact Nat.min_le_left _ _

@[simp]
theorem load_settings (roster : Roster) (store : σ) :
    (roster.load store).state.settings = roster.settings := by
  simp only [load]
  split <;> rfl

@[simp]
theorem load_writer (roster : Roster) (store : σ) :
    (roster.load store).state.writer = roster.writer := by
  simp only [load]
  split <;> rfl

@[simp]
theorem load_additions (roster : Roster) (store : σ) :
    (roster.load store).state.additions = roster.additions := by
  simp only [load]
  split <;> rfl

end Loading

end Roster

end OptOut
