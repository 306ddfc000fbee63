import OptOut.Proofs.Charts

/-!
# Calls on sorted sets

A store in memory does to the chart of a key what a call asks for, or it fails and changes nothing.
Which of the two is settled by the conditions that the call meets. No call touches another key or a
stream.
-/

namespace OptOut

/-! ## Calls -/

def Call.answering {σ α γ : Type} (form : α → γ) (call : Call σ α) : Call σ γ :=
  { call with answer := call.answer.map form }

/-- What is left of a call that is waited for, up to a limit if there is one. -/
def Call.ended {σ α : Type} (limit : Option Millis) (operation : Operation) (call : Call σ α) :
    Except StoreFault α × σ :=
  match limit with
  | none => call.await
  | some limit => call.within limit operation

namespace SetCall

def operation : SetCall → Operation
  | upsert _ _ => .upsert
  | remove _ => .remove
  | trim _ _ => .trim
  | range _ _ => .range
  | cardinality => .cardinality

def call {σ : Type} [SortedSets σ] (key : String) (store : σ) : SetCall → Call σ SetAnswer
  | upsert score member => (SortedSets.upsert key score member store).answering fun () => .done
  | remove member => (SortedSets.remove key member store).answering fun () => .done
  | trim start stop =>
    (SortedSets.trimLowest key start stop store).answering fun count => .count count.toNat
  | range start stop => (SortedSets.rangeDescending key start stop store).answering .members
  | cardinality => (SortedSets.cardinality key store).answering fun count => .count count.toNat

def refusal : SetCall → Conditions → Option StoreFault
  | trim _ _ => Conditions.trimRefusal
  | _ => Conditions.sortedSetRefusal

def effect (key : String) (contents : Contents) : SetCall → SetAnswer × Contents
  | upsert score member => (.done, contents.upsert key score member)
  | remove member => (.done, contents.remove key member)
  | trim start stop =>
    (.count (UInt64.ofNat (contents.trimLowest key start stop).1).toNat,
      (contents.trimLowest key start stop).2)
  | range start stop => (.members (contents.rangeDescending key start stop), contents)
  | cardinality => (.count (UInt64.ofNat (contents.set key).size).toNat, contents)

/-- Whether a call puts a member in or takes one out, whether or not that changes anything. -/
def isWrite : SetCall → Bool
  | upsert _ _ => true
  | remove _ => true
  | _ => false

theorem call_memory (call : SetCall) (key : String) (memory : Memory) :
    call.call key memory = memory.call call.refusal fun contents => call.effect key contents := by
  cases call <;>
    (simp only [SetCall.call, refusal, SortedSets.upsert, SortedSets.remove, SortedSets.trimLowest,
      SortedSets.rangeDescending, SortedSets.cardinality, Memory.call]
     split <;> rfl)

end SetCall

namespace Contents

variable (contents : Contents) (key : String)

def chart : Chart :=
  (contents.set key).chart

/-- Nothing outside one sorted set has changed, but for the count of writes. -/
structure Beside (before after : Contents) (key : String) : Prop where
    sets : ∀ other, other ≠ key → after.sets[other]? = before.sets[other]?
    streams : after.streams = before.streams
    appended : after.appended = before.appended

theorem Beside.refl : contents.Beside contents key :=
  ⟨fun _ _ => rfl, rfl, rfl⟩

theorem Beside.trans {before between after : Contents} {key : String}
    (first : before.Beside between key) (second : between.Beside after key) :
    before.Beside after key :=
  ⟨fun other apart => (second.sets other apart).trans (first.sets other apart),
    second.streams.trans first.streams, second.appended.trans first.appended⟩

theorem beside_put_set (set : SortedSet) : contents.Beside (contents.putSet key set) key := by
  refine ⟨fun other apart => ?_, rfl, rfl⟩
  rw [putSet, Std.TreeMap.getElem?_insert, if_neg (by simpa using apart.symm)]

theorem effect_beside (call : SetCall) : contents.Beside (call.effect key contents).2 key := by
  cases call with
  | upsert score member =>
      have put := contents.beside_put_set key ((contents.set key).insert score member)
      exact ⟨put.sets, put.streams, put.appended⟩
  | remove member =>
      simp only [SetCall.effect, remove]
      split
      · exact ⟨(contents.beside_put_set key _).sets, rfl, rfl⟩
      · exact ⟨fun _ _ => rfl, rfl, rfl⟩
  | trim start stop =>
      simp only [SetCall.effect, trimLowest]
      split
      · exact contents.beside_put_set key _
      · exact .refl contents key
  | range start stop => exact .refl contents key
  | cardinality => exact .refl contents key

theorem effect_writes (call : SetCall) :
    (call.effect key contents).2.writes = contents.writes + call.isWrite.toNat := by
  cases call with
  | upsert score member => rfl
  | remove member =>
      simp only [SetCall.effect, remove]
      split <;> rfl
  | trim start stop =>
      simp only [SetCall.effect, trimLowest]
      split <;> rfl
  | range start stop => rfl
  | cardinality => rfl

theorem toNat_count (fits : (contents.set key).size < rankCount) {count : Nat}
    (within : count ≤ (contents.set key).size) : (UInt64.ofNat count).toNat = count := by
  have words : UInt64.size = 2 * rankCount := rfl
  exact UInt64.toNat_ofNat_of_lt (by omega)

theorem trim_answered (fits : (contents.set key).size < rankCount) (start stop : Int64) :
    (contents.chart key).Answered (.trim start stop)
      ((SetCall.trim start stop).effect key contents).1
      (((SetCall.trim start stop).effect key contents).2.chart key) := by
  have few : (contents.set key).members.length < rankCount :=
    (contents.set key).length_members ▸ fits
  have range := between_eq few start stop
  rw [SortedSet.length_members] at range
  have answered : (contents.chart key).Answered (.trim start stop) _ _ :=
    .trim start stop (contents.set key).chart_lists
  rw [← SortedSet.members] at answered
  cases span : rankSpan (contents.set key).size start stop with
  | none =>
      rw [span] at range
      rw [range] at answered
      simp only [SetCall.effect, trimLowest, span]
      exact answered
  | some positions =>
      obtain ⟨first, last⟩ := positions
      obtain ⟨ordered, within⟩ := rank_span_bounds fits span
      have erased := (contents.set key).chart_erase_range fits span
      have length : (between start stop (contents.set key).members).length =
          last - first + 1 := by
        rw [range, span, List.length_drop, List.length_take, SortedSet.length_members]
        omega
      have counted : (UInt64.ofNat (last - first + 1)).toNat = last - first + 1 :=
        contents.toNat_count key fits (by omega)
      simp only [SetCall.effect, trimLowest, span, counted]
      rw [chart, chart, set_put_set, erased, ← length]
      exact answered

theorem range_answered (fits : (contents.set key).size < rankCount) (start stop : Int64) :
    (contents.chart key).Answered (.range start stop)
      ((SetCall.range start stop).effect key contents).1 (contents.chart key) := by
  have length : (contents.set key).members.reverse.length = (contents.set key).size := by
    rw [List.length_reverse, SortedSet.length_members]
  have listed : contents.rangeDescending key start stop =
      between start stop (contents.set key).members.reverse := by
    rw [between_eq (length ▸ fits), length]
    rfl
  rw [SetCall.effect, listed]
  exact .range start stop (contents.set key).chart_lists

/-- A call that is served does to the chart of its key what it asks for. -/
theorem effect_answered (fits : (contents.set key).size < rankCount) (call : SetCall) :
    (contents.chart key).Answered call (call.effect key contents).1
      ((call.effect key contents).2.chart key) := by
  cases call with
  | upsert score member =>
      rw [SetCall.effect, chart, chart, set_upsert, SortedSet.chart_insert]
      exact .upsert score member
  | remove member =>
      rw [SetCall.effect, chart, chart, set_remove, SortedSet.chart_erase]
      exact .remove member
  | trim start stop => exact contents.trim_answered key fits start stop
  | range start stop => exact contents.range_answered key fits start stop
  | cardinality =>
      have size : (UInt64.ofNat (contents.set key).size).toNat = (contents.chart key).keys.card := by
        rw [contents.toNat_count key fits (Nat.le_refl _), chart, (contents.set key).chart_lists.card]
        rfl
      rw [SetCall.effect, size]
      exact .cardinality

end Contents

/-! ## Calls on a store in memory -/

def Conditions.answers (conditions : Conditions) (refusal : Conditions → Option StoreFault)
    (limit : Option Millis) : Bool :=
  limit.elim (refusal conditions).isNone (conditions.serves refusal)

namespace Memory

variable {α : Type} {refusal : Conditions → Option StoreFault} {limit : Option Millis}
  {memory : Memory}

theorem call_ended_served (effect : Contents → α × Contents)
    (served : memory.current.answers refusal limit = true) (operation : Operation) :
    (memory.call refusal effect).ended limit operation =
      (.ok (effect memory.contents).1,
        { memory.skip with contents := (effect memory.contents).2 }) := by
  cases limit with
  | some span => exact call_served effect served operation
  | none =>
      rw [call_accepted effect (Option.isNone_iff_eq_none.1 served)]
      rfl

/-- A call that is not served changes nothing. It is refused, or it takes too long. -/
theorem call_ended_failed (effect : Contents → α × Contents)
    (failed : memory.current.answers refusal limit = false) (operation : Operation) :
    ∃ fault, (memory.call refusal effect).ended limit operation = (.error fault, memory.skip) ∧
      (refusal memory.current = some fault ∨ ∃ span, fault = .timeout operation.name span) := by
  cases refused : refusal memory.current with
  | some fault =>
      rw [call_refused effect refused]
      cases limit with
      | none => exact ⟨fault, rfl, .inl rfl⟩
      | some span =>
          simp only [Call.ended, Call.within, Call.conclude]
          split
          · exact ⟨_, rfl, .inr ⟨span, rfl⟩⟩
          · exact ⟨_, rfl, .inl rfl⟩
  | none =>
      cases limit with
      | none => simp [Conditions.answers, refused] at failed
      | some span =>
          have late : decide (span < memory.current.latency) = true := by
            simpa [Conditions.answers, Conditions.serves, refused] using failed
          rw [call_accepted effect refused]
          simp only [Call.ended, Call.within, Call.conclude, Call.expires, late, if_true]
          exact ⟨_, rfl, .inr ⟨span, rfl⟩⟩

end Memory

/-! ## Sequences of calls -/

/-- A step in the use of a store: a call, or a member that is put in from outside. -/
inductive SetStep where
  | seed (key : String) (score : Score) (member : Sender)
  | ask (key : String) (limit : Option Millis) (call : SetCall)
deriving DecidableEq, Repr

namespace SetStep

def key : SetStep → String
  | seed key _ _ => key
  | ask key _ _ => key

def asked : SetStep → SetCall
  | seed _ score member => .upsert score member
  | ask _ _ call => call

def isWrite : SetStep → Bool
  | seed _ _ _ => false
  | ask _ _ call => call.isWrite

def inserts (step : SetStep) : Bool :=
  step.asked.isUpsert

def served (memory : Memory) : SetStep → Bool
  | seed _ _ _ => true
  | ask _ limit call => memory.current.answers call.refusal limit

def perform (memory : Memory) : SetStep → Except StoreFault SetAnswer × Memory
  | seed key score member =>
    (.ok .done, { memory with contents := memory.contents.seed key score member })
  | ask key limit call => (call.call key memory).ended limit call.operation

end SetStep

structure SetMoment where
    before : Memory
    step : SetStep
    answer : Except StoreFault SetAnswer
    after : Memory

namespace SetMoment

def ofStep (memory : Memory) (step : SetStep) : SetMoment :=
  ⟨memory, step, (step.perform memory).1, (step.perform memory).2⟩

def isWrite (moment : SetMoment) : Bool :=
  moment.answer.isOk && moment.step.isWrite

/-- What holds of every step. The chart of its key turns into another one as the step asks for, or
nothing changes. -/
structure Lawful (moment : SetMoment) : Prop where
    outcome : moment.answer.isOk = moment.step.served moment.before
    answered : ∀ answer, moment.answer = .ok answer →
      (moment.before.contents.chart moment.step.key).Answered moment.step.asked answer
        (moment.after.contents.chart moment.step.key)
    failed : ∀ fault, moment.answer = .error fault →
      moment.after.contents = moment.before.contents ∧
        ((∃ detail, fault = .unavailable detail) ∨
          ∃ operation span, fault = .timeout operation span)
    beside : moment.before.contents.Beside moment.after.contents moment.step.key
    writes : moment.after.contents.writes =
      moment.before.contents.writes + moment.isWrite.toNat
    listed : ∀ key entries, (moment.after.contents.chart key).Lists entries ↔
      entries = (moment.after.contents.set key).entries
    scores : ∀ key member, (moment.after.contents.set key).score? member =
      (moment.after.contents.chart key).lookup member
    trimmed : ∀ start stop count, moment.step.asked = .trim start stop →
      moment.answer = .ok (.count count) →
        (moment.before.contents.set moment.step.key).size =
          count + (moment.after.contents.set moment.step.key).size
    upserted : ∀ score member, moment.step.asked = .upsert score member →
      moment.answer.isOk = true →
        member ∈ moment.before.contents.chart moment.step.key →
          let before := moment.before.contents.chart moment.step.key
          let after := moment.after.contents.chart moment.step.key
          after.keys = before.keys ∧ after.lookup member = some score ∧
            ∀ other, other ≠ member → after.lookup other = before.lookup other
    idle : (moment.before.contents.sets[moment.step.key]? = none ∧
        moment.step.inserts = false) ∨
        (∃ member, moment.step.asked = .remove member ∧
          (moment.before.contents.set moment.step.key).score? member = none) →
      ∀ key, moment.after.contents.set key = moment.before.contents.set key

end SetMoment

/-! ## What holds of every step -/

structure SetStep.Took (step : SetStep) (before : Contents) (answer : SetAnswer)
    (after : Contents) : Prop where
    answered : (before.chart step.key).Answered step.asked answer (after.chart step.key)
    beside : before.Beside after step.key
    writes : after.writes = before.writes + step.isWrite.toNat

theorem SetCall.refusal_unavailable {call : SetCall} {conditions : Conditions}
    {fault : StoreFault} (refused : call.refusal conditions = some fault) :
    ∃ detail, fault = .unavailable detail := by
  have offline : ∀ {up : Bool} {detail : String} {fault : StoreFault},
      (if up then none else some (.unavailable detail)) = some fault →
        fault = .unavailable detail := by
    intro up detail fault refused
    cases up with
    | true => exact nomatch refused
    | false => exact (Option.some.inj refused).symm
  cases call with
  | trim start stop =>
      rcases (Option.orElse_eq_some _ _ _).1 refused with refused | ⟨_, refused⟩
      · exact ⟨_, offline refused⟩
      · exact ⟨_, offline refused⟩
  | upsert score member => exact ⟨_, offline refused⟩
  | remove member => exact ⟨_, offline refused⟩
  | range start stop => exact ⟨_, offline refused⟩
  | cardinality => exact ⟨_, offline refused⟩

namespace SetStep

variable {step : SetStep} {memory : Memory}

theorem perform_served (fits : (memory.contents.set step.key).size < rankCount)
    (served : step.served memory = true) :
    ∃ answer, (step.perform memory).1 = .ok answer ∧
      step.Took memory.contents answer (step.perform memory).2.contents := by
  cases step with
  | seed key score member =>
      have answered := memory.contents.effect_answered key fits (.upsert score member)
      have beside := memory.contents.beside_put_set key
        ((memory.contents.set key).insert score member)
      exact ⟨.done, rfl, answered, beside, rfl⟩
  | ask key limit call =>
      have ended := Memory.call_ended_served (fun contents => call.effect key contents) served
        call.operation
      rw [← call.call_memory] at ended
      refine ⟨(call.effect key memory.contents).1, ?_, ?_⟩
      · rw [perform, ended]
      · rw [perform, ended]
        exact ⟨memory.contents.effect_answered key fits call,
          memory.contents.effect_beside key call, memory.contents.effect_writes key call⟩

theorem perform_failed (failed : step.served memory = false) :
    ∃ fault, (step.perform memory).1 = .error fault ∧
      (step.perform memory).2.contents = memory.contents ∧
        ((∃ detail, fault = .unavailable detail) ∨
          ∃ operation span, fault = .timeout operation span) := by
  cases step with
  | seed key score member => exact nomatch failed
  | ask key limit call =>
      obtain ⟨fault, ended, reason⟩ := Memory.call_ended_failed
        (fun contents => call.effect key contents) failed call.operation
      rw [← call.call_memory] at ended
      refine ⟨fault, ?_, ?_, reason.imp SetCall.refusal_unavailable fun ⟨span, late⟩ =>
        ⟨_, span, late⟩⟩
      · rw [perform, ended]
      · rw [perform, ended]
        rfl

end SetStep

namespace Contents

theorem set_of_beside {before after : Contents} {key other : String} (beside : before.Beside after key)
    (apart : other ≠ key) : after.set other = before.set other := by
  rw [Contents.set, Std.TreeMap.getD_eq_getD_getElem?, beside.sets other apart,
    ← Std.TreeMap.getD_eq_getD_getElem?, ← Contents.set]

theorem lists_chart_iff {contents : Contents} {key : String} {entries : List ScoredMember} :
    (contents.chart key).Lists entries ↔ entries = (contents.set key).entries := by
  constructor
  · exact fun lists => lists.unique (contents.set key).chart_lists
  · rintro rfl
    exact (contents.set key).chart_lists

theorem card_chart (contents : Contents) (key : String) :
    (contents.chart key).keys.card = (contents.set key).size :=
  (contents.set key).chart_lists.card

theorem chart_of_absent {contents : Contents} {key : String} (absent : contents.sets[key]? = none) :
    contents.chart key = ∅ := by
  rw [chart, Contents.set, Std.TreeMap.getD_eq_getD_getElem?, absent]
  rfl

end Contents

namespace SetMoment

variable {memory : Memory} {step : SetStep}

theorem lawful_of_failed (failed : step.served memory = false) : (ofStep memory step).Lawful := by
  obtain ⟨fault, answer, same, reason⟩ := step.perform_failed failed
  have refused : (ofStep memory step).answer = .error fault := answer
  have unchanged : (ofStep memory step).after.contents = memory.contents := same
  have unanswered : ∀ {answer}, (ofStep memory step).answer ≠ .ok answer := by
    rw [refused]
    exact nofun
  constructor
  case outcome =>
    rw [refused]
    exact failed.symm
  case answered => exact fun answer answered => absurd answered unanswered
  case failed =>
    intro other error
    obtain rfl : fault = other := Except.error.inj (refused.symm.trans error)
    exact ⟨unchanged, reason⟩
  case beside =>
    rw [unchanged]
    exact .refl memory.contents step.key
  case writes =>
    rw [unchanged, isWrite, refused]
    rfl
  case listed => exact fun key entries => Contents.lists_chart_iff
  case scores => exact fun key member => SortedSet.score_eq_lookup _ member
  case trimmed => exact fun _ _ _ _ answered => absurd answered unanswered
  case upserted =>
    intro score member _ served
    rw [refused] at served
    exact nomatch served
  case idle =>
    intro _ key
    rw [unchanged]
    rfl

theorem lawful_of_served (fits : (memory.contents.set step.key).size < rankCount)
    (served : step.served memory = true) : (ofStep memory step).Lawful := by
  obtain ⟨answer, answered, took⟩ := step.perform_served fits served
  have done : (ofStep memory step).answer = .ok answer := answered
  have own : ∀ {other}, (ofStep memory step).answer = .ok other → answer = other := by
    intro other also
    exact Except.ok.inj (done.symm.trans also)
  constructor
  case outcome =>
    rw [done]
    exact served.symm
  case answered =>
    intro other also
    exact own also ▸ took.answered
  case failed =>
    rw [done]
    exact nofun
  case beside => exact took.beside
  case writes =>
    rw [isWrite, done]
    exact took.writes
  case listed => exact fun key entries => Contents.lists_chart_iff
  case scores => exact fun key member => SortedSet.score_eq_lookup _ member
  case trimmed =>
    intro start stop count asked also
    have trimmed := took.answered
    rw [show step.asked = _ from asked, own also] at trimmed
    rw [← Contents.card_chart, ← Contents.card_chart]
    exact trimmed.trimmed
  case upserted =>
    intro score member asked _ present
    have upserted := took.answered
    rw [show step.asked = _ from asked] at upserted
    exact upserted.upserted present
  case idle =>
    intro idle key
    by_cases same : key = step.key
    · rw [same]
      refine SortedSet.eq_of_chart _ (took.answered.idle ?_)
      refine idle.imp (fun absent => ⟨Contents.chart_of_absent absent.1, absent.2⟩) ?_
      rintro ⟨member, asked, absent⟩
      exact ⟨member, asked, Finmap.lookup_eq_none.1 ((SortedSet.score_eq_lookup _ _).symm.trans absent)⟩
    · exact Contents.set_of_beside took.beside same

theorem lawful (memory : Memory) (step : SetStep)
    (fits : (memory.contents.set step.key).size < rankCount) : (ofStep memory step).Lawful := by
  cases served : step.served memory with
  | true => exact lawful_of_served fits served
  | false => exact lawful_of_failed served

/-- The sorted set of a key gets one member more at most, and that from its own insertions only. -/
theorem Lawful.size_le (lawful : (ofStep memory step).Lawful) (key : String) :
    ((step.perform memory).2.contents.set key).size ≤
      (memory.contents.set key).size + step.inserts.toNat := by
  by_cases own : key = step.key
  · cases answer : (ofStep memory step).answer with
    | ok answered =>
        have size := (lawful.answered answered answer).card_le
        rw [Contents.card_chart, Contents.card_chart] at size
        rw [own]
        exact size
    | error fault =>
        have same : (step.perform memory).2.contents = memory.contents :=
          (lawful.failed fault answer).1
        rw [same]
        exact Nat.le_add_right _ _
  · have same : (step.perform memory).2.contents.set key = memory.contents.set key :=
      Contents.set_of_beside lawful.beside own
    rw [same]
    exact Nat.le_add_right _ _

end SetMoment

/-! ## Runs -/

namespace Memory

def trail (memory : Memory) : List SetStep → List SetMoment
  | [] => []
  | step :: rest => .ofStep memory step :: trail (step.perform memory).2 rest

def after (memory : Memory) (steps : List SetStep) : Memory :=
  steps.foldl (fun memory step => (step.perform memory).2) memory

/-- However a store in memory is used, and however it serves, each of its sorted sets is a finite
map from members to scores: what is listed follows from the map, and each call does to the map of
its key what it asks for, or fails and changes nothing. No set may ever have more members than a
rank can count. -/
theorem sets_are_charts (memory : Memory) (steps : List SetStep)
    (fits : ∀ key, (memory.contents.set key).size + steps.countP SetStep.inserts < rankCount) :
    (∀ moment ∈ memory.trail steps, moment.Lawful) ∧
      (memory.after steps).contents.streams = memory.contents.streams ∧
      (memory.after steps).contents.writes =
        memory.contents.writes + (memory.trail steps).countP SetMoment.isWrite := by
  induction steps generalizing memory with
  | nil => exact ⟨nofun, rfl, rfl⟩
  | cons step rest induction =>
      have lawful := SetMoment.lawful memory step (Nat.lt_of_le_of_lt (Nat.le_add_right _ _)
        (fits step.key))
      have later : ∀ key, ((step.perform memory).2.contents.set key).size +
          rest.countP SetStep.inserts < rankCount := by
        intro key
        have size := lawful.size_le key
        have room := fits key
        rw [List.countP_cons] at room
        cases inserts : step.inserts with
        | true =>
            rw [inserts] at size room
            simp only [Bool.toNat_true, if_true] at size room
            omega
        | false =>
            rw [inserts] at size room
            simp only [Bool.toNat_false, Bool.false_eq_true, if_false] at size room
            omega
      obtain ⟨moments, streams, writes⟩ := induction (step.perform memory).2 later
      refine ⟨?_, streams.trans lawful.beside.streams, ?_⟩
      · intro moment held
        rcases List.mem_cons.1 held with rfl | held
        · exact lawful
        · exact moments moment held
      · have first : (step.perform memory).2.contents.writes =
            memory.contents.writes + (SetMoment.ofStep memory step).isWrite.toNat := lawful.writes
        have count : (SetMoment.ofStep memory step).isWrite.toNat =
            if (SetMoment.ofStep memory step).isWrite then 1 else 0 := by
          cases (SetMoment.ofStep memory step).isWrite <;> rfl
        rw [after, List.foldl_cons, ← after, writes, trail, List.countP_cons, first, count]
        omega

/-- Three members that are sorted by the sign of a zero, a refused trim and a removal that takes too
long. -/
theorem sets_are_charts_of_zeros :
    let memory : Memory :=
      { conditions := fun number => { latency := if number = 4 then 600 else 0, trimUp := number ≠ 3 } }
    let negativeZero : Score := ⟨9223372036854775808⟩
    let steps : List SetStep :=
      [.seed "a" (.ofMillis 5) "alice", .ask "a" (some 500) (.upsert negativeZero "bob"),
        .ask "a" none (.upsert (.ofMillis 0) "alba"), .ask "a" none (.range 0 (-1)),
        .ask "a" none (.trim 0 0), .ask "a" (some 500) (.remove "alice"),
        .ask "b" none (.remove "alice"), .ask "a" none (.trim (-9) 0), .ask "a" none .cardinality]
    (memory.trail steps).map SetMoment.answer =
        [.ok .done, .ok .done, .ok .done, .ok (.members ["alice", "alba", "bob"]),
          .error (.unavailable "trim refused"), .error (.timeout "remove_member" 500), .ok .done,
          .ok (.count 1), .ok (.count 2)] ∧
      ((memory.after steps).contents.set "a").entries =
        [⟨.ofMillis 0, "alba"⟩, ⟨.ofMillis 5, "alice"⟩] ∧
      (memory.after steps).contents.writes = 3 ∧ ∀ moment ∈ memory.trail steps, moment.Lawful := by
  intro memory negativeZero steps
  have fits : ∀ key, (memory.contents.set key).size + steps.countP SetStep.inserts < rankCount := by
    intro key
    have empty : (memory.contents.set key).size = 0 := rfl
    have inserts : steps.countP SetStep.inserts = 3 := by decide
    have countable : 0 + 3 < rankCount := by decide
    rw [empty, inserts]
    exact countable
  obtain ⟨lawful, _, writes⟩ := sets_are_charts memory steps fits
  have counted : (memory.trail steps).countP SetMoment.isWrite = 3 := by decide +kernel
  refine ⟨by decide +kernel, by decide +kernel, ?_, lawful⟩
  rw [writes, counted]

end Memory

end OptOut
