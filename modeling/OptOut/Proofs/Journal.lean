import OptOut.Proofs.Provenance
import OptOut.Proofs.Record
import OptOut.Proofs.SetCalls
import OptOut.Submission

/-!
# Streams only grow

All that may be done to a store in memory by any number of registrars, writers, operators and
services, in any order. An append puts one entry at the end of one stream under the next number of
the store, or it fails and uses up none. Nothing else touches the streams.
-/

namespace OptOut

open Replica

/-! ## What leaves the streams alone -/

def sequenceId (number : Nat) : String :=
  Text.decimal number ++ "-0"

theorem sequence_id_injective : Function.Injective sequenceId := by
  intro number other same
  have digits := congrArg String.toList (String.append_left_inj "-0" |>.1 same)
  rw [Text.decimal, Text.decimal, String.toList_ofList, String.toList_ofList] at digits
  rw [← Nat.ofDigitChars_ten_toDigits (n := number), digits, Nat.ofDigitChars_ten_toDigits]

namespace Contents

/-- The streams are the same, and no entry was numbered. -/
structure SameStreams (before after : Contents) : Prop where
    streams : after.streams = before.streams
    appended : after.appended = before.appended

variable {before between after : Contents} {key : String}

theorem SameStreams.refl (contents : Contents) : contents.SameStreams contents :=
  ⟨rfl, rfl⟩

theorem SameStreams.trans (first : before.SameStreams between)
    (second : between.SameStreams after) : before.SameStreams after :=
  ⟨second.streams.trans first.streams, second.appended.trans first.appended⟩

theorem SameStreams.stream (same : before.SameStreams after) (key : String) :
    after.stream key = before.stream key := by
  rw [Contents.stream, same.streams, Contents.stream]

theorem Beside.same_streams (beside : before.Beside after key) : before.SameStreams after :=
  ⟨beside.streams, beside.appended⟩

theorem stream_append_other {other : String} (apart : key ≠ other) (contents : Contents)
    (fields : List Field) : (contents.append key fields).2.stream other = contents.stream other := by
  rw [stream, append, Std.TreeMap.getD_insert, if_neg (by simpa using apart), ← stream]

theorem trim_same_streams (contents : Contents) (key : String) (start stop : Int64) :
    contents.SameStreams (contents.trimLowest key start stop).2 :=
  (contents.effect_beside key (.trim start stop)).same_streams

end Contents

theorem Replica.Write.enact_same_streams (write : Write) (key : String) (contents : Contents) :
    contents.SameStreams (write.enact key contents) := by
  cases write with
  | upsert member score => exact (contents.effect_beside key (.upsert score member)).same_streams
  | remove member => exact (contents.effect_beside key (.remove member)).same_streams

theorem Replica.Touched.same_streams {writes : List Write} {before after : Contents}
    (touched : Touched writes before after) : before.SameStreams after := by
  rcases touched with rfl | ⟨key, write, _, rfl⟩
  · exact .refl after
  · exact write.enact_same_streams key before

def Deployment.SameStreams (before after : Deployment) : Prop :=
  before.memory.contents.SameStreams after.memory.contents

namespace Roster

theorem load_same_streams (roster : Roster) (deployment : Deployment) :
    deployment.SameStreams (roster.load deployment).backend := by
  rw [load_deployment]
  rcases deployment.memory.range_cases roster.settings.replicaKey 0
      (roster.settings.capacity.toInt64 - 1) roster.settings.storeTimeout with
    ⟨fault, refused⟩ | answered
  · rw [load_refused roster deployment.memory refused]
    exact .refl _
  · obtain ⟨_, _, backend, _⟩ := load_answered roster deployment.memory answered
    rw [backend]
    rcases trim_replica_contents _ deployment.memory.skip with same | ⟨stop, trimmed⟩
    · rw [Deployment.SameStreams, Deployment.withMemory, same]
      exact .refl _
    · rw [Deployment.SameStreams, Deployment.withMemory, trimmed]
      exact Contents.trim_same_streams _ _ _ _

theorem add_same_streams (roster : Roster) (sender : Sender) (deployment : Deployment) :
    deployment.SameStreams (roster.add sender deployment).backend := by
  cases known : roster.has sender with
  | true =>
      rw [add_member known]
      exact .refl _
  | false =>
      rcases (add_persists known deployment).memory with same | ⟨limit, written⟩
      · rw [Deployment.SameStreams, same]
        exact .refl _
      · rw [Deployment.SameStreams, written]
        exact apply_writes_keep (fun contents => deployment.memory.contents.SameStreams contents)
          (fun write _ contents same => same.trans (write.enact_same_streams _ contents)) limit
          (.refl _)

end Roster

theorem Replica.Crew.run_same_streams (crew : Crew) (target : Option WriterId) (time : Option Nat)
    (memory : Memory) :
    memory.contents.SameStreams (crew.run target time memory).2.1.contents := by
  let holds (_ : Crew) (left : Memory) : Prop := memory.contents.SameStreams left.contents
  have act : ∀ crew left id, holds crew left →
      holds (crew.act id left).1 (crew.act id left).2.1 := fun crew left id same =>
    same.trans (crew.act_touches id left).2.same_streams
  have start : holds crew memory := .refl _
  exact run_keeps act (fun _ _ _ same => same) (fun _ _ same => same) target time start

theorem Stir.apply_same_streams (stir : Stir) (deployment : Deployment) :
    deployment.SameStreams (stir.apply deployment) := by
  cases stir with
  | act writer => exact (deployment.crew.act_touches writer deployment.memory).2.same_streams
  | work target time => exact deployment.crew.run_same_streams target time deployment.memory
  | pass time => exact .refl _
  | settle => exact .refl _
  | halt writer => exact .refl _
  | weather conditions => exact .refl _
  | clock other => exact .refl _

namespace Service

theorem assemble_memory (settings : Settings) (writer : Option WriterId)
    (turn : Turn (Except RosterFault Nat) Registrar Deployment) (site : Site Deployment) :
    (assemble settings writer turn site).2.backend.memory = turn.backend.memory := by
  simp only [assemble]
  split
  · rfl
  · split
    · rfl
    · cases writer <;> rfl

theorem start_same_streams (settings : Settings) (site : Site Deployment) :
    site.backend.SameStreams (start settings site).2.backend := by
  cases valid : Registrar.ofSettings settings.registrar with
  | error fault =>
      simp only [start, valid]
      exact .refl _
  | ok registrar =>
      simp only [start, valid]
      split
      · rw [Deployment.SameStreams, assemble_memory]
        exact Roster.load_same_streams _ (site.backend.startWriter settings.storeTimeout).2
      · rw [Deployment.SameStreams, assemble_memory]
        exact Roster.load_same_streams _ site.backend

theorem shutdown_same_streams (service : Service) (site : Site Deployment) :
    site.backend.SameStreams (service.shutdown site).2.backend :=
  service.shutdown_keeps site.backend.SameStreams (.refl _)
    (fun writer time => site.backend.crew.run_same_streams (some writer) time site.backend.memory)
    fun _ _ same => same

end Service

theorem Chronicle.finish_same_streams (service : Service) (chronicle : Chronicle)
    (ending : Ending) :
    chronicle.site.backend.SameStreams (finish service chronicle ending).site.backend := by
  cases ending with
  | shutdown => exact service.shutdown_same_streams chronicle.site
  | crash lost => exact .refl _

/-! ## Appends -/

/-- An attempt to append to a stream, and the id of the entry if there is one now. -/
structure Attempt where
    streamKey : String
    fields : List Field
    id? : Option String
deriving DecidableEq, Repr

/-- What an attempt makes of the streams: one entry at the end of its own, or nothing. Where there
was no attempt, there is nothing new either. -/
inductive Contents.Grown (before : Contents) : Option Attempt → Contents → Prop where
  | entered (key : String) (fields : List Field) {after : Contents}
      (same : (before.append key fields).2.SameStreams after) :
      before.Grown (some ⟨key, fields, some (before.append key fields).1⟩) after
  | missed (key : String) (fields : List Field) {after : Contents}
      (same : before.SameStreams after) : before.Grown (some ⟨key, fields, none⟩) after
  | idle {after : Contents} (same : before.SameStreams after) : before.Grown none after

theorem Contents.Grown.keep {before between after : Contents} {attempt : Option Attempt}
    (grown : before.Grown attempt between) (same : between.SameStreams after) :
    before.Grown attempt after := by
  cases grown with
  | entered key fields left => exact .entered key fields (left.trans same)
  | missed key fields left => exact .missed key fields (left.trans same)
  | idle left => exact .idle (left.trans same)

namespace Registrar

/-- The end of an append that was begun at some moment before: the answer has come, or else the
limit. -/
def endAppend (registrar : Registrar) (record : Record) (expired : Bool)
    (deployment : Deployment) : Except StoreFault String × Deployment :=
  (Streams.append registrar.streamKey record.fields deployment).conclude
    registrar.appendTimeout .append expired

/-- An append that nothing comes in between of ends like this. -/
theorem append_record_ends (registrar : Registrar) (record : Record) (deployment : Deployment) :
    registrar.appendRecord record deployment = registrar.endAppend record
      ((Streams.append registrar.streamKey record.fields deployment).expires
        registrar.appendTimeout) deployment :=
  rfl

def attemptOf (registrar : Registrar) (event : Event) (moment : Millis) : Outcome → Option Attempt
  | .registered target streamId _ =>
    some ⟨registrar.streamKey, (recordAt event target moment).fields, streamId⟩
  | _ => none

end Registrar

theorem Memory.conclude_append_grows (memory : Memory) (key : String) (fields : List Field)
    (limit : Millis) (expired : Bool) :
    let ended := (Streams.append key fields memory).conclude limit .append expired
    memory.contents.Grown (some ⟨key, fields, ended.1.toOption⟩) ended.2.contents := by
  have call : Streams.append key fields memory = memory.call Conditions.streamRefusal
      fun contents => contents.append key fields := rfl
  cases refused : Conditions.streamRefusal memory.current with
  | some fault =>
      rw [call, call_refused _ refused]
      cases expired with
      | true => exact .missed key fields (.refl _)
      | false => exact .missed key fields (.refl _)
  | none =>
      rw [call, call_accepted _ refused]
      cases expired with
      | true => exact .missed key fields (.refl _)
      | false => exact .entered key fields (.refl _)

theorem Registrar.end_append_grows (registrar : Registrar) (record : Record) (expired : Bool)
    (deployment : Deployment) :
    let ended := registrar.endAppend record expired deployment
    deployment.memory.contents.Grown
      (some ⟨registrar.streamKey, record.fields, ended.1.toOption⟩) ended.2.memory.contents := by
  have ended : registrar.endAppend record expired deployment = _ :=
    Call.conclude_embed (Streams.append registrar.streamKey record.fields deployment.memory)
      deployment.withMemory registrar.appendTimeout .append expired
  rw [ended]
  exact deployment.memory.conclude_append_grows _ _ _ _

/-- Whoever waits without a limit gets what is there in the end. -/
theorem Record.submit_grows (record : Record) (deployment : Deployment) :
    let ended := record.submit deployment
    deployment.memory.contents.Grown (some ⟨optOutStream, record.fields, ended.1.toOption⟩)
      ended.2.memory.contents :=
  deployment.memory.conclude_append_grows optOutStream record.fields 0 false

theorem Registrar.decide_grows (registrar : Registrar) (event : Event) (deployment : Deployment) :
    let turn := registrar.decide event deployment
    deployment.memory.contents.Grown
      (registrar.attemptOf event deployment.clock.current turn.answer.outcome)
      turn.backend.memory.contents := by
  rcases registrar.decide_cases event deployment with ⟨_, turn⟩ | ⟨_, _, outcome, neither, turn⟩ |
    ⟨_, _, target, _, turn⟩
  · rw [turn]
    exact .idle (.refl _)
  · rw [turn]
    rcases neither with rfl | rfl <;> exact .idle (.refl _)
  · let record := recordAt event target deployment.clock.current
    have grown := registrar.end_append_grows record
      ((Streams.append registrar.streamKey record.fields deployment.ticked).expires
        registrar.appendTimeout) deployment.ticked
    rw [← append_record_ends] at grown
    generalize append : registrar.appendRecord record deployment.ticked = appended at grown
    obtain ⟨appended, between⟩ := appended
    have begun : registrar.counted.appendRecord record deployment.ticked = (appended, between) :=
      append
    obtain ⟨⟨replicated, answer⟩, -, backend, -⟩ := register_turn begun
    rw [turn, answer, backend]
    exact grown.keep (Roster.add_same_streams _ event.pubkey between)

/-! ## Deeds -/

/-- One of the things that are done on a store by those who share it. Each deed may have a registrar
or a service of its own, in whatever state an earlier one left it. -/
inductive Deed where
    /-- A registrar decides on an event while nobody else does anything. -/
  | decide (registrar : Registrar) (event : Event)
    /-- The wait of a registrar for an append ends, whatever was done since it began. -/
  | append (registrar : Registrar) (record : Record) (expired : Bool)
    /-- An operator submits a record. -/
  | submit (record : Record)
    /-- A sorted set is used. -/
  | serve (step : SetStep)
  | load (registrar : Registrar)
  | start (settings : Settings)
  | finish (service : Service) (ending : Ending)
  | stir (happening : Stir)

def Deed.perform (site : Site Deployment) : Deed → Option Attempt × Site Deployment
  | decide registrar event =>
    let turn := registrar.decide event site.backend
    (registrar.attemptOf event site.backend.clock.current turn.answer.outcome,
      { site with backend := turn.backend })
  | append registrar record expired =>
    let (answer, backend) := registrar.endAppend record expired site.backend
    (some ⟨registrar.streamKey, record.fields, answer.toOption⟩, { site with backend })
  | submit record =>
    let (answer, backend) := record.submit site.backend
    (some ⟨optOutStream, record.fields, answer.toOption⟩, { site with backend })
  | serve step =>
    (none, { site with
      backend := site.backend.withMemory (step.perform site.backend.memory).2 })
  | load registrar => (none, { site with backend := (registrar.load site.backend).backend })
  | start settings => (none, (Service.start settings site).2)
  | finish service ending => (none, (Chronicle.finish service { site } ending).site)
  | stir happening => (none, { site with backend := happening.apply site.backend })

theorem SetStep.perform_same_streams (step : SetStep) (memory : Memory) :
    memory.contents.SameStreams (step.perform memory).2.contents := by
  cases step with
  | seed key score member =>
      exact (memory.contents.beside_put_set key
        ((memory.contents.set key).insert score member)).same_streams
  | ask key limit call =>
      let effect := fun contents : Contents => call.effect key contents
      rw [perform, call.call_memory]
      cases served : memory.current.answers call.refusal limit with
      | true =>
          rw [Memory.call_ended_served effect served]
          exact (memory.contents.effect_beside key call).same_streams
      | false =>
          obtain ⟨fault, ended, _⟩ := Memory.call_ended_failed effect served call.operation
          rw [ended]
          exact .refl _

/-- Whatever is done, the streams grow by the attempt that it was. -/
theorem Deed.perform_grows (deed : Deed) (site : Site Deployment) :
    site.backend.memory.contents.Grown (deed.perform site).1
      (deed.perform site).2.backend.memory.contents := by
  cases deed with
  | decide registrar event => exact registrar.decide_grows event site.backend
  | append registrar record expired =>
      exact registrar.end_append_grows record expired site.backend
  | submit record => exact record.submit_grows site.backend
  | serve step => exact .idle (step.perform_same_streams site.backend.memory)
  | load registrar => exact .idle (registrar.roster.load_same_streams site.backend)
  | start settings =>
      have same := Service.start_same_streams settings site
      rw [perform]
      generalize Service.start settings site = begun at same ⊢
      exact .idle same
  | finish service ending =>
      exact .idle (Chronicle.finish_same_streams service { site } ending)
  | stir happening => exact .idle (happening.apply_same_streams site.backend)

/-! ## Journals -/

structure Journal where
    site : Site Deployment
    attempts : List Attempt := []

namespace Journal

def opened (conditions : Nat → Conditions) (clock : ManualClock) : Journal :=
  { site := { backend := { memory := { conditions }, clock } } }

def step (journal : Journal) (deed : Deed) : Journal :=
  ⟨(deed.perform journal.site).2, journal.attempts ++ (deed.perform journal.site).1.toList⟩

def run (journal : Journal) (deeds : List Deed) : Journal :=
  deeds.foldl step journal

def contents (journal : Journal) : Contents :=
  journal.site.backend.memory.contents

def entered? (attempt : Attempt) : Option (String × StreamEntry) :=
  attempt.id?.map fun id => (attempt.streamKey, ⟨id, attempt.fields⟩)

def entered (journal : Journal) : List (String × StreamEntry) :=
  journal.attempts.filterMap entered?

def enteredIn (journal : Journal) (key : String) : List StreamEntry :=
  (journal.entered.filter (·.1 = key)).map Prod.snd

/-- The store is what the attempts made of it. -/
structure Kept (journal : Journal) : Prop where
    ids : (journal.entered.map fun entry => entry.2.id) =
      (List.range' 1 journal.entered.length).map sequenceId
    streams : ∀ key, journal.contents.stream key = journal.enteredIn key
    appended : journal.contents.appended = journal.entered.length

variable {journal : Journal}

theorem entered_append (site : Site Deployment) (attempt : Option Attempt) :
    (⟨site, journal.attempts ++ attempt.toList⟩ : Journal).entered =
      journal.entered ++ (attempt.bind entered?).toList := by
  rw [entered, List.filterMap_append, ← entered]
  cases attempt with
  | none => rfl
  | some attempt => cases made : entered? attempt <;> simp [made]

theorem Kept.same (kept : journal.Kept) {later : Journal} (entered : later.entered = journal.entered)
    (same : journal.contents.SameStreams later.contents) : later.Kept := by
  constructor
  · rw [entered]
    exact kept.ids
  · intro key
    rw [same.stream, enteredIn, entered]
    exact kept.streams key
  · rw [same.appended, entered]
    exact kept.appended

theorem Kept.enter (kept : journal.Kept) {key : String} {fields : List Field} {later : Journal}
    (entered : later.entered =
      journal.entered ++ [(key, ⟨(journal.contents.append key fields).1, fields⟩)])
    (same : (journal.contents.append key fields).2.SameStreams later.contents) : later.Kept := by
  have id : (journal.contents.append key fields).1 = sequenceId (1 + journal.entered.length) := by
    rw [← kept.appended, Nat.add_comm]
    rfl
  constructor
  · rw [entered, List.map_append, kept.ids, List.length_append, List.length_singleton,
      List.range'_1_concat, List.map_append, List.map_singleton, List.map_singleton, ← id]
  · intro other
    rw [same.stream, enteredIn, entered, List.filter_append, List.map_append, ← enteredIn,
      ← kept.streams]
    by_cases own : key = other
    · rw [own, Contents.stream_append]
      simp
    · rw [Contents.stream_append_other own]
      simp [own]
  · rw [same.appended, entered, List.length_append, ← kept.appended]
    rfl

theorem Kept.step (kept : journal.Kept) (deed : Deed) : (journal.step deed).Kept := by
  have grown := deed.perform_grows journal.site
  rw [Journal.step]
  generalize deed.perform journal.site = done at grown ⊢
  obtain ⟨attempt, site⟩ := done
  have entered := journal.entered_append site attempt
  cases grown with
  | entered key fields same => exact kept.enter entered same
  | missed key fields same => exact kept.same (entered.trans (List.append_nil _)) same
  | idle same => exact kept.same (entered.trans (List.append_nil _)) same

theorem Kept.run (kept : journal.Kept) (deeds : List Deed) : (journal.run deeds).Kept := by
  induction deeds generalizing journal with
  | nil => exact kept
  | cons deed rest induction => exact induction (kept.step deed)

theorem attempts_prefix (journal : Journal) (deeds : List Deed) :
    journal.attempts <+: (journal.run deeds).attempts := by
  induction deeds generalizing journal with
  | nil => exact List.prefix_refl _
  | cons deed rest induction =>
      exact (List.prefix_append _ _).trans (induction (journal.step deed))

/-- Each entry of a stream has a higher number than those before it. -/
theorem Kept.increasing (kept : journal.Kept) (key : String) :
    ∃ numbers : List Nat, numbers.Pairwise (· < ·) ∧
      (journal.contents.stream key).map StreamEntry.id = numbers.map sequenceId := by
  have among : ((journal.contents.stream key).map StreamEntry.id).Sublist
      ((List.range' 1 journal.entered.length).map sequenceId) := by
    rw [kept.streams, enteredIn, List.map_map, ← kept.ids]
    exact List.filter_sublist.map _
  obtain ⟨numbers, sublist, same⟩ := List.sublist_map_iff.1 among
  exact ⟨numbers, (List.pairwise_lt_range' 1).sublist sublist, same⟩

/-- However a new store in memory is shared, the appends that succeed are numbered from 1 on in the
order in which they do, over all streams, and those that fail use up no number. A stream holds those
that were addressed to it, as they were made, and nothing ever changes or removes an entry. -/
theorem streams_only_grow (conditions : Nat → Conditions) (clock : ManualClock)
    (deeds : List Deed) :
    let journal := (opened conditions clock).run deeds
    (journal.entered.map fun entry => entry.2.id) =
        (List.range' 1 journal.entered.length).map sequenceId ∧
      (journal.entered.map fun entry => entry.2.id).Nodup ∧
      journal.contents.appended = journal.entered.length ∧
      (∀ key, journal.contents.stream key = journal.enteredIn key) ∧
      (∀ key, ∃ numbers : List Nat, numbers.Pairwise (· < ·) ∧
        (journal.contents.stream key).map StreamEntry.id = numbers.map sequenceId) ∧
      ∀ earlier later, deeds = earlier ++ later → ∀ key,
        ((opened conditions clock).run earlier).contents.stream key <+:
          journal.contents.stream key := by
  intro journal
  have empty : (opened conditions clock).Kept := ⟨rfl, fun _ => rfl, rfl⟩
  have kept : journal.Kept := empty.run deeds
  refine ⟨kept.ids, ?_, kept.appended, kept.streams, kept.increasing, ?_⟩
  · rw [kept.ids]
    exact (List.nodup_range' 1).map sequence_id_injective
  · intro earlier later split key
    have attempts := attempts_prefix ((opened conditions clock).run earlier) later
    rw [run, run, ← List.foldl_append, ← split] at attempts
    rw [(empty.run earlier).streams, kept.streams]
    exact ((attempts.filterMap _).filter _).map _

/-- The second of three appends comes too late, and the third has the next number after the first. -/
example :
    let registrar := Registrar.forOne "a"
    let record := Record.manual "alice" "relay.example" "" 0
    let journal := (opened (fun _ => {}) (.standing 7000)).run
      [.submit record, .append registrar record true, .append registrar record false]
    journal.entered =
      [(optOutStream, ⟨"1-0", record.fields⟩), ("a", ⟨"2-0", record.fields⟩)] := by
  decide +kernel

end Journal

end OptOut
