import OptOut.Proofs.Footprint
import OptOut.Proofs.Loading

/-!
# The books of a registrar

Every request to vanish that a registrar records is either an entry of its stream or an error in its
log that quotes the event. Both are in the order of the requests, and the figures of the registrar
count them. This needs that nobody else writes to the stream; of the rest of the store, of the clock
and of the writers, nothing is assumed.
-/

namespace OptOut

structure Case where
    event : Event
    moment : Millis
    ruling : Ruling

namespace Case

def entered? (case : Case) : Option StreamEntry :=
  match case.ruling.outcome with
  | .registered target (some id) _ =>
    some ⟨id, (Registrar.recordAt case.event target case.moment).fields⟩
  | _ => none

def missed? (case : Case) : Option Event :=
  match case.ruling.outcome with
  | .registered _ none _ => some case.event
  | _ => none

def isRefused (case : Case) : Bool :=
  case.ruling.reply.action = .shadowReject

def isRegistered (case : Case) : Bool :=
  case.ruling.outcome.isRegistered

end Case

def Log.quoted (log : List Entry) : List (Option String) :=
  (errors log).map fun entry => entry.fields.lookup "event"

theorem Log.quoted_append (log later : List Entry) :
    quoted (log ++ later) = quoted log ++ quoted later := by
  rw [quoted, errors_append, List.map_append, quoted, quoted]

theorem Log.quoted_of_warnings {log : List Entry} (warnings : ∀ entry ∈ log, entry.level = .warn) :
    quoted log = [] := by
  rw [quoted, errors_of_warnings warnings, List.map_nil]

structure Arrival where
    event : Event
    meanwhile : Deployment → Deployment

def Arrival.Leaves (arrival : Arrival) (streamKey : String) : Prop :=
  ∀ deployment, (arrival.meanwhile deployment).memory.contents.stream streamKey =
    deployment.memory.contents.stream streamKey

structure Books where
    registrar : Registrar
    deployment : Deployment
    cases : List Case := []
    /-- What the registrar logged. -/
    log : List Log.Entry := []

namespace Books

def opened (registrar : Registrar) (deployment : Deployment) : Books :=
  let turn := registrar.load deployment
  { registrar := turn.state, deployment := turn.backend, log := turn.log }

def decide (books : Books) (arrival : Arrival) : Books :=
  let before := arrival.meanwhile books.deployment
  let turn := books.registrar.decide arrival.event before
  { registrar := turn.state
    deployment := turn.backend
    cases := books.cases ++ [⟨arrival.event, before.clock.current, turn.answer⟩]
    log := books.log ++ turn.log }

def run (books : Books) (arrivals : List Arrival) : Books :=
  arrivals.foldl decide books

def stream (books : Books) : List StreamEntry :=
  books.deployment.memory.contents.stream books.registrar.streamKey

def figures (books : Books) : RegistrarFigures :=
  books.registrar.figures books.deployment

def entries (books : Books) : List StreamEntry :=
  books.cases.filterMap Case.entered?

def missed (books : Books) : List Event :=
  books.cases.filterMap Case.missed?

/-- The books agree on the given events with a stream that held the entries of `origin` before. -/
structure Balanced (books : Books) (origin : List StreamEntry) (events : List Event) : Prop where
    decided : books.cases.map Case.event = events
    stream : books.stream = origin ++ books.entries
    log : Log.quoted books.log = books.missed.map fun event => some event.text
    split : books.cases.countP Case.isRegistered = books.entries.length + books.missed.length
    decisions : books.figures.decisions = events.length
    refused : books.figures.shadowRejected = books.cases.countP Case.isRefused
    registered : books.figures.registrations = books.cases.countP Case.isRegistered
    additions : books.figures.roster.additions = books.figures.registrations
    failures : books.figures.appendFailures = books.missed.length

/-- The new entries of the stream are the recorded requests but for the failed appends. -/
theorem Balanced.entries_length {books : Books} {origin : List StreamEntry} {events : List Event}
    (balanced : books.Balanced origin events) :
    books.entries.length = books.figures.registrations - books.figures.appendFailures := by
  rw [balanced.registered, balanced.failures, balanced.split]
  exact (Nat.add_sub_cancel _ _).symm

end Books

/-! ## One decision -/

namespace Registrar

structure Entered (registrar : Registrar) (deployment : Deployment) (case : Case)
    (turn : Turn Ruling Registrar Deployment) : Prop where
    streamKey : turn.state.streamKey = registrar.streamKey
    stream : turn.backend.memory.contents.stream registrar.streamKey =
      deployment.memory.contents.stream registrar.streamKey ++ case.entered?.toList
    log : Log.quoted turn.log = case.missed?.toList.map fun event => some event.text
    split : case.isRegistered.toNat = case.entered?.toList.length + case.missed?.toList.length
    decisions : turn.state.decisions = registrar.decisions + 1
    refused : turn.state.shadowRejected = registrar.shadowRejected + case.isRefused.toNat
    registered : turn.state.registrations = registrar.registrations + case.isRegistered.toNat
    additions : turn.state.roster.additions =
      registrar.roster.additions + case.isRegistered.toNat
    failures : turn.state.appendFailures =
      registrar.appendFailures + case.missed?.toList.length

variable {registrar : Registrar} {event : Event} {target : Target} {deployment : Deployment}

theorem Recorded.stream {streamId : Option String} {between : Deployment}
    {turn : Turn Outcome Registrar Deployment}
    (recorded : registrar.Recorded event target deployment streamId between turn) :
    turn.backend.memory.contents.stream registrar.streamKey =
      deployment.memory.contents.stream registrar.streamKey ++ (streamId.map fun id =>
        ⟨id, (recordAt event target deployment.clock.current).fields⟩).toList := by
  have streams := Roster.add_streams registrar.roster event.pubkey between
  rw [recorded.backend, Contents.stream, streams]
  cases entered : streamId with
  | none =>
      rw [recorded.missed entered, Option.map_none, Option.toList_none, List.append_nil]
      rfl
  | some id =>
      have append := recorded.entered id entered
      have own : id = _ := congrArg Prod.fst append
      have contents : between.memory.contents = _ := congrArg Prod.snd append
      rw [contents, own]
      exact Contents.stream_append _ _ _

theorem decide_enters (registrar : Registrar) (event : Event) (deployment : Deployment) :
    let turn := registrar.decide event deployment
    registrar.Entered deployment ⟨event, deployment.clock.current, turn.answer⟩ turn := by
  intro turn
  rcases registrar.decide_cases event deployment with ⟨_, decided⟩ |
    ⟨_, _, outcome, noneOfBoth, decided⟩ | ⟨stranger, _, target, _, decided⟩
  · rw [show turn = _ from decided]
    constructor <;> simp [Case.entered?, Case.missed?, Case.isRefused, Case.isRegistered,
      Outcome.isRegistered, Reply.shadowReject, Log.quoted, Log.errors, counted]
  · rw [show turn = _ from decided]
    rcases noneOfBoth with rfl | rfl <;> constructor <;>
      simp [Case.entered?, Case.missed?, Case.isRefused, Case.isRegistered,
        Outcome.isRegistered, Reply.accept, Log.quoted, Log.errors, counted]
  · rw [show turn = _ from decided]
    obtain ⟨streamId, between, recorded⟩ :=
      register_records registrar.counted event target deployment
    have stream := recorded.stream
    obtain ⟨⟨replicated, answer⟩, state, _, _, _, _, fault, errors⟩ := recorded
    have additions := Roster.add_additions stranger between
    rw [answer]
    -- Whether the append was served shows in the stream, the log and its own counter, nowhere else.
    constructor
    case stream => cases streamId <;> exact stream
    case log => cases streamId <;> simp only [Log.quoted, errors] <;> rfl
    case split => cases streamId <;> rfl
    case failures => cases streamId <;> rw [state] <;> rfl
    case additions =>
      rw [state]
      exact additions
    all_goals
      rw [state]
      rfl

end Registrar

/-! ## A run -/

namespace Books

variable {books : Books} {origin : List StreamEntry} {events : List Event}

theorem balanced_opened {settings : RegistrarSettings} {registrar : Registrar}
    (valid : Registrar.ofSettings settings = .ok registrar) (writer : Option WriterId)
    (deployment : Deployment) :
    (opened (writer.elim registrar registrar.withWriter) deployment).Balanced
      (deployment.memory.contents.stream settings.streamKey) [] := by
  obtain ⟨scope, _, rfl⟩ := Registrar.of_settings_eq valid
  let roster : Roster := { settings := settings.roster, writer }
  let registrar : Registrar :=
    { scope, streamKey := settings.streamKey, appendTimeout := settings.appendTimeout, roster }
  have drawn := roster.load_draws deployment.memory
  have load := roster.load_deployment deployment
  have same : opened registrar deployment =
    { registrar := { registrar with roster := (roster.load deployment.memory).state }
      deployment := deployment.withMemory (roster.load deployment.memory).backend
      log := (roster.load deployment.memory).log } := by
    rw [opened, Registrar.load, load]
  have begun : (opened registrar deployment).Balanced
      (deployment.memory.contents.stream settings.streamKey) [] := by
    rw [same]
    constructor
    case stream =>
      exact (congrArg (·.getD settings.streamKey []) drawn.streams).trans (List.append_nil _).symm
    case log => exact Log.quoted_of_warnings drawn.log
    case additions => exact roster.load_additions deployment.memory
    all_goals rfl
  cases writer <;> exact begun

def judge (books : Books) (arrival : Arrival) : Case :=
  let before := arrival.meanwhile books.deployment
  ⟨arrival.event, before.clock.current, (books.registrar.decide arrival.event before).answer⟩

theorem cases_decide (books : Books) (arrival : Arrival) :
    (books.decide arrival).cases = books.cases ++ [books.judge arrival] :=
  rfl

theorem entries_decide (books : Books) (arrival : Arrival) :
    (books.decide arrival).entries = books.entries ++ (books.judge arrival).entered?.toList := by
  rw [entries, cases_decide, List.filterMap_append, entries]
  cases entry : (books.judge arrival).entered? <;> simp [entry]

theorem missed_decide (books : Books) (arrival : Arrival) :
    (books.decide arrival).missed = books.missed ++ (books.judge arrival).missed?.toList := by
  rw [missed, cases_decide, List.filterMap_append, missed]
  cases event : (books.judge arrival).missed? <;> simp [event]

theorem countP_decide (books : Books) (arrival : Arrival) (counts : Case → Bool) :
    (books.decide arrival).cases.countP counts =
      books.cases.countP counts + (counts (books.judge arrival)).toNat := by
  rw [cases_decide, List.countP_append]
  cases counted : counts (books.judge arrival) <;> simp [counted]

theorem Balanced.decide (balanced : books.Balanced origin events) {arrival : Arrival}
    (sole : arrival.Leaves books.registrar.streamKey) :
    (books.decide arrival).Balanced origin (events ++ [arrival.event]) := by
  have entered : books.registrar.Entered _ (books.judge arrival) _ :=
    books.registrar.decide_enters arrival.event (arrival.meanwhile books.deployment)
  constructor
  case decided =>
    rw [cases_decide, List.map_append, balanced.decided]
    rfl
  case stream =>
    have streamKey : (books.decide arrival).registrar.streamKey = _ := entered.streamKey
    rw [Books.stream, streamKey, entries_decide, ← List.append_assoc, ← balanced.stream,
      Books.stream, ← sole books.deployment]
    exact entered.stream
  case log =>
    rw [missed_decide, List.map_append, ← balanced.log, ← entered.log, ← Log.quoted_append]
    rfl
  case split =>
    rw [countP_decide, entries_decide, missed_decide, List.length_append, List.length_append,
      balanced.split, entered.split]
    omega
  case decisions =>
    rw [List.length_append, ← balanced.decisions]
    exact entered.decisions
  case refused =>
    rw [countP_decide, ← balanced.refused]
    exact entered.refused
  case registered =>
    rw [countP_decide, ← balanced.registered]
    exact entered.registered
  case additions =>
    have registered : (books.decide arrival).figures.registrations = _ := entered.registered
    rw [registered]
    exact entered.additions.trans (congrArg (· + _) balanced.additions)
  case failures =>
    rw [missed_decide, List.length_append, ← balanced.failures]
    exact entered.failures

theorem run_append (books : Books) (arrivals later : List Arrival) :
    books.run (arrivals ++ later) = (books.run arrivals).run later :=
  List.foldl_append

theorem stream_key_run (books : Books) (arrivals : List Arrival) :
    (books.run arrivals).registrar.streamKey = books.registrar.streamKey := by
  induction arrivals generalizing books with
  | nil => rfl
  | cons arrival rest induction =>
      have entered := books.registrar.decide_enters arrival.event
        (arrival.meanwhile books.deployment)
      exact (induction (books.decide arrival)).trans entered.streamKey

theorem Balanced.run (balanced : books.Balanced origin []) {arrivals : List Arrival}
    (sole : ∀ arrival ∈ arrivals, arrival.Leaves books.registrar.streamKey) :
    (books.run arrivals).Balanced origin (arrivals.map Arrival.event) := by
  induction arrivals using List.reverseRecOn with
  | nil => exact balanced
  | append_singleton arrivals arrival induction =>
      rw [run_append, List.map_append]
      refine Balanced.decide (induction fun other held => sole other ?_) ?_
      · exact List.mem_append_left _ held
      · rw [stream_key_run]
        exact sole arrival (List.mem_append_right _ List.mem_cons_self)

/-- No request to vanish is lost silently: however the store serves, the requests that were recorded
are the new entries of the stream and the errors in the log, each in their order, and the figures
count them. -/
theorem run_balanced {settings : RegistrarSettings} {registrar : Registrar}
    (valid : Registrar.ofSettings settings = .ok registrar) (writer : Option WriterId)
    (deployment : Deployment) (arrivals : List Arrival)
    (sole : ∀ arrival ∈ arrivals, arrival.Leaves settings.streamKey) :
    let origin := deployment.memory.contents.stream settings.streamKey
    let books := (opened (writer.elim registrar registrar.withWriter) deployment).run arrivals
    books.Balanced origin (arrivals.map Arrival.event) ∧
      books.entries.length = books.figures.registrations - books.figures.appendFailures := by
  intro origin books
  have opened := balanced_opened valid writer deployment
  have key : (Books.opened (writer.elim registrar registrar.withWriter)
      deployment).registrar.streamKey = settings.streamKey := by
    obtain ⟨scope, _, rfl⟩ := Registrar.of_settings_eq valid
    cases writer <;> rfl
  have balanced : books.Balanced origin _ := opened.run (key ▸ sole)
  exact ⟨balanced, balanced.entries_length⟩

/-- The append of the second request is refused. Its sender is remembered all the same, and is
shadow-rejected when the event comes again. -/
theorem run_balanced_with_refused_append :
    let refused : Nat → Conditions := fun number => { streamUp := number != 4 }
    let deployment : Deployment :=
      { memory := { conditions := refused }
        clock := { shows := fun reading => 7000 + .ofNat reading } }
    let arrivals : List Arrival :=
      ["alice", "bob", "bob"].map fun sender => ⟨Registrar.plainRequest sender, id⟩
    let registrar := Registrar.forOne optOutStream
    let books := (opened registrar deployment).run arrivals
    Registrar.ofSettings { relayScope := "relay.example", roster := { capacity := 1 } } =
        .ok registrar ∧
      (∀ arrival ∈ arrivals, arrival.Leaves optOutStream) ∧
      books.Balanced [] (arrivals.map Arrival.event) ∧
      books.entries =
        [⟨"1-0", (Record.ofEvent (Registrar.plainRequest "alice") .everyRelay 7).fields⟩] ∧
      books.missed = [Registrar.plainRequest "bob"] ∧ books.figures.shadowRejected = 1 := by
  intro refused deployment arrivals registrar books
  have built : Registrar.ofSettings { relayScope := "relay.example", roster := { capacity := 1 } } =
      .ok registrar := rfl
  have sole : ∀ arrival ∈ arrivals, arrival.Leaves optOutStream := by
    intro arrival arrived
    obtain ⟨sender, _, rfl⟩ := List.mem_map.1 arrived
    exact fun _ => rfl
  have balanced := run_balanced built none deployment arrivals sole
  refine ⟨built, sole, balanced.1, ?_, ?_, ?_⟩ <;> decide +kernel

end Books

end OptOut
