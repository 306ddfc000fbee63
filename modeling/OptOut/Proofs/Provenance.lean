import OptOut.Proofs.Independence
import OptOut.Proofs.Vouching

/-!
# Nobody is silenced unasked

The services that processes run one after another on one store. Whoever is shadow-rejected by one of
them was in the replica before the first, or asked one of them to vanish. Stores may refuse or be
late at any moment, writers may be run, stopped or lost, and a process may end in any way.
-/

namespace OptOut

open Replica

def Service.replicaKey : String :=
  ({} : RosterSettings).replicaKey

/-! ## Processes -/

/-- What may happen to a deployment between two steps of a service. -/
inductive Stir where
    /-- A writer takes a step. -/
  | act (writer : WriterId)
  | pass (time : Nat)
  | settle
  | work (target : Option WriterId) (time : Option Nat)
    /-- A writer is stopped, and what is queued for it is lost. -/
  | halt (writer : WriterId)
    /-- The conditions of the calls to come change. -/
  | weather (conditions : Nat → Conditions)
  | clock (clock : ManualClock)

def Stir.apply (deployment : Deployment) : Stir → Deployment
  | act writer =>
    let (crew, memory, _) := deployment.crew.act writer deployment.memory
    { deployment with crew, memory }
  | pass time => { deployment with crew := deployment.crew.pass time }
  | settle => { deployment with crew := deployment.crew.settle }
  | work target time => (deployment.runWriters target time).1
  | halt writer => (deployment.stopWriter writer).2
  | weather conditions => { deployment with memory := { deployment.memory with conditions } }
  | clock other => { deployment with clock := other }

inductive Ending where
  | shutdown
    /-- Writers are lost with what is queued for them. -/
  | crash (lost : WriterId → Bool)

structure Process where
    settings : Settings
    /-- What happens before the service is started. -/
    waiting : List Stir := []
    /-- The requests to the service, and what happens before each. -/
    requests : List (List Stir × Request)
    /-- What happens before the service ends. -/
    leaving : List Stir := []
    ending : Ending

structure Visit where
    settings : Settings
    request : Request
    reply : Reply
    /-- What the registrar of the service made of the event. -/
    outcome : Option Outcome
deriving DecidableEq, Repr

namespace Visit

def sender (visit : Visit) : Sender :=
  visit.request.event.pubkey

/-- The event was a request of the sender to vanish from the relay of the service, or from all
relays, and it was recorded. -/
structure Asks (visit : Visit) (sender : Sender) : Prop where
    own : visit.request.event.pubkey = sender
    kind : visit.request.event.kind = optOutKind
    addressed : ∃ scope, Scope.ofText? visit.settings.relayUrl = some scope ∧
      ∃ name ∈ visit.request.event.valuesOf addressTag,
        Text.normalize name = everyRelay ∨ Text.normalize name = scope.name
    recorded : ∃ outcome, visit.outcome = some outcome ∧ outcome.isRegistered = true

def outcomeOf (policies : List StandardPolicy) (event : Event) (deployment : Deployment) :
    Option Outcome :=
  match policies with
  | .registrar policy :: _ => some (policy.registrar.decide event deployment).answer.outcome
  | _ => none

def ofRequest (settings : Settings) (policies : List StandardPolicy) (request : Request)
    (site : Site Deployment) : Visit :=
  { settings, request
    reply := (PolicyChain.decide request policies site).reply
    outcome := outcomeOf policies request.event site.backend }

end Visit

structure Chronicle where
    site : Site Deployment
    visits : List Visit := []

namespace Chronicle

def stir (chronicle : Chronicle) (stirs : List Stir) : Chronicle :=
  { chronicle with
    site := { chronicle.site with backend := stirs.foldl Stir.apply chronicle.site.backend } }

def serve (settings : Settings) (course : List StandardPolicy × Chronicle)
    (arrival : List Stir × Request) : List StandardPolicy × Chronicle :=
  let (policies, chronicle) := course
  let (stirs, request) := arrival
  let chronicle := chronicle.stir stirs
  let verdict := PolicyChain.decide request policies chronicle.site
  (verdict.policy, ⟨verdict.site,
    chronicle.visits ++ [.ofRequest settings policies request chronicle.site]⟩)

def finish (service : Service) (chronicle : Chronicle) : Ending → Chronicle
  | .shutdown => { chronicle with site := (service.shutdown chronicle.site).2 }
  | .crash lost =>
    let deployment := chronicle.site.backend
    let writers := deployment.crew.writers.filter fun (writer, _) => !lost writer
    { chronicle with site :=
        { chronicle.site with
          backend := { deployment with crew := { deployment.crew with writers } } } }

def host (chronicle : Chronicle) (process : Process) :
    Except StartupFault Service × Site Deployment → Chronicle
  | (.error _, site) => { chronicle with site }
  | (.ok service, site) =>
    let served := process.requests.foldl (serve process.settings)
      (service.policies, { chronicle with site })
    finish service (served.2.stir process.leaving) process.ending

def live (chronicle : Chronicle) (process : Process) : Chronicle :=
  let waited := chronicle.stir process.waiting
  waited.host process (Service.start process.settings waited.site)

def ofProcesses (memory : Memory) (clock : ManualClock) (processes : List Process) : Chronicle :=
  processes.foldl live { site := { backend := { memory, clock } } }

/-! ## What is known of the senders -/

/-- The sender was there before, or asked to vanish. -/
def Known (origin : Sender → Prop) (visits : List Visit) (sender : Sender) : Prop :=
  origin sender ∨ ∃ visit ∈ visits, visit.Asks sender

/-- Whoever was silenced had been known by then. -/
def Justified (origin : Sender → Prop) (visits : List Visit) : Prop :=
  ∀ earlier visit later, visits = earlier ++ visit :: later →
    visit.reply.action = .shadowReject → Known origin earlier visit.sender

/-- All that the replica holds or may come to hold is known, and so were those that were
silenced. -/
structure Warranted (origin : Sender → Prop) (chronicle : Chronicle) : Prop where
    backend : chronicle.site.backend.Vouched (Known origin chronicle.visits) Service.replicaKey
    visits : Justified origin chronicle.visits

variable {origin : Sender → Prop} {visits : List Visit} {visit : Visit} {sender : Sender}

theorem Known.append (known : Known origin visits sender) (visit : Visit) :
    Known origin (visits ++ [visit]) sender :=
  known.imp_right fun ⟨prior, held, asks⟩ => ⟨prior, List.mem_append_left _ held, asks⟩

theorem known_append_self (asks : visit.Asks sender) : Known origin (visits ++ [visit]) sender :=
  .inr ⟨visit, List.mem_append_right _ List.mem_cons_self, asks⟩

theorem Justified.append (justified : Justified origin visits)
    (silenced : visit.reply.action = .shadowReject → Known origin visits visit.sender) :
    Justified origin (visits ++ [visit]) := by
  intro earlier other later split silent
  -- The visit in question is the last one, or it was there before.
  rcases List.eq_nil_or_concat later with rfl | ⟨others, last, rfl⟩
  · obtain ⟨rfl, same⟩ := List.append_inj' split rfl
    obtain rfl : visit = other := by simpa using same
    exact silenced silent
  · rw [List.concat_eq_append, ← List.cons_append, ← List.append_assoc] at split
    obtain ⟨rfl, _⟩ := List.append_inj' split rfl
    exact justified earlier other others rfl silent

end Chronicle

/-! ## What happens of its own accord -/

variable {known : Sender → Prop} {key : String} {deployment : Deployment}

theorem Stir.apply_vouched (vouched : deployment.Vouched known key) (stir : Stir) :
    (stir.apply deployment).Vouched known key := by
  cases stir with
  | act writer => exact vouched.act writer
  | pass time => exact Crew.Vouched.pass vouched time
  | settle => exact Crew.Vouched.settle vouched
  | work target time => exact vouched.run target time
  | halt writer => exact Crew.Vouched.stop vouched writer
  | weather conditions => exact ⟨vouched.members, vouched.pending⟩
  | clock other => exact vouched

theorem Stir.fold_vouched (stirs : List Stir) (vouched : deployment.Vouched known key) :
    (stirs.foldl Stir.apply deployment).Vouched known key := by
  induction stirs generalizing deployment with
  | nil => exact vouched
  | cons stir rest induction => exact induction (stir.apply_vouched vouched)

/-! ## Services -/

namespace Service

/-- A registrar in front of policies that remembers nobody but known senders. -/
structure Trusted (known : Sender → Prop) (settings : Settings) (registrar : Registrar) : Prop where
    scope : Scope.ofText? settings.relayUrl = some registrar.scope
    coherent : registrar.roster.Coherent
    order : ∀ sender ∈ registrar.roster.order, known sender

theorem of_settings_trusted (known : Sender → Prop) {settings : Settings} {registrar : Registrar}
    (valid : Registrar.ofSettings settings.registrar = .ok registrar) :
    Trusted known settings registrar ∧ registrar.roster.settings.replicaKey = replicaKey := by
  obtain ⟨scope, check, rfl⟩ := Registrar.of_settings_eq valid
  have named := RegistrarSettings.check_scope check
  exact ⟨⟨named, Roster.empty_coherent _, by simp⟩, rfl⟩

theorem Trusted.load {settings : Settings} {registrar : Registrar}
    (trusted : Trusted known settings registrar)
    (key : registrar.roster.settings.replicaKey = replicaKey)
    (vouched : deployment.Vouched known replicaKey) :
    (registrar.load deployment).backend.Vouched known replicaKey ∧
      Trusted known settings (registrar.load deployment).state := by
  rw [← key] at vouched ⊢
  obtain ⟨backend, order⟩ := Registrar.load_vouched vouched trusted.order
  exact ⟨backend, trusted.scope, trusted.coherent.load deployment, order⟩

structure Opens (known : Sender → Prop) (settings : Settings)
    (result : Except StartupFault Service × Site Deployment) : Prop where
    backend : result.2.backend.Vouched known replicaKey
    started : ∀ service, result.1 = .ok service → ∃ policy : MeteredRegistrar,
      service.policies = policiesOf settings policy ∧ Trusted known settings policy.registrar

theorem assemble_opens {settings : Settings}
    {turn : Turn (Except RosterFault Nat) Registrar Deployment}
    (backend : turn.backend.Vouched known replicaKey) (trusted : Trusted known settings turn.state)
    (writer : Option WriterId) (site : Site Deployment) :
    Opens known settings (assemble settings writer turn site) := by
  have ready : ∀ loaded service site, site.backend = turn.backend →
      service = ⟨policiesOf settings ⟨turn.state, 0⟩, writer, loaded⟩ →
      Opens known settings (.ok service, site) := by
    intro loaded service site same own
    refine ⟨show site.backend.Vouched known replicaKey from same ▸ backend, fun other started => ?_⟩
    rw [← Except.ok.inj started, own]
    exact ⟨_, rfl, trusted⟩
  simp only [assemble]
  split
  · exact ready _ _ _ rfl rfl
  · split
    · exact ready _ _ _ rfl rfl
    · refine ⟨?_, fun service started => by cases started⟩
      cases writer with
      | none => exact backend
      | some id => exact Crew.Vouched.dismiss backend id

theorem start_opens (settings : Settings) {site : Site Deployment}
    (vouched : site.backend.Vouched known replicaKey) :
    Opens known settings (start settings site) := by
  cases valid : Registrar.ofSettings settings.registrar with
  | error fault =>
      simp only [start, valid]
      exact ⟨vouched, fun service started => by cases started⟩
  | ok registrar =>
      obtain ⟨trusted, key⟩ := of_settings_trusted known valid
      simp only [start, valid]
      split
      · have hired : (site.backend.startWriter settings.storeTimeout).2.Vouched known replicaKey :=
          Crew.Vouched.hire vouched settings.storeTimeout
        have queueing : Trusted known settings
            (registrar.withWriter (site.backend.startWriter settings.storeTimeout).1) :=
          ⟨trusted.scope, trusted.coherent.transfer rfl rfl rfl, trusted.order⟩
        obtain ⟨backend, state⟩ := queueing.load key hired
        exact assemble_opens backend state _ site
      · obtain ⟨backend, state⟩ := trusted.load key vouched
        exact assemble_opens backend state none site

def behind (settings : Settings) : List StandardPolicy :=
  if settings.admissionControl then [.admission {}] else []

/-- Behind the registrar nothing changes, and no reply there pretends to accept. -/
theorem decide_behind (settings : Settings) (request : Request) (site : Site Deployment) :
    let verdict := PolicyChain.decide request (behind settings) site
    verdict.site = site ∧ verdict.policy = behind settings ∧
      verdict.reply.action ≠ .shadowReject := by
  cases admitting : settings.admissionControl with
  | false =>
      simp only [behind, admitting]
      exact ⟨rfl, rfl, nofun⟩
  | true =>
      simp only [behind, admitting, if_true]
      let rules : AdmissionRules := {}
      cases accepted : (rules.reply request.event).isAccept with
      | true =>
          rw [PolicyChain.decide_accepting accepted]
          exact ⟨rfl, rfl, nofun⟩
      | false =>
          rw [PolicyChain.decide_objecting accepted]
          refine ⟨rfl, rfl, ?_⟩
          change (rules.reply request.event).action ≠ .shadowReject
          rw [AdmissionRules.reply]
          split <;> exact nofun

/-- Whatever is behind the registrar, the backend is left as the registrar leaves it, and only the
registrar silences. -/
theorem decide_policies (settings : Settings) (policy : MeteredRegistrar) (request : Request)
    (site : Site Deployment) :
    let verdict := PolicyChain.decide request (policiesOf settings policy) site
    let turn := policy.registrar.decide request.event site.backend
    verdict.site.backend = turn.backend ∧
      (verdict.reply.action = .shadowReject → turn.answer.reply.action = .shadowReject) ∧
      ∃ after : MeteredRegistrar, after.registrar = turn.state ∧
        verdict.policy = policiesOf settings after := by
  intro verdict turn
  let first := policy.decide request site
  have counted : first.policy.registrar = turn.state :=
    MeteredRegistrar.count_failures_registrar ..
  obtain ⟨same, kept, honest⟩ := decide_behind settings request first.site
  cases accepted : first.reply.isAccept with
  | true =>
      have chain : verdict = ⟨_, .registrar first.policy :: _, _⟩ :=
        PolicyChain.decide_accepting accepted
      rw [chain]
      refine ⟨congrArg Site.backend same, fun silenced => absurd silenced honest, first.policy,
        counted, congrArg _ kept⟩
  | false =>
      have chain : verdict = ⟨first.reply, .registrar first.policy :: behind settings, first.site⟩ :=
        PolicyChain.decide_objecting accepted
      rw [chain]
      exact ⟨rfl, fun silenced => silenced, first.policy, counted, rfl⟩

/-! ## How a service ends -/

/-- A service without a writer ends at once. Otherwise its writer is waited for: it has a report,
or it was stopped before, or it does not get done in time. -/
theorem shutdown_cases (service : Service) (site : Site Deployment) :
    (service.writer = none ∧ service.shutdown site = (none, site)) ∨
    ∃ writer, service.writer = some writer ∧
      let waited := site.backend.awaitWriter writer (some (1000 * drainSeconds))
      let left := { site with backend := waited.1 }.report waited.2
      let ended := { left with backend := waited.1.dismissWriter writer }
      ((∃ last, waited.1.crew.find? writer = some last ∧ last.running = true ∧
          service.shutdown site = (some last.report, ended)) ∨
        ((waited.1.crew.find? writer).all (!·.running) = true ∧
          service.shutdown site = (none, ended.report [.writerFailed writer])) ∨
        (waited.1.crew.isIdle writer = false ∧
          service.shutdown site = (none, left.report [.drainGivenUp drainSeconds]))) := by
  cases employed : service.writer with
  | none => exact .inl ⟨rfl, by rw [shutdown, employed]⟩
  | some writer =>
      refine .inr ⟨writer, rfl, ?_⟩
      simp only [shutdown, employed]
      generalize site.backend.awaitWriter writer (some (1000 * drainSeconds)) = waited
      obtain ⟨deployment, log⟩ := waited
      cases done : deployment.crew.isIdle writer with
      | false => exact .inr (.inr ⟨rfl, rfl⟩)
      | true =>
          cases found : deployment.crew.find? writer with
          | none =>
              have unreported : deployment.endWriter writer =
                  (none, deployment.dismissWriter writer) := by
                rw [Deployment.endWriter, found]
                rfl
              rw [unreported]
              exact .inr (.inl ⟨rfl, rfl⟩)
          | some last =>
              have reported : deployment.endWriter writer =
                  (if last.running then some last.report else none,
                    deployment.dismissWriter writer) := by
                rw [Deployment.endWriter, found, Option.filter_some]
                split <;> rfl
              rw [reported]
              cases running : last.running with
              | true => exact .inl ⟨last, rfl, running, rfl⟩
              | false => exact .inr (.inl ⟨by rw [Option.all_some, running]; rfl, rfl⟩)

/-- The end of a service whose writer was stopped before. -/
example :
    let begun := ({ clock := .standing 7000 } : Deployment).startWriter 500
    let site : Site Deployment := { backend := (begun.2.stopWriter begun.1).2 }
    let ended := (⟨[], some begun.1, none⟩ : Service).shutdown site
    ended.1 = none ∧ ended.2.log.map Log.Entry.line =
      ["WARN Mirror writer task failed error=task 0 was cancelled"] := by
  decide +kernel

/-- Whatever the writers and the dismissal of one of them leave alone, the end does. -/
theorem shutdown_keeps (holds : Deployment → Prop) (service : Service) {site : Site Deployment}
    (before : holds site.backend)
    (waits : ∀ writer time, holds (site.backend.awaitWriter writer time).1)
    (dismisses : ∀ deployment writer, holds deployment → holds (deployment.dismissWriter writer)) :
    holds (service.shutdown site).2.backend := by
  rcases service.shutdown_cases site with ⟨-, ended⟩ |
    ⟨writer, -, ⟨_, -, -, ended⟩ | ⟨-, ended⟩ | ⟨-, ended⟩⟩ <;> rw [ended]
  · exact before
  · exact dismisses _ writer (waits writer _)
  · exact dismisses _ writer (waits writer _)
  · exact waits writer _

theorem shutdown_vouched {service : Service} {site : Site Deployment}
    (vouched : site.backend.Vouched known key) :
    (service.shutdown site).2.backend.Vouched known key :=
  service.shutdown_keeps (Deployment.Vouched known key) vouched
    (fun writer time => Crew.Vouched.run vouched (some writer) time)
    fun _ writer left => Crew.Vouched.dismiss left writer

end Service

/-! ## Histories -/

namespace Chronicle

variable {origin : Sender → Prop} {chronicle : Chronicle}

structure Serving (origin : Sender → Prop) (settings : Settings)
    (course : List StandardPolicy × Chronicle) : Prop where
    warranted : course.2.Warranted origin
    policies : ∃ policy : MeteredRegistrar, course.1 = Service.policiesOf settings policy ∧
      Service.Trusted (Known origin course.2.visits) settings policy.registrar

theorem Warranted.stir (warranted : chronicle.Warranted origin) (stirs : List Stir) :
    (chronicle.stir stirs).Warranted origin :=
  ⟨Stir.fold_vouched stirs warranted.backend, warranted.visits⟩

theorem asks_of_registered {settings : Settings} {policy : MeteredRegistrar}
    (scope : Scope.ofText? settings.relayUrl = some policy.registrar.scope) {request : Request}
    {site : Site Deployment}
    (registered : (policy.registrar.decide request.event
      site.backend).answer.outcome.isRegistered = true) :
    (Visit.ofRequest settings (Service.policiesOf settings policy) request site).Asks
      request.event.pubkey := by
  have qualifies := Registrar.registered_qualifies registered
  exact ⟨rfl, qualifies.1, ⟨_, scope, Scope.target_named qualifies.2⟩, _, rfl, registered⟩

theorem Serving.serve {settings : Settings} {course : List StandardPolicy × Chronicle}
    (serving : Serving origin settings course) (arrival : List Stir × Request) :
    Serving origin settings (serve settings course arrival) := by
  obtain ⟨policies, chronicle⟩ := course
  obtain ⟨stirs, request⟩ := arrival
  obtain ⟨warranted, policy, rfl, trusted⟩ := serving
  have stirred := warranted.stir stirs
  let site := (chronicle.stir stirs).site
  let visit := Visit.ofRequest settings (Service.policiesOf settings policy) request site
  obtain ⟨backend, silences, after, state, kept⟩ :=
    Service.decide_policies settings policy request site
  constructor
  case warranted =>
    constructor
    case backend =>
      -- The sender counts as known from this visit on, when its upsert may have become pending.
      have widened := stirred.backend.mono fun sender known => known.append visit
      have vouched := Registrar.decide_vouched widened policy.registrar request.event
        fun registered => known_append_self (asks_of_registered trusted.scope registered)
      rwa [← backend] at vouched
    case visits =>
      refine warranted.visits.append fun silenced => ?_
      have remembered := Registrar.silenced_remembered (silences silenced)
      exact trusted.order _ ((trusted.coherent.agree _).1 remembered)
  case policies =>
    refine ⟨after, kept, ?_, ?_, fun sender held => ?_⟩
    · rw [state, Registrar.decide_scope]
      exact trusted.scope
    · rw [state]
      exact Registrar.decide_coherent trusted.coherent request.event site.backend
    · rw [state] at held
      rcases Registrar.decide_joins trusted.coherent held with before | ⟨rfl, registered⟩
      · exact (trusted.order sender before).append visit
      · exact known_append_self (asks_of_registered trusted.scope registered)

theorem Serving.serve_all {settings : Settings} {course : List StandardPolicy × Chronicle}
    (serving : Serving origin settings course) (arrivals : List (List Stir × Request)) :
    Serving origin settings (arrivals.foldl (Chronicle.serve settings) course) := by
  induction arrivals generalizing course with
  | nil => exact serving
  | cons arrival rest induction => exact induction (serving.serve arrival)

theorem Warranted.finish (warranted : chronicle.Warranted origin) (service : Service)
    (ending : Ending) : (finish service chronicle ending).Warranted origin := by
  cases ending with
  | shutdown => exact ⟨Service.shutdown_vouched warranted.backend, warranted.visits⟩
  | crash lost =>
      refine ⟨Crew.Vouched.fewer warranted.backend fun write pends => ?_, warranted.visits⟩
      exact Crew.pending_sub (fun entry held => (List.mem_filter.1 held).1) pends

theorem Warranted.live (warranted : chronicle.Warranted origin) (process : Process) :
    (chronicle.live process).Warranted origin := by
  have waited := warranted.stir process.waiting
  obtain ⟨vouched, trusts⟩ := Service.start_opens process.settings waited.backend
  rw [Chronicle.live]
  generalize Service.start process.settings _ = begun at vouched trusts ⊢
  obtain ⟨started, site⟩ := begun
  cases started with
  | error fault => exact ⟨vouched, warranted.visits⟩
  | ok service =>
      obtain ⟨policy, policies, trusted⟩ := trusts service rfl
      have serving : Serving origin process.settings
          (service.policies, { chronicle.stir process.waiting with site }) :=
        ⟨⟨vouched, warranted.visits⟩, policy, policies, trusted⟩
      have served := (serving.serve_all process.requests).warranted
      exact (served.stir process.leaving).finish service process.ending

theorem Warranted.live_all (warranted : chronicle.Warranted origin) (processes : List Process) :
    (processes.foldl Chronicle.live chronicle).Warranted origin := by
  induction processes generalizing chronicle with
  | nil => exact warranted
  | cons process rest induction =>
      rw [List.foldl_cons]
      exact induction (warranted.live process)

/-- Whoever is shadow-rejected was in the replica before the first process, or had asked to vanish
in an event that was recorded. -/
theorem silenced_had_asked (memory : Memory) (clock : ManualClock) (processes : List Process)
    {earlier later : List Visit} {visit : Visit}
    (split : (ofProcesses memory clock processes).visits = earlier ++ visit :: later)
    (silenced : visit.reply.action = .shadowReject) :
    visit.sender ∈ (memory.contents.set Service.replicaKey).members ∨
      ∃ prior ∈ earlier, prior.Asks visit.sender := by
  let origin : Sender → Prop := (· ∈ (memory.contents.set Service.replicaKey).members)
  have begun : Warranted origin { site := { backend := { memory, clock } } } := by
    refine ⟨⟨fun sender held => .inl held, fun write pends => ?_⟩, ?_⟩
    · exact absurd pends List.not_mem_nil
    · intro earlier visit later split
      exact absurd split (by simp)
  exact (begun.live_all processes).visits earlier visit later split silenced

/-- The first process asks for a batch to be queued, and its writer makes the write before all is
lost. The second process knows the sender from the replica alone. -/
theorem silenced_had_asked_before_crash :
    let request := Request.ofEvent (Registrar.plainRequest "alice")
    let first : Process :=
      { settings := { relayUrl := "relay.example" }, requests := [([], request)]
        leaving := [.act 0, .act 0], ending := .crash fun _ => true }
    let second : Process :=
      { settings := { relayUrl := "other.example", writeBehind := false }
        requests := [([], request)], ending := .shutdown }
    let visits := (ofProcesses {} (.standing 7000) [first, second]).visits
    let asked : Visit := ⟨first.settings, request, .accept "alice",
      some (.registered .everyRelay (some "1-0") true)⟩
    let refused : Visit := ⟨second.settings, request, .shadowReject "alice", some .alreadyVanished⟩
    visits = [asked] ++ refused :: [] ∧ refused.reply.action = .shadowReject ∧
      ("alice" ∈ ((({} : Memory).contents.set Service.replicaKey).members) ∨
        ∃ prior ∈ [asked], prior.Asks "alice") := by
  intro request first second visits asked refused
  have split : visits = [asked] ++ refused :: [] := by decide +kernel
  have silenced : refused.reply.action = .shadowReject := rfl
  exact ⟨split, silenced, silenced_had_asked {} (.standing 7000) [first, second] split silenced⟩

end Chronicle

end OptOut
