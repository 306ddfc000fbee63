import OptOut.Proofs.Admission
import OptOut.Proofs.Metering

/-!
# The metrics of a service that has ended

A service from its start to its end, with whatever its stores and its writer do meanwhile. When it
ends, its writer still applies what is queued, but nobody counts what fails then: the metrics stay as
the last request left them. They fall short of the failed batches by no more than the writer was not
done with when that request was evaluated.
-/

namespace OptOut

open Replica

theorem SoleRegistrar.found {policy : MeteredRegistrar} {policies : List StandardPolicy}
    (sole : SoleRegistrar policy policies) :
    PolicyChain.registrar? policies = some policy.registrar := by
  induction sole with
  | here others => rfl
  | @behind first rest other sole induction =>
      cases first with
      | registrar policy => exact nomatch other
      | _ => exact induction

namespace MeteredRegistrar.Metered

variable {first : Registrar} {policy : MeteredRegistrar} {metrics : Metrics} {crew : Crew}
  {evaluations : List Evaluation}

/-- The metrics know of the failures that the last evaluation has seen. -/
theorem reported_last (metered : policy.Metered first metrics crew evaluations) :
    policy.reportedFailures =
      evaluations.getLast?.elim 0 (·.figures.roster.replicaFailures) := by
  cases last : evaluations.getLast? with
  | none =>
      rw [List.getLast?_eq_none_iff] at last
      have registrations := metered.registrations
      rw [last, List.countP_nil] at registrations
      exact Nat.le_zero.1 <| registrations ▸ (metered.reported.trans
        (Roster.failures_le_exposure _ _)).trans metered.exposure
  | some evaluation => exact (metered.last evaluation last).2.2.1.symm

/-- Later only those batches can fail that were not done with then. -/
theorem exposure_last (metered : policy.Metered first metrics crew evaluations) :
    policy.registrar.roster.exposure crew ≤
      policy.reportedFailures + evaluations.getLast?.elim 0 (·.unfinished) := by
  cases last : evaluations.getLast? with
  | none =>
      rw [List.getLast?_eq_none_iff] at last
      have registrations := metered.registrations
      rw [last, List.countP_nil] at registrations
      exact (registrations ▸ metered.exposure).trans (Nat.zero_le _)
  | some evaluation => exact metered.unfinished evaluation last

theorem shown_writes (metered : policy.Metered first metrics crew evaluations)
    (few : evaluations.length < UInt64.size) :
    metrics.shown "vg_store_failures_total" (some "mirror_write") = policy.reportedFailures := by
  have known : policy.reportedFailures ≤ evaluations.length :=
    ((metered.reported.trans (Roster.failures_le_exposure _ _)).trans metered.exposure).trans
      (metered.registrations ▸ List.countP_le_length)
  rw [metrics.shown_failures, metered.writes]
  exact UInt64.toNat_ofNat_of_lt (Nat.lt_of_le_of_lt known few)

end MeteredRegistrar.Metered

def Watch.inlineFailures (watch : Watch) : Nat :=
  (PolicyChain.registrar? watch.session.policies).elim 0 (·.roster.inlineFailures)

namespace Service

/-! ## The start -/

structure Begun (settings : Settings) (service : Service) (site : Site Deployment)
    (registrar : Registrar) : Prop where
    policies : service.policies = policiesOf settings { registrar }
    writer : registrar.roster.writer = service.writer
    fresh : registrar.Fresh site.backend.crew
    metrics : site.metrics = ({} : Metrics).showMembers registrar.roster.order.length

variable {settings : Settings} {service : Service} {site after : Site Deployment}

theorem assemble_begun {writer : Option WriterId}
    {turn : Turn (Except RosterFault Nat) Registrar Deployment}
    (success : assemble settings writer turn site = (.ok service, after))
    (plain : site.metrics = {}) (employed : turn.state.roster.writer = writer)
    (fresh : turn.state.Fresh turn.backend.crew) : Begun settings service after turn.state := by
  have ready : ∀ loaded log, Begun settings ⟨policiesOf settings ⟨turn.state, 0⟩, writer, loaded⟩
      ⟨turn.backend, site.metrics.showMembers turn.state.roster.order.length, log⟩ turn.state :=
    fun loaded log => ⟨rfl, employed, fresh, plain ▸ rfl⟩
  simp only [assemble] at success
  split at success
  · obtain ⟨same, rfl⟩ := Prod.mk.inj success
    rw [← Except.ok.inj same]
    exact ready _ _
  · split at success
    · obtain ⟨same, rfl⟩ := Prod.mk.inj success
      rw [← Except.ok.inj same]
      exact ready _ _
    · cases (Prod.mk.inj success).1

theorem start_begun {memory : Memory} {clock : ManualClock}
    (success : start settings { backend := { memory, clock } } = (.ok service, after)) :
    ∃ registrar, Begun settings service after registrar := by
  cases valid : Registrar.ofSettings settings.registrar with
  | error fault =>
      rw [start, valid] at success
      cases (Prod.mk.inj success).1
  | ok registrar =>
      rw [start_eq valid] at success
      split at success
      · have fresh := Tenure.begun_fresh valid memory clock (some settings.storeTimeout)
        exact ⟨_, assemble_begun success rfl (Roster.load_writer _ _) fresh.load⟩
      · have fresh := Tenure.begun_fresh valid memory clock none
        obtain ⟨scope, -, built⟩ := Registrar.of_settings_eq valid
        have alone : registrar.roster.writer = none := built ▸ rfl
        exact ⟨_, assemble_begun success rfl ((Roster.load_writer _ _).trans alone) fresh.load⟩

/-! ## The end -/

/-- A service that has come to its end with a report of its writer: the writer went on, and the
metrics did not. -/
theorem shutdown_reports {tally : WriterTally} (ended : service.shutdown site = (some tally, after)) :
    after.metrics = site.metrics ∧ ∃ writer crew, service.writer = some writer ∧
      (∀ id, site.backend.crew.Ages id crew) ∧ tally.failed = crew.failures writer := by
  rcases service.shutdown_cases site with ⟨-, shut⟩ |
    ⟨writer, employed, ⟨last, found, -, shut⟩ | ⟨-, shut⟩ | ⟨-, shut⟩⟩ <;> rw [shut] at ended
  · cases (Prod.mk.inj ended).1
  · obtain ⟨report, rfl⟩ := Prod.mk.inj ended
    let waited := site.backend.awaitWriter writer (some (1000 * drainSeconds))
    have ages : ∀ id, site.backend.crew.Ages id waited.1.crew :=
      site.backend.crew.run_ages (some writer) _ site.backend.memory
    refine ⟨rfl, writer, waited.1.crew, employed, ages, ?_⟩
    rw [← Option.some.inj report, Crew.failures, found]
    rfl
  · cases (Prod.mk.inj ended).1
  · cases (Prod.mk.inj ended).1

/-! ## From the start to the end -/

structure Course where
    /-- What it served, as it was when the service was told to end. -/
    watch : Watch
    tally : Option WriterTally
    site : Site Deployment

def opening (service : Service) (site : Site Deployment) : Watch :=
  { session := { policies := service.policies, site } }

def close (service : Service) (watch : Watch) : Course :=
  let (tally, site) := service.shutdown watch.session.site
  { watch, tally, site }

/-- Starts a service, lets it serve, and ends it. Things may happen before each line and before the
end. -/
def course (settings : Settings) (site : Site Deployment) (feeds : List Feed)
    (stirs : List Stir) : Except StartupFault Course :=
  let (result, site) := start settings site
  result.map fun service => service.close (((service.opening site).run feeds).stir stirs)

/-- The same with lines that were read before. -/
theorem course_of_lines (settings : Settings) (site : Site Deployment) {feeds : List Feed}
    {heard : List (List Stir × Line)}
    (lines : feeds.map (fun feed => (feed.stirs, Line.ofOctets feed.octets)) = heard)
    (stirs : List Stir) :
    course settings site feeds stirs =
      let (result, site) := start settings site
      result.map fun service =>
        service.close (((service.opening site).hear heard).stir stirs) := by
  rw [course]
  simp only [fun watch : Watch => watch.run_of_lines lines]

theorem Begun.agrees {registrar : Registrar} (begun : Begun settings service site registrar) :
    (service.opening site).Agrees registrar := by
  have others : ∀ other ∈ [] ++ behind settings, other.isRegistrar = false := by
    intro other held
    rw [List.nil_append, behind] at held
    split at held
    · rw [List.mem_singleton.1 held]
      rfl
    · cases held
  have sole : SoleRegistrar { registrar } service.policies :=
    begun.policies ▸ sole_registrar_among others
  have untold : (service.opening site).metrics =
      ({} : Metrics).showMembers registrar.roster.order.length := begun.metrics
  refine ⟨⟨_, sole, untold ▸ begun.fresh.metered⟩, fun action => ?_, ?_⟩
  · rw [untold]
    rfl
  · rw [untold]
    rfl

variable {memory : Memory} {clock : ManualClock} {feeds : List Feed} {stirs : List Stir}
  {ending : Course}

/-- What a course comes to: the metrics agree with the registrar until the service is told to
end. -/
theorem course_agrees
    (ended : course settings { backend := { memory, clock } } feeds stirs = .ok ending) :
    ∃ (service : Service) (registrar : Registrar), ending.watch.Agrees registrar ∧
      registrar.roster.writer = service.writer ∧
      ending.watch.evaluations.length ≤ feeds.length ∧
      service.shutdown ending.watch.session.site = (ending.tally, ending.site) := by
  generalize started : start settings { backend := { memory, clock } } = result at ended
  obtain ⟨fault | service, site⟩ := result
  · rw [course, started] at ended
    cases ended
  · obtain ⟨registrar, begun⟩ := start_begun started
    have none : (service.opening site).Within 0 :=
      ⟨Nat.le_refl _, Nat.le_refl _, Nat.le_refl _⟩
    have within := none.run feeds
    rw [Nat.zero_add] at within
    rw [course, started] at ended
    rw [← Except.ok.inj ended]
    exact ⟨service, registrar, (begun.agrees.run feeds).stir stirs, begun.writer,
      within.evaluations, rfl⟩

/-- A service with a writer serves and ends in time. Its end does not count anything, so the metrics
show the failed batches of which the last evaluation knew, and no others that failed. Those that
they leave out were not done with by then, and so they leave out none where all were. -/
theorem final_metrics {tally : WriterTally}
    (ended : course settings { backend := { memory, clock } } feeds stirs = .ok ending)
    (reported : ending.tally = some tally) (few : feeds.length < UInt64.size) :
    let last := ending.watch.evaluations.getLast?
    let failures := tally.failed + ending.watch.inlineFailures
    let shown := ending.site.metrics.shown "vg_store_failures_total" (some "mirror_write")
    ending.site.metrics = ending.watch.metrics ∧
      shown = last.elim 0 (·.figures.roster.replicaFailures) ∧
      shown ≤ failures ∧ failures ≤ shown + last.elim 0 (·.unfinished) := by
  obtain ⟨service, registrar, agrees, employed, lines, shut⟩ := course_agrees ended
  rw [reported] at shut
  obtain ⟨policy, sole, metered⟩ := agrees.metered
  obtain ⟨same, writer, crew, hired, ages, tallied⟩ := shutdown_reports shut
  intro last failures shown
  have counted : shown = policy.reportedFailures := by
    have held := metered.shown_writes (Nat.lt_of_le_of_lt lines few)
    rw [← held]
    exact congrArg (Metrics.shown · "vg_store_failures_total" (some "mirror_write")) same
  have own : policy.registrar.roster.writer = some writer :=
    metered.writer.trans (employed.trans hired)
  have inline : ending.watch.inlineFailures = policy.registrar.roster.inlineFailures := by
    rw [Watch.inlineFailures, sole.found, Option.elim_some]
  have total : failures = policy.registrar.roster.failures crew := by
    rw [Roster.failures, own, Option.elim_some, ← tallied, ← inline]
    exact Nat.add_comm _ _
  have aged := policy.registrar.roster.ages_of_crew ages
  refine ⟨same, counted.trans metered.reported_last, ?_, ?_⟩
  · rw [counted, total]
    exact metered.reported.trans aged.failures
  · rw [counted, total]
    calc policy.registrar.roster.failures crew
      _ ≤ policy.registrar.roster.exposure crew := Roster.failures_le_exposure _ _
      _ ≤ policy.registrar.roster.exposure _ := aged.exposure
      _ ≤ _ := metered.exposure_last

theorem exists_ending {result : Except StartupFault Course} {α : Type} {read : Course → α}
    {value : α} (held : result.toOption.map read = some value) :
    ∃ ending, result = .ok ending ∧ read ending = value := by
  cases result with
  | error fault => cases held
  | ok ending => exact ⟨ending, rfl, Option.some.inj held⟩

/-- The replica goes down after the start. The first batch has failed when the second sender is
evaluated, the second fails in the end and is left out. -/
theorem final_metrics_of_two :
    let settings : Settings := { relayUrl := "relay.example" }
    let site : Site Deployment := { backend := { clock := .standing 7000 } }
    let ask (sender : Sender) : Request := .ofEvent (Registrar.plainRequest sender)
    let line (sender : Sender) : List UInt8 := Text.octetsOf ((ask sender).text ++ "\n")
    let down : Stir := .weather fun _ => { sortedSetUp := false }
    let feeds : List Feed := [⟨[down], line "alice"⟩, ⟨[.work none none], line "bob"⟩]
    ∃ ending, course settings site feeds [] = .ok ending ∧ ending.tally = some ⟨0, 2⟩ ∧
      ending.watch.inlineFailures = 0 ∧
      ending.watch.evaluations.getLast?.map (·.unfinished) = some 1 ∧
      ending.site.metrics.shown "vg_store_failures_total" (some "mirror_write") = 1 := by
  intro settings site ask line down feeds
  have heard : feeds.map (fun feed => (feed.stirs, Line.ofOctets feed.octets)) =
      [([down], .request (ask "alice")), ([.work none none], .request (ask "bob"))] := by
    have first := Line.of_octets_request (ask "alice") rfl (by decide)
    have second := Line.of_octets_request (ask "bob") rfl (by decide)
    simp only [feeds, line, List.map_cons, List.map_nil, first, second]
  have same := course_of_lines settings site heard []
  have summary : (course settings site feeds []).toOption.map (fun ending =>
      (ending.tally, ending.watch.inlineFailures,
        ending.watch.evaluations.getLast?.map (·.unfinished),
        ending.watch.evaluations.getLast?.map (·.figures.roster.replicaFailures))) =
      some (some ⟨0, 2⟩, 0, some 1, some 1) := by
    rw [same]
    decide +kernel
  obtain ⟨ending, ended, told⟩ := exists_ending summary
  simp only [Prod.mk.injEq] at told
  obtain ⟨tally, inline, unfinished, known⟩ := told
  obtain ⟨-, shown, -⟩ := final_metrics ended tally (by decide)
  obtain ⟨last, found, figures⟩ := Option.map_eq_some_iff.1 known
  rw [found, Option.elim_some, figures] at shown
  exact ⟨ending, ended, tally, inline, unfinished, shown⟩

/-- A batch that fails in the end is in the report of the writer, but the metrics show none. -/
theorem final_metrics_miss_last :
    let settings : Settings := { relayUrl := "relay.example" }
    let site : Site Deployment := { backend := { clock := .standing 7000 } }
    let request : Request := .ofEvent (Registrar.plainRequest "alice")
    let down : Stir := .weather fun _ => { sortedSetUp := false }
    let feeds : List Feed := [⟨[], Text.octetsOf (request.text ++ "\n")⟩]
    ∃ ending, course settings site feeds [down] = .ok ending ∧ ending.tally = some ⟨0, 1⟩ ∧
      ending.watch.inlineFailures = 0 ∧
      ending.site.metrics.shown "vg_store_failures_total" (some "mirror_write") = 0 := by
  intro settings site request down feeds
  have heard : feeds.map (fun feed => (feed.stirs, Line.ofOctets feed.octets)) =
      [([], .request request)] := by
    have read := Line.of_octets_request request rfl (by decide)
    simp only [feeds, List.map_cons, List.map_nil, read]
  have same := course_of_lines settings site heard [down]
  have summary : (course settings site feeds [down]).toOption.map (fun ending =>
      (ending.tally, ending.watch.inlineFailures,
        ending.site.metrics.shown "vg_store_failures_total" (some "mirror_write"))) =
      some (some ⟨0, 1⟩, 0, 0) := by
    rw [same]
    decide +kernel
  obtain ⟨ending, ended, told⟩ := exists_ending summary
  simp only [Prod.mk.injEq] at told
  exact ⟨ending, ended, told⟩

end Service

end OptOut
