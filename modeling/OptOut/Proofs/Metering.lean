import OptOut.Proofs.Books
import OptOut.Proofs.Exposure
import OptOut.Proofs.Samples
import OptOut.Proofs.Session
import OptOut.Proofs.Tenure
import OptOut.Proofs.Wire

/-!
# Metrics agree with the registrar

A registrar among other policies that serves a relay line by line, while its writer and its stores
do as they please between two lines. Whenever it has decided on a request, the metrics show its
figures as they are then: a replica batch that failed is counted once, whether the registrar wrote it
itself or its writer gave up on it.
-/

namespace OptOut

open Replica

/-! ## What is counted -/

namespace Outcome

def isFor (outcome : Outcome) (label : String) : Bool :=
  match outcome with
  | registered target _ _ => target.label = label
  | _ => false

def isMissed : Outcome → Bool
  | registered _ none _ => true
  | _ => false

variable {outcome : Outcome}

theorem target_of_is_for {label : String} (own : outcome.isFor label = true) :
    ∃ target : Target, target.label = label := by
  cases outcome with
  | registered target _ _ => exact ⟨target, of_decide_eq_true own⟩
  | _ => exact nomatch own

theorem missed_le_registered (outcome : Outcome) :
    outcome.isMissed.toNat ≤ outcome.isRegistered.toNat := by
  rcases outcome with _ | _ | _ | ⟨target, _ | id, replicated⟩ <;>
    simp [Outcome.isMissed, Outcome.isRegistered]

end Outcome

/-- A registrar and its crew once it has made something of an event. -/
structure Registrar.Advances (registrar : Registrar) (crew : Crew) (outcome : Outcome)
    (after : Registrar) (left : Crew) : Prop where
    coherent : after.roster.Coherent
    registrations : after.registrations = registrar.registrations + outcome.isRegistered.toNat
    appendFailures : after.appendFailures = registrar.appendFailures + outcome.isMissed.toNat
    idle : outcome.isRegistered = false → after.roster.order = registrar.roster.order
    order : after.roster.order.length ≤
      registrar.roster.order.length + outcome.isRegistered.toNat
    writer : after.roster.writer = registrar.roster.writer
    ages : Roster.Ages outcome.isRegistered.toNat registrar.roster crew after.roster left

theorem Registrar.decide_advances {registrar : Registrar} (coherent : registrar.roster.Coherent)
    (event : Event) (deployment : Deployment) :
    let turn := registrar.decide event deployment
    registrar.Advances deployment.crew turn.answer.outcome turn.state turn.backend.crew := by
  intro turn
  have entered := registrar.decide_enters event deployment
  have order := Registrar.decide_order coherent event deployment
  constructor
  case coherent => exact Registrar.decide_coherent coherent event deployment
  case registrations => exact entered.registered
  case appendFailures =>
    have missed : (Case.missed? ⟨event, deployment.clock.current, turn.answer⟩).toList.length =
        turn.answer.outcome.isMissed.toNat := by
      rw [Case.missed?]
      rcases turn.answer.outcome with _ | _ | _ | ⟨target, _ | id, replicated⟩ <;> rfl
    rw [← missed]
    exact entered.failures
  case idle =>
    intro unregistered
    rw [unregistered] at order
    exact order
  case order =>
    rw [order]
    split
    · rename_i registered
      have suffix := (rtake_suffix (registrar.roster.order ++ [event.pubkey])
        registrar.roster.room).length_le
      rw [List.length_append] at suffix
      rw [show turn.answer.outcome.isRegistered = true from registered]
      exact suffix
    · exact Nat.le_add_right _ _
  case writer => exact registrar.decide_writer event deployment
  case ages => exact registrar.decide_ages event deployment

namespace MeteredRegistrar

structure CountsOutcome (members : Nat) (outcome : Outcome) (before after : Metrics) : Prop where
    requests : ∀ label, after.vanishRequests.getD label 0 =
      before.vanishRequests.getD label 0 + .ofNat (outcome.isFor label).toNat
    labels : ∀ label ∈ after.vanishRequests,
      outcome.isFor label = true ∨ label ∈ before.vanishRequests
    appends : after.storeFailures.getD "stream_append" 0 =
      before.storeFailures.getD "stream_append" 0 + .ofNat outcome.isMissed.toNat
    writes : after.storeFailures.getD "mirror_write" 0 =
      before.storeFailures.getD "mirror_write" 0
    members : after.members =
      if outcome.isRegistered then min members Metrics.maximalGauge else before.members
    decisions : after.decisions = before.decisions
    malformedLines : after.malformedLines = before.malformedLines

theorem count_outcome_counts (members : Nat) (outcome : Outcome) (metrics : Metrics) :
    CountsOutcome members outcome metrics (countOutcome members outcome metrics) := by
  cases outcome with
  | registered target streamId replicated =>
      have requests : ∀ label, (metrics.vanishRequests.add target.label 1).getD label 0 =
          metrics.vanishRequests.getD label 0 +
            .ofNat ((Outcome.registered target streamId replicated).isFor label).toNat := by
        intro label
        rw [Counters.getD_add, Outcome.isFor]
        by_cases own : label = target.label
        · simp [own]
        · simp [own, Ne.symm own]
      have labels : ∀ label ∈ metrics.vanishRequests.add target.label 1,
          (Outcome.registered target streamId replicated).isFor label = true ∨
            label ∈ metrics.vanishRequests := by
        intro label held
        refine (Counters.mem_add _ |>.1 held).imp_left fun own => ?_
        rw [own, Outcome.isFor, decide_eq_true_iff]
      cases streamId with
      | none =>
          have appends := metrics.storeFailures.getD_add "stream_append" "stream_append" 1
          have writes := metrics.storeFailures.getD_add "stream_append" "mirror_write" 1
          exact ⟨requests, labels, appends, writes, rfl, rfl, rfl⟩
      | some id =>
          exact ⟨requests, labels, (UInt64.add_zero _).symm, rfl, rfl, rfl, rfl⟩
  | _ =>
      exact ⟨fun _ => (UInt64.add_zero _).symm, fun _ => .inr, (UInt64.add_zero _).symm, rfl, rfl,
        rfl, rfl⟩

structure CountsFailures (failures : Nat) (before after : Metrics) : Prop where
    writes : after.storeFailures.getD "mirror_write" 0 = .ofNat failures
    appends : after.storeFailures.getD "stream_append" 0 =
      before.storeFailures.getD "stream_append" 0
    requests : after.vanishRequests = before.vanishRequests
    members : after.members = before.members
    decisions : after.decisions = before.decisions
    malformedLines : after.malformedLines = before.malformedLines

/-- Only those failures are added that the metrics do not know of, and then they know of all. -/
theorem count_failures_counts (policy : MeteredRegistrar) {failures : Nat} {metrics : Metrics}
    (known : metrics.storeFailures.getD "mirror_write" 0 = .ofNat policy.reportedFailures)
    (more : policy.reportedFailures ≤ failures) :
    (policy.countFailures failures metrics).1.reportedFailures = failures ∧
      CountsFailures failures metrics (policy.countFailures failures metrics).2 := by
  rw [countFailures]
  split
  · have writes := metrics.storeFailures.getD_add "mirror_write" "mirror_write"
      (.ofNat (failures - policy.reportedFailures))
    have appends := metrics.storeFailures.getD_add "mirror_write" "stream_append"
      (.ofNat (failures - policy.reportedFailures))
    rw [if_pos rfl, known, ← UInt64.ofNat_add, Nat.add_sub_cancel' more] at writes
    exact ⟨rfl, writes, appends, rfl, rfl, rfl, rfl⟩
  · rename_i unchanged
    have same : policy.reportedFailures = failures := Nat.le_antisymm more (Nat.not_lt.1 unchanged)
    exact ⟨same, same ▸ known, rfl, rfl, rfl, rfl, rfl⟩

end MeteredRegistrar

/-! ## Evaluations -/

structure Evaluation where
    outcome : Outcome
    figures : RegistrarFigures
    /-- The replica batches that its writer was not done with yet. -/
    unfinished : Nat
deriving DecidableEq, Repr

namespace MeteredRegistrar

def evaluation (policy : MeteredRegistrar) (request : Request) (deployment : Deployment) :
    Evaluation :=
  let turn := policy.registrar.decide request.event deployment
  ⟨turn.answer.outcome, turn.state.figures turn.backend,
    turn.state.roster.unfinished turn.backend.crew⟩

/-- The metrics agree with a registrar on the requests that it evaluated, up to the failures that
its writer had meanwhile, if it began as some other. -/
structure Metered (first : Registrar) (policy : MeteredRegistrar) (metrics : Metrics) (crew : Crew)
    (evaluations : List Evaluation) : Prop where
    coherent : policy.registrar.roster.Coherent
    requests : ∀ label, metrics.vanishRequests.getD label 0 =
      .ofNat (evaluations.countP (·.outcome.isFor label))
    labels : ∀ label ∈ metrics.vanishRequests, ∃ target : Target, target.label = label
    registrations : policy.registrar.registrations =
      evaluations.countP (·.outcome.isRegistered)
    appends : metrics.storeFailures.getD "stream_append" 0 = .ofNat policy.registrar.appendFailures
    missed : policy.registrar.appendFailures ≤ policy.registrar.registrations
    writes : metrics.storeFailures.getD "mirror_write" 0 = .ofNat policy.reportedFailures
    reported : policy.reportedFailures ≤ policy.registrar.roster.failures crew
    exposure : policy.registrar.roster.exposure crew ≤ policy.registrar.registrations
    members : metrics.members = min policy.registrar.roster.order.length Metrics.maximalGauge
    order : policy.registrar.roster.order.length ≤
      first.roster.order.length + policy.registrar.registrations
    writer : policy.registrar.roster.writer = first.roster.writer
    last : ∀ evaluation, evaluations.getLast? = some evaluation →
      evaluation.figures.registrations = policy.registrar.registrations ∧
        evaluation.figures.appendFailures = policy.registrar.appendFailures ∧
        evaluation.figures.roster.replicaFailures = policy.reportedFailures ∧
        evaluation.figures.roster.members = policy.registrar.roster.order.length
    /-- What had not failed and was done with at the last evaluation cannot fail later. -/
    unfinished : ∀ evaluation, evaluations.getLast? = some evaluation →
      policy.registrar.roster.exposure crew ≤ policy.reportedFailures + evaluation.unfinished

variable {first : Registrar} {policy : MeteredRegistrar} {metrics : Metrics} {crew : Crew}
  {evaluations : List Evaluation}

/-- What else the metrics show has no part in this. -/
theorem Metered.told (metered : policy.Metered first metrics crew evaluations) {other : Metrics}
    (requests : other.vanishRequests = metrics.vanishRequests)
    (failures : other.storeFailures = metrics.storeFailures)
    (members : other.members = metrics.members) :
    policy.Metered first other crew evaluations := by
  constructor
  case requests => exact requests ▸ metered.requests
  case labels => exact requests ▸ metered.labels
  case appends => exact failures ▸ metered.appends
  case writes => exact failures ▸ metered.writes
  case members => exact members.trans metered.members
  case coherent => exact metered.coherent
  case registrations => exact metered.registrations
  case missed => exact metered.missed
  case reported => exact metered.reported
  case exposure => exact metered.exposure
  case order => exact metered.order
  case writer => exact metered.writer
  case last => exact metered.last
  case unfinished => exact metered.unfinished

/-- The writer may go on at any time. -/
theorem Metered.age (metered : policy.Metered first metrics crew evaluations) {after : Crew}
    (ages : ∀ id, crew.Ages id after) : policy.Metered first metrics after evaluations := by
  obtain ⟨failures, exposure⟩ := policy.registrar.roster.ages_of_crew ages
  exact { metered with
    reported := metered.reported.trans failures
    exposure := exposure.trans metered.exposure
    unfinished := fun evaluation held => exposure.trans (metered.unfinished evaluation held) }

theorem countP_concat (evaluations : List Evaluation) (last : Evaluation)
    (holds : Evaluation → Bool) :
    (evaluations ++ [last]).countP holds = evaluations.countP holds + (holds last).toNat := by
  rw [List.countP_append, List.countP_singleton]
  cases holds last <;> rfl

/-- The metrics agree with the registrar once more when its outcome was counted and then its
failures, as they were by then. -/
theorem Metered.record (metered : policy.Metered first metrics crew evaluations)
    {outcome : Outcome} {after : MeteredRegistrar} {deployment : Deployment}
    (advances : policy.registrar.Advances crew outcome after.registrar deployment.crew)
    {between later : Metrics}
    (counts : CountsOutcome after.registrar.roster.order.length outcome metrics between)
    (counted : CountsFailures after.reportedFailures between later)
    (reported : after.reportedFailures = (after.registrar.roster.figures deployment).replicaFailures) :
    after.Metered first later deployment.crew
      (evaluations ++ [⟨outcome, after.registrar.figures deployment,
        after.registrar.roster.unfinished deployment.crew⟩]) := by
  have failures : after.reportedFailures = after.registrar.roster.failures deployment.crew :=
    reported.trans (Roster.figures_failures _ deployment)
  constructor
  case coherent => exact advances.coherent
  case requests =>
    intro label
    rw [countP_concat, UInt64.ofNat_add, ← metered.requests label, counted.requests]
    exact counts.requests label
  case labels =>
    intro label held
    rw [counted.requests] at held
    exact (counts.labels label held).elim Outcome.target_of_is_for (metered.labels label)
  case registrations =>
    rw [countP_concat, ← metered.registrations]
    exact advances.registrations
  case appends =>
    rw [advances.appendFailures, UInt64.ofNat_add, ← metered.appends, ← counts.appends]
    exact counted.appends
  case missed =>
    rw [advances.appendFailures, advances.registrations]
    exact Nat.add_le_add metered.missed outcome.missed_le_registered
  case writes => exact counted.writes
  case reported => exact Nat.le_of_eq failures
  case exposure =>
    rw [advances.registrations]
    exact advances.ages.exposure.trans (Nat.add_le_add_right metered.exposure _)
  case members =>
    rw [counted.members, counts.members]
    split
    · rfl
    · rename_i unregistered
      rw [advances.idle (Bool.not_eq_true _ ▸ unregistered)]
      exact metered.members
  case order =>
    rw [advances.registrations, ← Nat.add_assoc]
    exact advances.order.trans (Nat.add_le_add_right metered.order _)
  case last =>
    intro evaluation held
    rw [List.getLast?_concat] at held
    rw [← Option.some.inj held]
    exact ⟨rfl, rfl, reported.symm, rfl⟩
  case writer => exact advances.writer.trans metered.writer
  case unfinished =>
    intro evaluation held
    rw [List.getLast?_concat] at held
    rw [← Option.some.inj held, failures]
    exact Nat.le_of_eq (Roster.exposure_eq _ _)

theorem Metered.decide {site : Site Deployment}
    (metered : policy.Metered first site.metrics site.backend.crew evaluations)
    (request : Request) :
    let verdict := policy.decide request site
    verdict.policy.Metered first verdict.site.metrics verdict.site.backend.crew
        (evaluations ++ [policy.evaluation request site.backend]) ∧
      verdict.site.metrics.decisions = site.metrics.decisions ∧
      verdict.site.metrics.malformedLines = site.metrics.malformedLines := by
  intro verdict
  let turn := policy.registrar.decide request.event site.backend
  let failures := (turn.state.roster.figures turn.backend).replicaFailures
  have advances := Registrar.decide_advances metered.coherent request.event site.backend
  have counts := count_outcome_counts turn.state.roster.order.length turn.answer.outcome
    site.metrics
  have more : policy.reportedFailures ≤ failures :=
    (metered.reported.trans advances.ages.failures).trans
      (Nat.le_of_eq (turn.state.roster.figures_failures turn.backend).symm)
  obtain ⟨reported, counted⟩ := count_failures_counts { policy with registrar := turn.state }
    (counts.writes.trans metered.writes) more
  have registrar : verdict.policy.registrar = turn.state := count_failures_registrar ..
  have same : verdict.policy = ⟨turn.state, failures⟩ := by
    rw [← registrar, ← show verdict.policy.reportedFailures = failures from reported]
  let after : MeteredRegistrar := ⟨turn.state, failures⟩
  have recorded : after.Metered first verdict.site.metrics turn.backend.crew
      (evaluations ++ [policy.evaluation request site.backend]) :=
    metered.record advances counts counted rfl
  exact ⟨same ▸ recorded, counted.decisions.trans counts.decisions,
    counted.malformedLines.trans counts.malformedLines⟩

end MeteredRegistrar

/-! ## Among other policies -/

def StandardPolicy.isRegistrar : StandardPolicy → Bool
  | registrar _ => true
  | _ => false

inductive SoleRegistrar (policy : MeteredRegistrar) : List StandardPolicy → Prop where
  | here {rear : List StandardPolicy} (others : ∀ other ∈ rear, other.isRegistrar = false) :
      SoleRegistrar policy (.registrar policy :: rear)
  | behind {first : StandardPolicy} {rest : List StandardPolicy}
      (other : first.isRegistrar = false) (sole : SoleRegistrar policy rest) :
      SoleRegistrar policy (first :: rest)

theorem sole_registrar_among {policy : MeteredRegistrar} {front rear : List StandardPolicy}
    (others : ∀ other ∈ front ++ rear, other.isRegistrar = false) :
    SoleRegistrar policy (front ++ .registrar policy :: rear) := by
  induction front with
  | nil => exact .here others
  | cons first rest induction =>
      exact .behind (others first List.mem_cons_self)
        (induction fun other held => others other (List.mem_cons_of_mem _ held))

/-- Only a registrar touches the site. -/
theorem StandardPolicy.decide_other {policy : StandardPolicy} (other : policy.isRegistrar = false)
    (request : Request) (site : Site Deployment) :
    (policy.decide request site).site = site ∧
      (policy.decide request site).policy.isRegistrar = false := by
  cases policy with
  | constant policy => exact ⟨rfl, rfl⟩
  | admission rules => exact ⟨rfl, rfl⟩
  | registrar policy => exact nomatch other

namespace PolicyChain

/-- What the first registrar makes of a request, if the policies in front of it accept. -/
def evaluation? (request : Request) : List StandardPolicy → Site Deployment → Option Evaluation
  | [], _ => none
  | .registrar policy :: _, site => some (policy.evaluation request site.backend)
  | policy :: rest, site =>
    let verdict := policy.decide request site
    if verdict.reply.isAccept then evaluation? request rest verdict.site else none

theorem evaluation_behind {first : StandardPolicy} (other : first.isRegistrar = false)
    (request : Request) (rest : List StandardPolicy) (site : Site Deployment) :
    evaluation? request (first :: rest) site =
      if (first.decide request site).reply.isAccept then evaluation? request rest site
      else none := by
  cases first with
  | constant policy => rfl
  | admission rules => rfl
  | registrar policy => exact nomatch other

theorem decide_others {policies : List StandardPolicy}
    (others : ∀ other ∈ policies, other.isRegistrar = false) (request : Request)
    (site : Site Deployment) :
    (decide request policies site).site = site ∧
      ∀ other ∈ (decide request policies site).policy, other.isRegistrar = false := by
  induction policies with
  | nil => exact ⟨rfl, others⟩
  | cons policy rest induction =>
      have behind := fun other held => others other (List.mem_cons_of_mem policy held)
      obtain ⟨same, still⟩ := StandardPolicy.decide_other (others policy List.mem_cons_self)
        request site
      obtain ⟨sites, kept⟩ := induction behind
      cases accepted : (policy.decide request site).reply.isAccept with
      | true =>
          rw [decide_accepting accepted]
          have later : (Policy.decide request policy site).site = site := same
          rw [later]
          exact ⟨sites, List.forall_mem_cons.2 ⟨still, kept⟩⟩
      | false =>
          rw [decide_objecting accepted]
          exact ⟨same, List.forall_mem_cons.2 ⟨still, behind⟩⟩

/-- A request gets to the registrar, which decides on the site as it is, or the site stays as it
is. -/
theorem decide_sole {policy : MeteredRegistrar} {policies : List StandardPolicy}
    (sole : SoleRegistrar policy policies) (request : Request) (site : Site Deployment) :
    let verdict := decide request policies site
    (evaluation? request policies site = none ∧ verdict.site = site ∧
        SoleRegistrar policy verdict.policy) ∨
      (evaluation? request policies site = some (policy.evaluation request site.backend) ∧
        verdict.site = (policy.decide request site).site ∧
        SoleRegistrar (policy.decide request site).policy verdict.policy) := by
  induction sole with
  | @here rear others =>
      obtain ⟨same, still⟩ := decide_others others request (policy.decide request site).site
      refine .inr ⟨rfl, ?_⟩
      cases accepted : (policy.decide request site).reply.isAccept with
      | true =>
          have chain : decide request (StandardPolicy.registrar policy :: rear) site =
              ⟨_, .registrar (policy.decide request site).policy :: _, _⟩ :=
            decide_accepting accepted
          rw [chain]
          exact ⟨same, .here still⟩
      | false =>
          have chain : decide request (StandardPolicy.registrar policy :: rear) site =
              ⟨_, .registrar (policy.decide request site).policy :: _, _⟩ :=
            decide_objecting accepted
          rw [chain]
          exact ⟨rfl, .here others⟩
  | @behind first rest other sole induction =>
      obtain ⟨same, still⟩ := StandardPolicy.decide_other other request site
      have unchanged : (Policy.decide request first site).site = site := same
      rw [evaluation_behind other]
      cases accepted : (first.decide request site).reply.isAccept with
      | true =>
          rw [decide_accepting accepted, unchanged, if_pos rfl]
          exact induction.imp (fun ⟨missed, sites, sole⟩ => ⟨missed, sites, .behind still sole⟩)
            fun ⟨asked, sites, sole⟩ => ⟨asked, sites, .behind still sole⟩
      | false =>
          rw [decide_objecting accepted, if_neg Bool.false_ne_true]
          exact .inl ⟨rfl, same, .behind still sole⟩

end PolicyChain

/-! ## Watching a session -/

/-- A session, and what its registrar made of the requests that got to it. -/
structure Watch where
    session : Session StandardPolicy Deployment
    evaluations : List Evaluation := []

structure Feed where
    stirs : List Stir
    octets : List UInt8

namespace Watch

def metrics (watch : Watch) : Metrics :=
  watch.session.site.metrics

def stir (watch : Watch) (stirs : List Stir) : Watch :=
  { watch with session := { watch.session with site := { watch.session.site with
      backend := stirs.foldl Stir.apply watch.session.site.backend } } }

def handle (watch : Watch) (line : Line) : Watch :=
  { session := Session.handle { watch.session with report := { watch.session.report with
      lines := watch.session.report.lines + 1 } } line
    evaluations := watch.evaluations ++ (line.request?.bind fun request =>
      PolicyChain.evaluation? request watch.session.policies watch.session.site).toList }

def step (watch : Watch) (feed : Feed) : Watch :=
  (watch.stir feed.stirs).handle (.ofOctets feed.octets)

def run (watch : Watch) (feeds : List Feed) : Watch :=
  feeds.foldl step watch

def hear (watch : Watch) (heard : List (List Stir × Line)) : Watch :=
  heard.foldl (fun watch (stirs, line) => (watch.stir stirs).handle line) watch

theorem run_of_lines (watch : Watch) {feeds : List Feed} {heard : List (List Stir × Line)}
    (lines : feeds.map (fun feed => (feed.stirs, Line.ofOctets feed.octets)) = heard) :
    watch.run feeds = watch.hear heard := by
  rw [hear, ← lines, List.foldl_map]
  rfl

/-- After what happens before it, a line is read as in any session. -/
theorem step_session (watch : Watch) (feed : Feed) :
    (watch.step feed).session = (watch.stir feed.stirs).session.read feed.octets :=
  rfl

/-- The metrics agree with the registrar and with what was replied. -/
structure Agrees (first : Registrar) (watch : Watch) : Prop where
    metered : ∃ policy, SoleRegistrar policy watch.session.policies ∧
      policy.Metered first watch.metrics watch.session.site.backend.crew watch.evaluations
    decisions : ∀ action : Action, watch.metrics.decisions.getD action.name 0 =
      .ofNat (watch.session.replies.countP (·.action = action))
    malformed : watch.metrics.malformedLines = .ofNat watch.session.report.malformed

variable {first : Registrar} {watch : Watch}

theorem Agrees.stir (agrees : watch.Agrees first) (stirs : List Stir) :
    (watch.stir stirs).Agrees first := by
  obtain ⟨policy, sole, metered⟩ := agrees.metered
  exact { agrees with
    metered := ⟨policy, sole, metered.age fun id => Stir.fold_ages stirs _ id⟩ }

theorem Agrees.answer (agrees : watch.Agrees first) (reply : Reply) :
    Agrees first { watch with session := watch.session.answer reply } := by
  obtain ⟨policy, sole, metered⟩ := agrees.metered
  refine ⟨⟨policy, sole, metered.told rfl rfl rfl⟩, fun action => ?_, agrees.malformed⟩
  have names : action.name = reply.action.name ↔ reply.action = action := by
    cases action <;> cases reply.action <;> decide
  have counted : (watch.metrics.countDecision reply.action.name).decisions.getD action.name 0 =
      .ofNat ((watch.session.replies ++ [reply]).countP (·.action = action)) := by
    rw [Metrics.countDecision, Counters.getD_add, List.countP_append, List.countP_singleton]
    by_cases own : reply.action = action
    · rw [if_pos (names.2 own), if_pos (by simpa using own), UInt64.ofNat_add, own,
        agrees.decisions]
      rfl
    · rw [if_neg (mt names.1 own), if_neg (by simpa using own), Nat.add_zero, agrees.decisions]
  exact counted

theorem Agrees.count_malformed (agrees : watch.Agrees first) (entry : Log.Entry) :
    Agrees first { watch with session := watch.session.countMalformed entry } := by
  obtain ⟨policy, sole, metered⟩ := agrees.metered
  refine ⟨⟨policy, sole, metered.told rfl rfl rfl⟩, agrees.decisions, ?_⟩
  have counted : watch.metrics.malformedLines + 1 =
      .ofNat (watch.session.report.malformed + 1) := by
    rw [UInt64.ofNat_add, agrees.malformed]
    rfl
  exact counted

/-- A request gets to the registrar, or it changes neither the metrics nor what is behind them. -/
theorem Agrees.decide (agrees : watch.Agrees first) (request : Request) :
    let verdict := PolicyChain.decide request watch.session.policies watch.session.site
    Agrees first
      { session := { watch.session with policies := verdict.policy, site := verdict.site }
        evaluations := watch.evaluations ++ (PolicyChain.evaluation? request
          watch.session.policies watch.session.site).toList } := by
  obtain ⟨policy, sole, metered⟩ := agrees.metered
  intro verdict
  rcases PolicyChain.decide_sole sole request watch.session.site with
    ⟨missed, same, still⟩ | ⟨asked, site, still⟩
  · rw [missed, Option.toList_none, List.append_nil, show verdict.site = _ from same]
    exact ⟨⟨policy, still, metered⟩, agrees.decisions, agrees.malformed⟩
  · obtain ⟨recorded, decisions, malformed⟩ := metered.decide request
    rw [asked, show verdict.site = _ from site]
    refine ⟨⟨_, still, recorded⟩, fun action => ?_, malformed.trans agrees.malformed⟩
    exact (congrArg (·.getD action.name 0) decisions).trans (agrees.decisions action)

theorem Agrees.handle (agrees : watch.Agrees first) (line : Line) :
    (watch.handle line).Agrees first := by
  let counted : Watch := { watch with session := { watch.session with
    report := { watch.session.report with lines := watch.session.report.lines + 1 } } }
  have begun : counted.Agrees first := ⟨agrees.metered, agrees.decisions, agrees.malformed⟩
  have silent : watch.evaluations ++ (none : Option Evaluation).toList = watch.evaluations :=
    List.append_nil _
  rw [Watch.handle]
  cases line with
  | request request => exact (begun.decide request).answer _
  | blank =>
      simp only [Line.request?, Option.bind_none, silent]
      exact begun
  | ignored type =>
      simp only [Line.request?, Option.bind_none, silent]
      exact ⟨begun.metered, begun.decisions, begun.malformed⟩
  | malformed id fault =>
      simp only [Line.request?, Option.bind_none, silent]
      cases id with
      | none => exact begun.count_malformed _
      | some id => exact (begun.count_malformed _).answer _

theorem Agrees.run (agrees : watch.Agrees first) (feeds : List Feed) :
    (watch.run feeds).Agrees first := by
  induction feeds generalizing watch with
  | nil => exact agrees
  | cons feed rest induction => exact induction ((agrees.stir feed.stirs).handle (.ofOctets feed.octets))

structure Within (lines : Nat) (watch : Watch) : Prop where
    replies : watch.session.replies.length ≤ lines
    malformed : watch.session.report.malformed ≤ lines
    evaluations : watch.evaluations.length ≤ lines

theorem Within.step {lines : Nat} (within : watch.Within lines) (feed : Feed) :
    (watch.step feed).Within (lines + 1) := by
  have option : ∀ {α : Type} (value : Option α), value.toList.length ≤ 1 := by
    intro α value
    cases value <;> simp
  constructor
  · rw [step_session, Session.read_replies, List.length_append]
    exact Nat.add_le_add within.replies (option _)
  · rw [step_session, Session.read_report]
    exact Nat.add_le_add within.malformed (Bool.toNat_le _)
  · rw [Watch.step, Watch.handle, List.length_append]
    exact Nat.add_le_add within.evaluations (option _)

theorem Within.run {lines : Nat} (within : watch.Within lines) (feeds : List Feed) :
    (watch.run feeds).Within (lines + feeds.length) := by
  induction feeds generalizing lines watch with
  | nil => exact within
  | cons feed rest induction =>
      rw [List.length_cons, Nat.add_comm rest.length, ← Nat.add_assoc]
      exact induction (within.step feed)

end Watch

/-! ## From the start -/

structure Registrar.Fresh (registrar : Registrar) (crew : Crew) : Prop where
    coherent : registrar.roster.Coherent
    registrations : registrar.registrations = 0
    appendFailures : registrar.appendFailures = 0
    exposure : registrar.roster.exposure crew = 0

/-- A registrar starts on metrics that count nothing yet. -/
theorem Registrar.Fresh.metered {registrar : Registrar} {crew : Crew} (fresh : registrar.Fresh crew) :
    MeteredRegistrar.Metered registrar { registrar }
      (({} : Metrics).showMembers registrar.roster.order.length) crew [] := by
  constructor
  case coherent => exact fresh.coherent
  case requests => exact fun _ => rfl
  case labels => exact fun label held => absurd held Std.TreeMap.not_mem_emptyc
  case registrations => exact fresh.registrations
  case appends => exact congrArg UInt64.ofNat fresh.appendFailures.symm
  case missed => exact Nat.le_of_eq (fresh.appendFailures.trans fresh.registrations.symm)
  case writes => rfl
  case reported => exact Nat.zero_le _
  case exposure => exact Nat.le_of_eq (fresh.exposure.trans fresh.registrations.symm)
  case members => rfl
  case order => exact Nat.le_add_right _ _
  case last => exact nofun
  case writer => rfl
  case unfinished => exact nofun

theorem Registrar.Fresh.load {registrar : Registrar} {deployment : Deployment}
    (fresh : registrar.Fresh deployment.crew) :
    (registrar.load deployment).state.Fresh (registrar.load deployment).backend.crew :=
  ⟨fresh.coherent.load deployment, fresh.registrations, fresh.appendFailures,
    (registrar.load_exposure deployment).2.trans fresh.exposure⟩

namespace Tenure

theorem begun_fresh {settings : RegistrarSettings} {registrar : Registrar}
    (valid : Registrar.ofSettings settings = .ok registrar) (memory : Memory) (clock : ManualClock)
    (limit : Option Millis) :
    let tenure := begun registrar memory clock limit
    tenure.registrar.Fresh tenure.backend.crew := by
  obtain ⟨scope, _, rfl⟩ := Registrar.of_settings_eq valid
  cases limit with
  | none => exact ⟨Roster.empty_coherent _, rfl, rfl, rfl⟩
  | some limit => exact ⟨(Roster.empty_coherent _).transfer rfl rfl rfl, rfl, rfl, rfl⟩

/-- A registrar stays as it is until it decides on something. -/
theorem run_fresh {tenure : Tenure Deployment}
    (fresh : tenure.registrar.Fresh tenure.backend.crew) {steps : List Step}
    (undecided : ∀ step ∈ steps, ∀ event, step ≠ .decide event) :
    let later := tenure.run Stir.apply steps
    later.registrar.Fresh later.backend.crew := by
  induction steps generalizing tenure with
  | nil => exact fresh
  | cons step rest induction =>
      have behind := fun other held => undecided other (List.mem_cons_of_mem step held)
      refine induction ?_ behind
      cases step with
      | load => exact fresh.load
      | decide event => exact absurd rfl (undecided _ List.mem_cons_self event)
      | stir happening =>
          have ages := tenure.registrar.roster.ages_of_crew
            (happening.apply_ages tenure.backend)
          exact { fresh with
            exposure := Nat.le_zero.1 (ages.exposure.trans (Nat.le_of_eq fresh.exposure)) }

end Tenure

structure Metrics.Shows (metrics : Metrics) (evaluations : List Evaluation)
    (evaluation : Evaluation) : Prop where
    requests : metrics.total "vg_vanish_requests_total" = evaluation.figures.registrations
    targets : ∀ target : Target, metrics.shown "vg_vanish_requests_total" (some target.label) =
      evaluations.countP (·.outcome.isFor target.label)
    appends : metrics.shown "vg_store_failures_total" (some "stream_append") =
      evaluation.figures.appendFailures
    writes : metrics.shown "vg_store_failures_total" (some "mirror_write") =
      evaluation.figures.roster.replicaFailures
    members : metrics.shown "vg_vanish_cache_members" none = evaluation.figures.roster.members

theorem countP_registered (evaluations : List Evaluation) :
    evaluations.countP (·.outcome.isRegistered) =
      evaluations.countP (·.outcome.isFor "all_relays") +
        evaluations.countP (·.outcome.isFor "relay") := by
  induction evaluations with
  | nil => rfl
  | cons evaluation rest induction =>
      have split : (if evaluation.outcome.isRegistered then 1 else 0) =
          (if evaluation.outcome.isFor "all_relays" then 1 else 0) +
            if evaluation.outcome.isFor "relay" then 1 else 0 := by
        rcases evaluation.outcome with _ | _ | _ | ⟨_ | name, _, _⟩ <;> rfl
      rw [List.countP_cons, List.countP_cons, List.countP_cons, induction, split]
      omega

theorem MeteredRegistrar.Metered.shows {first : Registrar} {policy : MeteredRegistrar}
    {metrics : Metrics} {crew : Crew} {evaluations : List Evaluation}
    (metered : policy.Metered first metrics crew evaluations)
    (few : first.roster.order.length + evaluations.length ≤ Metrics.maximalGauge) {evaluation : Evaluation}
    (last : evaluations.getLast? = some evaluation) : metrics.Shows evaluations evaluation := by
  obtain ⟨registrations, appendFailures, replicaFailures, members⟩ := metered.last evaluation last
  have words : UInt64.size = 2 * (Metrics.maximalGauge + 1) := rfl
  have counted : ∀ count ≤ evaluations.length, (UInt64.ofNat count).toNat = count :=
    fun count within => UInt64.toNat_ofNat_of_lt (by omega)
  have registered : policy.registrar.registrations ≤ evaluations.length :=
    metered.registrations ▸ List.countP_le_length
  have failures : policy.reportedFailures ≤ policy.registrar.registrations :=
    (metered.reported.trans (Roster.failures_le_exposure _ _)).trans metered.exposure
  have targets : ∀ label, (metrics.vanishRequests.getD label 0).toNat =
      evaluations.countP (·.outcome.isFor label) := by
    intro label
    rw [metered.requests, counted _ List.countP_le_length]
  constructor
  case requests =>
    have all : ∀ label ∈ metrics.vanishRequests, label ∈ ({"all_relays", "relay"} : Finset String) := by
      intro label held
      obtain ⟨target, rfl⟩ := metered.labels label held
      cases target <;> simp [Target.label]
    rw [metrics.total_requests all, Finset.sum_pair (by decide), targets, targets, registrations,
      metered.registrations, countP_registered]
  case targets =>
    intro target
    rw [metrics.shown_requests, targets]
  case appends =>
    rw [metrics.shown_failures, metered.appends, appendFailures]
    exact counted _ (metered.missed.trans registered)
  case writes =>
    rw [metrics.shown_failures, metered.writes, replicaFailures]
    exact counted _ (failures.trans registered)
  case members =>
    have order := metered.order
    rw [metrics.shown_members, metered.members, members]
    exact Nat.min_eq_left (by omega)

namespace Watch

def opened (front rear : List StandardPolicy) (tenure : Tenure Deployment) : Watch :=
  let (policy, metrics) := MeteredRegistrar.start tenure.registrar {}
  { session := { policies := front ++ .registrar policy :: rear
                 site := { backend := tenure.backend, metrics } } }

theorem opened_agrees {tenure : Tenure Deployment}
    (fresh : tenure.registrar.Fresh tenure.backend.crew) {front rear : List StandardPolicy}
    (others : ∀ other ∈ front ++ rear, other.isRegistrar = false) :
    (opened front rear tenure).Agrees tenure.registrar :=
  ⟨⟨_, sole_registrar_among others, fresh.metered⟩, fun _ => rfl, rfl⟩

structure Settled (watch : Watch) : Prop where
    evaluated : ∀ evaluation, watch.evaluations.getLast? = some evaluation →
      watch.metrics.Shows watch.evaluations evaluation
    decisions : ∀ action : Action,
      watch.metrics.shown "vg_policy_decisions_total" (some action.name) =
        watch.session.replies.countP (·.action = action)
    malformed : watch.metrics.shown "vg_policy_malformed_lines_total" none =
      watch.session.report.malformed

/-- A registrar that has not decided on anything yet begins to serve, alone or among policies of
other kinds, with or without a writer. Whatever its stores and its writer do between the lines, the
metrics agree with it each time that it has decided on a request, and with the replies and the
report in the end. -/
theorem metrics_agree {settings : RegistrarSettings} {registrar : Registrar}
    (valid : Registrar.ofSettings settings = .ok registrar) (memory : Memory) (clock : ManualClock)
    (limit : Option Millis) {steps : List Tenure.Step}
    (undecided : ∀ step ∈ steps, ∀ event, step ≠ .decide event) {front rear : List StandardPolicy}
    (others : ∀ other ∈ front ++ rear, other.isRegistrar = false) (feeds : List Feed)
    (few : ((Tenure.begun registrar memory clock limit).run Stir.apply
      steps).registrar.roster.order.length + feeds.length ≤ Metrics.maximalGauge) :
    let tenure := (Tenure.begun registrar memory clock limit).run Stir.apply steps
    ((opened front rear tenure).run feeds).Settled := by
  intro tenure
  let watch := (opened front rear tenure).run feeds
  have fresh : tenure.registrar.Fresh tenure.backend.crew :=
    Tenure.run_fresh (Tenure.begun_fresh valid memory clock limit) undecided
  have agrees : watch.Agrees tenure.registrar :=
    (opened_agrees fresh others).run feeds
  have start : (opened front rear tenure).Within 0 := ⟨Nat.le_refl _, Nat.le_refl _, Nat.le_refl _⟩
  have within : watch.Within feeds.length := Nat.zero_add feeds.length ▸ start.run feeds
  have words : UInt64.size = 2 * (Metrics.maximalGauge + 1) := rfl
  have counted : ∀ count ≤ feeds.length, (UInt64.ofNat count).toNat = count :=
    fun count within => UInt64.toNat_ofNat_of_lt (by omega)
  constructor
  case evaluated =>
    intro evaluation last
    obtain ⟨policy, _, metered⟩ := agrees.metered
    exact metered.shows ((Nat.add_le_add_left within.evaluations _).trans few) last
  case decisions =>
    intro action
    rw [watch.metrics.shown_decisions, agrees.decisions,
      counted _ (List.countP_le_length.trans within.replies)]
  case malformed =>
    rw [watch.metrics.shown_malformed_lines, agrees.malformed, counted _ within.malformed]

/-- With room for one sender and a replica that went down after the load, both batches fail in the
background. The second failure shows when a line that asks for nothing is evaluated. -/
theorem metrics_agree_behind_writer :
    let memory : Memory := { conditions := fun number => { sortedSetUp := number < 2 } }
    let tenure := (Tenure.begun (Registrar.forOne optOutStream) memory (.standing 7000)
      (some 500)).run Stir.apply [.load]
    let ask (sender : Sender) (kind : UInt32) : Request :=
      .ofEvent ⟨"e", sender, kind, 0, [⟨["relay", "all_relays"]⟩], "", none⟩
    let asked : List (List Stir × Request) := [([], ask "alice" optOutKind),
      ([.work none none], ask "bob" optOutKind), ([.work none none], ask "bob" 1)]
    let feeds : List Feed := asked.map (fun (stirs, request) =>
      ⟨stirs, Text.octetsOf (request.text ++ "\n")⟩) ++ [⟨[], [0xff, 10]⟩]
    let watch := (opened [.admission {}] [] tenure).run feeds
    let figures : RegistrarFigures := ⟨3, 1, 2, 0, ⟨1, 1, 2, 1, 2⟩⟩
    watch.evaluations.getLast? = some ⟨.alreadyVanished, figures, 0⟩ ∧
      watch.metrics.Shows watch.evaluations ⟨.alreadyVanished, figures, 0⟩ ∧
      watch.metrics.shown "vg_policy_decisions_total" (some "accept") = 2 ∧
      watch.metrics.shown "vg_policy_decisions_total" (some "shadowReject") = 1 ∧
      watch.metrics.shown "vg_policy_malformed_lines_total" none = 1 := by
  intro memory tenure ask asked feeds watch figures
  have built : Registrar.ofSettings { relayScope := "relay.example", roster := { capacity := 1 } } =
      .ok (Registrar.forOne optOutStream) := rfl
  have undecided : ∀ step ∈ [Tenure.Step.load], ∀ event, step ≠ .decide event := by
    intro step held event
    rw [List.mem_singleton.1 held]
    exact nofun
  have others : ∀ other ∈ [StandardPolicy.admission {}] ++ [], other.isRegistrar = false := by
    intro other held
    rw [List.mem_singleton.1 held]
    rfl
  have few : tenure.registrar.roster.order.length + feeds.length ≤ Metrics.maximalGauge := by
    decide +kernel
  have settled : watch.Settled := metrics_agree built memory (.standing 7000) (some 500) undecided
    others feeds few
  have lines : feeds.map (fun feed => (feed.stirs, Line.ofOctets feed.octets)) =
      asked.map (fun (stirs, request) => (stirs, .request request)) ++
        [([], .malformed none (.invalidUtf8 "invalid utf-8 sequence of 1 bytes from index 0"))] := by
    have first := Line.of_octets_request (ask "alice" optOutKind) rfl (by decide)
    have second := Line.of_octets_request (ask "bob" optOutKind) rfl (by decide)
    have third := Line.of_octets_request (ask "bob" 1) rfl (by decide)
    have fourth : Line.ofOctets [0xff, 10] = .malformed none (.invalidUtf8 _) := rfl
    simp only [feeds, asked, List.map_cons, List.map_nil, List.cons_append, List.nil_append, first,
      second, third, fourth]
    rfl
  have heard : watch = _ := run_of_lines (opened [.admission {}] [] tenure) lines
  -- The lines are not to be read again where the run is evaluated.
  clear_value watch
  have last : watch.evaluations.getLast? = some ⟨.alreadyVanished, figures, 0⟩ := by
    rw [heard]
    decide +kernel
  have accepted : watch.session.replies.countP (·.action = .accept) = 2 := by
    rw [heard]
    decide +kernel
  have silenced : watch.session.replies.countP (·.action = .shadowReject) = 1 := by
    rw [heard]
    decide +kernel
  have broken : watch.session.report.malformed = 1 := by
    rw [heard]
    decide +kernel
  exact ⟨last, settled.evaluated _ last, (settled.decisions .accept).trans accepted,
    (settled.decisions .shadowReject).trans silenced, settled.malformed.trans broken⟩

end Watch

end OptOut
