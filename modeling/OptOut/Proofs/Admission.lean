import OptOut.Proofs.Provenance

/-!
# The last word on an event

A remembered sender is silenced, whatever the admission rules say of the event. Anyone else hears
what the rules say, if they are in force; and what they say changes nothing about who is remembered
or what is recorded, of this event or of any later one.
-/

namespace OptOut

/-! ## Admission rules -/

namespace AdmissionRules

def Refuses (rules : AdmissionRules) (event : Event) : Prop :=
  event.pubkey ∈ rules.disallowedPubkeys ∨
    (∃ opening ∈ rules.disallowedOpenings, opening.toList <+: event.content.toList) ∨
      event.pubkey ∉ rules.allowedPubkeys ∧ event.kind ∉ rules.allowedKinds

variable {rules : AdmissionRules} {event : Event}

theorem disallows_iff : rules.disallows event = true ↔ event.pubkey ∈ rules.disallowedPubkeys ∨
    ∃ opening ∈ rules.disallowedOpenings, opening.toList <+: event.content.toList := by
  simp [disallows, List.any_eq_true, List.isPrefixOf_iff_prefix]

theorem permits_iff : rules.permits event = true ↔ ¬rules.Refuses event := by
  rw [permits, Refuses, ← or_assoc, ← disallows_iff, not_or, not_and_or, not_not, not_not]
  simp

theorem reply_refused (refused : rules.Refuses event) :
    rules.reply event = .reject event.id refusalText := by
  rw [reply, if_neg fun permitted => permits_iff.1 permitted refused]

theorem reply_permitted (permitted : ¬rules.Refuses event) :
    rules.reply event = .accept event.id := by
  rw [reply, if_pos (permits_iff.2 permitted)]

end AdmissionRules

namespace PolicyChain

def registrar? : List StandardPolicy → Option Registrar
  | [] => none
  | .registrar policy :: _ => some policy.registrar
  | _ :: rest => registrar? rest

/-- The verdicts on requests in turn, before each of which the site may have changed in any way. -/
def verdicts {π β : Type} [Policy π β] :
    List π → Site β → List (Request × (Site β → Site β)) → List (Verdict (List π) β)
  | _, _, [] => []
  | policies, site, (request, meanwhile) :: rest =>
    let verdict := decide request policies (meanwhile site)
    verdict :: verdicts verdict.policy verdict.site rest

end PolicyChain

namespace Service

variable {β : Type} [Backend β]

/-- The reply to an event that the registrar lets pass. -/
def lastWord (settings : Settings) (event : Event) : Reply :=
  if settings.admissionControl then ({} : AdmissionRules).reply event else .accept event.id

theorem decide_last_word (settings : Settings) (request : Request) (site : Site β) :
    PolicyChain.decide request (behind settings) site =
      ⟨lastWord settings request.event, behind settings, site⟩ := by
  rw [behind, lastWord]
  split
  · let rules : AdmissionRules := {}
    by_cases refused : rules.Refuses request.event
    · have reply := AdmissionRules.reply_refused refused
      exact PolicyChain.decide_objecting (congrArg Reply.isAccept reply)
    · have reply := AdmissionRules.reply_permitted refused
      rw [reply]
      exact PolicyChain.decide_accepting (congrArg Reply.isAccept reply)
  · rfl

/-- The registrar alone decides on what is kept: the rules behind it have no state, and see only
events that it accepts. -/
theorem decide_policies_of (settings : Settings) (policy : MeteredRegistrar) (request : Request)
    (site : Site β) :
    let first := policy.decide request site
    PolicyChain.decide request (policiesOf settings policy) site =
      ⟨if first.reply.isAccept then lastWord settings request.event else first.reply,
        policiesOf settings first.policy, first.site⟩ := by
  intro first
  cases accepted : first.reply.isAccept with
  | false => exact PolicyChain.decide_objecting accepted
  | true =>
      have last := decide_last_word settings request first.site
      have chain : PolicyChain.decide request (policiesOf settings policy) site =
          let later := PolicyChain.decide request (behind settings) first.site
          ⟨later.reply, .registrar first.policy :: later.policy, later.site⟩ :=
        PolicyChain.decide_accepting accepted
      rw [chain, last]
      rfl

/-! ## Services at any moment -/

/-- The policies that a service can come to have, whatever stands behind them at each moment. -/
inductive Reaches (service : Service) : List StandardPolicy → Prop where
  | started : Reaches service service.policies
  | decided {policies : List StandardPolicy} (prior : Reaches service policies) {γ : Type}
      [Backend γ] (request : Request) (site : Site γ) :
      Reaches service (PolicyChain.decide request policies site).policy

structure Fronts (settings : Settings) (policies : List StandardPolicy)
    (policy : MeteredRegistrar) : Prop where
    policies : policies = policiesOf settings policy
    reachable : policy.registrar.Reachable
    scope : Scope.ofText? settings.relayUrl = some policy.registrar.scope

theorem Fronts.decide {settings : Settings} {policies : List StandardPolicy}
    {policy : MeteredRegistrar} (fronts : Fronts settings policies policy) (request : Request)
    (site : Site β) :
    Fronts settings (PolicyChain.decide request policies site).policy
      (policy.decide request site).policy := by
  have state : (policy.decide request site).policy.registrar =
      (policy.registrar.decide request.event site.backend).state :=
    MeteredRegistrar.count_failures_registrar ..
  refine ⟨?_, ?_, ?_⟩
  · rw [fronts.policies, decide_policies_of]
  · rw [state]
    exact fronts.reachable.decided request.event site.backend
  · rw [state, Registrar.decide_scope]
    exact fronts.scope

theorem start_eq {settings : Settings} {registrar : Registrar}
    (valid : Registrar.ofSettings settings.registrar = .ok registrar) (site : Site Deployment) :
    start settings site =
      if settings.writeBehind then
        let (writer, backend) := site.backend.startWriter settings.storeTimeout
        assemble settings (some writer) ((registrar.withWriter writer).load backend) site
      else assemble settings none (registrar.load site.backend) site := by
  rw [start, valid]

/-- What is loaded does not depend on whether admission is controlled. -/
theorem assemble_fronts {settings : Settings} {writer : Option WriterId}
    {turn : Turn (Except RosterFault Nat) Registrar Deployment} {site after : Site Deployment}
    {service : Service} (success : assemble settings writer turn site = (.ok service, after))
    (admissionControl : Bool) :
    ∃ other : Service,
      assemble { settings with admissionControl } writer turn site = (.ok other, after) ∧
        other.policies = policiesOf { settings with admissionControl } ⟨turn.state, 0⟩ := by
  simp only [assemble] at success ⊢
  split at success
  · obtain ⟨-, rfl⟩ := Prod.mk.inj success
    exact ⟨_, rfl, rfl⟩
  · split at success
    · rename_i cold
      obtain ⟨-, rfl⟩ := Prod.mk.inj success
      rw [if_pos cold]
      exact ⟨_, rfl, rfl⟩
    · cases (Prod.mk.inj success).1

/-- Whether admission is controlled or not, the same settings start with the same registrar on the
same site, or do not start. -/
theorem start_fronts {settings : Settings} {site after : Site Deployment} {service : Service}
    (success : start settings site = (.ok service, after)) :
    ∃ policy : MeteredRegistrar, policy.registrar.Reachable ∧
      Scope.ofText? settings.relayUrl = some policy.registrar.scope ∧
      ∀ admissionControl, ∃ other : Service,
        start { settings with admissionControl } site = (.ok other, after) ∧
          other.policies = policiesOf { settings with admissionControl } policy := by
  cases valid : Registrar.ofSettings settings.registrar with
  | error fault =>
      rw [start, valid] at success
      cases (Prod.mk.inj success).1
  | ok registrar =>
      have reachable : registrar.Reachable := .built valid
      have scope := (of_settings_trusted (fun _ => True) valid).1.scope
      have begun : ∀ admissionControl, _ := fun admissionControl =>
        @start_eq { settings with admissionControl } registrar valid site
      rw [start_eq valid] at success
      by_cases queueing : settings.writeBehind = true
      · rw [if_pos queueing] at success
        let hired := site.backend.startWriter settings.storeTimeout
        let turn := (registrar.withWriter hired.1).load hired.2
        refine ⟨⟨turn.state, 0⟩, (reachable.queueing _).loaded _, scope, fun admissionControl => ?_⟩
        rw [begun, if_pos queueing]
        exact assemble_fronts success admissionControl
      · rw [if_neg queueing] at success
        let turn := registrar.load site.backend
        refine ⟨⟨turn.state, 0⟩, reachable.loaded _, scope, fun admissionControl => ?_⟩
        rw [begun, if_neg queueing]
        exact assemble_fronts success admissionControl

theorem Reaches.fronts {settings : Settings} {service : Service} {policies : List StandardPolicy}
    (reaches : Reaches service policies)
    (begins : ∃ policy, Fronts settings service.policies policy) :
    ∃ policy, Fronts settings policies policy := by
  induction reaches with
  | started => exact begins
  | decided _ request site induction =>
      obtain ⟨policy, fronts⟩ := induction
      exact ⟨_, fronts.decide request site⟩

/-! ## What is replied, and what is kept -/

def Refuses (settings : Settings) (event : Event) : Prop :=
  settings.admissionControl = true ∧ ({} : AdmissionRules).Refuses event

theorem last_word_refused {settings : Settings} {event : Event} (refused : Refuses settings event) :
    lastWord settings event = .reject event.id refusalText := by
  rw [lastWord, if_pos refused.1, AdmissionRules.reply_refused refused.2]

theorem last_word_permitted {settings : Settings} {event : Event}
    (permitted : ¬Refuses settings event) : lastWord settings event = .accept event.id := by
  rw [lastWord]
  split
  · rename_i controlled
    exact AdmissionRules.reply_permitted fun refused => permitted ⟨controlled, refused⟩
  · rfl

structure Answered (settings : Settings) (policies : List StandardPolicy) (request : Request)
    (site : Site β) (verdict : Verdict (List StandardPolicy) β) : Prop where
    id : verdict.reply.id = request.event.id
    silenced : verdict.reply.action = .shadowReject ↔
      request.event.pubkey ∈ PolicyChain.remembered policies
    refused : request.event.pubkey ∉ PolicyChain.remembered policies →
      Refuses settings request.event → verdict.reply = .reject request.event.id refusalText
    accepted : request.event.pubkey ∉ PolicyChain.remembered policies →
      ¬Refuses settings request.event → verdict.reply = .accept request.event.id
    /-- Whatever the reply, a request to vanish from this relay is recorded, and its sender is
    remembered. -/
    recorded : request.event.pubkey ∉ PolicyChain.remembered policies →
      request.event.kind = optOutKind →
      (∃ scope, Scope.ofText? settings.relayUrl = some scope ∧
        (scope.target? request.event).isSome = true) →
      ∃ registrar, PolicyChain.registrar? policies = some registrar ∧
        (registrar.decide request.event site.backend).answer.outcome.isRegistered = true ∧
        verdict.site.backend = (registrar.decide request.event site.backend).backend ∧
        request.event.pubkey ∈ PolicyChain.remembered verdict.policy

theorem Fronts.reply {settings : Settings} {policies : List StandardPolicy}
    {policy : MeteredRegistrar} (fronts : Fronts settings policies policy) (request : Request)
    (site : Site β) :
    (PolicyChain.decide request policies site).reply =
      if request.event.pubkey ∈ PolicyChain.remembered policies then
        .shadowReject request.event.id
      else lastWord settings request.event := by
  have remembered : PolicyChain.remembered policies = policy.registrar.roster.order := by
    rw [fronts.policies]
    rfl
  have agree := fronts.reachable.coherent.agree request.event.pubkey
  rw [remembered, fronts.policies, decide_policies_of]
  cases known : policy.registrar.roster.has request.event.pubkey with
  | true =>
      have silenced : (policy.decide request site).reply = .shadowReject request.event.id :=
        congrArg Ruling.reply (Registrar.decide_remembered known site.backend)
      rw [if_pos (agree.1 known), silenced]
      rfl
  | false =>
      have accepted : (policy.decide request site).reply = .accept request.event.id :=
        (Registrar.decide_stranger known site.backend).1
      rw [if_neg fun held => Bool.false_ne_true (known.symm.trans (agree.2 held)), accepted]
      rfl

theorem last_word_never_silences (settings : Settings) (event : Event) :
    (lastWord settings event).id = event.id ∧ (lastWord settings event).action ≠ .shadowReject := by
  by_cases refused : Refuses settings event
  · rw [last_word_refused refused]
    exact ⟨rfl, nofun⟩
  · rw [last_word_permitted refused]
    exact ⟨rfl, nofun⟩

theorem Fronts.recorded {settings : Settings} {policies : List StandardPolicy}
    {policy : MeteredRegistrar} (fronts : Fronts settings policies policy) {request : Request}
    (stranger : request.event.pubkey ∉ PolicyChain.remembered policies)
    (kind : request.event.kind = optOutKind)
    (addressed : (policy.registrar.scope.target? request.event).isSome = true) (site : Site β) :
    let turn := policy.registrar.decide request.event site.backend
    turn.answer.outcome.isRegistered = true ∧
      (PolicyChain.decide request policies site).site.backend = turn.backend ∧
      request.event.pubkey ∈
        PolicyChain.remembered (PolicyChain.decide request policies site).policy := by
  intro turn
  have coherent := fronts.reachable.coherent
  have unknown : policy.registrar.roster.has request.event.pubkey = false := by
    rw [← Bool.not_eq_true, coherent.agree]
    rwa [fronts.policies] at stranger
  have registered : turn.answer.outcome.isRegistered = true :=
    (Registrar.decide_stranger unknown site.backend).2.2.2 ⟨kind, addressed⟩
  have order := Registrar.decide_order coherent request.event site.backend
  obtain ⟨less, room⟩ := Nat.exists_eq_add_of_lt fronts.reachable.room_pos
  rw [if_pos registered, room, Nat.zero_add, List.rtake_concat_succ] at order
  have state : (policy.decide request site).policy.registrar = turn.state :=
    MeteredRegistrar.count_failures_registrar ..
  rw [fronts.policies, decide_policies_of]
  refine ⟨registered, rfl, ?_⟩
  change request.event.pubkey ∈ (policy.decide request site).policy.registrar.roster.order
  rw [state, order]
  exact List.mem_append_right _ List.mem_cons_self

theorem Fronts.answered {settings : Settings} {policies : List StandardPolicy}
    {policy : MeteredRegistrar} (fronts : Fronts settings policies policy) (request : Request)
    (site : Site β) :
    Answered settings policies request site (PolicyChain.decide request policies site) := by
  have reply := fronts.reply request site
  obtain ⟨own, loud⟩ := last_word_never_silences settings request.event
  refine ⟨?_, ?_, ?_, ?_, ?_⟩
  · rw [reply]
    split
    · rfl
    · exact own
  · rw [reply]
    split
    · exact iff_of_true rfl ‹_›
    · exact iff_of_false loud ‹_›
  · intro stranger refused
    rw [reply, if_neg stranger, last_word_refused refused]
  · intro stranger permitted
    rw [reply, if_neg stranger, last_word_permitted permitted]
  · rintro stranger kind ⟨scope, named, addressed⟩
    obtain rfl := Option.some.inj (named.symm.trans fronts.scope)
    refine ⟨policy.registrar, ?_, fronts.recorded stranger kind addressed site⟩
    rw [fronts.policies]
    rfl

/-- Two verdicts that differ at most in that the first is a refusal by the admission rules. -/
structure Parallel (strict lax : Verdict (List StandardPolicy) β) : Prop where
    site : strict.site = lax.site
    registrar : ∃ registrar, PolicyChain.registrar? strict.policy = some registrar ∧
      PolicyChain.registrar? lax.policy = some registrar
    reply : strict.reply = lax.reply ∨
      ∃ id, strict.reply = .reject id refusalText ∧ lax.reply = .accept id

theorem verdicts_parallel (settings : Settings) (policy : MeteredRegistrar) (site : Site β)
    (visits : List (Request × (Site β → Site β))) :
    (PolicyChain.verdicts (policiesOf { settings with admissionControl := true } policy) site
      visits).Forall₂ Parallel
        (PolicyChain.verdicts (policiesOf { settings with admissionControl := false } policy) site
          visits) := by
  induction visits generalizing policy site with
  | nil => exact .nil
  | cons visit rest induction =>
      obtain ⟨request, meanwhile⟩ := visit
      let first := policy.decide request (meanwhile site)
      have strict := decide_policies_of { settings with admissionControl := true } policy request
        (meanwhile site)
      have lax := decide_policies_of { settings with admissionControl := false } policy request
        (meanwhile site)
      rw [PolicyChain.verdicts, PolicyChain.verdicts, strict, lax]
      refine .cons ⟨rfl, ⟨_, rfl, rfl⟩, ?_⟩ (induction first.policy first.site)
      -- The reply of the registrar is the same for both; only the last word on it may differ.
      cases accepted : first.reply.isAccept with
      | false =>
          rw [if_neg Bool.false_ne_true, if_neg Bool.false_ne_true]
          exact .inl rfl
      | true =>
          rw [if_pos rfl, if_pos rfl]
          by_cases refused : Refuses { settings with admissionControl := true } request.event
          · exact .inr ⟨_, last_word_refused refused, rfl⟩
          · exact .inl (last_word_permitted refused)

/-- A remembered sender is silenced, and the admission rules have the last word on all others; but
whether they are in force makes no difference to what is kept, and in a reply only that between a
refusal and an acceptance. -/
theorem admission_last_word {settings : Settings} {site after : Site Deployment} {service : Service}
    (success : start settings site = (.ok service, after)) :
    (∀ policies, Reaches service policies → ∀ {β : Type} [Backend β] (request : Request)
      (site : Site β),
        Answered settings policies request site (PolicyChain.decide request policies site)) ∧
    ∃ strict lax : Service,
      start { settings with admissionControl := true } site = (.ok strict, after) ∧
      start { settings with admissionControl := false } site = (.ok lax, after) ∧
      ∀ {β : Type} [Backend β] (site : Site β) (visits : List (Request × (Site β → Site β))),
        (PolicyChain.verdicts strict.policies site visits).Forall₂ Parallel
          (PolicyChain.verdicts lax.policies site visits) := by
  obtain ⟨policy, reachable, scope, starts⟩ := start_fronts success
  constructor
  · have begins : Fronts settings service.policies policy := by
      obtain ⟨other, same, policies⟩ := starts settings.admissionControl
      obtain rfl := Except.ok.inj (Prod.mk.inj (success.symm.trans same)).1
      exact ⟨policies, reachable, scope⟩
    intro policies reaches β _ request site
    obtain ⟨later, fronts⟩ := reaches.fronts ⟨policy, begins⟩
    exact fronts.answered request site
  · obtain ⟨strict, started, policies⟩ := starts true
    obtain ⟨lax, started', policies'⟩ := starts false
    refine ⟨strict, lax, started, started', fun site visits => ?_⟩
    rw [policies, policies']
    exact verdicts_parallel settings policy site visits

open PolicyChain Registrar in
/-- A request to vanish that the rules refuse for its content is recorded, and silences its sender
from then on. -/
theorem admission_last_word_on_greeting :
    let settings : Settings := { relayUrl := "relay.example", capacity := 1, writeBehind := false }
    let site : Site Deployment := { backend := { clock := .standing 7000 } }
    let service : Service :=
      ⟨policiesOf settings { registrar := forOne optOutStream }, none, some 0⟩
    let after : Site Deployment :=
      { backend := { memory := { calls := 2 }, clock := .standing 7000 } }
    let request := Request.ofEvent { plainRequest "alice" with content := "GM from ws, goodbye" }
    let verdict := decide request service.policies after
    start settings site = (.ok service, after) ∧
      verdict.reply = .reject "alice" refusalText ∧
      (decide request verdict.policy verdict.site).reply.action = .shadowReject := by
  intro settings site service after request verdict
  have success : start settings site = (.ok service, after) := by
    have built : ofSettings { relayScope := "relay.example", roster := { capacity := 1 } } =
        .ok (forOne optOutStream) := rfl
    have valid : ofSettings settings.registrar = .ok (forOne optOutStream) := built
    rw [start_eq valid, if_neg (by decide)]
    rfl
  obtain ⟨answered, _⟩ := admission_last_word success
  have first := answered service.policies .started request after
  have stranger : request.event.pubkey ∉ remembered service.policies := List.not_mem_nil
  have refused : Refuses settings request.event :=
    ⟨rfl, .inr (.inl ⟨"GM from ws", by decide, by decide⟩)⟩
  obtain ⟨_, _, _, _, joined⟩ := first.recorded stranger rfl
    ⟨⟨"relay.example"⟩, by decide +kernel, by decide +kernel⟩
  have second := answered verdict.policy (.decided .started request after) request verdict.site
  exact ⟨success, first.refused stranger refused, second.silenced.2 joined⟩

end Service

end OptOut
