import OptOut.Proofs.Registrar
import OptOut.Service

/-!
# Decisions do not depend on persistence

Two services that remember the same senders in the same order, under the same scope, capacity and
admission rules, give the same replies to the same requests and go on remembering the same senders.
Nothing is assumed of what stands behind either of them: the stores, clocks and writers may do
anything, of their own accord between two requests as well.
-/

namespace OptOut

namespace Registrar

/-- Registrars that rest on different things, but know the same. -/
structure Alike (first second : Registrar) : Prop where
    scope : first.scope = second.scope
    room : first.roster.room = second.roster.room
    order : first.roster.order = second.roster.order
    coherent : first.roster.Coherent
    coherent' : second.roster.Coherent

theorem Alike.has {first second : Registrar} (alike : first.Alike second) (sender : Sender) :
    first.roster.has sender = second.roster.has sender :=
  alike.coherent.has_eq alike.coherent' alike.order sender

variable {β γ : Type} [Backend β] [Backend γ]

theorem Alike.decide {first second : Registrar} (alike : first.Alike second) (event : Event)
    (backend : β) (backend' : γ) :
    (first.decide event backend).answer.reply = (second.decide event backend').answer.reply ∧
      (first.decide event backend).state.Alike (second.decide event backend').state := by
  have same := alike.has event.pubkey
  have answers : (first.decide event backend).answer.reply =
      (second.decide event backend').answer.reply ∧
      (first.decide event backend).answer.outcome.isRegistered =
        (second.decide event backend').answer.outcome.isRegistered := by
    cases known : first.roster.has event.pubkey with
    | true =>
        rw [decide_remembered known, decide_remembered (same ▸ known)]
        exact ⟨rfl, rfl⟩
    | false =>
        obtain ⟨reply, _, recorded⟩ := decide_stranger known backend
        obtain ⟨reply', _, recorded'⟩ := decide_stranger (same ▸ known) backend'
        refine ⟨reply.trans reply'.symm, ?_⟩
        rw [Bool.eq_iff_iff, recorded, recorded', Qualifies, Qualifies, alike.scope]
  refine ⟨answers.1, ?_, ?_, ?_, ?_, ?_⟩
  · rw [decide_scope, decide_scope, alike.scope]
  · rw [decide_room, decide_room, alike.room]
  · rw [decide_order alike.coherent, decide_order alike.coherent', answers.2, alike.order,
      alike.room]
  · exact decide_coherent alike.coherent event backend
  · exact decide_coherent alike.coherent' event backend'

end Registrar

/-! ## Policies -/

theorem MeteredRegistrar.count_failures_registrar (policy : MeteredRegistrar) (failures : Nat)
    (metrics : Metrics) : (policy.countFailures failures metrics).1.registrar = policy.registrar := by
  unfold countFailures
  split <;> rfl

/-- Policies that give the same answers, as far as persistence goes. -/
inductive StandardPolicy.Alike : StandardPolicy → StandardPolicy → Prop where
  | constant (policy : ConstantPolicy) : Alike (.constant policy) (.constant policy)
  | admission (rules : AdmissionRules) : Alike (.admission rules) (.admission rules)
  | registrar {first second : MeteredRegistrar} (alike : first.registrar.Alike second.registrar) :
      Alike (.registrar first) (.registrar second)

variable {β γ : Type} [Backend β] [Backend γ]

theorem StandardPolicy.Alike.decide {first second : StandardPolicy} (alike : first.Alike second)
    (request : Request) (site : Site β) (site' : Site γ) :
    (first.decide request site).reply = (second.decide request site').reply ∧
      (first.decide request site).policy.Alike (second.decide request site').policy := by
  cases alike with
  | constant policy => exact ⟨rfl, .constant _⟩
  | admission rules => exact ⟨rfl, .admission rules⟩
  | @registrar first second alike =>
      obtain ⟨reply, next⟩ := alike.decide request.event site.backend site'.backend
      refine ⟨reply, .registrar ?_⟩
      simp only [MeteredRegistrar.decide, MeteredRegistrar.count_failures_registrar]
      exact next

namespace PolicyChain

section

variable {π β : Type} [Policy π β] {request : Request} {policy : π} {rest : List π} {site : Site β}

theorem decide_accepting (accepted : (Policy.decide request policy site).reply.isAccept = true) :
    let verdict := Policy.decide request policy site
    let later := decide request rest verdict.site
    decide request (policy :: rest) site =
      ⟨later.reply, verdict.policy :: later.policy, later.site⟩ := by
  simp only [decide, accepted, if_true]

theorem decide_objecting (objected : (Policy.decide request policy site).reply.isAccept = false) :
    let verdict := Policy.decide request policy site
    decide request (policy :: rest) site =
      ⟨verdict.reply, verdict.policy :: rest, verdict.site⟩ := by
  simp only [decide, objected, Bool.false_eq_true, if_false]

end

/-- Answers requests in turn, before each of which the site may have changed in any way. Tells each
reply, with the policies after it. -/
def follow {π : Type} [Policy π β] :
    List π → Site β → List (Request × (Site β → Site β)) → List (Reply × List π)
  | _, _, [] => []
  | policies, site, (request, meanwhile) :: rest =>
    let verdict := decide request policies (meanwhile site)
    (verdict.reply, verdict.policy) :: follow verdict.policy verdict.site rest

def remembered : List StandardPolicy → List Sender
  | [] => []
  | .registrar policy :: _ => policy.registrar.roster.order
  | _ :: rest => remembered rest

/-- What can be told of a run without looking at the stores. -/
def observed (steps : List (Reply × List StandardPolicy)) : List (Reply × List Sender) :=
  steps.map fun (reply, policies) => (reply, remembered policies)

variable {chain chain' : List StandardPolicy}

theorem remembered_of_alike (alike : chain.Forall₂ StandardPolicy.Alike chain') :
    remembered chain = remembered chain' := by
  induction alike with
  | nil => rfl
  | cons first _ induction =>
      cases first with
      | constant policy => exact induction
      | admission rules => exact induction
      | registrar alike => exact alike.order

theorem decide_of_alike (alike : chain.Forall₂ StandardPolicy.Alike chain') (request : Request)
    (site : Site β) (site' : Site γ) :
    (decide request chain site).reply = (decide request chain' site').reply ∧
      (decide request chain site).policy.Forall₂ StandardPolicy.Alike
        (decide request chain' site').policy := by
  induction alike generalizing site site' with
  | nil => exact ⟨rfl, .nil⟩
  | @cons policy policy' rest rest' first later induction =>
      obtain ⟨reply, next⟩ := first.decide request site site'
      obtain ⟨lastReply, last⟩ := induction (policy.decide request site).site
        (policy'.decide request site').site
      simp only [decide, Policy.decide]
      rw [← reply]
      split
      · exact ⟨lastReply, .cons next last⟩
      · exact ⟨rfl, .cons next later⟩

theorem observed_of_alike (alike : chain.Forall₂ StandardPolicy.Alike chain')
    {visits : List (Request × (Site β → Site β))} {visits' : List (Request × (Site γ → Site γ))}
    (same : visits.map Prod.fst = visits'.map Prod.fst) (site : Site β) (site' : Site γ) :
    observed (follow chain site visits) = observed (follow chain' site' visits') := by
  induction visits generalizing chain chain' visits' site site' with
  | nil =>
      cases visits' with
      | nil => rfl
      | cons visit' rest' => simp at same
  | cons visit rest induction =>
      cases visits' with
      | nil => simp at same
      | cons visit' rest' =>
          obtain ⟨request, meanwhile⟩ := visit
          obtain ⟨request', meanwhile'⟩ := visit'
          obtain ⟨rfl, others⟩ := List.cons.inj same
          obtain ⟨reply, next⟩ := decide_of_alike alike request (meanwhile site) (meanwhile' site')
          have later := induction next others
            (decide request chain (meanwhile site)).site
            (decide request chain' (meanwhile' site')).site
          simp only [follow, observed, List.map_cons] at later ⊢
          rw [reply, remembered_of_alike next, later]

end PolicyChain

namespace Service

theorem policies_alike {first second : Registrar} (alike : first.Alike second)
    {settings settings' : Settings}
    (admission : settings.admissionControl = settings'.admissionControl) (reported reported' : Nat) :
    (policiesOf settings ⟨first, reported⟩).Forall₂ StandardPolicy.Alike
      (policiesOf settings' ⟨second, reported'⟩) := by
  refine .cons (.registrar alike) ?_
  rw [admission]
  split
  · exact .cons (.admission {}) .nil
  · exact .nil

open PolicyChain in
/-- Whatever their stores, clocks and writers do, at whichever moment, two default services that
remember the same senders reply the same to every request and remember the same senders after it. -/
theorem replies_independent_of_persistence {first second : Registrar}
    (reachable : first.Reachable) (reachable' : second.Reachable)
    (scope : first.scope = second.scope)
    (capacity : first.roster.settings.capacity = second.roster.settings.capacity)
    (order : first.roster.order = second.roster.order)
    {settings settings' : Settings}
    (admission : settings.admissionControl = settings'.admissionControl)
    {visits : List (Request × (Site β → Site β))} {visits' : List (Request × (Site γ → Site γ))}
    (requests : visits.map Prod.fst = visits'.map Prod.fst)
    (reported reported' : Nat) (site : Site β) (site' : Site γ) :
    observed (follow (policiesOf settings ⟨first, reported⟩) site visits) =
      observed (follow (policiesOf settings' ⟨second, reported'⟩) site' visits') := by
  have room : first.roster.room = second.roster.room := by
    rw [Roster.room, capacity, Roster.room]
  have alike : first.Alike second :=
    ⟨scope, room, order, reachable.coherent, reachable'.coherent⟩
  exact observed_of_alike (policies_alike alike admission reported reported') requests site site'

open PolicyChain Registrar in
/-- A service that queues its replica writes for a writer nobody runs, and whose stores are down,
replies like one that has everything it needs. -/
theorem replies_independent_of_outage :
    let outage : Conditions := { sortedSetUp := false, streamUp := false }
    let down : Site Deployment :=
      { backend := { memory := { conditions := fun _ => outage }, clock := .standing 7000 } }
    let visits : List (Request × (Site Deployment → Site Deployment)) :=
      [(.ofEvent (plainRequest "alice"), id), (.ofEvent (plainRequest "bob"), id),
        (.ofEvent (plainRequest "bob"), id)]
    let admitting : Settings := { relayUrl := "relay.example" }
    observed (follow (policiesOf admitting ⟨(forOne "others").withWriter 0, 0⟩) down visits) =
      [(.accept "alice", ["alice"]), (.accept "bob", ["bob"]), (.shadowReject "bob", ["bob"])] := by
  intro outage down visits admitting
  have built : ofSettings { relayScope := "relay.example", roster := { capacity := 1 } } =
      .ok (forOne optOutStream) := rfl
  have built' : ofSettings
      { relayScope := "relay.example", streamKey := "others", roster := { capacity := 1 } } =
      .ok (forOne "others") := rfl
  have same := replies_independent_of_persistence ((Reachable.built built').queueing 0)
    (.built built) rfl rfl rfl (rfl : admitting.admissionControl = admitting.admissionControl)
    (rfl : visits.map Prod.fst = visits.map Prod.fst) 0 0 down
    { backend := { clock := .standing 0 } }
  exact same.trans (by decide +kernel)

end Service

end OptOut
