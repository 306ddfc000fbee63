import OptOut.Proofs.Independence

/-!
# Chains in series

Two chains one behind the other act as one chain of both: the second is asked about what the first
accepts, and rests otherwise. What a policy is asked about in the course of a run is told by keeping
an audit beside it, which changes no reply. Nothing is assumed of the policies: they may remember
anything, and reply anything.
-/

namespace OptOut

section

variable {π : Type} (β : Type) [Policy π β]

/-- The states a policy can come to, whatever it is asked and finds. -/
inductive Policy.Comes (policy : π) : π → Prop where
  | start : Comes policy policy
  | decided {state : π} (prior : Comes policy state) (request : Request) (site : Site β) :
      Comes policy (Policy.decide request state site).policy

def Policy.Echoes (policy : π) : Prop :=
  ∀ state, Comes β policy state → ∀ (request : Request) (site : Site β),
    (Policy.decide request state site).reply.id = request.event.id

variable {β}

theorem Policy.Echoes.decided {policy : π} (echoes : Echoes β policy) (request : Request)
    (site : Site β) : Echoes β (Policy.decide request policy site).policy := by
  intro state comes
  refine echoes state ?_
  induction comes with
  | start => exact .decided .start request site
  | decided _ request' site' induction => exact induction.decided request' site'

end

structure Audited (π : Type) where
    policy : π
    seen : List Request := []

instance {π β : Type} [Policy π β] : Policy (Audited π) β where
  decide request audited site :=
    let verdict := Policy.decide request audited.policy site
    ⟨verdict.reply, ⟨verdict.policy, audited.seen ++ [request]⟩, verdict.site⟩

namespace PolicyChain

abbrev Arrival (β : Type) := Request × Site β

variable {π β : Type} [Policy π β]

/-- Every policy accepts the request, each on the site that the one before it leaves. -/
def Passes (request : Request) : List π → Site β → Prop
  | [], _ => True
  | policy :: rest, site =>
    let verdict := Policy.decide request policy site
    verdict.reply.isAccept = true ∧ Passes request rest verdict.site

def after (policies : List π) (arrivals : List (Arrival β)) : List π :=
  arrivals.foldl (fun policies arrival => (decide arrival.1 policies arrival.2).policy) policies

def passedOn : List π → List (Arrival β) → List (Arrival β)
  | _, [] => []
  | policies, (request, site) :: rest =>
    let verdict := decide request policies site
    let later := passedOn verdict.policy rest
    if verdict.reply.isAccept then (request, verdict.site) :: later else later

def audit (policies : List π) : List (Audited π) :=
  policies.map fun policy => { policy }

/-- What the policy at a position was asked about in the course of a run. -/
def seen (policies : List π) (arrivals : List (Arrival β)) (position : Nat) :
    Option (List Request) :=
  (after (audit policies) arrivals)[position]?.map Audited.seen

/-! ## One request -/

section

variable {request : Request} {policies : List π} {site : Site β}

theorem decide_append (first second : List π) (request : Request) (site : Site β) :
    let passed := decide request first site
    let later := decide request second passed.site
    decide request (first ++ second) site =
      if passed.reply.isAccept then ⟨later.reply, passed.policy ++ later.policy, later.site⟩
      else ⟨passed.reply, passed.policy ++ second, passed.site⟩ := by
  induction first generalizing site with
  | nil => rfl
  | cons policy rest induction =>
      cases accepted : (Policy.decide request policy site).reply.isAccept with
      | true =>
          rw [List.cons_append, decide_accepting accepted, decide_accepting accepted, induction]
          dsimp only
          split <;> rfl
      | false =>
          rw [List.cons_append, decide_objecting accepted, decide_objecting accepted]
          exact (if_neg (by rw [accepted]; decide)).symm

theorem decide_length (request : Request) (policies : List π) (site : Site β) :
    (decide request policies site).policy.length = policies.length := by
  induction policies generalizing site with
  | nil => rfl
  | cons policy rest induction =>
      simp only [decide]
      split
      · exact congrArg Nat.succ (induction _)
      · rfl

theorem reply_of_passes (passes : Passes request policies site) :
    (decide request policies site).reply = .accept request.event.id := by
  induction policies generalizing site with
  | nil => rfl
  | cons policy rest induction =>
      rw [decide_accepting passes.1]
      exact induction passes.2

/-- A chain refuses with the reply of the first policy that does. -/
theorem exists_objection (stopped : ¬Passes request policies site) :
    ∃ front policy behind, policies = front ++ policy :: behind ∧ Passes request front site ∧
      let passed := decide request front site
      let objection := Policy.decide request policy passed.site
      objection.reply.isAccept = false ∧ decide request policies site =
        ⟨objection.reply, passed.policy ++ objection.policy :: behind, objection.site⟩ := by
  induction policies generalizing site with
  | nil => exact absurd trivial stopped
  | cons policy rest induction =>
      cases accepted : (Policy.decide request policy site).reply.isAccept with
      | true =>
          have later : ¬Passes request rest (Policy.decide request policy site).site :=
            fun passes => stopped ⟨accepted, passes⟩
          obtain ⟨front, objecting, behind, split, passes, objected, verdict⟩ := induction later
          refine ⟨policy :: front, objecting, behind, congrArg _ split, ⟨accepted, passes⟩, ?_⟩
          rw [decide_accepting accepted, decide_accepting accepted, verdict]
          exact ⟨objected, rfl⟩
      | false =>
          refine ⟨[], policy, rest, rfl, trivial, accepted, ?_⟩
          rw [decide_objecting accepted]
          rfl

theorem passes_iff :
    Passes request policies site ↔ (decide request policies site).reply.isAccept = true := by
  refine ⟨fun passes => congrArg Reply.isAccept (reply_of_passes passes), fun accepted => ?_⟩
  by_contra stopped
  obtain ⟨_, _, _, _, _, objected, verdict⟩ := exists_objection stopped
  rw [verdict, objected] at accepted
  exact Bool.false_ne_true accepted

theorem decide_echoes (echo : ∀ policy ∈ policies, Policy.Echoes β policy) (request : Request)
    (site : Site β) :
    (decide request policies site).reply.id = request.event.id ∧
      ∀ policy ∈ (decide request policies site).policy, Policy.Echoes β policy := by
  induction policies generalizing site with
  | nil => exact ⟨rfl, echo⟩
  | cons policy rest induction =>
      obtain ⟨first, others⟩ := List.forall_mem_cons.1 echo
      have next := first.decided request site
      cases accepted : (Policy.decide request policy site).reply.isAccept with
      | true =>
          obtain ⟨reply, later⟩ := induction others (Policy.decide request policy site).site
          rw [decide_accepting accepted]
          exact ⟨reply, List.forall_mem_cons.2 ⟨next, later⟩⟩
      | false =>
          rw [decide_objecting accepted]
          exact ⟨first policy .start request site, List.forall_mem_cons.2 ⟨next, others⟩⟩

theorem decide_audited (request : Request) (audited : List (Audited π)) (site : Site β) :
    let plain := decide request (audited.map Audited.policy) site
    let verdict := decide request audited site
    verdict.reply = plain.reply ∧ verdict.policy.map Audited.policy = plain.policy ∧
      verdict.site = plain.site := by
  induction audited generalizing site with
  | nil => exact ⟨rfl, rfl, rfl⟩
  | cons first rest induction =>
      obtain ⟨reply, policies, site'⟩ := induction (Policy.decide request first.policy site).site
      simp only [List.map_cons, decide, Policy.decide]
      split
      · exact ⟨reply, congrArg _ policies, site'⟩
      · exact ⟨rfl, rfl, rfl⟩

end

/-! ## Runs -/

theorem after_length (policies : List π) (arrivals : List (Arrival β)) :
    (after policies arrivals).length = policies.length := by
  induction arrivals generalizing policies with
  | nil => rfl
  | cons arrival rest induction => exact (induction _).trans (decide_length ..)

/-- Behind another chain, a chain goes through the requests that this one accepts, and no others. -/
theorem after_append (first second : List π) (arrivals : List (Arrival β)) :
    after (first ++ second) arrivals =
      after first arrivals ++ after second (passedOn first arrivals) := by
  induction arrivals generalizing first second with
  | nil => rfl
  | cons arrival rest induction =>
      obtain ⟨request, site⟩ := arrival
      have step := decide_append first second request site
      simp only [after, passedOn, List.foldl_cons] at step induction ⊢
      rw [step]
      split
      · exact induction ..
      · exact induction ..

theorem passed_on_concat (policies : List π) (arrivals : List (Arrival β)) (request : Request)
    (site : Site β) :
    let verdict := decide request (after policies arrivals) site
    passedOn policies (arrivals ++ [(request, site)]) =
      passedOn policies arrivals ++
        if verdict.reply.isAccept then [(request, verdict.site)] else [] := by
  induction arrivals generalizing policies with
  | nil => rfl
  | cons arrival rest induction =>
      have later := induction (decide arrival.1 policies arrival.2).policy
      simp only [passedOn, List.cons_append] at later ⊢
      rw [later]
      split <;> rfl

theorem after_echoes {policies : List π} (echo : ∀ policy ∈ policies, Policy.Echoes β policy)
    (arrivals : List (Arrival β)) : ∀ policy ∈ after policies arrivals, Policy.Echoes β policy := by
  induction arrivals generalizing policies with
  | nil => exact echo
  | cons arrival rest induction => exact induction (decide_echoes echo arrival.1 arrival.2).2

theorem after_audited (audited : List (Audited π)) (arrivals : List (Arrival β)) :
    (after audited arrivals).map Audited.policy = after (audited.map Audited.policy) arrivals := by
  induction arrivals generalizing audited with
  | nil => rfl
  | cons arrival rest induction =>
      obtain ⟨_, policies, _⟩ := decide_audited arrival.1 audited arrival.2
      exact (induction _).trans (congrArg (after · rest) policies)

theorem passed_on_audited (audited : List (Audited π)) (arrivals : List (Arrival β)) :
    passedOn audited arrivals = passedOn (audited.map Audited.policy) arrivals := by
  induction arrivals generalizing audited with
  | nil => rfl
  | cons arrival rest induction =>
      obtain ⟨reply, policies, site⟩ := decide_audited arrival.1 audited arrival.2
      simp only [passedOn, induction, reply, policies, site]

theorem policies_of_audit (policies : List π) : (audit policies).map Audited.policy = policies := by
  rw [audit, List.map_map]
  exact List.map_id _

/-- The policy in front is asked about everything. -/
theorem front_sees (audited : Audited π) (rest : List (Audited π)) (arrivals : List (Arrival β)) :
    (after (audited :: rest) arrivals).head?.map Audited.seen =
      some (audited.seen ++ arrivals.map Prod.fst) := by
  induction arrivals generalizing audited rest with
  | nil => exact congrArg some (List.append_nil _).symm
  | cons arrival later induction =>
      obtain ⟨request, site⟩ := arrival
      have asked : ∃ others, (decide request (audited :: rest) site).policy =
          ⟨(Policy.decide request audited.policy site).policy, audited.seen ++ [request]⟩ ::
            others := by
        simp only [decide]
        split
        · exact ⟨_, rfl⟩
        · exact ⟨_, rfl⟩
      obtain ⟨others, asked⟩ := asked
      have step : after (audited :: rest) ((request, site) :: later) =
          after (decide request (audited :: rest) site).policy later := rfl
      rw [step, asked, induction, List.append_assoc]
      rfl

/-- A policy is asked about the requests that the policies before it accept. -/
theorem seen_eq (front : List π) (policy : π) (behind : List π) (arrivals : List (Arrival β)) :
    seen (front ++ policy :: behind) arrivals front.length =
      some ((passedOn front arrivals).map Prod.fst) := by
  have split : audit (front ++ policy :: behind) = audit front ++ { policy } :: audit behind :=
    List.map_append
  -- The policy is the first of those that go through what the chain before it accepts.
  have length : (after (audit front) arrivals).length = front.length := by
    rw [after_length, audit, List.length_map]
  have same : passedOn (audit front) arrivals = passedOn front arrivals := by
    rw [passed_on_audited, policies_of_audit]
  rw [seen, split, after_append, List.getElem?_append_right length.le, length, Nat.sub_self,
    ← List.head?_eq_getElem?, front_sees, same, List.nil_append]

/-- What a chain does at each moment of a run, and what its policies are asked about. -/
theorem stops_at_first_refusal (policies : List π) (arrivals : List (Arrival β))
    (request : Request) (site : Site β) :
    let now := after policies arrivals
    let verdict := decide request now site
    -- The chain is any first part of it in series with the rest.
    (∀ first second, policies = first ++ second →
      let front := after first arrivals
      let back := after second (passedOn first arrivals)
      let passed := decide request front site
      let later := decide request back passed.site
      now = front ++ back ∧
        verdict = if passed.reply.isAccept then
            ⟨later.reply, passed.policy ++ later.policy, later.site⟩
          else ⟨passed.reply, passed.policy ++ back, passed.site⟩) ∧
    -- It accepts what all policies accept, and refuses in the words of the first that does not.
    (Passes request now site → verdict.reply = .accept request.event.id) ∧
    (¬Passes request now site → ∃ front policy behind,
      now = front ++ policy :: behind ∧ Passes request front site ∧
        let passed := decide request front site
        let objection := Policy.decide request policy passed.site
        objection.reply.isAccept = false ∧ verdict =
          ⟨objection.reply, passed.policy ++ objection.policy :: behind, objection.site⟩) ∧
    -- An audit shows that a policy is asked once about what all policies before it accept.
    (after (audit policies) arrivals).map Audited.policy = now ∧
    (∀ front policy behind, policies = front ++ policy :: behind →
      seen policies arrivals front.length = some ((passedOn front arrivals).map Prod.fst) ∧
      (Passes request (after front arrivals) site →
        seen policies (arrivals ++ [(request, site)]) front.length =
          (seen policies arrivals front.length).map (· ++ [request])) ∧
      (¬Passes request (after front arrivals) site →
        seen policies (arrivals ++ [(request, site)]) front.length =
          seen policies arrivals front.length)) ∧
    ((∀ policy ∈ policies, Policy.Echoes β policy) → verdict.reply.id = request.event.id) := by
  intro now verdict
  refine ⟨?_, reply_of_passes, exists_objection, ?_, ?_, ?_⟩
  · rintro first second rfl
    intro front back passed later
    have parts : now = front ++ back := after_append first second arrivals
    refine ⟨parts, ?_⟩
    rw [← decide_append front back request site, ← parts]
  · rw [after_audited, policies_of_audit]
  · rintro front policy behind rfl
    refine ⟨seen_eq .., fun passes => ?_, fun stopped => ?_⟩
    · rw [seen_eq, seen_eq, passed_on_concat, if_pos (passes_iff.1 passes), List.map_append]
      rfl
    · have objected := mt passes_iff.2 stopped
      rw [seen_eq, seen_eq, passed_on_concat, if_neg objected, List.append_nil]
  · exact fun echo => (decide_echoes (after_echoes echo arrivals) request site).1

/-- Accepts a number of requests, with a word of its own on each, and none after them. -/
structure Quota where
    left : Nat
    refusal : String

instance {β : Type} : Policy Quota β where
  decide request quota site :=
    match quota.left with
    | 0 => ⟨.reject request.event.id quota.refusal, quota, site⟩
    | left + 1 => ⟨⟨request.event.id, .accept, "so far"⟩, { quota with left }, site⟩

theorem Quota.echoes (quota : Quota) : Policy.Echoes β quota := by
  rintro ⟨left, refusal⟩ _ request site
  cases left with
  | zero => rfl
  | succ left => rfl

open Registrar in
/-- The quota in front is used up first, and the one behind it is not asked any more. -/
theorem stops_at_first_refusal_by_quotas :
    let policies : List Quota := [⟨1, "one is enough"⟩, ⟨2, "two are enough"⟩]
    let site : Site Unit := { backend := () }
    let first : Request := .ofEvent (plainRequest "alice")
    let second : Request := .ofEvent (plainRequest "bob")
    (∀ policy ∈ policies, Policy.Echoes Unit policy) ∧
      (decide first policies site).reply = .accept "alice" ∧
      (decide second (after policies [(first, site)]) site).reply = .reject "bob" "one is enough" ∧
      (decide second (after policies [(first, site)]) site).reply.id = "bob" ∧
      seen policies [(first, site), (second, site)] 1 = some [first] := by
  intro policies site first second
  have echo : ∀ policy ∈ policies, Policy.Echoes Unit policy := fun policy _ => policy.echoes
  obtain ⟨_, accepted, _⟩ := stops_at_first_refusal policies [] first site
  obtain ⟨_, _, _, _, asked, echoed⟩ :=
    stops_at_first_refusal policies [(first, site)] second site
  obtain ⟨before, _, spared⟩ := asked [⟨1, "one is enough"⟩] ⟨2, "two are enough"⟩ [] rfl
  exact ⟨echo, accepted ⟨rfl, rfl, trivial⟩, rfl, echoed echo,
    (spared fun passes => nomatch passes.1).trans before⟩

end PolicyChain

end OptOut
