import OptOut.Proofs.Addressing
import OptOut.Proofs.Roster
import OptOut.Registrar

/-!
# What a registrar decides

A decision falls into one of three cases, and each of them says what is replied and what is
remembered afterwards. Only the remembered senders, the event and the scope enter into it. A
registrar is reachable if it was built from valid settings and then loaded and asked any number of
times, over any backends.
-/

namespace OptOut

def Outcome.isRegistered : Outcome → Bool
  | registered _ _ _ => true
  | _ => false

/-- An event concerns a relay only if it names the relay or all relays. -/
theorem Scope.target_named {scope : Scope} {event : Event}
    (concerned : (scope.target? event).isSome = true) :
    ∃ name ∈ event.valuesOf addressTag,
      Text.normalize name = everyRelay ∨ Text.normalize name = scope.name := by
  simp only [Scope.target_eq, List.mem_map] at concerned
  split at concerned
  · rename_i every
    obtain ⟨name, held, same⟩ := every
    exact ⟨name, held, .inl same⟩
  · split at concerned
    · rename_i own
      obtain ⟨name, held, same⟩ := own
      exact ⟨name, held, .inr same⟩
    · exact nomatch concerned

theorem RegistrarSettings.check_scope {settings : RegistrarSettings} {scope : Scope}
    (check : settings.check = .ok scope) : Scope.ofText? settings.relayScope = some scope := by
  simp only [RegistrarSettings.check] at check
  split at check
  · exact nomatch check
  · rename_i named
    split at check
    · exact nomatch check
    · by_cases blank : Text.blank settings.streamKey = true
      · rw [if_pos blank] at check
        exact nomatch check
      · by_cases zero : settings.appendTimeout = 0
        · rw [if_neg blank, if_pos zero] at check
          exact nomatch check
        · rw [if_neg blank, if_neg zero] at check
          obtain rfl := Except.ok.inj check
          exact named

theorem RegistrarSettings.check_roster {settings : RegistrarSettings} {scope : Scope}
    (check : settings.check = .ok scope) : settings.roster.check = .ok () := by
  simp only [RegistrarSettings.check] at check
  split at check
  · exact nomatch check
  · split at check
    · exact nomatch check
    · assumption

namespace Registrar

def Qualifies (registrar : Registrar) (event : Event) : Prop :=
  event.kind = optOutKind ∧ (registrar.scope.target? event).isSome = true

variable {β : Type} [Backend β]

def counted (registrar : Registrar) : Registrar :=
  { registrar with decisions := registrar.decisions + 1 }

/-- All that a decision can be: a refusal of a remembered sender, an event that is let pass and
leaves no trace, or a request that is recorded. -/
theorem decide_cases (registrar : Registrar) (event : Event) (backend : β) :
    (registrar.roster.has event.pubkey = true ∧
      registrar.decide event backend =
        ⟨⟨.shadowReject event.id, .alreadyVanished⟩,
          { registrar.counted with shadowRejected := registrar.shadowRejected + 1 },
          backend, []⟩) ∨
    (registrar.roster.has event.pubkey = false ∧ ¬registrar.Qualifies event ∧
      ∃ outcome, (outcome = .noRequest ∨ outcome = .elsewhere) ∧
        registrar.decide event backend =
          ⟨⟨.accept event.id, outcome⟩, registrar.counted, backend, []⟩) ∨
    (registrar.roster.has event.pubkey = false ∧ event.kind = optOutKind ∧
      ∃ target, registrar.scope.target? event = some target ∧
        registrar.decide event backend =
          ⟨⟨.accept event.id, (registrar.counted.register event target backend).answer⟩,
            (registrar.counted.register event target backend).state,
            (registrar.counted.register event target backend).backend,
            (registrar.counted.register event target backend).log⟩) := by
  cases known : registrar.roster.has event.pubkey with
  | true =>
      refine .inl ⟨rfl, ?_⟩
      simp only [decide, known, if_true, counted]
  | false =>
      refine .inr ?_
      by_cases kind : event.kind = optOutKind
      · cases target : registrar.scope.target? event with
        | none =>
            refine .inl ⟨rfl, ?_, .elsewhere, .inr rfl, ?_⟩
            · simp [Qualifies, target]
            · simp [decide, known, kind, target, counted]
        | some target' =>
            refine .inr ⟨rfl, kind, target', rfl, ?_⟩
            simp [decide, known, kind, target, counted]
      · refine .inl ⟨rfl, fun qualifies => kind qualifies.1, .noRequest, .inl rfl, ?_⟩
        simp [decide, known, kind, counted]

/-! ## Recording -/

theorem register_answer (registrar : Registrar) (event : Event) (target : Target) (backend : β) :
    ∃ streamId replicated, (registrar.register event target backend).answer =
      .registered target streamId replicated :=
  ⟨_, _, rfl⟩

theorem register_roster (registrar : Registrar) (event : Event) (target : Target) (backend : β) :
    ∃ between : β, (registrar.register event target backend).state.roster =
      (registrar.roster.add event.pubkey between).state :=
  ⟨_, rfl⟩

/-! ## Decisions -/

variable {registrar : Registrar} {event : Event}

theorem decide_remembered (known : registrar.roster.has event.pubkey = true) (backend : β) :
    (registrar.decide event backend).answer = ⟨.shadowReject event.id, .alreadyVanished⟩ := by
  simp only [decide, known, if_true]

theorem decide_stranger (stranger : registrar.roster.has event.pubkey = false) (backend : β) :
    (registrar.decide event backend).answer.reply = .accept event.id ∧
      (registrar.decide event backend).answer.outcome ≠ .alreadyVanished ∧
      ((registrar.decide event backend).answer.outcome.isRegistered = true ↔
        registrar.Qualifies event) := by
  rcases decide_cases registrar event backend with ⟨known, _⟩ |
    ⟨_, unqualified, outcome, noneOfBoth, turn⟩ | ⟨_, kind, target, addressed, turn⟩
  · exact absurd known (by simp [stranger])
  · rw [turn]
    refine ⟨rfl, ?_, ?_⟩
    · rcases noneOfBoth with rfl | rfl <;> simp
    · rcases noneOfBoth with rfl | rfl <;> simp [Outcome.isRegistered, unqualified]
  · obtain ⟨streamId, replicated, answer⟩ :=
      register_answer registrar.counted event target backend
    rw [turn]
    refine ⟨rfl, ?_, ?_⟩
    · simp [answer]
    · simp [answer, Outcome.isRegistered, Qualifies, kind, addressed]

theorem decide_order (coherent : registrar.roster.Coherent) (event : Event) (backend : β) :
    (registrar.decide event backend).state.roster.order =
      if (registrar.decide event backend).answer.outcome.isRegistered then
        (registrar.roster.order ++ [event.pubkey]).rtake registrar.roster.room
      else registrar.roster.order := by
  rcases decide_cases registrar event backend with ⟨_, turn⟩ |
    ⟨_, _, outcome, noneOfBoth, turn⟩ | ⟨stranger, _, target, _, turn⟩
  · rw [turn]
    rfl
  · rw [turn]
    rcases noneOfBoth with rfl | rfl <;> rfl
  · obtain ⟨streamId, replicated, answer⟩ :=
      register_answer registrar.counted event target backend
    obtain ⟨between, roster⟩ := register_roster registrar.counted event target backend
    rw [turn]
    simp only [answer, roster, Outcome.isRegistered, if_true]
    exact Roster.add_order coherent stranger between

theorem decide_coherent (coherent : registrar.roster.Coherent) (event : Event) (backend : β) :
    (registrar.decide event backend).state.roster.Coherent := by
  rcases decide_cases registrar event backend with ⟨_, turn⟩ | ⟨_, _, _, _, turn⟩ |
    ⟨_, _, target, _, turn⟩
  · rw [turn]
    exact coherent
  · rw [turn]
    exact coherent
  · obtain ⟨between, roster⟩ := register_roster registrar.counted event target backend
    rw [turn]
    simp only [roster]
    exact coherent.add event.pubkey between

theorem silenced_remembered {backend : β}
    (silenced : (registrar.decide event backend).answer.reply.action = .shadowReject) :
    registrar.roster.has event.pubkey = true := by
  by_contra stranger
  have accepted := (decide_stranger (Bool.not_eq_true _ ▸ stranger) backend).1
  rw [accepted] at silenced
  exact nomatch silenced

theorem registered_qualifies {backend : β}
    (registered : (registrar.decide event backend).answer.outcome.isRegistered = true) :
    registrar.Qualifies event := by
  cases known : registrar.roster.has event.pubkey with
  | true =>
      rw [decide_remembered known] at registered
      exact nomatch registered
  | false => exact (decide_stranger known backend).2.2.1 registered

/-- Nobody joins the remembered senders but the sender of a request that is recorded. -/
theorem decide_joins (coherent : registrar.roster.Coherent) {backend : β} {sender : Sender}
    (held : sender ∈ (registrar.decide event backend).state.roster.order) :
    sender ∈ registrar.roster.order ∨ sender = event.pubkey ∧
      (registrar.decide event backend).answer.outcome.isRegistered = true := by
  rw [decide_order coherent] at held
  split at held
  · rename_i registered
    have joined := (rtake_suffix _ _).subset held
    rcases List.mem_append.1 joined with before | new
    · exact .inl before
    · exact .inr ⟨List.mem_singleton.1 new, registered⟩
  · exact .inl held

/-- A decision leaves alone all that was set up. -/
theorem decide_keeps (registrar : Registrar) (event : Event) (backend : β) :
    let after := (registrar.decide event backend).state
    after.scope = registrar.scope ∧ after.streamKey = registrar.streamKey ∧
      after.roster.settings = registrar.roster.settings ∧
      after.roster.writer = registrar.roster.writer := by
  rcases decide_cases registrar event backend with ⟨_, turn⟩ | ⟨_, _, _, _, turn⟩ |
    ⟨_, _, target, _, turn⟩
  · rw [turn]
    exact ⟨rfl, rfl, rfl, rfl⟩
  · rw [turn]
    exact ⟨rfl, rfl, rfl, rfl⟩
  · obtain ⟨between, roster⟩ := register_roster registrar.counted event target backend
    rw [turn]
    simp only [roster, Roster.add_settings, Roster.add_writer]
    exact ⟨rfl, rfl, rfl, rfl⟩

@[simp]
theorem decide_scope (registrar : Registrar) (event : Event) (backend : β) :
    (registrar.decide event backend).state.scope = registrar.scope :=
  (registrar.decide_keeps event backend).1

@[simp]
theorem decide_stream_key (registrar : Registrar) (event : Event) (backend : β) :
    (registrar.decide event backend).state.streamKey = registrar.streamKey :=
  (registrar.decide_keeps event backend).2.1

@[simp]
theorem decide_settings (registrar : Registrar) (event : Event) (backend : β) :
    (registrar.decide event backend).state.roster.settings = registrar.roster.settings :=
  (registrar.decide_keeps event backend).2.2.1

@[simp]
theorem decide_writer (registrar : Registrar) (event : Event) (backend : β) :
    (registrar.decide event backend).state.roster.writer = registrar.roster.writer :=
  (registrar.decide_keeps event backend).2.2.2

@[simp]
theorem decide_room (registrar : Registrar) (event : Event) (backend : β) :
    (registrar.decide event backend).state.roster.room = registrar.roster.room := by
  rw [Roster.room, decide_settings, Roster.room]

/-! ## Reachable registrars -/

/-- The registrars that a process can come to have, whatever stands behind them at each moment. -/
inductive Reachable : Registrar → Prop where
  | built {settings : RegistrarSettings} {registrar : Registrar}
      (valid : ofSettings settings = .ok registrar) : Reachable registrar
  | queueing {registrar : Registrar} (prior : Reachable registrar) (writer : WriterId) :
      Reachable (registrar.withWriter writer)
  | loaded {registrar : Registrar} (prior : Reachable registrar) {γ : Type} [Backend γ]
      (backend : γ) : Reachable (registrar.load backend).state
  | decided {registrar : Registrar} (prior : Reachable registrar) {γ : Type} [Backend γ]
      (event : Event) (backend : γ) : Reachable (registrar.decide event backend).state

theorem of_settings_eq {settings : RegistrarSettings} (valid : ofSettings settings = .ok registrar) :
    ∃ scope, settings.check = .ok scope ∧ registrar =
      { scope, streamKey := settings.streamKey, appendTimeout := settings.appendTimeout,
        roster := { settings := settings.roster } } := by
  cases check : settings.check with
  | error fault => simp [ofSettings, check, Except.map] at valid
  | ok scope =>
      refine ⟨scope, rfl, ?_⟩
      simpa [ofSettings, check, Except.map, eq_comm] using valid

theorem Reachable.coherent (reachable : registrar.Reachable) : registrar.roster.Coherent := by
  induction reachable with
  | built valid =>
      obtain ⟨scope, _, rfl⟩ := of_settings_eq valid
      exact Roster.empty_coherent _
  | queueing _ writer induction => exact induction.transfer rfl rfl rfl
  | loaded _ backend induction => exact induction.load backend
  | decided _ event backend induction => exact decide_coherent induction event backend

theorem Reachable.room_pos (reachable : registrar.Reachable) : 0 < registrar.roster.room := by
  induction reachable with
  | built valid =>
      obtain ⟨scope, check, rfl⟩ := of_settings_eq valid
      exact RosterSettings.capacity_pos (RegistrarSettings.check_roster check)
  | queueing _ _ induction => exact induction
  | loaded _ backend induction =>
      rw [Roster.room, load, Roster.load_settings]
      exact induction
  | decided _ event backend induction =>
      rw [decide_room]
      exact induction

def plainRequest (sender : Sender) : Event :=
  { id := sender, pubkey := sender, kind := optOutKind, createdAt := 0
    tags := [.ofPair addressTag everyRelay], content := "", sig := none }

def forOne (streamKey : String) : Registrar :=
  { scope := ⟨"relay.example"⟩, streamKey, appendTimeout := 500
    roster := { settings := { capacity := 1 } } }

end Registrar

end OptOut
