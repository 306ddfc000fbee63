import OptOut.Proofs.Admission
import OptOut.Proofs.Journal
import OptOut.Proofs.LoadOutcome

/-!
# How a service starts

Valid settings, a load that is served and the leave to start without one settle between them whether
a service starts and what it remembers then. Whether the replica can be counted and trimmed after
the load has no part in it. A service that remembers nobody because its load failed leaves the store
as it was, so that a later one finds in it whatever this one would have found.
-/

namespace OptOut

namespace Roster

variable (roster : Roster) (memory : Memory)

theorem load_unserved (failed : memory.lands roster.settings.storeTimeout memory.calls = false) :
    ∃ fault, roster.load memory = ⟨.error (.store fault), roster, memory.skip, []⟩ := by
  obtain ⟨fault, refused⟩ := Memory.range_failed failed roster.settings.replicaKey 0
    (roster.settings.capacity.toInt64 - 1)
  exact ⟨fault, load_refused roster memory refused⟩

/-- The number that a load tells is that of the senders it brings, whatever becomes of the calls
after the first. -/
theorem load_served (served : memory.lands roster.settings.storeTimeout memory.calls = true) :
    (roster.load memory).answer = .ok (roster.load memory).state.order.length := by
  have answered := Memory.range_served served roster.settings.replicaKey 0
    (roster.settings.capacity.toInt64 - 1)
  obtain ⟨answer, state, _⟩ := load_answered roster memory answered
  rw [answer, state]

end Roster

namespace Service

def loads (settings : Settings) (memory : Memory) : Bool :=
  memory.lands settings.storeTimeout memory.calls

def blankRoster (settings : Settings) (writer : Option WriterId) : Roster :=
  { settings := settings.registrar.roster, writer }

/-- What a service begins with before its load: a registrar that remembers nobody, and a writer if
one is wanted, the last of all. -/
structure Opened (settings : Settings) (deployment : Deployment) (scope : Scope)
    (writer : Option WriterId) (registrar : Registrar) (opened : Deployment) : Prop where
    scope : registrar.scope = scope
    streamKey : registrar.streamKey = optOutStream
    roster : registrar.roster = blankRoster settings writer
    memory : opened.memory = deployment.memory
    wanted : writer.isSome = settings.writeBehind
    writers : opened.crew.writers = deployment.crew.writers ++
      (writer.map fun id => (id, { limit := settings.storeTimeout })).toList

structure Started (settings : Settings) (before after : Deployment) (service : Service)
    (registrar : Registrar) : Prop where
    policies : service.policies = policiesOf settings { registrar }
    scope : settings.registrar.check = .ok registrar.scope
    streamKey : registrar.streamKey = optOutStream
    coherent : registrar.roster.Coherent
    loaded : service.loaded =
      if loads settings before.memory then some registrar.roster.order.length else none
    members : loads settings before.memory = true →
      let roster := blankRoster settings service.writer
      let replica := roster.replica before.memory
      roster.Countable before.memory →
        registrar.roster.order = replica.members.rtake (roster.reach replica.size)
    /-- A service that starts without its senders was allowed to. -/
    cold : loads settings before.memory = false → settings.allowColdStart = true ∧
      registrar.roster.order = [] ∧ (∀ sender, registrar.roster.has sender = false) ∧
        after.memory.contents = before.memory.contents
    wanted : service.writer.isSome = settings.writeBehind
    writers : after.crew.writers = before.crew.writers ++
      (service.writer.map fun id => (id, { limit := settings.storeTimeout })).toList

variable {settings : Settings} {site : Site Deployment}

theorem start_invalid {fault : RegistrarFault} (invalid : settings.registrar.check = .error fault)
    (site : Site Deployment) : start settings site = (.error (.settings fault), site) := by
  simp only [start, Registrar.ofSettings, invalid, Except.map]

theorem start_opening {scope : Scope} (valid : settings.registrar.check = .ok scope)
    (site : Site Deployment) : ∃ writer registrar opened,
      Opened settings site.backend scope writer registrar opened ∧
        start settings site = assemble settings writer (registrar.load opened) site := by
  let registrar : Registrar :=
    { scope, streamKey := optOutStream, appendTimeout := settings.storeTimeout
      roster := blankRoster settings none }
  have built : Registrar.ofSettings settings.registrar = .ok registrar := by
    rw [Registrar.ofSettings, valid]
    rfl
  rw [start_eq built]
  cases queueing : settings.writeBehind with
  | true =>
      let hired := site.backend.startWriter settings.storeTimeout
      exact ⟨some hired.1, registrar.withWriter hired.1, hired.2,
        ⟨rfl, rfl, rfl, rfl, queueing.symm, rfl⟩, rfl⟩
  | false =>
      exact ⟨none, registrar, site.backend,
        ⟨rfl, rfl, rfl, rfl, queueing.symm, (List.append_nil _).symm⟩, rfl⟩

theorem assemble_answered {writer : Option WriterId} {count : Nat}
    {turn : Turn (Except RosterFault Nat) Registrar Deployment} (answer : turn.answer = .ok count)
    (settings : Settings) (site : Site Deployment) :
    ∃ after, after.backend = turn.backend ∧ assemble settings writer turn site =
      (.ok ⟨policiesOf settings { registrar := turn.state }, writer, some count⟩, after) := by
  simp only [assemble, answer]
  exact ⟨_, rfl, rfl⟩

theorem assemble_cold {writer : Option WriterId} {fault : RosterFault}
    {turn : Turn (Except RosterFault Nat) Registrar Deployment}
    (answer : turn.answer = .error fault)
    (allowed : settings.allowColdStart = true) (site : Site Deployment) :
    ∃ after, after.backend = turn.backend ∧ assemble settings writer turn site =
      (.ok ⟨policiesOf settings { registrar := turn.state }, writer, none⟩, after) := by
  simp only [assemble, answer, allowed, if_true]
  exact ⟨_, rfl, rfl⟩

theorem assemble_refused {writer : Option WriterId} {fault : RosterFault}
    {turn : Turn (Except RosterFault Nat) Registrar Deployment}
    (answer : turn.answer = .error fault)
    (forbidden : settings.allowColdStart = false) (site : Site Deployment) :
    ∃ after, after.backend = writer.elim turn.backend turn.backend.dismissWriter ∧
      assemble settings writer turn site = (.error (.load fault), after) := by
  simp only [assemble, answer, forbidden, Bool.false_eq_true, if_false]
  exact ⟨_, rfl, rfl⟩

section

variable {scope : Scope} {writer : Option WriterId} {registrar : Registrar} {opened : Deployment}

/-- The load goes over the store that there was before. -/
theorem Opened.load_eq (opening : Opened settings site.backend scope writer registrar opened) :
    let load := (blankRoster settings writer).load site.backend.memory
    registrar.load opened =
      ⟨load.answer, { registrar with roster := load.state }, opened.withMemory load.backend,
        load.log⟩ := by
  rw [Registrar.load, Roster.load_deployment, opening.roster, opening.memory]

/-- What is set up before the load is there after it, whatever was loaded. -/
theorem Opened.started (opening : Opened settings site.backend scope writer registrar opened)
    (valid : settings.registrar.check = .ok scope) {roster : Roster} {loaded : Option Nat}
    {left : Memory} (coherent : roster.Coherent)
    (counted : loaded =
      if loads settings site.backend.memory then some roster.order.length else none)
    (members : loads settings site.backend.memory = true →
      let blank := blankRoster settings writer
      let replica := blank.replica site.backend.memory
      blank.Countable site.backend.memory →
        roster.order = replica.members.rtake (blank.reach replica.size))
    (cold : loads settings site.backend.memory = false → settings.allowColdStart = true ∧
      roster.order = [] ∧ (∀ sender, roster.has sender = false) ∧
        left.contents = site.backend.memory.contents) :
    Started settings site.backend (opened.withMemory left)
      ⟨policiesOf settings { registrar := { registrar with roster } }, writer, loaded⟩
      { registrar with roster } where
  policies := rfl
  scope := by rw [valid, opening.scope]
  streamKey := opening.streamKey
  coherent := coherent
  loaded := counted
  members := members
  cold := cold
  wanted := opening.wanted
  writers := opening.writers

theorem Opened.assembles (opening : Opened settings site.backend scope writer registrar opened)
    (valid : settings.registrar.check = .ok scope)
    (enough : loads settings site.backend.memory = true ∨ settings.allowColdStart = true) :
    ∃ service after registrar',
      assemble settings writer (registrar.load opened) site = (.ok service, after) ∧
        Started settings site.backend after.backend service registrar' := by
  let blank := blankRoster settings writer
  have coherent : blank.Coherent := (Roster.empty_coherent _).transfer rfl rfl rfl
  have turn := opening.load_eq
  cases served : loads settings site.backend.memory with
  | true =>
      have answer := blank.load_served site.backend.memory served
      obtain ⟨after, backend, success⟩ :=
        assemble_answered ((congrArg Turn.answer turn).trans answer) settings site
      refine ⟨_, after, (registrar.load opened).state, success, ?_⟩
      rw [turn] at backend ⊢
      rw [backend]
      refine opening.started valid (coherent.load _) (by rw [served]; rfl) ?_
        fun failed => nomatch served.symm.trans failed
      intro _ blank replica countable
      have any : 0 < blank.room :=
        RosterSettings.capacity_pos (RegistrarSettings.check_roster valid)
      obtain ⟨_, state, order, _⟩ := Roster.load_reached countable any served
      exact (congrArg Roster.order state).trans order
  | false =>
      have allowed := enough.resolve_left (Bool.eq_false_iff.1 served)
      obtain ⟨fault, failed⟩ := blank.load_unserved site.backend.memory served
      rw [failed] at turn
      obtain ⟨after, backend, success⟩ :=
        assemble_cold (congrArg Turn.answer turn) allowed site
      refine ⟨_, after, (registrar.load opened).state, success, ?_⟩
      rw [turn] at backend ⊢
      rw [backend]
      refine opening.started valid coherent (by rw [served]; rfl)
        (fun served' => nomatch served.symm.trans served') fun _ => ?_
      exact ⟨allowed, rfl, fun sender => by simp [Roster.has, blank, blankRoster], rfl⟩

theorem Opened.stops (opening : Opened settings site.backend scope writer registrar opened)
    (failed : loads settings site.backend.memory = false)
    (forbidden : settings.allowColdStart = false) :
    ∃ fault after, assemble settings writer (registrar.load opened) site =
        (.error (.load fault), after) ∧
      after.backend.memory.contents = site.backend.memory.contents ∧
      ∀ entry ∈ after.backend.crew.writers, entry ∈ site.backend.crew.writers := by
  obtain ⟨fault, failed⟩ := (blankRoster settings writer).load_unserved site.backend.memory failed
  have turn := opening.load_eq
  rw [failed] at turn
  obtain ⟨after, backend, stopped⟩ :=
    assemble_refused (congrArg Turn.answer turn) forbidden site
  refine ⟨_, after, stopped, ?_⟩
  rw [backend, turn]
  have writers := opening.writers
  cases writer with
  | none =>
      rw [Option.map_none, Option.toList_none, List.append_nil] at writers
      exact ⟨rfl, fun entry held => writers ▸ held⟩
  | some id =>
      -- The writer that was hired is let go, and with it any other of its number.
      refine ⟨rfl, fun entry held => ?_⟩
      obtain ⟨among, other⟩ := List.mem_filter.1 held
      have among : entry ∈ opened.crew.writers := among
      rw [writers] at among
      rcases List.mem_append.1 among with before | own
      · exact before
      · obtain rfl := List.mem_singleton.1 own
        exact absurd rfl (of_decide_eq_true other)

end

/-- Which of three things comes of a start. -/
theorem start_cases (settings : Settings) (site : Site Deployment) :
    (∃ fault, settings.registrar.check = .error fault ∧
      start settings site = (.error (.settings fault), site)) ∨
    (∃ scope, settings.registrar.check = .ok scope ∧ loads settings site.backend.memory = false ∧
      settings.allowColdStart = false ∧
      ∃ fault after, start settings site = (.error (.load fault), after) ∧
        after.backend.memory.contents = site.backend.memory.contents ∧
        ∀ entry ∈ after.backend.crew.writers, entry ∈ site.backend.crew.writers) ∨
    (∃ scope, settings.registrar.check = .ok scope ∧
      (loads settings site.backend.memory = true ∨ settings.allowColdStart = true) ∧
      ∃ service after registrar, start settings site = (.ok service, after) ∧
        Started settings site.backend after.backend service registrar) := by
  cases check : settings.registrar.check with
  | error fault => exact .inl ⟨fault, rfl, start_invalid check site⟩
  | ok scope =>
      obtain ⟨writer, registrar, opened, opening, assembled⟩ := start_opening check site
      rw [assembled]
      by_cases enough : loads settings site.backend.memory = true ∨ settings.allowColdStart = true
      · exact .inr (.inr ⟨scope, rfl, enough, opening.assembles check enough⟩)
      · obtain ⟨failed, forbidden⟩ := not_or.1 enough
        rw [Bool.not_eq_true] at failed forbidden
        exact .inr (.inl ⟨scope, rfl, failed, forbidden, opening.stops failed forbidden⟩)

/-- Why a service does not start, and that it does otherwise. -/
theorem start_iff (settings : Settings) (site : Site Deployment) :
    let result := (start settings site).1
    let loaded := loads settings site.backend.memory
    (∀ fault, result = .error (.settings fault) ↔ settings.registrar.check = .error fault) ∧
    ((∃ fault, result = .error (.load fault)) ↔ (∃ scope, settings.registrar.check = .ok scope) ∧
      loaded = false ∧ settings.allowColdStart = false) ∧
    ((∃ service, result = .ok service) ↔ (∃ scope, settings.registrar.check = .ok scope) ∧
      (loaded = true ∨ settings.allowColdStart = true)) := by
  intro result loaded
  rcases start_cases settings site with ⟨fault, invalid, outcome⟩ |
    ⟨scope, valid, failed, forbidden, fault, stopped, outcome, _⟩ |
    ⟨scope, valid, enough, service, started, registrar, outcome, _⟩
  · simp [result, outcome, invalid]
  · simp [result, loaded, outcome, valid, failed, forbidden]
  · simp only [result, loaded, outcome, valid]
    rcases enough with served | allowed
    · simp [served]
    · simp [allowed]

/-- A service that does not start leaves the store as it was, and no writer behind. -/
theorem start_failed (settings : Settings) (site : Site Deployment) {fault : StartupFault}
    (failed : (start settings site).1 = .error fault) :
    (start settings site).2.backend.memory.contents = site.backend.memory.contents ∧
      ∀ entry ∈ (start settings site).2.backend.crew.writers,
        entry ∈ site.backend.crew.writers := by
  rcases start_cases settings site with ⟨_, _, outcome⟩ | ⟨_, _, _, _, _, _, outcome, kept⟩ |
    ⟨_, _, _, _, _, _, outcome, _⟩
  · rw [outcome]
    exact ⟨rfl, fun _ held => held⟩
  · rw [outcome]
    exact kept
  · rw [outcome] at failed
    exact nomatch failed

theorem start_succeeded {service : Service} (success : (start settings site).1 = .ok service) :
    ∃ registrar,
      Started settings site.backend (start settings site).2.backend service registrar := by
  rcases start_cases settings site with ⟨_, _, outcome⟩ | ⟨_, _, _, _, _, _, outcome, _⟩ |
    ⟨_, _, _, _, _, registrar, outcome, started⟩
  · rw [outcome] at success
    exact nomatch success
  · rw [outcome] at success
    exact nomatch success
  · rw [outcome] at success ⊢
    obtain rfl := Except.ok.inj success
    exact ⟨registrar, started⟩

/-- Whether it starts or not, a service whose load failed has not touched the store. -/
theorem start_unloaded (failed : loads settings site.backend.memory = false) :
    (start settings site).2.backend.memory.contents = site.backend.memory.contents := by
  cases result : (start settings site).1 with
  | error fault => exact (start_failed settings site result).1
  | ok service =>
      obtain ⟨registrar, started⟩ := start_succeeded result
      exact (started.cold failed).2.2.2

/-- A service whose load is served remembers the newest of what it finds. -/
theorem start_remembers {memory : Memory}
    (same : site.backend.memory.contents = memory.contents)
    (valid : ∃ scope, settings.registrar.check = .ok scope)
    (served : loads settings site.backend.memory = true) :
    let roster := blankRoster settings none
    let replica := roster.replica memory
    replica.size < rankCount →
      ∃ service registrar, (start settings site).1 = .ok service ∧
        Started settings site.backend (start settings site).2.backend service registrar ∧
        registrar.roster.order = replica.members.rtake (roster.reach replica.size) ∧
        (settings.capacity.toNat ≤ rankCount → replica.size ≤ settings.capacity.toNat →
          registrar.roster.order = replica.members) := by
  intro roster replica countable
  obtain ⟨service, success⟩ := (start_iff settings site).2.2.2 ⟨valid, .inl served⟩
  obtain ⟨registrar, started⟩ := start_succeeded success
  have found : (blankRoster settings service.writer).replica site.backend.memory = replica :=
    congrArg (Contents.set · roster.settings.replicaKey) same
  have fits : (blankRoster settings service.writer).Countable site.backend.memory :=
    Nat.lt_of_le_of_lt (congrArg SortedSet.size found).le countable
  have order := started.members served fits
  simp only [found] at order
  have order : registrar.roster.order = replica.members.rtake (roster.reach replica.size) := order
  refine ⟨service, registrar, success, started, order, fun limited few => ?_⟩
  have limited : roster.room ≤ rankCount := limited
  rw [order, Roster.reach_of_limited limited]
  exact rtake_of_length_le (replica.length_members.trans_le few)

/-- What comes of a start, and what it leaves behind: for itself, and for a service that starts
later on the same store and finds it answering. -/
theorem start_outcome (settings : Settings) (site : Site Deployment) :
    let result := (start settings site).1
    let after := (start settings site).2
    let loaded := loads settings site.backend.memory
    (∀ fault, result = .error (.settings fault) ↔ settings.registrar.check = .error fault) ∧
    ((∃ fault, result = .error (.load fault)) ↔ (∃ scope, settings.registrar.check = .ok scope) ∧
      loaded = false ∧ settings.allowColdStart = false) ∧
    ((∃ service, result = .ok service) ↔ (∃ scope, settings.registrar.check = .ok scope) ∧
      (loaded = true ∨ settings.allowColdStart = true)) ∧
    (∀ fault, result = .error (.settings fault) → after = site) ∧
    (∀ fault, result = .error fault →
      after.backend.memory.contents = site.backend.memory.contents ∧
        ∀ entry ∈ after.backend.crew.writers, entry ∈ site.backend.crew.writers) ∧
    (∀ service, result = .ok service →
      ∃ registrar, Started settings site.backend after.backend service registrar) ∧
    site.backend.SameStreams after.backend ∧
    (loaded = false →
      after.backend.memory.contents = site.backend.memory.contents ∧
      ∀ (later : Settings) (site' : Site Deployment),
        site'.backend.memory.contents = after.backend.memory.contents →
        (∃ scope, later.registrar.check = .ok scope) → loads later site'.backend.memory = true →
        let roster := blankRoster later none
        let replica := roster.replica site.backend.memory
        replica.size < rankCount →
          ∃ service registrar, (start later site').1 = .ok service ∧
            Started later site'.backend (start later site').2.backend service registrar ∧
            registrar.roster.order = replica.members.rtake (roster.reach replica.size) ∧
            (later.capacity.toNat ≤ rankCount → replica.size ≤ later.capacity.toNat →
              registrar.roster.order = replica.members)) := by
  dsimp only
  obtain ⟨settled, stopped, started⟩ := start_iff settings site
  refine ⟨settled, stopped, started, ?_, fun _ => start_failed settings site,
    fun _ => start_succeeded, start_same_streams settings site, ?_⟩
  · intro fault failed
    exact congrArg Prod.snd (start_invalid ((settled fault).1 failed) site)
  · intro failed
    have untouched := start_unloaded failed
    refine ⟨untouched, fun later site' same valid served => ?_⟩
    exact start_remembers (same.trans untouched) valid served

/-- The first call on the store is refused. A service that may not start without its senders does
not; one that may remembers nobody, and the next one finds the sender that the store holds. -/
theorem start_outcome_of_cold_start :
    let contents := ({} : Contents).seed "processed_pubkeys_zset" (.ofMillis 5) "alice"
    let memory : Memory := { contents, conditions := fun number => { sortedSetUp := number != 0 } }
    let site : Site Deployment := { backend := { memory, clock := .standing 7 } }
    let strict : Settings := { relayUrl := "relay.example" }
    let lenient : Settings := { strict with allowColdStart := true }
    (∃ fault, (start strict site).1 = .error (.load fault)) ∧
      (∃ service registrar, (start lenient site).1 = .ok service ∧
        Started lenient site.backend (start lenient site).2.backend service registrar ∧
        service.loaded = none ∧ registrar.roster.order = []) ∧
      ∃ service registrar, (start strict (start lenient site).2).1 = .ok service ∧
        Started strict (start lenient site).2.backend
          (start strict (start lenient site).2).2.backend service registrar ∧
        service.loaded = some 1 ∧ registrar.roster.order = ["alice"] := by
  intro contents memory site strict lenient
  have valid : ∃ scope, strict.registrar.check = .ok scope :=
    ⟨⟨"relay.example"⟩, by decide +kernel⟩
  have failed : loads lenient site.backend.memory = false := by decide +kernel
  have served : loads strict (start lenient site).2.backend.memory = true := by decide +kernel
  have size : ((blankRoster strict none).replica memory).size = 1 := by decide +kernel
  have members : ((blankRoster strict none).replica memory).members = ["alice"] := by decide +kernel
  obtain ⟨_, stopped, _⟩ := start_outcome strict site
  obtain ⟨_, _, starts, _, _, parts, _, unloaded⟩ := start_outcome lenient site
  obtain ⟨service, success⟩ := starts.2 ⟨valid, .inr rfl⟩
  obtain ⟨registrar, started⟩ := parts service success
  obtain ⟨service', registrar', success', started', _, all⟩ :=
    (unloaded failed).2 strict (start lenient site).2 rfl valid served (by rw [size]; decide)
  have order := all (by decide) (by rw [size]; decide)
  rw [members] at order
  refine ⟨stopped.2 ⟨valid, failed, rfl⟩, ⟨service, registrar, success, started, ?_,
    (started.cold failed).2.1⟩, service', registrar', success', started', ?_, order⟩
  · rw [started.loaded, failed]
    rfl
  · rw [started'.loaded, served, order]
    rfl

end Service

end OptOut
