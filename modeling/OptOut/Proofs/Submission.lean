import OptOut.Arguments
import OptOut.Proofs.Effects
import OptOut.Proofs.Record
import OptOut.Proofs.Startup
import OptOut.Submission

/-!
# What an operator confirms

The draft that an operator is shown and the fields that go onto the stream are written apart from
each other, the one as JSON in the form of an event, the other as a list of named texts. Both are
read back as the same particulars, and nothing but those fields is appended, to the stream that a
service writes to.
-/

namespace OptOut

open Json

/-! ## The draft and the fields -/

/-- What a request to vanish says, whether there is an event of it or not. -/
structure Particulars where
    kind : UInt64
    sender : Sender
    createdAt : UInt64
    tags : List Tag
    content : String
deriving DecidableEq, Repr

namespace Particulars

def ofValue (value : Value) : Option Particulars := do
  let kind ← value.required "kind" Value.word?
  let sender ← value.required "pubkey" Value.text?
  let createdAt ← value.required "created_at" Value.word?
  let tags ← value.required "tags" (Value.listOf? Tag.ofValue)
  let content ← value.required "content" Value.text?
  some { kind, sender, createdAt, tags, content }

def ofFields (fields : List Field) : Option Particulars := do
  let kind ← (fields.lookup "kind").bind Text.wordValue
  let sender ← fields.lookup "pubkey"
  let createdAt ← (fields.lookup "created_at").bind Text.wordValue
  let tags ← (fields.lookup "tags").bind tagsOfText
  let content ← fields.lookup "content"
  some { kind, sender, createdAt, tags, content }

end Particulars

namespace Record

def particulars (sender : Sender) (relay reason : String) (requestedAt : UInt64) : Particulars :=
  { kind := 62, sender, createdAt := requestedAt, tags := [⟨["relay", relay]⟩], content := reason }

variable (sender : Sender) (relay reason : String) (requestedAt : UInt64)

def drafted (record : Record) : List (String × Value) :=
  [("content", .text record.reason),
    ("created_at", .ofNat record.requestedAt.toNat),
    ("kind", .ofNat optOutKind.toNat),
    ("pubkey", .text record.sender),
    ("tags", .list [.ofTexts [addressTag, record.target.text]])]

theorem value_of_draft (record : Record) :
    Value.ofText record.draft = some (.object record.drafted) := by
  have kind := Value.half_number_fits optOutKind 126
  have moment := Value.number_fits record.requestedAt 126
  have tags : (Value.list [.ofTexts [addressTag, record.target.text]]).Fits 126 :=
    tags_fit [.ofPair addressTag record.target.text] 124
  have fits : (Value.object record.drafted).Fits maximalDepth := by
    rw [maximalDepth, Value.Fits]
    simp [drafted, FieldsFit, kind, moment, tags]
  exact Value.of_text_indented fits

theorem particulars_of_draft :
    Particulars.ofValue (.object (manual sender relay reason requestedAt).drafted) =
      some (particulars sender relay reason requestedAt) := by
  have kind : (Value.ofNat optOutKind.toNat).word? = some 62 := Value.word_of_nat 62
  have tags : Value.listOf? Tag.ofValue (.list [.ofTexts [addressTag, relay]]) =
      some [⟨["relay", relay]⟩] := tags_of_value [⟨["relay", relay]⟩]
  simp [Particulars.ofValue, drafted, Value.required, Value.field?, Value.text?, kind, tags,
    Value.word_of_nat, particulars, Record.sender, Record.reason, Record.requestedAt, target,
    Target.text]

theorem particulars_of_fields :
    Particulars.ofFields (manual sender relay reason requestedAt).fields =
      some (particulars sender relay reason requestedAt) := by
  have kind : Text.wordValue (Text.decimal optOutKind.toNat) = some 62 := Text.word_of_decimal 62
  simp [Particulars.ofFields, fields, eventFields, List.lookup_cons, kind, Text.word_of_decimal,
    tags_of_tags_text, particulars, Record.sender, Record.createdAt, Record.tags, Record.reason,
    Tag.ofPair, addressTag]

/-- Two records made by hand with the same draft are the same. -/
theorem eq_of_draft_eq {sender sender' : Sender} {relay relay' reason reason' : String}
    {requestedAt requestedAt' : UInt64}
    (same : (manual sender relay reason requestedAt).draft =
      (manual sender' relay' reason' requestedAt').draft) :
    manual sender relay reason requestedAt = manual sender' relay' reason' requestedAt' := by
  have shown := value_of_draft (manual sender relay reason requestedAt)
  rw [same, value_of_draft] at shown
  have read := particulars_of_draft sender relay reason requestedAt
  rw [← Option.some.inj shown, particulars_of_draft] at read
  simp only [particulars, Option.some.injEq, Particulars.mk.injEq, List.cons.injEq, Tag.mk.injEq,
    and_true, true_and] at read
  obtain ⟨rfl, rfl, rfl, rfl⟩ := read
  rfl

end Record

/-! ## The append -/

/-- One more entry at the end of a stream, and nothing else, in what a store holds. -/
structure Contents.Gains (before : Contents) (key : String) (entry : StreamEntry)
    (after : Contents) : Prop where
    stream : after.stream key = before.stream key ++ [entry]
    others : ∀ other ≠ key, after.stream other = before.stream other
    sets : after.sets = before.sets
    writes : after.writes = before.writes

theorem Contents.append_gains (contents : Contents) (key : String) (fields : List Field) :
    contents.Gains key ⟨(contents.append key fields).1, fields⟩ (contents.append key fields).2 :=
  ⟨contents.stream_append key fields, fun _ apart => contents.stream_append_other apart.symm fields,
    rfl, rfl⟩

namespace Record

/-- Any store is asked for a single append. -/
theorem submit_traced {σ : Type} [Streams σ] (record : Record) (traced : Traced σ) :
    record.submit traced = ((record.submit traced.inner).1,
      traced.note (.append optOutStream record.fields) (record.submit traced.inner).2) :=
  rfl

/-- A store in memory takes the record or refuses it. -/
theorem submit_cases (record : Record) (memory : Memory) :
    let after := (record.submit memory).2.contents
    (∃ id, (record.submit memory).1 = .ok id ∧
      memory.contents.Gains optOutStream ⟨id, record.fields⟩ after) ∨
    (∃ fault, (record.submit memory).1 = .error fault) ∧ after = memory.contents := by
  have call : Streams.append optOutStream record.fields memory =
      memory.call Conditions.streamRefusal fun contents =>
        contents.append optOutStream record.fields := rfl
  cases refused : Conditions.streamRefusal memory.current with
  | some fault =>
      rw [submit, call, Memory.call_refused _ refused]
      exact .inr ⟨⟨fault, rfl⟩, rfl⟩
  | none =>
      rw [submit, call, Memory.call_accepted _ refused]
      exact .inl ⟨_, rfl, memory.contents.append_gains _ _⟩

end Record

namespace Service

/-- The registrar of a service writes to the same stream at any moment. -/
theorem Reaches.stream_key {settings : Settings} {service : Service}
    {policies : List StandardPolicy} {key : String} (reaches : Reaches service policies)
    (begins : ∃ policy, service.policies = policiesOf settings policy ∧
      policy.registrar.streamKey = key) :
    ∃ policy, policies = policiesOf settings policy ∧ policy.registrar.streamKey = key := by
  induction reaches with
  | started => exact begins
  | decided _ request site induction =>
      obtain ⟨policy, rfl, own⟩ := induction
      refine ⟨(policy.decide request site).policy, ?_, ?_⟩
      · rw [decide_policies_of]
      · rw [← own, ← policy.registrar.decide_stream_key request.event site.backend]
        exact congrArg Registrar.streamKey (MeteredRegistrar.count_failures_registrar ..)

theorem start_stream_key {settings : Settings} {site after : Site Deployment} {service : Service}
    (success : start settings site = (.ok service, after)) {policies : List StandardPolicy}
    (reaches : Reaches service policies) :
    ∃ policy, policies = policiesOf settings policy ∧
      policy.registrar.streamKey = optOutStream := by
  obtain ⟨registrar, started⟩ := start_succeeded (congrArg Prod.fst success)
  exact reaches.stream_key ⟨_, started.policies, started.streamKey⟩

end Service

/-- What an operator confirms is what is appended. -/
theorem Record.confirmed_is_submitted (arguments : Arguments) (now : UInt64) :
    let record := arguments.record now
    let said : Particulars :=
      { kind := 62, sender := arguments.pubkey, createdAt := now
        tags := [⟨["relay", arguments.relay]⟩], content := arguments.reason }
    -- The draft says the same as the fields, and no two drafts say the same.
    (∃ shown, Value.ofText record.draft = some (.object shown) ∧
      shown.map Prod.fst = ["content", "created_at", "kind", "pubkey", "tags"] ∧
      Particulars.ofValue (.object shown) = some said) ∧
    Particulars.ofFields record.fields = some said ∧
    record.fields.map Prod.fst =
      ["pubkey", "kind", "created_at", "tags", "content", "requested_at", "target"] ∧
    record.fields.lookup "requested_at" = record.fields.lookup "created_at" ∧
    record.fields.lookup "target" = some arguments.relay ∧
    (∀ (others : Arguments) (later : UInt64), (others.record later).draft = record.draft →
      (others.record later).fields = record.fields) ∧
    -- The fields go onto the stream that a service writes to, as one entry, or nothing does.
    (∀ (σ : Type) [Streams σ] (traced : Traced σ),
      (record.submit traced).1 = (record.submit traced.inner).1 ∧
        (record.submit traced).2.trace = traced.trace ++ [.append optOutStream record.fields]) ∧
    (∀ memory : Memory,
      (∃ id, (record.submit memory).1 = .ok id ∧ memory.contents.Gains optOutStream
        ⟨id, record.fields⟩ (record.submit memory).2.contents) ∨
      (∃ fault, (record.submit memory).1 = .error fault) ∧
        (record.submit memory).2.contents = memory.contents) ∧
    ∀ (settings : Settings) (site after : Site Deployment) (service : Service),
      Service.start settings site = (.ok service, after) →
      ∀ policies, Service.Reaches service policies →
        ∃ policy, policies = Service.policiesOf settings policy ∧
          policy.registrar.streamKey = optOutStream := by
  intro record said
  refine ⟨⟨record.drafted, record.value_of_draft, rfl, particulars_of_draft ..⟩,
    particulars_of_fields .., rfl, rfl, rfl, ?_, ?_, record.submit_cases, ?_⟩
  · intro others later same
    exact congrArg fields (eq_of_draft_eq same)
  · intro σ _ traced
    rw [submit_traced]
    exact ⟨rfl, rfl⟩
  · intro settings site after service success policies reaches
    exact Service.start_stream_key success reaches

/-- A record whose texts have to be escaped, on its way into an empty store. -/
theorem Record.confirmed_is_submitted_of_escapes :
    let arguments : Arguments :=
      { pubkey := "\"alice\"", reason := "\x00\n𝄞", relay := " ALL_RELAYS\\", yes := true
        storeUrl := fallbackStoreUrl }
    let record := arguments.record 18446744073709551615
    let said : Particulars :=
      { kind := 62, sender := "\"alice\"", createdAt := 18446744073709551615
        tags := [⟨["relay", " ALL_RELAYS\\"]⟩], content := "\x00\n𝄞" }
    let memory : Memory := {}
    (Value.ofText record.draft).bind Particulars.ofValue = some said ∧
      Particulars.ofFields record.fields = some said ∧
      ∃ id, (record.submit memory).2.contents.stream optOutStream = [⟨id, record.fields⟩] := by
  intro arguments record said memory
  obtain ⟨⟨shown, draft, _, read⟩, fields, _, _, _, _, _, submitted, _⟩ :=
    confirmed_is_submitted arguments 18446744073709551615
  refine ⟨?_, fields, ?_⟩
  · rw [draft]
    exact read
  · rcases submitted memory with ⟨id, _, gains⟩ | ⟨⟨fault, refused⟩, _⟩
    · exact ⟨id, gains.stream⟩
    · exact nomatch refused

end OptOut
