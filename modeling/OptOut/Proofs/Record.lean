import OptOut.Proofs.Addressing
import OptOut.Proofs.Wire
import OptOut.Record

/-!
# Records read back

The fields of a record are told apart by their names, and together they determine the record. The
target is one text, in which the name of a relay could be taken for all relays; but no event has a
relay of that name for its target, and the record of an event is told from an operator's by its id.
-/

namespace OptOut

/-! ## The parts of a record as texts -/

theorem Text.without_plus_digits {digits : List Char}
    (decimals : ∀ char ∈ digits, char.isDigit = true) : withoutPlus digits = digits := by
  rw [withoutPlus.eq_def]
  split
  · exact absurd (decimals '+' List.mem_cons_self) (by decide)
  · rfl

theorem Text.word_of_decimal (word : UInt64) : wordValue (decimal word.toNat) = some word := by
  have decimals : ∀ char ∈ Nat.toDigits 10 word.toNat, char.isDigit = true := Json.digits_decimal
  have value : digitsValue (Nat.toDigits 10 word.toNat) = some word.toNat := by
    have solid : (Nat.toDigits 10 word.toNat).isEmpty = false :=
      List.isEmpty_eq_false_iff.2 Nat.toDigits_ne_nil
    rw [digitsValue, List.all_eq_true.2 decimals, solid, if_neg (by decide),
      Nat.ofDigitChars_ten_toDigits]
  rw [wordValue, decimal, String.toList_ofList, without_plus_digits decimals, value]
  simp only [word.toNat_lt, if_true, UInt64.ofNat_toNat]

def tagsOfText (text : String) : Option (List Tag) :=
  (Json.Value.ofText text).bind (Json.Value.listOf? Tag.ofValue)

theorem tags_of_tags_text (tags : List Tag) : tagsOfText (tagsText tags) = some tags := by
  rw [tagsOfText, tagsText, Json.Value.of_text_compact (tags_fit tags 125), Option.bind_some,
    tags_of_value]

namespace Target

def ofText (text : String) : Target :=
  if text = OptOut.everyRelay then .everyRelay else .relay text

/-- Where a relay has the name that stands for all relays, an event that names it is addressed to
all relays. -/
theorem of_text_text {scope : Scope} {event : Event} {target : Target}
    (addressed : scope.target? event = some target) : ofText target.text = target := by
  rw [Scope.target_eq] at addressed
  split at addressed
  · obtain rfl := Option.some.inj addressed
    rfl
  · rename_i every
    split at addressed
    · rename_i own
      obtain rfl := Option.some.inj addressed
      refine if_neg fun same => every ?_
      rw [← same]
      exact own
    · exact nomatch addressed

end Target

/-! ## Records -/

namespace Record

/-- The records that come about: of an event that asks this relay to vanish, or by hand. -/
inductive Produced : Record → Prop where
  | ofEvent {scope : Scope} {event : Event} {target : Target} (kind : event.kind = optOutKind)
      (addressed : scope.target? event = some target) (requestedAt : UInt64) :
      Produced (.ofEvent event target requestedAt)
  | manual (sender : Sender) (relay reason : String) (requestedAt : UInt64) :
      Produced (.manual sender relay reason requestedAt)

def ofFields (fields : List Field) : Option Record := do
  let sender ← fields.lookup "pubkey"
  let createdAt ← (fields.lookup "created_at").bind Text.wordValue
  let tags ← (fields.lookup "tags").bind tagsOfText
  let content ← fields.lookup "content"
  let requestedAt ← (fields.lookup "requested_at").bind Text.wordValue
  let target ← fields.lookup "target"
  match fields.lookup "id" with
  | some id =>
    let event : Event := ⟨id, sender, optOutKind, createdAt, tags, content, fields.lookup "sig"⟩
    some (.ofEvent event (.ofText target) requestedAt)
  | none => some (.manual sender target content requestedAt)

theorem names_distinct (record : Record) : (record.fields.map (·.1)).Nodup := by
  cases record with
  | ofEvent event target requestedAt =>
      cases absent : event.sig <;> simp [fields, eventFields, absent]
  | manual sender relay reason requestedAt => simp [fields, eventFields]

/-- Where names are distinct, every field is found by its name. -/
theorem lookup_of_distinct {fields : List Field} (distinct : (fields.map (·.1)).Nodup)
    {field : Field} (held : field ∈ fields) : fields.lookup field.1 = some field.2 := by
  induction fields with
  | nil => exact absurd held List.not_mem_nil
  | cons first rest induction =>
      rw [List.map_cons, List.nodup_cons] at distinct
      rcases List.mem_cons.1 held with rfl | later
      · rw [List.lookup_cons, beq_self_eq_true]
      · have other : first.1 ≠ field.1 := fun same =>
          distinct.1 (same ▸ List.mem_map_of_mem later)
        rw [List.lookup_cons, beq_false_of_ne other.symm]
        exact induction distinct.2 later

theorem of_fields_fields {record : Record} (produced : record.Produced) :
    ofFields record.fields = some record := by
  cases produced with
  | @ofEvent scope event target kind addressed requestedAt =>
      obtain ⟨id, pubkey, own, createdAt, tags, content, sig⟩ := event
      obtain rfl : own = optOutKind := kind
      have target := Target.of_text_text addressed
      cases sig <;>
        simp [ofFields, fields, eventFields, sender, Record.createdAt, Record.tags, reason,
          Record.requestedAt, Record.target, List.lookup_cons, Text.word_of_decimal,
          tags_of_tags_text, target]
  | manual sender relay reason requestedAt =>
      simp [ofFields, fields, eventFields, Record.sender, Record.createdAt, Record.tags,
        Record.reason, Record.requestedAt, Record.target, Target.text, List.lookup_cons,
        Text.word_of_decimal, tags_of_tags_text]

/-- A record that comes about is determined by its fields, and each of these by its name. -/
theorem fields_determine {record : Record} (produced : record.Produced) :
    ofFields record.fields = some record ∧
      (∀ other : Record, other.Produced → other.fields = record.fields → other = record) ∧
      (record.fields.map (·.1)).Nodup ∧
      ∀ field ∈ record.fields, record.fields.lookup field.1 = some field.2 := by
  refine ⟨of_fields_fields produced, ?_, record.names_distinct, ?_⟩
  · intro other produced' same
    have read := of_fields_fields produced'
    rw [same, of_fields_fields produced] at read
    exact (Option.some.inj read).symm
  · exact fun field held => lookup_of_distinct record.names_distinct held

/-- The fields of an event whose tags and content look like fields of their own. -/
theorem fields_determine_of_nested :
    let event : Event :=
      { id := "target", pubkey := "alice", kind := optOutKind, createdAt := 1700000000
        tags := [⟨[]⟩, ⟨["Relay ", " ALL_RELAYS", "\",\"sig\":\""]⟩]
        content := "[[\"relay\",\"all_relays\"]]", sig := some "" }
    let record : Record := .ofEvent event .everyRelay 7
    record.Produced ∧ ofFields record.fields = some record ∧
      ∀ relay reason, record.fields ≠ (manual "alice" relay reason 7).fields := by
  intro event record
  let scope : Scope := ⟨"relay.example"⟩
  have addressed : scope.target? event = some .everyRelay := by decide +kernel
  have produced : record.Produced := .ofEvent rfl addressed 7
  obtain ⟨read, determined, _⟩ := fields_determine produced
  exact ⟨produced, read, fun relay reason same =>
    nomatch determined _ (.manual "alice" relay reason 7) same.symm⟩

end Record

end OptOut
