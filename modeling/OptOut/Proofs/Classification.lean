import OptOut.Line
import OptOut.Proofs.Json.Fields

/-!
# Which line is what

A line is read twice: the type and the id of the event are looked up on their own, and the request
is read as a record. What a line is can be said without either, from the fields that its value
holds, and the two readings agree with that on every text.
-/

namespace OptOut

open Json

/-! ## Requests -/

def Tag.Described (value : Value) (tag : Tag) : Prop :=
  value.IsList Value.IsText tag.elements

theorem Tag.reads : Value.Reads Tag.ofValue Tag.Described := by
  intro value tag
  simp only [Tag.ofValue, Value.texts?, Option.map_eq_some_iff, Value.reads_text.list value _,
    Tag.Described]
  constructor
  · rintro ⟨elements, described, rfl⟩
    exact described
  · exact fun described => ⟨tag.elements, described, rfl⟩

structure Event.Described (value : Value) (event : Event) : Prop where
    id : value.Has "id" Value.IsText event.id
    pubkey : value.Has "pubkey" Value.IsText event.pubkey
    kind : value.Has "kind" Value.IsHalfWord event.kind
    createdAt : value.Has "created_at" Value.IsWord event.createdAt
    tags : value.HasOr "tags" [] (Value.IsList Tag.Described) event.tags
    content : value.HasOr "content" "" Value.IsText event.content
    sig : value.MayHave "sig" Value.IsText event.sig

theorem Event.reads : Value.Reads Event.ofValue Event.Described := by
  intro value event
  simp only [ofValue, Option.bind_eq_bind, Option.bind_eq_some_iff,
    Value.required_iff Value.reads_text, Value.required_iff Value.reads_half_word,
    Value.required_iff Value.reads_word, Value.field_or_iff Tag.reads.list,
    Value.field_or_iff Value.reads_text, Value.optional_iff Value.reads_text Value.null_is_no_text]
  constructor
  · rintro ⟨id, hasId, pubkey, hasPubkey, kind, hasKind, createdAt, hasMoment, tags, hasTags,
      content, hasContent, sig, hasSig, made⟩
    obtain rfl := Option.some.inj made
    exact ⟨hasId, hasPubkey, hasKind, hasMoment, hasTags, hasContent, hasSig⟩
  · intro described
    exact ⟨_, described.id, _, described.pubkey, _, described.kind, _, described.createdAt,
      _, described.tags, _, described.content, _, described.sig, rfl⟩

structure Request.Described (value : Value) (request : Request) : Prop where
    type : value.Has "type" Value.IsText request.type
    event : value.Has "event" Event.Described request.event
    receivedAt : value.MayHave "receivedAt" Value.IsWord request.receivedAt
    sourceType : value.MayHave "sourceType" Value.IsText request.sourceType
    sourceInfo : value.MayHave "sourceInfo" Value.IsText request.sourceInfo

theorem Request.reads : Value.Reads Request.ofValue Request.Described := by
  intro value request
  simp only [ofValue, Option.bind_eq_bind, Option.bind_eq_some_iff,
    Value.required_iff Value.reads_text, Value.required_iff Event.reads,
    Value.optional_iff Value.reads_word Value.null_is_no_word,
    Value.optional_iff Value.reads_text Value.null_is_no_text]
  constructor
  · rintro ⟨type, hasType, event, hasEvent, receivedAt, hasMoment, sourceType, hasSource,
      sourceInfo, hasInfo, made⟩
    obtain rfl := Option.some.inj made
    exact ⟨hasType, hasEvent, hasMoment, hasSource, hasInfo⟩
  · intro described
    exact ⟨_, described.type, _, described.event, _, described.receivedAt, _,
      described.sourceType, _, described.sourceInfo, rfl⟩

/-! ## Lines -/

namespace LineFault

def bare : LineFault → LineFault
  | invalidJson _ => invalidJson ""
  | invalidEvent _ => invalidEvent ""
  | fault => fault

end LineFault

namespace Line

def bare : Line → Line
  | malformed id fault => malformed id fault.bare
  | line => line

/-- The id of the event in a value, whatever else is wrong with it. -/
def Recovered (value : Value) (id : String) : Prop :=
  id ≠ "" ∧ ∃ event, value.Holds "event" event ∧ event.Has "id" Value.IsText id

/-- What a line with a value is. Another type is passed over however broken the event is, and the
event's id is kept from a line whose other fields do not make up a request. -/
inductive Judged (value : Value) : Line → Prop
  | untyped {id : Option String} (untyped : ∀ type, ¬value.Has "type" Value.IsText type)
      (recovered : ∀ own, id = some own ↔ Recovered value own) :
      Judged value (.malformed id (.missingField "type"))
  | ignored {type : String} (typed : value.Has "type" Value.IsText type) (other : type ≠ "new") :
      Judged value (.ignored type)
  | unnamed (typed : value.Has "type" Value.IsText "new") (lost : ∀ id, ¬Recovered value id) :
      Judged value (.malformed none (.missingField "event.id"))
  | request {request : Request} (typed : value.Has "type" Value.IsText "new")
      (recovered : Recovered value request.event.id) (described : request.Described value) :
      Judged value (.request request)
  | undescribed {id : String} (typed : value.Has "type" Value.IsText "new")
      (recovered : Recovered value id) (undescribed : ∀ request, ¬Request.Described value request)
      (detail : String) : Judged value (.malformed (some id) (.invalidEvent detail))

inductive Classified (text : String) : Line → Prop
  | blank (blank : ∀ char ∈ text.toList, Text.isBlank char = true) : Classified text .blank
  | unreadable (solid : ∃ char ∈ text.toList, Text.isBlank char = false)
      (meaningless : Value.ofText (Text.trim text) = none) (detail : String) :
      Classified text (.malformed none (.invalidJson detail))
  | valued {value : Value} {line : Line} (solid : ∃ char ∈ text.toList, Text.isBlank char = false)
      (means : Value.ofText (Text.trim text) = some value) (judged : Judged value line) :
      Classified text line

variable {value : Value} {line : Line} {text : String}

theorem event_id_iff {id : String} : eventIdOf value = some id ↔ Recovered value id := by
  simp only [eventIdOf, Recovered, Option.filter_eq_some_iff, Option.bind_eq_some_iff,
    Value.field_eq_some_iff, Value.reads_text _ _, Value.Has, decide_eq_true_eq]
  constructor
  · rintro ⟨⟨field, ⟨event, holds, own⟩, read⟩, solid⟩
    exact ⟨solid, event, holds, field, own, read⟩
  · rintro ⟨solid, event, holds, field, own, read⟩
    exact ⟨⟨field, ⟨event, holds, own⟩, read⟩, solid⟩

theorem type_iff {type : String} :
    value.required "type" Value.text? = some type ↔ value.Has "type" Value.IsText type :=
  Value.required_iff Value.reads_text

/-- The two readings find the same id. -/
theorem Recovered.eq_id {id : String} (recovered : Recovered value id) {request : Request}
    (described : request.Described value) : id = request.event.id := by
  obtain ⟨_, event, holds, own⟩ := recovered
  obtain ⟨event', holds', described'⟩ := described.event
  obtain rfl := Value.holds_unique holds holds'
  exact Value.has_unique Value.reads_text own described'.id

theorem judged_of_value (value : Value) : Judged value (ofValue value) := by
  unfold ofValue
  split
  · rename_i untyped
    refine .untyped (fun type has => ?_) (fun own => event_id_iff)
    rw [type_iff.2 has] at untyped
    cases untyped
  · rename_i type found
    have has := type_iff.1 found
    split
    · exact .ignored has ‹_›
    · rename_i new
      obtain rfl : type = "new" := Decidable.not_not.1 new
      split
      · rename_i lost
        refine .unnamed has fun id recovered => ?_
        rw [event_id_iff.2 recovered] at lost
        cases lost
      · rename_i id found
        have recovered := event_id_iff.1 found
        -- The record is read without regard to the id that was looked up.
        split
        · rename_i request decoded
          have described := (Request.reads value request).1 decoded
          exact .request has (recovered.eq_id described ▸ recovered) described
        · rename_i undecoded
          refine .undescribed has recovered (fun request described => ?_) _
          rw [(Request.reads value request).2 described] at undecoded
          cases undecoded

theorem Judged.bare_eq (judged : Judged value line) : line.bare = (ofValue value).bare := by
  cases judged with
  | untyped untyped recovered =>
      have none : value.required "type" Value.text? = none :=
        Option.eq_none_iff_forall_ne_some.2 fun type found => untyped type (type_iff.1 found)
      have same := Option.ext fun own => (recovered own).trans event_id_iff.symm
      simp only [ofValue, none, same]
  | ignored typed other =>
      simp only [ofValue, type_iff.2 typed, decisionType, ne_eq, other, not_false_eq_true, if_true]
  | unnamed typed lost =>
      have none : eventIdOf value = none :=
        Option.eq_none_iff_forall_ne_some.2 fun id found => lost id (event_id_iff.1 found)
      simp only [ofValue, type_iff.2 typed, decisionType, none, ne_eq, not_true_eq_false, if_false]
  | request typed recovered described =>
      simp only [ofValue, type_iff.2 typed, decisionType, event_id_iff.2 recovered,
        (Request.reads value _).2 described, ne_eq, not_true_eq_false, if_false]
  | undescribed typed recovered undescribed =>
      have none : Request.ofValue value = none :=
        Option.eq_none_iff_forall_ne_some.2 fun request decoded =>
          undescribed request ((Request.reads value request).1 decoded)
      simp only [ofValue, type_iff.2 typed, decisionType, event_id_iff.2 recovered, none, ne_eq,
        not_true_eq_false, if_false]
      rfl

theorem blank_iff :
    Text.blank text = true ↔ ∀ char ∈ text.toList, Text.isBlank char = true :=
  List.all_eq_true

theorem not_blank_iff :
    Text.blank text = false ↔ ∃ char ∈ text.toList, Text.isBlank char = false := by
  simp [Text.blank]

theorem classified_of_text (text : String) : Classified text (ofText text) := by
  unfold ofText
  split
  · rename_i blank
    exact .blank (blank_iff.1 blank)
  · rename_i solid
    rw [Bool.not_eq_true, not_blank_iff] at solid
    split
    · exact .unreadable solid ‹_› _
    · exact .valued solid ‹_› (judged_of_value _)

theorem Classified.bare_eq (classified : Classified text line) :
    line.bare = (ofText text).bare := by
  cases classified with
  | blank blank => rw [ofText, if_pos (blank_iff.2 blank)]
  | unreadable solid meaningless =>
      simp only [ofText, not_blank_iff.2 solid, meaningless, Bool.false_eq_true, if_false]
      rfl
  | valued solid means judged =>
      simp only [ofText, not_blank_iff.2 solid, means, Bool.false_eq_true, if_false]
      exact judged.bare_eq

/-- A text is classified as what it is, and apart from the detail of a fault, as nothing else. -/
theorem classification (text : String) :
    Classified text (ofText text) ∧
      ∀ line, Classified text line → line.bare = (ofText text).bare :=
  ⟨classified_of_text text, fun _ classified => classified.bare_eq⟩

end Line

end OptOut
