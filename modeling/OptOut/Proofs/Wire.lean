import OptOut.Line
import OptOut.Log
import OptOut.Proofs.Json.RoundTrip
import OptOut.Proofs.Text.Normal
import OptOut.Proofs.Text.Octets

/-!
# Requests and events on the wire

A request is written on one line, and read back from it whatever white space stands around it; what
is read is the request itself unless it needs no decision or its event has no id. The text of an
event, which is logged when its record could not be stored, is read back as that event.
-/

namespace OptOut

open Json

/-! ## Fields -/

namespace Json.Value

@[simp]
theorem lookup_nil (name : String) : lookup [] name = none :=
  rfl

@[simp]
theorem lookup_append (fields later : List (String × Value)) (name : String) :
    lookup (fields ++ later) name = (lookup later name).or (lookup fields name) := by
  rw [lookup, List.reverse_append, List.find?_append, Option.map_or]
  rfl

@[simp]
theorem lookup_cons (own : String) (value : Value) (rest : List (String × Value)) (name : String) :
    lookup ((own, value) :: rest) name =
      (lookup rest name).or (if own = name then some value else none) := by
  rw [← List.singleton_append, lookup_append]
  by_cases same : own = name <;> simp [lookup, same]

theorem word_of_nat (word : UInt64) : (ofNat word.toNat).word? = some word := by
  rw [ofNat, word?, Literal.word_of_nat word.toNat_lt, Option.map_some, UInt64.ofNat_toNat]

theorem half_word_of_nat (word : UInt32) : (ofNat word.toNat).halfWord? = some word := by
  have wide : word.toNat < UInt64.size := Nat.lt_trans word.toNat_lt (by decide)
  rw [halfWord?, ofNat, word?, Literal.word_of_nat wide, Option.map_some, Option.bind_some,
    UInt64.toNat_ofNat_of_lt' wide, if_pos word.toNat_lt, UInt32.ofNat_toNat]

theorem texts_of_texts (texts : List String) : (ofTexts texts).texts? = some texts := by
  rw [texts?, listOf?, ofTexts, list?, Option.bind_some]
  exact mapM_read_back fun _ _ => rfl

/-- A field that is left out where there is nothing to write. -/
theorem optional_read_back {α : Type} {value : Value} {name : String} {read : Value → Option α}
    (write : α → Value) (back : ∀ content, read (write content) = some content)
    (solid : ∀ content, write content ≠ .null) {content : Option α}
    (field : value.field? name = content.map write) :
    value.optional name read = some content := by
  rw [optional, fieldOr, field]
  cases content with
  | none => rfl
  | some content =>
      simp only [Option.map_some]
      split
      · exact absurd ‹_› (solid content)
      · rw [back, Option.map_some]

theorem number_fits (word : UInt64) (depth : Nat) : (ofNat word.toNat).Fits depth := by
  cases depth <;> exact Literal.sound_of_nat word.toNat_lt

theorem half_number_fits (word : UInt32) (depth : Nat) : (ofNat word.toNat).Fits depth := by
  have wide : word.toNat < UInt64.size := Nat.lt_trans word.toNat_lt (by decide)
  cases depth <;> exact Literal.sound_of_nat wide

@[simp]
theorem text_fits (text : String) (depth : Nat) : (Value.text text).Fits depth := by
  cases depth <;> trivial

end Json.Value

/-! ## Events -/

namespace Tag

theorem of_value_to_value (tag : Tag) : ofValue tag.toValue = some tag := by
  rw [ofValue, toValue, Value.texts_of_texts, Option.map_some]

theorem fits (tag : Tag) (depth : Nat) : tag.toValue.Fits (depth + 1) := by
  refine items_fit_iff.2 fun item held => ?_
  obtain ⟨text, -, rfl⟩ := List.mem_map.1 held
  exact Value.text_fits text depth

end Tag

theorem tags_of_value (tags : List Tag) :
    Value.listOf? Tag.ofValue (.list (tags.map Tag.toValue)) = some tags :=
  mapM_read_back fun tag _ => tag.of_value_to_value

theorem tags_fit (tags : List Tag) (depth : Nat) :
    (Value.list (tags.map Tag.toValue)).Fits (depth + 2) :=
  items_fit_iff.2 (List.forall_mem_map.2 fun tag _ => tag.fits depth)

namespace Event

theorem of_value_to_value (event : Event) : ofValue event.toValue = some event := by
  obtain ⟨id, pubkey, kind, createdAt, tags, content, sig⟩ := event
  cases sig <;>
    simp [ofValue, toValue, Value.required, Value.fieldOr, Value.optional, Value.field?,
      Value.text?, Value.half_word_of_nat, Value.word_of_nat, tags_of_value]

/-- A list of tags, each of them a list of texts, is the deepest part of an event. -/
theorem fits (event : Event) (depth : Nat) : event.toValue.Fits (depth + 3) := by
  have kind := Value.half_number_fits event.kind (depth + 2)
  have createdAt := Value.number_fits event.createdAt (depth + 2)
  have tags := tags_fit event.tags depth
  rw [toValue, Value.Fits]
  cases event.sig <;> simp [FieldsFit, kind, createdAt, tags]

theorem of_text_text (event : Event) : ofText event.text = some event := by
  have read : recordOfText fieldNames event.text = some event.toValue := by
    refine record_of_text_compact (event.fits 125) ?_ ?_
    · cases event.sig <;> simp [fieldNames]
    · cases event.sig <;> simp
  rw [ofText, read, Option.bind_some, of_value_to_value]

end Event

/-! ## Requests -/

namespace Request

/-- A field that is left out if it has no value. -/
@[simp]
theorem lookup_optional_field (own : String) (value : Option Value) (name : String) :
    Value.lookup (optionalField own value) name = if own = name then value else none := by
  cases value <;> simp [optionalField]

theorem optional_field_fits (name : String) {value : Option Value} {depth : Nat}
    (fits : ∀ content ∈ value, content.Fits depth) :
    FieldsFit (optionalField name value) depth := by
  cases value with
  | none => trivial
  | some content => exact ⟨fits content rfl, trivial⟩

theorem of_value_to_value (request : Request) : ofValue request.toValue = some request := by
  have receivedAt : request.toValue.optional "receivedAt" Value.word? = some request.receivedAt :=
    Value.optional_read_back (fun word => .ofNat word.toNat) Value.word_of_nat (fun _ => nofun)
      (by simp [toValue, Value.field?])
  have sourceType : request.toValue.optional "sourceType" Value.text? = some request.sourceType :=
    Value.optional_read_back .text (fun _ => rfl) (fun _ => nofun)
      (by simp [toValue, Value.field?])
  have sourceInfo : request.toValue.optional "sourceInfo" Value.text? = some request.sourceInfo :=
    Value.optional_read_back .text (fun _ => rfl) (fun _ => nofun)
      (by simp [toValue, Value.field?])
  have type : request.toValue.required "type" Value.text? = some request.type := by
    simp [toValue, Value.required, Value.field?, Value.text?]
  have event : request.toValue.required "event" Event.ofValue = some request.event := by
    simp [toValue, Value.required, Value.field?, Event.of_value_to_value]
  simp only [ofValue, type, event, receivedAt, sourceType, sourceInfo, Option.bind_eq_bind,
    Option.bind_some]

theorem fits (request : Request) (depth : Nat) : request.toValue.Fits (depth + 4) := by
  have event := request.event.fits depth
  have moment : ∀ content ∈ request.receivedAt.map fun moment => Value.ofNat moment.toNat,
      content.Fits (depth + 3) := by
    intro content held
    obtain ⟨word, -, rfl⟩ := Option.map_eq_some_iff.1 held
    exact Value.number_fits word _
  have text : ∀ source : Option String, ∀ content ∈ source.map Value.text,
      content.Fits (depth + 3) := by
    intro source content held
    obtain ⟨text, -, rfl⟩ := Option.map_eq_some_iff.1 held
    exact Value.text_fits text _
  rw [toValue, Value.Fits]
  simp only [fields_fit_append]
  exact ⟨⟨⟨⟨Value.text_fits _ _, event, trivial⟩, optional_field_fits _ moment⟩,
    optional_field_fits _ (text _)⟩, optional_field_fits _ (text _)⟩

/-- Nothing in the text of a request breaks the line. -/
theorem text_inline (request : Request) : Inline request.text.toList := by
  rw [text, Value.compact, String.toList_ofList]
  exact inline_print request.toValue (request.fits 123)

end Request

/-! ## Lines -/

namespace Line

/-- A value that is an object is not lost in white space. -/
theorem of_text_padded {before after : String} (blank : Text.blank before = true)
    (blank' : Text.blank after = true) {fields : List (String × Value)}
    (fits : (Value.object fields).Fits maximalDepth) :
    ofText (before ++ (Value.object fields).compact ++ after) = ofValue (.object fields) := by
  obtain ⟨inner, text⟩ := print_object_ends fields
  have chars : (Value.object fields).compact.toList = '{' :: (inner ++ ['}']) := by
    rw [Value.compact, String.toList_ofList, text]
  have solid : Text.blank (before ++ (Value.object fields).compact ++ after) = false := by
    simp [Text.blank, chars, show Text.isBlank '{' = false by decide]
  have ends : Text.Solid (Value.object fields).compact.toList := by
    rw [chars]
    constructor
    · rintro char ⟨⟩
      decide
    · rw [← List.cons_append, List.getLast?_concat]
      rintro char ⟨⟩
      decide
  rw [ofText, solid, if_neg Bool.false_ne_true, Text.trim_padded blank blank',
    Text.trim_of_solid ends, Value.of_text_compact fits]

/-- What becomes of a request once it is a value. -/
theorem of_request_value (request : Request) :
    ofValue request.toValue =
      if request.type ≠ decisionType then .ignored request.type
      else if request.event.id = "" then .malformed none (.missingField "event.id")
      else .request request := by
  have type : request.toValue.required "type" Value.text? = some request.type := by
    simp [Request.toValue, Value.required, Value.field?, Value.text?]
  have id : eventIdOf request.toValue = (some request.event.id).filter (· ≠ "") := by
    have event : request.toValue.field? "event" = some request.event.toValue := by
      simp [Request.toValue, Value.field?]
    have own : request.event.toValue.field? "id" = some (.text request.event.id) := by
      cases absent : request.event.sig <;> simp [Event.toValue, Value.field?, absent]
    simp [eventIdOf, event, own, Value.text?]
  rw [ofValue, type, id, Request.of_value_to_value]
  by_cases empty : request.event.id = "" <;> simp [empty, Option.filter_some]

/-- A request to decide on an event that has an id, as the relay writes it. -/
theorem of_octets_request (request : Request) (decided : request.type = decisionType)
    (named : request.event.id ≠ "") :
    ofOctets (Text.octetsOf (request.text ++ "\n")) = .request request := by
  have padded : ofText ("" ++ request.text ++ "\n") = ofValue request.toValue :=
    of_text_padded (by decide) (by decide) (request.fits 123)
  rw [ofOctets, Text.decode_octets_of]
  rw [String.empty_append, of_request_value, if_neg (not_not_intro decided), if_neg named] at padded
  exact padded

end Line

namespace Request

/-- A request is read back from its line, whatever blank characters are around it, unless it needs
no decision or its event has no id; and an event is read back from its text in the log. -/
theorem wire_round_trip (request : Request) {before after : String}
    (blank : Text.blank before = true) (blank' : Text.blank after = true) (event : Event)
    (error : StoreFault) :
    '\n' ∉ request.text.toList ∧
      Line.ofText (before ++ request.text ++ after) =
        (if request.type ≠ decisionType then .ignored request.type
        else if request.event.id = "" then .malformed none (.missingField "event.id")
        else .request request) ∧
      ((Log.Entry.appendFailed event error).fields.lookup "event").bind Event.ofText =
        some event := by
  refine ⟨fun broken => ?_, ?_, ?_⟩
  · exact absurd (request.text_inline _ broken) (by decide)
  · rw [← Line.of_request_value]
    exact Line.of_text_padded blank blank' (request.fits 123)
  · have logged : (Log.Entry.appendFailed event error).fields.lookup "event" =
        some event.text := by
      simp [Log.Entry.fields, List.lookup_cons]
    rw [logged, Option.bind_some, event.of_text_text]

/-- A request whose texts have to be escaped, between blanks that JSON does not know. -/
theorem wire_round_trip_of_escapes :
    let event : Event :=
      { id := "\"\\", pubkey := "\x00\n", kind := 4294967295, createdAt := 18446744073709551615
        tags := [⟨[]⟩, ⟨["relay", "𝄞"]⟩], content := "\x7f\u2028", sig := none }
    let request : Request := ⟨decisionType, event, some 0, none, some ""⟩
    Text.blank "\u00a0\u2003" = true ∧ Text.blank "\x0b\n" = true ∧
      '\n' ∉ request.text.toList ∧
      Line.ofText ("\u00a0\u2003" ++ request.text ++ "\x0b\n") = .request request ∧
      ((Log.Entry.appendFailed event (.unavailable "")).fields.lookup "event").bind
        Event.ofText = some event := by
  intro event request
  have blank : Text.blank "\u00a0\u2003" = true := by decide
  have blank' : Text.blank "\x0b\n" = true := by decide
  obtain ⟨unbroken, read, logged⟩ :=
    wire_round_trip request blank blank' event (.unavailable "")
  exact ⟨blank, blank', unbroken, read, logged⟩

end Request

end OptOut
