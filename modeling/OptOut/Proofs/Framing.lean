import OptOut.Proofs.Classification
import OptOut.Proofs.Session
import OptOut.Proofs.Text.Octets
import OptOut.Proofs.Wire

/-!
# Replies on the wire

A reply takes one line whatever its texts hold, and is read back from it. So what a session writes
falls into lines at the line feeds alone, one for each reply in the order of the requests, and the
id in each is the one that the line it answers gives for its event. No id breaks out of its line.
-/

namespace OptOut

open Json

/-! ## Replies -/

theorem Action.of_value_name (action : Action) :
    Action.ofValue (.text action.name) = some action := by
  cases action <;> rfl

namespace Reply

theorem fits (reply : Reply) (depth : Nat) : reply.toValue.Fits (depth + 1) := by
  simp [toValue, Value.Fits, FieldsFit]

theorem of_value_to_value (reply : Reply) : ofValue reply.toValue = some reply := by
  simp [ofValue, toValue, Value.required, Value.field?, Value.text?, Action.of_value_name]

theorem of_text_line (reply : Reply) : ofText reply.line = some reply := by
  have read : recordOfText fieldNames reply.line = some reply.toValue :=
    record_of_text_compact (reply.fits 127) (by simp [fieldNames]) (by simp)
  rw [ofText, read, Option.bind_some, of_value_to_value]

/-- Reading back tells any two replies apart. -/
theorem line_injective : Function.Injective line := by
  intro reply other same
  have read := reply.of_text_line
  rw [same, other.of_text_line] at read
  exact (Option.some.inj read).symm

theorem line_inline (reply : Reply) : Inline reply.line.toList := by
  rw [line, Value.compact, String.toList_ofList]
  exact inline_print reply.toValue (reply.fits 0)

def octets (reply : Reply) : List UInt8 :=
  Text.octetsOf reply.line ++ [10]

def ofOctets (octets : List UInt8) : Option Reply :=
  (Text.decodeOctets (octets.takeWhile (· ≠ 10))).toOption.bind ofText

theorem feed_free (reply : Reply) : 10 ∉ Text.octetsOf reply.line := by
  refine Text.feed_free fun broken => ?_
  exact absurd (reply.line_inline _ broken) (by decide)

theorem of_octets_octets (reply : Reply) : ofOctets reply.octets = some reply := by
  have front : reply.octets.takeWhile (· ≠ 10) = Text.octetsOf reply.line := by
    rw [octets, List.takeWhile_append_of_pos]
    · simp
    · intro octet held
      exact decide_eq_true fun feed => reply.feed_free (feed ▸ held)
  have decoded : (Text.decodeOctets (Text.octetsOf reply.line)).toOption = some reply.line := by
    rw [Text.decode_octets_of]
    rfl
  rw [ofOctets, front, decoded, Option.bind_some, of_text_line]

theorem of_octets_comp : ofOctets ∘ octets = some := by
  funext reply
  rw [Function.comp_apply, of_octets_octets]

end Reply

/-! ## Whose reply it is -/

theorem ConstantPolicy.reply_id (policy : ConstantPolicy) (id : String) :
    (policy.reply id).id = id := by
  unfold ConstantPolicy.reply
  split <;> rfl

theorem AdmissionRules.reply_id (rules : AdmissionRules) (event : Event) :
    (rules.reply event).id = event.id := by
  unfold AdmissionRules.reply
  split <;> rfl

variable {β : Type} [Backend β]

theorem Registrar.decide_reply_id (registrar : Registrar) (event : Event) (backend : β) :
    (registrar.decide event backend).answer.reply.id = event.id := by
  rcases registrar.decide_cases event backend with ⟨_, turn⟩ | ⟨_, _, _, _, turn⟩ |
    ⟨_, _, _, _, turn⟩ <;> rw [turn] <;> rfl

theorem StandardPolicy.decide_reply_id (policy : StandardPolicy) (request : Request)
    (site : Site β) : (policy.decide request site).reply.id = request.event.id := by
  cases policy with
  | constant policy => exact policy.reply_id request.event.id
  | admission rules => exact rules.reply_id request.event
  | registrar policy =>
      simp only [decide, MeteredRegistrar.decide]
      exact policy.registrar.decide_reply_id request.event site.backend

theorem PolicyChain.decide_reply_id (policies : List StandardPolicy) (request : Request)
    (site : Site β) : (decide request policies site).reply.id = request.event.id := by
  induction policies generalizing site with
  | nil => rfl
  | cons policy rest induction =>
      simp only [decide]
      split
      · exact induction _
      · exact policy.decide_reply_id request site

namespace Line

/-- The id of the event that a line is answered for. -/
def answered? : Line → Option String
  | .request asked => some asked.event.id
  | .malformed id _ => id
  | _ => none

theorem reply_id (line : Line) {decide : Request → Reply}
    (echoed : ∀ request, (decide request).id = request.event.id) :
    (line.reply? decide).map (·.id) = line.answered? := by
  cases line with
  | blank => rfl
  | ignored type => rfl
  | request asked => exact congrArg some (echoed asked)
  | malformed id error => cases id <;> rfl

theorem Judged.recovered {value : Value} {line : Line} {id : String} (judged : Judged value line)
    (answered : line.answered? = some id) : Recovered value id := by
  cases judged with
  | untyped untyped recovered => exact (recovered id).1 answered
  | ignored typed other => exact nomatch answered
  | unnamed typed lost => exact nomatch answered
  | request typed recovered described => exact Option.some.inj answered ▸ recovered
  | undescribed typed recovered undescribed detail => exact Option.some.inj answered ▸ recovered

theorem Classified.recovered {text : String} {line : Line} {id : String}
    (classified : Classified text line) (answered : line.answered? = some id) :
    ∃ value, Value.ofText (Text.trim text) = some value ∧ Recovered value id := by
  cases classified with
  | blank blank => exact nomatch answered
  | unreadable solid meaningless detail => exact nomatch answered
  | valued solid means judged => exact ⟨_, means, judged.recovered answered⟩

/-- What a line is answered for stands in it as the id of its event. -/
theorem answered_recovered {octets : List UInt8} {id : String}
    (answered : (ofOctets octets).answered? = some id) :
    ∃ text value, Text.decodeOctets octets = .ok text ∧
      Value.ofText (Text.trim text) = some value ∧ Recovered value id := by
  unfold ofOctets at answered
  split at answered
  · rename_i text decoded
    obtain ⟨value, means, recovered⟩ := (classified_of_text text).recovered answered
    exact ⟨text, value, decoded, means, recovered⟩
  · exact nomatch answered

end Line

theorem Stance.replies_ids (stance : Stance β) (lines : List Line) :
    (stance.replies lines).map (·.id) = lines.filterMap Line.answered? := by
  induction lines using List.reverseRecOn with
  | nil => rfl
  | append_singleton lines line induction =>
      have echoed : ∀ request : Request,
          ((stance.after (requestsOf lines)).reply request).id = request.event.id :=
        fun request => PolicyChain.decide_reply_id _ request _
      have last := line.reply_id echoed
      rw [replies_append_one, List.map_append, induction, List.filterMap_append,
        List.filterMap_cons, ← last]
      cases line.reply? (stance.after (requestsOf lines)).reply <;> rfl

/-! ## What is written -/

namespace Session

theorem octets_of_output (replies : List Reply) :
    Text.octetsOf (outputOf replies) = (replies.map Reply.octets).flatten := by
  induction replies with
  | nil => rfl
  | cons reply rest induction =>
      have first : outputOf (reply :: rest) = reply.line ++ "\n" ++ outputOf rest := by
        simp [outputOf, String.join_eq, String.append_assoc]
      rw [first, Text.octets_of_append, Text.octets_of_append, induction]
      rfl

theorem lined_output (replies : List Reply) : Lined (replies.map Reply.octets) := by
  induction replies with
  | nil => exact .nothing
  | cons reply rest induction => exact .ended reply.feed_free induction

theorem split_output (replies : List Reply) :
    splitLines (Text.octetsOf (outputOf replies)) = replies.map Reply.octets := by
  rw [octets_of_output, split_lines_of_lined (lined_output replies)]

theorem output_ended (replies : List Reply) :
    Text.octetsOf (outputOf replies) = [] ∨
      (Text.octetsOf (outputOf replies)).getLast? = some 10 := by
  rw [octets_of_output]
  rcases replies.eq_nil_or_concat with rfl | ⟨earlier, last, rfl⟩
  · exact .inl rfl
  · exact .inr (by simp [Reply.octets])

/-- A reply fits on one line and is read back from it, and no other reply has that line. So what a
session writes is text in lines, as many as are counted; they read as the replies to the lines of
the input in their order, and each names the event that its own line named. -/
theorem replies_framed (policies : List StandardPolicy) (site : Site β) (input : List UInt8) :
    let asked := (splitLines input).map Line.ofOctets
    let session := run policies site input
    let written := Text.octetsOf session.output
    (∀ reply : Reply, Inline reply.line.toList ∧ Reply.ofText reply.line = some reply) ∧
    Function.Injective Reply.line ∧
    Text.decodeOctets written = .ok session.output ∧
    (written = [] ∨ written.getLast? = some 10) ∧
    (splitLines written).length = session.report.replies ∧
    (splitLines written).map Reply.ofOctets =
      (Stance.replies ⟨policies, site.backend⟩ asked).map some ∧
    ((splitLines written).filterMap Reply.ofOctets).map (·.id) =
      asked.filterMap Line.answered? ∧
    (∀ octets id, (Line.ofOctets octets).answered? = some id →
      ∃ text value, Text.decodeOctets octets = .ok text ∧
        Value.ofText (Text.trim text) = some value ∧ Line.Recovered value id) := by
  intro asked session written
  have served := served_run policies site input
  have lines : splitLines written = session.replies.map Reply.octets :=
    split_output session.replies
  have read : (splitLines written).map Reply.ofOctets = session.replies.map some := by
    rw [lines, List.map_map, Reply.of_octets_comp]
  have kept : (splitLines written).filterMap Reply.ofOctets = session.replies := by
    have whole : (session.replies.map some).filterMap id = session.replies := by simp
    rw [← read, List.filterMap_map] at whole
    exact whole
  refine ⟨fun reply => ⟨reply.line_inline, reply.of_text_line⟩, Reply.line_injective,
    Text.decode_octets_of session.output, output_ended session.replies, ?_, ?_, ?_,
    fun _ _ => Line.answered_recovered⟩
  · rw [lines, List.length_map, served.replies, served.report]
  · rw [read, served.replies]
  · rw [kept, served.replies, Stance.replies_ids]

/-- An id that would begin a line of its own, in a line that is no request. -/
theorem replies_framed_of_feed :
    let line := "\x7b\"event\":\x7b\"id\":\"\\n\\\"\"\x7d\x7d\n".toUTF8.toList
    let policies : List StandardPolicy := []
    let site : Site Deployment := { backend := { clock := .standing 0 } }
    let session := run policies site line
    let written := Text.octetsOf session.output
    let reply := Reply.reject "\n\"" unreadable
    (Line.ofOctets line).answered? = some reply.id ∧
      (∃ text value, Text.decodeOctets line = .ok text ∧
        Value.ofText (Text.trim text) = some value ∧ Line.Recovered value reply.id) ∧
      splitLines written = [reply.octets] ∧ session.report.replies = 1 := by
  intro line policies site session written reply
  obtain ⟨-, -, -, -, counted, -, -, recovered⟩ := replies_framed policies site line
  have answered : (Line.ofOctets line).answered? = some reply.id := by decide +kernel
  have lines : splitLines written = [reply.octets] := by decide +kernel
  refine ⟨answered, recovered line reply.id answered, lines, ?_⟩
  rw [← counted, lines]
  rfl

end Session

end OptOut
