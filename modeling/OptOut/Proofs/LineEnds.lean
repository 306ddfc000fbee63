import Mathlib.Data.List.Forall2
import OptOut.Proofs.Session
import OptOut.Proofs.Text.Normal
import OptOut.Proofs.Text.Octets

/-!
# How lines end

A line is taken for the same whether it ends in a line feed, in a carriage return and a line feed,
or not at all. Only the words on octets that are no text may differ, where a character is cut off at
the end of the line, and those words go to the log. No policy reads the log, so two inputs whose
lines differ in their ends only are answered alike, and leave the same behind.
-/

namespace OptOut

/-! ## Line ends -/

def LineEnd (octets : List UInt8) : Prop :=
  ∀ octet ∈ octets, octet = 10 ∨ octet = 13

def SameText (line other : List UInt8) : Prop :=
  ∃ text ending ending', LineEnd ending ∧ LineEnd ending' ∧
    line = text ++ ending ∧ other = text ++ ending'

theorem same_text_refl (line : List UInt8) : SameText line line :=
  ⟨line, [], [], List.forall_mem_nil _, List.forall_mem_nil _, by simp, by simp⟩

def withReturns (input : List UInt8) : List UInt8 :=
  input.flatMap fun octet => if octet = 10 then [13, 10] else [octet]

def ended (input : List UInt8) : List UInt8 :=
  if input = [] ∨ input.getLast? = some 10 then input else input ++ [10]

theorem with_returns_plain {text : List UInt8} (plain : 10 ∉ text) : withReturns text = text := by
  have kept : text.flatMap (fun octet => if octet = 10 then [13, 10] else [octet]) =
      text.flatMap fun octet => [octet] := by
    refine List.flatMap_congr fun octet held => if_neg ?_
    rintro rfl
    exact plain held
  rw [withReturns, kept, List.flatMap_singleton']

theorem with_returns_ended {text : List UInt8} (plain : 10 ∉ text) (rest : List UInt8) :
    withReturns (text ++ 10 :: rest) = text ++ [13] ++ 10 :: withReturns rest := by
  have front := with_returns_plain plain
  rw [withReturns] at front
  rw [withReturns, List.flatMap_append, front, List.append_assoc]
  rfl

theorem ended_append (text rest : List UInt8) :
    ended (text ++ 10 :: rest) = text ++ 10 :: ended rest := by
  cases rest with
  | nil => simp [ended]
  | cons octet others =>
      have last : (text ++ 10 :: octet :: others).getLast? = (octet :: others).getLast? := by
        rw [List.getLast?_append_cons, List.getLast?_cons_cons]
      simp only [ended, last]
      split <;> simp_all

theorem split_with_returns {lines : List (List UInt8)} (lined : Lined lines) :
    List.Forall₂ SameText (splitLines (withReturns lines.flatten)) lines := by
  induction lined with
  | nothing => exact .nil
  | unended filled plain =>
      rw [List.flatten_singleton, with_returns_plain plain, split_lines_unended filled plain]
      exact .cons (same_text_refl _) .nil
  | @ended text rest plain _ induction =>
      have plain' : 10 ∉ text ++ [13] := by simp [plain]
      have same : SameText (text ++ [13] ++ [10]) (text ++ [10]) :=
        ⟨text, [13, 10], [10], by simp [LineEnd], by simp [LineEnd], by simp, rfl⟩
      rw [List.flatten_cons, List.append_assoc, List.singleton_append, with_returns_ended plain,
        split_lines_ended plain']
      exact .cons same induction

theorem split_ended {lines : List (List UInt8)} (lined : Lined lines) :
    List.Forall₂ SameText (splitLines (ended lines.flatten)) lines := by
  induction lined with
  | nothing => exact .nil
  | @unended line filled plain =>
      have lacking : line.getLast? ≠ some 10 := fun last => plain (List.mem_of_getLast? last)
      have more : ended line = line ++ 10 :: [] := if_neg (not_or.2 ⟨filled, lacking⟩)
      have same : SameText (line ++ [10]) line :=
        ⟨line, [10], [], by simp [LineEnd], by simp [LineEnd], rfl, by simp⟩
      rw [List.flatten_singleton, more, split_lines_ended plain]
      exact .cons same .nil
  | @ended text rest plain _ induction =>
      rw [List.flatten_cons, List.append_assoc, List.singleton_append, ended_append,
        split_lines_ended plain]
      exact .cons (same_text_refl _) induction

/-! ## What a line is taken for -/

namespace Text

theorem decode_line_end {octets : List UInt8} (ending : LineEnd octets) (index : Nat) :
    ∃ chars, decodeFrom index octets = .ok chars ∧ ∀ char ∈ chars, isBlank char = true := by
  induction octets generalizing index with
  | nil => exact ⟨[], rfl, List.forall_mem_nil _⟩
  | cons octet rest induction =>
      obtain ⟨first, others⟩ := List.forall_mem_cons.1 ending
      obtain ⟨chars, read, blank⟩ := induction others (index + 1)
      have step : decodeFrom index (octet :: rest) =
          (decodeFrom (index + 1) rest).map (Char.ofNat octet.toNat :: ·) := by
        rcases first with rfl | rfl <;> rfl
      refine ⟨Char.ofNat octet.toNat :: chars, by rw [step, read]; rfl,
        List.forall_mem_cons.2 ⟨?_, blank⟩⟩
      rcases first with rfl | rfl <;> decide

end Text

namespace Line

/-- Lines that are taken for the same, or that cannot be read but name the same event. -/
inductive Alike : Line → Line → Prop where
  | refl (line : Line) : Alike line line
  | malformed (id : Option String) (error error' : LineFault) :
      Alike (.malformed id error) (.malformed id error')

theorem of_text_ended (text : String) {chars : List Char}
    (blank : ∀ char ∈ chars, Text.isBlank char = true) :
    ofText (text ++ String.ofList chars) = ofText text := by
  have blank' : Text.blank (String.ofList chars) = true := by
    rw [Text.blank, String.toList_ofList]
    exact List.all_eq_true.2 blank
  have same : Text.blank (text ++ String.ofList chars) = Text.blank text := by
    rw [Text.blank] at blank'
    rw [Text.blank, String.toList_append, List.all_append, blank', Bool.and_true, Text.blank]
  have trimmed : Text.trim (text ++ String.ofList chars) = Text.trim text := by
    have padded := @Text.trim_padded "" _ rfl blank' text
    rwa [String.empty_append] at padded
  rw [ofText, ofText, same, trimmed]

theorem of_octets_ended {octets ending : List UInt8} (ends : LineEnd ending) {chars : List Char}
    (read : Text.decodeFrom 0 octets = .ok chars) :
    ofOctets (octets ++ ending) = ofText (String.ofList chars) := by
  obtain ⟨more, read', blank⟩ := Text.decode_line_end ends (0 + octets.length)
  have whole : Text.decodeOctets (octets ++ ending) =
      .ok (String.ofList chars ++ String.ofList more) := by
    rw [Text.decodeOctets, Text.decode_append read, read', ← String.ofList_append]
    rfl
  rw [ofOctets, whole]
  exact of_text_ended (String.ofList chars) blank

/-- What is no text does not become one by a line end, though the words on it may change. -/
theorem of_octets_broken {octets ending : List UInt8} (ends : LineEnd ending)
    {fault : Text.OctetFault} (broken : Text.decodeFrom 0 octets = .error fault) :
    ∃ error, ofOctets (octets ++ ending) = .malformed none error := by
  have ascii : ∀ octet ∈ ending.head?, octet < 0x80 := by
    intro octet held
    rcases ends octet (List.mem_of_mem_head? held) with rfl | rfl <;> decide
  obtain ⟨fault', broken'⟩ := Text.decode_broken broken ascii
  refine ⟨.invalidUtf8 fault'.message, ?_⟩
  rw [ofOctets, Text.decodeOctets, broken']
  rfl

theorem alike_of_same_text {line other : List UInt8} (same : SameText line other) :
    Alike (ofOctets line) (ofOctets other) := by
  obtain ⟨octets, ending, ending', ends, ends', rfl, rfl⟩ := same
  cases read : Text.decodeFrom 0 octets with
  | ok chars =>
      rw [of_octets_ended ends read, of_octets_ended ends' read]
      exact .refl _
  | error fault =>
      obtain ⟨error, line⟩ := of_octets_broken ends read
      obtain ⟨error', other⟩ := of_octets_broken ends' read
      rw [line, other]
      exact .malformed none error error'

/-- The beginning of a character at the end of an input, and before a line end. -/
example :
    ofOctets [0xC3] =
      .malformed none (.invalidUtf8 "incomplete utf-8 byte sequence from index 0") ∧
    ofOctets [0xC3, 10] =
      .malformed none (.invalidUtf8 "invalid utf-8 sequence of 1 bytes from index 0") := by
  decide +kernel

end Line

/-! ## Without the log -/

def Site.unlogged {β : Type} (site : Site β) : Site β :=
  { site with log := [] }

def Verdict.unlogged {π β : Type} (verdict : Verdict π β) : Verdict π β :=
  { verdict with site := verdict.site.unlogged }

def Session.unlogged {π β : Type} (session : Session π β) : Session π β :=
  { session with site := session.site.unlogged }

/-- The policies of a type write to the log, and do not read it. -/
def LogBlind (π β : Type) [Policy π β] : Prop :=
  ∀ (request : Request) (policy : π) {site other : Site β}, site.unlogged = other.unlogged →
    (Policy.decide request policy site).unlogged = (Policy.decide request policy other).unlogged

theorem Site.unlogged_eq_iff {β : Type} {site other : Site β} :
    site.unlogged = other.unlogged ↔
      site.backend = other.backend ∧ site.metrics = other.metrics := by
  simp [unlogged]

theorem Verdict.unlogged_eq_iff {π β : Type} {verdict other : Verdict π β} :
    verdict.unlogged = other.unlogged ↔ verdict.reply = other.reply ∧
      verdict.policy = other.policy ∧ verdict.site.unlogged = other.site.unlogged := by
  cases verdict
  cases other
  simp [unlogged]

theorem Session.unlogged_eq_iff {π β : Type} {session other : Session π β} :
    session.unlogged = other.unlogged ↔ session.policies = other.policies ∧
      session.site.unlogged = other.site.unlogged ∧ session.replies = other.replies ∧
      session.report = other.report := by
  cases session
  cases other
  simp [unlogged]

theorem StandardPolicy.log_blind {β : Type} [Backend β] : LogBlind StandardPolicy β := by
  intro request policy site other same
  obtain ⟨backend, metrics⟩ := Site.unlogged_eq_iff.1 same
  rw [Verdict.unlogged_eq_iff]
  cases policy with
  | constant policy => exact ⟨rfl, rfl, same⟩
  | admission rules => exact ⟨rfl, rfl, same⟩
  | registrar policy =>
      simp only [Policy.decide, decide, MeteredRegistrar.decide, backend, metrics, Site.unlogged,
        true_and]

section Blind

variable {π β : Type} [Policy π β] (blind : LogBlind π β)

include blind

theorem PolicyChain.decide_unlogged (request : Request) (policies : List π) {site other : Site β}
    (same : site.unlogged = other.unlogged) :
    (decide request policies site).unlogged = (decide request policies other).unlogged := by
  induction policies generalizing site other with
  | nil => exact Verdict.unlogged_eq_iff.2 ⟨rfl, rfl, same⟩
  | cons policy rest induction =>
      obtain ⟨reply, next, left⟩ := Verdict.unlogged_eq_iff.1 (blind request policy same)
      obtain ⟨lastReply, last, lastLeft⟩ := Verdict.unlogged_eq_iff.1 (induction left)
      rw [Verdict.unlogged_eq_iff]
      simp only [decide]
      rw [← reply]
      split
      · exact ⟨lastReply, by rw [next, last], lastLeft⟩
      · exact ⟨rfl, by rw [next], left⟩

namespace Session

omit blind in
/-- What was wrong with a line goes to the log only. -/
theorem handle_malformed_unlogged {session other : Session π β}
    (same : session.unlogged = other.unlogged) (id : Option String) (error error' : LineFault) :
    (session.handle (.malformed id error)).unlogged =
      (other.handle (.malformed id error')).unlogged := by
  obtain ⟨policies, site, replies, report⟩ := unlogged_eq_iff.1 same
  obtain ⟨backend, metrics⟩ := Site.unlogged_eq_iff.1 site
  cases id <;>
    simp only [handle, answer, countMalformed, unlogged_eq_iff, Site.unlogged_eq_iff, policies,
      backend, metrics, replies, report, and_self]

theorem handle_unlogged {session other : Session π β} (same : session.unlogged = other.unlogged)
    {line line' : Line} (alike : line.Alike line') :
    (session.handle line).unlogged = (other.handle line').unlogged := by
  obtain ⟨policies, site, replies, report⟩ := unlogged_eq_iff.1 same
  cases alike with
  | refl line =>
      cases line with
      | blank => exact same
      | ignored type =>
          exact unlogged_eq_iff.2 ⟨policies, site, replies, by simp only [handle, report]⟩
      | request request =>
          have verdict := PolicyChain.decide_unlogged blind request other.policies site
          obtain ⟨reply, next, left⟩ := Verdict.unlogged_eq_iff.1 verdict
          obtain ⟨backend, metrics⟩ := Site.unlogged_eq_iff.1 left
          simp only [handle, answer, unlogged_eq_iff, Site.unlogged_eq_iff, policies, replies,
            report, reply, next, backend, metrics, and_self]
      | malformed id error => exact handle_malformed_unlogged same id error error
  | malformed id error error' => exact handle_malformed_unlogged same id error error'

theorem read_unlogged {session other : Session π β} (same : session.unlogged = other.unlogged)
    {line line' : List UInt8} (text : SameText line line') :
    (session.read line).unlogged = (other.read line').unlogged := by
  obtain ⟨policies, site, replies, report⟩ := unlogged_eq_iff.1 same
  refine handle_unlogged blind ?_ (Line.alike_of_same_text text)
  exact unlogged_eq_iff.2 ⟨policies, site, replies, by simp only [report]⟩

theorem foldl_read_unlogged {lines lines' : List (List UInt8)}
    (texts : List.Forall₂ SameText lines lines') {session other : Session π β}
    (same : session.unlogged = other.unlogged) :
    (lines.foldl read session).unlogged = (lines'.foldl read other).unlogged := by
  induction texts generalizing session other with
  | nil => exact same
  | cons text _ induction => exact induction (read_unlogged blind same text)

/-- Two inputs whose lines differ in their ends only. -/
theorem run_unlogged (policies : List π) (site : Site β) {input input' : List UInt8}
    (texts : List.Forall₂ SameText (splitLines input) (splitLines input')) :
    (run policies site input).unlogged = (run policies site input').unlogged :=
  foldl_read_unlogged blind texts rfl

end Session

end Blind

/-- It does not matter to a session how the lines of its input end. -/
theorem Session.line_ends_indifferent {β : Type} [Backend β] (policies : List StandardPolicy)
    (site : Site β) (input : List UInt8) :
    let session := run policies site input
    let returned := run policies site (withReturns input)
    let whole := run policies site (ended input)
    returned.unlogged = session.unlogged ∧ whole.unlogged = session.unlogged ∧
      returned.output = session.output ∧ whole.output = session.output ∧
      returned.report = session.report ∧ whole.report = session.report := by
  intro session returned whole
  have lined := lined_split_lines input
  have joined := flatten_split_lines input
  have texts := split_with_returns lined
  have texts' := split_ended lined
  rw [joined] at texts texts'
  have same : returned.unlogged = session.unlogged :=
    run_unlogged StandardPolicy.log_blind policies site texts
  have same' : whole.unlogged = session.unlogged :=
    run_unlogged StandardPolicy.log_blind policies site texts'
  obtain ⟨-, -, replies, report⟩ := unlogged_eq_iff.1 same
  obtain ⟨-, -, replies', report'⟩ := unlogged_eq_iff.1 same'
  exact ⟨same, same', congrArg outputOf replies, congrArg outputOf replies', report, report'⟩

end OptOut
