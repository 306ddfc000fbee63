import Mathlib.Data.String.Basic
import OptOut.Text.Octets

/-!
# Texts read back from their octets

Octets begin with a character, which is then read whatever follows it, or with none, which a line
end or other ASCII behind them cannot mend. So what is read from octets in a row is read from each
of them in turn, and the octets of a text are read back as that text.
-/

namespace OptOut.Text

/-! ## Octets of one character -/

/-- Octets that are read as one character, wherever they stand and whatever follows them. -/
def Spells (octets : List UInt8) (char : Char) : Prop :=
  ∀ (index : Nat) (more : List UInt8), decodeFrom index (octets ++ more) =
    (decodeFrom (index + octets.length) more).map (char :: ·)

section Spelled

variable {a b c d low high : UInt8}

theorem spells_one (lead : leadOf a = some ⟨0, low, high⟩) : Spells [a] (Char.ofNat a.toNat) := by
  intro index more
  simp only [List.cons_append, List.nil_append, decodeFrom, lead]
  rfl

theorem spells_two (lead : leadOf a = some ⟨1, low, high⟩)
    (inside : (b < low || high < b) = false) :
    Spells [a, b] (Char.ofNat (a.toNat % 32 * 64 + payload b)) := by
  intro index more
  simp only [List.cons_append, List.nil_append, decodeFrom, lead, inside]
  rfl

theorem spells_three (lead : leadOf a = some ⟨2, low, high⟩)
    (inside : (b < low || high < b) = false) (continued : continues c = true) :
    Spells [a, b, c] (Char.ofNat (a.toNat % 16 * 4096 + payload b * 64 + payload c)) := by
  intro index more
  simp only [List.cons_append, List.nil_append, decodeFrom, lead, inside, continued]
  rfl

theorem spells_four (lead : leadOf a = some ⟨3, low, high⟩)
    (inside : (b < low || high < b) = false) (continued : continues c = true)
    (continued' : continues d = true) :
    Spells [a, b, c, d]
      (Char.ofNat (a.toNat % 8 * 262144 + payload b * 4096 + payload c * 64 + payload d)) := by
  intro index more
  simp only [List.cons_append, List.nil_append, decodeFrom, lead, inside, continued, continued']
  rfl

end Spelled

/-! ## How octets begin -/

/-- Octets that are no text, and do not come to be one if they go on in ASCII. -/
def Stuck (octets : List UInt8) : Prop :=
  ∀ (index : Nat) (more : List UInt8), (∀ octet ∈ more.head?, octet < 0x80) →
    ∃ fault, decodeFrom index (octets ++ more) = .error fault

inductive Composed : List UInt8 → Prop where
  | nothing : Composed []
  | spelled {front rest : List UInt8} {char : Char} (spells : Spells front char)
      (composed : Composed rest) : Composed (front ++ rest)
  | stuck {octets : List UInt8} (stuck : Stuck octets) : Composed octets

/-- At most three octets follow the first of a character, and none of them is ASCII. -/
theorem lead_bounds {octet : UInt8} {lead : Lead} (found : leadOf octet = some lead)
    (some : lead.following = 0 → False) : lead.following ≤ 3 ∧ 0x80 ≤ lead.low := by
  simp only [leadOf] at found
  repeat' split at found
  all_goals first
    | exact absurd found.symm (Option.some_ne_none _)
    | obtain rfl := Option.some.inj found
      first
      | exact absurd rfl some
      | decide

theorem continues_ascii {octet : UInt8} (ascii : octet < 0x80) : continues octet = false := by
  rw [continues, decide_eq_false (UInt8.not_le.2 ascii), Bool.false_and]

theorem composed (octets : List UInt8) : Composed octets := by
  fun_induction decodeFrom 0 octets
  case case1 => exact .nothing
  case case3 lead induction => exact .spelled (spells_one lead) induction
  case case6 a low high b rest inside _ lead induction =>
    exact .spelled (spells_two lead (Bool.eq_false_of_not_eq_true inside)) induction
  case case9 a low high b inside c rest continued _ lead _ induction =>
    refine .spelled (spells_three lead (Bool.eq_false_of_not_eq_true inside) ?_) induction
    simpa using continued
  case case12 a following low high some lead b inside one c continued two d rest continued'
      induction =>
    obtain ⟨most, -⟩ := lead_bounds lead some
    obtain rfl : following = 3 := by
      have none : following ≠ 0 := some
      change following ≤ 3 at most
      omega
    refine .spelled (spells_four lead (Bool.eq_false_of_not_eq_true inside) ?_ ?_) induction
    · simpa using continued
    · simpa using continued'
  -- Cut off behind the first, the second or the third octet.
  case case4 a following low high some lead =>
    obtain ⟨-, least⟩ := lead_bounds lead some
    refine .stuck fun index more ascii => ?_
    cases more with
    | nil => exact ⟨.incomplete index, by simp [decodeFrom, lead]⟩
    | cons octet more =>
        have below : octet < low := UInt8.lt_of_lt_of_le (ascii octet rfl) least
        exact ⟨.invalid 1 index, by simp [decodeFrom, lead, below]⟩
  case case7 a following low high some lead b inside one =>
    refine .stuck fun index more ascii => ?_
    cases more with
    | nil => exact ⟨.incomplete index, by simp [decodeFrom, lead, inside, one]⟩
    | cons octet more =>
        have strange := continues_ascii (ascii octet rfl)
        exact ⟨.invalid 2 index, by simp [decodeFrom, lead, inside, one, strange]⟩
  case case10 a following low high some lead b inside one c continued two =>
    refine .stuck fun index more ascii => ?_
    cases more with
    | nil => exact ⟨.incomplete index, by simp [decodeFrom, lead, inside, one, continued, two]⟩
    | cons octet more =>
        have strange := continues_ascii (ascii octet rfl)
        exact ⟨.invalid 3 index, by simp [decodeFrom, lead, inside, one, continued, two, strange]⟩
  -- Elsewhere the octet at fault is there already.
  all_goals exact .stuck fun index more _ => by simp [decodeFrom, *]

/-! ## Octets in a row -/

theorem map_eq_ok {α β : Type} {result : Except OctetFault α} {f : α → β} {value : β}
    (read : result.map f = .ok value) : ∃ inner, result = .ok inner ∧ value = f inner := by
  cases result with
  | error fault => exact nomatch read
  | ok inner => exact ⟨inner, rfl, (Except.ok.inj read).symm⟩

theorem map_eq_error {α β : Type} {result : Except OctetFault α} {f : α → β} {fault : OctetFault}
    (broken : result.map f = .error fault) : result = .error fault := by
  cases result with
  | error other => exact congrArg _ (Except.error.inj broken)
  | ok inner => exact nomatch broken

theorem map_map {α β γ : Type} (result : Except OctetFault α) (f : α → β) (g : β → γ) :
    (result.map f).map g = result.map (g ∘ f) := by
  cases result <;> rfl

/-- Reading goes on where the octets of a text end. -/
theorem decode_append {index : Nat} {octets : List UInt8} {chars : List Char}
    (read : decodeFrom index octets = .ok chars) (more : List UInt8) :
    decodeFrom index (octets ++ more) =
      (decodeFrom (index + octets.length) more).map (chars ++ ·) := by
  induction composed octets generalizing index chars with
  | nothing =>
      obtain rfl := Except.ok.inj read
      rw [List.nil_append, List.length_nil, Nat.add_zero]
      cases decodeFrom index more <;> rfl
  | spelled spells _ induction =>
      rw [spells] at read
      obtain ⟨later, read', rfl⟩ := map_eq_ok read
      rw [List.append_assoc, spells, induction read', map_map, List.length_append, Nat.add_assoc]
      rfl
  | stuck stuck =>
      obtain ⟨fault, broken⟩ := stuck index [] nofun
      rw [List.append_nil, read] at broken
      exact nomatch broken

/-- Octets that are no text do not become one if they go on in ASCII. -/
theorem decode_broken {index : Nat} {octets : List UInt8} {fault : OctetFault}
    (broken : decodeFrom index octets = .error fault) {more : List UInt8}
    (ascii : ∀ octet ∈ more.head?, octet < 0x80) :
    ∃ fault, decodeFrom index (octets ++ more) = .error fault := by
  induction composed octets generalizing index fault with
  | nothing => exact nomatch broken
  | spelled spells _ induction =>
      rw [spells] at broken
      obtain ⟨fault', broken'⟩ := induction (map_eq_error broken)
      exact ⟨fault', by rw [List.append_assoc, spells, broken']; rfl⟩
  | stuck stuck => exact stuck index more ascii

/-! ## Characters -/

deriving instance DecidableEq for Lead

/-- The octets that begin a character of two, of three and of four octets. The bounds on the octet
behind them keep out what has a shorter form, what is no character, and what is beyond the last. -/
theorem lead_forms :
    (∀ high < 32, 2 ≤ high → leadOf (UInt8.ofNat (high + 192)) = some ⟨1, 0x80, 0xBF⟩) ∧
      (∀ high < 16, leadOf (UInt8.ofNat (high + 224)) =
        some ⟨2, if high = 0 then 0xA0 else 0x80, if high = 13 then 0x9F else 0xBF⟩) ∧
      ∀ high < 5, leadOf (UInt8.ofNat (high + 240)) =
        some ⟨3, if high = 0 then 0x90 else 0x80, if high = 4 then 0x8F else 0xBF⟩ := by
  decide

/-- What an octet that is not the first of its character stands for. -/
theorem following_octet (code : Nat) :
    payload (UInt8.ofNat (code % 64 + 128)) = code % 64 ∧
      continues (UInt8.ofNat (code % 64 + 128)) = true := by
  have value : (UInt8.ofNat (code % 64 + 128)).toNat = code % 64 + 128 :=
    UInt8.toNat_ofNat_of_lt' (show code % 64 + 128 < 256 by omega)
  constructor
  · rw [payload, value]
    omega
  · simp only [continues, Bool.and_eq_true, decide_eq_true_eq, UInt8.le_iff_toNat_le, value]
    exact ⟨Nat.le_add_left _ _, by change _ ≤ 191; omega⟩

theorem inside_bounds {low high : UInt8} {code : Nat} (above : low.toNat ≤ code)
    (below : code ≤ high.toNat) :
    (decide (UInt8.ofNat code < low) || decide (high < UInt8.ofNat code)) = false := by
  have value : (UInt8.ofNat code).toNat = code :=
    UInt8.toNat_ofNat_of_lt' (Nat.lt_of_le_of_lt below high.toNat_lt)
  rw [decide_eq_false (by rw [UInt8.lt_iff_toNat_lt, value]; omega),
    decide_eq_false (by rw [UInt8.lt_iff_toNat_lt, value]; omega), Bool.or_self]

theorem spells_ascii {code : Nat} (most : code ≤ 127) :
    Spells [UInt8.ofNat code] (Char.ofNat code) := by
  have small : (UInt8.ofNat code).toNat = code :=
    UInt8.toNat_ofNat_of_lt' (show code < 256 by omega)
  have lead : leadOf (UInt8.ofNat code) = some ⟨0, 0, 0⟩ :=
    if_pos (UInt8.lt_iff_toNat_lt.2 (by rw [small]; change _ < 128; omega))
  have spells := spells_one lead
  rwa [small] at spells

theorem spells_in_two {code : Nat} (least : 127 < code) (most : code ≤ 2047) :
    Spells [UInt8.ofNat (code / 64 % 32 + 192), UInt8.ofNat (code % 64 + 128)]
      (Char.ofNat code) := by
  have lead := lead_forms.1 (code / 64 % 32) (by omega) (by omega)
  have inside : _ = false := @inside_bounds 0x80 0xBF (code % 64 + 128)
    (by change 128 ≤ _; omega) (by change _ ≤ 191; omega)
  have first : (UInt8.ofNat (code / 64 % 32 + 192)).toNat = code / 64 % 32 + 192 :=
    UInt8.toNat_ofNat_of_lt' (show code / 64 % 32 + 192 < 256 by omega)
  have whole : (code / 64 % 32 + 192) % 32 * 64 + code % 64 = code := by omega
  have spells := spells_two lead inside
  rwa [first, (following_octet code).1, whole] at spells

theorem spells_in_three {code : Nat} (least : 2047 < code) (most : code ≤ 65535)
    (valid : code < 0xD800 ∨ 0xDFFF < code) :
    Spells [UInt8.ofNat (code / 4096 % 16 + 224), UInt8.ofNat (code / 64 % 64 + 128),
      UInt8.ofNat (code % 64 + 128)] (Char.ofNat code) := by
  obtain ⟨low, continued⟩ := following_octet code
  have lead := lead_forms.2.1 (code / 4096 % 16) (by omega)
  have inside : _ = false := @inside_bounds
    (if code / 4096 % 16 = 0 then 0xA0 else 0x80) (if code / 4096 % 16 = 13 then 0x9F else 0xBF)
    (code / 64 % 64 + 128) (by split; change 160 ≤ _; omega; change 128 ≤ _; omega)
    (by split; change _ ≤ 159; omega; change _ ≤ 191; omega)
  have first : (UInt8.ofNat (code / 4096 % 16 + 224)).toNat = code / 4096 % 16 + 224 :=
    UInt8.toNat_ofNat_of_lt' (show code / 4096 % 16 + 224 < 256 by omega)
  have whole : (code / 4096 % 16 + 224) % 16 * 4096 + code / 64 % 64 * 64 + code % 64 = code := by
    omega
  have spells := spells_three lead inside continued
  rwa [first, (following_octet (code / 64)).1, low, whole] at spells

theorem spells_in_four {code : Nat} (least : 65535 < code) (most : code < 0x110000) :
    Spells [UInt8.ofNat (code / 262144 % 8 + 240), UInt8.ofNat (code / 4096 % 64 + 128),
      UInt8.ofNat (code / 64 % 64 + 128), UInt8.ofNat (code % 64 + 128)] (Char.ofNat code) := by
  obtain ⟨low, continued⟩ := following_octet code
  obtain ⟨middle, continued'⟩ := following_octet (code / 64)
  have lead := lead_forms.2.2 (code / 262144 % 8) (by omega)
  have inside : _ = false := @inside_bounds
    (if code / 262144 % 8 = 0 then 0x90 else 0x80) (if code / 262144 % 8 = 4 then 0x8F else 0xBF)
    (code / 4096 % 64 + 128) (by split; change 144 ≤ _; omega; change 128 ≤ _; omega)
    (by split; change _ ≤ 143; omega; change _ ≤ 191; omega)
  have first : (UInt8.ofNat (code / 262144 % 8 + 240)).toNat = code / 262144 % 8 + 240 :=
    UInt8.toNat_ofNat_of_lt' (show code / 262144 % 8 + 240 < 256 by omega)
  have whole : (code / 262144 % 8 + 240) % 8 * 262144 + code / 4096 % 64 * 4096 +
      code / 64 % 64 * 64 + code % 64 = code := by omega
  have spells := spells_four lead inside continued' continued
  rwa [first, (following_octet (code / 4096)).1, middle, low, whole] at spells

/-- Every character is read back from its octets. -/
theorem spells_char (char : Char) : Spells (String.utf8EncodeChar char) char := by
  have own : Char.ofNat char.val.toNat = char := char.ofNat_toNat
  have valid : char.val.toNat < 0xD800 ∨ 0xDFFF < char.val.toNat ∧ char.val.toNat < 0x110000 :=
    char.valid
  have spells : Spells (String.utf8EncodeChar char) (Char.ofNat char.val.toNat) := by
    delta String.utf8EncodeChar
    dsimp only
    split
    · exact spells_ascii ‹_›
    · split
      · exact spells_in_two (Nat.lt_of_not_le ‹_›) ‹_›
      · split
        · exact spells_in_three (Nat.lt_of_not_le ‹_›) ‹_› (valid.imp_right And.left)
        · exact spells_in_four (Nat.lt_of_not_le ‹_›) (by omega)
  rwa [own] at spells

/-- A line feed among the octets is one of the text: no other character has it among its own. -/
theorem feed_decoded {index : Nat} {octets : List UInt8} {chars : List Char}
    (read : decodeFrom index octets = .ok chars) (held : 10 ∈ octets) : '\n' ∈ chars := by
  obtain ⟨before, after, rfl⟩ := List.append_of_mem held
  cases first : decodeFrom index before with
  | error fault =>
      have ascii : ∀ octet ∈ (10 :: after).head?, octet < 0x80 := by
        rintro octet ⟨⟩
        decide
      obtain ⟨later, broken⟩ := decode_broken first ascii
      rw [read] at broken
      exact nomatch broken
  | ok chars' =>
      have feed : Spells [10] '\n' := @spells_ascii 10 (by decide)
      rw [decode_append first, ← List.singleton_append, feed] at read
      obtain ⟨inner, later, rfl⟩ := map_eq_ok read
      obtain ⟨rest, -, rfl⟩ := map_eq_ok later
      simp

/-! ## Texts -/

def octetsOf (text : String) : List UInt8 :=
  text.toUTF8.data.toList

theorem octets_of_eq (text : String) :
    octetsOf text = text.toList.flatMap String.utf8EncodeChar := by
  conv => lhs; rw [← String.ofList_toList (s := text)]
  exact List.toList_data_toByteArray

theorem octets_of_append (text more : String) :
    octetsOf (text ++ more) = octetsOf text ++ octetsOf more := by
  simp only [octets_of_eq, String.toList_append, List.flatMap_append]

theorem decode_octets_of (text : String) : decodeOctets (octetsOf text) = .ok text := by
  have read : ∀ (chars : List Char) (index : Nat),
      decodeFrom index (chars.flatMap String.utf8EncodeChar) = .ok chars := by
    intro chars
    induction chars with
    | nil => exact fun _ => rfl
    | cons char rest induction =>
        intro index
        rw [List.flatMap_cons, spells_char, induction]
        rfl
  rw [decodeOctets, octets_of_eq, read, Except.map, String.ofList_toList]

theorem feed_free {text : String} (plain : '\n' ∉ text.toList) : 10 ∉ octetsOf text := by
  obtain ⟨chars, read, same⟩ := map_eq_ok (decode_octets_of text)
  rw [same, String.toList_ofList] at plain
  exact fun held => plain (feed_decoded read held)

end OptOut.Text
