import Mathlib.Data.List.TakeWhile
import OptOut.Text.Lowercase

/-!
# Normal forms

A text in normal form has no blank character at either end, and lower-casing leaves each of its
characters alone. Normalizing gives such a text, and white space around the text does not enter
into it. All that is used of the case table is that its images are not blank and are mapped no
further, so that the context of a letter, which decides on the form of sigma, matters only once.
-/

namespace OptOut.Text

/-! ## Padding -/

def Solid (chars : List Char) : Prop :=
  (∀ char ∈ chars.head?, isBlank char = false) ∧ ∀ char ∈ chars.getLast?, isBlank char = false

theorem trim_chars_of_solid {chars : List Char} (solid : Solid chars) : trimChars chars = chars := by
  have stays : ∀ {chars : List Char}, (∀ char ∈ chars.head?, isBlank char = false) →
      chars.dropWhile isBlank = chars := by
    intro chars leading
    cases chars with
    | nil => rfl
    | cons char rest =>
        rw [List.dropWhile_cons_of_neg]
        simp [leading char rfl]
  rw [trimChars, stays solid.1, stays, List.reverse_reverse]
  rw [List.head?_reverse]
  exact solid.2

theorem head_drop_blanks {chars : List Char} {char : Char}
    (first : char ∈ (chars.dropWhile isBlank).head?) : isBlank char = false := by
  have solid := List.head?_dropWhile_not isBlank chars
  rw [Option.mem_def.1 first] at solid
  exact solid

theorem solid_trim_chars (chars : List Char) : Solid (trimChars chars) := by
  constructor
  · intro char first
    obtain ⟨cut, whole⟩ := List.dropWhile_suffix isBlank (l := (chars.dropWhile isBlank).reverse)
    have kept : trimChars chars ++ cut.reverse = chars.dropWhile isBlank := by
      rw [trimChars, ← List.reverse_append, whole, List.reverse_reverse]
    apply @head_drop_blanks chars
    rw [← kept, List.head?_append, Option.mem_def.1 first]
    rfl
  · intro char last
    rw [trimChars, List.getLast?_reverse] at last
    exact head_drop_blanks last

theorem trim_chars_eq_nil_iff {chars : List Char} :
    trimChars chars = [] ↔ ∀ char ∈ chars, isBlank char = true := by
  rw [trimChars, List.reverse_eq_nil_iff]
  constructor
  · intro none char held
    rw [List.dropWhile_eq_nil_iff] at none
    cases left : chars.dropWhile isBlank with
    | nil => exact List.dropWhile_eq_nil_iff.1 left char held
    | cons first rest =>
        have solid : isBlank first = false := @head_drop_blanks chars _ (by rw [left]; rfl)
        rw [none first (by simp [left])] at solid
        exact nomatch solid
  · intro blank
    rw [List.dropWhile_eq_nil_iff.2 blank]
    rfl

theorem trim_of_solid {text : String} (solid : Solid text.toList) : trim text = text := by
  rw [trim, trim_chars_of_solid solid, String.ofList_toList]

/-- Blank characters around a text do not change what is left of it. -/
theorem trim_padded {before after : String} (blank : blank before = true)
    (blank' : Text.blank after = true) (text : String) :
    trim (before ++ text ++ after) = trim text := by
  have leading : ∀ char ∈ before.toList, isBlank char = true := List.all_eq_true.1 blank
  have trailing : ∀ char ∈ after.toList, isBlank char = true := List.all_eq_true.1 blank'
  rw [trim, trim, trimChars, trimChars, String.toList_append, String.toList_append,
    List.append_assoc, List.dropWhile_append_of_pos leading, List.dropWhile_append]
  split
  · rename_i empty
    rw [List.dropWhile_eq_nil_iff.2 trailing, List.isEmpty_iff.1 empty]
  · rw [List.reverse_append, List.dropWhile_append_of_pos]
    exact fun char held => trailing char (List.mem_reverse.1 held)

/-! ## The case table -/

theorem in_ranges_missed {ranges : List (Nat × Nat)} {code : Nat}
    (missed : ∀ range ∈ ranges, code < range.1 ∨ range.2 < code) :
    inRanges ranges code = false := by
  induction ranges with
  | nil => rfl
  | cons range rest induction =>
      obtain ⟨first, last⟩ := range
      rw [List.forall_mem_cons] at missed
      rw [inRanges]
      split
      · rfl
      · have beyond : ¬code ≤ last := Nat.not_le.2 (missed.1.resolve_left ‹_›)
        rw [decide_eq_false beyond, induction missed.2, Bool.or_self]

def CaseRun.top (run : CaseRun) : Nat :=
  run.image + (run.last - run.first)

/-- Whether no run maps a code point from `low` to `high`; where `even` holds, only those at an even
distance from `low` are asked about. -/
def unmapped (low high : Nat) (even : Bool) : List CaseRun → Bool
  | [] => true
  | run :: rest =>
    decide (high < run.first) ||
      ((decide (run.last < low) ||
        (even && run.step % 2 == 0 && (low + run.first) % 2 == 1)) && unmapped low high even rest)

theorem lower_code_unmapped {runs : List CaseRun} {low high code : Nat} {even : Bool}
    (none : unmapped low high even runs = true) (above : low ≤ code) (below : code ≤ high)
    (steps : even = true → (code - low) % 2 = 0) : lowerCode runs code = code := by
  induction runs with
  | nil => rfl
  | cons run rest induction =>
      simp only [unmapped, Bool.or_eq_true, Bool.and_eq_true, decide_eq_true_eq, beq_iff_eq] at none
      rw [lowerCode]
      split
      · rfl
      · obtain ⟨passed, none⟩ := none.resolve_left (by omega)
        split
        · obtain ⟨⟨even, double⟩, odd⟩ := passed.resolve_left (by omega)
          have steps := steps even
          rw [if_neg]
          intro divides
          have divides := Nat.dvd_trans (Nat.dvd_of_mod_eq_zero double)
            (Nat.dvd_of_mod_eq_zero divides)
          omega
        · exact induction none

/-- What becomes of a code point: it stays, or the run it is in maps it. -/
theorem lower_code_cases (runs : List CaseRun) (code : Nat) :
    lowerCode runs code = code ∨ ∃ run ∈ runs, run.first ≤ code ∧ code ≤ run.last ∧
      (code - run.first) % run.step = 0 ∧ lowerCode runs code = run.image + (code - run.first) := by
  induction runs with
  | nil => exact .inl rfl
  | cons run rest induction =>
      rw [lowerCode]
      split
      · exact .inl rfl
      · split
        · split
          · exact .inr ⟨run, List.mem_cons_self, by omega, ‹_›, ‹_›, rfl⟩
          · exact .inl rfl
        · rcases induction with stays | ⟨own, held, mapped⟩
          · exact .inl stays
          · exact .inr ⟨own, List.mem_cons_of_mem _ held, mapped⟩

/-- No image is mapped again. Runs that take every other letter have their images in between. -/
theorem images_unmapped : (lowerCaseRuns.all fun run =>
    unmapped run.image run.top (run.step % 2 == 0 || run.first == run.last) lowerCaseRuns) =
      true := by
  decide +kernel

/-- Images are characters, not blank, and not the letter that becomes two. -/
theorem images_plain : ∀ run ∈ lowerCaseRuns,
    (run.top < 0xD800 ∨ 0xDFFF < run.image ∧ run.top < 0x110000) ∧
      (∀ range ∈ blankRanges, run.top < range.1 ∨ range.2 < run.image) ∧
      (run.top < 0x130 ∨ 0x130 < run.image) := by
  decide +kernel

/-! ## Lower-case characters -/

theorem toNat_of_valid {code : Nat} (valid : code.isValidChar) : (Char.ofNat code).toNat = code := by
  rw [Char.ofNat, dif_pos valid]
  rfl

/-- Lower-casing leaves the character alone, wherever it stands. -/
def IsLower (char : Char) : Prop :=
  char ≠ capitalSigma ∧ lowerChar char = [char]

instance (char : Char) : Decidable (IsLower char) :=
  inferInstanceAs (Decidable (_ ∧ _))

theorem is_lower_of_code {char : Char} (other : char ≠ '\u0130')
    (stays : lowerCode lowerCaseRuns char.toNat = char.toNat) : IsLower char := by
  constructor
  · rintro rfl
    exact absurd stays (by decide)
  · rw [lowerChar, if_neg other, stays, Char.ofNat_toNat]

/-- The lower-case form of a character is lower-case, and blank only if the character is. -/
theorem lower_char_lower {char lower : Char} (held : lower ∈ lowerChar char) :
    IsLower lower ∧ (isBlank char = false → isBlank lower = false) := by
  by_cases dotted : char = '\u0130'
  · rw [lowerChar, if_pos dotted, List.mem_cons, List.mem_singleton] at held
    rcases held with rfl | rfl <;> exact ⟨by decide, fun _ => by decide⟩
  · rw [lowerChar, if_neg dotted, List.mem_singleton] at held
    rcases lower_code_cases lowerCaseRuns char.toNat with stays | ⟨run, own, low, high, step, image⟩
    · rw [stays, Char.ofNat_toNat] at held
      rw [held]
      exact ⟨is_lower_of_code dotted stays, id⟩
    · have free := List.all_eq_true.1 images_unmapped run own
      obtain ⟨valid, solid, plain⟩ := images_plain run own
      have below : run.image + (char.toNat - run.first) ≤ run.top := by
        rw [CaseRun.top]
        omega
      have code : lower.toNat = run.image + (char.toNat - run.first) := by
        rw [held, image, toNat_of_valid]
        rcases valid with small | large
        · exact .inl (by omega)
        · exact .inr (by omega)
      have stays : lowerCode lowerCaseRuns lower.toNat = lower.toNat := by
        rw [code]
        refine lower_code_unmapped free (Nat.le_add_right _ _) below fun even => ?_
        rw [Nat.add_sub_cancel_left]
        rw [Bool.or_eq_true, beq_iff_eq, beq_iff_eq] at even
        rcases even with double | single
        · exact Nat.mod_eq_zero_of_dvd
            (Nat.dvd_trans (Nat.dvd_of_mod_eq_zero double) (Nat.dvd_of_mod_eq_zero step))
        · omega
      have other : lower ≠ '\u0130' := by
        rintro rfl
        have : ('\u0130' : Char).toNat = 0x130 := rfl
        omega
      refine ⟨is_lower_of_code other stays, fun _ => in_ranges_missed fun range held => ?_⟩
      have := solid range held
      omega

/-- What stands first of a text that is lower-cased, and what of it is known. -/
theorem lower_chars_cons (before after : List Char) (char : Char) :
    ∃ first more, lowerChars before (char :: after) =
        first :: more ++ lowerChars (char :: before) after ∧
      ∀ lower ∈ first :: more, IsLower lower ∧ (isBlank char = false → isBlank lower = false) := by
  by_cases sigma : char = capitalSigma
  · refine ⟨lowerSigma before after, [], by rw [lowerChars, if_pos sigma], ?_⟩
    intro lower held
    rw [List.mem_singleton.1 held, lowerSigma]
    split <;> exact ⟨by decide, fun _ => by decide⟩
  · obtain ⟨first, more, form⟩ : ∃ first more, lowerChar char = first :: more := by
      rw [lowerChar]
      split <;> exact ⟨_, _, rfl⟩
    refine ⟨first, more, by rw [lowerChars, if_neg sigma, form], fun lower held => ?_⟩
    exact lower_char_lower (form ▸ held)

theorem lower_chars_lower (before chars : List Char) :
    ∀ lower ∈ lowerChars before chars, IsLower lower := by
  induction chars generalizing before with
  | nil => exact List.forall_mem_nil _
  | cons char after induction =>
      obtain ⟨first, more, form, lower⟩ := lower_chars_cons before after char
      rw [form, List.forall_mem_append]
      exact ⟨fun own held => (lower own held).1, induction (char :: before)⟩

theorem lower_chars_of_lower {chars : List Char} (lower : ∀ char ∈ chars, IsLower char)
    (before : List Char) : lowerChars before chars = chars := by
  induction chars generalizing before with
  | nil => rfl
  | cons char after induction =>
      rw [List.forall_mem_cons] at lower
      rw [lowerChars, if_neg lower.1.1, lower.1.2, induction lower.2]
      rfl

theorem lower_chars_eq_nil_iff {before chars : List Char} :
    lowerChars before chars = [] ↔ chars = [] := by
  cases chars with
  | nil => exact iff_of_true rfl rfl
  | cons char after =>
      obtain ⟨first, more, form, -⟩ := lower_chars_cons before after char
      simp [form]

theorem solid_lower_chars {chars : List Char} (solid : Solid chars) (before : List Char) :
    Solid (lowerChars before chars) := by
  obtain ⟨leading, trailing⟩ := solid
  constructor
  · cases chars with
    | nil => exact leading
    | cons char after =>
        obtain ⟨first, more, form, lower⟩ := lower_chars_cons before after char
        simp only [form, List.cons_append, List.head?_cons, Option.mem_some_iff]
        rintro own rfl
        exact (lower first List.mem_cons_self).2 (leading char rfl)
  · clear leading
    induction chars generalizing before with
    | nil => exact trailing
    | cons char after induction =>
        obtain ⟨first, more, form, lower⟩ := lower_chars_cons before after char
        intro own last
        rw [form, List.getLast?_append] at last
        cases after with
        | nil =>
            rw [lowerChars, List.getLast?_nil, Option.none_or] at last
            exact (lower own (List.mem_of_getLast? last)).2 (trailing char rfl)
        | cons second later =>
            -- The last character comes from what follows, which is not empty.
            have filled : lowerChars (char :: before) (second :: later) ≠ [] :=
              fun empty => List.cons_ne_nil _ _ (lower_chars_eq_nil_iff.1 empty)
            rw [List.getLast?_eq_some_getLast filled, Option.some_or] at last
            rw [← List.getLast?_eq_some_getLast filled] at last
            exact induction (char :: before) (by simpa using trailing) own last

/-! ## Words in ASCII -/

theorem lower_ascii {char : Char} (ascii : char.toNat < 128) :
    char ≠ capitalSigma ∧ lowerChar char = [char.toLower] ∧
      isBlank char.toLower = isBlank char := by
  have all : ∀ code < 128, Char.ofNat code ≠ capitalSigma ∧
      lowerChar (Char.ofNat code) = [(Char.ofNat code).toLower] ∧
      isBlank (Char.ofNat code).toLower = isBlank (Char.ofNat code) := by
    decide +kernel
  have own := all char.toNat ascii
  rwa [Char.ofNat_toNat] at own

/-- Only letters in ASCII have a lower-case form in ASCII here. -/
theorem ascii_of_to_lower {char : Char} (ascii : char.toLower.toNat < 128) :
    char.toNat < 128 := by
  by_cases capital : 'A'.val ≤ char.val ∧ char.val ≤ 'Z'.val
  · exact Nat.lt_of_le_of_lt capital.2 (by decide)
  · have kept : char.toLower = char := dif_neg capital
    rwa [kept] at ascii

theorem lower_chars_ascii {chars : List Char} (ascii : ∀ char ∈ chars, char.toNat < 128)
    (before : List Char) : lowerChars before chars = chars.map Char.toLower := by
  induction chars generalizing before with
  | nil => rfl
  | cons char after induction =>
      rw [List.forall_mem_cons] at ascii
      obtain ⟨other, lower, -⟩ := lower_ascii ascii.1
      rw [lowerChars, if_neg other, lower, induction ascii.2]
      rfl

/-! ## Normal forms -/

theorem normalize_normalize (text : String) : normalize (normalize text) = normalize text := by
  have solid := solid_lower_chars (solid_trim_chars text.toList) []
  have fixed := lower_chars_of_lower (lower_chars_lower [] (trimChars text.toList)) []
  simp only [normalize, lowercase, trim, String.toList_ofList, trim_chars_of_solid solid, fixed]

def Padded (text padded : String) : Prop :=
  ∃ before after, blank before = true ∧ blank after = true ∧ padded = before ++ text ++ after

theorem Padded.normalize_eq {text padded : String} (around : Padded text padded) :
    normalize padded = normalize text := by
  obtain ⟨before, after, blank, blank', rfl⟩ := around
  rw [normalize, trim_padded blank blank', normalize]

theorem normalize_eq_empty_iff {text : String} : normalize text = "" ↔ blank text = true := by
  rw [normalize, trim, lowercase, String.toList_ofList, blank, List.all_eq_true,
    ← trim_chars_eq_nil_iff, ← @lower_chars_eq_nil_iff []]
  simp

/-- A word in ASCII is the normal form of its spellings in any letter case. -/
theorem normalize_ascii {word spelling : String}
    (plain : (word.toList.all fun char => char.toNat < 128 && !isBlank char) = true)
    (same : spelling.toLower = word) : normalize spelling = word := by
  simp only [List.all_eq_true, Bool.and_eq_true, decide_eq_true_eq, Bool.not_eq_true'] at plain
  have chars : spelling.toList.map Char.toLower = word.toList := by
    rw [← same]
    exact String.toList_map.symm
  have ascii : ∀ char ∈ spelling.toList, char.toNat < 128 := fun char held =>
    ascii_of_to_lower (plain _ (chars ▸ List.mem_map_of_mem held)).1
  have filled : ∀ char ∈ spelling.toList, isBlank char = false := by
    intro char held
    rw [← (lower_ascii (ascii char held)).2.2]
    exact (plain _ (chars ▸ List.mem_map_of_mem held)).2
  have trimmed : trim spelling = spelling :=
    trim_of_solid ⟨fun char first => filled char (List.mem_of_mem_head? first),
      fun char last => filled char (List.mem_of_getLast? last)⟩
  rw [normalize, trimmed, lowercase, lower_chars_ascii ascii, chars, String.ofList_toList]

end OptOut.Text
