import Mathlib.Data.List.Forall2
import OptOut.Json.Record

/-!
# What a field holds

An object holds under a name what the last of its fields with that name does. What a field may mean
is said here without a word on how it is read, and reading finds just that meaning.
-/

namespace OptOut.Json.Value

/-- An object that holds something under a name, whatever stands before it. -/
def Holds (value : Value) (name : String) (content : Value) : Prop :=
  ∃ before after, value = .object (before ++ (name, content) :: after) ∧
    ∀ field ∈ after, field.1 ≠ name

/-- Only objects hold anything, and only what one of their fields does. -/
def Lacks (value : Value) (name : String) : Prop :=
  ∀ fields, value = .object fields → ∀ field ∈ fields, field.1 ≠ name

variable {value : Value} {name : String}

theorem lookup_eq_some_iff {fields : List (String × Value)} {content : Value} :
    lookup fields name = some content ↔
      ∃ before after, fields = before ++ (name, content) :: after ∧
        ∀ field ∈ after, field.1 ≠ name := by
  simp only [lookup, Option.map_eq_some_iff, List.find?_eq_some_iff_append]
  constructor
  · rintro ⟨⟨own, _⟩, ⟨named, later, earlier, joined, unlike⟩, rfl⟩
    obtain rfl : own = name := by simpa using named
    refine ⟨earlier.reverse, later.reverse, ?_, ?_⟩
    · simpa using congrArg List.reverse joined
    · intro field held
      simpa using unlike field (List.mem_reverse.1 held)
  · rintro ⟨before, after, rfl, unlike⟩
    refine ⟨(name, content), ⟨by simp, after.reverse, before.reverse, by simp, ?_⟩, rfl⟩
    intro field held
    simpa using unlike field (List.mem_reverse.1 held)

theorem field_eq_some_iff {content : Value} :
    value.field? name = some content ↔ value.Holds name content := by
  cases value with
  | object fields => simp only [field?, Holds, lookup_eq_some_iff, object.injEq]
  | null | bool | number | text | list => simp [field?, Holds]

theorem field_eq_none_iff : value.field? name = none ↔ value.Lacks name := by
  cases value with
  | object fields => simp [field?, Lacks, lookup]
  | null | bool | number | text | list => simp [field?, Lacks]

theorem holds_unique {content other : Value} (holds : value.Holds name content)
    (holds' : value.Holds name other) : content = other :=
  Option.some.inj ((field_eq_some_iff.2 holds).symm.trans (field_eq_some_iff.2 holds'))

/-! ## Meanings -/

def IsText (field : Value) (text : String) : Prop :=
  field = .text text

/-- A number in decimal, without sign, fraction or exponent. -/
def IsNumber (field : Value) (number : Nat) : Prop :=
  ∃ digits, field = .number ⟨false, digits, [], none⟩ ∧ Nat.ofDigitChars 10 digits 0 = number

def IsWord (field : Value) (word : UInt64) : Prop :=
  field.IsNumber word.toNat

def IsHalfWord (field : Value) (word : UInt32) : Prop :=
  field.IsNumber word.toNat

theorem null_is_no_text (text : String) : ¬IsText .null text :=
  nofun

theorem null_is_no_word (word : UInt64) : ¬IsWord .null word := by
  rintro ⟨digits, number, _⟩
  cases number

def IsList {α : Type} (means : Value → α → Prop) (field : Value) (contents : List α) : Prop :=
  ∃ items, field = .list items ∧ List.Forall₂ means items contents

/-- A field is read as what it means, and as nothing else. -/
def Reads {α : Type} (read : Value → Option α) (means : Value → α → Prop) : Prop :=
  ∀ field content, read field = some content ↔ means field content

theorem reads_text : Reads text? IsText := by
  intro field content
  cases field <;> simp [text?, IsText]

theorem reads_word : Reads word? IsWord := by
  intro field word
  simp only [IsWord, IsNumber]
  constructor
  · intro read
    cases field with
    | number literal =>
        obtain ⟨value, found, rfl⟩ := Option.map_eq_some_iff.1 read
        obtain ⟨negative, whole, fraction, exponent⟩ := literal
        simp only [Literal.word?, Option.ite_none_right_eq_some, Bool.and_eq_true,
          Bool.not_eq_true', List.isEmpty_iff, Option.isNone_iff_eq_none, decide_eq_true_eq,
          Option.some.injEq] at found
        obtain ⟨⟨⟨⟨rfl, rfl⟩, rfl⟩, fits⟩, rfl⟩ := found
        exact ⟨whole, rfl, (UInt64.toNat_ofNat_of_lt' fits).symm⟩
    | null | bool | text | list | object => simp [word?] at read
  · rintro ⟨digits, rfl, number⟩
    simp [word?, Literal.word?, number, word.toNat_lt]

theorem reads_half_word : Reads halfWord? IsHalfWord := by
  intro field word
  simp only [halfWord?, Option.bind_eq_some_iff, reads_word _ _, IsWord, IsHalfWord]
  constructor
  · rintro ⟨wide, number, found⟩
    obtain ⟨fits, same⟩ := Option.ite_none_right_eq_some.1 found
    rwa [← Option.some.inj same, UInt32.toNat_ofNat_of_lt' fits]
  · intro number
    have wide : word.toNat < UInt64.size := Nat.lt_trans word.toNat_lt (by decide)
    refine ⟨UInt64.ofNat word.toNat, ?_, ?_⟩
    · rwa [UInt64.toNat_ofNat_of_lt' wide]
    · rw [UInt64.toNat_ofNat_of_lt' wide, if_pos word.toNat_lt, UInt32.ofNat_toNat]

section Fields

variable {α : Type} {read : Value → Option α} {means : Value → α → Prop}

theorem mapM_eq_some_iff (reads : Reads read means) (items : List Value) (contents : List α) :
    items.mapM read = some contents ↔ List.Forall₂ means items contents := by
  induction items generalizing contents with
  | nil => cases contents <;> simp
  | cons item rest induction =>
      simp only [List.mapM_cons, Option.bind_eq_bind, Option.bind_eq_some_iff, reads item,
        induction]
      cases contents with
      | nil => simp
      | cons content later => simp [List.forall₂_cons]

theorem Reads.list (reads : Reads read means) : Reads (listOf? read) (IsList means) := by
  intro field contents
  cases field <;> simp [listOf?, list?, IsList, mapM_eq_some_iff reads]

def Has (value : Value) (name : String) (means : Value → α → Prop) (content : α) : Prop :=
  ∃ field, value.Holds name field ∧ means field content

def HasOr (value : Value) (name : String) (default : α) (means : Value → α → Prop)
    (content : α) : Prop :=
  value.Lacks name ∧ content = default ∨ value.Has name means content

def MayHave (value : Value) (name : String) (means : Value → α → Prop) (content : Option α) :
    Prop :=
  (value.Lacks name ∨ value.Holds name .null) ∧ content = none ∨
    ∃ present, content = some present ∧ value.Has name means present

theorem required_iff (reads : Reads read means) {content : α} :
    value.required name read = some content ↔ value.Has name means content := by
  simp only [required, Has, Option.bind_eq_some_iff, field_eq_some_iff, reads _ _]

theorem has_unique (reads : Reads read means) {content other : α}
    (has : value.Has name means content) (has' : value.Has name means other) : content = other :=
  Option.some.inj (((required_iff reads).2 has).symm.trans ((required_iff reads).2 has'))

theorem field_or_iff (reads : Reads read means) {default content : α} :
    value.fieldOr name default read = some content ↔
      value.HasOr name default means content := by
  simp only [fieldOr, HasOr, Has, ← field_eq_some_iff, ← field_eq_none_iff]
  cases value.field? name with
  | none => simp [eq_comm]
  | some field => simp [reads field]

theorem optional_iff (reads : Reads read means) (solid : ∀ content, ¬means .null content)
    {content : Option α} :
    value.optional name read = some content ↔ value.MayHave name means content := by
  simp only [optional, fieldOr, MayHave, Has, ← field_eq_some_iff, ← field_eq_none_iff]
  cases value.field? name with
  | none => simp [eq_comm]
  | some field =>
      cases field with
      | null => simp [solid, eq_comm]
      | bool | number | text | list | object =>
          simp only [Option.map_eq_some_iff, reads _ _, reduceCtorEq, Option.some.injEq,
            exists_eq_left', or_false, false_and, false_or]
          exact exists_congr fun present => and_comm.trans (and_congr_left' eq_comm)

end Fields

end OptOut.Json.Value
