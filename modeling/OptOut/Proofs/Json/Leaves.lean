import OptOut.Json.Printer
import OptOut.Json.Value
import Mathlib.Data.List.TakeWhile
import Mathlib.Tactic.Positivity

/-!
# Strings and numbers read back

What the printer writes for a string or a number is read back as it was, whatever comes after it.
A printed string is closed by its quote; a number ends where the text does or where a character
follows that cannot belong to it.
-/

namespace OptOut

namespace Json

/-! ## Strings -/

/-- What the reader makes of the way a character is printed. -/
def pieceOf (char : Char) : Piece :=
  match char with
  | '\x08' | '\t' | '\n' | '\x0c' | '\r' => .plain char
  | _ => if char.toNat < 0x20 then .unit char.toNat else .plain char

def piecesOf (text : String) : List Piece :=
  text.toList.map pieceOf

theorem hex_value_digit : ∀ digit < 16, Text.hexValue (Nat.digitChar digit) = some digit := by
  decide

theorem padded_hex_control : ∀ code < 0x20,
    Text.paddedHex 4 code = ['0', '0', Nat.digitChar (code / 16), Nat.digitChar (code % 16)] := by
  decide

theorem read_control {char : Char} (control : char.toNat < 0x20) (chars : List Char) :
    readPieces (['\\', 'u'] ++ Text.paddedHex 4 char.toNat ++ chars) =
      (readPieces chars).map fun (pieces, rest) => (.unit char.toNat :: pieces, rest) := by
  have high := hex_value_digit (char.toNat / 16) (by omega)
  have low := hex_value_digit (char.toNat % 16) (by omega)
  have code : char.toNat / 16 * 16 + char.toNat % 16 = char.toNat := by omega
  have zero : Text.hexValue '0' = some 0 := rfl
  rw [padded_hex_control char.toNat control]
  cases read : readPieces chars <;> simp [readPieces, zero, high, low, read, code]

theorem read_plain {char : Char} (quote : char ≠ '"') (backslash : char ≠ '\\')
    (plain : ¬char.toNat < 0x20) (chars : List Char) :
    readPieces (char :: chars) =
      (readPieces chars).map fun (pieces, rest) => (.plain char :: pieces, rest) := by
  rw [readPieces.eq_def]
  split
  case h_5 same =>
    obtain ⟨rfl, rfl⟩ := List.cons.inj same
    rw [if_neg plain]
    cases readPieces chars <;> rfl
  all_goals simp_all

theorem read_escape (char : Char) (chars : List Char) :
    readPieces (escape char ++ chars) =
      (readPieces chars).map fun (pieces, rest) => (pieceOf char :: pieces, rest) := by
  unfold escape
  split
  -- The seven characters with an escape of one letter.
  iterate 7
    cases read : readPieces chars <;> simp [readPieces, shortEscape, pieceOf, read]
  have piece : pieceOf char =
      if char.toNat < 0x20 then .unit char.toNat else .plain char := by
    unfold pieceOf
    split <;> simp_all
  rw [piece]
  split
  · exact read_control ‹_› chars
  · exact read_plain ‹_› ‹_› ‹_› chars

theorem read_pieces (chars rest : List Char) :
    readPieces (chars.flatMap escape ++ '"' :: rest) = some (chars.map pieceOf, rest) := by
  induction chars with
  | nil => rfl
  | cons char chars induction =>
      rw [List.flatMap_cons, List.append_assoc, read_escape, induction]
      rfl

/-- A control character is no half of a surrogate pair, so what comes next does not matter. -/
theorem resolve_control {code : Nat} (control : code < 0x20) (pieces : List Piece) :
    resolve (.unit code :: pieces) = (resolve pieces).map (Char.ofNat code :: ·) := by
  have high : isHighSurrogate code = false := by simp [isHighSurrogate]; omega
  have low : isLowSurrogate code = false := by simp [isLowSurrogate]; omega
  cases pieces with
  | nil => simp [resolve, high, low]
  | cons piece rest => cases piece <;> simp [resolve, high, low]

theorem resolve_piece (char : Char) (pieces : List Piece) :
    resolve (pieceOf char :: pieces) = (resolve pieces).map (char :: ·) := by
  unfold pieceOf
  split
  iterate 5 rfl
  split
  · rw [resolve_control ‹_›, Char.ofNat_toNat]
  · rfl

theorem resolve_text (text : String) : resolveText (piecesOf text) = some text := by
  have chars : ∀ chars : List Char, resolve (chars.map pieceOf) = some chars := by
    intro chars
    induction chars with
    | nil => rfl
    | cons char chars induction =>
        rw [List.map_cons, resolve_piece, induction]
        rfl
  rw [resolveText, piecesOf, chars, Option.map_some, String.ofList_toList]

/-! ## Numbers -/

/-- No number that ends here could go on with these characters. -/
def Severed (chars : List Char) : Prop :=
  ∀ char ∈ chars.head?, char.isDigit = false ∧ char ≠ '.' ∧ char ≠ 'e' ∧ char ≠ 'E'

structure Literal.Sound (literal : Literal) : Prop where
    whole : ∀ char ∈ literal.whole, char.isDigit = true
    nonempty : literal.whole ≠ []
    leading : literal.whole.head? = some '0' → literal.whole = ['0']
    fraction : ∀ char ∈ literal.fraction, char.isDigit = true
    range : literal.overflows = false

theorem digits_decimal {number : Nat} : ∀ char ∈ Nat.toDigits 10 number, char.isDigit = true :=
  fun _ => Nat.isDigit_of_mem_toDigits (by decide) (by decide)

theorem digit_is_no_mark {char : Char} (digit : char.isDigit = true) :
    char ≠ '+' ∧ char ≠ '-' ∧ char ≠ '.' ∧ char ≠ 'e' ∧ char ≠ 'E' := by
  refine ⟨?_, ?_, ?_, ?_, ?_⟩ <;> rintro rfl <;> exact absurd digit (by decide)

theorem read_digits {digits rest : List Char} (all : ∀ char ∈ digits, char.isDigit = true)
    (ended : ∀ char ∈ rest.head?, char.isDigit = false) :
    readDigits (digits ++ rest) = (digits, rest) := by
  have stop : rest.takeWhile Char.isDigit = [] ∧ rest.dropWhile Char.isDigit = rest := by
    cases rest with
    | nil => exact ⟨rfl, rfl⟩
    | cons char rest => simp [ended char rfl]
  rw [readDigits, List.takeWhile_append_of_pos all, List.dropWhile_append_of_pos all, stop.1,
    stop.2, List.append_nil]

theorem read_whole {literal : Literal} (sound : literal.Sound) {rest : List Char}
    (ended : ∀ char ∈ rest.head?, char.isDigit = false) :
    readWhole (literal.whole ++ rest) = some (literal.whole, rest) := by
  rw [readWhole, read_digits sound.whole ended]
  split
  case h_1 empty => exact absurd (Prod.mk.inj empty).1 sound.nonempty
  case h_2 zero =>
    have whole := (Prod.mk.inj zero).1
    have alone := sound.leading (by rw [whole]; rfl)
    rw [whole] at alone
    exact nomatch alone
  case h_3 same => rw [same]

def printFraction (digits : List Char) : List Char :=
  if digits.isEmpty then [] else '.' :: digits

theorem read_fraction {digits rest : List Char} (all : ∀ char ∈ digits, char.isDigit = true)
    (ended : ∀ char ∈ rest.head?, char.isDigit = false ∧ char ≠ '.') :
    readFraction (printFraction digits ++ rest) = some (digits, rest) := by
  cases digits with
  | nil =>
      rw [printFraction, List.isEmpty_nil, if_pos rfl, List.nil_append, readFraction.eq_def]
      split
      · exact absurd rfl (ended _ rfl).2
      · rfl
  | cons digit digits =>
      have read := read_digits all fun char first => (ended char first).1
      rw [printFraction, List.isEmpty_cons, if_neg (by decide), List.cons_append, readFraction,
        read]

theorem read_magnitude (negative : Bool) (magnitude : Nat) {rest : List Char}
    (ended : ∀ char ∈ rest.head?, char.isDigit = false) :
    readMagnitude negative (Nat.toDigits 10 magnitude ++ rest) =
      some (some (if negative then -(magnitude : Int) else magnitude), rest) := by
  rw [readMagnitude, read_digits digits_decimal ended]
  split
  case h_1 empty => exact absurd (Prod.mk.inj empty).1 Nat.toDigits_ne_nil
  case h_2 same =>
    obtain ⟨rfl, rfl⟩ := Prod.mk.inj same
    rw [Nat.ofDigitChars_ten_toDigits]

theorem read_exponent (exponent : Option Int) {rest : List Char} (severed : Severed rest) :
    readExponent (printExponent exponent ++ rest) = some (exponent, rest) := by
  have ended : ∀ char ∈ rest.head?, char.isDigit = false := fun char first =>
    (severed char first).1
  match exponent with
  | none =>
    rw [printExponent, List.nil_append, readExponent.eq_def]
    split
    · exact absurd rfl (severed _ rfl).2.2.1
    · exact absurd rfl (severed _ rfl).2.2.2
    · rfl
  | some (.ofNat magnitude) =>
    have read := read_magnitude false magnitude ended
    obtain ⟨digit, digits, split⟩ :=
      List.exists_cons_of_ne_nil (Nat.toDigits_ne_nil (b := 10) (n := magnitude))
    have unsigned := digit_is_no_mark (digits_decimal digit (by rw [split]; exact .head _))
    rw [split] at read
    rw [printExponent, List.cons_append, readExponent, split, readSigned.eq_def]
    split
    · exact absurd (List.cons.inj ‹_›).1 unsigned.1
    · exact absurd (List.cons.inj ‹_›).1 unsigned.2.1
    · exact read
  | some (.negSucc less) =>
    have read := read_magnitude true (less + 1) ended
    rw [printExponent, List.cons_append, List.cons_append, readExponent, readSigned, read]
    rfl

theorem exponent_ends (exponent : Option Int) {rest : List Char} (severed : Severed rest) :
    ∀ char ∈ (printExponent exponent ++ rest).head?, char.isDigit = false ∧ char ≠ '.' := by
  match exponent with
  | none => exact fun char first => ⟨(severed char first).1, (severed char first).2.1⟩
  | some (.ofNat _) | some (.negSucc _) =>
    rintro char ⟨rfl⟩
    decide

theorem fraction_ends (digits : List Char) {rest : List Char}
    (ended : ∀ char ∈ rest.head?, char.isDigit = false ∧ char ≠ '.') :
    ∀ char ∈ (printFraction digits ++ rest).head?, char.isDigit = false := by
  cases digits with
  | nil => exact fun char first => (ended char first).1
  | cons digit digits =>
      rintro char ⟨rfl⟩
      decide

theorem read_literal {literal : Literal} (sound : literal.Sound) {rest : List Char}
    (severed : Severed rest) :
    readLiteral (printLiteral literal ++ rest) = some (literal, rest) := by
  have exponent := read_exponent literal.exponent severed
  have ended := exponent_ends literal.exponent severed
  have fraction := read_fraction sound.fraction ended
  have whole := read_whole sound (fraction_ends literal.fraction ended)
  have unsigned : readUnsigned literal.negative (literal.whole ++
      (printFraction literal.fraction ++ (printExponent literal.exponent ++ rest))) =
        some (literal, rest) := by
    simp only [readUnsigned, whole, fraction, exponent, Option.bind_eq_bind, Option.bind_some]
  have parts : printLiteral literal ++ rest = (if literal.negative then ['-'] else []) ++
      (literal.whole ++ (printFraction literal.fraction ++
        (printExponent literal.exponent ++ rest))) := by
    simp only [printLiteral, printFraction, List.append_assoc]
  rw [parts]
  cases sign : literal.negative with
  | true => rw [if_pos rfl, List.singleton_append, readLiteral, ← sign, unsigned]
  | false =>
      obtain ⟨digit, digits, split⟩ := List.exists_cons_of_ne_nil sound.nonempty
      have positive := digit_is_no_mark (sound.whole digit (by rw [split]; exact .head _))
      rw [sign, split] at unsigned
      rw [if_neg (by decide), List.nil_append, readLiteral.eq_def, split]
      split
      · exact absurd (List.cons.inj ‹_›).1 positive.2.1
      · exact unsigned

/-- The characters that a number starts with start nothing else. -/
theorem starts_number {char : Char} (start : char = '-' ∨ char.isDigit = true) :
    isSpace char = false ∧ char ∉ ['n', 't', 'f', '"', '[', '{', ']'] := by
  rcases start with rfl | digit
  · decide
  constructor
  · by_contra space
    simp only [isSpace, Bool.not_eq_false, Bool.or_eq_true, decide_eq_true_eq] at space
    rcases space with ((rfl | rfl) | rfl) | rfl <;> exact absurd digit (by decide)
  · intro held
    simp only [List.mem_cons, List.not_mem_nil, or_false] at held
    rcases held with rfl | rfl | rfl | rfl | rfl | rfl | rfl <;> exact absurd digit (by decide)

theorem print_literal_head {literal : Literal} (sound : literal.Sound) :
    ∃ char chars, printLiteral literal = char :: chars ∧ isSpace char = false ∧
      char ∉ ['n', 't', 'f', '"', '[', '{', ']'] := by
  cases sign : literal.negative with
  | true => exact ⟨_, _, by rw [printLiteral, sign, if_pos rfl]; rfl, starts_number (.inl rfl)⟩
  | false =>
      obtain ⟨digit, digits, split⟩ := List.exists_cons_of_ne_nil sound.nonempty
      refine ⟨_, _, by rw [printLiteral, sign, if_neg (by decide), split]; rfl, starts_number ?_⟩
      exact .inr (sound.whole digit (by rw [split]; exact .head _))

end Json

/-! ## Whole numbers in range -/

namespace Double

theorem nearest_le (value : Nat) : nearest value ≤ 2 * value := by
  rcases Nat.eq_zero_or_pos value with rfl | positive
  · decide
  have quotient : roundShift value (excessBits value) ≤ value / twoTo (excessBits value) + 1 := by
    simp only [roundShift]
    split
    · omega
    · split <;> omega
  have shift : twoTo (excessBits value) ≤ value := by
    refine Nat.le_trans ?_ (Nat.log2_self_le (Nat.ne_of_gt positive))
    exact Nat.pow_le_pow_right (by decide) (by rw [excessBits]; omega)
  calc nearest value
      ≤ (value / twoTo (excessBits value) + 1) * twoTo (excessBits value) :=
        Nat.mul_le_mul_right _ quotient
    _ = value / twoTo (excessBits value) * twoTo (excessBits value) + twoTo (excessBits value) :=
        Nat.succ_mul _ _
    _ ≤ value + value := Nat.add_le_add (Nat.div_mul_le_self _ _) shift
    _ = 2 * value := (Nat.two_mul _).symm

end Double

namespace Json.Literal

theorem keep_digits (digits : List Char) {significand : Nat}
    (fits : Nat.ofDigitChars 10 digits significand < UInt64.size) :
    keepDigits significand digits = (Nat.ofDigitChars 10 digits significand, digits.length) := by
  induction digits generalizing significand with
  | nil => rfl
  | cons digit rest induction =>
      rw [Nat.ofDigitChars_cons, Nat.mul_comm] at fits ⊢
      have longer : significand * 10 + (digit.toNat - '0'.toNat) < UInt64.size := by
        refine Nat.lt_of_le_of_lt ?_ fits
        rw [Nat.ofDigitChars_eq_ofDigitChars_zero]
        exact Nat.le_add_right_of_le (Nat.le_mul_of_pos_left _ (by positivity))
      rw [keepDigits, if_pos longer, induction fits]
      rfl

/-- No number but zero is written with a zero in front. -/
theorem zero_of_leading {value : Nat} (zero : (Nat.toDigits 10 value).head? = some '0') :
    value = 0 := by
  induction value using Nat.strongRecOn with
  | ind value induction =>
      by_cases small : value < 10
      · rw [Nat.toDigits_of_lt_base small] at zero
        simpa [Nat.digitChar_eq_zero] using zero
      · have tens : (Nat.toDigits 10 (value / 10)).head? = some '0' := by
          rwa [Nat.toDigits_of_base_le (by decide) (by omega), List.head?_append,
            List.head?_eq_some_head Nat.toDigits_ne_nil, Option.some_or,
            ← List.head?_eq_some_head Nat.toDigits_ne_nil] at zero
        have none := induction (value / 10) (by omega) tens
        omega

theorem sound_of_nat {value : Nat} (fits : value < UInt64.size) : (ofNat value).Sound := by
  have kept : keepDigits 0 (Nat.toDigits 10 value) = (value, (Nat.toDigits 10 value).length) := by
    have all : Nat.ofDigitChars 10 (Nat.toDigits 10 value) 0 < UInt64.size := by
      rwa [Nat.ofDigitChars_ten_toDigits]
    rw [keep_digits _ all, Nat.ofDigitChars_ten_toDigits]
  have small : Double.nearest value * Double.nearest 1 < Double.overflow := by
    calc Double.nearest value * Double.nearest 1 = Double.nearest value := Nat.mul_one _
      _ ≤ 2 * value := Double.nearest_le value
      _ < 2 * UInt64.size := Nat.mul_lt_mul_of_pos_left fits (by decide)
      _ ≤ Double.overflow := by decide +kernel
  refine ⟨digits_decimal, Nat.toDigits_ne_nil, ?_, by simp [ofNat], ?_⟩
  · intro zero
    rw [zero_of_leading zero]
    rfl
  · simp only [overflows, ofNat, kept, keepDigits]
    simpa using fun _ => small

theorem word_of_nat {value : Nat} (fits : value < UInt64.size) :
    (ofNat value).word? = some value := by
  simp [word?, ofNat, Nat.ofDigitChars_ten_toDigits, fits]

end Json.Literal

end OptOut
