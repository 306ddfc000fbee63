import OptOut.Text.Numeral

/-!
# Text as octets

Reads a text from its UTF-8 octets. Every character has exactly one encoding, so overlong forms,
surrogates and numbers past the last code point are refused, and a refusal tells where the first
bad sequence begins.
-/

namespace OptOut.Text

inductive OctetFault where
    /-- The `length` octets from `index` on cannot begin a character. -/
  | invalid (length index : Nat)
    /-- The octets from `index` on are the beginning of a character that is cut off. -/
  | incomplete (index : Nat)
deriving DecidableEq, Repr

def OctetFault.message : OctetFault → String
  | .invalid length index =>
    "invalid utf-8 sequence of " ++ decimal length ++ " bytes from index " ++ decimal index
  | .incomplete index => "incomplete utf-8 byte sequence from index " ++ decimal index

/-- How many octets follow a leading octet, and between which bounds the first of them lies. -/
structure Lead where
    following : Nat
    low : UInt8
    high : UInt8

def leadOf (octet : UInt8) : Option Lead :=
  if octet < 0x80 then some ⟨0, 0, 0⟩
  else if octet < 0xC2 then none
  else if octet < 0xE0 then some ⟨1, 0x80, 0xBF⟩
  else if octet = 0xE0 then some ⟨2, 0xA0, 0xBF⟩
  else if octet = 0xED then some ⟨2, 0x80, 0x9F⟩
  else if octet < 0xF0 then some ⟨2, 0x80, 0xBF⟩
  else if octet = 0xF0 then some ⟨3, 0x90, 0xBF⟩
  else if octet < 0xF4 then some ⟨3, 0x80, 0xBF⟩
  else if octet = 0xF4 then some ⟨3, 0x80, 0x8F⟩
  else none

def continues (octet : UInt8) : Bool :=
  0x80 ≤ octet && octet ≤ 0xBF

/-- The six bits that a following octet contributes. -/
def payload (octet : UInt8) : Nat :=
  octet.toNat % 64

/-- Reads the characters of octets that stand at `index` of a longer sequence. -/
def decodeFrom (index : Nat) : List UInt8 → Except OctetFault (List Char)
  | [] => .ok []
  | a :: rest =>
    match leadOf a with
    | none => .error (.invalid 1 index)
    | some ⟨0, _, _⟩ => (decodeFrom (index + 1) rest).map (Char.ofNat a.toNat :: ·)
    | some ⟨following, low, high⟩ =>
      match rest with
      | [] => .error (.incomplete index)
      | b :: rest =>
        if b < low || high < b then .error (.invalid 1 index)
        else if following = 1 then
          (decodeFrom (index + 2) rest).map (Char.ofNat (a.toNat % 32 * 64 + payload b) :: ·)
        else match rest with
          | [] => .error (.incomplete index)
          | c :: rest =>
            if !continues c then .error (.invalid 2 index)
            else if following = 2 then
              (decodeFrom (index + 3) rest).map
                (Char.ofNat (a.toNat % 16 * 4096 + payload b * 64 + payload c) :: ·)
            else match rest with
              | [] => .error (.incomplete index)
              | d :: rest =>
                if !continues d then .error (.invalid 3 index)
                else
                  (decodeFrom (index + 4) rest).map
                    (Char.ofNat (a.toNat % 8 * 262144 + payload b * 4096 + payload c * 64 +
                      payload d) :: ·)

def decodeOctets (octets : List UInt8) : Except OctetFault String :=
  (decodeFrom 0 octets).map String.ofList

end OptOut.Text
