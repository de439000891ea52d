import Mathlib.Data.List.Basic

namespace Lucida.Lib

-- UTF-8, with the decoding of ill-formed bytes that the Encoding Standard prescribes.
namespace Utf8

def encode (text : List Char) : List UInt8 := text.flatMap String.utf8EncodeChar

def first? (bytes : List UInt8) : Option Char := bytes.toByteArray.utf8DecodeChar? 0

def continuations (lead : UInt8) : List (UInt8 × UInt8) :=
  let tail : UInt8 × UInt8 := (0x80,0xBF)
  if 0xC2 ≤ lead ∧ lead ≤ 0xDF then [tail]
  else if lead = 0xE0 then [(0xA0,0xBF),tail]
  else if lead = 0xED then [(0x80,0x9F),tail]
  else if 0xE1 ≤ lead ∧ lead ≤ 0xEF then [tail,tail]
  else if lead = 0xF0 then [(0x90,0xBF),tail,tail]
  else if 0xF1 ≤ lead ∧ lead ≤ 0xF3 then [tail,tail,tail]
  else if lead = 0xF4 then [(0x80,0x8F),tail,tail]
  else []

def accepted : List (UInt8 × UInt8) → List UInt8 → Nat
  | (low,high)::bounds,byte::bytes => if low ≤ byte ∧ byte ≤ high then accepted bounds bytes+1 else 0
  | _,_ => 0

def malformed : List UInt8 → Nat
  | [] => 0
  | lead::bytes => accepted (continuations lead) bytes+1

def replacement : Char := '\uFFFD'

def decodeLoop : Nat → List UInt8 → List Char
  | 0,_ => []
  | _+1,[] => []
  | fuel+1,byte::bytes =>
    match first? (byte::bytes) with
    | some c => c::decodeLoop fuel ((byte::bytes).drop c.utf8Size)
    | none => replacement::decodeLoop fuel ((byte::bytes).drop (malformed (byte::bytes)))

def decode (bytes : List UInt8) : List Char := decodeLoop bytes.length bytes

def byteOrderMark : Char := '\uFEFF'

def markBytes : List UInt8 := [0xEF,0xBB,0xBF]

-- `TextDecoder.decode` of a decoder that does not ignore the byte order mark.
def textDecoder (bytes : List UInt8) : List Char := if markBytes.isPrefixOf bytes then decode (bytes.drop 3) else decode bytes

theorem encode_cons (c : Char) (text : List Char) : encode (c::text) = String.utf8EncodeChar c ++ encode text := List.flatMap_cons

theorem first?_encode (c : Char) (bytes : List UInt8) : first? (String.utf8EncodeChar c ++ bytes) = some c := by
  unfold first?
  rw [List.toByteArray_append]
  exact ByteArray.utf8DecodeChar?_utf8EncodeChar_append

theorem length_utf8EncodeChar_pos (c : Char) : 0 < (String.utf8EncodeChar c).length := by
  rw [String.length_utf8EncodeChar]
  exact c.utf8Size_pos

theorem decodeLoop_encode (text : List Char) {fuel : Nat} (enough : (encode text).length ≤ fuel) : decodeLoop fuel (encode text) = text := by
  induction text generalizing fuel with
  | nil =>
    cases fuel <;> rfl
  | cons c text ih =>
    have some := length_utf8EncodeChar_pos c
    rw [encode_cons,List.length_append] at enough
    cases fuel with
    | zero => omega
    | succ fuel =>
      have whole := first?_encode c (encode text)
      have rest : (String.utf8EncodeChar c ++ encode text).drop c.utf8Size = encode text := by
        rw [← String.length_utf8EncodeChar,List.drop_left]
      rw [encode_cons]
      cases shape : String.utf8EncodeChar c ++ encode text with
      | nil =>
        have length := congrArg List.length shape
        rw [List.length_append,List.length_nil] at length
        omega
      | cons byte bytes =>
        rw [shape] at whole rest
        rw [decodeLoop,whole]
        dsimp only
        rw [rest,ih (by omega)]

theorem decode_encode (text : List Char) : decode (encode text) = text := decodeLoop_encode text (Nat.le_refl _)

theorem mark_encode : String.utf8EncodeChar byteOrderMark = markBytes := by decide

theorem mark_prefix_iff (text : List Char) : markBytes.isPrefixOf (encode text) = true ↔ text.head? = some byteOrderMark := by
  rw [List.isPrefixOf_iff_prefix]
  cases text with
  | nil => simp [encode,markBytes]
  | cons c text =>
    rw [encode_cons,List.head?_cons,Option.some_inj]
    constructor
    · rintro ⟨rest,whole⟩
      rw [← mark_encode] at whole
      have same := congrArg first? whole
      rw [first?_encode,first?_encode] at same
      exact (Option.some.inj same).symm
    · rintro rfl
      rw [mark_encode]
      exact List.prefix_append _ _

-- The decoder gives back any text that does not begin with the mark, and of others all but the
-- mark.
theorem textDecoder_encode (text : List Char) : textDecoder (encode text) = if text.head? = some byteOrderMark then text.tail else text := by
  unfold textDecoder
  by_cases marked : text.head? = some byteOrderMark
  · rw [if_pos ((mark_prefix_iff text).mpr marked),if_pos marked]
    cases text with
    | nil => cases marked
    | cons c text =>
      cases marked
      rw [encode_cons,mark_encode]
      exact decode_encode text
  · rw [if_neg (fun member => marked ((mark_prefix_iff text).mp member)),if_neg marked]
    exact decode_encode text

theorem length_le_encode (text : List Char) : text.length ≤ (encode text).length := by
  induction text with
  | nil => exact Nat.le_refl _
  | cons c text ih =>
    have some := length_utf8EncodeChar_pos c
    rw [encode_cons,List.length_append,List.length_cons]
    omega

end Utf8
end Lucida.Lib
