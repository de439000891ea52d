import Mathlib.Algebra.Group.Nat.Defs
import Mathlib.Data.List.Basic

namespace Lucida.Lib

-- `char::is_whitespace`: the code points with the Unicode property White_Space.
def isWhitespace (c : Char) : Bool :=
  (9 ≤ c.toNat && c.toNat ≤ 13) || (8192 ≤ c.toNat && c.toNat ≤ 8202) ||
    c.toNat ∈ [32,133,160,5760,8232,8233,8239,8287,12288]

def trim (text : String) : String :=
  String.ofList ((text.toList.dropWhile isWhitespace).reverse.dropWhile isWhitespace).reverse

def toAsciiLowercase (text : String) : String := String.ofList (text.toList.map Char.toLower)

def parseDigits : Nat → List Char → Option Nat
  | value,[] => some value
  | value,c::rest => if c.isDigit then parseDigits (10*value+(c.toNat-48)) rest else none

-- `str::parse` to an unsigned integer of `bits` bits: decimal digits, at least
-- one, after at most one plus sign.
def parseUnsigned (bits : Nat) (text : List Char) : Option Nat :=
  let digits := match text with
    | '+' :: rest => rest
    | _ => text
  if digits.isEmpty then none else (parseDigits 0 digits).filter (· < 2^bits)

theorem isUpper_eq (c : Char) : c.isUpper = decide (c.val ≥ 'A'.val ∧ c.val ≤ 'Z'.val) := rfl

theorem isLower_eq (c : Char) : c.isLower = (decide (c.val ≥ 'a'.val) && decide (c.val ≤ 'z'.val)) := rfl

theorem isAlpha_eq (c : Char) : c.isAlpha = (c.isUpper || c.isLower) := rfl

theorem toLower_of_not_upper {c : Char} (other : c.isUpper = false) : c.toLower = c := by
  unfold Char.toLower
  split
  · rename_i between
    have upper : c.isUpper = true := by simpa [isUpper_eq] using between
    rw [upper] at other
    cases other
  · rfl

theorem isLower_toLower {c : Char} (upper : c.isUpper = true) : c.toLower.isLower = true := by
  have between : c.val ≥ 'A'.val ∧ c.val ≤ 'Z'.val := by simpa [isUpper_eq] using upper
  unfold Char.toLower
  rw [dif_pos between]
  obtain ⟨low,high⟩ := between
  simp only [isLower_eq,ge_iff_le,Bool.and_eq_true,decide_eq_true_eq,UInt32.le_iff_toNat_le,UInt32.toNat_add] at low high ⊢
  change 97 ≤ (c.val.toNat+32)%2^32 ∧ (c.val.toNat+32)%2^32 ≤ 122
  change 65 ≤ c.val.toNat at low
  change c.val.toNat ≤ 90 at high
  omega

theorem not_upper_of_lower {c : Char} (lower : c.isLower = true) : c.isUpper = false := by
  simp only [isLower_eq,isUpper_eq,ge_iff_le,Bool.and_eq_true,decide_eq_true_eq,UInt32.le_iff_toNat_le,
    Bool.eq_false_iff,ne_eq] at lower ⊢
  intro upper
  change 97 ≤ c.val.toNat ∧ _ at lower
  change _ ∧ c.val.toNat ≤ 90 at upper
  omega

theorem not_upper_toLower (c : Char) : c.toLower.isUpper = false := by
  cases upper : c.isUpper with
  | true => exact not_upper_of_lower (isLower_toLower upper)
  | false => rwa [toLower_of_not_upper upper]

theorem toLower_toLower (c : Char) : c.toLower.toLower = c.toLower := toLower_of_not_upper (not_upper_toLower c)

theorem isAlpha_toLower (c : Char) : c.toLower.isAlpha = c.isAlpha := by
  cases upper : c.isUpper with
  | true => simp [isAlpha_eq,upper,isLower_toLower upper]
  | false => rw [toLower_of_not_upper upper]

theorem parseDigits_of_digits (value : Nat) (digits : ∀ c ∈ chars, c.isDigit) :
    parseDigits value chars = some (Nat.ofDigitChars 10 chars value) := by
  induction chars generalizing value with
  | nil => rfl
  | cons c rest ih =>
    rw [parseDigits,if_pos (digits c List.mem_cons_self),Nat.ofDigitChars_cons]
    exact ih _ fun other member => digits other (List.mem_cons_of_mem _ member)

theorem parseUnsigned_toDigits (bits n : Nat) :
    parseUnsigned bits (Nat.toDigits 10 n) = (some n).filter (· < 2^bits) := by
  have digits : ∀ c ∈ Nat.toDigits 10 n, c.isDigit := fun c member =>
    Nat.isDigit_of_mem_toDigits (by decide) (by decide) member
  have unsigned : ∀ rest, Nat.toDigits 10 n ≠ '+' :: rest := by
    intro rest equal
    have digit := digits '+' (equal ▸ List.mem_cons_self)
    exact absurd digit (by decide)
  unfold parseUnsigned
  split
  · rename_i rest equal
    exact absurd equal (unsigned rest)
  · have some : (Nat.toDigits 10 n).isEmpty = false := by simp
    simp only [some,Bool.false_eq_true,if_false,parseDigits_of_digits 0 digits,Nat.ofDigitChars_ten_toDigits]

end Lucida.Lib
