import Mathlib

namespace Lucida.Lib

-- A number of an ordered field, an infinity, or no number at all: exact
-- arithmetic with the special values of floating point, and one zero.
inductive Extended (K : Type) where
  | finite (value : K)
  | infinite (negative : Bool)
  | nan
  deriving DecidableEq, Repr

namespace Extended

section
variable {K : Type} [Field K] [LinearOrder K]

def neg : Extended K → Extended K
  | finite a => finite (-a)
  | infinite negative => infinite !negative
  | nan => nan

def add : Extended K → Extended K → Extended K
  | finite a,finite b => finite (a+b)
  | finite _,infinite negative => infinite negative
  | infinite negative,finite _ => infinite negative
  | infinite negative,infinite negative' => if negative = negative' then infinite negative else nan
  | _,_ => nan

def mul : Extended K → Extended K → Extended K
  | finite a,finite b => finite (a*b)
  | finite a,infinite negative => if a = 0 then nan else infinite (negative != decide (a < 0))
  | infinite negative,finite b => if b = 0 then nan else infinite (negative != decide (b < 0))
  | infinite negative,infinite negative' => infinite (negative != negative')
  | _,_ => nan

def div : Extended K → Extended K → Extended K
  | finite a,finite b => if b ≠ 0 then finite (a/b) else if a = 0 then nan else infinite (decide (a < 0))
  | finite _,infinite _ => finite 0
  | infinite negative,finite b => infinite (negative != decide (b < 0))
  | _,_ => nan

-- No comparison holds of what is not a number.
def le : Extended K → Extended K → Bool
  | finite a,finite b => a ≤ b
  | finite _,infinite negative => !negative
  | infinite negative,finite _ => negative
  | infinite negative,infinite negative' => negative || !negative'
  | _,_ => false

def lt : Extended K → Extended K → Bool
  | finite a,finite b => a < b
  | finite _,infinite negative => !negative
  | infinite negative,finite _ => negative
  | infinite negative,infinite negative' => negative && !negative'
  | _,_ => false

-- A number wins over what is none.
def max : Extended K → Extended K → Extended K
  | nan,b => b
  | a,nan => a
  | a,b => if lt a b then b else a

def abs : Extended K → Extended K
  | finite a => finite |a|
  | infinite _ => infinite false
  | nan => nan

def isFinite : Extended K → Bool
  | finite _ => true
  | _ => false

def floor [FloorRing K] : Extended K → Extended K
  | finite a => finite ⌊a⌋
  | a => a

def ceil [FloorRing K] : Extended K → Extended K
  | finite a => finite ⌈a⌉
  | a => a

-- The cast to an unsigned integer below `limit`: towards zero, held at the ends,
-- and 0 for what is not a number.
def toBelow [FloorRing K] (limit : Nat) : Extended K → Nat
  | finite a => min ⌊a⌋₊ (limit-1)
  | infinite negative => if negative then 0 else limit-1
  | nan => 0

instance : Add (Extended K) := ⟨add⟩

instance : Sub (Extended K) := ⟨fun a b => add a (neg b)⟩

instance : Mul (Extended K) := ⟨mul⟩

instance : Div (Extended K) := ⟨div⟩

instance : Zero (Extended K) := ⟨finite 0⟩

instance : One (Extended K) := ⟨finite 1⟩

theorem finite_div (a : K) {b : K} (nonzero : b ≠ 0) : finite a/finite b = finite (a/b) := if_pos nonzero

theorem finite_div_zero {a : K} (nonzero : a ≠ 0) : finite a/finite 0 = infinite (decide (a < 0)) := by
  show (if (0 : K) ≠ 0 then finite (a/0) else if a = 0 then nan else infinite (decide (a < 0))) = _
  rw [if_neg (not_not.mpr rfl),if_neg nonzero]

theorem finite_div_infinite (a : K) (negative : Bool) : finite a/infinite negative = finite 0 := rfl

theorem finite_mul_infinite {a : K} (nonzero : a ≠ 0) (negative : Bool) :
    finite a*infinite negative = infinite (negative != decide (a < 0)) := if_neg nonzero

theorem max_zero (a : K) : max (finite a) (0 : Extended K) = finite (Max.max a 0) := by
  show (if decide (a < 0) then finite 0 else finite a) = _
  by_cases negative : a < 0
  · rw [if_pos (decide_eq_true negative),max_eq_right negative.le]
  · rw [if_neg (by simpa using negative),max_eq_left (not_lt.mp negative)]

omit [Field K] in
theorem max_ne_nan {a : Extended K} (number : a ≠ nan) (b : Extended K) : max a b ≠ nan := by
  unfold max
  split
  · exact absurd rfl number
  · exact number
  · rename_i number'
    split
    · exact number'
    · exact number

omit [Field K] in
theorem foldl_max_ne_nan (others : List (Extended K)) {a : Extended K} (number : a ≠ nan) : others.foldl max a ≠ nan := by
  induction others generalizing a with
  | nil => exact number
  | cons b others hypothesis => exact hypothesis (max_ne_nan number b)

section
variable [FloorRing K]

theorem toBelow_lt {limit : Nat} (positive : 0 < limit) (a : Extended K) : toBelow limit a < limit := by
  cases a with
  | finite a => exact (Nat.min_le_right _ _).trans_lt (Nat.sub_one_lt positive.ne')
  | infinite negative =>
    cases negative with
    | false => exact Nat.sub_one_lt positive.ne'
    | true => exact positive
  | nan => exact positive

theorem toU32_lt (a : Extended K) : toBelow (2^32) a < 2^32 := toBelow_lt (Nat.two_pow_pos 32) a

end

variable [IsStrictOrderedRing K]

theorem le_one_of_smaller {c c' : K} (positive : 0 < c) (smaller : c ≤ c') (measure : K) {ratio : Extended K}
    (small : le (finite (measure*c')*ratio) 1) : le (finite (measure*c)*ratio) 1 := by
  have positive' : 0 < c' := positive.trans_le smaller
  cases ratio with
  | finite ratio =>
    have bounded : measure*c'*ratio ≤ 1 := of_decide_eq_true small
    refine decide_eq_true (p := measure*c*ratio ≤ 1) ?_
    by_cases gain : 0 ≤ measure*ratio
    · calc measure*c*ratio = (measure*ratio)*c := by ring
        _ ≤ (measure*ratio)*c' := mul_le_mul_of_nonneg_left smaller gain
        _ = measure*c'*ratio := by ring
        _ ≤ 1 := bounded
    · calc measure*c*ratio = (measure*ratio)*c := by ring
        _ ≤ 0 := mul_nonpos_of_nonpos_of_nonneg (not_le.mp gain).le positive.le
        _ ≤ 1 := zero_le_one
  | infinite negative =>
    have zero : measure*c = 0 ↔ measure*c' = 0 := by
      simp [positive.ne',positive'.ne']
    have sign : measure*c < 0 ↔ measure*c' < 0 := by
      simp only [← not_le,mul_nonneg_iff_of_pos_right positive,mul_nonneg_iff_of_pos_right positive']
    have same : finite (measure*c)*infinite negative = finite (measure*c')*(infinite negative : Extended K) := by
      show (if _ then _ else _) = (if _ then _ else _)
      simp only [zero,sign]
    rwa [same]
  | nan => exact small

end

end Extended

end Lucida.Lib
