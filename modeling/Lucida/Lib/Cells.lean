import Mathlib.Algebra.Order.Floor.Semiring
import Mathlib.Algebra.Order.Field.Basic
import Mathlib.Tactic.Linarith

-- A line cut into cells of one size, and boxes cut by planes.
namespace Lucida.Lib
variable {K : Type} [Field K] [LinearOrder K] [IsStrictOrderedRing K]

section
variable [FloorSemiring K] {size lo hi p : K} {count : Nat}

theorem cell_in_clip (some' : 0 < size) (inside : 0 ≤ p) (within : p < count*size) (after : lo ≤ p) (before : p < hi) :
    ⌊lo/size⌋₊ ≤ ⌊p/size⌋₊ ∧ ⌊p/size⌋₊ < min count ⌈hi/size⌉₊ := by
  have upto : ⌊p/size⌋₊ < count := (Nat.floor_lt (div_nonneg inside some'.le)).mpr ((div_lt_iff₀ some').mpr within)
  have below : ⌊p/size⌋₊ < ⌈hi/size⌉₊ :=
    Nat.lt_ceil.mpr ((Nat.floor_le (div_nonneg inside some'.le)).trans_lt (div_lt_div_of_pos_right before some'))
  exact ⟨Nat.floor_mono (div_le_div_of_nonneg_right after some'.le),lt_min upto below⟩

theorem cell_holds (some' : 0 < size) (inside : 0 ≤ p) : ⌊p/size⌋₊*size ≤ p ∧ p < (⌊p/size⌋₊+1)*size :=
  ⟨(le_div_iff₀ some').mp (Nat.floor_le (div_nonneg inside some'.le)),(div_lt_iff₀ some').mp (Nat.lt_floor_add_one _)⟩

end

-- Cells of `full/level` samples a sample, as many as cover the level, cover the full axis.
theorem covers_full {count : Nat} {full level chunk p : K} (fullPos : 0 < full) (levelPos : 0 < level) (covers : level ≤ count*chunk) (before : p < full) :
    p < count*(chunk*(full/level)) := by
  refine before.trans_le ?_
  rw [← mul_assoc,mul_div_assoc',le_div_iff₀ levelPos,mul_comm full]
  exact mul_le_mul_of_nonneg_right covers fullPos.le

section
variable {a b c d : K} {x y z lowX lowY lowZ highX highY highZ : K}

def ahead (slope low high : K) : K := if 0 ≤ slope then high else low

theorem le_ahead (slope : K) (low : lowX ≤ x) (high : x ≤ highX) : slope*x ≤ slope*ahead slope lowX highX := by
  unfold ahead
  split
  · next up => exact mul_le_mul_of_nonneg_left high up
  · next down => exact mul_le_mul_of_nonpos_left low (not_le.mp down).le

-- No point of a box is on the positive side of a plane that has the corner farthest along its
-- normal on the other.
theorem box_behind (behind : a*ahead a lowX highX+b*ahead b lowY highY+c*ahead c lowZ highZ+d < 0) (inX : lowX ≤ x ∧ x ≤ highX)
    (inY : lowY ≤ y ∧ y ≤ highY) (inZ : lowZ ≤ z ∧ z ≤ highZ) : a*x+b*y+c*z+d < 0 := by
  have alongX := le_ahead a inX.1 inX.2
  have alongY := le_ahead b inY.1 inY.2
  have alongZ := le_ahead c inZ.1 inZ.2
  linarith

end

end Lucida.Lib
