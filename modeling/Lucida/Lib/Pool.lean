import Mathlib.Data.Finset.Prod
import Mathlib.Data.Finset.Lattice.Prod
import Mathlib.Algebra.Order.Interval.Finset.SuccPred
import Mathlib.Data.Nat.SuccPred
import Mathlib.Order.Interval.Finset.Nat
import Mathlib.Order.Lattice.Nat

-- An axis of some samples shown by another number of them, which lie evenly over it.
namespace Lucida.Lib

def footprint (inLen outLen i : Nat) : Finset Nat := {s ∈ Finset.range inLen | i*inLen < (s+1)*outLen ∧ s*outLen < (i+1)*inLen}

section
variable {inLen outLen i s : Nat}

theorem lt_roundedUp {n m : Nat} (some' : 0 < m) : s < (n+m-1)/m ↔ s*m < n := by
  rw [← Nat.succ_le_iff,Nat.le_div_iff_mul_le some',Nat.succ_mul]
  omega

theorem footprint_bounds (some' : 0 < inLen) (shown : i < outLen) :
    i*inLen/outLen < inLen ∧ i*inLen/outLen < ((i+1)*inLen+outLen-1)/outLen ∧ ((i+1)*inLen+outLen-1)/outLen ≤ inLen := by
  have wide : 0 < outLen := Nat.zero_lt_of_lt shown
  have next : (i+1)*inLen ≤ inLen*outLen := Nat.mul_comm inLen outLen ▸ Nat.mul_le_mul_right inLen shown
  have first := Nat.div_mul_le_self (i*inLen) outLen
  have step : (i+1)*inLen = i*inLen+inLen := Nat.succ_mul i inLen
  refine ⟨?_,?_,?_⟩
  · rw [Nat.div_lt_iff_lt_mul wide]
    omega
  · rw [lt_roundedUp wide]
    omega
  · rw [← Nat.not_lt,lt_roundedUp wide]
    omega

-- They stand side by side, from where the one shown starts to where it ends, both rounded outwards.
theorem footprint_eq_Ico (some' : 0 < inLen) (shown : i < outLen) :
    footprint inLen outLen i = Finset.Ico (i*inLen/outLen) (((i+1)*inLen+outLen-1)/outLen) := by
  have wide : 0 < outLen := Nat.zero_lt_of_lt shown
  obtain ⟨_,_,last⟩ := footprint_bounds some' shown
  ext s
  have after : i*inLen/outLen ≤ s ↔ i*inLen < (s+1)*outLen := by rw [← Nat.lt_succ_iff,Nat.div_lt_iff_lt_mul wide]
  have before := @lt_roundedUp s ((i+1)*inLen) outLen wide
  rw [footprint,Finset.mem_filter,Finset.mem_range,Finset.mem_Ico,after,before]
  exact ⟨fun ⟨_,meets⟩ => meets,fun meets => ⟨Nat.lt_of_lt_of_le (before.mpr meets.2) last,meets⟩⟩

theorem exists_footprint (wide : 0 < outLen) (inside : s < inLen) : ∃ i < outLen, s ∈ footprint inLen outLen i := by
  have some' : 0 < inLen := Nat.zero_lt_of_lt inside
  have low := Nat.div_mul_le_self (s*outLen) inLen
  have high : s*outLen < (s*outLen/inLen+1)*inLen := by
    rw [Nat.mul_comm _ inLen]
    exact Nat.lt_mul_div_succ _ some'
  refine ⟨s*outLen/inLen,?_,Finset.mem_filter.mpr ⟨Finset.mem_range.mpr inside,?_,high⟩⟩
  · rw [Nat.div_lt_iff_lt_mul some',Nat.mul_comm outLen]
    exact Nat.mul_lt_mul_of_pos_right inside wide
  · rw [Nat.succ_mul]
    omega

end

theorem foldlM_max {ε α : Type} [LinearOrder α] [OrderBot α] {f : α → Nat → Except ε α} {g : Nat → α} {start n : Nat}
    (turns : ∀ i, start ≤ i → i < start+n → ∀ value, f value i = .ok (max value (g i))) (value : α) :
    (List.range' start n).foldlM f value = .ok (max value ((Finset.Ico start (start+n)).sup g)) := by
  induction n generalizing start value with
  | zero => simp [pure,Except.pure]
  | succ n hypothesis =>
    have first : start < start+(n+1) := by omega
    have rest : (List.range' (start+1) n).foldlM f (max value (g start)) =
        .ok (max (max value (g start)) ((Finset.Ico (start+1) (start+1+n)).sup g)) :=
      hypothesis (fun i low high => turns i (by omega) (by omega)) _
    rw [List.range'_succ,List.foldlM_cons,turns start (Nat.le_refl start) first]
    refine rest.trans ?_
    rw [← Finset.insert_Ico_add_one_left_eq_Ico first,Finset.sup_insert,max_assoc,Nat.add_right_comm,Nat.add_assoc]

end Lucida.Lib
