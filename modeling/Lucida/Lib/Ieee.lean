import Mathlib.Data.UInt

namespace Lucida.Lib

structure F64 where
  bits : UInt64
  deriving DecidableEq, Repr

namespace F64

def zero : F64 := ⟨0⟩

def negZero : F64 := ⟨0x8000000000000000⟩

def one : F64 := ⟨0x3FF0000000000000⟩

def infinity : F64 := ⟨0x7FF0000000000000⟩

def magnitude (x : F64) : Nat := x.bits.toNat % 2^63

def isNan (x : F64) : Bool := infinity.magnitude < x.magnitude

def isFinite (x : F64) : Bool := x.magnitude < infinity.magnitude

def isZero (x : F64) : Bool := x.magnitude = 0

-- `==` on numbers: the two zeros are equal, and no NaN is equal to anything.
def eq (x y : F64) : Bool := !x.isNan && !y.isNan && (x = y || (x.isZero && y.isZero))

variable {x y z : F64}

theorem eq_iff : x.eq y ↔ x.isNan = false ∧ y.isNan = false ∧ (x = y ∨ x.isZero ∧ y.isZero) := by
  simp only [eq,Bool.and_eq_true,Bool.not_eq_true',Bool.or_eq_true,decide_eq_true_eq,and_assoc]

theorem eq_self (number : x.isNan = false) : x.eq x := eq_iff.mpr ⟨number,number,.inl rfl⟩

theorem eq_symm (same : x.eq y) : y.eq x := by
  obtain ⟨number,number',alike⟩ := eq_iff.mp same
  exact eq_iff.mpr ⟨number',number,alike.imp Eq.symm And.symm⟩

theorem eq_trans (same : x.eq y) (same' : y.eq z) : x.eq z := by
  obtain ⟨number,number',alike⟩ := eq_iff.mp same
  obtain ⟨_,number'',alike'⟩ := eq_iff.mp same'
  refine eq_iff.mpr ⟨number,number'',?_⟩
  rcases alike with rfl | ⟨zero,zero'⟩
  · exact alike'
  · rcases alike' with rfl | ⟨_,zero''⟩
    · exact .inr ⟨zero,zero'⟩
    · exact .inr ⟨zero,zero''⟩

theorem isNan_of_finite (finite : x.isFinite) : x.isNan = false :=
  decide_eq_false (Nat.lt_asymm (of_decide_eq_true finite))

theorem zero_or_negZero (small : x.isZero) : x = zero ∨ x = negZero := by
  have low : x.bits.toNat % 2^63 = 0 := of_decide_eq_true small
  have high : x.bits.toNat < 2^64 := x.bits.toNat_lt
  have bits : x.bits.toNat = 0 ∨ x.bits.toNat = 2^63 := by omega
  rcases bits with none | sign
  · exact .inl (congrArg F64.mk (UInt64.toNat_inj.mp none))
  · exact .inr (congrArg F64.mk (UInt64.toNat_inj.mp sign))

end F64
end Lucida.Lib
