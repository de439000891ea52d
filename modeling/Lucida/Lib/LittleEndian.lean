import Mathlib.Algebra.Group.Nat.Defs
import Mathlib.Data.List.Basic
import Mathlib.Data.UInt

namespace Lucida.Lib

-- Words as bytes, lowest byte first.
namespace LittleEndian

def toBytes : Nat → Nat → List UInt8
  | 0,_ => []
  | width+1,n => UInt8.ofNat n::toBytes width (n/256)

def value : List UInt8 → Nat
  | [] => 0
  | byte::rest => byte.toNat+256*value rest

@[simp] theorem length_toBytes (width n : Nat) : (toBytes width n).length = width := by
  induction width generalizing n with
  | zero => rfl
  | succ width ih => rw [toBytes,List.length_cons,ih]

theorem value_toBytes (fits : n < 256^width) : value (toBytes width n) = n := by
  induction width generalizing n with
  | zero =>
    rw [Nat.pow_zero,Nat.lt_one_iff] at fits
    exact fits.symm
  | succ width ih =>
    have high : n/256 < 256^width := Nat.div_lt_of_lt_mul (by rwa [Nat.pow_succ,Nat.mul_comm] at fits)
    rw [toBytes,value,ih high,UInt8.toNat_ofNat']
    omega

def words64 : List UInt8 → List Nat
  | a::b::c::d::e::f::g::h::rest => value [a,b,c,d,e,f,g,h]::words64 rest
  | _ => []

theorem words64_toBytes (fits : n < 2^64) (rest : List UInt8) : words64 (toBytes 8 n ++ rest) = n::words64 rest := by
  have exact : value (toBytes 8 n) = n := value_toBytes fits
  simp only [toBytes] at exact ⊢
  simp only [List.cons_append,List.nil_append,words64,exact]

end LittleEndian
end Lucida.Lib
