import Mathlib.Algebra.BigOperators.Group.List.Basic
import Mathlib.Algebra.Order.BigOperators.GroupWithZero.List
import Mathlib.Algebra.Order.Ring.Nat

namespace Lucida.Lib

-- Row-major numbers: one digit for each radix, the last digit runs fastest.
namespace MixedRadix

def flatten : List Nat → List Nat → Nat
  | _::radices,digit::digits => digit*radices.prod+flatten radices digits
  | _,_ => 0

def unflatten : List Nat → Nat → List Nat
  | [],_ => []
  | _::radices,n => n/radices.prod::unflatten radices (n%radices.prod)

def Digits (radices digits : List Nat) : Prop := List.Forall₂ (fun radix digit => digit < radix) radices digits

theorem Digits.prod_pos (digits : Digits radices ds) : 0 < radices.prod := by
  induction digits with
  | nil => exact Nat.one_pos
  | cons below _ ih =>
    rw [List.prod_cons]
    exact Nat.mul_pos (Nat.zero_lt_of_lt below) ih

theorem flatten_lt (digits : Digits radices ds) : flatten radices ds < radices.prod := by
  induction digits with
  | nil => exact Nat.one_pos
  | @cons radix digit radices ds below _ ih =>
    rw [flatten,List.prod_cons]
    calc digit*radices.prod+flatten radices ds < digit*radices.prod+radices.prod := Nat.add_lt_add_left ih _
      _ = (digit+1)*radices.prod := (Nat.succ_mul _ _).symm
      _ ≤ radix*radices.prod := Nat.mul_le_mul_right _ below

theorem unflatten_flatten (digits : Digits radices ds) : unflatten radices (flatten radices ds) = ds := by
  induction digits with
  | nil => rfl
  | @cons radix digit radices ds below rest ih =>
    have short := flatten_lt rest
    rw [flatten,unflatten,Nat.add_comm,Nat.add_mul_div_right _ _ (Digits.prod_pos rest),Nat.div_eq_of_lt short,Nat.zero_add,
      Nat.add_mul_mod_self_right,Nat.mod_eq_of_lt short,ih]

theorem unflatten_digits (positive : ∀ radix ∈ radices, 0 < radix) (short : n < radices.prod) :
    Digits radices (unflatten radices n) := by
  induction radices generalizing n with
  | nil => exact .nil
  | cons radix radices ih =>
    have later : ∀ radix ∈ radices, 0 < radix := fun other member => positive other (List.mem_cons_of_mem _ member)
    have whole : 0 < radices.prod := List.one_le_prod later
    rw [List.prod_cons] at short
    exact .cons (Nat.div_lt_of_lt_mul (Nat.mul_comm radix _ ▸ short)) (ih later (Nat.mod_lt n whole))

theorem flatten_unflatten (positive : ∀ radix ∈ radices, 0 < radix) (short : n < radices.prod) :
    flatten radices (unflatten radices n) = n := by
  induction radices generalizing n with
  | nil =>
    rw [List.prod_nil] at short
    exact (Nat.lt_one_iff.mp short).symm
  | cons radix radices ih =>
    have later : ∀ radix ∈ radices, 0 < radix := fun other member => positive other (List.mem_cons_of_mem _ member)
    rw [unflatten,flatten,ih later (Nat.mod_lt n (List.one_le_prod later)),Nat.mul_comm,Nat.div_add_mod]

-- A coordinate is a block of the radices and a place in the block.
theorem remainders_digits (positive : ∀ radix ∈ radices, 0 < radix) (paired : coords.length = radices.length) :
    Digits radices (List.zipWith (· % ·) coords radices) := by
  induction coords generalizing radices with
  | nil =>
    cases radices with
    | nil => exact .nil
    | cons => cases paired
  | cons coord coords ih =>
    cases radices with
    | nil => cases paired
    | cons radix radices =>
      refine .cons (Nat.mod_lt _ (positive radix List.mem_cons_self)) (ih ?_ (Nat.succ.inj paired))
      exact fun other member => positive other (List.mem_cons_of_mem _ member)

theorem join_split {radices coords : List Nat} (paired : coords.length = radices.length) :
    List.zipWith (· + ·) (List.zipWith (· * ·) (List.zipWith (· / ·) coords radices) radices) (List.zipWith (· % ·) coords radices) =
      coords := by
  induction radices generalizing coords with
  | nil => rw [List.length_eq_zero_iff.mp paired]; rfl
  | cons radix radices ih =>
    obtain ⟨coord,coords,rfl⟩ := List.exists_cons_of_length_eq_add_one paired
    simp only [List.zipWith_cons_cons]
    rw [ih (Nat.succ.inj paired),Nat.mul_comm,Nat.div_add_mod]

end MixedRadix
end Lucida.Lib
