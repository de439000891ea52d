import Mathlib.Algebra.Order.Group.Defs
import Mathlib.Data.List.Sort
import Mathlib.Data.Rat.Defs
import Mathlib.Algebra.Order.Ring.Rat

-- Comparators of a stable sort: not above zero where the first may stand before the second.
namespace Lucida.Lib
variable {E : Type} {compare first rest : E → E → ℚ}

structure Consistent (compare : E → E → ℚ) : Prop where
  swap : ∀ a b, compare a b ≤ 0 ↔ 0 ≤ compare b a
  trans : ∀ a b c, compare a b ≤ 0 → compare b c ≤ 0 → compare a c ≤ 0

theorem consistent_difference (value : E → ℚ) : Consistent fun a b => value a-value b :=
  ⟨fun a b => by rw [sub_nonpos,sub_nonneg],fun a b c below below' => by
    rw [sub_nonpos] at below below' ⊢
    exact below.trans below'⟩

theorem consistent_order {S : Type} [LinearOrder S] : Consistent fun a b : S => if a < b then (-1 : ℚ) else if b < a then 1 else 0 := by
  have positive : ¬(1 : ℚ) ≤ 0 := by decide
  have le (a b : S) : (if a < b then (-1 : ℚ) else if b < a then 1 else 0) ≤ 0 ↔ a ≤ b := by
    rcases lt_trichotomy a b with below | rfl | above
    · simp [below,below.le]
    · simp
    · simp [above,above.not_gt,above.not_ge,positive]
  have ge (a b : S) : 0 ≤ (if a < b then (-1 : ℚ) else if b < a then 1 else 0) ↔ b ≤ a := by
    rcases lt_trichotomy a b with below | rfl | above
    · simp [below,below.not_ge,positive]
    · simp
    · simp [above.le,above.not_gt,above]
  refine ⟨fun a b => (le a b).trans (ge b a).symm,fun a b c below below' => ?_⟩
  rw [le] at below below' ⊢
  exact below.trans below'

def thenBy (first rest : E → E → ℚ) (a b : E) : ℚ := if first a b = 0 then rest a b else first a b

namespace Consistent

theorem level (consistent : Consistent first) (same : first a b = 0) : first b a = 0 :=
  le_antisymm ((consistent.swap b a).mpr same.ge) ((consistent.swap a b).mp same.le)

theorem first_le (below : thenBy first rest a b ≤ 0) : first a b ≤ 0 := by
  unfold thenBy at below
  split at below
  · next same => exact same.le
  · exact below

theorem lexicographic (consistent : Consistent first) (consistent' : Consistent rest) : Consistent (thenBy first rest) := by
  refine ⟨fun a b => ?_,fun a b c below below' => ?_⟩
  · unfold thenBy
    by_cases same : first a b = 0
    · rw [if_pos same,if_pos (consistent.level same)]
      exact consistent'.swap a b
    · rw [if_neg same,if_neg fun same' => same (consistent.level same')]
      exact consistent.swap a b
  · have firstBelow := consistent.trans a b c (first_le below) (first_le below')
    by_cases same : first a c = 0
    · have back : first c a ≤ 0 := (consistent.level same).le
      have sameAB : first a b = 0 :=
        le_antisymm (first_le below) ((consistent.swap b a).mp (consistent.trans b c a (first_le below') back))
      have sameBC : first b c = 0 :=
        le_antisymm (first_le below') ((consistent.swap c b).mp (consistent.trans c a b back (first_le below)))
      simp only [thenBy,sameAB,sameBC,same,if_true] at below below' ⊢
      exact consistent'.trans a b c below below'
    · rw [thenBy,if_neg same]
      exact firstBelow

theorem sorted (consistent : Consistent compare) (entries : List E) :
    (entries.mergeSort fun a b => compare a b ≤ 0).Pairwise fun a b => compare a b ≤ 0 := by
  have ordered := @List.pairwise_mergeSort E (fun a b => decide (compare a b ≤ 0))
    (fun a b c below below' => decide_eq_true (consistent.trans a b c (of_decide_eq_true below) (of_decide_eq_true below')))
    (fun a b => by
      rw [Bool.or_eq_true,decide_eq_true_eq,decide_eq_true_eq,consistent.swap a b]
      exact (le_total _ _).symm) entries
  exact ordered.imp of_decide_eq_true

end Consistent

theorem filter_insertionSort {r : E → E → Prop} [DecidableRel r] {items : List E} {p : E → Bool}
    (alike : ∀ a ∈ items, ∀ b ∈ items, p a → p b → r a b) : (items.insertionSort r).filter p = items.filter p := by
  have sorted : (items.filter p).Pairwise r := by
    refine List.pairwise_of_forall_mem_list fun a member b member' => ?_
    obtain ⟨listed,passes⟩ := List.mem_filter.mp member
    obtain ⟨listed',passes'⟩ := List.mem_filter.mp member'
    exact alike a listed b listed' passes passes'
  have kept : (items.filter p).Sublist ((items.insertionSort r).filter p) := by
    have within := (List.sublist_insertionSort sorted List.filter_sublist).filter p
    rwa [List.filter_filter,funext fun x => Bool.and_self (p x)] at within
  exact (kept.eq_of_length ((List.perm_insertionSort r items).filter p).length_eq.symm).symm

theorem find?_insertionSort {r : E → E → Prop} [DecidableRel r] {items : List E} {p : E → Bool}
    (alike : ∀ a ∈ items, ∀ b ∈ items, p a → p b → r a b) : (items.insertionSort r).find? p = items.find? p := by
  rw [← List.head?_filter,filter_insertionSort alike,List.head?_filter]

def keepLeast (compare : E → E → ℚ) (best : Option E) (candidate : E) : Option E :=
  match best with
  | none => some candidate
  | some least => if compare candidate least < 0 then some candidate else some least

theorem Consistent.foldl_keepLeast (consistent : Consistent compare) {items : List E} (best : Option E) :
    match items.foldl (keepLeast compare) best with
    | none => best = none ∧ items = []
    | some least => (best = some least ∨ least ∈ items) ∧ (∀ other ∈ best, compare least other ≤ 0) ∧ ∀ other ∈ items, compare least other ≤ 0 := by
  have itself (a : E) : compare a a ≤ 0 := by
    rcases le_total (compare a a) 0 with below | above
    · exact below
    · exact (consistent.swap a a).mpr above
  induction items generalizing best with
  | nil =>
    cases best with
    | none => exact ⟨rfl,rfl⟩
    | some least =>
      refine ⟨.inl rfl,fun other same => ?_,fun other member => absurd member List.not_mem_nil⟩
      cases same
      exact itself least
  | cons first items hypothesis =>
    have kept : ∃ least, keepLeast compare best first = some least ∧ (best = some least ∨ least = first) ∧
        (∀ other ∈ best, compare least other ≤ 0) ∧ compare least first ≤ 0 := by
      cases best with
      | none => exact ⟨first,rfl,.inr rfl,fun other none' => (Option.not_mem_none other none').elim,itself first⟩
      | some least =>
        by_cases less : compare first least < 0
        · exact ⟨first,if_pos less,.inr rfl,fun other same => Option.mem_some_iff.mp same ▸ less.le,itself first⟩
        · exact ⟨least,if_neg less,.inl rfl,fun other same => Option.mem_some_iff.mp same ▸ itself least,
            (consistent.swap least first).mpr (not_lt.mp less)⟩
    obtain ⟨least,here,origin,overBest,overFirst⟩ := kept
    have later := hypothesis (some least)
    rw [List.foldl_cons,here]
    cases whole : items.foldl (keepLeast compare) (some least) with
    | none =>
      rw [whole] at later
      cases later.1
    | some last =>
      rw [whole] at later
      obtain ⟨from',overLeast,overItems⟩ := later
      have below := overLeast least rfl
      refine ⟨?_,fun other known => consistent.trans _ _ _ below (overBest other known),fun other member => ?_⟩
      · rcases from' with same | member
        · cases same
          exact origin.imp_right fun same => List.mem_cons.mpr (.inl same)
        · exact .inr (List.mem_cons_of_mem first member)
      · rcases List.mem_cons.mp member with rfl | member
        · exact consistent.trans _ _ _ below overFirst
        · exact overItems other member

end Lucida.Lib
