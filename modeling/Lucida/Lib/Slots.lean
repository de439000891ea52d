import Lucida.Lib.NestedMap
import Mathlib.Data.List.Dedup
import Mathlib.Data.List.Range

namespace Lucida.Lib

-- Numbered slots handed out under keys: each of the first `capacity` numbers is
-- either free or held under exactly one key.
def Slotted {K : Type} (held : IndexMap K Nat) (free : List Nat) (capacity : Nat) : Prop :=
  (free ++ held.values).Perm (List.range capacity)

namespace Slotted
variable {K : Type} [DecidableEq K] {held : IndexMap K Nat} {free : List Nat} {capacity slot : Nat} {key other : K}

omit [DecidableEq K] in
theorem fresh (capacity : Nat) : Slotted (.empty : IndexMap K Nat) (List.range capacity) capacity := by
  simp [Slotted,IndexMap.empty,IndexMap.values]

theorem take (slotted : Slotted held (slot::free) capacity) (absent : held.get? key = none) :
    Slotted (held.insert key slot) free capacity := by
  refine List.Perm.trans ?_ slotted
  exact ((IndexMap.values_insert_new absent slot).append_left free).trans List.perm_middle

theorem release (slotted : Slotted held free capacity) (found : held.get? key = some slot) :
    Slotted (held.erase key) (slot::free) capacity := by
  obtain ⟨rest,whole,erased,_⟩ := IndexMap.values_split found
  refine List.Perm.trans ?_ slotted
  exact ((erased.append_left _).trans List.perm_middle.symm).trans (whole.symm.append_left free)

theorem pass (slotted : Slotted held free capacity) (found : held.get? other = some slot) (absent : held.get? key = none) :
    Slotted ((held.erase other).insert key slot) free capacity := by
  refine (slotted.release found).take ?_
  rw [IndexMap.get?_erase,absent,ite_self]

omit [DecidableEq K] in
theorem grow {more : Nat} (slotted : Slotted held free capacity) (wider : capacity ≤ more) :
    Slotted held (List.range' capacity (more-capacity) ++ free) more := by
  have whole : List.range more = List.range capacity ++ List.range' capacity (more-capacity) := by
    have joined := List.range'_append_1 (s := 0) (m := capacity) (n := more-capacity)
    rw [Nat.zero_add,Nat.add_sub_cancel' wider] at joined
    rw [List.range_eq_range',List.range_eq_range',joined]
  unfold Slotted
  rw [whole,List.append_assoc]
  exact (List.Perm.append_left _ slotted).trans List.perm_append_comm

omit [DecidableEq K] in
theorem perm {free' : List Nat} (slotted : Slotted held free capacity) (same : free'.Perm free) : Slotted held free' capacity :=
  (same.append_right _).trans slotted

omit [DecidableEq K] in
theorem nodup (slotted : Slotted held free capacity) : (free ++ held.values).Nodup :=
  slotted.nodup_iff.mpr List.nodup_range

theorem lt (slotted : Slotted held free capacity) (found : held.get? key = some slot) : slot < capacity :=
  List.mem_range.mp (slotted.mem_iff.mp (List.mem_append_right _ (IndexMap.mem_values.mpr ⟨key,found⟩)))

omit [DecidableEq K] in
theorem free_lt (slotted : Slotted held free capacity) (member : slot ∈ free) : slot < capacity :=
  List.mem_range.mp (slotted.mem_iff.mp (List.mem_append_left _ member))

theorem not_free (slotted : Slotted held free capacity) (found : held.get? key = some slot) : slot ∉ free :=
  fun member => List.disjoint_of_nodup_append slotted.nodup member (IndexMap.mem_values.mpr ⟨key,found⟩)

theorem injective (slotted : Slotted held free capacity) (found : held.get? key = some slot)
    (found' : held.get? other = some slot) : key = other := by
  have unique : held.values.Nodup := slotted.nodup.of_append_right
  exact congrArg Prod.fst (List.inj_on_of_nodup_map unique (IndexMap.mem_entries_iff.mpr found) (IndexMap.mem_entries_iff.mpr found') rfl)

omit [DecidableEq K] in
theorem count (slotted : Slotted held free capacity) : free.length+held.keys.length = capacity := by
  have lengths := slotted.length_eq
  simpa [IndexMap.keys,IndexMap.values] using lengths

end Slotted

theorem dedup_concat {K : Type} [DecidableEq K] (used : List K) (key : K) :
    (used ++ [key]).dedup = used.dedup.filter (· ≠ key) ++ [key] := by
  induction used with
  | nil => simp
  | cons first used ih =>
    by_cases again : first ∈ used
    · rw [List.cons_append,List.dedup_cons_of_mem (List.mem_append_left _ again),ih,List.dedup_cons_of_mem again]
    · by_cases same : first = key
      · subst same
        rw [List.cons_append,List.dedup_cons_of_mem (by simp),ih,List.dedup_cons_of_notMem again,List.filter_cons,
          if_neg (by simp)]
      · rw [List.cons_append,List.dedup_cons_of_notMem (by simp [again,same]),ih,List.dedup_cons_of_notMem again,List.filter_cons,
          if_pos (by simpa using same),List.cons_append]

end Lucida.Lib
