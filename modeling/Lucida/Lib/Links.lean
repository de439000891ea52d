import Mathlib.Data.List.Basic

namespace Lucida.Lib

-- A table of cells, each empty or with the slot it shows, and a table of slots, each
-- with the cell that shows it. Where a cell shows a slot, the slot has that cell.
def Linked (empty : Nat) (cells : List Nat) (backs : List Int) : Prop :=
  ∀ cell slot : Nat, cells[cell]? = some slot → slot ≠ empty → backs[slot]? = some (cell : Int)

def link (tables : List Nat × List Int) (pair : Nat × Nat) : List Nat × List Int := (tables.1.set pair.1 pair.2,tables.2.set pair.2 pair.1)

namespace Linked
variable {empty cell slot : Nat} {cells : List Nat} {backs : List Int}

theorem blank (n : Nat) (backs : List Int) : Linked empty (List.replicate n empty) backs := by
  intro cell slot there shown
  rw [List.getElem?_replicate] at there
  split at there
  · cases there
    exact absurd rfl shown
  · cases there

theorem link (linked : Linked empty cells backs) (unshown : slot ≠ empty → ∀ cell' : Nat, cells[cell']? ≠ some slot) (held : slot < backs.length) :
    Linked empty (cells.set cell slot) (backs.set slot cell) := by
  intro cell' slot' there shown
  rw [List.getElem?_set] at there
  by_cases same : cell = cell'
  · subst same
    rw [if_pos rfl] at there
    split at there
    · cases there
      exact List.getElem?_set_self held
    · cases there
  · rw [if_neg same] at there
    have apart : slot ≠ slot' := fun same' => unshown (same' ▸ shown) cell' (same' ▸ there)
    rw [List.getElem?_set_ne apart]
    exact linked cell' slot' there shown

theorem clear (linked : Linked empty cells backs) (shown : slot ≠ empty) :
    (∀ cell : Nat, backs[slot]? = some (cell : Int) → ∀ cell' : Nat, (cells.set cell empty)[cell']? ≠ some slot) ∧
      ((∀ cell : Nat, backs[slot]? ≠ some (cell : Int)) → ∀ cell' : Nat, cells[cell']? ≠ some slot) := by
  refine ⟨fun cell back cell' there => ?_,fun none' cell' there => none' cell' (linked cell' slot there shown)⟩
  rw [List.getElem?_set] at there
  by_cases same : cell = cell'
  · rw [if_pos same] at there
    split at there
    · cases there
      exact shown rfl
    · cases there
  · rw [if_neg same] at there
    have known := linked cell' slot there shown
    rw [back] at known
    exact same (Int.ofNat.inj (Option.some.inj known))

theorem cleared (linked : Linked empty cells backs) (cell : Nat) : Linked empty (cells.set cell empty) backs := by
  intro cell' slot there shown
  rw [List.getElem?_set] at there
  by_cases same : cell = cell'
  · rw [if_pos same] at there
    split at there
    · cases there
      exact absurd rfl shown
    · cases there
  · rw [if_neg same] at there
    exact linked cell' slot there shown

end Linked

theorem linked_pairs {empty : Nat} {pairs : List (Nat × Nat)} {tables : List Nat × List Int} (distinct : (pairs.map Prod.snd).Nodup)
    (held : ∀ pair ∈ pairs, pair.2 < tables.2.length) (linked : Linked empty tables.1 tables.2)
    (fresh : ∀ pair ∈ pairs, pair.2 ≠ empty → ∀ cell : Nat, tables.1[cell]? ≠ some pair.2) :
    Linked empty (pairs.foldl link tables).1 (pairs.foldl link tables).2 ∧
      (pairs.foldl link tables).1.length = tables.1.length ∧ (pairs.foldl link tables).2.length = tables.2.length ∧
      ∀ cell slot : Nat, (pairs.foldl link tables).1[cell]? = some slot → (cell,slot) ∈ pairs ∨ tables.1[cell]? = some slot := by
  induction pairs generalizing tables with
  | nil => exact ⟨linked,rfl,rfl,fun _ _ there => .inr there⟩
  | cons pair pairs ih =>
    obtain ⟨apart,distinct⟩ := List.nodup_cons.mp distinct
    have linked' : Linked empty (link tables pair).1 (link tables pair).2 :=
      linked.link (fresh pair List.mem_cons_self) (held pair List.mem_cons_self)
    have held' : ∀ other ∈ pairs, other.2 < (link tables pair).2.length := fun other member => by
      rw [link,List.length_set]
      exact held other (List.mem_cons_of_mem pair member)
    have fresh' : ∀ other ∈ pairs, other.2 ≠ empty → ∀ cell : Nat, (link tables pair).1[cell]? ≠ some other.2 := by
      intro other member shown cell there
      rw [link,List.getElem?_set] at there
      split at there
      · split at there
        · exact apart (List.mem_map.mpr ⟨other,member,(Option.some.inj there).symm⟩)
        · cases there
      · exact fresh other (List.mem_cons_of_mem pair member) shown cell there
    obtain ⟨all,long,long',from'⟩ := ih distinct held' linked' fresh'
    refine ⟨all,long.trans (List.length_set ..),long'.trans (List.length_set ..),fun cell slot there => ?_⟩
    obtain member | there := from' cell slot there
    · exact .inl (List.mem_cons_of_mem pair member)
    · rw [link,List.getElem?_set] at there
      split at there
      · next same =>
        split at there
        · exact .inl (by rw [← same,← Option.some.inj there]; exact List.mem_cons_self)
        · cases there
      · exact .inr there

theorem shown_pairs {pairs : List (Nat × Nat)} {tables : List Nat × List Int} (distinct : (pairs.map Prod.fst).Nodup)
    (held : ∀ pair ∈ pairs, pair.1 < tables.1.length) (member : pair ∈ pairs) : (pairs.foldl link tables).1[pair.1]? = some pair.2 := by
  have kept : ∀ (pairs : List (Nat × Nat)) (tables : List Nat × List Int) (cell : Nat), (∀ pair ∈ pairs, pair.1 ≠ cell) →
      (pairs.foldl link tables).1[cell]? = tables.1[cell]? := by
    intro pairs
    induction pairs with
    | nil => exact fun _ _ _ => rfl
    | cons first pairs ih =>
      intro tables cell apart
      rw [List.foldl_cons,ih _ cell fun other member => apart other (List.mem_cons_of_mem first member)]
      exact List.getElem?_set_ne (apart first List.mem_cons_self)
  induction pairs generalizing tables with
  | nil => cases member
  | cons first pairs ih =>
    obtain ⟨apart,distinct⟩ := List.nodup_cons.mp distinct
    rw [List.foldl_cons]
    rcases List.mem_cons.mp member with rfl | member
    · rw [kept pairs _ _ fun other member same => apart (List.mem_map.mpr ⟨other,member,same⟩)]
      exact List.getElem?_set_self (held _ List.mem_cons_self)
    · refine ih distinct (fun other member => ?_) member
      rw [link,List.length_set]
      exact held other (List.mem_cons_of_mem first member)

end Lucida.Lib
