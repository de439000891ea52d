import Mathlib.Data.List.Forall2
import Lucida.Lib.Checked

namespace Lucida.Lib
variable {ε α β : Type} {items : List α} {values : List β}

-- A list read item by item, in `Option` and in `Except`.
section
variable {f : α → Option β}

theorem mapM_some_iff : items.mapM f = some values ↔ List.Forall₂ (fun item value => f item = some value) items values := by
  induction items generalizing values with
  | nil =>
    constructor
    · rintro ⟨⟩
      exact .nil
    · intro same
      cases same
      rfl
  | cons item items ih =>
    rw [List.mapM_cons]
    constructor
    · intro mapped
      obtain ⟨value,first,rest⟩ := Option.bind_eq_some_iff.mp mapped
      obtain ⟨others,later,same⟩ := Option.bind_eq_some_iff.mp rest
      cases same
      exact .cons first (ih.mp later)
    · intro each
      cases each with
      | cons first rest =>
        rw [first,ih.mpr rest]
        rfl

theorem mapM_some_map {g : α → β} (each : ∀ item ∈ items, f item = some (g item)) : items.mapM f = some (items.map g) := by
  rw [mapM_some_iff,List.forall₂_map_right_iff,List.forall₂_same]
  exact each

end

section
variable {f : α → Except ε β}

theorem mapM_ok_iff : items.mapM f = .ok values ↔ List.Forall₂ (fun item value => f item = .ok value) items values := by
  induction items generalizing values with
  | nil =>
    constructor
    · rintro ⟨⟩
      exact .nil
    · intro same
      cases same
      rfl
  | cons item items ih =>
    rw [List.mapM_cons]
    constructor
    · intro mapped
      obtain ⟨value,first,rest⟩ := bind_ok mapped
      obtain ⟨others,later,same⟩ := bind_ok rest
      cases same
      exact .cons first (ih.mp later)
    · intro each
      cases each with
      | cons first rest =>
        rw [first,ih.mpr rest]
        rfl

theorem mapM_ok_map {g : α → β} (each : ∀ item ∈ items, f item = .ok (g item)) : items.mapM f = .ok (items.map g) := by
  rw [mapM_ok_iff,List.forall₂_map_right_iff,List.forall₂_same]
  exact each

theorem exists_mapM_ok {P : α → β → Prop} (each : ∀ item ∈ items, ∃ value, f item = .ok value ∧ P item value) :
    ∃ values, items.mapM f = .ok values ∧ List.Forall₂ P items values := by
  induction items with
  | nil => exact ⟨[],rfl,.nil⟩
  | cons item items ih =>
    obtain ⟨first,later⟩ := List.forall_mem_cons.mp each
    obtain ⟨value,made,holds⟩ := first
    obtain ⟨values,mapped,hold⟩ := ih later
    refine ⟨value::values,?_,.cons holds hold⟩
    rw [List.mapM_cons,made,mapped]
    rfl

theorem mapM_error {cause : ε} (ran : items.mapM f = .error cause) : ∃ item ∈ items, f item = .error cause := by
  induction items with
  | nil => cases ran
  | cons item items ih =>
    rw [List.mapM_cons] at ran
    cases first : f item with
    | error other =>
      rw [first] at ran
      cases ran
      exact ⟨item,List.mem_cons_self,first⟩
    | ok value =>
      rw [first,ok_then] at ran
      cases rest : items.mapM f with
      | error other =>
        rw [rest] at ran
        cases ran
        obtain ⟨item,member,failed⟩ := ih rest
        exact ⟨item,List.mem_cons_of_mem _ member,failed⟩
      | ok values =>
        rw [rest] at ran
        cases ran

theorem forM_ok_iff {f : α → Except ε Unit} : items.forM f = .ok () ↔ ∀ item ∈ items, f item = .ok () := by
  induction items with
  | nil =>
    constructor
    · intro _ item member
      cases member
    · intro _
      rfl
  | cons item items ih =>
    have step : (item::items).forM f = (f item >>= fun _ => items.forM f) := rfl
    rw [step,List.forall_mem_cons,← ih]
    constructor
    · intro passed
      obtain ⟨_,first,rest⟩ := bind_ok passed
      exact ⟨first,rest⟩
    · rintro ⟨first,rest⟩
      rw [first]
      exact rest

end

section Chains
variable {γ : Type} {R : α → β → Prop} {S : β → γ → Prop} {T : γ → α → Prop} {outs : List γ}

theorem exists_of_forall₂ {item : α} (each : List.Forall₂ R items values) (member : item ∈ items) : ∃ value ∈ values, R item value := by
  induction each with
  | nil => cases member
  | @cons _ value _ _ first _ ih =>
    rcases List.mem_cons.mp member with rfl | later
    · exact ⟨value,List.mem_cons_self,first⟩
    · obtain ⟨other,there,link⟩ := ih later
      exact ⟨other,List.mem_cons_of_mem _ there,link⟩

theorem getElem?_of_forall₂ {item : α} {i : Nat} (each : List.Forall₂ R items values) (there : items[i]? = some item) :
    ∃ value, values[i]? = some value ∧ R item value := by
  induction each generalizing i with
  | nil => cases there
  | @cons _ value _ _ first _ ih =>
    cases i with
    | zero =>
      cases there
      exact ⟨value,rfl,first⟩
    | succ i =>
      rw [List.getElem?_cons_succ] at there ⊢
      exact ih there

theorem map_eq_map_of_forall₂ {f : α → γ} {g : β → γ} (each : List.Forall₂ (fun item value => f item = g value) items values) :
    items.map f = values.map g := by
  induction each with
  | nil => rfl
  | cons first _ ih => rw [List.map_cons,List.map_cons,first,ih]

theorem forall₂_chain (first : List.Forall₂ R items values) (second : List.Forall₂ S values outs) (third : List.Forall₂ T outs items) :
    List.Forall₂ (fun item value => item ∈ items ∧ ∃ out, R item value ∧ S value out ∧ T out item) items values := by
  induction first generalizing outs with
  | nil => exact .nil
  | cons link _ ih =>
    cases second with
    | cons link' second =>
      cases third with
      | cons link'' third =>
        refine .cons ⟨List.mem_cons_self,_,link,link',link''⟩ ((ih second third).imp ?_)
        rintro item value ⟨member,out,links⟩
        exact ⟨List.mem_cons_of_mem _ member,out,links⟩

end Chains
end Lucida.Lib
