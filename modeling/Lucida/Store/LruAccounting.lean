import Lucida.Store.CachedStore

namespace Lucida.Store.ChunkCache
open Lib

def Balanced (state : LruState) : Prop := state.currentBytes = state.lru.total List.length

def sizes (entries : List (ReadKey × Bytes)) : Nat := (entries.map fun e => e.2.length).sum

theorem new_balanced (maxBytes : Nat) : Balanced (.new maxBytes) := by
  simp [Balanced,LruState.new,IndexMap.total,IndexMap.empty]

theorem get_spec (hit : LruState.get state key = some (bytes,state')) :
    state.lru.get? key = some bytes ∧ (∀ k, state'.lru.get? k = state.lru.get? k) ∧
      (Balanced state → Balanced state') := by
  obtain ⟨stored,found,same⟩ := Option.map_eq_some_iff.mp hit
  cases same
  refine ⟨found,?_,?_⟩
  · intro k
    simp only [IndexMap.get?_insert,IndexMap.get?_erase]
    split
    · rename_i equal
      rw [equal,found]
    · rfl
  · intro balanced
    have gone : (state.lru.erase key).get? key = none := by simp
    have out := IndexMap.total_erase found List.length
    have back := IndexMap.total_insert_new gone bytes List.length
    unfold Balanced at balanced ⊢
    change state.currentBytes = ((state.lru.erase key).insert key bytes).total List.length
    omega

theorem evictFor_spec (newSize maxBytes evictions : Nat) (enough : sizes entries ≤ current) :
    ∃ turns current' evictions', evictFor newSize maxBytes entries current evictions =
        some ((entries.take turns).map Prod.fst,current',evictions') ∧
      current' + sizes (entries.take turns) = current := by
  induction entries generalizing current evictions with
  | nil => exact ⟨0,current,evictions,rfl,by simp [sizes]⟩
  | cons entry rest ih =>
    obtain ⟨key,evicted⟩ := entry
    have bound : evicted.length + sizes rest ≤ current := by simpa [sizes] using enough
    unfold evictFor
    by_cases fits : current+newSize ≤ maxBytes
    · exact ⟨0,current,evictions,by simp [fits],by simp [sizes]⟩
    · have covers : ¬current < evicted.length := by omega
      obtain ⟨turns,current',evictions',ran,sum⟩ :=
        ih (evictions+1) (show sizes rest ≤ current-evicted.length by omega)
      refine ⟨turns+1,current',evictions',by simp [fits,covers,ran],?_⟩
      have grown : sizes ((key,evicted)::rest.take turns) = evicted.length + sizes (rest.take turns) := by
        simp [sizes]
      rw [List.take_succ_cons,grown]
      omega

theorem retain_drop (m : IndexMap ReadKey Bytes) (turns : Nat) :
    (m.retain fun k _ => k ∉ (m.entries.take turns).map Prod.fst).entries = m.entries.drop turns := by
  have unique := m.nodup
  rw [← List.take_append_drop turns m.entries,List.map_append,List.nodup_append] at unique
  obtain ⟨_,_,apart⟩ := unique
  change m.entries.filter _ = _
  conv_lhs => rw [← List.take_append_drop turns m.entries]
  rw [List.filter_append]
  have none : (m.entries.take turns).filter
      (fun e => decide (e.1 ∉ (m.entries.take turns).map Prod.fst)) = [] :=
    List.filter_eq_nil_iff.mpr fun e member => by
      simp only [decide_eq_true_eq,not_not]
      exact List.mem_map_of_mem member
  have all : (m.entries.drop turns).filter
      (fun e => decide (e.1 ∉ (m.entries.take turns).map Prod.fst)) = m.entries.drop turns := by
    refine List.filter_eq_self.mpr fun e member => ?_
    simp only [decide_eq_true_eq]
    exact fun early => apart _ early _ (List.mem_map_of_mem member) rfl
  rw [List.take_append_drop,none,all,List.nil_append]

-- An insert never underflows; it hands back what is resident under its key, and
-- every resident entry was resident before or is the one inserted.
theorem insert_spec (balanced : Balanced state) (key : ReadKey) (bytes : Bytes) :
    ∃ state' given, state.insert key bytes = some (state',given) ∧ Balanced state' ∧
      (given = bytes ∨ state.lru.get? key = some given) ∧
      ∀ k stored, state'.lru.get? k = some stored →
        state.lru.get? k = some stored ∨ (k = key ∧ stored = bytes) := by
  cases hit : state.get key with
  | some pair =>
    obtain ⟨existing,state'⟩ := pair
    obtain ⟨found,same,kept⟩ := get_spec hit
    exact ⟨state',existing,by simp [LruState.insert,hit],kept balanced,.inr found,
      fun k stored lookup => .inl ((same k).symm.trans lookup)⟩
  | none =>
    have absent : state.lru.get? key = none := by simpa [LruState.get] using hit
    obtain ⟨turns,current',evictions',ran,sum⟩ := evictFor_spec bytes.length state.maxBytes state.evictions
      (le_of_eq balanced.symm)
    let evicted := (state.lru.entries.take turns).map Prod.fst
    let left := state.lru.retain fun k _ => k ∉ evicted
    have room : left.get? key = none := by simp [left,absent]
    refine ⟨{state with
        lru := left.insert key bytes
        currentBytes := current'+bytes.length
        evictions := evictions'},bytes,by simp [LruState.insert,hit,ran,left,evicted],?_,.inl rfl,?_⟩
    · have dropped : left.total List.length = sizes (state.lru.entries.drop turns) := by
        unfold IndexMap.total
        rw [retain_drop]
        rfl
      have cut : sizes (state.lru.entries.take turns) + sizes (state.lru.entries.drop turns) =
          state.lru.total List.length := by
        unfold sizes IndexMap.total
        rw [← List.sum_append,← List.map_append,List.take_append_drop]
      have added := IndexMap.total_insert_new room bytes List.length
      unfold Balanced at balanced ⊢
      change current'+bytes.length = (left.insert key bytes).total List.length
      omega
    · intro k stored lookup
      change (left.insert key bytes).get? k = some stored at lookup
      rw [IndexMap.get?_insert] at lookup
      split at lookup
      · rename_i same
        cases lookup
        exact .inr ⟨same,rfl⟩
      · left
        rw [IndexMap.get?_retain] at lookup
        exact (Option.filter_eq_some_iff.mp lookup).1

-- Whatever holds of the slices and of the resident entries holds of every
-- outcome: `P` is the property a caller relies on.
theorem insertSlices_spec {P : ReadKey → Bytes → Prop} {state : LruState} (key : ReadKey)
    (members : List (ReadKey × Bytes)) (kept : Option Bytes) (balanced : Balanced state) (resident : ∀ k bytes, state.lru.get? k = some bytes → P k bytes)
    (slices : ∀ member ∈ members, P member.1 member.2) (own : ∀ bytes, kept = some bytes → P key bytes) :
    ∃ state' outcomes kept', insertSlices key state members kept = some (state',outcomes,kept') ∧
      Balanced state' ∧ (∀ k bytes, state'.lru.get? k = some bytes → P k bytes) ∧
      outcomes.map Prod.fst = members.map Prod.fst ∧
      (∀ outcome ∈ outcomes, ∃ bytes, outcome.2 = .ok bytes ∧ P outcome.1 bytes) ∧
      (∀ bytes, kept' = some bytes → P key bytes) ∧
      (kept' = none → kept = none ∧ key ∉ members.map Prod.fst) := by
  induction members generalizing state kept with
  | nil =>
    exact ⟨state,[],kept,rfl,balanced,resident,rfl,by simp,own,fun none => ⟨none,by simp⟩⟩
  | cons entry rest ih =>
    obtain ⟨member,slice⟩ := entry
    obtain ⟨state₁,given,inserted,balanced₁,origin,after⟩ := insert_spec balanced member slice
    have mine : P member slice := slices (member,slice) List.mem_cons_self
    have holds : P member given := by
      rcases origin with rfl | found
      · exact mine
      · exact resident member given found
    have resident₁ : ∀ k bytes, state₁.lru.get? k = some bytes → P k bytes := by
      intro k bytes lookup
      rcases after k bytes lookup with found | ⟨rfl,rfl⟩
      · exact resident k bytes found
      · exact mine
    have own₁ : ∀ bytes, (if member = key then some given else kept) = some bytes → P key bytes := by
      intro bytes chosen
      split at chosen
      · rename_i same
        cases chosen
        exact same ▸ holds
      · exact own bytes chosen
    obtain ⟨state',outcomes,kept',ran,balanced',resident',listed,sound,own',missing⟩ :=
      ih _ balanced₁ resident₁ (fun m within => slices m (List.mem_cons_of_mem _ within)) own₁
    refine ⟨state',(member,.ok given)::outcomes,kept',by simp [insertSlices,inserted,ran],balanced',resident',
      by simp [listed],?_,own',?_⟩
    · intro outcome within
      rcases List.mem_cons.mp within with rfl | within
      · exact ⟨given,rfl,holds⟩
      · exact sound outcome within
    · intro none
      obtain ⟨unset,absent⟩ := missing none
      split at unset
      · cases unset
      · rename_i apart
        refine ⟨unset,?_⟩
        simp only [List.map_cons,List.mem_cons,not_or]
        exact ⟨fun same => apart same.symm,absent⟩

end Lucida.Store.ChunkCache
