import Lucida.Store.LruAccounting

namespace Lucida.Store.ChunkCache
open Lib

inductive LruCall where
  | get (key : ReadKey)
  | insert (key : ReadKey) (bytes : Bytes)
  deriving DecidableEq, Repr

-- The cache and, for the statement only, the entry that its last insert left resident.
structure Observed where
  state : LruState
  lastInserted : Option (ReadKey × Bytes)

-- `none` is an underflow of the byte count.
def Observed.serve (seen : Observed) : LruCall → Option Observed
  | .get key =>
    match seen.state.get key with
    | some (_,state) => some ⟨state,seen.lastInserted⟩
    | none => some seen
  | .insert key bytes => (seen.state.insert key bytes).map fun (state,given) => ⟨state,some (key,given)⟩

structure Observed.Sound (maxBytes : Nat) (seen : Observed) : Prop where
  limit : seen.state.maxBytes = maxBytes
  balanced : Balanced seen.state
  budget : seen.state.currentBytes ≤ maxBytes ∨ ∃ entry, seen.lastInserted = some entry ∧ seen.state.lru.entries = [entry]

section
variable {state state' : LruState} {key : ReadKey} {bytes : Bytes}

theorem get_kept (hit : state.get key = some (bytes,state')) :
    state'.maxBytes = state.maxBytes ∧ state'.currentBytes = state.currentBytes := by
  obtain ⟨stored,found,same⟩ := Option.map_eq_some_iff.mp hit
  cases same
  exact ⟨rfl,rfl⟩

theorem insert_first {resident : IndexMap ReadKey Bytes} (empty : resident.entries = []) (key : ReadKey) (bytes : Bytes) :
    (resident.insert key bytes).entries = [(key,bytes)] := by
  have absent : resident.get? key = none := by
    rw [IndexMap.get?,empty]
    rfl
  have added : (resident.insert key bytes).entries = resident.entries ++ [(key,bytes)] := by rw [IndexMap.insert,dif_pos absent]
  rw [added,empty]
  rfl

theorem get_single (hit : state.get key = some (bytes,state')) (single : state.lru.entries = [entry]) :
    entry = (key,bytes) ∧ state'.lru.entries = [entry] := by
  obtain ⟨stored,found,same⟩ := Option.map_eq_some_iff.mp hit
  cases same
  have member := IndexMap.mem_entries_iff.mpr found
  rw [single,List.mem_singleton] at member
  have gone : (state.lru.erase key).entries = [] := by
    change state.lru.entries.filter _ = []
    rw [single,← member]
    simp
  exact ⟨member.symm,(insert_first gone key bytes).trans (by rw [member])⟩

theorem evictFor_stops {entries : List (ReadKey × Bytes)}
    (ran : evictFor newSize maxBytes entries current evictions = some (keys,current',evictions')) :
    current'+newSize ≤ maxBytes ∨ keys = entries.map Prod.fst := by
  induction entries generalizing current evictions keys with
  | nil =>
    cases ran
    exact .inr rfl
  | cons entry rest ih =>
    obtain ⟨key,evicted⟩ := entry
    unfold evictFor at ran
    split at ran
    · rename_i fits
      cases ran
      exact .inl fits
    · split at ran
      · cases ran
      · obtain ⟨⟨later,left,count⟩,ran',same⟩ := Option.bind_eq_some_iff.mp ran
        cases same
        rcases ih ran' with fits | all
        · exact .inl fits
        · exact .inr (by rw [all,List.map_cons])

theorem insert_budget (inserted : state.insert key bytes = some (state',given)) :
    state'.maxBytes = state.maxBytes ∧
      ((∃ hit : LruState, state.get key = some (given,hit) ∧ state' = hit) ∨
        state'.currentBytes ≤ state.maxBytes ∨ state'.lru.entries = [(key,given)]) := by
  unfold LruState.insert at inserted
  split at inserted
  · rename_i hit
    cases inserted
    exact ⟨(get_kept hit).1,.inl ⟨_,hit,rfl⟩⟩
  · rename_i miss
    obtain ⟨⟨evicted,current,evictions⟩,ran,same⟩ := Option.bind_eq_some_iff.mp inserted
    cases same
    refine ⟨rfl,.inr ?_⟩
    rcases evictFor_stops ran with fits | all
    · exact .inl fits
    · right
      have emptied : (state.lru.retain fun k _ => k ∉ evicted).entries = [] := by
        refine List.filter_eq_nil_iff.mpr fun entry member => ?_
        rw [all]
        simpa using ⟨entry.2,member⟩
      exact insert_first emptied key bytes

end

namespace Observed
variable {maxBytes : Nat} {seen : Observed}

theorem new_sound (maxBytes : Nat) : Sound maxBytes ⟨.new maxBytes,none⟩ where
  limit := rfl
  balanced := new_balanced maxBytes
  budget := .inl (Nat.zero_le maxBytes)

theorem Sound.got (sound : seen.Sound maxBytes) (hit : seen.state.get key = some (bytes,cache)) :
    Sound maxBytes ⟨cache,seen.lastInserted⟩ where
  limit := (get_kept hit).1.trans sound.limit
  balanced := (get_spec hit).2.2 sound.balanced
  budget := by
    rcases sound.budget with fits | ⟨entry,last,single⟩
    · exact .inl ((get_kept hit).2.trans_le fits)
    · exact .inr ⟨entry,last,(get_single hit single).2⟩

theorem Sound.inserted (sound : seen.Sound maxBytes) (key : ReadKey) (bytes : Bytes) :
    ∃ cache given, seen.state.insert key bytes = some (cache,given) ∧ Sound maxBytes ⟨cache,some (key,given)⟩ := by
  obtain ⟨cache,given,inserted,balanced,_,_⟩ := insert_spec sound.balanced key bytes
  obtain ⟨limit,cases⟩ := insert_budget inserted
  refine ⟨cache,given,inserted,limit.trans sound.limit,balanced,?_⟩
  rcases cases with ⟨_,hit,rfl⟩ | fits | single
  · rcases sound.budget with fits | ⟨entry,_,single⟩
    · exact .inl ((get_kept hit).2.trans_le fits)
    · obtain ⟨rfl,still⟩ := get_single hit single
      exact .inr ⟨_,rfl,still⟩
  · exact .inl (sound.limit ▸ fits)
  · exact .inr ⟨_,rfl,single⟩

theorem Sound.served (sound : seen.Sound maxBytes) (call : LruCall) : ∃ after, seen.serve call = some after ∧ after.Sound maxBytes := by
  cases call with
  | get key =>
    unfold serve
    dsimp only
    split
    · rename_i hit
      exact ⟨_,rfl,sound.got hit⟩
    · exact ⟨seen,rfl,sound⟩
  | insert key bytes =>
    obtain ⟨cache,given,inserted,after⟩ := sound.inserted key bytes
    exact ⟨_,by rw [serve,inserted]; rfl,after⟩

theorem Sound.drive (sound : seen.Sound maxBytes) (calls : List LruCall) :
    ∃ after, Lib.drive serve seen calls = some after ∧ after.Sound maxBytes := by
  induction calls generalizing seen with
  | nil => exact ⟨seen,rfl,sound⟩
  | cons call calls ih =>
    obtain ⟨middle,first,kept⟩ := sound.served call
    obtain ⟨after,rest,held⟩ := ih kept
    exact ⟨after,by rw [Lib.drive,List.foldlM_cons,first]; exact rest,held⟩

-- No call underflows, the count is what is resident, and it is over the budget only where the
-- entry inserted last is larger than that by itself.
theorem lru_stays_in_budget (maxBytes : Nat) (calls : List LruCall) :
    ∃ seen, Lib.drive serve ⟨.new maxBytes,none⟩ calls = some seen ∧
      seen.state.currentBytes = (seen.state.lru.entries.map fun entry => entry.2.length).sum ∧
      (seen.state.currentBytes ≤ maxBytes ∨
        ∃ entry, seen.lastInserted = some entry ∧ seen.state.lru.entries = [entry]) := by
  obtain ⟨seen,served,sound⟩ := (new_sound maxBytes).drive calls
  exact ⟨seen,served,sound.balanced,sound.budget⟩

end Observed
end Lucida.Store.ChunkCache
