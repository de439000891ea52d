import Lucida.Web.ChunkStore
import Lucida.Lib.Runs

namespace Lucida.Web
open Lib

section Policies
variable {E : Type} {size : E → Nat} {bytesNeeded : Number} {entries : List E}

def Frees (size : E → Nat) (bytesNeeded : Number) (entries victims : List E) : Prop :=
  ∃ others, entries.Perm (victims ++ others) ∧ (bytesNeeded ≤ (victims.map fun entry => (size entry : Number)).sum ∨ others = [])

theorem takeFreed_spec (size : E → Nat) (bytesNeeded freed : Number) (entries : List E) :
    ∃ others, entries = takeFreed size bytesNeeded freed entries ++ others ∧
      (bytesNeeded ≤ freed+((takeFreed size bytesNeeded freed entries).map fun entry => (size entry : Number)).sum ∨ others = []) := by
  induction entries generalizing freed with
  | nil => exact ⟨[],rfl,.inr rfl⟩
  | cons entry entries ih =>
    unfold takeFreed
    split
    · rename_i enough
      exact ⟨entry::entries,rfl,.inl (by simpa using enough)⟩
    · obtain ⟨others,shape,reached⟩ := ih (freed+size entry)
      refine ⟨others,congrArg (entry::·) shape,reached.imp_left fun enough => ?_⟩
      rw [List.map_cons,List.sum_cons,← add_assoc]
      exact enough

theorem sortBy_perm (compare : E → E → Number) (entries : List E) : (sortBy compare entries).Perm entries := List.mergeSort_perm entries _

theorem takeFreed_frees {sorted : List E} (order : sorted.Perm entries) : Frees size bytesNeeded entries (takeFreed size bytesNeeded 0 sorted) := by
  obtain ⟨others,shape,reached⟩ := takeFreed_spec size bytesNeeded 0 sorted
  rw [zero_add] at reached
  exact ⟨others,order.symm.trans (List.Perm.of_eq shape),reached⟩

theorem none_frees (enough : bytesNeeded ≤ 0) : Frees size bytesNeeded entries [] :=
  ⟨entries,List.Perm.refl _,.inl (by simpa using enough)⟩

theorem lruVictims_frees (insertedAt : E → Number) : Frees size bytesNeeded entries (lruVictims insertedAt size entries bytesNeeded) := by
  unfold lruVictims
  split
  · exact none_frees ‹_›
  · exact takeFreed_frees (sortBy_perm _ _)

theorem byTier_perm {T : Type} [DecidableEq T] (tierOf : E → T) {order : List T} (distinct : order.Nodup) :
    (order.flatMap fun tier => entries.filter (tierOf · = tier)).Perm (entries.filter (tierOf · ∈ order)) := by
  induction order with
  | nil => simp
  | cons tier order ih =>
    obtain ⟨fresh,distinct⟩ := List.nodup_cons.mp distinct
    have parts := List.filter_append_perm (fun entry => decide (tierOf entry = tier)) (entries.filter (tierOf · ∈ tier::order))
    rw [List.filter_filter,List.filter_filter] at parts
    have first : entries.filter (fun entry => decide (tierOf entry = tier) && decide (tierOf entry ∈ tier::order)) =
        entries.filter (tierOf · = tier) := by
      refine List.filter_congr fun entry _ => ?_
      by_cases same : tierOf entry = tier <;> simp [same]
    have others : entries.filter (fun entry => (!decide (tierOf entry = tier)) && decide (tierOf entry ∈ tier::order)) =
        entries.filter (tierOf · ∈ order) := by
      refine List.filter_congr fun entry _ => ?_
      by_cases same : tierOf entry = tier
      · simp [same,fresh]
      · simp [same]
    rw [first,others] at parts
    rw [List.flatMap_cons]
    exact ((ih distinct).append_left _).trans parts

theorem getTierOrder_nodup (mode : InteractionMode) : (getTierOrder mode).Nodup := by cases mode <;> decide

theorem mem_getTierOrder (mode : InteractionMode) (tier : EvictionTier) : tier ∈ getTierOrder mode := by
  cases mode <;> cases tier <;> decide

theorem tierEntries_perm (tier : EvictionTier) (rest : List CacheEntry) : (tierEntries tier rest).Perm (rest.filter (·.tier = tier)) := by
  unfold tierEntries
  dsimp only
  split
  · exact sortBy_perm _ _
  · exact sortBy_perm _ _

theorem tiers_perm (mode : InteractionMode) (rest : List CacheEntry) :
    ((getTierOrder mode).flatMap fun tier => tierEntries tier rest).Perm rest := by
  have sorted := List.Perm.flatMap_left (getTierOrder mode) fun tier _ => tierEntries_perm tier rest
  have every : rest.filter (·.tier ∈ getTierOrder mode) = rest := List.filter_eq_self.mpr fun entry _ => decide_eq_true (mem_getTierOrder mode entry.tier)
  exact sorted.trans ((byTier_perm CacheEntry.tier (getTierOrder_nodup mode)).trans (List.Perm.of_eq every))

theorem selectVictims_frees (policy : EvictionPolicy) (entries : List CacheEntry) (bytesNeeded : Number) :
    Frees CacheEntry.sizeBytes bytesNeeded entries (policy.selectVictims entries bytesNeeded) := by
  cases policy with
  | lru => exact lruVictims_frees _
  | tiered mode targetLevelFor =>
    show Frees _ _ _ (tieredVictims mode targetLevelFor entries bytesNeeded)
    unfold tieredVictims
    split
    · exact none_frees ‹_›
    · exact takeFreed_frees (((sortBy_perm _ _).append (tiers_perm mode _)).trans (List.filter_append_perm _ entries))

end Policies

def atLevel (level : Nat) (entry : CacheEntry) : Bool := entry.level = (level : Number)

structure Tally (bytes : Number) (counts : List Int) (entries : List CacheEntry) : Prop where
  bytes : bytes = (entries.map fun entry => (entry.sizeBytes : Number)).sum
  levels : ∀ level : Nat, counts.getD level 0 = entries.countP (atLevel level)

namespace Tally
variable {bytes : Number} {counts : List Int} {entry : CacheEntry} {entries others : List CacheEntry}

theorem perm (tally : Tally bytes counts entries) (order : entries.Perm others) : Tally bytes counts others := by
  refine ⟨tally.bytes.trans (order.map _).sum_eq,?_⟩
  intro level
  rw [tally.levels,order.countP_eq]

theorem getD_padded (counts : List Int) (n level : Nat) : (counts ++ List.replicate n 0).getD level 0 = counts.getD level 0 := by
  rw [List.getD_eq_getElem?_getD,List.getD_eq_getElem?_getD,List.getElem?_append]
  split
  · rfl
  · rename_i beyond
    rw [List.getElem?_eq_none (Nat.le_of_not_lt beyond),List.getElem?_replicate]
    split <;> rfl

theorem getD_countLevel (level : Number) (delta : Int) (counts : List Int) (index : Nat) :
    (ChunkStore.countLevel level delta counts).getD index 0 =
      if level = index then max 0 (counts.getD index 0+delta) else counts.getD index 0 := by
  unfold ChunkStore.countLevel
  split
  · rename_i counted
    have whole : level = (level.num.toNat : Number) := by
      have positive : 0 ≤ level.num := Rat.num_nonneg.mpr counted.2
      calc level
        _ = (level.num : Number) := Rat.eq_num_of_isInt counted.1
        _ = ((level.num.toNat : Int) : Number) := by rw [Int.toNat_of_nonneg positive]
        _ = (level.num.toNat : Number) := Int.cast_natCast _
    generalize level.num.toNat = n at whole
    subst whole
    rw [← getD_padded counts (n+1-counts.length) index]
    dsimp only
    generalize room : counts ++ List.replicate (n+1-counts.length) 0 = padded
    have long : n < padded.length := by
      rw [← room,List.length_append,List.length_replicate]
      omega
    rw [List.getD_eq_getElem?_getD,List.getElem?_modify,List.getD_eq_getElem?_getD]
    by_cases same : n = index
    · subst same
      rw [if_pos rfl,List.getElem?_eq_getElem long]
      simp
    · rw [if_neg (by exact_mod_cast same)]
      simp [same]
  · rename_i uncounted
    rw [if_neg]
    rintro rfl
    exact uncounted ⟨by simp [Rat.isInt],by positivity⟩

theorem more (tally : Tally bytes counts entries) (entry : CacheEntry) :
    Tally (bytes+entry.sizeBytes) (ChunkStore.countLevel entry.level 1 counts) (entry::entries) := by
  refine ⟨?_,?_⟩
  · rw [tally.bytes,List.map_cons,List.sum_cons,add_comm]
  · intro level
    rw [getD_countLevel,tally.levels,List.countP_cons]
    unfold atLevel
    by_cases same : entry.level = (level : Number)
    · simp only [same,if_true,decide_true]
      omega
    · simp [same]

theorem less (tally : Tally bytes counts (entry::entries)) :
    Tally (bytes-entry.sizeBytes) (ChunkStore.countLevel entry.level (-1) counts) entries := by
  refine ⟨?_,?_⟩
  · rw [tally.bytes,List.map_cons,List.sum_cons,add_sub_cancel_left]
  · intro level
    rw [getD_countLevel,tally.levels,List.countP_cons]
    unfold atLevel
    by_cases same : entry.level = (level : Number)
    · simp only [same,if_true,decide_true]
      omega
    · simp [same]

theorem lessAll (tally : Tally bytes counts (entries ++ others)) :
    Tally (entries.foldl (fun bytes entry => bytes-entry.sizeBytes) bytes)
      (entries.foldl (fun counts entry => ChunkStore.countLevel entry.level (-1) counts) counts) others := by
  induction entries generalizing bytes counts with
  | nil => exact tally
  | cons entry entries ih => exact ih tally.less

theorem seen (tally : Tally bytes counts entries) (sizes : others.map CacheEntry.sizeBytes = entries.map CacheEntry.sizeBytes)
    (levels : others.map CacheEntry.level = entries.map CacheEntry.level) : Tally bytes counts others := by
  refine ⟨?_,?_⟩
  · have sum : ((others.map CacheEntry.sizeBytes).map fun size : Nat => (size : Number)).sum =
        ((entries.map CacheEntry.sizeBytes).map fun size : Nat => (size : Number)).sum := by rw [sizes]
    rw [List.map_map,List.map_map] at sum
    rw [tally.bytes]
    exact sum.symm
  · intro level
    have count := congrArg (List.countP fun found => decide (found = (level : Number))) levels
    rw [List.countP_map,List.countP_map] at count
    rw [tally.levels]
    exact_mod_cast count.symm

end Tally

namespace ChunkStore
variable {policy : EvictionPolicy} {s t : ChunkStore} {entry old : CacheEntry} {victims others : List CacheEntry} {drift : Nat}

-- The books of a store: its counts fit its entries but for the bytes of replaced ones, and an
-- entry stands under its own keys.
structure Sound (drift : Nat) (s : ChunkStore) : Prop where
  tally : Tally (s.bytes-drift) s.levelCounts s.collectEntries
  keyed : ∀ entityId chunkKey entry, s.get entityId chunkKey = some entry → entry.entityId = entityId ∧ entry.chunkKey = chunkKey

theorem sound_initial (budgetBytes : Number) : Sound 0 (initial budgetBytes) := by
  refine ⟨⟨by simp [initial,collectEntries,NestedMap.all,IndexMap.values,IndexMap.empty],fun level => rfl⟩,?_⟩
  intro entityId chunkKey entry found
  cases found

theorem Sound.get_of_mem (sound : Sound drift s) (member : entry ∈ s.collectEntries) : s.get entry.entityId entry.chunkKey = some entry := by
  obtain ⟨entityId,chunkKey,found⟩ := NestedMap.mem_all.mp member
  obtain ⟨rfl,rfl⟩ := sound.keyed entityId chunkKey entry found
  exact found

theorem mem_of_get (found : s.get entityId chunkKey = some entry) : entry ∈ s.collectEntries :=
  NestedMap.mem_all.mpr ⟨entityId,chunkKey,found⟩

theorem contains_of_get (found : s.get entityId chunkKey = some entry) : s.store.contains entityId = true := by
  obtain ⟨entityMap,there,_⟩ := Option.bind_eq_some_iff.mp found
  rw [IndexMap.contains,there]
  rfl

theorem get_removeEntry (s : ChunkStore) (entry : CacheEntry) (entityId chunkKey : String) :
    (s.removeEntry entry).get entityId chunkKey =
      if entityId = entry.entityId ∧ chunkKey = entry.chunkKey then none else s.get entityId chunkKey := by
  unfold removeEntry get
  split
  · exact NestedMap.find?_drop s.store
  · rename_i absent
    split
    · rename_i same
      rw [same.1,NestedMap.find?]
      rw [IndexMap.contains,Option.not_isSome_iff_eq_none] at absent
      rw [absent]
      rfl
    · rfl

theorem sound_removeEntry (sound : Sound drift s) (found : s.get entry.entityId entry.chunkKey = some entry) :
    Sound drift (s.removeEntry entry) ∧ s.collectEntries.Perm (entry::(s.removeEntry entry).collectEntries) := by
  have whole := NestedMap.all_drop found
  have removed : s.removeEntry entry = { s with
      store := s.store.drop entry.entityId entry.chunkKey
      bytes := s.bytes-entry.sizeBytes
      levelCounts := countLevel entry.level (-1) s.levelCounts } := if_pos (contains_of_get found)
  refine ⟨⟨?_,?_⟩,?_⟩
  · rw [removed]
    show Tally (s.bytes-entry.sizeBytes-drift) _ _
    rw [sub_right_comm]
    exact (sound.tally.perm whole).less
  · intro entityId chunkKey other there
    rw [get_removeEntry] at there
    split at there
    · cases there
    · exact sound.keyed entityId chunkKey other there
  · rw [removed]
    exact whole

theorem get_removeAll (victims : List CacheEntry) (s : ChunkStore) (entityId chunkKey : String) :
    (victims.foldl removeEntry s).get entityId chunkKey =
      if ∃ victim ∈ victims, entityId = victim.entityId ∧ chunkKey = victim.chunkKey then none else s.get entityId chunkKey := by
  induction victims generalizing s with
  | nil => simp
  | cons victim victims ih =>
    rw [List.foldl_cons,ih,get_removeEntry]
    by_cases later : ∃ victim ∈ victims, entityId = victim.entityId ∧ chunkKey = victim.chunkKey
    · rw [if_pos later,if_pos]
      obtain ⟨other,member,same⟩ := later
      exact ⟨other,List.mem_cons_of_mem _ member,same⟩
    · rw [if_neg later]
      simp only [List.exists_mem_cons_iff,later,or_false]

theorem budget_removeAll (victims : List CacheEntry) (s : ChunkStore) : (victims.foldl removeEntry s).budgetBytes = s.budgetBytes := by
  induction victims generalizing s with
  | nil => rfl
  | cons victim victims ih =>
    rw [List.foldl_cons,ih]
    unfold removeEntry
    split <;> rfl

theorem sound_removeAll (sound : Sound drift s) (parts : s.collectEntries.Perm (victims ++ others)) :
    Sound drift (victims.foldl removeEntry s) ∧ (victims.foldl removeEntry s).collectEntries.Perm others := by
  induction victims generalizing s with
  | nil => exact ⟨sound,parts⟩
  | cons victim victims ih =>
    have member : victim ∈ s.collectEntries := parts.mem_iff.mpr List.mem_cons_self
    obtain ⟨removed,whole⟩ := sound_removeEntry sound (sound.get_of_mem member)
    exact ih removed ((whole.symm.trans parts).cons_inv)

theorem sound_evict (sound : Sound drift s) (policy : EvictionPolicy) (incomingBytes : Number) :
    Sound drift (s.evictIfNeeded policy incomingBytes) ∧
      ((s.evictIfNeeded policy incomingBytes).bytes+incomingBytes ≤ s.budgetBytes ∨ (s.evictIfNeeded policy incomingBytes).collectEntries = []) := by
  unfold evictIfNeeded victims
  split
  · rename_i fits
    exact ⟨sound,.inl fits⟩
  · generalize needed : s.bytes+incomingBytes-s.budgetBytes = bytesNeeded
    obtain ⟨others,parts,freed⟩ := selectVictims_frees policy s.collectEntries bytesNeeded
    generalize policy.selectVictims s.collectEntries bytesNeeded = victims at parts freed
    obtain ⟨removed,left⟩ := sound_removeAll sound parts
    refine ⟨removed,freed.imp (fun enough => ?_) fun none => ?_⟩
    · have before := (sound.tally.perm parts).bytes
      have after := (removed.tally.perm left).bytes
      rw [List.map_append,List.sum_append] at before
      linarith
    · rw [none] at left
      exact left.eq_nil

theorem budget_evict (policy : EvictionPolicy) (incomingBytes : Number) (s : ChunkStore) :
    (s.evictIfNeeded policy incomingBytes).budgetBytes = s.budgetBytes := budget_removeAll _ s

def residentBytes (s : ChunkStore) : Number := (s.collectEntries.map fun entry => (entry.sizeBytes : Number)).sum

-- An insert that drops no bytes: where its keys are taken, the entry there has none or is
-- evicted for the new one.
def Unreplaced (policy : EvictionPolicy) (entry : CacheEntry) (s : ChunkStore) : Prop :=
  ∀ old, s.get entry.entityId entry.chunkKey = some old → old.sizeBytes = 0 ∨ old ∈ s.victims policy entry.sizeBytes

instance (policy : EvictionPolicy) (entry : CacheEntry) (s : ChunkStore) : Decidable (Unreplaced policy entry s) :=
  inferInstanceAs (Decidable (∀ old ∈ s.get entry.entityId entry.chunkKey, old.sizeBytes = 0 ∨ old ∈ s.victims policy entry.sizeBytes))

theorem get_evict (sound : Sound drift s) (policy : EvictionPolicy) (incomingBytes : Number) (entityId chunkKey : String) :
    (s.evictIfNeeded policy incomingBytes).get entityId chunkKey =
      (s.get entityId chunkKey).filter fun old => old ∉ s.victims policy incomingBytes := by
  unfold evictIfNeeded
  rw [get_removeAll]
  have sources : ∀ victim ∈ s.victims policy incomingBytes, victim ∈ s.collectEntries := by
    unfold victims
    split
    · exact fun victim member => (List.not_mem_nil member).elim
    · obtain ⟨others,parts,_⟩ := selectVictims_frees policy s.collectEntries (s.bytes+incomingBytes-s.budgetBytes)
      exact fun victim member => parts.mem_iff.mpr (List.mem_append_left _ member)
  cases found : s.get entityId chunkKey with
  | none => simp
  | some old =>
    obtain ⟨rfl,rfl⟩ := sound.keyed _ _ old found
    split
    · rename_i evicted
      obtain ⟨victim,member,entity,key⟩ := evicted
      have there := sound.get_of_mem (sources victim member)
      rw [← entity,← key,found] at there
      cases there
      simp [Option.filter,member]
    · rename_i kept
      have apart : old ∉ s.victims policy incomingBytes := fun member => kept ⟨old,member,rfl,rfl⟩
      simp [Option.filter,apart]

theorem get_insert (sound : Sound drift s) (policy : EvictionPolicy) (entry : CacheEntry) (entityId chunkKey : String) :
    (s.insert policy entry).get entityId chunkKey =
      if entityId = entry.entityId ∧ chunkKey = entry.chunkKey then some entry
      else (s.get entityId chunkKey).filter fun old => old ∉ s.victims policy entry.sizeBytes := by
  rw [← get_evict sound]
  exact NestedMap.find?_put _

theorem keyed_insert (sound : Sound drift s) (policy : EvictionPolicy) (entry : CacheEntry) (entityId chunkKey : String) (other : CacheEntry)
    (found : (s.insert policy entry).get entityId chunkKey = some other) : other.entityId = entityId ∧ other.chunkKey = chunkKey := by
  rw [get_insert sound] at found
  split at found
  · rename_i same
    cases found
    exact ⟨same.1.symm,same.2.symm⟩
  · exact sound.keyed _ _ other (Option.filter_eq_some_iff.mp found).1

-- An insert drops the bytes of what it replaces from the entries, and not from the count.
theorem sound_insert (sound : Sound drift s) (policy : EvictionPolicy) (entry : CacheEntry) :
    ∃ replaced : Nat, Sound (drift+replaced) (s.insert policy entry) ∧ (replaced = 0 ↔ Unreplaced policy entry s) := by
  obtain ⟨evicted,_⟩ := sound_evict sound policy entry.sizeBytes
  have left := get_evict sound policy entry.sizeBytes entry.entityId entry.chunkKey
  have keyed := keyed_insert sound policy entry
  cases found : (s.evictIfNeeded policy entry.sizeBytes).get entry.entityId entry.chunkKey with
  | none =>
    have tally := (evicted.tally.more entry).perm (NestedMap.all_put_new found).symm
    rw [sub_add_eq_add_sub] at tally
    refine ⟨0,⟨?_,keyed⟩,iff_of_true rfl fun old there => .inr ?_⟩
    · unfold insert
      dsimp only
      rw [found]
      exact tally
    · rw [found,there] at left
      by_contra kept
      simp [Option.filter,kept] at left
  | some old =>
    obtain ⟨rest,before,after⟩ := NestedMap.all_put_old (v := entry) found
    have tally := ((evicted.tally.perm before).less.more entry).perm after.symm
    have shifted : (s.evictIfNeeded policy entry.sizeBytes).bytes-drift-old.sizeBytes+entry.sizeBytes =
        (s.evictIfNeeded policy entry.sizeBytes).bytes+entry.sizeBytes-((drift+old.sizeBytes : Nat) : Number) := by
      push_cast
      ring
    rw [shifted] at tally
    refine ⟨old.sizeBytes,⟨?_,keyed⟩,?_⟩
    · unfold insert
      dsimp only
      rw [found]
      exact tally
    · rw [found] at left
      obtain ⟨there,kept⟩ := Option.filter_eq_some_iff.mp left.symm
      constructor
      · intro empty other same
        rw [there] at same
        cases same
        exact .inl empty
      · intro unreplaced
        exact (unreplaced old there).resolve_right (by simpa using kept)

theorem insert_within (sound : Sound drift s) (policy : EvictionPolicy) (entry : CacheEntry) :
    (s.insert policy entry).bytes ≤ (s.insert policy entry).budgetBytes ∨ (s.insert policy entry).collectEntries = [entry] := by
  obtain ⟨_,room | empty⟩ := sound_evict sound policy entry.sizeBytes
  · left
    unfold insert
    dsimp only
    rw [budget_evict]
    exact room
  · right
    have absent : (s.evictIfNeeded policy entry.sizeBytes).get entry.entityId entry.chunkKey = none := by
      rw [Option.eq_none_iff_forall_ne_some]
      intro old there
      have member := mem_of_get there
      rw [empty] at member
      exact List.not_mem_nil member
    have single := NestedMap.all_put_new (v := entry) absent
    unfold collectEntries at empty
    rw [empty] at single
    exact List.perm_singleton.mp single

theorem remove_eq (sound : Sound drift s) (entityId chunkKey : String) :
    (s.remove entityId chunkKey).1 = ((s.get entityId chunkKey).map s.removeEntry).getD s := by
  unfold remove
  split
  · rename_i absent
    rw [absent]
    rfl
  · rename_i entry found
    obtain ⟨rfl,rfl⟩ := sound.keyed _ _ entry found
    rw [found,Option.map_some,Option.getD_some]
    exact (if_pos (contains_of_get found)).symm

theorem sound_remove (sound : Sound drift s) (entityId chunkKey : String) : Sound drift (s.remove entityId chunkKey).1 := by
  rw [remove_eq sound]
  cases found : s.get entityId chunkKey with
  | none => exact sound
  | some entry =>
    obtain ⟨rfl,rfl⟩ := sound.keyed _ _ entry found
    exact (sound_removeEntry sound found).1

theorem get_cancelEntity (s : ChunkStore) (entityId entity chunkKey : String) :
    (s.cancelEntity entityId).get entity chunkKey = if entity = entityId then none else s.get entity chunkKey := by
  unfold cancelEntity get NestedMap.find?
  split
  · rename_i absent
    split
    · rename_i same
      rw [same,absent]
      rfl
    · rfl
  · rw [IndexMap.get?_erase]
    split <;> rfl

theorem subtracted_shift (entries : List CacheEntry) (bytes shift : Number) :
    entries.foldl (fun bytes entry => bytes-(entry.sizeBytes : Number)) (bytes-shift) =
      entries.foldl (fun bytes entry => bytes-(entry.sizeBytes : Number)) bytes-shift := by
  induction entries generalizing bytes with
  | nil => rfl
  | cons entry entries ih => rw [List.foldl_cons,List.foldl_cons,sub_right_comm,ih]

theorem sound_cancelEntity (sound : Sound drift s) (entityId : String) : Sound drift (s.cancelEntity entityId) := by
  refine ⟨?_,?_⟩
  · unfold cancelEntity
    split
    · exact sound.tally
    · rename_i entityMap there
      obtain ⟨rest,whole,left,_⟩ := NestedMap.all_split there
      have tally := (sound.tally.perm whole).lessAll.perm left.symm
      rw [subtracted_shift] at tally
      exact tally
  · intro entity chunkKey entry found
    rw [get_cancelEntity] at found
    split at found
    · cases found
    · exact sound.keyed entity chunkKey entry found

theorem sound_cancelDataset (sound : Sound drift s) (entityIds : List String) : Sound drift (s.cancelDataset entityIds) := by
  unfold cancelDataset
  induction entityIds generalizing s with
  | nil => exact sound
  | cons entityId entityIds ih => exact ih (sound_cancelEntity sound entityId)

theorem sound_setBudgetBytes (sound : Sound drift s) (policy : EvictionPolicy) (budgetBytes : Number) : Sound drift (s.setBudgetBytes policy budgetBytes) := by
  have changed : Sound drift { s with budgetBytes := max 0 budgetBytes } := ⟨sound.tally,sound.keyed⟩
  exact (sound_evict changed policy 0).1

theorem sound_reset : Sound 0 s.reset := by
  refine ⟨⟨by simp [reset,collectEntries,NestedMap.all,IndexMap.values,IndexMap.empty],fun level => rfl⟩,?_⟩
  intro entityId chunkKey entry found
  cases found

theorem sound_mapAll (sound : Sound drift s) (f : String → String → CacheEntry → CacheEntry)
    (kept : ∀ entityId chunkKey entry, (f entityId chunkKey entry).sizeBytes = entry.sizeBytes ∧ (f entityId chunkKey entry).level = entry.level ∧
      (f entityId chunkKey entry).entityId = entry.entityId ∧ (f entityId chunkKey entry).chunkKey = entry.chunkKey) :
    Sound drift { s with store := s.store.mapAll f } := by
  refine ⟨sound.tally.seen ?_ ?_,?_⟩
  · exact NestedMap.all_mapAll s.store f _ fun entityId chunkKey entry => (kept entityId chunkKey entry).1
  · exact NestedMap.all_mapAll s.store f _ fun entityId chunkKey entry => (kept entityId chunkKey entry).2.1
  · intro entityId chunkKey entry found
    have found : (s.store.mapAll f).find? entityId chunkKey = some entry := found
    rw [NestedMap.find?_mapAll] at found
    obtain ⟨before,there,rfl⟩ := Option.map_eq_some_iff.mp found
    obtain ⟨_,_,entity,key⟩ := kept entityId chunkKey before
    rw [entity,key]
    exact sound.keyed entityId chunkKey before there

theorem sound_demoteEntity (sound : Sound drift s) (entityId : String) : Sound drift (s.demoteEntity entityId) := by
  refine sound_mapAll sound _ fun entity chunkKey entry => ?_
  split <;> exact ⟨rfl,rfl,rfl,rfl⟩

theorem sound_refresh (sound : Sound drift s) (entityId chunkKey : String) (wanted : Refreshed) : Sound drift (s.refresh entityId chunkKey wanted) := by
  refine sound_mapAll sound _ fun entity key entry => ?_
  split <;> exact ⟨rfl,rfl,rfl,rfl⟩

inductive Call where
  | insert (policy : EvictionPolicy) (entry : CacheEntry)
  | remove (entityId chunkKey : String)
  | removeEntry (entry : CacheEntry)
  | cancelDataset (entityIds : List String)
  | setBudgetBytes (policy : EvictionPolicy) (budgetBytes : Number)
  | evictIfNeeded (policy : EvictionPolicy) (incomingBytes : Number)
  | demoteEntity (entityId : String)
  | refresh (entityId chunkKey : String) (wanted : Refreshed)
  | reset

def perform (s : ChunkStore) : Call → ChunkStore
  | .insert policy entry => s.insert policy entry
  | .remove entityId chunkKey => (s.remove entityId chunkKey).1
  | .removeEntry entry => s.removeEntry entry
  | .cancelDataset entityIds => s.cancelDataset entityIds
  | .setBudgetBytes policy budgetBytes => s.setBudgetBytes policy budgetBytes
  | .evictIfNeeded policy incomingBytes => s.evictIfNeeded policy incomingBytes
  | .demoteEntity entityId => s.demoteEntity entityId
  | .refresh entityId chunkKey wanted => s.refresh entityId chunkKey wanted
  | .reset => s.reset

-- `removeEntry` is for an entry of the store, as its comment has it.
def Call.Admitted (s : ChunkStore) : Call → Prop
  | .removeEntry entry => s.get entry.entityId entry.chunkKey = some entry
  | _ => True

def Call.Keeps (s : ChunkStore) : Call → Prop
  | .insert policy entry => Unreplaced policy entry s
  | _ => True

def Step (s : ChunkStore) (call : Call) (t : ChunkStore) : Prop := call.Admitted s ∧ t = s.perform call

def KeepingStep (s : ChunkStore) (call : Call) (t : ChunkStore) : Prop := Step s call t ∧ call.Keeps s

-- The drift after a call: only a replacing insert adds to it, and `reset` ends it.
theorem perform_sound {call : Call} (sound : Sound drift s) (admitted : call.Admitted s) : ∃ later : Nat, Sound later (s.perform call) ∧
    (drift = 0 → call.Keeps s → later = 0) := by
  cases call with
  | insert policy entry =>
    obtain ⟨replaced,after,none⟩ := sound_insert sound policy entry
    refine ⟨drift+replaced,after,fun start keeps => ?_⟩
    rw [start,none.mpr keeps]
  | remove entityId chunkKey => exact ⟨drift,sound_remove sound entityId chunkKey,fun start _ => start⟩
  | removeEntry entry => exact ⟨drift,(sound_removeEntry sound admitted).1,fun start _ => start⟩
  | cancelDataset entityIds => exact ⟨drift,sound_cancelDataset sound entityIds,fun start _ => start⟩
  | setBudgetBytes policy budgetBytes => exact ⟨drift,sound_setBudgetBytes sound policy budgetBytes,fun start _ => start⟩
  | evictIfNeeded policy incomingBytes => exact ⟨drift,(sound_evict sound policy incomingBytes).1,fun start _ => start⟩
  | demoteEntity entityId => exact ⟨drift,sound_demoteEntity sound entityId,fun start _ => start⟩
  | refresh entityId chunkKey wanted => exact ⟨drift,sound_refresh sound entityId chunkKey wanted,fun start _ => start⟩
  | reset => exact ⟨0,sound_reset,fun _ _ => rfl⟩

theorem runs_sound {budgetBytes : Number} {calls : List Call} (path : Runs KeepingStep (initial budgetBytes) calls s) : Sound 0 s := by
  refine path.preserves (P := Sound 0) ?_ (sound_initial budgetBytes)
  intro s call t sound taken
  obtain ⟨⟨admitted,rfl⟩,keeps⟩ := taken
  obtain ⟨later,after,kept⟩ := perform_sound sound admitted
  rw [kept rfl keeps] at after
  exact after

def Accounted (s : ChunkStore) : Prop :=
  s.bytes = (s.collectEntries.map fun entry => (entry.sizeBytes : Number)).sum ∧
  ∀ level : Nat, s.levelCounts.getD level 0 = s.collectEntries.countP (atLevel level)

theorem Sound.accounted (sound : Sound 0 s) : s.Accounted := by
  refine ⟨?_,sound.tally.levels⟩
  have bytes := sound.tally.bytes
  rwa [Nat.cast_zero,sub_zero] at bytes

end ChunkStore

-- In every run whose inserts replace no bytes the store is accounted for, and one more insert
-- keeps it so exactly if it replaces none either.
theorem chunk_store_accounted {budgetBytes : Number} {calls : List ChunkStore.Call} {s : ChunkStore}
    (path : Runs ChunkStore.KeepingStep (.initial budgetBytes) calls s) :
    s.Accounted ∧ ∀ policy entry,
      ((s.insert policy entry).Accounted ↔ ChunkStore.Unreplaced policy entry s) ∧
      ((s.insert policy entry).bytes ≤ (s.insert policy entry).budgetBytes ∨ (s.insert policy entry).collectEntries = [entry]) := by
  have sound := ChunkStore.runs_sound path
  refine ⟨sound.accounted,fun policy entry => ⟨?_,ChunkStore.insert_within sound policy entry⟩⟩
  obtain ⟨replaced,after,none⟩ := ChunkStore.sound_insert sound policy entry
  rw [zero_add] at after
  constructor
  · intro accounted
    have counted := after.tally.bytes
    rw [← accounted.1] at counted
    refine none.mp ?_
    exact_mod_cast sub_eq_self.mp counted
  · intro unreplaced
    rw [none.mpr unreplaced] at after
    exact after.accounted

def tenBytes (chunkKey : String) (insertedAt : Number) : CacheEntry :=
  ⟨10,.detail,.activeDetail,"e",1,chunkKey,insertedAt,.detail,0,0⟩

theorem chunk_store_accounted_past_an_eviction :
    ∃ s, Runs ChunkStore.KeepingStep (.initial 15) [.insert .lru (tenBytes "a" 0),.insert .lru (tenBytes "a" 1),.insert .lru (tenBytes "b" 2)] s ∧
      s.Accounted ∧ s.bytes = 10 ∧ s.collectEntries = [tenBytes "b" 2] := by
  have fresh : ChunkStore.Unreplaced .lru (tenBytes "a" 0) (.initial 15) := by decide +kernel
  have evicted : ChunkStore.Unreplaced .lru (tenBytes "a" 1) ((ChunkStore.initial 15).insert .lru (tenBytes "a" 0)) := by decide +kernel
  have other : ChunkStore.Unreplaced .lru (tenBytes "b" 2)
      (((ChunkStore.initial 15).insert .lru (tenBytes "a" 0)).insert .lru (tenBytes "a" 1)) := by decide +kernel
  have path : Runs ChunkStore.KeepingStep (.initial 15)
      [.insert .lru (tenBytes "a" 0),.insert .lru (tenBytes "a" 1),.insert .lru (tenBytes "b" 2)] _ :=
    .cons ⟨⟨trivial,rfl⟩,fresh⟩ (.cons ⟨⟨trivial,rfl⟩,evicted⟩ (.one ⟨⟨trivial,rfl⟩,other⟩))
  exact ⟨_,path,(chunk_store_accounted path).1,by decide +kernel,by decide +kernel⟩

theorem replaced_bytes_stay_counted :
    ∃ s, Runs ChunkStore.Step (.initial 100) [.insert .lru (tenBytes "a" 0),.insert .lru (tenBytes "a" 1)] s ∧
      ¬ s.Accounted := by
  refine ⟨_,.cons ⟨trivial,rfl⟩ (.one ⟨trivial,rfl⟩),?_⟩
  intro accounted
  exact absurd accounted.1 (by decide +kernel)

end Lucida.Web
