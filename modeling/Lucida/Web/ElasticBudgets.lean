import Lucida.Web.ChunkStoreAccounting

namespace Lucida.Web
open Lib

structure TierBudgets where
  mainBudgetBytes : Nat
  overviewBudgetBytes : Nat
  deriving DecidableEq, Repr

structure TierStores where
  chunkStore : ChunkStore
  overviewStore : ChunkStore

def TierStores.initial (config : TierBudgets) : TierStores := ⟨.initial config.mainBudgetBytes,.initial config.overviewBudgetBytes⟩

-- A tier without demand lends what it does not hold. The overview store evicts by `LRUPolicy`.
def applyElasticTierBudgets (config : TierBudgets) (policy : EvictionPolicy) (detailDemand coarseDemand : Bool)
    (s : TierStores) : TierStores :=
  let protectedDetail : Number := config.mainBudgetBytes
  let protectedCoarse : Number := config.overviewBudgetBytes
  let detailBudget :=
    if detailDemand ∧ ¬ coarseDemand then protectedDetail+max 0 (protectedCoarse-s.overviewStore.bytes) else protectedDetail
  let coarseBudget :=
    if coarseDemand ∧ ¬ detailDemand then protectedCoarse+max 0 (protectedDetail-s.chunkStore.bytes) else protectedCoarse
  ⟨s.chunkStore.setBudgetBytes policy detailBudget,s.overviewStore.setBudgetBytes .lru coarseBudget⟩

namespace ChunkStore
variable {s : ChunkStore} {drift : Nat}

def Held (s : ChunkStore) : Prop := s.bytes ≤ s.budgetBytes ∨ s.collectEntries.length ≤ 1

def largest (s : ChunkStore) : Nat := (s.collectEntries.map CacheEntry.sizeBytes).foldr max 0

theorem Sound.residentBytes_eq (sound : Sound drift s) : s.residentBytes = s.bytes-drift := sound.tally.bytes.symm

theorem residentBytes_nonneg (s : ChunkStore) : 0 ≤ s.residentBytes := by
  unfold residentBytes
  refine List.sum_nonneg fun size member => ?_
  obtain ⟨entry,_,rfl⟩ := List.mem_map.mp member
  exact Nat.cast_nonneg _

theorem Sound.resident_le (sound : Sound drift s) : s.residentBytes ≤ s.bytes := by
  have shifted := sound.residentBytes_eq
  have positive : (0 : Number) ≤ drift := Nat.cast_nonneg _
  linarith

theorem Sound.bytes_nonneg (sound : Sound drift s) : 0 ≤ s.bytes := (residentBytes_nonneg s).trans sound.resident_le

theorem resident_le_largest (few : s.collectEntries.length ≤ 1) : s.residentBytes ≤ s.largest := by
  unfold residentBytes largest
  match entries : s.collectEntries with
  | [] => simp
  | [entry] => simp
  | first::second::rest =>
    rw [entries] at few
    simp at few

theorem Held.resident (held : Held s) (sound : Sound drift s) : s.residentBytes ≤ s.budgetBytes ∨ s.residentBytes ≤ s.largest :=
  held.imp (fun within => sound.resident_le.trans within) resident_le_largest

theorem bytes_removeAll (victims : List CacheEntry) (s : ChunkStore) : (victims.foldl removeEntry s).bytes ≤ s.bytes := by
  induction victims generalizing s with
  | nil => exact le_refl _
  | cons victim victims ih =>
    refine (ih _).trans ?_
    unfold removeEntry
    split
    · exact sub_le_self _ (Nat.cast_nonneg _)
    · exact le_refl _

theorem bytes_evict (policy : EvictionPolicy) (incomingBytes : Number) (s : ChunkStore) : (s.evictIfNeeded policy incomingBytes).bytes ≤ s.bytes :=
  bytes_removeAll _ s

theorem bytes_insert (policy : EvictionPolicy) (entry : CacheEntry) (s : ChunkStore) : (s.insert policy entry).bytes ≤ s.bytes+entry.sizeBytes := by
  have evicted := bytes_evict policy entry.sizeBytes s
  unfold insert
  dsimp only
  linarith

theorem insert_held (sound : Sound drift s) (policy : EvictionPolicy) (entry : CacheEntry) : (s.insert policy entry).Held := by
  refine (insert_within sound policy entry).imp_right fun only => ?_
  rw [only]
  exact le_refl _

theorem budget_insert (policy : EvictionPolicy) (entry : CacheEntry) (s : ChunkStore) : (s.insert policy entry).budgetBytes = s.budgetBytes :=
  budget_evict policy _ s

theorem budget_setBudgetBytes (policy : EvictionPolicy) {budgetBytes : Number} (positive : 0 ≤ budgetBytes) (s : ChunkStore) :
    (s.setBudgetBytes policy budgetBytes).budgetBytes = budgetBytes := by
  unfold setBudgetBytes
  rw [budget_evict]
  exact max_eq_right positive

theorem setBudgetBytes_held (sound : Sound drift s) (policy : EvictionPolicy) (budgetBytes : Number) : (s.setBudgetBytes policy budgetBytes).Held := by
  have changed : Sound drift { s with budgetBytes := max 0 budgetBytes } := ⟨sound.tally,sound.keyed⟩
  obtain ⟨_,room | empty⟩ := sound_evict changed policy 0
  · left
    unfold setBudgetBytes
    rw [budget_evict]
    rwa [add_zero] at room
  · right
    unfold setBudgetBytes
    rw [empty]
    exact Nat.zero_le _

theorem bytes_setBudgetBytes (policy : EvictionPolicy) (budgetBytes : Number) (s : ChunkStore) :
    (s.setBudgetBytes policy budgetBytes).bytes ≤ s.bytes := bytes_evict policy 0 { s with budgetBytes := max 0 budgetBytes }

structure Shrinks (s t : ChunkStore) : Prop where
  bytes : t.bytes ≤ s.bytes
  entries : t.collectEntries.length ≤ s.collectEntries.length
  budget : t.budgetBytes = s.budgetBytes

theorem Shrinks.held {t : ChunkStore} (shrinks : Shrinks s t) (held : s.Held) : t.Held := by
  refine held.imp (fun within => ?_) fun few => shrinks.entries.trans few
  rw [shrinks.budget]
  exact shrinks.bytes.trans within

theorem removeEntry_shrinks {entry : CacheEntry} (sound : Sound drift s) (found : s.get entry.entityId entry.chunkKey = some entry) :
    Shrinks s (s.removeEntry entry) := by
  have whole := (sound_removeEntry sound found).2.length_eq
  rw [List.length_cons] at whole
  exact ⟨bytes_removeAll [entry] s,by omega,budget_removeAll [entry] s⟩

theorem evict_shrinks (sound : Sound drift s) (policy : EvictionPolicy) (incomingBytes : Number) :
    Shrinks s (s.evictIfNeeded policy incomingBytes) := by
  refine ⟨bytes_evict policy incomingBytes s,?_,budget_evict policy incomingBytes s⟩
  unfold evictIfNeeded victims
  split
  · exact le_refl _
  · obtain ⟨others,parts,_⟩ := selectVictims_frees policy s.collectEntries (s.bytes+incomingBytes-s.budgetBytes)
    rw [(sound_removeAll sound parts).2.length_eq,parts.length_eq,List.length_append]
    exact Nat.le_add_left _ _

theorem cancelEntity_shrinks (s : ChunkStore) (entityId : String) : Shrinks s (s.cancelEntity entityId) := by
  unfold cancelEntity
  split
  · exact ⟨le_refl _,le_refl _,rfl⟩
  · rename_i entityMap there
    obtain ⟨rest,whole,left,_⟩ := NestedMap.all_split there
    refine ⟨?_,?_,rfl⟩
    · dsimp only
      generalize s.bytes = bytes
      induction entityMap.values generalizing bytes with
      | nil => exact le_refl _
      | cons entry entries ih => exact (ih _).trans (sub_le_self _ (Nat.cast_nonneg _))
    · unfold collectEntries
      dsimp only
      rw [left.length_eq,whole.length_eq,List.length_append]
      exact Nat.le_add_left _ _

theorem cancelDataset_shrinks (s : ChunkStore) (entityIds : List String) : Shrinks s (s.cancelDataset entityIds) := by
  unfold cancelDataset
  induction entityIds generalizing s with
  | nil => exact ⟨le_refl _,le_refl _,rfl⟩
  | cons entityId entityIds ih =>
    have first := cancelEntity_shrinks s entityId
    have rest := ih (s.cancelEntity entityId)
    exact ⟨rest.bytes.trans first.bytes,rest.entries.trans first.entries,rest.budget.trans first.budget⟩

theorem mapAll_shrinks (s : ChunkStore) (f : String → String → CacheEntry → CacheEntry) : Shrinks s { s with store := s.store.mapAll f } := by
  refine ⟨le_refl _,?_,rfl⟩
  have same := congrArg List.length (NestedMap.all_mapAll s.store f (fun _ => ()) fun _ _ _ => rfl)
  rw [List.length_map,List.length_map] at same
  exact le_of_eq same

theorem perform_shrinks {call : Call} (sound : Sound drift s) (admitted : call.Admitted s) (notInsert : ∀ policy entry, call ≠ .insert policy entry)
    (notBudget : ∀ policy budgetBytes, call ≠ .setBudgetBytes policy budgetBytes) : Shrinks s (s.perform call) := by
  cases call with
  | insert policy entry => exact absurd rfl (notInsert policy entry)
  | setBudgetBytes policy budgetBytes => exact absurd rfl (notBudget policy budgetBytes)
  | remove entityId chunkKey =>
    show Shrinks s (s.remove entityId chunkKey).1
    rw [remove_eq sound]
    cases found : s.get entityId chunkKey with
    | none => exact ⟨le_refl _,le_refl _,rfl⟩
    | some entry =>
      obtain ⟨rfl,rfl⟩ := sound.keyed _ _ entry found
      exact removeEntry_shrinks sound found
  | removeEntry entry => exact removeEntry_shrinks sound admitted
  | cancelDataset entityIds => exact cancelDataset_shrinks s entityIds
  | evictIfNeeded policy incomingBytes => exact evict_shrinks sound policy incomingBytes
  | demoteEntity entityId => exact mapAll_shrinks s _
  | refresh entityId chunkKey wanted => exact mapAll_shrinks s _
  | reset => exact ⟨sound.bytes_nonneg,Nat.zero_le _,rfl⟩

end ChunkStore

structure Tiers where
  config : TierBudgets
  stores : TierStores

namespace Tiers
variable {s t : Tiers}

def initial (config : TierBudgets) : Tiers := ⟨config,.initial config⟩

-- A store's budget changes by a rebalance only, of the given demand.
inductive Call where
  | main (call : ChunkStore.Call)
  | overview (call : ChunkStore.Call)
  | rebalance (policy : EvictionPolicy) (detailDemand coarseDemand : Bool)
  | updateConfig (config : TierBudgets) (policy : EvictionPolicy) (detailDemand coarseDemand : Bool)

def perform (s : Tiers) : Call → Tiers
  | .main call => { s with stores := { s.stores with chunkStore := s.stores.chunkStore.perform call } }
  | .overview call => { s with stores := { s.stores with overviewStore := s.stores.overviewStore.perform call } }
  | .rebalance policy detailDemand coarseDemand =>
    { s with stores := applyElasticTierBudgets s.config policy detailDemand coarseDemand s.stores }
  | .updateConfig config policy detailDemand coarseDemand =>
    ⟨config,applyElasticTierBudgets config policy detailDemand coarseDemand s.stores⟩

def ownCall (store : ChunkStore) (call : ChunkStore.Call) : Prop :=
  call.Admitted store ∧ ∀ policy budgetBytes, call ≠ .setBudgetBytes policy budgetBytes

def Call.Admitted (s : Tiers) : Call → Prop
  | .main call => ownCall s.stores.chunkStore call
  | .overview call => ownCall s.stores.overviewStore call
  | _ => True

def keepsLoan (total configured : Number) (store other : ChunkStore) : ChunkStore.Call → Prop
  | .insert _ entry => other.budgetBytes ≤ configured ∨ store.bytes+entry.sizeBytes ≤ total-other.budgetBytes
  | _ => True

def total (s : Tiers) : Number := s.config.mainBudgetBytes+s.config.overviewBudgetBytes

def Call.Keeps (s : Tiers) : Call → Prop
  | .main call => keepsLoan s.total s.config.overviewBudgetBytes s.stores.chunkStore s.stores.overviewStore call
  | .overview call => keepsLoan s.total s.config.mainBudgetBytes s.stores.overviewStore s.stores.chunkStore call
  | _ => True

def Step (s : Tiers) (call : Call) (t : Tiers) : Prop := call.Admitted s ∧ t = s.perform call

def KeepingStep (s : Tiers) (call : Call) (t : Tiers) : Prop := Step s call t ∧ call.Keeps s

-- A budget above the configured one is covered by what the other store does not hold.
def Covered (total configured : Number) (store other : ChunkStore) : Prop :=
  other.budgetBytes ≤ configured ∨ store.bytes+other.budgetBytes ≤ total

structure Sound (s : Tiers) : Prop where
  main : ∃ drift, s.stores.chunkStore.Sound drift
  overview : ∃ drift, s.stores.overviewStore.Sound drift
  mainHeld : s.stores.chunkStore.Held
  overviewHeld : s.stores.overviewStore.Held
  mainLent : Covered s.total s.config.overviewBudgetBytes s.stores.chunkStore s.stores.overviewStore
  overviewLent : Covered s.total s.config.mainBudgetBytes s.stores.overviewStore s.stores.chunkStore

theorem sound_initial (config : TierBudgets) : Sound (initial config) :=
  ⟨⟨0,ChunkStore.sound_initial _⟩,⟨0,ChunkStore.sound_initial _⟩,.inr (Nat.zero_le _),.inr (Nat.zero_le _),.inl (le_refl _),.inl (le_refl _)⟩

theorem own_call {store other : ChunkStore} {call : ChunkStore.Call} {sum configured share : Number} (sound : ∃ drift, store.Sound drift)
    (held : store.Held) (lent : Covered sum configured store other) (borrowed : Covered sum share other store)
    (own : ownCall store call) (keeps : keepsLoan sum configured store other call) :
    (∃ drift, (store.perform call).Sound drift) ∧ (store.perform call).Held ∧
      Covered sum configured (store.perform call) other ∧ Covered sum share other (store.perform call) := by
  obtain ⟨drift,sound⟩ := sound
  obtain ⟨later,after,_⟩ := ChunkStore.perform_sound sound own.1
  refine ⟨⟨later,after⟩,?_⟩
  by_cases inserts : ∃ policy entry, call = .insert policy entry
  · obtain ⟨policy,entry,rfl⟩ := inserts
    have grown := ChunkStore.bytes_insert policy entry store
    have budget := ChunkStore.budget_insert policy entry store
    refine ⟨ChunkStore.insert_held sound policy entry,?_,?_⟩
    · refine Or.imp_right (fun fits => ?_) keeps
      show (store.insert policy entry).bytes+other.budgetBytes ≤ sum
      linarith
    · unfold Covered
      show (store.insert policy entry).budgetBytes ≤ share ∨ other.bytes+(store.insert policy entry).budgetBytes ≤ sum
      rw [budget]
      exact borrowed
  · have shrinks := ChunkStore.perform_shrinks sound own.1 (fun policy entry same => inserts ⟨policy,entry,same⟩) own.2
    refine ⟨shrinks.held held,lent.imp_right fun fits => ?_,?_⟩
    · have bytes := shrinks.bytes
      linarith
    · unfold Covered
      rw [shrinks.budget]
      exact borrowed

theorem lent_covered {demand : Prop} [Decidable demand] {configured share held after : Number} (shrunk : after ≤ held) :
    (if demand then configured+max 0 (share-held) else configured) ≤ configured ∨
      after+(if demand then configured+max 0 (share-held) else configured) ≤ share+configured := by
  split
  · rcases le_total share held with nothing | something
    · left
      rw [max_eq_left (by linarith),add_zero]
    · right
      rw [max_eq_right (by linarith)]
      linarith
  · exact .inl (le_refl _)

theorem sound_rebalance (config : TierBudgets) (policy : EvictionPolicy) (detailDemand coarseDemand : Bool) {stores : TierStores}
    (main : ∃ drift, stores.chunkStore.Sound drift) (overview : ∃ drift, stores.overviewStore.Sound drift) :
    Sound ⟨config,applyElasticTierBudgets config policy detailDemand coarseDemand stores⟩ := by
  obtain ⟨mainDrift,mainSound⟩ := main
  obtain ⟨overviewDrift,overviewSound⟩ := overview
  have detailShare : (0 : Number) ≤ config.mainBudgetBytes := Nat.cast_nonneg _
  have coarseShare : (0 : Number) ≤ config.overviewBudgetBytes := Nat.cast_nonneg _
  have detailBytes := mainSound.bytes_nonneg
  have coarseBytes := overviewSound.bytes_nonneg
  unfold applyElasticTierBudgets
  dsimp only
  generalize detail : (if detailDemand ∧ ¬ coarseDemand then
    (config.mainBudgetBytes : Number)+max 0 (config.overviewBudgetBytes-stores.overviewStore.bytes) else config.mainBudgetBytes) = detailBudget
  generalize coarse : (if coarseDemand ∧ ¬ detailDemand then
    (config.overviewBudgetBytes : Number)+max 0 (config.mainBudgetBytes-stores.chunkStore.bytes) else config.overviewBudgetBytes) = coarseBudget
  have detailPositive : 0 ≤ detailBudget := by
    rw [← detail]
    split <;> positivity
  have coarsePositive : 0 ≤ coarseBudget := by
    rw [← coarse]
    split <;> positivity
  refine ⟨⟨mainDrift,ChunkStore.sound_setBudgetBytes mainSound policy detailBudget⟩,
    ⟨overviewDrift,ChunkStore.sound_setBudgetBytes overviewSound .lru coarseBudget⟩,
    ChunkStore.setBudgetBytes_held mainSound policy detailBudget,ChunkStore.setBudgetBytes_held overviewSound .lru coarseBudget,?_,?_⟩
  · unfold Covered total
    dsimp only
    rw [ChunkStore.budget_setBudgetBytes _ coarsePositive,← coarse]
    exact lent_covered (ChunkStore.bytes_setBudgetBytes policy detailBudget stores.chunkStore)
  · unfold Covered total
    dsimp only
    rw [ChunkStore.budget_setBudgetBytes _ detailPositive,← detail,add_comm (config.mainBudgetBytes : Number) config.overviewBudgetBytes]
    exact lent_covered (ChunkStore.bytes_setBudgetBytes .lru coarseBudget stores.overviewStore)

theorem perform_sound {call : Call} (sound : Sound s) (admitted : call.Admitted s) (keeps : call.Keeps s) : Sound (s.perform call) := by
  cases call with
  | main call =>
    obtain ⟨after,held,lent,borrowed⟩ := own_call sound.main sound.mainHeld sound.mainLent sound.overviewLent admitted keeps
    exact ⟨after,sound.overview,held,sound.overviewHeld,lent,borrowed⟩
  | overview call =>
    obtain ⟨after,held,lent,borrowed⟩ := own_call sound.overview sound.overviewHeld sound.overviewLent sound.mainLent admitted keeps
    exact ⟨sound.main,after,sound.mainHeld,held,borrowed,lent⟩
  | rebalance policy detailDemand coarseDemand => exact sound_rebalance s.config policy detailDemand coarseDemand sound.main sound.overview
  | updateConfig config policy detailDemand coarseDemand => exact sound_rebalance config policy detailDemand coarseDemand sound.main sound.overview

def Conserved (s : Tiers) : Prop :=
  s.stores.chunkStore.residentBytes+s.stores.overviewStore.residentBytes ≤
    s.total+s.stores.chunkStore.largest+s.stores.overviewStore.largest

theorem Sound.conserved (sound : Sound s) : s.Conserved := by
  obtain ⟨_,main⟩ := sound.main
  obtain ⟨_,overview⟩ := sound.overview
  have detailShare : (0 : Number) ≤ s.config.mainBudgetBytes := Nat.cast_nonneg _
  have coarseShare : (0 : Number) ≤ s.config.overviewBudgetBytes := Nat.cast_nonneg _
  have detailLargest : (0 : Number) ≤ s.stores.chunkStore.largest := Nat.cast_nonneg _
  have coarseLargest : (0 : Number) ≤ s.stores.overviewStore.largest := Nat.cast_nonneg _
  have detailBytes := main.bytes_nonneg
  have coarseBytes := overview.bytes_nonneg
  have detailResident := main.resident_le
  have coarseResident := overview.resident_le
  have lent := sound.mainLent
  have borrowed := sound.overviewLent
  unfold Covered total at lent borrowed
  unfold Conserved total
  rcases sound.mainHeld.resident main with within | single
  · rcases sound.overviewHeld.resident overview with alsoWithin | alsoSingle
    · rcases lent with unlent | lent
      · rcases borrowed with unborrowed | borrowed <;> linarith
      · linarith
    · rcases borrowed with unborrowed | borrowed <;> linarith
  · rcases sound.overviewHeld.resident overview with alsoWithin | alsoSingle
    · rcases lent with unlent | lent <;> linarith
    · linarith

end Tiers

-- The bound holds in every run whose inserts grow no store into what it has lent.
theorem elastic_budgets_conserve {config : TierBudgets} {calls : List Tiers.Call} {s : Tiers}
    (path : Runs Tiers.KeepingStep (.initial config) calls s) :
    s.stores.chunkStore.residentBytes+s.stores.overviewStore.residentBytes ≤
      s.config.mainBudgetBytes+s.config.overviewBudgetBytes+s.stores.chunkStore.largest+s.stores.overviewStore.largest := by
  have sound : Tiers.Sound s := by
    refine path.preserves (P := Tiers.Sound) ?_ (Tiers.sound_initial config)
    intro s call t sound taken
    obtain ⟨⟨admitted,rfl⟩,keeps⟩ := taken
    exact Tiers.perform_sound sound admitted keeps
  exact sound.conserved

def oneByte (chunkKey : String) : ChunkStore.Call :=
  .insert .lru ⟨1,.detail,.activeDetail,"e",0,chunkKey,0,.detail,0,0⟩

theorem oneByte_own (store : ChunkStore) (chunkKey : String) : Tiers.ownCall store (oneByte chunkKey) := by
  refine ⟨trivial,?_⟩
  intro policy budgetBytes same
  cases same

def loanTaken : List Tiers.Call := [.rebalance .lru true false,.main (oneByte "a"),.main (oneByte "b"),.main (oneByte "c")]

theorem elastic_budgets_conserve_a_loan :
    ∃ s, Runs Tiers.KeepingStep (.initial ⟨0,3⟩) loanTaken s ∧
      s.stores.chunkStore.residentBytes+s.stores.overviewStore.residentBytes ≤
        s.config.mainBudgetBytes+s.config.overviewBudgetBytes+s.stores.chunkStore.largest+s.stores.overviewStore.largest ∧
      s.stores.chunkStore.residentBytes = 3 := by
  have path : Runs Tiers.KeepingStep (.initial ⟨0,3⟩) loanTaken _ :=
    .cons ⟨⟨trivial,rfl⟩,trivial⟩ (.cons ⟨⟨oneByte_own _ _,rfl⟩,.inl (by decide +kernel)⟩
      (.cons ⟨⟨oneByte_own _ _,rfl⟩,.inl (by decide +kernel)⟩ (.one ⟨⟨oneByte_own _ _,rfl⟩,.inl (by decide +kernel)⟩)))
  exact ⟨_,path,elastic_budgets_conserve path,by decide +kernel⟩

-- Chunks of the overview store that arrive while its share is lent out.
theorem lent_share_is_filled_twice :
    ∃ s, Runs Tiers.Step (.initial ⟨0,3⟩) (loanTaken ++ [.overview (oneByte "a"),.overview (oneByte "b"),.overview (oneByte "c")]) s ∧
      ¬ s.stores.chunkStore.residentBytes+s.stores.overviewStore.residentBytes ≤
        s.config.mainBudgetBytes+s.config.overviewBudgetBytes+s.stores.chunkStore.largest+s.stores.overviewStore.largest := by
  refine ⟨_,.cons ⟨trivial,rfl⟩ (.cons ⟨oneByte_own _ _,rfl⟩ (.cons ⟨oneByte_own _ _,rfl⟩ (.cons ⟨oneByte_own _ _,rfl⟩
    (.cons ⟨oneByte_own _ _,rfl⟩ (.cons ⟨oneByte_own _ _,rfl⟩ (.one ⟨oneByte_own _ _,rfl⟩)))))),?_⟩
  decide +kernel

end Lucida.Web
