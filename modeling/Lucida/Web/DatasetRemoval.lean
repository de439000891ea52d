import Lucida.Web.FetchProgress
import Lucida.Web.ChunkStoreAccounting
import Lucida.Web.WorkTraces

namespace Lucida.Web
open Lib

section Keys

def keyChar (ch : Char) : Bool := ch.isDigit || ch = '/'

theorem keyChar_toString (n : Nat) : ∀ ch ∈ (toString n).toList, keyChar ch = true := by
  intro ch member
  have digits : (toString n).toList = Nat.toDigits 10 n := by simp [toString, Nat.repr]
  rw [digits] at member
  simp [keyChar,Nat.isDigit_of_mem_toDigits (by decide) (by decide) member]

theorem keyChar_part {text : String} (chars : ∀ ch ∈ text.toList, keyChar ch = true) (n : Nat) :
    ∀ ch ∈ (text ++ "/" ++ toString n).toList, keyChar ch = true := by
  intro ch member
  rw [String.toList_append,String.toList_append] at member
  rcases List.mem_append.mp member with front | digit
  · rcases List.mem_append.mp front with before | slash
    · exact chars ch before
    · rw [List.mem_singleton.mp (show ch ∈ ['/'] from slash)]
      rfl
  · exact keyChar_toString n ch digit

theorem keyChar_chunkKey (level t c z y x : Nat) : ∀ ch ∈ (chunkKey level t c z y x).toList, keyChar ch = true :=
  keyChar_part (keyChar_part (keyChar_part (keyChar_part (keyChar_part (keyChar_toString level) t) c) z) y) x

theorem split_unique {A : Type} {p : A → Bool} {front back front' back' : List A} {last last' : A} (whole : front ++ last::back = front' ++ last'::back')
    (here : p last = false) (there : p last' = false) (run : ∀ a ∈ back, p a = true) (run' : ∀ a ∈ back', p a = true) : front = front' ∧ last = last' := by
  rcases List.append_eq_append_iff.mp whole with ⟨more,left,right⟩ | ⟨more,left,right⟩
  · cases more with
    | nil =>
      cases right
      exact ⟨by simpa using left.symm,rfl⟩
    | cons first more =>
      cases right
      have := run last' (by simp)
      rw [there] at this
      cases this
  · cases more with
    | nil =>
      cases right
      exact ⟨by simpa using left,rfl⟩
    | cons first more =>
      cases right
      have := run' last (by simp)
      rw [here] at this
      cases this

-- The chunk key that the planner writes.
def ChunkRequest.Planned (req : ChunkRequest) : Prop := req.chunkKey = Web.chunkKey req.level req.t req.c req.z req.y req.x

instance (req : ChunkRequest) : Decidable req.Planned := inferInstanceAs (Decidable (req.chunkKey = Web.chunkKey req.level req.t req.c req.z req.y req.x))

theorem chunkSchedulerKey_parts (req : ChunkRequest) :
    ∃ front last, keyChar last = false ∧ front.length = 6 ∧
      (chunkSchedulerKey req).toList = (req.entityId.toList ++ front) ++ last::('/'::req.chunkKey.toList) := by
  cases shape : req.tier with
  | detail =>
    refine ⟨"/detai".toList,'l',by decide,rfl,?_⟩
    simp [chunkSchedulerKey,shape,ResidencyTier.name]
  | coarse =>
    refine ⟨"/coars".toList,'e',by decide,rfl,?_⟩
    simp [chunkSchedulerKey,shape,ResidencyTier.name]

theorem entity_of_key {req other : ChunkRequest} (planned : req.Planned) (also : other.Planned) (same : chunkSchedulerKey req = chunkSchedulerKey other) :
    req.entityId = other.entityId := by
  obtain ⟨front,last,letter,length,whole⟩ := chunkSchedulerKey_parts req
  obtain ⟨front',last',letter',length',whole'⟩ := chunkSchedulerKey_parts other
  have tail : ∀ req : ChunkRequest, req.Planned → ∀ ch ∈ '/'::req.chunkKey.toList, keyChar ch = true := by
    intro req planned
    rw [planned]
    exact List.forall_mem_cons.mpr ⟨rfl,keyChar_chunkKey _ _ _ _ _ _⟩
  rw [same,whole'] at whole
  have fronts := (split_unique whole letter' letter (tail other also) (tail req planned)).1
  exact String.toList_injective (List.append_inj_left' fronts (length'.trans length.symm)).symm

end Keys

section Stores

namespace ChunkStore
variable {kind : String → String → CacheEntry → Prop} {s : ChunkStore}

def Residents (kind : String → String → CacheEntry → Prop) (s : ChunkStore) : Prop :=
  ∀ entityId chunkKey entry, s.get entityId chunkKey = some entry → kind entityId chunkKey entry

theorem residents_evict (residents : s.Residents kind) (policy : EvictionPolicy) (incomingBytes : Number) :
    (s.evictIfNeeded policy incomingBytes).Residents kind := by
  intro entityId chunkKey entry found
  unfold evictIfNeeded at found
  rw [get_removeAll] at found
  split at found
  · cases found
  · exact residents entityId chunkKey entry found

theorem residents_setBudgetBytes (residents : s.Residents kind) (policy : EvictionPolicy) (budgetBytes : Number) :
    (s.setBudgetBytes policy budgetBytes).Residents kind := by
  have same : ({ s with budgetBytes := max 0 budgetBytes } : ChunkStore).Residents kind := residents
  exact residents_evict same policy 0

theorem residents_insert (residents : s.Residents kind) (policy : EvictionPolicy) {entry : CacheEntry} (new : kind entry.entityId entry.chunkKey entry) :
    (s.insert policy entry).Residents kind := by
  intro entityId chunkKey other found
  have put : (s.insert policy entry).get entityId chunkKey =
      if entityId = entry.entityId ∧ chunkKey = entry.chunkKey then some entry else (s.evictIfNeeded policy entry.sizeBytes).get entityId chunkKey :=
    NestedMap.find?_put _
  rw [put] at found
  split at found
  · rename_i same
    cases found
    rw [same.1,same.2]
    exact new
  · exact residents_evict residents policy _ entityId chunkKey other found

theorem residents_mapAll (residents : s.Residents kind) (f : String → String → CacheEntry → CacheEntry)
    (kept : ∀ entityId chunkKey entry, kind entityId chunkKey entry → kind entityId chunkKey (f entityId chunkKey entry)) :
    ({ s with store := s.store.mapAll f } : ChunkStore).Residents kind := by
  intro entityId chunkKey entry found
  have mapped : ({ s with store := s.store.mapAll f } : ChunkStore).get entityId chunkKey = (s.get entityId chunkKey).map (f entityId chunkKey) :=
    NestedMap.find?_mapAll _ _
  rw [mapped] at found
  obtain ⟨before,there,rfl⟩ := Option.map_eq_some_iff.mp found
  exact kept entityId chunkKey before (residents entityId chunkKey before there)

theorem get_cancelDataset (entityIds : List String) (s : ChunkStore) (entityId chunkKey : String) :
    (s.cancelDataset entityIds).get entityId chunkKey = if entityId ∈ entityIds then none else s.get entityId chunkKey := by
  unfold cancelDataset
  induction entityIds generalizing s with
  | nil => simp
  | cons first entityIds ih =>
    rw [List.foldl_cons,ih,get_cancelEntity]
    by_cases later : entityId ∈ entityIds
    · simp [later]
    · by_cases here : entityId = first
      · simp [here]
      · simp [later,here]

theorem residents_empty (kind : String → String → CacheEntry → Prop) (bytes budgetBytes : Number) (levelCounts : List Int) :
    (⟨.empty,bytes,budgetBytes,levelCounts⟩ : ChunkStore).Residents kind := fun _ _ _ found => (Option.some_ne_none _ found.symm).elim

end ChunkStore

namespace ProxyStore
variable {kind : String → String → Prop} {s : ProxyStore}

def Residents (kind : String → String → Prop) (s : ProxyStore) : Prop :=
  ∀ datasetId innerKey entry, s.get datasetId innerKey = some entry → kind datasetId innerKey

theorem residents_evictAll (residents : s.Residents kind) (victims : List Evictable) : (victims.foldl evict s).Residents kind := by
  induction victims generalizing s with
  | nil => exact residents
  | cons victim victims ih =>
    refine ih ?_
    intro datasetId innerKey entry found
    have dropped : (s.evict victim).get datasetId innerKey = if datasetId = victim.datasetId ∧ innerKey = victim.key then none else s.get datasetId innerKey :=
      NestedMap.find?_drop s.store
    rw [dropped] at found
    split at found
    · cases found
    · exact residents datasetId innerKey entry found

theorem residents_insert (residents : s.Residents kind) {datasetId innerKey : String} (new : kind datasetId innerKey) (entry : ProxyCacheEntry) :
    (s.insert datasetId innerKey entry).Residents kind := by
  have evicted : (s.evictIfNeeded entry.bytes).Residents kind := by
    unfold evictIfNeeded
    split
    · exact residents
    · exact residents_evictAll residents _
  intro dataset key other found
  have put : (s.insert datasetId innerKey entry).get dataset key =
      if dataset = datasetId ∧ key = innerKey then some entry else (s.evictIfNeeded entry.bytes).get dataset key := NestedMap.find?_put _
  rw [put] at found
  split at found
  · rename_i same
    rw [same.1,same.2]
    exact new
  · exact evicted dataset key other found

theorem residents_refresh (residents : s.Residents kind) (datasetId innerKey : String) (priority lastSeenTick : Number) :
    (s.refresh datasetId innerKey priority lastSeenTick).Residents kind := by
  intro dataset key entry found
  unfold refresh get at found
  rw [NestedMap.find?_mapAll] at found
  obtain ⟨before,there,_⟩ := Option.map_eq_some_iff.mp found
  exact residents dataset key before there

theorem get_cancelDataset (datasetId : String) (s : ProxyStore) (dataset innerKey : String) :
    (s.cancelDataset datasetId).get dataset innerKey = if dataset = datasetId then none else s.get dataset innerKey := by
  unfold cancelDataset get NestedMap.find?
  split
  · rename_i absent
    split
    · rename_i same
      rw [same,absent]
      rfl
    · rfl
  · rw [IndexMap.get?_erase]
    split <;> rfl

end ProxyStore

end Stores

structure Trace where
  chunk : ChunkRequest → Prop
  proxy : ProxyRequest → Prop
  attempt : Nat → ChunkAttempt → Prop
  proxyAttempt : Nat → ProxyAttempt → Prop
  resident : String → String → CacheEntry → Prop
  proxyResident : String → String → Prop

-- It is said of what is started, of every stage that an attempt comes to, and of what a resident
-- becomes: by the request that is its latest metadata, or by the attempt when there is none.
structure Trace.Closed (trace : Trace) : Prop where
  starts : ∀ controller req epochs, trace.chunk req → trace.attempt controller ⟨req,chunkSchedulerKey req,0,epochs,.fetching⟩
  settles : ∀ controller attempt outcome, trace.attempt controller attempt → attempt.stage = .fetching →
    trace.attempt controller { attempt with stage := .settled outcome }
  waits : ∀ controller attempt kind, trace.attempt controller attempt → attempt.stage = .settled (.error kind) →
    trace.attempt controller { attempt with stage := .waiting }
  decodes : ∀ controller attempt byteLength, trace.attempt controller attempt → attempt.stage = .settled (.ok byteLength) →
    trace.attempt controller { attempt with stage := .decoding }
  again : ∀ controller attempt req, trace.attempt controller attempt → attempt.stage = .waiting → trace.chunk req → attempt.key = chunkSchedulerKey req →
    trace.attempt controller { attempt with retryCount := attempt.retryCount+1, stage := .fetching }
  startsProxy : ∀ controller req, trace.proxy req → trace.proxyAttempt controller ⟨req,inFlightProxyKey req,none⟩
  settlesProxy : ∀ controller attempt outcome, trace.proxyAttempt controller attempt → attempt.outcome = none →
    trace.proxyAttempt controller { attempt with outcome := some outcome }
  demotes : ∀ entityId chunkKey entry, trace.resident entityId chunkKey entry → trace.resident entityId chunkKey { entry with tier := .demotedDetail }
  wanted : ∀ req entry, trace.chunk req → trace.resident req.entityId req.chunkKey entry
  left : ∀ controller attempt entry, trace.attempt controller attempt → attempt.stage = .decoding → entry.tier = .demotedDetail →
    entry.lastSeenTick = -1 → trace.resident attempt.request.entityId attempt.request.chunkKey entry
  wantedProxy : ∀ req, trace.proxy req → trace.proxyResident req.datasetId (proxyInnerKey req.entityId req.kind req.t req.c)
  leftProxy : ∀ controller attempt byteLength, trace.proxyAttempt controller attempt → attempt.outcome = some (.ok byteLength) →
    trace.proxyResident attempt.request.datasetId
      (proxyInnerKey attempt.request.entityId attempt.request.kind attempt.request.t attempt.request.c)

namespace CpuCache
variable {limits : SchedulerConfig} {m : Moment} {s t : CpuCache} {trace : Trace}

def chunkWork (s : CpuCache) : Work ChunkRequest ChunkAttempt := ⟨s.chunkScheduler,s.inFlightChunkMeta,s.attempts⟩

def proxyWork (s : CpuCache) : Work ProxyRequest ProxyAttempt := ⟨s.proxyScheduler,s.inFlightProxyMeta,s.proxyAttempts⟩

structure Traced (trace : Trace) (s : CpuCache) : Prop where
  chunks : s.chunkWork.Traced chunkSchedulerKey ChunkAttempt.request trace.chunk trace.attempt
  proxies : s.proxyWork.Traced inFlightProxyKey ProxyAttempt.request trace.proxy trace.proxyAttempt
  main : s.stores.chunkStore.Residents trace.resident
  overview : s.stores.overviewStore.Residents trace.resident
  proxyStore : s.proxyStore.Residents trace.proxyResident

section Parts

theorem traced_initial (config : TierBudgets) (proxyBudgetBytes : Number) : Traced trace (.initial config proxyBudgetBytes) :=
  ⟨Work.traced_initial,Work.traced_initial,ChunkStore.residents_empty _ _ _ _,ChunkStore.residents_empty _ _ _ _,
    fun _ _ _ found => (Option.some_ne_none _ found.symm).elim⟩

theorem get?_eraseAll {V : Type} (keys : List String) (map : IndexMap String V) {key : String} {value : V}
    (found : (keys.foldl IndexMap.erase map).get? key = some value) : map.get? key = some value := by
  induction keys generalizing map with
  | nil => exact found
  | cons first keys ih =>
    have before := ih (map.erase first) found
    rw [IndexMap.get?_erase] at before
    split at before
    · cases before
    · exact before

theorem get?_rejectAbortedProxies (aborted : List Nat) (attempts : IndexMap Nat ProxyAttempt) {controller : Nat} {attempt : ProxyAttempt}
    (found : (rejectAbortedProxies aborted attempts).get? controller = some attempt) :
    ∃ before, attempts.get? controller = some before ∧ attempt.request = before.request ∧
      attempt = if controller ∈ aborted ∧ before.outcome = none then { before with outcome := some (.error .abort) } else before := by
  unfold rejectAbortedProxies at found
  rw [IndexMap.get?_mapEntries] at found
  obtain ⟨before,there,rfl⟩ := Option.map_eq_some_iff.mp found
  refine ⟨before,there,?_⟩
  split <;> exact ⟨rfl,rfl⟩

def cancelledChunks (s : CpuCache) (scheduler : FetchScheduler String ChunkRequest) (latest : IndexMap String (InFlightMeta ChunkRequest)) :
    Work ChunkRequest ChunkAttempt :=
  ⟨scheduler,latest,rejectAborted (scheduler.aborted.drop s.chunkScheduler.aborted.length) s.attempts⟩

def cancelledProxies (s : CpuCache) (scheduler : FetchScheduler String ProxyRequest) (latest : IndexMap String (InFlightMeta ProxyRequest)) :
    Work ProxyRequest ProxyAttempt :=
  ⟨scheduler,latest,rejectAbortedProxies (scheduler.aborted.drop s.proxyScheduler.aborted.length) s.proxyAttempts⟩

theorem cancelledChunks_traced {scheduler : FetchScheduler String ChunkRequest} {latest : IndexMap String (InFlightMeta ChunkRequest)}
    (closed : trace.Closed) (traced : Traced trace s) (narrows : s.chunkScheduler.Narrows scheduler)
    (fewer : ∀ key found, latest.get? key = some found → s.inFlightChunkMeta.get? key = some found) :
    (s.cancelledChunks scheduler latest).Traced chunkSchedulerKey ChunkAttempt.request trace.chunk trace.attempt := by
  refine traced.chunks.narrows narrows fewer ?_
  intro controller attempt live
  obtain ⟨before,held,request,_,moved⟩ := get?_rejectAborted _ _ live
  refine ⟨?_,before,held,request.symm⟩
  have kind := (traced.chunks.attempts controller before held).1
  split at moved
  · rename_i rejected
    rw [moved]
    exact closed.settles controller before _ kind rejected.2
  · rw [moved]
    exact kind

theorem cancelledProxies_traced {scheduler : FetchScheduler String ProxyRequest} {latest : IndexMap String (InFlightMeta ProxyRequest)}
    (closed : trace.Closed) (traced : Traced trace s) (narrows : s.proxyScheduler.Narrows scheduler)
    (fewer : ∀ key found, latest.get? key = some found → s.inFlightProxyMeta.get? key = some found) :
    (s.cancelledProxies scheduler latest).Traced inFlightProxyKey ProxyAttempt.request trace.proxy trace.proxyAttempt := by
  refine traced.proxies.narrows narrows fewer ?_
  intro controller attempt live
  obtain ⟨before,held,request,moved⟩ := get?_rejectAbortedProxies _ _ live
  refine ⟨?_,before,held,request.symm⟩
  have kind := (traced.proxies.attempts controller before held).1
  split at moved
  · rename_i rejected
    rw [moved]
    exact closed.settlesProxy controller before _ kind rejected.2
  · rw [moved]
    exact kind

theorem cancelChunkWork_traced (m : Moment) (unwanted : ChunkRequest → Bool) (closed : trace.Closed) (traced : Traced trace s) :
    Traced trace (s.cancelChunkWorkWhere limits m unwanted) :=
  ⟨cancelledChunks_traced closed traced (FetchScheduler.cancelWhere_narrows limits chunkSchedulerKey unwanted m.now _)
    fun _ _ found => get?_eraseAll _ _ found,traced.proxies,traced.main,traced.overview,traced.proxyStore⟩

theorem cancelProxyWork_traced (m : Moment) (unwanted : ProxyRequest → Bool) (closed : trace.Closed) (traced : Traced trace s) :
    Traced trace (s.cancelProxyWorkWhere limits m unwanted) :=
  ⟨traced.chunks,cancelledProxies_traced closed traced (FetchScheduler.cancelWhere_narrows limits inFlightProxyKey unwanted m.now _)
    fun _ _ found => get?_eraseAll _ _ found,traced.main,traced.overview,traced.proxyStore⟩

theorem departEntity_traced (m : Moment) (closed : trace.Closed) (traced : Traced trace s) (entityId : String) :
    Traced trace (departEntity limits m s entityId) := by
  have demoted : Traced trace { s with stores := { s.stores with chunkStore := s.stores.chunkStore.demoteEntity entityId } } := by
    refine ⟨traced.chunks,traced.proxies,ChunkStore.residents_mapAll traced.main _ ?_,traced.overview,traced.proxyStore⟩
    intro entity chunkKey entry kind
    split
    · exact closed.demotes entity chunkKey entry kind
    · exact kind
  exact cancelProxyWork_traced m _ closed (cancelChunkWork_traced m _ closed demoted)

theorem foldl_traced {A : Type} {f : CpuCache → A → CpuCache} {items : List A} (kept : ∀ s, ∀ item ∈ items, Traced trace s → Traced trace (f s item))
    (traced : Traced trace s) : Traced trace (items.foldl f s) := by
  induction items generalizing s with
  | nil => exact traced
  | cons item items ih =>
    obtain ⟨here,rest⟩ : (∀ s, Traced trace s → Traced trace (f s item)) ∧ ∀ s, ∀ item ∈ items, Traced trace s → Traced trace (f s item) :=
      ⟨fun s => kept s item List.mem_cons_self,fun s later member => kept s later (List.mem_cons_of_mem item member)⟩
    exact ih rest (here s traced)

theorem drain_traced (m : Moment) (closed : trace.Closed) (traced : Traced trace s) : Traced trace (s.drainSchedulers limits m) := by
  obtain ⟨proxies,proxyStarts,chunks,chunkStarts,drainedProxies,drainedChunks,whole⟩ := drainSchedulers_eq limits m s
  have proxyFeeds : s.proxyScheduler.Feeds inFlightProxyKey (proxies,proxyStarts).1 (proxies,proxyStarts).2 :=
    drainedProxies ▸ FetchScheduler.drainLoop_feeds rfl 0
  have chunkFeeds : s.chunkScheduler.Feeds chunkSchedulerKey (chunks,chunkStarts).1 (chunks,chunkStarts).2 :=
    drainedChunks ▸ FetchScheduler.drainLoop_feeds rfl 0
  rw [whole]
  refine ⟨traced.chunks.fed chunkFeeds (fun _ => rfl) (fun _ => rfl) ?_,traced.proxies.fed proxyFeeds (fun _ => rfl) (fun _ => rfl) ?_,traced.main,
    traced.overview,traced.proxyStore⟩
  · intro start _ asked keyed
    rw [keyed]
    exact closed.starts start.controller start.request s.currentEpochs asked
  · intro start _ asked keyed
    rw [keyed]
    exact closed.startsProxy start.controller start.request asked

end Parts

section Submit

theorem rebalance_traced (traced : Traced trace s) : Traced trace s.applyElasticTierBudgets :=
  ⟨traced.chunks,traced.proxies,ChunkStore.residents_setBudgetBytes traced.main _ _,ChunkStore.residents_setBudgetBytes traced.overview _ _,traced.proxyStore⟩

theorem takePlan_traced (plan : RequestPlan) (traced : Traced trace s) : Traced trace (s.takePlan plan) := by
  unfold takePlan
  dsimp only
  refine rebalance_traced (foldl_traced ?_ (foldl_traced ?_ ?_))
  · intro s req _ traced
    unfold noteDemand
    dsimp only
    split <;> exact ⟨traced.chunks,traced.proxies,traced.main,traced.overview,traced.proxyStore⟩
  · exact fun s entry _ traced => ⟨traced.chunks,traced.proxies,traced.main,traced.overview,traced.proxyStore⟩
  · exact ⟨traced.chunks,traced.proxies,traced.main,traced.overview,traced.proxyStore⟩

theorem refresh_traced {req : ChunkRequest} (cached : CacheEntry) (closed : trace.Closed) (asked : trace.chunk req) (traced : Traced trace s) :
    Traced trace (s.refreshCached req cached) := by
  have refreshed : ∀ (store : ChunkStore) (wanted : ChunkStore.Refreshed), store.Residents trace.resident →
      (store.refresh req.entityId req.chunkKey wanted).Residents trace.resident := by
    intro store wanted residents
    refine ChunkStore.residents_mapAll residents _ ?_
    intro entity chunkKey entry kind
    split
    · rename_i same
      rw [same.1,same.2]
      exact closed.wanted req _ asked
    · exact kind
  unfold refreshCached
  dsimp only
  split
  · exact ⟨traced.chunks,traced.proxies,traced.main,refreshed _ _ traced.overview,traced.proxyStore⟩
  · exact ⟨traced.chunks,traced.proxies,refreshed _ _ traced.main,traced.overview,traced.proxyStore⟩

theorem admitChunks_traced (m : Moment) {requests : List ChunkRequest} {loop : CpuCache × List ChunkRequest} (closed : trace.Closed)
    (asked : ∀ req ∈ requests, trace.chunk req) (traced : Traced trace loop.1) (kept : ∀ req ∈ loop.2, trace.chunk req) :
    Traced trace (requests.foldl (admitChunk m) loop).1 ∧ ∀ req ∈ (requests.foldl (admitChunk m) loop).2, trace.chunk req := by
  induction requests generalizing loop with
  | nil => exact ⟨traced,kept⟩
  | cons req requests ih =>
    obtain ⟨here,rest⟩ := List.forall_mem_cons.mp asked
    rw [List.foldl_cons]
    rcases admitChunk_cases m loop req with same | ⟨cached,same⟩ | ⟨_,same⟩ | ⟨_,_,same⟩
    · rw [same]
      exact ih rest traced kept
    · rw [same]
      exact ih rest (refresh_traced cached closed here traced) kept
    · rw [same]
      refine ih rest ?_ kept
      exact ⟨traced.chunks.remember ⟨req,loop.1.currentSubmitTick,loop.1.currentEpochs⟩ here,traced.proxies,traced.main,traced.overview,traced.proxyStore⟩
    · rw [same]
      refine ih rest traced ?_
      intro other member
      rcases List.mem_append.mp member with before | single
      · exact kept other before
      · rw [List.mem_singleton.mp single]
        exact here

theorem admitProxies_traced {requests : List ProxyRequest} {loop : CpuCache × List ProxyRequest} (asked : ∀ req ∈ requests, trace.proxy req)
    (traced : Traced trace loop.1) (kept : ∀ req ∈ loop.2, trace.proxy req) :
    Traced trace (requests.foldl admitProxy loop).1 ∧ ∀ req ∈ (requests.foldl admitProxy loop).2, trace.proxy req := by
  induction requests generalizing loop with
  | nil => exact ⟨traced,kept⟩
  | cons req requests ih =>
    obtain ⟨here,rest⟩ := List.forall_mem_cons.mp asked
    rw [List.foldl_cons]
    unfold admitProxy
    dsimp only
    split
    · refine ih rest ?_ kept
      exact ⟨traced.chunks,traced.proxies,traced.main,traced.overview,ProxyStore.residents_refresh traced.proxyStore _ _ _ _⟩
    · split
      · refine ih rest ?_ kept
        exact ⟨traced.chunks,traced.proxies.remember ⟨req,loop.1.currentSubmitTick,loop.1.currentEpochs⟩ here,traced.main,traced.overview,traced.proxyStore⟩
      · refine ih rest traced ?_
        intro other member
        rcases List.mem_append.mp member with before | single
        · exact kept other before
        · rw [List.mem_singleton.mp single]
          exact here

theorem submit_traced (m : Moment) {plan : RequestPlan} (closed : trace.Closed) (asked : ∀ req ∈ plan.requests, trace.chunk req)
    (askedProxies : ∀ req ∈ plan.proxyRequests, trace.proxy req) (traced : Traced trace s) : Traced trace (s.submit limits m plan) := by
  have taken := takePlan_traced plan traced
  have cancelled : Traced trace ((s.takePlan plan).cancelOmittedChunkWork (s.unwantedInFlightKeys plan)) :=
    ⟨cancelledChunks_traced closed taken
      (FetchScheduler.cancelInFlightWhere_narrows (fun _ key => decide (key ∈ s.unwantedInFlightKeys plan)) (s.takePlan plan).chunkScheduler)
      fun _ _ found => get?_eraseAll _ _ found,taken.proxies,taken.main,taken.overview,taken.proxyStore⟩
  unfold submit
  dsimp only
  generalize (s.takePlan plan).cancelOmittedChunkWork (s.unwantedInFlightKeys plan) = before at cancelled
  have admittedChunks : Traced trace (plan.requests.foldl (admitChunk m) (before,[])).1 ∧
      ∀ req ∈ (plan.requests.foldl (admitChunk m) (before,[])).2, trace.chunk req :=
    admitChunks_traced m closed asked cancelled fun req member => (List.not_mem_nil member).elim
  generalize plan.requests.foldl (admitChunk m) (before,[]) = loop at admittedChunks
  obtain ⟨admitted,chunks⟩ := admittedChunks
  have ordered : ∀ req ∈ orderChunkRequestsForTierAllocation loop.2, trace.chunk req := fun req member => chunks req ((order_perm loop.2).mem_iff.mp member)
  have enqueued : Traced trace { loop.1 with
      chunkScheduler := loop.1.chunkScheduler.enqueue limits chunkSchedulerKey (orderChunkRequestsForTierAllocation loop.2) m.now } :=
    ⟨admitted.chunks.enqueue ordered limits m.now,admitted.proxies,admitted.main,admitted.overview,admitted.proxyStore⟩
  generalize { loop.1 with
      chunkScheduler := loop.1.chunkScheduler.enqueue limits chunkSchedulerKey (orderChunkRequestsForTierAllocation loop.2) m.now } = queued at enqueued ⊢
  have admittedProxies : Traced trace (plan.proxyRequests.foldl admitProxy (queued,[])).1 ∧
      ∀ req ∈ (plan.proxyRequests.foldl admitProxy (queued,[])).2, trace.proxy req :=
    admitProxies_traced askedProxies enqueued fun req member => (List.not_mem_nil member).elim
  generalize plan.proxyRequests.foldl admitProxy (queued,[]) = proxyLoop at admittedProxies
  obtain ⟨last,proxies⟩ := admittedProxies
  have both : Traced trace { proxyLoop.1 with
      proxyScheduler := proxyLoop.1.proxyScheduler.enqueue limits inFlightProxyKey proxyLoop.2 m.now } :=
    ⟨last.chunks,last.proxies.enqueue proxies limits m.now,last.main,last.overview,last.proxyStore⟩
  exact drain_traced m closed both

end Submit

section Handlers

theorem take_traced (controller : Nat) (traced : Traced trace s) : Traced trace (s.take controller) := by
  refine ⟨traced.chunks.narrows (.refl _) (fun _ _ found => found) ?_,traced.proxies,traced.main,traced.overview,traced.proxyStore⟩
  intro other attempt live
  have held : (s.attempts.erase controller).get? other = some attempt := live
  rw [IndexMap.get?_erase] at held
  split at held
  · cases held
  · exact ⟨(traced.chunks.attempts other attempt held).1,attempt,held,rfl⟩

theorem takeProxy_traced (controller : Nat) (traced : Traced trace s) : Traced trace (s.takeProxy controller) := by
  refine ⟨traced.chunks,traced.proxies.narrows (.refl _) (fun _ _ found => found) ?_,traced.main,traced.overview,traced.proxyStore⟩
  intro other attempt live
  have held : (s.proxyAttempts.erase controller).get? other = some attempt := live
  rw [IndexMap.get?_erase] at held
  split at held
  · cases held
  · exact ⟨(traced.proxies.attempts other attempt held).1,attempt,held,rfl⟩

theorem moved_traced {controller : Nat} {attempt after : ChunkAttempt} (traced : Traced trace s) (there : s.attempts.get? controller = some attempt)
    (kind : trace.attempt controller after) (same : after.request = attempt.request) {attempts : IndexMap Nat ChunkAttempt}
    (others : ∀ other, other ≠ controller → attempts.get? other = s.attempts.get? other) :
    Traced trace { s with attempts := attempts.insert controller after } := by
  refine ⟨traced.chunks.narrows (.refl _) (fun _ _ found => found) ?_,traced.proxies,traced.main,traced.overview,traced.proxyStore⟩
  intro other found live
  have held : (attempts.insert controller after).get? other = some found := live
  rw [IndexMap.get?_insert] at held
  split at held
  · rename_i equal
    cases held
    rw [equal]
    exact ⟨kind,attempt,there,same.symm⟩
  · rename_i differs
    rw [others other differs] at held
    exact ⟨(traced.chunks.attempts other found held).1,found,held,rfl⟩

theorem take_others_same (controller : Nat) (s : CpuCache) (other : Nat) (differs : other ≠ controller) :
    (s.attempts.erase controller).get? other = s.attempts.get? other := by
  rw [IndexMap.get?_erase,if_neg differs]

theorem settleChunk_traced (key : String) (controller : Nat) (traced : Traced trace s) : Traced trace (s.settleChunk key controller).1 := by
  have narrows := FetchScheduler.settle_narrows key controller s.chunkScheduler
  unfold settleChunk
  dsimp only
  split
  · refine ⟨traced.chunks.narrows narrows ?_ ?_,traced.proxies,traced.main,traced.overview,traced.proxyStore⟩
    · intro other found held
      exact get?_eraseAll [key] s.inFlightChunkMeta held
    · exact fun other attempt held => ⟨(traced.chunks.attempts other attempt held).1,attempt,held,rfl⟩
  · exact traced

theorem settleProxy_traced (key : String) (controller : Nat) (traced : Traced trace s) : Traced trace (s.settleProxy key controller).1 := by
  have narrows := FetchScheduler.settle_narrows key controller s.proxyScheduler
  unfold settleProxy
  dsimp only
  split
  · refine ⟨traced.chunks,traced.proxies.narrows narrows ?_ ?_,traced.main,traced.overview,traced.proxyStore⟩
    · intro other found held
      exact get?_eraseAll [key] s.inFlightProxyMeta held
    · exact fun other attempt held => ⟨(traced.proxies.attempts other attempt held).1,attempt,held,rfl⟩
  · exact traced

theorem failures_traced {permanent transient : IndexMap String FailureRecord} (traced : Traced trace s) :
    Traced trace { s with permanentFailures := permanent, transientFailures := transient } :=
  ⟨traced.chunks,traced.proxies,traced.main,traced.overview,traced.proxyStore⟩

theorem failChunk_traced (key : String) (controller : Nat) (isPermanent : Bool) (traced : Traced trace s) :
    Traced trace (s.failChunk m key controller isPermanent) := by
  have settled := settleChunk_traced key controller traced
  unfold failChunk
  dsimp only
  split
  · unfold recordFailure
    split <;> exact failures_traced settled
  · exact settled

theorem fetchContinues_traced {controller : Nat} {attempt : ChunkAttempt} {outcome : FetchOutcome} (closed : trace.Closed) (traced : Traced trace s)
    (there : s.attempts.get? controller = some attempt) (settled : attempt.stage = .settled outcome) :
    Traced trace ((s.take controller).fetchContinues limits m controller attempt outcome) := by
  have taken := take_traced controller traced
  have kind := (traced.chunks.attempts controller attempt there).1
  unfold fetchContinues
  split
  · exact settleChunk_traced attempt.key controller taken
  · have done := settleChunk_traced attempt.key controller taken
    dsimp only
    split
    · exact drain_traced m closed done
    · exact done
  · split
    · exact moved_traced traced there (closed.waits controller attempt _ kind settled) rfl (take_others_same controller s)
    · exact failChunk_traced attempt.key controller _ taken
  · rename_i byteLength
    have corrected : Traced trace { s with
        chunkScheduler := if s.chunkScheduler.isCurrent attempt.key controller then s.chunkScheduler.correctInFlightBytes attempt.key byteLength
          else s.chunkScheduler } := by
      refine ⟨traced.chunks.narrows ?_ (fun _ _ found => found) ?_,traced.proxies,traced.main,traced.overview,traced.proxyStore⟩
      · dsimp only [chunkWork]
        split
        · exact FetchScheduler.correct_narrows attempt.key byteLength s.chunkScheduler
        · exact .refl _
      · exact fun other found held => ⟨(traced.chunks.attempts other found held).1,found,held,rfl⟩
    exact moved_traced corrected there (closed.decodes controller attempt byteLength kind settled) rfl (take_others_same controller s)

theorem waitEnds_traced {controller : Nat} {attempt : ChunkAttempt} (closed : trace.Closed) (traced : Traced trace s)
    (there : s.attempts.get? controller = some attempt) (waiting : attempt.stage = .waiting) : Traced trace ((s.take controller).waitEnds controller attempt) := by
  have kind := (traced.chunks.attempts controller attempt there).1
  unfold waitEnds
  split
  · rename_i inFlight
    obtain ⟨entry,held⟩ := (FetchScheduler.hasInFlight_iff _ _).mp inFlight
    obtain ⟨asked,keyed,_⟩ := traced.chunks.inFlight attempt.key entry held
    have moved := moved_traced traced there (closed.again controller attempt entry.request kind waiting asked keyed) rfl (take_others_same controller s)
    exact ⟨moved.chunks,moved.proxies,moved.main,moved.overview,moved.proxyStore⟩
  · exact take_traced controller traced

theorem decodedEntry_resident {controller : Nat} {attempt : ChunkAttempt} (byteLength : Nat) (closed : trace.Closed) (traced : Traced trace s)
    (kind : trace.attempt controller attempt) (decoding : attempt.stage = .decoding) :
    trace.resident (s.decodedEntry attempt byteLength).1.entityId (s.decodedEntry attempt byteLength).1.chunkKey (s.decodedEntry attempt byteLength).1 := by
  unfold decodedEntry
  cases latest : s.inFlightChunkMeta.get? attempt.key with
  | none => exact closed.left controller attempt _ kind decoding rfl rfl
  | some found => exact closed.wanted found.request _ (traced.chunks.latest attempt.key found latest).1

theorem insertDecoded_traced {entry : CacheEntry} (stale : Bool) (traced : Traced trace s) (kind : trace.resident entry.entityId entry.chunkKey entry) :
    Traced trace (s.insertDecoded entry stale) := by
  unfold insertDecoded
  split
  · split
    · exact traced
    · exact ⟨traced.chunks,traced.proxies,traced.main,ChunkStore.residents_insert traced.overview _ kind,traced.proxyStore⟩
  · split
    · exact traced
    · exact ⟨traced.chunks,traced.proxies,ChunkStore.residents_insert traced.main _ kind,traced.overview,traced.proxyStore⟩

theorem storeDecoded_traced {controller : Nat} {attempt : ChunkAttempt} (byteLength : Nat) (closed : trace.Closed) (traced : Traced trace s)
    (kind : trace.attempt controller attempt) (decoding : attempt.stage = .decoding) : Traced trace (s.storeDecoded controller attempt byteLength) := by
  have settled := settleChunk_traced attempt.key controller traced
  unfold storeDecoded
  dsimp only
  refine insertDecoded_traced _ ?_ (decodedEntry_resident byteLength closed traced kind decoding)
  split <;> exact ⟨settled.chunks,settled.proxies,settled.main,settled.overview,settled.proxyStore⟩

theorem storeProxy_traced {controller : Nat} {attempt : ProxyAttempt} {responseBytes : Nat} (closed : trace.Closed) (traced : Traced trace s)
    (kind : trace.proxyAttempt controller attempt) (fetched : attempt.outcome = some (.ok responseBytes)) :
    Traced trace (s.storeProxy controller attempt responseBytes) := by
  unfold storeProxy
  dsimp only
  refine settleProxy_traced attempt.key controller ⟨traced.chunks,?_,traced.main,traced.overview,?_⟩
  · refine traced.proxies.narrows ?_ (fun _ _ found => found) fun other found held => ⟨(traced.proxies.attempts other found held).1,found,held,rfl⟩
    dsimp only [proxyWork]
    split
    · exact FetchScheduler.correct_narrows attempt.key responseBytes s.proxyScheduler
    · exact .refl _
  · refine ProxyStore.residents_insert traced.proxyStore ?_ _
    cases latest : s.inFlightProxyMeta.get? attempt.key with
    | none => exact closed.leftProxy controller attempt responseBytes kind fetched
    | some found => exact closed.wantedProxy found.request (traced.proxies.latest attempt.key found latest).1

end Handlers

section Steps

def forgetLatest (latest : IndexMap String (InFlightMeta ChunkRequest)) (entityId : String) : IndexMap String (InFlightMeta ChunkRequest) :=
  latest.retain fun key _ => !startsWith (entityId ++ "/") key

theorem forgetEntities_parts (entityIds : List String) (s : CpuCache) :
    (entityIds.foldl forgetEntity s).chunkWork = { s.chunkWork with latest := entityIds.foldl forgetLatest s.inFlightChunkMeta } ∧
      (entityIds.foldl forgetEntity s).proxyWork = s.proxyWork ∧ (entityIds.foldl forgetEntity s).stores = s.stores ∧
      (entityIds.foldl forgetEntity s).proxyStore = s.proxyStore := by
  induction entityIds generalizing s with
  | nil => exact ⟨rfl,rfl,rfl,rfl⟩
  | cons entityId entityIds ih => exact ih (forgetEntity s entityId)

theorem get?_forgetLatest {entityIds : List String} {latest : IndexMap String (InFlightMeta ChunkRequest)} {key : String} {found : InFlightMeta ChunkRequest}
    (held : (entityIds.foldl forgetLatest latest).get? key = some found) :
    latest.get? key = some found ∧ ∀ entityId ∈ entityIds, startsWith (entityId ++ "/") key = false := by
  induction entityIds generalizing latest with
  | nil => exact ⟨held,fun _ member => (List.not_mem_nil member).elim⟩
  | cons entityId entityIds ih =>
    obtain ⟨before,others⟩ := ih held
    unfold forgetLatest at before
    rw [IndexMap.get?_retain,Option.filter_eq_some_iff] at before
    exact ⟨before.1,List.forall_mem_cons.mpr ⟨by simpa using before.2,others⟩⟩

def removedChunks (limits : SchedulerConfig) (m : Moment) (entityIds : List String) (s : CpuCache) : FetchScheduler String ChunkRequest :=
  (s.chunkScheduler.cancelWhere limits chunkSchedulerKey (fun req _ _ => req.entityId ∈ entityIds) m.now).1

def removedProxies (limits : SchedulerConfig) (m : Moment) (datasetId : String) (s : CpuCache) : FetchScheduler String ProxyRequest :=
  (s.proxyScheduler.cancelWhere limits inFlightProxyKey (fun req _ _ => req.datasetId = datasetId) m.now).1

theorem cancelDataset_parts (limits : SchedulerConfig) (m : Moment) (datasetId : String) (entityIds : List String) (s : CpuCache) :
    (s.cancelDataset limits m datasetId entityIds).chunkWork =
        s.cancelledChunks (s.removedChunks limits m entityIds) (entityIds.foldl forgetLatest s.inFlightChunkMeta) ∧
      (s.cancelDataset limits m datasetId entityIds).proxyWork =
        s.cancelledProxies (s.removedProxies limits m datasetId) (s.inFlightProxyMeta.retain fun key _ => !startsWith (datasetId ++ "|") key) ∧
      (s.cancelDataset limits m datasetId entityIds).stores = ⟨s.stores.chunkStore.cancelDataset entityIds,s.stores.overviewStore.cancelDataset entityIds⟩ ∧
      (s.cancelDataset limits m datasetId entityIds).proxyStore = s.proxyStore.cancelDataset datasetId := by
  unfold cancelDataset
  dsimp only
  refine ⟨(forgetEntities_parts entityIds _).1,?_,(forgetEntities_parts entityIds _).2.2.1,(forgetEntities_parts entityIds _).2.2.2⟩
  exact congrArg (fun work : Work ProxyRequest ProxyAttempt => { work with latest := work.latest.retain fun key _ => !startsWith (datasetId ++ "|") key })
    (forgetEntities_parts entityIds _).2.1

theorem get?_forgetProxies {datasetId key : String} {latest : IndexMap String (InFlightMeta ProxyRequest)} {found : InFlightMeta ProxyRequest}
    (held : (latest.retain fun key _ => !startsWith (datasetId ++ "|") key).get? key = some found) :
    latest.get? key = some found ∧ startsWith (datasetId ++ "|") key = false := by
  rw [IndexMap.get?_retain,Option.filter_eq_some_iff] at held
  exact ⟨held.1,by simpa using held.2⟩

theorem cancelDataset_traced (m : Moment) (datasetId : String) (entityIds : List String) (closed : trace.Closed) (traced : Traced trace s) :
    Traced trace (s.cancelDataset limits m datasetId entityIds) := by
  obtain ⟨chunkWork,proxyWork,stores,proxyStore⟩ := cancelDataset_parts limits m datasetId entityIds s
  have kept : ∀ store : ChunkStore, store.Residents trace.resident → (store.cancelDataset entityIds).Residents trace.resident := by
    intro store residents entityId chunkKey entry found
    rw [ChunkStore.get_cancelDataset] at found
    split at found
    · cases found
    · exact residents entityId chunkKey entry found
  refine ⟨?_,?_,?_,?_,?_⟩
  · rw [chunkWork]
    exact cancelledChunks_traced closed traced (FetchScheduler.cancelWhere_narrows limits chunkSchedulerKey _ m.now s.chunkScheduler)
      fun key found held => (get?_forgetLatest held).1
  · rw [proxyWork]
    exact cancelledProxies_traced closed traced (FetchScheduler.cancelWhere_narrows limits inFlightProxyKey _ m.now s.proxyScheduler)
      fun key found held => (get?_forgetProxies held).1
  · rw [stores]
    exact kept _ traced.main
  · rw [stores]
    exact kept _ traced.overview
  · rw [proxyStore]
    intro dataset innerKey entry found
    rw [ProxyStore.get_cancelDataset] at found
    split at found
    · cases found
    · exact traced.proxyStore dataset innerKey entry found

theorem reset_stores (kind : String → String → CacheEntry → Prop) (s : CpuCache) :
    s.reset.stores.chunkStore.Residents kind ∧ s.reset.stores.overviewStore.Residents kind :=
  ⟨ChunkStore.residents_setBudgetBytes (ChunkStore.residents_empty kind _ _ _) _ _,
    ChunkStore.residents_setBudgetBytes (ChunkStore.residents_empty kind _ _ _) _ _⟩

theorem reset_traced (closed : trace.Closed) (traced : Traced trace s) : Traced trace s.reset := by
  have chunks : (s.cancelledChunks s.chunkScheduler.reset .empty).Traced chunkSchedulerKey ChunkAttempt.request trace.chunk trace.attempt :=
    cancelledChunks_traced closed traced (FetchScheduler.reset_narrows _) fun _ _ held => (Option.some_ne_none _ held.symm).elim
  have proxies : (s.cancelledProxies s.proxyScheduler.reset .empty).Traced inFlightProxyKey ProxyAttempt.request trace.proxy trace.proxyAttempt :=
    cancelledProxies_traced closed traced (FetchScheduler.reset_narrows _) fun _ _ held => (Option.some_ne_none _ held.symm).elim
  exact ⟨chunks,proxies,(reset_stores _ s).1,(reset_stores _ s).2,fun _ _ _ found => (Option.some_ne_none _ found.symm).elim⟩

theorem onPlanRebuildStart_traced (m : Moment) (closed : trace.Closed) (traced : Traced trace s) : Traced trace (s.onPlanRebuildStart limits m) := by
  have departed : Traced trace ((s.activeEntityIds.filter (· ∉ s.activeEntityIdsThisRebuild)).foldl (departEntity limits m) s) :=
    foldl_traced (fun s entityId _ traced => departEntity_traced m closed traced entityId) traced
  exact ⟨departed.chunks,departed.proxies,departed.main,departed.overview,departed.proxyStore⟩

theorem markRejected_traced (m : Moment) (entityId chunkKey : String) (closed : trace.Closed) (traced : Traced trace s) :
    Traced trace (s.markRejected limits m entityId chunkKey) := by
  unfold markRejected
  split
  · exact traced
  · have marked : Traced trace { s with rejectedKeys := s.rejectedKeys ++ [(entityId,chunkKey)] } :=
      ⟨traced.chunks,traced.proxies,traced.main,traced.overview,traced.proxyStore⟩
    exact cancelChunkWork_traced m _ closed marked

theorem proxySettles_traced {controller : Nat} {attempt : ProxyAttempt} (outcome : FetchOutcome) (closed : trace.Closed) (traced : Traced trace s)
    (there : s.proxyAttempts.get? controller = some attempt) (fetching : attempt.outcome = none) :
    Traced trace { s with proxyAttempts := s.proxyAttempts.insert controller { attempt with outcome := some outcome } } := by
  refine ⟨traced.chunks,traced.proxies.narrows (.refl _) (fun _ _ found => found) ?_,traced.main,traced.overview,traced.proxyStore⟩
  intro other found live
  have held : (s.proxyAttempts.insert controller { attempt with outcome := some outcome }).get? other = some found := live
  rw [IndexMap.get?_insert] at held
  split at held
  · rename_i same
    cases held
    rw [same]
    have kind := (traced.proxies.attempts controller attempt there).1
    exact ⟨closed.settlesProxy controller attempt outcome kind fetching,attempt,there,rfl⟩
  · exact ⟨(traced.proxies.attempts other found held).1,found,held,rfl⟩

def Event.chunks : Event → List ChunkRequest
  | .submit plan => plan.requests
  | _ => []

theorem step_traced {event : Event} (closed : trace.Closed) (asked : ∀ req ∈ event.chunks, trace.chunk req)
    (askedProxies : ∀ req ∈ event.proxies, trace.proxy req) (traced : Traced trace s) (taken : Step limits s (m,event) t) : Traced trace t := by
  cases step_cases taken with
  | submit plan => exact submit_traced m closed asked askedProxies traced
  | onPlanRebuildStart => exact onPlanRebuildStart_traced m closed traced
  | cancelDataset datasetId entityIds => exact cancelDataset_traced m datasetId entityIds closed traced
  | markRejected entityId chunkKey => exact markRejected_traced m entityId chunkKey closed traced
  | clearRejected => exact ⟨traced.chunks,traced.proxies,traced.main,traced.overview,traced.proxyStore⟩
  | updateConfig config =>
    have configured : Traced trace { s with config := config } := ⟨traced.chunks,traced.proxies,traced.main,traced.overview,traced.proxyStore⟩
    exact rebalance_traced configured
  | reset => exact reset_traced closed traced
  | @fetchSettles controller attempt outcome there fetching =>
    have kind := (traced.chunks.attempts controller attempt there).1
    exact moved_traced traced there (closed.settles controller attempt outcome kind fetching) rfl fun _ _ => rfl
  | fetchContinues there settled => exact fetchContinues_traced closed traced there settled
  | waitEnds there waiting => exact waitEnds_traced closed traced there waiting
  | @decodeContinues controller attempt decoded there decoding =>
    have kind := (traced.chunks.attempts controller attempt there).1
    cases decoded with
    | none => exact failChunk_traced attempt.key controller false (take_traced controller traced)
    | some byteLength => exact drain_traced m closed (storeDecoded_traced byteLength closed (take_traced controller traced) kind decoding)
  | proxySettles outcome there fetching => exact proxySettles_traced outcome closed traced there fetching
  | @proxyContinues controller attempt outcome there settled =>
    have without := takeProxy_traced controller traced
    cases outcome with
    | error kind => exact settleProxy_traced attempt.key controller without
    | ok responseBytes =>
      have kind := (traced.proxies.attempts controller attempt there).1
      exact drain_traced m closed (storeProxy_traced closed without kind settled)

end Steps

section Removal

def PlannedStep (limits : SchedulerConfig) (s : CpuCache) (event : Handled) (t : CpuCache) : Prop :=
  Step limits s event t ∧ ∀ req ∈ event.2.chunks, req.Planned

def Unasked (datasetId : String) (entityIds : List String) (event : Handled) : Prop :=
  (∀ req ∈ event.2.chunks, req.entityId ∉ entityIds) ∧ ∀ req ∈ event.2.proxies, req.datasetId ≠ datasetId

def Removes (datasetId : String) (entityIds : List String) (event : Event) : Prop := event = .cancelDataset datasetId entityIds ∨ event = .reset

-- An attempt that a removal does not reach: it has its bytes, or has lost its key.
def Escapes (s : CpuCache) (controller : Nat) (attempt : ChunkAttempt) : Prop :=
  attempt.stage = .decoding ∨ (∃ byteLength, attempt.stage = .settled (.ok byteLength)) ∨
    (attempt.stage = .fetching ∧ s.chunkScheduler.isCurrent attempt.key controller = false)

def EscapesProxy (s : CpuCache) (controller : Nat) (attempt : ProxyAttempt) : Prop :=
  (∃ byteLength, attempt.outcome = some (.ok byteLength)) ∨ (attempt.outcome = none ∧ s.proxyScheduler.isCurrent attempt.key controller = false)

def plannedTrace : Trace where
  chunk := ChunkRequest.Planned
  proxy _ := True
  attempt _ attempt := attempt.key = chunkSchedulerKey attempt.request ∧ attempt.request.Planned
  proxyAttempt _ _ := True
  resident _ _ _ := True
  proxyResident _ _ := True

theorem plannedTrace_closed : plannedTrace.Closed where
  starts _ _ _ planned := ⟨rfl,planned⟩
  settles _ _ _ kind _ := kind
  waits _ _ _ kind _ := kind
  decodes _ _ _ kind _ := kind
  again _ _ _ kind _ _ _ := kind
  startsProxy _ _ _ := trivial
  settlesProxy _ _ _ _ _ := trivial
  demotes _ _ _ _ := trivial
  wanted _ _ _ := trivial
  left _ _ _ _ _ _ _ := trivial
  wantedProxy _ _ := trivial
  leftProxy _ _ _ _ _ := trivial

def removalTrace (s : CpuCache) (datasetId : String) (entityIds : List String) : Trace where
  chunk req := req.Planned ∧ req.entityId ∉ entityIds
  proxy req := req.datasetId ≠ datasetId
  attempt controller attempt :=
    (attempt.key = chunkSchedulerKey attempt.request ∧ attempt.request.Planned) ∧ (attempt.request.entityId ∈ entityIds →
      (∃ before, s.attempts.get? controller = some before ∧ before.request = attempt.request ∧ s.Escapes controller before) ∨
        attempt.stage = .waiting ∨ ∃ kind, attempt.stage = .settled (.error kind))
  proxyAttempt controller attempt :=
    attempt.request.datasetId = datasetId →
      (∃ before, s.proxyAttempts.get? controller = some before ∧ before.request = attempt.request ∧ s.EscapesProxy controller before) ∨
        ∃ kind, attempt.outcome = some (.error kind)
  resident entityId chunkKey entry :=
    entityId ∈ entityIds →
      (∃ controller before, s.attempts.get? controller = some before ∧ before.request.entityId = entityId ∧ before.request.chunkKey = chunkKey ∧
        s.Escapes controller before) ∧ entry.tier = .demotedDetail ∧ entry.lastSeenTick = -1
  proxyResident dataset innerKey :=
    dataset = datasetId →
      ∃ controller before, s.proxyAttempts.get? controller = some before ∧ before.request.datasetId = datasetId ∧
        proxyInnerKey before.request.entityId before.request.kind before.request.t before.request.c = innerKey ∧ s.EscapesProxy controller before

variable {datasetId : String} {entityIds : List String}

theorem removalTrace_closed (s : CpuCache) (datasetId : String) (entityIds : List String) : (removalTrace s datasetId entityIds).Closed where
  starts := fun _ req _ asked => ⟨⟨rfl,asked.1⟩,fun member => absurd member asked.2⟩
  settles := by
    rintro controller attempt outcome ⟨keyed,reached⟩ fetching
    refine ⟨keyed,fun member => ?_⟩
    rcases reached member with escaped | waiting | ⟨kind,settled⟩
    · exact .inl escaped
    · rw [fetching] at waiting
      cases waiting
    · rw [fetching] at settled
      cases settled
  waits := fun _ _ _ kind _ => ⟨kind.1,fun _ => .inr (.inl rfl)⟩
  decodes := by
    rintro controller attempt byteLength ⟨keyed,reached⟩ fetched
    refine ⟨keyed,fun member => ?_⟩
    rcases reached member with escaped | waiting | ⟨kind,settled⟩
    · exact .inl escaped
    · rw [fetched] at waiting
      cases waiting
    · rw [fetched] at settled
      cases settled
  again := by
    -- A key of the dataset is in flight no more.
    rintro controller attempt req ⟨keyed,_⟩ _ asked same
    refine ⟨keyed,fun member => ?_⟩
    have entity := entity_of_key asked.1 keyed.2 (same.symm.trans keyed.1)
    exact absurd (entity ▸ member) asked.2
  startsProxy := fun _ req asked member => absurd member asked
  settlesProxy := by
    intro controller attempt outcome reached fetching member
    rcases reached member with escaped | ⟨kind,settled⟩
    · exact .inl escaped
    · rw [fetching] at settled
      cases settled
  demotes := fun _ _ _ resident member => ⟨(resident member).1,rfl,(resident member).2.2⟩
  wanted := fun _ _ asked member => absurd member asked.2
  left := by
    rintro controller attempt entry ⟨_,reached⟩ decoding demoted unseen member
    refine ⟨?_,demoted,unseen⟩
    rcases reached member with ⟨before,held,same,escapes⟩ | waiting | ⟨kind,settled⟩
    · exact ⟨controller,before,held,by rw [same],by rw [same],escapes⟩
    · rw [decoding] at waiting
      cases waiting
    · rw [decoding] at settled
      cases settled
  wantedProxy := fun _ asked member => absurd member asked
  leftProxy := by
    intro controller attempt byteLength reached fetched member
    rcases reached member with ⟨before,held,same,escapes⟩ | ⟨kind,settled⟩
    · exact ⟨controller,before,held,by rw [same]; exact member,by rw [same],escapes⟩
    · rw [fetched] at settled
      cases settled

theorem startsWith_append (front back : String) : startsWith front (front ++ back) = true := by
  unfold startsWith
  rw [String.toList_append,List.isPrefixOf_iff_prefix]
  exact List.prefix_append _ _

theorem removed_chunks {scheduler : FetchScheduler String ChunkRequest} {latest : IndexMap String (InFlightMeta ChunkRequest)}
    (traced : Traced plannedTrace s) (narrows : s.chunkScheduler.Narrows scheduler) (pending : ∀ req ∈ scheduler.pending, req.entityId ∉ entityIds)
    (inFlight : ∀ key entry, scheduler.inFlight.get? key = some entry → entry.request.entityId ∉ entityIds)
    (aborts : ∀ key entry, s.chunkScheduler.inFlight.get? key = some entry → entry.request.entityId ∈ entityIds →
      entry.controller ∈ scheduler.aborted.drop s.chunkScheduler.aborted.length)
    (fewer : ∀ key found, latest.get? key = some found →
      s.inFlightChunkMeta.get? key = some found ∧ (key = chunkSchedulerKey found.request → found.request.entityId ∉ entityIds)) :
    (s.cancelledChunks scheduler latest).Traced chunkSchedulerKey ChunkAttempt.request (removalTrace s datasetId entityIds).chunk
      (removalTrace s datasetId entityIds).attempt := by
  refine traced.chunks.narrowed narrows (fun req member planned => ⟨planned,pending req member⟩) (fun key entry there planned => ⟨planned,inFlight key entry there⟩)
    (fun key found there => ⟨(fewer key found there).1,fun planned keyed => ⟨planned,(fewer key found there).2 keyed⟩⟩) ?_
  intro controller attempt live
  obtain ⟨before,held,request,key,moved⟩ := get?_rejectAborted _ _ live
  obtain ⟨keyed,planned⟩ := (traced.chunks.attempts controller before held).1
  refine ⟨⟨⟨by rw [key,request]; exact keyed,by rw [request]; exact planned⟩,?_⟩,before,held,request.symm⟩
  intro member
  rw [request] at member
  cases stage : before.stage with
  | fetching =>
    cases current : s.chunkScheduler.isCurrent before.key controller with
    | false => exact .inl ⟨before,held,request.symm,.inr (.inr ⟨stage,current⟩)⟩
    | true =>
      obtain ⟨entry,there,same⟩ := (FetchScheduler.isCurrent_iff _ _ _).mp current
      have paired := traced.chunks.paired before.key entry before there (same ▸ held)
      have reached := aborts before.key entry there (paired ▸ member)
      rw [same] at reached
      rw [if_pos ⟨reached,stage⟩] at moved
      exact .inr (.inr ⟨.abort,by rw [moved]⟩)
  | settled outcome =>
    cases outcome with
    | ok byteLength => exact .inl ⟨before,held,request.symm,.inr (.inl ⟨byteLength,stage⟩)⟩
    | error kind =>
      rw [if_neg (by simp [stage])] at moved
      exact .inr (.inr ⟨kind,by rw [moved]; exact stage⟩)
  | waiting =>
    rw [if_neg (by simp [stage])] at moved
    exact .inr (.inl (by rw [moved]; exact stage))
  | decoding => exact .inl ⟨before,held,request.symm,.inl stage⟩

theorem removed_proxies {scheduler : FetchScheduler String ProxyRequest} {latest : IndexMap String (InFlightMeta ProxyRequest)}
    (traced : Traced plannedTrace s) (narrows : s.proxyScheduler.Narrows scheduler) (pending : ∀ req ∈ scheduler.pending, req.datasetId ≠ datasetId)
    (inFlight : ∀ key entry, scheduler.inFlight.get? key = some entry → entry.request.datasetId ≠ datasetId)
    (aborts : ∀ key entry, s.proxyScheduler.inFlight.get? key = some entry → entry.request.datasetId = datasetId →
      entry.controller ∈ scheduler.aborted.drop s.proxyScheduler.aborted.length)
    (fewer : ∀ key found, latest.get? key = some found →
      s.inFlightProxyMeta.get? key = some found ∧ (key = inFlightProxyKey found.request → found.request.datasetId ≠ datasetId)) :
    (s.cancelledProxies scheduler latest).Traced inFlightProxyKey ProxyAttempt.request (removalTrace s datasetId entityIds).proxy
      (removalTrace s datasetId entityIds).proxyAttempt := by
  refine traced.proxies.narrowed narrows (fun req member _ => pending req member) (fun key entry there _ => inFlight key entry there)
    (fun key found there => ⟨(fewer key found there).1,fun _ keyed => (fewer key found there).2 keyed⟩) ?_
  intro controller attempt live
  obtain ⟨before,held,request,moved⟩ := get?_rejectAbortedProxies _ _ live
  refine ⟨?_,before,held,request.symm⟩
  intro member
  rw [request] at member
  cases outcome : before.outcome with
  | none =>
    cases current : s.proxyScheduler.isCurrent before.key controller with
    | false => exact .inl ⟨before,held,request.symm,.inr ⟨outcome,current⟩⟩
    | true =>
      obtain ⟨entry,there,same⟩ := (FetchScheduler.isCurrent_iff _ _ _).mp current
      have paired := traced.proxies.paired before.key entry before there (same ▸ held)
      have reached := aborts before.key entry there (paired ▸ member)
      rw [same] at reached
      rw [if_pos ⟨reached,outcome⟩] at moved
      exact .inr ⟨.abort,by rw [moved]⟩
  | some settled =>
    cases settled with
    | ok byteLength => exact .inl ⟨before,held,request.symm,.inl ⟨byteLength,outcome⟩⟩
    | error kind =>
      rw [if_neg (by simp [outcome])] at moved
      exact .inr ⟨kind,by rw [moved]; exact outcome⟩

theorem cancelDataset_removes (m : Moment) (datasetId : String) (entityIds : List String) (traced : Traced plannedTrace s) :
    Traced (removalTrace s datasetId entityIds) (s.cancelDataset limits m datasetId entityIds) := by
  obtain ⟨chunkWork,proxyWork,stores,proxyStore⟩ := cancelDataset_parts limits m datasetId entityIds s
  have cleared : ∀ store : ChunkStore, (store.cancelDataset entityIds).Residents (removalTrace s datasetId entityIds).resident := by
    intro store entityId chunkKey entry found member
    rw [ChunkStore.get_cancelDataset,if_pos member] at found
    cases found
  refine ⟨?_,?_,?_,?_,?_⟩
  · rw [chunkWork]
    have spares := FetchScheduler.cancelWhere_spares limits chunkSchedulerKey (fun req => decide (req.entityId ∈ entityIds)) m.now s.chunkScheduler
    refine removed_chunks traced (FetchScheduler.cancelWhere_narrows limits chunkSchedulerKey _ m.now s.chunkScheduler) ?_ ?_ ?_ ?_
    · exact fun req member => by simpa using (spares.pending req member).2
    · intro key entry there member
      have before := (FetchScheduler.cancelWhere_lessens limits chunkSchedulerKey _ m.now s.chunkScheduler).entries key entry there
      have gone := (FetchScheduler.cancelWhere_removes limits chunkSchedulerKey (fun req => decide (req.entityId ∈ entityIds)) m.now before (decide_eq_true member)).1
      rw [removedChunks,gone] at there
      cases there
    · exact fun key entry there member => (FetchScheduler.cancelWhere_removes limits chunkSchedulerKey (fun req => decide (req.entityId ∈ entityIds)) m.now there
      (decide_eq_true member)).2
    · intro key found held
      obtain ⟨before,apart⟩ := get?_forgetLatest held
      refine ⟨before,fun keyed member => ?_⟩
      have unlike := apart found.request.entityId member
      rw [keyed,chunkSchedulerKey,String.append_assoc,String.append_assoc,startsWith_append] at unlike
      cases unlike
  · rw [proxyWork]
    have spares := FetchScheduler.cancelWhere_spares limits inFlightProxyKey (fun req => decide (req.datasetId = datasetId)) m.now s.proxyScheduler
    refine removed_proxies traced (FetchScheduler.cancelWhere_narrows limits inFlightProxyKey _ m.now s.proxyScheduler) ?_ ?_ ?_ ?_
    · exact fun req member => by simpa using (spares.pending req member).2
    · intro key entry there member
      have before := (FetchScheduler.cancelWhere_lessens limits inFlightProxyKey _ m.now s.proxyScheduler).entries key entry there
      have gone := (FetchScheduler.cancelWhere_removes limits inFlightProxyKey (fun req => decide (req.datasetId = datasetId)) m.now before (decide_eq_true member)).1
      rw [removedProxies,gone] at there
      cases there
    · exact fun key entry there member => (FetchScheduler.cancelWhere_removes limits inFlightProxyKey (fun req => decide (req.datasetId = datasetId)) m.now there
      (decide_eq_true member)).2
    · intro key found held
      obtain ⟨before,apart⟩ := get?_forgetProxies held
      refine ⟨before,fun keyed member => ?_⟩
      rw [keyed,inFlightProxyKey,← member,startsWith_append] at apart
      cases apart
  · rw [stores]
    exact cleared _
  · rw [stores]
    exact cleared _
  · rw [proxyStore]
    intro dataset innerKey entry found member
    rw [ProxyStore.get_cancelDataset,if_pos member] at found
    cases found

theorem reset_removes (datasetId : String) (entityIds : List String) (traced : Traced plannedTrace s) : Traced (removalTrace s datasetId entityIds) s.reset := by
  have chunks : (s.cancelledChunks s.chunkScheduler.reset .empty).Traced chunkSchedulerKey ChunkAttempt.request (removalTrace s datasetId entityIds).chunk
      (removalTrace s datasetId entityIds).attempt := by
    refine removed_chunks traced (FetchScheduler.reset_narrows _) ?_ ?_ ?_ ?_
    · exact fun req member => (List.not_mem_nil member).elim
    · exact fun key entry there => (Option.some_ne_none _ there.symm).elim
    · exact fun key entry there _ => FetchScheduler.reset_removes there
    · exact fun key found held => (Option.some_ne_none _ held.symm).elim
  have proxies : (s.cancelledProxies s.proxyScheduler.reset .empty).Traced inFlightProxyKey ProxyAttempt.request (removalTrace s datasetId entityIds).proxy
      (removalTrace s datasetId entityIds).proxyAttempt := by
    refine removed_proxies traced (FetchScheduler.reset_narrows _) ?_ ?_ ?_ ?_
    · exact fun req member => (List.not_mem_nil member).elim
    · exact fun key entry there => (Option.some_ne_none _ there.symm).elim
    · exact fun key entry there _ => FetchScheduler.reset_removes there
    · exact fun key found held => (Option.some_ne_none _ held.symm).elim
  exact ⟨chunks,proxies,(reset_stores _ s).1,(reset_stores _ s).2,fun _ _ _ found => (Option.some_ne_none _ found.symm).elim⟩

theorem removal_traced {event : Event} (traced : Traced plannedTrace s) (removes : Removes datasetId entityIds event) (taken : Step limits s (m,event) t) :
    Traced (removalTrace s datasetId entityIds) t := by
  rcases removes with rfl | rfl
  · cases taken
    exact cancelDataset_removes m datasetId entityIds traced
  · cases taken
    exact reset_removes datasetId entityIds traced

theorem runs_planned {config : TierBudgets} {proxyBudgetBytes : Number} {events : List Handled}
    (path : Runs (PlannedStep limits) (.initial config proxyBudgetBytes) events s) : Traced plannedTrace s :=
  path.preserves (fun _ _ _ traced taken => step_traced plannedTrace_closed taken.2 (fun _ _ => trivial) traced taken.1) (traced_initial config proxyBudgetBytes)

theorem runs_unasked {events : List Handled} {u : CpuCache} (traced : Traced (removalTrace s datasetId entityIds) t)
    (path : Runs (fun s event t => PlannedStep limits s event t ∧ Unasked datasetId entityIds event) t events u) :
    Traced (removalTrace s datasetId entityIds) u :=
  path.preserves (fun _ _ _ traced taken => step_traced (removalTrace_closed s datasetId entityIds) (fun req member => ⟨taken.1.2 req member,taken.2.1 req member⟩)
    taken.2.2 traced taken.1.1) traced

instance (datasetId : String) (entityIds : List String) (event : Handled) : Decidable (Unasked datasetId entityIds event) :=
  inferInstanceAs (Decidable ((∀ req ∈ event.2.chunks, req.entityId ∉ entityIds) ∧ ∀ req ∈ event.2.proxies, req.datasetId ≠ datasetId))

end Removal
end CpuCache

-- After a removal of the dataset or of everything, and until something of the dataset is asked for
-- again, a chunk of it is resident only by an attempt that had its bytes or had lost its key when
-- the removal came, and it is demoted and unseen; a proxy only by such an attempt.
theorem dataset_removal_is_final {limits : SchedulerConfig} {config : TierBudgets} {proxyBudgetBytes : Number} {datasetId : String} {entityIds : List String}
    {before after : List CpuCache.Handled} {m : Moment} {removal : CpuCache.Event} {s t u : CpuCache}
    (path : Runs (CpuCache.PlannedStep limits) (.initial config proxyBudgetBytes) before s) (removes : CpuCache.Removes datasetId entityIds removal)
    (removed : CpuCache.Step limits s (m,removal) t)
    (unasked : Runs (fun s event t => CpuCache.PlannedStep limits s event t ∧ CpuCache.Unasked datasetId entityIds event) t after u) :
    (∀ entityId ∈ entityIds, ∀ chunkKey entry,
      u.stores.chunkStore.get entityId chunkKey = some entry ∨ u.stores.overviewStore.get entityId chunkKey = some entry →
      (∃ controller attempt, s.attempts.get? controller = some attempt ∧ attempt.request.entityId = entityId ∧ attempt.request.chunkKey = chunkKey ∧
        s.Escapes controller attempt) ∧ entry.tier = .demotedDetail ∧ entry.lastSeenTick = -1) ∧
    ∀ innerKey entry, u.proxyStore.get datasetId innerKey = some entry →
      ∃ controller attempt, s.proxyAttempts.get? controller = some attempt ∧ attempt.request.datasetId = datasetId ∧
        proxyInnerKey attempt.request.entityId attempt.request.kind attempt.request.t attempt.request.c = innerKey ∧ s.EscapesProxy controller attempt := by
  have traced := CpuCache.runs_unasked (CpuCache.removal_traced (CpuCache.runs_planned path) removes removed) unasked
  refine ⟨?_,fun innerKey entry found => traced.proxyStore datasetId innerKey entry found rfl⟩
  intro entityId member chunkKey entry found
  rcases found with found | found
  · exact traced.main entityId chunkKey entry found member
  · exact traced.overview entityId chunkKey entry found member

-- Of four chunks, with room for three fetches, one has its bytes when the dataset is removed, one
-- waits for its retry, one is fetched and one is queued. Then everything goes on.
def removedChunk (x : Nat) : ChunkRequest := ⟨"d","e","i",0,0,0,0,0,x,.detail,.detail,0,chunkKey 0 0 0 0 0 x⟩

def removalLimits : SchedulerConfig := ⟨3,100,none⟩

def beforeRemoval : List CpuCache.Handled :=
  [.submit ⟨(List.range 4).map removedChunk,[⟨"e",true,[0]⟩],⟨0,0,0,0,0,0⟩,[]⟩,.fetchSettles 1 (.error .transient),.fetchContinues 1,
    .fetchSettles 0 (.ok 10)].map fun event => (⟨0,0,0,1⟩,event)

def afterRemoval : List CpuCache.Handled :=
  [.fetchContinues 2,.waitEnds 1,.fetchContinues 0,.decodeContinues 0 (some 20)].map fun event => (⟨0,0,0,1⟩,event)

def atRemoval : CpuCache :=
  (drive (guarded (fun _ event => ∀ req ∈ event.2.chunks, req.Planned) fun s event => s.next removalLimits event.1 event.2)
    (.initial ⟨100,100⟩ 100) beforeRemoval).getD (.initial ⟨100,100⟩ 100)

def onceRemoved : CpuCache := atRemoval.cancelDataset removalLimits ⟨0,0,0,1⟩ "d" ["e"]

def longAfterRemoval : CpuCache :=
  (drive (guarded (fun _ event => (∀ req ∈ event.2.chunks, req.Planned) ∧ CpuCache.Unasked "d" ["e"] event)
    fun s event => s.next removalLimits event.1 event.2) onceRemoved afterRemoval).getD onceRemoved

theorem removal_reached : Runs (CpuCache.PlannedStep removalLimits) (.initial ⟨100,100⟩ 100) beforeRemoval atRemoval :=
  drive_guarded (some_getD (by decide +kernel) _)

theorem removal_outlived :
    Runs (fun s event t => CpuCache.PlannedStep removalLimits s event t ∧ CpuCache.Unasked "d" ["e"] event) onceRemoved afterRemoval longAfterRemoval := by
  have reached : Runs (fun s event t => CpuCache.Step removalLimits s event t ∧ (∀ req ∈ event.2.chunks, req.Planned) ∧ CpuCache.Unasked "d" ["e"] event)
      onceRemoved afterRemoval longAfterRemoval := drive_guarded (some_getD (by decide +kernel) _)
  exact reached.mono fun _ _ _ taken => ⟨⟨taken.1,taken.2.1⟩,taken.2.2⟩

theorem dataset_removal_is_final_for_four_chunks :
    atRemoval.attempts.entries.map (fun attempt => attempt.2.stage) = [.settled (.ok 10),.fetching,.waiting] ∧
      ∀ entry ∈ longAfterRemoval.stores.chunkStore.get "e" "0/0/0/0/0/0", entry.tier = .demotedDetail ∧ entry.lastSeenTick = -1 :=
  ⟨by decide +kernel,fun entry found =>
    ((dataset_removal_is_final removal_reached (.inl rfl) rfl removal_outlived).1 "e" (by decide) _ entry (.inl found)).2⟩

theorem removed_chunk_becomes_resident :
    ∃ s t u, Runs (CpuCache.PlannedStep removalLimits) (.initial ⟨100,100⟩ 100) beforeRemoval s ∧
      CpuCache.Step removalLimits s (⟨0,0,0,1⟩,.cancelDataset "d" ["e"]) t ∧
      Runs (fun s event t => CpuCache.PlannedStep removalLimits s event t ∧ CpuCache.Unasked "d" ["e"] event) t afterRemoval u ∧
      t.stores.chunkStore.get "e" "0/0/0/0/0/0" = none ∧ (u.stores.chunkStore.get "e" "0/0/0/0/0/0").isSome = true :=
  ⟨atRemoval,onceRemoved,longAfterRemoval,removal_reached,rfl,removal_outlived,by decide +kernel,by decide +kernel⟩

end Lucida.Web
