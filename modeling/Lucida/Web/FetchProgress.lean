import Lucida.Web.FetchAttempts

namespace Lucida.Web
open Lib
namespace CpuCache
variable {limits : SchedulerConfig} {m : Moment} {s t : CpuCache}

def chunkKeyOf (s : CpuCache) (controller : Nat) : Option String := (s.attempts.get? controller).map ChunkAttempt.key

def proxyKeyOf (s : CpuCache) (controller : Nat) : Option String := (s.proxyAttempts.get? controller).map ProxyAttempt.key

structure Working (limits : SchedulerConfig) (s : CpuCache) : Prop where
  chunks : s.chunkScheduler.InOrder chunkSchedulerKey limits.window s.chunkKeyOf
  proxies : s.proxyScheduler.InOrder inFlightProxyKey limits.window s.proxyKeyOf

def Flowing (s : CpuCache) : Prop :=
  (s.chunkScheduler.pending = [] ∧ s.proxyScheduler.pending = []) ∨
    (∃ key entry, s.chunkScheduler.inFlight.get? key = some entry) ∨ ∃ key entry, s.proxyScheduler.inFlight.get? key = some entry

section Drain

theorem idle_load {K Req : Type} [DecidableEq K] {keyFn : Req → K} {window : Nat} {scheduler : FetchScheduler K Req} (sound : scheduler.Sound keyFn window)
    (idle : ∀ key, scheduler.inFlight.get? key = none) : scheduler.inFlightSize = 0 ∧ scheduler.inFlightBytes = 0 := by
  have empty : scheduler.inFlight.entries = [] := by
    rw [List.eq_nil_iff_forall_not_mem]
    rintro ⟨key,entry⟩ member
    have there := IndexMap.mem_entries_iff.mp member
    rw [idle key] at there
    cases there
  refine ⟨?_,?_⟩
  · rw [FetchScheduler.inFlightSize,empty]
    rfl
  · rw [sound.bytes,IndexMap.sum,empty]
    rfl

theorem idle_canStartMore {K Req : Type} [DecidableEq K] {keyFn : Req → K} {window : Nat} {scheduler : FetchScheduler K Req} {sibling : SiblingLoad}
    (sound : scheduler.Sound keyFn window) (idle : ∀ key, scheduler.inFlight.get? key = none) (alone : sibling = ⟨0,0⟩)
    (slots : 0 < limits.maxConcurrentFetches) (bytes : 0 < limits.maxBytesInFlight) : scheduler.canStartMore limits sibling = true := by
  obtain ⟨size,load⟩ := idle_load sound idle
  unfold FetchScheduler.canStartMore
  rw [size,load,alone]
  simpa using ⟨slots,bytes⟩

theorem drain_working (m : Moment) (working : Working limits s) : Working limits (s.drainSchedulers limits m) := by
  obtain ⟨proxies,proxyStarts,chunks,chunkStarts,drainedProxies,drainedChunks,whole⟩ := drainSchedulers_eq limits m s
  have proxySound : (proxies,proxyStarts).1.Sound inFlightProxyKey limits.window :=
    drainedProxies ▸ FetchScheduler.sound_drainLoop working.proxies.sound rfl 0
  have proxySpec : FetchScheduler.Drained inFlightProxyKey s.proxyScheduler (proxies,proxyStarts).1 (proxies,proxyStarts).2 :=
    drainedProxies ▸ FetchScheduler.drain_drained working.proxies.sound
  have chunkSound : (chunks,chunkStarts).1.Sound chunkSchedulerKey limits.window :=
    drainedChunks ▸ FetchScheduler.sound_drainLoop working.chunks.sound rfl 0
  have chunkSpec : FetchScheduler.Drained chunkSchedulerKey s.chunkScheduler (chunks,chunkStarts).1 (chunks,chunkStarts).2 :=
    drainedChunks ▸ FetchScheduler.drain_drained working.chunks.sound
  dsimp only at proxySound proxySpec chunkSound chunkSpec
  rw [whole]
  refine ⟨working.chunks.drained chunkSound chunkSpec ?_ ?_ ?_,working.proxies.drained proxySound proxySpec ?_ ?_ ?_⟩
  · intro controller below
    refine congrArg (Option.map ChunkAttempt.key) (IndexMap.get?_foldl_insert_other _ fun start member same => ?_)
    have above := (chunkSpec.started start member).2.1
    omega
  · intro start member
    exact congrArg (Option.map ChunkAttempt.key) (IndexMap.get?_foldl_insert_mem _ chunkSpec.distinct member)
  · intro controller there
    obtain ⟨attempt,found⟩ := Option.isSome_iff_exists.mp (Option.isSome_map.symm.trans there)
    rcases IndexMap.get?_foldl_insert _ found with before | ⟨start,member,same,_⟩
    · exact .inl (by rw [chunkKeyOf,before]; rfl)
    · exact .inr ⟨start,member,same⟩
  · intro controller below
    refine congrArg (Option.map ProxyAttempt.key) (IndexMap.get?_foldl_insert_other _ fun start member same => ?_)
    have above := (proxySpec.started start member).2.1
    omega
  · intro start member
    exact congrArg (Option.map ProxyAttempt.key) (IndexMap.get?_foldl_insert_mem _ proxySpec.distinct member)
  · intro controller there
    obtain ⟨attempt,found⟩ := Option.isSome_iff_exists.mp (Option.isSome_map.symm.trans there)
    rcases IndexMap.get?_foldl_insert _ found with before | ⟨start,member,same,_⟩
    · exact .inl (by rw [proxyKeyOf,before]; rfl)
    · exact .inr ⟨start,member,same⟩

theorem drain_flowing (m : Moment) (working : Working limits s) (window : limits.window ≠ 0) (slots : 0 < limits.maxConcurrentFetches)
    (bytes : 0 < limits.maxBytesInFlight) : Flowing (s.drainSchedulers limits m) := by
  have after := drain_working m working
  obtain ⟨proxies,proxyStarts,chunks,chunkStarts,drainedProxies,drainedChunks,whole⟩ := drainSchedulers_eq limits m s
  have proxyStuck : (proxies,proxyStarts).1.pending = [] ∨ (proxies,proxyStarts).1.canStartMore limits (load s.chunkScheduler) = false :=
    drainedProxies ▸ FetchScheduler.drainLoop_stuck rfl window 0
  have chunkStuck : (chunks,chunkStarts).1.pending = [] ∨ (chunks,chunkStarts).1.canStartMore limits (load proxies) = false :=
    drainedChunks ▸ FetchScheduler.drainLoop_stuck rfl window 0
  have chunkSpec : FetchScheduler.Drained chunkSchedulerKey s.chunkScheduler (chunks,chunkStarts).1 (chunks,chunkStarts).2 :=
    drainedChunks ▸ FetchScheduler.drain_drained working.chunks.sound
  rw [whole] at after ⊢
  unfold Flowing
  by_contra stalled
  rw [not_or,not_or] at stalled
  obtain ⟨waiting,noChunk,noProxy⟩ := stalled
  have chunksIdle : ∀ key, chunks.inFlight.get? key = none := fun key => Option.eq_none_iff_forall_ne_some.mpr fun entry there => noChunk ⟨key,entry,there⟩
  have proxiesIdle : ∀ key, proxies.inFlight.get? key = none := fun key => Option.eq_none_iff_forall_ne_some.mpr fun entry there => noProxy ⟨key,entry,there⟩
  have beforeIdle : ∀ key, s.chunkScheduler.inFlight.get? key = none := fun key => Option.eq_none_iff_forall_ne_some.mpr fun entry there =>
    noChunk ⟨key,entry,chunkSpec.kept key entry there⟩
  have proxyLoad : load proxies = ⟨0,0⟩ := by
    obtain ⟨size,sum⟩ := idle_load after.proxies.sound proxiesIdle
    rw [load,size,sum]
  have chunkLoad : load s.chunkScheduler = ⟨0,0⟩ := by
    obtain ⟨size,sum⟩ := idle_load working.chunks.sound beforeIdle
    rw [load,size,sum]
  refine waiting ⟨chunkStuck.resolve_right ?_,proxyStuck.resolve_right ?_⟩
  · rw [idle_canStartMore after.chunks.sound chunksIdle proxyLoad slots bytes]
    exact Bool.noConfusion
  · rw [idle_canStartMore after.proxies.sound proxiesIdle chunkLoad slots bytes]
    exact Bool.noConfusion

end Drain

section Parts

theorem keyOf_rejectAborted (aborted : List Nat) (attempts : IndexMap Nat ChunkAttempt) (controller : Nat) :
    ((rejectAborted aborted attempts).get? controller).map ChunkAttempt.key = (attempts.get? controller).map ChunkAttempt.key := by
  unfold rejectAborted
  rw [IndexMap.get?_mapEntries,Option.map_map]
  congr 1
  funext attempt
  simp only [Function.comp_apply]
  split <;> rfl

theorem keyOf_rejectAbortedProxies (aborted : List Nat) (attempts : IndexMap Nat ProxyAttempt) (controller : Nat) :
    ((rejectAbortedProxies aborted attempts).get? controller).map ProxyAttempt.key = (attempts.get? controller).map ProxyAttempt.key := by
  unfold rejectAbortedProxies
  rw [IndexMap.get?_mapEntries,Option.map_map]
  congr 1
  funext attempt
  simp only [Function.comp_apply]
  split <;> rfl

theorem chunkKeyOf_take (controller : Nat) (s : CpuCache) : (s.take controller).chunkKeyOf = FetchScheduler.without s.chunkKeyOf controller := by
  funext other
  unfold chunkKeyOf take FetchScheduler.without
  rw [IndexMap.get?_erase]
  split <;> rfl

theorem proxyKeyOf_take (controller : Nat) (s : CpuCache) : (s.takeProxy controller).proxyKeyOf = FetchScheduler.without s.proxyKeyOf controller := by
  funext other
  unfold proxyKeyOf takeProxy FetchScheduler.without
  rw [IndexMap.get?_erase]
  split <;> rfl

theorem keyOf_inserted {attempts : IndexMap Nat ChunkAttempt} {controller : Nat} {attempt after : ChunkAttempt}
    (there : s.attempts.get? controller = some attempt) (same : after.key = attempt.key)
    (others : ∀ other, other ≠ controller → attempts.get? other = s.attempts.get? other) :
    (fun other => ((attempts.insert controller after).get? other).map ChunkAttempt.key) = s.chunkKeyOf := by
  funext other
  unfold chunkKeyOf
  rw [IndexMap.get?_insert]
  split
  · rename_i equal
    rw [equal,there,Option.map_some,Option.map_some,same]
  · rename_i differs
    rw [others other differs]

theorem take_others (controller : Nat) (s : CpuCache) (other : Nat) (differs : other ≠ controller) :
    (s.take controller).attempts.get? other = s.attempts.get? other := by
  unfold take
  rw [IndexMap.get?_erase,if_neg differs]

theorem withChunks_working {scheduler : FetchScheduler String ChunkRequest} (working : Working limits s)
    (sound : scheduler.Sound chunkSchedulerKey limits.window) (less : s.chunkScheduler.Lessens scheduler) : Working limits (s.withChunks scheduler) := by
  refine ⟨?_,working.proxies⟩
  have same : (s.withChunks scheduler).chunkKeyOf = s.chunkKeyOf := funext fun controller => keyOf_rejectAborted _ s.attempts controller
  rw [same]
  exact working.chunks.lessens sound less

theorem withProxies_working {scheduler : FetchScheduler String ProxyRequest} (working : Working limits s)
    (sound : scheduler.Sound inFlightProxyKey limits.window) (less : s.proxyScheduler.Lessens scheduler) : Working limits (s.withProxies scheduler) := by
  refine ⟨working.chunks,?_⟩
  have same : (s.withProxies scheduler).proxyKeyOf = s.proxyKeyOf := funext fun controller => keyOf_rejectAbortedProxies _ s.proxyAttempts controller
  rw [same]
  exact working.proxies.lessens sound less

theorem cancelChunkWork_working (m : Moment) (unwanted : ChunkRequest → Bool) (working : Working limits s) :
    Working limits (s.cancelChunkWorkWhere limits m unwanted) := by
  have kept := withChunks_working working (FetchScheduler.sound_cancelWhere working.chunks.sound (fun req _ _ => unwanted req) m.now)
    (FetchScheduler.cancelWhere_lessens limits chunkSchedulerKey _ m.now _)
  exact ⟨kept.chunks,kept.proxies⟩

theorem cancelProxyWork_working (m : Moment) (unwanted : ProxyRequest → Bool) (working : Working limits s) :
    Working limits (s.cancelProxyWorkWhere limits m unwanted) := by
  have kept := withProxies_working working (FetchScheduler.sound_cancelWhere working.proxies.sound (fun req _ _ => unwanted req) m.now)
    (FetchScheduler.cancelWhere_lessens limits inFlightProxyKey _ m.now _)
  exact ⟨kept.chunks,kept.proxies⟩

theorem departEntity_working (m : Moment) (working : Working limits s) (entityId : String) : Working limits (departEntity limits m s entityId) := by
  have demoted : Working limits { s with stores := { s.stores with chunkStore := s.stores.chunkStore.demoteEntity entityId } } :=
    ⟨working.chunks,working.proxies⟩
  exact cancelProxyWork_working m _ (cancelChunkWork_working m _ demoted)

theorem departEntities_working (m : Moment) (entityIds : List String) (working : Working limits s) :
    Working limits (entityIds.foldl (departEntity limits m) s) := by
  induction entityIds generalizing s with
  | nil => exact working
  | cons entityId entityIds ih => exact ih (departEntity_working m working entityId)

theorem forgetEntities_working (entityIds : List String) (working : Working limits s) : Working limits (entityIds.foldl forgetEntity s) := by
  induction entityIds generalizing s with
  | nil => exact working
  | cons entityId entityIds ih => exact ih ⟨working.chunks,working.proxies⟩

theorem cancelDataset_working (m : Moment) (datasetId : String) (entityIds : List String) (working : Working limits s) :
    Working limits (s.cancelDataset limits m datasetId entityIds) := by
  have chunks := withChunks_working working
    (FetchScheduler.sound_cancelWhere working.chunks.sound (fun req _ _ => decide (req.entityId ∈ entityIds)) m.now)
    (FetchScheduler.cancelWhere_lessens limits chunkSchedulerKey _ m.now _)
  have proxies := withProxies_working chunks
    (FetchScheduler.sound_cancelWhere chunks.proxies.sound (fun req _ _ => decide (req.datasetId = datasetId)) m.now)
    (FetchScheduler.cancelWhere_lessens limits inFlightProxyKey _ m.now _)
  unfold cancelDataset
  dsimp only
  have forgotten := forgetEntities_working entityIds (s := { (s.withChunks _).withProxies _ with
    stores := ⟨s.stores.chunkStore.cancelDataset entityIds,s.stores.overviewStore.cancelDataset entityIds⟩
    proxyStore := s.proxyStore.cancelDataset datasetId }) ⟨proxies.chunks,proxies.proxies⟩
  exact ⟨forgotten.chunks,forgotten.proxies⟩

theorem reset_working (working : Working limits s) : Working limits s.reset := by
  have chunks := withChunks_working working FetchScheduler.sound_reset (FetchScheduler.reset_lessens _)
  have proxies := withProxies_working chunks FetchScheduler.sound_reset (FetchScheduler.reset_lessens _)
  exact ⟨proxies.chunks,proxies.proxies⟩

theorem settleChunk_scheduler (key : String) (controller : Nat) (s : CpuCache) :
    (s.settleChunk key controller).1.chunkScheduler = (s.chunkScheduler.markInFlightDoneIfCurrent key controller).1 := by
  cases current : s.chunkScheduler.isCurrent key controller with
  | false => rw [settleChunk_superseded current,FetchScheduler.superseded_settle current]
  | true => rw [settleChunk_current current]

theorem settleChunk_frame (key : String) (controller : Nat) (s : CpuCache) :
    (s.settleChunk key controller).1.attempts = s.attempts ∧ (s.settleChunk key controller).1.proxyScheduler = s.proxyScheduler ∧
      (s.settleChunk key controller).1.proxyAttempts = s.proxyAttempts := by
  unfold settleChunk
  dsimp only
  split <;> exact ⟨rfl,rfl,rfl⟩

theorem settleChunk_working {controller : Nat} {attempt : ChunkAttempt} (working : Working limits s)
    (there : s.attempts.get? controller = some attempt) : Working limits ((s.take controller).settleChunk attempt.key controller).1 := by
  obtain ⟨attempts,proxies,proxyAttempts⟩ := settleChunk_frame attempt.key controller (s.take controller)
  have known : s.chunkKeyOf controller = some attempt.key := by rw [chunkKeyOf,there]; rfl
  have chunkKeys : ((s.take controller).settleChunk attempt.key controller).1.chunkKeyOf = FetchScheduler.without s.chunkKeyOf controller := by
    rw [← chunkKeyOf_take]
    funext other
    unfold chunkKeyOf
    rw [attempts]
  have proxyKeys : ((s.take controller).settleChunk attempt.key controller).1.proxyKeyOf = s.proxyKeyOf := by
    funext other
    unfold proxyKeyOf
    rw [proxyAttempts]
    rfl
  refine ⟨?_,?_⟩
  · rw [chunkKeys,settleChunk_scheduler]
    exact working.chunks.settle known
  · rw [proxyKeys,proxies]
    exact working.proxies

theorem parked_working {controller : Nat} {attempt after : ChunkAttempt} (working : Working limits s)
    (there : s.attempts.get? controller = some attempt) (same : after.key = attempt.key) :
    Working limits ((s.take controller).park controller after) := by
  refine ⟨?_,working.proxies⟩
  have keys : ((s.take controller).park controller after).chunkKeyOf = s.chunkKeyOf := keyOf_inserted there same (take_others controller s)
  rw [keys]
  exact working.chunks

theorem failures_working {permanent transient : IndexMap String FailureRecord} (working : Working limits s) :
    Working limits { s with permanentFailures := permanent, transientFailures := transient } := ⟨working.chunks,working.proxies⟩

theorem recordFailure_working (key : String) (isPermanent : Bool) (working : Working limits s) : Working limits (s.recordFailure m key isPermanent) := by
  unfold recordFailure
  split
  · exact failures_working working
  · exact failures_working working

theorem failChunk_working {controller : Nat} {attempt : ChunkAttempt} (isPermanent : Bool) (working : Working limits s)
    (there : s.attempts.get? controller = some attempt) : Working limits ((s.take controller).failChunk m attempt.key controller isPermanent) := by
  have settled := settleChunk_working working there
  unfold failChunk
  dsimp only
  split
  · exact recordFailure_working attempt.key isPermanent settled
  · exact settled

end Parts

section Submit

def proxyLane (s : CpuCache) : FetchScheduler String ProxyRequest × IndexMap Nat ProxyAttempt := (s.proxyScheduler,s.proxyAttempts)

theorem foldl_proxyLane {A : Type} {f : CpuCache → A → CpuCache} (frame : ∀ s a, (f s a).proxyLane = s.proxyLane) (steps : List A) (s : CpuCache) :
    (steps.foldl f s).proxyLane = s.proxyLane := by
  induction steps generalizing s with
  | nil => rfl
  | cons step steps ih => rw [List.foldl_cons,ih,frame]

theorem proxyLane_takePlan (plan : RequestPlan) (s : CpuCache) : (s.takePlan plan).proxyLane = s.proxyLane := by
  show (plan.requests.foldl noteDemand _).proxyLane = s.proxyLane
  rw [foldl_proxyLane,foldl_proxyLane]
  · rfl
  · exact fun _ _ => rfl
  · intro s req
    unfold noteDemand
    split <;> rfl

theorem proxyLane_admitChunks (m : Moment) (requests : List ChunkRequest) (loop : CpuCache × List ChunkRequest) :
    (requests.foldl (admitChunk m) loop).1.proxyLane = loop.1.proxyLane := by
  induction requests generalizing loop with
  | nil => rfl
  | cons req requests ih =>
    rw [List.foldl_cons,ih]
    rcases admitChunk_cases m loop req with same | ⟨cached,same⟩ | ⟨_,same⟩ | ⟨_,_,same⟩
    · rw [same]
    · rw [same]
      unfold refreshCached
      dsimp only
      split <;> rfl
    · rw [same]
      rfl
    · rw [same]

theorem admitProxy_cases (loop : CpuCache × List ProxyRequest) (req : ProxyRequest) :
    (admitProxy loop req).1.proxyLane = loop.1.proxyLane ∧ ((admitProxy loop req).2 = loop.2 ∨
      (loop.1.proxyScheduler.hasInFlight (inFlightProxyKey req) = false ∧ (admitProxy loop req).2 = loop.2 ++ [req])) := by
  unfold admitProxy
  dsimp only
  split
  · exact ⟨rfl,.inl rfl⟩
  · split
    · exact ⟨rfl,.inl rfl⟩
    · rename_i absent
      exact ⟨rfl,.inr ⟨by simpa using absent,rfl⟩⟩

theorem admitProxies_spec (requests : List ProxyRequest) (loop : CpuCache × List ProxyRequest)
    (distinct : ((loop.2 ++ requests).map inFlightProxyKey).Nodup) (apart : ∀ req ∈ loop.2, loop.1.proxyScheduler.hasInFlight (inFlightProxyKey req) = false) :
    (requests.foldl admitProxy loop).1.proxyLane = loop.1.proxyLane ∧
      FetchScheduler.Enqueueable inFlightProxyKey (requests.foldl admitProxy loop).2 loop.1.proxyScheduler := by
  induction requests generalizing loop with
  | nil => exact ⟨rfl,by simpa using distinct,apart⟩
  | cons req requests ih =>
    rw [List.foldl_cons]
    obtain ⟨frame,either⟩ := admitProxy_cases loop req
    have scheduler : (admitProxy loop req).1.proxyScheduler = loop.1.proxyScheduler := congrArg Prod.fst frame
    rw [← frame,← scheduler]
    rcases either with same | ⟨absent,more⟩
    · refine ih _ ?_ ?_
      · rw [same]
        exact distinct.sublist (((List.sublist_cons_self req requests).append_left loop.2).map _)
      · rw [same,scheduler]
        exact apart
    · refine ih _ ?_ ?_
      · rw [more,List.append_assoc]
        exact distinct
      · rw [more,scheduler]
        intro other member
        rcases List.mem_append.mp member with before | single
        · exact apart other before
        · rw [List.mem_singleton.mp single]
          exact absent

theorem cancelOmitted_working (unwanted : List String) (working : Working limits s) : Working limits (s.cancelOmittedChunkWork unwanted) := by
  have kept := withChunks_working working (FetchScheduler.sound_cancelInFlightWhere working.chunks.sound fun _ key => decide (key ∈ unwanted))
    (FetchScheduler.cancelInFlightWhere_lessens _ _)
  exact ⟨kept.chunks,kept.proxies⟩

theorem takePlan_working (plan : RequestPlan) (working : Working limits s) : Working limits (s.takePlan plan) := by
  have chunks : (s.takePlan plan).chunkScheduler = s.chunkScheduler := congrArg ChunkLane.scheduler (lane_takePlan plan s)
  have attempts : (s.takePlan plan).attempts = s.attempts := congrArg ChunkLane.attempts (lane_takePlan plan s)
  have proxies : (s.takePlan plan).proxyScheduler = s.proxyScheduler := congrArg Prod.fst (proxyLane_takePlan plan s)
  have proxyAttempts : (s.takePlan plan).proxyAttempts = s.proxyAttempts := congrArg Prod.snd (proxyLane_takePlan plan s)
  refine ⟨?_,?_⟩
  · unfold chunkKeyOf
    rw [chunks,attempts]
    exact working.chunks
  · unfold proxyKeyOf
    rw [proxies,proxyAttempts]
    exact working.proxies

theorem enqueued_working (m : Moment) {plan : RequestPlan} (working : Working limits s) (distinct : (plan.proxyRequests.map inFlightProxyKey).Nodup) :
    Working limits (s.enqueued limits m plan) := by
  have cancelled := cancelOmitted_working (s.unwantedInFlightKeys plan) (takePlan_working plan working)
  obtain ⟨requests,latest,owed,whole⟩ := enqueued_lane limits m plan s
  have scheduler : (s.enqueued limits m plan).chunkScheduler =
      ((s.takePlan plan).cancelOmittedChunkWork (s.unwantedInFlightKeys plan)).chunkScheduler.enqueue limits chunkSchedulerKey requests m.now :=
    congrArg ChunkLane.scheduler whole
  have attempts := congrArg ChunkLane.attempts whole
  refine ⟨?_,?_⟩
  · have chunks := cancelled.chunks.enqueue owed m.now
    have keys : (s.enqueued limits m plan).chunkKeyOf = ((s.takePlan plan).cancelOmittedChunkWork (s.unwantedInFlightKeys plan)).chunkKeyOf := by
      funext controller
      unfold chunkKeyOf
      exact congrArg (fun attempts : IndexMap Nat ChunkAttempt => (attempts.get? controller).map ChunkAttempt.key) attempts
    rw [keys,scheduler]
    exact chunks
  · unfold enqueued
    dsimp only
    generalize (s.takePlan plan).cancelOmittedChunkWork (s.unwantedInFlightKeys plan) = before at cancelled
    have frame := proxyLane_admitChunks m plan.requests (before,[])
    generalize plan.requests.foldl (admitChunk m) (before,[]) = loop at frame
    have proxies : loop.1.proxyScheduler = before.proxyScheduler := congrArg Prod.fst frame
    have proxyAttempts : loop.1.proxyAttempts = before.proxyAttempts := congrArg Prod.snd frame
    obtain ⟨same,owedProxies⟩ := admitProxies_spec plan.proxyRequests
      ({ loop.1 with chunkScheduler := loop.1.chunkScheduler.enqueue limits chunkSchedulerKey (orderChunkRequestsForTierAllocation loop.2) m.now },[])
      distinct (fun req member => (List.not_mem_nil member).elim)
    generalize plan.proxyRequests.foldl admitProxy _ = last at same owedProxies
    have lastScheduler : last.1.proxyScheduler = before.proxyScheduler := (congrArg Prod.fst same).trans proxies
    have lastAttempts : last.1.proxyAttempts = before.proxyAttempts := (congrArg Prod.snd same).trans proxyAttempts
    dsimp only at owedProxies
    rw [proxies] at owedProxies
    unfold proxyKeyOf
    dsimp only
    rw [lastScheduler,lastAttempts]
    exact cancelled.proxies.enqueue owedProxies m.now

end Submit

section Events

def departed (s : CpuCache) : List String := s.activeEntityIds.filter (· ∉ s.activeEntityIdsThisRebuild)

def cancelsChunk (s : CpuCache) : Event → ChunkRequest → Bool
  | .onPlanRebuildStart,req => req.entityId ∈ s.departed
  | .cancelDataset _ entityIds,req => req.entityId ∈ entityIds
  | .markRejected entityId chunkKey,req => !s.rejectedKeys.contains (entityId,chunkKey) && req.entityId = entityId && req.chunkKey = chunkKey
  | .reset,_ => true
  | _,_ => false

def cancelsProxy (s : CpuCache) : Event → ProxyRequest → Bool
  | .onPlanRebuildStart,req => req.entityId ∈ s.departed ∧ req.kind ≠ .groupProxy3D
  | .cancelDataset datasetId _,req => req.datasetId = datasetId
  | .reset,_ => true
  | _,_ => false

-- An outcome after which the attempt returns and does not drain.
def endsUndrained (attempt : ChunkAttempt) : Bool :=
  match attempt.stage with
  | .settled (.error kind) => kind ≠ .pending ∧ !shouldRetry kind attempt.retryCount
  | _ => false

def endsChunk (s : CpuCache) : Event → Option Nat
  | .fetchContinues controller => if (s.attempts.get? controller).any endsUndrained then some controller else none
  | .decodeContinues controller none => some controller
  | _ => none

def failedProxy (attempt : ProxyAttempt) : Bool :=
  match attempt.outcome with
  | some (.error _) => true
  | _ => false

def endsProxy (s : CpuCache) : Event → Option Nat
  | .proxyContinues controller => if (s.proxyAttempts.get? controller).any failedProxy then some controller else none
  | _ => none

def Leaves (s : CpuCache) (event : Event) : Prop :=
  ((∀ req ∈ s.chunkScheduler.pending, s.cancelsChunk event req = true) ∧ ∀ req ∈ s.proxyScheduler.pending, s.cancelsProxy event req = true) ∨
  (∃ key entry, s.chunkScheduler.inFlight.get? key = some entry ∧ s.cancelsChunk event entry.request = false ∧ s.endsChunk event ≠ some entry.controller) ∨
  ∃ key entry, s.proxyScheduler.inFlight.get? key = some entry ∧ s.cancelsProxy event entry.request = false ∧ s.endsProxy event ≠ some entry.controller

theorem spared_flowing {event : Event} (leaves : Leaves s event)
    (chunks : s.chunkScheduler.Spares (s.cancelsChunk event) (s.endsChunk event) t.chunkScheduler)
    (proxies : s.proxyScheduler.Spares (s.cancelsProxy event) (s.endsProxy event) t.proxyScheduler) : Flowing t := by
  rcases leaves with ⟨noChunk,noProxy⟩ | ⟨key,entry,there,kept,apart⟩ | ⟨key,entry,there,kept,apart⟩
  · left
    refine ⟨List.eq_nil_iff_forall_not_mem.mpr fun req member => ?_,List.eq_nil_iff_forall_not_mem.mpr fun req member => ?_⟩
    · obtain ⟨before,spared⟩ := chunks.pending req member
      rw [noChunk req before] at spared
      cases spared
    · obtain ⟨before,spared⟩ := proxies.pending req member
      rw [noProxy req before] at spared
      cases spared
  · obtain ⟨after,held,_⟩ := chunks.inFlight key entry there kept apart
    exact .inr (.inl ⟨key,after,held⟩)
  · obtain ⟨after,held,_⟩ := proxies.inFlight key entry there kept apart
    exact .inr (.inr ⟨key,after,held⟩)

theorem departEntity_spares (limits : SchedulerConfig) (m : Moment) (s : CpuCache) (entityId : String) :
    s.chunkScheduler.Spares (fun req => decide (req.entityId = entityId)) none (departEntity limits m s entityId).chunkScheduler ∧
      s.proxyScheduler.Spares (fun req => decide (req.entityId = entityId ∧ req.kind ≠ .groupProxy3D)) none
        (departEntity limits m s entityId).proxyScheduler :=
  ⟨FetchScheduler.cancelWhere_spares limits chunkSchedulerKey _ m.now s.chunkScheduler,
    FetchScheduler.cancelWhere_spares limits inFlightProxyKey _ m.now s.proxyScheduler⟩

theorem departEntities_spares (limits : SchedulerConfig) (m : Moment) (entityIds : List String) (s : CpuCache) :
    s.chunkScheduler.Spares (fun req => decide (req.entityId ∈ entityIds)) none (entityIds.foldl (departEntity limits m) s).chunkScheduler ∧
      s.proxyScheduler.Spares (fun req => decide (req.entityId ∈ entityIds ∧ req.kind ≠ .groupProxy3D)) none
        (entityIds.foldl (departEntity limits m) s).proxyScheduler := by
  induction entityIds generalizing s with
  | nil =>
    refine ⟨?_,?_⟩
    · simpa using FetchScheduler.Spares.refl s.chunkScheduler
    · simpa using FetchScheduler.Spares.refl s.proxyScheduler
  | cons entityId entityIds ih =>
    obtain ⟨chunks,proxies⟩ := departEntity_spares limits m s entityId
    obtain ⟨moreChunks,moreProxies⟩ := ih (departEntity limits m s entityId)
    refine ⟨?_,?_⟩
    · have both := chunks.trans moreChunks
      simpa only [List.foldl_cons,List.mem_cons,Bool.decide_or] using both
    · have both := proxies.trans moreProxies
      simpa only [List.foldl_cons,List.mem_cons,or_and_right,Bool.decide_or] using both

theorem settleProxy_scheduler (key : String) (controller : Nat) (s : CpuCache) :
    (s.settleProxy key controller).1.proxyScheduler = (s.proxyScheduler.markInFlightDoneIfCurrent key controller).1 := by
  unfold settleProxy
  dsimp only
  split
  · rfl
  · rename_i lost
    cases current : s.proxyScheduler.isCurrent key controller with
    | false => rw [FetchScheduler.superseded_settle current]
    | true =>
      exfalso
      obtain ⟨entry,there,same⟩ := (FetchScheduler.isCurrent_iff _ _ _).mp current
      apply lost
      unfold FetchScheduler.markInFlightDoneIfCurrent
      rw [there]
      dsimp only
      rw [if_neg (not_not.mpr same)]

theorem failChunk_frame (key : String) (controller : Nat) (isPermanent : Bool) (s : CpuCache) :
    (s.failChunk m key controller isPermanent).chunkScheduler = (s.chunkScheduler.markInFlightDoneIfCurrent key controller).1 ∧
      (s.failChunk m key controller isPermanent).proxyScheduler = s.proxyScheduler := by
  have record : ∀ u : CpuCache, (u.recordFailure m key isPermanent).chunkScheduler = u.chunkScheduler ∧
      (u.recordFailure m key isPermanent).proxyScheduler = u.proxyScheduler := by
    intro u
    unfold recordFailure
    split <;> exact ⟨rfl,rfl⟩
  have scheduler := settleChunk_scheduler key controller s
  have proxies := (settleChunk_frame key controller s).2.1
  unfold failChunk
  dsimp only
  split
  · exact ⟨(record _).1.trans scheduler,(record _).2.trans proxies⟩
  · exact ⟨scheduler,proxies⟩

theorem settleProxy_frame (key : String) (controller : Nat) (s : CpuCache) :
    (s.settleProxy key controller).1.proxyAttempts = s.proxyAttempts ∧ (s.settleProxy key controller).1.chunkScheduler = s.chunkScheduler ∧
      (s.settleProxy key controller).1.attempts = s.attempts := by
  unfold settleProxy
  dsimp only
  split <;> exact ⟨rfl,rfl,rfl⟩

theorem settleProxy_working {controller : Nat} {key : String} {keyOf : Nat → Option String}
    (chunks : s.chunkScheduler.InOrder chunkSchedulerKey limits.window s.chunkKeyOf)
    (proxies : s.proxyScheduler.InOrder inFlightProxyKey limits.window keyOf) (known : keyOf controller = some key)
    (taken : s.proxyKeyOf = FetchScheduler.without keyOf controller) : Working limits (s.settleProxy key controller).1 := by
  obtain ⟨attempts,chunkScheduler,chunkAttempts⟩ := settleProxy_frame key controller s
  refine ⟨?_,?_⟩
  · have keys : (s.settleProxy key controller).1.chunkKeyOf = s.chunkKeyOf := by
      funext other
      unfold chunkKeyOf
      rw [chunkAttempts]
    rw [keys,chunkScheduler]
    exact chunks
  · have keys : (s.settleProxy key controller).1.proxyKeyOf = FetchScheduler.without keyOf controller := by
      rw [← taken]
      funext other
      unfold proxyKeyOf
      rw [attempts]
    rw [keys,settleProxy_scheduler]
    exact proxies.settle known

theorem insertDecoded_working (entry : CacheEntry) (stale : Bool) (working : Working limits s) : Working limits (s.insertDecoded entry stale) := by
  unfold insertDecoded
  split
  · split <;> exact ⟨working.chunks,working.proxies⟩
  · split <;> exact ⟨working.chunks,working.proxies⟩

theorem fetchContinues_working {controller : Nat} {attempt : ChunkAttempt} (outcome : FetchOutcome) (working : Working limits s)
    (there : s.attempts.get? controller = some attempt) : Working limits ((s.take controller).fetchContinues limits m controller attempt outcome) := by
  have settled := settleChunk_working working there
  unfold fetchContinues
  split
  · exact settled
  · dsimp only
    split
    · exact drain_working m settled
    · exact settled
  · split
    · exact parked_working working there rfl
    · exact failChunk_working _ working there
  · rename_i byteLength
    dsimp only
    split
    · have corrected : Working limits { s with chunkScheduler := s.chunkScheduler.correctInFlightBytes attempt.key byteLength } :=
        ⟨working.chunks.correct attempt.key byteLength,working.proxies⟩
      have parked : Working limits (({ s with chunkScheduler := s.chunkScheduler.correctInFlightBytes attempt.key byteLength }.take controller).park controller
          { attempt with stage := .decoding }) := parked_working corrected there rfl
      exact ⟨parked.chunks,parked.proxies⟩
    · exact parked_working working there rfl

theorem storeDecoded_working {controller : Nat} {attempt : ChunkAttempt} (byteLength : Nat) (working : Working limits s)
    (there : s.attempts.get? controller = some attempt) : Working limits ((s.take controller).storeDecoded controller attempt byteLength) := by
  have settled := settleChunk_working working there
  unfold storeDecoded
  dsimp only
  apply insertDecoded_working
  split
  · exact ⟨settled.chunks,settled.proxies⟩
  · exact ⟨settled.chunks,settled.proxies⟩

theorem storeProxy_working {controller : Nat} {attempt : ProxyAttempt} (responseBytes : Nat) (working : Working limits s)
    (there : s.proxyAttempts.get? controller = some attempt) : Working limits ((s.takeProxy controller).storeProxy controller attempt responseBytes) := by
  have known : s.proxyKeyOf controller = some attempt.key := by
    rw [proxyKeyOf,there]
    rfl
  unfold storeProxy
  dsimp only
  refine settleProxy_working working.chunks ?_ known (proxyKeyOf_take controller s)
  dsimp only
  split
  · exact working.proxies.correct attempt.key responseBytes
  · exact working.proxies

theorem markRejected_working (m : Moment) (entityId chunkKey : String) (working : Working limits s) :
    Working limits (s.markRejected limits m entityId chunkKey) := by
  unfold markRejected
  split
  · exact working
  · have marked : Working limits { s with rejectedKeys := s.rejectedKeys ++ [(entityId,chunkKey)] } := ⟨working.chunks,working.proxies⟩
    exact cancelChunkWork_working m _ marked

theorem waitEnds_working {controller : Nat} {attempt : ChunkAttempt} (working : Working limits s)
    (there : s.attempts.get? controller = some attempt) : Working limits ((s.take controller).waitEnds controller attempt) := by
  unfold waitEnds
  split
  · have asked : Working limits { s with issued := s.issued ++ [(attempt.key,controller)] } := ⟨working.chunks,working.proxies⟩
    have parked : Working limits (({ s with issued := s.issued ++ [(attempt.key,controller)] }.take controller).park controller
        { attempt with retryCount := attempt.retryCount+1, stage := .fetching }) := parked_working asked there rfl
    exact ⟨parked.chunks,parked.proxies⟩
  · rename_i absent
    refine ⟨?_,working.proxies⟩
    rw [chunkKeyOf_take]
    have known : s.chunkKeyOf controller = some attempt.key := by
      rw [chunkKeyOf,there]
      rfl
    refine working.chunks.gone known ?_
    rw [Bool.eq_false_iff]
    intro current
    obtain ⟨entry,held,_⟩ := (FetchScheduler.isCurrent_iff _ _ _).mp current
    exact absent ((FetchScheduler.hasInFlight_iff _ _).mpr ⟨entry,held⟩)

theorem fetchSettles_working {controller : Nat} {attempt : ChunkAttempt} (outcome : FetchOutcome) (working : Working limits s)
    (there : s.attempts.get? controller = some attempt) : Working limits (s.park controller { attempt with stage := .settled outcome }) := by
  refine ⟨?_,working.proxies⟩
  have keys : (s.park controller { attempt with stage := .settled outcome }).chunkKeyOf = s.chunkKeyOf :=
    keyOf_inserted there rfl fun _ _ => rfl
  rw [keys]
  exact working.chunks

theorem proxySettles_working {controller : Nat} {attempt : ProxyAttempt} (outcome : FetchOutcome) (working : Working limits s)
    (there : s.proxyAttempts.get? controller = some attempt) :
    Working limits { s with proxyAttempts := s.proxyAttempts.insert controller { attempt with outcome := some outcome } } := by
  refine ⟨working.chunks,?_⟩
  have keys : (fun other => ((s.proxyAttempts.insert controller { attempt with outcome := some outcome }).get? other).map ProxyAttempt.key) =
      s.proxyKeyOf := by
    funext other
    unfold proxyKeyOf
    rw [IndexMap.get?_insert]
    split
    · rename_i same
      rw [same,there]
      rfl
    · rfl
  unfold proxyKeyOf
  dsimp only
  rw [keys]
  exact working.proxies

theorem proxyContinues_working {controller : Nat} {attempt : ProxyAttempt} (outcome : FetchOutcome) (working : Working limits s)
    (there : s.proxyAttempts.get? controller = some attempt) :
    Working limits ((s.takeProxy controller).proxyContinues limits m controller attempt outcome) := by
  cases outcome with
  | error kind =>
    have known : s.proxyKeyOf controller = some attempt.key := by rw [proxyKeyOf,there]; rfl
    exact settleProxy_working (s := s.takeProxy controller) working.chunks working.proxies known (proxyKeyOf_take controller s)
  | ok responseBytes => exact drain_working m (storeProxy_working responseBytes working there)

theorem step_working {event : Event} (working : Working limits s) (taken : Step limits s (m,event) t)
    (listed : ∀ plan, event = .submit plan → (plan.proxyRequests.map inFlightProxyKey).Nodup) : Working limits t := by
  cases step_cases taken with
  | submit plan =>
    rw [submit_eq]
    exact drain_working m (enqueued_working m working (listed plan rfl))
  | onPlanRebuildStart =>
    have kept := departEntities_working m s.departed working
    exact ⟨kept.chunks,kept.proxies⟩
  | cancelDataset datasetId entityIds => exact cancelDataset_working m datasetId entityIds working
  | markRejected entityId chunkKey => exact markRejected_working m entityId chunkKey working
  | clearRejected => exact ⟨working.chunks,working.proxies⟩
  | updateConfig config => exact ⟨working.chunks,working.proxies⟩
  | reset => exact reset_working working
  | fetchSettles outcome there fetching => exact fetchSettles_working outcome working there
  | fetchContinues there settled => exact fetchContinues_working _ working there
  | waitEnds there waiting => exact waitEnds_working working there
  | decodeContinues decoded there decoding =>
    cases decoded with
    | none => exact failChunk_working false working there
    | some byteLength => exact drain_working m (storeDecoded_working byteLength working there)
  | proxySettles outcome there fetching => exact proxySettles_working outcome working there
  | @proxyContinues controller attempt outcome there settled => exact proxyContinues_working outcome working there

end Events

section Progress

theorem untouched_flowing {event : Event} (leaves : Leaves s event) (chunks : t.chunkScheduler = s.chunkScheduler)
    (proxies : t.proxyScheduler = s.proxyScheduler) (noChunk : s.cancelsChunk event = fun _ => false) (noProxy : s.cancelsProxy event = fun _ => false) :
    Flowing t := by
  refine spared_flowing leaves ?_ ?_
  · rw [chunks,noChunk]
    exact .ending _ _
  · rw [proxies,noProxy]
    exact .ending _ _

theorem departs_flowing (m : Moment) (leaves : Leaves s .onPlanRebuildStart) : Flowing (s.onPlanRebuildStart limits m) := by
  obtain ⟨chunks,proxies⟩ := departEntities_spares limits m s.departed s
  exact spared_flowing leaves chunks proxies

theorem forgetEntities_schedulers (entityIds : List String) (s : CpuCache) :
    (entityIds.foldl forgetEntity s).chunkScheduler = s.chunkScheduler ∧ (entityIds.foldl forgetEntity s).proxyScheduler = s.proxyScheduler := by
  induction entityIds generalizing s with
  | nil => exact ⟨rfl,rfl⟩
  | cons entityId entityIds ih => exact ih (forgetEntity s entityId)

theorem cancelDataset_flowing (m : Moment) {datasetId : String} {entityIds : List String} (leaves : Leaves s (.cancelDataset datasetId entityIds)) :
    Flowing (s.cancelDataset limits m datasetId entityIds) := by
  refine spared_flowing leaves ?_ ?_
  · unfold cancelDataset
    dsimp only
    rw [(forgetEntities_schedulers entityIds _).1]
    exact FetchScheduler.cancelWhere_spares limits chunkSchedulerKey _ m.now s.chunkScheduler
  · unfold cancelDataset
    dsimp only
    rw [(forgetEntities_schedulers entityIds _).2]
    exact FetchScheduler.cancelWhere_spares limits inFlightProxyKey _ m.now s.proxyScheduler

theorem markRejected_flowing (m : Moment) {entityId chunkKey : String} (leaves : Leaves s (.markRejected entityId chunkKey)) :
    Flowing (s.markRejected limits m entityId chunkKey) := by
  unfold markRejected
  split
  · rename_i marked
    refine untouched_flowing leaves rfl rfl ?_ rfl
    funext req
    simp [cancelsChunk,marked]
  · rename_i unmarked
    refine spared_flowing leaves ?_ (.refl _)
    have exactly : s.cancelsChunk (.markRejected entityId chunkKey) = fun req => decide (req.entityId = entityId ∧ req.chunkKey = chunkKey) := by
      funext req
      simp [cancelsChunk,unmarked]
    rw [exactly]
    exact FetchScheduler.cancelWhere_spares limits chunkSchedulerKey _ m.now s.chunkScheduler

theorem failed_flowing {event : Event} {controller : Nat} {key : String} {isPermanent : Bool} (leaves : Leaves s event)
    (noChunk : s.cancelsChunk event = fun _ => false) (noProxy : s.cancelsProxy event = fun _ => false) (ends : s.endsChunk event = some controller) :
    Flowing ((s.take controller).failChunk m key controller isPermanent) := by
  obtain ⟨chunks,proxies⟩ := failChunk_frame (m := m) key controller isPermanent (s.take controller)
  refine spared_flowing leaves ?_ ?_
  · rw [chunks,noChunk,ends]
    exact FetchScheduler.settle_spares key controller s.chunkScheduler
  · rw [proxies,noProxy]
    exact .ending _ _

theorem endsChunk_settled {controller : Nat} {attempt : ChunkAttempt} {kind : FetchErrorKind} (there : s.attempts.get? controller = some attempt)
    (settled : attempt.stage = .settled (.error kind)) (other : kind ≠ .pending) (last : shouldRetry kind attempt.retryCount = false) :
    s.endsChunk (.fetchContinues controller) = some controller := by
  unfold endsChunk
  dsimp only
  rw [there]
  simp [endsUndrained,settled,other,last]

theorem continued_flowing {controller : Nat} {attempt : ChunkAttempt} {outcome : FetchOutcome} (working : Working limits s)
    (window : limits.window ≠ 0) (slots : 0 < limits.maxConcurrentFetches) (bytes : 0 < limits.maxBytesInFlight)
    (leaves : Leaves s (.fetchContinues controller)) (there : s.attempts.get? controller = some attempt) (settled : attempt.stage = .settled outcome) :
    Flowing ((s.take controller).fetchContinues limits m controller attempt outcome) := by
  unfold fetchContinues
  split
  · have ends := endsChunk_settled there settled (by decide) rfl
    refine spared_flowing leaves ?_ ?_
    · rw [settleChunk_scheduler,ends]
      exact FetchScheduler.settle_spares attempt.key controller s.chunkScheduler
    · rw [(settleChunk_frame attempt.key controller _).2.1]
      exact .ending _ _
  · cases current : (s.take controller).chunkScheduler.isCurrent attempt.key controller with
    | true =>
      have done := settleChunk_working working there
      rw [settleChunk_current current] at done ⊢
      exact drain_flowing m done window slots bytes
    | false =>
      rw [settleChunk_superseded current]
      exact untouched_flowing leaves rfl rfl rfl rfl
  · rename_i kind _ other
    split
    · exact untouched_flowing leaves rfl rfl rfl rfl
    · rename_i last
      exact failed_flowing leaves rfl rfl (endsChunk_settled there settled (fun same => other (by rw [same])) (by simpa using last))
  · rename_i byteLength
    have apart : s.endsChunk (.fetchContinues controller) = none := by
      unfold endsChunk
      dsimp only
      rw [there]
      simp [endsUndrained,settled]
    dsimp only
    split
    · refine spared_flowing leaves ?_ (.refl _)
      rw [apart]
      exact FetchScheduler.correct_spares attempt.key byteLength s.chunkScheduler
    · exact untouched_flowing leaves rfl rfl rfl rfl

theorem failedProxy_flowing {controller : Nat} {attempt : ProxyAttempt} {kind : FetchErrorKind} (leaves : Leaves s (.proxyContinues controller))
    (there : s.proxyAttempts.get? controller = some attempt) (settled : attempt.outcome = some (.error kind)) :
    Flowing ((s.takeProxy controller).settleProxy attempt.key controller).1 := by
  have ends : s.endsProxy (.proxyContinues controller) = some controller := by
    unfold endsProxy
    dsimp only
    rw [there]
    simp [failedProxy,settled]
  refine spared_flowing leaves ?_ ?_
  · have frame := (settleProxy_frame attempt.key controller (s.takeProxy controller)).2.1
    rw [frame]
    exact .ending _ _
  · have scheduler := settleProxy_scheduler attempt.key controller (s.takeProxy controller)
    rw [scheduler,ends]
    exact FetchScheduler.settle_spares attempt.key controller s.proxyScheduler

theorem step_flowing {event : Event} (working : Working limits s) (window : limits.window ≠ 0) (slots : 0 < limits.maxConcurrentFetches)
    (bytes : 0 < limits.maxBytesInFlight) (leaves : Leaves s event) (taken : Step limits s (m,event) t)
    (listed : ∀ plan, event = .submit plan → (plan.proxyRequests.map inFlightProxyKey).Nodup) : Flowing t := by
  cases step_cases taken with
  | submit plan =>
    rw [submit_eq]
    exact drain_flowing m (enqueued_working m working (listed plan rfl)) window slots bytes
  | onPlanRebuildStart => exact departs_flowing m leaves
  | cancelDataset datasetId entityIds => exact cancelDataset_flowing m leaves
  | markRejected entityId chunkKey => exact markRejected_flowing m leaves
  | clearRejected => exact untouched_flowing leaves rfl rfl rfl rfl
  | updateConfig config => exact untouched_flowing leaves rfl rfl rfl rfl
  | reset => exact spared_flowing leaves (FetchScheduler.reset_spares _) (FetchScheduler.reset_spares _)
  | fetchSettles outcome there fetching => exact untouched_flowing leaves rfl rfl rfl rfl
  | fetchContinues there settled => exact continued_flowing working window slots bytes leaves there settled
  | waitEnds there waiting =>
    unfold waitEnds
    split <;> exact untouched_flowing leaves rfl rfl rfl rfl
  | decodeContinues decoded there decoding =>
    cases decoded with
    | none => exact failed_flowing leaves rfl rfl rfl
    | some byteLength => exact drain_flowing m (storeDecoded_working byteLength working there) window slots bytes
  | proxySettles outcome there fetching => exact untouched_flowing leaves rfl rfl rfl rfl
  | @proxyContinues controller attempt outcome there settled =>
    cases outcome with
    | error kind => exact failedProxy_flowing leaves there settled
    | ok responseBytes => exact drain_flowing m (storeProxy_working responseBytes working there) window slots bytes

def Event.proxies : Event → List ProxyRequest
  | .submit plan => plan.proxyRequests
  | _ => []

-- The condition on each event of a run: it takes no last fetch out of flight under a backlog
-- without a drain, and no plan lists a proxy twice.
def Flows (s : CpuCache) (event : Handled) : Prop := Leaves s event.2 ∧ (event.2.proxies.map inFlightProxyKey).Nodup

def FlowingStep (limits : SchedulerConfig) (s : CpuCache) (event : Handled) (t : CpuCache) : Prop := Step limits s event t ∧ Flows s event

theorem working_initial (config : TierBudgets) (proxyBudgetBytes : Number) : Working limits (.initial config proxyBudgetBytes) :=
  ⟨⟨FetchScheduler.sound_initial,fun _ _ there => (Option.some_ne_none _ there.symm).elim,
      fun _ there => (Bool.false_ne_true there).elim,fun _ _ there => (Option.some_ne_none _ there.symm).elim⟩,
    ⟨FetchScheduler.sound_initial,fun _ _ there => (Option.some_ne_none _ there.symm).elim,
      fun _ there => (Bool.false_ne_true there).elim,fun _ _ there => (Option.some_ne_none _ there.symm).elim⟩⟩

theorem runs_flowing {config : TierBudgets} {proxyBudgetBytes : Number} {events : List Handled} (window : limits.window ≠ 0)
    (slots : 0 < limits.maxConcurrentFetches) (bytes : 0 < limits.maxBytesInFlight)
    (path : Runs (FlowingStep limits) (.initial config proxyBudgetBytes) events s) : Working limits s ∧ Flowing s := by
  refine path.preserves (P := fun s => Working limits s ∧ Flowing s) ?_ ⟨working_initial config proxyBudgetBytes,.inl ⟨rfl,rfl⟩⟩
  rintro s ⟨m,event⟩ t ⟨working,_⟩ ⟨taken,leaves,listed⟩
  have plans : ∀ plan, event = .submit plan → (plan.proxyRequests.map inFlightProxyKey).Nodup := by
    rintro plan rfl
    exact listed
  exact ⟨step_working working taken plans,step_flowing working window slots bytes leaves taken plans⟩

theorem attended_chunk {key : String} {entry : InFlightEntry ChunkRequest} (working : Working limits s)
    (there : s.chunkScheduler.inFlight.get? key = some entry) :
    ∃ controller attempt, s.attempts.get? controller = some attempt ∧ s.chunkScheduler.isCurrent attempt.key controller = true := by
  obtain ⟨attempt,live,same⟩ := Option.map_eq_some_iff.mp (working.chunks.attended key entry there)
  refine ⟨entry.controller,attempt,live,?_⟩
  rw [same]
  exact (FetchScheduler.isCurrent_iff _ _ _).mpr ⟨entry,there,rfl⟩

theorem attended_proxy {key : String} {entry : InFlightEntry ProxyRequest} (working : Working limits s)
    (there : s.proxyScheduler.inFlight.get? key = some entry) :
    ∃ controller attempt, s.proxyAttempts.get? controller = some attempt ∧ s.proxyScheduler.isCurrent attempt.key controller = true := by
  obtain ⟨attempt,live,same⟩ := Option.map_eq_some_iff.mp (working.proxies.attended key entry there)
  refine ⟨entry.controller,attempt,live,?_⟩
  rw [same]
  exact (FetchScheduler.isCurrent_iff _ _ _).mpr ⟨entry,there,rfl⟩

theorem leaves_iff (s : CpuCache) (event : Event) :
    Leaves s event ↔
      ((∀ req ∈ s.chunkScheduler.pending, s.cancelsChunk event req = true) ∧ ∀ req ∈ s.proxyScheduler.pending, s.cancelsProxy event req = true) ∨
      (∃ e ∈ s.chunkScheduler.inFlight.entries, s.cancelsChunk event e.2.request = false ∧ s.endsChunk event ≠ some e.2.controller) ∨
      ∃ e ∈ s.proxyScheduler.inFlight.entries, s.cancelsProxy event e.2.request = false ∧ s.endsProxy event ≠ some e.2.controller := by
  simp only [Leaves,Prod.exists,IndexMap.mem_entries_iff]

instance (s : CpuCache) (event : Event) : Decidable (Leaves s event) := decidable_of_iff' _ (leaves_iff s event)

instance (s : CpuCache) (event : Handled) : Decidable (Flows s event) :=
  inferInstanceAs (Decidable (Leaves s event.2 ∧ (event.2.proxies.map inFlightProxyKey).Nodup))

end Progress
end CpuCache

-- In every state of such a run a backlog has a fetch in flight in one of the lanes, under an
-- attempt that goes on by itself.
theorem backlog_is_worked_off {maxConcurrentFetches : Nat} {maxBytesInFlight : Number} {config : TierBudgets} {proxyBudgetBytes : Number}
    {events : List CpuCache.Handled} {s : CpuCache} (slots : 0 < maxConcurrentFetches) (bytes : 0 < maxBytesInFlight)
    (path : Runs (CpuCache.FlowingStep ⟨maxConcurrentFetches,maxBytesInFlight,none⟩) (.initial config proxyBudgetBytes) events s)
    (backlog : s.chunkScheduler.pending ≠ [] ∨ s.proxyScheduler.pending ≠ []) :
    (∃ controller attempt, s.attempts.get? controller = some attempt ∧ s.chunkScheduler.isCurrent attempt.key controller = true) ∨
      ∃ controller attempt, s.proxyAttempts.get? controller = some attempt ∧ s.proxyScheduler.isCurrent attempt.key controller = true := by
  obtain ⟨working,flowing⟩ := CpuCache.runs_flowing (by simp [SchedulerConfig.window,minAdmissionWindow]) slots bytes path
  rcases flowing with ⟨noChunk,noProxy⟩ | ⟨key,entry,there⟩ | ⟨key,entry,there⟩
  · rcases backlog with some | some
    · exact absurd noChunk some
    · exact absurd noProxy some
  · exact .inl (CpuCache.attended_chunk working there)
  · exact .inr (CpuCache.attended_proxy working there)

def queuedChunk (x : Nat) (chunkKey : String) : ChunkRequest := ⟨"d","e","i",0,0,0,0,0,x,.detail,.detail,0,chunkKey⟩

def queuedChunks : List ChunkRequest := [queuedChunk 0 "0/0/0/0/0/0",queuedChunk 1 "0/0/0/0/0/1",queuedChunk 2 "0/0/0/0/0/2"]

def queueLimits : SchedulerConfig := ⟨1,100,none⟩

def queueRun (settled : List CpuCache.Event) : List CpuCache.Handled :=
  (.submit ⟨queuedChunks,[⟨"e",true,[0]⟩],⟨0,0,0,0,0,0⟩,[]⟩::settled).map fun event => (⟨0,0,0,1⟩,event)

def servedFirst : List CpuCache.Handled := queueRun [.fetchSettles 0 (.ok 10),.fetchContinues 0,.decodeContinues 0 (some 20)]

def lostFirst : List CpuCache.Handled := queueRun [.fetchSettles 0 (.error .permanent),.fetchContinues 0]

def afterFirst : CpuCache :=
  (drive (guarded CpuCache.Flows fun s event => s.next queueLimits event.1 event.2) (.initial ⟨100,100⟩ 100) servedFirst).getD (.initial ⟨100,100⟩ 100)

theorem first_served : Runs (CpuCache.FlowingStep queueLimits) (.initial ⟨100,100⟩ 100) servedFirst afterFirst :=
  drive_guarded (some_getD (by decide +kernel) _)

theorem first_leaves_a_backlog : afterFirst.chunkScheduler.pending.map ChunkRequest.x = [2] := by decide +kernel

theorem backlog_is_worked_off_after_the_first :
    afterFirst.chunkScheduler.pending ≠ [] ∧
      ((∃ controller attempt, afterFirst.attempts.get? controller = some attempt ∧ afterFirst.chunkScheduler.isCurrent attempt.key controller = true) ∨
        ∃ controller attempt, afterFirst.proxyAttempts.get? controller = some attempt ∧ afterFirst.proxyScheduler.isCurrent attempt.key controller = true) := by
  have backlog : afterFirst.chunkScheduler.pending ≠ [] := by
    intro empty
    have left := first_leaves_a_backlog
    rw [empty] at left
    cases left
  exact ⟨backlog,backlog_is_worked_off (by decide) (by decide +kernel) first_served (.inl backlog)⟩

def afterLoss : CpuCache :=
  (drive (fun s event => s.next queueLimits event.1 event.2) (.initial ⟨100,100⟩ 100) lostFirst).getD (.initial ⟨100,100⟩ 100)

-- The only fetch fails for good: two chunks stay pending, and no attempt is left.
theorem permanent_failure_strands_the_backlog :
    ∃ s, Runs (CpuCache.Step queueLimits) (.initial ⟨100,100⟩ 100) lostFirst s ∧ s.chunkScheduler.pending.map ChunkRequest.x = [1,2] ∧
      s.chunkScheduler.inFlight.entries = [] ∧ s.proxyScheduler.inFlight.entries = [] ∧ s.attempts.entries = [] ∧ s.proxyAttempts.entries = [] :=
  ⟨afterLoss,drive_runs (fun _ _ _ taken => taken) (some_getD (by decide +kernel) _),by decide +kernel,by decide +kernel,by decide +kernel,
    by decide +kernel,by decide +kernel⟩

end Lucida.Web
