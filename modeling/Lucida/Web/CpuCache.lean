import Lucida.Web.ElasticBudgets
import Lucida.Web.ProxyStore

namespace Lucida.Web
open Lib

structure SceneEpochs where
  content : Nat
  layout : Nat
  view : Nat
  selection : Nat
  asset : Nat
  request : Nat
  deriving DecidableEq, Repr

structure ChunkRequest where
  datasetId : String
  entityId : String
  imageId : String
  level : Nat
  t : Nat
  c : Nat
  z : Nat
  y : Nat
  x : Nat
  lane : Lane
  tier : ResidencyTier
  priority : Number
  chunkKey : String
  deriving DecidableEq, Repr

def chunkKey (level t c z y x : Nat) : String :=
  toString level ++ "/" ++ toString t ++ "/" ++ toString c ++ "/" ++ toString z ++ "/" ++ toString y ++ "/" ++ toString x

structure ProxyRequest where
  datasetId : String
  entityId : String
  imageId : String
  kind : ProxyKind
  t : Nat
  c : Nat
  priority : Number
  deriving DecidableEq, Repr

-- Of an entry of the active set, what the cache reads.
structure ActiveEntry where
  entityId : String
  isTile : Bool
  detailLevels : List Nat
  deriving DecidableEq, Repr

structure RequestPlan where
  requests : List ChunkRequest
  activeSet : List ActiveEntry
  epochs : SceneEpochs
  proxyRequests : List ProxyRequest
  deriving DecidableEq, Repr

def ResidencyTier.name : ResidencyTier → String
  | .detail => "detail"
  | .coarse => "coarse"

def chunkSchedulerKey (req : ChunkRequest) : String := req.entityId ++ "/" ++ req.tier.name ++ "/" ++ req.chunkKey

def inFlightProxyKey (req : ProxyRequest) : String := req.datasetId ++ "|" ++ proxyInnerKey req.entityId req.kind req.t req.c

def interactionModeWindow : Nat := 10

-- The mode of the epochs of the last submits.
def pushEpochs (epochs : SceneEpochs) (history : List SceneEpochs) : List SceneEpochs :=
  let history := history ++ [epochs]
  if history.length > interactionModeWindow then history.tail else history

def bumps (field : SceneEpochs → Nat) (history : List SceneEpochs) : Nat :=
  (history.zip history.tail).countP fun pair => field pair.2 ≠ field pair.1

def interactionMode (history : List SceneEpochs) : InteractionMode :=
  if history.length < 2 then .idle
  else
    let viewBumps := bumps SceneEpochs.view history
    let selectionBumps := bumps SceneEpochs.selection history
    if selectionBumps > viewBumps ∧ selectionBumps ≥ 2 then .scrubbing else if viewBumps ≥ 2 then .panning else .idle

def isEpochStale (deliveryEpochs currentEpochs : SceneEpochs) : Bool :=
  deliveryEpochs.selection < currentEpochs.selection ∨ deliveryEpochs.content < currentEpochs.content

def usesOverviewStore : Lane → Bool
  | .overview => true
  | .minimap => true
  | .coarse => true
  | .detail => false
  | .prefetch => false

def laneToTier (lane : Lane) : EvictionTier :=
  if lane = .prefetch then .prefetch else if usesOverviewStore lane then .prefetch else .activeDetail

inductive FetchErrorKind where
  | permanent
  | transient
  | pending
  | abort
  deriving DecidableEq, Repr

-- What a fetch settles with: its bytes, or an error.
inductive FetchOutcome where
  | ok (byteLength : Nat)
  | error (kind : FetchErrorKind)
  deriving DecidableEq, Repr

-- `OnceTransientRetry`
def shouldRetry (kind : FetchErrorKind) (attempt : Nat) : Bool := kind = .transient ∧ attempt < 1

-- What the clocks, the dice and the counters answer while an event is handled.
structure Moment where
  now : Number
  clock : Number
  random : Number
  averageDecodedBytes : Number
  deriving DecidableEq, Repr

def failureBackoffBaseMs : Number := 500

def failureBackoffFactor : Number := 2

def failureBackoffMaxMs : Number := 30000

def failureBackoffJitterRatio : Number := 1/2

def maxTrackedFailures : Nat := 8192

def backoffWithJitter (attempt : Nat) (random : Number) : Number :=
  let growth := failureBackoffBaseMs*failureBackoffFactor^(attempt-1)
  let base := min failureBackoffMaxMs growth
  let floor := base*(1-failureBackoffJitterRatio)
  floor+random*(base-floor)

-- A permanent record is never eligible again.
structure FailureRecord where
  failedAt : Number
  attempt : Nat
  eligibleAt : Option Number
  deriving DecidableEq, Repr

def evictOldestWhileOverCap (store : IndexMap String FailureRecord) : IndexMap String FailureRecord :=
  (store.keys.take (store.keys.length-maxTrackedFailures)).foldl IndexMap.erase store

structure InFlightMeta (Req : Type) where
  request : Req
  lastSeenTick : Nat
  epochs : SceneEpochs
  deriving DecidableEq, Repr

-- Where an attempt stands: its fetch is under way, or has settled and the attempt has yet to go
-- on, or the attempt waits before a retry, or its bytes are decoded.
inductive Stage where
  | fetching
  | settled (outcome : FetchOutcome)
  | waiting
  | decoding
  deriving DecidableEq, Repr

structure ChunkAttempt where
  request : ChunkRequest
  key : String
  retryCount : Nat
  startedEpochs : SceneEpochs
  stage : Stage
  deriving DecidableEq, Repr

structure ProxyAttempt where
  request : ProxyRequest
  key : String
  outcome : Option FetchOutcome
  deriving DecidableEq, Repr

-- The attempts stand under their controllers. `issued` lists the calls of `source.fetch`.
structure CpuCache where
  config : TierBudgets
  stores : TierStores
  proxyStore : ProxyStore
  chunkScheduler : FetchScheduler String ChunkRequest
  proxyScheduler : FetchScheduler String ProxyRequest
  activeEntityIds : List String
  activeEntityIdsThisRebuild : List String
  targetLevelByEntity : IndexMap String Number
  epochHistory : List SceneEpochs
  permanentFailures : IndexMap String FailureRecord
  transientFailures : IndexMap String FailureRecord
  lruCounter : Nat
  currentSubmitTick : Nat
  desiredDetailKeysThisTick : List String
  desiredCoarseKeysThisTick : List String
  viewCoarseKeysThisTick : List String
  inFlightChunkMeta : IndexMap String (InFlightMeta ChunkRequest)
  inFlightProxyMeta : IndexMap String (InFlightMeta ProxyRequest)
  rejectedKeys : List (String × String)
  currentEpochs : SceneEpochs
  attempts : IndexMap Nat ChunkAttempt
  proxyAttempts : IndexMap Nat ProxyAttempt
  issued : List (String × Nat)

-- A set in the order of insertion.
def addTo {A : Type} [DecidableEq A] (set : List A) (a : A) : List A := if a ∈ set then set else set ++ [a]

namespace CpuCache

def initial (config : TierBudgets) (proxyBudgetBytes : Number) : CpuCache where
  config := config
  stores := .initial config
  proxyStore := .initial proxyBudgetBytes
  chunkScheduler := .initial
  proxyScheduler := .initial
  activeEntityIds := []
  activeEntityIdsThisRebuild := []
  targetLevelByEntity := .empty
  epochHistory := []
  permanentFailures := .empty
  transientFailures := .empty
  lruCounter := 0
  currentSubmitTick := 0
  desiredDetailKeysThisTick := []
  desiredCoarseKeysThisTick := []
  viewCoarseKeysThisTick := []
  inFlightChunkMeta := .empty
  inFlightProxyMeta := .empty
  rejectedKeys := []
  currentEpochs := ⟨0,0,0,0,0,0⟩
  attempts := .empty
  proxyAttempts := .empty
  issued := []

def mainPolicy (s : CpuCache) : EvictionPolicy := .tiered (interactionMode s.epochHistory) s.targetLevelByEntity.get?

def applyElasticTierBudgets (s : CpuCache) : CpuCache :=
  { s with
    stores := Web.applyElasticTierBudgets s.config s.mainPolicy (s.desiredDetailKeysThisTick ≠ []) (s.desiredCoarseKeysThisTick ≠ []) s.stores }

section Failures

def isFailureExcluded (m : Moment) (key : String) (s : CpuCache) : Bool :=
  ((s.permanentFailures.get? key).or (s.transientFailures.get? key)).any fun record => record.eligibleAt.all (m.clock < ·)

def recordFailure (m : Moment) (key : String) (isPermanent : Bool) (s : CpuCache) : CpuCache :=
  if isPermanent then
    { s with
      transientFailures := s.transientFailures.erase key
      permanentFailures := evictOldestWhileOverCap ((s.permanentFailures.erase key).insert key ⟨m.clock,0,none⟩) }
  else
    let attempt := ((s.transientFailures.get? key).map FailureRecord.attempt).getD 0+1
    { s with
      permanentFailures := s.permanentFailures.erase key
      transientFailures := evictOldestWhileOverCap ((s.transientFailures.erase key).insert key
        ⟨m.clock,attempt,some (m.clock+backoffWithJitter attempt m.random)⟩) }

def clearFailure (key : String) (s : CpuCache) : CpuCache :=
  { s with permanentFailures := s.permanentFailures.erase key, transientFailures := s.transientFailures.erase key }

end Failures

section Lanes

def rememberInFlightChunk (key : String) (req : ChunkRequest) (s : CpuCache) : CpuCache :=
  { s with inFlightChunkMeta := s.inFlightChunkMeta.insert key ⟨req,s.currentSubmitTick,s.currentEpochs⟩ }

def rememberInFlightProxy (key : String) (req : ProxyRequest) (s : CpuCache) : CpuCache :=
  { s with inFlightProxyMeta := s.inFlightProxyMeta.insert key ⟨req,s.currentSubmitTick,s.currentEpochs⟩ }

-- The start function of the chunk scheduler, up to the first await of `fetchAndDecode`.
def startChunk (s : CpuCache) (start : Started String ChunkRequest) : CpuCache :=
  let s := s.rememberInFlightChunk start.key start.request
  { s with
    attempts := s.attempts.insert start.controller ⟨start.request,start.key,0,s.currentEpochs,.fetching⟩
    issued := s.issued ++ [(start.key,start.controller)] }

def startProxy (s : CpuCache) (start : Started String ProxyRequest) : CpuCache :=
  let s := s.rememberInFlightProxy start.key start.request
  { s with proxyAttempts := s.proxyAttempts.insert start.controller ⟨start.request,start.key,none⟩ }

def load {K Req : Type} [DecidableEq K] (scheduler : FetchScheduler K Req) : SiblingLoad := ⟨scheduler.inFlightSize,scheduler.inFlightBytes⟩

def drainProxies (limits : SchedulerConfig) (m : Moment) (s : CpuCache) : CpuCache :=
  let (scheduler,started) := s.proxyScheduler.drain limits inFlightProxyKey (fun _ => m.averageDecodedBytes) m.now fun _ => load s.chunkScheduler
  started.foldl startProxy { s with proxyScheduler := scheduler }

def drainChunks (limits : SchedulerConfig) (m : Moment) (s : CpuCache) : CpuCache :=
  let (scheduler,started) := s.chunkScheduler.drain limits chunkSchedulerKey (fun _ => m.averageDecodedBytes) m.now fun _ => load s.proxyScheduler
  started.foldl startChunk { s with chunkScheduler := scheduler }

def drainSchedulers (limits : SchedulerConfig) (m : Moment) (s : CpuCache) : CpuCache := (s.drainProxies limits m).drainChunks limits m

-- An abort rejects the fetch that is under way for its controller, and no other.
def rejectAborted (aborted : List Nat) (attempts : IndexMap Nat ChunkAttempt) : IndexMap Nat ChunkAttempt :=
  attempts.mapEntries fun controller attempt =>
    if controller ∈ aborted ∧ attempt.stage = .fetching then { attempt with stage := .settled (.error .abort) } else attempt

def rejectAbortedProxies (aborted : List Nat) (attempts : IndexMap Nat ProxyAttempt) : IndexMap Nat ProxyAttempt :=
  attempts.mapEntries fun controller attempt =>
    if controller ∈ aborted ∧ attempt.outcome = none then { attempt with outcome := some (.error .abort) } else attempt

def withChunks (scheduler : FetchScheduler String ChunkRequest) (s : CpuCache) : CpuCache :=
  { s with
    chunkScheduler := scheduler
    attempts := rejectAborted (scheduler.aborted.drop s.chunkScheduler.aborted.length) s.attempts }

def withProxies (scheduler : FetchScheduler String ProxyRequest) (s : CpuCache) : CpuCache :=
  { s with
    proxyScheduler := scheduler
    proxyAttempts := rejectAbortedProxies (scheduler.aborted.drop s.proxyScheduler.aborted.length) s.proxyAttempts }

def forgetChunks (cancelled : List String) (s : CpuCache) : CpuCache :=
  { s with inFlightChunkMeta := cancelled.foldl IndexMap.erase s.inFlightChunkMeta }

def forgetProxies (cancelled : List String) (s : CpuCache) : CpuCache :=
  { s with inFlightProxyMeta := cancelled.foldl IndexMap.erase s.inFlightProxyMeta }

def cancelChunkWorkWhere (limits : SchedulerConfig) (m : Moment) (unwanted : ChunkRequest → Bool) (s : CpuCache) : CpuCache :=
  let (scheduler,cancelled) := s.chunkScheduler.cancelWhere limits chunkSchedulerKey (fun req _ _ => unwanted req) m.now
  (s.withChunks scheduler).forgetChunks cancelled

def cancelProxyWorkWhere (limits : SchedulerConfig) (m : Moment) (unwanted : ProxyRequest → Bool) (s : CpuCache) : CpuCache :=
  let (scheduler,cancelled) := s.proxyScheduler.cancelWhere limits inFlightProxyKey (fun req _ _ => unwanted req) m.now
  (s.withProxies scheduler).forgetProxies cancelled

def settleChunk (key : String) (controller : Nat) (s : CpuCache) : CpuCache × Bool :=
  let (scheduler,owned) := s.chunkScheduler.markInFlightDoneIfCurrent key controller
  if owned then ({ s with chunkScheduler := scheduler, inFlightChunkMeta := s.inFlightChunkMeta.erase key },true) else (s,false)

def settleProxy (key : String) (controller : Nat) (s : CpuCache) : CpuCache × Bool :=
  let (scheduler,owned) := s.proxyScheduler.markInFlightDoneIfCurrent key controller
  if owned then ({ s with proxyScheduler := scheduler, inFlightProxyMeta := s.inFlightProxyMeta.erase key },true) else (s,false)

end Lanes

section Submit

def noteActive (s : CpuCache) (entry : ActiveEntry) : CpuCache :=
  { s with
    activeEntityIdsThisRebuild := addTo s.activeEntityIdsThisRebuild entry.entityId
    targetLevelByEntity := match entry.isTile,entry.detailLevels with
      | true,level::_ => s.targetLevelByEntity.insert entry.entityId level
      | _,_ => s.targetLevelByEntity }

def noteDemand (s : CpuCache) (req : ChunkRequest) : CpuCache :=
  let key := chunkSchedulerKey req
  match req.tier with
  | .detail => { s with desiredDetailKeysThisTick := addTo s.desiredDetailKeysThisTick key }
  | .coarse =>
    { s with
      desiredCoarseKeysThisTick := addTo s.desiredCoarseKeysThisTick key
      viewCoarseKeysThisTick := if req.lane = .coarse then addTo s.viewCoarseKeysThisTick key else s.viewCoarseKeysThisTick }

def unwantedInFlightKeys (plan : RequestPlan) (s : CpuCache) : List String :=
  let active := plan.activeSet.map ActiveEntry.entityId
  let wanted := plan.requests.map chunkSchedulerKey
  ((s.chunkScheduler.inFlight.entries.filter fun e => e.2.request.entityId ∈ active).map Prod.fst).filter (· ∉ wanted)

def cancelOmittedChunkWork (unwanted : List String) (s : CpuCache) : CpuCache :=
  let (scheduler,cancelled) := s.chunkScheduler.cancelInFlightWhere fun _ key => key ∈ unwanted
  (s.withChunks scheduler).forgetChunks cancelled

def resolveDemandLane (lane : Lane) (key : String) (s : CpuCache) : Lane :=
  if lane = .minimap ∧ key ∈ s.viewCoarseKeysThisTick then .coarse else lane

def lookupCachedEntry (req : ChunkRequest) (s : CpuCache) : Option CacheEntry :=
  if usesOverviewStore req.lane then s.stores.overviewStore.get req.entityId req.chunkKey
  else s.stores.chunkStore.get req.entityId req.chunkKey

def refreshCached (req : ChunkRequest) (cached : CacheEntry) (s : CpuCache) : CpuCache :=
  let lane := s.resolveDemandLane req.lane (chunkSchedulerKey req)
  let wanted : ChunkStore.Refreshed :=
    ⟨lane,req.tier,laneToTier lane,if lane = req.lane then req.priority else min cached.priority req.priority,s.currentSubmitTick⟩
  if usesOverviewStore req.lane then
    { s with stores := { s.stores with overviewStore := s.stores.overviewStore.refresh req.entityId req.chunkKey wanted } }
  else { s with stores := { s.stores with chunkStore := s.stores.chunkStore.refresh req.entityId req.chunkKey wanted } }

-- One turn of the enqueue loop, with the requests to enqueue so far.
def admitChunk (m : Moment) (loop : CpuCache × List ChunkRequest) (req : ChunkRequest) : CpuCache × List ChunkRequest :=
  let s := loop.1
  let key := chunkSchedulerKey req
  if (req.entityId,req.chunkKey) ∈ s.rejectedKeys then loop
  else match s.lookupCachedEntry req with
    | some cached => (s.refreshCached req cached,loop.2)
    | none =>
      if s.chunkScheduler.hasInFlight key then (s.rememberInFlightChunk key req,loop.2)
      else if s.isFailureExcluded m key then loop
      else if key ∈ loop.2.map chunkSchedulerKey then loop
      else (s,loop.2 ++ [req])

def interleave {A : Type} : List A → List A → List A
  | [],others => others
  | first,[] => first
  | a::first,b::others => a::b::interleave first others

def orderChunkRequestsForTierAllocation (requests : List ChunkRequest) : List ChunkRequest :=
  interleave (requests.filter (·.tier = .detail)) (requests.filter (·.tier = .coarse))

-- No proxy is compared with those to enqueue so far.
def admitProxy (loop : CpuCache × List ProxyRequest) (req : ProxyRequest) : CpuCache × List ProxyRequest :=
  let s := loop.1
  let innerKey := proxyInnerKey req.entityId req.kind req.t req.c
  match s.proxyStore.get req.datasetId innerKey with
  | some _ => ({ s with proxyStore := s.proxyStore.refresh req.datasetId innerKey req.priority s.currentSubmitTick },loop.2)
  | none =>
    if s.proxyScheduler.hasInFlight (inFlightProxyKey req) then (s.rememberInFlightProxy (inFlightProxyKey req) req,loop.2)
    else (s,loop.2 ++ [req])

def takePlan (plan : RequestPlan) (s : CpuCache) : CpuCache :=
  let s := { s with currentEpochs := plan.epochs, epochHistory := pushEpochs plan.epochs s.epochHistory }
  let s := plan.activeSet.foldl noteActive s
  (plan.requests.foldl noteDemand s).applyElasticTierBudgets

def submit (limits : SchedulerConfig) (m : Moment) (plan : RequestPlan) (s : CpuCache) : CpuCache :=
  let unwanted := s.unwantedInFlightKeys plan
  let s := (s.takePlan plan).cancelOmittedChunkWork unwanted
  let (s,pendingChunks) := plan.requests.foldl (admitChunk m) (s,[])
  let s := { s with
    chunkScheduler := s.chunkScheduler.enqueue limits chunkSchedulerKey (orderChunkRequestsForTierAllocation pendingChunks) m.now }
  let (s,pendingProxies) := plan.proxyRequests.foldl admitProxy (s,[])
  let s := { s with proxyScheduler := s.proxyScheduler.enqueue limits inFlightProxyKey pendingProxies m.now }
  s.drainSchedulers limits m

end Submit

section Removal

def departEntity (limits : SchedulerConfig) (m : Moment) (s : CpuCache) (entityId : String) : CpuCache :=
  let s := { s with stores := { s.stores with chunkStore := s.stores.chunkStore.demoteEntity entityId } }
  let s := s.cancelChunkWorkWhere limits m fun req => req.entityId = entityId
  s.cancelProxyWorkWhere limits m fun req => req.entityId = entityId ∧ req.kind ≠ .groupProxy3D

def onPlanRebuildStart (limits : SchedulerConfig) (m : Moment) (s : CpuCache) : CpuCache :=
  let departed := s.activeEntityIds.filter (· ∉ s.activeEntityIdsThisRebuild)
  let s := departed.foldl (departEntity limits m) s
  { s with
    activeEntityIds := s.activeEntityIdsThisRebuild
    activeEntityIdsThisRebuild := []
    currentSubmitTick := s.currentSubmitTick+1
    desiredDetailKeysThisTick := []
    desiredCoarseKeysThisTick := []
    viewCoarseKeysThisTick := []
    rejectedKeys := [] }

def startsWith (front key : String) : Bool := front.toList.isPrefixOf key.toList

-- The scheduler keys of an entity are told by their prefix.
def forgetEntity (s : CpuCache) (entityId : String) : CpuCache :=
  let ofEntity := startsWith (entityId ++ "/")
  { s with
    permanentFailures := s.permanentFailures.retain fun key _ => !ofEntity key
    transientFailures := s.transientFailures.retain fun key _ => !ofEntity key
    inFlightChunkMeta := s.inFlightChunkMeta.retain fun key _ => !ofEntity key
    activeEntityIds := s.activeEntityIds.filter (· ≠ entityId)
    activeEntityIdsThisRebuild := s.activeEntityIdsThisRebuild.filter (· ≠ entityId)
    targetLevelByEntity := s.targetLevelByEntity.erase entityId }

def cancelDataset (limits : SchedulerConfig) (m : Moment) (datasetId : String) (entityIds : List String) (s : CpuCache) : CpuCache :=
  let s := s.withChunks (s.chunkScheduler.cancelWhere limits chunkSchedulerKey (fun req _ _ => req.entityId ∈ entityIds) m.now).1
  let s := s.withProxies (s.proxyScheduler.cancelWhere limits inFlightProxyKey (fun req _ _ => req.datasetId = datasetId) m.now).1
  let s := { s with
    stores := ⟨s.stores.chunkStore.cancelDataset entityIds,s.stores.overviewStore.cancelDataset entityIds⟩
    proxyStore := s.proxyStore.cancelDataset datasetId }
  let s := entityIds.foldl forgetEntity s
  { s with inFlightProxyMeta := s.inFlightProxyMeta.retain fun key _ => !startsWith (datasetId ++ "|") key }

def markRejected (limits : SchedulerConfig) (m : Moment) (entityId chunkKey : String) (s : CpuCache) : CpuCache :=
  if (entityId,chunkKey) ∈ s.rejectedKeys then s
  else
    let s := { s with rejectedKeys := s.rejectedKeys ++ [(entityId,chunkKey)] }
    s.cancelChunkWorkWhere limits m fun req => req.entityId = entityId ∧ req.chunkKey = chunkKey

-- The desired keys of the tick are kept.
def reset (s : CpuCache) : CpuCache :=
  let s := (s.withChunks s.chunkScheduler.reset).withProxies s.proxyScheduler.reset
  let policy := s.mainPolicy
  let chunkStore := s.stores.chunkStore.reset
  let overviewStore := s.stores.overviewStore.reset
  { s with
    stores := ⟨chunkStore.setBudgetBytes policy s.config.mainBudgetBytes,overviewStore.setBudgetBytes .lru s.config.overviewBudgetBytes⟩
    proxyStore := s.proxyStore.reset
    activeEntityIds := []
    activeEntityIdsThisRebuild := []
    targetLevelByEntity := .empty
    viewCoarseKeysThisTick := []
    epochHistory := []
    permanentFailures := .empty
    transientFailures := .empty
    rejectedKeys := []
    inFlightChunkMeta := .empty
    inFlightProxyMeta := .empty
    lruCounter := 0
    currentSubmitTick := 0 }

end Removal

section Attempts

def park (controller : Nat) (attempt : ChunkAttempt) (s : CpuCache) : CpuCache := { s with attempts := s.attempts.insert controller attempt }

def failChunk (m : Moment) (key : String) (controller : Nat) (isPermanent : Bool) (s : CpuCache) : CpuCache :=
  let (s,owned) := s.settleChunk key controller
  if owned then s.recordFailure m key isPermanent else s

-- `fetchAndDecode` after `source.fetch`.
def fetchContinues (limits : SchedulerConfig) (m : Moment) (controller : Nat) (attempt : ChunkAttempt) (outcome : FetchOutcome) (s : CpuCache) : CpuCache :=
  match outcome with
  | .error .abort => (s.settleChunk attempt.key controller).1
  | .error .pending =>
    let (s,owned) := s.settleChunk attempt.key controller
    if owned then s.drainSchedulers limits m else s
  | .error kind =>
    if shouldRetry kind attempt.retryCount then s.park controller { attempt with stage := .waiting }
    else s.failChunk m attempt.key controller (kind = .permanent)
  | .ok byteLength =>
    let scheduler :=
      if s.chunkScheduler.isCurrent attempt.key controller then s.chunkScheduler.correctInFlightBytes attempt.key byteLength
      else s.chunkScheduler
    { s with chunkScheduler := scheduler }.park controller { attempt with stage := .decoding }

-- `fetchAndDecode` after the wait before a retry: the key has to be in flight, whoever has it.
def waitEnds (controller : Nat) (attempt : ChunkAttempt) (s : CpuCache) : CpuCache :=
  if s.chunkScheduler.hasInFlight attempt.key then
    { s with issued := s.issued ++ [(attempt.key,controller)] }.park controller
      { attempt with retryCount := attempt.retryCount+1, stage := .fetching }
  else s

def maxSafeInteger : Number := 9007199254740991

def decodedEntry (attempt : ChunkAttempt) (byteLength : Nat) (s : CpuCache) : CacheEntry × Bool :=
  let latestMeta := s.inFlightChunkMeta.get? attempt.key
  let effectiveReq := (latestMeta.map InFlightMeta.request).getD attempt.request
  let metaEpochs := (latestMeta.map InFlightMeta.epochs).getD attempt.startedEpochs
  let stale := latestMeta.all fun found => found.lastSeenTick ≠ s.currentSubmitTick ∨ isEpochStale metaEpochs s.currentEpochs
  let lastSeenTick : Number := if stale then -1 else s.currentSubmitTick
  let lane := s.resolveDemandLane effectiveReq.lane attempt.key
  let tier := if stale then .demotedDetail else laneToTier lane
  let priority := if stale then maxSafeInteger else effectiveReq.priority
  (⟨byteLength,lane,tier,effectiveReq.entityId,effectiveReq.level,effectiveReq.chunkKey,s.lruCounter,effectiveReq.tier,priority,lastSeenTick⟩,stale)

-- A stale entry does not evict others.
def insertDecoded (entry : CacheEntry) (stale : Bool) (s : CpuCache) : CpuCache :=
  if usesOverviewStore entry.lane then
    if stale ∧ s.stores.overviewStore.bytes+entry.sizeBytes > s.stores.overviewStore.budgetBytes then s
    else { s with stores := { s.stores with overviewStore := s.stores.overviewStore.insert .lru entry } }
  else if stale ∧ s.stores.chunkStore.bytes+entry.sizeBytes > s.stores.chunkStore.budgetBytes then s
  else { s with stores := { s.stores with chunkStore := s.stores.chunkStore.insert s.mainPolicy entry } }

def storeDecoded (controller : Nat) (attempt : ChunkAttempt) (byteLength : Nat) (s : CpuCache) : CpuCache :=
  let (entry,stale) := s.decodedEntry attempt byteLength
  let (s,owned) := s.settleChunk attempt.key controller
  let s := if owned then s.clearFailure attempt.key else s
  { s with lruCounter := s.lruCounter+1 }.insertDecoded entry stale

-- `fetchAndDecode` after the decode, which fails or gives its bytes.
def decodeContinues (limits : SchedulerConfig) (m : Moment) (controller : Nat) (attempt : ChunkAttempt) (decoded : Option Nat) (s : CpuCache) : CpuCache :=
  match decoded with
  | none => s.failChunk m attempt.key controller false
  | some byteLength => (s.storeDecoded controller attempt byteLength).drainSchedulers limits m

def storeProxy (controller : Nat) (attempt : ProxyAttempt) (responseBytes : Nat) (s : CpuCache) : CpuCache :=
  let scheduler :=
    if s.proxyScheduler.isCurrent attempt.key controller then s.proxyScheduler.correctInFlightBytes attempt.key responseBytes
    else s.proxyScheduler
  let latestMeta := s.inFlightProxyMeta.get? attempt.key
  let effectiveReq := (latestMeta.map InFlightMeta.request).getD attempt.request
  let lastSeenTick := (latestMeta.map InFlightMeta.lastSeenTick).getD s.currentSubmitTick
  let entry : ProxyCacheEntry :=
    ⟨responseBytes,effectiveReq.datasetId,effectiveReq.entityId,effectiveReq.kind,effectiveReq.t,effectiveReq.c,s.lruCounter,
      effectiveReq.priority,lastSeenTick⟩
  let s := { s with
    proxyScheduler := scheduler
    lruCounter := s.lruCounter+1
    proxyStore := s.proxyStore.insert effectiveReq.datasetId (proxyInnerKey effectiveReq.entityId effectiveReq.kind effectiveReq.t effectiveReq.c) entry }
  (s.settleProxy attempt.key controller).1

-- `fetchProxy` after `source.fetchProxy`. `NeverRetry` never retries.
def proxyContinues (limits : SchedulerConfig) (m : Moment) (controller : Nat) (attempt : ProxyAttempt) (outcome : FetchOutcome) (s : CpuCache) : CpuCache :=
  match outcome with
  | .error _ => (s.settleProxy attempt.key controller).1
  | .ok responseBytes => (s.storeProxy controller attempt responseBytes).drainSchedulers limits m

end Attempts

-- What happens to the cache between two returns to the event loop.
inductive Event where
  | submit (plan : RequestPlan)
  | onPlanRebuildStart
  | cancelDataset (datasetId : String) (entityIds : List String)
  | markRejected (entityId chunkKey : String)
  | clearRejected
  | updateConfig (config : TierBudgets)
  | reset
  | fetchSettles (controller : Nat) (outcome : FetchOutcome)
  | fetchContinues (controller : Nat)
  | waitEnds (controller : Nat)
  | decodeContinues (controller : Nat) (decoded : Option Nat)
  | proxySettles (controller : Nat) (outcome : FetchOutcome)
  | proxyContinues (controller : Nat)
  deriving DecidableEq, Repr

-- The attempt that goes on is taken out, and stands again where it awaits the next thing.
def take (controller : Nat) (s : CpuCache) : CpuCache := { s with attempts := s.attempts.erase controller }

def takeProxy (controller : Nat) (s : CpuCache) : CpuCache := { s with proxyAttempts := s.proxyAttempts.erase controller }

def next (limits : SchedulerConfig) (m : Moment) (s : CpuCache) : Event → Option CpuCache
  | .submit plan => some (s.submit limits m plan)
  | .onPlanRebuildStart => some (s.onPlanRebuildStart limits m)
  | .cancelDataset datasetId entityIds => some (s.cancelDataset limits m datasetId entityIds)
  | .markRejected entityId chunkKey => some (s.markRejected limits m entityId chunkKey)
  | .clearRejected => some { s with rejectedKeys := [] }
  | .updateConfig config => some { s with config := config }.applyElasticTierBudgets
  | .reset => some s.reset
  | .fetchSettles controller outcome => (s.attempts.get? controller).bind fun attempt =>
    if attempt.stage = .fetching then some (s.park controller { attempt with stage := .settled outcome }) else none
  | .fetchContinues controller => (s.attempts.get? controller).bind fun attempt =>
    match attempt.stage with
    | .settled outcome => some ((s.take controller).fetchContinues limits m controller attempt outcome)
    | _ => none
  | .waitEnds controller => (s.attempts.get? controller).bind fun attempt =>
    if attempt.stage = .waiting then some ((s.take controller).waitEnds controller attempt) else none
  | .decodeContinues controller decoded => (s.attempts.get? controller).bind fun attempt =>
    if attempt.stage = .decoding then some ((s.take controller).decodeContinues limits m controller attempt decoded) else none
  | .proxySettles controller outcome => (s.proxyAttempts.get? controller).bind fun attempt =>
    if attempt.outcome = none then
      some { s with proxyAttempts := s.proxyAttempts.insert controller { attempt with outcome := some outcome } }
    else none
  | .proxyContinues controller => (s.proxyAttempts.get? controller).bind fun attempt =>
    attempt.outcome.map fun outcome => (s.takeProxy controller).proxyContinues limits m controller attempt outcome

end CpuCache
end Lucida.Web
