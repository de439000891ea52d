import Mathlib.Data.Finset.Basic
import Lucida.Lib.IndexMap
import Lucida.Lib.Text
import Lucida.Core.Document

namespace Lucida.Generated
open Content Core Lib

abbrev ClientId := Nat

inductive GeneratedSchedulingLane where
  | visible
  | predicted
  | background
  deriving DecidableEq, Repr

def GeneratedSchedulingLane.rank : GeneratedSchedulingLane → Nat
  | .visible => 0
  | .predicted => 1
  | .background => 2

structure GeneratedWorkKey where
  datasetId : DatasetId
  imageId : ImageId
  levelIndex : Nat
  key : String
  deriving DecidableEq, Repr

structure GeneratedWorkItem where
  workKey : GeneratedWorkKey
  lane : GeneratedSchedulingLane
  deriving DecidableEq, Repr

structure GeneratedChunkCoords where
  levelIndex : Nat
  t : Nat
  c : Nat
  z : Nat
  y : Nat
  x : Nat
  deriving DecidableEq, Repr

def chunkKey (coords : GeneratedChunkCoords) : String :=
  toString coords.levelIndex ++ "/" ++ toString coords.t ++ "/" ++ toString coords.c ++ "/" ++
    toString coords.z ++ "/" ++ toString coords.y ++ "/" ++ toString coords.x

def parseGeneratedChunkKey (key : String) : Option GeneratedChunkCoords :=
  match key.toList.splitOn '/' with
  | [level,t,c,z,y,x] => do
    some ⟨← parseUnsigned 32 level,← parseUnsigned 32 t,← parseUnsigned 32 c,
      ← parseUnsigned 64 z,← parseUnsigned 64 y,← parseUnsigned 64 x⟩
  | _ => none

-- A key is canonical when it spells its coordinates as `chunk_key` does.
def Canonical (key : String) : Prop := ∀ coords, parseGeneratedChunkKey key = some coords → chunkKey coords = key

instance : DecidablePred Canonical := fun key =>
  match parsed : parseGeneratedChunkKey key with
  | none => .isTrue (by simp [Canonical,parsed])
  | some coords => decidable_of_iff (chunkKey coords = key) (by simp [Canonical,parsed])

theorem splitOn_chunkKey (coords : GeneratedChunkCoords) :
    (chunkKey coords).toList.splitOn '/' = [Nat.toDigits 10 coords.levelIndex,Nat.toDigits 10 coords.t,
      Nat.toDigits 10 coords.c,Nat.toDigits 10 coords.z,Nat.toDigits 10 coords.y,Nat.toDigits 10 coords.x] := by
  have slashless : ∀ n, '/' ∉ Nat.toDigits 10 n := by
    intro n member
    have digit := Nat.isDigit_of_mem_toDigits (by decide) (by decide) member
    exact absurd digit (by decide)
  have slash : "/".toList = ['/'] := rfl
  simp only [chunkKey,String.toList_append,Nat.toString_eq_repr,Nat.toList_repr,slash,List.append_assoc,
    List.cons_append,List.nil_append]
  simp only [List.splitOn_append_cons_self_of_not_mem (slashless _),List.splitOn_eq_singleton (slashless _)]

theorem parse_chunkKey {coords read : GeneratedChunkCoords}
    (parsed : parseGeneratedChunkKey (chunkKey coords) = some read) : read = coords := by
  unfold parseGeneratedChunkKey at parsed
  rw [splitOn_chunkKey] at parsed
  simp only [parseUnsigned_toDigits,Option.bind_eq_bind,Option.bind_eq_some_iff,Option.filter_eq_some_iff] at parsed
  obtain ⟨_,⟨⟨⟩,_⟩,_,⟨⟨⟩,_⟩,_,⟨⟨⟩,_⟩,_,⟨⟨⟩,_⟩,_,⟨⟨⟩,_⟩,_,⟨⟨⟩,_⟩,⟨⟩⟩ := parsed
  rfl

theorem chunkKey_canonical (coords : GeneratedChunkCoords) : Canonical (chunkKey coords) :=
  fun _ parsed => by rw [parse_chunkKey parsed]

structure GeneratedCoarsePlan where
  datasetId : DatasetId
  imageId : ImageId
  levelIndex : Nat
  cacheIdentity : String
  shape : Axes Nat
  gridShape : Axes Nat
  deriving DecidableEq, Repr

def GeneratedCoarsePlan.chunkKeysForTc (plan : GeneratedCoarsePlan) (t c : Nat) : List String :=
  (List.range plan.gridShape.z).flatMap fun gz =>
    (List.range plan.gridShape.y).flatMap fun gy =>
      (List.range plan.gridShape.x).map fun gx => chunkKey ⟨plan.levelIndex,t,c,gz,gy,gx⟩

-- A timepoint or a channel that does not fit in 32 bits is passed over.
def GeneratedCoarsePlan.chunkKeysForAllTc (plan : GeneratedCoarsePlan) : List String :=
  ((List.range plan.shape.t).filter (· < 2^32)).flatMap fun t =>
    ((List.range plan.shape.c).filter (· < 2^32)).flatMap fun c => plan.chunkKeysForTc t c

def GeneratedCoarsePlan.workKey (plan : GeneratedCoarsePlan) (key : String) : GeneratedWorkKey :=
  ⟨plan.datasetId,plan.imageId,plan.levelIndex,key⟩

-- What a service is built with: the plans by image and level, the scheduling
-- configuration, and the image ids of the manifest.
structure Service where
  plans : IndexMap (ImageId × Nat) GeneratedCoarsePlan
  planned : ∀ entry ∈ plans.entries, entry.1 = (entry.2.imageId,entry.2.levelIndex)
  images : List ImageId
  concurrency : Nat
  perClientKeyCap : Nat
  backgroundChunkLimit : Nat
  backgroundTrickleWhenActive : Bool

def Service.plan (service : Service) (imageId : ImageId) (levelIndex : Nat) : Option GeneratedCoarsePlan :=
  service.plans.get? (imageId,levelIndex)

theorem Service.plan_names {service : Service} {plan : GeneratedCoarsePlan} (found : service.plan imageId levelIndex = some plan) :
    plan.imageId = imageId ∧ plan.levelIndex = levelIndex := by
  have names := service.planned _ (IndexMap.mem_entries_iff.mpr found)
  simp only [Prod.mk.injEq] at names
  exact ⟨names.1.symm,names.2.symm⟩

structure ViewerInterestChunkKey where
  imageId : ImageId
  key : String
  lane : GeneratedSchedulingLane
  deriving DecidableEq, Repr

structure ViewerInterestHint where
  datasetId : DatasetId
  desiredKeys : List ViewerInterestChunkKey
  predictedKeys : List ViewerInterestChunkKey
  timestampMs : Nat
  ttlMs : Nat
  deriving DecidableEq, Repr

structure GeneratedSchedulerState where
  shutdownReason : Option String
  interests : IndexMap (ClientId × DatasetId) ViewerInterestHint
  queued : List GeneratedWorkItem
  queuedKeys : IndexMap GeneratedWorkKey GeneratedSchedulingLane
  running : Finset GeneratedWorkKey
  completedKeys : Finset GeneratedWorkKey
  completed : Nat
  failed : Nat
  canceled : Nat
  deduped : Nat
  cacheReused : Nat
  readyBroadcasts : Nat

def GeneratedSchedulerState.default : GeneratedSchedulerState := ⟨none,.empty,[],.empty,∅,∅,0,0,0,0,0,0⟩

def saturatingAdd (a b : Nat) : Nat := min (a+b) (2^64-1)

def ViewerInterestHint.expired (hint : ViewerInterestHint) (nowMs : Nat) : Bool :=
  saturatingAdd hint.timestampMs hint.ttlMs < nowMs

namespace Service

def workKeyFromInterest (service : Service) (datasetId : DatasetId) (key : ViewerInterestChunkKey) :
    Option GeneratedWorkKey := do
  let coords ← parseGeneratedChunkKey key.key
  let plan ← service.plan key.imageId coords.levelIndex
  if plan.datasetId ≠ datasetId then none
  else some ⟨datasetId,key.imageId,coords.levelIndex,key.key⟩

def wantedWorkKeys (service : Service) (s : GeneratedSchedulerState) (nowMs : Nat) : List GeneratedWorkKey :=
  (s.interests.values.filter fun hint => !hint.expired nowMs).flatMap fun hint =>
    (hint.desiredKeys ++ hint.predictedKeys).filterMap (service.workKeyFromInterest hint.datasetId)

-- What `enqueue_background_fill` offers, plan by plan. A plan past the limit
-- still offers one key: the count is checked after the key is enqueued, and the
-- labelled break leaves only that plan.
def backgroundFill (service : Service) : List GeneratedWorkKey :=
  if service.backgroundChunkLimit = 0 then []
  else service.plans.values.foldl (fun offered plan =>
    offered ++ (plan.chunkKeysForAllTc.take (max 1 (service.backgroundChunkLimit-offered.length))).map plan.workKey) []

end Service

namespace GeneratedSchedulerState

-- `enqueue_work_locked`.
def enqueueWork (s : GeneratedSchedulerState) (workKey : GeneratedWorkKey) (lane : GeneratedSchedulingLane) :
    GeneratedSchedulerState :=
  if workKey ∈ s.completedKeys ∨ workKey ∈ s.running then {s with deduped := s.deduped+1}
  else match s.queuedKeys.get? workKey with
    | some existing =>
      if lane.rank < existing.rank then
        {s with
          queuedKeys := s.queuedKeys.insert workKey lane
          queued := updateFirst (·.workKey = workKey) (fun item => {item with lane}) s.queued
          deduped := s.deduped+1}
      else {s with deduped := s.deduped+1}
    | none =>
      {s with
        queuedKeys := s.queuedKeys.insert workKey lane
        queued := s.queued ++ [⟨workKey,lane⟩]}

def enqueueInterest (service : Service) (s : GeneratedSchedulerState) (hint : ViewerInterestHint) :
    GeneratedSchedulerState :=
  let admitted := ((hint.desiredKeys ++ hint.predictedKeys).filterMap fun key =>
    (service.workKeyFromInterest hint.datasetId key).map fun workKey => (workKey,key.lane)).take
      service.perClientKeyCap
  admitted.foldl (fun s offer => s.enqueueWork offer.1 offer.2) s

def expireInterests (s : GeneratedSchedulerState) (nowMs : Nat) : GeneratedSchedulerState :=
  {s with interests := s.interests.retain fun _ hint => !hint.expired nowMs}

def pruneStaleQueued (service : Service) (s : GeneratedSchedulerState) (nowMs : Nat) : GeneratedSchedulerState :=
  let wanted := service.wantedWorkKeys s nowMs
  let keep (item : GeneratedWorkItem) := item.lane = .background ∨ item.workKey ∈ wanted
  let dropped := s.queued.filter fun item => ¬ keep item
  {s with
    queued := s.queued.filter fun item => keep item
    queuedKeys := dropped.foldl (fun keys item => keys.erase item.workKey) s.queuedKeys
    canceled := s.canceled+dropped.length}

-- One turn of the search for the best queued item: the first of the lowest rank,
-- passing over background work while anything else is queued.
def betterIdx (waits : Bool) (best : Option (Nat × GeneratedSchedulingLane)) (entry : GeneratedWorkItem × Nat) :
    Option (Nat × GeneratedSchedulingLane) :=
  if entry.1.lane = .background ∧ waits then best
  else match best with
    | none => some (entry.2,entry.1.lane)
    | some (_,lane) => if entry.1.lane.rank < lane.rank then some (entry.2,entry.1.lane) else best

def bestIdx (service : Service) (queued : List GeneratedWorkItem) : Option Nat :=
  let hasActive := queued.any (·.lane ≠ .background)
  (queued.zipIdx.foldl (betterIdx (hasActive && !service.backgroundTrickleWhenActive)) none).map Prod.fst

-- The loop of `pop_next_work_item`. Every turn takes one item off the queue, so
-- its length bounds the turns.
def popBest (service : Service) : Nat → GeneratedSchedulerState → GeneratedSchedulerState × Option GeneratedWorkItem
  | 0,s => (s,none)
  | turns+1,s =>
    match (bestIdx service s.queued).bind fun idx => (s.queued[idx]?).map fun item => (idx,item) with
    | none => (s,none)
    | some (idx,item) =>
      let popped := {s with
        queued := s.queued.eraseIdx idx
        queuedKeys := s.queuedKeys.erase item.workKey}
      if item.workKey ∈ popped.completedKeys then popBest service turns popped
      else ({popped with running := insert item.workKey popped.running},some item)

-- The clock is read twice.
def popNextWorkItem (service : Service) (s : GeneratedSchedulerState) (nowMs laterMs : Nat) :
    GeneratedSchedulerState × Option GeneratedWorkItem :=
  if s.shutdownReason.isSome then (s,none)
  else
    let pruned := (s.expireInterests nowMs).pruneStaleQueued service laterMs
    popBest service (pruned.queued.length+1) pruned

def applyViewerInterest (service : Service) (s : GeneratedSchedulerState) (client : ClientId)
    (hint : ViewerInterestHint) (nowMs : Nat) : GeneratedSchedulerState :=
  if s.shutdownReason.isSome then s
  else
    let expired := s.expireInterests nowMs
    let noted := {expired with interests := expired.interests.insert (client,hint.datasetId) hint}
    (noted.enqueueInterest service hint).pruneStaleQueued service nowMs

def removeClientInterest (service : Service) (s : GeneratedSchedulerState) (client : ClientId) (nowMs : Nat) :
    GeneratedSchedulerState :=
  if s.shutdownReason.isSome then s
  else {s with interests := s.interests.retain fun owner _ => owner.1 ≠ client}.pruneStaleQueued service nowMs

-- `enqueue_work`.
def request (s : GeneratedSchedulerState) (workKey : GeneratedWorkKey) (lane : GeneratedSchedulingLane) :
    GeneratedSchedulerState :=
  if s.shutdownReason.isSome then s else s.enqueueWork workKey lane

def shutdown (s : GeneratedSchedulerState) (reason : String) : GeneratedSchedulerState :=
  if s.shutdownReason.isSome then s
  else {s with
    shutdownReason := some reason
    canceled := saturatingAdd s.canceled s.queued.length
    interests := .empty
    queued := []
    queuedKeys := .empty}

end GeneratedSchedulerState
end Lucida.Generated
