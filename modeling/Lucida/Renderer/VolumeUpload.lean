import Lucida.Renderer.ProxyResidency
import Lucida.Renderer.VolumeSections

namespace Lucida.Renderer
open Lib
open Server (Zyx)
open Web (Number ResidencyTier SceneEpochs)
open Web.Planning (Platform VisibleRegion Xyz)

-- The data are bytes.
structure Chunk where
  data : List Nat
  dataType : String
  x : Nat
  y : Nat
  z : Nat
  key : String
  deriving DecidableEq, Repr

structure VolumeChunkData where
  epochs : SceneEpochs
  tier : ResidencyTier
  memberId : String
  chunks : List Chunk
  level : Nat
  levelDims : Zyx
  chunk : Zyx
  deriving DecidableEq, Repr

def isUint8 (dataType : String) : Bool := dataType = "uint8" ∨ dataType = "Uint8"

def words16 : List Nat → List Nat
  | low::high::rest => (low+256*high)::words16 rest
  | _ => []

def asUint16 (buf : List Nat) (dataType : String) : Except String (List Nat) :=
  if isUint8 dataType then .ok buf
  else if buf.length % 2 ≠ 0 then
    .error ("asUint16: buffer byteLength " ++ toString buf.length ++ " is not a multiple of 2 " ++
      "(server likely returned a compressed or wrong-shape chunk)")
  else .ok (words16 buf)

-- The samples taken: the first alone where none may be taken.
def sampled (data : List Nat) (maxSamples : Nat) : List Nat :=
  let step := if maxSamples = 0 then data.length else max 1 (data.length/maxSamples)
  (List.range ((data.length+step-1)/step)).map fun i => data.getD (i*step) 0

def sampleIntensityRange (data : List Nat) (maxSamples : Nat) : Nat × Nat :=
  ((sampled data maxSamples).foldl min 65535,(sampled data maxSamples).foldl max 0)

inductive ChunkFeedbackReason where
  | evicted
  | stale
  | missingPool
  | missingEntityMeta
  | missingLodMeta
  | radiusFilter
  | atlasPolicy
  deriving DecidableEq, Repr

inductive WorkerPost where
  | chunksEvicted (memberId : String) (keys skipped : List String) (reason : ChunkFeedbackReason)
  | intensityRange (datasetId : String) (low high : Nat)
  | wantedSet (datasetId : Option String)
  deriving DecidableEq, Repr

def postChunksRequeued (memberId : String) (keys : List String) (reason : ChunkFeedbackReason) : List WorkerPost :=
  if keys = [] then [] else [.chunksEvicted memberId keys [] reason]

def postChunksRejected (memberId : String) (skipped : List String) : List WorkerPost :=
  if skipped = [] then [] else [.chunksEvicted memberId [] skipped .atlasPolicy]

def findEntryForMember (cold : ColdStateMessage) (memberId : String) : Option ColdStateActiveEntry :=
  ((iterateColdMembers cold).find? (·.2 = memberId)).map (·.1)

def rayHitForMember (s : VolumeState) (memberId : String) : Xyz := (s.rayHitPerEntity.get? memberId).getD ⟨1/2,1/2,1/2⟩

def volumeFarthestParams (s : VolumeState) (atlas : AtlasState) : FindFarthestParams :=
  ⟨atlas.slots,atlas.slotGridIdx,atlas.entityMetas,rayHitForMember s,fun memberId => s.targetLevelByMember.get? memberId,true⟩

section
variable (platform : Platform)

def chunkAllowedByCurrentRenderRadius (s : VolumeState) (msg : VolumeChunkData) (chunk : Chunk) : Bool :=
  match s.currentColdState with
  | none => true
  | some cold =>
    let radiusView := (cold.renderRadiusView.map (· msg.tier)).getD 2
    match findEntryForMember cold msg.memberId with
    | none => true
    | some entry =>
      if entry.kind = .groupAsProxy then true
      else chunkPassesRenderRadius platform cold.visibleRegion radiusView ⟨entry.layoutPositionVox,entry.levels⟩ (some (msg.level : Int))
        (some ⟨chunk.x,chunk.y,chunk.z⟩)

structure TakenSlot where
  slotIndex : Nat
  evicted : Option String
  deriving DecidableEq, Repr

-- A pool grows only once every slot it has holds a chunk.
def makeRoom (atlas : AtlasState) : AtlasState :=
  if atlas.freeSlots = [] ∧ atlas.totalSlots ≤ atlas.slots.keys.length then (growVolumeAtlas atlas).getD atlas else atlas

def evictSlot (atlas : AtlasState) (evictKey : String) : AtlasState × Nat :=
  let slotIndex := (atlas.slots.get? evictKey).getD 0
  let oldGridIdx := (atlas.slotGridIdx[slotIndex]?).getD (-1)
  ({atlas with
    slots := atlas.slots.erase evictKey
    indirectionData := if 0 ≤ oldGridIdx then atlas.indirectionData.set oldGridIdx.toNat emptyCell else atlas.indirectionData},slotIndex)

def takeSlot (s : VolumeState) (atlas : AtlasState) (memberId : String) (lodMeta : LodIndirectionMeta) (chunk : Chunk) :
    AtlasState × Option TakenSlot :=
  match atlas.freeSlots with
  | slotIndex::freeSlots => ({atlas with freeSlots := freeSlots},some ⟨slotIndex,none⟩)
  | [] =>
    match findFarthestSlot (volumeFarthestParams s atlas) with
    | (none,_) => (atlas,none)
    | (some evictKey,farthestDist) =>
      -- Equal distance replaces: after a scrub the new chunk is often of the same cell.
      if farthestDist < (chunkDistSq lodMeta chunk.x chunk.y (some (chunk.z : Number)) (rayHitForMember s memberId) : WithTop Number) then (atlas,none)
      else
        let (atlas,slotIndex) := evictSlot atlas evictKey
        (atlas,some ⟨slotIndex,some evictKey⟩)

def clampedDims (msg : VolumeChunkData) (chunk : Chunk) : Zyx :=
  ⟨min msg.chunk.z (msg.levelDims.z-chunk.z*msg.chunk.z),min msg.chunk.y (msg.levelDims.y-chunk.y*msg.chunk.y),
    min msg.chunk.x (msg.levelDims.x-chunk.x*msg.chunk.x)⟩

def writeSlot (atlas : AtlasState) (msg : VolumeChunkData) (lodMeta : LodIndirectionMeta) (chunk : Chunk) (slotIndex : Nat) (data : List Nat) :
    AtlasState :=
  let cell := lodMeta.offset+chunk.z*lodMeta.gridDims.y*lodMeta.gridDims.x+chunk.y*lodMeta.gridDims.x+chunk.x
  let within : Bool := cell < atlas.indirectionData.length
  {atlas with
    texture := atlas.texture.write (tileOrigin msg.chunk (slotTile atlas.slotsX atlas.slotsY slotIndex)) data msg.chunk.y msg.chunk.x (clampedDims msg chunk)
    indirectionData := if within then atlas.indirectionData.set cell slotIndex else atlas.indirectionData
    slotGridIdx := if within then atlas.slotGridIdx.set slotIndex cell else atlas.slotGridIdx
    slots := atlas.slots.insert (makeCompositeKey msg.memberId chunk.key) slotIndex
    indirectionDirty := true}

structure UploadWalk where
  atlas : AtlasState
  evictedKeys : List String
  radiusFilteredKeys : List String
  intensityChanged : Bool

def widenIntensity (walk : UploadWalk) (range : Nat × Nat) : UploadWalk :=
  {walk with
    atlas := {walk.atlas with intensityMin := min walk.atlas.intensityMin range.1, intensityMax := max walk.atlas.intensityMax range.2}
    intensityChanged := walk.intensityChanged || range.1 < walk.atlas.intensityMin || walk.atlas.intensityMax < range.2}

-- `asUint16` throws its text, `writeTexture` a type error at a negative size.
inductive UploadError where
  | unreadable (text : String)
  | negativeSize
  deriving DecidableEq, Repr

def startsPast (msg : VolumeChunkData) (chunk : Chunk) : Bool :=
  msg.levelDims.z < chunk.z*msg.chunk.z ∨ msg.levelDims.y < chunk.y*msg.chunk.y ∨ msg.levelDims.x < chunk.x*msg.chunk.x

-- Both are thrown with the slot already taken.
def uploadChunk (s : VolumeState) (msg : VolumeChunkData) (lodMeta : LodIndirectionMeta) (walk : UploadWalk) (chunk : Chunk) :
    UploadWalk × Option UploadError :=
  if !chunkAllowedByCurrentRenderRadius platform s msg chunk then ({walk with radiusFilteredKeys := walk.radiusFilteredKeys ++ [chunk.key]},none)
  else if walk.atlas.slots.contains (makeCompositeKey msg.memberId chunk.key) then (walk,none)
  else match takeSlot s (makeRoom walk.atlas) msg.memberId lodMeta chunk with
  | (atlas,none) => ({walk with atlas := atlas},none)
  | (atlas,some taken) =>
    let walk := {walk with atlas := atlas, evictedKeys := walk.evictedKeys ++ taken.evicted.toList}
    match asUint16 chunk.data chunk.dataType with
    | .error text => (walk,some (.unreadable text))
    | .ok data =>
      if startsPast msg chunk then (walk,some .negativeSize)
      else
        (widenIntensity {walk with atlas := writeSlot walk.atlas msg lodMeta chunk taken.slotIndex data}
          (sampleIntensityRange data (100000/max 1 msg.chunks.length)),none)

def uploadChunks (s : VolumeState) (msg : VolumeChunkData) (lodMeta : LodIndirectionMeta) :
    UploadWalk → List Chunk → UploadWalk × Option UploadError
  | walk,[] => (walk,none)
  | walk,chunk::rest =>
    match uploadChunk platform s msg lodMeta walk chunk with
    | (walk,some error) => (walk,some error)
    | (walk,none) => uploadChunks s msg lodMeta walk rest

def groupEvicted (evictedKeys : List String) : IndexMap String (List String) :=
  evictedKeys.foldl (fun groups key => match parseCompositeKey key with
    | none => groups
    | some (memberId,chunkKey) => groups.upsert memberId fun keys => keys.getD [] ++ [chunkKey]) .empty

def skippedOf (msg : VolumeChunkData) (walk : UploadWalk) : List String :=
  ((msg.chunks.map (·.key)).filter (· ∉ walk.radiusFilteredKeys)).filter fun key => !walk.atlas.slots.contains (makeCompositeKey msg.memberId key)

def uploadPosts (s : VolumeState) (msg : VolumeChunkData) (walk : UploadWalk) : List WorkerPost :=
  let skippedKeys := skippedOf msg walk
  (if walk.evictedKeys ≠ [] ∨ skippedKeys ≠ [] ∨ walk.radiusFilteredKeys ≠ [] then
    (groupEvicted walk.evictedKeys).entries.map (fun group => WorkerPost.chunksEvicted group.1 group.2 [] .evicted) ++
      postChunksRejected msg.memberId skippedKeys ++ postChunksRequeued msg.memberId walk.radiusFilteredKeys .radiusFilter ++
      [.wantedSet (s.memberToDataset.get? msg.memberId)]
  else []) ++
    if walk.intensityChanged then [.intensityRange msg.memberId walk.atlas.intensityMin walk.atlas.intensityMax] else []

structure UploadOutcome where
  state : VolumeState
  posts : List WorkerPost
  thrown : Option UploadError

def routedPool (s : VolumeState) (msg : VolumeChunkData) : Option String :=
  (s.memberSourcePools.get? msg.memberId).bind (·.get? (sourceKey msg.tier msg.level))

-- `volumeChunkData` as the dispatcher hands it on.
def handleVolumeChunkData (s : VolumeState) (msg : VolumeChunkData) : UploadOutcome :=
  let requeue (reason : ChunkFeedbackReason) : UploadOutcome := ⟨s,postChunksRequeued msg.memberId (msg.chunks.map (·.key)) reason,none⟩
  match routedPool s msg with
  | none => requeue .missingPool
  | some poolKey =>
    if isStaleDelivery msg.epochs s.currentEpochs then requeue .stale
    else match s.volumeAtlases.get? poolKey with
    | none => requeue .missingPool
    | some atlas =>
      match atlas.entityMetas.get? msg.memberId with
      | none => requeue .missingEntityMeta
      | some entityLodMetas =>
        match entityLodMetas.find? (·.level = msg.level) with
        | none => requeue .missingLodMeta
        | some lodMeta =>
          match uploadChunks platform s msg lodMeta ⟨atlas,[],[],false⟩ msg.chunks with
          | (walk,some error) => ⟨{s with volumeAtlases := s.volumeAtlases.insert poolKey walk.atlas},[],some error⟩
          | (walk,none) => ⟨{s with volumeAtlases := s.volumeAtlases.insert poolKey walk.atlas},uploadPosts s msg walk,none⟩

end

-- `removeLayerResources`, as far as the chunk pools go: a pool goes only where its key is
-- the id given.
def removeLayerChunks (s : VolumeState) (datasetId : String) : VolumeState :=
  let kept (memberId : String) : Bool := s.memberToDataset.get? memberId ≠ some datasetId
  { volumeAtlases := s.volumeAtlases.erase datasetId
    memberToDataset := s.memberToDataset.retain fun memberId _ => kept memberId
    memberSourcePools := s.memberSourcePools.retain fun memberId _ => kept memberId
    targetLevelByMember := s.targetLevelByMember.retain fun memberId _ => kept memberId
    rayHitPerEntity := s.rayHitPerEntity.erase datasetId
    currentEpochs := s.currentEpochs
    currentColdState := s.currentColdState.filter (·.datasetId ≠ datasetId) }

def applyViewHotState (s : VolumeState) (rayHitsByEntity : List (String × Xyz)) : VolumeState :=
  {s with rayHitPerEntity := rayHitsByEntity.foldl (fun hits hit => hits.insert hit.1 hit.2) s.rayHitPerEntity}

inductive VolumeEvent where
  | coldState (msg : ColdStateMessage)
  | chunkData (msg : VolumeChunkData)
  | viewHotState (rayHitsByEntity : List (String × Xyz))
  | removeLayer (datasetId : String)

def handleVolumeEvent (device : VolumeDevice) (platform : Platform) (s : VolumeState) : VolumeEvent → VolumeState
  | .coldState msg => applyColdStateChunks device platform s msg
  | .chunkData msg => (handleVolumeChunkData platform s msg).state
  | .viewHotState rayHitsByEntity => applyViewHotState s rayHitsByEntity
  | .removeLayer datasetId => removeLayerChunks s datasetId

def runVolumeEvents (device : VolumeDevice) (platform : Platform) (events : List VolumeEvent) : VolumeState :=
  events.foldl (handleVolumeEvent device platform) .initial

end Lucida.Renderer
