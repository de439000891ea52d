import Lucida.Renderer.VolumeAtlas
import Lucida.Web.CpuCache

namespace Lucida.Renderer
open Lib
open Server (Zyx)
open Web (Number ResidencyTier SceneEpochs)
open Web.Planning (Platform VisibleRegion Xyz)

inductive ColdEntryKind where
  | tile (imageId : String) (detailLevels : List Nat) (coarseLevel : Option Nat)
  | groupAsProxy
  deriving DecidableEq, Repr

structure ColdStateActiveEntry where
  entityId : String
  kind : ColdEntryKind
  layoutPositionVox : Option (Number × Number)
  levels : List ColdLevel
  deriving DecidableEq, Repr

inductive ViewMode where
  | slice
  | volume
  deriving DecidableEq, Repr

-- What the chunk pools read of a cold state.
structure ColdStateMessage where
  epochs : SceneEpochs
  datasetId : String
  currentT : Nat
  multiChannel : Bool
  visibleChannels : List Nat
  visibleRegion : VisibleRegion
  renderRadiusView : Option (ResidencyTier → Number)
  activeSet : List ColdStateActiveEntry
  viewMode : ViewMode

structure VolumeState where
  volumeAtlases : IndexMap String AtlasState
  memberToDataset : IndexMap String String
  memberSourcePools : IndexMap String (IndexMap String String)
  targetLevelByMember : IndexMap String Nat
  rayHitPerEntity : IndexMap String Xyz
  currentEpochs : Option SceneEpochs
  currentColdState : Option ColdStateMessage

def VolumeState.initial : VolumeState := ⟨.empty,.empty,.empty,.empty,.empty,none,none⟩

def tierName : ResidencyTier → String
  | .detail => "detail"
  | .coarse => "coarse"

def chunkPoolKey (datasetId : String) (channel : Option Nat) (mode : ViewMode) (chunk : Zyx) (isMultiCh : Bool) : String :=
  let chunkDimsKey := match mode with
    | .volume => toString chunk.x ++ "x" ++ toString chunk.y ++ "x" ++ toString chunk.z
    | .slice => toString chunk.x ++ "x" ++ toString chunk.y
  match isMultiCh,channel with
  | true,some channel => datasetId ++ ":ch" ++ toString channel ++ ":" ++ chunkDimsKey
  | _,_ => datasetId ++ ":" ++ chunkDimsKey

def chunkTierPoolKey (datasetId : String) (tier : ResidencyTier) (channel : Option Nat) (mode : ViewMode) (chunk : Zyx) (isMultiCh : Bool) : String :=
  chunkPoolKey datasetId channel mode chunk isMultiCh ++ ":" ++ tierName tier

def sourceKey (tier : ResidencyTier) (level : Nat) : String := tierName tier ++ ":" ++ toString level

def targetLevelOf (entry : ColdStateActiveEntry) : Option Nat :=
  match entry.kind with
  | .tile _ detailLevels _ => detailLevels.head?
  | .groupAsProxy => none

-- At most as many as a descriptor has level sources.
def detailTierLevels (entry : ColdStateActiveEntry) : List Nat :=
  match targetLevelOf entry with
  | none => []
  | some target => (((entry.levels.map (·.level)).filter (target ≤ ·)).mergeSort fun a b => a ≤ b).take 4

def tierSourcesForEntry (entry : ColdStateActiveEntry) : List (ResidencyTier × Nat) :=
  match entry.kind with
  | .groupAsProxy => []
  | .tile _ _ coarseLevel => (detailTierLevels entry).map (.detail,·) ++ coarseLevel.toList.map (.coarse,·)

def memberIdForColdEntry (entry : ColdStateActiveEntry) (channel : Option Nat) (multiChannel : Bool) : String :=
  let base := match entry.kind with
    | .groupAsProxy => entry.entityId
    | .tile imageId _ _ => imageId
  match multiChannel,channel with
  | true,some channel => base ++ ":ch" ++ toString channel
  | _,_ => base

def iterateColdMembers (cold : ColdStateMessage) : List (ColdStateActiveEntry × String) :=
  cold.activeSet.flatMap fun entry => cold.visibleChannels.map fun channel => (entry,memberIdForColdEntry entry (some channel) cold.multiChannel)

structure PoolEntry where
  entry : ColdStateActiveEntry
  memberId : String
  tier : ResidencyTier
  level : Nat
  deriving DecidableEq, Repr

structure PoolGroup where
  poolKey : String
  tier : ResidencyTier
  channel : Option Nat
  chunkDims : Zyx
  entries : List PoolEntry
  deriving DecidableEq, Repr

-- A slice pool has chunks one plane deep.
def addToPool (cold : ColdStateMessage) (channel : Option Nat) (entry : ColdStateActiveEntry) (groups : IndexMap String PoolGroup)
    (source : ResidencyTier × Nat) : IndexMap String PoolGroup :=
  match entry.levels.find? (·.level = source.2) with
  | none => groups
  | some levelMeta =>
    let poolKey := chunkTierPoolKey cold.datasetId source.1 channel cold.viewMode levelMeta.chunkShape cold.multiChannel
    let dims := match cold.viewMode with
      | .volume => levelMeta.chunkShape
      | .slice => ⟨1,levelMeta.chunkShape.y,levelMeta.chunkShape.x⟩
    let group := (groups.get? poolKey).getD ⟨poolKey,source.1,channel,dims,[]⟩
    groups.insert poolKey {group with entries := group.entries ++ [⟨entry,memberIdForColdEntry entry channel cold.multiChannel,source.1,source.2⟩]}

-- Without several channels the first visible one stands for all.
def poolChannels (cold : ColdStateMessage) : List (Option Nat) :=
  if cold.multiChannel then cold.visibleChannels.map some else [cold.visibleChannels.head?]

def groupEntriesByPool (cold : ColdStateMessage) : IndexMap String PoolGroup :=
  (poolChannels cold).foldl (fun groups channel => cold.activeSet.foldl (fun groups entry =>
    (tierSourcesForEntry entry).foldl (addToPool cold channel entry) groups) groups) .empty

def computeEntityTierMeta (entry : ColdStateActiveEntry) (level : Nat) (poolChunkDims : Zyx) (startOffset : Nat) (mode : ViewMode) :
    Option LodIndirectionMeta × Nat :=
  match entry.levels.find? (·.level = level) with
  | none => (none,startOffset)
  | some lm =>
    let fits : Bool := match mode with
      | .volume => lm.chunkShape = poolChunkDims
      | .slice => lm.chunkShape.x = poolChunkDims.x ∧ lm.chunkShape.y = poolChunkDims.y
    if fits then
      (some ⟨level,lm.gridShape,lm.chunkShape,lm.levelDims,startOffset⟩,
        match mode with
        | .volume => startOffset+lm.gridShape.x*lm.gridShape.y*lm.gridShape.z
        | .slice => startOffset+lm.gridShape.x*lm.gridShape.y)
    else (none,startOffset)

structure PoolLayout where
  entityMetas : IndexMap String (List LodIndirectionMeta)
  entryByMember : IndexMap String RemapEntryInfo
  memberSourcePools : IndexMap String (IndexMap String String)
  offset : Nat

def layOutEntry (group : PoolGroup) (mode : ViewMode) (walk : PoolLayout) (item : PoolEntry) : PoolLayout :=
  let entryByMember := walk.entryByMember.insert item.memberId ⟨item.entry.layoutPositionVox,item.entry.levels⟩
  match computeEntityTierMeta item.entry item.level group.chunkDims walk.offset mode with
  | (none,nextOffset) => {walk with entryByMember := entryByMember, offset := nextOffset}
  | (some lod,nextOffset) =>
    ⟨walk.entityMetas.upsert item.memberId fun metas => metas.getD [] ++ [lod],entryByMember,
      walk.memberSourcePools.upsert item.memberId fun pools => (pools.getD .empty).insert (sourceKey item.tier item.level) group.poolKey,nextOffset⟩

def layOutGroup (group : PoolGroup) (mode : ViewMode) (memberSourcePools : IndexMap String (IndexMap String String)) : PoolLayout :=
  group.entries.foldl (layOutEntry group mode) ⟨.empty,.empty,memberSourcePools,0⟩

def getOrCreateVolumePool (device : VolumeDevice) (existing : Option AtlasState) (chunk : Zyx) (t : Nat) (c : Option Nat) : AtlasState :=
  match existing with
  | some atlas => if atlas.chunk = chunk then {atlas with t := t, c := c} else createVolumeAtlas device chunk t c
  | none => createVolumeAtlas device chunk t c

section
variable (device : VolumeDevice) (platform : Platform)

def volumePool (msg : ColdStateMessage) (group : PoolGroup) (layout : PoolLayout) (existing : Option AtlasState) : AtlasState :=
  let atlas := getOrCreateVolumePool device existing group.chunkDims msg.currentT group.channel
  let atlas := resizeIndirection {atlas with entityMetas := layout.entityMetas} layout.offset
  remapIndirection platform atlas msg.currentT group.channel ⟨some msg.visibleRegion,msg.renderRadiusView.map (· group.tier),layout.entryByMember⟩

def applyGroup (msg : ColdStateMessage) (s : VolumeState) (group : PoolGroup) : VolumeState :=
  let layout := layOutGroup group msg.viewMode s.memberSourcePools
  let s := {s with memberSourcePools := layout.memberSourcePools}
  match msg.viewMode with
  | .slice => s
  | .volume =>
    {s with volumeAtlases := s.volumeAtlases.insert group.poolKey (volumePool device platform msg group layout (s.volumeAtlases.get? group.poolKey))}

def registerMember (datasetId : String) (s : VolumeState) (member : ColdStateActiveEntry × String) : VolumeState :=
  {s with
    memberToDataset := s.memberToDataset.insert member.2 datasetId
    targetLevelByMember := match targetLevelOf member.1 with
      | none => s.targetLevelByMember.erase member.2
      | some target => s.targetLevelByMember.insert member.2 target}

-- The part of `applyColdState` for the chunk pools, after the message became the current one.
def applyColdStateChunks (s : VolumeState) (msg : ColdStateMessage) : VolumeState :=
  let s := {s with currentColdState := some msg, currentEpochs := some msg.epochs}
  let s := {s with memberSourcePools := s.memberSourcePools.retain fun memberId _ => s.memberToDataset.get? memberId ≠ some msg.datasetId}
  let s := (iterateColdMembers msg).foldl (registerMember msg.datasetId) s
  (groupEntriesByPool msg).values.foldl (applyGroup device platform msg) s

end

end Lucida.Renderer
