import Lucida.Lib.Links
import Lucida.Lib.Slots
import Lucida.Renderer.ChunkEviction
import Lucida.Renderer.ChunkRadius
import Lucida.Renderer.Texture

namespace Lucida.Renderer
open Lib
open Server (Zyx)
open Web (Number)
open Web.Planning (Platform VisibleRegion Xyz)

def emptyCell : Nat := 0xFFFFFFFF

-- The next free slot stands first.
structure AtlasState where
  texture : Texture
  indirectionData : List Nat
  slots : IndexMap String Nat
  slotGridIdx : List Int
  freeSlots : List Nat
  totalSlots : Nat
  chunk : Zyx
  slotsX : Nat
  slotsY : Nat
  slotsZ : Nat
  maxSlotsZ : Nat
  entityMetas : IndexMap String (List LodIndirectionMeta)
  t : Nat
  c : Option Nat
  intensityMin : Nat
  intensityMax : Nat
  indirectionDirty : Bool

-- What the worker has of the device: its limit of an axis, the bytes for a pool and a
-- cube root, rounded down.
structure VolumeDevice where
  maxTextureDimension3D : Nat
  volumeAtlasBytes : Nat
  cbrt : Nat → Nat

section
variable (device : VolumeDevice)

def computeAtlasGeometry (chunk : Zyx) (bytesPerVoxel : Nat) : Zyx :=
  let maxSlots := device.volumeAtlasBytes/(chunk.x*chunk.y*chunk.z*bytesPerVoxel)
  let slotsPerAxis := device.cbrt maxSlots
  ⟨min slotsPerAxis (device.maxTextureDimension3D/chunk.z),min slotsPerAxis (device.maxTextureDimension3D/chunk.y),
    min slotsPerAxis (device.maxTextureDimension3D/chunk.x)⟩

def createAtlasTexture (chunk : Zyx) (slotsX slotsY slotsZ : Nat) : Texture := .create ⟨slotsZ*chunk.z,slotsY*chunk.y,slotsX*chunk.x⟩

def createVolumeAtlas (chunk : Zyx) (t : Nat) (c : Option Nat) : AtlasState :=
  let geom := computeAtlasGeometry device chunk 2
  let slotsZ := min 1 geom.z
  let totalSlots := geom.x*geom.y*slotsZ
  { texture := createAtlasTexture chunk geom.x geom.y slotsZ
    indirectionData := [emptyCell]
    slots := .empty
    slotGridIdx := List.replicate totalSlots (-1)
    freeSlots := List.range totalSlots
    totalSlots := totalSlots
    chunk := chunk
    slotsX := geom.x
    slotsY := geom.y
    slotsZ := slotsZ
    maxSlotsZ := geom.z
    entityMetas := .empty
    t := t
    c := c
    intensityMin := 65535
    intensityMax := 0
    indirectionDirty := true }

end

-- Twice the layers, up to those of the budget; none once they are all there.
def growVolumeAtlas (atlas : AtlasState) : Option AtlasState :=
  if atlas.maxSlotsZ ≤ atlas.slotsZ then none
  else
    let slotsZ := min atlas.maxSlotsZ (atlas.slotsZ*2)
    let totalSlots := atlas.slotsX*atlas.slotsY*slotsZ
    some {atlas with
      texture := atlas.texture.copyInto ⟨slotsZ*atlas.chunk.z,atlas.slotsY*atlas.chunk.y,atlas.slotsX*atlas.chunk.x⟩
      slotGridIdx := atlas.slotGridIdx ++ List.replicate (totalSlots-atlas.slotGridIdx.length) (-1)
      freeSlots := List.range' atlas.totalSlots (totalSlots-atlas.totalSlots) ++ atlas.freeSlots
      slotsZ := slotsZ
      totalSlots := totalSlots}

structure RemapOptions where
  visibleRegion : Option VisibleRegion
  renderRadiusView : Option Number
  entryByMember : IndexMap String RemapEntryInfo

-- The level-wise target of a slice view; none for a volume.
structure RemapParams where
  slots : IndexMap String Nat
  slotGridIdx : List Int
  indirectionData : List Nat
  entityMetas : IndexMap String (List LodIndirectionMeta)
  currentT : Nat
  currentC : Option Nat
  options : RemapOptions
  targetChunkZFor : Option (String → Option Int → Option Int)

section
variable (platform : Platform) (params : RemapParams)

def ParsedChunkKey.place (chunk : ParsedChunkKey) : Option Xyz :=
  match chunk.x,chunk.y,chunk.z with
  | some x,some y,some z => some ⟨x,y,z⟩
  | _,_,_ => none

def passesRadius (memberId : String) (chunk : ParsedChunkKey) : Bool :=
  match params.options.visibleRegion,params.options.renderRadiusView,params.options.entryByMember.get? memberId with
  | some region,some radiusView,some entry => chunkPassesRenderRadius platform region radiusView entry chunk.level chunk.place
  | _,_,_ => true

def globalIdx (lod : LodIndirectionMeta) (chunk : ParsedChunkKey) : Option Int :=
  match params.targetChunkZFor,chunk.z,chunk.y,chunk.x with
  | none,some z,some y,some x => some (lod.offset+z*lod.gridDims.y*lod.gridDims.x+y*lod.gridDims.x+x)
  | some _,_,some y,some x => some (lod.offset+y*lod.gridDims.x+x)
  | _,_,_,_ => none

def onTargetZ (memberId : String) (chunk : ParsedChunkKey) : Bool :=
  match params.targetChunkZFor with
  | none => true
  | some targetChunkZFor => (targetChunkZFor memberId chunk.level).all fun tz => chunk.z = some tz

def remapCell (compositeKey : String) : Option Nat :=
  match parseCompositeKey compositeKey with
  | none => none
  | some (memberId,chunkKey) =>
    match params.entityMetas.get? memberId,parseChunkKey chunkKey with
    | some lodMetas,some chunk =>
      if chunk.t ≠ some (params.currentT : Int) then none
      else if params.currentC.all fun c => chunk.c ≠ some (c : Int) then none
      else if !onTargetZ params memberId chunk then none
      else match lodMetas.find? fun lod => some (lod.level : Int) = chunk.level with
        | none => none
        | some lod =>
          if !passesRadius platform params memberId chunk then none
          else (globalIdx params lod chunk).bind fun idx => if 0 ≤ idx ∧ idx < params.indirectionData.length then some idx.toNat else none
    | _,_ => none

def remapSharedIndirection : List Nat × List Int :=
  params.slots.entries.foldl (fun tables (slot : String × Nat) =>
    match remapCell platform params slot.1 with
    | none => tables
    | some cell => (tables.1.set cell slot.2,tables.2.set slot.2 cell))
    (List.replicate params.indirectionData.length emptyCell,List.replicate params.slotGridIdx.length (-1))

end

def volumeRemapParams (atlas : AtlasState) (currentT : Nat) (currentC : Option Nat) (options : RemapOptions) : RemapParams :=
  ⟨atlas.slots,atlas.slotGridIdx,atlas.indirectionData,atlas.entityMetas,currentT,currentC,options,none⟩

def remapIndirection (platform : Platform) (atlas : AtlasState) (currentT : Nat) (currentC : Option Nat) (options : RemapOptions) : AtlasState :=
  let tables := remapSharedIndirection platform (volumeRemapParams atlas currentT currentC options)
  {atlas with indirectionData := tables.1, slotGridIdx := tables.2, indirectionDirty := true}

-- A buffer of another length starts out as zeros.
def resizeIndirection (atlas : AtlasState) (totalEntries : Nat) : AtlasState :=
  if totalEntries = atlas.indirectionData.length then atlas else {atlas with indirectionData := List.replicate totalEntries 0}

end Lucida.Renderer
