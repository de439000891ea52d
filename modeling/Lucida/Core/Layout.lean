import Lucida.Content.Manifest
import Lucida.Lib.HashMap

namespace Lucida.Core
open Content Lib

-- The floating-point operations the code performs, with no law assumed of them.
-- An `f32` is an `R` that `asF32` has rounded.
class Numeric (R : Type) extends Add R, Sub R, Mul R, Div R, Zero R, One R where
  ofNat : Nat → R
  lt : R → R → Bool
  le : R → R → Bool
  max : R → R → R
  abs : R → R
  isFinite : R → Bool
  asF32 : R → R
  half : R
  tiny : R
  infinity : R
  -- a quarter octave
  band : R

-- Whole numbers, where the code's arithmetic is exact.
instance : Numeric Int where
  zero := 0
  one := 1
  ofNat := Int.ofNat
  lt a b := a < b
  le a b := a ≤ b
  max a b := if a < b then b else a
  abs a := Int.ofNat a.natAbs
  isFinite _ := true
  asF32 a := a
  half := 0
  tiny := 0
  infinity := Int.pow 2 1024
  band := 1

section
variable {R : Type}

def resolveLayout (manifest : DatasetManifest R) (registered : Option (List (LayoutSpec R)))
    (activeId : Option LayoutId) : LayoutSpec R :=
  let active := activeId.bind fun id =>
    (manifest.sourceLayouts.find? (·.id = id)).or (registered.bind fun layouts => layouts.find? (·.id = id))
  let fallback := (manifest.defaultLayoutId.bind fun id => manifest.sourceLayouts.find? (·.id = id)).or
    manifest.sourceLayouts.head?
  (active.or fallback).getD ⟨"default","Default",[]⟩

variable [Numeric R]

def resolveEntityPosition (entityId : EntityId) (layout : LayoutSpec R) (entities : List Entity)
    (transforms : List (TransformEdge R)) : Option (R × R) :=
  match layout.placements.find? (·.entityId = entityId) with
  | some placement => some placement.position
  | none => do
    let entity ← entities.find? (·.id = entityId)
    let parentId ← entity.parent
    let parent ← layout.placements.find? (·.entityId = parentId)
    let offset := ((transforms.find? fun edge => edge.source = entityId ∧ edge.target = parentId).map
      TransformEdge.translation).getD (0,0)
    return (parent.position.1+offset.1,parent.position.2+offset.2)

structure LayoutPositionIndex (R : Type) where
  placementByEntity : HashMap EntityId (R × R)
  parentByEntity : HashMap EntityId (Option EntityId)
  offsetByEdge : HashMap EntityId (HashMap EntityId (R × R))

def LayoutPositionIndex.new (layout : LayoutSpec R) (entities : List Entity) (transforms : List (TransformEdge R)) :
    LayoutPositionIndex R where
  placementByEntity := layout.placements.foldl (fun map p => HashMap.orInsert map p.entityId p.position) ∅
  parentByEntity := entities.foldl (fun map e => HashMap.orInsert map e.id e.parent) ∅
  offsetByEdge := transforms.foldl (fun map t =>
    map.insert t.source (HashMap.orInsert ((map.lookup t.source).getD ∅) t.target t.translation)) ∅

def LayoutPositionIndex.resolve (index : LayoutPositionIndex R) (entityId : EntityId) : Option (R × R) :=
  match index.placementByEntity.lookup entityId with
  | some position => some position
  | none => do
    let parent ← (index.parentByEntity.lookup entityId).join
    let position ← index.placementByEntity.lookup parent
    let offset := ((index.offsetByEdge.lookup entityId).bind (·.lookup parent)).getD (0,0)
    return (position.1+offset.1,position.2+offset.2)

-- The matrices are diagonal; `model` and `invModel` hold x, y and z.
structure VolumeTransform (R : Type) where
  model : R × R × R
  invModel : R × R × R
  maxPhysicalExtent : R
  deriving DecidableEq, Repr

-- `u64 as u32`.
def asU32 (n : Nat) : Nat := n % 2^32

def reciprocal (s : R) : R := if Numeric.lt Numeric.tiny (Numeric.abs s) then Numeric.asF32 (1/s) else 0

def computeVolumeTransform (shape : Nat × Nat × Nat) (scale : R × R × R) : VolumeTransform R :=
  let physZ := scale.1*Numeric.ofNat shape.1
  let physY := scale.2.1*Numeric.ofNat shape.2.1
  let physX := scale.2.2*Numeric.ofNat shape.2.2
  let maxPhys := Numeric.max (Numeric.max physZ physY) physX
  let norm := if Numeric.lt 0 maxPhys then maxPhys else 1
  let sx := Numeric.asF32 (physX/norm)
  let sy := Numeric.asF32 (physY/norm)
  let sz := Numeric.asF32 (physZ/norm)
  ⟨(sx,sy,sz),(reciprocal sx,reciprocal sy,reciprocal sz),maxPhys⟩

structure MemberState (R : Type) where
  entityId : EntityId
  imageId : ImageId
  position : R × R
  volumeTransform : VolumeTransform R
  levels : List (LevelGeometry R)
  dataType : DataType
  deriving DecidableEq, Repr

structure DatasetDerivedState (R : Type) where
  volumeTransforms : HashMap ImageId (VolumeTransform R)
  activeLayout : LayoutSpec R
  members : List (MemberState R)
  memberIndex : HashMap String Nat
  maxPhysicalExtent : R
  maxPhysicalY : R

def imageTransform (image : ImageSpec R) : VolumeTransform R :=
  match image.multiscale.levels.head? with
  | some level0 => computeVolumeTransform (asU32 level0.shape.z,asU32 level0.shape.y,asU32 level0.shape.x)
      (level0.scale.z,level0.scale.y,level0.scale.x)
  | none => ⟨(1,1,1),(1,1,1),1⟩

def memberExtent (member : MemberState R) : R :=
  let extent := member.volumeTransform.maxPhysicalExtent
  if Numeric.lt 0 extent then extent else 1

def buildDerivedState (manifest : DatasetManifest R) (layout : LayoutSpec R) : DatasetDerivedState R :=
  let index := LayoutPositionIndex.new layout manifest.entities manifest.transforms
  let members := manifest.images.map fun image => {
    entityId := image.owner
    imageId := image.imageId
    position := (index.resolve image.owner).getD (0,0)
    volumeTransform := imageTransform image
    levels := image.multiscale.levels
    dataType := image.multiscale.dataType : MemberState R}
  { volumeTransforms := manifest.images.foldl (fun map image => map.insert image.imageId (imageTransform image)) ∅
    activeLayout := layout
    members
    memberIndex := members.zipIdx.foldl
      (fun map member => HashMap.orInsert (HashMap.orInsert map member.1.imageId member.2) member.1.entityId member.2) ∅
    maxPhysicalExtent := members.foldl (fun most member => Numeric.max most (memberExtent member)) 0
    maxPhysicalY := members.foldl (fun most member =>
      Numeric.max most (member.volumeTransform.model.2.1*memberExtent member)) 0 }

end
end Lucida.Core
