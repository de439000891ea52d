import Lucida.Lib.LittleEndian
import Lucida.Lib.Utf8
import Lucida.Proxy.Geometry
import Mathlib.Data.List.Sort

namespace Lucida.Proxy
open Lib Content.Graph
open Content (EntityId ImageId EntityKind DataType Axes LevelGeometry)

section
variable {R : Type}

def findEntity (content : DatasetManifest R) (entityId : EntityId) : Option Entity :=
  content.entities.find? fun entity => entity.id = entityId

def tilesOf (content : DatasetManifest R) (groupId : EntityId) : List Entity :=
  content.entities.filter fun entity => entity.kind = .tile ∧ entity.parent = some groupId

def IsGroup (content : DatasetManifest R) (entityId : EntityId) : Prop :=
  (findEntity content entityId).map Entity.kind = some .group

instance (content : DatasetManifest R) (entityId : EntityId) : Decidable (IsGroup content entityId) :=
  inferInstanceAs (Decidable (_ = _))

-- A group's tiles by their ids, and the entity itself.
def contributors (content : DatasetManifest R) (entityId : EntityId) : List EntityId :=
  (if IsGroup content entityId then ((tilesOf content entityId).map Entity.id).insertionSort (· ≤ ·) else []) ++ [entityId]

def edgeLe (a b : TransformEdge R) : Prop := a.source < b.source ∨ (a.source = b.source ∧ a.target ≤ b.target)

instance (a b : TransformEdge R) : Decidable (edgeLe a b) := inferInstanceAs (Decidable (_ ∨ _))

def edgesOf (content : DatasetManifest R) (id : EntityId) : List (TransformEdge R) :=
  (content.transforms.filter fun edge => edge.source = id ∨ edge.target = id).insertionSort edgeLe

def ownedImages (content : DatasetManifest R) (id : EntityId) : List (ImageSpec R) :=
  (content.images.filter fun image => image.owner = id).insertionSort fun a b => a.imageId ≤ b.imageId

end

-- The hasher is fed piece after piece, with nothing to mark where an id ends.
section Bytes
variable {R : Type} (toLeBytes : R → List UInt8)

def asBytes (text : String) : List UInt8 := Utf8.encode text.toList

def debugDataType : DataType → String
  | .uint8 => "Uint8"
  | .uint16 => "Uint16"
  | .uint32 => "Uint32"
  | .float32 => "Float32"
  | .float64 => "Float64"

def debugAxisKind : AxisKind → String
  | .time => "Time"
  | .channel => "Channel"
  | .space => "Space"

def edgeBytes (edge : TransformEdge R) : List UInt8 :=
  asBytes "\nedge:" ++ asBytes edge.source ++ asBytes "->" ++ asBytes edge.target ++
    edge.transform.toList.flatMap fun column => column.toList.flatMap toLeBytes

def axisBytes (axis : Axis) : List UInt8 :=
  asBytes "\naxis:" ++ asBytes axis.name ++ asBytes ":" ++ asBytes (debugAxisKind axis.kind)

def levelBytes (level : LevelGeometry R) : List UInt8 :=
  asBytes "\nlevel:" ++ LittleEndian.toBytes 4 level.levelIndex ++ (axesList level.shape).flatMap (LittleEndian.toBytes 8) ++
    (axesList level.chunkShape).flatMap (LittleEndian.toBytes 8) ++ (axesList level.gridShape).flatMap (LittleEndian.toBytes 8) ++
    (axesList level.scale).flatMap toLeBytes

def imageBytes (image : ImageSpec R) : List UInt8 :=
  asBytes "\nimage:" ++ asBytes image.imageId ++ asBytes "\ndtype:" ++ asBytes (debugDataType image.multiscale.dataType) ++
    image.multiscale.axes.flatMap axisBytes ++ image.multiscale.levels.flatMap (levelBytes toLeBytes)

variable (content : DatasetManifest R)

def contributorBytes (id : EntityId) : List UInt8 :=
  asBytes "\nentity:" ++ asBytes id ++ (edgesOf content id).flatMap (edgeBytes toLeBytes) ++
    (ownedImages content id).flatMap (imageBytes toLeBytes)

def entityKindTag : Option EntityKind → UInt8
  | some .image => 0
  | some .group => 1
  | some .tile => 2
  | none => 0xFF

def sourceContentBytes (entityId : EntityId) (t c : Nat) : List UInt8 :=
  asBytes "lucida-proxy/source-content/v1" ++ LittleEndian.toBytes 4 t ++ LittleEndian.toBytes 4 c ++ asBytes entityId ++ [0] ++
    [entityKindTag ((findEntity content entityId).map Entity.kind)] ++
    (contributors content entityId).flatMap (contributorBytes toLeBytes content)

def sourceContentHash {D : Type} (digest : List UInt8 → D) (entityId : EntityId) (t c : Nat) : D :=
  digest (sourceContentBytes toLeBytes content entityId t c)

end Bytes
end Lucida.Proxy
