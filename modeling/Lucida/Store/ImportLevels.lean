import Lucida.Lib.Traverse
import Lucida.Store.Metadata

namespace Lucida.Store
open Content Lib
open Server (StorageCompression LevelInfo Regrid)

-- On a sharded level every field describes the inner chunk.
structure LevelBindingInfo extends LevelInfo where
  levelIndex : Nat
  shard : Option ShardLayout
  deriving DecidableEq, Repr

-- `as u32`.
def u32 (n : Nat) : Nat := n % 2^32

def parseDataType : String → Except ImportError DataType
  | "uint8" => .ok .uint8
  | "uint16" => .ok .uint16
  | "uint32" => .ok .uint32
  | "float32" => .ok .float32
  | "float64" => .ok .float64
  | other => .error (.metadata ("unsupported data type: " ++ other))

def chunkStorage (array : ArrayMeta) : Except ImportError (Option ShardLayout × StorageCompression × List UInt64) := do
  match ← ShardLayout.fromCodecChain array.codecs array.chunkShape with
  | some (layout,innerCompression) => return (some layout,innerCompression,layout.innerChunkShape)
  | none =>
    let compression ← parseCodecChain array.codecs
    return (none,compression,array.chunkShape)

def atLevel {α : Type} (level : Nat) (outcome : Except ImportError α) : Except ImportError α :=
  outcome.mapError (ImportError.inContext ("level " ++ toString level))

section Levels
variable (axesNames : List String) (dtypeSize : Nat) (pinned : List PinnedAxis)

def buildLevelBindingInfo (level : ArrayMeta × Nat) : Except ImportError LevelBindingInfo := do
  let (shard,compression,chunkShape) ← chunkStorage level.1
  let chunkByteLayout ← (computeChunkByteLayout axesNames chunkShape dtypeSize pinned).mapError (.layout "")
  return { levelIndex := u32 level.2, compression, chunkShape, chunkByteLayout, shard, regrid := none }

def buildLevelBindingInfos (levelMetas : List ArrayMeta) : Except ImportError (List LevelBindingInfo) :=
  levelMetas.zipIdx.mapM fun level => atLevel level.2 (buildLevelBindingInfo axesNames dtypeSize pinned level)

end Levels

-- Only the canonical names come here, and ASCII has all the letters whose lower case is `t` or `c`.
def buildAxes (axesNames : List String) : List Graph.Axis :=
  axesNames.map fun name =>
    let kind := match toAsciiLowercase name with
      | "t" => Graph.AxisKind.time
      | "c" => Graph.AxisKind.channel
      | _ => Graph.AxisKind.space
    ⟨name,kind⟩

def divCeil (n m : Nat) : Nat := (n+m-1)/m

def axesZip {α β γ : Type} (f : α → β → γ) (a : Axes α) (b : Axes β) : Axes γ := ⟨f a.t b.t,f a.c b.c,f a.z b.z,f a.y b.y,f a.x b.x⟩

def axesList {α : Type} (axes : Axes α) : List α := [axes.t,axes.c,axes.z,axes.y,axes.x]

def canonicalShape (axesNames : List String) (values : List UInt64) : Axes Nat :=
  Graph.axesMap UInt64.toNat (normalizeTo5d values axesNames 1)

def levelGeometry (axesNames : List String) (index : Nat) (shape chunkShape : List UInt64) (scale : Axes F64) : LevelGeometry F64 :=
  let shape := canonicalShape axesNames shape
  let chunkShape := canonicalShape axesNames chunkShape
  ⟨index,shape,chunkShape,axesZip divCeil shape chunkShape,scale⟩

def buildLevelGeometry (axesNames : List String) (level : ((LevelEntry × ArrayMeta) × LevelBindingInfo) × Nat) :
    Except ImportError (LevelGeometry F64) :=
  let (((entry,array),binding),i) := level
  let geometry := levelGeometry axesNames (u32 i) array.shape binding.chunkShape entry.scale
  if 0 ∈ axesList geometry.chunkShape then
    .error (.metadata ("level " ++ toString i ++ ": chunk_shape " ++ debugList ((axesList geometry.chunkShape).map toString) ++
      " has a zero dimension"))
  else .ok geometry

def buildLevelGeometries (levelEntries : List LevelEntry) (levelMetas : List ArrayMeta) (levelBindings : List LevelBindingInfo)
    (axesNames : List String) : Except ImportError (List (LevelGeometry F64)) :=
  ((levelEntries.zip levelMetas).zip levelBindings).zipIdx.mapM (buildLevelGeometry axesNames)

section Coarse

structure SourceCoarseConfig where
  maxLongAxis : Nat
  maxDecodedBytesPerTc : Nat
  maxChunkCountPerTc : Option Nat
  maxChunkBytes : Nat
  deriving DecidableEq, Repr

def SourceCoarseConfig.default : SourceCoarseConfig := ⟨2048,64*1024*1024,some 4096,16*1024*1024⟩

def checkedProduct (values : List Nat) : Option Nat :=
  values.foldlM (fun product value => if product*value < 2^64 then some (product*value) else none) 1

def productFits (values : List Nat) (limit : Nat) : Bool := (checkedProduct values).any (· ≤ limit)

def sourceLevelFits (level : LevelGeometry F64) (dataType : DataType) (config : SourceCoarseConfig) : Bool :=
  max level.shape.y level.shape.x ≤ config.maxLongAxis &&
    productFits [level.shape.z,level.shape.y,level.shape.x,dataTypeSize dataType] config.maxDecodedBytesPerTc &&
    productFits [level.chunkShape.z,level.chunkShape.y,level.chunkShape.x,dataTypeSize dataType] config.maxChunkBytes &&
    config.maxChunkCountPerTc.all fun maxChunks =>
      productFits [level.gridShape.z,level.gridShape.y,level.gridShape.x] maxChunks

def selectSourceCoarseLevel (levels : List (LevelGeometry F64)) (dataType : DataType) (config : SourceCoarseConfig) : Option Nat :=
  ((levels.filter (sourceLevelFits · dataType config)).map LevelGeometry.levelIndex).max?

end Coarse

-- What one tile stores, level by level, in the order of its own axes.
structure StoredLevels where
  shapes : List (List UInt64)
  bindings : List LevelBindingInfo
  deriving DecidableEq, Repr

-- The geometry that a collection declares for all of its tiles.
structure DeclaredLevels where
  shapes : List (List UInt64)
  chunkShapes : List (List UInt64)
  chunkByteLayouts : List ChunkByteLayout
  deriving DecidableEq, Repr

-- The sizes of a shape past the end of the other stay as they are.
def widen : List UInt64 → List UInt64 → List UInt64
  | d::declared,s::stored => max d s::widen declared stored
  | declared,_ => declared

-- The levels past the end of the other are dropped.
def widenLevels (declared stored : List (List UInt64)) : List (List UInt64) := List.zipWith widen declared stored

namespace DeclaredLevels

def cover : List StoredLevels → List (List UInt64) × List (List UInt64)
  | [] => ([],[])
  | first::rest => rest.foldl (fun (shapes,chunkShapes) tile =>
      (widenLevels shapes tile.shapes,widenLevels chunkShapes (tile.bindings.map (·.chunkShape))))
    (first.shapes,first.bindings.map (·.chunkShape))

def covering (tiles : List StoredLevels) (axesNames : List String) (dtypeSize : Nat) (pinned : List PinnedAxis) :
    Except ImportError DeclaredLevels := do
  let (shapes,chunkShapes) := cover tiles
  let chunkByteLayouts ← chunkShapes.zipIdx.mapM fun (chunkShape,level) =>
    atLevel level ((computeChunkByteLayout axesNames chunkShape dtypeSize pinned).mapError (.layout ""))
  return ⟨shapes.take chunkShapes.length,chunkShapes,chunkByteLayouts⟩

def bindLevel (stored : LevelBindingInfo × List UInt64) (declared : List UInt64 × ChunkByteLayout) : LevelBindingInfo :=
  if stored.1.chunkShape = declared.1 then stored.1
  else { stored.1 with regrid := some ⟨declared.1,declared.2,stored.2⟩ }

def bind (declared : DeclaredLevels) (tile : StoredLevels) : List LevelBindingInfo :=
  List.zipWith bindLevel (tile.bindings.zip tile.shapes) (declared.chunkShapes.zip declared.chunkByteLayouts)

end DeclaredLevels
end Lucida.Store
