import Lucida.Proxy.SourceHash

namespace Lucida.Proxy
open Lib Content.Graph
open Content (EntityId ImageId EntityKind DataType Axes LevelGeometry)
open Server (Zyx)

def ALGORITHM_VERSION : Nat := 1

inductive ProxyKind where
  | groupProxy3D
  | tileProxy3D
  deriving DecidableEq, Repr

structure ProxySpec where
  entityId : EntityId
  kind : ProxyKind
  t : Nat
  c : Nat
  targetLongAxis : Nat
  deriving DecidableEq, Repr

inductive ProxyDtype where
  | u16
  deriving DecidableEq, Repr

structure ProxyHeader (D : Type) where
  algorithmVersion : Nat
  sourceContentHash : D
  dims : Zyx
  dtype : ProxyDtype
  deriving DecidableEq, Repr

structure ProxyAsset (D : Type) where
  header : ProxyHeader D
  voxels : List UInt16
  deriving DecidableEq, Repr

structure TileVolume (R : Type) where
  data : List UInt16
  dims : Zyx
  voxelToImage : VoxelTransform R
  deriving DecidableEq, Repr

inductive SourceError where
  | notFound
  | io (message : String)
  deriving DecidableEq, Repr

-- A volume by image, timepoint, channel and level.
abbrev ProxySourceData (R : Type) := ImageId → Nat → Nat → Nat → Except SourceError (TileVolume R)

inductive GenerateError where
  | source (error : SourceError)
  | missingEntity (entityId : EntityId)
  | missingImage (entityId : EntityId)
  | emptyMultiscale (entityId : EntityId)
  | noTiles (entityId : EntityId)
  | outOfBounds (t c : Nat)
  | invalidTarget
  deriving DecidableEq, Repr

inductive EstimateError where
  | missingEntity (entityId : EntityId)
  | missingImage (entityId : EntityId)
  | emptyMultiscale (entityId : EntityId)
  | noTiles (entityId : EntityId)
  | invalidTarget
  | tooLarge (entityId : EntityId)
  deriving DecidableEq, Repr

section Choice
variable {R ε : Type}

def minSpatial (level : LevelGeometry R) : Nat := min (min level.shape.z level.shape.y) level.shape.x

-- The last level that clears the threshold, and the last of all if even the first does not.
def pickLevel (levels : List (LevelGeometry R)) (targetLongAxis : Nat) : Nat :=
  let threshold := min (targetLongAxis*2) (2^64-1)
  let chosen := levels.zipIdx.foldl (fun chosen level => if threshold ≤ minSpatial level.1 then level.2 else chosen) 0
  if chosen = 0 ∧ (levels.head?.map minSpatial).getD 0 < threshold then levels.length-1 else chosen

def pickImage (missingImage emptyMultiscale : EntityId → ε) (content : DatasetManifest R) (owner : EntityId) (targetLongAxis : Nat) :
    Except ε (ImageSpec R × Nat) :=
  match content.images.find? fun image => image.owner = owner with
  | none => .error (missingImage owner)
  | some image =>
    if image.multiscale.levels = [] then .error (emptyMultiscale owner)
    else .ok (image,pickLevel image.multiscale.levels targetLongAxis)

variable [Arithmetic R]

def findEdge (content : DatasetManifest R) (source target : EntityId) : VoxelTransform R :=
  ((content.transforms.find? fun edge => edge.source = source ∧ edge.target = target).map TransformEdge.transform).getD
    VoxelTransform.identity

def findTileToGroup (content : DatasetManifest R) (tileId groupId : EntityId) : VoxelTransform R := findEdge content tileId groupId

def findVoxelToImage (content : DatasetManifest R) (owner : EntityId) : VoxelTransform R := findEdge content owner owner

def scaleAxis (full level : Nat) : R := if level = 0 then 1 else Arithmetic.ofNat full/Arithmetic.ofNat level

def levelScale (full level : Axes Nat) : VoxelTransform R :=
  ⟨⟨scaleAxis full.x level.x,0,0,0⟩,⟨0,scaleAxis full.y level.y,0,0⟩,⟨0,0,scaleAxis full.z level.z,0⟩,⟨0,0,0,1⟩⟩

end Choice

section Estimate
variable {R : Type} [Arithmetic R]

def levelSpatialDims (level : LevelGeometry R) (entityId : EntityId) : Except (Stop EstimateError) Zyx :=
  let axis (n : Nat) : Except (Stop EstimateError) Nat := if n < 2^32 then .ok n else .error (.error (.tooLarge entityId))
  do return ⟨← axis level.shape.z,← axis level.shape.y,← axis level.shape.x⟩

def estimateLevelVoxelToImage (content : DatasetManifest R) (image : ImageSpec R) (levelIndex : Nat) :
    Except (Stop EstimateError) (VoxelTransform R) :=
  match image.multiscale.levels.head?,image.multiscale.levels[levelIndex]? with
  | some level0,some level => .ok (compose (findVoxelToImage content image.owner) (levelScale level0.shape level.shape))
  | _,_ => .error (.error (.emptyMultiscale image.owner))

variable (spec : ProxySpec) (content : DatasetManifest R)

-- An index past the last level is a panic.
def estimateLevel (entityId : EntityId) : Except (Stop EstimateError) (ImageSpec R × Nat × Zyx) := do
  let (image,levelIndex) ← (pickImage .missingImage .emptyMultiscale content entityId spec.targetLongAxis).mapError .error
  match image.multiscale.levels[levelIndex]? with
  | none => .error .panic
  | some level => return (image,levelIndex,← levelSpatialDims level entityId)

def estimateTileDims (entity : Entity) : Except (Stop EstimateError) Zyx := do
  let (_,_,dims) ← estimateLevel spec content entity.id
  targetDimsForLongAxis R dims spec.targetLongAxis

def estimateGrid (groupId : EntityId) (tile : Entity) : Except (Stop EstimateError) (VoxelTransform R × Zyx) := do
  let (image,levelIndex,dims) ← estimateLevel spec content tile.id
  let voxelToImage ← estimateLevelVoxelToImage content image levelIndex
  return (compose (findTileToGroup content tile.id groupId) voxelToImage,dims)

def estimateGroupDims (group : Entity) : Except (Stop EstimateError) Zyx :=
  if group.kind ≠ .group then estimateTileDims spec content group
  else if tilesOf content group.id = [] then .error (.error (.noTiles group.id))
  else do
    let grids ← (tilesOf content group.id).mapM (estimateGrid spec content group.id)
    return groupDimsFromBounds (boundsOf grids) spec.targetLongAxis

def estimateProxyDims : Except (Stop EstimateError) Zyx :=
  if spec.targetLongAxis = 0 then .error (.error .invalidTarget)
  else match findEntity content spec.entityId with
    | none => .error (.error (.missingEntity spec.entityId))
    | some entity =>
      match spec.kind with
      | .tileProxy3D => estimateTileDims spec content entity
      | .groupProxy3D => estimateGroupDims spec content entity

end Estimate

-- Arithmetic on words of `limit` values, and memory of which there is no more than an address reaches.
section Words
variable {ε : Type}

def word (limit n : Nat) : Except (Stop ε) Nat := if n < limit then .ok n else .error .panic

def rowAt (limit : Nat) (dims : Zyx) (z y : Nat) : Except (Stop ε) Nat := do
  let plane ← word limit (z*dims.y)
  let line ← word limit (plane+y)
  word limit (line*dims.x)

def voxelAt (limit : Nat) (dims p : Zyx) : Except (Stop ε) Nat := do
  let row ← rowAt limit dims p.z p.y
  word limit (row+p.x)

def allocate (dims : Zyx) (width : Nat) : Except (Stop ε) Nat := do
  let plane ← word (2^64) (dims.z*dims.y)
  let voxels ← word (2^64) (plane*dims.x)
  if voxels*width < 2^63 then return voxels else .error .panic

def voxelsOf (dims : Zyx) : List Zyx :=
  (List.range dims.z ×ˢ List.range dims.y ×ˢ List.range dims.x).map fun p => ⟨p.1,p.2.1,p.2.2⟩

end Words

section Sums
variable (limit : Nat) (data : List UInt16) (dims : Zyx)

def addSample (row : Nat) (sum : Nat × Nat) (x : Nat) : Except (Stop Empty) (Nat × Nat) := do
  let place ← word limit (row+x)
  match data[place]? with
  | none => .error .panic
  | some sample => return (← word (2^64) (sum.1+sample.toNat),← word (2^64) (sum.2+1))

def addRow (lo hi : Zyx) (sum : Nat × Nat) (row : Nat × Nat) : Except (Stop Empty) (Nat × Nat) := do
  let offset ← rowAt limit dims row.1 row.2
  (List.range' lo.x (hi.x-lo.x)).foldlM (addSample limit data offset) sum

def sumBox (lo hi : Zyx) : Except (Stop Empty) (Nat × Nat) :=
  (List.range' lo.z (hi.z-lo.z) ×ˢ List.range' lo.y (hi.y-lo.y)).foldlM (addRow limit data dims lo hi) (0,0)

end Sums

section Tile

def boxBounds (oi outSize inSize : Nat) : Nat × Nat :=
  let lo := oi*inSize/outSize
  let hi := (oi+1)*inSize/outSize
  (lo,if hi ≤ lo then min (lo+1) inSize else hi)

def boxLo (dims out o : Zyx) : Zyx := ⟨(boxBounds o.z out.z dims.z).1,(boxBounds o.y out.y dims.y).1,(boxBounds o.x out.x dims.x).1⟩

def boxHi (dims out o : Zyx) : Zyx := ⟨(boxBounds o.z out.z dims.z).2,(boxBounds o.y out.y dims.y).2,(boxBounds o.x out.x dims.x).2⟩

def filterVoxel (data : List UInt16) (dims out : Zyx) (result : List UInt16) (o : Zyx) : Except (Stop Empty) (List UInt16) := do
  let (acc,count) ← sumBox (2^32) data dims (boxLo dims out o) (boxHi dims out o)
  let avg := if count = 0 then 0 else acc/count
  let oi ← voxelAt (2^32) out o
  if oi < result.length then return result.set oi (UInt16.ofNat avg) else .error .panic

def boxFilterToTarget (R : Type) [Arithmetic R] (data : List UInt16) (dims : Zyx) (targetLongAxis : Nat) :
    Except (Stop Empty) (List UInt16 × Zyx) := do
  let out ← targetDimsForLongAxis R dims targetLongAxis
  let voxels ← allocate out 2
  let result ← (voxelsOf out).foldlM (filterVoxel data dims out) (List.replicate voxels 0)
  return (result,out)

end Tile

section Group
variable {R : Type} [Arithmetic R]

structure TileEntry (R : Type) where
  volume : TileVolume R
  voxelToGroup : VoxelTransform R
  groupToVoxel : VoxelTransform R
  deriving DecidableEq, Repr

-- What a voxel of the proxy covers along an axis of a tile. A span of zero scales to nothing, or to no number.
def sampleAxis (center voxel span : R) (size : Nat) : Nat × Nat :=
  let scale := Arithmetic.ofNat size/span*voxel
  let half := Arithmetic.max (scale*Arithmetic.half) Arithmetic.half
  (Arithmetic.toU32 (Arithmetic.max (Arithmetic.floor (center-half)) 0),
    min (Arithmetic.toU32 (Arithmetic.ceil (center+half))) size)

def sampleBox (bounds : Bounds R) (out : Zyx) (entry : TileEntry R) (o : Zyx) : Option (Zyx × Zyx) :=
  let span := bounds.span
  let voxel : Point R := ⟨span.x/Arithmetic.ofNat out.x,span.y/Arithmetic.ofNat out.y,span.z/Arithmetic.ofNat out.z⟩
  let center (least width : R) (i : Nat) : R := least+(Arithmetic.ofNat i+Arithmetic.half)*width
  let v := transformPoint entry.groupToVoxel
    ⟨center bounds.min.x voxel.x o.x,center bounds.min.y voxel.y o.y,center bounds.min.z voxel.z o.z⟩
  let dims := entry.volume.dims
  if Arithmetic.lt v.x 0 || Arithmetic.lt v.y 0 || Arithmetic.lt v.z 0 then none
  else if Arithmetic.le (Arithmetic.ofNat dims.x) v.x || Arithmetic.le (Arithmetic.ofNat dims.y) v.y ||
      Arithmetic.le (Arithmetic.ofNat dims.z) v.z then none
  else
    let (x0,x1) := sampleAxis v.x voxel.x span.x dims.x
    let (y0,y1) := sampleAxis v.y voxel.y span.y dims.y
    let (z0,z1) := sampleAxis v.z voxel.z span.z dims.z
    if x1 ≤ x0 ∨ y1 ≤ y0 ∨ z1 ≤ z0 then none else some (⟨z0,y0,x0⟩,⟨z1,y1,x1⟩)

def contribution (bounds : Bounds R) (out : Zyx) (item : TileEntry R × Zyx) : Except (Stop Empty) (Option (Nat × Nat)) :=
  match sampleBox bounds out item.1 item.2 with
  | none => .ok none
  | some (lo,hi) => do
    let (acc,count) ← sumBox (2^64) item.1.volume.data item.1.volume.dims lo hi
    if count = 0 then return none
    return some (← voxelAt (2^32) out item.2,acc/count)

def addContribution (bounds : Bounds R) (out : Zyx) (sums : List Nat × List Nat) (item : TileEntry R × Zyx) :
    Except (Stop Empty) (List Nat × List Nat) := do
  match ← contribution bounds out item with
  | none => return sums
  | some (oi,avg) =>
    match sums.1[oi]?,sums.2[oi]? with
    | some acc,some count => return (sums.1.set oi (← word (2^64) (acc+avg)),sums.2.set oi (← word (2^32) (count+1)))
    | _,_ => .error .panic

def aggregateVoxels (bounds : Bounds R) (out : Zyx) (entries : List (TileEntry R)) : Except (Stop Empty) (List UInt16) := do
  let voxels ← allocate out 8
  let (acc,count) ← (entries ×ˢ voxelsOf out).foldlM (addContribution bounds out) (List.replicate voxels 0,List.replicate voxels 0)
  return List.zipWith (fun a c => if c = 0 then 0 else UInt16.ofNat (a/c)) acc count

end Group

def panics {ε α : Type} (ran : Except (Stop Empty) α) : Except (Stop ε) α := ran.mapError fun _ => .panic

section Generate
variable {R D : Type} [Arithmetic R] (toLeBytes : R → List UInt8) (digest : List UInt8 → D)
variable (spec : ProxySpec) (content : DatasetManifest R) (source : ProxySourceData R)

def proxyAsset (dims : Zyx) (voxels : List UInt16) : ProxyAsset D where
  header := ⟨ALGORITHM_VERSION,sourceContentHash toLeBytes content digest spec.entityId spec.t spec.c,dims,.u16⟩
  voxels := voxels

def readTile (entityId : EntityId) : Except (Stop GenerateError) (TileVolume R) := do
  let (image,levelIndex) ← (pickImage .missingImage .emptyMultiscale content entityId spec.targetLongAxis).mapError .error
  (source image.imageId spec.t spec.c levelIndex).mapError fun error => .error (.source error)

def downsampleTile (entity : Entity) : Except (Stop GenerateError) (ProxyAsset D) := do
  let volume ← readTile spec content source entity.id
  let (data,dims) ← panics (boxFilterToTarget R volume.data volume.dims spec.targetLongAxis)
  return proxyAsset toLeBytes digest spec content dims data

def tileEntry (groupId : EntityId) (tile : Entity) : Except (Stop GenerateError) (TileEntry R) := do
  let volume ← readTile spec content source tile.id
  let voxelToGroup := compose (findTileToGroup content tile.id groupId) volume.voxelToImage
  return ⟨volume,voxelToGroup,(invert voxelToGroup).getD VoxelTransform.identity⟩

def aggregateGroup (group : Entity) : Except (Stop GenerateError) (ProxyAsset D) :=
  if group.kind ≠ .group then downsampleTile toLeBytes digest spec content source group
  else if tilesOf content group.id = [] then .error (.error (.noTiles group.id))
  else do
    let entries ← (tilesOf content group.id).mapM (tileEntry spec content source group.id)
    let bounds := boundsOf (entries.map fun entry => (entry.voxelToGroup,entry.volume.dims))
    let out := groupDimsFromBounds bounds spec.targetLongAxis
    let voxels ← panics (aggregateVoxels bounds out entries)
    return proxyAsset toLeBytes digest spec content out voxels

def generateProxy : Except (Stop GenerateError) (ProxyAsset D) :=
  if spec.targetLongAxis = 0 then .error (.error .invalidTarget)
  else match findEntity content spec.entityId with
    | none => .error (.error (.missingEntity spec.entityId))
    | some entity =>
      match spec.kind with
      | .tileProxy3D => downsampleTile toLeBytes digest spec content source entity
      | .groupProxy3D => aggregateGroup toLeBytes digest spec content source entity

end Generate
end Lucida.Proxy
