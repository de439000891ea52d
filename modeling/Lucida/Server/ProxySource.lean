import Lucida.Lib.HashMap
import Lucida.Proxy.Aggregate
import Lucida.Server.VolumeRegion
import Lucida.Store.ChunkLayout

namespace Lucida.Server.ProxySource
open Lib Proxy Content.Graph
open Content (EntityId ImageId DataType LevelGeometry)
open Store.ChunkCache (Bytes)

structure VolumeKey where
  imageId : ImageId
  t : Nat
  c : Nat
  level : Nat
  deriving DecidableEq, Repr

-- Volumes that were fetched before generation begins.
abbrev ServerProxySource (R : Type) := HashMap VolumeKey (TileVolume R)

def ServerProxySource.readTileVolume {R : Type} (source : ServerProxySource R) : ProxySourceData R :=
  fun imageId t c level =>
    match source.lookup ⟨imageId,t,c,level⟩ with
    | some volume => .ok volume
    | none => .error .notFound

theorem readTileVolume_of_lookup {R : Type} {source : ServerProxySource R} {volume : TileVolume R} {imageId : ImageId} {t c level : Nat}
    (found : source.lookup ⟨imageId,t,c,level⟩ = some volume) : source.readTileVolume imageId t c level = .ok volume := by
  unfold ServerProxySource.readTileVolume
  rw [found]

inductive BuildError where
  | missingEntity (entityId : EntityId)
  | missingImage (entityId : EntityId)
  | noTiles (entityId : EntityId)
  | tooLarge
  | volume (error : BuildSourceError)
  deriving DecidableEq, Repr

def volumeError : Stop BuildSourceError → Stop BuildError
  | .panic => .panic
  | .error error => .error (.volume error)

-- How a float in the unit interval becomes a sample is left open.
def sampleToU16 (unitFloatToU16 : Bytes → UInt16) (dataType : DataType) (bytes : Bytes) : UInt16 :=
  match dataType with
  | .uint8 | .uint16 => UInt16.ofNat (LittleEndian.value bytes)
  | .uint32 => UInt16.ofNat (min (LittleEndian.value bytes) (2^16-1))
  | .float32 | .float64 => unitFloatToU16 bytes

section
variable {R : Type}

def pickLevel (image : ImageSpec R) (targetLongAxis : Nat) : Nat :=
  if image.multiscale.levels = [] then 0 else Proxy.pickLevel image.multiscale.levels targetLongAxis

-- A region that is not refused has a size that fits, and memory for its samples.
def measure (geometry : LevelGeometry R) (t c : Nat) (region : VolumeRegion) : Except (Stop BuildError) Unit :=
  if t < geometry.shape.t ∧ c < geometry.shape.c ∧ region.lo.All (· < ·) region.hi then
    if 2^64 ≤ region.dims.volume then .error (.error .tooLarge)
    else if region.dims.volume*2 < 2^63 then .ok () else .error .panic
  else .ok ()

variable [Arithmetic R]

def isIdentity (t : VoxelTransform R) : Bool := Quad.all2 (Quad.all2 Arithmetic.eq) t VoxelTransform.identity

def composeSelfEdge (ownerSelf levelScale : VoxelTransform R) : VoxelTransform R :=
  if isIdentity ownerSelf then levelScale else compose ownerSelf levelScale

variable (unitFloatToU16 : Bytes → UInt16) (read : ImageId → String → Except (Stop ChunkReadError) ChunkRead)

def fetchDenseVolume (content : DatasetManifest R) (image : ImageSpec R) (t c level : Nat) :
    Except (Stop BuildError) (TileVolume R) :=
  match image.multiscale.levels[level]?,image.multiscale.levels.head? with
  | some geometry,some level0 => do
    let region : VolumeRegion := ⟨⟨0,0,0⟩,spatialDims geometry.shape⟩
    measure geometry t c region
    let (out,dims) ← (fetchVolumeRegion (Store.dataTypeSize image.multiscale.dataType)
      (fun bytes => (sampleToU16 unitFloatToU16 image.multiscale.dataType bytes).toNat) geometry level t c (read image.imageId)
      region).mapError volumeError
    if dims.z < 2^32 ∧ dims.y < 2^32 ∧ dims.x < 2^32 then
      return ⟨out.map UInt16.ofNat,dims,composeSelfEdge (findVoxelToImage content image.owner) (levelScale level0.shape geometry.shape)⟩
    else .error (.error .tooLarge)
  | _,_ => .error (.error (.volume (.badLevel level)))

def ownedImage (content : DatasetManifest R) (owner : EntityId) : Except (Stop BuildError) (ImageSpec R) :=
  match content.images.find? fun image => image.owner = owner with
  | some image => .ok image
  | none => .error (.error (.missingImage owner))

def contributing (spec : ProxySpec) (content : DatasetManifest R) (entity : Entity) : Except (Stop BuildError) (List (ImageSpec R)) :=
  if spec.kind = .tileProxy3D ∨ entity.kind ≠ .group then do return [← ownedImage content entity.id]
  else do
    let images ← (tilesOf content entity.id).mapM fun child => ownedImage content child.id
    if images = [] then .error (.error (.noTiles entity.id)) else return images

def fetchImage (spec : ProxySpec) (content : DatasetManifest R) (source : ServerProxySource R) (image : ImageSpec R) :
    Except (Stop BuildError) (ServerProxySource R) := do
  let level := pickLevel image spec.targetLongAxis
  let volume ← fetchDenseVolume unitFloatToU16 read content image spec.t spec.c level
  return source.insert ⟨image.imageId,spec.t,spec.c,level⟩ volume

def buildServerProxySource (spec : ProxySpec) (content : DatasetManifest R) : Except (Stop BuildError) (ServerProxySource R) :=
  match findEntity content spec.entityId with
  | none => .error (.error (.missingEntity spec.entityId))
  | some entity => do
    let images ← contributing spec content entity
    images.foldlM (fetchImage unitFloatToU16 read spec content) ∅

end

section Built
variable {R : Type} [Arithmetic R] {unitFloatToU16 : Bytes → UInt16} {read : ImageId → String → Except (Stop ChunkReadError) ChunkRead}
variable {spec : ProxySpec} {content : DatasetManifest R} {image : ImageSpec R} {volume : TileVolume R} {source : ServerProxySource R}

structure Dense (content : DatasetManifest R) (image : ImageSpec R) (level : Nat) (volume : TileVolume R) : Prop where
  wellFormed : volume.WellFormed
  positive : 0 < volume.dims.z ∧ 0 < volume.dims.y ∧ 0 < volume.dims.x
  short : volume.dims.z < 2^32 ∧ volume.dims.y < 2^32 ∧ volume.dims.x < 2^32
  level : ∃ geometry level0, image.multiscale.levels[level]? = some geometry ∧ image.multiscale.levels.head? = some level0 ∧
    volume.dims = spatialDims geometry.shape ∧
    volume.voxelToImage = composeSelfEdge (findVoxelToImage content image.owner) (levelScale level0.shape geometry.shape)

theorem fetchDenseVolume_dense {t c level : Nat} (ran : fetchDenseVolume unitFloatToU16 read content image t c level = .ok volume) :
    Dense content image level volume := by
  unfold fetchDenseVolume at ran
  split at ran
  swap
  · cases ran
  next geometry level0 here first =>
  dsimp only at ran
  obtain ⟨_,measured,ran⟩ := bind_ok ran
  obtain ⟨⟨out,dims⟩,fetched,ran⟩ := bind_ok ran
  obtain ⟨times,rises,same,sized⟩ := fetchVolumeRegion_sized (mapError_ok fetched)
  unfold measure at measured
  rw [if_pos ⟨times.1,times.2,rises⟩] at measured
  split at measured
  · cases measured
  split at measured
  swap
  · cases measured
  next fits =>
  have whole : dims = spatialDims geometry.shape := same
  dsimp only at ran
  split at ran
  swap
  · cases ran
  next short =>
  cases ran
  subst whole
  refine ⟨⟨by rw [List.length_map]; exact sized,?_⟩,rises,short,geometry,level0,here,first,rfl,rfl⟩
  have fits : (spatialDims geometry.shape).volume*2 < 2^63 := fits
  show (spatialDims geometry.shape).volume < 2^63
  omega

def Holds (spec : ProxySpec) (content : DatasetManifest R) (done : List (ImageSpec R)) (source : ServerProxySource R) : Prop :=
  ∀ image ∈ done, (∃ own, Dense content image (pickLevel image spec.targetLongAxis) own) ∧
    ∃ other ∈ done, other.imageId = image.imageId ∧
      pickLevel other spec.targetLongAxis = pickLevel image spec.targetLongAxis ∧ ∃ volume,
        source.lookup ⟨image.imageId,spec.t,spec.c,pickLevel image spec.targetLongAxis⟩ = some volume ∧
        Dense content other (pickLevel other spec.targetLongAxis) volume

theorem Holds.fetch {done : List (ImageSpec R)} {next : ServerProxySource R} (holds : Holds spec content done source)
    (ran : fetchImage unitFloatToU16 read spec content source image = .ok next) : Holds spec content (done ++ [image]) next := by
  unfold fetchImage at ran
  obtain ⟨volume,fetched,inserted⟩ := bind_ok ran
  cases inserted
  have dense := fetchDenseVolume_dense fetched
  intro image' member
  refine ⟨?_,?_⟩
  · rcases List.mem_append.mp member with earlier | last
    · exact (holds image' earlier).1
    · cases List.mem_singleton.mp last
      exact ⟨volume,dense⟩
  by_cases own : image'.imageId = image.imageId ∧ pickLevel image' spec.targetLongAxis = pickLevel image spec.targetLongAxis
  · refine ⟨image,by simp,own.1.symm,own.2.symm,volume,?_,dense⟩
    rw [HashMap.lookup_insert_if,own.1,own.2,if_pos rfl]
  · have earlier : image' ∈ done := by
      rcases List.mem_append.mp member with earlier | last
      · exact earlier
      · cases List.mem_singleton.mp last
        exact absurd ⟨rfl,rfl⟩ own
    obtain ⟨_,other,listed,sameId,sameLevel,kept,found,dense⟩ := holds image' earlier
    refine ⟨other,List.mem_append_left _ listed,sameId,sameLevel,kept,?_,dense⟩
    rw [HashMap.lookup_insert_if,if_neg]
    · exact found
    · intro same
      injection same with sameId' _ _ sameLevel'
      exact own ⟨sameId',sameLevel'⟩

theorem built_holds (built : buildServerProxySource unitFloatToU16 read spec content = .ok source) :
    ∃ entity images, findEntity content spec.entityId = some entity ∧ contributing spec content entity = .ok images ∧
      Holds spec content images source := by
  unfold buildServerProxySource at built
  cases found : findEntity content spec.entityId with
  | none =>
    rw [found] at built
    cases built
  | some entity =>
    rw [found] at built
    obtain ⟨images,chosen,ran⟩ := bind_ok built
    refine ⟨entity,images,rfl,chosen,?_⟩
    exact foldlM_keeps (fun _ _ _ _ _ holds turn => Holds.fetch holds turn) (fun _ member => absurd member List.not_mem_nil) ran

end Built
end Lucida.Server.ProxySource
