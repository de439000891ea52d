import Lucida.Lib.Traverse
import Lucida.Server.ProxySource

namespace Lucida.Server.ProxySource
open Lib Proxy Content.Graph
open Content (EntityId ImageId DataType LevelGeometry Axes)
open Store.ChunkCache (Bytes)

section Levels
variable {R : Type}

theorem pickLevel_lt {levels : List (LevelGeometry R)} (some' : levels ≠ []) (targetLongAxis : Nat) :
    Proxy.pickLevel levels targetLongAxis < levels.length := by
  have positive := List.length_pos_of_ne_nil some'
  have chosen (threshold : Nat) (numbered : List (LevelGeometry R × Nat)) (below : ∀ level ∈ numbered, level.2 < levels.length) :
      ∀ chosen < levels.length,
        numbered.foldl (fun chosen level => if threshold ≤ minSpatial level.1 then level.2 else chosen) chosen < levels.length := by
    induction numbered with
    | nil => exact fun chosen short => short
    | cons level numbered ih =>
      obtain ⟨first,later⟩ := List.forall_mem_cons.mp below
      intro chosen short
      refine ih later _ ?_
      dsimp only
      split
      · exact first
      · exact short
  unfold Proxy.pickLevel
  dsimp only
  split
  · omega
  · exact chosen _ _ (fun level member => List.snd_lt_of_mem_zipIdx member) 0 positive

end Levels

-- In exact arithmetic a self-edge that is the identity changes nothing.
section Exact
variable {K : Type} [Field K] [LinearOrder K] [FloorRing K]

theorem eq_finite {a : Extended K} {b : K} (same : Arithmetic.eq a (Extended.finite b)) : a = .finite b := by
  cases a with
  | finite a =>
    have both : (decide (a ≤ b) && decide (b ≤ a)) = true := same
    rw [Bool.and_eq_true,decide_eq_true_eq,decide_eq_true_eq] at both
    rw [le_antisymm both.1 both.2]
  | infinite negative => cases negative <;> exact absurd same Bool.false_ne_true
  | nan => exact absurd same Bool.false_ne_true

theorem quad_eq_finite {v : Quad (Extended K)} {w : Quad K} (same : Quad.all2 Arithmetic.eq v (w.map Extended.finite)) :
    v = w.map Extended.finite := by
  obtain ⟨a,b,c,d⟩ := v
  unfold Quad.all2 at same
  rw [Bool.and_eq_true,Bool.and_eq_true,Bool.and_eq_true] at same
  obtain ⟨⟨⟨first,second⟩,third⟩,fourth⟩ := same
  have a' : a = .finite w.a := eq_finite first
  have b' : b = .finite w.b := eq_finite second
  have c' : c = .finite w.c := eq_finite third
  have d' : d = .finite w.d := eq_finite fourth
  rw [a',b',c',d']
  rfl

theorem identity_of_isIdentity {m : VoxelTransform (Extended K)} (same : isIdentity m) : m = VoxelTransform.identity := by
  obtain ⟨a,b,c,d⟩ := m
  unfold isIdentity Quad.all2 at same
  rw [Bool.and_eq_true,Bool.and_eq_true,Bool.and_eq_true] at same
  obtain ⟨⟨⟨first,second⟩,third⟩,fourth⟩ := same
  have first' := quad_eq_finite (w := ⟨1,0,0,0⟩) first
  have second' := quad_eq_finite (w := ⟨0,1,0,0⟩) second
  have third' := quad_eq_finite (w := ⟨0,0,1,0⟩) third
  have fourth' := quad_eq_finite (w := ⟨0,0,0,1⟩) fourth
  dsimp only at first' second' third' fourth'
  rw [first',second',third',fourth']
  rfl

theorem scaleAxis_finite (full level : Nat) : ∃ a : K, (scaleAxis full level : Extended K) = .finite a := by
  unfold scaleAxis
  split
  · exact ⟨1,rfl⟩
  · next some' => exact ⟨full/level,Extended.finite_div _ (Nat.cast_ne_zero.mpr some')⟩

theorem composeSelfEdge_eq (ownerSelf : VoxelTransform (Extended K)) (full level : Axes Nat) :
    composeSelfEdge ownerSelf (levelScale full level) = compose ownerSelf (levelScale full level) := by
  unfold composeSelfEdge
  split
  · next same =>
    obtain ⟨x,alongX⟩ := scaleAxis_finite (K := K) full.x level.x
    obtain ⟨y,alongY⟩ := scaleAxis_finite (K := K) full.y level.y
    obtain ⟨z,alongZ⟩ := scaleAxis_finite (K := K) full.z level.z
    have finite : levelScale full level =
        (⟨⟨x,0,0,0⟩,⟨0,y,0,0⟩,⟨0,0,z,0⟩,⟨0,0,0,1⟩⟩ : Quad (Quad K)).map (Quad.map Extended.finite) := by
      rw [levelScale,alongX,alongY,alongZ]
      rfl
    rw [identity_of_isIdentity same,finite]
    exact (compose_identity _).symm
  · rfl

end Exact

section Condition
variable {R D : Type} [Arithmetic R] (toLeBytes : R → List UInt8) (digest : List UInt8 → D)
variable (spec : ProxySpec) (content : DatasetManifest R) (source : ProxySourceData R)

def GeneratesAsEstimated : Prop :=
  generateProxy toLeBytes digest spec content source ≠ .error .panic ∧
    ∀ asset, generateProxy toLeBytes digest spec content source = .ok asset →
      estimateProxyDims spec content = .ok asset.header.dims ∧ asset.voxels.length = asset.header.dims.volume

def OfOneImage (entity : Entity) : Prop := spec.kind = .tileProxy3D ∨ entity.kind ≠ .group

def Picked (id : EntityId) (geometry : LevelGeometry R) : Prop :=
  ∃ image, content.images.find? (fun image => image.owner = id) = some image ∧
    image.multiscale.levels[Proxy.pickLevel image.multiscale.levels spec.targetLongAxis]? = some geometry

def Short (dims : Zyx) : Prop := dims.z < 2^32 ∧ dims.y < 2^32 ∧ dims.x < 2^32

def NoEmptyAxis : Prop := ∀ entity geometry, findEntity content spec.entityId = some entity → OfOneImage spec entity →
  Picked spec content entity.id geometry → Short (spatialDims geometry.shape) →
    0 < geometry.shape.z ∧ 0 < geometry.shape.y ∧ 0 < geometry.shape.x

def FewVoxels : Prop := ∀ entity geometry, findEntity content spec.entityId = some entity → OfOneImage spec entity →
  Picked spec content entity.id geometry → (spatialDims geometry.shape).volume ≤ 2^32

def gridsOf (entries : List (TileEntry R)) : List (VoxelTransform R × Zyx) :=
  entries.map fun entry => (entry.voxelToGroup,entry.volume.dims)

def TilesFit : Prop := ∀ entity entries, findEntity content spec.entityId = some entity → ¬OfOneImage spec entity →
  (tilesOf content entity.id).mapM (tileEntry spec content source entity.id) = .ok entries →
    GroupFits (boundsOf (gridsOf entries)) (groupDimsFromBounds (boundsOf (gridsOf entries)) spec.targetLongAxis) entries

def SameSize : Prop := ∀ entity entries grids, findEntity content spec.entityId = some entity → ¬OfOneImage spec entity →
  (tilesOf content entity.id).mapM (tileEntry spec content source entity.id) = .ok entries →
  (tilesOf content entity.id).mapM (estimateGrid spec content entity.id) = .ok grids →
    groupDimsFromBounds (boundsOf grids) spec.targetLongAxis = groupDimsFromBounds (boundsOf (gridsOf entries)) spec.targetLongAxis

end Condition

section Estimate
variable {R : Type}

theorem levelSpatialDims_cases (geometry : LevelGeometry R) (id : EntityId) :
    (levelSpatialDims geometry id = .ok (spatialDims geometry.shape) ∧ Short (spatialDims geometry.shape)) ∨
      (levelSpatialDims geometry id = .error (.error (.tooLarge id)) ∧ ¬Short (spatialDims geometry.shape)) := by
  unfold levelSpatialDims
  dsimp only
  by_cases z : geometry.shape.z < 2^32
  · rw [if_pos z,ok_then]
    by_cases y : geometry.shape.y < 2^32
    · rw [if_pos y,ok_then]
      by_cases x : geometry.shape.x < 2^32
      · rw [if_pos x]
        exact .inl ⟨rfl,z,y,x⟩
      · rw [if_neg x]
        exact .inr ⟨rfl,fun short => x short.2.2⟩
    · rw [if_neg y]
      exact .inr ⟨rfl,fun short => y short.2.1⟩
  · rw [if_neg z]
    exact .inr ⟨rfl,fun short => z short.1⟩

theorem pickImage_cases {ε : Type} (missingImage emptyMultiscale : EntityId → ε) (content : DatasetManifest R) (id : EntityId) (target : Nat) :
    (∃ cause, pickImage missingImage emptyMultiscale content id target = .error cause) ∨
      ∃ image geometry, content.images.find? (fun image => image.owner = id) = some image ∧ image.multiscale.levels ≠ [] ∧
        image.multiscale.levels[Proxy.pickLevel image.multiscale.levels target]? = some geometry ∧
        pickImage missingImage emptyMultiscale content id target = .ok (image,Proxy.pickLevel image.multiscale.levels target) := by
  unfold pickImage
  cases found : content.images.find? fun image => image.owner = id with
  | none => exact .inl ⟨_,rfl⟩
  | some image =>
    dsimp only
    split
    · exact .inl ⟨_,rfl⟩
    · next some' => exact .inr ⟨image,_,rfl,some',List.getElem?_eq_getElem (pickLevel_lt some' target),rfl⟩

theorem estimateLevel_cases (spec : ProxySpec) (content : DatasetManifest R) (id : EntityId) :
    (∃ error, estimateLevel spec content id = .error (.error error)) ∧
        (∀ geometry, Picked spec content id geometry → ¬Short (spatialDims geometry.shape)) ∨
      ∃ image geometry, content.images.find? (fun image => image.owner = id) = some image ∧ Picked spec content id geometry ∧
        image.multiscale.levels ≠ [] ∧
        image.multiscale.levels[Proxy.pickLevel image.multiscale.levels spec.targetLongAxis]? = some geometry ∧
        Short (spatialDims geometry.shape) ∧
        estimateLevel spec content id =
          .ok (image,Proxy.pickLevel image.multiscale.levels spec.targetLongAxis,spatialDims geometry.shape) := by
  rcases pickImage_cases EstimateError.missingImage .emptyMultiscale content id spec.targetLongAxis with
    ⟨cause,stopped⟩ | ⟨image,geometry,found,some',here,picked⟩
  · left
    refine ⟨⟨cause,by unfold estimateLevel; rw [stopped]; rfl⟩,?_⟩
    rintro geometry ⟨image,found,here⟩
    have none' : image.multiscale.levels ≠ [] := by
      rintro empty
      rw [empty] at here
      cases here
    rw [pickImage,found] at stopped
    dsimp only at stopped
    rw [if_neg none'] at stopped
    cases stopped
  · rcases levelSpatialDims_cases geometry id with ⟨made,short⟩ | ⟨stopped,long⟩
    · right
      refine ⟨image,geometry,found,⟨image,found,here⟩,some',here,short,?_⟩
      unfold estimateLevel
      rw [picked]
      dsimp only [Except.mapError]
      rw [ok_then]
      dsimp only
      rw [here]
      dsimp only
      rw [made]
      rfl
    · left
      refine ⟨⟨.tooLarge id,?_⟩,?_⟩
      · unfold estimateLevel
        rw [picked]
        dsimp only [Except.mapError]
        rw [ok_then]
        dsimp only
        rw [here]
        dsimp only
        rw [stopped]
        rfl
      · rintro other ⟨image',found',here'⟩
        cases found.symm.trans found'
        cases here.symm.trans here'
        exact long

variable [Arithmetic R] {spec : ProxySpec} {content : DatasetManifest R} {entity : Entity} (positive : spec.targetLongAxis ≠ 0)
  (found : findEntity content spec.entityId = some entity)
include positive found

theorem estimateProxyDims_one (one : OfOneImage spec entity) : estimateProxyDims spec content = estimateTileDims spec content entity := by
  unfold estimateProxyDims
  rw [if_neg positive,found]
  dsimp only
  cases kind : spec.kind with
  | tileProxy3D => rfl
  | groupProxy3D =>
    rcases one with tile | noGroup
    · rw [kind] at tile
      cases tile
    · exact if_pos noGroup

theorem estimateProxyDims_group (group : ¬OfOneImage spec entity) : estimateProxyDims spec content =
    if tilesOf content entity.id = [] then .error (.error (.noTiles entity.id)) else do
      let grids ← (tilesOf content entity.id).mapM (estimateGrid spec content entity.id)
      return groupDimsFromBounds (boundsOf grids) spec.targetLongAxis := by
  obtain ⟨tile,kind⟩ := not_or.mp group
  have groupProxy : spec.kind = .groupProxy3D := by
    cases kind : spec.kind with
    | tileProxy3D => exact absurd kind tile
    | groupProxy3D => rfl
  unfold estimateProxyDims
  rw [if_neg positive,found,groupProxy]
  exact if_neg kind

section
variable {D : Type} (toLeBytes : R → List UInt8) (digest : List UInt8 → D) (source : ProxySourceData R)

theorem generateProxy_one (one : OfOneImage spec entity) : generateProxy toLeBytes digest spec content source =
    downsampleTile toLeBytes digest spec content source entity := by
  unfold generateProxy
  rw [if_neg positive,found]
  dsimp only
  cases kind : spec.kind with
  | tileProxy3D => rfl
  | groupProxy3D =>
    rcases one with tile | noGroup
    · rw [kind] at tile
      cases tile
    · exact if_pos noGroup

theorem generateProxy_group (group : ¬OfOneImage spec entity) : generateProxy toLeBytes digest spec content source =
    if tilesOf content entity.id = [] then .error (.error (.noTiles entity.id)) else do
      let entries ← (tilesOf content entity.id).mapM (tileEntry spec content source entity.id)
      let out := groupDimsFromBounds (boundsOf (gridsOf entries)) spec.targetLongAxis
      let voxels ← panics (aggregateVoxels (boundsOf (gridsOf entries)) out entries)
      return proxyAsset toLeBytes digest spec content out voxels := by
  obtain ⟨tile,kind⟩ := not_or.mp group
  have groupProxy : spec.kind = .groupProxy3D := by
    cases kind : spec.kind with
    | tileProxy3D => exact absurd kind tile
    | groupProxy3D => rfl
  unfold generateProxy
  rw [if_neg positive,found,groupProxy]
  exact if_neg kind

end

theorem estimate_one_iff (one : OfOneImage spec entity) : estimateProxyDims spec content ≠ .error .panic ↔ NoEmptyAxis spec content := by
  rw [estimateProxyDims_one positive found one,estimateTileDims]
  rcases estimateLevel_cases spec content entity.id with ⟨⟨error,stopped⟩,long⟩ | ⟨image,geometry,owned,picked,_,here,short,made⟩
  · rw [stopped]
    refine iff_of_true (fun panic => by cases panic) fun other geometry found' _ picked short => ?_
    cases found.symm.trans found'
    exact absurd short (long geometry picked)
  · rw [made,ok_then]
    dsimp only
    constructor
    · intro calm other geometry' found' _ picked' _
      cases found.symm.trans found'
      obtain ⟨image',owned',here'⟩ := picked'
      cases owned.symm.trans owned'
      cases here.symm.trans here'
      by_contra empty
      refine calm (targetDims_panics R ?_ _)
      dsimp only [spatialDims]
      omega
    · intro full panic
      have wide : 0 < (spatialDims geometry.shape).z ∧ 0 < (spatialDims geometry.shape).y ∧ 0 < (spatialDims geometry.shape).x :=
        full entity geometry found one picked short
      obtain ⟨out,sized,_⟩ := targetDims_ok R wide spec.targetLongAxis
      exact absurd ((sized _).symm.trans panic) (by simp)

theorem estimate_group_ne_panic (group : ¬OfOneImage spec entity) : estimateProxyDims spec content ≠ .error .panic := by
  rw [estimateProxyDims_group positive found group]
  intro panic
  split at panic
  · cases panic
  cases ran : (tilesOf content entity.id).mapM (estimateGrid spec content entity.id) with
  | ok grids =>
    rw [ran] at panic
    cases panic
  | error cause =>
    rw [ran] at panic
    cases panic
    obtain ⟨tile,_,stopped⟩ := mapM_error ran
    unfold estimateGrid at stopped
    rcases estimateLevel_cases spec content tile.id with ⟨⟨error,failed⟩,_⟩ | ⟨image,geometry,_,_,some',here,_,made⟩
    · rw [failed] at stopped
      cases stopped
    · rw [made,ok_then] at stopped
      dsimp only at stopped
      unfold estimateLevelVoxelToImage at stopped
      rw [here,List.head?_eq_some_head some'] at stopped
      cases stopped

end Estimate

section Built
variable {R D : Type} {unitFloatToU16 : Bytes → UInt16} {read : ImageId → String → Except (Stop ChunkReadError) ChunkRead}
variable {spec : ProxySpec} {content : DatasetManifest R} {source : ServerProxySource R} {image : ImageSpec R} {id : EntityId}
variable {volume : TileVolume R}

theorem pickLevel_of_levels (some' : image.multiscale.levels ≠ []) (target : Nat) :
    pickLevel image target = Proxy.pickLevel image.multiscale.levels target := if_neg some'

theorem ownedImage_ok {owner : EntityId} (chosen : ownedImage content owner = .ok image) :
    content.images.find? (fun image => image.owner = owner) = some image := by
  unfold ownedImage at chosen
  split at chosen
  · next found =>
    cases chosen
    exact found
  · cases chosen

variable [Arithmetic R]

theorem levels_of_dense {level : Nat} (dense : Dense content image level volume) : image.multiscale.levels ≠ [] := by
  obtain ⟨_,_,here,_⟩ := dense.level
  rintro empty
  rw [empty] at here
  cases here

theorem Holds.tile {images : List (ImageSpec R)} (holds : Holds spec content images source) (listed : image ∈ images)
    (owned : content.images.find? (fun image => image.owner = id) = some image) :
    ∃ geometry other volume, image.multiscale.levels ≠ [] ∧
      image.multiscale.levels[Proxy.pickLevel image.multiscale.levels spec.targetLongAxis]? = some geometry ∧
      Short (spatialDims geometry.shape) ∧ (0 < geometry.shape.z ∧ 0 < geometry.shape.y ∧ 0 < geometry.shape.x) ∧
      other ∈ images ∧ other.imageId = image.imageId ∧ readTile spec content source.readTileVolume id = .ok volume ∧
      Dense content other (pickLevel other spec.targetLongAxis) volume := by
  obtain ⟨⟨own,dense⟩,other,member,sameId,sameLevel,volume,found,dense'⟩ := holds image listed
  have some' := levels_of_dense dense
  obtain ⟨geometry,level0,here,_,whole,_⟩ := dense.level
  rw [pickLevel_of_levels some'] at here found
  have wide := dense.positive
  have short := dense.short
  rw [whole] at wide short
  refine ⟨geometry,other,volume,some',here,short,wide,member,sameId,?_,dense'⟩
  unfold readTile pickImage
  rw [owned]
  dsimp only
  rw [if_neg some']
  show (source.readTileVolume image.imageId spec.t spec.c (Proxy.pickLevel image.multiscale.levels spec.targetLongAxis)).mapError _ = _
  rw [readTileVolume_of_lookup found]
  rfl

variable (toLeBytes : R → List UInt8) (digest : List UInt8 → D) {entity : Entity}

theorem one_generates_iff (positive : spec.targetLongAxis ≠ 0) (found : findEntity content spec.entityId = some entity)
    (built : buildServerProxySource unitFloatToU16 read spec content = .ok source) (one : OfOneImage spec entity) :
    GeneratesAsEstimated toLeBytes digest spec content source.readTileVolume ↔ FewVoxels spec content := by
  obtain ⟨entity',images,found',chosen,holds⟩ := built_holds built
  cases found.symm.trans found'
  unfold contributing at chosen
  rw [if_pos (show spec.kind = .tileProxy3D ∨ entity.kind ≠ .group from one)] at chosen
  obtain ⟨image,owned,single⟩ := bind_ok chosen
  cases single
  have owned := ownedImage_ok owned
  obtain ⟨geometry,other,volume,some',here,short,wide,member,_,ran,dense⟩ := holds.tile (List.mem_singleton_self image) owned
  cases List.mem_singleton.mp member
  obtain ⟨geometry',_,here',_,whole,_⟩ := dense.level
  rw [pickLevel_of_levels some'] at here'
  cases here.symm.trans here'
  have few : FewVoxels spec content ↔ volume.dims.volume ≤ 2^32 := by
    constructor
    · intro few
      rw [whole]
      exact few entity geometry found one ⟨image,owned,here⟩
    · intro fits other geometry' found' _ picked
      cases found.symm.trans found'
      obtain ⟨image',owned',here'⟩ := picked
      cases owned.symm.trans owned'
      cases here.symm.trans here'
      rwa [whole] at fits
  have estimated : estimateProxyDims spec content = targetDimsForLongAxis R volume.dims spec.targetLongAxis := by
    rw [estimateProxyDims_one positive found one,estimateTileDims]
    rcases estimateLevel_cases spec content entity.id with ⟨_,long⟩ | ⟨image',geometry',owned',_,_,here',_,made⟩
    · exact absurd short (long geometry ⟨image,owned,here⟩)
    · cases owned.symm.trans owned'
      cases here.symm.trans here'
      rw [made,ok_then,whole]
  unfold GeneratesAsEstimated
  rw [few,generateProxy_one positive found toLeBytes digest source.readTileVolume one,downsampleTile,ran,ok_then,estimated]
  by_cases fits : volume.dims.volume ≤ 2^32
  · obtain ⟨result,out,filtered,full,sized⟩ := boxFilter_ok spec.targetLongAxis R dense.wellFormed.sized dense.positive fits
    refine iff_of_true ?_ fits
    rw [filtered,sized]
    refine ⟨nofun,fun asset made => ?_⟩
    cases made
    exact ⟨rfl,full⟩
  · refine iff_of_false ?_ fits
    rintro ⟨calm,_⟩
    refine calm ?_
    rw [boxFilter_panics _ R dense.positive (Nat.not_le.mp fits)]
    rfl

theorem group_tiles (found : findEntity content spec.entityId = some entity)
    (built : buildServerProxySource unitFloatToU16 read spec content = .ok source) (group : ¬OfOneImage spec entity) :
    tilesOf content entity.id ≠ [] ∧ ∀ tile ∈ tilesOf content entity.id, ∃ image geometry other volume,
      content.images.find? (fun image => image.owner = tile.id) = some image ∧ image.multiscale.levels ≠ [] ∧
        image.multiscale.levels[Proxy.pickLevel image.multiscale.levels spec.targetLongAxis]? = some geometry ∧
        Short (spatialDims geometry.shape) ∧ other ∈ content.images ∧ other.imageId = image.imageId ∧
        readTile spec content source.readTileVolume tile.id = .ok volume ∧
        Dense content other (pickLevel other spec.targetLongAxis) volume := by
  obtain ⟨entity',images,found',chosen,holds⟩ := built_holds built
  cases found.symm.trans found'
  unfold contributing at chosen
  rw [if_neg (show ¬(spec.kind = .tileProxy3D ∨ entity.kind ≠ .group) from group)] at chosen
  obtain ⟨owned,mapped,last⟩ := bind_ok chosen
  split at last
  · cases last
  next some' =>
  cases last
  have each := mapM_ok_iff.mp mapped
  refine ⟨?_,fun tile member => ?_⟩
  · rintro none'
    rw [none'] at each
    cases each
    exact some' rfl
  · obtain ⟨image,listed,own⟩ := exists_of_forall₂ each member
    have own := ownedImage_ok own
    obtain ⟨geometry,other,volume,levels,here,short,_,among,sameId,ran,dense⟩ := holds.tile listed own
    obtain ⟨child,_,others⟩ := exists_of_forall₂ each.flip among
    exact ⟨image,geometry,other,volume,own,levels,here,short,List.mem_of_find?_eq_some (ownedImage_ok others),sameId,ran,dense⟩

theorem group_generates_iff (positive : spec.targetLongAxis ≠ 0) (found : findEntity content spec.entityId = some entity)
    (built : buildServerProxySource unitFloatToU16 read spec content = .ok source) (group : ¬OfOneImage spec entity) :
    GeneratesAsEstimated toLeBytes digest spec content source.readTileVolume ↔
      TilesFit spec content source.readTileVolume ∧ SameSize spec content source.readTileVolume := by
  obtain ⟨some',tiles⟩ := group_tiles found built group
  obtain ⟨entries,mapped,each⟩ : ∃ entries,
      (tilesOf content entity.id).mapM (tileEntry spec content source.readTileVolume entity.id) = .ok entries ∧
      List.Forall₂ (fun _ entry => entry.volume.WellFormed) (tilesOf content entity.id) entries := by
    refine exists_mapM_ok fun tile member => ?_
    obtain ⟨image,geometry,other,volume,_,_,_,_,_,_,ran,dense⟩ := tiles tile member
    exact ⟨_,ok_bind ran rfl,dense.wellFormed⟩
  have wellFormed : ∀ entry ∈ entries, entry.volume.WellFormed := by
    intro entry member
    obtain ⟨_,_,holds⟩ := exists_of_forall₂ each.flip member
    exact holds
  obtain ⟨grids,measured,_⟩ : ∃ grids, (tilesOf content entity.id).mapM (estimateGrid spec content entity.id) = .ok grids ∧
      List.Forall₂ (fun _ _ => True) (tilesOf content entity.id) grids := by
    refine exists_mapM_ok fun tile member => ?_
    obtain ⟨image,geometry,_,_,owned,levels,here,short,_⟩ := tiles tile member
    unfold estimateGrid
    rcases estimateLevel_cases spec content tile.id with ⟨_,long⟩ | ⟨image',geometry',owned',_,_,here',_,made⟩
    · exact absurd short (long geometry ⟨image,owned,here⟩)
    · cases owned.symm.trans owned'
      cases here.symm.trans here'
      rw [made,ok_then]
      dsimp only
      unfold estimateLevelVoxelToImage
      rw [here,List.head?_eq_some_head levels]
      exact ⟨_,rfl,trivial⟩
  have fit : TilesFit spec content source.readTileVolume ↔
      GroupFits (boundsOf (gridsOf entries)) (groupDimsFromBounds (boundsOf (gridsOf entries)) spec.targetLongAxis) entries := by
    refine ⟨fun fits => fits entity entries found group mapped,fun fits other entries' found' _ mapped' => ?_⟩
    cases found.symm.trans found'
    cases mapped.symm.trans mapped'
    exact fits
  have size : SameSize spec content source.readTileVolume ↔ groupDimsFromBounds (boundsOf grids) spec.targetLongAxis =
      groupDimsFromBounds (boundsOf (gridsOf entries)) spec.targetLongAxis := by
    refine ⟨fun same => same entity entries grids found group mapped measured,fun same other entries' grids' found' _ mapped' measured' => ?_⟩
    cases found.symm.trans found'
    cases mapped.symm.trans mapped'
    cases measured.symm.trans measured'
    exact same
  have wide : 0 < (groupDimsFromBounds (boundsOf (gridsOf entries)) spec.targetLongAxis).x :=
    Nat.lt_of_lt_of_le Nat.one_pos (Nat.le_max_right _ _)
  rw [fit,size]
  unfold GeneratesAsEstimated
  rw [generateProxy_group positive found toLeBytes digest source.readTileVolume group,if_neg some',mapped,ok_then,
    estimateProxyDims_group positive found group,if_neg some',measured,ok_then]
  dsimp only
  constructor
  · rintro ⟨calm,agrees⟩
    cases ran : aggregateVoxels (boundsOf (gridsOf entries)) (groupDimsFromBounds (boundsOf (gridsOf entries)) spec.targetLongAxis) entries with
    | error cause =>
      rw [ran] at calm
      exact absurd rfl calm
    | ok voxels =>
      rw [ran] at agrees
      have same := (agrees _ rfl).1
      injection same with same
      exact ⟨aggregate_fits wellFormed wide ran,same⟩
  · rintro ⟨fits,same⟩
    obtain ⟨voxels,ran,full⟩ := aggregate_ok wellFormed wide fits
    rw [ran]
    refine ⟨nofun,fun asset made => ?_⟩
    cases made
    exact ⟨congrArg Except.ok same,full⟩

end Built

section Claim
variable {K D : Type} [Field K] [LinearOrder K] [FloorRing K]
variable (toLeBytes : Extended K → List UInt8) (digest : List UInt8 → D) (unitFloatToU16 : Bytes → UInt16)
variable (read : ImageId → String → Except (Stop ChunkReadError) ChunkRead) (spec : ProxySpec) (content : DatasetManifest (Extended K))

def DistinctIds {R : Type} (content : DatasetManifest R) : Prop :=
  ∀ a ∈ content.images, ∀ b ∈ content.images, a.imageId = b.imageId → a = b

-- Two images that a proxy cannot tell apart by their geometry: they lie alike in their entities, and their first levels
-- and the levels picked of them have the same shapes.
structure SamePick {R : Type} [Arithmetic R] (spec : ProxySpec) (content : DatasetManifest R) (image other : ImageSpec R) : Prop where
  placed : findVoxelToImage content image.owner = findVoxelToImage content other.owner
  first : image.multiscale.levels.head?.map (·.shape) = other.multiscale.levels.head?.map (·.shape)
  picked : image.multiscale.levels[pickLevel image spec.targetLongAxis]?.map (·.shape) =
    other.multiscale.levels[pickLevel other spec.targetLongAxis]?.map (·.shape)

def SharedAlike {R : Type} [Arithmetic R] (spec : ProxySpec) (content : DatasetManifest R) : Prop :=
  ∀ image ∈ content.images, ∀ other ∈ content.images, image.imageId = other.imageId → SamePick spec content image other

theorem sharedAlike_of_distinct {R : Type} [Arithmetic R] {spec : ProxySpec} {content : DatasetManifest R} (distinct : DistinctIds content) :
    SharedAlike spec content := by
  intro image member other member' same
  cases distinct image member other member' same
  exact ⟨rfl,rfl,rfl⟩

variable {unitFloatToU16 read spec content} in
theorem same_size_of_shared {source : ServerProxySource (Extended K)} (alike : SharedAlike spec content)
    (built : buildServerProxySource unitFloatToU16 read spec content = .ok source) : SameSize spec content source.readTileVolume := by
  intro entity entries grids found group mapped measured
  obtain ⟨_,tiles⟩ := group_tiles found built group
  have each : ∀ tile ∈ tilesOf content entity.id, ∀ entry,
      tileEntry spec content source.readTileVolume entity.id tile = .ok entry →
        estimateGrid spec content entity.id tile = .ok (entry.voxelToGroup,entry.volume.dims) := by
    intro tile member entry made
    obtain ⟨image,geometry,other,volume,owned,levels,here,short,among,sameId,ran,dense⟩ := tiles tile member
    obtain ⟨placed,heads,picked⟩ := alike image (List.mem_of_find?_eq_some owned) other among sameId.symm
    obtain ⟨geometry',level0,here',first,whole,way⟩ := dense.level
    rw [pickLevel_of_levels levels,here,here'] at picked
    have shapes : geometry.shape = geometry'.shape := Option.some_injective _ picked
    rw [List.head?_eq_some_head levels,first] at heads
    have level0Shapes : (image.multiscale.levels.head levels).shape = level0.shape := Option.some_injective _ heads
    rw [composeSelfEdge_eq,← placed,← shapes,← level0Shapes] at way
    rw [← shapes] at whole
    unfold tileEntry at made
    rw [ran,ok_then] at made
    cases made
    unfold estimateGrid
    rcases estimateLevel_cases spec content tile.id with ⟨_,long⟩ | ⟨image',geometry'',owned',_,_,here'',_,made⟩
    · exact absurd short (long geometry ⟨image,owned,here⟩)
    · cases owned.symm.trans owned'
      cases here.symm.trans here''
      rw [made,ok_then]
      dsimp only
      unfold estimateLevelVoxelToImage
      rw [here,List.head?_eq_some_head levels]
      dsimp only
      rw [ok_then,way,whole]
      rfl
  have grids' : (tilesOf content entity.id).mapM (estimateGrid spec content entity.id) = .ok (gridsOf entries) := by
    rw [mapM_ok_iff,gridsOf,List.forall₂_map_right_iff]
    exact ((List.forall₂_and_left _ _).mpr ⟨fun tile member => member,mapM_ok_iff.mp mapped⟩).imp
      fun tile entry both => each tile both.1 entry both.2
  cases measured.symm.trans grids'
  rfl

-- The estimate and generation agree, without a panic, exactly if an entity's own level has no empty axis and at most
-- 2^32 voxels, and a group's tiles fit and are read in the size they are measured in.
theorem proxy_estimate_matches_iff (positive : 0 < spec.targetLongAxis) :
    ((estimateProxyDims spec content ≠ .error .panic ∧
        ∀ source, buildServerProxySource unitFloatToU16 read spec content = .ok source →
          GeneratesAsEstimated toLeBytes digest spec content source.readTileVolume) ↔
      NoEmptyAxis spec content ∧ ∀ source, buildServerProxySource unitFloatToU16 read spec content = .ok source →
        FewVoxels spec content ∧ TilesFit spec content source.readTileVolume ∧ SameSize spec content source.readTileVolume) ∧
    (SharedAlike spec content → ∀ source, buildServerProxySource unitFloatToU16 read spec content = .ok source →
      SameSize spec content source.readTileVolume) := by
  refine ⟨?_,fun alike source built => same_size_of_shared alike built⟩
  have nonzero := Nat.ne_of_gt positive
  cases found : findEntity content spec.entityId with
  | none =>
    have missing : estimateProxyDims spec content = .error (.error (.missingEntity spec.entityId)) := by
      unfold estimateProxyDims
      rw [if_neg nonzero,found]
    have unbuilt : ∀ source, buildServerProxySource unitFloatToU16 read spec content ≠ .ok source := by
      intro source built
      obtain ⟨entity,_,found',_⟩ := built_holds built
      cases found.symm.trans found'
    refine iff_of_true ⟨by rw [missing]; nofun,fun source built => absurd built (unbuilt source)⟩ ⟨?_,fun source built => absurd built (unbuilt source)⟩
    intro entity _ found'
    cases found.symm.trans found'
  | some entity =>
    by_cases one : OfOneImage spec entity
    · have noTiles (source : ProxySourceData (Extended K)) : TilesFit spec content source := by
        intro other _ found' group
        cases found.symm.trans found'
        exact absurd one group
      have noSize (source : ProxySourceData (Extended K)) : SameSize spec content source := by
        intro other _ _ found' group
        cases found.symm.trans found'
        exact absurd one group
      refine and_congr (estimate_one_iff nonzero found one) (forall₂_congr fun source built => ?_)
      rw [one_generates_iff toLeBytes digest nonzero found built one]
      exact (and_iff_left ⟨noTiles _,noSize _⟩).symm
    · have noAxis : NoEmptyAxis spec content := by
        intro other _ found' one'
        cases found.symm.trans found'
        exact absurd one' one
      have noVoxels : FewVoxels spec content := by
        intro other _ found' one'
        cases found.symm.trans found'
        exact absurd one' one
      refine and_congr (iff_of_true (estimate_group_ne_panic nonzero found one) noAxis) (forall₂_congr fun source built => ?_)
      rw [group_generates_iff toLeBytes digest nonzero found built one]
      exact (and_iff_right noVoxels).symm

end Claim

section Examples

def noLabels : EntityLabels := ⟨none,none,none,none,none,none⟩

def tiledManifest (shape : Axes Nat) : DatasetManifest (Extended ℚ) where
  datasetId := "set"
  name := "Set"
  kind := .single
  entities := [⟨"group",.group,none,noLabels⟩,⟨"tile",.tile,some "group",noLabels⟩]
  transforms := []
  images := [⟨"image","tile",⟨[],[⟨0,shape,⟨1,1,1,1,1⟩,⟨1,1,1,1,1⟩,⟨1,1,1,1,1⟩⟩],none,[],.uint8,[],[],none⟩⟩]
  sourceLayouts := []
  defaultLayoutId := none
  labels := []

def tileSpec (targetLongAxis : Nat) : ProxySpec := ⟨"tile",.tileProxy3D,0,0,targetLongAxis⟩

def groupSpec (targetLongAxis : Nat) : ProxySpec := ⟨"group",.groupProxy3D,0,0,targetLongAxis⟩

def absentChunks (_ : ImageId) (_ : String) : Except (Stop ChunkReadError) ChunkRead := .ok (.absent 1)

theorem picked_tiled {shape : Axes Nat} {targetLongAxis : Nat} {entity : Entity} {geometry : LevelGeometry (Extended ℚ)}
    (found : findEntity (tiledManifest shape) "tile" = some entity) (picked : Picked (tileSpec targetLongAxis) (tiledManifest shape) entity.id geometry) :
    geometry.shape = shape := by
  cases found
  obtain ⟨image,owned,here⟩ := picked
  cases owned
  have first := List.mem_singleton.mp (List.mem_of_getElem? here)
  rw [first]

def oneVoxel : TileVolume (Extended ℚ) := ⟨[0],⟨1,1,1⟩,VoxelTransform.identity⟩

theorem built_one_voxel {target : Nat} (known : target = 2 ∨ target = 2048) : ∃ source,
    buildServerProxySource (fun _ => 0) absentChunks (groupSpec target) (tiledManifest ⟨1,1,1,1,1⟩) = .ok source ∧
      source.readTileVolume "image" 0 0 0 = .ok oneVoxel := by
  have fetched : fetchDenseVolume (fun _ => 0) absentChunks (tiledManifest ⟨1,1,1,1,1⟩)
      ⟨"image","tile",⟨[],[⟨0,⟨1,1,1,1,1⟩,⟨1,1,1,1,1⟩,⟨1,1,1,1,1⟩,⟨1,1,1,1,1⟩⟩],none,[],.uint8,[],[],none⟩⟩ 0 0 0 = .ok oneVoxel := by
    decide +kernel
  have chosen : contributing (groupSpec target) (tiledManifest ⟨1,1,1,1,1⟩) ⟨"group",.group,none,noLabels⟩ =
      .ok (tiledManifest ⟨1,1,1,1,1⟩).images := by rfl
  refine ⟨(∅ : ServerProxySource (Extended ℚ)).insert ⟨"image",0,0,0⟩ oneVoxel,?_,readTileVolume_of_lookup (Finmap.lookup_insert _)⟩
  unfold buildServerProxySource
  rcases known with rfl | rfl <;> exact ok_bind chosen (ok_bind (ok_bind fetched rfl) rfl)

def oneEntry : TileEntry (Extended ℚ) := ⟨oneVoxel,VoxelTransform.identity,VoxelTransform.identity⟩

theorem entries_of_one_voxel {target : Nat} (known : target = 2 ∨ target = 2048) {source : ProxySourceData (Extended ℚ)}
    (shown : source "image" 0 0 0 = .ok oneVoxel) :
    (tilesOf (tiledManifest ⟨1,1,1,1,1⟩) "group").mapM (tileEntry (groupSpec target) (tiledManifest ⟨1,1,1,1,1⟩) source "group") =
      .ok [oneEntry] := by
  have same : readTile (groupSpec target) (tiledManifest ⟨1,1,1,1,1⟩) source "tile" = .ok oneVoxel := by
    rcases known with rfl | rfl
    all_goals
      show (source "image" 0 0 0).mapError _ = _
      rw [shown]
      rfl
  have entry : (do
      let volume ← (.ok oneVoxel : Except (Stop GenerateError) (TileVolume (Extended ℚ)))
      let voxelToGroup := compose (findTileToGroup (tiledManifest ⟨1,1,1,1,1⟩) "tile" "group") volume.voxelToImage
      return (⟨volume,voxelToGroup,(invert voxelToGroup).getD VoxelTransform.identity⟩ : TileEntry (Extended ℚ))) = .ok oneEntry := by
    decide +kernel
  rw [← same] at entry
  exact ok_bind entry rfl

-- Any box of the one voxel is that voxel, which is 0.
theorem oneEntry_sum (lo hi : Zyx) : (boxSamples oneEntry.volume.data oneEntry.volume.dims lo hi).sum = 0 := by
  refine List.sum_eq_zero fun sample member => ?_
  obtain ⟨row,_,inRow⟩ := List.mem_flatMap.mp member
  obtain ⟨x,_,rfl⟩ := List.mem_map.mp inRow
  cases held : oneEntry.volume.data[oneEntry.volume.dims.index ⟨row.1,row.2,x⟩]? with
  | none => rfl
  | some value =>
    cases List.mem_singleton.mp (List.mem_of_getElem? held)
    rfl

theorem oneEntry_fits : GroupFits (boundsOf (gridsOf [oneEntry])) (groupDimsFromBounds (boundsOf (gridsOf [oneEntry])) 2) [oneEntry] := by
  have small : groupDimsFromBounds (boundsOf (gridsOf [oneEntry])) 2 = ⟨2,2,2⟩ := by decide +kernel
  rw [small]
  refine ⟨by decide,?_,?_,?_⟩
  · intro entry _ o inside _
    exact (Zyx.index_lt inside).trans (by decide)
  · intro entry member _ _ box _
    cases List.mem_singleton.mp member
    rw [oneEntry_sum]
    decide
  · intro o _
    exact (List.length_filter_le _ _).trans_lt (by decide)

theorem oneEntry_panics : aggregateVoxels (boundsOf (gridsOf [oneEntry])) (groupDimsFromBounds (boundsOf (gridsOf [oneEntry])) 2048) [oneEntry] =
    .error .panic := by
  have wide : groupDimsFromBounds (boundsOf (gridsOf [oneEntry])) 2048 = ⟨2048,2048,2048⟩ := by decide +kernel
  have met : (sampleBox (boundsOf (gridsOf [oneEntry])) ⟨2048,2048,2048⟩ oneEntry ⟨2047,2047,2047⟩).isSome := by decide +kernel
  rw [wide]
  refine panic_of_not_ok fun voxels ran => ?_
  have wellFormed : ∀ entry ∈ [oneEntry], entry.volume.WellFormed := by
    intro entry member
    cases List.mem_singleton.mp member
    exact ⟨rfl,by decide⟩
  have fits := aggregate_fits wellFormed (by decide) ran
  exact absurd (fits.place oneEntry (List.mem_singleton_self _) ⟨2047,2047,2047⟩ (by decide) met) (by decide)

theorem wide_group_panics {source : ProxySourceData (Extended ℚ)} (shown : source "image" 0 0 0 = .ok oneVoxel) :
    generateProxy (fun _ => []) id (groupSpec 2048) (tiledManifest ⟨1,1,1,1,1⟩) source = .error .panic := by
  have mapped := entries_of_one_voxel (.inr rfl) shown
  have found : findEntity (tiledManifest ⟨1,1,1,1,1⟩) (groupSpec 2048).entityId = some ⟨"group",.group,none,noLabels⟩ := by rfl
  rw [generateProxy_group (by decide) found (fun _ => []) id source (by unfold OfOneImage; decide),if_neg (by decide)]
  dsimp only
  rw [mapped,ok_then]
  dsimp only [groupSpec]
  rw [oneEntry_panics]
  rfl

-- An image of 2 by 4 by 4 voxels and a group of one voxel are estimated and, whenever they are read, generated as they
-- were estimated.
theorem small_proxies_match :
    (estimateProxyDims (tileSpec 2) (tiledManifest ⟨1,1,2,4,4⟩) ≠ .error .panic ∧
      ∀ source, buildServerProxySource (fun _ => 0) absentChunks (tileSpec 2) (tiledManifest ⟨1,1,2,4,4⟩) = .ok source →
        GeneratesAsEstimated (fun _ => []) id (tileSpec 2) (tiledManifest ⟨1,1,2,4,4⟩) source.readTileVolume) ∧
    ∃ source, buildServerProxySource (fun _ => 0) absentChunks (groupSpec 2) (tiledManifest ⟨1,1,1,1,1⟩) = .ok source ∧
      GeneratesAsEstimated (fun _ => []) id (groupSpec 2) (tiledManifest ⟨1,1,1,1,1⟩) source.readTileVolume := by
  constructor
  · refine (proxy_estimate_matches_iff (fun _ => []) id (fun _ => 0) absentChunks (tileSpec 2) (tiledManifest ⟨1,1,2,4,4⟩)
      (by decide)).1.mpr ⟨?_,fun source _ => ⟨?_,fun _ _ _ group => absurd (.inl rfl) group,fun _ _ _ _ group => absurd (.inl rfl) group⟩⟩
    · intro entity geometry found _ picked _
      rw [picked_tiled found picked]
      decide
    · intro entity geometry found _ picked
      rw [picked_tiled found picked]
      decide
  · obtain ⟨source,built,shown⟩ := built_one_voxel (.inl rfl)
    have distinct : DistinctIds (tiledManifest ⟨1,1,1,1,1⟩) := by
      intro image member other member' _
      rw [List.mem_singleton.mp member,List.mem_singleton.mp member']
    have ofTiles {entity : Entity} (found : findEntity (tiledManifest ⟨1,1,1,1,1⟩) (groupSpec 2).entityId = some entity) :
        entity = ⟨"group",.group,none,noLabels⟩ ∧ ¬OfOneImage (groupSpec 2) entity := by
      cases found
      refine ⟨rfl,?_⟩
      unfold OfOneImage
      decide
    obtain ⟨matches',alike⟩ :=
      proxy_estimate_matches_iff (fun _ => []) id (fun _ => 0) absentChunks (groupSpec 2) (tiledManifest ⟨1,1,1,1,1⟩) (by decide)
    refine ⟨source,built,(matches'.mpr ⟨fun _ _ found one => absurd one (ofTiles found).2,fun other built' => ?_⟩).2 source built⟩
    cases built.symm.trans built'
    refine ⟨fun _ _ found one => absurd one (ofTiles found).2,?_,alike (sharedAlike_of_distinct distinct) source built⟩
    intro entity entries found _ mapped
    obtain ⟨rfl,_⟩ := ofTiles found
    cases (entries_of_one_voxel (.inl rfl) shown).symm.trans mapped
    exact oneEntry_fits

-- The estimate of an image without columns panics, and so does generation for a target of 2048: the places of the
-- proxy's voxels are counted in 32 bits.
theorem estimate_and_generation_can_panic :
    (¬∀ (spec : ProxySpec) (content : DatasetManifest (Extended ℚ)), 0 < spec.targetLongAxis →
      estimateProxyDims spec content ≠ .error .panic ∧
        ∀ source, buildServerProxySource (fun _ => 0) absentChunks spec content = .ok source →
          GeneratesAsEstimated (fun _ => []) id spec content source.readTileVolume) ∧
    estimateProxyDims (tileSpec 64) (tiledManifest ⟨1,1,1,1,0⟩) = .error .panic ∧
    ∃ source, buildServerProxySource (fun _ => 0) absentChunks (groupSpec 2048) (tiledManifest ⟨1,1,1,1,1⟩) = .ok source ∧
      generateProxy (fun _ => []) id (groupSpec 2048) (tiledManifest ⟨1,1,1,1,1⟩) source.readTileVolume = .error .panic := by
  have empty : estimateProxyDims (tileSpec 64) (tiledManifest ⟨1,1,1,1,0⟩) = .error .panic := by rfl
  obtain ⟨source,built,shown⟩ := built_one_voxel (.inr rfl)
  exact ⟨fun claimed => (claimed _ _ (by decide)).1 empty,empty,source,built,wide_group_panics shown⟩

end Examples
end Lucida.Server.ProxySource
