import Lucida.Proxy.HashedContent
import Lucida.Server.ProxyEstimate

namespace Lucida.Server.ProxySource
open Lib Proxy Content.Graph
open Content (EntityId ImageId EntityKind LevelGeometry)

-- What generation takes of a manifest, in the order it is taken.

structure Taken (R : Type) where
  imageId : ImageId
  levelIndex : Nat
  tileToGroup : VoxelTransform R
  deriving DecidableEq, Repr

def Taken.key {R : Type} (taken : Taken R) : ImageId × Nat := (taken.imageId,taken.levelIndex)

inductive Inputs (R : Type) where
  | stopped (error : GenerateError)
  | image (key : ImageId × Nat)
  | tiles (tiles : List (Taken R)) (stop : Option GenerateError)
  deriving DecidableEq, Repr

namespace Inputs
variable {R : Type}

def keys : Inputs R → List (ImageId × Nat)
  | .stopped _ => []
  | .image key => [key]
  | .tiles taken _ => taken.map Taken.key

def stop : Inputs R → Option GenerateError
  | .stopped error => some error
  | .image _ => none
  | .tiles _ cause => cause

end Inputs

section Taking
variable {R : Type} [Arithmetic R] (spec : ProxySpec) (content : DatasetManifest R)

def takeTile (groupId : EntityId) (tile : Entity) : Except GenerateError (Taken R) := do
  let (image,levelIndex) ← pickImage .missingImage .emptyMultiscale content tile.id spec.targetLongAxis
  return ⟨image.imageId,levelIndex,findTileToGroup content tile.id groupId⟩

def takeTiles (groupId : EntityId) : List Entity → List (Taken R) × Option GenerateError
  | [] => ([],none)
  | tile::tiles =>
    match takeTile spec content groupId tile with
    | .error error => ([],some error)
    | .ok taken => (taken::(takeTiles groupId tiles).1,(takeTiles groupId tiles).2)

instance (entity : Entity) : Decidable (OfOneImage spec entity) := inferInstanceAs (Decidable (_ ∨ _))

def inputsOf (entity : Entity) : Inputs R :=
  if OfOneImage spec entity then
    match pickImage .missingImage .emptyMultiscale content entity.id spec.targetLongAxis with
    | .error error => .stopped error
    | .ok (image,levelIndex) => .image (image.imageId,levelIndex)
  else if tilesOf content entity.id = [] then .stopped (.noTiles entity.id)
  else .tiles (takeTiles spec content entity.id (tilesOf content entity.id)).1 (takeTiles spec content entity.id (tilesOf content entity.id)).2

def inputs : Inputs R :=
  if spec.targetLongAxis = 0 then .stopped .invalidTarget
  else match findEntity content spec.entityId with
    | none => .stopped (.missingEntity spec.entityId)
    | some entity => inputsOf spec content entity

end Taking

section Making
variable {R D : Type} (spec : ProxySpec) (hash : D) (source : ProxySourceData R)

def readKey (key : ImageId × Nat) : Except (Stop GenerateError) (TileVolume R) :=
  (source key.1 spec.t spec.c key.2).mapError fun error => .error (.source error)

section
variable {spec source} {content : DatasetManifest R}

theorem readTile_of_pick {id : EntityId} {image : ImageSpec R} {levelIndex : Nat}
    (picked : pickImage GenerateError.missingImage .emptyMultiscale content id spec.targetLongAxis = .ok (image,levelIndex)) :
    readTile spec content source id = readKey spec source (image.imageId,levelIndex) := by
  unfold readTile
  rw [picked]
  rfl

theorem readTile_of_stop {id : EntityId} {error : GenerateError}
    (stopped : pickImage .missingImage .emptyMultiscale content id spec.targetLongAxis = .error error) :
    readTile spec content source id = .error (.error error) := by
  unfold readTile
  rw [stopped]
  rfl

end

variable [Arithmetic R]

def readTaken (taken : Taken R) : Except (Stop GenerateError) (TileEntry R) := do
  let volume ← readKey spec source taken.key
  let voxelToGroup := compose taken.tileToGroup volume.voxelToImage
  return ⟨volume,voxelToGroup,(invert voxelToGroup).getD VoxelTransform.identity⟩

def ended (stop : Option GenerateError) : Except (Stop GenerateError) Unit :=
  match stop with
  | none => .ok ()
  | some error => .error (.error error)

-- The proxy of what was taken: nothing else of the manifest goes into it but the hash.
def proxyOf : Inputs R → Except (Stop GenerateError) (ProxyAsset D)
  | .stopped error => .error (.error error)
  | .image key => do
    let volume ← readKey spec source key
    let (data,dims) ← panics (boxFilterToTarget R volume.data volume.dims spec.targetLongAxis)
    return ⟨⟨ALGORITHM_VERSION,hash,dims,.u16⟩,data⟩
  | .tiles tiles stop => do
    let entries ← tiles.mapM (readTaken spec source)
    ended stop
    let out := groupDimsFromBounds (boundsOf (gridsOf entries)) spec.targetLongAxis
    let voxels ← panics (aggregateVoxels (boundsOf (gridsOf entries)) out entries)
    return ⟨⟨ALGORITHM_VERSION,hash,out,.u16⟩,voxels⟩

variable {spec source} {content : DatasetManifest R} {groupId : EntityId}

theorem tileEntry_of_take {tile : Entity} {taken : Taken R} (took : takeTile spec content groupId tile = .ok taken) :
    tileEntry spec content source groupId tile = readTaken spec source taken := by
  obtain ⟨⟨image,levelIndex⟩,picked,made⟩ := bind_ok took
  cases made
  unfold tileEntry readTaken
  rw [readTile_of_pick picked]
  rfl

theorem tileEntry_of_stop {tile : Entity} {error : GenerateError} (stopped : takeTile spec content groupId tile = .error error) :
    tileEntry spec content source groupId tile = .error (.error error) := by
  unfold takeTile at stopped
  cases picked : pickImage GenerateError.missingImage .emptyMultiscale content tile.id spec.targetLongAxis with
  | ok chosen =>
    rw [picked] at stopped
    cases stopped
  | error cause =>
    rw [picked] at stopped
    cases stopped
    unfold tileEntry
    rw [readTile_of_stop picked]
    rfl

theorem mapM_tileEntry (tiles : List Entity) : tiles.mapM (tileEntry spec content source groupId) = do
    let entries ← (takeTiles spec content groupId tiles).1.mapM (readTaken spec source)
    ended (takeTiles spec content groupId tiles).2
    return entries := by
  induction tiles with
  | nil => rfl
  | cons tile tiles ih =>
    rw [List.mapM_cons,takeTiles]
    cases took : takeTile spec content groupId tile with
    | error error =>
      rw [tileEntry_of_stop took]
      rfl
    | ok taken =>
      rw [tileEntry_of_take took,ih]
      dsimp only
      rw [List.mapM_cons]
      cases readTaken spec source taken with
      | error cause => rfl
      | ok entry =>
        simp only [ok_then]
        cases (takeTiles spec content groupId tiles).1.mapM (readTaken spec source) with
        | error cause => rfl
        | ok entries =>
          cases (takeTiles spec content groupId tiles).2 <;> rfl

theorem generateProxy_eq (toLeBytes : R → List UInt8) (digest : List UInt8 → D) (spec : ProxySpec) (content : DatasetManifest R)
    (source : ProxySourceData R) : generateProxy toLeBytes digest spec content source =
      proxyOf spec (sourceContentHash toLeBytes content digest spec.entityId spec.t spec.c) source (inputs spec content) := by
  by_cases zero : spec.targetLongAxis = 0
  · unfold generateProxy inputs
    rw [if_pos zero,if_pos zero]
    rfl
  cases found : findEntity content spec.entityId with
  | none =>
    unfold generateProxy inputs
    rw [if_neg zero,if_neg zero,found]
    rfl
  | some entity =>
    unfold inputs
    rw [if_neg zero,found]
    dsimp only
    unfold inputsOf
    by_cases one : OfOneImage spec entity
    · rw [generateProxy_one zero found _ _ _ one,if_pos one,downsampleTile]
      cases picked : pickImage GenerateError.missingImage .emptyMultiscale content entity.id spec.targetLongAxis with
      | error error =>
        rw [readTile_of_stop picked]
        rfl
      | ok chosen =>
        rw [readTile_of_pick picked]
        rfl
    · rw [generateProxy_group zero found _ _ _ one,if_neg one]
      split
      · rfl
      · rw [mapM_tileEntry]
        dsimp only [proxyOf]
        cases (takeTiles spec content entity.id (tilesOf content entity.id)).1.mapM (readTaken spec source) with
        | error cause => rfl
        | ok entries =>
          cases (takeTiles spec content entity.id (tilesOf content entity.id)).2 <;> rfl

end Making

-- Sources that fail tell what is read, and in which order.
section Telling
variable {R D : Type} [Arithmetic R] {spec : ProxySpec} {hash : D} {content other : DatasetManifest R} {groupId : EntityId}

def failing (fails : ImageId × Nat → Option SourceError) : ProxySourceData R := fun imageId _ _ levelIndex =>
  match fails (imageId,levelIndex) with
  | some error => .error error
  | none => .ok ⟨[],⟨0,0,0⟩,VoxelTransform.identity⟩

def outcome {α : Type} : Except (Stop GenerateError) α → Option GenerateError
  | .error (.error error) => some error
  | _ => none

theorem outcome_bind_panics {α β : Type} (ran : Except (Stop Empty) α) (made : α → β) :
    outcome (panics ran >>= fun a => pure (made a)) = none := by
  cases ran <;> rfl

variable {fails : ImageId × Nat → Option SourceError}

variable (R spec fails) in
theorem readKey_failing (key : ImageId × Nat) :
    (∃ error, fails key = some error ∧ readKey spec (failing (R := R) fails) key = .error (.error (.source error))) ∨
      (fails key = none ∧ ∃ volume, readKey spec (failing (R := R) fails) key = .ok volume) := by
  unfold readKey failing
  cases fails key with
  | some error => exact .inl ⟨error,rfl,rfl⟩
  | none => exact .inr ⟨rfl,_,rfl⟩

variable (spec fails) in
theorem mapM_readTaken (taken : List (Taken R)) :
    (∃ error, (taken.map Taken.key).findSome? fails = some error ∧
        taken.mapM (readTaken spec (failing fails)) = .error (.error (.source error))) ∨
      ((taken.map Taken.key).findSome? fails = none ∧ ∃ entries, taken.mapM (readTaken spec (failing fails)) = .ok entries) := by
  induction taken with
  | nil => exact .inr ⟨rfl,[],rfl⟩
  | cons first taken ih =>
    rw [List.map_cons,List.findSome?_cons,List.mapM_cons]
    rcases readKey_failing R spec fails first.key with ⟨error,failed,stopped⟩ | ⟨passed,volume,read⟩
    · rw [failed]
      refine .inl ⟨error,rfl,?_⟩
      unfold readTaken
      rw [stopped]
      rfl
    · rw [passed]
      obtain ⟨entry,made⟩ : ∃ entry, readTaken spec (failing fails) first = .ok entry := by
        unfold readTaken
        rw [read]
        exact ⟨_,rfl⟩
      rw [made,ok_then]
      rcases ih with ⟨error,failed,stopped⟩ | ⟨passed,entries,read⟩
      · rw [stopped]
        exact .inl ⟨error,failed,rfl⟩
      · rw [read]
        exact .inr ⟨passed,_,rfl⟩

variable (spec hash fails) in
theorem outcome_proxyOf (taken : Inputs R) :
    outcome (proxyOf spec hash (failing fails) taken) = ((taken.keys.findSome? fails).map GenerateError.source).or taken.stop := by
  cases taken with
  | stopped error => rfl
  | image key =>
    dsimp only [proxyOf]
    rcases readKey_failing R spec fails key with ⟨error,failed,stopped⟩ | ⟨passed,volume,read⟩
    · rw [stopped]
      simp [Inputs.keys,Inputs.stop,failed,outcome,error_then]
    · rw [read,ok_then,outcome_bind_panics]
      simp [Inputs.keys,Inputs.stop,passed]
  | tiles taken stop =>
    dsimp only [proxyOf]
    rcases mapM_readTaken spec fails taken with ⟨error,failed,stopped⟩ | ⟨passed,entries,read⟩
    · rw [stopped]
      simp [Inputs.keys,Inputs.stop,failed,outcome,error_then]
    · rw [read,ok_then]
      dsimp only [Inputs.keys,Inputs.stop]
      rw [passed]
      cases stop with
      | none => exact outcome_bind_panics _ _
      | some error => rfl

theorem eq_of_findSome? {κ ε : Type} [DecidableEq κ] {keys others : List κ} {first second : ε} (differ : first ≠ second)
    (distinct : keys.Nodup) (distinct' : others.Nodup) (same : ∀ fails : κ → Option ε, keys.findSome? fails = others.findSome? fails) :
    keys = others := by
  induction keys generalizing others with
  | nil =>
    cases others with
    | nil => rfl
    | cons key others => cases same fun _ => some first
  | cons key keys ih =>
    cases others with
    | nil => cases same fun _ => some first
    | cons key' others =>
      have head : key' = key := by
        by_contra apart
        have told := same fun k => if k = key then some first else some second
        rw [List.findSome?_cons,List.findSome?_cons,if_pos rfl,if_neg apart] at told
        exact differ (Option.some.inj told)
      cases head
      obtain ⟨fresh,distinct⟩ := List.nodup_cons.mp distinct
      obtain ⟨fresh',distinct'⟩ := List.nodup_cons.mp distinct'
      refine congrArg _ (ih distinct distinct' fun fails => ?_)
      have told := same fun k => if k = key then none else fails k
      rw [List.findSome?_cons,List.findSome?_cons,if_pos rfl] at told
      have passes {keys : List κ} (fresh : key ∉ keys) : keys.findSome? (fun k => if k = key then none else fails k) = keys.findSome? fails := by
        rw [← List.head?_filterMap,← List.head?_filterMap]
        refine congrArg _ (List.filterMap_congr fun k member => if_neg ?_)
        rintro rfl
        exact fresh member
      rwa [passes fresh,passes fresh'] at told

omit [Arithmetic R] in
theorem pickImage_error {id : EntityId} {target : Nat} {error : GenerateError}
    (stopped : pickImage GenerateError.missingImage .emptyMultiscale content id target = .error error) :
    error = .missingImage id ∨ error = .emptyMultiscale id := by
  unfold pickImage at stopped
  split at stopped
  · cases stopped
    exact .inl rfl
  · split at stopped
    · cases stopped
      exact .inr rfl
    · cases stopped

theorem takeTile_error {tile : Entity} {error : GenerateError} (stopped : takeTile spec content groupId tile = .error error) :
    error = .missingImage tile.id ∨ error = .emptyMultiscale tile.id := by
  unfold takeTile at stopped
  cases picked : pickImage GenerateError.missingImage .emptyMultiscale content tile.id spec.targetLongAxis with
  | ok chosen =>
    rw [picked] at stopped
    cases stopped
  | error cause =>
    rw [picked] at stopped
    cases stopped
    exact pickImage_error picked

theorem takeTiles_stop {tiles : List Entity} {error : GenerateError} (stopped : (takeTiles spec content groupId tiles).2 = some error) :
    ∃ id, error = .missingImage id ∨ error = .emptyMultiscale id := by
  induction tiles with
  | nil => cases stopped
  | cons tile tiles ih =>
    rw [takeTiles] at stopped
    cases took : takeTile spec content groupId tile with
    | error cause =>
      rw [took] at stopped
      cases stopped
      exact ⟨_,takeTile_error took⟩
    | ok taken =>
      rw [took] at stopped
      exact ih stopped

theorem mem_takeTiles {tiles : List Entity} {taken : Taken R} (member : taken ∈ (takeTiles spec content groupId tiles).1) :
    ∃ tile ∈ tiles, takeTile spec content groupId tile = .ok taken := by
  induction tiles with
  | nil => cases member
  | cons tile tiles ih =>
    rw [takeTiles] at member
    cases took : takeTile spec content groupId tile with
    | error cause =>
      rw [took] at member
      cases member
    | ok first =>
      rw [took] at member
      rcases List.mem_cons.mp member with rfl | later
      · exact ⟨tile,List.mem_cons_self,took⟩
      · obtain ⟨other,listed,took'⟩ := ih later
        exact ⟨other,List.mem_cons_of_mem _ listed,took'⟩

theorem stop_inputs (error : SourceError) : (inputs spec content).stop ≠ some (.source error) := by
  unfold inputs
  split
  · nofun
  split
  · nofun
  unfold inputsOf
  split
  · split
    · next stopped =>
      rintro ⟨⟩
      rcases pickImage_error stopped with same | same <;> cases same
    · nofun
  · split
    · nofun
    · intro stopped
      obtain ⟨id,same | same⟩ := takeTiles_stop stopped <;> cases same

theorem keys_of_same_proxies (distinct : (inputs spec content).keys.Nodup) (distinct' : (inputs spec other).keys.Nodup)
    (same : ∀ source, proxyOf spec hash source (inputs spec content) = proxyOf spec hash source (inputs spec other)) :
    (inputs spec content).keys = (inputs spec other).keys ∧ (inputs spec content).stop = (inputs spec other).stop := by
  have told (fails : ImageId × Nat → Option SourceError) :
      (((inputs spec content).keys.findSome? fails).map GenerateError.source).or (inputs spec content).stop =
        (((inputs spec other).keys.findSome? fails).map GenerateError.source).or (inputs spec other).stop := by
    rw [← outcome_proxyOf spec hash,← outcome_proxyOf spec hash,same]
  have stops : (inputs spec content).stop = (inputs spec other).stop := by
    have silent (keys : List (ImageId × Nat)) : keys.findSome? (fun _ => (none : Option SourceError)) = none :=
      List.findSome?_eq_none_iff.mpr fun _ _ => rfl
    have last := told fun _ => none
    rwa [silent,silent] at last
  refine ⟨eq_of_findSome? (show SourceError.notFound ≠ .io "" by nofun) distinct distinct' fun fails => ?_,stops⟩
  have both := told fails
  rw [stops] at both
  cases first : (inputs spec content).keys.findSome? fails with
  | none =>
    cases second : (inputs spec other).keys.findSome? fails with
    | none => rfl
    | some error =>
      rw [first,second] at both
      exact absurd both (stop_inputs error)
  | some error =>
    cases second : (inputs spec other).keys.findSome? fails with
    | none =>
      rw [first,second] at both
      exact absurd both.symm (stop_inputs error)
    | some error' =>
      rw [first,second] at both
      injection both with both
      injection both with both
      rw [both]

end Telling

-- Manifests whose ids each name one thing.
section Distinct
variable {R : Type} [Arithmetic R] {spec : ProxySpec} {content other : DatasetManifest R} {groupId : EntityId}

structure Distinct {R : Type} (content : DatasetManifest R) : Prop where
  images : DistinctIds content
  entities : (content.entities.map Entity.id).Nodup

theorem taken_image {tile : Entity} {taken : Taken R} (took : takeTile spec content groupId tile = .ok taken) :
    ∃ image ∈ content.images, image.owner = tile.id ∧ taken.key = (image.imageId,Proxy.pickLevel image.multiscale.levels spec.targetLongAxis) ∧
      taken.tileToGroup = findTileToGroup content tile.id groupId := by
  obtain ⟨⟨chosen,levelIndex⟩,picked,made⟩ := bind_ok took
  cases made
  rcases pickImage_cases GenerateError.missingImage .emptyMultiscale content tile.id spec.targetLongAxis with
    ⟨cause,stopped⟩ | ⟨image,geometry,owned,_,_,picked'⟩
  · cases picked.symm.trans stopped
  · cases picked.symm.trans picked'
    exact ⟨chosen,List.mem_of_find?_eq_some owned,
      of_decide_eq_true (List.find?_some (p := fun image : ImageSpec R => decide (image.owner = tile.id)) owned),rfl,rfl⟩

theorem nodup_takeTiles (distinct : DistinctIds content) {tiles : List Entity} (apart : (tiles.map Entity.id).Nodup) :
    ((takeTiles spec content groupId tiles).1.map Taken.key).Nodup := by
  induction tiles with
  | nil => exact List.nodup_nil
  | cons tile tiles ih =>
    rw [List.map_cons] at apart
    obtain ⟨fresh,apart⟩ := List.nodup_cons.mp apart
    rw [takeTiles]
    cases took : takeTile spec content groupId tile with
    | error cause => exact List.nodup_nil
    | ok taken =>
      refine List.nodup_cons.mpr ⟨fun again => ?_,ih apart⟩
      obtain ⟨taken',member,sameKey⟩ := List.mem_map.mp again
      obtain ⟨tile',listed,took'⟩ := mem_takeTiles member
      obtain ⟨image,among,owner,key,_⟩ := taken_image took
      obtain ⟨image',among',owner',key',_⟩ := taken_image took'
      have sameId : image.imageId = image'.imageId := congrArg Prod.fst (key.symm.trans (sameKey.symm.trans key'))
      cases distinct image among image' among' sameId
      exact fresh (List.mem_map.mpr ⟨tile',listed,owner'.symm.trans owner⟩)

theorem Distinct.keys (distinct : Distinct content) (spec : ProxySpec) : (inputs spec content).keys.Nodup := by
  unfold inputs
  split
  · exact List.nodup_nil
  split
  · exact List.nodup_nil
  unfold inputsOf
  split
  · split
    · exact List.nodup_nil
    · exact List.nodup_singleton _
  · split
    · exact List.nodup_nil
    · exact nodup_takeTiles distinct.images (distinct.entities.sublist (List.filter_sublist.map Entity.id))

theorem eq_of_map_eq {α β : Type} {f : α → β} {items others : List α} (apart : ∀ a ∈ items, ∀ b ∈ others, f a = f b → a = b)
    (same : items.map f = others.map f) : items = others := by
  induction items generalizing others with
  | nil => exact (List.map_eq_nil_iff.mp same.symm).symm
  | cons a items ih =>
    cases others with
    | nil => cases same
    | cons b others =>
      rw [List.map_cons,List.map_cons] at same
      injection same with head tail
      cases apart a List.mem_cons_self b List.mem_cons_self head
      rw [ih (fun a member b member' => apart a (List.mem_cons_of_mem _ member) b (List.mem_cons_of_mem _ member')) tail]

theorem findEdge_of_hashed {entityId id : EntityId} (same : hashedContent content entityId = hashedContent other entityId)
    (among : id ∈ contributors content entityId) (target : EntityId) : findEdge content id target = findEdge other id target := by
  unfold findEdge
  rw [← find?_edgesOf,← find?_edgesOf,(contributor_of_hashed same among).2.1]

theorem tiles_of_hashed {entity : Entity} (same : hashedContent content entity.id = hashedContent other entity.id)
    (isGroup : IsGroup content entity.id) (distinct : DistinctIds other) {tile tile' : Entity} {taken taken' : Taken R}
    (listed : tile ∈ tilesOf content entity.id) (took : takeTile spec content entity.id tile = .ok taken)
    (took' : takeTile spec other entity.id tile' = .ok taken') (sameKey : taken.key = taken'.key) : taken = taken' := by
  have among : tile.id ∈ contributors content entity.id := by
    refine List.mem_append_left _ ?_
    rw [if_pos isGroup,List.mem_insertionSort]
    exact List.mem_map_of_mem listed
  obtain ⟨image,member,owner,key,way⟩ := taken_image took
  obtain ⟨image',member',owner',key',way'⟩ := taken_image took'
  have sameId : image.imageId = image'.imageId := congrArg Prod.fst (key.symm.trans (sameKey.trans key'))
  have sameOwner : tile.id = tile'.id := by
    have hashed : hashedImage image ∈ (ownedImages other tile.id).map hashedImage := by
      rw [← (contributor_of_hashed same among).2.2]
      exact List.mem_map_of_mem (mem_ownedImages.mpr ⟨member,owner⟩)
    obtain ⟨twin,owned,whole⟩ := List.mem_map.mp hashed
    obtain ⟨listed',owned⟩ := mem_ownedImages.mp owned
    have twinId : twin.imageId = image.imageId := congrArg HashedImage.imageId whole
    cases distinct twin listed' image' member' (twinId.trans sameId)
    exact owned.symm.trans owner'
  have ways : taken.tileToGroup = taken'.tileToGroup := by
    rw [way,way',findTileToGroup,findTileToGroup,← sameOwner,findEdge_of_hashed same among]
  cases taken
  cases taken'
  cases sameKey
  cases ways
  rfl

theorem inputs_of_keys (distinct : DistinctIds other)
    (sameKind : (findEntity content spec.entityId).map Entity.kind = (findEntity other spec.entityId).map Entity.kind)
    (same : hashedContent content spec.entityId = hashedContent other spec.entityId)
    (keys : (inputs spec content).keys = (inputs spec other).keys) (stops : (inputs spec content).stop = (inputs spec other).stop) :
    inputs spec content = inputs spec other := by
  have named {content : DatasetManifest R} {entity : Entity} (found : findEntity content spec.entityId = some entity) : entity.id = spec.entityId :=
    of_decide_eq_true (List.find?_some (p := fun entity : Entity => decide (entity.id = spec.entityId)) found)
  by_cases zero : spec.targetLongAxis = 0
  · unfold inputs
    rw [if_pos zero,if_pos zero]
  unfold inputs at keys stops ⊢
  rw [if_neg zero,if_neg zero] at keys stops ⊢
  cases found : findEntity content spec.entityId with
  | none =>
    rw [found] at sameKind
    rw [Option.map_eq_none_iff.mp sameKind.symm]
  | some entity =>
    rw [found] at sameKind keys stops
    obtain ⟨entity',found',kinds⟩ := Option.map_eq_some_iff.mp sameKind.symm
    rw [found'] at keys stops ⊢
    dsimp only at keys stops ⊢
    have names : entity'.id = entity.id := (named found').trans (named found).symm
    have ones : OfOneImage spec entity ↔ OfOneImage spec entity' := by
      unfold OfOneImage
      rw [kinds]
    unfold inputsOf at keys stops ⊢
    by_cases one : OfOneImage spec entity
    · rw [if_pos one,if_pos (ones.mp one)] at keys stops ⊢
      cases picked : pickImage GenerateError.missingImage .emptyMultiscale content entity.id spec.targetLongAxis with
      | error error =>
        cases picked' : pickImage GenerateError.missingImage .emptyMultiscale other entity'.id spec.targetLongAxis with
        | error error' =>
          rw [picked,picked'] at stops
          cases stops
          rfl
        | ok chosen' =>
          rw [picked,picked'] at keys
          cases keys
      | ok chosen =>
        cases picked' : pickImage GenerateError.missingImage .emptyMultiscale other entity'.id spec.targetLongAxis with
        | error error' =>
          rw [picked,picked'] at keys
          cases keys
        | ok chosen' =>
          rw [picked,picked'] at keys
          exact congrArg Inputs.image (List.singleton_inj.mp keys)
    · rw [if_neg one,if_neg (one ∘ ones.mpr)] at keys stops ⊢
      have isGroup : IsGroup content entity.id := by
        unfold IsGroup
        rw [named found,found]
        exact congrArg some (of_not_not fun kind => one (.inr kind))
      rw [names] at keys stops ⊢
      rw [← named found] at same
      have never {content : DatasetManifest R} {groupId : EntityId} {tiles : List Entity} :
          some (GenerateError.noTiles groupId) ≠ (takeTiles spec content groupId tiles).2 := by
        intro stopped
        obtain ⟨id,no | no⟩ := takeTiles_stop stopped.symm <;> cases no
      by_cases none' : tilesOf content entity.id = []
      · by_cases none'' : tilesOf other entity.id = []
        · rw [if_pos none',if_pos none'']
        · rw [if_pos none',if_neg none''] at stops
          exact absurd stops never
      · by_cases none'' : tilesOf other entity.id = []
        · rw [if_neg none',if_pos none''] at stops
          exact absurd stops.symm never
        · rw [if_neg none',if_neg none''] at keys stops ⊢
          have taken := eq_of_map_eq (fun taken member taken' member' sameKey => by
            obtain ⟨tile,listed,took⟩ := mem_takeTiles member
            obtain ⟨tile',_,took'⟩ := mem_takeTiles member'
            exact tiles_of_hashed same isGroup distinct listed took took' sameKey) keys
          exact congrArg₂ Inputs.tiles taken stops

end Distinct

section Claim
variable {R D : Type} [Arithmetic R] (toLeBytes : R → List UInt8) (digest : List UInt8 → D) (spec : ProxySpec) (content other : DatasetManifest R)

def SameBytes : Prop :=
  sourceContentBytes toLeBytes content spec.entityId spec.t spec.c = sourceContentBytes toLeBytes other spec.entityId spec.t spec.c

def HashSound : Prop := SameBytes toLeBytes spec content other → ∀ source,
  generateProxy toLeBytes digest spec content source = generateProxy toLeBytes digest spec other source

-- A proxy of one manifest that is accepted by its hash for the other is the one that would be generated for it.
def AcceptedIsCurrent : Prop := ∀ source asset, generateProxy toLeBytes digest spec content source = .ok asset →
  asset.header.sourceContentHash = sourceContentHash toLeBytes other digest spec.entityId spec.t spec.c →
    generateProxy toLeBytes digest spec other source = .ok asset

def SameInputs : Prop := SameBytes toLeBytes spec content other → inputs spec content = inputs spec other

-- What of a manifest is hashed for a proxy: the kind of its entity, and of each contributor
-- its edges and its images.
def hashedFor : Option EntityKind × List (Contributor R) :=
  ((findEntity content spec.entityId).map Entity.kind,hashedContent content spec.entityId)

def SameInputsHashed : Prop := hashedFor spec content = hashedFor spec other → inputs spec content = inputs spec other

variable {toLeBytes digest spec content other}

omit [Arithmetic R] in
theorem sameBytes_of_hashed (same : hashedFor spec content = hashedFor spec other) : SameBytes toLeBytes spec content other := by
  obtain ⟨kinds,hashed⟩ := Prod.mk.inj same
  unfold SameBytes
  rw [sourceContentBytes_eq,sourceContentBytes_eq,kinds,hashed]

theorem hash_of_proxyOf {hash : D} {source : ProxySourceData R} {taken : Inputs R} {asset : ProxyAsset D}
    (made : proxyOf spec hash source taken = .ok asset) : asset.header.sourceContentHash = hash := by
  cases taken with
  | stopped error => cases made
  | image key =>
    obtain ⟨volume,_,made⟩ := bind_ok made
    obtain ⟨filtered,_,made⟩ := bind_ok made
    cases made
    rfl
  | tiles taken stop =>
    obtain ⟨entries,_,made⟩ := bind_ok made
    obtain ⟨_,_,made⟩ := bind_ok made
    obtain ⟨voxels,_,made⟩ := bind_ok made
    cases made
    rfl

theorem sound_of_inputs (same : SameInputs toLeBytes spec content other) : HashSound toLeBytes digest spec content other := by
  intro bytes source
  rw [generateProxy_eq,generateProxy_eq,same bytes,sourceContentHash,sourceContentHash]
  unfold SameBytes at bytes
  rw [bytes]

theorem accepted_of_sound (injective : Function.Injective digest) (sound : HashSound toLeBytes digest spec content other) :
    AcceptedIsCurrent toLeBytes digest spec content other := by
  intro source asset made accepted
  have made' := made
  rw [generateProxy_eq] at made'
  have bytes : SameBytes toLeBytes spec content other := injective ((hash_of_proxyOf made').symm.trans accepted)
  exact (sound bytes source).symm.trans made

omit [Arithmetic R] in
theorem hashed_of_sameBytes {numbers : Set R} (tells : Tells toLeBytes numbers) (plain : Plain numbers content) (plain' : Plain numbers other)
    (apart : ∀ edge ∈ content.transforms, ∀ edge' ∈ other.transforms, TargetsApart edge edge') {entity : Entity}
    (found : findEntity content spec.entityId = some entity) (bytes : SameBytes toLeBytes spec content other) :
    hashedFor spec content = hashedFor spec other := by
  have known : newline ∉ asBytes spec.entityId := by
    rw [← show entity.id = spec.entityId from of_decide_eq_true (List.find?_some (p := fun entity : Entity => decide (entity.id = spec.entityId)) found)]
    exact plain.entities entity (List.mem_of_find?_eq_some found)
  exact Prod.ext (kind_of_bytes bytes) (hashed_of_bytes tells plain plain' apart known bytes)

theorem sameInputs_of_hashed {numbers : Set R} (tells : Tells toLeBytes numbers) (plain : Plain numbers content) (plain' : Plain numbers other)
    (apart : ∀ edge ∈ content.transforms, ∀ edge' ∈ other.transforms, TargetsApart edge edge') (same : SameInputsHashed spec content other) :
    SameInputs toLeBytes spec content other := by
  intro bytes
  cases found : findEntity content spec.entityId with
  | none =>
    have kinds := kind_of_bytes bytes
    rw [found] at kinds
    unfold inputs
    rw [found,Option.map_eq_none_iff.mp kinds.symm]
  | some entity => exact same (hashed_of_sameBytes tells plain plain' apart found bytes)

theorem inputs_of_sound (distinct : Distinct content) (distinct' : Distinct other) (sound : HashSound toLeBytes digest spec content other) :
    SameInputsHashed spec content other := by
  intro equal
  have bytes : SameBytes toLeBytes spec content other := sameBytes_of_hashed equal
  obtain ⟨kinds,hashed⟩ := Prod.mk.inj equal
  cases found : findEntity content spec.entityId with
  | none =>
    rw [found] at kinds
    unfold inputs
    rw [found,Option.map_eq_none_iff.mp kinds.symm]
  | some entity =>
    have same (source : ProxySourceData R) : proxyOf spec (sourceContentHash toLeBytes content digest spec.entityId spec.t spec.c) source
        (inputs spec content) = proxyOf spec (sourceContentHash toLeBytes content digest spec.entityId spec.t spec.c) source (inputs spec other) := by
      have equal := sound bytes source
      rw [generateProxy_eq,generateProxy_eq] at equal
      have hashes : sourceContentHash toLeBytes other digest spec.entityId spec.t spec.c =
          sourceContentHash toLeBytes content digest spec.entityId spec.t spec.c := congrArg digest bytes.symm
      rwa [hashes] at equal
    obtain ⟨keys,stops⟩ := keys_of_same_proxies (distinct.keys spec) (distinct'.keys spec) same
    exact inputs_of_keys distinct'.images kinds hashed keys stops

variable (toLeBytes digest spec content other) in
-- The hash is sound where generation takes the same from manifests with equal bytes. Of manifests whose ids are
-- distinct and cannot run into each other it is sound only there, and equal bytes are those of equal hashed content.
theorem staleness_hash_sound_iff (numbers : Set R) :
    (SameInputs toLeBytes spec content other → HashSound toLeBytes digest spec content other ∧
      (Function.Injective digest → AcceptedIsCurrent toLeBytes digest spec content other)) ∧
    (Tells toLeBytes numbers → Plain numbers content → Plain numbers other →
      (∀ edge ∈ content.transforms, ∀ edge' ∈ other.transforms, TargetsApart edge edge') → Distinct content → Distinct other →
        (HashSound toLeBytes digest spec content other ↔ SameInputs toLeBytes spec content other) ∧
          (HashSound toLeBytes digest spec content other ↔ SameInputsHashed spec content other)) := by
  refine ⟨fun same => ⟨sound_of_inputs same,fun injective => accepted_of_sound injective (sound_of_inputs same)⟩,?_⟩
  intro tells plain plain' apart distinct distinct'
  have taken : SameInputsHashed spec content other → SameInputs toLeBytes spec content other := sameInputs_of_hashed tells plain plain' apart
  have only : HashSound toLeBytes digest spec content other → SameInputsHashed spec content other := inputs_of_sound distinct distinct'
  exact ⟨⟨fun sound => taken (only sound),sound_of_inputs⟩,only,fun same => sound_of_inputs (taken same)⟩

end Claim

section Examples

def oneBytes (_ : Extended ℚ) : List UInt8 := [0,0,0,0,0,0,0xF0,0x3F]

def oneLevelImage (imageId : ImageId) (owner : EntityId) : ImageSpec (Extended ℚ) :=
  ⟨imageId,owner,⟨[],[⟨0,⟨1,1,1,1,1⟩,⟨1,1,1,1,1⟩,⟨1,1,1,1,1⟩,⟨1,1,1,1,1⟩⟩],none,[],.uint8,[],[],none⟩⟩

def listing (images : List (ImageSpec (Extended ℚ))) : DatasetManifest (Extended ℚ) := {tiledManifest ⟨1,1,1,1,1⟩ with images := images}

theorem oneBytes_tells : Tells oneBytes {1} := ⟨fun _ _ => rfl,Set.injOn_singleton _ _⟩

theorem listing_plain {images : List (ImageSpec (Extended ℚ))}
    (each : ∀ image ∈ images, ∃ imageId owner, newline ∉ asBytes imageId ∧ image = oneLevelImage imageId owner) : Plain {1} (listing images) := by
  refine ⟨show ∀ entity ∈ (tiledManifest ⟨1,1,1,1,1⟩).entities, newline ∉ asBytes entity.id by decide,
    fun _ member => absurd member List.not_mem_nil,fun image member => ?_⟩
  obtain ⟨imageId,owner,free,rfl⟩ := each image member
  refine ⟨free,fun _ member => absurd member List.not_mem_nil,fun level listed => ?_⟩
  cases List.mem_singleton.mp listed
  have ones : ∀ number ∈ axesList (⟨1,1,1,1,1⟩ : Content.Axes (Extended ℚ)), number ∈ ({1} : Set (Extended ℚ)) := by
    simp [axesList]
  exact ⟨by decide,by decide,by decide,by decide,ones⟩

theorem listing_distinct {images : List (ImageSpec (Extended ℚ))} (apart : (images.map ImageSpec.imageId).Nodup) : Distinct (listing images) :=
  ⟨fun _ member _ member' same => List.inj_on_of_nodup_map apart member member' same,
    show ((tiledManifest ⟨1,1,1,1,1⟩).entities.map Entity.id).Nodup by decide⟩

theorem stray_image_sound : HashSound oneBytes id (tileSpec 1) (listing [oneLevelImage "a" "tile"])
    (listing [oneLevelImage "b" "elsewhere",oneLevelImage "a" "tile"]) := by
  have taken : inputs (tileSpec 1) (listing [oneLevelImage "a" "tile"]) =
      inputs (tileSpec 1) (listing [oneLevelImage "b" "elsewhere",oneLevelImage "a" "tile"]) := by rfl
  refine ((staleness_hash_sound_iff oneBytes id (tileSpec 1) _ _ {1}).2 oneBytes_tells (listing_plain ?_) (listing_plain ?_)
    (fun _ member => absurd member List.not_mem_nil) (listing_distinct (by decide)) (listing_distinct (by decide))).2.mpr fun _ => taken
  · intro image member
    exact ⟨"a","tile",by decide,List.mem_singleton.mp member⟩
  · intro image member
    rcases List.mem_cons.mp member with first | second
    · exact ⟨"b","elsewhere",by decide,first⟩
    · exact ⟨"a","tile",by decide,List.mem_singleton.mp second⟩

def shaded (imageId : ImageId) (_ _ _ : Nat) : Except SourceError (TileVolume (Extended ℚ)) :=
  .ok ⟨[if imageId = "a" then 1 else 2],⟨1,1,1⟩,VoxelTransform.identity⟩

theorem first_image_not_hashed : ¬∀ spec content other, HashSound oneBytes id spec content other := by
  intro sound
  have same := sound (tileSpec 1) (listing [oneLevelImage "a" "tile",oneLevelImage "b" "tile"])
    (listing [oneLevelImage "b" "tile",oneLevelImage "a" "tile"]) (show _ = _ by decide +kernel) shaded
  revert same
  decide +kernel

end Examples
end Lucida.Server.ProxySource
