import Lucida.Store.ImportLabels

namespace Lucida.Store
open Content Lib

namespace ImportResult

def allImages (result : ImportResult) : List (Graph.ImageSpec F64) := result.manifest.images ++ result.manifest.labels.map (·.image)

structure WellFormed (result : ImportResult) : Prop where
  entities : (result.manifest.entities.map (·.id)).Nodup
  images : (result.allImages.map (·.imageId)).Nodup
  owners : ∀ image ∈ result.allImages, image.owner ∈ result.manifest.entities.map (·.id)
  levels : ∀ image ∈ result.allImages, ∀ (i : Nat) (level : LevelGeometry F64), image.multiscale.levels[i]? = some level →
    level.levelIndex = i ∧ ∀ size ∈ axesList level.chunkShape, 1 ≤ size
  bindings : ∀ image ∈ result.allImages, ∃ binding, result.bindings.filter (·.imageId = image.imageId) = [binding] ∧
    binding.levels.map (·.levelIndex) = image.multiscale.levels.map (·.levelIndex)

structure Paired (result : ImportResult) (entries : List (Graph.ImageSpec F64 × ImageBindingSeed)) : Prop where
  images : result.allImages.Perm (entries.map Prod.fst)
  bindings : result.bindings = entries.map Prod.snd
  ids : ∀ entry ∈ entries, entry.2.imageId = entry.1.imageId
  agree : ∀ entry ∈ entries, Agree entry.1.multiscale.levels entry.2.levels
  owners : ∀ entry ∈ entries, entry.1.owner ∈ result.manifest.entities.map (·.id)

end ImportResult

section Pairs
variable {result : ImportResult} {entries : List (Graph.ImageSpec F64 × ImageBindingSeed)}

theorem filter_key_eq_singleton {α κ : Type} [DecidableEq κ] {key : α → κ} {items : List α} {item : α}
    (distinct : (items.map key).Nodup) (member : item ∈ items) : items.filter (fun other => key other = key item) = [item] := by
  induction items with
  | nil => cases member
  | cons first rest ih =>
    rw [List.map_cons,List.nodup_cons] at distinct
    rcases List.mem_cons.mp member with rfl | later
    · rw [List.filter_cons_of_pos (by simp),List.filter_eq_nil_iff.mpr]
      intro other there same
      exact distinct.1 (List.mem_map.mpr ⟨other,there,of_decide_eq_true same⟩)
    · have differs : key first ≠ key item := fun same => distinct.1 (List.mem_map.mpr ⟨item,later,same.symm⟩)
      rw [List.filter_cons_of_neg (by simpa using differs)]
      exact ih distinct.2 later

theorem levelIndex_at {levels : List (LevelGeometry F64)} (indices : levels.map (·.levelIndex) = (List.range levels.length).map u32)
    (there : levels[i]? = some level) : level.levelIndex = u32 i := by
  have short := (List.getElem?_eq_some_iff.mp there).1
  have at' := congrArg (·[i]?) indices
  simp only [List.getElem?_map,there,List.getElem?_range short,Option.map_some,Option.some.injEq] at at'
  exact at'

theorem few_levels_iff {levels : List (LevelGeometry F64)} (indices : levels.map (·.levelIndex) = (List.range levels.length).map u32) :
    (∀ (i : Nat) (level : LevelGeometry F64), levels[i]? = some level → level.levelIndex = i) ↔ levels.length ≤ 2^32 := by
  constructor
  · intro positions
    by_contra many
    have there := List.getElem?_eq_getElem (Nat.lt_of_not_le many)
    have wrapped := (positions _ _ there).symm.trans (levelIndex_at indices there)
    exact absurd wrapped (by decide)
  · intro few i level there
    have short := (List.getElem?_eq_some_iff.mp there).1
    rw [levelIndex_at indices there,u32]
    omega

theorem wellFormed_of_pairs (paired : result.Paired entries) :
    result.WellFormed ↔ (result.manifest.entities.map (·.id)).Nodup ∧ (entries.map (·.1.imageId)).Nodup ∧
      ∀ entry ∈ entries, entry.1.multiscale.levels.length ≤ 2^32 := by
  have ids : (result.allImages.map (·.imageId)).Perm (entries.map (·.1.imageId)) := by
    have mapped := paired.images.map (·.imageId)
    rwa [List.map_map] at mapped
  constructor
  · intro wellFormed
    refine ⟨wellFormed.entities,ids.nodup_iff.mp wellFormed.images,?_⟩
    intro entry member
    have image : entry.1 ∈ result.allImages := paired.images.mem_iff.mpr (List.mem_map_of_mem member)
    rw [← few_levels_iff (paired.agree entry member).indices]
    exact fun i level there => (wellFormed.levels _ image i level there).1
  · intro ⟨entities,distinct,few⟩
    have entry_of : ∀ image ∈ result.allImages, ∃ entry ∈ entries, entry.1 = image := fun image member =>
      List.mem_map.mp (paired.images.mem_iff.mp member)
    refine ⟨entities,ids.nodup_iff.mpr distinct,?_,?_,?_⟩
    · intro image member
      obtain ⟨entry,there,rfl⟩ := entry_of image member
      exact paired.owners entry there
    · intro image member i level at'
      obtain ⟨entry,there,rfl⟩ := entry_of image member
      have agree := paired.agree entry there
      exact ⟨(few_levels_iff agree.indices).mpr (few entry there) i level at',agree.positive level (List.mem_of_getElem? at')⟩
    · intro image member
      obtain ⟨entry,there,rfl⟩ := entry_of image member
      refine ⟨entry.2,?_,(paired.agree entry there).same⟩
      have keys : (entries.map Prod.snd).map (·.imageId) = entries.map (·.1.imageId) := by
        rw [List.map_map]
        exact List.map_congr_left paired.ids
      rw [paired.bindings,← paired.ids entry there]
      exact filter_key_eq_singleton (keys ▸ distinct) (List.mem_map_of_mem there)

end Pairs

section Single
variable {ofInt : Int → F64} {store : MetadataStore} {id name : String} {result : ImportResult}

def imageLabels (ofInt : Int → F64) (store : MetadataStore) (id : String) : List BuiltLabel :=
  let probed := probeLabelsForImage store ""
  (buildLabelsWithinBudget ofInt store probed.labelsPrefix id id .new probed.names).1

def labelEntry (label : BuiltLabel) : Graph.ImageSpec F64 × ImageBindingSeed := (label.spec.image,label.binding)

def listedLabels (store : MetadataStore) : List (String × String) := (probeLabelsForImage store "").names.map ("",·)

theorem imageLabels_kept (ofInt : Int → F64) (store : MetadataStore) (id : String) :
    LabelsKept ofInt store id id "" (imageLabels ofInt store id) ∧
      (imageLabels ofInt store id).map (fun label => ("",label.spec.name)) = keptLabels ofInt store (listedLabels store) := by
  have kept := @buildLabelsWithinBudget_kept ofInt store id id "" .new (probeLabelsForImage store "").names
  rw [← probed_labelsPrefix store ""] at kept
  refine ⟨kept.1,?_⟩
  have names := congrArg (List.map fun name => ("",name)) kept.2.1
  rw [List.map_map] at names
  refine names.trans ?_
  rw [keptLabels,listedLabels,List.filter_map,List.map_take]
  rfl

theorem append_label_ne (source name : String) : source ++ ":label:" ++ name ≠ source := by
  intro same
  have lengths := congrArg (fun text => text.toList.length) same
  have marker : ":label:".toList.length = 7 := rfl
  simp only [String.toList_append,List.length_append,marker] at lengths
  omega

theorem nodup_label_ids (labels : List BuiltLabel) (built : ∀ label ∈ labels, LabelOf source owner label)
    (distinct : (labels.map (·.spec.name)).Nodup) : (source::labels.map (·.spec.image.imageId)).Nodup := by
  have ids : labels.map (·.spec.image.imageId) = (labels.map (·.spec.name)).map (source ++ ":label:" ++ ·) := by
    rw [List.map_map]
    exact List.map_congr_left fun label member => (built label member).imageId
  rw [ids,List.nodup_cons]
  refine ⟨?_,distinct.map fun _ _ => (String.append_right_inj _).mp⟩
  intro member
  obtain ⟨name,_,same⟩ := List.mem_map.mp member
  exact append_label_ne source name same

theorem importSingleImage_wellFormed_iff (accepted : importSingleImage ofInt store id name rootJson = .ok result)
    (parsed : parseMultiscales ofInt rootJson "" = .ok multiscales) :
    result.WellFormed ↔ multiscales.levelEntries.length ≤ 2^32 ∧
      FewLabelLevels ofInt store (keptLabels ofInt store (listedLabels store)) := by
  unfold importSingleImage at accepted
  obtain ⟨geometry,read,rest⟩ := bind_ok accepted
  obtain ⟨described,sound,same⟩ := bind_ok rest
  have agree := describe_ok (parseGeometry_ok read).2 sound
  have many : described.levels.length = multiscales.levelEntries.length := by
    rw [← length_of_indices (agree.agree.same.trans agree.agree.indices),agree.many,parseGeometry_levels read parsed]
  obtain ⟨kept,names⟩ := imageLabels_kept ofInt store id
  have built := kept.built
  have listed : (listedLabels store).Nodup := (nodup_probed store "").map fun _ _ same => (Prod.mk.inj same).2
  have pairs : (((imageLabels ofInt store id).map (·.spec.name)).map fun name => ("",name)).Nodup := by
    rw [List.map_map]
    exact names ▸ (listed.filter _).sublist (List.take_sublist _ _)
  have distinct := nodup_label_ids _ built pairs.of_map
  injection same with same
  change _ = result at same
  have paired : result.Paired
      ((⟨id,id,multiscaleInfo described described.levels geometry.channelInfos geometry.downsamplingMethod⟩,
        ⟨id,geometry.axesNames,none,described.bindings⟩)::(imageLabels ofInt store id).map labelEntry) := by
    subst same
    refine ⟨?_,?_,?_,?_,?_⟩
    · rw [List.map_cons,List.map_map]
      exact .of_eq (congrArg _ (List.map_map ..))
    · rw [List.map_cons,List.map_map]
      rfl
    · exact List.forall_mem_cons.mpr ⟨rfl,List.forall_mem_map.mpr fun label member => (built label member).binding⟩
    · exact List.forall_mem_cons.mpr ⟨agree.agree,List.forall_mem_map.mpr fun label member => (built label member).agree⟩
    · refine List.forall_mem_cons.mpr ⟨List.mem_singleton_self _,List.forall_mem_map.mpr fun label member => ?_⟩
      exact List.mem_singleton.mpr (built label member).owner
  rw [wellFormed_of_pairs paired,List.forall_mem_cons,List.forall_mem_map,← names,← kept.few_iff]
  constructor
  · intro ⟨_,_,few,labels⟩
    exact ⟨many ▸ few,labels⟩
  · intro ⟨few,labels⟩
    refine ⟨?_,?_,many ▸ few,labels⟩
    · rw [← same]
      exact List.nodup_singleton _
    · rw [List.map_cons,List.map_map]
      exact distinct

end Single

section Collection
variable {ofInt : Int → F64} {store : MetadataStore} {placing : Placing} {id name : String} {result : ImportResult}
variable {groups : List GroupParsed} {shared : SharedLevels}

-- What tells the images of a plate apart: the tile's prefix, and for a label its name as well.
def imageKeys (labelled : List (TileParsed × List BuiltLabel)) : List String :=
  labelled.flatMap fun tile => tile.1.storePrefix::tile.2.map fun label => tile.1.storePrefix ++ ":label:" ++ label.spec.name

theorem parseOneGroup_some (parsed : parseOneGroup ofInt store groupEntry = some group) :
    ∃ json images, store (pathFrom (group.path ++ "/zarr.json")) = .parsed json ∧
      (resolveOmeBlock json "well").bind (Json.getArray · "images") = some images ∧ images ≠ [] ∧
      group.tiles = images.map (parseTile ofInt group.path) := by
  unfold parseOneGroup at parsed
  obtain ⟨path,_,rest⟩ := Option.bind_eq_some_iff.mp parsed
  split at rest
  · rename_i json read
    obtain ⟨images,listed,rest⟩ := Option.bind_eq_some_iff.mp rest
    split at rest
    · cases rest
    · rename_i some
      cases rest
      exact ⟨json,images,read,listed,some,rfl⟩
  · cases rest
  · cases rest

theorem tiles_some {groupsJson : List Json} (member : group ∈ readGroups ofInt store groupsJson) : group.tiles ≠ [] := by
  obtain ⟨_,_,parsed⟩ := List.mem_filterMap.mp member
  obtain ⟨_,images,_,_,some,tiles⟩ := parseOneGroup_some parsed
  rw [tiles]
  exact fun empty => some (List.map_eq_nil_iff.mp empty)

theorem tiles_of_path {groupsJson : List Json} (member : group ∈ readGroups ofInt store groupsJson)
    (member' : other ∈ readGroups ofInt store groupsJson) (same : group.path = other.path) : group.tiles = other.tiles := by
  obtain ⟨_,_,parsed⟩ := List.mem_filterMap.mp member
  obtain ⟨_,_,parsed'⟩ := List.mem_filterMap.mp member'
  obtain ⟨json,images,read,listed,_,tiles⟩ := parseOneGroup_some parsed
  obtain ⟨json',images',read',listed',_,tiles'⟩ := parseOneGroup_some parsed'
  rw [same,read'] at read
  cases read
  rw [listed'] at listed
  cases listed
  rw [tiles,tiles',same]

theorem nodup_paths {groupsJson : List Json}
    (distinct : (((readGroups ofInt store groupsJson).flatMap GroupParsed.tiles).map TileParsed.storePrefix).Nodup) :
    ((readGroups ofInt store groupsJson).map GroupParsed.path).Nodup := by
  rw [List.map_flatMap,List.nodup_flatMap] at distinct
  rw [List.Nodup,List.pairwise_map]
  refine distinct.2.imp_of_mem ?_
  intro group other member member' disjoint same
  have tiles := tiles_of_path member member' same
  obtain ⟨tile,rest,shape⟩ := List.exists_cons_of_ne_nil (tiles_some member)
  have here : tile.storePrefix ∈ group.tiles.map TileParsed.storePrefix := by
    rw [shape]
    exact List.mem_cons_self
  have there : tile.storePrefix ∈ other.tiles.map TileParsed.storePrefix := by
    rw [← tiles]
    exact here
  exact disjoint here there

theorem groupEntityId_ne_tileEntityId (group : GroupParsed) (tile : TileParsed) : groupEntityId id group ≠ tileEntityId id tile := by
  intro same
  have lists := congrArg String.toList same
  have marker : ":group:".toList = [':','g','r','o','u','p',':'] := rfl
  have marker' : ":tile:".toList = [':','t','i','l','e',':'] := rfl
  simp only [groupEntityId,tileEntityId,String.toList_append,marker,marker',List.append_assoc] at lists
  have tails := List.append_cancel_left lists
  simp at tails

theorem map_id_groupEntities (rows columns : List String) (group : GroupParsed) :
    (groupEntities id rows columns group).map (·.id) = groupEntityId id group::group.tiles.map (tileEntityId id) := by
  rw [groupEntities,List.map_cons,List.map_map]
  congr 1
  calc _ = (group.tiles.zipIdx.map Prod.fst).map (tileEntityId id) := by
        rw [List.map_map]
        rfl
    _ = group.tiles.map (tileEntityId id) := by rw [List.zipIdx_map_fst]

theorem nodup_entities (rows columns : List String) (paths : (groups.map GroupParsed.path).Nodup)
    (prefixes : ((groups.flatMap GroupParsed.tiles).map TileParsed.storePrefix).Nodup) :
    ((groups.flatMap (groupEntities id rows columns)).map (·.id)).Nodup := by
  have ids : (groups.flatMap (groupEntities id rows columns)).map (·.id) =
      groups.flatMap fun group => groupEntityId id group::group.tiles.map (tileEntityId id) := by
    rw [List.map_flatMap]
    exact List.flatMap_congr fun group _ => map_id_groupEntities rows columns group
  have sorted := List.map_append_flatMap_perm groups (groupEntityId id) fun group => group.tiles.map (tileEntityId id)
  rw [ids,← sorted.nodup_iff,List.nodup_append]
  refine ⟨?_,?_,?_⟩
  · have named : groups.map (groupEntityId id) = (groups.map GroupParsed.path).map (id ++ ":group:" ++ ·) := by
      rw [List.map_map]
      rfl
    rw [named]
    exact paths.map fun _ _ => (String.append_right_inj _).mp
  · have named : (groups.flatMap fun group => group.tiles.map (tileEntityId id)) =
        ((groups.flatMap GroupParsed.tiles).map TileParsed.storePrefix).map (id ++ ":tile:" ++ ·) := by
      rw [← List.map_flatMap,List.map_map]
      rfl
    rw [named]
    exact prefixes.map fun _ _ => (String.append_right_inj _).mp
  · intro first there second there' same
    obtain ⟨group,_,rfl⟩ := List.mem_map.mp there
    obtain ⟨_,_,listed⟩ := List.mem_flatMap.mp there'
    obtain ⟨tile,_,rfl⟩ := List.mem_map.mp listed
    exact groupEntityId_ne_tileEntityId group tile same

theorem length_firstPrefixes (some : ∀ group ∈ groups, group.tiles ≠ []) : (firstPrefixes groups).length = groups.length := by
  induction groups with
  | nil => rfl
  | cons group groups ih =>
    obtain ⟨tile,tiles,shape⟩ := List.exists_cons_of_ne_nil (some group List.mem_cons_self)
    have rest := ih fun other member => some other (List.mem_cons_of_mem _ member)
    unfold firstPrefixes at rest ⊢
    simp only [List.filterMap_cons,shape,List.head?_cons,Option.map_some,List.length_cons,rest]

theorem length_tileLevels {stored : List (List LevelBindingInfo)} (even : stored.length = groups.length) :
    (tileLevels groups stored).length = (groups.flatMap GroupParsed.tiles).length := by
  induction groups generalizing stored with
  | nil => rfl
  | cons group groups ih =>
    cases stored with
    | nil => cases even
    | cons levels stored =>
      have rest := ih (Nat.succ.inj even)
      unfold tileLevels at rest ⊢
      rw [List.zip_cons_cons,List.flatMap_cons,List.flatMap_cons,List.length_append,List.length_append,rest,List.length_map]

theorem mem_tileLevels {stored : List (List LevelBindingInfo)} (member : levels ∈ tileLevels groups stored) : levels ∈ stored := by
  obtain ⟨⟨group,own⟩,there,here⟩ := List.mem_flatMap.mp member
  obtain ⟨_,_,rfl⟩ := List.mem_map.mp here
  exact (List.of_mem_zip there).2

def tileEntries (id : String) (shared : SharedLevels) (row : (TileParsed × List BuiltLabel) × List LevelBindingInfo) :
    List (Graph.ImageSpec F64 × ImageBindingSeed) :=
  (tileImage id shared row.1.1,⟨tileImageId id row.1.1,shared.geometry.axesNames,some row.1.1.storePrefix,row.2⟩)::row.1.2.map labelEntry

theorem map_snd_tileEntries (labelled : List (TileParsed × List BuiltLabel)) (levels : List (List LevelBindingInfo)) :
    (List.zipWith (tileBindings id shared) labelled levels).flatten = ((labelled.zip levels).flatMap (tileEntries id shared)).map Prod.snd := by
  rw [← List.map_uncurry_zip_eq_zipWith,← List.flatMap_def,List.map_flatMap]
  refine List.flatMap_congr fun row _ => ?_
  rw [tileEntries,List.map_cons,List.map_map]
  rfl

theorem perm_tileEntries {labelled : List (TileParsed × List BuiltLabel)} {levels : List (List LevelBindingInfo)}
    (even : labelled.length = levels.length) :
    ((labelled.map Prod.fst).map (tileImage id shared) ++ (labelled.flatMap fun tile => tile.2.map BuiltLabel.spec).map (·.image)).Perm
      (((labelled.zip levels).flatMap (tileEntries id shared)).map Prod.fst) := by
  have rows : (labelled.zip levels).map Prod.fst = labelled := List.map_fst_zip (Nat.le_of_eq even)
  have split : ((labelled.zip levels).flatMap (tileEntries id shared)).map Prod.fst =
      (labelled.zip levels).flatMap fun row => tileImage id shared row.1.1::row.1.2.map (·.spec.image) := by
    rw [List.map_flatMap]
    refine List.flatMap_congr fun row _ => ?_
    rw [tileEntries,List.map_cons,List.map_map]
    rfl
  rw [split]
  refine .trans (.of_eq ?_) (List.map_append_flatMap_perm _ _ _)
  conv_lhs => rw [← rows]
  rw [List.map_map,List.map_map,List.map_flatMap,List.flatMap_map]
  congr 1
  refine List.flatMap_congr fun row _ => ?_
  rw [List.map_map]
  rfl

theorem ids_tileEntries {labelled : List (TileParsed × List BuiltLabel)} {levels : List (List LevelBindingInfo)}
    (even : labelled.length = levels.length)
    (built : ∀ tile ∈ labelled, ∀ label ∈ tile.2, LabelOf (tileImageId id tile.1) (tileEntityId id tile.1) label) :
    ((labelled.zip levels).flatMap (tileEntries id shared)).map (·.1.imageId) = (imageKeys labelled).map (id ++ ":image:" ++ ·) := by
  have rows : (labelled.zip levels).map Prod.fst = labelled := List.map_fst_zip (Nat.le_of_eq even)
  unfold imageKeys
  conv_rhs => rw [← rows]
  rw [List.map_flatMap,List.flatMap_map,List.map_flatMap]
  refine List.flatMap_congr fun row member => ?_
  have own := built row.1 (List.of_mem_zip member).1
  rw [tileEntries,List.map_cons,List.map_map,List.map_cons,List.map_map]
  congr 1
  refine List.map_congr_left fun label there => ?_
  refine (own label there).imageId.trans ?_
  simp only [tileImageId,Function.comp_apply,String.append_assoc]

theorem nodup_imageKeys_iff {labelled : List (TileParsed × List BuiltLabel)}
    (distinct : ((labelled.map Prod.fst).map TileParsed.storePrefix).Nodup → (labelPairs labelled).Nodup) :
    (imageKeys labelled).Nodup ↔ ((labelled.map Prod.fst).map TileParsed.storePrefix).Nodup ∧
      (∀ label ∈ labelPairs labelled, labelPath label ∉ (labelled.map Prod.fst).map TileParsed.storePrefix) ∧
      ∀ label ∈ labelPairs labelled, ∀ other ∈ labelPairs labelled, labelPath label = labelPath other → label.1 = other.1 := by
  have sorted := List.map_append_flatMap_perm labelled (fun tile => tile.1.storePrefix) fun tile =>
    tile.2.map fun label => tile.1.storePrefix ++ ":label:" ++ label.spec.name
  have labels : (labelled.flatMap fun tile => tile.2.map fun label => tile.1.storePrefix ++ ":label:" ++ label.spec.name) =
      (labelPairs labelled).map labelPath := by
    rw [labelPairs,List.map_flatMap]
    refine List.flatMap_congr fun tile _ => ?_
    rw [List.map_map]
    rfl
  have paths : labelled.map (fun tile => tile.1.storePrefix) = (labelled.map Prod.fst).map TileParsed.storePrefix := by
    rw [List.map_map]
    rfl
  rw [imageKeys,← sorted.nodup_iff,labels,paths,List.nodup_append]
  constructor
  · rintro ⟨images,keys,apart⟩
    refine ⟨images,fun label member listed => apart _ listed _ (List.mem_map_of_mem member) rfl,?_⟩
    intro label member other member' same
    rw [List.inj_on_of_nodup_map keys member member' same]
  · rintro ⟨images,apart,own⟩
    refine ⟨images,(distinct images).map_on fun label member other member' same => ?_,?_⟩
    · have path := own label member other member' same
      have name : label.2 = other.2 := by
        unfold labelPath at same
        rw [path] at same
        exact (String.append_right_inj _).mp same
      exact Prod.ext path name
    · intro path listed key there same
      obtain ⟨label,member,rfl⟩ := List.mem_map.mp there
      exact apart label member (same ▸ listed)

def plateWells (rootJson : Json) : List Json := ((resolveOmeBlock rootJson "plate").bind (Json.getArray · "wells")).getD []

-- The images that a well lists, by their paths in the store; an image without a path is at `0`.
def wellImages (store : MetadataStore) (well : Json) : List String :=
  match well.getStr "path" with
  | none => []
  | some wellPath =>
    match store (pathFrom (wellPath ++ "/zarr.json")) with
    | .parsed wellJson => (((resolveOmeBlock wellJson "well").bind (Json.getArray · "images")).getD []).map fun image =>
        wellPath ++ "/" ++ (image.getStr "path").getD "0"
    | .malformed | .failed _ => []

def listedImages (store : MetadataStore) (rootJson : Json) : List String := (plateWells rootJson).flatMap (wellImages store)

def firstImages (store : MetadataStore) (rootJson : Json) : List String :=
  (plateWells rootJson).filterMap fun well => (wellImages store well).head?

def plateGroups (ofInt : Int → F64) (store : MetadataStore) (rootJson : Json) : List GroupParsed :=
  readGroups ofInt store (plateWells rootJson)

theorem wellImages_eq (ofInt : Int → F64) (store : MetadataStore) (well : Json) :
    wellImages store well = ((parseOneGroup ofInt store well).map fun group => group.tiles.map TileParsed.storePrefix).getD [] := by
  unfold wellImages parseOneGroup
  cases well.getStr "path" with
  | none => rfl
  | some wellPath =>
    simp only [Option.bind_eq_bind,Option.bind_some]
    cases store (pathFrom (wellPath ++ "/zarr.json")) with
    | malformed => rfl
    | failed error => rfl
    | parsed json =>
      dsimp only
      cases (resolveOmeBlock json "well").bind (Json.getArray · "images") with
      | none => rfl
      | some images =>
        simp only [Option.bind_some,Option.getD_some]
        split
        · rename_i empty
          rw [empty]
          rfl
        · simp only [Option.map_some,Option.getD_some,List.map_map]
          rfl

theorem listedImages_eq (ofInt : Int → F64) (store : MetadataStore) (rootJson : Json) :
    listedImages store rootJson = ((plateGroups ofInt store rootJson).flatMap GroupParsed.tiles).map TileParsed.storePrefix := by
  unfold listedImages plateGroups readGroups
  rw [List.map_flatMap]
  induction plateWells rootJson with
  | nil => rfl
  | cons well wells ih =>
    rw [List.flatMap_cons,List.filterMap_cons,ih,wellImages_eq ofInt]
    cases parseOneGroup ofInt store well with
    | none => rfl
    | some group => rfl

theorem firstImages_eq (ofInt : Int → F64) (store : MetadataStore) (rootJson : Json) :
    firstImages store rootJson = firstPrefixes (plateGroups ofInt store rootJson) := by
  unfold firstImages firstPrefixes plateGroups readGroups
  rw [List.filterMap_filterMap]
  refine List.filterMap_congr fun well _ => ?_
  rw [wellImages_eq ofInt]
  cases parseOneGroup ofInt store well with
  | none => rfl
  | some group => exact List.head?_map

def plateKept (ofInt : Int → F64) (store : MetadataStore) (rootJson : Json) (forceExhaustive : Bool) : List (String × String) :=
  keptLabels ofInt store (labelsFound ((listedImages store rootJson).zip
    (discoverLabels store (plateGroups ofInt store rootJson) forceExhaustive)))

structure PlateUnambiguous (ofInt : Int → F64) (store : MetadataStore) (rootJson : Json) (forceExhaustive : Bool) : Prop where
  images : (listedImages store rootJson).Nodup
  labels : ∀ label ∈ plateKept ofInt store rootJson forceExhaustive, labelPath label ∉ listedImages store rootJson
  apart : ∀ label ∈ plateKept ofInt store rootJson forceExhaustive, ∀ other ∈ plateKept ofInt store rootJson forceExhaustive,
    labelPath label = labelPath other → label.1 = other.1
  levels : ∃ imagePath geometry, Served ofInt store (firstImages store rootJson) imagePath geometry ∧
    geometry.levelEntries.length ≤ 2^32
  labelLevels : FewLabelLevels ofInt store (plateKept ofInt store rootJson forceExhaustive)

theorem plateLabels_kept (ofInt : Int → F64) (store : MetadataStore) (id : String) (rootJson : Json) (forceExhaustive : Bool) :
    (∀ tile ∈ plateLabels ofInt store id (plateGroups ofInt store rootJson) forceExhaustive,
      LabelsKept ofInt store (tileImageId id tile.1) (tileEntityId id tile.1) tile.1.storePrefix tile.2) ∧
      labelPairs (plateLabels ofInt store id (plateGroups ofInt store rootJson) forceExhaustive) =
        plateKept ofInt store rootJson forceExhaustive := by
  have rows : byPath (((plateGroups ofInt store rootJson).flatMap GroupParsed.tiles).zip
        (discoverLabels store (plateGroups ofInt store rootJson) forceExhaustive)) =
      (listedImages store rootJson).zip (discoverLabels store (plateGroups ofInt store rootJson) forceExhaustive) := by
    rw [listedImages_eq ofInt,List.zip_map_left]
    rfl
  have probed := @probed_discoverLabels store (plateGroups ofInt store rootJson) forceExhaustive
  rw [← listedImages_eq,← rows] at probed
  have kept := @buildTileLabels_kept ofInt store id .new _ probed
  rw [rows] at kept
  exact kept

theorem nodup_plateKept (distinct : (listedImages store rootJson).Nodup) (forceExhaustive : Bool) :
    (plateKept ofInt store rootJson forceExhaustive).Nodup := by
  have probed := @probed_discoverLabels store (plateGroups ofInt store rootJson) forceExhaustive
  rw [← listedImages_eq] at probed
  have even : (listedImages store rootJson).length ≤ (discoverLabels store (plateGroups ofInt store rootJson) forceExhaustive).length := by
    rw [length_discoverLabels,listedImages_eq ofInt,List.length_map]
  have found := nodup_labelsFound probed ((List.map_fst_zip even).symm ▸ distinct)
  exact (found.filter _).sublist (List.take_sublist _ _)

theorem length_plateLabels {groupsJson : List Json} (read : groups = readGroups ofInt store groupsJson)
    (levels : shareLevels ofInt store groups = .ok shared) (forceExhaustive : Bool) :
    (plateLabels ofInt store id groups forceExhaustive).length = (tileLevels groups shared.stored).length := by
  have some : ∀ group ∈ groups, group.tiles ≠ [] := by
    intro group member
    rw [read] at member
    exact tiles_some member
  rw [length_tileLevels ((shareLevels_ok levels).1.trans (length_firstPrefixes some)),← map_fst_plateLabels forceExhaustive,List.length_map]

theorem paired_collection {groupsJson : List Json} (read : groups = readGroups ofInt store groupsJson)
    (levels : shareLevels ofInt store groups = .ok shared) (rows columns : List String) (forceExhaustive : Bool)
    (transforms : List (Graph.TransformEdge F64)) (built : ∀ tile ∈ plateLabels ofInt store id groups forceExhaustive, ∀ label ∈ tile.2,
      LabelOf (tileImageId id tile.1) (tileEntityId id tile.1) label) :
    (assembleCollection placing id name rows columns groups shared (plateLabels ofInt store id groups forceExhaustive) transforms).Paired
      (((plateLabels ofInt store id groups forceExhaustive).zip (tileLevels groups shared.stored)).flatMap (tileEntries id shared)) := by
  have agree := (shareLevels_ok levels).2
  have even := @length_plateLabels _ _ id _ _ _ read levels forceExhaustive
  have owned : ∀ tile ∈ plateLabels ofInt store id groups forceExhaustive,
      tileEntityId id tile.1 ∈ (collectionEntities id rows columns groups).map (·.id) := by
    intro tile member
    have listed : tile.1 ∈ groups.flatMap GroupParsed.tiles := by
      rw [← map_fst_plateLabels forceExhaustive]
      exact List.mem_map_of_mem member
    obtain ⟨group,there,here⟩ := List.mem_flatMap.mp listed
    rw [collectionEntities,List.map_flatMap]
    refine List.mem_flatMap.mpr ⟨group,there,?_⟩
    rw [map_id_groupEntities]
    exact List.mem_cons_of_mem _ (List.mem_map_of_mem here)
  refine ⟨?_,map_snd_tileEntries _ _,?_,?_,?_⟩
  · have tiles := @map_fst_plateLabels ofInt store id groups forceExhaustive
    unfold ImportResult.allImages assembleCollection
    dsimp only
    rw [← tiles]
    exact perm_tileEntries even
  · refine List.forall_mem_flatMap.mpr fun row member => List.forall_mem_cons.mpr ⟨rfl,?_⟩
    exact List.forall_mem_map.mpr fun label there => (built row.1 (List.of_mem_zip member).1 label there).binding
  · refine List.forall_mem_flatMap.mpr fun row member => List.forall_mem_cons.mpr ⟨?_,?_⟩
    · exact agree row.2 (mem_tileLevels (List.of_mem_zip member).2)
    · exact List.forall_mem_map.mpr fun label there => (built row.1 (List.of_mem_zip member).1 label there).agree
  · refine List.forall_mem_flatMap.mpr fun row member => List.forall_mem_cons.mpr ⟨owned row.1 (List.of_mem_zip member).1,?_⟩
    refine List.forall_mem_map.mpr fun label there => ?_
    have own := (built row.1 (List.of_mem_zip member).1 label there).owner
    rw [labelEntry,own]
    exact owned row.1 (List.of_mem_zip member).1

theorem few_tileEntries {labelled : List (TileParsed × List BuiltLabel)} {levels : List (List LevelBindingInfo)}
    (even : labelled.length = levels.length) (some : labelled ≠ []) :
    (∀ entry ∈ (labelled.zip levels).flatMap (tileEntries id shared), entry.1.multiscale.levels.length ≤ 2^32) ↔
      shared.levels.length ≤ 2^32 ∧
        ∀ tile ∈ labelled, ∀ label ∈ tile.2, label.spec.image.multiscale.levels.length ≤ 2^32 := by
  have rows : (labelled.zip levels).map Prod.fst = labelled := List.map_fst_zip (Nat.le_of_eq even)
  rw [List.forall_mem_flatMap]
  constructor
  · intro few
    have each : ∀ tile ∈ labelled, shared.levels.length ≤ 2^32 ∧ ∀ label ∈ tile.2, label.spec.image.multiscale.levels.length ≤ 2^32 := by
      intro tile member
      rw [← rows] at member
      obtain ⟨row,there,rfl⟩ := List.mem_map.mp member
      obtain ⟨own,labels⟩ := List.forall_mem_cons.mp (few row there)
      exact ⟨own,List.forall_mem_map.mp labels⟩
    obtain ⟨tile,member⟩ := List.exists_mem_of_ne_nil _ some
    exact ⟨(each tile member).1,fun tile member => (each tile member).2⟩
  · intro ⟨own,labels⟩ row member
    exact List.forall_mem_cons.mpr ⟨own,List.forall_mem_map.mpr (labels row.1 (List.of_mem_zip member).1)⟩

theorem few_labelPairs {labelled : List (TileParsed × List BuiltLabel)}
    (kept : ∀ tile ∈ labelled, LabelsKept ofInt store (tileImageId id tile.1) (tileEntityId id tile.1) tile.1.storePrefix tile.2) :
    (∀ tile ∈ labelled, ∀ label ∈ tile.2, label.spec.image.multiscale.levels.length ≤ 2^32) ↔
      FewLabelLevels ofInt store (labelPairs labelled) := by
  unfold FewLabelLevels labelPairs
  rw [List.forall_mem_flatMap]
  exact forall₂_congr fun tile member => (kept tile member).few_iff

theorem importCollection_wellFormed_iff
    (accepted : importCollection ofInt store placing id name rootJson forceExhaustive = .ok result) :
    result.WellFormed ↔ PlateUnambiguous ofInt store rootJson forceExhaustive := by
  unfold importCollection at accepted
  obtain ⟨plate,resolved,rest⟩ := bind_ok accepted
  obtain ⟨groupsJson,listed,rest⟩ := bind_ok rest
  have read : readGroups ofInt store groupsJson = plateGroups ofInt store rootJson := by
    rw [plateGroups,plateWells,required_ok resolved,Option.bind_some,required_ok listed]
    rfl
  rw [read] at rest
  dsimp only at rest
  split at rest
  · cases rest
  · rename_i some
    obtain ⟨shared,levels,rest⟩ := bind_ok rest
    obtain ⟨transforms,_,same⟩ := bind_ok rest
    cases same
    have even := @length_plateLabels _ _ id _ _ _ read.symm levels forceExhaustive
    have tiles := @map_fst_plateLabels ofInt store id (plateGroups ofInt store rootJson) forceExhaustive
    have paths : ((plateLabels ofInt store id (plateGroups ofInt store rootJson) forceExhaustive).map Prod.fst).map TileParsed.storePrefix =
        listedImages store rootJson := by rw [tiles,listedImages_eq ofInt]
    have labelled : plateLabels ofInt store id (plateGroups ofInt store rootJson) forceExhaustive ≠ [] := by
      intro empty
      rw [empty] at tiles
      obtain ⟨group,member⟩ := List.exists_mem_of_ne_nil _ some
      exact tiles_some member (List.flatMap_eq_nil_iff.mp tiles.symm group member)
    obtain ⟨kept,pairs⟩ := plateLabels_kept ofInt store id rootJson forceExhaustive
    have keys := @nodup_imageKeys_iff (plateLabels ofInt store id (plateGroups ofInt store rootJson) forceExhaustive)
      fun distinct => pairs ▸ nodup_plateKept (paths ▸ distinct) forceExhaustive
    rw [paths,pairs] at keys
    have built := fun tile member => (kept tile member).built
    rw [wellFormed_of_pairs (paired_collection read.symm levels _ _ forceExhaustive transforms built),
      ids_tileEntries even built,few_tileEntries even labelled,few_labelPairs kept,pairs,shareLevels_le_iff levels,
      ← firstImages_eq]
    constructor
    · intro ⟨_,distinct,served,labels⟩
      obtain ⟨images,apart,own⟩ := keys.mp distinct.of_map
      exact ⟨images,apart,own,served,labels⟩
    · intro plain
      have distinct := keys.mpr ⟨plain.images,plain.labels,plain.apart⟩
      have prefixes := plain.images
      rw [listedImages_eq ofInt] at prefixes
      exact ⟨nodup_entities _ _ (nodup_paths prefixes) prefixes,distinct.map fun _ _ => (String.append_right_inj _).mp,
        plain.levels,plain.labelLevels⟩

-- What the importer relies on and does not check.
def Unambiguous (ofInt : Int → F64) (store : MetadataStore) (forceExhaustive : Bool) : Prop :=
  ∀ rootJson, readZarrJson store "zarr.json" = .ok rootJson →
    if (resolveOmeBlock rootJson "plate").isSome then PlateUnambiguous ofInt store rootJson forceExhaustive
    else (∀ multiscales, parseMultiscales ofInt rootJson "" = .ok multiscales → multiscales.levelEntries.length ≤ 2^32) ∧
      FewLabelLevels ofInt store (keptLabels ofInt store (listedLabels store))

theorem import_wellFormed_iff (accepted : importDataset ofInt store placing id name forceExhaustive = .ok result) :
    result.WellFormed ↔ Unambiguous ofInt store forceExhaustive := by
  unfold importDataset at accepted
  obtain ⟨rootJson,root,rest⟩ := bind_ok accepted
  have only : Unambiguous ofInt store forceExhaustive ↔
      if (resolveOmeBlock rootJson "plate").isSome then PlateUnambiguous ofInt store rootJson forceExhaustive
      else (∀ multiscales, parseMultiscales ofInt rootJson "" = .ok multiscales → multiscales.levelEntries.length ≤ 2^32) ∧
        FewLabelLevels ofInt store (keptLabels ofInt store (listedLabels store)) := by
    constructor
    · exact fun every => every rootJson root
    · intro here other read
      rw [root] at read
      cases read
      exact here
  rw [only]
  split at rest
  · rename_i plate
    rw [if_pos plate]
    exact importCollection_wellFormed_iff rest
  · rename_i image
    rw [if_neg image]
    obtain ⟨geometry,read,_⟩ := bind_ok rest
    obtain ⟨multiscales,parsed,_⟩ := bind_ok read
    rw [importSingleImage_wellFormed_iff rest parsed]
    constructor
    · intro ⟨few,labels⟩
      refine ⟨?_,labels⟩
      intro other again
      rw [parsed] at again
      cases again
      exact few
    · intro ⟨few,labels⟩
      exact ⟨few multiscales parsed,labels⟩

end Collection

section PlateOfOneWell

def omeDocument (block : String) (value : Json) : Json := .object [("attributes",.object [("ome",.object [(block,value)])])]

def namedEntry (name : String) : Json := .object [("name",.string name)]

def pathEntry (path : String) : Json := .object [("path",.string path)]

def sizes (values : List UInt64) : Json := .array (values.map fun n => .number (.unsigned n))

def littleEndianBytes : Json := .object [("name",.string "bytes"),("configuration",.object [("endian",.string "little")])]

def arrayDocument (shape chunkShape : List UInt64) : Json :=
  .object [("shape",sizes shape),("data_type",.string "uint8"),
    ("chunk_grid",.object [("configuration",.object [("chunk_shape",sizes chunkShape)])]),("codecs",.array [littleEndianBytes])]

def wellRoot : Json := omeDocument "plate" (.object [("wells",.array [pathEntry "A"])])

def wellStore (tilePaths : List String) : MetadataStore := fun path =>
  if path = "zarr.json" then .parsed wellRoot
  else if path = "A/zarr.json" then .parsed (omeDocument "well" (.object [("images",.array (tilePaths.map pathEntry))]))
  else if path = "A/0/zarr.json" then
    .parsed (omeDocument "multiscales" (.array [.object [("axes",.array [namedEntry "y",namedEntry "x"]),
      ("datasets",.array [pathEntry "0"])]]))
  else if path = "A/0/0/zarr.json" then .parsed (arrayDocument [4,4] [4,4])
  else .failed (.notFound path "")

def importWell (tilePaths : List String) : Except ImportError ImportResult :=
  importDataset (fun _ => .one) (wellStore tilePaths) ⟨fun _ _ => [],fun _ _ => [],fun _ _ => []⟩ "plate" "Plate" false

theorem readZarrJson_wellStore (tilePaths : List String) :
    readZarrJson (wellStore tilePaths) "zarr.json" = .ok wellRoot := by
  have root : pathFrom "zarr.json" = "zarr.json" := by decide +kernel
  rw [readZarrJson,root]
  rfl

theorem import_wellFormed_two_images : ∃ result, importWell ["0","1"] = .ok result ∧ result.WellFormed := by
  cases imported : importWell ["0","1"] with
  | error error =>
    have accepted : (importWell ["0","1"]).toBool = true := by decide +kernel
    rw [imported] at accepted
    cases accepted
  | ok result =>
    refine ⟨result,rfl,(import_wellFormed_iff imported).mpr ?_⟩
    intro rootJson root
    rw [readZarrJson_wellStore] at root
    cases root
    have plate : (resolveOmeBlock wellRoot "plate").isSome = true := by decide +kernel
    rw [if_pos plate]
    have bare : plateKept (fun _ => .one) (wellStore ["0","1"]) wellRoot false = [] := by decide +kernel
    refine ⟨by decide +kernel,by simp [bare],by simp [bare],?_,by simp [FewLabelLevels,bare]⟩
    have few : (readTileGeometry (fun _ => .one) (wellStore ["0","1"]) "A/0").toOption.map (fun geometry => geometry.levelEntries.length) =
        some 1 := by decide +kernel
    have chosen : (selectSharedTileGeometry (fun _ => .one) (wellStore ["0","1"]) (firstImages (wellStore ["0","1"]) wellRoot)).map
        TileGeometry.tilePrefix = some "A/0" := by decide +kernel
    obtain ⟨geometry,read,levels⟩ := Option.map_eq_some_iff.mp few
    refine ⟨"A/0",geometry,⟨by decide +kernel,toOption_some read,fun representative _ selected _ => ?_⟩,by omega⟩
    rw [selected] at chosen
    exact .inl (Option.some.inj chosen).symm

-- Two images of a well at one path, which an entry without a path also is.
theorem repeated_images_are_accepted : ∃ result, importWell ["0","0"] = .ok result ∧ ¬ result.WellFormed := by
  have entities : (importWell ["0","0"]).toOption.map (fun result => result.manifest.entities.map (·.id)) =
      some ["plate:group:A","plate:tile:A/0","plate:tile:A/0"] := by decide +kernel
  cases imported : importWell ["0","0"] with
  | error error =>
    rw [imported] at entities
    cases entities
  | ok result =>
    rw [imported] at entities
    refine ⟨result,rfl,?_⟩
    intro wellFormed
    have listed : result.manifest.entities.map (·.id) = ["plate:group:A","plate:tile:A/0","plate:tile:A/0"] := Option.some.inj entities
    have distinct := wellFormed.entities
    rw [listed] at distinct
    exact absurd distinct (by decide)

end PlateOfOneWell
end Lucida.Store
