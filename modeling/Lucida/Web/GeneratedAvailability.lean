import Lucida.Content.Graph
import Lucida.Lib.IndexMap
import Lucida.Lib.Upsert
import Mathlib.Data.List.Sort

namespace Lucida.Web.GeneratedAvailability
open Lib Content
open Content.Graph (MultiscaleDocument GeneratedLevelDocument LabelDocument)

structure ImageSpec (N : Type) where
  imageId : ImageId
  owner : EntityId
  multiscale : MultiscaleDocument N
  deriving DecidableEq, Repr

structure DatasetManifest (N : Type) where
  datasetId : DatasetId
  name : String
  kind : Graph.DatasetKind
  entities : List Graph.Entity
  transforms : List (Graph.TransformEdge N)
  images : List (ImageSpec N)
  sourceLayouts : List (LayoutSpec N)
  defaultLayoutId : Option LayoutId
  labels : Option (List (LabelDocument N))
  deriving DecidableEq, Repr

-- `WireGeneratedLevelAvailability`, its telemetry apart.
structure GeneratedLevelAvailability (N : Type) where
  imageId : ImageId
  info : GeneratedLevelDocument
  level : LevelGeometry N
  deriving DecidableEq, Repr

section Merge
variable {N : Type}

-- A copy of an image: lists that are absent become empty ones.
def cloneImage (image : ImageSpec N) : ImageSpec N :=
  { image with multiscale := { image.multiscale with
      generatedLevels := some (image.multiscale.generatedLevels.getD [])
      pinnedAxes := some (image.multiscale.pinnedAxes.getD []) } }

def cloneManifest (manifest : DatasetManifest N) : DatasetManifest N := { manifest with images := manifest.images.map cloneImage }

def upsertLevelGeometry (levels : List (LevelGeometry N)) (incoming : LevelGeometry N) : List (LevelGeometry N) :=
  match levels.findIdx? fun level => level.levelIndex = incoming.levelIndex with
  | some index => levels.set index incoming
  | none =>
    let insertAt := incoming.levelIndex
    if insertAt ≤ levels.length then levels.take insertAt ++ incoming::levels.drop insertAt
    else levels ++ [incoming]

def upsertGeneratedLevelInfo (levels : List GeneratedLevelDocument) (incoming : GeneratedLevelDocument) : List GeneratedLevelDocument :=
  match levels.findIdx? fun level => level.levelIndex = incoming.levelIndex with
  | some index => levels.set index incoming
  | none => levels ++ [incoming]

def coarseAfter (coarse : Option Nat) (info : GeneratedLevelDocument) : Option Nat :=
  if info.role.getD .coarse = .coarse then some info.levelIndex else coarse

def applyLevel (image : ImageSpec N) (generated : GeneratedLevelAvailability N) : ImageSpec N :=
  { image with multiscale := { image.multiscale with
      levels := upsertLevelGeometry image.multiscale.levels generated.level
      generatedLevels := some (upsertGeneratedLevelInfo (image.multiscale.generatedLevels.getD []) generated.info)
      coarseLevelIndex := coarseAfter image.multiscale.coarseLevelIndex generated.info } }

def imageById (images : List (ImageSpec N)) : IndexMap ImageId Nat :=
  images.zipIdx.foldl (fun byId entry => if byId.contains entry.1.imageId then byId else byId.insert entry.1.imageId entry.2) .empty

def mergeTurn (byId : IndexMap ImageId Nat) (images : List (ImageSpec N)) (generated : GeneratedLevelAvailability N) : List (ImageSpec N) :=
  match byId.get? generated.imageId with
  | none => images
  | some index => images.modify index fun image => applyLevel image generated

def mergeGeneratedAvailabilityIntoManifest (manifest : DatasetManifest N) (availability : List (GeneratedLevelAvailability N)) :
    DatasetManifest N :=
  let next := cloneManifest manifest
  { next with images := availability.foldl (mergeTurn (imageById next.images)) next.images }

end Merge

section
variable {N : Type} {image : ImageSpec N} {images : List (ImageSpec N)} {availability : List (GeneratedLevelAvailability N)}

theorem upsertLevelGeometry_eq (levels : List (LevelGeometry N)) (incoming : LevelGeometry N) :
    upsertLevelGeometry levels incoming = upsert LevelGeometry.levelIndex (fun _ level => level.levelIndex) levels incoming := by
  unfold upsertLevelGeometry upsert
  cases levels.findIdx? fun level => level.levelIndex = incoming.levelIndex with
  | some index => rfl
  | none =>
    dsimp only
    split
    · rfl
    · rename_i long
      rw [List.take_of_length_le (by omega),List.drop_of_length_le (by omega)]

theorem upsertGeneratedLevelInfo_eq (levels : List GeneratedLevelDocument) (incoming : GeneratedLevelDocument) :
    upsertGeneratedLevelInfo levels incoming = upsert GeneratedLevelDocument.levelIndex (fun levels _ => levels.length) levels incoming := by
  unfold upsertGeneratedLevelInfo upsert
  cases levels.findIdx? fun level => level.levelIndex = incoming.levelIndex with
  | some index => rfl
  | none =>
    dsimp only
    rw [List.take_length,List.drop_length]

def merged (image : ImageSpec N) (generated : List (GeneratedLevelAvailability N)) : ImageSpec N :=
  { image with multiscale := { image.multiscale with
      levels := upsertEach LevelGeometry.levelIndex (fun _ level => level.levelIndex) image.multiscale.levels (generated.map (·.level))
      generatedLevels := some (upsertEach GeneratedLevelDocument.levelIndex (fun levels _ => levels.length)
        (image.multiscale.generatedLevels.getD []) (generated.map (·.info)))
      coarseLevelIndex := generated.foldl (fun coarse level => coarseAfter coarse level.info) image.multiscale.coarseLevelIndex
      pinnedAxes := some (image.multiscale.pinnedAxes.getD []) } }

theorem merged_nil (image : ImageSpec N) : merged image [] = cloneImage image := rfl

theorem applyLevel_merged (image : ImageSpec N) (generated : List (GeneratedLevelAvailability N)) (level : GeneratedLevelAvailability N) :
    applyLevel (merged image generated) level = merged image (generated ++ [level]) := by
  unfold applyLevel merged
  simp only [upsertLevelGeometry_eq,upsertGeneratedLevelInfo_eq,upsertEach,List.map_append,List.map_cons,List.map_nil,List.foldl_append,
    List.foldl_cons,List.foldl_nil,Option.getD_some]

theorem coarse_again (coarse : Option Nat) (generated : List (GeneratedLevelAvailability N)) :
    generated.foldl (fun coarse level => coarseAfter coarse level.info)
      (generated.foldl (fun coarse level => coarseAfter coarse level.info) coarse) =
      generated.foldl (fun coarse level => coarseAfter coarse level.info) coarse := by
  -- A level with a coarse role makes what stood before it irrelevant; without one the value never changes.
  have settles : (∀ c c', generated.foldl (fun coarse level => coarseAfter coarse level.info) c =
      generated.foldl (fun coarse level => coarseAfter coarse level.info) c') ∨
      ∀ c, generated.foldl (fun coarse level => coarseAfter coarse level.info) c = c := by
    induction generated with
    | nil => exact .inr fun _ => rfl
    | cons level generated ih =>
      simp only [List.foldl_cons]
      rcases ih with same | still
      · exact .inl fun c c' => same _ _
      · by_cases role : level.info.role.getD .coarse = .coarse
        · refine .inl fun c c' => ?_
          rw [still,still,coarseAfter,if_pos role,coarseAfter,if_pos role]
        · refine .inr fun c => ?_
          rw [still,coarseAfter,if_neg role]
  rcases settles with same | still
  · exact same _ _
  · rw [still,still]

theorem merged_again (image : ImageSpec N) (generated : List (GeneratedLevelAvailability N)) :
    merged (merged image generated) generated = merged image generated := by
  unfold merged
  simp only [upsertEach_again,coarse_again,Option.getD_some]

theorem imageById_get? (images : List (ImageSpec N)) (id : ImageId) :
    (imageById images).get? id = images.findIdx? fun image => image.imageId = id := by
  have run : ∀ (byId : IndexMap ImageId Nat) start,
      ((images.zipIdx start).foldl (fun byId entry => if byId.contains entry.1.imageId then byId
        else byId.insert entry.1.imageId entry.2) byId).get? id =
      (byId.get? id).or ((images.findIdx? fun image => image.imageId = id).map (start+·)) := by
    induction images with
    | nil => simp
    | cons image images ih =>
      intro byId start
      rw [List.zipIdx_cons,List.foldl_cons,ih,List.findIdx?_cons]
      unfold IndexMap.contains
      by_cases own : image.imageId = id
      · subst own
        cases known : byId.get? image.imageId <;> simp [known]
      · have other : ¬id = image.imageId := fun same => own same.symm
        have moved : ∀ found : Option Nat, (found.map (·+1)).map (start+·) = found.map (start+1+·) := by
          intro found
          rw [Option.map_map]
          congr 1
          funext index
          simp only [Function.comp_apply]
          omega
        simp only [own,decide_false,Bool.false_eq_true,if_false,moved]
        congr 1
        split
        · rfl
        · rw [IndexMap.get?_insert,if_neg other]
  rw [imageById,run]
  simp

def generatedFor (availability : List (GeneratedLevelAvailability N)) (id : ImageId) : List (GeneratedLevelAvailability N) :=
  availability.filter fun generated => generated.imageId = id

-- Only the first image of an id takes levels, and it takes all that are for that id.
theorem merge_images (manifest : DatasetManifest N) (availability : List (GeneratedLevelAvailability N)) (p : Nat) :
    (mergeGeneratedAvailabilityIntoManifest manifest availability).images[p]? = manifest.images[p]?.map fun image =>
      merged image (if (manifest.images.findIdx? fun other => other.imageId = image.imageId) = some p
        then generatedFor availability image.imageId else []) := by
  have first : ∀ id, (imageById (manifest.images.map cloneImage)).get? id = manifest.images.findIdx? fun image => image.imageId = id := by
    intro id
    rw [imageById_get?,List.findIdx?_map]
    rfl
  have run : ∀ later done, ∀ images : List (ImageSpec N),
      (∀ q : Nat, images[q]? = manifest.images[q]?.map fun image =>
        merged image (if (manifest.images.findIdx? fun other => other.imageId = image.imageId) = some q
          then generatedFor done image.imageId else [])) →
      ∀ q : Nat, (later.foldl (mergeTurn (imageById (manifest.images.map cloneImage))) images)[q]? = manifest.images[q]?.map fun image =>
        merged image (if (manifest.images.findIdx? fun other => other.imageId = image.imageId) = some q
          then generatedFor (done ++ later) image.imageId else []) := by
    intro later
    induction later with
    | nil =>
      intro done images same q
      rw [List.foldl_nil,List.append_nil]
      exact same q
    | cons level later ih =>
      intro done images same q
      rw [List.foldl_cons,List.append_cons]
      refine ih (done ++ [level]) _ (fun r => ?_) q
      unfold mergeTurn
      rw [first]
      cases here : manifest.images[r]? with
      | none =>
        have nothing : images[r]? = none := by rw [same,here]; rfl
        split
        · rw [nothing]
          rfl
        · rw [List.getElem?_modify,nothing]
          rfl
      | some image =>
        have before := same r
        rw [here,Option.map_some] at before
        have grown : generatedFor (done ++ [level]) image.imageId =
            generatedFor done image.imageId ++ if level.imageId = image.imageId then [level] else [] := by
          rw [generatedFor,List.filter_append]
          congr 1
          by_cases own : level.imageId = image.imageId <;> simp [own]
        rw [Option.map_some,grown]
        split
        · rename_i unknown
          rw [before]
          by_cases own : level.imageId = image.imageId
          · rw [own] at unknown
            rw [unknown]
            simp
          · simp [own]
        · rename_i index found
          rw [List.getElem?_modify,before]
          change some (if index = r then applyLevel _ level else _) = _
          by_cases own : level.imageId = image.imageId
          · rw [own] at found
            by_cases at_r : index = r
            · subst at_r
              simp only [found,if_true,own,applyLevel_merged]
            · have elsewhere : ¬(some index = some r) := fun equal => at_r (Option.some.inj equal)
              simp [found,at_r]
          · have apart : ¬index = r := by
              intro equal
              subst equal
              have hit := (List.findIdx?_eq_some_iff_getElem.mp found)
              obtain ⟨short,same',_⟩ := hit
              rw [List.getElem?_eq_getElem short] at here
              cases here
              exact own (of_decide_eq_true same').symm
            simp [own,apart]
  have start : ∀ q : Nat, (manifest.images.map cloneImage)[q]? = manifest.images[q]?.map fun image =>
      merged image (if (manifest.images.findIdx? fun other => other.imageId = image.imageId) = some q
        then generatedFor [] image.imageId else []) := by
    intro q
    rw [List.getElem?_map]
    congr 1
    funext image
    rw [generatedFor,List.filter_nil,ite_self,merged_nil]
  exact run availability [] _ start p

end

def Placed {N : Type} (levels : List (LevelGeometry N)) : Prop :=
  ∀ (position : Nat) level, levels[position]? = some level → level.levelIndex = position

def indicesFor {N : Type} (availability : List (GeneratedLevelAvailability N)) (id : ImageId) : List Nat :=
  (generatedFor availability id).map fun generated => generated.level.levelIndex

namespace DatasetManifest
variable {N : Type} (manifest : DatasetManifest N)

def levels : List (List (LevelGeometry N)) := manifest.images.map fun image => image.multiscale.levels

def Reaches (image : ImageSpec N) : Prop := manifest.images.find? (fun other => other.imageId = image.imageId) = some image

end DatasetManifest

structure Extends {N : Type} (manifest : DatasetManifest N) (availability : List (GeneratedLevelAvailability N)) : Prop where
  placed : ∀ image ∈ manifest.images, Placed image.multiscale.levels
  distinct : (availability.map fun generated => (generated.imageId,generated.level.levelIndex)).Nodup
  contiguous : ∀ image ∈ manifest.images, ∃ size, ∀ k, k < size ↔
    k < image.multiscale.levels.length ∨ k ∈ indicesFor availability image.imageId

section
variable {N : Type} {manifest : DatasetManifest N} {availability other : List (GeneratedLevelAvailability N)} {image : ImageSpec N}
  {levels : List (LevelGeometry N)}

theorem placed_iff : Placed levels ↔ levels.map LevelGeometry.levelIndex = List.range levels.length := by
  constructor
  · intro placed
    apply List.ext_getElem?
    intro p
    rw [List.getElem?_map]
    cases here : levels[p]? with
    | none => rw [List.getElem?_eq_none (by rwa [List.length_range,← List.getElem?_eq_none_iff])]; rfl
    | some level =>
      have short := (List.getElem?_eq_some_iff.mp here).1
      rw [List.getElem?_range short,Option.map_some,placed p level here]
  · intro keys p level here
    have short := (List.getElem?_eq_some_iff.mp here).1
    have at_p := congrArg (fun list : List Nat => list[p]?) keys
    rw [List.getElem?_map,here,List.getElem?_range short] at at_p
    exact Option.some.inj at_p

theorem DatasetManifest.Reaches.place (reaches : manifest.Reaches image) :
    ∃ p : Nat, manifest.images[p]? = some image ∧ (manifest.images.findIdx? fun other => other.imageId = image.imageId) = some p := by
  obtain ⟨own,p,short,here,before⟩ := List.find?_eq_some_iff_getElem.mp reaches
  refine ⟨p,by rw [List.getElem?_eq_getElem short,here],List.findIdx?_eq_some_iff_getElem.mpr ⟨short,?_,?_⟩⟩
  · rw [here]
    exact own
  · intro j earlier
    simpa using before j earlier

theorem reaches_of_place {p : Nat} (here : manifest.images[p]? = some image)
    (found : (manifest.images.findIdx? fun other => other.imageId = image.imageId) = some p) : manifest.Reaches image := by
  obtain ⟨short,own,before⟩ := List.findIdx?_eq_some_iff_getElem.mp found
  obtain ⟨_,same⟩ := List.getElem?_eq_some_iff.mp here
  refine List.find?_eq_some_iff_getElem.mpr ⟨by simp,p,short,same,?_⟩
  intro j earlier
  simpa using before j earlier

theorem Extends.perm (extended : Extends manifest availability) (perm : other.Perm availability) : Extends manifest other where
  placed := extended.placed
  distinct := (perm.map _).nodup_iff.mpr extended.distinct
  contiguous := by
    intro image member
    obtain ⟨size,fills⟩ := extended.contiguous image member
    refine ⟨size,fun k => (fills k).trans ?_⟩
    unfold indicesFor generatedFor
    rw [((perm.filter _).map _).mem_iff]

theorem Extends.indices (extended : Extends manifest availability) (id : ImageId) : (indicesFor availability id).Nodup := by
  have kept := extended.distinct.sublist ((List.filter_sublist (p := fun generated => generated.imageId = id)).map _)
  refine List.Nodup.of_map (fun index => (id,index)) ?_
  rw [indicesFor,List.map_map]
  have same : ∀ generated ∈ generatedFor availability id,
      ((fun index => (id,index)) ∘ fun generated => generated.level.levelIndex) generated =
        (generated.imageId,generated.level.levelIndex) := by
    intro generated member
    have own : generated.imageId = id := by simpa using (List.mem_filter.mp member).2
    rw [Function.comp_apply,own]
  rw [List.map_congr_left same]
  exact kept

theorem merged_keys (placed : Placed image.multiscale.levels) (availability : List (GeneratedLevelAvailability N)) :
    (merged image (generatedFor availability image.imageId)).multiscale.levels.map LevelGeometry.levelIndex =
      placeAll (List.range image.multiscale.levels.length) (indicesFor availability image.imageId) := by
  change (upsertEach _ _ _ _).map LevelGeometry.levelIndex = _
  rw [keys_upsertEach,placed_iff.mp placed,List.map_map]
  rfl

theorem merged_placed_iff (extended : Extends manifest availability) (member : image ∈ manifest.images) :
    Placed (merged image (generatedFor availability image.imageId)).multiscale.levels ↔
      ¬Descends image.multiscale.levels.length (indicesFor availability image.imageId) := by
  obtain ⟨size,fills⟩ := extended.contiguous image member
  have keys := merged_keys (extended.placed image member) availability
  rw [placed_iff,← placeAll_eq_range_iff fills (extended.indices image.imageId),keys]
  constructor
  · intro ranged
    rw [ranged]
    congr 1
    -- The numbers below the length are those below the size.
    have same : ∀ k, k < (merged image (generatedFor availability image.imageId)).multiscale.levels.length ↔ k < size := by
      intro k
      rw [fills,← List.mem_range,← ranged,mem_placeAll,List.mem_range]
    exact Nat.le_antisymm (Nat.le_of_not_lt fun less => Nat.lt_irrefl _ ((same size).mp less))
      (Nat.le_of_not_lt fun less => Nat.lt_irrefl _ ((same _).mpr less))
  · intro ranged
    rw [ranged] at keys ⊢
    rw [← List.length_map (f := LevelGeometry.levelIndex),keys,List.length_range]

theorem merge_placed_iff (extended : Extends manifest availability) :
    (∀ image ∈ (mergeGeneratedAvailabilityIntoManifest manifest availability).images, Placed image.multiscale.levels) ↔
      ∀ image, manifest.Reaches image → ¬Descends image.multiscale.levels.length (indicesFor availability image.imageId) := by
  constructor
  · intro placed image reaches
    obtain ⟨p,here,found⟩ := reaches.place
    have after := merge_images manifest availability p
    rw [here,Option.map_some,if_pos found] at after
    exact (merged_placed_iff extended (List.mem_of_getElem? here)).mp (placed _ (List.mem_of_getElem? after))
  · intro calm after member
    obtain ⟨p,there⟩ := List.mem_iff_getElem?.mp member
    rw [merge_images] at there
    obtain ⟨image,here,rfl⟩ := Option.map_eq_some_iff.mp there
    have present := List.mem_of_getElem? here
    split
    · rename_i found
      exact (merged_placed_iff extended present).mpr (calm image (reaches_of_place here found))
    · exact extended.placed image present

theorem merge_ids (manifest : DatasetManifest N) (availability : List (GeneratedLevelAvailability N)) (id : ImageId) :
    ((mergeGeneratedAvailabilityIntoManifest manifest availability).images.findIdx? fun image => image.imageId = id) =
      manifest.images.findIdx? fun image => image.imageId = id := by
  have ids : (mergeGeneratedAvailabilityIntoManifest manifest availability).images.map ImageSpec.imageId =
      manifest.images.map ImageSpec.imageId := by
    apply List.ext_getElem?
    intro p
    rw [List.getElem?_map,merge_images,List.getElem?_map,Option.map_map]
    rfl
  have through : ∀ images : List (ImageSpec N), (images.findIdx? fun image => image.imageId = id) =
      (images.map ImageSpec.imageId).findIdx? fun other => other = id := by
    intro images
    rw [List.findIdx?_map]
    rfl
  rw [through,ids,← through]

theorem merge_again (manifest : DatasetManifest N) (availability : List (GeneratedLevelAvailability N)) :
    mergeGeneratedAvailabilityIntoManifest (mergeGeneratedAvailabilityIntoManifest manifest availability) availability =
      mergeGeneratedAvailabilityIntoManifest manifest availability := by
  have images : (mergeGeneratedAvailabilityIntoManifest (mergeGeneratedAvailabilityIntoManifest manifest availability) availability).images =
      (mergeGeneratedAvailabilityIntoManifest manifest availability).images := by
    apply List.ext_getElem?
    intro p
    rw [merge_images,merge_images]
    cases manifest.images[p]? with
    | none => rfl
    | some image =>
      rw [Option.map_some,Option.map_some,merge_ids]
      change some (merged _ (if (manifest.images.findIdx? fun other => other.imageId = image.imageId) = some p then
        generatedFor availability image.imageId else [])) = _
      rw [merged_again]
  have whole : ∀ other : DatasetManifest N,
      mergeGeneratedAvailabilityIntoManifest other availability =
        { other with images := (mergeGeneratedAvailabilityIntoManifest other availability).images } := fun _ => rfl
  rw [whole (mergeGeneratedAvailabilityIntoManifest manifest availability),images]

def newFor (image : ImageSpec N) (availability : List (GeneratedLevelAvailability N)) : List Nat :=
  (indicesFor availability image.imageId).filter (image.multiscale.levels.length ≤ ·)

theorem merged_same (extended : Extends manifest availability) (perm : other.Perm availability) (member : image ∈ manifest.images)
    (calm : ¬Descends image.multiscale.levels.length (indicesFor availability image.imageId))
    (calm' : ¬Descends image.multiscale.levels.length (indicesFor other image.imageId)) :
    (merged image (generatedFor other image.imageId)).multiscale.levels =
      (merged image (generatedFor availability image.imageId)).multiscale.levels := by
  obtain ⟨size,fills⟩ := extended.contiguous image member
  obtain ⟨size',fills'⟩ := (extended.perm perm).contiguous image member
  have placed := extended.placed image member
  have keys := (merged_keys placed availability).trans ((placeAll_eq_range_iff fills (extended.indices _)).mpr calm)
  have keys' := (merged_keys placed other).trans ((placeAll_eq_range_iff fills' ((extended.perm perm).indices _)).mpr calm')
  have sizes : size' = size := by
    have same : ∀ k, k < size' ↔ k < size := by
      intro k
      rw [fills,fills',indicesFor,indicesFor,generatedFor,generatedFor,((perm.filter _).map _).mem_iff]
    exact Nat.le_antisymm (Nat.le_of_not_lt fun less => Nat.lt_irrefl _ ((same size).mp less))
      (Nat.le_of_not_lt fun less => Nat.lt_irrefl _ ((same size').mpr less))
  refine ext_keys (by rw [keys']; exact List.nodup_range) (by rw [keys,keys',sizes]) fun k => ?_
  refine find?_upsertEach_perm ((perm.filter _).map _) ?_ k
  have distinct := extended.indices image.imageId
  rw [List.map_map]
  exact distinct

theorem many_of_descends (descends : Descends n arrivals) : 2 < (arrivals.filter (n ≤ ·)).length := by
  obtain ⟨high,middle,low,triple,new,below,above⟩ := descends
  have kept := triple.filter (n ≤ ·)
  have all : [high,middle,low].filter (n ≤ ·) = [high,middle,low] := by
    refine List.filter_eq_self.mpr fun k member => ?_
    simp only [List.mem_cons,List.not_mem_nil,or_false] at member
    rw [decide_eq_true_eq]
    omega
  rw [all] at kept
  exact kept.length_le

theorem not_descends_of_ascending (ascending : arrivals.Pairwise (· ≤ ·)) : ¬Descends n arrivals := by
  rintro ⟨high,middle,low,triple,new,below,above⟩
  have ordered := ascending.sublist triple
  have first := List.rel_of_pairwise_cons ordered (List.mem_cons_self (l := [low]))
  omega

theorem descends_of_many (descending : arrivals.Pairwise (· > ·)) (many : 2 < (arrivals.filter (n ≤ ·)).length) : Descends n arrivals := by
  match kept : arrivals.filter (n ≤ ·) with
  | high::middle::low::rest =>
    have within : [high,middle,low].Sublist arrivals := by
      refine List.Sublist.trans ?_ (List.filter_sublist (p := fun k => decide (n ≤ k)))
      rw [kept]
      exact List.sublist_append_left [high,middle,low] rest
    have ordered := descending.sublist within
    have new : low ∈ arrivals.filter (n ≤ ·) := by
      rw [kept]
      simp
    obtain ⟨first,rest⟩ := List.pairwise_cons.mp ordered
    exact ⟨high,middle,low,within,by simpa using (List.mem_filter.mp new).2,(List.pairwise_cons.mp rest).1 low List.mem_cons_self,
      first middle List.mem_cons_self⟩
  | [] | [_] | [_,_] =>
    rw [kept] at many
    simp at many

theorem exists_ascending (availability : List (GeneratedLevelAvailability N)) :
    ∃ ascending : List (GeneratedLevelAvailability N), ascending.Perm availability ∧ ascending.Pairwise fun first later => first.level.levelIndex ≤ later.level.levelIndex := by
  refine ⟨availability.mergeSort fun first later => decide (first.level.levelIndex ≤ later.level.levelIndex),List.mergeSort_perm ..,?_⟩
  have sorted : (availability.mergeSort fun first later => decide (first.level.levelIndex ≤ later.level.levelIndex)).Pairwise
      fun first later => decide (first.level.levelIndex ≤ later.level.levelIndex) :=
    List.pairwise_mergeSort (fun a b c => by simpa using Nat.le_trans) (fun a b => by simpa using Nat.le_total _ _) availability
  exact sorted.imp fun le => of_decide_eq_true le

theorem merge_levels_place (availability : List (GeneratedLevelAvailability N)) {p : Nat} (here : manifest.images[p]? = some image)
    (found : (manifest.images.findIdx? fun other => other.imageId = image.imageId) = some p) :
    (mergeGeneratedAvailabilityIntoManifest manifest availability).levels[p]? =
      some (merged image (generatedFor availability image.imageId)).multiscale.levels := by
  rw [DatasetManifest.levels,List.getElem?_map,merge_images,here,Option.map_some,if_pos found]
  rfl

theorem merge_same_iff (extended : Extends manifest availability) :
    (∀ other, other.Perm availability → (mergeGeneratedAvailabilityIntoManifest manifest other).levels =
        (mergeGeneratedAvailabilityIntoManifest manifest availability).levels) ↔
      ∀ image, manifest.Reaches image → (newFor image availability).length ≤ 2 := by
  constructor
  · intro same image reaches
    by_contra! many
    obtain ⟨p,here,found⟩ := reaches.place
    have member := List.mem_of_getElem? here
    obtain ⟨ascending,perm,sorted⟩ := exists_ascending availability
    have back := ascending.reverse_perm.trans perm
    have indices : (indicesFor ascending image.imageId).Pairwise (· ≤ ·) := List.pairwise_map.mpr (sorted.filter _)
    have forward := (merged_placed_iff (extended.perm perm) member).mpr (not_descends_of_ascending indices)
    have reversed : indicesFor ascending.reverse image.imageId = (indicesFor ascending image.imageId).reverse := by
      rw [indicesFor,generatedFor,List.filter_reverse,List.map_reverse]
      rfl
    have descending : (indicesFor ascending.reverse image.imageId).Pairwise (· > ·) := by
      rw [reversed,List.pairwise_reverse]
      exact (indices.and ((extended.perm perm).indices image.imageId)).imp fun both => lt_of_le_of_ne both.1 both.2
    have many' : 2 < ((indicesFor ascending.reverse image.imageId).filter (image.multiscale.levels.length ≤ ·)).length := by
      have count := (((back.filter fun generated => generated.imageId = image.imageId).map
        fun generated => generated.level.levelIndex).filter (image.multiscale.levels.length ≤ ·)).length_eq
      exact count ▸ many
    have levels := ((same _ perm).trans (same _ back).symm)
    have at_p := congrArg (fun list : List (List (LevelGeometry N)) => list[p]?) levels
    rw [merge_levels_place ascending here found,merge_levels_place ascending.reverse here found] at at_p
    rw [Option.some.inj at_p] at forward
    exact (merged_placed_iff (extended.perm back) member).mp forward (descends_of_many descending many')
  · intro few other perm
    apply List.ext_getElem?
    intro p
    rw [DatasetManifest.levels,DatasetManifest.levels,List.getElem?_map,List.getElem?_map,merge_images,merge_images]
    cases here : manifest.images[p]? with
    | none => rfl
    | some image =>
      simp only [Option.map_some]
      split
      · rename_i found
        have reaches := reaches_of_place here found
        have calm : ¬Descends image.multiscale.levels.length (indicesFor availability image.imageId) := fun descends =>
          absurd (many_of_descends descends) (Nat.not_lt.mpr (few image reaches))
        have calm' : ¬Descends image.multiscale.levels.length (indicesFor other image.imageId) := by
          intro descends
          have count := (((perm.filter fun generated => generated.imageId = image.imageId).map
            fun generated => generated.level.levelIndex).filter (image.multiscale.levels.length ≤ ·)).length_eq
          have many := many_of_descends descends
          exact absurd (count ▸ many) (Nat.not_lt.mpr (few image reaches))
        rw [merged_same extended perm (List.mem_of_getElem? here) calm calm']
      · rfl

-- A list of levels lands in place just if it has no three new ones of an image from the highest to the lowest; every
-- order of it gives the same levels just if no image gets three. Merging it again changes nothing in any case.
theorem merge_in_order_iff (extended : Extends manifest availability) :
    ((∀ image ∈ (mergeGeneratedAvailabilityIntoManifest manifest availability).images, Placed image.multiscale.levels) ∧
        mergeGeneratedAvailabilityIntoManifest (mergeGeneratedAvailabilityIntoManifest manifest availability) availability =
          mergeGeneratedAvailabilityIntoManifest manifest availability ↔
      ∀ image, manifest.Reaches image → ¬Descends image.multiscale.levels.length (indicesFor availability image.imageId)) ∧
    ((∀ other, other.Perm availability → (mergeGeneratedAvailabilityIntoManifest manifest other).levels =
        (mergeGeneratedAvailabilityIntoManifest manifest availability).levels) ↔
      ∀ image, manifest.Reaches image → (newFor image availability).length ≤ 2) := by
  refine ⟨?_,merge_same_iff extended⟩
  rw [← merge_placed_iff extended]
  exact ⟨fun both => both.1,fun placed => ⟨placed,merge_again manifest availability⟩⟩

end

section Examples

def levelOf (index : Nat) : LevelGeometry Int := ⟨index,⟨1,1,1,1,1⟩,⟨1,1,1,1,1⟩,⟨1,1,1,1,1⟩,⟨1,1,1,1,1⟩⟩

def plainManifest : DatasetManifest Int :=
  ⟨"set","Set",.single,[],[],[⟨"image","owner",⟨[],[levelOf 0],none,none,.uint8,none,none,none⟩⟩],[],none,none⟩

def listed (indices : List Nat) : List (GeneratedLevelAvailability Int) :=
  indices.map fun index => ⟨"image",⟨index,none,none⟩,levelOf index⟩

theorem listed_extends (perm : indices.Perm [1,2,3]) : Extends plainManifest (listed indices) where
  placed := by
    intro image member
    cases List.mem_singleton.mp member
    exact placed_iff.mpr rfl
  distinct := by
    rw [listed,List.map_map]
    exact (perm.map _).nodup_iff.mpr (by decide)
  contiguous := by
    intro image member
    cases List.mem_singleton.mp member
    refine ⟨4,fun k => ?_⟩
    have indices' : indicesFor (listed indices) "image" = indices := by
      rw [indicesFor,generatedFor,listed,List.filter_map,List.map_map]
      simp [Function.comp_def,levelOf]
    rw [indices',perm.mem_iff]
    simp only [List.length_singleton,List.mem_cons,List.not_mem_nil,or_false]
    omega

theorem rising_levels_land_in_place :
    ((∀ image ∈ (mergeGeneratedAvailabilityIntoManifest plainManifest (listed [3,1,2])).images, Placed image.multiscale.levels) ∧
        mergeGeneratedAvailabilityIntoManifest (mergeGeneratedAvailabilityIntoManifest plainManifest (listed [3,1,2])) (listed [3,1,2]) =
          mergeGeneratedAvailabilityIntoManifest plainManifest (listed [3,1,2])) ∧
      (mergeGeneratedAvailabilityIntoManifest plainManifest (listed [3,1,2])).levels = [[levelOf 0,levelOf 1,levelOf 2,levelOf 3]] := by
  refine ⟨(merge_in_order_iff (listed_extends (by decide))).1.mpr ?_,by decide⟩
  intro image reaches
  obtain ⟨p,here,_⟩ := reaches.place
  cases List.mem_singleton.mp (List.mem_of_getElem? here)
  have few : newFor ⟨"image","owner",⟨[],[levelOf 0],none,none,.uint8,none,none,none⟩⟩ (listed [3,1,2]) = [3,1,2] := by decide
  rintro ⟨high,middle,low,triple,_,below,above⟩
  have whole : [high,middle,low] = [3,1,2] := triple.eq_of_length rfl
  cases whole
  omega

theorem falling_levels_are_misplaced :
    ¬∀ (manifest : DatasetManifest Int) (availability : List (GeneratedLevelAvailability Int)), Extends manifest availability →
      (∀ image ∈ (mergeGeneratedAvailabilityIntoManifest manifest availability).images, Placed image.multiscale.levels) ∧
      (∀ other, other.Perm availability → (mergeGeneratedAvailabilityIntoManifest manifest other).levels =
        (mergeGeneratedAvailabilityIntoManifest manifest availability).levels) ∧
      mergeGeneratedAvailabilityIntoManifest (mergeGeneratedAvailabilityIntoManifest manifest availability) availability =
        mergeGeneratedAvailabilityIntoManifest manifest availability := by
  intro claimed
  obtain ⟨placed,_,_⟩ := claimed plainManifest (listed [3,2,1]) (listed_extends (by decide))
  have levels : (mergeGeneratedAvailabilityIntoManifest plainManifest (listed [3,2,1])).images.map (fun image => image.multiscale.levels) =
      [[levelOf 0,levelOf 1,levelOf 3,levelOf 2]] := by decide
  obtain ⟨image,member,same⟩ := List.mem_map.mp (levels ▸ List.mem_singleton_self [levelOf 0,levelOf 1,levelOf 3,levelOf 2])
  have third := placed image member 2 (levelOf 3) (by rw [same]; rfl)
  exact absurd third (by decide)

end Examples
end Lucida.Web.GeneratedAvailability
