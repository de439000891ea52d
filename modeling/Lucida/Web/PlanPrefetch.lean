import Lucida.Web.ChunkStoreAccounting
import Lucida.Web.PlanLanes

namespace Lucida.Web.Planning
open Content Lib

structure Spot where
  level : Nat
  c : Nat
  z : Nat
  y : Nat
  x : Nat
  deriving DecidableEq, Repr

def spot (req : ChunkRequest) : Spot := ⟨req.level,req.c,req.z,req.y,req.x⟩

def ofEntity (entityId : String) (requests : List ChunkRequest) : List ChunkRequest := requests.filter (·.entityId = entityId)

def atTimepoint (t : Nat) (requests : List ChunkRequest) : List ChunkRequest := requests.filter (·.t = t)

def placed (datasetId : String) (t : Nat) (req : ChunkRequest) : ChunkRequest :=
  { req with datasetId, t, chunkKey := chunkKey req.level t req.c req.z req.y req.x }

section
variable {platform : Platform} {snapshot : PlanningSnapshot} {config : PlanningConfig} {zoomDirection : Option ZoomDirection}
  {entity : EntitySnapshot} {entry : TileEntry} {region : VisibleRegion} {datasetId : String} {selection : SelectionState} {levels : List Nat}
  {req request : ChunkRequest} {lane : Lane} {tier : ResidencyTier} {laneOffset radiusView : Number}

theorem iterateGridCells_placed (datasetId' : String) (t : Nat) (levelGeo level0 : LevelGeometry Number) (level : Nat) :
    iterateGridCells entity region datasetId' { selection with t } levelGeo level0 level =
      (iterateGridCells entity region datasetId selection levelGeo level0 level).map (placed datasetId' t) := by
  unfold iterateGridCells
  dsimp only
  cases clipGridCellsToRegion entity region levelGeo level0 (chunkWorldDims levelGeo level0) with
  | none => rfl
  | some clip =>
    dsimp only
    simp only [List.map_flatMap]
    refine List.flatMap_congr fun iz _ => List.flatMap_congr fun row _ => List.flatMap_congr fun col _ => ?_
    rw [apply_ite (List.map (placed datasetId' t)),List.map_map,List.map_nil]
    rfl

theorem iterateChunksAtLevels_placed (datasetId' : String) (t : Nat) :
    iterateChunksAtLevels entity region datasetId' { selection with t } levels =
      (iterateChunksAtLevels entity region datasetId selection levels).map (placed datasetId' t) := by
  unfold iterateChunksAtLevels
  cases entity.levels[0]? with
  | none => rfl
  | some level0 =>
    simp only [List.map_flatMap]
    refine List.flatMap_congr fun level _ => ?_
    cases entity.levels[level]? with
    | none => rfl
    | some levelGeo => exact iterateGridCells_placed datasetId' t levelGeo level0 level

theorem iterateChunks_placed (datasetId' : String) (t : Nat) (active : ActiveSetEntry) :
    iterateChunks entity region datasetId' { selection with t } active =
      (iterateChunks entity region datasetId selection active).map (placed datasetId' t) := by
  cases active with
  | tile entry => exact iterateChunksAtLevels_placed datasetId' t
  | _ => rfl

theorem stampRequest_spot (stamped : stampRequest platform snapshot config entity lane tier laneOffset radiusView req = some request) :
    spot request = spot req ∧ request.t = req.t ∧ request.entityId = req.entityId ∧ request.chunkKey = req.chunkKey ∧ request.lane = lane ∧
      request.tier = tier := by
  obtain ⟨_,same⟩ := Option.ite_none_right_eq_some.mp stamped
  cases same
  exact ⟨rfl,rfl,rfl,rfl,rfl,rfl⟩

theorem stamped_spots (requests : List ChunkRequest) :
    (requests.filterMap (stampRequest platform snapshot config entity lane tier laneOffset radiusView)).map spot =
      (requests.filter (requestWithinRenderRadius platform snapshot.visibleRegion entity · radiusView)).map spot := by
  induction requests with
  | nil => rfl
  | cons req requests hypothesis =>
    by_cases within : requestWithinRenderRadius platform snapshot.visibleRegion entity req radiusView = true
    · have stamped : ∃ request, stampRequest platform snapshot config entity lane tier laneOffset radiusView req = some request := ⟨_,if_pos within⟩
      obtain ⟨request,stamped⟩ := stamped
      rw [List.filterMap_cons_some stamped,List.filter_cons,if_pos within,List.map_cons,List.map_cons,hypothesis,(stampRequest_spot stamped).1]
    · have dropped : stampRequest platform snapshot config entity lane tier laneOffset radiusView req = none := if_neg within
      rw [List.filterMap_cons_none dropped,List.filter_cons,if_neg within,hypothesis]

theorem placed_spots (datasetId : String) (t : Nat) (requests : List ChunkRequest) :
    ((requests.map (placed datasetId t)).filter (requestWithinRenderRadius platform region entity · radiusView)).map spot =
      (requests.filter (requestWithinRenderRadius platform region entity · radiusView)).map spot := by
  rw [List.filter_map,List.map_map]
  rfl

theorem timepointStep_spots (dt : Nat) :
    (timepointStep platform snapshot config entity entry dt).map spot = (detailOf platform snapshot config entity entry).map spot := by
  unfold timepointStep detailOf
  rw [stamped_spots,stamped_spots,iterateChunks_placed snapshot.datasetId (snapshot.selection.t+dt),placed_spots]

theorem countTargetLevelRequests_eq : countTargetLevelRequests platform snapshot config entity entry = (detailOf platform snapshot config entity entry).length := by
  have spots := congrArg List.length (@stamped_spots platform snapshot config entity .detail .detail config.detailLaneOffset
    config.detailRenderRadiusView (iterateChunks entity snapshot.visibleRegion snapshot.datasetId snapshot.selection (.tile entry)))
  have moved := congrArg List.length (@placed_spots platform entity snapshot.visibleRegion config.detailRenderRadiusView "" snapshot.selection.t
    (iterateChunks entity snapshot.visibleRegion snapshot.datasetId snapshot.selection (.tile entry)))
  rw [List.length_map,List.length_map,← iterateChunks_placed] at moved
  rw [List.length_map,List.length_map] at spots
  exact moved.trans spots.symm

theorem made_of_mem (member : request ∈ iterateChunksAtLevels entity region datasetId selection levels) :
    ∃ level ∈ levels, ∃ c iz row col, request = makeChunkRequest entity datasetId level selection.t c iz row col := by
  obtain ⟨_,_,level,listed,_,_,inGrid⟩ := mem_iterateChunksAtLevels.mp member
  obtain ⟨_,_,iz,row,col,c,_,_,_,_,_,same⟩ := mem_iterateGridCells.mp inGrid
  exact ⟨level,listed,c,iz,row,col,same⟩

structure Stamped (entity : EntitySnapshot) (lane : Lane) (tier : ResidencyTier) (levels : List Nat) (t : Nat) (request : ChunkRequest) : Prop where
  entityId : request.entityId = entity.entityId
  lane : request.lane = lane
  tier : request.tier = tier
  level : request.level ∈ levels
  t : request.t = t
  chunkKey : request.chunkKey = chunkKey request.level request.t request.c request.z request.y request.x

theorem stamped_of_mem (member : request ∈ (iterateChunksAtLevels entity region datasetId selection levels).filterMap
      (stampRequest platform snapshot config entity lane tier laneOffset radiusView)) :
    Stamped entity lane tier levels selection.t request := by
  obtain ⟨req,iterated,stamped⟩ := List.mem_filterMap.mp member
  obtain ⟨level,listed,c,iz,row,col,rfl⟩ := made_of_mem iterated
  obtain ⟨_,same⟩ := Option.ite_none_right_eq_some.mp stamped
  cases same
  exact ⟨rfl,rfl,rfl,listed,rfl,rfl⟩

theorem detail_stamped (member : request ∈ detailOf platform snapshot config entity entry) :
    Stamped entity .detail .detail entry.detailLevels snapshot.selection.t request := stamped_of_mem member

theorem timepoint_stamped {dt : Nat} (member : request ∈ timepointStep platform snapshot config entity entry dt) :
    Stamped entity .prefetch .detail entry.detailLevels (snapshot.selection.t+dt) request := stamped_of_mem member

theorem level_stamped {level allowance : Nat} (member : request ∈ emitLevelPrefetch platform snapshot config entity level allowance) :
    Stamped entity .prefetch .detail [level] snapshot.selection.t request :=
  stamped_of_mem ((sortBy_perm _ _).subset (List.mem_of_mem_take member))

theorem takeWhile_range' (start n bound : Nat) : (List.range' start n).takeWhile (· < bound) = List.range' start (min n (bound-start)) := by
  induction n generalizing start with
  | zero => simp
  | succ n hypothesis =>
    rw [List.range'_succ,List.takeWhile_cons]
    by_cases below : start < bound
    · rw [decide_eq_true below,hypothesis,show min (n+1) (bound-start) = min n (bound-(start+1))+1 by omega,List.range'_succ]
      rfl
    · rw [decide_eq_false below,show min (n+1) (bound-start) = 0 by omega]
      rfl

def gridTimepoints (entity : EntitySnapshot) : Nat := ((entity.levels[0]?).map (·.gridShape.t)).getD 0

theorem timepointSteps_eq : timepointSteps snapshot config zoomDirection entity =
    List.range' 1 (min (timepointStepsAllowed config zoomDirection entity) (gridTimepoints entity-snapshot.selection.t-1)) := by
  rw [← takeWhile_range']
  unfold timepointSteps
  refine congrArg (List.takeWhile · _) (funext fun dt => ?_)
  exact decide_eq_decide.mpr (by unfold gridTimepoints; omega)

theorem timepointSteps_length : (timepointSteps snapshot config zoomDirection entity).length ≤ timepointStepsAllowed config zoomDirection entity := by
  rw [timepointSteps_eq,List.length_range']
  exact Nat.min_le_left _ _

theorem stepsAllowed_le : timepointStepsAllowed config zoomDirection entity ≤ config.prefetchDepth := by
  unfold timepointStepsAllowed
  split
  · exact Nat.le_refl _
  · exact Nat.sub_le _ _

theorem timepoints_length (steps : List Nat) : (steps.flatMap (timepointStep platform snapshot config entity entry)).length =
    steps.length*(detailOf platform snapshot config entity entry).length := by
  have each (dt : Nat) : (timepointStep platform snapshot config entity entry dt).length = (detailOf platform snapshot config entity entry).length := by
    have spots := congrArg List.length (@timepointStep_spots platform snapshot config entity entry dt)
    rwa [List.length_map,List.length_map] at spots
  rw [List.length_flatMap]
  simp only [each,List.map_const',List.sum_replicate,smul_eq_mul]

-- The steps of the lane share one budget.
theorem prefetchOf_length : (prefetchOf platform snapshot config zoomDirection entity entry).length ≤
    config.prefetchDepth*(detailOf platform snapshot config entity entry).length := by
  have few : (timepointSteps snapshot config zoomDirection entity).length ≤ config.prefetchDepth := timepointSteps_length.trans stepsAllowed_le
  have whole := Nat.mul_le_mul_right (detailOf platform snapshot config entity entry).length few
  unfold prefetchOf
  split
  · exact Nat.zero_le _
  · cases levelInZoomDirection entity zoomDirection with
    | none =>
      dsimp only
      rwa [timepoints_length]
    | some level =>
      dsimp only
      rw [List.length_append,timepoints_length,countTargetLevelRequests_eq]
      have shared : (emitLevelPrefetch platform snapshot config entity level
          ((config.prefetchDepth-(timepointSteps snapshot config zoomDirection entity).length)*
            (detailOf platform snapshot config entity entry).length)).length ≤
          (config.prefetchDepth-(timepointSteps snapshot config zoomDirection entity).length)*
            (detailOf platform snapshot config entity entry).length := List.length_take_le _ _
      have parted := Nat.sub_mul config.prefetchDepth (timepointSteps snapshot config zoomDirection entity).length
        (detailOf platform snapshot config entity entry).length
      omega

theorem levelInZoomDirection_ne {level : Nat} (beside : levelInZoomDirection entity zoomDirection = some level) : level ≠ entity.targetLevel := by
  unfold levelInZoomDirection at beside
  simp only [Option.bind_eq_bind,Option.bind_eq_some_iff,Option.ite_none_left_eq_some] at beside
  obtain ⟨direction,_,_,at',found,beside⟩ := beside
  obtain ⟨inside,target,_⟩ := List.findIdx?_eq_some_iff_getElem.mp found
  have target := eq_of_beq target
  have nodup : entity.sourceLevels.Nodup := entity.ascending.imp fun below => below.ne
  have distinct (i : Nat) (within : i < entity.sourceLevels.length) (same : entity.sourceLevels[i] = entity.sourceLevels[at']) : i = at' :=
    nodup.getElem_inj_iff.mp same
  intro same
  cases direction with
  | zoomIn =>
    obtain ⟨first,found⟩ := Option.ite_none_left_eq_some.mp beside
    obtain ⟨within,here⟩ := List.getElem?_eq_some_iff.mp found
    have stay := distinct _ within (by rw [here,same,target])
    omega
  | zoomOut =>
    obtain ⟨within,here⟩ := List.getElem?_eq_some_iff.mp beside
    have stay := distinct _ within (by rw [here,same,target])
    omega

theorem prefetch_stamped (member : request ∈ prefetchOf platform snapshot config zoomDirection entity entry) :
    (∃ dt ∈ timepointSteps snapshot config zoomDirection entity,
      Stamped entity .prefetch .detail entry.detailLevels (snapshot.selection.t+dt) request) ∨
    ∃ level, levelInZoomDirection entity zoomDirection = some level ∧ Stamped entity .prefetch .detail [level] snapshot.selection.t request := by
  have timepoint (member : request ∈ (timepointSteps snapshot config zoomDirection entity).flatMap (timepointStep platform snapshot config entity entry)) :
      ∃ dt ∈ timepointSteps snapshot config zoomDirection entity,
        Stamped entity .prefetch .detail entry.detailLevels (snapshot.selection.t+dt) request := by
    obtain ⟨dt,step,member⟩ := List.mem_flatMap.mp member
    exact ⟨dt,step,timepoint_stamped member⟩
  unfold prefetchOf at member
  split at member
  · cases member
  · cases beside : levelInZoomDirection entity zoomDirection with
    | none =>
      rw [beside] at member
      exact .inl (timepoint member)
    | some level =>
      rw [beside] at member
      rcases List.mem_append.mp member with member | member
      · exact .inl (timepoint member)
      · exact .inr ⟨level,rfl,level_stamped member⟩

theorem mem_timepointSteps {dt : Nat} : dt ∈ timepointSteps snapshot config zoomDirection entity ↔
    0 < dt ∧ dt ≤ timepointStepsAllowed config zoomDirection entity ∧ snapshot.selection.t+dt < gridTimepoints entity := by
  rw [timepointSteps_eq,List.mem_range'_1]
  omega

theorem prefetchOf_now (member : request ∈ prefetchOf platform snapshot config zoomDirection entity entry)
    (now : request.t = snapshot.selection.t) : request.level ≠ entity.targetLevel := by
  rcases prefetch_stamped member with ⟨dt,step,stamped⟩ | ⟨level,beside,stamped⟩
  · obtain ⟨ahead',_⟩ := mem_timepointSteps.mp step
    have later := stamped.t
    omega
  · rw [List.mem_singleton.mp stamped.level]
    exact levelInZoomDirection_ne beside

theorem atTimepoint_steps {steps : List Nat} (nodup : steps.Nodup) (t : Nat) :
    (atTimepoint t (steps.flatMap (timepointStep platform snapshot config entity entry))).map spot =
      if ∃ dt ∈ steps, snapshot.selection.t+dt = t then (detailOf platform snapshot config entity entry).map spot else [] := by
  unfold atTimepoint
  induction steps with
  | nil => rfl
  | cons step steps hypothesis =>
    obtain ⟨fresh,nodup⟩ := List.nodup_cons.mp nodup
    rw [List.flatMap_cons,List.filter_append,List.map_append,hypothesis nodup]
    by_cases here : snapshot.selection.t+step = t
    · have all : (timepointStep platform snapshot config entity entry step).filter (·.t = t) = timepointStep platform snapshot config entity entry step :=
        List.filter_eq_self.mpr fun request member => decide_eq_true ((timepoint_stamped member).t.trans here)
      have none : ¬∃ dt ∈ steps, snapshot.selection.t+dt = t := by
        rintro ⟨dt,listed,same⟩
        exact fresh (by rwa [show step = dt by omega])
      rw [all,timepointStep_spots,if_neg none,if_pos ⟨step,List.mem_cons_self,here⟩,List.append_nil]
    · have none : (timepointStep platform snapshot config entity entry step).filter (·.t = t) = [] :=
        List.filter_eq_nil_iff.mpr fun request member same => here ((timepoint_stamped member).t.symm.trans (of_decide_eq_true same))
      rw [none,List.map_nil,List.nil_append]
      simp only [List.mem_cons,exists_eq_or_imp,here,false_or]

theorem prefetchOf_at {t : Nat} (other : t ≠ snapshot.selection.t) :
    (atTimepoint t (prefetchOf platform snapshot config zoomDirection entity entry)).map spot =
      if snapshot.selection.t < t ∧ t ≤ snapshot.selection.t+timepointStepsAllowed config zoomDirection entity ∧ t < gridTimepoints entity then
        (detailOf platform snapshot config entity entry).map spot else [] := by
  have nodup : (timepointSteps snapshot config zoomDirection entity).Nodup := by
    rw [timepointSteps_eq]
    exact List.nodup_range' 1
  have reached : (∃ dt ∈ timepointSteps snapshot config zoomDirection entity, snapshot.selection.t+dt = t) ↔
      snapshot.selection.t < t ∧ t ≤ snapshot.selection.t+timepointStepsAllowed config zoomDirection entity ∧ t < gridTimepoints entity := by
    constructor
    · rintro ⟨dt,step,rfl⟩
      obtain ⟨some',allowed,before⟩ := mem_timepointSteps.mp step
      exact ⟨by omega,by omega,before⟩
    · rintro ⟨later,allowed,before⟩
      exact ⟨t-snapshot.selection.t,mem_timepointSteps.mpr ⟨by omega,by omega,by omega⟩,by omega⟩
  have steps := @atTimepoint_steps platform snapshot config entity entry _ nodup t
  simp only [reached] at steps
  have past {level allowance : Nat} : atTimepoint t (emitLevelPrefetch platform snapshot config entity level allowance) = [] :=
    List.filter_eq_nil_iff.mpr fun request member same => other ((of_decide_eq_true same).symm.trans (level_stamped member).t)
  unfold prefetchOf
  by_cases empty : entity.levels = []
  · have no : gridTimepoints entity = 0 := by
      rw [gridTimepoints,empty]
      rfl
    rw [if_pos empty,no,if_neg (by omega)]
    rfl
  · rw [if_neg empty]
    cases levelInZoomDirection entity zoomDirection with
    | none => exact steps
    | some level =>
      dsimp only
      rw [atTimepoint,List.filter_append,show List.filter _ (emitLevelPrefetch ..) = [] from past,List.append_nil]
      exact steps

def tileOf (entityId : String) : ActiveSetEntry → Option TileEntry
  | .tile entry => if entry.entityId = entityId then some entry else none
  | _ => none

def entriesOf (entityId : String) (activeSet : List ActiveSetEntry) : List TileEntry := activeSet.filterMap (tileOf entityId)

theorem entityById_id {entityId : String} (found : entityById snapshot entityId = some entity) : entity.entityId = entityId := by
  simpa using List.find?_some found

theorem ofEntity_emitTileEntries {entityId : String} {emit : EntitySnapshot → TileEntry → List ChunkRequest}
    (owned : ∀ entity entry, ∀ request ∈ emit entity entry, request.entityId = entity.entityId)
    (found : entityById snapshot entityId = some entity) (activeSet : List ActiveSetEntry) :
    ofEntity entityId (emitTileEntries snapshot activeSet emit) = (entriesOf entityId activeSet).flatMap (emit entity) := by
  unfold ofEntity emitTileEntries entriesOf
  induction activeSet with
  | nil => rfl
  | cons active activeSet hypothesis =>
    rw [List.flatMap_cons,List.filter_append,hypothesis]
    cases active with
    | tile entry =>
      dsimp only
      by_cases here : entry.entityId = entityId
      · have kept : (emit entity entry).filter (·.entityId = entityId) = emit entity entry :=
          List.filter_eq_self.mpr fun request member => decide_eq_true ((owned entity entry request member).trans (entityById_id found))
        rw [here,found,Option.map_some,Option.getD_some,kept,
          List.filterMap_cons_some (show tileOf entityId (.tile entry) = some entry from if_pos here),List.flatMap_cons]
      · rw [List.filterMap_cons_none (show tileOf entityId (.tile entry) = none from if_neg here)]
        have none : (((entityById snapshot entry.entityId).map (emit · entry)).getD []).filter (·.entityId = entityId) = [] := by
          cases other : entityById snapshot entry.entityId with
          | none => rfl
          | some entity' =>
            exact List.filter_eq_nil_iff.mpr fun request member same =>
              here ((entityById_id other).symm.trans ((owned entity' entry request member).symm.trans (of_decide_eq_true same)))
        rw [none,List.nil_append]
    | _ => rfl

variable {activeSet : List ActiveSetEntry} {entityId : String}

theorem ofEntity_detail (found : entityById snapshot entityId = some entity) :
    ofEntity entityId (emitDetailLane platform snapshot config activeSet) =
      (entriesOf entityId activeSet).flatMap (detailOf platform snapshot config entity) :=
  ofEntity_emitTileEntries (fun _ _ _ member => (detail_stamped member).entityId) found activeSet

theorem ofEntity_prefetch (found : entityById snapshot entityId = some entity) :
    ofEntity entityId (emitPrefetchLane platform snapshot config zoomDirection activeSet) =
      (entriesOf entityId activeSet).flatMap (prefetchOf platform snapshot config zoomDirection entity) := by
  refine ofEntity_emitTileEntries (fun entity entry request member => ?_) found activeSet
  rcases prefetch_stamped member with ⟨_,_,stamped⟩ | ⟨_,_,stamped⟩
  · exact stamped.entityId
  · exact stamped.entityId

def seriesTimepoints (entity : EntitySnapshot) : Nat := ((entity.levels[0]?).map (·.shape.t)).getD 0

-- What the lane is for: no more requests than its depth in steps, nothing that the detail lane asks
-- for, and all of the timepoints that the allowed steps reach in the series.
structure PrefetchMeets (platform : Platform) (snapshot : PlanningSnapshot) (config : PlanningConfig) (zoomDirection : Option ZoomDirection)
    (activeSet : List ActiveSetEntry) (entity : EntitySnapshot) : Prop where
  budget : (ofEntity entity.entityId (emitPrefetchLane platform snapshot config zoomDirection activeSet)).length ≤
    config.prefetchDepth*(ofEntity entity.entityId (emitDetailLane platform snapshot config activeSet)).length
  target : ∀ request ∈ ofEntity entity.entityId (emitPrefetchLane platform snapshot config zoomDirection activeSet),
    request.t = snapshot.selection.t → request.level ≠ entity.targetLevel
  reach : ∀ t ≠ snapshot.selection.t,
    (atTimepoint t (ofEntity entity.entityId (emitPrefetchLane platform snapshot config zoomDirection activeSet))).map spot =
      if snapshot.selection.t < t ∧ t ≤ snapshot.selection.t+timepointStepsAllowed config zoomDirection entity ∧ t < seriesTimepoints entity then
        (ofEntity entity.entityId (emitDetailLane platform snapshot config activeSet)).map spot else []

theorem flatMap_length_le {α β γ : Type} {f : α → List β} {g : α → List γ} {n : Nat} (each : ∀ a, (f a).length ≤ n*(g a).length) (as : List α) :
    (as.flatMap f).length ≤ n*(as.flatMap g).length := by
  induction as with
  | nil => exact Nat.zero_le _
  | cons a as hypothesis =>
    rw [List.flatMap_cons,List.flatMap_cons,List.length_append,List.length_append,Nat.mul_add]
    exact Nat.add_le_add (each a) hypothesis

theorem atTimepoint_lane {t : Nat} (other : t ≠ snapshot.selection.t) (entries : List TileEntry) :
    (atTimepoint t (entries.flatMap (prefetchOf platform snapshot config zoomDirection entity))).map spot =
      if snapshot.selection.t < t ∧ t ≤ snapshot.selection.t+timepointStepsAllowed config zoomDirection entity ∧ t < gridTimepoints entity then
        (entries.flatMap (detailOf platform snapshot config entity)).map spot else [] := by
  induction entries with
  | nil => exact (ite_self _).symm
  | cons entry entries hypothesis =>
    have first := @prefetchOf_at platform snapshot config zoomDirection entity entry t other
    unfold atTimepoint at hypothesis first ⊢
    rw [List.flatMap_cons,List.filter_append,List.map_append,first,hypothesis,List.flatMap_cons,List.map_append]
    split <;> rfl

theorem prefetch_lane_meets_iff (found : entityById snapshot entity.entityId = some entity) :
    PrefetchMeets platform snapshot config zoomDirection activeSet entity ↔
      ofEntity entity.entityId (emitDetailLane platform snapshot config activeSet) = [] ∨
        ∀ t, snapshot.selection.t < t → t ≤ snapshot.selection.t+timepointStepsAllowed config zoomDirection entity →
          (t < gridTimepoints entity ↔ t < seriesTimepoints entity) := by
  have lane (t : Nat) (other : t ≠ snapshot.selection.t) :
      (atTimepoint t (ofEntity entity.entityId (emitPrefetchLane platform snapshot config zoomDirection activeSet))).map spot =
        if snapshot.selection.t < t ∧ t ≤ snapshot.selection.t+timepointStepsAllowed config zoomDirection entity ∧ t < gridTimepoints entity then
          (ofEntity entity.entityId (emitDetailLane platform snapshot config activeSet)).map spot else [] := by
    rw [ofEntity_prefetch found,ofEntity_detail found]
    exact atTimepoint_lane other _
  constructor
  · intro meets
    by_cases none : ofEntity entity.entityId (emitDetailLane platform snapshot config activeSet) = []
    · exact .inl none
    · refine .inr fun t later allowed => ?_
      have reached := (lane t (by omega)).symm.trans (meets.reach t (by omega))
      simp only [later,allowed,true_and] at reached
      by_contra differ
      rw [not_iff] at differ
      by_cases counted : t < gridTimepoints entity
      · rw [if_pos counted,if_neg fun inSeries => differ.mpr inSeries counted,List.map_eq_nil_iff] at reached
        exact none reached
      · rw [if_neg counted,if_pos (differ.mp counted)] at reached
        exact none (List.map_eq_nil_iff.mp reached.symm)
  · intro covered
    refine ⟨?_,?_,fun t other => (lane t other).trans ?_⟩
    · rw [ofEntity_prefetch found,ofEntity_detail found]
      exact flatMap_length_le (fun entry => prefetchOf_length) _
    · intro request member now
      rw [ofEntity_prefetch found] at member
      obtain ⟨entry,_,member⟩ := List.mem_flatMap.mp member
      exact prefetchOf_now member now
    · rcases covered with none | covered
      · rw [none,List.map_nil,ite_self,ite_self]
      · refine if_congr (and_congr_right fun later => and_congr_right fun allowed => covered t later allowed) rfl rfl

end

-- A platform that keeps numbers as they are and orders strings by their characters.
def plainPlatform : Platform :=
  ⟨id,fun a b => if a < b then -1 else if b < a then 1 else 0,consistent_order⟩

def seriesLevel (chunkT : Nat) : LevelGeometry Number :=
  ⟨0,⟨4,1,1,1,1⟩,⟨chunkT,1,1,1,1⟩,⟨Store.divCeil 4 chunkT,1,1,1,1⟩,⟨1,1,1,1,1⟩⟩

def seriesEntity (chunkT : Nat) : EntitySnapshot :=
  { entityId := "image"
    imageId := "image"
    kind := .image
    visible := true
    targetLevel := 0
    levelPinned := false
    sourceLevels := [0]
    ascending := by decide
    coarseLevel := none
    importance := 1
    layoutPositionVox := (0,0)
    levels := [seriesLevel chunkT] }

def unitRegion : VisibleRegion := ⟨⟨0,0,1,1⟩,(0,1),1,none,none,none⟩

def seriesSnapshot (chunkT : Nat) : PlanningSnapshot :=
  { datasetId := "dataset"
    epochs := ⟨0,0,0,0,0,0⟩
    entities := [seriesEntity chunkT]
    visibleRegion := unitRegion
    selection := ⟨0,[0]⟩
    minimapPending := .empty }

def seriesEntry : TileEntry := ⟨"image","image",.tilesWithDetail,[0],none,none,false,false⟩

theorem timepoints_are_prefetched : PrefetchMeets plainPlatform (seriesSnapshot 1) {} none [.tile seriesEntry] (seriesEntity 1) := by
  refine (prefetch_lane_meets_iff (by decide)).mpr (.inr fun t _ _ => ?_)
  exact Iff.rfl

-- Of the two timepoints ahead, the second is in the second chunk of the series.
theorem second_timepoint_is_not_prefetched :
    ¬PrefetchMeets plainPlatform (seriesSnapshot 2) {} none [.tile seriesEntry] (seriesEntity 2) := by
  intro meets
  have reached := meets.reach 2 (by decide)
  revert reached
  decide +kernel

end Lucida.Web.Planning
