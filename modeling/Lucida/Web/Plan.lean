import Lucida.Store.ChunkPaths
import Lucida.Web.PlanPrefetch

namespace Lucida.Web.Planning
open Content Lib

structure MemberGroup where
  groupId : String
  groupEntity : Option EntitySnapshot
  tiles : List EntitySnapshot
  deriving DecidableEq, Repr

def groupMember (groups : IndexMap String MemberGroup) (entity : EntitySnapshot) : IndexMap String MemberGroup :=
  if entity.visible then
    match entity.kind with
    | .group => groups.upsert entity.entityId fun found => { found.getD ⟨entity.entityId,none,[]⟩ with groupEntity := some entity }
    | .tile parentId => groups.upsert parentId fun found =>
      let group := found.getD ⟨parentId,none,[]⟩
      { group with tiles := group.tiles ++ [entity] }
    -- A singleton group, which takes the place of one that has its id already.
    | .image =>
      let groupId := "__image__" ++ entity.entityId
      groups.insert groupId ⟨groupId,none,[entity]⟩
  else groups

def groupMembers (entities : List EntitySnapshot) : List MemberGroup := (entities.foldl groupMember .empty).values

section
variable (entity : EntitySnapshot)

def clampLevel (level : Nat) : Nat := if entity.levels = [] then 0 else min (entity.levels.length-1) level

def compatibleCoarseLevel (targetLevel : Nat) : Option Nat := do
  let coarseLevel := clampLevel entity (← entity.coarseLevel)
  if coarseLevel < targetLevel then none else some coarseLevel

def makeTileEntry : TileEntry :=
  { entityId := entity.entityId
    imageId := entity.imageId
    mode := .tilesWithDetail
    detailLevels := [entity.targetLevel]
    coarseLevel := compatibleCoarseLevel entity entity.targetLevel
    proxyKind := none
    proxyAvailable := false
    groupProxyAvailable := false }

def makeInvisibleEntry : ActiveSetEntry := .invisible entity.entityId entity.imageId (entity.levels.length-1)

end

def buildActiveSet (entities : List EntitySnapshot) : List ActiveSetEntry :=
  ((groupMembers entities).flatMap (·.tiles)).map (fun tile => .tile (makeTileEntry tile)) ++
    (entities.filter (!·.visible)).map makeInvisibleEntry

structure PlanningState where
  previousActiveSet : List ActiveSetEntry
  previousEffectiveZoom : Option Number
  zoomDirection : Option ZoomDirection
  deriving DecidableEq, Repr

def initialPlanningState : PlanningState := ⟨[],none,none⟩

structure RequestPlan where
  requests : List ChunkRequest
  activeSet : List ActiveSetEntry
  epochs : SceneEpochs
  proxyRequests : List ProxyRequest
  nextState : PlanningState
  deriving DecidableEq, Repr

def resolveZoomDirection (state : PlanningState) (effectiveZoom : Number) : Option ZoomDirection :=
  match state.previousEffectiveZoom with
  | none => state.zoomDirection
  | some previous =>
    if effectiveZoom = previous then state.zoomDirection else if previous < effectiveZoom then some .zoomIn else some .zoomOut

def compareProxyRequests (platform : Platform) (a b : ProxyRequest) : Number :=
  firstDifference [a.priority-b.priority,platform.localeCompare a.datasetId b.datasetId,platform.localeCompare a.entityId b.entityId,
    platform.localeCompare a.kind.name b.kind.name,(a.t : Number)-b.t,(a.c : Number)-b.c]

section
variable (platform : Platform) (snapshot : PlanningSnapshot) (config : PlanningConfig)

def viewRequests (zoomDirection : Option ZoomDirection) (activeSet : List ActiveSetEntry) : List ChunkRequest :=
  emitDetailLane platform snapshot config activeSet ++ emitPrefetchLane platform snapshot config zoomDirection activeSet ++
    emitCoarseLane platform snapshot config activeSet

def maxEmittedPriority (requests : List ChunkRequest) : Number :=
  requests.foldl (fun greatest req => if greatest < req.priority then req.priority else greatest) 0

def allRequests (zoomDirection : Option ZoomDirection) (activeSet : List ActiveSetEntry) : List ChunkRequest :=
  let view := viewRequests platform snapshot config zoomDirection activeSet
  view ++ emitMinimapLane snapshot config (maxEmittedPriority view+1)

def emitPlanRequests (zoomDirection : Option ZoomDirection) (activeSet : List ActiveSetEntry) : List ChunkRequest × List ProxyRequest :=
  (sortBy (compareChunkRequests platform) (allRequests platform snapshot config zoomDirection activeSet),
    sortBy (compareProxyRequests platform) (emitDetailProxies snapshot config activeSet))

def plan (state : PlanningState) : RequestPlan :=
  let activeSet := buildActiveSet snapshot.entities
  let effectiveZoom := snapshot.visibleRegion.effectiveZoom
  let zoomDirection := resolveZoomDirection state effectiveZoom
  let (requests,proxyRequests) := emitPlanRequests platform snapshot config zoomDirection activeSet
  { requests
    activeSet
    epochs := { snapshot.epochs with request := snapshot.epochs.request+1 }
    proxyRequests
    nextState := ⟨activeSet,some effectiveZoom,zoomDirection⟩ }

end

section
variable {E : Type}

theorem consistent_firstDifference {comparators : List (E → E → Number)} (each : ∀ comparator ∈ comparators, Consistent comparator) :
    Consistent fun a b => firstDifference (comparators.map (· a b)) := by
  induction comparators with
  | nil => exact ⟨fun _ _ => Iff.rfl,fun _ _ _ _ _ => le_refl (0 : Number)⟩
  | cons comparator comparators hypothesis =>
    have rest := hypothesis fun other member => each other (List.mem_cons_of_mem _ member)
    have both := (each comparator List.mem_cons_self).lexicographic rest
    refine (congrArg Consistent (funext fun a => funext fun b => ?_)).mp both
    unfold thenBy firstDifference
    rw [List.map_cons,List.find?_cons]
    by_cases same : comparator a b = 0
    · rw [if_pos same,decide_eq_false (not_not.mpr same)]
    · rw [if_neg same,decide_eq_true same]
      rfl

end

section
variable {platform : Platform} {snapshot : PlanningSnapshot} {config : PlanningConfig} {zoomDirection : Option ZoomDirection}
  {activeSet : List ActiveSetEntry} {state : PlanningState}

theorem consistent_compareChunkRequests (platform : Platform) : Consistent (compareChunkRequests platform) := by
  have locale (text : ChunkRequest → String) : Consistent fun a b => platform.localeCompare (text a) (text b) :=
    ⟨fun a b => platform.consistent.swap (text a) (text b),fun a b c => platform.consistent.trans (text a) (text b) (text c)⟩
  have number (field : ChunkRequest → Nat) : Consistent fun a b => (field a : Number)-field b := consistent_difference fun req => (field req : Number)
  refine @consistent_firstDifference ChunkRequest [fun a b => a.priority-b.priority,fun a b => platform.localeCompare a.imageId b.imageId,
    fun a b => (a.level : Number)-b.level,fun a b => (a.t : Number)-b.t,fun a b => (a.z : Number)-b.z,fun a b => (a.y : Number)-b.y,
    fun a b => (a.x : Number)-b.x,fun a b => (a.c : Number)-b.c,fun a b => platform.localeCompare a.chunkKey b.chunkKey] ?_
  simp only [List.forall_mem_cons,List.not_mem_nil,false_imp_iff,implies_true,and_true]
  exact ⟨consistent_difference fun req : ChunkRequest => req.priority,locale (·.imageId),number (·.level),number (·.t),number (·.z),number (·.y),number (·.x),
    number (·.c),locale (·.chunkKey)⟩

theorem priority_le {a b : ChunkRequest} (before : compareChunkRequests platform a b ≤ 0) : a.priority ≤ b.priority := by
  by_contra above
  have difference : a.priority-b.priority ≠ 0 := by
    intro same
    exact above (sub_eq_zero.mp same).le
  unfold compareChunkRequests firstDifference at before
  rw [List.find?_cons,decide_eq_true difference] at before
  exact above (sub_nonpos.mp before)

theorem plan_sorted : (plan platform snapshot config state).requests.Pairwise fun a b => a.priority ≤ b.priority :=
  ((consistent_compareChunkRequests platform).sorted _).imp priority_le

theorem chunkKey_split (level t c z y x : Nat) :
    (chunkKey level t c z y x).toList.splitOn '/' = [level,t,c,z,y,x].map (Nat.toDigits 10) := by
  have slash : "/".toList = ['/'] := rfl
  simp only [chunkKey,String.toList_append,Nat.toString_eq_repr,Nat.toList_repr,slash,List.append_assoc,List.cons_append,List.nil_append]
  simp only [List.splitOn_append_cons_self_of_not_mem (Store.slash_notMem_toDigits _),
    List.splitOn_eq_singleton (Store.slash_notMem_toDigits _),List.map_cons,List.map_nil]

theorem chunkKey_injective {level t c z y x level' t' c' z' y' x' : Nat} (same : chunkKey level t c z y x = chunkKey level' t' c' z' y' x') :
    level = level' ∧ t = t' ∧ c = c' ∧ z = z' ∧ y = y' ∧ x = x' := by
  have digits := congrArg (fun key => key.toList.splitOn '/') same
  simp only [chunkKey_split,List.map_cons,List.map_nil,List.cons.injEq,and_true] at digits
  obtain ⟨level,t,c,z,y,x⟩ := digits
  exact ⟨Store.toDigits_injective level,Store.toDigits_injective t,Store.toDigits_injective c,Store.toDigits_injective z,
    Store.toDigits_injective y,Store.toDigits_injective x⟩

theorem nodup_flatMap_by {α β γ : Type} {f : α → List β} {as : List α} (field : β → γ) (tag : α → γ) (nodup : (as.map tag).Nodup)
    (each : ∀ a ∈ as, (f a).Nodup) (tagged : ∀ a ∈ as, ∀ b ∈ f a, field b = tag a) : (as.flatMap f).Nodup := by
  refine List.nodup_flatMap.mpr ⟨each,?_⟩
  refine (List.pairwise_map.mp nodup).imp_of_mem fun {a b} listed listed' apart => ?_
  intro shared left right
  exact apart ((tagged a listed shared left).symm.trans (tagged b listed' shared right))

variable {entity : EntitySnapshot} {entry : TileEntry} {region : VisibleRegion} {datasetId : String} {selection : SelectionState}

theorem iterated_nodup (channels : selection.visibleChannels.Nodup) (level : Nat) :
    ((iterateChunksAtLevels entity region datasetId selection [level]).map spot).Nodup := by
  have named (start n : Nat) : ((List.range' start n).map id).Nodup := by
    rw [List.map_id]
    exact List.nodup_range' 1
  unfold iterateChunksAtLevels
  cases entity.levels[0]? with
  | none => exact List.nodup_nil
  | some level0 =>
    dsimp only
    rw [List.flatMap_singleton]
    cases entity.levels[level]? with
    | none => exact List.nodup_nil
    | some levelGeo =>
      dsimp only
      unfold iterateGridCells
      dsimp only
      cases clipGridCellsToRegion entity region levelGeo level0 (chunkWorldDims levelGeo level0) with
      | none => exact List.nodup_nil
      | some clip =>
        simp only [List.map_flatMap]
        refine nodup_flatMap_by Spot.z id (named _ _) (fun iz _ => nodup_flatMap_by Spot.y id (named _ _) (fun row _ =>
          nodup_flatMap_by Spot.x id (named _ _) (fun col _ => ?_) fun col _ place listed => ?_) fun row _ place listed => ?_) fun iz _ place listed => ?_
        · split
          · rw [List.map_map]
            exact channels.map fun c c' same => congrArg Spot.c same
          · exact List.nodup_nil
        all_goals
          simp only [List.mem_flatMap,List.mem_map,List.mem_ite_nil_right] at listed
          grind [spot,makeChunkRequest]

theorem coarse_stamped {request : ChunkRequest} (member : request ∈ coarseOf platform snapshot config entity entry) :
    ∃ level, Stamped entity .coarse .coarse [level] snapshot.selection.t request := by
  unfold coarseOf at member
  cases coarse : entry.coarseLevel with
  | none =>
    rw [coarse] at member
    cases member
  | some level =>
    rw [coarse] at member
    exact ⟨level,stamped_of_mem member⟩

def slot (request : ChunkRequest) : ResidencyTier × Nat × Spot := (request.tier,request.t,spot request)

theorem slot_of_spot {requests : List ChunkRequest} (nodup : (requests.map spot).Nodup) : (requests.map slot).Nodup := by
  refine List.Nodup.of_map (fun slot => slot.2.2) ?_
  rw [List.map_map]
  exact nodup

theorem stamped_nodup {lane : Lane} {tier : ResidencyTier} {laneOffset radiusView : Number} (channels : selection.visibleChannels.Nodup) (level : Nat) :
    (((iterateChunksAtLevels entity region datasetId selection [level]).filterMap
      (stampRequest platform snapshot config entity lane tier laneOffset radiusView)).map spot).Nodup := by
  rw [stamped_spots]
  exact (iterated_nodup channels level).sublist (List.filter_sublist.map spot)

section
variable (channels : snapshot.selection.visibleChannels.Nodup)
include channels

theorem detailOf_nodup (single : entry.detailLevels = [entity.targetLevel]) : ((detailOf platform snapshot config entity entry).map spot).Nodup := by
  unfold detailOf
  simp only [iterateChunks,single]
  exact stamped_nodup channels entity.targetLevel

theorem coarseOf_nodup : ((coarseOf platform snapshot config entity entry).map slot).Nodup := by
  unfold coarseOf
  cases entry.coarseLevel with
  | none => exact List.nodup_nil
  | some level => exact slot_of_spot (stamped_nodup channels level)

theorem timepoints_nodup (single : entry.detailLevels = [entity.targetLevel]) :
    (((timepointSteps snapshot config zoomDirection entity).flatMap (timepointStep platform snapshot config entity entry)).map slot).Nodup := by
  rw [List.map_flatMap]
  refine nodup_flatMap_by (fun slot => slot.2.1) (snapshot.selection.t+·) ?_ (fun dt _ => ?_) fun dt _ place listed => ?_
  · rw [timepointSteps_eq]
    exact (List.nodup_range' 1).map fun dt dt' same => Nat.add_left_cancel same
  · refine slot_of_spot ?_
    rw [timepointStep_spots]
    exact detailOf_nodup channels single
  · obtain ⟨request,member,same⟩ := List.mem_map.mp listed
    subst same
    exact (timepoint_stamped member).t

theorem emitLevelPrefetch_nodup (level allowance : Nat) : ((emitLevelPrefetch platform snapshot config entity level allowance).map slot).Nodup := by
  unfold emitLevelPrefetch
  refine List.Nodup.sublist ((List.take_sublist _ _).map slot) ?_
  refine ((sortBy_perm _ _).map slot).nodup_iff.mpr ?_
  exact slot_of_spot (stamped_nodup channels level)

theorem prefetchOf_nodup (single : entry.detailLevels = [entity.targetLevel]) :
    ((prefetchOf platform snapshot config zoomDirection entity entry).map slot).Nodup := by
  unfold prefetchOf
  split
  · exact List.nodup_nil
  · cases levelInZoomDirection entity zoomDirection with
    | none => exact timepoints_nodup channels single
    | some level =>
      dsimp only
      rw [List.map_append]
      refine List.Nodup.append (timepoints_nodup channels single) (emitLevelPrefetch_nodup channels level _) fun place left right => ?_
      obtain ⟨request,member,rfl⟩ := List.mem_map.mp left
      obtain ⟨request',member',same⟩ := List.mem_map.mp right
      obtain ⟨dt,step,member⟩ := List.mem_flatMap.mp member
      have later := (timepoint_stamped member).t
      have now := (level_stamped member').t
      have sameT : request'.t = request.t := congrArg (fun slot => slot.2.1) same
      obtain ⟨ahead',_⟩ := mem_timepointSteps.mp step
      omega

theorem entry_nodup (single : entry.detailLevels = [entity.targetLevel]) :
    ((detailOf platform snapshot config entity entry ++ prefetchOf platform snapshot config zoomDirection entity entry ++
      coarseOf platform snapshot config entity entry).map slot).Nodup := by
  rw [List.map_append,List.map_append]
  refine List.Nodup.append (List.Nodup.append (slot_of_spot (detailOf_nodup channels single)) (prefetchOf_nodup channels single) ?_)
    (coarseOf_nodup channels) ?_
  · intro place left right
    obtain ⟨request,member,rfl⟩ := List.mem_map.mp left
    obtain ⟨request',member',same⟩ := List.mem_map.mp right
    have now := (detail_stamped member).t
    have level := (detail_stamped member).level
    rw [single,List.mem_singleton] at level
    have sameT : request'.t = request.t := congrArg (fun slot => slot.2.1) same
    have sameLevel : request'.level = request.level := congrArg (fun slot => slot.2.2.level) same
    exact prefetchOf_now member' (sameT.trans now) (sameLevel.trans level)
  · intro place left right
    obtain ⟨request',member',rfl⟩ := List.mem_map.mp right
    obtain ⟨_,coarse⟩ := coarse_stamped member'
    have detail : ∃ request, request.tier = .detail ∧ slot request = slot request' := by
      rcases List.mem_append.mp left with left | left
      · obtain ⟨request,member,same⟩ := List.mem_map.mp left
        exact ⟨request,(detail_stamped member).tier,same⟩
      · obtain ⟨request,member,same⟩ := List.mem_map.mp left
        rcases prefetch_stamped member with ⟨_,_,stamped⟩ | ⟨_,_,stamped⟩
        · exact ⟨request,stamped.tier,same⟩
        · exact ⟨request,stamped.tier,same⟩
    obtain ⟨request,tier,same⟩ := detail
    have sameTier : request.tier = request'.tier := congrArg (fun slot => slot.1) same
    rw [tier,coarse.tier] at sameTier
    cases sameTier

end

def requestKey (request : ChunkRequest) : ResidencyTier × String × String := (request.tier,request.entityId,request.chunkKey)

theorem keys_nodup {requests : List ChunkRequest} (nodup : (requests.map slot).Nodup) (keyed : ∀ request ∈ requests,
    request.chunkKey = chunkKey request.level request.t request.c request.z request.y request.x) : (requests.map requestKey).Nodup := by
  refine List.pairwise_map.mpr ((List.pairwise_map.mp nodup).imp_of_mem fun {a b} listed listed' apart same => apart ?_)
  have sameKey : a.chunkKey = b.chunkKey := congrArg (fun key => key.2.2) same
  rw [keyed a listed,keyed b listed'] at sameKey
  obtain ⟨level,t,c,z,y,x⟩ := chunkKey_injective sameKey
  have tier : a.tier = b.tier := congrArg (fun key => key.1) same
  simp only [slot,spot,tier,level,t,c,z,y,x]

def groupKey (entity : EntitySnapshot) : String :=
  match entity.kind with
  | .group => entity.entityId
  | .tile parentId => parentId
  | .image => "__image__" ++ entity.entityId

def Grouped (done : List EntitySnapshot) (groups : IndexMap String MemberGroup) : Prop :=
  ∀ key group, groups.get? key = some group → group.tiles.Nodup ∧ ∀ tile ∈ group.tiles, groupKey tile = key ∧ tile ∈ done

theorem Grouped.later {done : List EntitySnapshot} {groups : IndexMap String MemberGroup} (grouped : Grouped done groups) (entity : EntitySnapshot) :
    Grouped (done ++ [entity]) groups := fun key group found =>
  ⟨(grouped key group found).1,fun tile listed => ⟨((grouped key group found).2 tile listed).1,List.mem_append_left _ ((grouped key group found).2 tile listed).2⟩⟩

theorem Grouped.getD {done : List EntitySnapshot} {groups : IndexMap String MemberGroup} (grouped : Grouped done groups) (key : String) :
    (((groups.get? key).getD ⟨key,none,[]⟩).tiles).Nodup ∧
      ∀ tile ∈ ((groups.get? key).getD ⟨key,none,[]⟩).tiles, groupKey tile = key ∧ tile ∈ done := by
  cases found : groups.get? key with
  | none => exact ⟨List.nodup_nil,fun tile listed => by cases listed⟩
  | some group => exact grouped key group found

theorem Grouped.member {done : List EntitySnapshot} {groups : IndexMap String MemberGroup} (grouped : Grouped done groups) (fresh : entity ∉ done) :
    Grouped (done ++ [entity]) (groupMember groups entity) := by
  unfold groupMember
  split
  · intro key group found
    cases kind : entity.kind with
    | group =>
      simp only [kind,IndexMap.get?_upsert] at found
      split at found
      · cases found
        obtain ⟨nodup,kept⟩ := grouped.getD entity.entityId
        next same =>
          subst same
          exact ⟨nodup,fun tile listed => ⟨(kept tile listed).1,List.mem_append_left _ (kept tile listed).2⟩⟩
      · exact grouped.later entity key group found
    | tile parentId =>
      simp only [kind,IndexMap.get?_upsert] at found
      split at found
      · cases found
        obtain ⟨nodup,kept⟩ := grouped.getD parentId
        next same =>
          subst same
          refine ⟨List.nodup_append.mpr ⟨nodup,List.nodup_singleton entity,fun tile listed other single => ?_⟩,fun tile listed => ?_⟩
          · rw [List.mem_singleton.mp single]
            exact fun equal => fresh (equal ▸ (kept tile listed).2)
          · rcases List.mem_append.mp listed with listed | single
            · exact ⟨(kept tile listed).1,List.mem_append_left _ (kept tile listed).2⟩
            · cases List.mem_singleton.mp single
              exact ⟨by rw [groupKey,kind],List.mem_append_right _ (List.mem_singleton_self entity)⟩
      · exact grouped.later entity key group found
    | image =>
      simp only [kind,IndexMap.get?_insert] at found
      split at found
      · cases found
        next same =>
          subst same
          refine ⟨List.nodup_singleton entity,fun tile single => ?_⟩
          cases List.mem_singleton.mp single
          exact ⟨by rw [groupKey,kind],List.mem_append_right _ (List.mem_singleton_self entity)⟩
      · exact grouped.later entity key group found
  · exact grouped.later entity

theorem grouped_all {entities : List EntitySnapshot} (nodup : entities.Nodup) : Grouped entities (entities.foldl groupMember .empty) := by
  suffices through : ∀ done rest groups, (done ++ rest).Nodup → Grouped done groups → Grouped (done ++ rest) (rest.foldl groupMember groups) from
    through [] entities .empty nodup fun key group found => by cases found
  intro done rest
  induction rest generalizing done with
  | nil =>
    intro groups _ grouped
    rwa [List.append_nil]
  | cons entity rest hypothesis =>
    intro groups nodup grouped
    rw [List.append_cons] at nodup ⊢
    have fresh : entity ∉ done := fun listed =>
      (List.nodup_append.mp (List.nodup_append.mp nodup).1).2.2 entity listed entity (List.mem_singleton_self entity) rfl
    exact hypothesis (done ++ [entity]) (groupMember groups entity) nodup (grouped.member fresh)

theorem groupMembers_tiles {entities : List EntitySnapshot} (unique : (entities.map (·.entityId)).Nodup) :
    (((groupMembers entities).flatMap (·.tiles)).map (·.entityId)).Nodup ∧ ∀ tile ∈ (groupMembers entities).flatMap (·.tiles), tile ∈ entities := by
  have grouped := grouped_all (unique.of_map _)
  have found {key : String} {group : MemberGroup} (listed : (key,group) ∈ (entities.foldl groupMember .empty).entries) :=
    grouped key group (IndexMap.mem_entries_iff.mp listed)
  have members (tile : EntitySnapshot) (listed : tile ∈ (groupMembers entities).flatMap (·.tiles)) : tile ∈ entities := by
    obtain ⟨group,member,inside⟩ := List.mem_flatMap.mp listed
    obtain ⟨⟨key,_⟩,entry,rfl⟩ := List.mem_map.mp member
    exact ((found entry).2 tile inside).2
  refine ⟨List.Nodup.map_on (fun tile listed tile' listed' same => ?_) ?_,members⟩
  · exact List.inj_on_of_nodup_map unique (members tile listed) (members tile' listed') same
  · unfold groupMembers IndexMap.values
    rw [List.flatMap_map]
    refine nodup_flatMap_by groupKey Prod.fst (entities.foldl groupMember .empty).nodup (fun entry listed => (found listed).1) fun entry listed tile inside => ?_
    exact ((found listed).2 tile inside).1

theorem entityById_listed (unique : (snapshot.entities.map (·.entityId)).Nodup) (listed : entity ∈ snapshot.entities) :
    entityById snapshot entity.entityId = some entity := by
  cases found : entityById snapshot entity.entityId with
  | none =>
    have absent := List.find?_eq_none.mp found entity (List.mem_reverse.mpr listed)
    exact absurd (decide_eq_true rfl) absent
  | some other =>
    have listed' : other ∈ snapshot.entities := List.mem_reverse.mp (List.mem_of_find?_eq_some found)
    rw [List.inj_on_of_nodup_map unique listed' listed (entityById_id found)]

theorem emitTileEntries_built (unique : (snapshot.entities.map (·.entityId)).Nodup) (emit : EntitySnapshot → TileEntry → List ChunkRequest) :
    emitTileEntries snapshot (buildActiveSet snapshot.entities) emit =
      ((groupMembers snapshot.entities).flatMap (·.tiles)).flatMap fun tile => emit tile (makeTileEntry tile) := by
  obtain ⟨_,members⟩ := groupMembers_tiles unique
  unfold emitTileEntries buildActiveSet
  rw [List.flatMap_append,List.flatMap_map,List.flatMap_map]
  have invisible : ((snapshot.entities.filter (!·.visible)).flatMap fun _ => ([] : List ChunkRequest)) = [] :=
    List.flatMap_eq_nil_iff.mpr fun _ _ => rfl
  refine (congrArg₂ _ (List.flatMap_congr fun tile listed => ?_) invisible).trans (List.append_nil _)
  dsimp only
  rw [show (makeTileEntry tile).entityId = tile.entityId from rfl,entityById_listed unique (members tile listed)]
  rfl

theorem viewRequests_perm (unique : (snapshot.entities.map (·.entityId)).Nodup) :
    (viewRequests platform snapshot config zoomDirection (buildActiveSet snapshot.entities)).Perm
      (((groupMembers snapshot.entities).flatMap (·.tiles)).flatMap fun tile => detailOf platform snapshot config tile (makeTileEntry tile) ++
        prefetchOf platform snapshot config zoomDirection tile (makeTileEntry tile) ++ coarseOf platform snapshot config tile (makeTileEntry tile)) := by
  unfold viewRequests emitDetailLane emitPrefetchLane emitCoarseLane
  simp only [emitTileEntries_built unique]
  exact ((List.flatMap_append_perm _ _ _).append_right _).trans (List.flatMap_append_perm _ _ _)

theorem view_stamped {request : ChunkRequest} (member : request ∈ detailOf platform snapshot config entity entry ++
      prefetchOf platform snapshot config zoomDirection entity entry ++ coarseOf platform snapshot config entity entry) :
    ∃ lane tier levels t, lane ≠ .minimap ∧ Stamped entity lane tier levels t request := by
  rcases List.mem_append.mp member with member | member
  · rcases List.mem_append.mp member with member | member
    · exact ⟨_,_,_,_,by decide,detail_stamped member⟩
    · rcases prefetch_stamped member with ⟨_,_,stamped⟩ | ⟨_,_,stamped⟩
      · exact ⟨_,_,_,_,by decide,stamped⟩
      · exact ⟨_,_,_,_,by decide,stamped⟩
  · obtain ⟨_,stamped⟩ := coarse_stamped member
    exact ⟨_,_,_,_,by decide,stamped⟩

theorem plan_view_perm (unique : (snapshot.entities.map (·.entityId)).Nodup) :
    ((plan platform snapshot config state).requests.filter (·.lane ≠ .minimap)).Perm
      (viewRequests platform snapshot config (resolveZoomDirection state snapshot.visibleRegion.effectiveZoom) (buildActiveSet snapshot.entities)) := by
  refine ((sortBy_perm _ _).filter _).trans (.of_eq ?_)
  unfold allRequests
  dsimp only
  rw [List.filter_append]
  refine (congrArg₂ _ (List.filter_eq_self.mpr fun request member => ?_) (List.filter_eq_nil_iff.mpr fun request member => ?_)).trans (List.append_nil _)
  · obtain ⟨tile,_,member⟩ := List.mem_flatMap.mp ((viewRequests_perm unique).subset member)
    obtain ⟨lane,_,_,_,other,stamped⟩ := view_stamped member
    exact decide_eq_true (stamped.lane ▸ other)
  · obtain ⟨entity,_,member⟩ := List.mem_flatMap.mp member
    obtain ⟨coord,_,rfl⟩ := List.mem_map.mp member
    simp

theorem plan_nodup (unique : (snapshot.entities.map (·.entityId)).Nodup) (channels : snapshot.selection.visibleChannels.Nodup) :
    (((plan platform snapshot config state).requests.filter (·.lane ≠ .minimap)).map requestKey).Nodup := by
  obtain ⟨distinct,_⟩ := groupMembers_tiles unique
  refine (((plan_view_perm unique).trans (viewRequests_perm unique)).map requestKey).nodup_iff.mpr ?_
  rw [List.map_flatMap]
  refine nodup_flatMap_by (fun key => key.2.1) (·.entityId) distinct (fun tile _ => ?_) fun tile _ key listed => ?_
  · refine keys_nodup (entry_nodup channels rfl) fun request member => ?_
    obtain ⟨_,_,_,_,_,stamped⟩ := view_stamped member
    exact stamped.chunkKey
  · obtain ⟨request,member,rfl⟩ := List.mem_map.mp listed
    obtain ⟨_,_,_,_,_,stamped⟩ := view_stamped member
    exact stamped.entityId

def Returned (snapshot : PlanningSnapshot) (entity : EntitySnapshot) (entry : TileEntry) (level c col row iz : Nat) : Prop :=
  makeChunkRequest entity snapshot.datasetId level snapshot.selection.t c iz row col ∈
    iterateChunks entity snapshot.visibleRegion snapshot.datasetId snapshot.selection (.tile entry)

structure Covers (snapshot : PlanningSnapshot) (entity : EntitySnapshot) (entry : TileEntry) : Prop where
  shown : ∀ level ∈ entry.detailLevels, ∀ levelGeo, entity.levels[level]? = some levelGeo → ∀ level0, entity.levels[0]? = some level0 →
    ∀ point, Shown entity snapshot.visibleRegion level0 point → ∃ col row iz, InChunk (chunkWorldDims levelGeo level0) col row iz point ∧
      (cellSurvivesFrustum entity snapshot.visibleRegion col row iz (chunkWorldDims levelGeo level0) = true →
        ∀ c ∈ snapshot.selection.visibleChannels, Returned snapshot entity entry level c col row iz)
  culled : ∀ levelGeo level0 col row iz point, InChunk (chunkWorldDims levelGeo level0) col row iz point →
    cellSurvivesFrustum entity snapshot.visibleRegion col row iz (chunkWorldDims levelGeo level0) = false →
      ∃ planes, snapshot.visibleRegion.frustumPlanes = some planes ∧ ∃ plane ∈ planes,
        ¬plane.holds ⟨point.x+entity.layoutPositionVox.1,point.y+entity.layoutPositionVox.2,point.z⟩
  inGrid : ∀ request ∈ iterateChunks entity snapshot.visibleRegion snapshot.datasetId snapshot.selection (.tile entry),
    request.level ∈ entry.detailLevels ∧ ∃ levelGeo, entity.levels[request.level]? = some levelGeo ∧ request.x < levelGeo.gridShape.x ∧
      request.y < levelGeo.gridShape.y ∧ request.z < levelGeo.gridShape.z

theorem covers_of_tiled (tiled : ∀ levelGeo ∈ entity.levels, Tiled levelGeo) : Covers snapshot entity entry := by
  refine ⟨fun level listed levelGeo found level0 found0 point shown => ?_,fun _ _ _ _ _ _ held culled => culled_outside culled held,
    fun request member => request_inGrid member⟩
  obtain ⟨col,row,iz,held,kept⟩ := @shown_chunk entity snapshot.visibleRegion snapshot.datasetId snapshot.selection levelGeo level0 level point
    (tiled levelGeo (List.mem_of_getElem? found)) (tiled level0 (List.mem_of_getElem? found0)) shown
  refine ⟨col,row,iz,held,fun survives c channel => ?_⟩
  exact mem_iterateChunksAtLevels.mpr ⟨level0,found0,level,listed,levelGeo,found,kept survives c channel⟩

theorem plan_covers_view (unique : (snapshot.entities.map (·.entityId)).Nodup)
    (tiled : ∀ entity ∈ snapshot.entities, ∀ levelGeo ∈ entity.levels, Tiled levelGeo) :
    (∀ entity ∈ snapshot.entities, ∀ entry, Covers snapshot entity entry) ∧
    ((plan platform snapshot config state).requests.Pairwise fun a b => a.priority ≤ b.priority) ∧
    (snapshot.selection.visibleChannels.Nodup →
      (((plan platform snapshot config state).requests.filter (·.lane ≠ .minimap)).map requestKey).Nodup) :=
  ⟨fun entity listed _ => covers_of_tiled (tiled entity listed),plan_sorted,plan_nodup unique⟩

end

theorem seriesLevel_tiled : Tiled (seriesLevel 1) := by
  refine ⟨?_,?_,?_⟩ <;> exact ⟨by decide,by decide,by decide⟩

theorem series_is_covered : (∀ entry, Covers (seriesSnapshot 1) (seriesEntity 1) entry) ∧
    (((plan plainPlatform (seriesSnapshot 1) {} initialPlanningState).requests.filter (·.lane ≠ .minimap)).map requestKey).Nodup := by
  have covered := @plan_covers_view plainPlatform (seriesSnapshot 1) {} initialPlanningState (by decide) fun entity listed levelGeo found => by
    cases List.mem_singleton.mp listed
    cases List.mem_singleton.mp found
    exact seriesLevel_tiled
  exact ⟨covered.1 _ (List.mem_singleton_self _),covered.2.2 (by decide)⟩

def coarserEntity : EntitySnapshot := { seriesEntity 1 with targetLevel := 1 }

def coarserSnapshot : PlanningSnapshot := { seriesSnapshot 1 with entities := [coarserEntity] }

def twiceSnapshot : PlanningSnapshot := { seriesSnapshot 1 with selection := ⟨0,[0,0]⟩ }

-- A channel that is listed twice is planned twice, and a level that the pyramid lacks is passed over.
theorem repeated_channel_is_planned_twice :
    ¬(((plan plainPlatform twiceSnapshot {} initialPlanningState).requests.filter (·.lane ≠ .minimap)).map requestKey).Nodup ∧
    .tile (makeTileEntry coarserEntity) ∈ (plan plainPlatform coarserSnapshot {} initialPlanningState).activeSet ∧
    Shown coarserEntity coarserSnapshot.visibleRegion (seriesLevel 1) ⟨0,0,0⟩ ∧
    iterateChunks coarserEntity coarserSnapshot.visibleRegion coarserSnapshot.datasetId coarserSnapshot.selection
      (.tile (makeTileEntry coarserEntity)) = [] := by
  refine ⟨fun nodup => ?_,?_,?_,?_⟩
  · have view := ((plan_view_perm (by decide)).map requestKey).nodup_iff.mp nodup
    revert view
    decide +kernel
  · decide
  · constructor <;> decide +kernel
  · decide +kernel

end Lucida.Web.Planning
