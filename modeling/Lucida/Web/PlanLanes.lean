import Lucida.Lib.Comparator
import Lucida.Web.PlanChunks

namespace Lucida.Web.Planning
open Content Lib

-- What the planner uses of the browser: a square root, rounded in whatever way, and an order of
-- strings.
structure Platform where
  sqrt : Number → Number
  localeCompare : String → String → Number
  consistent : Consistent localeCompare

inductive ZoomDirection where
  | zoomIn
  | zoomOut
  deriving DecidableEq, Repr

structure MinimapChunkCoord where
  level : Nat
  x : Nat
  y : Nat
  z : Nat
  t : Nat
  c : Nat
  key : String
  deriving DecidableEq, Repr

structure PlanningSnapshot where
  datasetId : String
  epochs : SceneEpochs
  entities : List EntitySnapshot
  visibleRegion : VisibleRegion
  selection : SelectionState
  minimapPending : IndexMap String (List MinimapChunkCoord)
  deriving DecidableEq, Repr

structure PlanningConfig where
  prefetchDepth : Nat := 2
  importanceWeight : Number := 500
  distanceWeight : Number := 10
  depthBiasView : Number := 0
  groupProxyPriorityBump : Number := 100
  detailRenderRadiusView : Number := 2
  coarseRenderRadiusView : Number := 2
  minimapLaneOffset : Number := 0
  minimapSeedFastMaxChunks : Option Nat := some 128
  minimapSeedBulkLaneOffset : Option Number := some 2600
  detailLaneOffset : Number := 500
  proxyLaneOffset : Number := 1000
  prefetchLaneOffset : Number := 1500
  coarseLaneOffset : Number := 2400
  deriving DecidableEq, Repr

-- The first difference decides.
def compareChunkRequests (platform : Platform) (a b : ChunkRequest) : Number :=
  firstDifference [a.priority-b.priority,platform.localeCompare a.imageId b.imageId,(a.level : Number)-b.level,(a.t : Number)-b.t,
    (a.z : Number)-b.z,(a.y : Number)-b.y,(a.x : Number)-b.x,(a.c : Number)-b.c,platform.localeCompare a.chunkKey b.chunkKey]

section
variable (platform : Platform) (region : VisibleRegion)

def renderRadiusEnabled (radiusView : Number) : Bool := 0 ≤ radiusView ∧ radiusView < 2

def midpoint (low high : Number) : Number := (low+high)/2

def visibleRegionCenterVox : Xyz :=
  region.sortCenterVox.getD ⟨midpoint region.xyBoundsVox.minX region.xyBoundsVox.maxX,
    midpoint region.xyBoundsVox.minY region.xyBoundsVox.maxY,midpoint region.zRangeVox.1 region.zRangeVox.2⟩

def renderRadiusLimitVox (radiusView : Number) : Number :=
  match region.radiusBasisVox.filter (0 < ·) with
  | some radiusBasis => max 1 radiusBasis*radiusView
  | none =>
    let halfX := max 0 ((region.xyBoundsVox.maxX-region.xyBoundsVox.minX)/2)
    let halfY := max 0 ((region.xyBoundsVox.maxY-region.xyBoundsVox.minY)/2)
    let halfZ := max 0 ((region.zRangeVox.2-region.zRangeVox.1)/2)
    max 1 (platform.sqrt (halfX*halfX+halfY*halfY+halfZ*halfZ))*radiusView

def distanceOutsideInterval (value low high : Number) : Number :=
  if value < low then low-value else if high < value then value-high else 0

variable (entity : EntitySnapshot) (req : ChunkRequest)

def chunkClosestDistanceToVisibleCenterVox (level level0 : LevelGeometry Number) : Number :=
  let center := visibleRegionCenterVox region
  let chunkWorldX := level.chunkShape.x*((level0.shape.x : Number)/max 1 level.shape.x)
  let chunkWorldY := level.chunkShape.y*((level0.shape.y : Number)/max 1 level.shape.y)
  let chunkWorldZ := level.chunkShape.z*((level0.shape.z : Number)/max 1 level.shape.z)
  let minX := entity.layoutPositionVox.1+req.x*chunkWorldX
  let minY := entity.layoutPositionVox.2+req.y*chunkWorldY
  let minZ := req.z*chunkWorldZ
  let dx := distanceOutsideInterval center.x minX (min (entity.layoutPositionVox.1+level0.shape.x) (minX+chunkWorldX))
  let dy := distanceOutsideInterval center.y minY (min (entity.layoutPositionVox.2+level0.shape.y) (minY+chunkWorldY))
  let dz := distanceOutsideInterval center.z minZ (min level0.shape.z (minZ+chunkWorldZ))
  platform.sqrt (dx*dx+dy*dy+dz*dz)

def requestWithinRenderRadius (radiusView : Number) : Bool :=
  match entity.levels[0]?,entity.levels[req.level]? with
  | some level0,some level =>
    !renderRadiusEnabled radiusView ||
      chunkClosestDistanceToVisibleCenterVox platform region entity req level level0 ≤ renderRadiusLimitVox platform region radiusView
  | _,_ => true

-- No bias leaves the center as it is, also where that is out of the visible range.
def applyDepthBias (centerZ depthBiasView : Number) : Number :=
  if depthBiasView = 0 then centerZ
  else
    let bias := min 1 (max (-1) depthBiasView)
    let halfDepth := (region.zRangeVox.2-region.zRangeVox.1)/2
    min region.zRangeVox.2 (max region.zRangeVox.1 (centerZ+bias*halfDepth))

def chunkDistanceFromCenter (depthBiasView : Number) : Number :=
  let center := visibleRegionCenterVox region
  let centerX := center.x-entity.layoutPositionVox.1
  let centerY := center.y-entity.layoutPositionVox.2
  let centerZ := applyDepthBias region center.z depthBiasView
  let chunkWorld : Xyz :=
    match entity.levels[req.level]?,entity.levels[0]? with
    | some geo,some level0 => chunkWorldDims geo level0
    | _,_ => ⟨1,1,1⟩
  let dx := (req.x+1/2)*chunkWorld.x-centerX
  let dy := (req.y+1/2)*chunkWorld.y-centerY
  let dz := (req.z+1/2)*chunkWorld.z-centerZ
  platform.sqrt (dx*dx+dy*dy+dz*dz)

end

section
variable (platform : Platform) (snapshot : PlanningSnapshot) (config : PlanningConfig)

def computePriority (laneOffset importance distanceFromCenter : Number) : Number :=
  laneOffset+(1-importance)*config.importanceWeight+distanceFromCenter*config.distanceWeight

def stampRequest (entity : EntitySnapshot) (lane : Lane) (tier : ResidencyTier) (laneOffset radiusView : Number) (req : ChunkRequest) :
    Option ChunkRequest :=
  if requestWithinRenderRadius platform snapshot.visibleRegion entity req radiusView then
    some { req with
      lane
      tier
      priority := computePriority config laneOffset entity.importance
        (chunkDistanceFromCenter platform snapshot.visibleRegion entity req config.depthBiasView) }
  else none

-- The last entity of an id.
def entityById (entityId : String) : Option EntitySnapshot := snapshot.entities.reverse.find? (·.entityId = entityId)

def emitTileEntries (activeSet : List ActiveSetEntry) (emit : EntitySnapshot → TileEntry → List ChunkRequest) : List ChunkRequest :=
  activeSet.flatMap fun active =>
    match active with
    | .tile entry => ((entityById snapshot entry.entityId).map (emit · entry)).getD []
    | _ => []

def detailOf (entity : EntitySnapshot) (entry : TileEntry) : List ChunkRequest :=
  (iterateChunks entity snapshot.visibleRegion snapshot.datasetId snapshot.selection (.tile entry)).filterMap
    (stampRequest platform snapshot config entity .detail .detail config.detailLaneOffset config.detailRenderRadiusView)

-- The chunks of the detail lane; its proxies are listed apart.
def emitDetailLane (activeSet : List ActiveSetEntry) : List ChunkRequest := emitTileEntries snapshot activeSet (detailOf platform snapshot config)

def proxyRequest (entityId imageId : String) (kind : ProxyKind) (priority : Number) (c : Nat) : ProxyRequest :=
  { datasetId := snapshot.datasetId, entityId, imageId, kind, t := snapshot.selection.t, c, priority }

-- One group proxy for each group and channel, however many of its tiles fall back to it.
def emitGroupProxies (groupId : String) (emitted : List (String × Nat) × List ProxyRequest) : List (String × Nat) × List ProxyRequest :=
  snapshot.selection.visibleChannels.foldl (fun emitted c =>
    if (groupId,c) ∈ emitted.1 then emitted
    else (emitted.1 ++ [(groupId,c)],
      emitted.2 ++ [proxyRequest snapshot groupId "" .groupProxy3D (config.proxyLaneOffset+config.groupProxyPriorityBump) c])) emitted

def emitProxies (emitted : List (String × Nat) × List ProxyRequest) (active : ActiveSetEntry) : List (String × Nat) × List ProxyRequest :=
  match active with
  | .groupAsProxy entityId =>
    (emitted.1,emitted.2 ++ snapshot.selection.visibleChannels.map (proxyRequest snapshot entityId "" .groupProxy3D config.proxyLaneOffset))
  | .invisible .. => emitted
  | .tile entry =>
    match entityById snapshot entry.entityId with
    | none => emitted
    | some entity =>
      let emitted :=
        if entry.proxyAvailable ∧ entry.proxyKind = some .tileProxy3D then
          (emitted.1,emitted.2 ++ snapshot.selection.visibleChannels.map
            (proxyRequest snapshot entry.entityId entry.imageId .tileProxy3D (config.proxyLaneOffset+1)))
        else emitted
      match entity.kind with
      | .tile parentId =>
        if entry.mode = .tilesWithProxyFallback ∧ entry.groupProxyAvailable then emitGroupProxies snapshot config parentId emitted else emitted
      | _ => emitted

def emitDetailProxies (activeSet : List ActiveSetEntry) : List ProxyRequest := (activeSet.foldl (emitProxies snapshot config) ([],[])).2

def levelInZoomDirection (entity : EntitySnapshot) (zoomDirection : Option ZoomDirection) : Option Nat := do
  let direction ← zoomDirection
  if entity.levelPinned then none
  else
    let at' ← entity.sourceLevels.idxOf? entity.targetLevel
    match direction with
    | .zoomIn => if at' = 0 then none else entity.sourceLevels[at'-1]?
    | .zoomOut => entity.sourceLevels[at'+1]?

variable (zoomDirection : Option ZoomDirection)

def timepointStepsAllowed (entity : EntitySnapshot) : Nat :=
  match levelInZoomDirection entity zoomDirection with
  | none => config.prefetchDepth
  | some _ => config.prefetchDepth-1

-- The steps that the timepoint loop makes, up to where it breaks.
def timepointSteps (entity : EntitySnapshot) : List Nat :=
  let maxT := ((entity.levels[0]?).map (·.gridShape.t)).getD 0
  (List.range' 1 (timepointStepsAllowed config zoomDirection entity)).takeWhile fun dt => snapshot.selection.t+dt < maxT

def timepointStep (entity : EntitySnapshot) (entry : TileEntry) (dt : Nat) : List ChunkRequest :=
  let prefetchSelection := { snapshot.selection with t := snapshot.selection.t+dt }
  (iterateChunks entity snapshot.visibleRegion snapshot.datasetId prefetchSelection (.tile entry)).filterMap
    (stampRequest platform snapshot config entity .prefetch .detail (config.prefetchLaneOffset+dt*100) config.detailRenderRadiusView)

def countTargetLevelRequests (entity : EntitySnapshot) (entry : TileEntry) : Nat :=
  ((iterateChunks entity snapshot.visibleRegion "" snapshot.selection (.tile entry)).filter fun req =>
    requestWithinRenderRadius platform snapshot.visibleRegion entity req config.detailRenderRadiusView).length

def emitLevelPrefetch (entity : EntitySnapshot) (level allowance : Nat) : List ChunkRequest :=
  let candidates := (iterateChunksAtLevels entity snapshot.visibleRegion snapshot.datasetId snapshot.selection [level]).filterMap
    (stampRequest platform snapshot config entity .prefetch .detail (config.prefetchLaneOffset+config.prefetchDepth*100)
      config.detailRenderRadiusView)
  (sortBy (compareChunkRequests platform) candidates).take allowance

-- The level step takes the steps that the timepoints leave.
def prefetchOf (entity : EntitySnapshot) (entry : TileEntry) : List ChunkRequest :=
  if entity.levels = [] then []
  else
    let steps := timepointSteps snapshot config zoomDirection entity
    let timepoints := steps.flatMap (timepointStep platform snapshot config entity entry)
    match levelInZoomDirection entity zoomDirection with
    | none => timepoints
    | some level =>
      let stepsLeft := config.prefetchDepth-steps.length
      timepoints ++ emitLevelPrefetch platform snapshot config entity level (stepsLeft*countTargetLevelRequests platform snapshot config entity entry)

def emitPrefetchLane (activeSet : List ActiveSetEntry) : List ChunkRequest :=
  emitTileEntries snapshot activeSet (prefetchOf platform snapshot config zoomDirection)

def coarseOf (entity : EntitySnapshot) (entry : TileEntry) : List ChunkRequest :=
  match entry.coarseLevel with
  | none => []
  | some coarseLevel =>
    (iterateChunksAtLevels entity snapshot.visibleRegion snapshot.datasetId snapshot.selection [coarseLevel]).filterMap
      (stampRequest platform snapshot config entity .coarse .coarse config.coarseLaneOffset config.coarseRenderRadiusView)

def emitCoarseLane (activeSet : List ActiveSetEntry) : List ChunkRequest := emitTileEntries snapshot activeSet (coarseOf platform snapshot config)

def minimapPriority (bulkPriorityFloor : Number) : Number :=
  let pendingTotal := (snapshot.minimapPending.values.map List.length).sum
  if config.minimapSeedFastMaxChunks.getD 128 < pendingTotal then max (config.minimapSeedBulkLaneOffset.getD 2600) bulkPriorityFloor
  else config.minimapLaneOffset

def emitMinimapLane (bulkPriorityFloor : Number) : List ChunkRequest :=
  snapshot.entities.flatMap fun entity =>
    ((snapshot.minimapPending.get? entity.imageId).getD []).map fun coord =>
      { datasetId := snapshot.datasetId
        entityId := entity.entityId
        imageId := entity.imageId
        level := coord.level
        t := coord.t
        c := coord.c
        z := coord.z
        y := coord.y
        x := coord.x
        lane := .minimap
        tier := .coarse
        priority := minimapPriority snapshot config bulkPriorityFloor
        chunkKey := coord.key }

end

end Lucida.Web.Planning
