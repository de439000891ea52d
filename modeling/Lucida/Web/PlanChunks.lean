import Lucida.Lib.Cells
import Lucida.Store.ImportLevels
import Lucida.Web.CpuCache

namespace Lucida.Web.Planning
open Content Lib

structure Xyz where
  x : Number
  y : Number
  z : Number
  deriving DecidableEq, Repr

structure XyBounds where
  minX : Number
  minY : Number
  maxX : Number
  maxY : Number
  deriving DecidableEq, Repr

structure Plane where
  a : Number
  b : Number
  c : Number
  d : Number
  deriving DecidableEq, Repr

structure VisibleRegion where
  xyBoundsVox : XyBounds
  zRangeVox : Number × Number
  effectiveZoom : Number
  radiusBasisVox : Option Number
  sortCenterVox : Option Xyz
  frustumPlanes : Option (List Plane)
  deriving DecidableEq, Repr

inductive EntityKind where
  | image
  | group
  | tile (parentId : String)
  deriving DecidableEq, Repr

-- Source levels are listed in ascending order, as the builder sorts them.
structure EntitySnapshot where
  entityId : String
  imageId : String
  kind : EntityKind
  visible : Bool
  targetLevel : Nat
  levelPinned : Bool
  sourceLevels : List Nat
  ascending : sourceLevels.Pairwise (· < ·)
  coarseLevel : Option Nat
  importance : Number
  layoutPositionVox : Number × Number
  levels : List (LevelGeometry Number)
  deriving DecidableEq, Repr

structure SelectionState where
  t : Nat
  visibleChannels : List Nat
  deriving DecidableEq, Repr

inductive EntityMode where
  | tilesWithProxyFallback
  | tilesWithDetail
  deriving DecidableEq, Repr

structure TileEntry where
  entityId : String
  imageId : String
  mode : EntityMode
  detailLevels : List Nat
  coarseLevel : Option Nat
  proxyKind : Option ProxyKind
  proxyAvailable : Bool
  groupProxyAvailable : Bool
  deriving DecidableEq, Repr

inductive ActiveSetEntry where
  | groupAsProxy (entityId : String)
  | tile (entry : TileEntry)
  | invisible (entityId imageId : String) (coarsestLod : Nat)
  deriving DecidableEq, Repr

-- The corner of a box that is farthest along the normal of a plane is behind it.
def chunkOutsideFrustum (cmin cmax : Xyz) (planes : List Plane) : Bool :=
  planes.any fun plane =>
    plane.a*ahead plane.a cmin.x cmax.x+plane.b*ahead plane.b cmin.y cmax.y+plane.c*ahead plane.c cmin.z cmax.z+plane.d < 0

def chunkWorldDims (geo level0 : LevelGeometry Number) : Xyz :=
  ⟨geo.chunkShape.x*(level0.shape.x/geo.shape.x),geo.chunkShape.y*(level0.shape.y/geo.shape.y),
    geo.chunkShape.z*(level0.shape.z/geo.shape.z)⟩

structure ClippedGridRange where
  colStart : Nat
  colEnd : Nat
  rowStart : Nat
  rowEnd : Nat
  zStart : Nat
  zEnd : Nat
  deriving DecidableEq, Repr

section
variable (entity : EntitySnapshot) (region : VisibleRegion)

def clipGridCellsToRegion (levelGeo level0 : LevelGeometry Number) (chunkWorld : Xyz) : Option ClippedGridRange :=
  let localMinX := region.xyBoundsVox.minX-entity.layoutPositionVox.1
  let localMinY := region.xyBoundsVox.minY-entity.layoutPositionVox.2
  let localMaxX := region.xyBoundsVox.maxX-entity.layoutPositionVox.1
  let localMaxY := region.xyBoundsVox.maxY-entity.layoutPositionVox.2
  if localMaxX ≤ 0 ∨ localMaxY ≤ 0 ∨ level0.shape.x ≤ localMinX ∨ level0.shape.y ≤ localMinY then none
  else some
    { colStart := ⌊localMinX/chunkWorld.x⌋₊
      colEnd := min levelGeo.gridShape.x ⌈localMaxX/chunkWorld.x⌉₊
      rowStart := ⌊localMinY/chunkWorld.y⌋₊
      rowEnd := min levelGeo.gridShape.y ⌈localMaxY/chunkWorld.y⌉₊
      zStart := ⌊region.zRangeVox.1/chunkWorld.z⌋₊
      zEnd := min levelGeo.gridShape.z ⌈region.zRangeVox.2/chunkWorld.z⌉₊ }

-- The box of a cell, where the first member of the layout has its origin.
def cellMin (col row iz : Nat) (chunkWorld : Xyz) : Xyz :=
  ⟨col*chunkWorld.x+entity.layoutPositionVox.1,row*chunkWorld.y+entity.layoutPositionVox.2,iz*chunkWorld.z⟩

def cellMax (col row iz : Nat) (chunkWorld : Xyz) : Xyz :=
  ⟨(col+1)*chunkWorld.x+entity.layoutPositionVox.1,(row+1)*chunkWorld.y+entity.layoutPositionVox.2,(iz+1)*chunkWorld.z⟩

def cellSurvivesFrustum (col row iz : Nat) (chunkWorld : Xyz) : Bool :=
  match region.frustumPlanes with
  | none => true
  | some planes => !chunkOutsideFrustum (cellMin entity col row iz chunkWorld) (cellMax entity col row iz chunkWorld) planes

variable (datasetId : String)

-- The caller stamps the priority and the lane.
def makeChunkRequest (level t c z y x : Nat) : ChunkRequest :=
  { datasetId
    entityId := entity.entityId
    imageId := entity.imageId
    level, t, c, z, y, x
    lane := .detail
    tier := .detail
    priority := 0
    chunkKey := chunkKey level t c z y x }

variable (selection : SelectionState)

-- The channel is the innermost loop.
def iterateGridCells (levelGeo level0 : LevelGeometry Number) (level : Nat) : List ChunkRequest :=
  let chunkWorld := chunkWorldDims levelGeo level0
  match clipGridCellsToRegion entity region levelGeo level0 chunkWorld with
  | none => []
  | some clip =>
    (List.range' clip.zStart (clip.zEnd-clip.zStart)).flatMap fun iz =>
      (List.range' clip.rowStart (clip.rowEnd-clip.rowStart)).flatMap fun row =>
        (List.range' clip.colStart (clip.colEnd-clip.colStart)).flatMap fun col =>
          if cellSurvivesFrustum entity region col row iz chunkWorld then
            selection.visibleChannels.map fun c => makeChunkRequest entity datasetId level selection.t c iz row col
          else []

def iterateChunksAtLevels (levels : List Nat) : List ChunkRequest :=
  match entity.levels[0]? with
  | none => []
  | some level0 =>
    levels.flatMap fun level =>
      match entity.levels[level]? with
      | none => []
      | some levelGeo => iterateGridCells entity region datasetId selection levelGeo level0 level

def iterateChunks : ActiveSetEntry → List ChunkRequest
  | .tile entry => iterateChunksAtLevels entity region datasetId selection entry.detailLevels
  | _ => []

end

structure TiledAxis (shape chunk grid : Nat) : Prop where
  some : 0 < shape
  wide : 0 < chunk
  count : grid = Store.divCeil shape chunk

structure Tiled (geo : LevelGeometry Number) : Prop where
  x : TiledAxis geo.shape.x geo.chunkShape.x geo.gridShape.x
  y : TiledAxis geo.shape.y geo.chunkShape.y geo.gridShape.y
  z : TiledAxis geo.shape.z geo.chunkShape.z geo.gridShape.z

structure Shown (entity : EntitySnapshot) (region : VisibleRegion) (level0 : LevelGeometry Number) (point : Xyz) : Prop where
  x : 0 ≤ point.x ∧ point.x < level0.shape.x
  y : 0 ≤ point.y ∧ point.y < level0.shape.y
  z : 0 ≤ point.z ∧ point.z < level0.shape.z
  regionX : region.xyBoundsVox.minX ≤ point.x+entity.layoutPositionVox.1 ∧ point.x+entity.layoutPositionVox.1 < region.xyBoundsVox.maxX
  regionY : region.xyBoundsVox.minY ≤ point.y+entity.layoutPositionVox.2 ∧ point.y+entity.layoutPositionVox.2 < region.xyBoundsVox.maxY
  regionZ : region.zRangeVox.1 ≤ point.z ∧ point.z < region.zRangeVox.2

def InChunk (chunkWorld : Xyz) (col row iz : Nat) (point : Xyz) : Prop :=
  (col*chunkWorld.x ≤ point.x ∧ point.x < (col+1)*chunkWorld.x) ∧ (row*chunkWorld.y ≤ point.y ∧ point.y < (row+1)*chunkWorld.y) ∧
    iz*chunkWorld.z ≤ point.z ∧ point.z < (iz+1)*chunkWorld.z

-- A point where the first member of the layout has its origin.
def Plane.holds (plane : Plane) (point : Xyz) : Prop := 0 ≤ plane.a*point.x+plane.b*point.y+plane.c*point.z+plane.d

section
variable {entity : EntitySnapshot} {region : VisibleRegion} {datasetId : String} {selection : SelectionState}
  {levelGeo level0 : LevelGeometry Number} {level col row iz : Nat} {point : Xyz} {request : ChunkRequest}

theorem TiledAxis.covers {shape chunk grid : Nat} (tiled : TiledAxis shape chunk grid) : (shape : Number) ≤ grid*chunk := by
  have upto : shape ≤ grid*chunk := by
    rw [tiled.count,Store.divCeil]
    have last := Nat.lt_div_mul_add tiled.wide (a := shape+chunk-1)
    omega
  exact_mod_cast upto

theorem TiledAxis.size_pos {shape chunk grid shape0 chunk0 grid0 : Nat} (tiled : TiledAxis shape chunk grid)
    (tiled0 : TiledAxis shape0 chunk0 grid0) : (0 : Number) < chunk*(shape0/shape) :=
  mul_pos (Nat.cast_pos.mpr tiled.wide) (div_pos (Nat.cast_pos.mpr tiled0.some) (Nat.cast_pos.mpr tiled.some))

theorem axis_cell {shape chunk grid shape0 chunk0 grid0 : Nat} {lo hi offset p : Number} (tiled : TiledAxis shape chunk grid)
    (tiled0 : TiledAxis shape0 chunk0 grid0) (inside : 0 ≤ p ∧ p < shape0) (shown : lo ≤ p+offset ∧ p+offset < hi) :
    (⌊(lo-offset)/(chunk*(shape0/shape) : Number)⌋₊ ≤ ⌊p/(chunk*(shape0/shape) : Number)⌋₊ ∧
        ⌊p/(chunk*(shape0/shape) : Number)⌋₊ < min grid ⌈(hi-offset)/(chunk*(shape0/shape) : Number)⌉₊) ∧
      ⌊p/(chunk*(shape0/shape) : Number)⌋₊*(chunk*(shape0/shape) : Number) ≤ p ∧
        p < (⌊p/(chunk*(shape0/shape) : Number)⌋₊+1)*(chunk*(shape0/shape) : Number) := by
  have size := tiled.size_pos tiled0
  have within := covers_full (Nat.cast_pos.mpr tiled0.some) (Nat.cast_pos.mpr tiled.some) tiled.covers inside.2
  exact ⟨cell_in_clip size inside.1 within (sub_le_iff_le_add.mpr shown.1) (lt_sub_iff_add_lt.mpr shown.2),cell_holds size inside.1⟩

theorem mem_iterateGridCells : request ∈ iterateGridCells entity region datasetId selection levelGeo level0 level ↔
    ∃ clip, clipGridCellsToRegion entity region levelGeo level0 (chunkWorldDims levelGeo level0) = some clip ∧
      ∃ iz row col c, (clip.zStart ≤ iz ∧ iz < clip.zEnd) ∧ (clip.rowStart ≤ row ∧ row < clip.rowEnd) ∧
        (clip.colStart ≤ col ∧ col < clip.colEnd) ∧ cellSurvivesFrustum entity region col row iz (chunkWorldDims levelGeo level0) = true ∧
        c ∈ selection.visibleChannels ∧ request = makeChunkRequest entity datasetId level selection.t c iz row col := by
  have between {first stop n : Nat} : n ∈ List.range' first (stop-first) ↔ first ≤ n ∧ n < stop := by
    rw [List.mem_range'_1]
    omega
  unfold iterateGridCells
  cases clipped : clipGridCellsToRegion entity region levelGeo level0 (chunkWorldDims levelGeo level0) with
  | none => simp [clipped]
  | some clip =>
    simp only [clipped,List.mem_flatMap,between,List.mem_ite_nil_right,List.mem_map,Option.some.injEq,exists_eq_left']
    constructor
    · intro ⟨iz,planes,row,rows,col,columns,survives,c,channel,same⟩
      exact ⟨iz,row,col,c,planes,rows,columns,survives,channel,same.symm⟩
    · intro ⟨iz,row,col,c,planes,rows,columns,survives,channel,same⟩
      exact ⟨iz,planes,row,rows,col,columns,survives,c,channel,same.symm⟩

theorem clip_some (shown : Shown entity region level0 point) (chunkWorld : Xyz) :
    clipGridCellsToRegion entity region levelGeo level0 chunkWorld = some
      { colStart := ⌊(region.xyBoundsVox.minX-entity.layoutPositionVox.1)/chunkWorld.x⌋₊
        colEnd := min levelGeo.gridShape.x ⌈(region.xyBoundsVox.maxX-entity.layoutPositionVox.1)/chunkWorld.x⌉₊
        rowStart := ⌊(region.xyBoundsVox.minY-entity.layoutPositionVox.2)/chunkWorld.y⌋₊
        rowEnd := min levelGeo.gridShape.y ⌈(region.xyBoundsVox.maxY-entity.layoutPositionVox.2)/chunkWorld.y⌉₊
        zStart := ⌊region.zRangeVox.1/chunkWorld.z⌋₊
        zEnd := min levelGeo.gridShape.z ⌈region.zRangeVox.2/chunkWorld.z⌉₊ } := by
  obtain ⟨⟨lowX,highX⟩,⟨lowY,highY⟩,_,regionX,regionY,_⟩ := shown
  refine if_neg ?_
  push Not
  exact ⟨by linarith [regionX.2],by linarith [regionY.2],by linarith [regionX.1],by linarith [regionY.1]⟩

theorem shown_chunk (tiled : Tiled levelGeo) (tiled0 : Tiled level0) (shown : Shown entity region level0 point) :
    ∃ col row iz, InChunk (chunkWorldDims levelGeo level0) col row iz point ∧
      (cellSurvivesFrustum entity region col row iz (chunkWorldDims levelGeo level0) = true → ∀ c ∈ selection.visibleChannels,
        makeChunkRequest entity datasetId level selection.t c iz row col ∈
          iterateGridCells entity region datasetId selection levelGeo level0 level) := by
  obtain ⟨keptX,heldX⟩ := axis_cell tiled.x tiled0.x shown.x shown.regionX
  obtain ⟨keptY,heldY⟩ := axis_cell tiled.y tiled0.y shown.y shown.regionY
  obtain ⟨keptZ,heldZ⟩ := @axis_cell _ _ _ _ _ _ region.zRangeVox.1 region.zRangeVox.2 0 _ tiled.z tiled0.z shown.z (by simpa using shown.regionZ)
  rw [sub_zero,sub_zero] at keptZ
  refine ⟨_,_,_,⟨heldX,heldY,heldZ⟩,fun survives c channel => ?_⟩
  exact mem_iterateGridCells.mpr ⟨_,clip_some shown _,_,_,_,c,keptZ,keptY,keptX,survives,channel,rfl⟩

theorem culled_outside (culled : cellSurvivesFrustum entity region col row iz (chunkWorldDims levelGeo level0) = false)
    (held : InChunk (chunkWorldDims levelGeo level0) col row iz point) : ∃ planes, region.frustumPlanes = some planes ∧
      ∃ plane ∈ planes, ¬plane.holds ⟨point.x+entity.layoutPositionVox.1,point.y+entity.layoutPositionVox.2,point.z⟩ := by
  obtain ⟨⟨lowX,highX⟩,⟨lowY,highY⟩,lowZ,highZ⟩ := held
  unfold cellSurvivesFrustum at culled
  cases cut : region.frustumPlanes with
  | none =>
    rw [cut] at culled
    cases culled
  | some planes =>
    rw [cut,Bool.not_eq_false',chunkOutsideFrustum,List.any_eq_true] at culled
    obtain ⟨plane,listed,behind⟩ := culled
    refine ⟨planes,rfl,plane,listed,not_le.mpr (box_behind (of_decide_eq_true behind) ?_ ?_ ?_)⟩
    · exact ⟨add_le_add_left lowX _,add_le_add_left highX.le _⟩
    · exact ⟨add_le_add_left lowY _,add_le_add_left highY.le _⟩
    · exact ⟨lowZ,highZ.le⟩

theorem mem_iterateChunksAtLevels {levels : List Nat} : request ∈ iterateChunksAtLevels entity region datasetId selection levels ↔
    ∃ level0, entity.levels[0]? = some level0 ∧ ∃ level ∈ levels, ∃ levelGeo, entity.levels[level]? = some levelGeo ∧
      request ∈ iterateGridCells entity region datasetId selection levelGeo level0 level := by
  unfold iterateChunksAtLevels
  cases first : entity.levels[0]? with
  | none => simp
  | some level0 =>
    simp only [List.mem_flatMap,Option.some.injEq,exists_eq_left']
    refine exists_congr fun level => and_congr_right fun _ => ?_
    cases entity.levels[level]? with
    | none => simp
    | some levelGeo => simp

theorem request_inGrid {levels : List Nat} (member : request ∈ iterateChunksAtLevels entity region datasetId selection levels) :
    request.level ∈ levels ∧ ∃ levelGeo, entity.levels[request.level]? = some levelGeo ∧ request.x < levelGeo.gridShape.x ∧
      request.y < levelGeo.gridShape.y ∧ request.z < levelGeo.gridShape.z := by
  obtain ⟨level0,_,level,listed,levelGeo,found,inGrid⟩ := mem_iterateChunksAtLevels.mp member
  obtain ⟨clip,clipped,iz,row,col,c,⟨_,planes⟩,⟨_,rows⟩,⟨_,columns⟩,_,_,rfl⟩ := mem_iterateGridCells.mp inGrid
  unfold clipGridCellsToRegion at clipped
  obtain ⟨_,same⟩ := Option.ite_none_left_eq_some.mp clipped
  cases same
  exact ⟨listed,levelGeo,found,(lt_min_iff.mp columns).1,(lt_min_iff.mp rows).1,(lt_min_iff.mp planes).1⟩

end
end Lucida.Web.Planning
