import Lucida.Server.ChunkRead
import Lucida.Web.PlanLanes

namespace Lucida.Renderer
open Server (Zyx)
open Web (Number)
open Web.Planning (Platform VisibleRegion Xyz visibleRegionCenterVox renderRadiusEnabled renderRadiusLimitVox distanceOutsideInterval)

structure ChunkRadiusGeometry where
  fullDims : Zyx
  levelDims : Zyx
  chunkDims : Zyx
  deriving DecidableEq, Repr

section
variable (platform : Platform) (region : VisibleRegion) (radiusView : Number) (layoutPositionVox : Number × Number) (geometry : ChunkRadiusGeometry)

def chunkWorldDimsForRadius : Xyz :=
  ⟨geometry.chunkDims.x*((geometry.fullDims.x : Number)/max 1 geometry.levelDims.x),
    geometry.chunkDims.y*((geometry.fullDims.y : Number)/max 1 geometry.levelDims.y),
    geometry.chunkDims.z*((geometry.fullDims.z : Number)/max 1 geometry.levelDims.z)⟩

def chunkClosestDistance (chunk : Xyz) : Number :=
  let center := visibleRegionCenterVox region
  let world := chunkWorldDimsForRadius geometry
  let minX := layoutPositionVox.1+chunk.x*world.x
  let minY := layoutPositionVox.2+chunk.y*world.y
  let minZ := chunk.z*world.z
  let dx := distanceOutsideInterval center.x minX (min (layoutPositionVox.1+geometry.fullDims.x) (minX+world.x))
  let dy := distanceOutsideInterval center.y minY (min (layoutPositionVox.2+geometry.fullDims.y) (minY+world.y))
  let dz := distanceOutsideInterval center.z minZ (min geometry.fullDims.z (minZ+world.z))
  platform.sqrt (dx*dx+dy*dy+dz*dz)

-- No chunk is given where one of its coordinates is no number.
def chunkWithinRenderRadius (chunk : Option Xyz) : Bool :=
  !renderRadiusEnabled radiusView || chunk.any fun chunk =>
    chunkClosestDistance platform region layoutPositionVox geometry chunk ≤ renderRadiusLimitVox platform region radiusView

end

structure ColdLevel where
  level : Nat
  chunkShape : Zyx
  gridShape : Zyx
  levelDims : Zyx
  deriving DecidableEq, Repr

structure RemapEntryInfo where
  layoutPositionVox : Option (Number × Number)
  levels : List ColdLevel
  deriving DecidableEq, Repr

def chunkPassesRenderRadius (platform : Platform) (region : VisibleRegion) (radiusView : Number) (entry : RemapEntryInfo)
    (chunkLevel : Option Int) (chunk : Option Xyz) : Bool :=
  match entry.levels.find? fun l => some (l.level : Int) = chunkLevel with
  | none => true
  | some level =>
    let level0 := (entry.levels.find? (·.level = 0)).getD level
    chunkWithinRenderRadius platform region radiusView (entry.layoutPositionVox.getD (0,0)) ⟨level0.levelDims,level.levelDims,level.chunkShape⟩ chunk

end Lucida.Renderer
