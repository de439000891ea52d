import Lucida.Lib.Pool
import Lucida.Store.ImportLevels
import Lucida.Server.VolumeRegion
import Lucida.Generated.Scheduler

namespace Lucida.Generated.MaxPool
open Content Lib
open Server (Zyx VolumeRegion ChunkRead ChunkReadError spatialDims atLeastOne chunkDims levelVolume Readable)

abbrev Bytes := List UInt8

def roundRatio (n m : Nat) : Nat := (2*n+m)/(2*m)

section
variable (sourceLevel0Shape selectedInputShape : Axes Nat) (targetLongAxis : Nat)

def generatedOutputShape : Axes Nat :=
  let source := atLeastOne (spatialDims sourceLevel0Shape)
  let longAxis := max source.y source.x
  let targetLong := max (min longAxis targetLongAxis) 1
  let scaled := Zyx.zip (fun size _ => max (roundRatio (size*targetLong) longAxis) 1) source source
  let out := Zyx.zip min (Zyx.zip min scaled source) (atLeastOne (spatialDims selectedInputShape))
  ⟨sourceLevel0Shape.t,sourceLevel0Shape.c,out.z,out.y,out.x⟩

end

def scaleRange (outIndex outLen inLen : Nat) : Nat × Nat :=
  let start := outIndex*inLen/outLen
  let stop := min (max (Store.divCeil ((outIndex+1)*inLen) outLen) (start+1)) inLen
  (min start (inLen-1),stop)

structure SpatialBounds where
  lo : Zyx
  hi : Zyx
  deriving DecidableEq, Repr

inductive GeneratedChunkBuildError where
  | source (error : Server.BuildSourceError)
  | downsample (message : String)
  deriving DecidableEq, Repr

def sourceStop : Stop Server.BuildSourceError → Stop GeneratedChunkBuildError
  | .panic => .panic
  | .error error => .error (.source error)

def downsampleStop : Stop String → Stop GeneratedChunkBuildError
  | .panic => .panic
  | .error message => .error (.downsample message)

def checkedSub (n m : Nat) (message : String) : Except (Stop String) Nat := if m ≤ n then .ok (n-m) else .error (.error message)

section
variable {R : Type} (sourceDims outputDims : Zyx) (level : LevelGeometry R) (coords : GeneratedChunkCoords)

def cell : Zyx := ⟨coords.z,coords.y,coords.x⟩

def outputChunkBounds : Except (Stop String) SpatialBounds :=
  let start := Zyx.zip (· * ·) (cell coords) (chunkDims level)
  if start.All (· < ·) outputDims then .ok ⟨start,Zyx.zip min (Zyx.zip (· + ·) start (chunkDims level)) outputDims⟩
  else .error (.error "generated chunk key is outside the generated level")

def sourceRegionForOutputChunk : Except (Stop String) VolumeRegion := do
  let bounds ← outputChunkBounds outputDims level coords
  let last ← Zyx.zipM Checked.sub bounds.hi ⟨1,1,1⟩
  return ⟨⟨(scaleRange bounds.lo.z outputDims.z sourceDims.z).1,(scaleRange bounds.lo.y outputDims.y sourceDims.y).1,
      (scaleRange bounds.lo.x outputDims.x sourceDims.x).1⟩,
    ⟨(scaleRange last.z outputDims.z sourceDims.z).2,(scaleRange last.y outputDims.y sourceDims.y).2,
      (scaleRange last.x outputDims.x sourceDims.x).2⟩⟩

variable (source : List Nat) (sourceRegion : VolumeRegion) (regionDims : Zyx)

def poolVoxel (voxel : Zyx) : Except (Stop String) Nat :=
  let z := scaleRange voxel.z outputDims.z sourceDims.z
  let y := scaleRange voxel.y outputDims.y sourceDims.y
  let x := scaleRange voxel.x outputDims.x sourceDims.x
  let sourceStrideY := regionDims.x
  let sourceStrideZ := regionDims.y*sourceStrideY
  (List.range' z.1 (z.2-z.1)).foldlM (fun value iz => do
    let localZ ← checkedSub iz sourceRegion.lo.z "generated coarse source z underflow"
    (List.range' y.1 (y.2-y.1)).foldlM (fun value iy => do
      let localY ← checkedSub iy sourceRegion.lo.y "generated coarse source y underflow"
      let base := localZ*sourceStrideZ+localY*sourceStrideY
      (List.range' x.1 (x.2-x.1)).foldlM (fun value ix => do
        let localX ← checkedSub ix sourceRegion.lo.x "generated coarse source x underflow"
        match source[base+localX]? with
        | some sample => .ok (max value sample)
        | none => .error .panic) value) value) 0

def putVoxel (bounds : SpatialBounds) (chunk : List Nat) (voxel : Zyx) : Except (Stop String) (List Nat) := do
  let value ← poolVoxel sourceDims outputDims source sourceRegion regionDims voxel
  let place ← Zyx.zipM Checked.sub voxel bounds.lo
  let chunkStrideY := (chunkDims level).x
  let chunkStrideZ := (chunkDims level).y*chunkStrideY
  let dst := place.z*chunkStrideZ+place.y*chunkStrideY+place.x
  if dst < chunk.length then .ok (chunk.set dst value) else .error .panic

def voxelsOf (bounds : SpatialBounds) : List Zyx :=
  (List.range' bounds.lo.z (bounds.hi.z-bounds.lo.z) ×ˢ List.range' bounds.lo.y (bounds.hi.y-bounds.lo.y) ×ˢ
    List.range' bounds.lo.x (bounds.hi.x-bounds.lo.x)).map fun voxel => ⟨voxel.1,voxel.2.1,voxel.2.2⟩

def downsampleRegionToGeneratedChunk : Except (Stop String) (List Nat) := do
  let expected := regionDims.z*regionDims.y*regionDims.x
  if source.length ≠ expected then
    throw (.error s!"source generated coarse region has {source.length} voxels, expected {expected}")
  let bounds ← outputChunkBounds outputDims level coords
  let chunk := List.replicate ((chunkDims level).z*(chunkDims level).y*(chunkDims level).x) 0
  (voxelsOf bounds).foldlM (putVoxel sourceDims outputDims level source sourceRegion regionDims bounds) chunk

end

section
variable {R : Type} (width : Nat) (toU16 : Bytes → Nat) (encode : Nat → Bytes)

-- `toU16` reads a sample of the image's data type, `encode` writes one of the plan's.
def generateChunkFromSourceLevel (levels : List (LevelGeometry R)) (level : LevelGeometry R) (coords : GeneratedChunkCoords)
    (sourceLevelIndex : Nat) (read : String → Except (Stop ChunkReadError) ChunkRead) :
    Except (Stop GeneratedChunkBuildError) Bytes := do
  match levels[sourceLevelIndex]? with
  | none => throw (.error (.source (.badLevel sourceLevelIndex)))
  | some source =>
    let sourceDims := spatialDims source.shape
    let outputDims := spatialDims level.shape
    let sourceRegion ← (sourceRegionForOutputChunk sourceDims outputDims level coords).mapError downsampleStop
    let (sourceData,regionDims) ←
      (Server.fetchVolumeRegion width toU16 source sourceLevelIndex coords.t coords.c read sourceRegion).mapError sourceStop
    let chunk ← (downsampleRegionToGeneratedChunk sourceDims outputDims level coords sourceData sourceRegion regionDims).mapError downsampleStop
    return chunk.flatMap encode

end

def InRange (range : Nat × Nat) (s : Nat) : Prop := range.1 ≤ s ∧ s < range.2

def InFootprint (sourceDims outputDims voxel sample : Zyx) : Prop :=
  InRange (scaleRange voxel.z outputDims.z sourceDims.z) sample.z ∧ InRange (scaleRange voxel.y outputDims.y sourceDims.y) sample.y ∧
    InRange (scaleRange voxel.x outputDims.x sourceDims.x) sample.x

-- The source samples that a voxel of the whole pooled source shows the greatest of.
def maxPool (sourceDims outputDims : Zyx) (volume : Zyx → Nat) (voxel : Zyx) : Nat :=
  (footprint sourceDims.z outputDims.z voxel.z ×ˢ footprint sourceDims.y outputDims.y voxel.y ×ˢ
    footprint sourceDims.x outputDims.x voxel.x).sup fun sample => volume ⟨sample.1,sample.2.1,sample.2.2⟩

def cutChunk (chunk dims corner : Zyx) (volume : Zyx → Nat) : List Nat :=
  (List.range chunk.volume).map fun n =>
    let voxel := Zyx.zip (· + ·) corner ⟨n/chunk.x/chunk.y,n/chunk.x%chunk.y,n%chunk.x⟩
    if voxel.All (· < ·) dims then volume voxel else 0

theorem scaleRange_eq {outIndex outLen inLen : Nat} (some' : 0 < inLen) (shown : outIndex < outLen) :
    scaleRange outIndex outLen inLen = (outIndex*inLen/outLen,((outIndex+1)*inLen+outLen-1)/outLen) := by
  obtain ⟨first,wide,last⟩ := footprint_bounds some' shown
  unfold scaleRange Store.divCeil
  refine Prod.ext ?_ ?_
  · exact Nat.min_eq_left (Nat.le_pred_of_lt first)
  · exact (congrArg (min · inLen) (Nat.max_eq_left wide)).trans (Nat.min_eq_left last)

theorem mem_scaleRange {outIndex outLen inLen s : Nat} (some' : 0 < inLen) (shown : outIndex < outLen) :
    s ∈ footprint inLen outLen outIndex ↔ InRange (scaleRange outIndex outLen inLen) s := by
  rw [footprint_eq_Ico some' shown,scaleRange_eq some' shown,Finset.mem_Ico]
  rfl

theorem scaleRange_loop {outIndex outLen inLen : Nat} {f : Nat → Nat → Except (Stop String) Nat} {g : Nat → Nat} (some' : 0 < inLen)
    (shown : outIndex < outLen) (turns : ∀ s ∈ footprint inLen outLen outIndex, ∀ value, f value s = .ok (max value (g s))) (value : Nat) :
    (List.range' (scaleRange outIndex outLen inLen).1 ((scaleRange outIndex outLen inLen).2-(scaleRange outIndex outLen inLen).1)).foldlM f value =
      .ok (max value ((footprint inLen outLen outIndex).sup g)) := by
  obtain ⟨_,wide,_⟩ := footprint_bounds some' shown
  rw [footprint_eq_Ico some' shown] at turns ⊢
  rw [scaleRange_eq some' shown]
  have upto := Nat.add_sub_of_le (Nat.le_of_lt wide)
  have ran := foldlM_max (n := ((outIndex+1)*inLen+outLen-1)/outLen-outIndex*inLen/outLen)
    (fun s low high value => turns s (Finset.mem_Ico.mpr ⟨low,upto ▸ high⟩) value) value
  rwa [upto] at ran

section
variable {R : Type} {sourceDims outputDims voxel : Zyx} {level : LevelGeometry R} {coords : GeneratedChunkCoords} {source : List Nat}
  {region : VolumeRegion} {volume : Zyx → Nat} {bounds : SpatialBounds}

def Covers (outLen inLen outIndex lo hi : Nat) : Prop := ∀ s ∈ footprint inLen outLen outIndex, lo ≤ s ∧ s < hi

structure Shows (sourceDims outputDims : Zyx) (source : List Nat) (region : VolumeRegion) (volume : Zyx → Nat) (voxel : Zyx) : Prop where
  inside : voxel.All (· < ·) outputDims
  planes : Covers outputDims.z sourceDims.z voxel.z region.lo.z region.hi.z
  rows : Covers outputDims.y sourceDims.y voxel.y region.lo.y region.hi.y
  columns : Covers outputDims.x sourceDims.x voxel.x region.lo.x region.hi.x
  read : ∀ p : Zyx, p.All (· < ·) region.dims → source[region.dims.index p]? = some (volume (Zyx.zip (· + ·) region.lo p))

theorem checkedSub_ok {n m : Nat} (fits : m ≤ n) (message : String) : checkedSub n m message = .ok (n-m) := if_pos fits

theorem poolVoxel_ok (some' : (⟨0,0,0⟩ : Zyx).All (· < ·) sourceDims) (shows : Shows sourceDims outputDims source region volume voxel) :
    poolVoxel sourceDims outputDims source region region.dims voxel = .ok (maxPool sourceDims outputDims volume voxel) := by
  obtain ⟨⟨shownZ,shownY,shownX⟩,planes,rows,columns,read⟩ := shows
  obtain ⟨someZ,someY,someX⟩ := some'
  rw [maxPool,Finset.sup_product_left]
  simp only [Finset.sup_product_left]
  refine (scaleRange_loop someZ shownZ (fun iz underZ value => ?_) 0).trans (congrArg Except.ok (Nat.zero_max _))
  obtain ⟨afterZ,beforeZ⟩ := planes iz underZ
  rw [checkedSub_ok afterZ]
  refine scaleRange_loop someY shownY (fun iy underY value => ?_) value
  obtain ⟨afterY,beforeY⟩ := rows iy underY
  rw [checkedSub_ok afterY]
  refine scaleRange_loop someX shownX (fun ix underX value => ?_) value
  obtain ⟨afterX,beforeX⟩ := columns ix underX
  rw [checkedSub_ok afterX]
  have sampled := read ⟨iz-region.lo.z,iy-region.lo.y,ix-region.lo.x⟩
    ⟨Nat.sub_lt_sub_right afterZ beforeZ,Nat.sub_lt_sub_right afterY beforeY,Nat.sub_lt_sub_right afterX beforeX⟩
  simp only [Zyx.zip,Nat.add_sub_of_le afterZ,Nat.add_sub_of_le afterY,Nat.add_sub_of_le afterX] at sampled
  simp only [ok_then,Server.rowMajor_strides]
  rw [show source[rowMajor region.dims.y region.dims.x (iz-region.lo.z) (iy-region.lo.y) (ix-region.lo.x)]? = _ from sampled]

def Pooled (sourceDims outputDims : Zyx) (volume : Zyx → Nat) (chunk corner : Zyx) (done : List Zyx) (out : List Nat) : Prop :=
  out.length = chunk.volume ∧ ∀ p : Zyx, p.All (· < ·) chunk → out[chunk.index p]? =
    some (if Zyx.zip (· + ·) corner p ∈ done then maxPool sourceDims outputDims volume (Zyx.zip (· + ·) corner p) else 0)

theorem mem_voxelsOf : voxel ∈ voxelsOf bounds ↔ bounds.lo.All (· ≤ ·) voxel ∧ voxel.All (· < ·) bounds.hi := by
  unfold voxelsOf
  simp only [List.mem_map,List.mem_product,Server.mem_run,Prod.exists]
  constructor
  · intro ⟨z,y,x,⟨planes,rows,columns⟩,same⟩
    subst same
    exact ⟨⟨planes.1,rows.1,columns.1⟩,planes.2,rows.2,columns.2⟩
  · intro ⟨⟨lowZ,lowY,lowX⟩,highZ,highY,highX⟩
    exact ⟨voxel.z,voxel.y,voxel.x,⟨⟨lowZ,highZ⟩,⟨lowY,highY⟩,lowX,highX⟩,rfl⟩

theorem Pooled.put {done : List Zyx} {before : List Nat} (some' : (⟨0,0,0⟩ : Zyx).All (· < ·) sourceDims)
    (ends : bounds.hi.All (· ≤ ·) (Zyx.zip (· + ·) bounds.lo (chunkDims level)))
    (shows : ∀ voxel ∈ voxelsOf bounds, Shows sourceDims outputDims source region volume voxel)
    (pooled : Pooled sourceDims outputDims volume (chunkDims level) bounds.lo done before) (member : voxel ∈ voxelsOf bounds) :
    ∃ after, putVoxel sourceDims outputDims level source region region.dims bounds before voxel = .ok after ∧
      Pooled sourceDims outputDims volume (chunkDims level) bounds.lo (done++[voxel]) after := by
  obtain ⟨⟨lowZ,lowY,lowX⟩,highZ,highY,highX⟩ := mem_voxelsOf.mp member
  obtain ⟨sized,shown⟩ := pooled
  obtain ⟨endZ,endY,endX⟩ := ends
  have place : (⟨voxel.z-bounds.lo.z,voxel.y-bounds.lo.y,voxel.x-bounds.lo.x⟩ : Zyx).All (· < ·) (chunkDims level) :=
    ⟨Nat.sub_lt_left_of_lt_add lowZ (Nat.lt_of_lt_of_le highZ endZ),Nat.sub_lt_left_of_lt_add lowY (Nat.lt_of_lt_of_le highY endY),
      Nat.sub_lt_left_of_lt_add lowX (Nat.lt_of_lt_of_le highX endX)⟩
  have room := Server.Zyx.index_lt place
  have placed : Zyx.zipM (Checked.sub (ε := String)) voxel bounds.lo = .ok ⟨voxel.z-bounds.lo.z,voxel.y-bounds.lo.y,voxel.x-bounds.lo.x⟩ :=
    Server.Zyx.zipM_ok (Checked.sub_ok lowZ) (Checked.sub_ok lowY) (Checked.sub_ok lowX)
  refine ⟨before.set ((chunkDims level).index ⟨voxel.z-bounds.lo.z,voxel.y-bounds.lo.y,voxel.x-bounds.lo.x⟩)
    (maxPool sourceDims outputDims volume voxel),?_,by rw [List.length_set,sized],fun p within => ?_⟩
  · unfold putVoxel
    rw [poolVoxel_ok some' (shows voxel member),placed]
    simp only [ok_then,Server.rowMajor_strides]
    exact if_pos (sized ▸ room)
  · rw [List.getElem?_set,shown p within]
    have same : (chunkDims level).index ⟨voxel.z-bounds.lo.z,voxel.y-bounds.lo.y,voxel.x-bounds.lo.x⟩ = (chunkDims level).index p ↔
        Zyx.zip (· + ·) bounds.lo p = voxel := by
      constructor
      · intro sameIndex
        obtain ⟨plane,row,column⟩ := rowMajor_injective place.2.1 within.2.1 place.2.2 within.2.2 sameIndex
        exact (Zyx.mk.injEq ..).mpr ⟨(Nat.sub_eq_iff_eq_add' lowZ).mp plane ▸ rfl,(Nat.sub_eq_iff_eq_add' lowY).mp row ▸ rfl,
          (Nat.sub_eq_iff_eq_add' lowX).mp column ▸ rfl⟩
      · intro here
        subst here
        simp only [Zyx.zip,Nat.add_sub_cancel_left]
    simp only [same,List.mem_append,List.mem_singleton]
    by_cases here : Zyx.zip (· + ·) bounds.lo p = voxel
    · rw [if_pos here,if_pos (sized ▸ room),if_pos (.inr here),here]
    · rw [if_neg here]
      simp only [here,or_false]

theorem outputChunkBounds_ok (starts : (Zyx.zip (· * ·) (cell coords) (chunkDims level)).All (· < ·) outputDims) :
    outputChunkBounds outputDims level coords = .ok ⟨Zyx.zip (· * ·) (cell coords) (chunkDims level),
      Zyx.zip min (Zyx.zip (· + ·) (Zyx.zip (· * ·) (cell coords) (chunkDims level)) (chunkDims level)) outputDims⟩ := if_pos starts

theorem axis_region {outLen inLen start stop : Nat} (some' : 0 < inLen) (wide : start < stop) (inside : stop ≤ outLen) :
    (scaleRange start outLen inLen).1 < (scaleRange (stop-1) outLen inLen).2 ∧ (scaleRange (stop-1) outLen inLen).2 ≤ inLen ∧
      ∀ i, start ≤ i → i < stop → Covers outLen inLen i (scaleRange start outLen inLen).1 (scaleRange (stop-1) outLen inLen).2 := by
  have last : stop-1 < outLen := by omega
  obtain ⟨_,some'',upto⟩ := footprint_bounds some' last
  rw [scaleRange_eq some' (Nat.lt_of_lt_of_le wide inside),scaleRange_eq some' last]
  have low {i : Nat} (after : start ≤ i) : start*inLen/outLen ≤ i*inLen/outLen := Nat.div_le_div_right (Nat.mul_le_mul_right _ after)
  refine ⟨Nat.lt_of_le_of_lt (low (Nat.le_pred_of_lt wide)) some'',upto,fun i after before s under => ?_⟩
  rw [footprint_eq_Ico some' (Nat.lt_of_lt_of_le before inside),Finset.mem_Ico] at under
  refine ⟨Nat.le_trans (low after) under.1,Nat.lt_of_lt_of_le under.2 (Nat.div_le_div_right ?_)⟩
  have next := Nat.mul_le_mul_right inLen (show i+1 ≤ stop-1+1 by omega)
  omega

theorem cutChunk_index {chunk dims corner p : Zyx} (within : p.All (· < ·) chunk) :
    (cutChunk chunk dims corner volume)[chunk.index p]? =
      some (if (Zyx.zip (· + ·) corner p).All (· < ·) dims then volume (Zyx.zip (· + ·) corner p) else 0) := by
  have column : chunk.index p/chunk.x = p.z*chunk.y+p.y ∧ chunk.index p%chunk.x = p.x := place_line _ within.2.2
  have row : (p.z*chunk.y+p.y)/chunk.y = p.z ∧ (p.z*chunk.y+p.y)%chunk.y = p.y := place_line _ within.2.1
  unfold cutChunk
  rw [List.getElem?_map,List.getElem?_range (Server.Zyx.index_lt within),Option.map_some]
  simp only [column,row]

theorem pooled_cutChunk {chunk corner : Zyx} {done : List Zyx} {out : List Nat}
    (listed : ∀ p : Zyx, p.All (· < ·) chunk → (Zyx.zip (· + ·) corner p ∈ done ↔ (Zyx.zip (· + ·) corner p).All (· < ·) outputDims))
    (pooled : Pooled sourceDims outputDims volume chunk corner done out) :
    out = cutChunk chunk outputDims corner (maxPool sourceDims outputDims volume) := by
  obtain ⟨sized,shown⟩ := pooled
  have sized' : (cutChunk chunk outputDims corner (maxPool sourceDims outputDims volume)).length = chunk.volume := by
    rw [cutChunk,List.length_map,List.length_range]
  refine List.ext_getElem? fun n => ?_
  by_cases inside : n < chunk.volume
  · obtain ⟨z,y,x,plane,row,column,place⟩ := rowMajor_surjective inside
    have within : Zyx.All (· < ·) ⟨z,y,x⟩ chunk := ⟨plane,row,column⟩
    have first := shown ⟨z,y,x⟩ within
    have second := @cutChunk_index (maxPool sourceDims outputDims volume) chunk outputDims corner ⟨z,y,x⟩ within
    simp only [listed ⟨z,y,x⟩ within] at first
    rw [Server.Zyx.index,place] at first second
    rw [first,second]
  · rw [List.getElem?_eq_none (by omega),List.getElem?_eq_none (by omega)]

theorem downsample_ok (some' : (⟨0,0,0⟩ : Zyx).All (· < ·) sourceDims) (chunked : outputChunkBounds outputDims level coords = .ok bounds)
    (ends : bounds.hi = Zyx.zip min (Zyx.zip (· + ·) bounds.lo (chunkDims level)) outputDims) (sized : source.length = region.dims.volume)
    (shows : ∀ voxel ∈ voxelsOf bounds, Shows sourceDims outputDims source region volume voxel) :
    downsampleRegionToGeneratedChunk sourceDims outputDims level coords source region region.dims =
      .ok (cutChunk (chunkDims level) outputDims bounds.lo (maxPool sourceDims outputDims volume)) := by
  have start : Pooled sourceDims outputDims volume (chunkDims level) bounds.lo [] (List.replicate (chunkDims level).volume 0) := by
    refine ⟨List.length_replicate,fun p within => ?_⟩
    rw [List.getElem?_replicate_of_lt (Server.Zyx.index_lt within),if_neg List.not_mem_nil]
  have within : bounds.hi.All (· ≤ ·) (Zyx.zip (· + ·) bounds.lo (chunkDims level)) := by
    rw [ends]
    exact ⟨Nat.min_le_left _ _,Nat.min_le_left _ _,Nat.min_le_left _ _⟩
  obtain ⟨out,ran,pooled⟩ := foldlM_reaches (fun done voxel before member pooled => pooled.put some' within shows member) start
  have listed (p : Zyx) (inside : p.All (· < ·) (chunkDims level)) :
      Zyx.zip (· + ·) bounds.lo p ∈ voxelsOf bounds ↔ (Zyx.zip (· + ·) bounds.lo p).All (· < ·) outputDims := by
    rw [mem_voxelsOf,ends]
    constructor
    · intro ⟨_,highZ,highY,highX⟩
      exact ⟨(Nat.lt_min.mp highZ).2,(Nat.lt_min.mp highY).2,(Nat.lt_min.mp highX).2⟩
    · intro ⟨highZ,highY,highX⟩
      exact ⟨⟨Nat.le_add_right _ _,Nat.le_add_right _ _,Nat.le_add_right _ _⟩,
        Nat.lt_min.mpr ⟨Nat.add_lt_add_left inside.1 _,highZ⟩,Nat.lt_min.mpr ⟨Nat.add_lt_add_left inside.2.1 _,highY⟩,
        Nat.lt_min.mpr ⟨Nat.add_lt_add_left inside.2.2 _,highX⟩⟩
  unfold downsampleRegionToGeneratedChunk
  refine (if_neg (not_not_intro sized)).trans ?_
  rw [chunked]
  exact ran.trans (congrArg Except.ok (pooled_cutChunk listed pooled))

theorem sourceRegion_ok (some' : (⟨0,0,0⟩ : Zyx).All (· < ·) sourceDims)
    (chunked : outputChunkBounds outputDims level coords = .ok bounds) (wide : bounds.lo.All (· < ·) bounds.hi)
    (inside : bounds.hi.All (· ≤ ·) outputDims) :
    ∃ region, sourceRegionForOutputChunk sourceDims outputDims level coords = .ok region ∧ region.lo.All (· < ·) region.hi ∧
      region.hi.All (· ≤ ·) sourceDims ∧ ∀ voxel ∈ voxelsOf bounds, Covers outputDims.z sourceDims.z voxel.z region.lo.z region.hi.z ∧
        Covers outputDims.y sourceDims.y voxel.y region.lo.y region.hi.y ∧ Covers outputDims.x sourceDims.x voxel.x region.lo.x region.hi.x := by
  obtain ⟨wideZ,insideZ,coversZ⟩ := axis_region some'.1 wide.1 inside.1
  obtain ⟨wideY,insideY,coversY⟩ := axis_region some'.2.1 wide.2.1 inside.2.1
  obtain ⟨wideX,insideX,coversX⟩ := axis_region some'.2.2 wide.2.2 inside.2.2
  have last : Zyx.zipM (Checked.sub (ε := String)) bounds.hi ⟨1,1,1⟩ = .ok ⟨bounds.hi.z-1,bounds.hi.y-1,bounds.hi.x-1⟩ :=
    Server.Zyx.zipM_ok (Checked.sub_ok (Nat.one_le_of_lt wide.1)) (Checked.sub_ok (Nat.one_le_of_lt wide.2.1))
      (Checked.sub_ok (Nat.one_le_of_lt wide.2.2))
  refine ⟨⟨⟨_,_,_⟩,⟨_,_,_⟩⟩,?_,⟨wideZ,wideY,wideX⟩,⟨insideZ,insideY,insideX⟩,fun voxel listed => ?_⟩
  · unfold sourceRegionForOutputChunk
    rw [chunked]
    simp only [ok_then,last]
    rfl
  · obtain ⟨⟨lowZ,lowY,lowX⟩,highZ,highY,highX⟩ := mem_voxelsOf.mp listed
    exact ⟨coversZ _ lowZ highZ,coversY _ lowY highY,coversX _ lowX highX⟩

end

theorem generatedOutputShape_pos (sourceLevel0Shape selectedInputShape : Axes Nat) (targetLongAxis : Nat) :
    (⟨0,0,0⟩ : Zyx).All (· < ·) (spatialDims (generatedOutputShape sourceLevel0Shape selectedInputShape targetLongAxis)) := by
  unfold generatedOutputShape
  refine ⟨?_,?_,?_⟩ <;> simp [spatialDims,Zyx.zip,atLeastOne]

section
variable {R : Type} {width : Nat} {toU16 : Bytes → Nat} {levels : List (LevelGeometry R)} {source level : LevelGeometry R}
  {coords : GeneratedChunkCoords} {sourceLevelIndex : Nat} {read : String → Except (Stop ChunkReadError) ChunkRead}

theorem generated_chunk_is_pooled (encode : Nat → Bytes) (sourceLevel0Shape selectedInputShape : Axes Nat) (targetLongAxis : Nat)
    (generated : level.shape = generatedOutputShape sourceLevel0Shape selectedInputShape targetLongAxis)
    (listed : levels[sourceLevelIndex]? = some source) (nonempty : (⟨0,0,0⟩ : Zyx).All (· < ·) (spatialDims source.shape))
    (readable : Readable source sourceLevelIndex coords.t coords.c read width) (times : coords.t < source.shape.t)
    (channels : coords.c < source.shape.c) (starts : (Zyx.zip (· * ·) (cell coords) (chunkDims level)).All (· < ·) (spatialDims level.shape)) :
    generateChunkFromSourceLevel width toU16 encode levels level coords sourceLevelIndex read =
        .ok ((cutChunk (chunkDims level) (spatialDims level.shape) (Zyx.zip (· * ·) (cell coords) (chunkDims level))
          (maxPool (spatialDims source.shape) (spatialDims level.shape)
            (levelVolume source sourceLevelIndex coords.t coords.c read width toU16))).flatMap encode) ∧
      ∀ sample : Zyx, sample.All (· < ·) (spatialDims source.shape) →
        ∃ voxel : Zyx, voxel.All (· < ·) (spatialDims level.shape) ∧ InFootprint (spatialDims source.shape) (spatialDims level.shape) voxel sample := by
  have shown := generatedOutputShape_pos sourceLevel0Shape selectedInputShape targetLongAxis
  rw [← generated] at shown
  have chunked := outputChunkBounds_ok starts
  obtain ⟨someZ,someY,someX⟩ := Server.chunkDims_pos level
  have wide : (Zyx.zip (· * ·) (cell coords) (chunkDims level)).All (· < ·)
      (Zyx.zip min (Zyx.zip (· + ·) (Zyx.zip (· * ·) (cell coords) (chunkDims level)) (chunkDims level)) (spatialDims level.shape)) :=
    ⟨Nat.lt_min.mpr ⟨Nat.lt_add_of_pos_right someZ,starts.1⟩,Nat.lt_min.mpr ⟨Nat.lt_add_of_pos_right someY,starts.2.1⟩,
      Nat.lt_min.mpr ⟨Nat.lt_add_of_pos_right someX,starts.2.2⟩⟩
  obtain ⟨region,found,some',inside,covers⟩ := sourceRegion_ok nonempty chunked wide
    ⟨Nat.min_le_right _ _,Nat.min_le_right _ _,Nat.min_le_right _ _⟩
  obtain ⟨data,fetched,sized,shows⟩ := @Server.fetchVolumeRegion_ok R width toU16 source sourceLevelIndex coords.t coords.c read region
    readable times channels some' inside
  refine ⟨?_,fun sample within => ?_⟩
  · have shows' (voxel : Zyx) (member : voxel ∈ voxelsOf ⟨Zyx.zip (· * ·) (cell coords) (chunkDims level),
        Zyx.zip min (Zyx.zip (· + ·) (Zyx.zip (· * ·) (cell coords) (chunkDims level)) (chunkDims level)) (spatialDims level.shape)⟩) :
        Shows (spatialDims source.shape) (spatialDims level.shape) data region
          (levelVolume source sourceLevelIndex coords.t coords.c read width toU16) voxel := by
      obtain ⟨planes,rows,columns⟩ := covers voxel member
      obtain ⟨_,highZ,highY,highX⟩ := mem_voxelsOf.mp member
      exact ⟨⟨(Nat.lt_min.mp highZ).2,(Nat.lt_min.mp highY).2,(Nat.lt_min.mp highX).2⟩,planes,rows,columns,shows⟩
    have pooled := downsample_ok nonempty chunked rfl sized shows'
    unfold generateChunkFromSourceLevel
    rw [listed]
    simp only [found,fetched,pooled,Except.mapError,ok_then]
    rfl
  · obtain ⟨z,shownZ,underZ⟩ := exists_footprint shown.1 within.1
    obtain ⟨y,shownY,underY⟩ := exists_footprint shown.2.1 within.2.1
    obtain ⟨x,shownX,underX⟩ := exists_footprint shown.2.2 within.2.2
    exact ⟨⟨z,y,x⟩,⟨shownZ,shownY,shownX⟩,(mem_scaleRange nonempty.1 shownZ).mp underZ,(mem_scaleRange nonempty.2.1 shownY).mp underY,
      (mem_scaleRange nonempty.2.2 shownX).mp underX⟩

end

def rowSource : LevelGeometry Nat := ⟨0,⟨1,1,1,1,3⟩,⟨1,1,1,1,2⟩,⟨1,1,1,1,2⟩,⟨1,1,1,1,1⟩⟩

def rowLevel : LevelGeometry Nat := ⟨1,⟨1,1,1,1,2⟩,⟨1,1,1,1,3⟩,⟨1,1,1,1,1⟩,⟨1,1,1,1,1⟩⟩

def rowRead (key : String) : Except (Stop ChunkReadError) ChunkRead :=
  .ok (.present (if key = "0/0/0/0/0/0" then [5,9] else [4,0]))

-- Three samples shown by two, in a chunk for three.
theorem row_is_pooled : generateChunkFromSourceLevel 1 (fun sample => (sample.headD 0).toNat) (fun value => [UInt8.ofNat value]) [rowSource] rowLevel
    ⟨1,0,0,0,0,0⟩ 0 rowRead = .ok [9,9,0] := by
  have readable : Readable rowSource 0 0 0 rowRead 1 := by
    intro grid _
    refine ⟨_,rfl,fun raw shown => ?_⟩
    cases shown
    split <;> decide
  exact (generated_chunk_is_pooled _ rowSource.shape rowSource.shape 2 (by decide) rfl (by decide) readable (by decide) (by decide) (by decide)).1.trans
    (by decide +kernel)

def emptySource : LevelGeometry Nat := ⟨0,⟨1,1,0,1,1⟩,⟨1,1,1,1,1⟩,⟨1,1,1,1,1⟩,⟨1,1,1,1,1⟩⟩

def emptyLevel : LevelGeometry Nat := ⟨1,⟨1,1,1,1,1⟩,⟨1,1,1,1,1⟩,⟨1,1,1,1,1⟩,⟨1,1,1,1,1⟩⟩

-- A source without a plane is shown by a level with one, which no region of the source makes.
theorem empty_source_is_refused : emptyLevel.shape = generatedOutputShape emptySource.shape emptySource.shape 1 ∧
    (Zyx.zip (· * ·) (cell ⟨1,0,0,0,0,0⟩) (chunkDims emptyLevel)).All (· < ·) (spatialDims emptyLevel.shape) ∧
    generateChunkFromSourceLevel 1 (fun sample => (sample.headD 0).toNat) (fun value => [UInt8.ofNat value]) [emptySource] emptyLevel
      ⟨1,0,0,0,0,0⟩ 0 (fun _ => .ok (.absent 1)) = .error (.error (.source (.spatialOutOfBounds 0))) := by
  decide

end Lucida.Generated.MaxPool
