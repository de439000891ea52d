import Lucida.Server.Regrid

namespace Lucida.Server
open Content Lib Store
open Store.ChunkCache (Bytes)

structure VolumeRegion where
  lo : Zyx
  hi : Zyx
  deriving DecidableEq, Repr

inductive BuildSourceError where
  | badLevel (level : Nat)
  | outOfBounds (t c : Nat)
  | spatialOutOfBounds (level : Nat)
  | unknownImage (imageId : ImageId)
  | fetch (key : String) (error : ChunkCache.StoreError)
  | decode (key : String) (error : DecodeError)
  | shortChunk (key : String) (got expected : Nat)
  deriving DecidableEq, Repr

def readError (key : String) : Stop ChunkReadError → Stop BuildSourceError
  | .panic => .panic
  | .error (.unknownImage imageId) => .error (.unknownImage imageId)
  | .error (.objectStore error) => .error (.fetch key error)
  | .error (.decode error) => .error (.decode key error)

def spatialDims (axes : Axes Nat) : Zyx := ⟨axes.z,axes.y,axes.x⟩

def atLeastOne (sizes : Zyx) : Zyx := Zyx.zip max sizes ⟨1,1,1⟩

namespace VolumeRegion

def dims (region : VolumeRegion) : Zyx := Zyx.zip (· - ·) region.hi region.lo

-- The part of a chunk that is in the region, where `stop` is the chunk's end in the level.
def clip (region : VolumeRegion) (origin stop : Zyx) : VolumeRegion := ⟨Zyx.zip max origin region.lo,Zyx.zip min stop region.hi⟩

end VolumeRegion

section
variable {R : Type} (width : Nat) (toU16 : Bytes → Nat)

def copySamples (raw : Bytes) (chunk origin : Zyx) (region copy : VolumeRegion) (out : List Nat) (row : Nat × Nat) :
    Except (Stop BuildSourceError) (List Nat) := do
  let localZ ← Checked.sub row.1 origin.z
  let localY ← Checked.sub row.2 origin.y
  let localX ← Checked.sub copy.lo.x origin.x
  let inOff := localZ*(chunk.y*chunk.x)+localY*chunk.x+localX
  let outZ ← Checked.sub row.1 region.lo.z
  let outY ← Checked.sub row.2 region.lo.y
  let outX ← Checked.sub copy.lo.x region.lo.x
  let outOff := outZ*(region.dims.y*region.dims.x)+outY*region.dims.x+outX
  let len ← Checked.sub copy.hi.x copy.lo.x
  if inOff*width+len*width ≤ raw.length ∧ outOff+len ≤ out.length then
    .ok (overwrite out outOff ((List.range len).map fun i => toU16 (sample width raw (inOff+i))))
  else .error .panic

variable (geometry : LevelGeometry R) (level t c : Nat) (read : String → Except (Stop ChunkReadError) ChunkRead)

def chunkDims : Zyx := atLeastOne (spatialDims geometry.chunkShape)

def chunkOrigin (grid : Zyx) : Zyx := Zyx.zip (· * ·) grid (chunkDims geometry)

-- The last grid cell of an axis may be partial.
def chunkEnd (grid : Zyx) : Zyx := Zyx.zip min (Zyx.zip (· + ·) (chunkOrigin geometry grid) (chunkDims geometry)) (spatialDims geometry.shape)

def sharedRows (copy : VolumeRegion) : List (Nat × Nat) :=
  List.range' copy.lo.z (copy.hi.z-copy.lo.z) ×ˢ List.range' copy.lo.y (copy.hi.y-copy.lo.y)

def copyChunk (key : String) (region : VolumeRegion) (grid : Zyx) (out : List Nat) (raw : Bytes) :
    Except (Stop BuildSourceError) (List Nat) :=
  let chunk := chunkDims geometry
  let origin := chunkOrigin geometry grid
  let copy := region.clip origin (chunkEnd geometry grid)
  let expected := chunk.z*chunk.y*chunk.x
  if raw.length < expected*width then .error (.error (.shortChunk key (raw.length/width) expected))
  else (sharedRows copy).foldlM (copySamples width toU16 raw chunk origin region copy) out

def fetchChunk (region : VolumeRegion) (out : List Nat) (grid : Zyx) : Except (Stop BuildSourceError) (List Nat) := do
  let key := chunkKeyOf level t c grid
  match ← (read key).mapError (readError key) with
  | .absent _ => return out
  | .present raw => copyChunk width toU16 geometry key region grid out raw

def regionGrid (region : VolumeRegion) : List Zyx :=
  let chunk := chunkDims geometry
  let first := Zyx.zip (· / ·) region.lo chunk
  let last := Zyx.zip (fun stop size => (stop-1)/size) region.hi chunk
  (List.range' first.z (last.z+1-first.z) ×ˢ List.range' first.y (last.y+1-first.y) ×ˢ List.range' first.x (last.x+1-first.x)).map
    fun cell => ⟨cell.1,cell.2.1,cell.2.2⟩

def fetchVolumeRegion (region : VolumeRegion) : Except (Stop BuildSourceError) (List Nat × Zyx) := do
  if geometry.shape.t ≤ t ∨ geometry.shape.c ≤ c then throw (.error (.outOfBounds t c))
  if ¬(region.lo.All (· < ·) region.hi ∧ region.hi.All (· ≤ ·) (spatialDims geometry.shape)) then
    throw (.error (.spatialOutOfBounds level))
  let blank := List.replicate (region.dims.z*region.dims.y*region.dims.x) 0
  let out ← (regionGrid geometry region).foldlM (fetchChunk width toU16 geometry level t c read region) blank
  return (out,region.dims)

end

theorem rowMajor_strides (rows columns z y x : Nat) : z*(rows*columns)+y*columns+x = rowMajor rows columns z y x := by
  rw [rowMajor,Nat.add_mul,Nat.mul_assoc]

theorem run_within {shape : Zyx} {z y x n : Nat} (plane : z < shape.z) (row : y < shape.y) (some' : 0 < n) (short : x+n ≤ shape.x) :
    rowMajor shape.y shape.x z y x+n ≤ shape.volume := by
  have last : rowMajor shape.y shape.x z y (x+(n-1)) < shape.volume := rowMajor_lt plane row (by omega)
  rw [rowMajor_add] at last
  omega

section
variable {width : Nat} {toU16 : Bytes → Nat} {raw : Bytes} {chunk origin stop : Zyx} {region : VolumeRegion} {out : List Nat}

structure SharedRow (chunk origin stop : Zyx) (region : VolumeRegion) (z y : Nat) : Prop where
  planes : (region.clip origin stop).lo.z ≤ z ∧ z < (region.clip origin stop).hi.z
  rows : (region.clip origin stop).lo.y ≤ y ∧ y < (region.clip origin stop).hi.y
  columns : (region.clip origin stop).lo.x < (region.clip origin stop).hi.x
  ends : stop.All (· ≤ ·) (Zyx.zip (· + ·) origin chunk)

theorem axis_shared {origin size stop lo hi z : Nat} (low : max origin lo ≤ z) (high : z < min stop hi) (ends : stop ≤ origin+size) :
    origin ≤ z ∧ z-origin < size ∧ lo ≤ z ∧ z-lo < hi-lo := by omega

theorem axis_run {origin size stop lo hi : Nat} (wide : max origin lo < min stop hi) (ends : stop ≤ origin+size) :
    max origin lo-origin+(min stop hi-max origin lo) ≤ size ∧ max origin lo-lo+(min stop hi-max origin lo) ≤ hi-lo := by omega

theorem copySamples_ok {z y : Nat} (row : SharedRow chunk origin stop region z y) (long : chunk.volume*width ≤ raw.length)
    (sized : out.length = region.dims.volume) :
    ∃ out', copySamples width toU16 raw chunk origin region (region.clip origin stop) out (z,y) = .ok out' ∧
      out'.length = region.dims.volume ∧ ∀ p : Zyx, p.All (· < ·) region.dims → out'[region.dims.index p]? =
        if region.lo.z+p.z = z ∧ region.lo.y+p.y = y ∧ (region.clip origin stop).lo.x ≤ region.lo.x+p.x ∧
            region.lo.x+p.x < (region.clip origin stop).hi.x then
          some (toU16 (sample width raw (chunk.index ⟨z-origin.z,y-origin.y,region.lo.x+p.x-origin.x⟩)))
        else out[region.dims.index p]? := by
  obtain ⟨⟨lowZ,highZ⟩,⟨lowY,highY⟩,wide,endZ,endY,endX⟩ := row
  obtain ⟨fromZ,inZ,afterZ,planeZ⟩ := axis_shared lowZ highZ endZ
  obtain ⟨fromY,inY,afterY,lineY⟩ := axis_shared lowY highY endY
  obtain ⟨inX,short⟩ := axis_run wide endX
  have fromX : origin.x ≤ (region.clip origin stop).lo.x := Nat.le_max_left _ _
  have afterX : region.lo.x ≤ (region.clip origin stop).lo.x := Nat.le_max_right _ _
  change (region.clip origin stop).lo.x-origin.x+((region.clip origin stop).hi.x-(region.clip origin stop).lo.x) ≤ chunk.x at inX
  change (region.clip origin stop).lo.x-region.lo.x+((region.clip origin stop).hi.x-(region.clip origin stop).lo.x) ≤ region.dims.x at short
  change z-region.lo.z < region.dims.z at planeZ
  change y-region.lo.y < region.dims.y at lineY
  clear lowZ highZ lowY highY endZ endY endX
  generalize region.clip origin stop = copy at *
  have some' : 0 < copy.hi.x-copy.lo.x := Nat.sub_pos_of_lt wide
  have inside := run_within inZ inY some' inX
  have room := run_within planeZ lineY some' short
  have bytes := Nat.mul_le_mul_right width inside
  rw [Nat.add_mul] at bytes
  obtain ⟨piece,written⟩ : ∃ piece, piece = (List.range (copy.hi.x-copy.lo.x)).map fun i =>
    toU16 (sample width raw (rowMajor chunk.y chunk.x (z-origin.z) (y-origin.y) (copy.lo.x-origin.x)+i)) := ⟨_,rfl⟩
  have run : piece.length = copy.hi.x-copy.lo.x := by rw [written,List.length_map,List.length_range]
  refine ⟨overwrite out (rowMajor region.dims.y region.dims.x (z-region.lo.z) (y-region.lo.y) (copy.lo.x-region.lo.x)) piece,?_,?_,?_⟩
  · unfold copySamples
    dsimp only
    rw [Checked.sub_ok fromZ,Checked.sub_ok fromY,Checked.sub_ok fromX,Checked.sub_ok afterZ,Checked.sub_ok afterY,Checked.sub_ok afterX,
      Checked.sub_ok (Nat.le_of_lt wide)]
    simp only [ok_then,rowMajor_strides,← written]
    exact if_pos ⟨Nat.le_trans bytes long,by rw [sized]; exact room⟩
  · rw [length_overwrite (by rw [run,sized]; exact room),sized]
  · intro p ⟨_,withinY,withinX⟩
    rw [← run] at short
    refine (getElem?_overwrite_row sized withinY planeZ lineY withinX short).trans ?_
    rw [run]
    clear inside room bytes sized long short
    refine if_ctx_congr (by omega) (fun here => ?_) fun _ => rfl
    obtain ⟨_,_,after,before⟩ := here
    have place : p.x-(copy.lo.x-region.lo.x) < copy.hi.x-copy.lo.x := by omega
    have column : copy.lo.x-origin.x+(p.x-(copy.lo.x-region.lo.x)) = region.lo.x+p.x-origin.x := by omega
    rw [written,List.getElem?_map,List.getElem?_range place,Option.map_some,← rowMajor_add,column]
    rfl

theorem mem_run {first stop g : Nat} : g ∈ List.range' first (stop-first) ↔ first ≤ g ∧ g < stop := by
  rw [List.mem_range'_1]
  omega

def Copied (width : Nat) (toU16 : Bytes → Nat) (raw : Bytes) (chunk origin stop : Zyx) (region : VolumeRegion) (out : List Nat)
    (done : List (Nat × Nat)) (out' : List Nat) : Prop :=
  out'.length = region.dims.volume ∧ ∀ p : Zyx, p.All (· < ·) region.dims → out'[region.dims.index p]? =
    if done.contains (region.lo.z+p.z,region.lo.y+p.y) ∧ (region.clip origin stop).lo.x ≤ region.lo.x+p.x ∧
        region.lo.x+p.x < (region.clip origin stop).hi.x then
      some (toU16 (sample width raw (chunk.index ⟨region.lo.z+p.z-origin.z,region.lo.y+p.y-origin.y,region.lo.x+p.x-origin.x⟩)))
    else out[region.dims.index p]?

theorem Copied.row {done : List (Nat × Nat)} {before : List Nat} {z y : Nat}
    (wide : (region.clip origin stop).lo.x < (region.clip origin stop).hi.x) (ends : stop.All (· ≤ ·) (Zyx.zip (· + ·) origin chunk))
    (long : chunk.volume*width ≤ raw.length) (copied : Copied width toU16 raw chunk origin stop region out done before)
    (member : (z,y) ∈ sharedRows (region.clip origin stop)) :
    ∃ after, copySamples width toU16 raw chunk origin region (region.clip origin stop) before (z,y) = .ok after ∧
      Copied width toU16 raw chunk origin stop region out (done++[(z,y)]) after := by
  obtain ⟨planes,rows⟩ := List.mem_product.mp member
  obtain ⟨sized,shown⟩ := copied
  obtain ⟨after,ran,sized',shown'⟩ := copySamples_ok ⟨mem_run.mp planes,mem_run.mp rows,wide,ends⟩ long sized
  refine ⟨after,ran,sized',fun p inside => ?_⟩
  rw [shown' p inside,shown p inside]
  simp only [List.contains_iff_mem,List.mem_append,List.mem_singleton,Prod.mk.injEq]
  by_cases here : region.lo.z+p.z = z ∧ region.lo.y+p.y = y ∧ (region.clip origin stop).lo.x ≤ region.lo.x+p.x ∧
      region.lo.x+p.x < (region.clip origin stop).hi.x
  · obtain ⟨plane,line,between⟩ := here
    rw [if_pos ⟨plane,line,between⟩,if_pos ⟨.inr ⟨plane,line⟩,between⟩,plane,line]
  · rw [if_neg here]
    refine if_congr ⟨fun ⟨member,between⟩ => ⟨.inl member,between⟩,?_⟩ rfl rfl
    intro ⟨member,between⟩
    rcases member with member | ⟨plane,line⟩
    · exact ⟨member,between⟩
    · exact absurd ⟨plane,line,between⟩ here

end

section
variable {R : Type} {width : Nat} {toU16 : Bytes → Nat} (geometry : LevelGeometry R) (level t c : Nat)
  (read : String → Except (Stop ChunkReadError) ChunkRead)

-- The samples of the level, which has no sample but 0 in a chunk that is not there.
def levelVolume (width : Nat) (toU16 : Bytes → Nat) (voxel : Zyx) : Nat :=
  match read (chunkKeyOf level t c (Zyx.zip (· / ·) voxel (chunkDims geometry))) with
  | .ok (.present raw) => toU16 (sample width raw ((chunkDims geometry).index (Zyx.zip (· % ·) voxel (chunkDims geometry))))
  | _ => 0

def Readable (width : Nat) : Prop :=
  ∀ grid, (Zyx.zip (· * ·) grid (chunkDims geometry)).All (· < ·) (spatialDims geometry.shape) →
    ∃ chunk, read (chunkKeyOf level t c grid) = .ok chunk ∧ ∀ raw, chunk = .present raw → (chunkDims geometry).volume*width ≤ raw.length

theorem chunkDims_pos : 0 < (chunkDims geometry).z ∧ 0 < (chunkDims geometry).y ∧ 0 < (chunkDims geometry).x := by
  refine ⟨?_,?_,?_⟩ <;> exact Nat.lt_of_lt_of_le Nat.one_pos (Nat.le_max_right _ _)

theorem axis_cell {size lo hi extent g : Nat} (some' : 0 < size) (wide : lo < hi) (inside : hi ≤ extent) (low : lo/size ≤ g)
    (high : g ≤ (hi-1)/size) : g*size < extent ∧ max (g*size) lo < min (min (g*size+size) extent) hi := by
  have meets := RegridPlan.axis_meets some' wide low high
  have ⟨base,_⟩ := RegridPlan.axis_base some' high
  omega

theorem axis_voxel {size lo hi extent v : Nat} (g : Nat) (some' : 0 < size) (after : lo ≤ v) (before : v < hi) (inside : hi ≤ extent) :
    max (g*size) lo ≤ v ∧ v < min (min (g*size+size) extent) hi ↔ v/size = g := by
  have within := RegridPlan.axis_within hi g some' after
  omega

theorem mem_regionGrid {region : VolumeRegion} {grid : Zyx} : grid ∈ regionGrid geometry region ↔
    (Zyx.zip (· / ·) region.lo (chunkDims geometry)).All (· ≤ ·) grid ∧
      grid.All (· ≤ ·) (Zyx.zip (fun stop size => (stop-1)/size) region.hi (chunkDims geometry)) := by
  unfold regionGrid
  simp only [List.mem_map,List.mem_product,RegridPlan.mem_between,Prod.exists]
  constructor
  · intro ⟨z,y,x,⟨planes,rows,columns⟩,same⟩
    subst same
    exact ⟨⟨planes.1,rows.1,columns.1⟩,planes.2,rows.2,columns.2⟩
  · intro ⟨⟨lowZ,lowY,lowX⟩,highZ,highY,highX⟩
    exact ⟨grid.z,grid.y,grid.x,⟨⟨lowZ,highZ⟩,⟨lowY,highY⟩,lowX,highX⟩,rfl⟩

variable {geometry level t c read} {region : VolumeRegion} {grid : Zyx} {before : List Nat}

theorem copyChunk_ok {key : String} {raw : Bytes} (wide : region.lo.All (· < ·) region.hi)
    (inside : region.hi.All (· ≤ ·) (spatialDims geometry.shape)) (member : grid ∈ regionGrid geometry region)
    (long : (chunkDims geometry).volume*width ≤ raw.length) (sized : before.length = region.dims.volume) :
    ∃ after, copyChunk width toU16 geometry key region grid before raw = .ok after ∧ after.length = region.dims.volume ∧
      ∀ p : Zyx, p.All (· < ·) region.dims → after[region.dims.index p]? =
        if Zyx.zip (· / ·) (Zyx.zip (· + ·) region.lo p) (chunkDims geometry) = grid then
          some (toU16 (sample width raw ((chunkDims geometry).index (Zyx.zip (· % ·) (Zyx.zip (· + ·) region.lo p) (chunkDims geometry)))))
        else before[region.dims.index p]? := by
  obtain ⟨⟨lowZ,lowY,lowX⟩,highZ,highY,highX⟩ := (mem_regionGrid geometry).mp member
  obtain ⟨someZ,someY,someX⟩ := chunkDims_pos geometry
  obtain ⟨_,wideX⟩ := axis_cell someX wide.2.2 inside.2.2 lowX highX
  have ends : (chunkEnd geometry grid).All (· ≤ ·) (Zyx.zip (· + ·) (chunkOrigin geometry grid) (chunkDims geometry)) :=
    ⟨Nat.min_le_left _ _,Nat.min_le_left _ _,Nat.min_le_left _ _⟩
  have start : Copied width toU16 raw (chunkDims geometry) (chunkOrigin geometry grid) (chunkEnd geometry grid) region before [] before :=
    ⟨sized,fun p _ => by simp⟩
  obtain ⟨after,ran,sized',shown⟩ := foldlM_reaches (fun done row before member copied => copied.row wideX ends long member) start
  refine ⟨after,(if_neg (Nat.not_lt.mpr long)).trans ran,sized',fun p within => ?_⟩
  rw [shown p within]
  obtain ⟨belowZ,belowY,belowX⟩ := within
  have alongZ := axis_voxel grid.z someZ (Nat.le_add_right region.lo.z p.z) (Nat.add_lt_of_lt_sub' belowZ) inside.1
  have alongY := axis_voxel grid.y someY (Nat.le_add_right region.lo.y p.y) (Nat.add_lt_of_lt_sub' belowY) inside.2.1
  have alongX := axis_voxel grid.x someX (Nat.le_add_right region.lo.x p.x) (Nat.add_lt_of_lt_sub' belowX) inside.2.2
  refine if_ctx_congr ?_ (fun cell => ?_) fun _ => rfl
  · rw [List.contains_iff_mem,show (region.lo.z+p.z,region.lo.y+p.y) ∈ sharedRows (region.clip (chunkOrigin geometry grid) (chunkEnd geometry grid)) ↔ _ from
      List.mem_product]
    rw [mem_run,mem_run]
    constructor
    · intro ⟨⟨planes,rows⟩,columns⟩
      exact (Zyx.mk.injEq ..).mpr ⟨alongZ.mp planes,alongY.mp rows,alongX.mp columns⟩
    · intro cell
      exact ⟨⟨alongZ.mpr (congrArg Zyx.z cell),alongY.mpr (congrArg Zyx.y cell)⟩,alongX.mpr (congrArg Zyx.x cell)⟩
  · subst cell
    simp only [chunkOrigin,Zyx.zip,RegridPlan.axis_remainder rfl]

def Fetched (geometry : LevelGeometry R) (level t c : Nat) (read : String → Except (Stop ChunkReadError) ChunkRead)
    (width : Nat) (toU16 : Bytes → Nat) (region : VolumeRegion) (done : List Zyx) (out : List Nat) : Prop :=
  out.length = region.dims.volume ∧ ∀ p : Zyx, p.All (· < ·) region.dims → out[region.dims.index p]? =
    some (if Zyx.zip (· / ·) (Zyx.zip (· + ·) region.lo p) (chunkDims geometry) ∈ done then
      levelVolume geometry level t c read width toU16 (Zyx.zip (· + ·) region.lo p) else 0)

theorem Fetched.fetch {done : List Zyx} (readable : Readable geometry level t c read width) (wide : region.lo.All (· < ·) region.hi)
    (inside : region.hi.All (· ≤ ·) (spatialDims geometry.shape))
    (fetched : Fetched geometry level t c read width toU16 region done before) (member : grid ∈ regionGrid geometry region) :
    ∃ after, fetchChunk width toU16 geometry level t c read region before grid = .ok after ∧
      Fetched geometry level t c read width toU16 region (done++[grid]) after := by
  obtain ⟨⟨lowZ,lowY,lowX⟩,highZ,highY,highX⟩ := (mem_regionGrid geometry).mp member
  obtain ⟨someZ,someY,someX⟩ := chunkDims_pos geometry
  obtain ⟨inZ,_⟩ := axis_cell someZ wide.1 inside.1 lowZ highZ
  obtain ⟨inY,_⟩ := axis_cell someY wide.2.1 inside.2.1 lowY highY
  obtain ⟨inX,_⟩ := axis_cell someX wide.2.2 inside.2.2 lowX highX
  obtain ⟨chunk,got,long⟩ := readable grid ⟨inZ,inY,inX⟩
  obtain ⟨sized,shown⟩ := fetched
  -- A fetch changes the samples of its own grid cell only.
  have shows {after : List Nat} (sized' : after.length = region.dims.volume) (own : ∀ p : Zyx, p.All (· < ·) region.dims →
      after[region.dims.index p]? = if Zyx.zip (· / ·) (Zyx.zip (· + ·) region.lo p) (chunkDims geometry) = grid then
        some (levelVolume geometry level t c read width toU16 (Zyx.zip (· + ·) region.lo p)) else before[region.dims.index p]?) :
      Fetched geometry level t c read width toU16 region (done++[grid]) after := by
    refine ⟨sized',fun p within => ?_⟩
    rw [own p within,shown p within]
    simp only [List.mem_append,List.mem_singleton]
    by_cases here : Zyx.zip (· / ·) (Zyx.zip (· + ·) region.lo p) (chunkDims geometry) = grid
    · rw [if_pos here,if_pos (.inr here)]
    · rw [if_neg here]
      simp only [here,or_false]
  unfold fetchChunk
  dsimp only
  rw [got]
  cases chunk with
  | absent size =>
    refine ⟨before,rfl,shows sized fun p within => ?_⟩
    refine (ite_eq_right_iff.mpr fun here => ?_).symm
    have blank : levelVolume geometry level t c read width toU16 (Zyx.zip (· + ·) region.lo p) = 0 := by
      unfold levelVolume
      rw [here,got]
    rw [shown p within,blank,ite_self]
  | present raw =>
    obtain ⟨after,ran,sized',own⟩ := copyChunk_ok wide inside member (long raw rfl) sized
    refine ⟨after,ran,shows sized' fun p within => ?_⟩
    rw [own p within]
    refine if_ctx_congr Iff.rfl (fun cell => ?_) fun _ => rfl
    unfold levelVolume
    rw [cell,got]

theorem regionGrid_covers {p : Zyx} (within : p.All (· < ·) region.dims) :
    Zyx.zip (· / ·) (Zyx.zip (· + ·) region.lo p) (chunkDims geometry) ∈ regionGrid geometry region := by
  have axis {lo hi p : Nat} (size : Nat) (below : p < hi-lo) : lo/size ≤ (lo+p)/size ∧ (lo+p)/size ≤ (hi-1)/size :=
    ⟨Nat.div_le_div_right (Nat.le_add_right lo p),Nat.div_le_div_right (by omega)⟩
  obtain ⟨belowZ,belowY,belowX⟩ := within
  exact (mem_regionGrid geometry).mpr ⟨⟨(axis _ belowZ).1,(axis _ belowY).1,(axis _ belowX).1⟩,
    (axis _ belowZ).2,(axis _ belowY).2,(axis _ belowX).2⟩

theorem fetchVolumeRegion_ok (readable : Readable geometry level t c read width) (times : t < geometry.shape.t) (channels : c < geometry.shape.c)
    (wide : region.lo.All (· < ·) region.hi) (inside : region.hi.All (· ≤ ·) (spatialDims geometry.shape)) :
    ∃ out, fetchVolumeRegion width toU16 geometry level t c read region = .ok (out,region.dims) ∧ out.length = region.dims.volume ∧
      ∀ p : Zyx, p.All (· < ·) region.dims → out[region.dims.index p]? =
        some (levelVolume geometry level t c read width toU16 (Zyx.zip (· + ·) region.lo p)) := by
  have start : Fetched geometry level t c read width toU16 region [] (List.replicate region.dims.volume 0) := by
    refine ⟨List.length_replicate,fun p within => ?_⟩
    rw [List.getElem?_replicate_of_lt (Zyx.index_lt within),if_neg List.not_mem_nil]
  obtain ⟨out,ran,sized,shown⟩ := foldlM_reaches
    (fun done grid before member fetched => fetched.fetch readable wide inside member) start
  refine ⟨out,?_,sized,fun p within => ?_⟩
  · unfold fetchVolumeRegion
    rw [if_neg (by omega),if_neg (not_not_intro ⟨wide,inside⟩)]
    exact ok_bind ran rfl
  · rw [shown p within,if_pos (regionGrid_covers within)]

end

-- However a read goes, it leaves the length of the volume as it was.
section Lengths
variable {R : Type} {width : Nat} {toU16 : Bytes → Nat} {geometry : LevelGeometry R} {level t c : Nat}
  {read : String → Except (Stop ChunkReadError) ChunkRead} {region : VolumeRegion} {out next : List Nat}

theorem copySamples_length {raw : Bytes} {chunk origin : Zyx} {copy : VolumeRegion} {row : Nat × Nat}
    (ran : copySamples width toU16 raw chunk origin region copy out row = .ok next) : next.length = out.length := by
  unfold copySamples at ran
  obtain ⟨_,_,ran⟩ := bind_ok ran
  obtain ⟨_,_,ran⟩ := bind_ok ran
  obtain ⟨_,_,ran⟩ := bind_ok ran
  obtain ⟨_,_,ran⟩ := bind_ok ran
  obtain ⟨_,_,ran⟩ := bind_ok ran
  obtain ⟨_,_,ran⟩ := bind_ok ran
  obtain ⟨len,_,ran⟩ := bind_ok ran
  split at ran
  · next fits =>
    cases ran
    refine length_overwrite ?_
    rw [List.length_map,List.length_range]
    exact fits.2
  · cases ran

theorem fetchChunk_length {grid : Zyx} (ran : fetchChunk width toU16 geometry level t c read region out grid = .ok next) :
    next.length = out.length := by
  unfold fetchChunk at ran
  obtain ⟨chunk,_,ran⟩ := bind_ok ran
  cases chunk with
  | absent len =>
    cases ran
    rfl
  | present raw =>
    dsimp only [copyChunk] at ran
    split at ran
    · cases ran
    · exact foldlM_keeps (P := fun _ kept => kept.length = out.length)
        (fun _ _ _ _ _ same turn => (copySamples_length turn).trans same) rfl ran

theorem fetchVolumeRegion_sized {dims : Zyx} (ran : fetchVolumeRegion width toU16 geometry level t c read region = .ok (out,dims)) :
    (t < geometry.shape.t ∧ c < geometry.shape.c) ∧ region.lo.All (· < ·) region.hi ∧ dims = region.dims ∧ out.length = dims.volume := by
  unfold fetchVolumeRegion at ran
  by_cases times : geometry.shape.t ≤ t ∨ geometry.shape.c ≤ c
  · rw [if_pos times] at ran
    cases ran
  rw [if_neg times] at ran
  by_cases inside : region.lo.All (· < ·) region.hi ∧ region.hi.All (· ≤ ·) (spatialDims geometry.shape)
  swap
  · rw [if_pos inside] at ran
    cases ran
  rw [if_neg (not_not_intro inside)] at ran
  obtain ⟨filled,looped,done⟩ := bind_ok ran
  cases done
  refine ⟨by omega,inside.1,rfl,?_⟩
  exact foldlM_keeps (P := fun _ kept => kept.length = region.dims.volume)
    (fun _ _ _ _ _ same turn => (fetchChunk_length turn).trans same) List.length_replicate looped

end Lengths
end Lucida.Server
