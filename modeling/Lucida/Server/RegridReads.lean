import Lucida.Server.Regrid

namespace Lucida.Server
open Content Lib Store
open Store.ChunkCache (Bytes)

variable {ε : Type}

-- A level of a tile that an import binds to a declared chunk shape: both shapes are accepted,
-- and no chunk dimension is zero.
structure BoundLevel where
  axes : List String
  dataType : DataType
  rawShape : List UInt64
  chunkShape : List UInt64
  chunkByteLayout : ChunkByteLayout
  regrid : Regrid
  ordered : (keptAxes axes).Sublist ["z","y","x"]
  storedAccepted : computeChunkByteLayout axes chunkShape (dataTypeSize dataType) (classifyAxes axes rawShape).pinned =
    .ok chunkByteLayout
  declaredAccepted : computeChunkByteLayout axes regrid.chunkShape (dataTypeSize dataType) (classifyAxes axes rawShape).pinned =
    .ok regrid.chunkByteLayout
  storedPositive : 0 ∉ chunkShape
  declaredPositive : 0 ∉ regrid.chunkShape

namespace BoundLevel
variable (level : BoundLevel)

def info (compression : StorageCompression) : LevelInfo := ⟨compression,level.chunkShape,level.chunkByteLayout,some level.regrid⟩

def width : Nat := dataTypeSize level.dataType

def served : Zyx := .spatial (extentAlong level.axes level.regrid.chunkShape)

def stored : Zyx := .spatial (extentAlong level.axes level.chunkShape)

def extent (name : String) : Nat := extentAlong level.axes level.regrid.storedShape name

def origin (cell : Zyx) : Zyx := Zyx.zip (· * ·) cell level.served

def voxel (cell p : Zyx) : Zyx := Zyx.zip (· + ·) (level.origin cell) p

def Inside (t c : Nat) (voxel : Zyx) : Prop :=
  t < level.extent "t" ∧ c < level.extent "c" ∧ voxel.All (· < ·) (.spatial level.extent)

instance (t c : Nat) (voxel : Zyx) : Decidable (level.Inside t c voxel) := inferInstanceAs (Decidable (_ ∧ _ ∧ _))

def plan (index t c : Nat) (cell : Zyx) : RegridPlan where
  level := index
  t := t
  c := c
  origin := level.origin cell
  served := level.served
  ends := Zyx.zip min (Zyx.zip (· + ·) (level.origin cell) level.served) (.spatial (along level.axes level.regrid.storedShape))
  stored := level.stored
  sampleBytes := level.width

def InRange (t c : Nat) (cell : Zyx) : Prop :=
  t < along level.axes level.regrid.storedShape "t" ∧ c < along level.axes level.regrid.storedShape "c" ∧
    (level.origin cell).All (· < ·) (.spatial (along level.axes level.regrid.storedShape))

end BoundLevel

theorem dataTypeSize_bounds (dataType : DataType) : 0 < dataTypeSize dataType ∧ dataTypeSize dataType < 2^64 := by
  cases dataType <;> decide

theorem extentAlong_pos {axes : List String} {shape : List UInt64} {name : String} (lower : toAsciiLowercase name = name)
    (paired : axes.length = shape.length) (positive : 0 ∉ shape) : 0 < extentAlong axes shape name := by
  unfold extentAlong
  rw [axisValue_eq lower paired]
  exact sizeOn_pos (zip_positive positive)

theorem along_of_pos {axes : List String} {shape : List UInt64} {name : String} (positive : 0 < extentAlong axes shape name) :
    along axes shape name = extentAlong axes shape name := Nat.max_eq_left positive

theorem along_lt (axes : List String) (shape : List UInt64) (name : String) : along axes shape name < 2^64 := by
  have word := ((axisValue axes shape name).getD 1).toNat_lt
  unfold along extentAlong
  omega

theorem accepted_volume {axes : List String} {shape : List UInt64} {dtypeSize : Nat} {pinned : List PinnedAxis}
    {layout : ChunkByteLayout} (accepted : Accepted axes shape dtypeSize pinned layout)
    (ordered : (keptAxes axes).Sublist ["z","y","x"]) :
    layout.canonicalByteSize = (Zyx.spatial (extentAlong axes shape)).volume*dtypeSize := by
  have distinct : (keptAxes ((axes.zip shape).map Prod.fst)).Nodup := by
    rw [map_fst_zip accepted.paired]
    exact ordered.nodup (by decide)
  rw [accepted.canonical,keptVolume_eq distinct,Nat.mul_comm]
  simp only [Zyx.volume,Zyx.spatial,extentAlong]
  rw [axisValue_eq (by decide) accepted.paired,axisValue_eq (by decide) accepted.paired,axisValue_eq (by decide) accepted.paired]

namespace BoundLevel
variable {level : BoundLevel}

theorem acceptedStored (level : BoundLevel) : Accepted level.axes level.chunkShape level.width (classifyAxes level.axes level.rawShape).pinned
    level.chunkByteLayout :=
  compute_accepted level.storedPositive (dataTypeSize_bounds _).2 level.storedAccepted

theorem acceptedDeclared (level : BoundLevel) : Accepted level.axes level.regrid.chunkShape level.width
    (classifyAxes level.axes level.rawShape).pinned level.regrid.chunkByteLayout :=
  compute_accepted level.declaredPositive (dataTypeSize_bounds _).2 level.declaredAccepted

theorem width_pos (level : BoundLevel) : 0 < level.width := (dataTypeSize_bounds _).1

theorem storedSize (level : BoundLevel) : level.chunkByteLayout.canonicalByteSize = level.stored.volume*level.width :=
  accepted_volume level.acceptedStored level.ordered

theorem servedSize (level : BoundLevel) : level.regrid.chunkByteLayout.canonicalByteSize = level.served.volume*level.width :=
  accepted_volume level.acceptedDeclared level.ordered

theorem stored_pos (level : BoundLevel) : 0 < level.stored.z ∧ 0 < level.stored.y ∧ 0 < level.stored.x :=
  ⟨extentAlong_pos (by decide) level.acceptedStored.paired level.storedPositive,
    extentAlong_pos (by decide) level.acceptedStored.paired level.storedPositive,
    extentAlong_pos (by decide) level.acceptedStored.paired level.storedPositive⟩

theorem served_pos (level : BoundLevel) : 0 < level.served.z ∧ 0 < level.served.y ∧ 0 < level.served.x :=
  ⟨extentAlong_pos (by decide) level.acceptedDeclared.paired level.declaredPositive,
    extentAlong_pos (by decide) level.acceptedDeclared.paired level.declaredPositive,
    extentAlong_pos (by decide) level.acceptedDeclared.paired level.declaredPositive⟩

theorem slice_within (level : BoundLevel) (t c : Nat) :
    (level.chunkByteLayout.sliceRange t c).1+level.chunkByteLayout.canonicalByteSize ≤ level.chunkByteLayout.onDiskByteSize :=
  level.acceptedStored.slice_within level.storedPositive classified_not_kept t c

theorem onDisk_lt (level : BoundLevel) : level.chunkByteLayout.onDiskByteSize < 2^64 := by
  rw [level.acceptedStored.onDisk]
  exact level.acceptedStored.fits

theorem served_lt (level : BoundLevel) : level.served.volume*level.width < 2^64 := by
  rw [← level.servedSize,level.acceptedDeclared.canonical]
  exact Nat.lt_of_le_of_lt (Nat.mul_le_mul_left _ (keptVolume_le (zip_positive level.declaredPositive))) level.acceptedDeclared.fits

theorem stored_lt (level : BoundLevel) : level.stored.volume*level.width < 2^64 := by
  rw [← level.storedSize]
  have within := level.slice_within 0 0
  have short := level.onDisk_lt
  omega

theorem InRange.short {t c : Nat} {cell : Zyx} (ranged : level.InRange t c cell) : t < 2^64 ∧ c < 2^64 :=
  ⟨Nat.lt_trans ranged.1 (along_lt _ _ _),Nat.lt_trans ranged.2.1 (along_lt _ _ _)⟩

theorem plan_sound {index t c : Nat} {cell : Zyx} (ranged : level.InRange t c cell) : (level.plan index t c cell).Sound := by
  obtain ⟨_,_,startZ,startY,startX⟩ := ranged
  obtain ⟨posZ,posY,posX⟩ := level.served_pos
  have wordZ := along_lt level.axes level.regrid.storedShape "z"
  have wordY := along_lt level.axes level.regrid.storedShape "y"
  have wordX := along_lt level.axes level.regrid.storedShape "x"
  simp only [Zyx.spatial] at startZ startY startX
  constructor
  · exact level.width_pos
  · exact level.stored_pos
  · refine ⟨?_,?_,?_⟩ <;> simp only [plan,Zyx.zip,Zyx.spatial] <;> omega
  · refine ⟨?_,?_,?_⟩ <;> simp only [plan,Zyx.zip,Zyx.spatial] <;> omega
  · refine ⟨?_,?_,?_⟩ <;> simp only [plan,Zyx.zip,Zyx.spatial] <;> omega
  · exact level.served_lt
  · exact level.stored_lt

def Addresses (chunkKey : String) (index t c : Nat) (cell : Zyx) : Prop :=
  (splitKey chunkKey).mapM (parseUnsigned 64) = some [index,t,c,cell.z,cell.y,cell.x]

section
variable {chunkKey : String} {index t c : Nat} {cell : Zyx} {compression : StorageCompression}

theorem Addresses.unique {index' t' c' : Nat} {cell' : Zyx} (addressed : Addresses chunkKey index t c cell)
    (addressed' : Addresses chunkKey index' t' c' cell') : index = index' ∧ t = t' ∧ c = c' ∧ cell = cell' := by
  have same := Option.some.inj (addressed.symm.trans addressed')
  simp only [List.cons.injEq,and_true] at same
  obtain ⟨sameLevel,sameT,sameC,sameZ,sameY,sameX⟩ := same
  obtain ⟨z,y,x⟩ := cell
  obtain ⟨z',y',x'⟩ := cell'
  dsimp only at sameZ sameY sameX
  subst sameZ sameY sameX
  exact ⟨sameLevel,sameT,sameC,rfl⟩

theorem served_along (level : BoundLevel) : Zyx.spatial (along level.axes level.regrid.chunkShape) = level.served := by
  obtain ⟨posZ,posY,posX⟩ := level.served_pos
  simp only [served,Zyx.spatial,along_of_pos posZ,along_of_pos posY,along_of_pos posX]

theorem stored_along (level : BoundLevel) : Zyx.spatial (along level.axes level.chunkShape) = level.stored := by
  obtain ⟨posZ,posY,posX⟩ := level.stored_pos
  simp only [stored,Zyx.spatial,along_of_pos posZ,along_of_pos posY,along_of_pos posX]

theorem new_unaddressed (unaddressed : ∀ index t c cell, ¬Addresses chunkKey index t c cell) :
    RegridPlan.new (ε := ε) chunkKey level.axes (level.info compression) level.regrid = .ok none := by
  unfold RegridPlan.new
  split
  · rename_i index t c z y x parsed
    exact absurd parsed (unaddressed index t c ⟨z,y,x⟩)
  · rfl

theorem new_outside (addressed : Addresses chunkKey index t c cell) (outside : ¬level.InRange t c cell) :
    RegridPlan.new (ε := ε) chunkKey level.axes (level.info compression) level.regrid = .ok none := by
  unfold RegridPlan.new
  rw [addressed]
  dsimp only [info]
  rw [served_along]
  split
  · rfl
  · rename_i ranged
    rw [if_pos]
    intro starts
    refine outside ⟨by omega,by omega,?_⟩
    exact ⟨starts.1.2,starts.2.1.2,starts.2.2.2⟩

theorem volume_checked {shape : Zyx} {k : Nat → Except (Stop ε) α} (positive : 0 < shape.z ∧ 0 < shape.y ∧ 0 < shape.x)
    (fits : shape.volume < 2^64) :
    (Checked.mul 1 shape.z >>= fun planes => Checked.mul planes shape.y >>= fun lines => Checked.mul lines shape.x >>= k) =
      k shape.volume := by
  obtain ⟨posZ,posY,posX⟩ := positive
  have part : shape.z*shape.y ≤ shape.volume := Nat.le_mul_of_pos_right _ posX
  have part' : shape.z ≤ shape.z*shape.y := Nat.le_mul_of_pos_right _ posY
  rw [Checked.mul_ok (by omega),Nat.one_mul]
  simp only [bind,Except.bind]
  rw [Checked.mul_ok (by omega)]
  dsimp only
  rw [Checked.mul_ok fits]
  rfl

-- The sum that ends the declared chunk is all that may leave the word.
theorem new_inside (addressed : Addresses chunkKey index t c cell) (ranged : level.InRange t c cell) :
    RegridPlan.new (ε := ε) chunkKey level.axes (level.info compression) level.regrid =
      Zyx.zipM Checked.add (level.origin cell) level.served >>= fun reach => .ok (some {level.plan index t c cell with
        ends := Zyx.zip min reach (.spatial (along level.axes level.regrid.storedShape))}) := by
  obtain ⟨inT,inC,starts⟩ := ranged
  have wordZ := along_lt level.axes level.regrid.storedShape "z"
  have wordY := along_lt level.axes level.regrid.storedShape "y"
  have wordX := along_lt level.axes level.regrid.storedShape "x"
  have volume : level.served.volume < 2^64 :=
    Nat.lt_of_le_of_lt (Nat.le_mul_of_pos_right _ level.width_pos) level.served_lt
  have some' : 0 < level.served.volume := Nat.mul_pos (Nat.mul_pos level.served_pos.1 level.served_pos.2.1) level.served_pos.2.2
  unfold RegridPlan.new
  rw [addressed]
  dsimp only [info]
  rw [served_along,stored_along,if_neg (by omega),if_neg]
  · refine bind_congr fun reach => ?_
    rw [volume_checked level.served_pos volume,level.servedSize,Nat.mul_div_cancel_left _ some']
    rfl
  · intro outside
    exact outside ⟨⟨Nat.lt_trans starts.1 wordZ,starts.1⟩,⟨Nat.lt_trans starts.2.1 wordY,starts.2.1⟩,
      Nat.lt_trans starts.2.2 wordX,starts.2.2⟩

theorem new_ok (addressed : Addresses chunkKey index t c cell) (ranged : level.InRange t c cell)
    (reach : (level.origin cell).All (fun start size => start+size < 2^64) level.served) :
    RegridPlan.new (ε := ε) chunkKey level.axes (level.info compression) level.regrid = .ok (some (level.plan index t c cell)) := by
  have reached : Zyx.zipM (Checked.add (ε := ε)) (level.origin cell) level.served =
      .ok (Zyx.zip (· + ·) (level.origin cell) level.served) :=
    Zyx.zipM_ok (Checked.add_ok reach.1) (Checked.add_ok reach.2.1) (Checked.add_ok reach.2.2)
  rw [new_inside addressed ranged,reached]
  rfl

theorem new_reaches {found : Option RegridPlan} (addressed : Addresses chunkKey index t c cell) (ranged : level.InRange t c cell)
    (planned : RegridPlan.new (ε := ε) chunkKey level.axes (level.info compression) level.regrid = .ok found) :
    (level.origin cell).All (fun start size => start+size < 2^64) level.served := by
  rw [new_inside addressed ranged] at planned
  obtain ⟨reach,reached,_⟩ := bind_ok planned
  obtain ⟨alongZ,alongY,alongX⟩ := Zyx.zipM_some reached
  exact ⟨Checked.add_fits alongZ,Checked.add_fits alongY,Checked.add_fits alongX⟩

theorem stored_some (level : BoundLevel) : 0 < level.chunkByteLayout.canonicalByteSize := by
  rw [level.storedSize]
  exact Nat.mul_pos (Nat.mul_pos (Nat.mul_pos level.stored_pos.1 level.stored_pos.2.1) level.stored_pos.2.2) level.width_pos

theorem sliceWireChunk_eq {raw : Bytes} (sized : raw.length = level.chunkByteLayout.onDiskByteSize) (t c : Nat) :
    sliceWireChunk raw level.chunkByteLayout t c =
      (raw.drop (level.chunkByteLayout.sliceRange t c).1).take level.chunkByteLayout.canonicalByteSize := by
  have within := level.slice_within t c
  have word := level.onDisk_lt
  have some' := level.stored_some
  unfold sliceWireChunk
  dsimp only
  rw [show (level.chunkByteLayout.sliceRange t c).2 = level.chunkByteLayout.canonicalByteSize from rfl,
    if_pos ⟨some',by omega,by omega⟩,List.drop_take,Nat.add_sub_cancel_left]

theorem slice_length {raw : Bytes} (sized : raw.length = level.chunkByteLayout.onDiskByteSize) (t c : Nat) :
    ((raw.drop (level.chunkByteLayout.sliceRange t c).1).take level.chunkByteLayout.canonicalByteSize).length =
      level.stored.volume*level.width := by
  have within := level.slice_within t c
  rw [List.length_take,List.length_drop,← level.storedSize]
  omega

theorem remainder_fits (level : BoundLevel) (voxel : Zyx) :
    (level.stored.index (Zyx.zip (· % ·) voxel level.stored)+1)*level.width ≤ level.chunkByteLayout.canonicalByteSize := by
  obtain ⟨posZ,posY,posX⟩ := level.stored_pos
  rw [level.storedSize]
  exact Zyx.sample_fits ⟨Nat.mod_lt _ posZ,Nat.mod_lt _ posY,Nat.mod_lt _ posX⟩ _

theorem decodeWireChunk_iff {codecs : Codecs} {bytes wire : Bytes} {grid : Zyx} (shortT : t < 2^64) (shortC : c < 2^64) :
    decodeWireChunk codecs bytes (level.info compression) (chunkKeyOf index t c grid) = .ok wire ↔
      ∃ raw, decodeStorageBytes codecs bytes compression = .ok raw ∧ raw.length = level.chunkByteLayout.onDiskByteSize ∧
        wire = (raw.drop (level.chunkByteLayout.sliceRange t c).1).take level.chunkByteLayout.canonicalByteSize := by
  have within := level.slice_within t c
  have some' := level.stored_some
  unfold decodeWireChunk
  rw [parseTC_chunkKeyOf index grid shortT shortC]
  cases opened : decodeStorageBytes codecs bytes (level.info compression).compression with
  | error error =>
    constructor
    · intro never
      cases never
    · intro ⟨raw,other,_⟩
      rw [show decodeStorageBytes codecs bytes compression = .error error from opened] at other
      cases other
  | ok raw =>
    have opened' : decodeStorageBytes codecs bytes compression = .ok raw := opened
    have expected : (level.info compression).chunkByteLayout = level.chunkByteLayout := rfl
    simp only [Except.mapError,bind,Except.bind,expected]
    by_cases sized : raw.length = level.chunkByteLayout.onDiskByteSize
    · rw [if_neg (by omega)]
      simp only [pure,Except.pure,sliceWireChunk_eq sized,Except.ok.injEq]
      constructor
      · intro same
        exact ⟨raw,opened',sized,same.symm⟩
      · intro ⟨other,opened'',_,same⟩
        rw [opened'] at opened''
        cases opened''
        exact same.symm
    · rw [if_pos ⟨by omega,sized⟩]
      constructor
      · intro never
        cases never
      · intro ⟨other,opened'',sized',_⟩
        rw [opened'] at opened''
        cases opened''
        exact absurd sized' sized

end

section
variable (level : BoundLevel) (codecs : Codecs) (compression : StorageCompression) (locate : String → ChunkLocation)
  (store : ChunkLocation → Except ChunkCache.StoreError Bytes)

def fill : Bytes := List.replicate level.width 0

def storedSample (index t c : Nat) (voxel : Zyx) : Option Bytes :=
  match store (locate (chunkKeyOf index t c (Zyx.zip (· / ·) voxel level.stored))) with
  | .error _ => none
  | .ok bytes => match decodeStorageBytes codecs bytes compression with
    | .error _ => none
    | .ok raw => some ((raw.drop ((level.chunkByteLayout.sliceRange t c).1+
        level.stored.index (Zyx.zip (· % ·) voxel level.stored)*level.width)).take level.width)

def Shows (chunkKey : String) (bytes : Bytes) : Prop :=
  bytes.length = level.regrid.chunkByteLayout.canonicalByteSize ∧
  (∀ index t c cell, Addresses chunkKey index t c cell → ∀ p : Zyx, p.All (· < ·) level.served →
    sample level.width bytes (level.served.index p) =
      if level.Inside t c (level.voxel cell p) then
        (level.storedSample codecs compression locate store index t c (level.voxel cell p)).getD level.fill
      else level.fill) ∧
  ((∀ index t c cell, ¬Addresses chunkKey index t c cell) →
    bytes = List.replicate level.regrid.chunkByteLayout.canonicalByteSize 0)

def Overlaps (t c : Nat) (cell grid : Zyx) : Prop :=
  ∃ p : Zyx, p.All (· < ·) level.served ∧ level.Inside t c (level.voxel cell p) ∧
    Zyx.zip (· / ·) (level.voxel cell p) level.stored = grid

def ReadsOnce (chunkKey : String) (reads : List ChunkLocation) : Prop :=
  (∀ index t c cell, Addresses chunkKey index t c cell → ∃ grids : List Zyx, grids.Nodup ∧
    (∀ grid, grid ∈ grids ↔ level.Overlaps t c cell grid) ∧ reads = grids.map fun grid => locate (chunkKeyOf index t c grid)) ∧
  ((∀ index t c cell, ¬Addresses chunkKey index t c cell) → reads = [])

def Readable (chunkKey : String) : Prop :=
  ∀ index t c cell, Addresses chunkKey index t c cell → ∀ grid, level.Overlaps t c cell grid →
    match store (locate (chunkKeyOf index t c grid)) with
    | .error error => isNotFound error = true
    | .ok bytes => ∃ raw, decodeStorageBytes codecs bytes compression = .ok raw ∧
        raw.length = level.chunkByteLayout.onDiskByteSize

def Assembled (index t c : Nat) (cell : Zyx) (done : List Zyx) (state : Bytes × Bool) : Prop :=
  state.1.length = level.served.volume*level.width ∧
  (∀ p : Zyx, p.All (· < ·) level.served → sample level.width state.1 (level.served.index p) =
    if Zyx.zip (· / ·) (level.voxel cell p) level.stored ∈ done ∧ (level.voxel cell p).All (· < ·) (level.plan index t c cell).ends then
      (level.storedSample codecs compression locate store index t c (level.voxel cell p)).getD level.fill
    else level.fill) ∧
  (state.2 = false → state.1 = List.replicate (level.served.volume*level.width) 0)

end

section
variable {codecs : Codecs} {compression : StorageCompression} {locate : String → ChunkLocation}
  {store : ChunkLocation → Except ChunkCache.StoreError Bytes} {index t c : Nat} {cell grid : Zyx} {done : List Zyx} {state state' : Bytes × Bool}

theorem sample_slice {raw : Bytes} {offset size width i : Nat} (fits : (i+1)*width ≤ size) :
    sample width ((raw.drop offset).take size) i = (raw.drop (offset+i*width)).take width := by
  rw [Nat.succ_mul] at fits
  unfold sample
  rw [List.drop_take,List.drop_drop,List.take_take]
  congr 1
  omega

theorem initial_assembled : level.Assembled codecs compression locate store index t c cell []
    (List.replicate level.regrid.chunkByteLayout.canonicalByteSize 0,false) := by
  rw [level.servedSize]
  refine ⟨by simp,fun p inside => ?_,fun _ => rfl⟩
  rw [if_neg (fun never => List.not_mem_nil never.1)]
  exact sample_replicate 0 (Zyx.sample_fits inside level.width)

theorem Assembled.extend {out' : Bytes} (assembled : level.Assembled codecs compression locate store index t c cell done state)
    (sized : out'.length = level.served.volume*level.width)
    (shown : ∀ p : Zyx, p.All (· < ·) level.served → sample level.width out' (level.served.index p) =
      if Zyx.zip (· / ·) (level.voxel cell p) level.stored = grid ∧ (level.voxel cell p).All (· < ·) (level.plan index t c cell).ends then
        (level.storedSample codecs compression locate store index t c (level.voxel cell p)).getD level.fill
      else sample level.width state.1 (level.served.index p)) :
    level.Assembled codecs compression locate store index t c cell (done++[grid]) (out',true) := by
  refine ⟨sized,fun p inside => ?_,fun never => by cases never⟩
  rw [shown p inside,assembled.2.1 p inside]
  simp only [List.mem_append,List.mem_singleton]
  by_cases within : (level.voxel cell p).All (· < ·) (level.plan index t c cell).ends
  · by_cases here : Zyx.zip (· / ·) (level.voxel cell p) level.stored = grid
    · rw [if_pos ⟨here,within⟩,if_pos ⟨.inr here,within⟩]
    · rw [if_neg fun both => here both.1]
      simp only [here,or_false]
  · rw [if_neg fun both => within both.2,if_neg fun both => within both.2,if_neg fun both => within both.2]

theorem Assembled.turn (ranged : level.InRange t c cell) (reaches : (level.plan index t c cell).Reaches)
    (meets : (level.plan index t c cell).Meets grid)
    (assembled : level.Assembled codecs compression locate store index t c cell done state)
    (turned : assembleTurn codecs (level.plan index t c cell) (level.info compression) state
      ((level.plan index t c cell).source grid,store (locate (chunkKeyOf index t c grid))) = .ok state') :
    level.Assembled codecs compression locate store index t c cell (done++[grid]) state' := by
  have sound : (level.plan index t c cell).Sound := plan_sound ranged
  obtain ⟨shortT,shortC⟩ := ranged.short
  unfold assembleTurn at turned
  cases read : store (locate (chunkKeyOf index t c grid)) with
  | error error =>
    simp only [read] at turned
    split at turned
    · cases turned
      refine ⟨assembled.1,fun p inside => ?_,assembled.2.2⟩
      rw [assembled.2.1 p inside]
      simp only [List.mem_append,List.mem_singleton]
      by_cases here : Zyx.zip (· / ·) (level.voxel cell p) level.stored = grid
      · have absent : level.storedSample codecs compression locate store index t c (level.voxel cell p) = none := by
          unfold storedSample
          rw [here,read]
        simp only [absent,Option.getD_none,ite_self]
      · simp only [here,or_false]
    · cases turned
  | ok bytes =>
    simp only [read] at turned
    obtain ⟨wire,decoded,turned⟩ := bind_ok turned
    obtain ⟨out',copied,turned⟩ := bind_ok turned
    cases turned
    obtain ⟨raw,opened,sizedRaw,rfl⟩ := (decodeWireChunk_iff shortT shortC).mp (mapError_ok decoded)
    have wired := slice_length sizedRaw t c
    obtain ⟨out'',copied',sized,shown⟩ := RegridPlan.copy_ok (ε := ChunkReadError) sound reaches
      (show (level.plan index t c cell).Meets ((level.plan index t c cell).source grid).grid from meets) wired assembled.1
    rw [copied] at copied'
    cases copied'
    refine assembled.extend sized fun p inside => (shown p inside).trans ?_
    by_cases here : Zyx.zip (· / ·) (level.voxel cell p) level.stored = grid ∧
        (level.voxel cell p).All (· < ·) (level.plan index t c cell).ends
    · refine (if_pos here).trans (Eq.trans ?_ (if_pos here).symm)
      have held : level.storedSample codecs compression locate store index t c (level.voxel cell p) =
          some ((raw.drop ((level.chunkByteLayout.sliceRange t c).1+
            level.stored.index (Zyx.zip (· % ·) (level.voxel cell p) level.stored)*level.width)).take level.width) := by
        unfold storedSample
        rw [here.1,read]
        dsimp only
        rw [opened]
      rw [held,Option.getD_some]
      exact sample_slice (level.remainder_fits _)
    · exact (if_neg here).trans (if_neg here).symm

theorem Assembled.succeeds (ranged : level.InRange t c cell) (reaches : (level.plan index t c cell).Reaches)
    (meets : (level.plan index t c cell).Meets grid)
    (assembled : level.Assembled codecs compression locate store index t c cell done state)
    (readable : match store (locate (chunkKeyOf index t c grid)) with
      | .error error => isNotFound error = true
      | .ok bytes => ∃ raw, decodeStorageBytes codecs bytes compression = .ok raw ∧
          raw.length = level.chunkByteLayout.onDiskByteSize) :
    ∃ state', assembleTurn codecs (level.plan index t c cell) (level.info compression) state
      ((level.plan index t c cell).source grid,store (locate (chunkKeyOf index t c grid))) = .ok state' := by
  have sound : (level.plan index t c cell).Sound := plan_sound ranged
  obtain ⟨shortT,shortC⟩ := ranged.short
  unfold assembleTurn
  cases read : store (locate (chunkKeyOf index t c grid)) with
  | error error =>
    rw [read] at readable
    exact ⟨state,if_pos readable⟩
  | ok bytes =>
    rw [read] at readable
    obtain ⟨raw,opened,sizedRaw⟩ := readable
    have wired := slice_length sizedRaw t c
    have decoded : decodeWireChunk codecs bytes (level.info compression) (chunkKeyOf index t c grid) = .ok _ :=
      (decodeWireChunk_iff shortT shortC).mpr ⟨raw,opened,sizedRaw,rfl⟩
    obtain ⟨out',copied,_⟩ := RegridPlan.copy_ok (ε := ChunkReadError) sound reaches
      (show (level.plan index t c cell).Meets ((level.plan index t c cell).source grid).grid from meets) wired assembled.1
    refine ⟨(out',true),ok_bind ?_ (ok_bind copied rfl)⟩
    show Except.mapError _ (decodeWireChunk codecs bytes (level.info compression) (chunkKeyOf index t c grid)) = _
    rw [decoded]
    rfl

def Nonempty (level : BoundLevel) : Prop :=
  0 < level.extent "t" ∧ 0 < level.extent "c" ∧ 0 < level.extent "z" ∧ 0 < level.extent "y" ∧ 0 < level.extent "x"

theorem axis_cell {origin ends stored g : Nat} (after : origin ≤ g) (before : g < ends) :
    origin/stored ≤ g/stored ∧ g/stored ≤ (ends-1)/stored :=
  ⟨Nat.div_le_div_right after,Nat.div_le_div_right (by omega)⟩

theorem meets_voxel {p : Zyx} (within : (level.voxel cell p).All (· < ·) (level.plan index t c cell).ends) :
    (level.plan index t c cell).Meets (Zyx.zip (· / ·) (level.voxel cell p) level.stored) :=
  ⟨axis_cell (Nat.le_add_right _ _) within.1,axis_cell (Nat.le_add_right _ _) within.2.1,
    axis_cell (Nat.le_add_right _ _) within.2.2⟩

theorem before_ends {p : Zyx} (inside : p.All (· < ·) level.served) :
    (level.voxel cell p).All (· < ·) (level.plan index t c cell).ends ↔
      (level.voxel cell p).All (· < ·) (.spatial (along level.axes level.regrid.storedShape)) := by
  obtain ⟨insideZ,insideY,insideX⟩ := inside
  simp only [plan,voxel,Zyx.All,Zyx.zip,Zyx.spatial]
  omega

theorem inside_iff {p : Zyx} (ranged : level.InRange t c cell) (nonempty : level.Nonempty) (inside : p.All (· < ·) level.served) :
    level.Inside t c (level.voxel cell p) ↔ (level.voxel cell p).All (· < ·) (level.plan index t c cell).ends := by
  obtain ⟨someT,someC,someZ,someY,someX⟩ := nonempty
  obtain ⟨inT,inC,_⟩ := ranged
  rw [before_ends inside]
  have extents : Zyx.spatial (along level.axes level.regrid.storedShape) = .spatial level.extent := by
    simp only [Zyx.spatial,along_of_pos someZ,along_of_pos someY,along_of_pos someX,extent]
  rw [extents]
  rw [along_of_pos someT] at inT
  rw [along_of_pos someC] at inC
  exact ⟨fun held => held.2.2,fun held => ⟨inT,inC,held⟩⟩

theorem overlaps_iff (ranged : level.InRange t c cell) (nonempty : level.Nonempty) :
    level.Overlaps t c cell grid ↔ (level.plan index t c cell).Meets grid := by
  have sound : (level.plan index t c cell).Sound := plan_sound ranged
  constructor
  · intro ⟨p,inside,held,same⟩
    rw [← same]
    exact meets_voxel ((inside_iff ranged nonempty inside).mp held)
  · intro meets
    -- The first voxel they share.
    obtain ⟨someZ,someY,someX⟩ := RegridPlan.meets_some sound meets
    obtain ⟨clipZ,clipY,clipX⟩ := sound.clipped
    let p : Zyx := Zyx.zip (· - ·) ((level.plan index t c cell).lo grid) (level.origin cell)
    have first : level.voxel cell p = (level.plan index t c cell).lo grid := by
      simp only [voxel,p,RegridPlan.lo,Zyx.zip,plan,Zyx.mk.injEq]
      omega
    have shared := (RegridPlan.voxel_within sound grid p).mp (by
      show Zyx.All _ _ (level.voxel cell p) ∧ Zyx.All _ (level.voxel cell p) _
      rw [first]
      exact ⟨⟨Nat.le_refl _,Nat.le_refl _,Nat.le_refl _⟩,someZ,someY,someX⟩)
    have inside : p.All (· < ·) level.served := by
      obtain ⟨belowZ,belowY,belowX⟩ := shared.2
      simp only [RegridPlan.voxel,Zyx.zip,plan] at belowZ belowY belowX clipZ clipY clipX
      exact ⟨by omega,by omega,by omega⟩
    exact ⟨p,inside,(inside_iff ranged nonempty inside).mpr shared.2,shared.1⟩

variable {chunkKey : String} {resolver : ChunkResolver} {imageId : ImageId} {image : ImageResolver}

theorem read_inside (known : resolver imageId = some image) (named : image.axesNames = level.axes)
    (addressed : Addresses chunkKey index t c cell) (ranged : level.InRange t c cell)
    (reach : (level.origin cell).All (fun start size => start+size < 2^64) level.served) :
    readRegriddedChunk codecs store resolver imageId chunkKey (level.info compression) level.regrid =
      ⟨(level.plan index t c cell).grids.map fun grid => image.locate (chunkKeyOf index t c grid),
        (level.plan index t c cell).grids.foldlM (fun state grid => assembleTurn codecs (level.plan index t c cell)
            (level.info compression) state
            ((level.plan index t c cell).source grid,store (image.locate (chunkKeyOf index t c grid))))
          (List.replicate level.regrid.chunkByteLayout.canonicalByteSize 0,false) >>= fun state =>
          .ok (if state.2 then .present state.1 else .absent level.regrid.chunkByteLayout.canonicalByteSize)⟩ := by
  have sound : (level.plan index t c cell).Sound := plan_sound ranged
  have resolved : (fun source : StoredSource => resolver.resolve imageId source.key) =
      fun source => pure (image.locate source.key) := by
    funext source
    simp only [ChunkResolver.resolve,known,Option.map_some,pure]
  unfold readRegriddedChunk
  simp only [ChunkResolver.axesNames,known,Option.map_some,named,new_ok addressed ranged reach,RegridPlan.storedChunks_ok sound,
    resolved,List.mapM_pure]
  simp only [Option.pure_def,List.map_map,List.zip_map',List.foldlM_map]
  rfl

theorem served_samples {read : ChunkRead} (known : resolver imageId = some image) (named : image.axesNames = level.axes)
    (addressed : Addresses chunkKey index t c cell) (ranged : level.InRange t c cell)
    (reach : (level.origin cell).All (fun start size => start+size < 2^64) level.served) (reaches : (level.plan index t c cell).Reaches)
    (served : (readRegriddedChunk codecs store resolver imageId chunkKey (level.info compression) level.regrid).outcome = .ok read) :
    read.intoBytes.length = level.regrid.chunkByteLayout.canonicalByteSize ∧
    ∀ p : Zyx, p.All (· < ·) level.served → sample level.width read.intoBytes (level.served.index p) =
      if (level.voxel cell p).All (· < ·) (level.plan index t c cell).ends then
        (level.storedSample codecs compression image.locate store index t c (level.voxel cell p)).getD level.fill
      else level.fill := by
  rw [read_inside known named addressed ranged reach] at served
  obtain ⟨⟨out,anyPresent⟩,ran,returned⟩ := bind_ok served
  cases returned
  obtain ⟨sized,shown,untouched⟩ := foldlM_keeps (P := level.Assembled codecs compression image.locate store index t c cell)
    (fun done grid before after member assembled turned => assembled.turn ranged reaches (RegridPlan.mem_grids.mp member) turned)
    initial_assembled ran
  have bytes : (if anyPresent then ChunkRead.present out else .absent level.regrid.chunkByteLayout.canonicalByteSize).intoBytes = out := by
    cases anyPresent with
    | true => rfl
    | false =>
      rw [level.servedSize]
      exact (untouched rfl).symm
  dsimp only
  rw [bytes,level.servedSize]
  refine ⟨sized,fun p inside => ?_⟩
  rw [shown p inside]
  refine if_congr ?_ rfl rfl
  exact ⟨fun both => both.2,fun within => ⟨RegridPlan.mem_grids.mpr (meets_voxel within),within⟩⟩

end

section
variable (level : BoundLevel) (chunkKey : String)

-- Whatever the store holds, a request serves the level, it succeeds where the stored chunks can
-- be read, and it reads each of them once.
def Faithful : Prop :=
  ∀ codecs compression resolver imageId image store, resolver imageId = some image → image.axesNames = level.axes →
    (∀ read, (readRegriddedChunk codecs store resolver imageId chunkKey (level.info compression) level.regrid).outcome = .ok read →
      level.Shows codecs compression image.locate store chunkKey read.intoBytes) ∧
    (level.Readable codecs compression image.locate store chunkKey →
      ∃ read, (readRegriddedChunk codecs store resolver imageId chunkKey (level.info compression) level.regrid).outcome = .ok read) ∧
    level.ReadsOnce image.locate chunkKey
      (readRegriddedChunk codecs store resolver imageId chunkKey (level.info compression) level.regrid).reads

-- A key in range has a level that is not empty, and the ends of its declared chunk and of the
-- last stored chunk under it are words.
def Fits : Prop :=
  ∀ index t c cell, Addresses chunkKey index t c cell → level.InRange t c cell → level.Nonempty ∧
    (level.origin cell).All (fun start size => start+size < 2^64) level.served ∧ (level.plan index t c cell).Reaches

end

section
variable {chunkKey : String}

theorem faithful_outside (outside : ∀ index t c cell, Addresses chunkKey index t c cell → ¬level.InRange t c cell) :
    level.Faithful chunkKey := by
  intro codecs compression resolver imageId image store known named
  have planned : RegridPlan.new (ε := ChunkReadError) chunkKey level.axes (level.info compression) level.regrid = .ok none := by
    by_cases addressed : ∃ index t c cell, Addresses chunkKey index t c cell
    · obtain ⟨index,t,c,cell,addressed⟩ := addressed
      exact new_outside addressed (outside index t c cell addressed)
    · simp only [not_exists] at addressed
      exact new_unaddressed addressed
  have reading : readRegriddedChunk codecs store resolver imageId chunkKey (level.info compression) level.regrid =
      ⟨[],.ok (.absent level.regrid.chunkByteLayout.canonicalByteSize)⟩ := by
    unfold readRegriddedChunk
    simp only [ChunkResolver.axesNames,known,Option.map_some,named,planned]
  have beyond {index t c : Nat} {cell p : Zyx} (addressed : Addresses chunkKey index t c cell)
      (held : level.Inside t c (level.voxel cell p)) : False := by
    refine outside index t c cell addressed ⟨?_,?_,?_,?_,?_⟩
    · exact Nat.lt_of_lt_of_le held.1 (Nat.le_max_left _ _)
    · exact Nat.lt_of_lt_of_le held.2.1 (Nat.le_max_left _ _)
    · exact Nat.lt_of_lt_of_le (Nat.lt_of_le_of_lt (Nat.le_add_right _ p.z) held.2.2.1) (Nat.le_max_left _ _)
    · exact Nat.lt_of_lt_of_le (Nat.lt_of_le_of_lt (Nat.le_add_right _ p.y) held.2.2.2.1) (Nat.le_max_left _ _)
    · exact Nat.lt_of_lt_of_le (Nat.lt_of_le_of_lt (Nat.le_add_right _ p.x) held.2.2.2.2) (Nat.le_max_left _ _)
  rw [reading]
  refine ⟨fun read returned => ?_,fun _ => ⟨_,rfl⟩,fun index t c cell addressed => ?_,fun _ => rfl⟩
  · cases returned
    refine ⟨List.length_replicate,fun index t c cell addressed p inside => ?_,fun _ => rfl⟩
    rw [if_neg (beyond addressed),ChunkRead.intoBytes,level.servedSize]
    exact sample_replicate 0 (Zyx.sample_fits inside level.width)
  · refine ⟨[],List.nodup_nil,fun grid => ⟨fun never => absurd never List.not_mem_nil,fun overlaps => ?_⟩,rfl⟩
    obtain ⟨p,_,held,_⟩ := overlaps
    exact (beyond addressed held).elim

theorem faithful_inside {index t c : Nat} {cell : Zyx} (addressed : Addresses chunkKey index t c cell) (ranged : level.InRange t c cell)
    (nonempty : level.Nonempty) (reach : (level.origin cell).All (fun start size => start+size < 2^64) level.served)
    (reaches : (level.plan index t c cell).Reaches) : level.Faithful chunkKey := by
  intro codecs compression resolver imageId image store known named
  refine ⟨fun read returned => ?_,fun readable => ?_,?_,fun unaddressed => absurd addressed (unaddressed index t c cell)⟩
  · obtain ⟨sized,shown⟩ := served_samples known named addressed ranged reach reaches returned
    refine ⟨sized,fun index' t' c' cell' addressed' p inside => ?_,fun unaddressed => absurd addressed (unaddressed index t c cell)⟩
    obtain ⟨rfl,rfl,rfl,rfl⟩ := addressed.unique addressed'
    rw [shown p inside]
    exact if_congr (inside_iff ranged nonempty inside).symm rfl rfl
  · rw [read_inside known named addressed ranged reach]
    have turns : ∀ done grid before, grid ∈ (level.plan index t c cell).grids →
        level.Assembled codecs compression image.locate store index t c cell done before →
        ∃ after, assembleTurn codecs (level.plan index t c cell) (level.info compression) before
            ((level.plan index t c cell).source grid,store (image.locate (chunkKeyOf index t c grid))) = .ok after ∧
          level.Assembled codecs compression image.locate store index t c cell (done++[grid]) after := by
      intro done grid before member assembled
      have meets := RegridPlan.mem_grids.mp member
      have readable' := readable index t c cell addressed grid ((overlaps_iff ranged nonempty).mpr meets)
      obtain ⟨after,turned⟩ := assembled.succeeds ranged reaches meets readable'
      exact ⟨after,turned,assembled.turn ranged reaches meets turned⟩
    obtain ⟨state,ran,_⟩ := foldlM_reaches turns initial_assembled
    exact ⟨_,ok_bind ran rfl⟩
  · intro index' t' c' cell' addressed'
    obtain ⟨rfl,rfl,rfl,rfl⟩ := addressed.unique addressed'
    rw [read_inside known named addressed ranged reach]
    exact ⟨(level.plan index t c cell).grids,RegridPlan.grids_nodup _,
      fun grid => RegridPlan.mem_grids.trans (overlaps_iff ranged nonempty).symm,rfl⟩

def written (level : BoundLevel) : ChunkLocation → Except ChunkCache.StoreError Bytes := fun _ =>
  .ok (List.replicate level.chunkByteLayout.onDiskByteSize 1)

theorem written_sample {codecs : Codecs} {locate : String → ChunkLocation} (index t c : Nat) (voxel : Zyx) :
    level.storedSample codecs .none locate level.written index t c voxel = some (List.replicate level.width 1) := by
  have within := level.slice_within t c
  have fits := level.remainder_fits voxel
  rw [Nat.succ_mul] at fits
  simp only [storedSample,written,decodeStorageBytes,List.drop_replicate,List.take_replicate]
  congr 2
  omega

theorem last_meets {index t c : Nat} {cell : Zyx} (ranged : level.InRange t c cell) : (level.plan index t c cell).Meets
    (Zyx.zip (fun stop size => (stop-1)/size) (level.plan index t c cell).ends (level.plan index t c cell).stored) := by
  obtain ⟨startZ,startY,startX⟩ := (show (level.plan index t c cell).Sound from plan_sound ranged).starts
  exact ⟨⟨Nat.div_le_div_right (by omega),Nat.le_refl _⟩,⟨Nat.div_le_div_right (by omega),Nat.le_refl _⟩,
    Nat.div_le_div_right (by omega),Nat.le_refl _⟩

-- What a faithful level has to have: its words do not overflow, and the voxel the code serves
-- first is one of the level.
theorem faithful_fits (faithful : level.Faithful chunkKey) : level.Fits chunkKey := by
  intro index t c cell addressed ranged
  let codecs : Codecs := ⟨.ok,.ok,fun _ => .ok⟩
  let image : ImageResolver := ⟨level.axes,.object⟩
  obtain ⟨shows,succeeds,_⟩ := faithful codecs .none (fun _ => some image) "image" image level.written rfl rfl
  have readable : level.Readable codecs .none image.locate level.written chunkKey := by
    intro index t c cell _ grid _
    exact ⟨_,rfl,List.length_replicate⟩
  obtain ⟨read,returned⟩ := succeeds readable
  have reach : (level.origin cell).All (fun start size => start+size < 2^64) level.served := by
    cases planned : RegridPlan.new (ε := ChunkReadError) chunkKey level.axes (level.info .none) level.regrid with
    | ok found => exact new_reaches addressed ranged planned
    | error stop =>
      unfold readRegriddedChunk at returned
      simp only [ChunkResolver.axesNames,Option.map_some,planned,image] at returned
      cases returned
  have reaches : (level.plan index t c cell).Reaches := by
    by_contra past
    rw [read_inside rfl rfl addressed ranged reach] at returned
    obtain ⟨state,ran,_⟩ := bind_ok returned
    refine foldlM_fails (RegridPlan.mem_grids.mpr (last_meets ranged)) (fun before after turned => ?_) ran
    obtain ⟨wire,_,turned⟩ := bind_ok turned
    obtain ⟨out,copied,_⟩ := bind_ok turned
    exact past (RegridPlan.copy_reaches copied)
  obtain ⟨_,shown⟩ := served_samples rfl rfl addressed ranged reach reaches returned
  refine ⟨?_,reach,reaches⟩
  have inside : (⟨0,0,0⟩ : Zyx).All (· < ·) level.served := level.served_pos
  have within : (level.voxel cell ⟨0,0,0⟩).All (· < ·) (level.plan index t c cell).ends := (before_ends inside).mpr ranged.2.2
  have first := shown ⟨0,0,0⟩ inside
  rw [if_pos within,written_sample,Option.getD_some,(shows read returned).2.1 index t c cell addressed ⟨0,0,0⟩ inside] at first
  by_cases held : level.Inside t c (level.voxel cell ⟨0,0,0⟩)
  · exact ⟨Nat.zero_lt_of_lt held.1,Nat.zero_lt_of_lt held.2.1,Nat.zero_lt_of_lt held.2.2.1,Nat.zero_lt_of_lt held.2.2.2.1,
      Nat.zero_lt_of_lt held.2.2.2.2⟩
  · rw [if_neg held,fill] at first
    have positive := level.width_pos
    rcases List.replicate_inj.mp first with ⟨_,none' | never⟩
    · omega
    · cases never

end

theorem regridded_chunks_show_the_level (level : BoundLevel) (chunkKey : String) : level.Faithful chunkKey ↔ level.Fits chunkKey := by
  constructor
  · exact faithful_fits
  · intro fits
    by_cases ranged : ∃ index t c cell, Addresses chunkKey index t c cell ∧ level.InRange t c cell
    · obtain ⟨index,t,c,cell,addressed,ranged⟩ := ranged
      obtain ⟨nonempty,reach,reaches⟩ := fits index t c cell addressed ranged
      exact faithful_inside addressed ranged nonempty reach reaches
    · refine faithful_outside fun index t c cell addressed inRange => ranged ⟨index,t,c,cell,addressed,inRange⟩

-- A level of `rows` rows and three columns, stored in chunks of two by two and declared in
-- chunks of four by four.
def smallLevel (rows : UInt64) : BoundLevel where
  axes := ["y","x"]
  dataType := .uint8
  rawShape := [3,3]
  chunkShape := [2,2]
  chunkByteLayout := ⟨4,4,0,0,1,1⟩
  regrid := ⟨[4,4],⟨16,16,0,0,1,1⟩,[rows,3]⟩
  ordered := by decide
  storedAccepted := by decide
  declaredAccepted := by dsimp only; decide
  storedPositive := by decide
  declaredPositive := by dsimp only; decide

def plainCodecs : Codecs := ⟨.ok,.ok,fun _ => .ok⟩

def smallImage : ImageResolver := ⟨["y","x"],.object⟩

-- Three rows of three are served, and what their chunks hold past them is not.
example : (readRegriddedChunk plainCodecs (fun location => .ok (if location = .object "0/0/0/0/1/1" then [9,99,99,99] else [1,2,3,4]))
    (fun _ => some smallImage) "image" "0/0/0/0/0/0" ((smallLevel 3).info .none) (smallLevel 3).regrid).outcome =
    .ok (.present [1,2,1,0,3,4,3,0,1,2,9,0,0,0,0,0]) := by
  decide

-- A level without rows is served the first row of its chunks.
theorem empty_level_shows_padding :
    (readRegriddedChunk plainCodecs (fun _ => .ok [7,7,7,7]) (fun _ => some smallImage) "image" "0/0/0/0/0/0"
      ((smallLevel 0).info .none) (smallLevel 0).regrid).outcome = .ok (.present [7,7,7,0,0,0,0,0,0,0,0,0,0,0,0,0]) ∧
    ¬(smallLevel 0).Inside 0 0 ⟨0,0,0⟩ ∧ ¬(smallLevel 0).Faithful "0/0/0/0/0/0" := by
  have served : (readRegriddedChunk plainCodecs (fun _ => .ok [7,7,7,7]) (fun _ => some smallImage) "image" "0/0/0/0/0/0"
      ((smallLevel 0).info .none) (smallLevel 0).regrid).outcome = .ok (.present [7,7,7,0,0,0,0,0,0,0,0,0,0,0,0,0]) := by
    decide
  have outside : ¬(smallLevel 0).Inside 0 0 ⟨0,0,0⟩ := by decide
  refine ⟨served,outside,fun faithful => ?_⟩
  obtain ⟨shows,_⟩ := faithful plainCodecs .none (fun _ => some smallImage) "image" smallImage (fun _ => .ok [7,7,7,7]) rfl rfl
  have shown := (shows _ served).2.1 0 0 0 ⟨0,0,0⟩ (by unfold Addresses; decide) ⟨0,0,0⟩ (by decide)
  rw [show (smallLevel 0).voxel ⟨0,0,0⟩ ⟨0,0,0⟩ = ⟨0,0,0⟩ from by decide,if_neg outside] at shown
  exact absurd shown (by decide)

end BoundLevel

end Lucida.Server
