import Mathlib
import Lucida.Core.Chunk

namespace Lucida.Core
open Content Lib

def exactRegion (minX minY maxX maxY : ℚ) (zStart zEnd : Nat) (sortCenter : Option (Point (Extended ℚ))) :
    VisibleRegion (Extended ℚ) :=
  ⟨.finite minX,.finite minY,.finite maxX,.finite maxY,zStart,zEnd,sortCenter,none⟩

def chunkIndex (chunk level full voxel : Nat) : Nat := voxel*level/full/chunk

def chunkOfVoxel (levelGeo fullResGeo : LevelGeometry (Extended ℚ)) (voxel : Cell) : Cell :=
  (chunkIndex levelGeo.chunkShape.z levelGeo.shape.z fullResGeo.shape.z voxel.1,
    chunkIndex levelGeo.chunkShape.y levelGeo.shape.y fullResGeo.shape.y voxel.2.1,
    chunkIndex levelGeo.chunkShape.x levelGeo.shape.x fullResGeo.shape.x voxel.2.2)

structure ShowsVoxel (minX minY maxX maxY : ℚ) (zStart zEnd : Nat) (fullResGeo : LevelGeometry (Extended ℚ))
    (voxel : Cell) : Prop where
  z : zStart ≤ voxel.1 ∧ voxel.1 < zEnd
  y : minY ≤ voxel.2.1 ∧ (voxel.2.1 : ℚ) < maxY
  x : minX ≤ voxel.2.2 ∧ (voxel.2.2 : ℚ) < maxX
  inBounds : voxel.1 < fullResGeo.shape.z ∧ voxel.2.1 < fullResGeo.shape.y ∧ voxel.2.2 < fullResGeo.shape.x

-- The voxel has a voxel at the level, in a chunk short of the grid as the code
-- counts it along each axis.
structure Addressable (levelGeo fullResGeo : LevelGeometry (Extended ℚ)) (voxel : Cell) : Prop where
  level : 0 < levelGeo.shape.z ∧ 0 < levelGeo.shape.y ∧ 0 < levelGeo.shape.x
  z : (chunkOfVoxel levelGeo fullResGeo voxel).1 < asU32 levelGeo.gridShape.z
  y : (chunkOfVoxel levelGeo fullResGeo voxel).2.1 < asU32 levelGeo.gridShape.y
  x : (chunkOfVoxel levelGeo fullResGeo voxel).2.2 < asU32 levelGeo.gridShape.x

section
variable {chunk level full voxel : Nat} {bound size : ℚ}

theorem chunkIndex_eq (chunk level full voxel : Nat) :
    chunkIndex chunk level full voxel = ⌊(voxel : ℚ)/(chunk*(full/level))⌋₊ := by
  have quotient : (voxel : ℚ)/(chunk*(full/level)) = ((voxel*level : Nat) : ℚ)/((full*chunk : Nat) : ℚ) := by
    push_cast
    by_cases empty : (level : ℚ) = 0
    · simp [empty]
    · field_simp
  rw [quotient,Nat.floor_div_eq_div,chunkIndex,Nat.div_div_eq_div_mul]

theorem first_le (positive : 0 < size) (before : bound ≤ voxel) :
    Rounding.toU32 (Numeric.max (Rounding.floor ((.finite bound : Extended ℚ)/.finite size)) 0) ≤ ⌊(voxel : ℚ)/size⌋₊ := by
  rw [Extended.finite_div bound positive.ne']
  have rounded : Numeric.max (Rounding.floor (.finite (bound/size) : Extended ℚ)) 0 = .finite (max (⌊bound/size⌋ : ℚ) 0) :=
    Extended.max_zero _
  rw [rounded]
  refine (Nat.min_le_left _ _).trans (Nat.floor_mono (max_le ?_ (by positivity)))
  exact (Int.floor_le _).trans (by gcongr)

theorem lt_past (positive : 0 < size) (after : (voxel : ℚ) < bound) (short : ⌊(voxel : ℚ)/size⌋₊ < 2^32-1) :
    ⌊(voxel : ℚ)/size⌋₊ < Rounding.toU32 (Numeric.max (Rounding.ceil ((.finite bound : Extended ℚ)/.finite size)) 0) := by
  rw [Extended.finite_div bound positive.ne']
  have rounded : Numeric.max (Rounding.ceil (.finite (bound/size) : Extended ℚ)) 0 = .finite (max (⌈bound/size⌉ : ℚ) 0) :=
    Extended.max_zero _
  rw [rounded]
  refine Nat.lt_min.mpr ⟨?_,short⟩
  have below : (⌊(voxel : ℚ)/size⌋₊ : ℚ) < ⌈bound/size⌉ :=
    calc (⌊(voxel : ℚ)/size⌋₊ : ℚ) ≤ voxel/size := Nat.floor_le (by positivity)
      _ < bound/size := by gcongr
      _ ≤ ⌈bound/size⌉ := Int.le_ceil _
  have next : (⌊(voxel : ℚ)/size⌋₊ : ℚ)+1 ≤ ⌈bound/size⌉ := by
    have whole : ((⌊(voxel : ℚ)/size⌋₊ : Int) : ℚ) < ⌈bound/size⌉ := by exact_mod_cast below
    exact_mod_cast Int.add_one_le_of_lt (Int.cast_lt.mp whole)
  refine Nat.lt_of_succ_le (Nat.le_floor ?_)
  push_cast
  exact next.trans (le_max_left _ _)

-- The z range starts at a voxel, so nothing has to be held at 0.
theorem firstPlane_le {start : Nat} (positive : 0 < size) (before : start ≤ voxel) :
    Rounding.toU32 (Rounding.floor ((Numeric.ofNat start : Extended ℚ)/.finite size)) ≤ ⌊(voxel : ℚ)/size⌋₊ := by
  have divided : (Numeric.ofNat start : Extended ℚ)/.finite size = .finite (start/size) :=
    Extended.finite_div (start : ℚ) positive.ne'
  rw [divided]
  refine (Nat.min_le_left _ _).trans (Nat.floor_mono ((Int.floor_le _).trans ?_))
  gcongr

def axisSize (chunk full level : Nat) : Extended ℚ := Numeric.ofNat chunk*(Numeric.ofNat full/Numeric.ofNat level)

theorem axisSize_eq (chunk full : Nat) (positive : 0 < level) :
    axisSize chunk full level = .finite (chunk*(full/level)) := by
  have scale : (Numeric.ofNat full : Extended ℚ)/Numeric.ofNat level = .finite (full/level) :=
    Extended.finite_div (full : ℚ) (Nat.cast_ne_zero.mpr positive.ne')
  rw [axisSize,scale]
  rfl

theorem past_empty (chunked : 0 < chunk) (some : 0 < full) (bound : ℚ) :
    Rounding.toU32 (Numeric.max (Rounding.ceil ((.finite bound : Extended ℚ)/axisSize chunk full 0)) 0) = 0 := by
  have scale : (Numeric.ofNat full : Extended ℚ)/Numeric.ofNat 0 = .infinite false := by
    have divided := Extended.finite_div_zero (Nat.cast_ne_zero (R := ℚ).mpr some.ne')
    rwa [decide_eq_false (not_lt.mpr (Nat.cast_nonneg full)),← Nat.cast_zero] at divided
  have size : axisSize chunk full 0 = .infinite false := by
    have scaled := Extended.finite_mul_infinite (Nat.cast_ne_zero (R := ℚ).mpr chunked.ne') false
    rw [decide_eq_false (not_lt.mpr (Nat.cast_nonneg chunk))] at scaled
    rw [axisSize,scale]
    exact scaled
  rw [size,Extended.finite_div_infinite]
  decide +kernel

theorem axisSize_pos (chunked : 0 < chunk) (positive : 0 < level) (inside : voxel < full) :
    0 < (chunk*(full/level) : ℚ) := by
  have filled : 0 < full := inside.pos
  positivity

theorem axis_covers {low high : ℚ} (chunked : 0 < chunk) (inside : voxel < full) (before : low ≤ voxel)
    (after : (voxel : ℚ) < high) {grid : Nat} (positive : 0 < level) (short : chunkIndex chunk level full voxel < asU32 grid) :
    Rounding.toU32 (Numeric.max (Rounding.floor ((.finite low : Extended ℚ)/axisSize chunk full level)) 0) ≤
        chunkIndex chunk level full voxel ∧
      chunkIndex chunk level full voxel <
        min (Rounding.toU32 (Numeric.max (Rounding.ceil ((.finite high : Extended ℚ)/axisSize chunk full level)) 0)) (asU32 grid) := by
  have counted : asU32 grid < 2^32 := Nat.mod_lt _ (by decide)
  have sized := axisSize_pos chunked positive inside
  rw [axisSize_eq chunk full positive]
  refine ⟨?_,Nat.lt_min.mpr ⟨?_,short⟩⟩
  · rw [chunkIndex_eq]
    exact first_le sized before
  · have below : chunkIndex chunk level full voxel < 2^32-1 := by omega
    rw [chunkIndex_eq] at below ⊢
    exact lt_past sized after below

end

section
variable {minX minY maxX maxY : ℚ} {zStart zEnd t c : Nat} {sortCenter : Option (Point (Extended ℚ))}
  {levelGeo fullResGeo : LevelGeometry (Extended ℚ)} {voxel : Cell}

structure CoversRegion (minX minY maxX maxY : ℚ) (zStart zEnd : Nat) (sortCenter : Option (Point (Extended ℚ)))
    (levelGeo : LevelGeometry (Extended ℚ)) (t c : Nat) (fullResGeo : LevelGeometry (Extended ℚ)) : Prop where
  covered : ∀ voxel, ShowsVoxel minX minY maxX maxY zStart zEnd fullResGeo voxel →
    coordOf levelGeo t c (chunkOfVoxel levelGeo fullResGeo voxel) ∈
      visibleChunks (exactRegion minX minY maxX maxY zStart zEnd sortCenter) levelGeo t c fullResGeo
  inGrid : ∀ chunk ∈ visibleChunks (exactRegion minX minY maxX maxY zStart zEnd sortCenter) levelGeo t c fullResGeo,
    chunk.z < levelGeo.gridShape.z ∧ chunk.y < levelGeo.gridShape.y ∧ chunk.x < levelGeo.gridShape.x

theorem mem_exact_iff {cell : Cell} :
    coordOf levelGeo t c cell ∈ visibleChunks (exactRegion minX minY maxX maxY zStart zEnd sortCenter) levelGeo t c fullResGeo ↔
      cell ∈ (visibleBox (exactRegion minX minY maxX maxY zStart zEnd sortCenter) levelGeo fullResGeo).cells := by
  rw [mem_visibleChunks]
  constructor
  · rintro ⟨cell',within,-,same⟩
    rwa [← coordOf_injective same]
  · intro within
    exact ⟨cell,within,rfl,rfl⟩

theorem visible_inGrid {region : VisibleRegion (Extended ℚ)} {chunk : ChunkCoord}
    (returned : chunk ∈ visibleChunks region levelGeo t c fullResGeo) :
    chunk.z < levelGeo.gridShape.z ∧ chunk.y < levelGeo.gridShape.y ∧ chunk.x < levelGeo.gridShape.x := by
  obtain ⟨cell,within,-,rfl⟩ := mem_visibleChunks.mp returned
  obtain ⟨z,row,col⟩ := mem_cells.mp within
  have clipped : ∀ {index past grid}, index < min past (asU32 grid) → index < grid := fun short =>
    (Nat.lt_min.mp short).2.trans_le (Nat.mod_le _ _)
  exact ⟨clipped z.2,clipped row.2,clipped col.2⟩

theorem level_pos_of_past {chunk level full voxel index grid : Nat} {bound : ℚ} (chunked : 0 < chunk) (inside : voxel < full)
    (returned : index < min (Rounding.toU32 (Numeric.max (Rounding.ceil ((.finite bound : Extended ℚ)/axisSize chunk full level)) 0)) grid) :
    0 < level := by
  by_contra empty
  rw [Nat.eq_zero_of_not_pos empty,past_empty chunked inside.pos bound] at returned
  exact absurd (Nat.lt_min.mp returned).1 (Nat.not_lt_zero index)

theorem chunkIndex_lt {chunk level full voxel grid : Nat} (positive : 0 < level) (inside : voxel < full)
    (spanned : level ≤ chunk*grid) : chunkIndex chunk level full voxel < grid := by
  have scaled : voxel*level/full < level := Nat.div_lt_of_lt_mul (Nat.mul_lt_mul_of_pos_right inside positive)
  exact Nat.div_lt_of_lt_mul (scaled.trans_le spanned)

theorem addressable_of_counted (shown : ShowsVoxel minX minY maxX maxY zStart zEnd fullResGeo voxel)
    (level : 0 < levelGeo.shape.z ∧ 0 < levelGeo.shape.y ∧ 0 < levelGeo.shape.x)
    (spanZ : levelGeo.shape.z ≤ levelGeo.chunkShape.z*levelGeo.gridShape.z)
    (spanY : levelGeo.shape.y ≤ levelGeo.chunkShape.y*levelGeo.gridShape.y)
    (spanX : levelGeo.shape.x ≤ levelGeo.chunkShape.x*levelGeo.gridShape.x)
    (counted : levelGeo.gridShape.z < 2^32 ∧ levelGeo.gridShape.y < 2^32 ∧ levelGeo.gridShape.x < 2^32) :
    Addressable levelGeo fullResGeo voxel := by
  obtain ⟨inZ,inY,inX⟩ := shown.inBounds
  refine ⟨level,?_,?_,?_⟩
  · rw [asU32,Nat.mod_eq_of_lt counted.1]
    exact chunkIndex_lt level.1 inZ spanZ
  · rw [asU32,Nat.mod_eq_of_lt counted.2.1]
    exact chunkIndex_lt level.2.1 inY spanY
  · rw [asU32,Nat.mod_eq_of_lt counted.2.2]
    exact chunkIndex_lt level.2.2 inX spanX

theorem chunk_coverage_iff (minX minY maxX maxY : ℚ) (zStart zEnd : Nat) (sortCenter : Option (Point (Extended ℚ)))
    (levelGeo : LevelGeometry (Extended ℚ)) (t c : Nat) (fullResGeo : LevelGeometry (Extended ℚ))
    (chunkedZ : 1 ≤ levelGeo.chunkShape.z) (chunkedY : 1 ≤ levelGeo.chunkShape.y) (chunkedX : 1 ≤ levelGeo.chunkShape.x) :
    CoversRegion minX minY maxX maxY zStart zEnd sortCenter levelGeo t c fullResGeo ↔
      ∀ voxel, ShowsVoxel minX minY maxX maxY zStart zEnd fullResGeo voxel → Addressable levelGeo fullResGeo voxel := by
  constructor
  · intro covers voxel shown
    obtain ⟨z,row,col⟩ := mem_cells.mp (mem_exact_iff.mp (covers.covered voxel shown))
    obtain ⟨inZ,inY,inX⟩ := shown.inBounds
    exact ⟨⟨level_pos_of_past chunkedZ inZ z.2,level_pos_of_past chunkedY inY row.2,level_pos_of_past chunkedX inX col.2⟩,
      (Nat.lt_min.mp z.2).2,(Nat.lt_min.mp row.2).2,(Nat.lt_min.mp col.2).2⟩
  · intro addressable
    refine ⟨fun voxel shown => mem_exact_iff.mpr (mem_cells.mpr ?_),fun chunk => visible_inGrid⟩
    obtain ⟨⟨levelZ,levelY,levelX⟩,shortZ,shortY,shortX⟩ := addressable voxel shown
    obtain ⟨inZ,inY,inX⟩ := shown.inBounds
    refine ⟨⟨?_,?_⟩,axis_covers chunkedY inY shown.y.1 shown.y.2 levelY shortY,
      axis_covers chunkedX inX shown.x.1 shown.x.2 levelX shortX⟩
    · have sized := axisSize_pos chunkedZ levelZ inZ
      have start := firstPlane_le sized shown.z.1
      rw [← chunkIndex_eq,← axisSize_eq levelGeo.chunkShape.z fullResGeo.shape.z levelZ] at start
      exact start
    · exact (axis_covers chunkedZ inZ (Nat.cast_nonneg voxel.1) (Nat.cast_lt.mpr shown.z.2) levelZ shortZ).2

end

def unitScale : Axes (Extended ℚ) := ⟨.finite 1,.finite 1,.finite 1,.finite 1,.finite 1⟩

-- A level of 256 by 256 in chunks of 100, under one of 511 by 511.
theorem chunk_coverage_at_partial_chunks :
    CoversRegion (1/2) (-3) 510 (1021/2) 0 1 none
      ⟨1,⟨1,1,1,256,256⟩,⟨1,1,1,100,100⟩,⟨1,1,1,3,3⟩,unitScale⟩ 0 0 ⟨0,⟨1,1,1,511,511⟩,⟨1,1,1,100,100⟩,⟨1,1,1,6,6⟩,unitScale⟩ :=
  (chunk_coverage_iff _ _ _ _ _ _ _ _ _ _ _ (by decide) (by decide) (by decide)).mpr fun _ shown =>
    addressable_of_counted shown (by decide) (by decide) (by decide) (by decide) (by decide)

theorem chunks_of_a_long_row_are_missed :
    ¬CoversRegion 0 0 1 1 0 1 none ⟨0,⟨1,1,1,1,2^32⟩,⟨1,1,1,1,1⟩,⟨1,1,1,1,2^32⟩,unitScale⟩ 0 0
      ⟨0,⟨1,1,1,1,2^32⟩,⟨1,1,1,1,1⟩,⟨1,1,1,1,2^32⟩,unitScale⟩ := by
  intro covers
  have shown : ShowsVoxel 0 0 1 1 0 1 ⟨0,⟨1,1,1,1,2^32⟩,⟨1,1,1,1,1⟩,⟨1,1,1,1,2^32⟩,unitScale⟩ (0,0,0) :=
    ⟨by decide,by norm_num,by norm_num,by decide⟩
  have returned := mem_cells.mp (mem_exact_iff.mp (covers.covered (0,0,0) shown))
  exact Nat.not_lt_zero _ (Nat.lt_min.mp returned.2.2.2).2

end Lucida.Core
