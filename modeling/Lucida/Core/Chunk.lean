import Mathlib
import Lucida.Core.TargetLevel

namespace Lucida.Core
open Content Lib

-- Rounding and the cast to a `u32`, with no law assumed but the range of the cast.
class Rounding (R : Type) extends Numeric R where
  floor : R → R
  ceil : R → R
  toU32 : R → Nat
  toU32_lt : ∀ number, toU32 number < 2^32

instance {K : Type} [Field K] [LinearOrder K] [FloorRing K] [QuarterOctave K] : Rounding (Extended K) where
  floor := Extended.floor
  ceil := Extended.ceil
  toU32 := Extended.toBelow (2^32)
  toU32_lt := Extended.toBelow_lt (by decide)

structure ChunkCoord where
  level : Nat
  x : Nat
  y : Nat
  z : Nat
  t : Nat
  c : Nat
  deriving DecidableEq, Repr

structure Point (R : Type) where
  x : R
  y : R
  z : R
  deriving DecidableEq, Repr

-- `ax + by + cz + d >= 0` is inside.
structure Plane (R : Type) where
  a : R
  b : R
  c : R
  d : R
  deriving DecidableEq, Repr

structure VisibleRegion (R : Type) where
  minX : R
  minY : R
  maxX : R
  maxY : R
  zStart : Nat
  zEnd : Nat
  sortCenter : Option (Point R)
  frustumPlanes : Option (Vector (Plane R) 6)

structure ChunkBox where
  colStart : Nat
  colEnd : Nat
  rowStart : Nat
  rowEnd : Nat
  zStart : Nat
  zEnd : Nat
  deriving DecidableEq, Repr

-- A cell of the grid, by z, row and column.
abbrev Cell := Nat × Nat × Nat

def ChunkBox.cells (box : ChunkBox) : List Cell :=
  List.Ico box.zStart box.zEnd ×ˢ (List.Ico box.rowStart box.rowEnd ×ˢ List.Ico box.colStart box.colEnd)

section
variable {R : Type} [Rounding R] (region : VisibleRegion R) (levelGeo : LevelGeometry R) (t c : Nat)
  (fullResGeo : LevelGeometry R)

def chunkOutsideFrustum (min max : Point R) (planes : Vector (Plane R) 6) : Bool :=
  planes.toList.any fun plane =>
    let px := if Numeric.le 0 plane.a then max.x else min.x
    let py := if Numeric.le 0 plane.b then max.y else min.y
    let pz := if Numeric.le 0 plane.c then max.z else min.z
    Numeric.lt (plane.a*px+plane.b*py+plane.c*pz+plane.d) 0

def chunkWorld : Point R :=
  let size (chunk full level : Nat) : R := Numeric.ofNat chunk*(Numeric.ofNat full/Numeric.ofNat level)
  { x := size levelGeo.chunkShape.x fullResGeo.shape.x levelGeo.shape.x
    y := size levelGeo.chunkShape.y fullResGeo.shape.y levelGeo.shape.y
    z := size levelGeo.chunkShape.z fullResGeo.shape.z levelGeo.shape.z }

def visibleBox : ChunkBox :=
  let world := chunkWorld levelGeo fullResGeo
  let first (bound size : R) : Nat := Rounding.toU32 (Numeric.max (Rounding.floor (bound/size)) 0)
  let past (bound size : R) : Nat := Rounding.toU32 (Numeric.max (Rounding.ceil (bound/size)) 0)
  { colStart := first region.minX world.x
    colEnd := min (past region.maxX world.x) (asU32 levelGeo.gridShape.x)
    rowStart := first region.minY world.y
    rowEnd := min (past region.maxY world.y) (asU32 levelGeo.gridShape.y)
    zStart := Rounding.toU32 (Rounding.floor (Numeric.ofNat region.zStart/world.z))
    zEnd := min (past (Numeric.ofNat region.zEnd) world.z) (asU32 levelGeo.gridShape.z) }

-- The frustum, if there is one, does not reach the cell.
def culled (cell : Cell) : Bool :=
  match region.frustumPlanes with
  | none => false
  | some planes =>
    let world := chunkWorld levelGeo fullResGeo
    let corner (z row col : Nat) : Point R :=
      ⟨Numeric.ofNat col*world.x,Numeric.ofNat row*world.y,Numeric.ofNat z*world.z⟩
    chunkOutsideFrustum (corner cell.1 cell.2.1 cell.2.2)
      (corner (asU32 (cell.1+1)) (asU32 (cell.2.1+1)) (asU32 (cell.2.2+1))) planes

def coordOf (cell : Cell) : ChunkCoord := ⟨levelGeo.levelIndex,cell.2.2,cell.2.1,cell.1,t,c⟩

def sortCenterOf : Point R :=
  let world := chunkWorld levelGeo fullResGeo
  match region.sortCenter with
  | some center => ⟨center.x/world.x,center.y/world.y,center.z/world.z⟩
  | none =>
    let box := visibleBox region levelGeo fullResGeo
    let middle (first past : Nat) : R := Numeric.ofNat (asU32 (first+past))/Numeric.ofNat 2
    ⟨middle box.colStart box.colEnd,middle box.rowStart box.rowEnd,middle box.zStart box.zEnd⟩

-- `sort_by` is stable, and what cannot be compared counts as equal.
def sortCenterOut (chunks : List ChunkCoord) : List ChunkCoord :=
  let center := sortCenterOf region levelGeo fullResGeo
  let away (index : Nat) (center : R) : R :=
    let offset := Numeric.ofNat index+Numeric.half-center
    offset*offset
  let distance (chunk : ChunkCoord) : R := away chunk.x center.x+away chunk.y center.y+away chunk.z center.z
  chunks.mergeSort fun a b => !Numeric.lt (distance b) (distance a)

def visibleChunks : List ChunkCoord :=
  let box := visibleBox region levelGeo fullResGeo
  let chunks := (box.cells.filter fun cell => !culled region levelGeo fullResGeo cell).map (coordOf levelGeo t c)
  sortCenterOut region levelGeo fullResGeo chunks

-- One chunk more on either side in x and y, as far as the grid goes. The
-- additions wrap.
def expandedBox : ChunkBox :=
  let box := visibleBox region levelGeo fullResGeo
  { box with
    colStart := box.colStart-1
    colEnd := min (asU32 (box.colEnd+1)) (asU32 levelGeo.gridShape.x)
    rowStart := box.rowStart-1
    rowEnd := min (asU32 (box.rowEnd+1)) (asU32 levelGeo.gridShape.y) }

def ChunkBox.inVisible (box : ChunkBox) (cell : Cell) : Bool :=
  box.colStart ≤ cell.2.2 && cell.2.2 < box.colEnd && box.rowStart ≤ cell.2.1 && cell.2.1 < box.rowEnd

-- One round of the loop: a cell is left out, needed, or prefetched.
def placeCell (plan : List ChunkCoord × List ChunkCoord) (cell : Cell) : List ChunkCoord × List ChunkCoord :=
  if culled region levelGeo fullResGeo cell then plan
  else if (visibleBox region levelGeo fullResGeo).inVisible cell then (plan.1 ++ [coordOf levelGeo t c cell],plan.2)
  else (plan.1,plan.2 ++ [coordOf levelGeo t c cell])

def visibleAndPrefetchChunks : List ChunkCoord × List ChunkCoord :=
  let plan := (expandedBox region levelGeo fullResGeo).cells.foldl (placeCell region levelGeo t c fullResGeo) ([],[])
  (sortCenterOut region levelGeo fullResGeo plan.1,sortCenterOut region levelGeo fullResGeo plan.2)

end

theorem mem_cells {box : ChunkBox} {cell : Cell} :
    cell ∈ box.cells ↔ (box.zStart ≤ cell.1 ∧ cell.1 < box.zEnd) ∧
      (box.rowStart ≤ cell.2.1 ∧ cell.2.1 < box.rowEnd) ∧ box.colStart ≤ cell.2.2 ∧ cell.2.2 < box.colEnd := by
  obtain ⟨z,row,col⟩ := cell
  simp only [ChunkBox.cells,List.mem_product,List.Ico.mem]

theorem cells_nodup (box : ChunkBox) : box.cells.Nodup :=
  (List.Ico.nodup _ _).product ((List.Ico.nodup _ _).product (List.Ico.nodup _ _))

theorem filter_product {α β : Type} (xs : List α) (ys : List β) (p : α → Bool) (q : β → Bool) :
    (xs ×ˢ ys).filter (fun pair => p pair.1 && q pair.2) = xs.filter p ×ˢ ys.filter q := by
  induction xs with
  | nil => rfl
  | cons x xs hypothesis =>
    rw [List.product_cons,List.filter_append,hypothesis,List.filter_map]
    cases test : p x with
    | true =>
      rw [List.filter_cons_of_pos test,List.product_cons]
      simp only [Function.comp_def,test,Bool.true_and]
    | false =>
      rw [List.filter_cons_of_neg (by simp [test])]
      simp [Function.comp_def,test]

theorem filter_range {first past first' past' : Nat} (after : first' ≤ first) (before : past ≤ past') :
    (List.Ico first' past').filter (fun index => first ≤ index && index < past) = List.Ico first past := by
  have split : (List.Ico first' past').filter (fun index => first ≤ index && index < past) =
      ((List.Ico first' past').filter fun index => index < past).filter fun index => first ≤ index := by
    rw [List.filter_filter]
  rw [split,List.Ico.filter_lt,List.Ico.filter_le,Nat.min_eq_right before,Nat.max_eq_right after]

theorem filter_inVisible {box around : ChunkBox} (start : around.zStart = box.zStart) (stop : around.zEnd = box.zEnd)
    (colStart : around.colStart ≤ box.colStart) (colEnd : box.colEnd ≤ around.colEnd)
    (rowStart : around.rowStart ≤ box.rowStart) (rowEnd : box.rowEnd ≤ around.rowEnd) :
    around.cells.filter box.inVisible = box.cells := by
  have columns := filter_range colStart colEnd
  have rows := filter_range rowStart rowEnd
  have plane := filter_product (List.Ico around.rowStart around.rowEnd) (List.Ico around.colStart around.colEnd)
    (fun row => box.rowStart ≤ row && row < box.rowEnd) (fun col => box.colStart ≤ col && col < box.colEnd)
  have space := filter_product (List.Ico around.zStart around.zEnd)
    (List.Ico around.rowStart around.rowEnd ×ˢ List.Ico around.colStart around.colEnd) (fun _ => true)
    (fun cell => (box.rowStart ≤ cell.1 && cell.1 < box.rowEnd) && (box.colStart ≤ cell.2 && cell.2 < box.colEnd))
  rw [plane,columns,rows,List.filter_eq_self.mpr fun _ _ => rfl] at space
  unfold ChunkBox.cells
  rw [← start,← stop,← space]
  refine List.filter_congr fun cell _ => ?_
  simp only [ChunkBox.inVisible,Bool.true_and]
  rw [Bool.and_assoc,Bool.and_comm]

section
variable {R : Type} [Rounding R] {region : VisibleRegion R} {levelGeo : LevelGeometry R} {t c : Nat}
  {fullResGeo : LevelGeometry R}

omit [Rounding R] in
theorem coordOf_injective : Function.Injective (coordOf levelGeo t c) := by
  rintro ⟨z,row,col⟩ ⟨z',row',col'⟩ same
  obtain ⟨-,rfl,rfl,rfl,-,-⟩ := ChunkCoord.mk.inj same
  rfl

-- What the loop gathers: the cells that are not culled, by whether they are in the visible box.
theorem foldl_placeCell (cells : List Cell) (plan : List ChunkCoord × List ChunkCoord) :
    cells.foldl (placeCell region levelGeo t c fullResGeo) plan =
      let kept := cells.filter fun cell => !culled region levelGeo fullResGeo cell
      let visible := (visibleBox region levelGeo fullResGeo).inVisible
      (plan.1 ++ (kept.filter visible).map (coordOf levelGeo t c),
        plan.2 ++ (kept.filter fun cell => !visible cell).map (coordOf levelGeo t c)) := by
  induction cells generalizing plan with
  | nil => simp
  | cons cell cells hypothesis =>
    rw [List.foldl_cons,hypothesis]
    cases outside : culled region levelGeo fullResGeo cell with
    | true => simp [placeCell,outside]
    | false =>
      cases inside : (visibleBox region levelGeo fullResGeo).inVisible cell with
      | true => simp [placeCell,outside,inside]
      | false => simp [placeCell,outside,inside]

theorem sortCenterOut_perm (chunks : List ChunkCoord) : (sortCenterOut region levelGeo fullResGeo chunks).Perm chunks :=
  List.mergeSort_perm chunks _

-- The visible box grown by one ring in x and y and clipped to the grid, less what the frustum leaves out.
structure InGrownBox (region : VisibleRegion R) (levelGeo fullResGeo : LevelGeometry R) (cell : Cell) : Prop where
  z : (visibleBox region levelGeo fullResGeo).zStart ≤ cell.1 ∧ cell.1 < (visibleBox region levelGeo fullResGeo).zEnd
  row : (visibleBox region levelGeo fullResGeo).rowStart ≤ cell.2.1+1 ∧
    cell.2.1 < (visibleBox region levelGeo fullResGeo).rowEnd+1
  col : (visibleBox region levelGeo fullResGeo).colStart ≤ cell.2.2+1 ∧
    cell.2.2 < (visibleBox region levelGeo fullResGeo).colEnd+1
  rowGrid : cell.2.1 < levelGeo.gridShape.y
  colGrid : cell.2.2 < levelGeo.gridShape.x
  kept : culled region levelGeo fullResGeo cell = false

structure PlansChunks (region : VisibleRegion R) (levelGeo : LevelGeometry R) (t c : Nat) (fullResGeo : LevelGeometry R) :
    Prop where
  needed : (visibleAndPrefetchChunks region levelGeo t c fullResGeo).1 = visibleChunks region levelGeo t c fullResGeo
  disjoint : (visibleAndPrefetchChunks region levelGeo t c fullResGeo).1.Disjoint
    (visibleAndPrefetchChunks region levelGeo t c fullResGeo).2
  neededNodup : (visibleAndPrefetchChunks region levelGeo t c fullResGeo).1.Nodup
  prefetchNodup : (visibleAndPrefetchChunks region levelGeo t c fullResGeo).2.Nodup
  union : ∀ chunk, chunk ∈ (visibleAndPrefetchChunks region levelGeo t c fullResGeo).1 ∨
    chunk ∈ (visibleAndPrefetchChunks region levelGeo t c fullResGeo).2 ↔
      ∃ cell, InGrownBox region levelGeo fullResGeo cell ∧ coordOf levelGeo t c cell = chunk

-- The ring around the box keeps within 32 bits at the cell: the end of the box
-- can be moved up by one, and the cell is short of the grid as the code counts it.
def RingFits (region : VisibleRegion R) (levelGeo fullResGeo : LevelGeometry R) (cell : Cell) : Prop :=
  ((visibleBox region levelGeo fullResGeo).colEnd+1 < 2^32 ∧ cell.2.2 < asU32 levelGeo.gridShape.x) ∧
    (visibleBox region levelGeo fullResGeo).rowEnd+1 < 2^32 ∧ cell.2.1 < asU32 levelGeo.gridShape.y

theorem mem_needed {chunk : ChunkCoord} : chunk ∈ (visibleAndPrefetchChunks region levelGeo t c fullResGeo).1 ↔
    ∃ cell ∈ (expandedBox region levelGeo fullResGeo).cells, culled region levelGeo fullResGeo cell = false ∧
      (visibleBox region levelGeo fullResGeo).inVisible cell = true ∧ coordOf levelGeo t c cell = chunk := by
  unfold visibleAndPrefetchChunks
  dsimp only
  rw [(sortCenterOut_perm _).mem_iff,foldl_placeCell]
  simp only [List.nil_append,List.mem_map,List.mem_filter,Bool.not_eq_true']
  exact exists_congr fun cell => by tauto

theorem mem_prefetch {chunk : ChunkCoord} : chunk ∈ (visibleAndPrefetchChunks region levelGeo t c fullResGeo).2 ↔
    ∃ cell ∈ (expandedBox region levelGeo fullResGeo).cells, culled region levelGeo fullResGeo cell = false ∧
      (visibleBox region levelGeo fullResGeo).inVisible cell = false ∧ coordOf levelGeo t c cell = chunk := by
  unfold visibleAndPrefetchChunks
  dsimp only
  rw [(sortCenterOut_perm _).mem_iff,foldl_placeCell]
  simp only [List.nil_append,List.mem_map,List.mem_filter,Bool.not_eq_true']
  exact exists_congr fun cell => by tauto

theorem mem_visibleChunks {chunk : ChunkCoord} : chunk ∈ visibleChunks region levelGeo t c fullResGeo ↔
    ∃ cell ∈ (visibleBox region levelGeo fullResGeo).cells, culled region levelGeo fullResGeo cell = false ∧
      coordOf levelGeo t c cell = chunk := by
  unfold visibleChunks
  dsimp only
  rw [(sortCenterOut_perm _).mem_iff]
  simp only [List.mem_map,List.mem_filter,Bool.not_eq_true',and_assoc]

theorem disjoint_plan : (visibleAndPrefetchChunks region levelGeo t c fullResGeo).1.Disjoint
    (visibleAndPrefetchChunks region levelGeo t c fullResGeo).2 := by
  intro chunk here there
  obtain ⟨cell,_,_,inside,rfl⟩ := mem_needed.mp here
  obtain ⟨cell',_,_,outside,same⟩ := mem_prefetch.mp there
  rw [coordOf_injective same,inside] at outside
  cases outside

theorem nodup_plan : (visibleAndPrefetchChunks region levelGeo t c fullResGeo).1.Nodup ∧
    (visibleAndPrefetchChunks region levelGeo t c fullResGeo).2.Nodup := by
  unfold visibleAndPrefetchChunks
  dsimp only
  rw [(sortCenterOut_perm _).nodup_iff,(sortCenterOut_perm _).nodup_iff,foldl_placeCell]
  simp only [List.nil_append]
  exact ⟨(((cells_nodup _).filter _).filter _).map coordOf_injective,(((cells_nodup _).filter _).filter _).map coordOf_injective⟩

theorem mem_plan {chunk : ChunkCoord} : (chunk ∈ (visibleAndPrefetchChunks region levelGeo t c fullResGeo).1 ∨
    chunk ∈ (visibleAndPrefetchChunks region levelGeo t c fullResGeo).2) ↔
      ∃ cell ∈ (expandedBox region levelGeo fullResGeo).cells, culled region levelGeo fullResGeo cell = false ∧
        coordOf levelGeo t c cell = chunk := by
  rw [mem_needed,mem_prefetch]
  constructor
  · rintro (⟨cell,within,kept,-,same⟩ | ⟨cell,within,kept,-,same⟩)
    · exact ⟨cell,within,kept,same⟩
    · exact ⟨cell,within,kept,same⟩
  · rintro ⟨cell,within,kept,same⟩
    cases inside : (visibleBox region levelGeo fullResGeo).inVisible cell with
    | true => exact .inl ⟨cell,within,kept,inside,same⟩
    | false => exact .inr ⟨cell,within,kept,inside,same⟩

theorem colEnd_le : (visibleBox region levelGeo fullResGeo).colEnd ≤ asU32 levelGeo.gridShape.x := Nat.min_le_right _ _

theorem rowEnd_le : (visibleBox region levelGeo fullResGeo).rowEnd ≤ asU32 levelGeo.gridShape.y := Nat.min_le_right _ _

theorem lt_wrapped_iff {past grid index : Nat} (within : past ≤ asU32 grid) (near : index < past+1) :
    index < min (asU32 (past+1)) (asU32 grid) ↔ past+1 < 2^32 ∧ index < asU32 grid := by
  have short : asU32 grid < 2^32 := Nat.mod_lt _ (by decide)
  rw [Nat.lt_min]
  by_cases fits : past+1 < 2^32
  · have same : asU32 (past+1) = past+1 := Nat.mod_eq_of_lt fits
    rw [same]
    tauto
  · have wraps : asU32 (past+1) = 0 := by
      have full : past+1 = 2^32 := by omega
      rw [full]
      rfl
    rw [wraps]
    omega

theorem mem_expandedBox_iff {cell : Cell} :
    cell ∈ (expandedBox region levelGeo fullResGeo).cells ∧ culled region levelGeo fullResGeo cell = false ↔
      InGrownBox region levelGeo fullResGeo cell ∧ RingFits region levelGeo fullResGeo cell := by
  rw [mem_cells]
  have wrapped : ∀ past, asU32 (past+1) ≤ past+1 := fun past => Nat.mod_le _ _
  have clipped : ∀ grid, asU32 grid ≤ grid := fun grid => Nat.mod_le _ _
  dsimp only [expandedBox]
  constructor
  · rintro ⟨⟨z,row,col⟩,kept⟩
    have nearRow := (Nat.lt_min.mp row.2).1.trans_le (wrapped _)
    have nearCol := (Nat.lt_min.mp col.2).1.trans_le (wrapped _)
    have fitsRow := (lt_wrapped_iff rowEnd_le nearRow).mp row.2
    have fitsCol := (lt_wrapped_iff colEnd_le nearCol).mp col.2
    exact ⟨⟨z,⟨Nat.sub_le_iff_le_add.mp row.1,nearRow⟩,⟨Nat.sub_le_iff_le_add.mp col.1,nearCol⟩,
      fitsRow.2.trans_le (clipped _),fitsCol.2.trans_le (clipped _),kept⟩,fitsCol,fitsRow⟩
  · rintro ⟨grown,fitsCol,fitsRow⟩
    exact ⟨⟨grown.z,⟨Nat.sub_le_iff_le_add.mpr grown.row.1,(lt_wrapped_iff rowEnd_le grown.row.2).mpr fitsRow⟩,
      Nat.sub_le_iff_le_add.mpr grown.col.1,(lt_wrapped_iff colEnd_le grown.col.2).mpr fitsCol⟩,grown.kept⟩

theorem inGrownBox_of_visible {cell : Cell} (within : cell ∈ (visibleBox region levelGeo fullResGeo).cells)
    (kept : culled region levelGeo fullResGeo cell = false) : InGrownBox region levelGeo fullResGeo cell := by
  obtain ⟨z,row,col⟩ := mem_cells.mp within
  have clipped : ∀ grid, asU32 grid ≤ grid := fun grid => Nat.mod_le _ _
  exact ⟨z,⟨Nat.le_succ_of_le row.1,Nat.lt_succ_of_lt row.2⟩,⟨Nat.le_succ_of_le col.1,Nat.lt_succ_of_lt col.2⟩,
    row.2.trans_le (rowEnd_le.trans (clipped _)),col.2.trans_le (colEnd_le.trans (clipped _)),kept⟩

theorem needed_eq_visibleChunks (colFits : (visibleBox region levelGeo fullResGeo).colEnd+1 < 2^32)
    (rowFits : (visibleBox region levelGeo fullResGeo).rowEnd+1 < 2^32) :
    (visibleAndPrefetchChunks region levelGeo t c fullResGeo).1 = visibleChunks region levelGeo t c fullResGeo := by
  have beyond : ∀ {past grid}, past+1 < 2^32 → past ≤ asU32 grid → past ≤ min (asU32 (past+1)) (asU32 grid) := by
    intro past grid fits within
    rw [asU32,Nat.mod_eq_of_lt fits]
    exact Nat.le_min.mpr ⟨Nat.le_succ past,within⟩
  have same : (expandedBox region levelGeo fullResGeo).cells.filter (visibleBox region levelGeo fullResGeo).inVisible =
      (visibleBox region levelGeo fullResGeo).cells :=
    filter_inVisible rfl rfl (Nat.sub_le _ _) (beyond colFits colEnd_le) (Nat.sub_le _ _) (beyond rowFits rowEnd_le)
  unfold visibleAndPrefetchChunks visibleChunks
  dsimp only
  rw [foldl_placeCell]
  dsimp only
  rw [List.nil_append,List.filter_filter,← same,List.filter_filter]
  simp only [Bool.and_comm]

theorem ringFits_of_plansChunks (plans : PlansChunks region levelGeo t c fullResGeo) {cell : Cell}
    (grown : InGrownBox region levelGeo fullResGeo cell) : RingFits region levelGeo fullResGeo cell := by
  obtain ⟨cell',within,kept,same⟩ := mem_plan.mp ((plans.union _).mpr ⟨cell,grown,rfl⟩)
  rw [← coordOf_injective same]
  exact (mem_expandedBox_iff.mp ⟨within,kept⟩).2

theorem plansChunks_of_ringFits (fits : ∀ cell, InGrownBox region levelGeo fullResGeo cell → RingFits region levelGeo fullResGeo cell) :
    PlansChunks region levelGeo t c fullResGeo := by
  refine ⟨?_,disjoint_plan,nodup_plan.1,nodup_plan.2,fun chunk => mem_plan.trans (exists_congr fun cell => ?_)⟩
  · by_cases wraps : (visibleBox region levelGeo fullResGeo).colEnd+1 < 2^32 ∧
        (visibleBox region levelGeo fullResGeo).rowEnd+1 < 2^32
    · exact needed_eq_visibleChunks wraps.1 wraps.2
    · -- nothing is kept, in the expanded box or in the visible one
      have none : ∀ cell, ¬InGrownBox region levelGeo fullResGeo cell := fun cell grown =>
        wraps ⟨(fits cell grown).1.1,(fits cell grown).2.1⟩
      have noneNeeded : (visibleAndPrefetchChunks region levelGeo t c fullResGeo).1 = [] := by
        refine List.eq_nil_iff_forall_not_mem.mpr fun chunk needed => ?_
        obtain ⟨cell,within,kept,_⟩ := mem_needed.mp needed
        exact none cell (mem_expandedBox_iff.mp ⟨within,kept⟩).1
      have noneVisible : visibleChunks region levelGeo t c fullResGeo = [] := by
        refine List.eq_nil_iff_forall_not_mem.mpr fun chunk visible => ?_
        obtain ⟨cell,within,kept,_⟩ := mem_visibleChunks.mp visible
        exact none cell (inGrownBox_of_visible within kept)
      rw [noneNeeded,noneVisible]
  · rw [← and_assoc,mem_expandedBox_iff]
    exact and_congr_left fun _ => ⟨fun both => both.1,fun grown => ⟨grown,fits cell grown⟩⟩

theorem plansChunks_of_few (columns : levelGeo.gridShape.x < 2^32-1) (rows : levelGeo.gridShape.y < 2^32-1) :
    PlansChunks region levelGeo t c fullResGeo := by
  have counted {grid : Nat} (few : grid < 2^32-1) : asU32 grid = grid := Nat.mod_eq_of_lt (few.trans (by decide))
  refine plansChunks_of_ringFits fun cell grown => ?_
  have colEnd := @colEnd_le R _ region levelGeo fullResGeo
  have rowEnd := @rowEnd_le R _ region levelGeo fullResGeo
  rw [counted columns] at colEnd
  rw [counted rows] at rowEnd
  have inColumns : cell.2.2 < asU32 levelGeo.gridShape.x := by
    rw [counted columns]
    exact grown.colGrid
  have inRows : cell.2.1 < asU32 levelGeo.gridShape.y := by
    rw [counted rows]
    exact grown.rowGrid
  exact ⟨⟨by omega,inColumns⟩,by omega,inRows⟩

theorem plans_chunks_iff (region : VisibleRegion R) (levelGeo : LevelGeometry R) (t c : Nat) (fullResGeo : LevelGeometry R) :
    PlansChunks region levelGeo t c fullResGeo ↔
      ∀ cell, InGrownBox region levelGeo fullResGeo cell → RingFits region levelGeo fullResGeo cell :=
  ⟨fun plans _ grown => ringFits_of_plansChunks plans grown,plansChunks_of_ringFits⟩

end

def longRow : LevelGeometry (Extended ℚ) :=
  ⟨0,⟨1,1,1,1,2^32-1⟩,⟨1,1,1,1,1⟩,⟨1,1,1,1,2^32-1⟩,⟨.finite 1,.finite 1,.finite 1,.finite 1,.finite 1⟩⟩

def lastOfTheRow : VisibleRegion (Extended ℚ) :=
  ⟨.finite (2^32-2),.finite 0,.finite (2^32-1),.finite 1,0,1,none,none⟩

theorem needed_is_lost_at_the_last_column : ¬PlansChunks lastOfTheRow longRow 0 0 longRow := by
  intro plans
  have box : visibleBox lastOfTheRow longRow longRow = ⟨2^32-2,2^32-1,0,1,0,1⟩ := by decide +kernel
  have visible : InGrownBox lastOfTheRow longRow longRow (0,0,2^32-2) :=
    inGrownBox_of_visible (mem_cells.mpr (by rw [box]; decide)) rfl
  have fit := (ringFits_of_plansChunks plans visible).1.1
  rw [box] at fit
  exact absurd fit (by decide)

end Lucida.Core
