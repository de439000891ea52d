import Mathlib.Data.Nat.Sqrt
import Mathlib.Data.Rat.Defs
import Mathlib.Data.List.Sort
import Mathlib.Algebra.Order.Field.Rat
import Mathlib.Tactic.Linarith
import Mathlib.Tactic.Ring
import Mathlib.Tactic.Positivity
import Lucida.Content.Graph
import Lucida.Lib.IndexMap
import Lucida.Lib.Traverse

namespace Lucida.Content.Collection
open Lib Graph

def tileGapFraction : ℚ := 2/25

def groupGapFraction : ℚ := 1/5

inductive CollectionLayoutError where
  | missingTileIndex (entityId : EntityId)
  | duplicateTileIndex (groupId : EntityId) (tileIndex : Nat)
  deriving DecidableEq, Repr

def CollectionLayoutError.text : CollectionLayoutError → String
  | .missingTileIndex entityId => "tile entity " ++ entityId.quote ++ " is missing tile_index label"
  | .duplicateTileIndex groupId tileIndex => "duplicate tile_index " ++ toString tileIndex ++ " in group " ++ groupId.quote

-- `sqrt().ceil()`.
def ceilSqrt (n : Nat) : Nat := if n.sqrt*n.sqrt = n then n.sqrt else n.sqrt+1

-- A cast to `u32` stops at the largest one.
def saturatingU32 (n : Nat) : Nat := min n (2^32-1)

-- The entries of a hash map in the order they were made.
def tilesByGroup (tiles : List Graph.Entity) : IndexMap EntityId (List Graph.Entity) :=
  tiles.foldl (fun groups tile =>
    match tile.parent with
    | some parent => groups.upsert parent fun listed => listed.getD [] ++ [tile]
    | none => groups) .empty

def tilesPerGroup (tiles : List Graph.Entity) : IndexMap EntityId Nat :=
  tiles.foldl (fun counts tile =>
    match tile.parent with
    | some parent => counts.upsert parent fun count => count.getD 0+1
    | none => counts) .empty

section
variable (entities : List Graph.Entity) (tileShape : Axes Nat)

def maxTileCount : Nat := max (((tilesPerGroup (entities.filter (·.kind = .tile))).values.max?).getD 0) 1

def tilesPerSide : Nat := saturatingU32 (ceilSqrt (maxTileCount entities))

def groupCell (tile : ℚ) : ℚ := tilesPerSide entities*tile*(1+tileGapFraction)+tile*groupGapFraction

def placeGroup (group : Graph.Entity) : EntityPlacement ℚ :=
  let columnIndex : ℚ := group.labels.columnIndex.getD 0
  let rowIndex : ℚ := group.labels.rowIndex.getD 0
  ⟨group.id,(columnIndex*groupCell entities tileShape.x,rowIndex*groupCell entities tileShape.y)⟩

def buildCollectionLayout : LayoutSpec ℚ :=
  ⟨"source","Source",(entities.filter (·.kind = .group)).map (placeGroup entities tileShape)⟩

end

def tileIndexOf (tile : Graph.Entity) : Except CollectionLayoutError (Nat × Graph.Entity) :=
  match tile.labels.tileIndex with
  | some index => .ok (index,tile)
  | none => .error (.missingTileIndex tile.id)

def sortByIndex (indexed : List (Nat × Graph.Entity)) : List (Nat × Graph.Entity) := indexed.insertionSort fun a b => a.1 ≤ b.1

-- A slot of the grid of a group's tiles, so many columns wide.
def slotEdge (groupId : EntityId) (tileShape : Axes Nat) (cols : Nat) (slot : (Nat × Graph.Entity) × Nat) : TransformEdge ℚ :=
  let gapX := tileGapFraction*tileShape.x
  let gapY := tileGapFraction*tileShape.y
  let col := slot.2 % cols
  let row := slot.2 / cols
  ⟨slot.1.2.id,groupId,(col*(tileShape.x+gapX),row*(tileShape.y+gapY))⟩

def groupTransforms (tileShape : Axes Nat) (group : EntityId × List Graph.Entity) : Except CollectionLayoutError (List (TransformEdge ℚ)) := do
  let indexed := sortByIndex (← group.2.mapM tileIndexOf)
  match (indexed.zip indexed.tail).find? fun window => window.1.1 = window.2.1 with
  | some window => .error (.duplicateTileIndex group.1 window.1.1)
  | none => .ok (indexed.zipIdx.map (slotEdge group.1 tileShape (ceilSqrt indexed.length)))

def buildGridTileTransforms (tileEntities : List Graph.Entity) (tileShape : Axes Nat) :
    Except CollectionLayoutError (List (TransformEdge ℚ)) := do
  return (← (tilesByGroup tileEntities).entries.mapM (groupTransforms tileShape)).flatten

section
variable (layout : LayoutSpec ℚ) (tileTransforms : List (TransformEdge ℚ)) (tileShape : Axes Nat)

-- The right and lower edges that a placement reaches: one for each of its tiles,
-- or one as if it had a tile at its corner.
def reachOf (placement : EntityPlacement ℚ) : List (ℚ × ℚ) :=
  let edges := tileTransforms.filter (·.target = placement.entityId)
  if edges.isEmpty then [(placement.position.1+tileShape.x,placement.position.2+tileShape.y)]
  else edges.map fun edge =>
    (placement.position.1+edge.translation.1+tileShape.x,placement.position.2+edge.translation.2+tileShape.y)

def collectionExtent : ℚ × ℚ :=
  (layout.placements.flatMap (reachOf tileTransforms tileShape)).foldl (fun extent reach => (max extent.1 reach.1,max extent.2 reach.2)) (0,0)

end

structure Rect where
  left : ℚ
  top : ℚ
  width : ℚ
  height : ℚ

namespace Rect

def Interior (r : Rect) (x y : ℚ) : Prop := r.left < x ∧ x < r.left+r.width ∧ r.top < y ∧ y < r.top+r.height

-- No point is inside both.
def Apart (a b : Rect) : Prop := ∀ x y, ¬(a.Interior x y ∧ b.Interior x y)

def InExtent (extent : ℚ × ℚ) (r : Rect) : Prop :=
  0 ≤ r.left ∧ r.left+r.width ≤ extent.1 ∧ 0 ≤ r.top ∧ r.top+r.height ≤ extent.2

structure InCell (origin pitch : ℚ × ℚ) (column row : Nat) (r : Rect) : Prop where
  left : origin.1+column*pitch.1 ≤ r.left
  right : r.left+r.width ≤ origin.1+(column+1)*pitch.1
  top : origin.2+row*pitch.2 ≤ r.top
  bottom : r.top+r.height ≤ origin.2+(row+1)*pitch.2

section
variable {a b : Rect} {origin pitch : ℚ × ℚ}

theorem next_cell {i j : Nat} {pitch : ℚ} (later : i < j) (forward : 0 ≤ pitch) : ((i : ℚ)+1)*pitch ≤ j*pitch := by
  have step : (i : ℚ)+1 ≤ j := by exact_mod_cast later
  exact mul_le_mul_of_nonneg_right step forward

theorem InCell.apart {column row column' row' : Nat} (inA : InCell origin pitch column row a) (inB : InCell origin pitch column' row' b)
    (forward : 0 ≤ pitch.1) (downward : 0 ≤ pitch.2) (other : (column,row) ≠ (column',row')) : Apart a b := by
  intro x y ⟨⟨leftA,rightA,topA,bottomA⟩,⟨leftB,rightB,topB,bottomB⟩⟩
  obtain ⟨left,right,top,bottom⟩ := inA
  obtain ⟨left',right',top',bottom'⟩ := inB
  rcases Nat.lt_trichotomy column column' with before | same | after
  · have step := next_cell before forward
    linarith
  · rcases Nat.lt_trichotomy row row' with above | level | below
    · have step := next_cell above downward
      linarith
    · exact other (by rw [same,level])
    · have step := next_cell below downward
      linarith
  · have step := next_cell after forward
    linarith

end

end Rect

def tileRect (tileShape : Axes Nat) (placement : EntityPlacement ℚ) (edge : TransformEdge ℚ) : Rect :=
  ⟨placement.position.1+edge.translation.1,placement.position.2+edge.translation.2,tileShape.x,tileShape.y⟩

def placedTiles (layout : LayoutSpec ℚ) (tileTransforms : List (TransformEdge ℚ)) (tileShape : Axes Nat) : List Rect :=
  layout.placements.flatMap fun placement =>
    (tileTransforms.filter (·.target = placement.entityId)).map (tileRect tileShape placement)

section Counts

theorem ceilSqrt_le_iff {n side : Nat} : ceilSqrt n ≤ side ↔ n ≤ side*side := by
  have below := Nat.sqrt_le n
  have next : n < (n.sqrt+1)*(n.sqrt+1) := Nat.lt_succ_sqrt n
  unfold ceilSqrt
  split
  · rename_i square
    constructor
    · intro enough
      calc
        n = n.sqrt*n.sqrt := square.symm
        _ ≤ side*side := Nat.mul_le_mul enough enough
    · intro enough
      by_contra less
      have strict : side*side < n.sqrt*n.sqrt := Nat.mul_self_lt_mul_self (Nat.lt_of_not_le less)
      omega
  · rename_i rest
    constructor
    · intro enough
      have wider : (n.sqrt+1)*(n.sqrt+1) ≤ side*side := Nat.mul_le_mul enough enough
      omega
    · intro enough
      by_contra less
      have narrow : side*side ≤ n.sqrt*n.sqrt := Nat.mul_le_mul (Nat.le_of_lt_succ (Nat.lt_of_not_le less)) (Nat.le_of_lt_succ (Nat.lt_of_not_le less))
      omega

theorem ceilSqrt_mono {m n : Nat} (le : m ≤ n) : ceilSqrt m ≤ ceilSqrt n := ceilSqrt_le_iff.mpr (le.trans (ceilSqrt_le_iff.mp le_rfl))

theorem slot_in_grid {i n : Nat} (inside : i < n) : i % ceilSqrt n < ceilSqrt n ∧ i / ceilSqrt n < ceilSqrt n := by
  have square : n ≤ ceilSqrt n*ceilSqrt n := ceilSqrt_le_iff.mp le_rfl
  have side : 0 < ceilSqrt n := by
    rcases Nat.eq_zero_or_pos (ceilSqrt n) with none | some
    · rw [none] at square
      omega
    · exact some
  exact ⟨Nat.mod_lt i side,Nat.div_lt_of_lt_mul (inside.trans_le square)⟩

theorem slot_injective {i j cols : Nat} (other : i ≠ j) : (i%cols,i/cols) ≠ (j%cols,j/cols) := by
  intro same
  obtain ⟨column,row⟩ := Prod.mk.inj same
  exact other (by rw [← Nat.mod_add_div i cols,← Nat.mod_add_div j cols,column,row])

theorem get?_tilesByGroup (tiles : List Graph.Entity) (group : EntityId) :
    (tilesByGroup tiles).get? group =
      if (tiles.filter (·.parent = some group)).isEmpty then none else some (tiles.filter (·.parent = some group)) := by
  unfold tilesByGroup
  induction tiles using List.reverseRecOn with
  | nil => rfl
  | append_singleton tiles tile ih =>
    rw [List.foldl_append,List.foldl_cons,List.foldl_nil,List.filter_append]
    cases parent : tile.parent with
    | none => simpa [parent] using ih
    | some other =>
      dsimp only
      rw [IndexMap.get?_upsert]
      by_cases same : group = other
      · subst same
        rw [if_pos rfl,ih]
        cases listed : tiles.filter (·.parent = some group) with
        | nil => simp [parent]
        | cons first rest => simp [parent]
      · rw [if_neg same,ih]
        simp [parent,Ne.symm same]

theorem get?_tilesPerGroup (tiles : List Graph.Entity) (group : EntityId) :
    (tilesPerGroup tiles).get? group = ((tilesByGroup tiles).get? group).map List.length := by
  unfold tilesPerGroup tilesByGroup
  induction tiles using List.reverseRecOn generalizing group with
  | nil => rfl
  | append_singleton tiles tile ih =>
    rw [List.foldl_append,List.foldl_cons,List.foldl_nil,List.foldl_append,List.foldl_cons,List.foldl_nil]
    cases parent : tile.parent with
    | none => exact ih group
    | some other =>
      dsimp only
      rw [IndexMap.get?_upsert,IndexMap.get?_upsert]
      by_cases same : group = other
      · rw [if_pos same,if_pos same,ih other,Option.map_some]
        congr 1
        cases (List.foldl _ IndexMap.empty tiles).get? other with
        | none => rfl
        | some listed => simp
      · rw [if_neg same,if_neg same,ih group]

end Counts

-- Groups in cells of their own, and in each group tiles of indices of their own.
structure GridCollection (entities : List Graph.Entity) : Prop where
  cells : (entities.filter (·.kind = .group)).Pairwise fun a b =>
    (a.labels.columnIndex.getD 0,a.labels.rowIndex.getD 0) ≠ (b.labels.columnIndex.getD 0,b.labels.rowIndex.getD 0)
  indexed : ∀ tile ∈ entities, tile.kind = .tile → tile.parent.isSome → ∃ index < 2^32, tile.labels.tileIndex = some index
  distinct : (entities.filter (·.kind = .tile)).Pairwise fun a b =>
    a.parent.isSome → a.parent = b.parent → a.labels.tileIndex ≠ b.labels.tileIndex

def slots (tiles : List Graph.Entity) : List (Nat × Graph.Entity) :=
  sortByIndex (tiles.map fun tile => (tile.labels.tileIndex.getD 0,tile))

def gridEdges (tileShape : Axes Nat) (group : EntityId × List Graph.Entity) : List (TransformEdge ℚ) :=
  (slots group.2).zipIdx.map (slotEdge group.1 tileShape (ceilSqrt group.2.length))

theorem length_slots (tiles : List Graph.Entity) : (slots tiles).length = tiles.length := by
  rw [slots,sortByIndex,List.length_insertionSort,List.length_map]

section Transforms
variable {entities tiles : List Graph.Entity} {tileShape : Axes Nat} {group : EntityId}

theorem pairwise_windows {α : Type} {R : α → α → Prop} {items : List α} (all : items.Pairwise R) :
    ∀ window ∈ items.zip items.tail, R window.1 window.2 := by
  induction items with
  | nil => simp
  | cons first items ih =>
    obtain ⟨ahead,rest⟩ := List.pairwise_cons.mp all
    cases items with
    | nil => simp
    | cons second items =>
      intro window member
      rw [List.tail_cons,List.zip_cons_cons,List.mem_cons] at member
      rcases member with rfl | later
      · exact ahead second List.mem_cons_self
      · exact ih rest window later

theorem GridCollection.listed (grid : GridCollection entities)
    (found : (tilesByGroup (entities.filter (·.kind = .tile))).get? group = some tiles) :
    tiles ≠ [] ∧ (∀ tile ∈ tiles, ∃ index < 2^32, tile.labels.tileIndex = some index) ∧
      tiles.Pairwise fun a b => a.labels.tileIndex ≠ b.labels.tileIndex := by
  rw [get?_tilesByGroup] at found
  split at found
  · cases found
  · rename_i some
    cases found
    refine ⟨by simpa using some,?_,?_⟩
    · intro tile member
      obtain ⟨there,parent⟩ := List.mem_filter.mp member
      obtain ⟨present,kind⟩ := List.mem_filter.mp there
      exact grid.indexed tile present (of_decide_eq_true kind) (by rw [of_decide_eq_true parent]; rfl)
    · refine (grid.distinct.filter _).imp_of_mem ?_
      intro a b inA inB apart
      have parentA := of_decide_eq_true (List.mem_filter.mp inA).2
      have parentB := of_decide_eq_true (List.mem_filter.mp inB).2
      exact apart (by rw [parentA]; rfl) (parentA.trans parentB.symm)

theorem groupTransforms_ok (indexed : ∀ tile ∈ tiles, ∃ index < 2^32, tile.labels.tileIndex = some index)
    (distinct : tiles.Pairwise fun a b => a.labels.tileIndex ≠ b.labels.tileIndex) :
    groupTransforms tileShape (group,tiles) = .ok (gridEdges tileShape (group,tiles)) := by
  have read : tiles.mapM tileIndexOf = .ok (tiles.map fun tile => (tile.labels.tileIndex.getD 0,tile)) := by
    apply mapM_ok_map
    intro tile member
    obtain ⟨index,_,known⟩ := indexed tile member
    simp [tileIndexOf,known]
  have apart : ((tiles.map fun tile => (tile.labels.tileIndex.getD 0,tile))).Pairwise fun a b => a.1 ≠ b.1 := by
    rw [List.pairwise_map]
    refine distinct.imp_of_mem ?_
    intro a b inA inB other same
    obtain ⟨i,_,knownA⟩ := indexed a inA
    obtain ⟨j,_,knownB⟩ := indexed b inB
    rw [knownA,knownB] at other same
    exact other (congrArg some same)
  have windows : ((slots tiles).zip (slots tiles).tail).find? (fun window => window.1.1 = window.2.1) = none := by
    rw [List.find?_eq_none]
    intro window member
    have all : (slots tiles).Pairwise fun a b => a.1 ≠ b.1 :=
      ((List.perm_insertionSort _ _).pairwise_iff fun differs => differs.symm).mpr apart
    simpa using pairwise_windows all window member
  unfold groupTransforms
  rw [read]
  change (match ((slots tiles).zip (slots tiles).tail).find? _ with | some _ => _ | none => _) = _
  rw [windows]
  dsimp only
  rw [gridEdges]
  dsimp only
  rw [← length_slots tiles]
  rfl

theorem buildGridTileTransforms_ok (grid : GridCollection entities) (tileShape : Axes Nat) :
    buildGridTileTransforms (entities.filter (·.kind = .tile)) tileShape =
      .ok ((tilesByGroup (entities.filter (·.kind = .tile))).entries.flatMap (gridEdges tileShape)) := by
  have each : (tilesByGroup (entities.filter (·.kind = .tile))).entries.mapM (groupTransforms tileShape) =
      .ok ((tilesByGroup (entities.filter (·.kind = .tile))).entries.map (gridEdges tileShape)) := by
    apply mapM_ok_map
    rintro ⟨group,tiles⟩ member
    obtain ⟨_,indexed,distinct⟩ := grid.listed (IndexMap.mem_entries_iff.mp member)
    exact groupTransforms_ok indexed distinct
  rw [buildGridTileTransforms,each]
  rfl

end Transforms

section Places
variable {entities tiles : List Graph.Entity} {tileShape : Axes Nat} {group : EntityId} {edge : TransformEdge ℚ}

theorem GridCollection.few (grid : GridCollection entities)
    (found : (tilesByGroup (entities.filter (·.kind = .tile))).get? group = some tiles) : tiles.length ≤ 2^32 := by
  obtain ⟨_,indexed,distinct⟩ := grid.listed found
  have nodup : (tiles.map fun tile => tile.labels.tileIndex.getD 0).Nodup := by
    rw [List.Nodup,List.pairwise_map]
    refine distinct.imp_of_mem ?_
    intro a b inA inB other same
    obtain ⟨i,_,knownA⟩ := indexed a inA
    obtain ⟨j,_,knownB⟩ := indexed b inB
    rw [knownA,knownB] at other same
    exact other (congrArg some same)
  have bounded : (tiles.map fun tile => tile.labels.tileIndex.getD 0) ⊆ List.range (2^32) := by
    intro index member
    obtain ⟨tile,there,rfl⟩ := List.mem_map.mp member
    obtain ⟨i,small,known⟩ := indexed tile there
    rw [known,Option.getD_some,List.mem_range]
    exact small
  have fewer := nodup.length_le_of_subset bounded
  rwa [List.length_map,List.length_range] at fewer

theorem count_le (found : (tilesByGroup (entities.filter (·.kind = .tile))).get? group = some tiles) : tiles.length ≤ maxTileCount entities := by
  have counted : (tilesPerGroup (entities.filter (·.kind = .tile))).get? group = some tiles.length := by
    rw [get?_tilesPerGroup,found,Option.map_some]
  have listed : tiles.length ∈ (tilesPerGroup (entities.filter (·.kind = .tile))).values :=
    List.mem_map.mpr ⟨_,IndexMap.mem_entries_iff.mpr counted,rfl⟩
  exact (List.le_max?_getD_of_mem listed).trans (le_max_left _ _)

theorem GridCollection.tilesPerSide_eq (grid : GridCollection entities) : tilesPerSide entities = ceilSqrt (maxTileCount entities) := by
  have small : maxTileCount entities ≤ 2^16*2^16 := by
    refine max_le ?_ (by decide)
    cases most : (tilesPerGroup (entities.filter (·.kind = .tile))).values.max? with
    | none => exact Nat.zero_le _
    | some count =>
      obtain ⟨⟨group,_⟩,there,rfl⟩ := List.mem_map.mp (List.max?_mem most)
      have counted := IndexMap.mem_entries_iff.mp there
      rw [get?_tilesPerGroup] at counted
      obtain ⟨tiles,found,rfl⟩ := Option.map_eq_some_iff.mp counted
      exact grid.few found
  exact min_eq_left ((ceilSqrt_le_iff.mpr small).trans (by decide))

def tilePitch (n : Nat) : ℚ := n+tileGapFraction*n

-- Where an edge of the grid puts its tile: in a slot of a square of as many sides
-- as the layout makes room for.
structure SlotAt (entities : List Graph.Entity) (tileShape : Axes Nat) (edge : TransformEdge ℚ) (column row : Nat) : Prop where
  across : column < tilesPerSide entities
  down : row < tilesPerSide entities
  translation : edge.translation = ((column : ℚ)*tilePitch tileShape.x,(row : ℚ)*tilePitch tileShape.y)

theorem GridCollection.slot (grid : GridCollection entities)
    (found : (tilesByGroup (entities.filter (·.kind = .tile))).get? group = some tiles) {slot : (Nat × Graph.Entity) × Nat}
    (inside : slot.2 < tiles.length) :
    SlotAt entities tileShape (slotEdge group tileShape (ceilSqrt tiles.length) slot) (slot.2 % ceilSqrt tiles.length)
      (slot.2 / ceilSqrt tiles.length) := by
  have fits : ceilSqrt tiles.length ≤ tilesPerSide entities := by
    rw [grid.tilesPerSide_eq]
    exact ceilSqrt_mono (count_le found)
  obtain ⟨column,row⟩ := slot_in_grid inside
  exact ⟨column.trans_le fits,row.trans_le fits,rfl⟩

theorem tilePitch_nonneg (n : Nat) : 0 ≤ tilePitch n := by
  unfold tilePitch tileGapFraction
  positivity

theorem groupCell_nonneg (entities : List Graph.Entity) (n : Nat) : 0 ≤ groupCell entities n := by
  unfold groupCell tileGapFraction groupGapFraction
  positivity

theorem slot_reach {slot side : Nat} (n : Nat) (inside : slot < side) :
    (slot : ℚ)*tilePitch n+n ≤ (slot+1)*tilePitch n ∧
      (slot : ℚ)*tilePitch n+n ≤ side*n*(1+tileGapFraction)+n*groupGapFraction := by
  have size : (0 : ℚ) ≤ n := Nat.cast_nonneg n
  have last : ((slot : ℚ)+1)*tilePitch n ≤ side*tilePitch n := Rect.next_cell inside (tilePitch_nonneg n)
  have own : (slot : ℚ)*tilePitch n+n ≤ (slot+1)*tilePitch n := by
    have gap : (0 : ℚ) ≤ tileGapFraction*n := by
      unfold tileGapFraction
      positivity
    have wider : (n : ℚ) ≤ tilePitch n := by
      unfold tilePitch
      linarith
    linarith
  refine ⟨own,own.trans (last.trans ?_)⟩
  have gap : (0 : ℚ) ≤ n*groupGapFraction := by
    unfold groupGapFraction
    positivity
  calc
    (side : ℚ)*tilePitch n = side*n*(1+tileGapFraction) := by
      unfold tilePitch
      ring
    _ ≤ side*n*(1+tileGapFraction)+n*groupGapFraction := by linarith

theorem SlotAt.inGroup {column row : Nat} (slot : SlotAt entities tileShape edge column row) (placement : EntityPlacement ℚ) :
    Rect.InCell placement.position (tilePitch tileShape.x,tilePitch tileShape.y) column row
      (tileRect tileShape placement edge) := by
  obtain ⟨inColumn,_⟩ := slot_reach tileShape.x slot.across
  obtain ⟨inRow,_⟩ := slot_reach tileShape.y slot.down
  constructor
  · simp only [tileRect,slot.translation,le_refl]
  · simp only [tileRect,slot.translation]
    linarith
  · simp only [tileRect,slot.translation,le_refl]
  · simp only [tileRect,slot.translation]
    linarith

theorem SlotAt.inLayout {column row : Nat} (slot : SlotAt entities tileShape edge column row) (group : Graph.Entity) :
    Rect.InCell (0,0) (groupCell entities tileShape.x,groupCell entities tileShape.y) (group.labels.columnIndex.getD 0)
      (group.labels.rowIndex.getD 0) (tileRect tileShape (placeGroup entities tileShape group) edge) := by
  obtain ⟨_,inColumn⟩ := slot_reach tileShape.x slot.across
  obtain ⟨_,inRow⟩ := slot_reach tileShape.y slot.down
  have across : (0 : ℚ) ≤ column*tilePitch tileShape.x := mul_nonneg (Nat.cast_nonneg _) (tilePitch_nonneg _)
  have down : (0 : ℚ) ≤ row*tilePitch tileShape.y := mul_nonneg (Nat.cast_nonneg _) (tilePitch_nonneg _)
  constructor
  · simp only [tileRect,slot.translation,placeGroup]
    linarith
  · simp only [tileRect,slot.translation,placeGroup,groupCell]
    linarith
  · simp only [tileRect,slot.translation,placeGroup]
    linarith
  · simp only [tileRect,slot.translation,placeGroup,groupCell]
    linarith

theorem GridCollection.edge_slot (grid : GridCollection entities)
    (member : edge ∈ (tilesByGroup (entities.filter (·.kind = .tile))).entries.flatMap (gridEdges tileShape)) :
    ∃ column row, SlotAt entities tileShape edge column row := by
  obtain ⟨⟨group,tiles⟩,listed,made⟩ := List.mem_flatMap.mp member
  obtain ⟨⟨indexed,position⟩,there,rfl⟩ := List.mem_map.mp made
  obtain ⟨_,inside,_⟩ := List.mem_zipIdx there
  rw [length_slots,Nat.zero_add] at inside
  exact ⟨_,_,grid.slot (IndexMap.mem_entries_iff.mp listed) inside⟩

theorem GridCollection.edges_apart (grid : GridCollection entities) (placement : EntityPlacement ℚ) :
    ((tilesByGroup (entities.filter (·.kind = .tile))).entries.flatMap (gridEdges tileShape)).Pairwise fun a b =>
      a.target = b.target → Rect.Apart (tileRect tileShape placement a) (tileRect tileShape placement b) := by
  rw [List.pairwise_flatMap]
  constructor
  · rintro ⟨group,tiles⟩ listed
    have found := IndexMap.mem_entries_iff.mp listed
    rw [gridEdges,List.pairwise_map]
    have ordered : (slots tiles).zipIdx.Pairwise fun a b => a.2 < b.2 := by
      have places : ((slots tiles).zipIdx.map Prod.snd).Pairwise (· < ·) := by
        rw [List.zipIdx_map_snd]
        exact List.pairwise_lt_range'
      exact List.pairwise_map.mp places
    refine ordered.imp_of_mem ?_
    rintro ⟨a,i⟩ ⟨b,j⟩ inA inB later _
    obtain ⟨_,insideA,_⟩ := List.mem_zipIdx inA
    obtain ⟨_,insideB,_⟩ := List.mem_zipIdx inB
    rw [length_slots,Nat.zero_add] at insideA insideB
    have slotA : SlotAt entities tileShape (slotEdge group tileShape (ceilSqrt tiles.length) (a,i)) _ _ := grid.slot found insideA
    have slotB : SlotAt entities tileShape (slotEdge group tileShape (ceilSqrt tiles.length) (b,j)) _ _ := grid.slot found insideB
    exact (slotA.inGroup placement).apart (slotB.inGroup placement) (tilePitch_nonneg _) (tilePitch_nonneg _) (slot_injective later.ne)
  · -- edges of different groups have different targets
    have keys := (tilesByGroup (entities.filter (·.kind = .tile))).nodup
    rw [List.Nodup,List.pairwise_map] at keys
    refine keys.imp ?_
    intro a b other edgeA inA edgeB inB same
    obtain ⟨_,_,rfl⟩ := List.mem_map.mp inA
    obtain ⟨_,_,rfl⟩ := List.mem_map.mp inB
    exact absurd same other

theorem GridCollection.placed_apart (grid : GridCollection entities) :
    (placedTiles (buildCollectionLayout entities tileShape)
      ((tilesByGroup (entities.filter (·.kind = .tile))).entries.flatMap (gridEdges tileShape)) tileShape).Pairwise Rect.Apart := by
  rw [placedTiles,List.pairwise_flatMap]
  constructor
  · intro placement _
    rw [List.pairwise_map]
    refine ((grid.edges_apart placement).filter _).imp_of_mem ?_
    intro a b inA inB apart
    have targetA := of_decide_eq_true (List.mem_filter.mp inA).2
    have targetB := of_decide_eq_true (List.mem_filter.mp inB).2
    exact apart (targetA.trans targetB.symm)
  · rw [buildCollectionLayout,List.pairwise_map]
    refine grid.cells.imp ?_
    intro groupA groupB other rectA inA rectB inB
    obtain ⟨edgeA,memberA,rfl⟩ := List.mem_map.mp inA
    obtain ⟨edgeB,memberB,rfl⟩ := List.mem_map.mp inB
    obtain ⟨_,_,slotA⟩ := grid.edge_slot (List.mem_of_mem_filter memberA)
    obtain ⟨_,_,slotB⟩ := grid.edge_slot (List.mem_of_mem_filter memberB)
    exact (slotA.inLayout groupA).apart (slotB.inLayout groupB) (groupCell_nonneg _ _) (groupCell_nonneg _ _) other

theorem le_extent (reaches : List (ℚ × ℚ)) (start : ℚ × ℚ) :
    let extent := reaches.foldl (fun extent reach => (max extent.1 reach.1,max extent.2 reach.2)) start
    (start.1 ≤ extent.1 ∧ start.2 ≤ extent.2) ∧ ∀ reach ∈ reaches, reach.1 ≤ extent.1 ∧ reach.2 ≤ extent.2 := by
  induction reaches generalizing start with
  | nil => exact ⟨⟨le_rfl,le_rfl⟩,fun reach none => (List.not_mem_nil none).elim⟩
  | cons first reaches ih =>
    obtain ⟨⟨wide,high⟩,all⟩ := ih (max start.1 first.1,max start.2 first.2)
    refine ⟨⟨(le_max_left _ _).trans wide,(le_max_left _ _).trans high⟩,?_⟩
    intro reach member
    rcases List.mem_cons.mp member with rfl | later
    · exact ⟨(le_max_right _ _).trans wide,(le_max_right _ _).trans high⟩
    · exact all reach later

theorem placed_in_extent {layout : LayoutSpec ℚ} {edges : List (TransformEdge ℚ)} {rect : Rect}
    (member : rect ∈ placedTiles layout edges tileShape) :
    rect.left+rect.width ≤ (collectionExtent layout edges tileShape).1 ∧
      rect.top+rect.height ≤ (collectionExtent layout edges tileShape).2 := by
  obtain ⟨placement,placed,there⟩ := List.mem_flatMap.mp member
  obtain ⟨edge,own,rfl⟩ := List.mem_map.mp there
  refine (le_extent (layout.placements.flatMap (reachOf edges tileShape)) (0,0)).2
    (placement.position.1+edge.translation.1+tileShape.x,placement.position.2+edge.translation.2+tileShape.y) ?_
  refine List.mem_flatMap.mpr ⟨placement,placed,?_⟩
  unfold reachOf
  dsimp only
  rw [if_neg (by simpa using List.ne_nil_of_mem own)]
  exact List.mem_map.mpr ⟨edge,own,rfl⟩

theorem tile_edge {tile : Graph.Entity} (present : tile ∈ entities) (kind : tile.kind = .tile) (parent : tile.parent = some group) :
    ∃ edge ∈ (tilesByGroup (entities.filter (·.kind = .tile))).entries.flatMap (gridEdges tileShape),
      edge.source = tile.id ∧ edge.target = group := by
  have own : tile ∈ (entities.filter (·.kind = .tile)).filter (·.parent = some group) :=
    List.mem_filter.mpr ⟨List.mem_filter.mpr ⟨present,decide_eq_true kind⟩,decide_eq_true parent⟩
  have found := get?_tilesByGroup (entities.filter (·.kind = .tile)) group
  rw [if_neg (by simpa using List.ne_nil_of_mem own)] at found
  have slotted : (tile.labels.tileIndex.getD 0,tile) ∈ slots ((entities.filter (·.kind = .tile)).filter (·.parent = some group)) :=
    (List.mem_insertionSort _).mpr (List.mem_map.mpr ⟨tile,own,rfl⟩)
  obtain ⟨position,at'⟩ := List.mem_iff_getElem?.mp slotted
  have made : slotEdge group tileShape (ceilSqrt ((entities.filter (·.kind = .tile)).filter (·.parent = some group)).length)
      ((tile.labels.tileIndex.getD 0,tile),position) ∈
        gridEdges tileShape (group,(entities.filter (·.kind = .tile)).filter (·.parent = some group)) :=
    List.mem_map.mpr ⟨_,List.mem_zipIdx_iff_getElem?.mpr at',rfl⟩
  exact ⟨_,List.mem_flatMap.mpr ⟨_,IndexMap.mem_entries_iff.mpr found,made⟩,rfl,rfl⟩

theorem tileRect_placed {edges : List (TransformEdge ℚ)} {entity : Graph.Entity} (present : entity ∈ entities) (kind : entity.kind = .group)
    (listed : edge ∈ edges) (target : edge.target = entity.id) :
    tileRect tileShape (placeGroup entities tileShape entity) edge ∈ placedTiles (buildCollectionLayout entities tileShape) edges tileShape :=
  List.mem_flatMap.mpr ⟨_,List.mem_map.mpr ⟨entity,List.mem_filter.mpr ⟨present,decide_eq_true kind⟩,rfl⟩,
    List.mem_map.mpr ⟨edge,List.mem_filter.mpr ⟨listed,decide_eq_true target⟩,rfl⟩⟩

-- Every tile has its edge and, where its group is an entity, its rectangle; no two of
-- these meet, and all lie within the extent.
theorem collection_grid_has_no_overlaps (entities : List Graph.Entity) (tileShape : Axes Nat) (grid : GridCollection entities) :
    ∃ tileTransforms, buildGridTileTransforms (entities.filter (·.kind = .tile)) tileShape = .ok tileTransforms ∧
      (∀ tile ∈ entities, tile.kind = .tile → ∀ group, tile.parent = some group →
        ∃ edge ∈ tileTransforms, edge.source = tile.id ∧ edge.target = group ∧
          ∀ entity ∈ entities, entity.kind = .group → entity.id = group →
            tileRect tileShape (placeGroup entities tileShape entity) edge ∈
              placedTiles (buildCollectionLayout entities tileShape) tileTransforms tileShape) ∧
      (placedTiles (buildCollectionLayout entities tileShape) tileTransforms tileShape).Pairwise Rect.Apart ∧
      ∀ rect ∈ placedTiles (buildCollectionLayout entities tileShape) tileTransforms tileShape,
        rect.InExtent (collectionExtent (buildCollectionLayout entities tileShape) tileTransforms tileShape) := by
  refine ⟨_,buildGridTileTransforms_ok grid tileShape,?_,grid.placed_apart,?_⟩
  · intro tile present kind group parent
    obtain ⟨edge,listed,source,target⟩ := tile_edge present kind parent
    exact ⟨edge,listed,source,target,fun entity there kind named => tileRect_placed there kind listed (target.trans named.symm)⟩
  · intro rect member
    obtain ⟨right,bottom⟩ := placed_in_extent member
    obtain ⟨placement,placed,there⟩ := List.mem_flatMap.mp member
    obtain ⟨group,_,rfl⟩ := List.mem_map.mp placed
    obtain ⟨edge,own,rfl⟩ := List.mem_map.mp there
    obtain ⟨_,_,slot⟩ := grid.edge_slot (List.mem_of_mem_filter own)
    have cell := slot.inLayout group
    have across : (0 : ℚ) ≤ (group.labels.columnIndex.getD 0 : Nat)*groupCell entities tileShape.x :=
      mul_nonneg (Nat.cast_nonneg _) (groupCell_nonneg _ _)
    have down : (0 : ℚ) ≤ (group.labels.rowIndex.getD 0 : Nat)*groupCell entities tileShape.y :=
      mul_nonneg (Nat.cast_nonneg _) (groupCell_nonneg _ _)
    have left := cell.left
    have top := cell.top
    dsimp only at left top
    exact ⟨by linarith,right,by linarith,bottom⟩

end Places

-- Two groups with empty rows and columns between them, one of them with two tiles.
def sparsePlate : List Graph.Entity :=
  let group (id : EntityId) (row column : Nat) : Graph.Entity := ⟨id,.group,none,⟨none,none,none,some row,some column,none⟩⟩
  let tile (id parent : EntityId) (index : Nat) : Graph.Entity := ⟨id,.tile,some parent,⟨none,none,none,none,none,some index⟩⟩
  [group "a" 0 0,tile "a1" "a" 4,tile "a2" "a" 1,group "b" 3 7,tile "b1" "b" 4]

theorem sparse_plate_has_no_overlaps :
    ∃ tileTransforms, buildGridTileTransforms (sparsePlate.filter (·.kind = .tile)) ⟨1,1,1,30,50⟩ = .ok tileTransforms ∧
      (∃ edge ∈ tileTransforms, edge.source = "a1" ∧
        tileRect ⟨1,1,1,30,50⟩ (placeGroup sparsePlate ⟨1,1,1,30,50⟩ ⟨"a",.group,none,⟨none,none,none,some 0,some 0,none⟩⟩) edge ∈
          placedTiles (buildCollectionLayout sparsePlate ⟨1,1,1,30,50⟩) tileTransforms ⟨1,1,1,30,50⟩) ∧
      (placedTiles (buildCollectionLayout sparsePlate ⟨1,1,1,30,50⟩) tileTransforms ⟨1,1,1,30,50⟩).Pairwise Rect.Apart := by
  have grid : GridCollection sparsePlate := by
    refine ⟨by decide,?_,by decide⟩
    intro tile member kind _
    simp only [sparsePlate,List.mem_cons,List.not_mem_nil,or_false] at member
    rcases member with rfl | rfl | rfl | rfl | rfl
    · cases kind
    · exact ⟨4,by decide,rfl⟩
    · exact ⟨1,by decide,rfl⟩
    · cases kind
    · exact ⟨4,by decide,rfl⟩
  obtain ⟨tileTransforms,made,placed,apart,_⟩ := collection_grid_has_no_overlaps sparsePlate ⟨1,1,1,30,50⟩ grid
  obtain ⟨edge,listed,source,_,there⟩ := placed ⟨"a1",.tile,some "a",⟨none,none,none,none,none,some 4⟩⟩
    (List.mem_cons_of_mem _ List.mem_cons_self) rfl "a" rfl
  exact ⟨tileTransforms,made,⟨edge,listed,source,there _ List.mem_cons_self rfl rfl⟩,apart⟩

end Lucida.Content.Collection
