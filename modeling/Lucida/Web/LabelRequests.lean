import Lucida.Lib.Extended
import Lucida.Server.ImportReads
import Lucida.Web.CpuCache

namespace Lucida.Web
open Content Lib Store

namespace LabelLayout

structure Level0 where
  shape : Axes Nat
  scale : Axes F64

def axisT : Nat := 0

def axisZ : Nat := 2

def isPositive (v : F64) : Bool := !v.isNan && !v.isZero && v.bits.toNat < 2^63

def safeScale (scale : Axes F64) (axis : Nat) : F64 :=
  let v := ((axesList scale)[axis]?).getD .one
  if v.isFinite && isPositive v then v else .one

def safeCount (shape : Axes Nat) (axis : Nat) : Nat := ((axesList shape)[axis]?).getD 0

-- The floating-point arithmetic of the layout, whichever way it rounds.
structure Arithmetic where
  -- `Math.round((idx * sourceUnit) / labelUnit)`.
  aligned : Nat → F64 → F64 → Extended Int
  -- `Math.floor((fullResZ / deepest) * planes)`.
  proportional : Nat → Nat → Nat → Nat

-- From zero to the last index. What is no number is at zero.
def clampIndex (extent : Nat) : Extended Int → Nat
  | .finite mapped => min mapped.toNat (extent-1)
  | .infinite negative => if negative then 0 else extent-1
  | .nan => 0

section
variable (arithmetic : Arithmetic)

def labelAxisIndex (sourceIdx : Nat) (source label : Level0) (axis : Nat) : Nat :=
  clampIndex (safeCount label.shape axis)
    (arithmetic.aligned sourceIdx (safeScale source.scale axis) (safeScale label.scale axis))

def labelDepthZ (sourceZ : Nat) (source label : Level0) : Nat := labelAxisIndex arithmetic sourceZ source label axisZ

def labelTimeIndex (sourceT : Nat) (source label : Level0) : Nat := labelAxisIndex arithmetic sourceT source label axisT

def sliceLevelZ (fullResZ fullResDepth levelDepth : Nat) : Nat :=
  if levelDepth = fullResDepth then min fullResZ (levelDepth-1)
  else min (arithmetic.proportional fullResZ (max (fullResDepth-1) 1) (max (levelDepth-1) 1)) (levelDepth-1)

end

end LabelLayout

namespace LabelRequests
open LabelLayout

inductive Mode where
  | slice
  | volume
  deriving DecidableEq, Repr

def grid1D (dim chunk : Nat) : Nat := if chunk > 0 then divCeil dim chunk else 1

-- `size || 1`.
def orOne (size : Nat) : Nat := if size = 0 then 1 else size

structure LabelRequestArgs where
  datasetId : String
  t : Nat
  z : Nat
  mode : Mode

section
variable (arithmetic : Arithmetic)

-- One label, its source's first level, and the level that was chosen of it. Labels have no channels.
def appendLabelChunkRequests (args : LabelRequestArgs) (imageId : String) (source0 label0 lvl : LevelGeometry F64) (levelIdx : Nat) :
    List ChunkRequest :=
  let src0 : Level0 := ⟨source0.shape,source0.scale⟩
  let lbl0 : Level0 := ⟨label0.shape,label0.scale⟩
  let labelT := labelTimeIndex arithmetic args.t src0 lbl0
  let targetChunkT := labelT/orOne lvl.chunkShape.t
  let gy := grid1D lvl.shape.y lvl.chunkShape.y
  let gx := grid1D lvl.shape.x lvl.chunkShape.x
  let pushChunk (z y x : Nat) : ChunkRequest :=
    { datasetId := args.datasetId, entityId := imageId, imageId, level := levelIdx, t := targetChunkT, c := 0, z, y, x
      lane := .detail, tier := .detail, priority := 0, chunkKey := Server.chunkKeyOf levelIdx targetChunkT 0 ⟨z,y,x⟩ }
  match args.mode with
  | .volume =>
    (List.range (grid1D lvl.shape.z lvl.chunkShape.z) ×ˢ List.range gy ×ˢ List.range gx).map fun cell =>
      pushChunk cell.1 cell.2.1 cell.2.2
  | .slice =>
    let labelFullResZ := labelDepthZ arithmetic args.z src0 lbl0
    let levelZ := sliceLevelZ arithmetic labelFullResZ label0.shape.z lvl.shape.z
    let targetChunkZ := levelZ/orOne lvl.chunkShape.z
    (List.range gy ×ˢ List.range gx).map fun cell => pushChunk targetChunkZ cell.1 cell.2

end

-- The levels of a label as they are stored, by the label's own axes.
structure StoredLevel where
  shape : List UInt64
  chunkShape : List UInt64
  scale : Axes F64

structure StoredLabel where
  axes : List String
  levels : List StoredLevel
  distinct : (axes.filterMap axisIndex).Nodup
  paired : ∀ level ∈ levels, axes.length = level.chunkShape.length

def StoredLabel.geometry (label : StoredLabel) (index : Nat) (level : StoredLevel) : LevelGeometry F64 :=
  levelGeometry label.axes index level.shape level.chunkShape level.scale

def timeChunk (axes : List String) (chunkShape : List UInt64) : Nat := ((axisValue axes chunkShape "t").getD 1).toNat

-- The grid coordinate on the time axis. An array without one has only its first timepoint.
def timeCell (axes : List String) (coords : List Nat) : Nat :=
  ((axes.findIdx? (eqIgnoreAsciiCase · "t")).bind fun index => coords[index]?).getD 0

-- The server reads a key at this timepoint: it fetches the chunk of the key's grid coordinate, and
-- slices one timepoint out of it.
def ReadAt (axes : List String) (chunkShape : List UInt64) (key : String) (timepoint : Nat) : Prop :=
  ∃ level coords, chunkKeyGridCoords key axes chunkShape = some (level,coords) ∧
    timepoint = timeCell axes coords*timeChunk axes chunkShape +
      ChunkByteLayout.intra (Server.parseTCFromChunkKey key).1 (timeChunk axes chunkShape)

section
variable {axes : List String} {chunkShape : List UInt64} {level t c : Nat} {cell : Server.Zyx}

def coordOf (chunkShape : List UInt64) (values : Axes Nat) (item : String × Nat) : Nat :=
  (axisIndex item.1).elim 0 fun index => gridCoord index chunkShape[item.2]? ((axesList values).getD index 0)

theorem coords_of_words (words : Server.Words t c cell) : chunkKeyGridCoords (Server.chunkKeyOf level t c cell) axes chunkShape =
    some (String.ofList (Nat.toDigits 10 level),axes.zipIdx.map (coordOf chunkShape ⟨t,c,cell.z,cell.y,cell.x⟩)) := by
  unfold chunkKeyGridCoords
  dsimp only
  rw [Server.splitn_chunkKeyOf,if_neg (by simp)]
  refine (congrArg (fun found : Option (List Nat) => found.bind fun coords => some (String.ofList (Nat.toDigits 10 level),coords))
    (mapM_some_map (g := coordOf chunkShape ⟨t,c,cell.z,cell.y,cell.x⟩) ?_)).trans rfl
  intro item _
  unfold coordOf
  cases known : axisIndex item.1 with
  | none => rfl
  | some index =>
    dsimp only [Option.elim]
    rw [Server.parse_part words (Server.axisIndex_some known).1]
    rfl

theorem divided_twice (size : Option UInt64) (some' : 0 < (size.getD 1).toNat) (t : Nat) :
    gridCoord 0 size t*(size.getD 1).toNat+ChunkByteLayout.intra t (size.getD 1).toNat = t := by
  cases size with
  | none => simp [gridCoord,ChunkByteLayout.intra]
  | some size =>
    rw [Option.getD_some] at some' ⊢
    unfold gridCoord ChunkByteLayout.intra
    dsimp only
    split
    · rename_i bundled
      rw [if_pos bundled.2,Nat.div_add_mod']
    · have one : size.toNat = 1 := by omega
      rw [one]
      simp

-- The two parts of a key's `t` come together again, and it is the timepoint that is read.
theorem readAt_words (words : Server.Words t c cell) (some' : 0 < timeChunk axes chunkShape) :
    ReadAt axes chunkShape (Server.chunkKeyOf level t c cell) timepoint ↔
      timepoint = if (axes.findIdx? (eqIgnoreAsciiCase · "t")).isSome then t else 0 := by
  suffices read : timeCell axes (axes.zipIdx.map (coordOf chunkShape ⟨t,c,cell.z,cell.y,cell.x⟩))*timeChunk axes chunkShape +
      ChunkByteLayout.intra t (timeChunk axes chunkShape) = if (axes.findIdx? (eqIgnoreAsciiCase · "t")).isSome then t else 0 by
    unfold ReadAt
    rw [coords_of_words words,Server.parseTC_chunkKeyOf level cell words.t words.c,← read]
    constructor
    · rintro ⟨_,_,same,shown⟩
      cases same
      exact shown
    · intro shown
      exact ⟨_,_,rfl,shown⟩
  unfold timeChunk axisValue at some' ⊢
  unfold timeCell
  cases found : axes.findIdx? (eqIgnoreAsciiCase · "t") with
  | none => simp [ChunkByteLayout.intra]
  | some i =>
    rw [found] at some'
    obtain ⟨here,named,_⟩ := List.findIdx?_eq_some_iff_getElem.mp found
    have lower : toAsciiLowercase axes[i] = Server.canonicalName 0 := of_decide_eq_true named
    have axis : coordOf chunkShape ⟨t,c,cell.z,cell.y,cell.x⟩ (axes[i],i) = gridCoord 0 chunkShape[i]? t := by
      rw [coordOf,Server.axisIndex_of_lower (by decide) lower]
      rfl
    have coord : (axes.zipIdx.map (coordOf chunkShape ⟨t,c,cell.z,cell.y,cell.x⟩))[i]? = some (gridCoord 0 chunkShape[i]? t) := by
      rw [List.getElem?_map,List.getElem?_zipIdx,List.getElem?_eq_getElem here,Option.map_some,Option.map_some,Nat.zero_add,axis]
    rw [Option.bind_some,coord,Option.getD_some,Option.bind_some,Option.isSome_some,if_pos rfl]
    exact divided_twice _ some' t

end

section
variable {label : StoredLabel} {level : StoredLevel} {index : Nat} {arithmetic : Arithmetic}

theorem shape_small (label : StoredLabel) (index : Nat) (level : StoredLevel) :
    (label.geometry index level).shape.t < 2^64 ∧ (label.geometry index level).shape.z < 2^64 ∧
      (label.geometry index level).shape.y < 2^64 ∧ (label.geometry index level).shape.x < 2^64 :=
  ⟨UInt64.toNat_lt _,UInt64.toNat_lt _,UInt64.toNat_lt _,UInt64.toNat_lt _⟩

theorem fst_zip_sublist {α β : Type} (names : List α) (values : List β) : ((names.zip values).map Prod.fst).Sublist names := by
  induction names generalizing values with
  | nil => exact .slnil
  | cons name names ih =>
    cases values with
    | nil => exact List.nil_sublist _
    | cons value values => exact (ih values).cons_cons name

theorem distinct_zip (label : StoredLabel) (values : List UInt64) : (((label.axes.zip values).map Prod.fst).filterMap axisIndex).Nodup :=
  label.distinct.sublist ((fst_zip_sublist label.axes values).filterMap axisIndex)

theorem chunkShape_t (member : level ∈ label.levels) :
    (label.geometry index level).chunkShape.t = timeChunk label.axes level.chunkShape := by
  unfold StoredLabel.geometry levelGeometry timeChunk
  dsimp only
  rw [Server.canonicalShape_eq (distinct_zip label _),axisValue_eq (by decide) (label.paired level member)]
  rfl

theorem shape_timeless (none' : label.axes.findIdx? (eqIgnoreAsciiCase · "t") = none) : (label.geometry index level).shape.t = 1 := by
  unfold StoredLabel.geometry levelGeometry
  dsimp only
  rw [Server.canonicalShape_eq (distinct_zip label _)]
  refine sizeOn_absent fun dim member named => ?_
  have other := List.findIdx?_eq_none_iff.mp none' dim.1 (List.of_mem_zip member).1
  exact absurd named (of_decide_eq_false other)

theorem clampIndex_lt (extent : Nat) (mapped : Extended Int) : clampIndex extent mapped ≤ extent-1 := by
  unfold clampIndex
  cases mapped with
  | finite mapped => exact Nat.min_le_right _ _
  | infinite negative => cases negative <;> simp
  | nan => exact Nat.zero_le _

theorem sliceLevelZ_le (fullResZ fullResDepth levelDepth : Nat) : sliceLevelZ arithmetic fullResZ fullResDepth levelDepth ≤ levelDepth-1 := by
  unfold sliceLevelZ
  split
  · exact Nat.min_le_right _ _
  · exact Nat.min_le_right _ _

theorem lt_grid1D {cell dim chunk : Nat} (small : dim < 2^64) (below : cell < grid1D dim chunk) : cell < 2^64 := by
  unfold grid1D at below
  split at below
  · rename_i some'
    have starts := (Server.lt_divCeil some').mp below
    have spread := Nat.le_mul_of_pos_right cell some'
    omega
  · omega

variable {args : LabelRequestArgs} {imageId : String} {source0 : LevelGeometry F64} {first : StoredLevel} {request : ChunkRequest}

theorem key_of_request (member : request ∈ appendLabelChunkRequests arithmetic args imageId source0 (label.geometry 0 first)
      (label.geometry index level) index) :
    ∃ cell : Server.Zyx, cell.z < 2^64 ∧ cell.y < 2^64 ∧ cell.x < 2^64 ∧
      request.chunkKey = Server.chunkKeyOf index (labelTimeIndex arithmetic args.t ⟨source0.shape,source0.scale⟩
        ⟨(label.geometry 0 first).shape,(label.geometry 0 first).scale⟩/orOne (label.geometry index level).chunkShape.t) 0 cell := by
  obtain ⟨_,smallZ,smallY,smallX⟩ := shape_small label index level
  unfold appendLabelChunkRequests at member
  dsimp only at member
  split at member
  · obtain ⟨⟨z,y,x⟩,within,rfl⟩ := List.mem_map.mp member
    simp only [List.mem_product,List.mem_range] at within
    exact ⟨⟨z,y,x⟩,lt_grid1D smallZ within.1,lt_grid1D smallY within.2.1,lt_grid1D smallX within.2.2,rfl⟩
  · obtain ⟨⟨y,x⟩,within,rfl⟩ := List.mem_map.mp member
    simp only [List.mem_product,List.mem_range] at within
    refine ⟨⟨_,y,x⟩,?_,lt_grid1D smallY within.1,lt_grid1D smallX within.2,rfl⟩
    refine Nat.lt_of_le_of_lt (Nat.div_le_self _ _) (Nat.lt_of_le_of_lt (sliceLevelZ_le _ _ _) ?_)
    omega

theorem div_eq_self_iff {n size : Nat} (some' : 0 < size) : n = n/size ↔ size = 1 ∨ n = 0 := by
  constructor
  · intro same
    by_contra other
    obtain ⟨several,moved⟩ := not_or.mp other
    have less : n/size < n := Nat.div_lt_self (Nat.pos_of_ne_zero moved) (by omega)
    omega
  · rintro (rfl | rfl)
    · exact (Nat.div_one n).symm
    · exact (Nat.zero_div size).symm

end

-- The planner sends a time chunk where the server takes a timepoint, and divides again.
theorem label_request_shows_its_timepoint_iff (arithmetic : Arithmetic) (label : StoredLabel) (first level : StoredLevel) (index : Nat)
    (source0 : LevelGeometry F64) (args : LabelRequestArgs) (imageId : String) (request : ChunkRequest)
    (there : label.levels[index]? = some level) (timed : 0 < (label.geometry index level).chunkShape.t)
    (member : request ∈ appendLabelChunkRequests arithmetic args imageId source0 (label.geometry 0 first) (label.geometry index level) index) :
    ReadAt label.axes level.chunkShape request.chunkKey (labelTimeIndex arithmetic args.t ⟨source0.shape,source0.scale⟩
        ⟨(label.geometry 0 first).shape,(label.geometry 0 first).scale⟩) ↔
      (label.geometry index level).chunkShape.t = 1 ∨ labelTimeIndex arithmetic args.t ⟨source0.shape,source0.scale⟩
        ⟨(label.geometry 0 first).shape,(label.geometry 0 first).scale⟩ = 0 := by
  have bound : labelTimeIndex arithmetic args.t ⟨source0.shape,source0.scale⟩
      ⟨(label.geometry 0 first).shape,(label.geometry 0 first).scale⟩ ≤ (label.geometry 0 first).shape.t-1 := clampIndex_lt _ _
  obtain ⟨cell,smallZ,smallY,smallX,key⟩ := key_of_request member
  generalize labelTimeIndex arithmetic args.t ⟨source0.shape,source0.scale⟩
    ⟨(label.geometry 0 first).shape,(label.geometry 0 first).scale⟩ = labelT at bound key ⊢
  have sized := @chunkShape_t label level index (List.mem_of_getElem? there)
  have whole : orOne (label.geometry index level).chunkShape.t = (label.geometry index level).chunkShape.t := if_neg (by omega)
  have small := (shape_small label 0 first).1
  have shorter := Nat.div_le_self labelT (label.geometry index level).chunkShape.t
  have words : Server.Words (labelT/(label.geometry index level).chunkShape.t) 0 cell :=
    ⟨by omega,by decide,smallZ,smallY,smallX⟩
  rw [key,whole,readAt_words words (sized ▸ timed)]
  split
  · exact div_eq_self_iff timed
  · rename_i timeless
    have none' := Option.not_isSome_iff_eq_none.mp timeless
    have one := @shape_timeless label first 0 none'
    have zero : labelT = 0 := by omega
    simp [zero]

def bundledLevel : StoredLevel := ⟨[4,2,2],[2,2,2],⟨.one,.one,.one,.one,.one⟩⟩

def bundledLabel : StoredLabel where
  axes := ["t","y","x"]
  levels := [bundledLevel]
  distinct := by decide
  paired := by decide

def sameScale : Arithmetic := ⟨fun idx _ _ => .finite idx,fun z deepest planes => z*planes/deepest⟩

def requestAt (t : Nat) : ChunkRequest :=
  { datasetId := "dataset", entityId := "label", imageId := "label", level := 0, t, c := 0, z := 0, y := 0, x := 0, lane := .detail
    tier := .detail, priority := 0, chunkKey := Server.chunkKeyOf 0 t 0 ⟨0,0,0⟩ }

theorem first_timepoint_is_shown : ReadAt ["t","y","x"] [2,2,2] (Server.chunkKeyOf 0 0 0 ⟨0,0,0⟩) 0 :=
  (label_request_shows_its_timepoint_iff sameScale bundledLabel bundledLevel bundledLevel 0 (bundledLabel.geometry 0 bundledLevel)
    ⟨"dataset",0,0,.slice⟩ "label" (requestAt 0) rfl (by decide) (by decide)).mpr (.inr (by decide))

theorem second_timepoint_is_not_shown : ¬∀ (arithmetic : Arithmetic) (label : StoredLabel) (first level : StoredLevel) (index : Nat)
    (source0 : LevelGeometry F64) (args : LabelRequestArgs) (imageId : String) (request : ChunkRequest),
    label.levels[0]? = some first → label.levels[index]? = some level → 0 < (label.geometry index level).chunkShape.t →
    request ∈ appendLabelChunkRequests arithmetic args imageId source0 (label.geometry 0 first) (label.geometry index level) index →
    ReadAt label.axes level.chunkShape request.chunkKey (labelTimeIndex arithmetic args.t ⟨source0.shape,source0.scale⟩
      ⟨(label.geometry 0 first).shape,(label.geometry 0 first).scale⟩) := by
  intro shown
  have read := shown sameScale bundledLabel bundledLevel bundledLevel 0 (bundledLabel.geometry 0 bundledLevel) ⟨"dataset",1,0,.slice⟩ "label"
    (requestAt 0) rfl rfl (by decide) (by decide)
  have words : Server.Words 0 0 ⟨0,0,0⟩ := ⟨by decide,by decide,by decide,by decide,by decide⟩
  exact absurd ((readAt_words words (by decide)).mp read) (by decide)

end LabelRequests
end Lucida.Web
