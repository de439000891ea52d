import Lucida.Lib.MixedRadix
import Lucida.Store.ChunkLayout

namespace Lucida.Store
open Content Lib MixedRadix

def dimSizes (dims : List (String × UInt64)) : List Nat := dims.map (·.2.toNat)

def isKept (dim : String × UInt64) : Bool := isKeptCanonical (toAsciiLowercase dim.1)

-- The voxels of a wire chunk in a chunk on disk, an index for each axis: any on
-- the kept axes, `t` and `c` on the first axis of that name, and 0 on every
-- other one.
inductive InWireChunk : Nat → Nat → List (String × UInt64) → List Nat → Prop where
  | nil : InWireChunk t c [] []
  | kept (inner : isKept dim) (below : index < dim.2.toNat) (rest : InWireChunk t c dims voxel) :
      InWireChunk t c (dim::dims) (index::voxel)
  | alongT (named : toAsciiLowercase dim.1 = "t") (below : t < dim.2.toNat) (rest : InWireChunk 0 c dims voxel) :
      InWireChunk t c (dim::dims) (t::voxel)
  | alongC (named : toAsciiLowercase dim.1 = "c") (below : c < dim.2.toNat) (rest : InWireChunk t 0 dims voxel) :
      InWireChunk t c (dim::dims) (c::voxel)
  | pinned (unknown : axisIndex dim.1 = none) (below : 0 < dim.2.toNat) (rest : InWireChunk t c dims voxel) :
      InWireChunk t c (dim::dims) (0::voxel)

def keptIndices (dims : List (String × UInt64)) (voxel : List Nat) : List Nat :=
  ((dims.zip voxel).filter fun entry => isKept entry.1).map Prod.snd

def BytesOf (dtypeSize : Nat) (dims : List (String × UInt64)) (voxel : List Nat) (position : Nat) : Prop :=
  dtypeSize*flatten (dimSizes dims) voxel ≤ position ∧ position < dtypeSize*flatten (dimSizes dims) voxel+dtypeSize

def InSlice (dtypeSize wireT wireC : Nat) (dims : List (String × UInt64)) (position : Nat) : Prop :=
  ∃ voxel, InWireChunk (ChunkByteLayout.intra wireT (sizeOn "t" dims)) (ChunkByteLayout.intra wireC (sizeOn "c" dims)) dims voxel ∧
    BytesOf dtypeSize dims voxel position

def OneRun (positions : Nat → Prop) : Prop := ∃ start size, ∀ position, positions position ↔ start ≤ position ∧ position < start+size

section
variable {dims : List (String × UInt64)} {voxel : List Nat} {dtypeSize t c : Nat}

theorem volume_eq (dims : List (String × UInt64)) : volume dims = (dimSizes dims).prod := by
  induction dims with
  | nil => rfl
  | cons dim dims hypothesis => rw [volume,hypothesis,dimSizes,dimSizes,List.map_cons,List.prod_cons]

theorem keptVolume_eq_prod (dims : List (String × UInt64)) : keptVolume dims = (dimSizes (dims.filter isKept)).prod := by
  induction dims with
  | nil => rfl
  | cons dim dims hypothesis =>
    rw [keptVolume,hypothesis,List.filter_cons]
    change (if isKept dim then _ else _) = _
    split
    · rw [dimSizes,dimSizes,List.map_cons,List.prod_cons]
    · rfl

theorem axisIndex_eq_none_iff : axisIndex name = none ↔
    isKeptCanonical (toAsciiLowercase name) = false ∧ toAsciiLowercase name ≠ "t" ∧ toAsciiLowercase name ≠ "c" := by
  rw [axisIndex,List.idxOf?_eq_none_iff]
  simp only [isKeptCanonical,List.mem_cons,List.not_mem_nil,or_false,not_or,decide_eq_false_iff_not]
  tauto

variable {pinnedNames axes : List String} {seenInner : Bool}

theorem checkOrder_outer {dim : String × UInt64}
    (outer : toAsciiLowercase dim.1 ∈ pinnedNames ∨ isCanonicalIndexed (toAsciiLowercase dim.1))
    (checked : checkOrder pinnedNames axes seenInner (dim::dims) = .ok ()) :
    checkOrder pinnedNames axes seenInner dims = .ok () ∧ (seenInner = true → dim.2.toNat ≤ 1) := by
  unfold checkOrder at checked
  by_cases single : dim.2.toNat ≤ 1
  · rw [if_pos single] at checked
    exact ⟨checked,fun _ => single⟩
  · rw [if_neg single,if_pos (by simpa using outer)] at checked
    cases seenInner with
    | true => cases checked
    | false => exact ⟨checked,fun seen => by cases seen⟩

theorem checkOrder_inner {dim : String × UInt64}
    (inner : ¬(toAsciiLowercase dim.1 ∈ pinnedNames ∨ isCanonicalIndexed (toAsciiLowercase dim.1)))
    (checked : checkOrder pinnedNames axes seenInner (dim::dims) = .ok ()) :
    checkOrder pinnedNames axes (seenInner || 1 < dim.2.toNat) dims = .ok () := by
  unfold checkOrder at checked
  by_cases single : dim.2.toNat ≤ 1
  · rw [if_pos single] at checked
    rwa [decide_eq_false (Nat.not_lt.mpr single),Bool.or_false]
  · rw [if_neg single,if_neg (by simpa using inner)] at checked
    rwa [decide_eq_true (Nat.lt_of_not_le single),Bool.or_true]

theorem strideOn_cons (dim : String × UInt64) : strideOn dtypeSize name (dim::dims) =
    if toAsciiLowercase dim.1 = name then dtypeSize*volume dims else strideOn dtypeSize name dims := rfl

theorem keptIndices_cons (dim : String × UInt64) (index : Nat) :
    keptIndices (dim::dims) (index::voxel) = if isKept dim then index::keptIndices dims voxel else keptIndices dims voxel := by
  rw [keptIndices,List.zip_cons_cons,List.filter_cons]
  split
  · rw [List.map_cons]
    rfl
  · rfl

theorem not_kept_of_indexed (indexed : isCanonicalIndexed name) : isKeptCanonical name = false := by
  simp only [isCanonicalIndexed,List.mem_cons,List.not_mem_nil,or_false,decide_eq_true_eq] at indexed
  rcases indexed with rfl | rfl <;> decide

theorem keptVolume_outer {dim : String × UInt64} (outer : isKept dim = false) : keptVolume (dim::dims) = keptVolume dims := by
  rw [keptVolume]
  exact if_neg (by rw [show isKeptCanonical (toAsciiLowercase dim.1) = false from outer]; exact Bool.false_ne_true)

theorem position_outer {dim : String × UInt64} {index : Nat} (outer : isKept dim = false) (below : index < dim.2.toNat)
    (short : seenInner = true → dim.2.toNat ≤ 1) {alongT alongC : Nat}
    (later : dtypeSize*flatten (dimSizes dims) voxel =
        alongT+alongC+dtypeSize*flatten (dimSizes (dims.filter isKept)) (keptIndices dims voxel) ∧
      (seenInner = true → alongT = 0 ∧ alongC = 0 ∧ volume dims = keptVolume dims)) :
    dtypeSize*flatten (dimSizes (dim::dims)) (index::voxel) =
        index*(dtypeSize*volume dims)+(alongT+alongC)+
          dtypeSize*flatten (dimSizes ((dim::dims).filter isKept)) (keptIndices (dim::dims) (index::voxel)) ∧
      (seenInner = true → index = 0 ∧ alongT = 0 ∧ alongC = 0 ∧ volume (dim::dims) = keptVolume (dim::dims)) := by
  constructor
  · rw [keptIndices_cons,outer,if_neg Bool.false_ne_true,List.filter_cons_of_neg (by rw [outer]; exact Bool.false_ne_true),
      Nat.add_assoc,← later.1,dimSizes,List.map_cons,flatten,← dimSizes,← volume_eq,Nat.mul_add,Nat.mul_left_comm]
  · intro seen
    obtain ⟨noT,noC,same⟩ := later.2 seen
    have one : dim.2.toNat = 1 := by
      have := short seen
      omega
    refine ⟨by omega,noT,noC,?_⟩
    rw [keptVolume_outer outer,volume,one,Nat.one_mul,same]

-- The walk of `checkOrder` over a voxel of a wire chunk: its bytes start where the
-- strides of `t` and `c` put them, and the kept axes run as if there were no
-- others. Once a kept axis of more than one index is seen, every axis that is
-- still to come is a kept one or has the one index 0.
theorem position_of_voxel (dtypeSize : Nat)
    (pinned : ∀ name, axisIndex name = none → name ∈ axes → toAsciiLowercase name ∈ pinnedNames)
    (unkept : ∀ name ∈ pinnedNames, isKeptCanonical name = false) (listed : ∀ dim ∈ dims, dim.1 ∈ axes)
    (selected : InWireChunk t c dims voxel) (checked : checkOrder pinnedNames axes seenInner dims = .ok ()) :
    dtypeSize*flatten (dimSizes dims) voxel =
        t*strideOn dtypeSize "t" dims+c*strideOn dtypeSize "c" dims+
          dtypeSize*flatten (dimSizes (dims.filter isKept)) (keptIndices dims voxel) ∧
      (seenInner = true → t*strideOn dtypeSize "t" dims = 0 ∧ c*strideOn dtypeSize "c" dims = 0 ∧ volume dims = keptVolume dims) := by
  induction selected generalizing seenInner with
  | nil => simp [flatten,strideOn,dimSizes,volume,keptVolume,keptIndices]
  | @kept dim index t c dims voxel inner below rest hypothesis =>
    have named : ¬isCanonicalIndexed (toAsciiLowercase dim.1) := fun indexed => by
      rw [isKept,not_kept_of_indexed indexed] at inner
      cases inner
    have outside : toAsciiLowercase dim.1 ∉ pinnedNames := fun member => by
      rw [isKept,unkept _ member] at inner
      cases inner
    have notT : toAsciiLowercase dim.1 ≠ "t" := fun same => named (by rw [same]; decide)
    have notC : toAsciiLowercase dim.1 ≠ "c" := fun same => named (by rw [same]; decide)
    obtain ⟨start,after⟩ := hypothesis (fun other member => listed other (List.mem_cons_of_mem _ member))
      (checkOrder_inner (not_or.mpr ⟨outside,named⟩) checked)
    have volumes : keptVolume (dim::dims) = dim.2.toNat*keptVolume dims := by
      rw [keptVolume]
      exact if_pos inner
    rw [strideOn_cons,strideOn_cons,if_neg notT,if_neg notC,keptIndices_cons,if_pos inner,List.filter_cons_of_pos inner]
    constructor
    · rw [dimSizes,dimSizes,List.map_cons,List.map_cons,flatten,flatten,← dimSizes,← dimSizes,← volume_eq,← keptVolume_eq_prod,
        Nat.mul_add,start,Nat.mul_add]
      rcases Nat.eq_zero_or_pos index with rfl | positive
      · simp
      · obtain ⟨-,-,same⟩ := after (by rw [decide_eq_true (show 1 < dim.2.toNat by omega),Bool.or_true])
        rw [same]
        omega
    · intro seen
      obtain ⟨noT,noC,same⟩ := after (by rw [seen,Bool.true_or])
      exact ⟨noT,noC,by rw [volumes,volume,same]⟩
  | @alongT dim t c dims voxel named below rest hypothesis =>
    obtain ⟨later,short⟩ := checkOrder_outer (.inr (by rw [named]; decide)) checked
    have placed := position_outer (by rw [isKept,named]; decide) below short
      (hypothesis (fun other member => listed other (List.mem_cons_of_mem _ member)) later)
    rw [strideOn_cons,strideOn_cons,if_pos named,if_neg (by rw [named]; decide)]
    simp only [Nat.zero_mul,Nat.zero_add] at placed
    refine ⟨placed.1,fun seen => ?_⟩
    obtain ⟨none,-,noC,same⟩ := placed.2 seen
    exact ⟨by rw [none,Nat.zero_mul],noC,same⟩
  | @alongC dim c t dims voxel named below rest hypothesis =>
    obtain ⟨later,short⟩ := checkOrder_outer (.inr (by rw [named]; decide)) checked
    have placed := position_outer (by rw [isKept,named]; decide) below short
      (hypothesis (fun other member => listed other (List.mem_cons_of_mem _ member)) later)
    rw [strideOn_cons,strideOn_cons,if_neg (by rw [named]; decide),if_pos named]
    simp only [Nat.zero_mul,Nat.add_zero] at placed
    refine ⟨by rw [placed.1,Nat.add_comm (c*_)],fun seen => ?_⟩
    obtain ⟨none,noT,-,same⟩ := placed.2 seen
    exact ⟨noT,by rw [none,Nat.zero_mul],same⟩
  | @pinned dim t c dims voxel unknown below rest hypothesis =>
    obtain ⟨inner,notT,notC⟩ := axisIndex_eq_none_iff.mp unknown
    obtain ⟨later,short⟩ := checkOrder_outer (.inl (pinned dim.1 unknown (listed dim List.mem_cons_self))) checked
    have placed := position_outer inner below short
      (hypothesis (fun other member => listed other (List.mem_cons_of_mem _ member)) later)
    rw [strideOn_cons,strideOn_cons,if_neg notT,if_neg notC]
    simp only [Nat.zero_mul,Nat.zero_add] at placed
    exact ⟨placed.1,fun seen => (placed.2 seen).2⟩

theorem keptIndices_digits (selected : InWireChunk t c dims voxel) :
    Digits (dimSizes (dims.filter isKept)) (keptIndices dims voxel) := by
  induction selected with
  | nil => exact .nil
  | kept inner below rest hypothesis =>
    rw [keptIndices_cons,if_pos inner,List.filter_cons_of_pos inner]
    exact .cons below hypothesis
  | @alongT dim _ _ _ _ named below rest hypothesis =>
    have outer : ¬isKept dim := by rw [isKept,named]; decide
    rwa [keptIndices_cons,if_neg outer,List.filter_cons_of_neg outer]
  | @alongC dim _ _ _ _ named below rest hypothesis =>
    have outer : ¬isKept dim := by rw [isKept,named]; decide
    rwa [keptIndices_cons,if_neg outer,List.filter_cons_of_neg outer]
  | @pinned dim _ _ _ _ unknown below rest hypothesis =>
    have outer : ¬isKept dim := by rw [isKept,(axisIndex_eq_none_iff.mp unknown).1]; exact Bool.false_ne_true
    rwa [keptIndices_cons,if_neg outer,List.filter_cons_of_neg outer]

theorem sizeOn_cons (dim : String × UInt64) : sizeOn name (dim::dims) =
    if toAsciiLowercase dim.1 = name then dim.2.toNat else sizeOn name dims := rfl

theorem exists_voxel (positive : ∀ dim ∈ dims, 0 < dim.2.toNat) (belowT : t < sizeOn "t" dims) (belowC : c < sizeOn "c" dims)
    {indices : List Nat} (digits : Digits (dimSizes (dims.filter isKept)) indices) :
    ∃ voxel, InWireChunk t c dims voxel ∧ keptIndices dims voxel = indices := by
  induction dims generalizing t c indices with
  | nil =>
    cases digits
    exact ⟨[],.nil,rfl⟩
  | cons dim dims hypothesis =>
    have later : ∀ other ∈ dims, 0 < other.2.toNat := fun other member => positive other (List.mem_cons_of_mem _ member)
    rw [sizeOn_cons] at belowT belowC
    by_cases inner : isKept dim
    · have notT : toAsciiLowercase dim.1 ≠ "t" := fun same => by
        rw [isKept,same] at inner
        exact absurd inner (by decide)
      have notC : toAsciiLowercase dim.1 ≠ "c" := fun same => by
        rw [isKept,same] at inner
        exact absurd inner (by decide)
      rw [if_neg notT] at belowT
      rw [if_neg notC] at belowC
      rw [List.filter_cons_of_pos inner] at digits
      cases digits with
      | @cons _ index _ indices below digits =>
        obtain ⟨voxel,selected,same⟩ := hypothesis later belowT belowC digits
        exact ⟨index::voxel,.kept inner below selected,by rw [keptIndices_cons,if_pos inner,same]⟩
    · rw [List.filter_cons_of_neg inner] at digits
      by_cases alongT : toAsciiLowercase dim.1 = "t"
      · rw [if_pos alongT] at belowT
        rw [if_neg (by rw [alongT]; decide)] at belowC
        obtain ⟨voxel,selected,same⟩ := hypothesis later (sizeOn_pos later) belowC digits
        exact ⟨t::voxel,.alongT alongT belowT selected,by rw [keptIndices_cons,if_neg inner,same]⟩
      · rw [if_neg alongT] at belowT
        by_cases alongC : toAsciiLowercase dim.1 = "c"
        · rw [if_pos alongC] at belowC
          obtain ⟨voxel,selected,same⟩ := hypothesis later belowT (sizeOn_pos later) digits
          exact ⟨c::voxel,.alongC alongC belowC selected,by rw [keptIndices_cons,if_neg inner,same]⟩
        · rw [if_neg alongC] at belowC
          obtain ⟨voxel,selected,same⟩ := hypothesis later belowT belowC digits
          have unknown : axisIndex dim.1 = none :=
            axisIndex_eq_none_iff.mpr ⟨Bool.eq_false_iff.mpr inner,alongT,alongC⟩
          exact ⟨0::voxel,.pinned unknown (positive dim List.mem_cons_self) selected,by rw [keptIndices_cons,if_neg inner,same]⟩

end

section
variable {axes : List String} {chunkShape rawShape : List UInt64} {layout : ChunkByteLayout}

theorem classified_pinned (name : String) (unknown : axisIndex name = none) (listed : name ∈ axes) :
    toAsciiLowercase name ∈ (classifyAxes axes rawShape).pinned.map fun axis => toAsciiLowercase axis.name := by
  obtain ⟨i,found⟩ := List.mem_iff_getElem?.mp listed
  refine List.mem_map.mpr ⟨⟨name,rawShape.getD i 0,0⟩,List.mem_filterMap.mpr ⟨(name,i),?_,?_⟩,rfl⟩
  · exact List.mk_mem_zipIdx_iff_getElem?.mpr found
  · show (if (axisIndex name).isSome then none else some _) = some _
    rw [unknown]
    rfl

theorem intra_lt (positive : 0 < size) (wire : Nat) : ChunkByteLayout.intra wire size < size := by
  have below := intra_le wire size
  omega

theorem intra_bundledStride (dtypeSize wire : Nat) (name : String) (dims : List (String × UInt64)) :
    ChunkByteLayout.intra wire (sizeOn name dims)*bundledStride dtypeSize name dims =
      ChunkByteLayout.intra wire (sizeOn name dims)*strideOn dtypeSize name dims := by
  unfold bundledStride
  split
  · rename_i single
    rw [ChunkByteLayout.intra,if_neg (Nat.not_lt.mpr single),Nat.zero_mul,Nat.zero_mul]
  · rfl

-- The range of a wire chunk lies in the chunk, is made of the bytes of its voxels,
-- and has them in the order of the kept axes.
structure SlicesWireChunk (layout : ChunkByteLayout) (dtypeSize : Nat) (dims : List (String × UInt64)) (wireT wireC : Nat) :
    Prop where
  within : (layout.sliceRange wireT wireC).1+(layout.sliceRange wireT wireC).2 ≤ layout.onDiskByteSize
  positions : ∀ position, InSlice dtypeSize wireT wireC dims position ↔
    (layout.sliceRange wireT wireC).1 ≤ position ∧ position < (layout.sliceRange wireT wireC).1+(layout.sliceRange wireT wireC).2
  ordered : ∀ voxel,
    InWireChunk (ChunkByteLayout.intra wireT (sizeOn "t" dims)) (ChunkByteLayout.intra wireC (sizeOn "c" dims)) dims voxel →
      dtypeSize*flatten (dimSizes dims) voxel = (layout.sliceRange wireT wireC).1+
        dtypeSize*flatten (dimSizes (dims.filter isKept)) (keptIndices dims voxel)

theorem slicesWireChunk {dtypeSize : Nat} (positive : 0 ∉ chunkShape) (small : dtypeSize < 2^64)
    (computed : computeChunkByteLayout axes chunkShape dtypeSize (classifyAxes axes rawShape).pinned = .ok layout)
    (wireT wireC : Nat) : SlicesWireChunk layout dtypeSize (axes.zip chunkShape) wireT wireC := by
  have dims : ∀ dim ∈ axes.zip chunkShape, 0 < dim.2.toNat := zip_positive positive
  have accepted := compute_accepted positive small computed
  have range := accepted.sliceRange_eq positive classified_not_kept wireT wireC
  have within := accepted.slice_fits positive classified_not_kept wireT wireC
  obtain ⟨-,-,checked,rfl⟩ := compute_eq positive small computed
  simp only [intra_bundledStride] at range within
  have unkept : ∀ name ∈ (classifyAxes axes rawShape).pinned.map fun axis => toAsciiLowercase axis.name,
      isKeptCanonical name = false := by
    intro name member
    obtain ⟨axis,owned,rfl⟩ := List.mem_map.mp member
    exact classified_not_kept axis owned
  have listed : ∀ dim ∈ axes.zip chunkShape, dim.1 ∈ axes := fun dim member => (List.of_mem_zip member).1
  refine ⟨?_,fun position => ?_,fun voxel selected => ?_⟩
  · rw [range]
    exact within
  · rw [range]
    constructor
    · rintro ⟨voxel,selected,first,last⟩
      have start := (position_of_voxel dtypeSize classified_pinned unkept listed selected checked).1
      have place := flatten_lt (keptIndices_digits selected)
      rw [← keptVolume_eq_prod] at place
      have whole := Nat.mul_le_mul_left dtypeSize (Nat.succ_le_of_lt place)
      rw [Nat.mul_succ] at whole
      rw [start] at first last
      dsimp only
      omega
    · intro inside
      dsimp only at inside
      generalize offset : ChunkByteLayout.intra wireT _*_+ChunkByteLayout.intra wireC _*_ = start at inside
      have some : 0 < dtypeSize := by
        by_contra none
        rw [Nat.eq_zero_of_not_pos none,Nat.zero_mul] at inside
        omega
      have place : (position-start)/dtypeSize < (dimSizes ((axes.zip chunkShape).filter isKept)).prod := by
        rw [← keptVolume_eq_prod]
        exact Nat.div_lt_of_lt_mul (by omega)
      have kept : ∀ size ∈ dimSizes ((axes.zip chunkShape).filter isKept), 0 < size := by
        intro size member
        obtain ⟨dim,listed,rfl⟩ := List.mem_map.mp member
        exact dims dim (List.mem_filter.mp listed).1
      obtain ⟨voxel,selected,same⟩ := exists_voxel dims (intra_lt (sizeOn_pos dims) wireT) (intra_lt (sizeOn_pos dims) wireC)
        (unflatten_digits kept place)
      have found := (position_of_voxel dtypeSize classified_pinned unkept listed selected checked).1
      rw [same,flatten_unflatten kept place,offset] at found
      refine ⟨voxel,selected,?_⟩
      rw [BytesOf,found]
      have low := Nat.mul_div_le (position-start) dtypeSize
      have high := Nat.lt_mul_div_succ (position-start) some
      rw [Nat.mul_succ] at high
      omega
  · rw [range]
    exact (position_of_voxel dtypeSize classified_pinned unkept listed selected checked).1

theorem slice_range_is_the_wire_chunk (axes : List String) (chunkShape rawShape : List UInt64) (dtypeSize : UInt8)
    (positive : 0 ∉ chunkShape) :
    (∀ layout, computeChunkByteLayout axes chunkShape dtypeSize.toNat (classifyAxes axes rawShape).pinned = .ok layout →
      ∀ wireT wireC, SlicesWireChunk layout dtypeSize.toNat (axes.zip chunkShape) wireT wireC) ∧
    ∀ wireT wireC, ¬OneRun (InSlice dtypeSize.toNat wireT wireC (axes.zip chunkShape)) →
      ∃ error, computeChunkByteLayout axes chunkShape dtypeSize.toNat (classifyAxes axes rawShape).pinned = .error error := by
  have small : dtypeSize.toNat < 2^64 := dtypeSize.toNat_lt.trans (by decide)
  refine ⟨fun layout computed wireT wireC => slicesWireChunk positive small computed wireT wireC,fun wireT wireC scattered => ?_⟩
  cases computed : computeChunkByteLayout axes chunkShape dtypeSize.toNat (classifyAxes axes rawShape).pinned with
  | error error => exact ⟨error,rfl⟩
  | ok layout => exact absurd ⟨_,_,(slicesWireChunk positive small computed wireT wireC).positions⟩ scattered

-- Two times and three channels bundled in a chunk, after an axis that is pinned.
theorem slice_range_of_a_bundled_chunk :
    SlicesWireChunk ⟨40,480,120,40,2,3⟩ 2 (["m","T","z","c","y","x"].zip [2,2,1,3,4,5]) 3 4 :=
  (slice_range_is_the_wire_chunk ["m","T","z","c","y","x"] [2,2,1,3,4,5] [2,9,9,9,9,9] 2 (by decide)).1 _ (by decide) 3 4

end

end Lucida.Store
