import Lucida.Content.Manifest
import Lucida.Lib.Checked
import Lucida.Lib.Text

namespace Lucida.Store
open Content Lib

structure PinnedAxis where
  name : String
  size : UInt64
  pinnedIndex : UInt64
  deriving DecidableEq, Repr

structure AxisLayout where
  canonicalNames : List String
  pinned : List PinnedAxis
  deriving DecidableEq, Repr

def axisIndex (name : String) : Option Nat := ["t","c","z","y","x"].idxOf? (toAsciiLowercase name)

def classifyAxes (axesNames : List String) (rawShape : List UInt64) : AxisLayout where
  canonicalNames := axesNames.filter fun name => (axisIndex name).isSome
  pinned := axesNames.zipIdx.filterMap fun (name,i) =>
    if (axisIndex name).isSome then none else some ⟨name,rawShape.getD i 0,0⟩

def dataTypeSize : DataType → Nat
  | .uint8 => 1
  | .uint16 => 2
  | .uint32 | .float32 => 4
  | .float64 => 8

def eqIgnoreAsciiCase (left right : String) : Bool := toAsciiLowercase left = toAsciiLowercase right

def axisValue (axes : List String) (values : List UInt64) (name : String) : Option UInt64 :=
  (axes.findIdx? (eqIgnoreAsciiCase · name)).bind (values[·]?)

structure ChunkByteLayout where
  canonicalByteSize : Nat
  onDiskByteSize : Nat
  byteStrideT : Nat
  byteStrideC : Nat
  chunkSizeT : Nat
  chunkSizeC : Nat
  deriving DecidableEq, Repr

def saturating (limit n : Nat) : Nat := min n (limit-1)

namespace ChunkByteLayout

def intra (wire chunkSize : Nat) : Nat := if chunkSize > 1 then wire % chunkSize else 0

def sliceRange (layout : ChunkByteLayout) (wireT wireC : Nat) : Nat × Nat :=
  let alongT := saturating (2^64) (intra wireT layout.chunkSizeT * layout.byteStrideT)
  let alongC := saturating (2^64) (intra wireC layout.chunkSizeC * layout.byteStrideC)
  (saturating (2^64) (alongT+alongC),layout.canonicalByteSize)

end ChunkByteLayout

-- The metadata errors, each with the values its text shows.
inductive LayoutError where
  | lengthMismatch (axes chunkShape : Nat)
  | onDiskTooLarge
  | canonicalTooLarge
  | strideTooLarge (axis : String)
  | notFirst (axis : String) (chunkSize : UInt64) (pinned : Bool) (axes : List String)
  deriving DecidableEq, Repr

def isKeptCanonical (lowerName : String) : Bool := lowerName ∈ ["z","y","x"]

def isCanonicalIndexed (lowerName : String) : Bool := lowerName ∈ ["t","c"]

section
variable (dtypeSize : Nat)

def toUsize (error : LayoutError) (n : Nat) : Except LayoutError Nat := if n < 2^64 then .ok n else .error error

def onDisk (dims : List (String × UInt64)) : Nat :=
  dims.foldl (fun size dim => saturating (2^128) (size*dim.2.toNat)) dtypeSize

def canonical (dims : List (String × UInt64)) : Nat :=
  dims.foldl (fun size dim => if isKeptCanonical (toAsciiLowercase dim.1) then saturating (2^128) (size*dim.2.toNat) else size)
    dtypeSize

-- The walk from the last axis to the first: the strides of `t` and `c`, and the current one.
def strides : List (String × UInt64) → Except LayoutError (Nat × Nat × Nat)
  | [] => .ok (0,0,dtypeSize)
  | (name,dim)::rest => do
    let (strideT,strideC,current) ← strides rest
    let lower := toAsciiLowercase name
    let strideT ← if lower = "t" then toUsize (.strideTooLarge "t") current else .ok strideT
    let strideC ← if lower = "c" then toUsize (.strideTooLarge "c") current else .ok strideC
    return (strideT,strideC,saturating (2^128) (current*dim.toNat))

end

-- No indexed or pinned axis of more than one index may follow a kept one.
def checkOrder (pinnedNames axes : List String) : Bool → List (String × UInt64) → Except LayoutError Unit
  | _,[] => .ok ()
  | seenInner,(name,dim)::rest =>
    let lower := toAsciiLowercase name
    let isPinned := lower ∈ pinnedNames
    if dim.toNat ≤ 1 then checkOrder pinnedNames axes seenInner rest
    else if isPinned ∨ isCanonicalIndexed lower then
      if seenInner then .error (.notFirst name dim isPinned axes) else checkOrder pinnedNames axes seenInner rest
    else checkOrder pinnedNames axes true rest

def computeChunkByteLayout (axes : List String) (chunkShape : List UInt64) (dtypeSize : Nat) (pinned : List PinnedAxis) :
    Except LayoutError ChunkByteLayout := do
  if axes.length ≠ chunkShape.length then throw (.lengthMismatch axes.length chunkShape.length)
  let dims := axes.zip chunkShape
  let onDiskByteSize ← toUsize .onDiskTooLarge (onDisk dtypeSize dims)
  let canonicalByteSize ← toUsize .canonicalTooLarge (canonical dtypeSize dims)
  let (strideT,strideC,_) ← strides dtypeSize dims
  let chunkSizeT := ((axisValue axes chunkShape "t").getD 1).toNat
  let chunkSizeC := ((axisValue axes chunkShape "c").getD 1).toNat
  let byteStrideT := if chunkSizeT ≤ 1 then 0 else strideT
  let byteStrideC := if chunkSizeC ≤ 1 then 0 else strideC
  checkOrder (pinned.map fun axis => toAsciiLowercase axis.name) axes false dims
  return ⟨canonicalByteSize,onDiskByteSize,byteStrideT,byteStrideC,chunkSizeT,chunkSizeC⟩

-- A channel-bundled chunk.
example : computeChunkByteLayout ["c","y","x"] [4,100,200] 2 [] = .ok ⟨40000,160000,0,40000,1,4⟩ := by decide

def volume : List (String × UInt64) → Nat
  | [] => 1
  | dim::rest => dim.2.toNat*volume rest

def keptVolume : List (String × UInt64) → Nat
  | [] => 1
  | dim::rest => if isKeptCanonical (toAsciiLowercase dim.1) then dim.2.toNat*keptVolume rest else keptVolume rest

-- The size on the first axis of that name, and 1 where there is none.
def sizeOn (name : String) : List (String × UInt64) → Nat
  | [] => 1
  | dim::rest => if toAsciiLowercase dim.1 = name then dim.2.toNat else sizeOn name rest

def strideOn (dtypeSize : Nat) (name : String) : List (String × UInt64) → Nat
  | [] => 0
  | dim::rest => if toAsciiLowercase dim.1 = name then dtypeSize*volume rest else strideOn dtypeSize name rest

section
variable {dims : List (String × UInt64)} {dtypeSize limit : Nat}

theorem volume_pos (positive : ∀ dim ∈ dims, 0 < dim.2.toNat) : 0 < volume dims := by
  induction dims with
  | nil => exact Nat.one_pos
  | cons dim rest ih =>
    have here := positive dim List.mem_cons_self
    have later := ih fun other member => positive other (List.mem_cons_of_mem _ member)
    exact Nat.mul_pos here later

theorem keptVolume_pos (positive : ∀ dim ∈ dims, 0 < dim.2.toNat) : 0 < keptVolume dims := by
  induction dims with
  | nil => exact Nat.one_pos
  | cons dim rest ih =>
    have here := positive dim List.mem_cons_self
    have later := ih fun other member => positive other (List.mem_cons_of_mem _ member)
    unfold keptVolume
    split
    · exact Nat.mul_pos here later
    · exact later

theorem saturating_of_lt (fits : n < limit) : saturating limit n = n := by
  unfold saturating
  omega

theorem lt_of_saturating_lt {bound : Nat} (low : bound < limit) (fits : saturating limit n < bound) : n < bound := by
  unfold saturating at fits
  omega

theorem saturating_mul (positive : 0 < m) : saturating limit (saturating limit n*m) = saturating limit (n*m) := by
  unfold saturating
  rcases Nat.le_total n (limit-1) with low | high
  · rw [Nat.min_eq_left low]
  · have past : limit-1 ≤ (limit-1)*m := Nat.le_mul_of_pos_right _ positive
    have past' : (limit-1)*m ≤ n*m := Nat.mul_le_mul_right _ high
    rw [Nat.min_eq_right high,Nat.min_eq_right past,Nat.min_eq_right (Nat.le_trans past past')]

theorem onDisk_eq (positive : ∀ dim ∈ dims, 0 < dim.2.toNat) (small : dtypeSize < 2^128) :
    onDisk dtypeSize dims = saturating (2^128) (dtypeSize*volume dims) := by
  unfold onDisk
  rw [← saturating_of_lt small]
  generalize dtypeSize = size
  induction dims generalizing size with
  | nil => simp [volume,saturating]
  | cons dim rest ih =>
    have here := positive dim List.mem_cons_self
    have positive' : ∀ other ∈ rest, 0 < other.2.toNat := fun other member => positive other (List.mem_cons_of_mem _ member)
    rw [List.foldl_cons,saturating_mul here,ih positive',volume,saturating_mul (volume_pos positive'),
      saturating_mul (Nat.mul_pos here (volume_pos positive')),Nat.mul_assoc]

theorem canonical_eq (positive : ∀ dim ∈ dims, 0 < dim.2.toNat) (small : dtypeSize < 2^128) :
    canonical dtypeSize dims = saturating (2^128) (dtypeSize*keptVolume dims) := by
  unfold canonical
  rw [← saturating_of_lt small]
  generalize dtypeSize = size
  induction dims generalizing size with
  | nil => simp [keptVolume,saturating]
  | cons dim rest ih =>
    have here := positive dim List.mem_cons_self
    have positive' : ∀ other ∈ rest, 0 < other.2.toNat := fun other member => positive other (List.mem_cons_of_mem _ member)
    rw [List.foldl_cons,keptVolume]
    split
    · rw [saturating_mul here,ih positive',saturating_mul (keptVolume_pos positive'),
        saturating_mul (Nat.mul_pos here (keptVolume_pos positive')),Nat.mul_assoc]
    · exact ih positive' size

theorem strides_eq (positive : ∀ dim ∈ dims, 0 < dim.2.toNat) (fits : dtypeSize*volume dims < 2^64) :
    strides dtypeSize dims = .ok (strideOn dtypeSize "t" dims,strideOn dtypeSize "c" dims,dtypeSize*volume dims) := by
  induction dims with
  | nil => simp [strides,strideOn,volume]
  | cons dim rest ih =>
    have here := positive dim List.mem_cons_self
    have grows : dtypeSize*volume rest ≤ dtypeSize*volume (dim::rest) :=
      Nat.mul_le_mul_left _ (Nat.le_mul_of_pos_left _ here)
    have fits' : dtypeSize*volume rest < 2^64 := Nat.lt_of_le_of_lt grows fits
    have current : dtypeSize*volume rest*dim.2.toNat = dtypeSize*volume (dim::rest) := by
      rw [volume,Nat.mul_comm dim.2.toNat,Nat.mul_assoc]
    have unsaturated : saturating (2^128) (dtypeSize*volume rest*dim.2.toNat) = dtypeSize*volume (dim::rest) := by
      rw [current]
      exact saturating_of_lt (Nat.lt_of_lt_of_le fits (by decide))
    simp only [strides,ih (fun other member => positive other (List.mem_cons_of_mem _ member)) fits',bind,Except.bind,pure,Except.pure,
      unsaturated,strideOn,toUsize,fits',if_true]
    split <;> split <;> rfl

theorem sizeOn_pos (positive : ∀ dim ∈ dims, 0 < dim.2.toNat) : 0 < sizeOn name dims := by
  induction dims with
  | nil => exact Nat.one_pos
  | cons dim rest ih =>
    unfold sizeOn
    split
    · exact positive dim List.mem_cons_self
    · exact ih fun other member => positive other (List.mem_cons_of_mem _ member)

theorem keptVolume_le (positive : ∀ dim ∈ dims, 0 < dim.2.toNat) : keptVolume dims ≤ volume dims := by
  induction dims with
  | nil => exact Nat.le_refl 1
  | cons dim rest ih =>
    have later := ih fun other member => positive other (List.mem_cons_of_mem _ member)
    unfold keptVolume volume
    split
    · exact Nat.mul_le_mul_left _ later
    · exact Nat.le_trans later (Nat.le_mul_of_pos_left _ (positive dim List.mem_cons_self))

def spanOn (dtypeSize : Nat) (name : String) (dims : List (String × UInt64)) : Nat :=
  (sizeOn name dims-1)*strideOn dtypeSize name dims

theorem spanOn_cons (dim : String × UInt64) : spanOn dtypeSize name (dim::dims) =
    if toAsciiLowercase dim.1 = name then (dim.2.toNat-1)*(dtypeSize*volume dims) else spanOn dtypeSize name dims := by
  simp only [spanOn,sizeOn,strideOn]
  split <;> rfl

variable {pinnedNames axes : List String}

theorem checkOrder_cons {seenInner : Bool} {dim : String × UInt64} (checked : checkOrder pinnedNames axes seenInner (dim::dims) = .ok ()) :
    (dim.2.toNat ≤ 1 ∧ checkOrder pinnedNames axes seenInner dims = .ok ()) ∨
    ((toAsciiLowercase dim.1 ∈ pinnedNames ∨ isCanonicalIndexed (toAsciiLowercase dim.1)) ∧ seenInner = false ∧
      checkOrder pinnedNames axes false dims = .ok ()) ∨
    isCanonicalIndexed (toAsciiLowercase dim.1) = false ∧ checkOrder pinnedNames axes true dims = .ok () := by
  unfold checkOrder at checked
  dsimp only at checked
  split at checked
  · rename_i single
    exact .inl ⟨single,checked⟩
  · split at checked
    · rename_i outer
      cases seenInner with
      | true => cases checked
      | false => exact .inr (.inl ⟨outer,rfl,checked⟩)
    · rename_i inner
      simp only [not_or,Bool.not_eq_true] at inner
      exact .inr (.inr ⟨inner.2,checked⟩)

theorem spanOn_after_inner (indexed : isCanonicalIndexed name) (checked : checkOrder pinnedNames axes true dims = .ok ()) :
    spanOn dtypeSize name dims = 0 := by
  induction dims with
  | nil => simp [spanOn,strideOn]
  | cons dim rest ih =>
    rw [spanOn_cons]
    rcases checkOrder_cons checked with ⟨single,later⟩ | ⟨_,never,_⟩ | ⟨inner,later⟩
    · rw [ih later,Nat.sub_eq_zero_of_le single,Nat.zero_mul,ite_self]
    · cases never
    · rw [if_neg,ih later]
      intro same
      rw [same,indexed] at inner
      cases inner

theorem spans_fit (positive : ∀ dim ∈ dims, 0 < dim.2.toNat) (pinned : ∀ name ∈ pinnedNames, isKeptCanonical name = false)
    (checked : checkOrder pinnedNames axes false dims = .ok ()) :
    spanOn dtypeSize "t" dims+spanOn dtypeSize "c" dims+dtypeSize*keptVolume dims ≤ dtypeSize*volume dims := by
  induction dims with
  | nil => simp [spanOn,strideOn,keptVolume,volume]
  | cons dim rest ih =>
    have here := positive dim List.mem_cons_self
    have positive' : ∀ other ∈ rest, 0 < other.2.toNat := fun other member => positive other (List.mem_cons_of_mem _ member)
    have grows : dtypeSize*volume rest ≤ dtypeSize*volume (dim::rest) :=
      Nat.mul_le_mul_left _ (Nat.le_mul_of_pos_left _ here)
    have steps : (dim.2.toNat-1)*(dtypeSize*volume rest)+dtypeSize*volume rest = dtypeSize*volume (dim::rest) := by
      rw [← Nat.succ_mul,Nat.succ_eq_add_one,Nat.sub_add_cancel here,volume,Nat.mul_left_comm]
    rw [spanOn_cons,spanOn_cons]
    have outer (dropped : keptVolume (dim::rest) = keptVolume rest) (later : checkOrder pinnedNames axes false rest = .ok ()) :
        (if toAsciiLowercase dim.1 = "t" then (dim.2.toNat-1)*(dtypeSize*volume rest) else spanOn dtypeSize "t" rest)+
          (if toAsciiLowercase dim.1 = "c" then (dim.2.toNat-1)*(dtypeSize*volume rest) else spanOn dtypeSize "c" rest)+
          dtypeSize*keptVolume (dim::rest) ≤ dtypeSize*volume (dim::rest) := by
      have fits := ih positive' later
      rw [dropped]
      by_cases alongT : toAsciiLowercase dim.1 = "t"
      · rw [if_pos alongT,if_neg (by rw [alongT]; decide)]
        omega
      · rw [if_neg alongT]
        split <;> omega
    rcases checkOrder_cons checked with ⟨single,later⟩ | ⟨indexed,_,later⟩ | ⟨inner,later⟩
    · refine outer ?_ later
      have one : dim.2.toNat = 1 := by omega
      simp only [keptVolume,one,Nat.one_mul,ite_self]
    · refine outer ?_ later
      have dropped : isKeptCanonical (toAsciiLowercase dim.1) = false := by
        rcases indexed with member | indexed
        · exact pinned _ member
        · simp only [isCanonicalIndexed,List.mem_cons,List.not_mem_nil,or_false,decide_eq_true_eq] at indexed
          rcases indexed with same | same <;> (rw [same]; decide)
      rw [keptVolume,dropped]
      rfl
    · have alongT : toAsciiLowercase dim.1 ≠ "t" := by
        intro same
        rw [same] at inner
        cases inner
      have alongC : toAsciiLowercase dim.1 ≠ "c" := by
        intro same
        rw [same] at inner
        cases inner
      rw [if_neg alongT,if_neg alongC,spanOn_after_inner (by decide) later,spanOn_after_inner (by decide) later]
      have kept := Nat.mul_le_mul_left dtypeSize (keptVolume_le positive)
      omega

end

section
variable {axes : List String} {values chunkShape : List UInt64} {dtypeSize : Nat} {layout : ChunkByteLayout}

theorem axisValue_eq (lower : toAsciiLowercase name = name) (paired : axes.length = values.length) :
    ((axisValue axes values name).getD 1).toNat = sizeOn name (axes.zip values) := by
  induction axes generalizing values with
  | nil => rfl
  | cons axis axes ih =>
    cases values with
    | nil => cases paired
    | cons value values =>
      have later := ih (Nat.succ.inj paired)
      unfold axisValue at later ⊢
      rw [List.zip_cons_cons,sizeOn,List.findIdx?_cons,eqIgnoreAsciiCase,lower]
      by_cases same : toAsciiLowercase axis = name
      · simp [same]
      · simp only [same,decide_false,Bool.false_eq_true,if_false,Option.bind_map]
        exact later

theorem zip_positive (positive : 0 ∉ values) : ∀ dim ∈ axes.zip values, 0 < dim.2.toNat := by
  intro ⟨name,value⟩ member
  have here : value ∈ values := (List.of_mem_zip member).2
  refine Nat.pos_of_ne_zero fun zero => positive ?_
  rwa [show value = 0 from UInt64.toNat.inj zero] at here

structure Accepted (axes : List String) (chunkShape : List UInt64) (dtypeSize : Nat) (pinned : List PinnedAxis)
    (layout : ChunkByteLayout) : Prop where
  paired : axes.length = chunkShape.length
  fits : dtypeSize*volume (axes.zip chunkShape) < 2^64
  onDisk : layout.onDiskByteSize = dtypeSize*volume (axes.zip chunkShape)
  canonical : layout.canonicalByteSize = dtypeSize*keptVolume (axes.zip chunkShape)
  spanT : (layout.chunkSizeT-1)*layout.byteStrideT = spanOn dtypeSize "t" (axes.zip chunkShape)
  spanC : (layout.chunkSizeC-1)*layout.byteStrideC = spanOn dtypeSize "c" (axes.zip chunkShape)
  ordered : checkOrder (pinned.map fun axis => toAsciiLowercase axis.name) axes false (axes.zip chunkShape) = .ok ()

theorem toUsize_ok (passed : toUsize error n = .ok size) : size = n ∧ n < 2^64 := by
  unfold toUsize at passed
  split at passed
  · rename_i fits
    cases passed
    exact ⟨rfl,fits⟩
  · cases passed

def bundledStride (dtypeSize : Nat) (name : String) (dims : List (String × UInt64)) : Nat :=
  if sizeOn name dims ≤ 1 then 0 else strideOn dtypeSize name dims

theorem compute_eq {pinned : List PinnedAxis} (positive : 0 ∉ chunkShape) (small : dtypeSize < 2^64)
    (computed : computeChunkByteLayout axes chunkShape dtypeSize pinned = .ok layout) :
    axes.length = chunkShape.length ∧ dtypeSize*volume (axes.zip chunkShape) < 2^64 ∧
      checkOrder (pinned.map fun axis => toAsciiLowercase axis.name) axes false (axes.zip chunkShape) = .ok () ∧
      layout = ⟨dtypeSize*keptVolume (axes.zip chunkShape),dtypeSize*volume (axes.zip chunkShape),
        bundledStride dtypeSize "t" (axes.zip chunkShape),bundledStride dtypeSize "c" (axes.zip chunkShape),
        sizeOn "t" (axes.zip chunkShape),sizeOn "c" (axes.zip chunkShape)⟩ := by
  have dims : ∀ dim ∈ axes.zip chunkShape, 0 < dim.2.toNat := zip_positive positive
  have small' : dtypeSize < 2^128 := Nat.lt_of_lt_of_le small (by decide)
  unfold computeChunkByteLayout at computed
  split at computed
  · cases computed
  · rename_i paired
    have paired' : axes.length = chunkShape.length := by simpa using paired
    simp only at computed
    obtain ⟨onDisk',sized,computed⟩ := bind_ok computed
    obtain ⟨canonical',sized',computed⟩ := bind_ok computed
    rw [onDisk_eq dims small'] at sized
    rw [canonical_eq dims small'] at sized'
    obtain ⟨whole,below⟩ := toUsize_ok sized
    obtain ⟨part,below'⟩ := toUsize_ok sized'
    have fits := lt_of_saturating_lt (by decide) below
    have fits' := lt_of_saturating_lt (by decide) below'
    rw [saturating_of_lt (Nat.lt_of_lt_of_le fits (by decide))] at whole
    rw [saturating_of_lt (Nat.lt_of_lt_of_le fits' (by decide))] at part
    rw [strides_eq dims fits] at computed
    obtain ⟨_,same,computed⟩ := bind_ok computed
    cases same
    obtain ⟨_,ordered,computed⟩ := bind_ok computed
    cases computed
    refine ⟨paired',fits,ordered,?_⟩
    rw [axisValue_eq (by decide) paired',axisValue_eq (by decide) paired',whole,part]
    rfl

theorem bundled_span (dtypeSize : Nat) (name : String) (dims : List (String × UInt64)) :
    (sizeOn name dims-1)*bundledStride dtypeSize name dims = spanOn dtypeSize name dims := by
  rw [bundledStride,spanOn]
  split
  · rename_i single
    rw [Nat.sub_eq_zero_of_le single,Nat.zero_mul,Nat.zero_mul]
  · rfl

theorem compute_accepted {pinned : List PinnedAxis} (positive : 0 ∉ chunkShape) (small : dtypeSize < 2^64)
    (computed : computeChunkByteLayout axes chunkShape dtypeSize pinned = .ok layout) :
    Accepted axes chunkShape dtypeSize pinned layout := by
  obtain ⟨paired,fits,ordered,rfl⟩ := compute_eq positive small computed
  exact ⟨paired,fits,rfl,rfl,bundled_span _ _ _,bundled_span _ _ _,ordered⟩

theorem intra_le (wire chunkSize : Nat) : ChunkByteLayout.intra wire chunkSize ≤ chunkSize-1 := by
  unfold ChunkByteLayout.intra
  split
  · rename_i bundled
    have below := Nat.mod_lt wire (Nat.lt_trans Nat.one_pos bundled)
    omega
  · exact Nat.zero_le _

theorem Accepted.slice_fits {pinned : List PinnedAxis} (accepted : Accepted axes chunkShape dtypeSize pinned layout)
    (positive : 0 ∉ chunkShape) (classified : ∀ axis ∈ pinned, isKeptCanonical (toAsciiLowercase axis.name) = false) (wireT wireC : Nat) :
    ChunkByteLayout.intra wireT layout.chunkSizeT*layout.byteStrideT+ChunkByteLayout.intra wireC layout.chunkSizeC*layout.byteStrideC+
      layout.canonicalByteSize ≤ layout.onDiskByteSize := by
  have pinned' : ∀ name ∈ pinned.map fun axis => toAsciiLowercase axis.name, isKeptCanonical name = false := by
    intro name member
    obtain ⟨axis,owned,rfl⟩ := List.mem_map.mp member
    exact classified axis owned
  have spans : spanOn dtypeSize "t" (axes.zip chunkShape)+spanOn dtypeSize "c" (axes.zip chunkShape)+
      dtypeSize*keptVolume (axes.zip chunkShape) ≤ dtypeSize*volume (axes.zip chunkShape) :=
    spans_fit (zip_positive positive) pinned' accepted.ordered
  rw [← accepted.spanT,← accepted.spanC,← accepted.canonical,← accepted.onDisk] at spans
  have alongT := Nat.mul_le_mul_right layout.byteStrideT (intra_le wireT layout.chunkSizeT)
  have alongC := Nat.mul_le_mul_right layout.byteStrideC (intra_le wireC layout.chunkSizeC)
  omega

theorem Accepted.sliceRange_eq {pinned : List PinnedAxis} (accepted : Accepted axes chunkShape dtypeSize pinned layout)
    (positive : 0 ∉ chunkShape) (classified : ∀ axis ∈ pinned, isKeptCanonical (toAsciiLowercase axis.name) = false) (wireT wireC : Nat) :
    layout.sliceRange wireT wireC =
      (ChunkByteLayout.intra wireT layout.chunkSizeT*layout.byteStrideT+
        ChunkByteLayout.intra wireC layout.chunkSizeC*layout.byteStrideC,layout.canonicalByteSize) := by
  have within := accepted.slice_fits positive classified wireT wireC
  have short : layout.onDiskByteSize < 2^64 := accepted.onDisk ▸ accepted.fits
  have alongT : ChunkByteLayout.intra wireT layout.chunkSizeT*layout.byteStrideT < 2^64 := by omega
  have alongC : ChunkByteLayout.intra wireC layout.chunkSizeC*layout.byteStrideC < 2^64 := by omega
  simp only [ChunkByteLayout.sliceRange]
  rw [saturating_of_lt alongT,saturating_of_lt alongC,saturating_of_lt (by omega)]

theorem Accepted.slice_within {pinned : List PinnedAxis} (accepted : Accepted axes chunkShape dtypeSize pinned layout)
    (positive : 0 ∉ chunkShape) (classified : ∀ axis ∈ pinned, isKeptCanonical (toAsciiLowercase axis.name) = false) (wireT wireC : Nat) :
    (layout.sliceRange wireT wireC).1+layout.canonicalByteSize ≤ layout.onDiskByteSize := by
  rw [accepted.sliceRange_eq positive classified]
  exact accepted.slice_fits positive classified wireT wireC

theorem classified_not_kept {rawShape : List UInt64} (axis : PinnedAxis) (member : axis ∈ (classifyAxes axes rawShape).pinned) :
    isKeptCanonical (toAsciiLowercase axis.name) = false := by
  obtain ⟨⟨name,i⟩,_,found⟩ := List.mem_filterMap.mp member
  dsimp only at found
  split at found
  · cases found
  · rename_i unknown
    cases found
    have missing : toAsciiLowercase name ∉ ["t","c","z","y","x"] := by
      rw [← List.idxOf?_eq_none_iff]
      exact Option.not_isSome_iff_eq_none.mp unknown
    simp only [isKeptCanonical,decide_eq_false_iff_not]
    intro kept
    exact missing (List.mem_cons_of_mem _ (List.mem_cons_of_mem _ kept))

def keptAxes (axes : List String) : List String := (axes.map toAsciiLowercase).filter isKeptCanonical

theorem sizeOn_absent (absent : ∀ dim ∈ dims, toAsciiLowercase dim.1 ≠ name) : sizeOn name dims = 1 := by
  induction dims with
  | nil => rfl
  | cons dim rest ih =>
    rw [sizeOn,if_neg (absent dim List.mem_cons_self)]
    exact ih fun other member => absent other (List.mem_cons_of_mem _ member)

theorem keptVolume_eq {dims : List (String × UInt64)} (distinct : (keptAxes (dims.map Prod.fst)).Nodup) :
    keptVolume dims = sizeOn "z" dims*sizeOn "y" dims*sizeOn "x" dims := by
  induction dims with
  | nil => rfl
  | cons dim rest ih =>
    simp only [keptAxes,List.map_cons,List.filter_cons] at distinct
    cases kept : isKeptCanonical (toAsciiLowercase dim.1) with
    | true =>
      rw [kept,if_pos rfl,List.nodup_cons] at distinct
      have alone : sizeOn (toAsciiLowercase dim.1) rest = 1 := by
        refine sizeOn_absent fun other member same => distinct.1 ?_
        rw [← same,List.mem_filter]
        refine ⟨List.mem_map.mpr ⟨other.1,List.mem_map_of_mem member,rfl⟩,?_⟩
        rwa [same]
      have later := ih distinct.2
      simp only [isKeptCanonical,List.mem_cons,List.not_mem_nil,or_false,decide_eq_true_eq] at kept
      rw [keptVolume,later]
      rcases kept with same | same | same
      · rw [same] at alone
        simp [sizeOn,same,isKeptCanonical,alone,Nat.mul_assoc]
      · rw [same] at alone
        simp [sizeOn,same,isKeptCanonical,alone,Nat.mul_left_comm,Nat.mul_assoc]
      · rw [same] at alone
        simp [sizeOn,same,isKeptCanonical,alone,Nat.mul_comm]
    | false =>
      rw [kept] at distinct
      have later := ih distinct
      simp only [isKeptCanonical,List.mem_cons,List.not_mem_nil,or_false,decide_eq_false_iff_not,not_or] at kept
      simp only [keptVolume,later,sizeOn,kept.1,kept.2.1,kept.2.2,isKeptCanonical,List.mem_cons,List.not_mem_nil,or_false,
        decide_false,Bool.false_eq_true,if_false]

theorem map_fst_zip (paired : axes.length = values.length) : (axes.zip values).map Prod.fst = axes :=
  List.map_fst_zip (by omega)

end

end Lucida.Store
