import Lucida.Server.DeclaredArray

namespace Lucida.Server
open Content Lib Store
open Store.ChunkCache (Bytes Path)

namespace DeclaredArray
variable (array : DeclaredArray)

def plane : Zyx := ⟨array.chunk.z,array.chunk.y,array.chunk.x⟩

def keySample (t c : Nat) (cell p : Zyx) : Axes Nat :=
  ⟨t,c,cell.z*array.chunk.z+p.z,cell.y*array.chunk.y+p.y,cell.x*array.chunk.x+p.x⟩

section
variable (codecs : Codecs) (objects : ChunkLocation → Except ChunkCache.StoreError Bytes)

-- A chunk of the array, or `none` within if it was never written. There is no chunk to speak of
-- where the store fails or the bytes are not those of a chunk.
def stored (cell : List Nat) : Option (Option Bytes) :=
  match objects (array.location cell) with
  | .error error => if isNotFound error then some none else none
  | .ok storageBytes =>
    match decodeStorageBytes codecs storageBytes array.compression with
    | .error _ => none
    | .ok raw => if raw.length = array.chunkBytes then some (some raw) else none

def sampleAt (at' : Axes Nat) : Option Bytes :=
  (array.stored codecs objects (array.cellOf (array.index at'))).map fun chunk =>
    match chunk with
    | some raw => sample array.width raw (array.numberOf (array.index at'))
    | none => array.fill

end

end DeclaredArray

def ChunkLocation.path : ChunkLocation → Path
  | .object path => path
  | .innerChunk path _ => path

def LiesUnder (directory : String) (path : Path) : Prop :=
  pathFrom directory = "" ∨ (pathFrom directory ++ "/").toList <+: path.toList

-- What a key is answered with: an object under the array's path is read, and if the array has a
-- chunk there, or none yet, the answer has its samples, row by row along `z`, `y` and `x`.
structure Serves (seed : ImageBindingSeed) (array : DeclaredArray) (level t c : Nat) (cell : Zyx) : Prop where
  under : ∃ location, resolve seed (chunkKeyOf level t c cell) = .ok location ∧ LiesUnder array.path location.path
  samples : ∀ codecs objects regridded,
    (array.stored codecs objects (array.cellOf (array.index (array.keySample t c cell ⟨0,0,0⟩)))).isSome →
    ∃ read, readChunk seed codecs objects regridded (chunkKeyOf level t c cell) = .ok read ∧
      read.intoBytes.length = array.plane.volume*array.width ∧
      ∀ p : Zyx, p.All (· < ·) array.plane → array.Inside (array.keySample t c cell p) →
        array.sampleAt codecs objects (array.keySample t c cell p) = some (sample array.width read.intoBytes (array.plane.index p))

section Paths

def pathParts (text : List Char) : List (List Char) := ((text.splitOn '/').map PathPart.ofText).filter (· ≠ [])

theorem pathParts_append (directory name : List Char) : pathParts (directory ++ '/' :: name) = pathParts directory ++ pathParts name := by
  unfold pathParts
  rw [List.splitOn_append_cons_self,List.map_append,List.filter_append]

theorem intercalate_append {first rest : List (List Char)} (some : first ≠ []) (some' : rest ≠ []) :
    ['/'].intercalate (first ++ rest) = ['/'].intercalate first ++ '/' :: ['/'].intercalate rest := by
  obtain ⟨part,first,rfl⟩ := List.exists_cons_of_ne_nil some
  obtain ⟨part',rest,rfl⟩ := List.exists_cons_of_ne_nil some'
  rw [List.cons_append,intercalate_cons,intercalate_cons,intercalate_cons,List.flatMap_append,List.flatMap_cons]
  simp

theorem ofText_some {first : Char} {rest : List Char} (plain : PathPart.encode first = [first]) :
    PathPart.ofText (first::rest) ≠ [] := by
  unfold PathPart.ofText
  split
  · simp
  · split
    · simp
    · rw [List.flatMap_cons,plain]
      simp

-- A name that starts with a character that stands for itself has a part.
theorem pathParts_some {first : Char} {rest : List Char} (plain : PathPart.encode first = [first]) (other : first ≠ '/') :
    pathParts (first::rest) ≠ [] := by
  unfold pathParts
  rw [List.splitOn_cons_eq_if_modifyHead,if_neg (by simpa using other)]
  obtain ⟨part,parts,same⟩ := List.exists_cons_of_ne_nil (List.splitOn_ne_nil '/' rest)
  rw [same,List.modifyHead_cons,List.map_cons,List.filter_cons_of_pos (by simpa using ofText_some plain)]
  exact List.cons_ne_nil _ _

theorem liesUnder_append (directory name : String) (some : pathParts name.toList ≠ []) :
    LiesUnder directory (pathFrom (directory ++ "/" ++ name)) := by
  have joined : (pathFrom (directory ++ "/" ++ name)).toList = ['/'].intercalate (pathParts directory.toList ++ pathParts name.toList) := by
    rw [← pathParts_append,pathFrom,String.toList_ofList]
    simp [pathParts]
  by_cases none : pathParts directory.toList = []
  · left
    exact congrArg (fun parts => String.ofList (['/'].intercalate parts)) none
  · right
    rw [joined,intercalate_append none some,String.toList_append,pathFrom,String.toList_ofList]
    exact ⟨['/'].intercalate (pathParts name.toList),List.append_cons .. |>.symm⟩

theorem toDigits_first (n : Nat) : ∃ first rest, Nat.toDigits 10 n = first::rest ∧ PathPart.encode first = [first] ∧ first ≠ '/' := by
  obtain ⟨first,rest,same⟩ := List.exists_cons_of_ne_nil (show Nat.toDigits 10 n ≠ [] by simp)
  have digit : first.isDigit := toDigits_isDigit (same ▸ List.mem_cons_self)
  refine ⟨first,rest,same,encode_digit digit,?_⟩
  rintro rfl
  exact absurd digit (by decide)

theorem key_first (encoding : KeyEncoding) (coords : List Nat) :
    ∃ first rest, (encoding.key coords).toList = first::rest ∧ PathPart.encode first = [first] ∧ first ≠ '/' := by
  cases encoding with
  | default separator =>
    cases coords with
    | nil => exact ⟨'c',[],by simp [KeyEncoding.key],by decide,by decide⟩
    | cons n coords =>
      refine ⟨'c',(separator ++ separator.intercalate ((n::coords).map toString)).toList,?_,by decide,by decide⟩
      simp [KeyEncoding.key]
  | v2 separator =>
    cases coords with
    | nil => exact ⟨'0',[],by simp [KeyEncoding.key],by decide,by decide⟩
    | cons n coords =>
      obtain ⟨first,rest,digits,plain,other⟩ := toDigits_first n
      have start : (toString n).toList = first::rest := by
        rw [Nat.toString_eq_repr,Nat.repr,String.toList_ofList,digits]
      cases coords with
      | nil => exact ⟨first,rest,by simpa [KeyEncoding.key] using start,plain,other⟩
      | cons m coords =>
        refine ⟨first,rest ++ (separator ++ separator.intercalate ((m::coords).map toString)).toList,?_,plain,other⟩
        simp only [KeyEncoding.key,List.map_cons,String.intercalate_cons_cons,String.toList_append,start]
        simp

theorem liesUnder_objectPath (array : DeclaredArray) (coords : List Nat) : LiesUnder array.path (array.objectPath coords) := by
  obtain ⟨first,rest,start,plain,other⟩ := key_first array.encoding coords
  refine liesUnder_append _ _ ?_
  rw [start]
  exact pathParts_some plain other

end Paths

section Samples
variable {array : DeclaredArray} {t c : Nat} {cell p : Zyx}

theorem map_zip_left {α β γ : Type} {xs : List α} {ys : List β} (paired : xs.length = ys.length) (f : α → γ) :
    (xs.zip ys).map (fun pair => f pair.1) = xs.map f := by
  calc _ = ((xs.zip ys).map Prod.fst).map f := by
        rw [List.map_map]
        rfl
    _ = xs.map f := by rw [List.map_fst_zip (Nat.le_of_eq paired)]

theorem radices_zip {axes : List String} {sizes : List UInt64} (paired : axes.length = sizes.length) :
    (axes.zip sizes).map (fun dim => dim.2.toNat) = radices sizes := by
  calc _ = ((axes.zip sizes).map Prod.snd).map UInt64.toNat := by
        rw [List.map_map]
        rfl
    _ = radices sizes := by rw [List.map_snd_zip (Nat.le_of_eq paired.symm)]; rfl

theorem zipWith_index {f : Nat → Nat → Nat} (zero : ∀ n, f 0 n = 0) (valid : array.Valid) (accepted : array.Accepted) (at' : Axes Nat) :
    List.zipWith f (array.index at') (radices array.chunkShape) = array.axes.map (coordinateOn (axesZip f at' array.chunk)) := by
  have distinct : ((array.dims.map Prod.fst).filterMap axisIndex).Nodup := by
    rw [DeclaredArray.dims,map_fst_zip accepted.chunked]
    exact valid.distinct
  calc _ = List.zipWith (fun name size => f (coordinateOn at' name) size.toNat) array.axes array.chunkShape := List.zipWith_map
    _ = array.dims.map (fun dim => f (coordinateOn at' dim.1) dim.2.toNat) := List.map_uncurry_zip_eq_zipWith.symm
    _ = array.dims.map (fun dim => coordinateOn (axesZip f at' array.chunk) dim.1) := map_coordinates zero distinct at'
    _ = _ := map_zip_left accepted.chunked _

theorem chunk_pos (valid : array.Valid) : 0 < array.chunk.t ∧ 0 < array.chunk.c ∧ 0 < array.plane.z ∧ 0 < array.plane.y ∧ 0 < array.plane.x := by
  have positive : ∀ dim ∈ array.dims, 0 < dim.2.toNat := zip_positive valid.positive
  exact ⟨sizeOn_pos positive,sizeOn_pos positive,sizeOn_pos positive,sizeOn_pos positive,sizeOn_pos positive⟩

theorem div_of_place {cell size p : Nat} (inside : p < size) : (cell*size+p)/size = cell ∧ (cell*size+p)%size = p := by
  constructor
  · rw [Nat.mul_comm,Nat.mul_add_div (Nat.zero_lt_of_lt inside),Nat.div_eq_of_lt inside,Nat.add_zero]
  · rw [Nat.mul_comm,Nat.mul_add_mod,Nat.mod_eq_of_lt inside]

theorem cellOf_keySample (valid : array.Valid) (accepted : array.Accepted) (inside : p.All (· < ·) array.plane) :
    array.cellOf (array.index (array.keySample t c cell p)) = array.keyCoords t c cell := by
  have z : p.z < array.chunk.z := inside.1
  have y : p.y < array.chunk.y := inside.2.1
  have x : p.x < array.chunk.x := inside.2.2
  rw [DeclaredArray.cellOf,zipWith_index (fun n => Nat.zero_div n) valid accepted,DeclaredArray.keyCoords]
  have same : axesZip (· / ·) (array.keySample t c cell p) array.chunk = keyCell array.chunk t c cell := by
    simp only [axesZip,DeclaredArray.keySample,keyCell,(div_of_place z).1,(div_of_place y).1,(div_of_place x).1]
  rw [same]

def DeclaredArray.sliceStart (array : DeclaredArray) (t c : Nat) : Nat :=
  t%array.chunk.t*(stridesOn array.dims).t+c%array.chunk.c*(stridesOn array.dims).c

def DeclaredArray.placeOf (array : DeclaredArray) (p : Zyx) : Nat :=
  p.z*(stridesOn array.dims).z+p.y*(stridesOn array.dims).y+p.x*(stridesOn array.dims).x

theorem numberOf_keySample (valid : array.Valid) (accepted : array.Accepted) (inside : p.All (· < ·) array.plane) :
    array.numberOf (array.index (array.keySample t c cell p)) = array.sliceStart t c+array.placeOf p := by
  have z : p.z < array.chunk.z := inside.1
  have y : p.y < array.chunk.y := inside.2.1
  have x : p.x < array.chunk.x := inside.2.2
  have distinct : ((array.dims.map Prod.fst).filterMap axisIndex).Nodup := by
    rw [DeclaredArray.dims,map_fst_zip accepted.chunked]
    exact valid.distinct
  have same : axesZip (· % ·) (array.keySample t c cell p) array.chunk = ⟨t%array.chunk.t,c%array.chunk.c,p.z,p.y,p.x⟩ := by
    simp only [axesZip,DeclaredArray.keySample,(div_of_place z).2,(div_of_place y).2,(div_of_place x).2]
  rw [DeclaredArray.numberOf,zipWith_index (fun n => Nat.zero_mod n) valid accepted,same,← map_zip_left accepted.chunked,
    ← radices_zip accepted.chunked]
  refine (flatten_coordinates distinct _).trans ?_
  simp only [strideSum,DeclaredArray.sliceStart,DeclaredArray.placeOf]
  omega

end Samples

section Slices
variable {array : DeclaredArray} {binding : LevelBindingInfo} {dtypeSize level t c : Nat} {cell p : Zyx} {codecs : Codecs}

-- How the server takes a chunk apart: `dtypeSize` is the width of a sample of the first level.
structure LaidOut (array : DeclaredArray) (binding : LevelBindingInfo) (dtypeSize : Nat) : Prop where
  sized : 0 < dtypeSize ∧ dtypeSize < 2^64
  computed : ∃ rawShape, computeChunkByteLayout array.axes array.chunkShape dtypeSize (classifyAxes array.axes rawShape).pinned =
    .ok binding.chunkByteLayout

theorem nodup_keptAxes {axes : List String} (distinct : (axes.filterMap axisIndex).Nodup) : (keptAxes axes).Nodup := by
  induction axes with
  | nil => exact List.nodup_nil
  | cons name axes ih =>
    have later := ih (distinct.sublist ((List.sublist_cons_self name axes).filterMap axisIndex))
    unfold keptAxes at later ⊢
    rw [List.map_cons,List.filter_cons]
    split
    · rename_i kept
      rw [List.nodup_cons]
      refine ⟨?_,later⟩
      intro member
      obtain ⟨other,there,lower⟩ := List.mem_map.mp (List.mem_of_mem_filter member)
      have known : axisIndex name ≠ none := by
        intro unknown
        have among : toAsciiLowercase name ∈ ["z","y","x"] := of_decide_eq_true kept
        exact List.idxOf?_eq_none_iff.mp unknown (List.mem_cons_of_mem _ (List.mem_cons_of_mem _ among))
      obtain ⟨index,known⟩ := Option.ne_none_iff_exists'.mp known
      have same : axisIndex other = some index := by
        rw [← known,axisIndex,axisIndex,lower]
      rw [List.filterMap_cons_some known,List.nodup_cons] at distinct
      exact distinct.1 (List.mem_filterMap.mpr ⟨other,there,same⟩)
    · exact later

theorem strideOn_eq (dtypeSize : Nat) (name : String) (dims : List (String × UInt64)) :
    strideOn dtypeSize name dims = dtypeSize*strideOn 1 name dims := by
  induction dims with
  | nil => rfl
  | cons dim rest ih =>
    rw [strideOn,strideOn]
    split
    · rw [Nat.one_mul]
    · exact ih

theorem intra_bundled (dtypeSize wire : Nat) (name : String) {dims : List (String × UInt64)} (positive : 0 < sizeOn name dims) :
    ChunkByteLayout.intra wire (sizeOn name dims)*bundledStride dtypeSize name dims =
      dtypeSize*(wire%sizeOn name dims*strideOn 1 name dims) := by
  unfold ChunkByteLayout.intra bundledStride
  split
  · rename_i several
    rw [if_neg (by omega),strideOn_eq,Nat.mul_left_comm]
  · have one : sizeOn name dims = 1 := by omega
    rw [one,Nat.mod_one]
    simp

theorem sliceRange_eq (valid : array.Valid) (laid : LaidOut array binding dtypeSize) (t c : Nat) :
    binding.chunkByteLayout.sliceRange t c = (dtypeSize*array.sliceStart t c,array.plane.volume*dtypeSize) := by
  obtain ⟨rawShape,computed⟩ := laid.computed
  have accepted := compute_accepted valid.positive laid.sized.2 computed
  have classified : ∀ axis ∈ (classifyAxes array.axes rawShape).pinned, isKeptCanonical (toAsciiLowercase axis.name) = false :=
    classified_not_kept
  obtain ⟨paired,_,_,layout⟩ := compute_eq valid.positive laid.sized.2 computed
  have positive : ∀ dim ∈ array.dims, 0 < dim.2.toNat := zip_positive valid.positive
  have distinct : (keptAxes (array.dims.map Prod.fst)).Nodup := by
    rw [DeclaredArray.dims,map_fst_zip paired]
    exact nodup_keptAxes valid.distinct
  have start : ChunkByteLayout.intra t (sizeOn "t" array.dims)*bundledStride dtypeSize "t" array.dims+
      ChunkByteLayout.intra c (sizeOn "c" array.dims)*bundledStride dtypeSize "c" array.dims = dtypeSize*array.sliceStart t c := by
    rw [intra_bundled dtypeSize t "t" (sizeOn_pos positive),intra_bundled dtypeSize c "c" (sizeOn_pos positive),← Nat.mul_add]
    rfl
  have size : dtypeSize*keptVolume array.dims = array.plane.volume*dtypeSize := by
    rw [keptVolume_eq distinct,Nat.mul_comm]
    rfl
  rw [accepted.sliceRange_eq valid.positive classified,layout]
  exact Prod.ext start size

theorem slice_fits (valid : array.Valid) (laid : LaidOut array binding dtypeSize) (t c : Nat) :
    dtypeSize*array.sliceStart t c+array.plane.volume*dtypeSize ≤ dtypeSize*volume array.dims ∧ dtypeSize*volume array.dims < 2^64 := by
  obtain ⟨rawShape,computed⟩ := laid.computed
  have accepted := compute_accepted valid.positive laid.sized.2 computed
  have within := accepted.slice_within valid.positive classified_not_kept t c
  obtain ⟨_,fits,_,_⟩ := compute_eq valid.positive laid.sized.2 computed
  have range := sliceRange_eq valid laid t c
  have size : binding.chunkByteLayout.canonicalByteSize = array.plane.volume*dtypeSize := congrArg Prod.snd range
  rw [range,size,accepted.onDisk] at within
  exact ⟨within,fits⟩

theorem onDisk_chunk (valid : array.Valid) (laid : LaidOut array binding dtypeSize) :
    binding.chunkByteLayout.onDiskByteSize = dtypeSize*volume array.dims ∧ 0 < dtypeSize*volume array.dims := by
  obtain ⟨rawShape,computed⟩ := laid.computed
  refine ⟨(compute_accepted valid.positive laid.sized.2 computed).onDisk,?_⟩
  exact Nat.mul_pos laid.sized.1 (volume_pos (zip_positive valid.positive))

theorem sliceWireChunk_eq (valid : array.Valid) (laid : LaidOut array binding dtypeSize) {raw : Bytes}
    (whole : raw.length = dtypeSize*volume array.dims) (t c : Nat) :
    sliceWireChunk raw binding.chunkByteLayout t c =
      (raw.take (dtypeSize*array.sliceStart t c+array.plane.volume*dtypeSize)).drop (dtypeSize*array.sliceStart t c) := by
  obtain ⟨within,short⟩ := slice_fits valid laid t c
  obtain ⟨_,_,z,y,x⟩ := chunk_pos valid
  have some : 0 < array.plane.volume*dtypeSize := Nat.mul_pos (Nat.mul_pos (Nat.mul_pos z y) x) laid.sized.1
  unfold sliceWireChunk
  rw [sliceRange_eq valid laid]
  dsimp only
  rw [if_pos ⟨some,by omega,by omega⟩]

theorem sample_slice {raw : Bytes} {width start size n : Nat} (low : n < size) :
    sample width ((raw.take (width*start+size*width)).drop (width*start)) n = sample width raw (start+n) := by
  have room : (n+1)*width ≤ size*width := Nat.mul_le_mul_right _ low
  rw [Nat.succ_mul] at room
  unfold sample
  rw [List.drop_drop,List.drop_take,List.take_take,Nat.add_mul,Nat.mul_comm start width]
  congr 1
  omega

end Slices

section Inside
variable {array : DeclaredArray} {at' : Axes Nat}

theorem inside_iff (valid : array.Valid) :
    array.Inside at' ↔ ∀ dim ∈ array.axes.zip array.shape, coordinateOn at' dim.1 < dim.2.toNat := by
  unfold DeclaredArray.Inside DeclaredArray.index radices
  rw [List.forall₂_map_left_iff,List.forall₂_map_right_iff,List.forall₂_iff_zip]
  constructor
  · intro ⟨_,each⟩ dim member
    exact each member
  · intro each
    refine ⟨valid.ranked.symm,?_⟩
    intro name size member
    exact each (name,size) member

theorem nonempty_of_inside (valid : array.Valid) (inside : array.Inside at') : 0 ∉ array.shape := by
  intro zero
  obtain ⟨i,short,there⟩ := List.mem_iff_getElem.mp zero
  have short' : i < array.axes.length := valid.ranked ▸ short
  have member : (array.axes[i],array.shape[i]) ∈ array.axes.zip array.shape :=
    List.mem_of_getElem? (List.getElem?_zip_eq_some.mpr ⟨List.getElem?_eq_getElem short',List.getElem?_eq_getElem short⟩)
  have below := (inside_iff valid).mp inside _ member
  rw [there] at below
  exact Nat.not_lt_zero _ below

theorem inside_lt (valid : array.Valid) (inside : array.Inside at') (present : name ∈ array.axes) (known : axisIndex name = some index) :
    (axesList at').getD index 0 < (axesList array.extent).getD index 0 := by
  have distinct : (((array.axes.zip array.shape).map Prod.fst).filterMap axisIndex).Nodup := by
    rw [map_fst_zip valid.ranked.symm]
    exact valid.distinct
  rw [← map_fst_zip valid.ranked.symm] at present
  obtain ⟨dim,member,rfl⟩ := List.mem_map.mp present
  have below := (inside_iff valid).mp inside dim member
  rw [size_of_axis distinct member known,← getD_sizesOn (axisIndex_some known).1] at below
  unfold coordinateOn at below
  rw [known] at below
  exact below

-- An axis on which a chunk has more than one sample is one of the array's.
theorem present_of_size {dims : List (String × UInt64)} (several : sizeOn name dims ≠ 1) : ∃ dim ∈ dims, toAsciiLowercase dim.1 = name := by
  by_contra none
  refine several (sizeOn_absent fun dim member lower => none ⟨dim,member,lower⟩)

theorem inside_axis (valid : array.Valid) (accepted : array.Accepted) (inside : array.Inside at') (low : index < 5)
    (several : 1 < (axesList array.chunk).getD index 0) : (axesList at').getD index 0 < (axesList array.extent).getD index 0 := by
  rw [DeclaredArray.chunk,getD_sizesOn low] at several
  obtain ⟨dim,member,lower⟩ := present_of_size (Nat.ne_of_gt several)
  have present : dim.1 ∈ array.axes := by
    rw [← map_fst_zip accepted.chunked]
    exact List.mem_map_of_mem member
  exact inside_lt valid inside present (axisIndex_of_lower low lower)

end Inside

section Serving
variable {seed : ImageBindingSeed} {array : DeclaredArray} {binding : LevelBindingInfo} {geometry : LevelGeometry F64}
variable {dtypeSize level t c : Nat} {cell p : Zyx} {codecs : Codecs}
variable {objects : ChunkLocation → Except ChunkCache.StoreError Bytes} {regridded : LevelInfo → Regrid → Except (Stop ChunkReadError) ChunkRead}

-- On an axis of space with more than one sample in a chunk and in the array, the samples of a chunk
-- are as far apart as the axes of space that follow it in the order `z`, `y`, `x` make them.
structure InOrder (array : DeclaredArray) : Prop where
  z : 1 < array.chunk.z → 1 < array.extent.z → (stridesOn array.dims).z = array.chunk.y*array.chunk.x
  y : 1 < array.chunk.y → 1 < array.extent.y → (stridesOn array.dims).y = array.chunk.x
  x : 1 < array.chunk.x → 1 < array.extent.x → (stridesOn array.dims).x = 1

theorem placeOf_eq (valid : array.Valid) (accepted : array.Accepted) (order : InOrder array) (within : p.All (· < ·) array.plane)
    (inside : array.Inside (array.keySample t c cell p)) : array.placeOf p = array.plane.index p := by
  have z : p.z*(stridesOn array.dims).z = p.z*(array.chunk.y*array.chunk.x) := by
    rcases Nat.eq_zero_or_pos p.z with none | some
    · rw [none,Nat.zero_mul,Nat.zero_mul]
    · have several : 1 < array.chunk.z := Nat.lt_of_le_of_lt some within.1
      have below : cell.z*array.chunk.z+p.z < array.extent.z := @inside_axis _ _ 2 valid accepted inside (by decide) several
      rw [order.z several (by omega)]
  have y : p.y*(stridesOn array.dims).y = p.y*array.chunk.x := by
    rcases Nat.eq_zero_or_pos p.y with none | some
    · rw [none,Nat.zero_mul,Nat.zero_mul]
    · have several : 1 < array.chunk.y := Nat.lt_of_le_of_lt some within.2.1
      have below : cell.y*array.chunk.y+p.y < array.extent.y := @inside_axis _ _ 3 valid accepted inside (by decide) several
      rw [order.y several (by omega)]
  have x : p.x*(stridesOn array.dims).x = p.x := by
    rcases Nat.eq_zero_or_pos p.x with none | some
    · rw [none,Nat.zero_mul]
    · have several : 1 < array.chunk.x := Nat.lt_of_le_of_lt some within.2.2
      have below : cell.x*array.chunk.x+p.x < array.extent.x := @inside_axis _ _ 4 valid accepted inside (by decide) several
      rw [order.x several (by omega),Nat.mul_one]
  rw [DeclaredArray.placeOf,z,y,x]
  simp only [Zyx.index,rowMajor,DeclaredArray.plane]
  rw [Nat.add_mul,Nat.mul_assoc]

theorem readChunk_at (valid : array.Valid) (accepted : array.Accepted) (bound : BoundTo seed level binding array) (small : level < 2^32)
    (words : Words t c cell) :
    readChunk seed codecs objects regridded (chunkKeyOf level t c cell) =
      match objects (array.servedLocation level (array.keyCoords t c cell)) with
      | .error error =>
        if isNotFound error then .ok (.absent binding.chunkByteLayout.canonicalByteSize) else .error (.error (.objectStore error))
      | .ok storageBytes =>
        (decodeWireChunk codecs storageBytes binding.toLevelInfo (chunkKeyOf level t c cell)).mapError .error >>= fun wire =>
          .ok (.present wire) := by
  have here : seed.levels[parseLevelFromChunkKey (chunkKeyOf level t c cell)]? = some binding := by
    rw [parseLevel_chunkKeyOf small]
    exact bound.bound
  unfold readChunk
  rw [here,Option.getD_some]
  dsimp only
  rw [bound.regrid]
  dsimp only
  rw [resolve_eq valid accepted bound small words]
  rfl

theorem readChunk_stored (valid : array.Valid) (accepted : array.Accepted) (bound : BoundTo seed level binding array)
    (laid : LaidOut array binding dtypeSize) (small : level < 2^32) (words : Words t c cell)
    (there : objects (array.servedLocation level (array.keyCoords t c cell)) = .ok storageBytes)
    (decoded : decodeStorageBytes codecs storageBytes array.compression = .ok raw) :
    readChunk seed codecs objects regridded (chunkKeyOf level t c cell) =
      if raw.length = dtypeSize*volume array.dims then
        .ok (.present ((raw.take (dtypeSize*array.sliceStart t c+array.plane.volume*dtypeSize)).drop (dtypeSize*array.sliceStart t c)))
      else .error (.error (.decode (.wrongSize (dtypeSize*volume array.dims) raw.length))) := by
  obtain ⟨onDisk,some⟩ := onDisk_chunk valid laid
  rw [readChunk_at valid accepted bound small words,there]
  dsimp only
  unfold decodeWireChunk
  rw [bound.compression,decoded,onDisk,parseTC_chunkKeyOf level cell words.t words.c]
  by_cases whole : raw.length = dtypeSize*volume array.dims
  · rw [if_pos whole,← sliceWireChunk_eq valid laid whole]
    simp [Except.mapError,bind,Except.bind,pure,Except.pure,whole]
  · rw [if_neg whole]
    simp [Except.mapError,bind,Except.bind,some,whole,throw,throwThe,MonadExceptOf.throw]

theorem readChunk_absent (valid : array.Valid) (accepted : array.Accepted) (bound : BoundTo seed level binding array)
    (laid : LaidOut array binding dtypeSize) (small : level < 2^32) (words : Words t c cell)
    (there : objects (array.servedLocation level (array.keyCoords t c cell)) = .error error) (missing : isNotFound error) :
    readChunk seed codecs objects regridded (chunkKeyOf level t c cell) = .ok (.absent (array.plane.volume*dtypeSize)) := by
  have size : binding.chunkByteLayout.canonicalByteSize = array.plane.volume*dtypeSize :=
    congrArg Prod.snd (sliceRange_eq valid laid t c)
  rw [readChunk_at valid accepted bound small words,there]
  dsimp only
  rw [if_pos missing,size]

end Serving

section Asked
variable {array : DeclaredArray} {t c : Nat} {cell p : Zyx}

-- The keys that a client may ask for: of a `t` and a `c` that the array has, and of a chunk that
-- starts before its end.
structure DeclaredArray.Asked (array : DeclaredArray) (t c : Nat) (cell : Zyx) : Prop where
  t : t < array.extent.t
  c : c < array.extent.c
  z : cell.z*array.chunk.z < array.extent.z
  y : cell.y*array.chunk.y < array.extent.y
  x : cell.x*array.chunk.x < array.extent.x

theorem sizeOn_lt (name : String) (dims : List (String × UInt64)) : sizeOn name dims < 2^64 := by
  induction dims with
  | nil => exact Nat.one_lt_two_pow (by decide)
  | cons dim rest ih =>
    rw [sizeOn]
    split
    · exact dim.2.toNat_lt
    · exact ih

theorem words_of_asked (valid : array.Valid) (asked : array.Asked t c cell) : Words t c cell := by
  obtain ⟨_,_,z,y,x⟩ := chunk_pos valid
  have short {cell size extent : Nat} (some : 0 < size) (starts : cell*size < extent) (small : extent < 2^64) : cell < 2^64 :=
    Nat.lt_of_le_of_lt (Nat.le_mul_of_pos_right cell some) (Nat.lt_trans starts small)
  exact ⟨Nat.lt_trans asked.t (sizeOn_lt _ _),Nat.lt_trans asked.c (sizeOn_lt _ _),short z asked.z (sizeOn_lt _ _),
    short y asked.y (sizeOn_lt _ _),short x asked.x (sizeOn_lt _ _)⟩

theorem inside_of_lt (valid : array.Valid) (nonempty : 0 ∉ array.shape)
    (each : ∀ index < 5, (axesList at').getD index 0 < (axesList array.extent).getD index 0) : array.Inside at' := by
  have distinct : (((array.axes.zip array.shape).map Prod.fst).filterMap axisIndex).Nodup := by
    rw [map_fst_zip valid.ranked.symm]
    exact valid.distinct
  rw [inside_iff valid]
  intro dim member
  unfold coordinateOn
  cases known : axisIndex dim.1 with
  | none =>
    exact toNat_pos_of_ne fun zero => nonempty (zero ▸ (List.of_mem_zip member).2)
  | some index =>
    have low := (axisIndex_some known).1
    rw [size_of_axis distinct member known,← getD_sizesOn low]
    exact each index low

theorem extent_pos (nonempty : 0 ∉ array.shape) :
    0 < array.extent.t ∧ 0 < array.extent.c ∧ 0 < array.extent.z ∧ 0 < array.extent.y ∧ 0 < array.extent.x := by
  have positive : ∀ dim ∈ array.axes.zip array.shape, 0 < dim.2.toNat := zip_positive nonempty
  exact ⟨sizeOn_pos positive,sizeOn_pos positive,sizeOn_pos positive,sizeOn_pos positive,sizeOn_pos positive⟩

theorem asked_first (nonempty : 0 ∉ array.shape) : array.Asked 0 0 ⟨0,0,0⟩ := by
  obtain ⟨t,c,z,y,x⟩ := extent_pos nonempty
  exact ⟨t,c,by simpa using z,by simpa using y,by simpa using x⟩

end Asked

-- What makes the server's reading of a level the right one. The chunks that are asked for have to
-- be at the paths that the level's number makes, and their samples as wide as the first level's.
-- An array with samples has to have zero for its fill value, and the order of its axes of space.
structure Conventional (array : DeclaredArray) (level dtypeSize : Nat) : Prop where
  named : ∀ t c cell, array.Asked t c cell → array.objectPath (array.objectCoords (array.keyCoords t c cell)) =
    pathFrom (chunkGridStorePath (toString level) (array.objectCoords (array.keyCoords t c cell)))
  width : ∀ t c cell, array.Asked t c cell → array.width = dtypeSize
  fill : 0 ∉ array.shape → array.fill = List.replicate array.width 0
  order : 0 ∉ array.shape → InOrder array

section Convention
variable {seed : ImageBindingSeed} {array : DeclaredArray} {binding : LevelBindingInfo} {dtypeSize level t c : Nat} {cell p : Zyx}

theorem location_eq_iff (cell : List Nat) : array.location cell = array.servedLocation level cell ↔
    array.objectPath (array.objectCoords cell) = pathFrom (chunkGridStorePath (toString level) (array.objectCoords cell)) := by
  unfold DeclaredArray.location DeclaredArray.servedLocation
  cases array.shard with
  | none =>
    dsimp only
    rw [ChunkLocation.object.injEq]
  | some layout =>
    dsimp only
    rw [ChunkLocation.innerChunk.injEq]
    exact ⟨fun same => same.1,fun same => ⟨same,rfl⟩⟩

theorem path_location (cell : List Nat) : (array.location cell).path = array.objectPath (array.objectCoords cell) := by
  unfold DeclaredArray.location
  cases array.shard <;> rfl

theorem inside_plane (valid : array.Valid) : (⟨0,0,0⟩ : Zyx).All (· < ·) array.plane := by
  obtain ⟨_,_,z,y,x⟩ := chunk_pos valid
  exact ⟨z,y,x⟩

theorem stored_some {codecs : Codecs} {objects : ChunkLocation → Except ChunkCache.StoreError Bytes} {coords : List Nat}
    (present : (array.stored codecs objects coords).isSome) :
    (∃ error, objects (array.location coords) = .error error ∧ isNotFound error ∧ array.stored codecs objects coords = some none) ∨
      ∃ storageBytes raw, objects (array.location coords) = .ok storageBytes ∧
        decodeStorageBytes codecs storageBytes array.compression = .ok raw ∧ raw.length = array.chunkBytes ∧
        array.stored codecs objects coords = some (some raw) := by
  unfold DeclaredArray.stored at present ⊢
  split at present
  · rename_i error there
    split at present
    · rename_i missing
      exact .inl ⟨error,there,missing,if_pos missing⟩
    · cases present
  · rename_i storageBytes there
    split at present
    · cases present
    · rename_i raw decoded
      split at present
      · rename_i whole
        exact .inr ⟨storageBytes,raw,there,decoded,whole,if_pos whole⟩
      · cases present

theorem serves_of_conventional (valid : array.Valid) (accepted : array.Accepted) (bound : BoundTo seed level binding array)
    (laid : LaidOut array binding dtypeSize) (small : level < 2^32) (conventional : Conventional array level dtypeSize)
    (asked : array.Asked t c cell) : Serves seed array level t c cell := by
  have words := words_of_asked valid asked
  have same := (location_eq_iff _).mpr (conventional.named t c cell asked)
  obtain rfl : array.width = dtypeSize := conventional.width t c cell asked
  have cellOf {p : Zyx} (within : p.All (· < ·) array.plane) := @cellOf_keySample _ t c cell _ valid accepted within
  refine ⟨⟨_,resolve_eq valid accepted bound small words,?_⟩,?_⟩
  · rw [← same,path_location]
    exact liesUnder_objectPath array _
  · intro codecs objects regridded present
    rw [cellOf (inside_plane valid)] at present
    rcases stored_some present with ⟨error,there,missing,stored⟩ | ⟨storageBytes,raw,there,decoded,whole,stored⟩
    · rw [same] at there
      refine ⟨_,readChunk_absent valid accepted bound laid small words there missing,List.length_replicate,?_⟩
      intro p within inside
      have fill := conventional.fill (nonempty_of_inside valid inside)
      rw [DeclaredArray.sampleAt,cellOf within,stored]
      exact congrArg Option.some (fill.trans (sample_replicate 0 (Zyx.sample_fits within _)).symm)
    · rw [same] at there
      obtain ⟨fits,_⟩ := slice_fits valid laid t c
      refine ⟨_,(readChunk_stored valid accepted bound laid small words there decoded).trans (if_pos whole),?_,?_⟩
      · rw [ChunkRead.intoBytes,List.length_drop,List.length_take,whole,DeclaredArray.chunkBytes]
        omega
      · intro p within inside
        have order := conventional.order (nonempty_of_inside valid inside)
        rw [DeclaredArray.sampleAt,cellOf within,stored,Option.map_some,numberOf_keySample valid accepted within,
          placeOf_eq valid accepted order within inside]
        exact congrArg Option.some (sample_slice (Zyx.index_lt within)).symm

theorem decode_plain (raw : Bytes) (compression : StorageCompression) :
    decodeStorageBytes BoundLevel.plainCodecs raw compression = .ok raw := by
  cases compression <;> rfl

theorem stored_plain {coords : List Nat} {objects : ChunkLocation → Except ChunkCache.StoreError Bytes} {raw : Bytes}
    (there : objects (array.location coords) = .ok raw) (whole : raw.length = array.chunkBytes) :
    array.stored BoundLevel.plainCodecs objects coords = some (some raw) := by
  rw [DeclaredArray.stored,there]
  dsimp only
  rw [decode_plain]
  exact if_pos whole

-- No other object can stand in for a chunk's own: it could be the one that fails to be read.
theorem location_of_serves (valid : array.Valid) (accepted : array.Accepted) (bound : BoundTo seed level binding array)
    (small : level < 2^32) (words : Words t c cell) (serves : Serves seed array level t c cell) :
    array.location (array.keyCoords t c cell) = array.servedLocation level (array.keyCoords t c cell) := by
  by_contra differs
  let objects : ChunkLocation → Except ChunkCache.StoreError Bytes := fun location =>
    if location = array.location (array.keyCoords t c cell) then .ok (List.replicate array.chunkBytes 0) else .error (.other "")
  have there : objects (array.location (array.keyCoords t c cell)) = .ok (List.replicate array.chunkBytes 0) := if_pos rfl
  have elsewhere : objects (array.servedLocation level (array.keyCoords t c cell)) = .error (.other "") := if_neg fun same => differs same.symm
  have present := serves.samples BoundLevel.plainCodecs objects fun _ _ => .error .panic
  rw [cellOf_keySample valid accepted (inside_plane valid),stored_plain there List.length_replicate] at present
  obtain ⟨read,served,_⟩ := present rfl
  rw [readChunk_at valid accepted bound small words,elsewhere] at served
  cases served

theorem width_of_serves (valid : array.Valid) (accepted : array.Accepted) (bound : BoundTo seed level binding array)
    (laid : LaidOut array binding dtypeSize) (small : level < 2^32) (words : Words t c cell) (serves : Serves seed array level t c cell) :
    array.width = dtypeSize := by
  have present := serves.samples BoundLevel.plainCodecs (fun _ => .ok (List.replicate array.chunkBytes 0)) fun _ _ => .error .panic
  rw [stored_plain rfl List.length_replicate] at present
  obtain ⟨read,served,_⟩ := present rfl
  rw [readChunk_stored valid accepted bound laid small words rfl (decode_plain _ _)] at served
  split at served
  · rename_i whole
    rw [List.length_replicate] at whole
    exact Nat.eq_of_mul_eq_mul_right (volume_pos (zip_positive valid.positive)) whole
  · cases served

theorem fill_of_serves (valid : array.Valid) (accepted : array.Accepted) (bound : BoundTo seed level binding array)
    (laid : LaidOut array binding array.width) (small : level < 2^32) (words : Words t c cell) (serves : Serves seed array level t c cell)
    (inside : array.Inside (array.keySample t c cell ⟨0,0,0⟩)) : array.fill = List.replicate array.width 0 := by
  have present := serves.samples BoundLevel.plainCodecs (fun _ => .error (.notFound "" "")) fun _ _ => .error .panic
  obtain ⟨read,served,_,shown⟩ := present rfl
  rw [readChunk_absent valid accepted bound laid small words rfl rfl] at served
  cases served
  have first := shown ⟨0,0,0⟩ (inside_plane valid) inside
  rw [ChunkRead.intoBytes,sample_replicate 0 (Zyx.sample_fits (inside_plane valid) _)] at first
  exact Option.some_inj.mp first

-- Samples that are equal in all chunks are one sample: a chunk can have it alone stand out.
theorem eq_of_samples {width size a b : Nat} (some : 0 < width) (low : b < size)
    (same : ∀ raw : Bytes, raw.length = width*size → sample width raw a = sample width raw b) : a = b := by
  let raw : Bytes := (List.range (width*size)).map fun i => if i/width = b then 1 else 0
  have first (n : Nat) : (sample width raw n)[0]? = raw[n*width]? := by
    rw [sample,List.getElem?_take_of_lt some,List.getElem?_drop,Nat.add_zero]
  have short : b*width < width*size := by
    rw [Nat.mul_comm]
    exact Nat.mul_lt_mul_of_pos_left low some
  have here : raw[b*width]? = Option.some 1 := by
    rw [List.getElem?_map,List.getElem?_range short,Option.map_some,if_pos (Nat.mul_div_cancel b some)]
  have there : raw[a*width]? = Option.some 1 := by
    rw [← first,same raw (by simp [raw]),first,here]
  rw [List.getElem?_map,Option.map_eq_some_iff] at there
  obtain ⟨i,at',one⟩ := there
  obtain ⟨_,rfl⟩ := List.getElem?_eq_some_iff.mp at'
  rw [List.getElem_range,Nat.mul_div_cancel a some] at one
  by_contra differs
  rw [if_neg differs] at one
  cases one

theorem place_of_serves (valid : array.Valid) (accepted : array.Accepted) (bound : BoundTo seed level binding array)
    (laid : LaidOut array binding array.width) (small : level < 2^32) (words : Words t c cell) (serves : Serves seed array level t c cell)
    (within : p.All (· < ·) array.plane) (inside : array.Inside (array.keySample t c cell p)) : array.placeOf p = array.plane.index p := by
  have fits := (slice_fits valid laid t c).1
  have below := Zyx.index_lt within
  refine Nat.add_left_cancel (n := array.sliceStart t c) (@eq_of_samples _ (volume array.dims) _ _ laid.sized.1 ?_ ?_)
  · refine Nat.lt_of_mul_lt_mul_left (a := array.width) ?_
    have less : array.width*array.plane.index p < array.width*array.plane.volume := Nat.mul_lt_mul_of_pos_left below laid.sized.1
    rw [Nat.mul_add]
    rw [Nat.mul_comm array.plane.volume] at fits
    omega
  · intro raw whole
    have stored := @stored_plain array (array.keyCoords t c cell) (fun _ => .ok raw) raw rfl whole
    have present := serves.samples BoundLevel.plainCodecs (fun _ => .ok raw) fun _ _ => .error .panic
    rw [cellOf_keySample valid accepted (inside_plane valid),stored] at present
    obtain ⟨read,served,_,shown⟩ := present rfl
    rw [readChunk_stored valid accepted bound laid small words rfl (decode_plain _ _),if_pos whole] at served
    cases served
    have sample := shown p within inside
    rw [DeclaredArray.sampleAt,cellOf_keySample valid accepted within,stored,Option.map_some,numberOf_keySample valid accepted within,
      ChunkRead.intoBytes,sample_slice below] at sample
    exact Option.some_inj.mp sample

theorem inside_step (valid : array.Valid) (nonempty : 0 ∉ array.shape) (z : p.z < array.extent.z) (y : p.y < array.extent.y)
    (x : p.x < array.extent.x) : array.Inside (array.keySample 0 0 ⟨0,0,0⟩ p) := by
  obtain ⟨t,c,_,_,_⟩ := extent_pos nonempty
  refine inside_of_lt valid nonempty fun index low => ?_
  match index,low with
  | 0,_ => exact t
  | 1,_ => exact c
  | 2,_ => simpa [axesList,DeclaredArray.keySample] using z
  | 3,_ => simpa [axesList,DeclaredArray.keySample] using y
  | 4,_ => simpa [axesList,DeclaredArray.keySample] using x

theorem order_of_serves (valid : array.Valid) (accepted : array.Accepted) (bound : BoundTo seed level binding array)
    (laid : LaidOut array binding array.width) (small : level < 2^32) (nonempty : 0 ∉ array.shape)
    (serves : Serves seed array level 0 0 ⟨0,0,0⟩) : InOrder array := by
  have words := words_of_asked valid (asked_first nonempty)
  have place {p : Zyx} (within : p.All (· < ·) array.plane) (z : p.z < array.extent.z) (y : p.y < array.extent.y) (x : p.x < array.extent.x) :=
    place_of_serves valid accepted bound laid small words serves within (inside_step valid nonempty z y x)
  obtain ⟨_,_,someZ,someY,someX⟩ := chunk_pos valid
  obtain ⟨_,_,z,y,x⟩ := extent_pos nonempty
  refine ⟨fun several long => ?_,fun several long => ?_,fun several long => ?_⟩
  · have step := @place ⟨1,0,0⟩ ⟨several,someY,someX⟩ long y x
    simpa [DeclaredArray.placeOf,Zyx.index,rowMajor,DeclaredArray.plane] using step
  · have step := @place ⟨0,1,0⟩ ⟨someZ,several,someX⟩ z long x
    simpa [DeclaredArray.placeOf,Zyx.index,rowMajor,DeclaredArray.plane] using step
  · have step := @place ⟨0,0,1⟩ ⟨someZ,someY,several⟩ z y long
    simpa [DeclaredArray.placeOf,Zyx.index,rowMajor,DeclaredArray.plane] using step

theorem serves_iff_conventional (valid : array.Valid) (accepted : array.Accepted) (bound : BoundTo seed level binding array)
    (laid : LaidOut array binding dtypeSize) (small : level < 2^32) :
    (∀ t c cell, array.Asked t c cell → Serves seed array level t c cell) ↔ Conventional array level dtypeSize := by
  constructor
  · intro serves
    have width : ∀ t c cell, array.Asked t c cell → array.width = dtypeSize := fun t c cell asked =>
      width_of_serves valid accepted bound laid small (words_of_asked valid asked) (serves t c cell asked)
    refine ⟨?_,width,?_,?_⟩
    · intro t c cell asked
      rw [← location_eq_iff]
      exact location_of_serves valid accepted bound small (words_of_asked valid asked) (serves t c cell asked)
    · intro nonempty
      have first := asked_first nonempty
      obtain rfl := width _ _ _ first
      obtain ⟨_,_,z,y,x⟩ := extent_pos nonempty
      exact fill_of_serves valid accepted bound laid small (words_of_asked valid first) (serves _ _ _ first) (inside_step valid nonempty z y x)
    · intro nonempty
      have first := asked_first nonempty
      obtain rfl := width _ _ _ first
      exact order_of_serves valid accepted bound laid small nonempty (serves _ _ _ first)
  · intro conventional t c cell asked
    exact serves_of_conventional valid accepted bound laid small conventional asked

end Convention
end Lucida.Server
