import Lucida.Server.ReadChunk

namespace Lucida.Server
open Content Lib Store
open Store.ChunkCache (Bytes Path)

-- How an array names its chunks: a chunk is at the array's path, a slash and its key.
inductive KeyEncoding where
  | default (separator : String)
  | v2 (separator : String)
  deriving DecidableEq, Repr

namespace KeyEncoding

def parse (document : Json) : KeyEncoding :=
  let encoding := document.get "chunk_key_encoding"
  let separator := (encoding.bind (Json.get · "configuration")).bind (Json.getStr · "separator")
  if encoding.bind (Json.getStr · "name") = some "v2" then .v2 (separator.getD ".") else .default (separator.getD "/")

def key : KeyEncoding → List Nat → String
  | .default _,[] => "c"
  | .default separator,coords => "c" ++ separator ++ separator.intercalate (coords.map toString)
  | .v2 _,[] => "0"
  | .v2 separator,coords => separator.intercalate (coords.map toString)

end KeyEncoding

-- What the format says of an array beside what the importer reads: how wide a sample of a data type
-- is, and the bytes of the fill value.
structure ZarrFormat where
  width : String → Nat
  fill : Json → Bytes
  known : ∀ name dataType, parseDataType name = .ok dataType → width name = dataTypeSize dataType

-- An array that a multiscale declares. The chunks are the inner ones if the array is sharded.
structure DeclaredArray where
  axes : List String
  path : String
  shape : List UInt64
  chunkShape : List UInt64
  shard : Option ShardLayout
  compression : StorageCompression
  width : Nat
  encoding : KeyEncoding
  fill : Bytes
  deriving DecidableEq, Repr

-- The value on an axis, of five, and zero on an axis that is not one of the five.
def coordinateOn (values : Axes Nat) (name : String) : Nat :=
  match axisIndex name with
  | some index => (axesList values).getD index 0
  | none => 0

def sizesOn (dims : List (String × UInt64)) : Axes Nat :=
  ⟨sizeOn "t" dims,sizeOn "c" dims,sizeOn "z" dims,sizeOn "y" dims,sizeOn "x" dims⟩

namespace DeclaredArray
variable (array : DeclaredArray)

def dims : List (String × UInt64) := array.axes.zip array.chunkShape

def chunk : Axes Nat := sizesOn array.dims

def extent : Axes Nat := sizesOn (array.axes.zip array.shape)

-- The index of a sample, in the order of the array's own axes. An axis that is not shown is at zero.
def index (sample : Axes Nat) : List Nat := array.axes.map (coordinateOn sample)

def Inside (sample : Axes Nat) : Prop := List.Forall₂ (· < ·) (array.index sample) (radices array.shape)

def cellOf (index : List Nat) : List Nat := List.zipWith (· / ·) index (radices array.chunkShape)

def numberOf (index : List Nat) : Nat :=
  MixedRadix.flatten (radices array.chunkShape) (List.zipWith (· % ·) index (radices array.chunkShape))

def objectPath (coords : List Nat) : Path := pathFrom (array.path ++ "/" ++ array.encoding.key coords)

-- The object that has a chunk, by its place in the grid of objects.
def objectCoords (cell : List Nat) : List Nat :=
  match array.shard with
  | none => cell
  | some layout => layout.shardOf cell

def location (cell : List Nat) : ChunkLocation :=
  match array.shard with
  | none => .object (array.objectPath (array.objectCoords cell))
  | some layout => .innerChunk (array.objectPath (array.objectCoords cell)) (layout.positionOf cell)

def chunkBytes : Nat := array.width*volume array.dims

-- What the formats ask for and the importer does not check: an axis for each dimension, no chunk
-- without a sample, a shard that an index can be kept of, and no two axes of one name.
structure Valid : Prop where
  ranked : array.shape.length = array.axes.length
  positive : 0 ∉ array.chunkShape
  shards : ∀ layout, array.shard = some layout → layout.Bounded
  distinct : (array.axes.filterMap axisIndex).Nodup

-- What the importer does check.
structure Accepted : Prop where
  chunked : array.axes.length = array.chunkShape.length
  sharded : ∀ layout, array.shard = some layout →
    layout.innerChunkShape = array.chunkShape ∧ layout.chunksPerShard.length = array.axes.length

end DeclaredArray

section Calculus
variable {dims : List (String × UInt64)} {values : Axes Nat} {name : String}

def canonicalName (index : Nat) : String := ["t","c","z","y","x"].getD index ""

theorem axisIndex_some (known : axisIndex name = some index) : index < 5 ∧ toAsciiLowercase name = canonicalName index := by
  obtain ⟨here,same,_⟩ := List.idxOf?_eq_some_iff.mp known
  refine ⟨here,?_⟩
  rw [canonicalName,List.getD_eq_getElem?_getD,List.getElem?_eq_getElem here]
  exact same.symm

theorem axisIndex_none (unknown : axisIndex name = none) (low : index < 5) : toAsciiLowercase name ≠ canonicalName index := by
  have missing := List.idxOf?_eq_none_iff.mp unknown
  intro same
  refine missing (same ▸ ?_)
  rw [canonicalName,List.getD_eq_getElem?_getD,List.getElem?_eq_getElem low]
  exact List.getElem_mem low

theorem canonicalName_injective {index other : Nat} (low : index < 5) (low' : other < 5) (same : canonicalName index = canonicalName other) :
    index = other := by
  have all : ∀ index < 5, ∀ other < 5, canonicalName index = canonicalName other → index = other := by decide
  exact all index low other low' same

theorem axisIndex_of_lower (low : index < 5) (lower : toAsciiLowercase name = canonicalName index) : axisIndex name = some index := by
  cases known : axisIndex name with
  | none => exact absurd lower (axisIndex_none known low)
  | some other =>
    obtain ⟨low',lower'⟩ := axisIndex_some known
    rw [canonicalName_injective low low' (lower.symm.trans lower')]

theorem getD_axesList (f : Nat → Nat) (low : index < 5) : (axesList ⟨f 0,f 1,f 2,f 3,f 4⟩).getD index 0 = f index := by
  match index,low with
  | 0,_ | 1,_ | 2,_ | 3,_ | 4,_ => rfl

theorem getD_axesZip (f : Nat → Nat → Nat) (values sizes : Axes Nat) (low : index < 5) :
    (axesList (axesZip f values sizes)).getD index 0 = f ((axesList values).getD index 0) ((axesList sizes).getD index 0) := by
  match index,low with
  | 0,_ | 1,_ | 2,_ | 3,_ | 4,_ => rfl

theorem getD_sizesOn (low : index < 5) : (axesList (sizesOn dims)).getD index 0 = sizeOn (canonicalName index) dims :=
  getD_axesList (fun index => sizeOn (canonicalName index) dims) low

theorem absent_of_distinct {dim : String × UInt64} (distinct : (((dim::dims).map Prod.fst).filterMap axisIndex).Nodup)
    (known : axisIndex dim.1 = some index) : ∀ other ∈ dims, toAsciiLowercase other.1 ≠ canonicalName index := by
  intro other member lower
  rw [List.map_cons,List.filterMap_cons_some known,List.nodup_cons] at distinct
  refine distinct.1 (List.mem_filterMap.mpr ⟨other.1,List.mem_map_of_mem member,?_⟩)
  exact axisIndex_of_lower (axisIndex_some known).1 lower

theorem distinct_tail {dim : String × UInt64} (distinct : (((dim::dims).map Prod.fst).filterMap axisIndex).Nodup) :
    ((dims.map Prod.fst).filterMap axisIndex).Nodup := by
  refine distinct.sublist ?_
  exact ((List.sublist_cons_self dim dims).map Prod.fst).filterMap axisIndex

theorem size_of_axis {dim : String × UInt64} (distinct : ((dims.map Prod.fst).filterMap axisIndex).Nodup) (member : dim ∈ dims)
    (known : axisIndex dim.1 = some index) : dim.2.toNat = sizeOn (canonicalName index) dims := by
  induction dims with
  | nil => cases member
  | cons first rest ih =>
    rw [sizeOn]
    rcases List.mem_cons.mp member with rfl | later
    · rw [if_pos (axisIndex_some known).2]
    · rw [if_neg]
      · exact ih (distinct_tail distinct) later
      · intro lower
        have first' := axisIndex_of_lower (axisIndex_some known).1 lower
        exact absent_of_distinct distinct first' dim later (axisIndex_some known).2

theorem map_coordinates {f : Nat → Nat → Nat} (zero : ∀ n, f 0 n = 0) (distinct : ((dims.map Prod.fst).filterMap axisIndex).Nodup)
    (values : Axes Nat) : dims.map (fun dim => f (coordinateOn values dim.1) dim.2.toNat) =
      dims.map (fun dim => coordinateOn (axesZip f values (sizesOn dims)) dim.1) := by
  refine List.map_congr_left fun dim member => ?_
  unfold coordinateOn
  cases known : axisIndex dim.1 with
  | none => exact zero _
  | some index =>
    have low := (axisIndex_some known).1
    dsimp only
    rw [getD_axesZip f values (sizesOn dims) low,getD_sizesOn low,size_of_axis distinct member known]

theorem strideOn_absent (absent : ∀ dim ∈ dims, toAsciiLowercase dim.1 ≠ name) : strideOn dtypeSize name dims = 0 := by
  induction dims with
  | nil => rfl
  | cons dim rest ih =>
    rw [strideOn,if_neg (absent dim List.mem_cons_self)]
    exact ih fun other member => absent other (List.mem_cons_of_mem _ member)

theorem volume_eq_prod (dims : List (String × UInt64)) : volume dims = (dims.map fun dim => dim.2.toNat).prod := by
  induction dims with
  | nil => rfl
  | cons dim rest ih => rw [volume,ih,List.map_cons,List.prod_cons]

def strideSum (values strides : Axes Nat) : Nat :=
  values.t*strides.t+values.c*strides.c+values.z*strides.z+values.y*strides.y+values.x*strides.x

def stridesOn (dims : List (String × UInt64)) : Axes Nat :=
  ⟨strideOn 1 "t" dims,strideOn 1 "c" dims,strideOn 1 "z" dims,strideOn 1 "y" dims,strideOn 1 "x" dims⟩

theorem strideSum_set {strides strides' : Axes Nat} (low : index < 5)
    (here : (axesList strides).getD index 0 = 0) (set : (axesList strides').getD index 0 = n)
    (others : ∀ other < 5, other ≠ index → (axesList strides').getD other 0 = (axesList strides).getD other 0) :
    strideSum values strides' = (axesList values).getD index 0*n+strideSum values strides := by
  have t := others 0 (by decide)
  have c := others 1 (by decide)
  have z := others 2 (by decide)
  have y := others 3 (by decide)
  have x := others 4 (by decide)
  match index,low with
  | 0,_ | 1,_ | 2,_ | 3,_ | 4,_ =>
    simp [axesList] at here set t c z y x
    simp only [strideSum,axesList,List.getD_cons_zero,List.getD_cons_succ,here,set,t,c,z,y,x]
    omega

theorem getD_stridesOn (low : index < 5) : (axesList (stridesOn dims)).getD index 0 = strideOn 1 (canonicalName index) dims :=
  getD_axesList (fun index => strideOn 1 (canonicalName index) dims) low

theorem flatten_coordinates (distinct : ((dims.map Prod.fst).filterMap axisIndex).Nodup) (values : Axes Nat) :
    MixedRadix.flatten (dims.map fun dim => dim.2.toNat) (dims.map fun dim => coordinateOn values dim.1) =
      strideSum values (stridesOn dims) := by
  induction dims with
  | nil => simp [MixedRadix.flatten,strideSum,stridesOn,strideOn]
  | cons dim rest ih =>
    rw [List.map_cons,List.map_cons,MixedRadix.flatten,ih (distinct_tail distinct),← volume_eq_prod,coordinateOn]
    -- The first axis is one of the five, and then no later axis has its name, or it adds nothing.
    cases known : axisIndex dim.1 with
    | none =>
      have same : stridesOn (dim::rest) = stridesOn rest := by
        have other : ∀ index < 5, strideOn 1 (canonicalName index) (dim::rest) = strideOn 1 (canonicalName index) rest := by
          intro index low
          rw [strideOn,if_neg (axisIndex_none known low)]
        simp only [stridesOn,Axes.mk.injEq]
        exact ⟨other 0 (by decide),other 1 (by decide),other 2 (by decide),other 3 (by decide),other 4 (by decide)⟩
      rw [same]
      simp
    | some index =>
      obtain ⟨low,lower⟩ := axisIndex_some known
      symm
      refine strideSum_set low ?_ ?_ ?_
      · rw [getD_stridesOn low]
        exact strideOn_absent (absent_of_distinct distinct known)
      · rw [getD_stridesOn low,strideOn,if_pos lower,Nat.one_mul]
      · intro other low' differs
        rw [getD_stridesOn low',getD_stridesOn low',strideOn,if_neg]
        intro lower'
        exact differs (canonicalName_injective low' low (lower'.symm.trans lower))

end Calculus

section Keys
variable {level t c : Nat} {cell : Zyx}

theorem splitn_intercalate {parts : List (List Char)} (slashless : ∀ part ∈ parts, '/' ∉ part) (some : parts ≠ []) :
    splitn parts.length (['/'].intercalate parts) = parts := by
  induction parts with
  | nil => exact absurd rfl some
  | cons first rest ih =>
    cases rest with
    | nil => simp [splitn,List.intercalate]
    | cons next rest =>
      have plain : ∀ c ∈ first, decide (c ≠ '/') = true := by
        intro c member
        exact decide_eq_true fun slash => slashless first List.mem_cons_self (slash ▸ member)
      have step : ['/'].intercalate (first::next::rest) = first ++ '/' :: ['/'].intercalate (next::rest) := by
        simp [List.intercalate,List.intersperse]
      have dropped : (first ++ '/' :: ['/'].intercalate (next::rest)).dropWhile (· ≠ '/') = '/' :: ['/'].intercalate (next::rest) := by
        rw [List.dropWhile_append_of_pos plain]
        rfl
      have taken : (first ++ '/' :: ['/'].intercalate (next::rest)).takeWhile (· ≠ '/') = first := by
        rw [List.takeWhile_append_of_pos plain]
        simp
      have later := ih (fun part member => slashless part (List.mem_cons_of_mem _ member)) (by simp)
      rw [List.length_cons] at later
      rw [step,List.length_cons,List.length_cons,splitn,dropped]
      dsimp only
      rw [taken,later]

theorem splitn_chunkKeyOf (level t c : Nat) (cell : Zyx) :
    splitn 6 (chunkKeyOf level t c cell).toList = [level,t,c,cell.z,cell.y,cell.x].map (Nat.toDigits 10) := by
  have slashless : ∀ part ∈ [level,t,c,cell.z,cell.y,cell.x].map (Nat.toDigits 10), '/' ∉ part := by
    intro part member
    obtain ⟨n,_,rfl⟩ := List.mem_map.mp member
    exact slash_notMem_toDigits n
  rw [chunkKeyOf,String.toList_ofList]
  exact splitn_intercalate slashless (by simp)

-- The chunk of a key, on each of the five axes: a key has a sample's `t` and `c`, and a cell.
def keyCell (chunk : Axes Nat) (t c : Nat) (cell : Zyx) : Axes Nat := ⟨t/chunk.t,c/chunk.c,cell.z,cell.y,cell.x⟩

theorem parseUnsigned_digits {n : Nat} (small : n < 2^64) : parseUnsigned 64 (Nat.toDigits 10 n) = some n := by
  rw [parseUnsigned_toDigits]
  exact Option.filter_some_pos (decide_eq_true small)

structure Words (t c : Nat) (cell : Zyx) : Prop where
  t : t < 2^64
  c : c < 2^64
  z : cell.z < 2^64
  y : cell.y < 2^64
  x : cell.x < 2^64

theorem parse_part (words : Words t c cell) (low : index < 5) :
    parseUnsigned 64 (([level,t,c,cell.z,cell.y,cell.x].map (Nat.toDigits 10)).getD (index+1) []) =
      some ((axesList ⟨t,c,cell.z,cell.y,cell.x⟩).getD index 0) := by
  match index,low with
  | 0,_ => exact parseUnsigned_digits words.t
  | 1,_ => exact parseUnsigned_digits words.c
  | 2,_ => exact parseUnsigned_digits words.z
  | 3,_ => exact parseUnsigned_digits words.y
  | 4,_ => exact parseUnsigned_digits words.x

theorem gridCoord_eq {size : UInt64} (positive : size ≠ 0) (low : index < 5) {chunk : Axes Nat}
    (sized : size.toNat = (axesList chunk).getD index 0) (t c : Nat) (cell : Zyx) :
    gridCoord index (some size) ((axesList ⟨t,c,cell.z,cell.y,cell.x⟩).getD index 0) =
      (axesList (keyCell chunk t c cell)).getD index 0 := by
  have some : 0 < size.toNat := toNat_pos_of_ne positive
  have divided (n : Nat) : (if size.toNat > 1 then n/size.toNat else n) = n/size.toNat := by
    split
    · rfl
    · have one : size.toNat = 1 := by omega
      rw [one,Nat.div_one]
  match index,low with
  | 0,_ =>
    have sized' : size.toNat = chunk.t := sized
    simp [gridCoord,axesList,keyCell,← sized',divided]
  | 1,_ =>
    have sized' : size.toNat = chunk.c := sized
    simp [gridCoord,axesList,keyCell,← sized',divided]
  | 2,_ | 3,_ | 4,_ => simp [gridCoord,axesList,keyCell]

theorem chunkKeyGridCoords_chunkKeyOf {axes : List String} {chunkShape : List UInt64} (paired : axes.length = chunkShape.length)
    (positive : 0 ∉ chunkShape) (distinct : (axes.filterMap axisIndex).Nodup) (words : Words t c cell) :
    chunkKeyGridCoords (chunkKeyOf level t c cell) axes chunkShape =
      some (toString level,axes.map (coordinateOn (keyCell (sizesOn (axes.zip chunkShape)) t c cell))) := by
  have distinct' : (((axes.zip chunkShape).map Prod.fst).filterMap axisIndex).Nodup := by
    rwa [map_fst_zip paired]
  unfold chunkKeyGridCoords
  dsimp only
  rw [splitn_chunkKeyOf,if_neg (by simp)]
  have coords : axes.zipIdx.map (fun item => coordinateOn (keyCell (sizesOn (axes.zip chunkShape)) t c cell) item.1) =
      axes.map (coordinateOn (keyCell (sizesOn (axes.zip chunkShape)) t c cell)) := by
    calc _ = (axes.zipIdx.map Prod.fst).map (coordinateOn (keyCell (sizesOn (axes.zip chunkShape)) t c cell)) := by
          rw [List.map_map]
          rfl
      _ = _ := by rw [List.zipIdx_map_fst]
  have text : String.ofList (Nat.toDigits 10 level) = toString level := by rw [Nat.toString_eq_repr,Nat.repr]
  refine (congrArg (fun found : Option (List Nat) => found.bind fun coords => some (String.ofList (Nat.toDigits 10 level),coords))
    (mapM_some_map (g := fun item => coordinateOn (keyCell (sizesOn (axes.zip chunkShape)) t c cell) item.1) ?_)).trans ?_
  · intro item member
    unfold coordinateOn
    cases known : axisIndex item.1 with
    | none => rfl
    | some index =>
      obtain ⟨low,_⟩ := axisIndex_some known
      have there := List.mem_zipIdx_iff_getElem?.mp member
      have short : item.2 < chunkShape.length := paired ▸ (List.getElem?_eq_some_iff.mp there).1
      have size := List.getElem?_eq_getElem short
      have dim : (item.1,chunkShape[item.2]) ∈ axes.zip chunkShape :=
        List.mem_of_getElem? (List.getElem?_zip_eq_some.mpr ⟨there,size⟩)
      have sized := size_of_axis distinct' dim known
      rw [← getD_sizesOn low] at sized
      dsimp only
      rw [parse_part words low,size,Option.bind_eq_bind,Option.bind_some,
        gridCoord_eq (fun zero => positive (zero ▸ List.getElem_mem short)) low sized]
  · rw [Option.bind_some,coords,text]

end Keys

section Locations
variable {array : DeclaredArray} {seed : ImageBindingSeed} {binding : LevelBindingInfo} {level t c : Nat} {cell : Zyx}

theorem slash_notMem_toString (level : Nat) : '/' ∉ (toString level).toList := by
  rw [Nat.toString_eq_repr,Nat.repr,String.toList_ofList]
  exact slash_notMem_toDigits level

theorem pathFrom_pathFrom (level : Nat) (coords : List Nat) :
    pathFrom (pathFrom (chunkGridStorePath (toString level) coords)) = pathFrom (chunkGridStorePath (toString level) coords) := by
  have digits : (toString level).toList = Nat.toDigits 10 level := by
    rw [Nat.toString_eq_repr,Nat.repr,String.toList_ofList]
  have parts : levelParts (toString level) = [Nat.toDigits 10 level] := by
    rw [levelParts,digits,ofText_digits fun c member => toDigits_isDigit member]
    simp
  have kept : ∀ part ∈ levelParts (toString level) ++ ['c']::coords.map (Nat.toDigits 10), PathPart.ofText part = part ∧ part ≠ [] := by
    intro part member
    rw [parts,List.singleton_append,List.mem_cons,List.mem_cons] at member
    rcases member with rfl | rfl | later
    · exact ⟨ofText_digits fun c member => toDigits_isDigit member,by simp⟩
    · exact ⟨by decide,by simp⟩
    · obtain ⟨n,_,rfl⟩ := List.mem_map.mp later
      exact ⟨ofText_digits fun c member => toDigits_isDigit member,by simp⟩
  have mapped : ((levelParts (toString level) ++ ['c']::coords.map (Nat.toDigits 10)).map PathPart.ofText).filter (· ≠ []) =
      levelParts (toString level) ++ ['c']::coords.map (Nat.toDigits 10) := by
    rw [List.map_congr_left fun part member => (kept part member).1,List.map_id',List.filter_eq_self.mpr]
    exact fun part member => decide_eq_true (kept part member).2
  have split := parts_of_pathFrom (slash_notMem_toString level) coords
  rw [pathFrom,split,mapped]
  exact (pathFrom_chunkGridStorePath (slash_notMem_toString level) coords).symm

def DeclaredArray.servedLocation (array : DeclaredArray) (level : Nat) (cell : List Nat) : ChunkLocation :=
  let path := pathFrom (chunkGridStorePath (toString level) (array.objectCoords cell))
  match array.shard with
  | none => .object path
  | some layout => .innerChunk path (layout.positionOf cell)

-- The binding that an image alone has for the array at a level.
structure BoundTo (seed : ImageBindingSeed) (level : Nat) (binding : LevelBindingInfo) (array : DeclaredArray) : Prop where
  axes : seed.axesNames = array.axes
  rooted : seed.storePrefix = none
  bound : seed.levels[level]? = some binding
  chunkShape : binding.chunkShape = array.chunkShape
  shard : binding.shard = array.shard
  compression : binding.compression = array.compression
  regrid : binding.regrid = none

def DeclaredArray.keyCoords (array : DeclaredArray) (t c : Nat) (cell : Zyx) : List Nat :=
  array.axes.map (coordinateOn (keyCell array.chunk t c cell))

theorem resolve_eq (valid : array.Valid) (accepted : array.Accepted) (bound : BoundTo seed level binding array) (small : level < 2^32)
    (words : Words t c cell) :
    resolve seed (chunkKeyOf level t c cell) = .ok (array.servedLocation level (array.keyCoords t c cell)) := by
  have coords := @chunkKeyGridCoords_chunkKeyOf level t c cell _ _ accepted.chunked valid.positive valid.distinct words
  have here : seed.levels[parseLevelFromChunkKey (chunkKeyOf level t c cell)]? = some binding := by
    rw [parseLevel_chunkKeyOf small]
    exact bound.bound
  have rooted (storePath : String) : prefixed seed storePath = pathFrom storePath := by rw [prefixed,bound.rooted]
  unfold resolve
  rw [here,Option.bind_some,bound.shard]
  cases shard : array.shard with
  | none =>
    simp only [resolveObject,here,Option.map_some,Option.getD_some,rooted,bound.axes,bound.chunkShape,chunkKeyToStorePath,coords,
      DeclaredArray.servedLocation,DeclaredArray.objectCoords,shard]
    rfl
  | some layout =>
    obtain ⟨inner,many⟩ := accepted.sharded layout shard
    rw [← inner] at coords
    have located := locate_eq (valid.shards layout shard) many.symm coords
    rw [bound.axes]
    dsimp only
    rw [located,ok_then]
    simp only [rooted,pathFrom_pathFrom,DeclaredArray.servedLocation,DeclaredArray.objectCoords,shard]
    rw [inner]
    rfl

end Locations
end Lucida.Server
