import Lucida.Server.ArrayReads
import Lucida.Store.ShardSafety

namespace Lucida.Server
open Content Lib Store
open Store.ChunkCache (Bytes Path)

def KeyInRange (level : LevelGeometry F64) (t c : Nat) (cell : Zyx) : Prop :=
  t < level.shape.t ∧ c < level.shape.c ∧ cell.z < level.gridShape.z ∧ cell.y < level.gridShape.y ∧ cell.x < level.gridShape.x

section Declared
variable (ofInt : Int → F64) (format : ZarrFormat) (store : MetadataStore)

def declaredArray (level : Nat) : Option DeclaredArray := do
  let root ← (readZarrJson store "zarr.json").toOption
  let multiscales ← (parseMultiscales ofInt root "").toOption
  let entry ← multiscales.levelEntries[level]?
  let document ← (readZarrJson store (entry.path ++ "/zarr.json")).toOption
  let array ← ArrayMeta.deserialize document
  let (shard,compression,chunkShape) ← (chunkStorage array).toOption
  return {
    axes := multiscales.axesNames
    path := entry.path
    shape := array.shape
    chunkShape, shard, compression
    width := format.width array.dataType
    encoding := .parse document
    fill := format.fill document }

-- Every key that the manifest counts is answered with what the source has for it.
def ReadsItsArrays (result : ImportResult) : Prop :=
  ∀ image ∈ result.manifest.images, ∃ seed, seedOf result.bindings image.imageId = some seed ∧
    ∀ (i : Nat) (level : LevelGeometry F64), image.multiscale.levels[i]? = some level →
      ∃ array, declaredArray ofInt format store i = some array ∧
        ∀ t c cell, KeyInRange level t c cell → Serves seed array level.levelIndex t c cell

end Declared

section Geometry
variable {dims : List (String × UInt64)} {index : Nat}

theorem getD_axesSet (axes : Axes UInt64) (at' : Nat) (value : UInt64) (low : index < 5) :
    (axesList (axesSet axes at' value)).getD index 0 = if index = at' then value else (axesList axes).getD index 0 := by
  match at' with
  | 0 | 1 | 2 | 3 | 4 =>
    match index,low with
    | 0,_ | 1,_ | 2,_ | 3,_ | 4,_ => rfl
  | n+5 =>
    rw [if_neg (by omega)]
    rfl

-- One turn of `normalizeTo5d`.
def normalizeTurn (axes : Axes UInt64) (dim : String × UInt64) : Axes UInt64 :=
  match axisIndex dim.1 with
  | some index => axesSet axes index dim.2
  | none => axes

theorem getD_normalize_absent (axes : Axes UInt64) (low : index < 5) (absent : ∀ dim ∈ dims, toAsciiLowercase dim.1 ≠ canonicalName index) :
    (axesList (dims.foldl normalizeTurn axes)).getD index 0 = (axesList axes).getD index 0 := by
  induction dims generalizing axes with
  | nil => rfl
  | cons dim rest ih =>
    rw [List.foldl_cons,ih _ fun other member => absent other (List.mem_cons_of_mem _ member),normalizeTurn]
    split
    · rename_i other known
      rw [getD_axesSet axes other dim.2 low,if_neg]
      rintro rfl
      exact absent dim List.mem_cons_self (axisIndex_some known).2
    · rfl

theorem getD_normalize (axes : Axes UInt64) (low : index < 5) (distinct : ((dims.map Prod.fst).filterMap axisIndex).Nodup)
    (one : (axesList axes).getD index 0 = 1) :
    ((axesList (dims.foldl normalizeTurn axes)).getD index 0).toNat = sizeOn (canonicalName index) dims := by
  induction dims generalizing axes with
  | nil =>
    rw [List.foldl_nil,one]
    rfl
  | cons dim rest ih =>
    rw [List.foldl_cons,sizeOn]
    split
    · rename_i lower
      have known := axisIndex_of_lower low lower
      rw [getD_normalize_absent _ low (absent_of_distinct distinct known),normalizeTurn,known]
      dsimp only
      rw [getD_axesSet _ _ _ low,if_pos rfl]
    · rename_i other
      refine ih _ (distinct_tail distinct) ?_
      rw [normalizeTurn]
      split
      · rename_i at' known
        rw [getD_axesSet _ _ _ low,if_neg]
        · exact one
        · rintro rfl
          exact other (axisIndex_some known).2
      · exact one

theorem canonicalShape_eq {axes : List String} {values : List UInt64} (distinct : (((axes.zip values).map Prod.fst).filterMap axisIndex).Nodup) :
    canonicalShape axes values = sizesOn (axes.zip values) := by
  have each (index : Nat) (low : index < 5) (one : (axesList (⟨1,1,1,1,1⟩ : Axes UInt64)).getD index 0 = 1) :=
    @getD_normalize _ index ⟨1,1,1,1,1⟩ low distinct one
  have t := each 0 (by decide) rfl
  have c := each 1 (by decide) rfl
  have z := each 2 (by decide) rfl
  have y := each 3 (by decide) rfl
  have x := each 4 (by decide) rfl
  exact (Axes.mk.injEq ..).mpr ⟨t,c,z,y,x⟩

theorem lt_divCeil {cell n m : Nat} (some : 0 < m) : cell < divCeil n m ↔ cell*m < n := by
  rw [divCeil,← Nat.succ_le_iff,Nat.le_div_iff_mul_le some,Nat.succ_mul]
  omega

end Geometry

section Storage

-- In a shard the chunks are the inner ones, and there is a count of them on each axis.
theorem chunkStorage_ok {array : ArrayMeta} (stored : chunkStorage array = .ok (shard,compression,chunkShape)) :
    ∀ layout, shard = some layout → layout.innerChunkShape = chunkShape ∧ layout.chunksPerShard.length = chunkShape.length := by
  unfold chunkStorage at stored
  obtain ⟨sharding,chain,rest⟩ := bind_ok stored
  intro layout some
  cases sharding with
  | none =>
    obtain ⟨_,_,same⟩ := bind_ok rest
    cases same
    cases some
  | some pair =>
    cases rest
    cases some
    obtain ⟨tiles,counts⟩ := fromCodecChain_tiles chain
    refine ⟨rfl,?_⟩
    rw [counts,List.length_zipWith,List.Forall₂.length_eq tiles,Nat.min_self]

theorem readLevelMeta_ok {store : MetadataStore} {entry : LevelEntry} (read : readLevelMeta store "" entry = .ok array) :
    ∃ document, readZarrJson store (entry.path ++ "/zarr.json") = .ok document ∧ ArrayMeta.deserialize document = some array := by
  unfold readLevelMeta at read
  rw [levelPath,if_pos rfl] at read
  dsimp only at read
  split at read
  · cases read
  · cases read
  · rename_i document there
    split at read
    · cases read
    · rename_i deserialized
      cases read
      refine ⟨document,?_,deserialized⟩
      rw [readZarrJson,there]

end Storage

section Levels
variable {geometry : TileGeometry} {described : Described} {i : Nat} {level : LevelGeometry F64}

structure LevelOf (geometry : TileGeometry) (described : Described) (i : Nat) (level : LevelGeometry F64) where
  entry : LevelEntry
  array : ArrayMeta
  binding : LevelBindingInfo
  listed : geometry.levelEntries[i]? = some entry
  read : geometry.levelMetas[i]? = some array
  bound : described.bindings[i]? = some binding
  built : ∃ first rest, geometry.levelMetas = first::rest ∧ parseDataType first.dataType = .ok described.dataType ∧
    buildLevelBindingInfo geometry.axesNames (dataTypeSize described.dataType) (classifyAxes geometry.axesNames first.shape).pinned (array,i) =
      .ok binding
  shown : level = levelGeometry geometry.axesNames (u32 i) array.shape binding.chunkShape entry.scale

theorem getElem?_zipIdx_zip {α β : Type} {items : List α} {others : List β} {pair : α × β} {n : Nat}
    (there : (items.zip others).zipIdx[i]? = some (pair,n)) : items[i]? = some pair.1 ∧ others[i]? = some pair.2 ∧ n = i := by
  rw [List.getElem?_zipIdx,Option.map_eq_some_iff] at there
  obtain ⟨found,zipped,same⟩ := there
  obtain ⟨first,second⟩ := List.getElem?_zip_eq_some.mp zipped
  cases same
  exact ⟨first,second,Nat.zero_add i⟩

theorem levelOf_describe (ok : describe geometry = .ok described) (there : described.levels[i]? = some level) :
    Nonempty (LevelOf geometry described i level) := by
  unfold describe at ok
  split at ok
  · cases ok
  · rename_i first rest metas
    obtain ⟨dataType,typed,ok⟩ := bind_ok ok
    obtain ⟨bindings,bound,ok⟩ := bind_ok ok
    obtain ⟨levels,built,same⟩ := bind_ok ok
    cases same
    obtain ⟨⟨⟨⟨entry,array⟩,binding⟩,n⟩,listed,geometry'⟩ := getElem?_of_forall₂ (mapM_ok_iff.mp built).flip there
    obtain ⟨pair,there',rfl⟩ := getElem?_zipIdx_zip listed
    obtain ⟨entry',array'⟩ := List.getElem?_zip_eq_some.mp pair
    have numbered : geometry.levelMetas.zipIdx[n]? = some (array,n) := by
      rw [List.getElem?_zipIdx,array',Option.map_some,Nat.zero_add]
    obtain ⟨binding',here,made⟩ := getElem?_of_forall₂ (mapM_ok_iff.mp bound) numbered
    obtain rfl : binding' = binding := Option.some.inj (here.symm.trans there')
    refine ⟨⟨entry,array,binding',entry',array',there',⟨first,rest,metas,typed,mapError_ok made⟩,?_⟩⟩
    unfold buildLevelGeometry at geometry'
    dsimp only at geometry'
    split at geometry'
    · cases geometry'
    · cases geometry'
      rfl

end Levels

section Imported
variable {ofInt : Int → F64} {format : ZarrFormat} {store : MetadataStore} {placing : Placing} {id name : String} {result : ImportResult}
variable {geometry : TileGeometry} {described : Described} {i : Nat} {level : LevelGeometry F64}

structure MadeOf (ofInt : Int → F64) (store : MetadataStore) (result : ImportResult) (root : Json) (multiscales : ParsedMultiscales)
    (geometry : TileGeometry) (described : Described) : Prop where
  opened : readZarrJson store "zarr.json" = .ok root
  parsed : parseMultiscales ofInt root "" = .ok multiscales
  axes : geometry.axesNames = multiscales.axesNames
  entries : geometry.levelEntries = multiscales.levelEntries
  metas : readLevelMetas store "" multiscales.levelEntries = .ok geometry.levelMetas
  accepted : describe geometry = .ok described
  image : ∃ image, result.manifest.images = [image] ∧ image.multiscale.levels = described.levels ∧
    seedOf result.bindings image.imageId = some ⟨image.imageId,multiscales.axesNames,none,described.bindings⟩

theorem seedOf_image (seed : ImageBindingSeed) (labels : List BuiltLabel) (built : ∀ label ∈ labels, LabelOf seed.imageId owner label) :
    seedOf (seed::labels.map BuiltLabel.binding) seed.imageId = some seed := by
  rw [seedOf,List.reverse_cons,List.find?_append,List.find?_eq_none.mpr]
  · simp
  · intro binding member
    obtain ⟨label,there,rfl⟩ := List.mem_map.mp (List.mem_reverse.mp member)
    have own := built label there
    rw [own.binding,own.imageId]
    simpa using append_label_ne seed.imageId label.spec.name

theorem madeOf_import (imported : importDataset ofInt store placing id name forceExhaustive = .ok result) (single : result.manifest.kind = .single) :
    ∃ root multiscales geometry described, MadeOf ofInt store result root multiscales geometry described := by
  unfold importDataset at imported
  obtain ⟨root,read,rest⟩ := bind_ok imported
  split at rest
  · -- A plate is of another kind.
    unfold importCollection at rest
    obtain ⟨_,_,rest⟩ := bind_ok rest
    obtain ⟨_,_,rest⟩ := bind_ok rest
    dsimp only at rest
    split at rest
    · cases rest
    · obtain ⟨_,_,rest⟩ := bind_ok rest
      obtain ⟨_,_,same⟩ := bind_ok rest
      cases same
      cases single
  · unfold importSingleImage at rest
    obtain ⟨geometry,parsed,rest⟩ := bind_ok rest
    obtain ⟨described,accepted,same⟩ := bind_ok rest
    unfold parseGeometry at parsed
    obtain ⟨multiscales,multi,parsed⟩ := bind_ok parsed
    obtain ⟨levelMetas,metas,parsed⟩ := bind_ok parsed
    cases parsed
    cases same
    refine ⟨root,multiscales,_,described,⟨read,multi,rfl,rfl,metas,accepted,_,rfl,rfl,?_⟩⟩
    exact seedOf_image ⟨id,multiscales.axesNames,none,described.bindings⟩ _ (imageLabels_kept ofInt store id).1.built

structure LevelOfArray (seed : ImageBindingSeed) (array : DeclaredArray) (dtypeSize i : Nat) (level : LevelGeometry F64) where
  binding : LevelBindingInfo
  number : level.levelIndex = u32 i
  bound : BoundTo seed i binding array
  accepted : array.Valid → array.Accepted
  laid : LaidOut array binding dtypeSize
  ranges : array.Valid → ∀ t c cell, KeyInRange level t c cell ↔ array.Asked t c cell

theorem dataTypeSize_word (dataType : DataType) : 0 < dataTypeSize dataType ∧ dataTypeSize dataType < 2^64 := by
  cases dataType <;> decide

theorem keyInRange_iff {array : DeclaredArray} (valid : array.Valid) (accepted : array.Accepted)
    (shown : level = levelGeometry array.axes n array.shape array.chunkShape scale) (t c : Nat) (cell : Zyx) :
    KeyInRange level t c cell ↔ array.Asked t c cell := by
  obtain ⟨_,_,z,y,x⟩ := chunk_pos valid
  have extent : canonicalShape array.axes array.shape = array.extent := by
    refine canonicalShape_eq ?_
    rw [map_fst_zip valid.ranked.symm]
    exact valid.distinct
  have chunk : canonicalShape array.axes array.chunkShape = array.chunk := by
    refine canonicalShape_eq ?_
    rw [map_fst_zip accepted.chunked]
    exact valid.distinct
  subst shown
  unfold KeyInRange levelGeometry
  dsimp only
  rw [extent,chunk]
  constructor
  · intro ⟨inT,inC,inZ,inY,inX⟩
    exact ⟨inT,inC,(lt_divCeil z).mp inZ,(lt_divCeil y).mp inY,(lt_divCeil x).mp inX⟩
  · intro asked
    exact ⟨asked.t,asked.c,(lt_divCeil z).mpr asked.z,(lt_divCeil y).mpr asked.y,(lt_divCeil x).mpr asked.x⟩

theorem levelOfArray (format : ZarrFormat) (made : MadeOf ofInt store result root multiscales geometry described)
    (there : described.levels[i]? = some level) : ∃ array, declaredArray ofInt format store i = some array ∧
      Nonempty (LevelOfArray ⟨imageId,multiscales.axesNames,none,described.bindings⟩ array (dataTypeSize described.dataType) i level) := by
  obtain ⟨of⟩ := levelOf_describe made.accepted there
  obtain ⟨entry,array,binding,listed,read,bound,⟨first,rest,metas,typed,built⟩,shown⟩ := of
  rw [made.entries] at listed
  obtain ⟨array',same,read'⟩ := getElem?_of_forall₂ (mapM_ok_iff.mp made.metas) listed
  obtain rfl : array' = array := Option.some.inj (same.symm.trans read)
  obtain ⟨document,opened,deserialized⟩ := readLevelMeta_ok read'
  unfold buildLevelBindingInfo at built
  obtain ⟨⟨shard,compression,chunkShape⟩,stored,built⟩ := bind_ok built
  obtain ⟨layout,computed,same⟩ := bind_ok built
  have computed := mapError_ok computed
  cases same
  rw [made.axes] at computed shown
  have declared : declaredArray ofInt format store i = some ⟨multiscales.axesNames,entry.path,array'.shape,chunkShape,shard,compression,
      format.width array'.dataType,.parse document,format.fill document⟩ := by
    unfold declaredArray
    simp only [made.opened,made.parsed,listed,opened,deserialized,stored,Except.toOption,Option.bind_eq_bind,Option.bind_some]
    rfl
  have accepted (valid : DeclaredArray.Valid ⟨multiscales.axesNames,entry.path,array'.shape,chunkShape,shard,compression,
      format.width array'.dataType,.parse document,format.fill document⟩) : DeclaredArray.Accepted ⟨multiscales.axesNames,entry.path,
      array'.shape,chunkShape,shard,compression,format.width array'.dataType,.parse document,format.fill document⟩ := by
    obtain ⟨paired,_⟩ := compute_eq valid.positive (dataTypeSize_word _).2 computed
    refine ⟨paired,fun layout sharded => ?_⟩
    obtain ⟨inner,counts⟩ := chunkStorage_ok stored layout sharded
    exact ⟨inner,counts.trans paired.symm⟩
  refine ⟨_,declared,⟨_,?_,⟨rfl,rfl,bound,rfl,rfl,rfl,rfl⟩,accepted,⟨dataTypeSize_word _,first.shape,computed⟩,?_⟩⟩
  · rw [shown]
    rfl
  · intro valid t c cell
    exact keyInRange_iff valid (accepted valid) shown t c cell

def ArraysConventional (ofInt : Int → F64) (format : ZarrFormat) (store : MetadataStore) : Prop :=
  ∀ first, declaredArray ofInt format store 0 = some first →
    ∀ i array, declaredArray ofInt format store i = some array → Conventional array i first.width

theorem declaredArray_some (made : MadeOf ofInt store result root multiscales geometry described)
    (declared : declaredArray ofInt format store i = some array) :
    ∃ read, geometry.levelMetas[i]? = some read ∧ array.width = format.width read.dataType := by
  unfold declaredArray at declared
  rw [made.opened,Except.toOption,Option.bind_eq_bind,Option.bind_some,made.parsed,Except.toOption,Option.bind_eq_bind,
    Option.bind_some] at declared
  obtain ⟨entry,listed,declared⟩ := Option.bind_eq_some_iff.mp declared
  obtain ⟨read,there,read'⟩ := getElem?_of_forall₂ (mapM_ok_iff.mp made.metas) listed
  obtain ⟨document,opened,deserialized⟩ := readLevelMeta_ok read'
  rw [opened,Except.toOption,Option.bind_eq_bind,Option.bind_some,deserialized,Option.bind_eq_bind,Option.bind_some] at declared
  obtain ⟨storage,_,same⟩ := Option.bind_eq_some_iff.mp declared
  cases same
  exact ⟨read,there,rfl⟩

theorem first_width (made : MadeOf ofInt store result root multiscales geometry described)
    (declared : declaredArray ofInt format store 0 = some array) : array.width = dataTypeSize described.dataType := by
  obtain ⟨read,there,width⟩ := declaredArray_some made declared
  have accepted := made.accepted
  unfold describe at accepted
  split at accepted
  · cases accepted
  · rename_i first rest metas
    obtain ⟨dataType,typed,accepted⟩ := bind_ok accepted
    obtain ⟨_,_,accepted⟩ := bind_ok accepted
    obtain ⟨_,_,same⟩ := bind_ok accepted
    cases same
    rw [metas] at there
    cases there
    exact width.trans (format.known _ _ typed)

theorem levels_of_declared (made : MadeOf ofInt store result root multiscales geometry described)
    (declared : declaredArray ofInt format store i = some array) : ∃ level, described.levels[i]? = some level := by
  obtain ⟨read,there,_⟩ := declaredArray_some made declared
  have each : geometry.levelEntries.length = geometry.levelMetas.length := by
    rw [made.entries]
    exact (mapM_ok_iff.mp made.metas).length_eq
  have sound := describe_ok each made.accepted
  have many : described.levels.length = geometry.levelMetas.length := by
    rw [← length_of_indices (sound.agree.same.trans sound.agree.indices),sound.many]
  have short := (List.getElem?_eq_some_iff.mp there).1
  exact ⟨_,List.getElem?_eq_getElem (many ▸ short)⟩

theorem import_reads_iff (imported : importDataset ofInt store placing id name forceExhaustive = .ok result)
    (single : result.manifest.kind = .single) (valid : ∀ i array, declaredArray ofInt format store i = some array → array.Valid ∧ i < 2^32) :
    ReadsItsArrays ofInt format store result ↔ ArraysConventional ofInt format store := by
  obtain ⟨root,multiscales,geometry,described,made⟩ := madeOf_import imported single
  obtain ⟨image,images,levels,bound⟩ := made.image
  have at' {i : Nat} {level : LevelGeometry F64} (there : described.levels[i]? = some level) :=
    @levelOfArray _ _ _ _ _ _ _ _ _ image.imageId format made there
  constructor
  · intro reads first zeroth i array declared
    obtain ⟨valid,small⟩ := valid i array declared
    obtain ⟨level,there⟩ := levels_of_declared made declared
    obtain ⟨array',declared',⟨of⟩⟩ := at' there
    obtain rfl := Option.some.inj (declared'.symm.trans declared)
    rw [first_width made zeroth,← serves_iff_conventional valid (of.accepted valid) of.bound of.laid small]
    obtain ⟨seed,seeded,each⟩ := reads image (images ▸ List.mem_singleton_self image)
    obtain rfl := Option.some.inj (seeded.symm.trans bound)
    obtain ⟨array'',declared'',serves⟩ := each i level (levels ▸ there)
    obtain rfl := Option.some.inj (declared''.symm.trans declared)
    intro t c cell asked
    have number : level.levelIndex = i := of.number.trans (Nat.mod_eq_of_lt small)
    rw [number] at serves
    exact serves t c cell ((of.ranges valid t c cell).mpr asked)
  · intro conventional image' member
    rw [images,List.mem_singleton] at member
    subst member
    refine ⟨_,bound,fun i level there => ?_⟩
    rw [levels] at there
    obtain ⟨array,declared,⟨of⟩⟩ := at' there
    obtain ⟨valid',small⟩ := valid i array declared
    refine ⟨array,declared,fun t c cell ranged => ?_⟩
    obtain ⟨zeroth,there'⟩ : ∃ level, described.levels[0]? = some level := by
      have long := (List.getElem?_eq_some_iff.mp there).1
      exact ⟨_,List.getElem?_eq_getElem (Nat.zero_lt_of_lt long)⟩
    obtain ⟨first,declared',_⟩ := at' there'
    have here := conventional first declared' i array declared
    rw [first_width made declared'] at here
    have number : level.levelIndex = i := of.number.trans (Nat.mod_eq_of_lt small)
    rw [number]
    exact serves_of_conventional valid' (of.accepted valid') of.bound of.laid small here ((of.ranges valid' t c cell).mp ranged)

end Imported

section OneImage

def unsignedFormat : ZarrFormat where
  width name := ((parseDataType name).toOption.map dataTypeSize).getD 0
  fill document :=
    let width := (((document.getStr "data_type").bind fun name => (parseDataType name).toOption).map dataTypeSize).getD 0
    LittleEndian.toBytes width (((document.getU64 "fill_value").map UInt64.toNat).getD 0)
  known name dataType parsed := by
    rw [parsed]
    rfl

def imageArray : Json :=
  .object [("shape",sizes [4,4]),("data_type",.string "uint8"),
    ("chunk_grid",.object [("name",.string "regular"),("configuration",.object [("chunk_shape",sizes [2,4])])]),
    ("chunk_key_encoding",.object [("name",.string "default"),("configuration",.object [("separator",.string "/")])]),
    ("fill_value",.number (.unsigned 0)),("codecs",.array [littleEndianBytes])]

def imageRoot (path : String) : Json :=
  omeDocument "multiscales" (.array [.object [("axes",.array [namedEntry "y",namedEntry "x"]),("datasets",.array [pathEntry path])]])

def imageStore (path : String) : MetadataStore := fun object =>
  if object = "zarr.json" then .parsed (imageRoot path)
  else if object = path ++ "/zarr.json" then .parsed imageArray
  else .failed (.notFound object "")

def importImage (path : String) : Except ImportError ImportResult :=
  importDataset (fun _ => .one) (imageStore path) ⟨fun _ _ => [],fun _ _ => [],fun _ _ => []⟩ "image" "Image" false

def arrayAt (path : String) : DeclaredArray :=
  ⟨["y","x"],path,[4,4],[2,4],none,.none,1,.default "/",[0]⟩

theorem arrayAt_valid (path : String) : (arrayAt path).Valid := by
  have positive : (0 : UInt64) ∉ [2,4] := by decide
  have distinct : (["y","x"].filterMap axisIndex).Nodup := by decide
  refine ⟨rfl,positive,?_,distinct⟩
  intro layout sharded
  cases sharded

theorem named_by_level {array : DeclaredArray} {level : Nat} (path : array.path = toString level) (encoding : array.encoding = .default "/")
    {coords : List Nat} (some : coords ≠ []) : array.objectPath coords = pathFrom (chunkGridStorePath (toString level) coords) := by
  obtain ⟨n,coords,rfl⟩ := List.exists_cons_of_ne_nil some
  rw [DeclaredArray.objectPath,path,encoding,chunkGridStorePath,KeyEncoding.key]
  · congr 1
    have slash : "/c/" = "/" ++ ("c" ++ "/") := by decide
    simp only [slash,String.append_assoc]
  · intro bad
    cases bad

theorem arrayAt_conventional : Conventional (arrayAt "0") 0 1 := by
  refine ⟨?_,fun _ _ _ _ => rfl,fun _ => rfl,fun _ => ⟨by decide,by decide,by decide⟩⟩
  intro t c cell _
  exact named_by_level (by decide) rfl (by simp [DeclaredArray.objectCoords,arrayAt,DeclaredArray.keyCoords])

theorem declared_at_zero (declared : declaredArray (fun _ => .one) unsignedFormat (imageStore "0") i = some array) :
    i = 0 ∧ array = arrayAt "0" := by
  have single : (parseMultiscales (fun _ => .one) (imageRoot "0") "").toOption.all (·.levelEntries.length = 1) = true := by decide +kernel
  have zeroth : declaredArray (fun _ => .one) unsignedFormat (imageStore "0") 0 = some (arrayAt "0") := by decide +kernel
  have root : (readZarrJson (imageStore "0") "zarr.json").toOption = some (imageRoot "0") := by
    have plain : pathFrom "zarr.json" = "zarr.json" := by decide +kernel
    rw [readZarrJson,plain]
    rfl
  have number : i = 0 := by
    unfold declaredArray at declared
    rw [root,Option.bind_eq_bind,Option.bind_some] at declared
    obtain ⟨multiscales,parsed,declared⟩ := Option.bind_eq_some_iff.mp declared
    obtain ⟨entry,listed,_⟩ := Option.bind_eq_some_iff.mp declared
    rw [parsed,Option.all_some,decide_eq_true_eq] at single
    have short := (List.getElem?_eq_some_iff.mp listed).1
    omega
  subst number
  rw [zeroth] at declared
  exact ⟨rfl,(Option.some.inj declared).symm⟩

theorem import_reads_an_image_at_zero :
    ∃ result, importImage "0" = .ok result ∧ ReadsItsArrays (fun _ => .one) unsignedFormat (imageStore "0") result := by
  have accepted : (importImage "0").toOption.map (·.manifest.kind) = some .single := by decide +kernel
  cases imported : importImage "0" with
  | error error =>
    rw [imported] at accepted
    cases accepted
  | ok result =>
    rw [imported] at accepted
    refine ⟨result,rfl,(import_reads_iff imported (Option.some.inj accepted) ?_).mpr ?_⟩
    · intro i array declared
      obtain ⟨rfl,rfl⟩ := declared_at_zero declared
      exact ⟨arrayAt_valid "0",by decide⟩
    · intro first declared i array declared'
      obtain ⟨_,rfl⟩ := declared_at_zero declared
      obtain ⟨rfl,rfl⟩ := declared_at_zero declared'
      exact arrayAt_conventional

-- The level's array is at `s0`, and the server looks for its first chunk under `0`.
theorem renamed_level_is_not_read :
    ∃ result, importImage "s0" = .ok result ∧ result.manifest.kind = .single ∧
      ¬ ReadsItsArrays (fun _ => .one) unsignedFormat (imageStore "s0") result := by
  have accepted : (importImage "s0").toOption.map (·.manifest.kind) = some .single := by decide +kernel
  have answered : (importImage "s0").toOption.map (fun result => result.manifest.images.map fun image =>
      (seedOf result.bindings image.imageId).bind fun seed => (resolve seed (chunkKeyOf 0 0 0 ⟨0,0,0⟩)).toOption) =
      some [some (.object "0/c/0/0")] := by decide +kernel
  have counted : (importImage "s0").toOption.map (fun result => result.manifest.images.map fun image =>
      image.multiscale.levels.map fun level => (level.levelIndex,axesList level.shape,axesList level.gridShape)) =
      some [[(0,[1,1,1,4,4],[1,1,1,2,1])]] := by decide +kernel
  have declared : declaredArray (fun _ => .one) unsignedFormat (imageStore "s0") 0 = some (arrayAt "s0") := by decide +kernel
  cases imported : importImage "s0" with
  | error error =>
    rw [imported] at answered
    cases answered
  | ok result =>
    rw [imported] at accepted answered counted
    refine ⟨result,rfl,Option.some.inj accepted,fun reads => ?_⟩
    obtain ⟨image,_,listed,found,_⟩ := List.map_eq_cons_iff.mp (Option.some.inj answered)
    have images := Option.some.inj counted
    dsimp only at images
    rw [listed,List.map_cons,List.cons.injEq] at images
    obtain ⟨level,_,zeroth,sizes,_⟩ := List.map_eq_cons_iff.mp images.1
    obtain ⟨number,rest⟩ := (Prod.mk.injEq ..).mp sizes
    obtain ⟨shape,grid⟩ := (Prod.mk.injEq ..).mp rest
    obtain ⟨seed,seeded,each⟩ := reads image (listed ▸ List.mem_cons_self)
    obtain ⟨array,declared',serves⟩ := each 0 level (by rw [zeroth]; rfl)
    obtain rfl := Option.some.inj (declared.symm.trans declared')
    have ranged : KeyInRange level 0 0 ⟨0,0,0⟩ := by
      simp only [axesList,List.cons.injEq] at shape grid
      obtain ⟨t,c,_⟩ := shape
      obtain ⟨_,_,z,y,x,_⟩ := grid
      unfold KeyInRange
      rw [t,c,z,y,x]
      decide
    obtain ⟨location,resolved,under⟩ := (serves 0 0 ⟨0,0,0⟩ ranged).under
    rw [number] at resolved
    rw [seeded,Option.bind_some,resolved] at found
    cases found
    have outside : ¬(pathFrom "s0" = "" ∨ (pathFrom "s0" ++ "/").toList <+: "0/c/0/0".toList) := by decide +kernel
    exact outside under

end OneImage
end Lucida.Server
