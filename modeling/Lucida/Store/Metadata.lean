import Lucida.Content.Graph
import Lucida.Lib.Json
import Lucida.Lib.Text
import Lucida.Server.ChunkRead
import Lucida.Store.Shard

namespace Lucida.Store
open Content Lib
open Server (StorageCompression BloscConfig BloscCompressor BloscShuffle)

inductive ImportError where
  | objectStore (error : ChunkCache.StoreError)
  | metadata (message : String)
  -- The bytes are not JSON, or not JSON of the kind that is read there.
  | deserialize (place : String)
  | layout (place : String) (error : LayoutError)

def ImportError.inContext (context : String) : ImportError → ImportError
  | .metadata message => .metadata (context ++ ": " ++ message)
  | .layout place error => .layout (context ++ ": " ++ place) error
  | other => other

inductive MetadataRead where
  | parsed (value : Json)
  | malformed
  | failed (error : ChunkCache.StoreError)

abbrev MetadataStore := ChunkCache.Path → MetadataRead

def readZarrJson (store : MetadataStore) (path : String) : Except ImportError Json :=
  match store (pathFrom path) with
  | .parsed value => .ok value
  | .malformed => .error (.deserialize ("invalid JSON in " ++ path))
  | .failed error => .error (.objectStore error)

section OmeBlocks

def maxReportedAttributeKeys : Nat := 12

def maxReportedKeyChars : Nat := 64

def omeScope (rootJson : Json) : Option (String × List (String × Json)) := do
  let attributes ← (← rootJson.get "attributes").asObject
  match (attributes.lookup "ome").bind Json.asObject with
  | some ome => some ("attributes.ome",ome)
  | none => some ("attributes",attributes)

def resolveOmeBlock (rootJson : Json) (block : String) : Option Json :=
  (omeScope rootJson).bind fun scope => scope.2.lookup block

def truncateForMessage (key : String) : String :=
  if key.length ≤ maxReportedKeyChars then key else String.ofList (key.toList.take maxReportedKeyChars) ++ "…"

def describeMissingOmeBlock (rootJson : Json) (block : String) : String :=
  let message := "no OME-Zarr " ++ block ++ " metadata in zarr.json: expected `attributes.ome." ++ block ++
    "` (OME-Zarr 0.5) or `attributes." ++ block ++ "` (0.4-style placement)"
  if rootJson.getStr "node_type" = some "array" then
    message ++ "; this path is a Zarr array, not a group — point at the parent group that carries the " ++ block ++ " metadata"
  else match omeScope rootJson with
  | none => message ++ "; this group has no attributes at all"
  | some (path,fields) =>
    if fields = [] then message ++ "; " ++ path ++ " is empty"
    else
      let shown := (fields.take maxReportedAttributeKeys).map fun field => truncateForMessage field.1
      let listed := message ++ "; " ++ path ++ " has: " ++ ", ".intercalate shown
      let rest := fields.length-maxReportedAttributeKeys
      if rest > 0 then listed ++ " (+" ++ toString rest ++ " more)" else listed

end OmeBlocks

section Multiscales
variable (ofInt : Int → F64)

structure LevelEntry where
  path : String
  scale : Axes F64
  deriving DecidableEq, Repr

structure ParsedMultiscales where
  axesNames : List String
  levelEntries : List LevelEntry
  downsamplingMethod : Option String
  deriving DecidableEq, Repr

def axesSet {α : Type} (axes : Axes α) (index : Nat) (value : α) : Axes α :=
  match index with
  | 0 => { axes with t := value }
  | 1 => { axes with c := value }
  | 2 => { axes with z := value }
  | 3 => { axes with y := value }
  | 4 => { axes with x := value }
  | _ => axes

-- One definition for the integers and the floats: a later axis of a name writes over an earlier one.
def normalizeTo5d {α : Type} (values : List α) (axes : List String) (fill : α) : Axes α :=
  (axes.zip values).foldl (fun result (name,value) =>
    match axisIndex name with
    | some index => axesSet result index value
    | none => result) ⟨fill,fill,fill,fill,fill⟩

-- The last scale wins.
def levelScale (axesNames : List String) (dataset : Json) : Axes F64 :=
  ((dataset.getArray "coordinateTransformations").getD []).foldl (fun scale transform =>
    if transform.getStr "type" = some "scale" then
      match transform.getArray "scale" with
      | some values => normalizeTo5d (values.filterMap (Json.asF64 ofInt)) axesNames .one
      | none => scale
    else scale) ⟨.one,.one,.one,.one,.one⟩

def levelEntry (errorPrefix : String) (axesNames : List String) (dataset : Json) : Except ImportError LevelEntry :=
  match dataset.getStr "path" with
  | none => .error (.metadata (errorPrefix ++ "dataset entry missing path"))
  | some path => .ok ⟨path,levelScale ofInt axesNames dataset⟩

def nonBlank (text : Option String) : Option String := (text.map trim).filter (· ≠ "")

def parseMultiscales (rootJson : Json) (errorPrefix : String) : Except ImportError ParsedMultiscales :=
  match (resolveOmeBlock rootJson "multiscales").bind Json.asArray with
  | none => .error (.metadata (errorPrefix ++ describeMissingOmeBlock rootJson "multiscales"))
  | some [] => .error (.metadata (errorPrefix ++ "multiscales array is empty"))
  | some (multiscale::_) =>
    let axesNames := ((multiscale.getArray "axes").getD []).filterMap (Json.getStr · "name")
    match multiscale.getArray "datasets" with
    | none => .error (.metadata (errorPrefix ++ "no datasets in multiscales"))
    | some datasets => do
      let levelEntries ← datasets.mapM (levelEntry ofInt errorPrefix axesNames)
      if levelEntries = [] then .error (.metadata (errorPrefix ++ "no levels found"))
      else .ok ⟨axesNames,levelEntries,nonBlank (multiscale.getStr "type")⟩

end Multiscales

section Channels

def channelInfo (entry : Json) : Option Graph.ChannelInfo := do
  let label ← nonBlank (entry.getStr "label")
  return ⟨label,nonBlank (entry.getStr "color")⟩

-- Up to the last channel that has a label, with a label of its own for each one before that has none.
def parseOmeroChannels (rootJson : Json) : List Graph.ChannelInfo :=
  let channels := ((resolveOmeBlock rootJson "omero").bind (Json.getArray · "channels")).getD []
  let parsed := channels.map channelInfo
  let labelled := (parsed.reverse.dropWhile Option.isNone).reverse
  labelled.zipIdx.map fun (slot,i) => slot.getD ⟨"Ch " ++ toString i,none⟩

end Channels

section Labels

def maxLabelGroups : Nat := 4096

def maxLabelColors : Nat := 65536

def isSafeLabelName (name : String) : Bool :=
  name ≠ "" && name.utf8ByteSize ≤ 255 && name ≠ "." && name ≠ ".." && !name.toList.contains '/' &&
    !name.toList.contains (Char.ofNat 92) && !name.toList.contains (Char.ofNat 0)

def labelNames : List String → List Json → List String
  | names,[] => names
  | names,entry::rest =>
    match entry.asStr with
    | none => labelNames names rest
    | some name =>
      if !isSafeLabelName name || names.contains name then labelNames names rest
      else if names.length+1 ≥ maxLabelGroups then names ++ [name]
      else labelNames (names ++ [name]) rest

def parseLabelsNames (labelsGroupJson : Json) : List String :=
  labelNames [] (((resolveOmeBlock labelsGroupJson "labels").bind Json.asArray).getD [])

structure ImageLabelMeta where
  colors : List Graph.LabelColor
  sourceDeclared : Bool
  deriving DecidableEq, Repr

def colorByte (component : Json) : Option UInt8 :=
  component.asU64.bind fun n => if n.toNat > 255 then none else some n.toUInt8

def parseLabelColor (entry : Json) : Option Graph.LabelColor := do
  let value ← (← entry.get "label-value").asI64
  match (← entry.getArray "rgba") with
  | [r,g,b,a] => do
    let r ← colorByte r
    let g ← colorByte g
    let b ← colorByte b
    let a ← colorByte a
    return ⟨value,r,g,b,a⟩
  | _ => none

def parseImageLabel (labelGroupJson : Json) : ImageLabelMeta :=
  match resolveOmeBlock labelGroupJson "image-label" with
  | none => ⟨[],false⟩
  | some imageLabel =>
    ⟨(((imageLabel.getArray "colors").getD []).filterMap parseLabelColor).take maxLabelColors,
      (((imageLabel.get "source").bind (Json.get · "image")).bind Json.asStr).isSome⟩

end Labels

section Arrays

structure ArrayMeta where
  shape : List UInt64
  dataType : String
  chunkShape : List UInt64
  codecs : List Json

def u64List (value : Json) : Option (List UInt64) := value.asArray.bind fun items => items.mapM Json.asU64

def ArrayMeta.deserialize (value : Json) : Option ArrayMeta := do
  let shape ← u64List (← value.get "shape")
  let dataType ← value.getStr "data_type"
  let configuration ← (← value.get "chunk_grid").get "configuration"
  let chunkShape ← u64List (← configuration.get "chunk_shape")
  let codecs ← match value.get "codecs" with
    | none => some []
    | some codecs => codecs.asArray
  return ⟨shape,dataType,chunkShape,codecs⟩

def levelPath (basePrefix path : String) : String := if basePrefix = "" then path else basePrefix ++ "/" ++ path

def readLevelMeta (store : MetadataStore) (basePrefix : String) (entry : LevelEntry) : Except ImportError ArrayMeta :=
  let level := levelPath basePrefix entry.path
  match store (pathFrom (level ++ "/zarr.json")) with
  | .failed error => .error (.objectStore error)
  | .malformed => .error (.deserialize level)
  | .parsed value =>
    match ArrayMeta.deserialize value with
    | none => .error (.deserialize level)
    | some array => .ok array

def readLevelMetas (store : MetadataStore) (basePrefix : String) (levelEntries : List LevelEntry) : Except ImportError (List ArrayMeta) :=
  levelEntries.mapM (readLevelMeta store basePrefix)

end Arrays

section Codecs

def required {α : Type} (message : String) : Option α → Except ImportError α
  | some value => .ok value
  | none => .error (.metadata message)

def parseBloscConfig (config : Json) : Except ImportError BloscConfig := do
  let cname ← required "blosc configuration missing 'cname' field" (config.getStr "cname")
  let shuffleStr ← required "blosc configuration missing 'shuffle' field" (config.getStr "shuffle")
  let typesizeRaw ← required "blosc configuration missing 'typesize' field" (config.getU64 "typesize")
  let cname ← if cname = "zstd" then .ok BloscCompressor.zstd
    else .error (.metadata ("blosc cname '" ++ cname ++ "' not supported (only 'zstd')"))
  let shuffle ← match shuffleStr with
    | "noshuffle" => .ok BloscShuffle.none
    | "shuffle" => .ok BloscShuffle.byte
    | "bitshuffle" => .ok BloscShuffle.bit
    | other => .error (.metadata ("blosc shuffle '" ++ other ++ "' not supported (use noshuffle, shuffle, or bitshuffle)"))
  if typesizeRaw = 1 ∨ typesizeRaw = 2 ∨ typesizeRaw = 4 then .ok ⟨typesizeRaw.toUInt8,cname,shuffle⟩
  else .error (.metadata ("blosc typesize " ++ toString typesizeRaw ++ " not supported (only 1, 2, or 4)"))

def checkBytesCodec (first : Json) : Except ImportError Unit := do
  let name ← required "first storage codec missing 'name' field (expected 'bytes')" (first.getStr "name")
  if name ≠ "bytes" then .error (.metadata ("first storage codec must be 'bytes', got '" ++ name ++ "'"))
  else
    let config ← required "bytes codec missing 'configuration' object (need endian: little)" (first.get "configuration")
    let endian ← required "bytes codec missing 'endian' configuration" (config.getStr "endian")
    if endian ≠ "little" then .error (.metadata ("bytes codec endian must be 'little', got '" ++ endian ++ "'"))
    else .ok ()

def parseCompressor (second : Json) : Except ImportError StorageCompression := do
  let name ← required "second storage codec missing 'name' field (expected lz4/zstd/blosc)" (second.getStr "name")
  if name = "lz4" ∨ name = "numcodecs/lz4" then .ok .lz4
  else if name = "zstd" ∨ name = "numcodecs/zstd" then .ok .zstd
  else if name = "blosc" then
    let config ← required "blosc codec missing 'configuration' object (need cname/shuffle/typesize)" (second.get "configuration")
    let blosc ← parseBloscConfig config
    .ok (.blosc blosc)
  else .error (.metadata ("unsupported codec '" ++ name ++ "' in storage chain (supported: lz4, zstd, blosc)"))

def parseCodecChain : List Json → Except ImportError StorageCompression
  | [] => .error (.metadata "storage codec chain is empty (expected [bytes] or [bytes, compressor])")
  | [first] => do
    checkBytesCodec first
    .ok .none
  | [first,second] => do
    checkBytesCodec first
    parseCompressor second
  | codecs => .error (.metadata ("storage codec chain too long: got " ++ toString codecs.length ++ " codecs (expected 1 or 2)"))

end Codecs

section Sharding

def shardingCodec : String := "sharding_indexed"

def debugList (items : List String) : String := "[" ++ ", ".intercalate items ++ "]"

def checkTiles (inner shard : List UInt64) : List ((UInt64 × UInt64) × Nat) → Except ImportError Unit
  | [] => .ok ()
  | ((i,s),axis)::rest =>
    if i = 0 ∨ s % i ≠ 0 then
      .error (.metadata (shardingCodec ++ " chunk_shape " ++ debugList (inner.map toString) ++ " does not tile the shard shape " ++
        debugList (shard.map toString) ++ " on axis " ++ toString axis))
    else checkTiles inner shard rest

def parseInnerChunkShape (config : Json) (shardShape : List UInt64) : Except ImportError (List UInt64) := do
  let items ← required (shardingCodec ++ " configuration missing 'chunk_shape' array") (config.getArray "chunk_shape")
  let inner ← items.mapM fun item => required (shardingCodec ++ " chunk_shape entry is not a non-negative integer") item.asU64
  if inner.length ≠ shardShape.length then
    .error (.metadata (shardingCodec ++ " chunk_shape has " ++ toString inner.length ++ " axes but the shard shape " ++
      debugList (shardShape.map toString) ++ " has " ++ toString shardShape.length))
  else do
    checkTiles inner shardShape (inner.zip shardShape).zipIdx
    .ok inner

def parseIndexCodecs (codecs : List Json) : Except ImportError Bool :=
  let names := codecs.map fun codec => (codec.getStr "name").getD "?"
  let endian := codecs.head?.bind fun codec => (codec.get "configuration").bind (Json.getStr · "endian")
  if names = ["bytes"] ∧ endian = some "little" then .ok false
  else if names = ["bytes","crc32c"] ∧ endian = some "little" then .ok true
  else .error (.metadata ("index_codecs " ++ debugList (names.map String.quote) ++
    " not supported (expected bytes little-endian, optionally followed by crc32c)"))

def ShardLayout.parse (first : Json) (codecs : List Json) (shardShape : List UInt64) :
    Except ImportError (ShardLayout × StorageCompression) := do
  if codecs.length ≠ 1 then
    .error (.metadata ("the " ++ shardingCodec ++ " codec must be the only codec in the storage chain, got " ++
      toString codecs.length ++ " codecs"))
  else
    let config ← required (shardingCodec ++ " codec missing 'configuration' object") (first.get "configuration")
    let innerChunkShape ← parseInnerChunkShape config shardShape
    let chunksPerShard := List.zipWith (· / ·) shardShape innerChunkShape
    let innerCodecs ← required (shardingCodec ++ " configuration missing 'codecs' array for the inner chunks")
      (config.getArray "codecs")
    if innerCodecs.any fun codec => codec.getStr "name" = some shardingCodec then
      .error (.metadata ("nested sharding is not supported: a " ++ shardingCodec ++ " codec inside another"))
    else
      let innerCompression ← (parseCodecChain innerCodecs).mapError (ImportError.inContext "inner chunk codecs")
      let indexCodecs ← required (shardingCodec ++ " configuration missing 'index_codecs' array") (config.getArray "index_codecs")
      let indexChecksum ← parseIndexCodecs indexCodecs
      let indexLocation ← match config.getStr "index_location" with
        | none => .ok IndexLocation.atEnd
        | some "end" => .ok IndexLocation.atEnd
        | some "start" => .ok IndexLocation.atStart
        | some other => .error (.metadata ("index_location '" ++ other ++ "' not supported (use 'start' or 'end')"))
      .ok (⟨innerChunkShape,chunksPerShard,indexLocation,indexChecksum⟩,innerCompression)

def ShardLayout.fromCodecChain (codecs : List Json) (shardShape : List UInt64) :
    Except ImportError (Option (ShardLayout × StorageCompression)) :=
  match codecs with
  | [] => .ok none
  | first::_ =>
    if first.getStr "name" ≠ some shardingCodec then .ok none
    else ((ShardLayout.parse first codecs shardShape).mapError (ImportError.inContext (shardingCodec ++ " codec"))).map some

end Sharding
end Lucida.Store
