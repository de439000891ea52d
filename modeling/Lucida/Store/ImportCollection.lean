import Lucida.Store.Import

namespace Lucida.Store
open Content Lib

structure TileParsed where
  storePrefix : String
  translation : Option (List F64)
  deriving DecidableEq, Repr

structure GroupParsed where
  path : String
  rowIndex : Nat
  columnIndex : Nat
  tiles : List TileParsed
  deriving DecidableEq, Repr

section Groups
variable (ofInt : Int → F64) (store : MetadataStore)

def parseTranslation (imageEntry : Json) : Option (List F64) :=
  (imageEntry.getArray "coordinateTransformations").bind fun transforms =>
    transforms.findSome? fun transform =>
      if transform.getStr "type" = some "translation" then
        (transform.getArray "translation").map fun values => values.filterMap (Json.asF64 ofInt)
      else none

def parseTile (groupPath : String) (imageEntry : Json) : TileParsed :=
  let tilePath := (imageEntry.getStr "path").getD "0"
  ⟨groupPath ++ "/" ++ tilePath,parseTranslation ofInt imageEntry⟩

def groupIndex (groupEntry : Json) (field : String) : Nat := u32 (((groupEntry.getU64 field).getD 0).toNat)

-- A group that is not `some` is skipped, with a warning.
def parseOneGroup (groupEntry : Json) : Option GroupParsed := do
  let groupPath ← groupEntry.getStr "path"
  match store (pathFrom (groupPath ++ "/zarr.json")) with
  | .parsed groupJson =>
    let images ← (resolveOmeBlock groupJson "well").bind (Json.getArray · "images")
    if images = [] then none
    else some ⟨groupPath,groupIndex groupEntry "rowIndex",groupIndex groupEntry "columnIndex",images.map (parseTile ofInt groupPath)⟩
  | .malformed | .failed _ => none

def readGroups (groupsJson : List Json) : List GroupParsed := groupsJson.filterMap (parseOneGroup ofInt store)

end Groups

section Representative
variable (ofInt : Int → F64) (store : MetadataStore)

-- The first tile that can be read.
def selectSharedTileGeometry (candidatePrefixes : List String) : Option TileGeometry :=
  candidatePrefixes.findSome? fun tilePrefix => (readTileGeometry ofInt store tilePrefix).toOption

def dataTypeDebug : DataType → String
  | .uint8 => "Uint8"
  | .uint16 => "Uint16"
  | .uint32 => "Uint32"
  | .float32 => "Float32"
  | .float64 => "Float64"

def StoredLevels.ofMetas (levelMetas : List ArrayMeta) (bindings : List LevelBindingInfo) : StoredLevels :=
  ⟨levelMetas.map ArrayMeta.shape,bindings⟩

def storedLevelsOf (geometry : TileGeometry) (axesNames : List String) (dataType : DataType) (pinned : List PinnedAxis) :
    Except ImportError StoredLevels :=
  if geometry.axesNames ≠ axesNames then
    .error (.metadata ("axes " ++ debugList (geometry.axesNames.map String.quote) ++ " differ from " ++
      debugList (axesNames.map String.quote)))
  else match geometry.levelMetas with
  | [] => .error (.metadata "no levels")
  | first::_ => do
    let tileType ← parseDataType first.dataType
    if tileType ≠ dataType then
      .error (.metadata ("data type " ++ dataTypeDebug tileType ++ " differs from " ++ dataTypeDebug dataType))
    else match geometry.levelMetas.findIdx? fun array => array.shape.length ≠ axesNames.length with
    | some level => .error (.metadata ("level " ++ toString level ++ " shape does not match its axes"))
    | none => do
      let bindings ← buildLevelBindingInfos axesNames (dataTypeSize dataType) pinned geometry.levelMetas
      match bindings.findIdx? fun binding => binding.chunkShape.contains 0 with
      | some level => .error (.metadata ("level " ++ toString level ++ " has a zero chunk dimension"))
      | none => .ok (.ofMetas geometry.levelMetas bindings)

-- The representative is not read again.
def readStoredGroup (representativePrefix : String) (representative : StoredLevels) (axesNames : List String) (dataType : DataType)
    (pinned : List PinnedAxis) (firstPrefix : String) : Except ImportError StoredLevels :=
  if firstPrefix = representativePrefix then .ok representative
  else do
    let geometry ← readTileGeometry ofInt store firstPrefix
    storedLevelsOf geometry axesNames dataType pinned

end Representative

section LabelDiscovery
variable (store : MetadataStore)

def labelProbeSamplingMinSkipped : Nat := 64

def maxUnusableGroupExpansions : Nat := 4

def useExhaustiveLabelProbes (totalTiles sampleCount : Nat) (forceExhaustive : Bool) : Bool :=
  forceExhaustive || totalTiles < sampleCount+labelProbeSamplingMinSkipped

-- The positions of each group's tiles in the list of all tiles.
def groupSpans : Nat → List GroupParsed → List (List Nat)
  | _,[] => []
  | start,group::groups => List.range' start group.tiles.length::groupSpans (start+group.tiles.length) groups

def sampleProbeIndices (spans : List (List Nat)) : List Nat :=
  spans.flatMap fun span =>
    match span with
    | [] => []
    | [only] => [only]
    | first::rest => first::rest.getLast?.toList

abbrev ProbedSlots := List (Option ProbedLabels)

def probeLabelsForTiles (tilePrefixes : List String) (indices : List Nat) (slots : ProbedSlots) : ProbedSlots :=
  (tilePrefixes.zip slots).zipIdx.map fun ((tilePrefix,slot),index) =>
    if index ∈ indices then some (probeLabelsForImage store tilePrefix) else slot

-- A listed index expands its group, and an unusable one while expansions are left, each of which
-- is charged only if it adds reads.
def followUp (slots : ProbedSlots) : Nat → List (List Nat) → List Nat
  | _,[] => []
  | expansions,span::spans =>
    let sampledState := fun state => span.any fun index => (slots.getD index none).any (·.index = state)
    let unprobed := span.filter fun index => (slots.getD index none).isNone
    if sampledState .listed then unprobed ++ followUp slots expansions spans
    else if sampledState .unusable && expansions < maxUnusableGroupExpansions && unprobed ≠ [] then
      unprobed ++ followUp slots (expansions+1) spans
    else followUp slots expansions spans

def discoverLabels (groups : List GroupParsed) (forceExhaustive : Bool) : ProbedSlots :=
  let tilePrefixes := (groups.flatMap GroupParsed.tiles).map TileParsed.storePrefix
  let spans := groupSpans 0 groups
  let unprobed : ProbedSlots := tilePrefixes.map fun _ => none
  let samples := sampleProbeIndices spans
  if useExhaustiveLabelProbes tilePrefixes.length samples.length forceExhaustive then
    probeLabelsForTiles store tilePrefixes (List.range tilePrefixes.length) unprobed
  else
    let sampled := probeLabelsForTiles store tilePrefixes samples unprobed
    probeLabelsForTiles store tilePrefixes (followUp sampled 0 spans) sampled

end LabelDiscovery

section Ids
variable (id : String)

def groupEntityId (group : GroupParsed) : EntityId := id ++ ":group:" ++ group.path

def tileEntityId (tile : TileParsed) : EntityId := id ++ ":tile:" ++ tile.storePrefix

def tileImageId (tile : TileParsed) : ImageId := id ++ ":image:" ++ tile.storePrefix

end Ids

section TileLabels
variable (ofInt : Int → F64) (store : MetadataStore) (id : String)

-- Tile by tile, in declared order, from one budget. A tile that was not probed has no labels.
def buildTileLabels : LabelBudget → List (TileParsed × Option ProbedLabels) → List (TileParsed × List BuiltLabel)
  | _,[] => []
  | budget,(tile,slot)::rest =>
    let probed := slot.getD ⟨tile.storePrefix ++ "/labels",[],.absent⟩
    let (labels,budget) := buildLabelsWithinBudget ofInt store probed.labelsPrefix (tileImageId id tile) (tileEntityId id tile)
      budget probed.names
    (tile,labels)::buildTileLabels budget rest

end TileLabels

section Assembly
variable (id : String)

def labelText (names : List String) (index : Nat) : String := names.getD index (toString index)

def groupEntity (rows columns : List String) (group : GroupParsed) : Graph.Entity where
  id := groupEntityId id group
  kind := .group
  parent := none
  labels :=
    let row := labelText rows group.rowIndex
    let column := labelText columns group.columnIndex
    ⟨some (row ++ "/" ++ column),some row,some column,some group.rowIndex,some group.columnIndex,none⟩

def tileEntity (group : GroupParsed) (tile : TileParsed × Nat) : Graph.Entity where
  id := tileEntityId id tile.1
  kind := .tile
  parent := some (groupEntityId id group)
  labels := ⟨some ("Tile " ++ toString tile.2),none,none,none,none,some (u32 tile.2)⟩

def groupEntities (rows columns : List String) (group : GroupParsed) : List Graph.Entity :=
  groupEntity id rows columns group::group.tiles.zipIdx.map (tileEntity id group)

-- Two tiles of one group and one index. Which pair is told does not matter.
def duplicateTileIndex : List Graph.Entity → Option Graph.Entity
  | [] => none
  | tile::rest => if rest.any fun other => other.parent = tile.parent ∧ other.labels.tileIndex = tile.labels.tileIndex then some tile
    else duplicateTileIndex rest

-- The edges and the placements of a collection are sums and quotients of floats: they are taken as
-- given.
structure Placing where
  explicit : List GroupParsed → Axes F64 → List (Graph.TransformEdge F64)
  grid : List Graph.Entity → Axes Nat → List (Graph.TransformEdge F64)
  layout : List Graph.Entity → Axes Nat → List (EntityPlacement F64)

def buildGridTileTransforms (placing : Placing) (entities : List Graph.Entity) (tileShape : Axes Nat) :
    Except ImportError (List (Graph.TransformEdge F64)) :=
  let tiles := entities.filter (·.kind = .tile)
  match duplicateTileIndex tiles with
  | some tile => .error (.metadata ("duplicate tile_index " ++ toString (tile.labels.tileIndex.getD 0) ++ " in group " ++
      (tile.parent.getD "").quote))
  | none => .ok (placing.grid tiles tileShape)

end Assembly

section Collection
variable (ofInt : Int → F64) (store : MetadataStore) (placing : Placing)

def declaredLevel (axesNames : List String) (level : LevelGeometry F64) (declared : List UInt64 × List UInt64) : LevelGeometry F64 :=
  levelGeometry axesNames level.levelIndex declared.1 declared.2 level.scale

structure SharedLevels where
  geometry : TileGeometry
  described : Described
  levels : List (LevelGeometry F64)
  stored : List (List LevelBindingInfo)

def firstPrefixes (groups : List GroupParsed) : List String := groups.filterMap fun group => group.tiles.head?.map TileParsed.storePrefix

def shareLevels (groups : List GroupParsed) : Except ImportError SharedLevels := do
  let prefixes := firstPrefixes groups
  let geometry ← required "collection has no tile with readable geometry" (selectSharedTileGeometry ofInt store prefixes)
  let described ← describe geometry
  let representative := StoredLevels.ofMetas geometry.levelMetas described.bindings
  let storedGroups := prefixes.map
    (readStoredGroup ofInt store geometry.tilePrefix representative geometry.axesNames described.dataType described.layout.pinned)
  let declared ← DeclaredLevels.covering (storedGroups.filterMap Except.toOption) geometry.axesNames
    (dataTypeSize described.dataType) described.layout.pinned
  let levels := List.zipWith (declaredLevel geometry.axesNames) described.levels (declared.shapes.zip declared.chunkShapes)
  -- A group whose geometry is unusable is read as if stored like the representative.
  return ⟨geometry,described,levels,storedGroups.map fun stored => declared.bind (stored.toOption.getD representative)⟩

def tileImage (id : String) (shared : SharedLevels) (tile : TileParsed) : Graph.ImageSpec F64 :=
  ⟨tileImageId id tile,tileEntityId id tile,
    multiscaleInfo shared.described shared.levels shared.geometry.channelInfos shared.geometry.downsamplingMethod⟩

def tileFetch (id : String) (shared : SharedLevels) (tile : TileParsed × List BuiltLabel) : List ProxiedImageSpec :=
  ⟨tileImageId id tile.1,.raw shared.described.dataType⟩::tile.2.map BuiltLabel.fetch

def tileBindings (id : String) (shared : SharedLevels) (tile : TileParsed × List BuiltLabel) (levels : List LevelBindingInfo) :
    List ImageBindingSeed :=
  ⟨tileImageId id tile.1,shared.geometry.axesNames,some tile.1.storePrefix,levels⟩::tile.2.map BuiltLabel.binding

def tileLevels (groups : List GroupParsed) (stored : List (List LevelBindingInfo)) : List (List LevelBindingInfo) :=
  (groups.zip stored).flatMap fun (group,levels) => group.tiles.map fun _ => levels

def hasExplicitPositions (groups : List GroupParsed) : Bool :=
  (groups.flatMap GroupParsed.tiles).any fun tile => tile.translation.isSome

def SharedLevels.fullShape (shared : SharedLevels) : Axes Nat := (shared.levels.head?.map LevelGeometry.shape).getD ⟨1,1,1,1,1⟩

def collectionEntities (id : String) (rows columns : List String) (groups : List GroupParsed) : List Graph.Entity :=
  groups.flatMap (groupEntities id rows columns)

def collectionTransforms (groups : List GroupParsed) (entities : List Graph.Entity) (shared : SharedLevels) :
    Except ImportError (List (Graph.TransformEdge F64)) :=
  if hasExplicitPositions groups then
    .ok (placing.explicit groups ((shared.levels.head?.map LevelGeometry.scale).getD ⟨.one,.one,.one,.one,.one⟩))
  else buildGridTileTransforms placing entities shared.fullShape

def assembleCollection (id name : String) (rows columns : List String) (groups : List GroupParsed) (shared : SharedLevels)
    (labelled : List (TileParsed × List BuiltLabel)) (transforms : List (Graph.TransformEdge F64)) : ImportResult where
  manifest := {
    datasetId := id
    name := name
    kind := .collection rows columns (if hasExplicitPositions groups then .explicit else .derived) (hasExplicitPositions groups)
    entities := collectionEntities id rows columns groups
    transforms := transforms
    images := (groups.flatMap GroupParsed.tiles).map (tileImage id shared)
    sourceLayouts := [⟨"source","Source",placing.layout (collectionEntities id rows columns groups) shared.fullShape⟩]
    defaultLayoutId := some "source"
    labels := labelled.flatMap fun tile => tile.2.map BuiltLabel.spec }
  fetch := labelled.flatMap (tileFetch id shared)
  bindings := (List.zipWith (tileBindings id shared) labelled (tileLevels groups shared.stored)).flatten

def entryNames (plate : Json) (field : String) : List String := ((plate.getArray field).getD []).filterMap (Json.getStr · "name")

def plateLabels (id : String) (groups : List GroupParsed) (forceExhaustive : Bool) : List (TileParsed × List BuiltLabel) :=
  buildTileLabels ofInt store id .new ((groups.flatMap GroupParsed.tiles).zip (discoverLabels store groups forceExhaustive))

def importCollection (id name : String) (rootJson : Json) (forceExhaustive : Bool) : Except ImportError ImportResult := do
  let plate ← required (describeMissingOmeBlock rootJson "plate") (resolveOmeBlock rootJson "plate")
  let groupsJson ← required "collection has no groups array" (plate.getArray "wells")
  let groups := readGroups ofInt store groupsJson
  if groups = [] then .error (.metadata "collection has no readable groups")
  else do
    let shared ← shareLevels ofInt store groups
    let rows := entryNames plate "rows"
    let columns := entryNames plate "columns"
    let transforms ← collectionTransforms placing groups (collectionEntities id rows columns groups) shared
    return assembleCollection placing id name rows columns groups shared (plateLabels ofInt store id groups forceExhaustive) transforms

def importDataset (id name : String) (forceExhaustive : Bool) : Except ImportError ImportResult := do
  let rootJson ← readZarrJson store "zarr.json"
  if (resolveOmeBlock rootJson "plate").isSome then importCollection ofInt store placing id name rootJson forceExhaustive
  else importSingleImage ofInt store id name rootJson

end Collection
end Lucida.Store
