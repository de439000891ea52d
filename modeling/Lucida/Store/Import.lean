import Lucida.Store.ImportLevels

namespace Lucida.Store
open Content Lib

inductive WireFormat where
  | raw (dataType : DataType)
  | lz4 (dataType : DataType)
  | zstd (dataType : DataType)
  deriving DecidableEq, Repr

structure ProxiedImageSpec where
  imageId : ImageId
  wireFormat : WireFormat
  deriving DecidableEq, Repr

structure ImageBindingSeed where
  imageId : ImageId
  axesNames : List String
  storePrefix : Option String
  levels : List LevelBindingInfo
  deriving DecidableEq, Repr

structure ImportResult where
  manifest : Graph.DatasetManifest F64
  fetch : List ProxiedImageSpec
  bindings : List ImageBindingSeed
  deriving DecidableEq, Repr

section Geometry
variable (ofInt : Int → F64) (store : MetadataStore)

structure TileGeometry where
  tilePrefix : String
  axesNames : List String
  levelEntries : List LevelEntry
  channelInfos : List Graph.ChannelInfo
  downsamplingMethod : Option String
  levelMetas : List ArrayMeta

def parseGeometry (json : Json) (basePrefix errorPrefix : String) : Except ImportError TileGeometry := do
  let parsed ← parseMultiscales ofInt json errorPrefix
  let levelMetas ← readLevelMetas store basePrefix parsed.levelEntries
  return ⟨basePrefix,parsed.axesNames,parsed.levelEntries,parseOmeroChannels json,parsed.downsamplingMethod,levelMetas⟩

def readTileGeometry (tilePrefix : String) : Except ImportError TileGeometry := do
  let tileJson ← readZarrJson store (tilePrefix ++ "/zarr.json")
  parseGeometry ofInt store tileJson tilePrefix (tilePrefix ++ ": ")

end Geometry

structure Described where
  dataType : DataType
  layout : AxisLayout
  bindings : List LevelBindingInfo
  levels : List (LevelGeometry F64)

def describe (geometry : TileGeometry) : Except ImportError Described :=
  match geometry.levelMetas with
  -- `parse_multiscales` has refused an image without a level.
  | [] => .error (.metadata "no levels")
  | first::_ => do
    let dataType ← parseDataType first.dataType
    let layout := classifyAxes geometry.axesNames first.shape
    let bindings ← buildLevelBindingInfos geometry.axesNames (dataTypeSize dataType) layout.pinned geometry.levelMetas
    let levels ← buildLevelGeometries geometry.levelEntries geometry.levelMetas bindings geometry.axesNames
    return ⟨dataType,layout,bindings,levels⟩

def pinnedAxes (layout : AxisLayout) : List Graph.PinnedAxis :=
  layout.pinned.map fun axis => ⟨axis.name,axis.size.toNat,axis.pinnedIndex.toNat⟩

def multiscaleInfo (described : Described) (levels : List (LevelGeometry F64)) (channelInfos : List Graph.ChannelInfo)
    (downsamplingMethod : Option String) : Graph.MultiscaleInfo F64 where
  axes := buildAxes described.layout.canonicalNames
  levels := levels
  coarseLevelIndex := selectSourceCoarseLevel levels described.dataType .default
  generatedLevels := []
  dataType := described.dataType
  pinnedAxes := pinnedAxes described.layout
  channelInfos := channelInfos
  downsamplingMethod := downsamplingMethod

section Labels
variable (ofInt : Int → F64) (store : MetadataStore)

structure LabelBudget where
  labelsRemaining : Nat
  colorsRemaining : Nat
  deriving DecidableEq, Repr

def LabelBudget.new : LabelBudget := ⟨2^16,2^20⟩

inductive LabelIndexState where
  | absent
  | listed
  | unusable
  deriving DecidableEq, Repr

structure ProbedLabels where
  labelsPrefix : String
  names : List String
  index : LabelIndexState
  deriving DecidableEq, Repr

def probeLabelsForImage (basePrefix : String) : ProbedLabels :=
  let labelsPrefix := if basePrefix = "" then "labels" else basePrefix ++ "/labels"
  match store (pathFrom (labelsPrefix ++ "/zarr.json")) with
  | .failed error => ⟨labelsPrefix,[],if error.isNotFound then .absent else .unusable⟩
  | .malformed => ⟨labelsPrefix,[],.unusable⟩
  | .parsed json =>
    let names := parseLabelsNames json
    ⟨labelsPrefix,names,if names = [] then .unusable else .listed⟩

structure BuiltLabel where
  spec : Graph.LabelSpec F64
  fetch : ProxiedImageSpec
  binding : ImageBindingSeed

def buildLabel (labelsPrefix name : String) (sourceImageId : ImageId) (sourceOwner : EntityId) : Except ImportError BuiltLabel := do
  let groupPrefix := labelsPrefix ++ "/" ++ name
  let groupJson ← readZarrJson store (groupPrefix ++ "/zarr.json")
  let geometry ← parseGeometry ofInt store groupJson groupPrefix ("label " ++ name.quote ++ ": ")
  let described ← describe geometry
  let imageLabel := parseImageLabel groupJson
  let labelImageId := sourceImageId ++ ":label:" ++ name
  let image := ⟨labelImageId,sourceOwner,multiscaleInfo described described.levels [] geometry.downsamplingMethod⟩
  return {
    spec := ⟨name,sourceImageId,image,imageLabel.colors,imageLabel.sourceDeclared⟩
    fetch := ⟨labelImageId,.raw described.dataType⟩
    binding := ⟨labelImageId,geometry.axesNames,some groupPrefix,described.bindings⟩ }

-- A label keeps the colors that the budget still has room for, and pays for them.
def BuiltLabel.charge (label : BuiltLabel) (budget : LabelBudget) : BuiltLabel × LabelBudget :=
  let colors := label.spec.colors.take budget.colorsRemaining
  ({ label with spec := { label.spec with colors } },⟨budget.labelsRemaining-1,budget.colorsRemaining-colors.length⟩)

-- A label that cannot be built is skipped. Without budget the rest is not read.
def buildLabelsWithinBudget (labelsPrefix : String) (sourceImageId : ImageId) (sourceOwner : EntityId) :
    LabelBudget → List String → List BuiltLabel × LabelBudget
  | budget,[] => ([],budget)
  | budget,name::names =>
    if budget.labelsRemaining = 0 then ([],budget)
    else match buildLabel ofInt store labelsPrefix name sourceImageId sourceOwner with
    | .error _ => buildLabelsWithinBudget labelsPrefix sourceImageId sourceOwner budget names
    | .ok label =>
      let (kept,budget) := label.charge budget
      let (rest,budget) := buildLabelsWithinBudget labelsPrefix sourceImageId sourceOwner budget names
      (kept::rest,budget)

end Labels

section SingleImage
variable (ofInt : Int → F64) (store : MetadataStore)

def importSingleImage (id name : String) (rootJson : Json) : Except ImportError ImportResult := do
  let geometry ← parseGeometry ofInt store rootJson "" ""
  let described ← describe geometry
  let probed := probeLabelsForImage store ""
  let labels := (buildLabelsWithinBudget ofInt store probed.labelsPrefix id id .new probed.names).1
  return {
    manifest := {
      datasetId := id
      name := name
      kind := .single
      entities := [⟨id,.image,none,⟨some name,none,none,none,none,none⟩⟩]
      transforms := []
      images := [⟨id,id,multiscaleInfo described described.levels geometry.channelInfos geometry.downsamplingMethod⟩]
      sourceLayouts := [⟨"source","Source",[⟨id,.zero,.zero⟩]⟩]
      defaultLayoutId := some "source"
      labels := labels.map BuiltLabel.spec }
    fetch := ⟨id,.raw described.dataType⟩::labels.map BuiltLabel.fetch
    bindings := ⟨id,geometry.axesNames,none,described.bindings⟩::labels.map BuiltLabel.binding }

end SingleImage
end Lucida.Store
