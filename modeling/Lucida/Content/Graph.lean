import Lucida.Content.Manifest
import Lucida.Lib.Checked
import Lucida.Lib.Ieee
import Lucida.Lib.Sharing

namespace Lucida.Content.Graph
open Lib

-- The manifest with all it holds. Numbers are of a type of their own: in memory they are binary64,
-- and in a document they are what JSON has for them.

structure EntityLabels where
  name : Option String
  groupRow : Option String
  groupColumn : Option String
  rowIndex : Option Nat
  columnIndex : Option Nat
  tileIndex : Option Nat
  deriving DecidableEq, Repr

structure Entity where
  id : EntityId
  kind : EntityKind
  parent : Option EntityId
  labels : EntityLabels
  deriving DecidableEq, Repr

inductive PositioningMode where
  | explicit
  | derived
  deriving DecidableEq, Repr

inductive DatasetKind where
  | single
  | collection (rows columns : List String) (positioningMode : PositioningMode) (hasExplicitPositions : Bool)
  deriving DecidableEq, Repr

structure Quad (α : Type) where
  a : α
  b : α
  c : α
  d : α
  deriving DecidableEq, Repr

namespace Quad
variable {α β : Type}

def map (f : α → β) (quad : Quad α) : Quad β := ⟨f quad.a,f quad.b,f quad.c,f quad.d⟩

def toList (quad : Quad α) : List α := [quad.a,quad.b,quad.c,quad.d]

def all2 (p : α → β → Bool) (quad : Quad α) (other : Quad β) : Bool :=
  p quad.a other.a && p quad.b other.b && p quad.c other.c && p quad.d other.d

def traverse (f : α → Option β) (quad : Quad α) : Option (Quad β) := do
  let a ← f quad.a
  let b ← f quad.b
  let c ← f quad.c
  let d ← f quad.d
  return ⟨a,b,c,d⟩

end Quad

-- Column by column: elements 12 and 13 are the first two of the last column.
abbrev Matrix (R : Type) := Quad (Quad R)

structure TransformEdge (R : Type) where
  source : EntityId
  target : EntityId
  transform : Matrix R
  deriving DecidableEq, Repr

inductive AxisKind where
  | time
  | channel
  | space
  deriving DecidableEq, Repr

structure Axis where
  name : String
  kind : AxisKind
  deriving DecidableEq, Repr

structure PinnedAxis where
  name : String
  size : Nat
  pinnedIndex : Nat
  deriving DecidableEq, Repr

structure ChannelInfo where
  label : String
  color : Option String
  deriving DecidableEq, Repr

structure MultiscaleInfo (R : Type) where
  axes : List Axis
  levels : List (LevelGeometry R)
  coarseLevelIndex : Option Nat
  generatedLevels : List GeneratedLevelInfo
  dataType : DataType
  pinnedAxes : List PinnedAxis
  channelInfos : List ChannelInfo
  downsamplingMethod : Option String
  deriving DecidableEq, Repr

structure ImageSpec (R : Type) where
  imageId : ImageId
  owner : EntityId
  multiscale : MultiscaleInfo R
  deriving DecidableEq, Repr

structure LabelColor where
  value : Int
  rgba : UInt8 × UInt8 × UInt8 × UInt8
  deriving DecidableEq, Repr

structure LabelSpec (R : Type) where
  name : String
  sourceImageId : ImageId
  image : ImageSpec R
  colors : List LabelColor
  sourceDeclared : Bool
  deriving DecidableEq, Repr

structure DatasetManifest (R : Type) where
  datasetId : DatasetId
  name : String
  kind : DatasetKind
  entities : List Entity
  transforms : List (TransformEdge R)
  images : List (ImageSpec R)
  sourceLayouts : List (LayoutSpec R)
  defaultLayoutId : Option LayoutId
  labels : List (LabelSpec R)
  deriving DecidableEq, Repr

section Axes
variable {α β : Type}

def axesMap (f : α → β) (axes : Axes α) : Axes β := ⟨f axes.t,f axes.c,f axes.z,f axes.y,f axes.x⟩

def axesAll2 (p : α → β → Bool) (axes : Axes α) (other : Axes β) : Bool :=
  p axes.t other.t && p axes.c other.c && p axes.z other.z && p axes.y other.y && p axes.x other.x

def axesTraverse (f : α → Option β) (axes : Axes α) : Option (Axes β) := do
  let t ← f axes.t
  let c ← f axes.c
  let z ← f axes.z
  let y ← f axes.y
  let x ← f axes.x
  return ⟨t,c,z,y,x⟩

def axesList (axes : Axes α) : List α := [axes.t,axes.c,axes.z,axes.y,axes.x]

end Axes

-- `==`, as it is derived: numbers by IEEE equality, all else as it stands.
section Same

def levelEq (level other : LevelGeometry F64) : Bool :=
  level.levelIndex = other.levelIndex && level.shape = other.shape && level.chunkShape = other.chunkShape &&
    level.gridShape = other.gridShape && axesAll2 F64.eq level.scale other.scale

def listEq {α : Type} (p : α → α → Bool) : List α → List α → Bool
  | [],[] => true
  | item::items,other::others => p item other && listEq p items others
  | _,_ => false

def MultiscaleInfo.eq (info other : MultiscaleInfo F64) : Bool :=
  info.axes = other.axes && listEq levelEq info.levels other.levels && info.coarseLevelIndex = other.coarseLevelIndex &&
    info.generatedLevels = other.generatedLevels && info.dataType = other.dataType && info.pinnedAxes = other.pinnedAxes &&
    info.channelInfos = other.channelInfos && info.downsamplingMethod = other.downsamplingMethod

def ImageSpec.eq (image other : ImageSpec F64) : Bool :=
  image.imageId = other.imageId && image.owner = other.owner && image.multiscale.eq other.multiscale

def Matrix.eq (matrix other : Matrix F64) : Bool := Quad.all2 (Quad.all2 F64.eq) matrix other

def TransformEdge.eq (edge other : TransformEdge F64) : Bool :=
  edge.source = other.source && edge.target = other.target && Matrix.eq edge.transform other.transform

def placementEq (placement other : EntityPlacement F64) : Bool :=
  placement.entityId = other.entityId && placement.position.1.eq other.position.1 && placement.position.2.eq other.position.2

def layoutEq (layout other : LayoutSpec F64) : Bool :=
  layout.id = other.id && layout.name = other.name && listEq placementEq layout.placements other.placements

def LabelSpec.eq (label other : LabelSpec F64) : Bool :=
  label.name = other.name && label.sourceImageId = other.sourceImageId && label.image.eq other.image &&
    label.colors = other.colors && label.sourceDeclared = other.sourceDeclared

def DatasetManifest.eq (manifest other : DatasetManifest F64) : Bool :=
  manifest.datasetId = other.datasetId && manifest.name = other.name && manifest.kind = other.kind &&
    manifest.entities = other.entities && listEq TransformEdge.eq manifest.transforms other.transforms &&
    listEq ImageSpec.eq manifest.images other.images && listEq layoutEq manifest.sourceLayouts other.sourceLayouts &&
    manifest.defaultLayoutId = other.defaultLayoutId && listEq LabelSpec.eq manifest.labels other.labels

end Same

section Transforms

def translation2d (tx ty : F64) : Matrix F64 :=
  ⟨⟨.one,.zero,.zero,.zero⟩,⟨.zero,.one,.zero,.zero⟩,⟨.zero,.zero,.one,.zero⟩,⟨tx,ty,.zero,.one⟩⟩

def asVoxelTranslation2d (matrix : Matrix F64) : Option (F64 × F64) :=
  if Matrix.eq matrix (translation2d matrix.d.a matrix.d.b) then some (matrix.d.a,matrix.d.b) else none

end Transforms

-- What is fed to the hasher: a zero of either sign is fed as the positive one. The length of the
-- levels is that of the list.
structure DedupKey where
  axes : List Axis
  levels : List (Nat × Axes Nat × Axes Nat × Axes Nat × Axes UInt64)
  coarseLevelIndex : Option Nat
  generatedLevels : List GeneratedLevelInfo
  dataType : DataType
  pinnedAxes : List PinnedAxis
  channelInfos : List ChannelInfo
  deriving DecidableEq, Repr

def normalized (value : F64) : F64 := if value.eq .zero then .zero else value

def MultiscaleInfo.dedupKey (info : MultiscaleInfo F64) : DedupKey where
  axes := info.axes
  levels := info.levels.map fun level =>
    (level.levelIndex,level.shape,level.chunkShape,level.gridShape,axesMap (fun element => (normalized element).bits) level.scale)
  coarseLevelIndex := info.coarseLevelIndex
  generatedLevels := info.generatedLevels
  dataType := info.dataType
  pinnedAxes := info.pinnedAxes
  channelInfos := info.channelInfos

section Encoding
variable (digest : DedupKey → UInt64)

def multiscaleDedupHash (info : MultiscaleInfo F64) : UInt64 := digest info.dedupKey

structure SharedMultiscales where
  table : List (MultiscaleInfo F64)
  refs : List (Option Nat)

def SharedMultiscales.build (images : List (ImageSpec F64)) : SharedMultiscales :=
  let infos := images.map ImageSpec.multiscale
  ⟨Sharing.table MultiscaleInfo.eq (multiscaleDedupHash digest) infos,
    Sharing.references MultiscaleInfo.eq (multiscaleDedupHash digest) infos⟩

end Encoding

-- JSON's numbers. Text stands for finite numbers only; of these the parser is promised to get the
-- zeros and one right, and the rest to its best effort.
structure NumberCodec (Token : Type) where
  write : F64 → Token
  read : Token → Option F64
  finite : ∀ token x, read token = some x → x.isFinite
  zero : read (write .zero) = some .zero
  negZero : read (write .negZero) = some .negZero
  one : read (write .one) = some .one

-- A document, field by field. A field that may be absent is optional here, also where the absence
-- stands for an empty list or another default.
structure ProvenanceDocument where
  generator : Option String
  configId : Option String
  sourceContentId : Option String
  deriving DecidableEq, Repr

structure GeneratedLevelDocument where
  levelIndex : Nat
  role : Option GeneratedLevelRole
  provenance : Option ProvenanceDocument
  deriving DecidableEq, Repr

structure MultiscaleDocument (N : Type) where
  axes : List Axis
  levels : List (LevelGeometry N)
  coarseLevelIndex : Option Nat
  generatedLevels : Option (List GeneratedLevelDocument)
  dataType : DataType
  pinnedAxes : Option (List PinnedAxis)
  channelInfos : Option (List ChannelInfo)
  downsamplingMethod : Option String
  deriving DecidableEq, Repr

structure TransformEdgeDocument (N : Type) where
  source : EntityId
  target : EntityId
  transform : Option (Matrix N)
  translation : Option (N × N)
  deriving DecidableEq, Repr

structure ImageDocument (N : Type) where
  imageId : ImageId
  owner : EntityId
  multiscale : Option (MultiscaleDocument N)
  multiscaleRef : Option Nat
  deriving DecidableEq, Repr

structure LabelDocument (N : Type) where
  name : String
  sourceImageId : ImageId
  imageId : ImageId
  owner : EntityId
  multiscale : MultiscaleDocument N
  colors : Option (List LabelColor)
  sourceDeclared : Option Bool
  deriving DecidableEq, Repr

structure ManifestDocument (N : Type) where
  formatVersion : Option Nat
  datasetId : DatasetId
  name : String
  kind : DatasetKind
  entities : List Entity
  transforms : List (TransformEdgeDocument N)
  multiscales : Option (List (MultiscaleDocument N))
  images : List (ImageDocument N)
  sourceLayouts : List (LayoutSpec N)
  defaultLayoutId : Option LayoutId
  labels : Option (List (LabelDocument N))
  deriving DecidableEq, Repr

def compactManifestFormatVersion : Nat := 2

section Serialize
variable {N : Type} (write : F64 → N)

def generatedLevelDocument (level : GeneratedLevelInfo) : GeneratedLevelDocument :=
  ⟨level.levelIndex,some level.role,
    some ⟨some level.provenance.generator,some level.provenance.configId,level.provenance.sourceContentId⟩⟩

def levelDocument (level : LevelGeometry F64) : LevelGeometry N :=
  ⟨level.levelIndex,level.shape,level.chunkShape,level.gridShape,axesMap write level.scale⟩

def MultiscaleInfo.serialize (info : MultiscaleInfo F64) : MultiscaleDocument N where
  axes := info.axes
  levels := info.levels.map (levelDocument write)
  coarseLevelIndex := info.coarseLevelIndex
  generatedLevels := if info.generatedLevels = [] then none else some (info.generatedLevels.map generatedLevelDocument)
  dataType := info.dataType
  pinnedAxes := some info.pinnedAxes
  channelInfos := if info.channelInfos = [] then none else some info.channelInfos
  downsamplingMethod := info.downsamplingMethod

def TransformEdge.serialize (edge : TransformEdge F64) : TransformEdgeDocument N :=
  match asVoxelTranslation2d edge.transform with
  | some translation => ⟨edge.source,edge.target,none,some (write translation.1,write translation.2)⟩
  | none => ⟨edge.source,edge.target,some (edge.transform.map (Quad.map write)),none⟩

def ImageSpec.serialize (image : ImageSpec F64) (tableRef : Option Nat) : ImageDocument N :=
  match tableRef with
  | some index => ⟨image.imageId,image.owner,none,some index⟩
  | none => ⟨image.imageId,image.owner,some (image.multiscale.serialize write),none⟩

def layoutDocument (layout : LayoutSpec F64) : LayoutSpec N :=
  ⟨layout.id,layout.name,layout.placements.map fun placement =>
    ⟨placement.entityId,(write placement.position.1,write placement.position.2)⟩⟩

def LabelSpec.serialize (label : LabelSpec F64) : LabelDocument N where
  name := label.name
  sourceImageId := label.sourceImageId
  imageId := label.image.imageId
  owner := label.image.owner
  multiscale := label.image.multiscale.serialize write
  colors := if label.colors = [] then none else some label.colors
  sourceDeclared := some label.sourceDeclared

variable (digest : DedupKey → UInt64)

def DatasetManifest.serialize (manifest : DatasetManifest F64) : ManifestDocument N :=
  let shared := SharedMultiscales.build digest manifest.images
  let compact := shared.table ≠ [] ∨ manifest.transforms.any fun edge => (asVoxelTranslation2d edge.transform).isSome
  { formatVersion := if compact then some compactManifestFormatVersion else none
    datasetId := manifest.datasetId
    name := manifest.name
    kind := manifest.kind
    entities := manifest.entities
    transforms := manifest.transforms.map (TransformEdge.serialize write)
    multiscales := if shared.table = [] then none else some (shared.table.map (MultiscaleInfo.serialize write))
    images := List.zipWith (ImageSpec.serialize write) manifest.images shared.refs
    sourceLayouts := manifest.sourceLayouts.map (layoutDocument write)
    defaultLayoutId := manifest.defaultLayoutId
    labels := if manifest.labels = [] then none else some (manifest.labels.map (LabelSpec.serialize write)) }

end Serialize

-- The wire form that decoding goes through, with the numbers read and the defaults filled in.
structure TransformEdgeWire where
  source : EntityId
  target : EntityId
  transform : Option (Matrix F64)
  translation : Option (F64 × F64)
  deriving DecidableEq, Repr

structure ImageSpecWire where
  imageId : ImageId
  owner : EntityId
  multiscale : Option (MultiscaleInfo F64)
  multiscaleRef : Option Nat
  deriving DecidableEq, Repr

structure DatasetManifestWire where
  formatVersion : Option Nat
  datasetId : DatasetId
  name : String
  kind : DatasetKind
  entities : List Entity
  transforms : List TransformEdgeWire
  multiscales : List (MultiscaleInfo F64)
  images : List ImageSpecWire
  sourceLayouts : List (LayoutSpec F64)
  defaultLayoutId : Option LayoutId
  labels : List (LabelSpec F64)
  deriving DecidableEq, Repr

section Deserialize
variable {N : Type} (read : N → Option F64)

-- A field that is there must be readable.
def optionally {α β : Type} (f : α → Option β) : Option α → Option (Option β)
  | none => some none
  | some value => (f value).map some

def pairRead (pair : N × N) : Option (F64 × F64) := do
  let first ← read pair.1
  let second ← read pair.2
  return (first,second)

def provenanceOf (document : ProvenanceDocument) : GeneratedLevelProvenance :=
  ⟨document.generator.getD "",document.configId.getD "",document.sourceContentId⟩

def generatedLevelOf (document : GeneratedLevelDocument) : GeneratedLevelInfo :=
  ⟨document.levelIndex,document.role.getD .coarse,provenanceOf (document.provenance.getD ⟨none,none,none⟩)⟩

def levelRead (level : LevelGeometry N) : Option (LevelGeometry F64) :=
  (axesTraverse read level.scale).map fun scale => ⟨level.levelIndex,level.shape,level.chunkShape,level.gridShape,scale⟩

def MultiscaleDocument.deserialize (document : MultiscaleDocument N) : Option (MultiscaleInfo F64) :=
  (document.levels.mapM (levelRead read)).map fun levels =>
    { axes := document.axes
      levels
      coarseLevelIndex := document.coarseLevelIndex
      generatedLevels := (document.generatedLevels.getD []).map generatedLevelOf
      dataType := document.dataType
      pinnedAxes := document.pinnedAxes.getD []
      channelInfos := document.channelInfos.getD []
      downsamplingMethod := document.downsamplingMethod }

def TransformEdgeDocument.deserialize (document : TransformEdgeDocument N) : Option TransformEdgeWire := do
  let transform ← optionally (Quad.traverse (Quad.traverse read)) document.transform
  let translation ← optionally (pairRead read) document.translation
  return ⟨document.source,document.target,transform,translation⟩

def ImageDocument.deserialize (document : ImageDocument N) : Option ImageSpecWire :=
  (optionally (MultiscaleDocument.deserialize read) document.multiscale).map fun multiscale =>
    ⟨document.imageId,document.owner,multiscale,document.multiscaleRef⟩

def layoutRead (layout : LayoutSpec N) : Option (LayoutSpec F64) :=
  (layout.placements.mapM fun placement =>
    (pairRead read placement.position).map fun position => ⟨placement.entityId,position⟩).map fun placements =>
      ⟨layout.id,layout.name,placements⟩

def LabelDocument.deserialize (document : LabelDocument N) : Option (LabelSpec F64) :=
  (document.multiscale.deserialize read).map fun multiscale =>
    ⟨document.name,document.sourceImageId,⟨document.imageId,document.owner,multiscale⟩,document.colors.getD [],
      document.sourceDeclared.getD false⟩

def ManifestDocument.deserialize (document : ManifestDocument N) : Option DatasetManifestWire := do
  let transforms ← document.transforms.mapM (TransformEdgeDocument.deserialize read)
  let multiscales ← (document.multiscales.getD []).mapM (MultiscaleDocument.deserialize read)
  let images ← document.images.mapM (ImageDocument.deserialize read)
  let sourceLayouts ← document.sourceLayouts.mapM (layoutRead read)
  let labels ← (document.labels.getD []).mapM (LabelDocument.deserialize read)
  return ⟨document.formatVersion,document.datasetId,document.name,document.kind,document.entities,transforms,multiscales,images,
    sourceLayouts,document.defaultLayoutId,labels⟩

end Deserialize

def maxTableEntryLevels : Nat := 1024

def maxTableEntryChannelInfos : Nat := 4096

def maxRefExpansionBytes : Nat := 256*1024*1024

-- `size_of` of the records that a footprint counts.
structure Sizes where
  multiscaleInfo : Nat
  axis : Nat
  levelGeometry : Nat
  generatedLevelInfo : Nat
  pinnedAxis : Nat
  channelInfo : Nat
  positive : 0 < multiscaleInfo

section TryFrom
variable (sizes : Sizes)

def multiscaleExpansionBytes (info : MultiscaleInfo F64) : Nat :=
  let textLen (text : Option String) := (text.map String.utf8ByteSize).getD 0
  let stringBytes := (info.axes.map fun axis => axis.name.utf8ByteSize).sum+
    (info.pinnedAxes.map fun axis => axis.name.utf8ByteSize).sum+
    (info.channelInfos.map fun channel => channel.label.utf8ByteSize+textLen channel.color).sum+
    (info.generatedLevels.map fun level => level.provenance.generator.utf8ByteSize+level.provenance.configId.utf8ByteSize+
      textLen level.provenance.sourceContentId).sum
  let elementBytes := sizes.multiscaleInfo+info.axes.length*sizes.axis+info.levels.length*sizes.levelGeometry+
    info.generatedLevels.length*sizes.generatedLevelInfo+info.pinnedAxes.length*sizes.pinnedAxis+
    info.channelInfos.length*sizes.channelInfo
  stringBytes+elementBytes

def TransformEdgeWire.resolve (edge : TransformEdgeWire) : Except String (TransformEdge F64) :=
  match edge.transform,edge.translation with
  | some transform,none => .ok ⟨edge.source,edge.target,transform⟩
  | none,some (tx,ty) => .ok ⟨edge.source,edge.target,translation2d tx ty⟩
  | some _,some _ => .error ("transform edge " ++ edge.source ++ " -> " ++ edge.target ++
      " carries both a transform and a translation")
  | none,none => .error ("transform edge " ++ edge.source ++ " -> " ++ edge.target ++
      " carries neither a transform nor a translation")

-- One turn of the check of the table.
def checkEntry (entry : MultiscaleInfo F64 × Nat) : Except String Unit :=
  if entry.1.levels.length > maxTableEntryLevels then
    .error ("shared multiscale " ++ toString entry.2 ++ " declares " ++ toString entry.1.levels.length ++
      " levels, which exceeds the decode limit of " ++ toString maxTableEntryLevels)
  else if entry.1.channelInfos.length > maxTableEntryChannelInfos then
    .error ("shared multiscale " ++ toString entry.2 ++ " declares " ++ toString entry.1.channelInfos.length ++
      " channel entries, which exceeds the decode limit of " ++ toString maxTableEntryChannelInfos)
  else .ok ()

def saturatingAdd (a b : Nat) : Nat := min (a+b) (2^64-1)

-- The image and the bytes that references have expanded to.
def ImageSpecWire.resolve (table : List (MultiscaleInfo F64)) (expanded : Nat) (image : ImageSpecWire) :
    Except String (ImageSpec F64 × Nat) :=
  match image.multiscale,image.multiscaleRef with
  | some multiscale,none => .ok (⟨image.imageId,image.owner,multiscale⟩,expanded)
  | none,some index =>
    match table[index]? with
    | none => .error ("image " ++ image.imageId ++ " references shared multiscale " ++ toString index ++
        ", but the manifest declares " ++ toString table.length ++ " shared multiscale(s)")
    | some entry =>
      let expanded := saturatingAdd expanded (multiscaleExpansionBytes sizes entry)
      if expanded > maxRefExpansionBytes then
        .error ("resolving image " ++ image.imageId ++
          "'s multiscale_ref would expand the shared multiscale table past the decode limit of " ++
          toString maxRefExpansionBytes ++ " bytes")
      else .ok (⟨image.imageId,image.owner,entry⟩,expanded)
  | some _,some _ => .error ("image " ++ image.imageId ++ " carries both an inline multiscale and a multiscale_ref")
  | none,none => .error ("image " ++ image.imageId ++ " carries neither a multiscale nor a multiscale_ref")

def resolveImages (table : List (MultiscaleInfo F64)) : Nat → List ImageSpecWire → Except String (List (ImageSpec F64))
  | _,[] => .ok []
  | expanded,image::rest => do
    let (spec,expanded) ← image.resolve sizes table expanded
    let specs ← resolveImages table expanded rest
    .ok (spec::specs)

def DatasetManifestWire.tryInto (wire : DatasetManifestWire) : Except String (DatasetManifest F64) := do
  let transforms ← wire.transforms.mapM TransformEdgeWire.resolve
  wire.multiscales.zipIdx.forM checkEntry
  let images ← resolveImages sizes wire.multiscales 0 wire.images
  .ok ⟨wire.datasetId,wire.name,wire.kind,wire.entities,transforms,images,wire.sourceLayouts,wire.defaultLayoutId,wire.labels⟩

end TryFrom

inductive DecodeError where
  | json
  | custom (message : String)
  deriving DecidableEq, Repr

section
variable {N : Type} (codec : NumberCodec N)

def encode (digest : DedupKey → UInt64) (manifest : DatasetManifest F64) : ManifestDocument N :=
  manifest.serialize codec.write digest

def decode (sizes : Sizes) (document : ManifestDocument N) : Except DecodeError (DatasetManifest F64) :=
  match document.deserialize codec.read with
  | none => .error .json
  | some wire => (wire.tryInto sizes).mapError .custom

end
end Lucida.Content.Graph
