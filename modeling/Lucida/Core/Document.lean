import Mathlib.Data.String.Basic
import Lucida.Lib.Renaming
import Lucida.Core.Layout

namespace Lucida.Core
open Content Lib

inductive ProxyKind where
  | groupProxy3D
  | tileProxy3D
  deriving DecidableEq, Repr

structure ProxyFootprint where
  kind : ProxyKind
  dims : Nat × Nat × Nat
  bytes : Nat
  deriving DecidableEq, Repr

structure ProxyAvailability where
  entityId : EntityId
  kinds : List ProxyKind
  footprints : List ProxyFootprint
  deriving DecidableEq, Repr

structure AssetCatalog where
  entries : List ProxyAvailability
  deriving DecidableEq, Repr

structure AssetCatalogDelta where
  added : List ProxyAvailability
  deriving DecidableEq, Repr

inductive FetchSource where
  | proxied (images : List ImageId)
  | direct (images : List ImageId)
  | localFiles (images : List ImageId)
  deriving DecidableEq, Repr

structure DatasetOpened (R : Type) where
  manifest : DatasetManifest R
  fetch : FetchSource
  catalog : AssetCatalog
  deriving DecidableEq, Repr

-- `iter_mut().find(p)`, and the upsert built on it.
def updateFirst (p : α → Bool) (f : α → α) : List α → List α
  | [] => []
  | x::xs => if p x then f x::xs else x::updateFirst p f xs

def upsertFirst (p : α → Bool) (f : α → α) (new : α) (xs : List α) : List α :=
  if xs.any p then updateFirst p f xs else xs ++ [new]

inductive AnnotationKind where
  | point
  | line
  | box
  deriving DecidableEq, Repr

structure Comment where
  id : String
  author : String
  text : String
  deriving DecidableEq, Repr

-- `datasets` holds source URLs. The settings of a dataset are as they are written: nothing here reads
-- them.
structure SavedView where
  datasets : List String
  activeLayouts : IndexMap DatasetId LayoutId
  datasetOrder : List DatasetId
  datasetSettings : IndexMap DatasetId String
  autoContrast : IndexMap DatasetId Bool
  deriving DecidableEq, Repr

def SavedView.empty : SavedView := ⟨[],.empty,[],.empty,.empty⟩

def SavedView.clearSourceUrls (view : SavedView) : SavedView := {view with datasets := []}

-- An annotation, with its comment thread.
structure AnnotationPin (R : Type) where
  id : String
  position : R × R
  z : R
  t : Int
  c : Int
  author : String
  kind : AnnotationKind
  endpoint : Option (R × R)
  comments : List Comment
  anchor : Option EntityId
  view : Option SavedView
  deriving DecidableEq, Repr

namespace AnnotationPin
variable {R : Type}

def addComment (pin : AnnotationPin R) (comment : Comment) : AnnotationPin R :=
  {pin with comments := upsertFirst (·.id = comment.id) (fun _ => comment) comment pin.comments}

def removeComment (pin : AnnotationPin R) (id : String) : AnnotationPin R :=
  {pin with comments := pin.comments.filter (·.id ≠ id)}

def editComment (pin : AnnotationPin R) (id text : String) : AnnotationPin R :=
  {pin with comments := updateFirst (·.id = id) (fun comment => {comment with text}) pin.comments}

def translate [Add R] (pin : AnnotationPin R) (delta : R × R) : Option (R × R) :=
  pin.endpoint.map fun vertex => (vertex.1+delta.1,vertex.2+delta.2)

def setPosition [Numeric R] (pin : AnnotationPin R) (position : R × R) (z : R) : AnnotationPin R :=
  let delta := (position.1-pin.position.1,position.2-pin.position.2)
  {pin with
    position
    z
    endpoint := pin.translate delta}

def setVertices (pin : AnnotationPin R) (position vertex : R × R) (z : R) : AnnotationPin R :=
  {pin with
    position
    z
    endpoint := pin.endpoint.map fun _ => vertex}

end AnnotationPin

inductive DocumentCommand (R : Type) where
  | datasetOpened (event : DatasetOpened R)
  | removeDataset (id : DatasetId)
  | renameDataset (id : DatasetId) (name : String)
  | registerLayout (datasetId : DatasetId) (layout : LayoutSpec R)
  | setActiveLayout (datasetId : DatasetId) (layoutId : LayoutId)
  | applyAssetCatalogDelta (datasetId : DatasetId) (delta : AssetCatalogDelta)
  | addAnnotationPin (datasetId : DatasetId) (id : String) (position : R × R) (endpoint : Option (R × R)) (z : R)
      (t c : Int) (author : String) (kind : AnnotationKind) (view : Option SavedView)
  | removeAnnotationPin (datasetId : DatasetId) (id : String)
  | moveAnnotationPin (datasetId : DatasetId) (id : String) (position : R × R) (endpoint : Option (R × R)) (z : R)
  | addComment (datasetId : DatasetId) (annotationId id author text : String)
  | removeComment (datasetId : DatasetId) (annotationId id : String)
  | editComment (datasetId : DatasetId) (annotationId id text : String)
  deriving DecidableEq, Repr

structure DocumentState (R : Type) where
  manifests : IndexMap DatasetId (DatasetManifest R)
  registeredLayouts : HashMap DatasetId (List (LayoutSpec R))
  activeLayoutIds : HashMap DatasetId LayoutId
  assetCatalogs : IndexMap DatasetId AssetCatalog
  annotations : IndexMap DatasetId (List (AnnotationPin R))

namespace AssetCatalog

def addKind (kinds : List ProxyKind) (kind : ProxyKind) : List ProxyKind :=
  if kind ∈ kinds then kinds else kinds ++ [kind]

def mergeFootprint (existing : ProxyAvailability) (footprint : ProxyFootprint) : ProxyAvailability :=
  {existing with
    kinds := addKind existing.kinds footprint.kind
    footprints := upsertFirst (·.kind = footprint.kind) (fun _ => footprint) footprint existing.footprints}

def mergeEntry (existing incoming : ProxyAvailability) : ProxyAvailability :=
  incoming.footprints.foldl mergeFootprint {existing with kinds := incoming.kinds.foldl addKind existing.kinds}

def applyDelta (catalog : AssetCatalog) (delta : AssetCatalogDelta) : AssetCatalog :=
  ⟨delta.added.foldl (fun entries incoming =>
    let incoming := {incoming with
      kinds := incoming.footprints.foldl (fun kinds footprint => addKind kinds footprint.kind) incoming.kinds}
    upsertFirst (·.entityId = incoming.entityId) (mergeEntry · incoming) incoming entries) catalog.entries⟩

end AssetCatalog

namespace DocumentState
variable {R : Type}

def default (R : Type) : DocumentState R := ⟨.empty,∅,∅,.empty,.empty⟩

def registerDataset (doc : DocumentState R) (manifest : DatasetManifest R) : DocumentState R :=
  {doc with manifests := doc.manifests.insert manifest.datasetId manifest}

-- A kept manifest takes the id it is kept under.
def rekeyDatasetIds (doc : DocumentState R) (fate : DatasetId → Option DatasetId)
    (onKeptAnnotations : List (AnnotationPin R) → List (AnnotationPin R)) : DocumentState R where
  manifests := doc.manifests.rekey fate fun id manifest => {manifest with datasetId := id}
  registeredLayouts := doc.registeredLayouts.rekey fate
  activeLayoutIds := doc.activeLayoutIds.rekey fate
  assetCatalogs := doc.assetCatalogs.rekey fate fun _ catalog => catalog
  annotations := doc.annotations.rekey fate fun _ pins => onKeptAnnotations pins

def removeDataset (doc : DocumentState R) (id : DatasetId) : DocumentState R :=
  doc.rekeyDatasetIds (fun candidate => if candidate = id then none else some candidate) fun pins => pins

def renameDataset (doc : DocumentState R) (id : DatasetId) (name : String) : DocumentState R :=
  {doc with manifests := doc.manifests.modify id fun manifest => {manifest with name}}

def addAnnotationPin (doc : DocumentState R) (datasetId : DatasetId) (pin : AnnotationPin R) : DocumentState R :=
  let replace (existing : AnnotationPin R) := {pin with comments := existing.comments}
  let upserted (pins : Option (List (AnnotationPin R))) :=
    upsertFirst (·.id = pin.id) replace pin (pins.getD [])
  {doc with annotations := doc.annotations.upsert datasetId upserted}

def removeAnnotationPin (doc : DocumentState R) (datasetId : DatasetId) (id : String) : DocumentState R :=
  match doc.annotations.get? datasetId with
  | none => doc
  | some pins =>
    let kept := pins.filter (·.id ≠ id)
    {doc with annotations :=
      if kept.isEmpty then doc.annotations.erase datasetId else doc.annotations.insert datasetId kept}

-- `annotation_mut`, then a write through it.
def modifyAnnotationPin (doc : DocumentState R) (datasetId : DatasetId) (id : String)
    (f : AnnotationPin R → AnnotationPin R) : DocumentState R :=
  {doc with annotations := doc.annotations.modify datasetId (updateFirst (·.id = id) f)}

def applyAssetCatalogDelta (doc : DocumentState R) (datasetId : DatasetId) (delta : AssetCatalogDelta) :
    DocumentState R :=
  {doc with assetCatalogs := doc.assetCatalogs.upsert datasetId fun catalog => (catalog.getD ⟨[]⟩).applyDelta delta}

def registerLayout (doc : DocumentState R) (datasetId : DatasetId) (layout : LayoutSpec R) : DocumentState R :=
  let layouts := (doc.registeredLayouts.lookup datasetId).getD []
  let extended := if layouts.any (·.id = layout.id) then layouts else layouts ++ [layout]
  {doc with registeredLayouts := doc.registeredLayouts.insert datasetId extended}

def resolvedLayout (doc : DocumentState R) (manifest : DatasetManifest R) (id : DatasetId) : LayoutSpec R :=
  resolveLayout manifest (doc.registeredLayouts.lookup id) (doc.activeLayoutIds.lookup id)

variable [Numeric R]

def moveAnnotationPin (doc : DocumentState R) (datasetId : DatasetId) (id : String) (position : R × R)
    (endpoint : Option (R × R)) (z : R) : DocumentState R :=
  doc.modifyAnnotationPin datasetId id fun pin =>
    match endpoint with
    | some vertex => pin.setVertices position vertex z
    | none => pin.setPosition position z

-- One round of the search: strictly less keeps the first entity on a tie.
def nearerAnchor (manifest : DatasetManifest R) (layout : LayoutSpec R) (position : R × R)
    (best : Option (EntityId × R)) (entity : Entity) : Option (EntityId × R) :=
  match resolveEntityPosition entity.id layout manifest.entities manifest.transforms with
  | none => best
  | some placed =>
    let dx := placed.1-position.1
    let dy := placed.2-position.2
    let dist2 := dx*dx+dy*dy
    if best.all fun nearest => Numeric.lt dist2 nearest.2 then some (entity.id,dist2) else best

def nearestAnchor (doc : DocumentState R) (datasetId : DatasetId) (position : R × R) : Option EntityId :=
  match doc.manifests.get? datasetId with
  | none => none
  | some manifest =>
    if manifest.kind ≠ .collection then none
    else (manifest.entities.foldl (nearerAnchor manifest (doc.resolvedLayout manifest datasetId) position) none).map
      Prod.fst

def reanchor (manifest : DatasetManifest R) (fromLayout toLayout : LayoutSpec R) (pin : AnnotationPin R) : AnnotationPin R :=
  let placed (layout : LayoutSpec R) := pin.anchor.bind fun anchor =>
    resolveEntityPosition anchor layout manifest.entities manifest.transforms
  match placed fromLayout,placed toLayout with
  | some fromPos,some toPos =>
    let delta := (toPos.1-fromPos.1,toPos.2-fromPos.2)
    {pin with
      position := (pin.position.1+delta.1,pin.position.2+delta.2)
      endpoint := pin.translate delta}
  | _,_ => pin

def reanchorForLayout (doc : DocumentState R) (datasetId : DatasetId) (fromId : Option LayoutId) (toId : LayoutId) :
    DocumentState R :=
  match doc.manifests.get? datasetId with
  | none => doc
  | some manifest =>
    if fromId = some toId then doc
    else
      let registered := doc.registeredLayouts.lookup datasetId
      let fromLayout := resolveLayout manifest registered fromId
      let toLayout := resolveLayout manifest registered (some toId)
      {doc with annotations := doc.annotations.modify datasetId fun pins =>
        if pins.all (·.anchor.isNone) then pins else pins.map (reanchor manifest fromLayout toLayout)}

def setActiveLayout (doc : DocumentState R) (datasetId : DatasetId) (layoutId : LayoutId) : DocumentState R :=
  let moved := doc.reanchorForLayout datasetId (doc.activeLayoutIds.lookup datasetId) layoutId
  {moved with activeLayoutIds := moved.activeLayoutIds.insert datasetId layoutId}

def apply (doc : DocumentState R) : DocumentCommand R → DocumentState R
  | .datasetOpened event =>
    let registered := doc.registerDataset event.manifest
    {registered with assetCatalogs := registered.assetCatalogs.insert event.manifest.datasetId event.catalog}
  | .removeDataset id => doc.removeDataset id
  | .renameDataset id name => doc.renameDataset id name
  | .registerLayout datasetId layout => doc.registerLayout datasetId layout
  | .setActiveLayout datasetId layoutId => doc.setActiveLayout datasetId layoutId
  | .applyAssetCatalogDelta datasetId delta => doc.applyAssetCatalogDelta datasetId delta
  | .addAnnotationPin datasetId id position endpoint z t c author kind view =>
    doc.addAnnotationPin datasetId {
      id,position,z,t,c,author,kind,endpoint
      comments := []
      anchor := doc.nearestAnchor datasetId position
      view := view.map SavedView.clearSourceUrls}
  | .removeAnnotationPin datasetId id => doc.removeAnnotationPin datasetId id
  | .moveAnnotationPin datasetId id position endpoint z => doc.moveAnnotationPin datasetId id position endpoint z
  | .addComment datasetId annotationId id author text =>
    doc.modifyAnnotationPin datasetId annotationId (·.addComment ⟨id,author,text⟩)
  | .removeComment datasetId annotationId id =>
    doc.modifyAnnotationPin datasetId annotationId (·.removeComment id)
  | .editComment datasetId annotationId id text =>
    doc.modifyAnnotationPin datasetId annotationId (·.editComment id text)

omit [Numeric R] in
theorem removeDataset_eq (doc : DocumentState R) (id : DatasetId) :
    doc.removeDataset id = {
      manifests := (doc.manifests.erase id).mapEntries fun id manifest => {manifest with datasetId := id}
      registeredLayouts := doc.registeredLayouts.erase id
      activeLayoutIds := doc.activeLayoutIds.erase id
      assetCatalogs := doc.assetCatalogs.erase id
      annotations := doc.annotations.erase id} := by
  unfold removeDataset rekeyDatasetIds
  simp only [IndexMap.rekey_drop,HashMap.rekey_drop]
  congr 1
  · exact IndexMap.ext_entries (List.map_id _)
  · exact IndexMap.ext_entries (List.map_id _)

theorem reanchor_frame (doc : DocumentState R) (datasetId : DatasetId) (fromId : Option LayoutId) (toId : LayoutId) :
    let moved := doc.reanchorForLayout datasetId fromId toId
    moved.manifests = doc.manifests ∧ moved.registeredLayouts = doc.registeredLayouts ∧
      moved.activeLayoutIds = doc.activeLayoutIds ∧ moved.assetCatalogs = doc.assetCatalogs := by
  simp only [reanchorForLayout]
  split
  · exact ⟨rfl,rfl,rfl,rfl⟩
  · split <;> exact ⟨rfl,rfl,rfl,rfl⟩

omit [Numeric R] in
theorem removeAnnotationPin_frame (doc : DocumentState R) (datasetId : DatasetId) (id : String) :
    let kept := doc.removeAnnotationPin datasetId id
    kept.manifests = doc.manifests ∧ kept.registeredLayouts = doc.registeredLayouts ∧
      kept.activeLayoutIds = doc.activeLayoutIds ∧ kept.assetCatalogs = doc.assetCatalogs := by
  simp only [removeAnnotationPin]
  split <;> exact ⟨rfl,rfl,rfl,rfl⟩

-- What each command does to the manifests, the registered layouts, the active
-- layouts and the catalogs.
theorem apply_manifests (doc : DocumentState R) (command : DocumentCommand R) :
    (doc.apply command).manifests = match command with
      | .datasetOpened event => doc.manifests.insert event.manifest.datasetId event.manifest
      | .removeDataset id => (doc.manifests.erase id).mapEntries fun id manifest => {manifest with datasetId := id}
      | .renameDataset id name => doc.manifests.modify id fun manifest => {manifest with name}
      | _ => doc.manifests := by
  cases command with
  | setActiveLayout datasetId layoutId => exact (reanchor_frame doc datasetId _ layoutId).1
  | removeDataset id => exact congrArg DocumentState.manifests (doc.removeDataset_eq id)
  | removeAnnotationPin datasetId id => exact (removeAnnotationPin_frame doc datasetId id).1
  | _ => rfl

theorem apply_registeredLayouts (doc : DocumentState R) (command : DocumentCommand R) :
    (doc.apply command).registeredLayouts = match command with
      | .removeDataset id => doc.registeredLayouts.erase id
      | .registerLayout datasetId layout => (doc.registerLayout datasetId layout).registeredLayouts
      | _ => doc.registeredLayouts := by
  cases command with
  | setActiveLayout datasetId layoutId => exact (reanchor_frame doc datasetId _ layoutId).2.1
  | removeDataset id => exact congrArg DocumentState.registeredLayouts (doc.removeDataset_eq id)
  | removeAnnotationPin datasetId id => exact (removeAnnotationPin_frame doc datasetId id).2.1
  | _ => rfl

theorem apply_activeLayoutIds (doc : DocumentState R) (command : DocumentCommand R) :
    (doc.apply command).activeLayoutIds = match command with
      | .removeDataset id => doc.activeLayoutIds.erase id
      | .setActiveLayout datasetId layoutId => doc.activeLayoutIds.insert datasetId layoutId
      | _ => doc.activeLayoutIds := by
  cases command with
  | setActiveLayout datasetId layoutId =>
    simp only [apply,setActiveLayout,(reanchor_frame doc datasetId _ layoutId).2.2.1]
  | removeDataset id => exact congrArg DocumentState.activeLayoutIds (doc.removeDataset_eq id)
  | removeAnnotationPin datasetId id => exact (removeAnnotationPin_frame doc datasetId id).2.2.1
  | _ => rfl

theorem apply_assetCatalogs (doc : DocumentState R) (command : DocumentCommand R) :
    (doc.apply command).assetCatalogs = match command with
      | .datasetOpened event => doc.assetCatalogs.insert event.manifest.datasetId event.catalog
      | .removeDataset id => doc.assetCatalogs.erase id
      | .applyAssetCatalogDelta datasetId delta => (doc.applyAssetCatalogDelta datasetId delta).assetCatalogs
      | _ => doc.assetCatalogs := by
  cases command with
  | setActiveLayout datasetId layoutId => exact (reanchor_frame doc datasetId _ layoutId).2.2.2
  | removeDataset id => exact congrArg DocumentState.assetCatalogs (doc.removeDataset_eq id)
  | removeAnnotationPin datasetId id => exact (removeAnnotationPin_frame doc datasetId id).2.2.2
  | _ => rfl

end DocumentState
end Lucida.Core
