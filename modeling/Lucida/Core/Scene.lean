import Lucida.Core.Display
import Lucida.Core.Document

namespace Lucida.Core
open Content Lib

inductive CameraModeKind where
  | slice
  | arcball
  | fly
  deriving DecidableEq, Repr

-- The cameras and their own arithmetic. A method of one kind of camera is only
-- called on that kind; `worldPoint` lifts a voxel point of a dataset.
class CameraModel (R : outParam Type) (K : Type) where
  kind : K → CameraModeKind
  new : CameraModeKind → Nat × Nat → K
  viewport : K → Nat × Nat
  setViewport : K → Nat → Nat → K
  sanitize : K → K
  toArcball : K → K
  toFly : K → K
  pan : K → R → R → K
  zoomBy : K → R → K
  setCenter : K → R → R → K
  setZoom : K → R → K
  rotate : K → R → R → K
  zoom : K → R → K
  panTarget : K → R → R → K
  worldPoint : DocumentState R → HashMap DatasetId (DatasetDerivedState R) → DatasetId → R × R × R → Option (R × R × R)
  setTarget : K → R × R × R → K
  flyTick : K → R → R × R × R → R × R × R → K
  setBaseSpeed : K → R → K
  adjustSpeed : K → R → K
  adjustClip : K → R → K
  fitToDataset : HashMap DatasetId (DatasetDerivedState R) → K → DatasetId → Option K

structure QuantizedEntity where
  visible : Bool
  targetLevel : Nat
  levelPinned : Bool
  kind : EntityKind
  deriving DecidableEq, Repr

structure ViewQueryCursor where
  content : Nat
  layout : Nat
  asset : Nat
  mode : CameraModeKind
  entries : HashMap ImageId QuantizedEntity

structure Scene (R K : Type) where
  camera : K
  view : ViewState
  document : DocumentState R
  display : DisplayState R
  datasetOrder : List DatasetId
  datasetSettings : HashMap DatasetId (DatasetDisplaySettings R)
  derived : HashMap DatasetId (DatasetDerivedState R)
  epochs : SceneEpochs
  viewQueryCursors : HashMap DatasetId ViewQueryCursor

inductive ViewportCommand (R : Type) where
  | setMode2D
  | setMode3D
  | setModeFly
  | setViewport (width height : Nat)
  | pan (dx dy : R)
  | zoomBy (factor : R)
  | setCenter (x y : R)
  | setZoom (value : R)
  | rotate3D (dTheta dPhi : R)
  | zoom3D (delta : R)
  | pan3D (dx dy : R)
  | centerOnVoxel3D (datasetId : DatasetId) (x y z : R)
  | flyTick (dt forward right up yaw pitch roll : R)
  | flySetBaseSpeed (speed : R)
  | flyAdjustSpeed (factor : R)
  | adjustClipDistance (delta : R)
  | setZ (z : Nat)
  | setZRange (start stop : Nat)
  | setT (t : Nat)
  | setC (c : Nat)
  | setContrast (min max : R)
  | setGamma (gamma : R)
  | setDatasetOrder (order : List DatasetId)
  | setDatasetVisible (datasetId : DatasetId) (visible : Bool)
  | setDatasetOpacity (datasetId : DatasetId) (opacity : R)
  | setDatasetContrast (datasetId : DatasetId) (min max : R)
  | setDatasetGamma (datasetId : DatasetId) (gamma : R)
  | setDatasetBlendMode (datasetId : DatasetId) (blendMode : BlendMode)
  | setDatasetRenderMode (datasetId : DatasetId) (renderMode : RenderMode)
  | setDatasetDetailLevelOverride (datasetId : DatasetId) (level : Option Nat)
  | setMultiChannel (enabled : Bool)
  | setChannelVisible (datasetId : DatasetId) (channel : Nat) (visible : Bool)
  | setChannelColormap (datasetId : DatasetId) (channel : Nat) (colormap : Colormap)
  | setChannelName (datasetId : DatasetId) (channel : Nat) (name : Option String)
  | setChannelContrast (datasetId : DatasetId) (channel : Nat) (min max : R)
  | setChannelGamma (datasetId : DatasetId) (channel : Nat) (gamma : R)
  | setChannelBlendMode (datasetId : DatasetId) (blendMode : BlendMode)
  | setLabelVisible (datasetId : DatasetId) (label : Nat) (visible : Bool)
  | setLabelOpacity (datasetId : DatasetId) (label : Nat) (opacity : R)

inductive Command (R : Type) where
  | document (command : DocumentCommand R)
  | viewport (command : ViewportCommand R)

inductive ViewportScope where
  | camera
  | viewSelectors
  | display
  | datasetDisplay
  deriving DecidableEq, Repr

namespace ViewportCommand
variable {R : Type}

def scope : ViewportCommand R → ViewportScope
  | .setMode2D | .setMode3D | .setModeFly | .setViewport .. | .pan .. | .zoomBy .. | .setCenter .. | .setZoom ..
  | .rotate3D .. | .zoom3D .. | .pan3D .. | .centerOnVoxel3D .. | .flyTick .. | .flySetBaseSpeed ..
  | .flyAdjustSpeed .. | .adjustClipDistance .. => .camera
  | .setZ .. | .setZRange .. | .setT .. | .setC .. | .setMultiChannel .. => .viewSelectors
  | .setContrast .. | .setGamma .. => .display
  | _ => .datasetDisplay

-- The raw floats a command carries. `setLabelOpacity` is exempt.
def floats : ViewportCommand R → List R
  | .pan dx dy | .pan3D dx dy => [dx,dy]
  | .zoomBy factor | .flyAdjustSpeed factor => [factor]
  | .setCenter x y => [x,y]
  | .setZoom value => [value]
  | .rotate3D dTheta dPhi => [dTheta,dPhi]
  | .zoom3D delta | .adjustClipDistance delta => [delta]
  | .centerOnVoxel3D _ x y z => [x,y,z]
  | .flyTick dt forward right up yaw pitch roll => [dt,forward,right,up,yaw,pitch,roll]
  | .flySetBaseSpeed speed => [speed]
  | .setContrast min max | .setDatasetContrast _ min max | .setChannelContrast _ _ min max => [min,max]
  | .setGamma gamma | .setDatasetGamma _ gamma | .setChannelGamma _ _ gamma => [gamma]
  | .setDatasetOpacity _ opacity => [opacity]
  | _ => []

def inputsFinite [Numeric R] (command : ViewportCommand R) : Bool := command.floats.all Numeric.isFinite

end ViewportCommand

namespace Scene
variable {R K : Type}

def modifySettings (scene : Scene R K) (id : DatasetId) (f : DatasetDisplaySettings R → DatasetDisplaySettings R) :
    Scene R K :=
  match scene.datasetSettings.lookup id with
  | none => scene
  | some settings => {scene with datasetSettings := scene.datasetSettings.insert id (f settings)}

def bumpView (scene : Scene R K) (changed : Bool) : Scene R K :=
  if changed then {scene with epochs := {scene.epochs with view := scene.epochs.view+1}} else scene

def bumpSelection (scene : Scene R K) (changed : Bool) : Scene R K :=
  if changed then {scene with epochs := {scene.epochs with selection := scene.epochs.selection+1}} else scene

def labelIndexInRange (scene : Scene R K) (id : DatasetId) (label : Nat) : Bool :=
  (scene.document.manifests.get? id).any fun manifest => label < manifest.labels.length

def clampDetailLevelOverride (scene : Scene R K) (id : DatasetId) (requested : Nat) : Option Nat := do
  let manifest ← scene.document.manifests.get? id
  let image ← manifest.images.head?
  image.multiscale.clampToSourceLevels requested

def removeDataset (scene : Scene R K) (id : DatasetId) : Scene R K :=
  {scene with
    document := scene.document.removeDataset id
    datasetOrder := scene.datasetOrder.filter (· ≠ id)
    datasetSettings := scene.datasetSettings.erase id
    derived := scene.derived.erase id
    viewQueryCursors := scene.viewQueryCursors.erase id}

-- What a client does to its own view leaves the shared part alone: the document,
-- what is derived from it, the cursors and the epochs that guard them.
structure Local (scene after : Scene R K) : Prop where
  document : after.document = scene.document
  derived : after.derived = scene.derived
  cursors : after.viewQueryCursors = scene.viewQueryCursors
  content : after.epochs.content = scene.epochs.content
  layout : after.epochs.layout = scene.epochs.layout
  asset : after.epochs.asset = scene.epochs.asset

theorem Local.refl (scene : Scene R K) : Local scene scene := ⟨rfl,rfl,rfl,rfl,rfl,rfl⟩

theorem Local.bumpView {scene after : Scene R K} (stays : Local scene after) (changed : Bool) :
    Local scene (after.bumpView changed) := by
  cases changed
  · exact stays
  · exact ⟨stays.document,stays.derived,stays.cursors,stays.content,stays.layout,stays.asset⟩

theorem Local.bumpSelection {scene after : Scene R K} (stays : Local scene after) (changed : Bool) :
    Local scene (after.bumpSelection changed) := by
  cases changed
  · exact stays
  · exact ⟨stays.document,stays.derived,stays.cursors,stays.content,stays.layout,stays.asset⟩

theorem modifySettings_local (scene : Scene R K) (id : DatasetId)
    (f : DatasetDisplaySettings R → DatasetDisplaySettings R) : Local scene (scene.modifySettings id f) := by
  unfold modifySettings
  split <;> exact ⟨rfl,rfl,rfl,rfl,rfl,rfl⟩

section
variable [CameraModel R K]
open CameraModel

def setMode (scene : Scene R K) (mode : CameraModeKind) : Scene R K :=
  if kind scene.camera = mode then scene
  else {scene with camera :=
    match mode,kind scene.camera with
    | .arcball,.fly => toArcball scene.camera
    | .fly,.arcball => toFly scene.camera
    | _,_ => CameraModel.new mode (viewport scene.camera)}

-- A method of one kind of camera; a no-op off its kind.
def withCamera (scene : Scene R K) (mode : CameraModeKind) (f : K → K) : Scene R K :=
  if kind scene.camera = mode then {scene with camera := f scene.camera} else scene

def importPresence [BEq R] [BEq K] (scene : Scene R K) (camera : K) (view : ViewState) (display : DisplayState R) :
    Scene R K :=
  let size := viewport scene.camera
  let camera := sanitize (setViewport camera size.1 size.2)
  let moved := if scene.camera != camera then {scene with camera}.bumpView true else scene
  if moved.view != view || moved.display != display then {moved with view,display}.bumpSelection true else moved

def fitCameraToDataset (scene : Scene R K) (id : DatasetId) : Scene R K :=
  match fitToDataset scene.derived scene.camera id with
  | none => scene
  | some camera => {scene with camera}.bumpView true

theorem withCamera_local (scene : Scene R K) (mode : CameraModeKind) (f : K → K) :
    Local scene (scene.withCamera mode f) := by
  unfold withCamera
  split <;> exact ⟨rfl,rfl,rfl,rfl,rfl,rfl⟩

theorem setMode_local (scene : Scene R K) (mode : CameraModeKind) : Local scene (scene.setMode mode) := by
  unfold setMode
  split <;> exact ⟨rfl,rfl,rfl,rfl,rfl,rfl⟩

theorem importPresence_local [BEq R] [BEq K] (scene : Scene R K) (camera : K) (view : ViewState)
    (display : DisplayState R) : Local scene (scene.importPresence camera view display) := by
  unfold importPresence
  dsimp only
  split
  · split <;> exact ⟨rfl,rfl,rfl,rfl,rfl,rfl⟩
  · split <;> exact ⟨rfl,rfl,rfl,rfl,rfl,rfl⟩

theorem fitCameraToDataset_local (scene : Scene R K) (id : DatasetId) : Local scene (scene.fitCameraToDataset id) := by
  unfold fitCameraToDataset
  split
  · exact .refl scene
  · exact ⟨rfl,rfl,rfl,rfl,rfl,rfl⟩

end

variable [Numeric R]

def derive (document : DocumentState R) (id : DatasetId) (manifest : DatasetManifest R) : DatasetDerivedState R :=
  buildDerivedState manifest (document.resolvedLayout manifest id)

def applySideEffects (scene : Scene R K) : DocumentCommand R → Scene R K
  | .datasetOpened event =>
    let id := event.manifest.datasetId
    let settings :=
      match scene.datasetSettings.lookup id with
      | none => .seededFor event.manifest
      | some settings => settings.realigned event.manifest
    {scene with
      datasetOrder := if id ∈ scene.datasetOrder then scene.datasetOrder else scene.datasetOrder ++ [id]
      datasetSettings := scene.datasetSettings.insert id settings
      derived := scene.derived.insert id (derive scene.document id event.manifest)
      epochs := {scene.epochs with content := scene.epochs.content+1,layout := scene.epochs.layout+1}}
  | .removeDataset id =>
    {scene with
      datasetOrder := scene.datasetOrder.filter (· ≠ id)
      datasetSettings := scene.datasetSettings.erase id
      derived := scene.derived.erase id
      viewQueryCursors := scene.viewQueryCursors.erase id
      epochs := {scene.epochs with content := scene.epochs.content+1,layout := scene.epochs.layout+1}}
  | .renameDataset .. => {scene with epochs := {scene.epochs with content := scene.epochs.content+1}}
  | .registerLayout .. | .setActiveLayout .. =>
    {scene with epochs := {scene.epochs with layout := scene.epochs.layout+1}}
  | .applyAssetCatalogDelta .. => {scene with epochs := {scene.epochs with asset := scene.epochs.asset+1}}
  | _ => {scene with epochs := {scene.epochs with annotations := scene.epochs.annotations+1}}

-- A layout switch is the one command that rebuilds after the document moved.
def applyDocument (scene : Scene R K) (command : DocumentCommand R) : Scene R K :=
  let after := {scene.applySideEffects command with document := scene.document.apply command}
  match command with
  | .setActiveLayout id _ =>
    match after.document.manifests.get? id with
    | none => after
    | some manifest => {after with derived := after.derived.insert id (derive after.document id manifest)}
  | _ => after

def rebuildDerived (scene : Scene R K) : Scene R K :=
  {scene with derived := .ofList (scene.document.manifests.entries.map fun entry =>
    (entry.1,derive scene.document entry.1 entry.2))}

-- One restored dataset: listed last and given settings if it had none.
def adopt (scene : Scene R K) (id : DatasetId) (manifest : DatasetManifest R) : Scene R K :=
  {scene with
    datasetOrder := if id ∈ scene.datasetOrder then scene.datasetOrder else scene.datasetOrder ++ [id]
    datasetSettings := scene.datasetSettings.orInsert id (.seededFor manifest)}

def loadDocument (scene : Scene R K) (document : DocumentState R) : Scene R K :=
  let rebuilt := {scene with document}.rebuildDerived
  let adopted := document.manifests.entries.foldl (fun scene entry => scene.adopt entry.1 entry.2) rebuilt
  let kept := adopted.datasetSettings.retain document.manifests.contains
  {adopted with
    datasetOrder := adopted.datasetOrder.filter document.manifests.contains
    datasetSettings := kept.mapValues fun id settings =>
      ((document.manifests.get? id).map settings.realigned).getD settings
    viewQueryCursors := adopted.viewQueryCursors.retain document.manifests.contains
    epochs := {adopted.epochs with
      content := adopted.epochs.content+1
      layout := adopted.epochs.layout+1
      asset := adopted.epochs.asset+1
      annotations := adopted.epochs.annotations+1
      selection := adopted.epochs.selection+1}}

def importDatasetPresence [BEq R] (scene : Scene R K) (order : List DatasetId)
    (settings : HashMap DatasetId (DatasetDisplaySettings R)) : Scene R K :=
  let settings := settings.mapValues fun id blob =>
    if blob.labelNames.isEmpty then blob else ((scene.document.manifests.get? id).map blob.reconciled).getD blob
  if scene.datasetOrder != order || !scene.datasetSettings.same settings then
    {scene with datasetOrder := order,datasetSettings := settings}.bumpSelection true
  else scene

theorem importDatasetPresence_local [BEq R] (scene : Scene R K) (order : List DatasetId)
    (settings : HashMap DatasetId (DatasetDisplaySettings R)) :
    Local scene (scene.importDatasetPresence order settings) := by
  unfold importDatasetPresence
  dsimp only
  split
  · exact ⟨rfl,rfl,rfl,rfl,rfl,rfl⟩
  · exact .refl scene

theorem applyDocument_document (scene : Scene R K) (command : DocumentCommand R) :
    (scene.applyDocument command).document = scene.document.apply command := by
  unfold applyDocument
  dsimp only
  split
  · split <;> rfl
  · rfl

theorem foldl_adopt_frame (entries : List (DatasetId × DatasetManifest R)) (scene : Scene R K) :
    let adopted := entries.foldl (fun scene entry => scene.adopt entry.1 entry.2) scene
    adopted.document = scene.document ∧ adopted.derived = scene.derived ∧
      adopted.viewQueryCursors = scene.viewQueryCursors ∧ adopted.epochs = scene.epochs := by
  induction entries generalizing scene with
  | nil => exact ⟨rfl,rfl,rfl,rfl⟩
  | cons entry entries ih => exact ih (scene.adopt entry.1 entry.2)

theorem loadDocument_document (scene : Scene R K) (document : DocumentState R) :
    (scene.loadDocument document).document = document :=
  (foldl_adopt_frame document.manifests.entries (rebuildDerived {scene with document})).1

theorem rebuildDerived_lookup (scene : Scene R K) (id : DatasetId) :
    scene.rebuildDerived.derived.lookup id = (scene.document.manifests.get? id).map (derive scene.document id) := by
  have nodup : ((scene.document.manifests.entries.map fun entry =>
      (entry.1,derive scene.document entry.1 entry.2)).map Prod.fst).Nodup := by
    simpa only [List.map_map,Function.comp_def] using scene.document.manifests.nodup
  apply Option.ext
  intro derived
  unfold rebuildDerived
  rw [HashMap.lookup_ofList nodup,List.mem_map,Option.map_eq_some_iff]
  constructor
  · rintro ⟨entry,member,same⟩
    cases same
    exact ⟨entry.2,IndexMap.mem_entries_iff.mp member,rfl⟩
  · rintro ⟨manifest,found,rfl⟩
    exact ⟨(id,manifest),IndexMap.mem_entries_iff.mpr found,rfl⟩

theorem loadDocument_derived (scene : Scene R K) (document : DocumentState R) (id : DatasetId) :
    (scene.loadDocument document).derived.lookup id = (document.manifests.get? id).map (derive document id) := by
  have frame := foldl_adopt_frame document.manifests.entries (rebuildDerived {scene with document})
  have same : (scene.loadDocument document).derived = (rebuildDerived {scene with document}).derived := frame.2.1
  rw [same]
  exact rebuildDerived_lookup _ id

variable [CameraModel R K]
open CameraModel

def new (K : Type) [CameraModel R K] (viewport : Nat × Nat) : Scene R K :=
  ⟨CameraModel.new .slice viewport,.new,.default R,.default,[],∅,∅,⟨0,0,0,0,0,0⟩,∅⟩

def clamp (x low high : R) : R := if Numeric.lt x low then low else if Numeric.lt high x then high else x

def mutateViewport (scene : Scene R K) : ViewportCommand R → Scene R K
  | .setMode2D => scene.setMode .slice
  | .setMode3D => scene.setMode .arcball
  | .setModeFly => scene.setMode .fly
  | .setViewport width height => {scene with camera := setViewport scene.camera width height}
  | .pan dx dy => scene.withCamera .slice (CameraModel.pan · dx dy)
  | .zoomBy factor => scene.withCamera .slice (CameraModel.zoomBy · factor)
  | .setCenter x y => scene.withCamera .slice (CameraModel.setCenter · x y)
  | .setZoom value => scene.withCamera .slice (CameraModel.setZoom · value)
  | .rotate3D dTheta dPhi => scene.withCamera .arcball (rotate · dTheta dPhi)
  | .zoom3D delta => scene.withCamera .arcball (zoom · delta)
  | .pan3D dx dy => scene.withCamera .arcball (panTarget · dx dy)
  | .centerOnVoxel3D id x y z =>
    match worldPoint K scene.document scene.derived id (x,y,z) with
    | none => scene
    | some world =>
      if Numeric.isFinite world.1 && Numeric.isFinite world.2.1 && Numeric.isFinite world.2.2 then
        scene.withCamera .arcball (setTarget · world)
      else scene
  | .flyTick dt forward right up yaw pitch roll =>
    scene.withCamera .fly (CameraModel.flyTick · dt (forward,right,up) (yaw,pitch,roll))
  | .flySetBaseSpeed speed => scene.withCamera .fly (setBaseSpeed · speed)
  | .flyAdjustSpeed factor => scene.withCamera .fly (adjustSpeed · factor)
  | .adjustClipDistance delta =>
    if kind scene.camera = .slice then scene else {scene with camera := adjustClip scene.camera delta}
  | .setZ z => {scene with view := {scene.view with zRange := (z,(z+1)%2^32)}}
  | .setZRange start stop => {scene with view := {scene.view with zRange := (start,stop)}}
  | .setT t => {scene with view := {scene.view with t}}
  | .setC c => {scene with view := {scene.view with c}}
  | .setContrast min max => {scene with display := {scene.display with contrastMin := min,contrastMax := max}}
  | .setGamma gamma => {scene with display := {scene.display with gamma}}
  | .setDatasetOrder order => {scene with datasetOrder := order}
  | .setDatasetVisible id visible => scene.modifySettings id fun s => {s with visible}
  | .setDatasetOpacity id opacity => scene.modifySettings id fun s => {s with opacity}
  | .setDatasetContrast id min max => scene.modifySettings id fun s => {s with contrastMin := min,contrastMax := max}
  | .setDatasetGamma id gamma => scene.modifySettings id fun s => {s with gamma}
  | .setDatasetBlendMode id blendMode => scene.modifySettings id fun s => {s with blendMode}
  | .setDatasetRenderMode id renderMode => scene.modifySettings id fun s => {s with renderMode}
  | .setDatasetDetailLevelOverride id level =>
    scene.modifySettings id fun s => {s with detailLevelOverride := level.bind (scene.clampDetailLevelOverride id)}
  | .setMultiChannel enabled => {scene with view := {scene.view with multiChannel := enabled}}
  | .setChannelVisible id channel visible =>
    scene.modifySettings id (·.modifyChannel channel fun ch => {ch with visible})
  | .setChannelColormap id channel colormap =>
    scene.modifySettings id (·.modifyChannel channel fun ch => {ch with colormap})
  | .setChannelName id channel name => scene.modifySettings id (·.modifyChannel channel fun ch => {ch with name})
  | .setChannelContrast id channel min max =>
    scene.modifySettings id (·.modifyChannel channel fun ch => {ch with contrastMin := min,contrastMax := max})
  | .setChannelGamma id channel gamma => scene.modifySettings id (·.modifyChannel channel fun ch => {ch with gamma})
  | .setChannelBlendMode id blendMode => scene.modifySettings id fun s => {s with channelBlendMode := blendMode}
  | .setLabelVisible id label visible =>
    if scene.labelIndexInRange id label then
      scene.modifySettings id (·.modifyLabel label fun l => {l with visible})
    else scene
  | .setLabelOpacity id label opacity =>
    let opacity := if Numeric.isFinite opacity then clamp opacity 0 1 else Numeric.half
    if scene.labelIndexInRange id label then
      scene.modifySettings id (·.modifyLabel label fun l => {l with opacity})
    else scene

-- Only the slice of the scene that the command's scope names is compared.
def applyViewport [BEq R] [BEq K] (scene : Scene R K) (command : ViewportCommand R) : Scene R K :=
  if command.inputsFinite then
    let after := scene.mutateViewport command
    match command.scope with
    | .camera => after.bumpView (after.camera != scene.camera)
    | .viewSelectors => after.bumpSelection (after.view != scene.view)
    | .display => after.bumpSelection (after.display != scene.display)
    | .datasetDisplay => after.bumpSelection
        (after.datasetOrder != scene.datasetOrder || !after.datasetSettings.same scene.datasetSettings)
  else scene

def apply [BEq R] [BEq K] (scene : Scene R K) : Command R → Scene R K
  | .document command => scene.applyDocument command
  | .viewport command => scene.applyViewport command

theorem mutateViewport_local (scene : Scene R K) (command : ViewportCommand R) :
    Local scene (scene.mutateViewport command) := by
  cases command with
  | setMode2D | setMode3D | setModeFly => exact setMode_local scene _
  | pan | zoomBy | setCenter | setZoom | rotate3D | zoom3D | pan3D | flyTick | flySetBaseSpeed | flyAdjustSpeed =>
    unfold mutateViewport
    exact withCamera_local scene _ _
  | centerOnVoxel3D =>
    simp only [mutateViewport]
    split
    · exact .refl scene
    · split
      · exact withCamera_local scene _ _
      · exact .refl scene
  | adjustClipDistance =>
    simp only [mutateViewport]
    split
    · exact .refl scene
    · exact ⟨rfl,rfl,rfl,rfl,rfl,rfl⟩
  | setLabelVisible | setLabelOpacity =>
    simp only [mutateViewport]
    split
    · exact modifySettings_local scene _ _
    · exact .refl scene
  | setViewport | setZ | setZRange | setT | setC | setContrast | setGamma | setDatasetOrder | setMultiChannel =>
    exact ⟨rfl,rfl,rfl,rfl,rfl,rfl⟩
  | _ => exact modifySettings_local scene _ _

theorem applyViewport_local [BEq R] [BEq K] (scene : Scene R K) (command : ViewportCommand R) :
    Local scene (scene.applyViewport command) := by
  have moved := mutateViewport_local scene command
  unfold applyViewport
  split
  · dsimp only
    split
    · exact moved.bumpView _
    · exact moved.bumpSelection _
    · exact moved.bumpSelection _
    · exact moved.bumpSelection _
  · exact .refl scene

end Scene

structure FixedCamera where
  mode : CameraModeKind
  size : Nat × Nat
  deriving DecidableEq, Repr

instance : CameraModel Int FixedCamera where
  kind := FixedCamera.mode
  new := FixedCamera.mk
  viewport := FixedCamera.size
  setViewport camera width height := {camera with size := (width,height)}
  sanitize camera := camera
  toArcball camera := {camera with mode := .arcball}
  toFly camera := {camera with mode := .fly}
  pan camera _ _ := camera
  zoomBy camera _ := camera
  setCenter camera _ _ := camera
  setZoom camera _ := camera
  rotate camera _ _ := camera
  zoom camera _ := camera
  panTarget camera _ _ := camera
  worldPoint _ _ _ point := some point
  setTarget camera _ := camera
  flyTick camera _ _ _ := camera
  setBaseSpeed camera _ := camera
  adjustSpeed camera _ := camera
  adjustClip camera _ := camera
  fitToDataset derived camera id := (derived.lookup id).map fun _ => camera

end Lucida.Core
