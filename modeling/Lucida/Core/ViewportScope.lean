import Mathlib
import Lucida.Core.Scene
import Lucida.Core.TargetLevel

namespace Lucida.Core
open Content Lib

inductive Slice (R K : Type) where
  | camera (camera : K)
  | viewSelectors (view : ViewState)
  | display (display : DisplayState R)
  | datasetDisplay (order : List DatasetId) (settings : HashMap DatasetId (DatasetDisplaySettings R))

-- `!=` on the slice, as `apply_viewport` compares it.
def Slice.differs {R K : Type} [BEq R] [BEq K] : Slice R K → Slice R K → Bool
  | .camera after,.camera before => after != before
  | .viewSelectors after,.viewSelectors before => after != before
  | .display after,.display before => after != before
  | .datasetDisplay order settings,.datasetDisplay orderBefore settingsBefore =>
    order != orderBefore || !settings.same settingsBefore
  | _,_ => true

-- `==` is right about these two. Of floats it is wrong about two NaN, and about
-- zeros of opposite signs.
def Comparable {V : Type} [BEq V] (after before : V) : Prop := (after == before) = true ↔ after = before

structure DisplayState.Compares {R : Type} [BEq R] (after before : DisplayState R) : Prop where
  contrastMin : Comparable after.contrastMin before.contrastMin
  contrastMax : Comparable after.contrastMax before.contrastMax
  gamma : Comparable after.gamma before.gamma

structure ChannelSettings.Compares {R : Type} [BEq R] (after before : ChannelSettings R) : Prop where
  contrastMin : Comparable after.contrastMin before.contrastMin
  contrastMax : Comparable after.contrastMax before.contrastMax
  gamma : Comparable after.gamma before.gamma

structure DatasetDisplaySettings.Compares {R : Type} [BEq R] (after before : DatasetDisplaySettings R) : Prop where
  opacity : Comparable after.opacity before.opacity
  contrastMin : Comparable after.contrastMin before.contrastMin
  contrastMax : Comparable after.contrastMax before.contrastMax
  gamma : Comparable after.gamma before.gamma
  channels : ∀ channel ∈ after.channelSettings.zip before.channelSettings, channel.1.Compares channel.2
  labels : ∀ label ∈ after.labelSettings.zip before.labelSettings, Comparable label.1.opacity label.2.opacity

def Slice.Compares {R K : Type} [BEq R] [BEq K] : Slice R K → Slice R K → Prop
  | .camera after,.camera before => Comparable after before
  | .display after,.display before => after.Compares before
  | .datasetDisplay _ settings,.datasetDisplay _ settingsBefore =>
    ∀ id after before, settings.lookup id = some after → settingsBefore.lookup id = some before → after.Compares before
  | _,_ => True

def SceneEpochs.raised (epochs : SceneEpochs) : ViewportScope → SceneEpochs
  | .camera => {epochs with view := epochs.view+1}
  | _ => {epochs with selection := epochs.selection+1}

def ViewportCommand.carried {R : Type} : ViewportCommand R → List R
  | .setLabelOpacity _ _ opacity => [opacity]
  | command => command.floats

theorem comparable_views (after before : ViewState) : Comparable after before := by
  obtain ⟨range,t,c,many⟩ := after
  obtain ⟨range',t',c',many'⟩ := before
  show (range == range' && (t == t' && (c == c' && many == many'))) = true ↔ _
  simp only [Bool.and_eq_true,beq_iff_eq,ViewState.mk.injEq]

section
variable {R : Type} [BEq R]

theorem DisplayState.Compares.comparable {after before : DisplayState R} (compares : after.Compares before) :
    Comparable after before := by
  obtain ⟨low,high,gamma⟩ := after
  obtain ⟨low',high',gamma'⟩ := before
  show (low == low' && (high == high' && gamma == gamma')) = true ↔ _
  simp only [Bool.and_eq_true,compares.contrastMin.eq,compares.contrastMax.eq,compares.gamma.eq,DisplayState.mk.injEq]

theorem ChannelSettings.Compares.comparable {after before : ChannelSettings R} (compares : after.Compares before) :
    Comparable after before := by
  obtain ⟨visible,colormap,low,high,gamma,name⟩ := after
  obtain ⟨visible',colormap',low',high',gamma',name'⟩ := before
  show (visible == visible' && (colormap == colormap' && (low == low' && (high == high' && (gamma == gamma' &&
    name == name'))))) = true ↔ _
  simp only [Bool.and_eq_true,compares.contrastMin.eq,compares.contrastMax.eq,compares.gamma.eq,beq_iff_eq,
    ChannelSettings.mk.injEq]

theorem comparable_labels {after before : LabelSettings R} (opacity : Comparable after.opacity before.opacity) :
    Comparable after before := by
  obtain ⟨visible,shown⟩ := after
  obtain ⟨visible',shown'⟩ := before
  show (visible == visible' && shown == shown') = true ↔ _
  simp only [Bool.and_eq_true,opacity.eq,beq_iff_eq,LabelSettings.mk.injEq]

-- Entry by entry; of lists of two lengths the comparison is right anyway.
theorem comparable_lists {V : Type} [BEq V] {after before : List V}
    (entries : ∀ entry ∈ after.zip before, Comparable entry.1 entry.2) : Comparable after before := by
  induction after generalizing before with
  | nil =>
    cases before with
    | nil => exact iff_of_true rfl rfl
    | cons => exact iff_of_false (by simp) (by simp)
  | cons v after hypothesis =>
    cases before with
    | nil => exact iff_of_false (by simp) (by simp)
    | cons w before =>
      have first : Comparable v w := entries (v,w) (by simp)
      have rest : Comparable after before := hypothesis fun entry member => entries entry (by simp [member])
      show (v == w && after == before) = true ↔ _
      rw [Bool.and_eq_true,first.eq,rest.eq,List.cons.injEq]

theorem DatasetDisplaySettings.Compares.comparable {after before : DatasetDisplaySettings R}
    (compares : after.Compares before) : Comparable after before := by
  have channels : Comparable after.channelSettings before.channelSettings :=
    comparable_lists fun channel member => (compares.channels channel member).comparable
  have labels : Comparable after.labelSettings before.labelSettings :=
    comparable_lists fun label member => comparable_labels (compares.labels label member)
  obtain ⟨visible,opacity,low,high,gamma,blend,render,channelSettings,labelSettings,channelBlend,level,names⟩ := after
  obtain ⟨visible',opacity',low',high',gamma',blend',render',channelSettings',labelSettings',channelBlend',level',
    names'⟩ := before
  show (visible == visible' && (opacity == opacity' && (low == low' && (high == high' && (gamma == gamma' &&
    (blend == blend' && (render == render' && (channelSettings == channelSettings' && (labelSettings == labelSettings' &&
    (channelBlend == channelBlend' && (level == level' && names == names'))))))))))) = true ↔ _
  simp only [Bool.and_eq_true,compares.opacity.eq,compares.contrastMin.eq,compares.contrastMax.eq,compares.gamma.eq,
    channels.eq,labels.eq,beq_iff_eq,DatasetDisplaySettings.mk.injEq]

theorem same_iff {K V : Type} [DecidableEq K] [BEq V] {after before : HashMap K V}
    (entries : ∀ k v w, after.lookup k = some v → before.lookup k = some w → Comparable v w) :
    after.same before = true ↔ after = before := by
  unfold HashMap.same
  rw [Bool.and_eq_true,decide_eq_true_iff,decide_eq_true_iff]
  constructor
  · rintro ⟨keys,values⟩
    refine Finmap.ext_lookup fun k => ?_
    cases found : after.lookup k with
    | none =>
      have absent : k ∉ before := by
        rw [← Finmap.mem_keys,← keys,Finmap.mem_keys]
        exact Finmap.lookup_eq_none.mp found
      exact (Finmap.lookup_eq_none.mpr absent).symm
    | some v =>
      have member : k ∈ after.keys := Finmap.mem_keys.mpr (Finmap.mem_iff.mpr ⟨v,found⟩)
      obtain ⟨w,foundBefore⟩ := Finmap.mem_iff.mp (Finmap.mem_keys.mp (keys ▸ member))
      have alike := values k member
      rw [found,foundBefore] at alike
      rw [foundBefore,(entries k v w found foundBefore).mp alike]
  · rintro rfl
    refine ⟨rfl,fun k member => ?_⟩
    obtain ⟨v,found⟩ := Finmap.mem_iff.mp (Finmap.mem_keys.mp member)
    rw [found]
    exact (entries k v v found found).mpr rfl

theorem Slice.Compares.differs_iff {K : Type} [BEq K] {after before : Slice R K} (compares : after.Compares before) :
    after.differs before = true ↔ after ≠ before := by
  cases after with
  | camera after =>
    cases before with
    | camera before => simp only [Slice.differs,bne,Bool.not_eq_true',← Bool.not_eq_true,compares.eq,ne_eq,camera.injEq]
    | _ => exact iff_of_true rfl (by simp)
  | viewSelectors after =>
    cases before with
    | viewSelectors before =>
      simp only [Slice.differs,bne,Bool.not_eq_true',← Bool.not_eq_true,(comparable_views after before).eq,ne_eq,
        viewSelectors.injEq]
    | _ => exact iff_of_true rfl (by simp)
  | display after =>
    cases before with
    | display before =>
      simp only [Slice.differs,bne,Bool.not_eq_true',← Bool.not_eq_true,compares.comparable.eq,ne_eq,display.injEq]
    | _ => exact iff_of_true rfl (by simp)
  | datasetDisplay order settings =>
    cases before with
    | datasetDisplay orderBefore settingsBefore =>
      have same : settings.same settingsBefore = true ↔ settings = settingsBefore :=
        same_iff fun id v w found foundBefore => (compares id v w found foundBefore).comparable
      simp only [Slice.differs,Bool.or_eq_true,bne_iff_ne,Bool.not_eq_true',← Bool.not_eq_true,same,ne_eq,
        datasetDisplay.injEq,not_and_or]
    | _ => exact iff_of_true rfl (by simp)

end

namespace Scene
variable {R K : Type}

def slice (scene : Scene R K) : ViewportScope → Slice R K
  | .camera => .camera scene.camera
  | .viewSelectors => .viewSelectors scene.view
  | .display => .display scene.display
  | .datasetDisplay => .datasetDisplay scene.datasetOrder scene.datasetSettings

structure Within (scope : ViewportScope) (scene after : Scene R K) : Prop where
  others : ∀ other, other ≠ scope → after.slice other = scene.slice other
  epochs : after.epochs = scene.epochs
  document : after.document = scene.document
  derived : after.derived = scene.derived
  cursors : after.viewQueryCursors = scene.viewQueryCursors

theorem Within.refl (scope : ViewportScope) (scene : Scene R K) : Within scope scene scene :=
  ⟨fun _ _ => rfl,rfl,rfl,rfl,rfl⟩

theorem within_camera (scene : Scene R K) (camera : K) : Within .camera scene {scene with camera} := by
  refine ⟨fun other elsewhere => ?_,rfl,rfl,rfl,rfl⟩
  cases other with
  | camera => exact absurd rfl elsewhere
  | viewSelectors | display | datasetDisplay => rfl

theorem within_view (scene : Scene R K) (view : ViewState) : Within .viewSelectors scene {scene with view} := by
  refine ⟨fun other elsewhere => ?_,rfl,rfl,rfl,rfl⟩
  cases other with
  | viewSelectors => exact absurd rfl elsewhere
  | camera | display | datasetDisplay => rfl

theorem within_display (scene : Scene R K) (display : DisplayState R) : Within .display scene {scene with display} := by
  refine ⟨fun other elsewhere => ?_,rfl,rfl,rfl,rfl⟩
  cases other with
  | display => exact absurd rfl elsewhere
  | camera | viewSelectors | datasetDisplay => rfl

theorem within_datasetDisplay (scene : Scene R K) (order : List DatasetId)
    (settings : HashMap DatasetId (DatasetDisplaySettings R)) :
    Within .datasetDisplay scene {scene with datasetOrder := order,datasetSettings := settings} := by
  refine ⟨fun other elsewhere => ?_,rfl,rfl,rfl,rfl⟩
  cases other with
  | datasetDisplay => exact absurd rfl elsewhere
  | camera | viewSelectors | display => rfl

theorem modifySettings_within (scene : Scene R K) (id : DatasetId)
    (f : DatasetDisplaySettings R → DatasetDisplaySettings R) : Within .datasetDisplay scene (scene.modifySettings id f) := by
  unfold modifySettings
  split
  · exact .refl _ scene
  · exact within_datasetDisplay scene scene.datasetOrder _

section
variable [CameraModel R K]

theorem withCamera_within (scene : Scene R K) (mode : CameraModeKind) (f : K → K) :
    Within .camera scene (scene.withCamera mode f) := by
  unfold withCamera
  split
  · exact within_camera scene _
  · exact .refl _ scene

theorem setMode_within (scene : Scene R K) (mode : CameraModeKind) : Within .camera scene (scene.setMode mode) := by
  unfold setMode
  split
  · exact .refl _ scene
  · exact within_camera scene _

end

variable [Numeric R] [CameraModel R K]

-- The arms of the mutation and the arms of `scope` are two matches over the same commands.
theorem mutateViewport_within (scene : Scene R K) (command : ViewportCommand R) :
    Within command.scope scene (scene.mutateViewport command) := by
  cases command with
  | setMode2D | setMode3D | setModeFly => exact setMode_within scene _
  | setViewport => exact within_camera scene _
  | pan | zoomBy | setCenter | setZoom | rotate3D | zoom3D | pan3D | flyTick | flySetBaseSpeed | flyAdjustSpeed =>
    unfold mutateViewport
    exact withCamera_within scene _ _
  | centerOnVoxel3D =>
    simp only [mutateViewport]
    split
    · exact .refl _ scene
    · split
      · exact withCamera_within scene _ _
      · exact .refl _ scene
  | adjustClipDistance =>
    simp only [mutateViewport]
    split
    · exact .refl _ scene
    · exact within_camera scene _
  | setZ | setZRange | setT | setC | setMultiChannel => exact within_view scene _
  | setContrast | setGamma => exact within_display scene _
  | setDatasetOrder => exact within_datasetDisplay scene _ scene.datasetSettings
  | setLabelVisible | setLabelOpacity =>
    simp only [mutateViewport]
    split
    · exact modifySettings_within scene _ _
    · exact .refl _ scene
  | setDatasetVisible | setDatasetOpacity | setDatasetContrast | setDatasetGamma | setDatasetBlendMode
  | setDatasetRenderMode | setDatasetDetailLevelOverride | setChannelVisible | setChannelColormap | setChannelName
  | setChannelContrast | setChannelGamma | setChannelBlendMode => exact modifySettings_within scene _ _

theorem applyViewport_eq [BEq R] [BEq K] (scene : Scene R K) (command : ViewportCommand R) (finite : command.inputsFinite) :
    scene.applyViewport command =
      let after := scene.mutateViewport command
      if (after.slice command.scope).differs (scene.slice command.scope) then
        {after with epochs := after.epochs.raised command.scope}
      else after := by
  unfold applyViewport
  rw [if_pos finite]
  dsimp only
  cases command.scope <;> rfl

omit [CameraModel R K] in
theorem not_inputsFinite_of_carried {command : ViewportCommand R} (other : ∀ id label opacity, command ≠ .setLabelOpacity id label opacity)
    (carried : ∃ value ∈ command.carried, Numeric.isFinite value = false) : command.inputsFinite = false := by
  obtain ⟨value,member,infinite⟩ := carried
  have floats : command.carried = command.floats := by
    cases command with
    | setLabelOpacity id label opacity => exact absurd rfl (other id label opacity)
    | _ => rfl
  rw [floats] at member
  exact List.all_eq_false.mpr ⟨value,member,by simp [infinite]⟩

theorem applyViewport_dropped [BEq R] [BEq K] (scene : Scene R K) {command : ViewportCommand R}
    (infinite : command.inputsFinite = false) : scene.applyViewport command = scene :=
  if_neg (by rw [infinite]; exact Bool.false_ne_true)

theorem applyViewport_slice [BEq R] [BEq K] (scene : Scene R K) {command : ViewportCommand R}
    (finite : command.inputsFinite) (scope : ViewportScope) :
    (scene.applyViewport command).slice scope = (scene.mutateViewport command).slice scope := by
  rw [applyViewport_eq scene command finite]
  dsimp only
  split <;> cases scope <;> rfl

theorem applyViewport_frame [BEq R] [BEq K] (scene : Scene R K) (command : ViewportCommand R) :
    Within command.scope scene {scene.applyViewport command with epochs := scene.epochs} := by
  cases finite : command.inputsFinite with
  | false =>
    rw [applyViewport_dropped scene finite]
    exact .refl _ scene
  | true =>
    have moved := mutateViewport_within scene command
    have equal := applyViewport_eq scene command finite
    refine ⟨fun scope elsewhere => ?_,rfl,?_,?_,?_⟩
    · calc slice {scene.applyViewport command with epochs := scene.epochs} scope = (scene.applyViewport command).slice scope := by
            cases scope <;> rfl
        _ = (scene.mutateViewport command).slice scope := applyViewport_slice scene finite scope
        _ = scene.slice scope := moved.others scope elsewhere
    · show (scene.applyViewport command).document = scene.document
      rw [equal,← moved.document]
      dsimp only
      split <;> rfl
    · show (scene.applyViewport command).derived = scene.derived
      rw [equal,← moved.derived]
      dsimp only
      split <;> rfl
    · show (scene.applyViewport command).viewQueryCursors = scene.viewQueryCursors
      rw [equal,← moved.cursors]
      dsimp only
      split <;> rfl

theorem applyViewport_epochs [BEq R] [BEq K] (scene : Scene R K) (command : ViewportCommand R) :
    (scene.applyViewport command).epochs =
      if command.inputsFinite ∧ ((scene.applyViewport command).slice command.scope).differs (scene.slice command.scope) then
        scene.epochs.raised command.scope else scene.epochs := by
  cases finite : command.inputsFinite with
  | false =>
    rw [applyViewport_dropped scene finite,if_neg fun raised => Bool.false_ne_true raised.1]
  | true =>
    rw [applyViewport_slice scene finite]
    simp only [true_and]
    rw [applyViewport_eq scene command finite,← (mutateViewport_within scene command).epochs]
    dsimp only
    split <;> rfl

theorem raised_iff_changed [BEq R] [BEq K] (scene : Scene R K) (command : ViewportCommand R)
    (compares : ((scene.applyViewport command).slice command.scope).Compares (scene.slice command.scope)) :
    ((scene.applyViewport command).slice command.scope ≠ scene.slice command.scope →
        (scene.applyViewport command).epochs = scene.epochs.raised command.scope) ∧
      ((scene.applyViewport command).slice command.scope = scene.slice command.scope →
        (scene.applyViewport command).epochs = scene.epochs) := by
  have epochs := applyViewport_epochs scene command
  constructor
  · intro changed
    cases finite : command.inputsFinite with
    | false => exact absurd (by rw [applyViewport_dropped scene finite]) changed
    | true =>
      rw [epochs,if_pos ⟨finite,compares.differs_iff.mpr changed⟩]
  · intro unchanged
    rw [epochs,if_neg fun raised => compares.differs_iff.mp raised.2 unchanged]

theorem viewport_command_stays_in_scope [BEq R] [BEq K] (scene : Scene R K) (command : ViewportCommand R) :
    let after := scene.applyViewport command
    (∀ scope, scope ≠ command.scope → after.slice scope = scene.slice scope) ∧
    after.epochs = (if command.inputsFinite ∧ (after.slice command.scope).differs (scene.slice command.scope) then
      scene.epochs.raised command.scope else scene.epochs) ∧
    ((after.slice command.scope).Compares (scene.slice command.scope) →
      (after.slice command.scope ≠ scene.slice command.scope → after.epochs = scene.epochs.raised command.scope) ∧
      (after.slice command.scope = scene.slice command.scope → after.epochs = scene.epochs)) ∧
    after.document = scene.document ∧ after.derived = scene.derived ∧ after.viewQueryCursors = scene.viewQueryCursors ∧
    ((∀ id label opacity, command ≠ .setLabelOpacity id label opacity) →
      (∃ value ∈ command.carried, Numeric.isFinite value = false) → after = scene) := by
  intro after
  have frame := applyViewport_frame scene command
  refine ⟨fun scope elsewhere => ?_,applyViewport_epochs scene command,raised_iff_changed scene command,
    frame.document,frame.derived,frame.cursors,fun other carried => ?_⟩
  · rw [← frame.others scope elsewhere]
    cases scope <;> rfl
  · exact applyViewport_dropped scene (not_inputsFinite_of_carried other carried)

end Scene

-- A number as floats have it: exact, with infinities, NaN and a zero of either sign.
structure SignedNumber where
  value : Extended ℚ
  negativeZero : Bool
  zero_of_negativeZero : negativeZero = true → value = .finite 0
  deriving DecidableEq

namespace SignedNumber

def of (value : Extended ℚ) : SignedNumber := ⟨value,false,by simp⟩

def minusZero : SignedNumber := ⟨.finite 0,true,fun _ => rfl⟩

-- NaN equals nothing, and the two zeros are equal.
instance : BEq SignedNumber where
  beq a b := Extended.le a.value b.value && Extended.le b.value a.value

instance : Numeric SignedNumber where
  zero := of 0
  one := of 1
  add a b := of (a.value+b.value)
  sub a b := of (a.value-b.value)
  mul a b := of (a.value*b.value)
  div a b := of (a.value/b.value)
  ofNat n := of (.finite n)
  lt a b := Extended.lt a.value b.value
  le a b := Extended.le a.value b.value
  max a b := if b.value = .nan then a else if Extended.le b.value a.value then a else b
  abs a := of (Extended.abs a.value)
  isFinite a := Extended.isFinite a.value
  asF32 a := a
  half := of (.finite (1/2))
  tiny := of (.finite (1/1000000))
  infinity := of (.infinite false)
  band := of (.finite (6/5))

theorem beq_iff (a b : SignedNumber) : (a == b) = true ↔ a.value = b.value ∧ a.value ≠ .nan := by
  show (Extended.le a.value b.value && Extended.le b.value a.value) = true ↔ _
  rw [Bool.and_eq_true]
  cases a.value with
  | finite x =>
    cases b.value with
    | finite y =>
      simp only [Extended.le,decide_eq_true_iff,Extended.finite.injEq,ne_eq,reduceCtorEq,not_false_eq_true,and_true]
      exact le_antisymm_iff.symm
    | infinite negative => cases negative <;> simp [Extended.le]
    | nan => simp [Extended.le]
  | infinite negative =>
    cases b.value with
    | finite y => cases negative <;> simp [Extended.le]
    | infinite negative' => cases negative <;> cases negative' <;> simp [Extended.le]
    | nan => simp [Extended.le]
  | nan => simp [Extended.le]

-- The comparison is wrong on two NaN and on zeros of two signs, and nowhere else.
theorem comparable_iff (a b : SignedNumber) :
    Comparable a b ↔ ¬(a.value = .nan ∧ b.value = .nan) ∧ (a.value = b.value → a.negativeZero = b.negativeZero) := by
  have same : a = b ↔ a.value = b.value ∧ a.negativeZero = b.negativeZero := by
    obtain ⟨value,minus,_⟩ := a
    obtain ⟨value',minus',_⟩ := b
    simp only [mk.injEq]
  rw [Comparable,beq_iff,same]
  by_cases values : a.value = b.value
  · by_cases lost : b.value = .nan
    · have plus (c : SignedNumber) (nan : c.value = .nan) : c.negativeZero = false := by
        by_contra minus
        rw [c.zero_of_negativeZero (Bool.not_eq_false _ ▸ minus)] at nan
        cases nan
      simp [values,lost,plus a (values.trans lost),plus b lost]
    · simp [values,lost]
  · simp only [values,false_and,forall_false,and_true,true_iff,not_and]
    rintro lost lost'
    exact values (lost.trans lost'.symm)

end SignedNumber

structure StillCamera where
  size : Nat × Nat
  deriving DecidableEq, Repr

instance : CameraModel SignedNumber StillCamera where
  kind _ := .slice
  new _ size := ⟨size⟩
  viewport := StillCamera.size
  setViewport _ width height := ⟨(width,height)⟩
  sanitize camera := camera
  toArcball camera := camera
  toFly camera := camera
  pan camera _ _ := camera
  zoomBy camera _ := camera
  setCenter camera _ _ := camera
  setZoom camera _ := camera
  rotate camera _ _ := camera
  zoom camera _ := camera
  panTarget camera _ _ := camera
  worldPoint _ _ _ point := some point
  setTarget camera _ := camera
  flyTick camera _ _ _ := camera
  setBaseSpeed camera _ := camera
  adjustSpeed camera _ := camera
  adjustClip camera _ := camera
  fitToDataset _ camera _ := some camera

namespace Scene

def labelled : Scene SignedNumber StillCamera :=
  let manifest : DatasetManifest SignedNumber := ⟨"d","d",.single,[],[],[],[],none,["nuclei"]⟩
  let opened := (Scene.new StillCamera (1,1)).applyDocument (.datasetOpened ⟨manifest,.proxied [],⟨[]⟩⟩)
  opened.applyViewport (.setLabelOpacity "d" 0 1)

-- A peer's display settings, one of them not a number.
def unshown : Scene SignedNumber StillCamera :=
  labelled.importPresence labelled.camera labelled.view ⟨.of .nan,1,0⟩

-- The opacity of a label is exempt from the check: what is not finite becomes a
-- half. What holds NaN differs from itself, and a zero that changes its sign does not.
theorem viewport_command_with_a_lost_opacity :
    (let command : ViewportCommand SignedNumber := .setLabelOpacity "d" 0 (.of .nan)
     (∃ value ∈ command.carried, Numeric.isFinite value = false) ∧ labelled.applyViewport command ≠ labelled) ∧
    (let after := unshown.applyViewport (.setGamma 0)
     after.slice .display = unshown.slice .display ∧ after.epochs ≠ unshown.epochs) ∧
    (let before := labelled.applyViewport (.setGamma 0)
     let after := before.applyViewport (.setGamma .minusZero)
     after.slice .display ≠ before.slice .display ∧ after.epochs = before.epochs) := by
  refine ⟨⟨⟨.of .nan,List.mem_cons_self,rfl⟩,fun same => ?_⟩,⟨?_,?_⟩,?_,?_⟩
  · have opacities := congrArg (fun scene => (scene.datasetSettings.lookup "d").map
      fun settings => settings.labelSettings.map LabelSettings.opacity) same
    revert opacities
    decide +kernel
  · exact congrArg Slice.display (by decide +kernel : (unshown.applyViewport (.setGamma 0)).display = unshown.display)
  · decide +kernel
  · intro same
    have signs := congrArg (fun display => display.gamma.negativeZero) (Slice.display.inj same)
    revert signs
    decide +kernel
  · decide +kernel

theorem viewport_command_with_a_lost_pan :
    (let command : ViewportCommand SignedNumber := .pan (.of .nan) 1
     command.inputsFinite = false ∧ labelled.applyViewport command = labelled) ∧
    (let after := labelled.applyViewport (.setGamma 0)
     after.slice .display ≠ labelled.slice .display ∧ after.epochs = labelled.epochs.raised .display) := by
  have compares : ((labelled.applyViewport (.setGamma 0)).slice .display).Compares (labelled.slice .display) := by
    refine ⟨?_,?_,?_⟩ <;> rw [SignedNumber.comparable_iff] <;> decide +kernel
  have changed : (labelled.applyViewport (.setGamma 0)).slice .display ≠ labelled.slice .display := by
    intro same
    have gammas := congrArg (fun display => display.gamma.value) (Slice.display.inj same)
    revert gammas
    decide +kernel
  exact ⟨⟨rfl,(viewport_command_stays_in_scope labelled (.pan (.of .nan) 1)).2.2.2.2.2.2
    (by rintro _ _ _ ⟨⟩) ⟨.of .nan,List.mem_cons_self,rfl⟩⟩,
    changed,((viewport_command_stays_in_scope labelled (.setGamma 0)).2.2.1 compares).1 changed⟩

end Scene
end Lucida.Core
