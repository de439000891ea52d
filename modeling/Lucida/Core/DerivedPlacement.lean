import Lucida.Lib.Runs
import Lucida.Core.Scene

namespace Lucida.Core
open Content Lib

section
variable {R : Type} {id : DatasetId} {manifest : DatasetManifest R} {layout : LayoutSpec R}

-- A layout that nothing resolves falls back to the manifest's own choice.
def fallbackLayout (manifest : DatasetManifest R) : LayoutSpec R := resolveLayout manifest none none

theorem resolveLayout_sourced (sourced : manifest.sourceLayouts.find? (·.id = active) = some layout)
    (registered : Option (List (LayoutSpec R))) : resolveLayout manifest registered (some active) = layout := by
  simp [resolveLayout,sourced]

theorem resolveLayout_registered (unsourced : manifest.sourceLayouts.find? (·.id = active) = none)
    (registered : Option (List (LayoutSpec R))) :
    resolveLayout manifest registered (some active) =
      ((registered.getD []).find? (·.id = active)).getD (fallbackLayout manifest) := by
  cases registered with
  | none => simp [resolveLayout,fallbackLayout,unsourced]
  | some layouts =>
    cases found : layouts.find? (·.id = active) with
    | none => simp [resolveLayout,fallbackLayout,unsourced,found]
    | some layout => simp [resolveLayout,unsourced,found]

theorem fallback_of_no_source (empty : manifest.sourceLayouts = []) :
    fallbackLayout manifest = ⟨"default","Default",[]⟩ := by
  simp [fallbackLayout,resolveLayout,empty]

theorem fallback_mem (sourced : manifest.sourceLayouts ≠ []) : fallbackLayout manifest ∈ manifest.sourceLayouts := by
  cases chosen : manifest.defaultLayoutId.bind fun id => manifest.sourceLayouts.find? (·.id = id) with
  | none => simp [fallbackLayout,resolveLayout,chosen,List.head?_eq_some_head sourced]
  | some layout =>
    obtain ⟨id,_,found⟩ := Option.bind_eq_some_iff.mp chosen
    have member := List.mem_of_find?_eq_some found
    simpa [fallbackLayout,resolveLayout,chosen] using member

-- A layout its dataset already waits for: active but neither a source layout nor
-- registered, so that the dataset is shown in a different, fallback layout.
structure Awaited (document : DocumentState R) (id : DatasetId) (layout : LayoutSpec R)
    (manifest : DatasetManifest R) : Prop where
  shown : document.manifests.get? id = some manifest
  active : document.activeLayoutIds.lookup id = some layout.id
  unsourced : ∀ source ∈ manifest.sourceLayouts, source.id ≠ layout.id
  unregistered : ∀ known ∈ (document.registeredLayouts.lookup id).getD [], known.id ≠ layout.id
  other : manifest.sourceLayouts = [] → layout ≠ ⟨"default","Default",[]⟩

theorem Awaited.fallback_ne {document : DocumentState R} (awaited : Awaited document id layout manifest) :
    fallbackLayout manifest ≠ layout := by
  intro same
  by_cases empty : manifest.sourceLayouts = []
  · rw [fallback_of_no_source empty] at same
    exact awaited.other empty same.symm
  · have member := fallback_mem empty
    rw [same] at member
    exact awaited.unsourced layout member rfl

theorem lookup_registerLayout (document : DocumentState R) (datasetId id : DatasetId) (layout : LayoutSpec R) :
    (document.registerLayout datasetId layout).registeredLayouts.lookup id =
      if id = datasetId then
        let layouts := (document.registeredLayouts.lookup datasetId).getD []
        some (if layouts.any (·.id = layout.id) then layouts else layouts ++ [layout])
      else document.registeredLayouts.lookup id := HashMap.lookup_insert_if _ _ _ _

-- Registering a layout that nothing waits for changes nothing the document
-- resolves.
theorem unawaited_resolves {document : DocumentState R} (shown : document.manifests.get? id = some manifest)
    (idle : ¬ Awaited document id layout manifest) :
    (document.registerLayout id layout).resolvedLayout manifest id = document.resolvedLayout manifest id := by
  have frame : (document.registerLayout id layout).activeLayoutIds = document.activeLayoutIds := rfl
  unfold DocumentState.resolvedLayout
  rw [frame,lookup_registerLayout,if_pos rfl]
  dsimp only
  cases active : document.activeLayoutIds.lookup id with
  | none => rfl
  | some selected =>
    cases sourced : manifest.sourceLayouts.find? (·.id = selected) with
    | some source => rw [resolveLayout_sourced sourced,resolveLayout_sourced sourced]
    | none =>
      rw [resolveLayout_registered sourced,resolveLayout_registered sourced,Option.getD_some]
      split
      · rfl
      · rename_i unregistered
        rw [List.find?_append]
        by_cases waits : layout.id = selected
        · subst waits
          have unsourced : ∀ source ∈ manifest.sourceLayouts, source.id ≠ layout.id := by
            simpa using sourced
          have fresh : ∀ known ∈ (document.registeredLayouts.lookup id).getD [], known.id ≠ layout.id := by
            simpa using unregistered
          have missing : ((document.registeredLayouts.lookup id).getD []).find? (·.id = layout.id) = none := by
            simpa using fresh
          -- What is left of `Awaited` is that the fallback is another layout.
          have fallback : fallbackLayout manifest = layout := by
            by_contra differs
            refine idle ⟨shown,active,unsourced,fresh,?_⟩
            intro empty same
            exact differs ((fallback_of_no_source empty).trans same.symm)
          simp [missing,fallback]
        · have misses : [layout].find? (·.id = selected) = none := by simp [waits]
          rw [misses,Option.or_none]

theorem awaited_resolves {document : DocumentState R} (awaited : Awaited document id layout manifest) :
    (document.registerLayout id layout).resolvedLayout manifest id ≠ document.resolvedLayout manifest id := by
  have frame : (document.registerLayout id layout).activeLayoutIds = document.activeLayoutIds := rfl
  have unsourced : manifest.sourceLayouts.find? (·.id = layout.id) = none := by
    simpa using awaited.unsourced
  have missing : ((document.registeredLayouts.lookup id).getD []).find? (·.id = layout.id) = none := by
    simpa using awaited.unregistered
  have unregistered : ¬ ((document.registeredLayouts.lookup id).getD []).any (·.id = layout.id) := by
    simpa using awaited.unregistered
  unfold DocumentState.resolvedLayout
  rw [frame,lookup_registerLayout,if_pos rfl,awaited.active]
  dsimp only
  rw [resolveLayout_registered unsourced,resolveLayout_registered unsourced,Option.getD_some,if_neg unregistered,
    List.find?_append,missing]
  intro same
  exact awaited.fallback_ne (by simpa using same.symm)

end

namespace Scene
variable {R K : Type} [Numeric R] {scene after : Scene R K} {id : DatasetId}

def PlacedAt (scene : Scene R K) (id : DatasetId) : Prop :=
  scene.derived.lookup id = (scene.document.manifests.get? id).map (derive scene.document id)

def Placed (scene : Scene R K) : Prop := ∀ id, scene.PlacedAt id

theorem derive_congr {document document' : DocumentState R}
    (registered : document'.registeredLayouts.lookup id = document.registeredLayouts.lookup id)
    (active : document'.activeLayoutIds.lookup id = document.activeLayoutIds.lookup id) :
    derive document' id = derive document id := by
  funext manifest
  unfold derive DocumentState.resolvedLayout
  rw [registered,active]

-- The manifest a dataset is placed by; the id it carries is no part of the placement.
def manifestUnder (document : DocumentState R) (id : DatasetId) : Option (DatasetManifest R) :=
  (document.manifests.get? id).map fun manifest => {manifest with datasetId := id}

omit [Numeric R] in
theorem manifestUnder_congr {document document' : DocumentState R}
    (same : document'.manifests.get? id = document.manifests.get? id) : manifestUnder document' id = manifestUnder document id := by
  unfold manifestUnder
  rw [same]

omit [Numeric R] in
theorem of_manifestUnder {document document' : DocumentState R} (same : manifestUnder document' id = manifestUnder document id)
    (found : document'.manifests.get? id = some manifest) :
    ∃ before, document.manifests.get? id = some before ∧ {before with datasetId := id} = {manifest with datasetId := id} := by
  unfold manifestUnder at same
  rw [found,Option.map_some] at same
  exact Option.map_eq_some_iff.mp same.symm

omit [Numeric R] in
theorem manifestUnder_removeDataset (document : DocumentState R) {removed : DatasetId} (other : id ≠ removed) :
    manifestUnder (document.removeDataset removed) id = manifestUnder document id := by
  unfold manifestUnder
  rw [DocumentState.removeDataset_eq]
  dsimp only
  rw [IndexMap.get?_mapEntries,IndexMap.get?_erase,if_neg other,Option.map_map]
  rfl

theorem derive_manifestUnder (document document' : DocumentState R) (id : DatasetId) :
    (document'.manifests.get? id).map (derive document id) = (manifestUnder document' id).map (derive document id) := by
  unfold manifestUnder
  rw [Option.map_map]
  rfl

structure Untouched (scene after : Scene R K) (id : DatasetId) : Prop where
  derived : after.derived.lookup id = scene.derived.lookup id
  manifest : manifestUnder after.document id = manifestUnder scene.document id
  registered : after.document.registeredLayouts.lookup id = scene.document.registeredLayouts.lookup id
  active : after.document.activeLayoutIds.lookup id = scene.document.activeLayoutIds.lookup id

theorem PlacedAt.frame (placed : scene.PlacedAt id) (same : Untouched scene after id) : after.PlacedAt id := by
  unfold PlacedAt at *
  rw [same.derived,placed,derive_manifestUnder,derive_manifestUnder,same.manifest,derive_congr same.registered same.active]

omit [Numeric R] in
theorem Local.untouched (stays : Local scene after) (id : DatasetId) : Untouched scene after id := by
  constructor
  · rw [stays.derived]
  · rw [stays.document]
  · rw [stays.document]
  · rw [stays.document]

theorem applyDocument_derived (scene : Scene R K) (command : DocumentCommand R) :
    (scene.applyDocument command).derived = match command with
      | .datasetOpened event => scene.derived.insert event.manifest.datasetId
          (derive scene.document event.manifest.datasetId event.manifest)
      | .removeDataset id => scene.derived.erase id
      | .setActiveLayout id layoutId => ((scene.document.manifests.get? id).map fun manifest =>
          scene.derived.insert id (derive (scene.document.setActiveLayout id layoutId) id manifest)).getD scene.derived
      | _ => scene.derived := by
  cases command with
  | setActiveLayout id layoutId =>
    have manifests : (scene.document.apply (.setActiveLayout id layoutId)).manifests = scene.document.manifests :=
      DocumentState.apply_manifests _ _
    simp only [applyDocument,manifests]
    split
    · rename_i missing
      rw [missing]
      rfl
    · rename_i manifest found
      rw [found]
      rfl
  | _ => rfl

def target : DocumentCommand R → DatasetId
  | .datasetOpened event => event.manifest.datasetId
  | .removeDataset id | .renameDataset id _ | .registerLayout id _ | .setActiveLayout id _
  | .applyAssetCatalogDelta id _ | .addAnnotationPin id .. | .removeAnnotationPin id _ | .moveAnnotationPin id .. | .addComment id ..
  | .removeComment id .. | .editComment id .. => id

theorem applyDocument_elsewhere {command : DocumentCommand R} (other : id ≠ target command) :
    Untouched scene (scene.applyDocument command) id := by
  constructor
  · rw [applyDocument_derived]
    cases command with
    | datasetOpened event => exact Finmap.lookup_insert_of_ne _ other
    | removeDataset removed => exact Finmap.lookup_erase_ne other
    | setActiveLayout shown layoutId =>
      cases found : scene.document.manifests.get? shown with
      | none => simp [found]
      | some manifest =>
        simp only [found,Option.map_some,Option.getD_some]
        exact Finmap.lookup_insert_of_ne _ other
    | _ => rfl
  · rw [applyDocument_document]
    cases command with
    | datasetOpened event =>
      refine manifestUnder_congr ?_
      rw [DocumentState.apply_manifests]
      exact (IndexMap.get?_insert _ _ _ _).trans (if_neg other)
    | removeDataset removed => exact manifestUnder_removeDataset scene.document other
    | renameDataset renamed name =>
      refine manifestUnder_congr ?_
      rw [DocumentState.apply_manifests]
      exact (IndexMap.get?_modify _ _ _ _).trans (if_neg other)
    | _ =>
      refine manifestUnder_congr ?_
      rw [DocumentState.apply_manifests]
  · rw [applyDocument_document,DocumentState.apply_registeredLayouts]
    cases command with
    | removeDataset removed => exact Finmap.lookup_erase_ne other
    | registerLayout registered layout => exact (lookup_registerLayout _ _ _ _).trans (if_neg other)
    | _ => rfl
  · rw [applyDocument_document,DocumentState.apply_activeLayoutIds]
    cases command with
    | removeDataset removed => exact Finmap.lookup_erase_ne other
    | setActiveLayout shown layoutId => exact Finmap.lookup_insert_of_ne _ other
    | _ => rfl

theorem datasetOpened_placed (scene : Scene R K) (event : DatasetOpened R) :
    (scene.applyDocument (.datasetOpened event)).PlacedAt event.manifest.datasetId := by
  unfold PlacedAt
  rw [applyDocument_derived,applyDocument_document,DocumentState.apply_manifests]
  dsimp only
  rw [Finmap.lookup_insert,IndexMap.get?_insert,if_pos rfl]
  rfl

theorem removeDataset_placed (scene : Scene R K) (id : DatasetId) :
    (scene.applyDocument (.removeDataset id)).PlacedAt id := by
  unfold PlacedAt
  rw [applyDocument_derived,applyDocument_document,DocumentState.apply_manifests]
  dsimp only
  rw [Finmap.lookup_erase,IndexMap.get?_mapEntries,IndexMap.get?_erase,if_pos rfl]
  rfl

-- The name is no part of the placement.
theorem renameDataset_placed (placed : scene.PlacedAt id) (name : String) :
    (scene.applyDocument (.renameDataset id name)).PlacedAt id := by
  unfold PlacedAt
  rw [applyDocument_derived,applyDocument_document,DocumentState.apply_manifests]
  dsimp only
  rw [IndexMap.get?_modify,if_pos rfl,Option.map_map]
  exact placed

theorem setActiveLayout_placed (placed : scene.PlacedAt id) (layoutId : LayoutId) :
    (scene.applyDocument (.setActiveLayout id layoutId)).PlacedAt id := by
  unfold PlacedAt
  rw [applyDocument_derived,applyDocument_document,DocumentState.apply_manifests]
  dsimp only
  cases shown : scene.document.manifests.get? id with
  | none => simpa [PlacedAt,shown] using placed
  | some manifest => exact Finmap.lookup_insert _

-- The registration leaves the derived state as it was, so it stays right exactly
-- when the document resolves as before.
theorem registerLayout_placed (placed : scene.PlacedAt id) (layout : LayoutSpec R) :
    (scene.applyDocument (.registerLayout id layout)).PlacedAt id ↔
      ∀ manifest, ¬ Awaited scene.document id layout manifest := by
  unfold PlacedAt
  rw [applyDocument_derived,applyDocument_document,DocumentState.apply_manifests]
  dsimp only
  rw [placed]
  cases shown : scene.document.manifests.get? id with
  | none =>
    refine iff_of_true rfl ?_
    intro manifest awaited
    cases shown.symm.trans awaited.shown
  | some manifest =>
    constructor
    · intro same other awaited
      cases shown.symm.trans awaited.shown
      have layouts := congrArg DatasetDerivedState.activeLayout (Option.some.inj same)
      exact awaited_resolves awaited layouts.symm
    · intro idle
      have same := unawaited_resolves shown (idle manifest)
      exact congrArg (fun layout => some (buildDerivedState manifest layout)) same.symm

-- A step of a scene's history, and the condition on it: no layout is registered
-- while its dataset waits for it.
inductive Update (R : Type) where
  | apply (command : Command R)
  | loadDocument (document : DocumentState R)

def Timely (document : DocumentState R) : Update R → Prop
  | .apply (.document (.registerLayout id layout)) => ∀ manifest, ¬ Awaited document id layout manifest
  | _ => True

theorem applyDocument_placed (placed : scene.Placed) {command : DocumentCommand R}
    (timely : Timely scene.document (.apply (.document command))) : (scene.applyDocument command).Placed := by
  intro id
  by_cases own : id = target command
  · subst own
    cases command with
    | datasetOpened event => exact datasetOpened_placed scene event
    | removeDataset id => exact removeDataset_placed scene id
    | renameDataset id name => exact renameDataset_placed (placed id) name
    | setActiveLayout id layoutId => exact setActiveLayout_placed (placed id) layoutId
    | registerLayout id layout => exact (registerLayout_placed (placed id) layout).mpr timely
    | removeAnnotationPin id pin =>
      obtain ⟨manifests,registered,active,_⟩ := DocumentState.removeAnnotationPin_frame scene.document id pin
      exact (placed id).frame ⟨rfl,manifestUnder_congr (congrArg (·.get? id) manifests),congrArg (·.lookup id) registered,
        congrArg (·.lookup id) active⟩
    | _ => exact placed _
  · exact (placed id).frame (applyDocument_elsewhere own)

variable [BEq R] [BEq K] [CameraModel R K]

def take (scene : Scene R K) : Update R → Scene R K
  | .apply command => scene.apply command
  | .loadDocument document => scene.loadDocument document

theorem take_placed (placed : scene.Placed) {update : Update R} (timely : Timely scene.document update) :
    (scene.take update).Placed := by
  cases update with
  | apply command =>
    cases command with
    | document command => exact applyDocument_placed placed timely
    | viewport command => exact fun id => (placed id).frame ((applyViewport_local scene command).untouched id)
  | loadDocument document =>
    intro id
    unfold PlacedAt
    rw [take,loadDocument_derived,loadDocument_document]

theorem run_placed {viewport : Nat × Nat}
    (path : Runs (fun before update after => Timely before.document update ∧ after = take before update)
      (Scene.new K viewport) updates scene) : scene.Placed := by
  apply path.preserves (P := Placed)
  · intro before update after placed taken
    rw [taken.2]
    exact take_placed placed taken.1
  · intro id
    rfl

theorem derived_follows_document {viewport : Nat × Nat}
    (path : Runs (fun before update after => Timely before.document update ∧ after = take before update)
      (Scene.new K viewport) updates scene) :
    (∀ id, id ∈ scene.derived ↔ id ∈ scene.document.manifests.keys) ∧
      (∀ id manifest, scene.document.manifests.get? id = some manifest → scene.derived.lookup id =
        some (buildDerivedState manifest (resolveLayout manifest (scene.document.registeredLayouts.lookup id)
          (scene.document.activeLayoutIds.lookup id)))) ∧
      (∀ other : Scene R K, (other.loadDocument scene.document).derived = scene.derived) ∧
      ∀ id layout, (scene.take (.apply (.document (.registerLayout id layout)))).Placed ↔
        Timely scene.document (.apply (.document (.registerLayout id layout))) := by
  have placed := run_placed path
  refine ⟨?_,?_,?_,?_⟩
  · intro id
    rw [IndexMap.mem_keys_iff,← Finmap.lookup_isSome,placed id,Option.isSome_map,Option.isSome_iff_exists]
  · intro id manifest shown
    rw [placed id,shown]
    rfl
  · intro other
    apply Finmap.ext_lookup
    intro id
    rw [loadDocument_derived,placed id]
  · intro id layout
    constructor
    · intro kept
      exact (registerLayout_placed (placed id) layout).mp (kept id)
    · exact take_placed placed

def plate : DatasetManifest Int :=
  ⟨"plate","Plate",.collection,[⟨"well",.tile,none⟩],[],[⟨"image","well",⟨[],[],.uint8⟩⟩],
    [⟨"grid","Grid",[⟨"well",(0,0)⟩]⟩],none,[]⟩

def spread : LayoutSpec Int := ⟨"spread","Spread",[⟨"well",(10,20)⟩]⟩

def registersFirst : List (Update Int) :=
  [.apply (.document (.datasetOpened ⟨plate,.proxied ["image"],⟨[]⟩⟩)),
    .apply (.document (.registerLayout "plate" spread)),
    .apply (.document (.setActiveLayout "plate" "spread"))]

def selectsFirst : List (Update Int) :=
  [.apply (.document (.datasetOpened ⟨plate,.proxied ["image"],⟨[]⟩⟩)),
    .apply (.document (.setActiveLayout "plate" "spread")),
    .apply (.document (.registerLayout "plate" spread))]

def positions (scene : Scene Int FixedCamera) : Option (List (Int × Int)) :=
  (scene.derived.lookup "plate").map fun derived => derived.members.map (·.position)

theorem derived_follows_a_registered_layout :
    ∃ scene : Scene Int FixedCamera,
      Runs (fun before update after => Timely before.document update ∧ after = take before update)
        (Scene.new FixedCamera (800,600)) registersFirst scene ∧
      scene.derived.lookup "plate" = some (buildDerivedState plate (resolveLayout plate (some [spread]) (some "spread"))) ∧
      positions scene = some [(10,20)] := by
  have path : ∃ scene : Scene Int FixedCamera,
      Runs (fun before update after => Timely before.document update ∧ after = take before update)
        (Scene.new FixedCamera (800,600)) registersFirst scene ∧ positions scene = some [(10,20)] ∧
        scene.document.manifests.get? "plate" = some plate ∧
        scene.document.registeredLayouts.lookup "plate" = some [spread] ∧
        scene.document.activeLayoutIds.lookup "plate" = some "spread" := by
    refine ⟨_,.cons ⟨trivial,rfl⟩ (.cons ⟨?_,rfl⟩ (.one ⟨trivial,rfl⟩)),rfl,rfl,rfl,rfl⟩
    intro manifest awaited
    exact absurd awaited.active (by decide)
  obtain ⟨scene,path,placed,shown,registered,active⟩ := path
  have follows := (derived_follows_document path).2.1 "plate" plate shown
  rw [registered,active] at follows
  exact ⟨scene,path,follows,placed⟩

-- The selected layout arrives after its selection: the scene stays in the grid
-- and whoever loads its document sees the plate spread out.
theorem late_registration_misplaces :
    ∃ scene : Scene Int FixedCamera,
      Runs (fun before update after => after = take before update) (Scene.new FixedCamera (800,600)) selectsFirst scene ∧
      scene.document.manifests.get? "plate" = some plate ∧
      scene.derived.lookup "plate" ≠ some (buildDerivedState plate (resolveLayout plate
        (scene.document.registeredLayouts.lookup "plate") (scene.document.activeLayoutIds.lookup "plate"))) ∧
      positions scene = some [(0,0)] ∧
      positions ((Scene.new FixedCamera (800,600)).loadDocument scene.document) = some [(10,20)] := by
  refine ⟨_,.cons rfl (.cons rfl (.one rfl)),rfl,?_,rfl,rfl⟩
  intro same
  have layouts := congrArg (fun derived => derived.map (·.activeLayout.id)) same
  revert layouts
  decide

end Scene
end Lucida.Core
