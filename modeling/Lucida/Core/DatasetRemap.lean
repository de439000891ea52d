import Lucida.Lib.Renaming
import Lucida.Core.DocumentInvariant

namespace Lucida.Core
open Content Lib

def SavedView.ids (view : SavedView) : List DatasetId :=
  view.activeLayouts.keys ++ view.datasetOrder ++ view.datasetSettings.keys ++ view.autoContrast.keys

namespace DocumentState
variable {R : Type}

-- The ids of a document: the keys of its maps, the id a manifest carries, and those of the pins' views.
inductive Uses (doc : DocumentState R) : DatasetId → Prop where
  | manifest {id : DatasetId} : id ∈ doc.manifests.keys → Uses doc id
  | own {key : DatasetId} {manifest : DatasetManifest R} : doc.manifests.get? key = some manifest → Uses doc manifest.datasetId
  | layouts {id : DatasetId} : (doc.registeredLayouts.lookup id).isSome → Uses doc id
  | active {id : DatasetId} : (doc.activeLayoutIds.lookup id).isSome → Uses doc id
  | catalog {id : DatasetId} : id ∈ doc.assetCatalogs.keys → Uses doc id
  | annotations {id : DatasetId} : id ∈ doc.annotations.keys → Uses doc id
  | view {key id : DatasetId} {pins : List (AnnotationPin R)} {pin : AnnotationPin R} {view : SavedView} :
      doc.annotations.get? key = some pins → pin ∈ pins → pin.view = some view → id ∈ view.ids → Uses doc id

end DocumentState

-- No id becomes this one.
def Untargeted (remap : HashMap DatasetId DatasetId) (id : DatasetId) : Prop := ∀ old, remap.lookup old ≠ some id

structure Renames {R : Type} (remap : HashMap DatasetId DatasetId) (doc : DocumentState R) : Prop where
  injective : ∀ first second new, remap.lookup first = some new → remap.lookup second = some new → first = second
  fresh : ∀ id, doc.Uses id → Untargeted remap id

def Inverse (remap inverse : HashMap DatasetId DatasetId) : Prop := ∀ old new, inverse.lookup new = some old ↔ remap.lookup old = some new

def DocumentCommand.remapDatasetIds {R : Type} (remap : HashMap DatasetId DatasetId) : DocumentCommand R → DocumentCommand R
  | .datasetOpened event => .datasetOpened {event with manifest := {event.manifest with datasetId := mappedId remap event.manifest.datasetId}}
  | .removeDataset id => .removeDataset (mappedId remap id)
  | .renameDataset id name => .renameDataset (mappedId remap id) name
  | .registerLayout datasetId layout => .registerLayout (mappedId remap datasetId) layout
  | .setActiveLayout datasetId layoutId => .setActiveLayout (mappedId remap datasetId) layoutId
  | .applyAssetCatalogDelta datasetId delta => .applyAssetCatalogDelta (mappedId remap datasetId) delta
  | .addAnnotationPin datasetId id position endpoint z t c author kind view =>
    .addAnnotationPin (mappedId remap datasetId) id position endpoint z t c author kind (view.map (SavedView.remapDatasetIds remap))
  | .removeAnnotationPin datasetId id => .removeAnnotationPin (mappedId remap datasetId) id
  | .moveAnnotationPin datasetId id position endpoint z => .moveAnnotationPin (mappedId remap datasetId) id position endpoint z
  | .addComment datasetId annotationId id author text => .addComment (mappedId remap datasetId) annotationId id author text
  | .removeComment datasetId annotationId id => .removeComment (mappedId remap datasetId) annotationId id
  | .editComment datasetId annotationId id text => .editComment (mappedId remap datasetId) annotationId id text

def DocumentCommand.datasetId {R : Type} : DocumentCommand R → DatasetId
  | .datasetOpened event => event.manifest.datasetId
  | .removeDataset id | .renameDataset id _ => id
  | .registerLayout datasetId _ | .setActiveLayout datasetId _ | .applyAssetCatalogDelta datasetId _ => datasetId
  | .addAnnotationPin datasetId .. | .removeAnnotationPin datasetId _ | .moveAnnotationPin datasetId .. => datasetId
  | .addComment datasetId .. | .removeComment datasetId .. | .editComment datasetId .. => datasetId

section Mapped
variable {remap inverse : HashMap DatasetId DatasetId}

theorem mappedId_injOn (injective : ∀ first second new, remap.lookup first = some new → remap.lookup second = some new → first = second) :
    Set.InjOn (mappedId remap) {id | Untargeted remap id} := by
  intro a free b free' same
  unfold mappedId at same
  cases left : remap.lookup a with
  | none =>
    cases right : remap.lookup b with
    | none => simpa [left,right] using same
    | some new => exact absurd (right.trans (by simpa [left,right] using congrArg some same.symm)) (free b)
  | some new =>
    cases right : remap.lookup b with
    | none => exact absurd (left.trans (by simpa [left,right] using congrArg some same)) (free' a)
    | some new' =>
      have equal : new = new' := by simpa [left,right] using same
      exact injective a b new left (equal ▸ right)

theorem mappedId_back (inverts : Inverse remap inverse) {id : DatasetId} (free : Untargeted remap id) : mappedId inverse (mappedId remap id) = id := by
  unfold mappedId
  cases moved : remap.lookup id with
  | none =>
    cases held : inverse.lookup id with
    | none => simp [held]
    | some old => exact absurd ((inverts old id).mp held) (free old)
  | some new => simp [(inverts id new).mpr moved]

end Mapped

namespace SavedView
variable {remap inverse : HashMap DatasetId DatasetId} {view : SavedView}

theorem remap_back (inverts : Inverse remap inverse) (free : ∀ id ∈ view.ids, Untargeted remap id) :
    (view.remapDatasetIds remap).remapDatasetIds inverse = view := by
  have back : ∀ id ∈ view.ids, mappedId inverse (mappedId remap id) = id := fun id member => mappedId_back inverts (free id member)
  have restored : ∀ {V : Type} (m : IndexMap DatasetId V), (∀ id ∈ m.keys, id ∈ view.ids) →
      (m.rekey (fun id => some (mappedId remap id)) fun _ value => value).rekey (fun id => some (mappedId inverse id)) (fun _ value => value) = m := by
    intro V m listed
    apply IndexMap.ext_entries
    rw [IndexMap.entries_rekey_back fun id member => back id (listed id member)]
    exact List.map_id'' (fun _ => rfl) _
  have order : (view.datasetOrder.map (mappedId remap)).map (mappedId inverse) = view.datasetOrder := by
    rw [List.map_map]
    refine (List.map_congr_left fun id member => ?_).trans (List.map_id _)
    exact back id (by simp [ids,member])
  have layouts := restored view.activeLayouts fun id member => by simp [ids,member]
  have settings := restored view.datasetSettings fun id member => by simp [ids,member]
  have contrast := restored view.autoContrast fun id member => by simp [ids,member]
  unfold remapDatasetIds
  simp only [order,layouts,settings,contrast]

theorem ids_remap (injective : Set.InjOn (mappedId remap) {id | id ∈ view.ids}) : (view.remapDatasetIds remap).ids = view.ids.map (mappedId remap) := by
  have keys : ∀ {V : Type} (m : IndexMap DatasetId V), (∀ id ∈ m.keys, id ∈ view.ids) →
      (m.rekey (fun id => some (mappedId remap id)) fun _ value => value).keys = m.keys.map (mappedId remap) := fun m listed =>
    IndexMap.keys_rekey (injective.mono fun id member => listed id member) _
  have layouts := keys view.activeLayouts fun id member => by simp [ids,member]
  have settings := keys view.datasetSettings fun id member => by simp [ids,member]
  have contrast := keys view.autoContrast fun id member => by simp [ids,member]
  unfold ids at *
  simp only [List.map_append,← layouts,← settings,← contrast]
  rfl

end SavedView

section
variable {R : Type} {doc : DocumentState R} {remap : HashMap DatasetId DatasetId}

-- The keys of a map of the document, and the id of a command that names no target, stay apart.
theorem Renames.apart (renames : Renames remap doc) {p : DatasetId → Prop} (used : ∀ id, p id → doc.Uses id) {target : DatasetId}
    (free : Untargeted remap target) : Set.InjOn (mappedId remap) {id | p id ∨ id = target} := by
  refine (mappedId_injOn renames.injective).mono ?_
  rintro id (there | rfl)
  · exact renames.fresh id (used id there)
  · exact free

theorem Renames.apart_keys (renames : Renames remap doc) {p : DatasetId → Prop} (used : ∀ id, p id → doc.Uses id) :
    Set.InjOn (mappedId remap) {id | p id} :=
  (mappedId_injOn renames.injective).mono fun id there => renames.fresh id (used id there)

end

namespace DocumentState
variable {R : Type} {doc : DocumentState R} {remap inverse : HashMap DatasetId DatasetId}

theorem ext_fields {after : DocumentState R} (manifests : doc.manifests = after.manifests) (layouts : doc.registeredLayouts = after.registeredLayouts)
    (active : doc.activeLayoutIds = after.activeLayoutIds) (catalogs : doc.assetCatalogs = after.assetCatalogs)
    (annotations : doc.annotations = after.annotations) : doc = after := by
  cases doc
  cases after
  simp_all

def remapPin (remap : HashMap DatasetId DatasetId) (pin : AnnotationPin R) : AnnotationPin R :=
  {pin with view := pin.view.map fun view => (view.remapDatasetIds remap).clearSourceUrls}

theorem remapPin_reanchor [Numeric R] (manifest : DatasetManifest R) (fromLayout toLayout : LayoutSpec R) (pin : AnnotationPin R) :
    remapPin remap (reanchor manifest fromLayout toLayout pin) = reanchor manifest fromLayout toLayout (remapPin remap pin) := by
  have anchor : (remapPin remap pin).anchor = pin.anchor := rfl
  unfold reanchor
  simp only [anchor]
  split <;> rfl

section Commutes
variable (renames : Renames remap doc) {id : DatasetId} (free : Untargeted remap id)
include renames free

theorem manifest_remapped : (doc.remapDatasetIds remap).manifests.get? (mappedId remap id) =
    (doc.manifests.get? id).map fun manifest => {manifest with datasetId := mappedId remap id} :=
  IndexMap.get?_rekey (renames.apart (fun _ => .manifest) free) _

theorem layouts_remapped : (doc.remapDatasetIds remap).registeredLayouts.lookup (mappedId remap id) = doc.registeredLayouts.lookup id :=
  HashMap.lookup_rekey (renames.apart (fun _ => .layouts) free)

theorem active_remapped : (doc.remapDatasetIds remap).activeLayoutIds.lookup (mappedId remap id) = doc.activeLayoutIds.lookup id :=
  HashMap.lookup_rekey (renames.apart (fun _ => .active) free)

theorem annotations_remapped : (doc.remapDatasetIds remap).annotations.get? (mappedId remap id) =
    (doc.annotations.get? id).map (List.map (remapPin remap)) :=
  IndexMap.get?_rekey (renames.apart (fun _ => .annotations) free) _

theorem remap_modifyAnnotations {f f' : List (AnnotationPin R) → List (AnnotationPin R)}
    (through : ∀ pins, (f pins).map (remapPin remap) = f' (pins.map (remapPin remap))) :
    ({doc with annotations := doc.annotations.modify id f} : DocumentState R).remapDatasetIds remap =
      {doc.remapDatasetIds remap with annotations := (doc.remapDatasetIds remap).annotations.modify (mappedId remap id) f'} := by
  refine ext_fields rfl rfl rfl rfl ?_
  exact IndexMap.rekey_modify (renames.apart (fun _ => .annotations) free) through

theorem remap_modifyPin {pinId : String} {f : AnnotationPin R → AnnotationPin R} (through : ∀ pin, remapPin remap (f pin) = f (remapPin remap pin)) :
    (doc.modifyAnnotationPin id pinId f).remapDatasetIds remap = (doc.remapDatasetIds remap).modifyAnnotationPin (mappedId remap id) pinId f :=
  remap_modifyAnnotations renames free fun pins => by
    have same : updateFirst (·.id = pinId) f (pins.map (remapPin remap)) = (updateFirst (·.id = pinId) f pins).map (remapPin remap) :=
      updateFirst_map (fun _ => rfl) through
    exact same.symm

theorem remap_removeDataset : (doc.removeDataset id).remapDatasetIds remap = (doc.remapDatasetIds remap).removeDataset (mappedId remap id) := by
  let under : DatasetId → DatasetManifest R → DatasetManifest R := fun id manifest => {manifest with datasetId := id}
  have manifests := IndexMap.rekey_erase (renames.apart (fun _ => .manifest) free) under
  have own : (doc.remapDatasetIds remap).manifests.mapEntries under = (doc.remapDatasetIds remap).manifests :=
    IndexMap.mapEntries_rekey (g := under) fun _ _ => rfl
  rw [removeDataset_eq,removeDataset_eq]
  refine ext_fields ?_ (HashMap.rekey_erase (renames.apart (fun _ => .layouts) free)) (HashMap.rekey_erase (renames.apart (fun _ => .active) free))
    (IndexMap.rekey_erase (renames.apart (fun _ => .catalog) free) fun _ catalog => catalog)
    (IndexMap.rekey_erase (renames.apart (fun _ => .annotations) free) fun _ pins => pins.map (remapPin remap))
  calc ((doc.manifests.erase id).mapEntries under).rekey (fun id => some (mappedId remap id)) under
      = (doc.manifests.erase id).rekey (fun id => some (mappedId remap id)) under :=
        IndexMap.rekey_mapEntries (h := under) fun _ _ _ => rfl
    _ = (doc.remapDatasetIds remap).manifests.erase (mappedId remap id) := manifests
    _ = ((doc.remapDatasetIds remap).manifests.mapEntries under).erase (mappedId remap id) := by rw [own]
    _ = ((doc.remapDatasetIds remap).manifests.erase (mappedId remap id)).mapEntries under := IndexMap.erase_mapEntries _ _ _

theorem remap_renameDataset (name : String) :
    (doc.renameDataset id name).remapDatasetIds remap = (doc.remapDatasetIds remap).renameDataset (mappedId remap id) name :=
  ext_fields (IndexMap.rekey_modify (g := fun id (manifest : DatasetManifest R) => {manifest with datasetId := id})
    (u := fun manifest => {manifest with name}) (w := fun manifest => {manifest with name}) (renames.apart (fun _ => .manifest) free) fun _ => rfl)
    rfl rfl rfl rfl

theorem remap_registerLayout (layout : LayoutSpec R) :
    (doc.registerLayout id layout).remapDatasetIds remap = (doc.remapDatasetIds remap).registerLayout (mappedId remap id) layout := by
  refine ext_fields rfl ?_ rfl rfl rfl
  unfold registerLayout
  rw [layouts_remapped renames free]
  exact HashMap.rekey_insert (renames.apart (fun _ => .layouts) free) _

theorem remap_applyAssetCatalogDelta (delta : AssetCatalogDelta) :
    (doc.applyAssetCatalogDelta id delta).remapDatasetIds remap = (doc.remapDatasetIds remap).applyAssetCatalogDelta (mappedId remap id) delta := by
  refine ext_fields rfl rfl rfl ?_ rfl
  refine IndexMap.rekey_upsert (g := fun _ catalog => catalog) (u := fun catalog => (catalog.getD ⟨[]⟩).applyDelta delta)
    (w := fun catalog => (catalog.getD ⟨[]⟩).applyDelta delta) (renames.apart (fun _ => .catalog) free) ?_
  cases doc.assetCatalogs.get? id <;> rfl

theorem remap_removeAnnotationPin (pinId : String) :
    (doc.removeAnnotationPin id pinId).remapDatasetIds remap = (doc.remapDatasetIds remap).removeAnnotationPin (mappedId remap id) pinId := by
  have looked := annotations_remapped renames free
  unfold removeAnnotationPin
  rw [looked]
  cases doc.annotations.get? id with
  | none => rfl
  | some pins =>
    have kept : (pins.map (remapPin remap)).filter (·.id ≠ pinId) = (pins.filter (·.id ≠ pinId)).map (remapPin remap) := by
      rw [List.filter_map]
      rfl
    simp only [Option.map_some,kept,List.isEmpty_map]
    refine ext_fields rfl rfl rfl rfl ?_
    split
    · exact IndexMap.rekey_erase (renames.apart (fun _ => .annotations) free) _
    · exact IndexMap.rekey_insert (renames.apart (fun _ => .annotations) free) _ _

theorem resolvedLayout_remapped (manifest : DatasetManifest R) (own : DatasetId) :
    (doc.remapDatasetIds remap).resolvedLayout {manifest with datasetId := own} (mappedId remap id) = doc.resolvedLayout manifest id := by
  unfold resolvedLayout
  rw [layouts_remapped renames free,active_remapped renames free]
  rfl

theorem remap_addAnnotationPin (pin : AnnotationPin R) :
    (doc.addAnnotationPin id pin).remapDatasetIds remap = (doc.remapDatasetIds remap).addAnnotationPin (mappedId remap id) (remapPin remap pin) := by
  refine ext_fields rfl rfl rfl rfl ?_
  refine IndexMap.rekey_upsert (g := fun _ pins => pins.map (remapPin remap))
    (u := fun pins => upsertFirst (·.id = pin.id) (fun existing => {pin with comments := existing.comments}) pin (pins.getD []))
    (w := fun pins => upsertFirst (·.id = pin.id) (fun existing => {remapPin remap pin with comments := existing.comments}) (remapPin remap pin) (pins.getD []))
    (renames.apart (fun _ => .annotations) free) ?_
  have pins : ((doc.annotations.get? id).map (List.map (remapPin remap))).getD [] = ((doc.annotations.get? id).getD []).map (remapPin remap) := by
    cases doc.annotations.get? id <;> rfl
  rw [pins]
  have same : upsertFirst (·.id = pin.id) (fun existing => {remapPin remap pin with comments := existing.comments}) (remapPin remap pin)
      (((doc.annotations.get? id).getD []).map (remapPin remap)) =
      (upsertFirst (·.id = pin.id) (fun existing => {pin with comments := existing.comments}) pin ((doc.annotations.get? id).getD [])).map (remapPin remap) := by
    refine upsertFirst_map (fun _ => ?_) (fun _ => ?_) pin
    · rfl
    · rfl
  exact same.symm

variable [Numeric R]

theorem remap_datasetOpened {event : DatasetOpened R} (own : event.manifest.datasetId = id) :
    (doc.apply (.datasetOpened event)).remapDatasetIds remap =
      (doc.remapDatasetIds remap).apply (.datasetOpened {event with manifest := {event.manifest with datasetId := mappedId remap event.manifest.datasetId}}) := by
  subst own
  refine ext_fields ?_ rfl rfl ?_ rfl
  · exact IndexMap.rekey_insert (renames.apart (fun _ => .manifest) free) (fun id manifest => {manifest with datasetId := id}) event.manifest
  · exact IndexMap.rekey_insert (renames.apart (fun _ => .catalog) free) (fun _ catalog => catalog) event.catalog

theorem nearestAnchor_remapped (position : R × R) :
    (doc.remapDatasetIds remap).nearestAnchor (mappedId remap id) position = doc.nearestAnchor id position := by
  unfold nearestAnchor
  rw [manifest_remapped renames free]
  cases doc.manifests.get? id with
  | none => rfl
  | some manifest =>
    simp only [Option.map_some,resolvedLayout_remapped renames free]
    rfl

theorem remap_reanchor (fromId : Option LayoutId) (toId : LayoutId) :
    (doc.reanchorForLayout id fromId toId).remapDatasetIds remap = (doc.remapDatasetIds remap).reanchorForLayout (mappedId remap id) fromId toId := by
  unfold reanchorForLayout
  rw [manifest_remapped renames free,layouts_remapped renames free]
  cases doc.manifests.get? id with
  | none => rfl
  | some manifest =>
    simp only [Option.map_some]
    split
    · rfl
    · refine remap_modifyAnnotations renames free fun pins => ?_
      have anchors : (pins.map (remapPin remap)).all (·.anchor.isNone) = pins.all (·.anchor.isNone) := by
        rw [List.all_map]
        rfl
      rw [anchors]
      split
      · rfl
      · rw [List.map_map,List.map_map]
        exact List.map_congr_left fun pin _ => remapPin_reanchor manifest _ _ pin

theorem remap_apply {command : DocumentCommand R} (own : command.datasetId = id) :
    (doc.apply command).remapDatasetIds remap = (doc.remapDatasetIds remap).apply (command.remapDatasetIds remap) := by
  subst own
  cases command with
  | datasetOpened event => exact remap_datasetOpened renames free rfl
  | removeDataset id => exact remap_removeDataset renames free
  | renameDataset id name => exact remap_renameDataset renames free name
  | registerLayout datasetId layout => exact remap_registerLayout renames free layout
  | setActiveLayout datasetId layoutId =>
    replace free : Untargeted remap datasetId := free
    have frame := reanchor_frame doc datasetId (doc.activeLayoutIds.lookup datasetId) layoutId
    simp only [apply,DocumentCommand.remapDatasetIds,setActiveLayout]
    rw [active_remapped renames free,← remap_reanchor renames free (doc.activeLayoutIds.lookup datasetId) layoutId]
    refine ext_fields rfl rfl ?_ rfl rfl
    have switched := HashMap.rekey_insert (renames.apart (fun _ => .active) free) layoutId
    rw [← frame.2.2.1] at switched
    exact switched
  | applyAssetCatalogDelta datasetId delta => exact remap_applyAssetCatalogDelta renames free delta
  | addAnnotationPin datasetId pinId position endpoint z t c author kind view =>
    replace free : Untargeted remap datasetId := free
    simp only [apply,DocumentCommand.remapDatasetIds]
    rw [remap_addAnnotationPin renames free,nearestAnchor_remapped renames free position]
    unfold remapPin
    cases view <;> rfl
  | removeAnnotationPin datasetId pinId => exact remap_removeAnnotationPin renames free pinId
  | moveAnnotationPin datasetId pinId position endpoint z =>
    refine remap_modifyPin renames free fun pin => ?_
    cases endpoint <;> rfl
  | addComment datasetId annotationId commentId author text => exact remap_modifyPin renames free fun _ => rfl
  | removeComment datasetId annotationId commentId => exact remap_modifyPin renames free fun _ => rfl
  | editComment datasetId annotationId commentId text => exact remap_modifyPin renames free fun _ => rfl

end Commutes

theorem uses_remapped (renames : Renames remap doc) {id : DatasetId} (used : (doc.remapDatasetIds remap).Uses id) :
    ∃ old, doc.Uses old ∧ mappedId remap old = id := by
  cases used with
  | manifest there =>
    have listed := IndexMap.keys_rekey (renames.apart_keys fun _ => .manifest) (fun id (manifest : DatasetManifest R) => {manifest with datasetId := id}) ▸ there
    obtain ⟨old,member,same⟩ := List.mem_map.mp listed
    exact ⟨old,.manifest member,same⟩
  | own there =>
    obtain ⟨old,value,found,moved,same⟩ := IndexMap.of_get?_rekey there
    subst same
    exact ⟨old,.manifest (IndexMap.mem_keys_iff.mpr ⟨value,found⟩),Option.some.inj moved⟩
  | layouts there =>
    obtain ⟨value,found⟩ := Option.isSome_iff_exists.mp there
    obtain ⟨old,same,held⟩ := (HashMap.lookup_rekey_iff (renames.apart_keys fun _ => .layouts)).mp found
    exact ⟨old,.layouts (by rw [held]; rfl),same⟩
  | active there =>
    obtain ⟨value,found⟩ := Option.isSome_iff_exists.mp there
    obtain ⟨old,same,held⟩ := (HashMap.lookup_rekey_iff (renames.apart_keys fun _ => .active)).mp found
    exact ⟨old,.active (by rw [held]; rfl),same⟩
  | catalog there =>
    have listed := IndexMap.keys_rekey (renames.apart_keys fun _ => .catalog) (fun _ (catalog : AssetCatalog) => catalog) ▸ there
    obtain ⟨old,member,same⟩ := List.mem_map.mp listed
    exact ⟨old,.catalog member,same⟩
  | annotations there =>
    have listed := IndexMap.keys_rekey (renames.apart_keys fun _ => .annotations) (fun _ pins => pins.map (remapPin remap)) ▸ there
    obtain ⟨old,member,same⟩ := List.mem_map.mp listed
    exact ⟨old,.annotations member,same⟩
  | view there member shown listed =>
    obtain ⟨old,pins,found,_,rfl⟩ := IndexMap.of_get?_rekey there
    obtain ⟨pin,inside,rfl⟩ := List.mem_map.mp member
    obtain ⟨view,held,rfl⟩ := Option.map_eq_some_iff.mp shown
    have ids : id ∈ (view.remapDatasetIds remap).ids := listed
    rw [view.ids_remap (renames.apart_keys fun _ => .view found inside held)] at ids
    obtain ⟨before,among,same⟩ := List.mem_map.mp ids
    exact ⟨before,.view found inside held among,same⟩

theorem old_ids_gone (renames : Renames remap doc) {id : DatasetId} (used : doc.Uses id) (moved : (remap.lookup id).isSome) :
    ¬ (doc.remapDatasetIds remap).Uses id := by
  intro still
  obtain ⟨old,before,same⟩ := uses_remapped renames still
  unfold mappedId at same
  cases held : remap.lookup old with
  | none =>
    have own : old = id := by simpa [held] using same
    rw [← own,held] at moved
    cases moved
  | some new =>
    rw [held] at same
    cases same
    exact renames.fresh _ used old held

structure Relabelled (remap : HashMap DatasetId DatasetId) (doc renamed : DocumentState R) : Prop where
  manifests : renamed.manifests.entries = doc.manifests.entries.map fun e => (mappedId remap e.1,{e.2 with datasetId := mappedId remap e.1})
  layouts : ∀ id value, renamed.registeredLayouts.lookup id = some value ↔ ∃ old, mappedId remap old = id ∧ doc.registeredLayouts.lookup old = some value
  active : ∀ id value, renamed.activeLayoutIds.lookup id = some value ↔ ∃ old, mappedId remap old = id ∧ doc.activeLayoutIds.lookup old = some value
  catalogs : renamed.assetCatalogs.entries = doc.assetCatalogs.entries.map fun e => (mappedId remap e.1,e.2)
  annotations : renamed.annotations.entries = doc.annotations.entries.map fun e => (mappedId remap e.1,e.2.map fun pin =>
    {pin with view := pin.view.map fun view => (view.remapDatasetIds remap).clearSourceUrls})
  views : ∀ e ∈ doc.annotations.entries, ∀ pin ∈ e.2, ∀ view ∈ pin.view,
    (view.remapDatasetIds remap).activeLayouts.entries = view.activeLayouts.entries.map (fun e => (mappedId remap e.1,e.2)) ∧
      (view.remapDatasetIds remap).datasetOrder = view.datasetOrder.map (mappedId remap) ∧
      (view.remapDatasetIds remap).datasetSettings.entries = view.datasetSettings.entries.map (fun e => (mappedId remap e.1,e.2)) ∧
      (view.remapDatasetIds remap).autoContrast.entries = view.autoContrast.entries.map fun e => (mappedId remap e.1,e.2)

theorem remap_relabels (renames : Renames remap doc) : Relabelled remap doc (doc.remapDatasetIds remap) where
  manifests := IndexMap.entries_rekey (renames.apart_keys fun _ => .manifest) _
  layouts id value := HashMap.lookup_rekey_iff (renames.apart_keys fun _ => .layouts)
  active id value := HashMap.lookup_rekey_iff (renames.apart_keys fun _ => .active)
  catalogs := IndexMap.entries_rekey (renames.apart_keys fun _ => .catalog) fun _ catalog => catalog
  annotations := IndexMap.entries_rekey (renames.apart_keys fun _ => .annotations) fun _ pins => pins.map (remapPin remap)
  views e member pin inside view held := by
    have found : doc.annotations.get? e.1 = some e.2 := IndexMap.mem_entries_iff.mp member
    have apart : Set.InjOn (mappedId remap) {id | id ∈ view.ids} := renames.apart_keys fun _ => .view found inside held
    refine ⟨IndexMap.entries_rekey (apart.mono fun id listed => ?_) fun _ layout => layout,rfl,
      IndexMap.entries_rekey (apart.mono fun id listed => ?_) fun _ settings => settings,IndexMap.entries_rekey (apart.mono fun id listed => ?_) fun _ flag => flag⟩
    all_goals
      replace listed : id ∈ IndexMap.keys _ := listed
      simp [SavedView.ids,listed]

def withoutSources (doc : DocumentState R) : DocumentState R :=
  {doc with annotations := doc.annotations.mapEntries fun _ pins => pins.map fun pin => {pin with view := pin.view.map SavedView.clearSourceUrls}}

theorem remapPin_back (inverts : Inverse remap inverse) {pin : AnnotationPin R} (free : ∀ view ∈ pin.view, ∀ id ∈ view.ids, Untargeted remap id) :
    remapPin inverse (remapPin remap pin) = {pin with view := pin.view.map SavedView.clearSourceUrls} := by
  unfold remapPin
  cases held : pin.view with
  | none => simp
  | some view =>
    have back := SavedView.remap_back inverts (free view held)
    have cleared : ((view.remapDatasetIds remap).clearSourceUrls.remapDatasetIds inverse).clearSourceUrls =
        ((view.remapDatasetIds remap).remapDatasetIds inverse).clearSourceUrls := rfl
    simp only [Option.map_some,cleared,back]

theorem remap_back (renames : Renames remap doc) (inverts : Inverse remap inverse) :
    (doc.remapDatasetIds remap).remapDatasetIds inverse =
      {doc.withoutSources with manifests := doc.manifests.mapEntries fun id manifest => {manifest with datasetId := id}} := by
  have back : ∀ {p : DatasetId → Prop}, (∀ id, p id → doc.Uses id) → ∀ id, p id → mappedId inverse (mappedId remap id) = id :=
    fun used id there => mappedId_back inverts (renames.fresh id (used id there))
  refine ext_fields ?_ (HashMap.rekey_back (back fun _ => .layouts)) (HashMap.rekey_back (back fun _ => .active)) ?_ ?_
  · apply IndexMap.ext_entries
    exact IndexMap.entries_rekey_back (back fun _ => .manifest) (fun id (manifest : DatasetManifest R) => {manifest with datasetId := id})
      fun id manifest => {manifest with datasetId := id}
  · apply IndexMap.ext_entries
    refine (IndexMap.entries_rekey_back (back fun _ => .catalog) (fun _ catalog => catalog) fun _ catalog => catalog).trans ?_
    exact List.map_id'' (fun _ => rfl) _
  · apply IndexMap.ext_entries
    refine (IndexMap.entries_rekey_back (back fun _ => .annotations) (fun _ pins => pins.map (remapPin remap)) fun _ pins => pins.map (remapPin inverse)).trans ?_
    refine List.map_congr_left fun e member => ?_
    have found : doc.annotations.get? e.1 = some e.2 := IndexMap.mem_entries_iff.mp member
    rw [List.map_map]
    refine congrArg (e.1,·) (List.map_congr_left fun pin inside => ?_)
    exact remapPin_back inverts fun view held id listed => renames.fresh id (.view found inside held listed)

-- Where every manifest carries its key, the change back leaves only the source URLs behind.
theorem remap_back_keyed (renames : Renames remap doc) (inverts : Inverse remap inverse)
    (keyed : ∀ id manifest, doc.manifests.get? id = some manifest → manifest.datasetId = id) :
    (doc.remapDatasetIds remap).remapDatasetIds inverse = doc.withoutSources := by
  rw [remap_back renames inverts]
  refine ext_fields ?_ rfl rfl rfl rfl
  apply IndexMap.ext_entries
  refine (List.map_congr_left fun e member => ?_).trans (List.map_id _)
  have own := keyed e.1 e.2 (IndexMap.mem_entries_iff.mp member)
  refine Prod.ext rfl ?_
  rw [← own]
  rfl

end DocumentState

-- A change of ids to others that the document does not have loses, merges and moves nothing and
-- leaves none of the old ids; commands that name none of the new ids go with it; and the change
-- back restores the document.
theorem dataset_ids_are_renamed {R : Type} [Numeric R] {doc : DocumentState R} {remap : HashMap DatasetId DatasetId} (renames : Renames remap doc) :
    DocumentState.Relabelled remap doc (doc.remapDatasetIds remap) ∧
    (∀ id, doc.Uses id → (remap.lookup id).isSome → ¬ (doc.remapDatasetIds remap).Uses id) ∧
    (∀ command : DocumentCommand R, Untargeted remap command.datasetId →
      (doc.apply command).remapDatasetIds remap = (doc.remapDatasetIds remap).apply (command.remapDatasetIds remap)) ∧
    ∀ inverse, Inverse remap inverse →
      (doc.remapDatasetIds remap).remapDatasetIds inverse =
        {doc.withoutSources with manifests := doc.manifests.mapEntries fun id manifest => {manifest with datasetId := id}} ∧
      ((∀ id manifest, doc.manifests.get? id = some manifest → manifest.datasetId = id) →
        (doc.remapDatasetIds remap).remapDatasetIds inverse = doc.withoutSources) :=
  ⟨DocumentState.remap_relabels renames,fun _ used moved => DocumentState.old_ids_gone renames used moved,
    fun _ free => DocumentState.remap_apply renames free rfl,
    fun _ inverts => ⟨DocumentState.remap_back renames inverts,DocumentState.remap_back_keyed renames inverts⟩⟩

-- A dataset with a pin that shows it, as a workspace copies it.
def copiedManifest : DatasetManifest Int := ⟨"a","A",.collection,[],[],[],[⟨"grid","Grid",[]⟩],none,[]⟩

def copiedView : SavedView := ⟨[],.ofList [("a","grid")],["a"],.ofList [("a","dim")],.ofList [("a",true)]⟩

def copied : DocumentState Int :=
  ((DocumentState.default Int).apply (.datasetOpened ⟨copiedManifest,.proxied [],⟨[]⟩⟩)).apply
    (.addAnnotationPin "a" "p" (0,0) none 0 0 0 "ann" .point (some copiedView))

def asB : HashMap DatasetId DatasetId := .singleton "a" "b"

theorem asB_lookup {old new : DatasetId} (moved : asB.lookup old = some new) : old = "a" ∧ new = "b" := by
  by_cases own : old = "a"
  · subst own
    have held : asB.lookup "a" = some "b" := Finmap.lookup_singleton_eq
    exact ⟨rfl,(Option.some.inj (held.symm.trans moved)).symm⟩
  · have absent : asB.lookup old = none := Finmap.lookup_eq_none.mpr (by simpa [asB] using own)
    cases absent.symm.trans moved

theorem copied_uses {id : DatasetId} (used : copied.Uses id) : id = "a" := by
  have manifests : copied.manifests.entries = [("a",copiedManifest)] := rfl
  have pins : copied.annotations.entries = [("a",[⟨"p",(0,0),0,0,0,"ann",.point,none,[],none,some copiedView⟩])] := rfl
  cases used with
  | manifest there => exact List.mem_singleton.mp there
  | own there =>
    have listed := IndexMap.mem_entries_iff.mpr there
    rw [manifests,List.mem_singleton] at listed
    cases listed
    rfl
  | layouts there => cases there
  | active there => cases there
  | catalog there => exact List.mem_singleton.mp there
  | annotations there => exact List.mem_singleton.mp there
  | view there member shown listed =>
    have held := IndexMap.mem_entries_iff.mpr there
    rw [pins,List.mem_singleton] at held
    cases held
    cases List.mem_singleton.mp member
    cases shown
    have ids : copiedView.ids = ["a","a","a","a"] := rfl
    rw [ids] at listed
    simpa using listed

theorem copied_renames : Renames asB copied := by
  refine ⟨?_,?_⟩
  · intro first second new left right
    exact (asB_lookup left).1.trans (asB_lookup right).1.symm
  · intro id used old moved
    have fresh := (asB_lookup moved).2
    rw [copied_uses used] at fresh
    exact absurd fresh (by decide)

theorem dataset_ids_are_renamed_in_a_copy :
    let command : DocumentCommand Int := .addComment "a" "p" "k" "ann" "here"
    ((copied.apply command).remapDatasetIds asB = (copied.remapDatasetIds asB).apply (.addComment "b" "p" "k" "ann" "here")) ∧
      (copied.remapDatasetIds asB).annotations.keys = ["b"] := by
  intro command
  refine ⟨(dataset_ids_are_renamed copied_renames).2.2.1 command ?_,by decide⟩
  intro old moved
  exact absurd (asB_lookup moved).2 (by decide)

theorem command_to_a_new_id_does_not_commute :
    ∃ (doc : DocumentState Int) (remap : HashMap DatasetId DatasetId) (command : DocumentCommand Int), Renames remap doc ∧
      (doc.apply command).remapDatasetIds remap ≠ (doc.remapDatasetIds remap).apply (command.remapDatasetIds remap) := by
  refine ⟨copied,asB,.renameDataset "b" "B",copied_renames,fun same => ?_⟩
  have names := congrArg (fun doc : DocumentState Int => doc.manifests.values.map DatasetManifest.name) same
  revert names
  decide

end Lucida.Core
