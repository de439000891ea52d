import Lucida.Core.FirstMatch

namespace Lucida.Core
open Content Lib

-- What a move relies on of the arithmetic of coordinates. Rounding keeps neither law.
class Exact (R : Type) [Numeric R] : Prop where
  sub_self : ∀ x : R, x-x = 0
  add_zero : ∀ x : R, x+0 = x

instance : Exact Int := ⟨Int.sub_self,Int.add_zero⟩

namespace AnnotationPin
variable {R : Type}

theorem addComment_twice (pin : AnnotationPin R) (comment : Comment) :
    (pin.addComment comment).addComment comment = pin.addComment comment := by
  have settled : upsertBy Comment.id comment (upsertBy Comment.id comment pin.comments) =
      upsertBy Comment.id comment pin.comments := upsertBy_twice comment pin.comments
  exact congrArg (fun comments => {pin with comments}) settled

theorem removeComment_twice (pin : AnnotationPin R) (id : String) :
    (pin.removeComment id).removeComment id = pin.removeComment id := by
  simp only [removeComment,List.filter_filter,Bool.and_self]

theorem editComment_twice (pin : AnnotationPin R) (id text : String) :
    (pin.editComment id text).editComment id text = pin.editComment id text := by
  simp only [editComment]
  rw [updateFirst_twice]
  · exact fun comment hit => hit
  · exact fun comment _ => rfl

theorem setVertices_twice (pin : AnnotationPin R) (position vertex : R × R) (z : R) :
    (pin.setVertices position vertex z).setVertices position vertex z = pin.setVertices position vertex z := by
  simp only [setVertices,Option.map_map,Function.comp_def]

-- The second time the anchor is where it goes to, so the far vertex moves by nothing.
theorem setPosition_twice [Numeric R] [Exact R] (pin : AnnotationPin R) (position : R × R) (z : R) :
    (pin.setPosition position z).setPosition position z = pin.setPosition position z := by
  simp only [setPosition,translate,Exact.sub_self,Exact.add_zero,Option.map_map,Function.comp_def]

end AnnotationPin

namespace DocumentState
variable {R : Type}

theorem modifyAnnotationPin_twice (doc : DocumentState R) (datasetId : DatasetId) (id : String)
    {f : AnnotationPin R → AnnotationPin R} (kept : ∀ pin, (f pin).id = pin.id) (settled : ∀ pin, f (f pin) = f pin) :
    (doc.modifyAnnotationPin datasetId id f).modifyAnnotationPin datasetId id f = doc.modifyAnnotationPin datasetId id f := by
  simp only [modifyAnnotationPin]
  rw [IndexMap.modify_twice]
  intro pins _
  refine updateFirst_twice (fun pin hit => ?_) fun pin _ => settled pin
  rwa [kept]

theorem removeAnnotationPin_twice (doc : DocumentState R) (datasetId : DatasetId) (id : String) :
    (doc.removeAnnotationPin datasetId id).removeAnnotationPin datasetId id = doc.removeAnnotationPin datasetId id := by
  cases found : doc.annotations.get? datasetId with
  | none =>
    have unchanged : doc.removeAnnotationPin datasetId id = doc := by simp only [removeAnnotationPin,found]
    rw [unchanged,unchanged]
  | some pins =>
    by_cases empty : (pins.filter (·.id ≠ id)).isEmpty
    · have dropped : doc.removeAnnotationPin datasetId id = {doc with annotations := doc.annotations.erase datasetId} := by
        simp only [removeAnnotationPin,found]
        rw [if_pos empty]
      have missing : (doc.annotations.erase datasetId).get? datasetId = none := by simp
      rw [dropped]
      simp only [removeAnnotationPin,missing]
    · have kept : doc.removeAnnotationPin datasetId id =
          {doc with annotations := doc.annotations.insert datasetId (pins.filter (·.id ≠ id))} := by
        simp only [removeAnnotationPin,found]
        rw [if_neg empty]
      have there : (doc.annotations.insert datasetId (pins.filter (·.id ≠ id))).get? datasetId =
          some (pins.filter (·.id ≠ id)) := by simp
      rw [kept]
      simp only [removeAnnotationPin,there,List.filter_filter,Bool.and_self]
      rw [if_neg empty,IndexMap.insert_insert]

theorem addAnnotationPin_twice (doc : DocumentState R) (datasetId : DatasetId) (pin : AnnotationPin R) :
    (doc.addAnnotationPin datasetId pin).addAnnotationPin datasetId pin = doc.addAnnotationPin datasetId pin := by
  simp only [addAnnotationPin]
  rw [IndexMap.upsert_twice]
  refine upsertFirst_twice (decide_eq_true rfl) rfl (fun _ _ => decide_eq_true rfl) fun _ _ => rfl

theorem registerLayout_twice (doc : DocumentState R) (datasetId : DatasetId) (layout : LayoutSpec R) :
    (doc.registerLayout datasetId layout).registerLayout datasetId layout = doc.registerLayout datasetId layout := by
  simp only [registerLayout,Finmap.lookup_insert,Option.getD_some,Finmap.insert_insert]
  congr 2
  split
  · rfl
  · rw [if_pos (by simp)]

theorem removeDataset_twice (doc : DocumentState R) (id : DatasetId) :
    (doc.removeDataset id).removeDataset id = doc.removeDataset id := by
  have forgotten : ∀ {V : Type} (map : HashMap DatasetId V), (map.erase id).erase id = map.erase id := by
    intro V map
    refine Finmap.ext_lookup fun other => ?_
    simp only [HashMap.lookup_erase_if]
    split <;> rfl
  have kept := IndexMap.mapEntries_twice (f := fun id (manifest : DatasetManifest R) => {manifest with datasetId := id})
    (fun _ _ => rfl) (doc.manifests.erase id)
  simp only [removeDataset_eq,IndexMap.erase_mapEntries,IndexMap.erase_erase,forgotten,kept]

theorem renameDataset_twice (doc : DocumentState R) (id : DatasetId) (name : String) :
    (doc.renameDataset id name).renameDataset id name = doc.renameDataset id name := by
  simp only [renameDataset]
  rw [IndexMap.modify_twice]
  exact fun _ _ => rfl

variable [Numeric R]

-- The layout that is active already is nowhere to move the pins from.
theorem setActiveLayout_twice (doc : DocumentState R) (datasetId : DatasetId) (layoutId : LayoutId) :
    (doc.setActiveLayout datasetId layoutId).setActiveLayout datasetId layoutId = doc.setActiveLayout datasetId layoutId := by
  have active : (doc.setActiveLayout datasetId layoutId).activeLayoutIds.lookup datasetId = some layoutId := by
    simp only [setActiveLayout,Finmap.lookup_insert]
  have still : ∀ settled : DocumentState R, settled.reanchorForLayout datasetId (some layoutId) layoutId = settled := by
    intro settled
    unfold reanchorForLayout
    split
    · rfl
    · rw [if_pos rfl]
  generalize again : doc.setActiveLayout datasetId layoutId = after at active
  have inserted : after.activeLayoutIds.insert datasetId layoutId = after.activeLayoutIds := by
    rw [← again]
    simp only [setActiveLayout,Finmap.insert_insert]
  simp only [setActiveLayout,active,still,inserted]

theorem moveAnnotationPin_twice [Exact R] (doc : DocumentState R) (datasetId : DatasetId) (id : String) (position : R × R)
    (endpoint : Option (R × R)) (z : R) :
    (doc.moveAnnotationPin datasetId id position endpoint z).moveAnnotationPin datasetId id position endpoint z =
      doc.moveAnnotationPin datasetId id position endpoint z := by
  unfold moveAnnotationPin
  refine modifyAnnotationPin_twice doc datasetId id (fun pin => ?_) fun pin => ?_
  · cases endpoint <;> rfl
  · cases endpoint with
    | none => exact pin.setPosition_twice position z
    | some vertex => exact pin.setVertices_twice position vertex z

theorem nearestAnchor_addAnnotationPin (doc : DocumentState R) (datasetId : DatasetId) (pin : AnnotationPin R)
    (position : R × R) : (doc.addAnnotationPin datasetId pin).nearestAnchor datasetId position = doc.nearestAnchor datasetId position :=
  rfl

theorem command_replay_is_idempotent [Exact R] (doc : DocumentState R) (command : DocumentCommand R)
    (other : ∀ datasetId delta, command ≠ .applyAssetCatalogDelta datasetId delta) :
    (doc.apply command).apply command = doc.apply command := by
  cases command with
  | datasetOpened event => simp only [apply,registerDataset,IndexMap.insert_insert]
  | removeDataset id => exact doc.removeDataset_twice id
  | renameDataset id name => exact doc.renameDataset_twice id name
  | registerLayout datasetId layout => exact doc.registerLayout_twice datasetId layout
  | setActiveLayout datasetId layoutId => exact doc.setActiveLayout_twice datasetId layoutId
  | applyAssetCatalogDelta datasetId delta => exact absurd rfl (other datasetId delta)
  | addAnnotationPin datasetId id position endpoint z t c author kind view =>
    simp only [apply,nearestAnchor_addAnnotationPin]
    exact doc.addAnnotationPin_twice datasetId _
  | removeAnnotationPin datasetId id => exact doc.removeAnnotationPin_twice datasetId id
  | moveAnnotationPin datasetId id position endpoint z => exact doc.moveAnnotationPin_twice datasetId id position endpoint z
  | addComment datasetId annotationId id author text =>
    exact doc.modifyAnnotationPin_twice datasetId annotationId (fun _ => rfl) fun pin => pin.addComment_twice ⟨id,author,text⟩
  | removeComment datasetId annotationId id =>
    exact doc.modifyAnnotationPin_twice datasetId annotationId (fun _ => rfl) fun pin => pin.removeComment_twice id
  | editComment datasetId annotationId id text =>
    exact doc.modifyAnnotationPin_twice datasetId annotationId (fun _ => rfl) fun pin => pin.editComment_twice id text

theorem command_replay_of_a_dragged_line :
    let line : DocumentCommand Int := .addAnnotationPin "d" "p" (0,0) (some (3,4)) 0 0 0 "ann" .line none
    let drag : DocumentCommand Int := .moveAnnotationPin "d" "p" (10,10) none 0
    let doc := (default Int).apply line
    ((doc.apply drag).annotations.get? "d").map (List.map AnnotationPin.endpoint) = some [some (13,14)] ∧
      (doc.apply drag).apply drag = doc.apply drag :=
  ⟨by decide,command_replay_is_idempotent _ _ (by rintro _ _ ⟨⟩)⟩

end DocumentState
end Lucida.Core
