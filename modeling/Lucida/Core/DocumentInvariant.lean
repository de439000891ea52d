import Lucida.Lib.Runs
import Lucida.Core.FirstMatch

namespace Lucida.Core
open Content Lib

-- `mapped`: an id the map does not have stays as it is.
def mappedId (remap : HashMap DatasetId DatasetId) (id : DatasetId) : DatasetId := (remap.lookup id).getD id

def SavedView.remapDatasetIds (remap : HashMap DatasetId DatasetId) (view : SavedView) : SavedView :=
  {view with
    activeLayouts := view.activeLayouts.rekey (fun id => some (mappedId remap id)) fun _ layout => layout
    datasetOrder := view.datasetOrder.map (mappedId remap)
    datasetSettings := view.datasetSettings.rekey (fun id => some (mappedId remap id)) fun _ settings => settings
    autoContrast := view.autoContrast.rekey (fun id => some (mappedId remap id)) fun _ flag => flag}

namespace DocumentState
variable {R : Type}

def remapDatasetIds (doc : DocumentState R) (remap : HashMap DatasetId DatasetId) : DocumentState R :=
  doc.rekeyDatasetIds (fun id => some (mappedId remap id)) fun pins => pins.map fun pin =>
    {pin with view := pin.view.map fun view => (view.remapDatasetIds remap).clearSourceUrls}

end DocumentState

inductive DocumentStep (R : Type) where
  | command (command : DocumentCommand R)
  | remap (remap : HashMap DatasetId DatasetId)

def DocumentState.next {R : Type} [Numeric R] (doc : DocumentState R) : DocumentStep R → DocumentState R
  | .command command => doc.apply command
  | .remap remap => doc.remapDatasetIds remap

def DocumentState.Takes {R : Type} [Numeric R] (doc : DocumentState R) (step : DocumentStep R) (after : DocumentState R) : Prop :=
  after = doc.next step

def DocumentCommand.Adds {R : Type} : DocumentCommand R → Prop
  | .addAnnotationPin .. | .addComment .. => True
  | _ => False

namespace AnnotationPin
variable {R : Type}

structure Sound (pin : AnnotationPin R) : Prop where
  comments : (pin.comments.map Comment.id).Nodup
  view : ∀ view ∈ pin.view, view.datasets = []

structure Carries (old pin : AnnotationPin R) : Prop where
  id : pin.id = old.id
  comments : ∀ id ∈ pin.comments.map Comment.id, id ∈ old.comments.map Comment.id

theorem Carries.refl (pin : AnnotationPin R) : Carries pin pin := ⟨rfl,fun _ member => member⟩

theorem addComment_sound {pin : AnnotationPin R} (sound : pin.Sound) (comment : Comment) : (pin.addComment comment).Sound :=
  ⟨nodup_upsertFirst (fun _ => rfl) (fun _ hit => (of_decide_eq_true hit).symm) sound.comments,sound.view⟩

theorem removeComment_sound {pin : AnnotationPin R} (sound : pin.Sound) (id : String) : (pin.removeComment id).Sound :=
  ⟨sound.comments.sublist (List.filter_sublist.map _),sound.view⟩

theorem removeComment_carries (pin : AnnotationPin R) (id : String) : pin.Carries (pin.removeComment id) :=
  ⟨rfl,fun _ member => (List.filter_sublist.map _).subset member⟩

theorem editComment_ids (pin : AnnotationPin R) (id text : String) :
    (pin.editComment id text).comments.map Comment.id = pin.comments.map Comment.id := map_updateFirst fun _ _ => rfl

theorem editComment_sound {pin : AnnotationPin R} (sound : pin.Sound) (id text : String) : (pin.editComment id text).Sound :=
  ⟨pin.editComment_ids id text ▸ sound.comments,sound.view⟩

theorem editComment_carries (pin : AnnotationPin R) (id text : String) : pin.Carries (pin.editComment id text) :=
  ⟨rfl,fun _ member => pin.editComment_ids id text ▸ member⟩

structure Moved (old pin : AnnotationPin R) : Prop where
  id : pin.id = old.id
  comments : pin.comments = old.comments
  view : pin.view = old.view

theorem Moved.sound {old pin : AnnotationPin R} (moved : old.Moved pin) (sound : old.Sound) : pin.Sound :=
  ⟨moved.comments ▸ sound.comments,moved.view ▸ sound.view⟩

theorem Moved.carries {old pin : AnnotationPin R} (moved : old.Moved pin) : old.Carries pin :=
  ⟨moved.id,fun _ member => moved.comments ▸ member⟩

end AnnotationPin

namespace DocumentState
variable {R : Type}

structure SoundPins (pins : List (AnnotationPin R)) : Prop where
  some : pins ≠ []
  ids : (pins.map AnnotationPin.id).Nodup
  each : ∀ pin ∈ pins, pin.Sound

structure WellFormed (doc : DocumentState R) : Prop where
  keyed : ∀ id manifest, doc.manifests.get? id = some manifest → manifest.datasetId = id
  pins : ∀ id pins, doc.annotations.get? id = some pins → SoundPins pins

def HoldsPin (doc : DocumentState R) (datasetId : DatasetId) (id : String) : Prop :=
  ∃ pins, doc.annotations.get? datasetId = some pins ∧ ∃ pin ∈ pins, pin.id = id

def HoldsComment (doc : DocumentState R) (datasetId : DatasetId) (annotationId id : String) : Prop :=
  ∃ pins, doc.annotations.get? datasetId = some pins ∧
    ∃ pin ∈ pins, pin.id = annotationId ∧ ∃ comment ∈ pin.comments, comment.id = id

def CarriesPins (old pins : List (AnnotationPin R)) : Prop := ∀ pin ∈ pins, ∃ before ∈ old, before.Carries pin

theorem CarriesPins.refl (pins : List (AnnotationPin R)) : CarriesPins pins pins := fun pin member => ⟨pin,member,.refl pin⟩

section Pins
variable {pins : List (AnnotationPin R)} {f : AnnotationPin R → AnnotationPin R} {p : AnnotationPin R → Bool}

theorem updateFirst_sound (valid : SoundPins pins) (kept : ∀ pin, (f pin).id = pin.id)
    (sound : ∀ pin, pin.Sound → (f pin).Sound) : SoundPins (updateFirst p f pins) where
  some empty := valid.some (List.map_eq_nil_iff.mp (by rw [← map_updateFirst fun pin _ => kept pin,empty]; rfl))
  ids := by
    rw [map_updateFirst fun pin _ => kept pin]
    exact valid.ids
  each pin member := by
    rcases mem_updateFirst member with old | ⟨before,found,_,rfl⟩
    · exact valid.each pin old
    · exact sound before (valid.each before found)

theorem updateFirst_carries (carried : ∀ pin : AnnotationPin R, pin.Carries (f pin)) : CarriesPins pins (updateFirst p f pins) := by
  intro pin member
  rcases mem_updateFirst member with old | ⟨before,found,_,rfl⟩
  · exact ⟨pin,old,.refl pin⟩
  · exact ⟨before,found,carried before⟩

theorem map_sound (valid : SoundPins pins) (kept : ∀ pin, (f pin).id = pin.id)
    (sound : ∀ pin, pin.Sound → (f pin).Sound) : SoundPins (pins.map f) where
  some empty := valid.some (List.map_eq_nil_iff.mp empty)
  ids := by
    rw [List.map_map,show AnnotationPin.id ∘ f = AnnotationPin.id from funext kept]
    exact valid.ids
  each pin member := by
    obtain ⟨before,found,rfl⟩ := List.mem_map.mp member
    exact sound before (valid.each before found)

end Pins

theorem default_wellFormed : (default R).WellFormed :=
  ⟨fun _ _ found => (by cases found),fun _ _ found => (by cases found)⟩

-- A new pin has no comments, and its view has lost its sources.
theorem addAnnotationPin_sound {doc : DocumentState R} (valid : doc.WellFormed) {pin : AnnotationPin R} (sound : pin.Sound)
    (found : (doc.addAnnotationPin datasetId pin).annotations.get? other = some pins) : SoundPins pins := by
  simp only [addAnnotationPin,IndexMap.get?_upsert] at found
  split at found
  · cases found
    have before : SoundPins ((doc.annotations.get? datasetId).getD []) ∨ (doc.annotations.get? datasetId).getD [] = [] := by
      cases stored : doc.annotations.get? datasetId with
      | none => exact .inr rfl
      | some old => exact .inl (valid.pins datasetId old stored)
    generalize (doc.annotations.get? datasetId).getD [] = old at before
    have ids : (old.map AnnotationPin.id).Nodup := by
      rcases before with valid | rfl
      · exact valid.ids
      · exact List.nodup_nil
    refine ⟨upsertFirst_ne_nil,nodup_upsertFirst (fun _ => rfl) (fun _ hit => (of_decide_eq_true hit).symm) ids,?_⟩
    intro kept member
    have each : ∀ pin ∈ old, pin.Sound := by
      rcases before with valid | rfl
      · exact valid.each
      · exact fun _ member => (by cases member)
    rcases mem_upsertFirst member with there | rfl | ⟨replaced,there,_,rfl⟩
    · exact each kept there
    · exact sound
    · exact ⟨(each replaced there).comments,sound.view⟩
  · exact valid.pins other pins found

theorem removeAnnotationPin_pins {doc : DocumentState R}
    (found : (doc.removeAnnotationPin datasetId pinId).annotations.get? other = some pins) :
    doc.annotations.get? other = some pins ∨ ∃ old, doc.annotations.get? other = some old ∧
      pins = old.filter (·.id ≠ pinId) ∧ pins ≠ [] := by
  unfold removeAnnotationPin at found
  split at found
  · exact .inl found
  · rename_i old stored
    dsimp only at found
    split at found
    · simp only [IndexMap.get?_erase] at found
      split at found
      · cases found
      · exact .inl found
    · rename_i nonempty
      simp only [IndexMap.get?_insert] at found
      split at found
      · rename_i same
        subst same
        cases found
        exact .inr ⟨old,stored,rfl,fun empty => nonempty (by rw [empty]; rfl)⟩
      · exact .inl found

theorem modifyAnnotationPin_pins {doc : DocumentState R}
    (found : (doc.modifyAnnotationPin datasetId pinId f).annotations.get? other = some pins) :
    doc.annotations.get? other = some pins ∨ ∃ old, doc.annotations.get? other = some old ∧
      pins = updateFirst (·.id = pinId) f old := by
  simp only [modifyAnnotationPin,IndexMap.get?_modify] at found
  split at found
  · rename_i same
    subst same
    obtain ⟨old,stored,rfl⟩ := Option.map_eq_some_iff.mp found
    exact .inr ⟨old,stored,rfl⟩
  · exact .inl found

theorem reanchor_moved [Numeric R] (manifest : DatasetManifest R) (fromLayout toLayout : LayoutSpec R) (pin : AnnotationPin R) :
    pin.Moved (reanchor manifest fromLayout toLayout pin) := by
  unfold reanchor
  dsimp only
  split <;> exact ⟨rfl,rfl,rfl⟩

theorem reanchorForLayout_pins [Numeric R] {doc : DocumentState R}
    (found : (doc.reanchorForLayout datasetId fromId toId).annotations.get? other = some pins) :
    doc.annotations.get? other = some pins ∨ ∃ old f, doc.annotations.get? other = some old ∧
      pins = old.map f ∧ ∀ pin : AnnotationPin R, pin.Moved (f pin) := by
  unfold reanchorForLayout at found
  split at found
  · exact .inl found
  · rename_i manifest _
    split at found
    · exact .inl found
    · simp only [IndexMap.get?_modify] at found
      split at found
      · rename_i same
        subst same
        obtain ⟨old,stored,rfl⟩ := Option.map_eq_some_iff.mp found
        split
        · exact .inl stored
        · exact .inr ⟨old,_,stored,rfl,reanchor_moved manifest _ _⟩
      · exact .inl found

variable [Numeric R]

theorem moveAnnotationPin_pins {doc : DocumentState R}
    (found : (doc.moveAnnotationPin datasetId pinId position endpoint z).annotations.get? other = some pins) :
    doc.annotations.get? other = some pins ∨ ∃ old f, doc.annotations.get? other = some old ∧
      pins = updateFirst (·.id = pinId) f old ∧ ∀ pin : AnnotationPin R, pin.Moved (f pin) := by
  rcases modifyAnnotationPin_pins found with same | ⟨old,stored,rfl⟩
  · exact .inl same
  · refine .inr ⟨old,_,stored,rfl,fun pin => ?_⟩
    cases endpoint <;> exact ⟨rfl,rfl,rfl⟩

theorem apply_keyed {doc : DocumentState R} (valid : doc.WellFormed) (command : DocumentCommand R)
    (found : (doc.apply command).manifests.get? key = some manifest) : manifest.datasetId = key := by
  rw [apply_manifests] at found
  cases command with
  | datasetOpened event =>
    simp only [IndexMap.get?_insert] at found
    split at found
    · rename_i same
      cases found
      exact same.symm
    · exact valid.keyed key manifest found
  | removeDataset removed =>
    dsimp only at found
    rw [IndexMap.get?_mapEntries] at found
    obtain ⟨_,_,rfl⟩ := Option.map_eq_some_iff.mp found
    rfl
  | renameDataset renamed name =>
    simp only [IndexMap.get?_modify] at found
    split at found
    · rename_i same
      subst same
      obtain ⟨old,stored,rfl⟩ := Option.map_eq_some_iff.mp found
      exact valid.keyed key old stored
    · exact valid.keyed key manifest found
  | _ => exact valid.keyed key manifest found

theorem apply_pins {doc : DocumentState R} (valid : doc.WellFormed) (command : DocumentCommand R)
    (found : (doc.apply command).annotations.get? key = some pins) : SoundPins pins := by
  have before := fun pins stored => valid.pins key pins stored
  cases command with
  | datasetOpened | renameDataset | registerLayout | applyAssetCatalogDelta => exact before pins found
  | removeDataset removed =>
    simp only [apply,removeDataset_eq,IndexMap.get?_erase] at found
    split at found
    · cases found
    · exact before pins found
  | setActiveLayout datasetId layoutId =>
    rcases reanchorForLayout_pins found with same | ⟨old,f,stored,rfl,moved⟩
    · exact before pins same
    · exact map_sound (before old stored) (fun pin => (moved pin).id) fun pin sound => (moved pin).sound sound
  | addAnnotationPin datasetId pinId position endpoint z t c author kind view =>
    refine addAnnotationPin_sound valid ?_ found
    refine ⟨List.nodup_nil,fun cleared member => ?_⟩
    obtain ⟨_,_,rfl⟩ := Option.map_eq_some_iff.mp member
    rfl
  | removeAnnotationPin datasetId pinId =>
    rcases removeAnnotationPin_pins found with same | ⟨old,stored,rfl,nonempty⟩
    · exact before pins same
    · have valid := before old stored
      exact ⟨nonempty,valid.ids.sublist (List.filter_sublist.map _),fun pin member =>
        valid.each pin (List.mem_of_mem_filter member)⟩
  | moveAnnotationPin datasetId pinId position endpoint z =>
    rcases moveAnnotationPin_pins found with same | ⟨old,f,stored,rfl,moved⟩
    · exact before pins same
    · exact updateFirst_sound (before old stored) (fun pin => (moved pin).id) fun pin sound => (moved pin).sound sound
  | addComment datasetId annotationId commentId author text =>
    rcases modifyAnnotationPin_pins found with same | ⟨old,stored,rfl⟩
    · exact before pins same
    · exact updateFirst_sound (before old stored) (fun _ => rfl) fun _ sound => AnnotationPin.addComment_sound sound _
  | removeComment datasetId annotationId commentId =>
    rcases modifyAnnotationPin_pins found with same | ⟨old,stored,rfl⟩
    · exact before pins same
    · exact updateFirst_sound (before old stored) (fun _ => rfl) fun _ sound => AnnotationPin.removeComment_sound sound _
  | editComment datasetId annotationId commentId text =>
    rcases modifyAnnotationPin_pins found with same | ⟨old,stored,rfl⟩
    · exact before pins same
    · exact updateFirst_sound (before old stored) (fun _ => rfl) fun _ sound => AnnotationPin.editComment_sound sound _ _

theorem apply_wellFormed {doc : DocumentState R} (valid : doc.WellFormed) (command : DocumentCommand R) :
    (doc.apply command).WellFormed :=
  ⟨fun _ _ found => apply_keyed valid command found,fun _ _ found => apply_pins valid command found⟩

omit [Numeric R] in
theorem remapDatasetIds_wellFormed {doc : DocumentState R} (valid : doc.WellFormed) (remap : HashMap DatasetId DatasetId) :
    (doc.remapDatasetIds remap).WellFormed where
  keyed id manifest found := by
    obtain ⟨_,_,_,_,rfl⟩ := IndexMap.of_get?_rekey found
    rfl
  pins id pins found := by
    obtain ⟨old,before,stored,_,rfl⟩ := IndexMap.of_get?_rekey found
    refine map_sound (valid.pins old before stored) (fun _ => rfl) fun pin sound => ⟨sound.comments,?_⟩
    intro cleared member
    obtain ⟨_,_,rfl⟩ := Option.map_eq_some_iff.mp member
    rfl

theorem next_wellFormed {doc : DocumentState R} (valid : doc.WellFormed) (step : DocumentStep R) : (doc.next step).WellFormed := by
  cases step with
  | command command => exact apply_wellFormed valid command
  | remap remap => exact remapDatasetIds_wellFormed valid remap

theorem takes_wellFormed (doc : DocumentState R) (step : DocumentStep R) (after : DocumentState R) (valid : doc.WellFormed)
    (taken : doc.Takes step after) : after.WellFormed := by
  obtain rfl := taken
  exact next_wellFormed valid step

theorem apply_carries {doc : DocumentState R} {command : DocumentCommand R} (adds : ¬ command.Adds)
    (found : (doc.apply command).annotations.get? key = some pins) :
    ∃ old, doc.annotations.get? key = some old ∧ CarriesPins old pins := by
  have unchanged : doc.annotations.get? key = some pins → ∃ old, doc.annotations.get? key = some old ∧ CarriesPins old pins :=
    fun same => ⟨pins,same,.refl pins⟩
  cases command with
  | datasetOpened | renameDataset | registerLayout | applyAssetCatalogDelta => exact unchanged found
  | addAnnotationPin | addComment => exact absurd trivial adds
  | removeDataset removed =>
    simp only [apply,removeDataset_eq,IndexMap.get?_erase] at found
    split at found
    · cases found
    · exact unchanged found
  | setActiveLayout datasetId layoutId =>
    rcases reanchorForLayout_pins found with same | ⟨old,f,stored,rfl,moved⟩
    · exact unchanged same
    · refine ⟨old,stored,fun pin member => ?_⟩
      obtain ⟨before,there,rfl⟩ := List.mem_map.mp member
      exact ⟨before,there,(moved before).carries⟩
  | removeAnnotationPin datasetId pinId =>
    rcases removeAnnotationPin_pins found with same | ⟨old,stored,rfl,_⟩
    · exact unchanged same
    · exact ⟨old,stored,fun pin member => ⟨pin,List.mem_of_mem_filter member,.refl pin⟩⟩
  | moveAnnotationPin datasetId pinId position endpoint z =>
    rcases moveAnnotationPin_pins found with same | ⟨old,f,stored,rfl,moved⟩
    · exact unchanged same
    · exact ⟨old,stored,updateFirst_carries fun pin => (moved pin).carries⟩
  | removeComment datasetId annotationId commentId =>
    rcases modifyAnnotationPin_pins found with same | ⟨old,stored,rfl⟩
    · exact unchanged same
    · exact ⟨old,stored,updateFirst_carries fun pin => pin.removeComment_carries commentId⟩
  | editComment datasetId annotationId commentId text =>
    rcases modifyAnnotationPin_pins found with same | ⟨old,stored,rfl⟩
    · exact unchanged same
    · exact ⟨old,stored,updateFirst_carries fun pin => pin.editComment_carries commentId text⟩

theorem document_keeps_its_invariant {doc : DocumentState R}
    (path : Runs DocumentState.Takes (default R) steps doc) :
    doc.WellFormed ∧ ∀ command : DocumentCommand R, ¬ command.Adds →
      (∀ datasetId id, (doc.apply command).HoldsPin datasetId id → doc.HoldsPin datasetId id) ∧
      ∀ datasetId annotationId id, (doc.apply command).HoldsComment datasetId annotationId id →
        doc.HoldsComment datasetId annotationId id := by
  refine ⟨path.preserves takes_wellFormed default_wellFormed,?_⟩
  intro command adds
  constructor
  · rintro datasetId id ⟨pins,found,pin,member,rfl⟩
    obtain ⟨old,stored,carried⟩ := apply_carries adds found
    obtain ⟨before,there,same⟩ := carried pin member
    exact ⟨old,stored,before,there,same.id.symm⟩
  · rintro datasetId annotationId id ⟨pins,found,pin,member,rfl,comment,spoken,rfl⟩
    obtain ⟨old,stored,carried⟩ := apply_carries adds found
    obtain ⟨before,there,same⟩ := carried pin member
    obtain ⟨earlier,said,equal⟩ := List.mem_map.mp (same.comments comment.id (List.mem_map.mpr ⟨comment,spoken,rfl⟩))
    exact ⟨old,stored,before,there,same.id.symm,earlier,said,equal⟩

theorem document_keeps_its_invariant_under_a_new_id :
    let added := ((default Int).next (.command (.addAnnotationPin "d" "p" (0,0) none 0 0 0 "ann" .point none))).next
      (.command (.addComment "d" "p" "k" "ann" "here"))
    let moved := added.next (.remap (.singleton "d" "e"))
    moved.HoldsComment "e" "p" "k" ∧ moved.WellFormed ∧
      ∀ id, (moved.apply (.removeComment "e" "p" "k")).HoldsPin "e" id → moved.HoldsPin "e" id := by
  intro added moved
  have path : Runs DocumentState.Takes (default Int) _ moved := .snoc (.snoc (.snoc .nil rfl) rfl) rfl
  have kept := document_keeps_its_invariant path
  refine ⟨⟨_,rfl,_,List.mem_cons_self,rfl,_,List.mem_cons_self,rfl⟩,kept.1,?_⟩
  exact (kept.2 (.removeComment "e" "p" "k") (fun adds => adds)).1 "e"

end DocumentState
end Lucida.Core
