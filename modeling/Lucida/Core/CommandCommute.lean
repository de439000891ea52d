import Lucida.Core.DatasetRemap

namespace Lucida.Core
open Content Lib

-- A command that gives no dataset an entry it did not have.
def DocumentCommand.Settled {R : Type} : DocumentCommand R → Prop
  | .datasetOpened _ | .applyAssetCatalogDelta .. | .addAnnotationPin .. => False
  | _ => True

def DocumentCommand.editedPin {R : Type} : DocumentCommand R → Option String
  | .moveAnnotationPin _ id .. | .addComment _ id .. | .removeComment _ id _ | .editComment _ id .. => some id
  | _ => none

def DocumentCommand.Commutes {R : Type} [Numeric R] (first second : DocumentCommand R) : Prop :=
  ∀ doc : DocumentState R, doc.WellFormed → (doc.apply first).apply second = (doc.apply second).apply first

namespace DocumentState
variable {R : Type}

structure Agree (doc doc' : DocumentState R) (id : DatasetId) : Prop where
  manifest : doc.manifests.get? id = doc'.manifests.get? id
  layouts : doc.registeredLayouts.lookup id = doc'.registeredLayouts.lookup id
  active : doc.activeLayoutIds.lookup id = doc'.activeLayoutIds.lookup id
  catalog : doc.assetCatalogs.get? id = doc'.assetCatalogs.get? id
  annotations : doc.annotations.get? id = doc'.annotations.get? id

structure Turns (doc after : DocumentState R) (id : DatasetId) : Prop where
  manifests : doc.manifests.Turns after.manifests id
  layouts : ∀ other, other ≠ id → after.registeredLayouts.lookup other = doc.registeredLayouts.lookup other
  active : ∀ other, other ≠ id → after.activeLayoutIds.lookup other = doc.activeLayoutIds.lookup other
  catalogs : doc.assetCatalogs.Turns after.assetCatalogs id
  annotations : doc.annotations.Turns after.annotations id

variable {doc doc' after : DocumentState R} {id other : DatasetId}

theorem Turns.agree (turns : doc.Turns after id) (apart : other ≠ id) : after.Agree doc other :=
  ⟨turns.manifests.other other apart,turns.layouts other apart,turns.active other apart,turns.catalogs.other other apart,
    turns.annotations.other other apart⟩

theorem turns_of_annotations {annotations : IndexMap DatasetId (List (AnnotationPin R))} (turns : doc.annotations.Turns annotations id) :
    doc.Turns {doc with annotations} id :=
  ⟨IndexMap.turns_refl _ _,fun _ _ => rfl,fun _ _ => rfl,IndexMap.turns_refl _ _,turns⟩

theorem removeDataset_manifests (valid : doc.WellFormed) (id : DatasetId) : (doc.removeDataset id).manifests = doc.manifests.erase id := by
  rw [removeDataset_eq]
  refine IndexMap.ext_get? (IndexMap.keys_mapEntries _ _) fun key => ?_
  rw [IndexMap.get?_mapEntries,IndexMap.get?_erase]
  split
  · rfl
  · cases found : doc.manifests.get? key with
    | none => rfl
    | some manifest =>
      rw [Option.map_some,← valid.keyed key manifest found]

theorem removeDataset_turns (valid : doc.WellFormed) (id : DatasetId) : doc.Turns (doc.removeDataset id) id := by
  refine ⟨?_,?_,?_,?_,?_⟩
  · rw [removeDataset_manifests valid]
    exact IndexMap.turns_erase _ _
  all_goals rw [removeDataset_eq]
  · exact fun other apart => (HashMap.lookup_erase_if _ _ _).trans (if_neg apart)
  · exact fun other apart => (HashMap.lookup_erase_if _ _ _).trans (if_neg apart)
  · exact IndexMap.turns_erase _ _
  · exact IndexMap.turns_erase _ _

theorem removeAnnotationPin_turns (doc : DocumentState R) (id : DatasetId) (pinId : String) :
    doc.Turns (doc.removeAnnotationPin id pinId) id := by
  unfold removeAnnotationPin
  split
  · exact turns_of_annotations (IndexMap.turns_refl _ _)
  · refine turns_of_annotations ?_
    split
    · exact IndexMap.turns_erase _ _
    · exact IndexMap.turns_insert _ _ _

section Apply
variable [Numeric R] {command first second : DocumentCommand R}

theorem reanchor_turns (doc : DocumentState R) (id : DatasetId) (fromId : Option LayoutId) (toId : LayoutId) :
    doc.Turns (doc.reanchorForLayout id fromId toId) id := by
  unfold reanchorForLayout
  split
  · exact turns_of_annotations (IndexMap.turns_refl _ _)
  · split
    · exact turns_of_annotations (IndexMap.turns_refl _ _)
    · exact turns_of_annotations (IndexMap.turns_modify _ _ _)

theorem apply_turns (valid : doc.WellFormed) (command : DocumentCommand R) : doc.Turns (doc.apply command) command.datasetId := by
  cases command with
  | datasetOpened event =>
    exact ⟨IndexMap.turns_insert _ _ _,fun _ _ => rfl,fun _ _ => rfl,IndexMap.turns_insert _ _ _,IndexMap.turns_refl _ _⟩
  | removeDataset id => exact removeDataset_turns valid id
  | renameDataset id name =>
    exact ⟨IndexMap.turns_modify doc.manifests id fun manifest => {manifest with name},fun _ _ => rfl,fun _ _ => rfl,
      IndexMap.turns_refl _ _,IndexMap.turns_refl _ _⟩
  | registerLayout datasetId layout =>
    exact ⟨IndexMap.turns_refl _ _,fun _ apart => (HashMap.lookup_insert_if _ _ _ _).trans (if_neg apart),fun _ _ => rfl,
      IndexMap.turns_refl _ _,IndexMap.turns_refl _ _⟩
  | setActiveLayout datasetId layoutId =>
    obtain ⟨manifests,layouts,active,catalogs,annotations⟩ := reanchor_turns doc datasetId (doc.activeLayoutIds.lookup datasetId) layoutId
    exact ⟨manifests,layouts,fun other apart => ((HashMap.lookup_insert_if _ _ _ _).trans (if_neg apart)).trans (active other apart),catalogs,
      annotations⟩
  | applyAssetCatalogDelta datasetId delta =>
    exact ⟨IndexMap.turns_refl _ _,fun _ _ => rfl,fun _ _ => rfl,IndexMap.turns_insert _ _ _,IndexMap.turns_refl _ _⟩
  | addAnnotationPin datasetId => exact turns_of_annotations (IndexMap.turns_insert _ _ _)
  | removeAnnotationPin datasetId pinId => exact removeAnnotationPin_turns doc datasetId pinId
  | moveAnnotationPin datasetId => exact turns_of_annotations (IndexMap.turns_modify _ _ _)
  | addComment datasetId => exact turns_of_annotations (IndexMap.turns_modify _ _ _)
  | removeComment datasetId => exact turns_of_annotations (IndexMap.turns_modify _ _ _)
  | editComment datasetId => exact turns_of_annotations (IndexMap.turns_modify _ _ _)

-- What a command makes of its dataset it makes of what the document has of it.
theorem nearestAnchor_of_agree (agree : doc.Agree doc' id) (position : R × R) : doc.nearestAnchor id position = doc'.nearestAnchor id position := by
  unfold nearestAnchor resolvedLayout
  rw [agree.manifest,agree.layouts,agree.active]

omit [Numeric R] in
theorem modify_agree (agree : doc.Agree doc' id) (f : List (AnnotationPin R) → List (AnnotationPin R)) :
    ({doc with annotations := doc.annotations.modify id f} : DocumentState R).Agree {doc' with annotations := doc'.annotations.modify id f} id := by
  refine ⟨agree.manifest,agree.layouts,agree.active,agree.catalog,?_⟩
  rw [IndexMap.get?_modify,IndexMap.get?_modify,if_pos rfl,if_pos rfl,agree.annotations]

theorem reanchor_agree (agree : doc.Agree doc' id) (fromId : Option LayoutId) (toId : LayoutId) :
    (doc.reanchorForLayout id fromId toId).Agree (doc'.reanchorForLayout id fromId toId) id := by
  unfold reanchorForLayout
  rw [agree.manifest,agree.layouts]
  cases doc'.manifests.get? id with
  | none => exact agree
  | some manifest =>
    dsimp only
    split
    · exact agree
    · exact modify_agree agree _

omit [Numeric R] in
theorem removeAnnotationPin_agree (agree : doc.Agree doc' id) (pinId : String) :
    (doc.removeAnnotationPin id pinId).Agree (doc'.removeAnnotationPin id pinId) id := by
  unfold removeAnnotationPin
  rw [agree.annotations]
  cases doc'.annotations.get? id with
  | none => exact agree
  | some pins =>
    refine ⟨agree.manifest,agree.layouts,agree.active,agree.catalog,?_⟩
    dsimp only
    split
    · rw [IndexMap.get?_erase,IndexMap.get?_erase,if_pos rfl,if_pos rfl]
    · rw [IndexMap.get?_insert,IndexMap.get?_insert,if_pos rfl,if_pos rfl]

omit [Numeric R] in
theorem removeDataset_agree (doc doc' : DocumentState R) (id : DatasetId) : (doc.removeDataset id).Agree (doc'.removeDataset id) id := by
  rw [removeDataset_eq,removeDataset_eq]
  constructor <;> simp

theorem inserted_agree {V : Type} (map map' : HashMap DatasetId V) (id : DatasetId) (v : V) :
    (map.insert id v).lookup id = (map'.insert id v).lookup id := by
  rw [Finmap.lookup_insert,Finmap.lookup_insert]

theorem apply_agree (agree : doc.Agree doc' command.datasetId) : (doc.apply command).Agree (doc'.apply command) command.datasetId := by
  cases command with
  | datasetOpened event =>
    refine ⟨?_,agree.layouts,agree.active,?_,agree.annotations⟩
    · simp only [apply,registerDataset,DocumentCommand.datasetId,IndexMap.get?_insert,if_true]
    · simp only [apply,registerDataset,DocumentCommand.datasetId,IndexMap.get?_insert,if_true]
  | removeDataset id => exact removeDataset_agree doc doc' id
  | renameDataset id name =>
    refine ⟨?_,agree.layouts,agree.active,agree.catalog,agree.annotations⟩
    have renamed (doc : DocumentState R) : (doc.renameDataset id name).manifests.get? id =
        (doc.manifests.get? id).map fun manifest => {manifest with name} := (IndexMap.get?_modify _ _ _ _).trans (if_pos rfl)
    exact (renamed doc).trans ((congrArg _ agree.manifest).trans (renamed doc').symm)
  | registerLayout datasetId layout =>
    refine ⟨agree.manifest,?_,agree.active,agree.catalog,agree.annotations⟩
    simp only [apply,registerLayout]
    rw [show doc.registeredLayouts.lookup datasetId = doc'.registeredLayouts.lookup datasetId from agree.layouts]
    exact inserted_agree _ _ _ _
  | setActiveLayout datasetId layoutId =>
    replace agree : doc.Agree doc' datasetId := agree
    have moved := reanchor_agree agree (doc.activeLayoutIds.lookup datasetId) layoutId
    simp only [apply,setActiveLayout,DocumentCommand.datasetId]
    rw [← agree.active]
    exact ⟨moved.manifest,moved.layouts,inserted_agree _ _ _ _,moved.catalog,moved.annotations⟩
  | applyAssetCatalogDelta datasetId delta =>
    replace agree : doc.Agree doc' datasetId := agree
    refine ⟨agree.manifest,agree.layouts,agree.active,?_,agree.annotations⟩
    simp only [apply,applyAssetCatalogDelta,DocumentCommand.datasetId,IndexMap.get?_upsert,if_true,agree.catalog]
  | addAnnotationPin datasetId pinId position =>
    replace agree : doc.Agree doc' datasetId := agree
    refine ⟨agree.manifest,agree.layouts,agree.active,agree.catalog,?_⟩
    simp only [apply,addAnnotationPin,DocumentCommand.datasetId,IndexMap.get?_upsert,if_true,agree.annotations,
      nearestAnchor_of_agree agree position]
  | removeAnnotationPin datasetId pinId => exact removeAnnotationPin_agree agree pinId
  | moveAnnotationPin datasetId => exact modify_agree agree _
  | addComment datasetId => exact modify_agree agree _
  | removeComment datasetId => exact modify_agree agree _
  | editComment datasetId => exact modify_agree agree _

theorem apply_settled (settled : command.Settled) :
    ((((doc.apply command).manifests.get? command.datasetId).isSome → (doc.manifests.get? command.datasetId).isSome) ∧
      (((doc.apply command).assetCatalogs.get? command.datasetId).isSome → (doc.assetCatalogs.get? command.datasetId).isSome)) ∧
      (((doc.apply command).annotations.get? command.datasetId).isSome → (doc.annotations.get? command.datasetId).isSome) := by
  have modified {f : List (AnnotationPin R) → List (AnnotationPin R)} {id : DatasetId}
      (there : ((doc.annotations.modify id f).get? id).isSome) : (doc.annotations.get? id).isSome := by simpa using there
  cases command with
  | datasetOpened | applyAssetCatalogDelta | addAnnotationPin => exact settled.elim
  | removeDataset id =>
    simp only [apply,removeDataset_eq,DocumentCommand.datasetId]
    simp
  | renameDataset id name =>
    refine ⟨⟨fun there => ?_,fun there => there⟩,fun there => there⟩
    have there' : ((doc.manifests.modify id fun manifest => {manifest with name}).get? id).isSome := there
    rwa [IndexMap.get?_modify,if_pos rfl,Option.isSome_map] at there'
  | registerLayout datasetId layout => exact ⟨⟨fun there => there,fun there => there⟩,fun there => there⟩
  | setActiveLayout datasetId layoutId =>
    obtain ⟨manifests,_,_,catalogs⟩ := reanchor_frame doc datasetId (doc.activeLayoutIds.lookup datasetId) layoutId
    refine ⟨⟨fun there => manifests ▸ there,fun there => catalogs ▸ there⟩,fun there => ?_⟩
    simp only [apply,setActiveLayout,reanchorForLayout,DocumentCommand.datasetId] at there ⊢
    split at there
    · exact there
    · split at there
      · exact there
      · exact modified there
  | removeAnnotationPin datasetId pinId =>
    obtain ⟨manifests,_,_,catalogs⟩ := removeAnnotationPin_frame doc datasetId pinId
    refine ⟨⟨fun there => manifests ▸ there,fun there => catalogs ▸ there⟩,fun there => ?_⟩
    simp only [apply,removeAnnotationPin,DocumentCommand.datasetId] at there ⊢
    split at there
    · exact there
    · rename_i pins found
      rw [found]
      rfl
  | moveAnnotationPin | addComment | removeComment | editComment => exact ⟨⟨fun there => there,fun there => there⟩,modified⟩

-- Commands on two datasets commute, unless both may add an entry: the entries keep the
-- order they came in.
theorem datasets_commute (apart : first.datasetId ≠ second.datasetId) (settled : first.Settled ∨ second.Settled) : first.Commutes second := by
  intro doc valid
  have turns := apply_turns valid first
  have turns' := apply_turns valid second
  have then' := apply_turns (apply_wellFormed valid first) second
  have then_ := apply_turns (apply_wellFormed valid second) first
  have own := apply_agree (turns'.agree apart)
  have own' := apply_agree (turns.agree apart.symm)
  have hashes {V : Type} {map a b ab ba : HashMap DatasetId V}
      (toA : ∀ other, other ≠ first.datasetId → a.lookup other = map.lookup other)
      (toAB : ∀ other, other ≠ second.datasetId → ab.lookup other = a.lookup other)
      (toB : ∀ other, other ≠ second.datasetId → b.lookup other = map.lookup other)
      (toBA : ∀ other, other ≠ first.datasetId → ba.lookup other = b.lookup other)
      (own : ba.lookup first.datasetId = a.lookup first.datasetId) (own' : ab.lookup second.datasetId = b.lookup second.datasetId) : ab = ba := by
    refine Finmap.ext_lookup fun id => ?_
    by_cases isFirst : id = first.datasetId
    · rw [isFirst,toAB _ apart,own]
    · by_cases isSecond : id = second.datasetId
      · rw [isSecond,toBA _ apart.symm,own']
      · rw [toAB _ isSecond,toA _ isFirst,toBA _ isFirst,toB _ isSecond]
  refine ext_fields ?_ (hashes turns.layouts then'.layouts turns'.layouts then_.layouts own.layouts own'.layouts)
    (hashes turns.active then'.active turns'.active then_.active own.active own'.active) ?_ ?_
  · exact IndexMap.turns_comm apart turns.manifests then'.manifests turns'.manifests then_.manifests own.manifest own'.manifest
      (settled.imp (fun settled => (apply_settled settled).1.1) fun settled => (apply_settled settled).1.1)
  · exact IndexMap.turns_comm apart turns.catalogs then'.catalogs turns'.catalogs then_.catalogs own.catalog own'.catalog
      (settled.imp (fun settled => (apply_settled settled).1.2) fun settled => (apply_settled settled).1.2)
  · exact IndexMap.turns_comm apart turns.annotations then'.annotations turns'.annotations then_.annotations own.annotations own'.annotations
      (settled.imp (fun settled => (apply_settled settled).2) fun settled => (apply_settled settled).2)

omit [Numeric R] in
theorem modifyAnnotationPin_comm {pinId pinId' : String} {f g : AnnotationPin R → AnnotationPin R} (apart : pinId ≠ pinId')
    (kept : ∀ pin, (f pin).id = pin.id) (kept' : ∀ pin, (g pin).id = pin.id) :
    (doc.modifyAnnotationPin id pinId f).modifyAnnotationPin id pinId' g =
      (doc.modifyAnnotationPin id pinId' g).modifyAnnotationPin id pinId f := by
  refine ext_fields rfl rfl rfl rfl (IndexMap.ext_get? (by simp [modifyAnnotationPin]) fun key => ?_)
  simp only [modifyAnnotationPin,IndexMap.get?_modify,if_true]
  split
  · cases doc.annotations.get? id with
    | none => rfl
    | some pins =>
      have comm : updateFirst (·.id = pinId) f (updateFirst (·.id = pinId') g pins) =
          updateFirst (·.id = pinId') g (updateFirst (·.id = pinId) f pins) := by
        refine updateFirst_comm (fun pin hit => ?_) (fun pin _ => ?_) fun pin _ => ?_
        · exact decide_eq_false fun same => apart ((of_decide_eq_true hit).symm.trans same)
        · rw [kept]
        · rw [kept']
      exact congrArg some comm.symm
  · rfl

theorem apply_edit {pinId : String} (edits : command.editedPin = some pinId) : ∃ f : AnnotationPin R → AnnotationPin R,
    (∀ pin, (f pin).id = pin.id) ∧ ∀ doc : DocumentState R, doc.apply command = doc.modifyAnnotationPin command.datasetId pinId f := by
  cases command with
  | moveAnnotationPin datasetId id position endpoint z =>
    cases edits
    refine ⟨_,fun pin => ?_,fun _ => rfl⟩
    cases endpoint <;> rfl
  | addComment datasetId annotationId id author text =>
    cases edits
    exact ⟨(·.addComment ⟨id,author,text⟩),fun _ => rfl,fun _ => rfl⟩
  | removeComment datasetId annotationId id =>
    cases edits
    exact ⟨(·.removeComment id),fun _ => rfl,fun _ => rfl⟩
  | editComment datasetId annotationId id text =>
    cases edits
    exact ⟨(·.editComment id text),fun _ => rfl,fun _ => rfl⟩
  | _ => cases edits

theorem edits_commute {pinId pinId' : String} (edits : first.editedPin = some pinId) (edits' : second.editedPin = some pinId')
    (apart : pinId ≠ pinId') : first.Commutes second := by
  by_cases elsewhere : first.datasetId = second.datasetId
  · intro doc valid
    obtain ⟨f,kept,first⟩ := apply_edit edits
    obtain ⟨g,kept',second⟩ := apply_edit edits'
    rw [first,second,second,first,elsewhere]
    exact modifyAnnotationPin_comm apart kept kept'
  · refine datasets_commute elsewhere (.inl ?_)
    cases first <;> trivial

theorem reanchor_rename (doc : DocumentState R) (id : DatasetId) (name : String) (fromId : Option LayoutId) (toId : LayoutId) :
    (doc.renameDataset id name).reanchorForLayout id fromId toId = (doc.reanchorForLayout id fromId toId).renameDataset id name := by
  have renamed : (doc.renameDataset id name).manifests.get? id = (doc.manifests.get? id).map fun manifest => {manifest with name} :=
    (IndexMap.get?_modify _ _ _ _).trans (if_pos rfl)
  unfold reanchorForLayout
  rw [renamed]
  cases doc.manifests.get? id with
  | none => rfl
  | some manifest =>
    rw [Option.map_some]
    dsimp only
    split <;> rfl

theorem nearestAnchor_rename (doc : DocumentState R) (id : DatasetId) (name : String) (position : R × R) :
    (doc.renameDataset id name).nearestAnchor id position = doc.nearestAnchor id position := by
  have renamed : (doc.renameDataset id name).manifests.get? id = (doc.manifests.get? id).map fun manifest => {manifest with name} :=
    (IndexMap.get?_modify _ _ _ _).trans (if_pos rfl)
  unfold nearestAnchor
  rw [renamed]
  cases doc.manifests.get? id <;> rfl

theorem removeDataset_rename (valid : doc.WellFormed) (name : String) :
    (doc.renameDataset id name).removeDataset id = (doc.removeDataset id).renameDataset id name := by
  have valid' : (doc.renameDataset id name).WellFormed := apply_wellFormed valid (.renameDataset id name)
  refine ext_fields ?_ ?_ ?_ ?_ ?_
  · rw [removeDataset_manifests valid',renameDataset,renameDataset,removeDataset_manifests valid]
    refine IndexMap.ext_get? ?_ fun key => ?_
    · rw [IndexMap.keys_modify,(IndexMap.turns_erase _ _).keys,(IndexMap.turns_erase _ _).keys]
      simp [IndexMap.turnedKeys]
    · simp only [IndexMap.get?_erase,IndexMap.get?_modify]
      split <;> rfl
  all_goals
    rw [removeDataset_eq,renameDataset,removeDataset_eq]
    rfl

theorem rename_commutes {name : String} (opens : ∀ event, command = .datasetOpened event → event.manifest.datasetId ≠ id)
    (renames : ∀ name', command ≠ .renameDataset id name') : (DocumentCommand.renameDataset id name).Commutes command := by
  by_cases apart : id = command.datasetId
  · intro doc valid
    cases command with
    | datasetOpened event => exact absurd apart.symm (opens event rfl)
    | removeDataset other =>
      cases apart
      exact removeDataset_rename valid name
    | renameDataset other name' =>
      cases apart
      exact absurd rfl (renames name')
    | setActiveLayout datasetId layoutId =>
      replace apart : id = datasetId := apart
      subst apart
      simp only [apply,setActiveLayout,reanchor_rename]
      rfl
    | addAnnotationPin datasetId pinId position =>
      replace apart : id = datasetId := apart
      subst apart
      simp only [apply]
      rw [nearestAnchor_rename]
      rfl
    | removeAnnotationPin datasetId pinId =>
      cases apart
      simp only [apply,removeAnnotationPin,renameDataset]
      split <;> rfl
    | _ =>
      cases apart
      rfl
  · exact datasets_commute apart (.inl trivial)

theorem foldl_wellFormed (valid : doc.WellFormed) (commands : List (DocumentCommand R)) : (commands.foldl apply doc).WellFormed := by
  induction commands generalizing doc with
  | nil => exact valid
  | cons command commands ih => exact ih (apply_wellFormed valid command)

end Apply

end DocumentState
end Lucida.Core
