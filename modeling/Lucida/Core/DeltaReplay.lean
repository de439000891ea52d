import Lucida.Core.ViewQuery
import Lucida.Core.DerivedPlacement

namespace Lucida.Core
open Content Lib

section
variable {R : Type}

-- What a client does with an answer: a full one replaces its map, a delta drops
-- `left` and upserts `entered` and `changed`.
def replay (shown : HashMap ImageId QuantizedEntity) : ViewQueryDelta R → HashMap ImageId QuantizedEntity
  | .full result => quantizedEntries result.visibleEntities
  | .delta _ entered left changed =>
    (shown.eraseAll left).insertAll ((entered ++ changed).map fun entry => (entry.imageId,.of entry))

theorem replay_diff {current : List (EntityQueryResult R)} (nodup : (current.map (·.imageId)).Nodup)
    (prev : HashMap ImageId QuantizedEntity) (epochs : SceneEpochs) :
    let diff := viewQueryDiff prev current (quantizedEntries current)
    replay prev (.delta epochs diff.1 diff.2.1 diff.2.2) = quantizedEntries current := by
  apply HashMap.patch_eq
  · intro image
    simp only [viewQueryDiff,Finset.mem_sort,Finset.mem_filter,Finmap.mem_keys,Option.isNone_iff_eq_none,
      Finmap.lookup_isSome]
  · intro image quantized member
    obtain ⟨entry,reported,same⟩ := List.mem_map.mp member
    cases same
    apply (lookup_quantizedEntries nodup).mpr
    refine ⟨entry,?_,rfl,rfl⟩
    rcases List.mem_append.mp reported with entered | changed
    · exact List.mem_of_mem_filter ((List.mem_insertionSort _).mp entered)
    · exact List.mem_of_mem_filter ((List.mem_insertionSort _).mp changed)
  · intro image quantized now differs
    obtain ⟨entry,member,rfl,rfl⟩ := (lookup_quantizedEntries nodup).mp now
    have reported : entry ∈ (viewQueryDiff prev current (quantizedEntries current)).1 ++
        (viewQueryDiff prev current (quantizedEntries current)).2.2 := by
      simp only [viewQueryDiff,List.mem_append,List.mem_insertionSort,List.mem_filter]
      cases before : prev.lookup entry.imageId with
      | none => exact .inl ⟨member,rfl⟩
      | some old =>
        have moved : old ≠ .of entry := fun same => differs (by rw [before,same])
        exact .inr ⟨member,by simpa using moved⟩
    exact List.mem_map.mpr ⟨_,List.mem_map.mpr ⟨entry,reported,rfl⟩,rfl⟩

end

-- Everything else a client may do to its scene between queries; `assign` writes
-- the public fields of its own view.
inductive Mutation (R K : Type) where
  | apply (command : Command R)
  | loadDocument (document : DocumentState R)
  | importPresence (camera : K) (view : ViewState) (display : DisplayState R)
  | importDatasetPresence (order : List DatasetId) (settings : HashMap DatasetId (DatasetDisplaySettings R))
  | removeDataset (id : DatasetId)
  | fitCameraToDataset (id : DatasetId)
  | rebuildDerived
  | assign (camera : K) (view : ViewState) (display : DisplayState R) (order : List DatasetId)
      (settings : HashMap DatasetId (DatasetDisplaySettings R))

namespace Scene
variable {R K : Type} {scene after : Scene R K} {id : DatasetId}

-- Time passing over the cursors: none is made, and as long as the content epoch
-- stands still those that stay keep their manifest.
structure Follows (scene after : Scene R K) : Prop where
  cursors : ∀ id cursor, after.viewQueryCursors.lookup id = some cursor → scene.viewQueryCursors.lookup id = some cursor
  content : scene.epochs.content ≤ after.epochs.content
  manifest : after.epochs.content = scene.epochs.content → ∀ id cursor, after.viewQueryCursors.lookup id = some cursor →
    manifestUnder after.document id = manifestUnder scene.document id

theorem Local.follows (stays : Local scene after) : Follows scene after where
  cursors := by
    intro id cursor found
    rwa [stays.cursors] at found
  content := stays.content.ge
  manifest := by
    intro _ id _ _
    rw [stays.document]

theorem removeDataset_follows (scene : Scene R K) (removed : DatasetId) : Follows scene (scene.removeDataset removed) := by
  have kept : ∀ id cursor, (scene.removeDataset removed).viewQueryCursors.lookup id = some cursor →
      id ≠ removed ∧ scene.viewQueryCursors.lookup id = some cursor := by
    intro id cursor found
    change (scene.viewQueryCursors.erase removed).lookup id = some cursor at found
    rw [HashMap.lookup_erase_if] at found
    split at found
    · cases found
    · rename_i other
      exact ⟨other,found⟩
  refine ⟨fun id cursor found => (kept id cursor found).2,le_rfl,?_⟩
  intro _ id cursor found
  exact manifestUnder_removeDataset scene.document (kept id cursor found).1

variable [Numeric R]

theorem applyDocument_cursors (scene : Scene R K) (command : DocumentCommand R) :
    (scene.applyDocument command).viewQueryCursors = match command with
      | .removeDataset id => scene.viewQueryCursors.erase id
      | _ => scene.viewQueryCursors := by
  cases command with
  | setActiveLayout id layoutId =>
    simp only [applyDocument]
    split <;> rfl
  | _ => rfl

theorem applyDocument_content (scene : Scene R K) (command : DocumentCommand R) :
    (scene.applyDocument command).epochs.content = match command with
      | .datasetOpened .. | .removeDataset .. | .renameDataset .. => scene.epochs.content+1
      | _ => scene.epochs.content := by
  cases command with
  | setActiveLayout id layoutId =>
    simp only [applyDocument]
    split <;> rfl
  | _ => rfl

theorem applyDocument_follows (scene : Scene R K) (command : DocumentCommand R) :
    Follows scene (scene.applyDocument command) := by
  have cursors := applyDocument_cursors scene command
  have content := applyDocument_content scene command
  have manifests := DocumentState.apply_manifests scene.document command
  rw [← applyDocument_document] at manifests
  refine ⟨?_,?_,?_⟩
  · intro id cursor found
    rw [cursors] at found
    cases command with
    | removeDataset removed =>
      dsimp only at found
      rw [HashMap.lookup_erase_if] at found
      split at found
      · cases found
      · exact found
    | _ => exact found
  · cases command <;> dsimp only at content <;> omega
  · intro still id cursor _
    cases command with
    | datasetOpened | removeDataset | renameDataset =>
      dsimp only at content
      omega
    | _ => exact manifestUnder_congr (congrArg (·.get? id) manifests)

theorem loadDocument_follows (scene : Scene R K) (document : DocumentState R) :
    Follows scene (scene.loadDocument document) := by
  obtain ⟨_,_,cursors,epochs⟩ := foldl_adopt_frame document.manifests.entries (rebuildDerived {scene with document})
  have retained : (scene.loadDocument document).viewQueryCursors =
      scene.viewQueryCursors.retain document.manifests.contains :=
    congrArg (fun cursors => HashMap.retain cursors document.manifests.contains) cursors
  have bumped : (scene.loadDocument document).epochs.content = scene.epochs.content+1 :=
    congrArg (fun epochs => epochs.content+1) epochs
  refine ⟨?_,?_,?_⟩
  · intro id cursor found
    rw [retained,HashMap.lookup_retain] at found
    split at found
    · exact found
    · cases found
  · omega
  · intro still
    omega

-- Derived members come from the manifest that stands, under some layout.
def BuiltAt (scene : Scene R K) (id : DatasetId) : Prop :=
  ∃ layout, scene.derived.lookup id = (scene.document.manifests.get? id).map (buildDerivedState · layout)

theorem PlacedAt.built (placed : scene.PlacedAt id) : scene.BuiltAt id := by
  cases shown : scene.document.manifests.get? id with
  | none => exact ⟨⟨"","",[]⟩,by rw [placed,shown]; rfl⟩
  | some manifest => exact ⟨scene.document.resolvedLayout manifest id,by rw [placed,shown]; rfl⟩

theorem built_manifestUnder (document : DocumentState R) (id : DatasetId) (layout : LayoutSpec R) :
    (document.manifests.get? id).map (buildDerivedState · layout) = (manifestUnder document id).map (buildDerivedState · layout) := by
  unfold manifestUnder
  rw [Option.map_map]
  rfl

theorem BuiltAt.frame (built : scene.BuiltAt id) (derived : after.derived.lookup id = scene.derived.lookup id)
    (manifest : manifestUnder after.document id = manifestUnder scene.document id) : after.BuiltAt id := by
  obtain ⟨layout,same⟩ := built
  exact ⟨layout,by rw [derived,same,built_manifestUnder,built_manifestUnder,manifest]⟩

theorem applyDocument_built (built : scene.BuiltAt id) (command : DocumentCommand R) :
    (scene.applyDocument command).BuiltAt id := by
  by_cases own : id = target command
  · subst own
    have derived := applyDocument_derived scene command
    have manifests := DocumentState.apply_manifests scene.document command
    rw [← applyDocument_document] at manifests
    cases command with
    | datasetOpened event => exact (datasetOpened_placed scene event).built
    | removeDataset id => exact (removeDataset_placed scene id).built
    | renameDataset id name =>
      obtain ⟨layout,same⟩ := built
      refine ⟨layout,?_⟩
      rw [derived,manifests]
      dsimp only [target] at same ⊢
      rw [IndexMap.get?_modify,if_pos rfl,Option.map_map,same]
      rfl
    | setActiveLayout id layoutId =>
      dsimp only [target] at built derived manifests ⊢
      cases shown : scene.document.manifests.get? id with
      | none =>
        rw [shown] at derived
        apply built.frame
        · rw [derived]
          rfl
        · exact manifestUnder_congr (by rw [manifests])
      | some manifest =>
        refine ⟨(scene.document.setActiveLayout id layoutId).resolvedLayout manifest id,?_⟩
        rw [derived,manifests,shown]
        exact Finmap.lookup_insert _
    | _ => exact built.frame (by rw [derived]) (manifestUnder_congr (by rw [manifests]))
  · have same : Untouched scene (scene.applyDocument command) id := applyDocument_elsewhere own
    exact built.frame same.derived same.manifest

variable [CameraModel R K] [BEq R] [BEq K]

def mutate (scene : Scene R K) : Mutation R K → Scene R K
  | .apply command => scene.apply command
  | .loadDocument document => scene.loadDocument document
  | .importPresence camera view display => scene.importPresence camera view display
  | .importDatasetPresence order settings => scene.importDatasetPresence order settings
  | .removeDataset id => scene.removeDataset id
  | .fitCameraToDataset id => scene.fitCameraToDataset id
  | .rebuildDerived => scene.rebuildDerived
  | .assign camera view display order settings =>
    {scene with camera,view,display,datasetOrder := order,datasetSettings := settings}

theorem mutate_follows (scene : Scene R K) (mutation : Mutation R K) : Follows scene (scene.mutate mutation) := by
  cases mutation with
  | apply command =>
    cases command with
    | document command => exact applyDocument_follows scene command
    | viewport command => exact (applyViewport_local scene command).follows
  | loadDocument document => exact loadDocument_follows scene document
  | importPresence camera view display => exact (importPresence_local scene camera view display).follows
  | importDatasetPresence order settings => exact (importDatasetPresence_local scene order settings).follows
  | removeDataset id => exact removeDataset_follows scene id
  | fitCameraToDataset id => exact (fitCameraToDataset_local scene id).follows
  | rebuildDerived => exact ⟨fun _ _ found => found,le_rfl,fun _ _ _ _ => rfl⟩
  | assign => exact ⟨fun _ _ found => found,le_rfl,fun _ _ _ _ => rfl⟩

theorem mutate_built (built : scene.BuiltAt id) (mutation : Mutation R K) : (scene.mutate mutation).BuiltAt id := by
  cases mutation with
  | apply command =>
    cases command with
    | document command => exact applyDocument_built built command
    | viewport command =>
      have same := (applyViewport_local scene command).untouched id
      exact built.frame same.derived same.manifest
  | loadDocument document =>
    apply PlacedAt.built
    unfold PlacedAt
    rw [mutate,loadDocument_derived,loadDocument_document]
  | importPresence camera view display =>
    have same := (importPresence_local scene camera view display).untouched id
    exact built.frame same.derived same.manifest
  | importDatasetPresence order settings =>
    have same := (importDatasetPresence_local scene order settings).untouched id
    exact built.frame same.derived same.manifest
  | removeDataset removed =>
    by_cases own : id = removed
    · refine ⟨⟨"","",[]⟩,?_⟩
      show (scene.derived.erase removed).lookup id = ((scene.document.removeDataset removed).manifests.get? id).map _
      rw [HashMap.lookup_erase_if,if_pos own,DocumentState.removeDataset_eq,IndexMap.get?_mapEntries,IndexMap.get?_erase,
        if_pos own]
      rfl
    · exact built.frame (Finmap.lookup_erase_ne own) (manifestUnder_removeDataset scene.document own)
  | fitCameraToDataset shown =>
    have same := (fitCameraToDataset_local scene shown).untouched id
    exact built.frame same.derived same.manifest
  | rebuildDerived => exact PlacedAt.built (rebuildDerived_lookup scene id)
  | assign => exact built

end Scene

structure Replica (R K : Type) where
  scene : Scene R K
  shown : HashMap DatasetId (HashMap ImageId QuantizedEntity)

inductive Replica.Event (R K : Type) where
  | mutate (mutation : Mutation R K)
  | query (id : DatasetId)

namespace Replica
variable {R K : Type} [Numeric R] [CameraModel R K] {replica : Replica R K} {id : DatasetId}

def new (K : Type) [CameraModel R K] (viewport : Nat × Nat) : Replica R K := ⟨Scene.new K viewport,∅⟩

-- A cursor is at most as old as the content it describes. As long as that content
-- stands, its levels are settled and, if the images are told apart by their ids,
-- the client shows exactly its entries.
structure Tracks (replica : Replica R K) (id : DatasetId) (cursor : ViewQueryCursor) : Prop where
  past : cursor.content ≤ replica.scene.epochs.content
  current : cursor.content = replica.scene.epochs.content →
    ∀ manifest, replica.scene.document.manifests.get? id = some manifest →
      (∀ image entry, cursor.entries.lookup image = some entry → Scene.Settled manifest image entry) ∧
      ((manifest.images.map (·.imageId)).Nodup → replica.shown.lookup id = some cursor.entries)

structure Sound (replica : Replica R K) : Prop where
  built : ∀ id, replica.scene.BuiltAt id
  tracks : ∀ id cursor, replica.scene.viewQueryCursors.lookup id = some cursor → replica.Tracks id cursor

theorem new_sound (viewport : Nat × Nat) : (Replica.new K viewport : Replica R K).Sound where
  built := fun _ => ⟨⟨"","",[]⟩,rfl⟩
  tracks := by
    intro id cursor found
    cases found

omit [CameraModel R K] in
theorem Sound.mutated (sound : replica.Sound) {after : Scene R K} (built : ∀ id, after.BuiltAt id)
    (follows : replica.scene.Follows after) : Sound ⟨after,replica.shown⟩ where
  built := built
  tracks := by
    intro id cursor found
    have tracked := sound.tracks id cursor (follows.cursors id cursor found)
    refine ⟨tracked.past.trans follows.content,?_⟩
    intro now manifest shown
    -- The content cannot have moved, so this is the manifest the cursor saw.
    have still : after.epochs.content = replica.scene.epochs.content :=
      le_antisymm (now ▸ tracked.past) follows.content
    obtain ⟨before,held,same⟩ := Scene.of_manifestUnder (follows.manifest still id cursor found) shown
    have images : before.images = manifest.images := (DatasetManifest.mk.inj same).2.2.2.2.2.1
    have settled : ∀ image entry, Scene.Settled manifest image entry ↔ Scene.Settled before image entry := by
      intro image entry
      unfold Scene.Settled multiscaleByImage
      rw [images]
    simpa only [settled,images] using tracked.current (now.trans still) before held

variable (project : K → HashMap DatasetId (DatasetDerivedState R) → MemberState R → Projection R)

def query (replica : Replica R K) (id : DatasetId) : Replica R K :=
  match replica.scene.viewQueryDelta project id with
  | (none,scene) => {replica with scene}
  | (some answer,scene) => ⟨scene,replica.shown.insert id (replay ((replica.shown.lookup id).getD ∅) answer)⟩

variable {project} {result : ViewQueryResult R}

theorem query_scene (queried : replica.scene.viewQuery project id = some result) :
    (replica.query project id).scene = replica.scene.remember id (quantizedEntries result.visibleEntities) := by
  simp only [query,Scene.viewQueryDelta,queried]
  cases replica.scene.lastQueryEntries id with
  | none => rfl
  | some prev => rfl

theorem query_unknown (unknown : replica.scene.viewQuery project id = none) : replica.query project id = replica := by
  simp only [query,Scene.viewQueryDelta,unknown]

omit [CameraModel R K] in
theorem Sound.members (sound : replica.Sound) {derived : DatasetDerivedState R} {manifest : DatasetManifest R}
    (found : replica.scene.derived.lookup id = some derived)
    (shown : replica.scene.document.manifests.get? id = some manifest) :
    derived.members.map (·.imageId) = manifest.images.map (·.imageId) := by
  obtain ⟨layout,same⟩ := sound.built id
  rw [found,shown] at same
  cases same
  simp [buildDerivedState]

theorem Sound.nodup (sound : replica.Sound) (queried : replica.scene.viewQuery project id = some result)
    {manifest : DatasetManifest R} (shown : replica.scene.document.manifests.get? id = some manifest)
    (distinct : (manifest.images.map (·.imageId)).Nodup) : (result.visibleEntities.map (·.imageId)).Nodup := by
  obtain ⟨derived,current,found,present,perm⟩ := Scene.viewQuery_eq_some queried
  cases shown.symm.trans present
  have ids : (result.visibleEntities.map (·.imageId)).Perm (manifest.images.map (·.imageId)) := by
    rw [← sound.members found shown]
    simpa only [List.map_map,Function.comp_def,Scene.queryMember] using perm.map (·.imageId)
  exact ids.nodup_iff.mpr distinct

omit [Numeric R] in
theorem cursor_of_lastQuery {scene : Scene R K} (last : scene.lastQueryEntries id = some prev) :
    ∃ cursor, scene.viewQueryCursors.lookup id = some cursor ∧ cursor.content = scene.epochs.content ∧
      cursor.entries = prev := by
  obtain ⟨cursor,kept,rfl⟩ := Option.map_eq_some_iff.mp last
  obtain ⟨found,describes⟩ := Option.filter_eq_some_iff.mp kept
  refine ⟨cursor,found,?_,rfl⟩
  simp only [ViewQueryCursor.describes,Bool.and_eq_true,decide_eq_true_eq] at describes
  exact describes.1.1.1

theorem query_shown (sound : replica.Sound) (queried : replica.scene.viewQuery project id = some result)
    {manifest : DatasetManifest R} (shown : replica.scene.document.manifests.get? id = some manifest)
    (distinct : (manifest.images.map (·.imageId)).Nodup) :
    (replica.query project id).shown.lookup id = some (quantizedEntries result.visibleEntities) := by
  simp only [query,Scene.viewQueryDelta,queried]
  cases last : replica.scene.lastQueryEntries id with
  | none => exact Finmap.lookup_insert _
  | some prev =>
    obtain ⟨cursor,found,content,rfl⟩ := cursor_of_lastQuery last
    have folded := ((sound.tracks id cursor found).current content manifest shown).2 distinct
    have same := replay_diff (sound.nodup queried shown distinct) cursor.entries result.epochs
    rw [folded]
    exact (Finmap.lookup_insert _).trans (congrArg some same)

theorem query_shown_elsewhere (replica : Replica R K) {other : DatasetId} (elsewhere : other ≠ id) :
    (replica.query project id).shown.lookup other = replica.shown.lookup other := by
  unfold query
  split
  · rfl
  · exact Finmap.lookup_insert_of_ne _ elsewhere

theorem query_settled (queried : replica.scene.viewQuery project id = some result) {manifest : DatasetManifest R}
    (shown : replica.scene.document.manifests.get? id = some manifest)
    (recorded : (quantizedEntries result.visibleEntities).lookup image = some entry) :
    Scene.Settled manifest image entry := by
  obtain ⟨derived,current,found,present,perm⟩ := Scene.viewQuery_eq_some queried
  cases shown.symm.trans present
  obtain ⟨reported,listed,same⟩ := List.mem_map.mp (HashMap.mem_of_lookup_ofList recorded)
  cases same
  obtain ⟨member,_,rfl⟩ := List.mem_map.mp (perm.mem_iff.mp listed)
  exact Scene.queryMember_settled _ _ _ _ _

theorem query_sound (sound : replica.Sound) (project : K → HashMap DatasetId (DatasetDerivedState R) → MemberState R →
    Projection R) (id : DatasetId) : (replica.query project id).Sound := by
  cases queried : replica.scene.viewQuery project id with
  | none => rwa [query_unknown queried]
  | some result =>
    have scene := query_scene queried
    refine ⟨?_,?_⟩
    · intro other
      rw [scene]
      exact sound.built other
    · intro other cursor found
      have inserted : (replica.scene.remember id (quantizedEntries result.visibleEntities)).viewQueryCursors.lookup other =
          some cursor := scene ▸ found
      by_cases same : other = id
      · subst same
        cases (Finmap.lookup_insert _).symm.trans inserted
        refine ⟨?_,?_⟩
        · rw [scene]
          exact le_rfl
        · intro _ manifest shown
          rw [scene] at shown
          exact ⟨fun image entry recorded => query_settled queried shown recorded,query_shown sound queried shown⟩
      · have old : replica.scene.viewQueryCursors.lookup other = some cursor :=
          (Finmap.lookup_insert_of_ne _ same).symm.trans inserted
        obtain ⟨past,current⟩ := sound.tracks other cursor old
        refine ⟨?_,?_⟩
        · rw [scene]
          exact past
        · intro now manifest shown
          rw [scene] at now shown
          rw [query_shown_elsewhere replica same]
          exact current now manifest shown

variable [BEq R] [BEq K]

def next (project : K → HashMap DatasetId (DatasetDerivedState R) → MemberState R → Projection R)
    (replica : Replica R K) : Event R K → Replica R K
  | .mutate mutation => {replica with scene := replica.scene.mutate mutation}
  | .query id => replica.query project id

theorem run_sound {viewport : Nat × Nat}
    (path : Runs (fun before event after => after = next project before event) (Replica.new K viewport) events replica) :
    replica.Sound := by
  apply path.preserves (P := Sound)
  · intro before event after sound taken
    subst taken
    cases event with
    | mutate mutation =>
      exact sound.mutated (fun id => Scene.mutate_built (sound.built id) mutation)
        (Scene.mutate_follows before.scene mutation)
    | query id => exact query_sound sound project id
  · exact new_sound viewport

theorem delta_replay_matches_full {viewport : Nat × Nat}
    (path : Runs (fun before event after => after = next project before event) (Replica.new K viewport) events replica)
    (distinct : ∀ manifest, replica.scene.document.manifests.get? id = some manifest →
      (manifest.images.map (·.imageId)).Nodup) :
    ((replica.scene.viewQueryDelta project id).1 = none ↔ replica.scene.viewQuery project id = none) ∧
      (replica.next project (.query id)).scene.viewQuery project id = replica.scene.viewQuery project id ∧
      ∀ result, replica.scene.viewQuery project id = some result →
        (replica.next project (.query id)).shown.lookup id = some (quantizedEntries result.visibleEntities) := by
  have sound := run_sound path
  cases queried : replica.scene.viewQuery project id with
  | none =>
    have unknown : replica.next project (.query id) = replica := query_unknown queried
    refine ⟨?_,?_,?_⟩
    · simp [Scene.viewQueryDelta,queried]
    · rw [unknown,queried]
    · intro result answered
      cases answered
  | some result =>
    obtain ⟨derived,manifest,found,shown,_⟩ := Scene.viewQuery_eq_some queried
    refine ⟨?_,?_,?_⟩
    · simp only [Scene.viewQueryDelta,queried]
      cases replica.scene.lastQueryEntries id with
      | none => simp
      | some prev => simp
    · change (replica.query project id).scene.viewQuery project id = some result
      rw [query_scene queried]
      apply Scene.viewQuery_remember queried (sound.nodup queried shown (distinct manifest shown))
      intro current prev image entry present last recorded
      obtain ⟨cursor,held,content,rfl⟩ := cursor_of_lastQuery last
      exact ((sound.tracks id cursor held).current content current present).1 image entry recorded
    · intro answered same
      cases same
      exact query_shown sound queried shown (distinct manifest shown)

-- One image with two levels, a sample to a pixel, pinned to its coarser level
-- between two queries.
def pyramid : DatasetManifest Int :=
  let level (index side : Nat) : LevelGeometry Int :=
    ⟨index,⟨1,1,1,side,side⟩,⟨1,1,1,side,side⟩,⟨1,1,1,1,1⟩,⟨1,1,1,1,1⟩⟩
  ⟨"pyramid","Pyramid",.single,[⟨"entity",.image,none⟩],[],[⟨"image","entity",⟨[level 0 4,level 1 2],[],.uint8⟩⟩],[],none,[]⟩

def inFullView (_ : FixedCamera) (_ : HashMap DatasetId (DatasetDerivedState Int)) (_ : MemberState Int) : Projection Int :=
  ⟨true,1,1,1,(0,0,0),1⟩

def pinsBetween : List (Event Int FixedCamera) :=
  [.mutate (.apply (.document (.datasetOpened ⟨pyramid,.proxied ["image"],⟨[]⟩⟩))),.query "pyramid",
    .mutate (.apply (.viewport (.setDatasetDetailLevelOverride "pyramid" (some 1))))]

def levels (replica : Replica Int FixedCamera) : Option (List (ImageId × Nat × Bool)) :=
  (replica.scene.viewQuery inFullView "pyramid").map fun result =>
    result.visibleEntities.map fun entry => (entry.imageId,entry.targetLevel,entry.levelPinned)

theorem delta_replay_follows_a_pin :
    ∃ replica : Replica Int FixedCamera, ∃ result,
      Runs (fun before event after => after = next inFullView before event) (Replica.new FixedCamera (800,600)) pinsBetween
        replica ∧
      levels replica = some [("image",1,true)] ∧
      (replica.next inFullView (.query "pyramid")).scene.viewQuery inFullView "pyramid" = some result ∧
      (replica.next inFullView (.query "pyramid")).shown.lookup "pyramid" =
        some (quantizedEntries result.visibleEntities) := by
  have path : ∃ replica : Replica Int FixedCamera,
      Runs (fun before event after => after = next inFullView before event) (Replica.new FixedCamera (800,600)) pinsBetween
        replica ∧
      levels replica = some [("image",1,true)] ∧
      replica.scene.document.manifests.get? "pyramid" = some pyramid :=
    ⟨_,.cons rfl (.cons rfl (.one rfl)),rfl,rfl⟩
  obtain ⟨replica,path,pinned,shown⟩ := path
  obtain ⟨result,queried,_⟩ := Option.map_eq_some_iff.mp pinned
  have distinct : ∀ manifest, replica.scene.document.manifests.get? "pyramid" = some manifest →
      (manifest.images.map (·.imageId)).Nodup := by
    intro manifest present
    cases shown.symm.trans present
    decide
  obtain ⟨_,again,folded⟩ := delta_replay_matches_full path distinct
  exact ⟨replica,result,path,pinned,again.trans queried,folded result queried⟩

end Replica
end Lucida.Core
