import Mathlib.Data.Finset.Sort
import Mathlib.Data.String.Basic
import Mathlib.Data.List.Sort
import Lucida.Core.Scene

namespace Lucida.Core
open Content Lib

section
variable {R : Type} [Numeric R]

-- `rposition`: the last level whose samples are still under a pixel apart.
def rawLevel (shapeRatios : List R) (pixelsPerSample : R) : Nat :=
  let fitting := shapeRatios.zipIdx.filter fun ratio => Numeric.le (pixelsPerSample*ratio.1) 1
  (fitting.getLast?.map fun ratio => asU32 ratio.2).getD 0

def targetLevel (pixelsPerSample : R) (shapeRatios : List R) (previous : Option Nat) : Nat :=
  let wanted := rawLevel shapeRatios pixelsPerSample
  match previous with
  | none => wanted
  | some previous =>
    if wanted = previous then previous
    else
      let crossed :=
        if previous < wanted then decide (previous < rawLevel shapeRatios (pixelsPerSample*Numeric.band))
        else decide (rawLevel shapeRatios (pixelsPerSample/Numeric.band) < previous)
      if crossed then wanted else previous

theorem targetLevel_cases (pixelsPerSample : R) (shapeRatios : List R) (previous : Option Nat) :
    targetLevel pixelsPerSample shapeRatios previous = rawLevel shapeRatios pixelsPerSample ∨
      previous = some (targetLevel pixelsPerSample shapeRatios previous) := by
  cases previous with
  | none => exact .inl rfl
  | some previous =>
    simp only [targetLevel]
    generalize (if previous < rawLevel shapeRatios pixelsPerSample then _ else _) = crossed
    split
    · exact .inr rfl
    · cases crossed
      · exact .inr rfl
      · exact .inl rfl

-- Asked again with its own answer for history, the rule answers the same, also
-- through a clamp that leaves the history and its own results alone.
theorem targetLevel_resumes (pixelsPerSample : R) (shapeRatios : List R) {previous : Option Nat} {clamp : Nat → Nat}
    (idempotent : ∀ level, clamp (clamp level) = clamp level) (history : ∀ level, previous = some level → clamp level = level) :
    clamp (targetLevel pixelsPerSample shapeRatios (some (clamp (targetLevel pixelsPerSample shapeRatios previous)))) =
      clamp (targetLevel pixelsPerSample shapeRatios previous) := by
  rcases targetLevel_cases pixelsPerSample shapeRatios previous with chosen | held
  · rcases targetLevel_cases pixelsPerSample shapeRatios
      (some (clamp (targetLevel pixelsPerSample shapeRatios previous))) with again | kept
    · rw [again,chosen]
    · rw [← Option.some.inj kept]
      exact idempotent _
  · rw [history _ held,← held]
    exact history _ held

def inPlaneAxes : List (Axes Nat → Nat) := [Axes.y,Axes.x]

def volumeAxes : List (Axes Nat → Nat) := [Axes.z,Axes.y,Axes.x]

def levelShapeRatios (levels : List (LevelGeometry R)) (axes : List (Axes Nat → Nat)) : List R :=
  let resolved := levels.map fun level => axes.map fun axis => axis level.shape
  match resolved with
  | [] => []
  | level0::_ => resolved.zipIdx.map fun level =>
    let finer := (resolved[level.2-1]?).getD []
    let coarserThanFinerNeighbor := level.2 = 0 || (level.1.zip finer).any fun pair => pair.1 < pair.2
    if coarserThanFinerNeighbor then
      ((level.1.zip level0).map fun pair => Numeric.ofNat pair.2/Numeric.max (Numeric.ofNat pair.1) 1).foldl Numeric.max 0
    else Numeric.infinity

end

structure Projection (R : Type) where
  visible : Bool
  pixelsPerSample : R
  diagonalPx : R
  areaPx2 : R
  centroid : R × R × R
  importance : R

structure EntityQueryResult (R : Type) where
  entityId : EntityId
  imageId : ImageId
  kind : EntityKind
  visible : Bool
  projectedDiagonalPx : R
  projectedAreaPx2 : R
  centroidWorld : R × R × R
  targetLevel : Nat
  levelPinned : Bool
  importance : R

structure ViewQueryResult (R : Type) where
  epochs : SceneEpochs
  visibleEntities : List (EntityQueryResult R)

inductive ViewQueryDelta (R : Type) where
  | full (result : ViewQueryResult R)
  | delta (epochs : SceneEpochs) (entered : List (EntityQueryResult R)) (left : List ImageId)
      (changed : List (EntityQueryResult R))

def QuantizedEntity.of (entry : EntityQueryResult R) : QuantizedEntity :=
  ⟨entry.visible,entry.targetLevel,entry.levelPinned,entry.kind⟩

def quantizedEntries (entries : List (EntityQueryResult R)) : HashMap ImageId QuantizedEntity :=
  .ofList (entries.map fun entry => (entry.imageId,.of entry))

theorem lookup_quantizedEntries {current : List (EntityQueryResult R)} (nodup : (current.map (·.imageId)).Nodup) :
    (quantizedEntries current).lookup image = some quantized ↔
      ∃ entry ∈ current, entry.imageId = image ∧ .of entry = quantized := by
  unfold quantizedEntries
  rw [HashMap.lookup_ofList (by simpa only [List.map_map,Function.comp_def] using nodup),List.mem_map]
  simp only [Prod.mk.injEq]

-- `matches`.
def ViewQueryCursor.describes (cursor : ViewQueryCursor) (epochs : SceneEpochs) (mode : CameraModeKind) : Bool :=
  cursor.content = epochs.content && cursor.layout = epochs.layout && cursor.asset = epochs.asset && cursor.mode = mode

section
variable {R : Type}

def multiscaleByImage (manifest : DatasetManifest R) : HashMap ImageId (MultiscaleInfo R) :=
  .ofList (manifest.images.map fun image => (image.imageId,image.multiscale))

-- The first entity of an id gives its kind.
def kindByEntity (manifest : DatasetManifest R) : HashMap EntityId EntityKind :=
  manifest.entities.foldl (fun map entity => HashMap.orInsert map entity.id entity.kind) ∅

-- `clamp_to_source_levels(level).unwrap_or(level)`.
def clampOrKeep (multiscale : MultiscaleInfo R) (level : Nat) : Nat := (multiscale.clampToSourceLevels level).getD level

theorem clampOrKeep_of_clamp {multiscale : MultiscaleInfo R} (clamped : multiscale.clampToSourceLevels requested = some level) :
    clampOrKeep multiscale level = level := by
  rw [clampOrKeep,MultiscaleInfo.clamp_idempotent clamped,Option.getD_some]

theorem clampOrKeep_idempotent (multiscale : MultiscaleInfo R) (level : Nat) :
    clampOrKeep multiscale (clampOrKeep multiscale level) = clampOrKeep multiscale level := by
  cases clamped : multiscale.clampToSourceLevels level with
  | none => simp [clampOrKeep,clamped]
  | some source =>
    have same : clampOrKeep multiscale level = source := by rw [clampOrKeep,clamped,Option.getD_some]
    rw [same]
    exact clampOrKeep_of_clamp clamped

variable [Numeric R]

def historyOf (lastQuery : Option (HashMap ImageId QuantizedEntity)) (image : ImageId) : Option Nat :=
  (((lastQuery.bind (·.lookup image)).filter (·.visible))).map (·.targetLevel)

def screenTargetLevel (mode : CameraModeKind) (member : MemberState R) (pixelsPerSample : R)
    (lastQuery : Option (HashMap ImageId QuantizedEntity)) : Nat :=
  let axes := if mode = .slice then inPlaneAxes else volumeAxes
  targetLevel pixelsPerSample (levelShapeRatios member.levels axes) (historyOf lastQuery member.imageId)

def memberTargetLevel (mode : CameraModeKind) (member : MemberState R) (multiscale : MultiscaleInfo R) (pin : Option Nat)
    (pixelsPerSample : R) (lastQuery : Option (HashMap ImageId QuantizedEntity)) : Nat × Bool :=
  match pin.bind multiscale.clampToSourceLevels with
  | some pinned => (pinned,true)
  | none => (clampOrKeep multiscale (screenTargetLevel mode member pixelsPerSample lastQuery),false)

end

namespace Scene
variable {R K : Type} [Numeric R] [CameraModel R K]
  (project : K → HashMap DatasetId (DatasetDerivedState R) → MemberState R → Projection R)

def lastQueryEntries (scene : Scene R K) (id : DatasetId) : Option (HashMap ImageId QuantizedEntity) :=
  ((scene.viewQueryCursors.lookup id).filter (·.describes scene.epochs (CameraModel.kind scene.camera))).map (·.entries)

def levelPin (scene : Scene R K) (id : DatasetId) : Option Nat :=
  (scene.datasetSettings.lookup id).bind (·.detailLevelOverride)

-- One round of the query's loop. The source indexes `multiscale`; every member
-- is built from an image of the manifest, so the index is always there.
def queryMember (scene : Scene R K) (manifest : DatasetManifest R) (pin : Option Nat)
    (lastQuery : Option (HashMap ImageId QuantizedEntity)) (member : MemberState R) : EntityQueryResult R :=
  let seen := project scene.camera scene.derived member
  let level :=
    if seen.visible then
      match (multiscaleByImage manifest).lookup member.imageId with
      | some multiscale => memberTargetLevel (CameraModel.kind scene.camera) member multiscale pin seen.pixelsPerSample lastQuery
      | none => (0,false)
    else (asU32 member.levels.length-1,false)
  { entityId := member.entityId
    imageId := member.imageId
    kind := ((kindByEntity manifest).lookup member.entityId).getD .image
    visible := seen.visible
    projectedDiagonalPx := seen.diagonalPx
    projectedAreaPx2 := seen.areaPx2
    centroidWorld := seen.centroid
    targetLevel := level.1
    levelPinned := level.2
    importance := seen.importance }

def viewQuery (scene : Scene R K) (id : DatasetId) : Option (ViewQueryResult R) := do
  let derived ← scene.derived.lookup id
  let manifest ← scene.document.manifests.get? id
  let results := derived.members.map (scene.queryMember project manifest (scene.levelPin id) (scene.lastQueryEntries id))
  return ⟨scene.epochs,results.insertionSort fun a b => Numeric.lt a.importance b.importance = false⟩

end Scene

def viewQueryDiff (prev : HashMap ImageId QuantizedEntity) (current : List (EntityQueryResult R))
    (newEntries : HashMap ImageId QuantizedEntity) :
    List (EntityQueryResult R) × List ImageId × List (EntityQueryResult R) :=
  let byImage (entries : List (EntityQueryResult R)) := entries.insertionSort fun a b => a.imageId ≤ b.imageId
  let entered := current.filter fun entry => (prev.lookup entry.imageId).isNone
  let changed := current.filter fun entry => (prev.lookup entry.imageId).any fun before => before ≠ .of entry
  let left := (prev.keys.filter fun id => (newEntries.lookup id).isNone).sort (· ≤ ·)
  (byImage entered,left,byImage changed)

namespace Scene
variable {R K : Type} [Numeric R] [CameraModel R K]
  (project : K → HashMap DatasetId (DatasetDerivedState R) → MemberState R → Projection R)

def remember (scene : Scene R K) (id : DatasetId) (entries : HashMap ImageId QuantizedEntity) : Scene R K :=
  let mode := CameraModel.kind scene.camera
  let cursor := ⟨scene.epochs.content,scene.epochs.layout,scene.epochs.asset,mode,entries⟩
  {scene with viewQueryCursors := scene.viewQueryCursors.insert id cursor}

def viewQueryDelta (scene : Scene R K) (id : DatasetId) : Option (ViewQueryDelta R) × Scene R K :=
  match scene.viewQuery project id with
  | none => (none,scene)
  | some result =>
    let newEntries := quantizedEntries result.visibleEntities
    match scene.lastQueryEntries id with
    | none => (some (.full result),scene.remember id newEntries)
    | some prev =>
      let (entered,left,changed) := viewQueryDiff prev result.visibleEntities newEntries
      (some (.delta result.epochs entered left changed),scene.remember id newEntries)

variable {project} {scene : Scene R K} {id : DatasetId} {result : ViewQueryResult R}

-- A query answers when the dataset is both derived and in the document, with one
-- record for each member.
theorem viewQuery_eq_some (queried : scene.viewQuery project id = some result) :
    ∃ derived manifest, scene.derived.lookup id = some derived ∧ scene.document.manifests.get? id = some manifest ∧
      result.visibleEntities.Perm (derived.members.map
        (scene.queryMember project manifest (scene.levelPin id) (scene.lastQueryEntries id))) := by
  obtain ⟨derived,found,rest⟩ := Option.bind_eq_some_iff.mp queried
  obtain ⟨manifest,shown,answer⟩ := Option.bind_eq_some_iff.mp rest
  cases answer
  exact ⟨derived,manifest,found,shown,List.perm_insertionSort _ _⟩

-- A level reported on screen survives the clamp of its own image.
def Settled (manifest : DatasetManifest R) (image : ImageId) (entry : QuantizedEntity) : Prop :=
  entry.visible = true → ∀ multiscale, (multiscaleByImage manifest).lookup image = some multiscale →
    clampOrKeep multiscale entry.targetLevel = entry.targetLevel

theorem queryMember_settled (scene : Scene R K) (manifest : DatasetManifest R) (pin : Option Nat)
    (lastQuery : Option (HashMap ImageId QuantizedEntity)) (member : MemberState R) :
    Settled manifest member.imageId (.of (scene.queryMember project manifest pin lastQuery member)) := by
  intro visible multiscale found
  change (project scene.camera scene.derived member).visible = true at visible
  simp only [QuantizedEntity.of,queryMember,visible,if_true,found,memberTargetLevel]
  cases pinned : pin.bind multiscale.clampToSourceLevels with
  | none => exact clampOrKeep_idempotent multiscale _
  | some level =>
    obtain ⟨requested,_,clamped⟩ := Option.bind_eq_some_iff.mp pinned
    exact clampOrKeep_of_clamp clamped

theorem queryMember_resumes {manifest : DatasetManifest R} {pin : Option Nat} {member : MemberState R}
    {lastQuery nextQuery : Option (HashMap ImageId QuantizedEntity)}
    (history : ∀ entry, lastQuery.bind (·.lookup member.imageId) = some entry → Settled manifest member.imageId entry)
    (recorded : nextQuery.bind (·.lookup member.imageId) =
      some (.of (scene.queryMember project manifest pin lastQuery member))) :
    scene.queryMember project manifest pin nextQuery member = scene.queryMember project manifest pin lastQuery member := by
  by_cases visible : (project scene.camera scene.derived member).visible = true
  · cases found : (multiscaleByImage manifest).lookup member.imageId with
    | none => simp only [queryMember,visible,if_true,found]
    | some multiscale =>
      cases pinned : pin.bind multiscale.clampToSourceLevels with
      | some level => simp only [queryMember,visible,if_true,found,memberTargetLevel,pinned]
      | none =>
        have settled : ∀ level, historyOf lastQuery member.imageId = some level → clampOrKeep multiscale level = level := by
          intro level held
          obtain ⟨entry,kept,rfl⟩ := Option.map_eq_some_iff.mp held
          obtain ⟨last,onScreen⟩ := Option.filter_eq_some_iff.mp kept
          exact history entry last onScreen multiscale found
        have resumed : historyOf nextQuery member.imageId =
            some (clampOrKeep multiscale (screenTargetLevel (CameraModel.kind scene.camera) member
              (project scene.camera scene.derived member).pixelsPerSample lastQuery)) := by
          unfold historyOf
          rw [recorded]
          simp only [QuantizedEntity.of,queryMember,visible,if_true,found,memberTargetLevel,pinned,Option.filter_some,
            Option.map_some]
        have same := targetLevel_resumes (project scene.camera scene.derived member).pixelsPerSample
          (levelShapeRatios member.levels (if CameraModel.kind scene.camera = .slice then inPlaneAxes else volumeAxes))
          (clampOrKeep_idempotent multiscale) settled
        simp only [queryMember,visible,if_true,found,memberTargetLevel,pinned,screenTargetLevel] at resumed ⊢
        rw [resumed,same]
  · simp only [queryMember,visible]
    rfl

omit [Numeric R] in
theorem lastQueryEntries_remember (scene : Scene R K) (id : DatasetId) (entries : HashMap ImageId QuantizedEntity) :
    (scene.remember id entries).lastQueryEntries id = some entries := by
  simp only [lastQueryEntries,remember,Finmap.lookup_insert,ViewQueryCursor.describes,decide_true,Bool.and_self,
    Option.filter_some,if_true,Option.map_some]

-- Asked again right after it was remembered, a query answers the same.
theorem viewQuery_remember (queried : scene.viewQuery project id = some result)
    (nodup : (result.visibleEntities.map (·.imageId)).Nodup)
    (history : ∀ manifest prev image entry, scene.document.manifests.get? id = some manifest →
      scene.lastQueryEntries id = some prev → prev.lookup image = some entry → Settled manifest image entry) :
    (scene.remember id (quantizedEntries result.visibleEntities)).viewQuery project id = some result := by
  obtain ⟨derived,manifest,found,shown,perm⟩ := viewQuery_eq_some queried
  rw [← queried]
  have records : derived.members.map (scene.queryMember project manifest (scene.levelPin id)
        (some (quantizedEntries result.visibleEntities))) =
      derived.members.map (scene.queryMember project manifest (scene.levelPin id) (scene.lastQueryEntries id)) := by
    apply List.map_congr_left
    intro member present
    apply queryMember_resumes
    · intro entry last
      obtain ⟨prev,held,entered⟩ := Option.bind_eq_some_iff.mp last
      exact history manifest prev _ entry shown held entered
    · apply (lookup_quantizedEntries nodup).mpr
      exact ⟨_,perm.mem_iff.mpr (List.mem_map.mpr ⟨member,present,rfl⟩),rfl,rfl⟩
  unfold viewQuery
  rw [lastQueryEntries_remember]
  change (scene.derived.lookup id).bind _ = (scene.derived.lookup id).bind _
  rw [found,Option.bind_some,Option.bind_some]
  change (scene.document.manifests.get? id).bind _ = (scene.document.manifests.get? id).bind _
  rw [shown,Option.bind_some,Option.bind_some]
  exact congrArg (fun results => some (ViewQueryResult.mk scene.epochs (results.insertionSort fun a b =>
    Numeric.lt a.importance b.importance = false))) records

end Scene
end Lucida.Core
