import Lucida.Core.FirstMatch
import Lucida.Generated.Service
import Lucida.Server.PersistOrder

namespace Lucida.Server
open Content Core Lib Generated

variable {R : Type}

namespace GeneratedLevels

structure OneEach (availability : GeneratedLevels R) : Prop where
  levels : (availability.levels.map fun level => (level.imageId,level.info.levelIndex)).Nodup
  chunks : (availability.chunks.map GeneratedChunkStatusUpdate.chunk).Nodup

theorem applyDelta_levels (availability delta : GeneratedLevels R) : (availability.applyDelta delta).levels =
    upsertAll (fun level => (level.imageId,level.info.levelIndex)) delta.levels availability.levels := by
  simp only [applyDelta,upsertAll,upsertBy,Prod.mk.injEq]

theorem applyDelta_chunks (availability delta : GeneratedLevels R) : (availability.applyDelta delta).chunks =
    upsertAll GeneratedChunkStatusUpdate.chunk delta.chunks availability.chunks := rfl

theorem applyDelta_twice (availability delta : GeneratedLevels R) :
    (availability.applyDelta delta).applyDelta delta = availability.applyDelta delta := by
  have levels : ((availability.applyDelta delta).applyDelta delta).levels = (availability.applyDelta delta).levels := by
    rw [applyDelta_levels,applyDelta_levels,upsertAll_twice]
  have chunks : ((availability.applyDelta delta).applyDelta delta).chunks = (availability.applyDelta delta).chunks := by
    rw [applyDelta_chunks,applyDelta_chunks,upsertAll_twice]
  generalize (availability.applyDelta delta).applyDelta delta = again at levels chunks
  cases again
  cases levels
  cases chunks
  rfl

theorem OneEach.applyDelta {availability : GeneratedLevels R} (each : availability.OneEach) (delta : GeneratedLevels R) :
    (availability.applyDelta delta).OneEach where
  levels := by
    rw [applyDelta_levels]
    exact nodup_upsertAll each.levels
  chunks := by
    rw [applyDelta_chunks]
    exact nodup_upsertAll each.chunks

end GeneratedLevels

namespace Session

def applyGeneratedAvailabilityDelta (session : Session R) (datasetId : DatasetId) (delta : GeneratedLevels R) : Session R :=
  {session with generatedAvailability :=
    session.generatedAvailability.upsert datasetId fun old => (old.getD ⟨[],[]⟩).applyDelta delta}

-- The end of `restore_one_workspace_binding`.
def restore (session : Session R) (id : DatasetId) (canonicalUrl datasetSourceId name : String) (imported : Imported R) :
    Session R :=
  let recorded := {session with bindingRuntime := session.bindingRuntime.insert id ⟨canonicalUrl,some datasetSourceId,name,none⟩}
  let filled := if imported.delta.levels.isEmpty then recorded else recorded.applyGeneratedAvailabilityDelta id imported.delta
  {filled with serverBindings := filled.serverBindings.insert id ⟨canonicalUrl,imported.opened⟩}

def shown (session : Session R) : IndexMap DatasetId GeneratedAvailability :=
  session.generatedAvailability.mapValues GeneratedLevels.chunks

def Covered (session : Session R) : Prop :=
  ∀ id, session.generatedAvailability.contains id → session.document.manifests.contains id

def OneEach (session : Session R) : Prop :=
  ∀ id availability, session.generatedAvailability.get? id = some availability → availability.OneEach

end Session

-- What a worker is about to tell the session: the dataset and the delta of `publish_generated_delta`.
def publication (service : Service) (w : World) : Event → Option (DatasetId × GeneratedAvailability)
  | .advance id => do
    let worker ← w.workers.get? id
    match worker.stage with
    | .telling _ delta =>
      let plan ← service.plan worker.item.workKey.imageId worker.item.workKey.levelIndex
      some (plan.datasetId,delta)
    | _ => none
  | _ => none

-- A live workspace with the generated services of its bindings. A service outlives the
-- removal of its dataset.
structure PublishWorld (R : Type) where
  opens : OpenWorld R
  services : IndexMap Nat (Service × World)

inductive PublishEvent (R : Type) where
  | opens (event : OpenEvent R)
  | restore (id : DatasetId) (canonicalUrl : String) (imported : Imported R)
  | start (index : Nat) (datasetId : DatasetId) (service : Service) (cache : DerivedChunkCache)
  | serve (index : Nat) (event : Event)

namespace PublishWorld

def session (w : PublishWorld R) : Session R := w.opens.shared.session

def withSession (w : PublishWorld R) (session : Session R) : PublishWorld R :=
  {w with opens := {w.opens with shared := {w.opens.shared with session}}}

def publishes (w : PublishWorld R) : Option (DatasetId × GeneratedAvailability) → Session R
  | none => w.session
  | some (datasetId,delta) => w.session.applyGeneratedAvailabilityDelta datasetId ⟨[],delta⟩

variable [Numeric R] (datasetIdForUrl : String → String)

-- A binding is restored for a row of the store, and a service is built with plans for one dataset. A
-- removal is a command of the session, not an event of a service.
def next? (w : PublishWorld R) : PublishEvent R → Option (PublishWorld R)
  | .opens event => (w.opens.next? datasetIdForUrl event).map fun opens => {w with opens}
  | .restore id canonicalUrl imported => do
    let row ← w.opens.shared.store.datasets.get? id
    some (w.withSession (w.session.restore id canonicalUrl row.datasetSourceId row.displayName imported))
  | .start index datasetId service cache =>
    if w.services.get? index = none ∧ ∀ plan ∈ service.plans.values, plan.datasetId = datasetId then
      some {w with services := w.services.insert index (service,.initial cache w.session.shown)}
    else none
  | .serve _ (.removeDataset _) => none
  | .serve index event => do
    let (service,world) ← w.services.get? index
    let after ← {world with generatedAvailability := w.session.shown}.next? service event
    some {w.withSession (w.publishes (publication service world event)) with
      services := w.services.insert index (service,after)}

def InTime (w : PublishWorld R) : PublishEvent R → Prop
  | .restore id _ imported => imported.delta.levels.isEmpty ∨ w.session.document.manifests.contains id
  | .serve index event => ∀ told ∈ (w.services.get? index).bind fun (service,world) => publication service world event,
      w.session.document.manifests.contains told.1
  | _ => True

instance (w : PublishWorld R) : ∀ event, Decidable (w.InTime event)
  | .restore id _ imported =>
    inferInstanceAs (Decidable (imported.delta.levels.isEmpty ∨ w.session.document.manifests.contains id))
  | .serve index event => inferInstanceAs (Decidable (∀ told ∈ (w.services.get? index).bind fun (service,world) =>
      publication service world event, w.session.document.manifests.contains told.1))
  | .opens _ => inferInstanceAs (Decidable True)
  | .start _ _ _ _ => inferInstanceAs (Decidable True)

end PublishWorld

section
variable {session : Session R}

theorem contains_applyGeneratedAvailabilityDelta (session : Session R) (datasetId : DatasetId) (delta : GeneratedLevels R)
    (id : DatasetId) : (session.applyGeneratedAvailabilityDelta datasetId delta).generatedAvailability.contains id =
      (id = datasetId || session.generatedAvailability.contains id) := by
  unfold Session.applyGeneratedAvailabilityDelta IndexMap.contains
  rw [IndexMap.get?_upsert]
  split
  · simp [*]
  · simp [*]

theorem Session.Covered.publish (covered : session.Covered) (listed : session.document.manifests.contains datasetId)
    (delta : GeneratedLevels R) : (session.applyGeneratedAvailabilityDelta datasetId delta).Covered := by
  intro id kept
  rw [contains_applyGeneratedAvailabilityDelta,Bool.or_eq_true,decide_eq_true_eq] at kept
  rcases kept with rfl | before
  · exact listed
  · exact covered id before

theorem Session.OneEach.publish (each : session.OneEach) (datasetId : DatasetId) (delta : GeneratedLevels R) :
    (session.applyGeneratedAvailabilityDelta datasetId delta).OneEach := by
  intro id availability found
  simp only [applyGeneratedAvailabilityDelta,IndexMap.get?_upsert] at found
  split at found
  · cases found
    refine GeneratedLevels.OneEach.applyDelta ?_ delta
    cases stored : session.generatedAvailability.get? datasetId with
    | none => exact ⟨List.nodup_nil,List.nodup_nil⟩
    | some old => exact each datasetId old stored
  · exact each id availability found

variable [Numeric R]

-- A removal takes the entry with the manifest.
theorem Session.Covered.apply (covered : session.Covered) (command : DocumentCommand R) : (session.apply command).Covered := by
  intro id kept
  refine (listed_apply session.document command id).mpr ?_
  cases command with
  | removeDataset removed =>
    simp only [Session.apply,IndexMap.contains,IndexMap.get?_erase] at kept
    split at kept
    · cases kept
    · exact ⟨‹_›,covered id kept⟩
  | datasetOpened event => exact .inr (covered id kept)
  | _ => exact covered id kept

theorem Session.OneEach.apply (each : session.OneEach) (command : DocumentCommand R) : (session.apply command).OneEach := by
  intro id availability found
  cases command with
  | removeDataset removed =>
    simp only [Session.apply,IndexMap.get?_erase] at found
    split at found
    · cases found
    · exact each id availability found
  | _ => exact each id availability found

-- The delta of an open is applied right after its manifest is.
theorem commit_eq (session : Session R) (id : DatasetId) (canonicalUrl datasetSourceId name : String) (imported : Imported R) :
    let applied := session.apply (.datasetOpened imported.opened)
    let committed := session.commit id canonicalUrl datasetSourceId name imported
    committed.document = applied.document ∧ committed.generatedAvailability =
      if imported.delta.levels.isEmpty then applied.generatedAvailability
      else (applied.applyGeneratedAvailabilityDelta id imported.delta).generatedAvailability := ⟨rfl,rfl⟩

theorem Session.Covered.commit (covered : session.Covered) {imported : Imported R} (canonicalUrl datasetSourceId name : String) :
    (session.commit imported.opened.manifest.datasetId canonicalUrl datasetSourceId name imported).Covered := by
  have applied := covered.apply (.datasetOpened imported.opened)
  have listed : (session.apply (.datasetOpened imported.opened)).document.manifests.contains imported.opened.manifest.datasetId :=
    (listed_apply session.document (.datasetOpened imported.opened) _).mpr (.inl rfl)
  have published := applied.publish listed imported.delta
  intro id kept
  obtain ⟨document,availability⟩ :=
    commit_eq session imported.opened.manifest.datasetId canonicalUrl datasetSourceId name imported
  rw [document]
  rw [availability] at kept
  split at kept
  · exact applied id kept
  · exact published id kept

theorem Session.OneEach.commit (each : session.OneEach) (imported : Imported R) (id : DatasetId)
    (canonicalUrl datasetSourceId name : String) : (session.commit id canonicalUrl datasetSourceId name imported).OneEach := by
  have applied := each.apply (.datasetOpened imported.opened)
  have published := applied.publish id imported.delta
  intro other availability found
  rw [(commit_eq session id canonicalUrl datasetSourceId name imported).2] at found
  split at found
  · exact applied other availability found
  · exact published other availability found

theorem OpenWorld.next_session {datasetIdForUrl : String → String} {w after : OpenWorld R} {event : OpenEvent R}
    (imports : w.Imports) (taken : w.next? datasetIdForUrl event = some after) :
    after.shared.session = w.shared.session ∨
    (∃ command, after.shared.session = w.shared.session.apply command) ∨
    ∃ canonicalUrl datasetSourceId name imported, after.shared.session =
      w.shared.session.commit imported.opened.manifest.datasetId canonicalUrl datasetSourceId name imported := by
  cases event with
  | cancelBackground =>
    cases taken
    exact .inl rfl
  | act task action =>
    obtain ⟨⟨shared,state⟩,advanced,rfl⟩ := Option.map_eq_some_iff.mp taken
    rcases advance_cases advanced with ⟨_,_,command,_,applied⟩ | ⟨_,rfl,_⟩ | ⟨_,_,_,rfl,_⟩ | ⟨_,_,_,_,rfl,_⟩ |
      ⟨canonicalUrl,stage,stage',found,_,proceeded⟩
    · exact .inr (.inl ⟨command,congrArg Workspace.session applied.moved⟩)
    · exact .inl rfl
    · exact .inl rfl
    · exact .inl rfl
    · rcases proceed_cases proceeded with ⟨fresh,_,_,looked⟩ | ⟨id,name,imported,_,rfl,committed⟩ |
        ⟨id,opened,write,_,_,persisted⟩ | ⟨_,_,_,_,_,_,rfl,_⟩ | ⟨rfl,_⟩
      · unfold Workspace.lookup at looked
        split at looked
        · cases looked
          exact .inl rfl
        · split at looked
          · cases looked
            exact .inl rfl
          · cases looked
      · unfold Workspace.commit at committed
        split at committed
        · cases committed
          exact .inl rfl
        · cases committed
          obtain rfl := imports _ _ _ _ _ found
          exact .inr (.inr ⟨canonicalUrl,_,name,imported,rfl⟩)
      · unfold Workspace.persist at persisted
        split at persisted <;> cases persisted <;> exact .inl rfl
      · exact .inl rfl
      · exact .inl rfl

end

namespace PublishWorld

theorem restore_eq (session : Session R) (id : DatasetId) (canonicalUrl datasetSourceId name : String) (imported : Imported R) :
    let restored := session.restore id canonicalUrl datasetSourceId name imported
    restored.document = session.document ∧ restored.generatedAvailability =
      if imported.delta.levels.isEmpty then session.generatedAvailability
      else (session.applyGeneratedAvailabilityDelta id imported.delta).generatedAvailability := by
  unfold Session.restore
  dsimp only
  split <;> exact ⟨rfl,rfl⟩

variable [Numeric R] {datasetIdForUrl : String → String} {w after : PublishWorld R} {event : PublishEvent R}

theorem serve_cases (taken : w.next? datasetIdForUrl (.serve index served) = some after) :
    ∃ service world world', w.services.get? index = some (service,world) ∧
      {world with generatedAvailability := w.session.shown}.next? service served = some world' ∧
      (∀ datasetId, served ≠ .removeDataset datasetId) ∧
      after = {w.withSession (w.publishes (publication service world served)) with
        services := w.services.insert index (service,world')} := by
  cases served with
  | removeDataset datasetId => cases taken
  | _ =>
    obtain ⟨⟨service,world⟩,found,rest⟩ := Option.bind_eq_some_iff.mp taken
    obtain ⟨world',moved,same⟩ := Option.bind_eq_some_iff.mp rest
    exact ⟨service,world,world',found,moved,(by rintro _ ⟨⟩),(Option.some.inj same).symm⟩

inductive Moves (w : PublishWorld R) (event : PublishEvent R) (session : Session R) : Prop where
  | quiet : session.document = w.session.document → session.generatedAvailability = w.session.generatedAvailability →
      Moves w event session
  | applied (command : DocumentCommand R) : session = w.session.apply command → Moves w event session
  | committed (canonicalUrl datasetSourceId name : String) (imported : Imported R) :
      session = w.session.commit imported.opened.manifest.datasetId canonicalUrl datasetSourceId name imported →
      Moves w event session
  | published (datasetId : DatasetId) (delta : GeneratedLevels R) : session.document = w.session.document →
      session.generatedAvailability = (w.session.applyGeneratedAvailabilityDelta datasetId delta).generatedAvailability →
      (w.InTime event → w.session.document.manifests.contains datasetId) → Moves w event session

theorem next_moves (imports : w.opens.Imports) (taken : w.next? datasetIdForUrl event = some after) :
    Moves w event after.session := by
  cases event with
  | opens opening =>
    obtain ⟨opens,moved,rfl⟩ := Option.map_eq_some_iff.mp taken
    rcases OpenWorld.next_session imports moved with same | ⟨command,same⟩ | ⟨_,_,_,imported,same⟩
    · exact .quiet (congrArg Session.document same) (congrArg Session.generatedAvailability same)
    · exact .applied command same
    · exact .committed _ _ _ imported same
  | restore id canonicalUrl imported =>
    obtain ⟨row,_,same⟩ := Option.bind_eq_some_iff.mp taken
    cases same
    obtain ⟨document,availability⟩ := restore_eq w.session id canonicalUrl row.datasetSourceId row.displayName imported
    split at availability
    · exact .quiet document availability
    · rename_i levels
      exact .published id imported.delta document availability fun time => time.resolve_left levels
  | start index datasetId service cache =>
    simp only [next?] at taken
    split at taken <;> cases taken
    exact .quiet rfl rfl
  | serve index served =>
    obtain ⟨service,world,world',found,_,_,rfl⟩ := serve_cases taken
    change Moves w _ (w.publishes (publication service world served))
    cases published : publication service world served with
    | none => exact .quiet rfl rfl
    | some pair =>
      refine .published pair.1 ⟨[],pair.2⟩ rfl rfl fun time => time pair ?_
      rw [found]
      exact published

theorem next_imports (imports : w.opens.Imports) (taken : w.next? datasetIdForUrl event = some after) :
    after.opens.Imports := by
  cases event with
  | opens opening =>
    obtain ⟨opens,moved,rfl⟩ := Option.map_eq_some_iff.mp taken
    exact OpenWorld.next_imports imports moved
  | restore id canonicalUrl imported =>
    obtain ⟨row,_,same⟩ := Option.bind_eq_some_iff.mp taken
    cases same
    exact imports
  | start index datasetId service cache =>
    simp only [next?] at taken
    split at taken <;> cases taken
    exact imports
  | serve index served =>
    obtain ⟨service,world,world',_,_,_,rfl⟩ := serve_cases taken
    exact imports

theorem Moves.covered {session : Session R} (moves : Moves w event session) (time : w.InTime event)
    (covered : w.session.Covered) : session.Covered := by
  cases moves with
  | quiet document availability =>
    intro id kept
    rw [document]
    exact covered id (availability ▸ kept)
  | applied command same => exact same ▸ covered.apply command
  | committed canonicalUrl datasetSourceId name imported same => exact same ▸ covered.commit canonicalUrl datasetSourceId name
  | published datasetId delta document availability listed =>
    intro id kept
    rw [document]
    exact covered.publish (listed time) delta id (availability ▸ kept)

theorem Moves.oneEach {session : Session R} (moves : Moves w event session) (each : w.session.OneEach) : session.OneEach := by
  cases moves with
  | quiet document availability => exact fun id found stored => each id found (availability ▸ stored)
  | applied command same => exact same ▸ each.apply command
  | committed canonicalUrl datasetSourceId name imported same => exact same ▸ each.commit imported _ canonicalUrl datasetSourceId name
  | published datasetId delta document availability listed =>
    exact fun id found stored => each.publish datasetId delta id found (availability ▸ stored)

structure Sound (w : PublishWorld R) : Prop where
  imports : w.opens.Imports
  covered : w.session.Covered
  each : w.session.OneEach

theorem next_sound (sound : w.Sound) (time : w.InTime event) (taken : w.next? datasetIdForUrl event = some after) :
    after.Sound := by
  have moves := next_moves sound.imports taken
  exact ⟨next_imports sound.imports taken,moves.covered time sound.covered,moves.oneEach sound.each⟩

structure Woken (w : PublishWorld R) : Prop where
  tasks : w.opens.tasks = .empty
  services : w.services = .empty
  generated : w.session.generatedAvailability = .empty

omit [Numeric R] in
theorem woken_sound (woken : w.Woken) : w.Sound where
  imports task canonicalUrl id name imported found := by
    rw [woken.tasks] at found
    cases found
  covered id kept := by
    rw [woken.generated] at kept
    cases kept
  each id availability found := by
    rw [woken.generated] at found
    cases found

theorem generated_availability_stays_in_the_document {start : PublishWorld R} (woken : start.Woken)
    (path : Runs (fun w event after => w.next? datasetIdForUrl event = some after ∧ w.InTime event) start events w) :
    w.session.Covered ∧ w.session.OneEach ∧ ∀ availability delta : GeneratedLevels R,
      (availability.applyDelta delta).applyDelta delta = availability.applyDelta delta ∧
      (availability.OneEach → (availability.applyDelta delta).OneEach) := by
  have sound : w.Sound := path.preserves (fun _ _ _ sound taken => next_sound sound taken.2 taken.1) (woken_sound woken)
  exact ⟨sound.covered,sound.each,fun availability delta => ⟨availability.applyDelta_twice delta,fun each => each.applyDelta delta⟩⟩

end PublishWorld

section
open OpenEvent Action

def platePlan : GeneratedCoarsePlan := ⟨"wds-1","img",1,"coarse",⟨1,1,1,1,1⟩,⟨1,1,1,1,1⟩⟩

def plateService : Service := ⟨⟨[(("img",1),platePlan)],by decide⟩,by decide,["img"],1,16,16,true⟩

def wokenWorkspace : PublishWorld Int := ⟨newWorkspace,.empty⟩

-- The plate is opened, its one generated chunk is made, and the worker is about to tell the session.
def madeChunk : List (PublishEvent Int) :=
  [.opens (act 0 (call "gs://b/plate")),.opens (act 0 (authorize none)),.opens (act 0 (lookup "wds-1")),.opens (act 0 dedup),
    .opens (act 0 (imports (plateImport "wds-1"))),.start 0 "wds-1" plateService ⟨[],.empty,.empty,none⟩,
    .opens (act 0 commit),.opens (act 0 persist),
    .serve 0 (.prewarm (platePlan.workKey "1/0/0/0/0/0")),.serve 0 (.pop 0 0 0),.serve 0 (.check 0 0),.serve 0 (.check 0 0),
    .serve 0 (.look 0 false),.serve 0 (.check 0 0),.serve 0 (.generate 0 (.ok [7])),.serve 0 (.check 0 0),
    .serve 0 (.write 0 .stored),.serve 0 (.advance 0),.serve 0 (.advance 0)]

theorem generated_availability_of_a_published_chunk :
    ∃ w, Runs (fun w event after => w.next? sourceIdOf event = some after ∧ w.InTime event) wokenWorkspace
        (madeChunk ++ [.serve 0 (.advance 0)]) w ∧
      w.session.generatedAvailability.keys = ["wds-1"] ∧ w.session.Covered ∧ w.session.OneEach := by
  have reached : ∃ w, drive (guarded PublishWorld.InTime (PublishWorld.next? sourceIdOf)) wokenWorkspace
      (madeChunk ++ [.serve 0 (.advance 0)]) = some w ∧ w.session.generatedAvailability.keys = ["wds-1"] :=
    ⟨_,rfl,rfl⟩
  obtain ⟨w,ran,kept⟩ := reached
  have path := drive_guarded ran
  have held := PublishWorld.generated_availability_stays_in_the_document (w := w) ⟨rfl,rfl,rfl⟩ path
  exact ⟨w,path,kept,held.1,held.2.1⟩

-- The dataset is removed before the worker tells of its chunk, and telling brings the entry back.
theorem generated_availability_of_a_removed_dataset :
    ∃ w, Runs (fun w event after => w.next? sourceIdOf event = some after) wokenWorkspace
        (madeChunk ++ [.opens (act 1 (apply (.removeDataset "wds-1"))),.serve 0 (.advance 0)]) w ∧ ¬ w.session.Covered := by
  have reached : ∃ w, drive (PublishWorld.next? sourceIdOf) wokenWorkspace
      (madeChunk ++ [.opens (act 1 (apply (.removeDataset "wds-1"))),.serve 0 (.advance 0)]) = some w ∧
      w.session.generatedAvailability.contains "wds-1" = true ∧ w.session.document.manifests.contains "wds-1" = false :=
    ⟨_,rfl,rfl,rfl⟩
  obtain ⟨w,ran,kept,gone⟩ := reached
  refine ⟨w,drive_runs (fun _ _ _ taken => taken) ran,fun covered => ?_⟩
  rw [covered "wds-1" kept] at gone
  cases gone

end
end Lucida.Server
