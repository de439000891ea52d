import Lucida.Lib.Runs
import Lucida.Core.Document
import Lucida.Generated.DerivedCache

namespace Lucida.Server
open Content Core Lib

variable {R : Type}

inductive DatasetOpenStage where
  | requestReceived
  | authorization
  | sourceLookup
  | backendOpen
  | metadataImport
  | bindingBuild
  | generatedCoarsePlanning
  | workspacePersist
  | broadcast
  | complete
  deriving DecidableEq, Repr

inductive DatasetOpenFailureKind where
  | authorization
  | sessionClosed
  | workspaceLookup
  | unsupportedScheme
  | localPath
  | missingObject
  | permission
  | cloudConfiguration
  | http
  | storageBackend
  | unsupportedCodec
  | unsupportedLayout
  | malformedMetadata
  | missingMetadata
  | importing
  | persistence
  | internal
  deriving DecidableEq, Repr

structure DatasetOpenFailureDiagnostic where
  stage : DatasetOpenStage
  kind : DatasetOpenFailureKind
  retryable : Bool
  message : String
  detail : Option String
  deriving DecidableEq, Repr

namespace DatasetOpenFailureDiagnostic

def closed : DatasetOpenFailureDiagnostic := ⟨.authorization,.sessionClosed,true,"workspace runtime is closed",none⟩

def forbidden (error : String) : DatasetOpenFailureDiagnostic :=
  ⟨.authorization,.authorization,false,"workspace role cannot add datasets",some error⟩

def lookupFailed (error : String) : DatasetOpenFailureDiagnostic :=
  ⟨.sourceLookup,.workspaceLookup,true,"workspace dataset lookup failed",some error⟩

def persistFailed (error : String) : DatasetOpenFailureDiagnostic :=
  ⟨.workspacePersist,.persistence,true,"workspace persistence failed",some error⟩

end DatasetOpenFailureDiagnostic

structure GeneratedLevelSummary where
  totalChunks : Nat
  readyChunks : Nat
  pendingChunks : Nat
  failedChunks : Nat
  deriving DecidableEq, Repr

structure GeneratedLevelAvailability (R : Type) where
  imageId : ImageId
  info : GeneratedLevelInfo
  level : LevelGeometry R
  summary : Option GeneratedLevelSummary
  deriving DecidableEq, Repr

-- `GeneratedAvailabilitySnapshot`, and the delta with the same two lists.
structure GeneratedLevels (R : Type) where
  levels : List (GeneratedLevelAvailability R)
  chunks : Generated.GeneratedAvailability
  deriving DecidableEq, Repr

def GeneratedLevels.applyDelta (availability delta : GeneratedLevels R) : GeneratedLevels R where
  levels := delta.levels.foldl (fun levels incoming =>
    upsertFirst (fun level => level.imageId = incoming.imageId ∧ level.info.levelIndex = incoming.info.levelIndex)
      (fun _ => incoming) incoming levels) availability.levels
  chunks := availability.chunks.applyDelta delta.chunks

structure ServerBinding (R : Type) where
  sourceUrl : String
  datasetOpened : DatasetOpened R

structure DatasetBindingRuntimeState where
  sourceUrl : String
  datasetSourceId : Option String
  displayName : String
  lastRestoreFailure : Option DatasetOpenFailureDiagnostic

-- The parts of a `Session` that datasets come and go in.
structure Session (R : Type) where
  document : DocumentState R
  seq : Nat
  serverBindings : IndexMap DatasetId (ServerBinding R)
  bindingRuntime : IndexMap DatasetId DatasetBindingRuntimeState
  generatedAvailability : IndexMap DatasetId (GeneratedLevels R)

-- A row of `workspace_datasets`.
structure WorkspaceDataset where
  datasetSourceId : String
  displayName : String
  deriving DecidableEq, Repr

-- What the store keeps of one workspace for its live session.
structure StoredWorkspace (R : Type) where
  seq : Nat
  document : DocumentState R
  datasets : IndexMap DatasetId WorkspaceDataset

inductive WriteKind where
  | document
  | removed (id : DatasetId)
  | renamed (id : DatasetId) (displayName : String)
  | opened (id : DatasetId) (datasetSourceId displayName : String)
  deriving DecidableEq, Repr

-- The arguments of one of the `persist_*` calls.
structure Write (R : Type) where
  kind : WriteKind
  seq : Nat
  document : DocumentState R

namespace StoredWorkspace

def datasetBySource (store : StoredWorkspace R) (datasetSourceId : String) : Option (DatasetId × WorkspaceDataset) :=
  store.datasets.entries.find? (·.2.datasetSourceId = datasetSourceId)

-- The statements on `workspace_datasets`. A taken id is an error unless the source is
-- taken too.
def writeDatasets (datasets : IndexMap DatasetId WorkspaceDataset) : WriteKind → Option (IndexMap DatasetId WorkspaceDataset)
  | .document => some datasets
  | .removed id => some (datasets.erase id)
  | .renamed id displayName => some (datasets.modify id ({· with displayName}))
  | .opened id datasetSourceId displayName =>
    if datasets.entries.any (·.2.datasetSourceId = datasetSourceId) then some datasets
    else if datasets.contains id then none
    else some (datasets.insert id ⟨datasetSourceId,displayName⟩)

-- One transaction with `PERSIST_DOCUMENT`, which asks nothing of the stored seq.
def persist (store : StoredWorkspace R) (write : Write R) : Option (StoredWorkspace R) :=
  (writeDatasets store.datasets write.kind).map fun datasets => ⟨write.seq,write.document,datasets⟩

end StoredWorkspace

-- What an import yields: the event, and the availability the derived cache recovered.
structure Imported (R : Type) where
  opened : DatasetOpened R
  delta : GeneratedLevels R

inductive DatasetOpenOutcome (R : Type) where
  | opened (id : DatasetId) (seq : Nat) (opened : DatasetOpened R)
  | cancelled

abbrev OpenResult (R : Type) := Except DatasetOpenFailureDiagnostic (DatasetOpenOutcome R)

namespace Session

def findLoadedBinding (session : Session R) (id : DatasetId) (canonicalUrl : String) : Option (DatasetId × DatasetOpened R) :=
  match if session.document.manifests.contains id then session.serverBindings.get? id else none with
  | some binding => some (id,binding.datasetOpened)
  | none =>
    (session.serverBindings.entries.find? fun entry =>
      entry.2.sourceUrl = canonicalUrl && session.document.manifests.contains entry.1).map fun entry =>
        (entry.1,entry.2.datasetOpened)

variable [Numeric R]

def apply (session : Session R) (command : DocumentCommand R) : Session R :=
  let forgotten := match command with
    | .removeDataset id =>
      {session with
        generatedAvailability := session.generatedAvailability.erase id
        bindingRuntime := session.bindingRuntime.erase id}
    | _ => session
  {forgotten with document := session.document.apply command, seq := session.seq + 1}

def commit (session : Session R) (id : DatasetId) (canonicalUrl datasetSourceId name : String) (imported : Imported R) :
    Session R :=
  let applied := session.apply (.datasetOpened imported.opened)
  {applied with
    generatedAvailability :=
      if imported.delta.levels.isEmpty then applied.generatedAvailability
      else applied.generatedAvailability.upsert id fun old => (old.getD ⟨[],[]⟩).applyDelta imported.delta
    bindingRuntime := applied.bindingRuntime.insert id ⟨canonicalUrl,some datasetSourceId,name,none⟩
    serverBindings := applied.serverBindings.insert id ⟨canonicalUrl,imported.opened⟩}

end Session

-- The name an import gets where no row has one: the last component of the URL.
def defaultDatasetName (canonicalUrl : String) : String :=
  (((canonicalUrl.toList.splitOn '/').reverse.find? (· ≠ [])).map String.ofList).getD "dataset"

-- What a call of `open_dataset` does next.
inductive OpenStage (R : Type) where
  | authorizing
  | lookingUp
  | deduping (id : DatasetId) (name : String)
  | importing (id : DatasetId) (name : String)
  | committing (id : DatasetId) (name : String) (imported : Imported R)
  | persisting (id : DatasetId) (opened : DatasetOpened R) (write : Write R)
  | returned (result : OpenResult R)

-- A command or a rename waits for its write only.
inductive Task (R : Type) where
  | writing (write : Write R)
  | opening (canonicalUrl : String) (stage : OpenStage R)
  | written

-- What the tasks share. `minted` has the workspace dataset ids there are, each with the
-- source it was made for, as a new id is never one of them.
structure Workspace (R : Type) where
  session : Session R
  store : StoredWorkspace R
  cancelled : Bool
  minted : IndexMap DatasetId String

inductive Action (R : Type) where
  | apply (command : DocumentCommand R)
  | rename (id : DatasetId) (name : String)
  | call (canonicalUrl : String)
  | authorize (refusal : Option String)
  | lookup (fresh : DatasetId)
  | lookupFails (error : String)
  | dedup
  | imports (imported : Imported R)
  | importFails (failure : DatasetOpenFailureDiagnostic)
  | commit
  | persist
  | persistFails (error : String)

namespace Workspace
variable [Numeric R] (datasetIdForUrl : String → String)

-- `apply_document_command` behind its gate: a client may not open a dataset by a
-- command, and a rename has its own path.
def applies (shared : Workspace R) (command : DocumentCommand R) : Option (Workspace R × Task R) :=
  let session := shared.session.apply command
  let write kind : Workspace R × Task R := ({shared with session},.writing ⟨kind,session.seq,session.document⟩)
  match command with
  | .datasetOpened _ | .renameDataset _ _ => none
  | .removeDataset id => some (write (.removed id))
  | _ => some (write .document)

def renames (shared : Workspace R) (id : DatasetId) (name : String) : Option (Workspace R × Task R) :=
  if shared.session.document.manifests.contains id then
    let session := shared.session.apply (.renameDataset id name)
    some ({shared with session},.writing ⟨.renamed id name,session.seq,session.document⟩)
  else none

-- An open goes on under the id of the row of its source, or under a new one.
def lookup (shared : Workspace R) (canonicalUrl : String) (fresh : DatasetId) : Option (Workspace R × OpenStage R) :=
  match shared.store.datasetBySource (datasetIdForUrl canonicalUrl) with
  | some (id,row) => some (shared,.deduping id row.displayName)
  | none =>
    if shared.minted.get? fresh = none then
      some ({shared with minted := shared.minted.insert fresh (datasetIdForUrl canonicalUrl)},
        .deduping fresh (defaultDatasetName canonicalUrl))
    else none

-- The rebroadcast of a loaded dataset shows the manifest of the document.
def dedup (shared : Workspace R) (canonicalUrl : String) (id : DatasetId) (name : String) : OpenStage R :=
  match shared.session.findLoadedBinding id canonicalUrl with
  | some (existing,opened) =>
    let manifest := (shared.session.document.manifests.get? existing).getD opened.manifest
    .returned (.ok (.opened existing shared.session.seq {opened with manifest}))
  | none => .importing id name

def commit (shared : Workspace R) (canonicalUrl : String) (id : DatasetId) (name : String) (imported : Imported R) :
    Workspace R × OpenStage R :=
  match shared.session.findLoadedBinding id canonicalUrl with
  | some (existing,opened) => (shared,.returned (.ok (.opened existing shared.session.seq opened)))
  | none =>
    let datasetSourceId := datasetIdForUrl canonicalUrl
    let session := shared.session.commit id canonicalUrl datasetSourceId name imported
    ({shared with session},
      .persisting id imported.opened ⟨.opened id datasetSourceId name,session.seq,session.document⟩)

def persist (shared : Workspace R) (id : DatasetId) (opened : DatasetOpened R) (write : Write R) : Workspace R × OpenStage R :=
  match shared.store.persist write with
  | some store => ({shared with store},.returned (.ok (.opened id write.seq opened)))
  | none => (shared,.returned (.error (.persistFailed "UNIQUE constraint failed: workspace_datasets.id")))

-- One call of the store or one section under the session lock. `imports` has the backend,
-- the import and the check for a cancelled workspace after it.
def proceed (shared : Workspace R) (canonicalUrl : String) : OpenStage R → Action R → Option (Workspace R × OpenStage R)
  | .authorizing,.authorize none => some (shared,.lookingUp)
  | .authorizing,.authorize (some error) => some (shared,.returned (.error (.forbidden error)))
  | .lookingUp,.lookup fresh => shared.lookup datasetIdForUrl canonicalUrl fresh
  | .lookingUp,.lookupFails error => some (shared,.returned (.error (.lookupFailed error)))
  | .deduping id name,.dedup => some (shared,shared.dedup canonicalUrl id name)
  | .importing id name,.imports imported =>
    if imported.opened.manifest.datasetId = id then
      some (shared,if shared.cancelled then .returned (.ok .cancelled) else .committing id name imported)
    else none
  | .importing _ _,.importFails failure => some (shared,.returned (.error failure))
  | .committing id name imported,.commit => some (shared.commit datasetIdForUrl canonicalUrl id name imported)
  | .persisting id opened write,.persist => some (shared.persist id opened write)
  | .persisting _ _ _,.persistFails error => some (shared,.returned (.error (.persistFailed error)))
  | _,_ => none

def advance (shared : Workspace R) : Option (Task R) → Action R → Option (Workspace R × Task R)
  | none,.apply command => shared.applies command
  | none,.rename id name => shared.renames id name
  | none,.call canonicalUrl =>
    some (shared,.opening canonicalUrl (if shared.cancelled then .returned (.error .closed) else .authorizing))
  | some (.writing write),.persist => some ({shared with store := (shared.store.persist write).getD shared.store},.written)
  | some (.writing _),.persistFails _ => some (shared,.written)
  | some (.opening canonicalUrl stage),action =>
    (shared.proceed datasetIdForUrl canonicalUrl stage action).map fun (shared,stage) => (shared,.opening canonicalUrl stage)
  | _,_ => none

end Workspace

section
variable {shared shared' : Workspace R} {canonicalUrl : String} {stage stage' : OpenStage R} {action : Action R}

-- The steps of an open that change nothing the tasks share.
inductive Quietly (shared : Workspace R) (canonicalUrl : String) : OpenStage R → OpenStage R → Prop where
  | authorized : Quietly shared canonicalUrl .authorizing .lookingUp
  | forbidden {error : String} : Quietly shared canonicalUrl .authorizing (.returned (.error (.forbidden error)))
  | lookupFailed {error : String} : Quietly shared canonicalUrl .lookingUp (.returned (.error (.lookupFailed error)))
  | dedup {id : DatasetId} {name : String} : Quietly shared canonicalUrl (.deduping id name) (shared.dedup canonicalUrl id name)
  | imported {id : DatasetId} {name : String} {imported : Imported R} : imported.opened.manifest.datasetId = id →
      Quietly shared canonicalUrl (.importing id name) (.committing id name imported)
  | cancelled {id : DatasetId} {name : String} : Quietly shared canonicalUrl (.importing id name) (.returned (.ok .cancelled))
  | importFailed {id : DatasetId} {name : String} {failure : DatasetOpenFailureDiagnostic} :
      Quietly shared canonicalUrl (.importing id name) (.returned (.error failure))

variable [Numeric R] {datasetIdForUrl : String → String}

theorem proceed_cases (proceeded : shared.proceed datasetIdForUrl canonicalUrl stage action = some (shared',stage')) :
    (∃ fresh, action = .lookup fresh ∧ stage = .lookingUp ∧
      shared.lookup datasetIdForUrl canonicalUrl fresh = some (shared',stage')) ∨
    (∃ id name imported, action = .commit ∧ stage = .committing id name imported ∧
      shared.commit datasetIdForUrl canonicalUrl id name imported = (shared',stage')) ∨
    (∃ id opened write, action = .persist ∧ stage = .persisting id opened write ∧
      shared.persist id opened write = (shared',stage')) ∨
    (∃ id opened write error, action = .persistFails error ∧ stage = .persisting id opened write ∧ shared' = shared ∧
      stage' = .returned (.error (.persistFailed error))) ∨
    shared' = shared ∧ Quietly shared canonicalUrl stage stage' := by
  unfold Workspace.proceed at proceeded
  split at proceeded
  · cases proceeded
    exact .inr (.inr (.inr (.inr ⟨rfl,.authorized⟩)))
  · cases proceeded
    exact .inr (.inr (.inr (.inr ⟨rfl,.forbidden⟩)))
  · exact .inl ⟨_,rfl,rfl,proceeded⟩
  · cases proceeded
    exact .inr (.inr (.inr (.inr ⟨rfl,.lookupFailed⟩)))
  · cases proceeded
    exact .inr (.inr (.inr (.inr ⟨rfl,.dedup⟩)))
  · split at proceeded
    · rename_i own
      cases proceeded
      refine .inr (.inr (.inr (.inr ⟨rfl,?_⟩)))
      split
      · exact .cancelled
      · exact .imported own
    · cases proceeded
  · cases proceeded
    exact .inr (.inr (.inr (.inr ⟨rfl,.importFailed⟩)))
  · exact .inr (.inl ⟨_,_,_,rfl,rfl,Option.some.inj proceeded⟩)
  · exact .inr (.inr (.inl ⟨_,_,_,rfl,rfl,Option.some.inj proceeded⟩))
  · cases proceeded
    exact .inr (.inr (.inr (.inl ⟨_,_,_,_,rfl,rfl,rfl,rfl⟩)))
  · cases proceeded

end

structure OpenWorld (R : Type) where
  shared : Workspace R
  tasks : IndexMap Nat (Task R)

inductive OpenEvent (R : Type) where
  | act (task : Nat) (action : Action R)
  | cancelBackground

def OpenWorld.next? [Numeric R] (datasetIdForUrl : String → String) (w : OpenWorld R) : OpenEvent R → Option (OpenWorld R)
  | .act task action =>
    (w.shared.advance datasetIdForUrl (w.tasks.get? task) action).map fun (shared,state) => ⟨shared,w.tasks.insert task state⟩
  | .cancelBackground => some {w with shared := {w.shared with cancelled := true}}

end Lucida.Server
