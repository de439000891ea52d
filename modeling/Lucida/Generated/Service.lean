import Lucida.Lib.Runs
import Lucida.Generated.DerivedCache

namespace Lucida.Generated
open Content Core Lib

inductive MaterializeOneResult where
  | ready
  | cacheReused
  | failed
  | canceled
  deriving DecidableEq, Repr

inductive BuildSourceError where
  | fetch
  | missingEntity
  | missingImage
  | noTiles
  | badLevel
  | outOfBounds
  | spatialOutOfBounds
  | unknownImage
  | decode
  | shortChunk
  | tooLarge
  deriving DecidableEq, Repr

inductive GeneratedChunkBuildError where
  | source (error : BuildSourceError)
  | downsample
  deriving DecidableEq, Repr

def generatedStatusForChunkError : GeneratedChunkBuildError → GeneratedChunkStatus
  | .source .fetch => .failedTransient
  | .source _ => .failedPermanent
  | .downsample => .failedPermanent

inductive Checkpoint where
  | popped
  | entered
  | lookedUp
  | generated (bytes : Bytes)
  deriving DecidableEq, Repr

-- Why a worker publishes a delta, which decides what it does afterwards.
inductive Errand where
  | reused
  | made
  | withdrawn
  | failed
  deriving DecidableEq, Repr

-- Where a worker stands with its item. `should_cancel` takes the scheduler's
-- lock twice; a delta goes to the cache first and to the session later.
inductive Stage where
  | checking (checkpoint : Checkpoint)
  | confirming (checkpoint : Checkpoint)
  | canceling
  | looking
  | found (bytes : Bytes)
  | generating
  | writing (bytes : Bytes)
  | written (bytes : Bytes)
  | applying (errand : Errand) (delta : GeneratedAvailability)
  | telling (errand : Errand) (delta : GeneratedAvailability)
  | scanning
  | finished (result : MaterializeOneResult)
  deriving DecidableEq, Repr

structure Worker where
  item : GeneratedWorkItem
  stage : Stage
  deriving DecidableEq, Repr

-- `reads` are the lookups of clients that have read a file and not yet seeded it.
structure World where
  scheduler : GeneratedSchedulerState
  cache : DerivedChunkCache
  generatedAvailability : IndexMap DatasetId GeneratedAvailability
  workers : IndexMap Nat Worker
  reads : List (DerivedChunkKey × Bytes)

inductive WriteOutcome where
  | stored
  | refused (message : String)
  | unswept (message : String)
  deriving DecidableEq, Repr

inductive Event where
  | request (imageId : ImageId) (levelIndex : Nat) (key : String)
  | prewarm (workKey : GeneratedWorkKey)
  | interest (client : ClientId) (hint : ViewerInterestHint) (nowMs : Nat)
  | leave (client : ClientId) (nowMs : Nat)
  | shutdown (reason : String)
  | pop (worker nowMs laterMs : Nat)
  | check (worker nowMs : Nat)
  | look (worker : Nat) (readable : Bool)
  | generate (worker : Nat) (outcome : Except (GeneratedChunkBuildError × String) Bytes)
  | write (worker : Nat) (outcome : WriteOutcome)
  | advance (worker : Nat)
  | sweep (listing : List IdentityDir)
  | readFile (chunk : DerivedChunkKey)
  | seedRead
  | removeDataset (datasetId : DatasetId)

def GeneratedWorkKey.chunk (workKey : GeneratedWorkKey) : DerivedChunkKey :=
  ⟨workKey.imageId,workKey.levelIndex,workKey.key⟩

namespace Service

-- The chunk an item stands for: its plan and the canonical key of its coordinates.
def target (service : Service) (item : GeneratedWorkItem) : Option (GeneratedCoarsePlan × DerivedChunkKey) := do
  let plan ← service.plan item.workKey.imageId item.workKey.levelIndex
  let coords ← parseGeneratedChunkKey item.workKey.key
  if coords.levelIndex ≠ plan.levelIndex then none
  else some (plan,⟨plan.imageId,plan.levelIndex,chunkKey coords⟩)

-- `materialize_work_item` past its first check.
def enter (service : Service) (item : GeneratedWorkItem) : Stage :=
  match service.plan item.workKey.imageId item.workKey.levelIndex with
  | none => .finished .failed
  | some plan =>
    match parseGeneratedChunkKey item.workKey.key with
    | none => .applying .failed
        [⟨⟨plan.imageId,plan.levelIndex,item.workKey.key⟩,.failedPermanent,some "generated chunk key is malformed"⟩]
    | some coords => if coords.levelIndex ≠ plan.levelIndex then .finished .failed else .looking

def proceed (service : Service) (item : GeneratedWorkItem) : Checkpoint → Stage
  | .popped => .checking .entered
  | .entered => service.enter item
  | .lookedUp =>
    match service.target item with
    | none => .finished .failed
    | some (plan,chunk) =>
      if plan.imageId ∈ service.images then .generating
      else .applying .failed [⟨chunk,.failedPermanent,some "generated coarse source image disappeared"⟩]
  | .generated bytes => .writing bytes

end Service

-- The worker loop marks an item canceled itself only before it starts on it.
def Checkpoint.cancel : Checkpoint → Stage
  | .popped => .canceling
  | _ => .finished .canceled

def Errand.next : Errand → Stage
  | .reused => .finished .cacheReused
  | .made => .scanning
  | .withdrawn => .finished .ready
  | .failed => .finished .failed

namespace GeneratedSchedulerState

def enqueueChunkRequest (service : Service) (s : GeneratedSchedulerState) (imageId : ImageId) (levelIndex : Nat)
    (key : String) : GeneratedSchedulerState :=
  match service.plan imageId levelIndex with
  | none => s
  | some plan => s.request ⟨plan.datasetId,imageId,levelIndex,key⟩ .visible

def markCanceled (s : GeneratedSchedulerState) (workKey : GeneratedWorkKey) : GeneratedSchedulerState :=
  {s with running := s.running.erase workKey, canceled := s.canceled+1}

-- The end of a turn of the worker loop.
def finish (s : GeneratedSchedulerState) (workKey : GeneratedWorkKey) (result : MaterializeOneResult) :
    GeneratedSchedulerState :=
  let s := {s with running := s.running.erase workKey}
  match result with
  | .ready => {s with
      completedKeys := insert workKey s.completedKeys
      completed := s.completed+1
      readyBroadcasts := s.readyBroadcasts+1}
  | .cacheReused => {s with
      completedKeys := insert workKey s.completedKeys
      completed := s.completed+1
      cacheReused := s.cacheReused+1
      readyBroadcasts := s.readyBroadcasts+1}
  | .failed => {s with failed := s.failed+1}
  | .canceled => {s with canceled := s.canceled+1}

end GeneratedSchedulerState

namespace World

def setStage (w : World) (id : Nat) (stage : Stage) : World :=
  {w with workers := w.workers.modify id ({· with stage})}

def pop (service : Service) (w : World) (id nowMs laterMs : Nat) : World :=
  match w.scheduler.popNextWorkItem service nowMs laterMs with
  | (scheduler,none) => {w with scheduler}
  | (scheduler,some item) => {w with scheduler, workers := w.workers.insert id ⟨item,.checking .popped⟩}

-- One of the two locked reads of `should_cancel`.
def check (service : Service) (w : World) (id nowMs : Nat) : Option World := do
  let worker ← w.workers.get? id
  match worker.stage with
  | .checking checkpoint =>
    if w.scheduler.shutdownReason.isSome then w.setStage id checkpoint.cancel
    else if worker.item.lane = .background then w.setStage id (service.proceed worker.item checkpoint)
    else w.setStage id (.confirming checkpoint)
  | .confirming checkpoint =>
    if worker.item.workKey ∈ service.wantedWorkKeys w.scheduler nowMs then
      w.setStage id (service.proceed worker.item checkpoint)
    else w.setStage id checkpoint.cancel
  | _ => none

-- The file of a chunk as `load_ready_chunk` reads it, under the plan's identity.
def look (service : Service) (w : World) (id : Nat) (readable : Bool) : Option World := do
  let worker ← w.workers.get? id
  let (plan,chunk) ← service.target worker.item
  match worker.stage with
  | .looking =>
    match w.cache.disk.bind fun disk => if readable then disk.get plan.cacheIdentity chunk else none with
    | some bytes => w.setStage id (.found bytes)
    | none => w.setStage id (.checking .lookedUp)
  | _ => none

def generate (service : Service) (w : World) (id : Nat)
    (outcome : Except (GeneratedChunkBuildError × String) Bytes) : Option World := do
  let worker ← w.workers.get? id
  let (_,chunk) ← service.target worker.item
  match worker.stage with
  | .generating =>
    match outcome with
    | .ok bytes => w.setStage id (.checking (.generated bytes))
    | .error (error,message) =>
      w.setStage id (.applying .failed [⟨chunk,generatedStatusForChunkError error,some message⟩])
  | _ => none

def putFile (cache : DerivedChunkCache) (levelIdentity : String) (chunk : DerivedChunkKey) (bytes : Bytes) :
    DerivedChunkCache :=
  {cache with disk := cache.disk.map fun disk => disk.put levelIdentity chunk bytes}

-- The disk half of `put_ready_chunk_atomic`. A write can fail before the file is
-- in its place, or after it, when the budget cannot be enforced. Without a disk
-- nothing fails.
def write (service : Service) (w : World) (id : Nat) (outcome : WriteOutcome) : Option World := do
  let worker ← w.workers.get? id
  let (plan,chunk) ← service.target worker.item
  match worker.stage with
  | .writing bytes =>
    let failed (message : String) : Stage := .applying .failed [⟨chunk,.failedTransient,some message⟩]
    let stored := {w with cache := putFile w.cache plan.cacheIdentity chunk bytes}
    match outcome with
    | .stored => stored.setStage id (.written bytes)
    | .refused message => if w.cache.disk.isNone then none else w.setStage id (failed message)
    | .unswept message => if w.cache.disk.isNone then none else stored.setStage id (failed message)
  | _ => none

-- `Session::apply_generated_availability_delta`.
def tell (w : World) (datasetId : DatasetId) (delta : GeneratedAvailability) : World :=
  {w with generatedAvailability :=
    w.generatedAvailability.upsert datasetId fun chunks => (chunks.getD []).applyDelta delta}

def finish (w : World) (id : Nat) (workKey : GeneratedWorkKey) (result : MaterializeOneResult) : World :=
  {w with
    scheduler := w.scheduler.finish workKey result
    workers := w.workers.erase id}

def advance (service : Service) (w : World) (id : Nat) : Option World := do
  let worker ← w.workers.get? id
  match worker.stage with
  | .canceling =>
    some {w with
      scheduler := w.scheduler.markCanceled worker.item.workKey
      workers := w.workers.erase id}
  | .finished result => some (w.finish id worker.item.workKey result)
  | .found bytes =>
    let (_,chunk) ← service.target worker.item
    some ({w with cache := w.cache.seedReadyChunk chunk bytes}.setStage id (.applying .reused [⟨chunk,.ready,none⟩]))
  | .written bytes =>
    let (_,chunk) ← service.target worker.item
    some ({w with cache := w.cache.seedReadyChunk chunk bytes}.setStage id (.applying .made [⟨chunk,.ready,none⟩]))
  | .applying errand delta =>
    some ({w with cache := w.cache.applyDelta delta}.setStage id (.telling errand delta))
  | .telling errand delta =>
    let plan ← service.plan worker.item.workKey.imageId worker.item.workKey.levelIndex
    some ((w.tell plan.datasetId delta).setStage id errand.next)
  | .scanning =>
    let delta := w.cache.missingReadyDelta
    some (w.setStage id (if delta.isEmpty then .finished .ready else .applying .withdrawn delta))
  | _ => none

-- Every write under the dataset's directory ends by enforcing the budget: of a
-- chunk, of a readiness index, of a manifest, by this service or by another that
-- has the same source open.
def sweep (w : World) (listing : List IdentityDir) : World :=
  {w with cache := {w.cache with disk := w.cache.disk.map (·.enforceBudget listing)}}

-- A client's lookup of a chunk that is marked ready and not in memory.
def readFile (w : World) (chunk : DerivedChunkKey) : Option World := do
  let entry ← w.cache.chunks.get? chunk
  let identity ← w.cache.levelIdentities.get? (chunk.imageId,chunk.levelIndex)
  let disk ← w.cache.disk
  let bytes ← disk.get identity chunk
  if entry.status = .ready ∧ entry.bytes = none then some {w with reads := w.reads ++ [(chunk,bytes)]} else none

def seedRead (w : World) : Option World :=
  match w.reads with
  | [] => none
  | (chunk,bytes)::rest => some {w with cache := w.cache.seedReadyChunk chunk bytes, reads := rest}

-- `Session::apply` of a `RemoveDataset`.
def removeDataset (w : World) (datasetId : DatasetId) : World :=
  {w with generatedAvailability := w.generatedAvailability.erase datasetId}

def next? (service : Service) (w : World) : Event → Option World
  | .request imageId levelIndex key =>
    some {w with scheduler := w.scheduler.enqueueChunkRequest service imageId levelIndex key}
  | .prewarm workKey =>
    if workKey ∈ service.backgroundFill then some {w with scheduler := w.scheduler.request workKey .background}
    else none
  | .interest client hint nowMs =>
    some {w with scheduler := w.scheduler.applyViewerInterest service client hint nowMs}
  | .leave client nowMs => some {w with scheduler := w.scheduler.removeClientInterest service client nowMs}
  | .shutdown reason => some {w with scheduler := w.scheduler.shutdown reason}
  | .pop id nowMs laterMs =>
    if id < max 1 service.concurrency ∧ w.workers.get? id = none then some (w.pop service id nowMs laterMs) else none
  | .check id nowMs => w.check service id nowMs
  | .look id readable => w.look service id readable
  | .generate id outcome => w.generate service id outcome
  | .write id outcome => w.write service id outcome
  | .advance id => w.advance service id
  | .sweep listing => some (w.sweep listing)
  | .readFile chunk => w.readFile chunk
  | .seedRead => w.seedRead
  | .removeDataset datasetId => some (w.removeDataset datasetId)

def step (service : Service) (w : World) (event : Event) (after : World) : Prop := w.next? service event = some after

-- The service at its start: whatever the cache recovered and the session already
-- shows, with an empty scheduler and no worker at an item.
def initial (cache : DerivedChunkCache) (generatedAvailability : IndexMap DatasetId GeneratedAvailability) : World :=
  ⟨.default,cache,generatedAvailability,.empty,[]⟩

section Inversion
variable {service : Service} {w after : World} {id : Nat}

@[simp] theorem workers_setStage (w : World) (id other : Nat) (stage : Stage) :
    (w.setStage id stage).workers.get? other =
      if other = id then (w.workers.get? id).map ({· with stage}) else w.workers.get? other := by
  simp [setStage]

theorem check_cases (taken : w.check service id nowMs = some after) :
    ∃ worker checkpoint stage, w.workers.get? id = some worker ∧
      (worker.stage = .checking checkpoint ∨ worker.stage = .confirming checkpoint) ∧ after = w.setStage id stage ∧
      (stage = checkpoint.cancel ∨ stage = .confirming checkpoint ∨
        stage = service.proceed worker.item checkpoint) := by
  obtain ⟨worker,found,rest⟩ := Option.bind_eq_some_iff.mp taken
  split at rest
  · rename_i checkpoint standing
    split at rest
    · exact ⟨worker,checkpoint,_,found,.inl standing,(Option.some.inj rest).symm,.inl rfl⟩
    · split at rest
      · exact ⟨worker,checkpoint,_,found,.inl standing,(Option.some.inj rest).symm,.inr (.inr rfl)⟩
      · exact ⟨worker,checkpoint,_,found,.inl standing,(Option.some.inj rest).symm,.inr (.inl rfl)⟩
  · rename_i checkpoint standing
    split at rest
    · exact ⟨worker,checkpoint,_,found,.inr standing,(Option.some.inj rest).symm,.inr (.inr rfl)⟩
    · exact ⟨worker,checkpoint,_,found,.inr standing,(Option.some.inj rest).symm,.inl rfl⟩
  · cases rest

theorem look_cases (taken : w.look service id readable = some after) :
    ∃ worker plan chunk, w.workers.get? id = some worker ∧ service.target worker.item = some (plan,chunk) ∧
      worker.stage = .looking ∧
      ((∃ bytes, after = w.setStage id (.found bytes)) ∨ after = w.setStage id (.checking .lookedUp)) := by
  obtain ⟨worker,found,rest⟩ := Option.bind_eq_some_iff.mp taken
  obtain ⟨⟨plan,chunk⟩,target,rest⟩ := Option.bind_eq_some_iff.mp rest
  refine ⟨worker,plan,chunk,found,target,?_⟩
  dsimp only at rest
  split at rest
  · rename_i standing
    refine ⟨standing,?_⟩
    split at rest
    · exact .inl ⟨_,(Option.some.inj rest).symm⟩
    · exact .inr (Option.some.inj rest).symm
  · cases rest

theorem generate_cases (taken : w.generate service id outcome = some after) :
    ∃ worker plan chunk, w.workers.get? id = some worker ∧ service.target worker.item = some (plan,chunk) ∧
      worker.stage = .generating ∧
      ((∃ bytes, after = w.setStage id (.checking (.generated bytes))) ∨
        ∃ status message, after = w.setStage id (.applying .failed [⟨chunk,status,message⟩])) := by
  obtain ⟨worker,found,rest⟩ := Option.bind_eq_some_iff.mp taken
  obtain ⟨⟨plan,chunk⟩,target,rest⟩ := Option.bind_eq_some_iff.mp rest
  refine ⟨worker,plan,chunk,found,target,?_⟩
  dsimp only at rest
  split at rest
  · rename_i standing
    refine ⟨standing,?_⟩
    split at rest
    · exact .inl ⟨_,(Option.some.inj rest).symm⟩
    · exact .inr ⟨_,_,(Option.some.inj rest).symm⟩
  · cases rest

theorem write_cases (taken : w.write service id outcome = some after) :
    ∃ worker plan chunk bytes, w.workers.get? id = some worker ∧ service.target worker.item = some (plan,chunk) ∧
      worker.stage = .writing bytes ∧
      let stored := {w with cache := putFile w.cache plan.cacheIdentity chunk bytes}
      (outcome = .stored ∧ after = stored.setStage id (.written bytes)) ∨
        ∃ message, after = w.setStage id (.applying .failed [⟨chunk,.failedTransient,some message⟩]) ∨
          after = stored.setStage id (.applying .failed [⟨chunk,.failedTransient,some message⟩]) := by
  obtain ⟨worker,found,rest⟩ := Option.bind_eq_some_iff.mp taken
  obtain ⟨⟨plan,chunk⟩,target,rest⟩ := Option.bind_eq_some_iff.mp rest
  dsimp only at rest
  split at rest
  · rename_i bytes standing
    refine ⟨worker,plan,chunk,bytes,found,target,standing,?_⟩
    cases outcome with
    | stored => exact .inl ⟨rfl,(Option.some.inj rest).symm⟩
    | refused message =>
      dsimp only at rest
      split at rest
      · cases rest
      · exact .inr ⟨message,.inl (Option.some.inj rest).symm⟩
    | unswept message =>
      dsimp only at rest
      split at rest
      · cases rest
      · exact .inr ⟨message,.inr (Option.some.inj rest).symm⟩
  · cases rest

inductive Advance (service : Service) (w : World) (id : Nat) (worker : Worker) : World → Prop where
  | canceled : worker.stage = .canceling →
      Advance service w id worker
        {w with scheduler := w.scheduler.markCanceled worker.item.workKey, workers := w.workers.erase id}
  | finished : worker.stage = .finished result → Advance service w id worker (w.finish id worker.item.workKey result)
  | seeded : worker.stage = .found bytes ∧ errand = .reused ∨ worker.stage = .written bytes ∧ errand = .made →
      service.target worker.item = some (plan,chunk) →
      Advance service w id worker
        ({w with cache := w.cache.seedReadyChunk chunk bytes}.setStage id (.applying errand [⟨chunk,.ready,none⟩]))
  | applied : worker.stage = .applying errand delta →
      Advance service w id worker ({w with cache := w.cache.applyDelta delta}.setStage id (.telling errand delta))
  | told : worker.stage = .telling errand delta →
      service.plan worker.item.workKey.imageId worker.item.workKey.levelIndex = some plan →
      Advance service w id worker ((w.tell plan.datasetId delta).setStage id errand.next)
  | scanned : worker.stage = .scanning →
      Advance service w id worker (w.setStage id (if w.cache.missingReadyDelta.isEmpty then .finished .ready
        else .applying .withdrawn w.cache.missingReadyDelta))

theorem advance_cases (taken : w.advance service id = some after) :
    ∃ worker, w.workers.get? id = some worker ∧ Advance service w id worker after := by
  obtain ⟨worker,found,rest⟩ := Option.bind_eq_some_iff.mp taken
  refine ⟨worker,found,?_⟩
  split at rest
  · cases rest
    exact .canceled ‹_›
  · cases rest
    exact .finished ‹_›
  · obtain ⟨⟨plan,chunk⟩,target,rest⟩ := Option.bind_eq_some_iff.mp rest
    cases rest
    exact .seeded (.inl ⟨‹_›,rfl⟩) target
  · obtain ⟨⟨plan,chunk⟩,target,rest⟩ := Option.bind_eq_some_iff.mp rest
    cases rest
    exact .seeded (.inr ⟨‹_›,rfl⟩) target
  · cases rest
    exact .applied ‹_›
  · obtain ⟨plan,planned,rest⟩ := Option.bind_eq_some_iff.mp rest
    cases rest
    exact .told ‹_› planned
  · cases rest
    exact .scanned ‹_›
  · cases rest

theorem readFile_reads (taken : w.readFile chunk = some after) : ∃ reads, after = {w with reads} := by
  obtain ⟨_,_,rest⟩ := Option.bind_eq_some_iff.mp taken
  obtain ⟨_,_,rest⟩ := Option.bind_eq_some_iff.mp rest
  obtain ⟨_,_,rest⟩ := Option.bind_eq_some_iff.mp rest
  obtain ⟨_,_,rest⟩ := Option.bind_eq_some_iff.mp rest
  split at rest
  · exact ⟨_,(Option.some.inj rest).symm⟩
  · cases rest

theorem seedRead_seeds (taken : w.seedRead = some after) :
    ∃ chunk bytes rest, w.reads = (chunk,bytes)::rest ∧
      after = {w with cache := w.cache.seedReadyChunk chunk bytes, reads := rest} := by
  unfold seedRead at taken
  split at taken
  · cases taken
  · exact ⟨_,_,_,‹_›,(Option.some.inj taken).symm⟩

end Inversion
end World
end Lucida.Generated
