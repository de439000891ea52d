import Mathlib.Data.List.Sort
import Lucida.Lib.IndexMap
import Lucida.Generated.Scheduler

namespace Lucida.Generated
open Content Core Lib

abbrev Bytes := List UInt8

inductive GeneratedChunkStatus where
  | pending
  | unavailable
  | failedTransient
  | failedPermanent
  | ready
  deriving DecidableEq, Repr

structure DerivedChunkKey where
  imageId : ImageId
  levelIndex : Nat
  key : String
  deriving DecidableEq, Repr

structure GeneratedChunkStatusUpdate where
  chunk : DerivedChunkKey
  status : GeneratedChunkStatus
  message : Option String
  deriving DecidableEq, Repr

-- The chunk part of a `GeneratedAvailabilitySnapshot`. No delta a worker
-- publishes carries levels.
abbrev GeneratedAvailability := List GeneratedChunkStatusUpdate

namespace GeneratedAvailability

def upsertChunk (chunks : GeneratedAvailability) (incoming : GeneratedChunkStatusUpdate) : GeneratedAvailability :=
  upsertFirst (·.chunk = incoming.chunk) (fun _ => incoming) incoming chunks

def applyDelta (chunks delta : GeneratedAvailability) : GeneratedAvailability := delta.foldl upsertChunk chunks

def status? (chunks : GeneratedAvailability) (chunk : DerivedChunkKey) : Option GeneratedChunkStatus :=
  (chunks.find? (·.chunk = chunk)).map (·.status)

theorem find?_updateFirst (chunks : GeneratedAvailability) (incoming : GeneratedChunkStatusUpdate) (chunk : DerivedChunkKey) :
    (updateFirst (·.chunk = incoming.chunk) (fun _ => incoming) chunks).find? (·.chunk = chunk) =
      if chunk = incoming.chunk then (chunks.find? (·.chunk = chunk)).map fun _ => incoming
      else chunks.find? (·.chunk = chunk) := by
  induction chunks with
  | nil => simp [updateFirst]
  | cons first rest ih =>
    simp only [updateFirst]
    grind

@[simp] theorem status?_upsertChunk (chunks : GeneratedAvailability) (incoming : GeneratedChunkStatusUpdate)
    (chunk : DerivedChunkKey) : (chunks.upsertChunk incoming).status? chunk =
      if chunk = incoming.chunk then some incoming.status else chunks.status? chunk := by
  unfold upsertChunk upsertFirst status?
  split
  · rename_i present
    rw [find?_updateFirst]
    split
    · rename_i same
      cases found : chunks.find? (·.chunk = chunk) with
      | none =>
        obtain ⟨update,member,hit⟩ := List.any_eq_true.mp present
        have miss := List.find?_eq_none.mp found update member
        exact absurd (by simpa [same] using hit) miss
      | some update => rfl
    · rfl
  · rename_i absent
    grind

def Spares (delta : GeneratedAvailability) (chunk : DerivedChunkKey) : Prop :=
  ∀ update ∈ delta, update.chunk = chunk → update.status = .ready

theorem applyDelta_ready {chunks delta : GeneratedAvailability} (spared : delta.Spares chunk)
    (ready : chunks.status? chunk = some .ready) : (chunks.applyDelta delta).status? chunk = some .ready := by
  unfold applyDelta
  induction delta generalizing chunks with
  | nil => exact ready
  | cons update rest ih =>
    refine ih (fun other member => spared other (List.mem_cons_of_mem _ member)) ?_
    rw [status?_upsertChunk]
    split
    · rename_i same
      rw [spared update List.mem_cons_self same.symm]
    · exact ready

end GeneratedAvailability

structure DerivedChunkEntry where
  status : GeneratedChunkStatus
  message : Option String
  bytes : Option Bytes
  deriving DecidableEq, Repr

def sanitizeSegment (segment : String) : String :=
  let kept := segment.toList.map fun c =>
    if c.isAlphanum || c = '-' || c = '_' || c = '.' then c else '_'
  if kept.isEmpty then "_" else String.ofList kept

structure ChunkPath where
  identityDir : String
  imageDir : String
  levelIndex : Nat
  file : String
  deriving DecidableEq, Repr

def chunkPath (levelIdentity : String) (chunk : DerivedChunkKey) : ChunkPath :=
  ⟨sanitizeSegment levelIdentity,sanitizeSegment chunk.imageId,chunk.levelIndex,sanitizeSegment chunk.key⟩

-- A level's directory as `enforce_budget` finds it in the directory of the dataset.
structure IdentityDir where
  name : String
  bytes : Nat
  modified : Nat
  deriving DecidableEq, Repr

structure DerivedDiskCache where
  diskBudgetBytes : Option Nat
  files : IndexMap ChunkPath Bytes

namespace DerivedDiskCache

def evictUntil (budget : Nat) : Nat → List IdentityDir → List String
  | _,[] => []
  | total,dir::rest =>
    if total ≤ budget then [] else dir.name::evictUntil budget (total-dir.bytes) rest

-- The directories that go: oldest first, until the rest fits.
def evictedBy (disk : DerivedDiskCache) (listing : List IdentityDir) : List String :=
  match disk.diskBudgetBytes with
  | none => []
  | some budget =>
    evictUntil budget (listing.foldl (fun total dir => saturatingAdd total dir.bytes) 0)
      (listing.insertionSort fun a b => a.modified ≤ b.modified)

def enforceBudget (disk : DerivedDiskCache) (listing : List IdentityDir) : DerivedDiskCache :=
  {disk with files := disk.files.retain fun path _ => path.identityDir ∉ disk.evictedBy listing}

def chunkExists (disk : DerivedDiskCache) (levelIdentity : String) (chunk : DerivedChunkKey) : Bool :=
  disk.files.contains (chunkPath levelIdentity chunk)

def get (disk : DerivedDiskCache) (levelIdentity : String) (chunk : DerivedChunkKey) : Option Bytes :=
  disk.files.get? (chunkPath levelIdentity chunk)

def put (disk : DerivedDiskCache) (levelIdentity : String) (chunk : DerivedChunkKey) (bytes : Bytes) :
    DerivedDiskCache :=
  {disk with files := disk.files.insert (chunkPath levelIdentity chunk) bytes}

end DerivedDiskCache

structure DerivedChunkCache where
  availability : GeneratedAvailability
  levelIdentities : IndexMap (ImageId × Nat) String
  chunks : IndexMap DerivedChunkKey DerivedChunkEntry
  disk : Option DerivedDiskCache

namespace DerivedChunkCache

def noteStatus (chunks : IndexMap DerivedChunkKey DerivedChunkEntry) (update : GeneratedChunkStatusUpdate) :
    IndexMap DerivedChunkKey DerivedChunkEntry :=
  chunks.upsert update.chunk fun entry => match entry with
    | some entry => ⟨update.status,update.message,if update.status ≠ .ready then none else entry.bytes⟩
    | none => ⟨update.status,update.message,none⟩

-- The readiness indexes it writes to disk are left out: of a write there, only
-- the eviction it ends with reaches the chunks.
def applyDelta (cache : DerivedChunkCache) (delta : GeneratedAvailability) : DerivedChunkCache :=
  {cache with
    availability := cache.availability.applyDelta delta
    chunks := delta.foldl noteStatus cache.chunks}

def seedReadyChunk (cache : DerivedChunkCache) (chunk : DerivedChunkKey) (bytes : Bytes) : DerivedChunkCache :=
  {cache with
    availability := cache.availability.upsertChunk ⟨chunk,.ready,none⟩
    chunks := cache.chunks.insert chunk ⟨.ready,none,some bytes⟩}

def fileMissing (cache : DerivedChunkCache) (chunk : DerivedChunkKey) : Bool :=
  match cache.disk,cache.levelIdentities.get? (chunk.imageId,chunk.levelIndex) with
  | some disk,some identity => !disk.chunkExists identity chunk
  | _,_ => false

def missingReadyDelta (cache : DerivedChunkCache) : GeneratedAvailability :=
  cache.chunks.entries.filterMap fun entry =>
    if entry.2.status ≠ .ready then none
    else if cache.fileMissing entry.1 then
      some ⟨entry.1,.unavailable,some "generated chunk was evicted from derived cache"⟩
    else none

def status? (cache : DerivedChunkCache) (chunk : DerivedChunkKey) : Option GeneratedChunkStatus :=
  (cache.chunks.get? chunk).map (·.status)

def Ready (cache : DerivedChunkCache) (chunk : DerivedChunkKey) : Prop :=
  cache.status? chunk = some .ready ∧ cache.availability.status? chunk = some .ready

theorem status_noteStatus (chunks : IndexMap DerivedChunkKey DerivedChunkEntry) (update : GeneratedChunkStatusUpdate)
    (chunk : DerivedChunkKey) : ((noteStatus chunks update).get? chunk).map (·.status) =
      if chunk = update.chunk then some update.status else (chunks.get? chunk).map (·.status) := by
  unfold noteStatus
  rw [IndexMap.get?_upsert]
  split
  · cases chunks.get? update.chunk <;> rfl
  · rfl

theorem noteStatuses_ready {chunks : IndexMap DerivedChunkKey DerivedChunkEntry} {delta : GeneratedAvailability}
    (spared : delta.Spares chunk)
    (ready : (chunks.get? chunk).map (·.status) = some .ready) :
    ((delta.foldl noteStatus chunks).get? chunk).map (·.status) = some .ready := by
  induction delta generalizing chunks with
  | nil => exact ready
  | cons update rest ih =>
    refine ih (fun other member => spared other (List.mem_cons_of_mem _ member)) ?_
    rw [status_noteStatus]
    split
    · rename_i same
      rw [spared update List.mem_cons_self same.symm]
    · exact ready

theorem applyDelta_ready {cache : DerivedChunkCache} {delta : GeneratedAvailability} (spared : delta.Spares chunk)
    (ready : cache.Ready chunk) : (cache.applyDelta delta).Ready chunk :=
  ⟨noteStatuses_ready spared ready.1,GeneratedAvailability.applyDelta_ready spared ready.2⟩

theorem seedReadyChunk_ready (cache : DerivedChunkCache) (seeded : DerivedChunkKey) (bytes : Bytes)
    (ready : chunk = seeded ∨ cache.Ready chunk) : (cache.seedReadyChunk seeded bytes).Ready chunk := by
  unfold Ready seedReadyChunk status?
  rcases ready with rfl | ready
  · simp
  · have both := ready
    unfold Ready status? at both
    constructor
    · rw [IndexMap.get?_insert]
      split
      · rfl
      · exact both.1
    · rw [GeneratedAvailability.status?_upsertChunk]
      split
      · rfl
      · exact both.2

theorem missingReadyDelta_missing {cache : DerivedChunkCache} (listed : update ∈ cache.missingReadyDelta) :
    cache.fileMissing update.chunk := by
  obtain ⟨entry,_,made⟩ := List.mem_filterMap.mp listed
  split at made
  · cases made
  · split at made
    · rename_i missing
      cases made
      exact missing
    · cases made

end DerivedChunkCache
end Lucida.Generated
