import Mathlib
import Lucida.Lib.NestedMap
import Lucida.Web.FetchScheduler

namespace Lucida.Web
open Lib

inductive Lane where
  | minimap
  | detail
  | coarse
  | prefetch
  | overview
  deriving DecidableEq, Repr

inductive ResidencyTier where
  | detail
  | coarse
  deriving DecidableEq, Repr

inductive EvictionTier where
  | prefetch
  | demotedDetail
  | activeDetail
  deriving DecidableEq, Repr

inductive InteractionMode where
  | panning
  | scrubbing
  | idle
  deriving DecidableEq, Repr

structure CacheEntry where
  sizeBytes : Nat
  lane : Lane
  tier : EvictionTier
  entityId : String
  level : Number
  chunkKey : String
  insertedAt : Number
  residencyTier : ResidencyTier
  priority : Number
  lastSeenTick : Number
  deriving DecidableEq, Repr

-- A comparator that takes the first difference that is not zero, as `a || b` does.
def firstDifference (differences : List Number) : Number := (differences.find? (· ≠ 0)).getD 0

-- `sort` by a comparator is stable.
def sortBy {E : Type} (compare : E → E → Number) (entries : List E) : List E := entries.mergeSort fun a b => compare a b ≤ 0

def takeFreed {E : Type} (size : E → Nat) (bytesNeeded : Number) : Number → List E → List E
  | _,[] => []
  | freed,entry::entries => if freed ≥ bytesNeeded then [] else entry::takeFreed size bytesNeeded (freed+size entry) entries

-- `LRUPolicy`
def lruVictims {E : Type} (insertedAt : E → Number) (size : E → Nat) (entries : List E) (bytesNeeded : Number) : List E :=
  if bytesNeeded ≤ 0 then []
  else takeFreed size bytesNeeded 0 (sortBy (fun a b => insertedAt a-insertedAt b) entries)

def byDistanceFromView (a b : CacheEntry) : Number :=
  firstDifference [a.lastSeenTick-b.lastSeenTick,b.priority-a.priority,a.insertedAt-b.insertedAt]

def getTierOrder : InteractionMode → List EvictionTier
  | .panning => [.prefetch,.demotedDetail,.activeDetail]
  | .scrubbing => [.demotedDetail,.activeDetail,.prefetch]
  | .idle => [.prefetch,.demotedDetail,.activeDetail]

-- What the policy of a store reads when it is asked.
inductive EvictionPolicy where
  | lru
  | tiered (mode : InteractionMode) (targetLevelFor : String → Option Number)

def isFiner (targetLevelFor : String → Option Number) (entry : CacheEntry) : Bool :=
  (targetLevelFor entry.entityId).any (entry.level < ·)

def tierEntries (tier : EvictionTier) (rest : List CacheEntry) : List CacheEntry :=
  let inTier := rest.filter (·.tier = tier)
  if tier = .activeDetail then sortBy byDistanceFromView inTier else sortBy (fun a b => a.insertedAt-b.insertedAt) inTier

-- Both passes, and every tier of the second, add to one count of the bytes freed.
def tieredVictims (mode : InteractionMode) (targetLevelFor : String → Option Number) (entries : List CacheEntry)
    (bytesNeeded : Number) : List CacheEntry :=
  if bytesNeeded ≤ 0 then []
  else
    let finer := entries.filter (isFiner targetLevelFor)
    let rest := entries.filter fun entry => !isFiner targetLevelFor entry
    takeFreed CacheEntry.sizeBytes bytesNeeded 0
      (sortBy (fun a b => firstDifference [a.level-b.level,byDistanceFromView a b]) finer ++
        (getTierOrder mode).flatMap fun tier => tierEntries tier rest)

def EvictionPolicy.selectVictims : EvictionPolicy → List CacheEntry → Number → List CacheEntry
  | .lru => lruVictims CacheEntry.insertedAt CacheEntry.sizeBytes
  | .tiered mode targetLevelFor => tieredVictims mode targetLevelFor

structure ChunkStore where
  store : NestedMap String String CacheEntry
  bytes : Number
  budgetBytes : Number
  levelCounts : List Int

namespace ChunkStore

def initial (budgetBytes : Number) : ChunkStore := ⟨.empty,0,budgetBytes,[]⟩

def get (s : ChunkStore) (entityId chunkKey : String) : Option CacheEntry := s.store.find? entityId chunkKey

def collectEntries (s : ChunkStore) : List CacheEntry := s.store.all

-- A level that is no index of the array is not counted.
def countLevel (level : Number) (delta : Int) (counts : List Int) : List Int :=
  if level.isInt ∧ 0 ≤ level then
    let index := level.num.toNat
    let counts := counts ++ List.replicate (index+1-counts.length) 0
    counts.modify index fun count => max 0 (count+delta)
  else counts

-- The entry is taken at its word: what stood under its keys is not looked at.
def removeEntry (s : ChunkStore) (entry : CacheEntry) : ChunkStore :=
  if s.store.contains entry.entityId then
    { s with
      store := s.store.drop entry.entityId entry.chunkKey
      bytes := s.bytes-entry.sizeBytes
      levelCounts := countLevel entry.level (-1) s.levelCounts }
  else s

def remove (s : ChunkStore) (entityId chunkKey : String) : ChunkStore × Bool :=
  match s.get entityId chunkKey with
  | none => (s,false)
  | some entry =>
    ({ s with
      store := s.store.drop entityId chunkKey
      bytes := s.bytes-entry.sizeBytes
      levelCounts := countLevel entry.level (-1) s.levelCounts },true)

-- What `evictIfNeeded` asks the policy for.
def victims (policy : EvictionPolicy) (incomingBytes : Number) (s : ChunkStore) : List CacheEntry :=
  if s.bytes+incomingBytes ≤ s.budgetBytes then []
  else policy.selectVictims s.collectEntries (s.bytes+incomingBytes-s.budgetBytes)

def evictIfNeeded (policy : EvictionPolicy) (incomingBytes : Number) (s : ChunkStore) : ChunkStore :=
  (s.victims policy incomingBytes).foldl removeEntry s

def setBudgetBytes (policy : EvictionPolicy) (budgetBytes : Number) (s : ChunkStore) : ChunkStore :=
  evictIfNeeded policy 0 { s with budgetBytes := max 0 budgetBytes }

-- The levels of a replaced entry are taken back, its bytes are not.
def insert (policy : EvictionPolicy) (entry : CacheEntry) (s : ChunkStore) : ChunkStore :=
  let s := s.evictIfNeeded policy entry.sizeBytes
  let counts := match s.get entry.entityId entry.chunkKey with
    | none => s.levelCounts
    | some replaced => countLevel replaced.level (-1) s.levelCounts
  { s with
    store := s.store.put entry.entityId entry.chunkKey entry
    bytes := s.bytes+entry.sizeBytes
    levelCounts := countLevel entry.level 1 counts }

-- One entity of `cancelDataset`.
def cancelEntity (s : ChunkStore) (entityId : String) : ChunkStore :=
  match s.store.get? entityId with
  | none => s
  | some entityMap =>
    { s with
      store := s.store.erase entityId
      bytes := entityMap.values.foldl (fun bytes entry => bytes-entry.sizeBytes) s.bytes
      levelCounts := entityMap.values.foldl (fun counts entry => countLevel entry.level (-1) counts) s.levelCounts }

def cancelDataset (entityIds : List String) (s : ChunkStore) : ChunkStore := entityIds.foldl cancelEntity s

def reset (s : ChunkStore) : ChunkStore := { s with store := .empty, bytes := 0, levelCounts := [] }

def demoteEntity (entityId : String) (s : ChunkStore) : ChunkStore :=
  { s with
    store := s.store.mapAll fun entity _ entry =>
      if entity = entityId ∧ entry.tier = .activeDetail then { entry with tier := .demotedDetail } else entry }

-- What `submit` writes through the live reference that `get` returns.
structure Refreshed where
  lane : Lane
  residencyTier : ResidencyTier
  tier : EvictionTier
  priority : Number
  lastSeenTick : Number
  deriving DecidableEq, Repr

def refresh (entityId chunkKey : String) (wanted : Refreshed) (s : ChunkStore) : ChunkStore :=
  { s with
    store := s.store.mapAll fun entity key entry =>
      if entity = entityId ∧ key = chunkKey then
        { entry with
          lane := wanted.lane
          residencyTier := wanted.residencyTier
          tier := wanted.tier
          priority := wanted.priority
          lastSeenTick := wanted.lastSeenTick }
      else entry }

end ChunkStore
end Lucida.Web
