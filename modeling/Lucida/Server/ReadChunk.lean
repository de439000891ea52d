import Lucida.Server.RegridReads
import Lucida.Store.ImportWellFormed
import Lucida.Store.ShardReads

namespace Lucida.Server
open Content Lib Store
open Store.ChunkCache (Bytes Path)

-- The level that a key names, and 0 if it names none.
def parseLevelFromChunkKey (key : String) : Nat := ((splitKey key).head?.bind (parseUnsigned 32)).getD 0

-- Stands in for a level that the binding does not have.
def unslicedLevelInfo : LevelBindingInfo :=
  { levelIndex := 0, compression := .none, chunkShape := [], chunkByteLayout := ⟨0,0,0,0,1,1⟩, shard := none, regrid := none }

-- The seeds make a map, in which a later one of an id stands in the place of an earlier one.
def seedOf (bindings : List ImageBindingSeed) (imageId : ImageId) : Option ImageBindingSeed := bindings.reverse.find? (·.imageId = imageId)

section
variable (seed : ImageBindingSeed)

def prefixed (storePath : String) : Path :=
  match seed.storePrefix with
  | some tilePrefix => pathFrom (tilePrefix ++ "/" ++ storePath)
  | none => pathFrom storePath

def resolveObject (key : String) : ChunkLocation :=
  let chunkShape := ((seed.levels[parseLevelFromChunkKey key]?).map (·.chunkShape)).getD (seed.axesNames.map fun _ => 1)
  .object (prefixed seed (chunkKeyToStorePath key seed.axesNames chunkShape))

def resolve (key : String) : Except (Stop ChunkCache.StoreError) ChunkLocation :=
  match (seed.levels[parseLevelFromChunkKey key]?).bind (·.shard) with
  | none => .ok (resolveObject seed key)
  | some layout => do
    match ← layout.locateInnerChunk key seed.axesNames with
    | some location => .ok (.innerChunk (prefixed seed location.path) location.position)
    | none => .ok (resolveObject seed key)

-- `regridded` reads a chunk of a level that is served at another shape than it is stored.
variable (codecs : Codecs) (objects : ChunkLocation → Except ChunkCache.StoreError Bytes)
  (regridded : LevelInfo → Regrid → Except (Stop ChunkReadError) ChunkRead)

def locationStop : Stop ChunkCache.StoreError → Stop ChunkReadError
  | .panic => .panic
  | .error error => .error (.objectStore error)

def readChunk (chunkKey : String) : Except (Stop ChunkReadError) ChunkRead :=
  let level := (seed.levels[parseLevelFromChunkKey chunkKey]?).getD unslicedLevelInfo
  match level.regrid with
  | some regrid => regridded level.toLevelInfo regrid
  | none => do
    let location ← (resolve seed chunkKey).mapError locationStop
    match objects location with
    | .error error =>
      if isNotFound error then .ok (.absent level.chunkByteLayout.canonicalByteSize) else .error (.error (.objectStore error))
    | .ok storageBytes => do
      let wire ← (decodeWireChunk codecs storageBytes level.toLevelInfo chunkKey).mapError .error
      .ok (.present wire)

-- The resolver of the image. What it says of a key that is not located is never asked for.
def resolverOf : ChunkResolver := fun _ =>
  some ⟨seed.axesNames,fun key => (resolve seed key).toOption.getD (resolveObject seed key)⟩

-- All stored chunks under the declared one are located before any is read.
def readRegridded (chunkKey : String) (level : LevelInfo) (regrid : Regrid) : Except (Stop ChunkReadError) ChunkRead := do
  let sources ← match ← RegridPlan.new chunkKey seed.axesNames level regrid with
    | none => pure []
    | some plan => plan.storedChunks
  let _ ← sources.mapM fun source => (resolve seed source.key).mapError locationStop
  (readRegriddedChunk codecs objects (resolverOf seed) seed.imageId chunkKey level regrid).outcome

def serveChunk (chunkKey : String) : Except (Stop ChunkReadError) ChunkRead :=
  readChunk seed codecs objects (readRegridded seed codecs objects chunkKey) chunkKey

end

section
variable (seed : ImageBindingSeed) (key : String)

def levelOf : Option LevelBindingInfo := seed.levels[parseLevelFromChunkKey key]?

def Regridded : Prop := ∃ level regrid, levelOf seed key = some level ∧ level.regrid = some regrid

end

section Stored
variable {seed : ImageBindingSeed} {key : String} {axes : List String} {codecs : Codecs}
  {objects : ChunkLocation → Except ChunkCache.StoreError Bytes}

theorem splitTurn_panic {state : List Nat × Nat} {turn : Nat × UInt64} (stopped : splitTurn state turn = .error stop) : stop = .panic := by
  unfold splitTurn at stopped
  split at stopped
  · cases stopped
    rfl
  · unfold Checked.mul Checked.add at stopped
    split at stopped
    · rw [ok_then] at stopped
      split at stopped
      · cases stopped
      · cases stopped
        rfl
    · cases stopped
      rfl

theorem splitTurns_panic {turns : List (Nat × UInt64)} {state : List Nat × Nat} (stopped : turns.foldlM splitTurn state = .error stop) :
    stop = .panic := by
  induction turns generalizing state with
  | nil => cases stopped
  | cons turn turns ih =>
    rw [List.foldlM_cons] at stopped
    cases first : splitTurn state turn with
    | error stop' =>
      rw [first,error_then] at stopped
      cases stopped
      exact splitTurn_panic first
    | ok middle =>
      rw [first,ok_then] at stopped
      exact ih stopped

theorem locate_panic {layout : ShardLayout} (stopped : layout.locateInnerChunk key axes = .error stop) : stop = .panic := by
  unfold ShardLayout.locateInnerChunk at stopped
  split at stopped
  · cases stopped
  · split at stopped
    · cases stopped
    · rename_i level inner _ _
      cases split : (inner.zip layout.chunksPerShard).foldlM splitTurn ([],0) with
      | error stop' =>
        rw [split,error_then] at stopped
        cases stopped
        exact splitTurns_panic split
      | ok found =>
        rw [split] at stopped
        cases stopped

theorem resolve_panic (stopped : resolve seed key = .error stop) : stop = .panic := by
  unfold resolve at stopped
  split at stopped
  · cases stopped
  · rename_i layout _
    cases located : layout.locateInnerChunk key seed.axesNames with
    | error stop' =>
      rw [located,error_then] at stopped
      cases stopped
      exact locate_panic located
    | ok found =>
      rw [located,ok_then] at stopped
      cases found <;> cases stopped

theorem serveChunk_stored (asStored : ¬Regridded seed key) : serveChunk seed codecs objects key = (do
    let location ← (resolve seed key).mapError locationStop
    match objects location with
    | .error error =>
      if isNotFound error then .ok (.absent ((levelOf seed key).getD unslicedLevelInfo).chunkByteLayout.canonicalByteSize)
      else .error (.error (.objectStore error))
    | .ok storageBytes => do
      let wire ← (decodeWireChunk codecs storageBytes ((levelOf seed key).getD unslicedLevelInfo).toLevelInfo key).mapError .error
      .ok (.present wire)) := by
  unfold serveChunk readChunk
  rw [show seed.levels[parseLevelFromChunkKey key]? = levelOf seed key from rfl]
  have none' : ((levelOf seed key).getD unslicedLevelInfo).regrid = none := by
    cases here : levelOf seed key with
    | none => rfl
    | some level =>
      cases set : level.regrid with
      | none => exact set
      | some regrid => exact absurd ⟨level,regrid,here,set⟩ asStored
  dsimp only
  rw [none']

end Stored

section Keys
variable {level t c : Nat} {cell : Zyx}

theorem parseLevel_chunkKeyOf (small : level < 2^32) : parseLevelFromChunkKey (chunkKeyOf level t c cell) = level := by
  rw [parseLevelFromChunkKey,splitKey_chunkKeyOf,List.map_cons,List.head?_cons,Option.bind_some,parseUnsigned_toDigits,
    Option.filter_some_pos (by simpa using small),Option.getD_some]

end Keys
end Lucida.Server
