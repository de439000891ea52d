import Lucida.Server.ArrayReads

namespace Lucida.Server
open Content Lib Store
open Store.ChunkCache (Bytes Path)

-- Six parts between slashes, each of them an unsigned integer.
def WellFormed (key : String) : Prop := (splitKey key).length = 6 ∧ ∀ part ∈ splitKey key, (parseUnsigned 64 part).isSome

instance (key : String) : Decidable (WellFormed key) := inferInstanceAs (Decidable (_ ∧ _))

-- What the grid of an image reads of a key: six parts, the last with all that is left, and a number
-- on each axis of the image. The parts of other axes and the level may be anything.
def NamesChunk (key : String) (axes : List String) : Prop :=
  (splitn 6 key.toList).length = 6 ∧
    ∀ name ∈ axes, ∀ index, axisIndex name = some index → (parseUnsigned 64 ((splitn 6 key.toList).getD (index+1) [])).isSome

section
variable (seed : ImageBindingSeed) (key : String)

def chunkShapeOf : List UInt64 := ((levelOf seed key).map (·.chunkShape)).getD (seed.axesNames.map fun _ => 1)

inductive LeadsTo : ChunkLocation → Prop
  | itself (unread : ¬NamesChunk key seed.axesNames) : LeadsTo (.object (prefixed seed key))
  | chunk (named : chunkKeyGridCoords key seed.axesNames (chunkShapeOf seed key) = some (level,coords))
      (unsharded : ∀ layout, (levelOf seed key).bind (·.shard) = some layout → layout.locateInnerChunk key seed.axesNames = .ok none) :
      LeadsTo (.object (prefixed seed (chunkGridStorePath level coords)))
  | inner (sharded : (levelOf seed key).bind (·.shard) = some layout)
      (located : layout.locateInnerChunk key seed.axesNames = .ok (some location)) :
      LeadsTo (.innerChunk (prefixed seed location.path) location.position)

-- An object is served if it decodes, and to the size of the level's chunks where that is known.
def Decodes (codecs : Codecs) (bytes : Bytes) : Prop :=
  let level := ((levelOf seed key).getD unslicedLevelInfo).toLevelInfo
  ∃ raw, decodeStorageBytes codecs bytes level.compression = .ok raw ∧
    (level.chunkByteLayout.onDiskByteSize = 0 ∨ raw.length = level.chunkByteLayout.onDiskByteSize)

end

def Refused (outcome : Except (Stop ChunkReadError) ChunkRead) : Prop :=
  (∃ len, outcome = .ok (.absent len)) ∨ ∃ error, outcome = .error (.error error)

section
variable {seed : ImageBindingSeed} {key : String} {axes : List String} {chunkShape : List UInt64}

theorem mapM_isSome {α β : Type} {f : α → Option β} {items : List α} : (items.mapM f).isSome ↔ ∀ item ∈ items, (f item).isSome := by
  induction items with
  | nil => simp
  | cons item items ih =>
    rw [List.mapM_cons,List.forall_mem_cons,← ih]
    cases f item with
    | none => simp
    | some value => cases items.mapM f <;> simp

theorem chunkKeyGridCoords_isSome : (chunkKeyGridCoords key axes chunkShape).isSome ↔ NamesChunk key axes := by
  unfold chunkKeyGridCoords NamesChunk
  dsimp only
  split
  · rename_i other
    simp [other]
  · rename_i six
    rw [Option.bind_eq_bind,Option.isSome_bind]
    simp only [not_not.mp six,true_and,Option.isSome_some,Option.any_true]
    rw [mapM_isSome]
    constructor
    · intro parses name member index known
      obtain ⟨i,there⟩ := List.getElem?_of_mem member
      have part := parses (name,i) (List.mem_zipIdx_iff_getElem?.mpr there)
      dsimp only at part
      rw [known] at part
      cases parsed : parseUnsigned 64 ((splitn 6 key.toList).getD (index+1) []) with
      | none =>
        dsimp only at part
        rw [parsed] at part
        cases part
      | some wire => rfl
    · intro parses item member
      cases known : axisIndex item.1 with
      | none => rfl
      | some index =>
        obtain ⟨wire,parsed⟩ := Option.isSome_iff_exists.mp (parses item.1 (List.fst_mem_of_mem_zipIdx member) index known)
        dsimp only
        rw [parsed]
        rfl

theorem chunkKeyGridCoords_none : chunkKeyGridCoords key axes chunkShape = none ↔ ¬NamesChunk key axes := by
  rw [← @chunkKeyGridCoords_isSome key axes chunkShape,Option.not_isSome_iff_eq_none]

theorem resolveObject_eq (seed : ImageBindingSeed) (key : String) :
    resolveObject seed key = .object (prefixed seed (chunkKeyToStorePath key seed.axesNames (chunkShapeOf seed key))) := rfl

theorem resolveObject_itself (unread : ¬NamesChunk key seed.axesNames) : resolveObject seed key = .object (prefixed seed key) := by
  rw [resolveObject_eq,chunkKeyToStorePath,chunkKeyGridCoords_none.mpr unread]

theorem resolveObject_chunk (named : chunkKeyGridCoords key seed.axesNames (chunkShapeOf seed key) = some (level,coords)) :
    resolveObject seed key = .object (prefixed seed (chunkGridStorePath level coords)) := by
  rw [resolveObject_eq,chunkKeyToStorePath,named]

theorem locate_itself {layout : ShardLayout} (unread : ¬NamesChunk key axes) : layout.locateInnerChunk key axes = .ok none :=
  locate_none (chunkKeyGridCoords_none.mpr unread)

theorem leadsTo_object (unsharded : ∀ layout, (levelOf seed key).bind (·.shard) = some layout →
    layout.locateInnerChunk key seed.axesNames = .ok none) : LeadsTo seed key location ↔ resolveObject seed key = location := by
  constructor
  · intro leads
    cases leads with
    | itself unread => exact resolveObject_itself unread
    | chunk named _ => exact resolveObject_chunk named
    | inner sharded located =>
      rw [unsharded _ sharded] at located
      cases located
  · rintro rfl
    cases named : chunkKeyGridCoords key seed.axesNames (chunkShapeOf seed key) with
    | none =>
      have unread := chunkKeyGridCoords_none.mp named
      rw [resolveObject_itself unread]
      exact .itself unread
    | some found =>
      rw [resolveObject_chunk named]
      exact .chunk named unsharded

theorem resolve_iff : resolve seed key = .ok location ↔ LeadsTo seed key location := by
  rw [resolve,show seed.levels[parseLevelFromChunkKey key]? = levelOf seed key from rfl]
  cases sharded : (levelOf seed key).bind (·.shard) with
  | none =>
    rw [leadsTo_object (fun layout known => by rw [sharded] at known; cases known)]
    simp only [Except.ok.injEq]
  | some layout =>
    have only (other : ShardLayout) (known : (levelOf seed key).bind (·.shard) = some other) : other = layout :=
      Option.some.inj (known.symm.trans sharded)
    dsimp only
    cases located : layout.locateInnerChunk key seed.axesNames with
    | error stop =>
      rw [error_then]
      constructor
      · intro never
        cases never
      · intro leads
        cases leads with
        | itself unread =>
          rw [locate_itself unread] at located
          cases located
        | chunk _ unsharded =>
          rw [unsharded layout sharded] at located
          cases located
        | inner sharded' located' =>
          rw [only _ sharded',located] at located'
          cases located'
    | ok found =>
      rw [ok_then]
      cases found with
      | none =>
        rw [leadsTo_object (fun other known => by rw [only other known]; exact located)]
        simp only [Except.ok.injEq]
      | some inner =>
        constructor
        · intro same
          cases same
          exact .inner sharded located
        · intro leads
          cases leads with
          | itself unread =>
            rw [locate_itself unread] at located
            cases located
          | chunk _ unsharded =>
            rw [unsharded layout sharded] at located
            cases located
          | inner sharded' located' =>
            rw [only _ sharded',located] at located'
            cases located'
            rfl

theorem plan_of_malformed {ε : Type} {level : LevelInfo} {regrid : Regrid} (malformed : ¬WellFormed key) :
    RegridPlan.new (ε := ε) key axes level regrid = .ok none := by
  unfold RegridPlan.new
  split
  · rename_i parsed
    refine absurd ⟨(length_mapM parsed).symm,?_⟩ malformed
    exact mapM_isSome.mp (by rw [parsed]; rfl)
  · rfl

theorem readRegridded_malformed {codecs : Codecs} {objects : ChunkLocation → Except ChunkCache.StoreError Bytes} {level : LevelInfo}
    {regrid : Regrid} (malformed : ¬WellFormed key) :
    readRegridded seed codecs objects key level regrid = .ok (.absent regrid.chunkByteLayout.canonicalByteSize) := by
  unfold readRegridded
  rw [plan_of_malformed malformed,ok_then]
  dsimp only
  rw [pure_bind,List.mapM_nil,pure_bind]
  unfold readRegriddedChunk
  simp only [ChunkResolver.axesNames,resolverOf,Option.map_some,plan_of_malformed malformed]

theorem decodeWireChunk_some {codecs : Codecs} {bytes : Bytes} {level : LevelInfo} :
    (∃ wire, decodeWireChunk codecs bytes level key = .ok wire) ↔ ∃ raw, decodeStorageBytes codecs bytes level.compression = .ok raw ∧
      (level.chunkByteLayout.onDiskByteSize = 0 ∨ raw.length = level.chunkByteLayout.onDiskByteSize) := by
  unfold decodeWireChunk
  cases opened : decodeStorageBytes codecs bytes level.compression with
  | error error => simp [Except.mapError,bind,Except.bind]
  | ok raw =>
    simp only [Except.mapError,bind,Except.bind,Except.ok.injEq,exists_eq_left']
    by_cases sized : level.chunkByteLayout.onDiskByteSize = 0 ∨ raw.length = level.chunkByteLayout.onDiskByteSize
    · rw [if_neg (by omega)]
      simp [pure,Except.pure,sized]
    · rw [if_pos (by omega)]
      simp [throw,throwThe,MonadExceptOf.throw,sized]

variable {codecs : Codecs} {objects : ChunkLocation → Except ChunkCache.StoreError Bytes}

theorem serveChunk_regridded (malformed : ¬WellFormed key) (regridded : Regridded seed key) : Refused (serveChunk seed codecs objects key) := by
  obtain ⟨level,regrid,here,set⟩ := regridded
  refine .inl ⟨regrid.chunkByteLayout.canonicalByteSize,?_⟩
  unfold serveChunk readChunk
  rw [show seed.levels[parseLevelFromChunkKey key]? = some level from here,Option.getD_some]
  dsimp only
  rw [set]
  exact readRegridded_malformed malformed

theorem malformed_key_is_refused_iff (seed : ImageBindingSeed) (codecs : Codecs)
    (objects : ChunkLocation → Except ChunkCache.StoreError Bytes) (key : String) (malformed : ¬WellFormed key) :
    Refused (serveChunk seed codecs objects key) ↔ Regridded seed key ∨
      ∃ location, LeadsTo seed key location ∧ ∀ bytes, objects location = .ok bytes → ¬Decodes seed key codecs bytes := by
  by_cases regridded : Regridded seed key
  · exact ⟨fun _ => .inl regridded,fun _ => serveChunk_regridded malformed regridded⟩
  · simp only [regridded,false_or,← resolve_iff,serveChunk_stored regridded]
    cases resolved : resolve seed key with
    | error stop =>
      cases resolve_panic resolved
      simp [Refused,Except.mapError,locationStop,bind,Except.bind]
    | ok location =>
      simp only [Except.mapError,ok_then,Except.ok.injEq,exists_eq_left']
      cases held : objects location with
      | error error =>
        by_cases missing : isNotFound error <;> simp [Refused,missing]
      | ok bytes =>
        simp only [Except.ok.injEq,forall_eq',Decodes,← @decodeWireChunk_some key]
        cases decodeWireChunk codecs bytes ((levelOf seed key).getD unslicedLevelInfo).toLevelInfo key <;> simp [Refused,bind,Except.bind]

def planeLevel : LevelBindingInfo :=
  { levelIndex := 0, compression := .none, chunkShape := [2,2], chunkByteLayout := ⟨4,4,0,0,1,1⟩, shard := none, regrid := none }

def planeImage : ImageBindingSeed := ⟨"image",["y","x"],none,[planeLevel]⟩

def planeArray : DeclaredArray :=
  { axes := ["y","x"], path := "0", shape := [2,2], chunkShape := [2,2], shard := none, compression := .none, width := 1
    encoding := .default "/", fill := [0] }

def planeObjects (location : ChunkLocation) : Except ChunkCache.StoreError Bytes :=
  if location = .object "0/c/0/0" then .ok [1,2,3,4] else .error (.notFound location.path "")

def planeWithMetadata (location : ChunkLocation) : Except ChunkCache.StoreError Bytes :=
  if location = .object "zarr.json" then .ok [123,125] else planeObjects location

theorem metadata_name_is_refused : ¬WellFormed "zarr.json" ∧ (planeWithMetadata (.object "zarr.json")).isOk ∧
    Refused (serveChunk planeImage BoundLevel.plainCodecs planeWithMetadata "zarr.json") := by
  have malformed : ¬WellFormed "zarr.json" := by decide
  refine ⟨malformed,rfl,(malformed_key_is_refused_iff _ _ _ _ malformed).mpr (.inr ⟨_,.itself ?_,?_⟩)⟩
  · exact fun named => absurd named.1 (by decide)
  · intro bytes held
    rw [show planeWithMetadata (.object (prefixed planeImage "zarr.json")) = .ok [123,125] from by decide] at held
    cases held
    -- the two bytes are no chunk of four
    rintro ⟨raw,decoded,sized⟩
    have same : raw = [123,125] := by
      cases decoded
      rfl
    subst same
    exact absurd sized (by decide)

theorem chunk_path_is_served : ¬∀ (array : DeclaredArray) (seed : ImageBindingSeed) (binding : LevelBindingInfo) (codecs : Codecs)
    (objects : ChunkLocation → Except ChunkCache.StoreError Bytes) (key : String), array.Valid → array.Accepted →
    BoundTo seed 0 binding array → (∀ location bytes, objects location = .ok bytes → ∃ cell, location = array.location cell) →
    ¬WellFormed key → Refused (serveChunk seed codecs objects key) := by
  intro refused
  have valid : planeArray.Valid := ⟨by decide,by decide,(fun layout never => by cases never),by decide⟩
  have accepted : planeArray.Accepted := ⟨by decide,fun layout never => by cases never⟩
  have bound : BoundTo planeImage 0 planeLevel planeArray := ⟨rfl,rfl,rfl,rfl,rfl,rfl,rfl⟩
  have laidOut : ∀ location bytes, planeObjects location = .ok bytes → ∃ cell, location = planeArray.location cell := by
    intro location bytes held
    unfold planeObjects at held
    split at held
    · rename_i here
      exact ⟨[0,0],here.trans (by decide)⟩
    · cases held
  have served : serveChunk planeImage BoundLevel.plainCodecs planeObjects "0/c/0/0" = .ok (.present [1,2,3,4]) := by decide
  have answer := refused planeArray planeImage planeLevel BoundLevel.plainCodecs planeObjects "0/c/0/0" valid accepted bound laidOut
    (by decide)
  rw [served] at answer
  rcases answer with ⟨len,absent⟩ | ⟨error,failed⟩
  · cases absent
  · cases failed

end
end Lucida.Server
