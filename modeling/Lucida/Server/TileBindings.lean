import Lucida.Server.DeclaredArray

namespace Lucida.Server
open Content Lib Store
open Store.ChunkCache (Bytes Path)

def withLevel (tile : ImageBindingSeed) (index : Nat) (binding : LevelBindingInfo) : ImageBindingSeed :=
  { tile with levels := tile.levels.set index binding }

namespace BoundLevel
variable (level : BoundLevel)

def bindingInfo (compression : StorageCompression) (shard : Option ShardLayout) (regrid : Option Regrid) (index : Nat) : LevelBindingInfo :=
  { levelIndex := index, compression, chunkShape := level.chunkShape, chunkByteLayout := level.chunkByteLayout, shard, regrid }

-- The binding that the code gives to the level of a tile.
def bound (compression : StorageCompression) (shard : Option ShardLayout) (index : Nat) : LevelBindingInfo :=
  DeclaredLevels.bindLevel (level.bindingInfo compression shard none index,level.regrid.storedShape)
    (level.regrid.chunkShape,level.regrid.chunkByteLayout)

def regridded (compression : StorageCompression) (shard : Option ShardLayout) (index : Nat) : LevelBindingInfo :=
  level.bindingInfo compression shard (some level.regrid) index

-- A sample of a declared chunk that the plan copies. An axis stored without a sample counts as one.
def Copied (t c : Nat) (voxel : Zyx) : Prop :=
  t < along level.axes level.regrid.storedShape "t" ∧ c < along level.axes level.regrid.storedShape "c" ∧
    voxel.All (· < ·) (.spatial (along level.axes level.regrid.storedShape))

instance (t c : Nat) (voxel : Zyx) : Decidable (level.Copied t c voxel) := inferInstanceAs (Decidable (_ ∧ _ ∧ _))

-- The stored chunk of a key in the stored level has fill past it, and one past the level is not
-- there or is all fill.
structure FillPast (codecs : Codecs) (objects : ChunkLocation → Except ChunkCache.StoreError Bytes) (compression : StorageCompression)
    (tile : ImageBindingSeed) (index t c : Nat) (cell : Zyx) : Prop where
  inside : level.InRange t c cell → ∀ location, resolve tile (chunkKeyOf index t c cell) = .ok location →
    (level.origin cell).All (fun start size => start+size < 2^64) level.served ∧
    ∀ bytes, objects location = .ok bytes → ∀ wire,
      decodeWireChunk codecs bytes (level.info compression) (chunkKeyOf index t c cell) = .ok wire →
      ∀ p : Zyx, p.All (· < ·) level.served → ¬level.Copied t c (level.voxel cell p) →
        sample level.width wire (level.served.index p) = level.fill
  outside : ¬level.InRange t c cell → ∃ location, resolve tile (chunkKeyOf index t c cell) = .ok location ∧
    ((∃ error, objects location = .error error ∧ isNotFound error = true) ∨
      ∃ bytes, objects location = .ok bytes ∧
        decodeWireChunk codecs bytes (level.info compression) (chunkKeyOf index t c cell) =
          .ok (List.replicate level.chunkByteLayout.canonicalByteSize 0))

end BoundLevel

def SameBytes (read read' : Except (Stop ChunkReadError) ChunkRead) : Prop := read.map ChunkRead.intoBytes = read'.map ChunkRead.intoBytes

namespace BoundLevel
variable {level : BoundLevel} {codecs : Codecs} {compression : StorageCompression} {index t c : Nat} {cell : Zyx}

theorem sameLayout (sameChunk : level.regrid.chunkShape = level.chunkShape) : level.regrid.chunkByteLayout = level.chunkByteLayout := by
  have declared := level.declaredAccepted
  rw [sameChunk,level.storedAccepted] at declared
  exact (Except.ok.inj declared).symm

theorem served_eq (sameChunk : level.regrid.chunkShape = level.chunkShape) : level.served = level.stored := by
  rw [served,stored,sameChunk]

theorem bound_eq {shard : Option ShardLayout} (sameChunk : level.regrid.chunkShape = level.chunkShape) :
    level.bound compression shard index = level.bindingInfo compression shard none index := if_pos sameChunk.symm

theorem addresses_chunkKeyOf (small : index < 2^64) (words : Words t c cell) : Addresses (chunkKeyOf index t c cell) index t c cell := by
  unfold Addresses
  rw [splitKey_chunkKeyOf]
  simp only [List.map_cons,List.map_nil,List.mapM_cons,List.mapM_nil,parseUnsigned_digits small,parseUnsigned_digits words.t,
    parseUnsigned_digits words.c,parseUnsigned_digits words.z,parseUnsigned_digits words.y,parseUnsigned_digits words.x]
  rfl

theorem axis_end {cell size extent : Nat} (some : 0 < size) (starts : cell*size < extent) :
    (min (cell*size+size) extent-1)/size = cell := by
  refine Nat.div_eq_of_lt_le ?_ ?_
  · omega
  · rw [Nat.succ_mul]
    omega

theorem ends_cell (sameChunk : level.regrid.chunkShape = level.chunkShape) (ranged : level.InRange t c cell) :
    ((level.plan index t c cell).ends.z-1)/(level.plan index t c cell).stored.z = cell.z ∧
      ((level.plan index t c cell).ends.y-1)/(level.plan index t c cell).stored.y = cell.y ∧
      ((level.plan index t c cell).ends.x-1)/(level.plan index t c cell).stored.x = cell.x := by
  obtain ⟨someZ,someY,someX⟩ := level.served_pos
  obtain ⟨_,_,startZ,startY,startX⟩ := ranged
  simp only [plan,Zyx.zip,← served_eq sameChunk,origin]
  exact ⟨axis_end someZ startZ,axis_end someY startY,axis_end someX startX⟩

theorem grids_same (sameChunk : level.regrid.chunkShape = level.chunkShape) (ranged : level.InRange t c cell) :
    (level.plan index t c cell).grids = [cell] := by
  obtain ⟨someZ,someY,someX⟩ := level.served_pos
  obtain ⟨endZ,endY,endX⟩ := @ends_cell level index t c cell sameChunk ranged
  have first : (level.plan index t c cell).origin.z/(level.plan index t c cell).stored.z = cell.z ∧
      (level.plan index t c cell).origin.y/(level.plan index t c cell).stored.y = cell.y ∧
      (level.plan index t c cell).origin.x/(level.plan index t c cell).stored.x = cell.x := by
    simp only [plan,origin,Zyx.zip,← served_eq sameChunk]
    exact ⟨Nat.mul_div_cancel _ someZ,Nat.mul_div_cancel _ someY,Nat.mul_div_cancel _ someX⟩
  unfold RegridPlan.grids
  simp only [endZ,endY,endX,first,Nat.add_sub_cancel_left,List.range'_one]
  rfl

theorem reaches_same (sameChunk : level.regrid.chunkShape = level.chunkShape) (ranged : level.InRange t c cell)
    (reach : (level.origin cell).All (fun start size => start+size < 2^64) level.served) : (level.plan index t c cell).Reaches := by
  obtain ⟨endZ,endY,endX⟩ := @ends_cell level index t c cell sameChunk ranged
  unfold RegridPlan.Reaches Zyx.All
  dsimp only
  rw [endZ,endY,endX,show (level.plan index t c cell).stored = level.served from (served_eq sameChunk).symm]
  exact reach

theorem voxel_place {p : Zyx} (inside : p.All (· < ·) level.served) :
    Zyx.zip (· / ·) (level.voxel cell p) level.served = cell ∧ Zyx.zip (· % ·) (level.voxel cell p) level.served = p := by
  have axis {cell size p : Nat} (low : p < size) : (cell*size+p)/size = cell ∧ (cell*size+p)%size = p := by
    have some : 0 < size := by omega
    exact ⟨by rw [Nat.mul_comm,Nat.mul_add_div some,Nat.div_eq_of_lt low,Nat.add_zero],
      by rw [Nat.mul_comm,Nat.mul_add_mod,Nat.mod_eq_of_lt low]⟩
  obtain ⟨z,y,x⟩ := inside
  constructor
  · simp only [Zyx.zip,voxel,origin,(axis z).1,(axis y).1,(axis x).1]
  · simp only [Zyx.zip,voxel,origin,(axis z).2,(axis y).2,(axis x).2]

theorem copied_iff {p : Zyx} (ranged : level.InRange t c cell) (inside : p.All (· < ·) level.served) :
    level.Copied t c (level.voxel cell p) ↔ (level.voxel cell p).All (· < ·) (level.plan index t c cell).ends := by
  rw [before_ends inside]
  exact ⟨fun copied => copied.2.2,fun within => ⟨ranged.1,ranged.2.1,within⟩⟩

-- What is copied of the one stored chunk is the chunk itself if the rest of it is fill.
theorem copy_same {wire : Bytes} (sameChunk : level.regrid.chunkShape = level.chunkShape) (ranged : level.InRange t c cell)
    (reach : (level.origin cell).All (fun start size => start+size < 2^64) level.served) (wired : wire.length = level.stored.volume*level.width) :
    ∃ out, (level.plan index t c cell).copy (ε := ChunkReadError) ((level.plan index t c cell).source cell) wire
        (List.replicate level.regrid.chunkByteLayout.canonicalByteSize 0) = .ok out ∧
      (wire = out ↔ ∀ p : Zyx, p.All (· < ·) level.served → ¬level.Copied t c (level.voxel cell p) →
        sample level.width wire (level.served.index p) = level.fill) := by
  have meets : (level.plan index t c cell).Meets cell := by
    rw [← RegridPlan.mem_grids,grids_same sameChunk ranged]
    exact List.mem_singleton_self cell
  have blank : (List.replicate level.regrid.chunkByteLayout.canonicalByteSize (0 : UInt8)).length =
      (level.plan index t c cell).served.volume*(level.plan index t c cell).sampleBytes := by
    rw [List.length_replicate,level.servedSize]
    rfl
  obtain ⟨out,copied,sized,shown⟩ := @RegridPlan.copy_ok ChunkReadError (level.plan index t c cell) _ _
    ((level.plan index t c cell).source cell) (plan_sound ranged) (reaches_same sameChunk ranged reach) meets wired blank
  refine ⟨out,copied,?_⟩
  have read (p : Zyx) (inside : p.All (· < ·) level.served) : sample level.width out (level.served.index p) =
      if level.Copied t c (level.voxel cell p) then sample level.width wire (level.served.index p) else level.fill := by
    have place := @voxel_place level cell p inside
    refine (shown p inside).trans ?_
    change (if Zyx.zip (· / ·) (level.voxel cell p) level.stored = cell ∧
        (level.voxel cell p).All (· < ·) (level.plan index t c cell).ends then
      sample level.width wire (level.stored.index (Zyx.zip (· % ·) (level.voxel cell p) level.stored)) else _) = _
    rw [← served_eq sameChunk,place.2]
    refine if_congr ⟨fun both => (copied_iff ranged inside).mpr both.2,fun kept => ⟨place.1,(copied_iff ranged inside).mp kept⟩⟩ rfl ?_
    change sample level.width _ (level.served.index p) = _
    rw [level.servedSize]
    exact sample_replicate 0 (Zyx.sample_fits inside level.width)
  constructor
  · rintro rfl p inside past
    rw [read p inside,if_neg past]
  · intro filled
    have wired' : wire.length = level.served.volume*level.width := by rw [wired,served_eq sameChunk]
    refine ext_samples wired' sized fun i low => ?_
    obtain ⟨z,y,x,plane,row,column,rfl⟩ := rowMajor_surjective low
    have inside : (⟨z,y,x⟩ : Zyx).All (· < ·) level.served := ⟨plane,row,column⟩
    have here := read ⟨z,y,x⟩ inside
    split at here
    · exact here.symm
    · rename_i past
      exact (filled ⟨z,y,x⟩ inside past).trans here.symm

variable {tile : ImageBindingSeed} {shard : Option ShardLayout} {objects : ChunkLocation → Except ChunkCache.StoreError Bytes}

theorem levelOf_withLevel (there : index < tile.levels.length) (small : index < 2^32) (binding : LevelBindingInfo) :
    levelOf (withLevel tile index binding) (chunkKeyOf index t c cell) = some binding := by
  rw [levelOf,parseLevel_chunkKeyOf small,withLevel]
  exact List.getElem?_set_self there

theorem resolve_withLevel (there : index < tile.levels.length) (small : index < 2^32) (compression : StorageCompression)
    (shard : Option ShardLayout) (regrid : Option Regrid) :
    resolve (withLevel tile index (level.bindingInfo compression shard regrid index)) (chunkKeyOf index t c cell) =
      resolve (withLevel tile index (level.bindingInfo compression shard none index)) (chunkKeyOf index t c cell) := by
  have lookup (regrid : Option Regrid) := @levelOf_withLevel index t c cell tile there small
    (level.bindingInfo compression shard regrid index)
  unfold levelOf at lookup
  unfold resolve resolveObject
  rw [lookup regrid,lookup none]
  rfl

theorem new_panics (addressed : Addresses chunkKey index t c cell) (ranged : level.InRange t c cell)
    (past : ¬(level.origin cell).All (fun start size => start+size < 2^64) level.served) :
    RegridPlan.new (ε := ε) chunkKey level.axes (level.info compression) level.regrid = .error .panic := by
  have panics {a b : Nat} (long : ¬a+b < 2^64) : Checked.add (ε := ε) a b = .error .panic := if_neg long
  rw [new_inside addressed ranged]
  suffices stopped : Zyx.zipM (Checked.add (ε := ε)) (level.origin cell) level.served = .error .panic by rw [stopped,error_then]
  unfold Zyx.zipM
  by_cases z : (level.origin cell).z+level.served.z < 2^64
  · by_cases y : (level.origin cell).y+level.served.y < 2^64
    · have x : ¬(level.origin cell).x+level.served.x < 2^64 := fun x => past ⟨z,y,x⟩
      rw [Checked.add_ok z,Checked.add_ok y,panics x,ok_then,ok_then,error_then]
    · rw [Checked.add_ok z,panics y,ok_then,error_then]
  · rw [panics z,error_then]

theorem readRegridded_inside (axes : tile.axesNames = level.axes) (sameChunk : level.regrid.chunkShape = level.chunkShape)
    (small : index < 2^64) (words : Words t c cell) (ranged : level.InRange t c cell)
    (reach : (level.origin cell).All (fun start size => start+size < 2^64) level.served) :
    readRegridded tile codecs objects (chunkKeyOf index t c cell) (level.info compression) level.regrid = (do
      let location ← (resolve tile (chunkKeyOf index t c cell)).mapError locationStop
      let state ← assembleTurn codecs (level.plan index t c cell) (level.info compression)
        (List.replicate level.regrid.chunkByteLayout.canonicalByteSize 0,false) ((level.plan index t c cell).source cell,objects location)
      .ok (if state.2 then .present state.1 else .absent level.regrid.chunkByteLayout.canonicalByteSize)) := by
  have addressed := addresses_chunkKeyOf small words
  unfold readRegridded
  rw [axes,new_ok addressed ranged reach,ok_then]
  dsimp only
  rw [RegridPlan.storedChunks_ok (plan_sound ranged),grids_same sameChunk ranged,ok_then]
  have known : resolverOf tile tile.imageId = some ⟨tile.axesNames,fun key => (resolve tile key).toOption.getD (resolveObject tile key)⟩ := rfl
  rw [read_inside known axes addressed ranged reach,grids_same sameChunk ranged]
  rw [List.map_singleton,List.mapM_cons,List.mapM_nil,List.foldlM_cons]
  change ((resolve tile (chunkKeyOf index t c cell)).mapError locationStop >>= _) >>= _ = _
  cases resolved : resolve tile (chunkKeyOf index t c cell) with
  | error stop => rfl
  | ok location =>
    dsimp only
    rw [resolved]
    simp only [List.foldlM_nil,bind_pure]
    rfl

theorem readRegridded_outside (axes : tile.axesNames = level.axes) (small : index < 2^64) (words : Words t c cell)
    (past : ¬level.InRange t c cell) :
    readRegridded tile codecs objects (chunkKeyOf index t c cell) (level.info compression) level.regrid =
      .ok (.absent level.regrid.chunkByteLayout.canonicalByteSize) := by
  have planned {ε : Type} : RegridPlan.new (ε := ε) (chunkKeyOf index t c cell) level.axes (level.info compression) level.regrid = .ok none :=
    new_outside (addresses_chunkKeyOf small words) past
  unfold readRegridded
  rw [axes,planned,ok_then]
  dsimp only
  rw [pure_bind,List.mapM_nil,pure_bind]
  unfold readRegriddedChunk
  simp only [ChunkResolver.axesNames,resolverOf,Option.map_some,axes,planned]

theorem readRegridded_panics (axes : tile.axesNames = level.axes) (small : index < 2^64) (words : Words t c cell)
    (ranged : level.InRange t c cell) (past : ¬(level.origin cell).All (fun start size => start+size < 2^64) level.served) :
    readRegridded tile codecs objects (chunkKeyOf index t c cell) (level.info compression) level.regrid = .error .panic := by
  unfold readRegridded
  rw [axes,new_panics (addresses_chunkKeyOf small words) ranged past,error_then]

def storedRead (level : BoundLevel) (codecs : Codecs) (compression : StorageCompression) (chunkKey : String) :
    Except ChunkCache.StoreError Bytes → Except (Stop ChunkReadError) ChunkRead
  | .error error => if isNotFound error then .ok (.absent level.chunkByteLayout.canonicalByteSize) else .error (.error (.objectStore error))
  | .ok storageBytes => do
    let wire ← (decodeWireChunk codecs storageBytes (level.info compression) chunkKey).mapError .error
    .ok (.present wire)

theorem serveChunk_bound (there : index < tile.levels.length) (small : index < 2^32) :
    serveChunk (withLevel tile index (level.bindingInfo compression shard none index)) codecs objects (chunkKeyOf index t c cell) = (do
      let location ← (resolve (withLevel tile index (level.bindingInfo compression shard none index))
        (chunkKeyOf index t c cell)).mapError locationStop
      level.storedRead codecs compression (chunkKeyOf index t c cell) (objects location)) := by
  have here := @levelOf_withLevel index t c cell tile there small (level.bindingInfo compression shard none index)
  rw [serveChunk_stored,here]
  · refine bind_congr fun location => ?_
    cases objects location with
    | error error => rfl
    | ok bytes => rfl
  · intro ⟨binding,regrid,there',set⟩
    cases here.symm.trans there'
    cases set

theorem serveChunk_regrid (there : index < tile.levels.length) (small : index < 2^32) :
    serveChunk (withLevel tile index (level.regridded compression shard index)) codecs objects (chunkKeyOf index t c cell) =
      readRegridded (withLevel tile index (level.regridded compression shard index)) codecs objects (chunkKeyOf index t c cell)
        (level.info compression) level.regrid := by
  have here := @levelOf_withLevel index t c cell tile there small (level.regridded compression shard index)
  unfold levelOf at here
  unfold serveChunk readChunk
  rw [here]
  rfl

theorem storedRead_turn {held : Except ChunkCache.StoreError Bytes} (sameChunk : level.regrid.chunkShape = level.chunkShape)
    (words : Words t c cell) (ranged : level.InRange t c cell)
    (reach : (level.origin cell).All (fun start size => start+size < 2^64) level.served) :
    SameBytes (level.storedRead codecs compression (chunkKeyOf index t c cell) held) (do
        let state ← assembleTurn codecs (level.plan index t c cell) (level.info compression)
          (List.replicate level.regrid.chunkByteLayout.canonicalByteSize 0,false) ((level.plan index t c cell).source cell,held)
        .ok (if state.2 then .present state.1 else .absent level.regrid.chunkByteLayout.canonicalByteSize)) ↔
      ∀ bytes, held = .ok bytes → ∀ wire, decodeWireChunk codecs bytes (level.info compression) (chunkKeyOf index t c cell) = .ok wire →
        ∀ p : Zyx, p.All (· < ·) level.served → ¬level.Copied t c (level.voxel cell p) →
          sample level.width wire (level.served.index p) = level.fill := by
  unfold SameBytes storedRead assembleTurn
  cases held with
  | error error =>
    rw [sameLayout sameChunk]
    by_cases missing : isNotFound error <;> simp [missing,bind,Except.bind]
  | ok bytes =>
    dsimp only
    rw [show ((level.plan index t c cell).source cell).key = chunkKeyOf index t c cell from rfl]
    simp only [Except.ok.injEq,forall_eq']
    cases decoded : decodeWireChunk codecs bytes (level.info compression) (chunkKeyOf index t c cell) with
    | error error => simp [Except.mapError,bind,Except.bind]
    | ok wire =>
      obtain ⟨raw,_,sized,slice⟩ := (decodeWireChunk_iff words.t words.c).mp decoded
      obtain ⟨out,copied,same⟩ := @copy_same level index t c cell wire sameChunk ranged reach (by rw [slice]; exact slice_length sized t c)
      simp only [Except.mapError,bind,Except.bind,copied,pure,Except.pure,Except.map,if_true,ChunkRead.intoBytes,Except.ok.injEq,forall_eq']
      exact same

theorem storedRead_calm (held : Except ChunkCache.StoreError Bytes) (key : String) :
    (level.storedRead codecs compression key held).map ChunkRead.intoBytes ≠ .error .panic := by
  unfold storedRead
  cases held with
  | error error => by_cases missing : isNotFound error <;> simp [missing,Except.map]
  | ok bytes =>
    cases decoded : decodeWireChunk codecs bytes (level.info compression) key <;>
      simp [Except.mapError,Except.map,bind,Except.bind,decoded]

theorem storedRead_absent {held : Except ChunkCache.StoreError Bytes} {key : String} :
    SameBytes (level.storedRead codecs compression key held) (.ok (.absent level.chunkByteLayout.canonicalByteSize)) ↔
      (∃ error, held = .error error ∧ isNotFound error = true) ∨ ∃ bytes, held = .ok bytes ∧
        decodeWireChunk codecs bytes (level.info compression) key = .ok (List.replicate level.chunkByteLayout.canonicalByteSize 0) := by
  unfold SameBytes storedRead
  cases held with
  | error error => by_cases missing : isNotFound error <;> simp [missing,Except.map]
  | ok bytes =>
    cases decoded : decodeWireChunk codecs bytes (level.info compression) key <;>
      simp [Except.mapError,Except.map,bind,Except.bind,decoded,ChunkRead.intoBytes]

theorem as_stored_shows_the_regrid_iff (level : BoundLevel) (sameChunk : level.regrid.chunkShape = level.chunkShape) (codecs : Codecs)
    (objects : ChunkLocation → Except ChunkCache.StoreError Bytes) (compression : StorageCompression) (shard : Option ShardLayout)
    (tile : ImageBindingSeed) (axes : tile.axesNames = level.axes) (index : Nat) (there : index < tile.levels.length)
    (small : index < 2^32) (t c : Nat) (cell : Zyx) (words : Words t c cell) :
    SameBytes (serveChunk (withLevel tile index (level.bound compression shard index)) codecs objects (chunkKeyOf index t c cell))
        (serveChunk (withLevel tile index (level.regridded compression shard index)) codecs objects (chunkKeyOf index t c cell)) ↔
      level.FillPast codecs objects compression (withLevel tile index (level.bound compression shard index)) index t c cell := by
  have word : index < 2^64 := by omega
  have led : resolve (withLevel tile index (level.regridded compression shard index)) (chunkKeyOf index t c cell) =
      resolve (withLevel tile index (level.bindingInfo compression shard none index)) (chunkKeyOf index t c cell) :=
    resolve_withLevel there small compression shard (some level.regrid)
  have axes' : (withLevel tile index (level.regridded compression shard index)).axesNames = level.axes := axes
  rw [bound_eq sameChunk,serveChunk_bound there small,serveChunk_regrid there small]
  by_cases ranged : level.InRange t c cell
  · have only : level.FillPast codecs objects compression (withLevel tile index (level.bindingInfo compression shard none index)) index t c cell ↔ _ :=
      ⟨fun filled => filled.inside ranged,fun inside => ⟨fun _ => inside,fun past => absurd ranged past⟩⟩
    rw [only]
    by_cases reach : (level.origin cell).All (fun start size => start+size < 2^64) level.served
    · rw [readRegridded_inside axes' sameChunk word words ranged reach,led]
      cases resolve (withLevel tile index (level.bindingInfo compression shard none index)) (chunkKeyOf index t c cell) with
      | error stop => simp [SameBytes,Except.mapError,bind,Except.bind]
      | ok location =>
        simp only [Except.mapError,ok_then,Except.ok.injEq,forall_eq',reach,true_and]
        exact storedRead_turn sameChunk words ranged reach
    · rw [readRegridded_panics axes' word words ranged reach]
      cases resolved : resolve (withLevel tile index (level.bindingInfo compression shard none index)) (chunkKeyOf index t c cell) with
      | error stop =>
        cases resolve_panic resolved
        simp [SameBytes,Except.mapError,Except.map,locationStop,bind,Except.bind]
      | ok location =>
        simp only [Except.mapError,ok_then,Except.ok.injEq,forall_eq',reach,false_and,iff_false]
        exact storedRead_calm _ _
  · have only : level.FillPast codecs objects compression (withLevel tile index (level.bindingInfo compression shard none index)) index t c cell ↔ _ :=
      ⟨fun filled => filled.outside ranged,fun outside => ⟨fun inside => absurd inside ranged,fun _ => outside⟩⟩
    rw [only,readRegridded_outside axes' word words ranged,sameLayout sameChunk]
    cases resolve (withLevel tile index (level.bindingInfo compression shard none index)) (chunkKeyOf index t c cell) with
    | error stop => simp [SameBytes,Except.mapError,Except.map,bind,Except.bind]
    | ok location =>
      simp only [Except.mapError,ok_then,Except.ok.injEq,exists_eq_left']
      exact storedRead_absent

theorem odd_ordered : (keptAxes ["y","x"]).Sublist ["z","y","x"] := by decide

theorem odd_accepted : computeChunkByteLayout ["y","x"] [2,2] (dataTypeSize .uint8) (classifyAxes ["y","x"] [3,3]).pinned =
    .ok ⟨4,4,0,0,1,1⟩ := by decide

theorem odd_positive : (0 : UInt64) ∉ [2,2] := by decide

def oddLevel : BoundLevel where
  axes := ["y","x"]
  dataType := .uint8
  rawShape := [3,3]
  chunkShape := [2,2]
  chunkByteLayout := ⟨4,4,0,0,1,1⟩
  regrid := ⟨[2,2],⟨4,4,0,0,1,1⟩,[3,3]⟩
  ordered := odd_ordered
  storedAccepted := odd_accepted
  declaredAccepted := odd_accepted
  storedPositive := odd_positive
  declaredPositive := odd_positive

def oddTile : ImageBindingSeed := ⟨"tile",["y","x"],some "A/1/0",[oddLevel.bindingInfo .none none none 0]⟩

theorem inner_chunk_has_no_padding :
    oddLevel.FillPast plainCodecs (fun _ => .ok [1,2,3,4]) .none (withLevel oddTile 0 (oddLevel.bound .none none 0)) 0 0 0 ⟨0,0,0⟩ :=
  (as_stored_shows_the_regrid_iff oddLevel rfl plainCodecs (fun _ => .ok [1,2,3,4]) .none none oddTile rfl 0 (by decide) (by decide) 0 0
    ⟨0,0,0⟩ ⟨by decide,by decide,by decide,by decide,by decide⟩).mp (by unfold SameBytes; decide)

-- The last column of the last chunk is past the level. A writer may put anything there.
theorem padding_of_an_edge_chunk_shows : ¬∀ (level : BoundLevel) (codecs : Codecs)
    (objects : ChunkLocation → Except ChunkCache.StoreError Bytes) (compression : StorageCompression) (shard : Option ShardLayout)
    (tile : ImageBindingSeed) (index t c : Nat) (cell : Zyx), level.regrid.chunkShape = level.chunkShape → tile.axesNames = level.axes →
    index < tile.levels.length → index < 2^32 → Words t c cell →
    SameBytes (serveChunk (withLevel tile index (level.bound compression shard index)) codecs objects (chunkKeyOf index t c cell))
      (serveChunk (withLevel tile index (level.regridded compression shard index)) codecs objects (chunkKeyOf index t c cell)) := by
  intro same
  have stored : serveChunk (withLevel oddTile 0 (oddLevel.bound .none none 0)) plainCodecs (fun _ => .ok [1,9,2,9]) "0/0/0/0/0/1" =
      .ok (.present [1,9,2,9]) := by decide
  have regridded : serveChunk (withLevel oddTile 0 (oddLevel.regridded .none none 0)) plainCodecs (fun _ => .ok [1,9,2,9]) "0/0/0/0/0/1" =
      .ok (.present [1,0,2,0]) := by decide
  have bytes := same oddLevel plainCodecs (fun _ => .ok [1,9,2,9]) .none none oddTile 0 0 0 ⟨0,0,1⟩ rfl rfl (by decide) (by decide)
    ⟨by decide,by decide,by decide,by decide,by decide⟩
  rw [show chunkKeyOf 0 0 0 ⟨0,0,1⟩ = "0/0/0/0/0/1" from by decide,SameBytes,stored,regridded] at bytes
  exact absurd bytes (by decide)

end BoundLevel
end Lucida.Server
