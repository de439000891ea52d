import Lucida.Lib.LittleEndian
import Lucida.Lib.MixedRadix
import Lucida.Store.Backend
import Lucida.Store.ChunkPaths

namespace Lucida.Store
open Lib ChunkCache

inductive IndexLocation where
  | atStart
  | atEnd
  deriving DecidableEq, Repr

structure ShardLayout where
  innerChunkShape : List UInt64
  chunksPerShard : List UInt64
  indexLocation : IndexLocation
  indexChecksum : Bool
  deriving DecidableEq, Repr

structure ShardLocation where
  path : Path
  position : Nat
  deriving DecidableEq, Repr

def indexEntryBytes : Nat := 16

def checksumBytes : Nat := 4

-- `u64::MAX`.
def absent : Nat := 2^64-1

def splitTurn (state : List Nat × Nat) (turn : Nat × UInt64) : Except (Stop StoreError) (List Nat × Nat) :=
  if turn.2.toNat = 0 then .error .panic
  else do
    let scaled ← Checked.mul state.2 turn.2.toNat
    let position ← Checked.add scaled (turn.1 % turn.2.toNat)
    .ok (state.1 ++ [turn.1/turn.2.toNat],position)

namespace ShardLayout

-- A position is a `usize`, which is 64 bits wide.
def locateInnerChunk (layout : ShardLayout) (key : String) (axes : List String) :
    Except (Stop StoreError) (Option ShardLocation) :=
  match chunkKeyGridCoords key axes layout.innerChunkShape with
  | none => .ok none
  | some (level,inner) =>
    if inner.length ≠ layout.chunksPerShard.length then .ok none
    else do
      let (shard,position) ← (inner.zip layout.chunksPerShard).foldlM splitTurn ([],0)
      .ok (some ⟨pathFrom (chunkGridStorePath level shard),position⟩)

def innerChunksPerShard (layout : ShardLayout) : Except (Stop StoreError) Nat :=
  layout.chunksPerShard.foldlM (fun product size => Checked.mul product size.toNat) 1

def indexByteLen (layout : ShardLayout) : Except (Stop StoreError) Nat := do
  let count ← layout.innerChunksPerShard
  let entries ← Checked.mul count indexEntryBytes
  if layout.indexChecksum then Checked.add entries checksumBytes else .ok entries

def indexRange (layout : ShardLayout) (len : Nat) : ByteRange :=
  match layout.indexLocation with
  | .atStart => .bounded 0 len
  | .atEnd => .suffix len

end ShardLayout

def shardError (message : String) : StoreError := .generic "shard" message

def unwritten (shard : Path) (position : Nat) : StoreError :=
  .notFound shard ("inner chunk " ++ toString position ++ " of shard " ++ shard ++ " was not written")

-- Two words for each inner chunk, its offset and its length.
inductive ShardIndex where
  | missing
  | written (entries : List Nat)
  deriving DecidableEq, Repr

def pastEnd : Nat → List Nat → Option Nat
  | position,offset::len::rest =>
    if ¬(offset = absent ∧ len = absent) ∧ 2^64 ≤ offset+len then some position else pastEnd (position+1) rest
  | _,_ => none

namespace ShardIndex

def parse (crc32c : Bytes → UInt32) (bytes : Bytes) (layout : ShardLayout) (shard : Path) : Except (Stop StoreError) ShardIndex := do
  let expected ← layout.indexByteLen
  if bytes.length ≠ expected then
    .error (.error (shardError ("shard index of " ++ shard ++ " is " ++ toString bytes.length ++ " bytes, expected " ++
      toString expected)))
  else
    let count ← layout.innerChunksPerShard
    let entriesLen ← Checked.mul count indexEntryBytes
    let entries := bytes.take entriesLen
    if layout.indexChecksum ∧ (crc32c entries).toNat ≠ LittleEndian.value (bytes.drop entriesLen) then
      .error (.error (shardError ("shard index of " ++ shard ++ " does not match its crc32c checksum")))
    else
      let words := LittleEndian.words64 entries
      match pastEnd 0 words with
      | some position => .error (.error (shardError ("shard index of " ++ shard ++ " places inner chunk " ++
          toString position ++ " past the end of any object")))
      | none => .ok (.written words)

def entry (index : ShardIndex) (position : Nat) : Except (Stop StoreError) (Option (Nat × Nat)) :=
  match index with
  | .missing => .ok none
  | .written entries => do
    let start ← Checked.mul position 2
    let _ ← Checked.add start 2
    match (entries.drop start).take 2 with
    | [offset,len] =>
      if offset = absent ∧ len = absent then .ok none
      else do
        let stop ← Checked.add offset len
        .ok (some (offset,stop))
    | _ => .error (.error (shardError ("inner chunk position " ++ toString position ++ " is outside a shard of " ++
        toString (entries.length/2) ++ " inner chunks")))

end ShardIndex

abbrev ShardIndexCache := IndexMap Path ShardIndex

section
variable (crc32c : Bytes → UInt32) (backend : Backend) (layout : ShardLayout)

-- The read of an index that is not remembered. A shard that is not there has nothing in it.
def readIndex (shard : Path) : Except (Stop StoreError) ShardIndex := do
  let len ← layout.indexByteLen
  match backend.getOpts ⟨shard,some (layout.indexRange len)⟩ with
  | .ok bytes => ShardIndex.parse crc32c bytes layout shard
  | .error error => if error.isNotFound then .ok .missing else .error (.error error)

def resolveIndex (cache : ShardIndexCache) (shard : Path) : Except (Stop StoreError) (ShardIndex × ShardIndexCache) :=
  match cache.get? shard with
  | some index => .ok (index,cache)
  | none => do
    let index ← readIndex crc32c backend layout shard
    .ok (index,cache.insert shard index)

def readInnerChunk (cache : ShardIndexCache) (location : ShardLocation) : Except (Stop StoreError) Bytes × ShardIndexCache :=
  match resolveIndex crc32c backend layout cache location.path with
  | .error error => (.error error,cache)
  | .ok (index,cache) =>
    (do
      match ← index.entry location.position with
      | none => .error (.error (unwritten location.path location.position))
      | some (start,stop) => (backend.getOpts ⟨location.path,some (.bounded start stop)⟩).mapError .error,cache)

end

def shardEntries : Nat → List (Option Bytes) → List (Nat × Nat)
  | _,[] => []
  | offset,some bytes::rest => (offset,bytes.length)::shardEntries (offset+bytes.length) rest
  | offset,none::rest => (absent,absent)::shardEntries offset rest

def entryBytes (entries : List (Nat × Nat)) : Bytes :=
  entries.flatMap fun entry => LittleEndian.toBytes 8 entry.1 ++ LittleEndian.toBytes 8 entry.2

def shardBody (chunks : List (Option Bytes)) : Bytes := chunks.flatMap fun chunk => chunk.getD []

-- An index at the start pushes every chunk past itself.
def shardBase (layout : ShardLayout) (count : Nat) : Nat :=
  match layout.indexLocation with
  | .atStart => count*indexEntryBytes+(if layout.indexChecksum then checksumBytes else 0)
  | .atEnd => 0

def shardIndexBytes (crc32c : Bytes → UInt32) (layout : ShardLayout) (chunks : List (Option Bytes)) : Bytes :=
  let entries := entryBytes (shardEntries (shardBase layout chunks.length) chunks)
  entries ++ if layout.indexChecksum then LittleEndian.toBytes 4 (crc32c entries).toNat else []

def buildShard (crc32c : Bytes → UInt32) (layout : ShardLayout) (chunks : List (Option Bytes)) : Bytes :=
  match layout.indexLocation with
  | .atStart => shardIndexBytes crc32c layout chunks ++ shardBody chunks
  | .atEnd => shardBody chunks ++ shardIndexBytes crc32c layout chunks

end Lucida.Store
