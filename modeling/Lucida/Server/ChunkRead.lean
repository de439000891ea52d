import Mathlib.Data.List.Infix
import Mathlib.Data.List.ProdSigma
import Lucida.Lib.Checked
import Lucida.Lib.Raster
import Lucida.Lib.Text
import Lucida.Store.ChunkLayout
import Lucida.Store.Flights

namespace Lucida.Server
open Content Lib Store
open Store.ChunkCache (Bytes)

inductive BloscCompressor where
  | zstd
  deriving DecidableEq, Repr

inductive BloscShuffle where
  | none
  | byte
  | bit
  deriving DecidableEq, Repr

structure BloscConfig where
  typesize : UInt8
  cname : BloscCompressor
  shuffle : BloscShuffle
  deriving DecidableEq, Repr

inductive StorageCompression where
  | none
  | lz4
  | zstd
  | blosc (config : BloscConfig)
  deriving DecidableEq, Repr

inductive DecodeError where
  | lz4 (text : String)
  | zstd (text : String)
  | blosc (text : String)
  | wrongSize (expected actual : Nat)
  deriving DecidableEq, Repr

structure Codecs where
  lz4 : Bytes → Except String Bytes
  zstd : Bytes → Except String Bytes
  blosc : BloscConfig → Bytes → Except String Bytes

def decodeStorageBytes (codecs : Codecs) (storageBytes : Bytes) : StorageCompression → Except DecodeError Bytes
  | .none => .ok storageBytes
  | .lz4 => (codecs.lz4 storageBytes).mapError .lz4
  | .zstd => (codecs.zstd storageBytes).mapError .zstd
  | .blosc config => (codecs.blosc config storageBytes).mapError .blosc

inductive ChunkLocation where
  | object (path : String)
  | innerChunk (path : String) (position : Nat)
  deriving DecidableEq, Repr

-- `locate` is what `resolve` does once it has the image: the prefix, the path of the key and
-- the shard.
structure ImageResolver where
  axesNames : List String
  locate : String → ChunkLocation

abbrev ChunkResolver := ImageId → Option ImageResolver

namespace ChunkResolver

def axesNames (resolver : ChunkResolver) (imageId : ImageId) : Option (List String) :=
  (resolver imageId).map ImageResolver.axesNames

def resolve (resolver : ChunkResolver) (imageId : ImageId) (key : String) : Option ChunkLocation :=
  (resolver imageId).map (·.locate key)

end ChunkResolver

structure Regrid where
  chunkShape : List UInt64
  chunkByteLayout : ChunkByteLayout
  storedShape : List UInt64
  deriving DecidableEq, Repr

structure LevelInfo where
  compression : StorageCompression
  chunkShape : List UInt64
  chunkByteLayout : ChunkByteLayout
  regrid : Option Regrid
  deriving DecidableEq, Repr

inductive ChunkRead where
  | present (bytes : Bytes)
  | absent (len : Nat)
  deriving DecidableEq, Repr

def ChunkRead.intoBytes : ChunkRead → Bytes
  | .present bytes => bytes
  | .absent len => List.replicate len 0

inductive ChunkReadError where
  | unknownImage (imageId : ImageId)
  | objectStore (error : ChunkCache.StoreError)
  | decode (error : DecodeError)
  deriving DecidableEq, Repr

-- `open_diagnostics::is_not_found`.
def isNotFound (error : ChunkCache.StoreError) : Bool :=
  error.isNotFound || "not found".toList <:+: error.display.toList ||
    "No such file or directory".toList <:+: error.display.toList

def splitKey (key : String) : List (List Char) := key.toList.splitOn '/'

def parseTCFromChunkKey (key : String) : Nat × Nat :=
  let part i := (((splitKey key)[i]?).bind (parseUnsigned 64)).getD 0
  (part 1,part 2)

-- The range is cut out where the bytes have it, and a size of zero cuts nothing.
def sliceWireChunk (raw : Bytes) (layout : ChunkByteLayout) (wireT wireC : Nat) : Bytes :=
  let (offset,size) := layout.sliceRange wireT wireC
  if 0 < size ∧ offset+size < 2^64 ∧ offset+size ≤ raw.length then (raw.take (offset+size)).drop offset else raw

def decodeWireChunk (codecs : Codecs) (storageBytes : Bytes) (level : LevelInfo) (chunkKey : String) :
    Except ChunkReadError Bytes := do
  let raw ← (decodeStorageBytes codecs storageBytes level.compression).mapError .decode
  let expected := level.chunkByteLayout.onDiskByteSize
  if 0 < expected ∧ raw.length ≠ expected then throw (.decode (.wrongSize expected raw.length))
  let (wireT,wireC) := parseTCFromChunkKey chunkKey
  return sliceWireChunk raw level.chunkByteLayout wireT wireC

structure Zyx where
  z : Nat
  y : Nat
  x : Nat
  deriving DecidableEq, Repr

namespace Zyx
variable {ε : Type}

def spatial (along : String → Nat) : Zyx := ⟨along "z",along "y",along "x"⟩

def zip (f : Nat → Nat → Nat) (a b : Zyx) : Zyx := ⟨f a.z b.z,f a.y b.y,f a.x b.x⟩

def zipM (f : Nat → Nat → Except ε Nat) (a b : Zyx) : Except ε Zyx := do
  return ⟨← f a.z b.z,← f a.y b.y,← f a.x b.x⟩

def All (P : Nat → Nat → Prop) (a b : Zyx) : Prop := P a.z b.z ∧ P a.y b.y ∧ P a.x b.x

instance (P : Nat → Nat → Prop) [∀ m n, Decidable (P m n)] (a b : Zyx) : Decidable (a.All P b) :=
  inferInstanceAs (Decidable (_ ∧ _ ∧ _))

end Zyx

-- `ends` is the declared chunk's end, clipped to the stored level.
structure RegridPlan where
  level : Nat
  t : Nat
  c : Nat
  origin : Zyx
  served : Zyx
  ends : Zyx
  stored : Zyx
  sampleBytes : Nat
  deriving DecidableEq, Repr

structure StoredSource where
  key : String
  grid : Zyx
  deriving DecidableEq, Repr

-- The size along an axis of a level's shape, and 1 along an axis it does not have.
def extentAlong (axes : List String) (shape : List UInt64) (name : String) : Nat :=
  ((axisValue axes shape name).getD 1).toNat

def along (axes : List String) (shape : List UInt64) (name : String) : Nat := max (extentAlong axes shape name) 1

def chunkKeyOf (level t c : Nat) (grid : Zyx) : String :=
  String.ofList (['/'].intercalate ([level,t,c,grid.z,grid.y,grid.x].map (Nat.toDigits 10)))

namespace RegridPlan
variable {ε : Type}

def new (chunkKey : String) (axes : List String) (stored : LevelInfo) (regrid : Regrid) : Except (Stop ε) (Option RegridPlan) :=
  match (splitKey chunkKey).mapM (parseUnsigned 64) with
  | some [level,t,c,z,y,x] =>
    if along axes regrid.storedShape "t" ≤ t ∨ along axes regrid.storedShape "c" ≤ c then .ok none
    else
      let served := Zyx.spatial (along axes regrid.chunkShape)
      let storedChunk := Zyx.spatial (along axes stored.chunkShape)
      let extent := Zyx.spatial (along axes regrid.storedShape)
      let origin := Zyx.zip (· * ·) ⟨z,y,x⟩ served
      -- `checked_mul` has no product past the word.
      if ¬ origin.All (fun start extent => start < 2^64 ∧ start < extent) extent then .ok none
      else do
        let reach ← Zyx.zipM Checked.add origin served
        let servedSamples ← Checked.mul (← Checked.mul (← Checked.mul 1 served.z) served.y) served.x
        return some {
          level, t, c, origin, served
          ends := Zyx.zip min reach extent
          stored := storedChunk
          sampleBytes := regrid.chunkByteLayout.canonicalByteSize/servedSamples }
  | _ => .ok none

def storedChunks (plan : RegridPlan) : Except (Stop ε) (List StoredSource) := do
  let last ← Zyx.zipM Checked.sub plan.ends ⟨1,1,1⟩
  let range first last := List.range' first (last+1-first)
  return (range (plan.origin.z/plan.stored.z) (last.z/plan.stored.z) ×ˢ
      range (plan.origin.y/plan.stored.y) (last.y/plan.stored.y) ×ˢ
      range (plan.origin.x/plan.stored.x) (last.x/plan.stored.x)).map fun (gz,gy,gx) =>
    ⟨chunkKeyOf plan.level plan.t plan.c ⟨gz,gy,gx⟩,⟨gz,gy,gx⟩⟩

def byteAt (sampleBytes : Nat) (corner shape : Zyx) (z y x : Nat) : Except (Stop ε) Nat := do
  let line ← Checked.add (← Checked.mul (← Checked.sub z corner.z) shape.y) (← Checked.sub y corner.y)
  let index ← Checked.add (← Checked.mul line shape.x) (← Checked.sub x corner.x)
  Checked.mul index sampleBytes

-- One run along `x`, or fill where the bytes do not have it.
def copyRow (plan : RegridPlan) (base lo : Zyx) (run : Nat) (wire out : Bytes) (z y : Nat) : Except (Stop ε) Bytes := do
  let src ← byteAt plan.sampleBytes base plan.stored z y lo.x
  let dst ← byteAt plan.sampleBytes plan.origin plan.served z y lo.x
  let srcEnd ← Checked.add src run
  let dstEnd ← Checked.add dst run
  return if srcEnd ≤ wire.length ∧ dstEnd ≤ out.length then overwrite out dst ((wire.drop src).take run) else out

def copy (plan : RegridPlan) (source : StoredSource) (wire out : Bytes) : Except (Stop ε) Bytes := do
  let base ← Zyx.zipM Checked.mul source.grid plan.stored
  let lo := Zyx.zip max plan.origin base
  let reach ← Zyx.zipM Checked.add base plan.stored
  let hi := Zyx.zip min plan.ends reach
  let run ← Checked.mul (← Checked.sub hi.x lo.x) plan.sampleBytes
  (List.range' lo.z (hi.z-lo.z) ×ˢ List.range' lo.y (hi.y-lo.y)).foldlM
    (fun out row => plan.copyRow base lo run wire out row.1 row.2) out

end RegridPlan

-- The reads a request makes, and how it ends.
structure Reading where
  reads : List ChunkLocation
  outcome : Except (Stop ChunkReadError) ChunkRead

section
variable (codecs : Codecs) (store : ChunkLocation → Except ChunkCache.StoreError Bytes)

def assembleTurn (plan : RegridPlan) (stored : LevelInfo) (state : Bytes × Bool) (read : StoredSource × Except ChunkCache.StoreError Bytes) :
    Except (Stop ChunkReadError) (Bytes × Bool) :=
  match read.2 with
  | .error error => if isNotFound error then .ok state else .error (.error (.objectStore error))
  | .ok storageBytes => do
    let wire ← (decodeWireChunk codecs storageBytes stored read.1.key).mapError .error
    let out ← plan.copy read.1 wire state.1
    return (out,true)

def readRegriddedChunk (resolver : ChunkResolver) (imageId : ImageId) (chunkKey : String) (stored : LevelInfo) (regrid : Regrid) :
    Reading :=
  let servedLen := regrid.chunkByteLayout.canonicalByteSize
  match resolver.axesNames imageId with
  | none => ⟨[],.error (.error (.unknownImage imageId))⟩
  | some axes =>
    match RegridPlan.new chunkKey axes stored regrid with
    | .error stop => ⟨[],.error stop⟩
    | .ok none => ⟨[],.ok (.absent servedLen)⟩
    | .ok (some plan) =>
      match plan.storedChunks with
      | .error stop => ⟨[],.error stop⟩
      | .ok sources =>
        match sources.mapM fun source => resolver.resolve imageId source.key with
        | none => ⟨[],.error (.error (.unknownImage imageId))⟩
        | some locations => {
            reads := locations
            outcome := do
              let (out,anyPresent) ← (sources.zip (locations.map store)).foldlM (assembleTurn codecs plan stored)
                (List.replicate servedLen 0,false)
              return if anyPresent then .present out else .absent servedLen }

end

end Lucida.Server
