import Lucida.Lib.LittleEndian
import Lucida.Lib.Utf8
import Lucida.Web.ProxyStore

namespace Lucida.Web
open Lib

-- The key under which `fetch` registers a request and which the server writes into its answer.
def compositeKey (datasetId imageId chunkKey : String) : String := datasetId ++ "/" ++ imageId ++ "/" ++ chunkKey

def padded (width n : Nat) : String := String.ofList (List.replicate (width-(Nat.toDigits 10 n).length) '0' ++ Nat.toDigits 10 n)

-- The key of a proxy, which both sides write alike.
def proxyResponseKey (entityId : String) (kind : ProxyKind) (t c : UInt32) : String :=
  "proxy/" ++ entityId ++ "/" ++ kind.name ++ "/T" ++ padded 5 t.toNat ++ "_C" ++ padded 3 c.toNat

inductive ProxyDtype where
  | u16
  deriving DecidableEq, Repr

def ProxyDtype.asU32 : ProxyDtype → Nat
  | .u16 => 0

structure ProxyHeader where
  algorithmVersion : UInt32
  sourceContentHash : Vector UInt8 32
  dims : UInt32 × UInt32 × UInt32
  dtype : ProxyDtype
  deriving DecidableEq, Repr

structure ProxyAsset where
  header : ProxyHeader
  voxels : List UInt16
  deriving DecidableEq, Repr

section Server

def magic : List UInt8 := [0x4C,0x50,0x52,0x58]

-- The last eight bytes are reserved.
def writeHeader (header : ProxyHeader) : List UInt8 :=
  magic ++ LittleEndian.toBytes 4 header.algorithmVersion.toNat ++ LittleEndian.toBytes 4 header.dims.1.toNat ++
    LittleEndian.toBytes 4 header.dims.2.1.toNat ++ LittleEndian.toBytes 4 header.dims.2.2.toNat ++ LittleEndian.toBytes 4 header.dtype.asU32 ++
    header.sourceContentHash.toList ++ List.replicate 8 0

def voxelBytes (voxels : List UInt16) : List UInt8 := voxels.flatMap fun voxel => LittleEndian.toBytes 2 voxel.toNat

def envelope (clientId : UInt64) (keyLen : Nat) (keyBytes payload : List UInt8) : List UInt8 :=
  LittleEndian.toBytes 4 (clientId.toNat%2^32) ++ LittleEndian.toBytes 2 keyLen ++ keyBytes ++ payload

-- The length is cast to sixteen bits.
def encodeChunkFrame (clientId : UInt64) (datasetId imageId chunkKey : String) (bytes : List UInt8) : List UInt8 :=
  let keyBytes := Utf8.encode (compositeKey datasetId imageId chunkKey).toList
  envelope clientId (keyBytes.length%2^16) keyBytes bytes

-- The length is converted, and one that does not fit is an error.
def encodeProxyFrame (clientId : UInt64) (entityId : String) (kind : ProxyKind) (t c : UInt32) (asset : ProxyAsset) : Except String (List UInt8) :=
  let keyBytes := Utf8.encode (proxyResponseKey entityId kind t c).toList
  if keyBytes.length < 2^16 then .ok (envelope clientId keyBytes.length keyBytes (writeHeader asset.header ++ voxelBytes asset.voxels))
  else .error "proxy key too long"

end Server

section Client

-- The key and the payload of a frame. The target is skipped.
def handleBinary (buffer : List UInt8) : Option (String × List UInt8) :=
  if buffer.length < 6 then none
  else
    let keyLen := LittleEndian.value ((buffer.drop 4).take 2)
    if buffer.length < 6+keyLen then none
    else some (String.ofList (Utf8.textDecoder ((buffer.drop 6).take keyLen)),buffer.drop (6+keyLen))

-- The table that an answer goes to, with its key there.
inductive Route where
  | chunk (key : String) (data : List UInt8)
  | proxy (key : String) (data : List UInt8)
  deriving DecidableEq, Repr

def isProxyKey (key : String) : Bool := "proxy/".toList.isPrefixOf key.toList

-- `handleBinary` of the content source.
def route (key : String) (data : List UInt8) : Route := if isProxyKey key then .proxy key data else .chunk key data

def receive (buffer : List UInt8) : Option Route := (handleBinary buffer).map fun frame => route frame.1 frame.2

def uint32At (buffer : List UInt8) (offset : Nat) : Nat := LittleEndian.value ((buffer.drop offset).take 4)

structure ProxyHeaderJs where
  algorithmVersion : Nat
  sourceContentHash : List UInt8
  dims : Nat × Nat × Nat
  deriving DecidableEq, Repr

def parseProxyHeader (buffer : List UInt8) : Except String ProxyHeaderJs :=
  if buffer.length < 64 then .error ("Proxy header truncated: need 64 bytes, got " ++ toString buffer.length)
  else if buffer.take 4 ≠ magic then .error "Bad proxy header magic"
  else if uint32At buffer 20 ≠ 0 then .error ("Unknown proxy dtype code: " ++ toString (uint32At buffer 20))
  else .ok ⟨uint32At buffer 4,(buffer.drop 24).take 32,uint32At buffer 8,uint32At buffer 12,uint32At buffer 16⟩

def resolveProxy (raw : List UInt8) : Except String (ProxyHeaderJs × List UInt8) := (parseProxyHeader raw).map fun header => (header,raw.drop 64)

end Client

section Envelope
variable {clientId : UInt64} {keyLen : Nat} {keyBytes payload : List UInt8}

theorem handleBinary_envelope (fits : keyLen < 2^16) (within : keyLen ≤ keyBytes.length) :
    handleBinary (envelope clientId keyLen keyBytes payload) =
      some (String.ofList (Utf8.textDecoder (keyBytes.take keyLen)),keyBytes.drop keyLen ++ payload) := by
  have length : (envelope clientId keyLen keyBytes payload).length = 6+keyBytes.length+payload.length := by
    simp only [envelope,List.length_append,LittleEndian.length_toBytes]
  have prefixed : ∀ n, (envelope clientId keyLen keyBytes payload).drop (6+n) = (keyBytes ++ payload).drop n := by
    intro n
    unfold envelope
    rw [← List.drop_drop,List.append_assoc,List.drop_left' (by simp)]
  have announced : ((envelope clientId keyLen keyBytes payload).drop 4).take 2 = LittleEndian.toBytes 2 keyLen := by
    unfold envelope
    rw [List.append_assoc,List.append_assoc,List.drop_left' (by simp),List.take_left' (by simp)]
  unfold handleBinary
  rw [announced,LittleEndian.value_toBytes fits,length,if_neg (by omega)]
  dsimp only
  rw [if_neg (by omega),prefixed keyLen,prefixed 0,List.drop_zero,List.take_append_of_le_length within,List.drop_append_of_le_length within]

theorem receive_envelope {key : String} (fits : (Utf8.encode key.toList).length < 2^16) :
    receive (envelope clientId (Utf8.encode key.toList).length (Utf8.encode key.toList) payload) =
      some (route (if key.toList.head? = some Utf8.byteOrderMark then String.ofList key.toList.tail else key) payload) := by
  unfold receive
  rw [handleBinary_envelope fits (le_refl _),List.take_length,List.drop_length,Utf8.textDecoder_encode]
  split
  · rfl
  · rw [String.ofList_toList]
    rfl

end Envelope

section Chunks

def Representable (key : String) : Prop :=
  (Utf8.encode key.toList).length < 2^16 ∧ isProxyKey key = false ∧ key.toList.head? ≠ some Utf8.byteOrderMark

theorem unmarked_ne {key : String} (marked : key.toList.head? = some Utf8.byteOrderMark) : String.ofList key.toList.tail ≠ key := by
  intro same
  have lengths := congrArg (fun text : String => text.toList.length) same
  simp only [String.toList_ofList,List.length_tail] at lengths
  cases shape : key.toList with
  | nil =>
    rw [shape] at marked
    cases marked
  | cons c rest =>
    rw [shape,List.length_cons] at lengths
    omega

theorem route_eq_chunk_iff {key other : String} {data bytes : List UInt8} :
    route other data = .chunk key bytes ↔ isProxyKey other = false ∧ other = key ∧ data = bytes := by
  unfold route
  split
  · rename_i proxy
    simp [proxy]
  · rename_i chunk
    simp [chunk]

theorem receive_chunk_iff (clientId : UInt64) (datasetId imageId chunkKey : String) (bytes : List UInt8) :
    receive (encodeChunkFrame clientId datasetId imageId chunkKey bytes) = some (.chunk (compositeKey datasetId imageId chunkKey) bytes) ↔
      Representable (compositeKey datasetId imageId chunkKey) := by
  unfold encodeChunkFrame Representable
  dsimp only
  generalize compositeKey datasetId imageId chunkKey = key
  by_cases fits : (Utf8.encode key.toList).length < 2^16
  · rw [Nat.mod_eq_of_lt fits,receive_envelope fits,Option.some_inj,route_eq_chunk_iff]
    by_cases marked : key.toList.head? = some Utf8.byteOrderMark
    · simp [marked,unmarked_ne marked]
    · simpa [marked] using fun _ => fits
  · -- The rest of the key is taken for the front of the payload.
    have rest := Nat.mod_lt (Utf8.encode key.toList).length (by decide : 0 < 2^16)
    unfold receive
    rw [handleBinary_envelope rest (Nat.mod_le _ _),Option.map_some,Option.some_inj,route_eq_chunk_iff]
    constructor
    · rintro ⟨_,_,same⟩
      have lengths := congrArg List.length same
      rw [List.length_append,List.length_drop] at lengths
      omega
    · exact fun representable => absurd representable.1 fits

end Chunks

section Proxies

theorem length_writeHeader (header : ProxyHeader) : (writeHeader header).length = 64 := by
  simp [writeHeader,magic,LittleEndian.length_toBytes]

theorem part_at {front part back : List UInt8} {offset width : Nat} (start : front.length = offset) (wide : part.length = width) :
    ((front ++ (part ++ back)).drop offset).take width = part := by
  rw [List.drop_left' start,List.take_left' wide]

theorem uint32At_part {front back : List UInt8} {offset : Nat} (n : UInt32) (start : front.length = offset) :
    uint32At (front ++ (LittleEndian.toBytes 4 n.toNat ++ back)) offset = n.toNat := by
  unfold uint32At
  rw [part_at start (LittleEndian.length_toBytes 4 _)]
  exact LittleEndian.value_toBytes (UInt32.toNat_lt n)

theorem parse_writeHeader (header : ProxyHeader) (data : List UInt8) :
    parseProxyHeader (writeHeader header ++ data) =
      .ok ⟨header.algorithmVersion.toNat,header.sourceContentHash.toList,header.dims.1.toNat,header.dims.2.1.toNat,header.dims.2.2.toNat⟩ := by
  obtain ⟨version,hash,⟨depth,height,width⟩,dtype⟩ := header
  generalize whole : writeHeader ⟨version,hash,⟨depth,height,width⟩,dtype⟩ ++ data = buffer
  have total : ¬ buffer.length < 64 := by
    rw [← whole,List.length_append,length_writeHeader]
    omega
  -- The buffer, cut before each part.
  have front : buffer.take 4 = magic := by
    rw [← whole]
    simp only [writeHeader,List.append_assoc]
    exact List.take_left' rfl
  have versionAt : uint32At buffer 4 = version.toNat := by
    rw [← whole]
    simp only [writeHeader,List.append_assoc]
    exact uint32At_part version rfl
  have depthAt : uint32At buffer 8 = depth.toNat := by
    rw [← whole]
    simp only [writeHeader,List.append_assoc]
    rw [← List.append_assoc]
    exact uint32At_part depth rfl
  have heightAt : uint32At buffer 12 = height.toNat := by
    rw [← whole]
    simp only [writeHeader,List.append_assoc]
    rw [← List.append_assoc,← List.append_assoc]
    exact uint32At_part height rfl
  have widthAt : uint32At buffer 16 = width.toNat := by
    rw [← whole]
    simp only [writeHeader,List.append_assoc]
    rw [← List.append_assoc,← List.append_assoc,← List.append_assoc]
    exact uint32At_part width rfl
  have dtypeAt : uint32At buffer 20 = 0 := by
    rw [← whole]
    simp only [writeHeader,List.append_assoc]
    rw [← List.append_assoc,← List.append_assoc,← List.append_assoc,← List.append_assoc]
    exact uint32At_part 0 rfl
  have hashAt : (buffer.drop 24).take 32 = hash.toList := by
    rw [← whole]
    simp only [writeHeader,List.append_assoc]
    rw [← List.append_assoc,← List.append_assoc,← List.append_assoc,← List.append_assoc,← List.append_assoc]
    exact part_at rfl Vector.length_toList
  unfold parseProxyHeader
  rw [if_neg total,if_neg (not_not.mpr front),if_neg (not_not.mpr dtypeAt),versionAt,depthAt,heightAt,widthAt,hashAt]

theorem isProxyKey_append (rest : String) : isProxyKey ("proxy/" ++ rest) = true := by
  unfold isProxyKey
  rw [String.toList_append,List.isPrefixOf_iff_prefix]
  exact List.prefix_append _ _

theorem proxyResponseKey_head (entityId : String) (kind : ProxyKind) (t c : UInt32) :
    isProxyKey (proxyResponseKey entityId kind t c) = true ∧ (proxyResponseKey entityId kind t c).toList.head? = some 'p' := by
  have shape : proxyResponseKey entityId kind t c =
      "proxy/" ++ (entityId ++ "/" ++ kind.name ++ "/T" ++ padded 5 t.toNat ++ "_C" ++ padded 3 c.toNat) := by
    simp only [proxyResponseKey,String.append_assoc]
  rw [shape]
  refine ⟨isProxyKey_append _,?_⟩
  rw [String.toList_append]
  rfl

theorem receive_proxy {clientId : UInt64} {entityId : String} {kind : ProxyKind} {t c : UInt32} {asset : ProxyAsset} {frame : List UInt8}
    (sent : encodeProxyFrame clientId entityId kind t c asset = .ok frame) :
    receive frame = some (.proxy (proxyResponseKey entityId kind t c) (writeHeader asset.header ++ voxelBytes asset.voxels)) := by
  obtain ⟨proxy,letter⟩ := proxyResponseKey_head entityId kind t c
  unfold encodeProxyFrame at sent
  dsimp only at sent
  split at sent
  · rename_i fits
    cases sent
    rw [receive_envelope fits,if_neg (by rw [letter]; decide)]
    unfold route
    rw [if_pos proxy]
  · cases sent

theorem resolve_payload (asset : ProxyAsset) :
    resolveProxy (writeHeader asset.header ++ voxelBytes asset.voxels) =
      .ok (⟨asset.header.algorithmVersion.toNat,asset.header.sourceContentHash.toList,asset.header.dims.1.toNat,asset.header.dims.2.1.toNat,
        asset.header.dims.2.2.toNat⟩,voxelBytes asset.voxels) := by
  unfold resolveProxy
  rw [parse_writeHeader,List.drop_left' (length_writeHeader _)]
  rfl

end Proxies

-- A chunk frame reaches the chunk table under the key of the request, with its bytes, when the
-- client can read the key back and nothing else. A proxy frame reaches the proxy table whenever it
-- is sent, with its header and its voxels, and is an error for a key that does not fit.
theorem binary_frames_round_trip (clientId : UInt64) :
    (∀ datasetId imageId chunkKey bytes,
      receive (encodeChunkFrame clientId datasetId imageId chunkKey bytes) = some (.chunk (compositeKey datasetId imageId chunkKey) bytes) ↔
        Representable (compositeKey datasetId imageId chunkKey)) ∧
    ∀ entityId kind t c asset,
      (∃ frame payload, encodeProxyFrame clientId entityId kind t c asset = .ok frame ∧
        receive frame = some (.proxy (proxyResponseKey entityId kind t c) payload) ∧
        resolveProxy payload = .ok (⟨asset.header.algorithmVersion.toNat,asset.header.sourceContentHash.toList,asset.header.dims.1.toNat,
          asset.header.dims.2.1.toNat,asset.header.dims.2.2.toNat⟩,voxelBytes asset.voxels)) ∨
      (2^16 ≤ (Utf8.encode (proxyResponseKey entityId kind t c).toList).length ∧
        encodeProxyFrame clientId entityId kind t c asset = .error "proxy key too long") := by
  refine ⟨receive_chunk_iff clientId,?_⟩
  intro entityId kind t c asset
  by_cases fits : (Utf8.encode (proxyResponseKey entityId kind t c).toList).length < 2^16
  · have sent : encodeProxyFrame clientId entityId kind t c asset =
        .ok (envelope clientId (Utf8.encode (proxyResponseKey entityId kind t c).toList).length (Utf8.encode (proxyResponseKey entityId kind t c).toList)
          (writeHeader asset.header ++ voxelBytes asset.voxels)) := if_pos fits
    exact .inl ⟨_,_,sent,receive_proxy sent,resolve_payload asset⟩
  · exact .inr ⟨not_lt.mp fits,if_neg fits⟩

-- An image id of sixty-five thousand letters: the length of the key is cut to sixteen bits.
theorem long_key_is_misread :
    receive (encodeChunkFrame 7 "ds1" (String.ofList (List.replicate 65536 'a')) "0/0/0/0/0/0" [1,2,3]) ≠
      some (.chunk (compositeKey "ds1" (String.ofList (List.replicate 65536 'a')) "0/0/0/0/0/0") [1,2,3]) := by
  intro recovered
  have fits := ((receive_chunk_iff _ _ _ _ _).mp recovered).1
  have long := Utf8.length_le_encode (compositeKey "ds1" (String.ofList (List.replicate 65536 'a')) "0/0/0/0/0/0").toList
  simp only [compositeKey,String.toList_append,String.toList_ofList,List.length_append,List.length_replicate] at long fits
  omega

end Lucida.Web
