import Lucida.Renderer.ProxyAtlas
import Lucida.Store.ChunkPaths
import Lucida.Web.CpuCache

namespace Lucida.Renderer
open Lib
open Server (Zyx)
open Web (ProxyKind SceneEpochs)

structure EntityProxyDescriptor where
  tileProxyHandle : Option ProxyHandle
  groupProxyHandle : Option ProxyHandle
  deriving DecidableEq, Repr

namespace EntityProxyDescriptor

def handle (desc : EntityProxyDescriptor) : ProxyKind → Option ProxyHandle
  | .tileProxy3D => desc.tileProxyHandle
  | .groupProxy3D => desc.groupProxyHandle

def setHandle (desc : EntityProxyDescriptor) (handle : Option ProxyHandle) : ProxyKind → EntityProxyDescriptor
  | .tileProxy3D => {desc with tileProxyHandle := handle}
  | .groupProxy3D => {desc with groupProxyHandle := handle}

end EntityProxyDescriptor

structure ProxyStats where
  uploaded : Nat := 0
  dropped : Nat := 0
  evicted : Nat := 0
  droppedStale : Nat := 0
  droppedNotDesired : Nat := 0
  droppedStaleRequest : Nat := 0
  evictedLru : Nat := 0
  evictedPolicy : Nat := 0
  deriving DecidableEq, Repr

structure ActiveEntry where
  entityId : String
  parentGroupId : Option String
  deriving DecidableEq, Repr

-- What the proxies read of a cold state. No desired keys means all are desired.
structure ColdState where
  epochs : SceneEpochs
  datasetId : String
  desiredProxyKeys : Option (List String)
  activeSet : List ActiveEntry
  deriving DecidableEq, Repr

-- The data are 16-bit samples.
structure ProxyAssetData where
  epochs : SceneEpochs
  datasetId : String
  entityId : String
  kind : ProxyKind
  t : Nat
  c : Nat
  dims : Zyx
  data : List Nat
  deriving DecidableEq, Repr

abbrev Descriptors := IndexMap String EntityProxyDescriptor

structure RendererState where
  groupToTiles : IndexMap String (List String) := .empty
  groupsByDataset : IndexMap String (List String) := .empty
  proxyPoolsByDataset : NestedMap String String ProxyAtlasState := .empty
  proxyDescriptorsByEntity : Descriptors := .empty
  currentEpochs : Option SceneEpochs := none
  currentColdState : Option ColdState := none
  proxyStats : ProxyStats := {}

def proxyDescriptorKey (entityId : String) (t c : Int) : String := entityId ++ "|" ++ toString t ++ "|" ++ toString c

def proxyResidencyKey (datasetId entityId : String) (kind : ProxyKind) (t c : Int) : String :=
  datasetId ++ "|" ++ entityId ++ "|" ++ kind.name ++ "|" ++ toString t ++ "|" ++ toString c

def isStaleDelivery (deliveryEpochs : SceneEpochs) (currentEpochs : Option SceneEpochs) : Bool :=
  match currentEpochs with
  | none => false
  | some current => deliveryEpochs.selection < current.selection || deliveryEpochs.content < current.content

inductive ProxyDeliveryPolicy where
  | accept
  | notDesired
  | staleRequest (desired : Bool)
  deriving DecidableEq, Repr

def evaluateProxyDeliveryPolicy (coldState : Option ColdState) (msg : ProxyAssetData) : ProxyDeliveryPolicy :=
  match coldState with
  | none => .accept
  | some cold =>
    if cold.datasetId ≠ msg.datasetId then .accept
    else match cold.desiredProxyKeys with
      | none => .accept
      | some keys =>
        if proxyResidencyKey msg.datasetId msg.entityId msg.kind msg.t msg.c ∉ keys then .notDesired
        else if msg.epochs.request < cold.epochs.request then .staleRequest true
        else .accept

def joinParts (parts : List (List Char)) : String := String.ofList (['|'].intercalate parts)

section Parse
-- `Number(text)`, where it is an integer.
variable (number : String → Option Int)

def parseProxySlotKey (slotKey : String) : Option (String × Int × Int) :=
  match (slotKey.toList.splitOn '|').reverse with
  | cRaw::tRaw::first::rest =>
    match number (String.ofList tRaw),number (String.ofList cRaw) with
    | some t,some c => some (joinParts (first::rest).reverse,t,c)
    | _,_ => none
  | _ => none

structure ResidencyKeyParts where
  datasetId : String
  entityId : String
  proxyKind : ProxyKind
  t : Int
  c : Int
  deriving DecidableEq, Repr

def parseProxyResidencyKey (key : String) : Option ResidencyKeyParts :=
  match key.toList.splitOn '|' with
  | datasetId::parts =>
    match parts.reverse with
    | cRaw::tRaw::kindRaw::first::rest =>
      match number (String.ofList tRaw),number (String.ofList cRaw) with
      | some t,some c =>
        if String.ofList kindRaw = ProxyKind.groupProxy3D.name then
          some ⟨String.ofList datasetId,joinParts (first::rest).reverse,.groupProxy3D,t,c⟩
        else if String.ofList kindRaw = ProxyKind.tileProxy3D.name then
          some ⟨String.ofList datasetId,joinParts (first::rest).reverse,.tileProxy3D,t,c⟩
        else none
      | _,_ => none
    | _ => none
  | [] => none

def desiredProxyCountForPool (coldState : Option ColdState) (datasetId : String) (kind : ProxyKind) (c : Nat) : Option Nat :=
  match coldState with
  | none => none
  | some cold =>
    if cold.datasetId ≠ datasetId then none
    else cold.desiredProxyKeys.map fun keys => keys.countP fun key =>
      match parseProxyResidencyKey number key with
      | none => false
      | some parsed => parsed.datasetId = datasetId ∧ parsed.proxyKind = kind ∧ parsed.c = c

end Parse

def clearDescriptorHandle (kind : ProxyKind) (descriptors : Descriptors) (entityId : String) (t c : Int) (expected : ProxyHandle) : Descriptors :=
  match descriptors.get? (proxyDescriptorKey entityId t c) with
  | none => descriptors
  | some desc =>
    if desc.handle kind = some expected then descriptors.insert (proxyDescriptorKey entityId t c) (desc.setHandle none kind) else descriptors

def clearDescriptorTileHandle := clearDescriptorHandle .tileProxy3D

def clearDescriptorGroupHandle := clearDescriptorHandle .groupProxy3D

def childTiles (groupToTiles : IndexMap String (List String)) (groupId : String) : List String := (groupToTiles.get? groupId).getD []

-- Whether anything changed is not read by any caller.
def clearProxyDescriptorHandle (groupToTiles : IndexMap String (List String)) (descriptors : Descriptors) (entityId : String) (t c : Int)
    (proxyKind : ProxyKind) (expected : ProxyHandle) : Descriptors :=
  match proxyKind with
  | .tileProxy3D => clearDescriptorTileHandle descriptors entityId t c expected
  | .groupProxy3D =>
    (childTiles groupToTiles entityId).foldl (fun descriptors tileId => clearDescriptorGroupHandle descriptors tileId t c expected)
      (clearDescriptorGroupHandle descriptors entityId t c expected)

def getOrCreateProxyDescriptor (descriptors : Descriptors) (entityId : String) (t c : Int) : EntityProxyDescriptor :=
  (descriptors.get? (proxyDescriptorKey entityId t c)).getD ⟨none,none⟩

def setDescriptorHandle (kind : ProxyKind) (handle : ProxyHandle) (t c : Int) (descriptors : Descriptors) (entityId : String) : Descriptors :=
  descriptors.insert (proxyDescriptorKey entityId t c) ((getOrCreateProxyDescriptor descriptors entityId t c).setHandle (some handle) kind)

def propagateGroupProxyToTiles (handle : ProxyHandle) (groupId : String) (t c : Int) (groupToTiles : IndexMap String (List String))
    (descriptors : Descriptors) : Descriptors :=
  (childTiles groupToTiles groupId).foldl (setDescriptorHandle .groupProxy3D handle t c) descriptors

section Upload
variable (number : String → Option Int) (maxTextureDimension3D : Nat)

def clearResidentProxyDescriptor (groupToTiles : IndexMap String (List String)) (descriptors : Descriptors) (poolKey : String)
    (proxyKind : ProxyKind) (slotKey : String) (slotIndex : Nat) : Descriptors :=
  match parseProxySlotKey number slotKey with
  | none => descriptors
  | some (entityId,t,c) => clearProxyDescriptorHandle groupToTiles descriptors entityId t c proxyKind ⟨poolKey,slotIndex⟩

-- A pool too small for what is desired is destroyed and made anew, larger.
def getOrCreateProxyPool (s : RendererState) (datasetId : String) (kind : ProxyKind) (slotDims : Zyx) (channel requestedCapacity : Nat) :
    RendererState × Except String ProxyAtlasState :=
  let poolKey := proxyPoolKey datasetId kind slotDims channel
  let s := {s with proxyPoolsByDataset := s.proxyPoolsByDataset.upsert datasetId (·.getD .empty)}
  match s.proxyPoolsByDataset.find? datasetId poolKey with
  | none =>
    match createProxyAtlas maxTextureDimension3D kind slotDims channel requestedCapacity with
    | .error text => (s,.error text)
    | .ok pool => ({s with proxyPoolsByDataset := s.proxyPoolsByDataset.put datasetId poolKey pool},.ok pool)
  | some pool =>
    if pool.requestedCapacity < requestedCapacity then
      let evictedCount := pool.slots.keys.length
      let s := {s with
        proxyDescriptorsByEntity := pool.slots.entries.foldl (fun descriptors (slot : String × Nat) =>
          clearResidentProxyDescriptor number s.groupToTiles descriptors poolKey pool.kind slot.1 slot.2) s.proxyDescriptorsByEntity
        proxyStats := {s.proxyStats with
          evicted := s.proxyStats.evicted+evictedCount
          evictedPolicy := s.proxyStats.evictedPolicy+evictedCount}}
      match createProxyAtlas maxTextureDimension3D kind slotDims channel requestedCapacity with
      | .error text =>
        -- The destroyed pool stays where it is.
        ({s with proxyPoolsByDataset := s.proxyPoolsByDataset.put datasetId poolKey {pool with slots := .empty, freeSlots := [], touchOrder := []}},
          .error text)
      | .ok pool => ({s with proxyPoolsByDataset := s.proxyPoolsByDataset.put datasetId poolKey pool},.ok pool)
    else (s,.ok pool)

structure ProxyUploadOutcome where
  rebuildDescriptor : Bool
  wantedSetChanged : Bool
  deriving DecidableEq, Repr

-- The rest of an upload, once its proxy has a slot.
def storeProxy (s : RendererState) (msg : ProxyAssetData) (pool : ProxyAtlasState) (allocation : ProxySlotAllocation) : RendererState :=
  let poolKey := proxyPoolKey msg.datasetId msg.kind msg.dims msg.c
  let s := match allocation.evictedKey with
    | none => s
    | some evictedKey => {s with
        proxyDescriptorsByEntity := clearResidentProxyDescriptor number s.groupToTiles s.proxyDescriptorsByEntity poolKey pool.kind evictedKey
          allocation.slotIndex
        proxyStats := {s.proxyStats with evicted := s.proxyStats.evicted+1, evictedLru := s.proxyStats.evictedLru+1}}
  let pool := {pool with texture := pool.texture.write (proxySlotOrigin pool allocation.slotIndex) msg.data msg.dims.y msg.dims.x msg.dims}
  let handle : ProxyHandle := ⟨poolKey,allocation.slotIndex⟩
  let descriptors := setDescriptorHandle msg.kind handle msg.t msg.c s.proxyDescriptorsByEntity msg.entityId
  let descriptors := match msg.kind with
    | .tileProxy3D => descriptors
    | .groupProxy3D => propagateGroupProxyToTiles handle msg.entityId msg.t msg.c s.groupToTiles descriptors
  {s with
    proxyPoolsByDataset := s.proxyPoolsByDataset.put msg.datasetId poolKey pool
    proxyDescriptorsByEntity := descriptors
    proxyStats := {s.proxyStats with uploaded := s.proxyStats.uploaded+1}}

def handleProxyUpload (s : RendererState) (msg : ProxyAssetData) : RendererState × Except String ProxyUploadOutcome :=
  if isStaleDelivery msg.epochs s.currentEpochs then
    ({s with proxyStats := {s.proxyStats with dropped := s.proxyStats.dropped+1, droppedStale := s.proxyStats.droppedStale+1}},.ok ⟨false,false⟩)
  else match evaluateProxyDeliveryPolicy s.currentColdState msg with
  | .notDesired =>
    ({s with proxyStats := {s.proxyStats with dropped := s.proxyStats.dropped+1, droppedNotDesired := s.proxyStats.droppedNotDesired+1}},
      .ok ⟨false,false⟩)
  | .staleRequest desired =>
    ({s with proxyStats := {s.proxyStats with dropped := s.proxyStats.dropped+1, droppedStaleRequest := s.proxyStats.droppedStaleRequest+1}},
      .ok ⟨false,desired⟩)
  | .accept =>
    if 2*msg.data.length < msg.dims.z*msg.dims.y*msg.dims.x*2 then (s,.ok ⟨false,false⟩)
    else
      let requestedCapacity := match desiredProxyCountForPool number s.currentColdState msg.datasetId msg.kind msg.c with
        | none => 64
        | some desiredCount => max 1 desiredCount
      match getOrCreateProxyPool number maxTextureDimension3D s msg.datasetId msg.kind msg.dims msg.c requestedCapacity with
      | (s,.error text) => (s,.error text)
      | (s,.ok pool) =>
        match allocateProxySlotWithEviction pool (proxySlotKey msg.entityId msg.t msg.c) with
        | .error text => (s,.error text)
        | .ok (pool,allocation) => (storeProxy number s msg pool allocation,.ok ⟨true,true⟩)

def releaseUndesired (desired : List String) (datasetId poolKey : String) (walk : RendererState × Nat) (slot : String × Nat) : RendererState × Nat :=
  match parseProxySlotKey number slot.1,walk.1.proxyPoolsByDataset.find? datasetId poolKey with
  | some (entityId,t,c),some pool =>
    if proxyResidencyKey datasetId entityId pool.kind t c ∈ desired then walk
    else match releaseProxySlot pool slot.1 with
      | (_,none) => walk
      | (next,some released) =>
        ({walk.1 with
          proxyPoolsByDataset := walk.1.proxyPoolsByDataset.put datasetId poolKey next
          proxyDescriptorsByEntity := clearProxyDescriptorHandle walk.1.groupToTiles walk.1.proxyDescriptorsByEntity entityId t c pool.kind
            ⟨poolKey,released⟩},walk.2+1)
  | _,_ => walk

def reconcileProxyResidency (s : RendererState) (datasetId : String) (desired : List String) : RendererState × Nat :=
  match s.proxyPoolsByDataset.get? datasetId with
  | none => (s,0)
  | some dsPools => dsPools.entries.foldl (fun walk entry =>
      entry.2.slots.entries.foldl (releaseUndesired number desired datasetId entry.1) walk) (s,0)

def addOnce (items : List String) (item : String) : List String := if item ∈ items then items else items ++ [item]

def addToGroup (groups : IndexMap String (List String) × List String) (entry : ActiveEntry) : IndexMap String (List String) × List String :=
  match entry.parentGroupId with
  | none => groups
  | some groupId =>
    if groupId = "" then groups
    else (groups.1.upsert groupId fun tiles => addOnce (tiles.getD []) entry.entityId,addOnce groups.2 groupId)

def rebuildGroups (s : RendererState) (msg : ColdState) : IndexMap String (List String) × List String :=
  msg.activeSet.foldl addToGroup (((s.groupsByDataset.get? msg.datasetId).getD []).foldl IndexMap.erase s.groupToTiles,[])

-- Of a cold state's application, what concerns the proxies.
def applyColdState (s : RendererState) (msg : ColdState) : RendererState :=
  let (groupToTiles,groups) := rebuildGroups s msg
  let s := {s with
    groupToTiles := groupToTiles
    groupsByDataset := if groups = [] then s.groupsByDataset.erase msg.datasetId else s.groupsByDataset.insert msg.datasetId groups}
  match msg.desiredProxyKeys with
  | none => s
  | some keys =>
    let (s,evicted) := reconcileProxyResidency number s msg.datasetId keys
    {s with proxyStats := {s.proxyStats with evicted := s.proxyStats.evicted+evicted, evictedPolicy := s.proxyStats.evictedPolicy+evicted}}

inductive ProxyEvent where
  | upload (msg : ProxyAssetData)
  | coldState (msg : ColdState)
  deriving DecidableEq, Repr

def handleProxyEvent (s : RendererState) : ProxyEvent → RendererState
  | .upload msg => (handleProxyUpload number maxTextureDimension3D s msg).1
  | .coldState msg => applyColdState number {s with currentColdState := some msg, currentEpochs := some msg.epochs} msg

end Upload

end Lucida.Renderer
