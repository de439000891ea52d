import Lucida.Web.BinaryFrames
import Lucida.Web.CpuCache

namespace Lucida.Web
open Lib

structure FetchRequest where
  datasetId : String
  imageId : String
  chunkKey : String
  deriving DecidableEq, Repr

structure FetchProxyRequest where
  datasetId : String
  entityId : String
  kind : ProxyKind
  t : UInt32
  c : UInt32
  deriving DecidableEq, Repr

def FetchRequest.key (request : FetchRequest) : String := compositeKey request.datasetId request.imageId request.chunkKey

def FetchProxyRequest.key (request : FetchProxyRequest) : String := proxyResponseKey request.entityId request.kind request.t request.c

inductive GeneratedChunkStatus where
  | pending
  | unavailable
  | failedTransient
  | failedPermanent
  | ready
  deriving DecidableEq, Repr

inductive SourceChunkStatus where
  | failedPermanent
  | unavailable
  deriving DecidableEq, Repr

structure FetchError where
  message : String
  kind : FetchErrorKind
  serverReported : Bool
  deriving DecidableEq, Repr

-- An empty message is no message.
def detail (message : Option String) : String := ((message.filter (· ≠ "")).map (": " ++ ·)).getD ""

def generatedStatusToFetchError (status : GeneratedChunkStatus) (chunkKey : String) (message : Option String) : FetchError :=
  match status with
  | .pending => ⟨"Generated chunk " ++ chunkKey ++ " pending" ++ detail message,.pending,false⟩
  | .failedTransient => ⟨"Generated chunk " ++ chunkKey ++ " transient failure" ++ detail message,.transient,false⟩
  | .unavailable => ⟨"Generated chunk " ++ chunkKey ++ " unavailable" ++ detail message,.permanent,false⟩
  | .failedPermanent => ⟨"Generated chunk " ++ chunkKey ++ " unavailable" ++ detail message,.permanent,false⟩
  | .ready => ⟨"Generated chunk " ++ chunkKey ++ " reported ready without bytes" ++ detail message,.transient,false⟩

def sourceStatusToFetchError (status : SourceChunkStatus) (chunkKey : String) (message : Option String) : FetchError :=
  match status with
  | .failedPermanent => ⟨"Source chunk " ++ chunkKey ++ " failed permanently" ++ detail message,.permanent,true⟩
  | .unavailable => ⟨"Source chunk " ++ chunkKey ++ " unavailable" ++ detail message,.transient,true⟩

-- What a promise settles with. `Format` is the wire format of an image.
inductive Settlement (Format : Type) where
  | bytes (data : List UInt8) (wireFormat : Format)
  | proxy (header : ProxyHeaderJs) (data : List UInt8)
  | rejected (error : FetchError)
  | aborted
  deriving DecidableEq, Repr

-- What a caller waits for. A chunk of an image without a wire format is rejected at once.
inductive Target (Format : Type) where
  | chunk (request : FetchRequest) (wireFormat : Format)
  | unregistered (request : FetchRequest)
  | proxy (request : FetchProxyRequest)
  deriving DecidableEq, Repr

-- A key of one of the two tables.
inductive Slot where
  | chunk (key : String)
  | proxy (key : String)
  deriving DecidableEq, Repr

def slotOf (key : String) : Slot := if isProxyKey key then .proxy key else .chunk key

-- A returned promise, with the timer and the abort listener of its caller.
structure Call (Format : Type) where
  target : Target Format
  settled : Option (Settlement Format)
  armed : Bool
  listens : Bool
  deriving DecidableEq, Repr

structure WireLabel where
  rid : Nat
  connectionGeneration : Nat
  deriving DecidableEq, Repr

structure PendingGroup where
  label : WireLabel
  entries : List Nat
  deriving DecidableEq, Repr

inductive WireRequest where
  | chunk (rid : Nat) (request : FetchRequest)
  | asset (rid : Nat) (request : FetchProxyRequest)
  deriving DecidableEq, Repr

-- Callers are told by the place of their call. `outstanding` lists the keys asked for on the wire
-- and not answered.
structure ProxiedContentSource (Format : Type) where
  pending : IndexMap String PendingGroup
  nextRid : Nat
  connectionGeneration : Nat
  pendingProxy : IndexMap String Nat
  imageWireFormats : IndexMap String Format
  calls : List (Call Format)
  sent : List WireRequest
  outstanding : List Slot

namespace Target
variable {Format : Type}

def slot : Target Format → Slot
  | .chunk request _ => .chunk request.key
  | .unregistered request => .chunk request.key
  | .proxy request => .proxy request.key

-- What the bytes of an answer settle a caller with. A malformed header is a permanent error.
def resolve (data : List UInt8) : Target Format → Settlement Format
  | .chunk _ wireFormat => .bytes data wireFormat
  | .unregistered request => .rejected ⟨"No wire format registered for image " ++ request.imageId,.permanent,false⟩
  | .proxy _ => match resolveProxy data with
    | .ok (header,data) => .proxy header data
    | .error message => .rejected ⟨message,.permanent,false⟩

def timedOut : Target Format → Settlement Format
  | .chunk request _ => .rejected ⟨"Chunk " ++ request.chunkKey ++ " timed out",.transient,false⟩
  | .unregistered request => .rejected ⟨"Chunk " ++ request.chunkKey ++ " timed out",.transient,false⟩
  | .proxy request => .rejected ⟨"Proxy " ++ request.key ++ " timed out",.transient,false⟩

end Target

namespace ProxiedContentSource
variable {Format : Type}

def initial : ProxiedContentSource Format := ⟨.empty,0,0,.empty,.empty,[],[],[]⟩

-- A promise settles once. Its timer is cleared.
def settleCalls (callers : List Nat) (outcome : Target Format → Settlement Format) (s : ProxiedContentSource Format) : ProxiedContentSource Format :=
  { s with
    calls := s.calls.mapIdx fun caller call =>
      if caller ∈ callers then { call with armed := false, settled := call.settled.or (some (outcome call.target)) } else call }

def answered (slot : Slot) (s : ProxiedContentSource Format) : ProxiedContentSource Format := { s with outstanding := s.outstanding.filter (· ≠ slot) }

def mintLabel (s : ProxiedContentSource Format) : WireLabel × ProxiedContentSource Format :=
  (⟨s.nextRid,s.connectionGeneration⟩,{ s with nextRid := (s.nextRid+1)%2^32 })

def addPending (request : FetchRequest) (caller : Nat) (s : ProxiedContentSource Format) : ProxiedContentSource Format :=
  match s.pending.get? request.key with
  | some group => { s with pending := s.pending.insert request.key { group with entries := group.entries ++ [caller] } }
  | none =>
    let (label,s) := s.mintLabel
    { s with
      pending := s.pending.insert request.key ⟨label,[caller]⟩
      sent := s.sent ++ [.chunk label.rid request]
      outstanding := s.outstanding ++ [.chunk request.key] }

def removePending (key : String) (caller : Nat) (s : ProxiedContentSource Format) : ProxiedContentSource Format :=
  match s.pending.get? key with
  | none => s
  | some group =>
    let next := group.entries.filter (· ≠ caller)
    if next = [] then { s with pending := s.pending.erase key } else { s with pending := s.pending.insert key { group with entries := next } }

def takePending (key : String) (s : ProxiedContentSource Format) : List Nat × ProxiedContentSource Format :=
  (((s.pending.get? key).map PendingGroup.entries).getD [],{ s with pending := s.pending.erase key })

def fetch (request : FetchRequest) (s : ProxiedContentSource Format) : ProxiedContentSource Format :=
  match s.imageWireFormats.get? request.imageId with
  | none =>
    { s with
      calls := s.calls ++ [⟨.unregistered request,
        some (.rejected ⟨"No wire format registered for image " ++ request.imageId,.permanent,false⟩),false,false⟩] }
  | some wireFormat => addPending request s.calls.length { s with calls := s.calls ++ [⟨.chunk request wireFormat,none,true,true⟩] }

-- The entry of the key is set, whoever has it.
def fetchProxy (request : FetchProxyRequest) (s : ProxiedContentSource Format) : ProxiedContentSource Format :=
  let caller := s.calls.length
  let (label,s) := mintLabel { s with
    calls := s.calls ++ [⟨.proxy request,none,true,true⟩]
    pendingProxy := s.pendingProxy.insert request.key caller }
  { s with
    sent := s.sent ++ [.asset label.rid request]
    outstanding := s.outstanding ++ [.proxy request.key] }

-- What the timer and the abort listener of a caller take out: of the proxy table whatever stands
-- under the key.
def removeEntry (target : Target Format) (caller : Nat) (s : ProxiedContentSource Format) : ProxiedContentSource Format :=
  match target with
  | .chunk request _ => s.removePending request.key caller
  | .unregistered request => s.removePending request.key caller
  | .proxy request => { s with pendingProxy := s.pendingProxy.erase request.key }

def abort (caller : Nat) (target : Target Format) (s : ProxiedContentSource Format) : ProxiedContentSource Format :=
  let s := (s.removeEntry target caller).settleCalls [caller] fun _ => .aborted
  { s with calls := s.calls.modify caller fun call => { call with listens := false } }

def timeout (caller : Nat) (target : Target Format) (s : ProxiedContentSource Format) : ProxiedContentSource Format :=
  (s.removeEntry target caller).settleCalls [caller] Target.timedOut

def handleChunkData (key : String) (data : List UInt8) (s : ProxiedContentSource Format) : ProxiedContentSource Format :=
  let (entries,s) := s.takePending key
  (s.settleCalls entries (Target.resolve data)).answered (.chunk key)

def handleProxyData (key : String) (data : List UInt8) (s : ProxiedContentSource Format) : ProxiedContentSource Format :=
  let entries := (s.pendingProxy.get? key).toList
  ({ s with pendingProxy := s.pendingProxy.erase key }.settleCalls entries (Target.resolve data)).answered (.proxy key)

def handleBinary (key : String) (data : List UInt8) (s : ProxiedContentSource Format) : ProxiedContentSource Format :=
  if isProxyKey key then s.handleProxyData key data else s.handleChunkData key data

def rejectChunk (key : String) (error : FetchError) (s : ProxiedContentSource Format) : ProxiedContentSource Format :=
  let (entries,s) := s.takePending key
  (s.settleCalls entries fun _ => .rejected error).answered (.chunk key)

def handleChunkStatus (datasetId imageId chunkKey : String) (status : GeneratedChunkStatus) (message : Option String)
    (s : ProxiedContentSource Format) : ProxiedContentSource Format :=
  s.rejectChunk (compositeKey datasetId imageId chunkKey) (generatedStatusToFetchError status chunkKey message)

def handleSourceChunkStatus (datasetId imageId chunkKey : String) (status : SourceChunkStatus) (message : Option String)
    (s : ProxiedContentSource Format) : ProxiedContentSource Format :=
  s.rejectChunk (compositeKey datasetId imageId chunkKey) (sourceStatusToFetchError status chunkKey message)

-- The proxy table is left alone: its keys name no dataset.
def rejectDataset (datasetId : String) (s : ProxiedContentSource Format) : ProxiedContentSource Format :=
  let ofDataset := CpuCache.startsWith (datasetId ++ "/")
  let gone := (s.pending.entries.filter fun e => ofDataset e.1).flatMap fun e => e.2.entries
  { s with pending := s.pending.retain fun key _ => !ofDataset key }.settleCalls gone fun _ => .rejected ⟨"Dataset removed",.abort,false⟩

def rejectAll (s : ProxiedContentSource Format) : ProxiedContentSource Format :=
  let gone := (s.pending.entries.flatMap fun e => e.2.entries) ++ s.pendingProxy.values
  { s with pending := .empty, pendingProxy := .empty, outstanding := [] }.settleCalls gone fun _ => .rejected ⟨"Bridge disconnected",.transient,false⟩

inductive Event (Format : Type) where
  | registerImage (imageId : String) (wireFormat : Format)
  | unregisterDataset (imageIds : List String)
  | resetConnection (generation : Nat)
  | fetch (request : FetchRequest)
  | fetchProxy (request : FetchProxyRequest)
  | abort (caller : Nat)
  | timeout (caller : Nat)
  | handleBinary (key : String) (data : List UInt8)
  | handleChunkStatus (datasetId imageId chunkKey : String) (status : GeneratedChunkStatus) (message : Option String)
  | handleSourceChunkStatus (datasetId imageId chunkKey : String) (status : SourceChunkStatus) (message : Option String)
  | rejectDataset (datasetId : String)
  | rejectAll
  deriving DecidableEq, Repr

-- A signal aborts once, and a timer fires unless it is cleared.
def next (s : ProxiedContentSource Format) : Event Format → Option (ProxiedContentSource Format)
  | .registerImage imageId wireFormat => some { s with imageWireFormats := s.imageWireFormats.insert imageId wireFormat }
  | .unregisterDataset imageIds => some { s with imageWireFormats := imageIds.foldl IndexMap.erase s.imageWireFormats }
  | .resetConnection generation => some { s with connectionGeneration := generation, nextRid := 0 }
  | .fetch request => some (s.fetch request)
  | .fetchProxy request => some (s.fetchProxy request)
  | .abort caller => s.calls[caller]?.bind fun call => if call.listens then some (s.abort caller call.target) else none
  | .timeout caller => s.calls[caller]?.bind fun call => if call.armed then some (s.timeout caller call.target) else none
  | .handleBinary key data => some (s.handleBinary key data)
  | .handleChunkStatus datasetId imageId chunkKey status message => some (s.handleChunkStatus datasetId imageId chunkKey status message)
  | .handleSourceChunkStatus datasetId imageId chunkKey status message => some (s.handleSourceChunkStatus datasetId imageId chunkKey status message)
  | .rejectDataset datasetId => some (s.rejectDataset datasetId)
  | .rejectAll => some s.rejectAll

def Step (s : ProxiedContentSource Format) (event : Event Format) (t : ProxiedContentSource Format) : Prop := s.next event = some t

def waiting (s : ProxiedContentSource Format) : Slot → List Nat
  | .chunk key => ((s.pending.get? key).map PendingGroup.entries).getD []
  | .proxy key => (s.pendingProxy.get? key).toList

def Open (s : ProxiedContentSource Format) : Slot → Prop
  | .chunk key => (s.pending.get? key).isSome
  | .proxy key => (s.pendingProxy.get? key).isSome

def Unsettled (s : ProxiedContentSource Format) (caller : Nat) (slot : Slot) : Prop :=
  ∃ call, s.calls[caller]? = some call ∧ call.target.slot = slot ∧ call.settled = none

-- Who stands in the tables is not settled and stands under its own key; every key in the tables has
-- been asked for on the wire and is not answered.
structure Sound (s : ProxiedContentSource Format) : Prop where
  placed : ∀ slot caller, caller ∈ s.waiting slot → s.Unsettled caller slot
  asked : ∀ slot, s.Open slot → slot ∈ s.outstanding
  live : ∀ (caller : Nat) (call : Call Format), s.calls[caller]? = some call → call.settled = none → call.armed = true ∧ call.listens = true
  armed : ∀ (caller : Nat) (call : Call Format), s.calls[caller]? = some call → call.armed = true → call.settled = none

def Kept (slot : Slot) (s : ProxiedContentSource Format) : Prop := ∀ caller, s.Unsettled caller slot → caller ∈ s.waiting slot

variable {s t : ProxiedContentSource Format}

theorem sound_initial : Sound (initial : ProxiedContentSource Format) := by
  refine ⟨?_,?_,?_,?_⟩
  · intro slot caller
    cases slot <;> simp [waiting,initial]
  · intro slot
    cases slot <;> simp [Open,initial]
  · simp [initial]
  · simp [initial]

theorem kept_initial (slot : Slot) : Kept slot (initial : ProxiedContentSource Format) := by
  rintro caller ⟨call,found,_⟩
  simp [initial] at found

theorem open_of_waiting {slot : Slot} {caller : Nat} (member : caller ∈ s.waiting slot) : s.Open slot := by
  cases slot with
  | chunk key =>
    cases found : s.pending.get? key with
    | none => simp [waiting,found] at member
    | some group => simp [Open,found]
  | proxy key =>
    cases found : s.pendingProxy.get? key with
    | none => simp [waiting,found] at member
    | some other => simp [Open,found]

theorem Sound.unique (sound : Sound s) {first second : Slot} {caller : Nat} (here : caller ∈ s.waiting first) (there : caller ∈ s.waiting second) :
    first = second := by
  obtain ⟨call,found,slot,_⟩ := sound.placed first caller here
  obtain ⟨other,again,same,_⟩ := sound.placed second caller there
  cases found.symm.trans again
  exact slot.symm.trans same

theorem mem_waiting_chunk {key : String} {caller : Nat} :
    caller ∈ s.waiting (.chunk key) ↔ ∃ group, (key,group) ∈ s.pending.entries ∧ caller ∈ group.entries := by
  unfold waiting
  simp only [IndexMap.mem_entries_iff]
  cases found : s.pending.get? key with
  | none => simp
  | some group => simp

theorem mem_waiting_proxy {key : String} {caller : Nat} : caller ∈ s.waiting (.proxy key) ↔ s.pendingProxy.get? key = some caller := by
  unfold waiting
  exact Option.mem_toList

section Releases

structure Moved (gone : Prop) (outcome : Target Format → Settlement Format) (call after : Call Format) : Prop where
  target : after.target = call.target
  settles : gone → after.settled = call.settled.or (some (outcome call.target)) ∧ after.armed = false
  stays : ¬ gone → after = call

structure Releases (s t : ProxiedContentSource Format) (gone : List Nat) (outcome : Target Format → Settlement Format) (apart : Slot → Prop) : Prop where
  calls : ∀ (caller : Nat) (call : Call Format), s.calls[caller]? = some call → ∃ after, t.calls[caller]? = some after ∧ Moved (caller ∈ gone) outcome call after
  length : t.calls.length = s.calls.length
  waiting : ∀ slot caller, caller ∈ t.waiting slot → caller ∈ s.waiting slot ∧ caller ∉ gone
  keeps : ∀ slot, apart slot → ∀ caller, caller ∈ s.waiting slot → caller ∉ gone → caller ∈ t.waiting slot
  asked : ∀ slot, t.Open slot → s.Open slot ∧ (slot ∈ s.outstanding → slot ∈ t.outstanding)

variable {gone : List Nat} {outcome : Target Format → Settlement Format} {apart : Slot → Prop}

theorem Releases.before (releases : Releases s t gone outcome apart) {caller : Nat} {after : Call Format} (found : t.calls[caller]? = some after) :
    ∃ call, s.calls[caller]? = some call ∧ Moved (caller ∈ gone) outcome call after := by
  have below : caller < s.calls.length := releases.length ▸ (List.getElem?_eq_some_iff.mp found).1
  obtain ⟨other,again,moved⟩ := releases.calls caller s.calls[caller] (List.getElem?_eq_getElem below)
  cases found.symm.trans again
  exact ⟨_,List.getElem?_eq_getElem below,moved⟩

theorem Releases.still (releases : Releases s t gone outcome apart) {caller : Nat} {after : Call Format} (found : t.calls[caller]? = some after)
    (unsettled : after.settled = none) : caller ∉ gone ∧ s.calls[caller]? = some after := by
  obtain ⟨call,before,moved⟩ := releases.before found
  have stayed : caller ∉ gone := by
    intro member
    rw [(moved.settles member).1] at unsettled
    cases settled : call.settled <;> simp [settled] at unsettled
  rw [moved.stays stayed]
  exact ⟨stayed,before⟩

theorem Sound.releases (sound : Sound s) (releases : Releases s t gone outcome apart) : Sound t := by
  refine ⟨?_,?_,?_,?_⟩
  · intro slot caller there
    obtain ⟨before,stayed⟩ := releases.waiting slot caller there
    obtain ⟨call,found,same,unsettled⟩ := sound.placed slot caller before
    obtain ⟨after,again,moved⟩ := releases.calls caller call found
    rw [moved.stays stayed] at again
    exact ⟨call,again,same,unsettled⟩
  · intro slot there
    obtain ⟨before,kept⟩ := releases.asked slot there
    exact kept (sound.asked slot before)
  · intro caller after found unsettled
    exact sound.live caller after (releases.still found unsettled).2 unsettled
  · intro caller after found armed
    obtain ⟨call,before,moved⟩ := releases.before found
    by_cases member : caller ∈ gone
    · rw [(moved.settles member).2] at armed
      cases armed
    · rw [moved.stays member] at armed ⊢
      exact sound.armed caller call before armed

theorem Kept.releases {slot : Slot} (kept : Kept slot s) (releases : Releases s t gone outcome apart) (here : apart slot) : Kept slot t := by
  rintro caller ⟨after,found,same,unsettled⟩
  obtain ⟨stayed,before⟩ := releases.still found unsettled
  exact releases.keeps slot here caller (kept caller ⟨after,before,same,unsettled⟩) stayed

theorem getElem?_settleCalls (callers : List Nat) (outcome : Target Format → Settlement Format) (s : ProxiedContentSource Format) (caller : Nat) :
    (s.settleCalls callers outcome).calls[caller]? = s.calls[caller]?.map fun call =>
      if caller ∈ callers then { call with armed := false, settled := call.settled.or (some (outcome call.target)) } else call :=
  List.getElem?_mapIdx

theorem settled_moved (gone : Prop) [Decidable gone] (outcome : Target Format → Settlement Format) (call : Call Format) :
    Moved gone outcome call (if gone then { call with armed := false, settled := call.settled.or (some (outcome call.target)) } else call) := by
  split
  · rename_i leaves
    exact ⟨rfl,fun _ => ⟨rfl,rfl⟩,fun stays => absurd leaves stays⟩
  · rename_i stays
    exact ⟨rfl,fun leaves => absurd leaves stays,fun _ => rfl⟩

structure Closes (s t : ProxiedContentSource Format) (closes : Slot → Prop) (gone : List Nat) (outcome : Target Format → Settlement Format) : Prop where
  calls : t.calls = (s.settleCalls gone outcome).calls
  leaves : ∀ caller, caller ∈ gone ↔ ∃ slot, closes slot ∧ caller ∈ s.waiting slot
  closed : ∀ slot, closes slot → t.waiting slot = [] ∧ ¬ t.Open slot
  others : ∀ slot, ¬ closes slot → t.waiting slot = s.waiting slot ∧ (t.Open slot → s.Open slot)
  asked : ∀ slot, ¬ closes slot → slot ∈ s.outstanding → slot ∈ t.outstanding

theorem Closes.releases {closes : Slot → Prop} (sound : Sound s) (closing : Closes s t closes gone outcome) :
    Releases s t gone outcome fun _ => True := by
  refine ⟨?_,?_,?_,?_,?_⟩
  · intro caller call found
    refine ⟨_,?_,settled_moved (caller ∈ gone) outcome call⟩
    rw [closing.calls,getElem?_settleCalls,found,Option.map_some]
  · rw [closing.calls]
    exact List.length_mapIdx
  · intro slot caller there
    have kept : ¬ closes slot := by
      intro closes
      rw [(closing.closed slot closes).1] at there
      exact List.not_mem_nil there
    rw [(closing.others slot kept).1] at there
    refine ⟨there,fun member => ?_⟩
    obtain ⟨other,closes,again⟩ := (closing.leaves caller).mp member
    exact kept (sound.unique again there ▸ closes)
  · intro slot _ caller there stayed
    have kept : ¬ closes slot := fun closes => stayed ((closing.leaves caller).mpr ⟨slot,closes,there⟩)
    rw [(closing.others slot kept).1]
    exact there
  · intro slot there
    have kept : ¬ closes slot := fun closes => (closing.closed slot closes).2 there
    exact ⟨(closing.others slot kept).2 there,closing.asked slot kept⟩

theorem Closes.leaves_iff {closes : Slot → Prop} {slot : Slot} {caller : Nat} (sound : Sound s) (closing : Closes s t closes gone outcome)
    (there : caller ∈ s.waiting slot) : caller ∈ gone ↔ closes slot := by
  rw [closing.leaves]
  constructor
  · rintro ⟨other,closes,again⟩
    exact sound.unique again there ▸ closes
  · exact fun closes => ⟨slot,closes,there⟩

theorem take_closes (key : String) (outcome : Target Format → Settlement Format) (s : ProxiedContentSource Format) :
    Closes s (((s.takePending key).2.settleCalls (s.takePending key).1 outcome).answered (.chunk key)) (fun slot => slot = .chunk key)
      (s.waiting (.chunk key)) outcome := by
  refine ⟨rfl,?_,?_,?_,?_⟩
  · simp
  · rintro slot rfl
    simp [answered,settleCalls,takePending,waiting,Open]
  · intro slot other
    cases slot with
    | chunk another =>
      have differs : another ≠ key := fun same => other (by rw [same])
      simp [answered,settleCalls,takePending,waiting,Open,differs]
    | proxy another => exact ⟨rfl,fun there => there⟩
  · exact fun slot other member => List.mem_filter.mpr ⟨member,by simpa using other⟩

theorem proxyData_closes (key : String) (data : List UInt8) (s : ProxiedContentSource Format) :
    Closes s (s.handleProxyData key data) (fun slot => slot = .proxy key) (s.waiting (.proxy key)) (Target.resolve data) := by
  refine ⟨rfl,?_,?_,?_,?_⟩
  · simp
  · rintro slot rfl
    simp [handleProxyData,answered,settleCalls,waiting,Open]
  · intro slot other
    cases slot with
    | chunk another => exact ⟨rfl,fun there => there⟩
    | proxy another =>
      have differs : another ≠ key := fun same => other (by rw [same])
      simp [handleProxyData,answered,settleCalls,waiting,Open,differs]
  · exact fun slot other member => List.mem_filter.mpr ⟨member,by simpa using other⟩

theorem handleBinary_closes (key : String) (data : List UInt8) (s : ProxiedContentSource Format) :
    Closes s (s.handleBinary key data) (fun slot => slot = slotOf key) (s.waiting (slotOf key)) (Target.resolve data) := by
  unfold handleBinary slotOf
  split
  · exact proxyData_closes key data s
  · exact take_closes key (Target.resolve data) s

def ofDataset (datasetId : String) : Slot → Bool
  | .chunk key => CpuCache.startsWith (datasetId ++ "/") key
  | .proxy _ => false

def datasetCallers (datasetId : String) (s : ProxiedContentSource Format) : List Nat :=
  (s.pending.entries.filter fun e => CpuCache.startsWith (datasetId ++ "/") e.1).flatMap fun e => e.2.entries

theorem rejectDataset_closes (datasetId : String) (s : ProxiedContentSource Format) :
    Closes s (s.rejectDataset datasetId) (fun slot => ofDataset datasetId slot = true) (s.datasetCallers datasetId)
      fun _ => .rejected ⟨"Dataset removed",.abort,false⟩ := by
  refine ⟨rfl,?_,?_,?_,?_⟩
  · intro caller
    simp only [datasetCallers,List.mem_flatMap,List.mem_filter]
    constructor
    · rintro ⟨⟨key,group⟩,⟨listed,ofIt⟩,member⟩
      exact ⟨.chunk key,ofIt,mem_waiting_chunk.mpr ⟨group,listed,member⟩⟩
    · rintro ⟨slot,ofIt,member⟩
      cases slot with
      | chunk key =>
        obtain ⟨group,listed,inside⟩ := mem_waiting_chunk.mp member
        exact ⟨(key,group),⟨listed,ofIt⟩,inside⟩
      | proxy key => cases ofIt
  · intro slot ofIt
    cases slot with
    | chunk key =>
      have gone : (s.pending.retain fun key _ => !CpuCache.startsWith (datasetId ++ "/") key).get? key = none := by
        rw [IndexMap.get?_retain,Option.filter_eq_none_iff]
        intro group _
        have starts : CpuCache.startsWith (datasetId ++ "/") key = true := ofIt
        simp [starts]
      simp [rejectDataset,settleCalls,waiting,Open,gone]
    | proxy key => cases ofIt
  · intro slot other
    cases slot with
    | chunk key =>
      have kept : (s.pending.retain fun key _ => !CpuCache.startsWith (datasetId ++ "/") key).get? key = s.pending.get? key := by
        have apart : CpuCache.startsWith (datasetId ++ "/") key = false := by simpa [ofDataset] using other
        rw [IndexMap.get?_retain]
        cases s.pending.get? key <;> simp [Option.filter,apart]
      simp [rejectDataset,settleCalls,waiting,Open,kept]
    | proxy key => exact ⟨rfl,fun there => there⟩
  · exact fun slot _ member => member

def allCallers (s : ProxiedContentSource Format) : List Nat := (s.pending.entries.flatMap fun e => e.2.entries) ++ s.pendingProxy.values

theorem rejectAll_closes (s : ProxiedContentSource Format) :
    Closes s s.rejectAll (fun _ => True) s.allCallers fun _ => .rejected ⟨"Bridge disconnected",.transient,false⟩ := by
  refine ⟨rfl,?_,?_,?_,?_⟩
  · intro caller
    simp only [allCallers,List.mem_append,List.mem_flatMap,true_and]
    constructor
    · rintro (⟨⟨key,group⟩,listed,member⟩ | member)
      · exact ⟨.chunk key,mem_waiting_chunk.mpr ⟨group,listed,member⟩⟩
      · obtain ⟨⟨key,_⟩,listed,rfl⟩ := List.mem_map.mp member
        exact ⟨.proxy key,mem_waiting_proxy.mpr (IndexMap.mem_entries_iff.mp listed)⟩
    · rintro ⟨slot,member⟩
      cases slot with
      | chunk key =>
        obtain ⟨group,listed,inside⟩ := mem_waiting_chunk.mp member
        exact .inl ⟨(key,group),listed,inside⟩
      | proxy key => exact .inr (List.mem_map.mpr ⟨(key,caller),IndexMap.mem_entries_iff.mpr (mem_waiting_proxy.mp member),rfl⟩)
  · intro slot _
    cases slot <;> simp [rejectAll,settleCalls,waiting,Open]
  · exact fun slot other => absurd trivial other
  · exact fun slot other => absurd trivial other

theorem mem_waiting_removePending (key : String) (caller : Nat) (s : ProxiedContentSource Format) (slot : Slot) (other : Nat) :
    other ∈ (s.removePending key caller).waiting slot ↔ other ∈ s.waiting slot ∧ (slot = .chunk key → other ≠ caller) := by
  unfold removePending
  cases slot with
  | proxy another =>
    split
    · simp
    · dsimp only
      split <;> simp [waiting]
  | chunk another =>
    by_cases same : another = key
    · subst same
      split
      · rename_i absent
        simp [waiting,absent]
      · rename_i group found
        dsimp only
        split
        · rename_i none
          have filtered : other ∈ group.entries.filter (· ≠ caller) ↔ False := by
            rw [none]
            exact ⟨List.not_mem_nil,False.elim⟩
          rw [List.mem_filter] at filtered
          simp only [waiting,IndexMap.get?_erase,found]
          simpa using filtered
        · simp [waiting,found,List.mem_filter]
    · have apart : Slot.chunk another ≠ .chunk key := fun equal => same (by cases equal; rfl)
      split
      · simp [apart]
      · dsimp only
        split <;> simp [waiting,same]

theorem open_removePending {key : String} {caller : Nat} {slot : Slot} (there : (s.removePending key caller).Open slot) : s.Open slot := by
  unfold removePending at there
  split at there
  · exact there
  · rename_i group found
    dsimp only at there
    cases slot with
    | proxy another => split at there <;> exact there
    | chunk another =>
      by_cases same : another = key
      · simp [Open,same,found]
      · split at there <;> simpa [Open,same] using there

theorem removePending_rest (key : String) (caller : Nat) (s : ProxiedContentSource Format) :
    (s.removePending key caller).calls = s.calls ∧ (s.removePending key caller).outstanding = s.outstanding := by
  unfold removePending
  split
  · exact ⟨rfl,rfl⟩
  · dsimp only
    split <;> exact ⟨rfl,rfl⟩

def Owned (caller : Nat) (s : ProxiedContentSource Format) : Slot → Prop
  | .chunk _ => True
  | .proxy key => ∀ other ∈ s.waiting (.proxy key), other = caller

-- What a caller takes out when it leaves: of the chunk table itself, of the proxy table whoever stands
-- under its key.
structure TakesOut (s t : ProxiedContentSource Format) (caller : Nat) (own : Slot) : Prop where
  calls : t.calls = s.calls
  outstanding : t.outstanding = s.outstanding
  waiting : ∀ slot other, other ∈ t.waiting slot → other ∈ s.waiting slot ∧ (slot = own → other ≠ caller)
  keeps : ∀ slot other, (slot = own → s.Owned caller slot) → other ∈ s.waiting slot → other ≠ caller → other ∈ t.waiting slot
  opened : ∀ slot, t.Open slot → s.Open slot

theorem removePending_takesOut (key : String) (caller : Nat) (s : ProxiedContentSource Format) :
    TakesOut s (s.removePending key caller) caller (.chunk key) := by
  refine ⟨(removePending_rest key caller s).1,(removePending_rest key caller s).2,?_,?_,fun slot => open_removePending⟩
  · exact fun slot other => (mem_waiting_removePending key caller s slot other).mp
  · exact fun slot other _ there differs => (mem_waiting_removePending key caller s slot other).mpr ⟨there,fun _ => differs⟩

theorem removeEntry_takesOut (target : Target Format) (caller : Nat) (s : ProxiedContentSource Format) :
    TakesOut s (s.removeEntry target caller) caller target.slot := by
  cases target with
  | chunk request wireFormat => exact removePending_takesOut request.key caller s
  | unregistered request => exact removePending_takesOut request.key caller s
  | proxy request =>
    refine ⟨rfl,rfl,?_,?_,?_⟩
    · intro slot other there
      cases slot with
      | chunk key => exact ⟨there,fun same => nomatch same⟩
      | proxy key =>
        by_cases same : key = request.key
        · simp [removeEntry,waiting,same] at there
        · have kept : other ∈ s.waiting (.proxy key) := by simpa [removeEntry,waiting,same] using there
          refine ⟨kept,fun equal => absurd ?_ same⟩
          cases equal
          rfl
    · intro slot other owned there differs
      cases slot with
      | chunk key => exact there
      | proxy key =>
        have apart : key ≠ request.key := by
          rintro rfl
          exact differs (owned rfl other there)
        simpa [removeEntry,waiting,apart] using there
    · intro slot there
      cases slot with
      | chunk key => exact there
      | proxy key =>
        by_cases same : key = request.key
        · simp [removeEntry,Open,same] at there
        · simpa [removeEntry,Open,same] using there

theorem leaving_releases {caller : Nat} {call after : Call Format} {middle : ProxiedContentSource Format} (sound : Sound s)
    (found : s.calls[caller]? = some call) (takes : TakesOut s middle caller call.target.slot) (same : t = { middle with calls := t.calls })
    (own : t.calls[caller]? = some after) (moved : Moved True outcome call after)
    (others : ∀ other, other ≠ caller → t.calls[other]? = s.calls[other]?) (length : t.calls.length = s.calls.length) :
    Releases s t [caller] outcome fun slot => slot = call.target.slot → s.Owned caller slot := by
  have waiting : ∀ slot, t.waiting slot = middle.waiting slot := by
    intro slot
    rw [same]
    cases slot <;> rfl
  refine ⟨?_,length,?_,?_,?_⟩
  · intro other another there
    by_cases equal : other = caller
    · subst equal
      cases there.symm.trans found
      exact ⟨after,own,moved.target,fun _ => moved.settles trivial,fun stays => absurd (List.mem_singleton.mpr rfl) stays⟩
    · exact ⟨another,(others other equal).trans there,rfl,fun leaves => absurd (List.mem_singleton.mp leaves) equal,fun _ => rfl⟩
  · intro slot other there
    rw [waiting] at there
    obtain ⟨before,differs⟩ := takes.waiting slot other there
    refine ⟨before,fun member => ?_⟩
    obtain rfl := List.mem_singleton.mp member
    -- A caller stands under its own key only.
    obtain ⟨another,again,key,_⟩ := sound.placed slot other before
    cases again.symm.trans found
    exact differs key.symm rfl
  · intro slot owned other there stays
    rw [waiting]
    exact takes.keeps slot other owned there (fun same => stays (List.mem_singleton.mpr same))
  · intro slot there
    have opened : middle.Open slot := by
      rw [same] at there
      cases slot <;> exact there
    refine ⟨takes.opened slot opened,fun member => ?_⟩
    rw [same]
    exact takes.outstanding ▸ member

theorem timeout_releases {caller : Nat} {call : Call Format} (sound : Sound s) (found : s.calls[caller]? = some call) :
    Releases s (s.timeout caller call.target) [caller] Target.timedOut fun slot => slot = call.target.slot → s.Owned caller slot := by
  have takes := removeEntry_takesOut call.target caller s
  have calls : ∀ other, (s.timeout caller call.target).calls[other]? = _ := getElem?_settleCalls [caller] Target.timedOut (s.removeEntry call.target caller)
  have moved := settled_moved True Target.timedOut call
  rw [if_pos trivial] at moved
  refine leaving_releases sound found takes rfl ?_ moved ?_ ?_
  · rw [calls,takes.calls,found,Option.map_some,if_pos (List.mem_singleton.mpr rfl)]
  · intro other differs
    rw [calls,takes.calls]
    simp [differs]
  · exact List.length_mapIdx.trans (congrArg List.length takes.calls)

theorem abort_releases {caller : Nat} {call : Call Format} (sound : Sound s) (found : s.calls[caller]? = some call) :
    Releases s (s.abort caller call.target) [caller] (fun _ => .aborted) fun slot => slot = call.target.slot → s.Owned caller slot := by
  have takes := removeEntry_takesOut call.target caller s
  have calls : ∀ other, (s.abort caller call.target).calls[other]? = _ := fun other => List.getElem?_modify ..
  have moved : Moved True (fun _ => Settlement.aborted) call { call with armed := false, settled := call.settled.or (some .aborted), listens := false } :=
    ⟨rfl,fun _ => ⟨rfl,rfl⟩,fun stays => absurd trivial stays⟩
  refine leaving_releases sound found takes rfl ?_ moved ?_ ?_
  · rw [calls,getElem?_settleCalls,takes.calls,found]
    simp
  · intro other differs
    rw [calls,getElem?_settleCalls,takes.calls]
    simp [differs,differs.symm]
  · exact (List.length_modify ..).trans (List.length_mapIdx.trans (congrArg List.length takes.calls))

end Releases

section Grows

structure Grows (s t : ProxiedContentSource Format) (call : Call Format) (apart : Slot → Prop) : Prop where
  calls : t.calls = s.calls ++ [call]
  live : call.settled = none → call.armed = true ∧ call.listens = true
  armed : call.armed = true → call.settled = none
  waiting : ∀ slot caller, caller ∈ t.waiting slot → caller ∈ s.waiting slot ∨ caller = s.calls.length ∧ call.target.slot = slot ∧ call.settled = none
  keeps : ∀ slot, apart slot → ∀ caller, caller ∈ s.waiting slot → caller ∈ t.waiting slot
  enters : call.settled = none → s.calls.length ∈ t.waiting call.target.slot
  asked : ∀ slot, t.Open slot → slot ∈ t.outstanding ∨ s.Open slot ∧ (slot ∈ s.outstanding → slot ∈ t.outstanding)

variable {call : Call Format} {apart : Slot → Prop}

theorem Grows.before (grows : Grows s t call apart) {caller : Nat} {other : Call Format} (found : t.calls[caller]? = some other) :
    s.calls[caller]? = some other ∨ caller = s.calls.length ∧ other = call := by
  rw [grows.calls,List.getElem?_append] at found
  split at found
  · exact .inl found
  · obtain ⟨zero,rfl⟩ := List.getElem?_eq_some_iff.mp found
    simp only [List.length_singleton] at zero
    exact .inr ⟨by omega,List.getElem_singleton zero⟩

theorem Grows.after (grows : Grows s t call apart) {caller : Nat} {other : Call Format} (found : s.calls[caller]? = some other) :
    t.calls[caller]? = some other := by
  rw [grows.calls,List.getElem?_append_left (List.getElem?_eq_some_iff.mp found).1]
  exact found

theorem Sound.grows (sound : Sound s) (grows : Grows s t call apart) : Sound t := by
  refine ⟨?_,?_,?_,?_⟩
  · intro slot caller there
    rcases grows.waiting slot caller there with before | ⟨rfl,same,unsettled⟩
    · obtain ⟨other,found,same,unsettled⟩ := sound.placed slot caller before
      exact ⟨other,grows.after found,same,unsettled⟩
    · refine ⟨call,?_,same,unsettled⟩
      rw [grows.calls]
      exact List.getElem?_concat_length
  · intro slot there
    rcases grows.asked slot there with asked | ⟨before,kept⟩
    · exact asked
    · exact kept (sound.asked slot before)
  · intro caller other found unsettled
    rcases grows.before found with before | ⟨_,rfl⟩
    · exact sound.live caller other before unsettled
    · exact grows.live unsettled
  · intro caller other found armed
    rcases grows.before found with before | ⟨_,rfl⟩
    · exact sound.armed caller other before armed
    · exact grows.armed armed

theorem Kept.grows {slot : Slot} (kept : Kept slot s) (grows : Grows s t call apart) (here : apart slot) : Kept slot t := by
  rintro caller ⟨other,found,same,unsettled⟩
  rcases grows.before found with before | ⟨rfl,rfl⟩
  · exact grows.keeps slot here caller (kept caller ⟨other,before,same,unsettled⟩)
  · exact same ▸ grows.enters unsettled

theorem addPending_grows (request : FetchRequest) (wireFormat : Format) (s : ProxiedContentSource Format) :
    Grows s (addPending request s.calls.length { s with calls := s.calls ++ [⟨.chunk request wireFormat,none,true,true⟩] })
      ⟨.chunk request wireFormat,none,true,true⟩ fun _ => True := by
  unfold addPending
  split
  · rename_i group found
    replace found : s.pending.get? request.key = some group := found
    refine ⟨rfl,fun _ => ⟨rfl,rfl⟩,fun _ => rfl,?_,?_,?_,?_⟩
    · intro slot caller there
      cases slot with
      | proxy key => exact .inl there
      | chunk key =>
        by_cases same : key = request.key
        · subst same
          simpa [waiting,found,Target.slot] using there
        · exact .inl (by simpa [waiting,same] using there)
    · intro slot _ caller there
      cases slot with
      | proxy key => exact there
      | chunk key =>
        by_cases same : key = request.key
        · subst same
          have joined : caller ∈ group.entries := by simpa [waiting,found] using there
          simp [waiting,joined]
        · simpa [waiting,same] using there
    · simp [waiting,Target.slot]
    · intro slot there
      refine .inr ⟨?_,fun member => member⟩
      cases slot with
      | proxy key => exact there
      | chunk key =>
        by_cases same : key = request.key
        · simp [Open,same,found]
        · simpa [Open,same] using there
  · rename_i absent
    replace absent : s.pending.get? request.key = none := absent
    refine ⟨rfl,fun _ => ⟨rfl,rfl⟩,fun _ => rfl,?_,?_,?_,?_⟩
    · intro slot caller there
      cases slot with
      | proxy key => exact .inl there
      | chunk key =>
        by_cases same : key = request.key
        · subst same
          simpa [mintLabel,waiting,absent,Target.slot] using there
        · exact .inl (by simpa [mintLabel,waiting,same] using there)
    · intro slot _ caller there
      cases slot with
      | proxy key => exact there
      | chunk key =>
        have apart : key ≠ request.key := by
          rintro rfl
          simp [waiting,absent] at there
        simpa [mintLabel,waiting,apart] using there
    · simp [mintLabel,waiting,Target.slot]
    · intro slot there
      cases slot with
      | proxy key => exact .inr ⟨there,fun member => List.mem_append_left _ member⟩
      | chunk key =>
        by_cases same : key = request.key
        · subst same
          exact .inl (List.mem_append_right _ (List.mem_singleton.mpr rfl))
        · exact .inr ⟨by simpa [mintLabel,Open,same] using there,fun member => List.mem_append_left _ member⟩

theorem fetch_grows (request : FetchRequest) (s : ProxiedContentSource Format) : ∃ call, Grows s (s.fetch request) call fun _ => True := by
  unfold fetch
  split
  · refine ⟨_,⟨rfl,?_,?_,?_,?_,?_,?_⟩⟩
    · exact fun unsettled => nomatch unsettled
    · exact fun armed => nomatch armed
    · intro slot caller there
      cases slot <;> exact .inl there
    · intro slot _ caller there
      cases slot <;> exact there
    · exact fun unsettled => nomatch unsettled
    · intro slot there
      cases slot <;> exact .inr ⟨there,fun member => member⟩
  · exact ⟨_,addPending_grows request _ s⟩

theorem fetchProxy_grows (request : FetchProxyRequest) (s : ProxiedContentSource Format) :
    Grows s (s.fetchProxy request) ⟨.proxy request,none,true,true⟩ fun slot => slot = .proxy request.key → s.waiting slot = [] := by
  refine ⟨rfl,fun _ => ⟨rfl,rfl⟩,fun _ => rfl,?_,?_,?_,?_⟩
  · intro slot caller there
    cases slot with
    | chunk key => exact .inl there
    | proxy key =>
      by_cases same : key = request.key
      · subst same
        have mine : caller = s.calls.length := by simpa [fetchProxy,mintLabel,waiting] using there
        exact .inr ⟨mine,rfl,rfl⟩
      · exact .inl (by simpa [fetchProxy,mintLabel,waiting,same] using there)
  · intro slot free caller there
    cases slot with
    | chunk key => exact there
    | proxy key =>
      have apart : key ≠ request.key := by
        rintro rfl
        rw [free rfl] at there
        exact List.not_mem_nil there
      simpa [fetchProxy,mintLabel,waiting,apart] using there
  · simp [fetchProxy,mintLabel,waiting,Target.slot]
  · intro slot there
    cases slot with
    | chunk key => exact .inr ⟨there,fun member => List.mem_append_left _ member⟩
    | proxy key =>
      by_cases same : key = request.key
      · subst same
        exact .inl (List.mem_append_right _ (List.mem_singleton.mpr rfl))
      · exact .inr ⟨by simpa [fetchProxy,mintLabel,Open,same] using there,fun member => List.mem_append_left _ member⟩

end Grows

def Event.answer (event : Event Format) (caller : Nat) (target : Target Format) : Option (Settlement Format) :=
  match event with
  | .abort other => if other = caller then some .aborted else none
  | .timeout other => if other = caller then some target.timedOut else none
  | .handleBinary key data => if target.slot = slotOf key then some (target.resolve data) else none
  | .handleChunkStatus datasetId imageId chunkKey status message =>
    if target.slot = .chunk (compositeKey datasetId imageId chunkKey) then some (.rejected (generatedStatusToFetchError status chunkKey message)) else none
  | .handleSourceChunkStatus datasetId imageId chunkKey status message =>
    if target.slot = .chunk (compositeKey datasetId imageId chunkKey) then some (.rejected (sourceStatusToFetchError status chunkKey message)) else none
  | .rejectDataset datasetId => if ofDataset datasetId target.slot then some (.rejected ⟨"Dataset removed",.abort,false⟩) else none
  | .rejectAll => some (.rejected ⟨"Bridge disconnected",.transient,false⟩)
  | _ => none

-- A proxy is asked for while nobody waits for it, and an abort finds nobody else waiting for it.
-- The chunk table asks for nothing.
def Apart (s : ProxiedContentSource Format) : Event Format → Slot → Prop
  | .fetchProxy request,.proxy key => key = request.key → s.waiting (.proxy key) = []
  | .abort caller,.proxy key => s.calls[caller]?.map (fun call => call.target.slot) = some (.proxy key) → s.Owned caller (.proxy key)
  | _,_ => True

def ApartStep (slot : Slot) (s : ProxiedContentSource Format) (event : Event Format) (t : ProxiedContentSource Format) : Prop :=
  Step s event t ∧ s.Apart event slot

section Handles
variable {event : Event Format} {slot : Slot} {gone : List Nat} {outcome : Target Format → Settlement Format} {apart : Slot → Prop}

structure Handles (s : ProxiedContentSource Format) (event : Event Format) (t : ProxiedContentSource Format) (slot : Slot) : Prop where
  sound : Sound t
  kept : Kept slot t
  answered : ∀ (caller : Nat) (call : Call Format), s.calls[caller]? = some call → call.target.slot = slot →
    ∃ after, t.calls[caller]? = some after ∧ after.target = call.target ∧ after.settled = call.settled.or (event.answer caller call.target)
  others : ∀ caller, event = .abort caller ∨ event = .timeout caller → ∀ other ∈ s.waiting slot, other ≠ caller → other ∈ t.waiting slot

theorem Releases.handles (sound : Sound s) (kept : Kept slot s) (releases : Releases s t gone outcome apart) (here : apart slot)
    (addressed : ∀ (caller : Nat) (call : Call Format), s.calls[caller]? = some call → caller ∈ s.waiting slot →
      event.answer caller call.target = if caller ∈ gone then some (outcome call.target) else none)
    (alone : ∀ caller, event = .abort caller ∨ event = .timeout caller → gone = [caller]) : Handles s event t slot := by
  refine ⟨sound.releases releases,kept.releases releases here,?_,?_⟩
  · intro caller call found same
    obtain ⟨after,there,moved⟩ := releases.calls caller call found
    refine ⟨after,there,moved.target,?_⟩
    cases settled : call.settled with
    | none =>
      rw [Option.none_or,addressed caller call found (kept caller ⟨call,found,same,settled⟩)]
      split
      · rename_i leaves
        rw [(moved.settles leaves).1,settled,Option.none_or]
      · rename_i stays
        rw [moved.stays stays,settled]
    | some value =>
      by_cases leaves : caller ∈ gone
      · rw [(moved.settles leaves).1,settled,Option.some_or,Option.some_or]
      · rw [moved.stays leaves,settled,Option.some_or]
  · intro caller own other there differs
    refine releases.keeps slot here other there ?_
    rw [alone caller own,List.mem_singleton]
    exact differs

theorem Closes.handles {closes : Slot → Prop} [DecidablePred closes] (sound : Sound s) (kept : Kept slot s) (closing : Closes s t closes gone outcome)
    (answer : ∀ (caller : Nat) (target : Target Format), event.answer caller target = if closes target.slot then some (outcome target) else none)
    (foreign : ∀ caller, ¬ (event = .abort caller ∨ event = .timeout caller)) : Handles s event t slot := by
  refine (closing.releases sound).handles sound kept trivial ?_ fun caller own => absurd own (foreign caller)
  intro caller call found there
  obtain ⟨other,again,same,_⟩ := sound.placed slot caller there
  cases again.symm.trans found
  have leaves : caller ∈ gone ↔ closes call.target.slot := same ▸ closing.leaves_iff sound there
  simp only [answer,leaves]

theorem Grows.handles {call : Call Format} (sound : Sound s) (kept : Kept slot s) (grows : Grows s t call apart) (here : apart slot)
    (silent : ∀ (caller : Nat) (target : Target Format), event.answer caller target = none)
    (foreign : ∀ caller, ¬ (event = .abort caller ∨ event = .timeout caller)) : Handles s event t slot := by
  refine ⟨sound.grows grows,kept.grows grows here,?_,fun caller own => absurd own (foreign caller)⟩
  intro caller other found _
  exact ⟨other,grows.after found,rfl,by rw [silent,Option.or_none]⟩

theorem quiet_handles (sound : Sound s) (kept : Kept slot s) (same : t.calls = s.calls ∧ t.pending = s.pending ∧ t.pendingProxy = s.pendingProxy ∧ t.outstanding = s.outstanding)
    (silent : ∀ (caller : Nat) (target : Target Format), event.answer caller target = none)
    (foreign : ∀ caller, ¬ (event = .abort caller ∨ event = .timeout caller)) : Handles s event t slot := by
  obtain ⟨calls,pending,pendingProxy,outstanding⟩ := same
  have waiting : ∀ slot, t.waiting slot = s.waiting slot := by
    intro slot
    cases slot <;> simp [ProxiedContentSource.waiting,pending,pendingProxy]
  have opened : ∀ slot, t.Open slot ↔ s.Open slot := by
    intro slot
    cases slot <;> simp [Open,pending,pendingProxy]
  refine ⟨⟨?_,?_,?_,?_⟩,?_,?_,fun caller own => absurd own (foreign caller)⟩
  · simpa [waiting,Unsettled,calls] using sound.placed
  · simpa [opened,outstanding] using sound.asked
  · simpa [calls] using sound.live
  · simpa [calls] using sound.armed
  · simpa [Kept,waiting,Unsettled,calls] using kept
  · intro caller call found _
    exact ⟨call,by rw [calls,found],rfl,by rw [silent,Option.or_none]⟩

theorem owned_of_kept {caller : Nat} (kept : Kept slot s) (unsettled : s.Unsettled caller slot) : s.Owned caller slot := by
  cases slot with
  | chunk key => trivial
  | proxy key =>
    intro other there
    have mine := mem_waiting_proxy.mp (kept caller unsettled)
    cases (mem_waiting_proxy.mp there).symm.trans mine
    rfl

theorem own_answer (caller other : Nat) (settlement : Settlement Format) :
    (if caller = other then some settlement else none) = if other ∈ [caller] then some settlement else none := by
  simp only [List.mem_singleton,eq_comm]

theorem step_handles (sound : Sound s) (kept : Kept slot s) (taken : ApartStep slot s event t) : Handles s event t slot := by
  obtain ⟨taken,apart⟩ := taken
  unfold Step at taken
  cases event with
  | registerImage imageId wireFormat =>
    cases taken
    exact quiet_handles sound kept ⟨rfl,rfl,rfl,rfl⟩ (fun _ _ => rfl) (by simp)
  | unregisterDataset imageIds =>
    cases taken
    exact quiet_handles sound kept ⟨rfl,rfl,rfl,rfl⟩ (fun _ _ => rfl) (by simp)
  | resetConnection generation =>
    cases taken
    exact quiet_handles sound kept ⟨rfl,rfl,rfl,rfl⟩ (fun _ _ => rfl) (by simp)
  | fetch request =>
    cases taken
    obtain ⟨call,grows⟩ := fetch_grows request s
    exact grows.handles sound kept trivial (fun _ _ => rfl) (by simp)
  | fetchProxy request =>
    cases taken
    refine (fetchProxy_grows request s).handles sound kept ?_ (fun _ _ => rfl) (by simp)
    rintro rfl
    exact apart rfl
  | abort caller =>
    obtain ⟨call,found,fires⟩ := Option.bind_eq_some_iff.mp taken
    split at fires
    · cases fires
      refine (abort_releases sound found).handles sound kept ?_ (fun other _ _ _ => own_answer caller other _) (by simp)
      intro own
      cases slot with
      | chunk key => trivial
      | proxy key => exact apart (by rw [found,Option.map_some,own])
    · cases fires
  | timeout caller =>
    obtain ⟨call,found,fires⟩ := Option.bind_eq_some_iff.mp taken
    split at fires
    · rename_i armed
      cases fires
      refine (timeout_releases sound found).handles sound kept ?_ (fun other _ _ _ => own_answer caller other _) (by simp)
      intro own
      exact owned_of_kept kept ⟨call,found,own.symm,sound.armed caller call found armed⟩
    · cases fires
  | handleBinary key data =>
    cases taken
    exact (handleBinary_closes key data s).handles sound kept (fun _ _ => rfl) (by simp)
  | handleChunkStatus datasetId imageId chunkKey status message =>
    cases taken
    exact (take_closes _ _ s).handles sound kept (fun _ _ => rfl) (by simp)
  | handleSourceChunkStatus datasetId imageId chunkKey status message =>
    cases taken
    exact (take_closes _ _ s).handles sound kept (fun _ _ => rfl) (by simp)
  | rejectDataset datasetId =>
    cases taken
    exact (rejectDataset_closes datasetId s).handles sound kept (fun _ _ => rfl) (by simp)
  | rejectAll =>
    cases taken
    exact (rejectAll_closes s).handles sound kept (fun _ _ => (if_pos trivial).symm) (by simp)

theorem run_sound {events : List (Event Format)} (path : Runs (ApartStep slot) initial events s) : Sound s ∧ Kept slot s := by
  refine Runs.preserves (P := fun s => Sound s ∧ Kept slot s) ?_ ⟨sound_initial,kept_initial slot⟩ path
  intro s event t holds taken
  have handles := step_handles holds.1 holds.2 taken
  exact ⟨handles.sound,handles.kept⟩

theorem apart_chunk (s : ProxiedContentSource Format) (event : Event Format) (key : String) : s.Apart event (.chunk key) := by
  cases event <;> trivial

theorem ofDataset_own (request : FetchRequest) : ofDataset request.datasetId (.chunk request.key) = true := by
  unfold ofDataset CpuCache.startsWith FetchRequest.key compositeKey
  rw [List.isPrefixOf_iff_prefix]
  exact ⟨(request.imageId ++ "/" ++ request.chunkKey).toList,by simp⟩

end Handles
end ProxiedContentSource

open ProxiedContentSource

-- Every caller of a key that is not settled stands in its table and the key is asked for on the
-- wire; a step settles it with what is addressed to it and with nothing else; and who leaves takes
-- nobody with it.
theorem pending_callers_settle_as_addressed {Format : Type} {slot : Slot} {events : List (ProxiedContentSource.Event Format)} {s : ProxiedContentSource Format}
    (path : Runs (ApartStep slot) initial events s) :
    (∀ (caller : Nat) (call : Call Format), s.calls[caller]? = some call → call.target.slot = slot → call.settled = none →
      caller ∈ s.waiting slot ∧ slot ∈ s.outstanding) ∧
    (∀ caller ∈ s.waiting slot, ∃ call, s.calls[caller]? = some call ∧ call.target.slot = slot ∧ call.settled = none) ∧
    ∀ event t, ApartStep slot s event t →
      (∀ (caller : Nat) (call : Call Format), s.calls[caller]? = some call → call.target.slot = slot →
        ∃ after, t.calls[caller]? = some after ∧ after.target = call.target ∧ after.settled = call.settled.or (event.answer caller call.target)) ∧
      (∀ caller, event = .abort caller ∨ event = .timeout caller → ∀ other ∈ s.waiting slot, other ≠ caller → other ∈ t.waiting slot) ∧
      ∀ (caller : Nat) (request : FetchRequest) (wireFormat : Format), event = .rejectDataset request.datasetId →
        event.answer caller (.chunk request wireFormat) = some (.rejected ⟨"Dataset removed",.abort,false⟩) := by
  obtain ⟨sound,kept⟩ := run_sound path
  refine ⟨?_,sound.placed slot,?_⟩
  · intro caller call found same unsettled
    have there := kept caller ⟨call,found,same,unsettled⟩
    exact ⟨there,sound.asked slot (open_of_waiting there)⟩
  · intro event t taken
    have handles := step_handles sound kept taken
    refine ⟨handles.answered,handles.others,?_⟩
    rintro caller request wireFormat rfl
    exact if_pos (ofDataset_own request)

-- Two callers wait for one chunk and one for a proxy of the same dataset. One of the two leaves.
def sharedChunk : FetchRequest := ⟨"d","i","0/0/0/0/0/0"⟩

def ownProxy : FetchProxyRequest := ⟨"d","e",.tileProxy3D,0,0⟩

def sharedRequests : List (ProxiedContentSource.Event Unit) := [.registerImage "i" (),.fetch sharedChunk,.fetch sharedChunk,.fetchProxy ownProxy,.abort 0]

def whileShared : ProxiedContentSource Unit := (drive ProxiedContentSource.next initial sharedRequests).getD initial

theorem shared_reached : Runs Step initial sharedRequests whileShared :=
  drive_runs (fun _ _ _ taken => taken) (some_getD (by decide +kernel) _)

theorem pending_callers_settle_as_addressed_of_two :
    whileShared.calls.map (fun call => call.settled) = [some .aborted,none,none] ∧
      1 ∈ whileShared.waiting (.chunk "d/i/0/0/0/0/0/0") ∧ Slot.chunk "d/i/0/0/0/0/0/0" ∈ whileShared.outstanding :=
  ⟨by decide +kernel,(pending_callers_settle_as_addressed (shared_reached.mono fun s event t taken =>
    ⟨taken,apart_chunk s event "d/i/0/0/0/0/0/0"⟩)).1 1 ⟨.chunk sharedChunk (),none,true,true⟩ (by decide +kernel) (by decide +kernel) rfl⟩

-- The rejection of the dataset leaves the caller of its proxy waiting.
theorem rejected_dataset_leaves_its_proxy :
    ∃ s t : ProxiedContentSource Unit, Runs (ApartStep (.proxy ownProxy.key)) initial [.fetchProxy ownProxy] s ∧
      ApartStep (.proxy ownProxy.key) s (.rejectDataset ownProxy.datasetId) t ∧
      t.calls = [⟨.proxy ownProxy,none,true,true⟩] :=
  ⟨fetchProxy ownProxy initial,rejectDataset "d" (fetchProxy ownProxy initial),.one ⟨rfl,fun _ => rfl⟩,⟨rfl,trivial⟩,by decide +kernel⟩

end Lucida.Web
