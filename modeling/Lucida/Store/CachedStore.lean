import Lucida.Lib.Runs
import Lucida.Store.Backend

namespace Lucida.Store.ChunkCache
open Lib

inductive ReadClass where
  | chunk
  | metadata
  | optionalMetadata
  deriving DecidableEq, Repr

-- Resident entries from the least to the most recently used.
structure LruState where
  lru : IndexMap ReadKey Bytes
  currentBytes : Nat
  maxBytes : Nat
  hits : Nat
  misses : Nat
  evictions : Nat
  backendErrors : Nat
  coalesced : Nat
  sourceReads : Nat

def LruState.new (maxBytes : Nat) : LruState := ⟨.empty,0,maxBytes,0,0,0,0,0,0⟩

def LruState.get (state : LruState) (key : ReadKey) : Option (Bytes × LruState) :=
  (state.lru.get? key).map fun bytes => (bytes,{state with lru := (state.lru.erase key).insert key bytes})

def LruState.countRoundTrip (state : LruState) (failed : Bool) : LruState :=
  {state with
    sourceReads := state.sourceReads+1
    backendErrors := state.backendErrors + failed.toNat}

-- The eviction loop; it pops an entry each turn, so it runs over the entries in
-- order. `none` is an underflow of the byte count.
def evictFor (newSize maxBytes : Nat) :
    List (ReadKey × Bytes) → Nat → Nat → Option (List ReadKey × Nat × Nat)
  | [],current,evictions => some ([],current,evictions)
  | (key,evicted)::rest,current,evictions =>
    if current+newSize ≤ maxBytes then some ([],current,evictions)
    else if current < evicted.length then none
    else do
      let (keys,current,evictions) ← evictFor newSize maxBytes rest (current-evicted.length) (evictions+1)
      some (key::keys,current,evictions)

def LruState.insert (state : LruState) (key : ReadKey) (bytes : Bytes) : Option (LruState × Bytes) :=
  match state.get key with
  | some (existing,state) => some (state,existing)
  | none => do
    let (evicted,current,evictions) ← evictFor bytes.length state.maxBytes state.lru.entries
      state.currentBytes state.evictions
    some ({state with
      lru := (state.lru.retain fun k _ => k ∉ evicted).insert key bytes
      currentBytes := current+bytes.length
      evictions := evictions},bytes)

-- Where one call of `get_bytes_as` stands between two of its awaits or locks.
inductive Phase where
  | checking (firstAttempt : Bool)
  | placing
  | following (delivery : Channel)
  | queueing (guard : LeaderGuard) (delivery : Channel)
  | admitted (guard : LeaderGuard) (delivery : Channel)
  | carried (delivery : Channel)
  | permitting (guard : LeaderGuard)
  | requesting (guard : LeaderGuard) (keys : List ReadKey)
  | responded (guard : LeaderGuard) (keys : List ReadKey) (fetch : Except StoreError (List Bytes))
  | completing (guard : LeaderGuard) (outcomes : List (ReadKey × ShareResult)) (result : ReadResult)
  | finished (result : ReadResult)
  | cancelled

abbrev TaskId := Nat

structure Task where
  key : ReadKey
  readClass : ReadClass
  label : RequestLabel
  phase : Phase

def Task.mergeable (task : Task) : Bool := task.readClass = .chunk ∧ task.key.bounded.isSome

structure World where
  cache : LruState
  flights : Flights
  sent : IndexMap Channel Delivery
  tasks : IndexMap TaskId Task

def World.new (maxBytes : Nat) : World := ⟨.new maxBytes,.default,.empty,.empty⟩

inductive Event where
  | call (id : TaskId) (key : ReadKey) (readClass : ReadClass) (label : RequestLabel)
  | lookup (id : TaskId)
  | place (id : TaskId)
  | receive (id : TaskId)
  | permit (id : TaskId)
  | claim (id : TaskId)
  | respond (id : TaskId) (fetch : Except StoreError (List Bytes))
  | store (id : TaskId)
  | complete (id : TaskId)
  | cancel (id : TaskId)

inductive Outcome where
  | next (w : World)
  | refused
  | fault

def World.setPhase (w : World) (id : TaskId) (task : Task) (phase : Phase) : World :=
  {w with tasks := w.tasks.insert id {task with phase := phase}}

def World.broadcast (w : World) (sends : Sends) : World :=
  {w with sent := sends.foldl (fun sent send => sent.insert send.1 send.2) w.sent}

def World.lookup (w : World) (id : TaskId) (task : Task) (firstAttempt : Bool) : World :=
  match w.cache.get task.key with
  | some (bytes,cache) =>
    {w with cache := {cache with hits := cache.hits+1}}.setPhase id task (.finished (.ok bytes))
  | none =>
    {w with cache := {w.cache with misses := w.cache.misses + firstAttempt.toNat}}.setPhase id task .placing

def World.place (w : World) (id : TaskId) (task : Task) : World :=
  match w.flights.place task.key task.label task.mergeable with
  | (flights,.follow delivery _) => {w with flights := flights}.setPhase id task (.following delivery)
  | (flights,.lead guard delivery) =>
    {w with flights := flights}.setPhase id task
      (if task.mergeable then .queueing guard delivery else .permitting guard)

-- A receiver gets the one message of its channel. A channel whose sender is gone
-- without a message reads as closed, which is handled like an abandoned read.
def World.receive (w : World) (id : TaskId) (task : Task) (delivery : Channel) : Outcome :=
  match w.sent.get? delivery with
  | some (.done result _) =>
    .next ({w with cache := {w.cache with coalesced := w.cache.coalesced+1}}.setPhase id task
      (.finished (rebuild result)))
  | some (.abandoned _) => .next (w.setPhase id task (.checking false))
  | none =>
    if (w.flights.reads.values.any fun read => read.tx = delivery) then .refused
    else .next (w.setPhase id task (.checking false))

-- The loop over the group: every slice goes to the cache and to the outcomes,
-- and the leader keeps the one filed under its own key.
def insertSlices (key : ReadKey) : LruState → List (ReadKey × Bytes) → Option Bytes →
    Option (LruState × List (ReadKey × ShareResult) × Option Bytes)
  | state,[],own => some (state,[],own)
  | state,(member,slice)::rest,own => do
    let (state,bytes) ← state.insert member slice
    let (state,outcomes,own) ← insertSlices key state rest (if member = key then some bytes else own)
    some (state,(member,.ok bytes)::outcomes,own)

def World.store (w : World) (id : TaskId) (task : Task) (guard : LeaderGuard) (keys : List ReadKey) :
    Except StoreError (List Bytes) → Outcome
  | .ok slices =>
    match insertSlices task.key (w.cache.countRoundTrip false) (keys.zip slices) none with
    | some (cache,outcomes,some own) =>
      .next ({w with cache := cache}.setPhase id task (.completing guard outcomes (.ok own)))
    | _ => .fault
  | .error err =>
    let absentAsExpected := task.readClass = .optionalMetadata ∧ err.isNotFound
    let outcomes := keys.map fun member => (member,.error (SharedError.capture err))
    .next ({w with cache := w.cache.countRoundTrip (!absentAsExpected)}.setPhase id task
      (.completing guard outcomes (.error err)))

def Phase.guard? : Phase → Option LeaderGuard
  | .queueing guard _ => some guard
  | .admitted guard _ => some guard
  | .permitting guard => some guard
  | .requesting guard _ => some guard
  | .responded guard _ _ => some guard
  | .completing guard _ _ => some guard
  | _ => none

def Phase.isOver : Phase → Bool
  | .finished _ => true
  | .cancelled => true
  | _ => false

-- A future dropped at an await drops the guard it holds.
def World.cancel (w : World) (id : TaskId) (task : Task) : World :=
  match task.phase.guard? with
  | none => w.setPhase id task .cancelled
  | some guard =>
    let (flights,sends) := guard.drop w.flights
    ({w with flights := flights}.broadcast sends).setPhase id task .cancelled

def World.perform (w : World) (id : TaskId) (task : Task) : Event → Outcome
  | .call _ _ _ _ => .refused
  | .lookup _ =>
    match task.phase with
    | .checking firstAttempt => .next (w.lookup id task firstAttempt)
    | _ => .refused
  | .place _ =>
    match task.phase with
    | .placing => .next (w.place id task)
    | _ => .refused
  | .receive _ =>
    match task.phase with
    | .following delivery => w.receive id task delivery
    | .carried delivery => w.receive id task delivery
    -- The other arm of the select: the guard is disarmed, and its drop does nothing.
    | .queueing guard delivery =>
      let (flights,sends) := guard.disarm.drop w.flights
      ({w with flights := flights}.broadcast sends).receive id task delivery
    | _ => .refused
  | .permit _ =>
    match task.phase with
    | .queueing guard delivery => .next (w.setPhase id task (.admitted guard delivery))
    | .permitting guard => .next (w.setPhase id task (.requesting guard [task.key]))
    | _ => .refused
  | .claim _ =>
    match task.phase with
    | .admitted guard delivery =>
      match w.flights.claimGroup guard with
      | none => .fault
      | some (flights,guard,none) =>
        let (flights,sends) := guard.disarm.drop flights
        .next (({w with flights := flights}.broadcast sends).setPhase id task (.carried delivery))
      | some (flights,guard,some keys) =>
        .next ({w with flights := flights}.setPhase id task (.requesting guard keys))
    | _ => .refused
  | .respond _ fetch =>
    match task.phase with
    | .requesting guard keys => .next (w.setPhase id task (.responded guard keys fetch))
    | _ => .refused
  | .store _ =>
    match task.phase with
    | .responded guard keys fetch => w.store id task guard keys fetch
    | _ => .refused
  | .complete _ =>
    match task.phase with
    | .completing guard outcomes result =>
      let (guard,flights,sends) := guard.complete w.flights outcomes
      let (flights,dropped) := guard.drop flights
      .next (({w with flights := flights}.broadcast (sends ++ dropped)).setPhase id task (.finished result))
    | _ => .refused
  | .cancel _ => if task.phase.isOver then .refused else .next (w.cancel id task)

def Event.task : Event → TaskId
  | .call id _ _ _ => id
  | .lookup id => id
  | .place id => id
  | .receive id => id
  | .permit id => id
  | .claim id => id
  | .respond id _ => id
  | .store id => id
  | .complete id => id
  | .cancel id => id

def World.advance (w : World) (event : Event) : Outcome :=
  match w.tasks.get? event.task,event with
  | none,.call id key readClass label =>
    .next {w with tasks := w.tasks.insert id ⟨key,readClass,label,.checking true⟩}
  | none,_ => .refused
  | some task,event => w.perform event.task task event

-- `serves key keys fetch`: the backend may answer the request of leader `key`
-- for the group `keys` with `fetch`.
abbrev Serves := ReadKey → List ReadKey → Except StoreError (List Bytes) → Prop

def Allowed (serves : Serves) (w : World) : Event → Prop
  | .respond id fetch => ∀ task guard keys, w.tasks.get? id = some task →
    task.phase = .requesting guard keys → serves task.key keys fetch
  | _ => True

def Step (serves : Serves) (w : World) (event : Event) (w' : World) : Prop :=
  Allowed serves w event ∧ w.advance event = .next w'

def Backend.serves (backend : Backend) : Serves := fun key keys fetch => fetch = backend.fetch key keys

def World.answers (backend : Backend) (w : World) : Event → Bool
  | .respond id fetch =>
    match w.tasks.get? id with
    | some ⟨key,_,_,.requesting _ keys⟩ => fetch = backend.fetch key keys
    | _ => false
  | _ => true

def World.next? (backend : Backend) (w : World) (event : Event) : Option World :=
  match w.advance event with
  | .next w' => if w.answers backend event then some w' else none
  | _ => none

theorem next?_step (backend : Backend) (w : World) (event : Event) (w' : World)
    (taken : w.next? backend event = some w') : Step backend.serves w event w' := by
  unfold World.next? at taken
  split at taken
  · rename_i _ moved
    split at taken
    · rename_i answers
      cases taken
      refine ⟨?_,moved⟩
      cases event with
      | respond id fetch =>
        intro task guard keys found requesting
        obtain ⟨key,readClass,label,phase⟩ := task
        cases requesting
        simpa [World.answers,found,Backend.serves] using answers
      | _ => trivial
    · cases taken
  · cases taken

end Lucida.Store.ChunkCache
