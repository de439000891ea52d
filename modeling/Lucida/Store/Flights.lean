import Mathlib.Data.List.Sort
import Lucida.Lib.IndexMap

namespace Lucida.Store.ChunkCache
open Lib

abbrev Path := String
abbrev Bytes := List UInt8
abbrev FlightId := Nat
abbrev RequestLabel := Nat

inductive ByteRange where
  | bounded (start stop : Nat)
  | suffix (len : Nat)
  deriving DecidableEq, Repr

structure ReadKey where
  path : Path
  range : Option ByteRange
  deriving DecidableEq, Repr

def ReadKey.bounded (key : ReadKey) : Option (Nat × Nat) :=
  match key.range with
  | some (.bounded start stop) => some (start,stop)
  | _ => none

-- `object_store::Error`: the variants the cache tells apart, with what they
-- display as, and one constructor for the rest.
inductive StoreError where
  | notFound (path source : String)
  | permissionDenied (path source : String)
  | unauthenticated (path source : String)
  | generic (store source : String)
  | other (text : String)
  deriving DecidableEq, Repr

def StoreError.display : StoreError → String
  | .notFound path source => "Object at location " ++ path ++ " not found: " ++ source
  | .permissionDenied path source =>
    "The operation lacked the necessary privileges to complete for path " ++ path ++ ": " ++ source
  | .unauthenticated path source =>
    "The operation lacked valid authentication credentials for path " ++ path ++ ": " ++ source
  | .generic store source => "Generic " ++ store ++ " error: " ++ source
  | .other text => text

def StoreError.isNotFound : StoreError → Bool
  | .notFound _ _ => true
  | _ => false

inductive SharedErrorKind where
  | notFound
  | permissionDenied
  | other
  deriving DecidableEq, Repr

def SharedErrorKind.classify : StoreError → SharedErrorKind
  | .notFound _ _ => .notFound
  | .permissionDenied _ _ => .permissionDenied
  | .unauthenticated _ _ => .permissionDenied
  | _ => .other

structure SharedError where
  kind : SharedErrorKind
  message : String
  deriving DecidableEq, Repr

def SharedError.capture (err : StoreError) : SharedError := ⟨.classify err,err.display⟩

def SharedError.intoObjectStoreError (shared : SharedError) : StoreError :=
  match shared.kind with
  | .notFound => .notFound "" shared.message
  | .permissionDenied => .permissionDenied "" shared.message
  | .other => .generic "source" shared.message

abbrev ReadResult := Except StoreError Bytes
abbrev ShareResult := Except SharedError Bytes

def rebuild : ShareResult → ReadResult
  | .ok bytes => .ok bytes
  | .error shared => .error shared.intoObjectStoreError

inductive Delivery where
  | done (result : ShareResult) (leader : RequestLabel)
  | abandoned (leader : RequestLabel)

-- A broadcast channel, named by the registration that opened it.
structure Channel where
  flight : FlightId
  key : ReadKey
  deriving DecidableEq, Repr

structure InFlightRead where
  tx : Channel
  leader : RequestLabel
  owner : FlightId

-- Only bounded ranges are queued, so `range` has no failing case.
structure QueuedRange where
  key : ReadKey
  owner : FlightId
  bounded : key.bounded.isSome

def QueuedRange.range (queued : QueuedRange) : Nat × Nat := queued.key.bounded.get queued.bounded

def QueuedRange.under (owner : FlightId) (queued : QueuedRange) : QueuedRange := {queued with owner := owner}

structure Flights where
  reads : IndexMap ReadKey InFlightRead
  queuedRanges : IndexMap Path (List QueuedRange)
  nextFlight : Nat

def Flights.default : Flights := ⟨.empty,.empty,0⟩

structure LeaderGuard where
  flight : FlightId
  label : RequestLabel
  keys : List ReadKey
  queuedAt : Option Path
  completed : Bool
  deriving DecidableEq, Repr

inductive Placement where
  | lead (guard : LeaderGuard) (delivery : Channel)
  | follow (delivery : Channel) (leader : RequestLabel)

def Flights.place (f : Flights) (key : ReadKey) (label : RequestLabel) (mergeable : Bool) : Flights × Placement :=
  match f.reads.get? key with
  | some existing => (f,.follow existing.tx existing.leader)
  | none =>
    let flight := f.nextFlight+1
    let tx : Channel := ⟨flight,key⟩
    let registered := {f with reads := f.reads.insert key ⟨tx,label,flight⟩,nextFlight := flight}
    if queues : key.bounded.isSome ∧ mergeable then
      ({registered with
          queuedRanges := f.queuedRanges.upsert key.path fun queue =>
            queue.getD [] ++ [⟨key,flight,queues.1⟩]},
        .lead ⟨flight,label,[key],some key.path,false⟩ tx)
    else (registered,.lead ⟨flight,label,[key],none,false⟩ tx)

-- The first loop of `claim_group`: where the contiguous run that reaches the
-- leader's own range begins, and where its bytes end.
def scanFirst (rank first stop : Nat) : List QueuedRange → Nat × Nat
  | [] => (first,stop)
  | queued::rest =>
    if queued.range.1 ≤ stop then scanFirst (rank+1) first (max stop queued.range.2) rest
    else scanFirst (rank+1) rank queued.range.2 rest

def scanLast (last stop : Nat) : List QueuedRange → Nat
  | [] => last
  | queued::rest =>
    if queued.range.1 ≤ stop then scanLast (last+1) (max stop queued.range.2) rest else last

def groupBounds (queue : List QueuedRange) (own : Nat) : Nat × Nat :=
  match queue with
  | [] => (0,0)
  | head::rest =>
    let (first,stop) := scanFirst 1 0 head.range.2 (rest.take own)
    (first,scanLast own stop (rest.drop own))

-- One member of the group: a neighbour's entry changes hands. `none` is the
-- `expect` that a queued range is registered.
def takeOver (guard : LeaderGuard) (reads : IndexMap ReadKey InFlightRead) (queued : QueuedRange) :
    Option (LeaderGuard × IndexMap ReadKey InFlightRead) :=
  if queued.owner = guard.flight then some (guard,reads)
  else match reads.get? queued.key with
    | none => none
    | some read =>
      some ({guard with keys := guard.keys ++ [queued.key]},
        reads.insert queued.key {read with owner := guard.flight,leader := guard.label})

def takeOverAll (guard : LeaderGuard) (reads : IndexMap ReadKey InFlightRead) :
    List QueuedRange → Option (LeaderGuard × IndexMap ReadKey InFlightRead)
  | [] => some (guard,reads)
  | queued::rest =>
    match takeOver guard reads queued with
    | none => none
    | some (guard,reads) => takeOverAll guard reads rest

def Flights.storeQueue (f : Flights) (path : Path) (queue : List QueuedRange) : Flights :=
  {f with queuedRanges :=
    if queue.isEmpty then f.queuedRanges.erase path else f.queuedRanges.insert path queue}

def sortQueue (queue : List QueuedRange) : List QueuedRange :=
  queue.insertionSort fun a b => a.range.1 ≤ b.range.1

-- `none` is a panic; the inner `none` says that a neighbour carried the range.
def Flights.claimGroup (f : Flights) (guard : LeaderGuard) :
    Option (Flights × LeaderGuard × Option (List ReadKey)) :=
  match guard.queuedAt with
  | none => some (f,guard,none)
  | some path =>
    let guard := {guard with queuedAt := none}
    match f.queuedRanges.get? path with
    | none => some (f,guard,none)
    | some unsorted =>
      let queue := sortQueue unsorted
      match queue.findIdx? fun queued => queued.owner = guard.flight with
      | none => some ({f with queuedRanges := f.queuedRanges.insert path queue},guard,none)
      | some own =>
        let (first,last) := groupBounds queue own
        let group := (queue.drop first).take (last-first+1)
        match takeOverAll guard f.reads group with
        | none => none
        | some (guard,reads) =>
          let left := queue.take first ++ group.map (QueuedRange.under guard.flight) ++
            queue.drop (last+1)
          some ({f with reads := reads}.storeQueue path (left.filter fun queued => queued.owner ≠ guard.flight),
            guard,some (group.map QueuedRange.key))

def Flights.takeOwned (f : Flights) (key : ReadKey) (owner : FlightId) : Option (InFlightRead × Flights) :=
  match f.reads.get? key with
  | none => none
  | some read => if read.owner ≠ owner then none else some (read,{f with reads := f.reads.erase key})

def Flights.dequeue (f : Flights) (path : Path) (owner : FlightId) : Flights :=
  match f.queuedRanges.get? path with
  | none => f
  | some queue => f.storeQueue path (queue.filter fun queued => queued.owner ≠ owner)

abbrev Sends := List (Channel × Delivery)

-- The shared loop of `complete` and `drop`: each entry the guard still answers
-- for is removed and its waiters are told.
def Flights.settle (f : Flights) (owner : FlightId) : List (ReadKey × Delivery) → Flights × Sends
  | [] => (f,[])
  | (key,delivery)::rest =>
    match f.takeOwned key owner with
    | none => f.settle owner rest
    | some (read,f) =>
      let (f,sends) := f.settle owner rest
      (f,(read.tx,delivery)::sends)

def LeaderGuard.complete (guard : LeaderGuard) (f : Flights) (outcomes : List (ReadKey × ShareResult)) :
    LeaderGuard × Flights × Sends :=
  let (f,sends) := f.settle guard.flight (outcomes.map fun (key,result) => (key,.done result guard.label))
  ({guard with completed := true},f,sends)

def LeaderGuard.disarm (guard : LeaderGuard) : LeaderGuard := {guard with completed := true}

def LeaderGuard.drop (guard : LeaderGuard) (f : Flights) : Flights × Sends :=
  if guard.completed then (f,[])
  else
    let (f,sends) := f.settle guard.flight (guard.keys.map fun key => (key,.abandoned guard.label))
    match guard.queuedAt with
    | none => (f,sends)
    | some path => (f.dequeue path guard.flight,sends)

end Lucida.Store.ChunkCache
