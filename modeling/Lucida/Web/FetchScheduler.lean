import Mathlib
import Lucida.Lib.IndexMap
import Lucida.Lib.Runs

namespace Lucida.Web
open Lib

-- A number, without the rounding.
abbrev Number := ℚ

-- An `AbortController` is the number of its making.
structure InFlightEntry (Req : Type) where
  request : Req
  controller : Nat
  estimatedBytes : Number
  deriving DecidableEq, Repr

def minAdmissionWindow : Nat := 64

def admissionWindowConcurrencyMultiple : Nat := 4

structure SchedulerConfig where
  maxConcurrentFetches : Nat
  maxBytesInFlight : Number
  admissionWindow : Option Nat
  deriving DecidableEq, Repr

-- An explicit window is taken literally; only the derived default gets the floor.
def SchedulerConfig.window (config : SchedulerConfig) : Nat :=
  config.admissionWindow.getD (max minAdmissionWindow (config.maxConcurrentFetches*admissionWindowConcurrencyMultiple))

-- What the sibling scheduler counts toward the caps.
structure SiblingLoad where
  count : Nat
  bytes : Number
  deriving DecidableEq, Repr

structure FetchScheduler (K Req : Type) where
  pending : List Req
  inFlight : IndexMap K (InFlightEntry Req)
  inFlightBytes : Number
  enqueuedAt : IndexMap K Number
  controllers : Nat
  aborted : List Nat

-- A call of `startFn`, with the count of fetches in flight that admitted it.
structure Started (K Req : Type) where
  request : Req
  key : K
  controller : Nat
  admittedAt : Option Number
  count : Nat
  deriving DecidableEq, Repr

namespace FetchScheduler
variable {K Req : Type} [DecidableEq K]

def initial : FetchScheduler K Req := ⟨[],.empty,0,.empty,0,[]⟩

def hasInFlight (s : FetchScheduler K Req) (key : K) : Bool := s.inFlight.contains key

def isCurrent (s : FetchScheduler K Req) (key : K) (controller : Nat) : Bool :=
  (s.inFlight.get? key).any (·.controller = controller)

def inFlightSize (s : FetchScheduler K Req) : Nat := s.inFlight.entries.length

section Queue
variable (config : SchedulerConfig) (keyFn : Req → K)

def enqueue (reqs : List Req) (now : Number) (s : FetchScheduler K Req) : FetchScheduler K Req :=
  { s with
    pending := reqs
    enqueuedAt := .ofList ((reqs.take config.window).map fun req => (keyFn req,(s.enqueuedAt.get? (keyFn req)).getD now)) }

def canStartMore (sibling : SiblingLoad) (s : FetchScheduler K Req) : Bool :=
  s.inFlightSize+sibling.count < config.maxConcurrentFetches ∧ s.inFlightBytes+sibling.bytes < config.maxBytesInFlight

def stampIfAbsent (now : Number) (enqueuedAt : IndexMap K Number) (key : K) : IndexMap K Number :=
  if enqueuedAt.contains key then enqueuedAt else enqueuedAt.insert key now

-- Stamps the entry that a removal from the front has pulled into the window.
def promoteIntoWindow (now : Number) (s : FetchScheduler K Req) : FetchScheduler K Req :=
  match s.pending[config.window-1]? with
  | none => s
  | some req => { s with enqueuedAt := stampIfAbsent now s.enqueuedAt (keyFn req) }

def syncWindow (now : Number) (s : FetchScheduler K Req) : FetchScheduler K Req :=
  { s with enqueuedAt := ((s.pending.take config.window).map keyFn).foldl (stampIfAbsent now) s.enqueuedAt }

def startInFlight (req : Req) (rest : List Req) (estimate : Number) (s : FetchScheduler K Req) : FetchScheduler K Req :=
  { s with
    pending := rest
    inFlight := s.inFlight.insert (keyFn req) ⟨req,s.controllers,estimate⟩
    inFlightBytes := s.inFlightBytes+estimate
    enqueuedAt := s.enqueuedAt.erase (keyFn req)
    controllers := s.controllers+1 }

-- The loop of `drain`. `sibling turn` is what `siblingInFlight` answers in a turn. The started
-- requests do not come back to the scheduler before the loop is over. With no window at all,
-- the promotion asks for the key of no request and throws, which ends the loop.
def drainLoop (estimateBytes : Req → Number) (now : Number) (sibling : Nat → SiblingLoad) :
    List Req → Nat → FetchScheduler K Req → FetchScheduler K Req × List (Started K Req)
  | [],_,s => (s,[])
  | req::rest,turn,s =>
    if s.canStartMore config (sibling turn) then
      let start : Started K Req :=
        ⟨req,keyFn req,s.controllers,s.enqueuedAt.get? (keyFn req),s.inFlightSize+(sibling turn).count⟩
      let s := startInFlight keyFn req rest (estimateBytes req) s
      if config.window = 0 then (s,[start])
      else
        let (s,starts) := drainLoop estimateBytes now sibling rest (turn+1) (promoteIntoWindow config keyFn now s)
        (s,start::starts)
    else (s,[])

def drain (estimateBytes : Req → Number) (now : Number) (sibling : Nat → SiblingLoad) (s : FetchScheduler K Req) :
    FetchScheduler K Req × List (Started K Req) :=
  drainLoop config keyFn estimateBytes now sibling s.pending 0 s

end Queue

def correctInFlightBytes (key : K) (actualBytes : Number) (s : FetchScheduler K Req) : FetchScheduler K Req :=
  match s.inFlight.get? key with
  | none => s
  | some entry =>
    { s with
      inFlightBytes := s.inFlightBytes+(actualBytes-entry.estimatedBytes)
      inFlight := s.inFlight.modify key fun entry => { entry with estimatedBytes := actualBytes } }

def release (key : K) (entry : InFlightEntry Req) (s : FetchScheduler K Req) : FetchScheduler K Req :=
  { s with inFlightBytes := s.inFlightBytes-entry.estimatedBytes, inFlight := s.inFlight.erase key }

def markInFlightDone (key : K) (s : FetchScheduler K Req) : FetchScheduler K Req :=
  match s.inFlight.get? key with
  | none => s
  | some entry => s.release key entry

def markInFlightDoneIfCurrent (key : K) (controller : Nat) (s : FetchScheduler K Req) : FetchScheduler K Req × Bool :=
  match s.inFlight.get? key with
  | none => (s,false)
  | some entry => if entry.controller ≠ controller then (s,false) else (s.release key entry,true)

def abortEntry (key : K) (entry : InFlightEntry Req) (s : FetchScheduler K Req) : FetchScheduler K Req :=
  { s.release key entry with enqueuedAt := s.enqueuedAt.erase key, aborted := s.aborted ++ [entry.controller] }

def cancelOne (key : K) (s : FetchScheduler K Req) : FetchScheduler K Req :=
  match s.inFlight.get? key with
  | none => s
  | some entry => s.abortEntry key entry

-- The keys removed, and what is left.
def cancelInFlightWhere (predicate : InFlightEntry Req → K → Bool) (s : FetchScheduler K Req) : FetchScheduler K Req × List K :=
  let matching := s.inFlight.entries.filter fun e => predicate e.2 e.1
  (matching.foldl (fun s e => s.abortEntry e.1 e.2) s,matching.map Prod.fst)

-- The predicate sees the request, and of an entry in flight its controller and bytes: a pending
-- one has no controller and no bytes.
def cancelWhere (config : SchedulerConfig) (keyFn : Req → K) (predicate : Req → Option Nat → Number → Bool) (now : Number)
    (s : FetchScheduler K Req) : FetchScheduler K Req × List K :=
  let (s,inFlight) := s.cancelInFlightWhere fun entry _ => predicate entry.request (some entry.controller) entry.estimatedBytes
  let dropped := (s.pending.filter fun req => predicate req none 0).map keyFn
  let s := { s with
    pending := s.pending.filter fun req => !predicate req none 0
    enqueuedAt := dropped.foldl IndexMap.erase s.enqueuedAt }
  (syncWindow config keyFn now s,inFlight ++ dropped)

def reset (s : FetchScheduler K Req) : FetchScheduler K Req :=
  { s with
    pending := []
    inFlight := .empty
    inFlightBytes := 0
    enqueuedAt := .empty
    aborted := s.aborted ++ s.inFlight.values.map (·.controller) }

end FetchScheduler
end Lucida.Web
