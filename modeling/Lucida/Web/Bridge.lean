import Mathlib.Data.List.Sort
import Lucida.Content.Manifest

namespace Lucida.Web
open Content

def resyncRetryMs : Nat := 5000
def resyncGraceMs : Nat := 200
def maxPendingSequenced : Nat := 4096
def pendingLocalCommandTtlMs : Nat := 10000
def maxPendingLocalCommands : Nat := 64

-- What the bridge reads of a command: its type, and its membership key.
inductive Kind where
  | datasetOpened (id : Option DatasetId)
  | removeDataset (id : Option DatasetId)
  | other
  deriving DecidableEq, Repr

class WireCommand (C : Type) where
  kind : C → Kind

-- And of a document: the keys of its manifests.
class WireDocument (D : Type) where
  manifestIds : D → List DatasetId

-- The membership view: a command that is only its kind, a document that is only
-- its manifest keys.
instance : WireCommand Kind := ⟨id⟩
instance : WireDocument (List DatasetId) := ⟨id⟩

-- A buffered message; an ack has no command.
structure PendingSequenced (C : Type) where
  seq : Nat
  command : Option C

structure PendingLocalCommand (C : Type) where
  command : C
  sentAt : Nat

-- One open connection. A timer is armed with the time it fires at.
structure Bridge (C : Type) where
  lastAppliedSeq : Option Nat
  resyncInFlight : Bool
  lastResyncRequestAt : Nat
  resyncGraceTimer : Option Nat
  resyncRetryTimer : Option Nat
  pendingSequenced : List (PendingSequenced C)
  documentDatasetIds : Option (List DatasetId)
  pendingLocalCommands : List (PendingLocalCommand C)

def Bridge.new (C : Type) : Bridge C := ⟨none,false,0,none,none,[],none,[]⟩

-- The calls the bridge makes, in order. Every command call is `onCommand`; the
-- constructors say which arm made it, and a stale one at which baseline.
inductive Effect (C D : Type) where
  | onSnapshot (seq : Nat) (document : D)
  | onCommand (seq : Option Nat) (command : C)
  | redelivered (last : Option Nat) (seq : Nat) (command : C)
  | replayed (seq : Nat) (command : C)
  | onAck (seq : Option Nat)
  | requestSnapshot
  | sendCommand (command : C)

namespace Bridge
variable {C D : Type}

def clearTimers (b : Bridge C) : Bridge C := {b with resyncGraceTimer := none,resyncRetryTimer := none}

def scheduleResync (now : Nat) (b : Bridge C) : Bridge C :=
  if b.resyncGraceTimer.isSome then b
  else if b.resyncInFlight ∧ now-b.lastResyncRequestAt < resyncRetryMs then b
  else {b with resyncGraceTimer := some (now+resyncGraceMs)}

def requestResync (now : Nat) (b : Bridge C) : Bridge C × List (Effect C D) :=
  if b.resyncInFlight ∧ now-b.lastResyncRequestAt < resyncRetryMs then (b,[])
  else
    ({b with
      resyncInFlight := true
      lastResyncRequestAt := now
      resyncRetryTimer := some (now+resyncRetryMs)},[.requestSnapshot])

def graceFires (now : Nat) (b : Bridge C) : Bridge C × List (Effect C D) :=
  let b := {b with resyncGraceTimer := none}
  if b.pendingSequenced.isEmpty then (b,[]) else b.requestResync now

def retryFires (now : Nat) (b : Bridge C) : Bridge C × List (Effect C D) :=
  let b := {b with resyncRetryTimer := none}
  if b.pendingSequenced.isEmpty then (b,[]) else b.requestResync now

@[simp] theorem schedule_last (now : Nat) (b : Bridge C) :
    (b.scheduleResync now).lastAppliedSeq = b.lastAppliedSeq := by
  unfold scheduleResync
  split
  · rfl
  · split <;> rfl

@[simp] theorem schedule_pending (now : Nat) (b : Bridge C) :
    (b.scheduleResync now).pendingSequenced = b.pendingSequenced := by
  unfold scheduleResync
  split
  · rfl
  · split <;> rfl

@[simp] theorem schedule_local (now : Nat) (b : Bridge C) :
    (b.scheduleResync now).pendingLocalCommands = b.pendingLocalCommands := by
  unfold scheduleResync
  split
  · rfl
  · split <;> rfl

def holds (b : Bridge C) (id : DatasetId) : Bool := b.documentDatasetIds.any fun ids => id ∈ ids

variable [WireCommand C]

def deliverStale (b : Bridge C) (seq : Nat) : Option C → List (Effect C D)
  | none => []
  | some command =>
    match WireCommand.kind command with
    | .datasetOpened (some id) => if b.holds id then [.redelivered b.lastAppliedSeq seq command] else []
    | _ => []

def noteDeliveredMembership (b : Bridge C) (command : C) : Bridge C :=
  match b.documentDatasetIds,WireCommand.kind command with
  | some ids,.datasetOpened (some id) =>
    {b with documentDatasetIds := some (if id ∈ ids then ids else ids ++ [id])}
  | some ids,.removeDataset (some id) => {b with documentDatasetIds := some (ids.filter (· ≠ id))}
  | _,_ => b

theorem note_same (b : Bridge C) (command : C) :
    (b.noteDeliveredMembership command).lastAppliedSeq = b.lastAppliedSeq ∧
      (b.noteDeliveredMembership command).pendingSequenced = b.pendingSequenced ∧
      (b.noteDeliveredMembership command).pendingLocalCommands = b.pendingLocalCommands := by
  unfold noteDeliveredMembership
  split <;> exact ⟨rfl,rfl,rfl⟩

def deliver (b : Bridge C) (seq : Nat) : Option C → Bridge C × List (Effect C D)
  | none => ({b with lastAppliedSeq := some seq},[])
  | some command =>
    ({b with lastAppliedSeq := some seq}.noteDeliveredMembership command,[.onCommand (some seq) command])

theorem deliver_same (b : Bridge C) (seq : Nat) (command : Option C) :
    (b.deliver (D := D) seq command).1.lastAppliedSeq = some seq ∧
      (b.deliver (D := D) seq command).1.pendingSequenced = b.pendingSequenced := by
  cases command with
  | none => exact ⟨rfl,rfl⟩
  | some command =>
    obtain ⟨last,pending,_⟩ := note_same {b with lastAppliedSeq := some seq} command
    exact ⟨last,pending⟩

def sortPending (pending : List (PendingSequenced C)) : List (PendingSequenced C) :=
  pending.insertionSort fun a b => a.seq ≤ b.seq

omit [WireCommand C] in
theorem mem_sortPending {pending : List (PendingSequenced C)} : entry ∈ sortPending pending ↔ entry ∈ pending :=
  List.mem_insertionSort _

def bufferSequenced (b : Bridge C) (entry : PendingSequenced C) : Bridge C :=
  let pending := b.pendingSequenced ++ [entry]
  if maxPendingSequenced < pending.length then
    {b with pendingSequenced := (sortPending pending).drop (pending.length-maxPendingSequenced)}
  else {b with pendingSequenced := pending}

omit [WireCommand C] in
theorem mem_bufferSequenced {b : Bridge C} (member : entry ∈ (b.bufferSequenced added).pendingSequenced) :
    entry ∈ b.pendingSequenced ∨ entry = added := by
  unfold bufferSequenced at member
  simp only at member
  split at member
  · simp only at member
    have kept := mem_sortPending.mp (List.mem_of_mem_drop member)
    simpa using kept
  · simpa using member

-- The loop of `drainPendingSequenced` over the sorted buffer.
def drainLoop (now : Nat) (b : Bridge C) : List (PendingSequenced C) → Bridge C × List (Effect C D)
  | [] => ({b with pendingSequenced := []},[])
  | next::rest =>
    match b.lastAppliedSeq with
    | none =>
      let (after,effects) := b.drainLoop now rest
      (after,b.deliverStale next.seq next.command ++ effects)
    | some last =>
      if next.seq ≤ last then
        let (after,effects) := b.drainLoop now rest
        (after,b.deliverStale next.seq next.command ++ effects)
      else if next.seq = last+1 then
        let (b,delivered) := b.deliver next.seq next.command
        let (after,effects) := b.drainLoop now rest
        (after,delivered ++ effects)
      else ({b with pendingSequenced := next::rest}.scheduleResync now,[])

def drainPendingSequenced (now : Nat) (b : Bridge C) : Bridge C × List (Effect C D) :=
  if b.pendingSequenced.isEmpty then (b,[])
  else
    let (b,effects) := b.drainLoop now (sortPending b.pendingSequenced)
    (if b.pendingSequenced.isEmpty then b.clearTimers else b,effects)

def handleSequenced (now : Nat) (b : Bridge C) (seq : Option Nat) (command : Option C) :
    Bridge C × List (Effect C D) :=
  match seq with
  | none => (b,command.toList.map fun command => .onCommand none command)
  | some seq =>
    match b.lastAppliedSeq with
    | none => ({b with lastAppliedSeq := some seq},command.toList.map fun command => .onCommand (some seq) command)
    | some last =>
      if seq ≤ last then (b,b.deliverStale seq command)
      else if seq = last+1 then
        let (b,delivered) := b.deliver seq command
        let (b,effects) := b.drainPendingSequenced now
        (b,delivered ++ effects)
      else ((b.bufferSequenced ⟨seq,command⟩).scheduleResync now,[])

def prunePendingLocalCommands (now : Nat) (b : Bridge C) : Bridge C :=
  {b with pendingLocalCommands :=
    b.pendingLocalCommands.filter fun entry => now ≤ entry.sentAt+pendingLocalCommandTtlMs}

def onAck (now : Nat) (b : Bridge C) (seq : Option Nat) : Bridge C × List (Effect C D) :=
  let b := b.prunePendingLocalCommands now
  let (b,effects) := {b with pendingLocalCommands := b.pendingLocalCommands.tail}.handleSequenced now seq none
  (b,effects ++ [.onAck seq])

def onSnapshot [WireDocument D] (now : Nat) (b : Bridge C) (seq : Option Nat) (document : D) :
    Bridge C × List (Effect C D) :=
  let snapshotSeq := seq.getD 0
  if b.lastAppliedSeq.any fun last => snapshotSeq < last then
    {b with resyncInFlight := false}.clearTimers.drainPendingSequenced now
  else
    let adopted := ({b with
      lastAppliedSeq := some snapshotSeq
      resyncInFlight := false
      documentDatasetIds := some (WireDocument.manifestIds document)}.clearTimers).prunePendingLocalCommands now
    let replay := adopted.pendingLocalCommands.map PendingLocalCommand.command
    let noted := replay.foldl noteDeliveredMembership adopted
    let (b,effects) := noted.drainPendingSequenced now
    (b,.onSnapshot snapshotSeq document::(replay.map fun command => .replayed snapshotSeq command) ++ effects)

-- `sendCommand` on an open socket.
def sendCommand (now : Nat) (b : Bridge C) (command : C) : Bridge C × List (Effect C D) :=
  let b := b.prunePendingLocalCommands now
  let pending := b.pendingLocalCommands ++ [⟨command,now⟩]
  ({b with pendingLocalCommands := pending.drop (pending.length-maxPendingLocalCommands)},[.sendCommand command])

end Bridge
end Lucida.Web
