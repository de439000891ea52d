import Lucida.Lib.Optimistic
import Lucida.Lib.Runs
import Lucida.Core.Document
import Lucida.Web.Bridge

namespace Lucida.Session
open Lib Web

section
open Lucida.Core
variable {R : Type}

-- What the bridge reads of a document command, and of a document.
instance : WireCommand (DocumentCommand R) where
  kind
    | .datasetOpened event => .datasetOpened (some event.manifest.datasetId)
    | .removeDataset id => .removeDataset (some id)
    | _ => .other

instance : WireDocument (DocumentState R) := ⟨fun doc => doc.manifests.keys⟩

end

variable {ι C D : Type}

-- One client: its bridge, and the document its handlers hold.
structure Seat (C D : Type) where
  bridge : Bridge C
  document : D

def perform (apply : D → C → D) (document : D) : Effect C D → D
  | .onSnapshot _ document => document
  | .onCommand _ command => apply document command
  | .redelivered _ _ command => apply document command
  | .replayed _ command => apply document command
  | _ => document

def Seat.take (apply : D → C → D) (seat : Seat C D) (result : Bridge C × List (Effect C D)) : Seat C D :=
  ⟨result.1,result.2.foldl (perform apply) seat.document⟩

-- `BroadcastItem::CommandBroadcast`: the sender will get the ack, the others the
-- command.
structure BroadcastItem (ι C : Type) where
  seq : Nat
  sender : ι
  command : C

def BroadcastItem.told [DecidableEq ι] (item : BroadcastItem ι C) (me : ι) : Option C :=
  if item.sender = me then none else some item.command

-- A session and its open connections. `log` is what the server has applied since
-- the clients joined at `start`; `applied` is what it has not broadcast yet.
-- Handlers apply under the session lock and broadcast after it, so `applied` may
-- leave in any order.
structure Room (ι C D : Type) where
  session : D
  start : Nat
  log : List (ι × C)
  applied : List (BroadcastItem ι C)
  outbox : ι → List C
  inbox : ι → List (BroadcastItem ι C)
  seat : ι → Seat C D

def Room.seq (room : Room ι C D) : Nat := room.start+room.log.length

inductive Move (ι C : Type) where
  | issue (me : ι) (now : Nat) (command : C)
  | sequence (me : ι)
  | publish (index : Nat)
  | receive (me : ι) (now : Nat)

variable [DecidableEq ι] [WireCommand C]

def Seat.receive (apply : D → C → D) (seat : Seat C D) (me : ι) (now : Nat) (item : BroadcastItem ι C) : Seat C D :=
  seat.take apply (match item.told me with
    | none => seat.bridge.onAck now (some item.seq)
    | some command => seat.bridge.handleSequenced now (some item.seq) (some command))

-- `Session::apply`.
def Room.sequenced (apply : D → C → D) (room : Room ι C D) (me : ι) (command : C) (rest : List C) : Room ι C D :=
  {room with
    session := apply room.session command
    log := room.log ++ [(me,command)]
    applied := room.applied ++ [⟨room.seq+1,me,command⟩]
    outbox := Function.update room.outbox me rest}

def Room.advance (apply : D → C → D) (room : Room ι C D) : Move ι C → Option (Room ι C D)
  -- the local apply, then the send
  | .issue me now command =>
    let seat := room.seat me
    let sent := Seat.take apply ⟨seat.bridge,apply seat.document command⟩ (seat.bridge.sendCommand now command)
    some {room with
      seat := Function.update room.seat me sent
      outbox := Function.update room.outbox me (room.outbox me ++ [command])}
  | .sequence me =>
    match room.outbox me with
    | [] => none
    | command::rest => some (room.sequenced apply me command rest)
  | .publish index =>
    match room.applied[index]? with
    | none => none
    | some item => some {room with
        applied := room.applied.eraseIdx index
        inbox := fun me => room.inbox me ++ [item]}
  | .receive me now =>
    match room.inbox me with
    | [] => none
    | item::rest => some {room with
        inbox := Function.update room.inbox me rest
        seat := Function.update room.seat me ((room.seat me).receive apply me now item)}

def Room.Step (apply : D → C → D) (room : Room ι C D) (move : Move ι C) (room' : Room ι C D) : Prop :=
  room.advance apply move = some room'

-- Every client has just adopted the snapshot of the session.
def Room.opened [WireDocument D] (apply : D → C → D) (start : Nat) (session : D) (now : Nat) : Room ι C D where
  session
  start
  log := []
  applied := []
  outbox _ := []
  inbox _ := []
  seat _ := Seat.take apply ⟨Bridge.new C,session⟩ ((Bridge.new C).onSnapshot now (some start) session)

def Room.Delivered (room : Room ι C D) : Prop :=
  room.applied = [] ∧ ∀ me, room.outbox me = [] ∧ room.inbox me = []

-- The order as client `me` sees it: the session document at each seq, the own
-- commands a seq does not cover, and what the server tells it.
def Room.timeline (apply : D → C → D) (opening : D) (room : Room ι C D) (me : ι) : Timeline C D where
  document n := ((room.log.take (n-room.start)).map Prod.snd).foldl apply opening
  own n := ((room.log.drop (n-room.start)).filter (·.1 = me)).map Prod.snd ++ room.outbox me
  message n := (room.log[n-room.start-1]?).bind fun entry => if entry.1 = me then none else some entry.2

-- The condition on a step. When a client takes a message, whatever it has still
-- to apply commutes with its own commands that come later in the order, and a
-- message past the next seq finds room in the buffer.
def Room.Clear (apply : D → C → D) (opening : D) (room : Room ι C D) : Move ι C → Prop
  | .receive me _ => ∀ last, (room.seat me).bridge.lastAppliedSeq = some last →
    (room.timeline apply opening me).Calm apply last room.seq ∧
      ∀ item ∈ (room.inbox me).head?, item.seq ≠ last+1 →
        (room.seat me).bridge.pendingSequenced.length < maxPendingSequenced
  | _ => True

end Lucida.Session
