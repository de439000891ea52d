import Mathlib.Data.List.Induction
import Lucida.Lib.Runs
import Lucida.Session.Room

namespace Lucida.Session
open Lib Web

section
variable {C D : Type}

-- Everything buffered was sent, and only a client with a baseline buffers.
structure Keeps (P : Nat → C → Prop) (bridge : Bridge C) : Prop where
  sent : ∀ entry ∈ bridge.pendingSequenced, ∀ command, entry.command = some command → P entry.seq command
  started : bridge.lastAppliedSeq = none → bridge.pendingSequenced = []

-- What the stale arm hands on was sent, at or below the baseline.
def Stale (P : Nat → C → Prop) (effects : List (Effect C D)) : Prop :=
  ∀ last seq command, .redelivered last seq command ∈ effects → P seq command ∧ ∃ base, last = some base ∧ seq ≤ base

theorem Stale.append {effects later : List (Effect C D)} (left : Stale P effects) (right : Stale P later) :
    Stale P (effects ++ later) := by
  intro last seq command member
  rcases List.mem_append.mp member with early | late
  · exact left last seq command early
  · exact right last seq command late

theorem Stale.nil : Stale P ([] : List (Effect C D)) := fun _ _ _ member => absurd member List.not_mem_nil

variable [WireCommand C] {bridge : Bridge C}

theorem deliverStale_stale (baseline : bridge.lastAppliedSeq = some last) (old : seq ≤ last) {command : Option C}
    (sent : ∀ c, command = some c → P seq c) : Stale P (bridge.deliverStale (D := D) seq command) := by
  intro base seq' command' member
  unfold Bridge.deliverStale at member
  split at member
  · cases member
  · split at member
    · split at member
      · cases List.mem_singleton.mp member
        exact ⟨sent _ rfl,last,baseline,old⟩
      · cases member
    · cases member

theorem deliver_stale (bridge : Bridge C) (seq : Nat) (command : Option C) :
    Stale P (bridge.deliver (D := D) seq command).2 := by
  cases command with
  | none => exact .nil
  | some command =>
    intro last seq' command' member
    cases List.mem_singleton.mp member

-- Induction on the queue: every entry is handed to the stale arm, applied, or
-- left in the buffer.
theorem drainLoop_keeps {queue : List (PendingSequenced C)} (baseline : bridge.lastAppliedSeq = some last)
    (sent : ∀ entry ∈ queue, ∀ command, entry.command = some command → P entry.seq command) (now : Nat) :
    Keeps P (bridge.drainLoop (D := D) now queue).1 ∧ Stale P (bridge.drainLoop (D := D) now queue).2 := by
  induction queue generalizing bridge last with
  | nil => exact ⟨⟨fun _ member => absurd member List.not_mem_nil,fun _ => rfl⟩,.nil⟩
  | cons next rest ih =>
    have later : ∀ entry ∈ rest, ∀ command, entry.command = some command → P entry.seq command :=
      fun entry member => sent entry (List.mem_cons_of_mem _ member)
    unfold Bridge.drainLoop
    simp only [baseline]
    by_cases stale : next.seq ≤ last
    · simp only [stale,if_true]
      obtain ⟨keeps,effects⟩ := ih baseline later
      exact ⟨keeps,(deliverStale_stale baseline stale (sent next List.mem_cons_self)).append effects⟩
    · by_cases contiguous : next.seq = last+1
      · rw [if_neg stale,if_pos contiguous]
        obtain ⟨keeps,effects⟩ := ih (bridge.deliver_same (D := D) next.seq next.command).1 later
        exact ⟨keeps,(deliver_stale bridge next.seq next.command).append effects⟩
      · rw [if_neg stale,if_neg contiguous]
        refine ⟨⟨?_,?_⟩,.nil⟩
        · rw [Bridge.schedule_pending]
          exact sent
        · rw [Bridge.schedule_last]
          intro none
          cases none

theorem drain_keeps (keeps : Keeps P bridge) (now : Nat) :
    Keeps P (bridge.drainPendingSequenced (D := D) now).1 ∧ Stale P (bridge.drainPendingSequenced (D := D) now).2 := by
  unfold Bridge.drainPendingSequenced
  by_cases empty : bridge.pendingSequenced = []
  · simp only [empty,List.isEmpty_nil,if_true]
    exact ⟨keeps,.nil⟩
  · have standing : bridge.pendingSequenced.isEmpty = false := by simpa using empty
    simp only [standing,Bool.false_eq_true,if_false]
    obtain ⟨last,baseline⟩ := Option.ne_none_iff_exists'.mp fun none => empty (keeps.started none)
    obtain ⟨kept,effects⟩ := drainLoop_keeps (D := D) baseline
      (fun entry member => keeps.sent entry (Bridge.mem_sortPending.mp member)) now
    refine ⟨?_,effects⟩
    split
    · exact ⟨kept.sent,kept.started⟩
    · exact kept

theorem handle_keeps (keeps : Keeps P bridge) (command : Option C) (sent : ∀ c, command = some c → P seq c) (now : Nat) :
    Keeps P (bridge.handleSequenced (D := D) now (some seq) command).1 ∧
      Stale P (bridge.handleSequenced (D := D) now (some seq) command).2 := by
  unfold Bridge.handleSequenced
  cases baseline : bridge.lastAppliedSeq with
  | none =>
    refine ⟨⟨keeps.sent,fun none => by cases none⟩,?_⟩
    intro last seq' command' member
    cases command with
    | none => cases member
    | some command => cases List.mem_singleton.mp member
  | some last =>
    simp only
    by_cases stale : seq ≤ last
    · rw [if_pos stale]
      exact ⟨keeps,deliverStale_stale baseline stale sent⟩
    · by_cases contiguous : seq = last+1
      · rw [if_neg stale,if_pos contiguous]
        obtain ⟨moved,pending⟩ := bridge.deliver_same (D := D) seq command
        have delivered : Keeps P (bridge.deliver (D := D) seq command).1 :=
          ⟨pending.symm ▸ keeps.sent,fun none => by rw [moved] at none; cases none⟩
        obtain ⟨kept,effects⟩ := drain_keeps (D := D) delivered now
        exact ⟨kept,(deliver_stale bridge seq command).append effects⟩
      · rw [if_neg stale,if_neg contiguous]
        refine ⟨⟨?_,?_⟩,.nil⟩
        · rw [Bridge.schedule_pending]
          intro entry member
          rcases Bridge.mem_bufferSequenced member with old | rfl
          · exact keeps.sent entry old
          · exact sent
        · rw [Bridge.schedule_last]
          intro none
          unfold Bridge.bufferSequenced at none
          simp only at none
          split at none <;> rw [baseline] at none <;> cases none

theorem ack_keeps (keeps : Keeps P bridge) (seq now : Nat) :
    Keeps P (bridge.onAck (D := D) now (some seq)).1 ∧ Stale P (bridge.onAck (D := D) now (some seq)).2 := by
  have pruned : Keeps P {bridge.prunePendingLocalCommands now with
      pendingLocalCommands := (bridge.prunePendingLocalCommands now).pendingLocalCommands.tail} :=
    ⟨keeps.sent,keeps.started⟩
  obtain ⟨kept,effects⟩ := handle_keeps (D := D) pruned none (fun _ none => by cases none) now
  refine ⟨kept,effects.append ?_⟩
  intro last seq' command' member
  cases List.mem_singleton.mp member

theorem replay_keeps (keeps : Keeps P bridge) (replay : List C) :
    Keeps P (replay.foldl Bridge.noteDeliveredMembership bridge) := by
  induction replay generalizing bridge with
  | nil => exact keeps
  | cons command replay ih =>
    obtain ⟨last,pending,_⟩ := Bridge.note_same bridge command
    exact ih ⟨pending.symm ▸ keeps.sent,fun none => pending.trans (keeps.started (last.symm.trans none))⟩

theorem snapshot_keeps [WireDocument D] (keeps : Keeps P bridge) (seq now : Nat) (document : D) :
    Keeps P (bridge.onSnapshot now (some seq) document).1 ∧ Stale P (bridge.onSnapshot now (some seq) document).2 := by
  unfold Bridge.onSnapshot
  simp only
  split
  · have settled : Keeps P {bridge with resyncInFlight := false}.clearTimers := ⟨keeps.sent,keeps.started⟩
    exact drain_keeps settled now
  · have adopted : Keeps P (({bridge with
        lastAppliedSeq := some seq
        resyncInFlight := false
        documentDatasetIds := some (WireDocument.manifestIds document)}.clearTimers).prunePendingLocalCommands now) :=
      ⟨keeps.sent,fun none => by cases none⟩
    obtain ⟨kept,effects⟩ := drain_keeps (D := D) (replay_keeps adopted _) now
    refine ⟨kept,Stale.append ?_ effects⟩
    intro last seq' command' member
    rcases List.mem_cons.mp member with same | member
    · cases same
    · obtain ⟨_,_,same⟩ := List.mem_map.mp member
      cases same

omit [WireCommand C] in
theorem request_keeps (keeps : Keeps P bridge) (now : Nat) :
    Keeps P (bridge.requestResync (D := D) now).1 ∧ Stale P (bridge.requestResync (D := D) now).2 := by
  unfold Bridge.requestResync
  split
  · exact ⟨keeps,.nil⟩
  · refine ⟨⟨keeps.sent,keeps.started⟩,?_⟩
    intro last seq command member
    cases List.mem_singleton.mp member

end

section
open Lucida.Core Content
variable {R : Type}

-- What `ServerBinding` keeps of the import, and the seq of that open.
structure ServerBinding (R : Type) where
  datasetOpened : DatasetOpened R
  since : Nat

-- A broadcast. `manifestAt` and `catalogAt` say of which document the manifest
-- and the catalog of an open event were read.
structure Dispatch (R : Type) where
  seq : Nat
  command : DocumentCommand R
  manifestAt : Nat
  catalogAt : Nat

structure Host (R : Type) where
  log : List (DocumentCommand R)
  serverBindings : HashMap DatasetId (ServerBinding R)
  sent : List (Dispatch R)

inductive HostStep (R : Type) where
  | opens (event : DatasetOpened R)
  | dedups (id : DatasetId)
  | losesRace (id : DatasetId)
  | applies (command : DocumentCommand R)

def Host.fresh (R : Type) : Host R := ⟨[],∅,[]⟩

def Host.seq (host : Host R) : Nat := host.log.length

-- What a client's handlers hold: the document, and the registered fetch
-- pipelines.
structure Shown (R : Type) where
  document : DocumentState R
  fetch : DatasetId → Option FetchSource

structure Viewer (R : Type) where
  bridge : Bridge (DocumentCommand R)
  shown : Shown R

-- Anything the server has sent may arrive, in any order and more than once: a
-- broadcast is named by its place in `sent`, a snapshot by its seq.
inductive ViewerEvent (R : Type) where
  | broadcast (now index : Nat)
  | ack (now n : Nat)
  | snapshot (now s : Nat)
  | graceFires (now : Nat)
  | retryFires (now : Nat)
  | sends (now : Nat) (command : DocumentCommand R)

variable [Numeric R]

def Host.documentAt (host : Host R) (n : Nat) : DocumentState R :=
  (host.log.take n).foldl DocumentState.apply (.default R)

def Host.document (host : Host R) : DocumentState R := host.documentAt host.seq

def Host.findLoadedBinding (host : Host R) (id : DatasetId) : Option (ServerBinding R) :=
  if host.document.manifests.contains id then host.serverBindings.lookup id else none

-- `Session::apply` and the broadcast of its command.
def Host.applies (host : Host R) (command : DocumentCommand R) : Host R :=
  {host with
    log := host.log ++ [command]
    sent := host.sent ++ [⟨host.seq+1,command,host.seq+1,host.seq+1⟩]}

def Host.advance (host : Host R) : HostStep R → Option (Host R)
  | .opens event =>
    if (host.findLoadedBinding event.manifest.datasetId).isSome then none
    else
      let opened := host.applies (.datasetOpened event)
      some {opened with serverBindings := opened.serverBindings.insert event.manifest.datasetId ⟨event,host.seq+1⟩}
  -- the rebroadcasts are stamped with the seq as it stands and apply nothing;
  -- only the dedup one reads the manifest of the document
  | .dedups id => do
    let binding ← host.findLoadedBinding id
    let manifest ← host.document.manifests.get? id
    return {host with sent :=
      host.sent ++ [⟨host.seq,.datasetOpened {binding.datasetOpened with manifest},host.seq,binding.since⟩]}
  | .losesRace id => do
    let binding ← host.findLoadedBinding id
    return {host with sent :=
      host.sent ++ [⟨host.seq,.datasetOpened binding.datasetOpened,binding.since,binding.since⟩]}
  | .applies command => some (host.applies command)

def Shown.command (shown : Shown R) (command : DocumentCommand R) : Shown R where
  document := shown.document.apply command
  fetch := match command with
    -- `ensureDatasetRegistered` skips a dataset that has a pipeline
    | .datasetOpened event =>
      Function.update shown.fetch event.manifest.datasetId
        ((shown.fetch event.manifest.datasetId).getD event.fetch)
    | .removeDataset id => Function.update shown.fetch id none
    | _ => shown.fetch

def Shown.perform (shown : Shown R) : Effect (DocumentCommand R) (DocumentState R) → Shown R
  | .onSnapshot _ document => {
      document
      fetch := fun id => (document.manifests.get? id).map fun manifest =>
        (shown.fetch id).getD (.proxied (manifest.images.map ImageSpec.imageId))}
  | .onCommand _ command => shown.command command
  | .redelivered _ _ command => shown.command command
  | .replayed _ command => shown.command command
  | _ => shown

def Viewer.handle (host : Host R) (bridge : Bridge (DocumentCommand R)) :
    ViewerEvent R → Option (Bridge (DocumentCommand R) × List (Effect (DocumentCommand R) (DocumentState R)))
  | .broadcast now index => (host.sent[index]?).map fun dispatch =>
    bridge.handleSequenced now (some dispatch.seq) (some dispatch.command)
  | .ack now n => if n ≤ host.seq then some (bridge.onAck now (some n)) else none
  | .snapshot now s => if s ≤ host.seq then some (bridge.onSnapshot now (some s) (host.documentAt s)) else none
  | .graceFires now => some (bridge.graceFires now)
  | .retryFires now => some (bridge.retryFires now)
  | .sends now command => some (bridge.sendCommand now command)

-- The optimistic apply of a command about to be sent.
def Shown.beforehand (shown : Shown R) : ViewerEvent R → Shown R
  | .sends _ command => shown.command command
  | _ => shown

structure Desk (R : Type) where
  host : Host R
  viewer : Viewer R

inductive DeskEvent (R : Type) where
  | host (step : HostStep R)
  | viewer (event : ViewerEvent R)

def Desk.advance (desk : Desk R) : DeskEvent R → Option (Desk R)
  | .host step => (desk.host.advance step).map fun host => {desk with host}
  | .viewer event => (Viewer.handle desk.host desk.viewer.bridge event).map fun handled =>
    {desk with viewer := ⟨handled.1,handled.2.foldl Shown.perform (desk.viewer.shown.beforehand event)⟩}

def Desk.Step (desk : Desk R) (event : DeskEvent R) (desk' : Desk R) : Prop := desk.advance event = some desk'

def Desk.fresh (R : Type) : Desk R := ⟨.fresh R,⟨Bridge.new _,⟨.default R,fun _ => none⟩⟩⟩

-- The server's document at `last` still has what the dispatched event was read
-- from: the manifest of `manifestAt`, the catalog of `catalogAt`.
def Host.Unchanged (host : Host R) (dispatch : Dispatch R) (id : DatasetId) (last : Nat) : Prop :=
  (host.documentAt last).manifests.get? id = (host.documentAt dispatch.manifestAt).manifests.get? id ∧
    (host.documentAt last).assetCatalogs.get? id = (host.documentAt dispatch.catalogAt).assetCatalogs.get? id

-- The manifest and the catalog are the server's at `last`, and a registered
-- pipeline keeps its fetch source. The document itself holds no fetch source.
def Harmless (host : Host R) (last : Nat) (id : DatasetId) (before after : Shown R) : Prop :=
  after.document.manifests.get? id = (host.documentAt last).manifests.get? id ∧
    after.document.assetCatalogs.get? id = (host.documentAt last).assetCatalogs.get? id ∧
    ∀ fetch, before.fetch id = some fetch → after.fetch id = some fetch

def Keyed (doc : DocumentState R) : Prop := ∀ id manifest, doc.manifests.get? id = some manifest → manifest.datasetId = id

theorem apply_keyed {doc : DocumentState R} (keyed : Keyed doc) (command : DocumentCommand R) :
    Keyed (doc.apply command) := by
  intro id manifest found
  rw [DocumentState.apply_manifests] at found
  split at found
  · rw [IndexMap.get?_insert] at found
    split at found
    · rename_i same
      cases found
      exact same.symm
    · exact keyed id manifest found
  · rw [IndexMap.get?_mapEntries] at found
    obtain ⟨_,_,rfl⟩ := Option.map_eq_some_iff.mp found
    rfl
  · rw [IndexMap.get?_modify] at found
    split at found
    · rename_i same
      obtain ⟨old,there,rfl⟩ := Option.map_eq_some_iff.mp found
      exact (keyed _ old there).trans same.symm
    · exact keyed id manifest found
  · exact keyed id manifest found

theorem documentAt_keyed (host : Host R) (n : Nat) : Keyed (host.documentAt n) := by
  unfold Host.documentAt
  induction host.log.take n using List.reverseRecOn with
  | nil =>
    intro id manifest found
    cases found
  | append_singleton log command ih =>
    rw [List.foldl_append]
    exact apply_keyed ih command

theorem applies_past (host : Host R) (command : DocumentCommand R) (past : n ≤ host.seq) :
    (host.applies command).documentAt n = host.documentAt n := by
  simp only [Host.documentAt,Host.applies,List.take_append_of_le_length past]

theorem applies_document (host : Host R) (command : DocumentCommand R) :
    (host.applies command).documentAt (host.seq+1) = host.document.apply command := by
  have whole : (host.log ++ [command]).take (host.log.length+1) = host.log ++ [command] :=
    List.take_of_length_le (by simp)
  simp only [Host.documentAt,Host.applies,Host.document,Host.seq,whole,List.take_length,List.foldl_append,
    List.foldl_cons,List.foldl_nil]

-- The document at `n` has this manifest (and the one at `m` this catalog) for
-- the dataset of the event.
structure ReadFrom (host : Host R) (event : DatasetOpened R) (n m : Nat) : Prop where
  manifestPast : n ≤ host.seq
  catalogPast : m ≤ host.seq
  manifest : (host.documentAt n).manifests.get? event.manifest.datasetId = some event.manifest
  catalog : (host.documentAt m).assetCatalogs.get? event.manifest.datasetId = some event.catalog

theorem ReadFrom.applies {host : Host R} (read : ReadFrom host event n m) (command : DocumentCommand R) :
    ReadFrom (host.applies command) event n m := by
  have grown : (host.applies command).seq = host.seq+1 := by simp [Host.applies,Host.seq]
  refine ⟨?_,?_,?_,?_⟩
  · rw [grown]
    exact Nat.le_succ_of_le read.manifestPast
  · rw [grown]
    exact Nat.le_succ_of_le read.catalogPast
  · rw [applies_past host command read.manifestPast]
    exact read.manifest
  · rw [applies_past host command read.catalogPast]
    exact read.catalog

theorem opened_read (host : Host R) (event : DatasetOpened R) :
    ReadFrom (host.applies (.datasetOpened event)) event (host.seq+1) (host.seq+1) := by
  have grown : (host.applies (.datasetOpened event)).seq = host.seq+1 := by simp [Host.applies,Host.seq]
  refine ⟨grown.ge,grown.ge,?_,?_⟩
  · rw [applies_document,DocumentState.apply_manifests,IndexMap.get?_insert,if_pos rfl]
  · rw [applies_document,DocumentState.apply_assetCatalogs,IndexMap.get?_insert,if_pos rfl]

structure Host.Sound (host : Host R) : Prop where
  bindings : ∀ id binding, host.serverBindings.lookup id = some binding →
    binding.datasetOpened.manifest.datasetId = id ∧ ReadFrom host binding.datasetOpened binding.since binding.since
  sent : ∀ dispatch ∈ host.sent, ∀ event, dispatch.command = .datasetOpened event →
    ReadFrom host event dispatch.manifestAt dispatch.catalogAt

theorem applies_sound {host : Host R} (sound : host.Sound) (command : DocumentCommand R) : (host.applies command).Sound := by
  refine ⟨fun id binding found => ?_,fun dispatch member event same => ?_⟩
  · obtain ⟨own,read⟩ := sound.bindings id binding found
    exact ⟨own,read.applies command⟩
  · rcases List.mem_append.mp member with old | new
    · exact (sound.sent dispatch old event same).applies command
    · cases List.mem_singleton.mp new
      cases same
      exact opened_read host event

theorem rebroadcast_sound {host : Host R} (sound : host.Sound) (read : ReadFrom host event n m) :
    Host.Sound {host with sent := host.sent ++ [⟨seq,.datasetOpened event,n,m⟩]} := by
  refine ⟨fun id binding found => ?_,fun dispatch member event' same => ?_⟩
  · obtain ⟨own,known⟩ := sound.bindings id binding found
    exact ⟨own,known.manifestPast,known.catalogPast,known.manifest,known.catalog⟩
  · rcases List.mem_append.mp member with old | new
    · have known := sound.sent dispatch old event' same
      exact ⟨known.manifestPast,known.catalogPast,known.manifest,known.catalog⟩
    · cases List.mem_singleton.mp new
      cases same
      exact ⟨read.manifestPast,read.catalogPast,read.manifest,read.catalog⟩

theorem find_binding {host : Host R} {id : DatasetId} (sound : host.Sound) (found : host.findLoadedBinding id = some binding) :
    binding.datasetOpened.manifest.datasetId = id ∧ ReadFrom host binding.datasetOpened binding.since binding.since := by
  unfold Host.findLoadedBinding at found
  split at found
  · exact sound.bindings id binding found
  · cases found

-- The dedup rebroadcast puts the document's manifest into the binding's event.
theorem dedup_read {host : Host R} {id : DatasetId} (sound : host.Sound) (found : host.findLoadedBinding id = some binding)
    (current : host.document.manifests.get? id = some manifest) :
    ReadFrom host {binding.datasetOpened with manifest} host.seq binding.since := by
  obtain ⟨own,read⟩ := find_binding sound found
  have named : manifest.datasetId = id := documentAt_keyed host host.seq id manifest current
  refine ⟨Nat.le_refl _,read.catalogPast,?_,?_⟩
  · rw [named]
    exact current
  · rw [named,← own]
    exact read.catalog

theorem host_step_sound {host host' : Host R} (sound : host.Sound) (step : host.advance move = some host') : host'.Sound := by
  cases move with
  | opens event =>
    simp only [Host.advance] at step
    split at step
    · cases step
    · cases step
      have applied := applies_sound sound (.datasetOpened event)
      have opened := opened_read host event
      refine ⟨fun id binding found => ?_,fun dispatch member event' same => ?_⟩
      · by_cases same : id = event.manifest.datasetId
        · subst same
          rw [Finmap.lookup_insert] at found
          cases found
          exact ⟨rfl,opened.manifestPast,opened.catalogPast,opened.manifest,opened.catalog⟩
        · rw [Finmap.lookup_insert_of_ne _ same] at found
          obtain ⟨own,known⟩ := applied.bindings id binding found
          exact ⟨own,known.manifestPast,known.catalogPast,known.manifest,known.catalog⟩
      · have known := applied.sent dispatch member event' same
        exact ⟨known.manifestPast,known.catalogPast,known.manifest,known.catalog⟩
  | dedups id =>
    obtain ⟨binding,found,rest⟩ := Option.bind_eq_some_iff.mp step
    obtain ⟨manifest,current,same⟩ := Option.bind_eq_some_iff.mp rest
    cases same
    exact rebroadcast_sound sound (dedup_read sound found current)
  | losesRace id =>
    obtain ⟨binding,found,same⟩ := Option.bind_eq_some_iff.mp step
    cases same
    exact rebroadcast_sound sound (find_binding sound found).2
  | applies command =>
    cases step
    exact applies_sound sound command

def Host.Sent (host : Host R) (seq : Nat) (command : DocumentCommand R) : Prop :=
  ∃ dispatch ∈ host.sent, dispatch.seq = seq ∧ dispatch.command = command

theorem host_step_sent {host host' : Host R} (step : host.advance move = some host') (sent : host.Sent seq command) :
    host'.Sent seq command := by
  obtain ⟨dispatch,member,same⟩ := sent
  refine ⟨dispatch,?_,same⟩
  cases move with
  | opens event =>
    simp only [Host.advance] at step
    split at step
    · cases step
    · cases step
      exact List.mem_append_left _ member
  | dedups id =>
    obtain ⟨_,_,rest⟩ := Option.bind_eq_some_iff.mp step
    obtain ⟨_,_,same⟩ := Option.bind_eq_some_iff.mp rest
    cases same
    exact List.mem_append_left _ member
  | losesRace id =>
    obtain ⟨_,_,same⟩ := Option.bind_eq_some_iff.mp step
    cases same
    exact List.mem_append_left _ member
  | applies command =>
    cases step
    exact List.mem_append_left _ member

theorem handle_traced {host : Host R} {bridge bridge' : Bridge (DocumentCommand R)} (keeps : Keeps host.Sent bridge)
    (handled : Viewer.handle host bridge event = some (bridge',effects)) :
    Keeps host.Sent bridge' ∧ Stale host.Sent effects := by
  have timers : ∀ b : Bridge (DocumentCommand R), b.pendingSequenced = bridge.pendingSequenced →
      b.lastAppliedSeq = bridge.lastAppliedSeq → Keeps host.Sent b := by
    intro b pending last
    exact ⟨pending.symm ▸ keeps.sent,fun none => pending.trans (keeps.started (last.symm.trans none))⟩
  cases event with
  | broadcast now index =>
    obtain ⟨dispatch,found,same⟩ := Option.map_eq_some_iff.mp handled
    have sent : ∀ command, some dispatch.command = some command → host.Sent dispatch.seq command := by
      intro command equal
      cases equal
      exact ⟨dispatch,List.mem_of_getElem? found,rfl,rfl⟩
    have kept := handle_keeps (D := DocumentState R) keeps (some dispatch.command) sent now
    rw [same] at kept
    exact kept
  | ack now n =>
    simp only [Viewer.handle] at handled
    split at handled
    · have kept := ack_keeps (D := DocumentState R) keeps n now
      rw [Option.some.inj handled] at kept
      exact kept
    · cases handled
  | snapshot now s =>
    simp only [Viewer.handle] at handled
    split at handled
    · have kept := snapshot_keeps keeps s now (host.documentAt s)
      rw [Option.some.inj handled] at kept
      exact kept
    · cases handled
  | graceFires now =>
    have same := Option.some.inj handled
    simp only [Bridge.graceFires] at same
    split at same
    · cases same
      exact ⟨timers _ rfl rfl,.nil⟩
    · have kept := request_keeps (D := DocumentState R) (timers {bridge with resyncGraceTimer := none} rfl rfl) now
      rw [same] at kept
      exact kept
  | retryFires now =>
    have same := Option.some.inj handled
    simp only [Bridge.retryFires] at same
    split at same
    · cases same
      exact ⟨timers _ rfl rfl,.nil⟩
    · have kept := request_keeps (D := DocumentState R) (timers {bridge with resyncRetryTimer := none} rfl rfl) now
      rw [same] at kept
      exact kept
  | sends now command =>
    cases Option.some.inj handled
    refine ⟨timers _ rfl rfl,?_⟩
    intro last seq command' member
    cases List.mem_singleton.mp member

structure Desk.Sound (desk : Desk R) : Prop where
  host : desk.host.Sound
  viewer : Keeps desk.host.Sent desk.viewer.bridge

theorem fresh_sound : (Desk.fresh R).Sound := by
  refine ⟨⟨?_,?_⟩,?_,fun _ => rfl⟩
  · intro id binding found
    cases found
  · exact fun dispatch member => absurd member List.not_mem_nil
  · exact fun entry member => absurd member List.not_mem_nil

theorem desk_step_sound {desk desk' : Desk R} (sound : desk.Sound) (step : desk.Step event desk') : desk'.Sound := by
  cases event with
  | host move =>
    obtain ⟨host,advanced,same⟩ := Option.map_eq_some_iff.mp step
    cases same
    refine ⟨host_step_sound sound.host advanced,?_,sound.viewer.started⟩
    intro entry member command same
    exact host_step_sent advanced (sound.viewer.sent entry member command same)
  | viewer event =>
    obtain ⟨handled,taken,same⟩ := Option.map_eq_some_iff.mp step
    cases same
    exact ⟨sound.host,(handle_traced sound.viewer taken).1⟩

theorem desk_runs_sound {desk : Desk R} (path : Runs Desk.Step (Desk.fresh R) events desk) : desk.Sound := by
  refine path.preserves (P := Desk.Sound) ?_ fresh_sound
  intro before event after sound step
  exact desk_step_sound sound step

theorem opened_shown (shown : Shown R) (event : DatasetOpened R) :
    (shown.command (.datasetOpened event)).document.manifests.get? event.manifest.datasetId = some event.manifest ∧
      (shown.command (.datasetOpened event)).document.assetCatalogs.get? event.manifest.datasetId = some event.catalog ∧
      ∀ fetch, shown.fetch event.manifest.datasetId = some fetch →
        (shown.command (.datasetOpened event)).fetch event.manifest.datasetId = some fetch := by
  refine ⟨?_,?_,fun fetch registered => ?_⟩
  · simp only [Shown.command,DocumentState.apply_manifests,IndexMap.get?_insert,if_true]
  · simp only [Shown.command,DocumentState.apply_assetCatalogs,IndexMap.get?_insert,if_true]
  · simp only [Shown.command,Function.update_self,registered,Option.getD_some]

-- Whatever the client delivers through the stale arm was dispatched at or below
-- its baseline, and is harmless exactly when nothing sequenced since it was read
-- has changed that dataset.
theorem stale_open_is_harmless {desk : Desk R} (path : Runs Desk.Step (Desk.fresh R) events desk)
    (handled : Viewer.handle desk.host desk.viewer.bridge event = some (bridge,effects))
    (delivered : effects = before ++ .redelivered baseline seq (.datasetOpened opened)::after) :
    ∃ last, baseline = some last ∧ seq ≤ last ∧
      (∃ dispatch ∈ desk.host.sent, dispatch.seq = seq ∧ dispatch.command = .datasetOpened opened) ∧
      ∀ dispatch ∈ desk.host.sent, dispatch.command = .datasetOpened opened →
        (Harmless desk.host last opened.manifest.datasetId
            (before.foldl Shown.perform (desk.viewer.shown.beforehand event))
            ((before.foldl Shown.perform (desk.viewer.shown.beforehand event)).perform
              (.redelivered baseline seq (.datasetOpened opened))) ↔
          desk.host.Unchanged dispatch opened.manifest.datasetId last) := by
  have sound := desk_runs_sound path
  have member : Effect.redelivered baseline seq (.datasetOpened opened) ∈ effects := by
    rw [delivered]
    exact List.mem_append_right _ List.mem_cons_self
  obtain ⟨sent,last,same,old⟩ := (handle_traced sound.viewer handled).2 _ _ _ member
  refine ⟨last,same,old,sent,fun dispatch among carries => ?_⟩
  have read := sound.host.sent dispatch among opened carries
  obtain ⟨manifest,catalog,fetch⟩ := opened_shown (before.foldl Shown.perform (desk.viewer.shown.beforehand event)) opened
  unfold Harmless Host.Unchanged
  rw [read.manifest,read.catalog]
  constructor
  · intro harmless
    exact ⟨harmless.1.symm.trans manifest,harmless.2.1.symm.trans catalog⟩
  · intro unchanged
    exact ⟨manifest.trans unchanged.1.symm,catalog.trans unchanged.2.symm,fetch⟩

end

section
open Lucida.Core

def plateOpened : DatasetOpened Int :=
  ⟨⟨"plate","Plate",.single,[],[],[],[],none,[]⟩,.proxied [],⟨[]⟩⟩

-- The plate is opened, something happens to it, and then another open of it
-- completes that had started before the first. The client joins with a snapshot.
def lostRace (meanwhile : List (DeskEvent Int)) (s : Nat) : List (DeskEvent Int) :=
  .host (.opens plateOpened)::meanwhile ++ [.host (.losesRace "plate"),.viewer (.snapshot 0 s)]

theorem stale_open_is_harmless_without_a_rename :
    ∃ desk, Runs Desk.Step (Desk.fresh Int) (lostRace [] 1) desk ∧
      (Viewer.handle desk.host desk.viewer.bridge (.broadcast 1 1)).map Prod.snd =
        some [.redelivered (some 1) 1 (.datasetOpened plateOpened)] ∧
      Harmless desk.host 1 "plate" desk.viewer.shown
        (desk.viewer.shown.perform (.redelivered (some 1) 1 (.datasetOpened plateOpened))) := by
  have reached : (drive Desk.advance (Desk.fresh Int) (lostRace [] 1)).isSome = true := by decide
  obtain ⟨desk,driven⟩ := Option.isSome_iff_exists.mp reached
  have path : Runs Desk.Step (Desk.fresh Int) (lostRace [] 1) desk := drive_runs (fun _ _ _ taken => taken) driven
  have answer : (Viewer.handle desk.host desk.viewer.bridge (.broadcast 1 1)).map Prod.snd =
      some [.redelivered (some 1) 1 (.datasetOpened plateOpened)] := by
    cases driven
    rfl
  obtain ⟨handled,taken,effects⟩ := Option.map_eq_some_iff.mp answer
  obtain ⟨last,same,_,_,exact⟩ := stale_open_is_harmless path taken (effects.trans (List.nil_append _).symm)
  cases same
  refine ⟨desk,path,answer,(exact ⟨1,.datasetOpened plateOpened,1,1⟩ ?_ rfl).mpr ?_⟩
  · cases driven
    exact List.mem_cons_of_mem _ List.mem_cons_self
  · exact ⟨rfl,rfl⟩

-- With a rename in between, the rebroadcast still carries the name of the import,
-- and the client takes it.
theorem lost_race_undoes_a_rename :
    ∃ desk, Runs Desk.Step (Desk.fresh Int) (lostRace [.host (.applies (.renameDataset "plate" "Kidney"))] 2) desk ∧
      (Viewer.handle desk.host desk.viewer.bridge (.broadcast 1 2)).map Prod.snd =
        some [.redelivered (some 2) 2 (.datasetOpened plateOpened)] ∧
      ¬Harmless desk.host 2 "plate" desk.viewer.shown
        (desk.viewer.shown.perform (.redelivered (some 2) 2 (.datasetOpened plateOpened))) := by
  have reached : (drive Desk.advance (Desk.fresh Int)
      (lostRace [.host (.applies (.renameDataset "plate" "Kidney"))] 2)).isSome = true := by decide
  obtain ⟨desk,driven⟩ := Option.isSome_iff_exists.mp reached
  refine ⟨desk,drive_runs (fun _ _ _ taken => taken) driven,?_,?_⟩
  · cases driven
    rfl
  · cases driven
    intro harmless
    have names := congrArg (Option.map Content.DatasetManifest.name) harmless.1
    revert names
    decide

end
end Lucida.Session
