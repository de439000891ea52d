import Lucida.Lib.Runs
import Lucida.Web.Bridge

namespace Lucida.Web
open Content Lib

abbrev ClientId := Nat

-- The server's side: command `n` takes document `n-1` to document `n`.
structure History (C D : Type) (apply : D → C → D) where
  document : Nat → D
  command : Nat → C
  sender : Nat → ClientId
  applies : ∀ n, document (n+1) = apply (document n) (command (n+1))

inductive Message where
  | broadcast (n : Nat)
  | ack (n : Nat)
  | snapshot (s : Nat)

section
variable {C D : Type} {apply : D → C → D}

-- `broadcast_applied_command`: the sender gets the ack, everyone else the command.
def History.Emits (history : History C D apply) (me : ClientId) : Message → Prop
  | .broadcast n => 0 < n ∧ history.sender n ≠ me
  | .ack n => 0 < n ∧ history.sender n = me
  | .snapshot _ => True

-- What the handlers hold, with the seqs applied since the snapshot at `base`.
-- A stale open delivered again is left out.
structure App (D : Type) where
  document : D
  base : Nat
  applied : List Nat

def App.perform (apply : D → C → D) (app : App D) : Effect C D → App D
  | .onSnapshot seq document => ⟨document,seq,[]⟩
  | .onCommand seq command => {app with
      document := apply app.document command
      applied := app.applied ++ seq.toList}
  | .replayed _ command => {app with document := apply app.document command}
  | _ => app

structure Client (C D : Type) where
  bridge : Bridge C
  app : App D

inductive Event where
  | message (now : Nat) (message : Message)
  | graceFires (now : Nat)
  | retryFires (now : Nat)

variable [WireCommand C]

def Client.handle [WireDocument D] (history : History C D apply) (bridge : Bridge C) : Event → Bridge C × List (Effect C D)
  | .message now (.broadcast n) => bridge.handleSequenced now (some n) (some (history.command n))
  | .message now (.ack n) => bridge.onAck now (some n)
  | .message now (.snapshot s) => bridge.onSnapshot now (some s) (history.document s)
  | .graceFires now => bridge.graceFires now
  | .retryFires now => bridge.retryFires now

def Client.advance [WireDocument D] (history : History C D apply) (client : Client C D) (event : Event) : Client C D :=
  let (bridge,effects) := Client.handle history client.bridge event
  ⟨bridge,effects.foldl (App.perform apply) client.app⟩

def Client.Step [WireDocument D] (history : History C D apply) (me : ClientId) (client : Client C D) (event : Event)
    (client' : Client C D) : Prop :=
  (∀ now message, event = .message now message → history.Emits me message) ∧
    client' = client.advance history event

def Client.joined [WireDocument D] (history : History C D apply) (app : App D) (now s : Nat) : Client C D :=
  Client.advance history ⟨Bridge.new C,app⟩ (.message now (.snapshot s))

def App.AtSeq (history : History C D apply) (app : App D) (last : Nat) : Prop :=
  app.base ≤ last ∧ app.document = history.document last ∧
    app.applied = List.range' (app.base+1) (last-app.base)

def Buffered (history : History C D apply) (pending : List (PendingSequenced C)) : Prop :=
  ∀ entry ∈ pending, entry.command = some (history.command entry.seq)

omit [WireCommand C] in
theorem atSeq_next {history : History C D apply} {app : App D} (synced : app.AtSeq history last) :
    (app.perform apply (.onCommand (some (last+1)) (history.command (last+1)))).AtSeq history (last+1) := by
  obtain ⟨behind,document,applied⟩ := synced
  refine ⟨Nat.le_succ_of_le behind,?_,?_⟩
  · change apply app.document (history.command (last+1)) = _
    rw [document,history.applies last]
  · change app.applied ++ [last+1] = List.range' (app.base+1) (last+1-app.base)
    have grown : last+1-app.base = last-app.base+1 := by omega
    have newest : app.base+1+(last-app.base) = last+1 := by omega
    rw [applied,grown,List.range'_1_concat,newest]

theorem stale_perform (bridge : Bridge C) (seq : Nat) (command : Option C) (app : App D) :
    (bridge.deliverStale seq command).foldl (App.perform apply) app = app := by
  unfold Bridge.deliverStale
  split
  · rfl
  · split
    · split <;> rfl
    · rfl

-- A bridge and its app in step: everything up to `last`, nothing of its own.
structure Synced (history : History C D apply) (bridge : Bridge C) (app : App D) (last : Nat) : Prop where
  baseline : bridge.lastAppliedSeq = some last
  state : app.AtSeq history last
  pending : Buffered history bridge.pendingSequenced
  quiet : bridge.pendingLocalCommands = []

theorem Synced.deliver {history : History C D apply} (synced : Synced history bridge app last) :
    Synced history (bridge.deliver (D := D) (last+1) (some (history.command (last+1)))).1
      ((bridge.deliver (last+1) (some (history.command (last+1)))).2.foldl (App.perform apply) app) (last+1) := by
  obtain ⟨same,pending,local_⟩ :=
    Bridge.note_same {bridge with lastAppliedSeq := some (last+1)} (history.command (last+1))
  refine ⟨same,atSeq_next synced.state,?_,?_⟩
  · change Buffered history (Bridge.noteDeliveredMembership _ _).pendingSequenced
    rw [pending]
    exact synced.pending
  · exact local_.trans synced.quiet

-- Induction on the sorted buffer: a stale entry changes nothing, the next one
-- extends the document, and the loop stops at the first hole.
theorem drainLoop_synced {history : History C D apply} (synced : Synced history bridge app last)
    (entries : Buffered history queue) (now : Nat) :
    ∃ last', last ≤ last' ∧ Synced history (bridge.drainLoop (D := D) now queue).1
      ((bridge.drainLoop now queue).2.foldl (App.perform apply) app) last' := by
  induction queue generalizing bridge app last with
  | nil => exact ⟨last,Nat.le_refl _,synced.baseline,synced.state,by simp [Bridge.drainLoop,Buffered],synced.quiet⟩
  | cons next rest ih =>
    have later : Buffered history rest := fun entry member => entries entry (List.mem_cons_of_mem _ member)
    have command := entries next List.mem_cons_self
    unfold Bridge.drainLoop
    simp only [synced.baseline]
    by_cases stale : next.seq ≤ last
    · simp only [stale,if_true]
      obtain ⟨last',grown,after⟩ := ih synced later
      refine ⟨last',grown,?_⟩
      rw [List.foldl_append,stale_perform]
      exact after
    · by_cases contiguous : next.seq = last+1
      · simp only [contiguous,command]
        obtain ⟨last',grown,after⟩ := ih synced.deliver later
        refine ⟨last',by omega,?_⟩
        have above : ¬last+1 ≤ last := by omega
        simp only [above,if_false,if_true]
        rw [List.foldl_append]
        exact after
      · simp only [stale,contiguous,if_false]
        refine ⟨last,Nat.le_refl _,?_,synced.state,?_,?_⟩
        · rw [Bridge.schedule_last]
        · rw [Bridge.schedule_pending]
          exact entries
        · rw [Bridge.schedule_local]
          exact synced.quiet

theorem drain_synced {history : History C D apply} (synced : Synced history bridge app last) (now : Nat) :
    ∃ last', last ≤ last' ∧ Synced history (bridge.drainPendingSequenced (D := D) now).1
      ((bridge.drainPendingSequenced now).2.foldl (App.perform apply) app) last' := by
  unfold Bridge.drainPendingSequenced
  split
  · exact ⟨last,Nat.le_refl _,synced⟩
  · have entries : Buffered history (Bridge.sortPending bridge.pendingSequenced) :=
      fun entry member => synced.pending entry (Bridge.mem_sortPending.mp member)
    obtain ⟨last',grown,after⟩ := drainLoop_synced synced entries now
    refine ⟨last',grown,?_⟩
    simp only
    split
    · exact ⟨after.baseline,after.state,after.pending,after.quiet⟩
    · exact after

theorem broadcast_synced {history : History C D apply} (synced : Synced history bridge app last) (now n : Nat) :
    ∃ last', last ≤ last' ∧
      Synced history (bridge.handleSequenced (D := D) now (some n) (some (history.command n))).1
        ((bridge.handleSequenced now (some n) (some (history.command n))).2.foldl (App.perform apply) app) last' := by
  unfold Bridge.handleSequenced
  simp only [synced.baseline]
  by_cases stale : n ≤ last
  · simp only [stale,if_true,stale_perform]
    exact ⟨last,Nat.le_refl _,synced⟩
  · by_cases contiguous : n = last+1
    · subst contiguous
      simp only [stale,if_false,if_true]
      obtain ⟨last',grown,after⟩ := drain_synced synced.deliver now
      refine ⟨last',by omega,?_⟩
      rw [List.foldl_append]
      exact after
    · simp only [stale,contiguous,if_false]
      refine ⟨last,Nat.le_refl _,?_,synced.state,?_,?_⟩
      · rw [Bridge.schedule_last]
        unfold Bridge.bufferSequenced
        simp only
        split <;> exact synced.baseline
      · rw [Bridge.schedule_pending]
        intro entry member
        rcases Bridge.mem_bufferSequenced member with old | rfl
        · exact synced.pending entry old
        · rfl
      · rw [Bridge.schedule_local]
        unfold Bridge.bufferSequenced
        simp only
        split <;> exact synced.quiet

-- A snapshot behind the baseline is skipped; any other becomes the baseline.
theorem snapshot_synced [WireDocument D] {history : History C D apply} {bridge : Bridge C} {app : App D}
    (state : ∀ last, bridge.lastAppliedSeq = some last → app.AtSeq history last)
    (pending : Buffered history bridge.pendingSequenced) (quiet : bridge.pendingLocalCommands = []) (now s : Nat) :
    ∃ last', (∀ last, bridge.lastAppliedSeq = some last → last ≤ last') ∧
      Synced history (bridge.onSnapshot now (some s) (history.document s)).1
        ((bridge.onSnapshot now (some s) (history.document s)).2.foldl (App.perform apply) app) last' := by
  unfold Bridge.onSnapshot
  simp only [Option.getD_some]
  split
  · rename_i behind
    obtain ⟨last,baseline,_⟩ := (Option.any_eq_true _ _).mp behind
    have synced : Synced history {bridge with resyncInFlight := false}.clearTimers app last :=
      ⟨baseline,state last baseline,pending,quiet⟩
    obtain ⟨last',grown,after⟩ := drain_synced synced now
    exact ⟨last',fun before same => Option.some.inj (baseline.symm.trans same) ▸ grown,after⟩
  · rename_i fresh
    have empty : (Bridge.prunePendingLocalCommands now {bridge with
        lastAppliedSeq := some s
        resyncInFlight := false
        documentDatasetIds := some (WireDocument.manifestIds (history.document s))}.clearTimers).pendingLocalCommands
          = [] := by
      simp [Bridge.prunePendingLocalCommands,Bridge.clearTimers,quiet]
    simp only [empty,List.map_nil,List.foldl_nil,List.cons_append,List.nil_append,
      List.foldl_cons]
    have synced : Synced history (Bridge.prunePendingLocalCommands now {bridge with
        lastAppliedSeq := some s
        resyncInFlight := false
        documentDatasetIds := some (WireDocument.manifestIds (history.document s))}.clearTimers)
        (app.perform apply (.onSnapshot s (history.document s))) s :=
      ⟨rfl,⟨Nat.le_refl _,rfl,by simp [App.perform]⟩,pending,empty⟩
    obtain ⟨last',grown,after⟩ := drain_synced synced now
    refine ⟨last',fun last baseline => ?_,after⟩
    have ahead : last ≤ s := by simpa [baseline] using fresh
    exact ahead.trans grown

omit [WireCommand C] in
theorem request_synced {history : History C D apply} (synced : Synced history bridge app last) (now : Nat) :
    Synced history (bridge.requestResync (D := D) now).1
      ((bridge.requestResync (C := C) now).2.foldl (App.perform apply) app) last := by
  unfold Bridge.requestResync
  split <;> exact ⟨synced.baseline,synced.state,synced.pending,synced.quiet⟩

theorem advance_synced [WireDocument D] {history : History C D apply} (watches : ∀ n, history.sender n ≠ me)
    (synced : Synced history client.bridge client.app last) (step : Client.Step history me client event client') :
    ∃ last', last ≤ last' ∧ Synced history client'.bridge client'.app last' := by
  obtain ⟨emitted,rfl⟩ := step
  have current : ∀ before, client.bridge.lastAppliedSeq = some before → before = last :=
    fun before same => Option.some.inj (same.symm.trans synced.baseline)
  cases event with
  | message now message =>
    cases message with
    | broadcast n => exact broadcast_synced synced now n
    | ack n => exact absurd (emitted now (.ack n) rfl).2 (watches n)
    | snapshot s =>
      obtain ⟨last',grown,after⟩ := snapshot_synced (fun before same => current before same ▸ synced.state)
        synced.pending synced.quiet now s
      exact ⟨last',grown last synced.baseline,after⟩
  | graceFires now =>
    refine ⟨last,Nat.le_refl _,?_⟩
    have fired : Synced history {client.bridge with resyncGraceTimer := none} client.app last :=
      ⟨synced.baseline,synced.state,synced.pending,synced.quiet⟩
    simp only [Client.advance,Client.handle,Bridge.graceFires]
    split
    · exact fired
    · exact request_synced fired now
  | retryFires now =>
    refine ⟨last,Nat.le_refl _,?_⟩
    have fired : Synced history {client.bridge with resyncRetryTimer := none} client.app last :=
      ⟨synced.baseline,synced.state,synced.pending,synced.quiet⟩
    simp only [Client.advance,Client.handle,Bridge.retryFires]
    split
    · exact fired
    · exact request_synced fired now

theorem runs_synced [WireDocument D] {history : History C D apply} (watches : ∀ n, history.sender n ≠ me)
    (path : Runs (Client.Step history me) (Client.joined history app now s) events client) :
    ∃ last, Synced history client.bridge client.app last := by
  have joined : ∃ last, Synced history (Client.joined history app now s).bridge
      (Client.joined history app now s).app last := by
    have unstarted : ∀ last, (Bridge.new C).lastAppliedSeq = some last → app.AtSeq history last :=
      fun last baseline => by cases baseline
    obtain ⟨last,_,synced⟩ := snapshot_synced unstarted (fun entry member => by cases member) rfl now s
    exact ⟨last,synced⟩
  refine path.preserves (P := fun client => ∃ last, Synced history client.bridge client.app last) ?_ joined
  intro before event after synced step
  obtain ⟨last,synced⟩ := synced
  obtain ⟨last',_,next⟩ := advance_synced watches synced step
  exact ⟨last',next⟩

-- Between snapshots the seqs applied are consecutive, the document is the
-- server's at the baseline, and the baseline never goes back.
theorem client_follows_the_history [WireDocument D] {history : History C D apply}
    (watches : ∀ n, history.sender n ≠ me)
    (path : Runs (Client.Step history me) (Client.joined history app now s) events client) :
    ∃ last, client.bridge.lastAppliedSeq = some last ∧ client.app.document = history.document last ∧
      client.app.base ≤ last ∧ client.app.applied = List.range' (client.app.base+1) (last-client.app.base) ∧
      ∀ event client', Client.Step history me client event client' →
        ∃ last', client'.bridge.lastAppliedSeq = some last' ∧ last ≤ last' := by
  obtain ⟨last,synced⟩ := runs_synced watches path
  refine ⟨last,synced.baseline,synced.state.2.1,synced.state.1,synced.state.2.2,?_⟩
  intro event client' step
  obtain ⟨last',grown,after⟩ := advance_synced watches synced step
  exact ⟨last',after.baseline,grown⟩

end

def membership (ids : List DatasetId) : Kind → List DatasetId
  | .datasetOpened (some id) => if id ∈ ids then ids else ids ++ [id]
  | .removeDataset (some id) => ids.filter (· ≠ id)
  | _ => ids

def openedFirst : History Kind (List DatasetId) membership where
  document n := if n = 0 then [] else ["plate"]
  command n := if n = 1 then .datasetOpened (some "plate") else .other
  sender _ := 1
  applies n := by
    cases n with
    | zero => rfl
    | succ n => rfl

-- Command 2 overtakes command 1 and waits for it.
theorem client_follows_the_history_around_a_hole :
    ∃ client, Runs (Client.Step openedFirst 0) (Client.joined openedFirst ⟨[],0,[]⟩ 0 0)
        [.message 1 (.broadcast 2),.message 2 (.broadcast 1)] client ∧
      client.bridge.lastAppliedSeq = some 2 ∧ client.app.document = openedFirst.document 2 ∧
      client.app.applied = [1,2] := by
  let joined := Client.joined openedFirst ⟨[],0,[]⟩ 0 0
  let overtaken := joined.advance openedFirst (.message 1 (.broadcast 2))
  let repaired := overtaken.advance openedFirst (.message 2 (.broadcast 1))
  have emits : ∀ n, 0 < n → openedFirst.Emits 0 (.broadcast n) := fun n positive => ⟨positive,Nat.one_ne_zero⟩
  have path : Runs (Client.Step openedFirst 0) joined
      [.message 1 (.broadcast 2),.message 2 (.broadcast 1)] repaired := by
    refine Runs.cons (show Client.Step openedFirst 0 joined _ overtaken from ⟨?_,rfl⟩) (.one ⟨?_,rfl⟩)
    · intro now message same
      cases same
      exact emits 2 (by decide)
    · intro now message same
      cases same
      exact emits 1 (by decide)
  obtain ⟨last,baseline,document,_⟩ := client_follows_the_history (fun _ => Nat.one_ne_zero) path
  have two : repaired.bridge.lastAppliedSeq = some 2 := rfl
  cases Option.some.inj (two.symm.trans baseline)
  exact ⟨repaired,path,two,document,rfl⟩

end Lucida.Web
