import Lucida.Lib.Runs
import Lucida.Web.Bridge

namespace Lucida.Web
open Content Lib

def requestSnapshotMinIntervalMs : Nat := 1000

section
variable {C D : Type}

def Effect.isRequest : Effect C D → Bool
  | .requestSnapshot => true
  | _ => false

-- One open connection: the bridge, the clock, the snapshots answering a request
-- that have not arrived yet, and when the server last answered one.
structure Link (C D : Type) where
  bridge : Bridge C
  now : Nat
  answers : List (Nat × D)
  lastServed : Option Nat

-- The answer of a timer event is the server's, `none` when it ignores the
-- request. A snapshot may also come unasked, as after a lag.
inductive Signal (C D : Type) where
  | sequenced (seq : Nat) (command : C)
  | ack (seq : Nat)
  | answered (index : Nat)
  | pushed (seq : Nat) (document : D)
  | graceFires (answer : Option (Nat × D))
  | retryFires (answer : Option (Nat × D))
  | passes (elapsed : Nat)
  | sends (command : C)

def Link.connected (C D : Type) (now : Nat) : Link C D := ⟨Bridge.new C,now,[],none⟩

def Link.serve (link : Link C D) (answer : Option (Nat × D)) (fired : Bridge C × List (Effect C D)) : Link C D :=
  if fired.2.any Effect.isRequest then
    {link with
      bridge := fired.1
      answers := link.answers ++ answer.toList
      lastServed := if answer.isSome then some link.now else link.lastServed}
  else {link with bridge := fired.1}

variable [WireCommand C] [WireDocument D]

def Link.advance (link : Link C D) : Signal C D → Option (Link C D)
  | .sequenced seq command =>
    some {link with bridge := (link.bridge.handleSequenced (D := D) link.now (some seq) (some command)).1}
  | .ack seq => some {link with bridge := (link.bridge.onAck (D := D) link.now (some seq)).1}
  | .answered index =>
    match link.answers[index]? with
    | none => none
    | some (seq,document) => some {link with
        bridge := (link.bridge.onSnapshot link.now (some seq) document).1
        answers := link.answers.eraseIdx index}
  | .pushed seq document => some {link with bridge := (link.bridge.onSnapshot link.now (some seq) document).1}
  | .graceFires answer =>
    if link.bridge.resyncGraceTimer.any (· ≤ link.now) then
      some (link.serve answer (link.bridge.graceFires link.now))
    else none
  | .retryFires answer =>
    if link.bridge.resyncRetryTimer.any (· ≤ link.now) then
      some (link.serve answer (link.bridge.retryFires link.now))
    else none
  | .passes elapsed => some {link with now := link.now+elapsed}
  | .sends command => some {link with bridge := (link.bridge.sendCommand (D := D) link.now command).1}

def Link.Step (link : Link C D) (signal : Signal C D) (link' : Link C D) : Prop := link.advance signal = some link'

def Link.Repairable (link : Link C D) : Prop :=
  link.bridge.pendingSequenced ≠ [] →
    link.bridge.resyncGraceTimer.isSome ∨ link.bridge.resyncRetryTimer.isSome ∨ link.answers ≠ []

-- A request counts as outstanding: `scheduleResync` will not arm anything.
def Link.Outstanding (link : Link C D) : Prop :=
  link.bridge.resyncInFlight = true ∧ link.now-link.bridge.lastResyncRequestAt < resyncRetryMs

def Link.Opens (link : Link C D) (seq : Nat) : Prop :=
  link.bridge.pendingSequenced = [] ∧ ∃ last, link.bridge.lastAppliedSeq = some last ∧ last+1 < seq

-- The server's throttle: it ignores a request that follows the last one it
-- answered too closely, and answers any other.
def Link.throttles (link : Link C D) : Signal C D → Bool
  | .graceFires answer => answer.isNone = link.lastServed.any fun served => link.now-served < requestSnapshotMinIntervalMs
  | .retryFires answer => answer.isNone = link.lastServed.any fun served => link.now-served < requestSnapshotMinIntervalMs
  | _ => true

-- No new gap while a request counts as outstanding that nobody will answer.
def Link.Clear (link : Link C D) : Signal C D → Prop
  | .sequenced seq _ => link.Opens seq → link.Outstanding → link.answers ≠ []
  | .ack seq => link.Opens seq → link.Outstanding → link.answers ≠ []
  | _ => True

end

section
variable {C D : Type} {b b' : Bridge C} {answers : List (Nat × D)}

structure Timers where
  inFlight : Bool
  requestedAt : Nat
  grace : Option Nat
  retry : Option Nat

def Bridge.timers (b : Bridge C) : Timers :=
  ⟨b.resyncInFlight,b.lastResyncRequestAt,b.resyncGraceTimer,b.resyncRetryTimer⟩

def Timers.Waits (t : Timers) (now : Nat) : Prop := t.inFlight = true ∧ now-t.requestedAt < resyncRetryMs

-- The timers are fit for a standing gap: one is armed, an answer is coming, or
-- the next `scheduleResync` will arm one. A grace window that will find the
-- request outstanding has the retry behind it, and the retry fires when the
-- request no longer counts.
structure Timers.Ready (t : Timers) (now : Nat) (answers : List (Nat × D)) : Prop where
  window : t.grace.isSome → t.Waits now → t.retry.isSome
  deadline : ∀ due, t.retry = some due → due = t.requestedAt+resyncRetryMs
  standing : t.grace.isSome ∨ t.retry.isSome ∨ answers ≠ [] ∨ ¬t.Waits now

structure Armed (b : Bridge C) (now : Nat) (answers : List (Nat × D)) : Prop where
  standing : b.pendingSequenced ≠ [] →
    b.timers.grace.isSome ∨ b.timers.retry.isSome ∨ answers ≠ []
  idle : b.pendingSequenced = [] → b.timers.grace = none ∧ b.timers.retry = none
  window : b.timers.grace.isSome → b.timers.Waits now → b.timers.retry.isSome
  deadline : ∀ due, b.timers.retry = some due → due = b.timers.requestedAt+resyncRetryMs

theorem schedule_armed (ready : b.timers.Ready now answers) (pending : b.pendingSequenced ≠ []) :
    Armed (b.scheduleResync now) now answers := by
  unfold Bridge.scheduleResync
  by_cases grace : b.resyncGraceTimer.isSome = true
  · rw [if_pos grace]
    exact ⟨fun _ => .inl grace,fun empty => absurd empty pending,ready.window,ready.deadline⟩
  · rw [if_neg grace]
    by_cases waits : b.resyncInFlight ∧ now-b.lastResyncRequestAt < resyncRetryMs
    · rw [if_pos waits]
      refine ⟨fun _ => ?_,fun empty => absurd empty pending,ready.window,ready.deadline⟩
      rcases ready.standing with armed | armed | coming | free
      · exact .inl armed
      · exact .inr (.inl armed)
      · exact .inr (.inr coming)
      · exact absurd waits free
    · rw [if_neg waits]
      exact ⟨fun _ => .inl rfl,fun empty => absurd empty pending,fun _ again => absurd again waits,ready.deadline⟩

variable [WireCommand C]

theorem note_timers (b : Bridge C) (command : C) : (b.noteDeliveredMembership command).timers = b.timers := by
  unfold Bridge.noteDeliveredMembership
  split <;> rfl

theorem deliver_timers (b : Bridge C) (seq : Nat) (command : Option C) :
    (b.deliver (D := D) seq command).1.timers = b.timers := by
  cases command with
  | none => rfl
  | some command => exact note_timers _ command

-- Induction on the sorted buffer: the loop runs dry with the timers untouched,
-- or stops at a hole and schedules.
theorem drainLoop_timers (ready : b.timers.Ready now answers) (queue : List (PendingSequenced C)) :
    ((b.drainLoop (D := D) now queue).1.pendingSequenced = [] ∧
        (b.drainLoop (D := D) now queue).1.timers = b.timers) ∨
      ((b.drainLoop (D := D) now queue).1.pendingSequenced ≠ [] ∧
        Armed (b.drainLoop (D := D) now queue).1 now answers) := by
  induction queue generalizing b with
  | nil => exact .inl ⟨rfl,rfl⟩
  | cons next rest ih =>
    unfold Bridge.drainLoop
    cases baseline : b.lastAppliedSeq with
    | none => exact ih ready
    | some last =>
      simp only
      by_cases stale : next.seq ≤ last
      · simp only [stale,if_true]
        exact ih ready
      · by_cases contiguous : next.seq = last+1
        · rw [if_neg stale,if_pos contiguous]
          have same := deliver_timers (D := D) b next.seq next.command
          have later := ih (same.symm ▸ ready)
          rw [same] at later
          exact later
        · rw [if_neg stale,if_neg contiguous]
          refine .inr ⟨?_,schedule_armed ready (List.cons_ne_nil _ _)⟩
          simp

omit [WireCommand C] in
theorem Armed.ready (armed : Armed b now answers) (pending : b.pendingSequenced ≠ []) :
    b.timers.Ready now answers := by
  refine ⟨armed.window,armed.deadline,?_⟩
  rcases armed.standing pending with grace | retry | coming
  · exact .inl grace
  · exact .inr (.inl retry)
  · exact .inr (.inr (.inl coming))

-- A drain of a standing gap either empties the buffer and clears both timers or
-- leaves a gap that is still provided for.
theorem drain_armed (ready : b.pendingSequenced ≠ [] → b.timers.Ready now answers)
    (idle : b.pendingSequenced = [] → Armed b now answers) :
    Armed (b.drainPendingSequenced (D := D) now).1 now answers := by
  unfold Bridge.drainPendingSequenced
  by_cases empty : b.pendingSequenced = []
  · simpa [empty] using idle empty
  · have some : b.pendingSequenced.isEmpty = false := by simpa using empty
    simp only [some]
    rcases drainLoop_timers (D := D) (ready empty) (Bridge.sortPending b.pendingSequenced) with
      ⟨dry,same⟩ | ⟨standing,armed⟩
    · simp only [dry,List.isEmpty_nil,if_true]
      refine ⟨fun more => absurd dry more,fun _ => ⟨rfl,rfl⟩,?_,?_⟩
      · intro grace; cases grace
      · intro due armed; cases armed
    · have more : (b.drainLoop (D := D) now (Bridge.sortPending b.pendingSequenced)).1.pendingSequenced.isEmpty =
          false := by simpa using standing
      simp only [more]
      exact armed

omit [WireCommand C] in
theorem request_armed (pending : b.pendingSequenced ≠ []) (answer : List (Nat × D))
    (window : b.timers.Waits now → b.timers.retry.isSome)
    (deadline : ∀ due, b.timers.retry = some due → due = b.timers.requestedAt+resyncRetryMs) :
    Armed (b.requestResync (D := D) now).1 now answer := by
  unfold Bridge.requestResync
  split
  · rename_i waits
    exact ⟨fun _ => .inr (.inl (window waits)),fun empty => absurd empty pending,fun _ => window,deadline⟩
  · refine ⟨fun _ => .inr (.inl rfl),fun empty => absurd empty pending,fun _ _ => rfl,?_⟩
    intro due armed
    cases armed
    rfl

omit [WireCommand C] in
theorem buffer_timers (b : Bridge C) (entry : PendingSequenced C) :
    (b.bufferSequenced entry).timers = b.timers ∧ (b.bufferSequenced entry).pendingSequenced ≠ [] := by
  unfold Bridge.bufferSequenced
  simp only
  split
  · rename_i full
    refine ⟨by simp only [Bridge.timers],fun empty => ?_⟩
    dsimp only at empty
    have short := List.drop_eq_nil_iff.mp empty
    have sorted : (Bridge.sortPending (b.pendingSequenced ++ [entry])).length = (b.pendingSequenced ++ [entry]).length :=
      List.length_insertionSort _ _
    have positive : 0 < maxPendingSequenced := by decide
    rw [sorted] at short
    omega
  · exact ⟨rfl,by simp⟩

-- A message that is buffered finds the timers as the standing gap left them,
-- unless it is the one that opens the gap.
theorem handle_armed (armed : Armed b now answers)
    (clear : b.pendingSequenced = [] → (∃ last, b.lastAppliedSeq = some last ∧ last+1 < seq) →
      b.timers.Waits now → answers ≠ []) (command : Option C) :
    Armed (b.handleSequenced (D := D) now (some seq) command).1 now answers := by
  unfold Bridge.handleSequenced
  cases baseline : b.lastAppliedSeq with
  | none => exact ⟨armed.standing,armed.idle,armed.window,armed.deadline⟩
  | some last =>
    simp only
    by_cases stale : seq ≤ last
    · rw [if_pos stale]
      exact armed
    · by_cases contiguous : seq = last+1
      · rw [if_neg stale,if_pos contiguous]
        have timers := deliver_timers (D := D) b seq command
        have pending := (b.deliver_same (D := D) seq command).2
        apply drain_armed
        · intro more
          rw [pending] at more
          rw [timers]
          exact armed.ready more
        · intro empty
          rw [pending] at empty
          have off := armed.idle empty
          refine ⟨fun more => absurd (pending.trans empty) more,fun _ => timers ▸ off,?_,?_⟩
          · rw [timers]
            exact armed.window
          · rw [timers]
            exact armed.deadline
      · rw [if_neg stale,if_neg contiguous]
        obtain ⟨timers,pending⟩ := buffer_timers b ⟨seq,command⟩
        apply schedule_armed
        · rw [timers]
          by_cases empty : b.pendingSequenced = []
          · refine ⟨armed.window,armed.deadline,?_⟩
            by_cases waits : b.timers.Waits now
            · exact .inr (.inr (.inl (clear empty ⟨last,baseline,by omega⟩ waits)))
            · exact .inr (.inr (.inr waits))
          · exact armed.ready empty
        · exact pending

theorem ack_armed (armed : Armed b now answers)
    (clear : b.pendingSequenced = [] → (∃ last, b.lastAppliedSeq = some last ∧ last+1 < seq) →
      b.timers.Waits now → answers ≠ []) :
    Armed (b.onAck (D := D) now (some seq)).1 now answers := by
  have pruned : Armed {b.prunePendingLocalCommands now with
      pendingLocalCommands := (b.prunePendingLocalCommands now).pendingLocalCommands.tail} now answers :=
    ⟨armed.standing,armed.idle,armed.window,armed.deadline⟩
  exact handle_armed (D := D) pruned clear none

theorem replay_timers (replay : List C) (b : Bridge C) :
    (replay.foldl Bridge.noteDeliveredMembership b).timers = b.timers ∧
      (replay.foldl Bridge.noteDeliveredMembership b).pendingSequenced = b.pendingSequenced := by
  induction replay generalizing b with
  | nil => exact ⟨rfl,rfl⟩
  | cons command replay ih =>
    obtain ⟨timers,pending⟩ := ih (b.noteDeliveredMembership command)
    exact ⟨timers.trans (note_timers b command),pending.trans (Bridge.note_same b command).2.1⟩

-- Both arms of a snapshot disarm everything before they drain, so the drain arms
-- again whatever gap is left.
theorem disarmed_drain_armed (off : b.timers = ⟨false,requestedAt,none,none⟩) :
    Armed (b.drainPendingSequenced (D := D) now).1 now answers := by
  apply drain_armed
  · intro _
    rw [off]
    refine ⟨?_,?_,.inr (.inr (.inr ?_))⟩
    · intro grace
      cases grace
    · intro due retry
      cases retry
    · intro waits
      cases waits.1
  · intro empty
    refine ⟨fun more => absurd empty more,fun _ => ?_,?_,?_⟩
    · rw [off]
      exact ⟨rfl,rfl⟩
    · intro grace
      rw [off] at grace
      cases grace
    · intro due retry
      rw [off] at retry
      cases retry

theorem snapshot_armed [WireDocument D] (b : Bridge C) (now seq : Nat) (document : D) :
    Armed (b.onSnapshot now (some seq) document).1 now answers := by
  unfold Bridge.onSnapshot
  simp only
  split
  · exact disarmed_drain_armed rfl
  · exact disarmed_drain_armed (replay_timers _ _).1

omit [WireCommand C] in
-- A grace window or a retry that finds the buffer empty was cleared with it; one
-- that finds a gap requests, or waits behind the retry.
theorem grace_armed (armed : Armed b now answers) (due : b.resyncGraceTimer.isSome) (later : List (Nat × D)) :
    Armed (b.graceFires (D := D) now).1 now later := by
  unfold Bridge.graceFires
  simp only
  split
  · rename_i empty
    have off := (armed.idle (by simpa using empty)).1
    rw [show b.resyncGraceTimer = none from off] at due
    cases due
  · rename_i more
    apply request_armed
    · simpa using more
    · exact armed.window due
    · exact armed.deadline

omit [WireCommand C] in
theorem retry_armed (armed : Armed b now answers) (fires : b.resyncRetryTimer.any (· ≤ now)) (later : List (Nat × D)) :
    Armed (b.retryFires (D := D) now).1 now later := by
  obtain ⟨due,retry,past⟩ := (Option.any_eq_true _ _).mp fires
  have expired : ¬b.timers.Waits now := by
    have exact := armed.deadline due retry
    have passed : due ≤ now := by simpa using past
    intro waits
    have young := waits.2
    omega
  unfold Bridge.retryFires
  simp only
  split
  · rename_i empty
    have off := (armed.idle (by simpa using empty)).2
    rw [show b.resyncRetryTimer = none from off] at retry
    cases retry
  · rename_i more
    apply request_armed
    · simpa using more
    · exact fun waits => absurd waits expired
    · intro due none
      cases none

omit [WireCommand C] in
theorem serve_armed (link : Link C D) (answer : Option (Nat × D)) (fired : Bridge C × List (Effect C D))
    (armed : ∀ later : List (Nat × D), Armed fired.1 link.now later) :
    Armed (link.serve answer fired).bridge (link.serve answer fired).now (link.serve answer fired).answers := by
  unfold Link.serve
  split <;> exact armed _

def Link.Armed (link : Link C D) : Prop := Web.Armed link.bridge link.now link.answers

theorem initial_armed (C D : Type) (now : Nat) : (Link.connected C D now).Armed := by
  refine ⟨fun more => absurd rfl more,fun _ => ⟨rfl,rfl⟩,?_,?_⟩
  · intro grace
    cases grace
  · intro due retry
    cases retry

theorem step_armed [WireDocument D] {link link' : Link C D} (armed : link.Armed) (clear : link.Clear signal)
    (step : link.Step signal link') : link'.Armed := by
  unfold Link.Step at step
  cases signal with
  | sequenced seq command =>
    cases step
    exact handle_armed armed (fun empty past => clear ⟨empty,past⟩) (some command)
  | ack seq =>
    cases step
    exact ack_armed armed fun empty past => clear ⟨empty,past⟩
  | answered index =>
    unfold Link.advance at step
    simp only at step
    split at step
    · cases step
    · cases step
      exact snapshot_armed _ _ _ _
  | pushed seq document =>
    cases step
    exact snapshot_armed _ _ _ _
  | graceFires answer =>
    unfold Link.advance at step
    simp only at step
    split at step
    · rename_i fires
      cases step
      obtain ⟨due,grace,_⟩ := (Option.any_eq_true _ _).mp fires
      exact serve_armed link answer _ (grace_armed armed (by rw [grace]; rfl))
    · cases step
  | retryFires answer =>
    unfold Link.advance at step
    simp only at step
    split at step
    · rename_i fires
      cases step
      exact serve_armed link answer _ (retry_armed armed fires)
    · cases step
  | passes elapsed =>
    cases step
    refine ⟨armed.standing,armed.idle,fun grace waits => armed.window grace ⟨waits.1,?_⟩,armed.deadline⟩
    have young := waits.2
    simp only at young
    omega
  | sends command =>
    cases step
    exact ⟨armed.standing,armed.idle,armed.window,armed.deadline⟩

-- The step that the condition excludes leaves the gap to nobody: the drain that
-- emptied the buffer cleared both timers, and the flag kept them off.
theorem handle_strands (armed : Armed b now answers) (empty : b.pendingSequenced = [])
    (baseline : b.lastAppliedSeq = some last) (past : last+1 < seq) (waits : b.timers.Waits now) (command : Option C) :
    (b.handleSequenced (D := D) now (some seq) command).1.pendingSequenced ≠ [] ∧
      (b.handleSequenced (D := D) now (some seq) command).1.timers = b.timers := by
  obtain ⟨timers,pending⟩ := buffer_timers b ⟨seq,command⟩
  have stale : ¬seq ≤ last := by omega
  have contiguous : ¬seq = last+1 := by omega
  have noGrace : ¬(b.bufferSequenced ⟨seq,command⟩).resyncGraceTimer.isSome = true := by
    have off : (b.bufferSequenced ⟨seq,command⟩).timers.grace = none := timers ▸ (armed.idle empty).1
    rw [show (b.bufferSequenced ⟨seq,command⟩).resyncGraceTimer = none from off]
    simp
  have outstanding : (b.bufferSequenced ⟨seq,command⟩).timers.Waits now := timers ▸ waits
  have held : (b.bufferSequenced ⟨seq,command⟩).scheduleResync now = b.bufferSequenced ⟨seq,command⟩ := by
    unfold Bridge.scheduleResync
    rw [if_neg noGrace]
    exact if_pos outstanding
  unfold Bridge.handleSequenced
  simp only [baseline,stale,contiguous,if_false,held]
  exact ⟨pending,timers⟩

omit [WireCommand C] in
theorem Armed.stranded {link' : Link C D} (armed : Armed b now answers) (empty : b.pendingSequenced = [])
    (standing : link'.bridge.pendingSequenced ≠ []) (same : link'.bridge.timers = b.timers)
    (unanswered : link'.answers = []) : ¬link'.Repairable := by
  have off := armed.idle empty
  rw [← same] at off
  intro repair
  rcases repair standing with grace | retry | coming
  · rw [show link'.bridge.resyncGraceTimer = none from off.1] at grace
    cases grace
  · rw [show link'.bridge.resyncRetryTimer = none from off.2] at retry
    cases retry
  · exact coming unanswered

theorem step_clear [WireDocument D] {link link' : Link C D} (armed : link.Armed) (step : link.Step signal link')
    (repair : link'.Repairable) : link.Clear signal := by
  unfold Link.Step at step
  cases signal with
  | sequenced seq command =>
    cases step
    intro opens waits unanswered
    obtain ⟨empty,last,baseline,past⟩ := opens
    obtain ⟨standing,same⟩ := handle_strands (D := D) armed empty baseline past waits (some command)
    refine absurd repair (armed.stranded empty ?_ ?_ ?_)
    · exact standing
    · exact same
    · exact unanswered
  | ack seq =>
    cases step
    intro opens waits unanswered
    obtain ⟨empty,last,baseline,past⟩ := opens
    have pruned : Web.Armed {link.bridge.prunePendingLocalCommands link.now with
        pendingLocalCommands := (link.bridge.prunePendingLocalCommands link.now).pendingLocalCommands.tail}
        link.now link.answers := ⟨armed.standing,armed.idle,armed.window,armed.deadline⟩
    obtain ⟨standing,same⟩ := handle_strands (D := D) pruned empty baseline past waits none
    refine absurd repair (armed.stranded empty ?_ ?_ ?_)
    · exact standing
    · exact same
    · exact unanswered
  | _ => trivial

-- In every run in which no gap opens behind an unanswered request, a standing
-- gap has a timer or a snapshot on its way, and the first step to break this is
-- one that opens such a gap.
theorem gap_is_repaired [WireDocument D] {link : Link C D}
    (path : Runs (fun link signal link' => Link.Step link signal link' ∧ link.Clear signal) (Link.connected C D now)
      signals link) :
    link.Repairable ∧ ∀ signal link', link.Step signal link' → (link'.Repairable ↔ link.Clear signal) := by
  have armed : link.Armed := by
    refine path.preserves (P := Link.Armed) ?_ (initial_armed C D now)
    intro before signal after held step
    exact step_armed held step.2 step.1
  refine ⟨armed.standing,fun signal link' step => ⟨step_clear armed step,fun clear => ?_⟩⟩
  exact (step_armed armed clear step).standing

end

section
open Signal

-- The server ignores the request for the hole at 1, and the retry stands behind it.
theorem gap_is_repaired_after_an_ignored_request :
    ∃ link, Runs (fun link signal link' => Link.Step link signal link' ∧ link.Clear signal)
        (Link.connected Kind (List DatasetId) 0)
        [pushed 0 [],sequenced 2 .other,passes 200,graceFires none] link ∧
      link.bridge.pendingSequenced ≠ [] ∧ link.answers = [] ∧ link.Repairable := by
  have path : ∃ link, Runs (fun link signal link' => Link.Step link signal link' ∧ link.Clear signal)
      (Link.connected Kind (List DatasetId) 0)
      [pushed 0 [],sequenced 2 .other,passes 200,graceFires none] link ∧
      link.bridge.pendingSequenced.length = 1 ∧ link.answers = [] := by
    refine ⟨_,.cons ⟨rfl,trivial⟩ (.cons ⟨rfl,?_⟩ (.cons ⟨rfl,trivial⟩ (.one ⟨rfl,trivial⟩))),rfl,rfl⟩
    intro _ outstanding
    cases outstanding.1
  obtain ⟨link,path,one,unanswered⟩ := path
  refine ⟨link,path,fun empty => ?_,unanswered,(gap_is_repaired path).1⟩
  rw [empty] at one
  cases one

-- A request the throttle ignores stays flagged after its own hole has filled,
-- and the next hole inside five seconds arms nothing.
def strandedRun : List (Signal Kind (List DatasetId)) :=
  [pushed 0 [],
   sequenced 2 .other,passes 200,graceFires (some (2,[])),answered 0,
   sequenced 4 .other,passes 200,graceFires none,sequenced 3 .other,
   passes 1000,sequenced 6 .other]

theorem gap_goes_unrepaired :
    ∃ link, Runs (fun link signal link' => Link.Step link signal link' ∧ link.throttles signal)
      (Link.connected Kind (List DatasetId) 0) strandedRun link ∧ ¬link.Repairable := by
  let next (link : Link Kind (List DatasetId)) (signal : Signal Kind (List DatasetId)) : Option (Link Kind (List DatasetId)) :=
    if link.throttles signal then link.advance signal else none
  have taken : ∀ link signal link', next link signal = some link' → Link.Step link signal link' ∧ link.throttles signal := by
    intro link signal link' advanced
    simp only [next] at advanced
    split at advanced
    · rename_i throttled
      exact ⟨advanced,throttled⟩
    · cases advanced
  have reached : (drive next (Link.connected Kind (List DatasetId) 0) strandedRun).isSome = true := by decide
  obtain ⟨link,driven⟩ := Option.isSome_iff_exists.mp reached
  refine ⟨link,drive_runs taken driven,?_⟩
  cases driven
  intro repair
  rcases repair (by decide) with grace | retry | coming
  · cases grace
  · cases retry
  · exact coming rfl

end
end Lucida.Web
