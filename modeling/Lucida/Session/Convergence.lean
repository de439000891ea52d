import Mathlib.Data.List.Perm.Basic
import Mathlib.Data.List.Range
import Lucida.Core.CommandCommute
import Lucida.Session.Room

namespace Lucida.Session
open Lib Web

section
variable {C D : Type} {apply : D → C → D} {timeline : Timeline C D}

structure Sees (apply : D → C → D) (timeline : Timeline C D) (bridge : Bridge C) (document : D) (last : Nat) : Prop where
  baseline : bridge.lastAppliedSeq = some last
  shows : document = timeline.shows apply last

def Buffers (timeline : Timeline C D) (pending : List (PendingSequenced C)) : Prop :=
  ∀ entry ∈ pending, entry.command = timeline.message entry.seq

variable [WireCommand C]

theorem Sees.deliver (sees : Sees apply timeline bridge document last) (lawful : timeline.Lawful apply last top)
    (calm : timeline.Calm apply last top) (more : last < top) :
    Sees apply timeline (bridge.deliver (D := D) (last+1) (timeline.message (last+1))).1
      ((bridge.deliver (last+1) (timeline.message (last+1))).2.foldl (perform apply) document) (last+1) := by
  have next := timeline.shows_next lawful calm (Nat.le_refl last) more
  cases told : timeline.message (last+1) with
  | none =>
    rw [told,Option.elim_none] at next
    exact ⟨rfl,sees.shows.trans next.symm⟩
  | some command =>
    rw [told,Option.elim_some,← sees.shows] at next
    exact ⟨(Bridge.note_same _ command).1,next.symm⟩

-- What a drain from `last` leaves: it has applied a run of seqs, and the rest
-- waits behind a hole.
structure Drained (apply : D → C → D) (timeline : Timeline C D) (queue : List (PendingSequenced C)) (last last' : Nat)
    (bridge : Bridge C) (document : D) : Prop where
  sees : Sees apply timeline bridge document last'
  grown : last ≤ last'
  split : queue.map PendingSequenced.seq =
    List.range' (last+1) (last'-last) ++ bridge.pendingSequenced.map PendingSequenced.seq
  rest : ∀ entry ∈ bridge.pendingSequenced, entry ∈ queue
  hole : last'+1 ∉ bridge.pendingSequenced.map PendingSequenced.seq

omit [WireCommand C] in
theorem Drained.cons (drained : Drained apply timeline queue (last+1) last' bridge document)
    (contiguous : next.seq = last+1) : Drained apply timeline (next::queue) last last' bridge document := by
  have grown := drained.grown
  refine ⟨drained.sees,by omega,?_,fun entry member => List.mem_cons_of_mem _ (drained.rest entry member),drained.hole⟩
  have longer : last'-last = (last'-(last+1))+1 := by omega
  rw [List.map_cons,contiguous,drained.split,longer,List.range'_succ,List.cons_append]

-- Induction on the sorted queue: the loop applies its head while that is the
-- next seq, and stops at the first that is not.
theorem drainLoop_drained (sees : Sees apply timeline bridge document last) (lawful : timeline.Lawful apply last top)
    (calm : timeline.Calm apply last top) (entries : Buffers timeline queue)
    (sorted : (queue.map PendingSequenced.seq).Pairwise (· < ·))
    (above : ∀ entry ∈ queue, last < entry.seq ∧ entry.seq ≤ top) (now : Nat) :
    ∃ last', Drained apply timeline queue last last' (bridge.drainLoop (D := D) now queue).1
      ((bridge.drainLoop now queue).2.foldl (perform apply) document) := by
  induction queue generalizing bridge document last with
  | nil =>
    refine ⟨last,⟨sees.baseline,sees.shows⟩,Nat.le_refl _,?_,?_,?_⟩
    · simp [Bridge.drainLoop]
    · simp [Bridge.drainLoop]
    · simp [Bridge.drainLoop]
  | cons next rest ih =>
    obtain ⟨first,later⟩ := List.pairwise_cons.mp sorted
    have within := above next List.mem_cons_self
    have behind : ∀ entry ∈ rest, next.seq < entry.seq :=
      fun entry member => first _ (List.mem_map.mpr ⟨entry,member,rfl⟩)
    have stale : ¬next.seq ≤ last := by omega
    unfold Bridge.drainLoop
    simp only [sees.baseline,stale,if_false]
    by_cases contiguous : next.seq = last+1
    · rw [if_pos contiguous]
      have command : next.command = timeline.message (last+1) := contiguous ▸ entries next List.mem_cons_self
      have delivered := sees.deliver lawful calm (by omega)
      obtain ⟨last',drained⟩ := ih delivered (fun n reached => lawful n (by omega)) (fun n reached => calm n (by omega))
        (fun entry member => entries entry (List.mem_cons_of_mem _ member)) later
        (fun entry member => by
          have upper := (above entry (List.mem_cons_of_mem _ member)).2
          have lower := behind entry member
          omega)
      refine ⟨last',?_⟩
      simp only [contiguous,command,List.foldl_append]
      exact drained.cons contiguous
    · rw [if_neg contiguous]
      refine ⟨last,⟨?_,sees.shows⟩,Nat.le_refl _,?_,?_,?_⟩
      · rw [Bridge.schedule_last]
      · rw [Bridge.schedule_pending,Nat.sub_self,List.range'_zero,List.nil_append]
      · simp only [Bridge.schedule_pending]
        exact fun entry member => member
      · rw [Bridge.schedule_pending]
        intro member
        obtain ⟨entry,among,same⟩ := List.mem_map.mp member
        rcases List.mem_cons.mp among with rfl | among
        · exact contiguous same
        · have lower := behind entry among
          omega

omit [WireCommand C] in
theorem sortPending_sorted (pending : List (PendingSequenced C)) (nodup : (pending.map PendingSequenced.seq).Nodup) :
    ((Bridge.sortPending pending).map PendingSequenced.seq).Pairwise (· < ·) := by
  have total : ∀ a b : PendingSequenced C, a.seq ≤ b.seq ∨ b.seq ≤ a.seq := fun a b => Nat.le_total _ _
  have trans : ∀ a b c : PendingSequenced C, a.seq ≤ b.seq → b.seq ≤ c.seq → a.seq ≤ c.seq :=
    fun a b c => Nat.le_trans
  have ordered : (Bridge.sortPending pending).Pairwise fun a b => a.seq ≤ b.seq := by
    have : Std.Total (fun a b : PendingSequenced C => a.seq ≤ b.seq) := ⟨total⟩
    have : IsTrans (PendingSequenced C) (fun a b => a.seq ≤ b.seq) := ⟨trans⟩
    exact List.pairwise_insertionSort _ _
  have distinct : ((Bridge.sortPending pending).map PendingSequenced.seq).Nodup :=
    ((List.perm_insertionSort _ pending).map _).nodup_iff.mpr nodup
  rw [List.pairwise_map]
  have apart := List.pairwise_map.mp distinct
  exact (ordered.and apart).imp fun both => Nat.lt_of_le_of_ne both.1 both.2

theorem drain_drained (sees : Sees apply timeline bridge document last) (lawful : timeline.Lawful apply last top)
    (calm : timeline.Calm apply last top) (entries : Buffers timeline bridge.pendingSequenced)
    (nodup : (bridge.pendingSequenced.map PendingSequenced.seq).Nodup)
    (above : ∀ entry ∈ bridge.pendingSequenced, last < entry.seq ∧ entry.seq ≤ top) (now : Nat) :
    ∃ last', Drained apply timeline (Bridge.sortPending bridge.pendingSequenced) last last'
      (bridge.drainPendingSequenced (D := D) now).1
      ((bridge.drainPendingSequenced now).2.foldl (perform apply) document) := by
  unfold Bridge.drainPendingSequenced
  by_cases empty : bridge.pendingSequenced = []
  · simp only [empty,List.isEmpty_nil,if_true]
    refine ⟨last,sees,Nat.le_refl _,?_,?_,?_⟩
    · simp [empty,Bridge.sortPending]
    · simp [empty]
    · simp [empty]
  · have standing : bridge.pendingSequenced.isEmpty = false := by simpa using empty
    simp only [standing,Bool.false_eq_true,if_false]
    obtain ⟨last',drained⟩ := drainLoop_drained sees lawful calm
      (fun entry member => entries entry (Bridge.mem_sortPending.mp member)) (sortPending_sorted _ nodup)
      (fun entry member => above entry (Bridge.mem_sortPending.mp member)) now
    refine ⟨last',?_⟩
    split
    · exact ⟨⟨drained.sees.baseline,drained.sees.shows⟩,drained.grown,drained.split,drained.rest,drained.hole⟩
    · exact drained

-- One client of a session at `top`: it shows its timeline at `last`, and every
-- seq after that is either buffered or in `rest`, once.
structure Follows (apply : D → C → D) (timeline : Timeline C D) (top : Nat) (rest : List Nat) (seat : Seat C D)
    (last : Nat) : Prop where
  sees : Sees apply timeline seat.bridge seat.document last
  buffers : Buffers timeline seat.bridge.pendingSequenced
  unread : (seat.bridge.pendingSequenced.map PendingSequenced.seq ++ rest).Perm (List.range' (last+1) (top-last))
  behind : last ≤ top
  hole : last+1 ∉ seat.bridge.pendingSequenced.map PendingSequenced.seq

omit [WireCommand C] in
theorem Follows.within (follows : Follows apply timeline top rest seat last)
    (member : n ∈ seat.bridge.pendingSequenced.map PendingSequenced.seq ++ rest) : last < n ∧ n ≤ top := by
  have range := follows.unread.mem_iff.mp member
  have behind := follows.behind
  rw [List.mem_range'_1] at range
  omega

omit [WireCommand C] in
theorem Follows.distinct (follows : Follows apply timeline top rest seat last) :
    (seat.bridge.pendingSequenced.map PendingSequenced.seq ++ rest).Nodup :=
  follows.unread.nodup_iff.mpr (List.nodup_range' ..)

theorem Follows.contiguous (follows : Follows apply timeline top ((last+1)::rest) seat last)
    (lawful : timeline.Lawful apply last top) (calm : timeline.Calm apply last top) (now : Nat) :
    ∃ last', last ≤ last' ∧ Follows apply timeline top rest
      (seat.take apply (seat.bridge.handleSequenced now (some (last+1)) (timeline.message (last+1)))) last' := by
  have more : last < top := by
    have range := follows.within (List.mem_append_right _ List.mem_cons_self)
    omega
  have delivered := follows.sees.deliver lawful calm more
  have pending := (seat.bridge.deliver_same (D := D) (last+1) (timeline.message (last+1))).2
  have left : (seat.bridge.pendingSequenced.map PendingSequenced.seq ++ rest).Perm
      (List.range' (last+2) (top-(last+1))) := by
    have moved := List.perm_middle.symm.trans follows.unread
    have longer : top-last = top-(last+1)+1 := by omega
    rw [longer,List.range'_succ] at moved
    exact moved.cons_inv
  have nodup := (List.nodup_append.mp follows.distinct).1
  have above : ∀ entry ∈ seat.bridge.pendingSequenced, last+1 < entry.seq ∧ entry.seq ≤ top := by
    intro entry member
    have listed : entry.seq ∈ seat.bridge.pendingSequenced.map PendingSequenced.seq :=
      List.mem_map.mpr ⟨entry,member,rfl⟩
    have range := follows.within (List.mem_append_left _ listed)
    have apart : entry.seq ≠ last+1 := fun same => follows.hole (same ▸ listed)
    omega
  obtain ⟨last',drained⟩ := drain_drained delivered (fun n reached => lawful n (by omega))
    (fun n reached => calm n (by omega)) (pending.symm ▸ follows.buffers) (pending.symm ▸ nodup) (pending.symm ▸ above) now
  rw [pending] at drained
  have stale : ¬last+1 ≤ last := by omega
  refine ⟨last',Nat.le_of_succ_le drained.grown,?_⟩
  simp only [Seat.take,Bridge.handleSequenced,follows.sees.baseline,stale,if_false,if_true,List.foldl_append]
  have sorted : (List.range' (last+2) (last'-(last+1)) ++ _).Perm (seat.bridge.pendingSequenced.map PendingSequenced.seq) :=
    drained.split ▸ (List.perm_insertionSort _ seat.bridge.pendingSequenced).map PendingSequenced.seq
  have behind : last' ≤ top := by
    by_cases moved : last' = last+1
    · omega
    · have grown := drained.grown
      have newest : last' ∈ List.range' (last+2) (last'-(last+1)) := by
        rw [List.mem_range'_1]
        omega
      exact (follows.within (List.mem_append_left _ (sorted.mem_iff.mp (List.mem_append_left _ newest)))).2
  refine ⟨drained.sees,?_,?_,behind,drained.hole⟩
  · intro entry member
    exact follows.buffers entry (Bridge.mem_sortPending.mp (drained.rest entry member))
  · have whole := (sorted.append_right rest).trans left
    have grown := drained.grown
    have cut : List.range' (last+2) (top-(last+1)) =
        List.range' (last+2) (last'-(last+1)) ++ List.range' (last'+1) (top-last') := by
      rw [show last'+1 = last+2+(last'-(last+1)) by omega,List.range'_append_1]
      congr 1
      omega
    rw [cut,List.append_assoc] at whole
    exact (List.perm_append_left_iff _).mp whole

theorem Follows.ahead (follows : Follows apply timeline top (n::rest) seat last) (past : n ≠ last+1)
    (room : seat.bridge.pendingSequenced.length < maxPendingSequenced) (now : Nat) :
    Follows apply timeline top rest
      (seat.take apply (seat.bridge.handleSequenced now (some n) (timeline.message n))) last := by
  have range := follows.within (List.mem_append_right _ List.mem_cons_self)
  have stale : ¬n ≤ last := by omega
  have buffered : (seat.bridge.bufferSequenced ⟨n,timeline.message n⟩).pendingSequenced =
      seat.bridge.pendingSequenced ++ [⟨n,timeline.message n⟩] := by
    unfold Bridge.bufferSequenced
    have fits : ¬maxPendingSequenced < (seat.bridge.pendingSequenced ++ [(⟨n,timeline.message n⟩ : PendingSequenced C)]).length := by
      rw [List.length_append,List.length_singleton]
      omega
    rw [if_neg fits]
  have baseline : (seat.bridge.bufferSequenced ⟨n,timeline.message n⟩).lastAppliedSeq = some last := by
    unfold Bridge.bufferSequenced
    simp only
    split <;> exact follows.sees.baseline
  simp only [Seat.take,Bridge.handleSequenced,follows.sees.baseline,stale,past,if_false,List.foldl_nil]
  refine ⟨⟨?_,follows.sees.shows⟩,?_,?_,follows.behind,?_⟩
  · rw [Bridge.schedule_last]
    exact baseline
  · rw [Bridge.schedule_pending,buffered]
    intro entry member
    rcases List.mem_append.mp member with old | new
    · exact follows.buffers entry old
    · cases List.mem_singleton.mp new
      rfl
  · rw [Bridge.schedule_pending,buffered,List.map_append,List.append_assoc]
    exact follows.unread
  · rw [Bridge.schedule_pending,buffered,List.map_append,List.mem_append]
    intro member
    rcases member with old | new
    · exact follows.hole old
    · exact past (List.mem_singleton.mp new).symm

theorem Follows.handle (follows : Follows apply timeline top (n::rest) seat last)
    (lawful : timeline.Lawful apply last top) (calm : timeline.Calm apply last top)
    (room : n ≠ last+1 → seat.bridge.pendingSequenced.length < maxPendingSequenced) (now : Nat) :
    ∃ last', last ≤ last' ∧ Follows apply timeline top rest
      (seat.take apply (seat.bridge.handleSequenced now (some n) (timeline.message n))) last' := by
  by_cases next : n = last+1
  · subst next
    exact follows.contiguous lawful calm now
  · exact ⟨last,Nat.le_refl _,follows.ahead next (room next) now⟩

-- An ack is a message with no command, behind the bookkeeping of local commands.
theorem Follows.ack (follows : Follows apply timeline top (n::rest) seat last)
    (lawful : timeline.Lawful apply last top) (calm : timeline.Calm apply last top)
    (room : n ≠ last+1 → seat.bridge.pendingSequenced.length < maxPendingSequenced) (own : timeline.message n = none) (now : Nat) :
    ∃ last', last ≤ last' ∧ Follows apply timeline top rest (seat.take apply (seat.bridge.onAck now (some n))) last' := by
  let pruned := seat.bridge.prunePendingLocalCommands now
  let popped : Seat C D := ⟨{pruned with pendingLocalCommands := pruned.pendingLocalCommands.tail},seat.document⟩
  have same : Follows apply timeline top (n::rest) popped last :=
    ⟨⟨follows.sees.baseline,follows.sees.shows⟩,follows.buffers,follows.unread,follows.behind,follows.hole⟩
  obtain ⟨last',grown,handled⟩ := same.handle lawful calm room now
  rw [own] at handled
  refine ⟨last',grown,?_⟩
  simp only [Seat.take,Bridge.onAck,List.foldl_append,List.foldl_cons,List.foldl_nil]
  exact handled

omit [WireCommand C] in
-- The buffer is read against the timeline only past `last` and up to `top`.
theorem Follows.retell (follows : Follows apply timeline top rest seat last) {timeline' : Timeline C D}
    (told : ∀ n, last < n → n ≤ top → timeline'.message n = timeline.message n)
    (baseline : seat'.bridge.lastAppliedSeq = some last) (shows : seat'.document = timeline'.shows apply last)
    (pending : seat'.bridge.pendingSequenced = seat.bridge.pendingSequenced) :
    Follows apply timeline' top rest seat' last := by
  refine ⟨⟨baseline,shows⟩,?_,pending.symm ▸ follows.unread,follows.behind,pending.symm ▸ follows.hole⟩
  intro entry member
  rw [pending] at member
  have range := follows.within (List.mem_append_left rest (List.mem_map.mpr ⟨entry,member,rfl⟩))
  rw [told entry.seq range.1 range.2]
  exact follows.buffers entry member

omit [WireCommand C] in
theorem Follows.extend (follows : Follows apply timeline top rest seat last) :
    Follows apply timeline (top+1) (rest ++ [top+1]) seat last := by
  have behind := follows.behind
  refine ⟨follows.sees,follows.buffers,?_,by omega,follows.hole⟩
  have longer : List.range' (last+1) (top+1-last) = List.range' (last+1) (top-last) ++ [top+1] := by
    rw [show top+1-last = top-last+1 by omega,List.range'_1_concat]
    congr 2
    omega
  rw [longer,← List.append_assoc]
  exact follows.unread.append_right _

omit [WireCommand C] in
theorem Follows.reorder (follows : Follows apply timeline top rest seat last) (same : rest.Perm rest') :
    Follows apply timeline top rest' seat last :=
  ⟨follows.sees,follows.buffers,(same.symm.append_left _).trans follows.unread,follows.behind,follows.hole⟩

end

section
variable {ι C D : Type} [DecidableEq ι] {apply : D → C → D} {room room' : Room ι C D} {opening : D}

theorem timeline_lawful (room : Room ι C D) (me : ι) :
    (room.timeline apply opening me).Lawful apply room.start room.seq := by
  intro n reached more
  have bound : n-room.start < room.log.length := by
    simp only [Room.seq] at more
    omega
  have index : n+1-room.start = n-room.start+1 := by omega
  have here : room.log[n-room.start]? = some room.log[n-room.start] := List.getElem?_eq_getElem bound
  have message : (room.timeline apply opening me).message (n+1) =
      if room.log[n-room.start].1 = me then none else some room.log[n-room.start].2 := by
    simp only [Room.timeline,index,Nat.add_sub_cancel,here,Option.bind_some]
  have document : (room.timeline apply opening me).document (n+1) =
      apply ((room.timeline apply opening me).document n) room.log[n-room.start].2 := by
    simp only [Room.timeline,index,List.take_add_one,here,Option.toList_some,List.map_append,List.map_cons,List.map_nil,
      List.foldl_append,List.foldl_cons,List.foldl_nil]
  have rest : room.log.drop (n-room.start) = room.log[n-room.start]::room.log.drop (n+1-room.start) := by
    rw [index]
    exact List.drop_eq_getElem_cons bound
  by_cases mine : room.log[n-room.start].1 = me
  · refine .inl ⟨by rw [message,if_pos mine],_,?_,document⟩
    simp only [Room.timeline,rest,List.filter_cons,mine,decide_true,if_true,List.map_cons,List.cons_append]
  · refine .inr ⟨_,by rw [message,if_neg mine],?_,document⟩
    simp only [Room.timeline,rest,List.filter_cons,mine,decide_false,Bool.false_eq_true,if_false]

def Room.Posted (room : Room ι C D) (item : BroadcastItem ι C) : Prop :=
  room.start < item.seq ∧ room.log[item.seq-room.start-1]? = some (item.sender,item.command)

theorem Room.Posted.message (posted : room.Posted item) (apply : D → C → D) (opening : D) (me : ι) :
    (room.timeline apply opening me).message item.seq = item.told me := by
  simp only [Room.timeline,posted.2,Option.bind_some,BroadcastItem.told]

structure Room.Sound (apply : D → C → D) (opening : D) (room : Room ι C D) : Prop where
  session : room.session = (room.log.map Prod.snd).foldl apply opening
  posted : ∀ item ∈ room.applied, room.Posted item
  told : ∀ me, ∀ item ∈ room.inbox me, room.Posted item
  seats : ∀ me, ∃ last, room.start ≤ last ∧
    Follows apply (room.timeline apply opening me) room.seq
      ((room.inbox me).map BroadcastItem.seq ++ room.applied.map BroadcastItem.seq) (room.seat me) last

variable [WireCommand C]

theorem opened_sound [WireDocument D] (start now : Nat) (session : D) :
    (Room.opened apply start session now : Room ι C D).Sound apply session := by
  refine ⟨rfl,fun _ member => absurd member List.not_mem_nil,fun _ _ member => absurd member List.not_mem_nil,?_⟩
  intro me
  refine ⟨start,Nat.le_refl _,⟨rfl,?_⟩,?_,?_,Nat.le_add_right _ _,List.not_mem_nil⟩
  · simp [Room.opened,Timeline.shows,Room.timeline,Seat.take,Bridge.onSnapshot,Bridge.new,Bridge.clearTimers,
      Bridge.prunePendingLocalCommands,Bridge.drainPendingSequenced,perform]
  · exact fun _ member => absurd member List.not_mem_nil
  · simp [Room.opened,Room.seq,Seat.take,Bridge.onSnapshot,Bridge.new,Bridge.clearTimers,
      Bridge.prunePendingLocalCommands,Bridge.drainPendingSequenced]

theorem issue_sound (sound : room.Sound apply opening) (step : room.Step apply (.issue me now command) room') :
    room'.Sound apply opening := by
  cases step
  refine ⟨sound.session,sound.posted,sound.told,fun other => ?_⟩
  obtain ⟨last,joined,follows⟩ := sound.seats other
  refine ⟨last,joined,?_⟩
  by_cases mine : other = me
  · subst mine
    refine follows.retell (fun _ _ _ => rfl) ?_ ?_ ?_
    · simp only [Function.update_self]
      exact follows.sees.baseline
    · simp only [Function.update_self,Timeline.shows,Room.timeline]
      rw [← List.append_assoc,List.foldl_append]
      exact congrArg (apply · command) follows.sees.shows
    · simp only [Function.update_self]
      rfl
  · refine follows.retell (fun _ _ _ => rfl) ?_ ?_ ?_
    · simp only [Function.update_of_ne mine]
      exact follows.sees.baseline
    · simp only [Function.update_of_ne mine,Timeline.shows,Room.timeline]
      exact follows.sees.shows
    · simp only [Function.update_of_ne mine]

theorem publish_sound (sound : room.Sound apply opening) (step : room.Step apply (.publish index) room') :
    room'.Sound apply opening := by
  simp only [Room.Step,Room.advance] at step
  split at step
  · cases step
  · rename_i item found
    cases step
    have member := List.mem_of_getElem? found
    refine ⟨sound.session,fun other kept => sound.posted other (List.mem_of_mem_eraseIdx kept),?_,fun me => ?_⟩
    · intro me other posted
      rcases List.mem_append.mp posted with old | new
      · exact sound.told me other old
      · cases List.mem_singleton.mp new
        exact sound.posted item member
    · obtain ⟨last,joined,follows⟩ := sound.seats me
      refine ⟨last,joined,follows.reorder ?_⟩
      obtain ⟨bound,here⟩ := List.getElem?_eq_some_iff.mp found
      have moved := (List.getElem_cons_eraseIdx_perm bound).symm
      rw [here] at moved
      rw [List.map_append,List.append_assoc]
      exact (moved.map BroadcastItem.seq).append_left _

omit [WireCommand C] in
-- The server takes the oldest command of one connection; nobody's past changes.
theorem sequenced_past (queued : room.outbox me = command::rest) (other : ι) (past : n ≤ room.seq) :
    ((room.sequenced apply me command rest).timeline apply opening other).shows apply n =
        (room.timeline apply opening other).shows apply n ∧
      (room.start < n → ((room.sequenced apply me command rest).timeline apply opening other).message n =
        (room.timeline apply opening other).message n) := by
  have behind : n-room.start ≤ room.log.length := by
    simp only [Room.seq] at past
    omega
  refine ⟨?_,fun later => ?_⟩
  · simp only [Timeline.shows,Room.timeline,Room.sequenced,List.take_append_of_le_length behind,
      List.drop_append_of_le_length behind,List.filter_append,List.map_append,List.append_assoc]
    by_cases mine : me = other
    · subst mine
      simp [queued]
    · simp [mine,Function.update_of_ne (Ne.symm mine)]
  · have index : n-room.start-1 < room.log.length := by omega
    simp only [Room.timeline,Room.sequenced,List.getElem?_append_left index]

omit [WireCommand C] in
theorem Room.Posted.sequenced (posted : room.Posted item) (me : ι) (command : C) (rest : List C) :
    (room.sequenced apply me command rest).Posted item := by
  have bound := (List.getElem?_eq_some_iff.mp posted.2).1
  exact ⟨posted.1,(List.getElem?_append_left bound).trans posted.2⟩

omit [WireCommand C] in
theorem sequenced_posted (room : Room ι C D) (me : ι) (command : C) (rest : List C) :
    (room.sequenced apply me command rest).Posted ⟨room.seq+1,me,command⟩ := by
  have index : room.seq+1-room.start-1 = room.log.length := by
    simp only [Room.seq]
    omega
  refine ⟨?_,?_⟩
  · simp only [Room.sequenced,Room.seq]
    omega
  · simp only [Room.sequenced,index,List.getElem?_concat_length]

theorem sequence_sound (sound : room.Sound apply opening) (step : room.Step apply (.sequence me) room') :
    room'.Sound apply opening := by
  simp only [Room.Step,Room.advance] at step
  split at step
  · cases step
  · rename_i command rest queued
    cases step
    refine ⟨?_,?_,fun other item member => (sound.told other item member).sequenced me command rest,fun other => ?_⟩
    · simp only [Room.sequenced,List.map_append,List.foldl_append,← sound.session]
      rfl
    · intro item member
      rcases List.mem_append.mp member with old | new
      · exact (sound.posted item old).sequenced me command rest
      · cases List.mem_singleton.mp new
        exact sequenced_posted room me command rest
    · obtain ⟨last,joined,follows⟩ := sound.seats other
      have later : Follows apply ((room.sequenced apply me command rest).timeline apply opening other) room.seq
          ((room.inbox other).map BroadcastItem.seq ++ room.applied.map BroadcastItem.seq) (room.seat other) last := by
        refine follows.retell ?_ follows.sees.baseline ?_ rfl
        · intro n after upto
          exact (sequenced_past queued other upto).2 (by omega)
        · rw [(sequenced_past queued other follows.behind).1]
          exact follows.sees.shows
      refine ⟨last,joined,?_⟩
      have top : (room.sequenced apply me command rest).seq = room.seq+1 := by
        simp only [Room.sequenced,Room.seq,List.length_append,List.length_singleton]
        omega
      rw [top]
      simp only [Room.sequenced,List.map_append,List.map_cons,List.map_nil,← List.append_assoc]
      exact later.extend

theorem receive_sound (sound : room.Sound apply opening) (clear : room.Clear apply opening (.receive me now))
    (step : room.Step apply (.receive me now) room') : room'.Sound apply opening := by
  simp only [Room.Step,Room.advance] at step
  split at step
  · cases step
  · rename_i item rest queued
    cases step
    have arrived : item ∈ room.inbox me := by
      rw [queued]
      exact List.mem_cons_self
    refine ⟨sound.session,sound.posted,?_,?_⟩
    · intro other old member
      by_cases mine : other = me
      · subst mine
        simp only [Function.update_self] at member
        exact sound.told other old (queued ▸ List.mem_cons_of_mem _ member)
      · simp only [Function.update_of_ne mine] at member
        exact sound.told other old member
    · intro other
      obtain ⟨last,joined,follows⟩ := sound.seats other
      by_cases mine : other = me
      · subst mine
        simp only [Function.update_self]
        rw [queued,List.map_cons,List.cons_append] at follows
        have lawful : (room.timeline apply opening other).Lawful apply last room.seq :=
          fun n reached => timeline_lawful room other n (by omega)
        obtain ⟨calm,fits⟩ := clear last follows.sees.baseline
        rw [queued,List.head?_cons] at fits
        have told := (sound.told other item arrived).message apply opening other
        have taken : ∃ last', last ≤ last' ∧ Follows apply (room.timeline apply opening other) room.seq
            (rest.map BroadcastItem.seq ++ room.applied.map BroadcastItem.seq)
            ((room.seat other).receive apply other now item) last' := by
          unfold Seat.receive
          rw [← told]
          cases message : (room.timeline apply opening other).message item.seq with
          | none => exact follows.ack lawful calm (fits item rfl) message now
          | some command =>
            obtain ⟨last',grown,handled⟩ := follows.handle lawful calm (fits item rfl) now
            rw [message] at handled
            exact ⟨last',grown,handled⟩
        obtain ⟨last',grown,taken⟩ := taken
        exact ⟨last',joined.trans grown,taken⟩
      · simp only [Function.update_of_ne mine]
        exact ⟨last,joined,follows⟩

theorem step_sound (sound : room.Sound apply opening) (clear : room.Clear apply opening move)
    (step : room.Step apply move room') : room'.Sound apply opening := by
  cases move with
  | issue me now command => exact issue_sound sound step
  | sequence me => exact sequence_sound sound step
  | publish index => exact publish_sound sound step
  | receive me now => exact receive_sound sound clear step

theorem runs_sound [WireDocument D]
    (path : Runs (fun room move room' => Room.Step apply room move room' ∧ room.Clear apply opening move)
      (Room.opened apply start opening now : Room ι C D) moves room) : room.Sound apply opening := by
  refine path.preserves (P := Room.Sound apply opening) ?_ (opened_sound start now opening)
  intro before move after sound step
  exact step_sound sound step.2 step.1

omit [WireCommand C] in
-- With nothing left to deliver, every client is at the end of the log and has
-- nothing of its own on top.
theorem Room.Sound.converged (sound : room.Sound apply opening) (delivered : room.Delivered) (me : ι) :
    (room.seat me).document = room.session := by
  obtain ⟨last,joined,follows⟩ := sound.seats me
  obtain ⟨applied,empty⟩ := delivered
  have behind := follows.behind
  have caught : last = room.seq := by
    have unread := follows.unread
    rw [applied,(empty me).2,List.map_nil,List.append_nil,List.append_nil] at unread
    by_contra late
    have next : last+1 ∈ List.range' (last+1) (room.seq-last) := by
      rw [List.mem_range'_1]
      omega
    exact follows.hole (unread.mem_iff.mpr next)
  have whole : room.seq-room.start = room.log.length := by
    simp only [Room.seq]
    omega
  rw [follows.sees.shows,caught,sound.session]
  simp only [Timeline.shows,Room.timeline,whole,List.take_length,List.drop_length,List.filter_nil,List.map_nil,
    (empty me).1,List.append_nil,List.foldl_nil]

end

section
open Lucida.Core
variable {R ι : Type} [DecidableEq ι]

-- In every run in which a client only ever applies what commutes with its own
-- later-ordered commands, full delivery leaves every client with the session's
-- document.
theorem collaborators_converge [Numeric R] {session : DocumentState R}
    {room : Room ι (DocumentCommand R) (DocumentState R)}
    (path : Runs (fun room move room' => Room.Step DocumentState.apply room move room' ∧
        room.Clear DocumentState.apply session move)
      (Room.opened DocumentState.apply start session now : Room ι (DocumentCommand R) (DocumentState R)) moves room) (delivered : room.Delivered) (me : ι) :
    (room.seat me).document = room.session :=
  (runs_sound path).converged delivered me

theorem calm_of_commutes [Numeric R] {opening : DocumentState R} (valid : opening.WellFormed)
    {room : Room ι (DocumentCommand R) (DocumentState R)} {me : ι}
    (commutes : ∀ mine other sender, mine ∈ room.outbox me ∨ (me,mine) ∈ room.log → (sender,other) ∈ room.log → sender ≠ me →
      mine.Commutes other) (first top : Nat) :
    (room.timeline DocumentState.apply opening me).Calm DocumentState.apply first top := by
  intro n _ _ other told before mine after split
  have issued : mine ∈ room.outbox me ∨ (me,mine) ∈ room.log := by
    have own : mine ∈ (room.timeline DocumentState.apply opening me).own n := by
      rw [split]
      exact List.mem_append_right before List.mem_cons_self
    rcases List.mem_append.mp own with logged | sent
    · obtain ⟨⟨sender,_⟩,kept,rfl⟩ := List.mem_map.mp logged
      obtain ⟨late,same⟩ := List.mem_filter.mp kept
      cases of_decide_eq_true same
      exact .inr (List.mem_of_mem_drop late)
    · exact .inl sent
  obtain ⟨⟨sender,command⟩,logged,heard⟩ := Option.bind_eq_some_iff.mp told
  split at heard
  · cases heard
  · rename_i others
    cases heard
    exact commutes mine _ sender issued (List.mem_of_getElem? logged) others _
      (DocumentState.foldl_wellFormed (DocumentState.foldl_wellFormed valid _) before)

def namedManifest (id name : String) : Content.DatasetManifest Int := ⟨id,name,.single,[],[],[],[],none,[]⟩

def twoPlates : DocumentState Int :=
  [DocumentCommand.datasetOpened ⟨namedManifest "left" "Left",.proxied [],⟨[]⟩⟩,
   .datasetOpened ⟨namedManifest "right" "Right",.proxied [],⟨[]⟩⟩].foldl DocumentState.apply (.default Int)

def crossing (first second : DocumentCommand Int) : List (Move Bool (DocumentCommand Int)) :=
  [.issue false 1 first,.issue true 1 second,.sequence false,.sequence true,.publish 0,.publish 0,
   .receive false 2,.receive false 2,.receive true 2,.receive true 2]

def crossed (first second : DocumentCommand Int) : Option (Room Bool (DocumentCommand Int) (DocumentState Int)) :=
  drive (Room.advance DocumentState.apply) (Room.opened DocumentState.apply 0 twoPlates 0) (crossing first second)

-- One renames the left dataset while the other renames the right one.
theorem collaborators_converge_on_two_datasets :
    ∃ room, Runs (fun room move room' => Room.Step DocumentState.apply room move room' ∧
          room.Clear DocumentState.apply twoPlates move) (Room.opened DocumentState.apply 0 twoPlates 0)
        (crossing (.renameDataset "left" "A") (.renameDataset "right" "B")) room ∧
      (∀ me, (room.seat me).document = room.session) ∧
      room.session.manifests.values.map (·.name) = ["A","B"] := by
  have valid : twoPlates.WellFormed := DocumentState.foldl_wellFormed DocumentState.default_wellFormed _
  have renames {id id' name name' : String} (apart : id ≠ id') :
      (DocumentCommand.renameDataset id name : DocumentCommand Int).Commutes (.renameDataset id' name') :=
    DocumentState.rename_commutes (fun _ opened => by cases opened) fun _ same => apart (by cases same; rfl)
  have commutes (me sender : Bool) (mine other : DocumentCommand Int)
      (issued : (me,mine) ∈ [(false,.renameDataset "left" "A"),(true,.renameDataset "right" "B")])
      (logged : (sender,other) ∈ [(false,.renameDataset "left" "A"),(true,.renameDataset "right" "B")]) (others : sender ≠ me) :
      mine.Commutes other := by
    simp only [List.mem_cons,List.not_mem_nil,or_false,Prod.mk.injEq] at issued logged
    rcases issued with ⟨rfl,rfl⟩ | ⟨rfl,rfl⟩
    · rcases logged with ⟨rfl,rfl⟩ | ⟨rfl,rfl⟩
      · exact absurd rfl others
      · exact renames (by decide)
    · rcases logged with ⟨rfl,rfl⟩ | ⟨rfl,rfl⟩
      · exact renames (by decide)
      · exact absurd rfl others
  have path : ∃ room, Runs (fun room move room' => Room.Step DocumentState.apply room move room' ∧
        room.Clear DocumentState.apply twoPlates move) (Room.opened DocumentState.apply 0 twoPlates 0)
      (crossing (.renameDataset "left" "A") (.renameDataset "right" "B")) room ∧ room.Delivered ∧
      room.session.manifests.values.map (·.name) = ["A","B"] := by
    refine ⟨_,.cons ⟨rfl,trivial⟩ (.cons ⟨rfl,trivial⟩ (.cons ⟨rfl,trivial⟩ (.cons ⟨rfl,trivial⟩ (.cons ⟨rfl,trivial⟩
      (.cons ⟨rfl,trivial⟩ (.cons ⟨rfl,?_⟩ (.cons ⟨rfl,?_⟩ (.cons ⟨rfl,?_⟩ (.one ⟨rfl,?_⟩))))))))),⟨rfl,?_⟩,rfl⟩
    case refine_5 =>
      intro me
      cases me <;> exact ⟨rfl,rfl⟩
    all_goals
      intro last _
      refine ⟨calm_of_commutes valid ?_ last _,fun _ _ _ => by decide⟩
      exact fun mine other sender issued logged others => commutes _ sender mine other (issued.resolve_left List.not_mem_nil) logged others
  obtain ⟨room,path,delivered,names⟩ := path
  exact ⟨room,path,collaborators_converge path delivered,names⟩

-- Two names for one dataset: the later one in the order is the session's, and
-- its sender ends with the earlier one.
theorem crossing_renames_diverge :
    ∃ room, Runs (Room.Step DocumentState.apply) (Room.opened DocumentState.apply 0 twoPlates 0)
        (crossing (.renameDataset "left" "A") (.renameDataset "left" "B")) room ∧
      room.Delivered ∧ (room.seat true).document ≠ room.session := by
  have reached : (crossed (.renameDataset "left" "A") (.renameDataset "left" "B")).isSome = true := by decide
  obtain ⟨room,driven⟩ := Option.isSome_iff_exists.mp reached
  refine ⟨room,drive_runs (fun _ _ _ taken => taken) driven,?_,?_⟩
  · cases driven
    refine ⟨rfl,fun me => ?_⟩
    cases me <;> exact ⟨rfl,rfl⟩
  · cases driven
    intro same
    have names := congrArg (fun doc => (doc.manifests.get? "left").map (·.name)) same
    revert names
    decide

end
end Lucida.Session
