import Lucida.Store.SourceLimiter

namespace Lucida.Store.SourceLimiter
open Lib

-- Reader `b` has a queued acquire whose receiver is still there, and none of
-- its reads holds a permit.
def Starved (b : ReaderId) (w : World) : Prop :=
  (∃ ticket ∈ (w.state.readerMut b).waiters, ticket ∈ w.waiting) ∧ b ∉ w.held

def bypasses (a : ReaderId) (w w' : World) : Nat :=
  ((w'.handed.drop w.handed.length).filter fun h => h.1 = a ∧ h.2 ∈ w'.received).length

def StarvedStep (b : ReaderId) (w : World) (event : Event) (w' : World) : Prop :=
  Step w event w' ∧ Starved b w ∧ Starved b w'

-- No handoff to `b` can be wasted in this world: the sender a handoff would pop
-- still has its receiver, and no earlier permit sits unreceived in a oneshot.
def Servable (b : ReaderId) (w : World) : Prop :=
  (∀ ticket ∈ (w.state.readerMut b).waiters.head?, ticket ∈ w.waiting) ∧
    b ∉ w.delivered.map Prod.snd

-- Reader `a` was served after mark `l`, so a reader whose mark is still `l`
-- comes before it.
def Behind (l : Nat) (a : ReaderId) (s : State) : Prop :=
  l < s.granted ∧ ∀ entry, s.readers.get? a = some entry → l < entry.lastGranted

structure Queued (b : ReaderId) (l : Nat) (front : Ticket) (s : State) : Prop where
  stored : ∃ entry, s.readers.get? b = some entry ∧ entry.inFlight = 0 ∧ entry.lastGranted = l ∧
    entry.waiters.head? = some front
  mark : l ≤ s.granted

theorem Behind.after_mark (behind : Behind l a s) (granted : s'.granted = s.granted+1)
    (readers : ∀ entry, s'.readers.get? a = some entry →
      entry.lastGranted = s.granted+1 ∨ s.readers.get? a = some entry) : Behind l a s' := by
  refine ⟨by rw [granted]; exact Nat.lt_succ_of_lt behind.1,?_⟩
  intro entry stored
  rcases readers entry stored with served | same
  · rw [served]
    exact Nat.lt_succ_of_lt behind.1
  · exact behind.2 entry same

theorem Offered.behind (offered : Offered s next entry sender charged) (behind : Behind l a s) :
    Behind l a charged := by
  refine behind.after_mark offered.granted ?_
  intro after stored
  rw [offered.readers a] at stored
  split at stored
  · cases stored
    exact .inl rfl
  · exact .inr stored

theorem Discarded.behind (discarded : Discarded s next entry restored) (behind : Behind l a s) :
    Behind l a restored := by
  refine behind.after_mark discarded.granted ?_
  intro after stored
  by_cases same : a = next
  · subst same
    rw [(discarded.kept after stored).1]
    exact .inl rfl
  · exact .inr ((discarded.others a same).symm.trans stored)

theorem Offered.served_behind (offered : Offered s a entry sender charged) (mark : l ≤ s.granted) :
    Behind l a charged := by
  refine ⟨by rw [offered.granted]; exact Nat.lt_succ_of_le mark,?_⟩
  intro after stored
  rw [offered.readers a,if_pos rfl] at stored
  cases stored
  exact Nat.lt_succ_of_le mark

theorem Queued.discarded (queued : Queued b l front s) (discarded : Discarded s next entry restored)
    (apart : b ≠ next) : Queued b l front restored := by
  refine ⟨?_,by rw [discarded.granted]; exact Nat.le_succ_of_le queued.mark⟩
  rw [discarded.others b apart]
  exact queued.stored

-- The order of `neediest_waiting_reader`: an idle reader with an older mark wins.
theorem neediest_not_behind (queued : Queued b l front s) (chosen : s.neediestWaitingReader = some next) :
    ¬Behind l next s := by
  intro behind
  obtain ⟨mine,found,idle,mark,head⟩ := queued.stored
  obtain ⟨entry,stored,_,least⟩ := neediest_some chosen
  have waits : mine.waiters ≠ [] := by
    intro empty
    rw [empty] at head
    cases head
  have order := least b mine found waits
  have later := behind.2 entry stored
  simp only [ReaderState.need,idle,mark,Prod.Lex.toLex_le_toLex] at order
  omega

structure Handoff (b : ReaderId) (l : Nat) (s s' : State) (handed : Option (ReaderId × Ticket)) : Prop where
  behind : ∀ a, Behind l a s → Behind l a s'
  served : ∀ a ticket, handed = some (a,ticket) → Behind l a s'
  order : ∀ a ticket, handed = some (a,ticket) → ¬Behind l a s
  waits : (∀ ticket, handed ≠ some (b,ticket)) → s'.readers.get? b = s.readers.get? b
  granted : s.granted ≤ s'.granted

-- Induction on the turns: the front of `b` is alive, so every sender found dead
-- belongs to another reader and `b` keeps its entry.
theorem handOff_order {alive : Ticket → Bool} (queued : Queued b l front s) (live : alive front = true)
    (ran : s.handOff alive turns = some (s',handed)) : Handoff b l s s' handed := by
  induction turns generalizing s with
  | zero => cases ran
  | succ turns ih =>
    unfold State.handOff at ran
    split at ran
    · cases ran
      exact ⟨fun _ same => same,by simp,by simp,fun _ => rfl,Nat.le_refl _⟩
    · rename_i room
      cases chosen : s.neediestWaitingReader with
      | none =>
        rw [chosen] at ran
        cases ran
        exact ⟨fun _ same => same,by simp,by simp,fun _ => rfl,Nat.le_refl _⟩
      | some next =>
        obtain ⟨entry,sender,popped,charged,pop,admitted,offered⟩ :=
          offer_spec (Nat.pos_of_ne_zero room) chosen
        simp only [chosen,pop,admitted,Option.bind_eq_bind,Option.bind_some] at ran
        by_cases answers : alive sender = true
        · simp only [answers,if_true] at ran
          cases ran
          refine ⟨fun a => offered.behind,?_,?_,?_,by rw [offered.granted]; omega⟩
          · intro a ticket equal
            cases equal
            exact offered.served_behind queued.mark
          · intro a ticket equal
            cases equal
            exact neediest_not_behind queued chosen
          · intro other
            have apart : b ≠ next := fun same => other sender (by rw [same])
            exact (offered.readers b).trans (if_neg apart)
        · obtain ⟨restored,undone,discarded⟩ := undo_spec offered
          simp only [answers,undone,Option.bind_some] at ran
          have apart : b ≠ next := by
            intro same
            subst same
            obtain ⟨mine,found,_,_,head⟩ := queued.stored
            obtain ⟨rest,queue⟩ := offered.front
            cases Option.some.inj (found.symm.trans offered.found)
            rw [queue] at head
            cases head
            exact answers live
          have rest := ih (queued.discarded discarded apart) ran
          refine ⟨fun a same => rest.behind a (discarded.behind same),rest.served,?_,?_,?_⟩
          · intro a ticket equal before
            exact rest.order a ticket equal (discarded.behind before)
          · intro other
            exact (rest.waits other).trans (discarded.others b apart)
          · have later := rest.granted
            rw [discarded.granted] at later
            omega

-- The prelude of `release` gives back the permit of another reader and moves no mark.
theorem release_order {alive : Ticket → Bool} (queued : Queued b l front s) (live : alive front = true)
    (apart : b ≠ reader) (ran : s.release alive reader = some (s',handed)) : Handoff b l s s' handed := by
  unfold State.release at ran
  cases found : s.readers.get? reader with
  | none =>
    rw [found] at ran
    cases ran
  | some entry =>
    simp only [found] at ran
    split at ran
    · cases ran
    · let returned := s.returned reader entry
      change (returned.prune reader).handOff alive _ = _ at ran
      have kept : (returned.prune reader).readers.get? b = s.readers.get? b := by
        rw [get?_prune,returned_readers s reader b entry,if_neg apart]
        cases s.readers.get? b <;> simp [apart,Option.filter]
      have mine : Queued b l front (returned.prune reader) := by
        refine ⟨?_,by rw [prune_granted]; exact queued.mark⟩
        rw [kept]
        exact queued.stored
      have behind : ∀ a, Behind l a s → Behind l a (returned.prune reader) := by
        intro a before
        refine ⟨by rw [prune_granted]; exact before.1,?_⟩
        intro after stored
        obtain ⟨stored,_⟩ := prune_some stored
        rw [returned_readers s reader a entry] at stored
        split at stored
        · rename_i same
          cases stored
          exact before.2 entry (same ▸ found)
        · exact before.2 after stored
      have step := handOff_order mine live ran
      refine ⟨fun a before => step.behind a (behind a before),step.served,?_,?_,?_⟩
      · intro a ticket equal before
        exact step.order a ticket equal (behind a before)
      · intro other
        exact (step.waits other).trans kept
      · have later := step.granted
        rwa [prune_granted] at later

theorem World.release_order {w w' : World} (queued : Queued b l front w.state) (live : front ∈ w.waiting)
    (apart : b ≠ reader) (released : w.release reader = .next w') :
    ∃ handed, Handoff b l w.state w'.state handed ∧ w'.handed = w.handed ++ handed.toList ∧
      ∀ ticket, handed = some (b,ticket) → b ∈ w'.delivered.map Prod.snd := by
  unfold World.release at released
  split at released
  · cases released
  · rename_i s ran
    cases released
    exact ⟨none,SourceLimiter.release_order queued (by simpa using live) apart ran,by simp,by simp⟩
  · rename_i s next ticket ran
    cases released
    refine ⟨some (next,ticket),SourceLimiter.release_order queued (by simpa using live) apart ran,rfl,?_⟩
    intro _ equal
    cases equal
    simp

-- `recent` lists the handoffs of the interval so far. While `b` can be served it
-- still has the mark it started with, and a reader served since is behind it.
structure Bypassed (b : ReaderId) (l : Nat) (a : ReaderId) (recent : List (ReaderId × Ticket)) (w : World) :
    Prop where
  bound : recent.countP (fun h => h.1 = a) ≤ 1
  ahead : Starved b w → Servable b w → ∃ entry, w.state.readers.get? b = some entry ∧ entry.lastGranted = l
  behind : Starved b w → Servable b w → 0 < recent.countP (fun h => h.1 = a) → Behind l a w.state

theorem Bypassed.queued (order : Bypassed b l a recent w) (valid : Invariant total w) (starved : Starved b w)
    (servable : Servable b w) : ∃ front ∈ w.waiting, Queued b l front w.state := by
  obtain ⟨entry,found,mark⟩ := order.ahead starved servable
  obtain ⟨⟨ticket,queued,_⟩,free⟩ := starved
  obtain ⟨front,settled⟩ := servable
  have current := readerMut_of_some found
  rw [current] at queued
  have idle : entry.inFlight = 0 := by
    have charged := valid.ledger.charged b
    rw [current] at charged
    rw [charged,World.outstanding,List.count_eq_zero.mpr free,List.count_eq_zero.mpr settled]
  cases queue : entry.waiters with
  | nil => rw [queue] at queued; cases queued
  | cons first rest =>
    refine ⟨first,front first (by rw [current,queue]; rfl),⟨entry,found,idle,mark,by rw [queue]; rfl⟩,?_⟩
    rw [← mark]
    exact valid.ledger.marks b entry found

theorem Bypassed.handoff {w w' : World} (order : Bypassed b l a recent w) (starved : Starved b w)
    (servable : Servable b w) (distinct : a ≠ b) (handoff : Handoff b l w.state w'.state handed)
    (settles : ∀ ticket, handed = some (b,ticket) → b ∈ w'.delivered.map Prod.snd) :
    Bypassed b l a (recent ++ handed.toList) w' := by
  refine ⟨?_,?_,?_⟩
  · rw [List.countP_append]
    rcases handed with _ | ⟨next,ticket⟩
    · simpa using order.bound
    · by_cases same : next = a
      · subst same
        have fresh : recent.countP (fun h => h.1 = next) = 0 := by
          by_contra some
          exact handoff.order next ticket rfl (order.behind starved servable (Nat.pos_of_ne_zero some))
        simp [fresh]
      · simpa [same] using order.bound
  · intro _ servable'
    rw [handoff.waits fun ticket equal => servable'.2 (settles ticket equal)]
    exact order.ahead starved servable
  · intro _ _ some
    rcases handed with _ | ⟨next,ticket⟩
    · exact handoff.behind a (order.behind starved servable (by simpa using some))
    · by_cases same : next = a
      · subst same
        exact handoff.served next ticket rfl
      · exact handoff.behind a (order.behind starved servable (by simpa [same] using some))

theorem Bypassed.same_state {w w' : World} (order : Bypassed b l a recent w) (starved : Starved b w)
    (servable : Servable b w) (state : w'.state = w.state) : Bypassed b l a recent w' :=
  ⟨order.bound,fun _ _ => state ▸ order.ahead starved servable,
    fun _ _ some => state ▸ order.behind starved servable some⟩

-- Joining a queue moves no mark: a new entry starts at the current one.
theorem Bypassed.enqueue {w w' : World} (order : Bypassed b l a recent w) (starved : Starved b w)
    (servable : Servable b w) (state : w'.state =
      w.state.put reader {w.state.readerMut reader with waiters := queue}) : Bypassed b l a recent w' := by
  refine ⟨order.bound,fun _ _ => ?_,fun _ _ some => ?_⟩
  · obtain ⟨entry,found,mark⟩ := order.ahead starved servable
    rw [state,get?_put]
    by_cases same : b = reader
    · subst same
      rw [if_pos rfl,readerMut_of_some found]
      exact ⟨_,rfl,mark⟩
    · rw [if_neg same]
      exact ⟨entry,found,mark⟩
  · have before := order.behind starved servable some
    rw [state]
    refine ⟨before.1,?_⟩
    intro entry stored
    rw [get?_put] at stored
    split at stored
    · rename_i same
      cases stored
      cases found : w.state.readers.get? reader with
      | none => rw [readerMut_of_none found]; exact before.1
      | some old => rw [readerMut_of_some found]; exact before.2 old (same ▸ found)
    · exact before.2 entry stored

theorem step_bypassed (order : Bypassed b l a recent w) (valid : Invariant total w) (distinct : a ≠ b)
    (starved : Starved b w) (servable : Servable b w) (step : Step w event w') :
    ∃ handed : Option (ReaderId × Ticket), w'.handed = w.handed ++ handed.toList ∧
      Bypassed b l a (recent ++ handed.toList) w' := by
  obtain ⟨front,live,queued⟩ := order.queued valid starved servable
  have quiet : w'.handed = w.handed → Bypassed b l a recent w' →
      ∃ handed : Option (ReaderId × Ticket), w'.handed = w.handed ++ handed.toList ∧
        Bypassed b l a (recent ++ handed.toList) w' := by
    intro same kept
    exact ⟨none,by simpa using same,by simpa using kept⟩
  unfold Step at step
  cases event with
  | acquire reader =>
    simp only [World.advance,World.acquire] at step
    split at step
    · rename_i room
      obtain ⟨ticket,member,_⟩ := starved.1
      rw [valid.drained room b] at member
      cases member
    · cases step
      exact quiet rfl (order.enqueue starved servable rfl)
  | receive ticket =>
    simp only [World.advance] at step
    split at step
    · cases step
    · cases step
      exact quiet rfl (order.same_state starved servable rfl)
  | cancel ticket =>
    simp only [World.advance] at step
    split at step
    · cases step
      exact quiet rfl (order.same_state starved servable rfl)
    · cases step
  | cancelDelivered ticket =>
    simp only [World.advance] at step
    split at step
    · cases step
    · rename_i sent reader found
      have apart : b ≠ reader := by
        intro same
        exact servable.2 (List.mem_map.mpr ⟨_,List.mem_of_find?_eq_some found,same.symm⟩)
      obtain ⟨handed,handoff,listed,settles⟩ := World.release_order
        (w := {w with delivered := w.delivered.erase (sent,reader)}) queued live apart step
      exact ⟨handed,listed,order.handoff starved servable distinct handoff settles⟩
  | dropPermit reader =>
    simp only [World.advance] at step
    split at step
    · rename_i holds
      have apart : b ≠ reader := fun same => starved.2 (same ▸ holds)
      obtain ⟨handed,handoff,listed,settles⟩ := World.release_order
        (w := {w with held := w.held.erase reader}) queued live apart step
      exact ⟨handed,listed,order.handoff starved servable distinct handoff settles⟩
    · cases step

theorem starved_stored (starved : Starved b w) : ∃ entry, w.state.readers.get? b = some entry := by
  obtain ⟨⟨ticket,member,_⟩,_⟩ := starved
  cases found : w.state.readers.get? b with
  | none => rw [readerMut_of_none found] at member; cases member
  | some entry => exact ⟨entry,rfl⟩

-- Bypass is bounded in every interval whose handoffs to `b` cannot be wasted.
theorem bounded_bypass (before : Runs Step (World.new total) events w)
    (interval : Runs (fun s event t => StarvedStep b s event t ∧ Servable b s) w later w')
    (distinct : a ≠ b) : bypasses a w w' ≤ 1 := by
  have valid := runs_invariant before
  have carried : ∃ recent l, w'.handed = w.handed ++ recent ∧ Bypassed b l a recent w' ∧ Invariant total w' := by
    induction interval with
    | nil =>
      refine ⟨[],(w.state.readerMut b).lastGranted,by simp,⟨by simp,fun starved _ => ?_,by simp⟩,valid⟩
      obtain ⟨entry,found⟩ := starved_stored starved
      exact ⟨entry,found,by rw [readerMut_of_some found]⟩
    | snoc _ taken ih =>
      obtain ⟨recent,l,listed,order,books⟩ := ih
      obtain ⟨⟨step,starved,_⟩,servable⟩ := taken
      obtain ⟨handed,grown,kept⟩ := step_bypassed order books distinct starved servable step
      exact ⟨recent ++ handed.toList,l,by rw [grown,listed,List.append_assoc],kept,step_invariant books step⟩
  obtain ⟨recent,l,listed,order,_⟩ := carried
  have counted : bypasses a w w' ≤ recent.countP (fun h => h.1 = a) := by
    unfold bypasses
    rw [listed,List.drop_left,← List.countP_eq_length_filter]
    apply List.countP_mono_left
    intro h _ both
    simp only [decide_eq_true_eq] at both ⊢
    exact both.1
  exact counted.trans order.bound

instance (b : ReaderId) (w : World) : Decidable (Starved b w) :=
  inferInstanceAs (Decidable ((∃ ticket ∈ (w.state.readerMut b).waiters,ticket ∈ w.waiting) ∧ b ∉ w.held))

def World.starvedNext? (b : ReaderId) (w : World) (event : Event) : Option World :=
  (w.next? event).filter fun w' => decide (Starved b w ∧ Starved b w')

theorem starvedNext?_step (b : ReaderId) (w : World) (event : Event) (w' : World)
    (taken : w.starvedNext? b event = some w') : StarvedStep b w event w' := by
  obtain ⟨moved,both⟩ := Option.filter_eq_some_iff.mp taken
  exact ⟨next?_step w event w' moved,of_decide_eq_true both⟩

-- Reader 2 keeps ticket 1 queued and live throughout. The handoff that finds its
-- ticket 0 cancelled refreshes its mark, so reader 1 goes first twice.
theorem dead_handoff_lets_a_reader_pass_twice :
    ∃ w w', Runs Step (World.new 1) [.acquire 1,.acquire 2,.acquire 2,.acquire 1,.acquire 1] w ∧
      Runs (StarvedStep 2) w [.cancel 0,.dropPermit 1,.receive 2,.dropPermit 1,.receive 3] w' ∧
      bypasses 1 w w' = 2 := by
  have reached : ∃ w, drive World.next? (World.new 1)
      [.acquire 1,.acquire 2,.acquire 2,.acquire 1,.acquire 1] = some w ∧
      ∃ w', drive (World.starvedNext? 2) w [.cancel 0,.dropPermit 1,.receive 2,.dropPermit 1,.receive 3] =
        some w' ∧ bypasses 1 w w' = 2 := by
    refine ⟨_,rfl,_,rfl,?_⟩
    decide
  obtain ⟨w,ran,w',starved,twice⟩ := reached
  exact ⟨w,w',drive_runs next?_step ran,drive_runs (starvedNext?_step 2) starved,twice⟩

instance (b : ReaderId) (w : World) : Decidable (Servable b w) :=
  inferInstanceAs (Decidable ((∀ ticket ∈ (w.state.readerMut b).waiters.head?,ticket ∈ w.waiting) ∧
    b ∉ w.delivered.map Prod.snd))

-- Reader 1 was served longer ago than reader 2, passes it once, and that is all.
theorem bounded_bypass_of_one_pass :
    ∃ w w', Runs Step (World.new 2) [.acquire 1,.acquire 3,.acquire 1,.acquire 2] w ∧
      Runs (fun s event t => StarvedStep 2 s event t ∧ Servable 2 s) w [.dropPermit 1,.receive 0] w' ∧
      w'.handed = [(1,0)] ∧ bypasses 1 w w' ≤ 1 := by
  have reached : ∃ w, drive World.next? (World.new 2) [.acquire 1,.acquire 3,.acquire 1,.acquire 2] = some w ∧
      ∃ w', drive (fun s event => (s.starvedNext? 2 event).filter fun _ => decide (Servable 2 s)) w
        [.dropPermit 1,.receive 0] = some w' ∧ w'.handed = [(1,0)] := by
    refine ⟨_,rfl,_,rfl,?_⟩
    decide
  obtain ⟨w,ran,w',starved,passed⟩ := reached
  have before := drive_runs next?_step ran
  have interval : Runs (fun s event t => StarvedStep 2 s event t ∧ Servable 2 s) w
      [.dropPermit 1,.receive 0] w' := by
    refine drive_runs (fun s event t taken => ?_) starved
    obtain ⟨moved,servable⟩ := Option.filter_eq_some_iff.mp taken
    exact ⟨starvedNext?_step 2 s event t moved,of_decide_eq_true servable⟩
  exact ⟨w,w',before,interval,passed,bounded_bypass before interval (by decide)⟩

end Lucida.Store.SourceLimiter
