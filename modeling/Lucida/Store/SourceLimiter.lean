import Mathlib.Data.List.MinMax
import Mathlib.Data.Prod.Lex
import Lucida.Lib.IndexMap
import Lucida.Lib.Runs

namespace Lucida.Store.SourceLimiter
open Lib

abbrev ReaderId := Nat
-- One queued `acquire`: the oneshot channel its sender and receiver share.
abbrev Ticket := Nat

structure ReaderState where
  inFlight : Nat
  waiters : List Ticket
  lastGranted : Nat
  deriving DecidableEq, Repr

structure State where
  available : Nat
  readers : IndexMap ReaderId ReaderState
  granted : Nat

def State.new (totalPermits : Nat) : State := ⟨totalPermits,.empty,0⟩

-- `reader_mut` reads and writes through one entry: the stored one, or the one
-- it inserts, which starts at the current mark as if just served.
def State.readerMut (s : State) (reader : ReaderId) : ReaderState :=
  (s.readers.get? reader).getD ⟨0,[],s.granted⟩

def State.put (s : State) (reader : ReaderId) (entry : ReaderState) : State :=
  {s with readers := s.readers.insert reader entry}

-- `none` is a panic: an `expect` that fired or an unsigned subtraction below zero.
def State.admitReader (s : State) (reader : ReaderId) : Option State :=
  if s.available = 0 then none
  else
    let charged := {s with available := s.available-1,granted := s.granted+1}
    let entry := charged.readerMut reader
    some (charged.put reader {entry with inFlight := entry.inFlight+1,lastGranted := charged.granted})

def ReaderState.need (id : ReaderId) (entry : ReaderState) : ℕ ×ₗ ℕ ×ₗ ℕ :=
  toLex (entry.inFlight,toLex (entry.lastGranted,id))

def State.neediestWaitingReader (s : State) : Option ReaderId :=
  ((s.readers.entries.filter fun e => !e.2.waiters.isEmpty).argmin fun e => e.2.need e.1).map Prod.fst

def State.prune (s : State) (reader : ReaderId) : State :=
  match s.readers.get? reader with
  | some entry =>
    if entry.inFlight = 0 ∧ entry.waiters = [] then {s with readers := s.readers.erase reader} else s
  | none => s

def State.popWaiter (s : State) (next : ReaderId) : Option (Ticket × State) :=
  match (s.readerMut next).waiters with
  | [] => none
  | sender::rest => some (sender,s.put next {s.readerMut next with waiters := rest})

-- The permit came back from a receiver that is gone: the charge is undone under
-- the same lock. `lastGranted` keeps what `admitReader` wrote.
def State.undo (s : State) (next : ReaderId) : Option State :=
  let entry := s.readerMut next
  if entry.inFlight = 0 then none
  else some (({s with available := s.available+1}.put next {entry with inFlight := entry.inFlight-1}).prune next)

def State.queuedReads (s : State) : Nat := s.readers.total fun entry => entry.waiters.length

-- The loop of `release`. `alive` answers whether a sender's receiver still
-- exists. Every turn but the last drops one queued sender, so the queue length
-- bounds the turns.
def State.handOff (alive : Ticket → Bool) : Nat → State → Option (State × Option (ReaderId × Ticket))
  | 0,_ => none
  | turns+1,s =>
    if s.available = 0 then some (s,none)
    else match s.neediestWaitingReader with
      | none => some (s,none)
      | some next => do
        let (sender,popped) ← s.popWaiter next
        let charged ← popped.admitReader next
        if alive sender then some (charged,some (next,sender))
        else
          let restored ← charged.undo next
          restored.handOff alive turns

def State.release (s : State) (alive : Ticket → Bool) (reader : ReaderId) :
    Option (State × Option (ReaderId × Ticket)) :=
  match s.readers.get? reader with
  | none => none
  | some entry =>
    if entry.inFlight = 0 then none
    else
      let returned := {s.put reader {entry with inFlight := entry.inFlight-1} with available := s.available+1}
      let pruned := returned.prune reader
      pruned.handOff alive (pruned.queuedReads+1)

-- The limiter with everyone using it: receivers still awaited, permits sitting
-- in a oneshot, permits held by a read. `handed` and `received` only record
-- what happened.
structure World where
  state : State
  waiting : List Ticket
  delivered : List (Ticket × ReaderId)
  held : List ReaderId
  nextTicket : Ticket
  handed : List (ReaderId × Ticket)
  received : List Ticket

def World.new (totalPermits : Nat) : World := ⟨.new totalPermits,[],[],[],0,[],[]⟩

inductive Event where
  | acquire (reader : ReaderId)
  | receive (ticket : Ticket)
  | cancel (ticket : Ticket)
  | cancelDelivered (ticket : Ticket)
  | dropPermit (reader : ReaderId)
  deriving DecidableEq, Repr

inductive Outcome where
  | next (w : World)
  | refused
  | fault

def World.release (w : World) (reader : ReaderId) : Outcome :=
  match w.state.release (fun ticket => decide (ticket ∈ w.waiting)) reader with
  | none => .fault
  | some (s,none) => .next {w with state := s}
  | some (s,some (next,ticket)) =>
    .next {w with
      state := s
      waiting := w.waiting.erase ticket
      delivered := (ticket,next)::w.delivered
      handed := w.handed ++ [(next,ticket)]}

def World.acquire (w : World) (reader : ReaderId) : Outcome :=
  if 0 < w.state.available then
    match w.state.admitReader reader with
    | none => .fault
    | some s => .next {w with state := s,held := reader::w.held}
  else
    let entry := w.state.readerMut reader
    .next {w with
      state := w.state.put reader {entry with waiters := entry.waiters ++ [w.nextTicket]}
      waiting := w.nextTicket::w.waiting
      nextTicket := w.nextTicket+1}

-- A permit that reached a oneshot whose `acquire` is dropped before polling it
-- is dropped with the channel, so it is released like any other.
def World.advance (w : World) : Event → Outcome
  | .acquire reader => w.acquire reader
  | .receive ticket =>
    match w.delivered.find? fun d => d.1 = ticket with
    | none => .refused
    | some (sent,reader) =>
      .next {w with
        delivered := w.delivered.erase (sent,reader)
        held := reader::w.held
        received := ticket::w.received}
  | .cancel ticket =>
    if ticket ∈ w.waiting then .next {w with waiting := w.waiting.erase ticket} else .refused
  | .cancelDelivered ticket =>
    match w.delivered.find? fun d => d.1 = ticket with
    | none => .refused
    | some (sent,reader) => {w with delivered := w.delivered.erase (sent,reader)}.release reader
  | .dropPermit reader =>
    if reader ∈ w.held then {w with held := w.held.erase reader}.release reader else .refused

def Step (w : World) (event : Event) (w' : World) : Prop := w.advance event = .next w'

def World.next? (w : World) (event : Event) : Option World :=
  match w.advance event with
  | .next w' => some w'
  | _ => none

theorem next?_step (w : World) (event : Event) (w' : World) (taken : w.next? event = some w') :
    Step w event w' := by
  unfold World.next? at taken
  split at taken
  · rename_i _ moved
    cases taken
    exact moved
  · cases taken

@[simp] theorem get?_put (s : State) (reader r : ReaderId) (entry : ReaderState) :
    (s.put reader entry).readers.get? r = if r = reader then some entry else s.readers.get? r := by
  simp [State.put]

@[simp] theorem put_available (s : State) (reader : ReaderId) (entry : ReaderState) :
    (s.put reader entry).available = s.available := rfl

@[simp] theorem put_granted (s : State) (reader : ReaderId) (entry : ReaderState) :
    (s.put reader entry).granted = s.granted := rfl

@[simp] theorem readerMut_put (s : State) (reader r : ReaderId) (entry : ReaderState) :
    (s.put reader entry).readerMut r = if r = reader then entry else s.readerMut r := by
  unfold State.readerMut
  rw [get?_put]
  split <;> rfl

theorem readerMut_of_some (found : s.readers.get? reader = some entry) : State.readerMut s reader = entry := by
  simp [State.readerMut,found]

theorem readerMut_of_none (absent : s.readers.get? reader = none) :
    State.readerMut s reader = ⟨0,[],s.granted⟩ := by simp [State.readerMut,absent]

def State.load (s : State) : Nat := s.readers.total ReaderState.inFlight

def Ignores (weight : ReaderState → Nat) : Prop :=
  ∀ entry : ReaderState, entry.inFlight = 0 → entry.waiters = [] → weight entry = 0

theorem total_put {weight : ReaderState → Nat} (ignores : Ignores weight) (s : State) (reader : ReaderId)
    (entry : ReaderState) :
    (s.put reader entry).readers.total weight + weight (s.readerMut reader) =
      s.readers.total weight + weight entry := by
  cases found : s.readers.get? reader with
  | none =>
    rw [readerMut_of_none found,ignores _ rfl rfl]
    exact IndexMap.total_insert_new found entry weight
  | some old =>
    rw [readerMut_of_some found]
    exact IndexMap.total_insert_old found entry weight

theorem total_prune {weight : ReaderState → Nat} (ignores : Ignores weight) (s : State) (reader : ReaderId) :
    (s.prune reader).readers.total weight = s.readers.total weight := by
  unfold State.prune
  split
  · rename_i entry found
    split
    · rename_i idle
      have removed := IndexMap.total_erase found weight
      rw [ignores entry idle.1 idle.2] at removed
      exact removed
    · rfl
  · rfl

theorem load_ignores : Ignores ReaderState.inFlight := fun _ idle _ => idle

theorem queued_ignores : Ignores fun entry => entry.waiters.length := by
  intro entry _ empty
  simp [empty]

@[simp] theorem prune_available (s : State) (reader : ReaderId) : (s.prune reader).available = s.available := by
  unfold State.prune
  split
  · split <;> rfl
  · rfl

@[simp] theorem prune_granted (s : State) (reader : ReaderId) : (s.prune reader).granted = s.granted := by
  unfold State.prune
  split
  · split <;> rfl
  · rfl

def Busy (entry : ReaderState) : Prop := 0 < entry.inFlight ∨ entry.waiters ≠ []

theorem get?_prune (s : State) (reader r : ReaderId) :
    (s.prune reader).readers.get? r = (s.readers.get? r).filter fun entry =>
      !(decide (r = reader) && decide (entry.inFlight = 0 ∧ entry.waiters = [])) := by
  unfold State.prune
  by_cases same : r = reader
  · subst same
    cases found : s.readers.get? r with
    | none => simp [found]
    | some entry =>
      by_cases idle : entry.inFlight = 0 ∧ entry.waiters = []
      · simp [idle,Option.filter]
      · simp only [idle,if_false,found,Option.filter]
        simp
  · cases target : s.readers.get? reader with
    | none => cases found : s.readers.get? r <;> simp [same,Option.filter]
    | some entry =>
      by_cases idle : entry.inFlight = 0 ∧ entry.waiters = []
      · cases found : s.readers.get? r <;> simp [idle,same,Option.filter,found]
      · cases found : s.readers.get? r <;> simp [idle,same,Option.filter,found]

theorem prune_some (found : (State.prune s reader).readers.get? r = some entry) :
    s.readers.get? r = some entry ∧ (r = reader → Busy entry) := by
  rw [get?_prune,Option.filter_eq_some_iff] at found
  refine ⟨found.1,fun same => ?_⟩
  have kept := found.2
  simp only [same,decide_true,Bool.true_and,Bool.not_eq_true',decide_eq_false_iff_not,not_and] at kept
  unfold Busy
  by_cases zero : entry.inFlight = 0
  · exact .inr (kept zero)
  · exact .inl (Nat.pos_of_ne_zero zero)

theorem prune_reads (s : State) (reader r : ReaderId) :
    ((s.prune reader).readerMut r).inFlight = (s.readerMut r).inFlight ∧
      ((s.prune reader).readerMut r).waiters = (s.readerMut r).waiters := by
  unfold State.readerMut
  rw [get?_prune,prune_granted]
  cases found : s.readers.get? r with
  | none => simp [Option.filter]
  | some entry =>
    by_cases idle : r = reader ∧ entry.inFlight = 0 ∧ entry.waiters = []
    · simp [Option.filter,idle]
    · have kept : ¬r = reader ∨ ¬entry.inFlight = 0 ∨ ¬entry.waiters = [] := by tauto
      simp [Option.filter,kept]

theorem neediest_none (none : State.neediestWaitingReader s = none) (r : ReaderId) :
    (s.readerMut r).waiters = [] := by
  unfold State.neediestWaitingReader at none
  rw [Option.map_eq_none_iff,List.argmin_eq_none,List.filter_eq_nil_iff] at none
  cases found : s.readers.get? r with
  | none => rw [readerMut_of_none found]
  | some entry =>
    rw [readerMut_of_some found]
    simpa using none (r,entry) (IndexMap.mem_entries_iff.mpr found)

theorem neediest_some (chosen : State.neediestWaitingReader s = some next) :
    ∃ entry, s.readers.get? next = some entry ∧ entry.waiters ≠ [] ∧
      ∀ r other, s.readers.get? r = some other → other.waiters ≠ [] → entry.need next ≤ other.need r := by
  unfold State.neediestWaitingReader at chosen
  obtain ⟨⟨id,entry⟩,least,rfl⟩ := Option.map_eq_some_iff.mp chosen
  have member := List.mem_filter.mp (List.argmin_mem least)
  refine ⟨entry,IndexMap.mem_entries_iff.mp member.1,by simpa using member.2,?_⟩
  intro r other found waits
  have listed : (r,other) ∈ s.readers.entries.filter fun e => !e.2.waiters.isEmpty :=
    List.mem_filter.mpr ⟨IndexMap.mem_entries_iff.mpr found,by simpa using waits⟩
  exact List.le_of_mem_argmin listed least

-- What one turn of the handoff does before the receiver answers: the front
-- sender leaves the queue and the permit is charged.
structure Offered (s : State) (next : ReaderId) (entry : ReaderState) (sender : Ticket) (charged : State) :
    Prop where
  found : s.readers.get? next = some entry
  front : ∃ rest, entry.waiters = sender::rest
  available : charged.available+1 = s.available
  granted : charged.granted = s.granted+1
  readers : ∀ r, charged.readers.get? r =
    if r = next then some ⟨entry.inFlight+1,entry.waiters.tail,s.granted+1⟩ else s.readers.get? r
  load : charged.load = s.load+1
  queued : charged.queuedReads+1 = s.queuedReads

theorem admit_spec (room : 0 < State.available s) (reader : ReaderId) :
    ∃ charged, s.admitReader reader = some charged ∧ charged.available+1 = s.available ∧
      charged.granted = s.granted+1 ∧ charged.load = s.load+1 ∧ charged.queuedReads = s.queuedReads ∧
      ∀ r, charged.readers.get? r =
        if r = reader then some ⟨(s.readerMut reader).inFlight+1,(s.readerMut reader).waiters,s.granted+1⟩
        else s.readers.get? r := by
  let base : State := {s with available := s.available-1,granted := s.granted+1}
  have reads : (base.readerMut reader).inFlight = (s.readerMut reader).inFlight ∧
      (base.readerMut reader).waiters = (s.readerMut reader).waiters := by
    unfold State.readerMut
    change ((s.readers.get? reader).getD _).inFlight = _ ∧ ((s.readers.get? reader).getD _).waiters = _
    cases s.readers.get? reader <;> exact ⟨rfl,rfl⟩
  let entry : ReaderState :=
    ⟨(s.readerMut reader).inFlight+1,(s.readerMut reader).waiters,s.granted+1⟩
  have result : s.admitReader reader = some (base.put reader entry) := by
    unfold State.admitReader
    rw [if_neg (by omega)]
    simp only [base,entry] at reads ⊢
    rw [← reads.1,← reads.2]
  have load : (base.put reader entry).load + (s.readerMut reader).inFlight =
      s.load + ((s.readerMut reader).inFlight+1) := by
    have put := total_put load_ignores base reader entry
    rwa [reads.1] at put
  have queued : (base.put reader entry).queuedReads + (s.readerMut reader).waiters.length =
      s.queuedReads + (s.readerMut reader).waiters.length := by
    have put := total_put queued_ignores base reader entry
    simp only [reads.2] at put
    exact put
  refine ⟨_,result,?_,rfl,by omega,by omega,fun r => get?_put base reader r entry⟩
  change s.available-1+1 = s.available
  omega

theorem offer_spec (room : 0 < State.available s) (chosen : s.neediestWaitingReader = some next) :
    ∃ entry sender popped charged, s.popWaiter next = some (sender,popped) ∧
      popped.admitReader next = some charged ∧ Offered s next entry sender charged := by
  obtain ⟨entry,found,waits,_⟩ := neediest_some chosen
  have current := readerMut_of_some found
  cases queue : entry.waiters with
  | nil => exact absurd queue waits
  | cons sender rest =>
    have pop : s.popWaiter next = some (sender,s.put next {entry with waiters := rest}) := by
      simp [State.popWaiter,current,queue]
    obtain ⟨charged,admitted,available,granted,load,queued,readers⟩ :=
      admit_spec (s := s.put next {entry with waiters := rest}) room next
    have loadPut := total_put load_ignores s next {entry with waiters := rest}
    have queuedPut := total_put queued_ignores s next {entry with waiters := rest}
    rw [current] at loadPut queuedPut
    refine ⟨entry,sender,_,charged,pop,admitted,found,⟨rest,queue⟩,available,granted,?_,?_,?_⟩
    · intro r
      rw [readers r]
      by_cases same : r = next <;> simp [same,queue]
    · unfold State.load at load ⊢
      simp only at loadPut
      omega
    · unfold State.queuedReads at queued ⊢
      simp only [queue,List.length_cons] at queuedPut
      omega

-- A turn whose receiver is gone: the queue lost its front, the reader keeps the
-- mark of the permit it never got, everything else is as before.
structure Discarded (s : State) (next : ReaderId) (entry : ReaderState) (restored : State) : Prop where
  available : restored.available = s.available
  granted : restored.granted = s.granted+1
  others : ∀ r, r ≠ next → restored.readers.get? r = s.readers.get? r
  kept : ∀ after, restored.readers.get? next = some after →
    after = ⟨entry.inFlight,entry.waiters.tail,s.granted+1⟩ ∧ Busy after
  dropped : restored.readers.get? next = none → entry.inFlight = 0 ∧ entry.waiters.tail = []
  load : restored.load = s.load
  queued : restored.queuedReads+1 = s.queuedReads

theorem undo_spec (offered : Offered s next entry sender charged) :
    ∃ restored, charged.undo next = some restored ∧ Discarded s next entry restored := by
  have current : charged.readerMut next = ⟨entry.inFlight+1,entry.waiters.tail,s.granted+1⟩ :=
    readerMut_of_some (by rw [offered.readers next,if_pos rfl])
  let back : ReaderState := ⟨entry.inFlight,entry.waiters.tail,s.granted+1⟩
  let undone : State := {charged with available := charged.available+1}.put next back
  have result : charged.undo next = some (undone.prune next) := by
    simp [State.undo,current,undone,back]
  have readers : ∀ r, undone.readers.get? r = if r = next then some back else s.readers.get? r := by
    intro r
    simp only [undone,get?_put]
    by_cases same : r = next
    · simp [same]
    · simpa [same] using offered.readers r
  have load : undone.load + (entry.inFlight+1) = charged.load + entry.inFlight := by
    have put := total_put load_ignores {charged with available := charged.available+1} next back
    change _ + (charged.readerMut next).inFlight = _ at put
    rwa [current] at put
  have queued : undone.queuedReads + entry.waiters.tail.length = charged.queuedReads + entry.waiters.tail.length := by
    have put := total_put queued_ignores {charged with available := charged.available+1} next back
    change _ + (charged.readerMut next).waiters.length = _ at put
    rwa [current] at put
  refine ⟨_,result,?_,?_,?_,?_,?_,?_,?_⟩
  · rw [prune_available]; exact offered.available
  · rw [prune_granted]; exact offered.granted
  · intro r other
    rw [get?_prune,readers r,if_neg other]
    cases s.readers.get? r <;> simp [other,Option.filter]
  · intro after found
    obtain ⟨stored,busy⟩ := prune_some found
    rw [readers next,if_pos rfl] at stored
    cases Option.some.inj stored
    exact ⟨rfl,busy rfl⟩
  · intro gone
    rw [get?_prune,readers next,if_pos rfl] at gone
    simpa [Option.filter,back] using gone
  · change (undone.prune next).readers.total _ = _
    rw [total_prune load_ignores]
    change undone.load = s.load
    have charge := offered.load
    omega
  · change (undone.prune next).readers.total _ + 1 = _
    rw [total_prune queued_ignores]
    change undone.queuedReads + 1 = s.queuedReads
    have pops := offered.queued
    omega

theorem readerMut_congr {s s' : State} (same : s'.readers.get? r = s.readers.get? r) :
    (s'.readerMut r).inFlight = (s.readerMut r).inFlight ∧
      (s'.readerMut r).waiters = (s.readerMut r).waiters := by
  unfold State.readerMut
  rw [same]
  cases s.readers.get? r <;> exact ⟨rfl,rfl⟩

structure Ledger (total : Nat) (out : ReaderId → Nat) (s : State) : Prop where
  conserved : s.available + s.load = total
  charged : ∀ r, (s.readerMut r).inFlight = out r
  tracked : ∀ r entry, s.readers.get? r = some entry → Busy entry
  marks : ∀ r entry, s.readers.get? r = some entry → entry.lastGranted ≤ s.granted

def Drained (s : State) : Prop := 0 < s.available → ∀ r, (s.readerMut r).waiters = []

def charge (out : ReaderId → Nat) (next : ReaderId) (r : ReaderId) : Nat := out r + if r = next then 1 else 0

def settle (out : ReaderId → Nat) : Option (ReaderId × Ticket) → ReaderId → Nat
  | none => out
  | some (next,_) => charge out next

theorem ledger_charge (books : Ledger total out s) (available : charged.available+1 = s.available)
    (granted : charged.granted = s.granted+1) (load : charged.load = s.load+1)
    (found : charged.readers.get? next = some ⟨out next+1,queue,s.granted+1⟩)
    (others : ∀ r, r ≠ next → charged.readers.get? r = s.readers.get? r) :
    Ledger total (charge out next) charged := by
  refine ⟨?_,?_,?_,?_⟩
  · have before := books.conserved
    omega
  · intro r
    by_cases same : r = next
    · subst same
      simp [readerMut_of_some found,charge]
    · simp [(readerMut_congr (others r same)).1,charge,same,books.charged r]
  · intro r after stored
    by_cases same : r = next
    · subst same
      cases Option.some.inj (found.symm.trans stored)
      exact .inl (Nat.succ_pos _)
    · exact books.tracked r after ((others r same).symm.trans stored)
  · intro r after stored
    rw [granted]
    by_cases same : r = next
    · subst same
      cases Option.some.inj (found.symm.trans stored)
      exact Nat.le_refl _
    · exact Nat.le_succ_of_le (books.marks r after ((others r same).symm.trans stored))

theorem admit_ledger (books : Ledger total out s) (room : 0 < s.available) (reader : ReaderId) :
    ∃ charged, s.admitReader reader = some charged ∧ Ledger total (charge out reader) charged ∧
      ∀ r, (charged.readerMut r).waiters = (s.readerMut r).waiters := by
  obtain ⟨charged,admitted,available,granted,load,_,readers⟩ := admit_spec room reader
  have found := (readers reader).trans (if_pos rfl)
  have others : ∀ r, r ≠ reader → charged.readers.get? r = s.readers.get? r :=
    fun r apart => (readers r).trans (if_neg apart)
  refine ⟨charged,admitted,?_,?_⟩
  · rw [books.charged reader] at found
    exact ledger_charge books available granted load found others
  · intro r
    by_cases same : r = reader
    · subst same
      rw [readerMut_of_some found]
    · exact (readerMut_congr (others r same)).2

theorem Offered.ledger (offered : Offered s next entry sender charged) (books : Ledger total out s) :
    Ledger total (charge out next) charged := by
  have owed := books.charged next
  rw [readerMut_of_some offered.found] at owed
  have found := (offered.readers next).trans (if_pos rfl)
  rw [owed] at found
  exact ledger_charge books offered.available offered.granted offered.load found
    fun r apart => (offered.readers r).trans (if_neg apart)

theorem Discarded.ledger (discarded : Discarded s next entry restored)
    (found : s.readers.get? next = some entry) (books : Ledger total out s) : Ledger total out restored := by
  have owed := books.charged next
  rw [readerMut_of_some found] at owed
  refine ⟨?_,?_,?_,?_⟩
  · rw [discarded.available,discarded.load]
    exact books.conserved
  · intro r
    by_cases same : r = next
    · subst same
      cases after : restored.readers.get? r with
      | none => rw [readerMut_of_none after,← owed,(discarded.dropped after).1]
      | some kept => rw [readerMut_of_some after,(discarded.kept kept after).1,← owed]
    · rw [(readerMut_congr (discarded.others r same)).1]
      exact books.charged r
  · intro r after stored
    by_cases same : r = next
    · subst same
      exact (discarded.kept after stored).2
    · exact books.tracked r after ((discarded.others r same).symm.trans stored)
  · intro r after stored
    rw [discarded.granted]
    by_cases same : r = next
    · subst same
      rw [(discarded.kept after stored).1]
    · exact Nat.le_succ_of_le (books.marks r after ((discarded.others r same).symm.trans stored))

-- Induction on the turns left: a dead sender costs one turn and one queued
-- sender, and every other turn ends the loop.
theorem handOff_ledger (alive : Ticket → Bool) (books : Ledger total out s)
    (room : s.available ≤ 1 ∨ ∀ r, (s.readerMut r).waiters = []) (enough : s.queuedReads < turns) :
    ∃ s' handed, s.handOff alive turns = some (s',handed) ∧ Ledger total (settle out handed) s' ∧
      Drained s' ∧ ∀ next ticket, handed = some (next,ticket) → alive ticket = true := by
  induction turns generalizing s with
  | zero => omega
  | succ turns ih =>
    by_cases empty : s.available = 0
    · exact ⟨s,none,by simp [State.handOff,empty],books,fun more => by omega,by simp⟩
    · cases chosen : s.neediestWaitingReader with
      | none =>
        exact ⟨s,none,by simp [State.handOff,empty,chosen],books,fun _ => neediest_none chosen,by simp⟩
      | some next =>
        obtain ⟨entry,sender,popped,charged,pop,admitted,offered⟩ :=
          offer_spec (Nat.pos_of_ne_zero empty) chosen
        have single : s.available ≤ 1 := by
          rcases room with small | idle
          · exact small
          · obtain ⟨rest,front⟩ := offered.front
            have none := idle next
            rw [readerMut_of_some offered.found,front] at none
            cases none
        by_cases live : alive sender = true
        · refine ⟨charged,some (next,sender),by simp [State.handOff,empty,chosen,pop,admitted,live],
            offered.ledger books,fun more => ?_,?_⟩
          · have spent := offered.available
            omega
          · intro _ _ equal
            cases equal
            exact live
        · obtain ⟨restored,undone,discarded⟩ := undo_spec offered
          have fewer := discarded.queued
          obtain ⟨s',handed,ran,rest⟩ := ih (discarded.ledger offered.found books)
            (.inl (discarded.available ▸ single)) (by omega)
          exact ⟨s',handed,by simp [State.handOff,empty,chosen,pop,admitted,live,undone,ran],rest⟩

-- The prelude of `release`: one permit comes back, before anyone is served.
def State.returned (s : State) (reader : ReaderId) (entry : ReaderState) : State :=
  {s.put reader {entry with inFlight := entry.inFlight-1} with available := s.available+1}

theorem returned_readers (s : State) (reader r : ReaderId) (entry : ReaderState) :
    (s.returned reader entry).readers.get? r =
      if r = reader then some {entry with inFlight := entry.inFlight-1} else s.readers.get? r :=
  get?_put s reader r _

theorem returned_load {s : State} (found : s.readers.get? reader = some entry) (held : 0 < entry.inFlight) :
    (s.returned reader entry).load+1 = s.load := by
  have put := total_put load_ignores s reader {entry with inFlight := entry.inFlight-1}
  rw [readerMut_of_some found] at put
  change (s.returned reader entry).load + entry.inFlight = s.load + (entry.inFlight-1) at put
  omega

theorem returned_ledger (books : Ledger total (charge out reader) s) (found : s.readers.get? reader = some entry)
    (owed : entry.inFlight = out reader+1) : Ledger total out ((s.returned reader entry).prune reader) := by
  refine ⟨?_,?_,?_,?_⟩
  · have same : ((s.returned reader entry).prune reader).load = (s.returned reader entry).load :=
      total_prune load_ignores _ reader
    rw [prune_available,same]
    have before := books.conserved
    have load := returned_load found (by omega)
    change s.available+1+(s.returned reader entry).load = total
    omega
  · intro r
    rw [(prune_reads _ reader r).1]
    by_cases same : r = reader
    · subst same
      rw [readerMut_of_some ((returned_readers s r r entry).trans (if_pos rfl))]
      change entry.inFlight-1 = out r
      omega
    · rw [(readerMut_congr ((returned_readers s reader r entry).trans (if_neg same))).1,books.charged r]
      simp [charge,same]
  · intro r after stored
    obtain ⟨kept,busy⟩ := prune_some stored
    by_cases same : r = reader
    · exact busy same
    · exact books.tracked r after (((returned_readers s reader r entry).trans (if_neg same)).symm.trans kept)
  · intro r after stored
    obtain ⟨kept,_⟩ := prune_some stored
    rw [prune_granted]
    by_cases same : r = reader
    · subst same
      cases Option.some.inj (((returned_readers s r r entry).trans (if_pos rfl)).symm.trans kept)
      exact books.marks r entry found
    · exact books.marks r after (((returned_readers s reader r entry).trans (if_neg same)).symm.trans kept)

theorem returned_room (drained : Drained s) (found : s.readers.get? reader = some entry) :
    ((s.returned reader entry).prune reader).available ≤ 1 ∨
      ∀ r, (((s.returned reader entry).prune reader).readerMut r).waiters = [] := by
  by_cases zero : s.available = 0
  · left
    rw [prune_available]
    change s.available+1 ≤ 1
    omega
  · right
    intro r
    rw [(prune_reads _ reader r).2]
    have idle := drained (Nat.pos_of_ne_zero zero) r
    by_cases same : r = reader
    · subst same
      rw [readerMut_of_some ((returned_readers s r r entry).trans (if_pos rfl))]
      rwa [readerMut_of_some found] at idle
    · rwa [(readerMut_congr ((returned_readers s reader r entry).trans (if_neg same))).2]

theorem release_ledger (books : Ledger total (charge out reader) s) (drained : Drained s)
    (alive : Ticket → Bool) :
    ∃ s' handed, s.release alive reader = some (s',handed) ∧ Ledger total (settle out handed) s' ∧
      Drained s' ∧ ∀ next ticket, handed = some (next,ticket) → alive ticket = true := by
  have owed := books.charged reader
  cases found : s.readers.get? reader with
  | none =>
    rw [readerMut_of_none found] at owed
    simp [charge] at owed
  | some entry =>
    rw [readerMut_of_some found] at owed
    simp only [charge,if_true] at owed
    obtain ⟨s',handed,ran,rest⟩ := handOff_ledger alive (returned_ledger books found owed)
      (returned_room drained found) (Nat.lt_succ_self _)
    refine ⟨s',handed,?_,rest⟩
    unfold State.release
    simp only [found]
    rw [if_neg (by omega)]
    exact ran

theorem enqueue_ledger (books : Ledger total out s) (reader : ReaderId) (ticket : Ticket) :
    Ledger total out
      (s.put reader {s.readerMut reader with waiters := (s.readerMut reader).waiters ++ [ticket]}) := by
  have mark : (s.readerMut reader).lastGranted ≤ s.granted := by
    cases found : s.readers.get? reader with
    | none => rw [readerMut_of_none found]
    | some entry => rw [readerMut_of_some found]; exact books.marks reader entry found
  refine ⟨?_,?_,?_,?_⟩
  · have put := total_put load_ignores s reader
      {s.readerMut reader with waiters := (s.readerMut reader).waiters ++ [ticket]}
    rw [← books.conserved,put_available]
    exact congrArg (s.available + ·) (Nat.add_right_cancel put)
  · intro r
    rw [readerMut_put,← books.charged r]
    by_cases same : r = reader <;> simp [same]
  · intro r entry stored
    rw [get?_put] at stored
    split at stored
    · cases stored
      exact .inr (by simp)
    · exact books.tracked r entry stored
  · intro r entry stored
    rw [get?_put] at stored
    split at stored
    · cases stored
      exact mark
    · exact books.marks r entry stored

def World.outstanding (w : World) (r : ReaderId) : Nat :=
  w.held.count r + (w.delivered.map Prod.snd).count r

structure Invariant (total : Nat) (w : World) : Prop where
  ledger : Ledger total w.outstanding w.state
  drained : Drained w.state

theorem initial_invariant (total : Nat) : Invariant total (World.new total) := by
  refine ⟨⟨by simp [World.new,State.new,State.load,IndexMap.total,IndexMap.empty],?_,?_,?_⟩,?_⟩
  · intro r; rfl
  · intro r entry stored; cases stored
  · intro r entry stored; cases stored
  · intro _ r; rfl

theorem World.release_invariant {w : World} (books : Ledger total (charge w.outstanding reader) w.state)
    (drained : Drained w.state) : ∃ w', w.release reader = .next w' ∧ Invariant total w' := by
  obtain ⟨s,handed,ran,settled,quiet,_⟩ := release_ledger books drained
    fun ticket => decide (ticket ∈ w.waiting)
  cases handed with
  | none => exact ⟨{w with state := s},by simp [World.release,ran],settled,quiet⟩
  | some grant =>
    simp only [World.release,ran]
    refine ⟨_,rfl,?_,quiet⟩
    convert settled using 1
    funext r
    simp only [World.outstanding,List.map_cons,List.count_cons,settle,charge,beq_iff_eq,Nat.add_assoc,
      eq_comm (a := r)]

theorem count_erase_delivered {delivered : List (Ticket × ReaderId)}
    (found : delivered.find? (fun d => decide (d.1 = ticket)) = some (sent,reader)) (r : ReaderId) :
    (delivered.map Prod.snd).count r =
      ((delivered.erase (sent,reader)).map Prod.snd).count r + if r = reader then 1 else 0 := by
  have member := List.mem_of_find?_eq_some found
  have shuffled := (List.perm_cons_erase member).map Prod.snd
  rw [shuffled.count_eq r,List.map_cons,List.count_cons]
  simp only [beq_iff_eq,eq_comm (a := r)]

theorem advance_invariant (valid : Invariant total w) (event : Event) :
    w.advance event = .refused ∨ ∃ w', w.advance event = .next w' ∧ Invariant total w' := by
  cases event with
  | acquire reader =>
    right
    by_cases room : 0 < w.state.available
    · obtain ⟨charged,admitted,books,queues⟩ := admit_ledger valid.ledger room reader
      simp only [World.advance,World.acquire,room,if_true,admitted]
      refine ⟨_,rfl,?_,?_⟩
      · convert books using 1
        funext r
        simp only [World.outstanding,List.count_cons,charge,beq_iff_eq,eq_comm (a := r)]
        omega
      · exact fun _ r => (queues r).trans (valid.drained room r)
    · simp only [World.advance,World.acquire,room,if_false]
      refine ⟨_,rfl,enqueue_ledger valid.ledger reader w.nextTicket,?_⟩
      exact fun more => absurd more room
  | receive ticket =>
    cases found : w.delivered.find? fun d => d.1 = ticket with
    | none => exact .inl (by simp [World.advance,found])
    | some sent =>
      right
      simp only [World.advance,found]
      refine ⟨_,rfl,?_,valid.drained⟩
      convert valid.ledger using 1
      funext r
      simp only [World.outstanding,List.count_cons,count_erase_delivered found r,beq_iff_eq,eq_comm (a := r)]
      omega
  | cancel ticket =>
    by_cases live : ticket ∈ w.waiting
    · right
      simp only [World.advance,live,if_true]
      exact ⟨_,rfl,valid.ledger,valid.drained⟩
    · exact .inl (by simp [World.advance,live])
  | cancelDelivered ticket =>
    cases found : w.delivered.find? fun d => d.1 = ticket with
    | none => exact .inl (by simp [World.advance,found])
    | some sent =>
      right
      simp only [World.advance,found]
      refine World.release_invariant ?_ valid.drained
      convert valid.ledger using 1
      funext r
      simp only [World.outstanding,charge,count_erase_delivered found r,Nat.add_assoc]
  | dropPermit reader =>
    by_cases holds : reader ∈ w.held
    · right
      simp only [World.advance,holds,if_true]
      refine World.release_invariant ?_ valid.drained
      convert valid.ledger using 1
      funext r
      have shuffled := (List.perm_cons_erase holds).count_eq r
      rw [List.count_cons] at shuffled
      simp only [World.outstanding,charge,shuffled,beq_iff_eq,eq_comm (a := r)]
      omega
    · exact .inl (by simp [World.advance,holds])

theorem step_invariant (valid : Invariant total w) (step : Step w event w') : Invariant total w' := by
  rcases advance_invariant valid event with refused | ⟨after,taken,next⟩
  · exact absurd (step.symm.trans refused) (by simp)
  · cases step.symm.trans taken
    exact next

theorem runs_invariant (path : Runs Step (World.new total) events w) : Invariant total w :=
  path.preserves (fun _ _ _ => step_invariant) (initial_invariant total)

-- Permits are conserved, every charge has its permit, no permit is free while a
-- sender waits, and no step reaches an `expect` or an underflow.
theorem limiter_conserves_permits (path : Runs Step (World.new total) events w) :
    w.state.available + w.state.readers.total ReaderState.inFlight = total ∧
    (∀ r, (w.state.readerMut r).inFlight = w.held.count r + (w.delivered.map Prod.snd).count r) ∧
    (0 < w.state.available → ∀ r entry, w.state.readers.get? r = some entry → entry.waiters = []) ∧
    (∀ r entry, w.state.readers.get? r = some entry → 0 < entry.inFlight ∨ entry.waiters ≠ []) ∧
    ∀ event, w.advance event ≠ .fault := by
  have valid := runs_invariant path
  refine ⟨valid.ledger.conserved,valid.ledger.charged,?_,valid.ledger.tracked,?_⟩
  · intro room r entry stored
    have idle := valid.drained room r
    rwa [readerMut_of_some stored] at idle
  · intro event
    rcases advance_invariant valid event with refused | ⟨_,taken,_⟩
    · simp [refused]
    · simp [taken]

-- A handoff passes over a cancelled acquire and reaches the live one behind it.
theorem limiter_conserves_permits_past_a_cancelled_acquire :
    ∃ w, Runs Step (World.new 1) [.acquire 1,.acquire 2,.acquire 2,.cancel 0,.dropPermit 1,.receive 1] w ∧
      w.held = [2] ∧ w.state.available + w.state.readers.total ReaderState.inFlight = 1 ∧
      ∀ event, w.advance event ≠ .fault := by
  have reached : ∃ w, drive World.next? (World.new 1)
      [.acquire 1,.acquire 2,.acquire 2,.cancel 0,.dropPermit 1,.receive 1] = some w ∧ w.held = [2] := by
    refine ⟨_,rfl,?_⟩
    decide
  obtain ⟨w,ran,holds⟩ := reached
  have path := drive_runs next?_step ran
  obtain ⟨conserved,_,_,_,safe⟩ := limiter_conserves_permits path
  exact ⟨w,path,holds,conserved,safe⟩

end Lucida.Store.SourceLimiter
