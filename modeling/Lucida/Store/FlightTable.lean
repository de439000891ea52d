import Lucida.Store.Flights

namespace Lucida.Store.ChunkCache
open Lib

def Owns (f : Flights) (flight : FlightId) (key : ReadKey) : Prop :=
  ∃ read, f.reads.get? key = some read ∧ read.owner = flight

def Queues (f : Flights) (path : Path) (queued : QueuedRange) : Prop :=
  ∃ queue, f.queuedRanges.get? path = some queue ∧ queued ∈ queue

theorem owns_reads {f f' : Flights} (same : f'.reads = f.reads) : Owns f' flight key ↔ Owns f flight key := by
  unfold Owns
  rw [same]

@[simp] theorem storeQueue_reads (f : Flights) (path : Path) (queue : List QueuedRange) :
    (f.storeQueue path queue).reads = f.reads := rfl

@[simp] theorem storeQueue_nextFlight (f : Flights) (path : Path) (queue : List QueuedRange) :
    (f.storeQueue path queue).nextFlight = f.nextFlight := rfl

theorem get?_storeQueue (f : Flights) (path p : Path) (queue : List QueuedRange) :
    (f.storeQueue path queue).queuedRanges.get? p =
      if p = path then (if queue.isEmpty then none else some queue) else f.queuedRanges.get? p := by
  unfold Flights.storeQueue
  by_cases empty : queue.isEmpty = true
  · simp [empty]
  · simp [empty]

theorem queues_storeQueue (f : Flights) (path p : Path) (queue : List QueuedRange) (queued : QueuedRange) :
    Queues (f.storeQueue path queue) p queued ↔ if p = path then queued ∈ queue else Queues f p queued := by
  unfold Queues
  rw [get?_storeQueue]
  by_cases same : p = path
  · cases queue <;> simp [same]
  · simp [same]

theorem queues_dequeue (f : Flights) (path p : Path) (owner : FlightId) (queued : QueuedRange) :
    Queues (f.dequeue path owner) p queued ↔ Queues f p queued ∧ ¬(p = path ∧ queued.owner = owner) := by
  unfold Flights.dequeue
  cases stored : f.queuedRanges.get? path with
  | none =>
    refine ⟨fun queues => ⟨queues,?_⟩,And.left⟩
    rintro ⟨rfl,_⟩
    obtain ⟨_,found,_⟩ := queues
    cases stored.symm.trans found
  | some queue =>
    rw [queues_storeQueue]
    by_cases same : p = path
    · subst same
      simp [Queues,stored]
    · simp [same]

@[simp] theorem dequeue_reads (f : Flights) (path : Path) (owner : FlightId) :
    (f.dequeue path owner).reads = f.reads := by
  unfold Flights.dequeue
  split <;> rfl

@[simp] theorem dequeue_nextFlight (f : Flights) (path : Path) (owner : FlightId) :
    (f.dequeue path owner).nextFlight = f.nextFlight := by
  unfold Flights.dequeue
  split <;> rfl

-- What the loop shared by `complete` and `drop` does: exactly the listed entries
-- still under this owner go, and each goes with a message on its channel.
structure Settled (f : Flights) (owner : FlightId) (listed : List (ReadKey × Delivery)) (f' : Flights)
    (sends : Sends) : Prop where
  queues : f'.queuedRanges = f.queuedRanges
  flights : f'.nextFlight = f.nextFlight
  kept : ∀ key read, f'.reads.get? key = some read →
    f.reads.get? key = some read ∧ (read.owner = owner → key ∉ listed.map Prod.fst)
  stays : ∀ key read, f.reads.get? key = some read → read.owner ≠ owner ∨ key ∉ listed.map Prod.fst →
    f'.reads.get? key = some read
  sent : ∀ send ∈ sends, ∃ key read, f.reads.get? key = some read ∧ read.owner = owner ∧
    read.tx = send.1 ∧ (key,send.2) ∈ listed
  told : ∀ key read, f.reads.get? key = some read → read.owner = owner → key ∈ listed.map Prod.fst →
    read.tx ∈ sends.map Prod.fst

theorem settled_skip (tail : Settled f owner rest f' sends)
    (other : ∀ read, f.reads.get? key = some read → read.owner ≠ owner) :
    Settled f owner ((key,delivery)::rest) f' sends := by
  refine ⟨tail.queues,tail.flights,?_,?_,?_,?_⟩
  · intro k read stored
    obtain ⟨before,unlisted⟩ := tail.kept k read stored
    refine ⟨before,fun mine => ?_⟩
    have apart : k ≠ key := fun same => other read (same ▸ before) mine
    simpa [apart] using unlisted mine
  · intro k read stored why
    exact tail.stays k read stored (why.imp id (by simp +contextual))
  · intro send member
    obtain ⟨k,read,stored,owned,same,item⟩ := tail.sent send member
    exact ⟨k,read,stored,owned,same,List.mem_cons_of_mem _ item⟩
  · intro k read stored mine member
    refine tail.told k read stored mine ?_
    rcases List.mem_cons.mp member with rfl | member
    · exact absurd mine (other read stored)
    · exact member

theorem settled_take (found : f.reads.get? key = some entry) (mine : entry.owner = owner)
    (tail : Settled {f with reads := f.reads.erase key} owner rest f' sends) :
    Settled f owner ((key,delivery)::rest) f' ((entry.tx,delivery)::sends) := by
  have erased : ∀ k read, (f.reads.erase key).get? k = some read ↔ k ≠ key ∧ f.reads.get? k = some read := by
    intro k read
    rw [IndexMap.get?_erase]
    by_cases same : k = key <;> simp [same]
  refine ⟨tail.queues,tail.flights,?_,?_,?_,?_⟩
  · intro k read stored
    obtain ⟨before,unlisted⟩ := tail.kept k read stored
    obtain ⟨apart,before⟩ := (erased k read).mp before
    exact ⟨before,fun mine => by simpa [apart] using unlisted mine⟩
  · intro k read stored why
    refine tail.stays k read ((erased k read).mpr ⟨?_,stored⟩) (why.imp id (by simp +contextual))
    rintro rfl
    cases Option.some.inj (found.symm.trans stored)
    rcases why with other | unlisted
    · exact other mine
    · exact unlisted (by simp)
  · intro send member
    rcases List.mem_cons.mp member with rfl | member
    · exact ⟨key,entry,found,mine,rfl,List.mem_cons_self⟩
    · obtain ⟨k,read,stored,owned,same,item⟩ := tail.sent send member
      exact ⟨k,read,((erased k read).mp stored).2,owned,same,List.mem_cons_of_mem _ item⟩
  · intro k read stored owned member
    by_cases same : k = key
    · subst same
      cases Option.some.inj (found.symm.trans stored)
      simp
    · refine List.mem_cons_of_mem _ (tail.told k read ((erased k read).mpr ⟨same,stored⟩) owned ?_)
      simpa [same] using member

theorem settle_spec (f : Flights) (owner : FlightId) (listed : List (ReadKey × Delivery)) :
    Settled f owner listed (f.settle owner listed).1 (f.settle owner listed).2 := by
  induction listed generalizing f with
  | nil => exact ⟨rfl,rfl,by simp [Flights.settle],by simp [Flights.settle],by simp [Flights.settle],by simp⟩
  | cons entry rest ih =>
    obtain ⟨key,delivery⟩ := entry
    unfold Flights.settle
    cases found : f.reads.get? key with
    | none =>
      have skipped : f.takeOwned key owner = none := by simp [Flights.takeOwned,found]
      rw [skipped]
      exact settled_skip (ih f) (by simp [found])
    | some entry =>
      by_cases mine : entry.owner = owner
      · have taken : f.takeOwned key owner = some (entry,{f with reads := f.reads.erase key}) := by
          simp [Flights.takeOwned,found,mine]
        rw [taken]
        exact settled_take found mine (ih _)
      · have skipped : f.takeOwned key owner = none := by simp [Flights.takeOwned,found,mine]
        rw [skipped]
        refine settled_skip (ih f) fun read stored => ?_
        cases Option.some.inj (found.symm.trans stored)
        exact mine

-- The group's entries change hands: every member a neighbour owned is now the
-- guard's, on the channel it had.
structure TakenOver (guard : LeaderGuard) (reads : IndexMap ReadKey InFlightRead) (group : List QueuedRange)
    (guard' : LeaderGuard) (reads' : IndexMap ReadKey InFlightRead) : Prop where
  carries : guard' = {guard with
    keys := guard.keys ++ (group.filter fun queued => queued.owner ≠ guard.flight).map QueuedRange.key}
  taken : ∀ queued ∈ group, queued.owner ≠ guard.flight → ∀ read, reads.get? queued.key = some read →
    reads'.get? queued.key = some ⟨read.tx,guard.label,guard.flight⟩
  left : ∀ key, (∀ queued ∈ group, queued.owner ≠ guard.flight → queued.key ≠ key) →
    reads'.get? key = reads.get? key

theorem takeOverAll_spec (guard : LeaderGuard) {reads : IndexMap ReadKey InFlightRead} (registered : ∀ queued ∈ group, ∃ read, reads.get? queued.key = some read) :
    ∃ guard' reads', takeOverAll guard reads group = some (guard',reads') ∧
      TakenOver guard reads group guard' reads' := by
  induction group generalizing guard reads with
  | nil => exact ⟨guard,reads,rfl,by simp,by simp,by simp⟩
  | cons queued rest ih =>
    obtain ⟨read,found⟩ := registered queued List.mem_cons_self
    by_cases mine : queued.owner = guard.flight
    · have step : takeOver guard reads queued = some (guard,reads) := by simp [takeOver,mine]
      have still : ∀ other ∈ rest, ∃ read, reads.get? other.key = some read :=
        fun other member => registered other (List.mem_cons_of_mem _ member)
      obtain ⟨guard',reads',ran,handed⟩ := ih guard still
      refine ⟨guard',reads',by simp [takeOverAll,step,ran],by simpa [mine] using handed.carries,?_,?_⟩
      · intro other member apart
        rcases List.mem_cons.mp member with rfl | member
        · exact absurd mine apart
        · exact handed.taken other member apart
      · intro key none
        exact handed.left key fun other member => none other (List.mem_cons_of_mem _ member)
    · let guard₁ : LeaderGuard := {guard with keys := guard.keys ++ [queued.key]}
      let reads₁ := reads.insert queued.key {read with owner := guard.flight,leader := guard.label}
      have step : takeOver guard reads queued = some (guard₁,reads₁) := by
        simp [takeOver,mine,found,guard₁,reads₁]
      have stored : ∀ key, reads₁.get? key =
          if key = queued.key then some ⟨read.tx,guard.label,guard.flight⟩ else reads.get? key :=
        fun key => IndexMap.get?_insert reads queued.key key _
      have still : ∀ other ∈ rest, ∃ read, reads₁.get? other.key = some read := by
        intro other member
        rw [stored]
        split
        · exact ⟨_,rfl⟩
        · exact registered other (List.mem_cons_of_mem _ member)
      obtain ⟨guard',reads',ran,handed⟩ := ih guard₁ still
      refine ⟨guard',reads',by simp [takeOverAll,step,ran],by simpa [mine,guard₁] using handed.carries,?_,?_⟩
      · intro other member apart before lookup
        by_cases again : ∃ later ∈ rest, later.owner ≠ guard.flight ∧ later.key = other.key
        · obtain ⟨later,listed,foreign,same⟩ := again
          rw [← same]
          by_cases first : other.key = queued.key
          · have tx : read.tx = before.tx := by
              rw [first,found] at lookup
              cases lookup
              rfl
            rw [← tx]
            exact handed.taken later listed foreign ⟨read.tx,guard.label,guard.flight⟩
              (by rw [stored,same,if_pos first])
          · exact handed.taken later listed foreign before (by rw [stored,same,if_neg first,lookup])
        · have first : other = queued := by
            rcases List.mem_cons.mp member with equal | listed
            · exact equal
            · exact absurd ⟨other,listed,apart,rfl⟩ again
          subst first
          rw [handed.left other.key fun later listed foreign same => again ⟨later,listed,foreign,same⟩,
            stored,if_pos rfl]
          cases Option.some.inj (found.symm.trans lookup)
          rfl
      · intro key none
        have other : key ≠ queued.key := fun same => none queued List.mem_cons_self mine same.symm
        rw [handed.left key fun later listed => none later (List.mem_cons_of_mem _ listed),stored,if_neg other]

theorem scanFirst_le (start : first ≤ bound) (room : rank + queue.length ≤ bound+1) :
    (scanFirst rank first stop queue).1 ≤ bound := by
  induction queue generalizing rank first stop with
  | nil => exact start
  | cons queued rest ih =>
    simp only [List.length_cons] at room
    unfold scanFirst
    split
    · exact ih start (by omega)
    · exact ih (by omega) (by omega)

theorem le_scanLast (last stop : Nat) (queue : List QueuedRange) : last ≤ scanLast last stop queue := by
  induction queue generalizing last stop with
  | nil => exact Nat.le_refl _
  | cons queued rest ih =>
    unfold scanLast
    split
    · exact (Nat.le_succ last).trans (ih _ _)
    · exact Nat.le_refl _

theorem groupBounds_spec (queue : List QueuedRange) (own : Nat) :
    (groupBounds queue own).1 ≤ own ∧ own ≤ (groupBounds queue own).2 ∨ queue = [] := by
  cases queue with
  | nil => exact .inr rfl
  | cons head rest =>
    refine .inl ⟨?_,le_scanLast _ _ _⟩
    refine scanFirst_le (Nat.zero_le _) ?_
    simp only [List.length_take]
    omega

theorem group_split {queue : List QueuedRange}
    (position : queue.findIdx? (fun queued => decide (queued.owner = flight)) = some own) :
    let first := (groupBounds queue own).1
    let last := (groupBounds queue own).2
    let group := (queue.drop first).take (last-first+1)
    queue = queue.take first ++ group ++ queue.drop (last+1) ∧ ∃ queued ∈ group, queued.owner = flight := by
  obtain ⟨inside,mine,_⟩ := List.findIdx?_eq_some_iff_getElem.mp position
  have bounds := groupBounds_spec queue own
  rcases bounds with ⟨before,after⟩ | rfl
  · simp only
    constructor
    · have cut : queue.drop ((groupBounds queue own).2+1) = (queue.drop (groupBounds queue own).1).drop
          ((groupBounds queue own).2-(groupBounds queue own).1+1) := by
        rw [List.drop_drop]
        congr 1
        omega
      rw [cut,List.append_assoc,List.take_append_drop,List.take_append_drop]
    · refine ⟨queue[own],?_,by simpa using mine⟩
      rw [List.mem_iff_getElem?]
      refine ⟨own-(groupBounds queue own).1,?_⟩
      rw [List.getElem?_take_of_lt (by omega),List.getElem?_drop,Nat.add_sub_cancel' before]
      exact List.getElem?_eq_getElem inside
  · simp at inside

-- What `claim_group` leaves when the guard's own range is still queued: a group
-- of queued ranges with the guard's own among them, all under the guard now.
structure Claimed (f : Flights) (guard : LeaderGuard) (path : Path) (f' : Flights) (guard' : LeaderGuard)
    (keys : List ReadKey) : Prop where
  flight : guard'.flight = guard.flight
  label : guard'.label = guard.label
  unqueued : guard'.queuedAt = none
  armed : guard'.completed = guard.completed
  listed : ∀ key ∈ guard.keys ++ keys, key ∈ guard'.keys
  own : ∃ queued, Queues f path queued ∧ queued.owner = guard.flight ∧ queued.key ∈ keys
  group : ∀ key ∈ keys, ∃ queued, Queues f path queued ∧ queued.key = key
  nodup : keys.Nodup
  moved : ∀ key ∈ keys, ∃ read read', f.reads.get? key = some read ∧ f'.reads.get? key = some read' ∧
    read'.tx = read.tx ∧ read'.owner = guard.flight
  rest : ∀ key, key ∉ keys → f'.reads.get? key = f.reads.get? key
  flights : f'.nextFlight = f.nextFlight
  left : ∀ p queued, Queues f' p queued →
    Queues f p queued ∧ (p = path → queued.key ∉ keys ∧ queued.owner ≠ guard.flight)
  stays : ∀ p queued, Queues f p queued → queued.owner ≠ guard.flight → (p = path → queued.key ∉ keys) →
    Queues f' p queued
  unique : ∀ p queue, f'.queuedRanges.get? p = some queue → (queue.map QueuedRange.key).Nodup

-- The queues hold registered ranges of their own object, each once.
structure QueuesSound (f : Flights) : Prop where
  object : ∀ path queued, Queues f path queued → queued.key.path = path
  registered : ∀ path queued, Queues f path queued → Owns f queued.owner queued.key
  nodup : ∀ path queue, f.queuedRanges.get? path = some queue → (queue.map QueuedRange.key).Nodup

theorem mem_sortQueue (queue : List QueuedRange) (queued : QueuedRange) :
    queued ∈ sortQueue queue ↔ queued ∈ queue :=
  List.mem_insertionSort _

theorem sortQueue_nodup {queue : List QueuedRange} (unique : (queue.map QueuedRange.key).Nodup) :
    ((sortQueue queue).map QueuedRange.key).Nodup :=
  ((List.perm_insertionSort _ queue).map QueuedRange.key).nodup_iff.mpr unique

structure Unclaimed (f : Flights) (guard : LeaderGuard) (path : Path) (f' : Flights) : Prop where
  reads : f'.reads = f.reads
  flights : f'.nextFlight = f.nextFlight
  queues : ∀ p queued, Queues f' p queued ↔ Queues f p queued
  nodup : QueuesSound f → ∀ p queue, f'.queuedRanges.get? p = some queue → (queue.map QueuedRange.key).Nodup
  gone : ∀ queued, Queues f path queued → queued.owner ≠ guard.flight

structure Stretch (f : Flights) (path : Path) (front group back : List QueuedRange) : Prop where
  listed : ∀ queued, Queues f path queued ↔ queued ∈ front ++ group ++ back
  unique : ((front ++ group ++ back).map QueuedRange.key).Nodup

def remainder (flight : FlightId) (front group back : List QueuedRange) : List QueuedRange :=
  (front ++ group.map (QueuedRange.under flight) ++ back).filter fun queued => queued.owner ≠ flight

theorem mem_remainder : queued ∈ remainder flight front group back ↔
    (queued ∈ front ∨ queued ∈ back) ∧ queued.owner ≠ flight := by
  simp only [remainder,List.mem_filter,List.mem_append,List.mem_map,decide_eq_true_eq,ne_eq]
  constructor
  · rintro ⟨(early | ⟨_,_,rfl⟩) | late,other⟩
    · exact ⟨.inl early,other⟩
    · exact absurd rfl other
    · exact ⟨.inr late,other⟩
  · rintro ⟨early | late,other⟩
    · exact ⟨.inl (.inl early),other⟩
    · exact ⟨.inr late,other⟩

theorem Stretch.queues (stretch : Stretch f path front group back) (within : queued ∈ group) : Queues f path queued :=
  (stretch.listed queued).mpr (by simp [within])

theorem Stretch.of_sorted (sound : QueuesSound f) (stored : f.queuedRanges.get? path = some unsorted)
    (whole : sortQueue unsorted = front ++ group ++ back) : Stretch f path front group back := by
  constructor
  · intro queued
    rw [← whole,mem_sortQueue]
    simp [Queues,stored]
  · rw [← whole]
    exact sortQueue_nodup (sound.nodup path unsorted stored)

theorem Stretch.registered (stretch : Stretch f path front group back) (sound : QueuesSound f) :
    ∀ queued ∈ group, ∃ read, f.reads.get? queued.key = some read := by
  intro queued within
  obtain ⟨read,found,_⟩ := sound.registered path queued (stretch.queues within)
  exact ⟨read,found⟩

theorem Stretch.apart (stretch : Stretch f path front group back) (outside : queued ∈ front ∨ queued ∈ back) :
    queued.key ∉ group.map QueuedRange.key := by
  intro carried
  have unique := stretch.unique
  simp only [List.map_append,List.nodup_append,List.mem_append] at unique
  rcases outside with early | late
  · exact unique.1.2.2 _ (List.mem_map_of_mem early) _ carried rfl
  · exact unique.2.2 _ (.inr carried) _ (List.mem_map_of_mem late) rfl

-- Every member keeps its channel and ends up under the guard, whether a
-- neighbour owned it or the guard did.
theorem Stretch.moved (stretch : Stretch f path front group back) (sound : QueuesSound f) {guard : LeaderGuard}
    (handed : TakenOver {guard with queuedAt := none} f.reads group guard' reads') (within : queued ∈ group) :
    ∃ read read', f.reads.get? queued.key = some read ∧ reads'.get? queued.key = some read' ∧
      read'.tx = read.tx ∧ read'.owner = guard.flight := by
  obtain ⟨read,found,owner⟩ := sound.registered path queued (stretch.queues within)
  by_cases foreign : queued.owner = guard.flight
  · refine ⟨read,read,found,?_,rfl,owner.trans foreign⟩
    refine (handed.left queued.key ?_).trans found
    intro other listed apart same
    obtain ⟨read',found',owner'⟩ := sound.registered path other (stretch.queues listed)
    rw [same,found] at found'
    cases found'
    exact apart (owner'.symm.trans (owner.trans foreign))
  · exact ⟨read,_,found,handed.taken queued within foreign read found,rfl,rfl⟩

theorem Stretch.carried (stretch : Stretch f path front group back) {guard : LeaderGuard}
    (handed : TakenOver {guard with queuedAt := none} f.reads group guard' reads')
    (own : ∀ queued, Queues f path queued → queued.owner = guard.flight → queued.key ∈ guard.keys) :
    ∀ key ∈ guard.keys ++ group.map QueuedRange.key, key ∈ guard'.keys := by
  intro key carried
  rw [handed.carries]
  simp only [List.mem_append,List.mem_map,List.mem_filter] at carried ⊢
  rcases carried with held | ⟨queued,within,rfl⟩
  · exact .inl held
  · by_cases foreign : queued.owner = guard.flight
    · exact .inl (own queued (stretch.queues within) foreign)
    · exact .inr ⟨queued,⟨within,by simpa using foreign⟩,rfl⟩

section
variable {reads : IndexMap ReadKey InFlightRead}

theorem Stretch.left (stretch : Stretch f path front group back)
    (queues : Queues ({f with reads}.storeQueue path (remainder flight front group back)) p queued) :
    Queues f p queued ∧ (p = path → queued.key ∉ group.map QueuedRange.key ∧ queued.owner ≠ flight) := by
  rw [queues_storeQueue] at queues
  split at queues
  · rename_i same
    subst same
    obtain ⟨outside,foreign⟩ := mem_remainder.mp queues
    refine ⟨(stretch.listed queued).mpr ?_,fun _ => ⟨stretch.apart outside,foreign⟩⟩
    rcases outside with early | late
    · simp [early]
    · simp [late]
  · rename_i apart
    exact ⟨queues,fun same => absurd same apart⟩

theorem Stretch.stays (stretch : Stretch f path front group back) (queues : Queues f p queued)
    (foreign : queued.owner ≠ flight) (away : p = path → queued.key ∉ group.map QueuedRange.key) :
    Queues ({f with reads}.storeQueue path (remainder flight front group back)) p queued := by
  rw [queues_storeQueue]
  split
  · rename_i same
    subst same
    refine mem_remainder.mpr ⟨?_,foreign⟩
    have whole := (stretch.listed queued).mp queues
    rw [List.mem_append,List.mem_append] at whole
    rcases whole with (early | within) | late
    · exact .inl early
    · exact absurd (List.mem_map_of_mem within) (away rfl)
    · exact .inr late
  · exact queues

theorem Stretch.remainder_unique (stretch : Stretch f path front group back) (sound : QueuesSound f)
    (found : ({f with reads}.storeQueue path (remainder flight front group back)).queuedRanges.get? p = some queue) :
    (queue.map QueuedRange.key).Nodup := by
  rw [get?_storeQueue] at found
  split at found
  · split at found
    · cases found
    · cases found
      refine List.Nodup.sublist (List.filter_sublist.map _) ?_
      simpa [QueuedRange.under,Function.comp_def] using stretch.unique
  · exact sound.nodup p queue found

end

theorem Stretch.claimed (stretch : Stretch f path front group back) (sound : QueuesSound f) {guard : LeaderGuard}
    (own : ∀ queued, Queues f path queued → queued.owner = guard.flight → queued.key ∈ guard.keys)
    (mine : ∃ queued ∈ group, queued.owner = guard.flight)
    (handed : TakenOver {guard with queuedAt := none} f.reads group guard' reads') :
    Claimed f guard path ({f with reads := reads'}.storeQueue path (remainder guard.flight front group back)) guard'
      (group.map QueuedRange.key) where
  flight := by rw [handed.carries]
  label := by rw [handed.carries]
  unqueued := by rw [handed.carries]
  armed := by rw [handed.carries]
  listed := stretch.carried handed own
  own := by
    obtain ⟨queued,within,ours⟩ := mine
    exact ⟨queued,stretch.queues within,ours,List.mem_map_of_mem within⟩
  group := by
    intro key carried
    obtain ⟨queued,within,rfl⟩ := List.mem_map.mp carried
    exact ⟨queued,stretch.queues within,rfl⟩
  nodup := by
    have unique := stretch.unique
    simp only [List.map_append,List.nodup_append] at unique
    exact unique.1.2.1
  moved := by
    intro key carried
    obtain ⟨queued,within,rfl⟩ := List.mem_map.mp carried
    exact stretch.moved sound handed within
  rest := by
    intro key apart
    exact handed.left key fun queued within _ same => apart (List.mem_map.mpr ⟨queued,within,same⟩)
  flights := rfl
  left := fun _ _ => stretch.left
  stays := fun _ _ => stretch.stays
  unique := fun _ _ => stretch.remainder_unique sound

theorem unclaimed_sorted (stored : f.queuedRanges.get? path = some unsorted) {guard : LeaderGuard}
    (gone : (sortQueue unsorted).findIdx? (fun queued => queued.owner = guard.flight) = none) :
    Unclaimed f guard path {f with queuedRanges := f.queuedRanges.insert path (sortQueue unsorted)} where
  reads := rfl
  flights := rfl
  queues := by
    intro p queued
    by_cases same : p = path
    · subst same
      simp [Queues,stored,mem_sortQueue]
    · simp [Queues,same]
  nodup := by
    intro sound p queue found
    rw [IndexMap.get?_insert] at found
    split at found
    · cases found
      exact sortQueue_nodup (sound.nodup path unsorted stored)
    · exact sound.nodup p queue found
  gone := by
    rintro queued ⟨queue,found,member⟩
    cases stored.symm.trans found
    rw [List.findIdx?_eq_none_iff] at gone
    simpa using gone queued ((mem_sortQueue _ queued).mpr member)

theorem claimGroup_group (sound : QueuesSound f) {guard : LeaderGuard} (queuedAt : guard.queuedAt = some path)
    (own : ∀ queued, Queues f path queued → queued.owner = guard.flight → queued.key ∈ guard.keys)
    (stored : f.queuedRanges.get? path = some unsorted)
    (position : (sortQueue unsorted).findIdx? (fun queued => queued.owner = guard.flight) = some index) :
    let bounds := groupBounds (sortQueue unsorted) index
    let group := ((sortQueue unsorted).drop bounds.1).take (bounds.2-bounds.1+1)
    ∃ f' guard', f.claimGroup guard = some (f',guard',some (group.map QueuedRange.key)) ∧
      Claimed f guard path f' guard' (group.map QueuedRange.key) := by
  obtain ⟨whole,mine⟩ := group_split position
  have stretch := Stretch.of_sorted sound stored whole
  obtain ⟨guard',reads',ran,handed⟩ := takeOverAll_spec {guard with queuedAt := none} (stretch.registered sound)
  have flight : guard'.flight = guard.flight := by rw [handed.carries]
  refine ⟨_,guard',?_,stretch.claimed sound own mine handed⟩
  simp only [Flights.claimGroup,queuedAt,stored,position]
  rw [ran,← flight]
  rfl

theorem claimGroup_spec (sound : QueuesSound f) {guard : LeaderGuard} (queuedAt : guard.queuedAt = some path)
    (own : ∀ queued, Queues f path queued → queued.owner = guard.flight → queued.key ∈ guard.keys) :
    (∃ f' guard', f.claimGroup guard = some (f',guard',none) ∧ Unclaimed f guard path f') ∨
      ∃ f' guard' keys, f.claimGroup guard = some (f',guard',some keys) ∧ Claimed f guard path f' guard' keys := by
  cases stored : f.queuedRanges.get? path with
  | none =>
    refine .inl ⟨f,{guard with queuedAt := none},by simp [Flights.claimGroup,queuedAt,stored],
      rfl,rfl,fun _ _ => Iff.rfl,fun sound => sound.nodup,?_⟩
    rintro queued ⟨_,found,_⟩
    cases stored.symm.trans found
  | some unsorted =>
    cases position : (sortQueue unsorted).findIdx? fun queued => queued.owner = guard.flight with
    | none =>
      exact .inl ⟨_,{guard with queuedAt := none},by simp [Flights.claimGroup,queuedAt,stored,position],
        unclaimed_sorted stored position⟩
    | some index =>
      obtain ⟨f',guard',claimed⟩ := claimGroup_group sound queuedAt own stored position
      exact .inr ⟨f',guard',_,claimed⟩

structure Cleared (f : Flights) (mine : FlightId) (f' : Flights) : Prop where
  flights : f'.nextFlight = f.nextFlight
  kept : ∀ key read, f'.reads.get? key = some read → f.reads.get? key = some read ∧ read.owner ≠ mine
  stays : ∀ key read, f.reads.get? key = some read → read.owner ≠ mine → f'.reads.get? key = some read
  queues : ∀ path queued, Queues f' path queued ↔ Queues f path queued ∧ queued.owner ≠ mine
  nodup : ∀ path queue, f'.queuedRanges.get? path = some queue → (queue.map QueuedRange.key).Nodup

theorem Settled.cleared (settled : Settled f mine listed f' sends) (sound : QueuesSound f)
    (all : ∀ key, Owns f mine key → key ∈ listed.map Prod.fst)
    (unqueued : ∀ path queued, Queues f path queued → queued.owner ≠ mine) : Cleared f mine f' := by
  refine ⟨settled.flights,?_,fun key read found apart => settled.stays key read found (.inl apart),?_,?_⟩
  · intro key read found
    obtain ⟨before,unlisted⟩ := settled.kept key read found
    exact ⟨before,fun owned => unlisted owned (all key ⟨read,before,owned⟩)⟩
  · intro path queued
    unfold Queues
    rw [settled.queues]
    exact ⟨fun queues => ⟨queues,unqueued path queued queues⟩,And.left⟩
  · rw [settled.queues]
    exact sound.nodup

theorem Settled.cleared_dequeue (settled : Settled f mine listed f' sends) (sound : QueuesSound f)
    (all : ∀ key, Owns f mine key → key ∈ listed.map Prod.fst)
    (at_path : ∀ p queued, Queues f p queued → queued.owner = mine → p = path) :
    Cleared f mine (f'.dequeue path mine) := by
  refine ⟨settled.flights ▸ dequeue_nextFlight f' path mine,?_,?_,?_,?_⟩
  · intro key read found
    rw [dequeue_reads] at found
    obtain ⟨before,unlisted⟩ := settled.kept key read found
    exact ⟨before,fun owned => unlisted owned (all key ⟨read,before,owned⟩)⟩
  · intro key read found apart
    rw [dequeue_reads]
    exact settled.stays key read found (.inl apart)
  · intro p queued
    rw [queues_dequeue]
    have same : Queues f' p queued ↔ Queues f p queued := by
      unfold Queues
      rw [settled.queues]
    rw [same]
    refine and_congr_right fun queues => ?_
    exact ⟨fun apart owned => apart ⟨at_path p queued queues owned,owned⟩,fun apart both => apart both.2⟩
  · intro p queue found
    have before := sound.nodup
    rw [← settled.queues] at before
    unfold Flights.dequeue at found
    split at found
    · exact before p queue found
    · rename_i stored
      rw [get?_storeQueue] at found
      split at found
      · split at found
        · cases found
        · cases found
          exact (before path _ stored).sublist (List.filter_sublist.map _)
      · exact before p queue found

theorem Cleared.free (cleared : Cleared f mine f') (key : ReadKey) : ¬Owns f' mine key := by
  rintro ⟨read,found,owned⟩
  exact (cleared.kept key read found).2 owned

theorem Cleared.sound (cleared : Cleared f mine f') (sound : QueuesSound f) : QueuesSound f' := by
  refine ⟨?_,?_,cleared.nodup⟩
  · intro path queued queues
    exact sound.object path queued ((cleared.queues path queued).mp queues).1
  · intro path queued queues
    obtain ⟨before,apart⟩ := (cleared.queues path queued).mp queues
    obtain ⟨read,found,owner⟩ := sound.registered path queued before
    exact ⟨read,cleared.stays queued.key read found (owner ▸ apart),owner⟩

end Lucida.Store.ChunkCache
