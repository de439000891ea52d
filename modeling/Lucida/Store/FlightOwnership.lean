import Lucida.Store.FlightTable
import Lucida.Store.CachedStore

namespace Lucida.Store.ChunkCache
open Lib
variable {w w' : World} {id : TaskId} {task : Task} {phase : Phase} {guard : LeaderGuard}

-- The keys a guard will answer once its request is made. Until then it waits
-- in the queue with its own range.
def Phase.group? (key : ReadKey) : Phase → Option (List ReadKey)
  | .permitting _ => some [key]
  | .requesting _ keys => some keys
  | .responded _ keys _ => some keys
  | .completing _ outcomes _ => some (outcomes.map Prod.fst)
  | _ => none

def Phase.awaits? : Phase → Option Channel
  | .following delivery => some delivery
  | .queueing _ delivery => some delivery
  | .admitted _ delivery => some delivery
  | .carried delivery => some delivery
  | _ => none

def Request (key : ReadKey) (keys : List ReadKey) : Prop :=
  key ∈ keys ∧ (keys = [key] ∨ ∀ member ∈ keys, member.path = key.path ∧ member.bounded.isSome)

structure Grouped (f : Flights) (task : Task) (guard : LeaderGuard) (keys : List ReadKey) : Prop where
  unqueued : guard.queuedAt = none
  request : Request task.key keys
  owns : ∀ key, Owns f guard.flight key ↔ key ∈ keys
  queues : ∀ path queued, Queues f path queued → queued.owner ≠ guard.flight

structure Waiting (f : Flights) (task : Task) (guard : LeaderGuard) : Prop where
  queuedAt : guard.queuedAt = some task.key.path
  listed : task.key ∈ guard.keys
  owns : ∀ key, Owns f guard.flight key →
    key = task.key ∧ ∃ queued, Queues f key.path queued ∧ queued.key = key ∧ queued.owner = guard.flight
  queues : ∀ path queued, Queues f path queued → queued.owner = guard.flight → queued.key = task.key

structure Leads (f : Flights) (task : Task) (guard : LeaderGuard) : Prop where
  armed : guard.completed = false
  issued : guard.flight ≤ f.nextFlight
  listed : ∀ key, Owns f guard.flight key → key ∈ guard.keys
  grouped : ∀ keys, task.phase.group? task.key = some keys → Grouped f task guard keys
  waiting : task.phase.group? task.key = none → Waiting f task guard

def World.Live (w : World) (id : TaskId) (task : Task) (guard : LeaderGuard) : Prop :=
  w.tasks.get? id = some task ∧ task.phase.guard? = some guard

structure Ownership (w : World) : Prop where
  leads : ∀ id task guard, w.Live id task guard → Leads w.flights task guard
  unique : ∀ id task guard id' task' guard', w.Live id task guard → w.Live id' task' guard' →
    guard.flight = guard'.flight → id = id'
  owned : ∀ key read, w.flights.reads.get? key = some read →
    ∃ id task guard, w.Live id task guard ∧ guard.flight = read.owner
  queues : QueuesSound w.flights

-- What a step of the flight `mine` may do to the table: entries of other
-- flights stay as they are, or were queued and changed hands.
structure Move (mine : FlightId) (f f' : Flights) : Prop where
  flights : f.nextFlight ≤ f'.nextFlight
  kept : ∀ key read, f'.reads.get? key = some read → read.owner ≠ mine → f.reads.get? key = some read
  stays : ∀ key read, f.reads.get? key = some read → read.owner ≠ mine →
    f'.reads.get? key = some read ∨ ∃ path queued, Queues f path queued ∧ queued.owner = read.owner
  queuesKept : ∀ path queued, Queues f' path queued → queued.owner ≠ mine → Queues f path queued
  queuesStay : ∀ path queued, Queues f path queued → queued.owner ≠ mine → Owns f' queued.owner queued.key →
    Queues f' path queued

theorem Move.owns (move : Move mine f f') (apart : flight ≠ mine) (owns : Owns f' flight key) :
    Owns f flight key := by
  obtain ⟨read,found,rfl⟩ := owns
  exact ⟨read,move.kept key read found apart,rfl⟩

theorem Leads.frame (leads : Leads f task guard) (move : Move mine f f') (apart : guard.flight ≠ mine) :
    Leads f' task guard := by
  refine ⟨leads.armed,leads.issued.trans move.flights,
    fun key owns => leads.listed key (move.owns apart owns),?_,?_⟩
  · intro keys group
    have grouped := leads.grouped keys group
    refine ⟨grouped.unqueued,grouped.request,?_,?_⟩
    · intro key
      constructor
      · intro owns
        exact (grouped.owns key).mp (move.owns apart owns)
      · intro member
        obtain ⟨read,found,owner⟩ := (grouped.owns key).mpr member
        rcases move.stays key read found (owner ▸ apart) with same | ⟨path,queued,queues,taken⟩
        · exact ⟨read,same,owner⟩
        · exact absurd (taken.trans owner) (grouped.queues path queued queues)
    · intro path queued queues same
      exact grouped.queues path queued (move.queuesKept path queued queues (same ▸ apart)) same
  · intro none
    have waiting := leads.waiting none
    refine ⟨waiting.queuedAt,waiting.listed,?_,?_⟩
    · intro key owns
      obtain ⟨same,queued,queues,equal,owner⟩ := waiting.owns key (move.owns apart owns)
      refine ⟨same,queued,move.queuesStay key.path queued queues (owner ▸ apart) ?_,equal,owner⟩
      rw [owner,equal]
      exact owns
    · intro path queued queues same
      exact waiting.queues path queued (move.queuesKept path queued queues (same ▸ apart)) same

theorem Ownership.move (valid : Ownership w) (move : Move mine w.flights w'.flights)
    (tasks : w'.tasks = w.tasks.insert id {task with phase := phase})
    (others : ∀ id' task' guard', id' ≠ id → w.Live id' task' guard' → guard'.flight ≠ mine)
    (before : ∀ task' guard', w.Live id task' guard' → guard'.flight = mine)
    (own : ∀ guard', phase.guard? = some guard' →
      guard'.flight = mine ∧ Leads w'.flights {task with phase := phase} guard')
    (free : phase.guard? = none → ∀ key, ¬Owns w'.flights mine key)
    (sound : QueuesSound w'.flights) : Ownership w' := by
  have live : ∀ id' task' guard', w'.Live id' task' guard' →
      (id' = id ∧ task' = {task with phase := phase} ∧ phase.guard? = some guard') ∨
        id' ≠ id ∧ w.Live id' task' guard' := by
    intro id' task' guard' alive
    obtain ⟨stored,guards⟩ := alive
    rw [tasks,IndexMap.get?_insert] at stored
    split at stored
    · rename_i same
      cases stored
      exact .inl ⟨same,rfl,guards⟩
    · rename_i apart
      exact .inr ⟨apart,stored,guards⟩
  refine ⟨?_,?_,?_,sound⟩
  · intro id' task' guard' alive
    rcases live id' task' guard' alive with ⟨_,rfl,guards⟩ | ⟨apart,alive⟩
    · exact (own guard' guards).2
    · exact (valid.leads id' task' guard' alive).frame move (others id' task' guard' apart alive)
  · intro a taskA guardA b taskB guardB liveA liveB same
    rcases live a taskA guardA liveA with ⟨rfl,_,guardsA⟩ | ⟨apartA,liveA⟩
    · rcases live b taskB guardB liveB with ⟨rfl,_,_⟩ | ⟨apartB,liveB⟩
      · rfl
      · exact absurd (same.symm.trans (own guardA guardsA).1) (others b taskB guardB apartB liveB)
    · rcases live b taskB guardB liveB with ⟨rfl,_,guardsB⟩ | ⟨_,liveB⟩
      · exact absurd (same.trans (own guardB guardsB).1) (others a taskA guardA apartA liveA)
      · exact valid.unique a taskA guardA b taskB guardB liveA liveB same
  · intro key read found
    by_cases mineOwns : read.owner = mine
    · cases guards : phase.guard? with
      | none => exact absurd ⟨read,found,mineOwns⟩ (free guards key)
      | some guard' =>
        refine ⟨id,{task with phase := phase},guard',⟨?_,guards⟩,(own guard' guards).1.trans mineOwns.symm⟩
        rw [tasks,IndexMap.get?_insert,if_pos rfl]
    · obtain ⟨id',task',guard',alive,owner⟩ := valid.owned key read (move.kept key read found mineOwns)
      have apart : id' ≠ id := by
        rintro rfl
        exact mineOwns (owner.symm.trans (before task' guard' alive))
      refine ⟨id',task',guard',⟨?_,alive.2⟩,owner⟩
      rw [tasks,IndexMap.get?_insert,if_neg apart]
      exact alive.1

theorem Move.refl (f : Flights) (mine : FlightId) : Move mine f f :=
  ⟨Nat.le_refl _,fun _ _ found _ => found,fun _ _ found _ => .inl found,fun _ _ queues _ => queues,
    fun _ _ queues _ _ => queues⟩

theorem Cleared.move (cleared : Cleared f mine f') : Move mine f f' :=
  ⟨le_of_eq cleared.flights.symm,fun key read found _ => (cleared.kept key read found).1,
    fun key read found apart => .inl (cleared.stays key read found apart),
    fun path queued queues _ => ((cleared.queues path queued).mp queues).1,
    fun path queued queues apart _ => (cleared.queues path queued).mpr ⟨queues,apart⟩⟩

theorem Unclaimed.move (unclaimed : Unclaimed f guard path f') (mine : FlightId) : Move mine f f' := by
  refine ⟨le_of_eq unclaimed.flights.symm,?_,?_,?_,?_⟩
  · intro key read found _
    rwa [unclaimed.reads] at found
  · intro key read found _
    rw [unclaimed.reads]
    exact .inl found
  · intro p queued queues _
    exact (unclaimed.queues p queued).mp queues
  · intro p queued queues _ _
    exact (unclaimed.queues p queued).mpr queues

theorem Unclaimed.sound (unclaimed : Unclaimed f guard path f') (sound : QueuesSound f) : QueuesSound f' := by
  refine ⟨?_,?_,unclaimed.nodup sound⟩
  · intro p queued queues
    exact sound.object p queued ((unclaimed.queues p queued).mp queues)
  · intro p queued queues
    rw [owns_reads unclaimed.reads]
    exact sound.registered p queued ((unclaimed.queues p queued).mp queues)

theorem Claimed.owner (claimed : Claimed f guard path f' guard' keys) (member : key ∈ keys)
    (owns : Owns f' holder key) : holder = guard.flight := by
  obtain ⟨_,read',_,found,_,owner⟩ := claimed.moved key member
  obtain ⟨read,stored,rfl⟩ := owns
  cases Option.some.inj (found.symm.trans stored)
  exact owner

theorem Claimed.move (claimed : Claimed f guard path f' guard' keys) (sound : QueuesSound f) :
    Move guard.flight f f' := by
  refine ⟨le_of_eq claimed.flights.symm,?_,?_,fun p queued queues _ => (claimed.left p queued queues).1,?_⟩
  · intro key read found apart
    by_cases member : key ∈ keys
    · exact absurd (claimed.owner member ⟨read,found,rfl⟩) apart
    · exact (claimed.rest key member).symm.trans found
  · intro key read found apart
    by_cases member : key ∈ keys
    · obtain ⟨queued,queues,rfl⟩ := claimed.group key member
      obtain ⟨entry,stored,owner⟩ := sound.registered path queued queues
      cases Option.some.inj (found.symm.trans stored)
      exact .inr ⟨path,queued,queues,owner.symm⟩
    · exact .inl ((claimed.rest key member).trans found)
  · intro p queued queues apart owns
    refine claimed.stays p queued queues apart fun _ member => ?_
    exact apart (claimed.owner member owns)

theorem Claimed.sound (claimed : Claimed f guard path f' guard' keys) (sound : QueuesSound f) : QueuesSound f' := by
  refine ⟨fun p queued queues => sound.object p queued (claimed.left p queued queues).1,?_,claimed.unique⟩
  intro p queued queues
  obtain ⟨before,away⟩ := claimed.left p queued queues
  have outside : queued.key ∉ keys := by
    intro member
    obtain ⟨other,others,same⟩ := claimed.group queued.key member
    have object := sound.object path other others
    rw [same,sound.object p queued before] at object
    exact (away object).1 member
  unfold Owns
  rw [claimed.rest queued.key outside]
  exact sound.registered p queued before

theorem Claimed.leads (claimed : Claimed f guard task.key.path f' guard' keys) (sound : QueuesSound f)
    (leads : Leads f task guard) (waiting : Waiting f task guard) :
    Leads f' {task with phase := .requesting guard' keys} guard' := by
  have mine : task.key ∈ keys := by
    obtain ⟨queued,queues,owner,member⟩ := claimed.own
    rwa [waiting.queues _ queued queues owner] at member
  have owns : ∀ key, Owns f' guard.flight key ↔ key ∈ keys := by
    intro key
    constructor
    · rintro ⟨read,found,owner⟩
      by_contra outside
      rw [claimed.rest key outside] at found
      exact outside ((waiting.owns key ⟨read,found,owner⟩).1 ▸ mine)
    · intro member
      obtain ⟨_,read',_,found,_,owner⟩ := claimed.moved key member
      exact ⟨read',found,owner⟩
  refine ⟨claimed.armed.trans leads.armed,?_,?_,?_,?_⟩
  · rw [claimed.flight,claimed.flights]
    exact leads.issued
  · intro key owned
    rw [claimed.flight,owns] at owned
    exact claimed.listed key (List.mem_append_right _ owned)
  · intro members same
    cases same
    refine ⟨claimed.unqueued,⟨mine,.inr ?_⟩,?_,?_⟩
    · intro member carried
      obtain ⟨queued,queues,rfl⟩ := claimed.group member carried
      exact ⟨sound.object _ queued queues,queued.bounded⟩
    · rw [claimed.flight]
      exact owns
    · intro p queued queues
      rw [claimed.flight]
      obtain ⟨before,away⟩ := claimed.left p queued queues
      intro owner
      have object := sound.object p queued before
      rw [waiting.queues p queued before owner] at object
      exact (away object.symm).2 owner
  · intro none
    cases none

theorem Leads.complete_cleared (leads : Leads f task guard) (sound : QueuesSound f)
    (completing : task.phase = .completing guard outcomes result) :
    Cleared f guard.flight (guard.complete f outcomes).2.1 := by
  have grouped := leads.grouped (outcomes.map Prod.fst) (by rw [completing]; rfl)
  refine (settle_spec f guard.flight _).cleared sound ?_ grouped.queues
  intro key owns
  simpa [Function.comp_def] using (grouped.owns key).mp owns

theorem Leads.drop_cleared (leads : Leads f task guard) (sound : QueuesSound f) :
    Cleared f guard.flight (guard.drop f).1 := by
  have settled := settle_spec f guard.flight (guard.keys.map fun key => (key,.abandoned guard.label))
  have all : ∀ key, Owns f guard.flight key →
      key ∈ (guard.keys.map fun key => (key,Delivery.abandoned guard.label)).map Prod.fst := by
    intro key owns
    simpa [Function.comp_def] using leads.listed key owns
  unfold LeaderGuard.drop
  rw [leads.armed]
  cases group : task.phase.group? task.key with
  | some keys =>
    have grouped := leads.grouped keys group
    rw [grouped.unqueued]
    exact settled.cleared sound all grouped.queues
  | none =>
    have waiting := leads.waiting group
    rw [waiting.queuedAt]
    refine settled.cleared_dequeue sound all fun p queued queues owner => ?_
    rw [← sound.object p queued queues,waiting.queues p queued queues owner]

theorem Ownership.absent (valid : Ownership w) (key : ReadKey) :
    ¬Owns w.flights (w.flights.nextFlight+1) key := by
  rintro ⟨read,found,owner⟩
  obtain ⟨id,task,guard,alive,flight⟩ := valid.owned key read found
  have issued := (valid.leads id task guard alive).issued
  rw [flight,owner] at issued
  exact Nat.not_succ_le_self _ issued

theorem Ownership.fresh (valid : Ownership w) (id : TaskId) (task : Task) (guard : LeaderGuard)
    (alive : w.Live id task guard) : guard.flight ≠ w.flights.nextFlight+1 := by
  intro same
  have issued := (valid.leads id task guard alive).issued
  rw [same] at issued
  exact Nat.not_succ_le_self _ issued

structure Registered (f : Flights) (key : ReadKey) (label : RequestLabel) (f' : Flights) : Prop where
  flights : f'.nextFlight = f.nextFlight+1
  reads : ∀ k, f'.reads.get? k =
    if k = key then some ⟨⟨f.nextFlight+1,key⟩,label,f.nextFlight+1⟩ else f.reads.get? k

theorem place_spec (f : Flights) (key : ReadKey) (label : RequestLabel) (mergeable : Bool) :
    (∃ read, f.reads.get? key = some read ∧ f.place key label mergeable = (f,.follow read.tx read.leader)) ∨
    f.reads.get? key = none ∧ ∃ f', Registered f key label f' ∧
      ((mergeable = true ∧ ∃ bounded : key.bounded.isSome, f.place key label mergeable =
            (f',.lead ⟨f.nextFlight+1,label,[key],some key.path,false⟩ ⟨f.nextFlight+1,key⟩) ∧
          (∀ path queued, Queues f' path queued ↔
            Queues f path queued ∨ (path = key.path ∧ queued = ⟨key,f.nextFlight+1,bounded⟩)) ∧
          f'.queuedRanges = f.queuedRanges.upsert key.path fun queue =>
            queue.getD [] ++ [⟨key,f.nextFlight+1,bounded⟩]) ∨
        (¬(key.bounded.isSome ∧ mergeable = true) ∧ f.place key label mergeable =
            (f',.lead ⟨f.nextFlight+1,label,[key],none,false⟩ ⟨f.nextFlight+1,key⟩) ∧
          f'.queuedRanges = f.queuedRanges)) := by
  cases found : f.reads.get? key with
  | some read => exact .inl ⟨read,rfl,by simp [Flights.place,found]⟩
  | none =>
    right
    refine ⟨rfl,?_⟩
    let registered : Flights := {f with
      reads := f.reads.insert key ⟨⟨f.nextFlight+1,key⟩,label,f.nextFlight+1⟩
      nextFlight := f.nextFlight+1}
    by_cases queues : key.bounded.isSome ∧ mergeable = true
    · let mine : QueuedRange := ⟨key,f.nextFlight+1,queues.1⟩
      let merged : Flights := {registered with
        queuedRanges := f.queuedRanges.upsert key.path fun queue => queue.getD [] ++ [mine]}
      refine ⟨merged,⟨rfl,fun k => IndexMap.get?_insert _ _ _ _⟩,
        .inl ⟨queues.2,queues.1,by simp only [Flights.place,found,dif_pos queues]; rfl,?_,rfl⟩⟩
      intro path queued
      simp only [Queues,merged,IndexMap.get?_upsert]
      by_cases same : path = key.path
      · subst same
        cases f.queuedRanges.get? key.path <;> simp [mine,or_comm]
      · simp [same]
    · exact ⟨registered,⟨rfl,fun k => IndexMap.get?_insert _ _ _ _⟩,
        .inr ⟨queues,by simp only [Flights.place,found,dif_neg queues]; rfl,rfl⟩⟩

theorem Registered.move (registered : Registered f key label f') (absent : f.reads.get? key = none)
    (queues : ∀ path queued, Queues f' path queued → queued.owner ≠ f.nextFlight+1 → Queues f path queued)
    (stay : ∀ path queued, Queues f path queued → Queues f' path queued) : Move (f.nextFlight+1) f f' := by
  refine ⟨by rw [registered.flights]; exact Nat.le_succ _,?_,?_,queues,fun p queued before _ _ => stay p queued before⟩
  · intro k read found apart
    rw [registered.reads] at found
    split at found
    · cases found
      exact absurd rfl apart
    · exact found
  · intro k read found _
    rw [registered.reads]
    have other : k ≠ key := by
      rintro rfl
      cases absent.symm.trans found
    exact .inl ((if_neg other).trans found)

theorem Registered.owns (registered : Registered f key label f') (absent : ∀ k, ¬Owns f (f.nextFlight+1) k)
    (k : ReadKey) : Owns f' (f.nextFlight+1) k ↔ k = key := by
  constructor
  · rintro ⟨read,found,owner⟩
    rw [registered.reads] at found
    split at found
    · assumption
    · exact absurd ⟨read,found,owner⟩ (absent k)
  · rintro rfl
    exact ⟨_,(registered.reads k).trans (if_pos rfl),rfl⟩

theorem Registered.keeps (registered : Registered f key label f') (absent : f.reads.get? key = none)
    (owns : Owns f holder k) : Owns f' holder k := by
  obtain ⟨read,found,owner⟩ := owns
  refine ⟨read,?_,owner⟩
  rw [registered.reads,if_neg]
  · exact found
  · rintro rfl
    cases absent.symm.trans found

theorem Ownership.enter (valid : Ownership w) (found : w.tasks.get? id = some task) (unguarded : task.phase.guard? = none)
    (move : Move (w.flights.nextFlight+1) w.flights w'.flights)
    (tasks : w'.tasks = w.tasks.insert id {task with phase := phase})
    (own : ∀ guard', phase.guard? = some guard' →
      guard'.flight = w.flights.nextFlight+1 ∧ Leads w'.flights {task with phase := phase} guard')
    (free : phase.guard? = none → ∀ key, ¬Owns w'.flights (w.flights.nextFlight+1) key)
    (sound : QueuesSound w'.flights) : Ownership w' := by
  refine valid.move move tasks (fun id' task' guard' _ alive => valid.fresh id' task' guard' alive) ?_ own free sound
  intro task' guard' alive
  obtain ⟨stored,guards⟩ := alive
  cases Option.some.inj (found.symm.trans stored)
  cases unguarded.symm.trans guards

structure Enqueued (f f' : Flights) (mine : QueuedRange) : Prop where
  queues : ∀ path queued, Queues f' path queued ↔ Queues f path queued ∨ (path = mine.key.path ∧ queued = mine)
  stored : f'.queuedRanges = f.queuedRanges.upsert mine.key.path fun queue => queue.getD [] ++ [mine]

theorem Enqueued.sound (enqueued : Enqueued f f' mine) (sound : QueuesSound f) (absent : f.reads.get? mine.key = none)
    (kept : ∀ holder key, Owns f holder key → Owns f' holder key) (owned : Owns f' mine.owner mine.key) :
    QueuesSound f' := by
  refine ⟨?_,?_,?_⟩
  · intro path queued after
    rcases (enqueued.queues path queued).mp after with before | ⟨rfl,rfl⟩
    · exact sound.object path queued before
    · rfl
  · intro path queued after
    rcases (enqueued.queues path queued).mp after with before | ⟨rfl,rfl⟩
    · exact kept _ _ (sound.registered path queued before)
    · exact owned
  · intro path queue lookup
    rw [enqueued.stored,IndexMap.get?_upsert] at lookup
    split at lookup
    · cases lookup
      cases before : f.queuedRanges.get? mine.key.path with
      | none => simp
      | some old =>
        rw [Option.getD_some,List.map_append,List.nodup_append]
        refine ⟨sound.nodup _ old before,by simp,?_⟩
        -- A queued range is registered, and the new one was not.
        intro key listed other single equal
        obtain ⟨queued,member,rfl⟩ := List.mem_map.mp listed
        obtain ⟨read,present,_⟩ := sound.registered mine.key.path queued ⟨old,before,member⟩
        rw [equal,List.mem_singleton.mp single] at present
        cases absent.symm.trans present
    · exact sound.nodup path queue lookup

theorem Registered.waiting (registered : Registered w.flights task.key label f') (valid : Ownership w)
    (enqueued : Enqueued w.flights f' ⟨task.key,w.flights.nextFlight+1,bounded⟩) :
    Waiting f' {task with phase := phase} ⟨w.flights.nextFlight+1,label,[task.key],some task.key.path,false⟩ := by
  refine ⟨rfl,List.mem_singleton_self _,?_,?_⟩
  · intro key owns
    cases (registered.owns valid.absent key).mp owns
    exact ⟨rfl,_,(enqueued.queues _ _).mpr (.inr ⟨rfl,rfl⟩),rfl,rfl⟩
  · intro path queued after owner
    rcases (enqueued.queues path queued).mp after with before | ⟨_,rfl⟩
    · have mine := valid.queues.registered path queued before
      rw [owner] at mine
      exact absurd mine (valid.absent queued.key)
    · rfl

theorem Registered.grouped (registered : Registered w.flights task.key label f') (valid : Ownership w)
    (same : ∀ path queued, Queues f' path queued ↔ Queues w.flights path queued) :
    Grouped f' {task with phase := phase} ⟨w.flights.nextFlight+1,label,[task.key],none,false⟩ [task.key] := by
  refine ⟨rfl,⟨List.mem_singleton_self _,.inl rfl⟩,?_,?_⟩
  · intro key
    rw [List.mem_singleton]
    exact registered.owns valid.absent key
  · intro path queued after owner
    have before := valid.queues.registered path queued ((same path queued).mp after)
    rw [owner] at before
    exact valid.absent queued.key before

theorem Registered.listed (registered : Registered w.flights key label f') (valid : Ownership w) :
    ∀ k, Owns f' (w.flights.nextFlight+1) k → k ∈ [key] := by
  intro k owns
  rw [(registered.owns valid.absent k).mp owns]
  exact List.mem_singleton_self _

theorem place_ownership (valid : Ownership w) (found : w.tasks.get? id = some task)
    (placing : task.phase = .placing) : Ownership (w.place id task) := by
  have unguarded : task.phase.guard? = none := by rw [placing]; rfl
  unfold World.place
  rcases place_spec w.flights task.key task.label task.mergeable with ⟨read,_,placed⟩ |
    ⟨absent,f',registered,queued | alone⟩
  · rw [placed]
    exact valid.enter found unguarded (Move.refl w.flights (w.flights.nextFlight+1)) rfl
      (fun _ guards => by cases guards) (fun _ => valid.absent) valid.queues
  · obtain ⟨mergeable,bounded,placed,queues,stored⟩ := queued
    have enqueued : Enqueued w.flights f' ⟨task.key,w.flights.nextFlight+1,bounded⟩ := ⟨queues,stored⟩
    rw [placed]
    simp only [mergeable,if_true]
    refine valid.enter found unguarded (registered.move absent ?_ ?_) rfl ?_ (fun none => by cases none) ?_
    · intro path queued after apart
      rcases (queues path queued).mp after with before | ⟨_,rfl⟩
      · exact before
      · exact absurd rfl apart
    · intro path queued before
      exact (queues path queued).mpr (.inl before)
    · intro guard' guards
      cases guards
      exact ⟨rfl,rfl,by rw [World.setPhase,registered.flights],registered.listed valid,
        fun keys group => (by cases group),fun _ => registered.waiting valid enqueued⟩
    · exact enqueued.sound valid.queues absent (fun _ _ => registered.keeps absent)
        ((registered.owns valid.absent task.key).mpr rfl)
  · obtain ⟨lone,placed,stored⟩ := alone
    have solitary : task.mergeable = false := by
      by_contra yes
      simp only [Bool.not_eq_false] at yes
      refine lone ⟨?_,yes⟩
      simp only [Task.mergeable,decide_eq_true_eq] at yes
      exact yes.2
    have same : ∀ path queued, Queues f' path queued ↔ Queues w.flights path queued := by
      intro path queued
      unfold Queues
      rw [stored]
    rw [placed]
    simp only [solitary]
    refine valid.enter found unguarded (registered.move absent (fun p q after _ => (same p q).mp after)
      fun p q before => (same p q).mpr before) rfl ?_ (fun none => by cases none) ?_
    · intro guard' guards
      cases guards
      refine ⟨rfl,rfl,by rw [World.setPhase,registered.flights],registered.listed valid,?_,fun none => by cases none⟩
      intro keys group
      cases group
      exact registered.grouped valid same
    · refine ⟨?_,?_,?_⟩
      · intro path queued after
        exact valid.queues.object path queued ((same path queued).mp after)
      · intro path queued after
        exact registered.keeps absent (valid.queues.registered path queued ((same path queued).mp after))
      · intro path queue lookup
        change f'.queuedRanges.get? path = some queue at lookup
        rw [stored] at lookup
        exact valid.queues.nodup path queue lookup

theorem Ownership.same (valid : Ownership w) (found : w.tasks.get? id = some task)
    (flights : w'.flights = w.flights) (tasks : w'.tasks = w.tasks.insert id {task with phase := phase})
    (guards : phase.guard? = task.phase.guard?) (group : phase.group? task.key = task.phase.group? task.key) :
    Ownership w' := by
  cases current : task.phase.guard? with
  | none =>
    refine valid.enter found current (by rw [flights]; exact Move.refl w.flights (w.flights.nextFlight+1)) tasks
      ?_ ?_ (flights ▸ valid.queues)
    · intro guard' holds
      cases (guards.trans current).symm.trans holds
    · rw [flights]
      exact fun _ => valid.absent
  | some guard =>
    have alive : w.Live id task guard := ⟨found,current⟩
    have leads := valid.leads id task guard alive
    refine valid.move (by rw [flights]; exact Move.refl w.flights guard.flight) tasks ?_ ?_ ?_ ?_ (flights ▸ valid.queues)
    · intro id' task' guard' apart live same
      exact apart (valid.unique id' task' guard' id task guard live alive same)
    · intro task' guard' alive
      obtain ⟨stored,holds⟩ := alive
      cases Option.some.inj (found.symm.trans stored)
      cases current.symm.trans holds
      rfl
    · intro guard' holds
      cases (guards.trans current).symm.trans holds
      refine ⟨rfl,?_⟩
      rw [flights]
      refine ⟨leads.armed,leads.issued,leads.listed,?_,?_⟩
      · intro keys grouped
        have old := leads.grouped keys (group.symm.trans grouped)
        exact ⟨old.unqueued,old.request,old.owns,old.queues⟩
      · intro none
        have old := leads.waiting (group.symm.trans none)
        exact ⟨old.queuedAt,old.listed,old.owns,old.queues⟩
    · intro none
      cases (guards.trans current).symm.trans none

theorem Ownership.release (valid : Ownership w) (alive : w.Live id task guard)
    (move : Move guard.flight w.flights w'.flights)
    (tasks : w'.tasks = w.tasks.insert id {task with phase := phase}) (none : phase.guard? = none)
    (free : ∀ key, ¬Owns w'.flights guard.flight key) (sound : QueuesSound w'.flights) : Ownership w' := by
  refine valid.move move tasks ?_ ?_ ?_ (fun _ => free) sound
  · intro id' task' guard' apart live same
    exact apart (valid.unique id' task' guard' id task guard live alive same)
  · intro task' guard' alive
    obtain ⟨stored,holds⟩ := alive
    cases Option.some.inj (alive.1.symm.trans stored)
    cases alive.2.symm.trans holds
    rfl
  · intro guard' holds
    cases none.symm.trans holds

end Lucida.Store.ChunkCache
