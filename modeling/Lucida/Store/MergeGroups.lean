import Lucida.Lib.Sweep
import Lucida.Store.SingleFlight

namespace Lucida.Store.ChunkCache
open Lib

section
variable {front tail rest : List QueuedRange} {head : QueuedRange}

def QueuedRange.start (queued : QueuedRange) : Nat := queued.range.1

def QueuedRange.stop (queued : QueuedRange) : Nat := queued.range.2

abbrev SortedByStart (queue : List QueuedRange) : Prop := queue.Pairwise fun a b => a.start ≤ b.start

abbrev RunsOn (front : List QueuedRange) (head : QueuedRange) (tail : List QueuedRange) : Prop :=
  Sweep.Stretch QueuedRange.start QueuedRange.stop front head tail

abbrev reachOf (head : QueuedRange) (tail : List QueuedRange) : Nat := Sweep.reach QueuedRange.stop head.stop tail

-- The first loop: of what it has passed, the stretch that ends with the range it
-- stands at.
theorem scanFirst_spec (sorted : SortedByStart (front ++ head::tail ++ rest)) (runs : RunsOn front head tail) :
    ∃ front' head' tail', front ++ head::tail ++ rest = front' ++ head'::tail' ∧
      scanFirst (front ++ head::tail).length front.length (reachOf head tail) rest = (front'.length,reachOf head' tail') ∧
      RunsOn front' head' tail' := by
  induction rest generalizing front head tail with
  | nil => exact ⟨front,head,tail,List.append_nil _,rfl,runs⟩
  | cons queued rest hypothesis =>
    have order := (List.pairwise_append.mp sorted).2.2
    unfold scanFirst
    split
    · rename_i touches
      have shifted : front ++ head::tail ++ queued::rest = front ++ head::(tail ++ [queued]) ++ rest := by simp
      have longer : RunsOn front head (tail ++ [queued]) :=
        ⟨Sweep.chained_append.mpr ⟨runs.chained,touches⟩,runs.apart⟩
      obtain ⟨front',head',tail',same,found,runs'⟩ := hypothesis (shifted ▸ sorted) longer
      have rank : (front ++ head::(tail ++ [queued])).length = (front ++ head::tail).length+1 := by
        simp only [List.length_append,List.length_cons,List.length_nil]
        omega
      rw [rank,reachOf,Sweep.reach_append] at found
      exact ⟨front',head',tail',shifted.trans same,found,runs'⟩
    · rename_i gap
      have shifted : front ++ head::tail ++ queued::rest = (front ++ head::tail) ++ queued::[] ++ rest := by simp
      have fresh : RunsOn (front ++ head::tail) queued [] := by
        refine ⟨trivial,fun other before => ?_⟩
        rcases List.mem_append.mp before with early | inside
        · exact (runs.apart other early).trans_le (order head (by simp) queued (by simp))
        · refine lt_of_le_of_lt ?_ (not_le.mp gap)
          rcases List.mem_cons.mp inside with rfl | later
          · exact Sweep.le_reach _ tail
          · exact Sweep.hi_le_reach later _
      obtain ⟨front',head',tail',same,found,runs'⟩ := hypothesis (shifted ▸ sorted) fresh
      have rank : (front ++ head::tail ++ queued::[]).length = (front ++ head::tail).length+1 := by
        rw [List.length_append]
        rfl
      rw [rank] at found
      exact ⟨front',head',tail',shifted.trans same,found,runs'⟩

theorem scanLast_spec (sorted : SortedByStart (front ++ head::tail ++ rest)) (runs : RunsOn front head tail) (last : Nat) :
    ∃ taken back, rest = taken ++ back ∧ scanLast last (reachOf head tail) rest = last+taken.length ∧
      RunsOn front head (tail ++ taken) ∧ ∀ queued ∈ back, reachOf head (tail ++ taken) < queued.start := by
  induction rest generalizing tail last with
  | nil =>
    refine ⟨[],[],rfl,rfl,?_,fun queued none => by cases none⟩
    rwa [List.append_nil]
  | cons queued rest hypothesis =>
    unfold scanLast
    split
    · rename_i touches
      have shifted : front ++ head::tail ++ queued::rest = front ++ head::(tail ++ [queued]) ++ rest := by simp
      have longer : RunsOn front head (tail ++ [queued]) :=
        ⟨Sweep.chained_append.mpr ⟨runs.chained,touches⟩,runs.apart⟩
      obtain ⟨taken,back,rfl,found,runs',past⟩ := hypothesis (shifted ▸ sorted) longer (last+1)
      rw [reachOf,Sweep.reach_append] at found
      refine ⟨queued::taken,back,rfl,?_,by rwa [List.append_cons],by rwa [List.append_cons]⟩
      rw [List.length_cons]
      refine found.trans ?_
      omega
    · rename_i gap
      refine ⟨[],queued::rest,rfl,rfl,by rwa [List.append_nil],fun other after => ?_⟩
      rw [List.append_nil]
      refine lt_of_lt_of_le (not_le.mp gap) ?_
      rcases List.mem_cons.mp after with rfl | later
      · exact le_refl _
      · exact (List.pairwise_cons.mp (List.pairwise_append.mp sorted).2.1).1 other later

-- The bounds of the group cut a sorted queue into what is before the stretch of
-- the leader's own range, the stretch, and what is past it.
theorem groupBounds_cut {queue : List QueuedRange} {own : Nat} (sorted : SortedByStart queue) (inside : own < queue.length) :
    ∃ front head tail back, queue = front ++ head::tail ++ back ∧ groupBounds queue own = (front.length,front.length+tail.length) ∧
      RunsOn front head tail ∧ ∀ queued ∈ back, reachOf head tail < queued.start := by
  cases queue with
  | nil => exact absurd inside (Nat.not_lt_zero own)
  | cons head rest =>
    have whole : head::rest = [] ++ head::[] ++ rest.take own ++ rest.drop own := by simp
    have sorted' : SortedByStart ([] ++ head::[] ++ rest.take own) :=
      sorted.sublist (by simpa using List.take_sublist own rest)
    obtain ⟨front,first,tail,passed,found,runs⟩ := scanFirst_spec sorted' ⟨trivial,fun _ none => by cases none⟩
    have sorted'' : SortedByStart (front ++ first::tail ++ rest.drop own) := by
      rw [← passed,← whole]
      exact sorted
    obtain ⟨taken,back,split,found',runs',past⟩ := scanLast_spec sorted'' runs own
    have place : own = front.length+tail.length := by
      have counted := congrArg List.length passed
      simp only [List.length_append,List.length_cons,List.length_take,List.length_nil] at counted inside
      omega
    refine ⟨front,first,tail ++ taken,back,?_,?_,runs',past⟩
    · calc head::rest = [] ++ head::[] ++ rest.take own ++ rest.drop own := whole
        _ = front ++ first::tail ++ (taken ++ back) := by rw [passed,split]
        _ = front ++ first::(tail ++ taken) ++ back := by simp
    · have bounds : groupBounds (head::rest) own = (front.length,scanLast own (reachOf first tail) (rest.drop own)) := by
        unfold groupBounds
        dsimp only
        rw [show scanFirst 1 0 head.range.2 (rest.take own) = (front.length,reachOf first tail) from found]
      rw [bounds,found',List.length_append,place,Nat.add_assoc]

end

section
variable {f : Flights} {guard : LeaderGuard} {path : Path} {own : QueuedRange}

structure Leader (f : Flights) (guard : LeaderGuard) (path : Path) (own : QueuedRange) : Prop where
  queuedAt : guard.queuedAt = some path
  queued : Queues f path own
  owner : own.owner = guard.flight
  alone : ∀ p queued, Queues f p queued → queued.owner = guard.flight → queued.key = own.key
  carried : own.key ∈ guard.keys

theorem Waiting.leader {task : Task} (waiting : Waiting f task guard) (queued : Queues f task.key.path own)
    (owner : own.owner = guard.flight) : Leader f guard task.key.path own := by
  have same := waiting.queues _ own queued owner
  refine ⟨waiting.queuedAt,queued,owner,fun p other queues mine => ?_,same ▸ waiting.listed⟩
  rw [same]
  exact waiting.queues p other queues mine

-- The ranges of the object that hang together with the leader's own, by ranges that touch or overlap.
def InGroup (f : Flights) (path : Path) (own : QueuedRange) : QueuedRange → Prop :=
  Sweep.Component QueuedRange.start QueuedRange.stop (Queues f path) own

theorem queued_unique (sound : QueuesSound f) (left : Queues f path a) (right : Queues f path b) (same : a.key = b.key) : a = b := by
  obtain ⟨queue,stored,listed⟩ := left
  obtain ⟨queue',stored',listed'⟩ := right
  cases stored.symm.trans stored'
  exact List.inj_on_of_nodup_map (sound.nodup path queue stored) listed listed' same

-- The claim succeeds, carries the group, leaves every other range of any object
-- queued, and the bytes of the group are one run.
def ClaimsGroup (f : Flights) (guard : LeaderGuard) (path : Path) (own : QueuedRange) : Prop :=
  ∃ f' guard' keys, f.claimGroup guard = some (f',guard',some keys) ∧
    (∀ key, key ∈ keys ↔ ∃ queued, InGroup f path own queued ∧ queued.key = key) ∧
    (∀ p queued, Queues f' p queued ↔ Queues f p queued ∧ ¬(p = path ∧ InGroup f path own queued)) ∧
    ∃ low high, ∀ position, (∃ queued, InGroup f path own queued ∧ queued.start ≤ position ∧ position < queued.stop) ↔
      low ≤ position ∧ position < high

theorem claimsGroup (sound : QueuesSound f) (leader : Leader f guard path own)
    (forward : ∀ queued, Queues f path queued → queued.start ≤ queued.stop) : ClaimsGroup f guard path own := by
  obtain ⟨unsorted,stored,listed⟩ := leader.queued
  have sorted : SortedByStart (sortQueue unsorted) := List.pairwise_insertionSort _ unsorted
  obtain ⟨index,position⟩ : ∃ index, (sortQueue unsorted).findIdx? (fun queued => queued.owner = guard.flight) = some index := by
    refine Option.isSome_iff_exists.mp ?_
    rw [List.findIdx?_isSome,List.any_eq_true]
    exact ⟨own,(mem_sortQueue unsorted own).mpr listed,decide_eq_true leader.owner⟩
  have inside : index < (sortQueue unsorted).length := (List.findIdx?_eq_some_iff_getElem.mp position).1
  obtain ⟨front,head,tail,back,whole,bounds,runs,past⟩ := groupBounds_cut sorted inside
  have mine : ∀ p queued, Queues f p queued → queued.owner = guard.flight → queued.key ∈ guard.keys := by
    intro p queued queues owner
    rw [leader.alone p queued queues owner]
    exact leader.carried
  obtain ⟨f',guard',ran,claimed⟩ := claimGroup_group sound leader.queuedAt (mine path) stored position
  have group : ((sortQueue unsorted).drop (groupBounds (sortQueue unsorted) index).1).take
      ((groupBounds (sortQueue unsorted) index).2-(groupBounds (sortQueue unsorted) index).1+1) = head::tail := by
    rw [bounds,whole,List.append_assoc,List.drop_left,Nat.add_sub_cancel_left]
    exact List.take_left' rfl
  rw [group] at ran claimed
  -- the claimed stretch is the component of each of its ranges
  have listing : ∀ queued, Queues f path queued ↔ queued ∈ front ++ head::tail ++ back := by
    intro queued
    rw [← whole,mem_sortQueue]
    simp [Queues,stored]
  have member : ∀ queued ∈ head::tail, Queues f path queued := fun queued there =>
    (listing queued).mpr (List.mem_append_left _ (List.mem_append_right _ there))
  obtain ⟨mine',queues',owner',carried'⟩ := claimed.own
  have within : own ∈ head::tail := by
    obtain ⟨queued,there,same⟩ := List.mem_map.mp carried'
    have key : queued.key = own.key := same.trans (leader.alone path mine' queues' owner')
    rwa [← queued_unique sound (member queued there) leader.queued key]
  have component : ∀ queued, InGroup f path own queued ↔ queued ∈ head::tail := fun queued =>
    Sweep.component_iff (fun queued there => forward queued ((listing queued).mpr there)) (whole ▸ sorted) runs past listing within
  refine ⟨f',guard',_,ran,fun key => ?_,fun p queued => ⟨fun queues => ?_,fun stays => ?_⟩,head.start,reachOf head tail,fun position => ?_⟩
  · simp only [List.mem_map,component]
  · obtain ⟨before,apart⟩ := claimed.left p queued queues
    refine ⟨before,fun taken => ?_⟩
    obtain ⟨same,member⟩ := taken
    exact (apart same).1 (List.mem_map_of_mem ((component queued).mp member))
  · obtain ⟨queues,out⟩ := stays
    refine claimed.stays p queued queues (fun owner => out ?_) fun same carried => out ⟨same,?_⟩
    · have key := leader.alone p queued queues owner
      have same : p = path := by rw [← sound.object p queued queues,key,sound.object path own leader.queued]
      subst same
      exact ⟨rfl,queued_unique sound leader.queued queues key.symm ▸ .refl⟩
    · obtain ⟨other,there,key⟩ := List.mem_map.mp carried
      subst same
      rw [← queued_unique sound (member other there) queues key]
      exact (component other).mpr there
  · have base : ∀ queued ∈ tail, head.start ≤ queued.start :=
      (List.pairwise_cons.mp (List.pairwise_append.mp (List.pairwise_append.mp (whole ▸ sorted)).1).2.1).1
    rw [← Sweep.covers_iff runs.chained base]
    simp only [component,List.mem_cons,exists_eq_or_imp]

-- From any sound queue, and so from every queue a run of the store leads to.
theorem claim_group_takes_the_component :
    (∀ f guard path own, QueuesSound f → Leader f guard path own →
      (∀ queued, Queues f path queued → queued.start ≤ queued.stop) → ClaimsGroup f guard path own) ∧
    ∀ serves maxBytes events w, OneSlicePerRange serves → Runs (Step serves) (World.new maxBytes) events w →
      ∀ id task guard delivery own, w.tasks.get? id = some task → task.phase = .admitted guard delivery →
        Queues w.flights task.key.path own → own.owner = guard.flight →
        (∀ queued, Queues w.flights task.key.path queued → queued.start ≤ queued.stop) →
          ClaimsGroup w.flights guard task.key.path own := by
  refine ⟨fun f guard path own => claimsGroup,?_⟩
  intro serves maxBytes events w oneSlice path id task guard delivery own found admitted queued owner forward
  have valid := runs_invariant oneSlice path
  have leads := valid.ownership.leads id task guard ⟨found,by rw [admitted]; rfl⟩
  have waiting := leads.waiting (by rw [admitted]; rfl)
  exact claimsGroup valid.ownership.queues (waiting.leader queued owner) forward

end

def shardRange (start stop : Nat) : ReadKey := ⟨"shard",some (.bounded start stop)⟩

def fourQueued : Flights :=
  let read (start stop : Nat) (flight : FlightId) : InFlightRead := ⟨⟨flight,shardRange start stop⟩,7,flight⟩
  { reads := (((IndexMap.empty.insert (shardRange 20 30) (read 20 30 1)).insert (shardRange 0 10) (read 0 10 2)).insert
      (shardRange 10 20) (read 10 20 3)).insert (shardRange 40 50) (read 40 50 4)
    queuedRanges := IndexMap.empty.insert "shard"
      [⟨shardRange 20 30,1,rfl⟩,⟨shardRange 0 10,2,rfl⟩,⟨shardRange 10 20,3,rfl⟩,⟨shardRange 40 50,4,rfl⟩]
    nextFlight := 4 }

theorem queues_fourQueued : Queues fourQueued path queued ↔ path = "shard" ∧
    (queued = ⟨shardRange 20 30,1,rfl⟩ ∨ queued = ⟨shardRange 0 10,2,rfl⟩ ∨ queued = ⟨shardRange 10 20,3,rfl⟩ ∨
      queued = ⟨shardRange 40 50,4,rfl⟩) := by
  by_cases same : path = "shard"
  · simp [Queues,fourQueued,same]
  · simp [Queues,fourQueued,same]

theorem queuesSound_fourQueued : QueuesSound fourQueued := by
  refine ⟨fun path queued queues => ?_,fun path queued queues => ?_,fun path queue stored => ?_⟩
  · obtain ⟨rfl,rfl | rfl | rfl | rfl⟩ := queues_fourQueued.mp queues <;> rfl
  · obtain ⟨rfl,rfl | rfl | rfl | rfl⟩ := queues_fourQueued.mp queues <;> exact ⟨_,rfl,rfl⟩
  · by_cases same : path = "shard"
    · subst same
      cases stored
      decide
    · simp [fourQueued,same] at stored

-- The first range joins the leader's only by the third.
theorem claim_group_takes_the_component_of_the_second :
    ClaimsGroup fourQueued ⟨2,7,[shardRange 0 10],some "shard",false⟩ "shard" ⟨shardRange 0 10,2,rfl⟩ := by
  refine claim_group_takes_the_component.1 _ _ _ _ queuesSound_fourQueued ⟨rfl,?_,rfl,?_,by decide⟩ ?_
  · exact queues_fourQueued.mpr ⟨rfl,.inr (.inl rfl)⟩
  · intro p queued queues owner
    obtain ⟨rfl,rfl | rfl | rfl | rfl⟩ := queues_fourQueued.mp queues
    · exact absurd owner (by decide)
    · rfl
    · exact absurd owner (by decide)
    · exact absurd owner (by decide)
  · intro queued queues
    obtain ⟨-,rfl | rfl | rfl | rfl⟩ := queues_fourQueued.mp queues <;> decide

end Lucida.Store.ChunkCache
