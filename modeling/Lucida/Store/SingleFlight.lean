import Lucida.Store.FlightChannels
import Lucida.Store.LruAccounting

namespace Lucida.Store.ChunkCache
open Lib
variable {w w' : World} {id : TaskId} {task : Task} {phase : Phase} {guard : LeaderGuard}

structure Invariant (w : World) : Prop where
  ownership : Ownership w
  channels : Channels w
  balanced : Balanced w.cache
  replies : ∀ id task guard keys slices, w.tasks.get? id = some task →
    task.phase = .responded guard keys (.ok slices) → slices.length = keys.length

theorem initial_invariant (maxBytes : Nat) : Invariant (World.new maxBytes) := by
  have untasked : ∀ id task, ¬(World.new maxBytes).tasks.get? id = some task := fun id task found => by cases found
  refine ⟨⟨?_,?_,?_,?_,?_,?_⟩,⟨?_,?_,?_,?_⟩,new_balanced maxBytes,?_⟩
  · exact fun id task _ alive => absurd alive.1 (untasked id task)
  · exact fun id task _ _ _ _ alive => absurd alive.1 (untasked id task)
  · intro key read found; cases found
  · rintro path queued ⟨_,found,_⟩; cases found
  · rintro path queued ⟨_,found,_⟩; cases found
  · intro path queue found; cases found
  · intro key read found; cases found
  · intro channel delivery got; cases got
  · exact fun id task _ found => absurd found (untasked id task)
  · exact fun id task _ _ alive => absurd alive.1 (untasked id task)
  · exact fun id task _ _ _ found => absurd found (untasked id task)

def Replies (phase : Phase) : Prop :=
  ∀ guard keys slices, phase = .responded guard keys (.ok slices) → slices.length = keys.length

theorem Invariant.replies_insert (valid : Invariant w)
    (tasks : w'.tasks = w.tasks.insert id {task with phase := phase}) (reply : Replies phase) :
    ∀ id task guard keys slices, w'.tasks.get? id = some task →
      task.phase = .responded guard keys (.ok slices) → slices.length = keys.length := by
  intro id' task' guard keys slices stored responded
  rw [tasks,IndexMap.get?_insert] at stored
  split at stored
  · cases stored
    exact reply guard keys slices responded
  · exact valid.replies id' task' guard keys slices stored responded

theorem Channels.quiet (channels : Channels w) (found : w.tasks.get? id = some task)
    (flights : w'.flights = w.flights) (sent : w'.sent = w.sent)
    (tasks : w'.tasks = w.tasks.insert id {task with phase := phase})
    (awaits : ∀ channel, phase.awaits? = some channel → task.phase.awaits? = some channel)
    (guards : ∀ guard, phase.guard? = some guard → task.phase.guard? = some guard) : Channels w' := by
  refine ⟨by rw [flights,sent]; exact channels.registered,by rw [flights,sent]; exact channels.sent,?_,?_⟩
  · intro id' task' channel stored waits
    rw [flights,sent]
    rw [tasks,IndexMap.get?_insert] at stored
    split at stored
    · cases stored
      exact channels.awaited id task channel found (awaits channel waits)
    · exact channels.awaited id' task' channel stored waits
  · intro id' task' guard' channel alive waits
    obtain ⟨stored,holds⟩ := alive
    rw [flights]
    rw [tasks,IndexMap.get?_insert] at stored
    split at stored
    · cases stored
      exact channels.own id task guard' channel ⟨found,guards guard' holds⟩ (awaits channel waits)
    · exact channels.own id' task' guard' channel ⟨stored,holds⟩ waits

theorem Invariant.quiet (valid : Invariant w) (found : w.tasks.get? id = some task)
    (flights : w'.flights = w.flights) (sent : w'.sent = w.sent)
    (tasks : w'.tasks = w.tasks.insert id {task with phase := phase})
    (guards : phase.guard? = task.phase.guard?) (group : phase.group? task.key = task.phase.group? task.key)
    (awaits : ∀ channel, phase.awaits? = some channel → task.phase.awaits? = some channel)
    (balanced : Balanced w'.cache) (reply : Replies phase) : Invariant w' :=
  ⟨valid.ownership.same found flights tasks guards group,
    valid.channels.quiet found flights sent tasks awaits fun _ holds => guards ▸ holds,balanced,
    valid.replies_insert tasks reply⟩

theorem Invariant.release (valid : Invariant w) (alive : w.Live id task guard)
    (move : Move guard.flight w.flights w'.flights) (relay : Relay w.flights w'.flights sends)
    (sent : w'.sent = (w.broadcast sends).sent)
    (tasks : w'.tasks = w.tasks.insert id {task with phase := phase}) (none : phase.guard? = none)
    (awaits : ∀ channel, phase.awaits? = some channel → task.phase.awaits? = some channel)
    (free : ∀ key, ¬Owns w'.flights guard.flight key) (sound : QueuesSound w'.flights)
    (balanced : Balanced w'.cache) (reply : Replies phase) : Invariant w' := by
  refine ⟨valid.ownership.release alive move tasks none free sound,?_,balanced,valid.replies_insert tasks reply⟩
  refine valid.channels.relay alive.1 move relay sent tasks ?_ awaits ?_
  · intro id' task' guard' apart live same
    exact apart (valid.ownership.unique id' task' guard' id task guard live alive same)
  · intro guard' channel holds
    cases none.symm.trans holds

theorem ungrouped_of_unguarded (unguarded : phase.guard? = none) : phase.group? key = none := by
  cases phase <;> first | rfl | cases unguarded

theorem cancel_invariant (valid : Invariant w) (found : w.tasks.get? id = some task) :
    Invariant (w.cancel id task) := by
  unfold World.cancel
  cases guards : task.phase.guard? with
  | none =>
    have ungrouped : task.phase.group? task.key = none := ungrouped_of_unguarded guards
    exact valid.quiet found rfl rfl rfl (guards.symm : Phase.cancelled.guard? = _) ungrouped.symm
      (fun _ waits => by cases waits) valid.balanced (fun _ _ _ same => by cases same)
  | some guard =>
    have leads := valid.ownership.leads id task guard ⟨found,guards⟩
    have cleared := leads.drop_cleared valid.ownership.queues
    exact valid.release ⟨found,guards⟩ cleared.move (drop_relay valid.channels guard leads.armed) rfl rfl rfl
      (fun _ waits => by cases waits) cleared.free (cleared.sound valid.ownership.queues) valid.balanced
      (fun _ _ _ same => by cases same)

theorem receive_invariant (valid : Invariant w) (found : w.tasks.get? id = some task)
    (unguarded : task.phase.guard? = none) (delivery : Channel) :
    w.receive id task delivery = .refused ∨ ∃ w', w.receive id task delivery = .next w' ∧ Invariant w' := by
  have ungrouped : task.phase.group? task.key = none := ungrouped_of_unguarded unguarded
  have restart : Invariant (w.setPhase id task (.checking false)) :=
    valid.quiet found rfl rfl rfl unguarded.symm ungrouped.symm (fun _ waits => by cases waits) valid.balanced
      (fun _ _ _ same => by cases same)
  unfold World.receive
  cases w.sent.get? delivery with
  | none =>
    by_cases pending : (w.flights.reads.values.any fun read => decide (read.tx = delivery)) = true
    · exact .inl (by simp [pending])
    · exact .inr ⟨_,by simp only [pending]; rfl,restart⟩
  | some message =>
    cases message with
    | abandoned leader => exact .inr ⟨_,rfl,restart⟩
    | done result leader =>
      exact .inr ⟨_,rfl,valid.quiet found rfl rfl rfl unguarded.symm ungrouped.symm
        (fun _ waits => by cases waits) valid.balanced (fun _ _ _ same => by cases same)⟩

-- The select took the delivery: the channel has its message or is closed, so
-- the entry is no longer under this guard and disarming leaves nothing behind.
theorem select_free (valid : Invariant w) (found : w.tasks.get? id = some task)
    (queueing : task.phase = .queueing guard delivery)
    (ended : w.sent.get? delivery ≠ none ∨
      (w.flights.reads.values.any fun read => decide (read.tx = delivery)) = false) (key : ReadKey) :
    ¬Owns w.flights guard.flight key := by
  rintro ⟨read,present,owner⟩
  have alive : w.Live id task guard := ⟨found,by rw [queueing]; rfl⟩
  have waiting := (valid.ownership.leads id task guard alive).waiting (by rw [queueing]; rfl)
  cases (waiting.owns key ⟨read,present,owner⟩).1
  have tx := valid.channels.own id task guard delivery alive (by rw [queueing]; rfl) read present owner
  rcases ended with sent | closed
  · exact sent (tx ▸ (valid.channels.registered task.key read present).2.2)
  · rw [List.any_eq_false] at closed
    have listed : read ∈ w.flights.reads.values :=
      List.mem_map.mpr ⟨(task.key,read),IndexMap.mem_entries_iff.mpr present,rfl⟩
    exact closed read listed (by simpa using tx)

theorem select_invariant (valid : Invariant w) (found : w.tasks.get? id = some task)
    (queueing : task.phase = .queueing guard delivery) :
    w.receive id task delivery = .refused ∨ ∃ w', w.receive id task delivery = .next w' ∧ Invariant w' := by
  have alive : w.Live id task guard := ⟨found,by rw [queueing]; rfl⟩
  have move := Move.refl w.flights guard.flight
  have relay := Relay.refl w.flights
  have sound := valid.ownership.queues
  unfold World.receive
  cases message : w.sent.get? delivery with
  | none =>
    by_cases pending : (w.flights.reads.values.any fun read => decide (read.tx = delivery)) = true
    · exact .inl (by simp [pending])
    · have free := select_free valid found queueing (.inr (Bool.eq_false_iff.mpr pending))
      simp only [pending]
      exact .inr ⟨_,rfl,valid.release alive move relay rfl rfl rfl
        (fun _ waits => by cases waits) free sound valid.balanced (fun _ _ _ same => by cases same)⟩
  | some delivered =>
    have free := select_free valid found queueing (.inl (by simp [message]))
    cases delivered with
    | abandoned leader =>
      exact .inr ⟨_,rfl,valid.release alive move relay rfl rfl rfl
        (fun _ waits => by cases waits) free sound valid.balanced (fun _ _ _ same => by cases same)⟩
    | done result leader =>
      exact .inr ⟨_,rfl,valid.release alive move relay rfl rfl rfl
        (fun _ waits => by cases waits) free sound valid.balanced (fun _ _ _ same => by cases same)⟩

theorem claim_invariant (valid : Invariant w) (found : w.tasks.get? id = some task)
    (admitted : task.phase = .admitted guard delivery) :
    ∃ w', w.perform id task (.claim id) = .next w' ∧ Invariant w' := by
  have alive : w.Live id task guard := ⟨found,by rw [admitted]; rfl⟩
  have leads := valid.ownership.leads id task guard alive
  have waiting := leads.waiting (by rw [admitted]; rfl)
  have sound := valid.ownership.queues
  have own : ∀ queued, Queues w.flights task.key.path queued → queued.owner = guard.flight →
      queued.key ∈ guard.keys := by
    intro queued queues owner
    rw [waiting.queues _ queued queues owner]
    exact waiting.listed
  simp only [World.perform,admitted]
  rcases claimGroup_spec sound waiting.queuedAt own with ⟨f',guard',ran,unclaimed⟩ |
    ⟨f',guard',keys,ran,claimed⟩
  · rw [ran]
    refine ⟨_,rfl,valid.release alive (unclaimed.move guard.flight) unclaimed.relay rfl rfl rfl ?_ ?_
      (unclaimed.sound sound) valid.balanced (fun _ _ _ same => by cases same)⟩
    · intro channel waits
      rw [admitted]
      exact waits
    · intro key owns
      change Owns f' guard.flight key at owns
      rw [owns_reads unclaimed.reads] at owns
      obtain ⟨rfl,queued,queues,_,owner⟩ := waiting.owns key owns
      exact unclaimed.gone queued queues owner
  · rw [ran]
    have others : ∀ id' task' guard', id' ≠ id → w.Live id' task' guard' → guard'.flight ≠ guard.flight := by
      intro id' task' other apart live same
      exact apart (valid.ownership.unique id' task' other id task guard live alive same)
    refine ⟨_,rfl,?_,?_,valid.balanced,valid.replies_insert rfl (fun _ _ _ same => by cases same)⟩
    · refine valid.ownership.move (claimed.move sound) rfl others ?_ ?_ (fun none => by cases none)
        (claimed.sound sound)
      · intro task' other alive
        obtain ⟨stored,holds⟩ := alive
        cases Option.some.inj (found.symm.trans stored)
        cases alive.2.symm.trans holds
        rfl
      · intro other holds
        cases holds
        exact ⟨claimed.flight,claimed.leads sound leads waiting⟩
    · exact valid.channels.relay found (claimed.move sound) claimed.relay rfl rfl others
        (fun channel waits => by cases waits) (fun other channel holds waits => by cases waits)

theorem store_invariant (valid : Invariant w) (found : w.tasks.get? id = some task)
    (responded : task.phase = .responded guard keys fetch) :
    ∃ w', w.store id task guard keys fetch = .next w' ∧ Invariant w' := by
  have alive : w.Live id task guard := ⟨found,by rw [responded]; rfl⟩
  have grouped := (valid.ownership.leads id task guard alive).grouped keys (by rw [responded]; rfl)
  cases fetch with
  | error err =>
    refine ⟨_,rfl,valid.quiet found rfl rfl rfl (by rw [responded]; rfl) ?_ (fun _ waits => by cases waits)
      valid.balanced (fun _ _ _ same => by cases same)⟩
    rw [responded]
    simp [Phase.group?,Function.comp_def]
  | ok slices =>
    have length := valid.replies id task guard keys slices found responded
    have balanced : Balanced (w.cache.countRoundTrip false) := valid.balanced
    have listed : (keys.zip slices).map Prod.fst = keys := List.map_fst_zip (le_of_eq length.symm)
    obtain ⟨cache,outcomes,own,ran,balanced',_,same,_,_,missing⟩ := insertSlices_spec (P := fun _ _ => True)
      task.key (keys.zip slices) none balanced (fun _ _ _ => trivial) (fun _ _ => trivial) (fun _ _ => trivial)
    rw [listed] at same missing
    cases own with
    | none => exact absurd grouped.request.1 (missing rfl).2
    | some bytes =>
      simp only [World.store,ran]
      refine ⟨_,rfl,valid.quiet found rfl rfl rfl (by rw [responded]; rfl) ?_
        (fun _ waits => by cases waits) balanced' (fun _ _ _ same => by cases same)⟩
      rw [responded]
      simp only [Phase.group?,same]

-- `get_ranges` answers with one slice for each requested range.
def OneSlicePerRange (serves : Serves) : Prop :=
  ∀ key keys slices, Request key keys → serves key keys (.ok slices) → slices.length = keys.length

theorem request_ranges (request : Request key keys) (several : keys.length ≠ 1) :
    (keys.filterMap ReadKey.bounded).length = keys.length ∧
      ∀ member ∈ keys, member.path = key.path ∧ member.bounded.isSome := by
  rcases request.2 with rfl | members
  · exact absurd rfl several
  · refine ⟨?_,members⟩
    rw [List.length_filterMap_eq_countP,List.countP_eq_length]
    exact fun member carried => (members member carried).2

theorem Backend.Lawful.oneSlice {backend : Backend} (lawful : backend.Lawful) :
    OneSlicePerRange backend.serves := by
  intro key keys slices request served
  unfold Backend.serves Backend.fetch at served
  split at served
  · rename_i single
    cases read : backend.getOpts key with
    | error err => simp [read,Except.map] at served
    | ok bytes =>
      simp only [read,Except.map] at served
      cases served
      exact single.symm
  · rename_i several
    rw [← (request_ranges request several).1]
    exact (lawful.slices _ _ _ served.symm).length_eq.symm

theorem call_invariant (valid : Invariant w) (fresh : w.tasks.get? id = none) (key : ReadKey)
    (readClass : ReadClass) (label : RequestLabel) :
    Invariant {w with tasks := w.tasks.insert id ⟨key,readClass,label,.checking true⟩} := by
  have untasked : ∀ task, ¬w.tasks.get? id = some task := fun task found => by cases fresh.symm.trans found
  have started : ∀ id' task', (w.tasks.insert id ⟨key,readClass,label,.checking true⟩).get? id' = some task' →
      task'.phase = .checking true ∨ w.tasks.get? id' = some task' := by
    intro id' task' stored
    rw [IndexMap.get?_insert] at stored
    split at stored
    · cases stored
      exact .inl rfl
    · exact .inr stored
  refine ⟨?_,⟨valid.channels.registered,valid.channels.sent,?_,?_⟩,valid.balanced,?_⟩
  · let idle : Task := ⟨key,readClass,label,.placing⟩
    exact valid.ownership.move (Move.refl w.flights (w.flights.nextFlight+1))
      (show _ = w.tasks.insert id {idle with phase := .checking true} from rfl)
      (fun id' task' guard' _ alive => valid.ownership.fresh id' task' guard' alive)
      (fun task' _ alive => absurd alive.1 (untasked task')) (fun _ holds => by cases holds)
      (fun _ => valid.ownership.absent) valid.ownership.queues
  · intro id' task' channel stored waits
    rcases started id' task' stored with fresh | before
    · rw [fresh] at waits
      cases waits
    · exact valid.channels.awaited id' task' channel before waits
  · intro id' task' guard' channel alive waits
    obtain ⟨stored,holds⟩ := alive
    rcases started id' task' stored with fresh | before
    · rw [fresh] at waits
      cases waits
    · exact valid.channels.own id' task' guard' channel ⟨before,holds⟩ waits
  · intro id' task' guard' keys slices stored responded
    rcases started id' task' stored with fresh | before
    · cases fresh.symm.trans responded
    · exact valid.replies id' task' guard' keys slices before responded

theorem lookup_invariant (valid : Invariant w) (found : w.tasks.get? id = some task)
    (checking : task.phase = .checking first) : Invariant (w.lookup id task first) := by
  have unguarded : task.phase.guard? = none := by rw [checking]; rfl
  have ungrouped : task.phase.group? task.key = none := by rw [checking]; rfl
  unfold World.lookup
  split
  · rename_i bytes cache hit
    exact valid.quiet found rfl rfl rfl unguarded.symm ungrouped.symm (fun _ waits => by cases waits)
      ((get_spec hit).2.2 valid.balanced) (fun _ _ _ same => by cases same)
  · exact valid.quiet found rfl rfl rfl unguarded.symm ungrouped.symm (fun _ waits => by cases waits)
      valid.balanced (fun _ _ _ same => by cases same)

theorem complete_invariant (valid : Invariant w) (found : w.tasks.get? id = some task)
    (completing : task.phase = .completing guard outcomes result) :
    ∃ w', w.perform id task (.complete id) = .next w' ∧ Invariant w' := by
  have alive : w.Live id task guard := ⟨found,by rw [completing]; rfl⟩
  have leads := valid.ownership.leads id task guard alive
  have cleared := leads.complete_cleared valid.ownership.queues completing
  simp only [World.perform,completing]
  refine ⟨_,rfl,valid.release alive cleared.move (complete_relay valid.channels guard outcomes) ?_ rfl rfl
    (fun _ waits => by cases waits) cleared.free (cleared.sound valid.ownership.queues) valid.balanced
    (fun _ _ _ same => by cases same)⟩
  simp [World.setPhase,World.broadcast,LeaderGuard.complete,LeaderGuard.drop]

theorem place_invariant (valid : Invariant w) (found : w.tasks.get? id = some task)
    (placing : task.phase = .placing) : Invariant (w.place id task) := by
  have rest : (w.place id task).cache = w.cache ∧
      ∃ phase, (w.place id task).tasks = w.tasks.insert id {task with phase := phase} ∧ Replies phase := by
    unfold World.place
    split
    · exact ⟨rfl,_,rfl,fun _ _ _ same => by cases same⟩
    · refine ⟨rfl,_,rfl,fun _ _ _ same => ?_⟩
      split at same <;> cases same
  obtain ⟨cache,phase,tasks,reply⟩ := rest
  exact ⟨place_ownership valid.ownership found placing,place_channels valid.channels valid.ownership id task,
    cache ▸ valid.balanced,valid.replies_insert tasks reply⟩

theorem permit_invariant (valid : Invariant w) (found : w.tasks.get? id = some task) :
    w.perform id task (.permit id) = .refused ∨
      ∃ w', w.perform id task (.permit id) = .next w' ∧ Invariant w' := by
  cases phase : task.phase with
  | queueing guard delivery =>
    refine .inr ⟨w.setPhase id task (.admitted guard delivery),by simp only [World.perform,phase],?_⟩
    refine valid.quiet found rfl rfl rfl (by rw [phase]; rfl) (by rw [phase]; rfl) (fun _ waits => ?_)
      valid.balanced (fun _ _ _ same => by cases same)
    rw [phase]
    exact waits
  | permitting guard =>
    refine .inr ⟨w.setPhase id task (.requesting guard [task.key]),by simp only [World.perform,phase],?_⟩
    exact valid.quiet found rfl rfl rfl (by rw [phase]; rfl) (by rw [phase]; rfl) (fun _ waits => by cases waits)
      valid.balanced (fun _ _ _ same => by cases same)
  | _ => exact .inl (by simp only [World.perform,phase])

theorem respond_invariant (oneSlice : OneSlicePerRange serves) (valid : Invariant w)
    (found : w.tasks.get? id = some task) (requesting : task.phase = .requesting guard keys)
    (served : serves task.key keys fetch) : Invariant (w.setPhase id task (.responded guard keys fetch)) := by
  have alive : w.Live id task guard := ⟨found,by rw [requesting]; rfl⟩
  have grouped := (valid.ownership.leads id task guard alive).grouped keys (by rw [requesting]; rfl)
  refine valid.quiet found rfl rfl rfl (by rw [requesting]; rfl) (by rw [requesting]; rfl)
    (fun _ waits => by cases waits) valid.balanced ?_
  intro _ _ slices same
  cases same
  exact oneSlice task.key keys slices grouped.request served

theorem perform_invariant (oneSlice : OneSlicePerRange serves) (valid : Invariant w)
    (found : w.tasks.get? event.task = some task) (allowed : Allowed serves w event) :
    w.perform event.task task event = .refused ∨
      ∃ w', w.perform event.task task event = .next w' ∧ Invariant w' := by
  cases event with
  | call id key readClass label => exact .inl rfl
  | lookup id =>
    cases phase : task.phase with
    | checking first => exact .inr ⟨_,by simp only [World.perform,phase],lookup_invariant valid found phase⟩
    | _ => exact .inl (by simp only [World.perform,phase])
  | place id =>
    cases phase : task.phase with
    | placing => exact .inr ⟨_,by simp only [World.perform,phase],place_invariant valid found phase⟩
    | _ => exact .inl (by simp only [World.perform,phase])
  | receive id =>
    cases phase : task.phase with
    | following delivery =>
      simpa only [World.perform,phase] using receive_invariant valid found (by rw [phase]; rfl) delivery
    | carried delivery =>
      simpa only [World.perform,phase] using receive_invariant valid found (by rw [phase]; rfl) delivery
    | queueing guard delivery =>
      simp only [World.perform,phase]
      exact select_invariant valid found phase
    | _ => exact .inl (by simp only [World.perform,phase])
  | permit id => exact permit_invariant valid found
  | claim id =>
    cases phase : task.phase with
    | admitted guard delivery => exact .inr (claim_invariant valid found phase)
    | _ => exact .inl (by simp only [World.perform,phase])
  | respond id fetch =>
    cases phase : task.phase with
    | requesting guard keys =>
      exact .inr ⟨_,by simp only [World.perform,phase],
        respond_invariant oneSlice valid found phase (allowed task guard keys found phase)⟩
    | _ => exact .inl (by simp only [World.perform,phase])
  | store id =>
    cases phase : task.phase with
    | responded guard keys fetch =>
      simpa only [World.perform,phase] using .inr (store_invariant valid found phase)
    | _ => exact .inl (by simp only [World.perform,phase])
  | complete id =>
    cases phase : task.phase with
    | completing guard outcomes result => exact .inr (complete_invariant valid found phase)
    | _ => exact .inl (by simp only [World.perform,phase])
  | cancel id =>
    by_cases ended : task.phase.isOver = true
    · exact .inl (by simp [World.perform,ended])
    · exact .inr ⟨_,by simp only [World.perform,ended]; rfl,cancel_invariant valid found⟩

theorem advance_invariant (oneSlice : OneSlicePerRange serves) (valid : Invariant w)
    (allowed : Allowed serves w event) :
    w.advance event = .refused ∨ ∃ w', w.advance event = .next w' ∧ Invariant w' := by
  cases found : w.tasks.get? event.task with
  | some task =>
    have performed := perform_invariant oneSlice valid found allowed
    simpa only [World.advance,found] using performed
  | none =>
    cases event with
    | call id key readClass label =>
      refine .inr ⟨_,?_,call_invariant valid found key readClass label⟩
      simp only [World.advance,found]
      rfl
    | _ => exact .inl (by simp only [World.advance,found])

theorem step_invariant (oneSlice : OneSlicePerRange serves) (valid : Invariant w) (step : Step serves w event w') :
    Invariant w' := by
  rcases advance_invariant oneSlice valid step.1 with refused | ⟨after,taken,next⟩
  · cases step.2.symm.trans refused
  · cases step.2.symm.trans taken
    exact next

theorem runs_invariant (oneSlice : OneSlicePerRange serves)
    (path : Runs (Step serves) (World.new maxBytes) events w) : Invariant w :=
  path.preserves (fun _ _ _ => step_invariant oneSlice) (initial_invariant maxBytes)

def World.Requests (w : World) (id : TaskId) (key : ReadKey) : Prop :=
  ∃ task guard keys, w.tasks.get? id = some task ∧ task.phase = .requesting guard keys ∧ key ∈ keys

theorem Invariant.one_request (valid : Invariant w) (left : w.Requests a key) (right : w.Requests b key) :
    a = b := by
  obtain ⟨taskA,guardA,keysA,foundA,requestingA,memberA⟩ := left
  obtain ⟨taskB,guardB,keysB,foundB,requestingB,memberB⟩ := right
  have aliveA : w.Live a taskA guardA := ⟨foundA,by rw [requestingA]; rfl⟩
  have aliveB : w.Live b taskB guardB := ⟨foundB,by rw [requestingB]; rfl⟩
  have groupedA := (valid.ownership.leads a taskA guardA aliveA).grouped keysA (by rw [requestingA]; rfl)
  have groupedB := (valid.ownership.leads b taskB guardB aliveB).grouped keysB (by rw [requestingB]; rfl)
  obtain ⟨readA,storedA,ownerA⟩ := (groupedA.owns key).mpr memberA
  obtain ⟨readB,storedB,ownerB⟩ := (groupedB.owns key).mpr memberB
  cases Option.some.inj (storedA.symm.trans storedB)
  exact valid.ownership.unique a taskA guardA b taskB guardB aliveA aliveB (ownerA.symm.trans ownerB)

-- Every registered key has one live guard that answers for it, the queues agree
-- with the table, no key is requested twice at once, a guard that goes takes all
-- its entries with it, and no step panics.
theorem every_flight_has_one_owner (oneSlice : OneSlicePerRange serves)
    (path : Runs (Step serves) (World.new maxBytes) events w) :
    (∀ key read, w.flights.reads.get? key = some read → ∃! id, ∃ task guard, w.Live id task guard ∧
      guard.completed = false ∧ guard.flight = read.owner ∧ key ∈ guard.keys) ∧
    (∀ object queued, Queues w.flights object queued →
      ∃ read, w.flights.reads.get? queued.key = some read ∧ read.owner = queued.owner) ∧
    (∀ key a b, w.Requests a key → w.Requests b key → a = b) ∧
    (∀ id task guard, w.Live id task guard → ∀ key, ¬Owns (guard.drop w.flights).1 guard.flight key) ∧
    (∀ id task guard outcomes result, w.tasks.get? id = some task →
      task.phase = .completing guard outcomes result →
        ∀ key, ¬Owns (guard.complete w.flights outcomes).2.1 guard.flight key) ∧
    (∀ id task channel, w.tasks.get? id = some task → task.phase.awaits? = some channel →
      w.sent.get? channel ≠ none ∨ ∃ read, w.flights.reads.get? channel.key = some read ∧ read.tx = channel) ∧
    ∀ event, Allowed serves w event → w.advance event ≠ .fault := by
  have valid := runs_invariant oneSlice path
  refine ⟨?_,valid.ownership.queues.registered,fun key a b => valid.one_request,?_,?_,?_,?_⟩
  · intro key read found
    obtain ⟨id,task,guard,alive,owner⟩ := valid.ownership.owned key read found
    have leads := valid.ownership.leads id task guard alive
    refine ⟨id,⟨task,guard,alive,leads.armed,owner,leads.listed key ⟨read,found,owner.symm⟩⟩,?_⟩
    rintro other ⟨task',guard',alive',_,owner',_⟩
    exact valid.ownership.unique other task' guard' id task guard alive' alive (owner'.trans owner.symm)
  · intro id task guard alive
    exact ((valid.ownership.leads id task guard alive).drop_cleared valid.ownership.queues).free
  · intro id task guard outcomes result found completing
    have leads := valid.ownership.leads id task guard ⟨found,by rw [completing]; rfl⟩
    exact (leads.complete_cleared valid.ownership.queues completing).free
  · intro id task channel found waits
    exact (valid.channels.awaited id task channel found waits).2
  · intro event allowed
    rcases advance_invariant oneSlice valid allowed with refused | ⟨_,taken,_⟩
    · simp [refused]
    · simp [taken]

-- Two neighbouring ranges of one object: the first caller carries both, and the
-- second is cancelled after its entry has changed hands.
theorem every_flight_has_one_owner_when_the_carried_caller_leaves :
    ∃ w, Runs (Step (Backend.memory fun _ => some [1,2,3,4]).serves) (World.new 16)
        [.call 1 ⟨"shard",some (.bounded 0 2)⟩ .chunk 7,.call 2 ⟨"shard",some (.bounded 2 4)⟩ .chunk 8,
          .lookup 1,.lookup 2,.place 1,.place 2,.permit 1,.claim 1,.cancel 2] w ∧
      w.flights.reads.keys.length = 2 ∧
      (∀ key a b, w.Requests a key → w.Requests b key → a = b) ∧
      ∀ event, Allowed (Backend.memory fun _ => some [1,2,3,4]).serves w event → w.advance event ≠ .fault := by
  have reached : ∃ w, drive (World.next? (Backend.memory fun _ => some [1,2,3,4])) (World.new 16)
      [.call 1 ⟨"shard",some (.bounded 0 2)⟩ .chunk 7,.call 2 ⟨"shard",some (.bounded 2 4)⟩ .chunk 8,
        .lookup 1,.lookup 2,.place 1,.place 2,.permit 1,.claim 1,.cancel 2] = some w ∧
      w.flights.reads.keys.length = 2 := by
    refine ⟨_,rfl,?_⟩
    decide
  obtain ⟨w,ran,two⟩ := reached
  have path := drive_runs (next?_step _) ran
  obtain ⟨_,_,once,_,_,_,safe⟩ := every_flight_has_one_owner (memory_lawful _).oneSlice path
  exact ⟨w,path,two,once,safe⟩

end Lucida.Store.ChunkCache
