import Lucida.Store.SingleFlight

namespace Lucida.Store.ChunkCache
open Lib
variable {w w' : World} {id : TaskId} {task : Task} {phase : Phase} {guard : LeaderGuard} {backend : Backend}

-- An answer the backend bears out: its bytes, or a not-found that is one.
def Sound (backend : Backend) (key : ReadKey) : ReadResult → Prop
  | .ok bytes => backend.getOpts key = .ok bytes
  | .error err => err.isNotFound = true → ∃ err', backend.getOpts key = .error err' ∧ err'.isNotFound = true

theorem capture_isNotFound (err : StoreError) :
    (SharedError.capture err).intoObjectStoreError.isNotFound = err.isNotFound := by
  cases err <;> rfl

theorem sound_capture (sound : Sound backend key (.error err)) :
    Sound backend key (rebuild (.error (.capture err))) := by
  intro notFound
  exact sound ((capture_isNotFound err).symm.trans notFound)

def PhaseSound (backend : Backend) (key : ReadKey) : Phase → Prop
  | .responded _ keys fetch => fetch = backend.fetch key keys
  | .completing _ outcomes result =>
    (∀ outcome ∈ outcomes, Sound backend outcome.1 (rebuild outcome.2)) ∧ Sound backend key result
  | .finished result => Sound backend key result
  | _ => True

structure Transparent (backend : Backend) (w : World) : Prop where
  resident : ∀ key bytes, w.cache.lru.get? key = some bytes → backend.getOpts key = .ok bytes
  sent : ∀ channel result leader, w.sent.get? channel = some (.done result leader) →
    Sound backend channel.key (rebuild result)
  phases : ∀ id task, w.tasks.get? id = some task → PhaseSound backend task.key task.phase

theorem Transparent.put (clear : Transparent backend w)
    (resident : ∀ key bytes, w'.cache.lru.get? key = some bytes → backend.getOpts key = .ok bytes)
    (sent : ∀ channel result leader, w'.sent.get? channel = some (.done result leader) →
      Sound backend channel.key (rebuild result))
    (tasks : w'.tasks = w.tasks.insert id {task with phase := phase})
    (sound : PhaseSound backend task.key phase) : Transparent backend w' := by
  refine ⟨resident,sent,?_⟩
  intro id' task' stored
  rw [tasks,IndexMap.get?_insert] at stored
  split at stored
  · cases stored
    exact sound
  · exact clear.phases id' task' stored

theorem bounded_key (same : ReadKey.path key = path) (bounded : key.bounded = some range) :
    key = ⟨path,some (.bounded range.1 range.2)⟩ := by
  obtain ⟨p,r⟩ := key
  cases same
  unfold ReadKey.bounded at bounded
  split at bounded
  · rename_i start stop named
    cases bounded
    cases named
    rfl
  · cases bounded

theorem slices_by_key
    (members : ∀ member ∈ keys, ReadKey.path member = path ∧ member.bounded.isSome)
    (answers : List.Forall₂ (fun range slice => backend.getOpts ⟨path,some (.bounded range.1 range.2)⟩ = .ok slice)
      (keys.filterMap ReadKey.bounded) slices) :
    List.Forall₂ (fun member slice => backend.getOpts member = .ok slice) keys slices := by
  induction keys generalizing slices with
  | nil =>
    cases answers
    exact .nil
  | cons member keys ih =>
    obtain ⟨same,bounded⟩ := members member List.mem_cons_self
    obtain ⟨range,some⟩ := Option.isSome_iff_exists.mp bounded
    rw [List.filterMap_cons,some] at answers
    cases answers with
    | cons first rest =>
      refine .cons ?_ (ih (fun m within => members m (List.mem_cons_of_mem _ within)) rest)
      rwa [bounded_key same some]

theorem zip_sound (answers : List.Forall₂ (fun member slice => backend.getOpts member = .ok slice) keys slices) :
    ∀ pair ∈ keys.zip slices, backend.getOpts pair.1 = .ok pair.2 := by
  induction answers with
  | nil => simp
  | cons first _ ih =>
    intro pair member
    rcases List.mem_cons.mp member with rfl | member
    · exact first
    · exact ih pair member

theorem single_request (request : Request key keys) (single : keys.length = 1) : keys = [key] := by
  obtain ⟨only,rfl⟩ := List.length_eq_one_iff.mp single
  rw [List.mem_singleton.mp request.1]

theorem fetched_slices (lawful : backend.Lawful) (request : Request key keys)
    (fetched : backend.fetch key keys = .ok slices) :
    ∀ pair ∈ keys.zip slices, backend.getOpts pair.1 = .ok pair.2 := by
  unfold Backend.fetch at fetched
  split at fetched
  · rename_i single
    cases single_request request single
    cases read : backend.getOpts key with
    | error err => simp [read,Except.map] at fetched
    | ok bytes =>
      simp only [read,Except.map] at fetched
      cases fetched
      simpa using read
  · rename_i several
    exact zip_sound (slices_by_key (request_ranges request several).2 (lawful.slices _ _ _ fetched))

theorem fetched_missing (lawful : backend.Lawful) (request : Request key keys)
    (fetched : backend.fetch key keys = .error err) (carried : member ∈ keys) :
    Sound backend member (.error err) := by
  intro notFound
  unfold Backend.fetch at fetched
  split at fetched
  · rename_i single
    cases single_request request single
    rw [List.mem_singleton.mp carried]
    cases read : backend.getOpts key with
    | error other =>
      simp only [read,Except.map] at fetched
      cases fetched
      exact ⟨err,rfl,notFound⟩
    | ok bytes => simp [read,Except.map] at fetched
  · rename_i several
    obtain ⟨same,bounded⟩ := (request_ranges request several).2 member carried
    obtain ⟨range,some⟩ := Option.isSome_iff_exists.mp bounded
    rw [bounded_key same some]
    exact lawful.missing key.path _ err fetched notFound range (List.mem_filterMap.mpr ⟨member,carried,some⟩)

theorem store_transparent (lawful : backend.Lawful) (valid : Invariant w) (clear : Transparent backend w)
    (found : w.tasks.get? id = some task) (responded : task.phase = .responded guard keys fetch)
    (stored : w.store id task guard keys fetch = .next w') : Transparent backend w' := by
  have leads := valid.ownership.leads id task guard ⟨found,by rw [responded]; rfl⟩
  have request := (leads.grouped keys (by rw [responded]; rfl)).request
  have answered := clear.phases id task found
  rw [responded] at answered
  cases fetch with
  | error err =>
    cases stored
    have each : ∀ member ∈ keys, Sound backend member (.error err) :=
      fun member carried => fetched_missing lawful request answered.symm carried
    refine clear.put clear.resident clear.sent rfl ⟨?_,each task.key request.1⟩
    intro outcome listed
    obtain ⟨member,carried,rfl⟩ := List.mem_map.mp listed
    exact sound_capture (each member carried)
  | ok slices =>
    obtain ⟨cache,outcomes,own,ran,_,resident,_,sound,mine,_⟩ :=
      insertSlices_spec (P := fun key bytes => backend.getOpts key = .ok bytes) task.key (keys.zip slices) none
        (show Balanced (w.cache.countRoundTrip false) from valid.balanced) clear.resident
        (fetched_slices lawful request answered.symm) (fun _ none => by cases none)
    simp only [World.store,ran] at stored
    split at stored
    · rename_i same
      cases same
      cases stored
      refine clear.put resident clear.sent rfl ⟨?_,mine _ rfl⟩
      intro outcome listed
      obtain ⟨bytes,given,holds⟩ := sound outcome listed
      rw [given]
      exact holds
    · cases stored

theorem receive_transparent (valid : Invariant w) (clear : Transparent backend w)
    (found : w.tasks.get? id = some task) (waits : task.phase.awaits? = some delivery)
    (received : w.receive id task delivery = .next w') : Transparent backend w' := by
  have own := (valid.channels.awaited id task delivery found waits).1
  unfold World.receive at received
  split at received
  · rename_i result leader message
    cases received
    refine clear.put clear.resident clear.sent rfl ?_
    have sound := clear.sent delivery result leader message
    rwa [own] at sound
  · cases received
    exact clear.put clear.resident clear.sent rfl trivial
  · split at received
    · cases received
    · cases received
      exact clear.put clear.resident clear.sent rfl trivial

theorem complete_sent (valid : Invariant w) (clear : Transparent backend w)
    (found : w.tasks.get? id = some task) (completing : task.phase = .completing guard outcomes result)
    (member : (channel,Delivery.done shared leader) ∈ (guard.complete w.flights outcomes).2.2) :
    Sound backend channel.key (rebuild shared) := by
  obtain ⟨key,read,stored,_,tx,item⟩ := (settle_spec w.flights guard.flight _).sent _ member
  obtain ⟨⟨listed,outcome⟩,carried,same⟩ := List.mem_map.mp item
  have sound := clear.phases id task found
  rw [completing] at sound
  have own := (valid.channels.registered key read stored).1
  simp only [Prod.mk.injEq,Delivery.done.injEq] at same
  obtain ⟨rfl,rfl,_⟩ := same
  rw [← show read.tx.key = channel.key from congrArg Channel.key tx,own]
  exact sound.1 _ carried

theorem drop_abandons (guard : LeaderGuard) (f : Flights)
    (member : (channel,Delivery.done shared leader) ∈ (guard.drop f).2) : False := by
  unfold LeaderGuard.drop at member
  split at member
  · cases member
  · have listed : (channel,Delivery.done shared leader) ∈
        (f.settle guard.flight (guard.keys.map fun key => (key,.abandoned guard.label))).2 := by
      cases queued : guard.queuedAt <;> simpa only [queued] using member
    obtain ⟨_,_,_,_,_,item⟩ := (settle_spec f guard.flight _).sent _ listed
    obtain ⟨_,_,same⟩ := List.mem_map.mp item
    cases same

theorem lookup_transparent (clear : Transparent backend w) (firstAttempt : Bool) :
    Transparent backend (w.lookup id task firstAttempt) := by
  unfold World.lookup
  split
  · rename_i bytes cache hit
    obtain ⟨present,same,_⟩ := get_spec hit
    refine clear.put (fun key stored lookup => clear.resident key stored ?_) clear.sent rfl
      (clear.resident task.key bytes present)
    exact (same key).symm.trans lookup
  · exact clear.put clear.resident clear.sent rfl trivial

theorem place_transparent (clear : Transparent backend w) : Transparent backend (w.place id task) := by
  unfold World.place
  split
  · exact clear.put clear.resident clear.sent rfl trivial
  · refine clear.put clear.resident clear.sent rfl ?_
    split <;> trivial

theorem broadcast_transparent (clear : Transparent backend w) {sends : Sends}
    (sound : ∀ channel shared leader, (channel,Delivery.done shared leader) ∈ sends →
      Sound backend channel.key (rebuild shared)) :
    ∀ channel shared leader, (w.broadcast sends).sent.get? channel = some (.done shared leader) →
      Sound backend channel.key (rebuild shared) := by
  intro channel shared leader got
  rcases (get?_broadcast _ _ channel).2.2 _ got with member | before
  · exact sound channel shared leader member
  · exact clear.sent channel shared leader before

theorem complete_transparent (valid : Invariant w) (clear : Transparent backend w)
    (found : w.tasks.get? id = some task) (completing : task.phase = .completing guard outcomes result)
    (taken : w.perform id task (.complete id) = .next w') : Transparent backend w' := by
  simp only [World.perform,completing] at taken
  cases taken
  have sound := clear.phases _ task found
  rw [completing] at sound
  refine clear.put clear.resident (broadcast_transparent clear ?_) rfl sound.2
  intro channel shared leader member
  rcases List.mem_append.mp member with completed | dropped
  · exact complete_sent valid clear found completing completed
  · exact (drop_abandons _ _ dropped).elim

theorem cancel_transparent (clear : Transparent backend w) : Transparent backend (w.cancel id task) := by
  unfold World.cancel
  split
  · exact clear.put clear.resident clear.sent rfl trivial
  · exact clear.put clear.resident
      (broadcast_transparent clear fun _ _ _ member => (drop_abandons _ _ member).elim) rfl trivial

theorem perform_transparent (lawful : backend.Lawful) (valid : Invariant w) (clear : Transparent backend w)
    (found : w.tasks.get? event.task = some task) (allowed : Allowed backend.serves w event)
    (taken : w.perform event.task task event = .next w') : Transparent backend w' := by
  cases event with
  | call id key readClass label => cases taken
  | lookup id =>
    simp only [World.perform] at taken
    split at taken
    · cases taken
      exact lookup_transparent clear _
    · cases taken
  | place id =>
    simp only [World.perform] at taken
    split at taken
    · cases taken
      exact place_transparent clear
    · cases taken
  | receive id =>
    simp only [World.perform] at taken
    split at taken
    · rename_i delivery phase
      exact receive_transparent valid clear found (by rw [phase]; rfl) taken
    · rename_i delivery phase
      exact receive_transparent valid clear found (by rw [phase]; rfl) taken
    · rename_i guard delivery phase
      exact receive_transparent valid clear found (by rw [phase]; rfl) taken
    · cases taken
  | permit id =>
    simp only [World.perform] at taken
    split at taken
    · cases taken
      exact clear.put clear.resident clear.sent rfl trivial
    · cases taken
      exact clear.put clear.resident clear.sent rfl trivial
    · cases taken
  | claim id =>
    simp only [World.perform] at taken
    split at taken
    · split at taken
      · cases taken
      · cases taken
        exact clear.put clear.resident clear.sent rfl trivial
      · cases taken
        exact clear.put clear.resident clear.sent rfl trivial
    · cases taken
  | respond id fetch =>
    simp only [World.perform] at taken
    split at taken
    · rename_i guard keys phase
      cases taken
      exact clear.put clear.resident clear.sent rfl (allowed task guard keys found phase)
    · cases taken
  | store id =>
    simp only [World.perform] at taken
    split at taken
    · rename_i guard keys fetch phase
      exact store_transparent lawful valid clear found phase taken
    · cases taken
  | complete id =>
    cases phase : task.phase with
    | completing guard outcomes result => exact complete_transparent valid clear found phase taken
    | _ =>
      simp only [World.perform,phase] at taken
      cases taken
  | cancel id =>
    simp only [World.perform] at taken
    split at taken
    · cases taken
    · cases taken
      exact cancel_transparent clear

theorem step_transparent (lawful : backend.Lawful) (valid : Invariant w) (clear : Transparent backend w)
    (step : Step backend.serves w event w') : Transparent backend w' := by
  obtain ⟨allowed,taken⟩ := step
  cases found : w.tasks.get? event.task with
  | some task =>
    simp only [World.advance,found] at taken
    exact perform_transparent lawful valid clear found allowed taken
  | none =>
    cases event with
    | call id key readClass label =>
      simp only [World.advance,found] at taken
      cases taken
      let idle : Task := ⟨key,readClass,label,.placing⟩
      exact clear.put clear.resident clear.sent
        (show _ = w.tasks.insert id {idle with phase := .checking true} from rfl) trivial
    | _ =>
      simp only [World.advance,found] at taken
      cases taken

theorem runs_transparent (lawful : backend.Lawful)
    (path : Runs (Step backend.serves) (World.new maxBytes) events w) :
    Invariant w ∧ Transparent backend w := by
  have initial : Transparent backend (World.new maxBytes) := by
    refine ⟨?_,?_,?_⟩
    · intro key bytes lookup; cases lookup
    · intro channel result leader got; cases got
    · intro id task found; cases found
  exact path.preserves (P := fun w => Invariant w ∧ Transparent backend w)
    (fun s event t both step =>
      ⟨step_invariant lawful.oneSlice both.1 step,step_transparent lawful both.1 both.2 step⟩)
    ⟨initial_invariant maxBytes,initial⟩

-- Whatever the interleaving, what a caller gets and what the cache holds is what
-- the backend says.
theorem cache_is_transparent (lawful : backend.Lawful)
    (path : Runs (Step backend.serves) (World.new maxBytes) events w) :
    (∀ id task bytes, w.tasks.get? id = some task → task.phase = .finished (.ok bytes) →
      backend.getOpts task.key = .ok bytes) ∧
    (∀ key bytes, w.cache.lru.get? key = some bytes → backend.getOpts key = .ok bytes) ∧
    ∀ id task err, w.tasks.get? id = some task → task.phase = .finished (.error err) → err.isNotFound = true →
      ∃ err', backend.getOpts task.key = .error err' ∧ err'.isNotFound = true := by
  obtain ⟨_,clear⟩ := runs_transparent lawful path
  refine ⟨?_,clear.resident,?_⟩
  · intro id task bytes found finished
    have sound := clear.phases id task found
    rw [finished] at sound
    exact sound
  · intro id task err found finished
    have sound := clear.phases id task found
    rw [finished] at sound
    exact sound

-- Caller 1 leads and carries caller 2's range; caller 2 gets its own slice.
theorem cache_is_transparent_to_a_carried_caller :
    ∃ w task, Runs (Step (Backend.memory fun _ => some [1,2,3,4]).serves) (World.new 16)
        [.call 1 ⟨"shard",some (.bounded 0 2)⟩ .chunk 7,.call 2 ⟨"shard",some (.bounded 2 4)⟩ .chunk 8,
          .lookup 1,.lookup 2,.place 1,.place 2,.permit 1,.claim 1,.respond 1 (.ok [[1,2],[3,4]]),
          .store 1,.complete 1,.receive 2] w ∧
      w.tasks.get? 2 = some task ∧ task.phase = .finished (.ok [3,4]) ∧
      (Backend.memory fun _ => some [1,2,3,4]).getOpts task.key = .ok [3,4] := by
  have reached : ∃ w, drive (World.next? (Backend.memory fun _ => some [1,2,3,4])) (World.new 16)
      [.call 1 ⟨"shard",some (.bounded 0 2)⟩ .chunk 7,.call 2 ⟨"shard",some (.bounded 2 4)⟩ .chunk 8,
        .lookup 1,.lookup 2,.place 1,.place 2,.permit 1,.claim 1,.respond 1 (.ok [[1,2],[3,4]]),
        .store 1,.complete 1,.receive 2] = some w ∧
      ∃ task, w.tasks.get? 2 = some task ∧ task.phase = .finished (.ok [3,4]) := ⟨_,rfl,_,rfl,rfl⟩
  obtain ⟨w,ran,task,found,finished⟩ := reached
  have path := drive_runs (next?_step _) ran
  exact ⟨w,task,path,found,finished,(cache_is_transparent (memory_lawful _) path).1 2 task _ found finished⟩

end Lucida.Store.ChunkCache
