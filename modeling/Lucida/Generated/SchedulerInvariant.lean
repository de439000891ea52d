import Lucida.Generated.Service

namespace Lucida.Generated
open Content Core Lib

namespace GeneratedSchedulerState

-- The hand-kept agreement of the queue, its lane map and the two key sets.
structure Sound (s : GeneratedSchedulerState) : Prop where
  distinct : (s.queued.map (·.workKey)).Nodup
  lanes : ∀ workKey lane, s.queuedKeys.get? workKey = some lane ↔ ⟨workKey,lane⟩ ∈ s.queued
  waiting : ∀ item ∈ s.queued, item.workKey ∉ s.running ∧ item.workKey ∉ s.completedKeys
  ended : Disjoint s.running s.completedKeys

-- What every operation but a worker's does: it touches nothing but the queue,
-- where only keys on offer come in.
structure Requeues (offered : GeneratedWorkKey → Prop) (s t : GeneratedSchedulerState) : Prop where
  sound : s.Sound → t.Sound
  running : t.running = s.running
  completedKeys : t.completedKeys = s.completedKeys
  queued : ∀ workKey ∈ t.queued.map (·.workKey), workKey ∈ s.queued.map (·.workKey) ∨ offered workKey

variable {offered : GeneratedWorkKey → Prop}

theorem Requeues.refl (s : GeneratedSchedulerState) : Requeues offered s s := ⟨id,rfl,rfl,fun _ => .inl⟩

theorem Requeues.trans {s t u : GeneratedSchedulerState} (first : Requeues offered s t)
    (second : Requeues offered t u) : Requeues offered s u := by
  refine ⟨second.sound ∘ first.sound,second.running.trans first.running,
    second.completedKeys.trans first.completedKeys,?_⟩
  intro workKey member
  rcases second.queued workKey member with earlier | new
  · exact first.queued workKey earlier
  · exact .inr new

theorem Requeues.weaken {s t : GeneratedSchedulerState} (requeues : Requeues (fun _ => False) s t) :
    Requeues offered s t :=
  ⟨requeues.sound,requeues.running,requeues.completedKeys,
    fun workKey member => .inl ((requeues.queued workKey member).resolve_right id)⟩

theorem initial_sound : default.Sound :=
  ⟨List.nodup_nil,by simp [default],by simp [default],Finset.disjoint_empty_left _⟩

section Promotion
variable {items : List GeneratedWorkItem} {workKey : GeneratedWorkKey} {lane : GeneratedSchedulingLane}

theorem promoted_keys :
    (updateFirst (·.workKey = workKey) (fun item => {item with lane}) items).map (·.workKey) =
      items.map (·.workKey) := by
  induction items with
  | nil => rfl
  | cons item rest ih =>
    simp only [updateFirst]
    split
    · rfl
    · simp only [List.map_cons,ih]

theorem mem_promoted (distinct : (items.map (·.workKey)).Nodup) (present : workKey ∈ items.map (·.workKey)) :
    ⟨other,rank⟩ ∈ updateFirst (·.workKey = workKey) (fun item => {item with lane}) items ↔
      if other = workKey then rank = lane else ⟨other,rank⟩ ∈ items := by
  induction items with
  | nil => exact absurd present (by simp)
  | cons item rest ih =>
    obtain ⟨fresh,later⟩ := List.nodup_cons.mp distinct
    simp only [updateFirst,decide_eq_true_eq]
    split
    · -- The item is the promoted one, and no later item has its key.
      rename_i hit
      have apart : ⟨workKey,rank⟩ ∉ rest := fun member => fresh (List.mem_map.mpr ⟨_,member,hit.symm⟩)
      grind
    · rename_i miss
      have below : workKey ∈ rest.map (·.workKey) := by
        rcases List.mem_cons.mp present with hit | below
        · exact absurd hit.symm miss
        · exact below
      rw [List.mem_cons,List.mem_cons,ih later below]
      grind

end Promotion

theorem Sound.queued_iff {s : GeneratedSchedulerState} (sound : s.Sound) :
    s.queuedKeys.get? workKey = none ↔ workKey ∉ s.queued.map (·.workKey) := by
  constructor
  · intro absent member
    obtain ⟨item,queued,rfl⟩ := List.mem_map.mp member
    have kept := (sound.lanes item.workKey item.lane).mpr queued
    simp [absent] at kept
  · intro absent
    cases found : s.queuedKeys.get? workKey with
    | none => rfl
    | some lane => exact absurd (List.mem_map.mpr ⟨_,(sound.lanes _ _).mp found,rfl⟩) absent

theorem enqueueWork_requeues (s : GeneratedSchedulerState) (workKey : GeneratedWorkKey)
    (lane : GeneratedSchedulingLane) (admitted : offered workKey) :
    Requeues offered s (s.enqueueWork workKey lane) := by
  unfold enqueueWork
  split
  · exact ⟨fun sound => ⟨sound.distinct,sound.lanes,sound.waiting,sound.ended⟩,rfl,rfl,fun _ => .inl⟩
  · rename_i free
    split
    · rename_i existing found
      split
      · refine ⟨fun sound => ?_,rfl,rfl,fun other member => .inl (by rwa [promoted_keys] at member)⟩
        have present : workKey ∈ s.queued.map (·.workKey) :=
          List.mem_map.mpr ⟨_,(sound.lanes _ _).mp found,rfl⟩
        refine ⟨?_,?_,?_,sound.ended⟩
        · simpa only [promoted_keys] using sound.distinct
        · intro other rank
          rw [IndexMap.get?_insert,mem_promoted sound.distinct present]
          split
          · simp only [Option.some.injEq,eq_comm]
          · exact sound.lanes other rank
        · intro item member
          have keyed := List.mem_map_of_mem (f := (·.workKey)) member
          rw [promoted_keys] at keyed
          obtain ⟨original,queued,same⟩ := List.mem_map.mp keyed
          simpa only [same] using sound.waiting original queued
      · exact ⟨fun sound => ⟨sound.distinct,sound.lanes,sound.waiting,sound.ended⟩,rfl,rfl,fun _ => .inl⟩
    · rename_i absent
      refine ⟨fun sound => ?_,rfl,rfl,fun other member => ?_⟩
      rotate_left
      · rw [List.map_append,List.mem_append] at member
        rcases member with earlier | new
        · exact .inl earlier
        · cases List.mem_singleton.mp new
          exact .inr admitted
      have fresh := sound.queued_iff.mp absent
      refine ⟨?_,?_,?_,sound.ended⟩
      · simpa [List.nodup_append] using ⟨sound.distinct,fun item queued same =>
          fresh (List.mem_map.mpr ⟨item,queued,same⟩)⟩
      · intro other rank
        have before := sound.lanes other rank
        have unqueued : ⟨workKey,rank⟩ ∉ s.queued := fun queued => fresh (List.mem_map.mpr ⟨_,queued,rfl⟩)
        grind [IndexMap.get?_insert]
      · intro item member
        rcases List.mem_append.mp member with queued | new
        · exact sound.waiting item queued
        · cases List.mem_singleton.mp new
          exact ⟨fun held => free (.inr held),fun done => free (.inl done)⟩

-- The keys a client's hint can bring into the queue.
def Admits (service : Service) (offered : GeneratedWorkKey → Prop) (hint : ViewerInterestHint) : Prop :=
  ∀ key ∈ hint.desiredKeys ++ hint.predictedKeys, ∀ workKey,
    service.workKeyFromInterest hint.datasetId key = some workKey → offered workKey

theorem enqueueInterest_requeues (s : GeneratedSchedulerState) (admitted : Admits service offered hint) :
    Requeues offered s (s.enqueueInterest service hint) := by
  have each : ∀ offer ∈ ((hint.desiredKeys ++ hint.predictedKeys).filterMap fun key =>
      (service.workKeyFromInterest hint.datasetId key).map fun workKey => (workKey,key.lane)).take
        service.perClientKeyCap, offered offer.1 := by
    intro offer member
    obtain ⟨key,listed,made⟩ := List.mem_filterMap.mp (List.mem_of_mem_take member)
    obtain ⟨workKey,named,rfl⟩ := Option.map_eq_some_iff.mp made
    exact admitted key listed workKey named
  unfold enqueueInterest
  generalize ((hint.desiredKeys ++ hint.predictedKeys).filterMap _).take _ = offers at each
  induction offers generalizing s with
  | nil => exact .refl s
  | cons offer rest ih =>
    have first := enqueueWork_requeues s offer.1 offer.2 (each offer List.mem_cons_self)
    exact first.trans (ih _ fun other member => each other (List.mem_cons_of_mem _ member))

theorem expireInterests_requeues (s : GeneratedSchedulerState) (nowMs : Nat) :
    Requeues offered s (s.expireInterests nowMs) :=
  ⟨fun sound => ⟨sound.distinct,sound.lanes,sound.waiting,sound.ended⟩,rfl,rfl,fun _ => .inl⟩

theorem get?_eraseAll (dropped : List GeneratedWorkItem) (keys : IndexMap GeneratedWorkKey GeneratedSchedulingLane) :
    (dropped.foldl (fun keys item => keys.erase item.workKey) keys).get? workKey =
      if workKey ∈ dropped.map (·.workKey) then none else keys.get? workKey := by
  induction dropped generalizing keys with
  | nil => simp
  | cons item rest ih =>
    rw [List.foldl_cons,ih,IndexMap.get?_erase]
    grind

theorem pruneStaleQueued_requeues (service : Service) (s : GeneratedSchedulerState) (nowMs : Nat) :
    Requeues offered s (s.pruneStaleQueued service nowMs) := by
  refine ⟨fun sound => ?_,rfl,rfl,fun _ member => .inl ((List.filter_sublist.map _).subset member)⟩
  unfold pruneStaleQueued
  refine ⟨sound.distinct.sublist (List.filter_sublist.map _),?_,?_,sound.ended⟩
  · intro workKey lane
    rw [get?_eraseAll]
    have before := sound.lanes workKey lane
    simp only [List.mem_filter,decide_eq_true_eq]
    split
    · -- A dropped key has no second item that could have been kept.
      rename_i dropped
      obtain ⟨item,member,same⟩ := List.mem_map.mp dropped
      obtain ⟨queued,stale⟩ := List.mem_filter.mp member
      have unique := List.inj_on_of_nodup_map sound.distinct queued
      grind
    · rename_i kept
      rw [before]
      refine ⟨fun queued => ⟨queued,?_⟩,And.left⟩
      by_contra stale
      exact kept (List.mem_map.mpr ⟨_,List.mem_filter.mpr ⟨queued,by simpa using stale⟩,rfl⟩)
  · intro item member
    exact sound.waiting item (List.mem_of_mem_filter member)

theorem applyViewerInterest_requeues (s : GeneratedSchedulerState) (client : ClientId) (nowMs : Nat)
    (admitted : Admits service offered hint) :
    Requeues offered s (s.applyViewerInterest service client hint nowMs) := by
  unfold applyViewerInterest
  split
  · exact .refl s
  · refine .trans ?_ (pruneStaleQueued_requeues service _ nowMs)
    refine .trans ?_ (enqueueInterest_requeues _ admitted)
    exact ⟨fun sound => ⟨sound.distinct,sound.lanes,sound.waiting,sound.ended⟩,rfl,rfl,fun _ => .inl⟩

theorem removeClientInterest_requeues (service : Service) (s : GeneratedSchedulerState) (client : ClientId)
    (nowMs : Nat) : Requeues offered s (s.removeClientInterest service client nowMs) := by
  unfold removeClientInterest
  split
  · exact .refl s
  · refine .trans ?_ (pruneStaleQueued_requeues service _ nowMs)
    exact ⟨fun sound => ⟨sound.distinct,sound.lanes,sound.waiting,sound.ended⟩,rfl,rfl,fun _ => .inl⟩

theorem request_requeues (s : GeneratedSchedulerState) (workKey : GeneratedWorkKey)
    (lane : GeneratedSchedulingLane) (admitted : offered workKey) : Requeues offered s (s.request workKey lane) := by
  unfold request
  split
  · exact .refl s
  · exact enqueueWork_requeues s workKey lane admitted

theorem enqueueChunkRequest_requeues (service : Service) (s : GeneratedSchedulerState) (imageId : ImageId)
    (levelIndex : Nat) (key : String)
    (admitted : ∀ plan, service.plan imageId levelIndex = some plan → offered ⟨plan.datasetId,imageId,levelIndex,key⟩) :
    Requeues offered s (s.enqueueChunkRequest service imageId levelIndex key) := by
  unfold enqueueChunkRequest
  split
  · exact .refl s
  · rename_i plan planned
    exact request_requeues s _ _ (admitted plan planned)

theorem shutdown_requeues (s : GeneratedSchedulerState) (reason : String) :
    Requeues offered s (s.shutdown reason) := by
  unfold shutdown
  split
  · exact .refl s
  · exact ⟨fun sound => ⟨List.nodup_nil,by simp,by simp,sound.ended⟩,rfl,rfl,by simp⟩

-- What a worker gets from the queue, and what that leaves.
inductive Popped (s : GeneratedSchedulerState) : GeneratedSchedulerState × Option GeneratedWorkItem → Prop where
  | nothing : Requeues (fun _ => False) s t → Popped s (t,none)
  | item {item : GeneratedWorkItem} : t.Sound → item.workKey ∉ s.running →
      item.workKey ∈ s.queued.map (·.workKey) → t.running = insert item.workKey s.running →
      t.completedKeys = s.completedKeys → (∀ workKey ∈ t.queued.map (·.workKey), workKey ∈ s.queued.map (·.workKey)) →
      Popped s (t,some item)

section Pop
variable {s : GeneratedSchedulerState} {item : GeneratedWorkItem}

theorem Sound.take (sound : s.Sound) (queued : s.queued[idx]? = some item) :
    let popped := {s with queued := s.queued.eraseIdx idx, queuedKeys := s.queuedKeys.erase item.workKey}
    popped.Sound ∧ item.workKey ∉ popped.queued.map (·.workKey) ∧ item ∈ s.queued := by
  obtain ⟨inside,hit⟩ := List.getElem?_eq_some_iff.mp queued
  have apart : (item::s.queued.eraseIdx idx).Perm s.queued := hit ▸ List.getElem_cons_eraseIdx_perm inside
  obtain ⟨fresh,distinct⟩ := List.nodup_cons.mp ((apart.map (·.workKey)).nodup_iff.mpr sound.distinct)
  refine ⟨⟨distinct,?_,?_,sound.ended⟩,fresh,apart.subset List.mem_cons_self⟩
  · intro workKey lane
    rw [IndexMap.get?_erase]
    split
    · rename_i same
      subst same
      exact iff_of_false (by simp) fun member => fresh (List.mem_map.mpr ⟨_,member,rfl⟩)
    · rename_i other
      rw [sound.lanes,← apart.mem_iff,List.mem_cons]
      exact or_iff_right fun equal => other (congrArg GeneratedWorkItem.workKey equal)
  · intro left member
    exact sound.waiting left (apart.subset (List.mem_cons_of_mem item member))

-- In a sound state the first turn of the loop takes an item or gives up: a queued
-- key is never a completed one.
theorem popBest_popped (service : Service) (sound : s.Sound) (turns : Nat) :
    Popped s (popBest service (turns+1) s) := by
  simp only [popBest]
  split
  · exact .nothing (.refl s)
  · rename_i idx item hit
    obtain ⟨index,_,taken⟩ := Option.bind_eq_some_iff.mp hit
    obtain ⟨found,queued,same⟩ := Option.map_eq_some_iff.mp taken
    cases same
    obtain ⟨popped,fresh,member⟩ := sound.take queued
    obtain ⟨unheld,undone⟩ := sound.waiting item member
    rw [if_neg undone]
    refine .item ⟨popped.distinct,popped.lanes,?_,?_⟩ unheld (List.mem_map.mpr ⟨item,member,rfl⟩) rfl rfl
      fun _ left => ((List.eraseIdx_sublist ..).map _).subset left
    · intro left stays
      have other : left.workKey ≠ item.workKey := fun same => fresh (List.mem_map.mpr ⟨left,stays,same⟩)
      obtain ⟨free,open_⟩ := popped.waiting left stays
      exact ⟨by simpa [other] using free,open_⟩
    · exact Finset.disjoint_insert_left.mpr ⟨undone,sound.ended⟩

theorem popNextWorkItem_popped (service : Service) (sound : s.Sound) (nowMs laterMs : Nat) :
    Popped s (s.popNextWorkItem service nowMs laterMs) := by
  unfold popNextWorkItem
  split
  · exact .nothing (.refl s)
  · have pruned : Requeues (fun _ => False) s ((s.expireInterests nowMs).pruneStaleQueued service laterMs) :=
      (s.expireInterests_requeues nowMs).trans (pruneStaleQueued_requeues service _ laterMs)
    have earlier : ∀ workKey ∈ _,_ := fun workKey member => (pruned.queued workKey member).resolve_right id
    have popped := popBest_popped service (pruned.sound sound) ((s.expireInterests nowMs).pruneStaleQueued
      service laterMs).queued.length
    dsimp only
    generalize popBest service _ _ = result at popped
    cases popped with
    | nothing later => exact .nothing (pruned.trans later)
    | item sound unheld queued running completed left =>
      exact .item sound (pruned.running ▸ unheld) (earlier _ queued) (pruned.running ▸ running)
        (completed.trans pruned.completedKeys) fun workKey member => earlier _ (left workKey member)

end Pop

theorem Sound.release {s : GeneratedSchedulerState} (sound : s.Sound) (workKey : GeneratedWorkKey) :
    {s with running := s.running.erase workKey}.Sound :=
  ⟨sound.distinct,sound.lanes,
    fun item queued => ⟨fun held => (sound.waiting item queued).1 (Finset.mem_of_mem_erase held),
      (sound.waiting item queued).2⟩,
    sound.ended.mono_left (Finset.erase_subset _ _)⟩

theorem Sound.complete {s : GeneratedSchedulerState} (sound : s.Sound) (held : workKey ∈ s.running) :
    {s with running := s.running.erase workKey, completedKeys := insert workKey s.completedKeys}.Sound := by
  have released := sound.release workKey
  refine ⟨sound.distinct,sound.lanes,?_,?_⟩
  · intro item queued
    obtain ⟨free,undone⟩ := released.waiting item queued
    have other : item.workKey ≠ workKey := fun same => (sound.waiting item queued).1 (same ▸ held)
    exact ⟨free,by simpa [other] using undone⟩
  · exact Finset.disjoint_insert_right.mpr ⟨Finset.notMem_erase _ _,released.ended⟩

end GeneratedSchedulerState

namespace World

def item? (w : World) (id : Nat) : Option GeneratedWorkItem := (w.workers.get? id).map (·.item)

structure Sound (w : World) : Prop where
  scheduler : w.scheduler.Sound
  held : ∀ workKey, workKey ∈ w.scheduler.running ↔ ∃ id item, w.item? id = some item ∧ item.workKey = workKey
  apart : ∀ id id' item item', w.item? id = some item → w.item? id' = some item' →
    item.workKey = item'.workKey → id = id'

section Soundness
variable {service : Service} {w after : World} {id : Nat}

@[simp] theorem item?_setStage (w : World) (id other : Nat) (stage : Stage) :
    (w.setStage id stage).item? other = w.item? other := by
  unfold item?
  rw [workers_setStage]
  split
  · rename_i same
    subst same
    rw [Option.map_map]
    rfl
  · rfl

theorem initial_world_sound (recovered : DerivedChunkCache) (shown : IndexMap DatasetId GeneratedAvailability) :
    (initial recovered shown).Sound :=
  ⟨GeneratedSchedulerState.initial_sound,by simp [initial,item?,GeneratedSchedulerState.default],by simp [initial,item?]⟩

theorem Sound.requeue (sound : w.Sound)
    (requeues : GeneratedSchedulerState.Requeues (fun _ => True) w.scheduler after.scheduler)
    (same : after.workers = w.workers) : after.Sound := by
  have items : ∀ id, after.item? id = w.item? id := fun id => by rw [item?,item?,same]
  refine ⟨requeues.sound sound.scheduler,?_,?_⟩
  · simpa only [requeues.running,items] using sound.held
  · simpa only [items] using sound.apart

theorem Sound.stay (sound : w.Sound) (scheduler : after.scheduler = w.scheduler)
    (items : ∀ id, after.item? id = w.item? id) : after.Sound := by
  refine ⟨scheduler ▸ sound.scheduler,?_,?_⟩
  · simpa only [scheduler,items] using sound.held
  · simpa only [items] using sound.apart

theorem pop_world_sound (sound : w.Sound) (idle : w.workers.get? id = none) (nowMs laterMs : Nat) :
    (w.pop service id nowMs laterMs).Sound := by
  have popped := GeneratedSchedulerState.popNextWorkItem_popped service sound.scheduler nowMs laterMs
  unfold pop
  generalize w.scheduler.popNextWorkItem service nowMs laterMs = result at popped
  cases popped with
  | nothing later => exact sound.requeue later.weaken rfl
  | @item t item popped unheld _ running _ =>
    -- The popped key is held by no worker yet, so the idle one takes it alone.
    have items : ∀ other, {w with scheduler := t, workers := w.workers.insert id ⟨item,.checking .popped⟩}.item? other =
        if other = id then some item else w.item? other := by
      intro other
      unfold item?
      rw [IndexMap.get?_insert]
      split <;> rfl
    have vacant : w.item? id = none := by rw [item?,idle]; rfl
    have foreign : ∀ other held, w.item? other = some held → held.workKey ≠ item.workKey := fun other held holds same =>
      unheld ((sound.held _).mpr ⟨other,held,holds,same⟩)
    refine ⟨popped,?_,?_⟩
    · intro workKey
      simp only [running,items,Finset.mem_insert,sound.held]
      grind
    · intro one two held held' holds holds' same
      simp only [items] at holds holds'
      grind [sound.apart]

theorem Sound.leave (sound : w.Sound) (found : w.workers.get? id = some worker)
    (scheduler : after.scheduler.Sound) (running : after.scheduler.running = w.scheduler.running.erase worker.item.workKey)
    (workers : after.workers = w.workers.erase id) : after.Sound := by
  have items : ∀ other, after.item? other = if other = id then none else w.item? other := by
    intro other
    unfold item?
    rw [workers,IndexMap.get?_erase]
    split <;> rfl
  have holds : w.item? id = some worker.item := by rw [item?,found]; rfl
  have alone : ∀ other item, w.item? other = some item → item.workKey = worker.item.workKey → other = id :=
    fun other item held same => sound.apart _ _ _ _ held holds same
  refine ⟨scheduler,?_,?_⟩
  · intro workKey
    simp only [running,items,Finset.mem_erase,sound.held]
    grind
  · intro one two held held' holds' holds'' same
    simp only [items] at holds' holds''
    grind [sound.apart]

theorem finish_sound (sound : w.Sound) (found : w.workers.get? id = some worker) (result : MaterializeOneResult) :
    (w.finish id worker.item.workKey result).Sound := by
  have held : worker.item.workKey ∈ w.scheduler.running :=
    (sound.held _).mpr ⟨id,worker.item,by rw [item?,found]; rfl,rfl⟩
  have released := sound.scheduler.release worker.item.workKey
  have completed := sound.scheduler.complete held
  cases result with
  | ready | cacheReused =>
    exact sound.leave found ⟨completed.distinct,completed.lanes,completed.waiting,completed.ended⟩ rfl rfl
  | failed | canceled =>
    exact sound.leave found ⟨released.distinct,released.lanes,released.waiting,released.ended⟩ rfl rfl

theorem advance_world_sound (sound : w.Sound) (taken : w.advance service id = some after) : after.Sound := by
  obtain ⟨worker,found,moved⟩ := advance_cases taken
  cases moved with
  | canceled _ =>
    have released := sound.scheduler.release worker.item.workKey
    exact sound.leave found ⟨released.distinct,released.lanes,released.waiting,released.ended⟩ rfl rfl
  | finished _ => exact finish_sound sound found _
  | seeded _ _ | applied _ | told _ _ | scanned _ => exact sound.stay rfl fun other => item?_setStage _ _ other _

theorem next_sound (sound : w.Sound) (taken : w.next? service event = some after) : after.Sound := by
  cases event with
  | request imageId levelIndex key =>
    cases taken
    exact sound.requeue (w.scheduler.enqueueChunkRequest_requeues service imageId levelIndex key fun _ _ => trivial) rfl
  | prewarm workKey =>
    simp only [next?] at taken
    split at taken
    · cases taken
      exact sound.requeue (w.scheduler.request_requeues workKey .background trivial) rfl
    · cases taken
  | interest client hint nowMs =>
    cases taken
    exact sound.requeue (w.scheduler.applyViewerInterest_requeues client nowMs fun _ _ _ _ => trivial) rfl
  | leave client nowMs =>
    cases taken
    exact sound.requeue (w.scheduler.removeClientInterest_requeues service client nowMs) rfl
  | shutdown reason =>
    cases taken
    exact sound.requeue (w.scheduler.shutdown_requeues reason) rfl
  | pop id nowMs laterMs =>
    simp only [next?] at taken
    split at taken
    · rename_i free
      cases taken
      exact pop_world_sound sound free.2 nowMs laterMs
    · cases taken
  | check id nowMs =>
    obtain ⟨_,_,stage,_,_,rfl,_⟩ := check_cases taken
    exact sound.stay rfl fun other => item?_setStage w id other stage
  | look id readable =>
    obtain ⟨_,_,_,_,_,_,⟨_,rfl⟩ | rfl⟩ := look_cases taken <;>
      exact sound.stay rfl fun other => item?_setStage w id other _
  | generate id outcome =>
    obtain ⟨_,_,_,_,_,_,⟨_,rfl⟩ | ⟨_,_,rfl⟩⟩ := generate_cases taken <;>
      exact sound.stay rfl fun other => item?_setStage w id other _
  | write id outcome =>
    obtain ⟨_,_,_,_,_,_,_,⟨_,rfl⟩ | ⟨_,rfl | rfl⟩⟩ := write_cases taken <;>
      exact sound.stay rfl fun other => item?_setStage _ id other _
  | advance id => exact advance_world_sound sound taken
  | sweep listing =>
    cases taken
    exact sound.stay rfl fun _ => rfl
  | readFile chunk =>
    obtain ⟨_,rfl⟩ := readFile_reads taken
    exact sound.stay rfl fun _ => rfl
  | seedRead =>
    obtain ⟨_,_,_,_,rfl⟩ := seedRead_seeds taken
    exact sound.stay rfl fun _ => rfl
  | removeDataset datasetId =>
    cases taken
    exact sound.stay rfl fun _ => rfl

theorem runs_sound_world (path : Runs (step service) (initial recovered shown) events w) : w.Sound :=
  path.preserves (fun _ _ _ sound taken => next_sound sound taken) (initial_world_sound recovered shown)

end Soundness
end World

-- Whatever the order of requests, prewarming, interests, expiry, pruning, pops,
-- cancellation, completion and shutdown.
theorem scheduler_books_agree {service : Service}
    (path : Runs (World.step service) (World.initial recovered shown) events w) :
    (w.scheduler.queued.map (·.workKey)).Nodup ∧
    (∀ workKey lane, w.scheduler.queuedKeys.get? workKey = some lane ↔ ⟨workKey,lane⟩ ∈ w.scheduler.queued) ∧
    (∀ item ∈ w.scheduler.queued, item.workKey ∉ w.scheduler.running ∧ item.workKey ∉ w.scheduler.completedKeys) ∧
    Disjoint w.scheduler.running w.scheduler.completedKeys ∧
    (∀ id worker, w.workers.get? id = some worker → worker.item.workKey ∈ w.scheduler.running) ∧
    ∀ id id' worker worker', w.workers.get? id = some worker → w.workers.get? id' = some worker' →
      worker.item.workKey = worker'.item.workKey → id = id' := by
  obtain ⟨books,held,apart⟩ := World.runs_sound_world path
  have holds : ∀ id worker, w.workers.get? id = some worker → w.item? id = some worker.item := by
    intro id worker found
    rw [World.item?,found]
    rfl
  refine ⟨books.distinct,books.lanes,books.waiting,books.ended,?_,?_⟩
  · intro id worker found
    exact (held _).mpr ⟨id,worker.item,holds id worker found,rfl⟩
  · intro id id' worker worker' found found' same
    exact apart id id' _ _ (holds id worker found) (holds id' worker' found') same
def coarsePlan : GeneratedCoarsePlan := ⟨"d","i",1,"c",⟨1,1,1,1,1⟩,⟨1,1,1,1,1⟩⟩

def oneChunkService : Service where
  plans := .ofList [(("i",1),coarsePlan)]
  planned := by decide
  images := ["i"]
  concurrency := 2
  perClientKeyCap := 8
  backgroundChunkLimit := 8
  backgroundTrickleWhenActive := false

def wantsChunk : ViewerInterestHint := ⟨"d",[⟨"i","1/0/0/0/0/0",.predicted⟩],[],0,10⟩

-- A prewarmed chunk is promoted twice, popped once, and asked for again while it runs.
theorem scheduler_books_agree_across_promotion :
    ∃ w, Runs (World.step oneChunkService) (World.initial ⟨[],.empty,.empty,none⟩ .empty)
        [.prewarm (coarsePlan.workKey "1/0/0/0/0/0"),.interest 7 wantsChunk 0,.request "i" 1 "1/0/0/0/0/0",
          .pop 0 0 0,.pop 1 0 0,.request "i" 1 "1/0/0/0/0/0"] w ∧
      w.scheduler.running = {coarsePlan.workKey "1/0/0/0/0/0"} ∧ w.scheduler.deduped = 3 ∧
      Disjoint w.scheduler.running w.scheduler.completedKeys := by
  have reached : ∃ w, drive (World.next? oneChunkService) (World.initial ⟨[],.empty,.empty,none⟩ .empty)
      [.prewarm (coarsePlan.workKey "1/0/0/0/0/0"),.interest 7 wantsChunk 0,.request "i" 1 "1/0/0/0/0/0",
        .pop 0 0 0,.pop 1 0 0,.request "i" 1 "1/0/0/0/0/0"] = some w ∧
      w.scheduler.running = {coarsePlan.workKey "1/0/0/0/0/0"} ∧ w.scheduler.deduped = 3 := by
    refine ⟨_,rfl,?_,?_⟩ <;> decide
  obtain ⟨w,ran,running,deduped⟩ := reached
  have path : Runs (World.step oneChunkService) _ _ w := drive_runs (fun _ _ _ taken => taken) ran
  obtain ⟨_,_,_,apart,_⟩ := scheduler_books_agree path
  exact ⟨w,path,running,deduped,apart⟩

end Lucida.Generated
