import Lucida.Generated.SchedulerInvariant

namespace Lucida.Generated
open Content Core Lib

namespace Stage

def inHand : Stage → Bool
  | .applying errand _ | .telling errand _ => errand ≠ .failed
  | .scanning | .finished .ready | .finished .cacheReused => true
  | _ => false

def announced : Stage → Bool
  | .applying .withdrawn _ | .telling .withdrawn _ => true
  | .scanning | .finished .ready | .finished .cacheReused => true
  | _ => false

theorem announced_inHand (told : announced stage) : inHand stage := by
  unfold announced at told
  split at told <;> simp_all [inHand]

def withdrawal : Stage → GeneratedAvailability
  | .applying .withdrawn delta | .telling .withdrawn delta => delta
  | _ => []

def Fits (chunk : DerivedChunkKey) : Stage → Prop
  | .applying .failed delta | .telling .failed delta => ∀ update ∈ delta, update.chunk = chunk
  | .applying .reused delta | .telling .reused delta => delta = [⟨chunk,.ready,none⟩]
  | .applying .made delta | .telling .made delta => delta = [⟨chunk,.ready,none⟩]
  | _ => True

structure Quiet (chunk : DerivedChunkKey) (stage : Stage) : Prop where
  fits : stage.Fits chunk
  idle : stage.inHand = false
  silent : stage.withdrawal = []
  unannounced : stage.announced = false

theorem quiet_failure (own : ∀ update ∈ delta, update.chunk = chunk) : (applying .failed delta).Quiet chunk :=
  ⟨own,rfl,rfl,rfl⟩

theorem cancel_quiet (checkpoint : Checkpoint) : checkpoint.cancel.Quiet chunk := by
  cases checkpoint <;> exact ⟨trivial,rfl,rfl,rfl⟩

end Stage

structure Service.Plans (service : Service) (workKey : GeneratedWorkKey) : Prop where
  planned : ∃ plan, service.plan workKey.imageId workKey.levelIndex = some plan ∧ plan.datasetId = workKey.datasetId
  canonical : Canonical workKey.key

theorem backgroundFill_plans (service : Service) : ∀ workKey ∈ service.backgroundFill, service.Plans workKey := by
  -- Over the plans already passed: whatever they offered is planned and canonical.
  have offers : ∀ (plans : List GeneratedCoarsePlan) offered, (∀ plan ∈ plans, plan ∈ service.plans.values) →
      (∀ workKey ∈ offered, service.Plans workKey) →
      ∀ workKey ∈ plans.foldl (fun offered plan => offered ++
        (plan.chunkKeysForAllTc.take (max 1 (service.backgroundChunkLimit-offered.length))).map plan.workKey) offered,
        service.Plans workKey := by
    intro plans
    induction plans with
    | nil => exact fun offered _ earlier => earlier
    | cons plan rest ih =>
      intro offered listed earlier
      refine ih _ (fun other member => listed other (List.mem_cons_of_mem _ member)) ?_
      intro workKey member
      rcases List.mem_append.mp member with before | new
      · exact earlier workKey before
      · obtain ⟨key,taken,rfl⟩ := List.mem_map.mp new
        obtain ⟨⟨level,_⟩,entry,rfl⟩ := List.mem_map.mp (listed plan List.mem_cons_self)
        have names : level = _ := service.planned _ entry
        refine ⟨⟨_,IndexMap.mem_entries_iff.mp (names ▸ entry),rfl⟩,?_⟩
        have spelled := List.mem_of_mem_take taken
        simp only [GeneratedCoarsePlan.chunkKeysForAllTc,GeneratedCoarsePlan.chunkKeysForTc,List.mem_flatMap,
          List.mem_map] at spelled
        obtain ⟨_,_,_,_,_,_,_,_,_,_,rfl⟩ := spelled
        exact chunkKey_canonical _
  unfold Service.backgroundFill
  split
  · simp
  · exact offers _ [] (fun _ member => member) (by simp)

theorem admits_plans {service : Service} {hint : ViewerInterestHint}
    (canonical : ∀ key ∈ hint.desiredKeys ++ hint.predictedKeys, Canonical key.key) :
    GeneratedSchedulerState.Admits service service.Plans hint := by
  intro key listed workKey named
  obtain ⟨coords,parsed,rest⟩ := Option.bind_eq_some_iff.mp named
  obtain ⟨plan,planned,rest⟩ := Option.bind_eq_some_iff.mp rest
  split at rest
  · cases rest
  · rename_i same
    cases rest
    exact ⟨⟨plan,planned,not_not.mp same⟩,canonical key listed⟩

namespace World

-- The status of a chunk in the session's availability, as clients are told it.
def published (w : World) (workKey : GeneratedWorkKey) : Option GeneratedChunkStatus :=
  (w.generatedAvailability.get? workKey.datasetId).bind (·.status? workKey.chunk)

def Settled (w : World) (chunk : DerivedChunkKey) : Prop :=
  (∃ workKey ∈ w.scheduler.completedKeys, workKey.chunk = chunk) ∨
    ∃ id worker, w.workers.get? id = some worker ∧ worker.stage.inHand ∧ worker.item.workKey.chunk = chunk

def Withdrawing (w : World) (chunk : DerivedChunkKey) : Prop :=
  ∃ entry ∈ w.workers.entries, ∃ update ∈ entry.2.stage.withdrawal, update.chunk = chunk

def FilesKept (w : World) : Prop :=
  (∀ workKey ∈ w.scheduler.completedKeys, w.cache.fileMissing workKey.chunk = false) ∧
    ∀ entry ∈ w.workers.entries, entry.2.stage.inHand → w.cache.fileMissing entry.2.item.workKey.chunk = false

-- What goes well: keys come in canonical, no chunk is seeded while it is being
-- withdrawn, no settled chunk has lost its file when a worker looks for missing
-- files, and no dataset goes while one of its chunks stands announced.
def Calm (w : World) : Event → Prop
  | .request _ _ key => Canonical key
  | .interest _ hint _ => ∀ key ∈ hint.desiredKeys ++ hint.predictedKeys, Canonical key.key
  | .advance id =>
      match w.workers.get? id with
      | some ⟨item,.found _⟩ | some ⟨item,.written _⟩ => ¬ w.Withdrawing item.workKey.chunk
      | some ⟨_,.scanning⟩ => w.FilesKept
      | _ => True
  | .removeDataset datasetId =>
      (∀ workKey ∈ w.scheduler.completedKeys, workKey.datasetId ≠ datasetId) ∧
      ∀ entry ∈ w.workers.entries, entry.2.stage.announced → entry.2.item.workKey.datasetId ≠ datasetId
  | _ => True

instance (w : World) (chunk : DerivedChunkKey) : Decidable (w.Withdrawing chunk) :=
  inferInstanceAs (Decidable (∃ entry ∈ w.workers.entries, ∃ update ∈ entry.2.stage.withdrawal, update.chunk = chunk))

instance (w : World) : Decidable w.FilesKept :=
  inferInstanceAs (Decidable ((∀ workKey ∈ w.scheduler.completedKeys, w.cache.fileMissing workKey.chunk = false) ∧
    ∀ entry ∈ w.workers.entries, entry.2.stage.inHand → w.cache.fileMissing entry.2.item.workKey.chunk = false))

instance (w : World) : DecidablePred w.Calm := fun event => by
  unfold Calm
  split
  · infer_instance
  · infer_instance
  · split <;> infer_instance
  · infer_instance
  · infer_instance

structure Settles (service : Service) (w : World) : Prop where
  sound : w.Sound
  queued : ∀ workKey ∈ w.scheduler.queued.map (·.workKey), service.Plans workKey
  held : ∀ id worker, w.workers.get? id = some worker → service.Plans worker.item.workKey
  completed : ∀ workKey ∈ w.scheduler.completedKeys, service.Plans workKey
  fits : ∀ id worker, w.workers.get? id = some worker → worker.stage.Fits worker.item.workKey.chunk
  withdrawn : ∀ chunk, w.Settled chunk → ¬ w.Withdrawing chunk
  cached : ∀ chunk, w.Settled chunk → w.cache.Ready chunk
  announced : ∀ id worker, w.workers.get? id = some worker → worker.stage.announced →
    w.published worker.item.workKey = some .ready
  ready : ∀ workKey ∈ w.scheduler.completedKeys, w.published workKey = some .ready

section Readiness
variable {service : Service} {w after moved : World} {id : Nat} {worker : Worker} {stage : Stage}

theorem Plans_inj {workKey workKey' : GeneratedWorkKey} (plans : service.Plans workKey)
    (plans' : service.Plans workKey') (same : workKey.chunk = workKey'.chunk) : workKey = workKey' := by
  obtain ⟨⟨plan,found,named⟩,_⟩ := plans
  obtain ⟨⟨plan',found',named'⟩,_⟩ := plans'
  obtain ⟨datasetId,imageId,levelIndex,key⟩ := workKey
  obtain ⟨datasetId',imageId',levelIndex',key'⟩ := workKey'
  simp only [GeneratedWorkKey.chunk,DerivedChunkKey.mk.injEq] at same
  obtain ⟨rfl,rfl,rfl⟩ := same
  cases found.symm.trans found'
  simp_all

theorem target_chunk {plan : GeneratedCoarsePlan} {chunk : DerivedChunkKey} {item : GeneratedWorkItem}
    (plans : service.Plans item.workKey) (target : service.target item = some (plan,chunk)) :
    chunk = item.workKey.chunk := by
  obtain ⟨plan',found,rest⟩ := Option.bind_eq_some_iff.mp target
  obtain ⟨coords,parsed,rest⟩ := Option.bind_eq_some_iff.mp rest
  split at rest
  · cases rest
  · cases rest
    obtain ⟨image,level⟩ := Service.plan_names found
    simp [GeneratedWorkKey.chunk,image,level,plans.canonical coords parsed]

theorem item?_of_worker (found : w.workers.get? id = some worker) : w.item? id = some worker.item := by
  rw [item?,found]
  rfl

theorem Settles.alone (settles : w.Settles service) (found : w.workers.get? id = some worker)
    (other : w.workers.get? id' = some worker') (same : worker'.item.workKey.chunk = worker.item.workKey.chunk) :
    id' = id := by
  have keys := Plans_inj (settles.held _ _ other) (settles.held _ _ found) same
  exact settles.sound.apart _ _ _ _ (item?_of_worker other) (item?_of_worker found) keys

-- The chunk of a worker that has not seeded it is nobody else's and not completed.
theorem Settles.unsettled (settles : w.Settles service) (found : w.workers.get? id = some worker)
    (idle : worker.stage.inHand = false) : ¬ w.Settled worker.item.workKey.chunk := by
  rintro (⟨workKey,completed,same⟩ | ⟨id',worker',other,hand,same⟩)
  · have keys := Plans_inj (settles.completed _ completed) (settles.held _ _ found) same
    have running := (settles.sound.held worker.item.workKey).mpr ⟨id,worker.item,item?_of_worker found,rfl⟩
    exact Finset.disjoint_left.mp settles.sound.scheduler.ended running (keys ▸ completed)
  · cases settles.alone found other same
    cases found.symm.trans other
    simp [idle] at hand

theorem Settles.in_hand (found : w.workers.get? id = some worker) (hand : worker.stage.inHand) :
    w.Settled worker.item.workKey.chunk := .inr ⟨id,worker,found,hand,rfl⟩

theorem Settles.spares (settles : w.Settles service) (found : w.workers.get? id = some worker)
    (publishing : worker.stage = .applying errand delta ∨ worker.stage = .telling errand delta)
    (chunk : DerivedChunkKey) (settled : w.Settled chunk) : delta.Spares chunk := by
  have fits := settles.fits _ _ found
  cases errand with
  | reused | made =>
    have single : delta = [⟨worker.item.workKey.chunk,.ready,none⟩] := by
      rcases publishing with shape | shape <;> simpa [shape,Stage.Fits] using fits
    intro update member _
    rw [single] at member
    cases List.mem_singleton.mp member
    rfl
  | failed =>
    have own : ∀ update ∈ delta, update.chunk = worker.item.workKey.chunk := by
      rcases publishing with shape | shape <;> simpa [shape,Stage.Fits] using fits
    have idle : worker.stage.inHand = false := by
      rcases publishing with shape | shape <;> simp [shape,Stage.inHand]
    intro update member same
    exact absurd (own update member ▸ same ▸ settled) (settles.unsettled found idle)
  | withdrawn =>
    have listed : worker.stage.withdrawal = delta := by
      rcases publishing with shape | shape <;> simp [shape,Stage.withdrawal]
    intro update member same
    exact absurd ⟨(id,worker),IndexMap.mem_entries_iff.mpr found,update,listed ▸ member,same⟩
      (settles.withdrawn _ settled)

theorem restaged (found : w.workers.get? id = some worker) (workers : moved.workers = w.workers)
    (there : (moved.setStage id stage).workers.get? other = some worker') :
    other = id ∧ worker' = ⟨worker.item,stage⟩ ∨ other ≠ id ∧ w.workers.get? other = some worker' := by
  rw [workers_setStage,workers,found] at there
  split at there
  · rename_i same
    exact .inl ⟨same,(Option.some.inj there).symm⟩
  · rename_i other
    exact .inr ⟨other,there⟩

theorem settled_restaged (found : w.workers.get? id = some worker) (workers : moved.workers = w.workers)
    (scheduler : moved.scheduler = w.scheduler) (settled : (moved.setStage id stage).Settled chunk) :
    w.Settled chunk ∨ stage.inHand ∧ chunk = worker.item.workKey.chunk := by
  rcases settled with ⟨workKey,completed,same⟩ | ⟨other,worker',there,hand,same⟩
  · exact .inl (.inl ⟨workKey,scheduler ▸ completed,same⟩)
  · rcases restaged found workers there with ⟨_,rfl⟩ | ⟨_,before⟩
    · exact .inr ⟨hand,same.symm⟩
    · exact .inl (.inr ⟨other,worker',before,hand,same⟩)

theorem Settles.restage (settles : w.Settles service) (found : w.workers.get? id = some worker)
    (workers : moved.workers = w.workers) (scheduler : moved.scheduler = w.scheduler)
    (fits : stage.Fits worker.item.workKey.chunk)
    (withdraws : ∀ update ∈ stage.withdrawal, ¬ w.Settled update.chunk ∧ worker.stage.inHand)
    (seeds : stage.inHand → worker.stage.inHand ∨ stage.withdrawal = [] ∧ ¬ w.Withdrawing worker.item.workKey.chunk)
    (cached : ∀ chunk, w.Settled chunk ∨ stage.inHand ∧ chunk = worker.item.workKey.chunk → moved.cache.Ready chunk)
    (kept : ∀ workKey, w.Settled workKey.chunk → w.published workKey = some .ready →
      moved.published workKey = some .ready)
    (tells : stage.announced → moved.published worker.item.workKey = some .ready) :
    (moved.setStage id stage).Settles service := by
  refine ⟨settles.sound.stay scheduler ?_,scheduler ▸ settles.queued,?_,scheduler ▸ settles.completed,?_,?_,?_,?_,?_⟩
  · intro other
    rw [item?_setStage,item?,item?,workers]
  · intro other worker' there
    rcases restaged found workers there with ⟨_,rfl⟩ | ⟨_,before⟩
    · exact settles.held id worker found
    · exact settles.held other worker' before
  · intro other worker' there
    rcases restaged found workers there with ⟨_,rfl⟩ | ⟨_,before⟩
    · exact fits
    · exact settles.fits other worker' before
  · rintro chunk settled ⟨⟨other,worker'⟩,there,update,listed,same⟩
    rcases restaged found workers (IndexMap.mem_entries_iff.mp there) with ⟨_,rfl⟩ | ⟨_,before⟩
    · obtain ⟨unsettled,hand⟩ := withdraws update listed
      rcases settled_restaged found workers scheduler settled with earlier | ⟨_,own⟩
      · exact unsettled (same ▸ earlier)
      · exact unsettled (same ▸ own ▸ Settles.in_hand found hand)
    · have withdrawing : w.Withdrawing chunk :=
        ⟨(other,worker'),IndexMap.mem_entries_iff.mpr before,update,listed,same⟩
      rcases settled_restaged found workers scheduler settled with earlier | ⟨hand,own⟩
      · exact settles.withdrawn chunk earlier withdrawing
      · rcases seeds hand with already | ⟨_,free⟩
        · exact settles.withdrawn chunk (own ▸ Settles.in_hand found already) withdrawing
        · exact free (own ▸ withdrawing)
  · exact fun chunk settled => cached chunk (settled_restaged found workers scheduler settled)
  · intro other worker' there announced
    rcases restaged found workers there with ⟨_,rfl⟩ | ⟨_,before⟩
    · exact tells announced
    · have hand : worker'.stage.inHand := Stage.announced_inHand announced
      exact kept _ (Settles.in_hand before hand) (settles.announced other worker' before announced)
  · intro workKey completed
    have earlier : workKey ∈ w.scheduler.completedKeys := scheduler ▸ completed
    exact kept workKey (.inl ⟨workKey,earlier,rfl⟩) (settles.ready workKey earlier)

theorem Settles.quietly (settles : w.Settles service) (found : w.workers.get? id = some worker)
    (workers : moved.workers = w.workers) (scheduler : moved.scheduler = w.scheduler)
    (published : moved.generatedAvailability = w.generatedAvailability)
    (cached : ∀ chunk, w.cache.Ready chunk → moved.cache.Ready chunk)
    (quiet : stage.Quiet worker.item.workKey.chunk) : (moved.setStage id stage).Settles service := by
  refine settles.restage found workers scheduler quiet.fits ?_ ?_ ?_ ?_ ?_
  · simp [quiet.silent]
  · simp [quiet.idle]
  · rintro chunk (settled | ⟨hand,_⟩)
    · exact cached chunk (settles.cached chunk settled)
    · simp [quiet.idle] at hand
  · intro workKey _ ready
    simpa only [World.published,published] using ready
  · simp [quiet.unannounced]

theorem proceed_quiet {item : GeneratedWorkItem} (plans : service.Plans item.workKey) (checkpoint : Checkpoint) :
    (service.proceed item checkpoint).Quiet item.workKey.chunk := by
  cases checkpoint with
  | popped | generated bytes => exact ⟨trivial,rfl,rfl,rfl⟩
  | entered =>
    simp only [Service.proceed,Service.enter]
    split
    · exact ⟨trivial,rfl,rfl,rfl⟩
    · rename_i plan planned
      obtain ⟨image,level⟩ := Service.plan_names planned
      split
      · exact Stage.quiet_failure (by simp [GeneratedWorkKey.chunk,image,level])
      · split <;> exact ⟨trivial,rfl,rfl,rfl⟩
  | lookedUp =>
    simp only [Service.proceed]
    split
    · exact ⟨trivial,rfl,rfl,rfl⟩
    · rename_i plan chunk target
      split
      · exact ⟨trivial,rfl,rfl,rfl⟩
      · exact Stage.quiet_failure (by simp [target_chunk plans target])

theorem Settles.beside (settles : w.Settles service)
    (requeues : GeneratedSchedulerState.Requeues service.Plans w.scheduler moved.scheduler)
    (workers : moved.workers = w.workers) (sound : moved.Sound)
    (cached : ∀ chunk, w.cache.Ready chunk → moved.cache.Ready chunk)
    (kept : ∀ workKey, (workKey ∈ w.scheduler.completedKeys ∨ ∃ id worker, w.workers.get? id = some worker ∧
        worker.stage.announced ∧ worker.item.workKey = workKey) →
      w.published workKey = some .ready → moved.published workKey = some .ready) : moved.Settles service := by
  have same : ∀ chunk, moved.Settled chunk ↔ w.Settled chunk := fun chunk => by
    rw [Settled,Settled,workers,requeues.completedKeys]
  refine ⟨sound,?_,workers ▸ settles.held,requeues.completedKeys ▸ settles.completed,workers ▸ settles.fits,?_,?_,?_,?_⟩
  · intro workKey member
    rcases requeues.queued workKey member with earlier | offered
    · exact settles.queued workKey earlier
    · exact offered
  · intro chunk settled withdrawing
    rw [Withdrawing,workers] at withdrawing
    exact settles.withdrawn chunk ((same chunk).mp settled) withdrawing
  · exact fun chunk settled => cached chunk (settles.cached chunk ((same chunk).mp settled))
  · intro id worker found announced
    rw [workers] at found
    exact kept _ (.inr ⟨id,worker,found,announced,rfl⟩) (settles.announced id worker found announced)
  · intro workKey completed
    rw [requeues.completedKeys] at completed
    exact kept _ (.inl completed) (settles.ready workKey completed)

theorem initial_settles (service : Service) (recovered : DerivedChunkCache)
    (shown : IndexMap DatasetId GeneratedAvailability) : (initial recovered shown).Settles service := by
  have nothing : ∀ chunk, ¬ (initial recovered shown).Settled chunk := by
    simp [Settled,initial,GeneratedSchedulerState.default]
  refine ⟨initial_world_sound recovered shown,?_,?_,?_,?_,?_,?_,?_,?_⟩ <;>
    simp [initial,GeneratedSchedulerState.default] <;>
    exact fun chunk settled => absurd settled (nothing chunk)

theorem pop_settles (settles : w.Settles service) (sound : (w.pop service id nowMs laterMs).Sound) :
    (w.pop service id nowMs laterMs).Settles service := by
  have popped := GeneratedSchedulerState.popNextWorkItem_popped service settles.sound.scheduler nowMs laterMs
  unfold pop at sound ⊢
  generalize w.scheduler.popNextWorkItem service nowMs laterMs = result at popped sound
  cases popped with
  | nothing later => exact settles.beside later.weaken rfl sound (fun _ ready => ready) fun _ _ ready => ready
  | @item t item _ _ queued _ completed left =>
    -- The worker that takes the item starts with nothing in hand.
    have at_work : ∀ other worker, (w.workers.insert id ⟨item,.checking .popped⟩).get? other = some worker →
        worker = ⟨item,.checking .popped⟩ ∨ w.workers.get? other = some worker := by
      intro other worker there
      rw [IndexMap.get?_insert] at there
      split at there
      · exact .inl (Option.some.inj there).symm
      · exact .inr there
    have earlier : ∀ chunk, ({w with scheduler := t, workers := w.workers.insert id ⟨item,.checking .popped⟩} : World).Settled
        chunk → w.Settled chunk := by
      rintro chunk (⟨workKey,done,same⟩ | ⟨other,worker,there,hand,same⟩)
      · exact .inl ⟨workKey,completed ▸ done,same⟩
      · rcases at_work other worker there with rfl | before
        · simp [Stage.inHand] at hand
        · exact .inr ⟨other,worker,before,hand,same⟩
    refine ⟨sound,fun workKey member => settles.queued workKey (left workKey member),?_,completed ▸ settles.completed,
      ?_,?_,fun chunk settled => settles.cached chunk (earlier chunk settled),?_,completed ▸ settles.ready⟩
    · intro other worker there
      rcases at_work other worker there with rfl | before
      · exact settles.queued _ queued
      · exact settles.held other worker before
    · intro other worker there
      rcases at_work other worker there with rfl | before
      · trivial
      · exact settles.fits other worker before
    · rintro chunk settled ⟨⟨other,worker⟩,there,update,listed,same⟩
      rcases at_work other worker (IndexMap.mem_entries_iff.mp there) with rfl | before
      · simp [Stage.withdrawal] at listed
      · exact settles.withdrawn chunk (earlier chunk settled)
          ⟨(other,worker),IndexMap.mem_entries_iff.mpr before,update,listed,same⟩
    · intro other worker there announced
      rcases at_work other worker there with rfl | before
      · simp [Stage.announced] at announced
      · exact settles.announced other worker before announced

theorem check_settles (settles : w.Settles service) (taken : w.check service id nowMs = some after) :
    after.Settles service := by
  obtain ⟨worker,checkpoint,stage,found,_,rfl,next⟩ := check_cases taken
  refine settles.quietly found rfl rfl rfl (fun _ ready => ready) ?_
  rcases next with rfl | rfl | rfl
  · exact Stage.cancel_quiet checkpoint
  · exact ⟨trivial,rfl,rfl,rfl⟩
  · exact proceed_quiet (settles.held _ _ found) checkpoint

theorem look_settles (settles : w.Settles service) (taken : w.look service id readable = some after) :
    after.Settles service := by
  obtain ⟨worker,_,_,found,_,_,⟨_,rfl⟩ | rfl⟩ := look_cases taken <;>
    exact settles.quietly found rfl rfl rfl (fun _ ready => ready) ⟨trivial,rfl,rfl,rfl⟩

theorem generate_settles (settles : w.Settles service) (taken : w.generate service id outcome = some after) :
    after.Settles service := by
  obtain ⟨worker,plan,chunk,found,target,_,⟨_,rfl⟩ | ⟨_,_,rfl⟩⟩ := generate_cases taken
  · exact settles.quietly found rfl rfl rfl (fun _ ready => ready) ⟨trivial,rfl,rfl,rfl⟩
  · have own := target_chunk (settles.held _ _ found) target
    exact settles.quietly found rfl rfl rfl (fun _ ready => ready) (Stage.quiet_failure (by simp [own]))

theorem write_settles (settles : w.Settles service) (taken : w.write service id outcome = some after) :
    after.Settles service := by
  obtain ⟨worker,plan,chunk,bytes,found,target,_,⟨_,rfl⟩ | ⟨_,rfl | rfl⟩⟩ := write_cases taken
  · exact settles.quietly found rfl rfl rfl (fun _ ready => ready) ⟨trivial,rfl,rfl,rfl⟩
  all_goals
    have own := target_chunk (settles.held _ _ found) target
    exact settles.quietly found rfl rfl rfl (fun _ ready => ready) (Stage.quiet_failure (by simp [own]))

-- A worker leaves its item, which it may only drop when it has nothing in hand.
theorem Settles.leave (settles : w.Settles service) (found : w.workers.get? id = some worker) (sound : after.Sound)
    (workers : after.workers = w.workers.erase id) (cache : after.cache = w.cache)
    (availability : after.generatedAvailability = w.generatedAvailability)
    (queued : after.scheduler.queued = w.scheduler.queued)
    (completed : ∀ workKey, workKey ∈ after.scheduler.completedKeys →
      workKey ∈ w.scheduler.completedKeys ∨ workKey = worker.item.workKey ∧ worker.stage.announced) :
    after.Settles service := by
  have left : ∀ other worker', after.workers.get? other = some worker' → w.workers.get? other = some worker' := by
    intro other worker' there
    rw [workers,IndexMap.get?_erase] at there
    split at there
    · cases there
    · exact there
  have earlier : ∀ chunk, after.Settled chunk → w.Settled chunk := by
    rintro chunk (⟨workKey,done,same⟩ | ⟨other,worker',there,hand,same⟩)
    · rcases completed workKey done with before | ⟨rfl,announced⟩
      · exact .inl ⟨workKey,before,same⟩
      · exact .inr ⟨id,worker,found,Stage.announced_inHand announced,same⟩
    · exact .inr ⟨other,worker',left other worker' there,hand,same⟩
  have told : ∀ workKey, after.published workKey = w.published workKey := fun workKey => by
    rw [World.published,World.published,availability]
  refine ⟨sound,queued ▸ settles.queued,fun other worker' there => settles.held _ _ (left _ _ there),?_,
    fun other worker' there => settles.fits _ _ (left _ _ there),?_,?_,?_,?_⟩
  · intro workKey done
    rcases completed workKey done with before | ⟨rfl,_⟩
    · exact settles.completed workKey before
    · exact settles.held id worker found
  · rintro chunk settled ⟨⟨other,worker'⟩,there,update,listed,same⟩
    have before := left other worker' (IndexMap.mem_entries_iff.mp there)
    exact settles.withdrawn chunk (earlier chunk settled)
      ⟨(other,worker'),IndexMap.mem_entries_iff.mpr before,update,listed,same⟩
  · exact fun chunk settled => cache ▸ settles.cached chunk (earlier chunk settled)
  · intro other worker' there announced
    rw [told]
    exact settles.announced other worker' (left _ _ there) announced
  · intro workKey done
    rw [told]
    rcases completed workKey done with before | ⟨rfl,announced⟩
    · exact settles.ready workKey before
    · exact settles.announced id worker found announced

theorem finish_settles (settles : w.Settles service) (found : w.workers.get? id = some worker)
    (standing : worker.stage = .finished result) : (w.finish id worker.item.workKey result).Settles service := by
  refine settles.leave found (finish_sound settles.sound found result) rfl rfl rfl ?_ ?_
  · cases result <;> rfl
  · intro workKey done
    cases result with
    | ready | cacheReused =>
      rcases Finset.mem_insert.mp done with rfl | before
      · exact .inr ⟨rfl,by simp [standing,Stage.announced]⟩
      · exact .inl before
    | failed | canceled => exact .inl done

theorem published_tell (w : World) (datasetId : DatasetId) (delta : GeneratedAvailability) (workKey : GeneratedWorkKey) :
    (w.tell datasetId delta).published workKey =
      if workKey.datasetId = datasetId then
        (((w.generatedAvailability.get? datasetId).getD []).applyDelta delta).status? workKey.chunk
      else w.published workKey := by
  simp only [published,tell,IndexMap.get?_upsert]
  split <;> rfl

theorem tell_ready {delta : GeneratedAvailability} {workKey : GeneratedWorkKey} (spared : delta.Spares workKey.chunk)
    (ready : w.published workKey = some .ready) : (w.tell datasetId delta).published workKey = some .ready := by
  rw [published_tell]
  split
  · rename_i same
    subst same
    obtain ⟨chunks,shown,status⟩ := Option.bind_eq_some_iff.mp ready
    rw [shown]
    exact GeneratedAvailability.applyDelta_ready spared status
  · exact ready

theorem seed_settles (settles : w.Settles service) (found : w.workers.get? id = some worker)
    (own : chunk = worker.item.workKey.chunk) (seeding : errand = .reused ∨ errand = .made)
    (free : ¬ w.Withdrawing worker.item.workKey.chunk) :
    ({w with cache := w.cache.seedReadyChunk chunk bytes}.setStage id
      (.applying errand [⟨chunk,.ready,none⟩])).Settles service := by
  subst own
  refine settles.restage found rfl rfl ?_ ?_ ?_ ?_ (fun _ _ ready => ready) ?_
  · rcases seeding with rfl | rfl <;> rfl
  · rcases seeding with rfl | rfl <;> simp [Stage.withdrawal]
  · rcases seeding with rfl | rfl <;> exact fun _ => .inr ⟨rfl,free⟩
  · rintro chunk (settled | ⟨_,same⟩)
    · exact w.cache.seedReadyChunk_ready _ bytes (.inr (settles.cached chunk settled))
    · exact w.cache.seedReadyChunk_ready _ bytes (.inl same)
  · rcases seeding with rfl | rfl <;> simp [Stage.announced]

theorem applied_settles (settles : w.Settles service) (found : w.workers.get? id = some worker)
    (standing : worker.stage = .applying errand delta) :
    ({w with cache := w.cache.applyDelta delta}.setStage id (.telling errand delta)).Settles service := by
  have spares := settles.spares found (.inl standing)
  have hand : (Stage.telling errand delta).inHand = worker.stage.inHand := by rw [standing]; rfl
  have listed : (Stage.telling errand delta).withdrawal = worker.stage.withdrawal := by rw [standing]; cases errand <;> rfl
  have told : (Stage.telling errand delta).announced = worker.stage.announced := by rw [standing]; cases errand <;> rfl
  refine settles.restage found rfl rfl ?_ ?_ (fun held => .inl (hand ▸ held)) ?_ (fun _ _ ready => ready) ?_
  · have fits := settles.fits id worker found
    rw [standing] at fits
    cases errand <;> exact fits
  · rw [listed]
    intro update member
    refine ⟨fun settled => settles.withdrawn _ settled
      ⟨(id,worker),IndexMap.mem_entries_iff.mpr found,update,member,rfl⟩,?_⟩
    rw [standing] at member ⊢
    cases errand <;> simp_all [Stage.withdrawal,Stage.inHand]
  · rintro chunk (settled | ⟨held,rfl⟩)
    · exact DerivedChunkCache.applyDelta_ready (spares chunk settled) (settles.cached chunk settled)
    · have settled := Settles.in_hand found (hand ▸ held)
      exact DerivedChunkCache.applyDelta_ready (spares _ settled) (settles.cached _ settled)
  · rw [told]
    exact settles.announced id worker found

theorem told_settles (settles : w.Settles service) (found : w.workers.get? id = some worker)
    (standing : worker.stage = .telling errand delta)
    (planned : service.plan worker.item.workKey.imageId worker.item.workKey.levelIndex = some plan) :
    ((w.tell plan.datasetId delta).setStage id errand.next).Settles service := by
  have spares := settles.spares found (.inr standing)
  have hand : errand.next.inHand = worker.stage.inHand := by rw [standing]; cases errand <;> rfl
  refine settles.restage found rfl rfl ?_ ?_ (fun held => .inl (hand ▸ held)) ?_
    (fun workKey settled => tell_ready (spares _ settled)) ?_
  · cases errand <;> trivial
  · cases errand <;> simp [Errand.next,Stage.withdrawal]
  · rintro chunk (settled | ⟨held,rfl⟩)
    · exact settles.cached chunk settled
    · exact settles.cached _ (Settles.in_hand found (hand ▸ held))
  · intro announced
    obtain ⟨plan',found',named⟩ := (settles.held id worker found).planned
    cases planned.symm.trans found'
    have fits := settles.fits id worker found
    rw [standing] at fits
    cases errand with
    | reused | made =>
      have single : delta = [⟨worker.item.workKey.chunk,.ready,none⟩] := fits
      rw [published_tell,if_pos named.symm,single]
      simp [GeneratedAvailability.applyDelta]
    | withdrawn =>
      have settled : w.Settled worker.item.workKey.chunk := Settles.in_hand found (hand ▸ rfl)
      exact tell_ready (spares _ settled) (settles.announced id worker found (by rw [standing]; rfl))
    | failed => simp [Errand.next,Stage.announced] at announced

theorem scanned_settles (settles : w.Settles service) (found : w.workers.get? id = some worker)
    (standing : worker.stage = .scanning) (kept : w.FilesKept) :
    (w.setStage id (if w.cache.missingReadyDelta.isEmpty then .finished .ready
      else .applying .withdrawn w.cache.missingReadyDelta)).Settles service := by
  have hand : worker.stage.inHand := by rw [standing]; rfl
  have announced := settles.announced id worker found (by rw [standing]; rfl)
  have own := settles.cached _ (Settles.in_hand found hand)
  have present : ∀ chunk, w.Settled chunk → w.cache.fileMissing chunk = false := by
    rintro chunk (⟨workKey,completed,rfl⟩ | ⟨other,worker',there,hand',rfl⟩)
    · exact kept.1 workKey completed
    · exact kept.2 (other,worker') (IndexMap.mem_entries_iff.mpr there) hand'
  refine settles.restage found rfl rfl ?_ ?_ (fun _ => .inl hand) ?_ (fun _ _ ready => ready) (fun _ => announced)
  · split <;> trivial
  · intro update listed
    refine ⟨fun settled => ?_,hand⟩
    split at listed
    · cases listed
    · have missing := DerivedChunkCache.missingReadyDelta_missing listed
      simp [present _ settled] at missing
  · rintro chunk (settled | ⟨_,rfl⟩)
    · exact settles.cached chunk settled
    · exact own

theorem advance_settles (settles : w.Settles service) (calm : w.Calm (.advance id))
    (taken : w.advance service id = some after) : after.Settles service := by
  have sound := advance_world_sound settles.sound taken
  obtain ⟨worker,found,moved⟩ := advance_cases taken
  simp only [Calm,found] at calm
  cases moved with
  | canceled standing => exact settles.leave found sound rfl rfl rfl rfl fun _ => .inl
  | finished standing => exact finish_settles settles found standing
  | seeded standing target =>
    have own := target_chunk (settles.held id worker found) target
    rcases standing with ⟨standing,rfl⟩ | ⟨standing,rfl⟩
    · exact seed_settles settles found own (.inl rfl) (by cases worker; cases standing; exact calm)
    · exact seed_settles settles found own (.inr rfl) (by cases worker; cases standing; exact calm)
  | applied standing => exact applied_settles settles found standing
  | told standing planned => exact told_settles settles found standing planned
  | scanned standing => exact scanned_settles settles found standing (by cases worker; cases standing; exact calm)

theorem next_settles (settles : w.Settles service) (calm : w.Calm event) (taken : w.next? service event = some after) :
    after.Settles service := by
  have sound := next_sound settles.sound taken
  cases event with
  | request imageId levelIndex key =>
    cases taken
    refine settles.beside ?_ rfl sound (fun _ ready => ready) fun _ _ ready => ready
    exact w.scheduler.enqueueChunkRequest_requeues service _ _ _ fun plan planned => ⟨⟨plan,planned,rfl⟩,calm⟩
  | prewarm workKey =>
    simp only [next?] at taken
    split at taken
    · rename_i offered
      cases taken
      refine settles.beside ?_ rfl sound (fun _ ready => ready) fun _ _ ready => ready
      exact w.scheduler.request_requeues _ _ (backgroundFill_plans service workKey offered)
    · cases taken
  | interest client hint nowMs =>
    cases taken
    refine settles.beside ?_ rfl sound (fun _ ready => ready) fun _ _ ready => ready
    exact w.scheduler.applyViewerInterest_requeues client nowMs (admits_plans calm)
  | leave client nowMs =>
    cases taken
    refine settles.beside ?_ rfl sound (fun _ ready => ready) fun _ _ ready => ready
    exact w.scheduler.removeClientInterest_requeues service client nowMs
  | shutdown reason =>
    cases taken
    exact settles.beside (w.scheduler.shutdown_requeues reason) rfl sound (fun _ ready => ready) fun _ _ ready => ready
  | pop id nowMs laterMs =>
    simp only [next?] at taken
    split at taken
    · cases taken
      exact pop_settles settles sound
    · cases taken
  | check id nowMs => exact check_settles settles taken
  | look id readable => exact look_settles settles taken
  | generate id outcome => exact generate_settles settles taken
  | write id outcome => exact write_settles settles taken
  | advance id => exact advance_settles settles calm taken
  | sweep listing =>
    cases taken
    exact settles.beside (.refl _) rfl sound (fun _ ready => ready) fun _ _ ready => ready
  | readFile chunk =>
    obtain ⟨_,rfl⟩ := readFile_reads taken
    exact settles.beside (.refl _) rfl sound (fun _ ready => ready) fun _ _ ready => ready
  | seedRead =>
    obtain ⟨chunk,bytes,_,_,rfl⟩ := seedRead_seeds taken
    refine settles.beside (.refl _) rfl sound (fun _ ready => ?_) fun _ _ ready => ready
    exact w.cache.seedReadyChunk_ready chunk bytes (.inr ready)
  | removeDataset datasetId =>
    cases taken
    refine settles.beside (.refl _) rfl sound (fun _ ready => ready) ?_
    intro workKey standing ready
    have other : workKey.datasetId ≠ datasetId := by
      rcases standing with completed | ⟨id,worker,found,announced,rfl⟩
      · exact calm.1 workKey completed
      · exact calm.2 (id,worker) (IndexMap.mem_entries_iff.mpr found) announced
    simpa [published,removeDataset,other] using ready

theorem runs_settle (path : Runs (fun w event after => w.step service event after ∧ w.Calm event)
    (initial recovered shown) events w) : w.Settles service := by
  refine path.preserves (fun _ _ _ settles taken => ?_) (initial_settles service recovered shown)
  exact next_settles settles taken.2 taken.1

end Readiness
end World

theorem enqueueWork_keeps {s : GeneratedSchedulerState} (undone : workKey ∉ s.completedKeys) :
    workKey ∈ (s.enqueueWork workKey lane).running ∨ ((s.enqueueWork workKey lane).queuedKeys.get? workKey).isSome := by
  unfold GeneratedSchedulerState.enqueueWork
  split
  · rename_i known
    exact .inl (known.resolve_left undone)
  · right
    split
    · rename_i existing found
      split <;> simp [found]
    · simp

-- In a calm run every completed chunk stands ready in the cache's two records and
-- in the session's, and a request for a chunk that is not published as ready ends
-- in the queue unless a worker already has it.
theorem completed_chunks_stay_ready {service : Service}
    (path : Runs (fun w event after => w.step service event after ∧ w.Calm event) (World.initial recovered shown)
      events w) :
    (∀ workKey ∈ w.scheduler.completedKeys, w.cache.Ready workKey.chunk ∧ w.published workKey = some .ready) ∧
    ∀ imageId levelIndex key plan, service.plan imageId levelIndex = some plan → w.scheduler.shutdownReason = none →
      w.published ⟨plan.datasetId,imageId,levelIndex,key⟩ ≠ some .ready →
      let requested := w.scheduler.enqueueChunkRequest service imageId levelIndex key
      ⟨plan.datasetId,imageId,levelIndex,key⟩ ∈ requested.running ∨
        ∃ lane, ⟨⟨plan.datasetId,imageId,levelIndex,key⟩,lane⟩ ∈ requested.queued := by
  have settles := World.runs_settle path
  refine ⟨fun workKey completed => ⟨settles.cached _ (.inl ⟨workKey,completed,rfl⟩),settles.ready workKey completed⟩,?_⟩
  intro imageId levelIndex key plan planned running unready
  have undone : ⟨plan.datasetId,imageId,levelIndex,key⟩ ∉ w.scheduler.completedKeys :=
    fun completed => unready (settles.ready _ completed)
  have requeues : GeneratedSchedulerState.Requeues (fun _ => True) w.scheduler
      (w.scheduler.enqueueWork ⟨plan.datasetId,imageId,levelIndex,key⟩ .visible) :=
    w.scheduler.enqueueWork_requeues _ _ trivial
  simp only [GeneratedSchedulerState.enqueueChunkRequest,planned,GeneratedSchedulerState.request,running,
    Option.isSome_none,Bool.false_eq_true,if_false]
  rcases enqueueWork_keeps undone with held | queued
  · exact .inl held
  · obtain ⟨lane,found⟩ := Option.isSome_iff_exists.mp queued
    exact .inr ⟨lane,((requeues.sound settles.sound.scheduler).lanes _ lane).mp found⟩

section
open Event

def chunkKey00 : GeneratedWorkKey := coarsePlan.workKey "1/0/0/0/0/0"

def diskCache (budget : Option Nat) : DerivedChunkCache := ⟨[],.ofList [(("i",1),"c")],.empty,some ⟨budget,.empty⟩⟩

def making : List Event :=
  [interest 7 wantsChunk 0,pop 0 0 0,check 0 0,check 0 0,check 0 0,check 0 0,look 0 true,check 0 0,check 0 0,
    generate 0 (.ok [5]),check 0 0,check 0 0,write 0 .stored]

-- With room on disk the chunk is written, announced, found in place and completed.
theorem completed_chunks_stay_ready_within_the_budget :
    ∃ w, Runs (fun w event after => w.step oneChunkService event after ∧ w.Calm event)
        (World.initial (diskCache (some 100)) .empty)
        (making ++ [sweep [⟨"c",40,0⟩],advance 0,advance 0,advance 0,advance 0,advance 0]) w ∧
      chunkKey00 ∈ w.scheduler.completedKeys ∧ w.published chunkKey00 = some .ready := by
  have reached : ∃ w, drive (guarded World.Calm (World.next? oneChunkService))
      (World.initial (diskCache (some 100)) .empty)
      (making ++ [sweep [⟨"c",40,0⟩],advance 0,advance 0,advance 0,advance 0,advance 0]) = some w ∧
      chunkKey00 ∈ w.scheduler.completedKeys := by
    refine ⟨_,rfl,?_⟩
    decide
  obtain ⟨w,ran,completed⟩ := reached
  have path := drive_guarded ran
  exact ⟨w,path,completed,((completed_chunks_stay_ready path).1 _ completed).2⟩

-- With a budget of one byte the write of the chunk evicts it: its worker announces
-- it, misses the file, withdraws it and completes it all the same, and the next
-- request for it is dropped.
theorem evicted_chunk_stays_completed :
    ∃ w, Runs (World.step oneChunkService) (World.initial (diskCache (some 1)) .empty)
        (making ++ [sweep [⟨"c",40,0⟩],advance 0,advance 0,advance 0,advance 0,advance 0,advance 0,advance 0]) w ∧
      chunkKey00 ∈ w.scheduler.completedKeys ∧ w.cache.status? chunkKey00.chunk = some .unavailable ∧
      w.published chunkKey00 = some .unavailable ∧
      let requested := w.scheduler.enqueueChunkRequest oneChunkService "i" 1 "1/0/0/0/0/0"
      requested.running = ∅ ∧ requested.queued = [] := by
  have reached : ∃ w, drive (World.next? oneChunkService) (World.initial (diskCache (some 1)) .empty)
      (making ++ [sweep [⟨"c",40,0⟩],advance 0,advance 0,advance 0,advance 0,advance 0,advance 0,advance 0]) = some w ∧
      chunkKey00 ∈ w.scheduler.completedKeys ∧ w.cache.status? chunkKey00.chunk = some .unavailable ∧
      w.published chunkKey00 = some .unavailable ∧
      (w.scheduler.enqueueChunkRequest oneChunkService "i" 1 "1/0/0/0/0/0").running = ∅ ∧
      (w.scheduler.enqueueChunkRequest oneChunkService "i" 1 "1/0/0/0/0/0").queued = [] := by
    refine ⟨_,rfl,?_,?_,?_,?_,?_⟩ <;> decide
  obtain ⟨w,ran,shown⟩ := reached
  have path : Runs (World.step oneChunkService) _ _ w := drive_runs (fun _ _ _ taken => taken) ran
  exact ⟨w,path,shown⟩

end

end Lucida.Generated
