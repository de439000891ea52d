import Lucida.Web.CpuCache
import Lucida.Web.FetchSchedulerSteps

namespace Lucida.Web
open Lib

def ChunkAttempt.mayRetry (attempt : ChunkAttempt) : Bool :=
  match attempt.stage with
  | .waiting => true
  | .fetching => shouldRetry .transient attempt.retryCount
  | .settled (.error kind) => shouldRetry kind attempt.retryCount
  | .settled (.ok _) => false
  | .decoding => false

structure ChunkAttempt.Becomes (before attempt : ChunkAttempt) : Prop where
  key : attempt.key = before.key
  retries : attempt.mayRetry = true → before.mayRetry = true

theorem ChunkAttempt.Becomes.refl (attempt : ChunkAttempt) : attempt.Becomes attempt := ⟨rfl,id⟩

theorem ChunkAttempt.Becomes.trans {before middle attempt : ChunkAttempt} (first : before.Becomes middle) (second : middle.Becomes attempt) :
    before.Becomes attempt := ⟨second.key.trans first.key,first.retries ∘ second.retries⟩

namespace CpuCache
variable {limits : SchedulerConfig} {m : Moment} {s t : CpuCache}

structure ChunkLane where
  scheduler : FetchScheduler String ChunkRequest
  latest : IndexMap String (InFlightMeta ChunkRequest)
  attempts : IndexMap Nat ChunkAttempt
  issued : List (String × Nat)
  permanentFailures : IndexMap String FailureRecord
  transientFailures : IndexMap String FailureRecord

def lane (s : CpuCache) : ChunkLane := ⟨s.chunkScheduler,s.inFlightChunkMeta,s.attempts,s.issued,s.permanentFailures,s.transientFailures⟩

section Frames

theorem foldl_lane {A : Type} {f : CpuCache → A → CpuCache} (frame : ∀ s a, (f s a).lane = s.lane) (steps : List A) (s : CpuCache) :
    (steps.foldl f s).lane = s.lane := by
  induction steps generalizing s with
  | nil => rfl
  | cons step steps ih => rw [List.foldl_cons,ih,frame]

@[simp] theorem lane_takePlan (plan : RequestPlan) (s : CpuCache) : (s.takePlan plan).lane = s.lane := by
  show (plan.requests.foldl noteDemand _).lane = s.lane
  rw [foldl_lane,foldl_lane]
  · rfl
  · exact fun _ _ => rfl
  · intro s req
    unfold noteDemand
    split <;> rfl

@[simp] theorem lane_drainProxies (s : CpuCache) : (s.drainProxies limits m).lane = s.lane := by
  unfold drainProxies
  dsimp only
  rw [foldl_lane]
  · rfl
  · exact fun _ _ => rfl

@[simp] theorem lane_refreshCached (req : ChunkRequest) (cached : CacheEntry) (s : CpuCache) : (s.refreshCached req cached).lane = s.lane := by
  unfold refreshCached
  dsimp only
  split <;> rfl

@[simp] theorem lane_insertDecoded (entry : CacheEntry) (stale : Bool) (s : CpuCache) : (s.insertDecoded entry stale).lane = s.lane := by
  unfold insertDecoded
  split
  · split <;> rfl
  · split <;> rfl

theorem lane_admitProxy (requests : List ProxyRequest) (loop : CpuCache × List ProxyRequest) : (requests.foldl admitProxy loop).1.lane = loop.1.lane := by
  induction requests generalizing loop with
  | nil => rfl
  | cons req requests ih =>
    rw [List.foldl_cons,ih]
    unfold admitProxy
    dsimp only
    split
    · rfl
    · split <;> rfl

@[simp] theorem lane_settleProxy (key : String) (controller : Nat) (s : CpuCache) : (s.settleProxy key controller).1.lane = s.lane := by
  unfold settleProxy
  dsimp only
  split <;> rfl

end Frames

section Drain

def startedMeta (s : CpuCache) (latest : IndexMap String (InFlightMeta ChunkRequest)) (start : Started String ChunkRequest) :
    IndexMap String (InFlightMeta ChunkRequest) :=
  latest.insert start.key ⟨start.request,s.currentSubmitTick,s.currentEpochs⟩

def startedAttempt (s : CpuCache) (attempts : IndexMap Nat ChunkAttempt) (start : Started String ChunkRequest) : IndexMap Nat ChunkAttempt :=
  attempts.insert start.controller ⟨start.request,start.key,0,s.currentEpochs,.fetching⟩

theorem startChunks_eq (starts : List (Started String ChunkRequest)) (s : CpuCache) :
    starts.foldl startChunk s = { s with
      inFlightChunkMeta := starts.foldl s.startedMeta s.inFlightChunkMeta
      attempts := starts.foldl s.startedAttempt s.attempts
      issued := s.issued ++ starts.map fun start => (start.key,start.controller) } := by
  induction starts generalizing s with
  | nil => simp
  | cons start starts ih =>
    rw [List.foldl_cons,ih]
    simp only [List.foldl_cons,List.map_cons,startChunk,rememberInFlightChunk,List.append_assoc,List.singleton_append]
    rfl

def startedProxyMeta (s : CpuCache) (latest : IndexMap String (InFlightMeta ProxyRequest)) (start : Started String ProxyRequest) :
    IndexMap String (InFlightMeta ProxyRequest) :=
  latest.insert start.key ⟨start.request,s.currentSubmitTick,s.currentEpochs⟩

def startedProxy (attempts : IndexMap Nat ProxyAttempt) (start : Started String ProxyRequest) : IndexMap Nat ProxyAttempt :=
  attempts.insert start.controller ⟨start.request,start.key,none⟩

theorem startProxies_eq (starts : List (Started String ProxyRequest)) (s : CpuCache) :
    starts.foldl startProxy s = { s with
      inFlightProxyMeta := starts.foldl s.startedProxyMeta s.inFlightProxyMeta
      proxyAttempts := starts.foldl startedProxy s.proxyAttempts } := by
  induction starts generalizing s with
  | nil => rfl
  | cons start starts ih =>
    rw [List.foldl_cons,ih]
    rfl

theorem drainSchedulers_eq (limits : SchedulerConfig) (m : Moment) (s : CpuCache) :
    ∃ proxies proxyStarts chunks chunkStarts,
      s.proxyScheduler.drain limits inFlightProxyKey (fun _ => m.averageDecodedBytes) m.now (fun _ => load s.chunkScheduler) = (proxies,proxyStarts) ∧
      s.chunkScheduler.drain limits chunkSchedulerKey (fun _ => m.averageDecodedBytes) m.now (fun _ => load proxies) = (chunks,chunkStarts) ∧
      s.drainSchedulers limits m = { s with
        proxyScheduler := proxies
        inFlightProxyMeta := proxyStarts.foldl s.startedProxyMeta s.inFlightProxyMeta
        proxyAttempts := proxyStarts.foldl startedProxy s.proxyAttempts
        chunkScheduler := chunks
        inFlightChunkMeta := chunkStarts.foldl s.startedMeta s.inFlightChunkMeta
        attempts := chunkStarts.foldl s.startedAttempt s.attempts
        issued := s.issued ++ chunkStarts.map fun start => (start.key,start.controller) } := by
  refine ⟨_,_,_,_,rfl,rfl,?_⟩
  unfold drainSchedulers drainChunks drainProxies
  dsimp only
  rw [startChunks_eq,startProxies_eq]
  rfl

theorem drainSchedulers_spec (limits : SchedulerConfig) (m : Moment) (sound : s.chunkScheduler.Sound chunkSchedulerKey limits.window) :
    ∃ scheduler starts, scheduler.Sound chunkSchedulerKey limits.window ∧ FetchScheduler.Drained chunkSchedulerKey s.chunkScheduler scheduler starts ∧
      (s.drainSchedulers limits m).lane =
        ⟨scheduler,starts.foldl s.startedMeta s.inFlightChunkMeta,starts.foldl s.startedAttempt s.attempts,
          s.issued ++ starts.map fun start => (start.key,start.controller),s.permanentFailures,s.transientFailures⟩ := by
  obtain ⟨proxies,proxyStarts,chunks,chunkStarts,_,drained,whole⟩ := drainSchedulers_eq limits m s
  have spec : FetchScheduler.Drained chunkSchedulerKey s.chunkScheduler (chunks,chunkStarts).1 (chunks,chunkStarts).2 :=
    drained ▸ FetchScheduler.drain_drained sound
  have after : (chunks,chunkStarts).1.Sound chunkSchedulerKey limits.window := drained ▸ FetchScheduler.sound_drainLoop sound rfl 0
  refine ⟨chunks,chunkStarts,after,spec,?_⟩
  rw [whole]
  rfl

end Drain

structure ChunksSound (limits : SchedulerConfig) (lane : ChunkLane) : Prop where
  scheduler : lane.scheduler.Sound chunkSchedulerKey limits.window
  bounded : lane.scheduler.Bounded
  attempts : ∀ controller attempt, lane.attempts.get? controller = some attempt → controller < lane.scheduler.controllers

theorem get?_startedAttempts {starts : List (Started String ChunkRequest)} {attempts : IndexMap Nat ChunkAttempt}
    (found : (starts.foldl s.startedAttempt attempts).get? controller = some attempt) :
    attempts.get? controller = some attempt ∨ ∃ start ∈ starts, start.controller = controller ∧
      attempt = ⟨start.request,start.key,0,s.currentEpochs,.fetching⟩ :=
  (IndexMap.get?_foldl_insert attempts found).imp_right fun ⟨start,member,same,value⟩ => ⟨start,member,same,value.symm⟩

theorem get?_rejectAborted (aborted : List Nat) (attempts : IndexMap Nat ChunkAttempt)
    (found : (rejectAborted aborted attempts).get? controller = some attempt) :
    ∃ before, attempts.get? controller = some before ∧ attempt.request = before.request ∧ attempt.key = before.key ∧
      attempt = if controller ∈ aborted ∧ before.stage = .fetching then { before with stage := .settled (.error .abort) } else before := by
  unfold rejectAborted at found
  rw [IndexMap.get?_mapEntries] at found
  obtain ⟨before,there,rfl⟩ := Option.map_eq_some_iff.mp found
  refine ⟨before,there,?_⟩
  split <;> exact ⟨rfl,rfl,rfl⟩

section Wanes
variable {attempts middle after : IndexMap Nat ChunkAttempt} {controller : Nat} {attempt next : ChunkAttempt}

def Wanes (attempts after : IndexMap Nat ChunkAttempt) : Prop :=
  ∀ controller attempt, after.get? controller = some attempt → ∃ before, attempts.get? controller = some before ∧ before.Becomes attempt

theorem Wanes.refl (attempts : IndexMap Nat ChunkAttempt) : Wanes attempts attempts := fun _ attempt there => ⟨attempt,there,.refl attempt⟩

theorem Wanes.trans (first : Wanes attempts middle) (second : Wanes middle after) : Wanes attempts after := by
  intro controller attempt there
  obtain ⟨between,found,later⟩ := second controller attempt there
  obtain ⟨before,held,sooner⟩ := first controller between found
  exact ⟨before,held,sooner.trans later⟩

theorem wanes_rejectAborted (aborted : List Nat) (attempts : IndexMap Nat ChunkAttempt) : Wanes attempts (rejectAborted aborted attempts) := by
  intro controller attempt found
  obtain ⟨before,there,_,_,rfl⟩ := get?_rejectAborted aborted attempts found
  refine ⟨before,there,?_⟩
  split
  · exact ⟨rfl,fun free => by simp [ChunkAttempt.mayRetry,shouldRetry] at free⟩
  · exact .refl before

theorem wanes_erase (controller : Nat) (attempts : IndexMap Nat ChunkAttempt) : Wanes attempts (attempts.erase controller) := by
  intro other attempt found
  rw [IndexMap.get?_erase] at found
  split at found
  · cases found
  · exact ⟨attempt,found,.refl attempt⟩

theorem wanes_insert (there : attempts.get? controller = some attempt) (becomes : attempt.Becomes next) :
    Wanes attempts (attempts.insert controller next) := by
  intro other found held
  rw [IndexMap.get?_insert] at held
  split at held
  · rename_i same
    cases held
    exact ⟨attempt,same ▸ there,becomes⟩
  · exact ⟨found,held,.refl found⟩

-- The attempt that goes on is taken out and put back.
theorem wanes_parked (there : attempts.get? controller = some attempt) (becomes : attempt.Becomes next) :
    Wanes attempts ((attempts.erase controller).insert controller next) := by
  intro other found held
  rw [IndexMap.get?_insert] at held
  split at held
  · rename_i same
    cases held
    exact ⟨attempt,same ▸ there,becomes⟩
  · exact wanes_erase controller attempts other found held

end Wanes

section Quiet

structure Quiet (limits : SchedulerConfig) (s t : ChunkLane) : Prop where
  sound : ChunksSound limits t
  scheduler : s.scheduler.Succeeds t.scheduler
  made : t.scheduler.controllers = s.scheduler.controllers
  attempts : Wanes s.attempts t.attempts
  issued : t.issued = s.issued

theorem Quiet.refl {lane : ChunkLane} (sound : ChunksSound limits lane) : Quiet limits lane lane := ⟨sound,.refl _,rfl,.refl _,rfl⟩

theorem Quiet.trans {lane middle after : ChunkLane} (first : Quiet limits lane middle) (second : Quiet limits middle after) : Quiet limits lane after :=
  ⟨second.sound,first.scheduler.trans second.scheduler,second.made.trans first.made,first.attempts.trans second.attempts,
    second.issued.trans first.issued⟩

theorem Quiet.of_lessens {lane after : ChunkLane} (sound : ChunksSound limits lane) (kept : after.scheduler.Sound chunkSchedulerKey limits.window)
    (less : lane.scheduler.Lessens after.scheduler) (wanes : Wanes lane.attempts after.attempts) (issued : after.issued = lane.issued) :
    Quiet limits lane after := by
  refine ⟨⟨kept,less.bounded sound.bounded,?_⟩,less.succeeds,less.controllers,wanes,issued⟩
  intro controller attempt there
  obtain ⟨before,found,_⟩ := wanes controller attempt there
  rw [less.controllers]
  exact sound.attempts controller before found

theorem cancel_quiet {scheduler : FetchScheduler String ChunkRequest} {latest : IndexMap String (InFlightMeta ChunkRequest)}
    {permanent transient : IndexMap String FailureRecord} (sound : ChunksSound limits s.lane)
    (after : scheduler.Sound chunkSchedulerKey limits.window) (less : s.chunkScheduler.Lessens scheduler) :
    Quiet limits s.lane ⟨scheduler,latest,(s.withChunks scheduler).attempts,s.issued,permanent,transient⟩ :=
  .of_lessens sound after less (wanes_rejectAborted _ _) rfl

theorem Quiet.held {lane after : ChunkLane} (quiet : Quiet limits lane after) {key : String} {entry : InFlightEntry ChunkRequest}
    (there : after.scheduler.inFlight.get? key = some entry) :
    ∃ before, lane.scheduler.inFlight.get? key = some before ∧ before.controller = entry.controller := by
  rcases quiet.scheduler.entries key entry there with ⟨before,found,same,_⟩ | new
  · exact ⟨before,found,same⟩
  · have below := quiet.sound.bounded key entry there
    rw [quiet.made] at below
    omega

end Quiet

def ChunkLane.Retries (lane : ChunkLane) (key : String) (controller : Nat) : Prop :=
  ∃ attempt, lane.attempts.get? controller = some attempt ∧ attempt.key = key ∧ attempt.mayRetry = true ∧ lane.scheduler.hasInFlight key = true

-- What a handler does to the chunk fetches: who is in flight, what the attempts left may ask, and
-- what has been asked of the source.
structure Follows (s t : ChunkLane) : Prop where
  scheduler : s.scheduler.Succeeds t.scheduler
  attempts : ∀ controller attempt, t.attempts.get? controller = some attempt →
    (∃ before, s.attempts.get? controller = some before ∧ before.Becomes attempt) ∨
      s.scheduler.controllers ≤ controller ∧ attempt.mayRetry = true ∧ t.scheduler.isCurrent attempt.key controller = true
  owners : ∀ key entry, t.scheduler.inFlight.get? key = some entry → s.scheduler.controllers ≤ entry.controller →
    ∃ attempt, t.attempts.get? entry.controller = some attempt ∧ attempt.key = key
  issued : ∃ new, t.issued = s.issued ++ new ∧ ∀ request ∈ new, s.scheduler.controllers ≤ request.2 ∨ s.Retries request.1 request.2

theorem Quiet.follows {lane after : ChunkLane} (quiet : Quiet limits lane after) : ChunksSound limits after ∧ Follows lane after := by
  refine ⟨quiet.sound,quiet.scheduler,fun controller attempt there => .inl (quiet.attempts controller attempt there),?_,[],?_,?_⟩
  · intro key entry there new
    have below := quiet.sound.bounded key entry there
    rw [quiet.made] at below
    omega
  · rw [quiet.issued,List.append_nil]
  · exact fun request member => (List.not_mem_nil member).elim

theorem Quiet.then {lane middle after : ChunkLane} (first : Quiet limits lane middle) (last : ChunksSound limits after ∧ Follows middle after) :
    ChunksSound limits after ∧ Follows lane after := by
  obtain ⟨sound,follows⟩ := last
  refine ⟨sound,first.scheduler.trans follows.scheduler,?_,?_,?_⟩
  · intro controller attempt there
    rcases follows.attempts controller attempt there with ⟨between,found,later⟩ | new
    · obtain ⟨before,held,sooner⟩ := first.attempts controller between found
      exact .inl ⟨before,held,sooner.trans later⟩
    · exact .inr (first.made ▸ new)
  · intro key entry there new
    exact follows.owners key entry there (first.made ▸ new)
  · obtain ⟨new,whole,asked⟩ := follows.issued
    refine ⟨new,by rw [whole,first.issued],?_⟩
    intro request member
    rcases asked request member with fresh | ⟨between,found,key,free,inFlight⟩
    · exact .inl (first.made ▸ fresh)
    · obtain ⟨before,held,sooner⟩ := first.attempts request.2 between found
      obtain ⟨entry,there⟩ := (FetchScheduler.hasInFlight_iff _ _).mp inFlight
      obtain ⟨earlier,known,_⟩ := first.held there
      exact .inr ⟨before,held,sooner.key.symm.trans key,sooner.retries free,(FetchScheduler.hasInFlight_iff _ _).mpr ⟨earlier,known⟩⟩

theorem drain_follows (limits : SchedulerConfig) (m : Moment) (sound : ChunksSound limits s.lane) :
    ChunksSound limits (s.drainSchedulers limits m).lane ∧ Follows s.lane (s.drainSchedulers limits m).lane := by
  obtain ⟨scheduler,starts,after,drained,whole⟩ := drainSchedulers_spec limits m sound.scheduler
  rw [whole]
  refine ⟨⟨after,drained.bounded sound.bounded,?_⟩,drained.succeeds,?_,?_,_,rfl,?_⟩
  · intro controller attempt found
    rcases get?_startedAttempts found with before | ⟨start,member,rfl,_⟩
    · exact (sound.attempts controller attempt before).trans_le drained.controllers
    · exact (drained.started start member).2.2.1
  · intro controller attempt found
    rcases get?_startedAttempts found with before | ⟨start,member,rfl,rfl⟩
    · exact .inl ⟨attempt,before,.refl attempt⟩
    · obtain ⟨_,above,_,current⟩ := drained.started start member
      exact .inr ⟨above,rfl,current⟩
  · intro key entry there new
    rcases drained.entries key entry there with before | ⟨start,member,rfl,same,_⟩
    · exact absurd (sound.bounded key entry before) (Nat.not_lt.mpr new)
    · exact ⟨_,same ▸ IndexMap.get?_foldl_insert_mem s.attempts drained.distinct member,rfl⟩
  · intro request member
    obtain ⟨start,there,rfl⟩ := List.mem_map.mp member
    exact .inl (drained.started start there).2.1

section Submit

theorem interleave_perm {A : Type} (first others : List A) : (interleave first others).Perm (first ++ others) := by
  induction first,others using interleave.induct with
  | case1 others => simp [interleave]
  | case2 first _ => cases first <;> simp [interleave]
  | case3 a first b others ih =>
    unfold interleave
    exact ((ih.cons b).trans List.perm_middle.symm).cons a

theorem order_perm (requests : List ChunkRequest) : (orderChunkRequestsForTierAllocation requests).Perm requests := by
  have coarse : requests.filter (·.tier = .coarse) = requests.filter fun req => !decide (req.tier = .detail) := by
    refine List.filter_congr fun req _ => ?_
    cases req.tier <;> rfl
  unfold orderChunkRequestsForTierAllocation
  rw [coarse]
  exact (interleave_perm _ _).trans (List.filter_append_perm _ requests)

theorem enqueueable_perm {requests others : List ChunkRequest} {scheduler : FetchScheduler String ChunkRequest} (order : others.Perm requests)
    (owed : FetchScheduler.Enqueueable chunkSchedulerKey requests scheduler) : FetchScheduler.Enqueueable chunkSchedulerKey others scheduler :=
  ⟨(order.map _).nodup_iff.mpr owed.distinct,fun req member => owed.apart req (order.mem_iff.mp member)⟩

theorem admitChunk_cases (m : Moment) (loop : CpuCache × List ChunkRequest) (req : ChunkRequest) :
    (admitChunk m loop req = loop) ∨ (∃ cached, admitChunk m loop req = (loop.1.refreshCached req cached,loop.2)) ∨
    (loop.1.chunkScheduler.hasInFlight (chunkSchedulerKey req) = true ∧
      admitChunk m loop req = (loop.1.rememberInFlightChunk (chunkSchedulerKey req) req,loop.2)) ∨
    (loop.1.chunkScheduler.hasInFlight (chunkSchedulerKey req) = false ∧ chunkSchedulerKey req ∉ loop.2.map chunkSchedulerKey ∧
      admitChunk m loop req = (loop.1,loop.2 ++ [req])) := by
  unfold admitChunk
  dsimp only
  split
  · exact .inl rfl
  · split
    · rename_i cached _
      exact .inr (.inl ⟨cached,rfl⟩)
    · split
      · rename_i inFlight
        exact .inr (.inr (.inl ⟨inFlight,rfl⟩))
      · rename_i absent
        split
        · exact .inl rfl
        · split
          · exact .inl rfl
          · rename_i fresh
            exact .inr (.inr (.inr ⟨by simpa using absent,fresh,rfl⟩))

theorem admitChunk_frame (m : Moment) (loop : CpuCache × List ChunkRequest) (req : ChunkRequest) :
    (admitChunk m loop req).1.lane = { loop.1.lane with latest := (admitChunk m loop req).1.inFlightChunkMeta } := by
  rcases admitChunk_cases m loop req with same | ⟨cached,same⟩ | ⟨_,same⟩ | ⟨_,_,same⟩
  · rw [same]
    rfl
  · rw [same]
    have frame := lane_refreshCached req cached loop.1
    dsimp only
    rw [frame]
    have latest := congrArg ChunkLane.latest frame
    show loop.1.lane = { loop.1.lane with latest := (loop.1.refreshCached req cached).lane.latest }
    rw [latest]
  · rw [same]
    rfl
  · rw [same]
    rfl

theorem admitChunks_frame (m : Moment) (requests : List ChunkRequest) (loop : CpuCache × List ChunkRequest) :
    (requests.foldl (admitChunk m) loop).1.lane = { loop.1.lane with latest := (requests.foldl (admitChunk m) loop).1.inFlightChunkMeta } := by
  induction requests generalizing loop with
  | nil => rfl
  | cons req requests ih =>
    rw [List.foldl_cons,ih,admitChunk_frame]

theorem admitChunks_owed (m : Moment) (requests : List ChunkRequest) (loop : CpuCache × List ChunkRequest)
    (owed : FetchScheduler.Enqueueable chunkSchedulerKey loop.2 loop.1.chunkScheduler) :
    FetchScheduler.Enqueueable chunkSchedulerKey (requests.foldl (admitChunk m) loop).2 loop.1.chunkScheduler := by
  induction requests generalizing loop with
  | nil => exact owed
  | cons req requests ih =>
    rw [List.foldl_cons]
    have frame : (admitChunk m loop req).1.chunkScheduler = loop.1.chunkScheduler := congrArg ChunkLane.scheduler (admitChunk_frame m loop req)
    rw [← frame]
    apply ih
    rw [frame]
    rcases admitChunk_cases m loop req with same | ⟨cached,same⟩ | ⟨_,same⟩ | ⟨absent,fresh,same⟩
    · rw [same]
      exact owed
    · rw [same]
      exact owed
    · rw [same]
      exact owed
    · rw [same]
      refine ⟨?_,?_⟩
      · rw [List.map_append,List.map_singleton]
        exact List.nodup_append.mpr ⟨owed.distinct,List.nodup_singleton _,fun key member other single => by
          rw [List.mem_singleton.mp single]
          exact fun equal => fresh (equal ▸ member)⟩
      · intro other member
        rcases List.mem_append.mp member with before | single
        · exact owed.apart other before
        · rw [List.mem_singleton.mp single]
          exact absent

theorem enqueueable_nil (scheduler : FetchScheduler String ChunkRequest) : FetchScheduler.Enqueueable chunkSchedulerKey [] scheduler :=
  ⟨List.nodup_nil,fun _ member => (List.not_mem_nil member).elim⟩

-- The state in which `submit` drains.
def enqueued (limits : SchedulerConfig) (m : Moment) (plan : RequestPlan) (s : CpuCache) : CpuCache :=
  let s := (s.takePlan plan).cancelOmittedChunkWork (s.unwantedInFlightKeys plan)
  let loop := plan.requests.foldl (admitChunk m) (s,[])
  let s := { loop.1 with
    chunkScheduler := loop.1.chunkScheduler.enqueue limits chunkSchedulerKey (orderChunkRequestsForTierAllocation loop.2) m.now }
  let loop := plan.proxyRequests.foldl admitProxy (s,[])
  { loop.1 with proxyScheduler := loop.1.proxyScheduler.enqueue limits inFlightProxyKey loop.2 m.now }

theorem submit_eq (plan : RequestPlan) (s : CpuCache) : s.submit limits m plan = (s.enqueued limits m plan).drainSchedulers limits m := rfl

theorem cancelOmitted_quiet (unwanted : List String) (sound : ChunksSound limits s.lane) :
    Quiet limits s.lane (s.cancelOmittedChunkWork unwanted).lane :=
  cancel_quiet sound (FetchScheduler.sound_cancelInFlightWhere sound.scheduler fun _ key => decide (key ∈ unwanted))
    (FetchScheduler.cancelInFlightWhere_lessens (fun _ key => decide (key ∈ unwanted)) s.chunkScheduler)

theorem enqueued_lane (limits : SchedulerConfig) (m : Moment) (plan : RequestPlan) (s : CpuCache) :
    ∃ requests latest, FetchScheduler.Enqueueable chunkSchedulerKey requests
        ((s.takePlan plan).cancelOmittedChunkWork (s.unwantedInFlightKeys plan)).chunkScheduler ∧
      (s.enqueued limits m plan).lane = { ((s.takePlan plan).cancelOmittedChunkWork (s.unwantedInFlightKeys plan)).lane with
        scheduler := ((s.takePlan plan).cancelOmittedChunkWork (s.unwantedInFlightKeys plan)).chunkScheduler.enqueue limits
          chunkSchedulerKey requests m.now
        latest := latest } := by
  unfold enqueued
  dsimp only
  generalize (s.takePlan plan).cancelOmittedChunkWork (s.unwantedInFlightKeys plan) = cancelled
  have owed := admitChunks_owed m plan.requests (cancelled,[]) (enqueueable_nil _)
  have frame := admitChunks_frame m plan.requests (cancelled,[])
  generalize plan.requests.foldl (admitChunk m) (cancelled,[]) = loop at owed frame
  have scheduler : loop.1.chunkScheduler = cancelled.chunkScheduler := congrArg ChunkLane.scheduler frame
  refine ⟨_,loop.1.inFlightChunkMeta,enqueueable_perm (order_perm loop.2) owed,?_⟩
  show (plan.proxyRequests.foldl admitProxy _).1.lane = _
  rw [lane_admitProxy]
  dsimp only
  rw [scheduler]
  have rest : loop.1.lane = { cancelled.lane with latest := loop.1.inFlightChunkMeta } := frame
  show { loop.1.lane with scheduler := cancelled.chunkScheduler.enqueue limits chunkSchedulerKey (orderChunkRequestsForTierAllocation loop.2) m.now } = _
  rw [rest]

theorem enqueued_quiet (m : Moment) (plan : RequestPlan) (sound : ChunksSound limits s.lane) :
    Quiet limits s.lane (s.enqueued limits m plan).lane := by
  have planned := lane_takePlan plan s
  have first := cancelOmitted_quiet (s.unwantedInFlightKeys plan) (planned.symm ▸ sound : ChunksSound limits (s.takePlan plan).lane)
  rw [planned] at first
  obtain ⟨requests,latest,owed,whole⟩ := enqueued_lane limits m plan s
  generalize (s.takePlan plan).cancelOmittedChunkWork (s.unwantedInFlightKeys plan) = cancelled at first owed whole
  rw [whole]
  exact first.trans (.of_lessens first.sound (FetchScheduler.sound_enqueue first.sound.scheduler owed m.now) ⟨rfl,fun _ _ there => there⟩
    (.refl _) rfl)

theorem submit_follows (m : Moment) (plan : RequestPlan) (sound : ChunksSound limits s.lane) :
    ChunksSound limits (s.submit limits m plan).lane ∧ Follows s.lane (s.submit limits m plan).lane := by
  have first := enqueued_quiet m plan sound
  rw [submit_eq]
  exact first.then (drain_follows limits m first.sound)

end Submit

section Handlers

theorem cancelChunkWork_quiet (m : Moment) (unwanted : ChunkRequest → Bool) (sound : ChunksSound limits s.lane) :
    Quiet limits s.lane (s.cancelChunkWorkWhere limits m unwanted).lane := by
  have less := FetchScheduler.cancelWhere_lessens limits chunkSchedulerKey (fun req _ _ => unwanted req) m.now s.chunkScheduler
  exact cancel_quiet sound (FetchScheduler.sound_cancelWhere sound.scheduler (fun req _ _ => unwanted req) m.now) less

theorem departEntity_quiet (m : Moment) (entityId : String) (sound : ChunksSound limits s.lane) :
    Quiet limits s.lane (departEntity limits m s entityId).lane := by
  have demoted : ChunksSound limits { s with stores := { s.stores with chunkStore := s.stores.chunkStore.demoteEntity entityId } }.lane := sound
  exact cancelChunkWork_quiet m _ demoted

theorem departEntities_quiet (m : Moment) (entityIds : List String) (sound : ChunksSound limits s.lane) :
    Quiet limits s.lane (entityIds.foldl (departEntity limits m) s).lane := by
  induction entityIds generalizing s with
  | nil => exact .refl sound
  | cons entityId entityIds ih =>
    have first := departEntity_quiet m entityId sound
    exact first.trans (ih first.sound)

theorem forgetEntities_lane (entityIds : List String) (s : CpuCache) :
    ∃ latest permanent transient, (entityIds.foldl forgetEntity s).lane =
      { s.lane with latest := latest, permanentFailures := permanent, transientFailures := transient } := by
  induction entityIds generalizing s with
  | nil => exact ⟨_,_,_,rfl⟩
  | cons entityId entityIds ih =>
    obtain ⟨latest,permanent,transient,whole⟩ := ih (forgetEntity s entityId)
    exact ⟨latest,permanent,transient,whole⟩

theorem cancelDataset_quiet (m : Moment) (datasetId : String) (entityIds : List String) (sound : ChunksSound limits s.lane) :
    Quiet limits s.lane (s.cancelDataset limits m datasetId entityIds).lane := by
  have less := FetchScheduler.cancelWhere_lessens limits chunkSchedulerKey (fun req _ _ => decide (req.entityId ∈ entityIds)) m.now
    s.chunkScheduler
  have after := FetchScheduler.sound_cancelWhere sound.scheduler (fun req _ _ => decide (req.entityId ∈ entityIds)) m.now
  unfold cancelDataset
  dsimp only
  show Quiet limits s.lane (entityIds.foldl forgetEntity _).lane
  obtain ⟨latest,permanent,transient,whole⟩ := forgetEntities_lane entityIds _
  rw [whole]
  exact cancel_quiet sound after less

theorem reset_quiet (sound : ChunksSound limits s.lane) : Quiet limits s.lane s.reset.lane :=
  cancel_quiet sound FetchScheduler.sound_reset (FetchScheduler.reset_lessens s.chunkScheduler)

theorem attempts_quiet {attempts : IndexMap Nat ChunkAttempt} (sound : ChunksSound limits s.lane) (wanes : Wanes s.attempts attempts) :
    Quiet limits s.lane { s.lane with attempts := attempts } :=
  .of_lessens sound sound.scheduler ⟨rfl,fun _ _ there => there⟩ wanes rfl

theorem take_quiet (controller : Nat) (sound : ChunksSound limits s.lane) : Quiet limits s.lane (s.take controller).lane :=
  attempts_quiet sound (wanes_erase controller s.attempts)

theorem parked_quiet {controller : Nat} {attempt next : ChunkAttempt} (sound : ChunksSound limits s.lane)
    (there : s.attempts.get? controller = some attempt) (becomes : attempt.Becomes next) :
    Quiet limits s.lane ((s.take controller).park controller next).lane :=
  attempts_quiet sound (wanes_parked there becomes)

theorem settleChunk_superseded {key : String} {controller : Nat} (superseded : s.chunkScheduler.isCurrent key controller = false) :
    s.settleChunk key controller = (s,false) := by
  unfold settleChunk
  rw [FetchScheduler.superseded_settle superseded]
  rfl

theorem settleChunk_current {key : String} {controller : Nat} (current : s.chunkScheduler.isCurrent key controller = true) :
    s.settleChunk key controller = ({ s with
      chunkScheduler := (s.chunkScheduler.markInFlightDoneIfCurrent key controller).1
      inFlightChunkMeta := s.inFlightChunkMeta.erase key },true) := by
  obtain ⟨entry,there,same⟩ := (FetchScheduler.isCurrent_iff _ _ _).mp current
  unfold settleChunk FetchScheduler.markInFlightDoneIfCurrent
  rw [there]
  dsimp only
  rw [if_neg (not_not.mpr same)]
  rfl

theorem settleChunk_quiet (key : String) (controller : Nat) (sound : ChunksSound limits s.lane) :
    Quiet limits s.lane (s.settleChunk key controller).1.lane := by
  cases current : s.chunkScheduler.isCurrent key controller with
  | false =>
    rw [settleChunk_superseded current]
    exact .refl sound
  | true =>
    rw [settleChunk_current current]
    exact .of_lessens sound (FetchScheduler.sound_doneIfCurrent sound.scheduler key controller)
      (FetchScheduler.doneIfCurrent_lessens key controller s.chunkScheduler) (.refl _) rfl

theorem failures_quiet {permanent transient : IndexMap String FailureRecord} (sound : ChunksSound limits s.lane) :
    Quiet limits s.lane { s.lane with permanentFailures := permanent, transientFailures := transient } :=
  .of_lessens sound sound.scheduler ⟨rfl,fun _ _ there => there⟩ (.refl _) rfl

theorem recordFailure_quiet (key : String) (isPermanent : Bool) (sound : ChunksSound limits s.lane) :
    Quiet limits s.lane (s.recordFailure m key isPermanent).lane := by
  unfold recordFailure
  split
  · exact failures_quiet sound
  · exact failures_quiet sound

theorem failChunk_quiet (key : String) (controller : Nat) (isPermanent : Bool) (sound : ChunksSound limits s.lane) :
    Quiet limits s.lane (s.failChunk m key controller isPermanent).lane := by
  have settled := settleChunk_quiet key controller sound
  unfold failChunk
  dsimp only
  split
  · exact settled.trans (recordFailure_quiet key isPermanent settled.sound)
  · exact settled

theorem correct_quiet (key : String) (actualBytes : Number) (sound : ChunksSound limits s.lane) :
    Quiet limits s.lane { s with chunkScheduler := s.chunkScheduler.correctInFlightBytes key actualBytes }.lane := by
  have same := FetchScheduler.correct_controllers key actualBytes s.chunkScheduler
  refine ⟨⟨FetchScheduler.sound_correct sound.scheduler _,FetchScheduler.correct_bounded _ _ sound.bounded,?_⟩,
    FetchScheduler.correct_succeeds key actualBytes s.chunkScheduler,same,.refl _,rfl⟩
  intro controller attempt there
  show controller < (s.chunkScheduler.correctInFlightBytes key actualBytes).controllers
  rw [same]
  exact sound.attempts controller attempt there

theorem fetchContinues_follows {controller : Nat} (m : Moment) {attempt : ChunkAttempt} {outcome : FetchOutcome} (sound : ChunksSound limits s.lane)
    (there : s.attempts.get? controller = some attempt) (settled : attempt.stage = .settled outcome) :
    ChunksSound limits ((s.take controller).fetchContinues limits m controller attempt outcome).lane ∧
      Follows s.lane ((s.take controller).fetchContinues limits m controller attempt outcome).lane := by
  have out := take_quiet controller sound
  have done := out.trans (settleChunk_quiet attempt.key controller out.sound)
  unfold fetchContinues
  split
  · exact done.follows
  · dsimp only
    split
    · exact done.then (drain_follows limits m done.sound)
    · exact done.follows
  · rename_i kind _ _
    split
    · rename_i again
      have free : attempt.mayRetry = true := by rw [ChunkAttempt.mayRetry,settled]; exact again
      have becomes : attempt.Becomes { attempt with stage := .waiting } := ⟨rfl,fun _ => free⟩
      exact (parked_quiet sound there becomes).follows
    · exact (out.trans (failChunk_quiet attempt.key controller _ out.sound)).follows
  · rename_i byteLength
    have spent : attempt.Becomes { attempt with stage := .decoding } := ⟨rfl,fun free => by simp [ChunkAttempt.mayRetry] at free⟩
    dsimp only
    split
    · have corrected := correct_quiet attempt.key (byteLength : Number) sound
      exact (corrected.trans (parked_quiet corrected.sound there spent)).follows
    · exact (parked_quiet sound there spent).follows

-- A waiting attempt asks if its key is in flight, whoever has it.
theorem waitEnds_follows {controller : Nat} {attempt : ChunkAttempt} (sound : ChunksSound limits s.lane)
    (there : s.attempts.get? controller = some attempt) (waits : attempt.stage = .waiting) :
    ChunksSound limits ((s.take controller).waitEnds controller attempt).lane ∧ Follows s.lane ((s.take controller).waitEnds controller attempt).lane := by
  have free : attempt.mayRetry = true := by rw [ChunkAttempt.mayRetry,waits]
  unfold waitEnds
  split
  · rename_i inFlight
    have becomes : attempt.Becomes { attempt with retryCount := attempt.retryCount+1, stage := .fetching } := ⟨rfl,fun _ => free⟩
    obtain ⟨after,follows⟩ := (parked_quiet sound there becomes).follows
    refine ⟨⟨after.scheduler,after.bounded,after.attempts⟩,follows.scheduler,follows.attempts,follows.owners,[(attempt.key,controller)],rfl,?_⟩
    intro request member
    rw [List.mem_singleton.mp member]
    exact .inr ⟨attempt,there,rfl,free,inFlight⟩
  · exact (take_quiet controller sound).follows

theorem storeDecoded_quiet (controller : Nat) (attempt : ChunkAttempt) (byteLength : Nat) (sound : ChunksSound limits s.lane) :
    Quiet limits s.lane (s.storeDecoded controller attempt byteLength).lane := by
  have settled := settleChunk_quiet attempt.key controller sound
  unfold storeDecoded
  dsimp only
  rw [lane_insertDecoded]
  split
  · exact settled.trans (failures_quiet settled.sound)
  · exact settled

theorem decodeContinues_follows (m : Moment) (controller : Nat) (attempt : ChunkAttempt) (decoded : Option Nat) (sound : ChunksSound limits s.lane) :
    ChunksSound limits (s.decodeContinues limits m controller attempt decoded).lane ∧
      Follows s.lane (s.decodeContinues limits m controller attempt decoded).lane := by
  unfold decodeContinues
  split
  · exact (failChunk_quiet attempt.key controller false sound).follows
  · rename_i byteLength
    have stored := storeDecoded_quiet controller attempt byteLength sound
    exact stored.then (drain_follows limits m stored.sound)

theorem lane_storeProxy (controller : Nat) (attempt : ProxyAttempt) (responseBytes : Nat) (s : CpuCache) :
    (s.storeProxy controller attempt responseBytes).lane = s.lane := by
  unfold storeProxy
  dsimp only
  rw [lane_settleProxy]
  rfl

theorem proxyContinues_follows (m : Moment) (controller : Nat) (attempt : ProxyAttempt) (outcome : FetchOutcome) (sound : ChunksSound limits s.lane) :
    ChunksSound limits (s.proxyContinues limits m controller attempt outcome).lane ∧
      Follows s.lane (s.proxyContinues limits m controller attempt outcome).lane := by
  unfold proxyContinues
  split
  · rw [lane_settleProxy]
    exact (Quiet.refl sound).follows
  · rename_i responseBytes
    have kept := lane_storeProxy controller attempt responseBytes s
    rw [← kept]
    exact drain_follows limits m (kept.symm ▸ sound)

end Handlers

end CpuCache
end Lucida.Web
