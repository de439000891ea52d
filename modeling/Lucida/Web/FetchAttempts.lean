import Lucida.Web.CpuCacheLane

namespace Lucida.Web
open Lib
namespace CpuCache
variable {limits : SchedulerConfig} {m : Moment} {s t : CpuCache}

section Runs

-- An event with what was answered while it was handled.
abbrev Handled := Moment × Event

def Step (limits : SchedulerConfig) (s : CpuCache) (event : Handled) (t : CpuCache) : Prop := s.next limits event.1 event.2 = some t

def Event.ends : Event → Option Nat
  | .fetchSettles controller _ => some controller
  | .fetchContinues controller => some controller
  | .waitEnds controller => some controller
  | .decodeContinues controller _ => some controller
  | _ => none

-- No attempt that a step has made is for a key of an older one that may still ask.
def StartsAlone (s t : CpuCache) : Prop :=
  ∀ started ∈ t.attempts.entries, s.chunkScheduler.controllers ≤ started.1 →
    ∀ older ∈ t.attempts.entries, older.1 < s.chunkScheduler.controllers → older.2.key = started.2.key → older.2.mayRetry = false

instance (s t : CpuCache) : Decidable (StartsAlone s t) :=
  inferInstanceAs (Decidable (∀ started ∈ t.attempts.entries, _ → ∀ older ∈ t.attempts.entries, _ → _ → _))

def KeepingStep (limits : SchedulerConfig) (s : CpuCache) (event : Handled) (t : CpuCache) : Prop := Step limits s event t ∧ StartsAlone s t

theorem startsAlone_iff : StartsAlone s t ↔
    ∀ controller attempt older found, t.attempts.get? controller = some attempt → t.attempts.get? older = some found →
      s.chunkScheduler.controllers ≤ controller → older < s.chunkScheduler.controllers → found.key = attempt.key → found.mayRetry = false := by
  constructor
  · intro alone controller attempt older found there held above below same
    exact alone (controller,attempt) (IndexMap.mem_entries_iff.mpr there) above (older,found) (IndexMap.mem_entries_iff.mpr held) below same
  · intro alone started member above older member' below same
    exact alone _ _ _ _ (IndexMap.mem_entries_iff.mp member) (IndexMap.mem_entries_iff.mp member') above below same

-- All that a step can do. An event of an attempt finds it at the stage that the event ends.
inductive Stepped (limits : SchedulerConfig) (m : Moment) (s : CpuCache) : Event → CpuCache → Prop where
  | submit (plan : RequestPlan) : Stepped limits m s (.submit plan) (s.submit limits m plan)
  | onPlanRebuildStart : Stepped limits m s .onPlanRebuildStart (s.onPlanRebuildStart limits m)
  | cancelDataset (datasetId : String) (entityIds : List String) :
      Stepped limits m s (.cancelDataset datasetId entityIds) (s.cancelDataset limits m datasetId entityIds)
  | markRejected (entityId chunkKey : String) : Stepped limits m s (.markRejected entityId chunkKey) (s.markRejected limits m entityId chunkKey)
  | clearRejected : Stepped limits m s .clearRejected { s with rejectedKeys := [] }
  | updateConfig (config : TierBudgets) : Stepped limits m s (.updateConfig config) { s with config := config }.applyElasticTierBudgets
  | reset : Stepped limits m s .reset s.reset
  | fetchSettles {controller : Nat} {attempt : ChunkAttempt} (outcome : FetchOutcome) (there : s.attempts.get? controller = some attempt)
      (fetching : attempt.stage = .fetching) :
      Stepped limits m s (.fetchSettles controller outcome) (s.park controller { attempt with stage := .settled outcome })
  | fetchContinues {controller : Nat} {attempt : ChunkAttempt} {outcome : FetchOutcome} (there : s.attempts.get? controller = some attempt)
      (settled : attempt.stage = .settled outcome) :
      Stepped limits m s (.fetchContinues controller) ((s.take controller).fetchContinues limits m controller attempt outcome)
  | waitEnds {controller : Nat} {attempt : ChunkAttempt} (there : s.attempts.get? controller = some attempt) (waiting : attempt.stage = .waiting) :
      Stepped limits m s (.waitEnds controller) ((s.take controller).waitEnds controller attempt)
  | decodeContinues {controller : Nat} {attempt : ChunkAttempt} (decoded : Option Nat) (there : s.attempts.get? controller = some attempt)
      (decoding : attempt.stage = .decoding) :
      Stepped limits m s (.decodeContinues controller decoded) ((s.take controller).decodeContinues limits m controller attempt decoded)
  | proxySettles {controller : Nat} {attempt : ProxyAttempt} (outcome : FetchOutcome) (there : s.proxyAttempts.get? controller = some attempt)
      (fetching : attempt.outcome = none) :
      Stepped limits m s (.proxySettles controller outcome)
        { s with proxyAttempts := s.proxyAttempts.insert controller { attempt with outcome := some outcome } }
  | proxyContinues {controller : Nat} {attempt : ProxyAttempt} {outcome : FetchOutcome} (there : s.proxyAttempts.get? controller = some attempt)
      (settled : attempt.outcome = some outcome) :
      Stepped limits m s (.proxyContinues controller) ((s.takeProxy controller).proxyContinues limits m controller attempt outcome)

theorem step_cases {event : Event} (taken : Step limits s (m,event) t) : Stepped limits m s event t := by
  cases event with
  | submit plan => cases taken; exact .submit plan
  | onPlanRebuildStart => cases taken; exact .onPlanRebuildStart
  | cancelDataset datasetId entityIds => cases taken; exact .cancelDataset datasetId entityIds
  | markRejected entityId chunkKey => cases taken; exact .markRejected entityId chunkKey
  | clearRejected => cases taken; exact .clearRejected
  | updateConfig config => cases taken; exact .updateConfig config
  | reset => cases taken; exact .reset
  | fetchSettles controller outcome =>
    obtain ⟨attempt,there,taken⟩ := Option.bind_eq_some_iff.mp taken
    split at taken <;> cases taken
    exact .fetchSettles outcome there ‹_›
  | fetchContinues controller =>
    obtain ⟨attempt,there,taken⟩ := Option.bind_eq_some_iff.mp taken
    split at taken <;> cases taken
    exact .fetchContinues there ‹_›
  | waitEnds controller =>
    obtain ⟨attempt,there,taken⟩ := Option.bind_eq_some_iff.mp taken
    split at taken <;> cases taken
    exact .waitEnds there ‹_›
  | decodeContinues controller decoded =>
    obtain ⟨attempt,there,taken⟩ := Option.bind_eq_some_iff.mp taken
    split at taken <;> cases taken
    exact .decodeContinues decoded there ‹_›
  | proxySettles controller outcome =>
    obtain ⟨attempt,there,taken⟩ := Option.bind_eq_some_iff.mp taken
    split at taken <;> cases taken
    exact .proxySettles outcome there ‹_›
  | proxyContinues controller =>
    obtain ⟨attempt,there,taken⟩ := Option.bind_eq_some_iff.mp taken
    obtain ⟨outcome,settled,rfl⟩ := Option.map_eq_some_iff.mp taken
    exact .proxyContinues there settled

theorem settled_becomes {attempt : ChunkAttempt} (fetching : attempt.stage = .fetching) (outcome : FetchOutcome) :
    attempt.Becomes { attempt with stage := .settled outcome } := by
  refine ⟨rfl,fun free => ?_⟩
  cases outcome with
  | ok byteLength => simp [ChunkAttempt.mayRetry] at free
  | error kind =>
    have again : kind = .transient ∧ attempt.retryCount < 1 := by simpa [ChunkAttempt.mayRetry,shouldRetry] using free
    rw [ChunkAttempt.mayRetry,fetching]
    simpa [shouldRetry] using again.2

theorem step_follows {event : Handled} (sound : ChunksSound limits s.lane) (taken : Step limits s event t) :
    ChunksSound limits t.lane ∧ Follows s.lane t.lane := by
  obtain ⟨m,event⟩ := event
  cases step_cases taken with
  | submit plan => exact submit_follows m plan sound
  | onPlanRebuildStart => exact (departEntities_quiet m _ sound).follows
  | cancelDataset datasetId entityIds => exact (cancelDataset_quiet m datasetId entityIds sound).follows
  | markRejected entityId chunkKey =>
    unfold markRejected
    split
    · exact (Quiet.refl sound).follows
    · have marked : ChunksSound limits { s with rejectedKeys := s.rejectedKeys ++ [(entityId,chunkKey)] }.lane := sound
      exact (cancelChunkWork_quiet m _ marked).follows
  | clearRejected => exact (Quiet.refl sound).follows
  | updateConfig config => exact (Quiet.refl sound).follows
  | reset => exact (reset_quiet sound).follows
  | fetchSettles outcome there fetching => exact (attempts_quiet sound (wanes_insert there (settled_becomes fetching outcome))).follows
  | fetchContinues there settled => exact fetchContinues_follows m sound there settled
  | waitEnds there waiting => exact waitEnds_follows sound there waiting
  | @decodeContinues controller attempt decoded there decoding =>
    have out := take_quiet controller sound
    exact out.then (decodeContinues_follows m controller attempt decoded out.sound)
  | proxySettles outcome there fetching => exact (Quiet.refl sound).follows
  | @proxyContinues controller attempt outcome there settled =>
    exact proxyContinues_follows (s := s.takeProxy controller) m controller attempt outcome sound

theorem sound_initial (config : TierBudgets) (proxyBudgetBytes : Number) : ChunksSound limits (initial config proxyBudgetBytes).lane := by
  refine ⟨FetchScheduler.sound_initial,?_,?_⟩
  · intro key entry there
    cases there
  · intro controller attempt there
    cases there

theorem step_sound {event : Handled} (sound : ChunksSound limits s.lane) (taken : Step limits s event t) : ChunksSound limits t.lane :=
  (step_follows sound taken).1

-- One attempt of a key at most may still ask, and where the key is in flight it is that one's.
structure Sole (s : CpuCache) : Prop where
  unique : ∀ first second attempt other, s.attempts.get? first = some attempt → s.attempts.get? second = some other →
    attempt.mayRetry = true → other.mayRetry = true → attempt.key = other.key → first = second
  current : ∀ controller attempt, s.attempts.get? controller = some attempt → attempt.mayRetry = true →
    s.chunkScheduler.hasInFlight attempt.key = true → s.chunkScheduler.isCurrent attempt.key controller = true

theorem sole_initial (config : TierBudgets) (proxyBudgetBytes : Number) : Sole (initial config proxyBudgetBytes) := by
  refine ⟨?_,?_⟩
  · intro first second attempt other there
    cases there
  · intro controller attempt there
    cases there

theorem Sole.step (sole : Sole s) (sound : ChunksSound limits s.lane) (follows : Follows s.lane t.lane) (alone : StartsAlone s t) : Sole t := by
  have apart := startsAlone_iff.mp alone
  refine ⟨?_,?_⟩
  · intro first second attempt other there found free free' same
    rcases follows.attempts first attempt there with ⟨before,held,becomes⟩ | ⟨above,_,current⟩
    · have below := sound.attempts first before held
      rcases follows.attempts second other found with ⟨before',held',becomes'⟩ | ⟨above,_,_⟩
      · have key : before.key = before'.key := becomes.key.symm.trans (same.trans becomes'.key)
        exact sole.unique first second before before' held held' (becomes.retries free) (becomes'.retries free') key
      · rw [apart second other first attempt found there above below same] at free
        cases free
    · rcases follows.attempts second other found with ⟨before',held',_⟩ | ⟨_,_,current'⟩
      · rw [apart first attempt second other there found above (sound.attempts second before' held') same.symm] at free'
        cases free'
      · rw [same] at current
        exact FetchScheduler.isCurrent_unique current current'
  · intro controller attempt there free inFlight
    rcases follows.attempts controller attempt there with ⟨before,held,becomes⟩ | ⟨_,_,current⟩
    · obtain ⟨entry,standing⟩ := (FetchScheduler.hasInFlight_iff _ _).mp inFlight
      rcases follows.scheduler.entries attempt.key entry standing with ⟨was,known,kept,_⟩ | new
      · rw [becomes.key] at known standing ⊢
        have current := sole.current controller before held (becomes.retries free) ((FetchScheduler.hasInFlight_iff _ _).mpr ⟨was,known⟩)
        have owned : s.chunkScheduler.isCurrent before.key entry.controller = true := (FetchScheduler.isCurrent_iff _ _ _).mpr ⟨was,known,kept⟩
        exact (FetchScheduler.isCurrent_iff _ _ _).mpr ⟨entry,standing,FetchScheduler.isCurrent_unique owned current⟩
      · obtain ⟨owner,stands,key⟩ := follows.owners attempt.key entry standing new
        rw [apart entry.controller owner controller attempt stands there new (sound.attempts controller before held) key.symm] at free
        cases free
    · exact current

theorem runs_sole {events : List Handled} (sound : ChunksSound limits s.lane) (sole : Sole s) (path : Runs (KeepingStep limits) s events t) :
    ChunksSound limits t.lane ∧ Sole t := by
  refine path.preserves (P := fun s => ChunksSound limits s.lane ∧ Sole s) ?_ ⟨sound,sole⟩
  intro s event t both taken
  obtain ⟨after,follows⟩ := step_follows both.1 taken.1
  exact ⟨after,both.2.step both.1 follows taken.2⟩

theorem superseded_asks_nothing {event : Handled} {key : String} {controller : Nat} {new : List (String × Nat)} (sound : ChunksSound limits s.lane)
    (sole : Sole s) (made : controller < s.chunkScheduler.controllers) (lost : s.chunkScheduler.isCurrent key controller = false)
    (taken : Step limits s event t) (whole : t.issued = s.issued ++ new) : (key,controller) ∉ new := by
  obtain ⟨_,follows⟩ := step_follows sound taken
  obtain ⟨asked,same,each⟩ := follows.issued
  have list : new = asked := List.append_cancel_left (whole.symm.trans same)
  subst list
  intro member
  rcases each _ member with above | ⟨attempt,there,rfl,free,inFlight⟩
  · exact absurd made (Nat.not_lt.mpr above)
  · rw [sole.current controller attempt there free inFlight] at lost
    cases lost

theorem runs_superseded {events : List Handled} {key : String} {controller : Nat} (sound : ChunksSound limits s.lane) (sole : Sole s)
    (made : controller < s.chunkScheduler.controllers) (lost : s.chunkScheduler.isCurrent key controller = false)
    (path : Runs (KeepingStep limits) s events t) :
    t.chunkScheduler.isCurrent key controller = false ∧ controller < t.chunkScheduler.controllers ∧
      ∃ new, t.issued = s.issued ++ new ∧ (key,controller) ∉ new := by
  induction path with
  | nil => exact ⟨lost,made,[],(List.append_nil _).symm,List.not_mem_nil⟩
  | snoc prior taken ih =>
    obtain ⟨gone,below,new,whole,unasked⟩ := ih
    obtain ⟨sound,sole⟩ := runs_sole sound sole prior
    obtain ⟨_,follows⟩ := step_follows sound taken.1
    obtain ⟨more,last,_⟩ := follows.issued
    have still := superseded_asks_nothing sound sole below gone taken.1 last
    refine ⟨follows.scheduler.superseded below gone,below.trans_le follows.scheduler.controllers,new ++ more,?_,?_⟩
    · rw [← List.append_assoc,← whole]
      exact last
    · intro member
      rcases List.mem_append.mp member with before | now
      · exact unasked before
      · exact still now

structure Untouched (s t : CpuCache) : Prop where
  slots : ∀ key entry, s.chunkScheduler.inFlight.get? key = some entry → t.chunkScheduler.inFlight.get? key = some entry
  latest : ∀ key found, s.chunkScheduler.hasInFlight key = true → s.inFlightChunkMeta.get? key = some found → t.inFlightChunkMeta.get? key = some found
  permanentFailures : t.permanentFailures = s.permanentFailures
  transientFailures : t.transientFailures = s.transientFailures

theorem Untouched.of_eq (scheduler : t.chunkScheduler = s.chunkScheduler) (latest : t.inFlightChunkMeta = s.inFlightChunkMeta)
    (permanent : t.permanentFailures = s.permanentFailures) (transient : t.transientFailures = s.transientFailures) : Untouched s t :=
  ⟨fun _ _ there => scheduler ▸ there,fun _ _ _ there => latest ▸ there,permanent,transient⟩

theorem drain_untouched (limits : SchedulerConfig) (m : Moment) (sound : ChunksSound limits s.lane) : Untouched s (s.drainSchedulers limits m) := by
  obtain ⟨scheduler,starts,_,drained,whole⟩ := drainSchedulers_spec limits m sound.scheduler
  have same : (s.drainSchedulers limits m).chunkScheduler = scheduler := congrArg ChunkLane.scheduler whole
  have latest : (s.drainSchedulers limits m).inFlightChunkMeta = starts.foldl s.startedMeta s.inFlightChunkMeta := congrArg ChunkLane.latest whole
  refine ⟨?_,?_,congrArg ChunkLane.permanentFailures whole,congrArg ChunkLane.transientFailures whole⟩
  · rw [same]
    exact drained.kept
  · intro key found inFlight there
    rw [latest]
    refine (IndexMap.get?_foldl_insert_other _ ?_).trans there
    rintro start member rfl
    obtain ⟨entry,held⟩ := (FetchScheduler.hasInFlight_iff _ _).mp inFlight
    rw [drained.fresh start member] at held
    cases held

theorem drain_untouched_since {before : CpuCache} {attempts : IndexMap Nat ChunkAttempt} (limits : SchedulerConfig) (m : Moment)
    (kept : s.lane = { before.lane with attempts := attempts }) (sound : ChunksSound limits { before.lane with attempts := attempts }) :
    Untouched before (s.drainSchedulers limits m) := by
  have scheduler : s.chunkScheduler = before.chunkScheduler := congrArg ChunkLane.scheduler kept
  have latest : s.inFlightChunkMeta = before.inFlightChunkMeta := congrArg ChunkLane.latest kept
  have permanent : s.permanentFailures = before.permanentFailures := congrArg ChunkLane.permanentFailures kept
  have transient : s.transientFailures = before.transientFailures := congrArg ChunkLane.transientFailures kept
  have drained := drain_untouched limits m (kept.symm ▸ sound)
  have slots := drained.slots
  have metas := drained.latest
  rw [scheduler] at slots metas
  rw [latest] at metas
  exact ⟨slots,metas,drained.permanentFailures.trans permanent,drained.transientFailures.trans transient⟩

theorem superseded_untouched {event : Event} {controller : Nat} {attempt : ChunkAttempt} (sound : ChunksSound limits s.lane)
    (there : s.attempts.get? controller = some attempt) (lost : s.chunkScheduler.isCurrent attempt.key controller = false)
    (own : event.ends = some controller) (taken : Step limits s (m,event) t) : Untouched s t := by
  have out : (s.take controller).chunkScheduler.isCurrent attempt.key controller = false := lost
  have settled := settleChunk_superseded out
  have failed : ∀ isPermanent, (s.take controller).failChunk m attempt.key controller isPermanent = s.take controller := by
    intro isPermanent
    unfold failChunk
    rw [settled]
    rfl
  cases step_cases taken with
  | fetchSettles outcome same fetching => exact .of_eq rfl rfl rfl rfl
  | fetchContinues same stage =>
    cases own
    cases same.symm.trans there
    unfold fetchContinues
    split
    · rw [settled]
      exact .of_eq rfl rfl rfl rfl
    · rw [settled]
      exact .of_eq rfl rfl rfl rfl
    · split
      · exact .of_eq rfl rfl rfl rfl
      · rw [failed]
        exact .of_eq rfl rfl rfl rfl
    · rw [out]
      exact .of_eq rfl rfl rfl rfl
  | waitEnds same waiting =>
    unfold waitEnds
    split <;> exact .of_eq rfl rfl rfl rfl
  | decodeContinues decoded same decoding =>
    cases own
    cases same.symm.trans there
    unfold decodeContinues
    split
    · rw [failed]
      exact .of_eq rfl rfl rfl rfl
    · refine drain_untouched_since limits m ?_ (take_quiet controller sound).sound
      unfold storeDecoded
      rw [settled]
      exact lane_insertDecoded _ _ _
  | _ => cases own

end Runs

section CanIssue
variable {key : String} {controller : Nat}

-- The attempt loop of a controller asks for the key again in some run from here, whatever its steps.
def CanIssue (limits : SchedulerConfig) (s : CpuCache) (key : String) (controller : Nat) : Prop :=
  (s.attempts.get? controller).isSome ∧
    ∃ events t new, Runs (Step limits) s events t ∧ t.issued = s.issued ++ new ∧ (key,controller) ∈ new

def OneLive (limits : SchedulerConfig) (s : CpuCache) : Prop :=
  ∀ key first second, CanIssue limits s key first → CanIssue limits s key second → first = second

def Spent (s : CpuCache) (key : String) (controller : Nat) : Prop :=
  controller < s.chunkScheduler.controllers ∧
    ∀ attempt, s.attempts.get? controller = some attempt → attempt.key = key → attempt.mayRetry = false

theorem Spent.step (spent : Spent s key controller) (follows : Follows s.lane t.lane) :
    Spent t key controller ∧ ∃ new, t.issued = s.issued ++ new ∧ (key,controller) ∉ new := by
  obtain ⟨made,idle⟩ := spent
  refine ⟨⟨made.trans_le follows.scheduler.controllers,?_⟩,?_⟩
  · intro attempt there same
    rcases follows.attempts controller attempt there with ⟨before,held,becomes⟩ | ⟨above,_,_⟩
    · have none := idle before held (becomes.key.symm.trans same)
      cases free : attempt.mayRetry with
      | false => rfl
      | true =>
        rw [becomes.retries free] at none
        cases none
    · exact absurd made (Nat.not_lt.mpr above)
  · obtain ⟨new,whole,asked⟩ := follows.issued
    refine ⟨new,whole,fun member => ?_⟩
    rcases asked _ member with above | ⟨attempt,there,same,free,_⟩
    · exact absurd made (Nat.not_lt.mpr above)
    · rw [idle attempt there same] at free
      cases free

theorem runs_spent {events : List Handled} (sound : ChunksSound limits s.lane) (spent : Spent s key controller)
    (path : Runs (Step limits) s events t) :
    ChunksSound limits t.lane ∧ Spent t key controller ∧ ∃ new, t.issued = s.issued ++ new ∧ (key,controller) ∉ new := by
  induction path with
  | nil => exact ⟨sound,spent,[],(List.append_nil _).symm,List.not_mem_nil⟩
  | snoc prior taken ih =>
    obtain ⟨sound,spent,new,whole,unasked⟩ := ih
    obtain ⟨after,follows⟩ := step_follows sound taken
    obtain ⟨still,more,last,silent⟩ := spent.step follows
    refine ⟨after,still,new ++ more,?_,fun member => (List.mem_append.mp member).elim unasked silent⟩
    rw [last,whole,List.append_assoc]

theorem mayRetry_of_canIssue (sound : ChunksSound limits s.lane) (can : CanIssue limits s key controller) :
    ∃ attempt, s.attempts.get? controller = some attempt ∧ attempt.key = key ∧ attempt.mayRetry = true := by
  obtain ⟨live,events,t,new,path,whole,asked⟩ := can
  obtain ⟨attempt,there⟩ := Option.isSome_iff_exists.mp live
  by_contra idle
  have spent : Spent s key controller := by
    refine ⟨sound.attempts controller attempt there,fun found held same => ?_⟩
    rw [← Bool.not_eq_true]
    exact fun free => idle ⟨found,held,same,free⟩
  obtain ⟨_,_,other,same,unasked⟩ := runs_spent sound spent path
  rw [whole] at same
  exact unasked (List.append_cancel_left same ▸ asked)

theorem CanIssue.before {event : Handled} (can : CanIssue limits t key controller) (live : (s.attempts.get? controller).isSome)
    (taken : Step limits s event t) (silent : t.issued = s.issued) : CanIssue limits s key controller := by
  obtain ⟨_,events,last,new,path,whole,asked⟩ := can
  exact ⟨live,event::events,last,new,path.cons taken,by rw [whole,silent],asked⟩

theorem waiting_canIssue {attempt : ChunkAttempt} (there : s.attempts.get? controller = some attempt) (waits : attempt.stage = .waiting)
    (inFlight : s.chunkScheduler.hasInFlight attempt.key = true) : CanIssue limits s attempt.key controller := by
  have taken : Step limits s (⟨0,0,0,0⟩,.waitEnds controller) ((s.take controller).waitEnds controller attempt) := by
    unfold Step next
    dsimp only
    rw [there,Option.bind_some,if_pos waits]
  have still : (s.take controller).chunkScheduler.hasInFlight attempt.key = true := inFlight
  have asks : ((s.take controller).waitEnds controller attempt).issued = s.issued ++ [(attempt.key,controller)] := by
    unfold waitEnds
    rw [if_pos still]
    rfl
  exact ⟨by rw [there]; rfl,[_],_,_,.one taken,asks,List.mem_singleton_self _⟩

theorem failed_canIssue {attempt : ChunkAttempt} (there : s.attempts.get? controller = some attempt)
    (failed : attempt.stage = .settled (.error .transient)) (again : shouldRetry .transient attempt.retryCount = true)
    (inFlight : s.chunkScheduler.hasInFlight attempt.key = true) : CanIssue limits s attempt.key controller := by
  have taken : Step limits s (⟨0,0,0,0⟩,.fetchContinues controller) ((s.take controller).park controller { attempt with stage := .waiting }) := by
    unfold Step next
    dsimp only
    rw [there,Option.bind_some,failed]
    dsimp only [fetchContinues]
    rw [if_pos again]
  have parked : ((s.take controller).park controller { attempt with stage := .waiting }).attempts.get? controller =
      some { attempt with stage := .waiting } := by
    unfold park
    rw [IndexMap.get?_insert,if_pos rfl]
  exact (waiting_canIssue parked rfl inFlight).before (by rw [there]; rfl) taken rfl

theorem canIssue_of_retries (retries : s.lane.Retries key controller) : CanIssue limits s key controller := by
  obtain ⟨attempt,there,rfl,free,inFlight⟩ := retries
  change s.attempts.get? controller = some attempt at there
  cases stage : attempt.stage with
  | waiting => exact waiting_canIssue there stage inFlight
  | fetching =>
    have again : shouldRetry .transient attempt.retryCount = true := by
      rw [ChunkAttempt.mayRetry,stage] at free
      exact free
    have taken : Step limits s (⟨0,0,0,0⟩,.fetchSettles controller (.error .transient))
        (s.park controller { attempt with stage := .settled (.error .transient) }) := by
      unfold Step next
      dsimp only
      rw [there,Option.bind_some,if_pos stage]
    have parked : (s.park controller { attempt with stage := .settled (.error .transient) }).attempts.get? controller =
        some { attempt with stage := .settled (.error .transient) } := by
      unfold park
      rw [IndexMap.get?_insert,if_pos rfl]
    exact (failed_canIssue parked rfl again inFlight).before (by rw [there]; rfl) taken rfl
  | settled outcome =>
    rw [ChunkAttempt.mayRetry,stage] at free
    cases outcome with
    | ok byteLength => cases free
    | error kind =>
      have transient : kind = .transient ∧ attempt.retryCount < 1 := by simpa [shouldRetry] using free
      rw [transient.1] at stage free
      exact failed_canIssue there stage free inFlight
  | decoding =>
    rw [ChunkAttempt.mayRetry,stage] at free
    cases free

theorem Sole.oneLive (sole : Sole s) (sound : ChunksSound limits s.lane) : OneLive limits s := by
  intro key first second canFirst canSecond
  obtain ⟨attempt,there,key,free⟩ := mayRetry_of_canIssue sound canFirst
  obtain ⟨other,found,key',free'⟩ := mayRetry_of_canIssue sound canSecond
  exact sole.unique first second attempt other there found free free' (key.trans key'.symm)

theorem OneLive.startsAlone (live : OneLive limits t) (sound : ChunksSound limits s.lane) (follows : Follows s.lane t.lane) : StartsAlone s t := by
  refine startsAlone_iff.mpr ?_
  intro controller attempt older found there held above below same
  rcases follows.attempts controller attempt there with ⟨before,known,_⟩ | ⟨_,free,current⟩
  · exact absurd (sound.attempts controller before known) (Nat.not_lt.mpr above)
  · obtain ⟨entry,standing,_⟩ := (FetchScheduler.isCurrent_iff _ _ _).mp current
    have inFlight : t.chunkScheduler.hasInFlight attempt.key = true := (FetchScheduler.hasInFlight_iff _ _).mpr ⟨entry,standing⟩
    cases free' : found.mayRetry with
    | false => rfl
    | true =>
      have first : CanIssue limits t attempt.key controller := canIssue_of_retries ⟨attempt,there,rfl,free,inFlight⟩
      have second : CanIssue limits t attempt.key older := canIssue_of_retries ⟨found,held,same,free',inFlight⟩
      have one := live attempt.key controller older first second
      omega

end CanIssue

end CpuCache

-- In every state of a run whose steps make no attempt for a key that an older one may still ask for:
-- one attempt at most can ask for a key, whatever happens next, and one that has lost its key asks for
-- nothing and touches nothing of its successor. A further step keeps that if and only if it makes none.
theorem one_live_attempt_per_key {limits : SchedulerConfig} {config : TierBudgets} {proxyBudgetBytes : Number} {events : List CpuCache.Handled}
    {s : CpuCache} (path : Runs (CpuCache.KeepingStep limits) (.initial config proxyBudgetBytes) events s) :
    CpuCache.OneLive limits s ∧
    (∀ controller attempt, s.attempts.get? controller = some attempt → s.chunkScheduler.isCurrent attempt.key controller = false →
      (∀ later t new, Runs (CpuCache.KeepingStep limits) s later t → t.issued = s.issued ++ new → (attempt.key,controller) ∉ new) ∧
      ∀ m event t, CpuCache.Step limits s (m,event) t → (∀ new, t.issued = s.issued ++ new → (attempt.key,controller) ∉ new) ∧
        (CpuCache.Event.ends event = some controller → CpuCache.Untouched s t)) ∧
    ∀ event t, CpuCache.Step limits s event t → (CpuCache.StartsAlone s t ↔ CpuCache.OneLive limits t) := by
  obtain ⟨sound,sole⟩ := CpuCache.runs_sole (CpuCache.sound_initial config proxyBudgetBytes) (CpuCache.sole_initial config proxyBudgetBytes) path
  refine ⟨sole.oneLive sound,?_,?_⟩
  · intro controller attempt there lost
    have made := sound.attempts controller attempt there
    refine ⟨?_,fun m event t taken => ⟨?_,fun own => CpuCache.superseded_untouched sound there lost own taken⟩⟩
    · intro later t new further whole
      obtain ⟨_,_,asked,same,unasked⟩ := CpuCache.runs_superseded sound sole made lost further
      exact List.append_cancel_left (whole.symm.trans same) ▸ unasked
    · intro new whole
      exact CpuCache.superseded_asks_nothing sound sole made lost taken whole
  · intro event t taken
    obtain ⟨after,follows⟩ := CpuCache.step_follows sound taken
    exact ⟨fun alone => (sole.step sound follows alone).oneLive after,fun live => live.startsAlone sound follows⟩

-- A chunk that is asked for, left out of a plan while its first attempt waits, and asked for again.
def scrubbedChunk : ChunkRequest := ⟨"d","e","i",0,0,0,0,0,0,.detail,.detail,0,"0/0/0/0/0/0"⟩

def scrubbed (requests : List ChunkRequest) : RequestPlan := ⟨requests,[⟨"e",true,[0]⟩],⟨0,0,0,0,0,0⟩,[]⟩

def scrubPlan (requests : List ChunkRequest) : CpuCache.Event := .submit (scrubbed requests)

def scrubLimits : SchedulerConfig := ⟨4,100,none⟩

def handled : List CpuCache.Event → List CpuCache.Handled := List.map fun event => (⟨0,0,0,1⟩,event)

def scrubbedAway : List CpuCache.Handled := handled [scrubPlan [scrubbedChunk],.fetchSettles 0 (.error .transient),.fetchContinues 0,scrubPlan []]

def scrubNext (s : CpuCache) (event : CpuCache.Handled) : Option CpuCache :=
  guarded (fun s event => ∀ t ∈ s.next scrubLimits event.1 event.2, CpuCache.StartsAlone s t) (fun s event => s.next scrubLimits event.1 event.2) s event

theorem scrub_runs {s t : CpuCache} {events : List CpuCache.Handled} (reached : drive scrubNext s events = some t) :
    Runs (CpuCache.KeepingStep scrubLimits) s events t :=
  (drive_guarded reached).mono fun _ _ t taken => ⟨taken.1,taken.2 t taken.1⟩

def afterScrub : CpuCache := (drive scrubNext (.initial ⟨100,100⟩ 100) scrubbedAway).getD (.initial ⟨100,100⟩ 100)

theorem scrub_reached : Runs (CpuCache.KeepingStep scrubLimits) (.initial ⟨100,100⟩ 100) scrubbedAway afterScrub :=
  scrub_runs (some_getD (by decide +kernel) _)

def askedAgain : List CpuCache.Handled := handled [.waitEnds 0,scrubPlan [scrubbedChunk]]

def afterAsking : CpuCache := (drive scrubNext afterScrub askedAgain).getD afterScrub

def waitingAttempt : ChunkAttempt := ⟨scrubbedChunk,chunkSchedulerKey scrubbedChunk,0,⟨0,0,0,0,0,0⟩,.waiting⟩

theorem first_attempt_waits :
    afterScrub.attempts.get? 0 = some waitingAttempt ∧
      afterScrub.chunkScheduler.isCurrent (chunkSchedulerKey scrubbedChunk) 0 = false := by
  constructor <;> decide +kernel

-- Its wait ends before the chunk is asked for again.
theorem one_live_attempt_after_a_scrub :
    Runs (CpuCache.KeepingStep scrubLimits) (.initial ⟨100,100⟩ 100) scrubbedAway afterScrub ∧
      Runs (CpuCache.KeepingStep scrubLimits) afterScrub askedAgain afterAsking ∧
      afterAsking.issued = afterScrub.issued ++ [(chunkSchedulerKey scrubbedChunk,1)] ∧
      CpuCache.OneLive scrubLimits afterScrub ∧
      ∀ later t new, Runs (CpuCache.KeepingStep scrubLimits) afterScrub later t → t.issued = afterScrub.issued ++ new →
        (chunkSchedulerKey scrubbedChunk,0) ∉ new := by
  obtain ⟨live,superseded,_⟩ := one_live_attempt_per_key scrub_reached
  exact ⟨scrub_reached,scrub_runs (some_getD (by decide +kernel) afterScrub),by decide +kernel,live,
    (superseded 0 waitingAttempt first_attempt_waits.1 first_attempt_waits.2).1⟩

def afterReturn : CpuCache := afterScrub.submit scrubLimits ⟨0,0,0,1⟩ (scrubbed [scrubbedChunk])

-- The chunk is asked for again while the first attempt waits, and then that wait ends.
theorem superseded_attempt_asks_again :
    ∃ t, Runs (CpuCache.Step scrubLimits) (.initial ⟨100,100⟩ 100) (scrubbedAway ++ handled [scrubPlan [scrubbedChunk]]) afterReturn ∧
      afterReturn.chunkScheduler.isCurrent (chunkSchedulerKey scrubbedChunk) 0 = false ∧
      afterReturn.chunkScheduler.isCurrent (chunkSchedulerKey scrubbedChunk) 1 = true ∧
      CpuCache.Step scrubLimits afterReturn (⟨0,0,0,1⟩,.waitEnds 0) t ∧ t.issued = afterReturn.issued ++ [(chunkSchedulerKey scrubbedChunk,0)] := by
  have first : Runs (CpuCache.Step scrubLimits) (.initial ⟨100,100⟩ 100) scrubbedAway afterScrub := scrub_reached.mono fun _ _ _ taken => taken.1
  have waits : afterReturn.attempts.get? 0 = some waitingAttempt := by decide +kernel
  have ended : CpuCache.Step scrubLimits afterReturn (⟨0,0,0,1⟩,.waitEnds 0) ((afterReturn.take 0).waitEnds 0 waitingAttempt) := by
    unfold CpuCache.Step CpuCache.next
    dsimp only
    rw [waits]
    rfl
  exact ⟨_,.snoc first rfl,by decide +kernel,by decide +kernel,ended,by decide +kernel⟩

end Lucida.Web
