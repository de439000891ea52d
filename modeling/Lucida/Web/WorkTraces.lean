import Lucida.Web.FetchSchedulerSteps
import Lucida.Web.CpuCache

namespace Lucida.Web
open Lib

namespace FetchScheduler
variable {K Req : Type} [DecidableEq K] {config : SchedulerConfig} {keyFn : Req → K} {s t u : FetchScheduler K Req}

-- A call after which the scheduler has no requests that it did not have, and has them where it
-- had them.
structure Narrows (s t : FetchScheduler K Req) : Prop where
  controllers : t.controllers = s.controllers
  pending : ∀ req ∈ t.pending, req ∈ s.pending
  entries : ∀ key entry, t.inFlight.get? key = some entry →
    ∃ before, s.inFlight.get? key = some before ∧ before.request = entry.request ∧ before.controller = entry.controller

theorem Narrows.refl (s : FetchScheduler K Req) : Narrows s s := ⟨rfl,fun _ member => member,fun _ entry there => ⟨entry,there,rfl,rfl⟩⟩

theorem Lessens.narrows (less : Lessens s t) (pending : ∀ req ∈ t.pending, req ∈ s.pending) : Narrows s t :=
  ⟨less.controllers,pending,fun key entry there => ⟨entry,less.entries key entry there,rfl,rfl⟩⟩

theorem cancelInFlightWhere_narrows (predicate : InFlightEntry Req → K → Bool) (s : FetchScheduler K Req) :
    Narrows s (s.cancelInFlightWhere predicate).1 :=
  (cancelInFlightWhere_lessens predicate s).narrows fun _ member => pending_cancelInFlightWhere predicate (s := s) ▸ member

theorem cancelWhere_narrows (config : SchedulerConfig) (keyFn : Req → K) (drops : Req → Bool) (now : Number) (s : FetchScheduler K Req) :
    Narrows s (s.cancelWhere config keyFn (fun req _ _ => drops req) now).1 :=
  (cancelWhere_lessens config keyFn _ now s).narrows fun req member => ((cancelWhere_spares config keyFn drops now s).pending req member).1

theorem reset_narrows (s : FetchScheduler K Req) : Narrows s s.reset := (reset_lessens s).narrows fun _ member => (List.not_mem_nil member).elim

theorem settle_narrows (key : K) (controller : Nat) (s : FetchScheduler K Req) : Narrows s (s.markInFlightDoneIfCurrent key controller).1 :=
  (doneIfCurrent_lessens key controller s).narrows fun req member => ((settle_spares key controller s).pending req member).1

theorem correct_narrows (key : K) (actualBytes : Number) (s : FetchScheduler K Req) : Narrows s (s.correctInFlightBytes key actualBytes) := by
  unfold correctInFlightBytes
  split
  · exact .refl s
  · refine ⟨rfl,fun _ member => member,?_⟩
    intro other entry there
    dsimp only at there
    rw [IndexMap.get?_modify_eq_map] at there
    obtain ⟨before,found,rfl⟩ := Option.map_eq_some_iff.mp there
    refine ⟨before,found,?_⟩
    split <;> exact ⟨rfl,rfl⟩

structure Feeds (keyFn : Req → K) (s t : FetchScheduler K Req) (starts : List (Started K Req)) : Prop where
  pending : ∀ req ∈ t.pending, req ∈ s.pending
  entries : ∀ key entry, t.inFlight.get? key = some entry →
    s.inFlight.get? key = some entry ∨ ∃ start ∈ starts, start.key = key ∧ start.controller = entry.controller ∧ start.request = entry.request
  started : ∀ start ∈ starts, start.request ∈ s.pending ∧ start.key = keyFn start.request ∧ s.controllers ≤ start.controller ∧
    start.controller < t.controllers
  distinct : (starts.map Started.controller).Nodup
  controllers : s.controllers ≤ t.controllers

theorem feeds_nil (s : FetchScheduler K Req) : Feeds keyFn s s [] :=
  ⟨fun _ member => member,fun _ _ there => .inl there,fun _ member => (List.not_mem_nil member).elim,List.nodup_nil,le_refl _⟩

theorem feeds_cons {req : Req} {rest : List Req} {estimate : Number} {middle : FetchScheduler K Req} {admittedAt : Option Number} {count : Nat}
    {starts : List (Started K Req)} (first : s.pending = req::rest) (queue : middle.pending = rest)
    (inFlight : middle.inFlight = (startInFlight keyFn req rest estimate s).inFlight) (controllers : middle.controllers = s.controllers+1)
    (feeds : Feeds keyFn middle t starts) : Feeds keyFn s t (⟨req,keyFn req,s.controllers,admittedAt,count⟩::starts) := by
  have later : ∀ other ∈ middle.pending, other ∈ s.pending := by
    intro other member
    rw [first]
    exact List.mem_cons_of_mem req (queue ▸ member)
  have more := feeds.controllers
  refine ⟨fun other member => later other (feeds.pending other member),?_,?_,?_,by omega⟩
  · intro key entry there
    rcases feeds.entries key entry there with before | ⟨start,member,new⟩
    · rw [inFlight] at before
      unfold startInFlight at before
      dsimp only at before
      rw [IndexMap.get?_insert] at before
      split at before
      · rename_i same
        cases before
        exact .inr ⟨_,List.mem_cons_self,same.symm,rfl,rfl⟩
      · exact .inl before
    · exact .inr ⟨start,List.mem_cons_of_mem _ member,new⟩
  · refine List.forall_mem_cons.mpr ⟨⟨first ▸ List.mem_cons_self,rfl,le_refl _,?_⟩,?_⟩
    · dsimp only
      omega
    · intro start member
      obtain ⟨listed,keyed,above,below⟩ := feeds.started start member
      exact ⟨later _ listed,keyed,by omega,below⟩
  · rw [List.map_cons,List.nodup_cons]
    refine ⟨?_,feeds.distinct⟩
    intro again
    obtain ⟨start,member,same⟩ := List.mem_map.mp again
    obtain ⟨_,_,above,_⟩ := feeds.started start member
    dsimp only at same
    omega

theorem drainLoop_feeds {estimateBytes : Req → Number} {now : Number} {sibling : Nat → SiblingLoad} {reqs : List Req} (queue : s.pending = reqs)
    (turn : Nat) :
    Feeds keyFn s (drainLoop config keyFn estimateBytes now sibling reqs turn s).1 (drainLoop config keyFn estimateBytes now sibling reqs turn s).2 := by
  induction reqs generalizing s turn with
  | nil => exact feeds_nil s
  | cons req rest ih =>
    unfold drainLoop
    dsimp only
    split
    · split
      · exact feeds_cons queue rfl rfl rfl (feeds_nil _)
      · have frame : ∀ u : FetchScheduler K Req, (promoteIntoWindow config keyFn now u).pending = u.pending ∧
            (promoteIntoWindow config keyFn now u).inFlight = u.inFlight ∧ (promoteIntoWindow config keyFn now u).controllers = u.controllers := by
          intro u
          unfold promoteIntoWindow
          split <;> exact ⟨rfl,rfl,rfl⟩
        obtain ⟨pending,inFlight,controllers⟩ := frame (startInFlight keyFn req rest (estimateBytes req) s)
        exact feeds_cons queue pending inFlight controllers (ih pending (turn+1))
    · exact feeds_nil s

section Cancels

theorem aborted_abortAll (entries : List (K × InFlightEntry Req)) (s : FetchScheduler K Req) :
    (entries.foldl (fun s e => s.abortEntry e.1 e.2) s).aborted = s.aborted ++ entries.map (·.2.controller) := by
  induction entries generalizing s with
  | nil => simp
  | cons e entries ih =>
    rw [List.foldl_cons,ih]
    simp [abortEntry]

theorem get?_abortAll_mem {entries : List (K × InFlightEntry Req)} {e : K × InFlightEntry Req} (member : e ∈ entries) (s : FetchScheduler K Req) :
    (entries.foldl (fun s e => s.abortEntry e.1 e.2) s).inFlight.get? e.1 = none := by
  induction entries generalizing s with
  | nil => exact (List.not_mem_nil member).elim
  | cons first entries ih =>
    rw [List.foldl_cons]
    rcases List.mem_cons.mp member with rfl | later
    · have here : (s.abortEntry e.1 e.2).inFlight.get? e.1 = none := by
        show (s.inFlight.erase e.1).get? e.1 = none
        rw [IndexMap.get?_erase,if_pos rfl]
      rw [Option.eq_none_iff_forall_ne_some]
      intro entry there
      have before := (abortAll_lessens entries _).entries e.1 entry there
      rw [here] at before
      cases before
    · exact ih later _

theorem cancelInFlightWhere_removes (predicate : InFlightEntry Req → K → Bool) {key : K} {entry : InFlightEntry Req}
    (there : s.inFlight.get? key = some entry) (drops : predicate entry key = true) :
    (s.cancelInFlightWhere predicate).1.inFlight.get? key = none ∧
      entry.controller ∈ (s.cancelInFlightWhere predicate).1.aborted.drop s.aborted.length := by
  have listed : (key,entry) ∈ s.inFlight.entries.filter fun e => predicate e.2 e.1 :=
    List.mem_filter.mpr ⟨IndexMap.mem_entries_iff.mpr there,drops⟩
  refine ⟨get?_abortAll_mem listed s,?_⟩
  have aborted := aborted_abortAll (s.inFlight.entries.filter fun e => predicate e.2 e.1) s
  show entry.controller ∈ List.drop s.aborted.length ((s.inFlight.entries.filter fun e => predicate e.2 e.1).foldl (fun s e => s.abortEntry e.1 e.2) s).aborted
  rw [aborted,List.drop_left]
  exact List.mem_map.mpr ⟨_,listed,rfl⟩

theorem cancelWhere_removes (config : SchedulerConfig) (keyFn : Req → K) (drops : Req → Bool) (now : Number) {key : K} {entry : InFlightEntry Req}
    (there : s.inFlight.get? key = some entry) (dropped : drops entry.request = true) :
    (s.cancelWhere config keyFn (fun req _ _ => drops req) now).1.inFlight.get? key = none ∧
      entry.controller ∈ (s.cancelWhere config keyFn (fun req _ _ => drops req) now).1.aborted.drop s.aborted.length :=
  cancelInFlightWhere_removes (fun entry _ => drops entry.request) there dropped

theorem reset_removes {key : K} {entry : InFlightEntry Req} (there : s.inFlight.get? key = some entry) :
    entry.controller ∈ s.reset.aborted.drop s.aborted.length := by
  unfold reset
  dsimp only
  rw [List.drop_left]
  exact List.mem_map.mpr ⟨entry,IndexMap.mem_values.mpr ⟨key,there⟩,rfl⟩

end Cancels
end FetchScheduler

-- The work of one lane: its scheduler, the latest metadata of what is in flight, and the attempts
-- by their controllers.
structure Work (Req Att : Type) where
  scheduler : FetchScheduler String Req
  latest : IndexMap String (InFlightMeta Req)
  attempts : IndexMap Nat Att

-- Every request of the work is of one kind and every attempt of another, each request stands under
-- its key, and what is in flight is the request of its attempt.
structure Work.Traced {Req Att : Type} (keyFn : Req → String) (requestOf : Att → Req) (asked : Req → Prop) (attempted : Nat → Att → Prop)
    (work : Work Req Att) : Prop where
  pending : ∀ req ∈ work.scheduler.pending, asked req
  inFlight : ∀ key entry, work.scheduler.inFlight.get? key = some entry →
    asked entry.request ∧ key = keyFn entry.request ∧ entry.controller < work.scheduler.controllers
  paired : ∀ key entry attempt, work.scheduler.inFlight.get? key = some entry → work.attempts.get? entry.controller = some attempt →
    requestOf attempt = entry.request
  latest : ∀ key found, work.latest.get? key = some found → asked found.request ∧ key = keyFn found.request
  attempts : ∀ controller attempt, work.attempts.get? controller = some attempt → attempted controller attempt ∧ controller < work.scheduler.controllers

namespace Work
variable {Req Att : Type} {keyFn : Req → String} {requestOf : Att → Req} {asked : Req → Prop} {attempted : Nat → Att → Prop} {work after : Work Req Att}

theorem traced_initial : Traced keyFn requestOf asked attempted ⟨.initial,.empty,.empty⟩ :=
  ⟨fun _ member => (List.not_mem_nil member).elim,fun _ _ there => (Option.some_ne_none _ there.symm).elim,
    fun _ _ _ there => (Option.some_ne_none _ there.symm).elim,fun _ _ there => (Option.some_ne_none _ there.symm).elim,
    fun _ _ there => (Option.some_ne_none _ there.symm).elim⟩

theorem Traced.narrowed {still : Req → Prop} {moved : Nat → Att → Prop} (traced : work.Traced keyFn requestOf asked attempted)
    (narrows : work.scheduler.Narrows after.scheduler) (pending : ∀ req ∈ after.scheduler.pending, asked req → still req)
    (inFlight : ∀ key entry, after.scheduler.inFlight.get? key = some entry → asked entry.request → still entry.request)
    (latest : ∀ key found, after.latest.get? key = some found →
      work.latest.get? key = some found ∧ (asked found.request → key = keyFn found.request → still found.request))
    (attempts : ∀ controller attempt, after.attempts.get? controller = some attempt →
      moved controller attempt ∧ ∃ before, work.attempts.get? controller = some before ∧ requestOf before = requestOf attempt) :
    after.Traced keyFn requestOf still moved := by
  refine ⟨fun req member => pending req member (traced.pending req (narrows.pending req member)),?_,?_,?_,?_⟩
  · intro key entry there
    obtain ⟨before,found,request,controller⟩ := narrows.entries key entry there
    obtain ⟨kind,keyed,below⟩ := traced.inFlight key before found
    rw [request] at kind keyed
    rw [controller,← narrows.controllers] at below
    exact ⟨inFlight key entry there kind,keyed,below⟩
  · intro key entry attempt there live
    obtain ⟨before,found,request,controller⟩ := narrows.entries key entry there
    obtain ⟨_,earlier,held,same⟩ := attempts entry.controller attempt live
    rw [← same,← request]
    exact traced.paired key before earlier found (controller ▸ held)
  · intro key found there
    obtain ⟨before,kept⟩ := latest key found there
    obtain ⟨kind,keyed⟩ := traced.latest key found before
    exact ⟨kept kind keyed,keyed⟩
  · intro controller attempt live
    obtain ⟨kind,before,held,_⟩ := attempts controller attempt live
    rw [narrows.controllers]
    exact ⟨kind,(traced.attempts controller before held).2⟩

theorem Traced.narrows (traced : work.Traced keyFn requestOf asked attempted) (narrows : work.scheduler.Narrows after.scheduler)
    (latest : ∀ key found, after.latest.get? key = some found → work.latest.get? key = some found)
    (attempts : ∀ controller attempt, after.attempts.get? controller = some attempt →
      attempted controller attempt ∧ ∃ before, work.attempts.get? controller = some before ∧ requestOf before = requestOf attempt) :
    after.Traced keyFn requestOf asked attempted :=
  traced.narrowed narrows (fun _ _ kind => kind) (fun _ _ _ kind => kind) (fun key found there => ⟨latest key found there,fun kind _ => kind⟩) attempts

theorem Traced.remember (traced : work.Traced keyFn requestOf asked attempted) (found : InFlightMeta Req) (kind : asked found.request) :
    ({ work with latest := work.latest.insert (keyFn found.request) found } : Work Req Att).Traced keyFn requestOf asked attempted := by
  refine ⟨traced.pending,traced.inFlight,traced.paired,?_,traced.attempts⟩
  intro key other there
  dsimp only at there
  rw [IndexMap.get?_insert] at there
  split at there
  · rename_i same
    cases there
    exact ⟨kind,same⟩
  · exact traced.latest key other there

theorem Traced.enqueue (traced : work.Traced keyFn requestOf asked attempted) {requests : List Req} (kind : ∀ req ∈ requests, asked req)
    (limits : SchedulerConfig) (now : Number) :
    ({ work with scheduler := work.scheduler.enqueue limits keyFn requests now } : Work Req Att).Traced keyFn requestOf asked attempted :=
  ⟨kind,traced.inFlight,traced.paired,traced.latest,traced.attempts⟩

theorem Traced.fed {scheduler : FetchScheduler String Req} {starts : List (Started String Req)} {found : Started String Req → InFlightMeta Req}
    {begun : Started String Req → Att} (traced : work.Traced keyFn requestOf asked attempted) (feeds : work.scheduler.Feeds keyFn scheduler starts)
    (about : ∀ start, (found start).request = start.request) (works : ∀ start, requestOf (begun start) = start.request)
    (fresh : ∀ start ∈ starts, asked start.request → start.key = keyFn start.request → attempted start.controller (begun start)) :
    (⟨scheduler,starts.foldl (fun latest start => latest.insert start.key (found start)) work.latest,
      starts.foldl (fun attempts start => attempts.insert start.controller (begun start)) work.attempts⟩ : Work Req Att).Traced keyFn requestOf asked
        attempted := by
  have kinds : ∀ start ∈ starts, asked start.request := fun start member => traced.pending _ (feeds.started start member).1
  refine ⟨fun req member => traced.pending req (feeds.pending req member),?_,?_,?_,?_⟩
  · intro key entry there
    rcases feeds.entries key entry there with before | ⟨start,member,keyed,controller,request⟩
    · obtain ⟨kind,keyed,below⟩ := traced.inFlight key entry before
      exact ⟨kind,keyed,below.trans_le feeds.controllers⟩
    · obtain ⟨_,named,_,below⟩ := feeds.started start member
      rw [← request,← controller,← keyed]
      exact ⟨kinds start member,named,below⟩
  · intro key entry attempt there live
    dsimp only at live
    rcases feeds.entries key entry there with before | ⟨start,member,_,controller,request⟩
    · rw [IndexMap.get?_foldl_insert_other] at live
      · exact traced.paired key entry attempt before live
      · intro start member same
        have below := (traced.inFlight key entry before).2.2
        have above := (feeds.started start member).2.2.1
        omega
    · rw [← controller,IndexMap.get?_foldl_insert_mem work.attempts feeds.distinct member] at live
      cases live
      rw [works,request]
  · intro key other there
    rcases IndexMap.get?_foldl_insert work.latest there with before | ⟨start,member,same,rfl⟩
    · exact traced.latest key other before
    · rw [about,← same]
      exact ⟨kinds start member,(feeds.started start member).2.1⟩
  · intro controller attempt live
    rcases IndexMap.get?_foldl_insert work.attempts live with before | ⟨start,member,same,rfl⟩
    · obtain ⟨kind,below⟩ := traced.attempts controller attempt before
      exact ⟨kind,below.trans_le feeds.controllers⟩
    · rw [← same]
      obtain ⟨_,named,_,below⟩ := feeds.started start member
      exact ⟨fresh start member (kinds start member) named,below⟩

end Work
end Lucida.Web
