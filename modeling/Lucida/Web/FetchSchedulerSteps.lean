import Lucida.Web.FetchSchedulerInvariant

namespace Lucida.Web
open Lib

namespace FetchScheduler
variable {K Req : Type} [DecidableEq K] {config : SchedulerConfig} {keyFn : Req → K} {window : Nat} {s t u : FetchScheduler K Req} {key : K}

-- Whatever is in flight after a call was so before it under the same controller, or its
-- controller is one that the call has made.
structure Succeeds (s t : FetchScheduler K Req) : Prop where
  controllers : s.controllers ≤ t.controllers
  entries : ∀ key entry, t.inFlight.get? key = some entry →
    (∃ before, s.inFlight.get? key = some before ∧ before.controller = entry.controller ∧ before.request = entry.request) ∨
      s.controllers ≤ entry.controller

def Bounded (s : FetchScheduler K Req) : Prop := ∀ key entry, s.inFlight.get? key = some entry → entry.controller < s.controllers

theorem isCurrent_iff (s : FetchScheduler K Req) (key : K) (controller : Nat) :
    s.isCurrent key controller = true ↔ ∃ entry, s.inFlight.get? key = some entry ∧ entry.controller = controller := by
  unfold isCurrent
  rw [Option.any_eq_true]
  simp

theorem isCurrent_unique {s : FetchScheduler K Req} {key : K} {first second : Nat} (current : s.isCurrent key first = true)
    (current' : s.isCurrent key second = true) : first = second := by
  obtain ⟨entry,there,rfl⟩ := (isCurrent_iff s key first).mp current
  obtain ⟨other,same,rfl⟩ := (isCurrent_iff s key second).mp current'
  cases there.symm.trans same
  rfl

theorem hasInFlight_iff (s : FetchScheduler K Req) (key : K) : s.hasInFlight key = true ↔ ∃ entry, s.inFlight.get? key = some entry := by
  unfold hasInFlight IndexMap.contains
  rw [Option.isSome_iff_exists]

theorem Succeeds.refl (s : FetchScheduler K Req) : Succeeds s s := ⟨le_refl _,fun _ entry there => .inl ⟨entry,there,rfl,rfl⟩⟩

theorem Succeeds.trans (first : Succeeds s t) (second : Succeeds t u) : Succeeds s u := by
  refine ⟨first.controllers.trans second.controllers,?_⟩
  intro key entry there
  rcases second.entries key entry there with ⟨middle,found,same,request⟩ | new
  · rw [← same,← request]
    exact first.entries key middle found
  · exact .inr (first.controllers.trans new)

theorem Succeeds.superseded (succeeds : Succeeds s t) (made : controller < s.controllers) (lost : s.isCurrent key controller = false) :
    t.isCurrent key controller = false := by
  rw [Bool.eq_false_iff] at lost ⊢
  intro regained
  obtain ⟨entry,there,same⟩ := (isCurrent_iff t key controller).mp regained
  rcases succeeds.entries key entry there with ⟨before,found,kept,_⟩ | new
  · exact lost ((isCurrent_iff s key controller).mpr ⟨before,found,kept.trans same⟩)
  · omega

structure Lessens (s t : FetchScheduler K Req) : Prop where
  controllers : t.controllers = s.controllers
  entries : ∀ key entry, t.inFlight.get? key = some entry → s.inFlight.get? key = some entry

theorem Lessens.succeeds (less : Lessens s t) : Succeeds s t :=
  ⟨le_of_eq less.controllers.symm,fun key entry there => .inl ⟨entry,less.entries key entry there,rfl,rfl⟩⟩

theorem Lessens.bounded (less : Lessens s t) (bounded : Bounded s) : Bounded t := by
  intro key entry there
  rw [less.controllers]
  exact bounded key entry (less.entries key entry there)

theorem Lessens.trans (first : Lessens s t) (second : Lessens t u) : Lessens s u :=
  ⟨second.controllers.trans first.controllers,fun key entry there => first.entries key entry (second.entries key entry there)⟩

theorem release_lessens (key : K) (entry : InFlightEntry Req) (s : FetchScheduler K Req) : Lessens s (s.release key entry) := by
  refine ⟨rfl,?_⟩
  intro other found there
  unfold release at there
  dsimp only at there
  rw [IndexMap.get?_erase] at there
  split at there
  · cases there
  · exact there

theorem abortAll_lessens (entries : List (K × InFlightEntry Req)) (s : FetchScheduler K Req) :
    Lessens s (entries.foldl (fun s e => s.abortEntry e.1 e.2) s) := by
  induction entries generalizing s with
  | nil => exact ⟨rfl,fun key entry there => there⟩
  | cons e entries ih =>
    have first : Lessens s (s.abortEntry e.1 e.2) := ⟨rfl,(release_lessens e.1 e.2 s).entries⟩
    exact first.trans (ih _)

theorem cancelInFlightWhere_lessens (predicate : InFlightEntry Req → K → Bool) (s : FetchScheduler K Req) :
    Lessens s (s.cancelInFlightWhere predicate).1 := abortAll_lessens _ s

theorem cancelWhere_lessens (config : SchedulerConfig) (keyFn : Req → K) (predicate : Req → Option Nat → Number → Bool) (now : Number) (s : FetchScheduler K Req) :
    Lessens s (s.cancelWhere config keyFn predicate now).1 := by
  have less := cancelInFlightWhere_lessens (fun entry (_ : K) => predicate entry.request (some entry.controller) entry.estimatedBytes) s
  exact ⟨less.controllers,less.entries⟩

theorem reset_lessens (s : FetchScheduler K Req) : Lessens s s.reset := ⟨rfl,fun _ _ there => nomatch there⟩

theorem doneIfCurrent_lessens (key : K) (controller : Nat) (s : FetchScheduler K Req) :
    Lessens s (s.markInFlightDoneIfCurrent key controller).1 := by
  unfold markInFlightDoneIfCurrent
  split
  · exact ⟨rfl,fun key entry there => there⟩
  · split
    · exact ⟨rfl,fun key entry there => there⟩
    · exact release_lessens key _ s

theorem correct_succeeds (key : K) (actualBytes : Number) (s : FetchScheduler K Req) : Succeeds s (s.correctInFlightBytes key actualBytes) := by
  unfold correctInFlightBytes
  split
  · exact .refl s
  · refine ⟨le_refl _,?_⟩
    intro other entry there
    dsimp only at there
    rw [IndexMap.get?_modify_eq_map] at there
    obtain ⟨before,found,rfl⟩ := Option.map_eq_some_iff.mp there
    refine .inl ⟨before,found,?_⟩
    split <;> exact ⟨rfl,rfl⟩

theorem correct_controllers (key : K) (actualBytes : Number) (s : FetchScheduler K Req) :
    (s.correctInFlightBytes key actualBytes).controllers = s.controllers := by
  unfold correctInFlightBytes
  split <;> rfl

theorem correct_bounded (key : K) (actualBytes : Number) (bounded : Bounded s) : Bounded (s.correctInFlightBytes key actualBytes) := by
  intro other entry there
  have same := correct_controllers key actualBytes s
  rcases (correct_succeeds key actualBytes s).entries other entry there with ⟨before,found,kept,_⟩ | new
  · rw [same,← kept]
    exact bounded other before found
  · unfold correctInFlightBytes at there
    split at there
    · exact absurd (bounded other entry there) (Nat.not_lt.mpr new)
    · dsimp only at there
      rw [IndexMap.get?_modify_eq_map] at there
      obtain ⟨before,found,rfl⟩ := Option.map_eq_some_iff.mp there
      have below := bounded other before found
      rw [same]
      split <;> exact below

structure Drained (keyFn : Req → K) (s t : FetchScheduler K Req) (starts : List (Started K Req)) : Prop where
  queue : s.pending = starts.map Started.request ++ t.pending
  kept : ∀ key entry, s.inFlight.get? key = some entry → t.inFlight.get? key = some entry
  entries : ∀ key entry, t.inFlight.get? key = some entry →
    s.inFlight.get? key = some entry ∨ ∃ start ∈ starts, start.key = key ∧ start.controller = entry.controller ∧ start.request = entry.request
  fresh : ∀ start ∈ starts, s.inFlight.get? start.key = none
  started : ∀ start ∈ starts, start.key = keyFn start.request ∧ s.controllers ≤ start.controller ∧ start.controller < t.controllers ∧
    t.isCurrent start.key start.controller = true
  distinct : (starts.map Started.controller).Nodup
  controllers : s.controllers ≤ t.controllers
  aborted : t.aborted = s.aborted

theorem drained_nil (s : FetchScheduler K Req) : Drained keyFn s s [] := by
  refine ⟨rfl,fun key entry there => there,fun key entry there => .inl there,?_,?_,List.nodup_nil,le_refl _,rfl⟩
  · exact fun start member => (List.not_mem_nil member).elim
  · exact fun start member => (List.not_mem_nil member).elim

theorem drained_cons {rest : List Req} {estimate : Number} {middle : FetchScheduler K Req} {admittedAt : Option Number} {count : Nat}
    {starts : List (Started K Req)} (absent : s.inFlight.get? (keyFn req) = none) (first : s.pending = req::rest)
    (queue : middle.pending = rest) (inFlight : middle.inFlight = (startInFlight keyFn req rest estimate s).inFlight)
    (controllers : middle.controllers = s.controllers+1) (aborted : middle.aborted = s.aborted) (drained : Drained keyFn middle t starts) :
    Drained keyFn s t (⟨req,keyFn req,s.controllers,admittedAt,count⟩::starts) := by
  have get? : ∀ key, middle.inFlight.get? key = if key = keyFn req then some ⟨req,s.controllers,estimate⟩ else s.inFlight.get? key := by
    intro key
    rw [inFlight]
    exact IndexMap.get?_insert _ _ _ _
  have own : middle.inFlight.get? (keyFn req) = some ⟨req,s.controllers,estimate⟩ := by rw [get?,if_pos rfl]
  refine ⟨?_,?_,?_,?_,?_,?_,?_,drained.aborted.trans aborted⟩
  · rw [first,← queue,drained.queue]
    rfl
  · intro key entry there
    refine drained.kept key entry ?_
    rw [get?,if_neg]
    · exact there
    · rintro rfl
      rw [absent] at there
      cases there
  · intro key entry there
    rcases drained.entries key entry there with before | ⟨start,member,new⟩
    · rw [get?] at before
      split at before
      · rename_i same
        cases before
        exact .inr ⟨_,List.mem_cons_self,same.symm,rfl,rfl⟩
      · exact .inl before
    · exact .inr ⟨start,List.mem_cons_of_mem _ member,new⟩
  · refine List.forall_mem_cons.mpr ⟨absent,?_⟩
    intro start member
    have later := drained.fresh start member
    rw [get?] at later
    split at later
    · cases later
    · exact later
  · refine List.forall_mem_cons.mpr ⟨⟨rfl,le_refl _,?_,?_⟩,?_⟩
    · have := drained.controllers
      dsimp only
      omega
    · exact (isCurrent_iff _ _ _).mpr ⟨_,drained.kept _ _ own,rfl⟩
    · intro start member
      obtain ⟨keyed,above,below,current⟩ := drained.started start member
      exact ⟨keyed,by omega,below,current⟩
  · rw [List.map_cons,List.nodup_cons]
    refine ⟨?_,drained.distinct⟩
    intro again
    obtain ⟨start,member,same⟩ := List.mem_map.mp again
    obtain ⟨_,above,_⟩ := drained.started start member
    dsimp only at same
    omega
  · have := drained.controllers
    omega

theorem drainLoop_drained {estimateBytes : Req → Number} {now : Number} {sibling : Nat → SiblingLoad} {reqs : List Req}
    (sound : Sound keyFn config.window s) (queue : s.pending = reqs) (turn : Nat) :
    Drained keyFn s (drainLoop config keyFn estimateBytes now sibling reqs turn s).1 (drainLoop config keyFn estimateBytes now sibling reqs turn s).2 := by
  induction reqs generalizing s turn with
  | nil => exact drained_nil s
  | cons req rest ih =>
    have absent := sound.apart req (queue ▸ List.mem_cons_self)
    unfold drainLoop
    dsimp only
    split
    · split
      · exact drained_cons absent queue rfl rfl rfl rfl (drained_nil _)
      · rename_i some
        have frame : ∀ u : FetchScheduler K Req, (promoteIntoWindow config keyFn now u).pending = u.pending ∧
            (promoteIntoWindow config keyFn now u).inFlight = u.inFlight ∧ (promoteIntoWindow config keyFn now u).controllers = u.controllers ∧
            (promoteIntoWindow config keyFn now u).aborted = u.aborted := by
          intro u
          unfold promoteIntoWindow
          split <;> exact ⟨rfl,rfl,rfl,rfl⟩
        obtain ⟨pending,inFlight,controllers,aborted⟩ := frame (startInFlight keyFn req rest (estimateBytes req) s)
        exact drained_cons absent queue pending inFlight controllers aborted (ih (sound_turn sound queue _ _ some) pending (turn+1))
    · exact drained_nil s

theorem drain_drained {estimateBytes : Req → Number} {now : Number} {sibling : Nat → SiblingLoad} (sound : Sound keyFn config.window s) :
    Drained keyFn s (s.drain config keyFn estimateBytes now sibling).1 (s.drain config keyFn estimateBytes now sibling).2 :=
  drainLoop_drained sound rfl 0

theorem Drained.succeeds {starts : List (Started K Req)} (drained : Drained keyFn s t starts) : Succeeds s t := by
  refine ⟨drained.controllers,?_⟩
  intro key entry there
  rcases drained.entries key entry there with before | ⟨start,member,_,same,_⟩
  · exact .inl ⟨entry,before,rfl,rfl⟩
  · rw [← same]
    exact .inr (drained.started start member).2.1

theorem Drained.bounded {starts : List (Started K Req)} (drained : Drained keyFn s t starts) (bounded : Bounded s) : Bounded t := by
  intro key entry there
  rcases drained.entries key entry there with before | ⟨start,member,_,same,_⟩
  · exact (bounded key entry before).trans_le drained.controllers
  · rw [← same]
    exact (drained.started start member).2.2.1

theorem drainLoop_stuck {estimateBytes : Req → Number} {now : Number} {sibling : SiblingLoad} {reqs : List Req} (queue : s.pending = reqs)
    (some : config.window ≠ 0) (turn : Nat) :
    (drainLoop config keyFn estimateBytes now (fun _ => sibling) reqs turn s).1.pending = [] ∨
      (drainLoop config keyFn estimateBytes now (fun _ => sibling) reqs turn s).1.canStartMore config sibling = false := by
  induction reqs generalizing s turn with
  | nil => exact .inl queue
  | cons req rest ih =>
    unfold drainLoop
    dsimp only
    split
    · refine ih ?_ (turn+1)
      unfold promoteIntoWindow
      split <;> rfl
    · rename_i full
      exact .inr (by simpa using full)

-- The attempts under way, by the key that each controller works for: whatever is in flight is
-- worked for by its controller.
structure InOrder (keyFn : Req → K) (window : Nat) (s : FetchScheduler K Req) (keyOf : Nat → Option K) : Prop where
  sound : s.Sound keyFn window
  bounded : s.Bounded
  made : ∀ controller, (keyOf controller).isSome → controller < s.controllers
  attended : ∀ key entry, s.inFlight.get? key = some entry → keyOf entry.controller = some key

def without (keyOf : Nat → Option K) (controller : Nat) : Nat → Option K := fun other => if other = controller then none else keyOf other

namespace InOrder
variable {keyOf after : Nat → Option K} {controller : Nat}

theorem lessens (order : InOrder keyFn window s keyOf) (sound : t.Sound keyFn window) (less : Lessens s t) : InOrder keyFn window t keyOf :=
  ⟨sound,less.bounded order.bounded,fun controller there => less.controllers ▸ order.made controller there,
    fun key entry there => order.attended key entry (less.entries key entry there)⟩

theorem correct (order : InOrder keyFn window s keyOf) (key : K) (actualBytes : Number) :
    InOrder keyFn window (s.correctInFlightBytes key actualBytes) keyOf := by
  have succeeds := correct_succeeds key actualBytes s
  refine ⟨sound_correct order.sound actualBytes,correct_bounded key actualBytes order.bounded,?_,?_⟩
  · exact fun controller there => (order.made controller there).trans_le succeeds.controllers
  · intro other entry there
    have below := correct_bounded key actualBytes order.bounded other entry there
    rcases succeeds.entries other entry there with ⟨before,found,same,_⟩ | new
    · rw [← same]
      exact order.attended other before found
    · have unchanged : (s.correctInFlightBytes key actualBytes).controllers = s.controllers := by
        unfold correctInFlightBytes
        split <;> rfl
      omega

theorem gone (order : InOrder keyFn window s keyOf) (known : keyOf controller = some key) (lost : s.isCurrent key controller = false) :
    InOrder keyFn window s (without keyOf controller) := by
  refine ⟨order.sound,order.bounded,?_,?_⟩
  · intro other there
    unfold without at there
    split at there
    · cases there
    · exact order.made other there
  · intro other entry there
    have attended := order.attended other entry there
    unfold without
    rw [if_neg]
    · exact attended
    · intro same
      rw [same,known] at attended
      cases attended
      rw [(isCurrent_iff s key controller).mpr ⟨entry,there,same⟩] at lost
      cases lost

theorem settle (order : InOrder keyFn window s keyOf) (known : keyOf controller = some key) :
    InOrder keyFn window (s.markInFlightDoneIfCurrent key controller).1 (without keyOf controller) := by
  cases current : s.isCurrent key controller with
  | false =>
    rw [superseded_settle current]
    exact order.gone known current
  | true =>
    have settled := order.lessens (sound_doneIfCurrent order.sound key controller) (doneIfCurrent_lessens key controller s)
    refine settled.gone known ?_
    obtain ⟨entry,there,same⟩ := (isCurrent_iff s key controller).mp current
    unfold markInFlightDoneIfCurrent
    rw [there]
    dsimp only
    rw [if_neg (not_not.mpr same)]
    unfold isCurrent release
    dsimp only
    rw [IndexMap.get?_erase,if_pos rfl]
    rfl

theorem drained {starts : List (Started K Req)} (order : InOrder keyFn window s keyOf) (sound : t.Sound keyFn window)
    (drained : Drained keyFn s t starts) (old : ∀ controller < s.controllers, after controller = keyOf controller)
    (new : ∀ start ∈ starts, after start.controller = some start.key)
    (only : ∀ controller, (after controller).isSome → (keyOf controller).isSome ∨ ∃ start ∈ starts, start.controller = controller) :
    InOrder keyFn window t after := by
  refine ⟨sound,drained.bounded order.bounded,?_,?_⟩
  · intro controller there
    rcases only controller there with before | ⟨start,member,rfl⟩
    · exact (order.made controller before).trans_le drained.controllers
    · exact (drained.started start member).2.2.1
  · intro key entry there
    rcases drained.entries key entry there with before | ⟨start,member,rfl,same,_⟩
    · rw [old _ (order.bounded key entry before)]
      exact order.attended key entry before
    · rw [← same]
      exact new start member

theorem enqueue {reqs : List Req} (order : InOrder keyFn config.window s keyOf) (owed : Enqueueable keyFn reqs s) (now : Number) :
    InOrder keyFn config.window (s.enqueue config keyFn reqs now) keyOf :=
  ⟨sound_enqueue order.sound owed now,order.bounded,order.made,order.attended⟩

end InOrder

-- What a call leaves: nothing new is pending, and of what is in flight only what it drops or ends
-- is gone.
structure Spares (drops : Req → Bool) (ends : Option Nat) (s t : FetchScheduler K Req) : Prop where
  pending : ∀ req ∈ t.pending, req ∈ s.pending ∧ drops req = false
  inFlight : ∀ key entry, s.inFlight.get? key = some entry → drops entry.request = false → ends ≠ some entry.controller →
    ∃ after, t.inFlight.get? key = some after ∧ after.request = entry.request ∧ after.controller = entry.controller

theorem Spares.refl (s : FetchScheduler K Req) : Spares (fun _ => false) none s s :=
  ⟨fun _ member => ⟨member,rfl⟩,fun _ entry there _ _ => ⟨entry,there,rfl,rfl⟩⟩

theorem Spares.ending (ends : Option Nat) (s : FetchScheduler K Req) : Spares (fun _ => false) ends s s :=
  ⟨fun _ member => ⟨member,rfl⟩,fun _ entry there _ _ => ⟨entry,there,rfl,rfl⟩⟩

theorem Spares.trans {first second : Req → Bool} (one : Spares first none s t) (two : Spares second none t u) :
    Spares (fun req => first req || second req) none s u := by
  refine ⟨?_,?_⟩
  · intro req member
    obtain ⟨middle,kept⟩ := two.pending req member
    obtain ⟨start,spared⟩ := one.pending req middle
    exact ⟨start,by simp [kept,spared]⟩
  · intro key entry there spared _
    rw [Bool.or_eq_false_iff] at spared
    obtain ⟨middle,found,request,controller⟩ := one.inFlight key entry there spared.1 (by simp)
    obtain ⟨after,held,same,owner⟩ := two.inFlight key middle found (by rw [request]; exact spared.2) (by simp)
    exact ⟨after,held,same.trans request,owner.trans controller⟩

theorem get?_abortAll {entries : List (K × InFlightEntry Req)} (other : ∀ e ∈ entries, e.1 ≠ key) (s : FetchScheduler K Req) :
    (entries.foldl (fun s e => s.abortEntry e.1 e.2) s).inFlight.get? key = s.inFlight.get? key := by
  induction entries generalizing s with
  | nil => rfl
  | cons e entries ih =>
    obtain ⟨differs,rest⟩ := List.forall_mem_cons.mp other
    rw [List.foldl_cons,ih rest,get?_abortEntry differs.symm]

theorem get?_cancelInFlightWhere (predicate : InFlightEntry Req → K → Bool) {entry : InFlightEntry Req} (there : s.inFlight.get? key = some entry)
    (spared : predicate entry key = false) : (s.cancelInFlightWhere predicate).1.inFlight.get? key = some entry := by
  refine (get?_abortAll ?_ s).trans there
  rintro ⟨other,found⟩ member rfl
  obtain ⟨listed,matching⟩ := List.mem_filter.mp member
  have same := IndexMap.mem_entries_iff.mp listed
  rw [there] at same
  cases same
  dsimp only at matching
  rw [spared] at matching
  cases matching

theorem cancelWhere_spares (config : SchedulerConfig) (keyFn : Req → K) (drops : Req → Bool) (now : Number) (s : FetchScheduler K Req) :
    Spares drops none s (s.cancelWhere config keyFn (fun req _ _ => drops req) now).1 := by
  refine ⟨?_,?_⟩
  · intro req member
    have listed : req ∈ (s.cancelInFlightWhere fun entry (_ : K) => drops entry.request).1.pending.filter fun req => !drops req := member
    rw [pending_cancelInFlightWhere] at listed
    obtain ⟨there,kept⟩ := List.mem_filter.mp listed
    exact ⟨there,by simpa using kept⟩
  · intro key entry there spared _
    exact ⟨entry,get?_cancelInFlightWhere (fun entry _ => drops entry.request) there spared,rfl,rfl⟩

theorem reset_spares (s : FetchScheduler K Req) : Spares (fun _ => true) none s s.reset :=
  ⟨fun _ member => (List.not_mem_nil member).elim,fun _ _ _ spared _ => (Bool.false_ne_true spared.symm).elim⟩

theorem correct_spares (key : K) (actualBytes : Number) (s : FetchScheduler K Req) : Spares (fun _ => false) none s (s.correctInFlightBytes key actualBytes) := by
  unfold correctInFlightBytes
  split
  · exact .refl s
  · refine ⟨fun _ member => ⟨member,rfl⟩,?_⟩
    intro other entry there _ _
    dsimp only
    rw [IndexMap.get?_modify_eq_map,there]
    refine ⟨_,rfl,?_⟩
    split <;> exact ⟨rfl,rfl⟩

theorem settle_spares (key : K) (controller : Nat) (s : FetchScheduler K Req) :
    Spares (fun _ => false) (some controller) s (s.markInFlightDoneIfCurrent key controller).1 := by
  unfold markInFlightDoneIfCurrent
  split
  · exact .ending _ s
  · rename_i owner there
    split
    · exact .ending _ s
    · rename_i same
      refine ⟨fun _ member => ⟨member,rfl⟩,?_⟩
      intro other entry held _ apart
      refine ⟨entry,?_,rfl,rfl⟩
      unfold release
      dsimp only
      rw [IndexMap.get?_erase,if_neg]
      · exact held
      · rintro rfl
        cases held.symm.trans there
        exact apart (congrArg some (not_not.mp same).symm)

end FetchScheduler
end Lucida.Web
