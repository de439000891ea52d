import Lucida.Web.FetchScheduler

namespace Lucida.Web
open Lib

namespace FetchScheduler
variable {K Req : Type} [DecidableEq K]

structure Sound (keyFn : Req → K) (window : Nat) (s : FetchScheduler K Req) : Prop where
  bytes : s.inFlightBytes = s.inFlight.sum (·.estimatedBytes)
  stamps : ∀ key, (s.enqueuedAt.get? key).isSome ↔ key ∈ (s.pending.take window).map keyFn
  distinct : (s.pending.map keyFn).Nodup
  apart : ∀ req ∈ s.pending, s.inFlight.get? (keyFn req) = none

section Steps
variable {config : SchedulerConfig} {keyFn : Req → K} {window : Nat} {s : FetchScheduler K Req} {key : K}

theorem sound_initial : Sound keyFn window (initial : FetchScheduler K Req) := by
  refine ⟨rfl,?_,List.nodup_nil,fun req member => (List.not_mem_nil member).elim⟩
  intro key
  simp [initial]

-- What the caller owes: no request twice, and none that is in flight.
structure Enqueueable (keyFn : Req → K) (reqs : List Req) (s : FetchScheduler K Req) : Prop where
  distinct : (reqs.map keyFn).Nodup
  apart : ∀ req ∈ reqs, s.hasInFlight (keyFn req) = false

theorem sound_enqueue {reqs : List Req} (sound : Sound keyFn config.window s) (owed : Enqueueable keyFn reqs s) (now : Number) :
    Sound keyFn config.window (s.enqueue config keyFn reqs now) := by
  refine ⟨sound.bytes,?_,owed.distinct,?_⟩
  · intro key
    unfold enqueue
    dsimp only
    rw [IndexMap.contains_ofList,List.map_map]
    rfl
  · intro req member
    show s.inFlight.get? (keyFn req) = none
    have absent := owed.apart req member
    simpa [hasInFlight,IndexMap.contains] using absent

theorem isSome_erase (map : IndexMap K Number) (key other : K) : ((map.erase key).get? other).isSome ↔ other ≠ key ∧ (map.get? other).isSome := by
  rw [IndexMap.get?_erase]
  split
  · rename_i same
    simp [same]
  · rename_i differs
    simp [differs]

theorem isSome_stampIfAbsent (now : Number) (map : IndexMap K Number) (key other : K) :
    ((stampIfAbsent now map key).get? other).isSome ↔ other = key ∨ (map.get? other).isSome := by
  unfold stampIfAbsent
  split
  · rename_i present
    constructor
    · exact .inr
    · intro either
      rcases either with rfl | there
      · exact present
      · exact there
  · rw [IndexMap.get?_insert]
    split
    · rename_i same
      simp [same]
    · rename_i differs
      simp [differs]

theorem isSome_stampAll (now : Number) (map : IndexMap K Number) (keys : List K) (other : K) :
    ((keys.foldl (stampIfAbsent now) map).get? other).isSome ↔ other ∈ keys ∨ (map.get? other).isSome := by
  induction keys generalizing map with
  | nil => simp
  | cons key keys ih =>
    rw [List.foldl_cons,ih,isSome_stampIfAbsent,List.mem_cons]
    tauto

theorem isSome_eraseAll (map : IndexMap K Number) (keys : List K) (other : K) :
    ((keys.foldl IndexMap.erase map).get? other).isSome ↔ other ∉ keys ∧ (map.get? other).isSome := by
  induction keys generalizing map with
  | nil => simp
  | cons key keys ih =>
    rw [List.foldl_cons,ih,isSome_erase,List.mem_cons]
    tauto

theorem sound_release {entry : InFlightEntry Req} (sound : Sound keyFn window s) (found : s.inFlight.get? key = some entry) :
    Sound keyFn window (s.release key entry) := by
  obtain ⟨others,whole,left,_⟩ := IndexMap.sum_split found (fun entry : InFlightEntry Req => entry.estimatedBytes)
  refine ⟨?_,sound.stamps,sound.distinct,?_⟩
  · unfold release
    dsimp only
    rw [sound.bytes,whole,left,add_sub_cancel_right]
  · intro req member
    have absent := sound.apart req member
    unfold release
    dsimp only
    rw [IndexMap.get?_erase,absent,ite_self]

theorem sound_correct (sound : Sound keyFn window s) (actualBytes : Number) : Sound keyFn window (s.correctInFlightBytes key actualBytes) := by
  unfold correctInFlightBytes
  split
  · exact sound
  · rename_i entry found
    obtain ⟨others,whole,_,changed⟩ := IndexMap.sum_split found (fun entry : InFlightEntry Req => entry.estimatedBytes)
    refine ⟨?_,sound.stamps,sound.distinct,?_⟩
    · dsimp only
      rw [sound.bytes,whole,changed,add_assoc,add_sub_cancel]
    · intro req member
      have absent := sound.apart req member
      dsimp only
      rw [IndexMap.get?_modify_eq_map,absent]
      rfl

theorem sound_done (sound : Sound keyFn window s) (key : K) : Sound keyFn window (s.markInFlightDone key) := by
  unfold markInFlightDone
  split
  · exact sound
  · rename_i entry found
    exact sound_release sound found

theorem sound_doneIfCurrent (sound : Sound keyFn window s) (key : K) (controller : Nat) :
    Sound keyFn window (s.markInFlightDoneIfCurrent key controller).1 := by
  unfold markInFlightDoneIfCurrent
  split
  · exact sound
  · rename_i entry found
    split
    · exact sound
    · exact sound_release sound found

-- The key of a request in flight is not pending, and so it has no stamp to lose.
theorem sound_abort {entry : InFlightEntry Req} (sound : Sound keyFn window s) (found : s.inFlight.get? key = some entry) :
    Sound keyFn window (s.abortEntry key entry) := by
  have released := sound_release sound found
  refine ⟨released.bytes,?_,released.distinct,released.apart⟩
  intro other
  have unstamped : key ∉ (s.pending.take window).map keyFn := by
    intro member
    obtain ⟨req,there,rfl⟩ := List.mem_map.mp member
    rw [sound.apart req (List.mem_of_mem_take there)] at found
    cases found
  unfold abortEntry release
  dsimp only
  rw [isSome_erase,sound.stamps]
  constructor
  · exact And.right
  · intro member
    refine ⟨?_,member⟩
    rintro rfl
    exact unstamped member

theorem sound_cancelOne (sound : Sound keyFn window s) (key : K) : Sound keyFn window (s.cancelOne key) := by
  unfold cancelOne
  split
  · exact sound
  · rename_i entry found
    exact sound_abort sound found

theorem get?_abortEntry {entry : InFlightEntry Req} (differs : other ≠ key) :
    (s.abortEntry key entry).inFlight.get? other = s.inFlight.get? other := by
  unfold abortEntry release
  dsimp only
  rw [IndexMap.get?_erase,if_neg differs]

theorem sound_abortAll {entries : List (K × InFlightEntry Req)} (sound : Sound keyFn window s) (distinct : (entries.map Prod.fst).Nodup)
    (there : ∀ e ∈ entries, s.inFlight.get? e.1 = some e.2) :
    Sound keyFn window (entries.foldl (fun s e => s.abortEntry e.1 e.2) s) := by
  induction entries generalizing s with
  | nil => exact sound
  | cons e entries ih =>
    rw [List.map_cons,List.nodup_cons] at distinct
    refine ih (sound_abort sound (there e List.mem_cons_self)) distinct.2 ?_
    intro other member
    rw [get?_abortEntry]
    · exact there other (List.mem_cons_of_mem _ member)
    · intro same
      exact distinct.1 (List.mem_map.mpr ⟨other,member,same⟩)

theorem sound_cancelInFlightWhere (sound : Sound keyFn window s) (predicate : InFlightEntry Req → K → Bool) :
    Sound keyFn window (s.cancelInFlightWhere predicate).1 := by
  refine sound_abortAll sound (s.inFlight.nodup.sublist (List.filter_sublist.map _)) ?_
  intro e member
  exact IndexMap.mem_entries_iff.mp (List.mem_of_mem_filter member)

theorem pending_cancelInFlightWhere (predicate : InFlightEntry Req → K → Bool) :
    (s.cancelInFlightWhere predicate).1.pending = s.pending := by
  unfold cancelInFlightWhere
  dsimp only
  generalize s.inFlight.entries.filter (fun e => predicate e.2 e.1) = entries
  induction entries generalizing s with
  | nil => rfl
  | cons e entries ih =>
    rw [List.foldl_cons,ih]
    rfl

theorem mem_take_filter {p : Req → Bool} {reqs : List Req} {req : Req} (member : req ∈ reqs.take n) (kept : p req) :
    req ∈ (reqs.filter p).take n := by
  induction reqs generalizing n with
  | nil => simp at member
  | cons first rest ih =>
    cases n with
    | zero => simp at member
    | succ n =>
      rw [List.take_succ_cons,List.mem_cons] at member
      rcases member with rfl | later
      · rw [List.filter_cons_of_pos kept,List.take_succ_cons]
        exact List.mem_cons_self
      · rw [List.filter_cons]
        split
        · rw [List.take_succ_cons]
          exact List.mem_cons_of_mem _ (ih later)
        · exact List.take_subset_take_left _ (Nat.le_succ n) (ih later)

theorem sound_cancelWhere (sound : Sound keyFn config.window s) (predicate : Req → Option Nat → Number → Bool) (now : Number) :
    Sound keyFn config.window (s.cancelWhere config keyFn predicate now).1 := by
  unfold cancelWhere
  dsimp only
  have sound := sound_cancelInFlightWhere sound fun entry _ => predicate entry.request (some entry.controller) entry.estimatedBytes
  generalize (s.cancelInFlightWhere fun entry _ => predicate entry.request (some entry.controller) entry.estimatedBytes).1 = s at sound ⊢
  refine ⟨sound.bytes,?_,sound.distinct.sublist (List.filter_sublist.map _),?_⟩
  · intro key
    unfold syncWindow
    dsimp only
    rw [isSome_stampAll,isSome_eraseAll,sound.stamps]
    constructor
    · intro either
      rcases either with there | ⟨kept,there⟩
      · exact there
      · obtain ⟨req,member,rfl⟩ := List.mem_map.mp there
        refine List.mem_map.mpr ⟨req,mem_take_filter member ?_,rfl⟩
        by_contra drop
        refine kept (List.mem_map.mpr ⟨req,List.mem_filter.mpr ⟨List.mem_of_mem_take member,?_⟩,rfl⟩)
        simpa using drop
    · exact .inl
  · intro req member
    exact sound.apart req (List.mem_of_mem_filter member)

theorem sound_reset : Sound keyFn window s.reset := by
  refine ⟨rfl,?_,List.nodup_nil,fun req member => (List.not_mem_nil member).elim⟩
  intro key
  simp [reset]

theorem bytes_start (sound : Sound keyFn window s) (first : s.pending = req::rest) (estimate : Number) :
    (startInFlight keyFn req rest estimate s).inFlightBytes =
      (startInFlight keyFn req rest estimate s).inFlight.sum (·.estimatedBytes) := by
  have absent := sound.apart req (first ▸ List.mem_cons_self)
  unfold startInFlight
  dsimp only
  rw [IndexMap.sum_insert_new absent,sound.bytes]

theorem apart_start {rest : List Req} (sound : Sound keyFn window s) (first : s.pending = req::rest) (estimate : Number) :
    ∀ other ∈ rest, (startInFlight keyFn req rest estimate s).inFlight.get? (keyFn other) = none := by
  intro other member
  have distinct := sound.distinct
  rw [first,List.map_cons,List.nodup_cons] at distinct
  have differs : keyFn other ≠ keyFn req := fun same => distinct.1 (List.mem_map.mpr ⟨other,member,same⟩)
  unfold startInFlight
  dsimp only
  rw [IndexMap.get?_insert,if_neg differs]
  exact sound.apart other (first ▸ List.mem_cons_of_mem _ member)

theorem stamps_start {rest : List Req} (sound : Sound keyFn (window+1) s) (first : s.pending = req::rest) (estimate : Number) (key : K) :
    ((startInFlight keyFn req rest estimate s).enqueuedAt.get? key).isSome ↔ key ∈ (rest.take window).map keyFn := by
  have distinct := sound.distinct
  rw [first,List.map_cons,List.nodup_cons] at distinct
  unfold startInFlight
  dsimp only
  rw [isSome_erase,sound.stamps,first,List.take_succ_cons,List.map_cons,List.mem_cons]
  constructor
  · intro ⟨differs,either⟩
    exact either.resolve_left differs
  · intro member
    refine ⟨?_,.inr member⟩
    rintro rfl
    exact distinct.1 (((List.take_sublist _ _).map keyFn).subset member)

theorem sound_turn {rest : List Req} (sound : Sound keyFn config.window s) (first : s.pending = req::rest) (estimate now : Number)
    (some : config.window ≠ 0) :
    Sound keyFn config.window (promoteIntoWindow config keyFn now (startInFlight keyFn req rest estimate s)) := by
  obtain ⟨n,window⟩ := Nat.exists_eq_succ_of_ne_zero some
  have distinct := sound.distinct
  rw [first,List.map_cons,List.nodup_cons] at distinct
  have bytes := bytes_start sound first estimate
  have apart := apart_start sound first estimate
  rw [window] at sound
  have stamps := stamps_start sound first estimate
  unfold promoteIntoWindow
  rw [window,Nat.succ_sub_one]
  split
  · rename_i beyond
    refine ⟨bytes,?_,distinct.2,apart⟩
    intro key
    have short : rest.length ≤ n := List.getElem?_eq_none_iff.mp beyond
    rw [stamps]
    show key ∈ (rest.take n).map keyFn ↔ key ∈ (rest.take n.succ).map keyFn
    rw [List.take_of_length_le short,List.take_of_length_le (Nat.le_succ_of_le short)]
  · rename_i next there
    refine ⟨bytes,?_,distinct.2,apart⟩
    intro key
    have there : rest[n]? = Option.some next := there
    dsimp only
    rw [isSome_stampIfAbsent,stamps]
    show _ ↔ key ∈ (rest.take (n+1)).map keyFn
    rw [List.take_add_one,there,List.map_append,List.mem_append]
    simp only [Option.toList_some,List.map_cons,List.map_nil,List.mem_singleton]
    tauto

theorem sound_start {rest : List Req} (sound : Sound keyFn 0 s) (first : s.pending = req::rest) (estimate : Number) :
    Sound keyFn 0 (startInFlight keyFn req rest estimate s) := by
  have distinct := sound.distinct
  rw [first,List.map_cons,List.nodup_cons] at distinct
  refine ⟨bytes_start sound first estimate,?_,distinct.2,apart_start sound first estimate⟩
  intro key
  have unstamped := sound.stamps key
  unfold startInFlight
  dsimp only
  rw [isSome_erase,unstamped]
  simp

theorem sound_drainLoop {estimateBytes : Req → Number} {now : Number} {sibling : Nat → SiblingLoad} {reqs : List Req}
    (sound : Sound keyFn config.window s) (queue : s.pending = reqs) (turn : Nat) :
    Sound keyFn config.window (drainLoop config keyFn estimateBytes now sibling reqs turn s).1 := by
  induction reqs generalizing s turn with
  | nil => exact sound
  | cons req rest ih =>
    unfold drainLoop
    dsimp only
    split
    · split
      · rename_i none
        rw [none] at sound ⊢
        exact sound_start sound queue _
      · rename_i some
        refine ih (sound_turn sound queue _ _ some) ?_ (turn+1)
        unfold promoteIntoWindow
        split <;> rfl
    · exact sound

theorem starts_below_cap {estimateBytes : Req → Number} {now : Number} {sibling : Nat → SiblingLoad} {reqs : List Req} (turn : Nat) :
    ∀ start ∈ (drainLoop config keyFn estimateBytes now sibling reqs turn s).2, start.count < config.maxConcurrentFetches := by
  induction reqs generalizing s turn with
  | nil => exact fun start member => (List.not_mem_nil member).elim
  | cons req rest ih =>
    unfold drainLoop
    dsimp only
    split
    · rename_i more
      have room : s.inFlightSize+(sibling turn).count < config.maxConcurrentFetches := (of_decide_eq_true more).1
      split
      · intro start member
        rw [List.mem_singleton.mp member]
        exact room
      · exact List.forall_mem_cons.mpr ⟨room,ih (turn+1)⟩
    · exact fun start member => (List.not_mem_nil member).elim

end Steps

section Runs
variable (config : SchedulerConfig) (keyFn : Req → K)

-- A call of the scheduler. A settle may come from any controller at any time.
inductive Call (K Req : Type) where
  | enqueue (reqs : List Req) (now : Number)
  | drain (estimateBytes : Req → Number) (now : Number) (sibling : Nat → SiblingLoad)
  | correctInFlightBytes (key : K) (actualBytes : Number)
  | markInFlightDone (key : K)
  | markInFlightDoneIfCurrent (key : K) (controller : Nat)
  | cancelOne (key : K)
  | cancelWhere (predicate : Req → Option Nat → Number → Bool) (now : Number)
  | cancelInFlightWhere (predicate : InFlightEntry Req → K → Bool)
  | reset

def perform (s : FetchScheduler K Req) : Call K Req → FetchScheduler K Req
  | .enqueue reqs now => s.enqueue config keyFn reqs now
  | .drain estimateBytes now sibling => (s.drain config keyFn estimateBytes now sibling).1
  | .correctInFlightBytes key actualBytes => s.correctInFlightBytes key actualBytes
  | .markInFlightDone key => s.markInFlightDone key
  | .markInFlightDoneIfCurrent key controller => (s.markInFlightDoneIfCurrent key controller).1
  | .cancelOne key => s.cancelOne key
  | .cancelWhere predicate now => (s.cancelWhere config keyFn predicate now).1
  | .cancelInFlightWhere predicate => (s.cancelInFlightWhere predicate).1
  | .reset => s.reset

def Call.Owed (s : FetchScheduler K Req) : Call K Req → Prop
  | .enqueue reqs _ => Enqueueable keyFn reqs s
  | _ => True

def Step (s : FetchScheduler K Req) (call : Call K Req) (t : FetchScheduler K Req) : Prop :=
  call.Owed keyFn s ∧ t = s.perform config keyFn call

variable {config keyFn} {s t : FetchScheduler K Req}

theorem perform_sound {call : Call K Req} (sound : Sound keyFn config.window s) (owed : call.Owed keyFn s) :
    Sound keyFn config.window (s.perform config keyFn call) := by
  cases call with
  | enqueue reqs now => exact sound_enqueue sound owed now
  | drain estimateBytes now sibling => exact sound_drainLoop sound rfl 0
  | correctInFlightBytes key actualBytes => exact sound_correct sound actualBytes
  | markInFlightDone key => exact sound_done sound key
  | markInFlightDoneIfCurrent key controller => exact sound_doneIfCurrent sound key controller
  | cancelOne key => exact sound_cancelOne sound key
  | cancelWhere predicate now => exact sound_cancelWhere sound predicate now
  | cancelInFlightWhere predicate => exact sound_cancelInFlightWhere sound predicate
  | reset => exact sound_reset

theorem runs_sound {calls : List (Call K Req)} (path : Lib.Runs (Step config keyFn) initial calls s) : Sound keyFn config.window s := by
  refine path.preserves (P := Sound keyFn config.window) ?_ sound_initial
  intro s call t sound taken
  obtain ⟨owed,rfl⟩ := taken
  exact perform_sound sound owed

theorem superseded_settle (superseded : s.isCurrent key controller = false) : s.markInFlightDoneIfCurrent key controller = (s,false) := by
  unfold isCurrent at superseded
  unfold markInFlightDoneIfCurrent
  cases found : s.inFlight.get? key with
  | none => rfl
  | some entry =>
    rw [found] at superseded
    exact if_pos (by simpa using superseded)

end Runs
end FetchScheduler

-- The books of the scheduler in every run, and what `drain` and a late settle do in any state reached.
theorem fetch_scheduler_books_agree {K Req : Type} [DecidableEq K] {config : SchedulerConfig} {keyFn : Req → K}
    {calls : List (FetchScheduler.Call K Req)} {s : FetchScheduler K Req}
    (path : Runs (FetchScheduler.Step config keyFn) .initial calls s) :
    s.inFlightBytes = (s.inFlight.values.map (·.estimatedBytes)).sum ∧
    (∀ key, key ∈ s.enqueuedAt.keys ↔ key ∈ (s.pending.take config.window).map keyFn) ∧
    (s.pending.map keyFn).Nodup ∧ (∀ req ∈ s.pending, s.hasInFlight (keyFn req) = false) ∧
    (∀ key controller, s.isCurrent key controller = false → s.markInFlightDoneIfCurrent key controller = (s,false)) ∧
    ∀ estimateBytes now sibling, ∀ start ∈ (s.drain config keyFn estimateBytes now sibling).2,
      start.count < config.maxConcurrentFetches := by
  have sound := FetchScheduler.runs_sound path
  refine ⟨?_,?_,sound.distinct,?_,fun key controller => FetchScheduler.superseded_settle,?_⟩
  · rw [sound.bytes,IndexMap.sum,IndexMap.values,List.map_map]
    rfl
  · intro key
    rw [← sound.stamps,IndexMap.mem_keys_iff,Option.isSome_iff_exists]
  · intro req member
    rw [FetchScheduler.hasInFlight,IndexMap.contains,sound.apart req member]
    rfl
  · intro estimateBytes now sibling
    exact FetchScheduler.starts_below_cap 0

def cancelledInWindow : List (FetchScheduler.Call Nat Nat) :=
  [.enqueue [1,2,3] 0,.drain (fun _ => 5) 1 (fun _ => ⟨0,0⟩),.correctInFlightBytes 1 7,.cancelWhere (fun req _ _ => req = 2) 2]

theorem fetch_scheduler_books_agree_after_a_cancel :
    ∃ s, Runs (FetchScheduler.Step ⟨1,100,some 1⟩ id) .initial cancelledInWindow s ∧
      s.inFlightBytes = (s.inFlight.values.map (·.estimatedBytes)).sum ∧ s.enqueuedAt.keys = [3] ∧ s.inFlight.keys = [1] := by
  have path : Runs (FetchScheduler.Step ⟨1,100,some 1⟩ id) .initial cancelledInWindow _ :=
    .cons ⟨⟨by decide,by decide⟩,rfl⟩ (.cons ⟨trivial,rfl⟩ (.cons ⟨trivial,rfl⟩ (.one ⟨trivial,rfl⟩)))
  exact ⟨_,path,(fetch_scheduler_books_agree path).1,by decide +kernel,by decide +kernel⟩

end Lucida.Web
