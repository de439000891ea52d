import Lucida.Core.Document

namespace Lucida.Core
variable {α β κ : Type} {p q : α → Bool} {f g : α → α} {xs : List α}

theorem map_updateFirst {h : α → β} (kept : ∀ x, p x → h (f x) = h x) : (updateFirst p f xs).map h = xs.map h := by
  induction xs with
  | nil => rfl
  | cons x xs ih =>
    unfold updateFirst
    split
    · rw [List.map_cons,List.map_cons,kept x ‹_›]
    · rw [List.map_cons,List.map_cons,ih]

theorem updateFirst_map {p : β → Bool} {q : α → Bool} {f : β → β} {g : α → α} {h : α → β} (same : ∀ x, p (h x) = q x) (through : ∀ x, h (g x) = f (h x)) :
    updateFirst p f (xs.map h) = (updateFirst q g xs).map h := by
  induction xs with
  | nil => rfl
  | cons x xs ih =>
    rw [List.map_cons]
    unfold updateFirst
    rw [same,ih]
    split
    · rw [List.map_cons,through]
    · rfl

theorem upsertFirst_map {p : β → Bool} {q : α → Bool} {f : β → β} {g : α → α} {h : α → β} (same : ∀ x, p (h x) = q x) (through : ∀ x, h (g x) = f (h x))
    (new : α) : upsertFirst p f (h new) (xs.map h) = (upsertFirst q g new xs).map h := by
  have present : (xs.map h).any p = xs.any q := by
    rw [List.any_map]
    exact congrArg xs.any (funext same)
  unfold upsertFirst
  rw [present,updateFirst_map same through]
  split
  · rfl
  · rw [List.map_append,List.map_singleton]

theorem mem_updateFirst (member : y ∈ updateFirst p f xs) : y ∈ xs ∨ ∃ x ∈ xs, p x ∧ y = f x := by
  induction xs with
  | nil => cases member
  | cons x xs ih =>
    unfold updateFirst at member
    split at member
    · rcases List.mem_cons.mp member with rfl | later
      · exact .inr ⟨x,List.mem_cons_self,‹_›,rfl⟩
      · exact .inl (List.mem_cons_of_mem x later)
    · rcases List.mem_cons.mp member with rfl | later
      · exact .inl List.mem_cons_self
      · rcases ih later with old | ⟨z,found,hit,same⟩
        · exact .inl (List.mem_cons_of_mem x old)
        · exact .inr ⟨z,List.mem_cons_of_mem x found,hit,same⟩

theorem any_updateFirst (kept : ∀ x, p x → q (f x) = q x) : (updateFirst p f xs).any q = xs.any q := by
  have same : ∀ ys : List α, ys.any q = (ys.map q).any id := fun ys => by rw [List.any_map]; rfl
  rw [same,same,map_updateFirst kept]

theorem updateFirst_eq_self (settled : ∀ x ∈ xs, p x → f x = x) : updateFirst p f xs = xs := by
  induction xs with
  | nil => rfl
  | cons x xs ih =>
    unfold updateFirst
    split
    · rw [settled x List.mem_cons_self ‹_›]
    · rw [ih fun y member => settled y (List.mem_cons_of_mem x member)]

theorem updateFirst_found (found : xs.find? p = some y) : updateFirst p (fun _ => y) xs = xs := by
  induction xs with
  | nil => cases found
  | cons x xs ih =>
    unfold updateFirst
    by_cases hit : p x
    · rw [List.find?_cons_of_pos hit] at found
      cases found
      rw [if_pos hit]
    · rw [List.find?_cons_of_neg hit] at found
      rw [if_neg hit,ih found]

theorem updateFirst_updateFirst (stays : ∀ x, p x → p (f x)) :
    updateFirst p g (updateFirst p f xs) = updateFirst p (g ∘ f) xs := by
  induction xs with
  | nil => rfl
  | cons x xs ih =>
    by_cases hit : p x
    · simp only [updateFirst,hit,stays x hit,if_true,Function.comp_apply]
    · simp only [updateFirst,hit,Bool.false_eq_true,if_false,ih]

theorem updateFirst_congr (same : ∀ x ∈ xs, p x → f x = g x) : updateFirst p f xs = updateFirst p g xs := by
  induction xs with
  | nil => rfl
  | cons x xs ih =>
    unfold updateFirst
    split
    · rw [same x List.mem_cons_self ‹_›]
    · rw [ih fun y member => same y (List.mem_cons_of_mem x member)]

theorem updateFirst_twice (stays : ∀ x, p x → p (f x)) (settled : ∀ x, p x → f (f x) = f x) :
    updateFirst p f (updateFirst p f xs) = updateFirst p f xs := by
  rw [updateFirst_updateFirst stays]
  exact updateFirst_congr fun x _ hit => settled x hit

theorem updateFirst_comm (apart : ∀ x, p x → q x = false) (left : ∀ x, p x → q (f x) = q x)
    (right : ∀ x, q x → p (g x) = p x) :
    updateFirst p f (updateFirst q g xs) = updateFirst q g (updateFirst p f xs) := by
  induction xs with
  | nil => rfl
  | cons x xs ih =>
    by_cases hit : p x
    · have miss : q x = false := apart x hit
      have miss' : q (f x) = false := (left x hit).trans miss
      simp only [updateFirst,hit,miss,miss',if_true,Bool.false_eq_true,if_false]
    · by_cases other : q x
      · have miss' : p (g x) = false := by rw [right x other]; exact Bool.eq_false_iff.mpr hit
        simp only [updateFirst,hit,other,miss',if_true,Bool.false_eq_true,if_false]
      · simp only [updateFirst,hit,other,Bool.false_eq_true,if_false,ih]

theorem updateFirst_append (present : xs.any p) : updateFirst p f (xs++ys) = updateFirst p f xs++ys := by
  induction xs with
  | nil => cases present
  | cons x xs ih =>
    by_cases hit : p x
    · simp only [List.cons_append,updateFirst,hit,if_true]
    · have later : xs.any p := by simpa [hit] using present
      simp only [List.cons_append,updateFirst,hit,Bool.false_eq_true,if_false,ih later]

theorem upsertFirst_ne_nil : upsertFirst p f new xs ≠ [] := by
  unfold upsertFirst
  split
  · cases xs with
    | nil => rename_i present; cases present
    | cons x xs =>
      unfold updateFirst
      split <;> exact List.cons_ne_nil _ _
  · exact List.append_ne_nil_of_right_ne_nil _ (List.cons_ne_nil _ _)

theorem mem_upsertFirst (member : y ∈ upsertFirst p f new xs) : y ∈ xs ∨ y = new ∨ ∃ x ∈ xs, p x ∧ y = f x := by
  unfold upsertFirst at member
  split at member
  · rcases mem_updateFirst member with old | written
    · exact .inl old
    · exact .inr (.inr written)
  · rcases List.mem_append.mp member with old | added
    · exact .inl old
    · exact .inr (.inl (List.mem_singleton.mp added))

theorem any_upsertFirst (hit : p new) (stays : ∀ x, p x → p (f x)) : (upsertFirst p f new xs).any p := by
  unfold upsertFirst
  split
  · rw [any_updateFirst fun x found => (stays x found).trans found.symm]
    assumption
  · simp [hit]

theorem upsertFirst_twice (hit : p new) (same : f new = new) (stays : ∀ x, p x → p (f x))
    (settled : ∀ x, p x → f (f x) = f x) : upsertFirst p f new (upsertFirst p f new xs) = upsertFirst p f new xs := by
  have again : upsertFirst p f new (upsertFirst p f new xs) = updateFirst p f (upsertFirst p f new xs) :=
    if_pos (any_upsertFirst hit stays)
  rw [again]
  unfold upsertFirst
  split
  · exact updateFirst_twice stays settled
  · rename_i absent
    refine updateFirst_eq_self fun x member found => ?_
    rcases List.mem_append.mp member with old | added
    · exact absurd (List.any_eq_true.mpr ⟨x,old,found⟩) absent
    · rw [List.mem_singleton.mp added,same]

section Keyed
variable [DecidableEq κ] {key : α → κ}

theorem nodup_upsertFirst (keyed : ∀ x, p x = decide (key x = key new)) (kept : ∀ x, p x → key (f x) = key x)
    (nodup : (xs.map key).Nodup) : ((upsertFirst p f new xs).map key).Nodup := by
  unfold upsertFirst
  split
  · rwa [map_updateFirst kept]
  · rename_i absent
    rw [List.map_append,List.map_singleton]
    refine List.nodup_append.mpr ⟨nodup,List.nodup_singleton _,?_⟩
    intro k member k' single same
    obtain ⟨x,found,rfl⟩ := List.mem_map.mp member
    refine absent (List.any_eq_true.mpr ⟨x,found,?_⟩)
    rw [keyed,decide_eq_true_eq,same]
    exact List.mem_singleton.mp single

variable (key)

-- An incoming item takes the place of the one with its key, or goes last.
def upsertBy (incoming : α) (xs : List α) : List α :=
  upsertFirst (fun x => decide (key x = key incoming)) (fun _ => incoming) incoming xs

def upsertAll (delta xs : List α) : List α := delta.foldl (fun xs incoming => upsertBy key incoming xs) xs

variable {key}

def Present (key : α → κ) (k : κ) (xs : List α) : Prop := xs.any fun x => decide (key x = k)

theorem upsertBy_present (present : Present key (key incoming) xs) :
    upsertBy key incoming xs = updateFirst (fun x => decide (key x = key incoming)) (fun _ => incoming) xs :=
  if_pos present

theorem present_upsertBy (present : Present key k xs) : Present key k (upsertBy key incoming xs) := by
  unfold Present upsertBy upsertFirst at *
  split
  · rw [any_updateFirst]
    · exact present
    · intro x hit
      rw [of_decide_eq_true hit]
  · rw [List.any_append,present,Bool.true_or]

theorem present_own : Present key (key incoming) (upsertBy key incoming xs) :=
  any_upsertFirst (decide_eq_true rfl) fun _ _ => decide_eq_true rfl

theorem upsertBy_twice (incoming : α) (xs : List α) :
    upsertBy key incoming (upsertBy key incoming xs) = upsertBy key incoming xs :=
  upsertFirst_twice (decide_eq_true rfl) rfl (fun _ _ => decide_eq_true rfl) fun _ _ => rfl

theorem upsertBy_same (same : key a = key b) (present : Present key (key b) xs) :
    upsertBy key a (upsertBy key b xs) = upsertBy key a xs := by
  rw [upsertBy_present (same ▸ present_upsertBy present),upsertBy_present present,upsertBy_present (same ▸ present),same]
  exact updateFirst_updateFirst fun _ _ => decide_eq_true rfl

-- An item whose key is there already keeps to its place, so it may come before another key's.
theorem upsertBy_comm (apart : key a ≠ key b) (present : Present key (key b) xs) :
    upsertBy key a (upsertBy key b xs) = upsertBy key b (upsertBy key a xs) := by
  rw [upsertBy_present present,upsertBy_present (present_upsertBy present)]
  have elsewhere : ∀ x, decide (key x = key b) = true → decide (key b = key a) = decide (key x = key a) := fun x hit => by
    rw [of_decide_eq_true hit]
  unfold upsertBy upsertFirst
  rw [any_updateFirst elsewhere]
  split
  · refine updateFirst_comm (fun x hit => ?_) (fun x hit => ?_) elsewhere
    · exact decide_eq_false (of_decide_eq_true hit ▸ apart)
    · rw [of_decide_eq_true hit]
  · exact (updateFirst_append present).symm

theorem present_upsertAll (present : Present key k xs) : Present key k (upsertAll key delta xs) := by
  unfold upsertAll
  induction delta generalizing xs with
  | nil => exact present
  | cons incoming delta ih => exact ih (present_upsertBy present)

theorem upsertAll_absorbs (later : key a ∈ delta.map key) (present : Present key (key a) xs) :
    upsertAll key delta (upsertBy key a xs) = upsertAll key delta xs := by
  unfold upsertAll
  induction delta generalizing xs with
  | nil => cases later
  | cons incoming delta ih =>
    rw [List.foldl_cons,List.foldl_cons]
    by_cases same : key incoming = key a
    · rw [upsertBy_same same present]
    · rw [upsertBy_comm same present]
      refine ih ?_ (present_upsertBy present)
      rcases List.mem_cons.mp later with here | there
      · exact absurd here.symm same
      · exact there

theorem upsertAll_comm (apart : key a ∉ delta.map key) (present : Present key (key a) xs) :
    upsertAll key delta (upsertBy key a xs) = upsertBy key a (upsertAll key delta xs) := by
  unfold upsertAll
  induction delta generalizing xs with
  | nil => rfl
  | cons incoming delta ih =>
    rw [List.foldl_cons,List.foldl_cons]
    have other : key incoming ≠ key a := fun same => apart (List.mem_cons.mpr (.inl same.symm))
    rw [upsertBy_comm other present]
    exact ih (fun member => apart (List.mem_cons_of_mem _ member)) (present_upsertBy present)

theorem upsertAll_twice (delta xs : List α) : upsertAll key delta (upsertAll key delta xs) = upsertAll key delta xs := by
  induction delta generalizing xs with
  | nil => rfl
  | cons a delta ih =>
    have step : ∀ ys, upsertAll key (a::delta) ys = upsertAll key delta (upsertBy key a ys) := fun _ => rfl
    rw [step,step]
    have present : Present key (key a) (upsertAll key delta (upsertBy key a xs)) := present_upsertAll present_own
    by_cases later : key a ∈ delta.map key
    · rw [upsertAll_absorbs later present,ih]
    · rw [upsertAll_comm later present,ih,← upsertAll_comm later present_own,upsertBy_twice]

theorem nodup_upsertAll (nodup : (xs.map key).Nodup) : ((upsertAll key delta xs).map key).Nodup := by
  unfold upsertAll
  induction delta generalizing xs with
  | nil => exact nodup
  | cons incoming delta ih =>
    exact ih (nodup_upsertFirst (fun _ => rfl) (fun _ hit => (of_decide_eq_true hit).symm) nodup)

theorem find?_of_nodup (nodup : (xs.map key).Nodup) (member : x ∈ xs) : xs.find? (fun y => decide (key y = key x)) = some x := by
  have some : (xs.find? fun y => decide (key y = key x)).isSome := List.find?_isSome.mpr ⟨x,member,decide_eq_true rfl⟩
  obtain ⟨found,there⟩ := Option.isSome_iff_exists.mp some
  rw [there]
  have same : key found = key x := by simpa using List.find?_some there
  exact congrArg Option.some (List.inj_on_of_nodup_map nodup (List.mem_of_find?_eq_some there) member same)

theorem find?_upsertFirst {new : α} {k k' : κ} (own : key new = k) (stays : ∀ x, key x = k → key (f x) = k) :
    (upsertFirst (fun x => decide (key x = k)) f new xs).find? (fun x => decide (key x = k')) =
      if k = k' then some ((xs.find? fun x => decide (key x = k')).elim new f) else xs.find? fun x => decide (key x = k') := by
  have written : ∀ ys : List α, (updateFirst (fun x => decide (key x = k)) f ys).find? (fun x => decide (key x = k')) =
      if k = k' then (ys.find? fun x => decide (key x = k')).map f else ys.find? fun x => decide (key x = k') := by
    intro ys
    induction ys with
    | nil => simp [updateFirst]
    | cons y ys ih =>
      unfold updateFirst
      by_cases hit : key y = k
      · by_cases same : k = k'
        · subst same
          simp [hit,stays y hit]
        · simp [hit,stays y hit,same]
      · rw [if_neg (by simpa using hit)]
        by_cases there : key y = k'
        · have other : k ≠ k' := fun same => hit (there.trans same.symm)
          simp [there,other]
        · simp [there,ih]
  unfold upsertFirst
  split
  · rename_i present
    rw [written]
    by_cases same : k = k'
    · subst same
      obtain ⟨x,found⟩ := Option.isSome_iff_exists.mp (List.find?_isSome.mpr (List.any_eq_true.mp present))
      simp [found]
    · simp [same]
  · rename_i absent
    rw [List.find?_append]
    by_cases same : k = k'
    · subst same
      have none : xs.find? (fun x => decide (key x = k)) = none := by
        rw [List.find?_eq_none]
        exact fun x member hit => absent (List.any_eq_true.mpr ⟨x,member,hit⟩)
      simp [none,own]
    · simp [own,same]

theorem find?_upsertAll (delta xs : List α) (k : κ) :
    (upsertAll key delta xs).find? (fun x => decide (key x = k)) =
      (delta.reverse.find? fun x => decide (key x = k)).or (xs.find? fun x => decide (key x = k)) := by
  unfold upsertAll
  induction delta generalizing xs with
  | nil => simp
  | cons a delta ih =>
    have first : (upsertBy key a xs).find? (fun x => decide (key x = k)) = _ := find?_upsertFirst rfl fun _ _ => rfl
    rw [List.foldl_cons,ih,first,List.reverse_cons,List.find?_append]
    cases delta.reverse.find? fun x => decide (key x = k) with
    | some found => simp
    | none =>
      by_cases same : key a = k
      · cases xs.find? fun x => decide (key x = k) <;> simp [same]
      · simp [same]

theorem upsertAll_eq_self_iff (present : ∀ a ∈ delta, Present key (key a) xs) :
    upsertAll key delta xs = xs ↔
      ∀ k ∈ delta.map key, xs.find? (fun x => decide (key x = k)) = delta.reverse.find? fun x => decide (key x = k) := by
  constructor
  · intro settled k member
    have looked : (upsertAll key delta xs).find? (fun x => decide (key x = k)) = _ := find?_upsertAll delta xs k
    obtain ⟨a,found,same⟩ := List.mem_map.mp member
    have last : (delta.reverse.find? fun x => decide (key x = k)).isSome := by
      rw [List.find?_isSome]
      exact ⟨a,List.mem_reverse.mpr found,decide_eq_true same⟩
    rw [settled,Option.or_of_isSome last] at looked
    exact looked
  · intro last
    induction delta with
    | nil => rfl
    | cons a delta ih =>
      have rest : ∀ k ∈ delta.map key, xs.find? (fun x => decide (key x = k)) = delta.reverse.find? fun x => decide (key x = k) := by
        intro k member
        obtain ⟨b,found,same⟩ := List.mem_map.mp member
        have there : (delta.reverse.find? fun x => decide (key x = k)).isSome := by
          rw [List.find?_isSome]
          exact ⟨b,List.mem_reverse.mpr found,decide_eq_true same⟩
        rw [last k (List.mem_cons_of_mem _ member),List.reverse_cons,List.find?_append,Option.or_of_isSome there]
      have settled := ih (fun b member => present b (List.mem_cons_of_mem _ member)) rest
      by_cases later : key a ∈ delta.map key
      · exact (upsertAll_absorbs later (present a List.mem_cons_self)).trans settled
      · -- The item is the last of its key, so it stands where it is written.
        have none : delta.reverse.find? (fun x => decide (key x = key a)) = none := by
          rw [List.find?_eq_none]
          exact fun b member hit => later (List.mem_map.mpr ⟨b,List.mem_reverse.mp member,of_decide_eq_true hit⟩)
        have first : xs.find? (fun x => decide (key x = key a)) = some a := by
          rw [last (key a) List.mem_cons_self,List.reverse_cons,List.find?_append,none]
          simp
        have stays : upsertBy key a xs = xs := by
          rw [upsertBy_present (present a List.mem_cons_self)]
          exact updateFirst_found first
        exact (congrArg (upsertAll key delta) stays).trans settled

theorem keys_upsertAll (delta xs : List α) : ∃ more, (upsertAll key delta xs).map key = xs.map key ++ more := by
  unfold upsertAll
  induction delta generalizing xs with
  | nil => exact ⟨[],(List.append_nil _).symm⟩
  | cons a delta ih =>
    obtain ⟨more,same⟩ := ih (upsertBy key a xs)
    rw [List.foldl_cons,same]
    unfold upsertBy upsertFirst
    split
    · rw [map_updateFirst fun x hit => (of_decide_eq_true hit).symm]
      exact ⟨more,rfl⟩
    · rw [List.map_append,List.append_assoc]
      exact ⟨_,rfl⟩

end Keyed

section Merged
variable [DecidableEq κ] (key : α → κ) (merge : α → α → α)

-- An incoming item is merged into the first of its key, or goes last.
def mergeBy (incoming : α) (xs : List α) : List α :=
  upsertFirst (fun x => decide (key x = key incoming)) (fun x => merge x incoming) incoming xs

def mergeAll (delta xs : List α) : List α := delta.foldl (fun xs incoming => mergeBy key merge incoming xs) xs

def gathered (first : Option α) (delta : List α) : Option α := delta.foldl (fun found incoming => some (found.elim incoming fun x => merge x incoming)) first

variable {key merge}

theorem gathered_some (x : α) (delta : List α) : gathered merge (some x) delta = some (delta.foldl merge x) := by
  unfold gathered
  induction delta generalizing x with
  | nil => rfl
  | cons incoming delta ih => exact ih (merge x incoming)

variable (kept : ∀ x incoming, key (merge x incoming) = key x)
include kept

theorem find?_mergeAll (delta xs : List α) (k : κ) :
    (mergeAll key merge delta xs).find? (fun x => decide (key x = k)) =
      gathered merge (xs.find? fun x => decide (key x = k)) (delta.filter fun x => decide (key x = k)) := by
  unfold mergeAll
  induction delta generalizing xs with
  | nil => rfl
  | cons incoming delta ih =>
    have first : (mergeBy key merge incoming xs).find? (fun x => decide (key x = k)) = _ :=
      find?_upsertFirst rfl fun x own => (kept x incoming).trans own
    rw [List.foldl_cons,ih,first]
    by_cases same : key incoming = k
    · rw [if_pos same,List.filter_cons_of_pos (by simpa using same)]
      rfl
    · rw [if_neg same,List.filter_cons_of_neg (by simpa using same)]

omit kept in
theorem mergeBy_present {incoming : α} (present : Present key (key incoming) xs) :
    mergeBy key merge incoming xs = updateFirst (fun x => decide (key x = key incoming)) (fun x => merge x incoming) xs := if_pos present

theorem present_mergeBy {incoming : α} (present : Present key k xs) : Present key k (mergeBy key merge incoming xs) := by
  unfold Present mergeBy upsertFirst at *
  split
  · rw [any_updateFirst]
    · exact present
    · intro x _
      rw [kept]
  · rw [List.any_append,present,Bool.true_or]

theorem present_mergeAll {delta : List α} {a : α} (member : a ∈ delta) : Present key (key a) (mergeAll key merge delta xs) := by
  have later : ∀ (delta xs : List α), Present key (key a) xs → Present key (key a) (mergeAll key merge delta xs) := by
    intro delta
    unfold mergeAll
    induction delta with
    | nil => exact fun xs present => present
    | cons incoming delta ih => exact fun xs present => ih _ (present_mergeBy kept present)
  induction delta generalizing xs with
  | nil => cases member
  | cons incoming delta ih =>
    rcases List.mem_cons.mp member with rfl | there
    · refine later delta _ (any_upsertFirst (decide_eq_true rfl) fun x hit => ?_)
      rw [kept]
      exact hit
    · exact ih there

theorem nodup_mergeAll {delta : List α} (nodup : (xs.map key).Nodup) : ((mergeAll key merge delta xs).map key).Nodup := by
  unfold mergeAll
  induction delta generalizing xs with
  | nil => exact nodup
  | cons incoming delta ih => exact ih (nodup_upsertFirst (fun _ => rfl) (fun x _ => kept x incoming) nodup)

theorem mergeAll_cons (x : α) (delta xs : List α) (present : ∀ a ∈ delta, Present key (key a) (x::xs)) :
    mergeAll key merge delta (x::xs) = (delta.filter fun a => decide (key a = key x)).foldl merge x::
      mergeAll key merge (delta.filter fun a => !decide (key a = key x)) xs := by
  induction delta generalizing x xs with
  | nil => rfl
  | cons incoming delta ih =>
    have here : Present key (key incoming) (x::xs) := present incoming List.mem_cons_self
    have step : mergeAll key merge (incoming::delta) (x::xs) = mergeAll key merge delta (mergeBy key merge incoming (x::xs)) := rfl
    have later : ∀ a ∈ delta, Present key (key a) (mergeBy key merge incoming (x::xs)) := fun a member =>
      present_mergeBy kept (present a (List.mem_cons_of_mem _ member))
    rw [step]
    rw [mergeBy_present here] at later ⊢
    by_cases same : key incoming = key x
    · have head : updateFirst (fun y => decide (key y = key incoming)) (fun y => merge y incoming) (x::xs) = merge x incoming::xs := by
        simp [updateFirst,same]
      rw [head] at later ⊢
      rw [ih _ _ later,kept]
      simp [same]
    · have tail : updateFirst (fun y => decide (key y = key incoming)) (fun y => merge y incoming) (x::xs) =
          x::updateFirst (fun y => decide (key y = key incoming)) (fun y => merge y incoming) xs := by
        simp [updateFirst,Ne.symm same]
      rw [tail] at later ⊢
      have there : Present key (key incoming) xs := by simpa [Present,Ne.symm same] using here
      rw [ih _ _ later,← mergeBy_present there]
      simp only [same,decide_false,Bool.false_eq_true,not_false_eq_true,List.filter_cons_of_neg,Bool.not_false,List.filter_cons_of_pos]
      rfl

theorem mergeAll_eq_self_iff {delta : List α} (present : ∀ a ∈ delta, Present key (key a) xs) :
    mergeAll key merge delta xs = xs ↔
      ∀ k x, xs.find? (fun y => decide (key y = k)) = some x → (delta.filter fun a => decide (key a = k)).foldl merge x = x := by
  induction xs generalizing delta with
  | nil =>
    have empty : delta = [] := by
      cases delta with
      | nil => rfl
      | cons a delta => exact absurd (present a List.mem_cons_self) (by simp [Present])
    simp [empty,mergeAll]
  | cons x xs ih =>
    rw [mergeAll_cons kept x delta xs present,List.cons.injEq]
    have rest : ∀ a ∈ delta.filter (fun a => !decide (key a = key x)), Present key (key a) xs := by
      intro a member
      obtain ⟨listed,other⟩ := List.mem_filter.mp member
      have there := present a listed
      have differs : key x ≠ key a := fun same => by simp [same] at other
      simpa [Present,differs] using there
    rw [ih rest]
    constructor
    · rintro ⟨head,tail⟩ k y found
      by_cases same : key x = k
      · rw [List.find?_cons_of_pos (by simpa using same)] at found
        cases found
        rw [← same]
        exact head
      · rw [List.find?_cons_of_neg (by simpa using same)] at found
        have settled := tail k y found
        rw [List.filter_filter] at settled
        refine Eq.trans (congrArg (List.foldl merge y ·) (List.filter_congr ?_)) settled
        intro a _
        by_cases own : key a = k
        · simp [own,Ne.symm same]
        · simp [own]
    · intro each
      refine ⟨each (key x) x (by simp),?_⟩
      intro k y found
      have differs : key x ≠ k ∨ key x = k := (ne_or_eq _ _)
      rw [List.filter_filter]
      rcases differs with differs | same
      · have settled := each k y (by rw [List.find?_cons_of_neg (by simpa using differs)]; exact found)
        refine Eq.trans (congrArg (List.foldl merge y ·) (List.filter_congr ?_)) settled
        intro a _
        by_cases own : key a = k
        · simp [own,Ne.symm differs]
        · simp [own]
      · -- Nothing of the first item's key is left for the others.
        have none : delta.filter (fun a => decide (key a = k) && !decide (key a = key x)) = [] := by
          rw [List.filter_eq_nil_iff]
          intro a _
          simp [same]
        rw [none]
        rfl

end Merged
end Lucida.Core
