import Mathlib.Data.List.Nodup
import Mathlib.Data.List.Perm.Subperm
import Mathlib.Order.Nat

namespace Lucida.Lib
variable {α κ : Type} [DecidableEq κ]

-- An item takes the place of the first with its key, or it is put in at a spot of its own.
def upsert (key : α → κ) (spot : List α → α → Nat) (items : List α) (item : α) : List α :=
  match items.findIdx? fun other => key other = key item with
  | some index => items.set index item
  | none => items.take (spot items item) ++ item::items.drop (spot items item)

section
variable {key : α → κ} {spot : List α → α → Nat} {items later : List α} {item other : α} {k : κ}

theorem upsert_cases (key : α → κ) (spot : List α → α → Nat) (items : List α) (item : α) :
    (∃ before old after, items = before ++ old::after ∧ key old = key item ∧ (∀ x ∈ before, key x ≠ key item) ∧
      upsert key spot items item = before ++ item::after) ∨
    ((∀ x ∈ items, key x ≠ key item) ∧ ∃ before after, items = before ++ after ∧ before = items.take (spot items item) ∧
      upsert key spot items item = before ++ item::after) := by
  unfold upsert
  cases found : items.findIdx? fun other => key other = key item with
  | some index =>
    left
    obtain ⟨short,here,first⟩ := List.findIdx?_eq_some_iff_getElem.mp found
    refine ⟨items.take index,items[index],items.drop (index+1),?_,by simpa using here,?_,?_⟩
    · rw [List.getElem_cons_drop,List.take_append_drop]
    · intro x member
      obtain ⟨i,bound,rfl⟩ := List.mem_take_iff_getElem.mp member
      simpa using first i (by omega)
    · exact List.set_eq_take_append_cons_drop.trans (if_pos short)
  | none =>
    right
    refine ⟨fun x member => ?_,_,_,(List.take_append_drop (spot items item) items).symm,rfl,rfl⟩
    simpa using List.findIdx?_eq_none_iff.mp found x member

theorem mem_keys_upsert : k ∈ (upsert key spot items item).map key ↔ k = key item ∨ k ∈ items.map key := by
  rcases upsert_cases key spot items item with ⟨before,old,after,whole,same,_,eq⟩ | ⟨_,before,after,whole,_,eq⟩
  · rw [eq,whole]
    simp only [List.map_append,List.map_cons,List.mem_append,List.mem_cons,same]
    tauto
  · rw [eq,whole]
    simp only [List.map_append,List.map_cons,List.mem_append,List.mem_cons]
    tauto

variable (spot) in
theorem keys_upsert_known (known : key item ∈ items.map key) : (upsert key spot items item).map key = items.map key := by
  rcases upsert_cases key spot items item with ⟨before,old,after,whole,same,_,eq⟩ | ⟨absent,_⟩
  · rw [eq,whole]
    simp [same]
  · obtain ⟨x,member,same⟩ := List.mem_map.mp known
    exact absurd same (absent x member)

theorem find?_upsert (k : κ) : (upsert key spot items item).find? (fun x => key x = k) =
    if k = key item then some item else items.find? fun x => key x = k := by
  have apart : ∀ {part : List α}, (∀ x ∈ part, key x ≠ key item) → part.find? (fun x => key x = key item) = none := by
    intro part absent
    rw [List.find?_eq_none]
    intro x member
    simpa using absent x member
  rcases upsert_cases key spot items item with ⟨before,old,after,whole,same,absent,eq⟩ | ⟨absent,before,after,whole,_,eq⟩
  · rw [eq,whole]
    by_cases own : k = key item
    · subst own
      simp [List.find?_append,apart absent]
    · have other : ¬key item = k := fun same => own same.symm
      simp [List.find?_append,own,other,same]
  · rw [eq,whole]
    by_cases own : k = key item
    · subst own
      rw [if_pos rfl,List.find?_append,apart fun x member => absent x (whole ▸ List.mem_append_left _ member)]
      simp
    · have other : ¬key item = k := fun same => own same.symm
      simp [List.find?_append,own,other]

end

def upsertEach (key : α → κ) (spot : List α → α → Nat) (items more : List α) : List α := more.foldl (upsert key spot) items

section
variable {key : α → κ} {spot : List α → α → Nat} {items more : List α} {old : α}

theorem mem_keys_upsertEach {k : κ} : k ∈ (upsertEach key spot items more).map key ↔ k ∈ items.map key ∨ k ∈ more.map key := by
  unfold upsertEach
  induction more generalizing items with
  | nil => simp
  | cons item more ih =>
    rw [List.foldl_cons,ih,mem_keys_upsert,List.map_cons,List.mem_cons]
    tauto

variable (spot) in
theorem keys_upsertEach_known (known : ∀ item ∈ more, key item ∈ items.map key) :
    (upsertEach key spot items more).map key = items.map key := by
  unfold upsertEach
  induction more generalizing items with
  | nil => rfl
  | cons item more ih =>
    obtain ⟨first,later⟩ := List.forall_mem_cons.mp known
    have same := keys_upsert_known spot first
    rw [List.foldl_cons,ih (by rwa [same]),same]

variable (key spot items more) in
theorem find?_upsertEach (k : κ) : (upsertEach key spot items more).find? (fun x => key x = k) =
    (more.reverse.find? fun x => key x = k).or (items.find? fun x => key x = k) := by
  unfold upsertEach
  induction more generalizing items with
  | nil => rfl
  | cons item more ih =>
    rw [List.foldl_cons,ih,find?_upsert,List.reverse_cons,List.find?_append,Option.or_assoc]
    congr 1
    by_cases own : k = key item
    · simp [own]
    · have other : ¬key item = k := fun same => own same.symm
      simp [own,other]

theorem upsert_known {item : α} (known : key item ∈ items.map key) :
    upsert key spot items item = items.set ((items.map key).findIdx fun k => k = key item) item := by
  obtain ⟨x,member,same⟩ := List.mem_map.mp known
  have found := List.findIdx?_eq_some_of_exists (p := fun x => decide (key x = key item)) ⟨x,member,by simpa using same⟩
  unfold upsert
  rw [found,List.findIdx_map]
  rfl

-- Where all keys are known, each item stays in its place, and the first with a key becomes the last one added.
theorem getElem?_upsertEach {p : Nat} (known : ∀ item ∈ more, key item ∈ items.map key) (here : items[p]? = some old) :
    (upsertEach key spot items more)[p]? = some (if ((items.map key).findIdx fun k => k = key old) = p then
      (more.reverse.find? fun x => key x = key old).getD old else old) := by
  unfold upsertEach
  induction more generalizing items old with
  | nil => simp [here]
  | cons item more ih =>
    obtain ⟨first,later⟩ := List.forall_mem_cons.mp known
    have keys := keys_upsert_known spot first
    have atPlace : (items.map key)[p]? = some (key old) := by
      rw [List.getElem?_map,here]
      rfl
    have found : ((items.map key).findIdx fun k => k = key item) = p → key item = key old := by
      intro same
      have short : ((items.map key).findIdx fun k => k = key item) < (items.map key).length :=
        List.findIdx_lt_length_of_exists ⟨key item,first,by simp⟩
      have own := List.findIdx_getElem (w := short)
      subst same
      rw [List.getElem?_eq_getElem short] at atPlace
      exact (of_decide_eq_true own).symm.trans (Option.some.inj atPlace)
    have now : (upsert key spot items item)[p]? =
        some (if ((items.map key).findIdx fun k => k = key item) = p then item else old) := by
      rw [upsert_known first,List.getElem?_set]
      split
      · have short := (List.getElem?_eq_some_iff.mp here).1
        rename_i same
        rw [if_pos (same ▸ short)]
      · exact here
    have stillKey : key (if ((items.map key).findIdx fun k => k = key item) = p then item else old) = key old := by
      split
      · rename_i same
        exact found same
      · rfl
    rw [List.foldl_cons,ih (by rwa [keys]) now,stillKey,keys,List.reverse_cons,List.find?_append]
    congr 1
    by_cases own : key item = key old
    · have last : [item].find? (fun x => key x = key old) = some item := by simp [own]
      rw [last,own]
      by_cases atFirst : ((items.map key).findIdx fun k => k = key old) = p
      · rw [if_pos atFirst,if_pos atFirst,if_pos atFirst]
        cases more.reverse.find? fun x => key x = key old <;> rfl
      · rw [if_neg atFirst,if_neg atFirst,if_neg atFirst]
    · have last : [item].find? (fun x => key x = key old) = none := by simp [own]
      rw [last,Option.or_none,if_neg fun same => own (found same)]

theorem upsertEach_again (items more : List α) :
    upsertEach key spot (upsertEach key spot items more) more = upsertEach key spot items more := by
  have known : ∀ item ∈ more, key item ∈ (upsertEach key spot items more).map key := fun item member =>
    mem_keys_upsertEach.mpr (.inr (List.mem_map_of_mem member))
  have length : (upsertEach key spot (upsertEach key spot items more) more).length = (upsertEach key spot items more).length := by
    have keys := congrArg List.length (keys_upsertEach_known spot known)
    rwa [List.length_map,List.length_map] at keys
  apply List.ext_getElem?
  intro p
  cases here : (upsertEach key spot items more)[p]? with
  | none => rwa [List.getElem?_eq_none_iff,length,← List.getElem?_eq_none_iff]
  | some old =>
    rw [getElem?_upsertEach known here]
    split
    · rename_i first
      cases last : more.reverse.find? fun x => key x = key old with
      | none => rfl
      | some item =>
        have found := find?_upsertEach key spot items more (key old)
        rw [last,Option.some_or,List.find?_eq_some_iff_getElem] at found
        obtain ⟨_,i,short,there,before⟩ := found
        have same : i = p := by
          rw [List.findIdx_map] at first
          rw [← first]
          refine ((List.findIdx_eq short).mpr ⟨?_,fun j lt => ?_⟩).symm
          · rw [there]
            have like := List.find?_some last
            simpa using like
          · have other := before j lt
            simpa using other
        subst same
        rw [List.getElem?_eq_getElem short,there] at here
        exact here
    · rfl

-- With keys of their own, the order in which items are added shows only in the places.
theorem find?_upsertEach_perm {other : List α} (perm : other.Perm more) (distinct : (more.map key).Nodup) (k : κ) :
    (upsertEach key spot items other).find? (fun x => key x = k) = (upsertEach key spot items more).find? fun x => key x = k := by
  rw [find?_upsertEach,find?_upsertEach]
  have same : other.reverse.Perm more.reverse := (other.reverse_perm.trans perm).trans more.reverse_perm.symm
  have unique : ∀ {list : List α}, (list.map key).Nodup → ∀ x, list.find? (fun x => key x = k) = some x ↔ x ∈ list ∧ key x = k := by
    intro list nodup x
    constructor
    · intro found
      exact ⟨List.mem_of_find?_eq_some found,by simpa using List.find?_some found⟩
    · rintro ⟨member,own⟩
      cases found : list.find? fun x => key x = k with
      | none => exact absurd own (by simpa using List.find?_eq_none.mp found x member)
      | some y =>
        have own' : key y = k := by simpa using List.find?_some found
        rw [List.inj_on_of_nodup_map nodup (List.mem_of_find?_eq_some found) member (own'.trans own.symm)]
  have there : (more.reverse.map key).Nodup := by rwa [List.map_reverse,List.nodup_reverse]
  have here : (other.reverse.map key).Nodup := (same.map key).nodup_iff.mpr there
  congr 1
  apply Option.ext
  intro x
  rw [unique here,unique there,same.mem_iff]

theorem ext_keys {other : List α} (distinct : (items.map key).Nodup) (keys : items.map key = other.map key)
    (found : ∀ k, items.find? (fun x => key x = k) = other.find? fun x => key x = k) : items = other := by
  induction items generalizing other with
  | nil => exact (List.map_eq_nil_iff.mp keys.symm).symm
  | cons item items ih =>
    cases other with
    | nil => cases keys
    | cons first other =>
      rw [List.map_cons,List.map_cons,List.cons.injEq] at keys
      obtain ⟨head,tail⟩ := keys
      rw [List.map_cons,List.nodup_cons] at distinct
      have same : item = first := by simpa [head] using found (key item)
      subst same
      congr 1
      refine ih distinct.2 tail fun k => ?_
      by_cases own : key item = k
      · subst own
        have apart : ∀ {list : List α}, list.map key = items.map key → list.find? (fun x => key x = key item) = none := by
          intro list keys
          rw [List.find?_eq_none]
          intro x member like
          exact distinct.1 (keys ▸ List.mem_map.mpr ⟨x,member,by simpa using like⟩)
        rw [apart rfl,apart tail.symm]
      · simpa [own] using found k

end

-- Numbers that each go to their own place, or to the end where the list is too short for that.
section Places
variable {numbers done later arrivals : List Nat} {k n size : Nat}

def place (numbers : List Nat) (k : Nat) : List Nat :=
  if k ∈ numbers then numbers else numbers.take k ++ k::numbers.drop k

def placeAll (numbers arrivals : List Nat) : List Nat := arrivals.foldl place numbers

theorem keys_upsert {α : Type} (key : α → Nat) (items : List α) (item : α) :
    (upsert key (fun _ item => key item) items item).map key = place (items.map key) (key item) := by
  unfold place
  split
  · rename_i known
    exact keys_upsert_known _ known
  · rename_i fresh
    rcases upsert_cases key (fun _ item => key item) items item with ⟨before,old,after,whole,same,_,_⟩ | ⟨_,before,after,whole,cut,eq⟩
    · exact absurd (List.mem_map.mpr ⟨old,by simp [whole],same⟩) fresh
    · rw [eq,List.map_append,List.map_cons,← List.map_take,← List.map_drop,← cut]
      have rest : items.drop (key item) = after := by
        have split := List.take_append_drop (key item) items
        rw [← cut] at split
        conv_rhs at split => rw [whole]
        exact List.append_cancel_left split
      rw [rest]

theorem keys_upsertEach {α : Type} (key : α → Nat) (items more : List α) :
    (upsertEach key (fun _ item => key item) items more).map key = placeAll (items.map key) (more.map key) := by
  unfold upsertEach placeAll
  induction more generalizing items with
  | nil => rfl
  | cons item more ih => rw [List.foldl_cons,ih,keys_upsert,List.map_cons,List.foldl_cons]

theorem sublist_place (numbers : List Nat) (k : Nat) : numbers.Sublist (place numbers k) := by
  unfold place
  split
  · exact List.Sublist.refl numbers
  · conv_lhs => rw [← List.take_append_drop k numbers]
    exact (List.Sublist.refl _).append (List.sublist_cons_self ..)

theorem sublist_placeAll (numbers arrivals : List Nat) : numbers.Sublist (placeAll numbers arrivals) := by
  unfold placeAll
  induction arrivals generalizing numbers with
  | nil => exact List.Sublist.refl numbers
  | cons k arrivals ih => exact (sublist_place numbers k).trans (ih (place numbers k))

theorem mem_place {j : Nat} : j ∈ place numbers k ↔ j = k ∨ j ∈ numbers := by
  unfold place
  split
  · rename_i known
    constructor
    · exact .inr
    · rintro (rfl | member)
      · exact known
      · exact member
  · rw [List.mem_append,List.mem_cons]
    conv_rhs => rw [← List.take_append_drop k numbers,List.mem_append]
    tauto

theorem mem_placeAll {j : Nat} : j ∈ placeAll numbers arrivals ↔ j ∈ numbers ∨ j ∈ arrivals := by
  unfold placeAll
  induction arrivals generalizing numbers with
  | nil => simp
  | cons k arrivals ih =>
    rw [List.foldl_cons,ih,mem_place,List.mem_cons]
    tauto

theorem placeAll_append : placeAll numbers (done ++ later) = placeAll (placeAll numbers done) later := List.foldl_append

def Descends (n : Nat) (arrivals : List Nat) : Prop :=
  ∃ high middle low, [high,middle,low].Sublist arrivals ∧ n ≤ low ∧ low < middle ∧ middle < high

theorem sorted_split (sorted : numbers.Pairwise (· < ·)) (k : Nat) :
    ∃ low high, numbers = low ++ high ∧ (∀ x ∈ low, x < k) ∧ ∀ x ∈ high, k ≤ x := by
  induction numbers with
  | nil => exact ⟨[],[],rfl,by simp,by simp⟩
  | cons x numbers ih =>
    obtain ⟨least,rest⟩ := List.pairwise_cons.mp sorted
    by_cases below : x < k
    · obtain ⟨low,high,rfl,below',above⟩ := ih rest
      exact ⟨x::low,high,rfl,List.forall_mem_cons.mpr ⟨below,below'⟩,above⟩
    · refine ⟨[],x::numbers,rfl,by simp,fun y member => ?_⟩
      rcases List.mem_cons.mp member with rfl | after
      · exact Nat.not_lt.mp below
      · exact (Nat.not_lt.mp below).trans (least y after).le

theorem length_le_of_lt (distinct : numbers.Nodup) (below : ∀ x ∈ numbers, x < k) : numbers.length ≤ k := by
  have within := (List.subperm_of_subset distinct fun x member => List.mem_range.mpr (below x member)).length_le
  rwa [List.length_range] at within

theorem mem_of_length {j : Nat} (distinct : numbers.Nodup) (below : ∀ x ∈ numbers, x < k) (full : k ≤ numbers.length) (lt : j < k) :
    j ∈ numbers := by
  have within := List.subperm_of_subset distinct fun x member => List.mem_range.mpr (below x member)
  have same := within.perm_of_length_le (by rwa [List.length_range])
  exact same.mem_iff.mpr (List.mem_range.mpr lt)

theorem place_sorted (sorted : numbers.Pairwise (· < ·)) (room : (∀ j < k, j ∈ numbers) ∨ ∀ x ∈ numbers, x < k) :
    (place numbers k).Pairwise (· < ·) := by
  unfold place
  split
  · exact sorted
  · rename_i fresh
    obtain ⟨low,high,rfl,below,above⟩ := sorted_split sorted k
    have cut : (low ++ high).take k = low ∧ (low ++ high).drop k = high := by
      have short := length_le_of_lt (sorted.sublist (List.sublist_append_left ..)).nodup below
      rcases room with all | none
      · have full : low.length = k := by
          have within : List.range k ⊆ low := by
            intro j member
            have lt := List.mem_range.mp member
            rcases List.mem_append.mp (all j lt) with here | there
            · exact here
            · exact absurd (above j there) (Nat.not_le.mpr lt)
          have many := (List.subperm_of_subset List.nodup_range within).length_le
          rw [List.length_range] at many
          exact short.antisymm many
        rw [← full]
        exact ⟨List.take_left,List.drop_left⟩
      · cases high with
        | nil => rw [List.append_nil]; exact ⟨List.take_of_length_le short,List.drop_of_length_le short⟩
        | cons x rest => exact absurd (none x (by simp)) (by have := above x (by simp); omega)
    rw [cut.1,cut.2]
    obtain ⟨first,second,between⟩ := List.pairwise_append.mp sorted
    refine List.pairwise_append.mpr ⟨first,.cons (fun x member => ?_) second,?_⟩
    · have le := above x member
      exact lt_of_le_of_ne le fun same => fresh (same ▸ List.mem_append_right _ member)
    · intro x here y there
      rcases List.mem_cons.mp there with rfl | later
      · exact below x here
      · exact between x here y later

theorem placeAll_sorted (fills : ∀ j, j < size ↔ j < n ∨ j ∈ arrivals) (calm : ¬Descends n arrivals) :
    (placeAll (List.range n) arrivals).Pairwise (· < ·) := by
  have run : ∀ later done, done ++ later = arrivals → (placeAll (List.range n) done).Pairwise (· < ·) →
      (placeAll (List.range n) (done ++ later)).Pairwise (· < ·) := by
    intro later
    induction later with
    | nil => simp
    | cons k later ih =>
      intro done whole sorted
      have step : (placeAll (List.range n) (done ++ [k])).Pairwise (· < ·) := by
        rw [placeAll_append]
        by_cases known : k ∈ placeAll (List.range n) done
        · change (place _ k).Pairwise _
          rwa [place,if_pos known]
        refine place_sorted sorted ?_
        by_contra! stuck
        obtain ⟨⟨low,below,absent⟩,high,present,reaches⟩ := stuck
        have above : k < high := lt_of_le_of_ne reaches fun same => known (same ▸ present)
        rw [mem_placeAll,List.mem_range] at absent present
        obtain ⟨new,missing⟩ := not_or.mp absent
        have listed : k ∈ arrivals := whole ▸ List.mem_append_right _ List.mem_cons_self
        have come : high ∈ done := present.resolve_left (by omega)
        have coming : low ∈ later := by
          have within : low < size := below.trans ((fills k).mpr (.inr listed))
          have expected := ((fills low).mp within).resolve_left new
          rw [← whole,List.mem_append,List.mem_cons] at expected
          exact (expected.resolve_left missing).resolve_left (Nat.ne_of_lt below)
        refine calm ⟨high,k,low,?_,Nat.not_lt.mp new,below,above⟩
        rw [← whole]
        exact (List.singleton_sublist.mpr come).append ((List.singleton_sublist.mpr coming).cons_cons k)
      rw [← List.singleton_append,← List.append_assoc] at whole ⊢
      exact ih _ whole step
  have start : (placeAll (List.range n) []).Pairwise (· < ·) := List.pairwise_lt_range
  simpa using run arrivals [] rfl start

theorem not_descends_of_sorted (distinct : arrivals.Nodup) (sorted : (placeAll (List.range n) arrivals).Pairwise (· < ·)) :
    ¬Descends n arrivals := by
  rintro ⟨high,middle,low,triple,new,below,above⟩
  obtain ⟨first,rest,rfl,here,pair⟩ := List.cons_sublist_iff.mp triple
  obtain ⟨second,last,rfl,there,end'⟩ := List.cons_sublist_iff.mp pair
  obtain ⟨before,after,rfl⟩ := List.append_of_mem there
  have apart : low ∉ first ++ before ∧ middle ∉ first ++ before := by
    have low' := List.singleton_sublist.mp end'
    rw [← List.append_assoc,← List.append_assoc] at distinct
    obtain ⟨one,_,between⟩ := List.nodup_append.mp distinct
    refine ⟨fun early => between low (List.mem_append_left _ early) low low' rfl,fun early => ?_⟩
    exact (List.nodup_append.mp one).2.2 middle early middle List.mem_cons_self rfl
  rw [← List.append_assoc,← List.append_assoc,placeAll_append,placeAll_append] at sorted
  have landed : (place (placeAll (List.range n) (first ++ before)) middle).Pairwise (· < ·) := by
    refine sorted.sublist (List.Sublist.trans ?_ (sublist_placeAll _ _))
    exact sublist_placeAll (place _ middle) after
  have fresh : middle ∉ placeAll (List.range n) (first ++ before) := by
    rw [mem_placeAll,List.mem_range]
    exact not_or.mpr ⟨by omega,apart.2⟩
  have missing : low ∉ placeAll (List.range n) (first ++ before) := by
    rw [mem_placeAll,List.mem_range]
    exact not_or.mpr ⟨by omega,apart.1⟩
  have present : high ∈ placeAll (List.range n) (first ++ before) := mem_placeAll.mpr (.inr (List.mem_append_left _ here))
  generalize placeAll (List.range n) (first ++ before) = numbers at landed fresh missing present
  rw [place,if_neg fresh] at landed
  obtain ⟨left,_,between⟩ := List.pairwise_append.mp landed
  have small : ∀ x ∈ numbers.take middle, x < middle := fun x member => between x member middle List.mem_cons_self
  -- The highest is behind the middle one, so as many stand before that as there are numbers below it.
  have full : middle ≤ (numbers.take middle).length := by
    rw [List.length_take]
    refine Nat.le_min.mpr ⟨le_rfl,?_⟩
    by_contra short
    rw [List.take_of_length_le (by omega)] at small
    exact absurd (small high present) (by omega)
  have distinct' : (numbers.take middle).Nodup := left.imp fun lt => Nat.ne_of_lt lt
  exact missing (List.mem_of_mem_take (mem_of_length distinct' small full below))

theorem eq_range_of_sorted (sorted : numbers.Pairwise (· < ·)) (members : ∀ j, j ∈ numbers ↔ j < size) : numbers = List.range size := by
  have perm : numbers.Perm (List.range size) :=
    (List.perm_ext_iff_of_nodup (sorted.imp fun lt => Nat.ne_of_lt lt) List.nodup_range).mpr fun j => by rw [members,List.mem_range]
  exact perm.eq_of_pairwise (fun a b _ _ lt lt' => absurd lt (Nat.lt_asymm lt')) sorted List.pairwise_lt_range

-- Arrivals that fill a stretch end up in order just if no three of the new ones come from the highest to the lowest.
theorem placeAll_eq_range_iff (fills : ∀ j, j < size ↔ j < n ∨ j ∈ arrivals) (distinct : arrivals.Nodup) :
    placeAll (List.range n) arrivals = List.range size ↔ ¬Descends n arrivals := by
  constructor
  · intro ordered
    exact not_descends_of_sorted distinct (ordered ▸ List.pairwise_lt_range)
  · intro calm
    refine eq_range_of_sorted (placeAll_sorted fills calm) fun j => ?_
    rw [mem_placeAll,List.mem_range,fills]

end Places
end Lucida.Lib
