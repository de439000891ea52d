import Lucida.Lib.HashMap

namespace Lucida.Lib.Sharing
variable {α : Type}

section
variable (eqv : α → α → Bool) (hash : α → UInt64)

def firstAppearances : List α → List α
  | [] => []
  | item::rest => item::(firstAppearances rest).filter fun other => !eqv item other

structure Groups (α : Type) where
  distinct : List (α × Nat)
  byHash : HashMap UInt64 (List Nat)
  membership : List Nat

def turn (groups : Groups α) (item : α) : Groups α :=
  let bucket := (groups.byHash.lookup (hash item)).getD []
  match bucket.find? fun index => (groups.distinct[index]?).any fun entry => eqv entry.1 item with
  | some index => ⟨groups.distinct.modify index fun entry => (entry.1,entry.2+1),groups.byHash,groups.membership ++ [index]⟩
  | none => ⟨groups.distinct ++ [(item,1)],groups.byHash.insert (hash item) (bucket ++ [groups.distinct.length]),
      groups.membership ++ [groups.distinct.length]⟩

def group (items : List α) : Groups α := items.foldl (turn eqv hash) ⟨[],∅,[]⟩

end

def tableOf (distinct : List (α × Nat)) : List α := (distinct.filter fun entry => 2 ≤ entry.2).map Prod.fst

-- The places in the table, which is that long already. A place is a 32-bit word.
def placesFrom : Nat → List (α × Nat) → List (Option Nat)
  | _,[] => []
  | len,entry::rest => if 2 ≤ entry.2 then some (len % 2^32)::placesFrom (len+1) rest else none::placesFrom len rest

section
variable (eqv : α → α → Bool) (hash : α → UInt64)

def table (items : List α) : List α := tableOf (group eqv hash items).distinct

def references (items : List α) : List (Option Nat) :=
  let groups := group eqv hash items
  groups.membership.map fun index => ((placesFrom 0 groups.distinct)[index]?).join

end

section Laws
variable {eqv : α → α → Bool} {hash : α → UInt64} {items rest : List α}

-- Likeness that the hash respects, and that each of the items has with itself.
structure Lawful (eqv : α → α → Bool) (hash : α → UInt64) (items : List α) : Prop where
  self : ∀ item ∈ items, eqv item item
  symm : ∀ x y, eqv x y → eqv y x
  trans : ∀ x y z, eqv x y → eqv y z → eqv x z
  hashed : ∀ x y, eqv x y → hash x = hash y

theorem mem_of_first (first : x ∈ firstAppearances eqv items) : x ∈ items := by
  induction items with
  | nil => cases first
  | cons item items ih =>
    rcases List.mem_cons.mp first with rfl | later
    · exact List.mem_cons_self
    · exact List.mem_cons_of_mem _ (ih (List.mem_of_mem_filter later))

theorem firsts_sublist (eqv : α → α → Bool) (items : List α) : (firstAppearances eqv items).Sublist items := by
  induction items with
  | nil => exact .slnil
  | cons item items ih => exact (List.filter_sublist.trans ih).cons_cons item

theorem exists_first (lawful : Lawful eqv hash items) (member : x ∈ items) : ∃ first ∈ firstAppearances eqv items, eqv first x := by
  induction items with
  | nil => cases member
  | cons item items ih =>
    have later : Lawful eqv hash items :=
      ⟨fun other there => lawful.self other (List.mem_cons_of_mem _ there),lawful.symm,lawful.trans,lawful.hashed⟩
    by_cases like : eqv item x
    · exact ⟨item,List.mem_cons_self,like⟩
    · rcases List.mem_cons.mp member with rfl | there
      · exact absurd (lawful.self x List.mem_cons_self) like
      · obtain ⟨first,found,alike⟩ := ih later there
        refine ⟨first,List.mem_cons_of_mem _ (List.mem_filter.mpr ⟨found,?_⟩),alike⟩
        rw [Bool.not_eq_true']
        exact Bool.eq_false_iff.mpr fun same => like (lawful.trans item first x same alike)

theorem firsts_apart (eqv : α → α → Bool) (items : List α) : (firstAppearances eqv items).Pairwise fun x y => eqv x y = false := by
  induction items with
  | nil => exact .nil
  | cons item items ih =>
    refine .cons ?_ (ih.filter _)
    intro other there
    simpa using (List.mem_filter.mp there).2

theorem firsts_append (eqv : α → α → Bool) (items : List α) (y : α) : firstAppearances eqv (items ++ [y]) =
    if items.any (eqv · y) then firstAppearances eqv items else firstAppearances eqv items ++ [y] := by
  induction items with
  | nil => rfl
  | cons item items ih =>
    rw [List.cons_append,firstAppearances,ih,List.any_cons]
    by_cases later : items.any (eqv · y)
    · rw [if_pos later,if_pos (by rw [later,Bool.or_true]),firstAppearances]
    · rw [if_neg later,List.filter_append]
      by_cases like : eqv item y
      · rw [like,Bool.true_or,if_pos rfl,firstAppearances]
        simp [like]
      · rw [if_neg (by simp [like,later]),firstAppearances]
        simp [like]

structure Grouped (eqv : α → α → Bool) (hash : α → UInt64) (items : List α) (groups : Groups α) : Prop where
  distinct : groups.distinct = (firstAppearances eqv items).map fun x => (x,items.countP (eqv x))
  buckets : ∀ h index, index ∈ (groups.byHash.lookup h).getD [] ↔
    ∃ x, (firstAppearances eqv items)[index]? = some x ∧ hash x = h
  membership : groups.membership = items.map fun x => (firstAppearances eqv items).findIdx (eqv · x)

theorem grouped_nil : Grouped eqv hash [] ⟨[],∅,[]⟩ where
  distinct := rfl
  buckets h index := by simp [firstAppearances]
  membership := rfl

theorem first_unique {i j : Nat} (lawful : Lawful eqv hash all) (here : (firstAppearances eqv items)[i]? = some x)
    (there : (firstAppearances eqv items)[j]? = some x') (like : eqv x y) (like' : eqv x' y) : i = j := by
  have apart := List.pairwise_iff_getElem.mp (firsts_apart eqv items)
  obtain ⟨short,rfl⟩ := List.getElem?_eq_some_iff.mp here
  obtain ⟨short',rfl⟩ := List.getElem?_eq_some_iff.mp there
  have alike := lawful.trans _ _ _ like (lawful.symm _ _ like')
  rcases Nat.lt_trichotomy i j with before | same | after
  · exact absurd alike (by simp [apart i j short short' before])
  · exact same
  · exact absurd (lawful.symm _ _ alike) (by simp [apart j i short' short after])

theorem findIdx_first {i : Nat} (lawful : Lawful eqv hash all) (here : (firstAppearances eqv items)[i]? = some x) (like : eqv x y) :
    (firstAppearances eqv items).findIdx (eqv · y) = i := by
  obtain ⟨short,value⟩ := List.getElem?_eq_some_iff.mp here
  refine (List.findIdx_eq short).mpr ⟨by rw [value]; exact like,?_⟩
  intro j before
  refine Bool.eq_false_iff.mpr fun like' => ?_
  exact Nat.ne_of_lt before (first_unique lawful (List.getElem?_eq_getElem _) here like' like)

theorem countP_append_one (x : α) (items : List α) (y : α) :
    (items ++ [y]).countP (eqv x) = items.countP (eqv x)+if eqv x y then 1 else 0 := by
  rw [List.countP_append,List.countP_singleton]

section Turn
variable {groups : Groups α} {y : α}

theorem turn_known {index : Nat} (lawful : Lawful eqv hash all) (grouped : Grouped eqv hash items groups)
    (here : (firstAppearances eqv items)[index]? = some x) (like : eqv x y) :
    Grouped eqv hash (items ++ [y])
      ⟨groups.distinct.modify index fun entry => (entry.1,entry.2+1),groups.byHash,groups.membership ++ [index]⟩ := by
  have seen : items.any (eqv · y) :=
    List.any_eq_true.mpr ⟨x,mem_of_first (List.mem_of_getElem? here),like⟩
  have same : firstAppearances eqv (items ++ [y]) = firstAppearances eqv items := by rw [firsts_append,if_pos seen]
  refine ⟨?_,?_,?_⟩
  · rw [same,grouped.distinct]
    apply List.ext_getElem?
    intro j
    rw [List.getElem?_modify,List.getElem?_map,List.getElem?_map]
    cases there : (firstAppearances eqv items)[j]? with
    | none => rfl
    | some x' =>
      simp only [Option.map_some]
      rw [countP_append_one]
      by_cases hit : index = j
      · subst hit
        cases here.symm.trans there
        simp [like]
      · have unlike : eqv x' y = false := Bool.eq_false_iff.mpr fun like' => hit (first_unique lawful here there like like')
        simp [hit,unlike]
  · intro h other
    rw [same]
    exact grouped.buckets h other
  · rw [same,grouped.membership,List.map_append,List.map_singleton,findIdx_first lawful here like]

theorem turn_new (lawful : Lawful eqv hash all) (within : ∀ item ∈ items ++ [y], item ∈ all) (grouped : Grouped eqv hash items groups)
    (unlike : ∀ x ∈ firstAppearances eqv items, eqv x y = false) :
    Grouped eqv hash (items ++ [y]) ⟨groups.distinct ++ [(y,1)],
      groups.byHash.insert (hash y) ((groups.byHash.lookup (hash y)).getD [] ++ [groups.distinct.length]),
      groups.membership ++ [groups.distinct.length]⟩ := by
  have lawful' : Lawful eqv hash items :=
    ⟨fun item member => lawful.self item (within item (List.mem_append_left _ member)),lawful.symm,lawful.trans,lawful.hashed⟩
  have apart : ∀ x ∈ items, eqv x y = false := by
    intro x member
    obtain ⟨first,found,like⟩ := exists_first lawful' member
    refine Bool.eq_false_iff.mpr fun same => ?_
    exact absurd (lawful.trans first x y like same) (by simp [unlike first found])
  have fresh : firstAppearances eqv (items ++ [y]) = firstAppearances eqv items ++ [y] := by
    rw [firsts_append,if_neg]
    simpa using fun x member => apart x member
  have self : eqv y y := lawful.self y (within y (List.mem_append_right _ List.mem_cons_self))
  have length : groups.distinct.length = (firstAppearances eqv items).length := by rw [grouped.distinct,List.length_map]
  refine ⟨?_,?_,?_⟩
  · dsimp only
    rw [fresh,grouped.distinct,List.map_append,List.map_singleton]
    have none : items.countP (eqv y) = 0 := by
      rw [List.countP_eq_zero]
      intro x member same
      exact absurd (lawful.symm y x same) (by simp [apart x member])
    congr 1
    · refine List.map_congr_left fun x member => ?_
      rw [countP_append_one,unlike x member]
      rfl
    · rw [countP_append_one,none,self]
      rfl
  · intro h index
    dsimp only
    rw [fresh,HashMap.lookup_insert_if,length]
    have old := grouped.buckets
    by_cases same : h = hash y
    · subst same
      rw [if_pos rfl,Option.getD_some,List.mem_append,old,List.mem_singleton]
      constructor
      · rintro (⟨x,found,hashed⟩ | rfl)
        · exact ⟨x,by rw [List.getElem?_append_left (List.getElem?_eq_some_iff.mp found).1]; exact found,hashed⟩
        · exact ⟨y,by simp,rfl⟩
      · rintro ⟨x,found,hashed⟩
        by_cases short : index < (firstAppearances eqv items).length
        · rw [List.getElem?_append_left short] at found
          exact .inl ⟨x,found,hashed⟩
        · have last := (List.getElem?_eq_some_iff.mp found).1
          rw [List.length_append,List.length_singleton] at last
          exact .inr (by omega)
    · rw [if_neg same,old]
      constructor
      · rintro ⟨x,found,hashed⟩
        exact ⟨x,by rw [List.getElem?_append_left (List.getElem?_eq_some_iff.mp found).1]; exact found,hashed⟩
      · rintro ⟨x,found,hashed⟩
        by_cases short : index < (firstAppearances eqv items).length
        · rw [List.getElem?_append_left short] at found
          exact ⟨x,found,hashed⟩
        · rw [List.getElem?_append_right (Nat.le_of_not_lt short)] at found
          have value := List.mem_singleton.mp (List.mem_of_getElem? found)
          exact absurd (hashed.symm.trans (congrArg hash value)) same
  · dsimp only
    rw [fresh,grouped.membership,List.map_append,List.map_singleton]
    congr 1
    · refine List.map_congr_left fun x member => ?_
      obtain ⟨first,found,like⟩ := exists_first lawful' member
      rw [List.findIdx_append,if_pos (List.findIdx_lt_length_of_exists ⟨first,found,like⟩)]
    · have missed : (firstAppearances eqv items).findIdx (eqv · y) = (firstAppearances eqv items).length :=
        List.findIdx_eq_length.mpr unlike
      rw [List.findIdx_append,missed,if_neg (Nat.lt_irrefl _),List.findIdx_singleton,self,length]
      simp

theorem turn_grouped (lawful : Lawful eqv hash all) (within : ∀ item ∈ items ++ [y], item ∈ all)
    (grouped : Grouped eqv hash items groups) : Grouped eqv hash (items ++ [y]) (turn eqv hash groups y) := by
  have entries : ∀ index : Nat, groups.distinct[index]? =
      ((firstAppearances eqv items)[index]?).map fun x => (x,items.countP (eqv x)) := by
    intro index
    rw [grouped.distinct,List.getElem?_map]
  unfold turn
  dsimp only
  split
  · rename_i index found
    have hit := List.find?_some found
    rw [entries] at hit
    obtain ⟨x,here,_⟩ := (grouped.buckets _ _).mp (List.mem_of_find?_eq_some found)
    rw [here] at hit
    exact turn_known lawful grouped here hit
  · rename_i missed
    refine turn_new lawful within grouped ?_
    intro x member
    obtain ⟨index,here⟩ := List.mem_iff_getElem?.mp member
    refine Bool.eq_false_iff.mpr fun like => ?_
    -- The hash respects the likeness, so the item would be in the bucket.
    have bucket := (grouped.buckets (hash y) index).mpr ⟨x,here,lawful.hashed x y like⟩
    have passed := List.find?_eq_none.mp missed index bucket
    rw [entries,here] at passed
    exact passed like

end Turn

theorem group_grouped (lawful : Lawful eqv hash items) : Grouped eqv hash items (group eqv hash items) := by
  have run : ∀ later done groups, done ++ later = items → Grouped eqv hash done groups →
      Grouped eqv hash items (later.foldl (turn eqv hash) groups) := by
    intro later
    induction later with
    | nil =>
      intro done groups whole grouped
      rw [List.append_nil] at whole
      exact whole ▸ grouped
    | cons y later ih =>
      intro done groups whole grouped
      refine ih (done ++ [y]) _ (by rw [List.append_assoc]; exact whole) (turn_grouped lawful ?_ grouped)
      intro item member
      rw [← whole]
      rcases List.mem_append.mp member with before | here
      · exact List.mem_append_left _ before
      · exact List.mem_append_right _ (List.mem_cons.mpr (.inl (List.mem_singleton.mp here)))
  exact run items [] _ rfl grouped_nil

theorem placesFrom_at {entries : List (α × Nat)} {index : Nat} (here : entries[index]? = some entry) (len : Nat) :
    (placesFrom len entries)[index]? =
      some (if 2 ≤ entry.2 then some ((len+(tableOf (entries.take index)).length) % 2^32) else none) := by
  induction entries generalizing index len with
  | nil => cases here
  | cons first entries ih =>
    cases index with
    | zero =>
      cases here
      rw [placesFrom,List.take_zero]
      split <;> rfl
    | succ index =>
      have later : entries[index]? = some entry := here
      rw [placesFrom,List.take_succ_cons]
      by_cases often : 2 ≤ first.2
      · have one : (tableOf (first::entries.take index)).length = (tableOf (entries.take index)).length+1 := by
          rw [tableOf,List.filter_cons_of_pos (by simpa using often)]
          rfl
        rw [if_pos often,List.getElem?_cons_succ,ih later,one,Nat.add_right_comm,Nat.add_assoc]
      · have same : tableOf (first::entries.take index) = tableOf (entries.take index) := by
          rw [tableOf,List.filter_cons_of_neg (by simpa using often)]
          rfl
        rw [if_neg often,List.getElem?_cons_succ,ih later,same]

theorem tableOf_at {entries : List (α × Nat)} {index : Nat} (here : entries[index]? = some entry) (often : 2 ≤ entry.2) :
    (tableOf entries)[(tableOf (entries.take index)).length]? = some entry.1 := by
  obtain ⟨short,value⟩ := List.getElem?_eq_some_iff.mp here
  have cut : entries = entries.take index ++ entry::entries.drop (index+1) := by
    rw [← value,List.cons_getElem_drop_succ,List.take_append_drop]
  have whole : tableOf entries = tableOf (entries.take index) ++ entry.1::tableOf (entries.drop (index+1)) := by
    conv_lhs => rw [cut]
    rw [tableOf,List.filter_append,List.filter_cons_of_pos (by simpa using often),List.map_append]
    rfl
  rw [whole]
  simp

theorem table_eq (lawful : Lawful eqv hash items) :
    table eqv hash items = (firstAppearances eqv items).filter fun x => 2 ≤ items.countP (eqv x) := by
  rw [table,(group_grouped lawful).distinct,tableOf,List.filter_map,List.map_map]
  exact List.map_id _

theorem length_table_le (lawful : Lawful eqv hash items) : (table eqv hash items).length ≤ items.countP fun x => 2 ≤ items.countP (eqv x) := by
  rw [table_eq lawful,List.countP_eq_length_filter]
  exact ((firsts_sublist eqv items).filter _).length_le

theorem countP_like (lawful : Lawful eqv hash items) (like : eqv x y) : items.countP (eqv x) = items.countP (eqv y) := by
  refine List.countP_congr fun z _ => ⟨fun same => ?_,fun same => ?_⟩
  · exact lawful.trans y x z (lawful.symm x y like) same
  · exact lawful.trans x y z like same

def placeOf (eqv : α → α → Bool) (hash : α → UInt64) (items : List α) (x : α) : Option Nat :=
  ((placesFrom 0 (group eqv hash items).distinct)[(firstAppearances eqv items).findIdx (eqv · x)]?).join

theorem references_eq (lawful : Lawful eqv hash items) : references eqv hash items = items.map (placeOf eqv hash items) := by
  unfold references
  dsimp only
  rw [(group_grouped lawful).membership,List.map_map]
  rfl

def firstLike (eqv : α → α → Bool) (items : List α) (x : α) : α := ((firstAppearances eqv items).find? (eqv · x)).getD x

theorem firstLike_eq (lawful : Lawful eqv hash all) (first : y ∈ firstAppearances eqv items) (like : eqv y x) :
    firstLike eqv items x = y := by
  unfold firstLike
  cases found : (firstAppearances eqv items).find? (eqv · x) with
  | none => exact absurd like (List.find?_eq_none.mp found y first)
  | some other =>
    have hit := List.find?_some found
    obtain ⟨i,here⟩ := List.mem_iff_getElem?.mp first
    obtain ⟨j,there⟩ := List.mem_iff_getElem?.mp (List.mem_of_find?_eq_some found)
    have same := first_unique lawful here there like hit
    subst same
    exact Option.some.inj (there.symm.trans here)

theorem firstLike_like (lawful : Lawful eqv hash items) (member : x ∈ items) :
    firstLike eqv items x ∈ firstAppearances eqv items ∧ eqv (firstLike eqv items x) x := by
  obtain ⟨first,found,like⟩ := exists_first lawful member
  rw [firstLike_eq lawful found like]
  exact ⟨found,like⟩

theorem firstLike_alone (lawful : Lawful eqv hash items) (member : x ∈ items) (alone : items.countP (eqv x) < 2) :
    firstLike eqv items x = x := by
  obtain ⟨first,like⟩ := firstLike_like lawful member
  have one : (items.filter (eqv x)).length < 2 := by rwa [← List.countP_eq_length_filter]
  have mine : x ∈ items.filter (eqv x) := List.mem_filter.mpr ⟨member,lawful.self x member⟩
  have theirs : firstLike eqv items x ∈ items.filter (eqv x) :=
    List.mem_filter.mpr ⟨mem_of_first first,lawful.symm _ _ like⟩
  match only : items.filter (eqv x) with
  | [] =>
    rw [only] at mine
    cases mine
  | [item] =>
    rw [only] at mine theirs
    exact (List.mem_singleton.mp theirs).trans (List.mem_singleton.mp mine).symm
  | _::_::_ =>
    rw [only] at one
    exact absurd one (by simp)

-- An item that is alone has no reference; any other has the place of the first like it.
theorem placeOf_cases (lawful : Lawful eqv hash items) (member : x ∈ items) :
    items.countP (eqv x) < 2 ∧ placeOf eqv hash items x = none ∨
    2 ≤ items.countP (eqv x) ∧ ∃ place, (table eqv hash items)[place]? = some (firstLike eqv items x) ∧
      placeOf eqv hash items x = some (place % 2^32) := by
  obtain ⟨found,like⟩ := firstLike_like lawful member
  obtain ⟨index,here⟩ := List.mem_iff_getElem?.mp found
  have entry : (group eqv hash items).distinct[index]? =
      some (firstLike eqv items x,items.countP (eqv (firstLike eqv items x))) := by
    rw [(group_grouped lawful).distinct,List.getElem?_map,here]
    rfl
  rw [countP_like lawful like] at entry
  have place : placeOf eqv hash items x = if 2 ≤ items.countP (eqv x) then
      some ((0+(tableOf ((group eqv hash items).distinct.take index)).length) % 2^32) else none := by
    rw [placeOf,findIdx_first lawful here like,placesFrom_at entry]
    rfl
  rw [Nat.zero_add] at place
  by_cases often : 2 ≤ items.countP (eqv x)
  · exact .inr ⟨often,_,tableOf_at entry often,by rw [place,if_pos often]⟩
  · exact .inl ⟨by omega,by rw [place,if_neg often]⟩

section Renamed
variable {f : α → α} (agree : ∀ x ∈ items, ∀ y ∈ items, eqv (f x) (f y) = eqv x y)
include agree

theorem firsts_map : firstAppearances eqv (items.map f) = (firstAppearances eqv items).map f := by
  induction items with
  | nil => rfl
  | cons item items ih =>
    rw [List.map_cons,firstAppearances,firstAppearances,List.map_cons,
      ih fun x here y there => agree x (List.mem_cons_of_mem _ here) y (List.mem_cons_of_mem _ there),List.filter_map]
    congr 2
    refine List.filter_congr fun other first => ?_
    rw [Function.comp_apply,agree item List.mem_cons_self other (List.mem_cons_of_mem _ (mem_of_first first))]

theorem countP_map_like (member : x ∈ items) : (items.map f).countP (eqv (f x)) = items.countP (eqv x) := by
  rw [List.countP_map]
  refine List.countP_congr fun y there => ?_
  rw [Function.comp_apply,agree x member y there]

theorem map_lawful (lawful : Lawful eqv hash items) : Lawful eqv hash (items.map f) := by
  refine ⟨?_,lawful.symm,lawful.trans,lawful.hashed⟩
  intro item member
  obtain ⟨x,here,rfl⟩ := List.mem_map.mp member
  rw [agree x here x here]
  exact lawful.self x here

theorem distinct_map (lawful : Lawful eqv hash items) :
    (group eqv hash (items.map f)).distinct = (group eqv hash items).distinct.map fun entry => (f entry.1,entry.2) := by
  rw [(group_grouped (map_lawful agree lawful)).distinct,(group_grouped lawful).distinct,firsts_map agree,List.map_map,List.map_map]
  refine List.map_congr_left fun x first => ?_
  rw [Function.comp_apply,Function.comp_apply,countP_map_like agree (mem_of_first first)]

theorem table_map (lawful : Lawful eqv hash items) : table eqv hash (items.map f) = (table eqv hash items).map f := by
  rw [table,table,distinct_map agree lawful,tableOf,tableOf,List.filter_map,List.map_map,List.map_map]
  rfl

omit agree in
theorem placesFrom_map (f : α → α) (len : Nat) (entries : List (α × Nat)) :
    placesFrom len (entries.map fun entry => (f entry.1,entry.2)) = placesFrom len entries := by
  induction entries generalizing len with
  | nil => rfl
  | cons entry entries ih => rw [List.map_cons,placesFrom,placesFrom,ih,ih]

theorem references_map (lawful : Lawful eqv hash items) : references eqv hash (items.map f) = references eqv hash items := by
  rw [references_eq lawful,references_eq (map_lawful agree lawful),List.map_map]
  refine List.map_congr_left fun x member => ?_
  rw [Function.comp_apply,placeOf,placeOf,distinct_map agree lawful,placesFrom_map]
  -- The first that is like the item is where it was.
  obtain ⟨found,like⟩ := firstLike_like lawful member
  obtain ⟨index,here⟩ := List.mem_iff_getElem?.mp found
  have mapped : (firstAppearances eqv (items.map f))[index]? = some (f (firstLike eqv items x)) := by
    rw [firsts_map agree,List.getElem?_map,here]
    rfl
  have like' : eqv (f (firstLike eqv items x)) (f x) := by
    rw [agree _ (mem_of_first found) x member]
    exact like
  rw [findIdx_first (map_lawful agree lawful) mapped like',findIdx_first lawful here like]

end Renamed

theorem firstLike_agree (lawful : Lawful eqv hash items) :
    ∀ x ∈ items, ∀ y ∈ items, eqv (firstLike eqv items x) (firstLike eqv items y) = eqv x y := by
  intro x here y there
  have like := (firstLike_like lawful here).2
  have like' := (firstLike_like lawful there).2
  rw [Bool.eq_iff_iff]
  constructor
  · intro same
    exact lawful.trans x _ y (lawful.symm _ x like) (lawful.trans _ _ y same like')
  · intro same
    exact lawful.trans _ x _ like (lawful.trans x y _ same (lawful.symm _ y like'))

theorem table_firstLike (lawful : Lawful eqv hash items) :
    table eqv hash (items.map (firstLike eqv items)) = table eqv hash items := by
  rw [table_map (firstLike_agree lawful) lawful]
  conv_rhs => rw [← List.map_id (table eqv hash items)]
  refine List.map_congr_left fun x member => ?_
  rw [table_eq lawful] at member
  have first := List.mem_of_mem_filter member
  exact firstLike_eq lawful first (lawful.self x (mem_of_first first))

theorem references_firstLike (lawful : Lawful eqv hash items) :
    references eqv hash (items.map (firstLike eqv items)) = references eqv hash items :=
  references_map (firstLike_agree lawful) lawful

end Laws

theorem firsts_in_order [DecidableEq α] {eqv : α → α → Bool} (same : ∀ x y, eqv x y = true ↔ x = y) (items : List α) :
    (firstAppearances eqv items).Pairwise fun x y => items.idxOf x < items.idxOf y := by
  induction items with
  | nil => exact .nil
  | cons item items ih =>
    have later : ∀ other ∈ (firstAppearances eqv items).filter fun other => !eqv item other,
        (item::items).idxOf other = items.idxOf other+1 := by
      intro other member
      have apart : ¬eqv item other = true := by simpa using (List.mem_filter.mp member).2
      exact List.idxOf_cons_ne _ fun equal => apart ((same item other).mpr equal)
    refine .cons ?_ ((ih.filter _).imp_of_mem fun first second before => ?_)
    · intro other member
      rw [later other member,List.idxOf_cons_self]
      exact Nat.succ_pos _
    · rw [later _ first,later _ second]
      exact Nat.succ_lt_succ before

end Lucida.Lib.Sharing
