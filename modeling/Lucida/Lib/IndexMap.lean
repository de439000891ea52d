import Mathlib.Data.List.Nodup
import Mathlib.Data.List.Perm.Basic
import Mathlib.Algebra.BigOperators.Group.List.Basic
import Mathlib.Algebra.GroupWithZero.Nat

namespace Lucida.Lib

-- A finite map with unique keys that remembers insertion order: replacing a
-- value keeps its place, a new key goes last, a removal keeps the rest in order.
structure IndexMap (K V : Type) where
  entries : List (K × V)
  nodup : (entries.map Prod.fst).Nodup

namespace IndexMap
variable {K V : Type}

theorem ext_entries {m m' : IndexMap K V} (same : m.entries = m'.entries) : m = m' := by
  cases m; cases m'; cases same; rfl

instance [DecidableEq K] [DecidableEq V] : DecidableEq (IndexMap K V) := fun m m' =>
  decidable_of_iff (m.entries = m'.entries) ⟨ext_entries,fun equal => equal ▸ rfl⟩

instance [Repr K] [Repr V] : Repr (IndexMap K V) := ⟨fun m => reprPrec m.entries⟩

def empty : IndexMap K V := ⟨[],by simp⟩

def keys (m : IndexMap K V) : List K := m.entries.map Prod.fst

def values (m : IndexMap K V) : List V := m.entries.map Prod.snd

def mapEntries (m : IndexMap K V) (f : K → V → V) : IndexMap K V :=
  ⟨m.entries.map fun e => (e.1,f e.1 e.2),by simpa [Function.comp_def] using m.nodup⟩

def mapValues {W : Type} (m : IndexMap K V) (f : V → W) : IndexMap K W :=
  ⟨m.entries.map fun e => (e.1,f e.2),by simpa [Function.comp_def] using m.nodup⟩

def retain (m : IndexMap K V) (p : K → V → Bool) : IndexMap K V :=
  ⟨m.entries.filter fun e => p e.1 e.2,m.nodup.sublist (List.filter_sublist.map _)⟩

variable [DecidableEq K]

def get? (m : IndexMap K V) (k : K) : Option V :=
  (m.entries.find? fun e => e.1 = k).map Prod.snd

def contains (m : IndexMap K V) (k : K) : Bool := (m.get? k).isSome

def modify (m : IndexMap K V) (k : K) (f : V → V) : IndexMap K V :=
  m.mapEntries fun k' v => if k' = k then f v else v

theorem get?_eq_none_iff {m : IndexMap K V} : m.get? k = none ↔ k ∉ m.keys := by
  simp only [get?,keys,Option.map_eq_none_iff,List.find?_eq_none,decide_eq_true_eq,List.mem_map,
    Prod.exists,exists_and_right,exists_eq_right,Prod.forall]
  grind

def insert (m : IndexMap K V) (k : K) (v : V) : IndexMap K V :=
  if absent : m.get? k = none then
    ⟨m.entries ++ [(k,v)],by
      have fresh := get?_eq_none_iff.mp absent
      simp only [List.map_append,List.map_cons,List.map_nil]
      exact List.nodup_append.mpr ⟨m.nodup,by simp,by
        intro x member y single
        cases List.mem_singleton.mp single
        exact fun equal => fresh (equal ▸ member)⟩⟩
  else m.modify k fun _ => v

def erase (m : IndexMap K V) (k : K) : IndexMap K V := m.retain fun k' _ => k' ≠ k

-- The entry API: look up, compute the new value from what is there, store it.
def upsert (m : IndexMap K V) (k : K) (f : Option V → V) : IndexMap K V := m.insert k (f (m.get? k))

def ofList (entries : List (K × V)) : IndexMap K V :=
  entries.foldl (fun m e => m.insert e.1 e.2) empty

-- The entries under new keys, collected again: a key that is `none` is dropped.
def rekey (m : IndexMap K V) (fate : K → Option K) (onKept : K → V → V) : IndexMap K V :=
  ofList (m.entries.filterMap fun e => (fate e.1).map fun k => (k,onKept k e.2))

theorem mem_entries_iff {m : IndexMap K V} : (k,v) ∈ m.entries ↔ m.get? k = some v := by
  constructor
  · intro member
    cases found : m.get? k with
    | none => exact absurd (List.mem_map.mpr ⟨_,member,rfl⟩) (get?_eq_none_iff.mp found)
    | some w =>
      obtain ⟨e,hit,rfl⟩ := Option.map_eq_some_iff.mp found
      have same : e.1 = k := by simpa using List.find?_some hit
      have equal := List.inj_on_of_nodup_map m.nodup (List.mem_of_find?_eq_some hit) member same
      rw [equal]
  · intro found
    obtain ⟨e,hit,rfl⟩ := Option.map_eq_some_iff.mp found
    have same : e.1 = k := by simpa using List.find?_some hit
    subst same
    exact List.mem_of_find?_eq_some hit

theorem mem_keys_iff {m : IndexMap K V} : k ∈ m.keys ↔ ∃ v, m.get? k = some v := by
  simp only [keys,List.mem_map,Prod.exists,exists_and_right,exists_eq_right,mem_entries_iff]

@[simp] theorem get?_empty (k : K) : (empty : IndexMap K V).get? k = none := rfl

@[simp] theorem get?_mapEntries (m : IndexMap K V) (f : K → V → V) (k : K) :
    (m.mapEntries f).get? k = (m.get? k).map (f k) := by
  simp only [get?,mapEntries,List.find?_map,Option.map_map,Function.comp_def]
  cases hit : m.entries.find? fun e => e.1 = k with
  | none => rfl
  | some e =>
    have same : e.1 = k := by simpa using List.find?_some hit
    simp [same]

@[simp] theorem get?_mapValues {W : Type} (m : IndexMap K V) (f : V → W) (k : K) : (m.mapValues f).get? k = (m.get? k).map f := by
  simp only [get?,mapValues,List.find?_map,Option.map_map,Function.comp_def]

@[simp] theorem get?_modify (m : IndexMap K V) (k k' : K) (f : V → V) :
    (m.modify k f).get? k' = if k' = k then (m.get? k).map f else m.get? k' := by
  unfold modify
  by_cases same : k' = k
  · subst same; simp
  · cases found : m.get? k' <;> simp [same,found]

theorem get?_modify_eq_map (m : IndexMap K V) (k k' : K) (f : V → V) :
    (m.modify k f).get? k' = (m.get? k').map fun v => if k' = k then f v else v := by
  rw [get?_modify]
  by_cases same : k' = k
  · subst same
    simp
  · simp [same]

@[simp] theorem get?_insert (m : IndexMap K V) (k k' : K) (v : V) :
    (m.insert k v).get? k' = if k' = k then some v else m.get? k' := by
  unfold insert
  split
  · rename_i absent
    by_cases same : k' = k
    · subst same
      have none : m.entries.find? (fun e => e.1 = k') = none := by simpa [get?] using absent
      simp [get?,List.find?_append,none]
    · have other : ¬ k = k' := fun equal => same equal.symm
      simp [get?,List.find?_append,same,other]
  · rename_i present
    obtain ⟨w,found⟩ := Option.ne_none_iff_exists'.mp present
    by_cases same : k' = k
    · subst same; simp [found]
    · simp [same]

@[simp] theorem get?_retain (m : IndexMap K V) (p : K → V → Bool) (k : K) :
    (m.retain p).get? k = (m.get? k).filter (p k) := by
  apply Option.ext
  intro v
  rw [Option.filter_eq_some_iff,← mem_entries_iff,← mem_entries_iff]
  simp [retain,List.mem_filter]

@[simp] theorem get?_erase (m : IndexMap K V) (k k' : K) :
    (m.erase k).get? k' = if k' = k then none else m.get? k' := by
  unfold erase
  rw [get?_retain]
  by_cases same : k' = k
  · cases found : m.get? k' <;> simp [same,Option.filter]
  · cases found : m.get? k' <;> simp [same,Option.filter]

@[simp] theorem get?_upsert (m : IndexMap K V) (k k' : K) (f : Option V → V) :
    (m.upsert k f).get? k' = if k' = k then some (f (m.get? k)) else m.get? k' := by
  simp [upsert]

theorem mem_of_get?_ofList {entries : List (K × V)} (found : (ofList entries).get? k = some v) : (k,v) ∈ entries := by
  suffices through : ∀ m : IndexMap K V, (entries.foldl (fun m e => m.insert e.1 e.2) m).get? k = some v →
      m.get? k = some v ∨ (k,v) ∈ entries by
    exact (through empty found).resolve_left (by simp)
  clear found
  induction entries with
  | nil => exact fun m found => .inl found
  | cons e entries ih =>
    intro m found
    rcases ih (m.insert e.1 e.2) found with inserted | later
    · rw [get?_insert] at inserted
      split at inserted
      · rename_i same
        cases inserted
        subst same
        exact .inr List.mem_cons_self
      · exact .inl inserted
    · exact .inr (List.mem_cons_of_mem e later)

theorem of_get?_rekey {m : IndexMap K V} (found : (m.rekey fate onKept).get? k = some v) :
    ∃ old value, m.get? old = some value ∧ fate old = some k ∧ v = onKept k value := by
  obtain ⟨e,member,kept⟩ := List.mem_filterMap.mp (mem_of_get?_ofList found)
  obtain ⟨k',moved,same⟩ := Option.map_eq_some_iff.mp kept
  cases same
  exact ⟨e.1,e.2,mem_entries_iff.mp member,moved,rfl⟩

theorem ext_get? {m m' : IndexMap K V} (keys : m.keys = m'.keys) (get : ∀ k, m.get? k = m'.get? k) : m = m' := by
  have rebuilt : ∀ map : IndexMap K V, map.entries = map.keys.filterMap fun k => (map.get? k).map (k,·) := by
    intro map
    unfold IndexMap.keys
    rw [List.filterMap_map]
    have each : ∀ e ∈ map.entries, ((fun k => (map.get? k).map (k,·)) ∘ Prod.fst) e = some e := by
      intro e member
      rw [Function.comp_apply,mem_entries_iff.mp member,Option.map_some]
    rw [List.filterMap_congr each,List.filterMap_some]
  apply ext_entries
  rw [rebuilt m,rebuilt m',keys]
  simp only [get]

omit [DecidableEq K] in
@[simp] theorem keys_mapEntries (m : IndexMap K V) (f : K → V → V) : (m.mapEntries f).keys = m.keys := by
  simp only [keys,mapEntries,List.map_map,Function.comp_def]

@[simp] theorem keys_modify (m : IndexMap K V) (k : K) (f : V → V) : (m.modify k f).keys = m.keys := keys_mapEntries m _

theorem keys_insert (m : IndexMap K V) (k : K) (v : V) :
    (m.insert k v).keys = if m.get? k = none then m.keys ++ [k] else m.keys := by
  unfold insert
  split
  · simp [keys]
  · exact keys_modify m k _

theorem modify_twice {m : IndexMap K V} {f : V → V} (settled : ∀ v, m.get? k = some v → f (f v) = f v) :
    (m.modify k f).modify k f = m.modify k f := by
  refine ext_get? (by simp) fun k' => ?_
  simp only [get?_modify,if_true]
  split
  · cases found : m.get? k with
    | none => rfl
    | some v => simp [settled v found]
  · rfl

theorem insert_insert (m : IndexMap K V) (k : K) (v w : V) : (m.insert k v).insert k w = m.insert k w := by
  refine ext_get? ?_ fun k' => by grind [get?_insert]
  simp [keys_insert]

theorem erase_erase (m : IndexMap K V) (k : K) : (m.erase k).erase k = m.erase k := by
  apply ext_entries
  simp only [erase,retain,List.filter_filter,Bool.and_self]

omit [DecidableEq K] in
theorem mapEntries_twice {f : K → V → V} (settled : ∀ k v, f k (f k v) = f k v) (m : IndexMap K V) :
    (m.mapEntries f).mapEntries f = m.mapEntries f := by
  apply ext_entries
  simp only [mapEntries,List.map_map,Function.comp_def,settled]

theorem erase_mapEntries (m : IndexMap K V) (k : K) (f : K → V → V) : (m.mapEntries f).erase k = (m.erase k).mapEntries f := by
  apply ext_entries
  simp only [erase,retain,mapEntries,List.filter_map]
  rfl

theorem upsert_twice {m : IndexMap K V} {f : Option V → V} (settled : f (some (f (m.get? k))) = f (m.get? k)) :
    (m.upsert k f).upsert k f = m.upsert k f := by
  unfold upsert
  rw [get?_insert,if_pos rfl,settled,insert_insert]

theorem split_at {m : IndexMap K V} (found : m.get? k = some v) :
    ∃ left right, m.entries = left ++ (k,v)::right ∧ (∀ e ∈ left, e.1 ≠ k) ∧ ∀ e ∈ right, e.1 ≠ k := by
  obtain ⟨left,right,shape⟩ := List.append_of_mem (mem_entries_iff.mpr found)
  have unique := m.nodup
  rw [shape,List.map_append,List.map_cons,List.nodup_append] at unique
  obtain ⟨_,tail,apart⟩ := unique
  refine ⟨left,right,shape,?_,?_⟩
  · intro e member
    exact apart _ (List.mem_map.mpr ⟨e,member,rfl⟩) _ List.mem_cons_self
  · intro e member equal
    exact (List.nodup_cons.mp tail).1 (List.mem_map.mpr ⟨e,member,equal⟩)

def turnedKeys (keys : List K) (k : K) (was is : Bool) : List K :=
  if is then if was then keys else keys ++ [k] else keys.filter (· ≠ k)

theorem turnedKeys_comm (keys : List K) (apart : k ≠ k') {was is was' is' : Bool} (settled : (is → was) ∨ (is' → was')) :
    turnedKeys (turnedKeys keys k was is) k' was' is' = turnedKeys (turnedKeys keys k' was' is') k was is := by
  have stays : [k'].filter (· ≠ k) = [k'] := by simp [apart.symm]
  have stays' : [k].filter (· ≠ k') = [k] := by simp [apart]
  cases was <;> cases is <;> cases was' <;> cases is' <;>
    simp_all [turnedKeys,List.filter_append,List.filter_filter,Bool.and_comm]

structure Turns (m m' : IndexMap K V) (k : K) : Prop where
  other : ∀ k', k' ≠ k → m'.get? k' = m.get? k'
  keys : m'.keys = turnedKeys m.keys k (m.get? k).isSome (m'.get? k).isSome

section Turns
variable {m : IndexMap K V}

theorem filter_keys (absent : m.get? k = none) : m.keys.filter (· ≠ k) = m.keys := by
  refine List.filter_eq_self.mpr fun k' member => decide_eq_true fun same => ?_
  exact get?_eq_none_iff.mp absent (same ▸ member)

theorem turns_refl (m : IndexMap K V) (k : K) : m.Turns m k := by
  refine ⟨fun _ _ => rfl,?_⟩
  cases found : m.get? k with
  | none => exact (filter_keys found).symm
  | some v => rfl

theorem turns_insert (m : IndexMap K V) (k : K) (v : V) : m.Turns (m.insert k v) k := by
  refine ⟨fun k' apart => by rw [get?_insert,if_neg apart],?_⟩
  rw [get?_insert,if_pos rfl,keys_insert]
  cases m.get? k <;> rfl

theorem turns_modify (m : IndexMap K V) (k : K) (f : V → V) : m.Turns (m.modify k f) k := by
  refine ⟨fun k' apart => by rw [get?_modify,if_neg apart],?_⟩
  rw [get?_modify,if_pos rfl,keys_modify]
  cases found : m.get? k with
  | none => exact (filter_keys found).symm
  | some v => rfl

theorem turns_erase (m : IndexMap K V) (k : K) : m.Turns (m.erase k) k := by
  refine ⟨fun k' apart => by rw [get?_erase,if_neg apart],?_⟩
  rw [get?_erase,if_pos rfl]
  simp only [IndexMap.keys,erase,retain,turnedKeys,List.filter_map]
  rfl

-- Changes under two keys may change places, unless both add their key.
theorem turns_comm {a b ab ba : IndexMap K V} (apart : k ≠ k') (first : m.Turns a k) (then' : a.Turns ab k') (second : m.Turns b k')
    (then_ : b.Turns ba k) (own : ba.get? k = a.get? k) (own' : ab.get? k' = b.get? k')
    (settled : ((a.get? k).isSome → (m.get? k).isSome) ∨ ((b.get? k').isSome → (m.get? k').isSome)) : ab = ba := by
  refine ext_get? ?_ fun key => ?_
  · rw [then'.keys,first.keys,then_.keys,second.keys,own,own',first.other k' apart.symm,second.other k apart]
    exact turnedKeys_comm m.keys apart settled
  · by_cases isFirst : key = k
    · rw [isFirst,then'.other k apart,own]
    · by_cases isSecond : key = k'
      · rw [isSecond,then_.other k' apart.symm,own']
      · rw [then'.other key isSecond,first.other key isFirst,then_.other key isFirst,second.other key isSecond]

end Turns

-- The weight of a map: one summand for each entry, so an update moves exactly
-- the summand of its key.
def total (m : IndexMap K V) (weight : V → Nat) : Nat := (m.entries.map fun e => weight e.2).sum

theorem total_insert_new {m : IndexMap K V} (absent : m.get? k = none) (v : V) (weight : V → Nat) :
    (m.insert k v).total weight = m.total weight + weight v := by
  simp [total,insert,absent]

theorem total_modify {m : IndexMap K V} (found : m.get? k = some old) (f : V → V) (weight : V → Nat) :
    (m.modify k f).total weight + weight old = m.total weight + weight (f old) := by
  obtain ⟨left,right,shape,leftApart,rightApart⟩ := split_at found
  have keep : ∀ part : List (K × V), (∀ e ∈ part, e.1 ≠ k) →
      part.map ((fun e => weight e.2) ∘ fun e => (e.1,if e.1 = k then f e.2 else e.2)) =
        part.map fun e => weight e.2 := by
    intro part apart
    exact List.map_congr_left fun e member => by simp [apart e member]
  simp only [total,modify,mapEntries,shape,List.map_append,List.map_cons,List.map_map,
    keep left leftApart,keep right rightApart,List.sum_append,List.sum_cons,if_true]
  omega

theorem total_insert_old {m : IndexMap K V} (found : m.get? k = some old) (v : V) (weight : V → Nat) :
    (m.insert k v).total weight + weight old = m.total weight + weight v := by
  have replaced : m.insert k v = m.modify k fun _ => v := by simp [insert,found]
  rw [replaced]
  exact total_modify found _ weight

theorem total_erase {m : IndexMap K V} (found : m.get? k = some old) (weight : V → Nat) :
    (m.erase k).total weight + weight old = m.total weight := by
  obtain ⟨left,right,shape,leftApart,rightApart⟩ := split_at found
  have keep : ∀ part : List (K × V), (∀ e ∈ part, e.1 ≠ k) → part.filter (fun e => decide (e.1 ≠ k)) = part :=
    fun part apart => List.filter_eq_self.mpr fun e member => by simp [apart e member]
  have dropped : (m.erase k).entries = left ++ right := by
    simp only [erase,retain,shape,List.filter_append,List.filter_cons,keep left leftApart,
      keep right rightApart,ne_eq,not_true_eq_false,decide_false,Bool.false_eq_true,if_false]
  simp only [total,dropped,shape,List.map_append,List.map_cons,List.sum_append,List.sum_cons]
  omega

-- The same weight in any numbers that add up.
section Sums
variable {N : Type} [AddCommMonoid N]

def sum (m : IndexMap K V) (weight : V → N) : N := (m.entries.map fun e => weight e.2).sum

theorem sum_insert_new {m : IndexMap K V} (absent : m.get? k = none) (v : V) (weight : V → N) :
    (m.insert k v).sum weight = m.sum weight + weight v := by
  simp [sum,insert,absent]

theorem sum_split {m : IndexMap K V} (found : m.get? k = some old) (weight : V → N) :
    ∃ others : N, m.sum weight = others + weight old ∧ (m.erase k).sum weight = others ∧
      ∀ f : V → V, (m.modify k f).sum weight = others + weight (f old) := by
  obtain ⟨left,right,shape,leftApart,rightApart⟩ := split_at found
  have stay : ∀ part : List (K × V), (∀ e ∈ part, e.1 ≠ k) → part.filter (fun e => decide (e.1 ≠ k)) = part :=
    fun part apart => List.filter_eq_self.mpr fun e member => by simp [apart e member]
  have keep : ∀ (f : V → V) (part : List (K × V)), (∀ e ∈ part, e.1 ≠ k) →
      part.map ((fun e => weight e.2) ∘ fun e => (e.1,if e.1 = k then f e.2 else e.2)) = part.map fun e => weight e.2 := by
    intro f part apart
    exact List.map_congr_left fun e member => by simp [apart e member]
  refine ⟨(left.map fun e => weight e.2).sum + (right.map fun e => weight e.2).sum,?_,?_,?_⟩
  · simp only [sum,shape,List.map_append,List.map_cons,List.sum_append,List.sum_cons]
    rw [add_comm (weight old),add_assoc]
  · have dropped : (m.erase k).entries = left ++ right := by
      simp only [erase,retain,shape,List.filter_append,List.filter_cons,stay left leftApart,stay right rightApart,ne_eq,
        not_true_eq_false,decide_false,Bool.false_eq_true,if_false]
    simp only [sum,dropped,List.map_append,List.sum_append]
  · intro f
    simp only [sum,modify,mapEntries,shape,List.map_append,List.map_cons,List.map_map,keep f left leftApart,keep f right rightApart,
      List.sum_append,List.sum_cons,if_true]
    rw [add_comm (weight (f old)),add_assoc]

end Sums

theorem contains_ofList (entries : List (K × V)) (k : K) : ((ofList entries).get? k).isSome ↔ k ∈ entries.map Prod.fst := by
  suffices through : ∀ m : IndexMap K V, ((entries.foldl (fun m e => m.insert e.1 e.2) m).get? k).isSome ↔
      (m.get? k).isSome ∨ k ∈ entries.map Prod.fst by
    simpa [ofList] using through empty
  induction entries with
  | nil => simp
  | cons e entries ih =>
    intro m
    rw [List.foldl_cons,ih,get?_insert,List.map_cons,List.mem_cons]
    split
    · rename_i same
      simp [same]
    · rename_i other
      simp [other]

-- Entries added one by one: those of other keys stay, and each is there where its keys are distinct.
section Inserts
variable {A : Type} {key : A → K} {value : A → V} {items : List A}

theorem get?_foldl_insert (m : IndexMap K V) (found : (items.foldl (fun m item => m.insert (key item) (value item)) m).get? k = some v) :
    m.get? k = some v ∨ ∃ item ∈ items, key item = k ∧ value item = v := by
  induction items generalizing m with
  | nil => exact .inl found
  | cons item items ih =>
    rcases ih (m.insert (key item) (value item)) found with here | ⟨later,member,same⟩
    · rw [get?_insert] at here
      split at here
      · rename_i same
        cases here
        exact .inr ⟨item,List.mem_cons_self,same.symm,rfl⟩
      · exact .inl here
    · exact .inr ⟨later,List.mem_cons_of_mem item member,same⟩

theorem get?_foldl_insert_other (m : IndexMap K V) (other : ∀ item ∈ items, key item ≠ k) :
    (items.foldl (fun m item => m.insert (key item) (value item)) m).get? k = m.get? k := by
  induction items generalizing m with
  | nil => rfl
  | cons item items ih =>
    obtain ⟨differs,rest⟩ := List.forall_mem_cons.mp other
    rw [List.foldl_cons,ih _ rest,get?_insert,if_neg differs.symm]

theorem get?_foldl_insert_mem (m : IndexMap K V) (distinct : (items.map key).Nodup) {item : A} (member : item ∈ items) :
    (items.foldl (fun m item => m.insert (key item) (value item)) m).get? (key item) = some (value item) := by
  induction items generalizing m with
  | nil => exact (List.not_mem_nil member).elim
  | cons first items ih =>
    rw [List.map_cons,List.nodup_cons] at distinct
    rw [List.foldl_cons]
    rcases List.mem_cons.mp member with rfl | later
    · rw [get?_foldl_insert_other,get?_insert,if_pos rfl]
      intro other there same
      exact distinct.1 (List.mem_map.mpr ⟨other,there,same⟩)
    · exact ih _ distinct.2 later

end Inserts

end IndexMap
end Lucida.Lib
