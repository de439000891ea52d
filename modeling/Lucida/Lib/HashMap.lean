import Mathlib.Data.Finmap
import Mathlib.Data.Finset.Sort

namespace Lucida.Lib

-- A finite map whose order nobody sees: two are equal when their lookups are.
abbrev HashMap (K V : Type) := Finmap fun _ : K => V

namespace HashMap
variable {K V W : Type}

def retain (map : HashMap K V) (p : K → Bool) : HashMap K V where
  entries := map.entries.filter fun entry => p entry.1 = true
  nodupKeys := Multiset.nodup_keys.mp
    (Multiset.nodup_of_le (Multiset.map_le_map (Multiset.filter_le _ _)) map.nodupKeys.nodup_keys)

def mapValues (map : HashMap K V) (f : K → V → W) : HashMap K W where
  entries := map.entries.map fun entry => ⟨entry.1,f entry.1 entry.2⟩
  nodupKeys := by
    refine Multiset.nodup_keys.mp ?_
    have same : (map.entries.map fun entry => (⟨entry.1,f entry.1 entry.2⟩ : Sigma fun _ : K => W)).keys =
        map.entries.keys := by
      simp [Multiset.keys]
    rw [same]
    exact map.nodupKeys.nodup_keys

variable [DecidableEq K]

-- `entry(k).or_insert(v)`.
def orInsert (map : HashMap K V) (k : K) (v : V) : HashMap K V :=
  if (map.lookup k).isSome then map else map.insert k v

def insertAll (map : HashMap K V) (entries : List (K × V)) : HashMap K V :=
  entries.foldl (fun map entry => map.insert entry.1 entry.2) map

def eraseAll (map : HashMap K V) (keys : List K) : HashMap K V := keys.foldl (fun map k => map.erase k) map

-- `collect`: the last value of a key wins.
def ofList (entries : List (K × V)) : HashMap K V := insertAll ∅ entries

-- The entries under new keys, collected again. No order of the entries is the right one, so it
-- is that of the keys.
def rekey [LinearOrder K] (map : HashMap K V) (fate : K → Option K) : HashMap K V :=
  ofList ((map.keys.sort (· ≤ ·)).filterMap fun k => (fate k).bind fun k' => (map.lookup k).map (k',·))

-- `==`, where the comparison of the values need not be lawful.
def same [BEq V] (map map' : HashMap K V) : Bool :=
  map.keys = map'.keys && decide (∀ k ∈ map.keys, (map.lookup k == map'.lookup k) = true)

theorem lookup_retain (map : HashMap K V) (p : K → Bool) (k : K) :
    (map.retain p).lookup k = if p k then map.lookup k else none := by
  apply Option.ext
  intro v
  rw [← Option.mem_def,Finmap.mem_lookup_iff]
  simp only [retain,Multiset.mem_filter]
  rw [← Finmap.mem_lookup_iff,Option.mem_def]
  cases p k <;> simp

theorem lookup_insert_if (map : HashMap K V) (k k' : K) (v : V) :
    (map.insert k v).lookup k' = if k' = k then some v else map.lookup k' := by
  split
  · rename_i same
    subst same
    exact Finmap.lookup_insert map
  · rename_i other
    exact Finmap.lookup_insert_of_ne map other

theorem lookup_erase_if (map : HashMap K V) (k k' : K) :
    (map.erase k).lookup k' = if k' = k then none else map.lookup k' := by
  split
  · rename_i same
    subst same
    exact Finmap.lookup_erase _ map
  · rename_i other
    exact Finmap.lookup_erase_ne other

theorem lookup_orInsert (map : HashMap K V) (k k' : K) (v : V) :
    (map.orInsert k v).lookup k' = (map.lookup k').or (if k' = k then some v else none) := by
  unfold orInsert
  split
  · rename_i held
    split
    · rename_i same
      subst same
      exact (Option.or_of_isSome held).symm
    · exact Option.or_none.symm
  · rename_i free
    rw [lookup_insert_if]
    split
    · rename_i same
      subst same
      rw [Option.not_isSome_iff_eq_none.mp free,Option.none_or]
    · exact Option.or_none.symm

theorem lookup_foldl_orInsert {I : Type} (key : I → K) (value : I → V) (items : List I) (map : HashMap K V) (k : K) :
    (items.foldl (fun map item => map.orInsert (key item) (value item)) map).lookup k =
      (map.lookup k).or ((items.find? fun item => key item = k).map value) := by
  induction items generalizing map with
  | nil => exact Option.or_none.symm
  | cons item items ih =>
    rw [List.foldl_cons,ih,lookup_orInsert,Option.or_assoc]
    by_cases same : key item = k
    · simp [same]
    · simp [same,Ne.symm same]

theorem lookup_eraseAll (map : HashMap K V) (keys : List K) (k : K) :
    (map.eraseAll keys).lookup k = if k ∈ keys then none else map.lookup k := by
  unfold eraseAll
  induction keys generalizing map with
  | nil => simp
  | cons key keys ih =>
    rw [List.foldl_cons,ih,lookup_erase_if]
    by_cases later : k ∈ keys
    · simp [later]
    · by_cases same : k = key <;> simp [later,same]

-- A key finds its last entry, or what was there if it has none. Induction on the
-- list, newest entry last.
theorem lookup_insertAll (map : HashMap K V) (entries : List (K × V)) (k : K) :
    (∃ v, (k,v) ∈ entries ∧ (map.insertAll entries).lookup k = some v) ∨
      k ∉ entries.map Prod.fst ∧ (map.insertAll entries).lookup k = map.lookup k := by
  unfold insertAll
  induction entries using List.reverseRecOn with
  | nil => exact .inr ⟨List.not_mem_nil,rfl⟩
  | append_singleton entries entry ih =>
    rw [List.foldl_append,List.foldl_cons,List.foldl_nil,lookup_insert_if]
    by_cases same : k = entry.1
    · rw [if_pos same]
      exact .inl ⟨entry.2,by simp [same],rfl⟩
    · rw [if_neg same]
      rcases ih with ⟨v,member,found⟩ | ⟨absent,kept⟩
      · exact .inl ⟨v,List.mem_append_left _ member,found⟩
      · refine .inr ⟨?_,kept⟩
        rw [List.map_append,List.mem_append]
        rintro (early | late)
        · exact absent early
        · exact same (by simpa using late)

theorem mem_of_lookup_ofList {entries : List (K × V)} (found : (ofList entries).lookup k = some v) :
    (k,v) ∈ entries := by
  rcases lookup_insertAll ∅ entries k with ⟨w,member,last⟩ | ⟨_,empty⟩
  · cases last.symm.trans found
    exact member
  · rw [ofList,empty,Finmap.lookup_empty] at found
    cases found

theorem lookup_ofList {entries : List (K × V)} (nodup : (entries.map Prod.fst).Nodup) :
    (ofList entries).lookup k = some v ↔ (k,v) ∈ entries := by
  refine ⟨mem_of_lookup_ofList,?_⟩
  intro member
  rcases lookup_insertAll ∅ entries k with ⟨w,other,last⟩ | ⟨absent,_⟩
  · cases List.inj_on_of_nodup_map nodup member other rfl
    exact last
  · exact absurd (List.mem_map.mpr ⟨_,member,rfl⟩) absent

-- Dropping what the target lacks and writing what it holds, at least wherever
-- the two differ, turns one map into another.
theorem patch_eq {map target : HashMap K V} {left : List K} {entries : List (K × V)}
    (gone : ∀ k, k ∈ left ↔ (map.lookup k).isSome ∧ target.lookup k = none)
    (sound : ∀ k v, (k,v) ∈ entries → target.lookup k = some v)
    (complete : ∀ k v, target.lookup k = some v → map.lookup k ≠ some v → k ∈ entries.map Prod.fst) :
    (map.eraseAll left).insertAll entries = target := by
  apply Finmap.ext_lookup
  intro k
  rcases lookup_insertAll (map.eraseAll left) entries k with ⟨v,member,found⟩ | ⟨absent,kept⟩
  · rw [found,sound k v member]
  · rw [kept,lookup_eraseAll]
    cases wanted : target.lookup k with
    | none =>
      cases held : map.lookup k with
      | none => simp
      | some v => rw [if_pos ((gone k).mpr ⟨by rw [held]; rfl,wanted⟩)]
    | some v =>
      have stays : k ∉ left := by
        intro member
        cases wanted.symm.trans ((gone k).mp member).2
      rw [if_neg stays]
      by_contra differs
      exact absent (complete k v wanted differs)

end HashMap
end Lucida.Lib
