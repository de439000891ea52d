import Mathlib.Data.Set.Function
import Lucida.Lib.IndexMap
import Lucida.Lib.HashMap

namespace Lucida.Lib

-- New keys for the entries of a map, by a function that keeps its keys apart.
namespace IndexMap
variable {K V : Type} [DecidableEq K] {m : IndexMap K V} {f : K → K} {g : K → V → V} {k : K}

theorem entries_insert_new (absent : m.get? k = none) (v : V) : (m.insert k v).entries = m.entries ++ [(k,v)] := by
  unfold insert
  rw [dif_pos absent]

theorem entries_insert_old (held : m.get? k ≠ none) (v : V) :
    (m.insert k v).entries = m.entries.map fun e => (e.1,if e.1 = k then v else e.2) := by
  unfold insert
  rw [dif_neg held]
  rfl

theorem entries_ofList {entries : List (K × V)} (nodup : (entries.map Prod.fst).Nodup) : (ofList entries).entries = entries := by
  unfold ofList
  induction entries using List.reverseRecOn with
  | nil => rfl
  | append_singleton entries e ih =>
    rw [List.map_append,List.map_singleton] at nodup
    obtain ⟨before,_,apart⟩ := List.nodup_append.mp nodup
    have same := ih before
    rw [List.foldl_append,List.foldl_cons,List.foldl_nil,entries_insert_new,same]
    rw [get?_eq_none_iff]
    unfold keys
    rw [same]
    exact fun member => apart _ member _ (List.mem_singleton.mpr rfl) rfl

theorem rekey_drop (m : IndexMap K V) (k : K) (g : K → V → V) :
    m.rekey (fun key => if key = k then none else some key) g = (m.erase k).mapEntries g := by
  have kept : (m.entries.filterMap fun e => (if e.1 = k then none else some e.1).map fun key => (key,g key e.2)) =
      ((m.erase k).mapEntries g).entries := by
    show _ = (m.entries.filter fun e => e.1 ≠ k).map fun e => (e.1,g e.1 e.2)
    rw [← List.filterMap_eq_map,← List.filterMap_eq_filter,List.filterMap_filterMap]
    refine List.filterMap_congr fun e _ => ?_
    by_cases dropped : e.1 = k <;> simp [Option.guard,dropped]
  apply ext_entries
  unfold rekey
  rw [kept]
  exact entries_ofList ((m.erase k).mapEntries g).nodup

theorem rekey_mapEntries {h : K → V → V} {fate : K → Option K} (blind : ∀ old new v, g new (h old v) = g new v) :
    (m.mapEntries h).rekey fate g = m.rekey fate g := by
  unfold rekey
  refine congrArg ofList ?_
  show (m.entries.map fun e => (e.1,h e.1 e.2)).filterMap _ = _
  rw [List.filterMap_map]
  refine List.filterMap_congr fun e _ => ?_
  simp only [Function.comp_apply,blind]

theorem mapEntries_rekey {fate : K → Option K} (settled : ∀ k v, g k (g k v) = g k v) :
    (m.rekey fate g).mapEntries g = m.rekey fate g := by
  refine ext_get? (keys_mapEntries _ _) fun k => ?_
  rw [get?_mapEntries]
  cases found : (m.rekey fate g).get? k with
  | none => rfl
  | some v =>
    obtain ⟨_,value,_,_,rfl⟩ := of_get?_rekey found
    rw [Option.map_some,settled]

section Renamed
variable (inj : Set.InjOn f {k | k ∈ m.keys})
include inj

theorem entries_rekey (g : K → V → V) : (m.rekey (fun k => some (f k)) g).entries = m.entries.map fun e => (f e.1,g (f e.1) e.2) := by
  have total : (m.entries.filterMap fun e => (some (f e.1)).map fun k => (k,g k e.2)) = m.entries.map fun e => (f e.1,g (f e.1) e.2) := by
    rw [← List.filterMap_eq_map]
    rfl
  unfold rekey
  rw [total]
  apply entries_ofList
  rw [List.map_map]
  have keys : (m.entries.map (Prod.fst ∘ fun e => (f e.1,g (f e.1) e.2))) = (m.entries.map Prod.fst).map f := by
    rw [List.map_map]
    rfl
  rw [keys]
  exact m.nodup.map_on fun a inside b there => inj inside there

theorem keys_rekey (g : K → V → V) : (m.rekey (fun k => some (f k)) g).keys = m.keys.map f := by
  unfold keys
  rw [entries_rekey inj,List.map_map,List.map_map]
  rfl

end Renamed

theorem entries_rekey_back {f' : K → K} (back : ∀ k ∈ m.keys, f' (f k) = k) (g g' : K → V → V) :
    ((m.rekey (fun k => some (f k)) g).rekey (fun k => some (f' k)) g').entries = m.entries.map fun e => (e.1,g' e.1 (g (f e.1) e.2)) := by
  have there : Set.InjOn f {k | k ∈ m.keys} := fun a inside b also same => by rw [← back a inside,same,back b also]
  have again : Set.InjOn f' {k | k ∈ (m.rekey (fun k => some (f k)) g).keys} := by
    rw [keys_rekey there]
    intro a inside b also same
    obtain ⟨a',listed,rfl⟩ := List.mem_map.mp inside
    obtain ⟨b',listed',rfl⟩ := List.mem_map.mp also
    rw [back a' listed,back b' listed'] at same
    rw [same]
  rw [entries_rekey again,entries_rekey there,List.map_map]
  refine List.map_congr_left fun e member => ?_
  rw [Function.comp_apply,back e.1 (List.mem_map.mpr ⟨e,member,rfl⟩)]

-- A key that is asked for besides is kept apart too.
variable (inj : Set.InjOn f {x | x ∈ m.keys ∨ x = k})
include inj

omit [DecidableEq K] in
theorem inj_keys : Set.InjOn f {x | x ∈ m.keys} := inj.mono fun _ member => .inl member

theorem get?_rekey (g : K → V → V) : (m.rekey (fun k => some (f k)) g).get? (f k) = (m.get? k).map (g (f k)) := by
  apply Option.ext
  intro w
  rw [Option.map_eq_some_iff,← mem_entries_iff,entries_rekey (inj_keys inj),List.mem_map]
  constructor
  · rintro ⟨e,member,same⟩
    obtain ⟨equal,rfl⟩ := Prod.mk.inj same
    have own : e.1 = k := inj (.inl (List.mem_map.mpr ⟨e,member,rfl⟩)) (.inr rfl) equal
    exact ⟨e.2,mem_entries_iff.mp (own ▸ member),by rw [own]⟩
  · rintro ⟨v,found,rfl⟩
    exact ⟨(k,v),mem_entries_iff.mpr found,rfl⟩

theorem rekey_insert (g : K → V → V) (v : V) :
    (m.insert k v).rekey (fun k => some (f k)) g = (m.rekey (fun k => some (f k)) g).insert (f k) (g (f k) v) := by
  have grown : Set.InjOn f {x | x ∈ (m.insert k v).keys} := by
    refine inj.mono fun x member => ?_
    obtain ⟨w,found⟩ := mem_keys_iff.mp member
    rw [get?_insert] at found
    split at found
    · exact .inr ‹_›
    · exact .inl (mem_keys_iff.mpr ⟨w,found⟩)
  have looked := get?_rekey inj g
  apply ext_entries
  rw [entries_rekey grown]
  by_cases absent : m.get? k = none
  · rw [entries_insert_new absent,entries_insert_new (by rw [looked,absent,Option.map_none]),entries_rekey (inj_keys inj),List.map_append]
    rfl
  · have held : (m.rekey (fun k => some (f k)) g).get? (f k) ≠ none := by
      rw [looked]
      simpa using absent
    rw [entries_insert_old absent,entries_insert_old held,entries_rekey (inj_keys inj),List.map_map,List.map_map]
    refine List.map_congr_left fun e member => ?_
    have same : f e.1 = f k ↔ e.1 = k :=
      ⟨fun equal => inj (.inl (List.mem_map.mpr ⟨e,member,rfl⟩)) (.inr rfl) equal,fun equal => congrArg f equal⟩
    simp only [Function.comp_apply,same]
    split
    · rename_i own
      rw [own]
    · rfl

theorem rekey_erase (g : K → V → V) : (m.erase k).rekey (fun k => some (f k)) g = (m.rekey (fun k => some (f k)) g).erase (f k) := by
  have entries : ∀ (map : IndexMap K V) (key : K), (map.erase key).entries = map.entries.filter fun e => e.1 ≠ key := fun _ _ => rfl
  have less : Set.InjOn f {x | x ∈ (m.erase k).keys} := by
    refine inj.mono fun x member => .inl ?_
    obtain ⟨e,kept,own⟩ := List.mem_map.mp member
    exact List.mem_map.mpr ⟨e,List.mem_of_mem_filter kept,own⟩
  apply ext_entries
  rw [entries_rekey less,entries,entries,entries_rekey (inj_keys inj),List.filter_map]
  refine congrArg _ (List.filter_congr fun e member => ?_)
  refine decide_eq_decide.mpr (not_congr ⟨fun equal => congrArg f equal,fun equal => ?_⟩)
  exact inj (.inl (List.mem_map.mpr ⟨e,member,rfl⟩)) (.inr rfl) equal

theorem rekey_modify {u w : V → V} (through : ∀ v, g (f k) (u v) = w (g (f k) v)) :
    (m.modify k u).rekey (fun k => some (f k)) g = (m.rekey (fun k => some (f k)) g).modify (f k) w := by
  have entries : ∀ (map : IndexMap K V) (key : K) (h : V → V), (map.modify key h).entries = map.entries.map fun e => (e.1,if e.1 = key then h e.2 else e.2) :=
    fun _ _ _ => rfl
  have still : Set.InjOn f {x | x ∈ (m.modify k u).keys} := by
    rw [keys_modify]
    exact inj_keys inj
  apply ext_entries
  rw [entries_rekey still,entries,entries,entries_rekey (inj_keys inj),List.map_map,List.map_map]
  refine List.map_congr_left fun e member => ?_
  have same : f e.1 = f k ↔ e.1 = k :=
    ⟨fun equal => inj (.inl (List.mem_map.mpr ⟨e,member,rfl⟩)) (.inr rfl) equal,fun equal => congrArg f equal⟩
  simp only [Function.comp_apply,same]
  split
  · rename_i own
    rw [own,through]
  · rfl

theorem rekey_upsert {u w : Option V → V} (through : g (f k) (u (m.get? k)) = w ((m.get? k).map (g (f k)))) :
    (m.upsert k u).rekey (fun k => some (f k)) g = (m.rekey (fun k => some (f k)) g).upsert (f k) w := by
  unfold upsert
  rw [rekey_insert inj,get?_rekey inj,through]

end IndexMap

namespace HashMap
variable {K V : Type} [LinearOrder K] {m : HashMap K V} {f : K → K} {k : K}

theorem mem_keys (m : HashMap K V) (k : K) : k ∈ m.keys ↔ (m.lookup k).isSome := by
  rw [Finmap.mem_keys,Finmap.lookup_isSome]

theorem rekey_drop (m : HashMap K V) (k : K) : (m.rekey fun key => if key = k then none else some key) = m.erase k := by
  have kept : ((m.keys.sort (· ≤ ·)).filterMap fun key => (if key = k then none else some key).bind fun key' =>
      (m.lookup key).map (key',·)).map Prod.fst = (m.keys.sort (· ≤ ·)).filter fun key => key ≠ k := by
    rw [List.map_filterMap,← List.filterMap_eq_filter]
    refine List.filterMap_congr fun key member => ?_
    rw [Finset.mem_sort,mem_keys] at member
    obtain ⟨v,found⟩ := Option.isSome_iff_exists.mp member
    by_cases dropped : key = k <;> simp [Option.guard,dropped,found]
  refine Finmap.ext_lookup fun key => Option.ext fun v => ?_
  unfold rekey
  rw [lookup_ofList (kept ▸ (Finset.sort_nodup _ _).filter _),List.mem_filterMap,lookup_erase_if]
  constructor
  · rintro ⟨old,_,moved⟩
    by_cases dropped : old = k
    · simp [dropped] at moved
    · obtain ⟨found,rfl⟩ : m.lookup old = some v ∧ old = key := by simpa [dropped] using moved
      rw [if_neg dropped,found]
  · intro found
    split at found
    · cases found
    · rename_i other
      refine ⟨key,?_,by simp [other,found]⟩
      rw [Finset.mem_sort,mem_keys,found]
      rfl

section Renamed
variable (inj : Set.InjOn f {k | (m.lookup k).isSome})
include inj

theorem lookup_rekey_iff {k : K} {v : V} : (m.rekey fun k => some (f k)).lookup k = some v ↔ ∃ old, f old = k ∧ m.lookup old = some v := by
  unfold rekey
  rw [lookup_ofList]
  · rw [List.mem_filterMap]
    constructor
    · rintro ⟨old,_,moved⟩
      obtain ⟨value,found,same⟩ := Option.map_eq_some_iff.mp moved
      obtain ⟨rfl,rfl⟩ := Prod.mk.inj same
      exact ⟨old,rfl,found⟩
    · rintro ⟨old,rfl,found⟩
      refine ⟨old,?_,by rw [Option.bind_some,found,Option.map_some]⟩
      rw [Finset.mem_sort,mem_keys,found]
      rfl
  · -- Every key that is there moves, and no two of them to one place.
    have moved : ((m.keys.sort (· ≤ ·)).filterMap fun k => (some (f k)).bind fun k' => (m.lookup k).map (k',·)).map Prod.fst =
        (m.keys.sort (· ≤ ·)).map f := by
      rw [List.map_filterMap,← List.filterMap_eq_map]
      refine List.filterMap_congr fun old member => ?_
      rw [Finset.mem_sort,mem_keys] at member
      obtain ⟨value,found⟩ := Option.isSome_iff_exists.mp member
      simp [found]
    rw [moved]
    refine (Finset.sort_nodup _ _).map_on fun a inside b there => ?_
    rw [Finset.mem_sort,mem_keys] at inside there
    exact inj inside there

end Renamed

theorem rekey_back {f' : K → K} (back : ∀ k, (m.lookup k).isSome → f' (f k) = k) :
    (m.rekey fun k => some (f k)).rekey (fun k => some (f' k)) = m := by
  have there : Set.InjOn f {k | (m.lookup k).isSome} := fun a inside b also same => by rw [← back a inside,same,back b also]
  have again : Set.InjOn f' {k | ((m.rekey fun k => some (f k)).lookup k).isSome} := by
    intro a inside b also same
    obtain ⟨v,found⟩ := Option.isSome_iff_exists.mp inside
    obtain ⟨w,found'⟩ := Option.isSome_iff_exists.mp also
    obtain ⟨a',rfl,held⟩ := (lookup_rekey_iff there).mp found
    obtain ⟨b',rfl,held'⟩ := (lookup_rekey_iff there).mp found'
    rw [back a' (by rw [held]; rfl),back b' (by rw [held']; rfl)] at same
    rw [same]
  apply Finmap.ext_lookup
  intro x
  apply Option.ext
  intro v
  rw [lookup_rekey_iff again]
  constructor
  · rintro ⟨_,rfl,found⟩
    obtain ⟨old,rfl,held⟩ := (lookup_rekey_iff there).mp found
    rw [back old (by rw [held]; rfl)]
    exact held
  · intro held
    exact ⟨f x,back x (by rw [held]; rfl),(lookup_rekey_iff there).mpr ⟨x,rfl,held⟩⟩

variable (inj : Set.InjOn f {x | (m.lookup x).isSome ∨ x = k})
include inj

theorem inj_held : Set.InjOn f {x | (m.lookup x).isSome} := inj.mono fun _ member => .inl member

theorem lookup_rekey : (m.rekey fun k => some (f k)).lookup (f k) = m.lookup k := by
  apply Option.ext
  intro v
  rw [lookup_rekey_iff (inj_held inj)]
  constructor
  · rintro ⟨old,same,found⟩
    have own : old = k := inj (.inl (by rw [found]; rfl)) (.inr rfl) same
    exact own ▸ found
  · exact fun found => ⟨k,rfl,found⟩

theorem rekey_insert (v : V) : rekey (m.insert k v) (fun k => some (f k)) = (m.rekey fun k => some (f k)).insert (f k) v := by
  have grown : Set.InjOn f {x | ((m.insert k v).lookup x).isSome} := by
    refine inj.mono fun x member => ?_
    replace member : ((m.insert k v).lookup x).isSome := member
    rw [lookup_insert_if] at member
    split at member
    · exact .inr ‹_›
    · exact .inl member
  apply Finmap.ext_lookup
  intro x
  apply Option.ext
  intro w
  rw [lookup_rekey_iff grown,lookup_insert_if]
  constructor
  · rintro ⟨old,rfl,found⟩
    rw [lookup_insert_if] at found
    split at found
    · rename_i own
      rw [if_pos (congrArg f own)]
      exact found
    · rename_i other
      have apart : f old ≠ f k := fun same => other (inj (.inl (by rw [found]; rfl)) (.inr rfl) same)
      rw [if_neg apart,lookup_rekey_iff (inj_held inj)]
      exact ⟨old,rfl,found⟩
  · intro found
    split at found
    · rename_i own
      exact ⟨k,own.symm,by rw [lookup_insert_if,if_pos rfl]; exact found⟩
    · rename_i other
      obtain ⟨old,rfl,held⟩ := (lookup_rekey_iff (inj_held inj)).mp found
      have apart : old ≠ k := fun same => other (congrArg f same)
      exact ⟨old,rfl,by rw [lookup_insert_if,if_neg apart]; exact held⟩

theorem rekey_erase : rekey (m.erase k) (fun k => some (f k)) = (m.rekey fun k => some (f k)).erase (f k) := by
  have less : Set.InjOn f {x | ((m.erase k).lookup x).isSome} := by
    refine inj.mono fun x member => ?_
    replace member : ((m.erase k).lookup x).isSome := member
    rw [lookup_erase_if] at member
    split at member
    · cases member
    · exact .inl member
  apply Finmap.ext_lookup
  intro x
  apply Option.ext
  intro w
  rw [lookup_rekey_iff less,lookup_erase_if]
  constructor
  · rintro ⟨old,rfl,found⟩
    rw [lookup_erase_if] at found
    split at found
    · cases found
    · rename_i other
      have apart : f old ≠ f k := fun same => other (inj (.inl (by rw [found]; rfl)) (.inr rfl) same)
      rw [if_neg apart,lookup_rekey_iff (inj_held inj)]
      exact ⟨old,rfl,found⟩
  · intro found
    split at found
    · cases found
    · rename_i other
      obtain ⟨old,rfl,held⟩ := (lookup_rekey_iff (inj_held inj)).mp found
      have apart : old ≠ k := fun same => other (congrArg f same)
      exact ⟨old,rfl,by rw [lookup_erase_if,if_neg apart]; exact held⟩

end HashMap
end Lucida.Lib
