import Lucida.Lib.IndexMap

namespace Lucida.Lib

namespace IndexMap
variable {K V : Type} [DecidableEq K]

theorem values_insert_new {m : IndexMap K V} (absent : m.get? k = none) (v : V) : (m.insert k v).values.Perm (v::m.values) := by
  unfold insert values
  rw [dif_pos absent,List.map_append,List.map_singleton]
  exact List.perm_append_singleton v _

theorem values_split {m : IndexMap K V} (found : m.get? k = some v) :
    ∃ rest, m.values.Perm (v::rest) ∧ (m.erase k).values.Perm rest ∧ ∀ w, (m.insert k w).values.Perm (w::rest) := by
  obtain ⟨left,right,shape,leftApart,rightApart⟩ := split_at found
  have stay : ∀ part : List (K × V), (∀ e ∈ part, e.1 ≠ k) → part.filter (fun e => decide (e.1 ≠ k)) = part :=
    fun part apart => List.filter_eq_self.mpr fun e member => by simp [apart e member]
  have keep : ∀ (w : V) (part : List (K × V)), (∀ e ∈ part, e.1 ≠ k) →
      part.map (Prod.snd ∘ fun e => (e.1,if e.1 = k then w else e.2)) = part.map Prod.snd := by
    intro w part apart
    exact List.map_congr_left fun e member => by simp [apart e member]
  refine ⟨left.map Prod.snd ++ right.map Prod.snd,?_,?_,?_⟩
  · unfold values
    rw [shape,List.map_append,List.map_cons]
    exact List.perm_middle
  · unfold values erase retain
    dsimp only
    rw [shape,List.filter_append,List.filter_cons,stay left leftApart,stay right rightApart]
    simp
  · intro w
    have replaced : m.insert k w = m.modify k fun _ => w := by simp [insert,found]
    rw [replaced]
    unfold values modify mapEntries
    dsimp only
    rw [shape,List.map_map,List.map_append,List.map_cons,keep w left leftApart,keep w right rightApart,Function.comp_apply,if_pos rfl]
    exact List.perm_middle

theorem mem_values {m : IndexMap K V} : v ∈ m.values ↔ ∃ k, m.get? k = some v := by
  simp only [values,List.mem_map,Prod.exists,exists_eq_right,mem_entries_iff]

end IndexMap

-- A map of maps: a value stands under a pair of keys.
abbrev NestedMap (K L V : Type) := IndexMap K (IndexMap L V)

namespace NestedMap
variable {K L V : Type} [DecidableEq K] [DecidableEq L] {k k' : K} {l l' : L} {v old : V}

def find? (m : NestedMap K L V) (k : K) (l : L) : Option V := (m.get? k).bind (·.get? l)

def put (m : NestedMap K L V) (k : K) (l : L) (v : V) : NestedMap K L V :=
  m.upsert k fun under => (under.getD .empty).insert l v

def drop (m : NestedMap K L V) (k : K) (l : L) : NestedMap K L V :=
  match m.get? k with
  | none => m
  | some under => if (under.erase l).entries = [] then m.erase k else m.insert k (under.erase l)

def all (m : NestedMap K L V) : List V := m.values.flatMap IndexMap.values

def mapAll (m : NestedMap K L V) (f : K → L → V → V) : NestedMap K L V :=
  m.mapEntries fun k under => under.mapEntries (f k)

theorem find?_of_get? {m : NestedMap K L V} {under : IndexMap L V} (there : m.get? k = some under) : find? m k l = under.get? l := by
  rw [find?,there]
  rfl

theorem mem_all {m : NestedMap K L V} : v ∈ all m ↔ ∃ k l, find? m k l = some v := by
  unfold all
  rw [List.mem_flatMap]
  constructor
  · rintro ⟨under,there,member⟩
    obtain ⟨k,found⟩ := IndexMap.mem_values.mp there
    obtain ⟨l,value⟩ := IndexMap.mem_values.mp member
    exact ⟨k,l,(find?_of_get? found).trans value⟩
  · rintro ⟨k,l,value⟩
    obtain ⟨under,found,inside⟩ := Option.bind_eq_some_iff.mp value
    exact ⟨under,IndexMap.mem_values.mpr ⟨k,found⟩,IndexMap.mem_values.mpr ⟨l,inside⟩⟩

theorem find?_put (m : NestedMap K L V) : find? (put m k l v) k' l' = if k' = k ∧ l' = l then some v else find? m k' l' := by
  unfold find? put
  rw [IndexMap.get?_upsert]
  by_cases outer : k' = k
  · subst outer
    rw [if_pos rfl,Option.bind_some,IndexMap.get?_insert]
    by_cases same : l' = l
    · simp [same]
    · cases there : m.get? k' <;> simp [same]
  · simp [outer]

theorem find?_drop (m : NestedMap K L V) : find? (drop m k l) k' l' = if k' = k ∧ l' = l then none else find? m k' l' := by
  unfold drop
  split
  · rename_i absent
    unfold find?
    split
    · rename_i same
      rw [same.1,absent]
      rfl
    · rfl
  · rename_i under there
    by_cases outer : k' = k
    · subst outer
      split
      · rename_i last
        have inside : (under.erase l).get? l' = none := by
          rw [IndexMap.get?,last]
          rfl
        rw [IndexMap.get?_erase] at inside
        unfold find?
        rw [IndexMap.get?_erase,if_pos rfl,there]
        split
        · rfl
        · rename_i other
          rw [if_neg fun same => other ⟨rfl,same⟩] at inside
          exact inside.symm
      · unfold find?
        rw [IndexMap.get?_insert,if_pos rfl,there,Option.bind_some,IndexMap.get?_erase]
        simp
    · split <;> simp [find?,outer]

omit [DecidableEq L] in
theorem all_split {m : NestedMap K L V} {under : IndexMap L V} (there : m.get? k = some under) :
    ∃ rest : List V, (all m).Perm (under.values ++ rest) ∧ (all (m.erase k)).Perm rest ∧
      ∀ other : IndexMap L V, (all (m.insert k other)).Perm (other.values ++ rest) := by
  obtain ⟨rest,whole,left,replaced⟩ := IndexMap.values_split there
  exact ⟨rest.flatMap IndexMap.values,whole.flatMap_right _,left.flatMap_right _,fun other => (replaced other).flatMap_right _⟩

theorem all_drop {m : NestedMap K L V} (found : find? m k l = some v) : (all m).Perm (v::all (drop m k l)) := by
  obtain ⟨under,there,inside⟩ := Option.bind_eq_some_iff.mp found
  obtain ⟨others,whole,erased,replaced⟩ := all_split there
  obtain ⟨rest,values,left,_⟩ := IndexMap.values_split inside
  have without : (all (drop m k l)).Perm ((under.erase l).values ++ others) := by
    unfold drop
    rw [there]
    dsimp only
    split
    · rename_i last
      unfold IndexMap.values
      rw [last]
      exact erased
    · exact replaced _
  calc all m
    _ |>.Perm (under.values ++ others) := whole
    _ |>.Perm (v::rest ++ others) := values.append_right _
    _ |>.Perm (v::((under.erase l).values ++ others)) := ((left.symm.append_right others).cons v)
    _ |>.Perm (v::all (drop m k l)) := without.symm.cons v

theorem all_put_new {m : NestedMap K L V} (absent : find? m k l = none) : (all (put m k l v)).Perm (v::all m) := by
  unfold put IndexMap.upsert
  cases there : m.get? k with
  | none =>
    have whole := (IndexMap.values_insert_new there (IndexMap.insert IndexMap.empty l v)).flatMap_right IndexMap.values
    have single : (IndexMap.insert IndexMap.empty l v).values = [v] := by simp [IndexMap.insert,IndexMap.empty,IndexMap.values,IndexMap.get?]
    rw [List.flatMap_cons,single] at whole
    exact whole
  | some under =>
    obtain ⟨others,whole,_,replaced⟩ := all_split there
    rw [find?_of_get? there] at absent
    have values := IndexMap.values_insert_new absent v
    exact (replaced _).trans ((values.append_right others).trans (whole.symm.cons v))

theorem all_put_old {m : NestedMap K L V} (found : find? m k l = some old) :
    ∃ rest, (all m).Perm (old::rest) ∧ (all (put m k l v)).Perm (v::rest) := by
  obtain ⟨under,there,inside⟩ := Option.bind_eq_some_iff.mp found
  obtain ⟨others,whole,_,replaced⟩ := all_split there
  obtain ⟨rest,values,_,swapped⟩ := IndexMap.values_split inside
  refine ⟨rest ++ others,whole.trans (values.append_right others),?_⟩
  unfold put IndexMap.upsert
  rw [there]
  exact (replaced _).trans ((swapped v).append_right others)

theorem find?_mapAll (m : NestedMap K L V) (f : K → L → V → V) : find? (mapAll m f) k l = (find? m k l).map (f k l) := by
  unfold find? mapAll
  rw [IndexMap.get?_mapEntries]
  cases there : m.get? k with
  | none => rfl
  | some under => exact IndexMap.get?_mapEntries under _ l

omit [DecidableEq K] [DecidableEq L] in
theorem all_mapAll {W : Type} (m : NestedMap K L V) (f : K → L → V → V) (view : V → W) (kept : ∀ k l v, view (f k l v) = view v) :
    (all (mapAll m f)).map view = (all m).map view := by
  unfold all mapAll IndexMap.values IndexMap.mapEntries
  simp only [List.map_flatMap,List.flatMap_map,List.map_map]
  refine List.flatMap_congr fun e _ => ?_
  simp only [Function.comp_apply,List.map_map]
  exact List.map_congr_left fun inside _ => kept e.1 inside.1 inside.2

end NestedMap
end Lucida.Lib
