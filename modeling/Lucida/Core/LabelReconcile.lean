import Mathlib.Data.List.Perm.Basic
import Lucida.Core.Display

namespace Lucida.Core
open Content

namespace DatasetDisplaySettings
variable {R : Type}

def recorded (names : List String) (settings : List (LabelSettings R)) (name : String) : List (String × LabelSettings R) :=
  (names.zip settings).filter fun entry => entry.1 = name

theorem getElem?_filter_count {α : Type} {p : α → Bool} {xs : List α} {i : Nat} {x : α} (found : xs[i]? = some x) (hit : p x = true) :
    (xs.filter p)[(xs.take i).countP p]? = some x := by
  induction xs generalizing i with
  | nil => simp at found
  | cons y ys ih =>
    cases i with
    | zero =>
      rw [List.getElem?_cons_zero] at found
      cases found
      simp [hit]
    | succ i =>
      rw [List.getElem?_cons_succ] at found
      have later := ih found
      by_cases here : p y = true
      · simp [here,later]
      · simp [here,later]

theorem length_recorded {names : List String} {settings : List (LabelSettings R)} (parallel : settings.length = names.length) (name : String) :
    (recorded names settings name).length = names.count name := by
  unfold recorded
  induction names generalizing settings with
  | nil => rfl
  | cons first names ih =>
    cases settings with
    | nil => cases parallel
    | cons setting settings =>
      have rest := ih (Nat.succ.inj parallel)
      by_cases same : first = name
      · simp [same,rest]
      · simp [same,rest]

variable [Numeric R]

theorem savedFor_recorded (saved : List (LabelSettings R)) (authorNames : List String) (name : String) (k : Nat) :
    savedFor saved authorNames name k = (((recorded authorNames saved name)[k]?).map Prod.snd).getD .default := by
  have shifted : ∀ (authorNames : List String) (saved : List (LabelSettings R)) (k start : Nat) (all : List (LabelSettings R)), all.drop start = saved →
      ((((authorNames.zipIdx start).filter (·.1 = name))[k]?).elim .default fun found => (all[found.2]?).getD .default) = (((recorded authorNames saved name)[k]?).map Prod.snd).getD .default := by
    intro authorNames
    induction authorNames with
    | nil => exact fun saved k start all same => rfl
    | cons author authorNames ih =>
      intro saved k start all same
      have next : all.drop (start+1) = saved.tail := by rw [← same,List.tail_drop]
      have head : all[start]? = saved.head? := by rw [← same,List.head?_drop]
      rw [List.zipIdx_cons]
      by_cases own : author = name
      · rw [List.filter_cons_of_pos (by simpa using own)]
        cases k with
        | zero =>
          cases saved with
          | nil => simp [recorded,head]
          | cons setting saved => simp [recorded,head,own]
        | succ k =>
          rw [List.getElem?_cons_succ]
          refine (ih saved.tail k (start+1) all next).trans ?_
          cases saved with
          | nil => simp [recorded]
          | cons setting saved => simp [recorded,own]
      · rw [List.filter_cons_of_neg (by simpa using own)]
        refine (ih saved.tail k (start+1) all next).trans ?_
        cases saved with
        | nil => simp [recorded]
        | cons setting saved => simp [recorded,own]
  rw [← shifted authorNames saved k 0 saved rfl]
  unfold savedFor
  cases (authorNames.zipIdx.filter (·.1 = name))[k]? with
  | none => rfl
  | some found => rfl

theorem getElem?_reconcileFrom (saved : List (LabelSettings R)) (authorNames placed currentNames : List String) (i : Nat) :
    (reconcileFrom saved authorNames placed currentNames)[i]? =
      currentNames[i]?.map fun name => savedFor saved authorNames name ((placed ++ currentNames.take i).count name) := by
  induction currentNames generalizing placed i with
  | nil => rfl
  | cons name rest ih =>
    cases i with
    | zero => simp [reconcileFrom]
    | succ i =>
      rw [reconcileFrom,List.getElem?_cons_succ,ih,List.getElem?_cons_succ,List.take_succ_cons,List.append_assoc]
      rfl

section Named
variable {saved : List (LabelSettings R)} {authorNames : List String} (named : authorNames ≠ [])
include named

theorem getElem?_reconcile (currentNames : List String) (i : Nat) :
    (reconcileLabelSettings saved authorNames currentNames)[i]? =
      currentNames[i]?.map fun name => savedFor saved authorNames name ((currentNames.take i).count name) := by
  unfold reconcileLabelSettings
  rw [if_neg (by simpa using named),getElem?_reconcileFrom]
  rfl

-- What the reconciled settings record under a name is what the saved ones do, as often as it occurs.
theorem recorded_reconcile_range (currentNames : List String) (name : String) :
    recorded currentNames (reconcileLabelSettings saved authorNames currentNames) name =
      (List.range (currentNames.count name)).map fun k => (name,savedFor saved authorNames name k) := by
  have placedBefore : ∀ (currentNames placed : List String), recorded currentNames (reconcileFrom saved authorNames placed currentNames) name =
      (List.range' (placed.count name) (currentNames.count name)).map fun k => (name,savedFor saved authorNames name k) := by
    intro currentNames
    induction currentNames with
    | nil => exact fun placed => rfl
    | cons first rest ih =>
      intro placed
      have later := ih (placed ++ [first])
      unfold recorded at later ⊢
      rw [reconcileFrom,List.zip_cons_cons]
      by_cases same : first = name
      · subst same
        rw [List.filter_cons_of_pos (by simp),later,List.count_cons_self,List.range'_succ]
        simp
      · rw [List.filter_cons_of_neg (by simpa using same),later,List.count_cons_of_ne same]
        simp [List.count_append,same]
  unfold reconcileLabelSettings
  rw [if_neg (by simpa using named),placedBefore,List.range_eq_range']
  rfl

theorem recorded_reconcile {currentNames : List String} {name : String} (parallel : saved.length = authorNames.length)
    (often : currentNames.count name = authorNames.count name) :
    recorded currentNames (reconcileLabelSettings saved authorNames currentNames) name = recorded authorNames saved name := by
  rw [recorded_reconcile_range named,often,← length_recorded parallel]
  refine List.ext_getElem? fun k => ?_
  rw [List.getElem?_map]
  by_cases below : k < (recorded authorNames saved name).length
  · rw [List.getElem?_range below,Option.map_some,savedFor_recorded,List.getElem?_eq_getElem below]
    have own : ((recorded authorNames saved name)[k]).1 = name := by
      have member := (List.mem_filter.mp (List.getElem_mem below)).2
      simpa using member
    refine congrArg some (Prod.ext own.symm ?_)
    simp
  · rw [List.getElem?_eq_none (Nat.le_of_not_lt below),List.getElem?_eq_none (by simpa using below)]
    rfl

theorem reconcile_self (parallel : saved.length = authorNames.length) : reconcileLabelSettings saved authorNames authorNames = saved := by
  refine List.ext_getElem? fun i => ?_
  rw [getElem?_reconcile named]
  by_cases below : i < authorNames.length
  · have setting : saved[i]? = some saved[i] := List.getElem?_eq_getElem (parallel ▸ below)
    have entry : (authorNames.zip saved)[i]? = some (authorNames[i],saved[i]) := by
      rw [List.getElem?_zip_eq_some]
      exact ⟨List.getElem?_eq_getElem below,setting⟩
    have placed : ((authorNames.zip saved).take i).countP (fun entry => decide (entry.1 = authorNames[i])) = (authorNames.take i).count authorNames[i] := by
      have names : ((authorNames.zip saved).take i).map Prod.fst = authorNames.take i := by
        rw [List.map_take,List.map_fst_zip (Nat.le_of_eq parallel.symm)]
      rw [← names,List.count,List.countP_map]
      rfl
    have kth : ((authorNames.zip saved).filter fun entry => decide (entry.1 = authorNames[i]))[_]? = _ := getElem?_filter_count entry (by simp)
    rw [List.getElem?_eq_getElem below,Option.map_some,savedFor_recorded,setting]
    unfold recorded
    rw [← placed,kth]
    rfl
  · rw [List.getElem?_eq_none (Nat.le_of_not_lt below),List.getElem?_eq_none (by omega)]
    rfl

end Named

theorem reconcile_congr {saved saved' : List (LabelSettings R)} {authorNames authorNames' : List String} (named : authorNames ≠ [])
    (named' : authorNames' ≠ []) (same : ∀ name, recorded authorNames saved name = recorded authorNames' saved' name) (currentNames : List String) :
    reconcileLabelSettings saved authorNames currentNames = reconcileLabelSettings saved' authorNames' currentNames := by
  refine List.ext_getElem? fun i => ?_
  rw [getElem?_reconcile named,getElem?_reconcile named']
  simp only [savedFor_recorded,same]

theorem length_reconcile (saved : List (LabelSettings R)) (authorNames currentNames : List String) :
    (reconcileLabelSettings saved authorNames currentNames).length = currentNames.length := by
  have named : ∀ placed, (reconcileFrom saved authorNames placed currentNames).length = currentNames.length := by
    induction currentNames with
    | nil => exact fun placed => rfl
    | cons name rest ih => exact fun placed => congrArg Nat.succ (ih (placed ++ [name]))
  unfold reconcileLabelSettings
  split
  · simp
  · exact named []

theorem reconcile_back {settings : List (LabelSettings R)} {names shuffled : List String} (parallel : settings.length = names.length)
    (permuted : shuffled.Perm names) : reconcileLabelSettings (reconcileLabelSettings settings names shuffled) shuffled names = settings := by
  by_cases named : names = []
  · subst named
    cases List.eq_nil_of_length_eq_zero parallel
    cases permuted.eq_nil
    rfl
  · have shuffledNamed : shuffled ≠ [] := by
      rintro rfl
      exact named permuted.symm.eq_nil
    have same : ∀ name, recorded shuffled (reconcileLabelSettings settings names shuffled) name = recorded names settings name := fun name =>
      recorded_reconcile named parallel (permuted.count_eq name)
    rw [reconcile_congr shuffledNamed named same]
    exact reconcile_self named parallel

end DatasetDisplaySettings

open DatasetDisplaySettings

-- Every current label has one entry. The k-th of a name takes the k-th entry saved under it; where no
-- names were saved, the label takes the entry at its place. What has no entry is at the default. And
-- the labels may be put in any order and back.
theorem label_settings_reconcile {R : Type} [Numeric R] (saved : List (LabelSettings R)) (authorNames currentNames : List String) :
    let settings := reconcileLabelSettings saved authorNames currentNames
    settings.length = currentNames.length ∧
    (authorNames ≠ [] → ∀ (i : Nat) (name : String), currentNames[i]? = some name →
      settings[i]? = some ((((authorNames.zip saved).filter fun entry => entry.1 = name)[(currentNames.take i).count name]?.map Prod.snd).getD .default)) ∧
    (authorNames = [] → ∀ i < currentNames.length, settings[i]? = some (saved[i]?.getD .default)) ∧
    (∀ shuffled : List String, shuffled.Perm currentNames →
      reconcileLabelSettings (reconcileLabelSettings settings currentNames shuffled) shuffled currentNames = settings) ∧
    (saved.length = authorNames.length → ∀ shuffled : List String, shuffled.Perm authorNames →
      reconcileLabelSettings (reconcileLabelSettings saved authorNames shuffled) shuffled authorNames = saved) := by
  refine ⟨length_reconcile saved authorNames currentNames,?_,?_,?_,fun parallel shuffled => reconcile_back parallel⟩
  · intro named i name found
    rw [getElem?_reconcile named,found,Option.map_some,savedFor_recorded]
    rfl
  · rintro rfl i below
    simp [reconcileLabelSettings,below]
  · exact fun shuffled => reconcile_back (length_reconcile saved authorNames currentNames)

-- Two labels of one name beside a third, with settings for two of them.
theorem label_settings_reconcile_two_of_a_name :
    let saved : List (LabelSettings Int) := [⟨true,1⟩,⟨true,2⟩,⟨true,3⟩]
    reconcileLabelSettings saved ["a","b","a"] ["a","a","b","a"] = [⟨true,1⟩,⟨true,3⟩,⟨true,2⟩,.default] ∧
      reconcileLabelSettings (reconcileLabelSettings saved ["a","b","a"] ["b","a","a"]) ["b","a","a"] ["a","b","a"] = saved :=
  ⟨by decide,(label_settings_reconcile _ ["a","b","a"] []).2.2.2.2 rfl ["b","a","a"] (by decide)⟩

-- Nothing is saved under the name, and the label takes an entry that is not the default.
theorem unnamed_settings_go_by_place :
    reconcileLabelSettings [(⟨true,1⟩ : LabelSettings Int)] [] ["a"] ≠ [.default] ∧
      (([] : List String).zip [(⟨true,1⟩ : LabelSettings Int)]).filter (fun entry => entry.1 = "a") = [] := by
  decide

end Lucida.Core
