import Lucida.Renderer.ChunkKeys
import Lucida.Server.ChunkRead

namespace Lucida.Renderer
open Lib
open Server (Zyx)
open Web (Number)
open Web.Planning (Xyz)

structure LodIndirectionMeta where
  level : Nat
  gridDims : Zyx
  chunkDims : Zyx
  levelDims : Zyx
  offset : Nat
  deriving DecidableEq, Repr

-- No `cz` for a chunk of a slice.
def chunkDistSq (lodMeta : LodIndirectionMeta) (cx cy : Number) (cz : Option Number) (cam : Xyz) : Number :=
  let dx := (cx+1/2)*lodMeta.chunkDims.x/max lodMeta.levelDims.x 1-cam.x
  let dy := (cy+1/2)*lodMeta.chunkDims.y/max lodMeta.levelDims.y 1-cam.y
  match cz with
  | none => dx*dx+dy*dy
  | some cz =>
    let dz := (cz+1/2)*lodMeta.chunkDims.z/max lodMeta.levelDims.z 1-cam.z
    dx*dx+dy*dy+dz*dz

structure FindFarthestParams where
  slots : IndexMap String Nat
  slotGridIdx : List Int
  entityMetas : IndexMap String (List LodIndirectionMeta)
  cameraFor : String → Xyz
  targetLevelFor : String → Option Nat
  is3D : Bool

structure FarthestScan where
  finer : Option (String × Int) := none
  stale : Option String := none
  farthest : Option String := none
  maxDist : Number := -1

section
variable (params : FindFarthestParams)

def finerLevel (memberId : String) (chunk : ParsedChunkKey) : Option Int :=
  match params.targetLevelFor memberId,chunk.level with
  | some target,some level => if level < target then some level else none
  | _,_ => none

def mappedSection (memberId : String) (chunk : ParsedChunkKey) (slotIdx : Nat) : Option LodIndirectionMeta :=
  if params.slotGridIdx[slotIdx]?.any (· < 0) then none
  else (params.entityMetas.get? memberId).bind fun metas => metas.find? fun lod => some (lod.level : Int) = chunk.level

-- None where a part of the key is no number.
def mappedDist (memberId : String) (chunk : ParsedChunkKey) (lodMeta : LodIndirectionMeta) : Option Number :=
  match chunk.x,chunk.y,chunk.z with
  | some x,some y,some z => some (chunkDistSq lodMeta x y (if params.is3D then some (z : Number) else none) (params.cameraFor memberId))
  | some x,some y,none => if params.is3D then none else some (chunkDistSq lodMeta x y none (params.cameraFor memberId))
  | _,_,_ => none

def scanSlot (scan : FarthestScan) (slot : String × Nat) : FarthestScan :=
  match parseCompositeKey slot.1 with
  | none => scan
  | some (memberId,chunkKey) =>
    match parseChunkKey chunkKey with
    | none => scan
    | some chunk =>
      match finerLevel params memberId chunk with
      | some level => if scan.finer.all (level < ·.2) then {scan with finer := some (slot.1,level)} else scan
      | none =>
        if scan.finer.isSome then scan
        else match mappedSection params memberId chunk slot.2 with
          | none => {scan with stale := some (scan.stale.getD slot.1)}
          | some lodMeta =>
            if scan.stale.isSome then scan
            else match mappedDist params memberId chunk lodMeta with
              | none => scan
              | some dist => if scan.maxDist < dist then {scan with farthest := some slot.1, maxDist := dist} else scan

-- Nothing is finer than level 0.
def scanSlots : FarthestScan → List (String × Nat) → FarthestScan
  | scan,[] => scan
  | scan,slot::rest =>
    let scan := scanSlot params scan slot
    if scan.finer.any (·.2 = 0) then scan else scanSlots scan rest

def findFarthestSlot : Option String × WithTop Number :=
  let scan := scanSlots params {} params.slots.entries
  match scan.finer,scan.stale with
  | some (key,_),_ => (some key,⊤)
  | none,some key => (some key,⊤)
  | none,none => (scan.farthest,scan.maxDist)

end

inductive Standing where
  | finer (level : Int)
  | stale
  | mapped (dist : Number)

-- Finer chunks first, then stale ones, then mapped ones.
def Standing.turn : Standing → Number
  | .finer _ => 0
  | .stale => 1
  | .mapped _ => 2

def Standing.place : Standing → Number
  | .finer level => level
  | .stale => 0
  | .mapped dist => -dist

def compareStandings (a b : String × Standing) : ℚ :=
  thenBy (fun a b => a.2.turn-b.2.turn) (fun a b : String × Standing => a.2.place-b.2.place) a b

def Standing.dist : Standing → WithTop Number
  | .mapped dist => dist
  | _ => ⊤

def standing (params : FindFarthestParams) (slot : String × Nat) : Option Standing :=
  (parseCompositeKey slot.1).bind fun composite => (parseChunkKey composite.2).bind fun chunk =>
    match finerLevel params composite.1 chunk with
    | some level => some (.finer level)
    | none => match mappedSection params composite.1 chunk slot.2 with
      | none => some .stale
      | some lodMeta => (mappedDist params composite.1 chunk lodMeta).map .mapped

section
variable {params : FindFarthestParams} {scan : FarthestScan} {done rest : List (String × Nat)} {slot : String × Nat}

theorem chunkDistSq_nonneg (lodMeta : LodIndirectionMeta) (cx cy : Number) (cz : Option Number) (cam : Xyz) :
    0 ≤ chunkDistSq lodMeta cx cy cz cam := by
  unfold chunkDistSq
  cases cz with
  | none => exact add_nonneg (mul_self_nonneg _) (mul_self_nonneg _)
  | some cz => exact add_nonneg (add_nonneg (mul_self_nonneg _) (mul_self_nonneg _)) (mul_self_nonneg _)

theorem standing_mapped_nonneg {dist : Number} (stands : standing params slot = some (.mapped dist)) : 0 ≤ dist := by
  obtain ⟨composite,_,stands⟩ := Option.bind_eq_some_iff.mp stands
  obtain ⟨chunk,_,stands⟩ := Option.bind_eq_some_iff.mp stands
  split at stands
  · cases stands
  · split at stands
    · cases stands
    · obtain ⟨far,measured,same⟩ := Option.map_eq_some_iff.mp stands
      cases same
      unfold mappedDist at measured
      split at measured
      · cases measured
        exact chunkDistSq_nonneg ..
      · split at measured
        · cases measured
        · cases measured
          exact chunkDistSq_nonneg ..
      · cases measured

theorem scanSlot_eq : scanSlot params scan slot = match standing params slot with
    | none => scan
    | some (.finer level) => if scan.finer.all (level < ·.2) then {scan with finer := some (slot.1,level)} else scan
    | some .stale => if scan.finer.isSome then scan else {scan with stale := some (scan.stale.getD slot.1)}
    | some (.mapped dist) =>
      if scan.finer.isSome ∨ scan.stale.isSome then scan
      else if scan.maxDist < dist then {scan with farthest := some slot.1, maxDist := dist} else scan := by
  unfold scanSlot standing
  cases parseCompositeKey slot.1 with
  | none => rfl
  | some composite =>
    obtain ⟨memberId,chunkKey⟩ := composite
    simp only [Option.bind_some]
    cases parseChunkKey chunkKey with
    | none => rfl
    | some chunk =>
      simp only [Option.bind_some]
      cases finerLevel params memberId chunk with
      | some level => rfl
      | none =>
        dsimp only
        cases mappedSection params memberId chunk slot.2 with
        | none => rfl
        | some lodMeta =>
          dsimp only
          cases mappedDist params memberId chunk lodMeta with
          | none => simp
          | some dist =>
            simp only [Option.map_some]
            by_cases finer : scan.finer.isSome = true
            · simp [finer]
            · simp [finer]

theorem consistent_compareStandings : Consistent compareStandings :=
  (consistent_difference fun a : String × Standing => a.2.turn).lexicographic (consistent_difference fun a : String × Standing => a.2.place)

theorem compareStandings_lt {a b : String × Standing} :
    compareStandings a b < 0 ↔ a.2.turn < b.2.turn ∨ a.2.turn = b.2.turn ∧ a.2.place < b.2.place := by
  unfold compareStandings thenBy
  by_cases same : a.2.turn = b.2.turn
  · rw [if_pos (sub_eq_zero.mpr same),sub_neg]
    simp [same]
  · rw [if_neg (sub_ne_zero.mpr same),sub_neg]
    simp [same]

def chosen (scan : FarthestScan) : Option (String × Standing) :=
  match scan.finer,scan.stale,scan.farthest with
  | some (key,level),_,_ => some (key,.finer level)
  | none,some key,_ => some (key,.stale)
  | none,none,some key => some (key,.mapped scan.maxDist)
  | none,none,none => none

def candidate (params : FindFarthestParams) (slot : String × Nat) : Option (String × Standing) := (standing params slot).map fun how => (slot.1,how)

theorem chosen_scanSlot (fresh : scan.farthest = none → scan.maxDist = -1) :
    chosen (scanSlot params scan slot) = (candidate params slot).elim (chosen scan) (keepLeast compareStandings (chosen scan)) ∧
      ((scanSlot params scan slot).farthest = none → (scanSlot params scan slot).maxDist = -1) := by
  rw [scanSlot_eq,candidate]
  cases stands : standing params slot with
  | none => exact ⟨rfl,fresh⟩
  | some how =>
    rw [Option.map_some,Option.elim_some]
    obtain ⟨finer,stale,farthest,maxDist⟩ := scan
    cases how with
    | finer level =>
      obtain _ | ⟨key,least⟩ := finer
      · refine ⟨?_,fresh⟩
        obtain _ | first := stale
        · obtain _ | far := farthest <;> norm_num [chosen,keepLeast,compareStandings_lt,Standing.turn]
        · norm_num [chosen,keepLeast,compareStandings_lt,Standing.turn]
      · by_cases lower : level < least
        · simpa [chosen,keepLeast,compareStandings_lt,Standing.turn,Standing.place,lower] using fresh
        · simpa [chosen,keepLeast,compareStandings_lt,Standing.turn,Standing.place,lower] using fresh
    | stale =>
      obtain _ | ⟨key,least⟩ := finer
      · refine ⟨?_,fresh⟩
        obtain _ | first := stale
        · obtain _ | far := farthest <;> norm_num [chosen,keepLeast,compareStandings_lt,Standing.turn]
        · norm_num [chosen,keepLeast,compareStandings_lt]
      · exact ⟨by norm_num [chosen,keepLeast,compareStandings_lt,Standing.turn],fresh⟩
    | mapped dist =>
      obtain _ | ⟨key,least⟩ := finer
      · obtain _ | first := stale
        · obtain _ | far := farthest
          · have before : maxDist = -1 := fresh rfl
            have some' : maxDist < dist := before ▸ lt_of_lt_of_le (by norm_num) (standing_mapped_nonneg stands)
            simp [chosen,keepLeast,some']
          · by_cases farther : maxDist < dist
            · simp [chosen,keepLeast,compareStandings_lt,Standing.turn,Standing.place,farther]
            · simp [chosen,keepLeast,compareStandings_lt,Standing.turn,Standing.place,farther]
        · exact ⟨by norm_num [chosen,keepLeast,compareStandings_lt,Standing.turn],fresh⟩
      · exact ⟨by norm_num [chosen,keepLeast,compareStandings_lt,Standing.turn],fresh⟩

theorem foldl_keepLeast_least {least : String × Standing} {items : List (String × Standing)}
    (first : ∀ item ∈ items, ¬compareStandings item least < 0) : items.foldl (keepLeast compareStandings) (some least) = some least := by
  induction items with
  | nil => rfl
  | cons item items ih =>
    rw [List.foldl_cons,keepLeast,if_neg (first item List.mem_cons_self)]
    exact ih fun other member => first other (List.mem_cons_of_mem item member)

-- The scan that stops at level 0 chooses as one over all slots, no level being below 0.
theorem chosen_scanSlots (levels : ∀ slot ∈ rest, ∀ level, standing params slot = some (.finer level) → 0 ≤ level)
    (fresh : scan.farthest = none → scan.maxDist = -1) :
    chosen (scanSlots params scan rest) = (rest.filterMap (candidate params)).foldl (keepLeast compareStandings) (chosen scan) ∧
      ((scanSlots params scan rest).farthest = none → (scanSlots params scan rest).maxDist = -1) := by
  induction rest generalizing scan with
  | nil => exact ⟨rfl,fresh⟩
  | cons slot rest ih =>
    obtain ⟨here,fresh'⟩ := @chosen_scanSlot params scan slot fresh
    have levels' : ∀ other ∈ rest, ∀ level, standing params other = some (.finer level) → 0 ≤ level :=
      fun other member => levels other (List.mem_cons_of_mem slot member)
    have step : ((slot::rest).filterMap (candidate params)).foldl (keepLeast compareStandings) (chosen scan) =
        (rest.filterMap (candidate params)).foldl (keepLeast compareStandings) (chosen (scanSlot params scan slot)) := by
      rw [here,List.filterMap_cons]
      cases candidate params slot <;> rfl
    rw [step,scanSlots]
    by_cases finest : (scanSlot params scan slot).finer.any (·.2 = 0) = true
    · rw [if_pos finest]
      refine ⟨?_,fresh'⟩
      obtain ⟨⟨key,level⟩,held,least⟩ := (Option.any_eq_true _ _).mp finest
      have zero : level = 0 := of_decide_eq_true least
      have same : chosen (scanSlot params scan slot) = some (key,.finer 0) := by rw [chosen,held,zero]
      rw [same]
      refine (foldl_keepLeast_least fun item member => ?_).symm
      obtain ⟨other,listed,known⟩ := List.mem_filterMap.mp member
      obtain ⟨how,stands,rfl⟩ := Option.map_eq_some_iff.mp known
      rw [compareStandings_lt]
      cases how with
      | finer level =>
        have above : (0 : Number) ≤ level := Int.cast_nonneg (levels' other listed level stands)
        simpa [Standing.turn,Standing.place] using above
      | stale => norm_num [Standing.turn]
      | mapped dist => norm_num [Standing.turn]
    · rw [if_neg finest]
      exact ih levels' fresh'

theorem findFarthestSlot_eq (params : FindFarthestParams) :
    findFarthestSlot params = ((chosen (scanSlots params {} params.slots.entries)).map (·.1),
      (chosen (scanSlots params {} params.slots.entries)).elim ((scanSlots params {} params.slots.entries).maxDist : WithTop Number) (·.2.dist)) := by
  unfold findFarthestSlot
  obtain ⟨finer,stale,farthest,maxDist⟩ := scanSlots params {} params.slots.entries
  obtain _ | ⟨key,level⟩ := finer
  · obtain _ | first := stale
    · obtain _ | far := farthest <;> rfl
    · rfl
  · rfl

theorem findFarthestSlot_spec (levels : ∀ slot ∈ params.slots.entries, ∀ level, standing params slot = some (.finer level) → 0 ≤ level) :
    (findFarthestSlot params = (none,((-1 : Number) : WithTop Number)) ∧ ∀ slot ∈ params.slots.entries, standing params slot = none) ∨
    ∃ key slotIdx how, findFarthestSlot params = (some key,how.dist) ∧ params.slots.get? key = some slotIdx ∧
      standing params (key,slotIdx) = some how ∧
      ∀ slot ∈ params.slots.entries, ∀ other, standing params slot = some other → compareStandings (key,how) (slot.1,other) ≤ 0 := by
  obtain ⟨whole,fresh⟩ := @chosen_scanSlots params {} params.slots.entries levels fun _ => rfl
  have least := @Consistent.foldl_keepLeast _ _ consistent_compareStandings (params.slots.entries.filterMap (candidate params)) none
  have start : chosen {} = none := rfl
  rw [start] at whole
  rw [← whole] at least
  rw [findFarthestSlot_eq]
  cases result : chosen (scanSlots params {} params.slots.entries) with
  | none =>
    rw [result] at least
    refine .inl ⟨?_,fun slot member => ?_⟩
    · have none' : (scanSlots params {} params.slots.entries).farthest = none := by
        unfold chosen at result
        split at result <;> first | assumption | cases result
      rw [Option.map_none,Option.elim_none,fresh none']
    · have absent := List.filterMap_eq_nil_iff.mp least.2 slot member
      exact Option.map_eq_none_iff.mp absent
  | some best =>
    rw [result] at least
    obtain ⟨from',_,below⟩ := least
    obtain ⟨⟨key,slotIdx⟩,listed,known⟩ := List.mem_filterMap.mp (from'.resolve_left (by simp))
    obtain ⟨how,stands,rfl⟩ := Option.map_eq_some_iff.mp known
    refine .inr ⟨key,slotIdx,how,rfl,IndexMap.mem_entries_iff.mp listed,stands,fun slot member other known => ?_⟩
    exact below (slot.1,other) (List.mem_filterMap.mpr ⟨slot,member,by rw [candidate,known]; rfl⟩)

end

end Lucida.Renderer
