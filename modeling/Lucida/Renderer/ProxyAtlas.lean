import Lucida.Lib.Comparator
import Lucida.Lib.Pool
import Lucida.Lib.Slots
import Lucida.Renderer.Texture
import Lucida.Store.ImportLevels
import Lucida.Web.ProxyStore

namespace Lucida.Renderer
open Lib
open Server (Zyx)
open Store (divCeil)
open Web (ProxyKind)

structure ProxyAtlasLayout where
  capacity : Nat
  slotsX : Nat
  slotsY : Nat
  slotsZ : Nat
  textureSize : Zyx
  deriving DecidableEq, Repr

namespace ProxyAtlasLayout

def allocated (layout : ProxyAtlasLayout) : Nat := layout.slotsX*layout.slotsY*layout.slotsZ

def maxAxis (layout : ProxyAtlasLayout) : Nat := max layout.textureSize.x (max layout.textureSize.y layout.textureSize.z)

def minAxis (layout : ProxyAtlasLayout) : Nat := min layout.textureSize.x (min layout.textureSize.y layout.textureSize.z)

def area (layout : ProxyAtlasLayout) : Nat := layout.textureSize.x*layout.textureSize.y*layout.textureSize.z

end ProxyAtlasLayout

def compareLayouts : ProxyAtlasLayout → ProxyAtlasLayout → ℚ :=
  thenBy (fun a b => a.allocated-b.allocated) <|
    thenBy (fun a b => a.maxAxis-b.maxAxis) <|
      thenBy (fun a b => b.minAxis-a.minAxis) fun a b => a.area-b.area

def candidateLayout (slotDims : Zyx) (maxSlotsZ capacity slotsX slotsY : Nat) : Option ProxyAtlasLayout :=
  let slotsZ := divCeil capacity (slotsX*slotsY)
  if slotsZ < 1 ∨ maxSlotsZ < slotsZ then none
  else some ⟨capacity,slotsX,slotsY,slotsZ,⟨slotsZ*slotDims.z,slotsY*slotDims.y,slotsX*slotDims.x⟩⟩

def searchLayouts (slotDims : Zyx) (maxSlotsX maxSlotsY maxSlotsZ capacity : Nat) : Option ProxyAtlasLayout :=
  (List.range' 1 (min maxSlotsX capacity)).foldl (fun best slotsX =>
    (List.range' 1 (min maxSlotsY (divCeil capacity slotsX))).foldl (fun best slotsY =>
      match candidateLayout slotDims maxSlotsZ capacity slotsX slotsY with
      | none => best
      | some candidate => keepLeast compareLayouts best candidate) best) none

def joinDims (dims : Zyx) : String := toString dims.z ++ "," ++ toString dims.y ++ "," ++ toString dims.x

def computeProxyAtlasLayout (slotDims : Zyx) (requestedCapacity maxTextureDimension3D : Nat) : Except String ProxyAtlasLayout :=
  if slotDims.x = 0 ∨ slotDims.y = 0 ∨ slotDims.z = 0 then .error ("[proxyAtlas] invalid slotDims=" ++ joinDims slotDims)
  else
    let maxSlotsX := maxTextureDimension3D/slotDims.x
    let maxSlotsY := maxTextureDimension3D/slotDims.y
    let maxSlotsZ := maxTextureDimension3D/slotDims.z
    if maxSlotsX < 1 ∨ maxSlotsY < 1 ∨ maxSlotsZ < 1 then
      .error ("[proxyAtlas] slotDims=" ++ joinDims slotDims ++ " exceed maxTextureDimension3D=" ++ toString maxTextureDimension3D)
    else
      let capacity := min (max 1 requestedCapacity) (maxSlotsX*maxSlotsY*maxSlotsZ)
      match searchLayouts slotDims maxSlotsX maxSlotsY maxSlotsZ capacity with
      | none => .error ("[proxyAtlas] cannot pack capacity=" ++ toString capacity ++ " slotDims=" ++ joinDims slotDims ++
          " under maxTextureDimension3D=" ++ toString maxTextureDimension3D)
      | some layout => .ok layout

section Layout
variable {slotDims : Zyx} {limit capacity : Nat} {layout other : ProxyAtlasLayout}

structure Packs (slotDims : Zyx) (limit : Nat) (layout : ProxyAtlasLayout) : Prop where
  someX : 0 < layout.slotsX
  someY : 0 < layout.slotsY
  someZ : 0 < layout.slotsZ
  room : layout.capacity ≤ layout.allocated
  size : layout.textureSize = ⟨layout.slotsZ*slotDims.z,layout.slotsY*slotDims.y,layout.slotsX*slotDims.x⟩
  withinX : layout.textureSize.x ≤ limit
  withinY : layout.textureSize.y ≤ limit
  withinZ : layout.textureSize.z ≤ limit

theorem consistent_compareLayouts : Consistent compareLayouts := by
  have least : Consistent fun a b : ProxyAtlasLayout => (b.minAxis : ℚ)-a.minAxis := by
    have negated := consistent_difference fun a : ProxyAtlasLayout => -(a.minAxis : ℚ)
    have same : (fun a b : ProxyAtlasLayout => -(a.minAxis : ℚ)- -(b.minAxis : ℚ)) = fun a b => (b.minAxis : ℚ)-a.minAxis := by
      funext a b
      ring
    rwa [same] at negated
  exact (consistent_difference fun a : ProxyAtlasLayout => (a.allocated : ℚ)).lexicographic
    ((consistent_difference fun a => (a.maxAxis : ℚ)).lexicographic (least.lexicographic (consistent_difference fun a => (a.area : ℚ))))

theorem le_divCeil_mul (n : Nat) {m : Nat} (some' : 0 < m) : n ≤ divCeil n m*m := by
  rcases Nat.lt_or_ge (divCeil n m*m) n with below | above
  · exact absurd ((lt_roundedUp some').mpr below) (Nat.lt_irrefl _)
  · exact above

theorem divCeil_le {n m k : Nat} (some' : 0 < m) : divCeil n m ≤ k ↔ n ≤ k*m := by
  rw [← Nat.not_lt,← Nat.not_lt]
  exact not_congr (lt_roundedUp some')

theorem divCeil_pos {n m : Nat} (some' : 0 < m) : 0 < divCeil n m ↔ 0 < n := by
  have zero := @lt_roundedUp 0 n m some'
  rwa [Nat.zero_mul] at zero

theorem within_candidates {a b c : Nat} (someCapacity : 0 < capacity) (someA : 0 < a) (someB : 0 < b) (room : capacity ≤ a*b*c) :
    ∃ a' b', (0 < a' ∧ a' ≤ a ∧ a' ≤ capacity) ∧ (0 < b' ∧ b' ≤ b ∧ b' ≤ divCeil capacity a') ∧ divCeil capacity (a'*b') ≤ c := by
  have someC : 0 < c := Nat.pos_of_ne_zero fun zero => by simp [zero] at room; omega
  have someA' : 0 < min a capacity := Nat.lt_min.mpr ⟨someA,someCapacity⟩
  have someB' : 0 < min b (divCeil capacity (min a capacity)) := Nat.lt_min.mpr ⟨someB,(divCeil_pos someA').mpr someCapacity⟩
  refine ⟨min a capacity,min b (divCeil capacity (min a capacity)),⟨someA',Nat.min_le_left _ _,Nat.min_le_right _ _⟩,
    ⟨someB',Nat.min_le_left _ _,Nat.min_le_right _ _⟩,?_⟩
  rw [divCeil_le (Nat.mul_pos someA' someB')]
  rcases Nat.le_total (divCeil capacity (min a capacity)) b with short | long
  · -- The rows of the search alone have room.
    rw [Nat.min_eq_right short]
    calc capacity ≤ divCeil capacity (min a capacity)*min a capacity := le_divCeil_mul capacity someA'
      _ = min a capacity*divCeil capacity (min a capacity) := Nat.mul_comm _ _
      _ ≤ c*(min a capacity*divCeil capacity (min a capacity)) := Nat.le_mul_of_pos_left _ someC
  · rw [Nat.min_eq_left long]
    rcases Nat.le_total a capacity with narrow | wide
    · rw [Nat.min_eq_left narrow,Nat.mul_comm]
      exact room
    · rw [Nat.min_eq_right wide]
      calc capacity ≤ capacity*b := Nat.le_mul_of_pos_right _ someB
        _ ≤ c*(capacity*b) := Nat.le_mul_of_pos_left _ someC

theorem compareLayouts_within (packs : Packs slotDims limit other) (capacity' : other.capacity = layout.capacity)
    (size : layout.textureSize = ⟨layout.slotsZ*slotDims.z,layout.slotsY*slotDims.y,layout.slotsX*slotDims.x⟩)
    (someX : 0 < layout.slotsX) (someY : 0 < layout.slotsY) (inX : layout.slotsX ≤ other.slotsX) (inY : layout.slotsY ≤ other.slotsY)
    (inZ : layout.slotsZ ≤ other.slotsZ) : compareLayouts layout other ≤ 0 := by
  have planes : layout.slotsX*layout.slotsY ≤ other.slotsX*other.slotsY := Nat.mul_le_mul inX inY
  have fewer : layout.allocated ≤ other.allocated := Nat.mul_le_mul planes inZ
  rcases Nat.lt_or_ge layout.allocated other.allocated with less | more
  · have negative : (layout.allocated : ℚ)-other.allocated < 0 := sub_neg.mpr (Nat.cast_lt.mpr less)
    rw [compareLayouts,thenBy,if_neg negative.ne]
    exact negative.le
  · have someZ := packs.someZ
    have sameXY : layout.slotsX*layout.slotsY = other.slotsX*other.slotsY := by
      by_contra differ
      have fewerXY : layout.slotsX*layout.slotsY < other.slotsX*other.slotsY := Nat.lt_of_le_of_ne planes differ
      have less : layout.allocated < other.allocated :=
        Nat.lt_of_le_of_lt (Nat.mul_le_mul_left _ inZ) (Nat.mul_lt_mul_of_pos_right fewerXY someZ)
      omega
    have sameX : layout.slotsX = other.slotsX := by
      by_contra differ
      have less := Nat.mul_lt_mul_of_lt_of_le (Nat.lt_of_le_of_ne inX differ) inY packs.someY
      omega
    have sameY : layout.slotsY = other.slotsY := Nat.eq_of_mul_eq_mul_left someX (by rw [sameXY,sameX])
    have sameZ : layout.slotsZ = other.slotsZ := by
      refine Nat.eq_of_mul_eq_mul_left (Nat.mul_pos someX someY) ?_
      have product : layout.allocated = other.allocated := Nat.le_antisymm fewer more
      unfold ProxyAtlasLayout.allocated at product
      rw [product,sameXY]
    have same : layout = other := by
      have size' := packs.size
      cases layout
      cases other
      simp_all
    rw [same]
    simp [compareLayouts,thenBy]

theorem candidateLayout_eq {maxSlotsZ a b : Nat} (chosen : candidateLayout slotDims maxSlotsZ capacity a b = some layout) :
    0 < layout.slotsZ ∧ layout.slotsZ ≤ maxSlotsZ ∧
      layout = ⟨capacity,a,b,divCeil capacity (a*b),⟨divCeil capacity (a*b)*slotDims.z,b*slotDims.y,a*slotDims.x⟩⟩ := by
  unfold candidateLayout at chosen
  dsimp only at chosen
  split at chosen
  · cases chosen
  · rename_i within
    cases chosen
    dsimp only
    exact ⟨by omega,by omega,rfl⟩

def candidateLayouts (slotDims : Zyx) (maxSlotsX maxSlotsY maxSlotsZ capacity : Nat) : List ProxyAtlasLayout :=
  (List.range' 1 (min maxSlotsX capacity)).flatMap fun slotsX =>
    (List.range' 1 (min maxSlotsY (divCeil capacity slotsX))).filterMap fun slotsY =>
      candidateLayout slotDims maxSlotsZ capacity slotsX slotsY

theorem mem_candidateLayouts {maxSlotsX maxSlotsY maxSlotsZ : Nat} :
    layout ∈ candidateLayouts slotDims maxSlotsX maxSlotsY maxSlotsZ capacity ↔
      ∃ a b, (0 < a ∧ a ≤ min maxSlotsX capacity) ∧ (0 < b ∧ b ≤ min maxSlotsY (divCeil capacity a)) ∧
        candidateLayout slotDims maxSlotsZ capacity a b = some layout := by
  have listed (a n : Nat) : a ∈ List.range' 1 n ↔ 0 < a ∧ a ≤ n := by
    rw [List.mem_range'_1]
    omega
  simp only [candidateLayouts,List.mem_flatMap,List.mem_filterMap,listed]
  exact ⟨fun ⟨a,inA,b,inB,chosen⟩ => ⟨a,b,inA,inB,chosen⟩,fun ⟨a,b,inA,inB,chosen⟩ => ⟨a,inA,b,inB,chosen⟩⟩

theorem searchLayouts_eq (slotDims : Zyx) (maxSlotsX maxSlotsY maxSlotsZ capacity : Nat) :
    searchLayouts slotDims maxSlotsX maxSlotsY maxSlotsZ capacity =
      (candidateLayouts slotDims maxSlotsX maxSlotsY maxSlotsZ capacity).foldl (keepLeast compareLayouts) none := by
  unfold searchLayouts candidateLayouts
  rw [List.foldl_flatMap]
  congr 1
  funext best slotsX
  rw [List.foldl_filterMap]
  congr 1
  funext best slotsY
  cases candidateLayout slotDims maxSlotsZ capacity slotsX slotsY <;> rfl

-- Every grid that packs the capacity is no better than what the search finds, and
-- the search finds something if there is one.
theorem searchLayouts_least {maxSlotsX maxSlotsY maxSlotsZ : Nat} (someCapacity : 0 < capacity) (packs : Packs slotDims limit other)
    (capacity' : other.capacity = capacity) (inX : other.slotsX ≤ maxSlotsX) (inY : other.slotsY ≤ maxSlotsY) (inZ : other.slotsZ ≤ maxSlotsZ) :
    ∃ layout, searchLayouts slotDims maxSlotsX maxSlotsY maxSlotsZ capacity = some layout ∧ compareLayouts layout other ≤ 0 := by
  have room := packs.room
  rw [capacity'] at room
  obtain ⟨a,b,⟨someA,underA,shortA⟩,⟨someB,underB,shortB⟩,deep⟩ := within_candidates someCapacity packs.someX packs.someY room
  have someC : 0 < divCeil capacity (a*b) := (divCeil_pos (Nat.mul_pos someA someB)).mpr someCapacity
  have chosen : candidateLayout slotDims maxSlotsZ capacity a b =
      some ⟨capacity,a,b,divCeil capacity (a*b),⟨divCeil capacity (a*b)*slotDims.z,b*slotDims.y,a*slotDims.x⟩⟩ := by
    unfold candidateLayout
    exact if_neg (by omega)
  have member := (@mem_candidateLayouts _ _ _ maxSlotsX maxSlotsY maxSlotsZ).mpr
    ⟨a,b,⟨someA,Nat.le_min.mpr ⟨underA.trans inX,shortA⟩⟩,⟨someB,Nat.le_min.mpr ⟨underB.trans inY,shortB⟩⟩,chosen⟩
  have least := @Consistent.foldl_keepLeast _ _ consistent_compareLayouts
    (candidateLayouts slotDims maxSlotsX maxSlotsY maxSlotsZ capacity) none
  rw [← searchLayouts_eq] at least
  cases found : searchLayouts slotDims maxSlotsX maxSlotsY maxSlotsZ capacity with
  | none =>
    rw [found] at least
    rw [least.2] at member
    cases member
  | some layout =>
    rw [found] at least
    exact ⟨layout,rfl,consistent_compareLayouts.trans _ _ _ (least.2.2 _ member)
      (compareLayouts_within packs capacity' rfl someA someB underA underB deep)⟩

theorem searchLayouts_packs {maxSlotsX maxSlotsY maxSlotsZ : Nat} (inX : maxSlotsX*slotDims.x ≤ limit) (inY : maxSlotsY*slotDims.y ≤ limit)
    (inZ : maxSlotsZ*slotDims.z ≤ limit) (found : searchLayouts slotDims maxSlotsX maxSlotsY maxSlotsZ capacity = some layout) :
    Packs slotDims limit layout ∧ layout.capacity = capacity := by
  have least := @Consistent.foldl_keepLeast _ _ consistent_compareLayouts
    (candidateLayouts slotDims maxSlotsX maxSlotsY maxSlotsZ capacity) none
  rw [← searchLayouts_eq,found] at least
  obtain ⟨a,b,⟨someA,shortA⟩,⟨someB,shortB⟩,chosen⟩ := mem_candidateLayouts.mp (least.1.resolve_left nofun)
  obtain ⟨someC,shortC,same⟩ := candidateLayout_eq chosen
  rw [same] at someC shortC ⊢
  dsimp only at someC shortC
  refine ⟨⟨someA,someB,someC,?_,rfl,(Nat.mul_le_mul_right _ (by omega)).trans inX,(Nat.mul_le_mul_right _ (by omega)).trans inY,
    (Nat.mul_le_mul_right _ shortC).trans inZ⟩,rfl⟩
  exact (le_divCeil_mul capacity (Nat.mul_pos someA someB)).trans_eq (Nat.mul_comm _ _)

-- The search finds a packing with room for the request, or for as much as any
-- packing has room for, and no packing of that much comes before it.
theorem computeProxyAtlasLayout_least (slotDims : Zyx) (requestedCapacity limit : Nat) :
    match computeProxyAtlasLayout slotDims requestedCapacity limit with
    | .error _ => (slotDims.x = 0 ∨ slotDims.y = 0 ∨ slotDims.z = 0) ∨ ∀ layout, ¬Packs slotDims limit layout
    | .ok layout => Packs slotDims limit layout ∧ 1 ≤ layout.capacity ∧ layout.capacity ≤ max 1 requestedCapacity ∧
        (∀ other, Packs slotDims limit other → min other.capacity (max 1 requestedCapacity) ≤ layout.capacity) ∧
        ∀ other, Packs slotDims limit other → other.capacity = layout.capacity → compareLayouts layout other ≤ 0 := by
  unfold computeProxyAtlasLayout
  by_cases empty : slotDims.x = 0 ∨ slotDims.y = 0 ∨ slotDims.z = 0
  · rw [if_pos empty]
    exact .inl empty
  · rw [if_neg empty]
    have someDimX : 0 < slotDims.x := by omega
    have someDimY : 0 < slotDims.y := by omega
    have someDimZ : 0 < slotDims.z := by omega
    -- What a packing says of the counts along each axis.
    have counts : ∀ other, Packs slotDims limit other → other.slotsX ≤ limit/slotDims.x ∧ other.slotsY ≤ limit/slotDims.y ∧
        other.slotsZ ≤ limit/slotDims.z := by
      intro other packs
      have size := packs.size
      have withinX := packs.withinX
      have withinY := packs.withinY
      have withinZ := packs.withinZ
      rw [size] at withinX withinY withinZ
      exact ⟨(Nat.le_div_iff_mul_le someDimX).mpr withinX,(Nat.le_div_iff_mul_le someDimY).mpr withinY,
        (Nat.le_div_iff_mul_le someDimZ).mpr withinZ⟩
    dsimp only
    by_cases large : limit/slotDims.x < 1 ∨ limit/slotDims.y < 1 ∨ limit/slotDims.z < 1
    · rw [if_pos large]
      refine .inr fun other packs => ?_
      obtain ⟨inX,inY,inZ⟩ := counts other packs
      have someX := packs.someX
      have someY := packs.someY
      have someZ := packs.someZ
      omega
    · rw [if_neg large]
      have someX : 0 < limit/slotDims.x := by omega
      have someY : 0 < limit/slotDims.y := by omega
      have someZ : 0 < limit/slotDims.z := by omega
      have full : Packs slotDims limit ⟨min (max 1 requestedCapacity) (limit/slotDims.x*(limit/slotDims.y)*(limit/slotDims.z)),
          limit/slotDims.x,limit/slotDims.y,limit/slotDims.z,
          ⟨limit/slotDims.z*slotDims.z,limit/slotDims.y*slotDims.y,limit/slotDims.x*slotDims.x⟩⟩ :=
        ⟨someX,someY,someZ,Nat.min_le_right _ _,rfl,Nat.div_mul_le_self _ _,Nat.div_mul_le_self _ _,Nat.div_mul_le_self _ _⟩
      have someCapacity : 0 < min (max 1 requestedCapacity) (limit/slotDims.x*(limit/slotDims.y)*(limit/slotDims.z)) :=
        Nat.lt_min.mpr ⟨Nat.lt_of_lt_of_le Nat.one_pos (Nat.le_max_left _ _),Nat.mul_pos (Nat.mul_pos someX someY) someZ⟩
      obtain ⟨layout,found,_⟩ := searchLayouts_least someCapacity full rfl (Nat.le_refl _) (Nat.le_refl _) (Nat.le_refl _)
      obtain ⟨packs,capacity'⟩ := searchLayouts_packs (Nat.div_mul_le_self _ _) (Nat.div_mul_le_self _ _) (Nat.div_mul_le_self _ _) found
      rw [found]
      refine ⟨packs,capacity' ▸ someCapacity,capacity' ▸ Nat.min_le_left _ _,fun other packs' => ?_,fun other packs' same => ?_⟩
      · obtain ⟨inX,inY,inZ⟩ := counts other packs'
        have room : other.capacity ≤ limit/slotDims.x*(limit/slotDims.y)*(limit/slotDims.z) :=
          packs'.room.trans (Nat.mul_le_mul (Nat.mul_le_mul inX inY) inZ)
        rw [capacity']
        exact Nat.le_min.mpr ⟨Nat.min_le_right _ _,(Nat.min_le_left _ _).trans room⟩
      · obtain ⟨inX,inY,inZ⟩ := counts other packs'
        obtain ⟨layout',found',below⟩ := searchLayouts_least someCapacity packs' (same.trans capacity') inX inY inZ
        rw [found] at found'
        cases found'
        exact below

end Layout

-- The free slots are a stack, its top first. Keys are touched oldest first.
structure ProxyAtlasState where
  texture : Texture
  slots : IndexMap String Nat
  freeSlots : List Nat
  capacity : Nat
  requestedCapacity : Nat
  slotDims : Zyx
  slotsX : Nat
  slotsY : Nat
  slotsZ : Nat
  kind : ProxyKind
  channel : Nat
  touchOrder : List String

structure ProxyHandle where
  poolKey : String
  slotIndex : Nat
  deriving DecidableEq, Repr

structure ProxySlotAllocation where
  slotIndex : Nat
  evictedKey : Option String
  deriving DecidableEq, Repr

def proxyPoolKey (datasetId : String) (kind : ProxyKind) (slotDims : Zyx) (channel : Nat) : String :=
  datasetId ++ "|proxy|" ++ kind.name ++ "|" ++ toString slotDims.x ++ "x" ++ toString slotDims.y ++ "x" ++ toString slotDims.z ++
    "|ch" ++ toString channel

def proxySlotKey (entityId : String) (t c : Nat) : String := entityId ++ "|" ++ toString t ++ "|" ++ toString c

def createProxyAtlas (maxTextureDimension3D : Nat) (kind : ProxyKind) (slotDims : Zyx) (channel capacity : Nat) : Except String ProxyAtlasState := do
  let layout ← computeProxyAtlasLayout slotDims capacity maxTextureDimension3D
  return {
    texture := .create layout.textureSize
    slots := .empty
    freeSlots := List.range layout.capacity
    capacity := layout.capacity
    requestedCapacity := max 1 capacity
    slotDims := slotDims
    slotsX := layout.slotsX
    slotsY := layout.slotsY
    slotsZ := layout.slotsZ
    kind := kind
    channel := channel
    touchOrder := [] }

def moveToEnd (order : List String) (key : String) : List String :=
  match order.idxOf? key with
  | none => order
  | some index => if index = order.length-1 then order else order.eraseIdx index ++ [key]

def allocateProxySlotWithEviction (atlas : ProxyAtlasState) (key : String) : Except String (ProxyAtlasState × ProxySlotAllocation) :=
  match atlas.slots.get? key with
  | some existing => .ok ({atlas with touchOrder := moveToEnd atlas.touchOrder key},⟨existing,none⟩)
  | none =>
    match atlas.freeSlots,atlas.touchOrder with
    | slotIndex::freeSlots,_ =>
      .ok ({atlas with freeSlots := freeSlots, slots := atlas.slots.insert key slotIndex, touchOrder := atlas.touchOrder ++ [key]},⟨slotIndex,none⟩)
    | [],[] => .error ("[proxyAtlas] cannot allocate: full and empty touchOrder (capacity=" ++ toString atlas.capacity ++ ")")
    | [],victim::touchOrder =>
      -- The slot is read with `!`: each key of the order is there.
      let slotIndex := (atlas.slots.get? victim).getD 0
      .ok ({atlas with slots := (atlas.slots.erase victim).insert key slotIndex, touchOrder := touchOrder ++ [key]},⟨slotIndex,some victim⟩)

def touchProxySlot (atlas : ProxyAtlasState) (key : String) : ProxyAtlasState :=
  if atlas.slots.get? key = none then atlas else {atlas with touchOrder := moveToEnd atlas.touchOrder key}

def releaseProxySlot (atlas : ProxyAtlasState) (key : String) : ProxyAtlasState × Option Nat :=
  match atlas.slots.get? key with
  | none => (atlas,none)
  | some slotIndex => ({atlas with
      slots := atlas.slots.erase key
      touchOrder := atlas.touchOrder.erase key
      freeSlots := if slotIndex ∈ atlas.freeSlots then atlas.freeSlots else slotIndex::atlas.freeSlots},some slotIndex)

def proxySlotOrigin (atlas : ProxyAtlasState) (slotIndex : Nat) : Zyx :=
  tileOrigin atlas.slotDims (slotTile atlas.slotsX atlas.slotsY slotIndex)

section Residency
variable {atlas next : ProxyAtlasState} {key other : String} {allocation : ProxySlotAllocation}

-- Every slot is free or resident under one key, the order lists the resident
-- keys, and the slots are in the texture.
structure ProxyAtlasState.WellFormed (atlas : ProxyAtlasState) : Prop where
  slotted : Slotted atlas.slots atlas.freeSlots atlas.capacity
  someSlot : 0 < atlas.capacity
  distinct : atlas.touchOrder.Nodup
  resident : ∀ key, key ∈ atlas.touchOrder ↔ (atlas.slots.get? key).isSome
  room : atlas.capacity ≤ atlas.slotsX*atlas.slotsY*atlas.slotsZ
  size : atlas.texture.size = ⟨atlas.slotsZ*atlas.slotDims.z,atlas.slotsY*atlas.slotDims.y,atlas.slotsX*atlas.slotDims.x⟩

-- What no allocation, touch or release changes.
structure ProxyAtlasState.Frame (atlas next : ProxyAtlasState) : Prop where
  texture : next.texture = atlas.texture
  capacity : next.capacity = atlas.capacity
  requested : next.requestedCapacity = atlas.requestedCapacity
  dims : next.slotDims = atlas.slotDims
  grid : next.slotsX = atlas.slotsX ∧ next.slotsY = atlas.slotsY ∧ next.slotsZ = atlas.slotsZ
  kind : next.kind = atlas.kind
  channel : next.channel = atlas.channel

theorem ProxyAtlasState.Frame.wellFormed (frame : atlas.Frame next) (wellFormed : atlas.WellFormed)
    (slotted : Slotted next.slots next.freeSlots atlas.capacity) (distinct : next.touchOrder.Nodup)
    (resident : ∀ key, key ∈ next.touchOrder ↔ (next.slots.get? key).isSome) : next.WellFormed := by
  obtain ⟨texture,capacity,_,dims,⟨x,y,z⟩,_,_⟩ := frame
  exact ⟨capacity ▸ slotted,capacity ▸ wellFormed.someSlot,distinct,resident,by rw [capacity,x,y,z]; exact wellFormed.room,
    by rw [texture,x,y,z,dims]; exact wellFormed.size⟩

theorem erase_eq_filter {order : List String} (distinct : order.Nodup) (key : String) : order.erase key = order.filter (· ≠ key) := by
  rw [distinct.erase_eq_filter]
  exact List.filter_congr fun other _ => by by_cases same : other = key <;> simp [same]

theorem moveToEnd_eq {order : List String} (member : key ∈ order) (distinct : order.Nodup) :
    moveToEnd order key = order.filter (· ≠ key) ++ [key] := by
  unfold moveToEnd
  cases found : order.idxOf? key with
  | none => exact absurd member (List.idxOf?_eq_none_iff.mp found)
  | some index =>
    have erased : order.erase key = order.eraseIdx index := by rw [List.erase_eq_eraseIdx,found]
    obtain ⟨short,here,_⟩ := List.idxOf?_eq_some_iff.mp found
    rw [← erase_eq_filter distinct,erased]
    dsimp only
    split
    · rename_i last
      have some' : order ≠ [] := List.ne_nil_of_length_pos (Nat.zero_lt_of_lt short)
      have final : order.getLast some' = key := by
        rw [List.getLast_eq_getElem]
        simpa only [← last] using here
      rw [List.eraseIdx_eq_dropLast (by omega : index+1 = order.length),← final,List.dropLast_append_getLast]
    · rfl

-- What a call for a slot does: the key is resident and last, and of the others the
-- one that was first in the order is gone if there was no other slot to give.
structure Allocated (atlas : ProxyAtlasState) (key : String) (next : ProxyAtlasState) (allocation : ProxySlotAllocation) : Prop where
  frame : atlas.Frame next
  wellFormed : next.WellFormed
  evicted : allocation.evictedKey =
    if (atlas.slots.get? key).isSome ∨ atlas.freeSlots ≠ [] then none else atlas.touchOrder.head?
  slots : ∀ other, next.slots.get? other =
    if other = key then some allocation.slotIndex else if allocation.evictedKey = some other then none else atlas.slots.get? other
  order : next.touchOrder = atlas.touchOrder.filter (fun other => other ≠ key ∧ allocation.evictedKey ≠ some other) ++ [key]
  same : ∀ slotIndex, atlas.slots.get? key = some slotIndex → slotIndex = allocation.slotIndex
  free : atlas.slots.get? key = none → atlas.freeSlots ≠ [] → allocation.slotIndex ∈ atlas.freeSlots
  passed : ∀ victim, allocation.evictedKey = some victim → atlas.slots.get? victim = some allocation.slotIndex

theorem nodup_concat {order : List String} (distinct : order.Nodup) (absent : key ∉ order) : (order ++ [key]).Nodup := by
  rw [List.nodup_append]
  refine ⟨distinct,List.nodup_singleton key,fun other member last single => ?_⟩
  cases List.mem_singleton.mp single
  exact fun same => absent (same ▸ member)

theorem allocate_held {existing : Nat} (wellFormed : atlas.WellFormed) (found : atlas.slots.get? key = some existing) :
    Allocated atlas key {atlas with touchOrder := moveToEnd atlas.touchOrder key} ⟨existing,none⟩ := by
  have member : key ∈ atlas.touchOrder := (wellFormed.resident key).mpr (by rw [found]; rfl)
  have moved := moveToEnd_eq member wellFormed.distinct
  have frame : atlas.Frame {atlas with touchOrder := moveToEnd atlas.touchOrder key} := ⟨rfl,rfl,rfl,rfl,⟨rfl,rfl,rfl⟩,rfl,rfl⟩
  have distinct : (moveToEnd atlas.touchOrder key).Nodup := by
    rw [moved]
    exact nodup_concat (wellFormed.distinct.filter _) (by simp)
  refine ⟨frame,frame.wellFormed wellFormed wellFormed.slotted distinct fun other => ?_,?_,fun other => ?_,?_,?_,?_,by simp⟩
  · rw [← wellFormed.resident other,moved,List.mem_append,List.mem_filter,List.mem_singleton,decide_eq_true_eq]
    by_cases same : other = key
    · simp [same,member]
    · simp [same]
  · simp [found]
  · by_cases same : other = key
    · rw [if_pos same,same,found]
    · rw [if_neg same,if_neg (by simp)]
  · simpa using moved
  · exact fun slotIndex same => Option.some.inj (same.symm.trans found)
  · simp [found]

theorem not_touched (wellFormed : atlas.WellFormed) (found : atlas.slots.get? key = none) : key ∉ atlas.touchOrder := by
  intro member
  have there := (wellFormed.resident key).mp member
  rw [found] at there
  cases there

theorem allocate_free {slotIndex : Nat} {freeSlots : List Nat} (wellFormed : atlas.WellFormed) (found : atlas.slots.get? key = none)
    (free : atlas.freeSlots = slotIndex::freeSlots) :
    Allocated atlas key {atlas with freeSlots := freeSlots, slots := atlas.slots.insert key slotIndex, touchOrder := atlas.touchOrder ++ [key]}
      ⟨slotIndex,none⟩ := by
  have absent := not_touched wellFormed found
  have slotted := wellFormed.slotted
  rw [free] at slotted
  have frame : atlas.Frame {atlas with freeSlots := freeSlots, slots := atlas.slots.insert key slotIndex, touchOrder := atlas.touchOrder ++ [key]} :=
    ⟨rfl,rfl,rfl,rfl,⟨rfl,rfl,rfl⟩,rfl,rfl⟩
  have others : atlas.touchOrder.filter (fun other => other ≠ key) = atlas.touchOrder :=
    List.filter_eq_self.mpr fun other member => decide_eq_true fun same => absent (same ▸ member)
  refine ⟨frame,frame.wellFormed wellFormed (slotted.take found) (nodup_concat wellFormed.distinct absent) fun other => ?_,?_,
    fun other => ?_,?_,by simp [found],?_,by simp⟩
  · rw [List.mem_append,List.mem_singleton,wellFormed.resident,IndexMap.get?_insert]
    by_cases same : other = key
    · simp [same]
    · simp [same]
  · simp [free]
  · simp [IndexMap.get?_insert]
  · simpa using others.symm
  · simp [free]

-- With no slot free and none held there would be no slot at all.
theorem touched_of_full (wellFormed : atlas.WellFormed) (free : atlas.freeSlots = []) : atlas.touchOrder ≠ [] := by
  intro order
  have count := wellFormed.slotted.count
  have some' := wellFormed.someSlot
  rw [free,List.length_nil,Nat.zero_add] at count
  obtain ⟨first,member⟩ := List.exists_mem_of_length_pos (count ▸ some')
  obtain ⟨slotIndex,there⟩ := IndexMap.mem_keys_iff.mp member
  have listed := (wellFormed.resident first).mpr (by rw [there]; rfl)
  rw [order] at listed
  cases listed

theorem allocate_evicts {victim : String} {rest : List String} {slotIndex : Nat} (wellFormed : atlas.WellFormed)
    (found : atlas.slots.get? key = none) (free : atlas.freeSlots = []) (order : atlas.touchOrder = victim::rest)
    (held : atlas.slots.get? victim = some slotIndex) :
    Allocated atlas key {atlas with slots := (atlas.slots.erase victim).insert key slotIndex, touchOrder := rest ++ [key]}
      ⟨slotIndex,some victim⟩ := by
  have distinct := wellFormed.distinct
  have absent := not_touched wellFormed found
  have slotted := wellFormed.slotted
  rw [order] at distinct absent
  obtain ⟨once,distinct⟩ := List.nodup_cons.mp distinct
  have apart : victim ≠ key := fun same => absent (same ▸ List.mem_cons_self)
  have frame : atlas.Frame {atlas with slots := (atlas.slots.erase victim).insert key slotIndex, touchOrder := rest ++ [key]} :=
    ⟨rfl,rfl,rfl,rfl,⟨rfl,rfl,rfl⟩,rfl,rfl⟩
  refine ⟨frame,frame.wellFormed wellFormed (slotted.pass held found)
    (nodup_concat distinct fun member => absent (List.mem_cons_of_mem victim member)) fun other => ?_,?_,fun other => ?_,?_,
    by simp [found],by simp [free],fun _ same => (Option.some.inj same) ▸ held⟩
  · rw [List.mem_append,List.mem_singleton,IndexMap.get?_insert,IndexMap.get?_erase]
    have known := wellFormed.resident other
    rw [order,List.mem_cons] at known
    by_cases same : other = key
    · simp [same]
    · by_cases gone : other = victim
      · simp [gone,apart,once]
      · simpa [same,gone] using known
  · simp [found,free,order]
  · rw [IndexMap.get?_insert,IndexMap.get?_erase]
    by_cases same : other = key
    · simp [same]
    · by_cases gone : other = victim
      · simp [gone,apart]
      · have other' : some victim ≠ some other := fun equal => gone (Option.some.inj equal).symm
        simp [same,gone,other']
  · have later : rest.filter (fun other => other ≠ key ∧ some victim ≠ some other) = rest := by
      refine List.filter_eq_self.mpr fun other member => decide_eq_true ⟨fun same => ?_,fun same => ?_⟩
      · exact absent (same ▸ List.mem_cons_of_mem victim member)
      · exact once (Option.some.inj same ▸ member)
    rw [order,List.filter_cons,if_neg (by simp),later]

theorem allocate_spec (wellFormed : atlas.WellFormed) (key : String) :
    ∃ next allocation, allocateProxySlotWithEviction atlas key = .ok (next,allocation) ∧ Allocated atlas key next allocation := by
  unfold allocateProxySlotWithEviction
  cases found : atlas.slots.get? key with
  | some existing => exact ⟨_,_,rfl,allocate_held wellFormed found⟩
  | none =>
    cases free : atlas.freeSlots with
    | cons slotIndex freeSlots => exact ⟨_,_,rfl,allocate_free wellFormed found free⟩
    | nil =>
      cases order : atlas.touchOrder with
      | nil => exact absurd order (touched_of_full wellFormed free)
      | cons victim rest =>
        obtain ⟨slotIndex,held⟩ := Option.isSome_iff_exists.mp ((wellFormed.resident victim).mp (order ▸ List.mem_cons_self))
        refine ⟨_,_,rfl,?_⟩
        rw [held,Option.getD_some,← free]
        exact allocate_evicts wellFormed found free order held

structure Released (atlas : ProxyAtlasState) (key : String) (next : ProxyAtlasState) : Prop where
  frame : atlas.Frame next
  wellFormed : next.WellFormed
  slots : ∀ other, next.slots.get? other = if other = key then none else atlas.slots.get? other
  order : next.touchOrder = atlas.touchOrder.filter (· ≠ key)

theorem release_spec (wellFormed : atlas.WellFormed) (key : String) :
    (releaseProxySlot atlas key).2 = atlas.slots.get? key ∧ Released atlas key (releaseProxySlot atlas key).1 := by
  unfold releaseProxySlot
  cases found : atlas.slots.get? key with
  | none =>
    have absent : ∀ other ∈ atlas.touchOrder, other ≠ key := fun other member same => by
      have there := (wellFormed.resident key).mp (same ▸ member)
      rw [found] at there
      cases there
    refine ⟨rfl,⟨rfl,rfl,rfl,rfl,⟨rfl,rfl,rfl⟩,rfl,rfl⟩,wellFormed,fun other => ?_,?_⟩
    · by_cases same : other = key
      · rw [if_pos same,same,found]
      · rw [if_neg same]
    · exact (List.filter_eq_self.mpr fun other member => decide_eq_true (absent other member)).symm
  | some slotIndex =>
    have slotted := wellFormed.slotted.release found
    have order := erase_eq_filter wellFormed.distinct key
    dsimp only
    rw [if_neg (wellFormed.slotted.not_free found),order]
    have frame : atlas.Frame {atlas with slots := atlas.slots.erase key, touchOrder := atlas.touchOrder.filter (· ≠ key), freeSlots := slotIndex::atlas.freeSlots} :=
      ⟨rfl,rfl,rfl,rfl,⟨rfl,rfl,rfl⟩,rfl,rfl⟩
    refine ⟨rfl,frame,frame.wellFormed wellFormed slotted (wellFormed.distinct.filter _) fun other => ?_,fun other => ?_,rfl⟩
    · rw [List.mem_filter,wellFormed.resident,IndexMap.get?_erase,decide_eq_true_eq]
      by_cases same : other = key
      · simp [same]
      · simp [same]
    · rw [IndexMap.get?_erase]

theorem touch_spec (wellFormed : atlas.WellFormed) (key : String) :
    (touchProxySlot atlas key).WellFormed ∧ atlas.Frame (touchProxySlot atlas key) ∧ (touchProxySlot atlas key).slots = atlas.slots ∧
      (touchProxySlot atlas key).touchOrder =
        if (atlas.slots.get? key).isSome then atlas.touchOrder.filter (· ≠ key) ++ [key] else atlas.touchOrder := by
  unfold touchProxySlot
  cases found : atlas.slots.get? key with
  | none =>
    rw [if_pos rfl]
    exact ⟨wellFormed,⟨rfl,rfl,rfl,rfl,⟨rfl,rfl,rfl⟩,rfl,rfl⟩,rfl,rfl⟩
  | some slotIndex =>
    have member : key ∈ atlas.touchOrder := (wellFormed.resident key).mpr (by rw [found]; rfl)
    rw [if_neg nofun,moveToEnd_eq member wellFormed.distinct]
    have frame : atlas.Frame {atlas with touchOrder := atlas.touchOrder.filter (· ≠ key) ++ [key]} := ⟨rfl,rfl,rfl,rfl,⟨rfl,rfl,rfl⟩,rfl,rfl⟩
    refine ⟨frame.wellFormed wellFormed wellFormed.slotted (nodup_concat (wellFormed.distinct.filter _) (by simp)) fun other => ?_,frame,rfl,rfl⟩
    rw [← wellFormed.resident other,List.mem_append,List.mem_filter,List.mem_singleton,decide_eq_true_eq]
    by_cases same : other = key
    · simp [same,member]
    · simp [same]

theorem create_spec {limit capacity channel : Nat} {kind : ProxyKind} {slotDims : Zyx}
    (created : createProxyAtlas limit kind slotDims channel capacity = .ok atlas) :
    atlas.WellFormed ∧ atlas.slots = .empty ∧ atlas.touchOrder = [] ∧ atlas.kind = kind ∧ atlas.channel = channel ∧ atlas.slotDims = slotDims := by
  unfold createProxyAtlas at created
  have least := computeProxyAtlasLayout_least slotDims capacity limit
  cases found : computeProxyAtlasLayout slotDims capacity limit with
  | error text =>
    rw [found] at created
    cases created
  | ok layout =>
    rw [found] at created least
    cases created
    obtain ⟨packs,someCapacity,_⟩ := least
    exact ⟨⟨Slotted.fresh layout.capacity,someCapacity,List.nodup_nil,by simp,packs.room,packs.size⟩,rfl,rfl,rfl,rfl,rfl⟩

inductive ProxyAct where
  | allocate (key : String)
  | touch (key : String)
  | release (key : String)
  deriving DecidableEq, Repr

def ProxyAct.perform (atlas : ProxyAtlasState) : ProxyAct → Except String ProxyAtlasState
  | .allocate key => (allocateProxySlotWithEviction atlas key).map Prod.fst
  | .touch key => .ok (touchProxySlot atlas key)
  | .release key => .ok (releaseProxySlot atlas key).1

def usedKeys (acts : List ProxyAct) : List String :=
  acts.filterMap fun act => match act with
    | .allocate key => some key
    | .touch key => some key
    | .release _ => none

structure LastUsed (acts : List ProxyAct) (atlas : ProxyAtlasState) : Prop where
  wellFormed : atlas.WellFormed
  order : atlas.touchOrder = (usedKeys acts).dedup.filter fun key => (atlas.slots.get? key).isSome

theorem usedKeys_concat (acts : List ProxyAct) (act : ProxyAct) : usedKeys (acts ++ [act]) = usedKeys acts ++ usedKeys [act] :=
  List.filterMap_append

theorem lastUsed_step {acts : List ProxyAct} (used : LastUsed acts atlas) (act : ProxyAct) :
    ∃ next, act.perform atlas = .ok next ∧ atlas.Frame next ∧ LastUsed (acts ++ [act]) next := by
  cases act with
  | allocate key =>
    obtain ⟨next,allocation,done,allocated⟩ := allocate_spec used.wellFormed key
    refine ⟨next,by rw [ProxyAct.perform,done]; rfl,allocated.frame,allocated.wellFormed,?_⟩
    have last : usedKeys [.allocate key] = [key] := rfl
    rw [allocated.order,used.order,usedKeys_concat,last,dedup_concat,List.filter_append,List.filter_filter,List.filter_filter]
    congr 1
    · refine List.filter_congr fun other _ => ?_
      rw [allocated.slots]
      by_cases same : other = key
      · simp [same]
      · by_cases gone : allocation.evictedKey = some other
        · simp [same,gone]
        · simp [same,gone]
    · rw [List.filter_singleton,allocated.slots]
      simp
  | touch key =>
    obtain ⟨wellFormed,frame,slots,order⟩ := touch_spec used.wellFormed key
    refine ⟨_,rfl,frame,wellFormed,?_⟩
    have last : usedKeys [.touch key] = [key] := rfl
    rw [order,slots,used.order,usedKeys_concat,last,dedup_concat,List.filter_append,List.filter_filter,List.filter_filter,List.filter_singleton]
    cases found : (atlas.slots.get? key).isSome with
    | true => simp [Bool.and_comm]
    | false =>
      rw [if_neg Bool.false_ne_true,cond_false,List.append_nil]
      refine List.filter_congr fun other _ => ?_
      by_cases same : other = key
      · simp [same,found]
      · simp [same]
  | release key =>
    obtain ⟨_,released⟩ := release_spec used.wellFormed key
    refine ⟨_,rfl,released.frame,released.wellFormed,?_⟩
    have last : usedKeys [.release key] = [] := rfl
    rw [released.order,used.order,usedKeys_concat,last,List.append_nil,List.filter_filter]
    refine List.filter_congr fun other _ => ?_
    rw [released.slots]
    by_cases same : other = key
    · simp [same]
    · simp [same]

structure Serves (acts : List ProxyAct) (atlas next : ProxyAtlasState) (key : String) (allocation : ProxySlotAllocation) : Prop where
  slotted : Slotted next.slots next.freeSlots atlas.capacity
  held : ∀ slotIndex, atlas.slots.get? key = some slotIndex → allocation.slotIndex = slotIndex
  free : atlas.slots.get? key = none → atlas.freeSlots ≠ [] → allocation.slotIndex ∈ atlas.freeSlots
  evicted : allocation.evictedKey = if (atlas.slots.get? key).isSome ∨ atlas.freeSlots ≠ [] then none
    else ((usedKeys acts).dedup.filter fun other => (atlas.slots.get? other).isSome).head?
  passed : ∀ victim, allocation.evictedKey = some victim → atlas.slots.get? victim = some allocation.slotIndex
  slots : ∀ other, next.slots.get? other =
    if other = key then some allocation.slotIndex else if allocation.evictedKey = some other then none else atlas.slots.get? other

theorem run_lastUsed {before : List ProxyAct} (later : List ProxyAct) (used : LastUsed before atlas) :
    ∃ after, later.foldlM ProxyAct.perform atlas = .ok after ∧ LastUsed (before ++ later) after ∧ after.capacity = atlas.capacity := by
  induction later generalizing before atlas with
  | nil => exact ⟨atlas,rfl,by rwa [List.append_nil],rfl⟩
  | cons act later hypothesis =>
    obtain ⟨next,done,frame,used'⟩ := lastUsed_step used act
    obtain ⟨after,rest,used'',same⟩ := hypothesis used'
    refine ⟨after,?_,by rwa [List.append_assoc] at used'',same.trans frame.capacity⟩
    rw [List.foldlM_cons,done]
    exact rest

-- However a pool was used, its slots are free or held, each once, and a call for a slot is
-- served: from the free ones, or by the key that was last used before all others.
theorem proxyAtlas_lru {limit capacity channel : Nat} {kind : ProxyKind} {slotDims : Zyx}
    (created : createProxyAtlas limit kind slotDims channel capacity = .ok atlas) (acts : List ProxyAct) :
    ∃ after, acts.foldlM ProxyAct.perform atlas = .ok after ∧ after.capacity = atlas.capacity ∧
      Slotted after.slots after.freeSlots atlas.capacity ∧
      ∀ key, ∃ next allocation, allocateProxySlotWithEviction after key = .ok (next,allocation) ∧ Serves acts after next key allocation := by
  obtain ⟨wellFormed,slots,order,_⟩ := create_spec created
  have start : LastUsed [] atlas := ⟨wellFormed,by rw [order]; rfl⟩
  obtain ⟨after,done,used,same⟩ := run_lastUsed acts start
  refine ⟨after,done,same,same ▸ used.wellFormed.slotted,fun key => ?_⟩
  obtain ⟨next,allocation,served,allocated⟩ := allocate_spec used.wellFormed key
  have order' : after.touchOrder = (usedKeys acts).dedup.filter fun other => (after.slots.get? other).isSome := used.order
  refine ⟨next,allocation,served,?_,fun slotIndex found => (allocated.same slotIndex found).symm,allocated.free,?_,allocated.passed,
    allocated.slots⟩
  · rw [← allocated.frame.capacity]
    exact allocated.wellFormed.slotted
  · rw [allocated.evicted,order']

end Residency

theorem proxyAtlas_lru_two : ∃ atlas after next allocation, createProxyAtlas 2 .tileProxy3D ⟨2,2,1⟩ 0 2 = .ok atlas ∧
    [ProxyAct.allocate "a",.allocate "b",.touch "a"].foldlM ProxyAct.perform atlas = .ok after ∧
    allocateProxySlotWithEviction after "c" = .ok (next,allocation) ∧ allocation.evictedKey = some "b" ∧
    Slotted next.slots next.freeSlots 2 := by
  obtain ⟨atlas,created⟩ : ∃ atlas, createProxyAtlas 2 .tileProxy3D ⟨2,2,1⟩ 0 2 = .ok atlas := ⟨_,rfl⟩
  obtain ⟨after,done,capacity,_,served⟩ := proxyAtlas_lru created [.allocate "a",.allocate "b",.touch "a"]
  obtain ⟨next,allocation,given,serves⟩ := served "c"
  have slotted := serves.slotted
  have evicted := serves.evicted
  cases created
  rw [capacity] at slotted
  refine ⟨_,after,next,allocation,rfl,done,given,evicted.trans ?_,slotted⟩
  cases done
  decide

end Lucida.Renderer
