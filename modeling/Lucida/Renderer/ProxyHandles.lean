import Lucida.Renderer.ProxyResidency

namespace Lucida.Renderer
open Lib
open Server (Zyx)
open Web (ProxyKind)

section Keys
variable {number : String → Option Int} {entityId other : String} {t c t' c' : Nat}

-- The text of an index that a double holds exactly is read as that index.
def Reads (number : String → Option Int) : Prop := ∀ n : Nat, n < 2^53 → number (toString n) = some (n : Int)

theorem pipe_notMem_toDigits (n : Nat) : '|' ∉ Nat.toDigits 10 n := fun member => absurd (Store.toDigits_isDigit member) (by decide)

theorem proxySlotKey_toList (entityId : String) (t c : Nat) :
    (proxySlotKey entityId t c).toList = entityId.toList ++ '|'::(Nat.toDigits 10 t ++ '|'::Nat.toDigits 10 c) := by
  have pipe : "|".toList = ['|'] := rfl
  simp only [proxySlotKey,String.toList_append,Nat.toString_eq_repr,Nat.toList_repr,pipe,List.append_assoc,List.cons_append,List.nil_append]

theorem proxySlotKey_split (entityId : String) (t c : Nat) :
    (proxySlotKey entityId t c).toList.splitOn '|' = entityId.toList.splitOn '|' ++ [Nat.toDigits 10 t,Nat.toDigits 10 c] := by
  rw [proxySlotKey_toList,List.splitOn_append_cons_self,List.splitOn_append_cons_self,List.splitOn_eq_singleton (pipe_notMem_toDigits t),
    List.splitOn_eq_singleton (pipe_notMem_toDigits c)]
  rfl

theorem parseProxySlotKey_eq (reads : Reads number) (shortT : t < 2^53) (shortC : c < 2^53) :
    parseProxySlotKey number (proxySlotKey entityId t c) = some (entityId,(t : Int),(c : Int)) := by
  have digits (n : Nat) : String.ofList (Nat.toDigits 10 n) = toString n := rfl
  unfold parseProxySlotKey
  rw [proxySlotKey_split,List.reverse_append]
  cases parts : (entityId.toList.splitOn '|').reverse with
  | nil => exact absurd (List.reverse_eq_nil_iff.mp parts) (List.splitOn_ne_nil _ _)
  | cons first rest =>
    simp only [List.reverse_cons,List.reverse_nil,List.nil_append,List.cons_append,digits,reads t shortT,reads c shortC]
    have whole : first::rest = (entityId.toList.splitOn '|').reverse := parts.symm
    rw [← List.reverse_cons,whole,List.reverse_reverse,joinParts,List.intercalate_splitOn,String.ofList_toList]

theorem proxySlotKey_injective (same : proxySlotKey entityId t c = proxySlotKey other t' c') : entityId = other ∧ t = t' ∧ c = c' := by
  have parts := congrArg (fun key => key.toList.splitOn '|') same
  simp only [proxySlotKey_split] at parts
  obtain ⟨front,back⟩ := List.append_inj' parts rfl
  simp only [List.cons.injEq,and_true] at back
  have joined := congrArg (fun parts => String.ofList (['|'].intercalate parts)) front
  simp only [List.intercalate_splitOn,String.ofList_toList] at joined
  exact ⟨joined,Store.toDigits_injective back.1,Store.toDigits_injective back.2⟩

theorem digits_inj {separator : Char} {n m : Nat} {rest rest' : List Char} (other : separator.isDigit = false)
    (same : Nat.toDigits 10 n ++ separator::rest = Nat.toDigits 10 m ++ separator::rest') : n = m ∧ rest = rest' := by
  have absent : ∀ n, separator ∉ Nat.toDigits 10 n := fun n member => by
    rw [Store.toDigits_isDigit member] at other
    cases other
  have lengths : (Nat.toDigits 10 n).length = (Nat.toDigits 10 m).length := by
    have first := congrArg (List.idxOf separator) same
    rwa [List.idxOf_append_of_notMem (absent n),List.idxOf_append_of_notMem (absent m),List.idxOf_cons_self,List.idxOf_cons_self] at first
  obtain ⟨digits,rest⟩ := List.append_inj same lengths
  exact ⟨Store.toDigits_injective digits,(List.cons.inj rest).2⟩

theorem proxyPoolKey_injective {datasetId : String} {kind kind' : ProxyKind} {dims dims' : Zyx} {channel channel' : Nat}
    (same : proxyPoolKey datasetId kind dims channel = proxyPoolKey datasetId kind' dims' channel') :
    kind = kind' ∧ dims = dims' ∧ channel = channel' := by
  have pipe : "|".toList = ['|'] := rfl
  have cross : "x".toList = ['x'] := rfl
  have mark : "|ch".toList = ['|','c','h'] := rfl
  have chars := congrArg String.toList same
  simp only [proxyPoolKey,String.toList_append,Nat.toString_eq_repr,Nat.toList_repr,pipe,cross,mark,List.append_assoc,List.cons_append,
    List.nil_append,List.append_cancel_left_eq] at chars
  have sort : kind = kind' := by
    cases kind <;> cases kind'
    · rfl
    · exact absurd (congrArg List.head? chars) (by simp [ProxyKind.name])
    · exact absurd (congrArg List.head? chars) (by simp [ProxyKind.name])
    · rfl
  subst sort
  obtain ⟨_,chars⟩ := List.cons.inj (List.append_cancel_left chars)
  obtain ⟨x,chars⟩ := digits_inj rfl chars
  obtain ⟨y,chars⟩ := digits_inj rfl chars
  obtain ⟨z,chars⟩ := digits_inj rfl chars
  refine ⟨rfl,?_,Store.toDigits_injective (List.cons.inj (List.cons.inj chars).2).2⟩
  cases dims
  cases dims'
  simp_all

theorem proxyDescriptorKey_eq (entityId : String) (t c : Nat) : proxyDescriptorKey entityId t c = proxySlotKey entityId t c := rfl

end Keys

section Handles
variable {groupToTiles : IndexMap String (List String)} {descriptors : Descriptors} {kind kind' : ProxyKind} {key : String} {t c : Nat}
  {entityId : String} {handle : ProxyHandle}

def heldHandle (descriptors : Descriptors) (kind : ProxyKind) (key : String) : Option ProxyHandle :=
  (descriptors.get? key).bind (·.handle kind)

def showingKeys (groupToTiles : IndexMap String (List String)) (kind : ProxyKind) (entityId : String) (t c : Nat) : List String :=
  proxySlotKey entityId t c::match kind with
    | .tileProxy3D => []
    | .groupProxy3D => (childTiles groupToTiles entityId).map (proxySlotKey · t c)

theorem handle_setHandle (desc : EntityProxyDescriptor) (handle : Option ProxyHandle) :
    (desc.setHandle handle kind).handle kind' = if kind' = kind then handle else desc.handle kind' := by
  cases kind <;> cases kind' <;> rfl

theorem heldHandle_clear (descriptors : Descriptors) (kind : ProxyKind) (entityId : String) (t c : Nat) (handle : ProxyHandle) :
    heldHandle (clearDescriptorHandle kind descriptors entityId t c handle) kind' key =
      if kind' = kind ∧ key = proxySlotKey entityId t c ∧ heldHandle descriptors kind' key = some handle then none
      else heldHandle descriptors kind' key := by
  unfold clearDescriptorHandle heldHandle
  rw [proxyDescriptorKey_eq]
  cases found : descriptors.get? (proxySlotKey entityId t c) with
  | none =>
    by_cases here : key = proxySlotKey entityId t c
    · rw [here,found]
      simp
    · rw [if_neg fun all => here all.2.1]
  | some desc =>
    dsimp only
    by_cases expected : desc.handle kind = some handle
    · rw [if_pos expected,IndexMap.get?_insert]
      by_cases here : key = proxySlotKey entityId t c
      · rw [if_pos here,here,found,Option.bind_some,Option.bind_some,handle_setHandle]
        by_cases sort : kind' = kind
        · rw [if_pos sort,if_pos ⟨sort,rfl,sort ▸ expected⟩]
        · rw [if_neg sort,if_neg fun all => sort all.1]
      · rw [if_neg here,if_neg fun all => here all.2.1]
    · rw [if_neg expected,if_neg]
      intro ⟨sort,here,held⟩
      rw [here,found,Option.bind_some,sort] at held
      exact expected held

theorem heldHandle_clears (tiles : List String) (descriptors : Descriptors) (kind : ProxyKind) (t c : Nat) (handle : ProxyHandle) :
    heldHandle (tiles.foldl (fun descriptors tileId => clearDescriptorHandle kind descriptors tileId t c handle) descriptors) kind' key =
      if kind' = kind ∧ key ∈ tiles.map (proxySlotKey · t c) ∧ heldHandle descriptors kind' key = some handle then none
      else heldHandle descriptors kind' key := by
  induction tiles generalizing descriptors with
  | nil => simp
  | cons tileId tiles hypothesis =>
    rw [List.foldl_cons,hypothesis,heldHandle_clear]
    simp only [List.map_cons,List.mem_cons]
    by_cases sort : kind' = kind
    · by_cases held : heldHandle descriptors kind' key = some handle
      · by_cases here : key = proxySlotKey tileId t c
        · simp [sort,here]
        · simp [here]
      · simp [held]
    · simp [sort]

theorem heldHandle_clearProxy (groupToTiles : IndexMap String (List String)) (descriptors : Descriptors) (kind : ProxyKind) (entityId : String)
    (t c : Nat) (handle : ProxyHandle) :
    heldHandle (clearProxyDescriptorHandle groupToTiles descriptors entityId t c kind handle) kind' key =
      if kind' = kind ∧ key ∈ showingKeys groupToTiles kind entityId t c ∧ heldHandle descriptors kind' key = some handle then none
      else heldHandle descriptors kind' key := by
  cases kind with
  | tileProxy3D =>
    have single : key ∈ showingKeys groupToTiles .tileProxy3D entityId t c ↔ key = proxySlotKey entityId t c := List.mem_singleton
    exact (heldHandle_clear descriptors .tileProxy3D entityId t c handle).trans (if_congr (by rw [single]) rfl rfl)
  | groupProxy3D =>
    exact heldHandle_clears (entityId::childTiles groupToTiles entityId) descriptors .groupProxy3D t c handle

theorem heldHandle_set (descriptors : Descriptors) (kind : ProxyKind) (entityId : String) (t c : Nat) (handle : ProxyHandle) :
    heldHandle (setDescriptorHandle kind handle t c descriptors entityId) kind' key =
      if kind' = kind ∧ key = proxySlotKey entityId t c then some handle else heldHandle descriptors kind' key := by
  unfold setDescriptorHandle getOrCreateProxyDescriptor heldHandle
  rw [proxyDescriptorKey_eq,IndexMap.get?_insert]
  by_cases here : key = proxySlotKey entityId t c
  · rw [if_pos here,Option.bind_some,handle_setHandle]
    by_cases sort : kind' = kind
    · rw [if_pos sort,if_pos ⟨sort,here⟩]
    · rw [if_neg sort,if_neg fun all => sort all.1,here]
      cases descriptors.get? (proxySlotKey entityId t c) with
      | none => cases kind' <;> rfl
      | some desc => rfl
  · rw [if_neg here,if_neg fun all => here all.2]

theorem heldHandle_sets (entities : List String) (descriptors : Descriptors) (kind : ProxyKind) (t c : Nat) (handle : ProxyHandle) :
    heldHandle (entities.foldl (setDescriptorHandle kind handle t c) descriptors) kind' key =
      if kind' = kind ∧ key ∈ entities.map (proxySlotKey · t c) then some handle else heldHandle descriptors kind' key := by
  induction entities generalizing descriptors with
  | nil => simp
  | cons entityId entities hypothesis =>
    rw [List.foldl_cons,hypothesis,heldHandle_set]
    simp only [List.map_cons,List.mem_cons]
    by_cases sort : kind' = kind
    · by_cases here : key = proxySlotKey entityId t c
      · simp [sort,here]
      · simp [here]
    · simp [sort]

theorem heldHandle_upload (groupToTiles : IndexMap String (List String)) (descriptors : Descriptors) (kind : ProxyKind) (entityId : String)
    (t c : Nat) (handle : ProxyHandle) :
    heldHandle (match kind with
      | .tileProxy3D => setDescriptorHandle kind handle t c descriptors entityId
      | .groupProxy3D => propagateGroupProxyToTiles handle entityId t c groupToTiles (setDescriptorHandle kind handle t c descriptors entityId))
        kind' key =
      if kind' = kind ∧ key ∈ showingKeys groupToTiles kind entityId t c then some handle else heldHandle descriptors kind' key := by
  cases kind with
  | tileProxy3D => exact heldHandle_sets [entityId] descriptors .tileProxy3D t c handle
  | groupProxy3D => exact heldHandle_sets (entityId::childTiles groupToTiles entityId) descriptors .groupProxy3D t c handle

end Handles

section Invariant
variable {number : String → Option Int} {limit : Nat} {s s' : RendererState} {kind : ProxyKind}

-- What a handle shows: the proxy of the key's entity or of its group, resident at
-- the slot that the handle names in a pool of its sort.
def Shows (s : RendererState) (kind : ProxyKind) (key : String) (handle : ProxyHandle) : Prop :=
  ∃ datasetId pool entityId t c, (t < 2^53 ∧ c < 2^53) ∧ s.proxyPoolsByDataset.find? datasetId handle.poolKey = some pool ∧ pool.kind = kind ∧
    pool.slots.get? (proxySlotKey entityId t c) = some handle.slotIndex ∧ key ∈ showingKeys s.groupToTiles kind entityId t c

def HandlesShow (kind : ProxyKind) (s : RendererState) : Prop :=
  ∀ key handle, heldHandle s.proxyDescriptorsByEntity kind key = some handle → Shows s kind key handle

structure PoolFits (limit : Nat) (datasetId poolKey : String) (pool : ProxyAtlasState) : Prop where
  wellFormed : pool.WellFormed
  named : poolKey = proxyPoolKey datasetId pool.kind pool.slotDims pool.channel
  keys : ∀ key slotIndex, pool.slots.get? key = some slotIndex → ∃ entityId t c, (t < 2^53 ∧ c < 2^53) ∧ key = proxySlotKey entityId t c
  fits : ∃ capacity layout, computeProxyAtlasLayout pool.slotDims capacity limit = .ok layout

def PoolsFit (limit : Nat) (s : RendererState) : Prop :=
  ∀ datasetId poolKey pool, s.proxyPoolsByDataset.find? datasetId poolKey = some pool → PoolFits limit datasetId poolKey pool

-- Residents may go, each other one stays, and a handle that stays shows none that goes.
theorem HandlesShow.change (before : HandlesShow kind s) (gone : String → String → String → Prop)
    (kept : ∀ datasetId poolKey pool key slotIndex, s.proxyPoolsByDataset.find? datasetId poolKey = some pool → pool.slots.get? key = some slotIndex →
      ¬gone datasetId poolKey key → ∃ pool', s'.proxyPoolsByDataset.find? datasetId poolKey = some pool' ∧ pool'.kind = pool.kind ∧
        pool'.slots.get? key = some slotIndex)
    (tiles : ∀ entityId t c key, key ∈ showingKeys s.groupToTiles kind entityId t c → key ∈ showingKeys s'.groupToTiles kind entityId t c)
    (stay : ∀ key handle, heldHandle s'.proxyDescriptorsByEntity kind key = some handle → Shows s' kind key handle ∨
      heldHandle s.proxyDescriptorsByEntity kind key = some handle ∧
        ∀ datasetId pool entityId t c, t < 2^53 → c < 2^53 → s.proxyPoolsByDataset.find? datasetId handle.poolKey = some pool → pool.kind = kind →
          pool.slots.get? (proxySlotKey entityId t c) = some handle.slotIndex → key ∈ showingKeys s.groupToTiles kind entityId t c →
          ¬gone datasetId handle.poolKey (proxySlotKey entityId t c)) : HandlesShow kind s' := by
  intro key handle held
  rcases stay key handle held with shows' | ⟨was,safe⟩
  · exact shows'
  · obtain ⟨datasetId,pool,entityId,t,c,⟨shortT,shortC⟩,found,sort,there,shown⟩ := before key handle was
    obtain ⟨pool',found',sort',there'⟩ := kept datasetId handle.poolKey pool _ _ found there
      (safe datasetId pool entityId t c shortT shortC found sort there shown)
    exact ⟨datasetId,pool',entityId,t,c,⟨shortT,shortC⟩,found',sort'.trans sort,there',tiles entityId t c key shown⟩

theorem handlesShow_release {datasetId poolKey entityId : String} {pool next : ProxyAtlasState} {t c slotIndex : Nat}
    (before : HandlesShow kind s) (found : s.proxyPoolsByDataset.find? datasetId poolKey = some pool)
    (there : pool.slots.get? (proxySlotKey entityId t c) = some slotIndex) (released : Released pool (proxySlotKey entityId t c) next) :
    HandlesShow kind {s with
      proxyPoolsByDataset := s.proxyPoolsByDataset.put datasetId poolKey next
      proxyDescriptorsByEntity := clearProxyDescriptorHandle s.groupToTiles s.proxyDescriptorsByEntity entityId t c pool.kind
        ⟨poolKey,slotIndex⟩} := by
  refine before.change (fun d k key => d = datasetId ∧ k = poolKey ∧ key = proxySlotKey entityId t c) ?_ (fun _ _ _ _ shown => shown) ?_
  · intro d k pool' key slot found' there' stays
    dsimp only
    rw [NestedMap.find?_put]
    by_cases here : d = datasetId ∧ k = poolKey
    · rw [if_pos here]
      rw [here.1,here.2,found] at found'
      cases found'
      refine ⟨next,rfl,released.frame.kind,?_⟩
      rw [released.slots,if_neg fun same => stays ⟨here.1,here.2,same⟩]
      exact there'
    · rw [if_neg here]
      exact ⟨pool',found',rfl,there'⟩
  · intro key handle held
    dsimp only at held
    rw [heldHandle_clearProxy] at held
    by_cases cleared : kind = pool.kind ∧ key ∈ showingKeys s.groupToTiles pool.kind entityId t c ∧
        heldHandle s.proxyDescriptorsByEntity kind key = some ⟨poolKey,slotIndex⟩
    · rw [if_pos cleared] at held
      cases held
    · rw [if_neg cleared] at held
      refine .inr ⟨held,fun d pool' e t' c' _ _ found' sort there' shown goes => cleared ?_⟩
      obtain ⟨rfl,here,same⟩ := goes
      obtain ⟨rfl,rfl,rfl⟩ := proxySlotKey_injective same
      rw [here,found] at found'
      cases found'
      rw [there] at there'
      cases there'
      exact ⟨sort.symm,sort ▸ shown,by rw [held,← here]⟩

theorem PoolsFit.put {datasetId poolKey : String} {pool : ProxyAtlasState} {pools : NestedMap String String ProxyAtlasState}
    (fit : ∀ d k other, pools.find? d k = some other → PoolFits limit d k other) (fits : PoolFits limit datasetId poolKey pool) :
    ∀ d k other, (pools.put datasetId poolKey pool).find? d k = some other → PoolFits limit d k other := by
  intro d k other found
  rw [NestedMap.find?_put] at found
  by_cases here : d = datasetId ∧ k = poolKey
  · rw [if_pos here] at found
    cases found
    rw [here.1,here.2]
    exact fits
  · rw [if_neg here] at found
    exact fit d k other found

theorem PoolFits.change {datasetId poolKey : String} {pool next : ProxyAtlasState} (fits : PoolFits limit datasetId poolKey pool)
    (frame : pool.Frame next) (wellFormed : next.WellFormed)
    (keys : ∀ key slotIndex, next.slots.get? key = some slotIndex → (∃ slotIndex, pool.slots.get? key = some slotIndex) ∨
      ∃ entityId t c, (t < 2^53 ∧ c < 2^53) ∧ key = proxySlotKey entityId t c) : PoolFits limit datasetId poolKey next := by
  refine ⟨wellFormed,by rw [frame.kind,frame.dims,frame.channel]; exact fits.named,fun key slotIndex there => ?_,frame.dims ▸ fits.fits⟩
  rcases keys key slotIndex there with ⟨_,was⟩ | named
  · exact fits.keys key _ was
  · exact named

theorem createProxyAtlas_fits {datasetId : String} {slotDims : Zyx} {channel capacity : Nat} {pool : ProxyAtlasState}
    (created : createProxyAtlas limit kind slotDims channel capacity = .ok pool) :
    PoolFits limit datasetId (proxyPoolKey datasetId kind slotDims channel) pool := by
  obtain ⟨wellFormed,slots,_,sort,ch,dims⟩ := create_spec created
  refine ⟨wellFormed,by rw [sort,dims,ch],fun key slotIndex there => ?_,?_⟩
  · rw [slots] at there
    cases there
  · unfold createProxyAtlas at created
    cases found : computeProxyAtlasLayout slotDims capacity limit with
    | error text =>
      rw [found] at created
      cases created
    | ok layout => exact ⟨capacity,layout,dims ▸ found⟩

-- Slots that fit the device for one capacity fit it for any.
theorem createProxyAtlas_again {slotDims : Zyx} {channel capacity : Nat}
    (fits : ∃ capacity layout, computeProxyAtlasLayout slotDims capacity limit = .ok layout) :
    ∃ pool, createProxyAtlas limit kind slotDims channel capacity = .ok pool := by
  obtain ⟨other,layout,found⟩ := fits
  have least := computeProxyAtlasLayout_least slotDims capacity limit
  cases again : computeProxyAtlasLayout slotDims capacity limit with
  | ok layout' => exact ⟨_,by rw [createProxyAtlas,again]; rfl⟩
  | error text =>
    rw [again] at least
    have packs := computeProxyAtlasLayout_least slotDims other limit
    rw [found] at packs
    rcases least with empty | none'
    · unfold computeProxyAtlasLayout at found
      rw [if_pos empty] at found
      cases found
    · exact absurd packs.1 (none' layout)

section Clears
variable {groupToTiles : IndexMap String (List String)} {poolKey key : String} {sort : ProxyKind} {handle : ProxyHandle}

theorem heldHandle_pool (reads : Reads number) {slots : List (String × Nat)}
    (keys : ∀ slot ∈ slots, ∃ entityId t c, (t < 2^53 ∧ c < 2^53) ∧ slot.1 = proxySlotKey entityId t c) (descriptors : Descriptors)
    (held : heldHandle (slots.foldl (fun descriptors slot =>
      clearResidentProxyDescriptor number groupToTiles descriptors poolKey sort slot.1 slot.2) descriptors) kind key = some handle) :
    heldHandle descriptors kind key = some handle ∧ ∀ entityId t c slotIndex, (proxySlotKey entityId t c,slotIndex) ∈ slots → kind = sort →
      key ∈ showingKeys groupToTiles sort entityId t c → handle ≠ ⟨poolKey,slotIndex⟩ := by
  induction slots generalizing descriptors with
  | nil => exact ⟨held,fun _ _ _ _ member => absurd member List.not_mem_nil⟩
  | cons slot slots hypothesis =>
    obtain ⟨⟨e,t,c,⟨shortT,shortC⟩,named⟩,later⟩ := List.forall_mem_cons.mp keys
    obtain ⟨held,apart⟩ := hypothesis later _ held
    have first : clearResidentProxyDescriptor number groupToTiles descriptors poolKey sort slot.1 slot.2 =
        clearProxyDescriptorHandle groupToTiles descriptors e t c sort ⟨poolKey,slot.2⟩ := by
      rw [clearResidentProxyDescriptor,named,parseProxySlotKey_eq reads shortT shortC]
    dsimp only at held
    rw [first,heldHandle_clearProxy] at held
    by_cases cleared : kind = sort ∧ key ∈ showingKeys groupToTiles sort e t c ∧ heldHandle descriptors kind key = some ⟨poolKey,slot.2⟩
    · rw [if_pos cleared] at held
      cases held
    · rw [if_neg cleared] at held
      refine ⟨held,fun e' t' c' slotIndex member same shown => ?_⟩
      rcases List.mem_cons.mp member with here | member
      · rw [← here] at named cleared
        obtain ⟨rfl,rfl,rfl⟩ := proxySlotKey_injective named
        exact fun equal => cleared ⟨same,shown,by rw [held,equal]⟩
      · exact apart e' t' c' slotIndex member same shown

end Clears

structure GotPool (limit : Nat) (s s' : RendererState) : Prop where
  tiles : s'.groupToTiles = s.groupToTiles
  fit : PoolsFit limit s → PoolsFit limit s'
  handles : ∀ sort, PoolsFit limit s → HandlesShow sort s → HandlesShow sort s'
  residents : ∀ d k pool key slotIndex, s'.proxyPoolsByDataset.find? d k = some pool → pool.slots.get? key = some slotIndex →
    s.proxyPoolsByDataset.find? d k = some pool

theorem find?_opened {m : NestedMap String String ProxyAtlasState} (datasetId d k : String) :
    NestedMap.find? (m.upsert datasetId (·.getD .empty)) d k = m.find? d k := by
  unfold NestedMap.find?
  rw [IndexMap.get?_upsert]
  by_cases same : d = datasetId
  · rw [if_pos same,same]
    cases m.get? datasetId <;> rfl
  · rw [if_neg same]

theorem gotPool_opened (s : RendererState) (datasetId : String) :
    GotPool limit s {s with proxyPoolsByDataset := s.proxyPoolsByDataset.upsert datasetId (·.getD .empty)} := by
  refine ⟨rfl,fun fit d k pool there => ?_,fun sort fit before => ?_,fun d k pool key slotIndex there resident => ?_⟩
  · exact fit d k pool (by rwa [find?_opened] at there)
  · refine before.change (fun _ _ _ => False) (fun d k pool key slotIndex there resident _ => ⟨pool,?_,rfl,resident⟩) (fun _ _ _ _ shown => shown)
      fun key handle held => .inr ⟨held,fun _ _ _ _ _ _ _ _ _ _ _ => id⟩
    rwa [find?_opened]
  · rwa [find?_opened] at there

theorem gotPool_fresh {datasetId poolKey : String} {pool : ProxyAtlasState} {descriptors : Descriptors} {stats : ProxyStats}
    (fits : PoolsFit limit s → PoolFits limit datasetId poolKey pool) (empty : pool.slots = .empty)
    (stay : ∀ sort key handle, PoolsFit limit s → heldHandle descriptors sort key = some handle →
      heldHandle s.proxyDescriptorsByEntity sort key = some handle ∧ ∀ old e t c, s.proxyPoolsByDataset.find? datasetId poolKey = some old →
        old.slots.get? (proxySlotKey e t c) = some handle.slotIndex → old.kind = sort → key ∈ showingKeys s.groupToTiles sort e t c →
        handle.poolKey ≠ poolKey) :
    GotPool limit s {s with
      proxyPoolsByDataset := NestedMap.put (s.proxyPoolsByDataset.upsert datasetId (·.getD .empty)) datasetId poolKey pool
      proxyDescriptorsByEntity := descriptors
      proxyStats := stats} := by
  refine ⟨rfl,fun fit => ?_,fun sort fit before => ?_,fun d k other key slotIndex there resident => ?_⟩
  · exact PoolsFit.put (fun d k other there => fit d k other (by rwa [find?_opened] at there)) (fits fit)
  · refine before.change (fun d k _ => d = datasetId ∧ k = poolKey) (fun d k other key slotIndex there resident stays => ⟨other,?_,rfl,resident⟩)
      (fun _ _ _ _ shown => shown) fun key handle held => .inr ⟨(stay sort key handle fit held).1,?_⟩
    · dsimp only
      rw [NestedMap.find?_put,find?_opened,if_neg stays]
      exact there
    · intro d other e t c _ _ there sort' resident shown ⟨here,named⟩
      rw [here,named] at there
      exact (stay sort key handle fit held).2 other e t c there resident sort' shown named
  · dsimp only at there
    rw [NestedMap.find?_put,find?_opened] at there
    split at there
    · cases there
      rw [empty] at resident
      cases resident
    · exact there

theorem getOrCreateProxyPool_spec (reads : Reads number) (s : RendererState) (datasetId : String) (kind : ProxyKind) (slotDims : Zyx)
    (channel requestedCapacity : Nat) :
    GotPool limit s (getOrCreateProxyPool number limit s datasetId kind slotDims channel requestedCapacity).1 ∧
    ∀ pool, (getOrCreateProxyPool number limit s datasetId kind slotDims channel requestedCapacity).2 = .ok pool →
      (getOrCreateProxyPool number limit s datasetId kind slotDims channel requestedCapacity).1.proxyPoolsByDataset.find? datasetId
        (proxyPoolKey datasetId kind slotDims channel) = some pool ∧ (PoolsFit limit s → pool.kind = kind ∧ pool.slotDims = slotDims) := by
  unfold getOrCreateProxyPool
  dsimp only
  rw [find?_opened]
  cases found : s.proxyPoolsByDataset.find? datasetId (proxyPoolKey datasetId kind slotDims channel) with
  | none =>
    cases created : createProxyAtlas limit kind slotDims channel requestedCapacity with
    | error text => exact ⟨gotPool_opened s datasetId,nofun⟩
    | ok pool =>
      obtain ⟨_,slots,_,sort,_,dims⟩ := create_spec created
      refine ⟨gotPool_fresh (fun _ => createProxyAtlas_fits created) slots fun sort key handle _ held => ⟨held,fun old e t c there => ?_⟩,
        fun pool' same => ?_⟩
      · cases found.symm.trans there
      · cases same
        exact ⟨by rw [NestedMap.find?_put,if_pos ⟨rfl,rfl⟩],fun _ => ⟨sort,dims⟩⟩
  | some pool =>
    dsimp only
    by_cases small : pool.requestedCapacity < requestedCapacity
    · rw [if_pos small]
      -- No handle outlives the destroyed pool.
      have stay : ∀ sort key handle, PoolsFit limit s → heldHandle (pool.slots.entries.foldl (fun descriptors slot =>
            clearResidentProxyDescriptor number s.groupToTiles descriptors (proxyPoolKey datasetId kind slotDims channel) pool.kind slot.1 slot.2)
            s.proxyDescriptorsByEntity) sort key = some handle →
          heldHandle s.proxyDescriptorsByEntity sort key = some handle ∧
            ∀ old e t c, s.proxyPoolsByDataset.find? datasetId (proxyPoolKey datasetId kind slotDims channel) = some old →
              old.slots.get? (proxySlotKey e t c) = some handle.slotIndex → old.kind = sort → key ∈ showingKeys s.groupToTiles sort e t c →
              handle.poolKey ≠ proxyPoolKey datasetId kind slotDims channel := by
        intro sort key handle fit held
        obtain ⟨held,apart⟩ := heldHandle_pool reads
          (fun slot member => (fit _ _ _ found).keys slot.1 slot.2 (IndexMap.mem_entries_iff.mp member)) _ held
        refine ⟨held,fun old e t c there resident same shown named => ?_⟩
        rw [found] at there
        cases there
        refine apart e t c handle.slotIndex (IndexMap.mem_entries_iff.mpr resident) same.symm (same ▸ shown) ?_
        rw [← named]
      cases created : createProxyAtlas limit kind slotDims channel requestedCapacity with
      | error text =>
        refine ⟨gotPool_fresh (fun fit => ?_) ?_ stay,nofun⟩
        case refine_2 => rfl
        obtain ⟨sort,dims,_⟩ := proxyPoolKey_injective (fit _ _ _ found).named
        obtain ⟨again,made⟩ := @createProxyAtlas_again limit kind slotDims channel requestedCapacity (dims ▸ (fit _ _ _ found).fits)
        cases created.symm.trans made
      | ok fresh =>
        obtain ⟨_,slots,_,sort,_,dims⟩ := create_spec created
        refine ⟨gotPool_fresh (fun _ => createProxyAtlas_fits created) slots stay,fun pool' same => ?_⟩
        cases same
        exact ⟨by rw [NestedMap.find?_put,if_pos ⟨rfl,rfl⟩],fun _ => ⟨sort,dims⟩⟩
    · rw [if_neg small]
      refine ⟨gotPool_opened s datasetId,fun pool' same => ?_⟩
      cases same
      refine ⟨by rwa [find?_opened],fun fit => ?_⟩
      obtain ⟨sort,dims,_⟩ := proxyPoolKey_injective (fit _ _ _ found).named
      exact ⟨sort.symm,dims.symm⟩

def afterEviction (number : String → Option Int) (s : RendererState) (poolKey : String) (kind : ProxyKind) (allocation : ProxySlotAllocation) : Descriptors :=
  match allocation.evictedKey with
  | none => s.proxyDescriptorsByEntity
  | some evictedKey =>
    clearResidentProxyDescriptor number s.groupToTiles s.proxyDescriptorsByEntity poolKey kind evictedKey allocation.slotIndex

-- An upload that is taken: the proxy has a slot, its data are in it, and the keys that
-- show it have its handle.
structure Uploaded (number : String → Option Int) (limit : Nat) (s s' : RendererState) (msg : ProxyAssetData) : Prop where
  whole : msg.dims.z*msg.dims.y*msg.dims.x ≤ msg.data.length
  parts : ∃ s₁ pool next allocation, GotPool limit s s₁ ∧
    s₁.proxyPoolsByDataset.find? msg.datasetId (proxyPoolKey msg.datasetId msg.kind msg.dims msg.c) = some pool ∧
    (PoolsFit limit s → pool.kind = msg.kind ∧ pool.slotDims = msg.dims) ∧
    allocateProxySlotWithEviction pool (proxySlotKey msg.entityId msg.t msg.c) = .ok (next,allocation) ∧
    s'.groupToTiles = s₁.groupToTiles ∧
    s'.proxyPoolsByDataset = s₁.proxyPoolsByDataset.put msg.datasetId (proxyPoolKey msg.datasetId msg.kind msg.dims msg.c)
      {next with texture := next.texture.write (proxySlotOrigin next allocation.slotIndex) msg.data msg.dims.y msg.dims.x msg.dims} ∧
    ∀ kind key, heldHandle s'.proxyDescriptorsByEntity kind key =
      if kind = msg.kind ∧ key ∈ showingKeys s₁.groupToTiles msg.kind msg.entityId msg.t msg.c then
        some ⟨proxyPoolKey msg.datasetId msg.kind msg.dims msg.c,allocation.slotIndex⟩
      else heldHandle (afterEviction number s₁ (proxyPoolKey msg.datasetId msg.kind msg.dims msg.c) next.kind allocation) kind key

theorem gotPool_counted {stats : ProxyStats} : GotPool limit s {s with proxyStats := stats} :=
  ⟨rfl,fun fit => fit,fun _ _ before => before,fun _ _ _ _ _ there _ => there⟩

theorem storeProxy_spec (number : String → Option Int) (s : RendererState) (msg : ProxyAssetData) (pool : ProxyAtlasState)
    (allocation : ProxySlotAllocation) :
    (storeProxy number s msg pool allocation).groupToTiles = s.groupToTiles ∧
    (storeProxy number s msg pool allocation).proxyPoolsByDataset =
      s.proxyPoolsByDataset.put msg.datasetId (proxyPoolKey msg.datasetId msg.kind msg.dims msg.c)
        {pool with texture := pool.texture.write (proxySlotOrigin pool allocation.slotIndex) msg.data msg.dims.y msg.dims.x msg.dims} ∧
    ∀ kind key, heldHandle (storeProxy number s msg pool allocation).proxyDescriptorsByEntity kind key =
      if kind = msg.kind ∧ key ∈ showingKeys s.groupToTiles msg.kind msg.entityId msg.t msg.c then
        some ⟨proxyPoolKey msg.datasetId msg.kind msg.dims msg.c,allocation.slotIndex⟩
      else heldHandle (afterEviction number s (proxyPoolKey msg.datasetId msg.kind msg.dims msg.c) pool.kind allocation) kind key := by
  unfold storeProxy afterEviction
  cases allocation.evictedKey with
  | none => exact ⟨rfl,rfl,fun kind key => heldHandle_upload _ _ _ _ _ _ _⟩
  | some evictedKey => exact ⟨rfl,rfl,fun kind key => heldHandle_upload _ _ _ _ _ _ _⟩

theorem handleProxyUpload_cases (reads : Reads number) (s : RendererState) (msg : ProxyAssetData) :
    GotPool limit s (handleProxyUpload number limit s msg).1 ∧ (∀ changed, (handleProxyUpload number limit s msg).2 ≠ .ok ⟨true,changed⟩) ∨
    Uploaded number limit s (handleProxyUpload number limit s msg).1 msg ∧ (handleProxyUpload number limit s msg).2 = .ok ⟨true,true⟩ := by
  unfold handleProxyUpload
  by_cases stale : isStaleDelivery msg.epochs s.currentEpochs = true
  · rw [if_pos stale]
    exact .inl ⟨gotPool_counted,by simp⟩
  · rw [if_neg stale]
    cases evaluateProxyDeliveryPolicy s.currentColdState msg with
    | notDesired => exact .inl ⟨gotPool_counted,by simp⟩
    | staleRequest desired => exact .inl ⟨gotPool_counted,by simp⟩
    | accept =>
      dsimp -zeta only
      by_cases short : 2*msg.data.length < msg.dims.z*msg.dims.y*msg.dims.x*2
      · rw [if_pos short]
        exact .inl ⟨gotPool_counted,by simp⟩
      · rw [if_neg short]
        extract_lets requestedCapacity
        clear_value requestedCapacity
        obtain ⟨got,found⟩ := @getOrCreateProxyPool_spec number limit reads s msg.datasetId msg.kind msg.dims msg.c requestedCapacity
        cases made : getOrCreateProxyPool number limit s msg.datasetId msg.kind msg.dims msg.c requestedCapacity with
        | mk s₁ result =>
          rw [made] at got found
          cases result with
          | error text => exact .inl ⟨got,by simp⟩
          | ok pool =>
            obtain ⟨there,sorts⟩ := found pool rfl
            dsimp only
            cases taken : allocateProxySlotWithEviction pool (proxySlotKey msg.entityId msg.t msg.c) with
            | error text => exact .inl ⟨got,by simp⟩
            | ok result =>
              obtain ⟨next,allocation⟩ := result
              obtain ⟨tiles,pools,handles⟩ := storeProxy_spec number s₁ msg next allocation
              exact .inr ⟨⟨by omega,s₁,pool,next,allocation,got,there,sorts,taken,tiles,pools,handles⟩,rfl⟩

theorem PoolFits.written {datasetId poolKey : String} {pool : ProxyAtlasState} (fits : PoolFits limit datasetId poolKey pool) (origin : Zyx)
    (data : List Nat) (rows columns : Nat) (dims : Zyx) :
    PoolFits limit datasetId poolKey {pool with texture := pool.texture.write origin data rows columns dims} :=
  have wellFormed := fits.wellFormed
  ⟨⟨wellFormed.slotted,wellFormed.someSlot,wellFormed.distinct,wellFormed.resident,wellFormed.room,Texture.write_size.trans wellFormed.size⟩,
    fits.named,fits.keys,fits.fits⟩

def ProxyAssetData.Safe (msg : ProxyAssetData) : Prop := msg.t < 2^53 ∧ msg.c < 2^53

theorem allocated_fits {datasetId poolKey entityId : String} {pool next : ProxyAtlasState} {t c : Nat} {allocation : ProxySlotAllocation}
    (fits : PoolFits limit datasetId poolKey pool) (safe : t < 2^53 ∧ c < 2^53)
    (allocated : Allocated pool (proxySlotKey entityId t c) next allocation) : PoolFits limit datasetId poolKey next := by
  refine fits.change allocated.frame allocated.wellFormed fun key slotIndex there => ?_
  rw [allocated.slots] at there
  by_cases new : key = proxySlotKey entityId t c
  · exact .inr ⟨entityId,t,c,safe,new⟩
  · rw [if_neg new] at there
    split at there
    · cases there
    · exact .inl ⟨slotIndex,there⟩

theorem Uploaded.fit {msg : ProxyAssetData} (uploaded : Uploaded number limit s s' msg) (safe : msg.Safe) (fit : PoolsFit limit s) : PoolsFit limit s' := by
  obtain ⟨_,s₁,pool,next,allocation,got,found,_,taken,_,pools,_⟩ := uploaded
  have fits := got.fit fit _ _ _ found
  obtain ⟨next',allocation',taken',allocated⟩ := allocate_spec fits.wellFormed (proxySlotKey msg.entityId msg.t msg.c)
  cases taken.symm.trans taken'
  have stored := PoolsFit.put (got.fit fit) ((allocated_fits fits safe allocated).written (proxySlotOrigin next allocation.slotIndex) msg.data
    msg.dims.y msg.dims.x msg.dims)
  rwa [← pools] at stored

theorem Uploaded.handles {msg : ProxyAssetData} (reads : Reads number) (uploaded : Uploaded number limit s s' msg) (safe : msg.Safe)
    (fit : PoolsFit limit s) (before : HandlesShow kind s) : HandlesShow kind s' := by
  obtain ⟨_,s₁,pool,next,allocation,got,found,sorts,taken,tiles,pools,handles⟩ := uploaded
  have fits := got.fit fit _ _ _ found
  obtain ⟨sort,_⟩ := sorts fit
  obtain ⟨next',allocation',taken',allocated⟩ := allocate_spec fits.wellFormed (proxySlotKey msg.entityId msg.t msg.c)
  cases taken.symm.trans taken'
  have sameKind : next.kind = msg.kind := allocated.frame.kind.trans sort
  have stored : s'.proxyPoolsByDataset.find? msg.datasetId (proxyPoolKey msg.datasetId msg.kind msg.dims msg.c) =
      some {next with texture := next.texture.write (proxySlotOrigin next allocation.slotIndex) msg.data msg.dims.y msg.dims.x msg.dims} := by
    rw [pools,NestedMap.find?_put,if_pos ⟨rfl,rfl⟩]
  refine (got.handles kind fit before).change
    (fun d k key => d = msg.datasetId ∧ k = proxyPoolKey msg.datasetId msg.kind msg.dims msg.c ∧ allocation.evictedKey = some key) ?_ ?_ ?_
  · intro d k pool' key slotIndex found' there stays
    rw [pools,NestedMap.find?_put]
    by_cases here : d = msg.datasetId ∧ k = proxyPoolKey msg.datasetId msg.kind msg.dims msg.c
    · rw [if_pos here]
      rw [here.1,here.2,found] at found'
      cases found'
      refine ⟨_,rfl,allocated.frame.kind,?_⟩
      dsimp only
      rw [allocated.slots]
      by_cases new : key = proxySlotKey msg.entityId msg.t msg.c
      · rw [if_pos new,allocated.same slotIndex (new ▸ there)]
      · rw [if_neg new,if_neg fun evicted => stays ⟨here.1,here.2,evicted⟩]
        exact there
    · rw [if_neg here]
      exact ⟨pool',found',rfl,there⟩
  · intro entityId t c key shown
    rwa [tiles]
  · intro key handle held
    rw [handles] at held
    by_cases new : kind = msg.kind ∧ key ∈ showingKeys s₁.groupToTiles msg.kind msg.entityId msg.t msg.c
    · rw [if_pos new] at held
      cases held
      refine .inl ⟨msg.datasetId,_,msg.entityId,msg.t,msg.c,safe,stored,sameKind.trans new.1.symm,?_,?_⟩
      · dsimp only
        rw [allocated.slots,if_pos rfl]
      · rw [tiles,new.1]
        exact new.2
    · rw [if_neg new] at held
      refine .inr ?_
      unfold afterEviction at held
      cases evicted : allocation.evictedKey with
      | none =>
        rw [evicted] at held
        exact ⟨held,fun _ _ _ _ _ _ _ _ _ _ _ gone => nomatch gone.2.2⟩
      | some victim =>
        rw [evicted] at held
        dsimp only at held
        have was := allocated.passed victim evicted
        obtain ⟨e,t,c,⟨shortT,shortC⟩,rfl⟩ := fits.keys victim _ was
        rw [clearResidentProxyDescriptor,parseProxySlotKey_eq reads shortT shortC] at held
        dsimp only at held
        rw [heldHandle_clearProxy] at held
        by_cases cleared : kind = next.kind ∧ key ∈ showingKeys s₁.groupToTiles next.kind e t c ∧
            heldHandle s₁.proxyDescriptorsByEntity kind key = some ⟨proxyPoolKey msg.datasetId msg.kind msg.dims msg.c,allocation.slotIndex⟩
        · rw [if_pos cleared] at held
          cases held
        · rw [if_neg cleared] at held
          refine ⟨held,fun d pool' e' t' c' _ _ found' sort' there shown gone => cleared ?_⟩
          obtain ⟨rfl,named,same⟩ := gone
          obtain ⟨rfl,rfl,rfl⟩ := proxySlotKey_injective (Option.some.inj same)
          rw [named,found] at found'
          cases found'
          rw [was] at there
          have kinds : kind = next.kind := sort'.symm.trans allocated.frame.kind.symm
          refine ⟨kinds,kinds ▸ shown,?_⟩
          rw [held,← named,Option.some.inj there]

-- The data last taken for a proxy: by data set, pool and slot key.
abbrev Delivered := String → String → String → Option (List Nat)

def SlotHolds (pool : ProxyAtlasState) (slotIndex : Nat) (data : List Nat) : Prop :=
  pool.texture.Shows (proxySlotOrigin pool slotIndex) data pool.slotDims.y pool.slotDims.x pool.slotDims

def Loaded (delivered : Delivered) (s : RendererState) : Prop :=
  ∀ datasetId poolKey pool key slotIndex, s.proxyPoolsByDataset.find? datasetId poolKey = some pool → pool.slots.get? key = some slotIndex →
    ∃ data, delivered datasetId poolKey key = some data ∧ SlotHolds pool slotIndex data

theorem SlotHolds.frame {pool next : ProxyAtlasState} {slotIndex : Nat} {data : List Nat} (holds : SlotHolds pool slotIndex data)
    (frame : pool.Frame next) : SlotHolds next slotIndex data := by
  obtain ⟨texture,_,_,dims,⟨x,y,_⟩,_,_⟩ := frame
  intro place inside
  rw [dims] at inside ⊢
  have origin : proxySlotOrigin next slotIndex = proxySlotOrigin pool slotIndex := by
    unfold proxySlotOrigin
    rw [dims,x,y]
  rw [texture,origin]
  exact holds place inside

theorem slotHolds_written {pool : ProxyAtlasState} {slotIndex : Nat} {data : List Nat} (wellFormed : pool.WellFormed) (short : slotIndex < pool.capacity)
    (whole : pool.slotDims.z*pool.slotDims.y*pool.slotDims.x ≤ data.length) :
    SlotHolds {pool with texture := pool.texture.write (proxySlotOrigin pool slotIndex) data pool.slotDims.y pool.slotDims.x pool.slotDims}
      slotIndex data := by
  refine Texture.shows_write ⟨(Texture.texelsTaken_le _).trans whole,?_⟩
  exact tile_within _ (slotTile_lt (short.trans_le wellFormed.room)) wellFormed.size ⟨le_refl _,le_refl _,le_refl _⟩

theorem SlotHolds.beside {pool : ProxyAtlasState} {slotIndex other : Nat} {data data' : List Nat} (holds : SlotHolds pool slotIndex data)
    (apart : slotIndex ≠ other) :
    SlotHolds {pool with texture := pool.texture.write (proxySlotOrigin pool other) data' pool.slotDims.y pool.slotDims.x pool.slotDims}
      slotIndex data :=
  Texture.Shows.beside holds fun _ here there => apart (inBox_unique here there)

theorem GotPool.loaded {delivered : Delivered} (got : GotPool limit s s') (loaded : Loaded delivered s) : Loaded delivered s' :=
  fun d k pool key slotIndex found there => loaded d k pool key slotIndex (got.residents d k pool key slotIndex found there) there

def Delivered.after (delivered : Delivered) (msg : ProxyAssetData) : Delivered := fun datasetId poolKey key =>
  if datasetId = msg.datasetId ∧ poolKey = proxyPoolKey msg.datasetId msg.kind msg.dims msg.c ∧ key = proxySlotKey msg.entityId msg.t msg.c then
    some msg.data
  else delivered datasetId poolKey key

theorem Uploaded.loaded {msg : ProxyAssetData} {delivered : Delivered} (uploaded : Uploaded number limit s s' msg) (fit : PoolsFit limit s)
    (loaded : Loaded delivered s) : Loaded (delivered.after msg) s' := by
  obtain ⟨whole,s₁,pool,next,allocation,got,found,sorts,taken,_,pools,_⟩ := uploaded
  have fits := got.fit fit _ _ _ found
  obtain ⟨_,dims⟩ := sorts fit
  obtain ⟨next',allocation',taken',allocated⟩ := allocate_spec fits.wellFormed (proxySlotKey msg.entityId msg.t msg.c)
  cases taken.symm.trans taken'
  have sameDims : next.slotDims = msg.dims := allocated.frame.dims.trans dims
  intro d k pool' key slotIndex found' there
  rw [pools,NestedMap.find?_put] at found'
  by_cases here : d = msg.datasetId ∧ k = proxyPoolKey msg.datasetId msg.kind msg.dims msg.c
  · rw [if_pos here] at found'
    cases found'
    have held : next.slots.get? key = some slotIndex := there
    have new : next.slots.get? (proxySlotKey msg.entityId msg.t msg.c) = some allocation.slotIndex := by rw [allocated.slots,if_pos rfl]
    by_cases same : key = proxySlotKey msg.entityId msg.t msg.c
    · rw [same,new] at held
      cases held
      refine ⟨msg.data,if_pos ⟨here.1,here.2,same⟩,?_⟩
      rw [← sameDims] at whole ⊢
      exact slotHolds_written allocated.wellFormed (allocated.wellFormed.slotted.lt new) whole
    · have was : pool.slots.get? key = some slotIndex := by
        rw [allocated.slots,if_neg same] at held
        split at held
        · cases held
        · exact held
      have apart : slotIndex ≠ allocation.slotIndex := fun equal => same (allocated.wellFormed.slotted.injective held (equal ▸ new))
      rw [here.1,here.2]
      obtain ⟨data,given,holds⟩ := (got.loaded loaded) _ _ pool key slotIndex found was
      refine ⟨data,(if_neg fun all => same all.2.2).trans given,?_⟩
      rw [← sameDims]
      exact (holds.frame allocated.frame).beside apart
  · rw [if_neg here] at found'
    obtain ⟨data,given,holds⟩ := (got.loaded loaded) d k pool' key slotIndex found' there
    exact ⟨data,(if_neg fun all => here ⟨all.1,all.2.1⟩).trans given,holds⟩

structure Sound (limit : Nat) (delivered : Delivered) (sorts : ProxyKind → Prop) (s : RendererState) : Prop where
  fit : PoolsFit limit s
  handles : ∀ kind, sorts kind → HandlesShow kind s
  loaded : Loaded delivered s

section Steps
variable {delivered : Delivered} {sorts : ProxyKind → Prop}

theorem Sound.upload (reads : Reads number) {msg : ProxyAssetData} (safe : msg.Safe) (sound : Sound limit delivered sorts s) :
    Sound limit (match (handleProxyUpload number limit s msg).2 with
      | .ok ⟨true,_⟩ => delivered.after msg
      | _ => delivered) sorts (handleProxyUpload number limit s msg).1 := by
  rcases handleProxyUpload_cases reads s msg with ⟨got,dropped⟩ | ⟨uploaded,taken⟩
  · have same : (match (handleProxyUpload number limit s msg).2 with
        | .ok ⟨true,_⟩ => delivered.after msg
        | _ => delivered) = delivered := by
      split
      · rename_i changed outcome
        exact absurd outcome (dropped changed)
      · rfl
    rw [same]
    exact ⟨got.fit sound.fit,fun kind sort => got.handles kind sound.fit (sound.handles kind sort),got.loaded sound.loaded⟩
  · rw [taken]
    exact ⟨uploaded.fit safe sound.fit,fun kind sort => uploaded.handles reads safe sound.fit (sound.handles kind sort),
      uploaded.loaded sound.fit sound.loaded⟩

theorem Sound.release (reads : Reads number) {desired : List String} {datasetId poolKey : String} {walk : RendererState × Nat}
    (slot : String × Nat) (sound : Sound limit delivered sorts walk.1) :
    Sound limit delivered sorts (releaseUndesired number desired datasetId poolKey walk slot).1 := by
  unfold releaseUndesired
  split
  · rename_i entityId t c pool parsed found
    split
    · exact sound
    · obtain ⟨freed,released⟩ := release_spec (sound.fit _ _ _ found).wellFormed slot.1
      cases done : releaseProxySlot pool slot.1 with
      | mk next result =>
        rw [done] at freed released
        dsimp only at freed released ⊢
        cases result with
        | none => exact sound
        | some slotIndex =>
          have there : pool.slots.get? slot.1 = some slotIndex := freed.symm
          obtain ⟨e,t',c',⟨shortT,shortC⟩,named⟩ := (sound.fit _ _ _ found).keys slot.1 slotIndex there
          rw [named] at there released
          rw [named,parseProxySlotKey_eq reads shortT shortC] at parsed
          cases parsed
          have others : ∀ key slotIndex, next.slots.get? key = some slotIndex → pool.slots.get? key = some slotIndex := by
            intro key slotIndex there
            rw [released.slots] at there
            split at there
            · cases there
            · exact there
          refine ⟨?_,fun kind sort => handlesShow_release (sound.handles kind sort) found there released,?_⟩
          · exact PoolsFit.put sound.fit ((sound.fit _ _ _ found).change released.frame released.wellFormed
              fun key slotIndex there => .inl ⟨slotIndex,others key slotIndex there⟩)
          · intro d k pool' key slotIndex found' there'
            dsimp only at found'
            rw [NestedMap.find?_put] at found'
            split at found'
            · rename_i here
              cases found'
              rw [here.1,here.2]
              obtain ⟨data,given,holds⟩ := sound.loaded _ _ pool key slotIndex found (others key slotIndex there')
              exact ⟨data,given,holds.frame released.frame⟩
            · exact sound.loaded d k pool' key slotIndex found' there'
  · exact sound

theorem Sound.reconcile (reads : Reads number) {datasetId : String} (desired : List String) (sound : Sound limit delivered sorts s) :
    Sound limit delivered sorts (reconcileProxyResidency number s datasetId desired).1 := by
  unfold reconcileProxyResidency
  cases s.proxyPoolsByDataset.get? datasetId with
  | none => exact sound
  | some dsPools =>
    exact List.foldlRecOn (motive := fun walk : RendererState × Nat => Sound limit delivered sorts walk.1) dsPools.entries _ sound
      fun walk sound entry _ => List.foldlRecOn (motive := fun walk : RendererState × Nat => Sound limit delivered sorts walk.1)
        entry.2.slots.entries _ sound fun walk sound slot _ => sound.release reads slot

theorem Sound.counted {stats : ProxyStats} (sound : Sound limit delivered sorts s) : Sound limit delivered sorts {s with proxyStats := stats} :=
  ⟨sound.fit,sound.handles,sound.loaded⟩

def KeepsTiles (s : RendererState) (msg : ColdState) : Prop :=
  ∀ groupId tileId, tileId ∈ childTiles s.groupToTiles groupId → tileId ∈ childTiles (rebuildGroups s msg).1 groupId

theorem Sound.coldState (reads : Reads number) {msg : ColdState} (keeps : sorts .groupProxy3D → KeepsTiles s msg)
    (sound : Sound limit delivered sorts s) :
    Sound limit delivered sorts (applyColdState number {s with currentColdState := some msg, currentEpochs := some msg.epochs} msg) := by
  have rebuilt : ∀ groups, Sound limit delivered sorts {s with
      currentColdState := some msg, currentEpochs := some msg.epochs, groupToTiles := (rebuildGroups s msg).1, groupsByDataset := groups} := by
    refine fun groups => ⟨sound.fit,fun kind sort => ?_,sound.loaded⟩
    refine (sound.handles kind sort).change (fun _ _ _ => False) (fun d k pool key slotIndex there resident _ => ⟨pool,there,rfl,resident⟩)
      (fun entityId t c key shown => ?_) fun key handle held => .inr ⟨held,fun _ _ _ _ _ _ _ _ _ _ _ => id⟩
    cases kind with
    | tileProxy3D => exact shown
    | groupProxy3D =>
      rcases List.mem_cons.mp shown with own | tile
      · exact List.mem_cons.mpr (.inl own)
      · obtain ⟨tileId,member,same⟩ := List.mem_map.mp tile
        exact List.mem_cons_of_mem _ (List.mem_map.mpr ⟨tileId,keeps sort entityId tileId member,same⟩)
  unfold applyColdState
  dsimp only
  cases msg.desiredProxyKeys with
  | none => exact rebuilt _
  | some keys =>
    exact ((rebuilt _).reconcile reads keys).counted

end Steps

def runProxies (number : String → Option Int) (limit : Nat) (events : List ProxyEvent) : RendererState × Delivered :=
  events.foldl (fun walk event => (handleProxyEvent number limit walk.1 event,match event with
    | .upload msg => match (handleProxyUpload number limit walk.1 msg).2 with
      | .ok ⟨true,_⟩ => walk.2.after msg
      | _ => walk.2
    | .coldState _ => walk.2)) ({},fun _ _ _ => none)

def ProxyEvent.Safe : ProxyEvent → Prop
  | .upload msg => msg.Safe
  | .coldState _ => True

def GroupsKeep (number : String → Option Int) (limit : Nat) (events : List ProxyEvent) : Prop :=
  ∀ before msg later, events = before ++ .coldState msg::later → KeepsTiles (runProxies number limit before).1 msg

theorem sound_run (reads : Reads number) {events : List ProxyEvent} (safe : ∀ event ∈ events, event.Safe) :
    Sound limit (runProxies number limit events).2 (fun kind => kind = .groupProxy3D → GroupsKeep number limit events)
      (runProxies number limit events).1 := by
  induction events using List.reverseRecOn with
  | nil =>
    refine ⟨fun d k pool found => ?_,fun kind _ key handle held => ?_,fun d k pool key slotIndex found => ?_⟩
    · cases found
    · cases held
    · cases found
  | append_singleton events event hypothesis =>
    have before := hypothesis fun other member => safe other (List.mem_append_left _ member)
    have last := safe event (by simp)
    have keep : GroupsKeep number limit (events ++ [event]) → GroupsKeep number limit events := by
      intro keeps prior msg later whole
      exact keeps prior msg (later ++ [event]) (by rw [whole,List.append_assoc]; rfl)
    have before : Sound limit (runProxies number limit events).2
        (fun kind => kind = .groupProxy3D → GroupsKeep number limit (events ++ [event])) (runProxies number limit events).1 :=
      ⟨before.fit,fun kind sort => before.handles kind fun group => keep (sort group),before.loaded⟩
    unfold runProxies
    rw [List.foldl_append]
    cases event with
    | upload msg => exact before.upload reads last
    | coldState msg => exact before.coldState reads fun keeps => keeps rfl events msg [] rfl

-- What a handle leads to: a pool of its sort in whose slot is the proxy of the key's
-- entity or of its group, with the samples that were last taken for it.
def Presents (run : RendererState × Delivered) (kind : ProxyKind) (key : String) (handle : ProxyHandle) : Prop :=
  ∃ datasetId pool entityId t c data, run.1.proxyPoolsByDataset.find? datasetId handle.poolKey = some pool ∧ pool.kind = kind ∧
    pool.slots.get? (proxySlotKey entityId t c) = some handle.slotIndex ∧ key ∈ showingKeys run.1.groupToTiles kind entityId t c ∧
    run.2 datasetId handle.poolKey (proxySlotKey entityId t c) = some data ∧ SlotHolds pool handle.slotIndex data

-- Whatever uploads and cold states came, each handle of a tile presents the tile's own
-- proxy, and each of a group the group's, so long as no tile was taken out of a group.
theorem proxyHandles_present (reads : Reads number) {events : List ProxyEvent} (safe : ∀ event ∈ events, event.Safe) (key : String)
    (handle : ProxyHandle) :
    (heldHandle (runProxies number limit events).1.proxyDescriptorsByEntity .tileProxy3D key = some handle →
      Presents (runProxies number limit events) .tileProxy3D key handle) ∧
    (GroupsKeep number limit events → heldHandle (runProxies number limit events).1.proxyDescriptorsByEntity .groupProxy3D key = some handle →
      Presents (runProxies number limit events) .groupProxy3D key handle) := by
  have sound := @sound_run number limit reads events safe
  have present : ∀ kind, HandlesShow kind (runProxies number limit events).1 →
      heldHandle (runProxies number limit events).1.proxyDescriptorsByEntity kind key = some handle →
      Presents (runProxies number limit events) kind key handle := by
    intro kind shows' held
    obtain ⟨datasetId,pool,entityId,t,c,_,found,sort,there,shown⟩ := shows' key handle held
    obtain ⟨data,given,holds⟩ := sound.loaded _ _ pool _ _ found there
    exact ⟨datasetId,pool,entityId,t,c,data,found,sort,there,shown,given,holds⟩
  exact ⟨present _ (sound.handles _ nofun),fun keeps => present _ (sound.handles _ fun _ => keeps)⟩

end Invariant

def decimal (text : String) : Option Int := (parseUnsigned 53 text.toList).map Int.ofNat

theorem reads_decimal : Reads decimal := by
  intro n short
  rw [decimal,Nat.toString_eq_repr,Nat.toList_repr,parseUnsigned_toDigits,Option.filter_some,if_pos (decide_eq_true short)]
  rfl

-- A group of two tiles. Its own proxy has the one slot of a pool, and the proxy of the second tile
-- evicts that of the first from the one slot of another.
def twoTiles : ColdState := ⟨⟨0,0,0,0,0,0⟩,"d",none,[⟨"a",some "g"⟩,⟨"b",some "g"⟩]⟩

def sampleUpload (entityId : String) (kind : ProxyKind) (value : Nat) : ProxyAssetData :=
  ⟨⟨0,0,0,0,0,0⟩,"d",entityId,kind,0,0,⟨1,1,1⟩,[value]⟩

def twoTilesRun : List ProxyEvent :=
  [.coldState twoTiles,.upload (sampleUpload "a" .tileProxy3D 7),.upload (sampleUpload "g" .groupProxy3D 8),
    .upload (sampleUpload "b" .tileProxy3D 9)]

theorem twoTilesRun_keeps : GroupsKeep decimal 1 twoTilesRun := by
  intro before msg later whole groupId tileId member
  cases before with
  | nil => cases member
  | cons first before =>
    have among : ProxyEvent.coldState msg ∈ twoTilesRun.tail := by
      rw [whole]
      exact List.mem_append_right before List.mem_cons_self
    simp [twoTilesRun] at among

theorem proxyHandles_present_two_tiles :
    heldHandle (runProxies decimal 1 twoTilesRun).1.proxyDescriptorsByEntity .tileProxy3D (proxySlotKey "a" 0 0) = none ∧
    (∃ handle, heldHandle (runProxies decimal 1 twoTilesRun).1.proxyDescriptorsByEntity .tileProxy3D (proxySlotKey "b" 0 0) = some handle ∧
      Presents (runProxies decimal 1 twoTilesRun) .tileProxy3D (proxySlotKey "b" 0 0) handle) ∧
    ∃ handle, heldHandle (runProxies decimal 1 twoTilesRun).1.proxyDescriptorsByEntity .groupProxy3D (proxySlotKey "a" 0 0) = some handle ∧
      Presents (runProxies decimal 1 twoTilesRun) .groupProxy3D (proxySlotKey "a" 0 0) handle := by
  have safe : ∀ event ∈ twoTilesRun, event.Safe := by
    intro event member
    simp only [twoTilesRun,List.mem_cons,List.not_mem_nil,or_false] at member
    rcases member with rfl | rfl | rfl | rfl
    · trivial
    · exact ⟨by decide,by decide⟩
    · exact ⟨by decide,by decide⟩
    · exact ⟨by decide,by decide⟩
  have tile : heldHandle (runProxies decimal 1 twoTilesRun).1.proxyDescriptorsByEntity .tileProxy3D (proxySlotKey "b" 0 0) =
      some ⟨"d|proxy|TileProxy3D|1x1x1|ch0",0⟩ := by decide +kernel
  have group : heldHandle (runProxies decimal 1 twoTilesRun).1.proxyDescriptorsByEntity .groupProxy3D (proxySlotKey "a" 0 0) =
      some ⟨"d|proxy|GroupProxy3D|1x1x1|ch0",0⟩ := by decide +kernel
  exact ⟨by decide +kernel,⟨_,tile,(proxyHandles_present reads_decimal safe _ _).1 tile⟩,_,group,
    (proxyHandles_present reads_decimal safe _ _).2 twoTilesRun_keeps group⟩

end Lucida.Renderer
