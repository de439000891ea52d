import Mathlib.Data.Finset.Basic
import Lucida.Lib.Runs
import Lucida.Server.WorkspaceStore

namespace Lucida.Server
open Lib

-- Which `LiveWorkspace` an `Arc` points to.
abbrev LiveId := Nat
abbrev ClientId := Nat

-- How the manager's map let go of a live workspace. The source keeps no such record.
inductive Departure where
  | evicted
  | replaced
  | archived
  deriving DecidableEq, Repr

-- `LiveWorkspace`, with the clients, the seq and the document of its session.
structure LiveWorkspace where
  workspaceId : WorkspaceId
  seq : Nat
  documentJson : String
  clients : Finset ClientId
  nextId : Nat
  emptySince : Option Nat
  departed : Option Departure
  deriving DecidableEq

def LiveWorkspace.new (workspaceId : WorkspaceId) (record : WorkspaceRow) (now : Nat) : LiveWorkspace where
  workspaceId := workspaceId
  seq := record.seq
  documentJson := record.documentJson
  clients := ∅
  nextId := 0
  emptySince := some now
  departed := none

-- `WorkspaceManager::live` and every live workspace it was ever given.
structure LiveTable where
  live : IndexMap WorkspaceId LiveId
  lives : IndexMap LiveId LiveWorkspace
  nextLive : LiveId

-- What one section of a task does under the manager's lock or a session's.
inductive LiveChange where
  | keep
  | publish (workspaceId : WorkspaceId) (record : WorkspaceRow) (loadedAt : Nat)
  | release (workspaceId : WorkspaceId) (how : Departure)
  | number (live : LiveId)
  | enter (live : LiveId) (client : ClientId)
  | leave (live : LiveId) (client : ClientId)
  | idle (live : LiveId) (since : Option Nat)
  deriving DecidableEq, Repr

namespace LiveTable

def empty : LiveTable := ⟨.empty,.empty,0⟩

def departs (t : LiveTable) (workspaceId : WorkspaceId) (how : Departure) : IndexMap LiveId LiveWorkspace :=
  match t.live.get? workspaceId with
  | some live => t.lives.modify live ({· with departed := some how})
  | none => t.lives

def apply (t : LiveTable) : LiveChange → LiveTable
  | .keep => t
  | .publish workspaceId record loadedAt =>
    ⟨t.live.insert workspaceId t.nextLive,
      (t.departs workspaceId .replaced).insert t.nextLive (.new workspaceId record loadedAt),t.nextLive + 1⟩
  | .release workspaceId how => {t with live := t.live.erase workspaceId, lives := t.departs workspaceId how}
  | .number live => {t with lives := t.lives.modify live fun l => {l with nextId := l.nextId + 1}}
  | .enter live client => {t with lives := t.lives.modify live fun l => {l with clients := insert client l.clients}}
  | .leave live client => {t with lives := t.lives.modify live fun l => {l with clients := l.clients.erase client}}
  | .idle live since => {t with lives := t.lives.modify live ({· with emptySince := since})}

-- Clients of one workspace are in one live workspace, and no evicted or replaced one has a client.
structure Shared (t : LiveTable) : Prop where
  one : t.lives.get? a = some l → t.lives.get? b = some l' → l.workspaceId = l'.workspaceId →
    l.clients.Nonempty → l'.clients.Nonempty → a = b
  cleared : t.lives.get? a = some l → l.departed = some .evicted ∨ l.departed = some .replaced → l.clients = ∅

def Vacant (t : LiveTable) (workspaceId : WorkspaceId) : Prop :=
  ∀ live ∈ t.live.get? workspaceId, ∀ l ∈ t.lives.get? live, l.clients = ∅

-- Of `live` and the others of its workspace, none that an archive took from the map
-- would have clients beside one that it did not.
def Reunited (t : LiveTable) (live : LiveId) (l : LiveWorkspace) : Prop :=
  ∀ entry ∈ t.lives.entries, entry.1 ≠ live → entry.2.workspaceId = l.workspaceId →
    l.departed = some .archived ∨ entry.2.departed = some .archived → entry.2.clients = ∅

def Admits (t : LiveTable) : LiveChange → Prop
  | .publish workspaceId _ _ | .release workspaceId .evicted | .release workspaceId .replaced => t.Vacant workspaceId
  | .enter live _ =>
    ∀ l ∈ t.lives.get? live, l.departed ≠ some .evicted ∧ l.departed ≠ some .replaced ∧ t.Reunited live l
  | _ => True

instance (t : LiveTable) (workspaceId : WorkspaceId) : Decidable (t.Vacant workspaceId) := by
  unfold Vacant
  infer_instance

instance (t : LiveTable) (live : LiveId) (l : LiveWorkspace) : Decidable (t.Reunited live l) := by
  unfold Reunited
  infer_instance

instance (t : LiveTable) : DecidablePred t.Admits := fun change => by
  unfold Admits
  split <;> infer_instance

-- The map holds, for each workspace, the live one that nothing has taken from it.
structure Coherent (t : LiveTable) : Prop where
  fresh : t.lives.get? a = some l → a < t.nextLive
  mapped : t.live.get? workspaceId = some a ↔
    ∃ l, t.lives.get? a = some l ∧ l.workspaceId = workspaceId ∧ l.departed = none

variable {t : LiveTable} {workspaceId : WorkspaceId} {live a : LiveId} {l : LiveWorkspace}

theorem Coherent.initial : Coherent .empty := by
  constructor <;> simp [LiveTable.empty]

theorem Shared.initial : Shared .empty := by
  constructor <;> simp [LiveTable.empty]

theorem get?_departs (t : LiveTable) (workspaceId : WorkspaceId) (how : Departure) (a : LiveId) :
    (t.departs workspaceId how).get? a =
      (t.lives.get? a).map fun l => if t.live.get? workspaceId = some a then {l with departed := some how} else l := by
  unfold departs
  split
  · rename_i current held
    rw [IndexMap.get?_modify,held]
    by_cases here : a = current
    · subst here
      simp
    · simp [here,Ne.symm here]
  · rename_i missing
    simp [missing]

theorem Coherent.release (coherent : t.Coherent) (how : Departure) : (t.apply (.release workspaceId how)).Coherent := by
  constructor
  · intro a l found
    rw [apply,get?_departs] at found
    obtain ⟨l',found',_⟩ := Option.map_eq_some_iff.mp found
    exact coherent.fresh found'
  · intro home a
    simp only [apply,IndexMap.get?_erase,get?_departs,Option.map_eq_some_iff]
    constructor
    · intro held
      split at held
      · cases held
      · rename_i other
        obtain ⟨l,found,rfl,still⟩ := coherent.mapped.mp held
        have elsewhere : t.live.get? workspaceId ≠ some a := by
          intro same
          obtain ⟨l',found',rfl,_⟩ := coherent.mapped.mp same
          rw [found] at found'
          cases found'
          exact other rfl
        exact ⟨l,⟨l,found,by rw [if_neg elsewhere]⟩,rfl,still⟩
    · rintro ⟨_,⟨l,found,rfl⟩,rfl,still⟩
      split at still
      · cases still
      · rename_i elsewhere
        have held := coherent.mapped.mpr ⟨l,found,rfl,still⟩
        rw [if_neg elsewhere,if_neg]
        · exact held
        · intro same
          rw [same] at held
          exact elsewhere held

-- Publishing is releasing the entry that gives way, then an entry for the newest live workspace.
theorem Coherent.publish (coherent : t.Coherent) (record : WorkspaceRow) (loadedAt : Nat) :
    (t.apply (.publish workspaceId record loadedAt)).Coherent := by
  have released : (t.apply (.release workspaceId .replaced)).Coherent := coherent.release .replaced
  constructor
  · intro a l found
    simp only [apply,IndexMap.get?_insert] at found ⊢
    split at found
    · rename_i newest
      exact newest ▸ Nat.lt_succ_self _
    · exact Nat.lt_succ_of_lt (released.fresh found)
  · intro home a
    have before := @released.mapped home a
    simp only [apply,IndexMap.get?_erase] at before
    simp only [apply,IndexMap.get?_insert]
    by_cases newest : a = t.nextLive
    · subst newest
      have unused : (t.departs workspaceId .replaced).get? t.nextLive = none := by
        refine Option.eq_none_iff_forall_ne_some.mpr fun l found => ?_
        have old := released.fresh found
        simp [apply] at old
      rw [unused] at before
      by_cases here : home = workspaceId
      · simp [here,LiveWorkspace.new]
      · simp [here,LiveWorkspace.new,Ne.symm here] at before ⊢
        exact before
    · rw [if_neg newest,← before]
      by_cases here : home = workspaceId
      · simp [here,Ne.symm newest]
      · simp [here]

theorem Coherent.edit (coherent : t.Coherent) (f : LiveWorkspace → LiveWorkspace)
    (keeps : ∀ l, (f l).workspaceId = l.workspaceId ∧ (f l).departed = l.departed) :
    ({t with lives := t.lives.modify live f} : LiveTable).Coherent := by
  have kept (a : LiveId) (l : LiveWorkspace) : (if a = live then f l else l).workspaceId = l.workspaceId ∧
      (if a = live then f l else l).departed = l.departed := by
    split
    · exact keeps l
    · exact ⟨rfl,rfl⟩
  constructor
  · intro a l found
    rw [IndexMap.get?_modify_eq_map] at found
    obtain ⟨l',found',_⟩ := Option.map_eq_some_iff.mp found
    exact coherent.fresh found'
  · intro home a
    simp only [coherent.mapped,IndexMap.get?_modify_eq_map,Option.map_eq_some_iff]
    constructor
    · rintro ⟨l,found,rfl,still⟩
      exact ⟨_,⟨l,found,rfl⟩,(kept a l).1,(kept a l).2.trans still⟩
    · rintro ⟨_,⟨l,found,rfl⟩,rfl,still⟩
      exact ⟨l,found,(kept a l).1.symm,(kept a l).2.symm.trans still⟩

theorem Coherent.apply (coherent : t.Coherent) (change : LiveChange) : (t.apply change).Coherent := by
  cases change with
  | keep => exact coherent
  | publish workspaceId record loadedAt => exact coherent.publish record loadedAt
  | release workspaceId how => exact coherent.release how
  | number live | enter live client | leave live client | idle live since =>
    exact coherent.edit _ fun _ => ⟨rfl,rfl⟩

theorem Shared.map {t' : LiveTable} {g : LiveId → LiveWorkspace → LiveWorkspace} (shared : t.Shared)
    (reads : ∀ a, t'.lives.get? a = (t.lives.get? a).map (g a)) (home : ∀ a l, (g a l).workspaceId = l.workspaceId)
    (fewer : ∀ a l, (g a l).clients ⊆ l.clients)
    (cleared : ∀ a l, t.lives.get? a = some l →
      (g a l).departed = some .evicted ∨ (g a l).departed = some .replaced → (g a l).clients = ∅) : t'.Shared := by
  constructor
  · intro a _ b _ found found' same some' some''
    rw [reads] at found found'
    obtain ⟨l,here,rfl⟩ := Option.map_eq_some_iff.mp found
    obtain ⟨l',here',rfl⟩ := Option.map_eq_some_iff.mp found'
    rw [home,home] at same
    exact shared.one here here' same (some'.mono (fewer a l)) (some''.mono (fewer b l'))
  · intro a _ found gone
    rw [reads] at found
    obtain ⟨l,here,rfl⟩ := Option.map_eq_some_iff.mp found
    exact cleared a l here gone

theorem Shared.edit (shared : t.Shared) (f : LiveWorkspace → LiveWorkspace)
    (keeps : ∀ l, (f l).workspaceId = l.workspaceId ∧ (f l).departed = l.departed ∧ (f l).clients ⊆ l.clients) :
    ({t with lives := t.lives.modify live f} : LiveTable).Shared := by
  have kept (a : LiveId) (l : LiveWorkspace) : (if a = live then f l else l).workspaceId = l.workspaceId ∧
      (if a = live then f l else l).departed = l.departed ∧ (if a = live then f l else l).clients ⊆ l.clients := by
    split
    · exact keeps l
    · exact ⟨rfl,rfl,subset_rfl⟩
  refine shared.map (fun a => IndexMap.get?_modify_eq_map _ _ _ _) (fun a l => (kept a l).1) (fun a l => (kept a l).2.2)
    fun a l found gone => ?_
  rw [(kept a l).2.1] at gone
  exact Finset.subset_empty.mp (shared.cleared found gone ▸ (kept a l).2.2)

theorem Shared.departs (shared : t.Shared) {t' : LiveTable} (how : Departure)
    (reads : ∀ a, t'.lives.get? a = (t.departs workspaceId how).get? a)
    (vacant : how ≠ .archived → t.Vacant workspaceId) : t'.Shared := by
  refine shared.map (fun a => (reads a).trans (get?_departs t workspaceId how a)) (fun a l => ?_) (fun a l => ?_)
    fun a l found gone => ?_
  · split <;> rfl
  · split <;> exact subset_rfl
  · split at gone
    · rename_i current
      rw [if_pos current]
      have left : how ≠ .archived := by
        rintro rfl
        simp at gone
      exact vacant left a current l found
    · rename_i other
      rw [if_neg other]
      exact shared.cleared found gone

theorem Shared.vacated {t' : LiveTable} (how : Departure) (shared : t'.Shared) (left : how ≠ .archived)
    (reads : ∀ a, t.lives.get? a ≠ none → t'.lives.get? a = (t.departs workspaceId how).get? a) : t.Vacant workspaceId := by
  intro a current l found
  have here := reads a (by simp [Option.mem_def.mp found])
  rw [get?_departs,Option.mem_def.mp found,Option.map_some,if_pos (Option.mem_def.mp current)] at here
  have gone : some how = some Departure.evicted ∨ some how = some .replaced := by
    cases how with
    | evicted => exact .inl rfl
    | replaced => exact .inr rfl
    | archived => exact absurd rfl left
  have emptied := shared.cleared here gone
  exact emptied

theorem shared_release (shared : t.Shared) (how : Departure) :
    (t.apply (.release workspaceId how)).Shared ↔ t.Admits (.release workspaceId how) := by
  constructor
  · intro after
    cases how with
    | archived => trivial
    | evicted | replaced => exact after.vacated _ (by simp) fun _ _ => rfl
  · intro admitted
    refine shared.departs how (fun _ => rfl) fun left => ?_
    cases how with
    | archived => exact absurd rfl left
    | evicted | replaced => exact admitted

theorem shared_publish (coherent : t.Coherent) (shared : t.Shared) (record : WorkspaceRow) (loadedAt : Nat) :
    (t.apply (.publish workspaceId record loadedAt)).Shared ↔ t.Admits (.publish workspaceId record loadedAt) := by
  constructor
  · intro after
    refine after.vacated .replaced (by simp) fun a found => ?_
    obtain ⟨l,found⟩ := Option.ne_none_iff_exists'.mp found
    simp only [apply,IndexMap.get?_insert]
    rw [if_neg (coherent.fresh found).ne]
  · intro vacant
    have released := (shared_release shared .replaced).mpr vacant
    -- The live workspace just published has no client yet.
    have older {a : LiveId} {l : LiveWorkspace} (found : (t.apply (.publish workspaceId record loadedAt)).lives.get? a = some l) :
        (t.apply (.release workspaceId .replaced)).lives.get? a = some l ∨ l.clients = ∅ ∧ l.departed = none := by
      simp only [apply,IndexMap.get?_insert] at found
      split at found
      · cases found
        exact .inr ⟨rfl,rfl⟩
      · exact .inl found
    constructor
    · intro a l b l' found found' same some' some''
      rcases older found with here | ⟨alone,_⟩
      · rcases older found' with here' | ⟨alone,_⟩
        · exact released.one here here' same some' some''
        · exact absurd alone some''.ne_empty
      · exact absurd alone some'.ne_empty
    · intro a l found gone
      rcases older found with here | ⟨alone,_⟩
      · exact released.cleared here gone
      · exact alone

-- Two live workspaces of one workspace that the map never let go of are the same one,
-- so an admitted client finds nobody elsewhere.
theorem Admits.alone {client : ClientId} (admitted : t.Admits (.enter live client)) (coherent : t.Coherent)
    (shared : t.Shared) (found : t.lives.get? live = some l) (found' : t.lives.get? a = some l') (other : a ≠ live)
    (home : l'.workspaceId = l.workspaceId) : l'.clients = ∅ := by
  obtain ⟨stays,stays',reunited⟩ := admitted l found
  have listed := IndexMap.mem_entries_iff.mpr found'
  cases gone' : l'.departed with
  | some how => cases how with
    | evicted => exact shared.cleared found' (.inl gone')
    | replaced => exact shared.cleared found' (.inr gone')
    | archived => exact reunited _ listed other home (.inr gone')
  | none => cases gone : l.departed with
    | some how => cases how with
      | evicted => exact absurd gone stays
      | replaced => exact absurd gone stays'
      | archived => exact reunited _ listed other home (.inl gone)
    | none =>
      have held := coherent.mapped.mpr ⟨l,found,rfl,gone⟩
      have held' := coherent.mapped.mpr ⟨l',found',home,gone'⟩
      rw [held] at held'
      exact absurd (Option.some.inj held').symm other

theorem shared_enter (coherent : t.Coherent) (shared : t.Shared) (client : ClientId) :
    (t.apply (.enter live client)).Shared ↔ t.Admits (.enter live client) := by
  have reads (a : LiveId) : (t.apply (.enter live client)).lives.get? a =
      (t.lives.get? a).map fun l => if a = live then {l with clients := insert client l.clients} else l :=
    IndexMap.get?_modify_eq_map _ _ _ _
  constructor
  · intro after l found
    have entered := reads live
    rw [Option.mem_def.mp found,Option.map_some,if_pos rfl] at entered
    have stays : ¬ (l.departed = some .evicted ∨ l.departed = some .replaced) := fun gone =>
      Finset.insert_ne_empty _ _ (after.cleared entered gone)
    rw [not_or] at stays
    refine ⟨stays.1,stays.2,fun entry listed other home _ => ?_⟩
    have there := reads entry.1
    rw [IndexMap.mem_entries_iff.mp listed,Option.map_some,if_neg other] at there
    by_contra occupied
    exact other (after.one there entered home (Finset.nonempty_iff_ne_empty.mpr occupied) (Finset.insert_nonempty _ _))
  · intro admitted
    constructor
    · intro a _ b _ found found' same some' some''
      rw [reads] at found found'
      obtain ⟨l,here,rfl⟩ := Option.map_eq_some_iff.mp found
      obtain ⟨l',here',rfl⟩ := Option.map_eq_some_iff.mp found'
      by_cases first : a = live
      · by_cases second : b = live
        · rw [first,second]
        · subst first
          simp only [if_true,if_neg second] at same some''
          exact absurd (admitted.alone coherent shared here here' second same.symm) some''.ne_empty
      · by_cases second : b = live
        · subst second
          simp only [if_true,if_neg first] at same some'
          exact absurd (admitted.alone coherent shared here' here first same) some'.ne_empty
        · simp only [if_neg first,if_neg second] at same some' some''
          exact shared.one here here' same some' some''
    · intro a _ found gone
      rw [reads] at found
      obtain ⟨l,here,rfl⟩ := Option.map_eq_some_iff.mp found
      split at gone
      · rename_i same
        subst same
        obtain ⟨kept,kept',_⟩ := admitted l here
        exact absurd gone (by simp [kept,kept'])
      · rename_i other
        rw [if_neg other]
        exact shared.cleared here gone

theorem shared_apply (coherent : t.Coherent) (shared : t.Shared) (change : LiveChange) :
    (t.apply change).Shared ↔ t.Admits change := by
  cases change with
  | keep => exact iff_of_true shared trivial
  | publish workspaceId record loadedAt => exact shared_publish coherent shared record loadedAt
  | release workspaceId how => exact shared_release shared how
  | enter live client => exact shared_enter coherent shared client
  | number live | idle live since => exact iff_of_true (shared.edit _ fun _ => ⟨rfl,rfl,subset_rfl⟩) trivial
  | leave live client => exact iff_of_true (shared.edit _ fun _ => ⟨rfl,rfl,Finset.erase_subset _ _⟩) trivial

end LiveTable

def WorkspaceStore.memberRoleForAnyState (store : WorkspaceStore) (workspaceId : WorkspaceId) (principal : AuthPrincipal) :
    Option WorkspaceRole :=
  if principal.isAdmin then (store.workspaces.get? workspaceId).map fun _ => .owner
  else (store.members.get? (workspaceId,normalizeEmail principal.email)).map (·.role)

-- `ARCHIVE_WORKSPACE`, none where it hits no row.
def WorkspaceStore.archiveWorkspace (store : WorkspaceStore) (workspaceId : WorkspaceId) (now : Nat) : Option WorkspaceStore :=
  (store.live? workspaceId).map fun _ =>
    {store with workspaces := store.workspaces.modify workspaceId ({· with archivedAt := some now, updatedAt := now})}

def WorkspaceStore.restoreWorkspace (store : WorkspaceStore) (workspaceId : WorkspaceId) (now : Nat) : WorkspaceStore :=
  {store with workspaces := store.workspaces.modify workspaceId ({· with archivedAt := none, updatedAt := now})}

-- What a socket's request does next: `get_workspace_for` down to `role`, the rest of
-- `live_workspace` down to `publish`, then the upgraded socket in `handle_client_inner`.
inductive ConnectionStage where
  | record
  | anyState
  | role
  | cached
  | load
  | sources (record : WorkspaceRow) (loadedAt : Nat)
  | publish (record : WorkspaceRow) (loadedAt : Nat)
  | opened (live : LiveId)
  | numbered (live : LiveId) (client : ClientId)
  | joined (live : LiveId) (client : ClientId)
  | left
  | failed (error : WorkspaceError)
  deriving DecidableEq, Repr

structure Connection where
  workspaceId : WorkspaceId
  principal : AuthPrincipal
  stage : ConnectionStage
  deriving DecidableEq, Repr

-- Each stage is one statement of the store or one section under a lock.
def Connection.proceed (c : Connection) (store : WorkspaceStore) (t : LiveTable) (now : Nat) :
    Option (LiveChange × ConnectionStage) :=
  match c.stage with
  | .record => some (.keep,match store.workspaces.get? c.workspaceId with
    | none => .failed .notFound
    | some row => if row.archivedAt.isSome then .anyState else .role)
  | .anyState =>
    some (.keep,.failed (if (store.memberRoleForAnyState c.workspaceId c.principal).isSome then .archived else .notFound))
  | .role => some (.keep,match store.roleFor c.workspaceId c.principal with
    | .error error => .failed (.store error)
    | .ok none => .failed .notFound
    | .ok (some _) => .cached)
  | .cached => some (.keep,match t.live.get? c.workspaceId with
    | some live => .opened live
    | none => .load)
  | .load => some (.keep,match store.workspaces.get? c.workspaceId with
    | none => .failed .notFound
    | some row => .sources row now)
  | .sources record loadedAt => some (.keep,.publish record loadedAt)
  | .publish record loadedAt => some (.publish c.workspaceId record loadedAt,.opened t.nextLive)
  | .opened live => (t.lives.get? live).map fun l => (.number live,.numbered live l.nextId)
  | .numbered live client => some (.enter live client,.joined live client)
  -- the disconnect, or the failed send of the snapshot
  | .joined live client => some (.leave live client,.left)
  | .left | .failed _ => none

inductive SweepStage where
  | count
  | occupied
  | idle
  | remove
  deriving DecidableEq, Repr

-- A run of `evict_idle_workspaces`, at the first of its candidates.
structure Sweep where
  candidates : List LiveId
  stage : SweepStage
  deriving DecidableEq, Repr

def Sweep.proceed (s : Sweep) (t : LiveTable) (idleTtl now : Nat) : Option (LiveChange × Sweep) :=
  match s.candidates with
  | [] => none
  | live::rest => (t.lives.get? live).map fun l => match s.stage with
    | .count => (.keep,{s with stage := if l.clients.card > 0 then .occupied else .idle})
    | .occupied => (.idle live none,⟨rest,.count⟩)
    | .idle =>
      let since := l.emptySince.getD now
      (.idle live (some since),if now - since < idleTtl then ⟨rest,.count⟩ else {s with stage := .remove})
    | .remove => (if t.live.get? l.workspaceId = some live then .release l.workspaceId .evicted else .keep,⟨rest,.count⟩)

structure LiveWorld where
  idleTtl : Nat
  store : WorkspaceStore
  table : LiveTable
  connections : IndexMap Nat Connection
  sweeps : IndexMap Nat Sweep
  archiving : IndexMap Nat WorkspaceId

inductive LiveEvent where
  | connect (id : Nat) (workspaceId : WorkspaceId) (principal : AuthPrincipal)
  | proceed (id now : Nat)
  | fails (id : Nat) (message : String)
  | sweep (id : Nat)
  | inspect (id now : Nat)
  | archive (id : Nat) (workspaceId : WorkspaceId) (now : Nat)
  | notify (id : Nat)
  | restore (workspaceId : WorkspaceId) (now : Nat)

namespace LiveWorld

def initial (store : WorkspaceStore) (idleTtl : Nat) : LiveWorld := ⟨idleTtl,store,.empty,.empty,.empty,.empty⟩

def act (w : LiveWorld) : LiveEvent → Option (LiveChange × LiveWorld)
  | .connect id workspaceId principal =>
    if w.connections.get? id = none then
      some (.keep,{w with connections := w.connections.insert id ⟨workspaceId,principal,.record⟩})
    else none
  | .proceed id now => do
    let c ← w.connections.get? id
    let (change,stage) ← c.proceed w.store w.table now
    some (change,{w with connections := w.connections.insert id {c with stage}})
  | .fails id message => do
    let c ← w.connections.get? id
    match c.stage with
    | .record | .anyState | .role | .load | .sources _ _ =>
      some (.keep,{w with connections := w.connections.insert id {c with stage := .failed (.store (.backend message))}})
    | _ => none
  | .sweep id => some (.keep,{w with sweeps := w.sweeps.insert id ⟨w.table.live.values,.count⟩})
  | .inspect id now => do
    let s ← w.sweeps.get? id
    let (change,s) ← s.proceed w.table w.idleTtl now
    some (change,{w with sweeps := w.sweeps.insert id s})
  | .archive id workspaceId now => do
    let store ← w.store.archiveWorkspace workspaceId now
    some (.keep,{w with store, archiving := w.archiving.insert id workspaceId})
  | .notify id => do
    let workspaceId ← w.archiving.get? id
    some (.release workspaceId .archived,{w with archiving := w.archiving.erase id})
  | .restore workspaceId now => some (.keep,{w with store := w.store.restoreWorkspace workspaceId now})

def next? (w : LiveWorld) (event : LiveEvent) : Option LiveWorld :=
  (w.act event).map fun (change,after) => {after with table := w.table.apply change}

-- The lookups and sweeps keep apart: a lookup that publishes replaces no live workspace
-- with clients, a sweep removes none that got a client after its count, and a client
-- enters none that was evicted or replaced while it came, nor one beside clients that
-- an archive cut off.
def KeptApart (w : LiveWorld) (event : LiveEvent) : Prop := ∀ acted ∈ w.act event, w.table.Admits acted.1

instance (w : LiveWorld) : DecidablePred w.KeptApart := fun event => by
  unfold KeptApart
  infer_instance

theorem next_shared {w after : LiveWorld} (coherent : w.table.Coherent) (shared : w.table.Shared)
    (taken : w.next? event = some after) : after.table.Coherent ∧ (after.table.Shared ↔ w.KeptApart event) := by
  obtain ⟨⟨change,rest⟩,acted,rfl⟩ := Option.map_eq_some_iff.mp taken
  have only : w.KeptApart event ↔ w.table.Admits change := by simp [KeptApart,acted]
  exact ⟨coherent.apply change,(LiveTable.shared_apply coherent shared change).trans only.symm⟩

end LiveWorld

-- In every run whose lookups and sweeps keep apart, the clients of a workspace share one
-- live workspace that is neither evicted nor replaced; the first step to end that does not.
theorem clients_share_one_live
    (path : Runs (fun w event after => w.next? event = some after ∧ w.KeptApart event) (LiveWorld.initial store idleTtl)
      events w) :
    w.table.Shared ∧
    ∀ event after, w.next? event = some after → (after.table.Shared ↔ w.KeptApart event) := by
  have kept : w.table.Coherent ∧ w.table.Shared := by
    refine path.preserves (P := fun w => w.table.Coherent ∧ w.table.Shared) ?_ ⟨.initial,.initial⟩
    rintro before event after ⟨coherent,shared⟩ ⟨taken,apart⟩
    have step := LiveWorld.next_shared coherent shared taken
    exact ⟨step.1,step.2.mpr apart⟩
  exact ⟨kept.2,fun event after taken => (LiveWorld.next_shared kept.1 kept.2 taken).2⟩

section
open LiveEvent

def oneWorkspace : WorkspaceStore where
  workspaces := .ofList [("w",⟨"Lab","a@x",0,0,none,0,"",.restricted,.viewer,none⟩)]
  members := .ofList [(("w","a@x"),⟨.owner,"A",0⟩),(("w","b@x"),⟨.editor,"B",0⟩)]
  savedViews := .empty

def visitor (email : String) : AuthPrincipal := ⟨email,email,false⟩

theorem clients_share_one_live_in_turn :
    ∃ w, Runs (fun w event after => w.next? event = some after ∧ w.KeptApart event) (LiveWorld.initial oneWorkspace 0)
        [connect 0 "w" (visitor "a@x"),proceed 0 1,proceed 0 1,proceed 0 1,proceed 0 1,proceed 0 1,proceed 0 1,proceed 0 1,
          proceed 0 1,connect 1 "w" (visitor "b@x"),proceed 1 2,proceed 1 2,proceed 1 2,proceed 1 2,proceed 1 2] w ∧
      (w.table.lives.entries.map fun entry => (entry.1,entry.2.clients)) = [(0,{0,1})] ∧ w.table.Shared := by
  have reached : ∃ w, drive (guarded LiveWorld.KeptApart LiveWorld.next?) (LiveWorld.initial oneWorkspace 0)
      [connect 0 "w" (visitor "a@x"),proceed 0 1,proceed 0 1,proceed 0 1,proceed 0 1,proceed 0 1,proceed 0 1,proceed 0 1,
        proceed 0 1,connect 1 "w" (visitor "b@x"),proceed 1 2,proceed 1 2,proceed 1 2,proceed 1 2,proceed 1 2] = some w ∧
      (w.table.lives.entries.map fun entry => (entry.1,entry.2.clients)) = [(0,{0,1})] := by
    refine ⟨_,rfl,?_⟩
    decide
  obtain ⟨w,ran,both⟩ := reached
  have path := drive_guarded ran
  exact ⟨w,path,both,(clients_share_one_live path).1⟩

-- Both lookups miss before either publishes.
theorem crossing_lookups_split_a_workspace :
    ∃ w, Runs (fun w event after => w.next? event = some after) (LiveWorld.initial oneWorkspace 0)
        [connect 0 "w" (visitor "a@x"),connect 1 "w" (visitor "b@x"),proceed 0 1,proceed 1 1,proceed 0 1,proceed 1 1,
          proceed 0 1,proceed 1 1,proceed 0 1,proceed 1 1,proceed 0 1,proceed 1 1,proceed 0 1,proceed 1 1,
          proceed 0 1,proceed 1 1,proceed 0 1,proceed 1 1] w ∧
      ¬ w.table.Shared := by
  have reached : ∃ w, drive LiveWorld.next? (LiveWorld.initial oneWorkspace 0)
      [connect 0 "w" (visitor "a@x"),connect 1 "w" (visitor "b@x"),proceed 0 1,proceed 1 1,proceed 0 1,proceed 1 1,
        proceed 0 1,proceed 1 1,proceed 0 1,proceed 1 1,proceed 0 1,proceed 1 1,proceed 0 1,proceed 1 1,
        proceed 0 1,proceed 1 1,proceed 0 1,proceed 1 1] = some w ∧
      (∃ l, w.table.lives.get? 0 = some l ∧ l.workspaceId = "w" ∧ l.clients = {0}) ∧
      ∃ l, w.table.lives.get? 1 = some l ∧ l.workspaceId = "w" ∧ l.clients = {0} := by
    refine ⟨_,rfl,⟨_,rfl,?_⟩,⟨_,rfl,?_⟩⟩ <;> decide
  obtain ⟨w,ran,⟨l,found,home,client⟩,l',found',home',client'⟩ := reached
  refine ⟨w,drive_runs (fun _ _ _ taken => taken) ran,fun shared => ?_⟩
  have same := shared.one found found' (home.trans home'.symm) (by simp [client]) (by simp [client'])
  cases same

end

end Lucida.Server
