import Lucida.Lib.Runs
import Lucida.Server.WorkspaceStore

namespace Lucida.Server
open Lib

inductive MemberChange where
  | upsert (displayName : Option String) (role : WorkspaceRole)
  | update (role : WorkspaceRole)
  | remove
  deriving DecidableEq, Repr

def MemberChange.nextRole : MemberChange → Option WorkspaceRole
  | .upsert _ role | .update role => some role
  | .remove => none

-- A call of `upsert_member`, `update_member_role` or `remove_member`.
structure MemberCall where
  workspaceId : WorkspaceId
  principal : AuthPrincipal
  email : String
  change : MemberChange
  deriving DecidableEq, Repr

abbrev MemberResult := Except WorkspaceError (Option WorkspaceMember)

-- The statement a call runs next. From the role lookup on it holds the
-- normalized email.
inductive MemberStage where
  | role
  | settings (email : String)
  | members (email : String)
  | present (email : String)
  | write (email : String)
  | reread (email : String)
  | done (result : MemberResult)

structure MemberWorld where
  store : WorkspaceStore
  calls : IndexMap Nat (MemberCall × MemberStage)

inductive MemberEvent where
  | call (id : Nat) (call : MemberCall)
  | statement (id now : Nat)
  | fails (id : Nat) (message : String)

namespace MemberCall

-- `require_owner`, and the email check after it.
def afterRole (call : MemberCall) : Except StoreError (Option WorkspaceRole) → MemberStage
  | .error error => .done (.error (.store error))
  | .ok none => .done (.error .forbidden)
  | .ok (some role) =>
    if role.canOwn then
      match normalizeRequestEmail call.email with
      | .ok email => .settings email
      | .error error => .done (.error error)
    else .done (.error .forbidden)

-- `ensure_owner_retained` on the members just listed.
def afterMembers (call : MemberCall) (email : String) (members : List WorkspaceMember) : MemberStage :=
  match ensureOwnerRetained members email call.change.nextRole with
  | .error error => .done (.error error)
  | .ok () => match call.change with
    | .upsert _ _ => .present email
    | _ => .write email

-- The statement that changes the members, one transaction with the touch of the workspace.
def write (call : MemberCall) (store : WorkspaceStore) (email : String) (now : Nat) : WorkspaceStore × MemberStage :=
  match call.change with
  | .upsert displayName role =>
    (store.upsertMember call.workspaceId (normalizeEmail email) (displayName.getD "") role now,.reread email)
  | .update role =>
    let (updated,hit) := store.updateMemberRole call.workspaceId (normalizeEmail email) role now
    (updated,if hit then .reread email else .done (.error .notFound))
  | .remove =>
    let (updated,hit) := store.removeMember call.workspaceId (normalizeEmail email) now
    (updated,.done (if hit then .ok none else .error .notFound))

def statement (call : MemberCall) (store : WorkspaceStore) (now : Nat) : MemberStage → Option (WorkspaceStore × MemberStage)
  | .role => some (store,call.afterRole (store.roleFor call.workspaceId call.principal))
  | .settings email =>
    some (store,if (store.live? call.workspaceId).isSome then .members email else .done (.error .notFound))
  | .members email => some (store,call.afterMembers email (store.listMembers call.workspaceId))
  | .present email =>
    some (store,if store.workspaceExists call.workspaceId then .write email else .done (.error .notFound))
  | .write email => some (call.write store email now)
  | .reread email =>
    some (store,.done (match store.member call.workspaceId (normalizeEmail email) with
      | some member => .ok (some member)
      | none => .error .notFound))
  | .done _ => none

end MemberCall

namespace MemberWorld

def initial (store : WorkspaceStore) : MemberWorld := ⟨store,.empty⟩

def next? (w : MemberWorld) : MemberEvent → Option MemberWorld
  | .call id call =>
    if w.calls.get? id = none then some {w with calls := w.calls.insert id (call,.role)} else none
  | .statement id now => do
    let (call,stage) ← w.calls.get? id
    let (store,stage) ← call.statement w.store now stage
    some ⟨store,w.calls.insert id (call,stage)⟩
  | .fails id message => do
    let (call,stage) ← w.calls.get? id
    match stage with
    | .done _ => none
    | _ => some {w with calls := w.calls.insert id (call,.done (.error (.store (.backend message))))}

-- The write that a statement is about to make would still pass the check that the
-- call made on an earlier listing.
def Rechecked (w : MemberWorld) : MemberEvent → Prop
  | .statement id _ =>
    match w.calls.get? id with
    | some (call,.write email) =>
      ensureOwnerRetained (w.store.listMembers call.workspaceId) (normalizeEmail email) call.change.nextRole = .ok ()
    | _ => True
  | _ => True

instance (w : MemberWorld) : DecidablePred w.Rechecked := fun event => by
  unfold Rechecked
  split
  · split <;> infer_instance
  · infer_instance

end MemberWorld

namespace WorkspaceStore
variable {store : WorkspaceStore} {workspaceId : WorkspaceId} {email : String}

def memberRole (store : WorkspaceStore) (key : WorkspaceId × String) : Option WorkspaceRole :=
  (store.members.get? key).map (·.role)

def OwnedBy (store : WorkspaceStore) (workspaceId : WorkspaceId) (email : String) : Prop :=
  store.memberRole (workspaceId,email) = some .owner

instance : Decidable (store.OwnedBy workspaceId email) :=
  inferInstanceAs (Decidable (store.memberRole (workspaceId,email) = some .owner))

def HasOwner (store : WorkspaceStore) (workspaceId : WorkspaceId) : Prop := ∃ email, store.OwnedBy workspaceId email

theorem listMembers_perm (store : WorkspaceStore) (workspaceId : WorkspaceId) :
    (store.listMembers workspaceId).Perm
      ((store.members.entries.filter (·.1.1 = workspaceId)).map fun entry => rowToMember entry.1.2 entry.2) :=
  List.perm_insertionSort _ _

theorem mem_listMembers {member : WorkspaceMember} : member ∈ store.listMembers workspaceId ↔
    ∃ row, store.members.get? (workspaceId,member.email) = some row ∧ member = rowToMember member.email row := by
  rw [(listMembers_perm store workspaceId).mem_iff,List.mem_map]
  constructor
  · rintro ⟨⟨⟨home,email⟩,row⟩,listed,rfl⟩
    obtain ⟨stored,here⟩ := List.mem_filter.mp listed
    have same : home = workspaceId := by simpa using here
    subst same
    exact ⟨row,IndexMap.mem_entries_iff.mp stored,rfl⟩
  · rintro ⟨row,found,shape⟩
    refine ⟨((workspaceId,member.email),row),List.mem_filter.mpr ⟨IndexMap.mem_entries_iff.mpr found,?_⟩,shape.symm⟩
    simp

theorem listMembers_distinct (store : WorkspaceStore) (workspaceId : WorkspaceId) :
    ((store.listMembers workspaceId).map (·.email)).Nodup := by
  rw [((listMembers_perm store workspaceId).map _).nodup_iff,List.map_map]
  have keys : ((store.members.entries.filter (·.1.1 = workspaceId)).map Prod.fst).Nodup :=
    store.members.nodup.sublist (List.filter_sublist.map _)
  refine (List.nodup_map_iff_inj_on (List.Nodup.of_map _ keys)).mpr ?_
  intro entry listed entry' listed' same
  refine List.inj_on_of_nodup_map keys listed listed' (Prod.ext ?_ same)
  have here := (List.mem_filter.mp listed).2
  have here' := (List.mem_filter.mp listed').2
  simp_all

theorem OwnedBy.row (owned : store.OwnedBy workspaceId email) :
    ∃ row, store.members.get? (workspaceId,email) = some row ∧ row.role = .owner := Option.map_eq_some_iff.mp owned

theorem mem_owners {member : WorkspaceMember} (listed : member ∈ store.listMembers workspaceId) :
    member.role = .owner ↔ store.OwnedBy workspaceId member.email := by
  obtain ⟨row,found,shape⟩ := mem_listMembers.mp listed
  have role : member.role = row.role := by rw [shape]; rfl
  rw [OwnedBy,memberRole,found,Option.map_some,Option.some.injEq,role]

theorem owners_le_one {member : WorkspaceMember} (listed : member ∈ store.listMembers workspaceId) (owner : member.role = .owner) :
    ((store.listMembers workspaceId).filter (·.role = .owner)).length ≤ 1 ↔
      ∀ other, store.OwnedBy workspaceId other → other = member.email := by
  have distinct := listMembers_distinct store workspaceId
  have counted : member ∈ (store.listMembers workspaceId).filter (·.role = .owner) :=
    List.mem_filter.mpr ⟨listed,by simpa using owner⟩
  constructor
  · intro few other owned
    obtain ⟨row,found,owns⟩ := owned.row
    have there : rowToMember other row ∈ (store.listMembers workspaceId).filter (·.role = .owner) :=
      List.mem_filter.mpr ⟨mem_listMembers.mpr ⟨row,found,rfl⟩,by simp [rowToMember,owns]⟩
    have single := List.length_eq_one_iff.mp (Nat.le_antisymm few (List.length_pos_of_mem counted))
    obtain ⟨only,shape⟩ := single
    rw [shape] at counted there
    rw [List.mem_singleton.mp counted,← List.mem_singleton.mp there]
    rfl
  · intro alone
    have all : (store.listMembers workspaceId).filter (·.role = .owner) ⊆ [member] := by
      intro other kept
      obtain ⟨listed',owns⟩ := List.mem_filter.mp kept
      have same := alone other.email ((mem_owners listed').mp (by simpa using owns))
      exact List.mem_singleton.mpr (List.inj_on_of_nodup_map distinct listed' listed same)
    exact ((List.Nodup.of_map _ distinct).filter _).subperm all |>.length_le

theorem ensureOwnerRetained_iff (nextRole : Option WorkspaceRole) :
    ensureOwnerRetained (store.listMembers workspaceId) email nextRole = .ok () ↔
      (store.OwnedBy workspaceId email → nextRole = some .owner ∨ ∃ other ≠ email, store.OwnedBy workspaceId other) := by
  unfold ensureOwnerRetained
  split
  · rename_i missing
    refine iff_of_true rfl fun owned => ?_
    obtain ⟨row,found,_⟩ := owned.row
    have listed : rowToMember email row ∈ store.listMembers workspaceId := mem_listMembers.mpr ⟨row,found,rfl⟩
    have other := List.find?_eq_none.mp missing _ listed
    simp [rowToMember] at other
  · rename_i existing hit
    have listed := List.mem_of_find?_eq_some hit
    have named : existing.email = email := by simpa using List.find?_some hit
    subst named
    have owns := mem_owners listed
    split
    · rename_i lesser
      exact iff_of_true rfl fun owned => absurd (owns.mpr owned) lesser
    · rename_i owner
      have counted := owners_le_one listed (not_not.mp owner)
      have owned := owns.mp (not_not.mp owner)
      split
      · rename_i last
        refine iff_of_false (by simp) fun kept => ?_
        rcases kept owned with remains | ⟨other,different,owned'⟩
        · exact last.2 remains
        · exact different (counted.mp last.1 other owned')
      · rename_i some_left
        refine iff_of_true rfl fun _ => ?_
        by_contra gone
        push Not at gone
        exact some_left ⟨counted.mpr fun other owned' => by_contra fun different => gone.2 other different owned',gone.1⟩

end WorkspaceStore

theorem write_memberRole (call : MemberCall) (store : WorkspaceStore) (email : String) (now : Nat)
    (key : WorkspaceId × String) :
    (call.write store email now).1.memberRole key =
      if key = (call.workspaceId,normalizeEmail email) then
        match call.change with
        | .upsert _ role => some role
        | .update role => (store.memberRole key).map fun _ => role
        | .remove => none
      else store.memberRole key := by
  unfold MemberCall.write WorkspaceStore.memberRole
  cases call.change with
  | upsert displayName role =>
    simp only [WorkspaceStore.upsertMember,WorkspaceStore.touchWorkspace,IndexMap.get?_upsert]
    split
    · cases store.members.get? (call.workspaceId,normalizeEmail email) <;> rfl
    · rfl
  | update role =>
    simp only [WorkspaceStore.updateMemberRole]
    cases found : store.members.get? (call.workspaceId,normalizeEmail email) with
    | none => by_cases same : key = (call.workspaceId,normalizeEmail email) <;> simp [same,found]
    | some row =>
      simp only [WorkspaceStore.touchWorkspace,IndexMap.get?_modify,found]
      split
      · rename_i same
        simp [same,found]
      · rfl
  | remove =>
    simp only [WorkspaceStore.removeMember]
    cases found : store.members.get? (call.workspaceId,normalizeEmail email) with
    | none => by_cases same : key = (call.workspaceId,normalizeEmail email) <;> simp [same,found]
    | some row =>
      simp only [WorkspaceStore.touchWorkspace,IndexMap.get?_erase]
      split <;> rfl

-- A write leaves each workspace that had an owner with one exactly when the check
-- still passes on the rows it meets.
theorem write_owners (call : MemberCall) (store : WorkspaceStore) (email : String) (now : Nat) :
    (∀ workspaceId, store.HasOwner workspaceId → (call.write store email now).1.HasOwner workspaceId) ↔
      ensureOwnerRetained (store.listMembers call.workspaceId) (normalizeEmail email) call.change.nextRole = .ok () := by
  rw [WorkspaceStore.ensureOwnerRetained_iff]
  constructor
  · intro kept owned
    obtain ⟨someone,still⟩ := kept call.workspaceId ⟨_,owned⟩
    rw [WorkspaceStore.OwnedBy,write_memberRole] at still
    split at still
    · left
      cases change : call.change <;> simp_all [MemberChange.nextRole]
    · rename_i other
      refine .inr ⟨someone,fun same => other (by rw [same]),still⟩
  · rintro retained workspaceId ⟨someone,owned⟩
    by_cases target : (workspaceId,someone) = (call.workspaceId,normalizeEmail email)
    · obtain ⟨rfl,rfl⟩ := Prod.mk.inj target
      rcases retained owned with remains | ⟨other,different,owned'⟩
      · refine ⟨normalizeEmail email,?_⟩
        rw [WorkspaceStore.OwnedBy] at owned
        rw [WorkspaceStore.OwnedBy,write_memberRole,if_pos rfl]
        cases change : call.change <;> simp_all [MemberChange.nextRole]
      · refine ⟨other,?_⟩
        rw [WorkspaceStore.OwnedBy,write_memberRole,if_neg (by simp [different])]
        exact owned'
    · refine ⟨someone,?_⟩
      rw [WorkspaceStore.OwnedBy,write_memberRole,if_neg target]
      exact owned

namespace MemberWorld
variable {w after : MemberWorld}

-- Of all statements only the write of a call touches the members.
theorem next_owners (taken : w.next? event = some after) :
    (∀ workspaceId, w.store.HasOwner workspaceId → after.store.HasOwner workspaceId) ↔ w.Rechecked event := by
  cases event with
  | call id call =>
    simp only [next?] at taken
    split at taken
    · cases taken
      exact iff_of_true (fun _ owned => owned) trivial
    · cases taken
  | fails id message =>
    obtain ⟨⟨call,stage⟩,_,rest⟩ := Option.bind_eq_some_iff.mp taken
    dsimp only at rest
    split at rest
    · cases rest
    · cases rest
      exact iff_of_true (fun _ owned => owned) trivial
  | statement id now =>
    obtain ⟨⟨call,stage⟩,found,rest⟩ := Option.bind_eq_some_iff.mp taken
    obtain ⟨⟨store,later⟩,ran,rest⟩ := Option.bind_eq_some_iff.mp rest
    cases rest
    simp only [Rechecked,found]
    cases stage with
    | write email =>
      have written : call.write w.store email now = (store,later) := by simpa [MemberCall.statement] using ran
      simpa only [written] using write_owners call w.store email now
    | done result => simp [MemberCall.statement] at ran
    | role | settings email | members email | present email | reread email =>
      simp only [MemberCall.statement,Option.some.injEq,Prod.mk.injEq] at ran
      obtain ⟨rfl,_⟩ := ran
      exact iff_of_true (fun _ owned => owned) trivial

end MemberWorld

-- In every run in which each write would still pass its check, no workspace loses
-- its last owner, and the first step to take one away is a write that would not.
theorem owners_outlast_their_checks
    (path : Runs (fun w event after => w.next? event = some after ∧ w.Rechecked event) (MemberWorld.initial store)
      events w) :
    (∀ workspaceId, store.HasOwner workspaceId → w.store.HasOwner workspaceId) ∧
    ∀ event after, w.next? event = some after →
      ((∀ workspaceId, w.store.HasOwner workspaceId → after.store.HasOwner workspaceId) ↔ w.Rechecked event) := by
  refine ⟨?_,fun event after taken => MemberWorld.next_owners taken⟩
  refine path.preserves (P := fun w => ∀ workspaceId, store.HasOwner workspaceId → w.store.HasOwner workspaceId) ?_ ?_
  · intro before event after kept taken workspaceId owned
    exact (MemberWorld.next_owners taken.1).mpr taken.2 workspaceId (kept workspaceId owned)
  · exact fun _ owned => owned

section
open MemberEvent

def twoOwners : WorkspaceStore where
  workspaces := .ofList [("w",⟨"Lab","a@x",0,0,none,0,"",.restricted,.viewer,none⟩)]
  members := .ofList [(("w","a@x"),⟨.owner,"A",0⟩),(("w","b@x"),⟨.owner,"B",0⟩)]
  savedViews := .empty

def removal (actor target : String) : MemberCall := ⟨"w",⟨actor,actor,false⟩,target,.remove⟩

-- The second call starts when the first is done, and its principal is no owner any more.
theorem owners_outlast_checks_in_turn :
    ∃ w, Runs (fun w event after => w.next? event = some after ∧ w.Rechecked event) (MemberWorld.initial twoOwners)
        [call 0 (removal "a@x" " B@x"),statement 0 1,statement 0 2,statement 0 3,statement 0 4,
          call 1 (removal "b@x" "a@x"),statement 1 5] w ∧
      w.store.members.keys = [("w","a@x")] ∧ w.store.HasOwner "w" := by
  have reached : ∃ w, drive (guarded MemberWorld.Rechecked MemberWorld.next?) (MemberWorld.initial twoOwners)
      [call 0 (removal "a@x" " B@x"),statement 0 1,statement 0 2,statement 0 3,statement 0 4,
        call 1 (removal "b@x" "a@x"),statement 1 5] = some w ∧ w.store.members.keys = [("w","a@x")] := by
    refine ⟨_,rfl,?_⟩
    decide
  obtain ⟨w,ran,left⟩ := reached
  have path := drive_guarded ran
  exact ⟨w,path,left,(owners_outlast_their_checks path).1 "w" ⟨"a@x",by decide⟩⟩

-- Each passes the check while the other still counts as an owner.
theorem crossing_removals_leave_no_owner :
    twoOwners.HasOwner "w" ∧
    ∃ w, Runs (fun w event after => w.next? event = some after) (MemberWorld.initial twoOwners)
        [call 0 (removal "a@x" "b@x"),call 1 (removal "b@x" "a@x"),statement 0 1,statement 1 1,statement 0 2,
          statement 1 2,statement 0 3,statement 1 3,statement 0 4,statement 1 4] w ∧ ¬ w.store.HasOwner "w" := by
  refine ⟨⟨"a@x",by decide⟩,?_⟩
  have reached : ∃ w, drive MemberWorld.next? (MemberWorld.initial twoOwners)
      [call 0 (removal "a@x" "b@x"),call 1 (removal "b@x" "a@x"),statement 0 1,statement 1 1,statement 0 2,
        statement 1 2,statement 0 3,statement 1 3,statement 0 4,statement 1 4] = some w ∧
      w.store.members.entries = [] := by
    refine ⟨_,rfl,?_⟩
    decide
  obtain ⟨w,ran,empty⟩ := reached
  refine ⟨w,drive_runs (fun _ _ _ taken => taken) ran,?_⟩
  rintro ⟨email,owned⟩
  obtain ⟨row,found,_⟩ := owned.row
  have listed := IndexMap.mem_entries_iff.mpr found
  rw [empty] at listed
  cases listed

end

end Lucida.Server
