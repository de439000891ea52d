import Mathlib.Data.List.Sort
import Lucida.Lib.IndexMap
import Lucida.Lib.Text
import Lucida.Core.Document

namespace Lucida.Server
open Core Lib

abbrev WorkspaceId := String
abbrev SavedViewId := String

inductive WorkspaceRole where
  | viewer
  | editor
  | owner
  deriving DecidableEq, Repr

namespace WorkspaceRole

def canEdit : WorkspaceRole → Bool
  | .editor | .owner => true
  | .viewer => false

def canOwn : WorkspaceRole → Bool
  | .owner => true
  | _ => false

-- The order in which `LIST_MEMBERS` sorts.
def rank : WorkspaceRole → Nat
  | .owner => 0
  | .editor => 1
  | .viewer => 2

end WorkspaceRole

inductive WorkspaceLinkAccess where
  | restricted
  | anyoneWithLink
  deriving DecidableEq, Repr

structure AuthPrincipal where
  email : String
  displayName : String
  isAdmin : Bool
  deriving DecidableEq, Repr

inductive StoreError where
  | backend (message : String)
  | invalidRole (message : String)
  deriving DecidableEq, Repr

inductive WorkspaceError where
  | notFound
  | archived
  | forbidden
  | badRequest (detail : String)
  | store (error : StoreError)
  deriving DecidableEq, Repr

inductive SavedViewVisibility where
  | personal
  | proposed
  | shared
  deriving DecidableEq, Repr

def SavedViewVisibility.asStr : SavedViewVisibility → String
  | .personal => "personal"
  | .proposed => "proposed"
  | .shared => "shared"

-- The columns of a workspace, the document as the text it is stored as.
structure WorkspaceRow where
  name : String
  createdBy : String
  createdAt : Nat
  updatedAt : Nat
  archivedAt : Option Nat
  seq : Nat
  documentJson : String
  linkAccess : WorkspaceLinkAccess
  linkRole : WorkspaceRole
  defaultSavedViewId : Option SavedViewId
  deriving DecidableEq, Repr

structure WorkspaceMember where
  email : String
  role : WorkspaceRole
  displayName : String
  addedAt : Nat
  deriving DecidableEq, Repr

structure MemberRow where
  role : WorkspaceRole
  displayName : String
  addedAt : Nat
  deriving DecidableEq, Repr

structure WorkspaceSavedView where
  workspaceId : WorkspaceId
  name : String
  createdBy : String
  createdByName : String
  createdAt : Nat
  updatedAt : Nat
  visibility : SavedViewVisibility
  view : SavedView
  deriving DecidableEq, Repr

structure WorkspaceStore where
  workspaces : IndexMap WorkspaceId WorkspaceRow
  members : IndexMap (WorkspaceId × String) MemberRow
  savedViews : IndexMap SavedViewId WorkspaceSavedView

def normalizeEmail (email : String) : String := toAsciiLowercase (trim email)

def defaultMemberDisplayName (email displayName : String) : String :=
  let trimmed := trim displayName
  if trimmed.isEmpty then email else String.ofList (trimmed.toList.take 200)

namespace WorkspaceStore

-- `WORKSPACE_EXISTS`: the row of a workspace that is not archived.
def live? (store : WorkspaceStore) (workspaceId : WorkspaceId) : Option WorkspaceRow :=
  (store.workspaces.get? workspaceId).filter (·.archivedAt.isNone)

def workspaceExists (store : WorkspaceStore) (workspaceId : WorkspaceId) : Bool := (store.live? workspaceId).isSome

def touchWorkspace (store : WorkspaceStore) (workspaceId : WorkspaceId) (now : Nat) : WorkspaceStore :=
  {store with workspaces := store.workspaces.modify workspaceId ({· with updatedAt := now})}

-- `role_for`: one statement, whichever it is.
def roleFor (store : WorkspaceStore) (workspaceId : WorkspaceId) (principal : AuthPrincipal) :
    Except StoreError (Option WorkspaceRole) :=
  match store.live? workspaceId with
  | none => .ok none
  | some row =>
    if principal.isAdmin then .ok (some .owner)
    else match store.members.get? (workspaceId,normalizeEmail principal.email) with
      | some member => .ok (some member.role)
      | none =>
        if row.linkAccess = .anyoneWithLink then
          if row.linkRole.canOwn then .error (.invalidRole "link role cannot grant owner")
          else .ok (some row.linkRole)
        else .ok none

def rowToMember (email : String) (row : MemberRow) : WorkspaceMember := ⟨email,row.role,row.displayName,row.addedAt⟩

def member (store : WorkspaceStore) (workspaceId : WorkspaceId) (email : String) : Option WorkspaceMember :=
  (store.members.get? (workspaceId,email)).map (rowToMember email)

def listMembers (store : WorkspaceStore) (workspaceId : WorkspaceId) : List WorkspaceMember :=
  ((store.members.entries.filter (·.1.1 = workspaceId)).map fun entry => rowToMember entry.1.2 entry.2).insertionSort
    fun a b => a.role.rank < b.role.rank ∨ a.role.rank = b.role.rank ∧ a.email ≤ b.email

-- The transaction around `UPSERT_MEMBER`.
def upsertMember (store : WorkspaceStore) (workspaceId : WorkspaceId) (email displayName : String)
    (role : WorkspaceRole) (now : Nat) : WorkspaceStore :=
  let row : Option MemberRow → MemberRow
    | some existing => {existing with role, displayName := defaultMemberDisplayName email displayName}
    | none => ⟨role,defaultMemberDisplayName email displayName,now⟩
  {store with members := store.members.upsert (workspaceId,email) row}.touchWorkspace workspaceId now

-- The transaction around `UPDATE_MEMBER_ROLE`, rolled back when it hits no row.
def updateMemberRole (store : WorkspaceStore) (workspaceId : WorkspaceId) (email : String) (role : WorkspaceRole)
    (now : Nat) : WorkspaceStore × Bool :=
  match store.members.get? (workspaceId,email) with
  | none => (store,false)
  | some _ =>
    ({store with members := store.members.modify (workspaceId,email) ({· with role})}.touchWorkspace workspaceId now,true)

def removeMember (store : WorkspaceStore) (workspaceId : WorkspaceId) (email : String) (now : Nat) :
    WorkspaceStore × Bool :=
  match store.members.get? (workspaceId,email) with
  | none => (store,false)
  | some _ => ({store with members := store.members.erase (workspaceId,email)}.touchWorkspace workspaceId now,true)

end WorkspaceStore

def normalizeRequestEmail (email : String) : Except WorkspaceError String :=
  let normalized := normalizeEmail email
  if normalized.isEmpty ∨ '@' ∉ normalized.toList then .error (.badRequest "member email is invalid")
  else .ok normalized

def ensureOwnerRetained (members : List WorkspaceMember) (targetEmail : String) (nextRole : Option WorkspaceRole) :
    Except WorkspaceError Unit :=
  match members.find? (·.email = targetEmail) with
  | none => .ok ()
  | some existing =>
    if existing.role ≠ .owner then .ok ()
    else if (members.filter (·.role = .owner)).length ≤ 1 ∧ nextRole ≠ some .owner then
      .error (.badRequest "workspace must retain at least one owner")
    else .ok ()

end Lucida.Server
