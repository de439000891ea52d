import Lucida.Lib.Checked
import Lucida.Server.WorkspaceStore

namespace Lucida.Server
open Core Lib

namespace WorkspaceStore

def listSavedViews (store : WorkspaceStore) (workspaceId : WorkspaceId) (viewerEmail : String) (viewerCanEdit : Bool) :
    List (SavedViewId × WorkspaceSavedView) :=
  (store.savedViews.entries.filter fun entry => entry.2.workspaceId = workspaceId ∧
    (entry.2.visibility = .shared ∨ entry.2.createdBy = viewerEmail ∨
      viewerCanEdit ∧ entry.2.visibility = .proposed)).insertionSort fun a b => b.2.updatedAt ≤ a.2.updatedAt

def getSavedView (store : WorkspaceStore) (workspaceId : WorkspaceId) (id : SavedViewId) : Option WorkspaceSavedView :=
  (store.savedViews.get? id).filter (·.workspaceId = workspaceId)

-- Transactions that answer `None` for a workspace that is gone or archived, and
-- roll back when they hit no row.
def createSavedView (store : WorkspaceStore) (workspaceId : WorkspaceId) (id : SavedViewId) (name : String)
    (createdBy : AuthPrincipal) (view : SavedView) (visibility : SavedViewVisibility) (now : Nat) :
    Except StoreError (Option (WorkspaceStore × WorkspaceSavedView)) :=
  if store.workspaceExists workspaceId then
    if store.savedViews.contains id then .error (.backend "UNIQUE constraint failed: workspace_saved_views.id")
    else
      let row := ⟨workspaceId,name,normalizeEmail createdBy.email,createdBy.displayName,now,now,visibility,view⟩
      .ok (some ({store with savedViews := store.savedViews.insert id row}.touchWorkspace workspaceId now,row))
  else .ok none

def modifySavedView (store : WorkspaceStore) (workspaceId : WorkspaceId) (id : SavedViewId) (now : Nat)
    (change : WorkspaceSavedView → WorkspaceSavedView) : Option (WorkspaceStore × WorkspaceSavedView) :=
  if store.workspaceExists workspaceId then
    (store.getSavedView workspaceId id).map fun row =>
      ({store with savedViews := store.savedViews.modify id change}.touchWorkspace workspaceId now,change row)
  else none

def updateSavedView (store : WorkspaceStore) (workspaceId : WorkspaceId) (id : SavedViewId) (name : Option String)
    (view : Option SavedView) (now : Nat) : Option (WorkspaceStore × WorkspaceSavedView) :=
  store.modifySavedView workspaceId id now fun row =>
    {row with name := name.getD row.name, view := view.getD row.view, updatedAt := now}

def setSavedViewVisibility (store : WorkspaceStore) (workspaceId : WorkspaceId) (id : SavedViewId)
    (visibility : SavedViewVisibility) (now : Nat) : Option (WorkspaceStore × WorkspaceSavedView) :=
  store.modifySavedView workspaceId id now fun row => {row with visibility, updatedAt := now}

-- The foreign key of `default_saved_view_id` is declared `ON DELETE SET NULL`.
def deleteSavedView (store : WorkspaceStore) (workspaceId : WorkspaceId) (id : SavedViewId) (now : Nat) :
    Option WorkspaceStore :=
  if store.workspaceExists workspaceId then
    (store.getSavedView workspaceId id).map fun _ =>
      {store with
        savedViews := store.savedViews.erase id
        workspaces := store.workspaces.mapEntries fun _ row =>
          if row.defaultSavedViewId = some id then {row with defaultSavedViewId := none} else row}.touchWorkspace
            workspaceId now
  else none

def setDefaultSavedView (store : WorkspaceStore) (workspaceId : WorkspaceId) (id : Option SavedViewId) (now : Nat) :
    Option (WorkspaceStore × WorkspaceRow) :=
  (store.live? workspaceId).map fun row =>
    let row := {row with defaultSavedViewId := id, updatedAt := now}
    ({store with workspaces := store.workspaces.insert workspaceId row},row)

def requireViewer (store : WorkspaceStore) (workspaceId : WorkspaceId) (principal : AuthPrincipal) :
    Except WorkspaceError WorkspaceRole :=
  match store.roleFor workspaceId principal with
  | .error error => .error (.store error)
  | .ok none => .error .forbidden
  | .ok (some role) => .ok role

def requireEditor (store : WorkspaceStore) (workspaceId : WorkspaceId) (principal : AuthPrincipal) :
    Except WorkspaceError WorkspaceRole := do
  let role ← store.requireViewer workspaceId principal
  if role.canEdit then .ok role else .error .forbidden

end WorkspaceStore

def orNotFound : Option α → Except WorkspaceError α
  | some value => .ok value
  | none => .error .notFound

def ensureSavedViewReadable (savedView : WorkspaceSavedView) (principal : AuthPrincipal) : Except WorkspaceError Unit :=
  match savedView.visibility with
  | .shared => .ok ()
  | .personal | .proposed =>
    if savedView.createdBy = normalizeEmail principal.email then .ok () else .error .notFound

def savedViewTransitionAllowed (source target : SavedViewVisibility) : Bool :=
  source = target || (match source,target with
    | .personal,.shared | .shared,.personal | .personal,.proposed | .proposed,.personal => true
    | _,_ => false)

def maxSavedViewNameChars : Nat := 200

def normalizeSavedViewName (raw : String) : Except WorkspaceError String :=
  let trimmed := trim raw
  if trimmed.isEmpty then .error (.badRequest "saved view name is empty")
  else if trimmed.length > maxSavedViewNameChars then
    .error (.badRequest ("saved view name exceeds " ++ toString maxSavedViewNameChars ++ " characters"))
  else .ok trimmed

namespace WorkspaceStore

def ensureSavedViewMutable (store : WorkspaceStore) (workspaceId : WorkspaceId) (principal : AuthPrincipal)
    (id : SavedViewId) : Except WorkspaceError WorkspaceSavedView := do
  let _ ← store.requireViewer workspaceId principal
  let savedView ← orNotFound (store.getSavedView workspaceId id)
  ensureSavedViewReadable savedView principal
  if savedView.visibility = .shared then
    let _ ← store.requireEditor workspaceId principal
  .ok savedView

def ensureSavedViewRescopable (store : WorkspaceStore) (workspaceId : WorkspaceId) (principal : AuthPrincipal)
    (id : SavedViewId) (target : SavedViewVisibility) : Except WorkspaceError WorkspaceSavedView := do
  let _ ← store.requireViewer workspaceId principal
  let savedView ← orNotFound (store.getSavedView workspaceId id)
  ensureSavedViewReadable savedView principal
  if savedView.createdBy ≠ normalizeEmail principal.email then .error .forbidden
  else if !savedViewTransitionAllowed savedView.visibility target then
    .error (.badRequest ("cannot change saved view visibility from " ++ savedView.visibility.asStr ++ " to " ++
      target.asStr))
  else
    if target = .shared then
      let _ ← store.requireEditor workspaceId principal
    .ok savedView

def ensureProposalReviewable (store : WorkspaceStore) (workspaceId : WorkspaceId) (principal : AuthPrincipal)
    (id : SavedViewId) : Except WorkspaceError WorkspaceSavedView := do
  let _ ← store.requireEditor workspaceId principal
  let savedView ← orNotFound (store.getSavedView workspaceId id)
  if savedView.visibility = .personal ∧ savedView.createdBy ≠ normalizeEmail principal.email then .error .notFound
  else if savedView.visibility ≠ .proposed then .error (.badRequest "saved view is not a pending proposal")
  else .ok savedView

end WorkspaceStore

inductive SavedViewReply where
  | views (listed : List (SavedViewId × WorkspaceSavedView))
  | view (id : SavedViewId) (savedView : WorkspaceSavedView)
  | deleted
  | workspace (row : WorkspaceRow) (role : WorkspaceRole)
  deriving DecidableEq, Repr

inductive SavedViewOp where
  | list
  | get (id : SavedViewId)
  | update (id : SavedViewId) (name : Option String) (view : Option SavedView)
  | setVisibility (id : SavedViewId) (visibility : SavedViewVisibility)
  | delete (id : SavedViewId)
  | setDefault (id : Option SavedViewId)
  deriving DecidableEq, Repr

-- An answer, with the store it leaves; a refusal leaves the store as it was.
abbrev Answer := Except WorkspaceError (WorkspaceStore × SavedViewReply)

namespace WorkspaceStore
variable (store : WorkspaceStore) (workspaceId : WorkspaceId) (principal : AuthPrincipal)

def answerView (id : SavedViewId) (written : Option (WorkspaceStore × WorkspaceSavedView)) : Answer := do
  let (after,savedView) ← orNotFound written
  .ok (after,.view id savedView)

namespace Manager

def listSavedViews : Answer := do
  let role ← store.requireViewer workspaceId principal
  .ok (store,.views (store.listSavedViews workspaceId (normalizeEmail principal.email) role.canEdit))

def getSavedView (id : SavedViewId) : Answer := do
  let role ← store.requireViewer workspaceId principal
  let savedView ← orNotFound (store.getSavedView workspaceId id)
  match ensureSavedViewReadable savedView principal with
  | .ok () => .ok (store,.view id savedView)
  | .error error =>
    if savedView.visibility = .proposed ∧ role.canEdit then .ok (store,.view id savedView) else .error error

-- Only sharing a view at once takes an editor.
def requireCreator : SavedViewVisibility → Except WorkspaceError WorkspaceRole
  | .personal | .proposed => store.requireViewer workspaceId principal
  | .shared => store.requireEditor workspaceId principal

def createSavedView (id : SavedViewId) (name : String) (view : SavedView) (visibility : SavedViewVisibility)
    (now : Nat) : Answer := do
  let _ ← requireCreator store workspaceId principal visibility
  let name ← normalizeSavedViewName name
  match store.createSavedView workspaceId id name principal view.clearSourceUrls visibility now with
  | .error error => .error (.store error)
  | .ok written => answerView id written

def patchName : Option String → Except WorkspaceError (Option String)
  | none => .ok none
  | some name => (normalizeSavedViewName name).map some

def updateSavedView (id : SavedViewId) (name : Option String) (view : Option SavedView) (now : Nat) : Answer := do
  let _ ← store.ensureSavedViewMutable workspaceId principal id
  if name.isNone ∧ view.isNone then .error (.badRequest "saved view patch is empty")
  else
    let name ← patchName name
    answerView id (store.updateSavedView workspaceId id name (view.map SavedView.clearSourceUrls) now)

def deleteSavedView (id : SavedViewId) (now : Nat) : Answer := do
  let _ ← store.ensureSavedViewMutable workspaceId principal id
  let after ← orNotFound (store.deleteSavedView workspaceId id now)
  .ok (after,.deleted)

def setSavedViewVisibility (id : SavedViewId) (visibility : SavedViewVisibility) (now : Nat) : Answer := do
  let _ ← store.ensureSavedViewRescopable workspaceId principal id visibility
  answerView id (store.setSavedViewVisibility workspaceId id visibility now)

def approveSavedView (id : SavedViewId) (now : Nat) : Answer := do
  let savedView ← store.ensureProposalReviewable workspaceId principal id
  if savedView.createdBy = normalizeEmail principal.email then .error .forbidden
  else answerView id (store.setSavedViewVisibility workspaceId id .shared now)

def rejectSavedView (id : SavedViewId) (now : Nat) : Answer := do
  let _ ← store.ensureProposalReviewable workspaceId principal id
  answerView id (store.setSavedViewVisibility workspaceId id .personal now)

-- What `set_default_saved_view` asks of the view it is given.
def checkDefault : Option SavedViewId → Except WorkspaceError Unit
  | none => .ok ()
  | some id => do
    let savedView ← orNotFound (store.getSavedView workspaceId id)
    if savedView.visibility ≠ .shared then
      .error (.badRequest "a personal saved view cannot be the workspace default")
    else .ok ()

def setDefaultSavedView (id : Option SavedViewId) (now : Nat) : Answer := do
  let role ← store.requireEditor workspaceId principal
  checkDefault store workspaceId id
  let (after,row) ← orNotFound (store.setDefaultSavedView workspaceId id now)
  .ok (after,.workspace row role)

end Manager

def perform (now : Nat) : SavedViewOp → Answer
  | .list => Manager.listSavedViews store workspaceId principal
  | .get id => Manager.getSavedView store workspaceId principal id
  | .update id name view => Manager.updateSavedView store workspaceId principal id name view now
  | .setVisibility id visibility => Manager.setSavedViewVisibility store workspaceId principal id visibility now
  | .delete id => Manager.deleteSavedView store workspaceId principal id now
  | .setDefault id => Manager.setDefaultSavedView store workspaceId principal id now

end WorkspaceStore

section Inversion
variable {store after : WorkspaceStore} {workspaceId : WorkspaceId} {principal : AuthPrincipal} {id : SavedViewId}

theorem orNotFound_ok {found : Option α} (done : orNotFound found = .ok value) : found = some value := by
  cases found with
  | none => cases done
  | some other => cases done; rfl

theorem answerView_ok (done : WorkspaceStore.answerView id written = .ok (after,reply)) :
    ∃ savedView, written = some (after,savedView) := by
  obtain ⟨⟨_,savedView⟩,found,rest⟩ := bind_ok done
  cases rest
  exact ⟨savedView,orNotFound_ok found⟩

theorem ensureSavedViewMutable_ok (passed : store.ensureSavedViewMutable workspaceId principal id = .ok savedView) :
    store.getSavedView workspaceId id = some savedView ∧ ensureSavedViewReadable savedView principal = .ok () := by
  obtain ⟨_,_,rest⟩ := bind_ok passed
  obtain ⟨found,stored,rest⟩ := bind_ok rest
  obtain ⟨⟨⟩,readable,rest⟩ := bind_ok rest
  have same : found = savedView := by
    dsimp only at rest
    split at rest
    · obtain ⟨_,_,rest⟩ := bind_ok rest
      exact Except.ok.inj rest
    · exact Except.ok.inj rest
  exact ⟨same ▸ orNotFound_ok stored,same ▸ readable⟩

theorem ensureSavedViewRescopable_ok
    (passed : store.ensureSavedViewRescopable workspaceId principal id target = .ok savedView) :
    store.getSavedView workspaceId id = some savedView ∧ savedView.createdBy = normalizeEmail principal.email ∧
      savedViewTransitionAllowed savedView.visibility target := by
  obtain ⟨_,_,rest⟩ := bind_ok passed
  obtain ⟨found,stored,rest⟩ := bind_ok rest
  obtain ⟨⟨⟩,_,rest⟩ := bind_ok rest
  split at rest
  · cases rest
  · rename_i own
    split at rest
    · cases rest
    · rename_i allowed
      have same : found = savedView := by
        dsimp only at rest
        split at rest
        · obtain ⟨_,_,rest⟩ := bind_ok rest
          exact Except.ok.inj rest
        · exact Except.ok.inj rest
      subst same
      exact ⟨orNotFound_ok stored,not_not.mp own,by simpa using allowed⟩

theorem ensureProposalReviewable_ok
    (passed : store.ensureProposalReviewable workspaceId principal id = .ok savedView) :
    store.getSavedView workspaceId id = some savedView ∧ savedView.visibility = .proposed := by
  obtain ⟨_,_,rest⟩ := bind_ok passed
  obtain ⟨found,stored,rest⟩ := bind_ok rest
  split at rest
  · cases rest
  · split at rest
    · cases rest
    · rename_i proposed
      cases rest
      exact ⟨orNotFound_ok stored,not_not.mp proposed⟩

theorem getSavedView_some (found : store.getSavedView workspaceId id = some savedView) :
    store.savedViews.get? id = some savedView ∧ savedView.workspaceId = workspaceId := by
  obtain ⟨stored,home⟩ := Option.filter_eq_some_iff.mp found
  exact ⟨stored,by simpa using home⟩

end Inversion

def Answer.store (answer : Answer) (before : WorkspaceStore) : WorkspaceStore :=
  match answer with
  | .ok (after,_) => after
  | .error _ => before

def Answer.reply (answer : Answer) : Except WorkspaceError SavedViewReply := answer.map Prod.snd

end Lucida.Server
