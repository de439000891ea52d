import Lucida.Server.SavedViews

namespace Lucida.Server
open Core Lib

def WorkspaceSavedView.hiddenFrom (principal : AuthPrincipal) (savedView : WorkspaceSavedView) : Bool :=
  savedView.visibility = .personal ∧ savedView.createdBy ≠ normalizeEmail principal.email

namespace WorkspaceStore

def hiddenAt (store : WorkspaceStore) (principal : AuthPrincipal) (workspaceId : WorkspaceId) (id : SavedViewId) : Bool :=
  (store.getSavedView workspaceId id).any (·.hiddenFrom principal)

section Veil
variable {store : WorkspaceStore} {workspaceId : WorkspaceId} {principal : AuthPrincipal} {id : SavedViewId}

end Veil
end WorkspaceStore

namespace WorkspaceStore
section Commute
variable {store : WorkspaceStore} {workspaceId : WorkspaceId} {principal : AuthPrincipal} {id : SavedViewId}

end Commute

section Undisturbed
variable {store after : WorkspaceStore} {workspaceId : WorkspaceId} {principal : AuthPrincipal} {id : SavedViewId}

-- What a principal's own operations leave alone: the views hidden from it and the
-- right to edit.
structure Undisturbed (principal : AuthPrincipal) (store after : WorkspaceStore) : Prop where
  hidden : ∀ workspaceId id, after.hiddenAt principal workspaceId id = store.hiddenAt principal workspaceId id
  editor : ∀ workspaceId, after.requireEditor workspaceId principal = store.requireEditor workspaceId principal

end Undisturbed

def replies (workspaceId : WorkspaceId) (principal : AuthPrincipal) :
    WorkspaceStore → List (Nat × SavedViewOp) → List (Except WorkspaceError SavedViewReply)
  | _,[] => []
  | store,(now,op)::rest =>
    let answer := store.perform workspaceId principal now op
    answer.reply::replies workspaceId principal (answer.store store) rest

section TwoRuns
variable {store store' : WorkspaceStore} {workspaceId : WorkspaceId} {principal : AuthPrincipal} {id : SavedViewId}

end TwoRuns
end WorkspaceStore

section
open SavedViewOp

end

end Lucida.Server
