import Lucida.Session.Presence

namespace Lucida.Session.Presence
open Lib

-- The calls of `Session` that write a follow target. `order` is that of the table's iteration.
inductive FollowCall where
  | addClient (client : ClientId)
  | removeClient (client : ClientId) (order : List ClientId)
  | setFollow (client : ClientId) (target : Option ClientId) (order : List ClientId)
  deriving DecidableEq, Repr

namespace Peers
variable {peers after : Peers} {client other target : ClientId} {wanted : Option ClientId} {order : List ClientId}
  {told : List Notice}

-- The clients after a call, and what its returned list lets a handler announce.
def serve (peers : Peers) : FollowCall → Option (Peers × List Notice)
  | .addClient client => some (peers.addClient client,[])
  | .removeClient client order => peers.removeClient client order
  | .setFollow client target order => peers.setFollow client target order

def Serves (peers : Peers) (call : FollowCall) (after : Peers) : Prop := ∃ told, peers.serve call = some (after,told)

def Forest (peers : Peers) : Prop :=
  ∀ client target, peers.get? client = some (some target) → target ≠ client ∧ peers.get? target = some none

def Retargeted (peers after : Peers) (client : ClientId) (new : Option ClientId) : Prop :=
  ∃ old, peers.get? client = some old ∧ after.get? client = some new ∧ old ≠ new

theorem forest_empty : Forest .empty := by
  intro client target follows
  cases follows

theorem removeClient_get? (removed : peers.removeClient client order = some (after,told)) (other : ClientId) :
    after.get? other = if other = client then none
      else (peers.get? other).map fun following => if following = some client then none else following := by
  simp only [removeClient] at removed
  split at removed
  · rename_i perm
    cases removed
    rw [get?_redirect,IndexMap.get?_erase]
    by_cases gone : other = client
    · rw [if_pos gone,if_pos gone]
      rfl
    · rw [if_neg gone,if_neg gone]
      cases found : peers.get? other with
      | none => rfl
      | some following =>
        have listed : other ∈ order ↔ following = some client := by
          rw [perm.mem_iff,mem_followers,IndexMap.get?_erase,if_neg gone,found,Option.some.injEq]
        simp only [Option.map_some,listed]
  · cases removed

theorem removeClient_told (removed : peers.removeClient client order = some (after,told)) :
    ∀ notice ∈ told, ∃ follower, notice = .followChanged follower none ∧ peers.get? follower = some (some client) := by
  simp only [removeClient] at removed
  split at removed
  · rename_i perm
    cases removed
    intro notice listed
    obtain ⟨follower,here,rfl⟩ := List.mem_map.mp listed
    have found := mem_followers.mp (perm.mem_iff.mp here)
    rw [IndexMap.get?_erase] at found
    split at found
    · cases found
    · exact ⟨follower,rfl,found⟩
  · cases removed

-- What `set_follow` does to a table: nothing, or it writes the client's target and takes along whoever
-- followed the client.
inductive Followed (peers : Peers) (client : ClientId) (after : Peers) (told : List Notice) : Option ClientId → Prop where
  | refused {asked : Option ClientId} : after = peers → told = [] → Followed peers client after told asked
  | stopped : (∀ other, after.get? other = (peers.get? other).map fun following => if other = client then none else following) →
      (∀ notice ∈ told, notice = .followChanged client none) → Followed peers client after told none
  | following {leader : ClientId} : leader ≠ client → peers.get? leader = some none →
      (∀ other, after.get? other = (peers.get? other).map fun following =>
        if other = client ∨ following = some client then some leader else following) →
      (∀ notice ∈ told, ∃ other, notice = .followChanged other (some leader) ∧
        (other = client ∨ peers.get? other = some (some client))) → Followed peers client after told (some leader)

theorem told_own {notice : Notice} {changed : Option ClientId}
    (listed : notice ∈ if peers.contains client then [Notice.followChanged client changed] else []) :
    notice = .followChanged client changed := by
  split at listed
  · exact List.mem_singleton.mp listed
  · cases listed

theorem setFollow_followed (set : peers.setFollow client wanted order = some (after,told)) : Followed peers client after told wanted := by
  unfold setFollow at set
  split at set
  · cases set
    exact .refused rfl rfl
  · rename_i accepted
    dsimp only at set
    split at set
    · cases set
      refine .stopped (fun other => ?_) fun notice listed => told_own listed
      rw [IndexMap.get?_modify_eq_map]
    · rename_i target
      have apart : target ≠ client ∧ peers.get? target = some none := by simpa [refuses] using accepted
      split at set
      · rename_i perm
        cases set
        have listed (other : ClientId) : other ∈ order ↔ other ≠ client ∧ peers.get? other = some (some client) := by
          rw [perm.mem_iff,List.mem_filter,mem_followers,IndexMap.get?_modify_eq_map]
          by_cases own : other = client
          · simp [own]
          · simp [own]
        refine .following apart.1 apart.2 (fun other => ?_) fun notice heard => ?_
        · rw [get?_redirect,IndexMap.get?_modify_eq_map,Option.map_map]
          cases found : peers.get? other with
          | none => rfl
          | some following =>
            by_cases own : other = client
            · simp [own]
            · simp [listed,found,own]
        · rcases List.mem_append.mp heard with own | taken
          · exact ⟨client,told_own own,.inl rfl⟩
          · obtain ⟨follower,here,rfl⟩ := List.mem_map.mp taken
            exact ⟨follower,rfl,.inr ((listed follower).mp here).2⟩
      · cases set

theorem addClient_get? (peers : Peers) (client other : ClientId) :
    (peers.addClient client).get? other = if other = client then some none else peers.get? other := IndexMap.get?_insert ..

theorem Forest.added (forest : peers.Forest) (client : ClientId) : (peers.addClient client).Forest := by
  intro other target follows
  rw [addClient_get?] at follows ⊢
  split at follows
  · cases follows
  · obtain ⟨apart,free⟩ := forest other target follows
    refine ⟨apart,?_⟩
    split
    · rfl
    · exact free

theorem Forest.removed (forest : peers.Forest) (removed : peers.removeClient client order = some (after,told)) : after.Forest := by
  intro other target follows
  have get := removeClient_get? removed
  rw [get] at follows
  split at follows
  · cases follows
  · obtain ⟨following,found,kept⟩ := Option.map_eq_some_iff.mp follows
    split at kept
    · cases kept
    · rename_i elsewhere
      subst kept
      obtain ⟨apart,free⟩ := forest other target found
      have stays : target ≠ client := fun same => elsewhere (congrArg some same)
      exact ⟨apart,by rw [get,if_neg stays,free]; rfl⟩

theorem Forest.followed (forest : peers.Forest) (step : Followed peers client after told wanted) : after.Forest := by
  intro other leader follows
  cases step with
  | refused same _ =>
    subst same
    exact forest other leader follows
  | stopped get _ =>
    rw [get] at follows
    obtain ⟨following,found,kept⟩ := Option.map_eq_some_iff.mp follows
    split at kept
    · cases kept
    · subst kept
      obtain ⟨apart,free⟩ := forest other leader found
      exact ⟨apart,by rw [get,free]; simp⟩
  | @following target apart free get _ =>
    have leads : after.get? target = some none := by
      rw [get,free]
      simp [apart]
    rw [get] at follows
    obtain ⟨following,found,kept⟩ := Option.map_eq_some_iff.mp follows
    split at kept
    · rename_i taken
      cases kept
      refine ⟨fun same => ?_,leads⟩
      -- The new target follows nobody, so it is not one of those taken along.
      subst same
      rcases taken with own | led
      · exact apart own
      · rw [free] at found
        cases found
        cases led
    · rename_i left
      subst kept
      obtain ⟨distinct,unled⟩ := forest other leader found
      refine ⟨distinct,?_⟩
      have stays : leader ≠ client := fun same => left (.inr (congrArg some same))
      rw [get,unled]
      simp [stays]

theorem Forest.served (forest : peers.Forest) (served : peers.serve call = some (after,told)) : after.Forest := by
  cases call with
  | addClient client =>
    cases served
    exact forest.added client
  | removeClient client order => exact forest.removed served
  | setFollow client wanted order => exact forest.followed (setFollow_followed served)

theorem run_forest (path : Runs Serves .empty calls peers) : peers.Forest := by
  refine path.preserves (fun before call after forest taken => ?_) forest_empty
  obtain ⟨told,served⟩ := taken
  exact forest.served served

theorem Accounts.heard (accounts : peers.Accounts told after) (never : ∀ joined, .peerJoined joined ∉ told)
    (changed : Retargeted peers after client new) : .followChanged client new ∈ told := by
  obtain ⟨old,before,now,differs⟩ := changed
  rw [accounts.told,before] at now
  by_cases quiet : ∀ notice ∈ told, notice.subject ≠ client
  · rw [replay_quiet quiet] at now
    cases now
    exact absurd rfl differs
  · simp only [not_forall,not_not] at quiet
    obtain ⟨notice,listed,rfl⟩ := quiet
    rw [replay_single accounts.once listed] at now
    cases notice with
    | peerJoined joined => exact absurd listed (never joined)
    | peerLeft left => simp [Notice.at,Notice.subject] at now
    | followChanged other new' =>
      simp only [Notice.at,Notice.subject,if_true,Option.map_some,Option.some.injEq] at now
      exact now ▸ listed

theorem Accounts.current (accounts : peers.Accounts told after) (listed : .followChanged client new ∈ told) : after.get? client = some new := by
  have single : replay client (peers.get? client) told = (Notice.followChanged client new).at client (peers.get? client) :=
    replay_single accounts.once listed
  obtain ⟨old,found⟩ := Option.ne_none_iff_exists'.mp (accounts.present client new listed)
  rw [accounts.told,single,found]
  simp [Notice.at]

-- The list of a call holds each changed client once and with its new target, and beside these at most the
-- client whose own target `set_follow` wrote. A client that joins again starts over.
theorem follows_form_a_forest (path : Runs Serves .empty calls peers) (served : peers.serve call = some (after,told)) :
    peers.Forest ∧ after.Forest ∧ (told.map Notice.subject).Nodup ∧
      (∀ client new, Retargeted peers after client new →
        .followChanged client new ∈ told ∨ call = .addClient client ∧ new = none) ∧
      ∀ notice ∈ told, ∃ client new, notice = .followChanged client new ∧ after.get? client = some new ∧
        (Retargeted peers after client new ∨ ∃ order, call = .setFollow client new order) := by
  have forest := run_forest path
  refine ⟨forest,forest.served served,?_⟩
  cases call with
  | addClient joined =>
    cases served
    refine ⟨List.nodup_nil,?_,by simp⟩
    rintro client new ⟨old,before,now,differs⟩
    rw [addClient_get?] at now
    split at now
    · rename_i same
      cases now
      exact .inr ⟨by rw [same],rfl⟩
    · exact absurd (Option.some.inj (before.symm.trans now)) differs
  | removeClient removed order =>
    have accounts := accounts_removeClient served
    have never : ∀ joined, Notice.peerJoined joined ∉ Notice.peerLeft removed::told := by
      intro joined listed
      rcases List.mem_cons.mp listed with other | later
      · cases other
      · obtain ⟨_,other,_⟩ := removeClient_told served _ later
        cases other
    refine ⟨(List.nodup_cons.mp accounts.once).2,?_,?_⟩
    · intro client new changed
      rcases List.mem_cons.mp (accounts.heard never changed) with other | listed
      · cases other
      · exact .inl listed
    · intro notice listed
      obtain ⟨client,rfl,followed⟩ := removeClient_told served notice listed
      have now := accounts.current (List.mem_cons_of_mem _ listed)
      exact ⟨client,none,rfl,now,.inl ⟨_,followed,now,Option.some_ne_none removed⟩⟩
  | setFollow client wanted order =>
    have accounts := accounts_setFollow served
    have never : ∀ joined, Notice.peerJoined joined ∉ told := by
      intro joined listed
      obtain ⟨_,_,other⟩ := setFollow_notices served _ listed
      cases other
    refine ⟨accounts.once,fun other new changed => .inl (accounts.heard never changed),?_⟩
    intro notice listed
    cases setFollow_followed served with
    | refused _ silent =>
      rw [silent] at listed
      cases listed
    | stopped _ own =>
      cases own notice listed
      exact ⟨client,none,rfl,accounts.current listed,.inr ⟨order,rfl⟩⟩
    | @following target apart _ _ each =>
      obtain ⟨other,rfl,own | taken⟩ := each notice listed
      · subst own
        exact ⟨other,some target,rfl,accounts.current listed,.inr ⟨order,rfl⟩⟩
      · have now := accounts.current listed
        exact ⟨other,some target,rfl,now,.inl ⟨_,taken,now,fun same => apart (Option.some.inj same).symm⟩⟩

-- Two follow a third, which then follows a fourth.
theorem followers_are_taken_along :
    ∃ peers after told, Runs Serves .empty
        [.addClient 1,.addClient 2,.addClient 3,.addClient 4,.setFollow 1 (some 3) [],.setFollow 2 (some 3) []] peers ∧
      peers.serve (.setFollow 3 (some 4) [1,2]) = some (after,told) ∧
      told = [.followChanged 3 (some 4),.followChanged 1 (some 4),.followChanged 2 (some 4)] ∧ after.Forest := by
  have path : ∃ peers after told, Runs Serves .empty
      [.addClient 1,.addClient 2,.addClient 3,.addClient 4,.setFollow 1 (some 3) [],.setFollow 2 (some 3) []] peers ∧
      peers.serve (.setFollow 3 (some 4) [1,2]) = some (after,told) ∧
      told = [.followChanged 3 (some 4),.followChanged 1 (some 4),.followChanged 2 (some 4)] :=
    ⟨_,_,_,.cons ⟨_,rfl⟩ (.cons ⟨_,rfl⟩ (.cons ⟨_,rfl⟩ (.cons ⟨_,rfl⟩ (.cons ⟨_,rfl⟩ (.one ⟨_,rfl⟩))))),rfl,rfl⟩
  obtain ⟨peers,after,told,path,served,heard⟩ := path
  exact ⟨peers,after,told,path,served,heard,(follows_form_a_forest path served).2.1⟩

theorem stopping_twice_is_listed :
    ¬∀ calls peers call after told, Runs Serves .empty calls peers → peers.serve call = some (after,told) →
      ∀ client new, Retargeted peers after client new ↔ .followChanged client new ∈ told := by
  intro claimed
  have path : ∃ peers after, Runs Serves .empty [.addClient 1] peers ∧
      peers.serve (.setFollow 1 none []) = some (after,[.followChanged 1 none]) ∧ after.get? 1 = peers.get? 1 :=
    ⟨_,_,.one ⟨_,rfl⟩,rfl,rfl⟩
  obtain ⟨peers,after,path,served,same⟩ := path
  obtain ⟨old,before,now,differs⟩ := (claimed _ _ _ _ _ path served 1 none).mpr (by simp)
  rw [same,before] at now
  exact differs (Option.some.inj now)

end Peers
end Lucida.Session.Presence
