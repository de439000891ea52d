import Mathlib.Data.Finset.Basic
import Mathlib.Data.List.Infix
import Lucida.Lib.IndexMap
import Lucida.Lib.Runs

namespace Lucida.Session.Presence
open Lib

abbrev ClientId := Nat

-- `Session::clients` or a client's peers, each with the target it follows.
abbrev Peers := IndexMap ClientId (Option ClientId)

inductive Notice where
  | peerJoined (client : ClientId)
  | peerLeft (client : ClientId)
  | followChanged (client : ClientId) (target : Option ClientId)
  deriving DecidableEq, Repr

def Notice.subject : Notice → ClientId
  | .peerJoined client | .peerLeft client | .followChanged client _ => client

namespace Peers

def followers (peers : Peers) (client : ClientId) : List ClientId :=
  (peers.entries.filter (·.2 = some client)).map Prod.fst

def redirect (peers : Peers) (order : List ClientId) (target : Option ClientId) : Peers :=
  order.foldl (fun peers follower => peers.modify follower fun _ => target) peers

def announce (order : List ClientId) (target : Option ClientId) : List Notice :=
  order.map fun follower => .followChanged follower target

def addClient (peers : Peers) (client : ClientId) : Peers := peers.insert client none

-- `remove_client`. The table is a `HashMap`: `order` is the one it iterates in.
def removeClient (peers : Peers) (client : ClientId) (order : List ClientId) : Option (Peers × List Notice) :=
  let rest : Peers := peers.erase client
  if order.Perm (rest.followers client) then some (rest.redirect order none,announce order none) else none

-- The validations at the head of `set_follow`.
def refuses (peers : Peers) (client : ClientId) : Option ClientId → Bool
  | none => false
  | some target => target = client ∨ peers.get? target ≠ some none

def setFollow (peers : Peers) (client : ClientId) (target : Option ClientId) (order : List ClientId) :
    Option (Peers × List Notice) :=
  if peers.refuses client target then some (peers,[])
  else
    let changed : Peers := peers.modify client fun _ => target
    let changes := if peers.contains client then [.followChanged client target] else []
    match target with
    | none => some (changed,changes)
    | some newTarget =>
      if order.Perm ((changed.followers client).filter (· ≠ client)) then
        some (changed.redirect order (some newTarget),changes ++ announce order (some newTarget))
      else none

-- The handlers of the web client. The outbound loop skips a client's own `PeerJoined`.
def receive (peers : Peers) (own : ClientId) : Notice → Peers
  | .peerJoined client => if client = own then peers else peers.insert client none
  | .peerLeft client => peers.erase client
  | .followChanged client target => peers.modify client fun _ => target

end Peers

-- A connected client: its peers so far, and the broadcasts it has not taken yet.
structure Seat where
  peers : Peers
  inbox : List Notice
  deriving DecidableEq

-- `unsent` holds what handlers will broadcast, each under the client it serves and all
-- in the order of the sections under the session lock that made them. Until its
-- `PeerJoined` is sent a client is waiting for its snapshot.
structure World where
  clients : Peers
  taken : Finset ClientId
  unsent : List (ClientId × Notice)
  seats : IndexMap ClientId Seat

inductive Event where
  | join (client : ClientId)
  | refuse (client : ClientId) (order : List ClientId)
  | send (handler : ClientId)
  | receive (client : ClientId)
  | follow (client : ClientId) (target : Option ClientId) (order : List ClientId)
  | steer (client subject : ClientId) (order : List ClientId)
  | leave (client : ClientId) (order : List ClientId)

namespace World

def initial : World := ⟨.empty,∅,[],.empty⟩

-- A handler reads its socket when it has nothing left to send.
def Reading (w : World) (client : ClientId) : Prop := w.seats.contains client ∧ ∀ held ∈ w.unsent, held.1 ≠ client

instance (w : World) (client : ClientId) : Decidable (w.Reading client) := by
  unfold Reading
  infer_instance

def commit (w : World) (handler : ClientId) (clients : Peers) (notices : List Notice) : World :=
  {w with clients, unsent := w.unsent ++ notices.map fun notice => (handler,notice)}

def next? (w : World) : Event → Option World
  | .join client =>
    if client ∈ w.taken then none
    else
      let clients := w.clients.addClient client
      some {w.commit client clients [.peerJoined client] with
        taken := insert client w.taken, seats := w.seats.insert client ⟨clients.erase client,[]⟩}
  -- the send of the snapshot failed
  | .refuse client order =>
    if (client,.peerJoined client) ∈ w.unsent then
      (w.clients.removeClient client order).map fun (clients,_) =>
        {w with clients, unsent := w.unsent.erase (client,.peerJoined client), seats := w.seats.erase client}
    else none
  | .send handler =>
    match w.unsent.dropWhile (·.1 ≠ handler) with
    | [] => none
    | (_,notice)::later =>
      some {w with
        unsent := w.unsent.takeWhile (·.1 ≠ handler) ++ later
        seats := w.seats.mapEntries fun _ seat => {seat with inbox := seat.inbox ++ [notice]}}
  | .receive client =>
    if (client,.peerJoined client) ∈ w.unsent then none
    else match w.seats.get? client with
      | some ⟨peers,notice::inbox⟩ => some {w with seats := w.seats.insert client ⟨peers.receive client notice,inbox⟩}
      | _ => none
  | .follow client target order =>
    if w.Reading client then
      (w.clients.setFollow client target order).map fun (clients,notices) => w.commit client clients notices
    else none
  | .steer client subject order =>
    if w.Reading client then
      (w.clients.setFollow subject (some client) order).map fun (clients,notices) => w.commit client clients notices
    else none
  | .leave client order =>
    if w.Reading client then
      (w.clients.removeClient client order).map fun (clients,notices) =>
        {w.commit client clients (.peerLeft client :: notices) with seats := w.seats.erase client}
    else none

def Settled (w : World) : Prop := w.unsent = [] ∧ ∀ entry ∈ w.seats.entries, entry.2.inbox = []

def Agreed (w : World) : Prop :=
  ∀ client seat, w.seats.get? client = some seat → ∀ peer, seat.peers.get? peer = (w.clients.erase client).get? peer

end World

def Notice.mayPass (notice : Notice) : Notice → Bool
  | .followChanged client _ => notice.subject ≠ client ∨ notice = .peerLeft client
  | other => notice.subject ≠ other.subject

-- No announcement overtakes an earlier one about the same client, a `PeerLeft` before
-- a `FollowChanged` apart, and nobody saw or follows a client that a failed join takes
-- away again.
def World.InOrder (w : World) : Event → Prop
  | .send handler =>
    ∀ sent ∈ (w.unsent.dropWhile (·.1 ≠ handler)).head?, ∀ held ∈ w.unsent.takeWhile (·.1 ≠ handler),
      sent.2.mayPass held.2 = true
  | .refuse client _ =>
    (∀ entry ∈ w.seats.entries, entry.1 ≠ client → entry.2.peers.get? client = none) ∧ w.clients.followers client = []
  | _ => True

instance (w : World) : DecidablePred w.InOrder := fun event => by
  unfold World.InOrder
  split <;> infer_instance

def Notice.at (client : ClientId) (entry : Option (Option ClientId)) : Notice → Option (Option ClientId)
  | .peerJoined joined => if joined = client then some none else entry
  | .peerLeft left => if left = client then none else entry
  | .followChanged changed target => if changed = client then entry.map fun _ => target else entry

def replay (client : ClientId) (entry : Option (Option ClientId)) (notices : List Notice) : Option (Option ClientId) :=
  notices.foldl (Notice.at client) entry

section
variable {client : ClientId} {entry : Option (Option ClientId)} {notice : Notice} {notices earlier later : List Notice}

@[simp] theorem replay_nil : replay client entry [] = entry := rfl

@[simp] theorem replay_cons : replay client entry (notice::notices) = replay client (notice.at client entry) notices := rfl

@[simp] theorem replay_append :
    replay client entry (earlier ++ later) = replay client (replay client entry earlier) later := List.foldl_append

theorem Notice.at_other (other : notice.subject ≠ client) : notice.at client entry = entry := by
  cases notice <;> exact if_neg other

theorem Notice.at_twice : notice.at client (notice.at client entry) = notice.at client entry := by
  cases notice with
  | peerJoined joined | peerLeft left => simp only [Notice.at]; split <;> rfl
  | followChanged changed target =>
    simp only [Notice.at]
    split
    · cases entry <;> rfl
    · rfl

theorem replay_quiet (quiet : ∀ notice ∈ notices, notice.subject ≠ client) : replay client entry notices = entry := by
  induction notices with
  | nil => rfl
  | cons notice notices ih =>
    rw [replay_cons,Notice.at_other (quiet notice (by simp))]
    exact ih fun later listed => quiet later (by simp [listed])

theorem replay_absent (never : .peerJoined client ∉ notices) : replay client none notices = none := by
  induction notices with
  | nil => rfl
  | cons notice notices ih =>
    simp only [List.mem_cons,not_or] at never
    have still : notice.at client none = none := by
      cases notice with
      | peerJoined joined =>
        simp only [Notice.at]
        rw [if_neg fun same => never.1 (by rw [same])]
      | peerLeft left | followChanged changed target => simp [Notice.at]
    rw [replay_cons,still]
    exact ih never.2

theorem replay_present (never : .peerLeft client ∉ notices) (here : entry ≠ none) :
    replay client entry notices ≠ none := by
  induction notices generalizing entry with
  | nil => exact here
  | cons notice notices ih =>
    simp only [List.mem_cons,not_or] at never
    refine ih never.2 ?_
    cases notice with
    | peerJoined joined =>
      simp only [Notice.at]
      split
      · simp
      · exact here
    | peerLeft left =>
      simp only [Notice.at]
      rw [if_neg fun same => never.1 (by rw [same])]
      exact here
    | followChanged changed target =>
      simp only [Notice.at]
      split
      · simpa using here
      · exact here

theorem replay_single (once : (notices.map Notice.subject).Nodup) (listed : notice ∈ notices) :
    replay notice.subject entry notices = notice.at notice.subject entry := by
  obtain ⟨earlier,later,rfl⟩ := List.append_of_mem listed
  simp only [List.map_append,List.map_cons] at once
  obtain ⟨_,rest,apart⟩ := List.nodup_append.mp once
  have before : ∀ other ∈ earlier, other.subject ≠ notice.subject := fun other told same =>
    apart _ (List.mem_map_of_mem told) _ (by simp) same
  have after : ∀ other ∈ later, other.subject ≠ notice.subject := fun other told same =>
    (List.nodup_cons.mp rest).1 (List.mem_map.mpr ⟨other,told,same⟩)
  rw [replay_append,replay_quiet before,replay_cons,replay_quiet after]

theorem Notice.mayPass_at {held : Notice} (passes : notice.mayPass held = true) :
    held.at client (notice.at client entry) = notice.at client (held.at client entry) := by
  by_cases same : notice.subject = held.subject
  · cases held with
    | followChanged changed target =>
      obtain rfl := (of_decide_eq_true passes).resolve_left fun other => other same
      simp only [Notice.at]
      split <;> rfl
    | peerJoined joined | peerLeft left => exact absurd same (of_decide_eq_true passes)
  · by_cases about : notice.subject = client
    · have other : held.subject ≠ client := fun equal => same (about.trans equal.symm)
      rw [Notice.at_other other,Notice.at_other other]
    · rw [Notice.at_other about,Notice.at_other about]

theorem replay_passing (passes : ∀ held ∈ earlier, notice.mayPass held = true) :
    replay client (notice.at client entry) earlier = notice.at client (replay client entry earlier) := by
  induction earlier generalizing entry with
  | nil => rfl
  | cons held earlier ih =>
    rw [replay_cons,replay_cons,Notice.mayPass_at (passes held (by simp))]
    exact ih fun other listed => passes other (by simp [listed])

theorem replay_passed (about : notice.subject = client) (passes : ∀ held ∈ notices, notice.mayPass held = true)
    (gone : notice = .peerLeft client → entry = none) : replay client entry notices = entry := by
  by_cases left : notice = .peerLeft client
  · rw [gone left]
    refine replay_absent fun told => ?_
    have other := of_decide_eq_true (passes _ told)
    exact other about
  · refine replay_quiet fun held told same => ?_
    have allowed := passes held told
    cases held with
    | followChanged changed target =>
      rcases of_decide_eq_true allowed with other | leaving
      · exact other (about.trans same.symm)
      · exact left (leaving.trans (congrArg _ same))
    | peerJoined joined | peerLeft gone => exact of_decide_eq_true allowed (about.trans same.symm)

def Steady (client : ClientId) (entry : Option (Option ClientId)) (notices : List Notice) : Prop :=
  ∀ later, later <:+ notices → replay client entry later = entry

theorem suffix_append_cases {rest : List Notice} (ends : rest <:+ earlier ++ later) :
    rest <:+ later ∨ ∃ start, start <:+ earlier ∧ rest = start ++ later := by
  obtain ⟨skipped,whole⟩ := ends
  rcases List.append_eq_append_iff.mp whole with ⟨start,shape,shape'⟩ | ⟨start,shape,shape'⟩
  · exact .inr ⟨start,⟨skipped,shape.symm⟩,shape'⟩
  · exact .inl ⟨start,shape'.symm⟩

theorem Steady.whole (steady : Steady client entry notices) : replay client entry notices = entry :=
  steady _ (List.suffix_refl _)

theorem Steady.without (steady : Steady client entry (earlier ++ notice::later))
    (first : notice.subject = client → ∀ start, start <:+ earlier → replay client entry start = entry) :
    Steady client entry (earlier ++ later) := by
  intro rest ends
  rcases suffix_append_cases ends with within | ⟨start,ends',rfl⟩
  · exact steady rest (within.trans ((List.suffix_cons _ _).trans (List.suffix_append _ _)))
  · by_cases about : notice.subject = client
    · rw [replay_append,first about start ends']
      exact steady later ((List.suffix_cons _ _).trans (List.suffix_append _ _))
    · obtain ⟨skipped,rfl⟩ := ends'
      have before := steady (start ++ notice::later) ⟨skipped,by simp⟩
      simpa [Notice.at_other about] using before

theorem Steady.never (never : .peerJoined client ∉ notices) : Steady client none notices := fun _ ends =>
  replay_absent fun listed => never (ends.subset listed)

end

namespace Peers
variable {peers peers' : Peers} {client other : ClientId} {target : Option ClientId} {order : List ClientId}
  {notices : List Notice}

structure Accounts (peers : Peers) (notices : List Notice) (peers' : Peers) : Prop where
  told : ∀ client, peers'.get? client = replay client (peers.get? client) notices
  once : (notices.map Notice.subject).Nodup
  present : ∀ client target, .followChanged client target ∈ notices → peers.get? client ≠ none

@[simp] theorem get?_redirect (peers : Peers) (order : List ClientId) (target : Option ClientId) (client : ClientId) :
    (peers.redirect order target).get? client =
      (peers.get? client).map fun following => if client ∈ order then target else following := by
  unfold redirect
  induction order generalizing peers with
  | nil => simp
  | cons follower order ih =>
    rw [List.foldl_cons,ih,IndexMap.get?_modify_eq_map,Option.map_map]
    congr 1
    funext following
    by_cases here : client = follower <;> simp [here]

theorem mem_followers : other ∈ peers.followers client ↔ peers.get? other = some (some client) := by
  rw [followers,← IndexMap.mem_entries_iff]
  constructor
  · intro listed
    obtain ⟨⟨key,following⟩,kept,rfl⟩ := List.mem_map.mp listed
    obtain ⟨stored,follows⟩ := List.mem_filter.mp kept
    have same : following = some client := by simpa using follows
    exact same ▸ stored
  · intro stored
    exact List.mem_map.mpr ⟨_,List.mem_filter.mpr ⟨stored,by simp⟩,rfl⟩

theorem followers_nodup (peers : Peers) (client : ClientId) : (peers.followers client).Nodup :=
  peers.nodup.sublist (List.filter_sublist.map _)

theorem announce_subjects (order : List ClientId) (target : Option ClientId) :
    (announce order target).map Notice.subject = order := by
  simp [announce,Function.comp_def,Notice.subject]

theorem replay_announce (order : List ClientId) (target following : Option ClientId) (client : ClientId) :
    replay client (some following) (announce order target) = some (if client ∈ order then target else following) := by
  induction order generalizing following with
  | nil => simp [announce]
  | cons follower order ih =>
    simp only [announce,List.map_cons,replay_cons,Notice.at] at ih ⊢
    by_cases here : follower = client
    · subst here
      simp [ih]
    · simp [ih,here,Ne.symm here]

theorem replay_announce_absent (order : List ClientId) (target : Option ClientId) (client : ClientId) :
    replay client none (announce order target) = none := replay_absent (by simp [announce])

theorem get?_redirect_eq_replay (peers : Peers) (order : List ClientId) (target : Option ClientId) (client : ClientId) :
    (peers.redirect order target).get? client = replay client (peers.get? client) (announce order target) := by
  rw [get?_redirect]
  cases peers.get? client with
  | none => exact (replay_announce_absent order target client).symm
  | some following => exact (replay_announce order target following client).symm

theorem Accounts.refl (peers : Peers) : peers.Accounts [] peers := ⟨fun _ => rfl,by simp,by simp⟩

theorem Accounts.append {middle : Peers} {later : List Notice} (first : peers.Accounts notices middle)
    (second : middle.Accounts later peers')
    (apart : ∀ notice ∈ notices, ∀ notice' ∈ later, notice.subject ≠ notice'.subject) :
    peers.Accounts (notices ++ later) peers' := by
  constructor
  · intro client
    rw [second.told,first.told,replay_append]
  · rw [List.map_append,List.nodup_append]
    refine ⟨first.once,second.once,?_⟩
    rintro _ here _ there
    obtain ⟨notice,listed,rfl⟩ := List.mem_map.mp here
    obtain ⟨notice',listed',rfl⟩ := List.mem_map.mp there
    exact apart notice listed notice' listed'
  · intro client target listed
    rcases List.mem_append.mp listed with here | there
    · exact first.present client target here
    · have quiet : ∀ notice ∈ notices, notice.subject ≠ client := fun notice told => apart notice told _ there
      have kept := second.present client target there
      rwa [first.told,replay_quiet quiet] at kept

theorem accounts_addClient (peers : Peers) (client : ClientId) : peers.Accounts [.peerJoined client] (peers.addClient client) := by
  refine ⟨fun other => ?_,by simp,by simp⟩
  by_cases same : other = client
  · simp [addClient,same,Notice.at]
  · simp [addClient,same,Notice.at,Ne.symm same]

theorem accounts_erase (peers : Peers) (client : ClientId) : peers.Accounts [.peerLeft client] (peers.erase client) := by
  refine ⟨fun other => ?_,by simp,by simp⟩
  by_cases same : other = client
  · simp [same,Notice.at]
  · simp [same,Notice.at,Ne.symm same]

theorem accounts_assign (peers : Peers) (client : ClientId) (target : Option ClientId) :
    peers.Accounts (if peers.contains client then [.followChanged client target] else [])
      (peers.modify client fun _ => target) := by
  unfold IndexMap.contains
  cases found : peers.get? client with
  | none =>
    refine ⟨fun other => ?_,by simp,by simp⟩
    by_cases same : other = client <;> simp [same,found]
  | some following =>
    refine ⟨fun other => ?_,by simp,by simp [found]⟩
    by_cases same : other = client
    · simp [same,found,Notice.at]
    · simp [same,Notice.at,Ne.symm same]

theorem accounts_redirect (target : Option ClientId) (once : order.Nodup)
    (present : ∀ follower ∈ order, peers.get? follower ≠ none) :
    peers.Accounts (announce order target) (peers.redirect order target) := by
  refine ⟨get?_redirect_eq_replay peers order target,by rwa [announce_subjects],fun client target' listed => ?_⟩
  obtain ⟨follower,here,same⟩ := List.mem_map.mp listed
  cases same
  exact present _ here

theorem accounts_removeClient (removed : peers.removeClient client order = some (peers',notices)) :
    peers.Accounts (.peerLeft client::notices) peers' := by
  simp only [removeClient] at removed
  split at removed
  · rename_i perm
    cases removed
    have listed (follower : ClientId) (here : follower ∈ order) :
        (peers.erase client).get? follower = some (some client) := mem_followers.mp (perm.mem_iff.mp here)
    refine (accounts_erase peers client).append (accounts_redirect none (perm.nodup_iff.mpr (followers_nodup _ _))
      fun follower here => by simp [listed follower here]) ?_
    intro notice first notice' second same
    obtain rfl := List.mem_singleton.mp first
    obtain ⟨follower,here,rfl⟩ := List.mem_map.mp second
    have found := listed follower here
    have left : client = follower := same
    rw [IndexMap.get?_erase,if_pos left.symm] at found
    cases found
  · cases removed

theorem accounts_setFollow (followed : peers.setFollow client target order = some (peers',notices)) :
    peers.Accounts notices peers' := by
  unfold setFollow at followed
  split at followed
  · cases followed
    exact .refl peers
  · dsimp only at followed
    split at followed
    · cases followed
      exact accounts_assign peers client none
    · split at followed
      · rename_i newTarget _ perm
        cases followed
        have listed (follower : ClientId) (here : follower ∈ order) :
            (peers.modify client fun _ => some newTarget).get? follower = some (some client) ∧ follower ≠ client := by
          have kept := List.mem_filter.mp (perm.mem_iff.mp here)
          exact ⟨mem_followers.mp kept.1,by simpa using kept.2⟩
        refine (accounts_assign peers client (some newTarget)).append (accounts_redirect _
          (perm.nodup_iff.mpr ((followers_nodup _ _).filter _)) fun follower here => by simp [(listed follower here).1]) ?_
        intro notice first notice' second same
        obtain ⟨follower,here,rfl⟩ := List.mem_map.mp second
        split at first
        · obtain rfl := List.mem_singleton.mp first
          exact (listed follower here).2 same.symm
        · cases first
      · cases followed

theorem removeClient_notices (removed : peers.removeClient client order = some (peers',notices)) :
    ∀ notice ∈ notices, ∃ follower target, notice = .followChanged follower target := by
  simp only [removeClient] at removed
  split at removed
  · cases removed
    intro notice told
    obtain ⟨follower,_,rfl⟩ := List.mem_map.mp told
    exact ⟨follower,none,rfl⟩
  · cases removed

theorem setFollow_notices (followed : peers.setFollow client target order = some (peers',notices)) :
    ∀ notice ∈ notices, ∃ follower target, notice = .followChanged follower target := by
  have changes : ∀ notice ∈ (if peers.contains client then [Notice.followChanged client target] else []),
      ∃ follower target, notice = .followChanged follower target := by
    intro notice told
    split at told
    · exact ⟨client,target,List.mem_singleton.mp told⟩
    · cases told
  unfold setFollow at followed
  split at followed
  · cases followed
    simp
  · dsimp only at followed
    split at followed
    · cases followed
      exact changes
    · split at followed
      · cases followed
        intro notice told
        rcases List.mem_append.mp told with own | redirected
        · exact changes notice own
        · obtain ⟨follower,_,rfl⟩ := List.mem_map.mp redirected
          exact ⟨follower,_,rfl⟩
      · cases followed

end Peers

theorem get?_receive (peers : Peers) (own client : ClientId) (notice : Notice) (other : client ≠ own) :
    (peers.receive own notice).get? client = notice.at client (peers.get? client) := by
  cases notice with
  | peerJoined joined =>
    simp only [Peers.receive,Notice.at]
    by_cases mine : joined = own
    · subst mine
      simp [Ne.symm other]
    · by_cases same : client = joined
      · simp [mine,same]
      · simp [mine,same,Ne.symm same]
  | peerLeft left => by_cases same : client = left <;> simp [Peers.receive,Notice.at,same,eq_comm]
  | followChanged changed target =>
    by_cases same : client = changed
    · simp [Peers.receive,Notice.at,same]
    · simp [Peers.receive,Notice.at,same,Ne.symm same]

theorem receive_own (peers : Peers) (own : ClientId) (notice : Notice) (unlisted : peers.get? own = none) :
    (peers.receive own notice).get? own = none := by
  cases notice with
  | peerJoined joined =>
    simp only [Peers.receive]
    split
    · exact unlisted
    · rename_i other
      simpa [Ne.symm other] using unlisted
  | peerLeft left => by_cases same : own = left <;> simp [Peers.receive,same,← unlisted]
  | followChanged changed target =>
    by_cases same : own = changed
    · subst same
      simp [Peers.receive,unlisted]
    · simpa [Peers.receive,same] using unlisted

namespace World
variable {w after : World} {client handler : ClientId} {clients : Peers} {notices : List Notice} {seat : Seat}

def pending (w : World) : List Notice := w.unsent.map Prod.snd

@[simp] theorem commit_clients : (w.commit handler clients notices).clients = clients := rfl

@[simp] theorem commit_seats : (w.commit handler clients notices).seats = w.seats := rfl

@[simp] theorem commit_pending : (w.commit handler clients notices).pending = w.pending ++ notices := by
  simp [World.pending,commit,Function.comp_def]

structure Tracks (w : World) (own : ClientId) (seat : Seat) : Prop where
  others : ∀ client, client ≠ own →
    replay client (seat.peers.get? client) (seat.inbox ++ w.pending) = w.clients.get? client
  unlisted : seat.peers.get? own = none

structure Tracked (w : World) : Prop where
  seated : ∀ own seat, w.seats.get? own = some seat → w.Tracks own seat
  steady : ∀ client, Steady client (w.clients.get? client) w.pending
  stays : ∀ client, w.clients.get? client ≠ none → .peerLeft client ∉ w.pending
  single : ∀ client, w.pending.count (.peerJoined client) ≤ 1
  unseen : ∀ client, .peerJoined client ∈ w.pending → ∀ own seat, w.seats.get? own = some seat →
    .peerJoined client ∉ seat.inbox
  taken : ∀ notice ∈ w.pending, notice.subject ∈ w.taken
  aged : ∀ client, w.clients.get? client ≠ none → client ∈ w.taken
  arrived : ∀ own seat, w.seats.get? own = some seat → own ∈ w.taken ∧ ∀ notice ∈ seat.inbox, notice.subject ∈ w.taken

theorem Tracked.initial : Tracked .initial := by
  constructor <;> simp [World.initial,World.pending,Steady]

theorem Tracks.commit (tracks : w.Tracks client seat) (accounts : w.clients.Accounts notices clients) :
    (w.commit handler clients notices).Tracks client seat := by
  refine ⟨fun other different => ?_,tracks.unlisted⟩
  rw [commit_clients,commit_pending,← List.append_assoc,replay_append,tracks.others other different,accounts.told]

theorem Tracked.commit_steady (tracked : w.Tracked) (accounts : w.clients.Accounts notices clients) (client : ClientId) :
    Steady client (clients.get? client) (w.pending ++ notices) := by
  intro rest ends
  by_cases quiet : ∀ notice ∈ notices, notice.subject ≠ client
  · have same : clients.get? client = w.clients.get? client := by rw [accounts.told,replay_quiet quiet]
    rw [same]
    rcases suffix_append_cases ends with within | ⟨start,ends',rfl⟩
    · exact replay_quiet fun notice listed => quiet notice (within.subset listed)
    · rw [replay_append,tracked.steady client start ends',replay_quiet quiet]
  · push Not at quiet
    obtain ⟨notice,listed,rfl⟩ := quiet
    have final : clients.get? notice.subject = notice.at notice.subject (w.clients.get? notice.subject) := by
      rw [accounts.told,replay_single accounts.once listed]
    rw [final]
    rcases suffix_append_cases ends with within | ⟨start,ends',rfl⟩
    · by_cases here : notice ∈ rest
      · rw [replay_single ((within.map Notice.subject).sublist.nodup accounts.once) here,Notice.at_twice]
      · refine replay_quiet fun other told same => here ?_
        rwa [List.inj_on_of_nodup_map accounts.once listed (within.subset told) same.symm]
    · rw [replay_append,replay_single accounts.once listed]
      cases notice with
      | peerJoined joined | peerLeft left => simp [Notice.at,Notice.subject]
      | followChanged changed target =>
        have present := accounts.present changed target listed
        have never : .peerLeft changed ∉ start := fun told => tracked.stays changed present (ends'.subset told)
        obtain ⟨following,found⟩ := Option.ne_none_iff_exists'.mp present
        have lasts : replay changed (some target) start ≠ none := replay_present never (by simp)
        obtain ⟨following',found'⟩ := Option.ne_none_iff_exists'.mp lasts
        simp [Notice.at,Notice.subject,found,found']

theorem Tracked.commit (tracked : w.Tracked) (accounts : w.clients.Accounts notices clients)
    (nobody : ∀ joined, .peerJoined joined ∉ notices) (known : ∀ notice ∈ notices, notice.subject ∈ w.taken) :
    (w.commit handler clients notices).Tracked := by
  have kept (client : ClientId) (here : clients.get? client ≠ none) : w.clients.get? client ≠ none := by
    intro absent
    rw [accounts.told,absent,replay_absent (nobody client)] at here
    exact here rfl
  constructor
  · exact fun own seat found => (tracked.seated own seat found).commit accounts
  · intro client
    rw [commit_clients,commit_pending]
    exact tracked.commit_steady accounts client
  · intro client here told
    rw [commit_clients] at here
    rw [commit_pending] at told
    rcases List.mem_append.mp told with before | now
    · exact tracked.stays client (kept client here) before
    · rw [accounts.told] at here
      exact here ((replay_single accounts.once now).trans (if_pos rfl))
  · intro client
    rw [commit_pending,List.count_append,List.count_eq_zero_of_not_mem (nobody client)]
    exact tracked.single client
  · intro client told own seat found
    rw [commit_pending] at told
    rcases List.mem_append.mp told with before | now
    · exact tracked.unseen client before own seat found
    · exact absurd now (nobody client)
  · intro notice told
    rw [commit_pending] at told
    rcases List.mem_append.mp told with before | now
    · exact tracked.taken notice before
    · exact known notice now
  · exact fun client here => tracked.aged client (kept client here)
  · exact tracked.arrived

theorem Tracked.unseat (tracked : w.Tracked) (client : ClientId) : ({w with seats := w.seats.erase client} : World).Tracked := by
  have stays {own : ClientId} {seat : Seat} (found : (w.seats.erase client).get? own = some seat) :
      w.seats.get? own = some seat := by
    rw [IndexMap.get?_erase] at found
    split at found
    · cases found
    · exact found
  constructor
  · exact fun own seat found => ⟨(tracked.seated own seat (stays found)).others,(tracked.seated own seat (stays found)).unlisted⟩
  · exact tracked.steady
  · exact tracked.stays
  · exact tracked.single
  · exact fun client told own seat found => tracked.unseen client told own seat (stays found)
  · exact tracked.taken
  · exact tracked.aged
  · exact fun own seat found => tracked.arrived own seat (stays found)

theorem Tracked.join (tracked : w.Tracked) (fresh : client ∉ w.taken) :
    ({w.commit client (w.clients.addClient client) [.peerJoined client] with
      taken := insert client w.taken
      seats := w.seats.insert client ⟨(w.clients.addClient client).erase client,[]⟩} : World).Tracked := by
  have accounts := Peers.accounts_addClient w.clients client
  have unheard : .peerJoined client ∉ w.pending := fun told => fresh (tracked.taken _ told)
  constructor
  · intro own seat found
    rw [IndexMap.get?_insert] at found
    split at found
    · rename_i mine
      cases found
      subst mine
      refine ⟨fun other different => ?_,by simp⟩
      have whole := (tracked.commit_steady accounts other).whole
      simpa [World.pending,World.commit,different] using whole
    · have before : (w.commit client (w.clients.addClient client) [.peerJoined client]).Tracks own seat :=
        (tracked.seated own seat found).commit accounts
      exact ⟨before.others,before.unlisted⟩
  · intro other
    have steady := tracked.commit_steady accounts other
    simpa [World.pending,World.commit] using steady
  · intro other here told
    simp only [World.pending,World.commit,List.map_append,List.mem_append,List.map_cons,List.map_nil,
      List.mem_singleton,reduceCtorEq,or_false] at told
    by_cases same : other = client
    · exact fresh (same ▸ tracked.taken _ told)
    · refine tracked.stays other ?_ told
      simpa [Peers.addClient,same] using here
  · intro other
    have counted := tracked.single other
    simp only [World.pending,World.commit,List.map_append,List.count_append,List.map_cons,List.map_nil]
    by_cases same : other = client
    · subst same
      have never := List.count_eq_zero_of_not_mem unheard
      simp only [World.pending] at never
      simp [never]
    · simpa [World.pending,List.count_singleton,same,Ne.symm same] using counted
  · intro other told own seat found
    rw [IndexMap.get?_insert] at found
    split at found
    · cases found
      simp
    · by_cases same : other = client
      · intro listed
        exact fresh (same ▸ (tracked.arrived own seat found).2 _ listed)
      · refine tracked.unseen other ?_ own seat found
        simpa [World.pending,World.commit,same] using told
  · intro notice told
    simp only [World.pending,World.commit,List.map_append,List.mem_append,List.map_cons,List.map_nil,
      List.mem_singleton] at told
    rcases told with before | now
    · exact Finset.mem_insert_of_mem (tracked.taken notice before)
    · have same : notice = .peerJoined client := now
      subst same
      exact Finset.mem_insert_self _ _
  · intro other here
    by_cases same : other = client
    · exact same ▸ Finset.mem_insert_self _ _
    · refine Finset.mem_insert_of_mem (tracked.aged other ?_)
      simpa [Peers.addClient,same] using here
  · intro own seat found
    rw [IndexMap.get?_insert] at found
    split at found
    · rename_i mine
      cases found
      exact ⟨mine ▸ Finset.mem_insert_self _ _,by simp⟩
    · have before := tracked.arrived own seat found
      exact ⟨Finset.mem_insert_of_mem before.1,fun notice listed => Finset.mem_insert_of_mem (before.2 notice listed)⟩

section
variable {earlier later : List (ClientId × Notice)} {notice : Notice}

theorem pending_split (shape : w.unsent = earlier ++ (handler,notice)::later) :
    w.pending = earlier.map Prod.snd ++ notice::later.map Prod.snd := by
  rw [World.pending,shape,List.map_append,List.map_cons]

theorem pending_thinner (shape : w.unsent = earlier ++ (handler,notice)::later) :
    ((earlier ++ later).map Prod.snd).Sublist w.pending := by
  rw [pending_split shape,List.map_append]
  exact (List.sublist_cons_self _ _).append_left _

theorem Tracked.joined_once (tracked : w.Tracked) (shape : w.unsent = earlier ++ (handler,.peerJoined client)::later) :
    .peerJoined client ∉ (earlier ++ later).map Prod.snd := by
  have counted := tracked.single client
  rw [pending_split shape,List.count_append,List.count_cons_self] at counted
  rw [← List.count_eq_zero,List.map_append,List.count_append]
  omega

theorem Tracks.send (tracks : w.Tracks client seat) (shape : w.unsent = earlier ++ (handler,notice)::later)
    (passes : ∀ held ∈ earlier, notice.mayPass held.2 = true) (seats : IndexMap ClientId Seat) :
    ({w with unsent := earlier ++ later, seats} : World).Tracks client {seat with inbox := seat.inbox ++ [notice]} := by
  refine ⟨fun other different => ?_,tracks.unlisted⟩
  have before := tracks.others other different
  have order : ∀ held ∈ earlier.map Prod.snd, notice.mayPass held = true := List.forall_mem_map.mpr passes
  rw [pending_split shape] at before
  simp only [replay_append,replay_cons] at before
  simp only [World.pending,List.map_append,replay_append,replay_cons,replay_nil,replay_passing order]
  exact before

theorem Tracked.send (tracked : w.Tracked) (shape : w.unsent = earlier ++ (handler,notice)::later)
    (passes : ∀ held ∈ earlier, notice.mayPass held.2 = true) :
    ({w with
      unsent := earlier ++ later
      seats := w.seats.mapEntries fun _ seat => {seat with inbox := seat.inbox ++ [notice]}} : World).Tracked := by
  have listed : notice ∈ w.pending := by
    rw [pending_split shape]
    simp
  have thinner := pending_thinner shape
  constructor
  · intro own _ found
    rw [IndexMap.get?_mapEntries] at found
    obtain ⟨seat,here,rfl⟩ := Option.map_eq_some_iff.mp found
    exact (tracked.seated own seat here).send shape passes _
  · intro client
    have steady := tracked.steady client
    rw [pending_split shape] at steady
    have taken : Steady client (w.clients.get? client) (earlier.map Prod.snd ++ later.map Prod.snd) := by
      refine steady.without fun about start ends => replay_passed about (fun held told => ?_) fun leaving => ?_
      · obtain ⟨pair,member,rfl⟩ := List.mem_map.mp (ends.subset told)
        exact passes pair member
      · by_contra here
        exact tracked.stays client here (leaving ▸ listed)
    simpa [World.pending] using taken
  · exact fun client here told => tracked.stays client here (thinner.subset told)
  · exact fun client => (thinner.count_le _).trans (tracked.single client)
  · intro client told own _ found
    rw [IndexMap.get?_mapEntries] at found
    obtain ⟨seat,here,rfl⟩ := Option.map_eq_some_iff.mp found
    intro arrived
    rcases List.mem_append.mp arrived with before | now
    · exact tracked.unseen client (thinner.subset told) own seat here before
    · obtain rfl := List.mem_singleton.mp now
      exact tracked.joined_once shape told
  · exact fun notice told => tracked.taken notice (thinner.subset told)
  · exact tracked.aged
  · intro own _ found
    rw [IndexMap.get?_mapEntries] at found
    obtain ⟨seat,here,rfl⟩ := Option.map_eq_some_iff.mp found
    refine ⟨(tracked.arrived own seat here).1,fun other told => ?_⟩
    rcases List.mem_append.mp told with before | now
    · exact (tracked.arrived own seat here).2 other before
    · obtain rfl := List.mem_singleton.mp now
      exact tracked.taken other listed

theorem Tracked.refuse (tracked : w.Tracked) (shape : w.unsent = earlier ++ (handler,.peerJoined client)::later)
    (unseen : ∀ own seat, w.seats.get? own = some seat → own ≠ client → seat.peers.get? client = none)
    (removed : ∀ other, clients.get? other = (w.clients.erase client).get? other) :
    ({w with clients, unsent := earlier ++ later, seats := w.seats.erase client} : World).Tracked := by
  have thinner := pending_thinner shape
  have once := tracked.joined_once shape
  have listed : .peerJoined client ∈ w.pending := by
    rw [pending_split shape]
    simp
  have stays {own : ClientId} {seat : Seat} (found : (w.seats.erase client).get? own = some seat) :
      own ≠ client ∧ w.seats.get? own = some seat := by
    rw [IndexMap.get?_erase] at found
    split at found
    · cases found
    · exact ⟨‹_›,found⟩
  have kept {other : ClientId} (here : clients.get? other ≠ none) : w.clients.get? other ≠ none := by
    rw [removed,IndexMap.get?_erase] at here
    split at here
    · exact absurd rfl here
    · exact here
  constructor
  · intro own seat found
    obtain ⟨different,here⟩ := stays found
    have tracks := tracked.seated own seat here
    refine ⟨fun other apart => ?_,tracks.unlisted⟩
    rw [removed,IndexMap.get?_erase]
    by_cases same : other = client
    · subst same
      rw [if_pos rfl,unseen own seat here different]
      refine replay_absent fun told => ?_
      rcases List.mem_append.mp told with arrived | unsent
      · exact tracked.unseen other listed own seat here arrived
      · exact once unsent
    · have before := tracks.others other apart
      have about : (Notice.peerJoined client).subject ≠ other := Ne.symm same
      rw [pending_split shape] at before
      simp only [replay_append,replay_cons,Notice.at_other about] at before
      rw [if_neg same,← before]
      simp [World.pending]
  · intro other
    rw [removed,IndexMap.get?_erase]
    by_cases same : other = client
    · subst same
      rw [if_pos rfl]
      exact .never once
    · rw [if_neg same]
      have steady := tracked.steady other
      rw [pending_split shape] at steady
      have taken := steady.without fun about => absurd about.symm same
      simpa [World.pending] using taken
  · exact fun other here told => tracked.stays other (kept here) (thinner.subset told)
  · exact fun other => (thinner.count_le _).trans (tracked.single other)
  · exact fun other told own seat found => tracked.unseen other (thinner.subset told) own seat (stays found).2
  · exact fun notice told => tracked.taken notice (thinner.subset told)
  · exact fun other here => tracked.aged other (kept here)
  · exact fun own seat found => tracked.arrived own seat (stays found).2

end

theorem Tracked.receive (tracked : w.Tracked) {peers : Peers} {notice : Notice} {inbox : List Notice}
    (found : w.seats.get? client = some ⟨peers,notice::inbox⟩) :
    ({w with seats := w.seats.insert client ⟨peers.receive client notice,inbox⟩} : World).Tracked := by
  have tracks := tracked.seated client _ found
  constructor
  · intro own seat here
    rw [IndexMap.get?_insert] at here
    split at here
    · rename_i mine
      cases here
      subst mine
      refine ⟨fun other apart => ?_,receive_own _ _ _ tracks.unlisted⟩
      have before := tracks.others other apart
      rw [List.cons_append,replay_cons] at before
      rw [get?_receive _ _ _ _ apart]
      exact before
    · exact ⟨(tracked.seated own seat here).others,(tracked.seated own seat here).unlisted⟩
  · exact tracked.steady
  · exact tracked.stays
  · exact tracked.single
  · intro other told own seat here
    rw [IndexMap.get?_insert] at here
    split at here
    · cases here
      exact fun listed => tracked.unseen other told client _ found (List.mem_cons_of_mem _ listed)
    · exact tracked.unseen other told own seat here
  · exact tracked.taken
  · exact tracked.aged
  · intro own seat here
    rw [IndexMap.get?_insert] at here
    split at here
    · rename_i mine
      cases here
      have before := tracked.arrived client _ found
      exact ⟨mine ▸ before.1,fun other listed => before.2 other (List.mem_cons_of_mem _ listed)⟩
    · exact tracked.arrived own seat here

theorem Tracked.follow (tracked : w.Tracked) {target : Option ClientId} {order : List ClientId}
    (followed : w.clients.setFollow client target order = some (clients,notices)) :
    (w.commit handler clients notices).Tracked := by
  have accounts := Peers.accounts_setFollow followed
  have changes := Peers.setFollow_notices followed
  refine tracked.commit accounts (fun joined told => ?_) fun notice told => ?_
  · obtain ⟨_,_,same⟩ := changes _ told
    cases same
  · obtain ⟨follower,target,rfl⟩ := changes _ told
    exact tracked.aged follower (accounts.present follower target told)

theorem Tracked.leave (tracked : w.Tracked) {order : List ClientId} (here : client ∈ w.taken)
    (removed : w.clients.removeClient client order = some (clients,notices)) :
    ({w.commit client clients (.peerLeft client::notices) with seats := w.seats.erase client} : World).Tracked := by
  have accounts := Peers.accounts_removeClient removed
  have changes := Peers.removeClient_notices removed
  refine (tracked.commit accounts (fun joined told => ?_) fun notice told => ?_).unseat client
  · rcases List.mem_cons.mp told with same | redirected
    · cases same
    · obtain ⟨_,_,same⟩ := changes _ redirected
      cases same
  · rcases List.mem_cons.mp told with rfl | redirected
    · exact here
    · obtain ⟨follower,target,rfl⟩ := changes _ redirected
      exact tracked.aged follower (accounts.present follower target told)

theorem removeClient_alone {order : List ClientId} (alone : w.clients.followers client = [])
    (removed : w.clients.removeClient client order = some (clients,notices)) (other : ClientId) :
    clients.get? other = (w.clients.erase client).get? other := by
  simp only [Peers.removeClient] at removed
  split at removed
  · rename_i perm
    cases removed
    have nobody : other ∉ order := by
      rw [perm.mem_iff,Peers.mem_followers,IndexMap.get?_erase]
      split
      · simp
      · rw [← Peers.mem_followers,alone]
        simp
    simp [nobody]
  · cases removed

theorem next_tracked (tracked : w.Tracked) (taken : w.next? event = some after) (inOrder : w.InOrder event) :
    after.Tracked := by
  cases event with
  | join client =>
    simp only [next?] at taken
    split at taken
    · cases taken
    · rename_i fresh
      cases taken
      exact tracked.join fresh
  | refuse client order =>
    simp only [next?] at taken
    split at taken
    · rename_i waiting
      obtain ⟨⟨clients,notices⟩,removed,rfl⟩ := Option.map_eq_some_iff.mp taken
      obtain ⟨earlier,later,_,shape,erased⟩ := List.exists_erase_eq waiting
      dsimp only
      rw [erased]
      refine tracked.refuse shape (fun own seat found different => ?_) (removeClient_alone inOrder.2 removed)
      exact inOrder.1 _ (IndexMap.mem_entries_iff.mpr found) different
    · cases taken
  | send handler =>
    simp only [next?] at taken
    split at taken
    · cases taken
    · rename_i sender notice later rest
      cases taken
      have shape := w.unsent.takeWhile_append_dropWhile (p := fun held => held.1 ≠ handler)
      rw [rest] at shape
      exact tracked.send shape.symm (inOrder (sender,notice) (by rw [rest]; rfl))
  | receive client =>
    simp only [next?] at taken
    split at taken
    · cases taken
    · split at taken
      · rename_i found
        cases taken
        exact tracked.receive found
      · cases taken
  | follow client target order | steer client subject order =>
    simp only [next?] at taken
    split at taken
    · obtain ⟨⟨clients,notices⟩,followed,rfl⟩ := Option.map_eq_some_iff.mp taken
      exact tracked.follow followed
    · cases taken
  | leave client order =>
    simp only [next?] at taken
    split at taken
    · rename_i reading
      obtain ⟨⟨clients,notices⟩,removed,rfl⟩ := Option.map_eq_some_iff.mp taken
      obtain ⟨seat,found⟩ := Option.isSome_iff_exists.mp reading.1
      exact tracked.leave (tracked.arrived client seat found).1 removed
    · cases taken

theorem Tracked.agreed (tracked : w.Tracked) (settled : w.Settled) : w.Agreed := by
  intro client seat found peer
  have tracks := tracked.seated client seat found
  have empty : seat.inbox = [] := settled.2 _ (IndexMap.mem_entries_iff.mpr found)
  rw [IndexMap.get?_erase]
  split
  · rename_i same
    exact same ▸ tracks.unlisted
  · rename_i other
    have final := tracks.others peer other
    rwa [empty,World.pending,settled.1] at final

end World

-- In every run that keeps the announcements in order, whenever all that was sent has
-- arrived, each client's peers are the session's.
theorem settled_peers_agree
    (path : Runs (fun w event after => w.next? event = some after ∧ w.InOrder event) World.initial events w) :
    w.Settled → w.Agreed := by
  have tracked : w.Tracked := path.preserves (fun _ _ _ kept taken => World.next_tracked kept taken.1 taken.2) .initial
  exact tracked.agreed

section
open Event

def steering : List Event :=
  [join 0,send 0,join 1,refuse 1 [],join 2,join 3,send 2,send 3,receive 2,receive 2,receive 3,receive 3,steer 0 2 [],
    follow 3 (some 0) [],send 3,send 0,leave 0 [3,2],send 0,send 0,send 0,receive 2,receive 2,receive 2,receive 2,
    receive 2,receive 3,receive 3,receive 3,receive 3,receive 3]

-- A join fails unseen; of the others one steers, one follows, and their target leaves.
theorem settled_peers_agree_after_steering :
    ∃ w, Runs (fun w event after => w.next? event = some after ∧ w.InOrder event) World.initial steering w ∧
      w.clients.entries = [(2,none),(3,none)] ∧ w.Settled ∧ w.Agreed := by
  have reached : ∃ w, drive (guarded World.InOrder World.next?) World.initial steering = some w ∧
      w.clients.entries = [(2,none),(3,none)] ∧ w.unsent = [] ∧ ∀ entry ∈ w.seats.entries, entry.2.inbox = [] := by
    refine ⟨_,rfl,?_⟩
    decide
  obtain ⟨w,ran,left,settled⟩ := reached
  have path := drive_guarded ran
  exact ⟨w,path,left,settled,settled_peers_agree path settled⟩

-- The snapshot of the third client shows the second, whose own snapshot then fails.
theorem failed_join_leaves_a_ghost :
    ∃ w, Runs (fun w event after => w.next? event = some after) World.initial
        [join 0,send 0,receive 0,join 1,join 2,refuse 1 [],send 2,receive 0,receive 2] w ∧ w.Settled ∧ ¬ w.Agreed := by
  have reached : ∃ w, drive World.next? World.initial
      [join 0,send 0,receive 0,join 1,join 2,refuse 1 [],send 2,receive 0,receive 2] = some w ∧
      (w.unsent = [] ∧ ∀ entry ∈ w.seats.entries, entry.2.inbox = []) ∧ w.clients.get? 1 = none ∧
      ∃ seat, w.seats.get? 2 = some seat ∧ seat.peers.get? 1 = some none := by
    refine ⟨_,rfl,?_,?_,_,rfl,?_⟩ <;> decide
  obtain ⟨w,ran,settled,absent,seat,found,shown⟩ := reached
  refine ⟨w,drive_runs (fun _ _ _ taken => taken) ran,settled,fun agreed => ?_⟩
  have same := agreed 2 seat found 1
  rw [shown,IndexMap.get?_erase,if_neg (by decide),absent] at same
  cases same

end

end Lucida.Session.Presence
