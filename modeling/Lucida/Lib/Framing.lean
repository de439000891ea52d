import Mathlib.Data.List.Basic

namespace Lucida.Lib
variable {α β γ : Type}

-- In front of what may follow, an encoding says where it ends: of two values that fit together, no two encodings run
-- into different rests.
def Frames (enc : α → List β) (fits : α → α → Prop) (next : List β → Prop) : Prop :=
  ∀ a b r s, fits a b → next r → next s → enc a ++ r = enc b ++ s → a = b ∧ r = s

namespace Frames
variable {enc : α → List β} {fits : α → α → Prop} {next : List β → Prop}

theorem of_length {n : Nat} (sized : ∀ a b, fits a b → (enc a).length = n ∧ (enc b).length = n)
    (injective : ∀ a b, fits a b → enc a = enc b → a = b) (next : List β → Prop) : Frames enc fits next := by
  intro a b r s both _ _ same
  obtain ⟨first,second⟩ := sized a b both
  obtain ⟨same,rest⟩ := List.append_inj same (first.trans second.symm)
  exact ⟨injective a b both same,rest⟩

theorem of_prefix (apart : ∀ a b, fits a b → enc a <+: enc b ∨ enc b <+: enc a → a = b) (next : List β → Prop) : Frames enc fits next := by
  intro a b r s both _ _ same
  have comparable : enc a <+: enc b ∨ enc b <+: enc a :=
    List.prefix_or_prefix_of_prefix (List.prefix_append (enc a) r) (same ▸ List.prefix_append (enc b) s)
  cases apart a b both comparable
  exact ⟨rfl,List.append_cancel_left same⟩

theorem of_stop (stop : β) (free : ∀ a b, fits a b → stop ∉ enc a ∧ stop ∉ enc b) (injective : ∀ a b, fits a b → enc a = enc b → a = b) :
    Frames enc fits fun r => r = [] ∨ [stop] <+: r := by
  have upto : ∀ (first second r s : List β), stop ∉ first → stop ∉ second → (r = [] ∨ [stop] <+: r) → (s = [] ∨ [stop] <+: s) →
      first ++ r = second ++ s → first = second ∧ r = s := by
    intro first
    induction first with
    | nil =>
      intro second r s _ free' ends _ same
      cases second with
      | nil => exact ⟨rfl,same⟩
      | cons x second =>
        rcases ends with rfl | ⟨tail,rfl⟩
        · cases same
        · cases same
          exact absurd List.mem_cons_self free'
    | cons x first ih =>
      intro second r s free free' ends ends' same
      cases second with
      | nil =>
        rcases ends' with rfl | ⟨tail,rfl⟩
        · cases same
        · cases same
          exact absurd List.mem_cons_self free
      | cons y second =>
        injection same with head tail
        cases head
        obtain ⟨same,rest⟩ := ih second r s (fun member => free (List.mem_cons_of_mem _ member))
          (fun member => free' (List.mem_cons_of_mem _ member)) ends ends' tail
        exact ⟨by rw [same],rest⟩
  intro a b r s both ends ends' same
  obtain ⟨same,rest⟩ := upto _ _ r s (free a b both).1 (free a b both).2 ends ends' same
  exact ⟨injective a b both same,rest⟩

theorem mono (frames : Frames enc fits next) {next' : List β → Prop} (narrow : ∀ r, next' r → next r) : Frames enc fits next' :=
  fun a b r s both ends ends' same => frames a b r s both (narrow r ends) (narrow s ends') same

theorem tagged (frames : Frames enc fits next) (tag : List β) : Frames (fun a => tag ++ enc a) fits next := by
  intro a b r s both ends ends' same
  rw [List.append_assoc,List.append_assoc] at same
  exact frames a b r s both ends ends' (List.append_cancel_left same)

theorem counted (frames : Frames enc fits fun _ => True) (next : List β → Prop) :
    Frames (fun items : List α => items.flatMap enc)
      (fun items others => items.length = others.length ∧ ∀ a ∈ items, ∀ b ∈ others, fits a b) next := by
  intro items
  induction items with
  | nil =>
    intro others r s both _ _ same
    cases List.eq_nil_of_length_eq_zero both.1.symm
    exact ⟨rfl,same⟩
  | cons a items ih =>
    intro others r s both ends ends' same
    cases others with
    | nil => exact absurd both.1 (Nat.succ_ne_zero _)
    | cons b others =>
      dsimp only at same
      rw [List.flatMap_cons,List.flatMap_cons,List.append_assoc,List.append_assoc] at same
      obtain ⟨head,same⟩ := frames a b _ _ (both.2 a List.mem_cons_self b List.mem_cons_self) trivial trivial same
      obtain ⟨tail,rest⟩ := ih others r s ⟨Nat.succ.inj both.1,fun a member b member' =>
        both.2 a (List.mem_cons_of_mem _ member) b (List.mem_cons_of_mem _ member')⟩ ends ends' same
      exact ⟨by rw [head,tail],rest⟩

end Frames

def Next (tags : List (List β)) (r : List β) : Prop := r = [] ∨ ∃ tag ∈ tags, tag <+: r

def Apart (tag other : List β) : Prop := ¬tag <+: other ∧ ¬other <+: tag

instance [DecidableEq β] (tag other : List β) : Decidable (Apart tag other) := inferInstanceAs (Decidable (_ ∧ _))

namespace Frames
variable {enc : α → List β} {fits : α → α → Prop} {tag : List β} {tags : List (List β)}

theorem next_starts {start r : List β} (each : ∀ tag ∈ tags, start <+: tag) (ends : Next tags r) : r = [] ∨ start <+: r :=
  ends.imp_right fun ⟨tag,member,begins⟩ => (each tag member).trans begins

theorem next_tagged (a : α) (r : List β) : Next (tag::tags) (tag ++ enc a ++ r) :=
  .inr ⟨tag,List.mem_cons_self,by rw [List.append_assoc]; exact List.prefix_append _ _⟩

theorem next_more {r : List β} (ends : Next tags r) : Next (tag::tags) r :=
  ends.imp id fun ⟨other,member,begins⟩ => ⟨other,List.mem_cons_of_mem _ member,begins⟩

theorem next_list (items : List α) {r : List β} (ends : Next tags r) :
    Next (tag::tags) (items.flatMap (fun a => tag ++ enc a) ++ r) := by
  cases items with
  | nil => exact next_more ends
  | cons a items =>
    rw [List.flatMap_cons,List.append_assoc]
    exact next_tagged a _

-- Items under a tag of their own, up to something under another.
theorem list (some' : tag ≠ []) (apart : ∀ other ∈ tags, Apart tag other) (frames : Frames enc fits (Next (tag::tags))) :
    Frames (fun items : List α => items.flatMap fun a => tag ++ enc a) (fun items others => ∀ a ∈ items, ∀ b ∈ others, fits a b)
      (Next tags) := by
  have never (a : α) (r s : List β) (ends : Next tags s) : tag ++ enc a ++ r ≠ s := by
    rintro rfl
    rw [List.append_assoc] at ends
    rcases ends with none' | ⟨other,member,begins⟩
    · exact some' (List.append_eq_nil_iff.mp none').1
    · rcases List.prefix_or_prefix_of_prefix (List.prefix_append tag _) begins with within | within
      · exact (apart other member).1 within
      · exact (apart other member).2 within
  intro items
  induction items with
  | nil =>
    intro others r s _ ends ends' same
    cases others with
    | nil => exact ⟨rfl,same⟩
    | cons b others =>
      dsimp only at same
      rw [List.flatMap_nil,List.nil_append,List.flatMap_cons,List.append_assoc] at same
      exact absurd same.symm (never b _ r ends)
  | cons a items ih =>
    intro others r s both ends ends' same
    cases others with
    | nil =>
      dsimp only at same
      rw [List.flatMap_nil,List.nil_append,List.flatMap_cons,List.append_assoc] at same
      exact absurd same (never a _ s ends')
    | cons b others =>
      dsimp only at same
      rw [List.flatMap_cons,List.flatMap_cons,List.append_assoc (tag ++ enc a),List.append_assoc (tag ++ enc b)] at same
      obtain ⟨head,same⟩ := frames.tagged tag a b _ _ (both a List.mem_cons_self b List.mem_cons_self)
        (next_list items ends) (next_list others ends') same
      obtain ⟨tail,rest⟩ := ih others r s (fun a member b member' =>
        both a (List.mem_cons_of_mem _ member) b (List.mem_cons_of_mem _ member')) ends ends' same
      exact ⟨by rw [head,tail],rest⟩

end Frames
end Lucida.Lib
