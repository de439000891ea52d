import Lucida.Web.Plan

namespace Lucida.Renderer

-- What `parseInt` skips in front of a number.
def isStrWhiteSpace (c : Char) : Bool :=
  (9 ≤ c.toNat ∧ c.toNat ≤ 13) ∨ (0x2000 ≤ c.toNat ∧ c.toNat ≤ 0x200A) ∨
    c.toNat ∈ [32,0xA0,0x1680,0x2028,0x2029,0x202F,0x205F,0x3000,0xFEFF]

def unsignedPrefix (sign : Int) (text : List Char) : Option Int :=
  match text.takeWhile Char.isDigit with
  | [] => none
  | digits => some (sign*(Nat.ofDigitChars 10 digits 0 : Nat))

-- `parseInt(text, 10)`, none for NaN.
def parseInt (text : List Char) : Option Int :=
  match text.dropWhile isStrWhiteSpace with
  | '-'::rest => unsignedPrefix (-1) rest
  | '+'::rest => unsignedPrefix 1 rest
  | rest => unsignedPrefix 1 rest

structure ParsedChunkKey where
  level : Option Int
  t : Option Int
  c : Option Int
  z : Option Int
  y : Option Int
  x : Option Int
  deriving DecidableEq, Repr

def parseChunkKey (key : String) : Option ParsedChunkKey :=
  match (key.toList.splitOn '/').map parseInt with
  | [level,t,c,z,y,x] => some ⟨level,t,c,z,y,x⟩
  | _ => none

def makeCompositeKey (memberId chunkKey : String) : String := memberId ++ "|" ++ chunkKey

def parseCompositeKey (key : String) : Option (String × String) :=
  match key.toList.span (· ≠ '|') with
  | (memberId,_::chunkKey) => some (String.ofList memberId,String.ofList chunkKey)
  | (_,[]) => none

theorem parseInt_toDigits (n : Nat) : parseInt (Nat.toDigits 10 n) = some (n : Int) := by
  have digits : ∀ c ∈ Nat.toDigits 10 n, c.isDigit := fun c member => Store.toDigits_isDigit member
  have spaced : ∀ c, c.isDigit → isStrWhiteSpace c = false := by
    intro c digit
    have bounds : 48 ≤ c.toNat ∧ c.toNat ≤ 57 := Char.isDigit_iff_toNat.mp digit
    simp only [isStrWhiteSpace,List.mem_cons,List.not_mem_nil,or_false,decide_eq_false_iff_not]
    omega
  unfold parseInt
  cases text : Nat.toDigits 10 n with
  | nil => exact absurd text Nat.toDigits_ne_nil
  | cons first rest =>
    have digit : first.isDigit := digits first (text ▸ List.mem_cons_self)
    rw [List.dropWhile_cons_of_neg (by simp [spaced first digit]),← text]
    have whole : unsignedPrefix 1 (Nat.toDigits 10 n) = some (n : Int) := by
      rw [unsignedPrefix,List.takeWhile_eq_self_iff.mpr digits,text]
      simp only [one_mul,← text,Nat.ofDigitChars_ten_toDigits]
    split
    · rename_i rest' same
      exact absurd (digits '-' (same ▸ List.mem_cons_self)) (by decide)
    · rename_i rest' same
      exact absurd (digits '+' (same ▸ List.mem_cons_self)) (by decide)
    · exact whole

theorem parseChunkKey_chunkKey (level t c z y x : Nat) :
    parseChunkKey (Web.chunkKey level t c z y x) =
      some ⟨some (level : Int),some (t : Int),some (c : Int),some (z : Int),some (y : Int),some (x : Int)⟩ := by
  rw [parseChunkKey,Web.Planning.chunkKey_split]
  simp only [List.map_cons,List.map_nil,parseInt_toDigits]

section
variable {memberId memberId' chunkKey chunkKey' : String}

theorem parseCompositeKey_make (plain : '|' ∉ memberId.toList) (chunkKey : String) :
    parseCompositeKey (makeCompositeKey memberId chunkKey) = some (memberId,chunkKey) := by
  have whole : (makeCompositeKey memberId chunkKey).toList = memberId.toList ++ '|'::chunkKey.toList := by
    have pipe : "|".toList = ['|'] := rfl
    rw [makeCompositeKey,String.toList_append,String.toList_append,pipe,List.append_assoc,List.cons_append,List.nil_append]
  have front : ∀ c ∈ memberId.toList, decide (c ≠ '|') = true := fun c member => decide_eq_true fun same => plain (same ▸ member)
  rw [parseCompositeKey,whole,List.span_eq_takeWhile_dropWhile,List.takeWhile_append_of_pos front,List.dropWhile_append_of_pos front]
  simp

theorem makeCompositeKey_injective (plain : '|' ∉ memberId.toList) (plain' : '|' ∉ memberId'.toList)
    (same : makeCompositeKey memberId chunkKey = makeCompositeKey memberId' chunkKey') : memberId = memberId' ∧ chunkKey = chunkKey' := by
  have parsed := congrArg parseCompositeKey same
  rw [parseCompositeKey_make plain,parseCompositeKey_make plain'] at parsed
  exact Prod.mk.inj (Option.some.inj parsed)

end

end Lucida.Renderer
