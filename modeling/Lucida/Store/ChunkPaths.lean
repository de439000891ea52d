import Lucida.Store.ChunkLayout
import Lucida.Store.Flights

namespace Lucida.Store
open Lib ChunkCache

-- `splitn`: at most so many parts, the last with all that is left.
def splitn : Nat → List Char → List (List Char)
  | 0,_ => []
  | 1,text => [text]
  | parts+2,text =>
    match text.dropWhile (· ≠ '/') with
    | [] => [text]
    | _::rest => text.takeWhile (· ≠ '/')::splitn (parts+1) rest

-- A wire `t` or `c` is a sample coordinate, and is divided by the chunk size on its axis.
def gridCoord (canonIdx : Nat) (chunkSize : Option UInt64) (wire : Nat) : Nat :=
  match chunkSize with
  | some size => if (canonIdx = 0 ∨ canonIdx = 1) ∧ size.toNat > 1 then wire / size.toNat else wire
  | none => wire

def chunkKeyGridCoords (key : String) (axes : List String) (chunkShape : List UInt64) : Option (String × List Nat) := do
  let parts := splitn 6 key.toList
  if parts.length ≠ 6 then none
  else
    let coords ← axes.zipIdx.mapM fun (name,axisIdx) =>
      match axisIndex name with
      | none => some 0
      | some canonIdx => do
        let wire ← parseUnsigned 64 (parts.getD (canonIdx+1) [])
        some (gridCoord canonIdx chunkShape[axisIdx]? wire)
    some (String.ofList (parts.getD 0 []),coords)

def chunkGridStorePath (level : String) (coords : List Nat) : String :=
  level ++ "/c/" ++ "/".intercalate (coords.map toString)

def chunkKeyToStorePath (key : String) (axes : List String) (chunkShape : List UInt64) : String :=
  match chunkKeyGridCoords key axes chunkShape with
  | some (level,coords) => chunkGridStorePath level coords
  | none => key

-- `object_store`'s paths: the parts between slashes that are not empty, with the characters
-- that stores advise against percent-encoded.
namespace PathPart

-- Beside the control characters and all that is not ASCII: the slash, the backslash, the braces,
-- the brackets, the quote, the backtick, and the signs of per cent, hash, caret, tilde, bar, star,
-- question, less and greater.
def isInvalid (c : Char) : Bool :=
  c.toNat < 32 || c.toNat ≥ 127 || c.toNat ∈ [47,92,123,125,91,93,34,96,37,35,94,126,124,42,63,60,62]

def hexDigit (n : Nat) : Char := if n < 10 then Char.ofNat (48+n) else Char.ofNat (55+n)

def percent (byte : UInt8) : List Char := ['%',hexDigit (byte.toNat/16),hexDigit (byte.toNat%16)]

def encode (c : Char) : List Char := if isInvalid c then (String.utf8EncodeChar c).flatMap percent else [c]

def ofText (text : List Char) : List Char :=
  if text = ['.'] then ['%','2','E']
  else if text = ['.','.'] then ['%','2','E','%','2','E']
  else text.flatMap encode

end PathPart

def pathFrom (text : String) : Path :=
  String.ofList (['/'].intercalate (((text.toList.splitOn '/').map PathPart.ofText).filter (· ≠ [])))

section Segments

theorem intercalate_cons (first : List Char) (rest : List (List Char)) :
    ['/'].intercalate (first::rest) = first ++ rest.flatMap ('/'::·) := by
  induction rest generalizing first with
  | nil => simp [List.intercalate]
  | cons next rest ih =>
    have step : ['/'].intercalate (first::next::rest) = first ++ '/'::['/'].intercalate (next::rest) := by
      simp [List.intercalate,List.intersperse]
    rw [step,ih,List.flatMap_cons,List.cons_append]

theorem splitOn_flatMap {first : List Char} {rest : List (List Char)} (slashless : '/' ∉ first)
    (others : ∀ part ∈ rest, '/' ∉ part) : (first ++ rest.flatMap ('/'::·)).splitOn '/' = first::rest := by
  induction rest generalizing first with
  | nil =>
    rw [List.flatMap_nil,List.append_nil]
    exact List.splitOn_eq_singleton slashless
  | cons next rest ih =>
    rw [List.flatMap_cons,List.cons_append,List.splitOn_append_cons_self_of_not_mem slashless,
      ih (others next List.mem_cons_self) fun part member => others part (List.mem_cons_of_mem _ member)]

theorem splitOn_join {parts : List (List Char)} (some : parts ≠ []) (slashless : ∀ part ∈ parts, '/' ∉ part) :
    (['/'].intercalate parts).splitOn '/' = parts := by
  cases parts with
  | nil => exact absurd rfl some
  | cons first rest =>
    rw [intercalate_cons]
    exact splitOn_flatMap (slashless first List.mem_cons_self) fun part member => slashless part (List.mem_cons_of_mem _ member)

theorem toDigits_isDigit {n : Nat} (member : c ∈ Nat.toDigits 10 n) : c.isDigit :=
  Nat.isDigit_of_mem_toDigits (by decide) (by decide) member

theorem slash_notMem_toDigits (n : Nat) : '/' ∉ Nat.toDigits 10 n :=
  fun member => absurd (toDigits_isDigit member) (by decide)

theorem toDigits_injective {n m : Nat} (same : Nat.toDigits 10 n = Nat.toDigits 10 m) : n = m := by
  rw [← Nat.ofDigitChars_ten_toDigits (n := n),same,Nat.ofDigitChars_ten_toDigits]

theorem slash_notMem_encode (other : c ≠ '/') : '/' ∉ PathPart.encode c := by
  have hex : ∀ n < 16, PathPart.hexDigit n ≠ '/' := by decide
  unfold PathPart.encode
  split
  · intro member
    obtain ⟨byte,_,here⟩ := List.mem_flatMap.mp member
    have small : byte.toNat < 256 := byte.toNat_lt
    simp only [PathPart.percent,List.mem_cons,List.not_mem_nil,or_false] at here
    rcases here with bad | bad | bad
    · exact absurd bad (by decide)
    · exact hex _ (by omega) bad.symm
    · exact hex _ (by omega) bad.symm
  · exact fun member => other (List.mem_singleton.mp member).symm

theorem slash_notMem_ofText {text : List Char} (slashless : '/' ∉ text) : '/' ∉ PathPart.ofText text := by
  unfold PathPart.ofText
  split
  · decide
  · split
    · decide
    · intro member
      obtain ⟨c,there,here⟩ := List.mem_flatMap.mp member
      exact slash_notMem_encode (fun same => slashless (same ▸ there)) here

theorem encode_digit (digit : c.isDigit) : PathPart.encode c = [c] := by
  have range : 48 ≤ c.toNat ∧ c.toNat ≤ 57 := by
    simpa [Char.isDigit,UInt32.le_iff_toNat_le] using digit
  have valid : PathPart.isInvalid c = false := by
    simp only [PathPart.isInvalid,Bool.or_eq_false_iff,decide_eq_false_iff_not,List.mem_cons,List.not_mem_nil,or_false]
    omega
  unfold PathPart.encode
  rw [valid]
  rfl

theorem ofText_digits {text : List Char} (digits : ∀ c ∈ text, c.isDigit) : PathPart.ofText text = text := by
  have dotless : '.' ∉ text := fun member => absurd (digits '.' member) (by decide)
  unfold PathPart.ofText
  rw [if_neg (by rintro rfl; exact dotless List.mem_cons_self),if_neg (by rintro rfl; exact dotless List.mem_cons_self)]
  clear dotless
  induction text with
  | nil => rfl
  | cons c text ih =>
    rw [List.flatMap_cons,encode_digit (digits c List.mem_cons_self),
      ih fun other member => digits other (List.mem_cons_of_mem _ member)]
    rfl

end Segments

section Paths
variable {level : String} {coords coords' : List Nat}

theorem splitn_first (several : (splitn (parts+2) text).length ≠ 1) :
    (splitn (parts+2) text).getD 0 [] = text.takeWhile (· ≠ '/') := by
  unfold splitn at several ⊢
  split
  · rename_i whole
    rw [whole] at several
    exact absurd rfl several
  · rfl

theorem length_mapM {f : α → Option β} {items : List α} (mapped : items.mapM f = some values) : values.length = items.length := by
  induction items generalizing values with
  | nil =>
    cases mapped
    rfl
  | cons item items ih =>
    rw [List.mapM_cons] at mapped
    obtain ⟨value,_,rest⟩ := Option.bind_eq_some_iff.mp mapped
    obtain ⟨others,later,same⟩ := Option.bind_eq_some_iff.mp rest
    cases same
    rw [List.length_cons,List.length_cons,ih later]

theorem chunkKeyGridCoords_some (parsed : chunkKeyGridCoords key axes chunkShape = some (level,coords)) :
    level = String.ofList (key.toList.takeWhile (· ≠ '/')) ∧ coords.length = axes.length := by
  unfold chunkKeyGridCoords at parsed
  dsimp only at parsed
  split at parsed
  · cases parsed
  · rename_i six
    obtain ⟨found,mapped,same⟩ := Option.bind_eq_some_iff.mp parsed
    cases same
    refine ⟨?_,(length_mapM mapped).trans List.length_zipIdx⟩
    rw [splitn_first fun one => six fun all => absurd (all.symm.trans one) (by decide)]

theorem level_slashless (parsed : chunkKeyGridCoords key axes chunkShape = some (level,coords)) : '/' ∉ level.toList := by
  rw [(chunkKeyGridCoords_some parsed).1,String.toList_ofList]
  intro member
  exact absurd (List.all_eq_true.mp List.all_takeWhile _ member) (by decide)

def levelParts (level : String) : List (List Char) := [PathPart.ofText level.toList].filter (· ≠ [])

theorem toList_chunkGridStorePath (level : String) (coords : List Nat) :
    (chunkGridStorePath level coords).toList =
      level.toList ++ '/' :: 'c' :: '/' :: ['/'].intercalate (coords.map (Nat.toDigits 10)) := by
  have slash : "/".toList = ['/'] := rfl
  have c : "/c/".toList = ['/','c','/'] := rfl
  have digits : (coords.map toString).map String.toList = coords.map (Nat.toDigits 10) := by
    rw [List.map_map]
    exact List.map_congr_left fun n _ => by simp [Nat.toString_eq_repr]
  rw [chunkGridStorePath,String.toList_append,String.toList_append,String.toList_intercalate,slash,c,digits]
  simp

-- The parts of a grid path. Without a coordinate the last part is empty.
theorem splitOn_chunkGridStorePath (slashless : '/' ∉ level.toList) (coords : List Nat) :
    (chunkGridStorePath level coords).toList.splitOn '/' =
      level.toList::['c']::(if coords = [] then [[]] else coords.map (Nat.toDigits 10)) := by
  rw [toList_chunkGridStorePath,List.splitOn_append_cons_self_of_not_mem slashless]
  have plain : '/' ∉ ['c'] := by decide
  have marker := List.splitOn_append_cons_self_of_not_mem plain (['/'].intercalate (coords.map (Nat.toDigits 10)))
  rw [List.singleton_append] at marker
  rw [marker]
  split
  · rename_i empty
    rw [empty]
    rfl
  · rename_i some
    rw [splitOn_join (by simpa using some)]
    intro part member
    obtain ⟨n,_,rfl⟩ := List.mem_map.mp member
    exact slash_notMem_toDigits n

theorem pathFrom_chunkGridStorePath (slashless : '/' ∉ level.toList) (coords : List Nat) :
    pathFrom (chunkGridStorePath level coords) =
      String.ofList (['/'].intercalate (levelParts level ++ ['c']::coords.map (Nat.toDigits 10))) := by
  have kept : ((coords.map (Nat.toDigits 10)).map PathPart.ofText).filter (· ≠ []) = coords.map (Nat.toDigits 10) := by
    rw [List.map_map,List.filter_eq_self.mpr]
    · exact List.map_congr_left fun n _ => ofText_digits fun c member => toDigits_isDigit member
    · intro part member
      obtain ⟨n,_,rfl⟩ := List.mem_map.mp member
      rw [Function.comp_apply,ofText_digits fun c member => toDigits_isDigit member]
      simp
  have marker : PathPart.ofText ['c'] = ['c'] := by decide
  unfold pathFrom levelParts
  rw [splitOn_chunkGridStorePath slashless]
  congr 2
  rw [List.map_cons,List.map_cons,marker,List.filter_cons,List.filter_cons_of_pos (by decide)]
  have tail : ((if coords = [] then [[]] else coords.map (Nat.toDigits 10)).map PathPart.ofText).filter (· ≠ []) =
      coords.map (Nat.toDigits 10) := by
    split
    · rename_i empty
      rw [empty]
      rfl
    · exact kept
  rw [tail,List.filter_cons,List.filter_nil]
  split <;> rfl

theorem parts_of_pathFrom (slashless : '/' ∉ level.toList) (coords : List Nat) :
    (pathFrom (chunkGridStorePath level coords)).toList.splitOn '/' = levelParts level ++ ['c']::coords.map (Nat.toDigits 10) := by
  rw [pathFrom_chunkGridStorePath slashless,String.toList_ofList]
  refine splitOn_join (by simp) ?_
  intro part member
  rcases List.mem_append.mp member with first | rest
  · rw [List.mem_singleton.mp (List.mem_of_mem_filter first)]
    exact slash_notMem_ofText slashless
  · rcases List.mem_cons.mp rest with rfl | digits
    · decide
    · obtain ⟨n,_,rfl⟩ := List.mem_map.mp digits
      exact slash_notMem_toDigits n

theorem coords_of_pathFrom (slashless : '/' ∉ level.toList) (slashless' : '/' ∉ level'.toList)
    (paired : coords.length = coords'.length)
    (same : pathFrom (chunkGridStorePath level coords) = pathFrom (chunkGridStorePath level' coords')) : coords = coords' := by
  have parts := congrArg (fun text : String => text.toList.splitOn '/') same
  simp only [parts_of_pathFrom slashless,parts_of_pathFrom slashless'] at parts
  have lengths : (['c']::coords.map (Nat.toDigits 10)).length = (['c']::coords'.map (Nat.toDigits 10)).length := by
    rw [List.length_cons,List.length_cons,List.length_map,List.length_map,paired]
  have digits := List.cons.inj (List.append_inj_right' parts lengths)
  exact List.map_injective_iff.mpr (fun _ _ equal => toDigits_injective equal) digits.2

end Paths
end Lucida.Store
