import Mathlib.Data.List.Basic
import Mathlib.Data.List.TakeWhile
import Lucida.Lib.Text

namespace Lucida.Content
open Lib

-- `str::find`: what stands before the first occurrence of the pattern, and the text from there on.
def cutAt (pattern : List Char) : List Char → Option (List Char × List Char)
  | [] => if pattern.isPrefixOf [] then some ([],[]) else none
  | c::rest =>
    if pattern.isPrefixOf (c::rest) then some ([],c::rest)
    else (cutAt pattern rest).map fun found => (c::found.1,found.2)

def eqIgnoreAsciiCase (a b : List Char) : Bool := a.map Char.toLower = b.map Char.toLower

def hasScheme (s scheme : List Char) : Bool :=
  eqIgnoreAsciiCase (s.take scheme.length) scheme && "://".toList.isPrefixOf (s.drop scheme.length)

def isRemoteScheme (s : List Char) : Bool :=
  hasScheme s "gs".toList || hasScheme s "s3".toList || hasScheme s "http".toList || hasScheme s "https".toList

def shapedLikeScheme (scheme : List Char) : Bool :=
  scheme.head?.any Char.isAlpha && scheme.all fun c => c.isAlphanum || c = '+' || c = '-' || c = '.'

def lowercaseScheme (s : List Char) : List Char :=
  match cutAt "://".toList s with
  | none => s
  | some (scheme,rest) =>
    if !shapedLikeScheme scheme || !scheme.any Char.isUpper then s else scheme.map Char.toLower ++ rest

def stripFileUri (raw : List Char) : List Char :=
  if !"file://".toList.isPrefixOf raw then raw
  else
    let afterScheme := raw.drop "file://".toList.length
    if "\\\\".toList.isPrefixOf afterScheme then afterScheme
    -- the marker of a UNC path, for the caller
    else if "//".toList.isPrefixOf afterScheme then "\\\\".toList ++ afterScheme.dropWhile (· = '/')
    else afterScheme.dropWhile (· = '/')

def swapBackslash (c : Char) : Char := if c = '\\' then '/' else c

def isSeparator (c : Char) : Bool := c = '\\' || c = '/'

def canonicalizeDriveLetter : List Char → Option (List Char)
  | letter :: ':' :: rest =>
    if !letter.isAlpha then none
    else if rest.isEmpty then some [letter.toLower,':']
    else some (letter.toLower :: ':' :: '/' :: (rest.dropWhile isSeparator).map swapBackslash)
  | _ => none

-- What `normalize_dataset_url` makes of a path, once the scheme is gone.
def canonicalPath (stripped : List Char) : List Char :=
  if "\\\\".toList.isPrefixOf stripped then stripped.map swapBackslash
  else (canonicalizeDriveLetter stripped).getD stripped

def normalized (raw : List Char) : List Char :=
  if raw.isEmpty then []
  else
    let raw := lowercaseScheme raw
    if isRemoteScheme raw then raw else canonicalPath (stripFileUri raw)

def normalizeDatasetUrl (raw : String) : String := String.ofList (normalized raw.toList)

def isDriveLetterCanonical : List Char → Bool
  | letter :: ':' :: rest => letter.isLower && (rest.isEmpty || rest.head? = some '/')
  | _ => false

def isLocal (canonical : List Char) : Bool :=
  if canonical.isEmpty then false
  else if isRemoteScheme canonical then false
  else "//".toList.isPrefixOf canonical || isDriveLetterCanonical canonical || "/".toList.isPrefixOf canonical

def isLocalDatasetUrl (canonical : String) : Bool := isLocal canonical.toList

-- A text that begins with a scheme and `://`.
def Opens (scheme rest s : List Char) : Prop := s = scheme ++ "://".toList ++ rest ∧ shapedLikeScheme scheme = true

section Schemes
variable {scheme rest s : List Char} {c : Char}

theorem shaped_char (shaped : shapedLikeScheme scheme = true) (member : c ∈ scheme) :
    (c.isAlphanum || c = '+' || c = '-' || c = '.') = true := by
  simp only [shapedLikeScheme,Bool.and_eq_true] at shaped
  exact List.all_eq_true.mp shaped.2 c member

theorem shaped_no_colon (shaped : shapedLikeScheme scheme = true) : ':' ∉ scheme := fun member => absurd (shaped_char shaped member) (by decide)

theorem shaped_head (shaped : shapedLikeScheme scheme = true) : ∃ letter tail, scheme = letter::tail ∧ letter.isAlpha = true := by
  cases scheme with
  | nil => simp [shapedLikeScheme] at shaped
  | cons letter tail =>
    simp only [shapedLikeScheme,List.head?_cons,Option.any_some,Bool.and_eq_true] at shaped
    exact ⟨letter,tail,rfl,shaped.1⟩

theorem shaped_toLower (shaped : shapedLikeScheme scheme = true) : shapedLikeScheme (scheme.map Char.toLower) = true := by
  obtain ⟨letter,tail,rfl,alpha⟩ := shaped_head shaped
  simp only [shapedLikeScheme,List.map_cons,List.head?_cons,Option.any_some,isAlpha_toLower,alpha,Bool.true_and]
  rw [← List.map_cons,List.all_map,List.all_eq_true]
  intro c member
  have allowed := shaped_char shaped member
  cases upper : c.isUpper with
  | true => simp [Char.isAlphanum,isAlpha_eq,isLower_toLower upper]
  | false => rwa [Function.comp_apply,toLower_of_not_upper upper]

theorem cutAt_opens (plain : ':' ∉ scheme) (rest : List Char) :
    cutAt "://".toList (scheme ++ "://".toList ++ rest) = some (scheme,"://".toList ++ rest) := by
  induction scheme with
  | nil => rfl
  | cons c scheme ih =>
    obtain ⟨other,plain⟩ := not_or.mp (List.mem_cons.not.mp plain)
    have skipped : ("://".toList).isPrefixOf (c::(scheme ++ "://".toList ++ rest)) = false := by
      change (':' == c && _) = false
      rw [beq_false_of_ne other,Bool.false_and]
    change cutAt _ (c::(scheme ++ "://".toList ++ rest)) = _
    rw [cutAt,skipped,ih plain]
    rfl

theorem cutAt_some (found : cutAt pattern s = some (scheme,rest)) : s = scheme ++ rest ∧ pattern <+: rest := by
  induction s generalizing scheme with
  | nil =>
    rw [cutAt] at found
    split at found
    · rename_i here
      cases found
      exact ⟨rfl,List.isPrefixOf_iff_prefix.mp here⟩
    · cases found
  | cons c s ih =>
    rw [cutAt] at found
    split at found
    · rename_i here
      cases found
      exact ⟨rfl,List.isPrefixOf_iff_prefix.mp here⟩
    · obtain ⟨later,cut,same⟩ := Option.map_eq_some_iff.mp found
      cases same
      obtain ⟨whole,here⟩ := ih cut
      exact ⟨congrArg (c::·) whole,here⟩

theorem map_toLower_of_no_upper (lower : scheme.any Char.isUpper = false) : scheme.map Char.toLower = scheme := by
  rw [List.any_eq_false] at lower
  exact (List.map_congr_left fun c member => toLower_of_not_upper (Bool.eq_false_iff.mpr (lower c member))).trans (List.map_id _)

theorem lowercaseScheme_opens (opens : Opens scheme rest s) :
    lowercaseScheme s = scheme.map Char.toLower ++ "://".toList ++ rest := by
  obtain ⟨rfl,shaped⟩ := opens
  rw [lowercaseScheme,cutAt_opens (shaped_no_colon shaped)]
  dsimp only
  rw [shaped,Bool.not_true,Bool.false_or]
  split
  · rename_i lower
    rw [map_toLower_of_no_upper (by simpa using lower)]
  · exact (List.append_assoc _ _ _).symm

theorem lowercaseScheme_plain (plain : ∀ scheme rest, ¬Opens scheme rest s) : lowercaseScheme s = s := by
  unfold lowercaseScheme
  split
  · rfl
  · rename_i scheme rest cut
    obtain ⟨whole,tail,rfl⟩ := cutAt_some cut
    have unshaped : shapedLikeScheme scheme = false :=
      Bool.eq_false_iff.mpr fun shaped => plain scheme tail ⟨by rw [whole,List.append_assoc],shaped⟩
    rw [unshaped]
    rfl

theorem lowercaseScheme_idempotent (s : List Char) : lowercaseScheme (lowercaseScheme s) = lowercaseScheme s := by
  by_cases opens : ∃ scheme rest, Opens scheme rest s
  · obtain ⟨scheme,rest,opens⟩ := opens
    rw [lowercaseScheme_opens opens,lowercaseScheme_opens ⟨rfl,shaped_toLower opens.2⟩,List.map_map]
    congr 3
    exact funext toLower_toLower
  · have plain := lowercaseScheme_plain fun scheme rest open' => opens ⟨scheme,rest,open'⟩
    rw [plain,plain]

theorem not_opens_of_head (other : c.isAlpha = false) : ¬Opens scheme rest (c::s) := by
  intro ⟨whole,shaped⟩
  obtain ⟨letter,tail,rfl,alpha⟩ := shaped_head shaped
  cases whole
  rw [alpha] at other
  cases other

end Schemes

def IsUnc (path : List Char) : Prop := ∃ rest, path = '\\' :: '\\' :: rest

def IsDrive (path : List Char) : Prop := ∃ letter rest, path = letter :: ':' :: rest ∧ letter.isAlpha = true

section Settled
variable {path : List Char} {c : Char}

theorem unc_iff : "\\\\".toList.isPrefixOf path = true ↔ IsUnc path := by
  rw [List.isPrefixOf_iff_prefix]
  exact ⟨fun ⟨rest,whole⟩ => ⟨rest,whole.symm⟩,fun ⟨rest,whole⟩ => ⟨rest,whole.symm⟩⟩

theorem stripFileUri_of_not (other : "file://".toList.isPrefixOf path = false) : stripFileUri path = path := by
  rw [stripFileUri,other]
  rfl

theorem canonicalizeDriveLetter_none (other : ¬IsDrive path) : canonicalizeDriveLetter path = none := by
  unfold canonicalizeDriveLetter
  split
  · rename_i letter rest
    rw [if_pos]
    simpa using fun alpha => other ⟨letter,rest,rfl,alpha⟩
  · rfl

theorem canonicalPath_plain (unc : ¬IsUnc path) (drive : ¬IsDrive path) : canonicalPath path = path := by
  rw [canonicalPath,if_neg (unc_iff.not.mpr unc),canonicalizeDriveLetter_none drive,Option.getD_none]

theorem normalized_plain (plain : ∀ scheme rest, ¬Opens scheme rest path) (unc : ¬IsUnc path) (drive : ¬IsDrive path) :
    normalized path = path := by
  have other : "file://".toList.isPrefixOf path = false := by
    rw [Bool.eq_false_iff,ne_eq,List.isPrefixOf_iff_prefix]
    intro ⟨rest,whole⟩
    exact plain "file".toList rest ⟨whole.symm,rfl⟩
  unfold normalized
  split
  · rename_i empty
    exact (List.isEmpty_iff.mp empty).symm
  · rw [lowercaseScheme_plain plain]
    dsimp only
    rw [stripFileUri_of_not other,canonicalPath_plain unc drive,ite_self]

theorem normalized_slash (path : List Char) : normalized ('/' :: path) = '/' :: path := by
  apply normalized_plain
  · exact fun scheme rest => not_opens_of_head (by decide)
  · intro ⟨rest,whole⟩
    cases whole
  · intro ⟨letter,rest,whole,alpha⟩
    cases whole
    cases alpha

theorem normalized_unc (unc : IsUnc path) : normalized (canonicalPath path) = canonicalPath path := by
  have swapped : canonicalPath path = path.map swapBackslash := by rw [canonicalPath,if_pos (unc_iff.mpr unc)]
  obtain ⟨rest,rfl⟩ := unc
  rw [swapped]
  exact normalized_slash _

theorem swapBackslash_ne (c : Char) : swapBackslash c ≠ '\\' := by
  unfold swapBackslash
  split
  · decide
  · assumption

-- The forms that a drive path is given: the letter and its colon, or these and a
-- path after one slash.
inductive DriveForm (letter : Char) : List Char → Prop where
  | bare : DriveForm letter [letter,':']
  | path : tail.dropWhile isSeparator = tail → tail.map swapBackslash = tail → DriveForm letter (letter :: ':' :: '/' :: tail)

theorem dropWhile_separators (rest : List Char) :
    ((rest.dropWhile isSeparator).map swapBackslash).dropWhile isSeparator = (rest.dropWhile isSeparator).map swapBackslash := by
  cases trimmed : rest.dropWhile isSeparator with
  | nil => rfl
  | cons c tail =>
    have first : isSeparator c = false := by
      have head := List.head?_dropWhile_not isSeparator rest
      rw [trimmed] at head
      simpa using head
    have same : swapBackslash c = c := if_neg (by rintro rfl; cases first)
    rw [List.map_cons,same,List.dropWhile_cons_of_neg (by simp [first])]

theorem drive_form (drive : IsDrive path) :
    ∃ letter canonical, canonicalizeDriveLetter path = some canonical ∧ DriveForm letter canonical ∧ letter.isAlpha = true ∧
      letter.toLower = letter := by
  obtain ⟨letter,rest,rfl,alpha⟩ := drive
  have lower : letter.toLower.isAlpha = true := (isAlpha_toLower letter).trans alpha
  have twice : ((rest.dropWhile isSeparator).map swapBackslash).map swapBackslash = (rest.dropWhile isSeparator).map swapBackslash := by
    rw [List.map_map]
    exact List.map_congr_left fun c _ => if_neg (swapBackslash_ne c)
  cases rest with
  | nil => exact ⟨letter.toLower,_,by rw [canonicalizeDriveLetter,alpha]; rfl,.bare,lower,toLower_toLower letter⟩
  | cons c rest =>
    exact ⟨letter.toLower,_,by rw [canonicalizeDriveLetter,alpha]; rfl,.path (dropWhile_separators _) twice,lower,toLower_toLower letter⟩

theorem DriveForm.plain {letter : Char} (form : DriveForm letter path) (scheme rest : List Char) : ¬Opens scheme rest path := by
  intro ⟨whole,shaped⟩
  obtain ⟨first,others,rfl,_⟩ := shaped_head shaped
  have colon := shaped_no_colon shaped
  cases others with
  | cons second others =>
    have same : second = ':' := by
      cases form with
      | bare =>
        injection whole with _ whole
        injection whole with same _
        exact same.symm
      | path _ _ =>
        injection whole with _ whole
        injection whole with same _
        exact same.symm
    exact colon (same ▸ List.mem_cons_of_mem _ List.mem_cons_self)
  | nil =>
    -- the path after the one slash would begin with another
    cases form with
    | bare => cases whole
    | path trimmed swapped =>
      rename_i tail
      replace whole : letter :: ':' :: '/' :: tail = first :: ':' :: '/' :: '/' :: rest := whole
      obtain ⟨_,whole⟩ : letter = first ∧ tail = '/' :: rest := by simpa only [List.cons.injEq,true_and] using whole
      rw [whole,List.dropWhile_cons_of_pos (by decide)] at trimmed
      have fewer := List.length_dropWhile_le isSeparator rest
      rw [trimmed,List.length_cons] at fewer
      omega

theorem normalized_drive (drive : IsDrive path) : normalized (canonicalPath path) = canonicalPath path := by
  obtain ⟨letter,canonical,found,form,alpha,lower⟩ := drive_form drive
  have unc : ¬IsUnc path := by
    obtain ⟨first,rest,rfl,_⟩ := drive
    intro ⟨others,whole⟩
    cases whole
  have whole : canonicalPath path = canonical := by rw [canonicalPath,if_neg (unc_iff.not.mpr unc),found,Option.getD_some]
  have other : "file://".toList.isPrefixOf canonical = false := by
    rw [Bool.eq_false_iff,ne_eq,List.isPrefixOf_iff_prefix]
    intro ⟨rest,whole⟩
    exact form.plain "file".toList rest ⟨whole.symm,rfl⟩
  have again : canonicalPath canonical = canonical := by
    cases form with
    | bare =>
      rw [canonicalPath,canonicalizeDriveLetter,alpha,lower]
      rw [if_neg (unc_iff.not.mpr (by rintro ⟨rest,whole⟩; cases whole))]
      rfl
    | path trimmed swapped =>
      rw [canonicalPath,canonicalizeDriveLetter,alpha,lower]
      rw [if_neg (unc_iff.not.mpr (by rintro ⟨rest,whole⟩; cases whole))]
      change _ :: ':' :: '/' :: ((('/' :: _).dropWhile isSeparator).map swapBackslash) = _
      rw [List.dropWhile_cons_of_pos (by decide),trimmed,swapped]
  rw [whole]
  unfold normalized
  split
  · rename_i empty
    exact (List.isEmpty_iff.mp empty).symm
  · rw [lowercaseScheme_plain form.plain]
    dsimp only
    rw [stripFileUri_of_not other,again,ite_self]

end Settled

-- A path that reads as a URI of its own, with a scheme that normalization would
-- strip or write differently.
def OpensUri (path : List Char) : Prop :=
  ∃ scheme rest, Opens scheme rest path ∧ 2 ≤ scheme.length ∧ (scheme = "file".toList ∨ scheme.any Char.isUpper = true)

-- A `file://` URI, with at most one slash more, over such a path.
def HidesUri (raw : List Char) : Prop :=
  ∃ path, (lowercaseScheme raw = "file://".toList ++ path ∨ lowercaseScheme raw = "file:///".toList ++ path) ∧ OpensUri path

section Paths
variable {path scheme rest : List Char}

theorem Opens.head (opens : Opens scheme rest path) (long : 2 ≤ scheme.length) :
    ∃ first second others, path = first::second::others ∧ first.isAlpha = true ∧ second ≠ ':' := by
  obtain ⟨rfl,shaped⟩ := opens
  obtain ⟨first,others,rfl,alpha⟩ := shaped_head shaped
  cases others with
  | nil => simp at long
  | cons second others =>
    refine ⟨first,second,_,rfl,alpha,?_⟩
    rintro rfl
    exact shaped_no_colon shaped (List.mem_cons_of_mem _ List.mem_cons_self)

theorem Opens.not_unc (opens : Opens scheme rest path) (long : 2 ≤ scheme.length) : ¬IsUnc path := by
  obtain ⟨first,second,others,rfl,alpha,_⟩ := opens.head long
  intro ⟨rest,whole⟩
  cases whole
  cases alpha

theorem Opens.not_drive (opens : Opens scheme rest path) (long : 2 ≤ scheme.length) : ¬IsDrive path := by
  obtain ⟨first,second,others,rfl,_,other⟩ := opens.head long
  intro ⟨letter,rest,whole,_⟩
  cases whole
  exact other rfl

theorem Opens.not_slash (opens : Opens scheme rest path) (long : 2 ≤ scheme.length) (others : List Char) : path ≠ '/' :: others := by
  obtain ⟨first,second,_,rfl,alpha,_⟩ := opens.head long
  intro whole
  cases whole
  cases alpha

theorem Opens.unique (opens : Opens scheme rest path) (again : Opens scheme' rest' path) : scheme = scheme' := by
  have cut := cutAt_opens (shaped_no_colon opens.2) rest
  have cut' := cutAt_opens (shaped_no_colon again.2) rest'
  rw [← opens.1] at cut
  rw [← again.1] at cut'
  cases cut.symm.trans cut'
  rfl

theorem Opens.long (opens : Opens scheme rest path) (drive : ¬IsDrive path) : 2 ≤ scheme.length := by
  obtain ⟨rfl,shaped⟩ := opens
  obtain ⟨first,others,rfl,alpha⟩ := shaped_head shaped
  cases others with
  | nil => exact absurd ⟨first,_,rfl,alpha⟩ drive
  | cons second others => simp

theorem length_canonicalPath_le (path : List Char) : (canonicalPath path).length ≤ path.length+1 := by
  unfold canonicalPath
  split
  · rw [List.length_map]
    exact Nat.le_succ _
  · unfold canonicalizeDriveLetter
    split
    · rename_i letter rest _
      have fewer := List.length_dropWhile_le isSeparator rest
      split
      · simp
      · split
        · simp only [Option.getD_some,List.length_cons,List.length_nil]
          omega
        · simp only [Option.getD_some,List.length_cons,List.length_map]
          omega
    · exact Nat.le_succ _

theorem length_stripFileUri_le (path : List Char) : (stripFileUri ("file://".toList ++ path)).length ≤ path.length+2 := by
  unfold stripFileUri
  have file : "file://".toList.isPrefixOf ("file://".toList ++ path) = true := List.isPrefixOf_iff_prefix.mpr ⟨path,rfl⟩
  have fewer := List.length_dropWhile_le (fun c : Char => decide (c = '/')) path
  rw [file,Bool.not_true,if_neg Bool.false_ne_true,List.drop_left]
  dsimp only
  split
  · omega
  · split
    · rw [List.length_append]
      change 2+_ ≤ _
      omega
    · omega

theorem Opens.filled (opens : Opens scheme rest path) (long : 2 ≤ scheme.length) : path.isEmpty = false := by
  obtain ⟨first,second,others,rfl,_,_⟩ := opens.head long
  rfl

theorem Opens.lowered (opens : Opens scheme rest path) : Opens (scheme.map Char.toLower) rest (lowercaseScheme path) :=
  ⟨lowercaseScheme_opens opens,shaped_toLower opens.2⟩

theorem Opens.file (opens : Opens scheme rest path) (long : 2 ≤ scheme.length)
    (file : "file://".toList.isPrefixOf (lowercaseScheme path) = true) : normalized path ≠ path ∧ OpensUri path := by
  obtain ⟨tail,whole⟩ := List.isPrefixOf_iff_prefix.mp file
  have named : scheme.map Char.toLower = "file".toList := opens.lowered.unique ⟨whole.symm,rfl⟩
  constructor
  · have same : (lowercaseScheme path).length = path.length := by
      rw [lowercaseScheme_opens opens,opens.1]
      simp
    have shorter : (canonicalPath (stripFileUri (lowercaseScheme path))).length < path.length := by
      have stripped := length_stripFileUri_le tail
      have canonical := length_canonicalPath_le (stripFileUri ("file://".toList ++ tail))
      rw [← same,← whole,List.length_append]
      change _ < 7+tail.length
      omega
    have here : isRemoteScheme (lowercaseScheme path) = false := by
      rw [← whole]
      rfl
    rw [normalized,opens.filled long,if_neg Bool.false_ne_true]
    dsimp only
    rw [here,if_neg Bool.false_ne_true]
    exact fun settled => shorter.ne (congrArg List.length settled)
  · refine ⟨scheme,rest,opens,long,?_⟩
    cases upper : scheme.any Char.isUpper with
    | true => exact .inr rfl
    | false => exact .inl (map_toLower_of_no_upper upper ▸ named)

theorem Opens.other (opens : Opens scheme rest path) (long : 2 ≤ scheme.length)
    (other : "file://".toList.isPrefixOf (lowercaseScheme path) = false) :
    normalized path = scheme.map Char.toLower ++ "://".toList ++ rest := by
  have long' : 2 ≤ (scheme.map Char.toLower).length := by rwa [List.length_map]
  rw [normalized,opens.filled long,if_neg Bool.false_ne_true]
  dsimp only
  rw [stripFileUri_of_not other,canonicalPath_plain (opens.lowered.not_unc long') (opens.lowered.not_drive long'),ite_self]
  exact lowercaseScheme_opens opens

theorem normalized_path_iff (unc : ¬IsUnc path) (drive : ¬IsDrive path) : normalized path = path ↔ ¬OpensUri path := by
  by_cases some : ∃ scheme rest, Opens scheme rest path
  · obtain ⟨scheme,rest,opens⟩ := some
    have long := opens.long drive
    cases file : "file://".toList.isPrefixOf (lowercaseScheme path) with
    | true =>
      obtain ⟨moved,hidden⟩ := opens.file long file
      exact ⟨fun settled => absurd settled moved,fun closed => absurd hidden closed⟩
    | false =>
      rw [opens.other long file]
      constructor
      · rintro settled ⟨scheme',rest',opens',_,named⟩
        cases opens.unique opens'
        have lower : scheme.map Char.toLower = scheme := by
          rw [opens.1] at settled
          exact List.append_cancel_right (List.append_cancel_right settled)
        rcases named with rfl | upper
        · rw [lowercaseScheme_opens opens] at file
          cases file
        · obtain ⟨c,member,capital⟩ := List.any_eq_true.mp upper
          rw [← lower] at member
          obtain ⟨c,_,rfl⟩ := List.mem_map.mp member
          rw [not_upper_toLower] at capital
          cases capital
      · intro closed
        have lower : scheme.any Char.isUpper = false :=
          Bool.eq_false_iff.mpr fun upper => closed ⟨scheme,rest,opens,long,.inr upper⟩
        rw [map_toLower_of_no_upper lower,opens.1]
  · have plain : ∀ scheme rest, ¬Opens scheme rest path := fun scheme rest opens => some ⟨scheme,rest,opens⟩
    refine ⟨fun _ opens => ?_,fun _ => normalized_plain plain unc drive⟩
    obtain ⟨scheme,rest,opens,_⟩ := opens
    exact plain scheme rest opens

theorem normalized_canonicalPath (form : IsUnc path ∨ IsDrive path) : normalized (canonicalPath path) = canonicalPath path := by
  rcases form with unc | drive
  · exact normalized_unc unc
  · exact normalized_drive drive

end Paths

section Idempotence
variable {raw afterScheme path : List Char}

theorem stripFileUri_cases (afterScheme : List Char) :
    (IsUnc (stripFileUri ("file://".toList ++ afterScheme)) ∧ (IsUnc afterScheme ∨ ∃ rest, afterScheme = '/' :: '/' :: rest)) ∨
      ∃ path, stripFileUri ("file://".toList ++ afterScheme) = path ∧ (afterScheme = path ∨ afterScheme = '/' :: path) ∧
        ∀ rest, path ≠ '/' :: rest := by
  have file : "file://".toList.isPrefixOf ("file://".toList ++ afterScheme) = true := List.isPrefixOf_iff_prefix.mpr ⟨_,rfl⟩
  unfold stripFileUri
  rw [file,Bool.not_true,if_neg Bool.false_ne_true,List.drop_left]
  dsimp only
  split
  · rename_i marked
    exact .inl ⟨unc_iff.mp marked,.inl (unc_iff.mp marked)⟩
  · split
    · rename_i slashes
      obtain ⟨rest,whole⟩ := List.isPrefixOf_iff_prefix.mp slashes
      exact .inl ⟨⟨_,rfl⟩,.inr ⟨rest,whole.symm⟩⟩
    · rename_i slashes
      refine .inr ⟨_,rfl,?_⟩
      cases afterScheme with
      | nil => exact ⟨.inl rfl,fun rest whole => by cases whole⟩
      | cons first others =>
        by_cases slash : first = '/'
        · subst slash
          rw [List.dropWhile_cons_of_pos (by decide)]
          have alone : others.dropWhile (· = '/') = others := by
            cases others with
            | nil => rfl
            | cons second others =>
              have other : second ≠ '/' := by
                rintro rfl
                exact slashes rfl
              exact List.dropWhile_cons_of_neg (by simpa using other)
          rw [alone]
          refine ⟨.inr rfl,?_⟩
          rintro rest rfl
          exact slashes rfl
        · rw [List.dropWhile_cons_of_neg (by simpa using slash)]
          refine ⟨.inl rfl,?_⟩
          rintro rest whole
          exact slash (List.cons.inj whole).1

theorem hidesUri_iff (whole : lowercaseScheme raw = "file://".toList ++ afterScheme) :
    HidesUri raw ↔ ∃ path, (afterScheme = path ∨ afterScheme = '/' :: path) ∧ OpensUri path := by
  unfold HidesUri
  rw [whole]
  have slashed : ∀ path, "file:///".toList ++ path = "file://".toList ++ '/' :: path := fun _ => rfl
  simp only [slashed,List.append_cancel_left_eq]

-- The second pass sees what the first one left: a remote URL or a path with its scheme
-- lowercased is left alone, and so are the two forms a path can be given.
theorem normalized_again (filled : raw.isEmpty = false) (other : "file://".toList.isPrefixOf (lowercaseScheme raw) = false) :
    normalized (normalized raw) = normalized raw := by
  have once : normalized raw = if isRemoteScheme (lowercaseScheme raw) then lowercaseScheme raw else canonicalPath (lowercaseScheme raw) := by
    rw [normalized,filled,if_neg Bool.false_ne_true]
    dsimp only
    rw [stripFileUri_of_not other]
  have lowered : normalized (lowercaseScheme raw) =
      if isRemoteScheme (lowercaseScheme raw) then lowercaseScheme raw else canonicalPath (lowercaseScheme raw) := by
    cases empty : (lowercaseScheme raw).isEmpty with
    | true =>
      rw [List.isEmpty_iff.mp empty]
      rfl
    | false =>
      rw [normalized,empty,if_neg Bool.false_ne_true]
      dsimp only
      rw [lowercaseScheme_idempotent,stripFileUri_of_not other]
  rw [once]
  split
  · rename_i remote
    rw [lowered,if_pos remote]
  · rename_i here
    by_cases form : IsUnc (lowercaseScheme raw) ∨ IsDrive (lowercaseScheme raw)
    · exact normalized_canonicalPath form
    · obtain ⟨unc,drive⟩ := not_or.mp form
      rw [canonicalPath_plain unc drive,lowered,if_neg here,canonicalPath_plain unc drive]

theorem normalized_twice_iff (raw : List Char) : normalized (normalized raw) = normalized raw ↔ ¬HidesUri raw := by
  cases file : "file://".toList.isPrefixOf (lowercaseScheme raw) with
  | false =>
    have plain : ¬HidesUri raw := by
      rintro ⟨path,whole | whole,_⟩
      · rw [whole] at file
        cases file
      · rw [whole] at file
        cases file
    refine ⟨fun _ => plain,fun _ => ?_⟩
    cases raw with
    | nil => rfl
    | cons first others => exact normalized_again rfl file
  | true =>
    obtain ⟨afterScheme,whole⟩ := List.isPrefixOf_iff_prefix.mp file
    have once : normalized raw = canonicalPath (stripFileUri ("file://".toList ++ afterScheme)) := by
      cases raw with
      | nil => cases file
      | cons first others =>
        rw [normalized,List.isEmpty_cons,if_neg Bool.false_ne_true,← whole]
        rfl
    rw [once,hidesUri_iff whole.symm]
    rcases stripFileUri_cases afterScheme with ⟨marked,origin⟩ | ⟨path,stripped,origin,slashless⟩
    · refine ⟨fun _ => ?_,fun _ => normalized_canonicalPath (.inl marked)⟩
      rintro ⟨path,same,scheme,rest,opens,long,_⟩
      rcases origin with unc | ⟨tail,slashes⟩
      · rcases same with rfl | rfl
        · exact opens.not_unc long unc
        · obtain ⟨_,whole⟩ := unc
          cases whole
      · rcases same with rfl | rfl
        · exact opens.not_slash long _ slashes
        · exact opens.not_slash long _ (List.cons.inj slashes).2
    · rw [stripped]
      have only : (∃ path, (afterScheme = path ∨ afterScheme = '/' :: path) ∧ OpensUri path) ↔ OpensUri path := by
        refine ⟨?_,fun opens => ⟨path,origin,opens⟩⟩
        rintro ⟨other,same,uri⟩
        have ⟨scheme,rest,opens,long,_⟩ := uri
        rcases origin with rfl | rfl
        · rcases same with rfl | slashed
          · exact uri
          · exact absurd slashed (slashless other)
        · rcases same with rfl | slashed
          · exact absurd rfl (opens.not_slash long path)
          · cases slashed
            exact uri
      rw [only]
      by_cases form : IsUnc path ∨ IsDrive path
      · refine ⟨fun _ => ?_,fun _ => normalized_canonicalPath form⟩
        rintro ⟨scheme,rest,opens,long,_⟩
        rcases form with unc | drive
        · exact opens.not_unc long unc
        · exact opens.not_drive long drive
      · obtain ⟨unc,drive⟩ := not_or.mp form
        rw [canonicalPath_plain unc drive]
        exact normalized_path_iff unc drive

theorem normalize_dataset_url_idempotent_iff (s : String) :
    normalizeDatasetUrl (normalizeDatasetUrl s) = normalizeDatasetUrl s ↔ ¬HidesUri s.toList := by
  rw [← normalized_twice_iff]
  simp only [normalizeDatasetUrl,String.toList_ofList,String.ofList_inj]

theorem nested_scheme_is_lowered_later : ¬∀ s, normalizeDatasetUrl (normalizeDatasetUrl s) = normalizeDatasetUrl s := by
  intro idempotent
  have once : normalizeDatasetUrl "file://GS://bucket" = "GS://bucket" := by decide
  have twice : normalizeDatasetUrl "GS://bucket" = "gs://bucket" := by decide
  have settled := idempotent "file://GS://bucket"
  rw [once,twice] at settled
  exact absurd settled (by decide)

end Idempotence

-- One leading slash, no drive behind it, no percent escape and no slash at the end.
structure UnixAbsolute (path : List Char) : Prop where
  rooted : ∃ first rest, path = '/' :: first::rest ∧ first ≠ '/' ∧ ¬IsDrive (first::rest)
  unescaped : '%' ∉ path
  open' : path.getLast? ≠ some '/'

-- The path and its `file://` URI are one local path.
def SameLocalPath (path : String) : Prop :=
  normalizeDatasetUrl ("file://" ++ path) = normalizeDatasetUrl path ∧ isLocalDatasetUrl (normalizeDatasetUrl path) = true ∧
    isLocalDatasetUrl (normalizeDatasetUrl ("file://" ++ path)) = true

section FileUris
variable {path rest : List Char}

theorem length_canonicalPath (drive : ¬IsDrive path) : (canonicalPath path).length = path.length := by
  unfold canonicalPath
  split
  · exact List.length_map _
  · rw [canonicalizeDriveLetter_none drive,Option.getD_none]

-- The slash of the root goes with those of the scheme.
theorem normalized_file_uri {first : Char} (slashless : first ≠ '/') :
    normalized ("file://".toList ++ '/' :: first::rest) = canonicalPath (first::rest) := by
  have lowered : lowercaseScheme ("file://".toList ++ '/' :: first::rest) = "file://".toList ++ '/' :: first::rest := by
    have opens : Opens "file".toList ('/' :: first::rest) ("file://".toList ++ '/' :: first::rest) := ⟨rfl,rfl⟩
    exact lowercaseScheme_opens opens
  have stripped : stripFileUri ("file://".toList ++ '/' :: first::rest) = first::rest := by
    rcases stripFileUri_cases ('/' :: first::rest) with ⟨_,⟨_,whole⟩ | ⟨_,whole⟩⟩ | ⟨path,found,whole | whole,slashed⟩
    · cases whole
    · cases whole
      exact absurd rfl slashless
    · exact absurd whole.symm (slashed _)
    · cases whole
      exact found
  unfold normalized
  rw [lowered]
  dsimp only
  rw [stripped]
  rfl

theorem file_uri_loses_the_root (path : String) (absolute : UnixAbsolute path.toList) : ¬SameLocalPath path := by
  intro ⟨same,_,_⟩
  obtain ⟨first,rest,whole,slashless,drive⟩ := absolute.rooted
  simp only [normalizeDatasetUrl,String.ofList_inj,String.toList_append,whole] at same
  rw [normalized_file_uri slashless,normalized_slash] at same
  have shorter := congrArg List.length same
  rw [length_canonicalPath drive] at shorter
  exact absurd shorter (Nat.lt_succ_self _).ne

theorem file_uri_of_data_loses_the_root : UnixAbsolute "/data/scan.zarr".toList ∧ ¬SameLocalPath "/data/scan.zarr" := by
  have absolute : UnixAbsolute "/data/scan.zarr".toList :=
    ⟨⟨'d',"ata/scan.zarr".toList,rfl,by decide,fun ⟨_,_,whole,_⟩ => by cases whole⟩,by decide,by decide⟩
  exact ⟨absolute,file_uri_loses_the_root "/data/scan.zarr" absolute⟩

theorem file_uri_becomes_relative :
    ¬∀ path : String, UnixAbsolute path.toList → SameLocalPath path := by
  intro all
  have absolute : UnixAbsolute "/data".toList :=
    ⟨⟨'d',"ata".toList,rfl,by decide,fun ⟨_,_,whole,_⟩ => by cases whole⟩,by decide,by decide⟩
  exact absurd (all "/data" absolute).1 (by decide)

end FileUris

end Lucida.Content
