import Mathlib.Data.List.Basic

namespace Lucida.Lib
variable {α : Type}

def sample (width : Nat) (data : List α) (i : Nat) : List α := (data.drop (i*width)).take width

def overwrite (data : List α) (start : Nat) (piece : List α) : List α :=
  data.take start ++ piece ++ data.drop (start+piece.length)

section
variable {data piece source : List α} {start width : Nat}

theorem length_overwrite (fits : start+piece.length ≤ data.length) : (overwrite data start piece).length = data.length := by
  simp only [overwrite,List.length_append,List.length_take,List.length_drop]
  omega

theorem getElem?_overwrite (fits : start+piece.length ≤ data.length) (i : Nat) :
    (overwrite data start piece)[i]? = if start ≤ i ∧ i < start+piece.length then piece[i-start]? else data[i]? := by
  have front : (data.take start).length = start := by
    rw [List.length_take]
    omega
  unfold overwrite
  by_cases before : i < start
  · rw [if_neg (by omega),List.append_assoc,List.getElem?_append_left (by omega),List.getElem?_take,if_pos before]
  · by_cases within : i < start+piece.length
    · rw [if_pos (by omega),List.getElem?_append_left (by rw [List.length_append,front]; exact within),
        List.getElem?_append_right (by omega),front]
    · rw [if_neg (by omega),List.getElem?_append_right (by rw [List.length_append,front]; omega),List.length_append,front,
        List.getElem?_drop]
      congr 1
      omega

theorem getElem?_sample (data : List α) (i j : Nat) :
    (sample width data i)[j]? = if j < width then data[i*width+j]? else none := by
  unfold sample
  rw [List.getElem?_take,List.getElem?_drop]

theorem sample_replicate (value : α) (fits : (i+1)*width ≤ n) :
    sample width (List.replicate n value) i = List.replicate width value := by
  rw [Nat.succ_mul] at fits
  simp only [sample,List.drop_replicate,List.take_replicate]
  congr 1
  omega

theorem ext_samples {data' : List α} {n : Nat} (sized : data.length = n*width) (sized' : data'.length = n*width)
    (same : ∀ i < n, sample width data i = sample width data' i) : data = data' := by
  refine List.ext_getElem? fun j => ?_
  rcases Nat.lt_or_ge j (n*width) with inside | past
  · have some : 0 < width := Nat.pos_of_ne_zero fun zero => by simp [zero] at inside
    have place : j/width*width+j%width = j := Nat.div_add_mod' j width
    have column : j%width < width := Nat.mod_lt _ some
    have read := congrArg (·[j%width]?) (same (j/width) ((Nat.div_lt_iff_lt_mul some).mpr inside))
    simpa only [getElem?_sample,if_pos column,place] using read
  · rw [List.getElem?_eq_none (by omega),List.getElem?_eq_none (by omega)]

theorem sample_overwrite {d n s : Nat} (fits : (d+n)*width ≤ data.length) (enough : (s+n)*width ≤ source.length) (i : Nat) :
    sample width (overwrite data (d*width) ((source.drop (s*width)).take (n*width))) i =
      if d ≤ i ∧ i < d+n then sample width source (s+(i-d)) else sample width data i := by
  have run : ((source.drop (s*width)).take (n*width)).length = n*width := by
    rw [List.length_take,List.length_drop]
    rw [Nat.add_mul] at enough
    omega
  have room : d*width+((source.drop (s*width)).take (n*width)).length ≤ data.length := by
    rwa [run,← Nat.add_mul]
  apply List.ext_getElem?
  intro j
  rw [getElem?_sample,getElem?_overwrite room,run]
  by_cases column : j < width
  · rw [if_pos column]
    by_cases here : d ≤ i ∧ i < d+n
    · have from' : d*width ≤ i*width := Nat.mul_le_mul_right _ here.1
      have upto : (i+1)*width ≤ (d+n)*width := Nat.mul_le_mul_right _ here.2
      rw [Nat.succ_mul,Nat.add_mul] at upto
      have place : s*width+(i*width+j-d*width) = (s+(i-d))*width+j := by
        rw [Nat.add_mul,Nat.sub_mul]
        omega
      rw [if_pos (by omega),if_pos here,List.getElem?_take,if_pos (by omega),List.getElem?_drop,place,getElem?_sample,if_pos column]
    · rw [if_neg here,getElem?_sample,if_pos column,if_neg]
      intro between
      rcases Nat.lt_or_ge i d with below | above
      · have upto : (i+1)*width ≤ d*width := Nat.mul_le_mul_right _ below
        rw [Nat.succ_mul] at upto
        omega
      · have beyond : (d+n)*width ≤ i*width := Nat.mul_le_mul_right _ (by omega)
        rw [Nat.add_mul] at beyond
        omega
  · rw [if_neg column]
    split
    · rw [getElem?_sample,if_neg column]
    · rw [getElem?_sample,if_neg column]

end

def rowMajor (rows columns z y x : Nat) : Nat := (z*rows+y)*columns+x

section
variable {rows columns z y x z' y' x' : Nat}

theorem rowMajor_lt (plane : z < planes) (row : y < rows) (column : x < columns) :
    rowMajor rows columns z y x < planes*rows*columns := by
  have line : z*rows+y+1 ≤ planes*rows := by
    have upto : (z+1)*rows ≤ planes*rows := Nat.mul_le_mul_right _ plane
    rw [Nat.succ_mul] at upto
    omega
  have upto : (z*rows+y+1)*columns ≤ planes*rows*columns := Nat.mul_le_mul_right _ line
  rw [Nat.succ_mul] at upto
  unfold rowMajor
  omega

theorem rowMajor_surjective {planes n : Nat} (inside : n < planes*rows*columns) :
    ∃ z y x, z < planes ∧ y < rows ∧ x < columns ∧ rowMajor rows columns z y x = n := by
  have someColumn : 0 < columns := Nat.pos_of_ne_zero fun zero => by simp [zero] at inside
  have line : n/columns < planes*rows := (Nat.div_lt_iff_lt_mul someColumn).mpr inside
  have someRow : 0 < rows := Nat.pos_of_ne_zero fun zero => by simp [zero] at line
  refine ⟨n/columns/rows,n/columns%rows,n%columns,(Nat.div_lt_iff_lt_mul someRow).mpr line,Nat.mod_lt _ someRow,Nat.mod_lt _ someColumn,?_⟩
  rw [rowMajor,Nat.div_add_mod',Nat.div_add_mod']

theorem line_injective {columns a a' b b' : Nat} (inside : b < columns) (inside' : b' < columns)
    (same : a*columns+b = a'*columns+b') : a = a' ∧ b = b' := by
  have first : a = a' := by
    have quotient := congrArg (· / columns) same
    have positive : 0 < columns := by omega
    simpa only [Nat.mul_comm _ columns,Nat.mul_add_div positive,Nat.div_eq_of_lt inside,Nat.div_eq_of_lt inside',Nat.add_zero] using quotient
  subst first
  exact ⟨rfl,by omega⟩

theorem place_line (a : Nat) {b columns : Nat} (inside : b < columns) : (a*columns+b)/columns = a ∧ (a*columns+b)%columns = b := by
  have some' : 0 < columns := Nat.zero_lt_of_lt inside
  rw [Nat.mul_comm]
  exact ⟨by rw [Nat.mul_add_div some',Nat.div_eq_of_lt inside,Nat.add_zero],by rw [Nat.mul_add_mod,Nat.mod_eq_of_lt inside]⟩

theorem rowMajor_injective (row : y < rows) (row' : y' < rows) (column : x < columns) (column' : x' < columns)
    (same : rowMajor rows columns z y x = rowMajor rows columns z' y' x') : z = z' ∧ y = y' ∧ x = x' := by
  obtain ⟨line,sameColumn⟩ := line_injective column column' same
  obtain ⟨plane,sameRow⟩ := line_injective row row' line
  exact ⟨plane,sameRow,sameColumn⟩

theorem rowMajor_run {first n : Nat} (z z' : Nat) (row : y < rows) (row' : y' < rows) (column : x < columns) (short : first+n ≤ columns) :
    (rowMajor rows columns z' y' first ≤ rowMajor rows columns z y x ∧
        rowMajor rows columns z y x < rowMajor rows columns z' y' first+n) ↔
      z = z' ∧ y = y' ∧ first ≤ x ∧ x < first+n := by
  unfold rowMajor
  constructor
  · intro between
    have sameLine : z*rows+y = z'*rows+y' := by
      rcases Nat.lt_trichotomy (z*rows+y) (z'*rows+y') with below | same | above
      · have upto : (z*rows+y+1)*columns ≤ (z'*rows+y')*columns := Nat.mul_le_mul_right _ below
        rw [Nat.succ_mul] at upto
        omega
      · exact same
      · have upto : (z'*rows+y'+1)*columns ≤ (z*rows+y)*columns := Nat.mul_le_mul_right _ above
        rw [Nat.succ_mul] at upto
        omega
    obtain ⟨plane,line⟩ := line_injective row row' sameLine
    rw [sameLine] at between
    exact ⟨plane,line,by omega,by omega⟩
  · intro ⟨plane,line,low,high⟩
    subst plane line
    omega

theorem getElem?_overwrite_row {data piece : List α} {planes first : Nat} (sized : data.length = planes*rows*columns) (row : y < rows)
    (plane' : z' < planes) (row' : y' < rows) (column : x < columns) (short : first+piece.length ≤ columns) :
    (overwrite data (rowMajor rows columns z' y' first) piece)[rowMajor rows columns z y x]? =
      if z = z' ∧ y = y' ∧ first ≤ x ∧ x < first+piece.length then piece[x-first]? else data[rowMajor rows columns z y x]? := by
  have line : z'*rows+y'+1 ≤ planes*rows := by
    have upto : (z'+1)*rows ≤ planes*rows := Nat.mul_le_mul_right _ plane'
    rw [Nat.succ_mul] at upto
    omega
  have upto : (z'*rows+y'+1)*columns ≤ planes*rows*columns := Nat.mul_le_mul_right _ line
  rw [Nat.succ_mul] at upto
  rw [getElem?_overwrite (by rw [sized,rowMajor]; omega)]
  refine if_ctx_congr (rowMajor_run z z' row row' column short) (fun here => ?_) fun _ => rfl
  obtain ⟨rfl,rfl,after,_⟩ := here
  congr 1
  unfold rowMajor
  omega

theorem rowMajor_add (first n : Nat) : rowMajor rows columns z y (first+n) = rowMajor rows columns z y first+n := by
  unfold rowMajor
  omega

end

end Lucida.Lib
