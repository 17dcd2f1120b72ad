import Mathlib

namespace Chunks

-- A list cut into pieces of m elements from the front; even the empty list gives
-- one (empty) piece.

variable {α : Type}

def cut (m : Nat) (l : List α) : List (List α) :=
  if 0 < m ∧ m < l.length then l.take m :: cut m (l.drop m) else [l]
termination_by l.length
decreasing_by simp; omega

theorem cut_of_lt {m : Nat} {l : List α} (positive : 0 < m) (longer : m < l.length) :
    cut m l = l.take m :: cut m (l.drop m) := by
  rw [cut,if_pos ⟨positive,longer⟩]

theorem cut_of_le {m : Nat} {l : List α} (within : l.length ≤ m) : cut m l = [l] := by
  rw [cut,if_neg (by omega)]

theorem cut_ne_nil (m : Nat) (l : List α) : cut m l ≠ [] := by
  rw [cut]
  split <;> simp

@[simp] theorem flatten_cut (m : Nat) (l : List α) : (cut m l).flatten = l := by
  induction l using cut.induct m with
  | case1 l split rest =>
    rw [cut_of_lt split.1 split.2,List.flatten_cons,rest,List.take_append_drop]
  | case2 l whole =>
    rw [cut,if_neg whole,List.flatten_singleton]

theorem length_cut {m : Nat} (positive : 0 < m) (l : List α) :
    (cut m l).length = max 1 ((l.length + m - 1) / m) := by
  induction l using cut.induct m with
  | case1 l split rest =>
    have shorter : (l.drop m).length + m - 1 + m = l.length + m - 1 := by
      rw [List.length_drop]
      omega
    have several : 1 ≤ (l.drop m).length + m - 1 := by
      rw [List.length_drop]
      omega
    rw [cut_of_lt split.1 split.2,List.length_cons,rest,← shorter,Nat.add_div_right _ positive,
      Nat.max_eq_right (Nat.one_le_div_iff positive |>.mpr (by omega))]
    exact (Nat.max_eq_right (Nat.le_add_left 1 _)).symm
  | case2 l whole =>
    have within : l.length ≤ m := by omega
    rw [cut_of_le within,List.length_singleton]
    have atMostOne : (l.length + m - 1) / m < 2 := (Nat.div_lt_iff_lt_mul positive).mpr (by omega)
    omega

theorem length_le_of_mem_cut {m : Nat} (positive : 0 < m) {l : List α} {piece : List α} :
    piece ∈ cut m l → piece.length ≤ m := by
  induction l using cut.induct m with
  | case1 l split rest =>
    intro mem
    rw [cut_of_lt split.1 split.2] at mem
    rcases List.mem_cons.mp mem with rfl | later
    · exact List.length_take_le _ _
    · exact rest later
  | case2 l whole =>
    intro mem
    rw [cut,if_neg whole,List.mem_singleton] at mem
    subst mem
    omega

theorem length_cut_add {m : Nat} (positive : 0 < m) {l : List α} (nonempty : l ≠ []) :
    (cut m l).length + (if l.length % m = 0 then 1 else 0) = l.length / m + 1 := by
  rw [length_cut positive]
  have lenPos : 0 < l.length := List.length_pos_iff.mpr nonempty
  have whole := Nat.div_add_mod l.length m
  have small := Nat.mod_lt l.length positive
  generalize l.length / m = q at whole ⊢
  generalize l.length % m = r at whole small ⊢
  generalize l.length = n at whole lenPos ⊢
  subst whole
  split_ifs with exact
  · subst exact
    have up : (m * q + 0 + m - 1) / m = q := by
      rw [show m * q + 0 + m - 1 = (m - 1) + m * q by omega,Nat.add_mul_div_left _ _ positive,
        Nat.div_eq_of_lt (by omega),zero_add]
    have atLeastOne : 1 ≤ q := by
      rcases Nat.eq_zero_or_pos q with rfl | positive'
      · simp at lenPos
      · exact positive'
    rw [up,Nat.max_eq_right atLeastOne]
  · have up : (m * q + r + m - 1) / m = q + 1 := by
      rw [show m * q + r + m - 1 = (r - 1) + m * (q + 1) by rw [Nat.mul_succ]; omega,Nat.add_mul_div_left _ _ positive,
        Nat.div_eq_of_lt (by omega),zero_add]
    rw [up,Nat.max_eq_right (by omega)]

theorem length_of_mem_dropLast_cut {m : Nat} {l : List α} {piece : List α} :
    piece ∈ (cut m l).dropLast → piece.length = m := by
  induction l using cut.induct m with
  | case1 l split rest =>
    intro mem
    rw [cut_of_lt split.1 split.2,List.dropLast_cons_of_ne_nil (cut_ne_nil _ _)] at mem
    rcases List.mem_cons.mp mem with rfl | later
    · exact List.length_take_of_le (by omega)
    · exact rest later
  | case2 l whole =>
    intro mem
    rw [cut,if_neg whole] at mem
    cases mem

-- Each piece behind a tag, the last one behind a tag of its own, as in a
-- framing that marks the packet a message ends in.
def tagLast (tag last : α) : List (List α) → List (List α)
  | [] => []
  | [piece] => [last :: piece]
  | piece :: pieces => (tag :: piece) :: tagLast tag last pieces

theorem tagLast_cons {tag last : α} {piece : List α} {pieces : List (List α)} (more : pieces ≠ []) :
    tagLast tag last (piece :: pieces) = (tag :: piece) :: tagLast tag last pieces := by
  cases pieces with
  | nil => contradiction
  | cons next rest => rfl

theorem length_tagLast (tag last : α) (pieces : List (List α)) : (tagLast tag last pieces).length = pieces.length := by
  induction pieces with
  | nil => rfl
  | cons piece pieces ih =>
    cases pieces with
    | nil => rfl
    | cons next rest => simp only [tagLast_cons (List.cons_ne_nil next rest),List.length_cons,ih]

end Chunks
