import Mathlib

-- Swapping two neighbours that are out of order, the step of the exchange sorts.

instance uint16LinearOrder : LinearOrder UInt16 where
  le_refl := UInt16.le_refl
  le_trans _ _ _ := UInt16.le_trans
  le_antisymm _ _ := UInt16.le_antisymm
  le_total := UInt16.le_total
  lt_iff_le_not_ge a b := by
    rw [UInt16.lt_iff_toNat_lt,UInt16.le_iff_toNat_le,UInt16.le_iff_toNat_le]
    omega
  toDecidableLE := inferInstance
  toDecidableLT := inferInstance
  toDecidableEq := inferInstance

namespace SwapScan

variable {α : Type*}

theorem set_set_succ {l : List α} {i : Nat} (inside : i + 1 < l.length) (x y : α) :
    (l.set i x).set (i + 1) y = l.take i ++ x :: y :: l.drop (i + 2) := by
  induction l generalizing i with
  | nil => cases inside
  | cons a rest ih =>
    cases i with
    | zero =>
      obtain ⟨b,rest,rfl⟩ : ∃ b tail, rest = b :: tail := List.exists_cons_of_length_pos (by simp at inside; omega)
      rfl
    | succ i =>
      rw [List.set_cons_succ,List.set_cons_succ,ih (by simp at inside; omega)]
      rfl

theorem eq_take_append_drop {l : List α} {i : Nat} (inside : i + 1 < l.length) :
    l = l.take i ++ l[i] :: l[i + 1] :: l.drop (i + 2) := by
  rw [← List.drop_eq_getElem_cons,← List.drop_eq_getElem_cons,List.take_append_drop]

section Frame

variable {l : List α} {i : Nat} (inside : i + 1 < l.length)
include inside

theorem drop_swap {m : Nat} (within : i + 1 < m) : ((l.set i l[i + 1]).set (i + 1) l[i]).drop m = l.drop m := by
  rw [List.drop_set_of_lt within,List.drop_set_of_lt (by omega)]

theorem length_swap : ((l.set i l[i + 1]).set (i + 1) l[i]).length = l.length := by
  simp

theorem perm_swap : List.Perm ((l.set i l[i + 1]).set (i + 1) l[i]) l := by
  rw [set_set_succ inside]
  exact ((List.Perm.swap _ _ _).append_left _).trans (List.Perm.of_eq (eq_take_append_drop inside).symm)

theorem take_perm_swap {m : Nat} (within : i + 1 < m) :
    List.Perm (((l.set i l[i + 1]).set (i + 1) l[i]).take m) (l.take m) := by
  have inWindow : i + 1 < (l.take m).length := by rw [List.length_take]; omega
  have swapped := perm_swap inWindow
  simp only [List.getElem_take] at swapped
  rwa [List.take_set,List.take_set]

end Frame

variable [LinearOrder α]

-- The pairs of positions whose entries are out of order.
def inversions : List α → Nat
  | [] => 0
  | a :: rest => rest.countP (fun b => b < a) + inversions rest

theorem inversions_append_swap (front back : List α) {a b : α} (less : b < a) :
    inversions (front ++ b :: a :: back) + 1 = inversions (front ++ a :: b :: back) := by
  induction front with
  | nil =>
    have notLess : ¬a < b := not_lt_of_gt less
    simp only [List.nil_append,inversions,List.countP_cons,less,notLess,decide_true,decide_false,Bool.false_eq_true,↓reduceIte]
    omega
  | cons c front ih =>
    have same : (front ++ b :: a :: back).countP (fun x => x < c) = (front ++ a :: b :: back).countP (fun x => x < c) :=
      ((List.Perm.swap a b back).append_left front).countP_eq _
    simp only [List.cons_append,inversions,same]
    omega

section Swap

variable {l : List α} {i : Nat} (inside : i + 1 < l.length)
include inside

theorem inversions_swap (less : l[i + 1] < l[i]) : inversions ((l.set i l[i + 1]).set (i + 1) l[i]) + 1 = inversions l := by
  rw [set_set_succ inside,inversions_append_swap _ _ less,← eq_take_append_drop inside]

end Swap

theorem isChain_take_one (l : List α) : (l.take 1).IsChain (· ≤ ·) := by
  cases l with
  | nil => exact .nil
  | cons a rest => exact .singleton a

theorem isChain_take_succ {l : List α} {i : Nat} (inside : i + 1 < l.length)
    (chain : (l.take (i + 1)).IsChain (· ≤ ·)) (ordered : l[i] ≤ l[i + 1]) : (l.take (i + 2)).IsChain (· ≤ ·) := by
  rw [List.take_succ_eq_append_getElem (by omega)] at chain
  rw [List.take_succ_eq_append_getElem inside,List.take_succ_eq_append_getElem (by omega),List.append_assoc,
    List.singleton_append,List.isChain_append_cons_cons]
  exact ⟨chain,ordered,.singleton _⟩

end SwapScan
