import Mathlib

namespace Ring

-- A circular array: cells read from a start index on, going back to the
-- first cell after the last.

section Arithmetic

theorem succ_wrap {b total : Nat} (lt : b < total) : (if total ≤ b + 1 then 0 else b + 1) = (b + 1) % total := by
  split
  · rename_i past
    rw [show b + 1 = total by omega,Nat.mod_self]
  · rename_i within
    exact (Nat.mod_eq_of_lt (by omega)).symm

theorem add_wrap {b n total : Nat} (lt : b < total) (le : n ≤ total) :
    (if total ≤ b + n then b + n - total else b + n) = (b + n) % total := by
  split
  · rename_i past
    rw [Nat.mod_eq_sub_mod past,Nat.mod_eq_of_lt (by omega)]
  · rename_i within
    exact (Nat.mod_eq_of_lt (by omega)).symm

theorem add_mod_ne {start k n total : Nat} (lt : k < n) (within : n < total) :
    (start + k) % total ≠ (start + n) % total := by
  intro same
  have cancelled : k ≡ n [MOD total] := Nat.ModEq.add_left_cancel' start same
  rw [Nat.ModEq,Nat.mod_eq_of_lt (by omega),Nat.mod_eq_of_lt within] at cancelled
  omega

end Arithmetic

variable {α : Type} [Inhabited α]

-- n cells from start on.
def read (cells : List α) (start n : Nat) : List α :=
  (List.range n).map fun k => cells.getD ((start + k) % cells.length) default

@[simp] theorem length_read (cells : List α) (start n : Nat) : (read cells start n).length = n := by
  simp [read]

theorem getElem_read {cells : List α} {start n k : Nat} (lt : k < (read cells start n).length) :
    (read cells start n)[k] = cells.getD ((start + k) % cells.length) default := by
  simp [read]

theorem read_zero (cells : List α) (start : Nat) : read cells start 0 = [] := rfl

theorem read_succ (cells : List α) (start n : Nat) :
    read cells start (n + 1) = read cells start n ++ [cells.getD ((start + n) % cells.length) default] := by
  simp [read,List.range_succ]

theorem read_succ_left (cells : List α) (start n : Nat) :
    read cells start (n + 1) = cells.getD (start % cells.length) default :: read cells ((start + 1) % cells.length) n := by
  simp only [read,List.range_succ_eq_map,List.map_cons,Nat.add_zero,List.map_map,List.cons.injEq,true_and]
  apply List.map_congr_left
  intro k _
  simp only [Function.comp_apply,Nat.mod_add_mod,Nat.add_assoc,Nat.add_comm 1 k,Nat.succ_eq_add_one]

theorem read_take (cells : List α) (start n m : Nat) : (read cells start n).take m = read cells start (min m n) := by
  rw [read,read,← List.map_take,List.take_range]

theorem read_drop (cells : List α) (start n m : Nat) :
    (read cells start n).drop m = read cells ((start + m) % cells.length) (n - m) := by
  apply List.ext_getElem (by simp)
  intro k inDrop inRead
  rw [List.getElem_drop,getElem_read,getElem_read,Nat.mod_add_mod,Nat.add_assoc]

theorem read_set_next (cells : List α) (start n : Nat) (x : α) (within : n < cells.length) :
    read (cells.set ((start + n) % cells.length) x) start (n + 1) = read cells start n ++ [x] := by
  have kept : read (cells.set ((start + n) % cells.length) x) start n = read cells start n := by
    apply List.map_congr_left
    intro k mem
    have other := @add_mod_ne start k n cells.length (List.mem_range.mp mem) within
    simp only [List.length_set,List.getD_eq_getElem?_getD,List.getElem?_set_ne other.symm]
  have written : (cells.set ((start + n) % cells.length) x).getD ((start + n) % cells.length) default = x := by
    simp [List.getD_eq_getElem?_getD,Nat.mod_lt _ (show 0 < cells.length by omega)]
  rw [read_succ,kept,List.length_set,written]

end Ring
