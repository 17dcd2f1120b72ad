import Mathlib

namespace SeqWindow

variable {m : Nat}

-- The count sequence numbers modulo m from base on.
def span (m base count : Nat) : List Nat := (List.range count).map fun i => (base + i) % m

-- How far b lies ahead of a, modulo m.
def distance (m a b : Nat) : Nat := (b + m - a % m) % m

@[simp] theorem span_length (base count : Nat) : (span m base count).length = count := by
  simp [span]

@[simp] theorem span_zero (base : Nat) : span m base 0 = [] := rfl

theorem span_succ (base count : Nat) : span m base (count+1) = span m base count ++ [(base+count) % m] := by
  simp [span,List.range_succ]

theorem span_cons (base count : Nat) : span m base (count+1) = base % m :: span m (base+1) count := by
  simp only [span,List.range_succ_eq_map,List.map_cons,List.map_map,Nat.add_zero,List.cons.injEq,true_and]
  apply List.map_congr_left
  intro i _
  simp only [Function.comp_apply]
  congr 1
  omega

theorem span_mod (base count : Nat) : span m (base % m) count = span m base count := by
  simp [span,Nat.mod_add_mod]

theorem span_drop (base count k : Nat) : (span m base count).drop k = span m (base+k) (count-k) := by
  induction k generalizing base count with
  | zero => rfl
  | succ k ih =>
    cases count with
    | zero => simp
    | succ count =>
      rw [span_cons,List.drop_succ_cons,ih,Nat.add_sub_add_right]
      congr 1
      omega

theorem distance_self (a : Nat) : distance m a (a % m) = 0 := by
  simp [distance]

theorem distance_add (base : Nat) {i : Nat} (small : i < m) : distance m base ((base+i) % m) = i := by
  have positive : 0 < m := by omega
  have low := Nat.mod_lt base positive
  unfold distance
  rw [Nat.add_mod]
  by_cases wraps : base % m + i % m < m
  · rw [Nat.mod_eq_of_lt wraps,Nat.mod_eq_of_lt small]
    rw [show base % m + i + m - base % m = i + m by omega,Nat.add_mod_right,Nat.mod_eq_of_lt small]
  · rw [Nat.mod_eq_of_lt small] at wraps ⊢
    have reduced : (base % m + i) % m = base % m + i - m := by
      rw [Nat.mod_eq_sub_mod (by omega),Nat.mod_eq_of_lt (by omega)]
    rw [reduced,show base % m + i - m + m - base % m = i by omega,Nat.mod_eq_of_lt small]

theorem mem_span {base count x : Nat} : x ∈ span m base count ↔ ∃ i < count, (base+i) % m = x := by
  simp [span]

theorem drop_eq_filter {α : Type} (seq : α → Nat) {entries : List α} {base : Nat} (k : Nat)
    (spans : entries.map seq = span m base entries.length) (fits : entries.length ≤ m) :
    entries.drop k = entries.filter fun entry => k ≤ distance m base (seq entry) := by
  induction entries generalizing base k with
  | nil => simp
  | cons entry rest ih =>
    rw [List.length_cons,span_cons,List.map_cons,List.cons.injEq] at spans
    obtain ⟨first,following⟩ := spans
    have ahead : ∀ later ∈ rest, distance m base (seq later) = distance m (base+1) (seq later) + 1 := by
      intro later member
      obtain ⟨i,small,placed⟩ := mem_span.mp (following ▸ List.mem_map_of_mem member)
      simp only [List.length_cons] at fits
      rw [← placed,distance_add (base+1) (by omega),show base + 1 + i = base + (i+1) by omega,
        distance_add base (by omega)]
    cases k with
    | zero => simp
    | succ k =>
      have skipped : ¬ (k + 1 ≤ distance m base (seq entry)) := by
        rw [first,distance_self]
        omega
      rw [List.drop_succ_cons,List.filter_cons_of_neg (by simpa using skipped),
        ih k following (by simp at fits; omega)]
      apply List.filter_congr
      intro later member
      simp [ahead later member]

end SeqWindow
