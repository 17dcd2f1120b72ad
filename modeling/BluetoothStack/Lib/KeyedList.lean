import Mathlib

namespace KeyedList

-- Lists of records each found by a field no two records share.

variable {α κ ι : Type} [DecidableEq κ] [DecidableEq ι]

theorem find?_eq_some_iff (key : α → κ) {l : List α} (unique : (l.map key).Nodup) (k : κ) (r : α) :
    l.find? (key · = k) = some r ↔ r ∈ l ∧ key r = k := by
  constructor
  · intro found
    exact ⟨List.mem_of_find?_eq_some found,by simpa using List.find?_some found⟩
  · rintro ⟨mem,rfl⟩
    obtain ⟨r',found⟩ : ∃ r', l.find? (key · = key r) = some r' := by
      cases first : l.find? (key · = key r) with
      | some r' => exact ⟨r',rfl⟩
      | none =>
        rw [List.find?_eq_none] at first
        exact absurd (first r mem) (by simp)
    have mem' := List.mem_of_find?_eq_some found
    have same : key r' = key r := by simpa using List.find?_some found
    rw [found,List.inj_on_of_nodup_map unique mem' mem same]

theorem find?_eq_none_iff (key : α → κ) {l : List α} (k : κ) :
    l.find? (key · = k) = none ↔ k ∉ l.map key := by
  simp [List.find?_eq_none]

theorem perm_find?_eraseP {p : α → Bool} {l : List α} {a : α} (found : l.find? p = some a) :
    (a :: l.eraseP p).Perm l := by
  induction l with
  | nil => cases found
  | cons x l ih =>
    by_cases hit : p x = true
    · rw [List.find?_cons_of_pos hit] at found
      cases found
      rw [List.eraseP_cons_of_pos hit]
    · rw [List.find?_cons_of_neg hit] at found
      rw [List.eraseP_cons_of_neg hit]
      exact (List.Perm.swap x a _).trans ((ih found).cons x)

theorem eraseP_eq_eraseP (key : α → κ) (id : α → ι) {l : List α} (keys : (l.map key).Nodup) (ids : (l.map id).Nodup)
    {n : α} (mem : n ∈ l) : l.eraseP (id · = id n) = l.eraseP (key · = key n) := by
  induction l with
  | nil => cases mem
  | cons x l ih =>
    simp only [List.map_cons,List.nodup_cons] at keys ids
    by_cases same : x = n
    · subst same
      rw [List.eraseP_cons_of_pos (by simp),List.eraseP_cons_of_pos (by simp)]
    · have inRest : n ∈ l := (List.mem_cons.mp mem).resolve_left (Ne.symm same)
      have otherId : id x ≠ id n := fun eq => ids.1 (eq ▸ List.mem_map_of_mem inRest)
      have otherKey : key x ≠ key n := fun eq => keys.1 (eq ▸ List.mem_map_of_mem inRest)
      rw [List.eraseP_cons_of_neg (by simpa using otherId),List.eraseP_cons_of_neg (by simpa using otherKey),
        ih keys.2 ids.2 inRest]

theorem dropLast_eq_eraseP (key : α → κ) {l : List α} (keys : (l.map key).Nodup) {b : α} (last : l.getLast? = some b) :
    l.dropLast = l.eraseP (key · = key b) := by
  obtain ⟨front,rfl⟩ : ∃ front, l = front ++ [b] := List.getLast?_eq_some_iff.mp last
  have before : ∀ x ∈ front, ¬decide (key x = key b) = true := by
    intro x mem same
    rw [List.map_append,List.map_singleton] at keys
    exact (List.nodup_append.mp keys).2.2 _ (List.mem_map_of_mem mem) _ (List.mem_singleton_self _) (by simpa using same)
  rw [List.dropLast_concat,List.eraseP_append_right _ before,List.eraseP_cons_of_pos (by simp),List.append_nil]

end KeyedList
