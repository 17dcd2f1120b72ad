import Mathlib

namespace Strip

variable {α : Type} (p : α → Bool)

-- A list with the elements satisfying p taken off its front, its back, or
-- both, front first.
def lstrip (s : List α) : List α := s.dropWhile p

def rstrip (s : List α) : List α := (s.reverse.dropWhile p).reverse

def strip (s : List α) : List α := rstrip p (lstrip p s)

variable {p}

theorem lstrip_lstrip (s : List α) : lstrip p (lstrip p s) = lstrip p s := by
  induction s with
  | nil => rfl
  | cons a s ih =>
    cases kept : p a with
    | false => simp [lstrip,List.dropWhile_cons_of_neg,kept]
    | true => simpa [lstrip,List.dropWhile_cons_of_pos kept] using ih

theorem lstrip_cons_of_pos {a : α} (s : List α) (dropped : p a = true) : lstrip p (a :: s) = lstrip p s :=
  List.dropWhile_cons_of_pos dropped

theorem lstrip_eq_nil_iff (s : List α) : lstrip p s = [] ↔ ∀ x ∈ s, p x = true :=
  List.dropWhile_eq_nil_iff

theorem rstrip_eq_nil_iff (s : List α) : rstrip p s = [] ↔ ∀ x ∈ s, p x = true := by
  simp [rstrip,← lstrip.eq_def,lstrip_eq_nil_iff]

theorem rstrip_rstrip (s : List α) : rstrip p (rstrip p s) = rstrip p s := by
  simp only [rstrip,List.reverse_reverse]
  exact congrArg List.reverse (lstrip_lstrip s.reverse)

theorem lstrip_append_of_neg {c : α} (pre post : List α) (kept : p c = false) :
    lstrip p (pre ++ c :: post) = lstrip p pre ++ c :: post := by
  rw [lstrip,List.dropWhile_append]
  split
  · rename_i emptied
    rw [List.dropWhile_cons_of_neg (by simp [kept]),lstrip,List.isEmpty_iff.mp emptied,List.nil_append]
  · rfl

theorem rstrip_append_of_neg {c : α} (pre post : List α) (kept : p c = false) :
    rstrip p (pre ++ c :: post) = pre ++ c :: rstrip p post := by
  have flipped := lstrip_append_of_neg post.reverse pre.reverse kept
  simp only [rstrip,List.reverse_append,List.reverse_cons,List.append_assoc,List.singleton_append]
  rw [← lstrip.eq_def,flipped]
  simp [lstrip]

theorem rstrip_append_of_pos {c : α} (s : List α) (dropped : p c = true) : rstrip p (s ++ [c]) = rstrip p s := by
  simp [rstrip,List.dropWhile_cons_of_pos dropped]

theorem rstrip_cons (a : α) (s : List α) :
    rstrip p (a :: s) = if p a = true ∧ rstrip p s = [] then [] else a :: rstrip p s := by
  cases kept : p a with
  | false => simpa using rstrip_append_of_neg [] s kept
  | true =>
    by_cases gone : rstrip p s = []
    · have all := (rstrip_eq_nil_iff s).mp gone
      simp only [gone,and_self,if_true]
      exact (rstrip_eq_nil_iff _).mpr (by simpa [kept] using all)
    · have exists_solid : ∃ c ∈ s, p c = false := by
        by_contra none
        simp only [not_exists,not_and,Bool.not_eq_false] at none
        exact gone ((rstrip_eq_nil_iff s).mpr none)
      obtain ⟨c,mem,solid⟩ := exists_solid
      obtain ⟨pre,rest,rfl⟩ := List.append_of_mem mem
      simp only [gone,and_false,if_false]
      rw [← List.cons_append,rstrip_append_of_neg _ _ solid,rstrip_append_of_neg _ _ solid,List.cons_append]

theorem rstrip_length_le (s : List α) : (rstrip p s).length ≤ s.length := by
  simpa [rstrip] using (List.dropWhile_sublist (p := p) (l := s.reverse)).length_le

theorem lstrip_rstrip (s : List α) : lstrip p (rstrip p s) = rstrip p (lstrip p s) := by
  induction s with
  | nil => rfl
  | cons a s ih =>
    cases kept : p a with
    | false =>
      have front := rstrip_append_of_neg [] s kept
      simp only [List.nil_append] at front
      rw [front,lstrip,List.dropWhile_cons_of_neg (by simp [kept]),lstrip,
        List.dropWhile_cons_of_neg (by simp [kept]),front]
    | true =>
      rw [rstrip_cons,kept,lstrip_cons_of_pos s kept]
      by_cases gone : rstrip p s = []
      · have stripped : lstrip p s = [] := (lstrip_eq_nil_iff s).mpr ((rstrip_eq_nil_iff s).mp gone)
        rw [gone,stripped]
        rfl
      · simp only [true_and,gone,if_false]
        rw [lstrip_cons_of_pos _ kept,ih]

theorem strip_eq_lstrip_rstrip (s : List α) : strip p s = lstrip p (rstrip p s) := (lstrip_rstrip s).symm

theorem strip_lstrip (s : List α) : strip p (lstrip p s) = strip p s := by
  rw [strip,lstrip_lstrip,strip]

theorem strip_rstrip (s : List α) : strip p (rstrip p s) = strip p s := by
  rw [strip_eq_lstrip_rstrip,rstrip_rstrip,strip_eq_lstrip_rstrip]

theorem strip_cons_of_pos {a : α} (s : List α) (dropped : p a = true) : strip p (a :: s) = strip p s := by
  rw [strip,lstrip_cons_of_pos s dropped,strip]

theorem strip_append_of_pos {a : α} (s : List α) (dropped : p a = true) : strip p (s ++ [a]) = strip p s := by
  rw [strip_eq_lstrip_rstrip,rstrip_append_of_pos s dropped,strip_eq_lstrip_rstrip]

theorem strip_around {c : α} (pre post : List α) (kept : p c = false) :
    strip p (pre ++ c :: post) = lstrip p pre ++ c :: rstrip p post := by
  rw [strip,lstrip_append_of_neg pre post kept,rstrip_append_of_neg _ post kept]

theorem lstrip_of_forall_neg {s : List α} (kept : ∀ x ∈ s, p x = false) : lstrip p s = s := by
  cases s with
  | nil => rfl
  | cons a s => exact List.dropWhile_cons_of_neg (by simp [kept a List.mem_cons_self])

theorem strip_of_forall_neg {s : List α} (kept : ∀ x ∈ s, p x = false) : strip p s = s := by
  have back : lstrip p s.reverse = s.reverse := lstrip_of_forall_neg fun x mem => kept x (List.mem_reverse.mp mem)
  rw [strip,lstrip_of_forall_neg kept,rstrip,← lstrip.eq_def,back,List.reverse_reverse]

theorem head_strip (s : List α) : ∀ x ∈ (strip p s).head?, p x = false := by
  intro x mem
  rw [strip_eq_lstrip_rstrip] at mem
  have kept := List.head?_dropWhile_not p (rstrip p s)
  rw [lstrip] at mem
  rw [Option.mem_def.mp mem] at kept
  exact kept

end Strip
