import Mathlib

namespace BluetoothStack.LowerBound

variable {α : Type} (p : α → Bool)

-- std::lower_bound's halving loop over the range still to search; the fuel is
-- the length, which each round lowers.
def lowerBoundOf : Nat → List α → Nat
  | 0, _ => 0
  | fuel + 1, range =>
    match range[range.length / 2]? with
    | none => 0
    | some middle =>
      if p middle then range.length / 2 + 1 + lowerBoundOf fuel (range.drop (range.length / 2 + 1))
      else lowerBoundOf fuel (range.take (range.length / 2))

def lowerBound (xs : List α) : Nat := lowerBoundOf p xs.length xs

-- The precondition of std::lower_bound: no element for which p holds after
-- one for which it fails.
def Partitioned (xs : List α) : Prop := xs.Pairwise fun x y => p y = true → p x = true

variable {p}

theorem lowerBoundOf_append {ys zs : List α} (holds : ∀ y ∈ ys, p y = true) (fails : ∀ z ∈ zs, p z = false)
    {fuel : Nat} (enough : ys.length + zs.length ≤ fuel) : lowerBoundOf p fuel (ys ++ zs) = ys.length := by
  induction fuel generalizing ys zs with
  | zero => simp [List.length_eq_zero_iff.mp (show ys.length = 0 by omega),lowerBoundOf]
  | succ fuel ih =>
    rcases Nat.eq_zero_or_pos (ys ++ zs).length with empty | nonempty
    · simp_all [lowerBoundOf]
    have total : (ys ++ zs).length = ys.length + zs.length := List.length_append
    by_cases left : (ys ++ zs).length / 2 < ys.length
    · -- the middle is in ys: the range moves past it and stays a split
      have middle : (ys ++ zs)[(ys ++ zs).length / 2]? = some (ys[(ys ++ zs).length / 2]) := by
        rw [List.getElem?_append_left left,List.getElem?_eq_getElem left]
      have rest : (ys ++ zs).drop ((ys ++ zs).length / 2 + 1) = ys.drop ((ys ++ zs).length / 2 + 1) ++ zs :=
        List.drop_append_of_le_length left
      rw [lowerBoundOf,middle]
      simp only [holds _ (List.getElem_mem left),if_true,rest]
      rw [ih (fun y mem => holds y (List.mem_of_mem_drop mem)) fails (by simp; omega),List.length_drop]
      omega
    · -- the middle is in zs: the range keeps its first half, ys with a prefix of zs
      have inZs : (ys ++ zs).length / 2 - ys.length < zs.length := by omega
      have middle : (ys ++ zs)[(ys ++ zs).length / 2]? = some (zs[(ys ++ zs).length / 2 - ys.length]) := by
        rw [List.getElem?_append_right (by omega),List.getElem?_eq_getElem inZs]
      have firstHalf : (ys ++ zs).take ((ys ++ zs).length / 2) =
          ys ++ zs.take ((ys ++ zs).length / 2 - ys.length) := by
        rw [List.take_append,List.take_of_length_le (by omega)]
      rw [lowerBoundOf,middle]
      simp only [fails _ (List.getElem_mem inZs),Bool.false_eq_true,if_false,firstHalf]
      exact ih holds (fun z mem => fails z (List.mem_of_mem_take mem)) (by simp; omega)

theorem Partitioned.dropWhile_fails {xs : List α} (parted : Partitioned p xs) : ∀ z ∈ xs.dropWhile p, p z = false := by
  induction xs with
  | nil => simp
  | cons x xs ih =>
    obtain ⟨before,parted⟩ := List.pairwise_cons.mp parted
    cases px : p x with
    | true => simpa [List.dropWhile_cons,px] using ih parted
    | false =>
      -- the first element fails, so every later one fails too
      intro z mem
      simp only [List.dropWhile_cons,px,Bool.false_eq_true,if_false,List.mem_cons] at mem
      rcases mem with rfl | mem
      · exact px
      · cases pz : p z with
        | false => rfl
        | true => simpa [px] using before z mem pz

theorem lowerBound_partitioned {xs : List α} (parted : Partitioned p xs) :
    lowerBound p xs = (xs.takeWhile p).length := by
  have split := List.takeWhile_append_dropWhile (p := p) (l := xs)
  unfold lowerBound
  conv => lhs; rw [← split]
  exact lowerBoundOf_append (fun y mem => List.mem_takeWhile_imp mem) parted.dropWhile_fails
    (by rw [← List.length_append,split])

theorem insert_lowerBound {xs : List α} (parted : Partitioned p xs) (x : α) :
    xs.take (lowerBound p xs) ++ x :: xs.drop (lowerBound p xs) = xs.takeWhile p ++ x :: xs.dropWhile p := by
  have split := List.takeWhile_append_dropWhile (p := p) (l := xs)
  have take := @List.take_left α (xs.takeWhile p) (xs.dropWhile p)
  have drop := @List.drop_left α (xs.takeWhile p) (xs.dropWhile p)
  rw [split] at take drop
  rw [lowerBound_partitioned parted,take,drop]

end BluetoothStack.LowerBound
