import Mathlib

namespace BluetoothStack.Reader

variable {σ α β : Type}

-- A reader that takes exactly width elements, whatever follows them: a
-- fixed-size field of a stream.
def ReadsExactly (read : List σ → Option (α × List σ)) (width : Nat) : Prop :=
  ∀ field : List σ, field.length = width → ∃ value, ∀ rest, read (field ++ rest) = some (value,rest)

theorem ReadsExactly.pure (value : α) : ReadsExactly (σ := σ) (fun input => pure (value,input)) 0 := by
  intro field empty
  refine ⟨value,fun rest => ?_⟩
  rw [List.length_eq_zero_iff.mp empty,List.nil_append]
  rfl

-- The continuation takes the pair, as the do-notation's destructuring match
-- does, so the lemma applies to readers written with it.
theorem ReadsExactly.bind {read : List σ → Option (α × List σ)} {next : α × List σ → Option (β × List σ)}
    {n m : Nat} (first : ReadsExactly read n) (rest : ∀ value, ReadsExactly (fun input => next (value,input)) m) :
    ReadsExactly (fun input => read input >>= next) (m + n) := by
  intro field wide
  obtain ⟨value,read_eq⟩ := first (field.take n) (by simp; omega)
  obtain ⟨result,next_eq⟩ := rest value (field.drop n) (by simp; omega)
  refine ⟨result,fun tail => ?_⟩
  have split : field ++ tail = field.take n ++ (field.drop n ++ tail) := by rw [← List.append_assoc,List.take_append_drop]
  simp only [split,read_eq,Option.bind_eq_bind,Option.bind_some,next_eq]

theorem ReadsExactly.map {read : List σ → Option (α × List σ)} {n : Nat} (f : α × List σ → β × List σ)
    (keeps : ∀ value input, f (value,input) = ((f (value,[])).1,input)) (reads : ReadsExactly read n) :
    ReadsExactly (fun input => (read input).map f) n := by
  intro field wide
  obtain ⟨value,read_eq⟩ := reads field wide
  exact ⟨(f (value,[])).1,fun rest => by simp only [read_eq,Option.map_some,keeps value rest]⟩

theorem ReadsExactly.of_le {read : List σ → Option (α × List σ)} {n : Nat} (reads : ReadsExactly read n)
    {input : List σ} (long : n ≤ input.length) : ∃ value, read input = some (value,input.drop n) := by
  obtain ⟨value,read_eq⟩ := reads (input.take n) (by simp; omega)
  exact ⟨value,by simpa using read_eq (input.drop n)⟩

theorem ReadsExactly.exact {read : List σ → Option (α × List σ)} {n : Nat} (reads : ReadsExactly read n)
    {field : List σ} (wide : field.length = n) : ∃ value, read field = some (value,[]) := by
  obtain ⟨value,read_eq⟩ := reads field wide
  exact ⟨value,by simpa using read_eq []⟩

end BluetoothStack.Reader
