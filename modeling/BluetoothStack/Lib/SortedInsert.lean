import Mathlib

namespace SortedInsert

variable {α β : Type} [LinearOrder β]

-- Stable insertion into a list kept in order of a key: the new element goes
-- after every element whose key is at most k, before the first one above it.
def insertBy (key : α → β) (k : β) (a : α) : List α → List α
  | [] => [a]
  | b :: rest => if k < key b then a :: b :: rest else b :: insertBy key k a rest

variable {key : α → β} {k : β} {a : α}

theorem insertBy_perm (l : List α) : (insertBy key k a l).Perm (a :: l) := by
  induction l with
  | nil => rfl
  | cons b rest ih =>
    rw [insertBy]
    split
    · exact List.Perm.refl _
    · exact (ih.cons b).trans (List.Perm.swap a b rest)

theorem mem_insertBy {x : α} {l : List α} : x ∈ insertBy key k a l ↔ x = a ∨ x ∈ l := by
  rw [(insertBy_perm l).mem_iff,List.mem_cons]

theorem insertBy_nodup {l : List α} (distinct : l.Nodup) (fresh : a ∉ l) : (insertBy key k a l).Nodup :=
  (insertBy_perm l).nodup_iff.mpr (List.nodup_cons.mpr ⟨fresh,distinct⟩)

theorem insertBy_sorted {l : List α} (sorted : l.Pairwise (fun x y => key x ≤ key y)) (placed : key a = k) :
    (insertBy key k a l).Pairwise (fun x y => key x ≤ key y) := by
  induction l with
  | nil => exact List.pairwise_singleton _ a
  | cons b rest ih =>
    obtain ⟨first,later⟩ := List.pairwise_cons.mp sorted
    rw [insertBy]
    split
    · case isTrue before =>
      refine List.pairwise_cons.mpr ⟨?_,sorted⟩
      intro x held
      rcases List.mem_cons.mp held with rfl | further
      · exact placed ▸ before.le
      · exact (placed ▸ before.le).trans (first x further)
    · case isFalse after =>
      refine List.pairwise_cons.mpr ⟨?_,ih later⟩
      intro x held
      rcases mem_insertBy.mp held with rfl | further
      · exact placed ▸ not_lt.mp after
      · exact first x further

theorem sorted_congr {key' : α → β} {l : List α} (same : ∀ x ∈ l, key' x = key x)
    (sorted : l.Pairwise (fun x y => key x ≤ key y)) : l.Pairwise (fun x y => key' x ≤ key' y) :=
  sorted.imp_of_mem fun held held' ordered => by rw [same _ held,same _ held']; exact ordered

end SortedInsert
