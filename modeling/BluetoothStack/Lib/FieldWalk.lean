import Mathlib

namespace FieldWalk

-- Records laid end to end, each behind a byte that counts the bytes after it;
-- a walk stops at the end, at a zero count, or at a record past the end.

inductive Ending where
  | exact
  | zero (position : Nat)
  | overrun (position : Nat)
  deriving DecidableEq, Repr

def Ending.shift (base : Nat) : Ending → Ending
  | .exact => .exact
  | .zero position => .zero (base + position)
  | .overrun position => .overrun (base + position)

-- The starts of the records passed, and where the walk stops.
def walk (data : List UInt8) (position : Nat) : List Nat × Ending :=
  if position < data.length then
    if data.getD position 0 = 0 then ([],.zero position)
    else if position + (data.getD position 0).toNat ≥ data.length then ([],.overrun position)
    else
      let rest := walk data (position + (data.getD position 0).toNat + 1)
      (position :: rest.1,rest.2)
  else ([],.exact)
termination_by data.length - position

section Steps

variable {data : List UInt8} {position : Nat}

theorem walk_of_ge (past : data.length ≤ position) : walk data position = ([],.exact) := by
  rw [walk,if_neg (by omega)]

theorem walk_of_zero (inside : position < data.length) (zero : data.getD position 0 = 0) :
    walk data position = ([],.zero position) := by
  rw [walk,if_pos inside]
  simp only [zero,↓reduceIte]

theorem walk_of_overrun (inside : position < data.length) (nonzero : data.getD position 0 ≠ 0)
    (runsPast : position + (data.getD position 0).toNat ≥ data.length) : walk data position = ([],.overrun position) := by
  rw [walk,if_pos inside]
  simp only [nonzero,runsPast,↓reduceIte]

theorem walk_of_fits (nonzero : data.getD position 0 ≠ 0) (fits : position + (data.getD position 0).toNat < data.length) :
    walk data position =
      (position :: (walk data (position + (data.getD position 0).toNat + 1)).1,
        (walk data (position + (data.getD position 0).toNat + 1)).2) := by
  rw [walk,if_pos (by omega)]
  simp only [nonzero,Nat.not_le.mpr fits,↓reduceIte]

end Steps

-- The walk's own recursion as an induction rule.
theorem walk_induction (data : List UInt8) {motive : Nat → Prop}
    (zero : ∀ position, position < data.length → data.getD position 0 = 0 → motive position)
    (overrun : ∀ position, position < data.length → data.getD position 0 ≠ 0 →
      position + (data.getD position 0).toNat ≥ data.length → motive position)
    (fits : ∀ position, position < data.length → data.getD position 0 ≠ 0 →
      ¬position + (data.getD position 0).toNat ≥ data.length → motive (position + (data.getD position 0).toNat + 1) →
        motive position)
    (ended : ∀ position, ¬position < data.length → motive position) (position : Nat) : motive position :=
  walk.induct data motive zero overrun fits ended position

theorem toNat_pos_of_ne {b : UInt8} (nonzero : b ≠ 0) : 0 < b.toNat :=
  Nat.pos_of_ne_zero fun zero => nonzero (UInt8.toNat_inj.mp (by rw [zero]; rfl))

theorem getD_take {l : List UInt8} {q n : Nat} (lt : n < q) : (l.take q).getD n 0 = l.getD n 0 := by
  rw [List.getD_eq_getElem?_getD,List.getD_eq_getElem?_getD,List.getElem?_take,if_pos lt]

theorem mem_walk {data : List UInt8} {position q : Nat} :
    q ∈ (walk data position).1 →
      position ≤ q ∧ 0 < (data.getD q 0).toNat ∧ q + (data.getD q 0).toNat < data.length := by
  induction position using walk_induction data with
  | zero position inside zero => rw [walk_of_zero inside zero]; nofun
  | overrun position inside nonzero runsPast => rw [walk_of_overrun inside nonzero runsPast]; nofun
  | fits position inside nonzero fits ih =>
    rw [walk_of_fits nonzero (by omega)]
    rintro (_ | ⟨_,later⟩)
    · exact ⟨Nat.le_refl _,toNat_pos_of_ne nonzero,by omega⟩
    · obtain ⟨after,held⟩ := ih later
      exact ⟨by omega,held⟩
  | ended position past => rw [walk_of_ge (by omega)]; nofun

theorem walk_zero {data : List UInt8} {position q : Nat} :
    (walk data position).2 = .zero q → position ≤ q ∧ q < data.length ∧ data.getD q 0 = 0 := by
  induction position using walk_induction data with
  | zero position inside zero =>
    rw [walk_of_zero inside zero]
    rintro ⟨⟩
    exact ⟨Nat.le_refl _,inside,zero⟩
  | overrun position inside nonzero runsPast => rw [walk_of_overrun inside nonzero runsPast]; nofun
  | fits position inside nonzero fits ih =>
    rw [walk_of_fits nonzero (by omega)]
    intro stopped
    obtain ⟨after,held⟩ := ih stopped
    exact ⟨by omega,held⟩
  | ended position past => rw [walk_of_ge (by omega)]; nofun

theorem getD_append_length (front data : List UInt8) (position : Nat) :
    (front ++ data).getD (front.length + position) 0 = data.getD position 0 := by
  rw [List.getD_append_right _ _ _ _ (Nat.le_add_right _ _),Nat.add_sub_cancel_left]

theorem walk_append_right (front data : List UInt8) (position : Nat) :
    walk (front ++ data) (front.length + position) =
      ((walk data position).1.map (front.length + ·),(walk data position).2.shift front.length) := by
  have read := getD_append_length front data
  induction position using walk_induction data with
  | zero position inside zero =>
    have inside' : front.length + position < (front ++ data).length := by rw [List.length_append]; omega
    rw [walk_of_zero inside zero,walk_of_zero inside' ((read position).trans zero)]
    rfl
  | overrun position inside nonzero runsPast =>
    have inside' : front.length + position < (front ++ data).length := by rw [List.length_append]; omega
    have runsPast' : front.length + position + ((front ++ data).getD (front.length + position) 0).toNat ≥
        (front ++ data).length := by
      rw [read,List.length_append]
      omega
    rw [walk_of_overrun inside nonzero runsPast,walk_of_overrun inside' (by rwa [read]) runsPast']
    rfl
  | fits position inside nonzero fits ih =>
    have fits' : front.length + position + ((front ++ data).getD (front.length + position) 0).toNat <
        (front ++ data).length := by
      rw [read,List.length_append]
      omega
    have moved : front.length + position + (data.getD position 0).toNat + 1 =
        front.length + (position + (data.getD position 0).toNat + 1) := by omega
    rw [walk_of_fits nonzero (by omega),walk_of_fits (by rwa [read]) fits',read,moved,ih]
    rfl
  | ended position past =>
    rw [@walk_of_ge data position (by omega),@walk_of_ge (front ++ data) _ (by rw [List.length_append]; omega)]
    rfl

theorem walk_append_left {front : List UInt8} {position : Nat} (within : position ≤ front.length)
    (ended : (walk front position).2 = .exact) (data : List UInt8) :
    walk (front ++ data) position =
      ((walk front position).1 ++ (walk (front ++ data) front.length).1,(walk (front ++ data) front.length).2) := by
  induction position using walk_induction front with
  | zero position inside zero => rw [walk_of_zero inside zero] at ended; cases ended
  | overrun position inside nonzero runsPast => rw [walk_of_overrun inside nonzero runsPast] at ended; cases ended
  | fits position inside nonzero fits ih =>
    have read : (front ++ data).getD position 0 = front.getD position 0 := List.getD_append _ _ _ _ inside
    rw [walk_of_fits nonzero (by omega)] at ended ⊢
    have fits' : position + ((front ++ data).getD position 0).toNat < (front ++ data).length := by
      rw [read,List.length_append]
      omega
    rw [walk_of_fits (by rwa [read]) fits',read,ih (by omega) ended]
    rfl
  | ended position past =>
    obtain rfl : position = front.length := by omega
    rw [walk_of_ge (Nat.le_refl _)]
    rfl

theorem walk_take {data : List UInt8} {position q : Nat} (stopped : (walk data position).2 = .zero q) :
    walk (data.take q) position = ((walk data position).1,.exact) := by
  induction position using walk_induction data with
  | zero position inside zero =>
    rw [walk_of_zero inside zero] at stopped ⊢
    cases stopped
    exact walk_of_ge (by rw [List.length_take]; exact Nat.min_le_left _ _)
  | overrun position inside nonzero runsPast => rw [walk_of_overrun inside nonzero runsPast] at stopped; cases stopped
  | fits position inside nonzero fits ih =>
    rw [walk_of_fits nonzero (by omega)] at stopped ⊢
    obtain ⟨after,inData,-⟩ := walk_zero stopped
    have read : (data.take q).getD position 0 = data.getD position 0 := getD_take (by omega)
    have fits' : position + ((data.take q).getD position 0).toNat < (data.take q).length := by
      rw [read,List.length_take]
      omega
    rw [walk_of_fits (by rwa [read]) fits',read,ih stopped]
  | ended position past =>
    rw [walk_of_ge (by omega)] at stopped
    cases stopped

end FieldWalk
