import Mathlib
import BluetoothStack.Lib.FieldWalk

namespace BluetoothStack.AdvertiseDataParser

open FieldWalk (walk)

-- Advertising data is a run of fields behind length bytes; the three loops of the
-- parser are read through the one walk of FieldWalk.

-- Scan response data from Traxxas.
def trxQuirk : List UInt8 :=
  [0x14,0x09,0x54,0xFF,0xFF,0x20,0x42,0x4C,0x45,0x05,0x12,0xFF,0x00,0xE8,0x03,0x02,0x0A,0x00]

-- The name length of this device's data runs past the end; the bytes it
-- leaves out of the comparison vary between devices.
def malformedPacketQuirk (ad : List UInt8) (position : Nat) : Bool :=
  let dataStart := ad.drop position
  decide (ad.length - position ≥ 18) && dataStart.take 3 == trxQuirk.take 3 &&
    (dataStart.drop 5).take 6 == (trxQuirk.drop 5).take 6 && (dataStart.drop 12).take 6 == (trxQuirk.drop 12).take 6

-- The reads ad[position] and ad[position + 1] below are inside the data by
-- the guards before them.

def removeTrailingZerosFrom (ad : List UInt8) (position : Nat) : List UInt8 :=
  if position < ad.length then
    let len := ad.getD position 0
    -- ad.erase(ad.begin() + position, ad.end())
    if len = 0 then ad.take position
    else if position + len.toNat ≥ ad.length then ad
    else removeTrailingZerosFrom ad (position + len.toNat + 1)
  else ad
termination_by ad.length - position

def removeTrailingZeros (ad : List UInt8) : List UInt8 := removeTrailingZerosFrom ad 0

def isValidFrom (ad : List UInt8) (position : Nat) : Bool :=
  if position < ad.length then
    let len := ad.getD position 0
    if len = 0 then (ad.drop (position + 1)).all (· == 0)
    else if position + len.toNat ≥ ad.length then malformedPacketQuirk ad position
    else isValidFrom ad (position + len.toNat + 1)
  else true
termination_by ad.length - position

def isValid (ad : List UInt8) : Bool := isValidFrom ad 0

-- The returned pointer is the offset of the field's value in ad, with none
-- for NULL; the second component is what is stored in p_length.
def getFieldByTypeFrom (ad : List UInt8) (type : UInt8) (position : Nat) : Option Nat × UInt8 :=
  if position < ad.length then
    let len := ad.getD position 0
    if len = 0 then (none,0)
    else if position + len.toNat ≥ ad.length then (none,0)
    else
      let advType := ad.getD (position + 1) 0
      if advType = type then (some (position + 2),len - 1)
      else getFieldByTypeFrom ad type (position + len.toNat + 1)
  else (none,0)
termination_by ad.length - position

def getFieldByType (ad : List UInt8) (type : UInt8) : Option Nat × UInt8 := getFieldByTypeFrom ad type 0

section Walk

-- The inductions follow the walk's own recursion.

variable (ad : List UInt8)

theorem removeTrailingZerosFrom_eq (position : Nat) :
    removeTrailingZerosFrom ad position =
      match (walk ad position).2 with
      | .zero q => ad.take q
      | _ => ad := by
  induction position using FieldWalk.walk_induction ad with
  | zero position inside zero =>
    rw [removeTrailingZerosFrom,FieldWalk.walk_of_zero inside zero]
    simp only [inside,zero,↓reduceIte]
  | overrun position inside nonzero runsPast =>
    rw [removeTrailingZerosFrom,FieldWalk.walk_of_overrun inside nonzero runsPast]
    simp only [inside,nonzero,runsPast,↓reduceIte]
  | fits position inside nonzero fits ih =>
    rw [removeTrailingZerosFrom,FieldWalk.walk_of_fits nonzero (by omega)]
    simp only [inside,nonzero,fits,↓reduceIte]
    exact ih
  | ended position past =>
    rw [removeTrailingZerosFrom,FieldWalk.walk_of_ge (by omega)]
    simp only [past,↓reduceIte]

theorem isValidFrom_eq (position : Nat) :
    isValidFrom ad position =
      match (walk ad position).2 with
      | .exact => true
      | .zero q => (ad.drop (q + 1)).all (· == 0)
      | .overrun q => malformedPacketQuirk ad q := by
  induction position using FieldWalk.walk_induction ad with
  | zero position inside zero =>
    rw [isValidFrom,FieldWalk.walk_of_zero inside zero]
    simp only [inside,zero,↓reduceIte]
  | overrun position inside nonzero runsPast =>
    rw [isValidFrom,FieldWalk.walk_of_overrun inside nonzero runsPast]
    simp only [inside,nonzero,runsPast,↓reduceIte]
  | fits position inside nonzero fits ih =>
    rw [isValidFrom,FieldWalk.walk_of_fits nonzero (by omega)]
    simp only [inside,nonzero,fits,↓reduceIte]
    exact ih
  | ended position past =>
    rw [isValidFrom,FieldWalk.walk_of_ge (by omega)]
    simp only [past,↓reduceIte]

theorem getFieldByTypeFrom_eq (type : UInt8) (position : Nat) :
    getFieldByTypeFrom ad type position =
      match (walk ad position).1.find? (fun q => ad.getD (q + 1) 0 == type) with
      | some q => (some (q + 2),ad.getD q 0 - 1)
      | none => (none,0) := by
  induction position using FieldWalk.walk_induction ad with
  | zero position inside zero =>
    rw [getFieldByTypeFrom,FieldWalk.walk_of_zero inside zero]
    simp only [inside,zero,↓reduceIte,List.find?_nil]
  | overrun position inside nonzero runsPast =>
    rw [getFieldByTypeFrom,FieldWalk.walk_of_overrun inside nonzero runsPast]
    simp only [inside,nonzero,runsPast,↓reduceIte,List.find?_nil]
  | fits position inside nonzero fits ih =>
    rw [getFieldByTypeFrom,FieldWalk.walk_of_fits nonzero (by omega)]
    simp only [inside,nonzero,fits,↓reduceIte,List.find?_cons]
    by_cases found : ad.getD (position + 1) 0 = type
    · simp only [found,↓reduceIte,beq_self_eq_true]
    · have missed : (ad.getD (position + 1) 0 == type) = false := beq_eq_false_iff_ne.mpr found
      simp only [found,↓reduceIte,missed]
      exact ih
  | ended position past =>
    rw [getFieldByTypeFrom,FieldWalk.walk_of_ge (by omega)]
    simp only [past,↓reduceIte,List.find?_nil]

end Walk

section Glue

def fieldsFit (ad : List UInt8) : Bool :=
  match (walk ad 0).2 with
  | .overrun _ => false
  | _ => true

theorem removeTrailingZeros_cases (ad : List UInt8) :
    (removeTrailingZeros ad = ad ∧ ∀ q, (walk ad 0).2 ≠ .zero q) ∨
      ∃ q, (walk ad 0).2 = .zero q ∧ removeTrailingZeros ad = ad.take q := by
  rw [removeTrailingZeros,removeTrailingZerosFrom_eq]
  cases ended : (walk ad 0).2 with
  | exact => exact .inl ⟨rfl,nofun⟩
  | zero q => exact .inr ⟨q,rfl,rfl⟩
  | overrun q => exact .inl ⟨rfl,nofun⟩

theorem walk_removeTrailingZeros (ad : List UInt8) :
    (walk (removeTrailingZeros ad) 0).1 = (walk ad 0).1 ∧ ∀ q, (walk (removeTrailingZeros ad) 0).2 ≠ .zero q := by
  rcases removeTrailingZeros_cases ad with ⟨kept,other⟩ | ⟨q,stopped,cut⟩
  · rw [kept]
    exact ⟨rfl,other⟩
  · rw [cut,FieldWalk.walk_take stopped]
    exact ⟨rfl,nofun⟩

theorem walk_removeTrailingZeros_exact {ad : List UInt8} (fits : fieldsFit ad = true) :
    (walk (removeTrailingZeros ad) 0).2 = .exact := by
  rcases removeTrailingZeros_cases ad with ⟨kept,other⟩ | ⟨q,stopped,cut⟩
  · rw [kept]
    cases ended : (walk ad 0).2 with
    | exact => rfl
    | zero q => exact absurd ended (other q)
    | overrun q => rw [fieldsFit,ended] at fits; cases fits
  · rw [cut,FieldWalk.walk_take stopped]

theorem getFieldByType_congr {ad ad' : List UInt8} (starts : (walk ad' 0).1 = (walk ad 0).1)
    (same : ∀ s ∈ (walk ad 0).1, ad'.getD s 0 = ad.getD s 0 ∧ ad'.getD (s + 1) 0 = ad.getD (s + 1) 0)
    (type : UInt8) : getFieldByType ad' type = getFieldByType ad type := by
  rw [getFieldByType,getFieldByType,getFieldByTypeFrom_eq,getFieldByTypeFrom_eq,starts,
    List.find?_congr fun s mem => by rw [(same s mem).2]]
  cases found : (walk ad 0).1.find? (fun q => ad.getD (q + 1) 0 == type) with
  | none => rfl
  | some s =>
    dsimp only
    rw [(same s (List.mem_of_find?_eq_some found)).1]

theorem walk_append {front : List UInt8} (ended : (walk front 0).2 = .exact) (data : List UInt8) :
    walk (front ++ data) 0 =
      ((walk front 0).1 ++ (walk data 0).1.map (front.length + ·),(walk data 0).2.shift front.length) := by
  have glued := FieldWalk.walk_append_right front data 0
  rw [Nat.add_zero] at glued
  rw [FieldWalk.walk_append_left (Nat.zero_le _) ended,glued]

theorem isValid_append {front : List UInt8} (ended : (walk front 0).2 = .exact) (data : List UInt8) :
    isValid (front ++ data) = isValid data := by
  rw [isValid,isValid,isValidFrom_eq,isValidFrom_eq,walk_append ended]
  cases (walk data 0).2 with
  | exact => rfl
  | zero q =>
    show ((front ++ data).drop (front.length + q + 1)).all _ = (data.drop (q + 1)).all _
    rw [Nat.add_assoc,← List.drop_drop,List.drop_left]
  | overrun q =>
    have rest : (front ++ data).length - (front.length + q) = data.length - q := by
      rw [List.length_append]
      omega
    show malformedPacketQuirk (front ++ data) (front.length + q) = malformedPacketQuirk data q
    rw [malformedPacketQuirk,malformedPacketQuirk,← List.drop_drop,List.drop_left,rest]

theorem getFieldByType_append {front : List UInt8} (ended : (walk front 0).2 = .exact) (data : List UInt8)
    (type : UInt8) :
    getFieldByType (front ++ data) type =
      match getFieldByType front type with
      | (some field,length) => (some field,length)
      | (none,_) => ((getFieldByType data type).1.map (front.length + ·),(getFieldByType data type).2) := by
  -- The type bytes read in the glued data are those of each part.
  have inFront : ∀ s ∈ (walk front 0).1, (front ++ data).getD (s + 1) 0 = front.getD (s + 1) 0 ∧
      (front ++ data).getD s 0 = front.getD s 0 := by
    intro s mem
    obtain ⟨-,positive,fits⟩ := FieldWalk.mem_walk mem
    exact ⟨List.getD_append _ _ _ _ (by omega),List.getD_append _ _ _ _ (by omega)⟩
  have inData : ∀ s, (front ++ data).getD (front.length + s) 0 = data.getD s 0 := FieldWalk.getD_append_length front data
  rw [getFieldByType,getFieldByType,getFieldByType,getFieldByTypeFrom_eq,getFieldByTypeFrom_eq,
    getFieldByTypeFrom_eq,walk_append ended,List.find?_append,List.find?_map,
    List.find?_congr fun s mem => by rw [(inFront s mem).1]]
  cases found : (walk front 0).1.find? (fun q => front.getD (q + 1) 0 == type) with
  | some s =>
    rw [Option.some_or]
    dsimp only
    rw [(inFront s (List.mem_of_find?_eq_some found)).2]
  | none =>
    have shifted : (fun q => (front ++ data).getD (q + 1) 0 == type) ∘ (front.length + ·) =
        fun q => data.getD (q + 1) 0 == type := by
      funext q
      rw [Function.comp_apply,Nat.add_assoc,inData]
    rw [Option.none_or,shifted]
    cases (walk data 0).1.find? (fun q => data.getD (q + 1) 0 == type) with
    | none => rfl
    | some s =>
      rw [Option.map_some]
      dsimp only
      rw [inData,Nat.add_assoc,Option.map_some]

end Glue

theorem removeTrailingZeros_glues (a b : List UInt8) (fitsA : fieldsFit a = true) (fitsB : fieldsFit b = true)
    (type : UInt8) :
    isValid (removeTrailingZeros a ++ removeTrailingZeros b) = true ∧
      getFieldByType (removeTrailingZeros a ++ removeTrailingZeros b) type =
        (match getFieldByType a type with
          | (some field,length) => (some field,length)
          | (none,_) => ((getFieldByType b type).1.map ((removeTrailingZeros a).length + ·),(getFieldByType b type).2)) ∧
      (∀ ad, removeTrailingZeros (removeTrailingZeros ad) = removeTrailingZeros ad) ∧
      ∀ ad type, getFieldByType (removeTrailingZeros ad) type = getFieldByType ad type := by
  -- The lookup does not see the cut: the walk passes the same fields, whose
  -- bytes lie before it.
  have unchanged : ∀ ad type, getFieldByType (removeTrailingZeros ad) type = getFieldByType ad type := by
    intro ad type
    rcases removeTrailingZeros_cases ad with ⟨kept,-⟩ | ⟨q,stopped,cut⟩
    · rw [kept]
    · rw [cut]
      refine getFieldByType_congr (FieldWalk.walk_take stopped ▸ rfl) (fun s mem => ?_) type
      have inCut : s ∈ (walk (ad.take q) 0).1 := by rw [FieldWalk.walk_take stopped]; exact mem
      obtain ⟨-,positive,fits⟩ := FieldWalk.mem_walk inCut
      rw [List.length_take] at fits
      exact ⟨FieldWalk.getD_take (by omega),FieldWalk.getD_take (by omega)⟩
  have endedA := walk_removeTrailingZeros_exact fitsA
  refine ⟨?_,?_,fun ad => ?_,unchanged⟩
  · rw [isValid_append endedA,isValid,isValidFrom_eq,walk_removeTrailingZeros_exact fitsB]
  · rw [getFieldByType_append endedA,unchanged,unchanged]
  · rcases removeTrailingZeros_cases (removeTrailingZeros ad) with ⟨kept,-⟩ | ⟨q,stopped,-⟩
    · exact kept
    · exact absurd stopped ((walk_removeTrailingZeros ad).2 q)

theorem removeTrailingZeros_glues_sample :
    fieldsFit [2,1,6,0,0] = true ∧ fieldsFit [3,0x19,0x00,0x80,0,0xFF] = true ∧
      isValid (removeTrailingZeros [2,1,6,0,0] ++ removeTrailingZeros [3,0x19,0x00,0x80,0,0xFF]) = true ∧
      getFieldByType (removeTrailingZeros [2,1,6,0,0] ++ removeTrailingZeros [3,0x19,0x00,0x80,0,0xFF]) 0x19 =
        (match getFieldByType [2,1,6,0,0] 0x19 with
          | (some field,length) => (some field,length)
          | (none,_) =>
            ((getFieldByType [3,0x19,0x00,0x80,0,0xFF] 0x19).1.map ((removeTrailingZeros [2,1,6,0,0]).length + ·),
              (getFieldByType [3,0x19,0x00,0x80,0,0xFF] 0x19).2)) ∧
      (∀ ad, removeTrailingZeros (removeTrailingZeros ad) = removeTrailingZeros ad) ∧
      ∀ ad type, getFieldByType (removeTrailingZeros ad) type = getFieldByType ad type := by
  have fitsA : fieldsFit [2,1,6,0,0] = true := by simp [fieldsFit,FieldWalk.walk]
  have fitsB : fieldsFit [3,0x19,0x00,0x80,0,0xFF] = true := by simp [fieldsFit,FieldWalk.walk]
  exact ⟨fitsA,fitsB,removeTrailingZeros_glues _ _ fitsA fitsB 0x19⟩

end BluetoothStack.AdvertiseDataParser
