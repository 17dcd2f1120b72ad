import BluetoothStack.Lib.CString

namespace BluetoothStack

open CString

-- A UUID as its sixteen bytes in network order.
@[ext] structure Uuid where
  uu : List UInt8
  length : uu.length = 16

instance : DecidableEq Uuid := fun a b => decidable_of_iff (a.uu = b.uu) Uuid.ext_iff.symm

namespace Uuid

def kString128BitLen : Nat := 36

def kBase : Uuid := ⟨[0x00,0x00,0x00,0x00,0x00,0x00,0x10,0x00,0x80,0x00,0x00,0x80,0x5f,0x9b,0x34,0xfb],rfl⟩

def kEmpty : Uuid := ⟨List.replicate 16 0,List.length_replicate⟩

def from16Bit (uuid16 : UInt16) : Uuid :=
  ⟨(kBase.uu.set 2 ((0xFF00 &&& uuid16) >>> 8).toUInt8).set 3 (0x00FF &&& uuid16).toUInt8,by simp [kBase]⟩

-- The memcmp of bytes 4 to 15 with kBase, then the two leading bytes.
def getShortestRepresentationSize (u : Uuid) : Nat :=
  if u.uu.drop 4 ≠ kBase.uu.drop 4 then 16
  else if u.uu.getD 0 0 = 0 ∧ u.uu.getD 1 0 = 0 then 2 else 4

def as16Bit (u : Uuid) : Nat := (u.uu.getD 2 0).toNat * 256 + (u.uu.getD 3 0).toNat

def to128BitLE (u : Uuid) : List UInt8 := u.uu.reverse

def isEmpty (u : Uuid) : Bool := u = kEmpty

theorem getShortestRepresentationSize_cases (u : Uuid) :
    u.getShortestRepresentationSize = 2 ∨ u.getShortestRepresentationSize = 4 ∨
      u.getShortestRepresentationSize = 16 := by
  unfold getShortestRepresentationSize
  split_ifs <;> simp

theorem exists_cons4 (u : Uuid) : ∃ b0 b1 b2 b3 tail, u.uu = b0 :: b1 :: b2 :: b3 :: tail := by
  obtain ⟨uu,length⟩ := u
  match uu,length with
  | b0 :: b1 :: b2 :: b3 :: tail,_ => exact ⟨b0,b1,b2,b3,tail,rfl⟩

theorem from16Bit_uu (v : UInt16) :
    (from16Bit v).uu = [(0 : UInt8),0,((0xFF00 &&& v) >>> 8).toUInt8,(0x00FF &&& v).toUInt8] ++ kBase.uu.drop 4 :=
  rfl

-- The two bytes From16Bit stores are the high and the low byte of uuid16.
theorem toNat_high_byte (v : UInt16) : ((0xFF00 &&& v) >>> 8).toUInt8.toNat = v.toNat / 256 := by
  have small := v.toNat_lt
  simp only [UInt16.toNat_toUInt8,UInt16.toNat_shiftRight,UInt16.toNat_and,UInt16.reduceToNat,Nat.reduceMod]
  rw [Nat.shiftRight_and_distrib,show 65280 >>> 8 = 255 from rfl,Nat.and_comm,
    Nat.and_two_pow_sub_one_eq_mod _ 8,Nat.shiftRight_eq_div_pow]
  omega

theorem toNat_low_byte (v : UInt16) : (0x00FF &&& v).toUInt8.toNat = v.toNat % 256 := by
  simp only [UInt16.toNat_toUInt8,UInt16.toNat_and,UInt16.reduceToNat]
  rw [Nat.and_comm,Nat.and_two_pow_sub_one_eq_mod _ 8]
  omega

theorem from16Bit_shortest (v : UInt16) : (from16Bit v).getShortestRepresentationSize = 2 := by
  simp [getShortestRepresentationSize,from16Bit_uu]

theorem from16Bit_as16Bit (v : UInt16) : (from16Bit v).as16Bit = v.toNat := by
  simp only [as16Bit,from16Bit_uu,List.cons_append,List.getD_cons_succ,List.getD_cons_zero,toNat_high_byte,
    toNat_low_byte]
  omega

theorem eq_from16Bit_iff (u : Uuid) (v : UInt16) :
    u = from16Bit v ↔ u.getShortestRepresentationSize = 2 ∧ u.as16Bit = v.toNat := by
  constructor
  · rintro rfl
    exact ⟨from16Bit_shortest v,from16Bit_as16Bit v⟩
  · rintro ⟨short,held⟩
    obtain ⟨b0,b1,b2,b3,tail,split⟩ := u.exists_cons4
    have based : tail = kBase.uu.drop 4 := by
      by_contra other
      simp [getShortestRepresentationSize,split,other] at short
    have zero : b0 = 0 ∧ b1 = 0 := by
      by_contra other
      simp [getShortestRepresentationSize,split,based,other] at short
    simp only [as16Bit,split,List.getD_cons_succ,List.getD_cons_zero] at held
    have low2 := b2.toNat_lt
    have low3 := b3.toNat_lt
    apply Uuid.ext
    rw [split,from16Bit_uu,zero.1,zero.2,based,List.cons_append,List.cons_append,List.cons_append,
      List.cons_append,List.nil_append]
    simp only [List.cons.injEq,true_and,and_true]
    constructor
    · apply UInt8.toNat.inj
      rw [toNat_high_byte]
      omega
    · apply UInt8.toNat.inj
      rw [toNat_low_byte]
      omega

-- %02hhx
def hhx : Directive := .hex 2 8

def format128 : List Directive :=
  [hhx,hhx,hhx,hhx,.literal '-',hhx,hhx,.literal '-',hhx,hhx,.literal '-',hhx,hhx,.literal '-',hhx,hhx,hhx,hhx,hhx,hhx,.char]

def format32 : List Directive := [hhx,hhx,hhx,hhx,.char]

def format16 : List Directive := [hhx,hhx,.char]

-- The numbers sscanf assigned, written through p at the given indices in turn.
def store (uu : List UInt8) : List Nat → List Value → List UInt8
  | position :: positions,.number n :: values => store (uu.set position n.toUInt8) positions values
  | _,_ => uu

theorem length_store (uu : List UInt8) (positions : List Nat) (values : List Value) :
    (store uu positions values).length = uu.length := by
  induction positions generalizing uu values with
  | nil => rfl
  | cons position positions ih =>
    match values with
    | [] => rfl
    | .number n :: values => rw [store,ih,List.length_set]
    | .text _ :: _ => rfl

theorem store_range' (uu bytes : List UInt8) (k : Nat) (fits : k + bytes.length ≤ uu.length) :
    store uu (List.range' k bytes.length) (bytes.map fun b => .number b.toNat) =
      uu.take k ++ bytes ++ uu.drop (k + bytes.length) := by
  induction bytes generalizing k uu with
  | nil =>
    rw [List.length_nil,Nat.add_zero,List.append_nil,List.take_append_drop]
    rfl
  | cons b bytes ih =>
    rw [List.length_cons,List.range'_succ,List.map_cons,store,Nat.toUInt8,UInt8.ofNat_toNat]
    rw [List.length_cons] at fits
    have inside : k < uu.length := by omega
    rw [ih _ _ (by rw [List.length_set]; omega),List.set_eq_take_append_cons_drop,if_pos inside]
    have front : (uu.take k).length = k := List.length_take_of_le (by omega)
    have written : (uu.take k ++ b :: uu.drop (k + 1)).take (k + 1) = uu.take k ++ [b] := by
      rw [List.take_append,front,List.take_of_length_le (by omega),Nat.add_sub_cancel_left]
      rfl
    have kept : (uu.take k ++ b :: uu.drop (k + 1)).drop (k + 1 + bytes.length) = uu.drop (k + (bytes.length + 1)) := by
      rw [List.drop_append,front,List.drop_eq_nil_of_le (by rw [front]; omega),List.nil_append,
        show k + 1 + bytes.length - k = bytes.length + 1 by omega,List.drop_succ_cons,List.drop_drop]
      congr 1
      omega
    rw [written,kept]
    simp only [List.append_assoc,List.cons_append,List.nil_append]

-- One branch of FromString. A c that sscanf does not reach keeps the value it
-- had, which the source leaves uninitialized.
def scanInto (uuid : List Char) (format : List Directive) (positions : List Nat) (c : Char) : Uuid × Bool :=
  let scanned := sscanf uuid format
  let ret : Uuid := ⟨store kBase.uu positions scanned.values,(length_store _ _ _).trans kBase.length⟩
  if scanned.ret ≠ positions.length then (ret,false)
  else if (scanned.text positions.length [c]).headD nul ≠ nul then (ret,false)
  else (ret,true)

-- Uuid::FromString(uuid, &is_valid), with the value c holds before sscanf.
def fromString (uuid : List Char) (c : Char) : Uuid × Bool :=
  if uuid.isEmpty then (kBase,false)
  else if uuid.length = kString128BitLen then scanInto uuid format128 (List.range 16) c
  else if uuid.length = 8 then scanInto uuid format32 [0,1,2,3] c
  else if uuid.length = 4 then scanInto uuid format16 [2,3] c
  else (kBase,false)

def toString (u : Uuid) : List Char :=
  let x (i : Nat) : List Char := printHex02 (u.uu.getD i 0)
  x 0 ++ x 1 ++ x 2 ++ x 3 ++ ['-'] ++ x 4 ++ x 5 ++ ['-'] ++ x 6 ++ x 7 ++ ['-'] ++ x 8 ++ x 9 ++ ['-'] ++
    x 10 ++ x 11 ++ x 12 ++ x 13 ++ x 14 ++ x 15

example : fromString "1Ae8".toList nul = (from16Bit 0x1ae8,true) := by decide

-- %02hhx skips white space and reads a sign, and stops after one digit when
-- the next character is not one: texts that are not four hex digits pass.
example : fromString "+1ab".toList nul = (from16Bit 0x01ab,true) ∧ fromString " 1ab".toList nul = (from16Bit 0x1a0b,true) := by
  decide

theorem toString_eq (u : Uuid) : u.toString =
    printHex02 (u.uu.getD 0 0) ++ printHex02 (u.uu.getD 1 0) ++ printHex02 (u.uu.getD 2 0) ++ printHex02 (u.uu.getD 3 0) ++
      ['-'] ++ printHex02 (u.uu.getD 4 0) ++ printHex02 (u.uu.getD 5 0) ++ ['-'] ++ printHex02 (u.uu.getD 6 0) ++
      printHex02 (u.uu.getD 7 0) ++ ['-'] ++ printHex02 (u.uu.getD 8 0) ++ printHex02 (u.uu.getD 9 0) ++ ['-'] ++
      printHex02 (u.uu.getD 10 0) ++ printHex02 (u.uu.getD 11 0) ++ printHex02 (u.uu.getD 12 0) ++
      printHex02 (u.uu.getD 13 0) ++ printHex02 (u.uu.getD 14 0) ++ printHex02 (u.uu.getD 15 0) := rfl

theorem toString_length (u : Uuid) : u.toString.length = 36 := by
  simp only [toString_eq,List.length_append,length_printHex02,List.length_singleton]

theorem cString_toString (u : Uuid) : cString u.toString = u.toString := by
  apply cString_eq_self
  intro ch mem
  rw [toString_eq] at mem
  simp only [List.mem_append,List.mem_singleton] at mem
  rcases mem with ((((((((((((((((((mem | mem) | mem) | mem) | rfl) | mem) | mem) | rfl) | mem) | mem) | rfl) | mem) |
    mem) | rfl) | mem) | mem) | mem) | mem) | mem) | mem
  all_goals first | exact ne_nul_of_mem_printHex02 mem | decide

-- sscanf ends at the end of the text before %c.
theorem sscanf_toString (u : Uuid) : sscanf u.toString format128 = ⟨16,u.uu.map fun b => .number b.toNat,none⟩ := by
  rw [sscanf,cString_toString]
  obtain ⟨uu,sixteen⟩ := u
  match uu,sixteen with
  | [b0,b1,b2,b3,b4,b5,b6,b7,b8,b9,b10,b11,b12,b13,b14,b15],_ =>
    have printed : toString ⟨[b0,b1,b2,b3,b4,b5,b6,b7,b8,b9,b10,b11,b12,b13,b14,b15],rfl⟩ =
        printHex02 b0 ++ printHex02 b1 ++ printHex02 b2 ++ printHex02 b3 ++ ['-'] ++ printHex02 b4 ++ printHex02 b5 ++
          ['-'] ++ printHex02 b6 ++ printHex02 b7 ++ ['-'] ++ printHex02 b8 ++ printHex02 b9 ++ ['-'] ++
          printHex02 b10 ++ printHex02 b11 ++ printHex02 b12 ++ printHex02 b13 ++ printHex02 b14 ++ printHex02 b15 := rfl
    rw [printed,← List.append_nil (printHex02 b15)]
    simp only [format128,hhx,List.append_assoc,List.cons_append,List.nil_append,
      scanLoop_matched (run_hex_printHex02 _ _),scanLoop_matched (run_literal_same _ _)]
    rw [scanLoop,Directive.run]
    simp only [Directive.converts,Bool.or_true,Bool.or_false,↓reduceIte,Option.toList_some,List.nil_append,
      List.cons_append,List.length_cons,List.length_nil,Option.toList_none,reduceCtorEq,Nat.reduceAdd]
    rfl

theorem fromString_toString (u : Uuid) (c : Char) : fromString u.toString c = (u,decide (c = nul)) := by
  have stored : store kBase.uu (List.range 16) (u.uu.map fun b => .number b.toNat) = u.uu := by
    have window := store_range' kBase.uu u.uu 0 (by rw [u.length,kBase.length])
    rw [u.length,List.take_zero,List.nil_append,Nat.zero_add,List.drop_eq_nil_of_le kBase.length.le,
      List.append_nil] at window
    rw [List.range_eq_range']
    exact window
  have nonempty : u.toString.isEmpty = false := by
    rw [List.isEmpty_eq_false_iff,← List.length_pos_iff,toString_length]
    decide
  rw [fromString,if_neg (by rw [nonempty]; decide),if_pos (show _ = kString128BitLen from toString_length u)]
  unfold scanInto
  dsimp only
  simp only [sscanf_toString,stored,List.length_range]
  have unassigned : Scanned.text ⟨16,u.uu.map fun b => .number b.toNat,none⟩ 16 [c] = [c] := by
    rw [Scanned.text,List.getElem?_eq_none (by dsimp only; rw [List.length_map,u.length])]
  rw [unassigned,if_neg (by decide)]
  by_cases zero : c = nul
  · simp only [List.headD_cons,zero,ne_eq,not_true_eq_false,↓reduceIte,decide_true]
  · simp only [List.headD_cons,zero,ne_eq,not_false_eq_true,↓reduceIte,decide_false]

end Uuid

end BluetoothStack
