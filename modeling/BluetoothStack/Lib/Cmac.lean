import Mathlib

namespace BluetoothStack.Cmac

@[ext] structure Block where
  bytes : List UInt8
  sized : bytes.length = 16
deriving DecidableEq

namespace Block

def zero : Block := ⟨List.replicate 16 0,rfl⟩

def xor (a b : Block) : Block := ⟨List.zipWith (· ^^^ ·) a.bytes b.bytes,by simp [a.sized,b.sized]⟩

def reverse (b : Block) : Block := ⟨b.bytes.reverse,by simp [b.sized]⟩

@[simp] theorem reverse_reverse (b : Block) : b.reverse.reverse = b := by
  ext1
  simp [reverse]

@[simp] theorem reverse_zero : zero.reverse = zero := rfl

theorem reverse_xor (a b : Block) : (a.xor b).reverse = a.reverse.xor b.reverse := by
  ext1
  exact List.reverse_zipWith (by rw [a.sized,b.sized])

theorem xor_comm (a b : Block) : a.xor b = b.xor a := by
  ext1
  exact List.zipWith_comm_of_comm UInt8.xor_comm

end Block

section Rfc4493

-- X << 1 on a bit string held big-endian in bytes: each byte moves up one
-- bit and takes in the top bit of the byte after it, the last one a zero.
def shiftLeftOne (bytes : List UInt8) : List UInt8 :=
  List.zipWith (fun b next : UInt8 => (b <<< 1) ||| (next >>> 7)) bytes (bytes.tail ++ [0])

theorem length_shiftLeftOne (bytes : List UInt8) : (shiftLeftOne bytes).length = bytes.length := by
  cases bytes <;> simp [shiftLeftOne]

def Block.shiftLeftOne (b : Block) : Block := ⟨Cmac.shiftLeftOne b.bytes,by rw [length_shiftLeftOne,b.sized]⟩

def Block.msb (b : Block) : Bool := b.bytes.headD 0 &&& 0x80 ≠ 0

def rb : Block := ⟨List.replicate 15 0 ++ [0x87],rfl⟩

-- The doubling of Generate_Subkey: K1 from L, K2 from K1.
def Block.double (b : Block) : Block := if b.msb then b.shiftLeftOne.xor rb else b.shiftLeftOne

def toBlocks : Nat → List UInt8 → List Block
  | 0,_ => []
  | n + 1,bytes =>
    if wide : 16 ≤ bytes.length then ⟨bytes.take 16,by simp; omega⟩ :: toBlocks n (bytes.drop 16) else []

def padded (bytes : List UInt8) (short : bytes.length < 16) : Block :=
  ⟨bytes ++ 0x80 :: List.replicate (15 - bytes.length) 0,by simp; omega⟩

-- M_last: a complete last block XOR K1, an incomplete one (the empty
-- message's included) padded and XOR K2.
def lastBlock (k1 k2 : Block) (last : List UInt8) : Block :=
  if short : last.length < 16 then (padded last short).xor k2 else (⟨last.take 16,by simp; omega⟩ : Block).xor k1

def blockCount (message : List UInt8) : Nat := max 1 ((message.length + 15) / 16)

variable (cipher : Block → Block → Block)

def subkeys (key : Block) : Block × Block :=
  let l := cipher key Block.zero
  (l.double,l.double.double)

-- The blocks the CBC chain runs over: M_1 .. M_{n-1} and M_last.
def cmacBlocks (key : Block) (message : List UInt8) : List Block :=
  let (k1,k2) := subkeys cipher key
  toBlocks (blockCount message - 1) message ++
    [lastBlock k1 k2 (message.drop (16 * (blockCount message - 1)))]

-- AES-CMAC of RFC 4493 with the block cipher a parameter: X := 0, then
-- X := E_K(X XOR M_i) for every block.
def cmac (key : Block) (message : List UInt8) : Block :=
  (cmacBlocks cipher key message).foldl (fun x block => cipher key (x.xor block)) Block.zero

end Rfc4493

section Blocks

theorem toBlocks_append_of_le {n : Nat} {xs : List UInt8} (ys : List UInt8) (long : 16 * n ≤ xs.length) :
    toBlocks n (xs ++ ys) = toBlocks n xs := by
  induction n generalizing xs with
  | zero => rfl
  | succ n ih =>
    have wide : 16 ≤ xs.length := by omega
    rw [toBlocks,toBlocks,dif_pos (by simp; omega),dif_pos wide]
    congr 1
    · ext1
      exact List.take_append_of_le_length wide
    · rw [List.drop_append_of_le_length wide,ih (by simp; omega)]

theorem length_toBlocks {n : Nat} {bytes : List UInt8} (long : 16 * n ≤ bytes.length) :
    (toBlocks n bytes).length = n := by
  induction n generalizing bytes with
  | zero => rfl
  | succ n ih =>
    rw [toBlocks,dif_pos (by omega),List.length_cons,ih (by simp; omega)]

theorem toBlocks_succ {n : Nat} {bytes : List UInt8} (long : 16 * (n + 1) ≤ bytes.length) :
    toBlocks (n + 1) bytes =
      toBlocks n bytes ++ [⟨(bytes.drop (16 * n)).take 16,by simp; omega⟩] := by
  induction n generalizing bytes with
  | zero => simp [toBlocks,show 16 ≤ bytes.length by omega]
  | succ n ih =>
    have wide : 16 ≤ bytes.length := by omega
    rw [toBlocks,dif_pos wide,ih (by simp; omega),toBlocks,dif_pos wide]
    simp only [List.cons_append,List.cons.injEq,List.append_cancel_left_eq,true_and,and_true]
    ext1
    simp only [List.drop_drop]
    congr 2
    omega

theorem toBlocks_reverse {n : Nat} {bytes : List UInt8} (sized : bytes.length = 16 * n) :
    toBlocks n bytes.reverse = (toBlocks n bytes).reverse.map Block.reverse := by
  induction n generalizing bytes with
  | zero => rfl
  | succ n ih =>
    have wide : 16 ≤ bytes.length := by omega
    have split : bytes.reverse = (bytes.drop 16).reverse ++ (bytes.take 16).reverse := by
      rw [← List.reverse_append,List.take_append_drop]
    have rest : (bytes.drop 16).reverse.length = 16 * n := by simp; omega
    rw [split,toBlocks_succ (by simp; omega),toBlocks_append_of_le _ (by omega),ih (by simp; omega),toBlocks,
      dif_pos wide,List.reverse_cons,List.map_append]
    simp only [List.map_cons,List.map_nil,List.append_cancel_left_eq,List.cons.injEq,and_true]
    ext1
    simp [Block.reverse,rest,List.take_of_length_le,wide]

end Blocks

end BluetoothStack.Cmac
