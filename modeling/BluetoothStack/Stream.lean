import BluetoothStack.Lib.Buffer

namespace BluetoothStack

-- UINT16_TO_STREAM: the low byte, then the byte above it. Only the low 16 bits
-- of the value reach the stream.
def uint16ToStream (value : Nat) : List UInt8 := [UInt8.ofNat value,UInt8.ofNat (value >>> 8)]

-- STREAM_TO_UINT16 at position `pos`. A byte past the end of the list reads as
-- zero; every read the proofs rely on is shown to stay inside the list.
def streamToUint16 (bytes : List UInt8) (pos : Nat) : Nat :=
  (bytes.getD pos 0).toNat + ((bytes.getD (pos+1) 0).toNat <<< 8)

-- uint16_t arithmetic: an assignment keeps the low 16 bits.
def wrap16 (value : Nat) : Nat := value % 65536

@[simp] theorem uint16ToStream_length (value : Nat) : (uint16ToStream value).length = 2 := rfl

theorem uint16ToStream_mod (value : Nat) : uint16ToStream (value % 65536) = uint16ToStream value := by
  have low : value % 65536 % 256 = value % 256 := by omega
  have high : value % 65536 / 256 % 256 = value / 256 % 256 := by omega
  simp only [uint16ToStream,Nat.shiftRight_eq_div_pow,List.cons.injEq,and_true]
  constructor
  · apply UInt8.toNat.inj; simp only [UInt8.toNat_ofNat']; omega
  · apply UInt8.toNat.inj; simp only [UInt8.toNat_ofNat']; omega

theorem streamToUint16_lt (bytes : List UInt8) (pos : Nat) : streamToUint16 bytes pos < 65536 := by
  have low := (bytes.getD pos 0).toNat_lt
  have high := (bytes.getD (pos+1) 0).toNat_lt
  simp only [streamToUint16,Nat.shiftLeft_eq]
  omega

theorem streamToUint16_uint16ToStream (front back : List UInt8) (value : Nat) :
    streamToUint16 (front ++ uint16ToStream value ++ back) front.length = value % 65536 := by
  have first : (front ++ uint16ToStream value ++ back).getD front.length 0 = UInt8.ofNat value := by
    simp [uint16ToStream,List.getD_eq_getElem?_getD]
  have second : (front ++ uint16ToStream value ++ back).getD (front.length+1) 0 = UInt8.ofNat (value >>> 8) := by
    simp [uint16ToStream,List.getD_eq_getElem?_getD]
  rw [streamToUint16,first,second]
  simp only [UInt8.toNat_ofNat',Nat.shiftLeft_eq,Nat.shiftRight_eq_div_pow]
  omega

theorem streamToUint16_append_left {front : List UInt8} {pos : Nat} (back : List UInt8)
    (inside : pos + 2 ≤ front.length) : streamToUint16 (front ++ back) pos = streamToUint16 front pos := by
  simp only [streamToUint16,List.getD_eq_getElem?_getD,List.getElem?_append_left (show pos < front.length by omega),
    List.getElem?_append_left (show pos+1 < front.length by omega)]

theorem streamToUint16_append_right (front back : List UInt8) (pos : Nat) :
    streamToUint16 (front ++ back) (front.length + pos) = streamToUint16 back pos := by
  simp [streamToUint16,List.getD_eq_getElem?_getD,List.getElem?_append_right,Nat.add_assoc]

theorem streamToUint16_drop (bytes : List UInt8) (skip pos : Nat) :
    streamToUint16 (bytes.drop skip) pos = streamToUint16 bytes (skip+pos) := by
  simp [streamToUint16,List.getD_eq_getElem?_getD,Nat.add_assoc]

theorem uint16ToStream_add (value : Nat) : uint16ToStream (value + 65536) = uint16ToStream value := by
  rw [← uint16ToStream_mod,Nat.add_mod_right,uint16ToStream_mod]

theorem streamToUint16_head (value : Nat) (rest : List UInt8) :
    streamToUint16 (uint16ToStream value ++ rest) 0 = value % 65536 := by
  simpa using streamToUint16_uint16ToStream [] rest value

theorem streamToUint16_skip (value : Nat) (rest : List UInt8) (pos : Nat) :
    streamToUint16 (uint16ToStream value ++ rest) (pos+2) = streamToUint16 rest pos := by
  rw [Nat.add_comm,← uint16ToStream_length value,streamToUint16_append_right]

theorem streamToUint16_take (bytes : List UInt8) {pos count : Nat} (inside : pos + 2 ≤ count) :
    streamToUint16 (bytes.take count) pos = streamToUint16 bytes pos := by
  simp [streamToUint16,List.getD_eq_getElem?_getD,show pos < count by omega,show pos+1 < count by omega]

theorem uint16ToStream_streamToUint16 {bytes : List UInt8} {pos : Nat} (inside : pos + 2 ≤ bytes.length) :
    uint16ToStream (streamToUint16 bytes pos) = (bytes.drop pos).take 2 := by
  obtain ⟨low,high,rest,split⟩ : ∃ low high rest, bytes.drop pos = low :: high :: rest := by
    have sized : 2 ≤ (bytes.drop pos).length := by simp; omega
    generalize bytes.drop pos = dropped at sized
    rcases dropped with _ | ⟨low,_ | ⟨high,rest⟩⟩
    · simp at sized
    · simp at sized
    · exact ⟨low,high,rest,rfl⟩
  have read : streamToUint16 bytes pos = low.toNat + (high.toNat <<< 8) := by
    rw [← Nat.add_zero pos,← streamToUint16_drop,split]
    rfl
  have lowBound := low.toNat_lt
  have highBound := high.toNat_lt
  rw [read,split]
  simp only [uint16ToStream,List.take_succ_cons,List.take_zero,List.cons.injEq,and_true]
  constructor
  · apply UInt8.toNat.inj
    simp only [UInt8.toNat_ofNat',Nat.shiftLeft_eq]
    omega
  · apply UInt8.toNat.inj
    simp only [UInt8.toNat_ofNat',Nat.shiftLeft_eq,Nat.shiftRight_eq_div_pow]
    omega

theorem uint16ToStream_fields {bytes : List UInt8} (long : 4 ≤ bytes.length) :
    uint16ToStream (streamToUint16 bytes 0) ++ uint16ToStream (streamToUint16 bytes 2) ++ bytes.drop 4 = bytes := by
  rw [uint16ToStream_streamToUint16 (by omega),uint16ToStream_streamToUint16 (by omega),List.drop_zero,
    List.append_assoc,show bytes.drop 4 = (bytes.drop 2).drop 2 by rw [List.drop_drop],List.take_append_drop,
    List.take_append_drop]

theorem streamToUint16_write_same {bytes out : List UInt8} {pos value : Nat}
    (written : Buffer.write bytes pos (uint16ToStream value) = some out) : streamToUint16 out pos = value % 65536 := by
  have fits := Buffer.write_fits written
  rw [Buffer.write_eq fits] at written
  cases Option.some.inj written
  have taken : (bytes.take pos).length = pos := by simp at fits ⊢; omega
  simpa [taken] using streamToUint16_uint16ToStream (bytes.take pos) (bytes.drop (pos+2)) value

theorem streamToUint16_write_other {bytes src out : List UInt8} {pos start : Nat}
    (written : Buffer.write bytes start src = some out) (apart : pos + 2 ≤ start ∨ start + src.length ≤ pos) :
    streamToUint16 out pos = streamToUint16 bytes pos := by
  simp only [streamToUint16,List.getD_eq_getElem?_getD,Buffer.getElem?_write written]
  rw [if_neg (by omega),if_neg (by omega)]

theorem streamToUint16_slice (bytes : List UInt8) {pos len index : Nat} (inside : index + 2 ≤ len) :
    streamToUint16 (Buffer.slice bytes pos len) index = streamToUint16 bytes (pos + index) := by
  rw [Buffer.slice,streamToUint16_take _ inside,streamToUint16_drop]

def uint16ToBeStream (value : Nat) : List UInt8 := [UInt8.ofNat (value >>> 8),UInt8.ofNat value]

def uint32ToBeStream (value : Nat) : List UInt8 :=
  [UInt8.ofNat (value >>> 24),UInt8.ofNat (value >>> 16),UInt8.ofNat (value >>> 8),UInt8.ofNat value]

@[simp] theorem uint32ToBeStream_length (value : Nat) : (uint32ToBeStream value).length = 4 := rfl

end BluetoothStack
