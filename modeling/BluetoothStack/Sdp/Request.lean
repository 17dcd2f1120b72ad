import BluetoothStack.Sdp.Record
import BluetoothStack.Types.Uuid

namespace BluetoothStack.Sdp

def sizeInNextLong : Nat := 7

def sdpBaseUuid : List UInt8 := [0x00,0x00,0x00,0x00,0x00,0x00,0x10,0x00,0x80,0x00,0x00,0x80,0x5F,0x9B,0x34,0xFB]

-- BE_STREAM_TO_UINT16 and BE_STREAM_TO_UINT32 at the front of a list.
def beToUint16 (bytes : List UInt8) : Nat := (bytes.getD 0 0).toNat * 256 + (bytes.getD 1 0).toNat

def beToUint32 (bytes : List UInt8) : Nat := beToUint16 bytes * 65536 + beToUint16 (bytes.drop 2)

-- The length after a descriptor that says it follows (SIZE_IN_NEXT_BYTE,
-- _WORD or _LONG), when those bytes are there, and the bytes after it.
def lengthField (size : Nat) (rest : List UInt8) : Option (Nat × List UInt8) :=
  if size = sizeInNextByte then (if rest.length < 1 then none else some ((rest.getD 0 0).toNat,rest.drop 1))
  else if size = sizeInNextWord then (if rest.length < 2 then none else some (beToUint16 rest,rest.drop 2))
  else if size = sizeInNextLong then (if rest.length < 4 then none else some (beToUint32 rest,rest.drop 4))
  else none

end BluetoothStack.Sdp
