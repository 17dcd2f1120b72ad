import BluetoothStack.Sdp.Request

namespace BluetoothStack.Sdp

-- A UUID of 2, 4 or 16 bytes widened to 128 bits by the base UUID, as
-- sdpu_compare_uuid_arrays normalizes its operands.
def expandUuid (value : List UInt8) (len : Nat) : Option (List UInt8) :=
  if len = 2 then some (sdpBaseUuid.take 2 ++ value.take 2 ++ sdpBaseUuid.drop 4)
  else if len = 4 then some (value.take 4 ++ sdpBaseUuid.drop 4)
  else if len = 16 then some (value.take 16)
  else none

inductive DataElement where
  | uuid (value : List UInt8)
  | seq (elems : List DataElement)
  | other (type : Nat) (value : List UInt8)
deriving Repr

-- The bytes SDP_AddSequence writes for each element: the header of its type
-- and length, then its value; a nested sequence's value is its elements.
mutual
def DataElement.encode : DataElement → List UInt8
  | .uuid value => fixedHeader uuidDescType value.length ++ value
  | .seq elems => fixedHeader dataEleSeqDescType (DataElement.encodeList elems).length ++ DataElement.encodeList elems
  | .other type value => fixedHeader type value.length ++ value

def DataElement.encodeList : List DataElement → List UInt8
  | [] => []
  | elem :: rest => elem.encode ++ DataElement.encodeList rest
end

mutual
def DataElement.WellFormed : DataElement → Prop
  | .uuid value => value.length = 2 ∨ value.length = 4 ∨ value.length = 16
  | .seq elems => (DataElement.encodeList elems).length < 256 ∧ DataElement.WellFormedList elems
  | .other type value => type < 32 ∧ type ≠ uuidDescType ∧ type ≠ dataEleSeqDescType ∧ value.length < 256

def DataElement.WellFormedList : List DataElement → Prop
  | [] => True
  | elem :: rest => elem.WellFormed ∧ DataElement.WellFormedList rest
end

-- What the search is for: a UUID that widens to the target, among the
-- elements or inside sequences nested in them, down to nest level 3.
mutual
def DataElement.containsUuid (target : List UInt8) (level : Nat) : DataElement → Bool
  | .uuid value => expandUuid value value.length == some target
  | .seq elems => decide (level + 1 ≤ 3) && DataElement.containsUuidList target (level+1) elems
  | .other _ _ => false

def DataElement.containsUuidList (target : List UInt8) (level : Nat) : List DataElement → Bool
  | [] => false
  | elem :: rest => elem.containsUuid target level || DataElement.containsUuidList target level rest
end

section Compare

end Compare

section Scan

variable {uuid : List UInt8} {uuidLen : Nat}

end Scan

section Records

end Records

end BluetoothStack.Sdp
