import BluetoothStack.Sdp.Record
import BluetoothStack.Lib.Machine

namespace BluetoothStack.Sdp

-- The length a value takes of the pad: all of it below SDP_MAX_PAD_LEN, else the
-- rest of the pad for text and nothing for other types.
def padLen (freePadPtr len type : Nat) : Nat :=
  if freePadPtr + len ≥ sdpMaxPadLen then (if type = textStrDescType then sdpMaxPadLen - freePadPtr else 0) else len

-- The count of bytes to move is a uint16_t that wraps if the value reached past
-- free_pad_ptr.
def sdpDeleteAttributeFromRecord (rec : SdpRecord) (attrId : Nat) : Option (SdpRecord × Bool) :=
  match (rec.attributes.findIdx? fun attr => attr.id = attrId).bind fun xx => (rec.attributes[xx]?).map (xx,·) with
  | none => some (rec,false)
  | some (xx,attr) =>
    let padPtr := attr.valuePtr
    let len := padLen rec.freePadPtr attr.len attr.type
    let moved := rec.attributes.map fun other =>
      if len ≠ 0 ∧ other.valuePtr > padPtr then {other with valuePtr := other.valuePtr - len} else other
    let removed := {rec with attributes := moved.eraseIdx xx}
    if len = 0 then some (removed,true)
    else if padPtr + len > rec.freePadPtr then none
    else
      let count := rec.freePadPtr - (padPtr + len)
      let attrPad := rec.attrPad.take padPtr ++ Buffer.slice rec.attrPad (padPtr + len) count ++
        rec.attrPad.drop (padPtr + count)
      some ({removed with attrPad,freePadPtr := rec.freePadPtr - len},true)

-- Where SDP_AddAttributeToRecord's scan stops.
def insertPoint (attrs : List SdpAttribute) (attrId : Nat) : Nat :=
  attrs.findIdx fun attr => decide (attr.id = attrId ∨ attr.id > attrId)

-- Entries are shifted up before the value is known to fit; a text value cut at
-- the pad's end gets a '\0' that writes before p_val when no pad is left.
def sdpAddAttributeToRecord (rec : SdpRecord) (attrId attrType attrLen : Nat) (pVal : List UInt8) :
    Option (SdpRecord × Bool) :=
  let xx := insertPoint rec.attributes attrId
  let replaced := match rec.attributes[xx]? with
    | some attr => if attr.id = attrId then sdpDeleteAttributeFromRecord rec attrId else some (rec,true)
    | none => some (rec,true)
  replaced.bind fun (rec,_) =>
    if rec.attributes.length ≥ sdpMaxRecAttr then some (rec,false)
    else
      let stale := match rec.attributes[xx]? with
        | some attr => attr.valuePtr
        | none => 0
      let place := fun (slot : SdpAttribute) => rec.attributes.take xx ++ slot :: rec.attributes.drop xx
      let cut := rec.freePadPtr + attrLen ≥ sdpMaxPadLen ∧ attrType = textStrDescType
      let storedLen := padLen rec.freePadPtr attrLen attrType
      if storedLen > 0 then
        if pVal.length < storedLen then none
        else
          let value := if cut then pVal.take (storedLen - 1) ++ [0] else pVal.take storedLen
          (Buffer.write rec.attrPad rec.freePadPtr value).map fun attrPad =>
            let attributes := place ⟨storedLen,rec.freePadPtr,attrId,attrType⟩
            ({rec with attributes,attrPad,freePadPtr := rec.freePadPtr + storedLen},true)
      else if cut then none
      else if attrLen ≠ 0 then some ({rec with attributes := (place ⟨0,stale,0,0⟩).take rec.attributes.length},false)
      else some ({rec with attributes := place ⟨0,stale,attrId,attrType⟩},true)

-- A null p_val is none.
def sdpAddAttribute (rec : SdpRecord) (attrId attrType attrLen : Nat) (pVal : Option (List UInt8)) :
    Option (SdpRecord × Bool) :=
  match pVal with
  | none => some (rec,false)
  | some pVal =>
    if rec.freePadPtr ≥ sdpMaxPadLen then some (rec,false) else sdpAddAttributeToRecord rec attrId attrType attrLen pVal

structure SeqElem where
  type : Nat
  len : Nat
  value : List UInt8
deriving DecidableEq, Repr

-- The loop of SDP_AddSequence: an element that takes the sequence past
-- SDP_MAX_ATTR_LEN is dropped, or fails the call when it is the first.
def buildSequence : List SeqElem → List UInt8 → Option (Option (List UInt8))
  | [],built => some (some built)
  | elem :: rest,built =>
    if elem.value.length < elem.len then none
    else
      let next := built ++ fixedHeader elem.type elem.len ++ elem.value.take elem.len
      if next.length > sdpMaxAttrLen then some (if built = [] then none else some built)
      else buildSequence rest next

def sdpAddSequence (rec : SdpRecord) (attrId : Nat) (elems : List SeqElem) : Option (SdpRecord × Bool) :=
  (buildSequence elems []).bind fun
    | none => some (rec,false)
    | some built => sdpAddAttribute rec attrId dataEleSeqDescType built.length (some built)

def sdpCreateRecord (handle : Nat) : Option SdpRecord :=
  (sdpAddAttribute ⟨handle,0,[],List.replicate sdpMaxPadLen 0⟩ 0 uintDescType 4 (some (uint32ToBeStream handle))).map
    Prod.fst

-- SDP_AddAttribute, SDP_AddSequence and SDP_DeleteAttribute on a record.
inductive DbCall where
  | add (attrId attrType attrLen : Nat) (pVal : Option (List UInt8))
  | addSequence (attrId : Nat) (elems : List SeqElem)
  | delete (attrId : Nat)
deriving DecidableEq, Repr

def dbStep (rec : SdpRecord) : DbCall → Option (SdpRecord × Bool)
  | .add attrId attrType attrLen pVal => sdpAddAttribute rec attrId attrType attrLen pVal
  | .addSequence attrId elems => sdpAddSequence rec attrId elems
  | .delete attrId => sdpDeleteAttributeFromRecord rec attrId

def dbRun : SdpRecord → List DbCall → Option (SdpRecord × List Bool) := Machine.transduce dbStep

-- What the store is meant to keep: ids strictly sorted, at most SDP_MAX_REC_ATTR,
-- values disjoint inside attr_pad[0, free_pad_ptr).
structure RecordInv (rec : SdpRecord) : Prop where
  sorted : rec.Sorted
  bounded : rec.attributes.length ≤ sdpMaxRecAttr
  padded : rec.attrPad.length = sdpMaxPadLen
  filled : rec.freePadPtr ≤ sdpMaxPadLen
  inside : ∀ attr ∈ rec.attributes, attr.len ≠ 0 → attr.valuePtr + attr.len ≤ rec.freePadPtr
  apart : rec.attributes.Pairwise fun a b =>
    a.len = 0 ∨ b.len = 0 ∨ a.valuePtr + a.len ≤ b.valuePtr ∨ b.valuePtr + b.len ≤ a.valuePtr

def twoAttrRecord : SdpRecord :=
  ⟨0x10000,6,[⟨4,0,0x0000,uintDescType⟩,⟨1,4,0x0001,uintDescType⟩,⟨1,5,0x0003,uintDescType⟩],
    [0,1,0,0,1,3] ++ List.replicate 594 0⟩

-- The value does not fit, but 0x0003 was already shifted up: the record loses it
-- and shows a cleared entry of id 0.
theorem add_attribute_failure_shifts :
    (sdpCreateRecord 0x10000).bind (dbRun · [.add 0x0001 uintDescType 1 (some [1]),.add 0x0003 uintDescType 1 (some [3])]) =
      some (twoAttrRecord,[true,true]) ∧
    twoAttrRecord.Sorted ∧
    dbStep twoAttrRecord (.add 0x0002 uintDescType 595 (some (List.replicate 595 0))) =
      some ({twoAttrRecord with attributes := [⟨4,0,0x0000,uintDescType⟩,⟨1,4,0x0001,uintDescType⟩,⟨0,5,0,0⟩]},false) ∧
    ¬ ({twoAttrRecord with attributes := [⟨4,0,0x0000,uintDescType⟩,⟨1,4,0x0001,uintDescType⟩,⟨0,5,0,0⟩]} : SdpRecord).Sorted :=
  ⟨by decide +kernel,by decide,by decide +kernel,by decide⟩

end BluetoothStack.Sdp
