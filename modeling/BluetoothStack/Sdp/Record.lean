import BluetoothStack.Stream

namespace BluetoothStack.Sdp

def uintDescType : Nat := 1
def uuidDescType : Nat := 3
def textStrDescType : Nat := 4
def dataEleSeqDescType : Nat := 6
def dataEleAltDescType : Nat := 7
def urlDescType : Nat := 8

def sizeOneByte : Nat := 0
def sizeTwoBytes : Nat := 1
def sizeFourBytes : Nat := 2
def sizeEightBytes : Nat := 3
def sizeSixteenBytes : Nat := 4
def sizeInNextByte : Nat := 5
def sizeInNextWord : Nat := 6

def sdpMaxRecAttr : Nat := 25
def sdpMaxPadLen : Nat := 600
def sdpMaxAttrLen : Nat := 400

-- tSDP_ATTRIBUTE. value_ptr points into the record's attr_pad and is kept as
-- the offset there.
structure SdpAttribute where
  len : Nat
  valuePtr : Nat
  id : Nat
  type : Nat
deriving DecidableEq, Repr

-- tSDP_RECORD, with attributes holding the first num_attributes entries of
-- its attribute array (attribute is a keyword).
structure SdpRecord where
  recordHandle : Nat
  freePadPtr : Nat
  attributes : List SdpAttribute
  attrPad : List UInt8
deriving DecidableEq, Repr

def descriptor (type size : Nat) : UInt8 := UInt8.ofNat ((type <<< 3) ||| size)

-- The types whose length travels in the header, the first switch of
-- sdpu_build_attrib_entry and of sdpu_get_attrib_entry_len.
def lengthPrefixed (type : Nat) : Bool :=
  [textStrDescType,dataEleSeqDescType,dataEleAltDescType,urlDescType].contains type

def fixedHeader (type len : Nat) : List UInt8 :=
  match len with
  | 1 => [descriptor type sizeOneByte]
  | 2 => [descriptor type sizeTwoBytes]
  | 4 => [descriptor type sizeFourBytes]
  | 8 => [descriptor type sizeEightBytes]
  | 16 => [descriptor type sizeSixteenBytes]
  | _ => [descriptor type sizeInNextByte,UInt8.ofNat len]

-- sdpu_build_attrib_entry. SDP_MAX_ATTR_LEN is 400, so a length above 0xFF
-- takes the word form and the long form is compiled out.
def sdpuBuildAttribEntry (attrPad : List UInt8) (attr : SdpAttribute) : List UInt8 :=
  descriptor uintDescType sizeTwoBytes :: uint16ToBeStream attr.id ++
    (if lengthPrefixed attr.type then
      if attr.len > 0xFF then descriptor attr.type sizeInNextWord :: uint16ToBeStream attr.len
      else [descriptor attr.type sizeInNextByte,UInt8.ofNat attr.len]
    else fixedHeader attr.type attr.len) ++ Buffer.slice attrPad attr.valuePtr attr.len

-- sdpu_get_attrib_entry_len, computed in uint16_t.
def sdpuGetAttribEntryLen (attr : SdpAttribute) : Nat :=
  if lengthPrefixed attr.type then wrap16 (3 + (if attr.len > 0xFF then 3 else 2) + attr.len)
  else wrap16 (3 + (match attr.len with | 1 | 2 | 4 | 8 | 16 => 1 | _ => 2) + attr.len)

-- tATT_ENT; end is a keyword, so its upper bound is named stop.
structure AttrEnt where
  start : Nat
  stop : Nat
deriving DecidableEq, Repr

def sdpDbFindAttrInRec (rec : SdpRecord) (startAttr endAttr : Nat) : Option SdpAttribute :=
  rec.attributes.find? fun attr => decide (startAttr ≤ attr.id ∧ attr.id ≤ endAttr)

-- The loop of sdpu_get_attrib_seq_len from entry xx; start_id moves past each
-- attribute found, in uint16_t. The C loop has no bound; out of fuel is none.
def seqLenLoop (rec : SdpRecord) (attrSeq : List AttrEnt) : Nat → Nat → Bool → Nat → Nat → Nat → Option Nat
  | 0,_,_,_,_,_ => none
  | fuel+1,xx,isRange,startId,endId,len1 =>
    match attrSeq[xx]? with
    | none => some len1
    | some entry =>
      let startId := if isRange then startId else entry.start
      let endId := if isRange then endId else entry.stop
      match sdpDbFindAttrInRec rec startId endId with
      | none => seqLenLoop rec attrSeq fuel (xx+1) false startId endId len1
      | some attr =>
        let len1 := wrap16 (len1 + sdpuGetAttribEntryLen attr)
        if startId ≠ endId then seqLenLoop rec attrSeq fuel xx true (wrap16 (attr.id + 1)) endId len1
        else seqLenLoop rec attrSeq fuel (xx+1) false startId endId len1

def sdpuGetAttribSeqLen (fuel : Nat) (rec : SdpRecord) (attrSeq : List AttrEnt) : Option Nat :=
  seqLenLoop rec attrSeq fuel 0 false 0 0 0

-- process_service_attr_req's attribute loop when every entry fits the response.
def processServiceAttrLoop (rec : SdpRecord) : Nat → Nat → List AttrEnt → Option (List UInt8)
  | 0,_,_ => none
  | fuel+1,xx,attrSeq =>
    match attrSeq[xx]? with
    | none => some []
    | some entry =>
      match sdpDbFindAttrInRec rec entry.start entry.stop with
      | none => processServiceAttrLoop rec fuel (xx+1) attrSeq
      | some attr =>
        let rest := if entry.start ≠ entry.stop then
            processServiceAttrLoop rec fuel xx (attrSeq.set xx {entry with start := wrap16 (attr.id + 1)})
          else processServiceAttrLoop rec fuel (xx+1) attrSeq
        rest.map (sdpuBuildAttribEntry rec.attrPad attr ++ ·)

-- What both loops are for: the attributes of each range in turn, each as
-- often as the ranges containing it.
def inRange (rec : SdpRecord) (startAttr endAttr : Nat) : List SdpAttribute :=
  rec.attributes.filter fun attr => decide (startAttr ≤ attr.id ∧ attr.id ≤ endAttr)

def matched (rec : SdpRecord) (attrSeq : List AttrEnt) : List SdpAttribute :=
  attrSeq.flatMap fun entry => inRange rec entry.start entry.stop

def SdpRecord.Sorted (rec : SdpRecord) : Prop := rec.attributes.Pairwise fun a b => a.id < b.id

instance (rec : SdpRecord) : Decidable rec.Sorted := inferInstanceAs (Decidable (List.Pairwise _ _))

section Walk

variable {rec : SdpRecord} {attrSeq : List AttrEnt}

theorem seqLenLoop_first {fuel xx s e len1 : Nat} {entry : AttrEnt} (indexed : attrSeq[xx]? = some entry) :
    seqLenLoop rec attrSeq fuel xx false s e len1 = seqLenLoop rec attrSeq fuel xx true entry.start entry.stop len1 := by
  cases fuel with
  | zero => rfl
  | succ fuel => simp [seqLenLoop,indexed]

section Bounded

variable (sorted : rec.Sorted) (below : ∀ attr ∈ rec.attributes, attr.id < 0xFFFF)
include sorted below

end Bounded

end Walk

-- start_id = id + 1 wraps to 0, and the walk starts over.
def topAttrRecord : SdpRecord := ⟨0x10000,1,[⟨1,0,0xFFFF,uintDescType⟩],List.replicate sdpMaxPadLen 0⟩

theorem seqLenLoop_wraps : ∀ fuel len1, seqLenLoop topAttrRecord [⟨0,0xFFFF⟩] fuel 0 true 0 0xFFFF len1 = none
  | 0,_ => rfl
  | fuel+1,len1 => by
    simp only [seqLenLoop,List.getElem?_cons_zero]
    exact seqLenLoop_wraps fuel _

theorem processServiceAttrLoop_wraps : ∀ fuel, processServiceAttrLoop topAttrRecord fuel 0 [⟨0,0xFFFF⟩] = none
  | 0 => rfl
  | fuel+1 => by
    show Option.map _ (processServiceAttrLoop topAttrRecord fuel 0 [⟨0,0xFFFF⟩]) = none
    rw [processServiceAttrLoop_wraps fuel]
    rfl

theorem attrib_seq_len_wraps_forever :
    topAttrRecord.attrPad.length = sdpMaxPadLen ∧
    (∀ attr ∈ topAttrRecord.attributes, attr.valuePtr + attr.len ≤ sdpMaxPadLen) ∧ topAttrRecord.Sorted ∧
    ∀ fuel, sdpuGetAttribSeqLen fuel topAttrRecord [⟨0,0xFFFF⟩] = none ∧
      processServiceAttrLoop topAttrRecord fuel 0 [⟨0,0xFFFF⟩] = none :=
  ⟨by simp [topAttrRecord],by decide,by decide,fun fuel =>
    ⟨by rw [sdpuGetAttribSeqLen,seqLenLoop_first rfl]; exact seqLenLoop_wraps fuel 0,processServiceAttrLoop_wraps fuel⟩⟩

end BluetoothStack.Sdp
