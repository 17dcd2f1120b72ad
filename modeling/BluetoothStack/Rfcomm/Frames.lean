import BluetoothStack.Hci.Fragmentation

namespace BluetoothStack.Rfcomm

open PacketFragmenter (BtHdr)

-- RFCOMM frames (GSM 07.10): address, control, one or two length bytes, an
-- optional credit byte, the information and one FCS byte.

def rfcommSabme : UInt8 := 0x2F
def rfcommUa : UInt8 := 0x63
def rfcommDm : UInt8 := 0x0F
def rfcommDisc : UInt8 := 0x43
def rfcommUih : UInt8 := 0xEF

def rfcommCtrlFrameLen : Nat := 3
-- Room a sender leaves before the information: control, one or two length
-- bytes and a credit byte.
def rfcommMinOffset : Nat := 5

def rfcommEa : UInt8 := 1
def rfcommCrMask : UInt8 := 0x02
def rfcommPf : UInt8 := 0x10
def rfcommPfMask : UInt8 := 0x10

def rfcommMaxDlci : UInt8 := 61
def rfcommMxDlci : UInt8 := 0

def rfcommValidDlci (dlci : UInt8) : Bool := dlci == 0 || (dlci ≥ 2 && dlci ≤ rfcommMaxDlci)

def rfcommFrameIsCmd (initiator : Bool) (cr : UInt8) : Bool := (initiator && cr == 0) || (!initiator && cr != 0)

def rfcommFrameIsRsp (initiator : Bool) (cr : UInt8) : Bool := (initiator && cr != 0) || (!initiator && cr == 0)

def rfcommCr (initiator isCommand : Bool) : UInt8 :=
  if (initiator && isCommand) || (!initiator && !isCommand) then 2 else 0

inductive PortFc where
  | undefined
  | ts710
  | credit
  deriving DecidableEq, Repr

-- The fields of tRFC_MCB the frame functions read.
structure RfcMcb where
  isInitiator : Bool
  flow : PortFc
  lcid : Nat
  deriving DecidableEq, Repr

-- The header fields of MX_FRAME that rfc_parse_data fills in.
structure MxFrame where
  dlci : UInt8
  type : UInt8
  cr : UInt8
  pf : UInt8
  credit : UInt8
  deriving DecidableEq, Repr

inductive RfcEvent where
  | sabme
  | ua
  | dm
  | disc
  | uih
  | badFrame
  deriving DecidableEq, Repr

section Fcs

def rfcCrctable : List UInt8 := [
    0x00,0x91,0xE3,0x72,0x07,0x96,0xE4,0x75,0x0E,0x9F,0xED,0x7C,0x09,0x98,0xEA,0x7B,
    0x1C,0x8D,0xFF,0x6E,0x1B,0x8A,0xF8,0x69,0x12,0x83,0xF1,0x60,0x15,0x84,0xF6,0x67,
    0x38,0xA9,0xDB,0x4A,0x3F,0xAE,0xDC,0x4D,0x36,0xA7,0xD5,0x44,0x31,0xA0,0xD2,0x43,
    0x24,0xB5,0xC7,0x56,0x23,0xB2,0xC0,0x51,0x2A,0xBB,0xC9,0x58,0x2D,0xBC,0xCE,0x5F,
    0x70,0xE1,0x93,0x02,0x77,0xE6,0x94,0x05,0x7E,0xEF,0x9D,0x0C,0x79,0xE8,0x9A,0x0B,
    0x6C,0xFD,0x8F,0x1E,0x6B,0xFA,0x88,0x19,0x62,0xF3,0x81,0x10,0x65,0xF4,0x86,0x17,
    0x48,0xD9,0xAB,0x3A,0x4F,0xDE,0xAC,0x3D,0x46,0xD7,0xA5,0x34,0x41,0xD0,0xA2,0x33,
    0x54,0xC5,0xB7,0x26,0x53,0xC2,0xB0,0x21,0x5A,0xCB,0xB9,0x28,0x5D,0xCC,0xBE,0x2F,
    0xE0,0x71,0x03,0x92,0xE7,0x76,0x04,0x95,0xEE,0x7F,0x0D,0x9C,0xE9,0x78,0x0A,0x9B,
    0xFC,0x6D,0x1F,0x8E,0xFB,0x6A,0x18,0x89,0xF2,0x63,0x11,0x80,0xF5,0x64,0x16,0x87,
    0xD8,0x49,0x3B,0xAA,0xDF,0x4E,0x3C,0xAD,0xD6,0x47,0x35,0xA4,0xD1,0x40,0x32,0xA3,
    0xC4,0x55,0x27,0xB6,0xC3,0x52,0x20,0xB1,0xCA,0x5B,0x29,0xB8,0xCD,0x5C,0x2E,0xBF,
    0x90,0x01,0x73,0xE2,0x97,0x06,0x74,0xE5,0x9E,0x0F,0x7D,0xEC,0x99,0x08,0x7A,0xEB,
    0x8C,0x1D,0x6F,0xFE,0x8B,0x1A,0x68,0xF9,0x82,0x13,0x61,0xF0,0x85,0x14,0x66,0xF7,
    0xA8,0x39,0x4B,0xDA,0xAF,0x3E,0x4C,0xDD,0xA6,0x37,0x45,0xD4,0xA1,0x30,0x42,0xD3,
    0xB4,0x25,0x57,0xC6,0xB3,0x22,0x50,0xC1,0xBA,0x2B,0x59,0xC8,0xBD,0x2C,0x5E,0xCF]

def rfcCrcStep (fcs b : UInt8) : UInt8 := rfcCrctable.getD (fcs ^^^ b).toNat 0

def rfcCalcFcs (p : List UInt8) : UInt8 := 0xFF - p.foldl rfcCrcStep 0xFF

def rfcCheckFcs (p : List UInt8) (receivedFcs : UInt8) : Bool := rfcCrcStep (p.foldl rfcCrcStep 0xFF) receivedFcs == 0xCF

theorem xor_complement (f : UInt8) : f ^^^ (0xFF - f) = 0xFF := by
  rw [← UInt8.toBitVec_inj,UInt8.toBitVec_xor,UInt8.toBitVec_sub]
  have ones : (0xFF : UInt8).toBitVec = BitVec.allOnes 8 := by decide
  rw [ones,BitVec.allOnes_sub_eq_not,← BitVec.not_xor_right,BitVec.xor_self,BitVec.not_zero]

-- The register meets its own complement, and the table maps 0xFF to the good
-- residue 0xCF.
theorem rfcCheckFcs_calc (p : List UInt8) : rfcCheckFcs p (rfcCalcFcs p) = true := by
  have residue : rfcCrctable.getD 255 0 = 0xCF := by decide
  rw [rfcCheckFcs,rfcCalcFcs,rfcCrcStep,xor_complement]
  exact beq_iff_eq.mpr residue

end Fcs

section Send

-- The header rfc_send_buf_uih writes before the information.
def uihHeader (cr dlci credits : UInt8) (len : Nat) : List UInt8 :=
  (rfcommEa ||| cr ||| (dlci <<< 2)) :: (rfcommUih ||| if credits ≠ 0 then rfcommPf else 0) ::
    ((if len ≤ 127 then [rfcommEa ||| (len <<< 1).toUInt8] else [((len &&& 0x7f) <<< 1).toUInt8,(len >>> 7).toUInt8]) ++
      if credits ≠ 0 then [credits] else [])

-- Where the frame goes: the multiplexer channel's command queue
-- (rfc_check_send_cmd), or L2CAP.
inductive UihDest where
  | checkSendCmd
  | l2caDataWrite (lcid : Nat)
  deriving DecidableEq, Repr

def rfcSendBufUih (mcb : RfcMcb) (dlci : UInt8) (buf : BtHdr) : Option (UihDest × BtHdr) :=
  let cr := rfcommCr mcb.isInitiator true
  let credits : UInt8 := if dlci ≠ 0 then buf.layerSpecific.toUInt8 else 0
  let header := uihHeader cr dlci credits buf.len
  -- The offset moves back over the header; below its length the uint16_t
  -- offset would leave the buffer.
  if buf.offset < header.length then none
  else
    let offset := buf.offset - header.length
    (Buffer.write buf.data offset header).bind fun data =>
      (Buffer.write data (offset + header.length + buf.len) [rfcCalcFcs (Buffer.slice data offset 2)]).map fun data =>
        (if dlci = rfcommMxDlci then .checkSendCmd else .l2caDataWrite mcb.lcid,
          {buf with offset,len := header.length + buf.len + 1,data})

end Send

section Parse

-- RFCOMM_PARSE_CTRL_FIELD: the EA bit, the C/R bit and the DLCI, which takes
-- a second byte when EA is clear.
def rfcommParseCtrlField (first second : UInt8) : UInt8 × UInt8 × UInt8 :=
  let ea := first &&& rfcommEa
  let dlci := first >>> 2
  (ea,(first &&& rfcommCrMask) >>> 1,if ea = 0 then dlci + (second <<< 6) else dlci)

def rfcommParseTypeField (b : UInt8) : UInt8 × UInt8 := (b &&& ~~~rfcommPfMask,(b &&& rfcommPfMask) >>> 4)

-- The switch on the frame type. start is the frame from its first byte; the
-- control frames check the FCS over three bytes, UIH frames over two.
def rfcFrameEvent (mcb : RfcMcb) (frame : MxFrame) (len : Nat) (start : List UInt8) (fcs : UInt8) : RfcEvent :=
  if frame.type = rfcommSabme then
    if rfcommFrameIsRsp mcb.isInitiator frame.cr || frame.pf == 0 || len != 0 || !rfcommValidDlci frame.dlci ||
      !rfcCheckFcs (start.take rfcommCtrlFrameLen) fcs then .badFrame else .sabme
  else if frame.type = rfcommUa then
    if rfcommFrameIsCmd mcb.isInitiator frame.cr || frame.pf == 0 || len != 0 || !rfcommValidDlci frame.dlci ||
      !rfcCheckFcs (start.take rfcommCtrlFrameLen) fcs then .badFrame else .ua
  else if frame.type = rfcommDm then
    if rfcommFrameIsCmd mcb.isInitiator frame.cr || len != 0 || !rfcommValidDlci frame.dlci ||
      !rfcCheckFcs (start.take rfcommCtrlFrameLen) fcs then .badFrame else .dm
  else if frame.type = rfcommDisc then
    if rfcommFrameIsRsp mcb.isInitiator frame.cr || frame.pf == 0 || len != 0 || !rfcommValidDlci frame.dlci ||
      !rfcCheckFcs (start.take rfcommCtrlFrameLen) fcs then .badFrame else .disc
  else if frame.type = rfcommUih then
    -- A UIH response is let through, for implementations that send them.
    if !rfcommValidDlci frame.dlci then .badFrame
    else if !rfcCheckFcs (start.take 2) fcs then .badFrame
    else .uih
  else .badFrame

def rfcParseDataTail (mcb : RfcMcb) (frame : MxFrame) (buf : BtHdr) (len : Nat) (start : List UInt8) :
    RfcEvent × MxFrame × BtHdr :=
  if buf.len ≠ len then (.badFrame,frame,buf)
  else (rfcFrameEvent mcb frame len start (buf.data.getD (buf.offset + len) 0),frame,buf)

def rfcParseDataCredit (mcb : RfcMcb) (frame : MxFrame) (buf : BtHdr) (len : Nat) (start : List UInt8) :
    RfcEvent × MxFrame × BtHdr :=
  if mcb.flow = .credit ∧ frame.type = rfcommUih ∧ frame.dlci ≠ rfcommMxDlci ∧ frame.pf = 1 then
    if buf.len < 1 then (.badFrame,frame,buf)
    else
      rfcParseDataTail mcb {frame with credit := buf.data.getD buf.offset 0}
        {buf with len := buf.len - 1,offset := buf.offset + 1} len start
  else rfcParseDataTail mcb {frame with credit := 0} buf len start

-- p_frame is filled in as the fields are read: the fields read before a bad
-- frame is found are left in it.
def rfcParseData (mcb : RfcMcb) (frame : MxFrame) (buf : BtHdr) : RfcEvent × MxFrame × BtHdr :=
  let byteAt (k : Nat) : UInt8 := buf.data.getD (buf.offset + k) 0
  let start := buf.data.drop buf.offset
  if buf.len < rfcommCtrlFrameLen then (.badFrame,frame,buf)
  else
    let ctrl := rfcommParseCtrlField (byteAt 0) (byteAt 1)
    let frame := {frame with cr := ctrl.2.1,dlci := ctrl.2.2}
    if ctrl.1 = 0 then (.badFrame,frame,buf)
    else
      let frame := {frame with type := (rfcommParseTypeField (byteAt 1)).1,pf := (rfcommParseTypeField (byteAt 1)).2}
      let eal := byteAt 2 &&& rfcommEa
      if eal = 0 ∧ buf.len ≤ rfcommCtrlFrameLen then (.badFrame,frame,buf)
      else
        let len := (byteAt 2 >>> 1).toNat + if eal = 0 then (byteAt 3).toNat <<< 7 else 0
        let header := 3 + (if ctrl.1 = 0 then 1 else 0) + (if eal = 0 then 1 else 0)
        if buf.len < header + 1 then (.badFrame,frame,buf)
        else rfcParseDataCredit mcb frame {buf with len := buf.len - (header + 1),offset := buf.offset + header} len start

end Parse

end BluetoothStack.Rfcomm
