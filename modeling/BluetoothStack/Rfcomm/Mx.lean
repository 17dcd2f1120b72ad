import BluetoothStack.Rfcomm.RoundTrip
import BluetoothStack.L2cap.Signalling

namespace BluetoothStack.Rfcomm

open PacketFragmenter (BtHdr)

-- Multiplexer control messages on DLCI 0: a type byte with the EA and C/R bits,
-- a length byte, and the message's values.

def rfcommEaMask : UInt8 := 0x01
def rfcommShiftCr : UInt8 := 1
def rfcommShiftDlci : UInt8 := 2
def rfcommShiftLength1 : UInt8 := 1
def rfcommShiftLength2 : UInt8 := 7

def rfcommICr (isCommand : Bool) : UInt8 := if isCommand then 0x02 else 0x00

def rfcommPnDlciMask : UInt8 := 0x3F
def rfcommPnFramTypeUih : UInt8 := 0x00
def rfcommPnFrameTypeMask : UInt8 := 0x0F
def rfcommPnConvLayerMask : UInt8 := 0xF0
def rfcommPnPriorityMask : UInt8 := 0x3F
def rfcommPnPriority0 : UInt8 := 0
def rfcommPnKMask : UInt8 := 0x07
def rfcommT1Dsec : UInt8 := 0
def rfcommN2 : UInt8 := 0

def rfcommMscFc : UInt8 := 0x02
def rfcommMscRtc : UInt8 := 0x04
def rfcommMscRtr : UInt8 := 0x08
def rfcommMscIc : UInt8 := 0x40
def rfcommMscDv : UInt8 := 0x80
def rfcommMscShiftBreak : UInt8 := 4
def rfcommMscBreakMask : UInt8 := 0xF0
def rfcommMscBreakPresentMask : UInt8 := 0x02

def rfcommRpnBitsMask : UInt8 := 0x03
def rfcommRpnBitsShift : UInt8 := 0
def rfcommRpnStopBitsMask : UInt8 := 0x01
def rfcommRpnStopBitsShift : UInt8 := 2
def rfcommRpnParityMask : UInt8 := 0x01
def rfcommRpnParityShift : UInt8 := 3
def rfcommRpnParityTypeMask : UInt8 := 0x03
def rfcommRpnParityTypeShift : UInt8 := 4
def rfcommFcMask : UInt8 := 0x3F
def rfcommRpnPmMask : UInt16 := 0x3F7F

def rfcommRlsError : UInt8 := 0x01

def rfcommMxPn : UInt8 := 0x80
def rfcommMxPnLen : Nat := 8
def rfcommMxTest : UInt8 := 0x20
def rfcommMxFcon : UInt8 := 0xA0
def rfcommMxFconLen : Nat := 0
def rfcommMxFcoff : UInt8 := 0x60
def rfcommMxFcoffLen : Nat := 0
def rfcommMxMsc : UInt8 := 0xE0
def rfcommMxMscLenNoBreak : Nat := 2
def rfcommMxMscLenWithBreak : Nat := 3
def rfcommMxNsc : UInt8 := 0x10
def rfcommMxNscLen : Nat := 1
def rfcommMxRpn : UInt8 := 0x90
def rfcommMxRpnReqLen : Nat := 1
def rfcommMxRpnLen : Nat := 8
def rfcommMxRls : UInt8 := 0x50
def rfcommMxRlsLen : Nat := 2

def rfcommMinMtu : Nat := 23
def rfcommMaxMtu : Nat := 32767

def modemSignalDtrdsr : UInt8 := 0x01
def modemSignalRtscts : UInt8 := 0x02
def modemSignalRi : UInt8 := 0x04
def modemSignalDcd : UInt8 := 0x08

def rfcommCmdBufSize : Nat := L2cap.btSmallBufferSize

-- The fields of tPORT_CTRL that rfc_send_msc reads and rfc_process_msc fills
-- in.
structure PortCtrl where
  modemSignal : UInt8
  breakSignal : UInt8
  fc : Bool
  deriving DecidableEq, Repr

-- The fields of tPORT_STATE that rfc_send_rpn reads.
structure PortState where
  baudRate : UInt8
  byteSize : UInt8
  stopBits : UInt8
  parity : UInt8
  parityType : UInt8
  fcType : UInt8
  xonChar : UInt8
  xoffChar : UInt8
  deriving DecidableEq, Repr

section Send

-- The buffer rfc_send_* fill in before rfc_send_buf_uih: the message at
-- L2CAP_MIN_OFFSET + RFCOMM_CTRL_FRAME_LEN in a buffer of RFCOMM_CMD_BUF_SIZE.
def mxBuf (message : List UInt8) : BtHdr :=
  let offset := L2cap.l2capMinOffset + rfcommCtrlFrameLen
  { event := 0,len := message.length,offset,layerSpecific := 0,
    data := List.replicate offset 0 ++ message ++
      List.replicate (rfcommCmdBufSize - PacketFragmenter.btHdrSize - offset - message.length) 0 }

def mxAddress (dlci : UInt8) : UInt8 := rfcommEa ||| rfcommCrMask ||| (dlci <<< rfcommShiftDlci)

-- rxPriority is the priority of the last PN received, which a response
-- repeats.
def pnMessage (dlci : UInt8) (isCommand : Bool) (mtu : UInt16) (cl k rxPriority : UInt8) : List UInt8 :=
  [rfcommEa ||| rfcommICr isCommand ||| rfcommMxPn,rfcommEa ||| (rfcommMxPnLen <<< 1).toUInt8,dlci,
    rfcommPnFramTypeUih ||| cl,if isCommand then rfcommPnPriority0 else rxPriority,rfcommT1Dsec,
    (mtu &&& 0xFF).toUInt8,(mtu >>> 8).toUInt8,rfcommN2,k]

def rfcSendPn (mcb : RfcMcb) (dlci : UInt8) (isCommand : Bool) (mtu : UInt16) (cl k rxPriority : UInt8) :
    Option (UihDest × BtHdr) :=
  rfcSendBufUih mcb rfcommMxDlci (mxBuf (pnMessage dlci isCommand mtu cl k rxPriority))

def mscSignals (pars : PortCtrl) : UInt8 :=
  rfcommEa ||| (if pars.fc then rfcommMscFc else 0) |||
    (if pars.modemSignal &&& modemSignalDtrdsr ≠ 0 then rfcommMscRtc else 0) |||
    (if pars.modemSignal &&& modemSignalRtscts ≠ 0 then rfcommMscRtr else 0) |||
    (if pars.modemSignal &&& modemSignalRi ≠ 0 then rfcommMscIc else 0) |||
    (if pars.modemSignal &&& modemSignalDcd ≠ 0 then rfcommMscDv else 0)

def mscMessage (dlci : UInt8) (isCommand : Bool) (pars : PortCtrl) : List UInt8 :=
  let breakDuration := pars.breakSignal
  let len := if breakDuration ≠ 0 then rfcommMxMscLenWithBreak else rfcommMxMscLenNoBreak
  [rfcommEa ||| rfcommICr isCommand ||| rfcommMxMsc,rfcommEa ||| (len <<< 1).toUInt8,mxAddress dlci,mscSignals pars] ++
    if breakDuration ≠ 0 then [rfcommEa ||| rfcommMscBreakPresentMask ||| (breakDuration <<< rfcommMscShiftBreak)]
    else []

def rfcSendMsc (mcb : RfcMcb) (dlci : UInt8) (isCommand : Bool) (pars : PortCtrl) : Option (UihDest × BtHdr) :=
  rfcSendBufUih mcb rfcommMxDlci (mxBuf (mscMessage dlci isCommand pars))

def rlsMessage (dlci : UInt8) (isCommand : Bool) (status : UInt8) : List UInt8 :=
  [rfcommEa ||| rfcommICr isCommand ||| rfcommMxRls,rfcommEa ||| (rfcommMxRlsLen <<< 1).toUInt8,mxAddress dlci,
    rfcommRlsError ||| status]

def rfcSendRls (mcb : RfcMcb) (dlci : UInt8) (isCommand : Bool) (status : UInt8) : Option (UihDest × BtHdr) :=
  rfcSendBufUih mcb rfcommMxDlci (mxBuf (rlsMessage dlci isCommand status))

-- Without port parameters rfc_send_rpn sends the request form.
def rpnMessage (dlci : UInt8) (isCommand : Bool) (pars : Option PortState) (mask : UInt16) : List UInt8 :=
  match pars with
  | none => [rfcommEa ||| rfcommICr isCommand ||| rfcommMxRpn,rfcommEa ||| (rfcommMxRpnReqLen <<< 1).toUInt8,mxAddress dlci]
  | some pars =>
    [rfcommEa ||| rfcommICr isCommand ||| rfcommMxRpn,rfcommEa ||| (rfcommMxRpnLen <<< 1).toUInt8,mxAddress dlci,
      pars.baudRate,
      (pars.byteSize <<< rfcommRpnBitsShift) ||| (pars.stopBits <<< rfcommRpnStopBitsShift) |||
        (pars.parity <<< rfcommRpnParityShift) ||| (pars.parityType <<< rfcommRpnParityTypeShift),
      pars.fcType,pars.xonChar,pars.xoffChar,(mask &&& 0xFF).toUInt8,(mask >>> 8).toUInt8]

def rfcSendRpn (mcb : RfcMcb) (dlci : UInt8) (isCommand : Bool) (pars : Option PortState) (mask : UInt16) :
    Option (UihDest × BtHdr) :=
  rfcSendBufUih mcb rfcommMxDlci (mxBuf (rpnMessage dlci isCommand pars mask))

end Send

section Receive

-- The union fields of rx_frame that rfc_process_mx_message fills in for each
-- message.
structure PnParams where
  frameType : UInt8
  convLayer : UInt8
  priority : UInt8
  t1 : UInt8
  mtu : UInt16
  n2 : UInt8
  k : UInt8
  deriving DecidableEq, Repr

structure MscParams where
  signals : UInt8
  breakPresent : UInt8
  breakDuration : UInt8
  deriving DecidableEq, Repr

structure NscParams where
  ea : UInt8
  cr : UInt8
  type : UInt8
  deriving DecidableEq, Repr

structure RpnParams where
  baudRate : UInt8
  byteSize : UInt8
  stopBits : UInt8
  parity : UInt8
  parityType : UInt8
  fcType : UInt8
  xonChar : UInt8
  xoffChar : UInt8
  paramMask : UInt16
  deriving DecidableEq, Repr

-- What rfc_process_mx_message does with a message: drop it, hand it to an
-- rfc_process_* handler, answer a command it cannot take with NSC, or free it.
inductive MxOutcome where
  | dropped
  | pn (isCommand : Bool) (dlci : UInt8) (params : PnParams)
  | test (isCommand : Bool) (buf : BtHdr)
  | fcon (isCommand : Bool)
  | fcoff (isCommand : Bool)
  | msc (isCommand : Bool) (dlci : UInt8) (params : MscParams)
  | nsc (params : NscParams)
  | rpn (isCommand : Bool) (dlci : UInt8) (params : Option RpnParams)
  | rls (isCommand : Bool) (dlci : UInt8) (lineStatus : UInt8)
  | sendNsc (rejected : UInt8)
  | ignored

-- The address checks of MSC, RPN and RLS: EA and C/R set, a valid DLCI
-- other than 0.
def mxAddressValid (b : UInt8) : Bool :=
  let dlci := b >>> rfcommShiftDlci
  b &&& rfcommEa != 0 && (b &&& rfcommCrMask) >>> rfcommShiftCr != 0 && dlci != 0 && rfcommValidDlci dlci

def pnParams (values : List UInt8) : PnParams :=
  let v (k : Nat) : UInt8 := values.getD k 0
  { frameType := v 1 &&& rfcommPnFrameTypeMask,convLayer := v 1 &&& rfcommPnConvLayerMask,
    priority := v 2 &&& rfcommPnPriorityMask,t1 := v 3,mtu := ((v 4).toNat + ((v 5).toNat <<< 8)).toUInt16,
    n2 := v 6,k := v 7 &&& rfcommPnKMask }

def rpnParams (values : List UInt8) : RpnParams :=
  let v (k : Nat) : UInt8 := values.getD k 0
  { baudRate := v 1,byteSize := (v 2 >>> rfcommRpnBitsShift) &&& rfcommRpnBitsMask,
    stopBits := (v 2 >>> rfcommRpnStopBitsShift) &&& rfcommRpnStopBitsMask,
    parity := (v 2 >>> rfcommRpnParityShift) &&& rfcommRpnParityMask,
    parityType := (v 2 >>> rfcommRpnParityTypeShift) &&& rfcommRpnParityTypeMask,fcType := v 3 &&& rfcommFcMask,
    xonChar := v 4,xoffChar := v 5,paramMask := ((v 6).toNat + ((v 7).toNat <<< 8)).toUInt16 &&& rfcommRpnPmMask }

-- A message that fails its checks falls out of the switch, where a command is
-- answered with NSC.
def mxDispatch (isCommand : Bool) (typeByte : UInt8) (mxLen : UInt8) (length : Nat) (values : List UInt8) (buf : BtHdr) :
    MxOutcome :=
  let type := typeByte &&& ~~~(rfcommCrMask ||| rfcommEaMask)
  let v (k : Nat) : UInt8 := values.getD k 0
  let unsupported : MxOutcome :=
    if isCommand then .sendNsc ((typeByte &&& rfcommEa) ||| (((typeByte &&& rfcommCrMask) >>> rfcommShiftCr) <<< rfcommShiftCr) ||| type)
    else .ignored
  if type = rfcommMxPn then
    if length ≠ rfcommMxPnLen then unsupported
    else
      let dlci := v 0 &&& rfcommPnDlciMask
      let params := pnParams values
      if dlci = 0 ∨ !rfcommValidDlci dlci ∨ params.mtu.toNat < rfcommMinMtu ∨ params.mtu.toNat > rfcommMaxMtu then
        unsupported
      else .pn isCommand dlci params
  else if type = rfcommMxTest then
    if length = 0 then unsupported else .test isCommand {buf with offset := buf.offset + 2,len := buf.len - 2}
  else if type = rfcommMxFcon then
    if length ≠ rfcommMxFconLen then unsupported else .fcon isCommand
  else if type = rfcommMxFcoff then
    if length ≠ rfcommMxFcoffLen then unsupported else .fcoff isCommand
  else if type = rfcommMxMsc then
    -- A bad length is dropped here, not answered.
    if length ≠ rfcommMxMscLenWithBreak ∧ length ≠ rfcommMxMscLenNoBreak then .dropped
    else if !mxAddressValid (v 0) then unsupported
    else
      .msc isCommand (v 0 >>> rfcommShiftDlci)
        (if mxLen.toNat = rfcommMxMscLenWithBreak then
          ⟨v 1,v 2 &&& rfcommMscBreakPresentMask,(v 2 &&& rfcommMscBreakMask) >>> rfcommMscShiftBreak⟩
        else ⟨v 1,0,0⟩)
  else if type = rfcommMxNsc then
    if length ≠ rfcommMxNscLen ∨ !isCommand then unsupported
    else .nsc ⟨v 0 &&& rfcommEa,(v 0 &&& rfcommCrMask) >>> rfcommShiftCr,v 0 >>> rfcommShiftDlci⟩
  else if type = rfcommMxRpn then
    if length ≠ rfcommMxRpnReqLen ∧ length ≠ rfcommMxRpnLen then unsupported
    else if !mxAddressValid (v 0) then unsupported
    else if length = rfcommMxRpnReqLen then .rpn isCommand (v 0 >>> rfcommShiftDlci) none
    else .rpn isCommand (v 0 >>> rfcommShiftDlci) (some (rpnParams values))
  else if type = rfcommMxRls then
    if length ≠ rfcommMxRlsLen then unsupported
    else if !mxAddressValid (v 0) then unsupported
    else .rls isCommand (v 0 >>> rfcommShiftDlci) (v 1 &&& ~~~0x01)
  else unsupported

-- The length field takes a second byte when its EA bit is clear; mx_len is a
-- uint8_t, so the second byte only adds its low bit.
def rfcProcessMxMessage (buf : BtHdr) : MxOutcome :=
  let p := buf.bytes
  let length := buf.len
  if length < 2 then .dropped
  else
    let typeByte := p.getD 0 0
    if typeByte &&& rfcommEa = 0 ∨ length = 0 then .dropped
    else
      let isCommand := (typeByte &&& rfcommCrMask) >>> rfcommShiftCr ≠ 0
      let lengthByte := p.getD 1 0
      let mxLen := lengthByte >>> rfcommShiftLength1
      if lengthByte &&& rfcommEa = 0 then
        if length - 2 < 1 then .dropped
        else
          let mxLen := mxLen + (p.getD 2 0 <<< rfcommShiftLength2)
          if mxLen.toNat ≠ length - 3 then .dropped
          else mxDispatch isCommand typeByte mxLen (length - 3) (p.drop 3) buf
      else if mxLen.toNat ≠ length - 2 then .dropped
      else mxDispatch isCommand typeByte mxLen (length - 2) (p.drop 2) buf

def mscPortCtrl (params : MscParams) : PortCtrl :=
  { modemSignal := (if params.signals &&& rfcommMscRtc ≠ 0 then modemSignalDtrdsr else 0) |||
      (if params.signals &&& rfcommMscRtr ≠ 0 then modemSignalRtscts else 0) |||
      (if params.signals &&& rfcommMscIc ≠ 0 then modemSignalRi else 0) |||
      (if params.signals &&& rfcommMscDv ≠ 0 then modemSignalDcd else 0),
    breakSignal := if params.breakPresent ≠ 0 then params.breakDuration else 0,
    fc := params.signals &&& rfcommMscFc == rfcommMscFc }

end Receive

section Fields

theorem mxBuf_bytes (message : List UInt8) : (mxBuf message).bytes = message := by
  show List.take message.length (List.drop (L2cap.l2capMinOffset + rfcommCtrlFrameLen)
    (List.replicate (L2cap.l2capMinOffset + rfcommCtrlFrameLen) 0 ++ message ++ _)) = message
  rw [List.append_assoc,List.drop_left' List.length_replicate,List.take_left' rfl]

theorem mxType_fields {type : UInt8}
    (sent : type = rfcommMxPn ∨ type = rfcommMxMsc ∨ type = rfcommMxRpn ∨ type = rfcommMxRls) (isCommand : Bool) :
    (rfcommEa ||| rfcommICr isCommand ||| type) &&& rfcommEa = 1 ∧
      ((((rfcommEa ||| rfcommICr isCommand ||| type) &&& rfcommCrMask) >>> rfcommShiftCr ≠ 0) ↔ isCommand = true) ∧
      (rfcommEa ||| rfcommICr isCommand ||| type) &&& ~~~(rfcommCrMask ||| rfcommEaMask) = type := by
  rcases sent with rfl | rfl | rfl | rfl <;> cases isCommand <;> decide

theorem rfcProcessMxMessage_short {buf : BtHdr} {typeByte : UInt8} {values : List UInt8}
    (framed : buf.bytes = typeByte :: (rfcommEa ||| (values.length <<< 1).toUInt8) :: values)
    (sized : buf.len = values.length + 2) (ea : typeByte &&& rfcommEa = 1) (short : values.length ≤ 127) :
    rfcProcessMxMessage buf = mxDispatch (decide ((typeByte &&& rfcommCrMask) >>> rfcommShiftCr ≠ 0)) typeByte
      ((rfcommEa ||| (values.length <<< 1).toUInt8) >>> rfcommShiftLength1) values.length values buf := by
  obtain ⟨lengthEa,lengthValue⟩ := shortLength_fields short
  unfold rfcProcessMxMessage
  have present : ¬((1 : UInt8) = 0 ∨ values.length + 2 = 0) := by
    rintro (one | two)
    · exact absurd one (by decide)
    · omega
  simp only [framed,sized,List.getD_cons_zero,List.getD_cons_succ,ea,lengthEa,List.drop_succ_cons,List.drop_zero]
  rw [if_neg (by omega),if_neg present,if_neg (by decide),if_neg (by rw [rfcommShiftLength1,lengthValue]; omega),Nat.add_sub_cancel]

theorem decide_eq_of_iff {p : Prop} [Decidable p] {b : Bool} (same : p ↔ b = true) : decide p = b := by
  cases b
  · exact decide_eq_false fun holds => Bool.false_ne_true (same.mp holds)
  · exact decide_eq_true (same.mpr rfl)

theorem toNat_uint16_bytes (x : UInt16) : (x &&& 0xFF).toUInt8.toNat + ((x >>> 8).toUInt8.toNat <<< 8) = x.toNat := by
  have small := x.toNat_lt
  have low : (x &&& 0xFF).toUInt8.toNat = x.toNat % 256 := by
    rw [UInt16.toNat_toUInt8,UInt16.toNat_and,show (0xFF : UInt16).toNat = 2 ^ 8 - 1 from rfl,
      Nat.and_two_pow_sub_one_eq_mod,Nat.mod_mod]
  have high : (x >>> 8).toUInt8.toNat = x.toNat / 256 := by
    rw [UInt16.toNat_toUInt8,UInt16.toNat_shiftRight,show (8 : UInt16).toNat % 16 = 8 from rfl,Nat.shiftRight_eq_div_pow]
    omega
  rw [low,high,Nat.shiftLeft_eq]
  omega

theorem mask_small {b : UInt8} {n : Nat} (fits : b.toNat < 2 ^ n) (narrow : n ≤ 8) :
    b &&& (2 ^ n - 1 : Nat).toUInt8 = b := by
  rw [← UInt8.toNat_inj,UInt8.toNat_and,Nat.toUInt8,UInt8.toNat_ofNat',
    Nat.mod_eq_of_lt (show 2 ^ n - 1 < 2 ^ 8 by have := Nat.pow_le_pow_right (by decide : 0 < 2) narrow; omega),
    Nat.and_two_pow_sub_one_eq_mod,Nat.mod_eq_of_lt fits]

theorem dlci_facts {dlci : UInt8} (low : 2 ≤ dlci) (high : dlci ≤ rfcommMaxDlci) :
    dlci.toNat < 64 ∧ dlci ≠ 0 ∧ rfcommValidDlci dlci = true := by
  have lowNat := UInt8.le_iff_toNat_le.mp low
  have highNat := UInt8.le_iff_toNat_le.mp high
  simp only [rfcommMaxDlci,UInt8.reduceToNat] at lowNat highNat
  refine ⟨by omega,fun zero => by rw [zero] at lowNat; simp at lowNat,?_⟩
  simp only [rfcommValidDlci,Bool.or_eq_true,beq_iff_eq,Bool.and_eq_true,decide_eq_true_eq]
  exact .inr ⟨low,high⟩

theorem mxAddress_fields {dlci : UInt8} (low : 2 ≤ dlci) (high : dlci ≤ rfcommMaxDlci) :
    mxAddressValid (mxAddress dlci) = true ∧ mxAddress dlci >>> rfcommShiftDlci = dlci := by
  obtain ⟨small,nonzero,valid⟩ := dlci_facts low high
  obtain ⟨ea,cr,shifted⟩ := address_bits (.inr rfl) small
  have dlciField : mxAddress dlci >>> rfcommShiftDlci = dlci := shifted
  refine ⟨?_,dlciField⟩
  simp only [mxAddressValid,dlciField,valid,Bool.and_true]
  rw [show mxAddress dlci &&& rfcommEa = 1 from ea,
    show (mxAddress dlci &&& rfcommCrMask) >>> rfcommShiftCr = (2 : UInt8) >>> 1 from cr]
  have half : (2 : UInt8) >>> 1 ≠ 0 := by decide
  simp [nonzero,half]

theorem breakByte_fields {duration : UInt8} (short : duration ≤ 15) :
    (rfcommEa ||| rfcommMscBreakPresentMask ||| (duration <<< rfcommMscShiftBreak)) &&& rfcommMscBreakPresentMask =
        rfcommMscBreakPresentMask ∧
      ((rfcommEa ||| rfcommMscBreakPresentMask ||| (duration <<< rfcommMscShiftBreak)) &&& rfcommMscBreakMask) >>>
        rfcommMscShiftBreak = duration := by
  have table : ∀ n, n < 16 → (1 ||| 2 ||| n * 16 % 256) &&& 2 = 2 ∧ ((1 ||| 2 ||| n * 16 % 256) &&& 240) >>> 4 = n := by
    decide
  have small : duration.toNat < 16 := by have := UInt8.le_iff_toNat_le.mp short; simp at this; omega
  obtain ⟨present,value⟩ := table duration.toNat small
  constructor
  · rw [← UInt8.toNat_inj]
    simpa [rfcommEa,rfcommMscBreakPresentMask,rfcommMscShiftBreak,UInt8.toNat_or,UInt8.toNat_and,
      UInt8.toNat_shiftLeft,Nat.shiftLeft_eq] using present
  · rw [← UInt8.toNat_inj]
    simpa [rfcommEa,rfcommMscBreakPresentMask,rfcommMscShiftBreak,rfcommMscBreakMask,UInt8.toNat_or,
      UInt8.toNat_and,UInt8.toNat_shiftLeft,UInt8.toNat_shiftRight,Nat.shiftLeft_eq] using value

theorem rpnBits_fields {byteSize stopBits parity parityType : UInt8} (bits : byteSize ≤ 3) (stop : stopBits ≤ 1)
    (par : parity ≤ 1) (parType : parityType ≤ 3) :
    let b := (byteSize <<< rfcommRpnBitsShift) ||| (stopBits <<< rfcommRpnStopBitsShift) |||
      (parity <<< rfcommRpnParityShift) ||| (parityType <<< rfcommRpnParityTypeShift)
    (b >>> rfcommRpnBitsShift) &&& rfcommRpnBitsMask = byteSize ∧
      (b >>> rfcommRpnStopBitsShift) &&& rfcommRpnStopBitsMask = stopBits ∧
      (b >>> rfcommRpnParityShift) &&& rfcommRpnParityMask = parity ∧
      (b >>> rfcommRpnParityTypeShift) &&& rfcommRpnParityTypeMask = parityType := by
  have table : ∀ bs, bs < 4 → ∀ sb, sb < 2 → ∀ p, p < 2 → ∀ pt, pt < 4 →
      (bs ||| sb * 4 ||| p * 8 ||| pt * 16) &&& 3 = bs ∧ ((bs ||| sb * 4 ||| p * 8 ||| pt * 16) >>> 2) &&& 1 = sb ∧
      ((bs ||| sb * 4 ||| p * 8 ||| pt * 16) >>> 3) &&& 1 = p ∧ ((bs ||| sb * 4 ||| p * 8 ||| pt * 16) >>> 4) &&& 3 = pt := by
    decide
  have bsSmall := UInt8.le_iff_toNat_le.mp bits
  have sbSmall := UInt8.le_iff_toNat_le.mp stop
  have pSmall := UInt8.le_iff_toNat_le.mp par
  have ptSmall := UInt8.le_iff_toNat_le.mp parType
  simp only [UInt8.reduceToNat] at bsSmall sbSmall pSmall ptSmall
  obtain ⟨bsField,sbField,pField,ptField⟩ :=
    table byteSize.toNat (by omega) stopBits.toNat (by omega) parity.toNat (by omega) parityType.toNat (by omega)
  have byte : ((byteSize <<< rfcommRpnBitsShift) ||| (stopBits <<< rfcommRpnStopBitsShift) |||
      (parity <<< rfcommRpnParityShift) ||| (parityType <<< rfcommRpnParityTypeShift)).toNat =
      byteSize.toNat ||| stopBits.toNat * 4 ||| parity.toNat * 8 ||| parityType.toNat * 16 := by
    simp only [UInt8.toNat_or,UInt8.toNat_shiftLeft,rfcommRpnBitsShift,rfcommRpnStopBitsShift,rfcommRpnParityShift,
      rfcommRpnParityTypeShift,UInt8.reduceToNat,Nat.reduceMod,Nat.shiftLeft_eq,Nat.reducePow,Nat.mul_one]
    rw [Nat.mod_eq_of_lt (by omega),Nat.mod_eq_of_lt (by omega),Nat.mod_eq_of_lt (by omega),Nat.mod_eq_of_lt (by omega)]
  intro b
  refine ⟨?_,?_,?_,?_⟩
  all_goals
    rw [← UInt8.toNat_inj,UInt8.toNat_and,UInt8.toNat_shiftRight,byte]
    assumption

theorem rlsByte_fields (status : UInt8) : (rfcommRlsError ||| status) &&& ~~~0x01 = status &&& ~~~0x01 := by
  have table : ∀ n, n < 256 → (1 ||| n) &&& 254 = n &&& 254 := by
    set_option maxRecDepth 2000 in decide
  rw [← UInt8.toNat_inj]
  simpa [rfcommRlsError,UInt8.toNat_or,UInt8.toNat_and] using table status.toNat status.toNat_lt

theorem modemSignal_bits (signal : UInt8) :
    ((if signal &&& modemSignalDtrdsr ≠ 0 then modemSignalDtrdsr else 0) |||
      (if signal &&& modemSignalRtscts ≠ 0 then modemSignalRtscts else 0) |||
      (if signal &&& modemSignalRi ≠ 0 then modemSignalRi else 0) |||
      (if signal &&& modemSignalDcd ≠ 0 then modemSignalDcd else 0)) = signal &&& 0x0F := by
  have table : ∀ n, n < 256 → ((if n &&& 1 ≠ 0 then 1 else 0) ||| (if n &&& 2 ≠ 0 then 2 else 0) |||
      (if n &&& 4 ≠ 0 then 4 else 0) ||| (if n &&& 8 ≠ 0 then 8 else 0)) = n &&& 15 := by
    set_option maxRecDepth 2000 in decide
  have bit (m : UInt8) : signal &&& m ≠ 0 ↔ signal.toNat &&& m.toNat ≠ 0 := by
    rw [Ne,← UInt8.toNat_inj,UInt8.toNat_and]
    rfl
  rw [← UInt8.toNat_inj]
  simp only [bit,UInt8.toNat_or,apply_ite UInt8.toNat,UInt8.toNat_and,modemSignalDtrdsr,modemSignalRtscts,modemSignalRi,
    modemSignalDcd,UInt8.reduceToNat,UInt8.toNat_zero]
  exact table signal.toNat signal.toNat_lt

end Fields

section Messages

theorem rfcProcessMxMessage_pn {dlci : UInt8} (low : 2 ≤ dlci) (high : dlci ≤ rfcommMaxDlci) (isCommand : Bool)
    {mtu : UInt16} (mtuLow : rfcommMinMtu ≤ mtu.toNat) (mtuHigh : mtu.toNat ≤ rfcommMaxMtu) (cl : UInt8) {k : UInt8}
    (window : k ≤ 7) (rxPriority : UInt8) :
    rfcProcessMxMessage (mxBuf (pnMessage dlci isCommand mtu cl k rxPriority)) =
      .pn isCommand dlci ⟨cl &&& rfcommPnFrameTypeMask,cl &&& rfcommPnConvLayerMask,
        (if isCommand then rfcommPnPriority0 else rxPriority) &&& rfcommPnPriorityMask,rfcommT1Dsec,mtu,rfcommN2,k⟩ := by
  obtain ⟨small,nonzero,valid⟩ := dlci_facts low high
  obtain ⟨typeEa,typeCr,typeIs⟩ := mxType_fields (.inl rfl) isCommand
  let values : List UInt8 := [dlci,rfcommPnFramTypeUih ||| cl,if isCommand then rfcommPnPriority0 else rxPriority,
    rfcommT1Dsec,(mtu &&& 0xFF).toUInt8,(mtu >>> 8).toUInt8,rfcommN2,k]
  have framed : (mxBuf (pnMessage dlci isCommand mtu cl k rxPriority)).bytes =
      (rfcommEa ||| rfcommICr isCommand ||| rfcommMxPn) :: (rfcommEa ||| (values.length <<< 1).toUInt8) :: values :=
    mxBuf_bytes _
  have params : pnParams values =
      ⟨cl &&& rfcommPnFrameTypeMask,cl &&& rfcommPnConvLayerMask,
        (if isCommand then rfcommPnPriority0 else rxPriority) &&& rfcommPnPriorityMask,rfcommT1Dsec,mtu,rfcommN2,k⟩ := by
    have kSmall : k.toNat < 2 ^ 3 := by have := UInt8.le_iff_toNat_le.mp window; simp at this; omega
    simp only [values,pnParams,List.getD_cons_zero,List.getD_cons_succ,rfcommPnFramTypeUih,UInt8.zero_or,
      toNat_uint16_bytes,Nat.toUInt16,UInt16.ofNat_toNat,PnParams.mk.injEq,true_and]
    exact mask_small kSmall (by decide)
  have dlciByte : values.getD 0 0 &&& rfcommPnDlciMask = dlci := by
    show dlci &&& (2 ^ 6 - 1 : Nat).toUInt8 = dlci
    exact mask_small small (by decide)
  have checks : ¬(dlci = 0 ∨ (!rfcommValidDlci dlci) = true ∨ mtu.toNat < rfcommMinMtu ∨ mtu.toNat > rfcommMaxMtu) := by
    rintro (zero | invalid | short | long)
    · exact nonzero zero
    · rw [valid] at invalid
      cases invalid
    · omega
    · omega
  rw [rfcProcessMxMessage_short framed rfl typeEa (by simp [values]),decide_eq_of_iff typeCr]
  unfold mxDispatch
  simp only [typeIs,↓reduceIte,params,dlciByte,checks]
  rw [if_neg (by simp [values,rfcommMxPnLen])]

theorem rfcProcessMxMessage_msc {dlci : UInt8} (low : 2 ≤ dlci) (high : dlci ≤ rfcommMaxDlci) (isCommand : Bool)
    {pars : PortCtrl} (short : pars.breakSignal ≤ 15) :
    rfcProcessMxMessage (mxBuf (mscMessage dlci isCommand pars)) =
      .msc isCommand dlci
        ⟨mscSignals pars,if pars.breakSignal ≠ 0 then rfcommMscBreakPresentMask else 0,pars.breakSignal⟩ := by
  obtain ⟨addressValid,addressDlci⟩ := mxAddress_fields low high
  obtain ⟨typeEa,typeCr,typeIs⟩ := mxType_fields (.inr (.inl rfl)) isCommand
  by_cases noBreak : pars.breakSignal = 0
  · let values : List UInt8 := [mxAddress dlci,mscSignals pars]
    have message : mscMessage dlci isCommand pars =
        (rfcommEa ||| rfcommICr isCommand ||| rfcommMxMsc) :: (rfcommEa ||| (values.length <<< 1).toUInt8) :: values := by
      simp only [mscMessage,noBreak,ne_eq,not_true_eq_false,↓reduceIte,List.append_nil]
      rfl
    have framed := (mxBuf_bytes _).trans message
    rw [message] at framed ⊢
    rw [rfcProcessMxMessage_short framed rfl typeEa (by simp [values]),decide_eq_of_iff typeCr]
    unfold mxDispatch
    have twoBytes : ((rfcommEa ||| ((2 : Nat) <<< 1).toUInt8) >>> rfcommShiftLength1).toNat ≠ rfcommMxMscLenWithBreak := by
      decide
    simp +decide only [typeIs,↓reduceIte,show values.length = 2 from rfl,twoBytes]
    simp [values,addressValid,addressDlci,noBreak]
  · let values : List UInt8 := [mxAddress dlci,mscSignals pars,
      rfcommEa ||| rfcommMscBreakPresentMask ||| (pars.breakSignal <<< rfcommMscShiftBreak)]
    have message : mscMessage dlci isCommand pars =
        (rfcommEa ||| rfcommICr isCommand ||| rfcommMxMsc) :: (rfcommEa ||| (values.length <<< 1).toUInt8) :: values := by
      simp only [mscMessage,noBreak,ne_eq,not_false_eq_true,↓reduceIte]
      rfl
    have framed := (mxBuf_bytes _).trans message
    rw [message] at framed ⊢
    rw [rfcProcessMxMessage_short framed rfl typeEa (by simp [values]),decide_eq_of_iff typeCr]
    unfold mxDispatch
    have threeBytes : ((rfcommEa ||| ((3 : Nat) <<< 1).toUInt8) >>> rfcommShiftLength1).toNat = rfcommMxMscLenWithBreak := by
      decide
    obtain ⟨present,duration⟩ := breakByte_fields short
    simp +decide only [typeIs,↓reduceIte,show values.length = 3 from rfl,threeBytes]
    simp [values,addressValid,addressDlci,noBreak,present,duration]

theorem rfcProcessMxMessage_rpn_request {dlci : UInt8} (low : 2 ≤ dlci) (high : dlci ≤ rfcommMaxDlci) (isCommand : Bool)
    (mask : UInt16) : rfcProcessMxMessage (mxBuf (rpnMessage dlci isCommand none mask)) = .rpn isCommand dlci none := by
  obtain ⟨addressValid,addressDlci⟩ := mxAddress_fields low high
  obtain ⟨typeEa,typeCr,typeIs⟩ := mxType_fields (.inr (.inr (.inl rfl))) isCommand
  let values : List UInt8 := [mxAddress dlci]
  have framed : (mxBuf (rpnMessage dlci isCommand none mask)).bytes =
      (rfcommEa ||| rfcommICr isCommand ||| rfcommMxRpn) :: (rfcommEa ||| (values.length <<< 1).toUInt8) :: values :=
    mxBuf_bytes _
  rw [rfcProcessMxMessage_short framed rfl typeEa (by simp [values]),decide_eq_of_iff typeCr]
  unfold mxDispatch
  simp +decide only [typeIs,↓reduceIte,show values.length = 1 from rfl]
  simp [values,addressValid,addressDlci]

theorem rpnParams_fields {dlci : UInt8} {pars : PortState} (bits : pars.byteSize ≤ 3) (stop : pars.stopBits ≤ 1)
    (par : pars.parity ≤ 1) (parType : pars.parityType ≤ 3) (mask : UInt16) :
    rpnParams [mxAddress dlci,pars.baudRate,
        (pars.byteSize <<< rfcommRpnBitsShift) ||| (pars.stopBits <<< rfcommRpnStopBitsShift) |||
          (pars.parity <<< rfcommRpnParityShift) ||| (pars.parityType <<< rfcommRpnParityTypeShift),
        pars.fcType,pars.xonChar,pars.xoffChar,(mask &&& 0xFF).toUInt8,(mask >>> 8).toUInt8] =
      ⟨pars.baudRate,pars.byteSize,pars.stopBits,pars.parity,pars.parityType,pars.fcType &&& rfcommFcMask,pars.xonChar,
        pars.xoffChar,mask &&& rfcommRpnPmMask⟩ := by
  obtain ⟨byteSize,stopBits,parity,parityType⟩ := rpnBits_fields bits stop par parType
  simp only [rpnParams,List.getD_cons_zero,List.getD_cons_succ,toNat_uint16_bytes,Nat.toUInt16,UInt16.ofNat_toNat,
    byteSize,stopBits,parity,parityType]

theorem rfcProcessMxMessage_rpn {dlci : UInt8} (low : 2 ≤ dlci) (high : dlci ≤ rfcommMaxDlci) (isCommand : Bool)
    {pars : PortState} (bits : pars.byteSize ≤ 3) (stop : pars.stopBits ≤ 1) (par : pars.parity ≤ 1)
    (parType : pars.parityType ≤ 3) (mask : UInt16) :
    rfcProcessMxMessage (mxBuf (rpnMessage dlci isCommand (some pars) mask)) =
      .rpn isCommand dlci (some ⟨pars.baudRate,pars.byteSize,pars.stopBits,pars.parity,pars.parityType,
        pars.fcType &&& rfcommFcMask,pars.xonChar,pars.xoffChar,mask &&& rfcommRpnPmMask⟩) := by
  obtain ⟨addressValid,addressDlci⟩ := mxAddress_fields low high
  obtain ⟨typeEa,typeCr,typeIs⟩ := mxType_fields (.inr (.inr (.inl rfl))) isCommand
  let values : List UInt8 := [mxAddress dlci,pars.baudRate,
    (pars.byteSize <<< rfcommRpnBitsShift) ||| (pars.stopBits <<< rfcommRpnStopBitsShift) |||
      (pars.parity <<< rfcommRpnParityShift) ||| (pars.parityType <<< rfcommRpnParityTypeShift),
    pars.fcType,pars.xonChar,pars.xoffChar,(mask &&& 0xFF).toUInt8,(mask >>> 8).toUInt8]
  have framed : (mxBuf (rpnMessage dlci isCommand (some pars) mask)).bytes =
      (rfcommEa ||| rfcommICr isCommand ||| rfcommMxRpn) :: (rfcommEa ||| (values.length <<< 1).toUInt8) :: values :=
    mxBuf_bytes _
  rw [rfcProcessMxMessage_short framed rfl typeEa (by simp [values]),decide_eq_of_iff typeCr]
  have params : rpnParams values =
      ⟨pars.baudRate,pars.byteSize,pars.stopBits,pars.parity,pars.parityType,pars.fcType &&& rfcommFcMask,
        pars.xonChar,pars.xoffChar,mask &&& rfcommRpnPmMask⟩ :=
    rpnParams_fields bits stop par parType mask
  unfold mxDispatch
  simp +decide only [typeIs,↓reduceIte,show values.length = 8 from rfl,params]
  simp [values,addressValid,addressDlci]

theorem rfcProcessMxMessage_rls {dlci : UInt8} (low : 2 ≤ dlci) (high : dlci ≤ rfcommMaxDlci) (isCommand : Bool)
    (status : UInt8) :
    rfcProcessMxMessage (mxBuf (rlsMessage dlci isCommand status)) = .rls isCommand dlci (status &&& ~~~0x01) := by
  obtain ⟨addressValid,addressDlci⟩ := mxAddress_fields low high
  obtain ⟨typeEa,typeCr,typeIs⟩ := mxType_fields (.inr (.inr (.inr rfl))) isCommand
  let values : List UInt8 := [mxAddress dlci,rfcommRlsError ||| status]
  have framed : (mxBuf (rlsMessage dlci isCommand status)).bytes =
      (rfcommEa ||| rfcommICr isCommand ||| rfcommMxRls) :: (rfcommEa ||| (values.length <<< 1).toUInt8) :: values :=
    mxBuf_bytes _
  rw [rfcProcessMxMessage_short framed rfl typeEa (by simp [values]),decide_eq_of_iff typeCr]
  unfold mxDispatch
  simp +decide only [typeIs,↓reduceIte,show values.length = 2 from rfl]
  simp [values,addressValid,addressDlci,rlsByte_fields]

theorem mscPortCtrl_mscSignals (pars : PortCtrl) (breakPresent breakDuration : UInt8) :
    mscPortCtrl ⟨mscSignals pars,breakPresent,breakDuration⟩ =
      ⟨pars.modemSignal &&& 0x0F,if breakPresent ≠ 0 then breakDuration else 0,pars.fc⟩ := by
  rw [← modemSignal_bits pars.modemSignal]
  unfold mscPortCtrl mscSignals
  simp only [PortCtrl.mk.injEq,true_and]
  -- each signal travels in a bit of its own
  by_cases dtr : pars.modemSignal &&& modemSignalDtrdsr = 0 <;> by_cases rts : pars.modemSignal &&& modemSignalRtscts = 0 <;>
    by_cases ri : pars.modemSignal &&& modemSignalRi = 0 <;> by_cases dcd : pars.modemSignal &&& modemSignalDcd = 0 <;>
    cases pars.fc <;> simp only [ne_eq,dtr,rts,ri,dcd,not_true_eq_false,not_false_eq_true,↓reduceIte] <;> decide

theorem breakSignal_read_back (breakSignal : UInt8) :
    (if (if breakSignal ≠ 0 then rfcommMscBreakPresentMask else 0) ≠ 0 then breakSignal else 0) = breakSignal := by
  by_cases none : breakSignal = 0
  · simp [none]
  · simp [none,rfcommMscBreakPresentMask]

theorem rfcomm_mx_round_trip {dlci : UInt8} (low : 2 ≤ dlci) (high : dlci ≤ rfcommMaxDlci) (isCommand : Bool)
    {mtu : UInt16} (mtuLow : rfcommMinMtu ≤ mtu.toNat) (mtuHigh : mtu.toNat ≤ rfcommMaxMtu) (cl : UInt8) {k : UInt8}
    (window : k ≤ 7) (rxPriority : UInt8) {ctrl : PortCtrl} (short : ctrl.breakSignal ≤ 15) {state : PortState}
    (bits : state.byteSize ≤ 3) (stop : state.stopBits ≤ 1) (par : state.parity ≤ 1) (parType : state.parityType ≤ 3)
    (mask : UInt16) (status : UInt8) :
    rfcProcessMxMessage (mxBuf (pnMessage dlci isCommand mtu cl k rxPriority)) =
        .pn isCommand dlci ⟨cl &&& rfcommPnFrameTypeMask,cl &&& rfcommPnConvLayerMask,
          (if isCommand then rfcommPnPriority0 else rxPriority) &&& rfcommPnPriorityMask,rfcommT1Dsec,mtu,rfcommN2,k⟩ ∧
      (∃ params, rfcProcessMxMessage (mxBuf (mscMessage dlci isCommand ctrl)) = .msc isCommand dlci params ∧
        mscPortCtrl params = ⟨ctrl.modemSignal &&& 0x0F,ctrl.breakSignal,ctrl.fc⟩) ∧
      rfcProcessMxMessage (mxBuf (rpnMessage dlci isCommand none mask)) = .rpn isCommand dlci none ∧
      rfcProcessMxMessage (mxBuf (rpnMessage dlci isCommand (some state) mask)) =
        .rpn isCommand dlci (some ⟨state.baudRate,state.byteSize,state.stopBits,state.parity,state.parityType,
          state.fcType &&& rfcommFcMask,state.xonChar,state.xoffChar,mask &&& rfcommRpnPmMask⟩) ∧
      rfcProcessMxMessage (mxBuf (rlsMessage dlci isCommand status)) = .rls isCommand dlci (status &&& ~~~0x01) := by
  refine ⟨rfcProcessMxMessage_pn low high isCommand mtuLow mtuHigh cl window rxPriority,?_,
    rfcProcessMxMessage_rpn_request low high isCommand mask,
    rfcProcessMxMessage_rpn low high isCommand bits stop par parType mask,rfcProcessMxMessage_rls low high isCommand status⟩
  refine ⟨_,rfcProcessMxMessage_msc low high isCommand short,?_⟩
  rw [mscPortCtrl_mscSignals,breakSignal_read_back]

theorem rfcomm_mx_round_trip_sample :
    rfcProcessMxMessage (mxBuf (pnMessage 2 true 127 0xE0 3 7)) =
        .pn true 2 ⟨0xE0 &&& rfcommPnFrameTypeMask,0xE0 &&& rfcommPnConvLayerMask,
          (if true then rfcommPnPriority0 else 7) &&& rfcommPnPriorityMask,rfcommT1Dsec,127,rfcommN2,3⟩ ∧
      (∃ params, rfcProcessMxMessage (mxBuf (mscMessage 2 true ⟨0x0B,5,true⟩)) = .msc true 2 params ∧
        mscPortCtrl params = ⟨(0x0B : UInt8) &&& 0x0F,5,true⟩) ∧
      rfcProcessMxMessage (mxBuf (rpnMessage 2 true none 0x3F7F)) = .rpn true 2 none ∧
      rfcProcessMxMessage (mxBuf (rpnMessage 2 true (some ⟨3,3,1,1,3,0x3F,0x11,0x13⟩) 0x3F7F)) =
        .rpn true 2 (some ⟨3,3,1,1,3,(0x3F : UInt8) &&& rfcommFcMask,0x11,0x13,(0x3F7F : UInt16) &&& rfcommRpnPmMask⟩) ∧
      rfcProcessMxMessage (mxBuf (rlsMessage 2 true 0x0E)) = .rls true 2 ((0x0E : UInt8) &&& ~~~0x01) :=
  rfcomm_mx_round_trip (by decide) (by decide) true (by decide) (by decide) 0xE0 (by decide) 7 (by decide) (by decide)
    (by decide) (by decide) (by decide) 0x3F7F 0x0E

-- A parity value past its one bit runs into the parity type: RPN sent with
-- parity 2 and parity type 0 is read with parity 0 and parity type 1.
theorem rfcProcessMxMessage_rpn_parity_overflow :
    rfcProcessMxMessage (mxBuf (rpnMessage 2 true (some ⟨0,0,0,2,0,0,0,0⟩) 0)) =
      .rpn true 2 (some ⟨0,0,0,0,1,0,0,0,0⟩) := by
  rfl

end Messages

end BluetoothStack.Rfcomm
