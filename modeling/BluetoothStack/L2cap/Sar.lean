import BluetoothStack.L2cap.Window
import BluetoothStack.Hci.Fragmentation

namespace BluetoothStack.L2cap

open PacketFragmenter (BtHdr)

set_option maxRecDepth 4000 in
theorem crctab_lt : ∀ entry ∈ crctab, entry < 65536 := by
  decide

theorem l2cFcrUpdcrc_lt {icrc : Nat} (bytes : List UInt8) (small : icrc < 65536) : l2cFcrUpdcrc icrc bytes < 65536 := by
  induction bytes generalizing icrc with
  | nil => exact small
  | cons byte rest ih =>
    apply ih
    have high : (icrc >>> 8) &&& 0xff < 2^16 := lt_of_le_of_lt Nat.and_le_right (by norm_num)
    have entry : crctab.getD ((icrc &&& 0xff) ^^^ byte.toNat) 0 < 2^16 := by
      rw [List.getD_eq_getElem?_getD]
      cases found : crctab[(icrc &&& 0xff) ^^^ byte.toNat]? with
      | none => simp
      | some value => simpa using crctab_lt value (List.mem_of_getElem? found)
    exact Nat.xor_lt_two_pow high entry

def arrive (frame : BtHdr) : BtHdr := ⟨0,frame.len - l2capPktOverhead,l2capPktOverhead,0,frame.bytes⟩

-- What the receiver relies on in a frame made for sending: its SAR bits, the
-- FCS over everything before it, and the bytes after the control word.
structure SentFrame (frame : BtHdr) (sar : Nat) (payload : List UInt8) : Prop where
  inBuffer : frame.offset + frame.len ≤ frame.data.length
  long : 8 ≤ frame.len
  control : readUint16 frame (frame.offset+l2capPktOverhead) &&& l2capFcrSegBits = sar
  checked : readUint16 frame (frame.offset+frame.len-l2capFcsLen) =
    l2cFcrUpdcrc l2capFcrInitCrc (Buffer.slice frame.data frame.offset (frame.len-l2capFcsLen))
  carries : Buffer.slice frame.data (frame.offset+6) (frame.len-8) = payload

theorem receiveFrame_sent {cfg : Config} {frame : BtHdr} {sar : Nat} {payload : List UInt8}
    (sent : SentFrame frame sar payload) (fcs : cfg.bypassFcs = false) :
    ∃ received ctrlWord, receiveFrame cfg (arrive frame) = some (received,ctrlWord) ∧
      ctrlWord &&& l2capFcrSegBits = sar ∧ received.bytes = payload ∧ received.len = payload.length ∧
      received.offset + received.len ≤ received.data.length := by
  have long := sent.long
  have framed : frame.bytes.length = frame.len := by
    simp only [BtHdr.bytes,Buffer.slice_length]
    have := sent.inBuffer
    omega
  have short : ¬ frame.len - l2capPktOverhead < l2capFcsLen + l2capFcrOverhead := by
    simp only [l2capPktOverhead,l2capFcsLen,l2capFcrOverhead]
    omega
  have fcsField : streamToUint16 frame.bytes (l2capPktOverhead + (frame.len - l2capPktOverhead) - l2capFcsLen) =
      readUint16 frame (frame.offset+frame.len-l2capFcsLen) := by
    simp only [readUint16,BtHdr.bytes,l2capPktOverhead,l2capFcsLen]
    rw [streamToUint16_slice _ (by omega)]
    congr 1
    omega
  have covered : Buffer.slice frame.bytes (l2capPktOverhead - l2capPktOverhead)
      (frame.len - l2capPktOverhead - l2capFcsLen + l2capPktOverhead) =
      Buffer.slice frame.data frame.offset (frame.len-l2capFcsLen) := by
    simp only [BtHdr.bytes,l2capPktOverhead,l2capFcsLen]
    rw [Buffer.slice_slice _ _ _ _ _ (by omega),show frame.len - 4 - 2 + 4 = frame.len - 2 by omega,Nat.add_zero]
  have control : streamToUint16 frame.bytes l2capPktOverhead = readUint16 frame (frame.offset+l2capPktOverhead) := by
    rw [BtHdr.bytes,streamToUint16_slice _ (by simp only [l2capPktOverhead]; omega)]
    rfl
  have sized : frame.len - l2capPktOverhead - l2capFcsLen - l2capFcrOverhead = frame.len - 8 := by
    simp only [l2capPktOverhead,l2capFcsLen,l2capFcrOverhead]
    omega
  have carried : (⟨0,frame.len-8,6,0,frame.bytes⟩ : BtHdr).bytes = payload := by
    simp only [BtHdr.bytes]
    rw [← sent.carries,Buffer.slice_slice _ _ _ _ _ (by omega)]
  refine ⟨⟨0,frame.len-8,6,0,frame.bytes⟩,readUint16 frame (frame.offset+l2capPktOverhead),?_,sent.control,carried,?_,
    by dsimp only; omega⟩
  · simp only [receiveFrame,arrive,fcs,Bool.false_eq_true,if_false,Bool.not_false,true_and,short,
      l2cFcrRxGetFcs,readUint16,covered,fcsField,← sent.checked,ne_eq,not_true_eq_false,sized,control]
    rfl
  · rw [← carried]
    show frame.len - 8 = (Buffer.slice frame.bytes 6 (frame.len - 8)).length
    rw [Buffer.slice_length,framed]
    omega

theorem writeUint16_some (buf : BtHdr) (pos value : Nat) (fits : pos + 2 ≤ buf.data.length) :
    ∃ data, Buffer.write buf.data pos (uint16ToStream value) = some data ∧
      writeUint16 buf pos value = some {buf with data} := by
  have fits' : pos + (uint16ToStream value).length ≤ buf.data.length := by simpa using fits
  obtain ⟨data,wrote⟩ := Option.isSome_iff_exists.mp (Buffer.write_isSome.mpr fits')
  exact ⟨data,wrote,by simp [writeUint16,wrote]⟩

theorem readUint16_of_slice {buf other : BtHdr} {pos : Nat}
    (same : Buffer.slice buf.data pos 2 = Buffer.slice other.data pos 2) : readUint16 buf pos = readUint16 other pos := by
  have read := congrArg (streamToUint16 · 0) same
  simpa [readUint16,streamToUint16_slice] using read

theorem appendFcs_sends {buf : BtHdr} (room : buf.offset + buf.len + 2 ≤ buf.data.length) (long : 2 ≤ buf.len) :
    ∃ out, appendFcs buf = some out ∧ out.offset = buf.offset ∧ out.len = buf.len + l2capFcsLen ∧
      out.layerSpecific = buf.layerSpecific ∧ out.data.length = buf.data.length ∧
      (∀ pos len, buf.offset + 2 ≤ pos → pos + len ≤ buf.offset + buf.len →
        Buffer.slice out.data pos len = Buffer.slice buf.data pos len) ∧
      readUint16 out (buf.offset + buf.len) = l2cFcrUpdcrc l2capFcrInitCrc (Buffer.slice out.data buf.offset buf.len) := by
  obtain ⟨sized,sizedWrote,sizedEq⟩ :=
    writeUint16_some buf buf.offset (wrap16 (buf.len+l2capFcsLen+65536-l2capPktOverhead)) (by omega)
  have sizedLength := Buffer.write_length sizedWrote
  obtain ⟨checked,fcsWrote,fcsEq⟩ := writeUint16_some {buf with data := sized} (buf.offset + buf.len)
    (l2cFcrTxGetFcs {buf with data := sized}) (by simp only; omega)
  have checkedLength := Buffer.write_length fcsWrote
  have before : Buffer.slice checked buf.offset buf.len = Buffer.slice sized buf.offset buf.len :=
    Buffer.slice_write_disjoint fcsWrote (by simp)
  refine ⟨{buf with data := checked,len := buf.len + l2capFcsLen},by simp [appendFcs,sizedEq,fcsEq],rfl,rfl,rfl,
    checkedLength.trans sizedLength,?_,?_⟩
  · intro pos len after inside
    rw [Buffer.slice_write_disjoint fcsWrote (by simp; omega),Buffer.slice_write_disjoint sizedWrote (by simp; omega)]
  · simp only [readUint16]
    rw [streamToUint16_write_same fcsWrote,before,l2cFcrTxGetFcs,Nat.mod_eq_of_lt (l2cFcrUpdcrc_lt _ (by decide))]

theorem prepareIFrame_sends (cfg : Config) (window : Window) (fcrb : Fcrb) (buf : BtHdr) (fcs : cfg.bypassFcs = false)
    (room : buf.offset + buf.len + 2 ≤ buf.data.length) (long : 6 ≤ buf.len) :
    ∃ out, prepareIFrame cfg window fcrb buf false =
        some ({window with nextTxSeq := (window.nextTxSeq+1) &&& l2capFcrSeqModulo},
          {fcrb with sendFRsp := false,lastAckSent := fcrb.nextSeqExpected},out) ∧
      out.offset = buf.offset ∧ out.len = buf.len + l2capFcsLen ∧ out.layerSpecific = buf.layerSpecific ∧
      out.data.length = buf.data.length ∧
      readUint16 out (buf.offset + l2capPktOverhead) = controlWord window fcrb buf false % 65536 ∧
      readUint16 out (buf.offset + buf.len) = l2cFcrUpdcrc l2capFcrInitCrc (Buffer.slice out.data buf.offset buf.len) ∧
      ∀ pos len, buf.offset + 6 ≤ pos → pos + len ≤ buf.offset + buf.len →
        Buffer.slice out.data pos len = Buffer.slice buf.data pos len := by
  obtain ⟨controlled,controlWrote,controlEq⟩ := writeUint16_some buf (buf.offset + l2capPktOverhead)
    (controlWord window fcrb buf false) (by simp only [l2capPktOverhead]; omega)
  have controlledLength := Buffer.write_length controlWrote
  have room' : ({buf with data := controlled} : BtHdr).offset + ({buf with data := controlled} : BtHdr).len + 2 ≤
      ({buf with data := controlled} : BtHdr).data.length := by
    simp only
    omega
  obtain ⟨out,appended,offset,len,layer,length,kept,checked⟩ := appendFcs_sends room' (by simp only; omega)
  refine ⟨out,by simp [prepareIFrame,controlEq,fcs,appended],offset,len,layer,length.trans controlledLength,?_,checked,?_⟩
  · rw [readUint16_of_slice (kept _ 2 (by simp [l2capPktOverhead]) (by simp [l2capPktOverhead]; omega))]
    exact streamToUint16_write_same controlWrote
  · intro pos count after inside
    rw [kept pos count (by simp only; omega) inside]
    exact Buffer.slice_write_disjoint controlWrote (by simp [l2capPktOverhead]; omega)

theorem sarField_fields (sar txSeq fBit reqSeq : Nat) (txSmall : txSeq < 64) (reqSmall : reqSeq < 64)
    (flag : fBit = 0 ∨ fBit = l2capFcrFBit) :
    ((sar &&& l2capFcrSegBits) ||| (txSeq <<< l2capFcrTxSeqBitsShift) ||| fBit |||
      (reqSeq <<< l2capFcrReqSeqBitsShift)) % 65536 &&& l2capFcrSegBits = sar &&& l2capFcrSegBits := by
  apply Nat.eq_of_testBit_eq
  intro i
  rw [show (65536 : Nat) = 2^16 by norm_num]
  simp only [l2capFcrTxSeqBitsShift,l2capFcrReqSeqBitsShift,l2capFcrSegBits,Nat.testBit_and,Nat.testBit_mod_two_pow,
    Nat.testBit_or,Nat.testBit_shiftLeft]
  by_cases low : i < 16
  · have txBit : txSeq.testBit (i - 1) = true → i < 7 := by
      intro set
      by_contra high
      rw [PacketFragmenter.testBit_small (show txSeq < 2^6 by omega) (show 6 ≤ i - 1 by omega)] at set
      cases set
    have reqBit : reqSeq.testBit (i - 8) = true → i < 14 := by
      intro set
      by_contra high
      rw [PacketFragmenter.testBit_small (show reqSeq < 2^6 by omega) (show 6 ≤ i - 8 by omega)] at set
      cases set
    interval_cases i <;> rcases flag with rfl | rfl <;>
      simp_all [l2capFcrFBit,Nat.testBit_eq_decide_div_mod_eq]
  · have mask : Nat.testBit 0xC000 i = false := Nat.testBit_eq_false_of_lt (by
      calc 0xC000 < 2^16 := by norm_num
        _ ≤ 2^i := Nat.pow_le_pow_right (by norm_num) (by omega))
    simp [mask]

theorem controlWord_sar (window : Window) (fcrb : Fcrb) (buf : BtHdr) (txSmall : window.nextTxSeq < 64)
    (reqSmall : fcrb.nextSeqExpected < 64) :
    controlWord window fcrb buf false % 65536 &&& l2capFcrSegBits = buf.layerSpecific &&& l2capFcrSegBits := by
  unfold controlWord
  cases fcrb.sendFRsp
  · simpa using sarField_fields buf.layerSpecific window.nextTxSeq 0 fcrb.nextSeqExpected txSmall reqSmall (.inl rfl)
  · exact sarField_fields buf.layerSpecific window.nextTxSeq l2capFcrFBit fcrb.nextSeqExpected txSmall reqSmall (.inr rfl)

-- layer_specific of an SDU holds only its flush flags, so the SAR bits ORed in
-- come out unchanged.
theorem sarBits_flags {flags : Nat} (flushFlags : flags < 4) (firstSeg midSeg lastSeg : Bool) :
    (flags ||| sarBits firstSeg midSeg lastSeg) &&& l2capFcrSegBits = sarBits firstSeg midSeg lastSeg := by
  unfold sarBits
  interval_cases flags <;> split_ifs <;> decide

theorem addHeader_sends (cfg : Config) {xmit : BtHdr} (firstSeg : Bool) (sduLen : Nat)
    (headroom : sarHeader firstSeg ≤ xmit.offset) (inBuffer : xmit.offset + xmit.len ≤ xmit.data.length) :
    ∃ headed, addHeader cfg xmit firstSeg sduLen = some headed ∧ headed.offset = xmit.offset - sarHeader firstSeg ∧
      headed.len = xmit.len + sarHeader firstSeg ∧ headed.layerSpecific = xmit.layerSpecific ∧
      headed.data.length = xmit.data.length ∧
      Buffer.slice headed.data (headed.offset + 6) (headed.len - 6) =
        (if firstSeg then uint16ToStream sduLen else []) ++ xmit.bytes := by
  have header : 6 ≤ sarHeader firstSeg := by
    unfold sarHeader
    split <;> simp [l2capPktOverhead,l2capFcrOverhead]
  have stepped : ¬ xmit.offset < sarHeader firstSeg := by omega
  obtain ⟨sized,sizeWrote,sizeEq⟩ :=
    writeUint16_some {xmit with offset := xmit.offset - sarHeader firstSeg,len := xmit.len + sarHeader firstSeg}
      (xmit.offset - sarHeader firstSeg) (wrap16 (xmit.len + sarHeader firstSeg + 65536 - l2capPktOverhead))
      (by dsimp only; omega)
  have sizedLength : sized.length = xmit.data.length := Buffer.write_length sizeWrote
  obtain ⟨named,nameWrote,nameEq⟩ :=
    writeUint16_some {xmit with offset := xmit.offset - sarHeader firstSeg,len := xmit.len + sarHeader firstSeg,data := sized}
      (xmit.offset - sarHeader firstSeg + 2) cfg.remoteCid
      (by dsimp only; omega)
  have namedLength : named.length = sized.length := Buffer.write_length nameWrote
  -- the header writes stop short of the SDU length field and the payload
  have kept : ∀ pos count, xmit.offset - sarHeader firstSeg + 4 ≤ pos →
      Buffer.slice named pos count = Buffer.slice xmit.data pos count := by
    intro pos count after
    rw [Buffer.slice_write_disjoint nameWrote (by simp; omega),Buffer.slice_write_disjoint sizeWrote (by simp; omega)]
  cases firstSeg with
  | false =>
    have unsegmented : sarHeader false = 6 := rfl
    refine ⟨{xmit with offset := xmit.offset - sarHeader false,len := xmit.len + sarHeader false,data := named},
      by simp [addHeader,stepped,sizeEq,nameEq],rfl,rfl,rfl,namedLength.trans sizedLength,?_⟩
    simp only [unsegmented,Bool.false_eq_true,if_false,List.nil_append,BtHdr.bytes]
    rw [kept _ _ (by omega)]
    congr 1
    omega
  | true =>
    have start : sarHeader true = 8 := rfl
    obtain ⟨lengthed,lengthWrote,lengthEq⟩ :=
      writeUint16_some {xmit with offset := xmit.offset - sarHeader true,len := xmit.len + sarHeader true,data := named}
        (xmit.offset - sarHeader true + 6) sduLen (by dsimp only; rw [namedLength,sizedLength]; omega)
    refine ⟨{xmit with offset := xmit.offset - sarHeader true,len := xmit.len + sarHeader true,data := lengthed},
      by simp [addHeader,stepped,sizeEq,nameEq,lengthEq],rfl,rfl,rfl,
      (Buffer.write_length lengthWrote).trans (namedLength.trans sizedLength),?_⟩
    simp only [if_true,BtHdr.bytes]
    rw [show xmit.len + sarHeader true - 6 = (uint16ToStream sduLen).length + xmit.len by simp [start]; omega,
      Buffer.slice_write_front lengthWrote,kept _ _ (by simp)]
    congr 2
    rw [start] at headroom
    simp only [start,uint16ToStream_length]
    omega

theorem l2cFcrGetNextXmitSduSeg_sends {cfg : Config} {ch : Channel} {buf xmit : BtHdr} {rest held : List BtHdr}
    {firstSeg midSeg lastSeg : Bool} {sduLen : Nat} (fcs : cfg.bypassFcs = false) (idle : ch.fcrb.retransQ = [])
    (queued : ch.xmitHoldQ = buf :: rest)
    (cut : nextSegment cfg cfg.txMps buf rest = some (xmit,firstSeg,midSeg,lastSeg,sduLen,held))
    (headroom : sarHeader firstSeg ≤ xmit.offset) (room : xmit.offset + xmit.len + 2 ≤ xmit.data.length)
    (flushFlags : xmit.layerSpecific < 4) (small : xmit.len + 24 < 65536)
    (txSmall : ch.window.nextTxSeq < 64) (reqSmall : ch.fcrb.nextSeqExpected < 64) :
    ∃ ch' frame, l2cFcrGetNextXmitSduSeg cfg 0 ch = some (ch',some frame) ∧ ch'.xmitHoldQ = held ∧
      ch'.fcrb.retransQ = [] ∧ ch'.window.nextTxSeq < 64 ∧ ch'.fcrb.nextSeqExpected = ch.fcrb.nextSeqExpected ∧
      SentFrame frame (sarBits firstSeg midSeg lastSeg) ((if firstSeg then uint16ToStream sduLen else []) ++ xmit.bytes) := by
  have header : 6 ≤ sarHeader firstSeg ∧ sarHeader firstSeg ≤ 8 := by
    unfold sarHeader
    split <;> simp [l2capPktOverhead,l2capFcrOverhead,l2capSduLenOverhead]
  obtain ⟨headed,added,offset,len,layer,length,payload⟩ := addHeader_sends cfg firstSeg sduLen headroom (by omega)
  obtain ⟨out,prepared,outOffset,outLen,_,outLength,control,checked,kept⟩ :=
    prepareIFrame_sends cfg ch.window ch.fcrb
      {headed with layerSpecific := headed.layerSpecific ||| sarBits firstSeg midSeg lastSeg} fcs
      (by dsimp only; omega) (by dsimp only; omega)
  dsimp only at outOffset outLen outLength checked kept
  obtain ⟨wack,cloned⟩ : ∃ wack, l2cFcrCloneBuf out hciDataPreambleSize out.len = some wack := by
    have sized : out.len + PacketFragmenter.btHdrSize + hciDataPreambleSize + l2capFcsLen < 65536 := by
      simp only [PacketFragmenter.btHdrSize,hciDataPreambleSize,l2capFcsLen] at outLen ⊢
      omega
    exact ⟨_,if_pos ⟨sized,by simp only [l2capFcsLen] at outLen; omega⟩⟩
  have unlimited : ¬ (0 > l2capMaxHeaderFcs ∧ cfg.txMps + l2capMaxHeaderFcs > 0) := by
    simp [l2capMaxHeaderFcs]
  simp only [l2capFcsLen] at outLen
  refine ⟨?ch',out,?pulled,?_,?_,?_,?_,⟨by omega,by omega,?_,?_,?_⟩⟩
  case pulled =>
    simp only [l2cFcrGetNextXmitSduSeg,idle,queued,unlimited,if_false,cut,Option.bind_eq_bind,Option.bind_some,added,
      prepared,cloned]
    rfl
  · rfl
  · rfl
  · simp only [seqModulo_and]
    omega
  · rfl
  · rw [outOffset,control,controlWord_sar _ _ _ txSmall reqSmall]
    dsimp only
    rw [layer]
    exact sarBits_flags flushFlags firstSeg midSeg lastSeg
  · simp only [l2capFcsLen]
    rw [outOffset,outLen,show headed.offset + (headed.len + 2) - 2 = headed.offset + headed.len by omega,
      Nat.add_sub_cancel]
    exact checked
  · rw [outOffset,outLen,show headed.len + 2 - 8 = headed.len - 6 by omega,kept _ _ le_rfl (by omega)]
    exact payload

theorem bytes_advance (buf : BtHdr) (event layerSpecific cut : Nat) :
    (⟨event,buf.len - cut,buf.offset + cut,layerSpecific,buf.data⟩ : BtHdr).bytes = buf.bytes.drop cut := by
  simp only [BtHdr.bytes,Buffer.slice,List.drop_take,List.drop_drop,Nat.add_comm]

theorem nextSegment_cuts (cfg : Config) (buf : BtHdr) (rest : List BtHdr) {maxPdu cut : Nat} (long : maxPdu < buf.len)
    (room : buf.event = 0 → 2 ≤ maxPdu) (cutting : cut = if buf.event = 0 then maxPdu - 2 else maxPdu)
    (inBuffer : buf.offset + buf.len ≤ buf.data.length) (small : buf.len + 25 < 65536) :
    ∃ xmit, nextSegment cfg maxPdu buf rest = some (xmit,decide (buf.event = 0),!decide (buf.event = 0),false,buf.len,
        {buf with event := cfg.localCid,len := buf.len - cut,offset := buf.offset + cut} :: rest) ∧
      xmit.offset = l2capMinOffset + l2capSduLenOffset ∧ xmit.len = cut ∧ xmit.layerSpecific = buf.layerSpecific ∧
      xmit.data.length = xmit.offset + cut + l2capFcsLen ∧ xmit.bytes = buf.bytes.take cut := by
  have fits : cut ≤ buf.len := by split_ifs at cutting <;> omega
  -- with room for the SDU length, the uint16_t max_pdu does not wrap
  have unwrapped : (if buf.event = 0 then wrap16 (maxPdu + 65536 - 2) else maxPdu) = cut := by
    rw [cutting]
    split_ifs with fresh
    · have := room fresh
      simp only [wrap16]
      omega
    · rfl
  have copied : (Buffer.slice buf.data buf.offset cut).length = cut := by
    simp only [Buffer.slice_length]
    omega
  have sized : cut + PacketFragmenter.btHdrSize + (l2capMinOffset + l2capSduLenOffset) + l2capFcsLen < 65536 := by
    simp only [PacketFragmenter.btHdrSize,l2capMinOffset,l2capSduLenOffset,l2capFcsLen]
    omega
  have cloned : l2cFcrCloneBuf buf (l2capMinOffset + l2capSduLenOffset) cut =
      some ⟨0,cut,l2capMinOffset + l2capSduLenOffset,0,List.replicate (l2capMinOffset + l2capSduLenOffset) 0 ++
        Buffer.slice buf.data buf.offset cut ++ List.replicate l2capFcsLen 0⟩ :=
    if_pos ⟨sized,by omega⟩
  refine ⟨?xmit,?cut,?_,?_,?_,?_,?_⟩
  case cut =>
    simp only [nextSegment,if_pos long,unwrapped,cloned,Option.map_some]
    rfl
  · rfl
  · rfl
  · rfl
  · simp [copied,Nat.add_assoc]
  · have middle := Buffer.slice_middle (List.replicate (l2capMinOffset + l2capSduLenOffset) (0 : UInt8))
      (Buffer.slice buf.data buf.offset cut) (List.replicate l2capFcsLen 0) copied.ge
    rw [List.length_replicate,List.take_of_length_le copied.le] at middle
    rw [BtHdr.bytes,middle]
    simp only [BtHdr.bytes,Buffer.slice,List.take_take,Nat.min_eq_left fits]

inductive SarType where
  | unsegmented
  | start
  | finish
  | continuation
deriving DecidableEq, Repr

def sarTypeOf (ctrlWord : Nat) : SarType :=
  let sarType := ctrlWord &&& l2capFcrSegBits
  if sarType = l2capFcrUnsegSdu then .unsegmented
  else if sarType = l2capFcrStartSdu then .start
  else if sarType = l2capFcrEndSdu then .finish
  else .continuation

-- The order SDUs are cut in, (UNSEG | START CONT* END)*, as a machine whose
-- state says whether an SDU has been started and not finished.
def sarNext : Bool → SarType → Option Bool
  | false,.unsegmented => some false
  | false,.start => some true
  | true,.continuation => some true
  | true,.finish => some false
  | _,_ => none

section Reassembly

variable {cfg : Config} {ch : Channel} {buf : BtHdr} {ctrlWord : Nat}

theorem doSarReassembly_unsegmented (sar : ctrlWord &&& l2capFcrSegBits = l2capFcrUnsegSdu)
    (idle : ch.fcrb.pRxSdu = none) :
    doSarReassembly cfg ch buf ctrlWord = some ({ch with delivered := ch.delivered ++ [buf.bytes]},true) := by
  simp [doSarReassembly,sar,idle,l2capFcrUnsegSdu,l2capFcrStartSdu]

theorem doSarReassembly_start {sduLen : Nat} {rest : List UInt8} (sar : ctrlWord &&& l2capFcrSegBits = l2capFcrStartSdu)
    (idle : ch.fcrb.pRxSdu = none) (inBuffer : buf.offset + buf.len ≤ buf.data.length)
    (carries : buf.bytes = uint16ToStream sduLen ++ rest) (within : rest.length ≤ sduLen) (fits : sduLen ≤ cfg.maxRxMtu)
    (mtuFits : cfg.maxRxMtu + obxBufMinOffset + PacketFragmenter.btHdrSize ≤ l2capMaxBufSize) :
    doSarReassembly cfg ch buf ctrlWord =
      some ({ch with fcrb := {ch.fcrb with rxSduLen := sduLen,pRxSdu := some rest}},true) := by
  have sized : buf.len = rest.length + 2 := by
    have counted := congrArg List.length carries
    simp only [BtHdr.bytes,Buffer.slice_length,List.length_append,uint16ToStream_length] at counted
    omega
  have read : readUint16 buf buf.offset = sduLen := by
    have head := congrArg (streamToUint16 · 0) carries
    simp only [BtHdr.bytes,streamToUint16_slice _ (show 0 + 2 ≤ buf.len by omega),streamToUint16_head] at head
    rw [readUint16,← Nat.add_zero buf.offset,head]
    simp only [obxBufMinOffset,PacketFragmenter.btHdrSize,l2capMaxBufSize] at mtuFits
    omega
  have after : ({buf with offset := buf.offset + 2,len := buf.len - 2} : BtHdr).bytes = rest := by
    rw [bytes_advance buf buf.event buf.layerSpecific 2,carries,List.drop_left' (uint16ToStream_length sduLen)]
  simp only [obxBufMinOffset,PacketFragmenter.btHdrSize,l2capMaxBufSize] at mtuFits
  have long : ¬ buf.len ≤ 1 := by omega
  have allowed : ¬ cfg.maxRxMtu < sduLen := by omega
  have whole : ¬ sduLen < buf.len - 2 := by omega
  have room : ¬ 10240 + 24 < 4 + (buf.len - 2) + 8 := by omega
  simp [doSarReassembly,sar,idle,read,after,long,allowed,whole,room,l2capFcrUnsegSdu,l2capFcrStartSdu,l2capFcrEndSdu,l2capSduLenOverhead,
    obxBufMinOffset,PacketFragmenter.btHdrSize,l2capMaxBufSize]

theorem doSarReassembly_continue {sent : List UInt8} (sar : ctrlWord &&& l2capFcrSegBits = l2capFcrContSdu)
    (inside : ch.fcrb.pRxSdu = some sent) (within : sent.length + buf.len ≤ ch.fcrb.rxSduLen)
    (fits : ch.fcrb.rxSduLen ≤ cfg.maxRxMtu)
    (mtuFits : cfg.maxRxMtu + obxBufMinOffset + PacketFragmenter.btHdrSize ≤ l2capMaxBufSize) :
    doSarReassembly cfg ch buf ctrlWord =
      some ({ch with fcrb := {ch.fcrb with pRxSdu := some (sent ++ buf.bytes)}},true) := by
  simp only [obxBufMinOffset,PacketFragmenter.btHdrSize,l2capMaxBufSize] at mtuFits
  have whole : ¬ ch.fcrb.rxSduLen < sent.length + buf.len := by omega
  have room : ¬ 10240 + 24 < 4 + sent.length + buf.len + 8 := by omega
  simp [doSarReassembly,sar,inside,whole,room,l2capFcrUnsegSdu,l2capFcrStartSdu,l2capFcrEndSdu,l2capFcrContSdu,
    obxBufMinOffset,PacketFragmenter.btHdrSize,l2capMaxBufSize]

theorem doSarReassembly_finish {sent : List UInt8} (sar : ctrlWord &&& l2capFcrSegBits = l2capFcrEndSdu)
    (inside : ch.fcrb.pRxSdu = some sent) (whole : sent.length + buf.len = ch.fcrb.rxSduLen)
    (fits : ch.fcrb.rxSduLen ≤ cfg.maxRxMtu)
    (mtuFits : cfg.maxRxMtu + obxBufMinOffset + PacketFragmenter.btHdrSize ≤ l2capMaxBufSize) :
    doSarReassembly cfg ch buf ctrlWord =
      some ({ch with fcrb := {ch.fcrb with pRxSdu := none},delivered := ch.delivered ++ [sent ++ buf.bytes]},true) := by
  simp only [obxBufMinOffset,PacketFragmenter.btHdrSize,l2capMaxBufSize] at mtuFits
  have room : ¬ 10240 + 24 < 4 + sent.length + buf.len + 8 := by omega
  simp [doSarReassembly,sar,inside,whole,room,l2capFcrUnsegSdu,l2capFcrStartSdu,l2capFcrEndSdu,
    obxBufMinOffset,PacketFragmenter.btHdrSize,l2capMaxBufSize]

-- What do_sar_reassembly keeps between frames: the SDU collected so far is
-- never longer than the announced SDU length, which passed the MTU check.
def SduBound (cfg : Config) (fcrb : Fcrb) : Prop :=
  ∀ sdu, fcrb.pRxSdu = some sdu → sdu.length ≤ fcrb.rxSduLen ∧ fcrb.rxSduLen ≤ cfg.maxRxMtu

theorem doSarReassembly_out_of_order (illegal : sarNext ch.fcrb.pRxSdu.isSome (sarTypeOf ctrlWord) = none) :
    doSarReassembly cfg ch buf ctrlWord = some (ch,false) := by
  unfold sarTypeOf at illegal
  cases inside : ch.fcrb.pRxSdu <;> simp only [inside,Option.isSome_none,Option.isSome_some] at illegal <;>
    split_ifs at illegal with unseg start finish <;> simp_all [sarNext,doSarReassembly]

theorem doSarReassembly_false {ch' : Channel} (rejected : doSarReassembly cfg ch buf ctrlWord = some (ch',false)) :
    ch'.delivered = ch.delivered := by
  revert rejected
  fun_cases doSarReassembly cfg ch buf ctrlWord <;> intro rejected <;> cases rejected <;> rfl

theorem doSarReassembly_step (mtuFits : cfg.maxRxMtu + obxBufMinOffset + PacketFragmenter.btHdrSize ≤ l2capMaxBufSize)
    (bounded : SduBound cfg ch.fcrb) :
    ∃ ch' ok, doSarReassembly cfg ch buf ctrlWord = some (ch',ok) ∧ SduBound cfg ch'.fcrb ∧
      (ok = false → ch'.delivered = ch.delivered) ∧
      (ok = true → sarNext ch.fcrb.pRxSdu.isSome (sarTypeOf ctrlWord) = some ch'.fcrb.pRxSdu.isSome) := by
  cases legal : sarNext ch.fcrb.pRxSdu.isSome (sarTypeOf ctrlWord) with
  | none => exact ⟨ch,false,doSarReassembly_out_of_order legal,bounded,fun _ => rfl,nofun⟩
  | some inside' =>
    simp only [obxBufMinOffset,PacketFragmenter.btHdrSize,l2capMaxBufSize] at mtuFits
    unfold sarTypeOf at legal
    cases inside : ch.fcrb.pRxSdu with
    | none =>
      simp only [inside,Option.isSome_none] at legal
      split_ifs at legal with unseg start <;> simp only [sarNext,reduceCtorEq,Option.some.injEq] at legal <;>
        subst legal
      · exact ⟨_,true,doSarReassembly_unsegmented unseg inside,by simpa [SduBound],nofun,fun _ => by simp [inside]⟩
      · obtain ⟨result,computed⟩ : ∃ result, doSarReassembly cfg ch buf ctrlWord = result := ⟨_,rfl⟩
        rw [computed]
        simp [doSarReassembly,start,inside,l2capFcrUnsegSdu,l2capFcrStartSdu,l2capFcrEndSdu,l2capSduLenOverhead,
          obxBufMinOffset,PacketFragmenter.btHdrSize,l2capMaxBufSize] at computed
        split_ifs at computed with short tooLong overlong overflow <;> subst computed
        · exact ⟨ch,false,rfl,bounded,fun _ => rfl,nofun⟩
        · refine ⟨_,false,rfl,?_,fun _ => rfl,nofun⟩
          intro sdu found
          simp at found
        · refine ⟨_,false,rfl,?_,fun _ => rfl,nofun⟩
          intro sdu found
          simp only [Option.some.injEq] at found
          subst found
          simp only [List.length_nil]
          omega
        · omega
        · refine ⟨_,true,rfl,?_,nofun,fun _ => rfl⟩
          intro sdu found
          simp only [Option.some.injEq] at found
          subst found
          simp only [BtHdr.bytes,Buffer.slice_length]
          omega
    | some sent =>
      obtain ⟨within,fits⟩ := bounded sent inside
      simp only [inside,Option.isSome_some] at legal
      split_ifs at legal with unseg start finish <;> simp only [sarNext,reduceCtorEq,Option.some.injEq] at legal <;>
        subst legal
      · obtain ⟨result,computed⟩ : ∃ result, doSarReassembly cfg ch buf ctrlWord = result := ⟨_,rfl⟩
        rw [computed]
        simp [doSarReassembly,finish,inside,l2capFcrUnsegSdu,l2capFcrStartSdu,l2capFcrEndSdu,
          obxBufMinOffset,PacketFragmenter.btHdrSize,l2capMaxBufSize] at computed
        split_ifs at computed with overlong complete overflow <;> subst computed
        · refine ⟨_,false,rfl,?_,fun _ => rfl,nofun⟩
          intro sdu found
          simp only [Option.some.injEq] at found
          subst found
          exact ⟨within,fits⟩
        · omega
        · refine ⟨_,true,rfl,?_,nofun,fun _ => by simp⟩
          intro sdu found
          simp at found
        · refine ⟨_,false,rfl,?_,fun _ => rfl,nofun⟩
          intro sdu found
          simp only [Option.some.injEq] at found
          subst found
          exact ⟨within,fits⟩
      · obtain ⟨result,computed⟩ : ∃ result, doSarReassembly cfg ch buf ctrlWord = result := ⟨_,rfl⟩
        rw [computed]
        simp [doSarReassembly,unseg,start,finish,inside,
          obxBufMinOffset,PacketFragmenter.btHdrSize,l2capMaxBufSize] at computed
        split_ifs at computed with overlong overflow <;> subst computed
        · refine ⟨_,false,rfl,?_,fun _ => rfl,nofun⟩
          intro sdu found
          simp only [Option.some.injEq] at found
          subst found
          exact ⟨within,fits⟩
        · omega
        · refine ⟨_,true,rfl,?_,nofun,fun _ => rfl⟩
          intro sdu found
          simp only [Option.some.injEq] at found
          subst found
          simp only [List.length_append,BtHdr.bytes,Buffer.slice_length]
          omega

end Reassembly

-- Successive l2c_fcr_get_next_xmit_sdu_seg calls on a BR/EDR link
-- (max_packet_length 0) while an SDU is held, each frame sent as it comes.
def pullFrames (cfg : Config) : Nat → Channel → Option (Channel × List BtHdr)
  | 0,ch => some (ch,[])
  | fuel+1,ch =>
    if ch.xmitHoldQ = [] then some (ch,[])
    else (l2cFcrGetNextXmitSduSeg cfg 0 ch).bind fun (ch,frame) =>
      match frame with
      | none => some (ch,[])
      | some frame => (pullFrames cfg fuel ch).map fun (ch,frames) => (ch,frame :: frames)

-- One SDU between two pulls: the part the sender still holds, and what the
-- receiver has collected of the part already sent.
structure Pending (sdu : List UInt8) (ch rxCh : Channel) (buf : BtHdr) : Prop where
  queued : ch.xmitHoldQ = [buf]
  idle : ch.fcrb.retransQ = []
  txSmall : ch.window.nextTxSeq < 64
  reqSmall : ch.fcrb.nextSeqExpected < 64
  headroom : sarHeader false ≤ buf.offset
  tailroom : buf.offset + buf.len + l2capFcsLen ≤ buf.data.length
  flushFlags : buf.layerSpecific < 4
  fresh : buf.event = 0 → rxCh.fcrb.pRxSdu = none ∧ buf.bytes = sdu
  started : buf.event ≠ 0 → ∃ sent, rxCh.fcrb.pRxSdu = some sent ∧ rxCh.fcrb.rxSduLen = sdu.length ∧
    sent ++ buf.bytes = sdu

theorem Pending.bytes_length {sdu : List UInt8} {ch rxCh : Channel} {buf : BtHdr} (pending : Pending sdu ch rxCh buf) :
    buf.bytes.length = buf.len := by
  have room := pending.tailroom
  simp only [BtHdr.bytes,Buffer.slice_length]
  omega

theorem Pending.len_le {sdu : List UInt8} {ch rxCh : Channel} {buf : BtHdr} (pending : Pending sdu ch rxCh buf) :
    buf.len ≤ sdu.length := by
  rw [← pending.bytes_length]
  by_cases fresh : buf.event = 0
  · rw [(pending.fresh fresh).2]
  · obtain ⟨sent,_,_,joined⟩ := pending.started fresh
    rw [← joined,List.length_append]
    omega

theorem segment_arrives {tx rx : Config} {ch : Channel} {buf xmit : BtHdr} {rest held : List BtHdr}
    {firstSeg midSeg lastSeg : Bool} {sduLen : Nat} (txFcs : tx.bypassFcs = false) (rxFcs : rx.bypassFcs = false)
    (idle : ch.fcrb.retransQ = []) (queued : ch.xmitHoldQ = buf :: rest)
    (cut : nextSegment tx tx.txMps buf rest = some (xmit,firstSeg,midSeg,lastSeg,sduLen,held))
    (headroom : sarHeader firstSeg ≤ xmit.offset) (room : xmit.offset + xmit.len + 2 ≤ xmit.data.length)
    (flushFlags : xmit.layerSpecific < 4) (small : xmit.len + 24 < 65536)
    (txSmall : ch.window.nextTxSeq < 64) (reqSmall : ch.fcrb.nextSeqExpected < 64) :
    ∃ ch' frame received ctrlWord, l2cFcrGetNextXmitSduSeg tx 0 ch = some (ch',some frame) ∧
      ch'.xmitHoldQ = held ∧ ch'.fcrb.retransQ = [] ∧ ch'.window.nextTxSeq < 64 ∧
      ch'.fcrb.nextSeqExpected = ch.fcrb.nextSeqExpected ∧ receiveFrame rx (arrive frame) = some (received,ctrlWord) ∧
      ctrlWord &&& l2capFcrSegBits = sarBits firstSeg midSeg lastSeg ∧
      received.bytes = (if firstSeg then uint16ToStream sduLen else []) ++ xmit.bytes ∧
      received.len = received.bytes.length ∧ received.offset + received.len ≤ received.data.length := by
  obtain ⟨ch',frame,pulled,held',idle',txSmall',reqSame,sent⟩ :=
    l2cFcrGetNextXmitSduSeg_sends txFcs idle queued cut headroom room flushFlags small txSmall reqSmall
  obtain ⟨received,ctrlWord,receivedEq,sar,carried,sized,inBuffer⟩ := receiveFrame_sent sent rxFcs
  exact ⟨ch',frame,received,ctrlWord,pulled,held',idle',txSmall',reqSame,receivedEq,sar,carried,
    sized.trans (congrArg List.length carried).symm,inBuffer⟩

section RoundTrip

variable {tx rx : Config} {sdu : List UInt8}

theorem pending_step (txFcs : tx.bypassFcs = false) (rxFcs : rx.bypassFcs = false) (segmenting : tx.localCid ≠ 0)
    (mps : 3 ≤ tx.txMps) (fits : sdu.length ≤ rx.maxRxMtu)
    (mtuFits : rx.maxRxMtu + obxBufMinOffset + PacketFragmenter.btHdrSize ≤ l2capMaxBufSize)
    {ch rxCh : Channel} {buf : BtHdr} (pending : Pending sdu ch rxCh buf) :
    ∃ ch' frame received ctrlWord rxCh', l2cFcrGetNextXmitSduSeg tx 0 ch = some (ch',some frame) ∧
      receiveFrame rx (arrive frame) = some (received,ctrlWord) ∧
      doSarReassembly rx rxCh received ctrlWord = some (rxCh',true) ∧
      (ch'.xmitHoldQ = [] ∧ rxCh'.delivered = rxCh.delivered ++ [sdu] ∧ rxCh'.fcrb.pRxSdu = none ∨
        ∃ buf', Pending sdu ch' rxCh' buf' ∧ buf'.len < buf.len ∧ rxCh'.delivered = rxCh.delivered) := by
  have bounded : buf.len ≤ sdu.length := pending.len_le
  have bytes := pending.bytes_length
  have room := pending.tailroom
  have header := pending.headroom
  have mtuRoom := mtuFits
  simp only [obxBufMinOffset,PacketFragmenter.btHdrSize,l2capMaxBufSize] at mtuRoom
  simp only [l2capFcsLen,sarHeader,l2capPktOverhead,l2capFcrOverhead,Bool.false_eq_true,if_false] at room header
  by_cases whole : buf.len ≤ tx.txMps
  · -- UNSEG or END: the held buffer itself goes out
    have cut : nextSegment tx tx.txMps buf [] =
        some ({buf with event := tx.localCid},false,false,decide (buf.event ≠ 0),0,[]) := by
      simp [nextSegment,Nat.not_lt.mpr whole]
    obtain ⟨ch',frame,received,ctrlWord,pulled,held,_,_,_,receivedEq,sar,carried,sized,_⟩ :=
      segment_arrives txFcs rxFcs pending.idle pending.queued cut
        pending.headroom (by dsimp only; omega)
        pending.flushFlags (by dsimp only; omega) pending.txSmall pending.reqSmall
    have payload : received.bytes = buf.bytes := by
      rw [carried]
      rfl
    by_cases fresh : buf.event = 0
    · obtain ⟨idle,original⟩ := pending.fresh fresh
      have unseg : ctrlWord &&& l2capFcrSegBits = l2capFcrUnsegSdu := by simpa [fresh,sarBits] using sar
      refine ⟨ch',frame,received,ctrlWord,_,pulled,receivedEq,doSarReassembly_unsegmented unseg idle,
        .inl ⟨held,?_,idle⟩⟩
      rw [payload,original]
    · obtain ⟨sent,inside,announced,joined⟩ := pending.started fresh
      have finish : ctrlWord &&& l2capFcrSegBits = l2capFcrEndSdu := by simpa [fresh,sarBits] using sar
      have complete : sent.length + received.len = rxCh.fcrb.rxSduLen := by
        rw [announced,sized,payload,← joined,List.length_append]
      refine ⟨ch',frame,received,ctrlWord,_,pulled,receivedEq,
        doSarReassembly_finish finish inside complete (by omega) mtuFits,.inl ⟨held,?_,rfl⟩⟩
      rw [payload,joined]
  · -- START or CONT: a copy of the next part goes out and the rest stays held
    have long : tx.txMps < buf.len := by omega
    by_cases fresh : buf.event = 0
    · obtain ⟨xmit,cut,xOffset,xLen,xLayer,xLength,xBytes⟩ :=
        nextSegment_cuts tx buf [] long (fun _ => by omega) (show tx.txMps - 2 = _ by simp [fresh]) (by omega) (by omega)
      obtain ⟨ch',frame,received,ctrlWord,pulled,held,idle,txSmall,reqSame,receivedEq,sar,carried,sized,inBuffer⟩ :=
        segment_arrives txFcs rxFcs pending.idle pending.queued cut
          (by simp [sarHeader,xOffset,fresh,l2capPktOverhead,l2capFcrOverhead,l2capSduLenOverhead,l2capMinOffset,
            l2capSduLenOffset]) (by simp only [l2capFcsLen] at xLength; omega) (xLayer ▸ pending.flushFlags) (by omega)
          pending.txSmall pending.reqSmall
      obtain ⟨idle',original⟩ := pending.fresh fresh
      have start : ctrlWord &&& l2capFcrSegBits = l2capFcrStartSdu := by simpa [fresh,sarBits] using sar
      have payload : received.bytes = uint16ToStream buf.len ++ sdu.take (tx.txMps - 2) := by
        simpa [fresh,xBytes,original] using carried
      have counted : sdu.length = buf.len := by rw [← original,bytes]
      refine ⟨ch',frame,received,ctrlWord,_,pulled,receivedEq,
        doSarReassembly_start start idle' inBuffer payload (by simp; omega) (by omega) mtuFits,
        .inr ⟨_,⟨held,idle,txSmall,reqSame ▸ pending.reqSmall,?_,?_,pending.flushFlags,?_,?_⟩,?_,rfl⟩⟩
      · exact pending.headroom.trans (Nat.le_add_right _ _)
      · have tailroom := pending.tailroom
        dsimp only
        omega
      · intro zero
        exact absurd zero segmenting
      · intro _
        refine ⟨_,rfl,counted.symm,?_⟩
        rw [bytes_advance,original,List.take_append_drop]
      · dsimp only
        omega
    · obtain ⟨xmit,cut,xOffset,xLen,xLayer,xLength,xBytes⟩ :=
        nextSegment_cuts tx buf [] long (fun _ => by omega) (show tx.txMps = _ by simp [fresh]) (by omega) (by omega)
      obtain ⟨ch',frame,received,ctrlWord,pulled,held,idle,txSmall,reqSame,receivedEq,sar,carried,sized,inBuffer⟩ :=
        segment_arrives txFcs rxFcs pending.idle pending.queued cut
          (by simp [sarHeader,xOffset,fresh,l2capPktOverhead,l2capFcrOverhead,l2capMinOffset,l2capSduLenOffset])
          (by simp only [l2capFcsLen] at xLength; omega) (xLayer ▸ pending.flushFlags) (by omega) pending.txSmall
          pending.reqSmall
      obtain ⟨sent,inside,announced,joined⟩ := pending.started fresh
      have continuation : ctrlWord &&& l2capFcrSegBits = l2capFcrContSdu := by simpa [fresh,sarBits] using sar
      have payload : received.bytes = buf.bytes.take tx.txMps := by simpa [fresh,xBytes] using carried
      have counted : sent.length + buf.len = sdu.length := by rw [← joined,List.length_append,bytes]
      have within : sent.length + received.len ≤ rxCh.fcrb.rxSduLen := by
        rw [sized,payload,announced,List.length_take]
        omega
      refine ⟨ch',frame,received,ctrlWord,_,pulled,receivedEq,
        doSarReassembly_continue continuation inside within (by omega) mtuFits,
        .inr ⟨_,⟨held,idle,txSmall,reqSame ▸ pending.reqSmall,?_,?_,pending.flushFlags,?_,?_⟩,?_,rfl⟩⟩
      · exact pending.headroom.trans (Nat.le_add_right _ _)
      · have tailroom := pending.tailroom
        dsimp only
        omega
      · intro zero
        exact absurd zero segmenting
      · intro _
        refine ⟨_,rfl,announced,?_⟩
        rw [bytes_advance,payload,List.append_assoc,List.take_append_drop,joined]
      · dsimp only
        omega

-- do_sar_reassembly on each I-frame in turn, as l2c_fcr_proc_pdu hands them
-- over once their header, FCS and control word are checked.
def sarRun (cfg : Config) : Channel → List (BtHdr × Nat) → Option (Channel × List Bool) :=
  Machine.transduce fun ch (buf,ctrlWord) => doSarReassembly cfg ch buf ctrlWord

theorem pullFrames_idle {cfg : Config} {ch : Channel} (emptied : ch.xmitHoldQ = []) :
    ∀ fuel, pullFrames cfg fuel ch = some (ch,[])
  | 0 => rfl
  | _+1 => by simp [pullFrames,emptied]

theorem pullFrames_succ {cfg : Config} {ch ch' : Channel} {frame : BtHdr} (fuel : Nat) (held : ch.xmitHoldQ ≠ [])
    (pulled : l2cFcrGetNextXmitSduSeg cfg 0 ch = some (ch',some frame)) :
    pullFrames cfg (fuel+1) ch = (pullFrames cfg fuel ch').map fun (ch'',frames) => (ch'',frame :: frames) := by
  simp [pullFrames,held,pulled]

-- The induction is on the pulls left, each one shortening what is held.
theorem pending_delivers (txFcs : tx.bypassFcs = false) (rxFcs : rx.bypassFcs = false) (segmenting : tx.localCid ≠ 0)
    (mps : 3 ≤ tx.txMps) (fits : sdu.length ≤ rx.maxRxMtu)
    (mtuFits : rx.maxRxMtu + obxBufMinOffset + PacketFragmenter.btHdrSize ≤ l2capMaxBufSize) :
    ∀ fuel {ch rxCh : Channel} {buf : BtHdr}, Pending sdu ch rxCh buf → buf.len < fuel →
      ∃ ch' frames received rxCh' oks, pullFrames tx fuel ch = some (ch',frames) ∧ ch'.xmitHoldQ = [] ∧
        frames.mapM (fun frame => receiveFrame rx (arrive frame)) = some received ∧
        sarRun rx rxCh received = some (rxCh',oks) ∧ (∀ ok ∈ oks, ok = true) ∧
        rxCh'.delivered = rxCh.delivered ++ [sdu] ∧ rxCh'.fcrb.pRxSdu = none
  | 0,_,_,_,_,short => absurd short (Nat.not_lt_zero _)
  | fuel+1,ch,rxCh,buf,pending,short => by
    obtain ⟨ch1,frame,received1,ctrlWord,rxCh1,pulled,receivedEq,reassembled,next⟩ :=
      pending_step txFcs rxFcs segmenting mps fits mtuFits pending
    have held : ch.xmitHoldQ ≠ [] := by simp [pending.queued]
    have ran : sarRun rx rxCh [(received1,ctrlWord)] = some (rxCh1,[true]) := by
      rw [sarRun,Machine.transduce_cons [] reassembled]
      rfl
    rcases next with ⟨emptied,delivered,closed⟩ | ⟨buf',pending',shorter,same⟩
    · -- the last segment: the next pull finds nothing held
      refine ⟨ch1,[frame],[(received1,ctrlWord)],rxCh1,[true],?_,emptied,?_,ran,by simp,delivered,closed⟩
      · rw [pullFrames_succ fuel held pulled,pullFrames_idle emptied]
        rfl
      · simp [receivedEq]
    · obtain ⟨ch',frames,received,rxCh',oks,pulledRest,emptied,receivedRest,ranRest,allTrue,delivered,closed⟩ :=
        pending_delivers txFcs rxFcs segmenting mps fits mtuFits fuel pending' (by omega)
      refine ⟨ch',frame :: frames,(received1,ctrlWord) :: received,rxCh',true :: oks,?_,emptied,?_,?_,?_,?_,closed⟩
      · rw [pullFrames_succ fuel held pulled,pulledRest]
        rfl
      · simp [receivedEq,receivedRest]
      · rw [sarRun,Machine.transduce_cons _ reassembled,← sarRun,ranRest]
        rfl
      · simpa using allTrue
      · rw [delivered,same]

theorem ertm_sar_round_trip (tx rx : Config) (txFcs : tx.bypassFcs = false) (rxFcs : rx.bypassFcs = false)
    (segmenting : tx.localCid ≠ 0) (mps : 3 ≤ tx.txMps)
    (mtuFits : rx.maxRxMtu + obxBufMinOffset + PacketFragmenter.btHdrSize ≤ l2capMaxBufSize)
    (ch rxCh : Channel) (sdu : BtHdr) (fits : sdu.len ≤ rx.maxRxMtu) (fresh : sdu.event = 0)
    (headroom : sarHeader false ≤ sdu.offset) (tailroom : sdu.offset + sdu.len + l2capFcsLen ≤ sdu.data.length)
    (flushFlags : sdu.layerSpecific < 4) (queued : ch.xmitHoldQ = [sdu]) (idle : ch.fcrb.retransQ = [])
    (txSmall : ch.window.nextTxSeq < 64) (reqSmall : ch.fcrb.nextSeqExpected < 64) (empty : rxCh.fcrb.pRxSdu = none)
    (fuel : Nat) (enough : sdu.len < fuel) :
    (∃ ch' frames received rxCh' oks, pullFrames tx fuel ch = some (ch',frames) ∧ ch'.xmitHoldQ = [] ∧
      frames.mapM (fun frame => receiveFrame rx (arrive frame)) = some received ∧
      sarRun rx rxCh received = some (rxCh',oks) ∧ (∀ ok ∈ oks, ok = true) ∧
      rxCh'.delivered = rxCh.delivered ++ [sdu.bytes] ∧ rxCh'.fcrb.pRxSdu = none) ∧
    (∀ (start : Channel) (inputs : List (BtHdr × Nat)), start.fcrb.pRxSdu = none →
      ∃ reached oks, sarRun rx start inputs = some (reached,oks) ∧ SduBound rx reached.fcrb ∧
        (Machine.run sarNext false (inputs.map fun input => sarTypeOf input.2) = none → false ∈ oks)) ∧
    ∀ (before after : Channel) (buf : BtHdr) (ctrlWord : Nat),
      doSarReassembly rx before buf ctrlWord = some (after,false) → after.delivered = before.delivered := by
  have sized : sdu.bytes.length = sdu.len := by
    simp only [BtHdr.bytes,Buffer.slice_length]
    omega
  have pending : Pending sdu.bytes ch rxCh sdu :=
    ⟨queued,idle,txSmall,reqSmall,headroom,tailroom,flushFlags,fun _ => ⟨empty,rfl⟩,fun started => absurd fresh started⟩
  refine ⟨pending_delivers txFcs rxFcs segmenting mps (by omega) mtuFits fuel pending enough,?_,
    fun _ _ _ _ rejected => doSarReassembly_false rejected⟩
  intro start inputs opened
  have begun : SduBound rx start.fcrb := by simp [SduBound,opened]
  -- every frame is answered and keeps the bound, whatever its SAR bits
  have answered : ∀ (ch : Channel) (input : BtHdr × Nat), SduBound rx ch.fcrb →
      ∃ ch' ok, doSarReassembly rx ch input.1 input.2 = some (ch',ok) ∧ SduBound rx ch'.fcrb := by
    intro ch input bounded
    obtain ⟨ch',ok,done,kept,_⟩ := doSarReassembly_step mtuFits bounded
    exact ⟨ch',ok,done,kept⟩
  have keeps : ∀ (ch : Channel) (input : BtHdr × Nat) ch' ok, SduBound rx ch.fcrb →
      doSarReassembly rx ch input.1 input.2 = some (ch',ok) → SduBound rx ch'.fcrb := by
    intro ch input ch' ok bounded done
    obtain ⟨_,_,done',kept,_⟩ := doSarReassembly_step mtuFits bounded
    rw [done] at done'
    cases done'
    exact kept
  have order : ∀ (ch : Channel) (input : BtHdr × Nat) ch' ok, SduBound rx ch.fcrb →
      doSarReassembly rx ch input.1 input.2 = some (ch',ok) → ok = true →
      sarNext ch.fcrb.pRxSdu.isSome (sarTypeOf input.2) = some ch'.fcrb.pRxSdu.isSome := by
    intro ch input ch' ok bounded done accepted
    obtain ⟨_,_,done',_,_,legal⟩ := doSarReassembly_step mtuFits bounded
    rw [done] at done'
    cases done'
    exact legal accepted
  obtain ⟨reached,oks,ran,bounded⟩ := Machine.transduce_invariant answered inputs begun
  refine ⟨reached,oks,ran,bounded,fun illegal => ?_⟩
  -- an all-true run follows the SAR order machine, so an illegal order has a false
  by_contra noFalse
  have allTrue : ∀ ok ∈ oks, ok = true := by
    intro ok found
    cases ok
    · exact absurd found noFalse
    · rfl
  have follows := Machine.transduce_simulates (fun ch : Channel => ch.fcrb.pRxSdu.isSome)
    (fun input : BtHdr × Nat => sarTypeOf input.2) keeps order inputs begun ran allTrue
  rw [opened,Option.isSome_none,illegal] at follows
  cases follows

def segmentingConfig : Config := ⟨0x40,0x41,3,10,3,10,100,1,false⟩

def receivingConfig : Config := ⟨0x41,0x40,3,10,3,10,100,1,false⟩

-- Five bytes at MPS 3: a START with one byte, a CONT with three, an END with one.
def segmentedSdu : BtHdr := ⟨0,5,8,0,List.replicate 8 0 ++ [1,2,3,4,5,0,0]⟩

def heldChannel : Channel := {Channel.opened with xmitHoldQ := [segmentedSdu]}

theorem ertm_sar_round_trip_segmented :
    (∃ ch' frames received rxCh' oks, pullFrames segmentingConfig 6 heldChannel = some (ch',frames) ∧
      ch'.xmitHoldQ = [] ∧ frames.mapM (fun frame => receiveFrame receivingConfig (arrive frame)) = some received ∧
      sarRun receivingConfig Channel.opened received = some (rxCh',oks) ∧ (∀ ok ∈ oks, ok = true) ∧
      rxCh'.delivered = Channel.opened.delivered ++ [segmentedSdu.bytes] ∧ rxCh'.fcrb.pRxSdu = none) ∧
    (∀ (start : Channel) (inputs : List (BtHdr × Nat)), start.fcrb.pRxSdu = none →
      ∃ reached oks, sarRun receivingConfig start inputs = some (reached,oks) ∧ SduBound receivingConfig reached.fcrb ∧
        (Machine.run sarNext false (inputs.map fun input => sarTypeOf input.2) = none → false ∈ oks)) ∧
    ∀ (before after : Channel) (buf : BtHdr) (ctrlWord : Nat),
      doSarReassembly receivingConfig before buf ctrlWord = some (after,false) → after.delivered = before.delivered :=
  ertm_sar_round_trip segmentingConfig receivingConfig rfl rfl (by decide) (by decide) (by decide) heldChannel
    Channel.opened segmentedSdu (by decide) rfl (by decide) (by decide) (by decide) rfl rfl (by decide) (by decide) rfl
    6 (by decide)

example : ((pullFrames segmentingConfig 6 heldChannel).map fun pulled =>
    pulled.2.map fun frame => sarTypeOf (readUint16 frame (frame.offset+l2capPktOverhead))) =
      some [.start,.continuation,.finish] := by
  decide

end RoundTrip

end BluetoothStack.L2cap
