import BluetoothStack.Rfcomm.Frames

namespace BluetoothStack.Rfcomm

open PacketFragmenter (BtHdr)

-- The UIH frame rfc_send_buf_uih builds, read back by rfc_parse_data in both
-- length classes and with or without a credit byte.

theorem address_bits {cr : UInt8} (crBit : cr = 0 ∨ cr = 2) {dlci : UInt8} (small : dlci.toNat < 64) :
    (rfcommEa ||| cr ||| (dlci <<< 2)) &&& rfcommEa = 1 ∧
      ((rfcommEa ||| cr ||| (dlci <<< 2)) &&& rfcommCrMask) >>> 1 = cr >>> 1 ∧
      (rfcommEa ||| cr ||| (dlci <<< 2)) >>> 2 = dlci := by
  -- Bit by bit on the byte's value: the EA bit, the C/R bit and six DLCI bits
  -- do not overlap.
  have table : ∀ n, n < 64 → ∀ c ∈ [0,2], (1 ||| c ||| (n <<< 2) % 256) &&& 1 = 1 ∧
      ((1 ||| c ||| (n <<< 2) % 256) &&& 2) >>> 1 = c >>> 1 ∧ (1 ||| c ||| (n <<< 2) % 256) >>> 2 = n := by decide
  have crNat : cr.toNat = 0 ∨ cr.toNat = 2 := by rcases crBit with rfl | rfl <;> decide
  obtain ⟨-,crField,dlciField⟩ := table dlci.toNat small cr.toNat (by rcases crNat with h | h <;> simp [h])
  refine ⟨?_,?_,?_⟩
  · rw [← UInt8.toNat_inj]
    simp [rfcommEa,UInt8.toNat_or,UInt8.toNat_and,UInt8.toNat_shiftLeft]
  · rw [← UInt8.toNat_inj]
    simpa [rfcommEa,rfcommCrMask,UInt8.toNat_or,UInt8.toNat_and,UInt8.toNat_shiftLeft,UInt8.toNat_shiftRight] using crField
  · rw [← UInt8.toNat_inj]
    simpa [rfcommEa,UInt8.toNat_or,UInt8.toNat_shiftLeft,UInt8.toNat_shiftRight] using dlciField

theorem address_fields {cr : UInt8} (crBit : cr = 0 ∨ cr = 2) {dlci : UInt8} (small : dlci.toNat < 64) (second : UInt8) :
    rfcommParseCtrlField (rfcommEa ||| cr ||| (dlci <<< 2)) second = ((1 : UInt8),cr >>> 1,dlci) := by
  obtain ⟨eaByte,crByte,dlciByte⟩ := address_bits crBit small
  rw [rfcommParseCtrlField]
  simp only [eaByte,crByte,dlciByte]
  rw [if_neg (by decide)]

theorem longLength_fields {len : Nat} (long : 127 < len) (short : len ≤ 32767) :
    ((len &&& 0x7f) <<< 1).toUInt8 &&& rfcommEa = 0 ∧
      (((len &&& 0x7f) <<< 1).toUInt8 >>> 1).toNat + ((len >>> 7).toUInt8.toNat <<< 7) = len := by
  have low : len &&& 0x7f = len % 128 := Nat.and_two_pow_sub_one_eq_mod len 7
  have lowByte : ((len &&& 0x7f) <<< 1).toUInt8.toNat = len % 128 * 2 := by
    rw [low,Nat.shiftLeft_eq,Nat.toUInt8,UInt8.toNat_ofNat']
    omega
  have highByte : (len >>> 7).toUInt8.toNat = len / 128 := by
    rw [Nat.shiftRight_eq_div_pow,Nat.toUInt8,UInt8.toNat_ofNat']
    omega
  constructor
  · rw [← UInt8.toNat_inj,UInt8.toNat_and,lowByte]
    simp [rfcommEa,Nat.and_one_is_mod]
  · rw [UInt8.toNat_shiftRight,lowByte,highByte,Nat.shiftLeft_eq,Nat.shiftRight_eq_div_pow]
    show len % 128 * 2 / 2 ^ 1 + len / 128 * 2 ^ 7 = len
    omega

theorem shortLength_fields {len : Nat} (short : len ≤ 127) :
    (rfcommEa ||| (len <<< 1).toUInt8) &&& rfcommEa = 1 ∧ ((rfcommEa ||| (len <<< 1).toUInt8) >>> 1).toNat = len := by
  have table : ∀ n, n < 128 → (1 ||| n * 2) &&& 1 = 1 ∧ (1 ||| n * 2) >>> 1 = n := by decide
  have byte : (len <<< 1).toUInt8.toNat = len * 2 := by
    rw [Nat.shiftLeft_eq,Nat.toUInt8,UInt8.toNat_ofNat']
    omega
  obtain ⟨ea,value⟩ := table len (by omega)
  constructor
  · rw [← UInt8.toNat_inj,UInt8.toNat_and,UInt8.toNat_or,byte]
    exact ea
  · rw [UInt8.toNat_shiftRight,UInt8.toNat_or,byte]
    exact value

theorem control_fields (credits : UInt8) :
    rfcommParseTypeField (rfcommUih ||| if credits ≠ 0 then rfcommPf else 0) = (rfcommUih,if credits ≠ 0 then 1 else 0) := by
  by_cases none : credits ≠ 0
  · rw [if_pos none,if_pos none]; decide
  · rw [if_neg none,if_neg none]; decide

theorem getD_of_bytes {buf : BtHdr} {bytes : List UInt8} (framed : buf.bytes = bytes) {k : Nat} (lt : k < buf.len) :
    buf.data.getD (buf.offset + k) 0 = bytes.getD k 0 := by
  rw [← framed,BtHdr.bytes,Buffer.slice,List.getD_eq_getElem?_getD,List.getD_eq_getElem?_getD,List.getElem?_take,
    if_pos lt,List.getElem?_drop]

theorem length_uihHeader (cr dlci credits : UInt8) (len : Nat) :
    (uihHeader cr dlci credits len).length = 3 + (if len ≤ 127 then 0 else 1) + (if credits ≠ 0 then 1 else 0) := by
  unfold uihHeader
  split_ifs <;> simp

theorem rfcFrameEvent_uih (mcb : RfcMcb) {frame : MxFrame} (isUih : frame.type = rfcommUih)
    (valid : rfcommValidDlci frame.dlci = true) (len : Nat) (start : List UInt8) :
    rfcFrameEvent mcb frame len start (rfcCalcFcs (start.take 2)) = .uih := by
  rw [rfcFrameEvent,isUih]
  simp only [show rfcommUih ≠ rfcommSabme by decide,show rfcommUih ≠ rfcommUa by decide,
    show rfcommUih ≠ rfcommDm by decide,show rfcommUih ≠ rfcommDisc by decide,valid,rfcCheckFcs_calc,↓reduceIte]
  rfl

theorem rfcParseDataTail_uih (mcb : RfcMcb) {frame : MxFrame} (isUih : frame.type = rfcommUih)
    (valid : rfcommValidDlci frame.dlci = true) {buf : BtHdr} {len : Nat} (sized : buf.len = len) {start : List UInt8}
    (fcsAt : buf.data.getD (buf.offset + len) 0 = rfcCalcFcs (start.take 2)) :
    rfcParseDataTail mcb frame buf len start = (.uih,frame,buf) := by
  rw [rfcParseDataTail,if_neg (not_not.mpr sized),fcsAt,rfcFrameEvent_uih mcb isUih valid]

-- The credit byte is there exactly when the P/F bit is set.
theorem rfcParseDataCredit_uih (mcb : RfcMcb) {frame : MxFrame} (isUih : frame.type = rfcommUih)
    (valid : rfcommValidDlci frame.dlci = true) {credits : UInt8} (pf : frame.pf = if credits ≠ 0 then 1 else 0)
    (credited : credits ≠ 0 → frame.dlci ≠ rfcommMxDlci ∧ mcb.flow = .credit) {buf : BtHdr} {len : Nat}
    (sized : buf.len = (if credits ≠ 0 then 1 else 0) + len)
    (creditAt : credits ≠ 0 → buf.data.getD buf.offset 0 = credits) {start : List UInt8}
    (fcsAt : buf.data.getD (buf.offset + (if credits ≠ 0 then 1 else 0) + len) 0 = rfcCalcFcs (start.take 2)) :
    rfcParseDataCredit mcb frame buf len start =
      (.uih,{frame with credit := credits},{buf with offset := buf.offset + (if credits ≠ 0 then 1 else 0),len}) := by
  by_cases some : credits ≠ 0
  · obtain ⟨other,flow⟩ := credited some
    rw [if_pos some] at pf sized fcsAt ⊢
    have shrunk : buf.len - 1 = len := by omega
    rw [rfcParseDataCredit,if_pos ⟨flow,isUih,other,pf⟩,if_neg (by omega),creditAt some,
      @rfcParseDataTail_uih mcb {frame with credit := credits} isUih valid {buf with len := buf.len - 1,offset := buf.offset + 1}
        len shrunk _ fcsAt,shrunk]
  · rw [if_neg some] at pf sized fcsAt ⊢
    rw [Nat.zero_add] at sized
    rw [Nat.add_zero] at fcsAt ⊢
    have none : credits = 0 := not_not.mp some
    have unset : ¬(mcb.flow = .credit ∧ frame.type = rfcommUih ∧ frame.dlci ≠ rfcommMxDlci ∧ frame.pf = 1) :=
      fun ⟨_,_,_,set⟩ => absurd (pf.symm.trans set) (by decide)
    rw [rfcParseDataCredit,if_neg unset,none,@rfcParseDataTail_uih mcb {frame with credit := 0} isUih valid buf len sized _ fcsAt,← sized]

theorem rfcParseData_uih (mcb : RfcMcb) (frame : MxFrame) {buf : BtHdr} {cr dlci credits : UInt8} {payload : List UInt8}
    (crBit : cr = 0 ∨ cr = 2) (valid : rfcommValidDlci dlci = true) (short : payload.length ≤ 32767)
    (credited : credits ≠ 0 → dlci ≠ rfcommMxDlci ∧ mcb.flow = .credit)
    (framed : buf.bytes = uihHeader cr dlci credits payload.length ++ payload ++
      [rfcCalcFcs ((uihHeader cr dlci credits payload.length).take 2)])
    (inBuffer : buf.offset + buf.len ≤ buf.data.length) :
    rfcParseData mcb frame buf =
      (.uih,{frame with cr := cr >>> 1,dlci,type := rfcommUih,pf := if credits ≠ 0 then 1 else 0,credit := credits},
        {buf with offset := buf.offset + (uihHeader cr dlci credits payload.length).length,len := payload.length}) := by
  have headerLength := length_uihHeader cr dlci credits payload.length
  have sized : buf.len = (uihHeader cr dlci credits payload.length).length + payload.length + 1 := by
    rw [← BtHdr.bytes_length inBuffer,framed]
    simp only [List.length_append,List.length_singleton]
  have dlciSmall : dlci.toNat < 64 := by
    have bounded : dlci = 0 ∨ dlci ≤ rfcommMaxDlci := by
      simp only [rfcommValidDlci,Bool.or_eq_true,beq_iff_eq,Bool.and_eq_true,decide_eq_true_eq] at valid
      exact valid.imp_right And.right
    rcases bounded with rfl | le
    · decide
    · exact Nat.lt_of_le_of_lt (UInt8.le_iff_toNat_le.mp le) (by decide)
  have read := fun k (lt : k < buf.len) => getD_of_bytes framed lt
  have b0 : buf.data.getD (buf.offset + 0) 0 = rfcommEa ||| cr ||| (dlci <<< 2) := by
    rw [read 0 (by omega)]
    simp [uihHeader]
  have b1 : buf.data.getD (buf.offset + 1) 0 = rfcommUih ||| if credits ≠ 0 then rfcommPf else 0 := by
    rw [read 1 (by omega)]
    simp [uihHeader]
  -- The FCS byte and the two bytes it covers.
  have start : (buf.data.drop buf.offset).take 2 = (uihHeader cr dlci credits payload.length).take 2 := by
    have covered := congrArg (List.take 2) framed
    rw [BtHdr.bytes,Buffer.slice,List.take_take,Nat.min_eq_left (by omega)] at covered
    rw [covered,List.append_assoc,List.take_append_of_le_length (by omega)]
  have fcsAt : buf.data.getD (buf.offset + ((uihHeader cr dlci credits payload.length).length + payload.length)) 0 =
      rfcCalcFcs ((buf.data.drop buf.offset).take 2) := by
    rw [read _ (by omega),start,List.getD_append_right _ _ _ _ (by simp)]
    simp
  have notShort : ¬buf.len < rfcommCtrlFrameLen := by unfold rfcommCtrlFrameLen; omega
  have eaSet : ¬(1 : UInt8) = 0 := by decide
  simp only [rfcParseData,b0,b1,address_fields crBit dlciSmall,control_fields,notShort,eaSet,↓reduceIte]
  by_cases oneByte : payload.length ≤ 127
  · -- One length byte, with EA set.
    rw [if_pos oneByte] at headerLength
    have b2 : buf.data.getD (buf.offset + 2) 0 = rfcommEa ||| (payload.length <<< 1).toUInt8 := by
      rw [read 2 (by omega)]
      simp [uihHeader,oneByte]
    have creditAt : credits ≠ 0 → buf.data.getD (buf.offset + 3) 0 = credits := by
      intro some
      rw [read 3 (by omega)]
      simp [uihHeader,oneByte,some]
    obtain ⟨ea,value⟩ := shortLength_fields oneByte
    have fcsAt' : buf.data.getD (buf.offset + 3 + (if credits ≠ 0 then 1 else 0) + payload.length) 0 =
        rfcCalcFcs ((buf.data.drop buf.offset).take 2) := by
      rw [← fcsAt]
      congr 1
      omega
    simp only [b2,ea,value,eaSet,false_and,↓reduceIte,Nat.add_zero]
    rw [if_neg (by omega),rfcParseDataCredit_uih mcb rfl valid rfl credited]
    · rw [show buf.offset + 3 + (if credits ≠ 0 then 1 else 0) = buf.offset + (uihHeader cr dlci credits payload.length).length
        by omega]
    · show buf.len - (3 + 1) = _
      omega
    · exact creditAt
    · exact fcsAt'
  · -- Two length bytes, EA clear in the first.
    rw [if_neg oneByte] at headerLength
    have b2 : buf.data.getD (buf.offset + 2) 0 = ((payload.length &&& 0x7f) <<< 1).toUInt8 := by
      rw [read 2 (by omega)]
      simp [uihHeader,oneByte]
    have b3 : buf.data.getD (buf.offset + 3) 0 = (payload.length >>> 7).toUInt8 := by
      rw [read 3 (by omega)]
      simp [uihHeader,oneByte]
    have creditAt : credits ≠ 0 → buf.data.getD (buf.offset + 4) 0 = credits := by
      intro some
      rw [read 4 (by omega)]
      simp [uihHeader,oneByte,some]
    obtain ⟨ea,value⟩ := longLength_fields (by omega) short
    have fcsAt' : buf.data.getD (buf.offset + 4 + (if credits ≠ 0 then 1 else 0) + payload.length) 0 =
        rfcCalcFcs ((buf.data.drop buf.offset).take 2) := by
      rw [← fcsAt]
      congr 1
      omega
    have moreThanCtrl : ¬buf.len ≤ rfcommCtrlFrameLen := by unfold rfcommCtrlFrameLen; omega
    simp only [b2,b3,ea,moreThanCtrl,and_false,↓reduceIte,value]
    rw [if_neg (by omega),rfcParseDataCredit_uih mcb rfl valid rfl credited]
    · rw [show buf.offset + (3 + 0 + 1) + (if credits ≠ 0 then 1 else 0) =
        buf.offset + (uihHeader cr dlci credits payload.length).length by omega]
    · show buf.len - (3 + 0 + 1 + 1) = _
      omega
    · exact creditAt
    · exact fcsAt'

theorem rfcSendBufUih_frame (mcb : RfcMcb) (dlci : UInt8) {buf : BtHdr}
    (headroom : (uihHeader (rfcommCr mcb.isInitiator true) dlci (if dlci ≠ 0 then buf.layerSpecific.toUInt8 else 0)
      buf.len).length ≤ buf.offset)
    (room : buf.offset + buf.len < buf.data.length) :
    ∃ sent, rfcSendBufUih mcb dlci buf =
        some (if dlci = rfcommMxDlci then .checkSendCmd else .l2caDataWrite mcb.lcid,sent) ∧
      sent.offset + (uihHeader (rfcommCr mcb.isInitiator true) dlci (if dlci ≠ 0 then buf.layerSpecific.toUInt8 else 0)
        buf.len).length = buf.offset ∧
      sent.bytes = uihHeader (rfcommCr mcb.isInitiator true) dlci (if dlci ≠ 0 then buf.layerSpecific.toUInt8 else 0) buf.len ++
        buf.bytes ++ [rfcCalcFcs ((uihHeader (rfcommCr mcb.isInitiator true) dlci
          (if dlci ≠ 0 then buf.layerSpecific.toUInt8 else 0) buf.len).take 2)] ∧
      sent.offset + sent.len ≤ sent.data.length := by
  have atLeast : 3 ≤ (uihHeader (rfcommCr mcb.isInitiator true) dlci (if dlci ≠ 0 then buf.layerSpecific.toUInt8 else 0)
      buf.len).length := by
    rw [length_uihHeader]
    omega
  rw [rfcSendBufUih]
  dsimp only
  generalize uihHeader (rfcommCr mcb.isInitiator true) dlci (if dlci ≠ 0 then buf.layerSpecific.toUInt8 else 0) buf.len = header
    at headroom atLeast ⊢
  rw [if_neg (Nat.not_lt.mpr headroom)]
  obtain ⟨data,headerWritten⟩ : ∃ data, Buffer.write buf.data (buf.offset - header.length) header = some data :=
    ⟨_,Buffer.write_eq (by omega)⟩
  have sameLength := Buffer.write_length headerWritten
  have first : Buffer.slice data (buf.offset - header.length) 2 = header.take 2 :=
    calc Buffer.slice data (buf.offset - header.length) 2
        = (Buffer.slice data (buf.offset - header.length) header.length).take 2 := by
          rw [Buffer.slice,Buffer.slice,List.take_take,Nat.min_eq_left (by omega)]
      _ = header.take 2 := by rw [Buffer.slice_write_same headerWritten]
  obtain ⟨data',fcsWritten⟩ : ∃ data', Buffer.write data (buf.offset - header.length + header.length + buf.len)
      [rfcCalcFcs (Buffer.slice data (buf.offset - header.length) 2)] = some data' :=
    ⟨_,Buffer.write_eq (by simp; omega)⟩
  have moved : buf.offset - header.length + header.length = buf.offset := Nat.sub_add_cancel headroom
  rw [moved] at fcsWritten
  have fcsByte : Buffer.slice data' (buf.offset + buf.len) 1 = [rfcCalcFcs (Buffer.slice data (buf.offset - header.length) 2)] :=
    Buffer.slice_write_same fcsWritten
  rw [headerWritten,Option.bind_some,moved,fcsWritten,Option.map_some]
  refine ⟨_,rfl,moved,?_,?_⟩
  · show Buffer.slice data' (buf.offset - header.length) (header.length + buf.len + 1) = _
    rw [Buffer.slice_add,Buffer.slice_write_disjoint fcsWritten (.inr (by omega)),Buffer.slice_write_front headerWritten,
      moved,← Nat.add_assoc,moved,fcsByte,first]
    rfl
  · show buf.offset - header.length + (header.length + buf.len + 1) ≤ data'.length
    rw [Buffer.write_length fcsWritten,sameLength]
    omega

theorem rfcomm_uih_round_trip (sender receiver : RfcMcb) {dlci : UInt8} (valid : rfcommValidDlci dlci = true) {buf : BtHdr}
    (short : buf.len ≤ 32767) (headroom : rfcommMinOffset ≤ buf.offset) (room : buf.offset + buf.len < buf.data.length)
    (credited : dlci ≠ 0 → buf.layerSpecific.toUInt8 ≠ 0 → receiver.flow = .credit) (frame : MxFrame) :
    ∃ dest sent, rfcSendBufUih sender dlci buf = some (dest,sent) ∧
      ∃ parsedFrame parsed, rfcParseData receiver frame sent = (.uih,parsedFrame,parsed) ∧
        parsedFrame.dlci = dlci ∧ parsedFrame.credit = (if dlci = 0 then 0 else buf.layerSpecific.toUInt8) ∧
        parsed.offset = buf.offset ∧ parsed.len = buf.len ∧ parsed.bytes = buf.bytes := by
  have crBit : rfcommCr sender.isInitiator true = 0 ∨ rfcommCr sender.isInitiator true = 2 := by
    unfold rfcommCr
    split
    · exact .inr rfl
    · exact .inl rfl
  have fitsHeader : (uihHeader (rfcommCr sender.isInitiator true) dlci
      (if dlci ≠ 0 then buf.layerSpecific.toUInt8 else 0) buf.len).length ≤ buf.offset := by
    rw [length_uihHeader]
    unfold rfcommMinOffset at headroom
    split_ifs <;> omega
  obtain ⟨sent,sendOk,moved,framed,inBuffer⟩ := rfcSendBufUih_frame sender dlci fitsHeader room
  have payloadLength : buf.bytes.length = buf.len := BtHdr.bytes_length (by omega)
  -- A credit byte goes out only on a data channel, where the receiver counts credits.
  have creditOnData : (if dlci ≠ 0 then buf.layerSpecific.toUInt8 else 0) ≠ 0 →
      dlci ≠ rfcommMxDlci ∧ receiver.flow = .credit := by
    intro nonzero
    by_cases control : dlci = 0
    · rw [if_neg (not_not.mpr control)] at nonzero
      exact absurd rfl nonzero
    · rw [if_pos control] at nonzero
      exact ⟨control,credited control nonzero⟩
  rw [← payloadLength] at framed moved
  have parsedOk := rfcParseData_uih receiver frame crBit valid (by omega) creditOnData framed inBuffer
  refine ⟨_,sent,sendOk,_,_,parsedOk,rfl,?_,?_,payloadLength,?_⟩
  · by_cases control : dlci = 0
    · simp only [control,ne_eq,not_true_eq_false,↓reduceIte]
    · simp only [control,ne_eq,not_false_eq_true,↓reduceIte]
  · exact moved
  · -- The parsed buffer is the frame with its header and FCS cut off.
    have frameLength := BtHdr.bytes_length inBuffer
    rw [framed] at frameLength
    simp only [List.length_append,List.length_singleton] at frameLength
    show Buffer.slice sent.data (sent.offset + _) buf.bytes.length = buf.bytes
    rw [← Buffer.slice_slice _ _ sent.len]
    · show Buffer.slice sent.bytes _ _ = _
      rw [framed,Buffer.slice_middle _ _ _ (Nat.le_refl _),List.take_length]
    · omega

theorem rfcomm_uih_round_trip_sample :
    rfcommValidDlci 2 = true ∧ 128 ≤ 32767 ∧ rfcommMinOffset ≤ 5 ∧ 5 + 128 < (List.replicate 140 (0 : UInt8)).length ∧
      ∃ dest sent, rfcSendBufUih ⟨false,.credit,0x40⟩ 2 ⟨0,128,5,3,List.replicate 140 0⟩ = some (dest,sent) ∧
        ∃ parsedFrame parsed, rfcParseData ⟨true,.credit,0x41⟩ ⟨0,0,0,0,0⟩ sent = (.uih,parsedFrame,parsed) ∧
          parsedFrame.dlci = 2 ∧ parsedFrame.credit = 3 ∧
          parsed.offset = 5 ∧ parsed.len = 128 ∧ parsed.bytes = List.replicate 128 0 :=
  ⟨by decide,by decide,by decide,by simp,
    rfcomm_uih_round_trip ⟨false,.credit,0x40⟩ ⟨true,.credit,0x41⟩ (by decide) (by decide) (by decide) (by simp)
      (fun _ _ => rfl) ⟨0,0,0,0,0⟩⟩

end BluetoothStack.Rfcomm
