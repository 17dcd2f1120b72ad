import BluetoothStack.L2cap.Fcr
import BluetoothStack.Lib.Machine
import BluetoothStack.Lib.SeqWindow

namespace BluetoothStack.L2cap

open PacketFragmenter (BtHdr)

section Buffers
variable {buf out : BtHdr} {pos start value : Nat}

theorem writeUint16_eq (written : writeUint16 buf pos value = some out) :
    ∃ data, Buffer.write buf.data pos (uint16ToStream value) = some data ∧ out = {buf with data} := by
  unfold writeUint16 at written
  obtain ⟨data,wrote,rfl⟩ := Option.map_eq_some_iff.mp written
  exact ⟨data,wrote,rfl⟩

theorem writeUint16_fields (written : writeUint16 buf pos value = some out) :
    out.offset = buf.offset ∧ out.len = buf.len := by
  obtain ⟨_,_,rfl⟩ := writeUint16_eq written
  exact ⟨rfl,rfl⟩

theorem writeUint16_read_same (written : writeUint16 buf pos value = some out) : readUint16 out pos = value % 65536 := by
  obtain ⟨data,wrote,rfl⟩ := writeUint16_eq written
  exact streamToUint16_write_same wrote

theorem writeUint16_read_other (written : writeUint16 buf start value = some out)
    (apart : pos + 2 ≤ start ∨ start + 2 ≤ pos) : readUint16 out pos = readUint16 buf pos := by
  obtain ⟨data,wrote,rfl⟩ := writeUint16_eq written
  exact streamToUint16_write_other wrote apart

theorem appendFcs_parts (appended : appendFcs buf = some out) :
    out.offset = buf.offset ∧ out.len = buf.len + l2capFcsLen ∧
      ∀ pos, buf.offset + 2 ≤ pos → pos + 2 ≤ buf.offset + buf.len → readUint16 out pos = readUint16 buf pos := by
  unfold appendFcs at appended
  obtain ⟨sized,lengthWritten,rest⟩ := Option.bind_eq_some_iff.mp appended
  obtain ⟨checked,fcsWritten,done⟩ := Option.bind_eq_some_iff.mp rest
  cases done
  obtain ⟨_,_,sizedEq⟩ := writeUint16_eq lengthWritten
  obtain ⟨_,_,checkedEq⟩ := writeUint16_eq fcsWritten
  have sizedOffset : sized.offset = buf.offset := by rw [sizedEq]
  have sizedLen : sized.len = buf.len := by rw [sizedEq]
  have checkedOffset : checked.offset = sized.offset := by rw [checkedEq]
  have checkedLen : checked.len = sized.len := by rw [checkedEq]
  refine ⟨checkedOffset.trans sizedOffset,by simp [checkedLen,sizedLen],fun pos after before => ?_⟩
  calc readUint16 {checked with len := checked.len + l2capFcsLen} pos = readUint16 checked pos := rfl
    _ = readUint16 sized pos := writeUint16_read_other fcsWritten (by omega)
    _ = readUint16 buf pos := writeUint16_read_other lengthWritten (by omega)

theorem l2cFcrCloneBuf_read {newOffset count : Nat} (cloned : l2cFcrCloneBuf buf newOffset count = some out)
    (inside : pos + 2 ≤ count) : readUint16 out (newOffset + pos) = readUint16 buf (buf.offset + pos) := by
  unfold l2cFcrCloneBuf at cloned
  split at cloned
  · rename_i fits
    cases cloned
    have front : (List.replicate newOffset (0 : UInt8)).length = newOffset := List.length_replicate
    have sliced : (Buffer.slice buf.data buf.offset count).length = count := by
      simp [Buffer.slice_length]; omega
    simp only [readUint16]
    rw [show newOffset + pos = (List.replicate newOffset (0 : UInt8)).length + pos by rw [front],
      List.append_assoc,streamToUint16_append_right,streamToUint16_append_left _ (by omega),Buffer.slice,
      streamToUint16_take _ inside,streamToUint16_drop]
  · cases cloned

theorem txSeqField_fields (sar txSeq fBit reqSeq : Nat) (flag : fBit = 0 ∨ fBit = l2capFcrFBit) :
    txSeqField (((sar &&& l2capFcrSegBits) ||| (txSeq <<< l2capFcrTxSeqBitsShift) ||| fBit |||
      (reqSeq <<< l2capFcrReqSeqBitsShift)) % 65536) = txSeq % 64 := by
  apply Nat.eq_of_testBit_eq
  intro i
  rw [show (65536 : Nat) = 2^16 by norm_num,show (64 : Nat) = 2^6 by norm_num]
  simp only [txSeqField,l2capFcrTxSeqBits,l2capFcrTxSeqBitsShift,l2capFcrReqSeqBitsShift,l2capFcrSegBits,
    Nat.testBit_shiftRight,
    Nat.testBit_and,Nat.testBit_mod_two_pow,Nat.testBit_or,Nat.testBit_shiftLeft]
  by_cases low : i < 6
  · interval_cases i <;> rcases flag with rfl | rfl <;> simp [l2capFcrFBit,Nat.testBit_eq_decide_div_mod_eq]
  · have mask : Nat.testBit 0x7E (1+i) = false := Nat.testBit_eq_false_of_lt (by
      calc 0x7E < 2^7 := by norm_num
        _ ≤ 2^(1+i) := Nat.pow_le_pow_right (by norm_num) (by omega))
    simp [mask,low]

theorem txSeqField_controlWord (window : Window) (fcrb : Fcrb) (buf : BtHdr) :
    txSeqField (controlWord window fcrb buf false % 65536) = window.nextTxSeq % 64 := by
  unfold controlWord
  cases fcrb.sendFRsp
  · simpa using txSeqField_fields buf.layerSpecific window.nextTxSeq 0 fcrb.nextSeqExpected (.inl rfl)
  · exact txSeqField_fields buf.layerSpecific window.nextTxSeq l2capFcrFBit fcrb.nextSeqExpected (.inr rfl)

end Buffers

section Frames
variable {cfg : Config} {ch ch' : Channel}

@[simp] theorem disconnect_window (ch : Channel) : (disconnect ch).window = ch.window := rfl

@[simp] theorem l2cFcrSendSFrame_window (ch : Channel) (functionCode pfBit : Nat) :
    (l2cFcrSendSFrame ch functionCode pfBit).window = ch.window := by
  unfold l2cFcrSendSFrame
  split <;> rfl

@[simp] theorem sendFResponse_window (ch : Channel) : (sendFResponse ch).window = ch.window := by
  simp [sendFResponse]

@[simp] theorem processUnexpectedIFrame_window (buf : BtHdr) (txSeq : Nat) :
    (processUnexpectedIFrame cfg ch buf txSeq).window = ch.window := by
  fun_cases processUnexpectedIFrame cfg ch buf txSeq <;> simp

@[simp] theorem acknowledgeIFrame_window (delayAck : Bool) : (acknowledgeIFrame cfg ch delayAck).window = ch.window := by
  unfold acknowledgeIFrame
  dsimp only
  split <;> simp

theorem retransmitIFrames_window {txSeq : Nat} {result : Channel × Bool}
    (retransmitted : retransmitIFrames cfg ch txSeq = some result) : result.1.window = ch.window := by
  revert retransmitted
  fun_cases retransmitIFrames cfg ch txSeq
  all_goals intro retransmitted
  · cases retransmitted; rfl
  · cases retransmitted; rfl
  · obtain ⟨copies,-,rfl⟩ := Option.map_eq_some_iff.mp retransmitted
    rfl

theorem doSarReassembly_window {buf : BtHdr} {ctrlWord : Nat} {result : Channel × Bool}
    (reassembled : doSarReassembly cfg ch buf ctrlWord = some result) : result.1.window = ch.window := by
  revert reassembled
  fun_cases doSarReassembly cfg ch buf ctrlWord <;> intro reassembled <;> cases reassembled <;> rfl

theorem processSequencedIFrame_window {buf : BtHdr} {ctrlWord : Nat} {delayAck : Bool}
    (processed : processSequencedIFrame cfg ch buf ctrlWord delayAck = some ch') : ch'.window = ch.window := by
  unfold processSequencedIFrame at processed
  dsimp only at processed
  split at processed
  · cases processed
    split <;> simp
  · obtain ⟨⟨ch1,ok⟩,reassembled,rfl⟩ := Option.map_eq_some_iff.mp processed
    have kept : ch1.window = ch.window := doSarReassembly_window reassembled
    split <;> simp [kept]

theorem processIFrame_window {buf : BtHdr} {ctrlWord : Nat} {delayAck : Bool}
    (processed : processIFrame cfg ch buf ctrlWord delayAck = some ch') : ch'.window = ch.window := by
  unfold processIFrame at processed
  dsimp only at processed
  obtain ⟨⟨ch1,ok⟩,recovered,rest⟩ := Option.bind_eq_some_iff.mp processed
  have kept : ch1.window = ch.window := by
    split at recovered
    · exact retransmitIFrames_window recovered
    · cases recovered; rfl
  split at rest
  · cases rest; exact kept
  · exact (processSequencedIFrame_window rest).trans kept

end Frames

section Frames
variable {cfg : Config} {ch ch' : Channel}

theorem processSFrame_window {ctrlWord : Nat} (processed : processSFrame cfg ch ctrlWord = some ch') :
    ch'.window = ch.window := by
  unfold processSFrame at processed
  dsimp only at processed
  obtain ⟨⟨ch1,allOk⟩,retransmitted,rfl⟩ := Option.map_eq_some_iff.mp processed
  have kept : ch1.window = ch.window := by
    split_ifs at retransmitted
    all_goals first
      | exact retransmitIFrames_window retransmitted
      | (cases retransmitted; rfl)
  split <;> simp [kept]

theorem replayHeldFrame_window {buf : BtHdr} (replayed : replayHeldFrame cfg ch buf = some ch') :
    ch'.window = ch.window := by
  unfold replayHeldFrame at replayed
  dsimp only at replayed
  obtain ⟨ch1,processed,rfl⟩ := Option.map_eq_some_iff.mp replayed
  have kept : ch1.window = ch.window := by
    split at processed
    · exact processIFrame_window processed
    · cases processed; rfl
  split <;> simp [kept]

theorem replaySrejHoldQ_window (replayed : replaySrejHoldQ cfg ch = some ch') : ch'.window = ch.window := by
  unfold replaySrejHoldQ at replayed
  split at replayed
  · cases replayed; rfl
  · obtain ⟨ch1,folded,rfl⟩ := Option.map_eq_some_iff.mp replayed
    have folds := Machine.foldlM_view Channel.window (fun _ _ _ replayed => replayHeldFrame_window replayed) _ folded
    have kept : ch1.window = ch.window := folds
    split <;> simp [kept]

theorem checkFinal_window {ctrlWord : Nat} :
    (checkFinal ch ctrlWord).elim Channel.window (·.1.window) = ch.window := by
  unfold checkFinal
  split_ifs <;> simp

@[simp] theorem l2cFcrProcTout_window : (l2cFcrProcTout cfg ch).window = ch.window := by
  unfold l2cFcrProcTout
  dsimp only
  split_ifs <;> simp

@[simp] theorem l2cFcrProcAckTout_window : (l2cFcrProcAckTout ch).window = ch.window := by
  unfold l2cFcrProcAckTout
  split_ifs <;> simp

end Frames

section Moves
variable {cfg : Config} {ch ch' : Channel}

-- One step leaves the window, sends a new I-frame numbered next_tx_seq while the
-- peer's window has room, or takes an in-range ReqSeq as an acknowledgement.
inductive WindowMove (cfg : Config) : Window → Window → Prop
  | stay (window : Window) : WindowMove cfg window window
  | transmit (window : Window) (frame : BtHdr) (room : window.waitingForAckQ.length < cfg.peerTxWinSz)
      (numbered : txSeqOf frame = window.nextTxSeq % 64) :
      WindowMove cfg window ⟨(window.nextTxSeq+1) &&& l2capFcrSeqModulo,window.lastRxAck,
        window.waitingForAckQ ++ [frame]⟩
  | acknowledge (window : Window) (reqSeq : Nat) (inRange : numBufsAcked window reqSeq ≤ window.waitingForAckQ.length)
      (small : reqSeq < 64) :
      WindowMove cfg window ⟨window.nextTxSeq,reqSeq,window.waitingForAckQ.drop (numBufsAcked window reqSeq)⟩

theorem WindowMove.of_eq {window window' window'' : Window} (moved : WindowMove cfg window window')
    (same : window'' = window') : WindowMove cfg window window'' := same ▸ moved

theorem reqSeqOf_lt (ctrlWord : Nat) : reqSeqOf ctrlWord < 64 := by
  have masked : ctrlWord &&& l2capFcrReqSeqBits ≤ 0x3F00 := Nat.and_le_right
  simp only [reqSeqOf,l2capFcrReqSeqBitsShift,Nat.shiftRight_eq_div_pow]
  omega

theorem processReqseq_move (ctrlWord : Nat) : WindowMove cfg ch.window (processReqseq ch ctrlWord).1.window := by
  unfold processReqseq
  split
  · exact .stay _
  · dsimp only
    split
    · exact .stay _
    · exact .acknowledge _ _ (by omega) (reqSeqOf_lt ctrlWord)

theorem l2cFcrProcPdu_move {buf : BtHdr} (processed : l2cFcrProcPdu cfg ch buf = some ch') :
    WindowMove cfg ch.window ch'.window := by
  unfold l2cFcrProcPdu at processed
  split at processed
  · cases processed
    exact .stay _
  rename_i frame ctrlWord _
  have final := @checkFinal_window ch ctrlWord
  split at processed
  · rename_i checkedCh checked
    cases processed
    rw [checked] at final
    exact WindowMove.of_eq (.stay _) final
  rename_i checkedCh checkedWord checked
  rw [checked] at final
  simp only [Sum.elim_inr] at final
  rw [← final]
  split at processed
  rename_i ackedCh ok acked
  have reqseq := @processReqseq_move cfg checkedCh checkedWord
  rw [acked] at reqseq
  split at processed
  · cases processed
    exact reqseq
  obtain ⟨processedCh,processing,replaying⟩ := Option.bind_eq_some_iff.mp processed
  have handled : processedCh.window = ackedCh.window := by
    split at processing
    · exact processSFrame_window processing
    · exact processIFrame_window processing
  have replayed : ch'.window = processedCh.window := by
    split at replaying
    · cases replaying; rfl
    · exact replaySrejHoldQ_window replaying
  exact WindowMove.of_eq reqseq (replayed.trans handled)

end Moves

section Transmit
variable {cfg : Config} {ch ch' : Channel}

theorem prepareIFrame_window {window window' : Window} {fcrb fcrb' : Fcrb} {buf out : BtHdr} {isRetransmission : Bool}
    (prepared : prepareIFrame cfg window fcrb buf isRetransmission = some (window',fcrb',out)) :
    window' = if isRetransmission then window
      else {window with nextTxSeq := (window.nextTxSeq+1) &&& l2capFcrSeqModulo} := by
  unfold prepareIFrame at prepared
  obtain ⟨written,_,rest⟩ := Option.bind_eq_some_iff.mp prepared
  split at rest
  · cases rest
    rfl
  · obtain ⟨_,_,done⟩ := Option.bind_eq_some_iff.mp rest
    cases done
    rfl

theorem prepareIFrame_txSeq {window window' : Window} {fcrb fcrb' : Fcrb} {buf out : BtHdr}
    (prepared : prepareIFrame cfg window fcrb buf false = some (window',fcrb',out))
    (header : l2capPktOverhead + 2 ≤ buf.len) :
    out.offset = buf.offset ∧ buf.len ≤ out.len ∧ txSeqOf out = window.nextTxSeq % 64 := by
  unfold prepareIFrame at prepared
  obtain ⟨written,controlWritten,rest⟩ := Option.bind_eq_some_iff.mp prepared
  obtain ⟨writtenOffset,writtenLen⟩ := writeUint16_fields controlWritten
  have control : txSeqOf written = window.nextTxSeq % 64 := by
    rw [txSeqOf,writtenOffset,writeUint16_read_same controlWritten,txSeqField_controlWord]
  split at rest
  · cases rest
    exact ⟨writtenOffset,writtenLen.ge,control⟩
  · obtain ⟨appended,fcsAppended,done⟩ := Option.bind_eq_some_iff.mp rest
    cases done
    obtain ⟨appendedOffset,appendedLen,kept⟩ := appendFcs_parts fcsAppended
    refine ⟨appendedOffset.trans writtenOffset,by omega,?_⟩
    rw [txSeqOf,appendedOffset,kept _ (by simp [l2capPktOverhead]) (by simp [l2capPktOverhead] at header ⊢; omega)]
    exact control

theorem addHeader_len {xmit headed : BtHdr} {firstSeg : Bool} {sduLen : Nat}
    (added : addHeader cfg xmit firstSeg sduLen = some headed) : l2capPktOverhead + 2 ≤ headed.len := by
  have header : l2capPktOverhead + 2 ≤ sarHeader firstSeg := by
    unfold sarHeader
    split <;> simp [l2capPktOverhead,l2capFcrOverhead]
  unfold addHeader at added
  split at added
  · cases added
  dsimp only at added
  obtain ⟨sized,sizeWritten,rest⟩ := Option.bind_eq_some_iff.mp added
  obtain ⟨named,cidWritten,rest⟩ := Option.bind_eq_some_iff.mp rest
  have sizedLen := (writeUint16_fields sizeWritten).2
  have namedLen := (writeUint16_fields cidWritten).2
  split at rest
  · have headedLen := (writeUint16_fields rest).2
    simp only at sizedLen
    omega
  · cases rest
    simp only at sizedLen
    omega

theorem l2cFcrCloneBuf_offset {buf copy : BtHdr} {newOffset count : Nat}
    (cloned : l2cFcrCloneBuf buf newOffset count = some copy) : copy.offset = newOffset ∧ copy.len = count := by
  unfold l2cFcrCloneBuf at cloned
  split at cloned
  · cases cloned
    exact ⟨rfl,rfl⟩
  · cases cloned

theorem l2cFcrGetNextXmitSduSeg_move {maxPacketLength : Nat} {out : Option BtHdr}
    (fetched : l2cFcrGetNextXmitSduSeg cfg maxPacketLength ch = some (ch',out)) :
    ch'.window = ch.window ∨ ch.fcrb.retransQ = [] ∧ ∃ frame, txSeqOf frame = ch.window.nextTxSeq % 64 ∧
      ch'.window = ⟨(ch.window.nextTxSeq+1) &&& l2capFcrSeqModulo,ch.window.lastRxAck,
        ch.window.waitingForAckQ ++ [frame]⟩ := by
  unfold l2cFcrGetNextXmitSduSeg at fetched
  split at fetched
  · obtain ⟨⟨window,fcrb,buf⟩,prepared,done⟩ := Option.bind_eq_some_iff.mp fetched
    cases done
    exact .inl (by simpa using prepareIFrame_window prepared)
  rename_i noRetransmission
  dsimp only at fetched
  split at fetched
  · cases fetched
    exact .inl rfl
  obtain ⟨⟨xmit,firstSeg,midSeg,lastSeg,sduLen,held⟩,_,rest⟩ := Option.bind_eq_some_iff.mp fetched
  obtain ⟨headed,added,rest⟩ := Option.bind_eq_some_iff.mp rest
  obtain ⟨⟨window,fcrb,prepared⟩,preparing,rest⟩ := Option.bind_eq_some_iff.mp rest
  obtain ⟨wack,cloned,done⟩ := Option.bind_eq_some_iff.mp rest
  cases done
  have header := addHeader_len added
  obtain ⟨_,longer,numbered⟩ := prepareIFrame_txSeq preparing (by simpa using header)
  have sized : headed.len ≤ prepared.len := longer
  obtain ⟨wackOffset,_⟩ := l2cFcrCloneBuf_offset cloned
  have copied : txSeqOf wack = ch.window.nextTxSeq % 64 := by
    rw [txSeqOf,wackOffset,l2cFcrCloneBuf_read cloned (by simp [l2capPktOverhead] at header ⊢; omega)]
    exact numbered
  obtain rfl := prepareIFrame_window preparing
  refine .inr ⟨noRetransmission,_,?_,rfl⟩
  exact copied

theorem l2cuGetNextBufferToSend_move {out : Option BtHdr} (sent : l2cuGetNextBufferToSend cfg ch = some (ch',out)) :
    WindowMove cfg ch.window ch'.window := by
  unfold l2cuGetNextBufferToSend at sent
  split_ifs at sent with blocked idle
  · cases sent
    exact .stay _
  · cases sent
    exact .stay _
  rcases l2cFcrGetNextXmitSduSeg_move sent with same | ⟨noRetransmission,frame,numbered,moved⟩
  · exact WindowMove.of_eq (.stay _) same
  · have room : ch.window.waitingForAckQ.length < cfg.peerTxWinSz := by
      simp only [noRetransmission,l2cFcrIsFlowControlled,true_and,not_or,Bool.or_eq_true,decide_eq_true_eq] at idle
      omega
    rw [moved]
    exact .transmit _ frame room numbered

theorem step_move {event : Event} (stepped : step cfg ch event = some ch') : WindowMove cfg ch.window ch'.window := by
  cases event with
  | send =>
    obtain ⟨⟨sentCh,out⟩,sent,rfl⟩ := Option.map_eq_some_iff.mp stepped
    exact l2cuGetNextBufferToSend_move sent
  | receive buf =>
    simp only [step] at stepped
    split at stepped
    · exact l2cFcrProcPdu_move stepped
    · cases stepped
      exact .stay _
  | retransTimeout =>
    cases stepped
    exact WindowMove.of_eq (.stay _) (by split <;> simp)
  | ackTimeout =>
    cases stepped
    exact WindowMove.of_eq (.stay _) (by simp)
  | dataWrite buf =>
    cases stepped
    exact WindowMove.of_eq (.stay _) (by split <;> rfl)

end Transmit

section Invariant
variable {cfg : Config}

-- The frames waiting for an acknowledgement carry the TxSeqs last_rx_ack,
-- last_rx_ack + 1, ... and there are (next_tx_seq - last_rx_ack) mod 64 of them.
structure WindowInv (window : Window) : Prop where
  consecutive : window.waitingForAckQ.map txSeqOf = SeqWindow.span 64 window.lastRxAck window.waitingForAckQ.length
  counted : window.waitingForAckQ.length = (window.nextTxSeq + 64 - window.lastRxAck) % 64
  ackSmall : window.lastRxAck < 64
  nextSmall : window.nextTxSeq < 64

theorem seqModulo_and (value : Nat) : value &&& l2capFcrSeqModulo = value % 64 :=
  Nat.and_two_pow_sub_one_eq_mod value 6

theorem numBufsAcked_eq (window : Window) (reqSeq : Nat) :
    numBufsAcked window reqSeq = SeqWindow.distance 64 window.lastRxAck reqSeq := by
  simp only [numBufsAcked,seqModulo_and,SeqWindow.distance]
  omega

theorem WindowInv.opened : WindowInv Channel.opened.window := ⟨rfl,rfl,by decide,by decide⟩

theorem WindowInv.transmit {window : Window} {frame : BtHdr} (holds : WindowInv window)
    (room : window.waitingForAckQ.length + 1 < 64) (numbered : txSeqOf frame = window.nextTxSeq % 64) :
    WindowInv ⟨(window.nextTxSeq+1) &&& l2capFcrSeqModulo,window.lastRxAck,window.waitingForAckQ ++ [frame]⟩ := by
  have counted := holds.counted
  have ackSmall := holds.ackSmall
  have nextSmall := holds.nextSmall
  have nextSeq : (window.lastRxAck + window.waitingForAckQ.length) % 64 = window.nextTxSeq % 64 := by omega
  refine ⟨?_,?_,ackSmall,?_⟩
  · simp only [List.map_append,List.map_cons,List.map_nil,List.length_append,List.length_cons,List.length_nil,
      SeqWindow.span_succ,holds.consecutive,numbered,nextSeq]
  · simp only [List.length_append,List.length_cons,List.length_nil,seqModulo_and]
    omega
  · simp only [seqModulo_and]
    omega

theorem WindowInv.acknowledge {window : Window} {reqSeq : Nat} (holds : WindowInv window)
    (inRange : numBufsAcked window reqSeq ≤ window.waitingForAckQ.length) (small : reqSeq < 64) :
    WindowInv ⟨window.nextTxSeq,reqSeq,window.waitingForAckQ.drop (numBufsAcked window reqSeq)⟩ := by
  have counted := holds.counted
  have ackSmall := holds.ackSmall
  have acked : (window.lastRxAck + numBufsAcked window reqSeq) % 64 = reqSeq := by
    rw [numBufsAcked_eq,SeqWindow.distance]
    omega
  rw [numBufsAcked_eq,SeqWindow.distance] at inRange
  refine ⟨?_,?_,small,holds.nextSmall⟩
  · rw [List.map_drop,holds.consecutive,SeqWindow.span_drop,← SeqWindow.span_mod,acked,List.length_drop]
  · dsimp only
    rw [List.length_drop,numBufsAcked_eq,SeqWindow.distance]
    omega

theorem WindowInv.move (smallWindow : cfg.peerTxWinSz ≤ 63) {window window' : Window} (holds : WindowInv window)
    (moved : WindowMove cfg window window') : WindowInv window' := by
  cases moved with
  | stay => exact holds
  | transmit frame room numbered => exact holds.transmit (by omega) numbered
  | acknowledge reqSeq inRange small => exact holds.acknowledge inRange small

theorem reachable_windowInv (smallWindow : cfg.peerTxWinSz ≤ 63) {ch : Channel}
    (reached : Machine.Reachable (step cfg) Channel.opened ch) : WindowInv ch.window :=
  reached.of_moves Channel.window WindowInv.opened (fun _ _ _ stepped => step_move stepped)
    (fun _ _ holds moved => holds.move smallWindow moved)

theorem processReqseq_accepts {ch : Channel} (holds : WindowInv ch.window) {ctrlWord : Nat}
    (acknowledging : isSrejWithoutPoll ctrlWord = false) :
    ((processReqseq ch ctrlWord).2 = true ↔
      SeqWindow.distance 64 ch.window.lastRxAck (reqSeqOf ctrlWord) ≤ ch.window.waitingForAckQ.length) ∧
    ((processReqseq ch ctrlWord).2 = true →
      (processReqseq ch ctrlWord).1.window.waitingForAckQ = ch.window.waitingForAckQ.filter fun frame =>
        SeqWindow.distance 64 ch.window.lastRxAck (reqSeqOf ctrlWord) ≤
          SeqWindow.distance 64 ch.window.lastRxAck (txSeqOf frame)) := by
  have fits : ch.window.waitingForAckQ.length ≤ 64 := by
    have := holds.counted
    omega
  unfold processReqseq
  simp only [acknowledging,Bool.false_eq_true,if_false,numBufsAcked_eq]
  split
  · simp only [Bool.false_eq_true,false_iff,false_implies,and_true]
    omega
  · simp only [true_iff,forall_const]
    refine ⟨by omega,?_⟩
    exact SeqWindow.drop_eq_filter txSeqOf _ holds.consecutive fits

theorem ertm_window_consecutive (cfg : Config) (smallWindow : cfg.peerTxWinSz ≤ 63) (ch : Channel)
    (reached : Machine.Reachable (step cfg) Channel.opened ch) :
    ch.window.waitingForAckQ.map txSeqOf = SeqWindow.span 64 ch.window.lastRxAck ch.window.waitingForAckQ.length ∧
    ch.window.waitingForAckQ.length = (ch.window.nextTxSeq + 64 - ch.window.lastRxAck) % 64 ∧
    ch.window.waitingForAckQ.length ≤ 63 ∧
    ∀ ctrlWord, isSrejWithoutPoll ctrlWord = false →
      ((processReqseq ch ctrlWord).2 = true ↔
        SeqWindow.distance 64 ch.window.lastRxAck (reqSeqOf ctrlWord) ≤ ch.window.waitingForAckQ.length) ∧
      ((processReqseq ch ctrlWord).2 = true →
        (processReqseq ch ctrlWord).1.window.waitingForAckQ = ch.window.waitingForAckQ.filter fun frame =>
          SeqWindow.distance 64 ch.window.lastRxAck (reqSeqOf ctrlWord) ≤
            SeqWindow.distance 64 ch.window.lastRxAck (txSeqOf frame)) := by
  have holds := reachable_windowInv smallWindow reached
  refine ⟨holds.consecutive,holds.counted,?_,fun ctrlWord acknowledging => processReqseq_accepts holds acknowledging⟩
  have := holds.counted
  omega

end Invariant

def sampleConfig : Config := ⟨0x40,0x41,100,10,3,10,100,1,false⟩

def sampleSdu : BtHdr := ⟨0,3,8,0,List.replicate 8 0 ++ [1,2,3,0,0]⟩

def sampleSent : Channel :=
  (Machine.run (step sampleConfig) Channel.opened [.dataWrite sampleSdu,.send]).getD Channel.opened

theorem ertm_window_consecutive_sent :
    sampleConfig.peerTxWinSz ≤ 63 ∧
    sampleSent.window.waitingForAckQ.map txSeqOf =
      SeqWindow.span 64 sampleSent.window.lastRxAck sampleSent.window.waitingForAckQ.length ∧
    sampleSent.window.waitingForAckQ.length = (sampleSent.window.nextTxSeq + 64 - sampleSent.window.lastRxAck) % 64 ∧
    sampleSent.window.waitingForAckQ.length ≤ 63 ∧
    ∀ ctrlWord, isSrejWithoutPoll ctrlWord = false →
      ((processReqseq sampleSent ctrlWord).2 = true ↔
        SeqWindow.distance 64 sampleSent.window.lastRxAck (reqSeqOf ctrlWord) ≤ sampleSent.window.waitingForAckQ.length) ∧
      ((processReqseq sampleSent ctrlWord).2 = true →
        (processReqseq sampleSent ctrlWord).1.window.waitingForAckQ = sampleSent.window.waitingForAckQ.filter fun frame =>
          SeqWindow.distance 64 sampleSent.window.lastRxAck (reqSeqOf ctrlWord) ≤
            SeqWindow.distance 64 sampleSent.window.lastRxAck (txSeqOf frame)) :=
  ⟨by decide,ertm_window_consecutive sampleConfig (by decide) sampleSent
    (Machine.Reachable.of_run Machine.Reachable.init
      (show Machine.run (step sampleConfig) Channel.opened [.dataWrite sampleSdu,.send] = some sampleSent from rfl))⟩

example : sampleSent.window.waitingForAckQ.map txSeqOf = [0] ∧ sampleSent.window.nextTxSeq = 1 := by
  constructor <;> rfl

-- An SREJ without the P-bit is accepted whatever its ReqSeq, and acknowledges
-- nothing: here ReqSeq 5 while one frame waits.
theorem processReqseq_accepts_unpolled_srej :
    sampleConfig.peerTxWinSz ≤ 63 ∧ Machine.Reachable (step sampleConfig) Channel.opened sampleSent ∧
    (processReqseq sampleSent 0x050D).2 = true ∧
    ¬ SeqWindow.distance 64 sampleSent.window.lastRxAck (reqSeqOf 0x050D) ≤ sampleSent.window.waitingForAckQ.length ∧
    (processReqseq sampleSent 0x050D).1.window = sampleSent.window :=
  ⟨by decide,
    Machine.Reachable.of_run Machine.Reachable.init
      (show Machine.run (step sampleConfig) Channel.opened [.dataWrite sampleSdu,.send] = some sampleSent from rfl),
    rfl,by decide,rfl⟩

end BluetoothStack.L2cap
