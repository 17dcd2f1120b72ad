import Mathlib
import BluetoothStack.Hci.PacketFragmenter

namespace BluetoothStack.Avdt

open PacketFragmenter

def l2capMinOffset : Nat := 13
def l2capMinMtu : Nat := 48
def btavA2dpCodecIndexMax : Nat := 10
def avdtNumLinks : Nat := 5
def avdtNumSeps : Nat := btavA2dpCodecIndexMax * avdtNumLinks
def avdtCmdBufSize : Nat := 660

def avdtPktTypeSingle : Nat := 0
def avdtPktTypeStart : Nat := 1
def avdtPktTypeCont : Nat := 2
def avdtPktTypeEnd : Nat := 3
def avdtLenTypeSingle : Nat := 2
def avdtLenTypeStart : Nat := 3
def avdtLenTypeCont : Nat := 1
def avdtLenTypeEnd : Nat := 1
def avdtMsgTypeCmd : Nat := 0
def avdtMsgTypeGrj : Nat := 1
def avdtMsgTypeRsp : Nat := 2
def avdtMsgTypeRej : Nat := 3
def avdtLenGenRej : Nat := 2
def avdtMsgOffset : Nat := l2capMinOffset + avdtNumSeps + avdtLenTypeStart

theorem cmdBufRoom : avdtCmdBufSize - btHdrSize - avdtMsgOffset = 586 := rfl
theorem fragmentRoom : avdtCmdBufSize - btHdrSize - l2capMinOffset = 639 := rfl

def avdtMsgPktTypeLen : List Nat := [avdtLenTypeSingle,avdtLenTypeStart,avdtLenTypeCont,avdtLenTypeEnd]

-- The signals whose commands avdt_msg_send times differently (avdt_defs.h).
def avdtSigDiscover : Nat := 1
def avdtSigGetcap : Nat := 2
def avdtSigSecurity : Nat := 11
def avdtSigGetAllcap : Nat := 12
def avdtSigDelayRpt : Nat := 13
def avdtSigMax : Nat := avdtSigDelayRpt

-- AVDT_MSG_BLD_HDR: the label is cut to a byte before it is shifted in.
def avdtMsgBldHdr (lbl pkt msg : Nat) : UInt8 := UInt8.ofNat ((lbl <<< 4) % 256 ||| pkt <<< 2 ||| msg)

def avdtMsgPrsHdr (b : UInt8) : Nat × Nat × Nat :=
  ((b.toNat >>> 4) &&& 0x0F,(b.toNat >>> 2) &&& 0x03,b.toNat &&& 0x03)
def avdtMsgPrsPktType (b : UInt8) : Nat := (b.toNat >>> 2) &&& 0x03
def avdtMsgPrsSig (b : UInt8) : Nat := b.toNat &&& 0x3F

def avdtBldLayerspec (msg label : Nat) : Nat := (label <<< 4 ||| msg) % 65536
def avdtLayerspecLabel (ls : Nat) : Nat := (ls >>> 4) % 256
def avdtLayerspecMsg (ls : Nat) : Nat := ls &&& 0x000F

theorem avdtMsgPrsHdr_bld {lbl pkt msg : Nat} (lblSmall : lbl < 16) (pktSmall : pkt < 4) (msgSmall : msg < 4) :
    avdtMsgPrsHdr (avdtMsgBldHdr lbl pkt msg) = (lbl,pkt,msg) := by
  have table : ∀ l < 16, ∀ p < 4, ∀ m < 4, avdtMsgPrsHdr (avdtMsgBldHdr l p m) = (l,p,m) := by decide
  exact table lbl lblSmall pkt pktSmall msg msgSmall

theorem avdtMsgPrsPktType_bld {lbl pkt msg : Nat} (lblSmall : lbl < 16) (pktSmall : pkt < 4) (msgSmall : msg < 4) :
    avdtMsgPrsPktType (avdtMsgBldHdr lbl pkt msg) = pkt :=
  congrArg (fun parsed => parsed.2.1) (avdtMsgPrsHdr_bld lblSmall pktSmall msgSmall)

theorem avdtMsgPrsSig_ofNat {sig : Nat} (small : sig < 64) : avdtMsgPrsSig (UInt8.ofNat sig) = sig := by
  have table : ∀ s < 64, avdtMsgPrsSig (UInt8.ofNat s) = s := by decide
  exact table sig small

theorem avdtLayerspec_bld {msg label : Nat} (labelSmall : label < 16) (msgSmall : msg < 16) :
    avdtLayerspecLabel (avdtBldLayerspec msg label) = label ∧ avdtLayerspecMsg (avdtBldLayerspec msg label) = msg := by
  have table : ∀ l < 16, ∀ m < 16,
      avdtLayerspecLabel (avdtBldLayerspec m l) = l ∧ avdtLayerspecMsg (avdtBldLayerspec m l) = m := by decide
  exact table label labelSmall msg msgSmall

-- L2CAP refuses a configured MTU below L2CAP_MIN_MTU (l2cu_process_peer_cfg_req).
structure PeerMtu where
  mtu : Nat
  atLeast : l2capMinMtu ≤ mtu

-- The timeouts of avdt_cb.rcb the signalling channel reads, in seconds.
structure Rcb where
  retTout : Nat
  sigTout : Nat
  idleTout : Nat

-- The part of tAVDT_CCB the signalling channel works on. A timer is the
-- interval it was last set to, none once it is cancelled.
structure AvdtCcb where
  label : Nat
  cmdQ : List BtHdr
  rspQ : List BtHdr
  pCurrCmd : Option BtHdr
  pCurrMsg : Option BtHdr
  pRxMsg : Option BtHdr
  cong : Bool
  retCount : Nat
  idleCcbTimer : Option Nat
  rspCcbTimer : Option Nat
  retCcbTimer : Option Nat

-- A CCB as avdt_ccb_alloc hands it out, zeroed by avdt_ccb_dealloc.
def ccbAlloc : AvdtCcb := ⟨0,[],[],none,none,none,false,0,none,none,none⟩

-- A START or CONTINUE fragment's fresh AVDT_CMD_BUF_SIZE buffer.
def fragmentBuffer (mtu hdrLen : Nat) (curr : BtHdr) : Option BtHdr :=
  let offset := l2capMinOffset + hdrLen
  let len := mtu - hdrLen
  (Buffer.write (List.replicate (avdtCmdBufSize - btHdrSize) 0) offset (Buffer.slice curr.data curr.offset len)).map
    fun data => ⟨0,len,offset,0,data⟩

-- The four branches of the loop body; the offset tells a message being
-- fragmented from one that is not.
def sendBranch (mtu : Nat) (curr : BtHdr) : Option (Nat × Nat × Nat × BtHdr) :=
  if curr.offset = avdtMsgOffset ∧ curr.len ≤ mtu - avdtLenTypeSingle then
    some (avdtPktTypeSingle,avdtLenTypeSingle,0,curr)
  else if curr.offset = avdtMsgOffset ∧ curr.len > mtu - avdtLenTypeSingle then
    (fragmentBuffer mtu avdtLenTypeStart curr).map
      ((avdtPktTypeStart,avdtLenTypeStart,(curr.len + avdtLenTypeStart - mtu) / (mtu - 1) + 2,·))
  else if curr.offset > avdtMsgOffset ∧ curr.len > mtu - avdtLenTypeCont then
    (fragmentBuffer mtu avdtLenTypeCont curr).map ((avdtPktTypeCont,avdtLenTypeCont,0,·))
  else some (avdtPktTypeEnd,avdtLenTypeEnd,0,curr)

def msgHeader (pktType label msg sig nosp : Nat) : List UInt8 :=
  avdtMsgBldHdr label pktType msg ::
    ((if pktType = avdtPktTypeStart then [UInt8.ofNat nosp] else []) ++
      (if pktType = avdtPktTypeStart ∨ pktType = avdtPktTypeSingle then [UInt8.ofNat sig] else []))

def currHeader (pktType nosp : Nat) (curr : BtHdr) : List UInt8 :=
  msgHeader pktType (avdtLayerspecLabel curr.layerSpecific) (avdtLayerspecMsg curr.layerSpecific) (curr.event % 256) nosp

def advance (curr : BtHdr) (len : Nat) : BtHdr := {curr with len := curr.len - len,offset := curr.offset + len}

-- curr_msg_len and p_curr_msg->len both drop by p_buf->len, so its test is on
-- what is left.
def msgSendPass (mtu : Nat) (curr : BtHdr) : Option (BtHdr × Option BtHdr) := do
  let (pktType,hdrLen,nosp,buf) ← sendBranch mtu curr
  let rest := if curr.len - buf.len = 0 then none else some (advance curr buf.len)
  let data ← Buffer.write buf.data (buf.offset - hdrLen) (currHeader pktType nosp curr)
  pure ({buf with len := buf.len + hdrLen,offset := buf.offset - hdrLen,data},rest)

-- The response timer for the signals never retransmitted (all, with
-- retransmission off), the retransmission timer for the others but delay reports.
def cmdTimers (rcb : Rcb) (sig : Nat) (ccb : AvdtCcb) : AvdtCcb :=
  if sig = avdtSigDiscover ∨ sig = avdtSigGetcap ∨ sig = avdtSigSecurity ∨ sig = avdtSigGetAllcap ∨
      rcb.retTout = 0 then
    {ccb with idleCcbTimer := none,retCcbTimer := none,rspCcbTimer := some (rcb.sigTout * 1000)}
  else if sig ≠ avdtSigDelayRpt then
    {ccb with idleCcbTimer := none,rspCcbTimer := none,retCcbTimer := some (rcb.retTout * 1000)}
  else ccb

def passTimers (rcb : Rcb) (curr : BtHdr) (rest : Option BtHdr) (ccb : AvdtCcb) : AvdtCcb :=
  if rest.isNone ∧ avdtLayerspecMsg curr.layerSpecific = avdtMsgTypeCmd then cmdTimers rcb (curr.event % 256) ccb
  else ccb

def msgRemaining (pCurrMsg : Option BtHdr) : Nat := pCurrMsg.elim 0 (·.len + 1)

theorem fragmentBuffer_len {mtu hdrLen : Nat} {curr buf : BtHdr} (copied : fragmentBuffer mtu hdrLen curr = some buf) :
    buf.len = mtu - hdrLen := by
  unfold fragmentBuffer at copied
  obtain ⟨data,-,rfl⟩ := Option.map_eq_some_iff.mp copied
  rfl

theorem sendBranch_buf {mtu pktType hdrLen nosp : Nat} {curr buf : BtHdr}
    (branch : sendBranch mtu curr = some (pktType,hdrLen,nosp,buf)) :
    buf = curr ∨ buf.len = mtu - hdrLen ∧ hdrLen ≤ avdtLenTypeStart := by
  unfold sendBranch at branch
  split_ifs at branch
  · cases branch
    exact .inl rfl
  · obtain ⟨buf',copied,same⟩ := Option.map_eq_some_iff.mp branch
    cases same
    exact .inr ⟨fragmentBuffer_len copied,le_refl _⟩
  · obtain ⟨buf',copied,same⟩ := Option.map_eq_some_iff.mp branch
    cases same
    exact .inr ⟨fragmentBuffer_len copied,by decide⟩
  · cases branch
    exact .inl rfl

theorem msgSendPass_eq {mtu pktType hdrLen nosp : Nat} {curr buf : BtHdr} {data : List UInt8}
    (branch : sendBranch mtu curr = some (pktType,hdrLen,nosp,buf))
    (written : Buffer.write buf.data (buf.offset - hdrLen) (currHeader pktType nosp curr) = some data) :
    msgSendPass mtu curr = some ({buf with len := buf.len + hdrLen,offset := buf.offset - hdrLen,data},
      if curr.len - buf.len = 0 then none else some (advance curr buf.len)) := by
  simp [msgSendPass,branch,written]

theorem msgSendPass_inv {mtu : Nat} {curr packet : BtHdr} {rest : Option BtHdr}
    (passed : msgSendPass mtu curr = some (packet,rest)) :
    ∃ pktType hdrLen nosp buf, sendBranch mtu curr = some (pktType,hdrLen,nosp,buf) ∧
      rest = (if curr.len - buf.len = 0 then none else some (advance curr buf.len)) ∧
      ∃ data, Buffer.write buf.data (buf.offset - hdrLen) (currHeader pktType nosp curr) = some data ∧
        packet = {buf with len := buf.len + hdrLen,offset := buf.offset - hdrLen,data} := by
  unfold msgSendPass at passed
  obtain ⟨⟨pktType,hdrLen,nosp,buf⟩,branch,later⟩ := Option.bind_eq_some_iff.mp passed
  obtain ⟨data,written,sent⟩ := Option.bind_eq_some_iff.mp later
  cases Option.some.inj sent
  exact ⟨pktType,hdrLen,nosp,buf,branch,rfl,data,written,rfl⟩

-- A pass finishes the message or leaves less of it: what makes the loop end.
theorem msgSendPass_shortens {mtu : Nat} {curr packet : BtHdr} {rest : Option BtHdr} (wide : avdtLenTypeStart < mtu)
    (passed : msgSendPass mtu curr = some (packet,rest)) : msgRemaining rest < curr.len + 1 := by
  obtain ⟨pktType,hdrLen,nosp,buf,branch,rfl,-⟩ := msgSendPass_inv passed
  split
  · exact Nat.succ_pos _
  · case isFalse left =>
    rcases sendBranch_buf branch with rfl | ⟨sized,small⟩
    · omega
    · show curr.len - buf.len + 1 < curr.len + 1
      omega

-- congested answers, write after write, whether avdt_ad_write_req left the
-- channel congested.
def msgSendLoop (peerMtu : PeerMtu) (rcb : Rcb) (ccb : AvdtCcb) (congested : List Bool) :
    Option (AvdtCcb × List BtHdr) :=
  if ccb.cong then some (ccb,[])
  else
    match _current : ccb.pCurrMsg with
    | none => some (ccb,[])
    | some curr =>
      match _passed : msgSendPass peerMtu.mtu curr with
      | none => none
      | some (packet,rest) =>
        -- the timers are set before the write, the congestion comes back from it
        (msgSendLoop peerMtu rcb {passTimers rcb curr rest ccb with pCurrMsg := rest,cong := congested.headD false}
          congested.tail).map fun (ccb',sent) => (ccb',packet :: sent)
termination_by msgRemaining ccb.pCurrMsg
decreasing_by
  have wide : avdtLenTypeStart < peerMtu.mtu := by
    have := peerMtu.atLeast
    unfold l2capMinMtu at this
    unfold avdtLenTypeStart
    omega
  show msgRemaining rest < msgRemaining ccb.pCurrMsg
  rw [_current]
  exact msgSendPass_shortens wide _passed

-- The result holds the CCB, whose cong is what the function returns.
def msgSend (peerMtu : PeerMtu) (rcb : Rcb) (ccb : AvdtCcb) (pMsg : Option BtHdr) (congested : List Bool) :
    Option (AvdtCcb × List BtHdr) :=
  msgSendLoop peerMtu rcb {ccb with pCurrMsg := pMsg.or ccb.pCurrMsg} congested

section Sending

variable {mtu : Nat} {curr : BtHdr}

theorem sendBranch_single (atStart : curr.offset = avdtMsgOffset) (fits : curr.len ≤ mtu - avdtLenTypeSingle) :
    sendBranch mtu curr = some (avdtPktTypeSingle,avdtLenTypeSingle,0,curr) := by
  simp [sendBranch,atStart,fits]

theorem sendBranch_start {buf : BtHdr} (atStart : curr.offset = avdtMsgOffset) (long : mtu - avdtLenTypeSingle < curr.len)
    (copied : fragmentBuffer mtu avdtLenTypeStart curr = some buf) :
    sendBranch mtu curr =
      some (avdtPktTypeStart,avdtLenTypeStart,(curr.len + avdtLenTypeStart - mtu) / (mtu - 1) + 2,buf) := by
  simp [sendBranch,atStart,long,not_le.mpr long,copied]

theorem sendBranch_cont {buf : BtHdr} (started : avdtMsgOffset < curr.offset) (long : mtu - avdtLenTypeCont < curr.len)
    (copied : fragmentBuffer mtu avdtLenTypeCont curr = some buf) :
    sendBranch mtu curr = some (avdtPktTypeCont,avdtLenTypeCont,0,buf) := by
  simp [sendBranch,started.ne',started,long,copied]

theorem sendBranch_end (started : avdtMsgOffset < curr.offset) (short : curr.len ≤ mtu - avdtLenTypeCont) :
    sendBranch mtu curr = some (avdtPktTypeEnd,avdtLenTypeEnd,0,curr) := by
  simp [sendBranch,started.ne',not_lt.mpr short]

theorem msgHeader_single (label msg sig nosp : Nat) :
    msgHeader avdtPktTypeSingle label msg sig nosp = [avdtMsgBldHdr label avdtPktTypeSingle msg,UInt8.ofNat sig] := rfl

theorem msgHeader_start (label msg sig nosp : Nat) :
    msgHeader avdtPktTypeStart label msg sig nosp =
      [avdtMsgBldHdr label avdtPktTypeStart msg,UInt8.ofNat nosp,UInt8.ofNat sig] := rfl

theorem msgHeader_cont (label msg sig nosp : Nat) :
    msgHeader avdtPktTypeCont label msg sig nosp = [avdtMsgBldHdr label avdtPktTypeCont msg] := rfl

theorem msgHeader_end (label msg sig nosp : Nat) :
    msgHeader avdtPktTypeEnd label msg sig nosp = [avdtMsgBldHdr label avdtPktTypeEnd msg] := rfl

theorem fragmentBuffer_some {hdrLen : Nat} (header : hdrLen ≤ mtu)
    (room : l2capMinOffset + mtu ≤ avdtCmdBufSize - btHdrSize) (inside : curr.offset + (mtu - hdrLen) ≤ curr.data.length) :
    ∃ buf, fragmentBuffer mtu hdrLen curr = some buf ∧ buf.offset = l2capMinOffset + hdrLen ∧ buf.len = mtu - hdrLen ∧
      buf.offset + buf.len ≤ buf.data.length ∧ buf.bytes = Buffer.slice curr.data curr.offset (mtu - hdrLen) := by
  have sliced : (Buffer.slice curr.data curr.offset (mtu - hdrLen)).length = mtu - hdrLen := by
    rw [Buffer.slice_length]
    omega
  obtain ⟨data,written,sized⟩ := @Buffer.exists_write UInt8 (List.replicate (avdtCmdBufSize - btHdrSize) 0)
    (Buffer.slice curr.data curr.offset (mtu - hdrLen)) (l2capMinOffset + hdrLen) (by rw [sliced]; simp; omega)
  refine ⟨⟨0,mtu - hdrLen,l2capMinOffset + hdrLen,0,data⟩,by simp [fragmentBuffer,written],rfl,rfl,?_,?_⟩
  · show l2capMinOffset + hdrLen + (mtu - hdrLen) ≤ data.length
    rw [sized,List.length_replicate]
    omega
  · have same := Buffer.slice_write_same written
    rw [sliced] at same
    exact same

theorem msgSendPass_sent {pktType hdrLen nosp : Nat} {buf : BtHdr}
    (branch : sendBranch mtu curr = some (pktType,hdrLen,nosp,buf))
    (headed : (currHeader pktType nosp curr).length = hdrLen) (room : hdrLen ≤ buf.offset)
    (inside : buf.offset + buf.len ≤ buf.data.length) :
    ∃ packet, msgSendPass mtu curr = some (packet,if curr.len - buf.len = 0 then none else some (advance curr buf.len)) ∧
      packet.len = buf.len + hdrLen ∧ packet.offset + packet.len ≤ packet.data.length ∧
      packet.bytes = currHeader pktType nosp curr ++ buf.bytes := by
  obtain ⟨data,written,sized⟩ := @Buffer.exists_write UInt8 buf.data (currHeader pktType nosp curr)
    (buf.offset - hdrLen) (by omega)
  refine ⟨_,msgSendPass_eq branch written,rfl,?_,?_⟩
  · show buf.offset - hdrLen + (buf.len + hdrLen) ≤ data.length
    omega
  · have front := Buffer.slice_write_front written buf.len
    rw [headed,Nat.sub_add_cancel room] at front
    show Buffer.slice data (buf.offset - hdrLen) (buf.len + hdrLen) = _
    rw [Nat.add_comm,front]
    rfl

end Sending

section Loop

variable {peerMtu : PeerMtu} {rcb : Rcb} {ccb : AvdtCcb}

theorem msgSendLoop_cong (congested : List Bool) (held : ccb.cong = true) :
    msgSendLoop peerMtu rcb ccb congested = some (ccb,[]) := by
  rw [msgSendLoop,if_pos held]

theorem msgSendLoop_done (congested : List Bool) (free : ccb.cong = false) (sent : ccb.pCurrMsg = none) :
    msgSendLoop peerMtu rcb ccb congested = some (ccb,[]) := by
  rw [msgSendLoop,if_neg (by simp [free])]
  split
  · rfl
  · case h_2 curr current => simp [sent] at current

theorem msgSendLoop_pass {curr packet : BtHdr} {rest : Option BtHdr} (congested : List Bool) (free : ccb.cong = false)
    (current : ccb.pCurrMsg = some curr) (passed : msgSendPass peerMtu.mtu curr = some (packet,rest)) :
    msgSendLoop peerMtu rcb ccb congested =
      (msgSendLoop peerMtu rcb {passTimers rcb curr rest ccb with pCurrMsg := rest,cong := congested.headD false}
        congested.tail).map fun (ccb',sent) => (ccb',packet :: sent) := by
  rw [msgSendLoop,if_neg (by simp [free])]
  split
  · case h_1 none => simp [current] at none
  · case h_2 curr' current' =>
    cases current.symm.trans current'
    split
    · case h_1 failed => simp [passed] at failed
    · case h_2 packet' rest' passed' =>
      cases passed.symm.trans passed'
      rfl

theorem msgSendLoop_fail {curr : BtHdr} (congested : List Bool) (free : ccb.cong = false)
    (current : ccb.pCurrMsg = some curr) (failed : msgSendPass peerMtu.mtu curr = none) :
    msgSendLoop peerMtu rcb ccb congested = none := by
  rw [msgSendLoop,if_neg (by simp [free])]
  split
  · case h_1 none => simp [current] at none
  · case h_2 curr' current' =>
    cases current.symm.trans current'
    split
    · rfl
    · case h_2 packet' rest' passed' => simp [failed] at passed'

end Loop

-- A START packet's BT_DEFAULT_BUFFER_SIZE buffer; the header byte is copied over
-- NOSP.
def asmblStart (pBuf : BtHdr) : Option BtHdr := do
  let copied ← Buffer.write (List.replicate (btDefaultBufferSize - btHdrSize) 0) 0
    (pBuf.data.take (pBuf.offset + pBuf.len))
  let data ← Buffer.write copied (pBuf.offset + 1) [copied.getD pBuf.offset 0]
  pure {pBuf with data,offset := pBuf.offset + pBuf.len,len := pBuf.len - 1}

-- An END hands the message back, moved to start after the copied header byte.
def asmblAppend (rx buf : BtHdr) (pktType : Nat) : Option (Option BtHdr × Option BtHdr) :=
  (Buffer.write rx.data rx.offset buf.bytes).map fun data =>
    if pktType = avdtPktTypeEnd then (none,some {rx with data,offset := rx.offset - rx.len,len := rx.len + buf.len})
    else (some {rx with data,offset := rx.offset + buf.len,len := rx.len + buf.len},none)

def msgAsmbl (ccb : AvdtCcb) (pBuf : BtHdr) : Option (AvdtCcb × Option BtHdr) :=
  if pBuf.len < 1 then some (ccb,none)
  else
    let pktType := avdtMsgPrsPktType (pBuf.data.getD pBuf.offset 0)
    if pBuf.len < avdtMsgPktTypeLen.getD pktType 0 then some (ccb,none)
    else if pktType = avdtPktTypeSingle then some ({ccb with pRxMsg := none},some pBuf)
    else if pktType = avdtPktTypeStart then
      if btHdrSize + pBuf.offset + pBuf.len > btDefaultBufferSize then some ({ccb with pRxMsg := none},none)
      else (asmblStart pBuf).map fun rx => ({ccb with pRxMsg := some rx},none)
    else
      match ccb.pRxMsg with
      | none => some (ccb,none)
      | some rx =>
        let buf := {pBuf with offset := pBuf.offset + avdtLenTypeCont,len := pBuf.len - avdtLenTypeCont}
        if rx.offset + buf.len > btDefaultBufferSize - btHdrSize then some ({ccb with pRxMsg := none},none)
        else (asmblAppend rx buf pktType).map fun (pRxMsg,ret) => ({ccb with pRxMsg},ret)

-- What avdt_msg_ind makes of the header of a message avdt_msg_asmbl handed
-- back, before it parses the parameters.
inductive IndHdr where
  | dropped
  | genRej (label : Nat)
  | badSig (label msgType sig : Nat)
  | parse (label msgType sig : Nat) (params : List UInt8)
deriving DecidableEq, Repr

def msgIndHdr (pBuf : BtHdr) : IndHdr :=
  let hdr := avdtMsgPrsHdr (pBuf.bytes.getD 0 0)
  if hdr.2.2 = avdtMsgTypeGrj then .dropped
  else if hdr.2.2 = avdtMsgTypeRej ∧ pBuf.len = avdtLenGenRej then .genRej hdr.1
  else
    let sig := avdtMsgPrsSig (pBuf.bytes.getD 1 0)
    if sig = 0 ∨ sig > avdtSigMax then .badSig hdr.1 hdr.2.2 sig
    -- the header is skipped: reassembly made sure it is there
    else .parse hdr.1 hdr.2.2 sig (pBuf.bytes.drop avdtLenTypeSingle)

section Receiving

theorem bytes_skip {pBuf : BtHdr} {b : UInt8} {rest : List UInt8} (bytes : pBuf.bytes = b :: rest) :
    ({pBuf with offset := pBuf.offset + 1,len := pBuf.len - 1} : BtHdr).bytes = rest :=
  Buffer.slice_succ_of_slice_eq_cons bytes

theorem bytes_length {pBuf : BtHdr} (inside : pBuf.offset + pBuf.len ≤ pBuf.data.length) :
    pBuf.bytes.length = pBuf.len := by
  unfold BtHdr.bytes
  rw [Buffer.slice_length]
  omega

-- A reassembly in progress: the bytes end where the next fragment goes, inside
-- the BT_DEFAULT_BUFFER_SIZE buffer.
structure Assembling (rx : BtHdr) (assembled : List UInt8) : Prop where
  size : rx.data.length = btDefaultBufferSize - btHdrSize
  within : rx.offset ≤ btDefaultBufferSize - btHdrSize
  len : rx.len = assembled.length
  below : rx.len ≤ rx.offset
  bytes : Buffer.slice rx.data (rx.offset - rx.len) rx.len = assembled

variable {ccb : AvdtCcb} {pBuf : BtHdr} {b : UInt8} {rest : List UInt8}

theorem asmblStart_assembling (bytes : pBuf.bytes = b :: rest) (long : avdtLenTypeStart ≤ pBuf.len)
    (inside : pBuf.offset + pBuf.len ≤ pBuf.data.length)
    (room : btHdrSize + pBuf.offset + pBuf.len ≤ btDefaultBufferSize) :
    ∃ rx, asmblStart pBuf = some rx ∧ Assembling rx (b :: rest.drop 1) ∧ rx.offset = pBuf.offset + pBuf.len := by
  have taken : (pBuf.data.take (pBuf.offset + pBuf.len)).length = pBuf.offset + pBuf.len := by
    simp only [List.length_take]
    omega
  obtain ⟨copied,copy,copiedSize⟩ := @Buffer.exists_write UInt8 (List.replicate (btDefaultBufferSize - btHdrSize) 0)
    (pBuf.data.take (pBuf.offset + pBuf.len)) 0 (by rw [taken,List.length_replicate]; unfold btHdrSize at room ⊢; omega)
  rw [List.length_replicate] at copiedSize
  -- the copy agrees with the packet where the packet is
  have prefix_ : Buffer.slice copied 0 (pBuf.offset + pBuf.len) = pBuf.data.take (pBuf.offset + pBuf.len) := by
    have same := Buffer.slice_write_same copy
    rwa [taken] at same
  have packet : Buffer.slice copied pBuf.offset pBuf.len = b :: rest := by
    rw [← bytes,← Nat.zero_add pBuf.offset,← Buffer.slice_slice copied 0 (pBuf.offset + pBuf.len) pBuf.offset pBuf.len
      (le_refl _),prefix_]
    simp [BtHdr.bytes,Buffer.slice,List.drop_take]
  have first : copied.getD pBuf.offset 0 = b := Buffer.getD_of_slice_eq_cons packet
  have restLong : 2 ≤ rest.length := by
    have whole := bytes_length inside
    rw [bytes,List.length_cons] at whole
    unfold avdtLenTypeStart at long
    omega
  obtain ⟨c,more,rfl⟩ : ∃ c more, rest = c :: more := List.exists_cons_of_length_pos (by omega)
  have afterNosp : Buffer.slice copied (pBuf.offset + 1 + 1) (pBuf.len - 1 - 1) = more :=
    Buffer.slice_succ_of_slice_eq_cons (Buffer.slice_succ_of_slice_eq_cons packet)
  obtain ⟨data,nosp,dataSize⟩ := @Buffer.exists_write UInt8 copied [b] (pBuf.offset + 1) (by
    rw [copiedSize,List.length_singleton]
    unfold avdtLenTypeStart at long
    unfold btHdrSize at room ⊢
    omega)
  refine ⟨{pBuf with data,offset := pBuf.offset + pBuf.len,len := pBuf.len - 1},?_,⟨?_,?_,?_,?_,?_⟩,rfl⟩
  · have first' : copied[pBuf.offset]?.getD 0 = b := by rw [← List.getD_eq_getElem?_getD]; exact first
    simp [asmblStart,copy,first',nosp]
  · rw [dataSize,copiedSize]
  · show pBuf.offset + pBuf.len ≤ btDefaultBufferSize - btHdrSize
    unfold btHdrSize at room ⊢
    omega
  · show pBuf.len - 1 = (b :: (c :: more).drop 1).length
    have whole := bytes_length inside
    rw [bytes] at whole
    simp only [List.length_cons,List.drop_succ_cons,List.drop_zero] at whole ⊢
    omega
  · show pBuf.len - 1 ≤ pBuf.offset + pBuf.len
    omega
  · show Buffer.slice data (pBuf.offset + pBuf.len - (pBuf.len - 1)) (pBuf.len - 1) = b :: (c :: more).drop 1
    have front := Buffer.slice_write_front nosp (pBuf.len - 1 - 1)
    rw [List.length_singleton,afterNosp] at front
    unfold avdtLenTypeStart at long
    rw [show pBuf.offset + pBuf.len - (pBuf.len - 1) = pBuf.offset + 1 by omega,
      show pBuf.len - 1 = 1 + (pBuf.len - 1 - 1) by omega,front]
    rfl

theorem pktType_of_bytes (bytes : pBuf.bytes = b :: rest) :
    avdtMsgPrsPktType (pBuf.data.getD pBuf.offset 0) = avdtMsgPrsPktType b := by
  rw [Buffer.getD_of_slice_eq_cons bytes]

theorem msgAsmbl_single (bytes : pBuf.bytes = b :: rest) (single : avdtMsgPrsPktType b = avdtPktTypeSingle)
    (long : avdtLenTypeSingle ≤ pBuf.len) : msgAsmbl ccb pBuf = some ({ccb with pRxMsg := none},some pBuf) := by
  unfold avdtLenTypeSingle at long
  simp only [msgAsmbl,pktType_of_bytes bytes,single]
  rw [if_neg (by omega),if_neg (by simp [avdtMsgPktTypeLen,avdtPktTypeSingle,avdtLenTypeSingle]; omega),if_pos trivial]

theorem msgAsmbl_start (bytes : pBuf.bytes = b :: rest) (start : avdtMsgPrsPktType b = avdtPktTypeStart)
    (long : avdtLenTypeStart ≤ pBuf.len) (inside : pBuf.offset + pBuf.len ≤ pBuf.data.length)
    (room : btHdrSize + pBuf.offset + pBuf.len ≤ btDefaultBufferSize) :
    ∃ rx, msgAsmbl ccb pBuf = some ({ccb with pRxMsg := some rx},none) ∧ Assembling rx (b :: rest.drop 1) ∧
      rx.offset = pBuf.offset + pBuf.len := by
  obtain ⟨rx,started,holds,offset⟩ := asmblStart_assembling bytes long inside room
  refine ⟨rx,?_,holds,offset⟩
  unfold avdtLenTypeStart at long
  simp only [msgAsmbl,pktType_of_bytes bytes,start]
  rw [if_neg (by omega),if_neg (by simp [avdtMsgPktTypeLen,avdtPktTypeStart,avdtLenTypeStart]; omega),
    if_neg (by decide),if_pos trivial,if_neg (by omega),started]
  rfl

theorem append_slice {rx buf : BtHdr} {assembled more : List UInt8} (holds : Assembling rx assembled)
    (skipped : buf.bytes = more) (sized : buf.len = more.length)
    (room : rx.offset + buf.len ≤ btDefaultBufferSize - btHdrSize) :
    ∃ data, Buffer.write rx.data rx.offset buf.bytes = some data ∧ data.length = rx.data.length ∧
      Buffer.slice data (rx.offset - rx.len) (rx.len + buf.len) = assembled ++ more := by
  obtain ⟨data,written,dataSize⟩ := @Buffer.exists_write UInt8 rx.data buf.bytes rx.offset (by
    rw [skipped,← sized,holds.size]
    exact room)
  refine ⟨data,written,dataSize,?_⟩
  have before : Buffer.slice data (rx.offset - rx.len) rx.len = assembled := by
    rw [Buffer.slice_write_disjoint written (.inr (by have := holds.below; omega)),holds.bytes]
  have copied : Buffer.slice data rx.offset buf.len = more := by
    have same := Buffer.slice_write_same written
    rwa [skipped,← sized] at same
  rw [Buffer.slice_add,before,Nat.sub_add_cancel holds.below,copied]

theorem asmblAppend_cont {rx buf : BtHdr} {pktType : Nat} {assembled more : List UInt8} (holds : Assembling rx assembled)
    (skipped : buf.bytes = more) (sized : buf.len = more.length)
    (room : rx.offset + buf.len ≤ btDefaultBufferSize - btHdrSize) (notEnd : pktType ≠ avdtPktTypeEnd) :
    ∃ rx', asmblAppend rx buf pktType = some (some rx',none) ∧ Assembling rx' (assembled ++ more) ∧
      rx'.offset = rx.offset + more.length := by
  obtain ⟨data,written,dataSize,whole⟩ := append_slice holds skipped sized room
  refine ⟨{rx with data,offset := rx.offset + buf.len,len := rx.len + buf.len},?_,⟨?_,room,?_,?_,?_⟩,by rw [sized]⟩
  · simp [asmblAppend,written,notEnd]
  · rw [dataSize,holds.size]
  · show rx.len + buf.len = (assembled ++ more).length
    rw [List.length_append,holds.len,sized]
  · show rx.len + buf.len ≤ rx.offset + buf.len
    have := holds.below
    omega
  · show Buffer.slice data (rx.offset + buf.len - (rx.len + buf.len)) (rx.len + buf.len) = assembled ++ more
    rw [show rx.offset + buf.len - (rx.len + buf.len) = rx.offset - rx.len by omega,whole]

theorem asmblAppend_end {rx buf : BtHdr} {assembled more : List UInt8} (holds : Assembling rx assembled)
    (skipped : buf.bytes = more) (sized : buf.len = more.length)
    (room : rx.offset + buf.len ≤ btDefaultBufferSize - btHdrSize) :
    ∃ done, asmblAppend rx buf avdtPktTypeEnd = some (none,some done) ∧ done.bytes = assembled ++ more ∧
      done.offset + done.len ≤ done.data.length ∧ done.len = assembled.length + more.length := by
  obtain ⟨data,written,dataSize,whole⟩ := append_slice holds skipped sized room
  refine ⟨{rx with data,offset := rx.offset - rx.len,len := rx.len + buf.len},?_,whole,?_,?_⟩
  · simp [asmblAppend,written]
  · show rx.offset - rx.len + (rx.len + buf.len) ≤ data.length
    rw [dataSize,holds.size]
    have := holds.below
    omega
  · show rx.len + buf.len = assembled.length + more.length
    rw [holds.len,sized]

theorem msgAsmbl_cont {rx : BtHdr} {assembled : List UInt8} (current : ccb.pRxMsg = some rx)
    (holds : Assembling rx assembled) (bytes : pBuf.bytes = b :: rest) (cont : avdtMsgPrsPktType b = avdtPktTypeCont)
    (inside : pBuf.offset + pBuf.len ≤ pBuf.data.length)
    (room : rx.offset + rest.length ≤ btDefaultBufferSize - btHdrSize) :
    ∃ rx', msgAsmbl ccb pBuf = some ({ccb with pRxMsg := some rx'},none) ∧ Assembling rx' (assembled ++ rest) ∧
      rx'.offset = rx.offset + rest.length := by
  have whole := bytes_length inside
  rw [bytes,List.length_cons] at whole
  obtain ⟨rx',appended,holds',offset⟩ := asmblAppend_cont holds (bytes_skip bytes) (by show pBuf.len - 1 = _; omega)
    (by show rx.offset + (pBuf.len - 1) ≤ _; omega) (show avdtPktTypeCont ≠ avdtPktTypeEnd by decide)
  refine ⟨rx',?_,holds',offset⟩
  simp only [msgAsmbl,pktType_of_bytes bytes,cont,current,avdtLenTypeCont]
  rw [if_neg (by omega),if_neg (by simp [avdtMsgPktTypeLen,avdtPktTypeCont,avdtLenTypeCont]; omega),
    if_neg (by decide),if_neg (by decide),if_neg (by omega),appended]
  rfl

theorem msgAsmbl_end {rx : BtHdr} {assembled : List UInt8} (current : ccb.pRxMsg = some rx)
    (holds : Assembling rx assembled) (bytes : pBuf.bytes = b :: rest) (last : avdtMsgPrsPktType b = avdtPktTypeEnd)
    (inside : pBuf.offset + pBuf.len ≤ pBuf.data.length)
    (room : rx.offset + rest.length ≤ btDefaultBufferSize - btHdrSize) :
    ∃ done, msgAsmbl ccb pBuf = some ({ccb with pRxMsg := none},some done) ∧ done.bytes = assembled ++ rest ∧
      done.offset + done.len ≤ done.data.length ∧ done.len = assembled.length + rest.length := by
  have whole := bytes_length inside
  rw [bytes,List.length_cons] at whole
  obtain ⟨done,appended,sent,fits,sized⟩ := asmblAppend_end holds (bytes_skip bytes) (by show pBuf.len - 1 = _; omega)
    (by show rx.offset + (pBuf.len - 1) ≤ _; omega)
  refine ⟨done,?_,sent,fits,sized⟩
  simp only [msgAsmbl,pktType_of_bytes bytes,last,current,avdtLenTypeCont]
  rw [if_neg (by omega),if_neg (by simp [avdtMsgPktTypeLen,avdtPktTypeEnd,avdtLenTypeEnd]; omega),
    if_neg (by decide),if_neg (by decide),if_neg (by omega),appended]
  rfl

-- A reassembly buffer as avdt_msg_asmbl keeps it: inside the buffer it
-- allocated, holding at least the header byte and the signal.
structure RxValid (rx : BtHdr) : Prop where
  size : rx.data.length = btDefaultBufferSize - btHdrSize
  within : rx.offset ≤ btDefaultBufferSize - btHdrSize
  below : rx.len ≤ rx.offset
  header : avdtLenTypeSingle ≤ rx.len

theorem RxValid.assembling {rx : BtHdr} (valid : RxValid rx) :
    Assembling rx (Buffer.slice rx.data (rx.offset - rx.len) rx.len) := by
  refine ⟨valid.size,valid.within,?_,valid.below,rfl⟩
  rw [Buffer.slice_length,valid.size]
  have := valid.within
  have := valid.below
  omega

theorem Assembling.valid {rx : BtHdr} {assembled : List UInt8} (holds : Assembling rx assembled)
    (header : avdtLenTypeSingle ≤ assembled.length) : RxValid rx :=
  ⟨holds.size,holds.within,holds.below,holds.len ▸ header⟩

theorem avdtMsgPrsPktType_lt (b : UInt8) : avdtMsgPrsPktType b < 4 := by
  unfold avdtMsgPrsPktType
  exact Nat.lt_of_le_of_lt Nat.and_le_right (by decide)

-- avdt_msg_asmbl copies only inside its buffers, whatever comes in.
theorem msgAsmbl_safe (valid : ∀ rx, ccb.pRxMsg = some rx → RxValid rx)
    (inside : pBuf.offset + pBuf.len ≤ pBuf.data.length) :
    ∃ ccb' ret, msgAsmbl ccb pBuf = some (ccb',ret) ∧ (∀ rx, ccb'.pRxMsg = some rx → RxValid rx) ∧
      ∀ done, ret = some done → avdtLenTypeSingle ≤ done.len ∧ done.offset + done.len ≤ done.data.length := by
  have cleared : ∀ rx, ({ccb with pRxMsg := none} : AvdtCcb).pRxMsg = some rx → RxValid rx := by
    intro rx held
    cases held
  by_cases empty : pBuf.len < 1
  · exact ⟨ccb,none,by simp [msgAsmbl,empty],valid,by simp⟩
  obtain ⟨b,rest,bytes⟩ : ∃ b rest, pBuf.bytes = b :: rest :=
    List.exists_cons_of_length_pos (by rw [bytes_length inside]; omega)
  have whole := bytes_length inside
  rw [bytes,List.length_cons] at whole
  have typeSmall := avdtMsgPrsPktType_lt b
  simp only [msgAsmbl,pktType_of_bytes bytes,avdtLenTypeCont]
  rw [if_neg empty]
  split_ifs with short single start tooBig
  · exact ⟨ccb,none,rfl,valid,by simp⟩
  · case pos =>
    refine ⟨_,_,rfl,cleared,?_⟩
    rintro done ⟨⟩
    rw [single] at short
    simp [avdtMsgPktTypeLen,avdtPktTypeSingle,avdtLenTypeSingle] at short
    exact ⟨by unfold avdtLenTypeSingle; omega,inside⟩
  · exact ⟨_,_,rfl,cleared,by simp⟩
  · case neg =>
    rw [start] at short
    simp [avdtMsgPktTypeLen,avdtPktTypeStart,avdtLenTypeStart] at short
    obtain ⟨rx,started,holds,-⟩ := asmblStart_assembling bytes (by unfold avdtLenTypeStart; omega) inside (by omega)
    refine ⟨_,_,by rw [started]; rfl,?_,by simp⟩
    rintro rx' ⟨⟩
    exact holds.valid (by simp; unfold avdtLenTypeSingle; omega)
  · case neg =>
    cases current : ccb.pRxMsg with
    | none => exact ⟨ccb,none,rfl,valid,by simp⟩
    | some rx =>
      have rxValid := valid rx current
      have more : pBuf.len - 1 = rest.length := by omega
      dsimp only
      split_ifs with overflow
      · exact ⟨_,_,rfl,cleared,by simp⟩
      · by_cases last : avdtMsgPrsPktType b = avdtPktTypeEnd
        · obtain ⟨done,appended,-,fits,sized⟩ := asmblAppend_end rxValid.assembling (bytes_skip bytes) more
            (by show rx.offset + (pBuf.len - 1) ≤ _; omega)
          refine ⟨_,_,by rw [last,appended]; rfl,cleared,?_⟩
          rintro done' ⟨⟩
          refine ⟨?_,fits⟩
          rw [sized,Buffer.slice_length,rxValid.size]
          have := rxValid.header
          have := rxValid.within
          have := rxValid.below
          omega
        · obtain ⟨rx',appended,holds',-⟩ := asmblAppend_cont rxValid.assembling (bytes_skip bytes) more
            (by show rx.offset + (pBuf.len - 1) ≤ _; omega) last
          refine ⟨_,_,by rw [appended]; rfl,?_,by simp⟩
          rintro rx'' ⟨⟩
          refine holds'.valid ?_
          rw [List.length_append,Buffer.slice_length,rxValid.size]
          have := rxValid.header
          have := rxValid.within
          have := rxValid.below
          omega

theorem msgIndHdr_parse {label pktType msgType sig : Nat} {params : List UInt8}
    (bytes : pBuf.bytes = avdtMsgBldHdr label pktType msgType :: UInt8.ofNat sig :: params)
    (inside : pBuf.offset + pBuf.len ≤ pBuf.data.length) (labelSmall : label < 16) (pktTypeSmall : pktType < 4)
    (msgTypeSmall : msgType < 4) (notGrj : msgType ≠ avdtMsgTypeGrj) (notGenRej : msgType = avdtMsgTypeRej → params ≠ [])
    (sigValid : 0 < sig ∧ sig ≤ avdtSigMax) :
    msgIndHdr pBuf = .parse label msgType sig params := by
  have whole := bytes_length inside
  rw [bytes,List.length_cons,List.length_cons] at whole
  have sigSmall : sig < 64 := by unfold avdtSigMax avdtSigDelayRpt at sigValid; omega
  have notGen : ¬(msgType = avdtMsgTypeRej ∧ pBuf.len = avdtLenGenRej) := by
    rintro ⟨rej,two⟩
    unfold avdtLenGenRej at two
    exact notGenRej rej (List.eq_nil_of_length_eq_zero (by omega))
  unfold msgIndHdr
  simp only [bytes,List.getD_cons_zero,List.getD_cons_succ,avdtMsgPrsHdr_bld labelSmall pktTypeSmall msgTypeSmall,
    avdtMsgPrsSig_ofNat sigSmall]
  rw [if_neg notGrj,if_neg notGen,if_neg (by omega)]
  rfl

end Receiving

end BluetoothStack.Avdt
