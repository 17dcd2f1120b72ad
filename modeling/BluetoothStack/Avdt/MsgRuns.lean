import Mathlib
import BluetoothStack.Avdt.Msg
import BluetoothStack.Lib.Chunks
import BluetoothStack.Lib.Machine

namespace BluetoothStack.Avdt

open PacketFragmenter

-- A message as avdt_msg_send_cmd, _rsp, _rej and _grej queue it.
structure Queued (label msgType : Nat) (msg : BtHdr) : Prop where
  size : msg.data.length = avdtCmdBufSize - btHdrSize
  atStart : msg.offset = avdtMsgOffset
  fits : msg.offset + msg.len ≤ msg.data.length
  layer : msg.layerSpecific = avdtBldLayerspec msgType label
  labelSmall : label < 16
  msgTypeSmall : msgType < 4

-- What is left of a message being fragmented: past AVDT_MSG_OFFSET, still
-- inside its buffer and with the header fields it was queued with.
structure Fragmenting (label msgType : Nat) (curr : BtHdr) : Prop where
  size : curr.data.length = avdtCmdBufSize - btHdrSize
  started : avdtMsgOffset < curr.offset
  fits : curr.offset + curr.len ≤ curr.data.length
  layer : curr.layerSpecific = avdtBldLayerspec msgType label
  labelSmall : label < 16
  msgTypeSmall : msgType < 4

-- The packets AVDTP sends a message in: one SINGLE packet if it fits the MTU,
-- else START, CONTINUE packets and a last END.
def framing (mtu label msgType sig nosp : Nat) (params : List UInt8) : List (List UInt8) :=
  if params.length ≤ mtu - avdtLenTypeSingle then
    [avdtMsgBldHdr label avdtPktTypeSingle msgType :: UInt8.ofNat sig :: params]
  else
    (avdtMsgBldHdr label avdtPktTypeStart msgType :: UInt8.ofNat nosp :: UInt8.ofNat sig ::
        params.take (mtu - avdtLenTypeStart)) ::
      Chunks.tagLast (avdtMsgBldHdr label avdtPktTypeCont msgType) (avdtMsgBldHdr label avdtPktTypeEnd msgType)
        (Chunks.cut (mtu - avdtLenTypeCont) (params.drop (mtu - avdtLenTypeStart)))

def nospOf (mtu len : Nat) : Nat := (len + avdtLenTypeStart - mtu) / (mtu - 1) + 2

def sentState (rcb : Rcb) (curr : BtHdr) (ccb : AvdtCcb) (cong : Bool) : AvdtCcb :=
  {passTimers rcb curr none ccb with pCurrMsg := none,cong}

-- Label and message type are read back out of layer_specific, as avdt_msg_send
-- does.
def restFraming (mtu : Nat) (curr : BtHdr) : List (List UInt8) :=
  let label := avdtLayerspecLabel curr.layerSpecific
  let msgType := avdtLayerspecMsg curr.layerSpecific
  if curr.offset = avdtMsgOffset then framing mtu label msgType (curr.event % 256) (nospOf mtu curr.len) curr.bytes
  else
    Chunks.tagLast (avdtMsgBldHdr label avdtPktTypeCont msgType) (avdtMsgBldHdr label avdtPktTypeEnd msgType)
      (Chunks.cut (mtu - avdtLenTypeCont) curr.bytes)

def Pending (curr : BtHdr) : Prop := ∃ label msgType, Queued label msgType curr ∨ Fragmenting label msgType curr

section Pass

variable {label msgType mtu : Nat} {msg curr : BtHdr}

theorem currHeader_eq (layer : curr.layerSpecific = avdtBldLayerspec msgType label) (labelSmall : label < 16)
    (msgTypeSmall : msgType < 4) (pktType nosp : Nat) :
    currHeader pktType nosp curr = msgHeader pktType label msgType (curr.event % 256) nosp := by
  obtain ⟨labelIs,msgIs⟩ := avdtLayerspec_bld labelSmall (show msgType < 16 by omega)
  rw [currHeader,layer,labelIs,msgIs]

theorem advance_bytes (curr : BtHdr) {len : Nat} : (advance curr len).bytes = curr.bytes.drop len := by
  simp only [advance,BtHdr.bytes,Buffer.slice,List.drop_take,List.drop_drop]

theorem advance_fragmenting (frag : Fragmenting label msgType curr) {len : Nat} (short : len < curr.len) :
    Fragmenting label msgType (advance curr len) :=
  ⟨frag.size,by show avdtMsgOffset < curr.offset + len; have := frag.started; omega,
    by show curr.offset + len + (curr.len - len) ≤ curr.data.length; have := frag.fits; omega,
    frag.layer,frag.labelSmall,frag.msgTypeSmall⟩

theorem Queued.fragmenting (queued : Queued label msgType msg) {len : Nat} (positive : 0 < len)
    (short : len < msg.len) : Fragmenting label msgType (advance msg len) :=
  ⟨queued.size,by show avdtMsgOffset < msg.offset + len; rw [queued.atStart]; omega,
    by show msg.offset + len + (msg.len - len) ≤ msg.data.length; have := queued.fits; omega,
    queued.layer,queued.labelSmall,queued.msgTypeSmall⟩

theorem Queued.len_le (queued : Queued label msgType msg) : msg.len ≤ avdtCmdBufSize - btHdrSize - avdtMsgOffset := by
  have := queued.fits
  rw [queued.atStart,queued.size] at this
  omega

theorem Fragmenting.len_le (frag : Fragmenting label msgType curr) :
    curr.len ≤ avdtCmdBufSize - btHdrSize - avdtMsgOffset := by
  have := frag.fits
  have := frag.started
  rw [frag.size] at *
  omega

theorem mtu_room {len : Nat} (bound : len ≤ avdtCmdBufSize - btHdrSize - avdtMsgOffset) (long : mtu - 2 < len) :
    l2capMinOffset + mtu ≤ avdtCmdBufSize - btHdrSize := by
  have room := fragmentRoom
  rw [cmdBufRoom] at bound
  omega

theorem msgSendPass_single (queued : Queued label msgType msg) (atLeast : l2capMinMtu ≤ mtu)
    (fits : msg.len ≤ mtu - avdtLenTypeSingle) :
    ∃ packet, msgSendPass mtu msg = some (packet,none) ∧ packet.len ≤ mtu ∧
      packet.offset + packet.len ≤ packet.data.length ∧
      packet.bytes = avdtMsgBldHdr label avdtPktTypeSingle msgType :: UInt8.ofNat (msg.event % 256) :: msg.bytes := by
  have headed : (currHeader avdtPktTypeSingle 0 msg).length = avdtLenTypeSingle := by
    rw [currHeader,msgHeader_single]
    rfl
  obtain ⟨packet,passed,len,inside,bytes⟩ := msgSendPass_sent (sendBranch_single queued.atStart fits) headed
    (by rw [queued.atStart]; decide) queued.fits
  refine ⟨packet,?_,?_,inside,?_⟩
  · rwa [Nat.sub_self,if_pos rfl] at passed
  · unfold avdtLenTypeSingle at fits len
    unfold l2capMinMtu at atLeast
    omega
  · rw [bytes,currHeader_eq queued.layer queued.labelSmall queued.msgTypeSmall,msgHeader_single]
    rfl

theorem msgSendPass_start (queued : Queued label msgType msg) (atLeast : l2capMinMtu ≤ mtu)
    (long : mtu - avdtLenTypeSingle < msg.len) :
    ∃ packet, msgSendPass mtu msg = some (packet,some (advance msg (mtu - avdtLenTypeStart))) ∧ packet.len = mtu ∧
      packet.offset + packet.len ≤ packet.data.length ∧
      packet.bytes = avdtMsgBldHdr label avdtPktTypeStart msgType :: UInt8.ofNat (nospOf mtu msg.len) ::
        UInt8.ofNat (msg.event % 256) :: msg.bytes.take (mtu - avdtLenTypeStart) := by
  have bound := queued.len_le
  have wide : avdtLenTypeStart ≤ mtu := by unfold l2capMinMtu at atLeast; unfold avdtLenTypeStart; omega
  obtain ⟨buf,copied,offset,len,inside,bufBytes⟩ := @fragmentBuffer_some mtu msg avdtLenTypeStart wide
    (mtu_room bound long)
    (by rw [queued.size,queued.atStart]
        have room := cmdBufRoom
        unfold avdtLenTypeSingle at long
        unfold avdtLenTypeStart
        omega)
  have headed : (currHeader avdtPktTypeStart (nospOf mtu msg.len) msg).length = avdtLenTypeStart := by
    rw [currHeader,msgHeader_start]
    rfl
  obtain ⟨packet,passed,packetLen,packetInside,bytes⟩ := msgSendPass_sent (sendBranch_start queued.atStart long copied)
    headed (by rw [offset]; exact Nat.le_add_left _ _) inside
  unfold avdtLenTypeSingle at long
  refine ⟨packet,?_,by rw [packetLen,len]; exact Nat.sub_add_cancel wide,packetInside,?_⟩
  · rwa [len,if_neg (by unfold avdtLenTypeStart; omega)] at passed
  · rw [bytes,currHeader_eq queued.layer queued.labelSmall queued.msgTypeSmall,msgHeader_start,bufBytes]
    simp only [BtHdr.bytes,Buffer.slice,List.take_take]
    rw [Nat.min_eq_left (by unfold avdtLenTypeStart; omega)]
    rfl

theorem msgSendPass_cont (frag : Fragmenting label msgType curr) (atLeast : l2capMinMtu ≤ mtu)
    (long : mtu - avdtLenTypeCont < curr.len) :
    ∃ packet, msgSendPass mtu curr = some (packet,some (advance curr (mtu - avdtLenTypeCont))) ∧ packet.len = mtu ∧
      packet.offset + packet.len ≤ packet.data.length ∧
      packet.bytes = avdtMsgBldHdr label avdtPktTypeCont msgType :: curr.bytes.take (mtu - avdtLenTypeCont) := by
  have bound := frag.len_le
  have wide : avdtLenTypeCont ≤ mtu := by unfold l2capMinMtu at atLeast; unfold avdtLenTypeCont; omega
  unfold avdtLenTypeCont at long
  obtain ⟨buf,copied,offset,len,inside,bufBytes⟩ := @fragmentBuffer_some mtu curr avdtLenTypeCont wide
    (mtu_room bound (by omega))
    (by have := frag.fits; unfold avdtLenTypeCont; omega)
  have headed : (currHeader avdtPktTypeCont 0 curr).length = avdtLenTypeCont := by
    rw [currHeader,msgHeader_cont]
    rfl
  obtain ⟨packet,passed,packetLen,packetInside,bytes⟩ :=
    msgSendPass_sent (sendBranch_cont frag.started (by unfold avdtLenTypeCont; omega) copied)
      headed (by rw [offset]; exact Nat.le_add_left _ _) inside
  refine ⟨packet,?_,by rw [packetLen,len]; exact Nat.sub_add_cancel wide,packetInside,?_⟩
  · rwa [len,if_neg (by unfold avdtLenTypeCont; omega)] at passed
  · rw [bytes,currHeader_eq frag.layer frag.labelSmall frag.msgTypeSmall,msgHeader_cont,bufBytes]
    simp only [BtHdr.bytes,Buffer.slice,List.take_take]
    rw [Nat.min_eq_left (by unfold avdtLenTypeCont; omega)]
    rfl

theorem msgSendPass_end (frag : Fragmenting label msgType curr) (atLeast : l2capMinMtu ≤ mtu)
    (short : curr.len ≤ mtu - avdtLenTypeCont) :
    ∃ packet, msgSendPass mtu curr = some (packet,none) ∧ packet.len ≤ mtu ∧
      packet.offset + packet.len ≤ packet.data.length ∧
      packet.bytes = avdtMsgBldHdr label avdtPktTypeEnd msgType :: curr.bytes := by
  have headed : (currHeader avdtPktTypeEnd 0 curr).length = avdtLenTypeEnd := by
    rw [currHeader,msgHeader_end]
    rfl
  obtain ⟨packet,passed,len,inside,bytes⟩ := msgSendPass_sent (sendBranch_end frag.started short) headed
    (by have := frag.started; unfold avdtLenTypeEnd; omega) frag.fits
  refine ⟨packet,?_,?_,inside,?_⟩
  · rwa [Nat.sub_self,if_pos rfl] at passed
  · unfold avdtLenTypeCont at short
    unfold avdtLenTypeEnd at len
    unfold l2capMinMtu at atLeast
    omega
  · rw [bytes,currHeader_eq frag.layer frag.labelSmall frag.msgTypeSmall,msgHeader_end]
    rfl

theorem restFraming_queued (queued : Queued label msgType msg) :
    restFraming mtu msg = framing mtu label msgType (msg.event % 256) (nospOf mtu msg.len) msg.bytes := by
  obtain ⟨labelIs,msgIs⟩ := avdtLayerspec_bld queued.labelSmall (show msgType < 16 by have := queued.msgTypeSmall; omega)
  rw [restFraming,if_pos queued.atStart,queued.layer,labelIs,msgIs]

theorem restFraming_fragmenting (frag : Fragmenting label msgType curr) :
    restFraming mtu curr = Chunks.tagLast (avdtMsgBldHdr label avdtPktTypeCont msgType)
      (avdtMsgBldHdr label avdtPktTypeEnd msgType) (Chunks.cut (mtu - avdtLenTypeCont) curr.bytes) := by
  obtain ⟨labelIs,msgIs⟩ := avdtLayerspec_bld frag.labelSmall (show msgType < 16 by have := frag.msgTypeSmall; omega)
  rw [restFraming,if_neg (Nat.ne_of_gt frag.started),frag.layer,labelIs,msgIs]

theorem msgSendPass_pending (pending : Pending curr) (atLeast : l2capMinMtu ≤ mtu) :
    ∃ packet rest, msgSendPass mtu curr = some (packet,rest) ∧ packet.len ≤ mtu ∧
      packet.offset + packet.len ≤ packet.data.length ∧
      packet.bytes :: rest.elim [] (restFraming mtu) = restFraming mtu curr ∧
      (rest = none ∨ ∃ len, 0 < len ∧ len < curr.len ∧ rest = some (advance curr len) ∧ Pending (advance curr len)) := by
  have wide : avdtLenTypeStart < mtu := by unfold l2capMinMtu at atLeast; unfold avdtLenTypeStart; omega
  obtain ⟨label,msgType,queued | frag⟩ := pending
  · case inl =>
    have bytesLen : curr.bytes.length = curr.len := bytes_length queued.fits
    by_cases fits : curr.len ≤ mtu - avdtLenTypeSingle
    · case pos =>
      obtain ⟨packet,passed,packetLen,inside,bytes⟩ := msgSendPass_single queued atLeast fits
      refine ⟨packet,none,passed,packetLen,inside,?_,.inl rfl⟩
      rw [Option.elim_none,bytes,restFraming_queued queued,framing,if_pos (by rw [bytesLen]; exact fits)]
    · case neg =>
      have long : mtu - avdtLenTypeSingle < curr.len := by omega
      obtain ⟨packet,passed,packetLen,inside,bytes⟩ := msgSendPass_start queued atLeast long
      have positive : 0 < mtu - avdtLenTypeStart := by omega
      have short : mtu - avdtLenTypeStart < curr.len := by unfold avdtLenTypeSingle at long; unfold avdtLenTypeStart; omega
      have frag := queued.fragmenting positive short
      refine ⟨packet,_,passed,packetLen.le,inside,?_,.inr ⟨_,positive,short,rfl,label,msgType,.inr frag⟩⟩
      rw [Option.elim_some,bytes,restFraming_fragmenting frag,advance_bytes,restFraming_queued queued,framing,
        if_neg (by rw [bytesLen]; exact fits)]
  · case inr =>
    have bytesLen : curr.bytes.length = curr.len := bytes_length frag.fits
    have positive : 0 < mtu - avdtLenTypeCont := by unfold avdtLenTypeStart at wide; unfold avdtLenTypeCont; omega
    by_cases long : mtu - avdtLenTypeCont < curr.len
    · case pos =>
      obtain ⟨packet,passed,packetLen,inside,bytes⟩ := msgSendPass_cont frag atLeast long
      have frag' := advance_fragmenting frag long
      refine ⟨packet,_,passed,packetLen.le,inside,?_,.inr ⟨_,positive,long,rfl,label,msgType,.inr frag'⟩⟩
      rw [Option.elim_some,bytes,restFraming_fragmenting frag',advance_bytes,restFraming_fragmenting frag,
        Chunks.cut_of_lt (l := curr.bytes) positive (by rw [bytesLen]; exact long),
        Chunks.tagLast_cons (Chunks.cut_ne_nil _ _)]
    · case neg =>
      obtain ⟨packet,passed,packetLen,inside,bytes⟩ := msgSendPass_end frag atLeast (by omega)
      refine ⟨packet,none,passed,packetLen,inside,?_,.inl rfl⟩
      rw [Option.elim_none,bytes,restFraming_fragmenting frag,Chunks.cut_of_le (by rw [bytesLen]; omega)]
      rfl

end Pass

section Run

variable {peerMtu : PeerMtu} {rcb : Rcb} {label msgType : Nat}

theorem passTimers_some (rcb : Rcb) (curr rest : BtHdr) (ccb : AvdtCcb) : passTimers rcb curr (some rest) ccb = ccb := by
  simp [passTimers]

theorem sentState_advance (rcb : Rcb) (curr : BtHdr) (ccb : AvdtCcb) (len : Nat) (next : Option BtHdr) (cong : Bool) :
    sentState rcb (advance curr len) {ccb with pCurrMsg := next,cong := false} cong = sentState rcb curr ccb cong := by
  show {passTimers rcb curr none {ccb with pCurrMsg := next,cong := false} with pCurrMsg := none,cong} = _
  unfold sentState passTimers cmdTimers
  split_ifs <;> rfl

-- The induction is on what is left of the message.
theorem msgSendLoop_rest {curr : BtHdr} (frag : Fragmenting label msgType curr) (ccb : AvdtCcb) (free : ccb.cong = false)
    (current : ccb.pCurrMsg = some curr) :
    ∃ packets, msgSendLoop peerMtu rcb ccb [] = some (sentState rcb curr ccb false,packets) ∧
      packets.map BtHdr.bytes = Chunks.tagLast (avdtMsgBldHdr label avdtPktTypeCont msgType)
        (avdtMsgBldHdr label avdtPktTypeEnd msgType) (Chunks.cut (peerMtu.mtu - avdtLenTypeCont) curr.bytes) ∧
      ∀ packet ∈ packets, packet.len ≤ peerMtu.mtu ∧ packet.offset + packet.len ≤ packet.data.length := by
  have atLeast := peerMtu.atLeast
  obtain ⟨n,sized⟩ : ∃ n, curr.len = n := ⟨_,rfl⟩
  induction n using Nat.strong_induction_on generalizing curr ccb with
  | _ n ih =>
    have bytesLen : curr.bytes.length = curr.len := bytes_length frag.fits
    by_cases long : peerMtu.mtu - avdtLenTypeCont < curr.len
    · case pos =>
      obtain ⟨packet,passed,packetLen,inside,bytes⟩ := msgSendPass_cont frag atLeast long
      have positive : 0 < peerMtu.mtu - avdtLenTypeCont := by unfold l2capMinMtu at atLeast; unfold avdtLenTypeCont; omega
      obtain ⟨packets,sent,framed,fit⟩ := ih (curr.len - (peerMtu.mtu - avdtLenTypeCont)) (by omega)
        (advance_fragmenting frag (by omega))
        {ccb with
          pCurrMsg := some (advance curr (peerMtu.mtu - avdtLenTypeCont)),cong := false} rfl rfl rfl
      refine ⟨packet :: packets,?_,?_,?_⟩
      · rw [msgSendLoop_pass [] free current passed,passTimers_some]
        rw [sentState_advance] at sent
        rw [List.headD_nil,List.tail_nil,sent]
        rfl
      · rw [List.map_cons,framed,bytes,advance_bytes,Chunks.cut_of_lt (l := curr.bytes) positive (by rw [bytesLen]; exact long),
          Chunks.tagLast_cons (Chunks.cut_ne_nil _ _)]
      · intro sentPacket held
        rcases List.mem_cons.mp held with rfl | later
        · exact ⟨packetLen.le,inside⟩
        · exact fit sentPacket later
    · case neg =>
      obtain ⟨packet,passed,packetLen,inside,bytes⟩ := msgSendPass_end frag atLeast (by omega)
      refine ⟨[packet],?_,?_,?_⟩
      · rw [msgSendLoop_pass [] free current passed,msgSendLoop_done _ rfl rfl]
        rfl
      · rw [List.map_singleton,bytes,Chunks.cut_of_le (by rw [bytesLen]; omega)]
        rfl
      · intro sentPacket held
        rw [List.mem_singleton.mp held]
        exact ⟨packetLen,inside⟩

theorem msgSendLoop_queued {msg : BtHdr} (queued : Queued label msgType msg) (ccb : AvdtCcb) (free : ccb.cong = false)
    (current : ccb.pCurrMsg = some msg) :
    ∃ packets, msgSendLoop peerMtu rcb ccb [] = some (sentState rcb msg ccb false,packets) ∧
      packets.map BtHdr.bytes = framing peerMtu.mtu label msgType (msg.event % 256) (nospOf peerMtu.mtu msg.len) msg.bytes ∧
      ∀ packet ∈ packets, packet.len ≤ peerMtu.mtu ∧ packet.offset + packet.len ≤ packet.data.length := by
  have atLeast := peerMtu.atLeast
  have bytesLen : msg.bytes.length = msg.len := bytes_length queued.fits
  by_cases fits : msg.len ≤ peerMtu.mtu - avdtLenTypeSingle
  · case pos =>
    obtain ⟨packet,passed,packetLen,inside,bytes⟩ := msgSendPass_single queued atLeast fits
    refine ⟨[packet],?_,?_,?_⟩
    · rw [msgSendLoop_pass [] free current passed,msgSendLoop_done _ rfl rfl]
      rfl
    · rw [List.map_singleton,bytes,framing,if_pos (by rw [bytesLen]; exact fits)]
    · intro sentPacket held
      rw [List.mem_singleton.mp held]
      exact ⟨packetLen,inside⟩
  · case neg =>
    have long : peerMtu.mtu - avdtLenTypeSingle < msg.len := by omega
    obtain ⟨packet,passed,packetLen,inside,bytes⟩ := msgSendPass_start queued atLeast long
    have positive : 0 < peerMtu.mtu - avdtLenTypeStart := by unfold l2capMinMtu at atLeast; unfold avdtLenTypeStart; omega
    obtain ⟨packets,sent,framed,fit⟩ := @msgSendLoop_rest peerMtu rcb _ _ _
      (queued.fragmenting positive (by unfold avdtLenTypeSingle at long; unfold avdtLenTypeStart; omega))
      {ccb with
        pCurrMsg := some (advance msg (peerMtu.mtu - avdtLenTypeStart)),cong := false} rfl rfl
    refine ⟨packet :: packets,?_,?_,?_⟩
    · rw [msgSendLoop_pass [] free current passed,passTimers_some]
      rw [sentState_advance] at sent
      rw [List.headD_nil,List.tail_nil,sent]
      rfl
    · rw [List.map_cons,framed,bytes,advance_bytes,framing,if_neg (by rw [bytesLen]; exact fits)]
    · intro sentPacket held
      rcases List.mem_cons.mp held with rfl | later
      · exact ⟨packetLen.le,inside⟩
      · exact fit sentPacket later

-- The induction is on what is left of the message.
theorem msgSendLoop_stops {curr : BtHdr} (pending : Pending curr) (ccb : AvdtCcb) (free : ccb.cong = false)
    (current : ccb.pCurrMsg = some curr) (congested : List Bool) :
    ∃ ccb' sent, msgSendLoop peerMtu rcb ccb congested = some (ccb',sent) ∧
      sent.map BtHdr.bytes ++ ccb'.pCurrMsg.elim [] (restFraming peerMtu.mtu) = restFraming peerMtu.mtu curr ∧
      (∀ packet ∈ sent, packet.len ≤ peerMtu.mtu ∧ packet.offset + packet.len ≤ packet.data.length) ∧
      0 < sent.length ∧ ccb'.cong = congested.getD (sent.length - 1) false ∧
      (ccb' = sentState rcb curr ccb ccb'.cong ∨
        ∃ rest, Pending rest ∧ ccb' = {ccb with pCurrMsg := some rest,cong := true}) := by
  have atLeast := peerMtu.atLeast
  obtain ⟨n,sized⟩ : ∃ n, curr.len = n := ⟨_,rfl⟩
  induction n using Nat.strong_induction_on generalizing curr ccb congested with
  | _ n ih =>
    obtain ⟨packet,rest,passed,packetLen,inside,framed,next⟩ := msgSendPass_pending pending atLeast
    rw [msgSendLoop_pass congested free current passed]
    cases head : congested.headD false with
    | true =>
      -- the write left the channel congested: the loop stops behind it
      rw [msgSendLoop_cong _ rfl,Option.map_some]
      refine ⟨_,[packet],rfl,framed,?_,Nat.one_pos,?_,?_⟩
      · intro sent held
        rw [List.mem_singleton.mp held]
        exact ⟨packetLen,inside⟩
      · show true = congested.getD 0 false
        rw [← head]
        cases congested <;> rfl
      · rcases next with rfl | ⟨len,-,-,rfl,pending'⟩
        · exact .inl rfl
        · exact .inr ⟨_,pending',by rw [passTimers_some]⟩
    | false =>
      rcases next with rfl | ⟨len,positive,short,rfl,pending'⟩
      · case inl =>
        rw [msgSendLoop_done _ rfl rfl,Option.map_some]
        refine ⟨_,[packet],rfl,framed,?_,Nat.one_pos,?_,.inl rfl⟩
        · intro sent held
          rw [List.mem_singleton.mp held]
          exact ⟨packetLen,inside⟩
        · show false = congested.getD 0 false
          rw [← head]
          cases congested <;> rfl
      · case inr =>
        rw [passTimers_some]
        obtain ⟨ccb',sent,ran,bytes,fit,several,cong,outcome⟩ :=
          ih (curr.len - len) (by omega) pending' {ccb with pCurrMsg := some (advance curr len),cong := false} rfl rfl
            congested.tail rfl
        rw [ran,Option.map_some]
        refine ⟨ccb',packet :: sent,rfl,?_,?_,Nat.succ_pos _,?_,?_⟩
        · rw [List.map_cons,List.cons_append,bytes,← framed,Option.elim_some]
        · intro sentPacket held
          rcases List.mem_cons.mp held with rfl | later
          · exact ⟨packetLen,inside⟩
          · exact fit sentPacket later
        · rw [cong,List.length_cons,Nat.add_sub_cancel]
          obtain ⟨k,hk⟩ := Nat.exists_eq_add_of_lt several
          rw [hk,Nat.zero_add,Nat.add_sub_cancel,List.getD_eq_getElem?_getD,List.getD_eq_getElem?_getD,
            ← List.getElem?_tail]
        · rcases outcome with done | ⟨rest',pending'',stopped⟩
          · exact .inl (done.trans (sentState_advance rcb curr ccb len _ _))
          · exact .inr ⟨rest',pending'',stopped⟩

theorem with_cong_self {ccb : AvdtCcb} (free : ccb.cong = false) : {ccb with cong := false} = ccb := by
  cases ccb
  cases free
  rfl

-- The induction is on what is left of the message.
theorem avdt_send_resumes_after_congestion (ccb : AvdtCcb) (congested : List Bool) (free : ccb.cong = false) :
    msgSendLoop peerMtu rcb ccb [] = (msgSendLoop peerMtu rcb ccb congested).bind fun (stopped,sent) =>
      (msgSend peerMtu rcb {stopped with cong := false} none []).map fun (ccb',more) => (ccb',sent ++ more) := by
  have wide : avdtLenTypeStart < peerMtu.mtu := by
    have := peerMtu.atLeast
    unfold l2capMinMtu at this
    unfold avdtLenTypeStart
    omega
  obtain ⟨n,sized⟩ : ∃ n, msgRemaining ccb.pCurrMsg = n := ⟨_,rfl⟩
  induction n using Nat.strong_induction_on generalizing ccb congested with
  | _ n ih =>
    cases current : ccb.pCurrMsg with
    | none =>
      rw [msgSendLoop_done congested free current,msgSendLoop_done [] free current]
      show _ = (msgSendLoop peerMtu rcb {ccb with cong := false,pCurrMsg := ccb.pCurrMsg} []).map _
      rw [current,← current]
      simp only [with_cong_self free]
      rw [msgSendLoop_done [] free current]
      rfl
    | some curr =>
      cases passed : msgSendPass peerMtu.mtu curr with
      | none => rw [msgSendLoop_fail [] free current passed,msgSendLoop_fail congested free current passed]; rfl
      | some pass =>
        obtain ⟨packet,rest⟩ := pass
        rw [msgSendLoop_pass [] free current passed,msgSendLoop_pass congested free current passed,
          List.headD_nil,List.tail_nil]
        cases head : congested.headD false with
        | true =>
          -- the write congested the channel: the next run picks up where this one stopped
          rw [@msgSendLoop_cong peerMtu rcb {passTimers rcb curr rest ccb with pCurrMsg := rest,cong := true} congested.tail rfl]
          rfl
        | false =>
          have shorter : msgRemaining rest < n := by
            rw [← sized,current]
            exact msgSendPass_shortens wide passed
          rw [ih _ shorter _ congested.tail rfl rfl]
          cases msgSendLoop peerMtu rcb {passTimers rcb curr rest ccb with pCurrMsg := rest,cong := false} congested.tail with
          | none => rfl
          | some stoppedRun =>
            obtain ⟨stopped,sent⟩ := stoppedRun
            simp only [Option.bind_some,Option.map_some,Option.map_map]
            rfl

theorem avdt_send_resumes_after_congestion_sample :
    msgSendLoop ⟨48,le_refl _⟩ ⟨1,4,2⟩
        {ccbAlloc with pCurrMsg := some ⟨2,92,avdtMsgOffset,avdtBldLayerspec 0 5,List.replicate 652 0⟩} [] =
      (msgSendLoop ⟨48,le_refl _⟩ ⟨1,4,2⟩
        {ccbAlloc with pCurrMsg := some ⟨2,92,avdtMsgOffset,avdtBldLayerspec 0 5,List.replicate 652 0⟩}
        [false,true]).bind fun (stopped,sent) =>
        (msgSend ⟨48,le_refl _⟩ ⟨1,4,2⟩ {stopped with cong := false} none []).map fun (ccb',more) => (ccb',sent ++ more) :=
  avdt_send_resumes_after_congestion _ [false,true] rfl

theorem avdt_nosp_counts_packets {msg : BtHdr} (queued : Queued label msgType msg)
    (long : peerMtu.mtu - avdtLenTypeSingle < msg.len) (ccb : AvdtCcb) (free : ccb.cong = false)
    (current : ccb.pCurrMsg = some msg) :
    ∃ first rest, msgSendLoop peerMtu rcb ccb [] = some (sentState rcb msg ccb false,first :: rest) ∧
      first.bytes[1]? = some (UInt8.ofNat ((first :: rest).length +
        if (msg.len + avdtLenTypeStart - peerMtu.mtu) % (peerMtu.mtu - avdtLenTypeCont) = 0 then 1 else 0)) := by
  have atLeast := peerMtu.atLeast
  unfold l2capMinMtu at atLeast
  have bytesLen : msg.bytes.length = msg.len := bytes_length queued.fits
  obtain ⟨packets,sent,framed,-⟩ := @msgSendLoop_queued peerMtu rcb _ _ _ queued ccb free current
  rw [framing,if_neg (by rw [bytesLen]; omega)] at framed
  cases packets with
  | nil => cases framed
  | cons first rest =>
    rw [List.map_cons] at framed
    obtain ⟨firstBytes,restBytes⟩ := List.cons.inj framed
    refine ⟨first,rest,sent,?_⟩
    -- the pieces after the START packet, counted against NOSP
    have leftOver : (msg.bytes.drop (peerMtu.mtu - avdtLenTypeStart)).length = msg.len + avdtLenTypeStart - peerMtu.mtu := by
      rw [List.length_drop,bytesLen]
      unfold avdtLenTypeSingle at long
      unfold avdtLenTypeStart
      omega
    have counted := Chunks.length_cut_add (l := msg.bytes.drop (peerMtu.mtu - avdtLenTypeStart))
      (show 0 < peerMtu.mtu - avdtLenTypeCont by unfold avdtLenTypeCont; omega)
      (by rw [← List.length_pos_iff,leftOver]; unfold avdtLenTypeSingle at long; unfold avdtLenTypeStart; omega)
    have restLen : rest.length = (Chunks.cut (peerMtu.mtu - avdtLenTypeCont)
        (msg.bytes.drop (peerMtu.mtu - avdtLenTypeStart))).length := by
      rw [← List.length_map (f := BtHdr.bytes),restBytes,Chunks.length_tagLast]
    rw [firstBytes,leftOver] at *
    rw [List.length_cons,restLen,Nat.add_right_comm,counted]
    rfl

theorem avdt_nosp_counts_packets_sample : ∃ first rest,
    msgSendLoop ⟨48,le_refl _⟩ ⟨1,4,2⟩
        {ccbAlloc with pCurrMsg := some ⟨2,92,avdtMsgOffset,avdtBldLayerspec 0 5,List.replicate 652 0⟩} [] =
      some (sentState ⟨1,4,2⟩ ⟨2,92,avdtMsgOffset,avdtBldLayerspec 0 5,List.replicate 652 0⟩
        {ccbAlloc with pCurrMsg := some ⟨2,92,avdtMsgOffset,avdtBldLayerspec 0 5,List.replicate 652 0⟩} false,
        first :: rest) ∧
      first.bytes[1]? = some (UInt8.ofNat ((first :: rest).length +
        if (92 + avdtLenTypeStart - 48) % (48 - avdtLenTypeCont) = 0 then 1 else 0)) :=
  avdt_nosp_counts_packets ⟨by rw [List.length_replicate]; rfl,rfl,by rw [List.length_replicate]; decide,rfl,
    by decide,by decide⟩ (by decide) _ rfl rfl

end Run

section Reassembly

variable {label msgType : Nat}

theorem bytes_cons_len {d : BtHdr} {b : UInt8} {rest : List UInt8} (inside : d.offset + d.len ≤ d.data.length)
    (bytes : d.bytes = b :: rest) : d.len = rest.length + 1 := by
  rw [← bytes_length inside,bytes,List.length_cons]

-- The induction follows the pieces.
theorem msgAsmbl_rest (labelSmall : label < 16) (msgTypeSmall : msgType < 4) :
    ∀ (pieces : List (List UInt8)) (ccb : AvdtCcb) (rx : BtHdr) (assembled : List UInt8) (delivered : List BtHdr),
      pieces ≠ [] → ccb.pRxMsg = some rx → Assembling rx assembled →
      delivered.map BtHdr.bytes = Chunks.tagLast (avdtMsgBldHdr label avdtPktTypeCont msgType)
        (avdtMsgBldHdr label avdtPktTypeEnd msgType) pieces →
      (∀ d ∈ delivered, d.offset + d.len ≤ d.data.length) →
      rx.offset + pieces.flatten.length ≤ btDefaultBufferSize - btHdrSize →
      ∃ ccb' done, Machine.transduce msgAsmbl ccb delivered =
          some (ccb',List.replicate (pieces.length - 1) none ++ [some done]) ∧
        ccb'.pRxMsg = none ∧ done.bytes = assembled ++ pieces.flatten ∧ done.offset + done.len ≤ done.data.length
  | [],_,_,_,_,nonempty,_,_,_,_,_ => absurd rfl nonempty
  | [piece],ccb,rx,assembled,delivered,_,current,holds,arrived,wellFormed,room => by
    obtain ⟨d,rfl⟩ : ∃ d, delivered = [d] := List.length_eq_one_iff.mp (by rw [← List.length_map (f := BtHdr.bytes),arrived]; rfl)
    have bytes : d.bytes = avdtMsgBldHdr label avdtPktTypeEnd msgType :: piece := List.head_eq_of_cons_eq arrived
    obtain ⟨done,answered,doneBytes,fits,-⟩ := msgAsmbl_end current holds bytes
      (avdtMsgPrsPktType_bld labelSmall (by decide) msgTypeSmall) (wellFormed d List.mem_cons_self)
      (by simpa using room)
    exact ⟨_,done,by rw [Machine.transduce_cons [] answered]; rfl,rfl,by simpa using doneBytes,fits⟩
  | piece :: next :: pieces,ccb,rx,assembled,delivered,_,current,holds,arrived,wellFormed,room => by
    rw [Chunks.tagLast_cons (List.cons_ne_nil next pieces)] at arrived
    obtain ⟨d,rest,rfl⟩ : ∃ d rest, delivered = d :: rest := List.exists_cons_of_ne_nil (by rintro rfl; cases arrived)
    rw [List.map_cons] at arrived
    obtain ⟨bytes,restBytes⟩ := List.cons.inj arrived
    rw [List.flatten_cons,List.length_append] at room
    obtain ⟨rx',answered,holds',offset⟩ := msgAsmbl_cont current holds bytes
      (avdtMsgPrsPktType_bld labelSmall (by decide) msgTypeSmall) (wellFormed d List.mem_cons_self) (by omega)
    obtain ⟨ccb',done,ran,emptied,doneBytes,fits⟩ := msgAsmbl_rest labelSmall msgTypeSmall (next :: pieces)
      {ccb with pRxMsg := some rx'} rx' (assembled ++ piece) rest (List.cons_ne_nil next pieces) rfl holds' restBytes
      (fun d' held => wellFormed d' (List.mem_cons_of_mem d held)) (by rw [offset]; omega)
    refine ⟨ccb',done,?_,emptied,by rw [doneBytes,List.append_assoc,← List.flatten_cons],fits⟩
    rw [Machine.transduce_cons rest answered,ran]
    rfl

theorem msgAsmbl_framing (labelSmall : label < 16) (msgTypeSmall : msgType < 4) {mtu sig nosp : Nat}
    {params : List UInt8} (atLeast : l2capMinMtu ≤ mtu) (ccb : AvdtCcb) (delivered : List BtHdr)
    (arrived : delivered.map BtHdr.bytes = framing mtu label msgType sig nosp params)
    (wellFormed : ∀ d ∈ delivered, d.offset + d.len ≤ d.data.length)
    (room : ∀ first ∈ delivered.head?, first.offset + params.length + avdtLenTypeStart ≤ btDefaultBufferSize - btHdrSize) :
    ∃ ccb' done, Machine.transduce msgAsmbl ccb delivered =
        some (ccb',List.replicate (delivered.length - 1) none ++ [some done]) ∧
      ccb'.pRxMsg = none ∧ done.offset + done.len ≤ done.data.length ∧
      ∃ pktType, (pktType = avdtPktTypeSingle ∨ pktType = avdtPktTypeStart) ∧
        done.bytes = avdtMsgBldHdr label pktType msgType :: UInt8.ofNat sig :: params := by
  unfold l2capMinMtu at atLeast
  unfold framing at arrived
  split_ifs at arrived with fits
  · case pos =>
    -- a SINGLE packet is handed back as it came
    obtain ⟨d,rfl⟩ : ∃ d, delivered = [d] :=
      List.length_eq_one_iff.mp (by rw [← List.length_map (f := BtHdr.bytes),arrived]; rfl)
    have bytes := List.head_eq_of_cons_eq arrived
    have inside := wellFormed d List.mem_cons_self
    have answered := @msgAsmbl_single ccb _ _ _ bytes (avdtMsgPrsPktType_bld labelSmall (by decide) msgTypeSmall)
      (by have := bytes_cons_len inside bytes; simp only [List.length_cons] at this; unfold avdtLenTypeSingle; omega)
    exact ⟨_,d,by rw [Machine.transduce_cons [] answered]; rfl,rfl,inside,_,.inl rfl,bytes⟩
  · case neg =>
    obtain ⟨d,rest,rfl⟩ : ∃ d rest, delivered = d :: rest :=
      List.exists_cons_of_ne_nil (by rintro rfl; cases arrived)
    rw [List.map_cons] at arrived
    obtain ⟨bytes,restBytes⟩ := List.cons.inj arrived
    have inside := wellFormed d List.mem_cons_self
    have firstRoom := room d rfl
    have dLen := bytes_cons_len inside bytes
    simp only [List.length_cons,List.length_take] at dLen
    unfold avdtLenTypeSingle at fits
    unfold avdtLenTypeStart at dLen firstRoom
    -- the START packet opens the reassembly with its header byte and the signal
    obtain ⟨rx,answered,holds,offset⟩ := @msgAsmbl_start ccb _ _ _ bytes
      (avdtMsgPrsPktType_bld labelSmall (by decide) msgTypeSmall) (by unfold avdtLenTypeStart; omega) inside
      (by unfold btHdrSize btDefaultBufferSize at firstRoom ⊢; omega)
    have piecesLen := Chunks.flatten_cut (mtu - avdtLenTypeCont) (params.drop (mtu - avdtLenTypeStart))
    obtain ⟨ccb',done,ran,emptied,doneBytes,fits'⟩ := msgAsmbl_rest labelSmall msgTypeSmall _
      {ccb with pRxMsg := some rx} rx _ rest
      (Chunks.cut_ne_nil _ _) rfl holds restBytes (fun d' held => wellFormed d' (List.mem_cons_of_mem d held))
      (by rw [offset,piecesLen,List.length_drop]; unfold avdtLenTypeStart; omega)
    refine ⟨ccb',done,?_,emptied,fits',_,.inr rfl,?_⟩
    · have restLen : rest.length = (Chunks.cut (mtu - avdtLenTypeCont) (params.drop (mtu - avdtLenTypeStart))).length := by
        rw [← List.length_map (f := BtHdr.bytes),restBytes,Chunks.length_tagLast]
      have several := List.length_pos_iff.mpr (Chunks.cut_ne_nil (mtu - avdtLenTypeCont)
        (params.drop (mtu - avdtLenTypeStart)))
      rw [Machine.transduce_cons rest answered,ran,List.length_cons,Nat.add_sub_cancel,restLen]
      obtain ⟨k,hk⟩ := Nat.exists_eq_add_of_lt several
      rw [hk]
      rfl
    · rw [doneBytes,piecesLen]
      simp

theorem avdt_signal_round_trip {label msgType : Nat} {msg : BtHdr} (queued : Queued label msgType msg)
    (notGrj : msgType ≠ avdtMsgTypeGrj) (notGenRej : msgType = avdtMsgTypeRej → 0 < msg.len)
    (sigValid : 0 < msg.event ∧ msg.event ≤ avdtSigMax) (peerMtu : PeerMtu) (rcb : Rcb) (sender : AvdtCcb)
    (free : sender.cong = false) (current : sender.pCurrMsg = some msg) :
    ∃ packets, msgSendLoop peerMtu rcb sender [] = some (sentState rcb msg sender false,packets) ∧
      (∀ packet ∈ packets, packet.len ≤ peerMtu.mtu ∧ packet.offset + packet.len ≤ packet.data.length) ∧
      ∀ (receiver : AvdtCcb) (delivered : List BtHdr), delivered.map BtHdr.bytes = packets.map BtHdr.bytes →
        (∀ d ∈ delivered, d.offset + d.len ≤ d.data.length) →
        (∀ first ∈ delivered.head?, first.offset + msg.len + avdtLenTypeStart ≤ btDefaultBufferSize - btHdrSize) →
        ∃ receiver' done, Machine.transduce msgAsmbl receiver delivered =
            some (receiver',List.replicate (packets.length - 1) none ++ [some done]) ∧
          receiver'.pRxMsg = none ∧ done.offset + done.len ≤ done.data.length ∧
          msgIndHdr done = .parse label msgType msg.event msg.bytes := by
  obtain ⟨packets,sent,framed,fit⟩ := @msgSendLoop_queued peerMtu rcb _ _ _ queued sender free current
  refine ⟨packets,sent,fit,?_⟩
  intro receiver delivered same wellFormed room
  have bytesLen : msg.bytes.length = msg.len := bytes_length queued.fits
  have sigSmall : msg.event % 256 = msg.event := by
    unfold avdtSigMax avdtSigDelayRpt at sigValid
    omega
  obtain ⟨receiver',done,ran,emptied,fits,pktType,isStart,doneBytes⟩ := msgAsmbl_framing queued.labelSmall
    queued.msgTypeSmall peerMtu.atLeast receiver delivered (same.trans framed) wellFormed (by rwa [bytesLen])
  have sameLength : delivered.length = packets.length := by
    rw [← List.length_map (f := BtHdr.bytes),same,List.length_map]
  refine ⟨receiver',done,by rw [ran,sameLength],emptied,fits,?_⟩
  rw [sigSmall] at doneBytes
  exact msgIndHdr_parse doneBytes fits queued.labelSmall
    (by rcases isStart with rfl | rfl <;> decide) queued.msgTypeSmall notGrj
    (fun rej => by rw [← List.length_pos_iff,bytesLen]; exact notGenRej rej) sigValid

theorem avdt_signal_round_trip_sample : ∃ packets,
    msgSendLoop ⟨48,le_refl _⟩ ⟨1,4,2⟩
        {ccbAlloc with pCurrMsg := some ⟨2,92,avdtMsgOffset,avdtBldLayerspec 0 5,List.replicate 652 0⟩} [] =
      some (sentState ⟨1,4,2⟩ ⟨2,92,avdtMsgOffset,avdtBldLayerspec 0 5,List.replicate 652 0⟩
        {ccbAlloc with pCurrMsg := some ⟨2,92,avdtMsgOffset,avdtBldLayerspec 0 5,List.replicate 652 0⟩} false,
        packets) ∧
      (∀ packet ∈ packets, packet.len ≤ 48 ∧ packet.offset + packet.len ≤ packet.data.length) ∧
      ∀ (receiver : AvdtCcb) (delivered : List BtHdr), delivered.map BtHdr.bytes = packets.map BtHdr.bytes →
        (∀ d ∈ delivered, d.offset + d.len ≤ d.data.length) →
        (∀ first ∈ delivered.head?, first.offset + 92 + avdtLenTypeStart ≤ btDefaultBufferSize - btHdrSize) →
        ∃ receiver' done, Machine.transduce msgAsmbl receiver delivered =
            some (receiver',List.replicate (packets.length - 1) none ++ [some done]) ∧
          receiver'.pRxMsg = none ∧ done.offset + done.len ≤ done.data.length ∧
          msgIndHdr done = .parse 5 0 2 (Buffer.slice (List.replicate 652 0) avdtMsgOffset 92) :=
  avdt_signal_round_trip ⟨by rw [List.length_replicate]; rfl,rfl,by rw [List.length_replicate]; decide,rfl,
    by decide,by decide⟩ (by decide) (by decide) (by decide) _ _ _ rfl rfl

theorem avdt_asmbl_stays_in_buffers (ccb : AvdtCcb) (valid : ∀ rx, ccb.pRxMsg = some rx → RxValid rx)
    (packets : List BtHdr) (wellFormed : ∀ packet ∈ packets, packet.offset + packet.len ≤ packet.data.length) :
    ∃ ccb' returned, Machine.transduce msgAsmbl ccb packets = some (ccb',returned) ∧
      (∀ rx, ccb'.pRxMsg = some rx → RxValid rx) ∧
      ∀ done ∈ returned.reduceOption, avdtLenTypeSingle ≤ done.len ∧ done.offset + done.len ≤ done.data.length := by
  obtain ⟨ccb',returned,ran,kept,good⟩ := @Machine.transduce_good AvdtCcb BtHdr (Option BtHdr) msgAsmbl
    (fun c => ∀ rx, c.pRxMsg = some rx → RxValid rx)
    (fun packet => packet.offset + packet.len ≤ packet.data.length)
    (fun ret => ∀ done, ret = some done → avdtLenTypeSingle ≤ done.len ∧ done.offset + done.len ≤ done.data.length)
    (fun _ _ held inside => msgAsmbl_safe held inside) packets ccb valid wellFormed
  refine ⟨ccb',returned,ran,kept,?_⟩
  intro done held
  exact good _ (List.reduceOption_mem_iff.mp held) done rfl

theorem avdt_asmbl_stays_in_buffers_sample : ∃ ccb' returned,
    Machine.transduce msgAsmbl ccbAlloc [⟨0,4,0,0,[0x14,3,0x14,2]⟩,⟨0,1,0,0,[0x1C]⟩,⟨0,0,0,0,[]⟩] =
      some (ccb',returned) ∧ (∀ rx, ccb'.pRxMsg = some rx → RxValid rx) ∧
      ∀ done ∈ returned.reduceOption, avdtLenTypeSingle ≤ done.len ∧ done.offset + done.len ≤ done.data.length :=
  avdt_asmbl_stays_in_buffers ccbAlloc (fun _ held => by cases held) _ (by decide)

end Reassembly

end BluetoothStack.Avdt
