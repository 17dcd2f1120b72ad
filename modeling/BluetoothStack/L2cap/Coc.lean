import BluetoothStack.L2cap.Sar

namespace BluetoothStack.L2cap

open PacketFragmenter (BtHdr)

def l2capLccSduLength : Nat := 2
def l2capLccOffset : Nat := l2capMinOffset + l2capLccSduLength

-- The parts of tL2C_CCB an LE credit-based channel segments and reassembles
-- with: its CIDs, peer_conn_cfg.mps, and local_conn_cfg.mtu and .mps.
structure CocConfig where
  localCid : Nat
  remoteCid : Nat
  peerMps : Nat
  localMtu : Nat
  localMps : Nat
deriving DecidableEq, Repr

structure CocChannel where
  xmitHoldQ : List BtHdr
  isFirstSeg : Bool
  bleSdu : Option (List UInt8)
  bleSduLength : Nat
  disconnecting : Bool
  delivered : List (List UInt8)
deriving DecidableEq, Repr

def CocChannel.opened : CocChannel := ⟨[],true,none,0,false,[]⟩

def l2cuDisconnectChnl (ch : CocChannel) : CocChannel := {ch with disconnecting := true}

-- Both comparisons with max_pdu - L2CAP_LCC_SDU_LENGTH are made in int.
def l2cLccGetNextXmitSduSeg (cfg : CocConfig) (ch : CocChannel) : Option (CocChannel × Option BtHdr) :=
  match ch.xmitHoldQ with
  | [] => some (ch,none)
  | buf :: rest =>
    let maxPdu := cfg.peerMps
    let firstSeg := buf.event = 0
    let lastSeg := if firstSeg then buf.len + l2capLccSduLength ≤ maxPdu else buf.len ≤ maxPdu
    let noOfBytesToSend :=
      if lastSeg then buf.len else if firstSeg then wrap16 (maxPdu + 65536 - l2capLccSduLength) else maxPdu
    let newOffset := if firstSeg then l2capLccOffset else l2capMinOffset
    (l2cFcrCloneBuf buf newOffset noOfBytesToSend).bind fun xmit => do
      let xmit := {xmit with event := cfg.localCid,layerSpecific := buf.layerSpecific}
      let xmit ← if firstSeg then
          writeUint16 {xmit with offset := xmit.offset - l2capLccSduLength,len := xmit.len + l2capLccSduLength}
            (xmit.offset - l2capLccSduLength) buf.len
        else some xmit
      let held := if lastSeg then rest
        else {buf with event := cfg.localCid,len := buf.len - noOfBytesToSend,offset := buf.offset + noOfBytesToSend} :: rest
      let xmit := {xmit with offset := xmit.offset - l2capPktOverhead,len := xmit.len + l2capPktOverhead}
      let xmit ← writeUint16 xmit xmit.offset (wrap16 (xmit.len + 65536 - l2capPktOverhead))
      let xmit ← writeUint16 xmit (xmit.offset+2) cfg.remoteCid
      return ({ch with xmitHoldQ := held},some xmit)

-- The copy of a PDU into ble_sdu, an L2CAP_MAX_BUF_SIZE buffer whose data
-- starts right after its BT_HDR, and the SDU handed up once it is complete.
def lccCollect (ch : CocChannel) (data : List UInt8) (buf : BtHdr) : Option CocChannel :=
  if data.length + buf.len + PacketFragmenter.btHdrSize > l2capMaxBufSize then none
  else
    let data := data ++ buf.bytes
    if data.length = ch.bleSduLength then
      some {ch with delivered := ch.delivered ++ [data],isFirstSeg := true,bleSdu := none,bleSduLength := 0}
    else if data.length < ch.bleSduLength then some {ch with isFirstSeg := false,bleSdu := some data}
    else some {ch with bleSdu := some data}

-- l2c_lcc_proc_pdu. The room left in the SDU, ble_sdu_length - p_data->len,
-- is compared in int, which the sum below states without subtraction.
def l2cLccProcPdu (cfg : CocConfig) (ch : CocChannel) (buf : BtHdr) : Option CocChannel :=
  if buf.len > cfg.localMps then some (l2cuDisconnectChnl ch)
  else if ch.isFirstSeg then
    if buf.len < l2capLccSduLength then some ch
    else
      let sduLength := readUint16 buf buf.offset
      if sduLength > cfg.localMtu then some (l2cuDisconnectChnl ch)
      else
        let buf := {buf with len := buf.len - l2capLccSduLength,offset := buf.offset + l2capLccSduLength}
        if sduLength < buf.len then some ch
        else lccCollect {ch with bleSdu := some [],bleSduLength := sduLength} [] buf
  else
    match ch.bleSdu with
    | none => some ch
    | some data =>
      if data.length + buf.len > ch.bleSduLength then
        some (l2cuDisconnectChnl {ch with isFirstSeg := true,bleSdu := none,bleSduLength := 0})
      else lccCollect ch data buf

theorem arrive_header {xmit framed frame : BtHdr} {value cid : Nat} (room : l2capPktOverhead ≤ xmit.offset)
    (inBuffer : xmit.offset + xmit.len ≤ xmit.data.length)
    (sized : writeUint16 {xmit with offset := xmit.offset - l2capPktOverhead,len := xmit.len + l2capPktOverhead}
      (xmit.offset - l2capPktOverhead) value = some framed)
    (addressed : writeUint16 framed (framed.offset+2) cid = some frame) :
    (arrive frame).bytes = xmit.bytes ∧ (arrive frame).len = xmit.len ∧
      (arrive frame).offset + (arrive frame).len ≤ (arrive frame).data.length := by
  obtain ⟨sizedData,sizedWrote,rfl⟩ := writeUint16_eq sized
  obtain ⟨frameData,frameWrote,rfl⟩ := writeUint16_eq addressed
  have sizedLength : sizedData.length = xmit.data.length := Buffer.write_length sizedWrote
  have frameLength : frameData.length = sizedData.length := Buffer.write_length frameWrote
  simp only [l2capPktOverhead] at room sizedWrote frameWrote ⊢
  have body : Buffer.slice frameData xmit.offset xmit.len = xmit.bytes := by
    rw [Buffer.slice_write_disjoint frameWrote (by simp; omega),Buffer.slice_write_disjoint sizedWrote (by simp; omega)]
    rfl
  refine ⟨?_,?_,?_⟩
  · simp only [arrive,BtHdr.bytes,l2capPktOverhead]
    rw [Buffer.slice_slice _ _ _ _ _ (by omega),show xmit.offset - 4 + 4 = xmit.offset by omega,
      show xmit.len + 4 - 4 = xmit.len by omega]
    exact body
  · simp [arrive,l2capPktOverhead]
  · simp only [arrive,BtHdr.bytes,Buffer.slice_length,l2capPktOverhead]
    omega

theorem l2cLccGetNextXmitSduSeg_sends (cfg : CocConfig) {ch : CocChannel} {buf : BtHdr} {rest : List BtHdr}
    {cut : Nat} {lastSeg : Bool} (queued : ch.xmitHoldQ = buf :: rest) (mps : 3 ≤ cfg.peerMps)
    (inBuffer : buf.offset + buf.len ≤ buf.data.length) (small : buf.len + 25 < 65536)
    (last : lastSeg = if buf.event = 0 then decide (buf.len + l2capLccSduLength ≤ cfg.peerMps)
      else decide (buf.len ≤ cfg.peerMps))
    (cutting : cut = if lastSeg then buf.len else if buf.event = 0 then cfg.peerMps - l2capLccSduLength
      else cfg.peerMps) :
    ∃ frame, l2cLccGetNextXmitSduSeg cfg ch = some ({ch with xmitHoldQ := if lastSeg then rest else
        {buf with event := cfg.localCid,len := buf.len - cut,offset := buf.offset + cut} :: rest},some frame) ∧
      (arrive frame).bytes = (if buf.event = 0 then uint16ToStream buf.len else []) ++ buf.bytes.take cut ∧
      (arrive frame).len = (arrive frame).bytes.length ∧
      (arrive frame).offset + (arrive frame).len ≤ (arrive frame).data.length := by
  -- the count the source computes is the cut, and it stays inside the SDU
  have counted : cut ≤ buf.len ∧ (if lastSeg = true then buf.len
      else if buf.event = 0 then wrap16 (cfg.peerMps + 65536 - l2capLccSduLength) else cfg.peerMps) = cut := by
    by_cases fresh : buf.event = 0
    · by_cases whole : buf.len + l2capLccSduLength ≤ cfg.peerMps
      · have ending : lastSeg = true := by simp [last,fresh,whole]
        simp [cutting,ending]
      · have ending : lastSeg = false := by simp [last,fresh,whole]
        rw [ending] at cutting ⊢
        subst cutting
        simp only [fresh,if_true,wrap16,l2capLccSduLength,Bool.false_eq_true,if_false] at whole ⊢
        omega
    · by_cases whole : buf.len ≤ cfg.peerMps
      · have ending : lastSeg = true := by simp [last,fresh,whole]
        simp [cutting,ending]
      · have ending : lastSeg = false := by simp [last,fresh,whole]
        rw [ending] at cutting ⊢
        subst cutting
        simp only [fresh,Bool.false_eq_true,↓reduceIte,and_true]
        omega
  obtain ⟨fits,noOf⟩ := counted
  have bytesLength : buf.bytes.length = buf.len := by
    simp only [BtHdr.bytes,Buffer.slice_length]
    omega
  have copied : (Buffer.slice buf.data buf.offset cut).length = cut := by
    simp only [Buffer.slice_length]
    omega
  have cloned : ∀ newOffset, newOffset ≤ l2capLccOffset → l2cFcrCloneBuf buf newOffset cut =
      some ⟨0,cut,newOffset,0,List.replicate newOffset 0 ++ Buffer.slice buf.data buf.offset cut ++
        List.replicate l2capFcsLen 0⟩ := by
    intro newOffset low
    exact if_pos ⟨by simp only [PacketFragmenter.btHdrSize,l2capLccOffset,l2capMinOffset,l2capLccSduLength,
      l2capFcsLen] at low ⊢; omega,by omega⟩
  by_cases fresh : buf.event = 0
  · -- the first PDU: the copy at L2CAP_LCC_OFFSET steps back over the SDU length
    have ending : (buf.len + l2capLccSduLength ≤ cfg.peerMps) = (lastSeg = true) := by simp [last,fresh]
    simp only [fresh,if_true] at noOf
    set copy := List.replicate l2capLccOffset 0 ++ Buffer.slice buf.data buf.offset cut ++
      List.replicate l2capFcsLen 0 with copyDef
    have copyLength : copy.length = cut + 17 := by
      simp [copy,copied,l2capLccOffset,l2capMinOffset,l2capLccSduLength,l2capFcsLen]
    obtain ⟨lengthData,lengthWrote,lengthEq⟩ := writeUint16_some
      ⟨cfg.localCid,cut + l2capLccSduLength,l2capLccOffset - l2capLccSduLength,buf.layerSpecific,copy⟩
      (l2capLccOffset - l2capLccSduLength) buf.len (by simp only [copyLength,l2capLccOffset,l2capMinOffset,l2capLccSduLength]; omega)
    have lengthLength : lengthData.length = cut + 17 := (Buffer.write_length lengthWrote).trans copyLength
    obtain ⟨sizedData,sizedWrote,sizedEq⟩ := writeUint16_some
      ⟨cfg.localCid,cut + l2capLccSduLength + l2capPktOverhead,l2capLccOffset - l2capLccSduLength - l2capPktOverhead,
        buf.layerSpecific,lengthData⟩ (l2capLccOffset - l2capLccSduLength - l2capPktOverhead)
      (wrap16 (cut + l2capLccSduLength + l2capPktOverhead + 65536 - l2capPktOverhead))
      (by simp only [lengthLength,l2capLccOffset,l2capMinOffset,l2capLccSduLength,l2capPktOverhead]; omega)
    have sizedLength : sizedData.length = cut + 17 := (Buffer.write_length sizedWrote).trans lengthLength
    obtain ⟨frameData,frameWrote,frameEq⟩ := writeUint16_some
      ⟨cfg.localCid,cut + l2capLccSduLength + l2capPktOverhead,l2capLccOffset - l2capLccSduLength - l2capPktOverhead,
        buf.layerSpecific,sizedData⟩ (l2capLccOffset - l2capLccSduLength - l2capPktOverhead + 2) cfg.remoteCid
      (by simp only [sizedLength,l2capLccOffset,l2capMinOffset,l2capLccSduLength,l2capPktOverhead]; omega)
    refine ⟨⟨cfg.localCid,cut + l2capLccSduLength + l2capPktOverhead,
      l2capLccOffset - l2capLccSduLength - l2capPktOverhead,buf.layerSpecific,frameData⟩,?_,?_⟩
    · simp only [l2cLccGetNextXmitSduSeg,queued,fresh,if_true,ending,noOf,cloned l2capLccOffset le_rfl,
        Option.bind_some,Option.bind_eq_bind,← copyDef,lengthEq,sizedEq,frameEq]
      rfl
    · obtain ⟨arrived,sized,inside⟩ := @arrive_header
        ⟨cfg.localCid,cut + l2capLccSduLength,l2capLccOffset - l2capLccSduLength,buf.layerSpecific,lengthData⟩ _ _ _ _
        (by simp [l2capPktOverhead,l2capLccOffset,l2capMinOffset,l2capLccSduLength])
        (by simp only [lengthLength,l2capLccOffset,l2capMinOffset,l2capLccSduLength]; omega) sizedEq frameEq
      have middle : Buffer.slice copy l2capLccOffset cut = Buffer.slice buf.data buf.offset cut := by
        have cut' := Buffer.slice_middle (List.replicate l2capLccOffset (0 : UInt8))
          (Buffer.slice buf.data buf.offset cut) (List.replicate l2capFcsLen 0) copied.ge
        rwa [List.length_replicate,List.take_of_length_le copied.le] at cut'
      have carried : (arrive ⟨cfg.localCid,cut + l2capLccSduLength + l2capPktOverhead,
          l2capLccOffset - l2capLccSduLength - l2capPktOverhead,buf.layerSpecific,frameData⟩).bytes =
          uint16ToStream buf.len ++ buf.bytes.take cut := by
        rw [arrived,BtHdr.bytes]
        dsimp only
        rw [show cut + l2capLccSduLength = (uint16ToStream buf.len).length + cut by simp [l2capLccSduLength,Nat.add_comm],
          Buffer.slice_write_front lengthWrote,show l2capLccOffset - l2capLccSduLength + (uint16ToStream buf.len).length =
            l2capLccOffset by simp [l2capLccOffset,l2capMinOffset,l2capLccSduLength],middle]
        simp only [BtHdr.bytes,Buffer.slice,List.take_take,Nat.min_eq_left fits]
      refine ⟨by rw [carried,if_pos fresh],?_,inside⟩
      rw [carried,sized]
      simp only [List.length_append,uint16ToStream_length,List.length_take,bytesLength,l2capLccSduLength]
      omega
  · -- a later PDU: the copy at L2CAP_MIN_OFFSET, with nothing before the data
    have ending : (buf.len ≤ cfg.peerMps) = (lastSeg = true) := by simp [last,fresh]
    simp only [fresh,if_false] at noOf
    set copy := List.replicate l2capMinOffset 0 ++ Buffer.slice buf.data buf.offset cut ++
      List.replicate l2capFcsLen 0 with copyDef
    have copyLength : copy.length = cut + 15 := by
      simp [copy,copied,l2capMinOffset,l2capFcsLen]
    obtain ⟨sizedData,sizedWrote,sizedEq⟩ := writeUint16_some
      ⟨cfg.localCid,cut + l2capPktOverhead,l2capMinOffset - l2capPktOverhead,buf.layerSpecific,copy⟩
      (l2capMinOffset - l2capPktOverhead) (wrap16 (cut + l2capPktOverhead + 65536 - l2capPktOverhead))
      (by simp only [copyLength,l2capMinOffset,l2capPktOverhead]; omega)
    have sizedLength : sizedData.length = cut + 15 := (Buffer.write_length sizedWrote).trans copyLength
    obtain ⟨frameData,frameWrote,frameEq⟩ := writeUint16_some
      ⟨cfg.localCid,cut + l2capPktOverhead,l2capMinOffset - l2capPktOverhead,buf.layerSpecific,sizedData⟩
      (l2capMinOffset - l2capPktOverhead + 2) cfg.remoteCid
      (by simp only [sizedLength,l2capMinOffset,l2capPktOverhead]; omega)
    refine ⟨⟨cfg.localCid,cut + l2capPktOverhead,l2capMinOffset - l2capPktOverhead,buf.layerSpecific,frameData⟩,?_,?_⟩
    · simp only [l2cLccGetNextXmitSduSeg,queued,fresh,if_false,ending,noOf,
        cloned l2capMinOffset (by simp [l2capLccOffset]),Option.bind_some,Option.bind_eq_bind,← copyDef,sizedEq,frameEq]
      rfl
    · obtain ⟨arrived,sized,inside⟩ := @arrive_header
        ⟨cfg.localCid,cut,l2capMinOffset,buf.layerSpecific,copy⟩ _ _ _ _ (by simp [l2capPktOverhead,l2capMinOffset])
        (by simp only [copyLength,l2capMinOffset]; omega) sizedEq frameEq
      have middle : Buffer.slice copy l2capMinOffset cut = Buffer.slice buf.data buf.offset cut := by
        have cut' := Buffer.slice_middle (List.replicate l2capMinOffset (0 : UInt8))
          (Buffer.slice buf.data buf.offset cut) (List.replicate l2capFcsLen 0) copied.ge
        rwa [List.length_replicate,List.take_of_length_le copied.le] at cut'
      have carried : (arrive ⟨cfg.localCid,cut + l2capPktOverhead,l2capMinOffset - l2capPktOverhead,buf.layerSpecific,
          frameData⟩).bytes = buf.bytes.take cut := by
        rw [arrived,BtHdr.bytes]
        dsimp only
        rw [middle]
        simp only [BtHdr.bytes,Buffer.slice,List.take_take,Nat.min_eq_left fits]
      refine ⟨by rw [carried,if_neg fresh,List.nil_append],?_,inside⟩
      rw [carried,sized]
      simp only [List.length_take,bytesLength]
      omega

-- Between PDUs ble_sdu is open exactly when a later PDU is awaited, and holds
-- less than the SDU length it announced.
structure CocBound (cfg : CocConfig) (ch : CocChannel) : Prop where
  awaiting : ch.isFirstSeg = true ↔ ch.bleSdu = none
  shorter : ∀ data, ch.bleSdu = some data → data.length < ch.bleSduLength ∧ ch.bleSduLength ≤ cfg.localMtu

theorem CocBound.opened (cfg : CocConfig) : CocBound cfg CocChannel.opened :=
  ⟨by simp [CocChannel.opened],by simp [CocChannel.opened]⟩

theorem CocBound.disconnect {cfg : CocConfig} {ch : CocChannel} (bounded : CocBound cfg ch) :
    CocBound cfg (l2cuDisconnectChnl ch) :=
  ⟨bounded.awaiting,bounded.shorter⟩

section Reassembly

variable {cfg : CocConfig} {ch : CocChannel} {data : List UInt8} {buf : BtHdr}

theorem lccCollect_room (within : data.length + buf.len ≤ ch.bleSduLength) (fits : ch.bleSduLength ≤ cfg.localMtu)
    (mtuFits : cfg.localMtu + PacketFragmenter.btHdrSize ≤ l2capMaxBufSize) :
    ¬ data.length + buf.len + PacketFragmenter.btHdrSize > l2capMaxBufSize := by
  omega

theorem lccCollect_complete (within : data.length + buf.len ≤ ch.bleSduLength) (fits : ch.bleSduLength ≤ cfg.localMtu)
    (mtuFits : cfg.localMtu + PacketFragmenter.btHdrSize ≤ l2capMaxBufSize)
    (complete : (data ++ buf.bytes).length = ch.bleSduLength) :
    lccCollect ch data buf =
      some {ch with delivered := ch.delivered ++ [data ++ buf.bytes],isFirstSeg := true,bleSdu := none,bleSduLength := 0} := by
  rw [lccCollect,if_neg (lccCollect_room within fits mtuFits)]
  dsimp only
  rw [if_pos complete]

theorem lccCollect_open (within : data.length + buf.len ≤ ch.bleSduLength) (fits : ch.bleSduLength ≤ cfg.localMtu)
    (mtuFits : cfg.localMtu + PacketFragmenter.btHdrSize ≤ l2capMaxBufSize)
    (unfinished : (data ++ buf.bytes).length ≠ ch.bleSduLength) :
    lccCollect ch data buf = some {ch with isFirstSeg := false,bleSdu := some (data ++ buf.bytes)} := by
  have shorter : (data ++ buf.bytes).length < ch.bleSduLength := by
    have sliced : buf.bytes.length ≤ buf.len := by
      simp only [BtHdr.bytes,Buffer.slice_length]
      omega
    rw [List.length_append] at unfinished ⊢
    omega
  rw [lccCollect,if_neg (lccCollect_room within fits mtuFits)]
  dsimp only
  rw [if_neg unfinished,if_pos shorter]

theorem l2cLccProcPdu_first {sduLen : Nat} {rest : List UInt8} (first : ch.isFirstSeg = true)
    (mps : buf.len ≤ cfg.localMps) (inBuffer : buf.offset + buf.len ≤ buf.data.length)
    (carries : buf.bytes = uint16ToStream sduLen ++ rest) (within : rest.length ≤ sduLen)
    (fits : sduLen ≤ cfg.localMtu) (mtuFits : cfg.localMtu + PacketFragmenter.btHdrSize ≤ l2capMaxBufSize) :
    l2cLccProcPdu cfg ch buf = lccCollect {ch with bleSdu := some [],bleSduLength := sduLen} []
      ⟨buf.event,buf.len - l2capLccSduLength,buf.offset + l2capLccSduLength,buf.layerSpecific,buf.data⟩ := by
  have sized : buf.len = rest.length + 2 := by
    have counted := congrArg List.length carries
    simp only [BtHdr.bytes,Buffer.slice_length,List.length_append,uint16ToStream_length] at counted
    omega
  have read : readUint16 buf buf.offset = sduLen := by
    have head := congrArg (streamToUint16 · 0) carries
    simp only [BtHdr.bytes,streamToUint16_slice _ (show 0 + 2 ≤ buf.len by omega),streamToUint16_head] at head
    rw [readUint16,← Nat.add_zero buf.offset,head]
    simp only [PacketFragmenter.btHdrSize,l2capMaxBufSize] at mtuFits
    omega
  have long : ¬ buf.len > cfg.localMps := by omega
  have framed : ¬ buf.len < l2capLccSduLength := by simp only [l2capLccSduLength]; omega
  have allowed : ¬ readUint16 buf buf.offset > cfg.localMtu := by omega
  have announced : ¬ readUint16 buf buf.offset < buf.len - l2capLccSduLength := by
    simp only [l2capLccSduLength]
    omega
  simp only [l2cLccProcPdu,if_neg long,first,if_true,if_neg framed,if_neg allowed]
  rw [if_neg announced,read]

theorem lccCollect_within (within : data.length + buf.len ≤ ch.bleSduLength) (fits : ch.bleSduLength ≤ cfg.localMtu)
    (mtuFits : cfg.localMtu + PacketFragmenter.btHdrSize ≤ l2capMaxBufSize) :
    lccCollect ch data buf = some (if (data ++ buf.bytes).length = ch.bleSduLength then
      {ch with delivered := ch.delivered ++ [data ++ buf.bytes],isFirstSeg := true,bleSdu := none,bleSduLength := 0}
      else {ch with isFirstSeg := false,bleSdu := some (data ++ buf.bytes)}) := by
  by_cases complete : (data ++ buf.bytes).length = ch.bleSduLength
  · rw [if_pos complete,lccCollect_complete within fits mtuFits complete]
  · rw [if_neg complete,lccCollect_open within fits mtuFits complete]

theorem l2cLccProcPdu_opens {sduLen : Nat} {rest : List UInt8} (first : ch.isFirstSeg = true)
    (mps : buf.len ≤ cfg.localMps) (inBuffer : buf.offset + buf.len ≤ buf.data.length)
    (carries : buf.bytes = uint16ToStream sduLen ++ rest) (within : rest.length ≤ sduLen)
    (fits : sduLen ≤ cfg.localMtu) (mtuFits : cfg.localMtu + PacketFragmenter.btHdrSize ≤ l2capMaxBufSize) :
    l2cLccProcPdu cfg ch buf = some (if rest.length = sduLen then
      {ch with delivered := ch.delivered ++ [rest],isFirstSeg := true,bleSdu := none,bleSduLength := 0}
      else {ch with isFirstSeg := false,bleSdu := some rest,bleSduLength := sduLen}) := by
  have sized : buf.len = rest.length + 2 := by
    have counted := congrArg List.length carries
    simp only [BtHdr.bytes,Buffer.slice_length,List.length_append,uint16ToStream_length] at counted
    omega
  have stripped : (⟨buf.event,buf.len - l2capLccSduLength,buf.offset + l2capLccSduLength,buf.layerSpecific,
      buf.data⟩ : BtHdr).bytes = rest := by
    rw [bytes_advance,carries]
    exact List.drop_left' (uint16ToStream_length sduLen)
  rw [l2cLccProcPdu_first first mps inBuffer carries within fits mtuFits,
    lccCollect_within (by simp only [List.length_nil,l2capLccSduLength]; omega) fits mtuFits,stripped,List.nil_append]

theorem l2cLccProcPdu_next (later : ch.isFirstSeg = false) (inside : ch.bleSdu = some data)
    (mps : buf.len ≤ cfg.localMps) (within : data.length + buf.len ≤ ch.bleSduLength) :
    l2cLccProcPdu cfg ch buf = lccCollect ch data buf := by
  have long : ¬ buf.len > cfg.localMps := by omega
  have room : ¬ data.length + buf.len > ch.bleSduLength := by omega
  simp only [l2cLccProcPdu,if_neg long,later,Bool.false_eq_true,if_false,inside,if_neg room]

theorem lccCollect_bounded (within : data.length + buf.len ≤ ch.bleSduLength) (fits : ch.bleSduLength ≤ cfg.localMtu)
    (mtuFits : cfg.localMtu + PacketFragmenter.btHdrSize ≤ l2capMaxBufSize) :
    ∃ ch', lccCollect ch data buf = some ch' ∧ CocBound cfg ch' := by
  by_cases complete : (data ++ buf.bytes).length = ch.bleSduLength
  · refine ⟨_,lccCollect_complete within fits mtuFits complete,?_,?_⟩ <;> simp
  · refine ⟨_,lccCollect_open within fits mtuFits complete,by simp,?_⟩
    intro collected found
    simp only [Option.some.injEq] at found
    subst found
    have sliced : buf.bytes.length ≤ buf.len := by
      simp only [BtHdr.bytes,Buffer.slice_length]
      omega
    simp only [List.length_append] at complete ⊢
    omega

theorem l2cLccProcPdu_bounded (mtuFits : cfg.localMtu + PacketFragmenter.btHdrSize ≤ l2capMaxBufSize)
    (bounded : CocBound cfg ch) : ∃ ch', l2cLccProcPdu cfg ch buf = some ch' ∧ CocBound cfg ch' := by
  by_cases long : buf.len > cfg.localMps
  · exact ⟨_,by simp only [l2cLccProcPdu,if_pos long],bounded.disconnect⟩
  cases first : ch.isFirstSeg
  · -- a later PDU: ble_sdu is open
    obtain ⟨data,inside⟩ := Option.ne_none_iff_exists'.mp fun closed => by
      simp [bounded.awaiting.mpr closed] at first
    obtain ⟨collected,fits⟩ := bounded.shorter data inside
    by_cases room : data.length + buf.len > ch.bleSduLength
    · refine ⟨l2cuDisconnectChnl {ch with isFirstSeg := true,bleSdu := none,bleSduLength := 0},?_,?_,?_⟩
      · simp only [l2cLccProcPdu,if_neg long,first,Bool.false_eq_true,if_false,inside,if_pos room]
      all_goals simp [l2cuDisconnectChnl]
    · rw [l2cLccProcPdu_next first inside (by omega) (by omega)]
      exact lccCollect_bounded (by omega) fits mtuFits
  · -- a first PDU: the SDU length is read and checked before ble_sdu opens
    by_cases framed : buf.len < l2capLccSduLength
    · exact ⟨ch,by simp only [l2cLccProcPdu,if_neg long,first,if_true,if_pos framed],bounded⟩
    by_cases allowed : readUint16 buf buf.offset > cfg.localMtu
    · exact ⟨_,by simp only [l2cLccProcPdu,if_neg long,first,if_true,if_neg framed,if_pos allowed],bounded.disconnect⟩
    by_cases announced : readUint16 buf buf.offset < buf.len - l2capLccSduLength
    · refine ⟨ch,?_,bounded⟩
      simp only [l2cLccProcPdu,if_neg long,first,if_true,if_neg framed,if_neg allowed]
      rw [if_pos announced]
    · obtain ⟨ch',collected,kept⟩ :=
        @lccCollect_bounded cfg {ch with bleSdu := some [],bleSduLength := readUint16 buf buf.offset} []
          ⟨buf.event,buf.len - l2capLccSduLength,buf.offset + l2capLccSduLength,buf.layerSpecific,buf.data⟩
          (by dsimp only; simp only [List.length_nil]; omega) (by dsimp only; omega) mtuFits
      refine ⟨ch',?_,kept⟩
      simp only [l2cLccProcPdu,if_neg long,first,if_true,if_neg framed,if_neg allowed]
      rw [if_neg announced]
      rw [first] at collected
      exact collected

end Reassembly

def pullCocFrames (cfg : CocConfig) : Nat → CocChannel → Option (CocChannel × List BtHdr) :=
  Machine.drain (l2cLccGetNextXmitSduSeg cfg) fun ch => ch.xmitHoldQ.isEmpty

theorem pullCocFrames_idle {cfg : CocConfig} {ch : CocChannel} (emptied : ch.xmitHoldQ = []) (fuel : Nat) :
    pullCocFrames cfg fuel ch = some (ch,[]) := by
  unfold pullCocFrames
  exact Machine.drain_idle (by simp [emptied]) fuel

theorem pullCocFrames_succ {cfg : CocConfig} {ch ch' : CocChannel} {frame : BtHdr} (fuel : Nat)
    (held : ch.xmitHoldQ ≠ []) (pulled : l2cLccGetNextXmitSduSeg cfg ch = some (ch',some frame)) :
    pullCocFrames cfg (fuel+1) ch = (pullCocFrames cfg fuel ch').map fun (ch'',frames) => (ch'',frame :: frames) := by
  unfold pullCocFrames
  exact Machine.drain_succ fuel (by simpa using held) pulled

-- One SDU between two pulls: the part the sender still holds, and what the
-- receiver has collected of the part already sent.
structure CocPending (sdu : List UInt8) (ch rxCh : CocChannel) (buf : BtHdr) : Prop where
  queued : ch.xmitHoldQ = [buf]
  inBuffer : buf.offset + buf.len ≤ buf.data.length
  fresh : buf.event = 0 → rxCh.isFirstSeg = true ∧ rxCh.bleSdu = none ∧ buf.bytes = sdu
  started : buf.event ≠ 0 → ∃ sent, rxCh.isFirstSeg = false ∧ rxCh.bleSdu = some sent ∧
    rxCh.bleSduLength = sdu.length ∧ sent ++ buf.bytes = sdu

theorem CocPending.bytes_length {sdu : List UInt8} {ch rxCh : CocChannel} {buf : BtHdr}
    (pending : CocPending sdu ch rxCh buf) : buf.bytes.length = buf.len := by
  have room := pending.inBuffer
  simp only [BtHdr.bytes,Buffer.slice_length]
  omega

theorem CocPending.len_le {sdu : List UInt8} {ch rxCh : CocChannel} {buf : BtHdr}
    (pending : CocPending sdu ch rxCh buf) : buf.len ≤ sdu.length := by
  rw [← pending.bytes_length]
  by_cases fresh : buf.event = 0
  · rw [(pending.fresh fresh).2.2]
  · obtain ⟨sent,_,_,_,joined⟩ := pending.started fresh
    rw [← joined,List.length_append]
    omega

section RoundTrip

variable {tx rx : CocConfig} {sdu : List UInt8}

-- The four cases are the sender's: first or later PDU, last or not.
theorem cocPending_step (segmenting : tx.localCid ≠ 0) (mps : 3 ≤ tx.peerMps) (within : tx.peerMps ≤ rx.localMps)
    (fits : sdu.length ≤ rx.localMtu) (mtuFits : rx.localMtu + PacketFragmenter.btHdrSize ≤ l2capMaxBufSize)
    {ch rxCh : CocChannel} {buf : BtHdr} (pending : CocPending sdu ch rxCh buf) :
    ∃ ch' frame rxCh', l2cLccGetNextXmitSduSeg tx ch = some (ch',some frame) ∧
      l2cLccProcPdu rx rxCh (arrive frame) = some rxCh' ∧ rxCh'.disconnecting = rxCh.disconnecting ∧
      (ch'.xmitHoldQ = [] ∧ rxCh'.delivered = rxCh.delivered ++ [sdu] ∧ rxCh'.isFirstSeg = true ∧
          rxCh'.bleSdu = none ∨
        ∃ buf', CocPending sdu ch' rxCh' buf' ∧ buf'.len < buf.len ∧ rxCh'.delivered = rxCh.delivered) := by
  have bytes := pending.bytes_length
  have bounded := pending.len_le
  have inBuffer := pending.inBuffer
  have small : buf.len + 25 < 65536 := by
    simp only [PacketFragmenter.btHdrSize,l2capMaxBufSize] at mtuFits
    omega
  by_cases fresh : buf.event = 0
  · obtain ⟨awaiting,_,original⟩ := pending.fresh fresh
    have counted : sdu.length = buf.len := by rw [← original,bytes]
    by_cases whole : buf.len + l2capLccSduLength ≤ tx.peerMps
    · -- the whole SDU in one PDU, after its length
      obtain ⟨frame,pulled,carried,sized,inside⟩ := @l2cLccGetNextXmitSduSeg_sends tx ch buf [] buf.len true
        pending.queued mps inBuffer small (by simp [fresh,whole]) (by simp)
      rw [if_pos fresh,List.take_of_length_le bytes.le] at carried
      have arrivedLength : (arrive frame).len = buf.len + 2 := by
        rw [sized,carried,List.length_append,uint16ToStream_length,bytes,Nat.add_comm]
      have received := l2cLccProcPdu_opens awaiting (by simp only [l2capLccSduLength] at whole; omega) inside carried
        bytes.le (by omega) mtuFits
      rw [if_pos bytes] at received
      exact ⟨_,frame,_,pulled,received,rfl,.inl ⟨rfl,by rw [original],rfl,rfl⟩⟩
    · -- the first PDU carries the length and the first MPS - 2 bytes
      have cut : tx.peerMps - l2capLccSduLength < buf.len := by
        simp only [l2capLccSduLength] at whole ⊢
        omega
      obtain ⟨frame,pulled,carried,sized,inside⟩ := @l2cLccGetNextXmitSduSeg_sends tx ch buf []
        (tx.peerMps - l2capLccSduLength) false pending.queued mps inBuffer small (by simp [fresh,whole]) (by simp [fresh])
      rw [if_pos fresh] at carried
      have taken : (buf.bytes.take (tx.peerMps - l2capLccSduLength)).length = tx.peerMps - l2capLccSduLength := by
        rw [List.length_take,bytes]
        omega
      have arrivedLength : (arrive frame).len = tx.peerMps := by
        rw [sized,carried,List.length_append,uint16ToStream_length,taken]
        simp only [l2capLccSduLength] at whole ⊢
        omega
      have received := l2cLccProcPdu_opens awaiting (by omega) inside carried (by omega) (by omega) mtuFits
      rw [if_neg (by omega)] at received
      refine ⟨_,frame,_,pulled,received,rfl,.inr ⟨_,⟨rfl,?_,fun zero => absurd zero segmenting,
        fun _ => ⟨_,rfl,rfl,counted.symm,?_⟩⟩,?_,rfl⟩⟩
      · dsimp only
        omega
      · rw [bytes_advance,List.take_append_drop,original]
      · dsimp only
        simp only [l2capLccSduLength] at whole ⊢
        omega
  · obtain ⟨sent,later,inside,announced,joined⟩ := pending.started fresh
    have counted : sent.length + buf.len = sdu.length := by rw [← joined,List.length_append,bytes]
    by_cases whole : buf.len ≤ tx.peerMps
    · -- the rest of the SDU in one PDU
      obtain ⟨frame,pulled,carried,sized,_⟩ := @l2cLccGetNextXmitSduSeg_sends tx ch buf [] buf.len true
        pending.queued mps inBuffer small (by simp [fresh,whole]) (by simp)
      rw [if_neg fresh,List.nil_append,List.take_of_length_le bytes.le] at carried
      have arrivedLength : (arrive frame).len = buf.len := by rw [sized,carried,bytes]
      have received := (@l2cLccProcPdu_next rx rxCh sent (arrive frame) later inside (by omega) (by omega)).trans
        (@lccCollect_within rx rxCh sent (arrive frame) (by omega) (by omega) mtuFits)
      rw [carried,if_pos (by rw [List.length_append,bytes]; omega)] at received
      exact ⟨_,frame,_,pulled,received,rfl,.inl ⟨rfl,by rw [joined],rfl,rfl⟩⟩
    · -- the next MPS bytes go and the rest stays held
      obtain ⟨frame,pulled,carried,sized,_⟩ := @l2cLccGetNextXmitSduSeg_sends tx ch buf [] tx.peerMps false
        pending.queued mps inBuffer small (by simp [fresh,whole]) (by simp [fresh])
      rw [if_neg fresh,List.nil_append] at carried
      have taken : (buf.bytes.take tx.peerMps).length = tx.peerMps := by
        rw [List.length_take,bytes]
        omega
      have arrivedLength : (arrive frame).len = tx.peerMps := by rw [sized,carried,taken]
      have received := (@l2cLccProcPdu_next rx rxCh sent (arrive frame) later inside (by omega) (by omega)).trans
        (@lccCollect_within rx rxCh sent (arrive frame) (by omega) (by omega) mtuFits)
      rw [carried,if_neg (by rw [List.length_append,taken]; omega)] at received
      refine ⟨_,frame,_,pulled,received,rfl,.inr ⟨_,⟨rfl,?_,fun zero => absurd zero segmenting,
        fun _ => ⟨_,rfl,rfl,announced,?_⟩⟩,?_,rfl⟩⟩
      · dsimp only
        omega
      · rw [bytes_advance,List.append_assoc,List.take_append_drop,joined]
      · dsimp only
        omega

-- The induction is on the pulls left, each one shortening what is held.
theorem cocPending_delivers (segmenting : tx.localCid ≠ 0) (mps : 3 ≤ tx.peerMps) (within : tx.peerMps ≤ rx.localMps)
    (fits : sdu.length ≤ rx.localMtu) (mtuFits : rx.localMtu + PacketFragmenter.btHdrSize ≤ l2capMaxBufSize) :
    ∀ fuel {ch rxCh : CocChannel} {buf : BtHdr}, CocPending sdu ch rxCh buf → buf.len < fuel →
      ∃ ch' frames rxCh', pullCocFrames tx fuel ch = some (ch',frames) ∧ ch'.xmitHoldQ = [] ∧
        Machine.run (l2cLccProcPdu rx) rxCh (frames.map arrive) = some rxCh' ∧
        rxCh'.delivered = rxCh.delivered ++ [sdu] ∧ rxCh'.isFirstSeg = true ∧ rxCh'.bleSdu = none ∧
        rxCh'.disconnecting = rxCh.disconnecting
  | 0,_,_,_,_,short => absurd short (Nat.not_lt_zero _)
  | fuel+1,ch,rxCh,buf,pending,short => by
    obtain ⟨ch1,frame,rxCh1,pulled,received,kept,next⟩ := cocPending_step segmenting mps within fits mtuFits pending
    have held : ch.xmitHoldQ ≠ [] := by simp [pending.queued]
    rcases next with ⟨emptied,delivered,awaiting,closed⟩ | ⟨buf',pending',shorter,same⟩
    · -- the last PDU: the next pull finds nothing held
      refine ⟨ch1,[frame],rxCh1,?_,emptied,?_,delivered,awaiting,closed,kept⟩
      · rw [pullCocFrames_succ fuel held pulled,pullCocFrames_idle emptied]
        rfl
      · simp [Machine.run,received]
    · obtain ⟨ch',frames,rxCh',pulledRest,emptied,ran,delivered,awaiting,closed,keptRest⟩ :=
        cocPending_delivers segmenting mps within fits mtuFits fuel pending' (by omega)
      refine ⟨ch',frame :: frames,rxCh',?_,emptied,?_,by rw [delivered,same],awaiting,closed,keptRest.trans kept⟩
      · rw [pullCocFrames_succ fuel held pulled,pulledRest]
        rfl
      · simp only [List.map_cons,Machine.run,received,Option.bind_some]
        exact ran

end RoundTrip

theorem le_coc_round_trip (tx rx : CocConfig) (segmenting : tx.localCid ≠ 0) (mps : 3 ≤ tx.peerMps)
    (within : tx.peerMps ≤ rx.localMps) (mtuFits : rx.localMtu + PacketFragmenter.btHdrSize ≤ l2capMaxBufSize)
    (ch rxCh : CocChannel) (sdu : BtHdr) (fits : sdu.len ≤ rx.localMtu) (fresh : sdu.event = 0)
    (inBuffer : sdu.offset + sdu.len ≤ sdu.data.length) (queued : ch.xmitHoldQ = [sdu])
    (awaiting : rxCh.isFirstSeg = true) (closed : rxCh.bleSdu = none) (fuel : Nat) (enough : sdu.len < fuel) :
    (∃ ch' frames rxCh', pullCocFrames tx fuel ch = some (ch',frames) ∧ ch'.xmitHoldQ = [] ∧
      Machine.run (l2cLccProcPdu rx) rxCh (frames.map arrive) = some rxCh' ∧
      rxCh'.delivered = rxCh.delivered ++ [sdu.bytes] ∧ rxCh'.isFirstSeg = true ∧ rxCh'.bleSdu = none ∧
      rxCh'.disconnecting = rxCh.disconnecting) ∧
    ∀ (start : CocChannel) (pdus : List BtHdr), CocBound rx start →
      ∃ reached, Machine.run (l2cLccProcPdu rx) start pdus = some reached ∧ CocBound rx reached := by
  have sized : sdu.bytes.length = sdu.len := by
    simp only [BtHdr.bytes,Buffer.slice_length]
    omega
  have pending : CocPending sdu.bytes ch rxCh sdu :=
    ⟨queued,inBuffer,fun _ => ⟨awaiting,closed,rfl⟩,fun started => absurd fresh started⟩
  refine ⟨cocPending_delivers segmenting mps within (by omega) mtuFits fuel pending enough,?_⟩
  -- every PDU is taken and keeps the bound, whatever its bytes
  intro start pdus begun
  induction pdus generalizing start with
  | nil => exact ⟨start,rfl,begun⟩
  | cons pdu rest ih =>
    obtain ⟨next,taken,kept⟩ := @l2cLccProcPdu_bounded rx start pdu mtuFits begun
    obtain ⟨reached,ran,bounded⟩ := ih next kept
    exact ⟨reached,by simp only [Machine.run,taken,Option.bind_some,ran],bounded⟩

def segmentingCoc : CocConfig := ⟨0x40,0x41,3,10,3⟩

def receivingCoc : CocConfig := ⟨0x41,0x40,3,10,3⟩

-- Five bytes at MPS 3: the length with one byte, then three, then one.
def cocSdu : BtHdr := ⟨0,5,8,0,List.replicate 8 0 ++ [1,2,3,4,5]⟩

def heldCoc : CocChannel := {CocChannel.opened with xmitHoldQ := [cocSdu]}

theorem le_coc_round_trip_segmented :
    (∃ ch' frames rxCh', pullCocFrames segmentingCoc 6 heldCoc = some (ch',frames) ∧ ch'.xmitHoldQ = [] ∧
      Machine.run (l2cLccProcPdu receivingCoc) CocChannel.opened (frames.map arrive) = some rxCh' ∧
      rxCh'.delivered = CocChannel.opened.delivered ++ [cocSdu.bytes] ∧ rxCh'.isFirstSeg = true ∧
      rxCh'.bleSdu = none ∧ rxCh'.disconnecting = CocChannel.opened.disconnecting) ∧
    ∀ (start : CocChannel) (pdus : List BtHdr), CocBound receivingCoc start →
      ∃ reached, Machine.run (l2cLccProcPdu receivingCoc) start pdus = some reached ∧ CocBound receivingCoc reached :=
  le_coc_round_trip segmentingCoc receivingCoc (by decide) (by decide) (by decide) (by decide) heldCoc
    CocChannel.opened cocSdu (by decide) rfl (by decide) rfl rfl rfl 6 (by decide)

example : ((pullCocFrames segmentingCoc 6 heldCoc).map fun pulled => pulled.2.map fun frame => (arrive frame).bytes) =
    some [[5,0,1],[2,3,4],[5]] := by
  decide

end BluetoothStack.L2cap
