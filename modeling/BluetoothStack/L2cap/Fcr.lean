import BluetoothStack.Hci.PacketFragmenter

namespace BluetoothStack.L2cap

open PacketFragmenter (BtHdr)

-- Header and field sizes (l2cdefs.h, l2c_api.h, hcidefs.h, l2c_fcr.cc).
def l2capPktOverhead : Nat := 4
def l2capFcrOverhead : Nat := 2
def l2capFcsLen : Nat := 2
def l2capSduLenOverhead : Nat := 2
def l2capSduLenOffset : Nat := 2
def l2capExtControlOverhead : Nat := 4
def l2capMaxHeaderFcs : Nat := l2capPktOverhead + l2capExtControlOverhead + l2capSduLenOverhead + l2capFcsLen
def l2capMinOffset : Nat := 13
def hciDataPreambleSize : Nat := 4
def l2capFcrInitCrc : Nat := 0
def l2cFcrRetxAllPkts : Nat := 0xFF
def obxBufMinOffset : Nat := 4
def l2capMaxBufSize : Nat := 10240 + 24

-- The standard control word: SAR, S-frame type, TxSeq, ReqSeq, P and F.
def l2capFcrUnsegSdu : Nat := 0x0000
def l2capFcrStartSdu : Nat := 0x4000
def l2capFcrEndSdu : Nat := 0x8000
def l2capFcrContSdu : Nat := 0xc000
def l2capFcrSupRr : Nat := 0x0000
def l2capFcrSupRej : Nat := 0x0001
def l2capFcrSupRnr : Nat := 0x0002
def l2capFcrSupSrej : Nat := 0x0003
def l2capFcrSarBits : Nat := 0xC000
def l2capFcrSFrameBit : Nat := 0x0001
def l2capFcrReqSeqBits : Nat := 0x3F00
def l2capFcrReqSeqBitsShift : Nat := 8
def l2capFcrTxSeqBits : Nat := 0x007E
def l2capFcrTxSeqBitsShift : Nat := 1
def l2capFcrFBit : Nat := 0x0080
def l2capFcrPBit : Nat := 0x0010
def l2capFcrSegBits : Nat := 0xC000
def l2capFcrSupShift : Nat := 2
def l2capFcrSupBits : Nat := 0x000C
def l2capFcrSeqModulo : Nat := 0x3F

def crctab : List Nat := [
  0x0000,0xc0c1,0xc181,0x0140,0xc301,0x03c0,0x0280,0xc241,0xc601,0x06c0,0x0780,0xc741,
  0x0500,0xc5c1,0xc481,0x0440,0xcc01,0x0cc0,0x0d80,0xcd41,0x0f00,0xcfc1,0xce81,0x0e40,
  0x0a00,0xcac1,0xcb81,0x0b40,0xc901,0x09c0,0x0880,0xc841,0xd801,0x18c0,0x1980,0xd941,
  0x1b00,0xdbc1,0xda81,0x1a40,0x1e00,0xdec1,0xdf81,0x1f40,0xdd01,0x1dc0,0x1c80,0xdc41,
  0x1400,0xd4c1,0xd581,0x1540,0xd701,0x17c0,0x1680,0xd641,0xd201,0x12c0,0x1380,0xd341,
  0x1100,0xd1c1,0xd081,0x1040,0xf001,0x30c0,0x3180,0xf141,0x3300,0xf3c1,0xf281,0x3240,
  0x3600,0xf6c1,0xf781,0x3740,0xf501,0x35c0,0x3480,0xf441,0x3c00,0xfcc1,0xfd81,0x3d40,
  0xff01,0x3fc0,0x3e80,0xfe41,0xfa01,0x3ac0,0x3b80,0xfb41,0x3900,0xf9c1,0xf881,0x3840,
  0x2800,0xe8c1,0xe981,0x2940,0xeb01,0x2bc0,0x2a80,0xea41,0xee01,0x2ec0,0x2f80,0xef41,
  0x2d00,0xedc1,0xec81,0x2c40,0xe401,0x24c0,0x2580,0xe541,0x2700,0xe7c1,0xe681,0x2640,
  0x2200,0xe2c1,0xe381,0x2340,0xe101,0x21c0,0x2080,0xe041,0xa001,0x60c0,0x6180,0xa141,
  0x6300,0xa3c1,0xa281,0x6240,0x6600,0xa6c1,0xa781,0x6740,0xa501,0x65c0,0x6480,0xa441,
  0x6c00,0xacc1,0xad81,0x6d40,0xaf01,0x6fc0,0x6e80,0xae41,0xaa01,0x6ac0,0x6b80,0xab41,
  0x6900,0xa9c1,0xa881,0x6840,0x7800,0xb8c1,0xb981,0x7940,0xbb01,0x7bc0,0x7a80,0xba41,
  0xbe01,0x7ec0,0x7f80,0xbf41,0x7d00,0xbdc1,0xbc81,0x7c40,0xb401,0x74c0,0x7580,0xb541,
  0x7700,0xb7c1,0xb681,0x7640,0x7200,0xb2c1,0xb381,0x7340,0xb101,0x71c0,0x7080,0xb041,
  0x5000,0x90c1,0x9181,0x5140,0x9301,0x53c0,0x5280,0x9241,0x9601,0x56c0,0x5780,0x9741,
  0x5500,0x95c1,0x9481,0x5440,0x9c01,0x5cc0,0x5d80,0x9d41,0x5f00,0x9fc1,0x9e81,0x5e40,
  0x5a00,0x9ac1,0x9b81,0x5b40,0x9901,0x59c0,0x5880,0x9841,0x8801,0x48c0,0x4980,0x8941,
  0x4b00,0x8bc1,0x8a81,0x4a40,0x4e00,0x8ec1,0x8f81,0x4f40,0x8d01,0x4dc0,0x4c80,0x8c41,
  0x4400,0x84c1,0x8581,0x4540,0x8701,0x47c0,0x4680,0x8641,0x8201,0x42c0,0x4380,0x8341,
  0x4100,0x81c1,0x8081,0x4040]

def l2cFcrUpdcrc (icrc : Nat) (bytes : List UInt8) : Nat :=
  bytes.foldl (fun crc byte => ((crc >>> 8) &&& 0xff) ^^^ crctab.getD ((crc &&& 0xff) ^^^ byte.toNat) 0) icrc

def readUint16 (buf : BtHdr) (pos : Nat) : Nat := streamToUint16 buf.data pos

def writeUint16 (buf : BtHdr) (pos value : Nat) : Option BtHdr :=
  (Buffer.write buf.data pos (uint16ToStream value)).map fun data => {buf with data}

def l2cFcrTxGetFcs (buf : BtHdr) : Nat := l2cFcrUpdcrc l2capFcrInitCrc (Buffer.slice buf.data buf.offset buf.len)

-- The received buffer starts after the L2CAP header, which the CRC covers.
def l2cFcrRxGetFcs (buf : BtHdr) : Nat :=
  l2cFcrUpdcrc l2capFcrInitCrc (Buffer.slice buf.data (buf.offset-l2capPktOverhead) (buf.len+l2capPktOverhead))

-- osi_malloc never returns NULL; the fields it leaves unset are written before
-- they are read.
def l2cFcrCloneBuf (buf : BtHdr) (newOffset noOfBytes : Nat) : Option BtHdr :=
  if noOfBytes + PacketFragmenter.btHdrSize + newOffset + l2capFcsLen < 65536 ∧
      buf.offset + noOfBytes ≤ buf.data.length then
    some ⟨0,noOfBytes,newOffset,0,
      List.replicate newOffset 0 ++ Buffer.slice buf.data buf.offset noOfBytes ++ List.replicate l2capFcsLen 0⟩
  else none

-- The sending side of tL2C_FCRB the window is made of.
structure Window where
  nextTxSeq : Nat
  lastRxAck : Nat
  waitingForAckQ : List BtHdr

structure Fcrb where
  nextSeqExpected : Nat
  lastAckSent : Nat
  numTries : Nat
  localBusy : Bool
  remoteBusy : Bool
  rejSent : Bool
  srejSent : Bool
  rejAfterSrej : Bool
  waitAck : Bool
  sendFRsp : Bool
  retransQ : List BtHdr
  srejRcvHoldQ : List BtHdr
  pRxSdu : Option (List UInt8)
  rxSduLen : Nat

structure Config where
  localCid : Nat
  remoteCid : Nat
  txMps : Nat
  peerTxWinSz : Nat
  peerMaxTransmit : Nat
  ourTxWinSz : Nat
  maxRxMtu : Nat
  maxHeldAcks : Nat
  bypassFcs : Bool

-- A channel in ERTM mode with the S-frames it sent and the SDUs it passed up.
structure Channel where
  window : Window
  fcrb : Fcrb
  xmitHoldQ : List BtHdr
  isOpen : Bool
  sFramesSent : List Nat
  delivered : List (List UInt8)

def disconnect (ch : Channel) : Channel := {ch with isOpen := false}

-- A new frame takes next_tx_seq, a retransmitted one keeps its TxSeq and SAR
-- bits; both get the F-bit of a waiting poll.
def controlWord (window : Window) (fcrb : Fcrb) (buf : BtHdr) (isRetransmission : Bool) : Nat :=
  let ctrlWord :=
    if isRetransmission then readUint16 buf (buf.offset+l2capPktOverhead) &&& (0xFFFF ^^^ (l2capFcrReqSeqBits+l2capFcrFBit))
    else (buf.layerSpecific &&& l2capFcrSegBits) ||| (window.nextTxSeq <<< l2capFcrTxSeqBitsShift)
  (if fcrb.sendFRsp then ctrlWord ||| l2capFcrFBit else ctrlWord) ||| (fcrb.nextSeqExpected <<< l2capFcrReqSeqBitsShift)

def appendFcs (buf : BtHdr) : Option BtHdr := do
  let buf ← writeUint16 buf buf.offset (wrap16 (buf.len+l2capFcsLen+65536-l2capPktOverhead))
  let buf ← writeUint16 buf (buf.offset+buf.len) (l2cFcrTxGetFcs buf)
  return {buf with len := buf.len+l2capFcsLen}

-- prepare_I_frame: only a new frame moves next_tx_seq on.
def prepareIFrame (cfg : Config) (window : Window) (fcrb : Fcrb) (buf : BtHdr) (isRetransmission : Bool) :
    Option (Window × Fcrb × BtHdr) := do
  let ctrlWord := controlWord window fcrb buf isRetransmission
  let window := if isRetransmission then window else {window with nextTxSeq := (window.nextTxSeq+1) &&& l2capFcrSeqModulo}
  let fcrb := {fcrb with sendFRsp := false,lastAckSent := fcrb.nextSeqExpected}
  let buf ← writeUint16 buf (buf.offset+l2capPktOverhead) ctrlWord
  if cfg.bypassFcs then return (window,fcrb,buf)
  let buf ← appendFcs buf
  return (window,fcrb,buf)

def txSeqField (ctrlWord : Nat) : Nat := (ctrlWord &&& l2capFcrTxSeqBits) >>> l2capFcrTxSeqBitsShift

def txSeqOf (buf : BtHdr) : Nat := txSeqField (readUint16 buf (buf.offset+l2capPktOverhead))

def sarHeader (firstSeg : Bool) : Nat :=
  l2capPktOverhead + l2capFcrOverhead + if firstSeg then l2capSduLenOverhead else 0

def sarBits (firstSeg midSeg lastSeg : Bool) : Nat :=
  if firstSeg then l2capFcrStartSdu else if midSeg then l2capFcrContSdu
  else if lastSeg then l2capFcrEndSdu else l2capFcrUnsegSdu

-- Cut the next PDU off the SDU at the head of xmit_hold_q. The event field of
-- the SDU records whether segmentation has started.
def nextSegment (cfg : Config) (maxPdu : Nat) (buf : BtHdr) (rest : List BtHdr) :
    Option (BtHdr × Bool × Bool × Bool × Nat × List BtHdr) :=
  if buf.len > maxPdu then
    let firstSeg := buf.event = 0
    -- max_pdu -= 2 on the uint16_t max_pdu
    let maxPdu := if firstSeg then wrap16 (maxPdu + 65536 - 2) else maxPdu
    (l2cFcrCloneBuf buf (l2capMinOffset+l2capSduLenOffset) maxPdu).map fun xmit =>
      ({xmit with event := cfg.localCid,layerSpecific := buf.layerSpecific},firstSeg,!firstSeg,false,buf.len,
        {buf with event := cfg.localCid,len := buf.len-maxPdu,offset := buf.offset+maxPdu} :: rest)
  else some ({buf with event := cfg.localCid},false,false,buf.event ≠ 0,0,rest)

def addHeader (cfg : Config) (xmit : BtHdr) (firstSeg : Bool) (sduLen : Nat) : Option BtHdr :=
  if xmit.offset < sarHeader firstSeg then none
  else do
    let xmit := {xmit with offset := xmit.offset - sarHeader firstSeg,len := xmit.len + sarHeader firstSeg}
    let xmit ← writeUint16 xmit xmit.offset (wrap16 (xmit.len+65536-l2capPktOverhead))
    let xmit ← writeUint16 xmit (xmit.offset+2) cfg.remoteCid
    if firstSeg then writeUint16 xmit (xmit.offset+6) sduLen else some xmit

-- A frame from the retransmission queue, else the held SDU's next segment, whose
-- copy without the FCS joins waiting_for_ack_q.
def l2cFcrGetNextXmitSduSeg (cfg : Config) (maxPacketLength : Nat) (ch : Channel) : Option (Channel × Option BtHdr) :=
  match ch.fcrb.retransQ with
  | buf :: rest => do
    let (window,fcrb,buf) ← prepareIFrame cfg ch.window {ch.fcrb with retransQ := rest} buf true
    return ({ch with window,fcrb},some {buf with event := cfg.localCid})
  | [] =>
    let maxPdu := if maxPacketLength > l2capMaxHeaderFcs ∧ cfg.txMps + l2capMaxHeaderFcs > maxPacketLength then
      maxPacketLength - l2capMaxHeaderFcs else cfg.txMps
    match ch.xmitHoldQ with
    | [] => some (ch,none)
    | buf :: rest => do
      let (xmit,firstSeg,midSeg,lastSeg,sduLen,held) ← nextSegment cfg maxPdu buf rest
      let xmit ← addHeader cfg xmit firstSeg sduLen
      let xmit := {xmit with layerSpecific := xmit.layerSpecific ||| sarBits firstSeg midSeg lastSeg}
      let (window,fcrb,xmit) ← prepareIFrame cfg ch.window ch.fcrb xmit false
      let wack ← l2cFcrCloneBuf xmit hciDataPreambleSize xmit.len
      let wackLen := if cfg.bypassFcs then wack.len else wack.len - l2capFcsLen
      let wack := {wack with len := wackLen,layerSpecific := xmit.layerSpecific}
      let window := {window with waitingForAckQ := window.waitingForAckQ ++ [wack]}
      return ({ch with window,fcrb,xmitHoldQ := held},some xmit)

def l2cFcrIsFlowControlled (cfg : Config) (ch : Channel) : Bool :=
  ch.fcrb.remoteBusy || decide (ch.window.waitingForAckQ.length ≥ cfg.peerTxWinSz)

-- l2cu_get_next_buffer_to_send for a dynamic ERTM channel on a BR/EDR link,
-- with the checks l2cu_get_next_channel makes before choosing it.
def l2cuGetNextBufferToSend (cfg : Config) (ch : Channel) : Option (Channel × Option BtHdr) :=
  if !ch.isOpen || ch.fcrb.waitAck || ch.fcrb.remoteBusy then some (ch,none)
  else if ch.fcrb.retransQ = [] ∧ (ch.xmitHoldQ = [] ∨ l2cFcrIsFlowControlled cfg ch) then some (ch,none)
  else l2cFcrGetNextXmitSduSeg cfg 0 ch

-- l2c_fcr_send_S_frame: what stays of the frame is its control word.
def l2cFcrSendSFrame (ch : Channel) (functionCode pfBit : Nat) : Channel :=
  if !ch.isOpen then ch
  else
    let ctrlWord := (functionCode <<< l2capFcrSupShift) ||| l2capFcrSFrameBit |||
      (ch.fcrb.nextSeqExpected <<< l2capFcrReqSeqBitsShift) ||| pfBit
    let fcrb := {ch.fcrb with waitAck := pfBit = l2capFcrPBit || ch.fcrb.waitAck,lastAckSent := ch.fcrb.nextSeqExpected}
    {ch with fcrb,sFramesSent := ch.sFramesSent ++ [ctrlWord]}

def isSrejWithoutPoll (ctrlWord : Nat) : Bool :=
  ctrlWord &&& l2capFcrSFrameBit ≠ 0 && ctrlWord &&& l2capFcrSupBits = l2capFcrSupSrej <<< l2capFcrSupShift &&
    ctrlWord &&& l2capFcrPBit = 0

def reqSeqOf (ctrlWord : Nat) : Nat := (ctrlWord &&& l2capFcrReqSeqBits) >>> l2capFcrReqSeqBitsShift

-- (req_seq - last_rx_ack) & L2CAP_FCR_SEQ_MODULO on uint8_t operands.
def numBufsAcked (window : Window) (reqSeq : Nat) : Nat :=
  (reqSeq + 256 - window.lastRxAck % 256) &&& l2capFcrSeqModulo

-- process_reqseq: a ReqSeq past the frames waiting for an acknowledgement
-- closes the channel; otherwise the frames it acknowledges leave the queue.
def processReqseq (ch : Channel) (ctrlWord : Nat) : Channel × Bool :=
  if isSrejWithoutPoll ctrlWord then (ch,true)
  else
    let reqSeq := reqSeqOf ctrlWord
    let acked := numBufsAcked ch.window reqSeq
    if acked > ch.window.waitingForAckQ.length then (disconnect ch,false)
    else
      let window := {ch.window with lastRxAck := reqSeq,waitingForAckQ := ch.window.waitingForAckQ.drop acked}
      ({ch with window,fcrb := {ch.fcrb with numTries := if acked ≠ 0 then 0 else ch.fcrb.numTries}},true)

-- The flush of link_xmit_data_q belongs to the link, not to the channel's state.
def retransmitIFrames (cfg : Config) (ch : Channel) (txSeq : Nat) : Option (Channel × Bool) :=
  let queue := ch.window.waitingForAckQ
  if queue ≠ [] ∧ cfg.peerMaxTransmit ≠ 0 ∧ ch.fcrb.numTries ≥ cfg.peerMaxTransmit then some (disconnect ch,false)
  else if txSeq ≠ l2cFcrRetxAllPkts ∧ queue = [] then some (ch,true)
  else
    let specific := txSeq ≠ l2cFcrRetxAllPkts
    let chosen := if specific then (queue.find? (txSeqOf · = txSeq)).toList else queue
    let kept := if specific then ch.fcrb.retransQ else []
    let numTries := if queue ≠ [] then (ch.fcrb.numTries + 1) % 256 else ch.fcrb.numTries
    let copy := fun buf : BtHdr =>
      (l2cFcrCloneBuf buf buf.offset buf.len).map fun copy => {copy with layerSpecific := buf.layerSpecific}
    (chosen.mapM copy).map fun copies => ({ch with fcrb := {ch.fcrb with retransQ := kept ++ copies,numTries}},true)

def receiveReadiness (fcrb : Fcrb) : Nat := if fcrb.localBusy then l2capFcrSupRnr else l2capFcrSupRr

def sendFResponse (ch : Channel) : Channel :=
  l2cFcrSendSFrame ch (if ch.fcrb.srejSent then l2capFcrSupSrej else receiveReadiness ch.fcrb) l2capFcrFBit

-- The SAR bits must follow UNSEG, or START CONT* END; p_rx_sdu is an
-- L2CAP_MAX_BUF_SIZE buffer with its data at OBX_BUF_MIN_OFFSET.
def doSarReassembly (cfg : Config) (ch : Channel) (buf : BtHdr) (ctrlWord : Nat) : Option (Channel × Bool) :=
  let sarType := ctrlWord &&& l2capFcrSegBits
  let fcrb := ch.fcrb
  let packetOk :=
    if sarType = l2capFcrUnsegSdu ∨ sarType = l2capFcrStartSdu then
      fcrb.pRxSdu.isNone && !(sarType = l2capFcrStartSdu && buf.len < l2capSduLenOverhead)
    else fcrb.pRxSdu.isSome
  if !packetOk then some (ch,false)
  else if sarType = l2capFcrUnsegSdu then some ({ch with delivered := ch.delivered ++ [buf.bytes]},true)
  else
    let rxSduLen := if sarType = l2capFcrStartSdu then readUint16 buf buf.offset else fcrb.rxSduLen
    let buf := if sarType = l2capFcrStartSdu then {buf with offset := buf.offset+2,len := buf.len-2} else buf
    let fcrb := {fcrb with rxSduLen}
    if sarType = l2capFcrStartSdu ∧ rxSduLen > cfg.maxRxMtu then some ({ch with fcrb},false)
    else
      let sdu := if sarType = l2capFcrStartSdu then [] else fcrb.pRxSdu.getD []
      if sdu.length + buf.len > rxSduLen then some ({ch with fcrb := {fcrb with pRxSdu := some sdu}},false)
      else if sarType = l2capFcrEndSdu ∧ sdu.length + buf.len ≠ rxSduLen then
        some ({ch with fcrb := {fcrb with pRxSdu := some sdu}},false)
      -- the copy into p_rx_sdu must stay inside its buffer
      else if obxBufMinOffset + sdu.length + buf.len + PacketFragmenter.btHdrSize > l2capMaxBufSize then none
      else
        let sdu := sdu ++ buf.bytes
        if sarType = l2capFcrEndSdu then
          some ({ch with fcrb := {fcrb with pRxSdu := none},delivered := ch.delivered ++ [sdu]},true)
        else some ({ch with fcrb := {fcrb with pRxSdu := some sdu}},true)

-- process_i_frame off sequence: a duplicate is dropped, a gap of one asks with
-- SREJ, a larger gap with REJ.
def processUnexpectedIFrame (cfg : Config) (ch : Channel) (buf : BtHdr) (txSeq : Nat) : Channel :=
  let fcrb := ch.fcrb
  let numLost := (txSeq + 256 - fcrb.nextSeqExpected % 256) &&& l2capFcrSeqModulo
  if numLost ≥ cfg.ourTxWinSz then ch
  else if fcrb.srejSent then
    match fcrb.srejRcvHoldQ.getLast? with
    | none => ch
    | some last =>
      if txSeq = (last.layerSpecific + 1) &&& l2capFcrSeqModulo ∧ fcrb.srejRcvHoldQ.length < cfg.ourTxWinSz then
        {ch with fcrb := {fcrb with srejRcvHoldQ := fcrb.srejRcvHoldQ ++ [{buf with layerSpecific := txSeq}]}}
      else {ch with fcrb := {fcrb with rejAfterSrej := true}}
  else if fcrb.rejSent then ch
  else if numLost > 1 then l2cFcrSendSFrame {ch with fcrb := {fcrb with rejSent := true}} l2capFcrSupRej 0
  else
    let held := fcrb.srejRcvHoldQ ++ [{buf with layerSpecific := txSeq}]
    l2cFcrSendSFrame {ch with fcrb := {fcrb with srejRcvHoldQ := held,srejSent := true}} l2capFcrSupSrej 0

def acknowledgeIFrame (cfg : Config) (ch : Channel) (delayAck : Bool) : Channel :=
  let numToAck := (ch.fcrb.nextSeqExpected + 256 - ch.fcrb.lastAckSent % 256) &&& l2capFcrSeqModulo
  let delayAck := delayAck || (decide (numToAck < cfg.maxHeldAcks) && !ch.fcrb.localBusy)
  if numToAck ≠ 0 ∧ ch.isOpen ∧ !delayAck ∧ (ch.xmitHoldQ = [] ∨ l2cFcrIsFlowControlled cfg ch) ∧
      ch.fcrb.srejRcvHoldQ = [] then
    l2cFcrSendSFrame ch (receiveReadiness ch.fcrb) 0
  else ch

-- process_i_frame once checkpoint recovery is done: the expected frame goes
-- to reassembly, and a SAR error closes the channel.
def processSequencedIFrame (cfg : Config) (ch : Channel) (buf : BtHdr) (ctrlWord : Nat) (delayAck : Bool) :
    Option Channel :=
  let txSeq := txSeqField ctrlWord
  if txSeq ≠ ch.fcrb.nextSeqExpected then
    some (if ch.fcrb.localBusy then l2cFcrSendSFrame ch l2capFcrSupRnr 0 else processUnexpectedIFrame cfg ch buf txSeq)
  else
    let fcrb := {ch.fcrb with rejSent := false,srejSent := false,nextSeqExpected := (txSeq+1) &&& l2capFcrSeqModulo}
    (doSarReassembly cfg {ch with fcrb} buf ctrlWord).map fun (ch,ok) =>
      if !ok then disconnect ch else acknowledgeIFrame cfg ch delayAck

-- process_i_frame: a frame with the F-bit ends checkpoint recovery, which
-- retransmits every unacknowledged frame first.
def processIFrame (cfg : Config) (ch : Channel) (buf : BtHdr) (ctrlWord : Nat) (delayAck : Bool) : Option Channel :=
  let recovered := if ctrlWord &&& l2capFcrFBit ≠ 0 then retransmitIFrames cfg ch l2cFcrRetxAllPkts else some (ch,true)
  recovered.bind fun (ch,ok) => if !ok then some ch else processSequencedIFrame cfg ch buf ctrlWord delayAck

-- process_s_frame: RR, REJ and SREJ may ask for retransmissions, RNR stops
-- the sender; a poll is answered with the F-bit.
def processSFrame (cfg : Config) (ch : Channel) (ctrlWord : Nat) : Option Channel :=
  let sFrameType := (ctrlWord &&& l2capFcrSupBits) >>> l2capFcrSupShift
  let fcrb := if ctrlWord &&& l2capFcrPBit ≠ 0 then {ch.fcrb with rejSent := false,sendFRsp := true} else ch.fcrb
  let remoteWasBusy := fcrb.remoteBusy
  let ch := {ch with fcrb := {fcrb with remoteBusy := sFrameType = l2capFcrSupRnr}}
  let retransmitted :=
    if sFrameType = l2capFcrSupRr then
      if ctrlWord &&& l2capFcrFBit ≠ 0 ∨ remoteWasBusy then retransmitIFrames cfg ch l2cFcrRetxAllPkts
      else some (ch,true)
    else if sFrameType = l2capFcrSupRej then retransmitIFrames cfg ch l2cFcrRetxAllPkts
    else if sFrameType = l2capFcrSupRnr then some (ch,true)
    else retransmitIFrames cfg ch (reqSeqOf ctrlWord)
  retransmitted.map fun (ch,allOk) =>
    if allOk ∧ ch.fcrb.sendFRsp then
      let ch := sendFResponse ch
      {ch with fcrb := {ch.fcrb with sendFRsp := false}}
    else ch

-- The length and FCS checks of l2c_fcr_proc_pdu. A frame that passes comes
-- back with its control word and without it or the FCS.
def receiveFrame (cfg : Config) (buf : BtHdr) : Option (BtHdr × Nat) :=
  let minPduLen := if cfg.bypassFcs then l2capFcrOverhead else l2capFcsLen + l2capFcrOverhead
  if buf.len < minPduLen then none
  else
    let fcs := readUint16 buf (buf.offset+buf.len-l2capFcsLen)
    let buf := if cfg.bypassFcs then buf else {buf with len := buf.len-l2capFcsLen}
    if !cfg.bypassFcs ∧ l2cFcrRxGetFcs buf ≠ fcs then none
    else some ({buf with len := buf.len-l2capFcrOverhead,offset := buf.offset+l2capFcrOverhead},readUint16 buf buf.offset)

-- While a poll is outstanding only a frame with the F-bit is processed; a
-- polled S-frame is answered at once. Otherwise the F-bit is ignored.
def checkFinal (ch : Channel) (ctrlWord : Nat) : Channel ⊕ (Channel × Nat) :=
  if ch.fcrb.waitAck then
    if ctrlWord &&& l2capFcrFBit = 0 then
      if ctrlWord &&& l2capFcrPBit ≠ 0 ∧ ctrlWord &&& l2capFcrSFrameBit ≠ 0 then .inl (sendFResponse ch) else .inl ch
    else
      let ctrlWord := if ctrlWord &&& l2capFcrSFrameBit ≠ 0 then ctrlWord &&& (0xFFFF ^^^ l2capFcrPBit) else ctrlWord
      let numTries := if ch.window.waitingForAckQ = [] then 0 else ch.fcrb.numTries
      .inr ({ch with fcrb := {ch.fcrb with waitAck := false,numTries}},ctrlWord)
  else .inr (ch,ctrlWord &&& (0xFFFF ^^^ l2capFcrFBit))

-- One frame of srej_rcv_hold_q, processed without an RR of its own; more
-- frames lost meanwhile turn into a REJ.
def replayHeldFrame (cfg : Config) (ch : Channel) (buf : BtHdr) : Option Channel :=
  let processed := if ch.isOpen then processIFrame cfg ch buf (readUint16 buf (buf.offset-l2capFcrOverhead)) true
    else some ch
  processed.map fun ch =>
    if ch.fcrb.rejAfterSrej then
      l2cFcrSendSFrame {ch with fcrb := {ch.fcrb with rejAfterSrej := false,rejSent := true}} l2capFcrSupRej 0
    else ch

-- The frames held while an SREJ was outstanding, once it has cleared, and
-- one RR for all of them.
def replaySrejHoldQ (cfg : Config) (ch : Channel) : Option Channel :=
  if ch.fcrb.localBusy ∨ ch.fcrb.srejSent ∨ ch.fcrb.srejRcvHoldQ = [] then some ch
  else
    let held := ch.fcrb.srejRcvHoldQ
    (held.foldlM (replayHeldFrame cfg) {ch with fcrb := {ch.fcrb with srejRcvHoldQ := []}}).map fun ch =>
      if !ch.fcrb.localBusy ∧ !ch.fcrb.rejSent ∧ !ch.fcrb.srejSent ∧ ch.fcrb.nextSeqExpected ≠ ch.fcrb.lastAckSent then
        l2cFcrSendSFrame ch l2capFcrSupRr 0
      else ch

-- l2c_fcr_proc_pdu for a channel in ERTM mode. The l2c_link_check_send_pkts
-- at its end is the link asking for buffers, which the send event models.
def l2cFcrProcPdu (cfg : Config) (ch : Channel) (buf : BtHdr) : Option Channel :=
  match receiveFrame cfg buf with
  | none => some ch
  | some (buf,ctrlWord) =>
    match checkFinal ch ctrlWord with
    | .inl ch => some ch
    | .inr (ch,ctrlWord) =>
      let (ch,ok) := processReqseq ch ctrlWord
      if !ok then some ch
      else
        let processed := if ctrlWord &&& l2capFcrSFrameBit ≠ 0 then processSFrame cfg ch ctrlWord
          else processIFrame cfg ch buf ctrlWord false
        processed.bind fun ch => if !ch.isOpen then some ch else replaySrejHoldQ cfg ch

-- l2c_fcr_proc_tout: the monitor or retransmission timer polls the peer,
-- until max_transmit polls went unanswered. num_tries is a uint8_t.
def l2cFcrProcTout (cfg : Config) (ch : Channel) : Channel :=
  let numTries := if cfg.peerMaxTransmit ≠ 0 then (ch.fcrb.numTries + 1) % 256 else ch.fcrb.numTries
  let ch := {ch with fcrb := {ch.fcrb with numTries}}
  if cfg.peerMaxTransmit ≠ 0 ∧ numTries > cfg.peerMaxTransmit then disconnect ch
  else if !ch.fcrb.srejSent ∧ !ch.fcrb.rejSent then l2cFcrSendSFrame ch (receiveReadiness ch.fcrb) l2capFcrPBit
  else ch

def l2cFcrProcAckTout (ch : Channel) : Channel :=
  if ch.isOpen ∧ !ch.fcrb.waitAck ∧ ch.fcrb.lastAckSent ≠ ch.fcrb.nextSeqExpected then
    l2cFcrSendSFrame ch (receiveReadiness ch.fcrb) 0
  else ch

-- l2c_enqueue_peer_data: in ERTM the event field says that segmentation has
-- not started.
def l2cEnqueuePeerData (ch : Channel) (buf : BtHdr) : Channel :=
  {ch with xmitHoldQ := ch.xmitHoldQ ++ [{buf with event := 0}]}

-- The timers are not modelled, so a timeout may come at any time.
inductive Event where
  | send
  | receive (buf : BtHdr)
  | retransTimeout
  | ackTimeout
  | dataWrite (buf : BtHdr)

-- The channel state machine in CST_OPEN; a channel that has left it
-- drops what it receives.
def step (cfg : Config) (ch : Channel) : Event → Option Channel
  | .send => (l2cuGetNextBufferToSend cfg ch).map Prod.fst
  | .receive buf => if ch.isOpen then l2cFcrProcPdu cfg ch buf else some ch
  | .retransTimeout => some (if ch.isOpen then l2cFcrProcTout cfg ch else ch)
  | .ackTimeout => some (l2cFcrProcAckTout ch)
  | .dataWrite buf => some (if ch.isOpen then l2cEnqueuePeerData ch buf else ch)

def Channel.opened : Channel :=
  ⟨⟨0,0,[]⟩,⟨0,0,0,false,false,false,false,false,false,false,[],[],none,0⟩,[],true,[],[]⟩

end BluetoothStack.L2cap
