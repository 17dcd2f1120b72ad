import BluetoothStack.Stream
import BluetoothStack.Lib.Keyed

namespace BluetoothStack.PacketFragmenter

def msgEvtMask : Nat := 0xFF00
def msgSubEvtMask : Nat := 0x00FF
def msgHcToStackHciAcl : Nat := 0x1100
def msgHcToStackL2cSegXmit : Nat := 0x1900
def msgStackToHcHciAcl : Nat := 0x2100
def localBrEdrControllerId : Nat := 0
def hciAclPreambleSize : Nat := 4
def l2capHeaderSize : Nat := 4
def btDefaultBufferSize : Nat := 4096 + 16
def btHdrSize : Nat := 8
def handleMask : Nat := 0x0FFF
def startPacketBoundary : Nat := 2
def pointToPoint : Nat := 0

def applyContinuationFlag (handle : Nat) : Nat := (handle &&& 0xCFFF) ||| 0x1000
def getBoundaryFlag (handle : Nat) : Nat := (handle >>> 12) &&& 0x0003
def getBroadcastFlag (handle : Nat) : Nat := (handle >>> 14) &&& 0x0003

-- An outbound BT_HDR: its 16-bit header fields and the whole buffer behind it;
-- the packet is the `len` bytes from `offset` on.
structure BtHdr where
  event : Nat
  len : Nat
  offset : Nat
  layerSpecific : Nat
  data : List UInt8
deriving DecidableEq, Repr

def BtHdr.bytes (packet : BtHdr) : List UInt8 := Buffer.slice packet.data packet.offset packet.len

-- The two ACL data sizes the controller reported; both are uint16_t.
structure Controller where
  aclDataSizeClassic : Nat
  aclDataSizeBle : Nat
  classicFits : aclDataSizeClassic < 65536
  bleFits : aclDataSizeBle < 65536

-- What fragment_and_dispatch hands to its callbacks, each packet as it stood at
-- the moment of the call.
inductive Dispatched where
  | fragmented (packet : BtHdr) (sendComplete : Bool)
  | transmitFinished (packet : BtHdr) (allSent : Bool)
deriving DecidableEq, Repr

-- The loop need not end for every data size (the uint16 counters wrap), so it
-- runs on fuel.
def fragmentLoop (maxDataSize maxPacketSize continuationHandle : Nat) :
    Nat → BtHdr → Nat → Option (List Dispatched)
  | 0,_,_ => none
  | fuel+1,packet,remainingLength =>
    if remainingLength > maxPacketSize then
      match Buffer.write packet.data (packet.offset+2) (uint16ToStream maxDataSize) with
      | none => none
      | some sized =>
        let sent := {packet with data := sized,len := maxPacketSize}
        let offset := wrap16 (sent.offset+maxDataSize)
        let remaining := wrap16 (remainingLength+65536-maxDataSize)
        let header := uint16ToStream continuationHandle ++ uint16ToStream (remaining+65536-hciAclPreambleSize)
        match Buffer.write sized offset header with
        | none => none
        | some headed =>
          let next := {sent with offset,len := remaining,data := headed}
          if next.layerSpecific ≠ 0 then
            let counted := {next with layerSpecific := next.layerSpecific-1}
            if counted.layerSpecific = 0 then
              some [.fragmented sent false,.transmitFinished {counted with event := msgHcToStackL2cSegXmit} false]
            else (fragmentLoop maxDataSize maxPacketSize continuationHandle fuel counted remaining).map
              (.fragmented sent false :: ·)
          else (fragmentLoop maxDataSize maxPacketSize continuationHandle fuel next remaining).map
            (.fragmented sent false :: ·)
    else some [.fragmented packet true]

-- The BR/EDR size for the local controller, the LE size otherwise.
def maxDataSize (controller : Controller) (packet : BtHdr) : Nat :=
  if packet.event &&& msgSubEvtMask = localBrEdrControllerId then controller.aclDataSizeClassic
  else controller.aclDataSizeBle

def fragmentAndDispatch (controller : Controller) (fuel : Nat) (packet : BtHdr) : Option (List Dispatched) :=
  if packet.event &&& msgEvtMask ≠ msgStackToHcHciAcl then some [.fragmented packet true]
  else
    let maxDataSize := maxDataSize controller packet
    let maxPacketSize := wrap16 (maxDataSize+hciAclPreambleSize)
    let continuationHandle := applyContinuationFlag (streamToUint16 packet.data packet.offset)
    fragmentLoop maxDataSize maxPacketSize continuationHandle fuel packet packet.len

-- A received HCI packet: its event and its bytes from the start of the buffer;
-- packet->len is the number of bytes.
structure InboundPacket where
  event : Nat
  data : List UInt8
deriving DecidableEq, Repr

def InboundPacket.len (packet : InboundPacket) : Nat := packet.data.length

-- A BT_HDR on the receive side whose buffer may hold uninitialised bytes: a
-- cell is none until something has been written to it.
structure HciBuffer where
  event : Nat
  len : Nat
  offset : Nat
  data : List (Option UInt8)
deriving DecidableEq, Repr

def InboundPacket.asBuffer (packet : InboundPacket) : HciBuffer :=
  ⟨packet.event,packet.len,0,packet.data.map some⟩

def checkUint16Overflow (a b : Nat) : Bool := decide ((65535 - a : Int) < b)

-- The per-handle map partial_packets; a handle maps to at most one buffer.
abbrev PartialPackets := Nat → Option HciBuffer

-- The continuation branch on the partial packet of the handle: the copy is
-- truncated to what the partial packet still expects.
def continueAndDispatch (partialPackets : PartialPackets) (handle : Nat) (partialPacket : HciBuffer)
    (packet : InboundPacket) : Option (PartialPackets × List HciBuffer) :=
  let packetOffset := hciAclPreambleSize
  let projectedOffset := wrap16 (partialPacket.offset+(packet.len-hciAclPreambleSize))
  let truncated := decide ((packet.len - packetOffset : Int) > (partialPacket.len - partialPacket.offset : Int))
  let packetLen : Int :=
    if truncated then (partialPacket.len - partialPacket.offset + packetOffset : Int) % 65536 else packet.len
  let projectedOffset := if truncated then partialPacket.len else projectedOffset
  let count := packetLen - packetOffset
  if count < 0 then none
  else
    match Buffer.write partialPacket.data partialPacket.offset
        ((Buffer.slice packet.data packetOffset count.toNat).map some) with
    | none => none
    | some data =>
      let partialPacket := {partialPacket with data,offset := projectedOffset}
      if partialPacket.offset = partialPacket.len then
        some (Function.update partialPackets handle none,[{partialPacket with offset := 0}])
      else some (Function.update partialPackets handle (some partialPacket),[])

-- The start branch once the old partial packet of the handle is gone: deliver a
-- complete packet, or open a buffer of the full L2CAP length.
def startAndDispatch (partialPackets : PartialPackets) (handle : Nat) (packet : InboundPacket) :
    Option (PartialPackets × List HciBuffer) :=
  let l2capLength := streamToUint16 packet.data 4
  let fullLength := wrap16 (l2capLength+l2capHeaderSize+hciAclPreambleSize)
  if checkUint16Overflow l2capLength (l2capHeaderSize+hciAclPreambleSize) ∨
      fullLength + btHdrSize > btDefaultBufferSize then some (partialPackets,[])
  else if fullLength ≤ packet.len then some (partialPackets,[packet.asBuffer])
  else
    match Buffer.write (List.replicate fullLength none) 0 (packet.data.map some) with
    | none => none
    | some copied =>
      match Buffer.write copied 2 ((uint16ToStream (fullLength-hciAclPreambleSize)).map some) with
      | none => none
      | some data =>
        some (Function.update partialPackets handle (some ⟨packet.event,fullLength,packet.len,data⟩),[])

-- reassemble_and_dispatch. No result is the failed CHECK on the ACL length, or
-- a copy that would leave the partial packet's buffer.
def reassembleAndDispatch (partialPackets : PartialPackets) (packet : InboundPacket) :
    Option (PartialPackets × List HciBuffer) :=
  if packet.event &&& msgEvtMask = msgHcToStackHciAcl then
    let rawHandle := streamToUint16 packet.data 0
    let aclLength := streamToUint16 packet.data 2
    if (aclLength : Int) ≠ packet.len - hciAclPreambleSize then none
    else
      let boundaryFlag := getBoundaryFlag rawHandle
      let broadcastFlag := getBroadcastFlag rawHandle
      let handle := rawHandle &&& handleMask
      if broadcastFlag ≠ pointToPoint then some (partialPackets,[])
      else if boundaryFlag = startPacketBoundary then
        if aclLength < 2 then some (partialPackets,[])
        else
          let partialPackets := Function.update partialPackets handle none
          if aclLength < l2capHeaderSize then some (partialPackets,[])
          else startAndDispatch partialPackets handle packet
      else
        match partialPackets handle with
        | none => some (partialPackets,[])
        | some partialPacket => continueAndDispatch partialPackets handle partialPacket packet
  else some (partialPackets,[packet.asBuffer])

theorem testBit_small {value i k : Nat} (small : value < 2^k) (above : k ≤ i) :
    Nat.testBit value i = false :=
  Nat.testBit_eq_false_of_lt (lt_of_lt_of_le small (Nat.pow_le_pow_right (by norm_num) above))

theorem getBoundaryFlag_applyContinuationFlag (handle : Nat) :
    getBoundaryFlag (applyContinuationFlag handle) = 1 := by
  apply Nat.eq_of_testBit_eq
  intro i
  simp only [getBoundaryFlag,applyContinuationFlag,Nat.testBit_and,Nat.testBit_or,Nat.testBit_shiftRight]
  rcases i with _ | _ | i
  · cases handle.testBit 12 <;> decide
  · cases handle.testBit 13 <;> decide
  · simp [testBit_small (show 3 < 2^2 by norm_num) (show 2 ≤ i+2 by omega),
      testBit_small (show 1 < 2^1 by norm_num) (show 1 ≤ i+2 by omega)]

theorem getBroadcastFlag_applyContinuationFlag (handle : Nat) :
    getBroadcastFlag (applyContinuationFlag handle) = getBroadcastFlag handle := by
  apply Nat.eq_of_testBit_eq
  intro i
  simp only [getBroadcastFlag,applyContinuationFlag,Nat.testBit_and,Nat.testBit_or,Nat.testBit_shiftRight]
  rcases i with _ | _ | i
  · cases handle.testBit 14 <;> decide
  · cases handle.testBit 15 <;> decide
  · simp [testBit_small (show 3 < 2^2 by norm_num) (show 2 ≤ i+2 by omega)]

theorem applyContinuationFlag_handle (handle : Nat) :
    applyContinuationFlag handle &&& handleMask = handle &&& handleMask := by
  apply Nat.eq_of_testBit_eq
  intro i
  simp only [applyContinuationFlag,handleMask,Nat.testBit_and,Nat.testBit_or]
  by_cases low : i < 12
  · interval_cases i <;> cases handle.testBit _ <;> decide
  · simp [testBit_small (show 0x0FFF < 2^12 by norm_num) (show 12 ≤ i by omega)]

theorem applyContinuationFlag_lt (handle : Nat) : applyContinuationFlag handle < 65536 := by
  have masked : handle &&& 0xCFFF < 2^16 := lt_of_le_of_lt Nat.and_le_right (by norm_num)
  exact Nat.or_lt_two_pow masked (by norm_num)

theorem handle_lt (handle : Nat) : handle &&& handleMask < 4096 := by
  have masked : handle &&& handleMask ≤ handleMask := Nat.and_le_right
  simp only [handleMask] at masked ⊢
  omega

end BluetoothStack.PacketFragmenter
