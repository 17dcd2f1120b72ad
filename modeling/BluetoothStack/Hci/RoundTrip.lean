import BluetoothStack.Hci.Reassembly
import BluetoothStack.Hci.Fragmentation

namespace BluetoothStack.PacketFragmenter

-- reassemble_and_dispatch seen from one handle: the step on the partial packet
-- of the handle the packet names, the other handles left out.
def reassembleAt (partialPacket : Option HciBuffer) (packet : InboundPacket) :
    Option (Option HciBuffer × List HciBuffer) :=
  (reassembleAndDispatch (fun _ => partialPacket) packet).map fun result => (result.1 (packetHandle packet),result.2)

theorem startAndDispatch_local (partialPackets : PartialPackets) (handle : Nat) (packet : InboundPacket) :
    startAndDispatch (Function.update partialPackets handle none) handle packet =
      (startAndDispatch (fun _ => none) handle packet).map
        fun result => (Function.update partialPackets handle (result.1 handle),result.2) := by
  unfold startAndDispatch
  dsimp only
  split_ifs
  · simp
  · simp
  · split
    · simp
    · split <;> simp

theorem continueAndDispatch_local (partialPackets : PartialPackets) (handle : Nat) (partialPacket : HciBuffer)
    (packet : InboundPacket) :
    continueAndDispatch partialPackets handle partialPacket packet =
      (continueAndDispatch (fun _ => some partialPacket) handle partialPacket packet).map
        fun result => (Function.update partialPackets handle (result.1 handle),result.2) := by
  unfold continueAndDispatch
  dsimp only
  split_ifs <;> (try split) <;> simp

theorem reassemble_lift (partialPackets : PartialPackets) (packet : InboundPacket) :
    reassembleAndDispatch partialPackets packet = Keyed.lift packetHandle reassembleAt partialPackets packet := by
  unfold Keyed.lift reassembleAt
  unfold reassembleAndDispatch
  simp only [packetHandle]
  -- the failed CHECK, a dropped broadcast, the two short start packets, a
  -- start packet, a continuation, and a packet that is not ACL
  split_ifs
  · rfl
  · simp
  · simp
  · simp
  · rw [startAndDispatch_local partialPackets,startAndDispatch_local (fun _ => partialPackets _)]
    cases startAndDispatch (fun _ => none) _ packet <;> simp
  · cases found : partialPackets (streamToUint16 packet.data 0 &&& handleMask) with
    | none => simp [found]
    | some partialPacket =>
      dsimp only
      rw [continueAndDispatch_local partialPackets,continueAndDispatch_local (fun _ => some partialPacket)]
      cases continueAndDispatch (fun _ => some partialPacket) _ partialPacket packet <;> simp
  · simp

def received (fragment : List UInt8) : InboundPacket := ⟨msgHcToStackHciAcl,fragment⟩

-- The frame a handle sends, from its first four payload bytes on.
structure FrameHeader (handle : Nat) (payload : List UInt8) : Prop where
  handleFits : handle < 65536
  start : getBoundaryFlag handle = startPacketBoundary
  pointToPoint : getBroadcastFlag handle = pointToPoint
  l2capLength : streamToUint16 payload 0 + l2capHeaderSize = payload.length
  fitsBuffer : payload.length + hciAclPreambleSize + btHdrSize ≤ btDefaultBufferSize

-- The partial packet of a frame once `done` payload bytes have arrived, and
-- the packet delivered at the end.
def partialFrame (handle : Nat) (payload : List UInt8) (done : Nat) : HciBuffer :=
  ⟨msgHcToStackHciAcl,payload.length+hciAclPreambleSize,done+hciAclPreambleSize,
    (uint16ToStream handle ++ uint16ToStream payload.length ++ payload.take done).map some ++
      List.replicate (payload.length-done) none⟩

def wholeFrame (handle : Nat) (payload : List UInt8) : HciBuffer :=
  ⟨msgHcToStackHciAcl,payload.length+hciAclPreambleSize,0,
    (uint16ToStream handle ++ uint16ToStream payload.length ++ payload).map some⟩

section Frame

variable {handle : Nat} {payload : List UInt8}

theorem received_fields (first second : Nat) (rest : List UInt8) :
    streamToUint16 (received (uint16ToStream first ++ uint16ToStream second ++ rest)).data 0 = first % 65536 ∧
    streamToUint16 (received (uint16ToStream first ++ uint16ToStream second ++ rest)).data 2 = second % 65536 ∧
    streamToUint16 (received (uint16ToStream first ++ uint16ToStream second ++ rest)).data 4 = streamToUint16 rest 0 := by
  simp only [received,List.append_assoc]
  refine ⟨streamToUint16_head _ _,?_,?_⟩
  · rw [streamToUint16_skip,streamToUint16_head]
  · rw [streamToUint16_skip,streamToUint16_skip]

theorem received_consistent {first : Nat} {rest : List UInt8} (fits : rest.length + hciAclPreambleSize < 65536) :
    AclConsistent (received (uint16ToStream first ++ uint16ToStream rest.length ++ rest)) := by
  have field := (received_fields first rest.length rest).2.1
  simp only [hciAclPreambleSize] at fits
  refine ⟨by simp only [received]; decide,by simp [InboundPacket.len,received]; omega,?_⟩
  rw [field]
  simp [InboundPacket.len,received,hciAclPreambleSize]
  omega

theorem reassembleAt_whole (frame : FrameHeader handle payload) (cell : Option HciBuffer) :
    reassembleAt cell (received (uint16ToStream handle ++ uint16ToStream payload.length ++ payload)) =
      some (none,[wholeFrame handle payload]) := by
  have fits := frame.fitsBuffer
  have l2cap := frame.l2capLength
  simp only [hciAclPreambleSize,btHdrSize,btDefaultBufferSize,l2capHeaderSize] at fits l2cap
  obtain ⟨first,second,third⟩ := received_fields handle payload.length payload
  rw [Nat.mod_eq_of_lt frame.handleFits] at first
  rw [Nat.mod_eq_of_lt (by omega)] at second
  unfold reassembleAt
  rw [reassemble_start _ (received_consistent (by simp only [hciAclPreambleSize]; omega))
      (by rw [first]; exact frame.pointToPoint) (by rw [first]; exact frame.start)
      (by rw [second,l2capHeaderSize]; omega),
    start_deliver _ _ (by rw [third,btHdrSize,btDefaultBufferSize]; omega)
      (by rw [third]; simp [InboundPacket.len,received]; omega)]
  simp [wholeFrame,InboundPacket.asBuffer,InboundPacket.len,received,hciAclPreambleSize]
  omega

theorem reassembleAt_first (frame : FrameHeader handle payload) (cell : Option HciBuffer) {count : Nat}
    (atLeast : 4 ≤ count) (shorter : count < payload.length) :
    reassembleAt cell (received (uint16ToStream handle ++ uint16ToStream count ++ payload.take count)) =
      some (some (partialFrame handle payload count),[]) := by
  have fits := frame.fitsBuffer
  have l2cap := frame.l2capLength
  simp only [hciAclPreambleSize,btHdrSize,btDefaultBufferSize,l2capHeaderSize] at fits l2cap
  have taken : (payload.take count).length = count := by simp; omega
  obtain ⟨first,second,third⟩ := received_fields handle (payload.take count).length (payload.take count)
  rw [Nat.mod_eq_of_lt frame.handleFits] at first
  rw [Nat.mod_eq_of_lt (by omega)] at second
  replace second := second.trans taken
  rw [streamToUint16_take _ (by omega)] at third
  rw [show uint16ToStream count = uint16ToStream (payload.take count).length by rw [taken]]
  unfold reassembleAt
  rw [reassemble_start _ (received_consistent (by simp only [hciAclPreambleSize]; omega))
      (by rw [first]; exact frame.pointToPoint) (by rw [first]; exact frame.start)
      (by rw [second,l2capHeaderSize]; omega),
    start_open _ _ (by rw [third,btHdrSize,btDefaultBufferSize]; omega)
      (by simp [InboundPacket.len,received]; omega) (by rw [third]; simp [InboundPacket.len,received]; omega),
    third,show streamToUint16 payload 0 + 4 = payload.length by omega]
  simp only [Option.map_some,Function.update_self,received,InboundPacket.len,taken,List.length_append,
    uint16ToStream_length]
  have fullLength : streamToUint16 payload 0 + 8 = payload.length + hciAclPreambleSize := by
    rw [hciAclPreambleSize]; omega
  have missing : payload.length + hciAclPreambleSize - (2 + 2 + count) = payload.length - count := by
    rw [hciAclPreambleSize]; omega
  have handleField : (uint16ToStream handle ++ uint16ToStream count ++ payload.take count).take 2 =
      uint16ToStream handle := by
    rw [List.append_assoc,List.take_left' (uint16ToStream_length handle)]
  have body : (uint16ToStream handle ++ uint16ToStream count ++ payload.take count).drop 4 = payload.take count :=
    List.drop_left' (by simp)
  rw [fullLength,missing,handleField,body]
  simp only [partialFrame,hciAclPreambleSize,Nat.add_comm]

theorem partialFrame_valid (frame : FrameHeader handle payload) {done : Nat} (atLeast : 4 ≤ done)
    (short : done < payload.length) : PartialValid (partialFrame handle payload done) := by
  have fits := frame.fitsBuffer
  have l2cap := frame.l2capLength
  simp only [hciAclPreambleSize,btHdrSize,btDefaultBufferSize,l2capHeaderSize] at fits l2cap
  refine ⟨by simp [partialFrame,hciAclPreambleSize]; omega,by simp [partialFrame,hciAclPreambleSize]; omega,
    by simp [partialFrame,hciAclPreambleSize,btHdrSize,btDefaultBufferSize]; omega,
    uint16ToStream handle ++ uint16ToStream payload.length ++ payload.take done,
    by simp [partialFrame,hciAclPreambleSize]; omega,?_,?_,?_⟩
  · simp only [partialFrame,hciAclPreambleSize]
    congr 2
    omega
  · rw [List.append_assoc,streamToUint16_skip,streamToUint16_head,Nat.mod_eq_of_lt (by omega)]
    simp [partialFrame,hciAclPreambleSize]
  · rw [List.append_assoc,streamToUint16_skip,streamToUint16_skip,streamToUint16_take _ (by omega)]
    simp only [partialFrame,l2capHeaderSize,hciAclPreambleSize]
    omega

theorem reassembleAt_next (frame : FrameHeader handle payload) (done count : Nat) (atLeast : 4 ≤ done)
    (positive : 0 < count) (within : done + count ≤ payload.length) :
    reassembleAt (some (partialFrame handle payload done))
        (received (uint16ToStream (applyContinuationFlag handle) ++ uint16ToStream count ++
          (payload.drop done).take count)) =
      if done + count = payload.length then some (none,[wholeFrame handle payload])
      else some (some (partialFrame handle payload (done+count)),[]) := by
  have fits := frame.fitsBuffer
  simp only [hciAclPreambleSize,btHdrSize,btDefaultBufferSize] at fits
  have chunkLength : ((payload.drop done).take count).length = count := by simp; omega
  obtain ⟨first,second,third⟩ := received_fields (applyContinuationFlag handle) ((payload.drop done).take count).length
    ((payload.drop done).take count)
  rw [Nat.mod_eq_of_lt (applyContinuationFlag_lt handle)] at first
  have consistent := @received_consistent (applyContinuationFlag handle) ((payload.drop done).take count)
    (by rw [chunkLength,hciAclPreambleSize]; omega)
  rw [show uint16ToStream count = uint16ToStream ((payload.drop done).take count).length by rw [chunkLength]]
  unfold reassembleAt
  rw [reassemble_continue _ consistent (by rw [first,getBroadcastFlag_applyContinuationFlag]; exact frame.pointToPoint)
    (by rw [first,getBoundaryFlag_applyContinuationFlag]; decide)]
  dsimp only
  rw [continueAndDispatch_eq (partialFrame_valid frame atLeast (by omega)) consistent]
  dsimp only
  have minimum : min ((received (uint16ToStream (applyContinuationFlag handle) ++
      uint16ToStream ((payload.drop done).take count).length ++ (payload.drop done).take count)).len -
        hciAclPreambleSize)
      ((partialFrame handle payload done).len - (partialFrame handle payload done).offset) = count := by
    simp [received,InboundPacket.len,partialFrame,hciAclPreambleSize]
    omega
  have sliced : Buffer.slice (received (uint16ToStream (applyContinuationFlag handle) ++
      uint16ToStream ((payload.drop done).take count).length ++ (payload.drop done).take count)).data
      hciAclPreambleSize count = (payload.drop done).take count := by
    rw [Buffer.slice,received,hciAclPreambleSize,List.drop_left' (by simp),List.take_of_length_le chunkLength.le]
  have written := @write_after_written (partialFrame handle payload done)
    (uint16ToStream handle ++ uint16ToStream payload.length ++ payload.take done) ((payload.drop done).take count)
    (by simp [partialFrame,hciAclPreambleSize]; omega) (by simp only [partialFrame,hciAclPreambleSize]; congr 2; omega)
    (by simp [partialFrame,hciAclPreambleSize])
  rw [chunkLength] at written
  have joined : payload.take done ++ (payload.drop done).take count = payload.take (done + count) :=
    (List.take_add ..).symm
  rw [minimum,sliced,written]
  dsimp only
  by_cases complete : done + count = payload.length
  · rw [if_pos (by simp [partialFrame,hciAclPreambleSize]; omega),if_pos complete]
    have whole : payload.take (done + count) = payload := by rw [complete,List.take_length]
    simp [wholeFrame,partialFrame,hciAclPreambleSize,joined,whole]
    omega
  · rw [if_neg (by simp [partialFrame,hciAclPreambleSize]; omega),if_neg complete]
    simp [partialFrame,hciAclPreambleSize,joined]
    omega

-- By induction on what is still to arrive.
theorem run_continuations (frame : FrameHeader handle payload) {maxDataSize : Nat} (positive : 0 < maxDataSize)
    (done : Nat) (atLeast : 4 ≤ done) (short : done < payload.length) :
    Keyed.run reassembleAt (some (partialFrame handle payload done))
        ((aclFragments maxDataSize (applyContinuationFlag handle) (applyContinuationFlag handle)
          (payload.drop done)).map received) =
      some (none,[wholeFrame handle payload]) := by
  generalize left : payload.length - done = remaining
  induction remaining using Nat.strong_induction_on generalizing done with
  | _ remaining ih =>
    by_cases more : maxDataSize < (payload.drop done).length
    · have step := reassembleAt_next frame done maxDataSize atLeast positive (by simp at more; omega)
      rw [if_neg (by simp at more; omega)] at step
      rw [aclFragments_of_lt _ _ positive more,List.map_cons,Keyed.run_cons_some _ step,List.drop_drop,
        ih (payload.length - (done + maxDataSize)) (by simp at more; omega) (done + maxDataSize) (by omega)
          (by simp at more; omega) rfl]
      rfl
    · have step := reassembleAt_next frame done (payload.length - done) atLeast (by omega) (by omega)
      rw [if_pos (by omega),List.take_of_length_le (by simp)] at step
      rw [aclFragments_of_le _ _ (not_lt.mp more),List.map_singleton,List.length_drop,Keyed.run_cons_some _ step]
      rfl

theorem run_frame (frame : FrameHeader handle payload) {maxDataSize : Nat} (atLeast : 4 ≤ maxDataSize)
    (cell : Option HciBuffer) :
    Keyed.run reassembleAt cell ((aclFragments maxDataSize handle (applyContinuationFlag handle) payload).map received) =
      some (none,[wholeFrame handle payload]) := by
  by_cases more : maxDataSize < payload.length
  · rw [aclFragments_of_lt _ _ (by omega) more,List.map_cons,
      Keyed.run_cons_some _ (reassembleAt_first frame cell atLeast more),
      run_continuations frame (by omega) maxDataSize atLeast more]
    rfl
  · rw [aclFragments_of_le _ _ (not_lt.mp more),List.map_singleton,
      Keyed.run_cons_some _ (reassembleAt_whole frame cell)]
    rfl

end Frame

structure L2capFrame (packet : BtHdr) : Prop extends Outbound packet where
  l2capLength : streamToUint16 packet.bytes 4 + l2capHeaderSize = streamToUint16 packet.bytes 2
  start : getBoundaryFlag (streamToUint16 packet.bytes 0) = startPacketBoundary
  pointToPoint : getBroadcastFlag (streamToUint16 packet.bytes 0) = pointToPoint
  fitsBuffer : packet.len + btHdrSize ≤ btDefaultBufferSize

def Dispatched.receivedFragment : Dispatched → Option InboundPacket
  | .fragmented packet _ => some (received packet.bytes)
  | .transmitFinished _ _ => none

def receivedFragments (controller : Controller) (fuel : Nat) (packet : BtHdr) : List InboundPacket :=
  ((fragmentAndDispatch controller fuel packet).getD []).filterMap Dispatched.receivedFragment

def aclHandle (packet : BtHdr) : Nat := streamToUint16 packet.bytes 0 &&& handleMask

def delivered (packet : BtHdr) : HciBuffer := ⟨msgHcToStackHciAcl,packet.len,0,packet.bytes.map some⟩

structure SentFragment (maxDataSize : Nat) (fragment : BtHdr) : Prop where
  inBuffer : fragment.offset + fragment.len ≤ fragment.data.length
  aclLength : streamToUint16 fragment.bytes 2 + hciAclPreambleSize = fragment.len
  bounded : fragment.len ≤ maxDataSize + hciAclPreambleSize

section Packet

variable {packet : BtHdr}

theorem L2capFrame.frameHeader (frame : L2capFrame packet) :
    FrameHeader (streamToUint16 packet.bytes 0) (packet.bytes.drop hciAclPreambleSize) := by
  have whole := BtHdr.bytes_length frame.inBuffer
  have aclField := frame.aclLength
  have l2capField := frame.l2capLength
  have fitsBuffer := frame.fitsBuffer
  simp only [hciAclPreambleSize,l2capHeaderSize,btHdrSize,btDefaultBufferSize] at aclField l2capField fitsBuffer ⊢
  refine ⟨streamToUint16_lt _ _,frame.start,frame.pointToPoint,?_,?_⟩
  · rw [streamToUint16_drop,l2capHeaderSize]
    simp
    omega
  · simp [hciAclPreambleSize,btHdrSize,btDefaultBufferSize]
    omega

theorem wholeFrame_delivered (frame : L2capFrame packet) :
    wholeFrame (streamToUint16 packet.bytes 0) (packet.bytes.drop hciAclPreambleSize) = delivered packet := by
  have whole := BtHdr.bytes_length frame.inBuffer
  have aclField := frame.aclLength
  simp only [hciAclPreambleSize] at aclField
  have payloadLength : (packet.bytes.drop 4).length = streamToUint16 packet.bytes 2 := by simp; omega
  simp only [wholeFrame,delivered,hciAclPreambleSize,payloadLength,
    uint16ToStream_fields (show 4 ≤ packet.bytes.length by omega)]
  congr 1

theorem sentAsFragments_received (sent : List BtHdr) :
    (sentAsFragments sent).filterMap Dispatched.receivedFragment = sent.map (received ∘ BtHdr.bytes) := by
  induction sent with
  | nil => rfl
  | cons fragment rest ih =>
    cases rest with
    | nil => rfl
    | cons next rest =>
      rw [sentAsFragments_cons fragment (List.cons_ne_nil next rest),List.filterMap_cons,ih]
      rfl

section Sizes

variable (controller : Controller) {fuel : Nat} (frame : L2capFrame packet)
  (atLeast : 4 ≤ maxDataSize controller packet) (fits : maxDataSize controller packet + hciAclPreambleSize < 65536)
  (enough : packet.len ≤ fuel)
include frame atLeast fits enough

theorem fragments_wellFormed :
    ∃ sent, fragmentAndDispatch controller fuel packet = some (sentAsFragments sent) ∧
      (∀ fragment ∈ sent, SentFragment (maxDataSize controller packet) fragment) ∧
      sent.map (fun fragment => getBoundaryFlag (streamToUint16 fragment.bytes 0)) =
        startPacketBoundary :: List.replicate (sent.length - 1) 1 := by
  obtain ⟨sent,dispatched,bytes,inBuffer⟩ := fragmentAndDispatch_sends controller frame.toOutbound atLeast fits enough
  have small : (packet.bytes.drop hciAclPreambleSize).length < 65536 := by
    have whole := BtHdr.bytes_length frame.inBuffer
    have noWrap := frame.noWrap
    simp
    omega
  refine ⟨sent,dispatched,?_,?_⟩
  · intro fragment member
    have fragmentLength := BtHdr.bytes_length (inBuffer fragment member)
    have spec := aclFragments_lengths (show 0 < maxDataSize controller packet by omega) _ _ _ small fragment.bytes
      (by rw [← bytes]; exact List.mem_map_of_mem member)
    rw [fragmentLength] at spec
    exact ⟨inBuffer fragment member,spec.1,spec.2⟩
  · have handles := aclFragments_handles (maxDataSize controller packet) (streamToUint16 packet.bytes 0)
      (applyContinuationFlag (streamToUint16 packet.bytes 0)) (packet.bytes.drop hciAclPreambleSize)
    rw [← bytes,List.map_map,List.length_map] at handles
    rw [show (fun fragment => getBoundaryFlag (streamToUint16 fragment.bytes 0)) =
        getBoundaryFlag ∘ (fun bytes => streamToUint16 bytes 0) ∘ BtHdr.bytes from rfl,← List.map_map,handles,
      List.map_cons,List.map_replicate,Nat.mod_eq_of_lt (streamToUint16_lt _ _),
      Nat.mod_eq_of_lt (applyContinuationFlag_lt _),frame.start,getBoundaryFlag_applyContinuationFlag]

theorem reassemble_fragments (cell : Option HciBuffer) :
    Keyed.run reassembleAt cell (receivedFragments controller fuel packet) = some (none,[delivered packet]) := by
  obtain ⟨sent,dispatched,bytes,-⟩ := fragmentAndDispatch_sends controller frame.toOutbound atLeast fits enough
  rw [receivedFragments,dispatched,Option.getD_some,sentAsFragments_received,← List.map_map,bytes,
    run_frame frame.frameHeader atLeast cell,wholeFrame_delivered frame]

theorem fragments_handle : ∀ fragment ∈ receivedFragments controller fuel packet,
    packetHandle fragment = aclHandle packet := by
  obtain ⟨sent,dispatched,bytes,-⟩ := fragmentAndDispatch_sends controller frame.toOutbound atLeast fits enough
  have handles := aclFragments_handles (maxDataSize controller packet) (streamToUint16 packet.bytes 0)
    (applyContinuationFlag (streamToUint16 packet.bytes 0)) (packet.bytes.drop hciAclPreambleSize)
  intro fragment member
  rw [receivedFragments,dispatched,Option.getD_some,sentAsFragments_received,← List.map_map,bytes] at member
  obtain ⟨bytes',listed,rfl⟩ := List.mem_map.mp member
  have field : streamToUint16 bytes' 0 ∈ (aclFragments (maxDataSize controller packet) (streamToUint16 packet.bytes 0)
      (applyContinuationFlag (streamToUint16 packet.bytes 0)) (packet.bytes.drop hciAclPreambleSize)).map
        (streamToUint16 · 0) := List.mem_map_of_mem listed
  rw [handles,List.mem_cons,List.mem_replicate,Nat.mod_eq_of_lt (streamToUint16_lt _ _),
    Nat.mod_eq_of_lt (applyContinuationFlag_lt _)] at field
  simp only [packetHandle,aclHandle,received]
  rcases field with first | ⟨-,later⟩
  · rw [first]
  · rw [later,applyContinuationFlag_handle]

end Sizes

end Packet

theorem fragments_reassemble (controller : Controller) (fuel : Nat) (packets : List BtHdr)
    (frames : ∀ packet ∈ packets, L2capFrame packet ∧ 4 ≤ maxDataSize controller packet ∧
      maxDataSize controller packet + hciAclPreambleSize < 65536 ∧ packet.len ≤ fuel)
    (distinct : (packets.map aclHandle).Nodup) (feed : List InboundPacket)
    (interleaved : ∀ packet ∈ packets,
      feed.filter (packetHandle · = aclHandle packet) = receivedFragments controller fuel packet)
    (onlyThese : ∀ fragment ∈ feed, packetHandle fragment ∈ packets.map aclHandle)
    (partialPackets : PartialPackets) :
    (∀ packet ∈ packets, ∃ sent, fragmentAndDispatch controller fuel packet = some (sentAsFragments sent) ∧
      (∀ fragment ∈ sent, SentFragment (maxDataSize controller packet) fragment) ∧
      sent.map (fun fragment => getBoundaryFlag (streamToUint16 fragment.bytes 0)) =
        startPacketBoundary :: List.replicate (sent.length - 1) 1) ∧
    ∃ final out, Keyed.run reassembleAndDispatch partialPackets feed = some (final,out) ∧
      List.Perm out (packets.map delivered) ∧ ∀ packet ∈ packets, final (aclHandle packet) = none := by
  refine ⟨fun packet member => ?_,?_⟩
  · obtain ⟨frame,atLeast,fits,enough⟩ := frames packet member
    exact fragments_wellFormed controller frame atLeast fits enough
  -- each handle's fragments, on their own, deliver that handle's packet
  have perPacket : ∀ packet ∈ packets, Keyed.run reassembleAt (partialPackets (aclHandle packet))
      (feed.filter (packetHandle · = aclHandle packet)) = some (none,[delivered packet]) := by
    intro packet member
    obtain ⟨frame,atLeast,fits,enough⟩ := frames packet member
    rw [interleaved packet member]
    exact reassemble_fragments controller frame atLeast fits enough _
  let runOf := fun handle =>
    (Keyed.run reassembleAt (partialPackets handle) (feed.filter (packetHandle · = handle))).getD (none,[])
  have perKey : ∀ handle ∈ packets.map aclHandle, Keyed.run reassembleAt (partialPackets handle)
      (feed.filter (packetHandle · = handle)) = some ((runOf handle).1,(runOf handle).2) := by
    intro handle member
    obtain ⟨packet,listed,rfl⟩ := List.mem_map.mp member
    simp only [runOf,perPacket packet listed]
    rfl
  -- the reassembler touches only the handle a fragment names, so the handles separate
  have lifted : reassembleAndDispatch = Keyed.lift packetHandle reassembleAt :=
    funext fun partialPackets => funext (reassemble_lift partialPackets)
  obtain ⟨final,out,ran,finals,perm⟩ := Keyed.run_lift_of_cells _ distinct onlyThese perKey
  have outs : (packets.map aclHandle).flatMap (fun handle => (runOf handle).2) = packets.map delivered := by
    rw [List.flatMap_map,List.map_eq_flatMap]
    apply List.flatMap_congr
    intro packet listed
    simp only [runOf,perPacket packet listed]
    rfl
  refine ⟨final,out,by rw [lifted]; exact ran,outs ▸ perm,fun packet listed => ?_⟩
  rw [finals _ (List.mem_map_of_mem listed)]
  simp only [runOf,perPacket packet listed]
  rfl

-- Two frames on handles 1 and 2, cut at a data size of 4 and received
-- interleaved.
def sampleController : Controller := ⟨4,4,by decide,by decide⟩

def sampleFrame : BtHdr := ⟨msgStackToHcHciAcl,10,0,0,[0x01,0x20,0x06,0x00,0x02,0x00,0x40,0x00,0xAA,0xBB]⟩

def samplePackets : List BtHdr :=
  [sampleFrame,⟨msgStackToHcHciAcl,9,0,0,[0x02,0x20,0x05,0x00,0x01,0x00,0x40,0x00,0xCC]⟩]

def sampleFeed : List InboundPacket :=
  [received [0x01,0x20,0x04,0x00,0x02,0x00,0x40,0x00],received [0x02,0x20,0x04,0x00,0x01,0x00,0x40,0x00],
    received [0x02,0x10,0x01,0x00,0xCC],received [0x01,0x10,0x02,0x00,0xAA,0xBB]]

theorem fragments_reassemble_interleaved :
    (∀ packet ∈ samplePackets, L2capFrame packet ∧ 4 ≤ maxDataSize sampleController packet ∧
      maxDataSize sampleController packet + hciAclPreambleSize < 65536 ∧ packet.len ≤ 10) ∧
    (samplePackets.map aclHandle).Nodup ∧
    (∀ packet ∈ samplePackets,
      sampleFeed.filter (packetHandle · = aclHandle packet) = receivedFragments sampleController 10 packet) ∧
    (∀ fragment ∈ sampleFeed, packetHandle fragment ∈ samplePackets.map aclHandle) ∧
    (∀ packet ∈ samplePackets, ∃ sent, fragmentAndDispatch sampleController 10 packet = some (sentAsFragments sent) ∧
      (∀ fragment ∈ sent, SentFragment (maxDataSize sampleController packet) fragment) ∧
      sent.map (fun fragment => getBoundaryFlag (streamToUint16 fragment.bytes 0)) =
        startPacketBoundary :: List.replicate (sent.length - 1) 1) ∧
    ∃ final out, Keyed.run reassembleAndDispatch (fun _ => none) sampleFeed = some (final,out) ∧
      List.Perm out (samplePackets.map delivered) ∧ ∀ packet ∈ samplePackets, final (aclHandle packet) = none := by
  have frames : ∀ packet ∈ samplePackets, L2capFrame packet ∧ 4 ≤ maxDataSize sampleController packet ∧
      maxDataSize sampleController packet + hciAclPreambleSize < 65536 ∧ packet.len ≤ 10 := by
    intro packet member
    simp only [samplePackets,List.mem_cons,List.not_mem_nil,or_false] at member
    rcases member with rfl | rfl <;>
      exact ⟨⟨⟨by decide,by decide,by decide,by decide,rfl⟩,by decide,by decide,by decide,by decide⟩,
        by decide,by decide,by decide⟩
  have distinct : (samplePackets.map aclHandle).Nodup := by decide
  have interleaved : ∀ packet ∈ samplePackets,
      sampleFeed.filter (packetHandle · = aclHandle packet) = receivedFragments sampleController 10 packet := by
    decide
  have onlyThese : ∀ fragment ∈ sampleFeed, packetHandle fragment ∈ samplePackets.map aclHandle := by decide
  exact ⟨frames,distinct,interleaved,onlyThese,
    fragments_reassemble sampleController 10 samplePackets frames distinct sampleFeed interleaved onlyThese _⟩

-- A start frame whose handle field also carries a broadcast flag, and a
-- controller that reports the largest data size a uint16_t holds.
def broadcastFrame : BtHdr :=
  ⟨msgStackToHcHciAcl,10,0,0,[0x01,0x60,0x06,0x00,0x02,0x00,0x40,0x00,0xAA,0xBB]⟩

def widestController : Controller := ⟨65535,65535,by decide,by decide⟩

-- The broadcast frame's fragments are all dropped; with a data size of 65535 the
-- packet size wraps to 3 and the next header is written outside the buffer.
theorem fragments_reassemble_unrestricted :
    (∀ packet ∈ [broadcastFrame,sampleFrame],
      packet.event &&& msgEvtMask = msgStackToHcHciAcl ∧ packet.offset + packet.len ≤ packet.data.length ∧
      streamToUint16 packet.bytes 2 + hciAclPreambleSize = packet.len ∧
      streamToUint16 packet.bytes 4 + l2capHeaderSize = streamToUint16 packet.bytes 2 ∧
      getBoundaryFlag (streamToUint16 packet.bytes 0) = startPacketBoundary ∧
      packet.len + btHdrSize ≤ btDefaultBufferSize ∧ packet.layerSpecific = 0) ∧
    4 ≤ maxDataSize sampleController broadcastFrame ∧
    receivedFragments sampleController 10 broadcastFrame ≠ [] ∧
    (Keyed.run reassembleAndDispatch (fun _ => none) (receivedFragments sampleController 10 broadcastFrame)).map
      Prod.snd = some [] ∧
    4 ≤ maxDataSize widestController sampleFrame ∧
    fragmentAndDispatch widestController 10 sampleFrame = none := by
  decide

end BluetoothStack.PacketFragmenter
