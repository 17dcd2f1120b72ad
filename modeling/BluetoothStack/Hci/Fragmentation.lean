import BluetoothStack.Hci.PacketFragmenter

namespace BluetoothStack.PacketFragmenter

-- What fragmenting is for: the payload cut into pieces of at most maxDataSize
-- bytes, the first behind the frame's handle, the rest the continuation handle.
def aclFragments (maxDataSize handle continuation : Nat) (payload : List UInt8) : List (List UInt8) :=
  if 0 < maxDataSize ∧ maxDataSize < payload.length then
    (uint16ToStream handle ++ uint16ToStream maxDataSize ++ payload.take maxDataSize) ::
      aclFragments maxDataSize continuation continuation (payload.drop maxDataSize)
  else [uint16ToStream handle ++ uint16ToStream payload.length ++ payload]
termination_by payload.length
decreasing_by simp; omega

theorem aclFragments_of_lt {maxDataSize : Nat} (handle continuation : Nat) {payload : List UInt8}
    (positive : 0 < maxDataSize) (longer : maxDataSize < payload.length) :
    aclFragments maxDataSize handle continuation payload =
      (uint16ToStream handle ++ uint16ToStream maxDataSize ++ payload.take maxDataSize) ::
        aclFragments maxDataSize continuation continuation (payload.drop maxDataSize) := by
  rw [aclFragments,if_pos ⟨positive,longer⟩]

theorem aclFragments_of_le {maxDataSize : Nat} (handle continuation : Nat) {payload : List UInt8}
    (within : payload.length ≤ maxDataSize) :
    aclFragments maxDataSize handle continuation payload =
      [uint16ToStream handle ++ uint16ToStream payload.length ++ payload] := by
  rw [aclFragments,if_neg (by omega)]

theorem aclFragments_ne_nil (maxDataSize handle continuation : Nat) (payload : List UInt8) :
    aclFragments maxDataSize handle continuation payload ≠ [] := by
  rw [aclFragments]
  split <;> simp

theorem aclFragments_lengths {maxDataSize : Nat} (positive : 0 < maxDataSize) (handle continuation : Nat)
    (payload : List UInt8) (small : payload.length < 65536) :
    ∀ fragment ∈ aclFragments maxDataSize handle continuation payload,
      streamToUint16 fragment 2 + hciAclPreambleSize = fragment.length ∧
        fragment.length ≤ maxDataSize + hciAclPreambleSize := by
  induction handle,payload using aclFragments.induct maxDataSize continuation with
  | case1 handle payload longer rest =>
    intro fragment member
    rw [aclFragments_of_lt _ _ positive longer.2] at member
    rcases List.mem_cons.mp member with rfl | later
    · rw [List.append_assoc,streamToUint16_skip,streamToUint16_head,Nat.mod_eq_of_lt (by omega)]
      simp [hciAclPreambleSize]
      omega
    · exact rest (by simp; omega) fragment later
  | case2 handle payload within =>
    intro fragment member
    rw [aclFragments_of_le _ _ (by omega),List.mem_singleton] at member
    subst member
    rw [List.append_assoc,streamToUint16_skip,streamToUint16_head,Nat.mod_eq_of_lt small]
    simp [hciAclPreambleSize]
    omega

theorem aclFragments_handles (maxDataSize handle continuation : Nat) (payload : List UInt8) :
    (aclFragments maxDataSize handle continuation payload).map (streamToUint16 · 0) =
      handle % 65536 ::
        List.replicate ((aclFragments maxDataSize handle continuation payload).length - 1) (continuation % 65536) := by
  induction handle,payload using aclFragments.induct maxDataSize continuation with
  | case1 handle payload longer rest =>
    obtain ⟨count,sized⟩ : ∃ count,
        (aclFragments maxDataSize continuation continuation (payload.drop maxDataSize)).length = count + 1 :=
      ⟨_,(Nat.succ_pred_eq_of_pos (List.length_pos_iff.mpr (aclFragments_ne_nil _ _ _ _))).symm⟩
    rw [aclFragments_of_lt _ _ longer.1 longer.2,List.map_cons,rest,List.append_assoc,streamToUint16_head]
    simp only [List.length_cons,Nat.add_sub_cancel,sized,List.replicate_succ]
  | case2 handle payload within =>
    rw [aclFragments,if_neg within]
    simp [List.append_assoc,streamToUint16_head]

-- The callbacks of a fragmentation that sent these packets in this order:
-- every packet but the last is reported as not yet complete.
def sentAsFragments : List BtHdr → List Dispatched
  | [] => []
  | [packet] => [.fragmented packet true]
  | packet :: rest => .fragmented packet false :: sentAsFragments rest

theorem sentAsFragments_cons (packet : BtHdr) {rest : List BtHdr} (more : rest ≠ []) :
    sentAsFragments (packet :: rest) = .fragmented packet false :: sentAsFragments rest := by
  cases rest with
  | nil => contradiction
  | cons next rest => rfl

-- The loop's view of the packet: at its offset the buffer holds the header of
-- the next fragment and the payload still to send.
structure Pending (packet : BtHdr) (handle : Nat) (payload : List UInt8) : Prop where
  framed : ∃ front back : List UInt8, front.length = packet.offset ∧
    packet.data = front ++ (uint16ToStream handle ++ uint16ToStream payload.length ++ payload) ++ back
  len : packet.len = payload.length + hciAclPreambleSize
  unlimited : packet.layerSpecific = 0
  noWrap : packet.offset + packet.len < 65536

theorem Pending.bytes {packet : BtHdr} {handle : Nat} {payload : List UInt8} (pending : Pending packet handle payload) :
    packet.bytes = uint16ToStream handle ++ uint16ToStream payload.length ++ payload := by
  obtain ⟨front,back,frontLength,data⟩ := pending.framed
  rw [BtHdr.bytes,data,← frontLength,Buffer.slice_middle _ _ _ (by simp [pending.len,hciAclPreambleSize]; omega),
    List.take_of_length_le (by simp [pending.len,hciAclPreambleSize]; omega)]

theorem Pending.inBuffer {packet : BtHdr} {handle : Nat} {payload : List UInt8} (pending : Pending packet handle payload) :
    packet.offset + packet.len ≤ packet.data.length := by
  obtain ⟨front,back,frontLength,data⟩ := pending.framed
  rw [data,pending.len]
  simp [frontLength,hciAclPreambleSize]
  omega

-- The next header overwrites the four payload bytes before what is still to send.
theorem fragment_step {packet : BtHdr} {handle continuation maxDataSize : Nat} {payload : List UInt8}
    (pending : Pending packet handle payload) (atLeast : 4 ≤ maxDataSize) (longer : maxDataSize < payload.length) :
    ∃ sized headed, Buffer.write packet.data (packet.offset+2) (uint16ToStream maxDataSize) = some sized ∧
      Buffer.write sized (wrap16 (packet.offset+maxDataSize))
        (uint16ToStream continuation ++
          uint16ToStream (wrap16 (packet.len+65536-maxDataSize)+65536-hciAclPreambleSize)) = some headed ∧
      BtHdr.bytes {packet with data := sized,len := maxDataSize+hciAclPreambleSize} =
        uint16ToStream handle ++ uint16ToStream maxDataSize ++ payload.take maxDataSize ∧
      Pending {packet with data := headed,offset := wrap16 (packet.offset+maxDataSize),len := wrap16 (packet.len+65536-maxDataSize)}
        continuation (payload.drop maxDataSize) := by
  obtain ⟨front,back,frontLength,data⟩ := pending.framed
  have len := pending.len
  have noWrap := pending.noWrap
  simp only [hciAclPreambleSize] at len ⊢
  have offset : wrap16 (packet.offset+maxDataSize) = packet.offset + maxDataSize := by
    simp only [wrap16]; omega
  have remaining : wrap16 (packet.len+65536-maxDataSize) = (payload.drop maxDataSize).length + 4 := by
    simp only [wrap16,List.length_drop]; omega
  have lengthField : uint16ToStream ((payload.drop maxDataSize).length + 4 + 65536 - 4) =
      uint16ToStream (payload.drop maxDataSize).length := by
    rw [show (payload.drop maxDataSize).length + 4 + 65536 - 4 = (payload.drop maxDataSize).length + 65536 by omega,
      uint16ToStream_add]
  -- the ACL length field sits two bytes into the fragment
  have resized : Buffer.write (uint16ToStream handle ++ uint16ToStream payload.length ++ payload) 2
      (uint16ToStream maxDataSize) = some (uint16ToStream handle ++ uint16ToStream maxDataSize ++ payload) :=
    Buffer.write_replace (uint16ToStream handle) _ payload rfl
  have sized := @Buffer.write_middle _ front (uint16ToStream handle ++ uint16ToStream payload.length ++ payload) back
    2 (uint16ToStream maxDataSize) (by simp; omega)
  rw [resized,Option.map_some] at sized
  -- the payload split around the four bytes the next header overwrites
  have split : payload = payload.take (maxDataSize-4) ++ (payload.drop (maxDataSize-4)).take 4 ++
      payload.drop maxDataSize := by
    conv_lhs => rw [← List.take_append_drop (maxDataSize-4) payload,
      ← List.take_append_drop 4 (payload.drop (maxDataSize-4))]
    rw [List.drop_drop,show maxDataSize - 4 + 4 = maxDataSize by omega,List.append_assoc]
  have sent : front ++ (uint16ToStream handle ++ uint16ToStream maxDataSize ++ payload) ++ back =
      (front ++ (uint16ToStream handle ++ uint16ToStream maxDataSize ++ payload.take (maxDataSize-4))) ++
        (payload.drop (maxDataSize-4)).take 4 ++ (payload.drop maxDataSize ++ back) := by
    conv_lhs => rw [split]
    simp only [List.append_assoc]
  have sentLength : (front ++ (uint16ToStream handle ++ uint16ToStream maxDataSize ++
      payload.take (maxDataSize-4))).length = packet.offset + maxDataSize := by
    simp; omega
  have headed := @Buffer.write_replace _
    (front ++ (uint16ToStream handle ++ uint16ToStream maxDataSize ++ payload.take (maxDataSize-4)))
    ((payload.drop (maxDataSize-4)).take 4) (payload.drop maxDataSize ++ back)
    (uint16ToStream continuation ++ uint16ToStream (payload.drop maxDataSize).length) (by simp; omega)
  rw [sentLength] at headed
  refine ⟨_,_,by rw [data,← frontLength,sized],by rw [offset,remaining,lengthField,sent,headed],?_,
    ⟨⟨_,back,sentLength.trans offset.symm,by simp only [List.append_assoc]⟩,by simp only [remaining,hciAclPreambleSize],
      pending.unlimited,by simp only [offset,remaining,List.length_drop]; omega⟩⟩
  rw [BtHdr.bytes]
  dsimp only
  rw [← frontLength,Buffer.slice_middle _ _ _ (by simp; omega)]
  simp only [List.take_append,List.append_assoc,uint16ToStream_length]
  rw [List.take_of_length_le (by simp),List.take_of_length_le (by simp),
    show maxDataSize + 4 - 2 - 2 = maxDataSize by omega]

-- By induction on the fuel.
theorem fragmentLoop_sends {maxDataSize continuation : Nat} (atLeast : 4 ≤ maxDataSize)
    (fits : maxDataSize + hciAclPreambleSize < 65536) (fuel : Nat) :
    ∀ {packet : BtHdr} {handle : Nat} {payload : List UInt8}, Pending packet handle payload → payload.length < fuel →
      ∃ sent, fragmentLoop maxDataSize (wrap16 (maxDataSize+hciAclPreambleSize)) continuation fuel packet packet.len =
          some (sentAsFragments sent) ∧
        sent.map BtHdr.bytes = aclFragments maxDataSize handle continuation payload ∧
        ∀ fragment ∈ sent, fragment.offset + fragment.len ≤ fragment.data.length := by
  have maxPacketSize : wrap16 (maxDataSize+hciAclPreambleSize) = maxDataSize + hciAclPreambleSize :=
    Nat.mod_eq_of_lt fits
  induction fuel with
  | zero =>
    intro packet handle payload _ enough
    cases enough
  | succ fuel ih =>
    intro packet handle payload pending enough
    have len := pending.len
    rw [fragmentLoop,maxPacketSize]
    by_cases longer : maxDataSize < payload.length
    · obtain ⟨sized,headed,sizedEq,headedEq,sentBytes,next⟩ :=
        @fragment_step packet handle continuation maxDataSize payload pending atLeast longer
      obtain ⟨sent,ran,bytes,inBuffer⟩ := ih next (by simp; omega)
      simp only [maxPacketSize] at ran
      rw [if_pos (by rw [len]; omega)]
      simp only [sizedEq,headedEq]
      rw [if_neg (by simp [pending.unlimited]),ran]
      refine ⟨{packet with data := sized,len := maxDataSize+hciAclPreambleSize} :: sent,?_,?_,?_⟩
      · rw [sentAsFragments_cons _ (fun empty => aclFragments_ne_nil maxDataSize _ _ _ (by rw [← bytes,empty]; rfl))]
        rfl
      · rw [List.map_cons,bytes,sentBytes,aclFragments_of_lt _ _ (by omega) longer]
      · intro fragment member
        rcases List.mem_cons.mp member with rfl | later
        · have sizedLength := Buffer.write_length sizedEq
          have inside := pending.inBuffer
          dsimp only
          omega
        · exact inBuffer fragment later
    · rw [if_neg (by rw [len]; omega)]
      refine ⟨[packet],rfl,?_,?_⟩
      · rw [List.map_singleton,pending.bytes,aclFragments_of_le _ _ (by omega)]
      · intro fragment member
        rw [List.mem_singleton.mp member]
        exact pending.inBuffer

theorem BtHdr.bytes_length {packet : BtHdr} (inBuffer : packet.offset + packet.len ≤ packet.data.length) :
    packet.bytes.length = packet.len := by
  simp only [BtHdr.bytes,Buffer.slice_length]
  omega

theorem BtHdr.streamToUint16_bytes {packet : BtHdr} {pos : Nat} (inside : pos + 2 ≤ packet.len) :
    streamToUint16 packet.bytes pos = streamToUint16 packet.data (packet.offset + pos) := by
  rw [BtHdr.bytes,Buffer.slice,streamToUint16_take _ inside,streamToUint16_drop]

theorem BtHdr.data_split (packet : BtHdr) :
    packet.data = packet.data.take packet.offset ++ packet.bytes ++ packet.data.drop (packet.offset + packet.len) := by
  rw [BtHdr.bytes,Buffer.slice,List.append_assoc,← List.drop_drop,List.take_append_drop,List.take_append_drop]

-- An outbound ACL packet as fragment_and_dispatch expects it; L2CAP set no
-- segment limit.
structure Outbound (packet : BtHdr) : Prop where
  acl : packet.event &&& msgEvtMask = msgStackToHcHciAcl
  inBuffer : packet.offset + packet.len ≤ packet.data.length
  noWrap : packet.offset + packet.len < 65536
  aclLength : streamToUint16 packet.bytes 2 + hciAclPreambleSize = packet.len
  unlimited : packet.layerSpecific = 0

theorem Outbound.pending {packet : BtHdr} (outbound : Outbound packet) :
    Pending packet (streamToUint16 packet.bytes 0) (packet.bytes.drop hciAclPreambleSize) := by
  have inBuffer := outbound.inBuffer
  have whole := BtHdr.bytes_length inBuffer
  have field := outbound.aclLength
  simp only [hciAclPreambleSize] at field ⊢
  have payloadLength : (packet.bytes.drop 4).length = streamToUint16 packet.bytes 2 := by simp; omega
  refine ⟨⟨packet.data.take packet.offset,packet.data.drop (packet.offset + packet.len),by simp; omega,?_⟩,
    by simp [whole,hciAclPreambleSize]; omega,outbound.unlimited,outbound.noWrap⟩
  rw [payloadLength,uint16ToStream_fields (by omega)]
  exact packet.data_split

theorem fragmentAndDispatch_sends (controller : Controller) {fuel : Nat} {packet : BtHdr} (outbound : Outbound packet)
    (atLeast : 4 ≤ maxDataSize controller packet)
    (fits : maxDataSize controller packet + hciAclPreambleSize < 65536) (enough : packet.len ≤ fuel) :
    ∃ sent, fragmentAndDispatch controller fuel packet = some (sentAsFragments sent) ∧
      sent.map BtHdr.bytes = aclFragments (maxDataSize controller packet) (streamToUint16 packet.bytes 0)
        (applyContinuationFlag (streamToUint16 packet.bytes 0)) (packet.bytes.drop hciAclPreambleSize) ∧
      ∀ fragment ∈ sent, fragment.offset + fragment.len ≤ fragment.data.length := by
  have whole := BtHdr.bytes_length outbound.inBuffer
  have field := outbound.aclLength
  simp only [hciAclPreambleSize] at field
  have handleField : streamToUint16 packet.bytes 0 = streamToUint16 packet.data packet.offset :=
    BtHdr.streamToUint16_bytes (by omega)
  rw [fragmentAndDispatch,if_neg (not_not.mpr outbound.acl)]
  dsimp only
  rw [← handleField]
  exact fragmentLoop_sends atLeast fits fuel outbound.pending (by simp [whole,hciAclPreambleSize]; omega)

end BluetoothStack.PacketFragmenter
