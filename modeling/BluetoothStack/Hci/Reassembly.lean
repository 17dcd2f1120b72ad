import BluetoothStack.Hci.PacketFragmenter

namespace BluetoothStack.PacketFragmenter

-- An inbound ACL packet whose ACL length field agrees with its length, so the
-- CHECK at the top of reassemble_and_dispatch holds; packet->len is a uint16_t.
structure AclConsistent (packet : InboundPacket) : Prop where
  acl : packet.event &&& msgEvtMask = msgHcToStackHciAcl
  fits : packet.len < 65536
  aclLength : (streamToUint16 packet.data 2 : Int) = packet.len - hciAclPreambleSize

-- A partial packet: the first offset cells written, its ACL length field
-- rewritten to the full length, which its L2CAP length field fixes.
structure PartialValid (partialPacket : HciBuffer) : Prop where
  offsetLt : partialPacket.offset < partialPacket.len
  headerCopied : 8 ≤ partialPacket.offset
  fitsBuffer : partialPacket.len + btHdrSize ≤ btDefaultBufferSize
  written : ∃ bytes : List UInt8, bytes.length = partialPacket.offset ∧
    partialPacket.data = bytes.map some ++ List.replicate (partialPacket.len-partialPacket.offset) none ∧
    streamToUint16 bytes 2 = partialPacket.len-hciAclPreambleSize ∧
    streamToUint16 bytes 4 + l2capHeaderSize + hciAclPreambleSize = partialPacket.len

def ReassemblerValid (partialPackets : PartialPackets) : Prop :=
  ∀ handle partialPacket, partialPackets handle = some partialPacket → handle < 4096 ∧ PartialValid partialPacket

-- A delivered packet is written in full and its ACL length field matches.
structure Complete (delivered : HciBuffer) : Prop where
  atStart : delivered.offset = 0
  filled : ∃ bytes : List UInt8, bytes.length = delivered.len ∧ delivered.data = bytes.map some ∧
    streamToUint16 bytes 2 = delivered.len-hciAclPreambleSize

theorem reassemblerValid_empty : ReassemblerValid fun _ => none := by
  intro handle partialPacket found
  cases found

theorem reassemblerValid_erase {partialPackets : PartialPackets} (valid : ReassemblerValid partialPackets)
    (handle : Nat) : ReassemblerValid (Function.update partialPackets handle none) := by
  intro other partialPacket found
  by_cases same : other = handle
  · subst same
    simp at found
  · rw [Function.update_of_ne same] at found
    exact valid other partialPacket found

theorem reassemblerValid_insert {partialPackets : PartialPackets} (valid : ReassemblerValid partialPackets)
    {handle : Nat} {partialPacket : HciBuffer} (small : handle < 4096) (partialValid : PartialValid partialPacket) :
    ReassemblerValid (Function.update partialPackets handle (some partialPacket)) := by
  intro other found located
  by_cases same : other = handle
  · subst same
    simp only [Function.update_self,Option.some.injEq] at located
    subst located
    exact ⟨small,partialValid⟩
  · rw [Function.update_of_ne same] at located
    exact valid other found located

theorem AclConsistent.preamble {packet : InboundPacket} (consistent : AclConsistent packet) :
    hciAclPreambleSize ≤ packet.len ∧ streamToUint16 packet.data 2 = packet.len-hciAclPreambleSize := by
  have field := consistent.aclLength
  simp only [hciAclPreambleSize] at field ⊢
  omega

theorem asBuffer_complete {packet : InboundPacket} (consistent : AclConsistent packet) :
    Complete packet.asBuffer :=
  ⟨rfl,packet.data,rfl,rfl,consistent.preamble.2⟩

theorem write_after_written {partialPacket : HciBuffer} {bytes src : List UInt8}
    (length : bytes.length = partialPacket.offset)
    (data : partialPacket.data = bytes.map some ++ List.replicate (partialPacket.len-partialPacket.offset) none)
    (room : src.length ≤ partialPacket.len-partialPacket.offset) :
    Buffer.write partialPacket.data partialPacket.offset (src.map some) =
      some ((bytes ++ src).map some ++ List.replicate (partialPacket.len-partialPacket.offset-src.length) none) := by
  have front : (bytes.map some).length = partialPacket.offset := by simp [length]
  rw [data,← front,Buffer.write_at_end _ (by simp [length]; omega)]
  simp [List.drop_replicate,length]

theorem continueAndDispatch_eq {partialPackets : PartialPackets} {handle : Nat} {partialPacket : HciBuffer}
    {packet : InboundPacket} (partialValid : PartialValid partialPacket) (consistent : AclConsistent packet) :
    continueAndDispatch partialPackets handle partialPacket packet =
      let count := min (packet.len-hciAclPreambleSize) (partialPacket.len-partialPacket.offset)
      match Buffer.write partialPacket.data partialPacket.offset
          ((Buffer.slice packet.data hciAclPreambleSize count).map some) with
      | none => none
      | some data =>
        if partialPacket.offset + count = partialPacket.len then
          some (Function.update partialPackets handle none,[{partialPacket with data,offset := 0}])
        else
          some (Function.update partialPackets handle (some {partialPacket with data,offset := partialPacket.offset+count}),[]) := by
  have offsetLt := partialValid.offsetLt
  have fitsBuffer := partialValid.fitsBuffer
  have preamble := consistent.preamble.1
  have fits := consistent.fits
  simp only [btHdrSize,btDefaultBufferSize,hciAclPreambleSize] at fitsBuffer preamble ⊢
  unfold continueAndDispatch
  by_cases truncated : (packet.len - 4 : Int) > (partialPacket.len - partialPacket.offset : Int)
  · have count : ((partialPacket.len - partialPacket.offset + 4 : Int) % 65536 - 4).toNat =
        min (packet.len-4) (partialPacket.len-partialPacket.offset) := by omega
    have notNeg : ¬ ((partialPacket.len - partialPacket.offset + 4 : Int) % 65536 - 4 < 0) := by omega
    have capped : partialPacket.offset + min (packet.len-4) (partialPacket.len-partialPacket.offset) =
        partialPacket.len := by omega
    simp only [hciAclPreambleSize,Nat.cast_ofNat,truncated,decide_true,if_true,notNeg,if_false,count]
    -- both sides match on the same write, and the statement's branch takes the whole packet
    cases Buffer.write partialPacket.data partialPacket.offset
        ((Buffer.slice packet.data 4 (min (packet.len-4) (partialPacket.len-partialPacket.offset))).map some) with
    | none => rfl
    | some data => simp only [capped,↓reduceIte]
  · have count : ((packet.len : Int) - 4).toNat = min (packet.len-4) (partialPacket.len-partialPacket.offset) := by
      omega
    have notNeg : ¬ ((packet.len : Int) - 4 < 0) := by omega
    have projected : wrap16 (partialPacket.offset + (packet.len-4)) =
        partialPacket.offset + min (packet.len-4) (partialPacket.len-partialPacket.offset) := by
      simp only [wrap16]; omega
    simp only [hciAclPreambleSize,Nat.cast_ofNat,truncated,decide_false,Bool.false_eq_true,if_false,notNeg,count,
      projected]
    rfl

theorem continue_valid {partialPackets : PartialPackets} {handle : Nat} {partialPacket : HciBuffer}
    {packet : InboundPacket} (valid : ReassemblerValid partialPackets) (small : handle < 4096)
    (partialValid : PartialValid partialPacket) (consistent : AclConsistent packet) :
    ∃ next out, continueAndDispatch partialPackets handle partialPacket packet = some (next,out) ∧
      ReassemblerValid next ∧ ∀ delivered ∈ out, Complete delivered := by
  obtain ⟨bytes,length,data,aclField,l2capField⟩ := partialValid.written
  have offsetLt := partialValid.offsetLt
  have headerCopied := partialValid.headerCopied
  have preamble := consistent.preamble.1
  rw [continueAndDispatch_eq partialValid consistent]
  dsimp only
  generalize countDef : min (packet.len-hciAclPreambleSize) (partialPacket.len-partialPacket.offset) = count
  generalize srcDef : Buffer.slice packet.data hciAclPreambleSize count = src
  have sliced : src.length = count := by
    rw [← srcDef,Buffer.slice_length]
    simp only [InboundPacket.len] at countDef
    omega
  have written := write_after_written length data (show src.length ≤ partialPacket.len-partialPacket.offset by omega)
  -- the copy lands after the header, so both length fields keep their values
  have keepAcl : streamToUint16 (bytes ++ src) 2 = streamToUint16 bytes 2 :=
    streamToUint16_append_left _ (by omega)
  have keepL2cap : streamToUint16 (bytes ++ src) 4 = streamToUint16 bytes 4 :=
    streamToUint16_append_left _ (by omega)
  rw [written]
  dsimp only
  split_ifs with filled
  · refine ⟨_,_,rfl,reassemblerValid_erase valid handle,?_⟩
    intro delivered member
    rw [List.mem_singleton] at member
    subst member
    have none_left : partialPacket.len - partialPacket.offset - src.length = 0 := by omega
    refine ⟨rfl,bytes ++ src,by simp [length]; omega,by simp [none_left],?_⟩
    rw [keepAcl,aclField]
  · refine ⟨_,_,rfl,reassemblerValid_insert valid small ⟨by simp; omega,by simp; omega,partialValid.fitsBuffer,
      bytes ++ src,by simp [length,sliced],?_,?_,?_⟩,by simp⟩
    · simp only [List.map_append]
      congr 2
      omega
    · rw [keepAcl,aclField]
    · rw [keepL2cap,l2capField]

theorem start_buffer {packet : InboundPacket} {fullLength : Nat} (header : 4 ≤ packet.len)
    (longer : packet.len < fullLength) :
    ∃ data, (Buffer.write (List.replicate fullLength none) 0 (packet.data.map some)).bind
        (fun copied => Buffer.write copied 2 ((uint16ToStream (fullLength-hciAclPreambleSize)).map some)) = some data ∧
      data = (packet.data.take 2 ++ uint16ToStream (fullLength-hciAclPreambleSize) ++ packet.data.drop 4).map some ++
        List.replicate (fullLength-packet.len) none := by
  have copied := @Buffer.write_at_end _ [] (packet.data.map some) (List.replicate fullLength none)
    (by simp [InboundPacket.len] at longer ⊢; omega)
  simp only [List.nil_append,List.length_nil,List.drop_replicate,List.length_map] at copied
  have patch : Buffer.write packet.data 2 (uint16ToStream (fullLength-hciAclPreambleSize)) =
      some (packet.data.take 2 ++ uint16ToStream (fullLength-hciAclPreambleSize) ++ packet.data.drop 4) :=
    Buffer.write_eq (by simp [InboundPacket.len] at header ⊢; omega)
  refine ⟨_,?_,rfl⟩
  rw [copied,Option.bind_some,Buffer.write_append_left _ (by simp [InboundPacket.len] at header ⊢; omega),
    Buffer.write_map,patch]
  simp [InboundPacket.len]

theorem start_valid {partialPackets : PartialPackets} {handle : Nat} {packet : InboundPacket}
    (valid : ReassemblerValid partialPackets) (small : handle < 4096) (consistent : AclConsistent packet)
    (header : l2capHeaderSize ≤ streamToUint16 packet.data 2) :
    ∃ next out, startAndDispatch partialPackets handle packet = some (next,out) ∧
      ReassemblerValid next ∧ ∀ delivered ∈ out, Complete delivered := by
  have preamble := consistent.preamble
  have dataLength : packet.data.length = packet.len := rfl
  simp only [l2capHeaderSize,hciAclPreambleSize] at header preamble
  unfold startAndDispatch
  dsimp only
  by_cases rejected : checkUint16Overflow (streamToUint16 packet.data 4) (l2capHeaderSize+hciAclPreambleSize) ∨
      wrap16 (streamToUint16 packet.data 4+l2capHeaderSize+hciAclPreambleSize) + btHdrSize > btDefaultBufferSize
  · rw [if_pos rejected]
    exact ⟨_,_,rfl,valid,by simp⟩
  rw [if_neg rejected]
  simp only [checkUint16Overflow,not_or,not_lt,l2capHeaderSize,hciAclPreambleSize,btHdrSize,
    btDefaultBufferSize] at rejected
  obtain ⟨noOverflow,fitsBuffer⟩ := rejected
  have noOverflow : streamToUint16 packet.data 4 + 8 ≤ 65535 := by
    simp only [Bool.not_eq_true,decide_eq_false_iff_not,not_lt,Nat.cast_add,Nat.cast_ofNat] at noOverflow
    omega
  have fullLength : wrap16 (streamToUint16 packet.data 4 + 4 + 4) = streamToUint16 packet.data 4 + 8 := by
    simp only [wrap16]; omega
  simp only [l2capHeaderSize,hciAclPreambleSize,fullLength]
  rw [fullLength] at fitsBuffer
  by_cases shorter : streamToUint16 packet.data 4 + 8 ≤ packet.len
  · rw [if_pos shorter]
    refine ⟨_,_,rfl,valid,?_⟩
    intro delivered member
    rw [List.mem_singleton] at member
    subst member
    exact asBuffer_complete consistent
  rw [if_neg shorter]
  obtain ⟨data,written,shape⟩ := @start_buffer packet (streamToUint16 packet.data 4 + 8) (by omega) (by omega)
  simp only [hciAclPreambleSize] at written shape ⊢
  rw [Option.bind_eq_some_iff] at written
  obtain ⟨copied,first,second⟩ := written
  rw [first]
  dsimp only
  rw [second]
  dsimp only
  have sized : (packet.data.take 2 ++ uint16ToStream (streamToUint16 packet.data 4 + 8 - 4)).length = 4 := by
    simp; omega
  have aclField := streamToUint16_uint16ToStream (packet.data.take 2) (packet.data.drop 4)
    (streamToUint16 packet.data 4 + 8 - 4)
  rw [List.length_take_of_le (by omega)] at aclField
  have l2capField : streamToUint16 (packet.data.take 2 ++ uint16ToStream (streamToUint16 packet.data 4 + 8 - 4) ++
      packet.data.drop 4) 4 = streamToUint16 packet.data 4 := by
    have shifted := streamToUint16_append_right
      (packet.data.take 2 ++ uint16ToStream (streamToUint16 packet.data 4 + 8 - 4)) (packet.data.drop 4) 0
    rw [sized,streamToUint16_drop] at shifted
    exact shifted
  refine ⟨_,_,rfl,reassemblerValid_insert valid small ⟨by dsimp only; omega,by dsimp only; omega,
    by simp only [btHdrSize,btDefaultBufferSize]; omega,_,by simp; omega,shape,?_,?_⟩,by simp⟩
  · dsimp only
    rw [aclField,hciAclPreambleSize]
    omega
  · dsimp only
    rw [l2capField,l2capHeaderSize,hciAclPreambleSize]

def packetHandle (packet : InboundPacket) : Nat := streamToUint16 packet.data 0 &&& handleMask

theorem reassemble_start (partialPackets : PartialPackets) {packet : InboundPacket} (consistent : AclConsistent packet)
    (pointToPoint : getBroadcastFlag (streamToUint16 packet.data 0) = pointToPoint)
    (start : getBoundaryFlag (streamToUint16 packet.data 0) = startPacketBoundary)
    (header : l2capHeaderSize ≤ streamToUint16 packet.data 2) :
    reassembleAndDispatch partialPackets packet =
      startAndDispatch (Function.update partialPackets (packetHandle packet) none) (packetHandle packet) packet := by
  have check : ¬ ((streamToUint16 packet.data 2 : Int) ≠ packet.len - hciAclPreambleSize) :=
    not_not.mpr consistent.aclLength
  simp only [l2capHeaderSize] at header
  unfold reassembleAndDispatch
  rw [if_pos consistent.acl]
  dsimp only
  rw [if_neg check,if_neg (not_not.mpr pointToPoint),if_pos start,if_neg (by omega),if_neg (by simp [l2capHeaderSize]; omega)]
  rfl

theorem reassemble_continue (partialPackets : PartialPackets) {packet : InboundPacket} (consistent : AclConsistent packet)
    (pointToPoint : getBroadcastFlag (streamToUint16 packet.data 0) = pointToPoint)
    (continuation : getBoundaryFlag (streamToUint16 packet.data 0) ≠ startPacketBoundary) :
    reassembleAndDispatch partialPackets packet =
      match partialPackets (packetHandle packet) with
      | none => some (partialPackets,[])
      | some partialPacket => continueAndDispatch partialPackets (packetHandle packet) partialPacket packet := by
  have check : ¬ ((streamToUint16 packet.data 2 : Int) ≠ packet.len - hciAclPreambleSize) :=
    not_not.mpr consistent.aclLength
  unfold reassembleAndDispatch
  rw [if_pos consistent.acl]
  dsimp only
  rw [if_neg check,if_neg (not_not.mpr pointToPoint),if_neg continuation]
  rfl

theorem start_checks {l2capLength : Nat} (fits : l2capLength + 8 + btHdrSize ≤ btDefaultBufferSize) :
    ¬ (checkUint16Overflow l2capLength (l2capHeaderSize+hciAclPreambleSize) = true ∨
      wrap16 (l2capLength+l2capHeaderSize+hciAclPreambleSize) + btHdrSize > btDefaultBufferSize) ∧
    wrap16 (l2capLength+l2capHeaderSize+hciAclPreambleSize) = l2capLength + 8 := by
  simp only [btHdrSize,btDefaultBufferSize] at fits
  have full : wrap16 (l2capLength+l2capHeaderSize+hciAclPreambleSize) = l2capLength + 8 := by
    simp only [wrap16,l2capHeaderSize,hciAclPreambleSize]
    omega
  refine ⟨?_,full⟩
  rw [full]
  simp only [checkUint16Overflow,l2capHeaderSize,hciAclPreambleSize,btHdrSize,btDefaultBufferSize,
    not_or,Bool.not_eq_true,decide_eq_false_iff_not,not_lt,Nat.cast_add,Nat.cast_ofNat]
  omega

theorem start_deliver (partialPackets : PartialPackets) (handle : Nat) {packet : InboundPacket}
    (fits : streamToUint16 packet.data 4 + 8 + btHdrSize ≤ btDefaultBufferSize)
    (shorter : streamToUint16 packet.data 4 + 8 ≤ packet.len) :
    startAndDispatch partialPackets handle packet = some (partialPackets,[packet.asBuffer]) := by
  obtain ⟨passes,full⟩ := start_checks fits
  unfold startAndDispatch
  dsimp only
  rw [if_neg passes,full,if_pos shorter]

theorem start_open (partialPackets : PartialPackets) (handle : Nat) {packet : InboundPacket}
    (fits : streamToUint16 packet.data 4 + 8 + btHdrSize ≤ btDefaultBufferSize)
    (header : 4 ≤ packet.len) (longer : packet.len < streamToUint16 packet.data 4 + 8) :
    startAndDispatch partialPackets handle packet =
      some (Function.update partialPackets handle (some ⟨packet.event,streamToUint16 packet.data 4 + 8,packet.len,
        (packet.data.take 2 ++ uint16ToStream (streamToUint16 packet.data 4 + 4) ++ packet.data.drop 4).map some ++
          List.replicate (streamToUint16 packet.data 4 + 8 - packet.len) none⟩),[]) := by
  obtain ⟨passes,full⟩ := start_checks fits
  obtain ⟨data,written,shape⟩ := @start_buffer packet (streamToUint16 packet.data 4 + 8) header longer
  rw [Option.bind_eq_some_iff] at written
  obtain ⟨copied,first,second⟩ := written
  unfold startAndDispatch
  dsimp only
  rw [if_neg passes,full,if_neg (by omega),first]
  dsimp only
  rw [second,shape]
  rfl

theorem reassemble_valid {partialPackets : PartialPackets} {packet : InboundPacket}
    (valid : ReassemblerValid partialPackets) (consistent : AclConsistent packet) :
    ∃ next out, reassembleAndDispatch partialPackets packet = some (next,out) ∧
      ReassemblerValid next ∧ ∀ delivered ∈ out, Complete delivered := by
  have check : ¬ ((streamToUint16 packet.data 2 : Int) ≠ packet.len - hciAclPreambleSize) :=
    not_not.mpr consistent.aclLength
  have small := handle_lt (streamToUint16 packet.data 0)
  unfold reassembleAndDispatch
  rw [if_pos consistent.acl]
  dsimp only
  rw [if_neg check]
  by_cases broadcast : getBroadcastFlag (streamToUint16 packet.data 0) ≠ pointToPoint
  · rw [if_pos broadcast]
    exact ⟨_,_,rfl,valid,by simp⟩
  rw [if_neg broadcast]
  by_cases start : getBoundaryFlag (streamToUint16 packet.data 0) = startPacketBoundary
  · rw [if_pos start]
    by_cases tiny : streamToUint16 packet.data 2 < 2
    · rw [if_pos tiny]
      exact ⟨_,_,rfl,valid,by simp⟩
    rw [if_neg tiny]
    -- a start packet first drops whatever partial packet the handle had
    have erased := reassemblerValid_erase valid (streamToUint16 packet.data 0 &&& handleMask)
    by_cases short : streamToUint16 packet.data 2 < l2capHeaderSize
    · rw [if_pos short]
      exact ⟨_,_,rfl,erased,by simp⟩
    rw [if_neg short]
    exact start_valid erased small consistent (by omega)
  · rw [if_neg start]
    cases found : partialPackets (streamToUint16 packet.data 0 &&& handleMask) with
    | none => exact ⟨_,_,rfl,valid,by simp⟩
    | some partialPacket => exact continue_valid valid small (valid _ _ found).2 consistent

theorem run_valid {partialPackets : PartialPackets} (valid : ReassemblerValid partialPackets)
    (feed : List InboundPacket) (consistent : ∀ packet ∈ feed, AclConsistent packet) :
    ∃ final out, Keyed.run reassembleAndDispatch partialPackets feed = some (final,out) ∧
      ReassemblerValid final ∧ ∀ delivered ∈ out, Complete delivered :=
  Keyed.run_preserves ReassemblerValid AclConsistent Complete (fun _ _ valid consistent => reassemble_valid valid consistent)
    valid feed consistent

theorem reassembly_stays_in_bounds (feed : List InboundPacket)
    (consistent : ∀ packet ∈ feed, AclConsistent packet) :
    ∃ final out, Keyed.run reassembleAndDispatch (fun _ => none) feed = some (final,out) ∧
      ReassemblerValid final ∧ ∀ delivered ∈ out, Complete delivered :=
  run_valid reassemblerValid_empty feed consistent

theorem reassembly_stays_in_bounds_split :
    (∀ packet ∈ [⟨msgHcToStackHciAcl,[0x01,0x20,0x06,0x00,0x04,0x00,0x40,0x00,0xAA,0xBB]⟩,
        ⟨msgHcToStackHciAcl,[0x01,0x10,0x02,0x00,0xCC,0xDD]⟩], AclConsistent packet) ∧
      ∃ final out, Keyed.run reassembleAndDispatch (fun _ => none)
        [⟨msgHcToStackHciAcl,[0x01,0x20,0x06,0x00,0x04,0x00,0x40,0x00,0xAA,0xBB]⟩,
          ⟨msgHcToStackHciAcl,[0x01,0x10,0x02,0x00,0xCC,0xDD]⟩] = some (final,out) ∧
        ReassemblerValid final ∧ ∀ delivered ∈ out, Complete delivered := by
  have consistent : ∀ packet ∈ [(⟨msgHcToStackHciAcl,[0x01,0x20,0x06,0x00,0x04,0x00,0x40,0x00,0xAA,0xBB]⟩ : InboundPacket),
      ⟨msgHcToStackHciAcl,[0x01,0x10,0x02,0x00,0xCC,0xDD]⟩], AclConsistent packet := by
    intro packet member
    simp only [List.mem_cons,List.not_mem_nil,or_false] at member
    rcases member with rfl | rfl <;> exact ⟨by decide,by decide,by decide⟩
  exact ⟨consistent,reassembly_stays_in_bounds _ consistent⟩

end BluetoothStack.PacketFragmenter
