import Mathlib
import BluetoothStack.Avdt.Ccb

namespace BluetoothStack.Avdt

open PacketFragmenter

def restOf (mtu : Nat) (ccb : AvdtCcb) : List (List UInt8) := ccb.pCurrMsg.elim [] (restFraming mtu)

def isCmd (msg : BtHdr) : Bool := avdtLayerspecMsg msg.layerSpecific == avdtMsgTypeCmd

def writes (out : List CcbOut) : List BtHdr :=
  out.filterMap fun
    | .write packet => some packet
    | _ => none

def Sendable (msg : BtHdr) : Prop := ∃ label msgType, Queued label msgType msg

-- What every action keeps: the queues hold messages as queued, the current one
-- is queued or part-way out, ret_count is zero and the label four bits.
structure CcbCore (ccb : AvdtCcb) : Prop where
  cmds : ∀ msg ∈ ccb.cmdQ, Sendable msg ∧ isCmd msg = true
  rsps : ∀ msg ∈ ccb.rspQ, Sendable msg ∧ isCmd msg = false
  current : ∀ curr, ccb.pCurrMsg = some curr → Pending curr
  retCount : ccb.retCount = 0
  label : ccb.label < 16

-- The packets written, then what is left of the current message, are the
-- framings of the messages sent, one after another, each cut short at most.
structure Channel (mtu : Nat) (queued wire : List BtHdr) (whole : Bool) (ccb : AvdtCcb)
    (segs : List (BtHdr × List (List UInt8))) : Prop where
  stream : wire.map BtHdr.bytes ++ restOf mtu ccb = (segs.map Prod.snd).flatten
  framed : ∀ seg ∈ segs, Sendable seg.1 ∧ List.IsPrefix seg.2 (restFraming mtu seg.1)
  last : ∀ curr, ccb.pCurrMsg = some curr →
    ∃ init msg, segs = init ++ [(msg,restFraming mtu msg)] ∧ List.IsSuffix (restFraming mtu curr) (restFraming mtu msg)
  cmds : ∃ taken, queued.filter isCmd = taken ++ ccb.cmdQ ∧ List.Sublist ((segs.map Prod.fst).filter isCmd) taken
  rsps : ∃ taken, queued.filter (!isCmd ·) = taken ++ ccb.rspQ ∧ List.Sublist ((segs.map Prod.fst).filter (!isCmd ·)) taken
  whole : whole = true → ∀ seg ∈ segs, seg.2 = restFraming mtu seg.1

structure Sent (ccb ccb' : AvdtCcb) : Prop where
  label : ccb'.label = ccb.label
  cmdQ : ccb'.cmdQ = ccb.cmdQ
  rspQ : ccb'.rspQ = ccb.rspQ
  retCount : ccb'.retCount = ccb.retCount
  current : ∀ curr, ccb'.pCurrMsg = some curr → Pending curr
  flows : ccb'.cong = false → ccb'.pCurrMsg = none

section Send

variable {peerMtu : PeerMtu} {rcb : Rcb}

theorem Sendable.pending {msg : BtHdr} (sendable : Sendable msg) : Pending msg := by
  obtain ⟨label,msgType,queued⟩ := sendable
  exact ⟨label,msgType,.inl queued⟩

theorem msgSendLoop_sent {curr : BtHdr} (pending : Pending curr) (ccb : AvdtCcb) (free : ccb.cong = false)
    (current : ccb.pCurrMsg = some curr) (congested : List Bool) :
    ∃ ccb' sent, msgSendLoop peerMtu rcb ccb congested = some (ccb',sent) ∧
      sent.map BtHdr.bytes ++ restOf peerMtu.mtu ccb' = restFraming peerMtu.mtu curr ∧ Sent ccb ccb' ∧
      ccb'.pCurrCmd = ccb.pCurrCmd := by
  obtain ⟨ccb',sent,ran,bytes,-,-,-,outcome⟩ := msgSendLoop_stops pending ccb free current congested
  refine ⟨ccb',sent,ran,bytes,?_⟩
  rcases outcome with done | ⟨rest,pending',stopped⟩
  · rw [done]
    unfold sentState passTimers cmdTimers
    split_ifs <;> exact ⟨⟨rfl,rfl,rfl,rfl,(fun _ held => by cases held),fun _ => rfl⟩,rfl⟩
  · rw [stopped]
    exact ⟨⟨rfl,rfl,rfl,rfl,(fun _ current => by cases current; exact pending'),(fun free => by cases free)⟩,rfl⟩

theorem callMsgSend_fresh {ccb : AvdtCcb} {msg : BtHdr} (sendable : Sendable msg) (free : ccb.cong = false)
    (congested : List Bool) :
    ∃ ccb' sent, callMsgSend peerMtu rcb ccb (some msg) congested = some (ccb',sent,congested.drop sent.length) ∧
      sent.map BtHdr.bytes ++ restOf peerMtu.mtu ccb' = restFraming peerMtu.mtu msg ∧ Sent ccb ccb' ∧
      ccb'.pCurrCmd = ccb.pCurrCmd := by
  obtain ⟨ccb',sent,ran,bytes,kept,cmd⟩ :=
    @msgSendLoop_sent peerMtu rcb _ sendable.pending {ccb with pCurrMsg := some msg} free rfl congested
  refine ⟨ccb',sent,?_,bytes,⟨kept.label,kept.cmdQ,kept.rspQ,kept.retCount,kept.current,kept.flows⟩,cmd⟩
  rw [callMsgSend,msgSend,Option.some_or,ran,Option.map_some]

theorem callMsgSend_more {ccb : AvdtCcb} {curr : BtHdr} (pending : Pending curr) (free : ccb.cong = false)
    (current : ccb.pCurrMsg = some curr) (congested : List Bool) :
    ∃ ccb' sent, callMsgSend peerMtu rcb ccb none congested = some (ccb',sent,congested.drop sent.length) ∧
      sent.map BtHdr.bytes ++ restOf peerMtu.mtu ccb' = restOf peerMtu.mtu ccb ∧ Sent ccb ccb' ∧
      ccb'.pCurrCmd = ccb.pCurrCmd := by
  obtain ⟨ccb',sent,ran,bytes,kept,cmd⟩ := @msgSendLoop_sent peerMtu rcb _ pending ccb free current congested
  refine ⟨ccb',sent,?_,by rw [bytes,restOf,current]; rfl,kept,cmd⟩
  rw [callMsgSend,msgSend,Option.none_or,ran,Option.map_some]

end Send

section Channel

variable {mtu : Nat} {queued wire : List BtHdr} {whole : Bool} {ccb : AvdtCcb} {segs : List (BtHdr × List (List UInt8))}

theorem Channel.weaken (chan : Channel mtu queued wire whole ccb segs) (keep : Bool) :
    Channel mtu queued wire (whole && keep) ccb segs :=
  {chan with whole := fun both => chan.whole (Bool.and_eq_true_iff.mp both).1}

theorem Channel.more (chan : Channel mtu queued wire whole ccb segs) {ccb' : AvdtCcb} {sent : List BtHdr}
    (bytes : sent.map BtHdr.bytes ++ restOf mtu ccb' = restOf mtu ccb) (cmdQ : ccb'.cmdQ = ccb.cmdQ)
    (rspQ : ccb'.rspQ = ccb.rspQ) (shrinks : ccb'.pCurrMsg.isSome → ccb.pCurrMsg.isSome) :
    Channel mtu queued (wire ++ sent) whole ccb' segs where
  stream := by rw [List.map_append,List.append_assoc,bytes,chan.stream]
  framed := chan.framed
  last := by
    intro curr' current'
    obtain ⟨curr,current⟩ := Option.isSome_iff_exists.mp (shrinks (by rw [current']; rfl))
    obtain ⟨init,msg,split,suffix⟩ := chan.last curr current
    refine ⟨init,msg,split,List.IsSuffix.trans ⟨sent.map BtHdr.bytes,?_⟩ suffix⟩
    rw [restOf,restOf,current,current'] at bytes
    exact bytes
  cmds := by rw [cmdQ]; exact chan.cmds
  rsps := by rw [rspQ]; exact chan.rsps
  whole := chan.whole

theorem Channel.fresh (chan : Channel mtu queued wire whole ccb segs) (idle : ccb.pCurrMsg = none) {msg : BtHdr}
    (sendable : Sendable msg) {ccb' : AvdtCcb} {sent : List BtHdr}
    (bytes : sent.map BtHdr.bytes ++ restOf mtu ccb' = restFraming mtu msg)
    (popped : isCmd msg = true ∧ ccb.cmdQ = msg :: ccb'.cmdQ ∧ ccb'.rspQ = ccb.rspQ ∨
      isCmd msg = false ∧ ccb.rspQ = msg :: ccb'.rspQ ∧ ccb'.cmdQ = ccb.cmdQ) :
    Channel mtu queued (wire ++ sent) whole ccb' (segs ++ [(msg,restFraming mtu msg)]) where
  stream := by
    have before := chan.stream
    rw [restOf,idle,Option.elim_none,List.append_nil] at before
    rw [List.map_append,List.append_assoc,bytes,before,List.map_append,List.flatten_append,List.map_singleton,
      List.flatten_singleton]
  framed := by
    intro seg held
    rcases List.mem_append.mp held with old | new
    · exact chan.framed seg old
    · rw [List.mem_singleton.mp new]
      exact ⟨sendable,List.prefix_refl _⟩
  last := by
    intro curr' current'
    rw [restOf,current',Option.elim_some] at bytes
    exact ⟨segs,msg,rfl,⟨sent.map BtHdr.bytes,bytes⟩⟩
  cmds := by
    obtain ⟨taken,split,sub⟩ := chan.cmds
    rcases popped with ⟨command,head,-⟩ | ⟨response,-,same⟩
    · refine ⟨taken ++ [msg],by rw [split,head]; simp,?_⟩
      rw [List.map_append,List.filter_append]
      exact sub.append (by simp [command])
    · refine ⟨taken,by rw [split,same],?_⟩
      rw [List.map_append,List.filter_append]
      simpa [response] using sub
  rsps := by
    obtain ⟨taken,split,sub⟩ := chan.rsps
    rcases popped with ⟨command,-,same⟩ | ⟨response,head,-⟩
    · refine ⟨taken,by rw [split,same],?_⟩
      rw [List.map_append,List.filter_append]
      simpa [command] using sub
    · refine ⟨taken ++ [msg],by rw [split,head]; simp,?_⟩
      rw [List.map_append,List.filter_append]
      exact sub.append (by simp [response])
  whole := by
    intro whole seg held
    rcases List.mem_append.mp held with old | new
    · exact chan.whole whole seg old
    · rw [List.mem_singleton.mp new]

theorem Channel.clear (chan : Channel mtu queued wire whole ccb segs) {ccb' : AvdtCcb} (idle : ccb'.pCurrMsg = none)
    (cmds : ∃ dropped, ccb.cmdQ = dropped ++ ccb'.cmdQ) (rsps : ∃ dropped, ccb.rspQ = dropped ++ ccb'.rspQ) :
    ∃ segs', Channel mtu queued wire false ccb' segs' := by
  obtain ⟨droppedC,splitC⟩ := cmds
  obtain ⟨droppedR,splitR⟩ := rsps
  -- whatever was freed off the queues counts as taken off them
  have takenC : ∃ taken, queued.filter isCmd = taken ++ ccb'.cmdQ ∧
      List.Sublist ((segs.map Prod.fst).filter isCmd) taken := by
    obtain ⟨taken,split,sub⟩ := chan.cmds
    exact ⟨taken ++ droppedC,by rw [split,splitC,List.append_assoc],sub.trans (List.sublist_append_left _ _)⟩
  have takenR : ∃ taken, queued.filter (!isCmd ·) = taken ++ ccb'.rspQ ∧
      List.Sublist ((segs.map Prod.fst).filter (!isCmd ·)) taken := by
    obtain ⟨taken,split,sub⟩ := chan.rsps
    exact ⟨taken ++ droppedR,by rw [split,splitR,List.append_assoc],sub.trans (List.sublist_append_left _ _)⟩
  have gone : restOf mtu ccb' = [] := by rw [restOf,idle]; rfl
  cases current : ccb.pCurrMsg with
  | none =>
    have stream := chan.stream
    rw [restOf,current,Option.elim_none] at stream
    exact ⟨segs,by rw [gone]; exact stream,chan.framed,by simp [idle],takenC,takenR,by simp⟩
  | some curr =>
    -- the last framing loses what was still to go
    obtain ⟨init,msg,split,pre,whole⟩ := chan.last curr current
    have stream := chan.stream
    rw [restOf,current,Option.elim_some,split,List.map_append,List.flatten_append,List.map_singleton,
      List.flatten_singleton,← whole,← List.append_assoc] at stream
    refine ⟨init ++ [(msg,pre)],?_,?_,by simp [idle],?_,?_,by simp⟩
    · rw [gone,List.append_nil,List.map_append,List.flatten_append,List.map_singleton,List.flatten_singleton]
      exact List.append_cancel_right stream
    · intro seg held
      rcases List.mem_append.mp held with old | new
      · exact chan.framed seg (by rw [split]; exact List.mem_append_left _ old)
      · rw [List.mem_singleton.mp new]
        exact ⟨(chan.framed (msg,restFraming mtu msg) (by rw [split]; simp)).1,⟨_,whole⟩⟩
    · simpa [split] using takenC
    · simpa [split] using takenR

theorem Channel.enqueue (chan : Channel mtu queued wire whole ccb segs) {buf : BtHdr} {ccb' : AvdtCcb}
    (current : ccb'.pCurrMsg = ccb.pCurrMsg)
    (pushed : isCmd buf = true ∧ ccb'.cmdQ = ccb.cmdQ ++ [buf] ∧ ccb'.rspQ = ccb.rspQ ∨
      isCmd buf = false ∧ ccb'.rspQ = ccb.rspQ ++ [buf] ∧ ccb'.cmdQ = ccb.cmdQ) :
    Channel mtu (queued ++ [buf]) wire whole ccb' segs where
  stream := by rw [restOf,current]; exact chan.stream
  framed := chan.framed
  last := by rw [current]; exact chan.last
  cmds := by
    obtain ⟨taken,split,sub⟩ := chan.cmds
    rcases pushed with ⟨command,tail,-⟩ | ⟨response,-,same⟩
    · exact ⟨taken,by rw [List.filter_append,split,tail]; simp [command],sub⟩
    · exact ⟨taken,by rw [List.filter_append,split,same]; simp [response],sub⟩
  rsps := by
    obtain ⟨taken,split,sub⟩ := chan.rsps
    rcases pushed with ⟨command,-,same⟩ | ⟨response,tail,-⟩
    · exact ⟨taken,by rw [List.filter_append,split,same]; simp [command],sub⟩
    · exact ⟨taken,by rw [List.filter_append,split,tail]; simp [response],sub⟩
  whole := chan.whole

end Channel

section Actions

variable {peerMtu : PeerMtu} {rcb : Rcb}

theorem CcbCore.sent {ccb : AvdtCcb} (core : CcbCore ccb) {ccb' : AvdtCcb} (kept : Sent ccb ccb') : CcbCore ccb' where
  cmds := by rw [kept.cmdQ]; exact core.cmds
  rsps := by rw [kept.rspQ]; exact core.rsps
  current := kept.current
  retCount := by rw [kept.retCount]; exact core.retCount
  label := by rw [kept.label]; exact core.label

-- The induction is on the queue the loop pops.
theorem sndRspLoop_spec (rsps : List BtHdr) {ccb : AvdtCcb} (core : CcbCore ccb) (queue : ccb.rspQ = rsps)
    (free : ccb.cong = false) (idle : ccb.pCurrMsg = none) (congested : List Bool) :
    ∃ ccb' sent left, sndRspLoop peerMtu rcb rsps ccb congested = some (ccb',sent,left) ∧ CcbCore ccb' ∧
      ccb'.cmdQ = ccb.cmdQ ∧ ccb'.pCurrCmd = ccb.pCurrCmd ∧ (ccb'.cong = false → ccb'.pCurrMsg = none) ∧
      ∀ queued wire whole segs, Channel peerMtu.mtu queued wire whole ccb segs →
        ∃ segs', Channel peerMtu.mtu queued (wire ++ sent) whole ccb' segs' := by
  induction rsps generalizing ccb congested with
  | nil =>
    refine ⟨ccb,[],congested,rfl,core,rfl,rfl,fun _ => idle,fun _ _ _ segs chan => ⟨segs,?_⟩⟩
    rwa [List.append_nil]
  | cons pMsg rest ih =>
    have head := core.rsps pMsg (by rw [queue]; exact List.mem_cons_self)
    have popped : CcbCore {ccb with rspQ := rest} :=
      ⟨core.cmds,fun msg held => core.rsps msg (by rw [queue]; exact List.mem_cons_of_mem _ held),
        (fun _ current => by cases idle.symm.trans current),core.retCount,core.label⟩
    obtain ⟨ccb1,sent,called,bytes,kept,cmd⟩ :=
      @callMsgSend_fresh peerMtu rcb {ccb with rspQ := rest} pMsg head.1 free congested
    have core1 := popped.sent kept
    have chan1 : ∀ queued wire whole segs, Channel peerMtu.mtu queued wire whole ccb segs →
        Channel peerMtu.mtu queued (wire ++ sent) whole ccb1 (segs ++ [(pMsg,restFraming peerMtu.mtu pMsg)]) :=
      fun _ _ _ _ chan => chan.fresh idle head.1 bytes (.inr ⟨head.2,by rw [queue,kept.rspQ],kept.cmdQ⟩)
    rw [sndRspLoop,called,Option.bind_some]
    cases stopped : ccb1.cong with
    | true =>
      -- the channel is congested: the loop breaks
      refine ⟨ccb1,sent,congested.drop sent.length,by simp [stopped],core1,kept.cmdQ,cmd,?_,
        fun queued wire whole segs chan => ⟨_,chan1 queued wire whole segs chan⟩⟩
      intro free'
      rw [stopped] at free'
      cases free'
    | false =>
      obtain ⟨ccb',more,left,ran,core',cmdQ',cmd',flows',chan'⟩ :=
        ih core1 kept.rspQ stopped (kept.flows stopped) (congested.drop sent.length)
      refine ⟨ccb',sent ++ more,left,by simp [stopped,ran],core',by rw [cmdQ',kept.cmdQ],by rw [cmd',cmd],flows',?_⟩
      intro queued wire whole segs chan
      obtain ⟨segs',chan''⟩ := chan' queued (wire ++ sent) whole _ (chan1 queued wire whole segs chan)
      exact ⟨segs',by rw [← List.append_assoc]; exact chan''⟩

theorem ccbSndCmd_spec {ccb : AvdtCcb} (core : CcbCore ccb) (congested : List Bool) :
    ∃ ccb' sent left, ccbSndCmd peerMtu rcb ccb congested = some (ccb',sent,left) ∧ CcbCore ccb' ∧
      (ccb' = ccb ∧ sent = [] ∨ ccb.cong = false ∧ ccb.pCurrMsg = none ∧ (ccb'.cong = false → ccb'.pCurrMsg = none)) ∧
      ∀ queued wire whole segs, Channel peerMtu.mtu queued wire whole ccb segs →
        ∃ segs', Channel peerMtu.mtu queued (wire ++ sent) whole ccb' segs' := by
  have stays : ∀ queued wire whole segs, Channel peerMtu.mtu queued wire whole ccb segs →
      ∃ segs', Channel peerMtu.mtu queued (wire ++ []) whole ccb segs' :=
    fun _ _ _ segs chan => ⟨segs,by rwa [List.append_nil]⟩
  rw [ccbSndCmd]
  split_ifs with clear
  · obtain ⟨free,idle,-⟩ := clear
    have idle : ccb.pCurrMsg = none := Option.isNone_iff_eq_none.mp idle
    split
    · exact ⟨ccb,[],congested,rfl,core,.inl ⟨rfl,rfl⟩,stays⟩
    · case h_2 pMsg rest queue =>
      have head := core.cmds pMsg (by rw [queue]; exact List.mem_cons_self)
      have popped : CcbCore {ccb with cmdQ := rest,pCurrCmd := some (cmdCopy pMsg)} :=
        ⟨fun msg held => core.cmds msg (by rw [queue]; exact List.mem_cons_of_mem _ held),core.rsps,
          (fun _ current => by cases idle.symm.trans current),core.retCount,core.label⟩
      obtain ⟨ccb',sent,called,bytes,kept,-⟩ :=
        @callMsgSend_fresh peerMtu rcb {ccb with cmdQ := rest,pCurrCmd := some (cmdCopy pMsg)} pMsg head.1 free
          congested
      refine ⟨ccb',sent,_,called,popped.sent kept,.inr ⟨free,idle,kept.flows⟩,?_⟩
      exact fun _ _ _ _ chan => ⟨_,chan.fresh idle head.1 bytes (.inl ⟨head.2,by rw [queue,kept.cmdQ],kept.rspQ⟩)⟩
  · exact ⟨ccb,[],congested,rfl,core,.inl ⟨rfl,rfl⟩,stays⟩

theorem ccbSndMsg_spec {ccb : AvdtCcb} (core : CcbCore ccb) (congested : List Bool) :
    ∃ ccb' sent left, ccbSndMsg peerMtu rcb ccb congested = some (ccb',sent,left) ∧ CcbCore ccb' ∧
      (ccb.cong = true ∧ ccb' = ccb ∧ sent = [] ∨ ccb.cong = false ∧ (ccb'.cong = false → ccb'.pCurrMsg = none)) ∧
      ∀ queued wire whole segs, Channel peerMtu.mtu queued wire whole ccb segs →
        ∃ segs', Channel peerMtu.mtu queued (wire ++ sent) whole ccb' segs' := by
  by_cases free : ccb.cong = false
  · -- what goes before avdt_ccb_snd_cmd
    have first : ∃ ccb1 sent left,
        (if ccb.pCurrMsg.isSome = true then callMsgSend peerMtu rcb ccb none congested
          else if (!ccb.rspQ.isEmpty) = true then sndRspLoop peerMtu rcb ccb.rspQ ccb congested
          else some (ccb,[],congested)) = some (ccb1,sent,left) ∧ CcbCore ccb1 ∧
        (ccb1.cong = false → ccb1.pCurrMsg = none) ∧
        ∀ queued wire whole segs, Channel peerMtu.mtu queued wire whole ccb segs →
          ∃ segs', Channel peerMtu.mtu queued (wire ++ sent) whole ccb1 segs' := by
      by_cases going : ccb.pCurrMsg.isSome = true
      · obtain ⟨curr,current⟩ := Option.isSome_iff_exists.mp going
        obtain ⟨ccb1,sent,called,bytes,kept,-⟩ := @callMsgSend_more peerMtu rcb ccb curr (core.current curr current)
          free current congested
        exact ⟨ccb1,sent,_,by rw [if_pos going,called],core.sent kept,kept.flows,fun _ _ _ _ chan =>
          ⟨_,chan.more bytes kept.cmdQ kept.rspQ (fun _ => going)⟩⟩
      · have idle : ccb.pCurrMsg = none := by simpa using going
        rw [if_neg going]
        by_cases responses : (!ccb.rspQ.isEmpty) = true
        · obtain ⟨ccb1,sent,left,ran,core1,-,-,flows,chan⟩ :=
            @sndRspLoop_spec peerMtu rcb ccb.rspQ ccb core rfl free idle congested
          exact ⟨ccb1,sent,left,by rw [if_pos responses,ran],core1,flows,chan⟩
        · exact ⟨ccb,[],congested,by rw [if_neg responses],core,fun _ => idle,
            fun _ _ _ segs chan => ⟨segs,by rwa [List.append_nil]⟩⟩
    obtain ⟨ccb1,sent,left,ran,core1,flows1,chan1⟩ := first
    obtain ⟨ccb2,more,left',sentCmd,core2,outcome,chan2⟩ := @ccbSndCmd_spec peerMtu rcb ccb1 core1 left
    refine ⟨ccb2,sent ++ more,left',?_,core2,.inr ⟨free,?_⟩,?_⟩
    · rw [ccbSndMsg,if_pos free]
      dsimp only
      rw [ran,Option.bind_some,sentCmd,Option.map_some]
    · rcases outcome with ⟨rfl,-⟩ | ⟨-,-,flows2⟩
      · exact flows1
      · exact flows2
    · intro queued wire whole segs chan
      obtain ⟨segs1,chan1'⟩ := chan1 queued wire whole segs chan
      obtain ⟨segs2,chan2'⟩ := chan2 queued (wire ++ sent) whole segs1 chan1'
      exact ⟨segs2,by rw [← List.append_assoc]; exact chan2'⟩
  · have held : ccb.cong = true := by simpa using free
    refine ⟨ccb,[],congested,by rw [ccbSndMsg,if_neg free],core,.inl ⟨held,rfl,rfl⟩,?_⟩
    exact fun _ _ _ segs chan => ⟨segs,by rwa [List.append_nil]⟩

end Actions

-- What the rows of avdt_ccb_event need to keep a free channel from being left
-- with a message part-way out.
structure CcbView where
  state : CcbState
  sending : Bool
  cong : Bool
deriving DecidableEq, Repr

def CcbSm.view (sm : CcbSm) : CcbView := ⟨sm.state,sm.ccb.pCurrMsg.isSome,sm.ccb.cong⟩

-- Nothing part-way out on a free channel, nor outside the open state.
def CcbView.settled (v : CcbView) : Bool := (v.cong || !v.sending) && (v.state == .openSt || !v.sending)

def allStates : List CcbState := [.idleSt,.openingSt,.openSt,.closingSt]

-- What a send from a free channel can leave: anything but a free channel with
-- a message part-way out.
def sendViews (state : CcbState) : List CcbView := [⟨state,false,false⟩,⟨state,false,true⟩,⟨state,true,true⟩]

def viewAction (evt : CcbEvt) : CcbAction → CcbView → List CcbView
  | .clearCmds, v => [⟨v.state,false,false⟩]
  | .llClosed, _ => [⟨.idleSt,false,false⟩]
  | .chkReconn, _ => allStates.map (⟨·,false,false⟩)
  | .retCmd, v => ⟨v.state,false,false⟩ :: if v.cong = false ∧ v.sending = false then sendViews v.state else [v]
  | .congState, v => [{v with cong := evt.llcong}]
  | .sndCmd, v => if v.cong = false ∧ v.sending = false then sendViews v.state else [v]
  | .sndMsg, v => if v.cong = false then sendViews v.state else [v]
  | _, v => [v]

def viewEvent (v : CcbView) (evt : CcbEvt) : List CcbView :=
  let row := avdtCcbStTbl v.state evt
  let v := {v with state := row.2.2}
  if row.1 = .ignore then [v]
  else (viewAction evt row.1 v).flatMap fun v1 => if row.2.1 = .ignore then [v1] else viewAction evt row.2.1 v1

def allViews : List CcbView :=
  allStates.flatMap fun state => [⟨state,false,false⟩,⟨state,false,true⟩,⟨state,true,false⟩,⟨state,true,true⟩]

def allEvts : List CcbEvt :=
  [.rcvrsp,.sendmsg,.retTout,.rspTout,.idleTout,.ulOpen,.ulClose,.llOpen,.llClose,.llCong false,.llCong true]

def CcbEvt.resets : CcbEvt → Bool
  | .retTout | .idleTout | .ulClose | .llClose => true
  | _ => false

def CcbAction.cuts : CcbAction → Bool
  | .clearCmds | .retCmd | .chkReconn | .llClosed => true
  | _ => false

theorem viewEvent_table :
    allViews.all (fun v => !v.settled || allEvts.all fun evt => (viewEvent v evt).all CcbView.settled) = true ∧
      allStates.all (fun state => allEvts.all fun evt =>
        evt.resets || !(avdtCcbStTbl state evt).1.cuts && !(avdtCcbStTbl state evt).2.1.cuts) = true := by
  decide

theorem mem_allViews (v : CcbView) : v ∈ allViews := by
  obtain ⟨state,sending,cong⟩ := v
  cases state <;> cases sending <;> cases cong <;> decide

theorem mem_allStates (state : CcbState) : state ∈ allStates := by
  cases state <;> decide

theorem mem_allEvts (evt : CcbEvt) : evt ∈ allEvts := by
  cases evt
  case llCong llcong => cases llcong <;> decide
  all_goals decide

theorem viewEvent_settled {v : CcbView} (settled : v.settled = true) (evt : CcbEvt) :
    ∀ v' ∈ viewEvent v evt, v'.settled = true := by
  have row := List.all_eq_true.mp viewEvent_table.1 v (mem_allViews v)
  rw [settled,Bool.not_true,Bool.false_or] at row
  exact List.all_eq_true.mp (List.all_eq_true.mp row evt (mem_allEvts evt))

theorem cuts_of_row {evt : CcbEvt} (steady : evt.resets = false) (state : CcbState) :
    (avdtCcbStTbl state evt).1.cuts = false ∧ (avdtCcbStTbl state evt).2.1.cuts = false := by
  have row := List.all_eq_true.mp (List.all_eq_true.mp viewEvent_table.2 state (mem_allStates state)) evt
    (mem_allEvts evt)
  simpa [steady] using row

theorem cuts_resets (state : CcbState) (evt : CcbEvt) :
    ((avdtCcbStTbl state evt).1.cuts = true → evt.resets = true) ∧
      ((avdtCcbStTbl state evt).2.1.cuts = true → evt.resets = true) := by
  cases steady : evt.resets
  · obtain ⟨first,second⟩ := cuts_of_row steady state
    exact ⟨fun cut => absurd (first.symm.trans cut) Bool.false_ne_true,
      fun cut => absurd (second.symm.trans cut) Bool.false_ne_true⟩
  · exact ⟨fun _ => rfl,fun _ => rfl⟩

-- An action or a run of them from a CCB keeping the core invariants: it succeeds,
-- keeps them, moves the view as view allows and carries the channel on.
def Acts (mtu : Nat) (cuts : Bool) (view : CcbView → List CcbView)
    (run : CcbSm → List Bool → Option (CcbSm × List CcbOut × List Bool)) : Prop :=
  ∀ sm congested, CcbCore sm.ccb → ∃ sm' out left, run sm congested = some (sm',out,left) ∧ CcbCore sm'.ccb ∧
    sm'.view ∈ view sm.view ∧
    ∀ queued wire whole segs, Channel mtu queued wire whole sm.ccb segs →
      ∃ segs', Channel mtu queued (wire ++ writes out) (whole && !cuts) sm'.ccb segs'

-- What the invariants look at, untouched.
structure Keeps (sm sm' : CcbSm) : Prop where
  state : sm'.state = sm.state
  cmdQ : sm'.ccb.cmdQ = sm.ccb.cmdQ
  rspQ : sm'.ccb.rspQ = sm.ccb.rspQ
  pCurrMsg : sm'.ccb.pCurrMsg = sm.ccb.pCurrMsg
  cong : sm'.ccb.cong = sm.ccb.cong
  retCount : sm'.ccb.retCount = sm.ccb.retCount
  label : sm'.ccb.label = sm.ccb.label

@[simp] theorem writes_nil : writes [] = [] := rfl

@[simp] theorem writes_append (out more : List CcbOut) : writes (out ++ more) = writes out ++ writes more :=
  List.filterMap_append

@[simp] theorem writes_map_write (sent : List BtHdr) : writes (sent.map .write) = sent := by
  rw [writes,List.filterMap_map]
  exact List.filterMap_some

@[simp] theorem writes_cons_cmdFail (cmd : BtHdr) (errCode : Nat) (out : List CcbOut) :
    writes (.cmdFail cmd errCode :: out) = writes out := rfl

@[simp] theorem writes_cons_openReq (out : List CcbOut) : writes (.openReq :: out) = writes out := rfl

@[simp] theorem writes_cons_closeReq (out : List CcbOut) : writes (.closeReq :: out) = writes out := rfl

section Acts

variable {mtu : Nat} {cuts : Bool} {view : CcbView → List CcbView}
  {run : CcbSm → List Bool → Option (CcbSm × List CcbOut × List Bool)}

theorem Channel.mono {queued wire : List BtHdr} {whole whole' : Bool} {ccb : AvdtCcb}
    {segs : List (BtHdr × List (List UInt8))} (chan : Channel mtu queued wire whole ccb segs)
    (implied : whole' = true → whole = true) : Channel mtu queued wire whole' ccb segs :=
  {chan with whole := fun held => chan.whole (implied held)}

theorem Acts.cut (acts : Acts mtu cuts view run) {cuts' : Bool} (more : cuts = true → cuts' = true) :
    Acts mtu cuts' view run := by
  intro sm congested core
  obtain ⟨sm',out,left,ran,core',viewed,chan⟩ := acts sm congested core
  refine ⟨sm',out,left,ran,core',viewed,fun queued wire whole segs before => ?_⟩
  obtain ⟨segs',after⟩ := chan queued wire whole segs before
  refine ⟨segs',after.mono fun held => ?_⟩
  cases cuts <;> cases cuts' <;> simp_all

theorem acts_of_keeps
    (keeps : ∀ sm congested, ∃ sm' out, run sm congested = some (sm',out,congested) ∧ Keeps sm sm' ∧ writes out = []) :
    Acts mtu false (fun v => [v]) run := by
  intro sm congested core
  obtain ⟨sm',out,ran,kept,silent⟩ := keeps sm congested
  refine ⟨sm',out,congested,ran,?_,?_,fun queued wire whole segs chan => ⟨segs,?_⟩⟩
  · exact ⟨by rw [kept.cmdQ]; exact core.cmds,by rw [kept.rspQ]; exact core.rsps,by rw [kept.pCurrMsg]; exact core.current,
      by rw [kept.retCount]; exact core.retCount,by rw [kept.label]; exact core.label⟩
  · simp [CcbSm.view,kept.state,kept.pCurrMsg,kept.cong]
  · rw [silent,List.append_nil,Bool.not_false,Bool.and_true]
    exact ⟨by rw [restOf,kept.pCurrMsg]; exact chan.stream,chan.framed,by rw [kept.pCurrMsg]; exact chan.last,
      by rw [kept.cmdQ]; exact chan.cmds,by rw [kept.rspQ]; exact chan.rsps,chan.whole⟩

theorem Acts.andThen {cuts' : Bool} {view' : CcbView → List CcbView}
    {run' : CcbSm → List Bool → Option (CcbSm × List CcbOut × List Bool)}
    (first : Acts mtu cuts view run) (second : Acts mtu cuts' view' run') :
    Acts mtu (cuts || cuts') (fun v => (view v).flatMap view')
      (fun sm congested => (run sm congested).bind fun (sm1,out,left) =>
        (run' sm1 left).map fun (sm2,more,left') => (sm2,out ++ more,left')) := by
  intro sm congested core
  obtain ⟨sm1,out,left,ran,core1,viewed1,chan1⟩ := first sm congested core
  obtain ⟨sm2,more,left',ran',core2,viewed2,chan2⟩ := second sm1 left core1
  refine ⟨sm2,out ++ more,left',by dsimp only; rw [ran,Option.bind_some,ran',Option.map_some],core2,
    List.mem_flatMap.mpr ⟨_,viewed1,viewed2⟩,fun queued wire whole segs before => ?_⟩
  obtain ⟨segs1,after1⟩ := chan1 queued wire whole segs before
  obtain ⟨segs2,after2⟩ := chan2 queued _ _ segs1 after1
  refine ⟨segs2,?_⟩
  rw [writes_append,← List.append_assoc,Bool.not_or,← Bool.and_assoc]
  exact after2

theorem Acts.view_mono (acts : Acts mtu cuts view run) {view' : CcbView → List CcbView}
    (wider : ∀ v, ∀ w ∈ view v, w ∈ view' v) : Acts mtu cuts view' run := by
  intro sm congested core
  obtain ⟨sm',out,left,ran,core',viewed,chan⟩ := acts sm congested core
  exact ⟨sm',out,left,ran,core',wider _ _ viewed,chan⟩

end Acts

theorem mem_sendViews (state : CcbState) {sending cong : Bool} (flows : cong = false → sending = false) :
    ⟨state,sending,cong⟩ ∈ sendViews state := by
  cases sending <;> cases cong <;> simp_all [sendViews]

theorem Keeps.refl (sm : CcbSm) : Keeps sm sm := ⟨rfl,rfl,rfl,rfl,rfl,rfl,rfl⟩

theorem Keeps.trans {sm sm1 sm2 : CcbSm} (first : Keeps sm sm1) (second : Keeps sm1 sm2) : Keeps sm sm2 :=
  ⟨second.state.trans first.state,second.cmdQ.trans first.cmdQ,second.rspQ.trans first.rspQ,
    second.pCurrMsg.trans first.pCurrMsg,second.cong.trans first.cong,second.retCount.trans first.retCount,
    second.label.trans first.label⟩

theorem Keeps.setCurrCmd {sm sm' : CcbSm} (kept : Keeps sm sm') (curr : Option BtHdr) :
    Keeps sm {sm' with ccb := {sm'.ccb with pCurrCmd := curr}} :=
  ⟨kept.state,kept.cmdQ,kept.rspQ,kept.pCurrMsg,kept.cong,kept.retCount,kept.label⟩

theorem Keeps.view {sm sm' : CcbSm} (kept : Keeps sm sm') : sm'.view = sm.view := by
  rw [CcbSm.view,CcbSm.view,kept.state,kept.pCurrMsg,kept.cong]

section Fail

variable {rcb : Rcb} {scbInUse : Bool} {scbCloses : Nat → ScbMsgEvt → Bool}

theorem ccbChkClose_keeps (sm : CcbSm) :
    Keeps sm {sm with ccb := ccbChkClose rcb scbInUse sm.ccb} ∧ (ccbChkClose rcb scbInUse sm.ccb).pCurrCmd = sm.ccb.pCurrCmd := by
  unfold ccbChkClose
  split <;> exact ⟨⟨rfl,rfl,rfl,rfl,rfl,rfl,rfl⟩,rfl⟩

theorem ccbUlClose_keeps (sm : CcbSm) :
    Keeps sm (ccbUlClose rcb scbInUse sm) ∧ (ccbUlClose rcb scbInUse sm).ccb.pCurrCmd = sm.ccb.pCurrCmd := by
  obtain ⟨state,reconn,ccb⟩ := sm
  cases state with
  | openSt => exact ccbChkClose_keeps _
  | closingSt => exact ⟨⟨rfl,rfl,rfl,rfl,rfl,rfl,rfl⟩,rfl⟩
  | idleSt | openingSt => exact ⟨Keeps.refl _,rfl⟩

theorem ccbFakeRej_cases (cmd : BtHdr) (sm : CcbSm) :
    ccbFakeRej rcb scbInUse scbCloses cmd sm = sm ∨
      ccbFakeRej rcb scbInUse scbCloses cmd sm = {sm with ccb := ccbChkClose rcb scbInUse sm.ccb} ∨
      ccbFakeRej rcb scbInUse scbCloses cmd sm = ccbUlClose rcb scbInUse sm := by
  unfold ccbFakeRej
  split <;> (try split) <;> simp

theorem ccbFakeRej_keeps (cmd : BtHdr) (sm : CcbSm) :
    Keeps sm (ccbFakeRej rcb scbInUse scbCloses cmd sm) ∧
      (ccbFakeRej rcb scbInUse scbCloses cmd sm).ccb.pCurrCmd = sm.ccb.pCurrCmd := by
  rcases ccbFakeRej_cases cmd sm with same | checked | closed
  · rw [same]
    exact ⟨Keeps.refl sm,rfl⟩
  · rw [checked]
    exact ccbChkClose_keeps sm
  · rw [closed]
    exact ccbUlClose_keeps sm

theorem ccbCmdFail_keeps (errCode : Nat) (sm : CcbSm) :
    Keeps sm (ccbCmdFail rcb scbInUse scbCloses errCode sm).1 ∧
      (ccbCmdFail rcb scbInUse scbCloses errCode sm).1.ccb.pCurrCmd = none := by
  unfold ccbCmdFail
  split
  · case h_1 none => exact ⟨Keeps.refl sm,none⟩
  · case h_2 cmd _ => exact ⟨(@ccbFakeRej_keeps rcb scbInUse scbCloses cmd sm).1.setCurrCmd none,rfl⟩

theorem writes_ccbCmdFail (errCode : Nat) (sm : CcbSm) : writes (ccbCmdFail rcb scbInUse scbCloses errCode sm).2 = [] := by
  unfold ccbCmdFail
  split <;> rfl

theorem ccbCmdFail_snd (errCode : Nat) (sm : CcbSm) :
    (ccbCmdFail rcb scbInUse scbCloses errCode sm).2 = sm.ccb.pCurrCmd.toList.map (.cmdFail · errCode) := by
  unfold ccbCmdFail
  split <;> simp_all

theorem clearCmdsLoop_snd (errCode : Nat) (queue : List BtHdr) (sm : CcbSm) :
    (clearCmdsLoop rcb scbInUse scbCloses errCode queue sm).2 =
      (sm.ccb.pCurrCmd.toList ++ queue).map (.cmdFail · errCode) := by
  induction queue generalizing sm with
  | nil => rw [clearCmdsLoop,ccbCmdFail_snd,List.append_nil]
  | cons next rest ih =>
    rw [clearCmdsLoop]
    dsimp only
    rw [ih,ccbCmdFail_snd,← List.map_append]
    rfl

theorem clearCmdsLoop_cons (errCode : Nat) (next : BtHdr) (rest : List BtHdr) (sm : CcbSm) :
    clearCmdsLoop rcb scbInUse scbCloses errCode (next :: rest) sm =
      let failed := ccbCmdFail rcb scbInUse scbCloses errCode sm
      let sm' := {failed.1 with ccb := {failed.1.ccb with pCurrCmd := some next,cmdQ := rest}}
      ((clearCmdsLoop rcb scbInUse scbCloses errCode rest sm').1,
        failed.2 ++ (clearCmdsLoop rcb scbInUse scbCloses errCode rest sm').2) :=
  rfl

-- The induction is on the queue it pops.
theorem clearCmdsLoop_spec (errCode : Nat) (queue : List BtHdr) (sm : CcbSm) (popping : sm.ccb.cmdQ = queue) :
    Keeps {sm with ccb := {sm.ccb with cmdQ := []}} (clearCmdsLoop rcb scbInUse scbCloses errCode queue sm).1 ∧
      (clearCmdsLoop rcb scbInUse scbCloses errCode queue sm).1.ccb.pCurrCmd = none ∧
      writes (clearCmdsLoop rcb scbInUse scbCloses errCode queue sm).2 = [] := by
  induction queue generalizing sm with
  | nil =>
    obtain ⟨kept,freed⟩ := @ccbCmdFail_keeps rcb scbInUse scbCloses errCode sm
    rw [clearCmdsLoop]
    exact ⟨⟨kept.state,kept.cmdQ.trans popping,kept.rspQ,kept.pCurrMsg,kept.cong,kept.retCount,kept.label⟩,freed,
      writes_ccbCmdFail errCode sm⟩
  | cons next rest ih =>
    obtain ⟨kept,-⟩ := @ccbCmdFail_keeps rcb scbInUse scbCloses errCode sm
    -- the next command is dequeued into p_curr_cmd
    let popped : CcbSm := {(ccbCmdFail rcb scbInUse scbCloses errCode sm).1 with
      ccb := {(ccbCmdFail rcb scbInUse scbCloses errCode sm).1.ccb with pCurrCmd := some next,cmdQ := rest}}
    obtain ⟨kept',freed,silent⟩ := ih popped rfl
    have emptied : Keeps {sm with ccb := {sm.ccb with cmdQ := []}} {popped with ccb := {popped.ccb with cmdQ := []}} :=
      ⟨kept.state,rfl,kept.rspQ,kept.pCurrMsg,kept.cong,kept.retCount,kept.label⟩
    rw [clearCmdsLoop_cons]
    exact ⟨emptied.trans kept',freed,by rw [writes_append,silent,writes_ccbCmdFail,List.append_nil]⟩

theorem ccbClearCmds_spec (sm : CcbSm) :
    Keeps {sm with ccb := {ccbClearCcb sm.ccb with cmdQ := []}} (ccbClearCmds rcb scbInUse scbCloses sm).1 ∧
      (ccbClearCmds rcb scbInUse scbCloses sm).1.ccb.pCurrCmd = none ∧
      writes (ccbClearCmds rcb scbInUse scbCloses sm).2 = [] :=
  clearCmdsLoop_spec avdtErrConnect sm.ccb.cmdQ {sm with ccb := ccbClearCcb sm.ccb} rfl

theorem ccbDoDisconn_eq (sm : CcbSm) :
    ccbDoDisconn rcb scbInUse scbCloses sm =
      ((ccbClearCmds rcb scbInUse scbCloses sm).1,(ccbClearCmds rcb scbInUse scbCloses sm).2 ++ [.closeReq]) :=
  rfl

theorem writes_ccbDoDisconn (sm : CcbSm) : writes (ccbDoDisconn rcb scbInUse scbCloses sm).2 = [] := by
  rw [ccbDoDisconn_eq,writes_append,(ccbClearCmds_spec sm).2.2]
  rfl

theorem ccbDoDisconn_snd (sm : CcbSm) :
    (ccbDoDisconn rcb scbInUse scbCloses sm).2 =
      (sm.ccb.pCurrCmd.toList ++ sm.ccb.cmdQ).map (.cmdFail · avdtErrConnect) ++ [.closeReq] := by
  rw [ccbDoDisconn_eq,ccbClearCmds,clearCmdsLoop_snd]
  rfl

end Fail

-- Whether a command's faked reject reaches avdt_ccb_chk_close from the open
-- state.
def chkClosesOnFail (scbCloses : Nat → ScbMsgEvt → Bool) (cmd : BtHdr) : Bool :=
  match (tableAt avdtMsgRej2Evt cmd.event).join with
  | some (.ccb .discoverRsp) | some (.ccb .getcapRsp) => true
  | some (.scb evt) => scbCloses (cmdHdl cmd) evt
  | _ => false

section Open

variable {rcb : Rcb} {scbInUse : Bool} {scbCloses : Nat → ScbMsgEvt → Bool}

theorem ccbFakeRej_open {sm : CcbSm} (opened : sm.state = .openSt) (cmd : BtHdr) :
    ccbFakeRej rcb scbInUse scbCloses cmd sm =
      {sm with ccb := if chkClosesOnFail scbCloses cmd then ccbChkClose rcb scbInUse sm.ccb else sm.ccb} := by
  obtain ⟨state,reconn,ccb⟩ := sm
  cases opened
  unfold ccbFakeRej chkClosesOnFail
  rcases (tableAt avdtMsgRej2Evt cmd.event).join with _ | ⟨evt | evt⟩
  · rfl
  · cases evt <;> rfl
  · dsimp only
    split_ifs <;> rfl

theorem ccbCmdFail_open {sm : CcbSm} (opened : sm.state = .openSt) (errCode : Nat) :
    (ccbCmdFail rcb scbInUse scbCloses errCode sm).1 =
      {sm with ccb := {if sm.ccb.pCurrCmd.toList.any (chkClosesOnFail scbCloses) then ccbChkClose rcb scbInUse sm.ccb
        else sm.ccb with pCurrCmd := none}} := by
  unfold ccbCmdFail
  split
  · case h_1 none =>
    obtain ⟨state,reconn,ccb⟩ := sm
    cases ccb
    simp_all
  · case h_2 cmd current =>
    rw [ccbFakeRej_open opened]
    simp [current]

@[simp] theorem ccbClearCcb_pCurrCmd (ccb : AvdtCcb) : (ccbClearCcb ccb).pCurrCmd = ccb.pCurrCmd := rfl

theorem clearCmdsLoop_open (errCode : Nat) (queue : List BtHdr) (sm : CcbSm) (popping : sm.ccb.cmdQ = queue)
    (opened : sm.state = .openSt) :
    (clearCmdsLoop rcb scbInUse scbCloses errCode queue sm).1 =
      {sm with ccb := {if (sm.ccb.pCurrCmd.toList ++ queue).any (chkClosesOnFail scbCloses) then
        ccbChkClose rcb scbInUse sm.ccb else sm.ccb with pCurrCmd := none,cmdQ := []}} := by
  induction queue generalizing sm with
  | nil =>
    rw [clearCmdsLoop,ccbCmdFail_open opened,List.append_nil]
    obtain ⟨state,reconn,⟨label,cmdQ,rspQ,pCurrCmd,pCurrMsg,pRxMsg,cong,retCount,idle,rsp,ret⟩⟩ := sm
    cases popping
    generalize pCurrCmd.toList.any (chkClosesOnFail scbCloses) = current
    cases current <;> cases scbInUse <;> rfl
  | cons next rest ih =>
    rw [clearCmdsLoop_cons]
    dsimp only
    rw [ih _ rfl (by rw [ccbCmdFail_open opened]; exact opened),ccbCmdFail_open opened]
    simp only [List.any_append,Option.toList_some,List.any_cons,List.any_nil,Bool.or_false]
    generalize sm.ccb.pCurrCmd.toList.any (chkClosesOnFail scbCloses) = first
    generalize (chkClosesOnFail scbCloses next || rest.any (chkClosesOnFail scbCloses)) = later
    cases first <;> cases later <;> cases scbInUse <;> rfl

theorem ccbClearCmds_open {sm : CcbSm} (opened : sm.state = .openSt) :
    (ccbClearCmds rcb scbInUse scbCloses sm).1 =
      {sm with ccb := {ccbClearCcb (if (sm.ccb.pCurrCmd.toList ++ sm.ccb.cmdQ).any (chkClosesOnFail scbCloses) then
        ccbChkClose rcb scbInUse sm.ccb else sm.ccb) with pCurrCmd := none,cmdQ := []}} := by
  rw [ccbClearCmds,clearCmdsLoop_open avdtErrConnect sm.ccb.cmdQ {sm with ccb := ccbClearCcb sm.ccb} rfl opened]
  dsimp only
  rw [ccbClearCcb_pCurrCmd]
  generalize (sm.ccb.pCurrCmd.toList ++ sm.ccb.cmdQ).any (chkClosesOnFail scbCloses) = cleared
  cases cleared <;> cases scbInUse <;> rfl

end Open

theorem CcbCore.cleared {ccb : AvdtCcb} (core : CcbCore ccb) {ccb' : AvdtCcb} (idle : ccb'.pCurrMsg = none)
    (retCount : ccb'.retCount = 0) (label : ccb'.label < 16)
    (cmds : ∃ dropped, ccb.cmdQ = dropped ++ ccb'.cmdQ) (rsps : ∃ dropped, ccb.rspQ = dropped ++ ccb'.rspQ) :
    CcbCore ccb' := by
  obtain ⟨droppedC,splitC⟩ := cmds
  obtain ⟨droppedR,splitR⟩ := rsps
  refine ⟨fun msg held => core.cmds msg ?_,fun msg held => core.rsps msg ?_,?_,retCount,label⟩
  · rw [splitC]
    exact List.mem_append_right _ held
  · rw [splitR]
    exact List.mem_append_right _ held
  · intro curr current
    cases idle.symm.trans current

theorem ccbAlloc_core : CcbCore ccbAlloc :=
  ⟨(fun _ held => by cases held),(fun _ held => by cases held),(fun _ current => by cases current),rfl,by decide⟩

section Dispatch

variable {peerMtu : PeerMtu} {rcb : Rcb} {scbInUse : Bool} {scbCloses : Nat → ScbMsgEvt → Bool}

-- What the event avdt_ccb_chk_reconn raises must do: move only the state.
def NestedOk (mtu : Nat) (nested : CcbSm → CcbEvt → List Bool → Option (CcbSm × List CcbOut × List Bool)) : Prop :=
  Acts mtu false (fun v => allStates.map fun state => {v with state}) fun sm congested => nested sm .ulOpen congested

theorem acts_of_clears {mtu : Nat} {view : CcbView → List CcbView}
    {run : CcbSm → List Bool → Option (CcbSm × List CcbOut × List Bool)}
    (clears : ∀ sm congested, CcbCore sm.ccb → ∃ sm' out, run sm congested = some (sm',out,congested) ∧
      sm'.ccb.pCurrMsg = none ∧ sm'.ccb.retCount = 0 ∧ sm'.ccb.label < 16 ∧
      (∃ dropped, sm.ccb.cmdQ = dropped ++ sm'.ccb.cmdQ) ∧ (∃ dropped, sm.ccb.rspQ = dropped ++ sm'.ccb.rspQ) ∧
      writes out = [] ∧ sm'.view ∈ view sm.view) :
    Acts mtu true view run := by
  intro sm congested core
  obtain ⟨sm',out,ran,idle,retCount,label,cmds,rsps,silent,viewed⟩ := clears sm congested core
  refine ⟨sm',out,congested,ran,core.cleared idle retCount label cmds rsps,viewed,fun queued wire whole segs chan => ?_⟩
  rw [silent,List.append_nil,Bool.not_true,Bool.and_false]
  exact chan.clear idle cmds rsps

-- ret_count is back at zero, so the first expiry already reaches
-- AVDT_RET_MAX: the command fails and the channel is disconnected.
theorem ccbRetCmd_of_retCount {sm : CcbSm} (retCount : sm.ccb.retCount = 0) (congested : List Bool) :
    ccbRetCmd peerMtu rcb scbInUse scbCloses sm congested =
      let failed := ccbCmdFail rcb scbInUse scbCloses avdtErrTimeout {sm with ccb := {sm.ccb with retCount := 0}}
      some ((ccbDoDisconn rcb scbInUse scbCloses failed.1).1,
        failed.2 ++ (ccbDoDisconn rcb scbInUse scbCloses failed.1).2,congested) := by
  have reached : (sm.ccb.retCount + 1) % 256 = avdtRetMax := by rw [retCount]; rfl
  rw [ccbRetCmd]
  dsimp only
  rw [if_pos reached]

theorem ccbAction_acts {nested : CcbSm → CcbEvt → List Bool → Option (CcbSm × List CcbOut × List Bool)}
    (evt : CcbEvt) (a : CcbAction) (nestedOk : a = .chkReconn → NestedOk peerMtu.mtu nested) :
    Acts peerMtu.mtu a.cuts (viewAction evt a) (ccbAction peerMtu rcb scbInUse scbCloses nested evt a) := by
  cases a with
  | chanOpen => exact acts_of_keeps fun sm congested => ⟨sm,_,rfl,⟨rfl,rfl,rfl,rfl,rfl,rfl,rfl⟩,rfl⟩
  | chanClose => exact acts_of_keeps fun sm congested => ⟨sm,_,rfl,⟨rfl,rfl,rfl,rfl,rfl,rfl,rfl⟩,rfl⟩
  | chkClose =>
    refine acts_of_keeps fun sm congested => ⟨_,_,rfl,?_,rfl⟩
    unfold ccbChkClose
    split <;> exact ⟨rfl,rfl,rfl,rfl,rfl,rfl,rfl⟩
  | clearCmds =>
    refine acts_of_clears fun sm congested core => ⟨_,_,rfl,?_⟩
    obtain ⟨kept,-,silent⟩ := @ccbClearCmds_spec rcb scbInUse scbCloses sm
    refine ⟨kept.pCurrMsg,kept.retCount,kept.label ▸ core.label,⟨sm.ccb.cmdQ,by rw [kept.cmdQ]; simp⟩,
      ⟨sm.ccb.rspQ,by rw [kept.rspQ]; simp [ccbClearCcb]⟩,silent,?_⟩
    rw [kept.view]
    exact List.mem_singleton_self _
  | cmdFail => exact acts_of_keeps fun sm congested => ⟨_,_,rfl,(ccbCmdFail_keeps _ sm).1,writes_ccbCmdFail _ _⟩
  | freeCmd => exact acts_of_keeps fun sm congested => ⟨_,_,rfl,⟨rfl,rfl,rfl,rfl,rfl,rfl,rfl⟩,rfl⟩
  | congState =>
    intro sm congested core
    refine ⟨_,[],congested,rfl,⟨core.cmds,core.rsps,core.current,core.retCount,core.label⟩,List.mem_singleton_self _,
      fun queued wire whole segs chan => ⟨segs,?_⟩⟩
    dsimp only [CcbAction.cuts]
    rw [writes_nil,List.append_nil,Bool.not_false,Bool.and_true]
    exact ⟨chan.stream,chan.framed,chan.last,chan.cmds,chan.rsps,chan.whole⟩
  | retCmd =>
    refine acts_of_clears fun sm congested core => ?_
    -- the command fails, then avdt_ccb_do_disconn clears the CCB
    obtain ⟨keptFailed,-⟩ :=
      @ccbCmdFail_keeps rcb scbInUse scbCloses avdtErrTimeout {sm with ccb := {sm.ccb with retCount := 0}}
    have silentFail :=
      @writes_ccbCmdFail rcb scbInUse scbCloses avdtErrTimeout {sm with ccb := {sm.ccb with retCount := 0}}
    rw [ccbAction,ccbRetCmd_of_retCount core.retCount]
    dsimp only
    rw [ccbDoDisconn_eq]
    dsimp only
    generalize ccbCmdFail rcb scbInUse scbCloses avdtErrTimeout {sm with ccb := {sm.ccb with retCount := 0}} = failed
      at keptFailed silentFail ⊢
    obtain ⟨kept,-,silent⟩ := @ccbClearCmds_spec rcb scbInUse scbCloses failed.1
    refine ⟨_,_,rfl,kept.pCurrMsg,kept.retCount,(kept.label.trans keptFailed.label) ▸ core.label,
      ⟨sm.ccb.cmdQ,by rw [kept.cmdQ]; simp⟩,⟨sm.ccb.rspQ,by rw [kept.rspQ]; simp [ccbClearCcb]⟩,?_,?_⟩
    · rw [writes_append,writes_append,silent,silentFail]
      rfl
    · rw [kept.view]
      show ⟨failed.1.state,false,false⟩ ∈ viewAction evt .retCmd sm.view
      rw [keptFailed.state]
      exact List.mem_cons_self
  | sndCmd =>
    intro sm congested core
    obtain ⟨ccb',sent,left,ran,core',outcome,chan⟩ := @ccbSndCmd_spec peerMtu rcb sm.ccb core congested
    refine ⟨{sm with ccb := ccb'},sent.map .write,left,by rw [ccbAction,sendAction,ran]; rfl,core',?_,?_⟩
    · rcases outcome with ⟨rfl,-⟩ | ⟨free,idle,flows⟩
      · show sm.view ∈ viewAction evt .sndCmd sm.view
        rw [viewAction]
        split_ifs with clear
        · exact mem_sendViews sm.state fun _ => clear.2
        · exact List.mem_singleton_self _
      · show ⟨sm.state,ccb'.pCurrMsg.isSome,ccb'.cong⟩ ∈ viewAction evt .sndCmd sm.view
        rw [viewAction,if_pos ⟨free,by simp [CcbSm.view,idle]⟩]
        exact mem_sendViews _ fun held => by simp [flows held]
    · intro queued wire whole segs before
      dsimp only [CcbAction.cuts]
      rw [writes_map_write,Bool.not_false,Bool.and_true]
      exact chan queued wire whole segs before
  | sndMsg =>
    intro sm congested core
    obtain ⟨ccb',sent,left,ran,core',outcome,chan⟩ := @ccbSndMsg_spec peerMtu rcb sm.ccb core congested
    refine ⟨{sm with ccb := ccb'},sent.map .write,left,by rw [ccbAction,sendAction,ran]; rfl,core',?_,?_⟩
    · rcases outcome with ⟨held,rfl,-⟩ | ⟨free,flows⟩
      · show sm.view ∈ viewAction evt .sndMsg sm.view
        rw [viewAction,if_neg (by simp [CcbSm.view,held])]
        exact List.mem_singleton_self _
      · show ⟨sm.state,ccb'.pCurrMsg.isSome,ccb'.cong⟩ ∈ viewAction evt .sndMsg sm.view
        rw [viewAction,if_pos (show sm.view.cong = false from free)]
        exact mem_sendViews _ fun held => by simp [flows held]
    · intro queued wire whole segs before
      dsimp only [CcbAction.cuts]
      rw [writes_map_write,Bool.not_false,Bool.and_true]
      exact chan queued wire whole segs before
  | setReconn => exact acts_of_keeps fun sm congested => ⟨_,_,rfl,⟨rfl,rfl,rfl,rfl,rfl,rfl,rfl⟩,rfl⟩
  | clrReconn => exact acts_of_keeps fun sm congested => ⟨_,_,rfl,⟨rfl,rfl,rfl,rfl,rfl,rfl,rfl⟩,rfl⟩
  | chkReconn =>
    intro sm congested core
    by_cases reconn : sm.reconn = true
    · -- cleared, the current command failed, then the channel opened again
      have cleared : Acts peerMtu.mtu true (fun v => [⟨v.state,false,false⟩]) fun sm congested =>
          some ((ccbCmdFail rcb scbInUse scbCloses avdtErrConnect {sm with reconn := false,ccb := ccbClearCcb sm.ccb}).1,
            (ccbCmdFail rcb scbInUse scbCloses avdtErrConnect {sm with reconn := false,ccb := ccbClearCcb sm.ccb}).2,
            congested) := by
        refine acts_of_clears fun sm congested core => ⟨_,_,rfl,?_⟩
        obtain ⟨kept,-⟩ :=
          @ccbCmdFail_keeps rcb scbInUse scbCloses avdtErrConnect {sm with reconn := false,ccb := ccbClearCcb sm.ccb}
        refine ⟨kept.pCurrMsg,kept.retCount,kept.label ▸ core.label,⟨[],kept.cmdQ.symm⟩,
          ⟨sm.ccb.rspQ,by rw [kept.rspQ]; simp [ccbClearCcb]⟩,writes_ccbCmdFail _ _,?_⟩
        rw [kept.view]
        exact List.mem_singleton_self _
      obtain ⟨sm',out,left,ran,core',viewed,chan⟩ := (cleared.andThen (nestedOk rfl)) sm congested core
      refine ⟨sm',out,left,?_,core',?_,chan⟩
      · rw [← ran,ccbAction,if_pos reconn]
        rfl
      · obtain ⟨middle,held,viewed⟩ := List.mem_flatMap.mp viewed
        rw [List.mem_singleton] at held
        subst held
        obtain ⟨state,-,same⟩ := List.mem_map.mp viewed
        rw [← same]
        exact List.mem_map.mpr ⟨state,mem_allStates state,rfl⟩
    · refine ⟨ccbSmAlloc,(ccbClearCmds rcb scbInUse scbCloses sm).2,congested,by rw [ccbAction,if_neg reconn]; rfl,
        ccbAlloc_core,List.mem_map.mpr ⟨.idleSt,mem_allStates _,rfl⟩,fun queued wire whole segs chan => ?_⟩
      dsimp only [CcbAction.cuts]
      rw [(ccbClearCmds_spec sm).2.2,List.append_nil,Bool.not_true,Bool.and_false]
      exact chan.clear rfl ⟨sm.ccb.cmdQ,(List.append_nil _).symm⟩ ⟨sm.ccb.rspQ,(List.append_nil _).symm⟩
  | chkTimer => exact acts_of_keeps fun sm congested => ⟨_,_,rfl,⟨rfl,rfl,rfl,rfl,rfl,rfl,rfl⟩,rfl⟩
  | llClosed =>
    refine acts_of_clears fun sm congested _ => ⟨_,_,rfl,rfl,rfl,ccbAlloc_core.label,⟨sm.ccb.cmdQ,(List.append_nil _).symm⟩,
      ⟨sm.ccb.rspQ,(List.append_nil _).symm⟩,(ccbClearCmds_spec sm).2.2,List.mem_singleton_self _⟩
  | llOpened => exact acts_of_keeps fun sm congested => ⟨_,_,rfl,⟨rfl,rfl,rfl,rfl,rfl,rfl,rfl⟩,rfl⟩
  | ignore => exact acts_of_keeps fun sm congested => ⟨_,_,rfl,⟨rfl,rfl,rfl,rfl,rfl,rfl,rfl⟩,rfl⟩

-- A row with one action runs it on the CCB in the next state.
theorem ccbEventWith_single
    {act : CcbEvt → CcbAction → CcbSm → List Bool → Option (CcbSm × List CcbOut × List Bool)} {sm : CcbSm}
    {evt : CcbEvt} {a : CcbAction} {next : CcbState} (row : avdtCcbStTbl sm.state evt = (a,.ignore,next))
    (acts : a ≠ .ignore) (congested : List Bool) :
    ccbEventWith act sm evt congested = act evt a {sm with state := next} congested := by
  simp only [ccbEventWith,row,acts,if_false,if_true]
  cases act evt a {sm with state := next} congested <;> rfl

theorem ccbEventWith_acts {mtu : Nat}
    {act : CcbEvt → CcbAction → CcbSm → List Bool → Option (CcbSm × List CcbOut × List Bool)} {evt : CcbEvt}
    (acts : ∀ state, Acts mtu (avdtCcbStTbl state evt).1.cuts (viewAction evt (avdtCcbStTbl state evt).1)
        (act evt (avdtCcbStTbl state evt).1) ∧
      Acts mtu (avdtCcbStTbl state evt).2.1.cuts (viewAction evt (avdtCcbStTbl state evt).2.1)
        (act evt (avdtCcbStTbl state evt).2.1)) :
    Acts mtu evt.resets (fun v => viewEvent v evt) fun sm congested => ccbEventWith act sm evt congested := by
  intro sm congested core
  obtain ⟨first,second⟩ := acts sm.state
  obtain ⟨cutFirst,cutSecond⟩ := cuts_resets sm.state evt
  -- the next state is set before the actions run
  have set : CcbCore {sm with state := (avdtCcbStTbl sm.state evt).2.2}.ccb := core
  by_cases idle : (avdtCcbStTbl sm.state evt).1 = .ignore
  · refine ⟨{sm with state := (avdtCcbStTbl sm.state evt).2.2},[],congested,?_,core,?_,
      fun queued wire whole segs chan => ⟨segs,?_⟩⟩
    · dsimp only [ccbEventWith]
      rw [if_pos idle]
    · dsimp only [viewEvent]
      rw [if_pos (show (avdtCcbStTbl sm.view.state evt).1 = .ignore from idle)]
      exact List.mem_singleton_self _
    rw [writes_nil,List.append_nil]
    exact (chan.weaken _ : Channel mtu queued wire (whole && !evt.resets) sm.ccb segs)
  · obtain ⟨sm1,out,left,ran,core1,viewed1,chan1⟩ := first _ congested set
    by_cases alone : (avdtCcbStTbl sm.state evt).2.1 = .ignore
    · refine ⟨sm1,out,left,?_,core1,?_,?_⟩
      · dsimp only [ccbEventWith]
        rw [if_neg idle,ran,Option.bind_some]
        dsimp only
        rw [if_pos alone]
      · dsimp only [viewEvent]
        rw [if_neg (show ¬(avdtCcbStTbl sm.view.state evt).1 = .ignore from idle),List.mem_flatMap]
        refine ⟨_,viewed1,?_⟩
        rw [if_pos (show (avdtCcbStTbl sm.view.state evt).2.1 = .ignore from alone)]
        exact List.mem_singleton_self _
      · intro queued wire whole segs chan
        obtain ⟨segs',after⟩ := chan1 queued wire whole segs chan
        refine ⟨segs',after.mono fun held => ?_⟩
        cases cut : (avdtCcbStTbl sm.state evt).1.cuts <;> simp_all
    · obtain ⟨sm2,more,left',ran',core2,viewed2,chan2⟩ := second sm1 left core1
      refine ⟨sm2,out ++ more,left',?_,core2,?_,?_⟩
      · dsimp only [ccbEventWith]
        rw [if_neg idle,ran,Option.bind_some]
        dsimp only
        rw [if_neg alone,ran',Option.map_some]
      · dsimp only [viewEvent]
        rw [if_neg (show ¬(avdtCcbStTbl sm.view.state evt).1 = .ignore from idle),List.mem_flatMap]
        refine ⟨_,viewed1,?_⟩
        rw [if_neg (show ¬(avdtCcbStTbl sm.view.state evt).2.1 = .ignore from alone)]
        exact viewed2
      · intro queued wire whole segs chan
        obtain ⟨segs1,after1⟩ := chan1 queued wire whole segs chan
        obtain ⟨segs2,after2⟩ := chan2 queued _ _ segs1 after1
        refine ⟨segs2,?_⟩
        rw [writes_append,← List.append_assoc]
        refine after2.mono fun held => ?_
        cases cut1 : (avdtCcbStTbl sm.state evt).1.cuts <;> cases cut2 : (avdtCcbStTbl sm.state evt).2.1.cuts <;>
          simp_all

theorem viewEvent_ulOpen (v : CcbView) : ∀ w ∈ viewEvent v .ulOpen, w ∈ allStates.map fun state => {v with state} := by
  obtain ⟨state,sending,cong⟩ := v
  cases state <;> cases sending <;> cases cong <;> decide

theorem nestedEvent_ok :
    NestedOk peerMtu.mtu (ccbEventWith (ccbAction peerMtu rcb scbInUse scbCloses fun _ _ _ => none)) := by
  have acts := @ccbEventWith_acts peerMtu.mtu (ccbAction peerMtu rcb scbInUse scbCloses fun _ _ _ => none) .ulOpen
    fun state => ⟨ccbAction_acts _ _ (by cases state <;> intro reconn <;> cases reconn),
      ccbAction_acts _ _ (by cases state <;> intro reconn <;> cases reconn)⟩
  exact (acts.cut fun resets => by cases resets).view_mono viewEvent_ulOpen

theorem ccbEvent_acts (evt : CcbEvt) :
    Acts peerMtu.mtu evt.resets (fun v => viewEvent v evt) fun sm congested =>
      ccbEvent peerMtu rcb scbInUse scbCloses sm evt congested :=
  ccbEventWith_acts fun _ => ⟨ccbAction_acts _ _ fun _ => nestedEvent_ok,ccbAction_acts _ _ fun _ => nestedEvent_ok⟩

end Dispatch

def CcbInput.fits : CcbInput → Bool
  | .sendCmd _ _ params | .sendRsp _ _ params => decide (params.length ≤ avdtCmdBufSize - btHdrSize - avdtMsgOffset)
  | _ => true

def CcbInput.resets : CcbInput → Bool
  | .event evt => evt.resets
  | _ => false

-- Between inputs: the core invariants, and nothing part-way out on a free
-- channel or outside the open state.
structure CcbInv (sm : CcbSm) : Prop where
  core : CcbCore sm.ccb
  settled : sm.view.settled = true

theorem ccbSmAlloc_inv : CcbInv ccbSmAlloc := ⟨ccbAlloc_core,rfl⟩

theorem Queued.isCmd_eq {label msgType : Nat} {msg : BtHdr} (queued : Queued label msgType msg) :
    isCmd msg = (msgType == avdtMsgTypeCmd) := by
  rw [isCmd,queued.layer,(avdtLayerspec_bld queued.labelSmall (by have := queued.msgTypeSmall; omega)).2]

theorem msgBuf_queued {msgType label : Nat} (msgTypeSmall : msgType < 4) (labelSmall : label < 16) (sigId : Nat)
    {params : List UInt8} (room : params.length ≤ avdtCmdBufSize - btHdrSize - avdtMsgOffset) :
    ∃ buf, msgBuf msgType label sigId params = some buf ∧ Queued label msgType buf ∧ buf.bytes = params := by
  have roomy := cmdBufRoom
  obtain ⟨data,written,length⟩ :=
    @Buffer.exists_write _ (List.replicate (avdtCmdBufSize - btHdrSize) 0) params avdtMsgOffset
      (by rw [List.length_replicate]; omega)
  rw [List.length_replicate] at length
  refine ⟨⟨sigId,params.length,avdtMsgOffset,avdtBldLayerspec msgType label,data⟩,
    by rw [msgBuf,written,Option.map_some],⟨length,rfl,?_,rfl,labelSmall,msgTypeSmall⟩,Buffer.slice_write_same written⟩
  show avdtMsgOffset + params.length ≤ data.length
  omega

theorem msgSendCmdBuf_queued {label : Nat} (labelSmall : label < 16) (pScb : Option (List UInt8)) (sigId : Nat)
    {params : List UInt8} (room : params.length ≤ avdtCmdBufSize - btHdrSize - avdtMsgOffset) :
    ∃ buf, msgSendCmdBuf label pScb sigId params = some buf ∧ Queued label avdtMsgTypeCmd buf := by
  obtain ⟨buf,built,queued,-⟩ := @msgBuf_queued avdtMsgTypeCmd label (by decide) labelSmall sigId params room
  cases pScb with
  | none => exact ⟨buf,by rw [msgSendCmdBuf,built]; rfl,queued⟩
  | some hdls =>
    have stamp : ∀ n ≤ buf.data.length, ∃ data, Buffer.write buf.data 0 (hdls.take n) = some data ∧
        Queued label avdtMsgTypeCmd {buf with data} := by
      intro n within
      obtain ⟨data,written,length⟩ :=
        Buffer.exists_write (show 0 + (hdls.take n).length ≤ buf.data.length by rw [List.length_take]; omega)
      refine ⟨data,written,⟨length.trans queued.size,queued.atStart,?_,queued.layer,queued.labelSmall,
        queued.msgTypeSmall⟩⟩
      show buf.offset + buf.len ≤ data.length
      rw [length]
      exact queued.fits
    have size := queued.size
    have fits := queued.fits
    by_cases startish : sigId = avdtSigStart ∨ sigId = avdtSigSuspend
    · obtain ⟨data,written,stamped⟩ := stamp buf.len (by omega)
      exact ⟨_,by simp only [msgSendCmdBuf,built,Option.bind_some,if_pos startish,written,Option.map_some],stamped⟩
    · obtain ⟨data,written,stamped⟩ := stamp 1 (by rw [size]; decide)
      exact ⟨_,by simp only [msgSendCmdBuf,built,Option.bind_some,if_neg startish,written,Option.map_some],stamped⟩

theorem rejParams_length (sigId errCode errParam : Nat) : (rejParams sigId errCode errParam).length ≤ 2 := by
  unfold rejParams
  split_ifs <;> simp

section Inputs

variable {peerMtu : PeerMtu} {rcb : Rcb}

theorem CcbInv.view_eq {sm : CcbSm} {ccb : AvdtCcb} (current : ccb.pCurrMsg = sm.ccb.pCurrMsg)
    (cong : ccb.cong = sm.ccb.cong) : ({sm with ccb} : CcbSm).view = sm.view := by
  show (⟨sm.state,ccb.pCurrMsg.isSome,ccb.cong⟩ : CcbView) = ⟨sm.state,sm.ccb.pCurrMsg.isSome,sm.ccb.cong⟩
  rw [current,cong]

theorem enqueued_spec {sm : CcbSm} (inv : CcbInv sm) {buf : BtHdr} (sendable : Sendable buf) {ccb : AvdtCcb}
    (current : ccb.pCurrMsg = sm.ccb.pCurrMsg) (cong : ccb.cong = sm.ccb.cong) (retCount : ccb.retCount = 0)
    (label : ccb.label < 16)
    (pushed : isCmd buf = true ∧ ccb.cmdQ = sm.ccb.cmdQ ++ [buf] ∧ ccb.rspQ = sm.ccb.rspQ ∨
      isCmd buf = false ∧ ccb.rspQ = sm.ccb.rspQ ++ [buf] ∧ ccb.cmdQ = sm.ccb.cmdQ)
    (world : World) :
    ∃ sm' out left, ccbEvent peerMtu rcb world.scbInUse world.scbCloses {sm with ccb} .sendmsg world.congested =
      some (sm',out,left) ∧
      CcbInv sm' ∧ ∀ queued wire whole segs, Channel peerMtu.mtu queued wire whole sm.ccb segs →
        ∃ segs', Channel peerMtu.mtu (queued ++ [buf]) (wire ++ writes out) whole sm'.ccb segs' := by
  have core : CcbCore ccb := by
    refine ⟨fun msg held => ?_,fun msg held => ?_,fun curr held => inv.core.current curr (current ▸ held),retCount,
      label⟩
    · rcases pushed with ⟨command,tail,-⟩ | ⟨-,-,same⟩
      · rw [tail] at held
        rcases List.mem_append.mp held with old | new
        · exact inv.core.cmds msg old
        · rw [List.mem_singleton.mp new]
          exact ⟨sendable,command⟩
      · exact inv.core.cmds msg (same ▸ held)
    · rcases pushed with ⟨-,-,same⟩ | ⟨response,tail,-⟩
      · exact inv.core.rsps msg (same ▸ held)
      · rw [tail] at held
        rcases List.mem_append.mp held with old | new
        · exact inv.core.rsps msg old
        · rw [List.mem_singleton.mp new]
          exact ⟨sendable,response⟩
  obtain ⟨sm',out,left,ran,core',viewed,chan⟩ :=
    @ccbEvent_acts peerMtu rcb world.scbInUse world.scbCloses .sendmsg {sm with ccb} world.congested core
  rw [CcbInv.view_eq current cong] at viewed
  refine ⟨sm',out,left,ran,⟨core',viewEvent_settled inv.settled .sendmsg _ viewed⟩,?_⟩
  intro queued wire whole segs before
  obtain ⟨segs',after⟩ := chan _ wire whole segs (before.enqueue current pushed)
  exact ⟨segs',(Bool.and_true whole) ▸ after⟩

theorem queueRsp_spec {sm : CcbSm} (inv : CcbInv sm) (world : World) {msgType : Nat} (msgTypeSmall : msgType < 4)
    (response : (msgType == avdtMsgTypeCmd) = false) (sigId : Nat) (label : Fin 16) {params : List UInt8}
    (room : params.length ≤ avdtCmdBufSize - btHdrSize - avdtMsgOffset) :
    ∃ sm' buf out, queueRsp peerMtu rcb world sm msgType sigId label params = some (sm',some buf,out) ∧
      CcbInv sm' ∧ ∀ queued wire whole segs, Channel peerMtu.mtu queued wire whole sm.ccb segs →
        ∃ segs', Channel peerMtu.mtu (queued ++ [buf]) (wire ++ writes out) whole sm'.ccb segs' := by
  obtain ⟨buf,built,queued,-⟩ := msgBuf_queued msgTypeSmall label.isLt sigId room
  obtain ⟨sm',out,left,ran,inv',chan⟩ :=
    @enqueued_spec peerMtu rcb sm inv buf ⟨_,_,queued⟩ {sm.ccb with rspQ := sm.ccb.rspQ ++ [buf]} rfl rfl
      inv.core.retCount inv.core.label (.inr ⟨queued.isCmd_eq.trans response,rfl,rfl⟩) world
  exact ⟨sm',buf,out,by rw [queueRsp,built,Option.bind_some,ran,Option.map_some],inv',chan⟩

theorem ccbStep_spec {sm : CcbSm} (inv : CcbInv sm) (input : CcbInput) (world : World) (fits : input.fits = true) :
    ∃ sm' buf out, ccbStep peerMtu rcb sm (input,world) = some (sm',buf,out) ∧ CcbInv sm' ∧
      ∀ queued wire whole segs, Channel peerMtu.mtu queued wire whole sm.ccb segs →
        ∃ segs', Channel peerMtu.mtu (queued ++ buf.toList) (wire ++ writes out) (whole && !input.resets) sm'.ccb segs' := by
  cases input with
  | event evt =>
    obtain ⟨sm',out,left,ran,core',viewed,chan⟩ :=
      @ccbEvent_acts peerMtu rcb world.scbInUse world.scbCloses evt sm world.congested inv.core
    dsimp only at ran viewed
    refine ⟨sm',none,out,by rw [ccbStep,ran,Option.map_some],⟨core',viewEvent_settled inv.settled evt _ viewed⟩,?_⟩
    intro queued wire whole segs before
    obtain ⟨segs',after⟩ := chan queued wire whole segs before
    exact ⟨segs',by rw [Option.toList_none,List.append_nil]; exact after⟩
  | sendCmd pScb sigId params =>
    obtain ⟨buf,built,queued⟩ := msgSendCmdBuf_queued inv.core.label pScb sigId (of_decide_eq_true fits)
    obtain ⟨sm',out,left,ran,inv',chan⟩ :=
      @enqueued_spec peerMtu rcb sm inv buf ⟨_,_,queued⟩
        {sm.ccb with label := (sm.ccb.label + 1) % 16,cmdQ := sm.ccb.cmdQ ++ [buf]} rfl rfl inv.core.retCount
        (Nat.mod_lt _ (by decide)) (.inl ⟨queued.isCmd_eq,rfl,rfl⟩) world
    refine ⟨sm',some buf,out,by rw [ccbStep,msgSendCmd,built,Option.bind_some,ran,Option.map_some],inv',?_⟩
    simpa [CcbInput.resets] using chan
  | sendRsp sigId label params =>
    obtain ⟨sm',buf,out,ran,inv',chan⟩ :=
      @queueRsp_spec peerMtu rcb sm inv world avdtMsgTypeRsp (by decide) rfl sigId label params (of_decide_eq_true fits)
    exact ⟨sm',some buf,out,ran,inv',by simpa [CcbInput.resets] using chan⟩
  | sendRej sigId label errCode errParam =>
    obtain ⟨sm',buf,out,ran,inv',chan⟩ :=
      @queueRsp_spec peerMtu rcb sm inv world avdtMsgTypeRej (by decide) rfl sigId label (rejParams sigId errCode errParam)
        ((rejParams_length sigId errCode errParam).trans (by decide))
    exact ⟨sm',some buf,out,ran,inv',by simpa [CcbInput.resets] using chan⟩
  | sendGrej sigId label =>
    obtain ⟨sm',buf,out,ran,inv',chan⟩ :=
      @queueRsp_spec peerMtu rcb sm inv world avdtMsgTypeGrj (by decide) rfl sigId label [] (by decide)
    exact ⟨sm',some buf,out,ran,inv',by simpa [CcbInput.resets] using chan⟩

end Inputs

def queuedLog (steps : List (Option BtHdr × List CcbOut)) : List BtHdr := steps.flatMap fun step => step.1.toList

def wireLog (steps : List (Option BtHdr × List CcbOut)) : List BtHdr := steps.flatMap fun step => writes step.2

theorem channel_start (mtu : Nat) : Channel mtu [] [] true ccbAlloc [] where
  stream := rfl
  framed := fun _ held => absurd held List.not_mem_nil
  last := fun _ current => by cases current
  cmds := ⟨[],rfl,List.Sublist.slnil⟩
  rsps := ⟨[],rfl,List.Sublist.slnil⟩
  whole := fun _ _ held => absurd held List.not_mem_nil

-- What holds after every part of a run from a fresh CCB.
def RunInv (mtu : Nat) (hist : List (CcbInput × World)) (steps : List (Option BtHdr × List CcbOut)) (sm : CcbSm) :
    Prop :=
  CcbInv sm ∧ ∃ segs, Channel mtu (queuedLog steps) (wireLog steps) (hist.all fun input => !input.1.resets) sm.ccb segs

section Run

variable {peerMtu : PeerMtu} {rcb : Rcb}

theorem runInv_step {hist : List (CcbInput × World)} {steps : List (Option BtHdr × List CcbOut)} {sm : CcbSm}
    (holds : RunInv peerMtu.mtu hist steps sm) (input : CcbInput × World) (fits : input.1.fits = true) :
    ∃ sm' step, ccbStep peerMtu rcb sm input = some (sm',step) ∧ RunInv peerMtu.mtu (hist ++ [input]) (steps ++ [step]) sm' := by
  obtain ⟨inv,segs,chan⟩ := holds
  obtain ⟨sm',buf,out,ran,inv',carried⟩ := @ccbStep_spec peerMtu rcb sm inv input.1 input.2 fits
  obtain ⟨segs',chan'⟩ := carried _ _ _ segs chan
  refine ⟨sm',(buf,out),ran,inv',segs',?_⟩
  simpa [queuedLog,wireLog] using chan'

theorem ccbRun_inv {inputs : List (CcbInput × World)} (fits : ∀ input ∈ inputs, input.1.fits = true) :
    ∃ sm steps, Machine.transduce (ccbStep peerMtu rcb) ccbSmAlloc inputs = some (sm,steps) ∧
      RunInv peerMtu.mtu inputs steps sm := by
  have start : RunInv peerMtu.mtu [] [] ccbSmAlloc := ⟨ccbSmAlloc_inv,[],channel_start peerMtu.mtu⟩
  exact @Machine.transduce_trace _ _ _ (ccbStep peerMtu rcb) (RunInv peerMtu.mtu) (fun input => input.1.fits = true)
    (fun _ _ _ input holds fits => runInv_step holds input fits) inputs [] [] _ start fits

theorem CcbInv.sending {sm : CcbSm} (inv : CcbInv sm) (sending : sm.ccb.pCurrMsg.isSome) :
    sm.ccb.cong = true ∧ sm.state = .openSt := by
  have settled := inv.settled
  simp only [CcbView.settled,CcbSm.view,sending,Bool.not_true,Bool.or_false,Bool.and_eq_true,beq_iff_eq] at settled
  exact ⟨settled.1,settled.2⟩

theorem avdt_ccb_wire_frames_queued (inputs : List (CcbInput × World)) (fits : ∀ input ∈ inputs, input.1.fits = true) :
    ∃ sm steps, Machine.transduce (ccbStep peerMtu rcb) ccbSmAlloc inputs = some (sm,steps) ∧
      (sm.ccb.pCurrMsg.isSome → sm.ccb.cong = true ∧ sm.state = .openSt) ∧
      ∃ segs : List (BtHdr × List (List UInt8)),
        (wireLog steps).map BtHdr.bytes ++ restOf peerMtu.mtu sm.ccb = (segs.map Prod.snd).flatten ∧
        (∀ seg ∈ segs, List.IsPrefix seg.2 (restFraming peerMtu.mtu seg.1)) ∧
        List.Sublist ((segs.map Prod.fst).filter isCmd) ((queuedLog steps).filter isCmd) ∧
        List.Sublist ((segs.map Prod.fst).filter (!isCmd ·)) ((queuedLog steps).filter (!isCmd ·)) ∧
        ((∀ input ∈ inputs, input.1.resets = false) → ∀ seg ∈ segs, seg.2 = restFraming peerMtu.mtu seg.1) := by
  obtain ⟨sm,steps,ran,inv,segs,chan⟩ := @ccbRun_inv peerMtu rcb inputs fits
  obtain ⟨takenC,splitC,subC⟩ := chan.cmds
  obtain ⟨takenR,splitR,subR⟩ := chan.rsps
  refine ⟨sm,steps,ran,inv.sending,segs,chan.stream,fun seg held => (chan.framed seg held).2,?_,?_,?_⟩
  · rw [splitC]
    exact subC.trans (List.sublist_append_left _ _)
  · rw [splitR]
    exact subR.trans (List.sublist_append_left _ _)
  · intro steady
    refine chan.whole (List.all_eq_true.mpr fun input held => ?_)
    rw [steady input held]
    rfl

theorem avdt_ccb_wire_frames_queued_sample :
    (∀ input ∈ [(CcbInput.event .ulOpen,(⟨[],false,fun _ _ => false⟩ : World)),(.event .llOpen,⟨[],false,fun _ _ => false⟩),
        (.sendCmd none 1 [0x04],⟨[false],false,fun _ _ => false⟩),(.sendRsp 2 3 [],⟨[],false,fun _ _ => false⟩)], input.1.fits = true) ∧
    ∃ sm steps, Machine.transduce (ccbStep ⟨48,le_refl _⟩ ⟨1,4,2⟩) ccbSmAlloc
        [(.event .ulOpen,⟨[],false,fun _ _ => false⟩),(.event .llOpen,⟨[],false,fun _ _ => false⟩),(.sendCmd none 1 [0x04],⟨[false],false,fun _ _ => false⟩),
          (.sendRsp 2 3 [],⟨[],false,fun _ _ => false⟩)] = some (sm,steps) ∧
      (sm.ccb.pCurrMsg.isSome → sm.ccb.cong = true ∧ sm.state = .openSt) ∧
      ∃ segs : List (BtHdr × List (List UInt8)),
        (wireLog steps).map BtHdr.bytes ++ restOf 48 sm.ccb = (segs.map Prod.snd).flatten ∧
        (∀ seg ∈ segs, List.IsPrefix seg.2 (restFraming 48 seg.1)) ∧
        List.Sublist ((segs.map Prod.fst).filter isCmd) ((queuedLog steps).filter isCmd) ∧
        List.Sublist ((segs.map Prod.fst).filter (!isCmd ·)) ((queuedLog steps).filter (!isCmd ·)) ∧
        ((∀ input ∈ [(CcbInput.event .ulOpen,(⟨[],false,fun _ _ => false⟩ : World)),(.event .llOpen,⟨[],false,fun _ _ => false⟩),
            (.sendCmd none 1 [0x04],⟨[false],false,fun _ _ => false⟩),(.sendRsp 2 3 [],⟨[],false,fun _ _ => false⟩)], input.1.resets = false) →
          ∀ seg ∈ segs, seg.2 = restFraming 48 seg.1) :=
  ⟨by decide,avdt_ccb_wire_frames_queued _ (by decide)⟩

theorem ccbRun_ccbInv {inputs : List (CcbInput × World)} (fits : ∀ input ∈ inputs, input.1.fits = true) {sm : CcbSm}
    {steps : List (Option BtHdr × List CcbOut)}
    (ran : Machine.transduce (ccbStep peerMtu rcb) ccbSmAlloc inputs = some (sm,steps)) : CcbInv sm := by
  obtain ⟨sm',steps',ran',inv,-⟩ := @ccbRun_inv peerMtu rcb inputs fits
  rw [ran] at ran'
  cases ran'
  exact inv

-- AVDT_RET_MAX is 1 and ret_count is back at zero after every input, so the
-- first expiry fails the commands.
theorem avdt_ret_tout_never_resends {inputs : List (CcbInput × World)} (fits : ∀ input ∈ inputs, input.1.fits = true)
    {sm : CcbSm} {steps : List (Option BtHdr × List CcbOut)}
    (ran : Machine.transduce (ccbStep peerMtu rcb) ccbSmAlloc inputs = some (sm,steps)) (world : World) :
    ccbStep peerMtu rcb sm (.event .retTout,world) =
      if sm.state = .openSt then
        some ({sm with ccb := {ccbClearCcb
            (if (sm.ccb.pCurrCmd.toList ++ sm.ccb.cmdQ).any (chkClosesOnFail world.scbCloses) then
              ccbChkClose rcb world.scbInUse sm.ccb else sm.ccb) with pCurrCmd := none,cmdQ := []}},none,
          sm.ccb.pCurrCmd.toList.map (.cmdFail · avdtErrTimeout) ++ sm.ccb.cmdQ.map (.cmdFail · avdtErrConnect) ++
            [.closeReq])
      else some (sm,none,[]) := by
  have retCount := (ccbRun_ccbInv fits ran).core.retCount
  obtain ⟨state,reconn,ccb⟩ := sm
  dsimp only at retCount
  -- the row of RET_TOUT_EVT: ret_cmd in the open state, nothing elsewhere
  cases state with
  | openSt =>
    rw [if_pos rfl,ccbStep,ccbEvent,ccbEventWith_single rfl (by decide),ccbAction,ccbRetCmd_of_retCount retCount]
    dsimp only
    obtain ⟨kept,freed⟩ :=
      @ccbCmdFail_keeps rcb world.scbInUse world.scbCloses avdtErrTimeout ⟨.openSt,reconn,{ccb with retCount := 0}⟩
    rw [ccbDoDisconn_snd,ccbDoDisconn_eq,ccbCmdFail_snd,ccbClearCmds_open kept.state,freed,kept.cmdQ,
      ccbCmdFail_open rfl,List.append_assoc]
    dsimp only
    rw [List.any_append,List.any_append,Option.toList_none,List.any_nil,Bool.false_or]
    generalize ccb.pCurrCmd.toList.any (chkClosesOnFail world.scbCloses) = current
    generalize ccb.cmdQ.any (chkClosesOnFail world.scbCloses) = queued
    cases current <;> cases queued <;> cases world.scbInUse <;> rfl
  | idleSt | openingSt | closingSt => rfl

theorem avdt_ret_tout_never_resends_sample :
    (∀ input ∈ [(CcbInput.event .ulOpen,(⟨[],false,fun _ _ => false⟩ : World)),
        (.event .llOpen,⟨[],false,fun _ _ => false⟩)], input.1.fits = true) ∧
    Machine.transduce (ccbStep ⟨48,le_refl _⟩ ⟨1,4,2⟩) ccbSmAlloc
        [(.event .ulOpen,⟨[],false,fun _ _ => false⟩),(.event .llOpen,⟨[],false,fun _ _ => false⟩)] =
      some (⟨.openSt,false,ccbAlloc⟩,[(none,[.openReq]),(none,[])]) ∧
    ccbStep ⟨48,le_refl _⟩ ⟨1,4,2⟩ ⟨.openSt,false,ccbAlloc⟩ (.event .retTout,⟨[],false,fun _ _ => false⟩) =
      if CcbState.openSt = .openSt then
        some (⟨.openSt,false,{ccbClearCcb
            (if (ccbAlloc.pCurrCmd.toList ++ ccbAlloc.cmdQ).any (chkClosesOnFail fun _ _ => false) then
              ccbChkClose ⟨1,4,2⟩ false ccbAlloc else ccbAlloc) with pCurrCmd := none,cmdQ := []}⟩,none,
          ccbAlloc.pCurrCmd.toList.map (.cmdFail · avdtErrTimeout) ++ ccbAlloc.cmdQ.map (.cmdFail · avdtErrConnect) ++
            [.closeReq])
      else some (⟨.openSt,false,ccbAlloc⟩,none,[]) :=
  have fits : ∀ input ∈ [(CcbInput.event .ulOpen,(⟨[],false,fun _ _ => false⟩ : World)),
      (.event .llOpen,⟨[],false,fun _ _ => false⟩)], input.1.fits = true := by decide
  ⟨fits,rfl,avdt_ret_tout_never_resends fits rfl _⟩

end Run

end BluetoothStack.Avdt
