import Mathlib
import BluetoothStack.Avdt.MsgRuns

namespace BluetoothStack.Avdt

open PacketFragmenter

def avdtRetMax : Nat := 1
def avdtErrConnect : Nat := 0x07
def avdtErrTimeout : Nat := 0x08
def avdtSigNone : Nat := 0
def avdtSigSetconfig : Nat := 3
def avdtSigReconfig : Nat := 5
def avdtSigStart : Nat := 7
def avdtSigSuspend : Nat := 9

-- A build function writing past the AVDT_CMD_BUF_SIZE buffer gives none.
def msgBuf (msgType label sigId : Nat) (params : List UInt8) : Option BtHdr :=
  (Buffer.write (List.replicate (avdtCmdBufSize - btHdrSize) 0) avdtMsgOffset params).map
    fun data => ⟨sigId,params.length,avdtMsgOffset,avdtBldLayerspec msgType label,data⟩

-- The SCB handles go in front: all of p_scb for START and SUSPEND, else the one.
def msgSendCmdBuf (label : Nat) (pScb : Option (List UInt8)) (sigId : Nat) (params : List UInt8) : Option BtHdr :=
  (msgBuf avdtMsgTypeCmd label sigId params).bind fun buf =>
    match pScb with
    | none => some buf
    | some hdls =>
      let stored := if sigId = avdtSigStart ∨ sigId = avdtSigSuspend then hdls.take buf.len else hdls.take 1
      (Buffer.write buf.data 0 stored).map fun data => {buf with data}

-- The parameters avdt_msg_send_rej builds: the failing parameter or SEID of
-- the signals that carry one, then the error code; nothing without a signal.
def rejParams (sigId errCode errParam : Nat) : List UInt8 :=
  if sigId ≠ avdtSigNone then
    (if sigId = avdtSigSetconfig ∨ sigId = avdtSigReconfig then [UInt8.ofNat errParam]
      else if sigId = avdtSigStart ∨ sigId = avdtSigSuspend then [UInt8.ofNat (errParam <<< 2)]
      else []) ++ [UInt8.ofNat errCode]
  else []

-- The CCB events of avdt_msg_ind's tables (AVDT_CCB_MKR), and the SCB events.
inductive CcbMsgEvt where
  | discoverCmd | getcapCmd | startCmd | suspendCmd | discoverRsp | getcapRsp | startRsp | suspendRsp
deriving DecidableEq, Repr

inductive ScbMsgEvt where
  | setconfigCmd | getconfigCmd | openCmd | closeCmd | abortCmd | reconfigCmd | securityCmd | delayRptCmd
  | delayRptRsp | setconfigRsp | getconfigRsp | openRsp | closeRsp | abortRsp | reconfigRsp | securityRsp
  | setconfigRej | openRej
deriving DecidableEq, Repr

inductive MsgEvt where
  | ccb (evt : CcbMsgEvt)
  | scb (evt : ScbMsgEvt)
deriving DecidableEq, Repr

-- avdt_msg_cmd_2_evt, avdt_msg_rsp_2_evt and avdt_msg_rej_2_evt in signal
-- order; none is the 0 of the reject table.
def avdtMsgCmd2Evt : List (Option MsgEvt) :=
  [some (.ccb .discoverCmd),some (.ccb .getcapCmd),some (.scb .setconfigCmd),some (.scb .getconfigCmd),
    some (.scb .reconfigCmd),some (.scb .openCmd),some (.ccb .startCmd),some (.scb .closeCmd),
    some (.ccb .suspendCmd),some (.scb .abortCmd),some (.scb .securityCmd),some (.ccb .getcapCmd),
    some (.scb .delayRptCmd)]

def avdtMsgRsp2Evt : List (Option MsgEvt) :=
  [some (.ccb .discoverRsp),some (.ccb .getcapRsp),some (.scb .setconfigRsp),some (.scb .getconfigRsp),
    some (.scb .reconfigRsp),some (.scb .openRsp),some (.ccb .startRsp),some (.scb .closeRsp),
    some (.ccb .suspendRsp),some (.scb .abortRsp),some (.scb .securityRsp),some (.ccb .getcapRsp),
    some (.scb .delayRptRsp)]

def avdtMsgRej2Evt : List (Option MsgEvt) :=
  [some (.ccb .discoverRsp),some (.ccb .getcapRsp),some (.scb .setconfigRej),some (.scb .getconfigRsp),
    some (.scb .reconfigRsp),some (.scb .openRej),some (.ccb .startRsp),some (.scb .closeRsp),
    some (.ccb .suspendRsp),some (.scb .abortRsp),some (.scb .securityRsp),some (.ccb .getcapRsp),none]

-- table[sig - 1] on a uint8_t sig: a read outside the table is undefined behaviour.
def tableAt (table : List (Option MsgEvt)) (sig : Nat) : Option (Option MsgEvt) :=
  if sig = 0 then none else table[sig - 1]?

-- *((uint8_t*)(p_curr_cmd + 1)): the first byte behind the BT_HDR of a
-- command, where avdt_msg_send_cmd stored the handle of its stream.
def cmdHdl (cmd : BtHdr) : Nat := (cmd.data.getD 0 0).toNat

inductive CcbState where
  | idleSt | openingSt | openSt | closingSt
deriving DecidableEq, Repr

-- The streams' API_ and MSG_ events are not modelled.
inductive CcbEvt where
  | rcvrsp | sendmsg | retTout | rspTout | idleTout | ulOpen | ulClose | llOpen | llClose
  | llCong (llcong : Bool)
deriving DecidableEq, Repr

-- err_code of the event data: the timers pass AVDT_ERR_TIMEOUT, no row reads
-- it from the others.
def CcbEvt.errCode : CcbEvt → Nat
  | .retTout | .rspTout | .idleTout => avdtErrTimeout
  | _ => 0

def CcbEvt.llcong : CcbEvt → Bool
  | .llCong llcong => llcong
  | _ => false

inductive CcbAction where
  | chanOpen | chanClose | chkClose | clearCmds | cmdFail | freeCmd | congState | retCmd | sndCmd | sndMsg
  | setReconn | clrReconn | chkReconn | chkTimer | llClosed | llOpened | ignore
deriving DecidableEq, Repr

-- avdt_ccb_st_idle, _opening, _open and _closing at the rows of these
-- events: action 1, action 2, next state.
def avdtCcbStTbl : CcbState → CcbEvt → CcbAction × CcbAction × CcbState
  | .idleSt, .ulOpen => (.chanOpen,.ignore,.openingSt)
  | .idleSt, .llOpen => (.llOpened,.ignore,.openSt)
  | .idleSt, .llClose => (.llClosed,.ignore,.idleSt)
  | .idleSt, _ => (.ignore,.ignore,.idleSt)
  | .openingSt, .ulClose => (.clearCmds,.chanClose,.closingSt)
  | .openingSt, .llOpen => (.sndCmd,.llOpened,.openSt)
  | .openingSt, .llClose => (.llClosed,.ignore,.idleSt)
  | .openingSt, .llCong _ => (.congState,.ignore,.openingSt)
  | .openingSt, _ => (.ignore,.ignore,.openingSt)
  | .openSt, .rcvrsp => (.freeCmd,.sndCmd,.openSt)
  | .openSt, .sendmsg => (.sndMsg,.ignore,.openSt)
  | .openSt, .retTout => (.retCmd,.ignore,.openSt)
  | .openSt, .rspTout => (.cmdFail,.sndCmd,.openSt)
  | .openSt, .idleTout => (.clearCmds,.chanClose,.closingSt)
  | .openSt, .ulOpen => (.chkTimer,.ignore,.openSt)
  | .openSt, .ulClose => (.chkClose,.ignore,.openSt)
  | .openSt, .llOpen => (.ignore,.ignore,.openSt)
  | .openSt, .llClose => (.llClosed,.ignore,.idleSt)
  | .openSt, .llCong _ => (.congState,.sndMsg,.openSt)
  | .closingSt, .ulOpen => (.setReconn,.ignore,.closingSt)
  | .closingSt, .ulClose => (.clrReconn,.ignore,.closingSt)
  | .closingSt, .llClose => (.chkReconn,.ignore,.idleSt)
  | .closingSt, _ => (.ignore,.ignore,.closingSt)

-- tAVDT_CCB with the fields of the state machine.
structure CcbSm where
  state : CcbState
  reconn : Bool
  ccb : AvdtCcb

def ccbSmAlloc : CcbSm := ⟨.idleSt,false,ccbAlloc⟩

inductive CcbOut where
  | write (packet : BtHdr)
  | cmdFail (cmd : BtHdr) (errCode : Nat)
  | openReq
  | closeReq
deriving DecidableEq, Repr

-- The copy of a command avdt_ccb_snd_cmd keeps in p_curr_cmd: a fresh
-- AVDT_CMD_BUF_SIZE buffer the BT_HDR and the bytes up to the end of the
-- message are copied into.
def cmdCopy (msg : BtHdr) : BtHdr :=
  {msg with
    data := msg.data.take (msg.offset + msg.len) ++
      List.replicate (avdtCmdBufSize - btHdrSize - (msg.offset + msg.len)) 0}

def ccbClearCcb (ccb : AvdtCcb) : AvdtCcb :=
  {ccb with cong := false,retCount := 0,pCurrMsg := none,pRxMsg := none,rspQ := []}

def ccbChkClose (rcb : Rcb) (scbInUse : Bool) (ccb : AvdtCcb) : AvdtCcb :=
  if scbInUse then ccb
  else {ccb with retCcbTimer := none,rspCcbTimer := none,idleCcbTimer := some (rcb.idleTout * 1000)}

section Fail

variable (rcb : Rcb) (scbInUse : Bool) (scbCloses : Nat → ScbMsgEvt → Bool)

-- UL_CLOSE_EVT from a stream during an action: avdt_ccb_chk_close when open,
-- avdt_ccb_clr_reconn when closing.
def ccbUlClose (sm : CcbSm) : CcbSm :=
  match sm.state with
  | .openSt => {sm with ccb := ccbChkClose rcb scbInUse sm.ccb}
  | .closingSt => {sm with reconn := false}
  | .idleSt | .openingSt => sm

-- The reject avdt_ccb_cmd_fail fakes: a CCB event runs its MSG_*_RSP_EVT row, a
-- stream may answer with UL_CLOSE_EVT (scbCloses).
def ccbFakeRej (cmd : BtHdr) (sm : CcbSm) : CcbSm :=
  match (tableAt avdtMsgRej2Evt cmd.event).join with
  | some (.ccb .discoverRsp) | some (.ccb .getcapRsp) =>
    if sm.state = .openSt then {sm with ccb := ccbChkClose rcb scbInUse sm.ccb} else sm
  | some (.scb evt) => if scbCloses (cmdHdl cmd) evt then ccbUlClose rcb scbInUse sm else sm
  | _ => sm

def ccbCmdFail (errCode : Nat) (sm : CcbSm) : CcbSm × List CcbOut :=
  match sm.ccb.pCurrCmd with
  | none => (sm,[])
  | some cmd =>
    let sm := ccbFakeRej rcb scbInUse scbCloses cmd sm
    ({sm with ccb := {sm.ccb with pCurrCmd := none}},[.cmdFail cmd errCode])

-- The do-while of avdt_ccb_clear_cmds over the queue it pops.
def clearCmdsLoop (errCode : Nat) : List BtHdr → CcbSm → CcbSm × List CcbOut
  | [], sm => ccbCmdFail rcb scbInUse scbCloses errCode sm
  | next :: rest, sm =>
    let (failed,out) := ccbCmdFail rcb scbInUse scbCloses errCode sm
    let (sm',more) :=
      clearCmdsLoop errCode rest {failed with ccb := {failed.ccb with pCurrCmd := some next,cmdQ := rest}}
    (sm',out ++ more)

-- The CC_CLOSE_EVT to the streams is not modelled.
def ccbClearCmds (sm : CcbSm) : CcbSm × List CcbOut :=
  clearCmdsLoop rcb scbInUse scbCloses avdtErrConnect sm.ccb.cmdQ {sm with ccb := ccbClearCcb sm.ccb}

def ccbDoDisconn (sm : CcbSm) : CcbSm × List CcbOut :=
  let (cleared,out) := ccbClearCmds rcb scbInUse scbCloses sm
  (cleared,out ++ [.closeReq])

-- The disconnect callback is not modelled.
def ccbLlClosed (sm : CcbSm) : CcbSm × List CcbOut :=
  (ccbSmAlloc,(ccbClearCmds rcb scbInUse scbCloses sm).2)

end Fail

section Sending

variable (peerMtu : PeerMtu) (rcb : Rcb)

-- avdt_msg_send as the actions call it: the answers its writes used are gone.
def callMsgSend (ccb : AvdtCcb) (pMsg : Option BtHdr) (congested : List Bool) :
    Option (AvdtCcb × List BtHdr × List Bool) :=
  (msgSend peerMtu rcb ccb pMsg congested).map fun (ccb',sent) => (ccb',sent,congested.drop sent.length)

def ccbSndCmd (ccb : AvdtCcb) (congested : List Bool) : Option (AvdtCcb × List BtHdr × List Bool) :=
  if ccb.cong = false ∧ ccb.pCurrMsg.isNone ∧ ccb.pCurrCmd.isNone then
    match ccb.cmdQ with
    | [] => some (ccb,[],congested)
    | pMsg :: rest => callMsgSend peerMtu rcb {ccb with cmdQ := rest,pCurrCmd := some (cmdCopy pMsg)} (some pMsg) congested
  else some (ccb,[],congested)

-- The while loop of avdt_ccb_snd_msg over the rsp_q it pops.
def sndRspLoop : List BtHdr → AvdtCcb → List Bool → Option (AvdtCcb × List BtHdr × List Bool)
  | [], ccb, congested => some (ccb,[],congested)
  | pMsg :: rest, ccb, congested =>
    (callMsgSend peerMtu rcb {ccb with rspQ := rest} (some pMsg) congested).bind fun (ccb',sent,left) =>
      if ccb'.cong then some (ccb',sent,left)
      else (sndRspLoop rest ccb' left).map fun (ccb'',more,left') => (ccb'',sent ++ more,left')

def ccbSndMsg (ccb : AvdtCcb) (congested : List Bool) : Option (AvdtCcb × List BtHdr × List Bool) :=
  if ccb.cong = false then
    let first :=
      if ccb.pCurrMsg.isSome then callMsgSend peerMtu rcb ccb none congested
      else if !ccb.rspQ.isEmpty then sndRspLoop peerMtu rcb ccb.rspQ ccb congested
      else some (ccb,[],congested)
    first.bind fun (ccb1,sent,left) =>
      (ccbSndCmd peerMtu rcb ccb1 left).map fun (ccb2,more,left') => (ccb2,sent ++ more,left')
  else some (ccb,[],congested)

end Sending

section Dispatch

variable (peerMtu : PeerMtu) (rcb : Rcb) (scbInUse : Bool) (scbCloses : Nat → ScbMsgEvt → Bool)

-- ret_count is a uint8_t.
def ccbRetCmd (sm : CcbSm) (congested : List Bool) : Option (CcbSm × List CcbOut × List Bool) :=
  let sm := {sm with ccb := {sm.ccb with retCount := (sm.ccb.retCount + 1) % 256}}
  if sm.ccb.retCount = avdtRetMax then
    let (failed,out) := ccbCmdFail rcb scbInUse scbCloses avdtErrTimeout {sm with ccb := {sm.ccb with retCount := 0}}
    let (closed,more) := ccbDoDisconn rcb scbInUse scbCloses failed
    some (closed,out ++ more,congested)
  else
    let ccb := sm.ccb
    let resent :=
      if ccb.cong = false ∧ ccb.pCurrMsg.isNone then
        match ccb.pCurrCmd with
        | some cmd => callMsgSend peerMtu rcb ccb (some (cmdCopy cmd)) congested
        | none => some (ccb,[],congested)
      else some (ccb,[],congested)
    resent.map fun (ccb',sent,left) =>
      ({sm with ccb := {ccb' with idleCcbTimer := none,rspCcbTimer := none,retCcbTimer := some (rcb.retTout * 1000)}},
        sent.map .write,left)

def sendAction (sm : CcbSm) (send : Option (AvdtCcb × List BtHdr × List Bool)) :
    Option (CcbSm × List CcbOut × List Bool) :=
  send.map fun (ccb,sent,left) => ({sm with ccb},sent.map .write,left)

-- nested is avdt_ccb_event for the event avdt_ccb_chk_reconn raises.
def ccbAction (nested : CcbSm → CcbEvt → List Bool → Option (CcbSm × List CcbOut × List Bool)) (evt : CcbEvt) :
    CcbAction → CcbSm → List Bool → Option (CcbSm × List CcbOut × List Bool)
  | .chanOpen, sm, congested => some (sm,[.openReq],congested)
  | .chanClose, sm, congested => some (sm,[.closeReq],congested)
  | .chkClose, sm, congested => some ({sm with ccb := ccbChkClose rcb scbInUse sm.ccb},[],congested)
  | .clearCmds, sm, congested =>
    some ((ccbClearCmds rcb scbInUse scbCloses sm).1,(ccbClearCmds rcb scbInUse scbCloses sm).2,congested)
  | .cmdFail, sm, congested =>
    some ((ccbCmdFail rcb scbInUse scbCloses evt.errCode sm).1,(ccbCmdFail rcb scbInUse scbCloses evt.errCode sm).2,
      congested)
  | .freeCmd, sm, congested => some ({sm with ccb := {sm.ccb with pCurrCmd := none}},[],congested)
  | .congState, sm, congested => some ({sm with ccb := {sm.ccb with cong := evt.llcong}},[],congested)
  | .retCmd, sm, congested => ccbRetCmd peerMtu rcb scbInUse scbCloses sm congested
  | .sndCmd, sm, congested => sendAction sm (ccbSndCmd peerMtu rcb sm.ccb congested)
  | .sndMsg, sm, congested => sendAction sm (ccbSndMsg peerMtu rcb sm.ccb congested)
  | .setReconn, sm, congested => some ({sm with reconn := true},[],congested)
  | .clrReconn, sm, congested => some ({sm with reconn := false},[],congested)
  | .chkReconn, sm, congested =>
    if sm.reconn then
      -- the channel is opened again; queued commands stay for it
      let (sm,out) :=
        ccbCmdFail rcb scbInUse scbCloses avdtErrConnect {sm with reconn := false,ccb := ccbClearCcb sm.ccb}
      (nested sm .ulOpen congested).map fun (sm',more,left) => (sm',out ++ more,left)
    else some ((ccbLlClosed rcb scbInUse scbCloses sm).1,(ccbLlClosed rcb scbInUse scbCloses sm).2,congested)
  | .chkTimer, sm, congested => some ({sm with ccb := {sm.ccb with idleCcbTimer := none}},[],congested)
  | .llClosed, sm, congested =>
    some ((ccbLlClosed rcb scbInUse scbCloses sm).1,(ccbLlClosed rcb scbInUse scbCloses sm).2,congested)
  | .llOpened, sm, congested => some (sm,[],congested)
  | .ignore, sm, congested => some (sm,[],congested)

-- The next state is set first, then the actions run up to AVDT_CCB_IGNORE.
def ccbEventWith (act : CcbEvt → CcbAction → CcbSm → List Bool → Option (CcbSm × List CcbOut × List Bool))
    (sm : CcbSm) (evt : CcbEvt) (congested : List Bool) : Option (CcbSm × List CcbOut × List Bool) :=
  let row := avdtCcbStTbl sm.state evt
  let sm := {sm with state := row.2.2}
  if row.1 = .ignore then some (sm,[],congested)
  else
    (act evt row.1 sm congested).bind fun (sm1,out,left) =>
      if row.2.1 = .ignore then some (sm1,out,left)
      else (act evt row.2.1 sm1 left).map fun (sm2,more,left') => (sm2,out ++ more,left')

-- avdt_ccb_chk_reconn raises UL_OPEN_EVT in the idle state, whose row only opens
-- the channel: the nesting ends one level down.
def ccbEvent (sm : CcbSm) (evt : CcbEvt) (congested : List Bool) : Option (CcbSm × List CcbOut × List Bool) :=
  ccbEventWith (ccbAction peerMtu rcb scbInUse scbCloses
    (ccbEventWith (ccbAction peerMtu rcb scbInUse scbCloses fun _ _ _ => none))) sm evt congested

end Dispatch

-- An event, or a message queued by avdt_msg_send_cmd, _rsp, _rej or _grej.
inductive CcbInput where
  | event (evt : CcbEvt)
  | sendCmd (pScb : Option (List UInt8)) (sigId : Nat) (params : List UInt8)
  | sendRsp (sigId : Nat) (label : Fin 16) (params : List UInt8)
  | sendRej (sigId : Nat) (label : Fin 16) (errCode errParam : Nat)
  | sendGrej (sigId : Nat) (label : Fin 16)

-- What the rest of the stack answers during one input: congestion of each write,
-- the scan of avdt_ccb_chk_close, and which streams answer a faked reject.
structure World where
  congested : List Bool
  scbInUse : Bool
  scbCloses : Nat → ScbMsgEvt → Bool

section Inputs

variable (peerMtu : PeerMtu) (rcb : Rcb) (world : World)

-- avdt_msg_send_rsp, _rej and _grej: a response built into a buffer, queued
-- on rsp_q and SENDMSG_EVT raised.
def queueRsp (sm : CcbSm) (msgType sigId : Nat) (label : Fin 16) (params : List UInt8) :
    Option (CcbSm × Option BtHdr × List CcbOut) :=
  (msgBuf msgType label sigId params).bind fun buf =>
    (ccbEvent peerMtu rcb world.scbInUse world.scbCloses {sm with ccb := {sm.ccb with rspQ := sm.ccb.rspQ ++ [buf]}}
      .sendmsg world.congested).map fun (sm',out,_) => (sm',some buf,out)

def msgSendRsp (sm : CcbSm) (sigId : Nat) (label : Fin 16) (params : List UInt8) :
    Option (CcbSm × Option BtHdr × List CcbOut) :=
  queueRsp peerMtu rcb world sm avdtMsgTypeRsp sigId label params

def msgSendRej (sm : CcbSm) (sigId : Nat) (label : Fin 16) (errCode errParam : Nat) :
    Option (CcbSm × Option BtHdr × List CcbOut) :=
  queueRsp peerMtu rcb world sm avdtMsgTypeRej sigId label (rejParams sigId errCode errParam)

def msgSendGrej (sm : CcbSm) (sigId : Nat) (label : Fin 16) : Option (CcbSm × Option BtHdr × List CcbOut) :=
  queueRsp peerMtu rcb world sm avdtMsgTypeGrj sigId label []

-- avdt_msg_send_cmd: the command takes the CCB's label, which moves on, is
-- queued on cmd_q and SENDMSG_EVT raised.
def msgSendCmd (sm : CcbSm) (pScb : Option (List UInt8)) (sigId : Nat) (params : List UInt8) :
    Option (CcbSm × Option BtHdr × List CcbOut) :=
  (msgSendCmdBuf sm.ccb.label pScb sigId params).bind fun buf =>
    (ccbEvent peerMtu rcb world.scbInUse world.scbCloses
      {sm with ccb := {sm.ccb with label := (sm.ccb.label + 1) % 16,cmdQ := sm.ccb.cmdQ ++ [buf]}} .sendmsg
      world.congested).map fun (sm',out,_) => (sm',some buf,out)

end Inputs

-- One input: the CCB after it, the message it queued and what it put out.
def ccbStep (peerMtu : PeerMtu) (rcb : Rcb) (sm : CcbSm) : CcbInput × World → Option (CcbSm × Option BtHdr × List CcbOut)
  | (.event evt,world) =>
    (ccbEvent peerMtu rcb world.scbInUse world.scbCloses sm evt world.congested).map fun (sm',out,_) => (sm',none,out)
  | (.sendCmd pScb sigId params,world) => msgSendCmd peerMtu rcb world sm pScb sigId params
  | (.sendRsp sigId label params,world) => msgSendRsp peerMtu rcb world sm sigId label params
  | (.sendRej sigId label errCode errParam,world) => msgSendRej peerMtu rcb world sm sigId label errCode errParam
  | (.sendGrej sigId label,world) => msgSendGrej peerMtu rcb world sm sigId label

end BluetoothStack.Avdt
