import Mathlib
import BluetoothStack.Avdt.Cfg

namespace BluetoothStack.Avdt

open PacketFragmenter

-- The remaining signals (avdt_defs.h) and the general reject's error code.
def avdtSigGetconfig : Nat := 4
def avdtSigOpen : Nat := 6
def avdtSigClose : Nat := 8
def avdtSigAbort : Nat := 10
def avdtLenSingle : Nat := 1
def avdtLenMultiMin : Nat := 1
def avdtLenSecurityMin : Nat := 1
def avdtLenDelayRpt : Nat := 3
def avdtErrNsc : Nat := 0x19

-- tAVDT_SEP_INFO as AVDT_MSG_PRS_DISC fills it in.
structure SepInfo where
  inUse : Bool
  seid : Nat
  mediaType : Nat
  tsep : Nat
deriving DecidableEq, Repr

def avdtMsgPrsDisc (b0 b1 : UInt8) : SepInfo :=
  ⟨(b0.toNat >>> 1) &&& 0x01 = 1,b0.toNat >>> 2,(b1.toNat >>> 4) &&& 0x0F,(b1.toNat >>> 3) &&& 0x01⟩

-- tAVDT_MSG: each parser writes only its own member's fields; ccb_idx is left
-- out.
structure AvdtMsg where
  errCode : Nat
  errParam : Nat
  label : Nat
  seid : Nat
  sigId : Nat
  pCfg : Option AvdtCfg
  intSeid : Nat
  seidList : List Nat
  secData : List UInt8
  sepInfo : Option (List SepInfo)
  numSeps : Nat
  delay : Nat

-- tAVDT_MSG msg{}.
def avdtMsgZero : AvdtMsg := ⟨0,0,0,0,0,none,0,[],[],none,0,0⟩

def AvdtMsg.cfgMsg (msg : AvdtMsg) : CfgMsg := ⟨msg.seid,msg.errParam,msg.pCfg,msg.intSeid⟩

def AvdtMsg.withCfgMsg (msg : AvdtMsg) (cfgMsg : CfgMsg) : AvdtMsg :=
  {msg with seid := cfgMsg.seid,errParam := cfgMsg.errParam,pCfg := cfgMsg.pCfg,intSeid := cfgMsg.intSeid}

def liftCfgPrs (prs : CfgMsg → List UInt8 → Option (CfgMsg × Nat)) (msg : AvdtMsg) (p : List UInt8) :
    Option (AvdtMsg × Nat) :=
  (prs msg.cfgMsg p).map fun (cfgMsg,err) => (msg.withCfgMsg cfgMsg,err)

section Parsers

-- avdt_scb_by_hdl: whether a handle names an allocated stream.
variable (scbByHdl : Nat → Bool)

def avdtMsgPrsNone (msg : AvdtMsg) (_p : List UInt8) : AvdtMsg × Nat := (msg,0)

def avdtMsgPrsSingle (msg : AvdtMsg) (p : List UInt8) : AvdtMsg × Nat :=
  match p with
  | [s] =>
    let seid := avdtMsgPrsSeid s
    ({msg with seid},if scbByHdl seid then 0 else avdtErrSeid)
  | _ => (msg,avdtErrLength)

-- The for loop of avdt_msg_prs_multi; the first unknown SEID ends it as the error
-- parameter.
def multiLoop (seidList : List Nat) : List UInt8 → List Nat × Nat × Option Nat
  | [] => (seidList,seidList.length,none)
  | s :: p =>
    let seid := avdtMsgPrsSeid s
    if scbByHdl seid then multiLoop (seidList ++ [seid]) p else (seidList ++ [seid],seidList.length,some seid)

def avdtMsgPrsMulti (msg : AvdtMsg) (p : List UInt8) : AvdtMsg × Nat :=
  let msg := {msg with errParam := 0}
  if p.length < avdtLenMultiMin ∨ p.length > avdtNumSeps then (msg,avdtErrLength)
  else
    let (seidList,numSeps,bad) := multiLoop scbByHdl [] p
    match bad with
    | none => ({msg with seidList,numSeps},0)
    | some seid => ({msg with seidList,numSeps,errParam := seid},avdtErrSeid)

def avdtMsgPrsSecurityCmd (msg : AvdtMsg) (p : List UInt8) : AvdtMsg × Nat :=
  match p with
  | s :: data =>
    let seid := avdtMsgPrsSeid s
    if scbByHdl seid then ({msg with seid,secData := data},0) else ({msg with seid},avdtErrSeid)
  | [] => (msg,avdtErrLength)

def avdtMsgPrsSecurityRsp (msg : AvdtMsg) (p : List UInt8) : AvdtMsg × Nat := ({msg with secData := p},0)

-- The for loop of avdt_msg_prs_discover_rsp over num_seps two-byte entries.
def discoverLoop : Nat → List SepInfo → List UInt8 → List SepInfo × Nat
  | 0,written,_ => (written,0)
  | n + 1,written,b0 :: b1 :: p =>
    let info := avdtMsgPrsDisc b0 b1
    if info.seid < avdtSeidMin ∨ info.seid > avdtSeidMax then (written ++ [info],avdtErrSeid)
    else discoverLoop n (written ++ [info]) p
  | _ + 1,written,_ => (written,0)

def avdtMsgPrsDiscoverRsp (msg : AvdtMsg) (p : List UInt8) : AvdtMsg × Nat :=
  match msg.sepInfo with
  | none => (msg,avdtErrBadState)
  | some slots =>
    let numSeps := min msg.numSeps (p.length / 2)
    let (written,err) := discoverLoop numSeps [] p
    ({msg with sepInfo := some (written ++ slots.drop written.length),numSeps},err)

-- avdt_msg_prs_rej: setconfig and reconfig carry a parameter byte, start and
-- suspend a SEID, before the error code.
def avdtMsgPrsRej (msg : AvdtMsg) (p : List UInt8) (sig : Nat) : AvdtMsg × Nat :=
  let (msg,p) :=
    match p with
    | b :: rest =>
      if sig = avdtSigSetconfig ∨ sig = avdtSigReconfig then ({msg with errParam := b.toNat},rest)
      else if sig = avdtSigStart ∨ sig = avdtSigSuspend then ({msg with errParam := avdtMsgPrsSeid b},rest)
      else (msg,p)
    | [] => (msg,[])
  match p with
  | errCode :: _ => ({msg with errCode := errCode.toNat},0)
  | [] => (msg,avdtErrLength)

def avdtMsgPrsDelayRpt (msg : AvdtMsg) (p : List UInt8) : AvdtMsg × Nat :=
  match p with
  | [s,hi,lo] =>
    let seid := avdtMsgPrsSeid s
    if scbByHdl seid then ({msg with seid,delay := hi.toNat * 256 + lo.toNat},0) else ({msg with seid},avdtErrSeid)
  | _ => (msg,avdtErrLength)

-- avdt_msg_prs_cmd and avdt_msg_prs_rsp at sig - 1: a signal outside 1 to
-- AVDT_SIG_MAX reads outside the table.
def avdtMsgPrsCmd (sig : Nat) (msg : AvdtMsg) (p : List UInt8) : Option (AvdtMsg × Nat) :=
  match sig with
  | 1 => some (avdtMsgPrsNone msg p)
  | 2 | 4 | 6 | 8 | 10 | 12 => some (avdtMsgPrsSingle scbByHdl msg p)
  | 3 => liftCfgPrs (avdtMsgPrsSetconfigCmd scbByHdl) msg p
  | 5 => liftCfgPrs (avdtMsgPrsReconfigCmd scbByHdl) msg p
  | 7 | 9 => some (avdtMsgPrsMulti scbByHdl msg p)
  | 11 => some (avdtMsgPrsSecurityCmd scbByHdl msg p)
  | 13 => some (avdtMsgPrsDelayRpt scbByHdl msg p)
  | _ => none

def avdtMsgPrsRsp (sig : Nat) (msg : AvdtMsg) (p : List UInt8) : Option (AvdtMsg × Nat) :=
  match sig with
  | 1 => some (avdtMsgPrsDiscoverRsp msg p)
  | 2 => liftCfgPrs avdtMsgPrsSvccap msg p
  | 4 | 12 => liftCfgPrs avdtMsgPrsAllSvccap msg p
  | 11 => some (avdtMsgPrsSecurityRsp msg p)
  | 3 | 5 | 6 | 7 | 8 | 9 | 10 | 13 => some (avdtMsgPrsNone msg p)
  | _ => none

end Parsers

-- What avdt_msg_ind hands on, in order: rejects, CCB and stream events, and
-- AVDT_CCB_RCVRSP_EVT once a response answered the current command.
inductive IndCall where
  | sendGrej (sig label : Nat)
  | sendRej (sig : Nat) (msg : AvdtMsg)
  | ccbEvt (evt : CcbMsgEvt) (msg : AvdtMsg)
  | scbEvt (hdl : Nat) (evt : ScbMsgEvt) (msg : AvdtMsg)
  | rcvRsp

-- p_proc_data: NULL, AVDT_DiscoverReq's tAVDT_SEP_INFO array, or AVDT_GetCapReq's
-- tAVDT_CFG, which leaves proc_param as the discover set it.
inductive ProcData where
  | none
  | sepInfo (slots : List SepInfo)
  | cfg (cfg : AvdtCfg) (procParam : Nat)

section Ind

variable (scbByHdl : Nat → Bool)

-- A match stops the three timers and clears ret_count.
def matchRsp (ccb : AvdtCcb) (sig label : Nat) : Option AvdtCcb :=
  match ccb.pCurrCmd with
  | some cmd =>
    if cmd.event = sig ∧ avdtLayerspecLabel cmd.layerSpecific = label then
      some {ccb with idleCcbTimer := none,retCcbTimer := none,rspCcbTimer := none,retCount := 0}
    else none
  | none => none

-- The handle avdt_msg_send_cmd stored in front of the current command.
def currCmdHdl (ccb : AvdtCcb) : Nat :=
  match ccb.pCurrCmd with
  | some cmd => cmdHdl cmd
  | none => 0

-- A stream's response or reject goes to the handle stored in front of the
-- current command.
def dispatchEvt (ccb : AvdtCcb) (msgType : Nat) (evt : Option MsgEvt) (msg : AvdtMsg) : List IndCall :=
  match evt with
  | some (.ccb evt) => [.ccbEvt evt msg]
  | some (.scb evt) =>
    let hdl := if msgType = avdtMsgTypeCmd then msg.seid else currCmdHdl ccb
    if scbByHdl hdl then [.scbEvt hdl evt msg] else []
  | none => []

-- A response or reject that is ok: dropped unless it answers the current
-- command, else dispatched and AVDT_CCB_RCVRSP_EVT raised last.
def answerRsp (ccb : AvdtCcb) (proc : ProcData) (msgType sig label : Nat) (evt : Option MsgEvt) (msg : AvdtMsg) :
    AvdtCcb × ProcData × List IndCall :=
  match matchRsp ccb sig label with
  | none => (ccb,proc,[])
  | some ccb => (ccb,proc,dispatchEvt scbByHdl ccb msgType evt msg ++ [.rcvRsp])

-- Where the procedure's storage is of the other kind, the parser writes one
-- object through a pointer to the other: undefined behaviour.
def prsTarget (proc : ProcData) (msgType sig : Nat) (msg : AvdtMsg) (params : List UInt8) : Option AvdtMsg :=
  if msgType = avdtMsgTypeRsp ∧ sig = avdtSigDiscover then
    match proc with
    | .none => some msg
    | .sepInfo slots => some {msg with sepInfo := some slots,numSeps := slots.length}
    | .cfg _ procParam =>
      if min procParam (params.length / 2) = 0 then some {msg with sepInfo := some [],numSeps := procParam} else none
  else if msgType = avdtMsgTypeRsp ∧ (sig = avdtSigGetcap ∨ sig = avdtSigGetAllcap) then
    match proc with
    | .none => some msg
    | .cfg cfg _ => some {msg with pCfg := some cfg}
    | .sepInfo _ => none
  else if msgType = avdtMsgTypeRsp ∧ sig = avdtSigGetconfig ∨ msgType = avdtMsgTypeCmd ∧
      (sig = avdtSigSetconfig ∨ sig = avdtSigReconfig) then
    some {msg with pCfg := some avdtCfgZero}
  else some msg

-- What the application's storage holds once the parse wrote through it.
def procAfter (proc : ProcData) (msgType sig : Nat) (msg : AvdtMsg) : ProcData :=
  if msgType = avdtMsgTypeRsp ∧ sig = avdtSigDiscover then
    match proc, msg.sepInfo with
    | .sepInfo _,some slots => .sepInfo slots
    | _,_ => proc
  else if msgType = avdtMsgTypeRsp ∧ (sig = avdtSigGetcap ∨ sig = avdtSigGetAllcap) then
    match proc, msg.pCfg with
    | .cfg _ procParam,some cfg => .cfg cfg procParam
    | _,_ => proc
  else proc

-- A message with a valid signal: parsed by its type's table (a reject by
-- avdt_msg_prs_rej), then rejected, dropped, answered or dispatched.
def msgIndParse (ccb : AvdtCcb) (proc : ProcData) (label msgType sig : Nat) (params : List UInt8) :
    Option (AvdtCcb × ProcData × List IndCall) :=
  let msg := {avdtMsgZero with label,sigId := sig}
  (prsTarget proc msgType sig msg params).bind fun msg =>
    let parsed :=
      if msgType = avdtMsgTypeCmd then (avdtMsgPrsCmd scbByHdl sig msg params).map fun (msg,err) =>
        ({msg with errCode := err},err,avdtMsgCmd2Evt[sig - 1]?.join)
      else if msgType = avdtMsgTypeRsp then (avdtMsgPrsRsp sig msg params).map fun (msg,err) =>
        ({msg with errCode := err},err,avdtMsgRsp2Evt[sig - 1]?.join)
      else
        let (msg,err) := avdtMsgPrsRej msg params sig
        some (msg,err,avdtMsgRej2Evt[sig - 1]?.join)
    parsed.map fun (msg,err,evt) =>
      let proc := procAfter proc msgType sig msg
      if err ≠ 0 then
        -- a command is rejected, but never an abort; a response or reject is dropped
        (ccb,proc,if msgType = avdtMsgTypeCmd ∧ sig ≠ avdtSigAbort then [.sendRej sig msg] else [])
      else if msgType = avdtMsgTypeCmd then (ccb,proc,dispatchEvt scbByHdl ccb msgType evt msg)
      else answerRsp scbByHdl ccb proc msgType sig label evt msg

-- A general reject takes the current command's signal, looked up in
-- avdt_msg_rej_2_evt before the label is checked.
def msgIndMsg (ccb : AvdtCcb) (proc : ProcData) (pBuf : BtHdr) : Option (AvdtCcb × ProcData × List IndCall) :=
  match msgIndHdr pBuf with
  | .dropped => some (ccb,proc,[])
  | .genRej label =>
    match ccb.pCurrCmd with
    | none => some (ccb,proc,[])
    | some cmd =>
      (tableAt avdtMsgRej2Evt cmd.event).map fun evt =>
        let msg := {avdtMsgZero with label,sigId := cmd.event,errCode := avdtErrNsc,errParam := 0}
        answerRsp scbByHdl ccb proc avdtMsgTypeRej cmd.event label evt msg
  | .badSig label msgType sig =>
    some (ccb,proc,if msgType = avdtMsgTypeCmd then [.sendGrej sig label] else [])
  | .parse label msgType sig params => msgIndParse scbByHdl ccb proc label msgType sig params

-- A packet is reassembled first; only a whole message goes on.
def msgInd (ccb : AvdtCcb) (proc : ProcData) (pBuf : BtHdr) : Option (AvdtCcb × ProcData × List IndCall) :=
  (msgAsmbl ccb pBuf).bind fun (ccb,done) =>
    match done with
    | none => some (ccb,proc,[])
    | some buf => msgIndMsg scbByHdl ccb proc buf

end Ind

end BluetoothStack.Avdt
