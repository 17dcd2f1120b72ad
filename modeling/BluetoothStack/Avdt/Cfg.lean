import Mathlib
import BluetoothStack.Avdt.Ccb

namespace BluetoothStack.Avdt

-- Service categories and their psc_mask bits; AVDT_REPORTING is TRUE
-- (bt_target.h), so AVDT_PSC and AVDT_LEG_PSC carry reporting.
def avdtCatTrans : Nat := 1
def avdtCatReport : Nat := 2
def avdtCatRecov : Nat := 3
def avdtCatProtect : Nat := 4
def avdtCatHdrcmp : Nat := 5
def avdtCatMux : Nat := 6
def avdtCatCodec : Nat := 7
def avdtCatDelayRpt : Nat := 8
def avdtCatMaxCur : Nat := avdtCatDelayRpt
def avdtPscTrans : Nat := 1 <<< 1
def avdtPscReport : Nat := 1 <<< 2
def avdtPscRecov : Nat := 1 <<< 3
def avdtPscProtect : Nat := 1 <<< 4
def avdtPscHdrcmp : Nat := 1 <<< 5
def avdtPscMux : Nat := 1 <<< 6
def avdtPscCodec : Nat := 1 <<< 7
def avdtPscDelayRpt : Nat := 1 <<< 8
def avdtPsc : Nat := avdtPscTrans ||| avdtPscReport ||| avdtPscDelayRpt
def avdtLegPsc : Nat := avdtPscTrans ||| avdtPscReport
def avdtMsgPscMask : Nat :=
  avdtPscTrans ||| avdtPscReport ||| avdtPscDelayRpt ||| avdtPscRecov ||| avdtPscHdrcmp ||| avdtPscMux

def avdtCodecSize : Nat := 45
def avdtProtectSize : Nat := 90

def avdtErrLength : Nat := 0x11
def avdtErrSeid : Nat := 0x12
def avdtErrCategory : Nat := 0x17
def avdtErrPayload : Nat := 0x18
def avdtErrInvalidCap : Nat := 0x1A
def avdtErrRecovType : Nat := 0x22
def avdtErrMediaTrans : Nat := 0x23
def avdtErrRecovFmt : Nat := 0x25
def avdtErrRohcFmt : Nat := 0x26
def avdtErrCpFmt : Nat := 0x27
def avdtErrMuxFmt : Nat := 0x28
def avdtErrBadState : Nat := 0x31
def avdtErrService : Nat := 0x80

def avdtLenCfgMin : Nat := 2
def avdtLenSetconfigMin : Nat := 2
def avdtLenReconfigMin : Nat := 1
def avdtSeidMin : Nat := 0x01
def avdtSeidMax : Nat := 0x3E
def avdtRecovRfc2733 : Nat := 1
def avdtRecovMrwsMin : Nat := 0x01
def avdtRecovMrwsMax : Nat := 0x18
def avdtRecovMnmpMin : Nat := 0x01
def avdtRecovMnmpMax : Nat := 0x18

-- avdt_msg_ie_len_min and avdt_msg_ie_len_max, the AVDT_LEN_<category>_MIN
-- and _MAX of each category, and avdt_msg_ie_err, indexed by category.
def avdtMsgIeLenMin : List Nat := [0,0,0,3,2,1,3,2,0]
def avdtMsgIeLenMax : List Nat := [0,0,0,3,255,1,7,255,0]
def avdtMsgIeErr : List Nat :=
  [0,avdtErrMediaTrans,avdtErrLength,avdtErrRecovFmt,avdtErrCpFmt,avdtErrRohcFmt,avdtErrMuxFmt,avdtErrService,
    avdtErrService]

-- psc_mask &= ~bits on the uint16_t psc_mask.
def avdtMaskOut (mask bits : Nat) : Nat := mask &&& (0xFFFF ^^^ bits)

def avdtMsgBldSeid (seid : Nat) : UInt8 := UInt8.ofNat (seid <<< 2)
def avdtMsgPrsSeid (b : UInt8) : Nat := (b.toNat >>> 2) &&& 0x3F

-- tAVDT_CFG: the arrays as byte lists, the counters and the uint16_t psc_mask as
-- numbers.
structure AvdtCfg where
  codecInfo : List UInt8
  protectInfo : List UInt8
  numCodec : Nat
  numProtect : Nat
  pscMask : Nat
  recovType : UInt8
  recovMrws : UInt8
  recovMnmp : UInt8
  hdrcmpMask : UInt8
deriving DecidableEq, Repr

-- The tAVDT_CFG cfg{} avdt_msg_ind parses commands into.
def avdtCfgZero : AvdtCfg :=
  ⟨List.replicate avdtCodecSize 0,List.replicate avdtProtectSize 0,0,0,0,0,0,0,0⟩

-- avdt_msg_bld_cfg. len is a uint8_t, so codec_info[0] + 1 is 0 at 255; what
-- is copied is cut to the array, the length byte in front of it is not.
def avdtMsgBldCfg (cfg : AvdtCfg) : List UInt8 :=
  let trans := if cfg.pscMask &&& avdtPscTrans ≠ 0 then [UInt8.ofNat avdtCatTrans,0] else []
  let report := if cfg.pscMask &&& avdtPscReport ≠ 0 then [UInt8.ofNat avdtCatReport,0] else []
  let codec :=
    if cfg.numCodec ≠ 0 then
      UInt8.ofNat avdtCatCodec :: cfg.codecInfo.take (min (((cfg.codecInfo.headD 0).toNat + 1) % 256) avdtCodecSize)
    else []
  let protect :=
    if cfg.numProtect ≠ 0 then
      UInt8.ofNat avdtCatProtect ::
        cfg.protectInfo.take (min (((cfg.protectInfo.headD 0).toNat + 1) % 256) avdtProtectSize)
    else []
  let delayRpt := if cfg.pscMask &&& avdtPscDelayRpt ≠ 0 then [UInt8.ofNat avdtCatDelayRpt,0] else []
  trans ++ report ++ codec ++ protect ++ delayRpt

-- The while loop of avdt_msg_prs_cfg from p to p_end; a skip past p_end ends it,
-- a copy past codec_info or protect_info is none.
def prsCfgLoop (sigId : Nat) (cfg : AvdtCfg) (protectOffset elem : Nat) : List UInt8 → Option (AvdtCfg × Nat × Nat)
  | [] => some (cfg,elem,0)
  | [_] => some (cfg,elem,avdtErrPayload)
  | e :: l :: p =>
    let elem := e.toNat
    let elemLen := l.toNat
    if elem = 0 ∨ elem > avdtCatMaxCur then
      -- a category too new for us: an error in a configuration, skipped in a
      -- capability
      if sigId = avdtSigSetconfig ∨ sigId = avdtSigReconfig then some (cfg,elem,avdtErrCategory)
      else prsCfgLoop sigId cfg protectOffset elem (p.drop elemLen)
    else if elemLen > avdtMsgIeLenMax.getD elem 0 ∨ elemLen < avdtMsgIeLenMin.getD elem 0 then
      some (cfg,elem,avdtMsgIeErr.getD elem 0)
    else
      let cfg := {cfg with pscMask := cfg.pscMask ||| 1 <<< elem}
      if elem = avdtCatRecov then
        match p with
        | recovType :: recovMrws :: recovMnmp :: p =>
          let cfg := {cfg with recovType,recovMrws,recovMnmp}
          if recovType.toNat ≠ avdtRecovRfc2733 then some (cfg,elem,avdtErrRecovType)
          else if recovMrws.toNat < avdtRecovMrwsMin ∨ recovMrws.toNat > avdtRecovMrwsMax ∨
              recovMnmp.toNat < avdtRecovMnmpMin ∨ recovMnmp.toNat > avdtRecovMnmpMax then
            some (cfg,elem,avdtErrRecovFmt)
          else prsCfgLoop sigId cfg protectOffset elem p
        | _ => some (cfg,elem,avdtErrPayload)
      else if elem = avdtCatProtect then
        let cfg := {cfg with pscMask := avdtMaskOut cfg.pscMask avdtPscProtect}
        if elemLen > p.length then some (cfg,elem,avdtErrLength)
        else if elemLen + protectOffset < avdtProtectSize then
          (Buffer.write cfg.protectInfo protectOffset [l]).bind fun protectInfo =>
            (Buffer.write protectInfo (protectOffset + 1) (p.take elemLen)).bind fun protectInfo =>
              prsCfgLoop sigId {cfg with numProtect := (cfg.numProtect + 1) % 256,protectInfo}
                (protectOffset + 1 + elemLen) elem (p.drop elemLen)
        else prsCfgLoop sigId cfg protectOffset elem (p.drop elemLen)
      else if elem = avdtCatHdrcmp then
        match p with
        | hdrcmpMask :: p => prsCfgLoop sigId {cfg with hdrcmpMask} protectOffset elem p
        | [] => some (cfg,elem,avdtErrPayload)
      else if elem = avdtCatCodec then
        let cfg := {cfg with pscMask := avdtMaskOut cfg.pscMask avdtPscCodec}
        let tmp := if elemLen ≥ avdtCodecSize then avdtCodecSize - 1 else elemLen
        if tmp > p.length then some (cfg,elem,avdtErrLength)
        else
          (Buffer.write cfg.codecInfo 0 [l]).bind fun codecInfo =>
            (Buffer.write codecInfo 1 (p.take tmp)).bind fun codecInfo =>
              prsCfgLoop sigId {cfg with numCodec := (cfg.numCodec + 1) % 256,codecInfo} protectOffset elem
                (p.drop elemLen)
      -- delay reporting has no parameters and p stays
      else if elem = avdtCatDelayRpt then prsCfgLoop sigId cfg protectOffset elem p
      else prsCfgLoop sigId cfg protectOffset elem (p.drop elemLen)
termination_by bytes => bytes.length
decreasing_by all_goals (simp only [List.length_cons,List.length_drop]; omega)

-- Without a configuration it fails with AVDT_ERR_BAD_STATE and leaves *p_elem.
def avdtMsgPrsCfg (pCfg : Option AvdtCfg) (p : List UInt8) (pElem sigId : Nat) :
    Option (Option AvdtCfg × Nat × Nat) :=
  match pCfg with
  | none => some (none,pElem,avdtErrBadState)
  | some cfg =>
    (prsCfgLoop sigId {cfg with pscMask := 0,numCodec := 0,numProtect := 0} 0 0 p).map fun (cfg,elem,err) =>
      (some cfg,elem,err)

-- The parts of tAVDT_MSG the configuration messages use.
structure CfgMsg where
  seid : Nat
  errParam : Nat
  pCfg : Option AvdtCfg
  intSeid : Nat

def avdtMsgBldSetconfigCmd (seid intSeid : Nat) (cfg : AvdtCfg) : List UInt8 :=
  [avdtMsgBldSeid seid,avdtMsgBldSeid intSeid] ++ avdtMsgBldCfg cfg

-- avdt_msg_bld_reconfig_cmd zeroes psc_mask in the caller's configuration
-- before it builds, so that only codec and content protection go out.
def avdtMsgBldReconfigCmd (seid : Nat) (cfg : AvdtCfg) : List UInt8 × AvdtCfg :=
  let cfg := {cfg with pscMask := 0}
  ([avdtMsgBldSeid seid] ++ avdtMsgBldCfg cfg,cfg)

-- avdt_msg_bld_svccap builds from a copy without delay reporting.
def avdtMsgBldSvccap (cfg : AvdtCfg) : List UInt8 :=
  avdtMsgBldCfg {cfg with pscMask := avdtMaskOut cfg.pscMask avdtPscDelayRpt}

def avdtMsgBldAllSvccap (cfg : AvdtCfg) : List UInt8 := avdtMsgBldCfg cfg

section Parse

-- avdt_scb_by_hdl: whether a handle names an allocated stream.
variable (scbByHdl : Nat → Bool)

-- A bad SEID is noted but the INT SEID still read; the configuration must have a
-- codec and no category beyond AVDT_PSC.
def avdtMsgPrsSetconfigCmd (msg : CfgMsg) (p : List UInt8) : Option (CfgMsg × Nat) :=
  let msg := {msg with errParam := 0}
  match p with
  | s :: i :: p =>
    let seid := avdtMsgPrsSeid s
    let err := if scbByHdl seid then 0 else avdtErrSeid
    let intSeid := avdtMsgPrsSeid i
    let err := if intSeid < avdtSeidMin ∨ intSeid > avdtSeidMax then avdtErrSeid else err
    let msg := {msg with seid,intSeid}
    if err ≠ 0 then some (msg,err)
    else
      (avdtMsgPrsCfg msg.pCfg p msg.errParam avdtSigSetconfig).map fun (pCfg,errParam,err) =>
        let msg := {msg with pCfg,errParam}
        match pCfg with
        | some cfg =>
          if err = 0 ∧ (avdtMaskOut cfg.pscMask avdtPsc ≠ 0 ∨ cfg.numCodec = 0) then (msg,avdtErrInvalidCap)
          else (msg,err)
        | none => (msg,err)
  | _ => some (msg,avdtErrLength)

-- avdt_msg_prs_reconfig_cmd: the configuration must name no protocol service
-- capability and carry a codec or content protection.
def avdtMsgPrsReconfigCmd (msg : CfgMsg) (p : List UInt8) : Option (CfgMsg × Nat) :=
  let msg := {msg with errParam := 0}
  match p with
  | s :: p =>
    let seid := avdtMsgPrsSeid s
    let msg := {msg with seid}
    if scbByHdl seid = false then some (msg,avdtErrSeid)
    else
      (avdtMsgPrsCfg msg.pCfg p msg.errParam avdtSigReconfig).map fun (pCfg,errParam,err) =>
        let msg := {msg with pCfg,errParam}
        match pCfg with
        | some cfg =>
          if err = 0 ∧ (cfg.pscMask ≠ 0 ∨ cfg.numCodec = 0 ∧ cfg.numProtect = 0) then (msg,avdtErrInvalidCap)
          else (msg,err)
        | none => (msg,err)
  | [] => some (msg,avdtErrLength)

end Parse

-- avdt_msg_prs_svccap and avdt_msg_prs_all_svccap: the capabilities kept are
-- cut to AVDT_LEG_PSC, and to AVDT_MSG_PSC_MASK.
def prsSvccapWith (sigId keep : Nat) (msg : CfgMsg) (p : List UInt8) : Option (CfgMsg × Nat) :=
  (avdtMsgPrsCfg msg.pCfg p msg.errParam sigId).map fun (pCfg,errParam,err) =>
    ({msg with pCfg := pCfg.map fun cfg => {cfg with pscMask := cfg.pscMask &&& keep},errParam},err)

def avdtMsgPrsSvccap (msg : CfgMsg) (p : List UInt8) : Option (CfgMsg × Nat) :=
  prsSvccapWith avdtSigGetcap avdtLegPsc msg p

def avdtMsgPrsAllSvccap (msg : CfgMsg) (p : List UInt8) : Option (CfgMsg × Nat) :=
  prsSvccapWith avdtSigGetAllcap avdtMsgPscMask msg p

end BluetoothStack.Avdt
