import Mathlib
import BluetoothStack.Avdt.Ind
import BluetoothStack.Avdt.CfgRoundTrip

namespace BluetoothStack.Avdt

open PacketFragmenter

def IndHdr.isCmd : IndHdr → Bool
  | .badSig _ msgType _ | .parse _ msgType _ _ => msgType == avdtMsgTypeCmd
  | _ => false

-- Whether a response, reject or general reject answers a command: the signal
-- (a general reject takes the command's) and the label match.
def IndHdr.answers (hdr : IndHdr) (cmd : BtHdr) : Bool :=
  match hdr with
  | .genRej label => avdtLayerspecLabel cmd.layerSpecific == label
  | .parse label msgType sig _ =>
    msgType != avdtMsgTypeCmd && cmd.event == sig && avdtLayerspecLabel cmd.layerSpecific == label
  | _ => false

theorem msgIndHdr_parse_valid {pBuf : BtHdr} {label msgType sig : Nat} {params : List UInt8}
    (hdr : msgIndHdr pBuf = .parse label msgType sig params) : 0 < sig ∧ sig ≤ avdtSigMax := by
  unfold msgIndHdr at hdr
  dsimp only at hdr
  split_ifs at hdr with grj genRej bad
  cases hdr
  omega

theorem avdtMsgPrsCfg_some {pCfg : Option AvdtCfg} (sized : ∀ cfg ∈ pCfg, cfg.Sized) (p : List UInt8)
    (pElem sigId : Nat) : ∃ result, avdtMsgPrsCfg pCfg p pElem sigId = some result := by
  rcases pCfg with _ | cfg
  · exact ⟨_,rfl⟩
  · obtain ⟨cfg',elem,err,ran,-⟩ :=
      @prsCfgLoop_sized sigId p {cfg with pscMask := 0,numCodec := 0,numProtect := 0} 0 0 ((sized cfg rfl).keep rfl rfl)
    exact ⟨_,by rw [avdtMsgPrsCfg,ran,Option.map_some]⟩

section Parsers

variable {scbByHdl : Nat → Bool}

theorem avdtMsgPrsSingle_seid {msg : AvdtMsg} {p : List UInt8}
    (ok : (avdtMsgPrsSingle scbByHdl msg p).2 = 0) : scbByHdl (avdtMsgPrsSingle scbByHdl msg p).1.seid = true := by
  unfold avdtMsgPrsSingle at ok ⊢
  split at ok
  · dsimp only at ok ⊢
    split_ifs at ok with found
    · exact found
    · cases ok
  · cases ok

theorem avdtMsgPrsSecurityCmd_seid {msg : AvdtMsg} {p : List UInt8}
    (ok : (avdtMsgPrsSecurityCmd scbByHdl msg p).2 = 0) :
    scbByHdl (avdtMsgPrsSecurityCmd scbByHdl msg p).1.seid = true := by
  unfold avdtMsgPrsSecurityCmd at ok ⊢
  split at ok
  · dsimp only at ok ⊢
    split_ifs at ok ⊢ with found
    · exact found
    · cases ok
  · cases ok

theorem avdtMsgPrsDelayRpt_seid {msg : AvdtMsg} {p : List UInt8}
    (ok : (avdtMsgPrsDelayRpt scbByHdl msg p).2 = 0) : scbByHdl (avdtMsgPrsDelayRpt scbByHdl msg p).1.seid = true := by
  unfold avdtMsgPrsDelayRpt at ok ⊢
  split at ok
  · dsimp only at ok ⊢
    split_ifs at ok ⊢ with found
    · exact found
    · cases ok
  · cases ok

theorem avdtMsgPrsSetconfigCmd_seid {msg msg' : CfgMsg} {p : List UInt8}
    (ran : avdtMsgPrsSetconfigCmd scbByHdl msg p = some (msg',0)) : scbByHdl msg'.seid = true := by
  unfold avdtMsgPrsSetconfigCmd at ran
  rcases p with _ | ⟨s,_ | ⟨i,p⟩⟩
  · cases ran
  · cases ran
  dsimp only at ran
  by_cases found : scbByHdl (avdtMsgPrsSeid s) = true
  · by_cases bad : avdtMsgPrsSeid i < avdtSeidMin ∨ avdtMsgPrsSeid i > avdtSeidMax
    · simp [bad,avdtErrSeid] at ran
    -- the configuration parse keeps the SEID that was read
    simp only [found,bad,if_true,if_false,ne_eq,not_true_eq_false] at ran
    obtain ⟨parsed,-,done⟩ := Option.map_eq_some_iff.mp ran
    split at done
    · split_ifs at done <;> (rw [← (Prod.mk.inj done).1]; exact found)
    · rw [← (Prod.mk.inj done).1]
      exact found
  · simp [found,avdtErrSeid] at ran

theorem avdtMsgPrsReconfigCmd_seid {msg msg' : CfgMsg} {p : List UInt8}
    (ran : avdtMsgPrsReconfigCmd scbByHdl msg p = some (msg',0)) : scbByHdl msg'.seid = true := by
  unfold avdtMsgPrsReconfigCmd at ran
  rcases p with _ | ⟨s,p⟩
  · cases ran
  dsimp only at ran
  by_cases found : scbByHdl (avdtMsgPrsSeid s) = true
  · rw [if_neg (by simp [found])] at ran
    obtain ⟨parsed,-,done⟩ := Option.map_eq_some_iff.mp ran
    split at done
    · split_ifs at done <;> (rw [← (Prod.mk.inj done).1]; exact found)
    · rw [← (Prod.mk.inj done).1]
      exact found
  · simp [found,avdtErrSeid] at ran

theorem avdtMsgPrsSetconfigCmd_some {msg : CfgMsg} (sized : ∀ cfg ∈ msg.pCfg, cfg.Sized) (p : List UInt8) :
    ∃ result, avdtMsgPrsSetconfigCmd scbByHdl msg p = some result := by
  obtain ⟨result,ran⟩ := avdtMsgPrsCfg_some sized (p.drop 2) 0 avdtSigSetconfig
  unfold avdtMsgPrsSetconfigCmd
  rcases p with _ | ⟨s,_ | ⟨i,p⟩⟩
  · exact ⟨_,rfl⟩
  · exact ⟨_,rfl⟩
  -- rejected on a SEID, or the configuration is parsed
  dsimp only
  split_ifs <;> simp_all

theorem avdtMsgPrsReconfigCmd_some {msg : CfgMsg} (sized : ∀ cfg ∈ msg.pCfg, cfg.Sized) (p : List UInt8) :
    ∃ result, avdtMsgPrsReconfigCmd scbByHdl msg p = some result := by
  obtain ⟨result,ran⟩ := avdtMsgPrsCfg_some sized (p.drop 1) 0 avdtSigReconfig
  unfold avdtMsgPrsReconfigCmd
  rcases p with _ | ⟨s,p⟩
  · exact ⟨_,rfl⟩
  dsimp only
  split_ifs <;> simp_all

theorem avdtMsgPrsCmd_spec {sig : Nat} (valid : 0 < sig ∧ sig ≤ avdtSigMax) {msg : AvdtMsg}
    (sized : ∀ cfg ∈ msg.pCfg, cfg.Sized) (p : List UInt8) :
    ∃ msg' err, avdtMsgPrsCmd scbByHdl sig msg p = some (msg',err) ∧
      (err = 0 → ∀ evt, avdtMsgCmd2Evt[sig - 1]? = some (some (.scb evt)) → scbByHdl msg'.seid = true) := by
  obtain ⟨pos,le⟩ := valid
  unfold avdtSigMax avdtSigDelayRpt at le
  -- the CCB's commands name no stream; each stream command's parser checks its SEID
  have toCcb : ∀ sig, (∃ evt, avdtMsgCmd2Evt[sig - 1]? = some (some (.ccb evt))) →
      ∀ evt, avdtMsgCmd2Evt[sig - 1]? = some (some (.scb evt)) → False := by
    rintro sig ⟨evt,ccbEvt⟩ evt' scbEvt
    rw [ccbEvt] at scbEvt
    cases scbEvt
  interval_cases sig
  · exact ⟨_,_,rfl,fun _ evt scbEvt => (toCcb 1 ⟨_,rfl⟩ evt scbEvt).elim⟩
  · exact ⟨_,_,rfl,fun _ evt scbEvt => (toCcb 2 ⟨_,rfl⟩ evt scbEvt).elim⟩
  · obtain ⟨⟨cfgMsg,err⟩,ran⟩ := @avdtMsgPrsSetconfigCmd_some scbByHdl msg.cfgMsg sized p
    refine ⟨_,_,by show liftCfgPrs _ msg p = _; rw [liftCfgPrs,ran,Option.map_some],fun ok _ _ => ?_⟩
    subst ok
    exact avdtMsgPrsSetconfigCmd_seid ran
  · exact ⟨_,_,rfl,fun ok _ _ => avdtMsgPrsSingle_seid ok⟩
  · obtain ⟨⟨cfgMsg,err⟩,ran⟩ := @avdtMsgPrsReconfigCmd_some scbByHdl msg.cfgMsg sized p
    refine ⟨_,_,by show liftCfgPrs _ msg p = _; rw [liftCfgPrs,ran,Option.map_some],fun ok _ _ => ?_⟩
    subst ok
    exact avdtMsgPrsReconfigCmd_seid ran
  · exact ⟨_,_,rfl,fun ok _ _ => avdtMsgPrsSingle_seid ok⟩
  · exact ⟨_,_,rfl,fun _ evt scbEvt => (toCcb 7 ⟨_,rfl⟩ evt scbEvt).elim⟩
  · exact ⟨_,_,rfl,fun ok _ _ => avdtMsgPrsSingle_seid ok⟩
  · exact ⟨_,_,rfl,fun _ evt scbEvt => (toCcb 9 ⟨_,rfl⟩ evt scbEvt).elim⟩
  · exact ⟨_,_,rfl,fun ok _ _ => avdtMsgPrsSingle_seid ok⟩
  · exact ⟨_,_,rfl,fun ok _ _ => avdtMsgPrsSecurityCmd_seid ok⟩
  · exact ⟨_,_,rfl,fun _ evt scbEvt => (toCcb 12 ⟨_,rfl⟩ evt scbEvt).elim⟩
  · exact ⟨_,_,rfl,fun ok _ _ => avdtMsgPrsDelayRpt_seid ok⟩

end Parsers

theorem avdtMsgCmd2Evt_some {sig : Nat} (valid : 0 < sig ∧ sig ≤ avdtSigMax) :
    ∃ evt, avdtMsgCmd2Evt[sig - 1]? = some (some evt) := by
  obtain ⟨pos,le⟩ := valid
  unfold avdtSigMax avdtSigDelayRpt at le
  interval_cases sig <;> exact ⟨_,rfl⟩

theorem prsTarget_cmd (proc : ProcData) (sig : Nat) (msg : AvdtMsg) (params : List UInt8) :
    prsTarget proc avdtMsgTypeCmd sig msg params =
      some (if sig = avdtSigSetconfig ∨ sig = avdtSigReconfig then {msg with pCfg := some avdtCfgZero} else msg) := by
  unfold prsTarget
  split_ifs <;> simp_all [avdtMsgTypeCmd,avdtMsgTypeRsp]

theorem procAfter_cmd (proc : ProcData) (sig : Nat) (msg : AvdtMsg) : procAfter proc avdtMsgTypeCmd sig msg = proc := by
  simp [procAfter,avdtMsgTypeCmd,avdtMsgTypeRsp]

section Commands

variable {scbByHdl : Nat → Bool}

theorem avdt_cmd_answered_once {pBuf : BtHdr} {label sig : Nat} {params : List UInt8}
    (hdr : msgIndHdr pBuf = .parse label avdtMsgTypeCmd sig params) (ccb : AvdtCcb) (proc : ProcData) :
    ∃ msg calls, msgIndMsg scbByHdl ccb proc pBuf = some (ccb,proc,calls) ∧
      (msg.errCode ≠ 0 ∧ calls = (if sig = avdtSigAbort then [] else [.sendRej sig msg]) ∨
        msg.errCode = 0 ∧
          ((∃ evt, avdtMsgCmd2Evt[sig - 1]? = some (some (.ccb evt)) ∧ calls = [.ccbEvt evt msg]) ∨
            ∃ evt, avdtMsgCmd2Evt[sig - 1]? = some (some (.scb evt)) ∧ scbByHdl msg.seid = true ∧
              calls = [.scbEvt msg.seid evt msg])) := by
  have valid := msgIndHdr_parse_valid hdr
  let target := if sig = avdtSigSetconfig ∨ sig = avdtSigReconfig then
    {avdtMsgZero with label,sigId := sig,pCfg := some avdtCfgZero} else {avdtMsgZero with label,sigId := sig}
  have sized : ∀ cfg ∈ target.pCfg, cfg.Sized := by
    intro cfg held
    by_cases configures : sig = avdtSigSetconfig ∨ sig = avdtSigReconfig
    · simp only [target,if_pos configures,Option.mem_def,Option.some.injEq] at held
      rw [← held]
      exact avdtCfgZero_sized
    · simp [target,configures,avdtMsgZero] at held
  obtain ⟨parsed,err,ran,seidOk⟩ := @avdtMsgPrsCmd_spec scbByHdl sig valid target sized params
  obtain ⟨evt,entry⟩ := avdtMsgCmd2Evt_some valid
  let msg := {parsed with errCode := err}
  have run : msgIndMsg scbByHdl ccb proc pBuf = some (ccb,proc,
      if err ≠ 0 then (if sig = avdtSigAbort then [] else [.sendRej sig msg])
      else dispatchEvt scbByHdl ccb avdtMsgTypeCmd (some evt) msg) := by
    rw [msgIndMsg,hdr]
    dsimp only
    rw [msgIndParse,prsTarget_cmd,Option.bind_some]
    dsimp only
    rw [if_pos rfl,ran,Option.map_some,Option.map_some,entry]
    dsimp only
    rw [procAfter_cmd]
    by_cases failed : err = 0
    · rw [if_neg (not_not.mpr failed),if_neg (not_not.mpr failed),if_pos rfl]
      rfl
    · rw [if_pos failed,if_pos failed]
      by_cases abort : sig = avdtSigAbort <;> simp [abort,msg]
  refine ⟨msg,_,run,?_⟩
  by_cases failed : err = 0
  · rw [if_neg (not_not.mpr failed)]
    refine .inr ⟨failed,?_⟩
    rcases evt with evt | evt
    · exact .inl ⟨evt,entry,rfl⟩
    · have found := seidOk failed evt entry
      exact .inr ⟨evt,entry,found,by rw [dispatchEvt,if_pos rfl,if_pos found]⟩
  · rw [if_pos failed]
    exact .inl ⟨failed,rfl⟩

theorem avdt_cmd_answered_once_sample :
    msgIndHdr ⟨0,3,0,0,[0x30,0x02,0x04]⟩ = .parse 3 avdtMsgTypeCmd 2 [0x04] ∧
      ∃ msg calls, msgIndMsg (fun _ => true) ccbAlloc .none ⟨0,3,0,0,[0x30,0x02,0x04]⟩ = some (ccbAlloc,.none,calls) ∧
        (msg.errCode ≠ 0 ∧ calls = (if 2 = avdtSigAbort then [] else [.sendRej 2 msg]) ∨
          msg.errCode = 0 ∧
            ((∃ evt, avdtMsgCmd2Evt[2 - 1]? = some (some (.ccb evt)) ∧ calls = [.ccbEvt evt msg]) ∨
              ∃ evt, avdtMsgCmd2Evt[2 - 1]? = some (some (.scb evt)) ∧ (fun _ => true) msg.seid = true ∧
                calls = [.scbEvt msg.seid evt msg])) :=
  have hdr : msgIndHdr ⟨0,3,0,0,[0x30,0x02,0x04]⟩ = .parse 3 avdtMsgTypeCmd 2 [0x04] := by decide
  ⟨hdr,avdt_cmd_answered_once hdr ccbAlloc .none⟩

end Commands

section Responses

variable {scbByHdl : Nat → Bool}

end Responses

section Undefined

variable {scbByHdl : Nat → Bool}

theorem tableAt_rej_eq_none {sig : Nat} : tableAt avdtMsgRej2Evt sig = none ↔ sig = 0 ∨ avdtSigMax < sig := by
  unfold tableAt
  split_ifs with zero
  · simp [zero]
  · simp [avdtMsgRej2Evt,avdtSigMax,avdtSigDelayRpt,zero]
    omega

theorem prsTarget_eq_none (proc : ProcData) (msgType sig : Nat) (msg : AvdtMsg) (params : List UInt8) :
    prsTarget proc msgType sig msg params = none ↔ msgType = avdtMsgTypeRsp ∧
      (sig = avdtSigDiscover ∧ (∃ cfg procParam, proc = .cfg cfg procParam ∧ 0 < min procParam (params.length / 2)) ∨
        (sig = avdtSigGetcap ∨ sig = avdtSigGetAllcap) ∧ ∃ slots, proc = .sepInfo slots) := by
  unfold prsTarget
  rcases proc with _ | slots | ⟨cfg,procParam⟩ <;> split_ifs <;>
    simp_all [avdtSigDiscover,avdtSigGetcap,avdtSigGetAllcap,Nat.pos_iff_ne_zero]

theorem prsTarget_pCfg {proc : ProcData} {msgType sig : Nat} {msg target : AvdtMsg} {params : List UInt8}
    (ran : prsTarget proc msgType sig msg params = some target) :
    target.pCfg = msg.pCfg ∨ target.pCfg = some avdtCfgZero ∨
      ∃ cfg procParam, proc = .cfg cfg procParam ∧ target.pCfg = some cfg := by
  unfold prsTarget at ran
  split_ifs at ran
  · rcases proc with _ | slots | ⟨cfg,procParam⟩
    · cases ran
      exact .inl rfl
    · cases ran
      exact .inl rfl
    · dsimp only at ran
      by_cases room : min procParam (params.length / 2) = 0
      · rw [if_pos room] at ran
        cases ran
        exact .inl rfl
      · rw [if_neg room] at ran
        cases ran
  · rcases proc with _ | slots | ⟨cfg,procParam⟩
    · cases ran
      exact .inl rfl
    · cases ran
    · cases ran
      exact .inr (.inr ⟨cfg,procParam,rfl,rfl⟩)
  · cases ran
    exact .inr (.inl rfl)
  · cases ran
    exact .inl rfl

theorem prsTarget_sized {proc : ProcData} (sized : ∀ cfg procParam, proc = .cfg cfg procParam → cfg.Sized)
    {msgType sig : Nat} {msg target : AvdtMsg} {params : List UInt8} (blank : msg.pCfg = none)
    (ran : prsTarget proc msgType sig msg params = some target) : ∀ cfg ∈ target.pCfg, cfg.Sized := by
  intro held cfg
  rcases prsTarget_pCfg ran with kept | zero | ⟨given,procParam,stored,written⟩
  · rw [kept,blank] at cfg
    cases cfg
  · rw [zero] at cfg
    obtain rfl := Option.mem_some_iff.mp cfg
    exact avdtCfgZero_sized
  · rw [written] at cfg
    obtain rfl := Option.mem_some_iff.mp cfg
    exact sized given procParam stored

theorem liftCfgPrs_svccap_some {sigId keep : Nat} {msg : AvdtMsg} (sized : ∀ cfg ∈ msg.pCfg, cfg.Sized)
    (p : List UInt8) : ∃ result, liftCfgPrs (prsSvccapWith sigId keep) msg p = some result := by
  obtain ⟨result,ran⟩ := avdtMsgPrsCfg_some sized p msg.errParam sigId
  rw [liftCfgPrs,prsSvccapWith]
  dsimp only [AvdtMsg.cfgMsg]
  rw [ran,Option.map_some,Option.map_some]
  exact ⟨_,rfl⟩

theorem avdtMsgPrsRsp_some {sig : Nat} (valid : 0 < sig ∧ sig ≤ avdtSigMax) {msg : AvdtMsg}
    (sized : ∀ cfg ∈ msg.pCfg, cfg.Sized) (p : List UInt8) : ∃ result, avdtMsgPrsRsp sig msg p = some result := by
  obtain ⟨pos,le⟩ := valid
  unfold avdtSigMax avdtSigDelayRpt at le
  interval_cases sig
  all_goals first
    | exact ⟨_,rfl⟩
    | exact liftCfgPrs_svccap_some sized p

theorem msgIndParse_eq_none {proc : ProcData} (sized : ∀ cfg procParam, proc = .cfg cfg procParam → cfg.Sized)
    (ccb : AvdtCcb) {label msgType sig : Nat} (valid : 0 < sig ∧ sig ≤ avdtSigMax) (params : List UInt8) :
    msgIndParse scbByHdl ccb proc label msgType sig params = none ↔
      prsTarget proc msgType sig {avdtMsgZero with label,sigId := sig} params = none := by
  unfold msgIndParse
  dsimp only
  rcases ran : prsTarget proc msgType sig {avdtMsgZero with label,sigId := sig} params with _ | target
  · simp
  have targetSized := prsTarget_sized sized rfl ran
  simp only [Option.bind_some,reduceCtorEq,iff_false,Option.map_eq_none_iff]
  split_ifs
  · obtain ⟨msg,err,parsed,-⟩ := @avdtMsgPrsCmd_spec scbByHdl sig valid target targetSized params
    simp [parsed]
  · obtain ⟨result,parsed⟩ := avdtMsgPrsRsp_some valid targetSized params
    simp [parsed]
  · simp

theorem avdt_msg_ind_undefined {proc : ProcData} (sized : ∀ cfg procParam, proc = .cfg cfg procParam → cfg.Sized)
    (ccb : AvdtCcb) (pBuf : BtHdr) :
    msgIndMsg scbByHdl ccb proc pBuf = none ↔
      (∃ label cmd, msgIndHdr pBuf = .genRej label ∧ ccb.pCurrCmd = some cmd ∧
          (cmd.event = 0 ∨ avdtSigMax < cmd.event)) ∨
        ∃ label sig params, msgIndHdr pBuf = .parse label avdtMsgTypeRsp sig params ∧
          (sig = avdtSigDiscover ∧ (∃ cfg procParam, proc = .cfg cfg procParam ∧ 0 < min procParam (params.length / 2)) ∨
            (sig = avdtSigGetcap ∨ sig = avdtSigGetAllcap) ∧ ∃ slots, proc = .sepInfo slots) := by
  unfold msgIndMsg
  generalize hdr : msgIndHdr pBuf = h
  rcases h with _ | label | ⟨label,msgType,sig⟩ | ⟨label,msgType,sig,params⟩
  · simp
  · rcases current : ccb.pCurrCmd with _ | cmd
    · simp
    · simp [tableAt_rej_eq_none]
  · simp
  · rw [msgIndParse_eq_none sized ccb (msgIndHdr_parse_valid hdr),prsTarget_eq_none]
    simp

theorem avdt_msg_ind_undefined_sample :
    (∀ cfg procParam, ProcData.sepInfo [] = .cfg cfg procParam → cfg.Sized) ∧
      (msgIndMsg (fun _ => true) ccbAlloc (.sepInfo []) ⟨0,2,0,0,[0x32,0x02]⟩ = none ↔
        (∃ label cmd, msgIndHdr ⟨0,2,0,0,[0x32,0x02]⟩ = .genRej label ∧ ccbAlloc.pCurrCmd = some cmd ∧
            (cmd.event = 0 ∨ avdtSigMax < cmd.event)) ∨
          ∃ label sig params, msgIndHdr ⟨0,2,0,0,[0x32,0x02]⟩ = .parse label avdtMsgTypeRsp sig params ∧
            (sig = avdtSigDiscover ∧
                (∃ cfg procParam, ProcData.sepInfo [] = .cfg cfg procParam ∧ 0 < min procParam (params.length / 2)) ∨
              (sig = avdtSigGetcap ∨ sig = avdtSigGetAllcap) ∧ ∃ slots, ProcData.sepInfo [] = .sepInfo slots)) :=
  have sized : ∀ cfg procParam, ProcData.sepInfo [] = .cfg cfg procParam → cfg.Sized := by
    intro cfg procParam stored
    cases stored
  ⟨sized,avdt_msg_ind_undefined sized ccbAlloc _⟩

end Undefined

end BluetoothStack.Avdt
