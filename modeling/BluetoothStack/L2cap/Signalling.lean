import BluetoothStack.L2cap.Fcr
import BluetoothStack.Lib.Reader

namespace BluetoothStack.L2cap

open Reader

def l2capCmdOverhead : Nat := 4
def l2capConfigReqLen : Nat := 4
def l2capConfigRspLen : Nat := 6
def l2capCfgOptionOverhead : Nat := 2
def l2capCmdConfigRsp : UInt8 := 0x05
def l2capSignallingCid : UInt16 := 1
def l2capCfgUnknownOptions : UInt16 := 3
def btSmallBufferSize : Nat := 660

section Stream

def u16ToStream (v : UInt16) : List UInt8 := [v.toUInt8,(v >>> 8).toUInt8]

def u32ToStream (v : UInt32) : List UInt8 := [v.toUInt8,(v >>> 8).toUInt8,(v >>> 16).toUInt8,(v >>> 24).toUInt8]

-- A read past p_next_cmd is none.
def streamToU8 : List UInt8 → Option (UInt8 × List UInt8)
  | b :: rest => some (b,rest)
  | [] => none

def streamToU16 : List UInt8 → Option (UInt16 × List UInt8)
  | b0 :: b1 :: rest => some (b0.toUInt16 + (b1.toUInt16 <<< 8),rest)
  | _ => none

def streamToU32 : List UInt8 → Option (UInt32 × List UInt8)
  | b0 :: b1 :: b2 :: b3 :: rest =>
    some (b0.toUInt32 + (b1.toUInt32 <<< 8) + (b2.toUInt32 <<< 16) + (b3.toUInt32 <<< 24),rest)
  | _ => none

@[simp] theorem length_u16ToStream (value : UInt16) : (u16ToStream value).length = 2 := rfl

@[simp] theorem length_u32ToStream (value : UInt32) : (u32ToStream value).length = 4 := rfl

theorem streamToU16_append (value : UInt16) (rest : List UInt8) :
    streamToU16 (u16ToStream value ++ rest) = some (value,rest) := by
  have recombine : value.toUInt8.toUInt16 + ((value >>> 8).toUInt8.toUInt16 <<< 8) = value := by
    apply UInt16.toNat_inj.mp
    have bound := value.toNat_lt
    simp only [UInt16.toNat_add,UInt16.toNat_shiftLeft,UInt16.toNat_shiftRight,UInt16.toNat_toUInt8,
      UInt8.toNat_toUInt16,Nat.shiftLeft_eq,Nat.shiftRight_eq_div_pow,UInt16.reduceToNat,Nat.reduceMod,Nat.reducePow]
    omega
  simp only [u16ToStream,List.cons_append,List.nil_append,streamToU16,recombine]

theorem streamToU32_append (value : UInt32) (rest : List UInt8) :
    streamToU32 (u32ToStream value ++ rest) = some (value,rest) := by
  have recombine : value.toUInt8.toUInt32 + ((value >>> 8).toUInt8.toUInt32 <<< 8) +
      ((value >>> 16).toUInt8.toUInt32 <<< 16) + ((value >>> 24).toUInt8.toUInt32 <<< 24) = value := by
    apply UInt32.toNat_inj.mp
    have bound := value.toNat_lt
    simp only [UInt32.toNat_add,UInt32.toNat_shiftLeft,UInt32.toNat_shiftRight,UInt32.toNat_toUInt8,
      UInt8.toNat_toUInt32,Nat.shiftLeft_eq,Nat.shiftRight_eq_div_pow,UInt32.reduceToNat,Nat.reduceMod,Nat.reducePow]
    omega
  simp only [u32ToStream,List.cons_append,List.nil_append,streamToU32,recombine]

theorem streamToU8_reads : ReadsExactly streamToU8 1 := by
  rintro (_ | ⟨b,_ | _⟩) wide <;> simp at wide
  exact ⟨b,fun _ => rfl⟩

theorem streamToU16_reads : ReadsExactly streamToU16 2 := by
  rintro (_ | ⟨b0,_ | ⟨b1,_ | _⟩⟩) wide <;> simp at wide
  exact ⟨_,fun _ => rfl⟩

theorem streamToU32_reads : ReadsExactly streamToU32 4 := by
  rintro (_ | ⟨b0,_ | ⟨b1,_ | ⟨b2,_ | ⟨b3,_ | _⟩⟩⟩⟩) wide <;> simp at wide
  exact ⟨_,fun _ => rfl⟩

end Stream

section CfgInfo

-- FLOW_SPEC, tL2CAP_FCR_OPTS, tHCI_EXT_FLOW_SPEC and tL2CAP_CFG_INFO.
structure FlowSpec where
  qosUnused : UInt8
  serviceType : UInt8
  tokenRate : UInt32
  tokenBucketSize : UInt32
  peakBandwidth : UInt32
  latency : UInt32
  delayVariation : UInt32
deriving DecidableEq, Repr

structure FcrOpts where
  mode : UInt8
  txWinSz : UInt8
  maxTransmit : UInt8
  rtransTout : UInt16
  monTout : UInt16
  mps : UInt16
deriving DecidableEq, Repr

structure ExtFlowSpec where
  id : UInt8
  stype : UInt8
  maxSduSize : UInt16
  sduInterTime : UInt32
  accessLatency : UInt32
  flushTimeout : UInt32
deriving DecidableEq, Repr

structure CfgInfo where
  result : UInt16
  mtuPresent : Bool
  mtu : UInt16
  qosPresent : Bool
  qos : FlowSpec
  flushToPresent : Bool
  flushTo : UInt16
  fcrPresent : Bool
  fcr : FcrOpts
  fcsPresent : Bool
  fcs : UInt8
  extFlowSpecPresent : Bool
  extFlowSpec : ExtFlowSpec
  flags : UInt16
deriving DecidableEq, Repr

-- cfg_info after memset(&cfg_info, 0, sizeof(cfg_info)).
def CfgInfo.zero : CfgInfo :=
  ⟨0,false,0,false,⟨0,0,0,0,0,0,0⟩,false,0,false,⟨0,0,0,0,0,0⟩,false,0,false,⟨0,0,0,0,0,0⟩,0⟩

-- The option types both loops know: L2CAP_CFG_TYPE_* and the length of each
-- one's value, L2CAP_CFG_*_OPTION_LEN.
inductive CfgType where
  | mtu
  | flushTout
  | qos
  | fcr
  | fcs
  | extFlow
deriving DecidableEq, Repr

def CfgType.code : CfgType → UInt8
  | .mtu => 0x01
  | .flushTout => 0x02
  | .qos => 0x03
  | .fcr => 0x04
  | .fcs => 0x05
  | .extFlow => 0x06

def CfgType.optionLen : CfgType → Nat
  | .mtu => 2
  | .flushTout => 2
  | .qos => 2 + 5 * 4
  | .fcr => 3 + 3 * 2
  | .fcs => 1
  | .extFlow => 2 + 2 + 3 * 4

-- The switch on cfg_code & 0x7F; none is its default (the hint bit 0x80 is
-- masked off).
def CfgType.ofCode (cfgCode : UInt8) : Option CfgType :=
  match (cfgCode &&& 0x7F).toNat with
  | 1 => some .mtu
  | 2 => some .flushTout
  | 3 => some .qos
  | 4 => some .fcr
  | 5 => some .fcs
  | 6 => some .extFlow
  | _ => none

def readFlowSpec (bytes : List UInt8) : Option (FlowSpec × List UInt8) := do
  let (qosUnused,bytes) ← streamToU8 bytes
  let (serviceType,bytes) ← streamToU8 bytes
  let (tokenRate,bytes) ← streamToU32 bytes
  let (tokenBucketSize,bytes) ← streamToU32 bytes
  let (peakBandwidth,bytes) ← streamToU32 bytes
  let (latency,bytes) ← streamToU32 bytes
  let (delayVariation,bytes) ← streamToU32 bytes
  pure (⟨qosUnused,serviceType,tokenRate,tokenBucketSize,peakBandwidth,latency,delayVariation⟩,bytes)

def readFcrOpts (bytes : List UInt8) : Option (FcrOpts × List UInt8) := do
  let (mode,bytes) ← streamToU8 bytes
  let (txWinSz,bytes) ← streamToU8 bytes
  let (maxTransmit,bytes) ← streamToU8 bytes
  let (rtransTout,bytes) ← streamToU16 bytes
  let (monTout,bytes) ← streamToU16 bytes
  let (mps,bytes) ← streamToU16 bytes
  pure (⟨mode,txWinSz,maxTransmit,rtransTout,monTout,mps⟩,bytes)

def readExtFlowSpec (bytes : List UInt8) : Option (ExtFlowSpec × List UInt8) := do
  let (id,bytes) ← streamToU8 bytes
  let (stype,bytes) ← streamToU8 bytes
  let (maxSduSize,bytes) ← streamToU16 bytes
  let (sduInterTime,bytes) ← streamToU32 bytes
  let (accessLatency,bytes) ← streamToU32 bytes
  let (flushTimeout,bytes) ← streamToU32 bytes
  pure (⟨id,stype,maxSduSize,sduInterTime,accessLatency,flushTimeout⟩,bytes)

def readOptionValue (cfg : CfgInfo) : CfgType → List UInt8 → Option (CfgInfo × List UInt8)
  | .mtu,bytes => (streamToU16 bytes).map fun (mtu,rest) => ({cfg with mtuPresent := true,mtu},rest)
  | .flushTout,bytes => (streamToU16 bytes).map fun (flushTo,rest) => ({cfg with flushToPresent := true,flushTo},rest)
  | .qos,bytes => (readFlowSpec bytes).map fun (qos,rest) => ({cfg with qosPresent := true,qos},rest)
  | .fcr,bytes => (readFcrOpts bytes).map fun (fcr,rest) => ({cfg with fcrPresent := true,fcr},rest)
  | .fcs,bytes => (streamToU8 bytes).map fun (fcs,rest) => ({cfg with fcsPresent := true,fcs},rest)
  | .extFlow,bytes =>
    (readExtFlowSpec bytes).map fun (extFlowSpec,rest) => ({cfg with extFlowSpecPresent := true,extFlowSpec},rest)

theorem readFlowSpec_reads : ReadsExactly readFlowSpec 22 := by
  refine ReadsExactly.bind streamToU8_reads fun qosUnused => ?_
  refine ReadsExactly.bind streamToU8_reads fun serviceType => ?_
  refine ReadsExactly.bind streamToU32_reads fun tokenRate => ?_
  refine ReadsExactly.bind streamToU32_reads fun tokenBucketSize => ?_
  refine ReadsExactly.bind streamToU32_reads fun peakBandwidth => ?_
  refine ReadsExactly.bind streamToU32_reads fun latency => ?_
  refine ReadsExactly.bind streamToU32_reads fun delayVariation => ?_
  exact ReadsExactly.pure _

theorem readFcrOpts_reads : ReadsExactly readFcrOpts 9 := by
  refine ReadsExactly.bind streamToU8_reads fun mode => ?_
  refine ReadsExactly.bind streamToU8_reads fun txWinSz => ?_
  refine ReadsExactly.bind streamToU8_reads fun maxTransmit => ?_
  refine ReadsExactly.bind streamToU16_reads fun rtransTout => ?_
  refine ReadsExactly.bind streamToU16_reads fun monTout => ?_
  refine ReadsExactly.bind streamToU16_reads fun mps => ?_
  exact ReadsExactly.pure _

theorem readExtFlowSpec_reads : ReadsExactly readExtFlowSpec 16 := by
  refine ReadsExactly.bind streamToU8_reads fun id => ?_
  refine ReadsExactly.bind streamToU8_reads fun stype => ?_
  refine ReadsExactly.bind streamToU16_reads fun maxSduSize => ?_
  refine ReadsExactly.bind streamToU32_reads fun sduInterTime => ?_
  refine ReadsExactly.bind streamToU32_reads fun accessLatency => ?_
  refine ReadsExactly.bind streamToU32_reads fun flushTimeout => ?_
  exact ReadsExactly.pure _

@[simp] theorem CfgType.ofCode_code (type : CfgType) : CfgType.ofCode type.code = some type := by
  cases type <;> decide

@[simp] theorem CfgType.toNat_optionLen (type : CfgType) : (UInt8.ofNat type.optionLen).toNat = type.optionLen := by
  cases type <;> rfl

theorem readOptionValue_reads (cfg : CfgInfo) (type : CfgType) :
    ReadsExactly (readOptionValue cfg type) type.optionLen := by
  cases type with
  | mtu => exact ReadsExactly.map _ (fun _ _ => rfl) streamToU16_reads
  | flushTout => exact ReadsExactly.map _ (fun _ _ => rfl) streamToU16_reads
  | qos => exact ReadsExactly.map _ (fun _ _ => rfl) readFlowSpec_reads
  | fcr => exact ReadsExactly.map _ (fun _ _ => rfl) readFcrOpts_reads
  | fcs => exact ReadsExactly.map _ (fun _ _ => rfl) streamToU8_reads
  | extFlow => exact ReadsExactly.map _ (fun _ _ => rfl) readExtFlowSpec_reads

def CfgInfo.setOption (cfg : CfgInfo) (type : CfgType) (value : List UInt8) : CfgInfo :=
  ((readOptionValue cfg type value).map (·.1)).getD cfg

theorem readOptionValue_value (cfg : CfgInfo) {type : CfgType} {value : List UInt8} (exact : value.length = type.optionLen)
    (rest : List UInt8) : readOptionValue cfg type (value ++ rest) = some (cfg.setOption type value,rest) := by
  obtain ⟨read,read_eq⟩ := readOptionValue_reads cfg type value exact
  have alone := read_eq []
  rw [List.append_nil] at alone
  rw [read_eq,CfgInfo.setOption,alone]
  rfl

end CfgInfo

section Walks

-- How a walk over a command's bytes ends: a read past p_next_cmd, the return out
-- of process_l2cap_cmd, or the end of the walk.
inductive WalkEnd (α : Type) where
  | overread
  | returned
  | finished (result : α)
deriving DecidableEq, Repr

def WalkEnd.map {α β : Type} (f : α → β) : WalkEnd α → WalkEnd β
  | .overread => .overread
  | .returned => .returned
  | .finished result => .finished (f result)

theorem WalkEnd.map_eq_finished {α β : Type} {f : α → β} {walk : WalkEnd α} {result : β} :
    walk.map f = .finished result ↔ ∃ a, walk = .finished a ∧ f a = result := by
  cases walk <;> simp [WalkEnd.map]

theorem WalkEnd.map_ne_overread {α β : Type} (f : α → β) {walk : WalkEnd α} (going : walk ≠ .overread) :
    walk.map f ≠ .overread := by
  cases walk <;> simp_all [WalkEnd.map]

-- The option loop of CONFIG_REQ up to p_cfg_end = p_next_cmd; each pass takes
-- the two header bytes, so the bytes' count is fuel enough.
def configReqOptions (cmdLen : Nat) : Nat → CfgInfo × Bool × Nat → List UInt8 → WalkEnd (CfgInfo × Bool × Nat)
  | _,acc,[] => .finished acc
  | 0,_,_ :: _ => .overread
  | _ + 1,_,[_] => .returned
  | fuel + 1,(cfg,cfgRej,cfgRejLen),cfgCode :: cfgLen :: rest =>
    match CfgType.ofCode cfgCode with
    | some type =>
      if cfgLen.toNat ≠ type.optionLen then .returned
      else if rest.length < cfgLen.toNat then .returned
      else
        match readOptionValue cfg type rest with
        | none => .overread
        | some (cfg,rest) => configReqOptions cmdLen fuel (cfg,cfgRej,cfgRejLen) rest
    | none =>
      if cfgLen.toNat + l2capCfgOptionOverhead ≤ cmdLen then
        if rest.length < cfgLen.toNat then .returned
        else if cfgCode &&& 0x80 = 0 then
          configReqOptions cmdLen fuel (cfg,true,cfgRejLen + cfgLen.toNat + l2capCfgOptionOverhead)
            (rest.drop cfgLen.toNat)
        else configReqOptions cmdLen fuel (cfg,cfgRej,cfgRejLen) (rest.drop cfgLen.toNat)
      else .finished (cfg,true,cfgRejLen)

-- CONFIG_RSP reads a known option by its own size whatever cfg_len says; with no
-- default, an unknown option's value is read as the options that follow.
def configRspOptions : Nat → CfgInfo → List UInt8 → WalkEnd CfgInfo
  | _,cfg,[] => .finished cfg
  | 0,_,_ :: _ => .overread
  | _ + 1,_,[_] => .returned
  | fuel + 1,cfg,cfgCode :: _ :: rest =>
    match CfgType.ofCode cfgCode with
    | some type =>
      if rest.length < type.optionLen then .returned
      else
        match readOptionValue cfg type rest with
        | none => .overread
        | some (cfg,rest) => configRspOptions fuel cfg rest
    | none => configRspOptions fuel cfg rest

-- cfg_info as both cases leave it before their loop: every present flag
-- cleared but ext_flow_spec_present.
def CfgInfo.cleared (cfg : CfgInfo) (flags : UInt16) : CfgInfo :=
  {cfg with flushToPresent := false,mtuPresent := false,qosPresent := false,fcrPresent := false,fcsPresent := false,flags}

-- cfg_info is what earlier commands of the packet left in it.
def configReqCmd (cfgInfo : CfgInfo) (cmd : List UInt8) : WalkEnd (UInt16 × CfgInfo × Bool × Nat) :=
  if cmd.length < 4 then .returned
  else
    match streamToU16 cmd with
    | none => .overread
    | some (lcid,rest) =>
      match streamToU16 rest with
      | none => .overread
      | some (flags,options) =>
        (configReqOptions cmd.length options.length (cfgInfo.cleared flags,false,0) options).map (lcid,·)

def configRspCmd (cfgInfo : CfgInfo) (cmd : List UInt8) : WalkEnd (UInt16 × CfgInfo) :=
  if cmd.length < 6 then .returned
  else
    match streamToU16 cmd with
    | none => .overread
    | some (lcid,rest) =>
      match streamToU16 rest with
      | none => .overread
      | some (flags,rest) =>
        match streamToU16 rest with
        | none => .overread
        | some (result,options) =>
          (configRspOptions options.length {cfgInfo.cleared flags with result} options).map (lcid,·)

end Walks

section Options

-- A type-length-value option as it is on the wire.
structure CfgOption where
  code : UInt8
  len : UInt8
  value : List UInt8
  sized : value.length = len.toNat

def CfgOption.bytes (opt : CfgOption) : List UInt8 := opt.code :: opt.len :: opt.value

def CfgType.option (type : CfgType) (value : List UInt8) (exact : value.length = type.optionLen) : CfgOption :=
  ⟨type.code,UInt8.ofNat type.optionLen,value,by rw [exact,CfgType.toNat_optionLen]⟩

-- What the reject copies: an option of no type the walks know, and no hint.
def CfgOption.rejected (opt : CfgOption) : Bool := (CfgType.ofCode opt.code).isNone && opt.code &&& 0x80 == 0

-- An option CONFIG_REQ's walk takes: a known type of exactly its length, or an
-- unknown one whose cfg_len + 2 is within cmd_len.
def CfgOption.Accepted (cmdLen : Nat) (opt : CfgOption) : Prop :=
  match CfgType.ofCode opt.code with
  | some type => opt.len.toNat = type.optionLen
  | none => opt.len.toNat + l2capCfgOptionOverhead ≤ cmdLen

def CfgOption.reqStep (acc : CfgInfo × Bool × Nat) (opt : CfgOption) : CfgInfo × Bool × Nat :=
  match CfgType.ofCode opt.code with
  | some type => (acc.1.setOption type opt.value,acc.2)
  | none => if opt.code &&& 0x80 = 0 then (acc.1,true,acc.2.2 + opt.len.toNat + l2capCfgOptionOverhead) else acc

-- Where CONFIG_REQ's walk may end: at the end of the options, or at an
-- unknown option whose cfg_len + 2 exceeds cmd_len.
def CfgEnd (cmdLen : Nat) (tail : List UInt8) : Prop :=
  tail = [] ∨ ∃ code len rest, tail = code :: len :: rest ∧ CfgType.ofCode code = none ∧
    cmdLen < len.toNat + l2capCfgOptionOverhead

def reqEnd (acc : CfgInfo × Bool × Nat) (tail : List UInt8) : CfgInfo × Bool × Nat :=
  if tail = [] then acc else (acc.1,true,acc.2.2)

def CfgOption.Exact (opt : CfgOption) : Prop :=
  ∃ type, CfgType.ofCode opt.code = some type ∧ opt.len.toNat = type.optionLen

def CfgOption.rspStep (cfg : CfgInfo) (opt : CfgOption) : CfgInfo :=
  match CfgType.ofCode opt.code with
  | some type => cfg.setOption type opt.value
  | none => cfg

@[simp] theorem CfgOption.length_bytes (opt : CfgOption) : opt.bytes.length = opt.len.toNat + 2 := by
  simp [CfgOption.bytes,opt.sized]

def CfgOption.head (code len : UInt8) (rest : List UInt8) (fits : len.toNat ≤ rest.length) : CfgOption :=
  ⟨code,len,rest.take len.toNat,by simp; omega⟩

theorem CfgOption.head_bytes {code len : UInt8} {rest : List UInt8} (fits : len.toNat ≤ rest.length) :
    code :: len :: rest = (CfgOption.head code len rest fits).bytes ++ rest.drop len.toNat := by
  simp [CfgOption.head,CfgOption.bytes]

end Options

section RequestWalk

variable {cmdLen fuel : Nat}

theorem configReqOptions_option {opt : CfgOption} (accepted : opt.Accepted cmdLen) (acc : CfgInfo × Bool × Nat)
    (tail : List UInt8) :
    configReqOptions cmdLen (fuel + 1) acc (opt.bytes ++ tail) = configReqOptions cmdLen fuel (opt.reqStep acc) tail := by
  obtain ⟨cfg,cfgRej,cfgRejLen⟩ := acc
  obtain ⟨code,len,value,sized⟩ := opt
  have fits : ¬(value ++ tail).length < len.toNat := by simp; omega
  simp only [CfgOption.Accepted,CfgOption.bytes,CfgOption.reqStep,List.cons_append] at accepted ⊢
  cases known : CfgType.ofCode code with
  | some type =>
    simp only [known] at accepted ⊢
    simp only [configReqOptions,known,if_neg (show ¬len.toNat ≠ type.optionLen by omega),if_neg fits,
      readOptionValue_value cfg (show value.length = type.optionLen by omega)]
  | none =>
    simp only [known] at accepted ⊢
    have dropped : (value ++ tail).drop len.toNat = tail := by rw [← sized,List.drop_left]
    simp only [configReqOptions,known,if_pos accepted,if_neg fits,dropped]
    split <;> rfl

theorem configReqOptions_options {opts : List CfgOption} (accepted : ∀ opt ∈ opts, opt.Accepted cmdLen)
    (acc : CfgInfo × Bool × Nat) (tail : List UInt8) (enough : opts.length ≤ fuel) :
    configReqOptions cmdLen fuel acc (opts.flatMap CfgOption.bytes ++ tail) =
      configReqOptions cmdLen (fuel - opts.length) (opts.foldl CfgOption.reqStep acc) tail := by
  induction opts generalizing acc fuel with
  | nil => rfl
  | cons opt opts ih =>
    obtain ⟨fuel,rfl⟩ : ∃ rest, fuel = rest + 1 := ⟨fuel - 1,by simp at enough; omega⟩
    have later : opts.length ≤ fuel := by simp at enough; omega
    rw [List.flatMap_cons,List.append_assoc,configReqOptions_option (accepted opt List.mem_cons_self),
      ih (fun opt mem => accepted opt (List.mem_cons_of_mem _ mem)) _ later]
    simp

theorem configReqOptions_head {acc : CfgInfo × Bool × Nat} {code len : UInt8} {rest : List UInt8}
    (going : configReqOptions cmdLen (fuel + 1) acc (code :: len :: rest) ≠ .returned) :
    (CfgEnd cmdLen (code :: len :: rest) ∧
        configReqOptions cmdLen (fuel + 1) acc (code :: len :: rest) = .finished (reqEnd acc (code :: len :: rest))) ∨
      ∃ fits, (CfgOption.head code len rest fits).Accepted cmdLen := by
  obtain ⟨cfg,cfgRej,cfgRejLen⟩ := acc
  simp only [configReqOptions] at going ⊢
  cases known : CfgType.ofCode code with
  | some type =>
    simp only [known] at going
    by_cases wrong : len.toNat ≠ type.optionLen
    · simp [wrong] at going
    by_cases short : rest.length < len.toNat
    · simp [short] at going
    right
    refine ⟨by omega,?_⟩
    simp only [CfgOption.Accepted,CfgOption.head,known]
    omega
  | none =>
    simp only [known] at going ⊢
    by_cases within : len.toNat + l2capCfgOptionOverhead ≤ cmdLen
    · by_cases short : rest.length < len.toNat
      · simp [within,short] at going
      right
      exact ⟨by omega,by simpa only [CfgOption.Accepted,CfgOption.head,known] using within⟩
    left
    rw [if_neg within]
    exact ⟨.inr ⟨code,len,rest,rfl,known,by omega⟩,by simp [reqEnd]⟩

@[simp] theorem configReqOptions_nil (acc : CfgInfo × Bool × Nat) : configReqOptions cmdLen fuel acc [] = .finished acc := by
  cases fuel <;> rfl

theorem configReqOptions_finished {acc result : CfgInfo × Bool × Nat} {bytes : List UInt8}
    (finished : configReqOptions cmdLen fuel acc bytes = .finished result) :
    ∃ (opts : List CfgOption) (tail : List UInt8), bytes = opts.flatMap CfgOption.bytes ++ tail ∧
      (∀ opt ∈ opts, opt.Accepted cmdLen) ∧
      CfgEnd cmdLen tail ∧ result = reqEnd (opts.foldl CfgOption.reqStep acc) tail := by
  induction fuel generalizing acc bytes with
  | zero =>
    cases bytes with
    | nil =>
      simp only [configReqOptions_nil,WalkEnd.finished.injEq] at finished
      exact ⟨[],[],rfl,by simp,.inl rfl,by simp [reqEnd,finished]⟩
    | cons => simp [configReqOptions] at finished
  | succ fuel ih =>
    match bytes with
    | [] =>
      simp only [configReqOptions_nil,WalkEnd.finished.injEq] at finished
      exact ⟨[],[],rfl,by simp,.inl rfl,by simp [reqEnd,finished]⟩
    | [_] => simp [configReqOptions] at finished
    | code :: len :: rest =>
      rcases configReqOptions_head (by rw [finished]; simp) with ⟨ends,stops⟩ | ⟨fits,accepted⟩
      · rw [stops,WalkEnd.finished.injEq] at finished
        exact ⟨[],code :: len :: rest,rfl,by simp,ends,by simpa using finished.symm⟩
      · rw [CfgOption.head_bytes fits,configReqOptions_option accepted] at finished
        obtain ⟨opts,tail,split,allAccepted,ends,result_eq⟩ := ih finished
        refine ⟨CfgOption.head code len rest fits :: opts,tail,?_,?_,ends,by simpa using result_eq⟩
        · rw [CfgOption.head_bytes fits,split,List.flatMap_cons,List.append_assoc]
        · intro opt mem
          rcases List.mem_cons.mp mem with rfl | mem
          exacts [accepted,allAccepted opt mem]

theorem configReqOptions_ne_overread {acc : CfgInfo × Bool × Nat} {bytes : List UInt8} (enough : bytes.length ≤ fuel) :
    configReqOptions cmdLen fuel acc bytes ≠ .overread := by
  induction fuel generalizing acc bytes with
  | zero =>
    rw [List.length_eq_zero_iff.mp (Nat.le_zero.mp enough),configReqOptions_nil]
    simp
  | succ fuel ih =>
    match bytes with
    | [] => simp
    | [_] => simp [configReqOptions]
    | code :: len :: rest =>
      by_cases returned : configReqOptions cmdLen (fuel + 1) acc (code :: len :: rest) = .returned
      · rw [returned]
        simp
      rcases configReqOptions_head returned with ⟨-,stops⟩ | ⟨fits,accepted⟩
      · rw [stops]
        simp
      · rw [CfgOption.head_bytes fits,configReqOptions_option accepted]
        exact ih (by simp at enough ⊢; omega)

theorem CfgOption.reqStep_rejLen (acc : CfgInfo × Bool × Nat) (opt : CfgOption) :
    (opt.reqStep acc).2.2 = acc.2.2 + if opt.rejected then opt.bytes.length else 0 := by
  unfold CfgOption.reqStep CfgOption.rejected
  cases CfgType.ofCode opt.code with
  | some type => simp
  | none =>
    by_cases hint : opt.code &&& 0x80 = 0
    · simp [hint,l2capCfgOptionOverhead]
      omega
    · simp [hint]

theorem CfgOption.reqStep_cfgRej (acc : CfgInfo × Bool × Nat) (opt : CfgOption) :
    (opt.reqStep acc).2.1 = (acc.2.1 || opt.rejected) := by
  unfold CfgOption.reqStep CfgOption.rejected
  cases CfgType.ofCode opt.code with
  | some type => simp
  | none =>
    by_cases hint : opt.code &&& 0x80 = 0
    · simp [hint]
    · simp [hint]

theorem foldl_reqStep_rejLen (opts : List CfgOption) (acc : CfgInfo × Bool × Nat) :
    (opts.foldl CfgOption.reqStep acc).2.2 = acc.2.2 + ((opts.filter CfgOption.rejected).flatMap CfgOption.bytes).length := by
  induction opts generalizing acc with
  | nil => simp
  | cons opt opts ih =>
    rw [List.foldl_cons,ih,CfgOption.reqStep_rejLen,List.filter_cons]
    cases opt.rejected <;> simp [Nat.add_assoc]

theorem foldl_reqStep_cfgRej (opts : List CfgOption) (acc : CfgInfo × Bool × Nat) :
    (opts.foldl CfgOption.reqStep acc).2.1 = (acc.2.1 || opts.any CfgOption.rejected) := by
  induction opts generalizing acc with
  | nil => simp
  | cons opt opts ih =>
    rw [List.foldl_cons,ih,CfgOption.reqStep_cfgRej,List.any_cons,Bool.or_assoc]

theorem CfgOption.Exact.accepted {opt : CfgOption} (exact : opt.Exact) (cmdLen : Nat) : opt.Accepted cmdLen := by
  obtain ⟨type,known,sized⟩ := exact
  simp only [CfgOption.Accepted,known]
  exact sized

theorem CfgOption.Exact.reqStep {opt : CfgOption} (exact : opt.Exact) (acc : CfgInfo × Bool × Nat) :
    opt.reqStep acc = (opt.rspStep acc.1,acc.2) := by
  obtain ⟨type,known,-⟩ := exact
  simp only [CfgOption.reqStep,CfgOption.rspStep,known]

theorem foldl_reqStep_exact {opts : List CfgOption} (exact : ∀ opt ∈ opts, opt.Exact) (acc : CfgInfo × Bool × Nat) :
    opts.foldl CfgOption.reqStep acc = (opts.foldl CfgOption.rspStep acc.1,acc.2) := by
  induction opts generalizing acc with
  | nil => rfl
  | cons opt opts ih =>
    rw [List.foldl_cons,List.foldl_cons,(exact opt List.mem_cons_self).reqStep,
      ih (fun opt mem => exact opt (List.mem_cons_of_mem _ mem))]

theorem reqEnd_rejLen (acc : CfgInfo × Bool × Nat) (tail : List UInt8) : (reqEnd acc tail).2.2 = acc.2.2 := by
  unfold reqEnd
  split <;> rfl

theorem reqEnd_cfgRej (acc : CfgInfo × Bool × Nat) (tail : List UInt8) :
    (reqEnd acc tail).2.1 = (acc.2.1 || !tail.isEmpty) := by
  unfold reqEnd
  split <;> simp_all

theorem configReqCmd_finished {cfgInfo : CfgInfo} {cmd : List UInt8} {lcid : UInt16} {result : CfgInfo × Bool × Nat}
    (parsed : configReqCmd cfgInfo cmd = .finished (lcid,result)) :
    ∃ flags, l2capConfigReqLen ≤ cmd.length ∧
      configReqOptions cmd.length (cmd.drop l2capConfigReqLen).length (cfgInfo.cleared flags,false,0)
        (cmd.drop l2capConfigReqLen) = .finished result := by
  unfold configReqCmd at parsed
  split at parsed
  · cases parsed
  · rename_i long
    match cmd, long, parsed with
    | l0 :: l1 :: f0 :: f1 :: options,_,parsed =>
      simp only [streamToU16] at parsed
      obtain ⟨⟨lcid',result'⟩,walk,same⟩ := WalkEnd.map_eq_finished.mp parsed
      cases same
      exact ⟨_,by simp [l2capConfigReqLen],walk⟩
    | [],long,_ | [_],long,_ | [_,_],long,_ | [_,_,_],long,_ => simp at long

theorem configReqCmd_ne_overread (cfgInfo : CfgInfo) (cmd : List UInt8) : configReqCmd cfgInfo cmd ≠ .overread := by
  unfold configReqCmd
  split
  · simp
  · rename_i long
    match cmd, long with
    | l0 :: l1 :: f0 :: f1 :: options,_ =>
      simp only [streamToU16]
      exact WalkEnd.map_ne_overread _ (configReqOptions_ne_overread (Nat.le_refl _))
    | [],long | [_],long | [_,_],long | [_,_,_],long => simp at long

theorem configReqOptions_exact {opts : List CfgOption} (exact : ∀ opt ∈ opts, opt.Exact) (acc : CfgInfo × Bool × Nat)
    (enough : opts.length ≤ fuel) :
    configReqOptions cmdLen fuel acc (opts.flatMap CfgOption.bytes) = .finished (opts.foldl CfgOption.rspStep acc.1,acc.2) := by
  have walk := configReqOptions_options (fun opt mem => (exact opt mem).accepted cmdLen) acc [] enough
  rw [List.append_nil,configReqOptions_nil,foldl_reqStep_exact exact] at walk
  exact walk

end RequestWalk

section ResponseWalk

variable {fuel : Nat}

@[simp] theorem configRspOptions_nil (cfg : CfgInfo) : configRspOptions fuel cfg [] = .finished cfg := by
  cases fuel <;> rfl

-- Nothing in the walk checks that cfg_len gives the exact length.
theorem configRspOptions_option {opt : CfgOption} (exact : opt.Exact) (cfg : CfgInfo) (tail : List UInt8) :
    configRspOptions (fuel + 1) cfg (opt.bytes ++ tail) = configRspOptions fuel (opt.rspStep cfg) tail := by
  obtain ⟨code,len,value,sized⟩ := opt
  obtain ⟨type,known,wide⟩ := exact
  have fits : ¬(value ++ tail).length < type.optionLen := by simp at known wide ⊢; omega
  simp only at known wide
  simp only [CfgOption.bytes,CfgOption.rspStep,List.cons_append,configRspOptions,known,if_neg fits,
    readOptionValue_value cfg (show value.length = type.optionLen by omega)]

theorem configRspOptions_options {opts : List CfgOption} (exact : ∀ opt ∈ opts, opt.Exact) (cfg : CfgInfo)
    (enough : opts.length ≤ fuel) :
    configRspOptions fuel cfg (opts.flatMap CfgOption.bytes) = .finished (opts.foldl CfgOption.rspStep cfg) := by
  induction opts generalizing cfg fuel with
  | nil => simp
  | cons opt opts ih =>
    obtain ⟨fuel,rfl⟩ : ∃ rest, fuel = rest + 1 := ⟨fuel - 1,by simp at enough; omega⟩
    rw [List.flatMap_cons,configRspOptions_option (exact opt List.mem_cons_self),
      ih (fun opt mem => exact opt (List.mem_cons_of_mem _ mem)) _ (by simp at enough; omega),List.foldl_cons]

theorem configRspOptions_ne_overread {cfg : CfgInfo} {bytes : List UInt8} (enough : bytes.length ≤ fuel) :
    configRspOptions fuel cfg bytes ≠ .overread := by
  induction fuel generalizing cfg bytes with
  | zero =>
    rw [List.length_eq_zero_iff.mp (Nat.le_zero.mp enough),configRspOptions_nil]
    simp
  | succ fuel ih =>
    match bytes with
    | [] => simp
    | [_] => simp [configRspOptions]
    | code :: len :: rest =>
      have shorter : rest.length ≤ fuel := by simp at enough; omega
      simp only [configRspOptions]
      cases known : CfgType.ofCode code with
      | none => exact ih shorter
      | some type =>
        simp only
        split
        · simp
        · rename_i long
          obtain ⟨cfg',read_eq⟩ := (readOptionValue_reads cfg type).of_le (not_lt.mp long)
          rw [read_eq]
          exact ih (by simp; omega)

theorem configRspCmd_ne_overread (cfgInfo : CfgInfo) (cmd : List UInt8) : configRspCmd cfgInfo cmd ≠ .overread := by
  unfold configRspCmd
  split
  · simp
  · rename_i long
    match cmd, long with
    | l0 :: l1 :: f0 :: f1 :: r0 :: r1 :: options,_ =>
      simp only [streamToU16]
      exact WalkEnd.map_ne_overread _ (configRspOptions_ne_overread (Nat.le_refl _))
    | [],long | [_],long | [_,_],long | [_,_,_],long | [_,_,_,_],long | [_,_,_,_,_],long => simp at long

end ResponseWalk


section Builders

def flowSpecToStream (qos : FlowSpec) : List UInt8 :=
  [qos.qosUnused,qos.serviceType] ++ u32ToStream qos.tokenRate ++ u32ToStream qos.tokenBucketSize ++
    u32ToStream qos.peakBandwidth ++ u32ToStream qos.latency ++ u32ToStream qos.delayVariation

-- The FCR option as written with the two timeouts given apart: the response
-- takes them from our_cfg.
def fcrOptsToStream (fcr : FcrOpts) (rtransTout monTout : UInt16) : List UInt8 :=
  [fcr.mode,fcr.txWinSz,fcr.maxTransmit] ++ u16ToStream rtransTout ++ u16ToStream monTout ++ u16ToStream fcr.mps

def extFlowSpecToStream (spec : ExtFlowSpec) : List UInt8 :=
  [spec.id,spec.stype] ++ u16ToStream spec.maxSduSize ++ u32ToStream spec.sduInterTime ++
    u32ToStream spec.accessLatency ++ u32ToStream spec.flushTimeout

def optionToStream (present : Bool) (type : CfgType) (value : List UInt8) : List UInt8 :=
  if present then type.code :: UInt8.ofNat type.optionLen :: value else []

def optionSize (present : Bool) (type : CfgType) : Nat :=
  if present then type.optionLen + l2capCfgOptionOverhead else 0

def l2cuSendPeerConfigReq (remoteCid : UInt16) (cfg : CfgInfo) : Nat × List UInt8 :=
  let cfgLen := optionSize cfg.mtuPresent .mtu + optionSize cfg.flushToPresent .flushTout + optionSize cfg.qosPresent .qos +
    optionSize cfg.fcrPresent .fcr + optionSize cfg.fcsPresent .fcs + optionSize cfg.extFlowSpecPresent .extFlow
  (l2capConfigReqLen + cfgLen,
    u16ToStream remoteCid ++ u16ToStream cfg.flags ++
      optionToStream cfg.mtuPresent .mtu (u16ToStream cfg.mtu) ++
      optionToStream cfg.flushToPresent .flushTout (u16ToStream cfg.flushTo) ++
      optionToStream cfg.qosPresent .qos (flowSpecToStream cfg.qos) ++
      optionToStream cfg.fcrPresent .fcr (fcrOptsToStream cfg.fcr cfg.fcr.rtransTout cfg.fcr.monTout) ++
      optionToStream cfg.fcsPresent .fcs [cfg.fcs] ++
      optionToStream cfg.extFlowSpecPresent .extFlow (extFlowSpecToStream cfg.extFlowSpec))

-- l2cu_send_peer_config_rsp: no FCS option, and the FCR timeouts of our_cfg.
def l2cuSendPeerConfigRsp (remoteCid : UInt16) (ourFcr : FcrOpts) (cfg : CfgInfo) : Nat × List UInt8 :=
  let cfgLen := optionSize cfg.mtuPresent .mtu + optionSize cfg.flushToPresent .flushTout + optionSize cfg.qosPresent .qos +
    optionSize cfg.fcrPresent .fcr + optionSize cfg.extFlowSpecPresent .extFlow
  (l2capConfigRspLen + cfgLen,
    u16ToStream remoteCid ++ u16ToStream cfg.flags ++ u16ToStream cfg.result ++
      optionToStream cfg.mtuPresent .mtu (u16ToStream cfg.mtu) ++
      optionToStream cfg.flushToPresent .flushTout (u16ToStream cfg.flushTo) ++
      optionToStream cfg.qosPresent .qos (flowSpecToStream cfg.qos) ++
      optionToStream cfg.fcrPresent .fcr (fcrOptsToStream cfg.fcr ourFcr.rtransTout ourFcr.monTout) ++
      optionToStream cfg.extFlowSpecPresent .extFlow (extFlowSpecToStream cfg.extFlowSpec))

-- The copy loop of l2cu_send_peer_config_reject: unknown options that are not
-- hints are copied while they fit; a length past data_len ends the loop.
def rejOptions (dataLen : Nat) : Nat → Nat → List UInt8 → Option (List UInt8)
  | _,_,[] => some []
  | 0,_,_ :: _ => none
  | _ + 1,_,[_] => none
  | fuel + 1,bufSpace,cfgCode :: cfgLen :: rest =>
    match CfgType.ofCode cfgCode with
    | some _ => rejOptions dataLen fuel bufSpace (rest.drop cfgLen.toNat)
    | none =>
      if cfgLen.toNat + l2capCfgOptionOverhead ≤ dataLen then
        if cfgCode &&& 0x80 = 0 then
          if bufSpace ≥ cfgLen.toNat + l2capCfgOptionOverhead then
            if rest.length < cfgLen.toNat then none
            else
              (rejOptions dataLen fuel (bufSpace - (cfgLen.toNat + l2capCfgOptionOverhead)) (rest.drop cfgLen.toNat)).map
                fun copied => cfgCode :: cfgLen :: rest.take cfgLen.toNat ++ copied
          else some []
        else rejOptions dataLen fuel bufSpace (rest.drop cfgLen.toNat)
      else some []

-- handleWord is the handle with its packet boundary flags.
def l2cuSendPeerConfigRej (handleWord : UInt16) (remoteId : UInt8) (remoteCid : UInt16) (data : List UInt8)
    (rejLen : Nat) : WalkEnd (List UInt8) :=
  let len := PacketFragmenter.btHdrSize + hciDataPreambleSize + l2capPktOverhead + l2capCmdOverhead + l2capConfigRspLen
  if rejLen > 0xFFFF - len then .returned
  else
    match rejOptions data.length data.length rejLen data with
    | none => .overread
    | some copied =>
      let l2cap := u16ToStream (UInt16.ofNat (l2capCmdOverhead + l2capConfigRspLen + rejLen)) ++
        u16ToStream l2capSignallingCid ++ [l2capCmdConfigRsp,remoteId] ++
        u16ToStream (UInt16.ofNat (l2capConfigRspLen + rejLen)) ++ u16ToStream remoteCid ++ u16ToStream 0 ++
        u16ToStream l2capCfgUnknownOptions ++ copied
      .finished (u16ToStream handleWord ++ u16ToStream (UInt16.ofNat l2cap.length) ++ l2cap)

end Builders

section Reject

variable {dataLen fuel bufSpace : Nat}

@[simp] theorem rejOptions_nil : rejOptions dataLen fuel bufSpace [] = some [] := by
  cases fuel <;> rfl

theorem rejOptions_option {opt : CfgOption} (within : opt.bytes.length ≤ dataLen)
    (room : opt.rejected → opt.bytes.length ≤ bufSpace) (tail : List UInt8) :
    rejOptions dataLen (fuel + 1) bufSpace (opt.bytes ++ tail) =
      if opt.rejected then (rejOptions dataLen fuel (bufSpace - opt.bytes.length) tail).map (opt.bytes ++ ·)
      else rejOptions dataLen fuel bufSpace tail := by
  obtain ⟨code,len,value,sized⟩ := opt
  have dropped : (value ++ tail).drop len.toNat = tail := by rw [← sized,List.drop_left]
  have taken : (value ++ tail).take len.toNat = value := by rw [← sized,List.take_left]
  have fits : ¬(value ++ tail).length < len.toNat := by simp; omega
  simp only [CfgOption.length_bytes] at within room ⊢
  simp only [CfgOption.rejected,CfgOption.bytes,List.cons_append,rejOptions,dropped] at room ⊢
  by_cases known : CfgType.ofCode code = none
  · simp only [known,Option.isNone_none,Bool.true_and] at room ⊢
    rw [if_pos (by simp only [l2capCfgOptionOverhead]; omega)]
    by_cases hint : code &&& 0x80 = 0
    · have space : len.toNat + 2 ≤ bufSpace := by simpa [hint] using room
      simp only [hint,if_neg fits,taken,beq_self_eq_true,if_true,l2capCfgOptionOverhead]
      rw [if_pos space]
    · simp [hint]
  · obtain ⟨type,known⟩ := Option.ne_none_iff_exists'.mp known
    simp [known]

theorem rejOptions_options {cmdLen : Nat} {opts : List CfgOption} {tail : List UInt8}
    (within : (opts.flatMap CfgOption.bytes ++ tail).length ≤ dataLen) (bound : dataLen ≤ cmdLen) (ends : CfgEnd cmdLen tail)
    (room : ((opts.filter CfgOption.rejected).flatMap CfgOption.bytes).length ≤ bufSpace)
    (enough : (opts.flatMap CfgOption.bytes ++ tail).length ≤ fuel) :
    rejOptions dataLen fuel bufSpace (opts.flatMap CfgOption.bytes ++ tail) =
      some ((opts.filter CfgOption.rejected).flatMap CfgOption.bytes) := by
  induction opts generalizing bufSpace fuel with
  | nil =>
    rcases ends with rfl | ⟨code,len,rest,rfl,known,bad⟩
    · simp
    · obtain ⟨fuel,rfl⟩ : ∃ rest, fuel = rest + 1 := ⟨fuel - 1,by simp at enough; omega⟩
      simp [rejOptions,known]
      omega
  | cons opt opts ih =>
    have header := CfgOption.length_bytes opt
    obtain ⟨fuel,rfl⟩ : ∃ rest, fuel = rest + 1 := ⟨fuel - 1,by simp at enough; omega⟩
    simp only [List.flatMap_cons,List.append_assoc,List.length_append] at within enough ⊢
    have later : (opts.flatMap CfgOption.bytes ++ tail).length ≤ dataLen := by rw [List.length_append]; omega
    have fuelLeft : (opts.flatMap CfgOption.bytes ++ tail).length ≤ fuel := by rw [List.length_append]; omega
    cases rejected : opt.rejected
    · simp only [List.filter_cons,rejected,Bool.false_eq_true,if_false] at room ⊢
      rw [rejOptions_option (by omega) (by simp [rejected]),if_neg (by simp [rejected])]
      exact ih later room fuelLeft
    · simp only [List.filter_cons,rejected,if_true,List.flatMap_cons,List.length_append] at room ⊢
      rw [rejOptions_option (by omega) (fun _ => by omega),if_pos rejected,ih later (by omega) fuelLeft]
      rfl

-- The three headers a signalling packet goes out under, each with a length
-- that counts the bytes after it: HCI, L2CAP, and the command's.
def hciFrame (handleWord : UInt16) (payload : List UInt8) : List UInt8 :=
  u16ToStream handleWord ++ u16ToStream (UInt16.ofNat payload.length) ++ payload

def l2capFrame (cid : UInt16) (payload : List UInt8) : List UInt8 :=
  u16ToStream (UInt16.ofNat payload.length) ++ u16ToStream cid ++ payload

def cmdFrame (code id : UInt8) (payload : List UInt8) : List UInt8 :=
  [code,id] ++ u16ToStream (UInt16.ofNat payload.length) ++ payload

def configRejPacket (handleWord : UInt16) (remoteId : UInt8) (remoteCid : UInt16) (options : List UInt8) : List UInt8 :=
  hciFrame handleWord (l2capFrame l2capSignallingCid (cmdFrame l2capCmdConfigRsp remoteId
    (u16ToStream remoteCid ++ u16ToStream 0 ++ u16ToStream l2capCfgUnknownOptions ++ options)))

theorem configRejPacket_length (handleWord : UInt16) (remoteId : UInt8) (remoteCid : UInt16) (options : List UInt8) :
    (configRejPacket handleWord remoteId remoteCid options).length =
      hciDataPreambleSize + l2capPktOverhead + l2capCmdOverhead + l2capConfigRspLen + options.length := by
  simp [configRejPacket,hciFrame,l2capFrame,cmdFrame,hciDataPreambleSize,l2capPktOverhead,l2capCmdOverhead,
    l2capConfigRspLen]
  omega

theorem l2cuSendPeerConfigRej_eq (handleWord : UInt16) (remoteId : UInt8) (remoteCid : UInt16) {data : List UInt8}
    {rejLen : Nat} {copied : List UInt8}
    (fits : ¬rejLen > 0xFFFF - (PacketFragmenter.btHdrSize + hciDataPreambleSize + l2capPktOverhead +
      l2capCmdOverhead + l2capConfigRspLen))
    (copies : rejOptions data.length data.length rejLen data = some copied) (counted : copied.length = rejLen) :
    l2cuSendPeerConfigRej handleWord remoteId remoteCid data rejLen =
      .finished (configRejPacket handleWord remoteId remoteCid copied) := by
  have command : (u16ToStream remoteCid ++ u16ToStream 0 ++ u16ToStream l2capCfgUnknownOptions ++ copied).length =
      l2capConfigRspLen + rejLen := by
    simp [l2capConfigRspLen]
    omega
  have signalling : (cmdFrame l2capCmdConfigRsp remoteId
      (u16ToStream remoteCid ++ u16ToStream 0 ++ u16ToStream l2capCfgUnknownOptions ++ copied)).length =
      l2capCmdOverhead + l2capConfigRspLen + rejLen := by
    simp [cmdFrame,l2capCmdOverhead,l2capConfigRspLen]
    omega
  rw [configRejPacket,hciFrame,l2capFrame,signalling,cmdFrame,command]
  simp only [l2cuSendPeerConfigRej,if_neg fits,copies,List.append_assoc,List.cons_append,List.nil_append]

theorem l2cuSendPeerConfigRej_accepted {cfgInfo : CfgInfo} {cmd : List UInt8} {lcid : UInt16} {cfg : CfgInfo}
    {cfgRej : Bool} {cfgRejLen : Nat} (parsed : configReqCmd cfgInfo cmd = .finished (lcid,cfg,cfgRej,cfgRejLen))
    (small : cmd.length ≤ btSmallBufferSize) (handleWord : UInt16) (remoteId : UInt8) (remoteCid : UInt16) :
    ∃ (opts : List CfgOption) (tail : List UInt8),
      cmd.drop l2capConfigReqLen = opts.flatMap CfgOption.bytes ++ tail ∧ (∀ opt ∈ opts, opt.Accepted cmd.length) ∧
      CfgEnd cmd.length tail ∧ cfgRej = (opts.any CfgOption.rejected || !tail.isEmpty) ∧
      l2cuSendPeerConfigRej handleWord remoteId remoteCid (cmd.drop l2capConfigReqLen) cfgRejLen =
        .finished (configRejPacket handleWord remoteId remoteCid ((opts.filter CfgOption.rejected).flatMap CfgOption.bytes)) ∧
      (configRejPacket handleWord remoteId remoteCid ((opts.filter CfgOption.rejected).flatMap CfgOption.bytes)).length =
        hciDataPreambleSize + l2capPktOverhead + l2capCmdOverhead + l2capConfigRspLen + cfgRejLen := by
  obtain ⟨flags,long,walk⟩ := configReqCmd_finished parsed
  obtain ⟨opts,tail,split,accepted,ends,result_eq⟩ := configReqOptions_finished walk
  have counted : ((opts.filter CfgOption.rejected).flatMap CfgOption.bytes).length = cfgRejLen := by
    have := congrArg (·.2.2) result_eq
    simpa [reqEnd_rejLen,foldl_reqStep_rejLen] using this.symm
  have flagged : cfgRej = (opts.any CfgOption.rejected || !tail.isEmpty) := by
    have := congrArg (·.2.1) result_eq
    simpa [reqEnd_cfgRej,foldl_reqStep_cfgRej] using this
  have options : (cmd.drop l2capConfigReqLen).length + l2capConfigReqLen = cmd.length := by simp; omega
  have copies := @rejOptions_options (cmd.drop l2capConfigReqLen).length (cmd.drop l2capConfigReqLen).length cfgRejLen
    _ _ _ (by rw [split]) (by omega) ends (by omega) (by rw [split])
  rw [← split] at copies
  have fits : ¬cfgRejLen > 0xFFFF - (PacketFragmenter.btHdrSize + hciDataPreambleSize + l2capPktOverhead +
      l2capCmdOverhead + l2capConfigRspLen) := by
    have within := ((List.filter_sublist (p := CfgOption.rejected) (l := opts)).flatMap CfgOption.bytes).length_le
    have bound : cfgRejLen ≤ (cmd.drop l2capConfigReqLen).length := by
      rw [← counted,split,List.length_append]
      omega
    simp only [btSmallBufferSize] at small
    simp only [PacketFragmenter.btHdrSize,hciDataPreambleSize,l2capPktOverhead,l2capCmdOverhead,l2capConfigRspLen]
    omega
  refine ⟨opts,tail,split,accepted,ends,flagged,l2cuSendPeerConfigRej_eq handleWord remoteId remoteCid fits copies counted,?_⟩
  rw [configRejPacket_length,counted]

theorem l2cuSendPeerConfigRej_accepted_sample :
    configReqCmd CfgInfo.zero (u16ToStream 0x0040 ++ u16ToStream 0 ++
        [⟨0x10,0x02,[0x01,0x02],rfl⟩,CfgType.mtu.option (u16ToStream 0x1234) rfl].flatMap CfgOption.bytes) =
        .finished (0x0040,{CfgInfo.zero with mtuPresent := true,mtu := 0x1234},true,4) ∧
      (u16ToStream 0x0040 ++ u16ToStream 0 ++
        [⟨0x10,0x02,[0x01,0x02],rfl⟩,CfgType.mtu.option (u16ToStream 0x1234) rfl].flatMap CfgOption.bytes).length ≤ btSmallBufferSize ∧
      ∃ (opts : List CfgOption) (tail : List UInt8),
        (u16ToStream 0x0040 ++ u16ToStream 0 ++
        [⟨0x10,0x02,[0x01,0x02],rfl⟩,CfgType.mtu.option (u16ToStream 0x1234) rfl].flatMap CfgOption.bytes).drop l2capConfigReqLen = opts.flatMap CfgOption.bytes ++ tail ∧
        (∀ opt ∈ opts, opt.Accepted (u16ToStream 0x0040 ++ u16ToStream 0 ++
        [⟨0x10,0x02,[0x01,0x02],rfl⟩,CfgType.mtu.option (u16ToStream 0x1234) rfl].flatMap CfgOption.bytes).length) ∧
        CfgEnd (u16ToStream 0x0040 ++ u16ToStream 0 ++
        [⟨0x10,0x02,[0x01,0x02],rfl⟩,CfgType.mtu.option (u16ToStream 0x1234) rfl].flatMap CfgOption.bytes).length tail ∧ true = (opts.any CfgOption.rejected || !tail.isEmpty) ∧
        l2cuSendPeerConfigRej 1 2 0x0041 ((u16ToStream 0x0040 ++ u16ToStream 0 ++
        [⟨0x10,0x02,[0x01,0x02],rfl⟩,CfgType.mtu.option (u16ToStream 0x1234) rfl].flatMap CfgOption.bytes).drop l2capConfigReqLen) 4 =
          .finished (configRejPacket 1 2 0x0041 ((opts.filter CfgOption.rejected).flatMap CfgOption.bytes)) ∧
        (configRejPacket 1 2 0x0041 ((opts.filter CfgOption.rejected).flatMap CfgOption.bytes)).length =
          hciDataPreambleSize + l2capPktOverhead + l2capCmdOverhead + l2capConfigRspLen + 4 := by
  have parsed : configReqCmd CfgInfo.zero (u16ToStream 0x0040 ++ u16ToStream 0 ++
        [⟨0x10,0x02,[0x01,0x02],rfl⟩,CfgType.mtu.option (u16ToStream 0x1234) rfl].flatMap CfgOption.bytes) =
      .finished (0x0040,{CfgInfo.zero with mtuPresent := true,mtu := 0x1234},true,4) := by decide
  have small : (u16ToStream 0x0040 ++ u16ToStream 0 ++
        [⟨0x10,0x02,[0x01,0x02],rfl⟩,CfgType.mtu.option (u16ToStream 0x1234) rfl].flatMap CfgOption.bytes).length ≤ btSmallBufferSize := by decide
  exact ⟨parsed,small,l2cuSendPeerConfigRej_accepted parsed small 1 2 0x0041⟩

end Reject

section RoundTrip

theorem readFlowSpec_append (qos : FlowSpec) (rest : List UInt8) :
    readFlowSpec (flowSpecToStream qos ++ rest) = some (qos,rest) := by
  simp only [flowSpecToStream,List.append_assoc,List.cons_append,List.nil_append,readFlowSpec,streamToU8,
    streamToU32_append,Option.bind_eq_bind,Option.bind_some]
  rfl

theorem readFcrOpts_append (fcr : FcrOpts) (rtransTout monTout : UInt16) (rest : List UInt8) :
    readFcrOpts (fcrOptsToStream fcr rtransTout monTout ++ rest) = some ({fcr with rtransTout,monTout},rest) := by
  simp only [fcrOptsToStream,List.append_assoc,List.cons_append,List.nil_append,readFcrOpts,streamToU8,
    streamToU16_append,Option.bind_eq_bind,Option.bind_some]
  rfl

theorem readExtFlowSpec_append (spec : ExtFlowSpec) (rest : List UInt8) :
    readExtFlowSpec (extFlowSpecToStream spec ++ rest) = some (spec,rest) := by
  simp only [extFlowSpecToStream,List.append_assoc,List.cons_append,List.nil_append,readExtFlowSpec,streamToU8,
    streamToU16_append,streamToU32_append,Option.bind_eq_bind,Option.bind_some]
  rfl

theorem CfgInfo.setOption_of_read {cfg cfg' : CfgInfo} {type : CfgType} {value : List UInt8}
    (read : readOptionValue cfg type value = some (cfg',[])) : cfg.setOption type value = cfg' := by
  simp [CfgInfo.setOption,read]

section SetOption

variable (cfg : CfgInfo)

@[simp] theorem setOption_mtu (mtu : UInt16) : cfg.setOption .mtu (u16ToStream mtu) = {cfg with mtuPresent := true,mtu} := by
  apply CfgInfo.setOption_of_read
  have read := streamToU16_append mtu []
  rw [List.append_nil] at read
  rw [readOptionValue,read]
  rfl

@[simp] theorem setOption_flushTout (flushTo : UInt16) :
    cfg.setOption .flushTout (u16ToStream flushTo) = {cfg with flushToPresent := true,flushTo} := by
  apply CfgInfo.setOption_of_read
  have read := streamToU16_append flushTo []
  rw [List.append_nil] at read
  rw [readOptionValue,read]
  rfl

@[simp] theorem setOption_qos (qos : FlowSpec) : cfg.setOption .qos (flowSpecToStream qos) = {cfg with qosPresent := true,qos} := by
  apply CfgInfo.setOption_of_read
  have read := readFlowSpec_append qos []
  rw [List.append_nil] at read
  rw [readOptionValue,read]
  rfl

@[simp] theorem setOption_fcr (fcr : FcrOpts) (rtransTout monTout : UInt16) :
    cfg.setOption .fcr (fcrOptsToStream fcr rtransTout monTout) =
      {cfg with fcrPresent := true,fcr := {fcr with rtransTout,monTout}} := by
  apply CfgInfo.setOption_of_read
  have read := readFcrOpts_append fcr rtransTout monTout []
  rw [List.append_nil] at read
  rw [readOptionValue,read]
  rfl

@[simp] theorem setOption_fcs (fcs : UInt8) : cfg.setOption .fcs [fcs] = {cfg with fcsPresent := true,fcs} := rfl

@[simp] theorem setOption_extFlow (extFlowSpec : ExtFlowSpec) :
    cfg.setOption .extFlow (extFlowSpecToStream extFlowSpec) = {cfg with extFlowSpecPresent := true,extFlowSpec} := by
  apply CfgInfo.setOption_of_read
  have read := readExtFlowSpec_append extFlowSpec []
  rw [List.append_nil] at read
  rw [readOptionValue,read]
  rfl

end SetOption

def CfgType.optionIf (present : Bool) (type : CfgType) (value : List UInt8) (exact : value.length = type.optionLen) :
    List CfgOption :=
  if present then [type.option value exact] else []

@[simp] theorem flatMap_optionIf (present : Bool) (type : CfgType) (value : List UInt8)
    (exact : value.length = type.optionLen) :
    (CfgType.optionIf present type value exact).flatMap CfgOption.bytes = optionToStream present type value := by
  cases present <;> simp [optionToStream,CfgType.optionIf,CfgType.option,CfgOption.bytes]

theorem length_optionToStream (present : Bool) (type : CfgType) (value : List UInt8) :
    (optionToStream present type value).length = if present then value.length + l2capCfgOptionOverhead else 0 := by
  cases present <;> simp [optionToStream,l2capCfgOptionOverhead]

theorem optionIf_exact {present : Bool} {type : CfgType} {value : List UInt8} {exact : value.length = type.optionLen} :
    ∀ opt ∈ CfgType.optionIf present type value exact, opt.Exact := by
  intro opt mem
  cases present
  · cases mem
  · rcases List.mem_singleton.mp mem with rfl
    exact ⟨type,CfgType.ofCode_code type,CfgType.toNat_optionLen type⟩

@[simp] theorem foldl_rspStep_optionIf (cfg : CfgInfo) (present : Bool) (type : CfgType) (value : List UInt8)
    (exact : value.length = type.optionLen) :
    (CfgType.optionIf present type value exact).foldl CfgOption.rspStep cfg = if present then cfg.setOption type value else cfg := by
  cases present <;> simp [CfgType.optionIf,CfgOption.rspStep,CfgType.option]

def reqOptions (cfg : CfgInfo) : List CfgOption :=
  CfgType.optionIf cfg.mtuPresent .mtu (u16ToStream cfg.mtu) (id rfl) ++
    CfgType.optionIf cfg.flushToPresent .flushTout (u16ToStream cfg.flushTo) (id rfl) ++
    CfgType.optionIf cfg.qosPresent .qos (flowSpecToStream cfg.qos) (id rfl) ++
    CfgType.optionIf cfg.fcrPresent .fcr (fcrOptsToStream cfg.fcr cfg.fcr.rtransTout cfg.fcr.monTout) (id rfl) ++
    CfgType.optionIf cfg.fcsPresent .fcs [cfg.fcs] (id rfl) ++
    CfgType.optionIf cfg.extFlowSpecPresent .extFlow (extFlowSpecToStream cfg.extFlowSpec) (id rfl)

def rspOptions (ourFcr : FcrOpts) (cfg : CfgInfo) : List CfgOption :=
  CfgType.optionIf cfg.mtuPresent .mtu (u16ToStream cfg.mtu) (id rfl) ++
    CfgType.optionIf cfg.flushToPresent .flushTout (u16ToStream cfg.flushTo) (id rfl) ++
    CfgType.optionIf cfg.qosPresent .qos (flowSpecToStream cfg.qos) (id rfl) ++
    CfgType.optionIf cfg.fcrPresent .fcr (fcrOptsToStream cfg.fcr ourFcr.rtransTout ourFcr.monTout) (id rfl) ++
    CfgType.optionIf cfg.extFlowSpecPresent .extFlow (extFlowSpecToStream cfg.extFlowSpec) (id rfl)

theorem l2cuSendPeerConfigReq_length (remoteCid : UInt16) (cfg : CfgInfo) :
    (l2cuSendPeerConfigReq remoteCid cfg).1 = (l2cuSendPeerConfigReq remoteCid cfg).2.length := by
  simp only [l2cuSendPeerConfigReq,List.length_append,length_u16ToStream,length_optionToStream,optionSize,
    CfgType.optionLen,flowSpecToStream,fcrOptsToStream,extFlowSpecToStream,length_u32ToStream,List.length_cons,
    List.length_nil,l2capConfigReqLen,l2capCfgOptionOverhead,Nat.reduceAdd,Nat.reduceMul,Nat.zero_add]
  omega

theorem l2cuSendPeerConfigReq_bytes (remoteCid : UInt16) (cfg : CfgInfo) :
    (l2cuSendPeerConfigReq remoteCid cfg).2 =
      u16ToStream remoteCid ++ u16ToStream cfg.flags ++ (reqOptions cfg).flatMap CfgOption.bytes := by
  simp only [l2cuSendPeerConfigReq,reqOptions,List.flatMap_append,flatMap_optionIf,List.append_assoc]

theorem l2cuSendPeerConfigRsp_length (remoteCid : UInt16) (ourFcr : FcrOpts) (cfg : CfgInfo) :
    (l2cuSendPeerConfigRsp remoteCid ourFcr cfg).1 = (l2cuSendPeerConfigRsp remoteCid ourFcr cfg).2.length := by
  simp only [l2cuSendPeerConfigRsp,List.length_append,length_u16ToStream,length_optionToStream,optionSize,
    CfgType.optionLen,flowSpecToStream,fcrOptsToStream,extFlowSpecToStream,length_u32ToStream,List.length_cons,
    List.length_nil,l2capConfigRspLen,l2capCfgOptionOverhead,Nat.reduceAdd,Nat.reduceMul,Nat.zero_add]
  omega

theorem l2cuSendPeerConfigRsp_bytes (remoteCid : UInt16) (ourFcr : FcrOpts) (cfg : CfgInfo) :
    (l2cuSendPeerConfigRsp remoteCid ourFcr cfg).2 = u16ToStream remoteCid ++ u16ToStream cfg.flags ++
      u16ToStream cfg.result ++ (rspOptions ourFcr cfg).flatMap CfgOption.bytes := by
  simp only [l2cuSendPeerConfigRsp,rspOptions,List.flatMap_append,flatMap_optionIf,List.append_assoc]

theorem length_le_flatMap_bytes (opts : List CfgOption) : opts.length ≤ (opts.flatMap CfgOption.bytes).length := by
  induction opts with
  | nil => simp
  | cons opt opts ih =>
    simp only [List.flatMap_cons,List.length_append,CfgOption.length_bytes,List.length_cons]
    omega

theorem reqOptions_exact (cfg : CfgInfo) : ∀ opt ∈ reqOptions cfg, opt.Exact := by
  intro opt mem
  simp only [reqOptions,List.mem_append] at mem
  rcases mem with ((((mem | mem) | mem) | mem) | mem) | mem <;> exact optionIf_exact opt mem

theorem rspOptions_exact (ourFcr : FcrOpts) (cfg : CfgInfo) : ∀ opt ∈ rspOptions ourFcr cfg, opt.Exact := by
  intro opt mem
  simp only [rspOptions,List.mem_append] at mem
  rcases mem with (((mem | mem) | mem) | mem) | mem <;> exact optionIf_exact opt mem

-- What a peer reads of cfg from l2cu_send_peer_config_req's options.
def CfgInfo.sentReq (cfg : CfgInfo) : CfgInfo where
  result := 0
  mtuPresent := cfg.mtuPresent
  mtu := if cfg.mtuPresent then cfg.mtu else 0
  qosPresent := cfg.qosPresent
  qos := if cfg.qosPresent then cfg.qos else CfgInfo.zero.qos
  flushToPresent := cfg.flushToPresent
  flushTo := if cfg.flushToPresent then cfg.flushTo else 0
  fcrPresent := cfg.fcrPresent
  fcr := if cfg.fcrPresent then cfg.fcr else CfgInfo.zero.fcr
  fcsPresent := cfg.fcsPresent
  fcs := if cfg.fcsPresent then cfg.fcs else 0
  extFlowSpecPresent := cfg.extFlowSpecPresent
  extFlowSpec := if cfg.extFlowSpecPresent then cfg.extFlowSpec else CfgInfo.zero.extFlowSpec
  flags := cfg.flags

-- The same for l2cu_send_peer_config_rsp: the FCR timeouts of our_cfg, no FCS.
def CfgInfo.sentRsp (ourFcr : FcrOpts) (cfg : CfgInfo) : CfgInfo :=
  {cfg.sentReq with
    result := cfg.result
    fcr := if cfg.fcrPresent then {cfg.fcr with rtransTout := ourFcr.rtransTout,monTout := ourFcr.monTout}
      else CfgInfo.zero.fcr
    fcsPresent := false
    fcs := 0}

theorem foldl_rspStep_reqOptions (cfg : CfgInfo) :
    (reqOptions cfg).foldl CfgOption.rspStep (CfgInfo.zero.cleared cfg.flags) = cfg.sentReq := by
  simp only [reqOptions,List.foldl_append,foldl_rspStep_optionIf,setOption_mtu,setOption_flushTout,setOption_qos,
    setOption_fcr,setOption_fcs,setOption_extFlow]
  obtain ⟨result,mtuPresent,mtu,qosPresent,qos,flushToPresent,flushTo,fcrPresent,fcr,fcsPresent,fcs,
    extFlowSpecPresent,extFlowSpec,flags⟩ := cfg
  cases mtuPresent <;> cases qosPresent <;> cases flushToPresent <;> cases fcrPresent <;> cases fcsPresent <;>
    cases extFlowSpecPresent <;> rfl

theorem foldl_rspStep_rspOptions (ourFcr : FcrOpts) (cfg : CfgInfo) :
    (rspOptions ourFcr cfg).foldl CfgOption.rspStep {CfgInfo.zero.cleared cfg.flags with result := cfg.result} =
      cfg.sentRsp ourFcr := by
  simp only [rspOptions,List.foldl_append,foldl_rspStep_optionIf,setOption_mtu,setOption_flushTout,setOption_qos,
    setOption_fcr,setOption_extFlow]
  obtain ⟨result,mtuPresent,mtu,qosPresent,qos,flushToPresent,flushTo,fcrPresent,fcr,fcsPresent,fcs,
    extFlowSpecPresent,extFlowSpec,flags⟩ := cfg
  cases mtuPresent <;> cases qosPresent <;> cases flushToPresent <;> cases fcrPresent <;>
    cases extFlowSpecPresent <;> rfl

theorem config_req_round_trip (remoteCid : UInt16) (cfg : CfgInfo) :
    configReqCmd CfgInfo.zero (l2cuSendPeerConfigReq remoteCid cfg).2 = .finished (remoteCid,cfg.sentReq,false,0) := by
  rw [l2cuSendPeerConfigReq_bytes]
  simp only [configReqCmd,List.length_append,length_u16ToStream,List.append_assoc,streamToU16_append]
  rw [if_neg (by omega),configReqOptions_exact (reqOptions_exact cfg) _ (length_le_flatMap_bytes _),
    foldl_rspStep_reqOptions]
  rfl

theorem config_rsp_round_trip (remoteCid : UInt16) (ourFcr : FcrOpts) (cfg : CfgInfo) :
    configRspCmd CfgInfo.zero (l2cuSendPeerConfigRsp remoteCid ourFcr cfg).2 = .finished (remoteCid,cfg.sentRsp ourFcr) := by
  have walk := configRspOptions_options (rspOptions_exact ourFcr cfg) {CfgInfo.zero.cleared cfg.flags with result := cfg.result}
    (length_le_flatMap_bytes (rspOptions ourFcr cfg))
  rw [foldl_rspStep_rspOptions] at walk
  rw [l2cuSendPeerConfigRsp_bytes]
  simp only [configRspCmd,List.length_append,length_u16ToStream,List.append_assoc,streamToU16_append]
  rw [if_neg (by omega),walk]
  rfl

theorem l2cap_config_codec (cfgInfo : CfgInfo) (cmd : List UInt8) (remoteCid : UInt16) (cfg : CfgInfo)
    (ourFcr : FcrOpts) :
    (configReqCmd cfgInfo cmd ≠ .overread ∧ configRspCmd cfgInfo cmd ≠ .overread) ∧
      ((l2cuSendPeerConfigReq remoteCid cfg).1 = (l2cuSendPeerConfigReq remoteCid cfg).2.length ∧
        configReqCmd CfgInfo.zero (l2cuSendPeerConfigReq remoteCid cfg).2 = .finished (remoteCid,cfg.sentReq,false,0)) ∧
      (l2cuSendPeerConfigRsp remoteCid ourFcr cfg).1 = (l2cuSendPeerConfigRsp remoteCid ourFcr cfg).2.length ∧
        configRspCmd CfgInfo.zero (l2cuSendPeerConfigRsp remoteCid ourFcr cfg).2 =
          .finished (remoteCid,cfg.sentRsp ourFcr) :=
  ⟨⟨configReqCmd_ne_overread cfgInfo cmd,configRspCmd_ne_overread cfgInfo cmd⟩,
    ⟨l2cuSendPeerConfigReq_length remoteCid cfg,config_req_round_trip remoteCid cfg⟩,
    l2cuSendPeerConfigRsp_length remoteCid ourFcr cfg,config_rsp_round_trip remoteCid ourFcr cfg⟩

end RoundTrip

-- CONFIG_RSP's walk steps over the unknown option's header only and reads its
-- value as an MTU option.
theorem config_rsp_misreads_after_unknown_option :
    configRspCmd CfgInfo.zero (u16ToStream 0x0040 ++ u16ToStream 0 ++ u16ToStream 0 ++
        [⟨0x10,0x02,[0x01,0x02],rfl⟩,CfgType.mtu.option (u16ToStream 0x1234) rfl].flatMap CfgOption.bytes) =
        .finished (0x0040,{CfgInfo.zero with mtuPresent := true,mtu := 0x0201}) ∧
      configReqCmd CfgInfo.zero (u16ToStream 0x0040 ++ u16ToStream 0 ++
        [⟨0x10,0x02,[0x01,0x02],rfl⟩,CfgType.mtu.option (u16ToStream 0x1234) rfl].flatMap CfgOption.bytes) =
        .finished (0x0040,{CfgInfo.zero with mtuPresent := true,mtu := 0x1234},true,4) :=
  ⟨by decide,by decide⟩

end BluetoothStack.L2cap
