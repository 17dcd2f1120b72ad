import Mathlib
import BluetoothStack.Avdt.Cfg

namespace BluetoothStack.Avdt

structure AvdtCfg.Sized (cfg : AvdtCfg) : Prop where
  codec : cfg.codecInfo.length = avdtCodecSize
  protect : cfg.protectInfo.length = avdtProtectSize

theorem AvdtCfg.Sized.keep {cfg : AvdtCfg} (sized : cfg.Sized) {cfg' : AvdtCfg} (codec : cfg'.codecInfo = cfg.codecInfo)
    (protect : cfg'.protectInfo = cfg.protectInfo) : cfg'.Sized :=
  ⟨codec ▸ sized.codec,protect ▸ sized.protect⟩

theorem avdtCfgZero_sized : avdtCfgZero.Sized := ⟨List.length_replicate,List.length_replicate⟩

-- A configuration as avdt_msg_bld_cfg can put it on the wire.
structure CfgWire where
  trans : Bool
  report : Bool
  codec : Option (List UInt8)
  protect : Option (List UInt8)
  delayRpt : Bool
deriving DecidableEq, Repr

-- An element as its length byte has it: the byte and that many more.
def lengthPrefixed (info : List UInt8) : List UInt8 := info.take ((info.headD 0).toNat + 1)

def AvdtCfg.wire (cfg : AvdtCfg) : CfgWire where
  trans := cfg.pscMask &&& avdtPscTrans != 0
  report := cfg.pscMask &&& avdtPscReport != 0
  codec := if cfg.numCodec = 0 then none else some (lengthPrefixed cfg.codecInfo)
  protect := if cfg.numProtect = 0 then none else some (lengthPrefixed cfg.protectInfo)
  delayRpt := cfg.pscMask &&& avdtPscDelayRpt != 0

def CfgWire.bytes (w : CfgWire) : List UInt8 :=
  (if w.trans then [UInt8.ofNat avdtCatTrans,0] else []) ++ (if w.report then [UInt8.ofNat avdtCatReport,0] else []) ++
    w.codec.elim [] (UInt8.ofNat avdtCatCodec :: ·) ++ w.protect.elim [] (UInt8.ofNat avdtCatProtect :: ·) ++
    (if w.delayRpt then [UInt8.ofNat avdtCatDelayRpt,0] else [])

def CfgWire.pscMask (w : CfgWire) : Nat :=
  (if w.trans then avdtPscTrans else 0) ||| (if w.report then avdtPscReport else 0) |||
    (if w.delayRpt then avdtPscDelayRpt else 0)

theorem CfgWire.pscMask_flags (w : CfgWire) :
    (w.pscMask &&& avdtPscTrans != 0) = w.trans ∧ (w.pscMask &&& avdtPscReport != 0) = w.report ∧
      (w.pscMask &&& avdtPscDelayRpt != 0) = w.delayRpt ∧ avdtMaskOut w.pscMask avdtPsc = 0 := by
  have flags : ∀ t r d : Bool,
      let m := (if t then avdtPscTrans else 0) ||| (if r then avdtPscReport else 0) ||| (if d then avdtPscDelayRpt else 0)
      (m &&& avdtPscTrans != 0) = t ∧ (m &&& avdtPscReport != 0) = r ∧ (m &&& avdtPscDelayRpt != 0) = d ∧
        avdtMaskOut m avdtPsc = 0 := by
    decide
  exact flags w.trans w.report w.delayRpt

theorem CfgWire.pscMask_kept (w : CfgWire) :
    w.pscMask &&& avdtMsgPscMask = w.pscMask ∧
      ({w with delayRpt := false} : CfgWire).pscMask &&& avdtLegPsc = ({w with delayRpt := false} : CfgWire).pscMask := by
  have kept : ∀ t r d : Bool,
      let m := fun d : Bool =>
        (if t then avdtPscTrans else 0) ||| (if r then avdtPscReport else 0) ||| (if d then avdtPscDelayRpt else 0)
      m d &&& avdtMsgPscMask = m d ∧ m false &&& avdtLegPsc = m false := by
    decide
  exact kept w.trans w.report w.delayRpt

-- An element the parser takes back whole: its length byte counts the bytes
-- behind it, at least two and fewer than its array holds.
def ElemFits (size : Nat) : List UInt8 → Prop
  | l :: info => info.length = l.toNat ∧ 2 ≤ l.toNat ∧ l.toNat < size
  | [] => False

structure CfgWire.Fits (w : CfgWire) : Prop where
  codec : ∀ elem ∈ w.codec, ElemFits avdtCodecSize elem
  protect : ∀ elem ∈ w.protect, ElemFits avdtProtectSize elem

-- Arrays at their sizes, and length bytes the parser takes back whole.
structure AvdtCfg.Buildable (cfg : AvdtCfg) : Prop extends cfg.Sized where
  codecLen : cfg.numCodec ≠ 0 → 2 ≤ (cfg.codecInfo.headD 0).toNat ∧ (cfg.codecInfo.headD 0).toNat < avdtCodecSize
  protectLen : cfg.numProtect ≠ 0 →
    2 ≤ (cfg.protectInfo.headD 0).toNat ∧ (cfg.protectInfo.headD 0).toNat < avdtProtectSize

theorem lengthPrefixed_fits {size : Nat} {info : List UInt8} (long : size ≤ info.length)
    (range : 2 ≤ (info.headD 0).toNat ∧ (info.headD 0).toNat < size) : ElemFits size (lengthPrefixed info) := by
  match info with
  | l :: info =>
    simp only [List.headD_cons,List.length_cons] at range long
    refine ⟨?_,range⟩
    simp only [List.headD_cons,List.length_take]
    omega

theorem AvdtCfg.Buildable.wire_fits {cfg : AvdtCfg} (buildable : cfg.Buildable) : cfg.wire.Fits := by
  constructor
  · intro elem held
    simp only [AvdtCfg.wire] at held
    split_ifs at held with none
    · cases held
    · cases Option.mem_def.mp held
      exact lengthPrefixed_fits (by rw [buildable.codec]) (buildable.codecLen none)
  · intro elem held
    simp only [AvdtCfg.wire] at held
    split_ifs at held with none
    · cases held
    · cases Option.mem_def.mp held
      exact lengthPrefixed_fits (by rw [buildable.protect]) (buildable.protectLen none)

-- The wrap of len and the cut to the array never happen to a buildable
-- configuration.
theorem avdtMsgBldCfg_wire {cfg : AvdtCfg} (buildable : cfg.Buildable) : avdtMsgBldCfg cfg = cfg.wire.bytes := by
  have codec : (if cfg.numCodec ≠ 0 then
      UInt8.ofNat avdtCatCodec :: cfg.codecInfo.take (min (((cfg.codecInfo.headD 0).toNat + 1) % 256) avdtCodecSize)
      else []) = cfg.wire.codec.elim [] (UInt8.ofNat avdtCatCodec :: ·) := by
    by_cases none : cfg.numCodec = 0
    · simp [AvdtCfg.wire,none]
    · have range := buildable.codecLen none
      simp only [avdtCodecSize] at range
      have short : min (((cfg.codecInfo.headD 0).toNat + 1) % 256) avdtCodecSize = (cfg.codecInfo.headD 0).toNat + 1 := by
        simp only [avdtCodecSize]
        omega
      rw [if_pos none,short]
      simp only [AvdtCfg.wire,if_neg none]
      rfl
  have protect : (if cfg.numProtect ≠ 0 then
      UInt8.ofNat avdtCatProtect ::
        cfg.protectInfo.take (min (((cfg.protectInfo.headD 0).toNat + 1) % 256) avdtProtectSize)
      else []) = cfg.wire.protect.elim [] (UInt8.ofNat avdtCatProtect :: ·) := by
    by_cases none : cfg.numProtect = 0
    · simp [AvdtCfg.wire,none]
    · have range := buildable.protectLen none
      simp only [avdtProtectSize] at range
      have short : min (((cfg.protectInfo.headD 0).toNat + 1) % 256) avdtProtectSize =
          (cfg.protectInfo.headD 0).toNat + 1 := by
        simp only [avdtProtectSize]
        omega
      rw [if_pos none,short]
      simp only [AvdtCfg.wire,if_neg none]
      rfl
  rw [avdtMsgBldCfg,codec,protect]
  simp only [CfgWire.bytes,AvdtCfg.wire,bne_iff_ne,ne_eq]


theorem lengthPrefixed_append {size : Nat} {elem : List UInt8} (fits : ElemFits size elem) (rest : List UInt8) :
    lengthPrefixed (elem ++ rest) = elem := by
  match elem, fits with
  | l :: info, ⟨len,_⟩ =>
    rw [lengthPrefixed,List.cons_append,List.headD_cons,List.take_succ_cons,← len,List.take_left]

def readCodec (cfg : AvdtCfg) : Option (List UInt8) → AvdtCfg
  | none => cfg
  | some elem =>
    {cfg with pscMask := avdtMaskOut (cfg.pscMask ||| 1 <<< avdtCatCodec) avdtPscCodec,
              numCodec := (cfg.numCodec + 1) % 256,codecInfo := elem ++ cfg.codecInfo.drop elem.length}

def readProtect (cfg : AvdtCfg) : Option (List UInt8) → AvdtCfg
  | none => cfg
  | some elem =>
    {cfg with pscMask := avdtMaskOut (cfg.pscMask ||| 1 <<< avdtCatProtect) avdtPscProtect,
              numProtect := (cfg.numProtect + 1) % 256,protectInfo := elem ++ cfg.protectInfo.drop elem.length}

theorem readCodec_sized {cfg : AvdtCfg} (sized : cfg.Sized) {codec : Option (List UInt8)}
    (fits : ∀ e ∈ codec, ElemFits avdtCodecSize e) : (readCodec cfg codec).Sized := by
  match codec, fits with
  | none, _ => exact sized
  | some (l :: info), fits =>
    obtain ⟨len,range⟩ := fits _ rfl
    refine ⟨?_,sized.protect⟩
    simp only [readCodec,List.length_append,List.length_drop,sized.codec,List.length_cons,len]
    omega
  | some [], fits => exact (fits _ rfl).elim

theorem readProtect_sized {cfg : AvdtCfg} (sized : cfg.Sized) {protect : Option (List UInt8)}
    (fits : ∀ e ∈ protect, ElemFits avdtProtectSize e) : (readProtect cfg protect).Sized := by
  match protect, fits with
  | none, _ => exact sized
  | some (l :: info), fits =>
    obtain ⟨len,range⟩ := fits _ rfl
    refine ⟨sized.codec,?_⟩
    simp only [readProtect,List.length_append,List.length_drop,sized.protect,List.length_cons,len]
    omega
  | some [], fits => exact (fits _ rfl).elim

@[simp] theorem readCodec_pscMask (cfg : AvdtCfg) (codec : Option (List UInt8)) :
    (readCodec cfg codec).pscMask =
      if codec.isSome then avdtMaskOut (cfg.pscMask ||| 1 <<< avdtCatCodec) avdtPscCodec else cfg.pscMask := by
  cases codec <;> rfl

@[simp] theorem readProtect_pscMask (cfg : AvdtCfg) (protect : Option (List UInt8)) :
    (readProtect cfg protect).pscMask =
      if protect.isSome then avdtMaskOut (cfg.pscMask ||| 1 <<< avdtCatProtect) avdtPscProtect else cfg.pscMask := by
  cases protect <;> rfl

@[simp] theorem readCodec_numProtect (cfg : AvdtCfg) (codec : Option (List UInt8)) :
    (readCodec cfg codec).numProtect = cfg.numProtect := by
  cases codec <;> rfl

@[simp] theorem readProtect_numCodec (cfg : AvdtCfg) (protect : Option (List UInt8)) :
    (readProtect cfg protect).numCodec = cfg.numCodec := by
  cases protect <;> rfl

@[simp] theorem readProtect_codecInfo (cfg : AvdtCfg) (protect : Option (List UInt8)) :
    (readProtect cfg protect).codecInfo = cfg.codecInfo := by
  cases protect <;> rfl

theorem readCodec_wire {cfg : AvdtCfg} (none : cfg.numCodec = 0) {codec : Option (List UInt8)}
    (fits : ∀ e ∈ codec, ElemFits avdtCodecSize e) :
    (if (readCodec cfg codec).numCodec = 0 then Option.none else some (lengthPrefixed (readCodec cfg codec).codecInfo)) =
      codec := by
  match codec, fits with
  | Option.none, _ => rw [readCodec,if_pos none]
  | some elem, fits =>
    rw [readCodec,if_neg (by simp only [none]; decide),lengthPrefixed_append (fits elem rfl)]

theorem readProtect_wire {cfg : AvdtCfg} (none : cfg.numProtect = 0) {protect : Option (List UInt8)}
    (fits : ∀ e ∈ protect, ElemFits avdtProtectSize e) :
    (if (readProtect cfg protect).numProtect = 0 then Option.none
      else some (lengthPrefixed (readProtect cfg protect).protectInfo)) = protect := by
  match protect, fits with
  | Option.none, _ => rw [readProtect,if_pos none]
  | some elem, fits =>
    rw [readProtect,if_neg (by simp only [none]; decide),lengthPrefixed_append (fits elem rfl)]

theorem pscMask_read (w : CfgWire) :
    let m := if w.trans then 0 ||| 1 <<< avdtCatTrans else 0
    let m := if w.report then m ||| 1 <<< avdtCatReport else m
    let m := if w.codec.isSome then avdtMaskOut (m ||| 1 <<< avdtCatCodec) avdtPscCodec else m
    let m := if w.protect.isSome then avdtMaskOut (m ||| 1 <<< avdtCatProtect) avdtPscProtect else m
    let m := if w.delayRpt then m ||| 1 <<< avdtCatDelayRpt else m
    m = w.pscMask := by
  have read : ∀ t r c p d : Bool,
      let m := if t then 0 ||| 1 <<< avdtCatTrans else 0
      let m := if r then m ||| 1 <<< avdtCatReport else m
      let m := if c then avdtMaskOut (m ||| 1 <<< avdtCatCodec) avdtPscCodec else m
      let m := if p then avdtMaskOut (m ||| 1 <<< avdtCatProtect) avdtPscProtect else m
      let m := if d then m ||| 1 <<< avdtCatDelayRpt else m
      m = (if t then avdtPscTrans else 0) ||| (if r then avdtPscReport else 0) ||| (if d then avdtPscDelayRpt else 0) := by
    decide
  exact read w.trans w.report w.codec.isSome w.protect.isSome w.delayRpt

section Loop

variable {sigId : Nat}

@[simp] theorem prsCfgLoop_nil (cfg : AvdtCfg) (protectOffset elem : Nat) :
    prsCfgLoop sigId cfg protectOffset elem [] = some (cfg,elem,0) := by
  rw [prsCfgLoop]

-- Either way the copies a pass made stayed inside the arrays.
theorem prsCfgLoop_cons_cons {cfg : AvdtCfg} (sized : cfg.Sized) (protectOffset elem : Nat) (e l : UInt8)
    (p : List UInt8) :
    (∃ cfg' err, cfg'.Sized ∧ err ≠ 0 ∧ prsCfgLoop sigId cfg protectOffset elem (e :: l :: p) = some (cfg',e.toNat,err)) ∨
    (∃ cfg' protectOffset' rest, cfg'.Sized ∧ rest.length ≤ p.length ∧
      prsCfgLoop sigId cfg protectOffset elem (e :: l :: p) = prsCfgLoop sigId cfg' protectOffset' e.toNat rest) := by
  have bounded := e.toNat_lt
  have lenBounded := l.toNat_lt
  rw [prsCfgLoop]
  dsimp only
  by_cases unknown : e.toNat = 0 ∨ e.toNat > avdtCatMaxCur
  · rw [if_pos unknown]
    split_ifs with config
    · exact .inl ⟨cfg,_,sized,by decide,rfl⟩
    · exact .inr ⟨cfg,protectOffset,p.drop l.toNat,sized,by simp,rfl⟩
  rw [if_neg unknown]
  -- a known category: e.toNat is one of 1 to 8
  have known : e.toNat ∈ [1,2,3,4,5,6,7,8] := by
    simp only [avdtCatMaxCur,avdtCatDelayRpt] at unknown
    simp only [List.mem_cons,List.not_mem_nil,or_false]
    omega
  by_cases bad : l.toNat > avdtMsgIeLenMax.getD e.toNat 0 ∨ l.toNat < avdtMsgIeLenMin.getD e.toNat 0
  · rw [if_pos bad]
    have named : avdtMsgIeErr.getD e.toNat 0 ≠ 0 := by
      simp only [List.mem_cons,List.not_mem_nil,or_false] at known
      rcases known with k | k | k | k | k | k | k | k <;> rw [k] <;> decide
    exact .inl ⟨cfg,_,sized,named,rfl⟩
  rw [if_neg bad]
  have marked : ({cfg with pscMask := cfg.pscMask ||| 1 <<< e.toNat} : AvdtCfg).Sized := sized.keep rfl rfl
  by_cases recov : e.toNat = avdtCatRecov
  · -- AVDT_CAT_RECOV reads three bytes
    rw [if_pos recov]
    rcases p with _ | ⟨recovType,_ | ⟨recovMrws,_ | ⟨recovMnmp,p⟩⟩⟩
    case cons.cons.cons =>
      dsimp only
      split_ifs
      · refine .inl ⟨_,avdtErrRecovType,?_,by decide,rfl⟩
        exact marked.keep rfl rfl
      · refine .inl ⟨_,avdtErrRecovFmt,?_,by decide,rfl⟩
        exact marked.keep rfl rfl
      · refine .inr ⟨_,protectOffset,p,?_,by simp only [List.length_cons]; omega,rfl⟩
        exact marked.keep rfl rfl
    all_goals exact .inl ⟨_,avdtErrPayload,marked,by decide,rfl⟩
  rw [if_neg recov]
  by_cases protect : e.toNat = avdtCatProtect
  · rw [if_pos protect]
    by_cases short : l.toNat > p.length
    · rw [if_pos short]
      refine .inl ⟨_,avdtErrLength,?_,by decide,rfl⟩
      exact marked.keep rfl rfl
    rw [if_neg short]
    by_cases room : l.toNat + protectOffset < avdtProtectSize
    · -- copied behind protect_offset, inside protect_info
      rw [if_pos room]
      obtain ⟨first,written,length⟩ := @Buffer.exists_write _ cfg.protectInfo [l] protectOffset
        (by rw [sized.protect]; simp only [List.length_singleton]; omega)
      obtain ⟨second,written',length'⟩ := @Buffer.exists_write _ first (p.take l.toNat) (protectOffset + 1)
        (by rw [length,sized.protect,List.length_take]; omega)
      refine .inr ⟨{cfg with pscMask := avdtMaskOut (cfg.pscMask ||| 1 <<< e.toNat) avdtPscProtect,
                             numProtect := (cfg.numProtect + 1) % 256,protectInfo := second},
        protectOffset + 1 + l.toNat,p.drop l.toNat,⟨sized.codec,?_⟩,by simp,?_⟩
      · show second.length = avdtProtectSize
        rw [length',length,sized.protect]
      · rw [written,Option.bind_some,written',Option.bind_some]
    · -- past protect_info: skipped
      rw [if_neg room]
      refine .inr ⟨_,protectOffset,p.drop l.toNat,?_,by simp,rfl⟩
      exact marked.keep rfl rfl
  rw [if_neg protect]
  by_cases hdrcmp : e.toNat = avdtCatHdrcmp
  · -- AVDT_CAT_HDRCMP reads one byte
    rw [if_pos hdrcmp]
    rcases p with _ | ⟨hdrcmpMask,p⟩
    · exact .inl ⟨_,avdtErrPayload,marked,by decide,rfl⟩
    · refine .inr ⟨_,protectOffset,p,?_,by simp,rfl⟩
      exact marked.keep rfl rfl
  rw [if_neg hdrcmp]
  by_cases codec : e.toNat = avdtCatCodec
  · -- AVDT_CAT_CODEC: the length byte, then at most AVDT_CODEC_SIZE - 1 bytes
    rw [if_pos codec]
    generalize tmpEq : (if l.toNat ≥ avdtCodecSize then avdtCodecSize - 1 else l.toNat) = tmp
    have tmpSmall : tmp ≤ avdtCodecSize - 1 := by
      rw [← tmpEq]
      split_ifs <;> simp only [avdtCodecSize] at * <;> omega
    by_cases short : tmp > p.length
    · rw [if_pos short]
      refine .inl ⟨_,avdtErrLength,?_,by decide,rfl⟩
      exact marked.keep rfl rfl
    rw [if_neg short]
    obtain ⟨first,written,length⟩ := @Buffer.exists_write _ cfg.codecInfo [l] 0
      (by rw [sized.codec]; simp [avdtCodecSize])
    obtain ⟨second,written',length'⟩ := @Buffer.exists_write _ first (p.take tmp) 1
      (by rw [length,sized.codec,List.length_take]; simp only [avdtCodecSize] at *; omega)
    refine .inr ⟨{cfg with pscMask := avdtMaskOut (cfg.pscMask ||| 1 <<< e.toNat) avdtPscCodec,
                           numCodec := (cfg.numCodec + 1) % 256,codecInfo := second},
      protectOffset,p.drop l.toNat,⟨?_,sized.protect⟩,by simp,?_⟩
    · show second.length = avdtCodecSize
      rw [length',length,sized.codec]
    · rw [written,Option.bind_some,written',Option.bind_some]
  rw [if_neg codec]
  by_cases delayRpt : e.toNat = avdtCatDelayRpt
  · -- AVDT_CAT_DELAY_RPT: p stays
    rw [if_pos delayRpt]
    exact .inr ⟨_,protectOffset,p,marked,le_refl _,rfl⟩
  · -- the other categories are skipped
    rw [if_neg delayRpt]
    exact .inr ⟨_,protectOffset,p.drop l.toNat,marked,by simp,rfl⟩

theorem prsCfgLoop_sized (bytes : List UInt8) :
    ∀ {cfg : AvdtCfg} (protectOffset elem : Nat), cfg.Sized →
      ∃ cfg' elem' err, prsCfgLoop sigId cfg protectOffset elem bytes = some (cfg',elem',err) ∧ cfg'.Sized := by
  -- the induction is on what is left of the message, which every pass shortens
  induction h : bytes.length using Nat.strong_induction_on generalizing bytes with
  | _ n ih =>
    intro cfg protectOffset elem sized
    match bytes with
    | [] => exact ⟨cfg,elem,0,by rw [prsCfgLoop],sized⟩
    | [_] => exact ⟨cfg,elem,avdtErrPayload,by rw [prsCfgLoop],sized⟩
    | e :: l :: p =>
      rcases prsCfgLoop_cons_cons sized protectOffset elem e l p with ⟨cfg',err,sized',-,stops⟩ |
        ⟨cfg',protectOffset',rest,sized',shorter,goes⟩
      · exact ⟨cfg',_,err,stops,sized'⟩
      · rw [goes]
        exact ih rest.length (by simp only [List.length_cons] at h; omega) rest rfl protectOffset' e.toNat sized'

theorem prsCfgLoop_flag {cat : Nat} (plain : cat = avdtCatTrans ∨ cat = avdtCatReport ∨ cat = avdtCatDelayRpt)
    (cfg : AvdtCfg) (protectOffset elem : Nat) (rest : List UInt8) :
    prsCfgLoop sigId cfg protectOffset elem (UInt8.ofNat cat :: 0 :: rest) =
      prsCfgLoop sigId {cfg with pscMask := cfg.pscMask ||| 1 <<< cat} protectOffset cat rest := by
  rcases plain with rfl | rfl | rfl <;> rw [prsCfgLoop] <;> rfl

theorem prsCfgLoop_codec_cut {cfg : AvdtCfg} (sized : cfg.Sized) (protectOffset elem : Nat) {l : UInt8}
    {info : List UInt8} (len : info.length = l.toNat) (least : 2 ≤ l.toNat) (rest : List UInt8) :
    prsCfgLoop sigId cfg protectOffset elem (UInt8.ofNat avdtCatCodec :: l :: (info ++ rest)) =
      prsCfgLoop sigId {cfg with pscMask := avdtMaskOut (cfg.pscMask ||| 1 <<< avdtCatCodec) avdtPscCodec,
                                 numCodec := (cfg.numCodec + 1) % 256,
                                 codecInfo := l :: info.take (min l.toNat (avdtCodecSize - 1)) ++
                                   cfg.codecInfo.drop (min l.toNat (avdtCodecSize - 1) + 1)}
        protectOffset avdtCatCodec rest := by
  have size := sized.codec
  have byte := l.toNat_lt
  simp only [avdtCodecSize] at size
  rw [prsCfgLoop]
  dsimp only
  have lengths : avdtMsgIeLenMax.getD (UInt8.ofNat avdtCatCodec).toNat 0 = 255 ∧
      avdtMsgIeLenMin.getD (UInt8.ofNat avdtCatCodec).toNat 0 = 2 := ⟨rfl,rfl⟩
  -- tmp of the source: elem_len, cut to AVDT_CODEC_SIZE - 1
  have tmp : (if l.toNat ≥ avdtCodecSize then avdtCodecSize - 1 else l.toNat) = min l.toNat (avdtCodecSize - 1) := by
    by_cases big : l.toNat ≥ avdtCodecSize
    · rw [if_pos big,Nat.min_eq_right (by simp only [avdtCodecSize] at big ⊢; omega)]
    · rw [if_neg big,Nat.min_eq_left (by simp only [avdtCodecSize] at big ⊢; omega)]
  have few : min l.toNat (avdtCodecSize - 1) ≤ info.length := by omega
  rw [if_neg (by decide),lengths.1,lengths.2,if_neg (by omega),if_neg (by decide),if_neg (by decide),
    if_neg (by decide),if_pos (by decide),tmp,if_neg (by simp only [List.length_append]; omega),
    List.take_append_of_le_length few,List.drop_left' len,Buffer.write_eq (by simp only [List.length_singleton]; omega)]
  have fits : 1 + (info.take (min l.toNat (avdtCodecSize - 1))).length ≤
      (cfg.codecInfo.take 0 ++ [l] ++ cfg.codecInfo.drop (0 + [l].length)).length := by
    simp only [List.length_append,List.length_take,List.length_drop,List.length_singleton,avdtCodecSize]
    omega
  rw [Option.bind_some,Buffer.write_eq fits,Option.bind_some]
  congr 2
  simp only [List.take_zero,List.nil_append,List.singleton_append,List.take_succ_cons,List.take_zero,
    List.length_take,Nat.min_eq_left few]
  rw [Nat.add_comm 1,List.drop_succ_cons,List.drop_drop,List.length_singleton,Nat.zero_add,Nat.add_comm]

theorem prsCfgLoop_codec {cfg : AvdtCfg} (sized : cfg.Sized) (protectOffset elem : Nat) {l : UInt8}
    {info : List UInt8} (len : info.length = l.toNat) (range : 2 ≤ l.toNat ∧ l.toNat < avdtCodecSize)
    (rest : List UInt8) :
    prsCfgLoop sigId cfg protectOffset elem (UInt8.ofNat avdtCatCodec :: l :: (info ++ rest)) =
      prsCfgLoop sigId {cfg with pscMask := avdtMaskOut (cfg.pscMask ||| 1 <<< avdtCatCodec) avdtPscCodec,
                                 numCodec := (cfg.numCodec + 1) % 256,
                                 codecInfo := l :: info ++ cfg.codecInfo.drop (l.toNat + 1)}
        protectOffset avdtCatCodec rest := by
  have whole : min l.toNat (avdtCodecSize - 1) = l.toNat := Nat.min_eq_left (by simp only [avdtCodecSize] at range ⊢; omega)
  rw [prsCfgLoop_codec_cut sized protectOffset elem len range.1 rest,whole,List.take_of_length_le (le_of_eq len)]

theorem prsCfgLoop_protect {cfg : AvdtCfg} (sized : cfg.Sized) (elem : Nat) {l : UInt8} {info : List UInt8}
    (len : info.length = l.toNat) (range : 2 ≤ l.toNat ∧ l.toNat < avdtProtectSize) (rest : List UInt8) :
    prsCfgLoop sigId cfg 0 elem (UInt8.ofNat avdtCatProtect :: l :: (info ++ rest)) =
      prsCfgLoop sigId {cfg with pscMask := avdtMaskOut (cfg.pscMask ||| 1 <<< avdtCatProtect) avdtPscProtect,
                                 numProtect := (cfg.numProtect + 1) % 256,
                                 protectInfo := l :: info ++ cfg.protectInfo.drop (l.toNat + 1)}
        (0 + 1 + l.toNat) avdtCatProtect rest := by
  have size := sized.protect
  simp only [avdtProtectSize] at size range
  rw [prsCfgLoop]
  dsimp only
  have lengths : avdtMsgIeLenMax.getD (UInt8.ofNat avdtCatProtect).toNat 0 = 255 ∧
      avdtMsgIeLenMin.getD (UInt8.ofNat avdtCatProtect).toNat 0 = 2 := ⟨rfl,rfl⟩
  rw [if_neg (by decide),lengths.1,lengths.2,if_neg (by omega),if_neg (by decide),if_pos (by decide),
    if_neg (by simp only [List.length_append]; omega),if_pos (show l.toNat + 0 < avdtProtectSize by
      simp only [avdtProtectSize]; omega),List.take_left' len,List.drop_left' len,
    Buffer.write_eq (by simp only [List.length_singleton]; omega)]
  have fits : 0 + 1 + info.length ≤
      (cfg.protectInfo.take 0 ++ [l] ++ cfg.protectInfo.drop (0 + [l].length)).length := by
    simp only [List.length_append,List.length_take,List.length_drop,List.length_singleton]
    omega
  rw [Option.bind_some,Buffer.write_eq fits,Option.bind_some]
  congr 2
  simp only [List.take_zero,List.nil_append,List.singleton_append,Nat.zero_add,List.take_succ_cons,List.take_zero,
    len]
  rw [Nat.add_comm 1,List.drop_succ_cons,List.drop_drop,List.length_singleton,Nat.add_comm]

theorem prsCfgLoop_flagPart {cat : Nat} (plain : cat = avdtCatTrans ∨ cat = avdtCatReport ∨ cat = avdtCatDelayRpt)
    (b : Bool) (cfg : AvdtCfg) (protectOffset elem : Nat) (rest : List UInt8) :
    prsCfgLoop sigId cfg protectOffset elem ((if b then [UInt8.ofNat cat,0] else []) ++ rest) =
      prsCfgLoop sigId {cfg with pscMask := if b then cfg.pscMask ||| 1 <<< cat else cfg.pscMask} protectOffset
        (if b then cat else elem) rest := by
  cases b
  · rfl
  · exact prsCfgLoop_flag plain cfg protectOffset elem rest

theorem prsCfgLoop_codecPart {cfg : AvdtCfg} (sized : cfg.Sized) (protectOffset elem : Nat)
    {codec : Option (List UInt8)} (fits : ∀ e ∈ codec, ElemFits avdtCodecSize e) (rest : List UInt8) :
    prsCfgLoop sigId cfg protectOffset elem (codec.elim [] (UInt8.ofNat avdtCatCodec :: ·) ++ rest) =
      prsCfgLoop sigId (readCodec cfg codec) protectOffset (codec.elim elem fun _ => avdtCatCodec) rest := by
  match codec, fits with
  | none, _ => rfl
  | some (l :: info), fits =>
    obtain ⟨len,range⟩ := fits _ rfl
    rw [Option.elim_some,List.cons_append,List.cons_append,prsCfgLoop_codec sized protectOffset elem len range rest,
      readCodec,List.length_cons,len]
    rfl
  | some [], fits => exact (fits _ rfl).elim

theorem prsCfgLoop_protectPart {cfg : AvdtCfg} (sized : cfg.Sized) (elem : Nat)
    {protect : Option (List UInt8)} (fits : ∀ e ∈ protect, ElemFits avdtProtectSize e) (rest : List UInt8) :
    prsCfgLoop sigId cfg 0 elem (protect.elim [] (UInt8.ofNat avdtCatProtect :: ·) ++ rest) =
      prsCfgLoop sigId (readProtect cfg protect) (protect.elim 0 List.length)
        (protect.elim elem fun _ => avdtCatProtect) rest := by
  match protect, fits with
  | none, _ => rfl
  | some (l :: info), fits =>
    obtain ⟨len,range⟩ := fits _ rfl
    rw [Option.elim_some,List.cons_append,List.cons_append,prsCfgLoop_protect sized elem len range rest,
      readProtect,Option.elim_some,List.length_cons,len,Nat.zero_add,Nat.add_comm 1]
    rfl
  | some [], fits => exact (fits _ rfl).elim

theorem prsCfgLoop_wire {w : CfgWire} (fits : w.Fits) {cfg : AvdtCfg} (sized : cfg.Sized)
    (cleared : cfg.pscMask = 0 ∧ cfg.numCodec = 0 ∧ cfg.numProtect = 0) :
    ∃ cfg' elem, prsCfgLoop sigId cfg 0 0 w.bytes = some (cfg',elem,0) ∧ cfg'.wire = w ∧ cfg'.Sized ∧
      cfg'.pscMask = w.pscMask := by
  have flagged : ({{cfg with pscMask := if w.trans then cfg.pscMask ||| 1 <<< avdtCatTrans else cfg.pscMask} with
      pscMask := if w.report then (if w.trans then cfg.pscMask ||| 1 <<< avdtCatTrans else cfg.pscMask) ||| 1 <<< avdtCatReport
        else if w.trans then cfg.pscMask ||| 1 <<< avdtCatTrans else cfg.pscMask} : AvdtCfg).Sized := sized.keep rfl rfl
  have codecRead := readCodec_sized flagged fits.codec
  have last : (if w.delayRpt then [UInt8.ofNat avdtCatDelayRpt,0] else []) =
      (if w.delayRpt then [UInt8.ofNat avdtCatDelayRpt,0] else []) ++ [] := (List.append_nil _).symm
  simp only [CfgWire.bytes,List.append_assoc]
  rw [prsCfgLoop_flagPart (.inl rfl),prsCfgLoop_flagPart (.inr (.inl rfl)),prsCfgLoop_codecPart flagged _ _ fits.codec,
    prsCfgLoop_protectPart codecRead _ fits.protect,last,prsCfgLoop_flagPart (.inr (.inr rfl)),prsCfgLoop]
  refine ⟨_,_,rfl,?_,(readProtect_sized codecRead fits.protect).keep rfl rfl,?_⟩
  all_goals
    have read := pscMask_read w
    dsimp only at read ⊢
    simp only [readCodec_pscMask,readProtect_pscMask,cleared.1,read]
  obtain ⟨trans,report,delayRpt,-⟩ := w.pscMask_flags
  rw [AvdtCfg.wire]
  simp only [readProtect_numCodec,readProtect_codecInfo]
  rw [trans,report,delayRpt,readCodec_wire (by exact cleared.2.1) fits.codec,
    readProtect_wire (by rw [readCodec_numProtect]; exact cleared.2.2) fits.protect]

end Loop

theorem avdtMsgPrsSeid_bld {seid : Nat} (small : seid < 64) : avdtMsgPrsSeid (avdtMsgBldSeid seid) = seid := by
  have table : ∀ s < 64, avdtMsgPrsSeid (avdtMsgBldSeid s) = s := by decide
  exact table seid small

theorem avdtMsgPrsCfg_bld {cfg : AvdtCfg} (buildable : cfg.Buildable) {cfg0 : AvdtCfg} (sized : cfg0.Sized)
    (pElem sigId : Nat) :
    ∃ cfg' elem, avdtMsgPrsCfg (some cfg0) (avdtMsgBldCfg cfg) pElem sigId = some (some cfg',elem,0) ∧
      cfg'.wire = cfg.wire ∧ cfg'.pscMask = cfg.wire.pscMask := by
  obtain ⟨cfg',elem,ran,wire,-,masked⟩ :=
    @prsCfgLoop_wire sigId cfg.wire buildable.wire_fits {cfg0 with pscMask := 0,numCodec := 0,numProtect := 0}
      (sized.keep rfl rfl) ⟨rfl,rfl,rfl⟩
  refine ⟨cfg',elem,?_,wire,masked⟩
  rw [avdtMsgPrsCfg,avdtMsgBldCfg_wire buildable,ran,Option.map_some]

theorem AvdtCfg.Buildable.withMask {cfg : AvdtCfg} (buildable : cfg.Buildable) (pscMask : Nat) :
    ({cfg with pscMask} : AvdtCfg).Buildable :=
  ⟨buildable.toSized.keep rfl rfl,buildable.codecLen,buildable.protectLen⟩

theorem AvdtCfg.codec_of_wire {cfg cfg' : AvdtCfg} (wire : cfg'.wire = cfg.wire) (codec : cfg.numCodec ≠ 0) :
    cfg'.numCodec ≠ 0 := by
  intro none
  have same := congrArg CfgWire.codec wire
  simp only [AvdtCfg.wire,none,if_true,if_neg codec] at same
  cases same

section Messages

variable {scbByHdl : Nat → Bool}

theorem avdt_setconfig_round_trip {cfg : AvdtCfg} (buildable : cfg.Buildable) (codec : cfg.numCodec ≠ 0)
    {seid intSeid : Nat} (known : scbByHdl seid = true) (seidSmall : seid < 64)
    (intRange : avdtSeidMin ≤ intSeid ∧ intSeid ≤ avdtSeidMax) {msg : CfgMsg} {cfg0 : AvdtCfg}
    (target : msg.pCfg = some cfg0) (sized : cfg0.Sized) :
    ∃ cfg' elem, avdtMsgPrsSetconfigCmd scbByHdl msg (avdtMsgBldSetconfigCmd seid intSeid cfg) =
      some ({msg with seid,intSeid,errParam := elem,pCfg := some cfg'},0) ∧ cfg'.wire = cfg.wire := by
  obtain ⟨cfg',elem,parsed,wire,masked⟩ := avdtMsgPrsCfg_bld buildable sized 0 avdtSigSetconfig
  have intSmall : intSeid < 64 := by simp only [avdtSeidMax] at intRange; omega
  refine ⟨cfg',elem,?_,wire⟩
  rw [avdtMsgBldSetconfigCmd,List.cons_append,List.cons_append,List.nil_append,avdtMsgPrsSetconfigCmd]
  dsimp only
  rw [avdtMsgPrsSeid_bld seidSmall,avdtMsgPrsSeid_bld intSmall,known,if_pos rfl,
    if_neg (show ¬(intSeid < avdtSeidMin ∨ intSeid > avdtSeidMax) by omega),if_neg (by decide),target,parsed,
    Option.map_some]
  dsimp only
  -- the configuration read names no category beyond AVDT_PSC and has a codec
  rw [if_neg (show ¬(0 = 0 ∧ (avdtMaskOut cfg'.pscMask avdtPsc ≠ 0 ∨ cfg'.numCodec = 0)) by
    rw [masked,cfg.wire.pscMask_flags.2.2.2]
    exact fun held => held.2.elim (fun nonzero => nonzero rfl) (AvdtCfg.codec_of_wire wire codec))]

theorem avdt_setconfig_round_trip_sample :
    ∃ cfg' elem, avdtMsgPrsSetconfigCmd (fun _ => true) ⟨0,0,some avdtCfgZero,0⟩
        (avdtMsgBldSetconfigCmd 1 2 ⟨6 :: List.replicate 44 0,List.replicate 90 0,1,0,avdtPscTrans,0,0,0,0⟩) =
      some ({(⟨0,0,some avdtCfgZero,0⟩ : CfgMsg) with seid := 1,intSeid := 2,errParam := elem,pCfg := some cfg'},0) ∧
      cfg'.wire = ((⟨6 :: List.replicate 44 0,List.replicate 90 0,1,0,avdtPscTrans,0,0,0,0⟩ : AvdtCfg)).wire :=
  avdt_setconfig_round_trip ⟨⟨rfl,rfl⟩,fun _ => by decide,fun none => absurd rfl none⟩ (by decide) rfl (by decide) (by decide) rfl
    avdtCfgZero_sized

-- The builder clears psc_mask in the caller's configuration before it builds.
theorem avdt_reconfig_round_trip {cfg : AvdtCfg} (buildable : cfg.Buildable)
    (carries : cfg.numCodec ≠ 0 ∨ cfg.numProtect ≠ 0) {seid : Nat} (known : scbByHdl seid = true)
    (seidSmall : seid < 64) {msg : CfgMsg} {cfg0 : AvdtCfg} (target : msg.pCfg = some cfg0) (sized : cfg0.Sized) :
    (avdtMsgBldReconfigCmd seid cfg).2.pscMask = 0 ∧
      ∃ cfg' elem, avdtMsgPrsReconfigCmd scbByHdl msg (avdtMsgBldReconfigCmd seid cfg).1 =
        some ({msg with seid,errParam := elem,pCfg := some cfg'},0) ∧
        cfg'.wire = {cfg.wire with trans := false,report := false,delayRpt := false} := by
  obtain ⟨cfg',elem,parsed,wire,masked⟩ := avdtMsgPrsCfg_bld (buildable.withMask 0) sized 0 avdtSigReconfig
  -- with psc_mask cleared only the codec and content protection are said
  have cleared : ({cfg with pscMask := 0} : AvdtCfg).wire = {cfg.wire with trans := false,report := false,delayRpt := false} := by
    simp [AvdtCfg.wire]
  rw [cleared] at wire masked
  refine ⟨rfl,cfg',elem,?_,wire⟩
  rw [avdtMsgBldReconfigCmd]
  dsimp only
  rw [List.cons_append,List.nil_append,avdtMsgPrsReconfigCmd]
  dsimp only
  rw [avdtMsgPrsSeid_bld seidSmall,known,if_neg (by decide),target,parsed,Option.map_some]
  dsimp only
  -- nothing in psc_mask, and a codec or content protection read
  have said : ¬(cfg'.numCodec = 0 ∧ cfg'.numProtect = 0) := by
    rintro ⟨noCodec,noProtect⟩
    have codec := congrArg CfgWire.codec wire
    have protect := congrArg CfgWire.protect wire
    simp only [AvdtCfg.wire,noCodec,noProtect,if_true] at codec protect
    rcases carries with some | some
    · rw [if_neg some] at codec
      cases codec
    · rw [if_neg some] at protect
      cases protect
  have zero : ({cfg.wire with trans := false,report := false,delayRpt := false} : CfgWire).pscMask = 0 := by
    simp [CfgWire.pscMask]
  rw [if_neg (show ¬(0 = 0 ∧ (cfg'.pscMask ≠ 0 ∨ cfg'.numCodec = 0 ∧ cfg'.numProtect = 0)) by
    rw [masked,zero]
    exact fun held => held.2.elim (fun nonzero => nonzero rfl) said)]

theorem avdt_reconfig_round_trip_sample :
    (avdtMsgBldReconfigCmd 1 ⟨6 :: List.replicate 44 0,List.replicate 90 0,1,0,avdtPscTrans,0,0,0,0⟩).2.pscMask = 0 ∧
      ∃ cfg' elem, avdtMsgPrsReconfigCmd (fun _ => true) ⟨0,0,some avdtCfgZero,0⟩
          (avdtMsgBldReconfigCmd 1 ⟨6 :: List.replicate 44 0,List.replicate 90 0,1,0,avdtPscTrans,0,0,0,0⟩).1 =
        some ({(⟨0,0,some avdtCfgZero,0⟩ : CfgMsg) with seid := 1,errParam := elem,pCfg := some cfg'},0) ∧
        cfg'.wire = {((⟨6 :: List.replicate 44 0,List.replicate 90 0,1,0,avdtPscTrans,0,0,0,0⟩ : AvdtCfg)).wire with trans := false,report := false,delayRpt := false} :=
  avdt_reconfig_round_trip ⟨⟨rfl,rfl⟩,fun _ => by decide,fun none => absurd rfl none⟩ (.inl (by decide)) rfl (by decide) rfl
    avdtCfgZero_sized

end Messages

theorem AvdtCfg.wire_maskOut_delayRpt (cfg : AvdtCfg) :
    ({cfg with pscMask := avdtMaskOut cfg.pscMask avdtPscDelayRpt} : AvdtCfg).wire = {cfg.wire with delayRpt := false} := by
  have bits : (0xFFFF ^^^ avdtPscDelayRpt) &&& avdtPscTrans = avdtPscTrans ∧
      (0xFFFF ^^^ avdtPscDelayRpt) &&& avdtPscReport = avdtPscReport ∧
      (0xFFFF ^^^ avdtPscDelayRpt) &&& avdtPscDelayRpt = 0 := by
    decide
  simp only [AvdtCfg.wire,avdtMaskOut,Nat.land_assoc,bits.1,bits.2.1,bits.2.2,Nat.and_zero,bne_self_eq_false]

theorem prsSvccapWith_bld {c : AvdtCfg} (buildable : c.Buildable) {msg : CfgMsg} {cfg0 : AvdtCfg}
    (target : msg.pCfg = some cfg0) (sized : cfg0.Sized) (sigId : Nat) {keep : Nat}
    (kept : c.wire.pscMask &&& keep = c.wire.pscMask) :
    ∃ cfg' elem, prsSvccapWith sigId keep msg (avdtMsgBldCfg c) = some ({msg with pCfg := some cfg',errParam := elem},0) ∧
      cfg'.wire = c.wire := by
  obtain ⟨cfg',elem,parsed,wire,masked⟩ := avdtMsgPrsCfg_bld buildable sized msg.errParam sigId
  -- the mask read names what the wire says and no more, so the cut keeps it
  have same : ({cfg' with pscMask := cfg'.pscMask &&& keep} : AvdtCfg) = cfg' := by
    rw [masked,kept,← masked]
  refine ⟨cfg',elem,?_,wire⟩
  rw [prsSvccapWith,target,parsed,Option.map_some]
  dsimp only
  rw [Option.map_some,same]

-- avdt_msg_bld_svccap drops delay reporting on the way out.
theorem avdt_svccap_round_trip {cfg : AvdtCfg} (buildable : cfg.Buildable) {msg : CfgMsg} {cfg0 : AvdtCfg}
    (target : msg.pCfg = some cfg0) (sized : cfg0.Sized) :
    (∃ cfg' elem, avdtMsgPrsSvccap msg (avdtMsgBldSvccap cfg) = some ({msg with pCfg := some cfg',errParam := elem},0) ∧
        cfg'.wire = {cfg.wire with delayRpt := false}) ∧
      ∃ cfg' elem, avdtMsgPrsAllSvccap msg (avdtMsgBldAllSvccap cfg) =
        some ({msg with pCfg := some cfg',errParam := elem},0) ∧ cfg'.wire = cfg.wire := by
  have dropped := AvdtCfg.wire_maskOut_delayRpt cfg
  constructor
  · -- built without delay reporting, cut to AVDT_LEG_PSC
    obtain ⟨cfg',elem,parsed,wire⟩ := prsSvccapWith_bld (buildable.withMask (avdtMaskOut cfg.pscMask avdtPscDelayRpt))
      target sized avdtSigGetcap (by rw [dropped]; exact cfg.wire.pscMask_kept.2)
    exact ⟨cfg',elem,parsed,wire.trans dropped⟩
  · -- built whole, cut to AVDT_MSG_PSC_MASK
    exact prsSvccapWith_bld buildable target sized avdtSigGetAllcap cfg.wire.pscMask_kept.1

theorem avdt_svccap_round_trip_sample :
    (∃ cfg' elem, avdtMsgPrsSvccap ⟨0,0,some avdtCfgZero,0⟩ (avdtMsgBldSvccap ⟨6 :: List.replicate 44 0,List.replicate 90 0,1,0,avdtPscTrans,0,0,0,0⟩) =
        some ({(⟨0,0,some avdtCfgZero,0⟩ : CfgMsg) with pCfg := some cfg',errParam := elem},0) ∧
        cfg'.wire = {((⟨6 :: List.replicate 44 0,List.replicate 90 0,1,0,avdtPscTrans,0,0,0,0⟩ : AvdtCfg)).wire with delayRpt := false}) ∧
      ∃ cfg' elem, avdtMsgPrsAllSvccap ⟨0,0,some avdtCfgZero,0⟩ (avdtMsgBldAllSvccap ⟨6 :: List.replicate 44 0,List.replicate 90 0,1,0,avdtPscTrans,0,0,0,0⟩) =
        some ({(⟨0,0,some avdtCfgZero,0⟩ : CfgMsg) with pCfg := some cfg',errParam := elem},0) ∧
        cfg'.wire = ((⟨6 :: List.replicate 44 0,List.replicate 90 0,1,0,avdtPscTrans,0,0,0,0⟩ : AvdtCfg)).wire :=
  avdt_svccap_round_trip ⟨⟨rfl,rfl⟩,fun _ => by decide,fun none => absurd rfl none⟩ rfl avdtCfgZero_sized

theorem avdt_prs_cfg_in_bounds (p : List UInt8) (pElem sigId : Nat) {pCfg : Option AvdtCfg}
    (sized : ∀ cfg ∈ pCfg, cfg.Sized) :
    ∃ pCfg' elem err, avdtMsgPrsCfg pCfg p pElem sigId = some (pCfg',elem,err) ∧ ∀ cfg ∈ pCfg', cfg.Sized := by
  match pCfg with
  | none => exact ⟨none,pElem,avdtErrBadState,rfl,fun _ held => nomatch held⟩
  | some cfg =>
    have cleared : ({cfg with pscMask := 0,numCodec := 0,numProtect := 0} : AvdtCfg).Sized :=
      (sized cfg rfl).keep rfl rfl
    obtain ⟨cfg',elem,err,ran,sized'⟩ := @prsCfgLoop_sized sigId p _ 0 0 cleared
    refine ⟨some cfg',elem,err,?_,?_⟩
    · rw [avdtMsgPrsCfg,ran,Option.map_some]
    · rintro _ ⟨⟩
      exact sized'

theorem avdt_prs_cfg_in_bounds_sample :
    ∃ pCfg' elem err, avdtMsgPrsCfg (some avdtCfgZero) [4,200,1,2,7,255,3] 0 avdtSigGetcap = some (pCfg',elem,err) ∧
      ∀ cfg ∈ pCfg', cfg.Sized :=
  avdt_prs_cfg_in_bounds [4,200,1,2,7,255,3] 0 avdtSigGetcap fun _ held => by
    cases held
    exact avdtCfgZero_sized

-- At length 255 the uint8_t len of avdt_msg_bld_cfg wraps to 0 and no codec
-- information is sent.
theorem avdt_long_codec_rebuilt_cut {cfg0 : AvdtCfg} (sized : cfg0.Sized) (pElem sigId : Nat) {l : UInt8}
    (long : avdtCodecSize ≤ l.toNat) {info : List UInt8} (len : info.length = l.toNat) :
    ∃ cfg', avdtMsgPrsCfg (some cfg0) (UInt8.ofNat avdtCatCodec :: l :: info) pElem sigId =
        some (some cfg',avdtCatCodec,0) ∧
      cfg'.codecInfo = l :: info.take (avdtCodecSize - 1) ∧
      avdtMsgBldCfg cfg' = UInt8.ofNat avdtCatCodec :: if l.toNat = 255 then [] else l :: info.take (avdtCodecSize - 1) := by
  have cleared : ({cfg0 with pscMask := 0,numCodec := 0,numProtect := 0} : AvdtCfg).Sized := sized.keep rfl rfl
  have cut := @prsCfgLoop_codec_cut sigId _ cleared 0 0 l info len (by simp only [avdtCodecSize] at long; omega) []
  have most : min l.toNat (avdtCodecSize - 1) = avdtCodecSize - 1 := Nat.min_eq_right (by omega)
  have gone : cfg0.codecInfo.drop (avdtCodecSize - 1 + 1) = [] := List.drop_eq_nil_of_le (by rw [sized.codec]; rfl)
  rw [List.append_nil,most,prsCfgLoop_nil] at cut
  obtain ⟨cfg',ran,codec,noMask,count,noProtect⟩ : ∃ cfg',
      prsCfgLoop sigId {cfg0 with pscMask := 0,numCodec := 0,numProtect := 0} 0 0 (UInt8.ofNat avdtCatCodec :: l :: info) =
        some (cfg',avdtCatCodec,0) ∧ cfg'.codecInfo = l :: info.take (avdtCodecSize - 1) ∧ cfg'.pscMask = 0 ∧
        cfg'.numCodec = 1 ∧ cfg'.numProtect = 0 :=
    ⟨_,cut,by dsimp only; rw [gone,List.append_nil],
      by show avdtMaskOut (0 ||| 1 <<< avdtCatCodec) avdtPscCodec = 0; decide,rfl,rfl⟩
  refine ⟨cfg',by rw [avdtMsgPrsCfg,ran,Option.map_some],codec,?_⟩
  -- only the codec element is built, from codec_info[0] + 1 cut to AVDT_CODEC_SIZE
  have kept : (l :: info.take (avdtCodecSize - 1)).length = avdtCodecSize := by
    simp only [List.length_cons,List.length_take,len]
    simp only [avdtCodecSize] at long ⊢
    omega
  simp only [avdtMsgBldCfg,noMask,count,noProtect,codec,Nat.zero_and,ne_eq,not_true_eq_false,if_false,
    one_ne_zero,not_false_eq_true,if_true,List.headD_cons,List.nil_append,List.append_nil]
  by_cases top : l.toNat = 255
  · rw [if_pos top,top]
    rfl
  · have byte := l.toNat_lt
    rw [if_neg top,Nat.mod_eq_of_lt (show l.toNat + 1 < 256 by omega),Nat.min_eq_right (by simp only [avdtCodecSize] at long ⊢; omega),
      List.take_of_length_le (le_of_eq kept)]

theorem avdt_long_codec_rebuilt_cut_sample :
    ∃ cfg', avdtMsgPrsCfg (some avdtCfgZero) (UInt8.ofNat avdtCatCodec :: 45 :: List.replicate 45 0) 0 avdtSigSetconfig =
        some (some cfg',avdtCatCodec,0) ∧
      cfg'.codecInfo = 45 :: (List.replicate 45 0).take (avdtCodecSize - 1) ∧
      avdtMsgBldCfg cfg' = UInt8.ofNat avdtCatCodec ::
        if (45 : UInt8).toNat = 255 then [] else 45 :: (List.replicate 45 0).take (avdtCodecSize - 1) :=
  avdt_long_codec_rebuilt_cut avdtCfgZero_sized 0 avdtSigSetconfig (by decide) (by decide)

end BluetoothStack.Avdt
