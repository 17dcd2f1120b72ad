import BluetoothStack.Lib.Cmac

namespace BluetoothStack.Crypto

open Cmac

-- Octet16, std::array<uint8_t, 16>; the crypto toolbox keeps its least
-- significant byte at [0].
abbrev Octet16 := Block

-- aes_set_key and aes_encrypt of aes.cc: a block cipher, left abstract, on a
-- key and a block given in the order aes.cc reads them.
variable (aesEncrypt : Octet16 → Octet16 → Octet16)

section Toolbox

-- aes_128: key and message reversed into aes.cc's order, and the result back.
def aes128 (key message : Octet16) : Octet16 := (aesEncrypt key.reverse message.reverse).reverse

def Octet16.set (p : Octet16) (i : Nat) (value : UInt8) : Octet16 := ⟨p.bytes.set i value,by simp [p.sized]⟩

def padding (dest : Octet16) (length : Nat) : Octet16 :=
  (List.range' length (16 - length)).foldl (fun p i => p.set (15 - i) (if i = length then 0x80 else 0)) dest

-- leftshift_onebit, input[0] the least significant byte.
def leftshiftOnebit : List UInt8 → UInt8 → List UInt8
  | [],_ => []
  | b :: rest,overflow => ((b <<< 1) ||| overflow) :: leftshiftOnebit rest (if b &&& 0x80 ≠ 0 then 1 else 0)

theorem length_leftshiftOnebit (input : List UInt8) (overflow : UInt8) :
    (leftshiftOnebit input overflow).length = input.length := by
  induction input generalizing overflow with
  | nil => rfl
  | cons b rest ih => simp [leftshiftOnebit,ih]

def constRb : Octet16 := ⟨0x87 :: List.replicate 15 0,rfl⟩

-- One subkey from the one before, as cmac_generate_subkey writes it out for
-- K1 from L and again for K2 from K1.
def nextSubkey (p : Octet16) : Octet16 :=
  let shifted : Octet16 := ⟨leftshiftOnebit p.bytes 0,by rw [length_leftshiftOnebit,p.sized]⟩
  if p.bytes.getD 15 0 &&& 0x80 ≠ 0 then shifted.xor constRb else shifted

-- cmac_cb: the buffer of round blocks, block 0 at the lowest address, and
-- the message length.
structure CmacCb where
  text : List Octet16
  len : Nat
  round : Nat

-- The lowest block holds the end of the message: a whole block is XORed
-- with k1, a part of one padded and XORed with k2.
def cmacPrepareLastBlock (cb : CmacCb) (k1 k2 : Octet16) : Option CmacCb :=
  match cb.text with
  | [] => none
  | first :: rest =>
    let first := if cb.len % 16 = 0 ∧ cb.len ≠ 0 then first.xor k1 else (padding first (cb.len % 16)).xor k2
    some {cb with text := first :: rest}

def cmacGenerateSubkey (cb : CmacCb) (key : Octet16) : Option CmacCb :=
  let k1 := nextSubkey (aes128 aesEncrypt key Block.zero)
  cmacPrepareLastBlock cb k1 (nextSubkey k1)

-- The loop of cmac_aes_k_calculate with its uint8_t counter i; a block outside
-- the buffer is undefined behaviour (none).
def kCalculateLoop (key : Octet16) (round : Nat) : Nat → UInt8 → List Octet16 → Octet16 → Octet16 → Option Octet16
  | 0,_,_,_,_ => none
  | fuel + 1,i,text,x,output =>
    if i.toNat ≤ round then
      match text[round - i.toNat]? with
      | none => none
      | some block =>
        let block := block.xor x
        let output := aes128 aesEncrypt key block
        kCalculateLoop key round fuel (i + 1) (text.set (round - i.toNat) block) output output
    else some output

-- output is not initialised; with round ≥ 1 the loop sets it before it is
-- returned.
def cmacAesKCalculate (cb : CmacCb) (key : Octet16) : Option Octet16 :=
  kCalculateLoop aesEncrypt key cb.round 257 1 cb.text Block.zero Block.zero

-- How aes_cmac fills cmac_cb from the length bytes input points to. stale
-- is what the memory alloca returns held; the message is copied to its top.
def cmacSetup (stale : Nat → UInt8) (input : List UInt8) : CmacCb :=
  let length := input.length
  let n := if (length + 16 - 1) / 16 = 0 then 1 else (length + 16 - 1) / 16
  let len := n * 16
  let diff := len - length
  if length > 0 then ⟨toBlocks n ((List.range diff).map stale ++ input),length,n⟩
  else ⟨toBlocks n ((List.range len).map stale),0,n⟩

def aesCmac (stale : Nat → UInt8) (key : Octet16) (input : List UInt8) : Option Octet16 :=
  (cmacGenerateSubkey aesEncrypt (cmacSetup stale input) key).bind (cmacAesKCalculate aesEncrypt · key)

end Toolbox

section Subkeys

set_option maxRecDepth 4000 in
theorem carry_eq_shiftRight (b : UInt8) : (if b &&& 0x80 ≠ 0 then (1 : UInt8) else 0) = b >>> 7 := by
  rcases b with ⟨⟨n,lt⟩⟩
  revert n
  decide

theorem leftshiftOnebit_eq (input : List UInt8) (below : UInt8) :
    leftshiftOnebit input (below >>> 7) =
      List.zipWith (fun b prev : UInt8 => (b <<< 1) ||| (prev >>> 7)) input (below :: input.dropLast) := by
  induction input generalizing below with
  | nil => rfl
  | cons b rest ih =>
    cases rest with
    | nil => rfl
    | cons next rest =>
      rw [leftshiftOnebit,carry_eq_shiftRight,ih,List.dropLast_cons_cons]
      rfl

theorem leftshiftOnebit_reverse (bytes : List UInt8) :
    leftshiftOnebit bytes.reverse 0 = (shiftLeftOne bytes).reverse := by
  cases bytes with
  | nil => rfl
  | cons b rest =>
    have shifted := leftshiftOnebit_eq (b :: rest).reverse 0
    rw [show (0 : UInt8) >>> 7 = 0 from rfl] at shifted
    rw [shifted,shiftLeftOne,List.reverse_zipWith (by simp),List.reverse_append,List.dropLast_reverse]
    rfl

theorem getD_reverse_bytes (p : Octet16) : p.reverse.bytes.getD 15 0 = p.bytes.headD 0 := by
  have sized := p.sized
  cases bytes : p.bytes with
  | nil => simp [bytes] at sized
  | cons b rest =>
    rw [bytes,List.length_cons] at sized
    have below : rest.reverse.length = 15 := by simp; omega
    simp [Block.reverse,bytes,List.getD_eq_getElem?_getD,List.getElem_append_right,below]

theorem nextSubkey_reverse (p : Block) : nextSubkey p.reverse = p.double.reverse := by
  have shifted : (⟨leftshiftOnebit p.reverse.bytes 0,by rw [length_leftshiftOnebit,p.reverse.sized]⟩ : Octet16) =
      p.shiftLeftOne.reverse := by
    ext1
    exact leftshiftOnebit_reverse p.bytes
  have rb_eq : constRb = rb.reverse := rfl
  unfold nextSubkey Block.double
  simp only [shifted,getD_reverse_bytes,rb_eq]
  by_cases top : p.msb
  · have set : p.bytes.headD 0 &&& 0x80 ≠ 0 := by simpa [Block.msb] using top
    rw [if_pos set,if_pos top,Block.reverse_xor]
  · have clear : ¬p.bytes.headD 0 &&& 0x80 ≠ 0 := by simpa [Block.msb] using top
    rw [if_neg clear,if_neg top]

theorem cmacGenerateSubkey_eq (cb : CmacCb) (key : Octet16) :
    cmacGenerateSubkey aesEncrypt cb key =
      cmacPrepareLastBlock cb (subkeys aesEncrypt key.reverse).1.reverse (subkeys aesEncrypt key.reverse).2.reverse := by
  have l : aes128 aesEncrypt key Block.zero = (aesEncrypt key.reverse Block.zero).reverse := by
    rw [aes128,Block.reverse_zero]
  rw [cmacGenerateSubkey,l,nextSubkey_reverse,nextSubkey_reverse]
  rfl

end Subkeys

section LastBlock

theorem drop_set_bytes (p : Octet16) {k : Nat} (inside : k < 16) (value : UInt8) :
    (p.set k value).bytes.drop k = value :: p.bytes.drop (k + 1) := by
  have within : k < (p.bytes.set k value).length := by simp [p.sized,inside]
  rw [Octet16.set,List.drop_eq_getElem_cons within,List.getElem_set_self,List.drop_set_of_lt (Nat.lt_succ_self k)]

theorem padding_zeros (p : Octet16) {length a k : Nat} (above : length < a) (top : a + k = 16) :
    ((List.range' a k).foldl (fun p i => p.set (15 - i) (if i = length then 0x80 else 0)) p).bytes =
      List.replicate k 0 ++ p.bytes.drop k := by
  induction k generalizing a p with
  | zero => simp
  | succ k ih =>
    have position : 15 - a = k := by omega
    rw [List.range'_succ,List.foldl_cons,ih _ (by omega) (by omega),position,if_neg (by omega),
      drop_set_bytes p (by omega),List.replicate_succ',List.append_assoc]
    rfl

theorem padding_eq (dest : Octet16) {length : Nat} (short : length < 16) :
    (padding dest length).bytes = List.replicate (15 - length) 0 ++ 0x80 :: dest.bytes.drop (16 - length) := by
  have count : 16 - length = (15 - length) + 1 := by omega
  rw [padding,count,List.range'_succ,List.foldl_cons,padding_zeros _ (Nat.lt_succ_self length) (by omega),
    if_pos rfl,show 15 - length = 15 - length from rfl,drop_set_bytes dest (by omega)]

theorem prepared_whole (k1 : Block) {raw : Block} {last below : List UInt8} (split : raw.bytes = last ++ below.reverse)
    (whole : last.length = 16) (k2 : Block) : raw.reverse.xor k1.reverse = (lastBlock k1 k2 last).reverse := by
  have empty : below = [] := by
    have := raw.sized
    rw [split,List.length_append,whole] at this
    simpa using this
  have same : raw = ⟨last.take 16,by simp; omega⟩ := by
    ext1
    show raw.bytes = last.take 16
    rw [split,empty,List.reverse_nil,List.append_nil,List.take_of_length_le (by omega)]
  rw [lastBlock,dif_neg (by omega),Block.reverse_xor,← same]

theorem prepared_part (k2 : Block) {raw : Block} {last below : List UInt8} (split : raw.bytes = last ++ below.reverse)
    (short : last.length < 16) (k1 : Block) :
    (padding raw.reverse last.length).xor k2.reverse = (lastBlock k1 k2 last).reverse := by
  have under : below.length = 16 - last.length := by
    have := raw.sized
    rw [split,List.length_append,List.length_reverse] at this
    omega
  have padded_eq : padding raw.reverse last.length = (padded last short).reverse := by
    ext1
    rw [padding_eq _ short]
    simp [Block.reverse,padded,split,← under]
  rw [lastBlock,dif_pos short,Block.reverse_xor,padded_eq]

end LastBlock

section Setup

theorem blockCount_bounds (message : List UInt8) :
    1 ≤ blockCount message ∧ 16 * (blockCount message - 1) ≤ message.length ∧
      message.length ≤ 16 * blockCount message := by
  unfold blockCount
  omega

theorem cmacSetup_eq (stale : Nat → UInt8) (input : List UInt8) :
    cmacSetup stale input =
      ⟨toBlocks (blockCount input.reverse)
        ((List.range (blockCount input.reverse * 16 - input.length)).map stale ++ input),input.length,
        blockCount input.reverse⟩ := by
  have count : (if (input.length + 16 - 1) / 16 = 0 then 1 else (input.length + 16 - 1) / 16) =
      blockCount input.reverse := by
    unfold blockCount
    split <;> simp <;> omega
  unfold cmacSetup
  dsimp only
  rw [count]
  split
  · rfl
  · -- an empty message: no copy, and cmac_cb.len is 0 either way
    rename_i empty
    have none : input = [] := List.eq_nil_of_length_eq_zero (by omega)
    subst none
    rfl

theorem cmacPrepareLastBlock_setup (stale : Nat → UInt8) (input : List UInt8) (k1 k2 : Block) :
    cmacPrepareLastBlock (cmacSetup stale input) k1.reverse k2.reverse =
      some ⟨((toBlocks (blockCount input.reverse - 1) input.reverse ++
          [lastBlock k1 k2 (input.reverse.drop (16 * (blockCount input.reverse - 1)))]).map Block.reverse).reverse,
        input.length,blockCount input.reverse⟩ := by
  obtain ⟨least,low,high⟩ := blockCount_bounds input.reverse
  rw [List.length_reverse] at low high
  have count : blockCount input.reverse = max 1 ((input.length + 15) / 16) := by
    rw [blockCount,List.length_reverse]
  set n := blockCount input.reverse
  set below := (List.range (n * 16 - input.length)).map stale
  have sized : (below ++ input).length = 16 * n := by simp [below]; omega
  -- the buffer read backwards is the message and then the stale bytes
  have backwards : (below ++ input).reverse = input.reverse ++ below.reverse := List.reverse_append
  have raw : (((input.reverse ++ below.reverse).drop (16 * (n - 1))).take 16) =
      input.reverse.drop (16 * (n - 1)) ++ below.reverse := by
    rw [List.drop_append_of_le_length (by simp; omega),List.take_of_length_le (by simp [below]; omega)]
  have blocks : toBlocks n (below ++ input) =
      (toBlocks (n - 1) input.reverse ++ [(⟨input.reverse.drop (16 * (n - 1)) ++ below.reverse,
        by simp [below]; omega⟩ : Block)]).reverse.map Block.reverse := by
    have flipped := @toBlocks_reverse n (below ++ input).reverse (by simp [below]; omega)
    rw [List.reverse_reverse] at flipped
    have last := @toBlocks_succ (n - 1) (input.reverse ++ below.reverse) (by simp [below]; omega)
    simp only [Nat.sub_add_cancel least] at last
    rw [flipped,backwards,last,toBlocks_append_of_le _ (by simp; omega)]
    congr 4
    ext1
    exact raw
  rw [cmacSetup_eq,blocks,List.reverse_append,List.reverse_singleton,List.map_append,List.map_singleton,
    List.singleton_append]
  simp only [cmacPrepareLastBlock,List.map_append,List.map_singleton,List.reverse_append,List.reverse_singleton,
    List.singleton_append,List.map_reverse,Option.some.injEq,CmacCb.mk.injEq]
  refine ⟨?_,trivial,rfl⟩
  congr 1
  have split : (⟨input.reverse.drop (16 * (n - 1)) ++ below.reverse,by simp [below]; omega⟩ : Block).bytes =
      input.reverse.drop (16 * (n - 1)) ++ below.reverse := rfl
  split
  · rename_i whole
    exact prepared_whole k1 split (by simp; omega) k2
  · rename_i part
    have length_last : (input.reverse.drop (16 * (n - 1))).length = input.length % 16 := by simp; omega
    rw [← length_last]
    exact prepared_part k2 split (by omega) k1

end Setup

section Loop

variable (key : Octet16) (round : Nat)

theorem kCalculateLoop_step {fuel : Nat} {i : UInt8} {text : List Octet16} {block : Octet16} (x output : Octet16)
    (going : i.toNat ≤ round) (read : text[round - i.toNat]? = some block) :
    kCalculateLoop aesEncrypt key round (fuel + 1) i text x output =
      kCalculateLoop aesEncrypt key round fuel (i + 1) (text.set (round - i.toNat) (block.xor x))
        (aes128 aesEncrypt key (block.xor x)) (aes128 aesEncrypt key (block.xor x)) := by
  rw [kCalculateLoop,if_pos going,read]

-- The rounds before the counter wraps, by induction on the blocks desc still to
-- chain.
theorem kCalculateLoop_rounds {fuel : Nat} (desc : List Octet16) :
    ∀ (low high : List Octet16) (i : UInt8) (x : Octet16),
      low.length + desc.length + high.length = round →
      desc = [] ∨ (0 < i.toNat ∧ low.length + desc.length + i.toNat = round + 1) → i.toNat + desc.length ≤ 256 →
      ∃ done : List Octet16, done.length = desc.length ∧
        kCalculateLoop aesEncrypt key round (fuel + desc.length) i (low ++ desc.reverse ++ high) x x =
          kCalculateLoop aesEncrypt key round fuel (i + UInt8.ofNat desc.length) (low ++ done ++ high)
            (desc.foldl (fun x block => aes128 aesEncrypt key (block.xor x)) x)
            (desc.foldl (fun x block => aes128 aesEncrypt key (block.xor x)) x) := by
  induction desc with
  | nil =>
    intro low high i x _ _ _
    exact ⟨[],rfl,by simp⟩
  | cons block desc ih =>
    intro low high i x sizes shape room
    obtain ⟨positive,index⟩ := shape.resolve_left (List.cons_ne_nil _ _)
    simp only [List.length_cons] at sizes index room
    have position : round - i.toNat = (low ++ desc.reverse).length := by simp; omega
    have text : low ++ (block :: desc).reverse ++ high = (low ++ desc.reverse) ++ block :: high := by simp
    have read : ((low ++ desc.reverse) ++ block :: high)[round - i.toNat]? = some block := by
      rw [position,List.getElem?_append_right (Nat.le_refl _),Nat.sub_self,List.getElem?_cons_zero]
    have written : ((low ++ desc.reverse) ++ block :: high).set (round - i.toNat) (block.xor x) =
        low ++ desc.reverse ++ block.xor x :: high := by
      rw [position,List.set_append_right _ _ (Nat.le_refl _),Nat.sub_self,List.set_cons_zero]
    -- the counter goes up by one, or wraps when this was the last round before it does
    have next : desc = [] ∨ (0 < (i + 1).toNat ∧ low.length + desc.length + (i + 1).toNat = round + 1) := by
      by_cases empty : desc = []
      · exact .inl empty
      · have more := List.length_pos_of_ne_nil empty
        have counter : (i + 1).toNat = i.toNat + 1 := by rw [UInt8.toNat_add]; simp; omega
        exact .inr ⟨by omega,by omega⟩
    have below : (i + 1).toNat ≤ i.toNat + 1 := by rw [UInt8.toNat_add]; simp; omega
    obtain ⟨done,length_done,run⟩ := ih low (block.xor x :: high) (i + 1) (aes128 aesEncrypt key (block.xor x))
      (by simp; omega) next (by omega)
    refine ⟨done ++ [block.xor x],by simp [length_done],?_⟩
    rw [text,List.length_cons,← Nat.add_assoc,kCalculateLoop_step aesEncrypt key round x x (by omega) read,written,
      run,List.foldl_cons,UInt8.ofNat_add,UInt8.add_assoc,UInt8.add_comm 1]
    simp

-- XOR commutes with reversing, and aes_128 reverses around E.
theorem foldl_aes128 (blocks : List Block) (x : Block) :
    (blocks.map Block.reverse).foldl (fun x block => aes128 aesEncrypt key (block.xor x)) x.reverse =
      (blocks.foldl (fun x block => aesEncrypt key.reverse (x.xor block)) x).reverse := by
  induction blocks generalizing x with
  | nil => rfl
  | cons block blocks ih =>
    have chained : aes128 aesEncrypt key (block.reverse.xor x.reverse) = (aesEncrypt key.reverse (x.xor block)).reverse := by
      rw [aes128,← Block.reverse_xor,Block.reverse_reverse,Block.xor_comm]
    rw [List.map_cons,List.foldl_cons,chained,ih,List.foldl_cons]

end Loop

section Cmac

theorem length_cmacBlocks (key : Block) (message : List UInt8) :
    (cmacBlocks aesEncrypt key message).length = blockCount message := by
  obtain ⟨least,low,_⟩ := blockCount_bounds message
  simp only [cmacBlocks,List.length_append,List.length_singleton,length_toBlocks low]
  omega

theorem cmacGenerateSubkey_setup (stale : Nat → UInt8) (key : Octet16) (input : List UInt8) :
    cmacGenerateSubkey aesEncrypt (cmacSetup stale input) key =
      some ⟨((cmacBlocks aesEncrypt key.reverse input.reverse).map Block.reverse).reverse,input.length,
        blockCount input.reverse⟩ := by
  rw [cmacGenerateSubkey_eq,cmacPrepareLastBlock_setup]
  rfl

theorem aesCmac_eq_cmac (stale : Nat → UInt8) (key : Octet16) {input : List UInt8} (short : input.length ≤ 4064) :
    aesCmac aesEncrypt stale key input = some (cmac aesEncrypt key.reverse input.reverse).reverse := by
  rw [aesCmac,cmacGenerateSubkey_setup,Option.bind_some,cmacAesKCalculate]
  dsimp only
  set blocks := cmacBlocks aesEncrypt key.reverse input.reverse
  have count : blocks.length = blockCount input.reverse := length_cmacBlocks aesEncrypt _ _
  have rounds : blockCount input.reverse ≤ 254 := by
    simp only [blockCount,List.length_reverse]
    omega
  have least := (blockCount_bounds input.reverse).1
  obtain ⟨done,length_done,run⟩ := @kCalculateLoop_rounds aesEncrypt key (blockCount input.reverse)
    (257 - blockCount input.reverse) (blocks.map Block.reverse) [] [] 1 Block.zero (by simp [count])
    (.inr ⟨by decide,by simp [count]⟩) (by simp [count]; omega)
  simp only [List.nil_append,List.append_nil,List.length_map,count,Nat.sub_add_cancel (by omega : blockCount input.reverse ≤ 257)] at run
  rw [run]
  -- past the last block the counter is above round and the loop ends
  have beyond : (1 + UInt8.ofNat (blockCount input.reverse)).toNat = blockCount input.reverse + 1 := by
    rw [UInt8.toNat_add]
    simp
    omega
  rw [show 257 - blockCount input.reverse = (256 - blockCount input.reverse) + 1 by omega,kCalculateLoop,
    if_neg (by omega),← Block.reverse_zero,foldl_aes128]
  rfl

-- From 255 blocks on, the uint8_t counter wraps from 255 to 0 before the
-- loop ends, and the round it then runs reads the block one past the buffer.
theorem aesCmac_counter_wraps (stale : Nat → UInt8) (key : Octet16) {input : List UInt8} (long : 4065 ≤ input.length) :
    aesCmac aesEncrypt stale key input = none := by
  rw [aesCmac,cmacGenerateSubkey_setup,Option.bind_some,cmacAesKCalculate]
  dsimp only
  set blocks := cmacBlocks aesEncrypt key.reverse input.reverse
  have count : blocks.length = blockCount input.reverse := length_cmacBlocks aesEncrypt _ _
  have rounds : 255 ≤ blockCount input.reverse := by
    simp only [blockCount,List.length_reverse]
    omega
  have split : ((blocks.map Block.reverse).reverse) =
      ((blocks.map Block.reverse).drop 255).reverse ++ ((blocks.map Block.reverse).take 255).reverse ++ [] := by
    rw [List.append_nil,← List.reverse_append,List.take_append_drop]
  obtain ⟨done,length_done,run⟩ := @kCalculateLoop_rounds aesEncrypt key (blockCount input.reverse) 2
    ((blocks.map Block.reverse).take 255) ((blocks.map Block.reverse).drop 255).reverse [] 1 Block.zero
    (by simp [count]; omega) (.inr ⟨by decide,by simp [count]; omega⟩) (by simp [count]; omega)
  have length_take : ((blocks.map Block.reverse).take 255).length = 255 := by simp [count]; omega
  rw [length_take] at run
  rw [split,run]
  -- the counter is now 0, so the loop reads block round, past the buffer
  have wrapped : (1 : UInt8) + UInt8.ofNat 255 = 0 := rfl
  have outside : (((blocks.map Block.reverse).drop 255).reverse ++ done ++ [])[blockCount input.reverse - 0]? = none := by
    apply List.getElem?_eq_none
    simp [length_done,count]
    omega
  rw [wrapped,kCalculateLoop,if_pos (by simp),UInt8.toNat_zero,outside]

theorem aesCmac_counter_wraps_at_4065 :
    4065 ≤ (List.replicate 4065 (0 : UInt8)).length ∧
      aesCmac (fun _ block => block) (fun _ => 0) Block.zero (List.replicate 4065 0) = none :=
  ⟨Nat.le_of_eq List.length_replicate.symm,
    aesCmac_counter_wraps (fun _ block => block) (fun _ => 0) Block.zero (Nat.le_of_eq List.length_replicate.symm)⟩

end Cmac

end BluetoothStack.Crypto
