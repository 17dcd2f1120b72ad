import BluetoothStack.Ag.ProcessAt
import BluetoothStack.Lib.Buffer
import BluetoothStack.Lib.Machine

namespace BluetoothStack.Ag

open CString Sys

-- bta_ag_at_parse gathers bytes in p_cmd_buf until CR or LF; the buffer and
-- cmd_pos live in the control block from one call to the next.

structure AtCb where
  atTbl : List AtCmd
  cmdMaxLen : Nat
  -- with fewer than two bytes the outer loop of bta_ag_at_parse never advances
  roomy : 2 ≤ cmdMaxLen
  -- cmd_max_len is a uint16_t, so cmd_pos, which stays below it, never wraps
  short : cmdMaxLen ≤ 65535

-- p_cmd_buf, none while NULL, and cmd_pos.
structure AtState where
  cmdBuf : Option (List Char)
  cmdPos : Nat
  deriving DecidableEq, Repr

def btaAgAtInit : AtState := ⟨none,0⟩

structure CmdBuf where
  buf : List Char
  pos : Nat
  deriving DecidableEq, Repr

-- Buffer.write has no result past the end; the byte read back from
-- p_cmd_buf[cmd_pos] is the one just stored there.
def atByte (atTbl : List AtCmd) (line : CmdBuf) (c : Char) : Option (CmdBuf × List Call) :=
  if line.pos == 0 && c == nul then some (line,[])
  else
    (Buffer.write line.buf line.pos [c]).bind fun buf =>
      if c == '\r' || c == '\n' then
        (Buffer.write buf line.pos [nul]).map fun buf =>
          let first := buf.getD 0 nul
          let second := buf.getD 1 nul
          if line.pos > 2 && (first == 'A' || first == 'a') && (second == 'T' || second == 't') then
            (⟨buf,0⟩,[btaAgProcessAt atTbl ((buf.take line.pos).drop 2)])
          else (⟨buf,0⟩,[])
      else if c == '\x1A' || c == '\x1B' then
        (Buffer.write buf (line.pos + 1) [nul]).map fun buf => (⟨buf,0⟩,[.errCback true (some (cString buf))])
      else some (⟨buf,line.pos + 1⟩,[])

-- The inner while loop: bytes are taken while cmd_pos < cmd_max_len - 1. It
-- returns the bytes it left.
def innerLoop (cb : AtCb) : CmdBuf → List Char → Option (CmdBuf × List Char × List Call)
  | line,[] => some (line,[],[])
  | line,c :: rest =>
    if line.pos < cb.cmdMaxLen - 1 then
      (atByte cb.atTbl line c).bind fun (line,calls) =>
        (innerLoop cb line rest).map fun (line,rest,calls') => (line,rest,calls ++ calls')
    else some (line,c :: rest,[])

theorem innerLoop_rest {cb : AtCb} {line line' : CmdBuf} {input rest : List Char} {calls : List Call}
    (ran : innerLoop cb line input = some (line',rest,calls)) :
    rest.length ≤ input.length ∧ (line.pos < cb.cmdMaxLen - 1 → input ≠ [] → rest.length < input.length) := by
  induction input generalizing line calls with
  | nil =>
    cases ran
    exact ⟨le_rfl,fun _ nonEmpty => absurd rfl nonEmpty⟩
  | cons c input ih =>
    unfold innerLoop at ran
    split at ran
    · obtain ⟨⟨mid,firstCalls⟩,_,rest⟩ := Option.bind_eq_some_iff.mp ran
      obtain ⟨⟨last,left,moreCalls⟩,ranRest,done⟩ := Option.map_eq_some_iff.mp rest
      cases done
      have shorter := (ih ranRest).1
      exact ⟨by simp; omega,fun _ _ => by simp; omega⟩
    · rename_i full
      cases ran
      exact ⟨le_rfl,fun room => absurd room full⟩

-- The outer for loop: when the inner loop stops at a full buffer with bytes
-- left, cmd_pos goes back to 0 and the line so far is dropped.
set_option linter.unusedVariables false in
def outerLoop (cb : AtCb) (line : CmdBuf) (pBuf : List Char) : Option (CmdBuf × List Call) :=
  match pBuf with
  | [] => some (line,[])
  | c :: rest =>
    match inner : innerLoop cb line (c :: rest) with
    | none => none
    | some (line',[],calls) => some (line',calls)
    | some (line',d :: rest',calls) =>
      (outerLoop cb { line' with pos := 0 } (d :: rest')).map fun (line'',calls') => (line'',calls ++ calls')
termination_by 2 * pBuf.length + (if line.pos < cb.cmdMaxLen - 1 then 0 else 1)
decreasing_by
  have bounds := innerLoop_rest inner
  have roomy := cb.roomy
  have restart : (0 : Nat) < cb.cmdMaxLen - 1 := by omega
  simp only [restart,↓reduceIte,List.length_cons] at bounds ⊢
  by_cases room : line.pos < cb.cmdMaxLen - 1
  · have shorter := bounds.2 room (List.cons_ne_nil _ _)
    simp only [room,↓reduceIte]
    omega
  · simp only [room,↓reduceIte]
    omega

-- The buffer a call starts from: the first call allocates cmd_max_len bytes
-- with osi_malloc, and alloc is what that memory holds.
def startBuf (cb : AtCb) (alloc : Fin cb.cmdMaxLen → Char) (s : AtState) : CmdBuf :=
  match s.cmdBuf with
  | none => ⟨List.ofFn alloc,0⟩
  | some buf => ⟨buf,s.cmdPos⟩

def btaAgAtParse (cb : AtCb) (alloc : Fin cb.cmdMaxLen → Char) (s : AtState) (pBuf : List Char) :
    Option (AtState × List Call) :=
  (outerLoop cb (startBuf cb alloc s) pBuf).map fun (line,calls) => (⟨some line.buf,line.pos⟩,calls)

-- What the two loops do with one byte, read off them: a buffer filled to
-- cmd_max_len - 1 is dropped before the byte is taken.
def atFeed (cb : AtCb) (line : CmdBuf) (c : Char) : Option (CmdBuf × List Call) :=
  atByte cb.atTbl (if line.pos < cb.cmdMaxLen - 1 then line else { line with pos := 0 }) c

def atFeedAll (cb : AtCb) (line : CmdBuf) (input : List Char) : Option (CmdBuf × List Call) :=
  (Machine.transduce (atFeed cb) line input).map fun (line,calls) => (line,calls.flatten)

section Refinement

variable {cb : AtCb}

theorem atFeedAll_nil (line : CmdBuf) : atFeedAll cb line [] = some (line,[]) := rfl

theorem atFeedAll_append (line : CmdBuf) (input input' : List Char) :
    atFeedAll cb line (input ++ input') =
      (atFeedAll cb line input).bind fun (mid,calls) =>
        (atFeedAll cb mid input').map fun (last,calls') => (last,calls ++ calls') := by
  unfold atFeedAll
  rw [Machine.transduce_append]
  cases Machine.transduce (atFeed cb) line input with
  | none => rfl
  | some ran =>
    obtain ⟨mid,os⟩ := ran
    simp only [Option.bind_some,Option.map_some,Option.map_map]
    cases Machine.transduce (atFeed cb) mid input' with
    | none => rfl
    | some ran' => simp [List.flatten_append]

theorem atFeedAll_cons (line : CmdBuf) (c : Char) (rest : List Char) :
    atFeedAll cb line (c :: rest) =
      (atFeed cb line c).bind fun (mid,calls) =>
        (atFeedAll cb mid rest).map fun (last,calls') => (last,calls ++ calls') := by
  have single : atFeedAll cb line [c] = (atFeed cb line c).map fun (mid,calls) => (mid,calls) := by
    unfold atFeedAll
    simp only [Machine.transduce]
    cases atFeed cb line c <;> simp
  rw [← List.singleton_append,atFeedAll_append,single]
  cases atFeed cb line c <;> rfl

theorem innerLoop_feed (line : CmdBuf) (input : List Char) :
    (innerLoop cb line input).bind (fun (mid,rest,calls) =>
        (atFeedAll cb mid rest).map fun (last,calls') => (last,calls ++ calls')) =
      atFeedAll cb line input := by
  induction input generalizing line with
  | nil => simp [innerLoop,atFeedAll_nil]
  | cons c rest ih =>
    by_cases room : line.pos < cb.cmdMaxLen - 1
    · have fed : atFeed cb line c = atByte cb.atTbl line c := by simp [atFeed,room]
      rw [innerLoop,if_pos room,atFeedAll_cons,fed]
      cases atByte cb.atTbl line c with
      | none => rfl
      | some step =>
        obtain ⟨mid,calls⟩ := step
        simp only [Option.bind_some]
        rw [← ih mid]
        cases innerLoop cb mid rest with
        | none => rfl
        | some ran =>
          obtain ⟨last,left,more⟩ := ran
          simp only [Option.map_some,Option.bind_some,Option.map_map]
          cases atFeedAll cb last left <;> simp
    · rw [innerLoop,if_neg room]
      simp only [Option.bind_some,List.nil_append]
      cases atFeedAll cb line (c :: rest) <;> rfl

theorem innerLoop_full {line mid : CmdBuf} {input rest : List Char} {d : Char} {calls : List Call}
    (ran : innerLoop cb line input = some (mid,d :: rest,calls)) : ¬mid.pos < cb.cmdMaxLen - 1 := by
  induction input generalizing line calls with
  | nil => cases ran
  | cons c input ih =>
    unfold innerLoop at ran
    split at ran
    · obtain ⟨⟨next,firstCalls⟩,_,after⟩ := Option.bind_eq_some_iff.mp ran
      obtain ⟨⟨last,left,moreCalls⟩,ranRest,done⟩ := Option.map_eq_some_iff.mp after
      cases done
      exact ih ranRest
    · rename_i full
      cases ran
      exact full

theorem restart_room : 0 < cb.cmdMaxLen - 1 := by
  have roomy := cb.roomy
  omega

theorem atFeedAll_restart {line : CmdBuf} (full : ¬line.pos < cb.cmdMaxLen - 1) (c : Char) (rest : List Char) :
    atFeedAll cb line (c :: rest) = atFeedAll cb { line with pos := 0 } (c :: rest) := by
  have same : atFeed cb line c = atFeed cb { line with pos := 0 } c := by
    simp only [atFeed,full,↓reduceIte,restart_room]
  rw [atFeedAll_cons,atFeedAll_cons,same]

theorem outerLoop_eq (line : CmdBuf) (input : List Char) : outerLoop cb line input = atFeedAll cb line input := by
  fun_induction outerLoop cb line input with
  | case1 line => rfl
  | case2 line c rest inner =>
    rw [← innerLoop_feed,inner]
    rfl
  | case3 line c rest mid calls inner =>
    rw [← innerLoop_feed,inner]
    simp [atFeedAll_nil]
  | case4 line c rest mid d rest' calls inner ih =>
    rw [ih,← innerLoop_feed line (c :: rest),inner,Option.bind_some]
    dsimp only
    rw [atFeedAll_restart (innerLoop_full inner)]

end Refinement

section Calls

variable {cb : AtCb} (alloc : Fin cb.cmdMaxLen → Char)

theorem btaAgAtParse_eq (s : AtState) (input : List Char) :
    btaAgAtParse cb alloc s input =
      (atFeedAll cb (startBuf cb alloc s) input).map fun (line,calls) => (⟨some line.buf,line.pos⟩,calls) := by
  rw [btaAgAtParse,outerLoop_eq]

theorem startBuf_resumed (line : CmdBuf) : startBuf cb alloc ⟨some line.buf,line.pos⟩ = line := rfl

theorem btaAgAtParse_append (s : AtState) (input input' : List Char) :
    btaAgAtParse cb alloc s (input ++ input') =
      (btaAgAtParse cb alloc s input).bind fun (mid,calls) =>
        (btaAgAtParse cb alloc mid input').map fun (last,calls') => (last,calls ++ calls') := by
  rw [btaAgAtParse_eq,btaAgAtParse_eq,atFeedAll_append]
  cases atFeedAll cb (startBuf cb alloc s) input with
  | none => rfl
  | some ran =>
    obtain ⟨mid,calls⟩ := ran
    simp only [Option.bind_some,Option.map_some,btaAgAtParse_eq,startBuf_resumed,Option.map_map]
    cases atFeedAll cb mid input' <;> rfl

theorem btaAgAtParse_chunks (s : AtState) (chunks : List (List Char)) :
    (Machine.transduce (btaAgAtParse cb alloc) s chunks).map (fun ran => ran.2.flatten) =
      (btaAgAtParse cb alloc s chunks.flatten).map Prod.snd := by
  induction chunks generalizing s with
  | nil => simp [Machine.transduce,btaAgAtParse_eq,atFeedAll_nil]
  | cons chunk chunks ih =>
    rw [List.flatten_cons,btaAgAtParse_append]
    simp only [Machine.transduce]
    cases btaAgAtParse cb alloc s chunk with
    | none => rfl
    | some ran =>
      obtain ⟨mid,calls⟩ := ran
      have rest := congrArg (Option.map (calls ++ ·)) (ih mid)
      simp only [Option.map_map] at rest
      simpa [Option.map_map,Function.comp_def] using rest

end Calls

section Safety

variable {cb : AtCb}

structure Fits (cb : AtCb) (line : CmdBuf) : Prop where
  length : line.buf.length = cb.cmdMaxLen
  pos : line.pos ≤ cb.cmdMaxLen - 1

def AtState.Valid (cb : AtCb) (s : AtState) : Prop := ∀ buf, s.cmdBuf = some buf → Fits cb ⟨buf,s.cmdPos⟩

theorem btaAgAtInit_valid : btaAgAtInit.Valid cb := fun _ held => by cases held

-- Writes land at cmd_pos, or at cmd_pos + 1 for the NUL after 0x1A or 0x1B,
-- both below cmd_max_len.
theorem atByte_fits {line : CmdBuf} (length : line.buf.length = cb.cmdMaxLen) (room : line.pos < cb.cmdMaxLen - 1)
    (c : Char) : ∃ next calls, atByte cb.atTbl line c = some (next,calls) ∧ Fits cb next := by
  unfold atByte
  by_cases skip : (line.pos == 0 && c == nul) = true
  · exact ⟨line,[],by rw [if_pos skip],⟨length,by omega⟩⟩
  rw [if_neg skip]
  obtain ⟨buf,stored,stayed⟩ := Buffer.exists_write (show line.pos + [c].length ≤ line.buf.length by simp; omega)
  rw [stored,Option.bind_some]
  by_cases newline : (c == '\r' || c == '\n') = true
  · obtain ⟨ended,nulled,kept⟩ := Buffer.exists_write (show line.pos + [nul].length ≤ buf.length by simp; omega)
    rw [if_pos newline,nulled,Option.map_some]
    dsimp only
    split_ifs
    · exact ⟨_,_,rfl,⟨by simp; omega,by simp⟩⟩
    · exact ⟨_,_,rfl,⟨by simp; omega,by simp⟩⟩
  rw [if_neg newline]
  by_cases abort : (c == '\x1A' || c == '\x1B') = true
  · obtain ⟨ended,nulled,kept⟩ := Buffer.exists_write (show line.pos + 1 + [nul].length ≤ buf.length by simp; omega)
    rw [if_pos abort,nulled,Option.map_some]
    exact ⟨_,_,rfl,⟨by simp; omega,by simp⟩⟩
  rw [if_neg abort]
  exact ⟨_,_,rfl,⟨by simp; omega,by simp; omega⟩⟩

theorem atFeed_fits {line : CmdBuf} (fits : Fits cb line) (c : Char) :
    ∃ next calls, atFeed cb line c = some (next,calls) ∧ Fits cb next := by
  unfold atFeed
  split_ifs with room
  · exact atByte_fits fits.length room c
  · exact @atByte_fits cb { line with pos := 0 } fits.length restart_room c

theorem atFeedAll_fits {line : CmdBuf} (fits : Fits cb line) (input : List Char) :
    ∃ next calls, atFeedAll cb line input = some (next,calls) ∧ Fits cb next := by
  obtain ⟨next,os,ran,ends⟩ := Machine.transduce_invariant (fun _ c fits => atFeed_fits fits c) input fits
  exact ⟨next,os.flatten,by rw [atFeedAll,ran]; rfl,ends⟩

theorem startBuf_fits (alloc : Fin cb.cmdMaxLen → Char) {s : AtState} (valid : s.Valid cb) :
    Fits cb (startBuf cb alloc s) := by
  unfold startBuf
  cases held : s.cmdBuf with
  | none => exact ⟨List.length_ofFn,Nat.zero_le _⟩
  | some buf => exact valid buf held

theorem btaAgAtParse_valid (alloc : Fin cb.cmdMaxLen → Char) {s : AtState} (valid : s.Valid cb) (input : List Char) :
    ∃ s' calls, btaAgAtParse cb alloc s input = some (s',calls) ∧ s'.Valid cb := by
  obtain ⟨next,calls,ran,fits⟩ := atFeedAll_fits (startBuf_fits alloc valid) input
  refine ⟨⟨some next.buf,next.pos⟩,calls,by rw [btaAgAtParse_eq,ran]; rfl,?_⟩
  intro buf held
  cases held
  exact fits

end Safety

section Lines

variable {cb : AtCb}

def lineChar (c : Char) : Bool := c != '\r' && c != '\n' && c != '\x1A' && c != '\x1B'

theorem lineChar_iff (c : Char) : lineChar c = true ↔ c ≠ '\r' ∧ c ≠ '\n' ∧ c ≠ '\x1A' ∧ c ≠ '\x1B' := by
  simp only [lineChar,Bool.and_eq_true,bne_iff_ne,and_assoc]

theorem getD_eq_of_take_eq {l l' : List Char} {n i : Nat} (same : l.take n = l'.take n) (within : i < n) :
    l.getD i nul = l'.getD i nul := by
  rw [List.getD_eq_getElem?_getD,List.getD_eq_getElem?_getD,← List.getElem?_take_of_lt within,same,
    List.getElem?_take_of_lt within]

theorem atByte_store {line : CmdBuf} {c : Char} (length : line.buf.length = cb.cmdMaxLen)
    (room : line.pos < cb.cmdMaxLen - 1) (kept : line.pos ≠ 0 ∨ c ≠ nul) (plain : lineChar c = true) :
    ∃ buf, atByte cb.atTbl line c = some (⟨buf,line.pos + 1⟩,[]) ∧ buf.length = cb.cmdMaxLen ∧
      buf.take (line.pos + 1) = line.buf.take line.pos ++ [c] := by
  obtain ⟨cr,lf,sub,esc⟩ := (lineChar_iff c).mp plain
  have notSkip : (line.pos == 0 && c == nul) = false := by
    rcases kept with moved | other
    · simp [moved]
    · simp [other]
  have notNewline : (c == '\r' || c == '\n') = false := by simp [cr,lf]
  have notAbort : (c == '\x1A' || c == '\x1B') = false := by simp [sub,esc]
  have fits : line.pos + [c].length ≤ line.buf.length := by simp; omega
  have taken : (line.buf.take line.pos).length = line.pos := by simp; omega
  refine ⟨line.buf.take line.pos ++ [c] ++ line.buf.drop (line.pos + [c].length),?_,?_,?_⟩
  · rw [atByte,if_neg (by simp [notSkip]),Buffer.write_eq fits,Option.bind_some,if_neg (by simp [notNewline]),
      if_neg (by simp [notAbort])]
  · simp
    omega
  · rw [List.append_assoc,List.take_append,taken,List.take_of_length_le (by omega),Nat.add_sub_cancel_left]
    simp

theorem atFeedAll_stores {line : CmdBuf} {text : List Char} (length : line.buf.length = cb.cmdMaxLen)
    (room : line.pos + text.length ≤ cb.cmdMaxLen - 1) (kept : line.pos ≠ 0 ∨ peek text ≠ nul)
    (plain : ∀ c ∈ text, lineChar c = true) :
    ∃ buf, atFeedAll cb line text = some (⟨buf,line.pos + text.length⟩,[]) ∧ buf.length = cb.cmdMaxLen ∧
      buf.take (line.pos + text.length) = line.buf.take line.pos ++ text := by
  induction text generalizing line with
  | nil => exact ⟨line.buf,rfl,length,by simp⟩
  | cons c rest ih =>
    have longer : line.pos + (c :: rest).length = line.pos + 1 + rest.length := by
      simp only [List.length_cons]
      omega
    rw [longer] at room ⊢
    have within : line.pos < cb.cmdMaxLen - 1 := by omega
    have fed : atFeed cb line c = atByte cb.atTbl line c := by simp [atFeed,within]
    obtain ⟨buf,stored,stayed,front⟩ := atByte_store (c := c) length within kept (plain c (.head _))
    obtain ⟨last,ran,lastLength,lastFront⟩ := @ih ⟨buf,line.pos + 1⟩ stayed room (.inl (by simp))
      (fun c mem => plain c (.tail _ mem))
    refine ⟨last,?_,lastLength,?_⟩
    · rw [atFeedAll_cons,fed,stored,Option.bind_some]
      dsimp only
      rw [ran]
      rfl
    · rw [lastFront,front,List.append_assoc]
      rfl

theorem atFeed_dispatch {buf text : List Char} {t : Char} (length : buf.length = cb.cmdMaxLen)
    (written : buf.take text.length = text) (room : text.length < cb.cmdMaxLen - 1) (terminator : t = '\r' ∨ t = '\n')
    (long : 2 < text.length) (first : text.getD 0 nul = 'A' ∨ text.getD 0 nul = 'a')
    (second : text.getD 1 nul = 'T' ∨ text.getD 1 nul = 't') :
    ∃ buf', atFeed cb ⟨buf,text.length⟩ t = some (⟨buf',0⟩,[btaAgProcessAt cb.atTbl (text.drop 2)]) ∧
      buf'.length = cb.cmdMaxLen := by
  have fed : atFeed cb ⟨buf,text.length⟩ t = atByte cb.atTbl ⟨buf,text.length⟩ t := by simp [atFeed,room]
  have notNul : t ≠ nul := by rcases terminator with rfl | rfl <;> decide
  have notSkip : (text.length == 0 && t == nul) = false := by simp [notNul]
  have newline : (t == '\r' || t == '\n') = true := by rcases terminator with rfl | rfl <;> rfl
  obtain ⟨stored,storing,storedLength⟩ :=
    Buffer.exists_write (show text.length + [t].length ≤ buf.length by simp; omega)
  obtain ⟨ended,ending,endedLength⟩ :=
    Buffer.exists_write (show text.length + [nul].length ≤ stored.length by simp; omega)
  -- the two writes at cmd_pos leave the line before it alone
  have texts : ended.take text.length = text := by
    rw [Buffer.take_write ending,Buffer.take_write storing,written]
  have sameFirst : ended.getD 0 nul = text.getD 0 nul :=
    getD_eq_of_take_eq (texts.trans (List.take_length).symm) (by omega)
  have sameSecond : ended.getD 1 nul = text.getD 1 nul :=
    getD_eq_of_take_eq (texts.trans (List.take_length).symm) (by omega)
  have startsAt : (decide (text.length > 2) && (ended.getD 0 nul == 'A' || ended.getD 0 nul == 'a') &&
      (ended.getD 1 nul == 'T' || ended.getD 1 nul == 't')) = true := by
    rw [sameFirst,sameSecond]
    rcases first with first | first <;> rcases second with second | second <;> rw [first,second] <;> simp [long]
  refine ⟨ended,?_,by omega⟩
  rw [fed,atByte,if_neg (by simp [notSkip]),storing,Option.bind_some,if_pos newline,ending,Option.map_some]
  dsimp only
  rw [if_pos startsAt,texts]

theorem atFeed_newline_pos {line next : CmdBuf} {t : Char} {calls : List Call} (terminator : t = '\r' ∨ t = '\n')
    (fed : atFeed cb line t = some (next,calls)) : next.pos = 0 := by
  have notNul : t ≠ nul := by rcases terminator with rfl | rfl <;> decide
  have newline : (t == '\r' || t == '\n') = true := by rcases terminator with rfl | rfl <;> rfl
  unfold atFeed at fed
  generalize (if line.pos < cb.cmdMaxLen - 1 then line else { line with pos := 0 }) = reset at fed
  unfold atByte at fed
  rw [if_neg (by simp [notNul])] at fed
  obtain ⟨stored,_,rest⟩ := Option.bind_eq_some_iff.mp fed
  rw [if_pos newline] at rest
  obtain ⟨ended,_,done⟩ := Option.map_eq_some_iff.mp rest
  dsimp only at done
  split at done
  · rw [← (Prod.mk.inj done).1]
  · rw [← (Prod.mk.inj done).1]

theorem btaAgAtParse_newline_pos (alloc : Fin cb.cmdMaxLen → Char) {s s' : AtState} {t : Char} {calls : List Call}
    (terminator : t = '\r' ∨ t = '\n') (ran : btaAgAtParse cb alloc s [t] = some (s',calls)) : s'.cmdPos = 0 := by
  rw [btaAgAtParse_eq,atFeedAll_cons] at ran
  obtain ⟨⟨last,lastCalls⟩,fedAll,done⟩ := Option.map_eq_some_iff.mp ran
  obtain ⟨⟨next,nextCalls⟩,fed,rest⟩ := Option.bind_eq_some_iff.mp fedAll
  cases rest
  cases done
  exact atFeed_newline_pos terminator fed

theorem btaAgAtParse_line (alloc : Fin cb.cmdMaxLen → Char) {s : AtState} (valid : s.Valid cb)
    (start : s.cmdBuf = none ∨ s.cmdPos = 0) {line : List Char} {t : Char} (terminator : t = '\r' ∨ t = '\n')
    (plain : ∀ c ∈ line, lineChar c = true) (first : line.getD 0 nul = 'A' ∨ line.getD 0 nul = 'a')
    (second : line.getD 1 nul = 'T' ∨ line.getD 1 nul = 't') (long : 3 ≤ line.length)
    (short : line.length ≤ cb.cmdMaxLen - 2) :
    ∃ s', btaAgAtParse cb alloc s (line ++ [t]) = some (s',[btaAgProcessAt cb.atTbl (line.drop 2)]) ∧
      s'.Valid cb ∧ s'.cmdPos = 0 := by
  have fits := startBuf_fits alloc valid
  have startPos : (startBuf cb alloc s).pos = 0 := by
    unfold startBuf
    rcases start with empty | zero
    · rw [empty]
    · cases s.cmdBuf <;> simp [zero]
  have opens : peek line ≠ nul := by
    cases line with
    | nil => simp at long
    | cons c rest =>
      have head : peek (c :: rest) = (c :: rest).getD 0 nul := rfl
      rw [head]
      rcases first with first | first <;> rw [first] <;> decide
  obtain ⟨buf,ran,bufLength,front⟩ :=
    @atFeedAll_stores cb (startBuf cb alloc s) line fits.length (by rw [startPos]; omega) (.inr opens) plain
  rw [startPos,Nat.zero_add,List.take_zero,List.nil_append] at front
  obtain ⟨ended,fed,endedLength⟩ := @atFeed_dispatch cb buf line t bufLength front (by omega) terminator (by omega) first second
  refine ⟨⟨some ended,0⟩,?_,fun held same => ?_,rfl⟩
  · rw [btaAgAtParse_eq,atFeedAll_append,ran,Option.bind_some,startPos,Nat.zero_add]
    dsimp only
    rw [atFeedAll_cons,fed]
    rfl
  · cases same
    exact ⟨endedLength,Nat.zero_le _⟩

end Lines

section LineStart

theorem btaAgAtParse_lineStart {cb : AtCb} (alloc : Fin cb.cmdMaxLen → Char) {pre : List Char} {s : AtState}
    {calls : List Call} (lineStart : pre = [] ∨ ∃ front t0, (t0 = '\r' ∨ t0 = '\n') ∧ pre = front ++ [t0])
    (ran : btaAgAtParse cb alloc btaAgAtInit pre = some (s,calls)) : s.cmdBuf = none ∨ s.cmdPos = 0 := by
  rcases lineStart with rfl | ⟨front,t0,terminator,rfl⟩
  · rw [btaAgAtParse_eq,atFeedAll_nil] at ran
    cases ran
    exact .inr rfl
  · rw [btaAgAtParse_append] at ran
    obtain ⟨⟨mid,before⟩,_,rest⟩ := Option.bind_eq_some_iff.mp ran
    obtain ⟨⟨last,lastCalls⟩,ranLast,done⟩ := Option.map_eq_some_iff.mp rest
    cases done
    exact .inr (btaAgAtParse_newline_pos alloc terminator ranLast)

theorem bta_ag_at_parse_spec (cb : AtCb) (alloc : Fin cb.cmdMaxLen → Char)
    (upper : (tableEntries cb.atTbl).all (fun entry => (cString entry.cmd).all (fun c => !c.isLower)) = true) :
    (∀ chunks : List (List Char),
      (Machine.transduce (btaAgAtParse cb alloc) btaAgAtInit chunks).map (fun ran => ran.2.flatten) =
          (btaAgAtParse cb alloc btaAgAtInit chunks.flatten).map Prod.snd ∧
        (btaAgAtParse cb alloc btaAgAtInit chunks.flatten).isSome) ∧
    (∀ (pre line post : List Char) (t : Char),
      (pre = [] ∨ ∃ front t0, (t0 = '\r' ∨ t0 = '\n') ∧ pre = front ++ [t0]) → (t = '\r' ∨ t = '\n') →
      (∀ c ∈ line, lineChar c = true) → (line.getD 0 nul = 'A' ∨ line.getD 0 nul = 'a') →
      (line.getD 1 nul = 'T' ∨ line.getD 1 nul = 't') → 3 ≤ line.length → line.length ≤ cb.cmdMaxLen - 2 →
      ∃ before after s', btaAgAtParse cb alloc btaAgAtInit (pre ++ line ++ t :: post) =
          some (s',before ++ btaAgProcessAt cb.atTbl (line.drop 2) :: after) ∧
        (btaAgAtParse cb alloc btaAgAtInit pre).map Prod.snd = some before) ∧
    (∀ text : List Char, btaAgProcessAt cb.atTbl text =
      ((tableEntries cb.atTbl).find? (fun entry => decide (caseInsensitivePrefix (cString entry.cmd) text))).elim
        (.errCback true (some (cString text))) (fun entry => processAtEntry entry text)) ∧
    (∀ (entry : AtCmd) (text arg : List Char), entry.fmt = btaAgAtInt → btaAgAtSet &&& entry.argType ≠ 0 →
      text.drop (cString entry.cmd).length = '=' :: arg → peek arg ≠ nul → ¬(peek arg = '?' ∧ arg.getD 1 nul = nul) →
      processAtEntry entry text =
        match decimalValue arg with
        | some v =>
          if entry.min.toNat ≤ v ∧ (v : Int) ≤ entry.max.toInt then
            .cmdCback (UInt16.ofNat entry.commandId) btaAgAtSet arg v
          else .errCback false none
        | none => .errCback false none) ∧
    (∀ text : List Char, (0 ≤ utlStr2int text ↔ ∃ v, decimalValue text = some v ∧ v ≤ 32767) ∧
      ∀ v, decimalValue text = some v → v ≤ 32767 → utlStr2int text = v) := by
  refine ⟨fun chunks => ⟨btaAgAtParse_chunks alloc btaAgAtInit chunks,?_⟩,?_,fun text => ?_,
    fun _ _ _ integer allowed set nonEmpty notTest => processAtEntry_set_int integer allowed set nonEmpty notTest,
    fun text => ⟨utlStr2int_nonneg_iff text,fun _ numeral small => utlStr2int_of_decimalValue numeral small⟩⟩
  · obtain ⟨_,_,ran,-⟩ := btaAgAtParse_valid alloc btaAgAtInit_valid chunks.flatten
    rw [ran]
    rfl
  · intro pre line post t lineStart terminator plain first second long short
    obtain ⟨s1,before,ranPre,valid1⟩ := btaAgAtParse_valid alloc btaAgAtInit_valid pre
    obtain ⟨s2,ranLine,valid2,-⟩ := btaAgAtParse_line alloc valid1 (btaAgAtParse_lineStart alloc lineStart ranPre)
      terminator plain first second long short
    obtain ⟨s3,after,ranPost,-⟩ := btaAgAtParse_valid alloc valid2 post
    refine ⟨before,after,s3,?_,by rw [ranPre]; rfl⟩
    have regroup : pre ++ line ++ t :: post = pre ++ ((line ++ [t]) ++ post) := by simp
    rw [regroup,btaAgAtParse_append,ranPre,Option.bind_some]
    dsimp only
    rw [btaAgAtParse_append,ranLine,Option.bind_some]
    dsimp only
    rw [ranPost]
    simp
  · have noLower : ∀ entry ∈ tableEntries cb.atTbl, ∀ c ∈ cString entry.cmd, c.isLower = false :=
      fun entry mem c held => by simpa using List.all_eq_true.mp (List.all_eq_true.mp upper entry mem) c held
    rw [btaAgProcessAt,findAtCmd_eq_caseInsensitive noLower]
    generalize List.find? _ (tableEntries cb.atTbl) = found
    cases found <;> rfl

theorem bta_ag_at_parse_spec_sample :
    (Machine.transduce (btaAgAtParse ⟨[⟨['+','V','G','S'],1,btaAgAtSet,btaAgAtInt,0,15⟩],16,by decide,by decide⟩
        (fun _ => nul)) btaAgAtInit [['A','T','+','V'],['G','S','=','7','\r']]).map (fun ran => ran.2.flatten) =
      (btaAgAtParse ⟨[⟨['+','V','G','S'],1,btaAgAtSet,btaAgAtInt,0,15⟩],16,by decide,by decide⟩ (fun _ => nul)
        btaAgAtInit [['A','T','+','V'],['G','S','=','7','\r']].flatten).map Prod.snd :=
  ((bta_ag_at_parse_spec ⟨[⟨['+','V','G','S'],1,btaAgAtSet,btaAgAtInt,0,15⟩],16,by decide,by decide⟩ (fun _ => nul)
    rfl).1 [['A','T','+','V'],['G','S','=','7','\r']]).1

-- The lookup does not ignore case in the table's own commands.
theorem btaAgAtParse_lowercase_command :
    (btaAgAtParse ⟨[⟨['+','a','b','c'],1,btaAgAtNone,btaAgAtStr,0,0⟩],16,by decide,by decide⟩ (fun _ => nul)
        btaAgAtInit ['A','T','+','a','b','c','\r']).map Prod.snd = some [.errCback true (some ['+','a','b','c'])] ∧
      caseInsensitivePrefix ['+','a','b','c'] ['+','a','b','c'] := by
  have plain : ∀ c ∈ ['A','T','+','a','b','c'], lineChar c = true := by
    simp only [List.forall_mem_cons]
    exact ⟨rfl,rfl,rfl,rfl,rfl,rfl,List.forall_mem_nil _⟩
  obtain ⟨_,ran,-,-⟩ := @btaAgAtParse_line ⟨[⟨['+','a','b','c'],1,btaAgAtNone,btaAgAtStr,0,0⟩],16,by decide,by decide⟩
    (fun _ => nul) btaAgAtInit btaAgAtInit_valid (.inl rfl) ['A','T','+','a','b','c'] '\r' (.inl rfl) plain (.inl rfl)
    (.inl rfl) (by decide) (by decide)
  refine ⟨?_,List.prefix_refl _⟩
  rw [show ['A','T','+','a','b','c','\r'] = ['A','T','+','a','b','c'] ++ ['\r'] from rfl,ran]
  rfl

end LineStart

end BluetoothStack.Ag
