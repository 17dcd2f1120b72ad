import BluetoothStack.Hfp.AtParser
import Mathlib

namespace BluetoothStack.Hfp

open CString

section Table

-- The events the callbacks before process_unknown check with
-- AT_CHECK_EVENT, in the order of bta_hf_client_parser_cb.
def parserCbEvents : List String :=
  ["OK","ERROR","RING","+BRSF:","+CIND:","+CIEV:","+CHLD:","+BCS:","+BSIR:","+CME ERROR:","+VGM:","+VGM=","+VGS:",
    "+VGS=","+BVRA:","+CLIP:","+CCWA:","+COPS:","+BINP:","+CLCC:","+CNUM:","+BTRH:","BUSY","DELAYED","NO CARRIER",
    "NO ANSWER","BLACKLISTED"]

theorem parseResultCode_opens (event : String) (call : Call) :
    ∃ body, parseResultCode event call = atCheckEvent event body :=
  ⟨_,rfl⟩

theorem parserCb_opens :
    List.Forall₂ (fun event parser => ∃ body, parser = atCheckEvent event body) parserCbEvents parserCb.dropLast := by
  simp only [parserCbEvents,parserCb,List.dropLast_cons_cons,List.dropLast_singleton,List.forall₂_cons,
    List.Forall₂.nil,and_true]
  and_intros
  all_goals first
    | exact parseResultCode_opens _ _
    | exact ⟨_,rfl⟩

theorem atCheckEvent_miss {event : String} {text : List Char} (body : List Char → Parsed) (rest : List Char)
    (differ : (List.zipWith (· != ·) (crLf ++ event.toList) text).any id = true) :
    atCheckEvent event body (text ++ rest) = done (text ++ rest) := by
  dsimp only [atCheckEvent]
  rw [isPrefixOf_append_eq_false rest differ]
  rfl

theorem dispatch_cons_of_moves {buf tmp : List Char} {parser : List Char → Parsed} {calls : List Call}
    (parsers : List (List Char → Parsed)) (moves : parser buf = ⟨calls,some tmp⟩) (shorter : tmp.length ≠ buf.length) :
    dispatch buf (parser :: parsers) = ⟨calls,some tmp⟩ := by
  simp only [dispatch,moves,ne_eq,shorter,not_false_eq_true,if_true]

theorem dispatch_misses {events : List String} {parsers : List (List Char → Parsed)} {text : List Char}
    (rest : List Char) (more : List (List Char → Parsed))
    (opens : List.Forall₂ (fun event parser => ∃ body, parser = atCheckEvent event body) events parsers)
    (differ : (events.all fun event => (List.zipWith (· != ·) (crLf ++ event.toList) text).any id) = true) :
    dispatch (text ++ rest) (parsers ++ more) = dispatch (text ++ rest) more := by
  induction opens with
  | nil => rfl
  | @cons event parser events parsers opensHead _ ih =>
    obtain ⟨body,rfl⟩ := opensHead
    simp only [List.all_cons,Bool.and_eq_true] at differ
    simp only [List.cons_append,dispatch,atCheckEvent_miss body rest differ.1,done,ne_eq,not_true_eq_false,
      if_false,after_nil]
    exact ih differ.2

end Table

section ResultCodes

inductive ResultCode where
  | ok | error | ring | busy | delayed | noCarrier | noAnswer | blacklisted
deriving DecidableEq, Repr

def ResultCode.event : ResultCode → String
  | .ok => "OK" | .error => "ERROR" | .ring => "RING" | .busy => "BUSY" | .delayed => "DELAYED"
  | .noCarrier => "NO CARRIER" | .noAnswer => "NO ANSWER" | .blacklisted => "BLACKLISTED"

def ResultCode.call : ResultCode → Call
  | .ok => .handleOk | .error => .handleError .error 0 | .ring => .handleRing | .busy => .handleError .busy 0
  | .delayed => .handleError .delay 0 | .noCarrier => .handleError .noCarrier 0
  | .noAnswer => .handleError .noAnswer 0 | .blacklisted => .handleError .blacklisted 0

def ResultCode.index : ResultCode → Nat
  | .ok => 0 | .error => 1 | .ring => 2 | .busy => 22 | .delayed => 23 | .noCarrier => 24 | .noAnswer => 25
  | .blacklisted => 26

def ResultCode.frame (code : ResultCode) : List Char := crLf ++ code.event.toList ++ crLf

theorem length_frame (code : ResultCode) : 4 ≤ code.frame.length := by
  simp only [ResultCode.frame,crLf,List.length_append,List.length_cons,List.length_nil]
  omega

theorem parseResultCode_frame (event : String) (call : Call) (rest : List Char) :
    parseResultCode event call (crLf ++ event.toList ++ crLf ++ rest) = ⟨[call],some rest⟩ := by
  have matched : (crLf ++ event.toList).isPrefixOf (crLf ++ event.toList ++ crLf ++ rest) = true := by
    rw [List.isPrefixOf_iff_prefix,List.append_assoc]
    exact List.prefix_append _ _
  have after : (crLf ++ event.toList ++ crLf ++ rest).drop (crLf ++ event.toList).length = crLf ++ rest := by
    rw [List.append_assoc,List.drop_left]
  simp only [parseResultCode,atCheckEvent,matched,if_true,after]
  rfl

theorem dispatch_frame (code : ResultCode) (rest : List Char) :
    dispatch (code.frame ++ rest) parserCb = ⟨[code.call],some rest⟩ := by
  have split : parserCb =
      (parserCb.dropLast.take code.index ++ parserCb.dropLast.drop code.index) ++ [processUnknown] := by
    rw [List.take_append_drop]
    rfl
  have shorter : rest.length ≠ (code.frame ++ rest).length := by
    have := length_frame code
    rw [List.length_append]
    omega
  rw [split,List.append_assoc,
    dispatch_misses rest _ (List.forall₂_take code.index parserCb_opens) (by cases code <;> decide)]
  cases code <;> exact dispatch_cons_of_moves _ (parseResultCode_frame _ _ rest) shorter

theorem parseStart_frames {fuel : Nat} (codes : List ResultCode) (enough : (codes.flatMap ResultCode.frame).length < fuel) :
    parseStart fuel (codes.flatMap ResultCode.frame) = some (codes.map ResultCode.call) := by
  induction codes generalizing fuel with
  | nil =>
    obtain ⟨fuel,rfl⟩ : ∃ f,fuel = f + 1 := ⟨fuel - 1,by simp at enough; omega⟩
    rfl
  | cons code codes ih =>
    obtain ⟨fuel,rfl⟩ : ∃ f,fuel = f + 1 := ⟨fuel - 1,by omega⟩
    have start : peek (code.frame ++ codes.flatMap ResultCode.frame) ≠ nul := by
      simp [peek,ResultCode.frame,crLf,nul]
    have rest : (codes.flatMap ResultCode.frame).length < fuel := by
      have := length_frame code
      simp only [List.flatMap_cons,List.length_append] at enough
      omega
    rw [List.flatMap_cons,parseStart,if_neg start,dispatch_frame]
    simp only [ih rest,Option.map_some,List.map_cons]
    rfl

end ResultCodes

section Chunks

theorem checkAtComplete_crLf {text : List Char} (long : 1 ≤ text.length) :
    checkAtComplete (text ++ crLf) (text ++ crLf).length = true := by
  have length : (text ++ crLf).length = text.length + 2 := by simp [crLf]
  have cr : (text ++ crLf).getD text.length nul = '\r' := by simp [crLf]
  have lf : (text ++ crLf).getD (text.length + 1) nul = '\n' := by simp [crLf]
  rw [checkAtComplete,length,show text.length + 2 - 2 = text.length by omega,
    show text.length + 2 - 1 = text.length + 1 by omega,cr,lf]
  simp only [atEventMinLen,beq_self_eq_true,Bool.and_true]
  exact decide_eq_true (by omega)

theorem flatMap_frame_eq {codes : List ResultCode} (some : codes ≠ []) :
    ∃ text,codes.flatMap ResultCode.frame = text ++ crLf ∧ 2 ≤ text.length := by
  rw [← List.dropLast_append_getLast some,List.flatMap_append,List.flatMap_singleton]
  refine ⟨codes.dropLast.flatMap ResultCode.frame ++ crLf ++ (codes.getLast some).event.toList,?_,?_⟩
  · simp only [ResultCode.frame,List.append_assoc]
  · simp only [List.length_append,crLf,List.length_cons,List.length_nil]
    omega

theorem atParse_frames (codes : List ResultCode) (fits : (codes.flatMap ResultCode.frame).length ≤ atParserMaxLen) :
    atParse AtCb.cleared (codes.flatMap ResultCode.frame) = some (AtCb.cleared,codes.map ResultCode.call) := by
  have within : ¬ atParserMaxLen < (codes.flatMap ResultCode.frame).length + AtCb.cleared.offset := by
    simp only [AtCb.cleared,AtCb.offset,List.length_nil,Nat.add_zero]
    omega
  unfold atParse
  rw [dif_neg within]
  by_cases empty : codes = []
  · subst codes
    rfl
  · obtain ⟨text,whole,long⟩ := flatMap_frame_eq empty
    have complete : checkAtComplete (AtCb.cleared.buf ++ codes.flatMap ResultCode.frame)
        (AtCb.cleared.buf ++ codes.flatMap ResultCode.frame).length := by
      rw [show AtCb.cleared.buf ++ codes.flatMap ResultCode.frame = text ++ crLf from whole]
      exact checkAtComplete_crLf (by omega)
    dsimp only
    rw [if_pos complete]
    simp only [AtCb.cleared,List.nil_append,parseStart_frames codes (Nat.lt_succ_self _),Option.map_some]

theorem atParseChunks_frames (groups : List (List ResultCode))
    (fits : (groups.flatten.flatMap ResultCode.frame).length ≤ atParserMaxLen) :
    atParseChunks AtCb.cleared (groups.map (·.flatMap ResultCode.frame)) =
      some (AtCb.cleared,groups.flatten.map ResultCode.call) := by
  induction groups with
  | nil => rfl
  | cons group groups ih =>
    simp only [List.flatten_cons,List.flatMap_append,List.length_append] at fits
    simp only [List.map_cons,atParseChunks,atParse_frames group (by omega),Option.bind_some,ih (by omega),
      Option.map_some,List.flatten_cons,List.map_append]

theorem atParseChunks_split_at_events (groups : List (List ResultCode))
    (fits : (groups.flatten.flatMap ResultCode.frame).length ≤ atParserMaxLen) :
    (∀ cb chunks, (atParseChunks cb chunks).isSome) ∧
      atParseChunks AtCb.cleared (groups.map (·.flatMap ResultCode.frame)) =
        atParseChunks AtCb.cleared [groups.flatten.flatMap ResultCode.frame] := by
  refine ⟨atParseChunks_isSome,?_⟩
  rw [atParseChunks_frames groups fits,atParseChunks,atParse_frames _ fits]
  simp [atParseChunks]

theorem atParseChunks_split_at_events_sample :
    ([[ResultCode.ok],[ResultCode.ring]].flatten.flatMap ResultCode.frame).length ≤ atParserMaxLen ∧
      (∀ cb chunks, (atParseChunks cb chunks).isSome) ∧
      atParseChunks AtCb.cleared ([[ResultCode.ok],[ResultCode.ring]].map (·.flatMap ResultCode.frame)) =
        atParseChunks AtCb.cleared [[[ResultCode.ok],[ResultCode.ring]].flatten.flatMap ResultCode.frame] :=
  have fits : ([[ResultCode.ok],[ResultCode.ring]].flatten.flatMap ResultCode.frame).length ≤ atParserMaxLen := by
    decide
  ⟨fits,atParseChunks_split_at_events _ fits⟩

end Chunks

section Splits

-- Cut right after the CR LF that opens the second event, the first chunk passes
-- for complete; the bare CR LF left after OK closes the link.
theorem atParse_split_after_leading_crLf :
    (atParseChunks AtCb.cleared [ResultCode.ok.frame ++ ResultCode.ring.frame]).map Prod.snd =
        some [.handleOk,.handleRing] ∧
      (atParseChunks AtCb.cleared [(ResultCode.ok.frame ++ ResultCode.ring.frame).take 8,
          (ResultCode.ok.frame ++ ResultCode.ring.frame).drop 8]).map Prod.snd =
        some [.handleOk,.apiCloseEvt] :=
  ⟨by decide,by decide⟩

end Splits

end BluetoothStack.Hfp
