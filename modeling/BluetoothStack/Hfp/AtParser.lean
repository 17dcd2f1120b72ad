import BluetoothStack.Lib.CString

namespace BluetoothStack.Hfp

open CString

def atParserMaxLen : Nat := 4096

def atEventMinLen : Nat := 3

def unkownEventLen : Nat := 32

def atIndicatorCount : Nat := 20

inductive AtResult where
  | error | busy | delay | noCarrier | noAnswer | blacklisted
deriving DecidableEq, Repr

inductive Chld where
  | rel | relX | relAcc | privX | holdAcc | merge | mergeDetach
deriving DecidableEq, Repr

-- The handlers the parsers call, with what they pass, and the
-- BTA_HF_CLIENT_API_CLOSE_EVT the parse loop sends when it gives up.
inductive Call where
  | handleOk
  | handleError (result : AtResult) (cme : Nat)
  | handleRing
  | handleBrsf (value : Nat)
  | handleCindListItem (name : List Char) (min max index : Nat)
  | handleCindValue (index value : Nat)
  | handleCiev (index value : Nat)
  | handleChld (mode : Chld)
  | handleBcs (value : Nat)
  | handleBsir (value : Nat)
  | handleCmeerror (value : Nat)
  | handleVgm (value : Nat)
  | handleVgs (value : Nat)
  | handleBvra (value : Nat)
  | handleClip (number : List Char) (type : Nat)
  | handleCcwa (number : List Char) (type : Nat)
  | handleCops (opstr : List Char) (mode : Nat)
  | handleBinp (number : List Char)
  | handleClcc (idx dir status mode mpty : Nat) (number : Option (List Char)) (type : Nat)
  | handleCnum (number : List Char) (type service : Nat)
  | handleBtrh (code : Nat)
  | unknownResponse (event : List Char)
  | apiCloseEvt
deriving DecidableEq, Repr

-- What a parser callback leaves: the handlers it called and the pointer it
-- returned, none for NULL.
structure Parsed where
  calls : List Call
  rest : Option (List Char)
deriving DecidableEq, Repr

def Parsed.after (calls : List Call) (parsed : Parsed) : Parsed := ⟨calls ++ parsed.calls,parsed.rest⟩

def crLf : List Char := ['\r','\n']

section Macros

def done (buf : List Char) : Parsed := ⟨[],some buf⟩

def null : Parsed := ⟨[],none⟩

-- AT_CHECK_EVENT: the body runs on the text after CR LF, the event and the
-- spaces that follow.
def atCheckEvent (event : String) (body : List Char → Parsed) (buf : List Char) : Parsed :=
  let expected := crLf ++ event.toList
  if expected.isPrefixOf buf then body ((buf.drop expected.length).dropWhile (· == ' ')) else done buf

-- AT_CHECK_RN(buf): NULL unless CR LF follows, and what comes after them.
def atCheckRn (buf : List Char) (rest : List Char → Parsed) : Parsed :=
  if crLf.isPrefixOf buf then rest (buf.drop 2) else null

def atSkipRest (buf : List Char) : List Char := buf.dropWhile fun c => c != '\r' && c != nul

end Macros

section Callbacks

-- parse_ok, parse_error, parse_ring and the other events without parameters.
def parseResultCode (event : String) (call : Call) : List Char → Parsed :=
  atCheckEvent event fun buffer => atCheckRn buffer fun buffer => (done buffer).after [call]

def parseOk : List Char → Parsed := parseResultCode "OK" .handleOk

def parseError : List Char → Parsed := parseResultCode "ERROR" (.handleError .error 0)

def parseRing : List Char → Parsed := parseResultCode "RING" .handleRing

def parseBusy : List Char → Parsed := parseResultCode "BUSY" (.handleError .busy 0)

def parseDelayed : List Char → Parsed := parseResultCode "DELAYED" (.handleError .delay 0)

def parseNoCarrier : List Char → Parsed := parseResultCode "NO CARRIER" (.handleError .noCarrier 0)

def parseNoAnswer : List Char → Parsed := parseResultCode "NO ANSWER" (.handleError .noAnswer 0)

def parseBlacklisted : List Char → Parsed := parseResultCode "BLACKLISTED" (.handleError .blacklisted 0)

def parseUint32 (handler : Nat → Call) (buffer : List Char) : Parsed :=
  let scanned := sscanf buffer [.unsigned 32,.count]
  if scanned.ret < 1 then null
  else atCheckRn (buffer.drop (scanned.count.getD 0)) fun buffer => (done buffer).after [handler (scanned.number 0 0)]

def parseBrsf : List Char → Parsed := atCheckEvent "+BRSF:" (parseUint32 .handleBrsf)

def parseBcs : List Char → Parsed := atCheckEvent "+BCS:" (parseUint32 .handleBcs)

def parseBsir : List Char → Parsed := atCheckEvent "+BSIR:" (parseUint32 .handleBsir)

def parseCmeerror : List Char → Parsed := atCheckEvent "+CME ERROR:" (parseUint32 .handleCmeerror)

def parseVgm : List Char → Parsed := atCheckEvent "+VGM:" (parseUint32 .handleVgm)

def parseVgme : List Char → Parsed := atCheckEvent "+VGM=" (parseUint32 .handleVgm)

def parseVgs : List Char → Parsed := atCheckEvent "+VGS:" (parseUint32 .handleVgs)

def parseVgse : List Char → Parsed := atCheckEvent "+VGS=" (parseUint32 .handleVgs)

def parseBvra : List Char → Parsed := atCheckEvent "+BVRA:" (parseUint32 .handleBvra)

-- parse_cind_values: "%u%n" values separated by commas, each handed over with
-- its uint16_t index. A round reads a digit, so the length bounds the rounds.
def cindValuesLoop : Nat → Nat → List Char → Parsed
  | 0,_,_ => null
  | fuel + 1,index,buffer =>
    let scanned := sscanf buffer [.unsigned 32,.count]
    if scanned.ret ≤ 0 then null
    else
      let buffer := buffer.drop (scanned.count.getD 0)
      let call := Call.handleCindValue index (scanned.number 0 0)
      if peek buffer != ',' then (atCheckRn buffer done).after [call]
      else (cindValuesLoop fuel ((index + 1) % 65536) (buffer.drop 1)).after [call]

def parseCindValues (buffer : List Char) : Parsed := cindValuesLoop (buffer.length + 1) 0 buffer

def cindListFormat : List Directive :=
  [.literal '(',.literal '"',.scanset 128 ['"'],.literal '"',.literal ',',.literal '(',.unsigned 32,
    .skipSet ['-',','],.unsigned 32,.literal ')',.literal ')',.count]

-- parse_cind_list. offset is set once before the loop, so an item whose %n
-- is not reached moves the buffer by the offset of the item before it.
def cindListLoop : Nat → Nat → Nat → List Char → Parsed
  | 0,_,_,_ => null
  | fuel + 1,offset,index,buffer =>
    let scanned := sscanf buffer cindListFormat
    if scanned.ret ≤ 2 then null
    else if atIndicatorCount ≤ index then null
    else
      let call := Call.handleCindListItem (scanned.text 0 []) (scanned.number 1 0) (scanned.number 2 0) index
      let offset := scanned.count.getD offset
      if offset = 0 then ⟨[call],none⟩
      else
        let buffer := buffer.drop offset
        if peek buffer != ',' then (atCheckRn buffer done).after [call]
        else (cindListLoop fuel offset (index + 1) (buffer.drop 1)).after [call]

def parseCindList (buffer : List Char) : Parsed := cindListLoop (buffer.length + 1) 0 0 buffer

def parseCind : List Char → Parsed :=
  atCheckEvent "+CIND:" fun buffer => if peek buffer = '(' then parseCindList buffer else parseCindValues buffer

-- The +CHLD modes in the order the loop of parse_chld tries them.
def chldMode : List Char → Option (Chld × List Char)
  | '0' :: rest => some (.rel,rest)
  | '1' :: 'x' :: rest => some (.relX,rest)
  | '1' :: rest => some (.relAcc,rest)
  | '2' :: 'x' :: rest => some (.privX,rest)
  | '2' :: rest => some (.holdAcc,rest)
  | '3' :: rest => some (.merge,rest)
  | '4' :: rest => some (.mergeDetach,rest)
  | _ => none

def chldLoop : Nat → List Char → Parsed
  | 0,_ => null
  | fuel + 1,buffer =>
    if peek buffer = nul then atCheckRn buffer done
    else
      match chldMode buffer with
      | none => null
      | some (mode,buffer) =>
        match buffer with
        | ',' :: buffer => (chldLoop fuel buffer).after [.handleChld mode]
        | ')' :: buffer => (atCheckRn buffer done).after [.handleChld mode]
        | _ => ⟨[.handleChld mode],none⟩

def parseChld : List Char → Parsed :=
  atCheckEvent "+CHLD:" fun buffer =>
    match buffer with
    | '(' :: buffer => chldLoop (buffer.length + 1) buffer
    | _ => null

def parseCiev : List Char → Parsed :=
  atCheckEvent "+CIEV:" fun buffer =>
    let scanned := sscanf buffer [.unsigned 32,.literal ',',.unsigned 32,.count]
    if scanned.ret < 2 then null
    else
      let offset := scanned.count.getD 0
      if offset = 0 then null
      else atCheckRn (buffer.drop offset) fun buffer =>
        (done buffer).after [.handleCiev (scanned.number 0 0) (scanned.number 1 0)]

-- parse_clip and parse_ccwa: "\"%32[^\"]\",%u%n", the rest up to CR, CR LF.
def parseNumberType (handler : List Char → Nat → Call) (buffer : List Char) : Parsed :=
  let scanned := sscanf buffer [.literal '"',.scanset 32 ['"'],.literal '"',.literal ',',.unsigned 32,.count]
  if scanned.ret < 2 then null
  else
    let offset := scanned.count.getD 0
    if offset = 0 then null
    else atCheckRn (atSkipRest (buffer.drop offset)) fun buffer =>
      (done buffer).after [handler (scanned.text 0 []) (scanned.number 1 0)]

def parseClip : List Char → Parsed := atCheckEvent "+CLIP:" (parseNumberType .handleClip)

def parseCcwa : List Char → Parsed := atCheckEvent "+CCWA:" (parseNumberType .handleCcwa)

-- parse_cops, "%hhi,0,\"%16[^\"]\"%n"; the OK that closes the response is
-- read as parse_ok reads it.
def parseCops : List Char → Parsed :=
  atCheckEvent "+COPS:" fun buffer =>
    let scanned := sscanf buffer
      [.integer 8,.literal ',',.literal '0',.literal ',',.literal '"',.scanset 16 ['"'],.literal '"',.count]
    if scanned.ret < 2 then null
    else
      let offset := scanned.count.getD 0
      if offset = 0 then null
      else atCheckRn (atSkipRest (buffer.drop offset)) fun buffer =>
        (parseOk buffer).after [.handleCops (scanned.text 1 []) (scanned.number 0 0)]

-- parse_binp, "\"%32[^\"]\"\r\n%n": CR and LF in a format are white space,
-- which takes any run of white space.
def parseBinp : List Char → Parsed :=
  atCheckEvent "+BINP:" fun buffer =>
    let scanned := sscanf buffer [.literal '"',.scanset 32 ['"'],.literal '"',.space,.count]
    if scanned.ret < 1 then null
    else
      let offset := scanned.count.getD 0
      if offset = 0 then null
      else atCheckRn (atSkipRest (buffer.drop offset)) fun buffer =>
        (parseOk buffer).after [.handleBinp (scanned.text 0 [])]

def clccFormat : List Directive :=
  [.unsigned 16,.literal ',',.unsigned 16,.literal ',',.unsigned 16,.literal ',',.unsigned 16,.literal ',',
    .unsigned 16,.count]

def clccNumberFormat : List Directive :=
  [.literal ',',.literal '"',.scanset 32 ['"'],.literal '"',.literal ',',.unsigned 16,.count]

def clccEmptyNumberFormat : List Directive :=
  [.literal ',',.literal '"',.literal '"',.literal ',',.unsigned 16,.count]

-- res2, numstr, type and offset after the one or two sscanf calls of
-- parse_clcc for the optional number and type, none where it returns NULL.
def clccNumber (buffer : List Char) : Option (Int × List Char × Nat × Nat) :=
  let first := sscanf buffer clccNumberFormat
  if first.ret < 0 then none
  else if first.ret = 0 then
    let second := sscanf buffer clccEmptyNumberFormat
    if second.ret < 0 then none else some (second.ret + 1,[],second.number 0 0,second.count.getD 0)
  else some (first.ret,first.text 0 [],first.number 1 0,first.count.getD 0)

def clccOptional (res : Int) (buffer : List Char) : Option (Int × List Char × Nat × List Char) :=
  if peek buffer != ',' then some (res,[],0,buffer)
  else
    match clccNumber buffer with
    | none => none
    | some (res2,number,type,offset) =>
      if res2 < 2 then some (res,number,type,buffer)
      else if offset = 0 then none
      else some (res + res2,number,type,buffer.drop offset)

def parseClcc : List Char → Parsed :=
  atCheckEvent "+CLCC:" fun buffer =>
    let scanned := sscanf buffer clccFormat
    if scanned.ret < 5 then null
    else
      let offset := scanned.count.getD 0
      if offset = 0 then null
      else
        match clccOptional scanned.ret (buffer.drop offset) with
        | none => null
        | some (res,number,type,buffer) =>
          -- the number and type go up only when both were read
          let numberType := if 6 < res then (some number,type) else (none,0)
          atCheckRn (atSkipRest buffer) fun buffer =>
            (parseOk buffer).after [.handleClcc (scanned.number 0 0) (scanned.number 1 0) (scanned.number 2 0)
              (scanned.number 3 0) (scanned.number 4 0) numberType.1 numberType.2]

def cnumFormat : List Directive :=
  [.literal ',',.literal '"',.scanset 32 ['"'],.literal '"',.literal ',',.unsigned 16,.literal ',',.literal ',',
    .unsigned 16,.count]

def cnumEmptyNumberFormat : List Directive :=
  [.literal ',',.literal '"',.literal '"',.literal ',',.unsigned 16,.literal ',',.literal ',',.unsigned 16,.count]

-- res, numstr, type, service and offset after the one or two sscanf calls
-- of parse_cnum, none where it returns NULL.
def cnumScan (buffer : List Char) : Option (Int × List Char × Nat × Nat × Nat) :=
  let first := sscanf buffer cnumFormat
  if first.ret < 0 then none
  else if first.ret = 0 then
    let second := sscanf buffer cnumEmptyNumberFormat
    if second.ret < 0 then none
    else some (second.ret + 1,[],second.number 0 0,second.number 1 0,second.count.getD 0)
  else some (first.ret,first.text 0 [],first.number 1 0,first.number 2 0,first.count.getD 0)

def parseCnum : List Char → Parsed :=
  atCheckEvent "+CNUM:" fun buffer =>
    match cnumScan buffer with
    | none => null
    | some (res,number,type,service,offset) =>
      if res < 3 then null
      else if offset = 0 then null
      else atCheckRn (buffer.drop offset) fun buffer =>
        if res = 2 then (done buffer).after [.handleCnum number type service]
        else if service ≠ 4 ∧ service ≠ 5 then null
        else (parseOk buffer).after [.handleCnum number type service]

def parseBtrh : List Char → Parsed :=
  atCheckEvent "+BTRH:" fun buffer =>
    let scanned := sscanf buffer [.unsigned 16,.count]
    if scanned.ret < 1 then null
    else atCheckRn (buffer.drop (scanned.count.getD 0)) fun buffer =>
      (done buffer).after [.handleBtrh (scanned.number 0 0)]

-- process_unknown: the event between the first CR LF and the next one goes
-- up when it fits tmp_buf; the pointer stops at that second CR LF, and
-- moves past it only after a call.
def processUnknown (buffer : List Char) : Parsed :=
  match strstr crLf buffer with
  | none => null
  | some start =>
    let start := start.drop 2
    match strstr crLf start with
    | none => null
    | some finish =>
      let evtSize := start.length - finish.length + 1
      if evtSize < unkownEventLen then
        (atCheckRn finish done).after [.unknownResponse (start.take (evtSize - 1))]
      else done finish

-- skip_unknown: past the second CR LF, searched for from two characters in.
def skipUnknown (buffer : List Char) : Option (List Char) :=
  match strstr crLf buffer with
  | none => none
  | some _ =>
    match strstr crLf (buffer.drop 2) with
    | none => none
    | some tmp => some (tmp.drop 2)

def parserCb : List (List Char → Parsed) :=
  [parseOk,parseError,parseRing,parseBrsf,parseCind,parseCiev,parseChld,parseBcs,parseBsir,parseCmeerror,parseVgm,
    parseVgme,parseVgs,parseVgse,parseBvra,parseClip,parseCcwa,parseCops,parseBinp,parseClcc,parseCnum,parseBtrh,
    parseBusy,parseDelayed,parseNoCarrier,parseNoAnswer,parseBlacklisted,processUnknown]

end Callbacks

section Loop

-- The for loop of parse_start: the first callback that fails (skip_unknown
-- then decides) or moves the pointer ends it. Pointers into one array are
-- equal when the text after them is as long.
def dispatch (buf : List Char) : List (List Char → Parsed) → Parsed
  | [] => done buf
  | parser :: parsers =>
    match (parser buf).rest with
    | none => ⟨(parser buf).calls,skipUnknown buf⟩
    | some tmp => if tmp.length ≠ buf.length then parser buf else (dispatch buf parsers).after (parser buf).calls

-- bta_hf_client_at_parse_start: the handlers called, and API_CLOSE_EVT if it
-- gave up; none if the fuel ran out.
def parseStart : Nat → List Char → Option (List Call)
  | 0,_ => none
  | fuel + 1,buf =>
    if peek buf = nul then some []
    else
      match (dispatch buf parserCb).rest with
      | none => some ((dispatch buf parserCb).calls ++ [.apiCloseEvt])
      | some tmp => (parseStart fuel tmp).map ((dispatch buf parserCb).calls ++ ·)

end Loop

section Progress

@[simp] theorem rest_after (calls : List Call) (parsed : Parsed) : (parsed.after calls).rest = parsed.rest := rfl

@[simp] theorem calls_after (calls : List Call) (parsed : Parsed) :
    (parsed.after calls).calls = calls ++ parsed.calls := rfl

@[simp] theorem after_nil (parsed : Parsed) : parsed.after [] = parsed := rfl

-- What the parse loop needs of a callback: it returns NULL or a pointer into
-- the text it was given.
def Within (parser : List Char → Parsed) : Prop := ∀ buf tmp, (parser buf).rest = some tmp → tmp <:+ buf

theorem within_done : Within done := by
  intro buf tmp h
  cases h
  exact List.suffix_refl _

theorem Within.after {parser : List Char → Parsed} (within : Within parser) (calls : List Call) :
    Within fun buf => (parser buf).after calls :=
  within

theorem atCheckRn_suffix {text tmp : List Char} {rest : List Char → Parsed} (within : Within rest)
    (h : (atCheckRn text rest).rest = some tmp) : tmp <:+ text := by
  unfold atCheckRn at h
  split at h
  · exact (within _ _ h).trans (List.drop_suffix 2 text)
  · cases h

theorem within_atCheckEvent (event : String) {body : List Char → Parsed} (within : Within body) :
    Within (atCheckEvent event body) := by
  intro buf tmp h
  dsimp only [atCheckEvent] at h
  split at h
  · exact (within _ _ h).trans ((List.dropWhile_suffix _).trans (List.drop_suffix _ _))
  · exact within_done _ _ h

theorem atSkipRest_suffix (buf : List Char) : atSkipRest buf <:+ buf := List.dropWhile_suffix _

theorem within_parseResultCode (event : String) (call : Call) : Within (parseResultCode event call) :=
  within_atCheckEvent event fun _ _ h => atCheckRn_suffix (within_done.after [call]) h

theorem within_parseUint32 (handler : Nat → Call) : Within (parseUint32 handler) := by
  intro buf tmp h
  dsimp only [parseUint32] at h
  split at h
  · cases h
  · exact (atCheckRn_suffix (within_done.after _) h).trans (List.drop_suffix _ _)

theorem within_cindValuesLoop (fuel index : Nat) : Within (cindValuesLoop fuel index) := by
  induction fuel generalizing index with
  | zero => intro buf tmp h; cases h
  | succ fuel ih =>
    intro buf tmp h
    dsimp only [cindValuesLoop] at h
    split at h
    · cases h
    · split at h
      · exact (atCheckRn_suffix within_done h).trans (List.drop_suffix _ _)
      · exact ((ih _ _ _ h).trans (List.drop_suffix 1 _)).trans (List.drop_suffix _ _)

theorem within_cindListLoop (fuel offset index : Nat) : Within (cindListLoop fuel offset index) := by
  induction fuel generalizing offset index with
  | zero => intro buf tmp h; cases h
  | succ fuel ih =>
    intro buf tmp h
    dsimp only [cindListLoop] at h
    split at h
    · cases h
    · split at h
      · cases h
      · split at h
        · cases h
        · split at h
          · exact (atCheckRn_suffix within_done h).trans (List.drop_suffix _ _)
          · exact ((ih _ _ _ _ h).trans (List.drop_suffix 1 _)).trans (List.drop_suffix _ _)

theorem within_parseCind : Within parseCind := by
  refine within_atCheckEvent _ fun buffer tmp h => ?_
  split at h
  · exact within_cindListLoop _ _ _ _ _ h
  · exact within_cindValuesLoop _ _ _ _ h

theorem chldMode_suffix {buffer rest : List Char} {mode : Chld} (h : chldMode buffer = some (mode,rest)) :
    rest <:+ buffer := by
  unfold chldMode at h
  split at h <;> cases h
  all_goals first
    | exact List.suffix_cons _ _
    | exact (List.suffix_cons _ _).trans (List.suffix_cons _ _)

theorem within_chldLoop (fuel : Nat) : Within (chldLoop fuel) := by
  induction fuel with
  | zero => intro buf tmp h; cases h
  | succ fuel ih =>
    intro buf tmp h
    dsimp only [chldLoop] at h
    split at h
    · exact atCheckRn_suffix within_done h
    · split at h
      · cases h
      · rename_i mode after found
        have within := chldMode_suffix found
        split at h
        · exact ((ih _ _ h).trans (List.suffix_cons _ _)).trans within
        · exact ((atCheckRn_suffix within_done h).trans (List.suffix_cons _ _)).trans within
        · cases h

theorem within_parseChld : Within parseChld := by
  refine within_atCheckEvent _ fun buffer tmp h => ?_
  split at h
  · exact (within_chldLoop _ _ _ h).trans (List.suffix_cons _ _)
  · cases h

theorem within_parseCiev : Within parseCiev := by
  refine within_atCheckEvent _ fun buffer tmp h => ?_
  dsimp only at h
  split at h
  · cases h
  · split at h
    · cases h
    · exact (atCheckRn_suffix (within_done.after _) h).trans (List.drop_suffix _ _)

theorem within_parseNumberType (handler : List Char → Nat → Call) : Within (parseNumberType handler) := by
  intro buffer tmp h
  dsimp only [parseNumberType] at h
  split at h
  · cases h
  · split at h
    · cases h
    · exact ((atCheckRn_suffix (within_done.after _) h).trans (atSkipRest_suffix _)).trans (List.drop_suffix _ _)

theorem within_parseOk : Within parseOk := within_parseResultCode _ _

theorem within_parseCops : Within parseCops := by
  refine within_atCheckEvent _ fun buffer tmp h => ?_
  dsimp only at h
  split at h
  · cases h
  · split at h
    · cases h
    · exact ((atCheckRn_suffix (within_parseOk.after _) h).trans (atSkipRest_suffix _)).trans (List.drop_suffix _ _)

theorem within_parseBinp : Within parseBinp := by
  refine within_atCheckEvent _ fun buffer tmp h => ?_
  dsimp only at h
  split at h
  · cases h
  · split at h
    · cases h
    · exact ((atCheckRn_suffix (within_parseOk.after _) h).trans (atSkipRest_suffix _)).trans (List.drop_suffix _ _)

theorem clccOptional_suffix {res res' : Int} {buffer rest number : List Char} {type : Nat}
    (h : clccOptional res buffer = some (res',number,type,rest)) : rest <:+ buffer := by
  unfold clccOptional at h
  split at h
  · cases h
    exact List.suffix_refl _
  · split at h
    · cases h
    · split at h
      · cases h
        exact List.suffix_refl _
      · split at h
        · cases h
        · cases h
          exact List.drop_suffix _ _

theorem within_parseClcc : Within parseClcc := by
  refine within_atCheckEvent _ fun buffer tmp h => ?_
  dsimp only at h
  split at h
  · cases h
  · split at h
    · cases h
    · split at h
      · cases h
      · rename_i optional
        exact (((atCheckRn_suffix (within_parseOk.after _) h).trans (atSkipRest_suffix _)).trans
          (clccOptional_suffix optional)).trans (List.drop_suffix _ _)

theorem within_parseCnum : Within parseCnum := by
  refine within_atCheckEvent _ fun buffer tmp h => ?_
  split at h
  · cases h
  · split at h
    · cases h
    · split at h
      · cases h
      · refine (atCheckRn_suffix (fun after tmp h => ?_) h).trans (List.drop_suffix _ _)
        split at h
        · exact within_done _ _ h
        · split at h
          · cases h
          · exact within_parseOk _ _ h

theorem within_parseBtrh : Within parseBtrh := by
  refine within_atCheckEvent _ fun buffer tmp h => ?_
  dsimp only at h
  split at h
  · cases h
  · exact (atCheckRn_suffix (within_done.after _) h).trans (List.drop_suffix _ _)

theorem within_parserCb : ∀ parser ∈ parserCb.dropLast, Within parser := by
  simp only [parserCb,List.dropLast_cons_cons,List.dropLast_singleton,List.mem_cons,List.not_mem_nil,or_false]
  rintro parser (rfl | rfl | rfl | rfl | rfl | rfl | rfl | rfl | rfl | rfl | rfl | rfl | rfl | rfl | rfl | rfl |
    rfl | rfl | rfl | rfl | rfl | rfl | rfl | rfl | rfl | rfl | rfl)
  exacts [within_parseResultCode _ _,within_parseResultCode _ _,within_parseResultCode _ _,
    within_atCheckEvent _ (within_parseUint32 _),within_parseCind,within_parseCiev,within_parseChld,
    within_atCheckEvent _ (within_parseUint32 _),within_atCheckEvent _ (within_parseUint32 _),
    within_atCheckEvent _ (within_parseUint32 _),within_atCheckEvent _ (within_parseUint32 _),
    within_atCheckEvent _ (within_parseUint32 _),within_atCheckEvent _ (within_parseUint32 _),
    within_atCheckEvent _ (within_parseUint32 _),within_atCheckEvent _ (within_parseUint32 _),
    within_atCheckEvent _ (within_parseNumberType _),within_atCheckEvent _ (within_parseNumberType _),
    within_parseCops,within_parseBinp,within_parseClcc,within_parseCnum,within_parseBtrh,
    within_parseResultCode _ _,within_parseResultCode _ _,within_parseResultCode _ _,within_parseResultCode _ _,
    within_parseResultCode _ _]

theorem processUnknown_moves {buffer tmp : List Char} (h : (processUnknown buffer).rest = some tmp) :
    tmp.length < buffer.length := by
  unfold processUnknown at h
  split at h
  · cases h
  · rename_i start found
    have prefixed := (strstr_starts_with_needle found).length_le
    have inside := (strstr_suffix found).length_le
    dsimp only at h
    split at h
    · cases h
    · rename_i finish foundEnd
      have before : finish.length ≤ start.length - 2 := by
        simpa using (strstr_suffix foundEnd).length_le
      have short : tmp <:+ finish := by
        split at h
        · exact atCheckRn_suffix within_done h
        · exact within_done _ _ h
      simp only [crLf,List.length_cons,List.length_nil] at prefixed
      have := short.length_le
      omega

theorem skipUnknown_moves {buffer tmp : List Char} (h : skipUnknown buffer = some tmp) :
    tmp.length < buffer.length := by
  unfold skipUnknown at h
  split at h
  · cases h
  · split at h
    · cases h
    · rename_i after found
      cases h
      have prefixed := (strstr_starts_with_needle found).length_le
      have inside := (strstr_suffix found).length_le
      simp only [crLf,List.length_cons,List.length_nil,List.length_drop] at prefixed inside ⊢
      omega

theorem dispatch_moves {buf tmp : List Char} {parsers : List (List Char → Parsed)}
    (within : ∀ parser ∈ parsers, Within parser) (h : (dispatch buf (parsers ++ [processUnknown])).rest = some tmp) :
    tmp.length < buf.length := by
  induction parsers with
  | nil =>
    simp only [List.nil_append,dispatch] at h
    split at h
    · exact skipUnknown_moves h
    · rename_i moved found
      have shorter := processUnknown_moves found
      split at h
      · exact processUnknown_moves h
      · omega
  | cons parser parsers ih =>
    simp only [List.cons_append,dispatch] at h
    split at h
    · exact skipUnknown_moves h
    · rename_i moved found
      have inside := (within parser (List.mem_cons_self ..) _ _ found).length_le
      split at h
      · rw [found] at h
        cases h
        omega
      · exact ih (fun p mem => within p (List.mem_cons_of_mem _ mem)) h

theorem dispatch_parserCb_moves {buf tmp : List Char} (h : (dispatch buf parserCb).rest = some tmp) :
    tmp.length < buf.length :=
  dispatch_moves within_parserCb (by rwa [← List.dropLast_append_getLast (l := parserCb) (by simp [parserCb])] at h)

-- Every round moves the pointer forward, so the length of the text is fuel
-- enough.
theorem parseStart_isSome {fuel : Nat} {buf : List Char} (enough : buf.length < fuel) :
    (parseStart fuel buf).isSome := by
  induction fuel generalizing buf with
  | zero => omega
  | succ fuel ih =>
    unfold parseStart
    split
    · rfl
    · split
      · rfl
      · rename_i tmp found
        have := dispatch_parserCb_moves found
        simpa using ih (by omega)

end Progress

section Buffer

-- at_cb.buf up to at_cb.offset; the array has room for the terminating NUL
-- after atParserMaxLen characters.
structure AtCb where
  buf : List Char
  fits : buf.length ≤ atParserMaxLen

def AtCb.offset (cb : AtCb) : Nat := cb.buf.length

def AtCb.cleared : AtCb := ⟨[],Nat.zero_le _⟩

def checkAtComplete (buf : List Char) (offset : Nat) : Bool :=
  atEventMinLen ≤ offset && buf.getD (offset - 2) nul == '\r' && buf.getD (offset - 1) nul == '\n'

-- The recovery loop of at_parse: offset goes back to the end of the last
-- complete event, none when it reaches 0.
def recoverOffset (buf : List Char) : Nat → Option Nat
  | 0 => if checkAtComplete buf 0 then some 0 else none
  | offset + 1 => if checkAtComplete buf (offset + 1) then some (offset + 1) else recoverOffset buf offset

-- On an overrun the buffer is cut after its last CR LF and parsed; a full
-- buffer with no CR LF closes the link.
def atParse (cb : AtCb) (input : List Char) : Option (AtCb × List Call) :=
  if overrun : atParserMaxLen < input.length + cb.offset then
    let filled := cb.buf ++ input.take (atParserMaxLen - cb.offset)
    match recoverOffset filled atParserMaxLen with
    | none => some (AtCb.cleared,[.apiCloseEvt])
    | some offset => (parseStart (filled.length + 1) (filled.set offset nul)).map (AtCb.cleared,·)
  else
    let buf := cb.buf ++ input
    if checkAtComplete buf buf.length then (parseStart (buf.length + 1) buf).map (AtCb.cleared,·)
    else some (⟨buf,by simp only [buf,List.length_append,AtCb.offset] at overrun ⊢; omega⟩,[])

-- parse_cind_list moves the pointer by offset, which keeps the value of the
-- item before when an item breaks off before its %n: the pointer lands past
-- the NUL that ends the string, and the item found there is read as well.
example : 'c' ∉ cString "\r\n+CIND: (\"aaaaaaaaaa\",(0,1)),(\"b\",(0,1)\x00xxxxxxxxx,(\"c\",(0,1))\r\n".toList ∧
    (atParse AtCb.cleared
        "\r\n+CIND: (\"aaaaaaaaaa\",(0,1)),(\"b\",(0,1)\x00xxxxxxxxx,(\"c\",(0,1))\r\n".toList).map Prod.snd =
      some [.handleCindListItem "aaaaaaaaaa".toList 0 1 0,.handleCindListItem ['b'] 0 1 1,
        .handleCindListItem ['c'] 0 1 2] :=
  ⟨by decide,by decide⟩

-- process_unknown stops on the CR LF after an event too long for tmp_buf,
-- and that bare CR LF closes the link.
example : (atParse AtCb.cleared "\r\n+XAPL=0123456789ABCDEF,0123456789\r\n".toList).map Prod.snd =
    some [.apiCloseEvt] := by
  decide

-- Chunks as RFCOMM hands them to successive at_parse calls.
def atParseChunks : AtCb → List (List Char) → Option (AtCb × List Call)
  | cb,[] => some (cb,[])
  | cb,chunk :: chunks =>
    (atParse cb chunk).bind fun (cb,calls) => (atParseChunks cb chunks).map fun (cb,more) => (cb,calls ++ more)

theorem atParse_isSome (cb : AtCb) (input : List Char) : (atParse cb input).isSome := by
  unfold atParse
  split
  · dsimp only
    split
    · rfl
    · rw [Option.isSome_map]
      exact parseStart_isSome (by rw [List.length_set]; omega)
  · dsimp only
    split
    · rw [Option.isSome_map]
      exact parseStart_isSome (Nat.lt_succ_self _)
    · rfl

theorem atParseChunks_isSome (cb : AtCb) (chunks : List (List Char)) : (atParseChunks cb chunks).isSome := by
  induction chunks generalizing cb with
  | nil => rfl
  | cons chunk chunks ih =>
    obtain ⟨⟨cb',calls⟩,parsed⟩ := Option.isSome_iff_exists.mp (atParse_isSome cb chunk)
    rw [atParseChunks,parsed,Option.bind_some,Option.isSome_map]
    exact ih cb'

end Buffer

end BluetoothStack.Hfp
