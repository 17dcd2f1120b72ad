import BluetoothStack.Lib.Machine

namespace BluetoothStack.Hci

-- The command flow control of hci_layer.cc. Each function runs under its
-- mutexes, so a run is a sequence of whole steps.

def hciGrpVendorSpecific : UInt16 := (0x3F : UInt16) <<< 10
def hciCommandNone : UInt16 := 0x0000

-- waiting_command_t by its opcode and the allocation osi_calloc gave it.
structure WaitingCommand where
  opcode : UInt16
  id : Nat
  deriving DecidableEq, Repr

structure CommandFlow where
  commandCredits : Int
  commandQueue : List WaitingCommand
  -- the event_command_ready tasks on message_loop_ not yet run, in order
  posted : List WaitingCommand
  commandsPendingResponse : List WaitingCommand
  -- what event_command_ready handed to packet_fragmenter, and the entries
  -- filter_incoming_event released with osi_free
  sent : List WaitingCommand
  freed : List WaitingCommand
  nextId : Nat
  deriving DecidableEq, Repr

def commandFlowInit : CommandFlow := ⟨1,[],[],[],[],[],0⟩

def enqueueCommand (s : CommandFlow) (opcode : UInt16) : CommandFlow :=
  let waitEntry : WaitingCommand := ⟨opcode,s.nextId⟩
  let s := { s with nextId := s.nextId + 1 }
  if s.commandCredits > 0 then { s with posted := s.posted ++ [waitEntry],commandCredits := s.commandCredits - 1 }
  else { s with commandQueue := s.commandQueue ++ [waitEntry] }

theorem enqueueCommand_of_pos {s : CommandFlow} (opcode : UInt16) (left : s.commandCredits > 0) :
    enqueueCommand s opcode =
      { s with
        posted := s.posted ++ [⟨opcode,s.nextId⟩]
        commandCredits := s.commandCredits - 1
        nextId := s.nextId + 1 } := by
  simp only [enqueueCommand,left,↓reduceIte]

theorem enqueueCommand_of_nonpos {s : CommandFlow} (opcode : UInt16) (left : ¬s.commandCredits > 0) :
    enqueueCommand s opcode =
      { s with
        commandQueue := s.commandQueue ++ [⟨opcode,s.nextId⟩]
        nextId := s.nextId + 1 } := by
  simp only [enqueueCommand,left,↓reduceIte]

-- The message loop runs the oldest posted event_command_ready task.
def eventCommandReady (s : CommandFlow) : CommandFlow :=
  match s.posted with
  | [] => s
  | waitEntry :: rest =>
    { s with
      posted := rest
      commandsPendingResponse := s.commandsPendingResponse ++ [waitEntry]
      sent := s.sent ++ [waitEntry] }

theorem eventCommandReady_nil {s : CommandFlow} (posted : s.posted = []) : eventCommandReady s = s := by
  simp only [eventCommandReady,posted]

theorem eventCommandReady_cons {s : CommandFlow} {waitEntry : WaitingCommand} {rest : List WaitingCommand}
    (posted : s.posted = waitEntry :: rest) :
    eventCommandReady s =
      { s with
        posted := rest
        commandsPendingResponse := s.commandsPendingResponse ++ [waitEntry]
        sent := s.sent ++ [waitEntry] } := by
  simp only [eventCommandReady,posted]

def isVendorSpecific (opcode : UInt16) : Bool := opcode &&& hciGrpVendorSpecific == hciGrpVendorSpecific

-- get_waiting_command: the opcode's first entry, else the first vendor-specific
-- one when the opcode is vendor-specific or zero.
def getWaitingCommand (pending : List WaitingCommand) (opcode : UInt16) : Option (WaitingCommand × List WaitingCommand) :=
  match pending.find? (fun waitEntry => waitEntry.opcode == opcode) with
  | some waitEntry => some (waitEntry,pending.erase waitEntry)
  | none =>
    match pending.find? (fun waitEntry => waitEntry.opcode != opcode && isVendorSpecific waitEntry.opcode &&
        (isVendorSpecific opcode || opcode == 0)) with
    | some waitEntry => some (waitEntry,pending.erase waitEntry)
    | none => none

def postQueued : Int → List WaitingCommand → List WaitingCommand → Int × List WaitingCommand × List WaitingCommand
  | credits,waitEntry :: queue,posted =>
    if credits > 0 then postQueued (credits - 1) queue (posted ++ [waitEntry]) else (credits,waitEntry :: queue,posted)
  | credits,[],posted => (credits,[],posted)

-- command_credits = credits - get_num_waiting_commands(), then the loop.
def processCommandCredits (s : CommandFlow) (credits : Int) : CommandFlow :=
  let drained := postQueued (credits - s.commandsPendingResponse.length) s.commandQueue s.posted
  { s with commandCredits := drained.1,commandQueue := drained.2.1,posted := drained.2.2 }

inductive CommandEvent where
  | commandComplete (credits : UInt8) (opcode : UInt16)
  | commandStatus (length status credits : UInt8) (opcode : UInt16)
  deriving DecidableEq, Repr

-- The matching entry, if any, leaves the list and is freed at intercepted.
def answerCommand (s : CommandFlow) (opcode : UInt16) : CommandFlow :=
  match getWaitingCommand s.commandsPendingResponse opcode with
  | none => s
  | some (waitEntry,rest) => { s with commandsPendingResponse := rest,freed := s.freed ++ [waitEntry] }

-- A Command Status too short for its fields is dropped before anything is read.
def filterIncomingEvent (s : CommandFlow) : CommandEvent → CommandFlow
  | .commandComplete credits opcode => processCommandCredits (answerCommand s opcode) credits.toNat
  | .commandStatus length _ credits opcode =>
    if length.toNat < 4 then s else processCommandCredits (answerCommand s opcode) credits.toNat

inductive FlowStep where
  | enqueue (opcode : UInt16)
  | ready
  | event (event : CommandEvent)
  deriving DecidableEq, Repr

def flowStep (s : CommandFlow) : FlowStep → Option CommandFlow
  | .enqueue opcode => some (enqueueCommand s opcode)
  | .ready => some (eventCommandReady s)
  | .event event => some (filterIncomingEvent s event)

-- Commands handed to the fragmenter or posted to be, and not yet answered.
def outstanding (s : CommandFlow) : Nat := s.posted.length + s.commandsPendingResponse.length

section Credits

theorem postQueued_balance (credits : Int) (queue posted : List WaitingCommand) :
    (postQueued credits queue posted).1 + (postQueued credits queue posted).2.2.length = credits + posted.length := by
  induction queue generalizing credits posted with
  | nil => rfl
  | cons waitEntry queue ih =>
    by_cases left : credits > 0
    · rw [postQueued,if_pos left,ih,List.length_append,List.length_singleton]
      push_cast
      omega
    · rw [postQueued,if_neg left]

theorem postQueued_order (credits : Int) (queue posted : List WaitingCommand) :
    (postQueued credits queue posted).2.2 ++ (postQueued credits queue posted).2.1 = posted ++ queue := by
  induction queue generalizing credits posted with
  | nil => rfl
  | cons waitEntry queue ih =>
    by_cases left : credits > 0
    · rw [postQueued,if_pos left,ih,List.append_assoc,List.singleton_append]
    · rw [postQueued,if_neg left]

theorem postQueued_done (credits : Int) (queue posted : List WaitingCommand) :
    (postQueued credits queue posted).2.1 = [] ∨ (postQueued credits queue posted).1 ≤ 0 := by
  induction queue generalizing credits posted with
  | nil => exact .inl rfl
  | cons waitEntry queue ih =>
    by_cases left : credits > 0
    · rw [postQueued,if_pos left]
      exact ih _ _
    · rw [postQueued,if_neg left]
      exact .inr (by omega)

theorem processCommandCredits_balance (s : CommandFlow) (credits : Int) :
    (processCommandCredits s credits).commandCredits + outstanding (processCommandCredits s credits) =
      credits + s.posted.length := by
  have balance := postQueued_balance (credits - s.commandsPendingResponse.length) s.commandQueue s.posted
  simp only [processCommandCredits,outstanding]
  push_cast
  omega

end Credits

section Answer

theorem getWaitingCommand_spec {pending : List WaitingCommand} {opcode : UInt16} {waitEntry : WaitingCommand}
    {rest : List WaitingCommand} (found : getWaitingCommand pending opcode = some (waitEntry,rest)) :
    waitEntry ∈ pending ∧ rest = pending.erase waitEntry ∧
      (waitEntry.opcode = opcode ∨
        isVendorSpecific waitEntry.opcode = true ∧ (isVendorSpecific opcode = true ∨ opcode = hciCommandNone)) := by
  unfold getWaitingCommand at found
  split at found
  · rename_i exact
    cases found
    have same := List.find?_some exact
    exact ⟨List.mem_of_find?_eq_some exact,rfl,.inl (by simpa using same)⟩
  · split at found
    · rename_i vendor
      cases found
      have same := List.find?_some vendor
      simp only [Bool.and_eq_true,bne_iff_ne,ne_eq,Bool.or_eq_true,beq_iff_eq] at same
      exact ⟨List.mem_of_find?_eq_some vendor,rfl,.inr ⟨same.1.2,same.2⟩⟩
    · cases found

theorem answerCommand_perm (s : CommandFlow) (opcode : UInt16) :
    List.Perm ((answerCommand s opcode).commandsPendingResponse ++ (answerCommand s opcode).freed)
      (s.commandsPendingResponse ++ s.freed) := by
  unfold answerCommand
  split
  · exact .refl _
  · rename_i waitEntry rest found
    obtain ⟨held,rfl,-⟩ := getWaitingCommand_spec found
    -- the freed entry goes back to the front, where erase took it from
    have moved : List.Perm (s.commandsPendingResponse.erase waitEntry ++ (s.freed ++ [waitEntry]))
        ((waitEntry :: s.commandsPendingResponse.erase waitEntry) ++ s.freed) := by
      rw [← List.append_assoc]
      exact List.perm_append_singleton _ _
    exact moved.trans ((List.perm_cons_erase held).symm.append_right _)

theorem answerCommand_frame (s : CommandFlow) (opcode : UInt16) :
    (answerCommand s opcode).commandCredits = s.commandCredits ∧ (answerCommand s opcode).commandQueue = s.commandQueue ∧
      (answerCommand s opcode).posted = s.posted ∧ (answerCommand s opcode).sent = s.sent ∧
        (answerCommand s opcode).nextId = s.nextId := by
  unfold answerCommand
  split <;> exact ⟨rfl,rfl,rfl,rfl,rfl⟩

end Answer

section Balance

-- Between two credit events credits only move into outstanding commands.
theorem enqueueCommand_balance (s : CommandFlow) (opcode : UInt16) :
    (enqueueCommand s opcode).commandCredits + outstanding (enqueueCommand s opcode) =
      s.commandCredits + outstanding s := by
  by_cases left : s.commandCredits > 0
  · rw [enqueueCommand_of_pos opcode left]
    simp only [outstanding,List.length_append,List.length_singleton]
    push_cast
    omega
  · rw [enqueueCommand_of_nonpos opcode left]
    rfl

theorem eventCommandReady_balance (s : CommandFlow) :
    (eventCommandReady s).commandCredits + outstanding (eventCommandReady s) = s.commandCredits + outstanding s := by
  cases posted : s.posted with
  | nil => rw [eventCommandReady_nil posted]
  | cons waitEntry rest =>
    rw [eventCommandReady_cons posted]
    simp only [outstanding,posted,List.length_cons,List.length_append,List.length_nil]
    push_cast
    omega

theorem run_quiet_balance {s s' : CommandFlow} {steps : List FlowStep}
    (quiet : ∀ step ∈ steps, ∀ event, step ≠ .event event) (ran : Machine.run flowStep s steps = some s') :
    s'.commandCredits + outstanding s' = s.commandCredits + outstanding s := by
  induction steps generalizing s with
  | nil =>
    cases ran
    rfl
  | cons step steps ih =>
    have rest : ∀ step ∈ steps, ∀ event, step ≠ .event event := fun step held => quiet step (.tail _ held)
    cases step with
    | enqueue opcode =>
      simp only [Machine.run,flowStep,Option.bind_some] at ran
      rw [ih rest ran,enqueueCommand_balance]
    | ready =>
      simp only [Machine.run,flowStep,Option.bind_some] at ran
      rw [ih rest ran,eventCommandReady_balance]
    | event event => exact absurd rfl (quiet _ (.head _) event)

end Balance

-- A command posted with the first credit is still on the message loop when a
-- Command Complete gives one credit: the credit goes to a second command.
theorem hci_commands_exceed_credits :
    (Machine.run flowStep commandFlowInit
        [.enqueue 0x0C03,.event (.commandComplete 1 hciCommandNone),.enqueue 0x1001,.ready,.ready]).map
      (fun s => (s.sent.map WaitingCommand.opcode,outstanding s)) = some ([0x0C03,0x1001],2) := by
  decide

-- Tasks already posted when a Command Complete came were paid for by an earlier
-- credit and are counted a second time.
theorem commandCredits_add_outstanding {s s' : CommandFlow} {credits : UInt8} {opcode : UInt16}
    {steps : List FlowStep} (quiet : ∀ step ∈ steps, ∀ event, step ≠ .event event)
    (ran : Machine.run flowStep s (.event (.commandComplete credits opcode) :: steps) = some s') :
    s'.commandCredits + outstanding s' = credits.toNat + s.posted.length := by
  simp only [Machine.run,flowStep,Option.bind_some,filterIncomingEvent] at ran
  rw [run_quiet_balance quiet ran,processCommandCredits_balance,(answerCommand_frame s opcode).2.2.1]

theorem commandCredits_add_outstanding_sample : ∃ s',
    (∀ step ∈ [FlowStep.enqueue 0x1001,.ready,.ready], ∀ event, step ≠ .event event) ∧
      Machine.run flowStep (enqueueCommand commandFlowInit 0x0C03)
          (.event (.commandComplete 1 hciCommandNone) :: [.enqueue 0x1001,.ready,.ready]) = some s' ∧
      s'.commandCredits + outstanding s' = (1 : UInt8).toNat + (enqueueCommand commandFlowInit 0x0C03).posted.length := by
  have quiet : ∀ step ∈ [FlowStep.enqueue 0x1001,.ready,.ready], ∀ event, step ≠ .event event := by simp
  have ran : (Machine.run flowStep (enqueueCommand commandFlowInit 0x0C03)
      (.event (.commandComplete 1 hciCommandNone) :: [.enqueue 0x1001,.ready,.ready])).isSome = true := by decide
  obtain ⟨s',ran⟩ := Option.isSome_iff_exists.mp ran
  exact ⟨s',quiet,ran,commandCredits_add_outstanding quiet ran⟩

section Invariant

-- What holds in every reachable state: a command waits only while no credit is
-- left; commands keep their issue order; every one sent is pending or freed.
structure FlowInv (s : CommandFlow) : Prop where
  queued : s.commandQueue = [] ∨ s.commandCredits ≤ 0
  issued : (s.sent ++ s.posted ++ s.commandQueue).map WaitingCommand.id = List.range s.nextId
  answered : List.Perm (s.commandsPendingResponse ++ s.freed) s.sent

theorem flowInv_init : FlowInv commandFlowInit where
  queued := .inl rfl
  issued := rfl
  answered := .refl _

variable {s : CommandFlow}

theorem enqueueCommand_flowInv (inv : FlowInv s) (opcode : UInt16) : FlowInv (enqueueCommand s opcode) := by
  by_cases left : s.commandCredits > 0
  · -- a credit is left, so by the invariant nothing is queued ahead
    have empty : s.commandQueue = [] := inv.queued.resolve_right (not_le.2 left)
    rw [enqueueCommand_of_pos opcode left]
    refine ⟨.inl empty,?_,inv.answered⟩
    have issued := inv.issued
    simp only [empty,List.append_nil,List.map_append] at issued ⊢
    rw [List.range_succ,← issued,List.append_assoc]
    rfl
  · rw [enqueueCommand_of_nonpos opcode left]
    refine ⟨.inr (not_lt.1 left),?_,inv.answered⟩
    rw [List.range_succ,← inv.issued]
    simp only [List.map_append,List.map_cons,List.map_nil,List.append_assoc]

theorem eventCommandReady_flowInv (inv : FlowInv s) : FlowInv (eventCommandReady s) := by
  cases posted : s.posted with
  | nil => rwa [eventCommandReady_nil posted]
  | cons waitEntry rest =>
    rw [eventCommandReady_cons posted]
    refine ⟨inv.queued,?_,?_⟩
    · simpa [posted] using inv.issued
    · -- the handed-over entry joins the pending list and the sent list together
      have moved : List.Perm (s.commandsPendingResponse ++ [waitEntry] ++ s.freed)
          (s.commandsPendingResponse ++ s.freed ++ [waitEntry]) := by
        rw [List.append_assoc,List.append_assoc]
        exact List.perm_append_comm.append_left _
      exact moved.trans (inv.answered.append_right _)

theorem answerCommand_flowInv (inv : FlowInv s) (opcode : UInt16) : FlowInv (answerCommand s opcode) := by
  obtain ⟨credits,queue,posted,sent,nextId⟩ := answerCommand_frame s opcode
  refine ⟨?_,?_,?_⟩
  · rw [credits,queue]
    exact inv.queued
  · rw [queue,posted,sent,nextId]
    exact inv.issued
  · rw [sent]
    exact (answerCommand_perm s opcode).trans inv.answered

theorem processCommandCredits_flowInv (inv : FlowInv s) (credits : Int) : FlowInv (processCommandCredits s credits) := by
  refine ⟨postQueued_done _ _ _,?_,inv.answered⟩
  simp only [processCommandCredits,List.append_assoc,postQueued_order]
  simpa only [List.append_assoc] using inv.issued

theorem filterIncomingEvent_flowInv (inv : FlowInv s) (event : CommandEvent) : FlowInv (filterIncomingEvent s event) := by
  cases event with
  | commandComplete credits opcode =>
    exact processCommandCredits_flowInv (answerCommand_flowInv inv opcode) _
  | commandStatus length status credits opcode =>
    simp only [filterIncomingEvent]
    split_ifs
    · exact inv
    · exact processCommandCredits_flowInv (answerCommand_flowInv inv opcode) _

theorem flowStep_flowInv {s' : CommandFlow} (inv : FlowInv s) {step : FlowStep} (stepped : flowStep s step = some s') :
    FlowInv s' := by
  cases step with
  | enqueue opcode =>
    cases stepped
    exact enqueueCommand_flowInv inv opcode
  | ready =>
    cases stepped
    exact eventCommandReady_flowInv inv
  | event event =>
    cases stepped
    exact filterIncomingEvent_flowInv inv event

theorem flowInv_reachable (reached : Machine.Reachable flowStep commandFlowInit s) : FlowInv s :=
  Machine.Reachable.invariant flowInv_init (fun _ _ _ inv stepped => flowStep_flowInv inv stepped) reached

theorem sent_prefix_issued (reached : Machine.Reachable flowStep commandFlowInit s) :
    s.sent.map WaitingCommand.id <+: List.range s.nextId := by
  rw [← (flowInv_reachable reached).issued,List.append_assoc,List.map_append]
  exact List.prefix_append _ _

theorem freed_nodup (reached : Machine.Reachable flowStep commandFlowInit s) : s.freed.Nodup ∧ s.freed ⊆ s.sent := by
  have inv := flowInv_reachable reached
  have sentNodup : s.sent.Nodup := by
    have issued : (s.sent.map WaitingCommand.id).Nodup :=
      (sent_prefix_issued reached).sublist.nodup List.nodup_range
    exact issued.of_map _
  have split := inv.answered.nodup_iff.2 sentNodup
  refine ⟨(List.nodup_append.1 split).2.1,fun waitEntry freed => ?_⟩
  exact inv.answered.subset (List.mem_append_right _ freed)

theorem freed_nodup_sample :
    Machine.Reachable flowStep commandFlowInit
        (filterIncomingEvent (eventCommandReady (enqueueCommand commandFlowInit 0x0C03)) (.commandComplete 1 0x0C03)) ∧
      (filterIncomingEvent (eventCommandReady (enqueueCommand commandFlowInit 0x0C03)) (.commandComplete 1 0x0C03)).freed.Nodup ∧
      (filterIncomingEvent (eventCommandReady (enqueueCommand commandFlowInit 0x0C03)) (.commandComplete 1 0x0C03)).freed ⊆
        (filterIncomingEvent (eventCommandReady (enqueueCommand commandFlowInit 0x0C03)) (.commandComplete 1 0x0C03)).sent :=
  have reached : Machine.Reachable flowStep commandFlowInit
      (filterIncomingEvent (eventCommandReady (enqueueCommand commandFlowInit 0x0C03)) (.commandComplete 1 0x0C03)) :=
    .step (.event (.commandComplete 1 0x0C03)) (.step .ready (.step (.enqueue 0x0C03) .init rfl) rfl) rfl
  ⟨reached,freed_nodup reached⟩

end Invariant

end BluetoothStack.Hci
