import Mathlib
import BluetoothStack.Lib.SortedInsert
import BluetoothStack.Lib.Machine

namespace BluetoothStack.Osi

open SortedInsert

-- period_ms_t is a uint64_t, and the alarms list is ordered by its value.
instance uint64LinearOrder : LinearOrder UInt64 where
  le_refl := UInt64.le_refl
  le_trans _ _ _ := UInt64.le_trans
  le_antisymm _ _ := UInt64.le_antisymm
  le_total := UInt64.le_total
  lt_iff_le_not_ge a b := by
    rw [UInt64.lt_iff_toNat_lt,UInt64.le_iff_toNat_le,UInt64.le_iff_toNat_le]
    omega
  toDecidableLE := inferInstance

-- alarm->queue: default_callback_queue, which alarm_set passes, or NULL, which
-- alarm_set_on_mloop passes. alarm.cc registers no other processing queue.
inductive FixedQueueRef where
  | null
  | defaultCallbackQueue
  deriving DecidableEq, Repr

-- alarm_t less its name, statistics and callback_mutex. closure stands for the
-- CancelableClosure: the id of the callback it holds, none once cancelled.
structure AlarmT (κ δ : Type) where
  creationTime : UInt64
  period : UInt64
  deadline : UInt64
  prevDeadline : UInt64
  isPeriodic : Bool
  queue : FixedQueueRef
  callback : Option κ
  data : Option δ
  forMsgLoop : Bool
  closure : Option Nat

-- osi_calloc leaves every other field zero.
def alarmNewInternal {κ δ : Type} (isPeriodic : Bool) : AlarmT κ δ :=
  ⟨0,0,0,0,isPeriodic,.null,none,none,false,none⟩

-- What the dispatcher and schedule_next_instance write of an alarm is its
-- deadlines and its closure; every other field stays.
structure AlarmT.Retimed {κ δ : Type} (t t' : AlarmT κ δ) : Prop where
  creationTime : t'.creationTime = t.creationTime
  period : t'.period = t.period
  isPeriodic : t'.isPeriodic = t.isPeriodic
  queue : t'.queue = t.queue
  callback : t'.callback = t.callback
  data : t'.data = t.data
  forMsgLoop : t'.forMsgLoop = t.forMsgLoop

theorem AlarmT.Retimed.refl {κ δ : Type} (t : AlarmT κ δ) : t.Retimed t := ⟨rfl,rfl,rfl,rfl,rfl,rfl,rfl⟩

theorem AlarmT.Retimed.trans {κ δ : Type} {t t' t'' : AlarmT κ δ} (first : t.Retimed t') (second : t'.Retimed t'') :
    t.Retimed t'' :=
  ⟨second.creationTime.trans first.creationTime,second.period.trans first.period,
    second.isPeriodic.trans first.isPeriodic,second.queue.trans first.queue,second.callback.trans first.callback,
    second.data.trans first.data,second.forMsgLoop.trans first.forMsgLoop⟩

theorem AlarmT.retimed_timing {κ δ : Type} (t : AlarmT κ δ) (deadline prevDeadline : UInt64) (closure : Option Nat) :
    t.Retimed { t with deadline := deadline, prevDeadline := prevDeadline, closure := closure } :=
  ⟨rfl,rfl,rfl,rfl,rfl,rfl,rfl⟩

-- The globals alarms_mutex guards; each posted task is an alarm's
-- alarm_ready_mloop behind the closure id it was posted through.
structure AlarmState (α κ δ : Type) where
  alarms : List α
  alarm : α → AlarmT κ δ
  callbackQueue : List α
  messageLoop : List (α × Nat)
  nextClosure : Nat

-- Every alarm as alarm_new or alarm_new_periodic returned it.
def alarmInit {α κ δ : Type} (isPeriodic : α → Bool) : AlarmState α κ δ :=
  ⟨[],fun a => alarmNewInternal (isPeriodic a),[],[],0⟩

-- callback(data) as alarm_ready_generic makes it, with the alarm it serves.
structure Invocation (α κ δ : Type) where
  alarm : α
  callback : Option κ
  data : Option δ
  deriving DecidableEq, Repr

-- The calls alarm.cc takes under alarms_mutex. The clock reads of one call
-- are all now.
inductive AlarmEvent (α κ δ : Type) where
  | alarmSet (alarm : α) (intervalMs : UInt64) (cb : κ) (data : Option δ) (now : UInt64)
  | alarmSetOnMloop (alarm : α) (intervalMs : UInt64) (cb : κ) (data : Option δ) (now : UInt64)
  | alarmCancel (alarm : α)
  | callbackDispatch (now : UInt64)
  | alarmQueueReady
  | messageLoopTask

variable {α κ δ : Type} [DecidableEq α]

namespace AlarmState

def set (s : AlarmState α κ δ) (a : α) (t : AlarmT κ δ) : AlarmState α κ δ :=
  { s with alarm := Function.update s.alarm a t }

variable {s : AlarmState α κ δ} {a b : α} {t : AlarmT κ δ}

@[simp] theorem set_alarm_self : (s.set a t).alarm a = t := by
  unfold set
  exact Function.update_self a t s.alarm

@[simp] theorem set_alarm_of_ne (other : b ≠ a) : (s.set a t).alarm b = s.alarm b := by
  unfold set
  exact Function.update_of_ne other t s.alarm

@[simp] theorem set_alarms : (s.set a t).alarms = s.alarms := rfl

@[simp] theorem set_callbackQueue : (s.set a t).callbackQueue = s.callbackQueue := rfl

@[simp] theorem set_messageLoop : (s.set a t).messageLoop = s.messageLoop := rfl

@[simp] theorem set_nextClosure : (s.set a t).nextClosure = s.nextClosure := rfl

def Retimed (s s' : AlarmState α κ δ) : Prop := ∀ b, (s.alarm b).Retimed (s'.alarm b)

omit [DecidableEq α] in
theorem Retimed.refl (s : AlarmState α κ δ) : s.Retimed s := fun b => AlarmT.Retimed.refl (s.alarm b)

omit [DecidableEq α] in
theorem Retimed.trans {s' s'' : AlarmState α κ δ} (first : s.Retimed s') (second : s'.Retimed s'') : s.Retimed s'' :=
  fun b => (first b).trans (second b)

theorem set_retimed (retimed : (s.alarm a).Retimed t) : s.Retimed (s.set a t) := by
  intro b
  by_cases self : b = a
  · subst self
    simpa using retimed
  · simpa [self] using AlarmT.Retimed.refl (s.alarm b)

end AlarmState

open AlarmState

def alarmIsScheduled (s : AlarmState α κ δ) (a : α) : Bool := (s.alarm a).callback.isSome

-- fixed_queue_try_remove_from_queue, which remove_pending_alarm repeats until
-- no instance of the alarm is left. A NULL queue holds nothing.
def removeFromQueue (queue : FixedQueueRef) (a : α) (held : List α) : List α :=
  match queue with
  | .null => held
  | .defaultCallbackQueue => held.filter (· != a)

theorem removeFromQueue_sublist (queue : FixedQueueRef) (a : α) (held : List α) :
    (removeFromQueue queue a held).Sublist held := by
  cases queue with
  | null => exact List.Sublist.refl held
  | defaultCallbackQueue => exact List.filter_sublist

theorem not_mem_removeFromQueue (a : α) (held : List α) : a ∉ removeFromQueue .defaultCallbackQueue a held := by
  simp [removeFromQueue]

-- remove_pending_alarm: the alarm leaves the list, and the place for_msg_loop
-- and queue name as they are now.
def removePendingAlarm (s : AlarmState α κ δ) (a : α) : AlarmState α κ δ :=
  if (s.alarm a).forMsgLoop then { s with alarms := s.alarms.erase a }.set a { s.alarm a with closure := none }
  else { s with alarms := s.alarms.erase a, callbackQueue := removeFromQueue (s.alarm a).queue a s.callbackQueue }

section RemovePending

variable {s : AlarmState α κ δ} {a b : α}

@[simp] theorem removePendingAlarm_alarms : (removePendingAlarm s a).alarms = s.alarms.erase a := by
  unfold removePendingAlarm
  split <;> rfl

@[simp] theorem removePendingAlarm_messageLoop : (removePendingAlarm s a).messageLoop = s.messageLoop := by
  unfold removePendingAlarm
  split <;> rfl

@[simp] theorem removePendingAlarm_nextClosure : (removePendingAlarm s a).nextClosure = s.nextClosure := by
  unfold removePendingAlarm
  split <;> rfl

theorem removePendingAlarm_callbackQueue : (removePendingAlarm s a).callbackQueue =
    if (s.alarm a).forMsgLoop then s.callbackQueue else removeFromQueue (s.alarm a).queue a s.callbackQueue := by
  unfold removePendingAlarm
  split <;> rfl

@[simp] theorem removePendingAlarm_alarm_self : (removePendingAlarm s a).alarm a =
    { s.alarm a with closure := if (s.alarm a).forMsgLoop then none else (s.alarm a).closure } := by
  unfold removePendingAlarm
  split
  · case isTrue msgLoop => simp [msgLoop]
  · rfl

@[simp] theorem removePendingAlarm_alarm_of_ne (other : b ≠ a) : (removePendingAlarm s a).alarm b = s.alarm b := by
  unfold removePendingAlarm
  split <;> simp [other]

theorem removePendingAlarm_retimed : s.Retimed (removePendingAlarm s a) := by
  intro b
  by_cases self : b = a
  · subst self
    rw [removePendingAlarm_alarm_self]
    exact AlarmT.retimed_timing _ _ _ _
  · rw [removePendingAlarm_alarm_of_ne self]
    exact AlarmT.Retimed.refl _

end RemovePending

-- The deadline schedule_next_instance computes at just_now: a periodic alarm
-- keeps to the phase of its creation time.
def nextDeadline (t : AlarmT κ δ) (justNow : UInt64) : UInt64 :=
  let msIntoPeriod := if t.isPeriodic && t.period != 0 then (justNow - t.creationTime) % t.period else 0
  justNow + (t.period - msIntoPeriod)

-- list_prepend when the list is empty or its front is later, else
-- list_insert_after the first node whose next one is later or the end.
def insertAlarm (s : AlarmState α κ δ) (a : α) : AlarmState α κ δ :=
  { s with alarms := insertBy (fun b => (s.alarm b).deadline) (s.alarm a).deadline a s.alarms }

section Insert

variable {s : AlarmState α κ δ} {a : α}

omit [DecidableEq α] in
@[simp] theorem insertAlarm_alarm : (insertAlarm s a).alarm = s.alarm := rfl

omit [DecidableEq α] in
@[simp] theorem insertAlarm_callbackQueue : (insertAlarm s a).callbackQueue = s.callbackQueue := rfl

omit [DecidableEq α] in
@[simp] theorem insertAlarm_messageLoop : (insertAlarm s a).messageLoop = s.messageLoop := rfl

omit [DecidableEq α] in
@[simp] theorem insertAlarm_nextClosure : (insertAlarm s a).nextClosure = s.nextClosure := rfl

end Insert

-- schedule_next_instance; reschedule_root_alarm only arms the timers.
def scheduleNextInstance (s : AlarmState α κ δ) (a : α) (justNow : UInt64) : AlarmState α κ δ :=
  let pending := if (s.alarm a).callback.isSome then removePendingAlarm s a else s
  insertAlarm (pending.set a { pending.alarm a with deadline := nextDeadline (pending.alarm a) justNow }) a

section Schedule

variable {s : AlarmState α κ δ} {a b : α} {justNow : UInt64}

theorem scheduleNextInstance_of_scheduled (scheduled : (s.alarm a).callback.isSome) :
    scheduleNextInstance s a justNow = insertAlarm ((removePendingAlarm s a).set a
      { (removePendingAlarm s a).alarm a with deadline := nextDeadline ((removePendingAlarm s a).alarm a) justNow }) a := by
  simp only [scheduleNextInstance,scheduled,if_true]

theorem scheduleNextInstance_alarm_of_ne (other : b ≠ a) : (scheduleNextInstance s a justNow).alarm b = s.alarm b := by
  unfold scheduleNextInstance
  split <;> simp [other]

theorem scheduleNextInstance_retimed : s.Retimed (scheduleNextInstance s a justNow) := by
  unfold scheduleNextInstance
  have pending : s.Retimed (if (s.alarm a).callback.isSome then removePendingAlarm s a else s) := by
    split
    · exact removePendingAlarm_retimed
    · exact Retimed.refl s
  exact pending.trans (set_retimed (AlarmT.retimed_timing _ _ _ _))

@[simp] theorem scheduleNextInstance_messageLoop : (scheduleNextInstance s a justNow).messageLoop = s.messageLoop := by
  unfold scheduleNextInstance
  split <;> simp

@[simp] theorem scheduleNextInstance_nextClosure : (scheduleNextInstance s a justNow).nextClosure = s.nextClosure := by
  unfold scheduleNextInstance
  split <;> simp

end Schedule

-- alarm_set_internal: the fields are written before schedule_next_instance
-- removes the pending instance.
def alarmSetInternal (s : AlarmState α κ δ) (a : α) (period : UInt64) (cb : κ) (data : Option δ)
    (queue : FixedQueueRef) (forMsgLoop : Bool) (now : UInt64) : AlarmState α κ δ :=
  scheduleNextInstance (s.set a { s.alarm a with
    creationTime := now, period := period, queue := queue, callback := some cb, data := data,
    forMsgLoop := forMsgLoop }) a now

section SetInternal

variable {s : AlarmState α κ δ} {a b : α} {period : UInt64} {cb : κ} {data : Option δ} {queue : FixedQueueRef}
  {forMsgLoop : Bool} {now : UInt64}

theorem alarmSetInternal_alarm_of_ne (other : b ≠ a) :
    (alarmSetInternal s a period cb data queue forMsgLoop now).alarm b = s.alarm b := by
  rw [alarmSetInternal,scheduleNextInstance_alarm_of_ne other,set_alarm_of_ne other]

theorem alarmSetInternal_alarm_self : ({ s.alarm a with
      creationTime := now, period := period, queue := queue, callback := some cb, data := data,
      forMsgLoop := forMsgLoop } : AlarmT κ δ).Retimed ((alarmSetInternal s a period cb data queue forMsgLoop now).alarm a) := by
  have retimed : (s.set a { s.alarm a with
      creationTime := now, period := period, queue := queue, callback := some cb, data := data,
      forMsgLoop := forMsgLoop }).Retimed (alarmSetInternal s a period cb data queue forMsgLoop now) :=
    scheduleNextInstance_retimed
  simpa using retimed a

end SetInternal

def alarmSet (s : AlarmState α κ δ) (a : α) (intervalMs : UInt64) (cb : κ) (data : Option δ) (now : UInt64) :
    AlarmState α κ δ :=
  alarmSetInternal s a intervalMs cb data .defaultCallbackQueue false now

def alarmSetOnMloop (s : AlarmState α κ δ) (a : α) (intervalMs : UInt64) (cb : κ) (data : Option δ) (now : UInt64) :
    AlarmState α κ δ :=
  alarmSetInternal s a intervalMs cb data .null true now

-- for_msg_loop is left as it is.
def alarmCancelInternal (s : AlarmState α κ δ) (a : α) : AlarmState α κ δ × Option δ :=
  let removed := removePendingAlarm s a
  (removed.set a { removed.alarm a with deadline := 0, prevDeadline := 0, callback := none, data := none, queue := .null },
    (removed.alarm a).data)

-- alarm_cancel: run serially, no callback is in progress to wait for.
def alarmCancel (s : AlarmState α κ δ) (a : α) : AlarmState α κ δ × Option δ := alarmCancelInternal s a

theorem alarmCancel_alarm_of_ne {s : AlarmState α κ δ} {a b : α} (other : b ≠ a) :
    (alarmCancel s a).1.alarm b = s.alarm b := by
  simp [alarmCancel,alarmCancelInternal,other]

-- alarm_ready_generic: a NULL alarm was probably cancelled. A one-shot alarm is
-- fully serviced and reset before its callback is called.
def alarmReadyGeneric (s : AlarmState α κ δ) : Option α → AlarmState α κ δ × Option (Invocation α κ δ)
  | none => (s,none)
  | some a =>
    let t := s.alarm a
    (if t.isPeriodic then s else s.set a { t with deadline := 0, callback := none, data := none, queue := .null },
      some ⟨a,t.callback,t.data⟩)

def alarmReadyMloop (s : AlarmState α κ δ) (a : α) : AlarmState α κ δ × Option (Invocation α κ δ) :=
  alarmReadyGeneric s (some a)

section Ready

variable {s : AlarmState α κ δ} {a b : α}

theorem alarmReadyGeneric_call : (alarmReadyGeneric s (some a)).2 = some ⟨a,(s.alarm a).callback,(s.alarm a).data⟩ :=
  rfl

theorem alarmReadyGeneric_alarm_of_ne (other : b ≠ a) : (alarmReadyGeneric s (some a)).1.alarm b = s.alarm b := by
  simp only [alarmReadyGeneric]
  split <;> simp [other]

theorem alarmReadyGeneric_periodic (periodic : (s.alarm a).isPeriodic) : (alarmReadyGeneric s (some a)).1 = s := by
  simp [alarmReadyGeneric,periodic]

theorem alarmReadyGeneric_once (once : (s.alarm a).isPeriodic = false) : (alarmReadyGeneric s (some a)).1 =
    s.set a { s.alarm a with deadline := 0, callback := none, data := none, queue := .null } := by
  simp [alarmReadyGeneric,once]

end Ready

def alarmQueueReady (s : AlarmState α κ δ) : AlarmState α κ δ × Option (Invocation α κ δ) :=
  match s.callbackQueue with
  | [] => alarmReadyGeneric s none
  | a :: rest => alarmReadyGeneric { s with callbackQueue := rest } (some a)

theorem alarmQueueReady_nil {s : AlarmState α κ δ} (empty : s.callbackQueue = []) : alarmQueueReady s = (s,none) := by
  unfold alarmQueueReady
  rw [empty]
  rfl

theorem alarmQueueReady_cons {s : AlarmState α κ δ} {a : α} {rest : List α} (front : s.callbackQueue = a :: rest) :
    alarmQueueReady s = alarmReadyGeneric { s with callbackQueue := rest } (some a) := by
  unfold alarmQueueReady
  rw [front]

-- The message loop runs its first task. One posted through a closure that was
-- reset or cancelled since runs nothing.
def runMessageLoopTask (s : AlarmState α κ δ) : AlarmState α κ δ × Option (Invocation α κ δ) :=
  match s.messageLoop with
  | [] => (s,none)
  | (a,id) :: rest =>
    if (s.alarm a).closure = some id then alarmReadyMloop { s with messageLoop := rest } a
    else ({ s with messageLoop := rest },none)

section Loop

variable {s : AlarmState α κ δ} {a : α} {id : Nat} {rest : List (α × Nat)}

theorem runMessageLoopTask_nil (empty : s.messageLoop = []) : runMessageLoopTask s = (s,none) := by
  unfold runMessageLoopTask
  rw [empty]

theorem runMessageLoopTask_live (front : s.messageLoop = (a,id) :: rest) (live : (s.alarm a).closure = some id) :
    runMessageLoopTask s = alarmReadyMloop { s with messageLoop := rest } a := by
  unfold runMessageLoopTask
  rw [front]
  exact if_pos live

theorem runMessageLoopTask_dead (front : s.messageLoop = (a,id) :: rest) (dead : (s.alarm a).closure ≠ some id) :
    runMessageLoopTask s = ({ s with messageLoop := rest },none) := by
  unfold runMessageLoopTask
  rw [front]
  exact if_neg dead

end Loop

-- fixed_queue_enqueue: CHECK(queue != NULL) aborts on a NULL queue.
def fixedQueueEnqueue (queue : FixedQueueRef) (a : α) (held : List α) : Option (List α) :=
  match queue with
  | .null => none
  | .defaultCallbackQueue => some (held ++ [a])

-- closure.i.Reset(Bind(alarm_ready_mloop, alarm)) and PostTask of its callback.
def postClosure (s : AlarmState α κ δ) (a : α) : AlarmState α κ δ :=
  { s.set a { s.alarm a with closure := some s.nextClosure } with
    messageLoop := s.messageLoop ++ [(a,s.nextClosure)], nextClosure := s.nextClosure + 1 }

@[simp] theorem postClosure_alarm_self {s : AlarmState α κ δ} {a : α} :
    (postClosure s a).alarm a = { s.alarm a with closure := some s.nextClosure } :=
  set_alarm_self

theorem postClosure_retimed {s : AlarmState α κ δ} {a : α} : s.Retimed (postClosure s a) :=
  set_retimed (AlarmT.retimed_timing _ _ _ _)

-- callback_dispatch schedules a periodic alarm it takes off the list again.
def reschedulePeriodic (s : AlarmState α κ δ) (a : α) (now : UInt64) : AlarmState α κ δ :=
  if (s.alarm a).isPeriodic then
    scheduleNextInstance (s.set a { s.alarm a with prevDeadline := (s.alarm a).deadline }) a now
  else s

theorem reschedulePeriodic_retimed {s : AlarmState α κ δ} {a : α} {now : UInt64} :
    s.Retimed (reschedulePeriodic s a now) := by
  unfold reschedulePeriodic
  split
  · exact (set_retimed (AlarmT.retimed_timing _ _ _ _)).trans scheduleNextInstance_retimed
  · exact Retimed.refl s

-- Enqueue the alarm for processing; the message loop is taken to be running.
def enqueueForProcessing (s : AlarmState α κ δ) (a : α) : Option (AlarmState α κ δ) :=
  if (s.alarm a).forMsgLoop then some (postClosure s a)
  else (fixedQueueEnqueue (s.alarm a).queue a s.callbackQueue).map fun held => { s with callbackQueue := held }

section Enqueue

variable {s s' : AlarmState α κ δ} {a : α}

theorem enqueueForProcessing_msgLoop (msgLoop : (s.alarm a).forMsgLoop) : enqueueForProcessing s a = some (postClosure s a) :=
  if_pos msgLoop

theorem enqueueForProcessing_queue (queued : (s.alarm a).forMsgLoop = false)
    (toDefault : (s.alarm a).queue = .defaultCallbackQueue) :
    enqueueForProcessing s a = some { s with callbackQueue := s.callbackQueue ++ [a] } := by
  simp [enqueueForProcessing,queued,toDefault,fixedQueueEnqueue]

theorem enqueueForProcessing_retimed (handed : enqueueForProcessing s a = some s') : s.Retimed s' := by
  unfold enqueueForProcessing at handed
  split at handed
  · cases handed
    exact postClosure_retimed
  · obtain ⟨held,_,rfl⟩ := Option.map_eq_some_iff.mp handed
    exact Retimed.refl s

end Enqueue

def dispatchAlarm (s : AlarmState α κ δ) (a : α) (now : UInt64) : Option (AlarmState α κ δ) :=
  enqueueForProcessing (reschedulePeriodic { s with alarms := s.alarms.erase a } a now) a

theorem dispatchAlarm_retimed {s s' : AlarmState α κ δ} {a : α} {now : UInt64} (handed : dispatchAlarm s a now = some s') :
    s.Retimed s' :=
  (reschedulePeriodic_retimed (s := { s with alarms := s.alarms.erase a })).trans (enqueueForProcessing_retimed handed)

-- One iteration of the loop of callback_dispatch once alarm_expired is posted,
-- with now() = now.
def callbackDispatch (s : AlarmState α κ δ) (now : UInt64) : Option (AlarmState α κ δ) :=
  match s.alarms with
  | [] => some s
  | a :: _ => if (s.alarm a).deadline > now then some s else dispatchAlarm s a now

section Dispatch

variable {s s' : AlarmState α κ δ} {a : α} {rest : List α} {now : UInt64}

theorem callbackDispatch_nil (empty : s.alarms = []) : callbackDispatch s now = some s := by
  unfold callbackDispatch
  rw [empty]

theorem callbackDispatch_later (front : s.alarms = a :: rest) (later : now < (s.alarm a).deadline) :
    callbackDispatch s now = some s := by
  unfold callbackDispatch
  rw [front]
  exact if_pos later

theorem callbackDispatch_due (front : s.alarms = a :: rest) (due : (s.alarm a).deadline ≤ now) :
    callbackDispatch s now = dispatchAlarm s a now := by
  unfold callbackDispatch
  rw [front]
  exact if_neg (not_lt.mpr due)

theorem callbackDispatch_retimed (dispatched : callbackDispatch s now = some s') : s.Retimed s' := by
  cases front : s.alarms with
  | nil =>
    rw [callbackDispatch_nil front] at dispatched
    cases dispatched
    exact Retimed.refl s
  | cons a rest =>
    by_cases later : now < (s.alarm a).deadline
    · rw [callbackDispatch_later front later] at dispatched
      cases dispatched
      exact Retimed.refl s
    · rw [callbackDispatch_due front (not_lt.mp later)] at dispatched
      exact dispatchAlarm_retimed dispatched

end Dispatch

def alarmStep (s : AlarmState α κ δ) : AlarmEvent α κ δ → Option (AlarmState α κ δ × Option (Invocation α κ δ))
  | .alarmSet a intervalMs cb data now => some (alarmSet s a intervalMs cb data now,none)
  | .alarmSetOnMloop a intervalMs cb data now => some (alarmSetOnMloop s a intervalMs cb data now,none)
  | .alarmCancel a => some ((alarmCancel s a).1,none)
  | .callbackDispatch now => (callbackDispatch s now).map (·,none)
  | .alarmQueueReady => some (alarmQueueReady s)
  | .messageLoopTask => some (runMessageLoopTask s)

end BluetoothStack.Osi
