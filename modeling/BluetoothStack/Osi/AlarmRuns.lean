import Mathlib
import BluetoothStack.Osi.Alarm

namespace BluetoothStack.Osi

open SortedInsert AlarmState

variable {α κ δ : Type} [DecidableEq α]

def modeQueue (forMsgLoop : Bool) : FixedQueueRef := if forMsgLoop then .null else .defaultCallbackQueue

-- Every alarm_set* of an alarm is of the kind mode gives it:
-- alarm_set_on_mloop for true, alarm_set for false.
def AlarmEvent.KeepsMode (mode : α → Bool) : AlarmEvent α κ δ → Prop
  | .alarmSet a .. => mode a = false
  | .alarmSetOnMloop a .. => mode a = true
  | _ => True

-- A task of the message loop that runs alarm_ready_mloop: it was posted
-- through the alarm's current closure.
def Live (s : AlarmState α κ δ) (p : α × Nat) : Prop := (s.alarm p.1).closure = some p.2

-- An alarm that neither the dispatcher nor a processing thread can take.
structure Idle (s : AlarmState α κ δ) (a : α) : Prop where
  unlisted : a ∉ s.alarms
  unqueued : a ∉ s.callbackQueue
  unposted : ∀ p ∈ s.messageLoop, p.1 = a → ¬Live s p

-- An alarm only the dispatcher can take: listed and nowhere else.
structure OnlyListed (s : AlarmState α κ δ) (a : α) : Prop where
  listed : a ∈ s.alarms
  unqueued : a ∉ s.callbackQueue
  unposted : ∀ p ∈ s.messageLoop, p.1 = a → ¬Live s p

-- While every alarm keeps to one kind of set: the list is sorted, holds each
-- scheduled alarm once, and a one-shot alarm is never both handed over and listed.
structure AlarmInv (mode : α → Bool) (s : AlarmState α κ δ) : Prop where
  nodup : s.alarms.Nodup
  sorted : s.alarms.Pairwise fun a b => (s.alarm a).deadline ≤ (s.alarm b).deadline
  listed : ∀ a ∈ s.alarms, alarmIsScheduled s a
  queued : ∀ a ∈ s.callbackQueue, alarmIsScheduled s a ∧ mode a = false ∧ ((s.alarm a).isPeriodic = false → a ∉ s.alarms)
  queueNodup : s.callbackQueue.Nodup
  posted : ∀ p ∈ s.messageLoop, mode p.1 = true ∧ p.2 < s.nextClosure ∧
    (Live s p → alarmIsScheduled s p.1 ∧ ((s.alarm p.1).isPeriodic = false → p.1 ∉ s.alarms))
  postedNodup : (s.messageLoop.map Prod.snd).Nodup
  settled : ∀ a, alarmIsScheduled s a → (s.alarm a).forMsgLoop = mode a ∧ (s.alarm a).queue = modeQueue (mode a)

section Invariant

variable {mode : α → Bool} {s : AlarmState α κ δ} {a : α}

omit [DecidableEq α] in
theorem alarmInit_inv (isPeriodic : α → Bool) : AlarmInv mode (alarmInit isPeriodic : AlarmState α κ δ) where
  nodup := List.nodup_nil
  sorted := List.Pairwise.nil
  listed _ held := absurd held List.not_mem_nil
  queued _ held := absurd held List.not_mem_nil
  queueNodup := List.nodup_nil
  posted _ held := absurd held List.not_mem_nil
  postedNodup := List.nodup_nil
  settled _ scheduled := by simp [alarmIsScheduled,alarmInit,alarmNewInternal] at scheduled

omit [DecidableEq α] in
theorem AlarmInv.idle (inv : AlarmInv mode s) (unscheduled : alarmIsScheduled s a = false) : Idle s a where
  unlisted held := Bool.eq_false_iff.mp unscheduled (inv.listed a held)
  unqueued held := Bool.eq_false_iff.mp unscheduled (inv.queued a held).1
  unposted p held owner live := by
    subst owner
    exact Bool.eq_false_iff.mp unscheduled ((inv.posted p held).2.2 live).1

omit [DecidableEq α] in
theorem AlarmInv.shrink (inv : AlarmInv mode s) {s' : AlarmState α κ δ} (same : s'.alarm = s.alarm)
    (alarms : s'.alarms.Sublist s.alarms) (queue : s'.callbackQueue.Sublist s.callbackQueue)
    (loop : s'.messageLoop.Sublist s.messageLoop) (closures : s'.nextClosure = s.nextClosure) : AlarmInv mode s' := by
  obtain ⟨alarms',alarm',queue',loop',next'⟩ := s'
  dsimp only at same alarms queue loop closures
  subst same closures
  have unlisted : ∀ {b}, b ∉ s.alarms → b ∉ alarms' := fun absent held => absent (alarms.subset held)
  refine ⟨inv.nodup.sublist alarms,inv.sorted.sublist alarms,fun b held => inv.listed b (alarms.subset held),?_,
    inv.queueNodup.sublist queue,?_,inv.postedNodup.sublist (loop.map _),inv.settled⟩
  · intro b held
    obtain ⟨scheduled,kind,once⟩ := inv.queued b (queue.subset held)
    exact ⟨scheduled,kind,fun notPeriodic => unlisted (once notPeriodic)⟩
  · intro p held
    obtain ⟨kind,fresh,live⟩ := inv.posted p (loop.subset held)
    exact ⟨kind,fresh,fun running => ⟨(live running).1,fun notPeriodic => unlisted ((live running).2 notPeriodic)⟩⟩

theorem AlarmInv.erase (inv : AlarmInv mode s) (a : α) : AlarmInv mode { s with alarms := s.alarms.erase a } :=
  inv.shrink rfl List.erase_sublist (List.Sublist.refl _) (List.Sublist.refl _) rfl

theorem AlarmInv.set (inv : AlarmInv mode s) {t : AlarmT κ δ}
    (deadline : a ∈ s.alarms → t.deadline = (s.alarm a).deadline)
    (periodic : t.isPeriodic = (s.alarm a).isPeriodic)
    (live : ∀ p ∈ s.messageLoop, p.1 = a → t.closure = some p.2 → (s.alarm a).closure = some p.2)
    (scheduled : t.callback.isSome ∨ Idle s a)
    (settled : t.callback.isSome → t.forMsgLoop = mode a ∧ t.queue = modeQueue (mode a)) :
    AlarmInv mode (s.set a t) := by
  -- a stays scheduled wherever it was: listed, queued or behind a live task
  have kept : ∀ b, alarmIsScheduled s b → (b = a → ¬Idle s a) → alarmIsScheduled (s.set a t) b := by
    intro b was notIdle
    by_cases self : b = a
    · subst self
      rcases scheduled with some | idle
      · simpa [alarmIsScheduled] using some
      · exact absurd idle (notIdle rfl)
    · simpa [alarmIsScheduled,self] using was
  constructor
  · exact inv.nodup
  · apply sorted_congr _ inv.sorted
    intro b held
    by_cases self : b = a
    · subst self
      simp [deadline held]
    · simp [self]
  · intro b held
    exact kept b (inv.listed b held) fun self idle => idle.unlisted (self ▸ held)
  · intro b held
    obtain ⟨was,kind,once⟩ := inv.queued b held
    refine ⟨kept b was fun self idle => idle.unqueued (self ▸ held),kind,?_⟩
    by_cases self : b = a
    · subst self
      simpa [periodic] using once
    · simpa [self] using once
  · exact inv.queueNodup
  · intro p held
    obtain ⟨kind,fresh,wasLive⟩ := inv.posted p held
    refine ⟨kind,fresh,fun running => ?_⟩
    by_cases self : p.1 = a
    · have before : Live s p := by
        unfold Live at running ⊢
        rw [self] at running ⊢
        simp only [set_alarm_self] at running
        exact live p held self running
      obtain ⟨was,once⟩ := wasLive before
      refine ⟨kept p.1 was fun _ idle => idle.unposted p held self before,?_⟩
      rw [self] at once ⊢
      simpa [periodic] using once
    · have before : Live s p := by simpa [Live,self] using running
      obtain ⟨was,once⟩ := wasLive before
      exact ⟨kept p.1 was fun same => absurd same self,by simpa [self] using once⟩
  · exact inv.postedNodup
  · intro b now
    by_cases self : b = a
    · subst self
      simpa using settled (by simpa [alarmIsScheduled] using now)
    · simpa [self] using inv.settled b (by simpa [alarmIsScheduled,self] using now)

theorem Idle.set (idle : Idle s a) {t : AlarmT κ δ} (closure : t.closure = (s.alarm a).closure) : Idle (s.set a t) a where
  unlisted := idle.unlisted
  unqueued := idle.unqueued
  unposted p held owner running := by
    apply idle.unposted p held owner
    unfold Live at running ⊢
    rw [owner] at running ⊢
    simpa [closure] using running

theorem removePendingAlarm_inv (inv : AlarmInv mode s) (a : α) :
    AlarmInv mode (removePendingAlarm s a) ∧ Idle (removePendingAlarm s a) a := by
  have gone : a ∉ (removePendingAlarm s a).alarms := by
    rw [removePendingAlarm_alarms]
    exact inv.nodup.not_mem_erase
  by_cases msgLoop : (s.alarm a).forMsgLoop
  · -- the closure is cancelled; a scheduled alarm has no place on the queue
    have shape : removePendingAlarm s a = { s with alarms := s.alarms.erase a }.set a { s.alarm a with closure := none } :=
      if_pos msgLoop
    have unqueued : a ∉ s.callbackQueue := by
      intro held
      obtain ⟨scheduled,kind,_⟩ := inv.queued a held
      exact Bool.false_ne_true (kind.symm.trans ((inv.settled a scheduled).1.symm.trans msgLoop))
    have unposted : ∀ p ∈ (removePendingAlarm s a).messageLoop, p.1 = a → ¬Live (removePendingAlarm s a) p := by
      intro p _ owner running
      unfold Live at running
      rw [shape,owner] at running
      simp at running
    refine ⟨?_,⟨gone,by simpa [shape] using unqueued,unposted⟩⟩
    rw [shape]
    apply (inv.erase a).set (t := { s.alarm a with closure := none }) (fun _ => rfl) rfl
      (fun _ _ _ cancelled => by simp at cancelled)
    · cases scheduled : alarmIsScheduled s a
      · exact .inr ((inv.erase a).idle scheduled)
      · exact .inl scheduled
    · intro scheduled
      exact inv.settled a scheduled
  · -- every instance leaves the queue; a scheduled alarm has no task posted
    have shape : removePendingAlarm s a =
        { s with alarms := s.alarms.erase a, callbackQueue := removeFromQueue (s.alarm a).queue a s.callbackQueue } :=
      if_neg msgLoop
    have unqueued : a ∉ removeFromQueue (s.alarm a).queue a s.callbackQueue := by
      cases scheduled : alarmIsScheduled s a
      · exact fun held => (inv.idle scheduled).unqueued ((removeFromQueue_sublist _ _ _).subset held)
      · obtain ⟨kind,toQueue⟩ := inv.settled a scheduled
        have queueMode : mode a = false := by simpa [msgLoop] using kind.symm
        rw [toQueue,queueMode]
        exact not_mem_removeFromQueue a s.callbackQueue
    have unposted : ∀ p ∈ s.messageLoop, p.1 = a → ¬Live s p := by
      intro p held owner running
      obtain ⟨kind,_,wasLive⟩ := inv.posted p held
      exact msgLoop (owner ▸ ((inv.settled p.1 (wasLive running).1).1.trans kind))
    refine ⟨?_,⟨gone,by rw [shape]; exact unqueued,by rw [shape]; exact unposted⟩⟩
    rw [shape]
    exact inv.shrink rfl List.erase_sublist (removeFromQueue_sublist _ _ _) (List.Sublist.refl _) rfl

omit [DecidableEq α] in
theorem insertAlarm_inv (inv : AlarmInv mode s) (idle : Idle s a) (scheduled : alarmIsScheduled s a) :
    AlarmInv mode (insertAlarm s a) where
  nodup := insertBy_nodup inv.nodup idle.unlisted
  sorted := insertBy_sorted inv.sorted rfl
  listed b held := by
    rcases mem_insertBy.mp held with rfl | was
    · exact scheduled
    · exact inv.listed b was
  queued b held := by
    obtain ⟨was,kind,once⟩ := inv.queued b held
    refine ⟨was,kind,fun notPeriodic listed => ?_⟩
    rcases mem_insertBy.mp listed with rfl | before
    · exact idle.unqueued held
    · exact once notPeriodic before
  queueNodup := inv.queueNodup
  posted p held := by
    obtain ⟨kind,fresh,wasLive⟩ := inv.posted p held
    refine ⟨kind,fresh,fun running => ⟨(wasLive running).1,fun notPeriodic listed => ?_⟩⟩
    rcases mem_insertBy.mp listed with self | before
    · exact idle.unposted p held self running
    · exact (wasLive running).2 notPeriodic before
  postedNodup := inv.postedNodup
  settled := inv.settled

theorem scheduleNextInstance_inv (inv : AlarmInv mode s) (scheduled : alarmIsScheduled s a) (justNow : UInt64) :
    AlarmInv mode (scheduleNextInstance s a justNow) ∧ OnlyListed (scheduleNextInstance s a justNow) a := by
  rw [scheduleNextInstance_of_scheduled scheduled]
  obtain ⟨removed,idle⟩ := removePendingAlarm_inv inv a
  have stillScheduled : ((removePendingAlarm s a).alarm a).callback.isSome := by
    simpa [alarmIsScheduled] using scheduled
  have retimed := removed.set (t := { (removePendingAlarm s a).alarm a with
      deadline := nextDeadline ((removePendingAlarm s a).alarm a) justNow })
    (fun listed => absurd listed idle.unlisted) rfl (fun _ _ _ same => same) (.inl stillScheduled)
    (fun now => removed.settled a now)
  have idleSet := idle.set (t := { (removePendingAlarm s a).alarm a with
    deadline := nextDeadline ((removePendingAlarm s a).alarm a) justNow }) rfl
  refine ⟨insertAlarm_inv retimed idleSet (by simpa [alarmIsScheduled] using stillScheduled),?_,?_,?_⟩
  · exact mem_insertBy.mpr (.inl rfl)
  · exact idleSet.unqueued
  · exact idleSet.unposted

theorem alarmSetInternal_inv (inv : AlarmInv mode s) (a : α) (period : UInt64) (cb : κ) (data : Option δ)
    (now : UInt64) :
    AlarmInv mode (alarmSetInternal s a period cb data (modeQueue (mode a)) (mode a) now) ∧
      OnlyListed (alarmSetInternal s a period cb data (modeQueue (mode a)) (mode a) now) a := by
  have written := inv.set (t := { s.alarm a with
      creationTime := now, period := period, queue := modeQueue (mode a), callback := some cb, data := data,
      forMsgLoop := mode a })
    (fun _ => rfl) rfl (fun _ _ _ same => same) (.inl rfl) (fun _ => ⟨rfl,rfl⟩)
  exact scheduleNextInstance_inv written (by simp [alarmIsScheduled]) now

theorem alarmCancel_inv (inv : AlarmInv mode s) (a : α) :
    AlarmInv mode (alarmCancel s a).1 ∧ Idle (alarmCancel s a).1 a ∧ alarmIsScheduled (alarmCancel s a).1 a = false := by
  obtain ⟨removed,idle⟩ := removePendingAlarm_inv inv a
  have reset := removed.set (t := { (removePendingAlarm s a).alarm a with
      deadline := 0, prevDeadline := 0, callback := none, data := none, queue := .null })
    (fun listed => absurd listed idle.unlisted) rfl (fun _ _ _ same => same) (.inr idle) (fun cleared => by simp at cleared)
  exact ⟨reset,idle.set rfl,by simp [alarmIsScheduled,alarmCancel,alarmCancelInternal]⟩

-- The reset cannot touch a listed or handed-over alarm.
theorem alarmReadyGeneric_inv (inv : AlarmInv mode s) (idle : (s.alarm a).isPeriodic = false → Idle s a) :
    AlarmInv mode (alarmReadyGeneric s (some a)).1 := by
  cases periodic : (s.alarm a).isPeriodic
  · rw [alarmReadyGeneric_once periodic]
    have taken := idle periodic
    exact inv.set (fun listed => absurd listed taken.unlisted) rfl (fun _ _ _ same => same) (.inr taken)
      (fun cleared => by simp at cleared)
  · rw [alarmReadyGeneric_periodic periodic]
    exact inv

theorem alarmQueueReady_inv (inv : AlarmInv mode s) :
    AlarmInv mode (alarmQueueReady s).1 ∧ ∀ i, (alarmQueueReady s).2 = some i → i.callback.isSome := by
  cases front : s.callbackQueue with
  | nil =>
    rw [alarmQueueReady_nil front]
    exact ⟨inv,fun _ called => by cases called⟩
  | cons a rest =>
    rw [alarmQueueReady_cons front]
    have held : a ∈ s.callbackQueue := by
      rw [front]
      exact List.mem_cons_self
    obtain ⟨scheduled,kind,once⟩ := inv.queued a held
    have popped : AlarmInv mode { s with callbackQueue := rest } := by
      refine inv.shrink rfl (List.Sublist.refl _) ?_ (List.Sublist.refl _) rfl
      rw [front]
      exact List.sublist_cons_self a rest
    -- a one-shot alarm was queued once, and is of no task of the message loop
    have idle : (s.alarm a).isPeriodic = false → Idle { s with callbackQueue := rest } a := by
      intro notPeriodic
      have nodup := inv.queueNodup
      rw [front] at nodup
      refine ⟨once notPeriodic,(List.nodup_cons.mp nodup).1,fun p held owner _ => ?_⟩
      have posted := (inv.posted p held).1
      rw [owner,kind] at posted
      exact Bool.false_ne_true posted
    refine ⟨alarmReadyGeneric_inv popped idle,fun i called => ?_⟩
    rw [alarmReadyGeneric_call] at called
    cases called
    exact scheduled

theorem runMessageLoopTask_inv (inv : AlarmInv mode s) :
    AlarmInv mode (runMessageLoopTask s).1 ∧ ∀ i, (runMessageLoopTask s).2 = some i → i.callback.isSome := by
  cases front : s.messageLoop with
  | nil =>
    rw [runMessageLoopTask_nil front]
    exact ⟨inv,fun _ called => by cases called⟩
  | cons task rest =>
    obtain ⟨a,id⟩ := task
    have held : (a,id) ∈ s.messageLoop := by
      rw [front]
      exact List.mem_cons_self
    have popped : AlarmInv mode { s with messageLoop := rest } := by
      refine inv.shrink rfl (List.Sublist.refl _) (List.Sublist.refl _) ?_ rfl
      rw [front]
      exact List.sublist_cons_self _ rest
    by_cases live : (s.alarm a).closure = some id
    · rw [runMessageLoopTask_live front live]
      obtain ⟨kind,_,wasLive⟩ := inv.posted (a,id) held
      obtain ⟨scheduled,once⟩ := wasLive live
      -- a one-shot alarm is on no queue, and its closure ran through this task only
      have idle : (s.alarm a).isPeriodic = false → Idle { s with messageLoop := rest } a := by
        intro notPeriodic
        refine ⟨once notPeriodic,fun queued => ?_,fun p later owner running => ?_⟩
        · have queueMode := (inv.queued a queued).2.1
          rw [kind] at queueMode
          exact Bool.noConfusion queueMode
        · have closes : (s.alarm p.1).closure = some p.2 := running
          rw [owner,live] at closes
          have fresh : id ∉ rest.map Prod.snd := by
            have nodup := inv.postedNodup
            rw [front,List.map_cons] at nodup
            exact (List.nodup_cons.mp nodup).1
          exact fresh (Option.some.inj closes ▸ List.mem_map_of_mem later)
      refine ⟨alarmReadyGeneric_inv popped idle,fun i called => ?_⟩
      rw [alarmReadyMloop,alarmReadyGeneric_call] at called
      cases called
      exact scheduled
    · rw [runMessageLoopTask_dead front live]
      exact ⟨popped,fun _ called => by cases called⟩

end Invariant

-- An alarm callback_dispatch has taken off the list, about to hand it over.
structure Due (s : AlarmState α κ δ) (a : α) : Prop where
  scheduled : alarmIsScheduled s a
  unqueued : a ∉ s.callbackQueue
  unposted : ∀ p ∈ s.messageLoop, p.1 = a → ¬Live s p
  once : (s.alarm a).isPeriodic = false → a ∉ s.alarms

section Dispatch

variable {mode : α → Bool} {s : AlarmState α κ δ} {a : α}

theorem postClosure_inv (inv : AlarmInv mode s) (due : Due s a) (msgLoop : mode a = true) :
    AlarmInv mode (postClosure s a) := by
  have fresh : ∀ p ∈ s.messageLoop, p.2 ≠ s.nextClosure := fun p held same => by
    have below := (inv.posted p held).2.1
    omega
  have reset := inv.set (t := { s.alarm a with closure := some s.nextClosure }) (fun _ => rfl) rfl
    (fun p held _ closes => absurd (Option.some.inj closes).symm (fresh p held)) (.inl due.scheduled)
    (fun _ => inv.settled a due.scheduled)
  refine { reset with posted := ?_, postedNodup := ?_ }
  · intro p held
    rcases List.mem_append.mp held with old | new
    · obtain ⟨kind,below,live⟩ := reset.posted p old
      exact ⟨kind,Nat.lt_succ_of_lt below,live⟩
    · rw [List.mem_singleton] at new
      subst new
      refine ⟨msgLoop,Nat.lt_succ_self _,fun _ => ⟨by simpa [alarmIsScheduled] using due.scheduled,fun notPeriodic => ?_⟩⟩
      exact due.once (by simpa using notPeriodic)
  · show ((s.messageLoop ++ [(a,s.nextClosure)]).map Prod.snd).Nodup
    rw [List.map_append,List.map_singleton,List.nodup_append]
    refine ⟨inv.postedNodup,List.nodup_singleton _,fun id held id' other => ?_⟩
    rw [List.mem_singleton] at other
    obtain ⟨p,posted,rfl⟩ := List.mem_map.mp held
    rw [other]
    exact fresh p posted

omit [DecidableEq α] in
theorem enqueue_inv (inv : AlarmInv mode s) (due : Due s a) (queueMode : mode a = false) :
    AlarmInv mode { s with callbackQueue := s.callbackQueue ++ [a] } := by
  refine { inv with queued := ?_, queueNodup := ?_ }
  · intro b held
    rcases List.mem_append.mp held with old | new
    · exact inv.queued b old
    · rw [List.mem_singleton] at new
      subst new
      exact ⟨due.scheduled,queueMode,due.once⟩
  · rw [List.nodup_append]
    refine ⟨inv.queueNodup,List.nodup_singleton _,fun b held b' other same => ?_⟩
    rw [List.mem_singleton] at other
    subst other same
    exact due.unqueued held

theorem dispatchAlarm_inv (inv : AlarmInv mode s) (listed : a ∈ s.alarms) (now : UInt64) :
    ∃ s', dispatchAlarm s a now = some s' ∧ AlarmInv mode s' := by
  have erased := inv.erase a
  have scheduled := inv.listed a listed
  have rescheduled : AlarmInv mode (reschedulePeriodic { s with alarms := s.alarms.erase a } a now) ∧
      Due (reschedulePeriodic { s with alarms := s.alarms.erase a } a now) a := by
    unfold reschedulePeriodic
    split
    · case isTrue periodic =>
      have marked := erased.set (t := { s.alarm a with prevDeadline := (s.alarm a).deadline }) (fun _ => rfl) rfl
        (fun _ _ _ same => same) (.inl scheduled) (fun _ => inv.settled a scheduled)
      obtain ⟨kept,only⟩ := scheduleNextInstance_inv (a := a) marked (by simpa [alarmIsScheduled] using scheduled) now
      have retimed := @scheduleNextInstance_retimed α κ δ _
        ({ s with alarms := s.alarms.erase a }.set a { s.alarm a with prevDeadline := (s.alarm a).deadline }) a now a
      refine ⟨kept,⟨kept.listed a only.listed,only.unqueued,only.unposted,fun notPeriodic => ?_⟩⟩
      have again : (s.alarm a).isPeriodic = true := periodic
      rw [retimed.isPeriodic] at notPeriodic
      simp [again] at notPeriodic
    · case isFalse once =>
      -- a one-shot listed alarm was neither queued nor posted
      have oneShot : (s.alarm a).isPeriodic = false := by simpa using once
      refine ⟨erased,⟨scheduled,fun queued => (inv.queued a queued).2.2 oneShot listed,?_,
        fun _ => inv.nodup.not_mem_erase⟩⟩
      intro p held owner running
      have once := ((inv.posted p held).2.2 running).2
      rw [owner] at once
      exact once oneShot listed
  obtain ⟨kept,due⟩ := rescheduled
  obtain ⟨kind,toQueue⟩ := kept.settled a due.scheduled
  unfold dispatchAlarm
  cases msgLoop : mode a
  · rw [enqueueForProcessing_queue (kind.trans msgLoop) (by rw [toQueue,msgLoop]; rfl)]
    exact ⟨_,rfl,enqueue_inv kept due msgLoop⟩
  · rw [enqueueForProcessing_msgLoop (kind.trans msgLoop)]
    exact ⟨_,rfl,postClosure_inv kept due msgLoop⟩

theorem callbackDispatch_inv (inv : AlarmInv mode s) (now : UInt64) :
    ∃ s', callbackDispatch s now = some s' ∧ AlarmInv mode s' := by
  cases front : s.alarms with
  | nil => exact ⟨s,callbackDispatch_nil front,inv⟩
  | cons a rest =>
    by_cases later : now < (s.alarm a).deadline
    · exact ⟨s,callbackDispatch_later front later,inv⟩
    · rw [callbackDispatch_due front (not_lt.mp later)]
      have listed : a ∈ s.alarms := by
        rw [front]
        exact List.mem_cons_self
      exact dispatchAlarm_inv inv listed now

end Dispatch

def AlarmEvent.setOf (a : α) : AlarmEvent α κ δ → Option (κ × Option δ)
  | .alarmSet b _ cb data _ => if b = a then some (cb,data) else none
  | .alarmSetOnMloop b _ cb data _ => if b = a then some (cb,data) else none
  | _ => none

def lastSet (a : α) (events : List (AlarmEvent α κ δ)) : Option (κ × Option δ) :=
  events.foldl (fun last e => (e.setOf a).or last) none

theorem lastSet_append_singleton (a : α) (events : List (AlarmEvent α κ δ)) (e : AlarmEvent α κ δ) :
    lastSet a (events ++ [e]) = (e.setOf a).or (lastSet a events) := by
  simp [lastSet]

-- What a step may do to an alarm's callback and data: clear the callback,
-- leave both, or write those of an alarm_set* of the alarm.
def CallbackMove (e : AlarmEvent α κ δ) (a : α) (t t' : AlarmT κ δ) : Prop :=
  t'.callback = none ∨ (e.setOf a = none ∧ t'.callback = t.callback ∧ t'.data = t.data) ∨
    ∃ cb, e.setOf a = some (cb,t'.data) ∧ t'.callback = some cb

section Steps

variable {mode : α → Bool} {s s' : AlarmState α κ δ} {e : AlarmEvent α κ δ} {o : Option (Invocation α κ δ)}

theorem alarmStep_inv (inv : AlarmInv mode s) (keeps : e.KeepsMode mode) :
    ∃ s' o, alarmStep s e = some (s',o) ∧ AlarmInv mode s' ∧ ∀ i, o = some i → i.callback.isSome := by
  cases e with
  | alarmSet a intervalMs cb data now =>
    have queueMode : mode a = false := keeps
    have same : alarmSet s a intervalMs cb data now =
        alarmSetInternal s a intervalMs cb data (modeQueue (mode a)) (mode a) now := by
      rw [queueMode]
      rfl
    refine ⟨_,none,rfl,?_,fun _ called => by cases called⟩
    rw [same]
    exact (alarmSetInternal_inv inv a intervalMs cb data now).1
  | alarmSetOnMloop a intervalMs cb data now =>
    have msgLoop : mode a = true := keeps
    have same : alarmSetOnMloop s a intervalMs cb data now =
        alarmSetInternal s a intervalMs cb data (modeQueue (mode a)) (mode a) now := by
      rw [msgLoop]
      rfl
    refine ⟨_,none,rfl,?_,fun _ called => by cases called⟩
    rw [same]
    exact (alarmSetInternal_inv inv a intervalMs cb data now).1
  | alarmCancel a => exact ⟨_,none,rfl,(alarmCancel_inv inv a).1,fun _ called => by cases called⟩
  | callbackDispatch now =>
    obtain ⟨s',dispatched,kept⟩ := callbackDispatch_inv inv now
    refine ⟨s',none,?_,kept,fun _ called => by cases called⟩
    simp [alarmStep,dispatched]
  | alarmQueueReady =>
    obtain ⟨kept,called⟩ := alarmQueueReady_inv inv
    exact ⟨(alarmQueueReady s).1,(alarmQueueReady s).2,rfl,kept,called⟩
  | messageLoopTask =>
    obtain ⟨kept,called⟩ := runMessageLoopTask_inv inv
    exact ⟨(runMessageLoopTask s).1,(runMessageLoopTask s).2,rfl,kept,called⟩

theorem alarmStep_call {i : Invocation α κ δ} (called : alarmStep s e = some (s',some i)) :
    (i.alarm ∈ s.callbackQueue ∨ ∃ p ∈ s.messageLoop, p.1 = i.alarm ∧ Live s p) ∧
      i.callback = (s.alarm i.alarm).callback ∧ i.data = (s.alarm i.alarm).data ∧
      ((s.alarm i.alarm).isPeriodic = false → alarmIsScheduled s' i.alarm = false) := by
  -- the one-shot alarm a call serves is reset by alarm_ready_generic
  have reset : ∀ (t : AlarmState α κ δ) (a : α), t.alarm = s.alarm → s' = (alarmReadyGeneric t (some a)).1 →
      (s.alarm a).isPeriodic = false → alarmIsScheduled s' a = false := by
    intro t a same done once
    rw [← congrFun same a] at once
    rw [done,alarmReadyGeneric_once once]
    simp [alarmIsScheduled]
  cases e with
  | alarmSet | alarmSetOnMloop | alarmCancel => cases called
  | callbackDispatch now =>
    obtain ⟨_,_,stepped⟩ := Option.map_eq_some_iff.mp called
    cases stepped
  | alarmQueueReady =>
    cases front : s.callbackQueue with
    | nil => simp [alarmStep,alarmQueueReady_nil front] at called
    | cons a rest =>
      simp only [alarmStep,alarmQueueReady_cons front,Option.some.injEq] at called
      have read := congrArg Prod.snd called
      rw [alarmReadyGeneric_call] at read
      cases Option.some.inj read
      exact ⟨.inl List.mem_cons_self,rfl,rfl,reset { s with callbackQueue := rest } a rfl (congrArg Prod.fst called).symm⟩
  | messageLoopTask =>
    cases front : s.messageLoop with
    | nil => simp [alarmStep,runMessageLoopTask_nil front] at called
    | cons task rest =>
      obtain ⟨a,id⟩ := task
      by_cases live : (s.alarm a).closure = some id
      · simp only [alarmStep,runMessageLoopTask_live front live,alarmReadyMloop,Option.some.injEq] at called
        have read := congrArg Prod.snd called
        rw [alarmReadyGeneric_call] at read
        cases Option.some.inj read
        exact ⟨.inr ⟨(a,id),List.mem_cons_self,rfl,live⟩,rfl,rfl,
          reset { s with messageLoop := rest } a rfl (congrArg Prod.fst called).symm⟩
      · simp [alarmStep,runMessageLoopTask_dead front live] at called

theorem alarmReadyGeneric_frame (x : Option α) (a : α) :
    ((alarmReadyGeneric s x).1.alarm a).callback = none ∨ (alarmReadyGeneric s x).1.alarm a = s.alarm a := by
  cases x with
  | none => exact .inr rfl
  | some b =>
    by_cases self : b = a
    · subst self
      cases periodic : (s.alarm b).isPeriodic
      · left
        rw [alarmReadyGeneric_once periodic]
        simp
      · exact .inr (by rw [alarmReadyGeneric_periodic periodic])
    · exact .inr (alarmReadyGeneric_alarm_of_ne (Ne.symm self))

theorem alarmSetInternal_written {b : α} {period : UInt64} {cb : κ} {data : Option δ} {queue : FixedQueueRef}
    {forMsgLoop : Bool} {now : UInt64} (a : α) :
    (b = a ∧ ((alarmSetInternal s b period cb data queue forMsgLoop now).alarm a).callback = some cb ∧
      ((alarmSetInternal s b period cb data queue forMsgLoop now).alarm a).data = data) ∨
    (b ≠ a ∧ (alarmSetInternal s b period cb data queue forMsgLoop now).alarm a = s.alarm a) := by
  by_cases self : b = a
  · subst self
    have written := @alarmSetInternal_alarm_self α κ δ _ s b period cb data queue forMsgLoop now
    exact .inl ⟨rfl,written.callback,written.data⟩
  · exact .inr ⟨self,alarmSetInternal_alarm_of_ne (Ne.symm self)⟩

theorem alarmStep_callback (stepped : alarmStep s e = some (s',o)) (a : α) :
    CallbackMove e a (s.alarm a) (s'.alarm a) := by
  have kept : s'.alarm a = s.alarm a → e.setOf a = none → CallbackMove e a (s.alarm a) (s'.alarm a) :=
    fun same unset => Or.inr (Or.inl ⟨unset,by rw [same],by rw [same]⟩)
  have ready : ∀ (t : AlarmState α κ δ) (x : Option α), t.alarm = s.alarm → e.setOf a = none →
      s' = (alarmReadyGeneric t x).1 → CallbackMove e a (s.alarm a) (s'.alarm a) := by
    intro t x same unset done
    subst done
    rcases alarmReadyGeneric_frame x a with cleared | untouched
    · exact .inl cleared
    · exact kept (untouched.trans (congrFun same a)) unset
  have setMove : ∀ b period cb data queue forMsgLoop now, e.setOf a = (if b = a then some (cb,data) else none) →
      s' = alarmSetInternal s b period cb data queue forMsgLoop now → CallbackMove e a (s.alarm a) (s'.alarm a) := by
    intro b period cb data queue forMsgLoop now setTo done
    subst done
    rcases @alarmSetInternal_written α κ δ _ s b period cb data queue forMsgLoop now a with
      ⟨rfl,written,writtenData⟩ | ⟨other,same⟩
    · refine .inr (.inr ⟨cb,?_,written⟩)
      rw [setTo,writtenData,if_pos rfl]
    · exact kept same (by rw [setTo,if_neg other])
  cases e with
  | alarmSet b intervalMs cb data now =>
    simp only [alarmStep,Option.some.injEq,Prod.mk.injEq] at stepped
    obtain ⟨rfl,-⟩ := stepped
    exact setMove b intervalMs cb data _ _ now rfl rfl
  | alarmSetOnMloop b intervalMs cb data now =>
    simp only [alarmStep,Option.some.injEq,Prod.mk.injEq] at stepped
    obtain ⟨rfl,-⟩ := stepped
    exact setMove b intervalMs cb data _ _ now rfl rfl
  | alarmCancel b =>
    simp only [alarmStep,Option.some.injEq,Prod.mk.injEq] at stepped
    obtain ⟨rfl,-⟩ := stepped
    by_cases self : b = a
    · subst self
      exact .inl (by simp [alarmCancel,alarmCancelInternal])
    · exact kept (alarmCancel_alarm_of_ne (Ne.symm self)) rfl
  | callbackDispatch now =>
    obtain ⟨dispatched,dispatchedTo,done⟩ := Option.map_eq_some_iff.mp stepped
    cases done
    have retimed := callbackDispatch_retimed dispatchedTo a
    exact .inr (.inl ⟨rfl,retimed.callback,retimed.data⟩)
  | alarmQueueReady =>
    simp only [alarmStep,Option.some.injEq] at stepped
    cases front : s.callbackQueue with
    | nil =>
      rw [alarmQueueReady_nil front] at stepped
      cases stepped
      exact kept rfl rfl
    | cons b rest =>
      rw [alarmQueueReady_cons front] at stepped
      exact ready { s with callbackQueue := rest } (some b) rfl rfl (congrArg Prod.fst stepped).symm
  | messageLoopTask =>
    simp only [alarmStep,Option.some.injEq] at stepped
    cases front : s.messageLoop with
    | nil =>
      rw [runMessageLoopTask_nil front] at stepped
      cases stepped
      exact kept rfl rfl
    | cons task rest =>
      obtain ⟨b,id⟩ := task
      by_cases live : (s.alarm b).closure = some id
      · rw [runMessageLoopTask_live front live,alarmReadyMloop] at stepped
        exact ready { s with messageLoop := rest } (some b) rfl rfl (congrArg Prod.fst stepped).symm
      · rw [runMessageLoopTask_dead front live] at stepped
        cases stepped
        exact kept rfl rfl

theorem alarmStep_isPeriodic (stepped : alarmStep s e = some (s',o)) (a : α) :
    (s'.alarm a).isPeriodic = (s.alarm a).isPeriodic := by
  have ready : ∀ (t : AlarmState α κ δ) (x : Option α), t.alarm = s.alarm → s' = (alarmReadyGeneric t x).1 →
      (s'.alarm a).isPeriodic = (s.alarm a).isPeriodic := by
    intro t x same done
    subst done
    cases x with
    | none => exact congrArg AlarmT.isPeriodic (congrFun same a)
    | some b =>
      rw [← congrArg AlarmT.isPeriodic (congrFun same a)]
      by_cases self : b = a
      · subst self
        cases periodic : (t.alarm b).isPeriodic
        · rw [alarmReadyGeneric_once periodic]
          simp [periodic]
        · rw [alarmReadyGeneric_periodic periodic]
          exact periodic
      · rw [alarmReadyGeneric_alarm_of_ne (Ne.symm self)]
  cases e with
  | alarmSet b intervalMs cb data now | alarmSetOnMloop b intervalMs cb data now =>
    simp only [alarmStep,Option.some.injEq,Prod.mk.injEq] at stepped
    obtain ⟨rfl,-⟩ := stepped
    by_cases self : b = a
    · subst self
      exact (@alarmSetInternal_alarm_self α κ δ _ s b intervalMs cb data _ _ now).isPeriodic
    · exact congrArg AlarmT.isPeriodic (alarmSetInternal_alarm_of_ne (Ne.symm self))
  | alarmCancel b =>
    simp only [alarmStep,Option.some.injEq,Prod.mk.injEq] at stepped
    obtain ⟨rfl,-⟩ := stepped
    by_cases self : b = a
    · subst self
      simp [alarmCancel,alarmCancelInternal]
    · rw [alarmCancel_alarm_of_ne (Ne.symm self)]
  | callbackDispatch now =>
    obtain ⟨dispatched,dispatchedTo,done⟩ := Option.map_eq_some_iff.mp stepped
    cases done
    exact (callbackDispatch_retimed dispatchedTo a).isPeriodic
  | alarmQueueReady =>
    simp only [alarmStep,Option.some.injEq] at stepped
    cases front : s.callbackQueue with
    | nil =>
      rw [alarmQueueReady_nil front] at stepped
      cases stepped
      rfl
    | cons b rest =>
      rw [alarmQueueReady_cons front] at stepped
      exact ready { s with callbackQueue := rest } (some b) rfl (congrArg Prod.fst stepped).symm
  | messageLoopTask =>
    simp only [alarmStep,Option.some.injEq] at stepped
    cases front : s.messageLoop with
    | nil =>
      rw [runMessageLoopTask_nil front] at stepped
      cases stepped
      rfl
    | cons task rest =>
      obtain ⟨b,id⟩ := task
      by_cases live : (s.alarm b).closure = some id
      · rw [runMessageLoopTask_live front live,alarmReadyMloop] at stepped
        exact ready { s with messageLoop := rest } (some b) rfl (congrArg Prod.fst stepped).symm
      · rw [runMessageLoopTask_dead front live] at stepped
        cases stepped
        rfl

end Steps

section Runs

variable {mode : α → Bool} {s s' : AlarmState α κ δ}

theorem alarmStep_quiet (inv : AlarmInv mode s) {a : α} {e : AlarmEvent α κ δ} {o : Option (Invocation α κ δ)}
    (unscheduled : alarmIsScheduled s a = false) (unset : e.setOf a = none) (stepped : alarmStep s e = some (s',o)) :
    alarmIsScheduled s' a = false ∧ ∀ i, o = some i → i.alarm ≠ a := by
  refine ⟨?_,fun i called same => ?_⟩
  · rcases alarmStep_callback stepped a with cleared | ⟨_,kept,_⟩ | ⟨cb,setTo,_⟩
    · simp [alarmIsScheduled,cleared]
    · simpa [alarmIsScheduled,kept] using unscheduled
    · rw [unset] at setTo
      cases setTo
  · subst called
    have idle := inv.idle unscheduled
    rcases (alarmStep_call stepped).1 with queued | ⟨p,held,owner,live⟩
    · exact idle.unqueued (same ▸ queued)
    · exact idle.unposted p held (owner.trans same) live

theorem alarm_stays_quiet (inv : AlarmInv mode s) {a : α} (unscheduled : alarmIsScheduled s a = false)
    (events : List (AlarmEvent α κ δ)) (quiet : ∀ e ∈ events, e.KeepsMode mode ∧ e.setOf a = none) :
    ∃ s' calls, Machine.transduce alarmStep s events = some (s',calls) ∧ alarmIsScheduled s' a = false ∧
      ∀ i ∈ calls.reduceOption, i.alarm ≠ a := by
  have answers : ∀ (t : AlarmState α κ δ) (e : AlarmEvent α κ δ), (AlarmInv mode t ∧ alarmIsScheduled t a = false) →
      (e.KeepsMode mode ∧ e.setOf a = none) → ∃ t' o, alarmStep t e = some (t',o) ∧
        (AlarmInv mode t' ∧ alarmIsScheduled t' a = false) ∧ ∀ i, o = some i → i.alarm ≠ a := by
    intro t e held allowed
    obtain ⟨t',o,stepped,kept,_⟩ := alarmStep_inv held.1 allowed.1
    obtain ⟨stays,notCalled⟩ := alarmStep_quiet held.1 held.2 allowed.2 stepped
    exact ⟨t',o,stepped,⟨kept,stays⟩,notCalled⟩
  obtain ⟨s',calls,ran,⟨_,stays⟩,good⟩ := Machine.transduce_good answers events ⟨inv,unscheduled⟩ quiet
  exact ⟨s',calls,ran,stays,fun i held => good (some i) (List.reduceOption_mem_iff.mp held) i rfl⟩

theorem alarmRun_inv (isPeriodic : α → Bool) (events : List (AlarmEvent α κ δ))
    (keeps : ∀ e ∈ events, e.KeepsMode mode) :
    ∃ s calls, Machine.transduce alarmStep (alarmInit isPeriodic) events = some (s,calls) ∧ AlarmInv mode s ∧
      ∀ i ∈ calls.reduceOption, i.callback.isSome := by
  have answers : ∀ (t : AlarmState α κ δ) (e : AlarmEvent α κ δ), AlarmInv mode t → e.KeepsMode mode →
      ∃ t' o, alarmStep t e = some (t',o) ∧ AlarmInv mode t' ∧ ∀ i, o = some i → i.callback.isSome :=
    fun _ _ held allowed => alarmStep_inv held allowed
  obtain ⟨s,calls,ran,kept,good⟩ := Machine.transduce_good answers events (alarmInit_inv isPeriodic) keeps
  exact ⟨s,calls,ran,kept,fun i held => good (some i) (List.reduceOption_mem_iff.mp held) i rfl⟩

theorem alarm_runs_keep_order (mode isPeriodic : α → Bool) (events : List (AlarmEvent α κ δ))
    (keeps : ∀ e ∈ events, e.KeepsMode mode) :
    ∃ s calls, Machine.transduce alarmStep (alarmInit isPeriodic) events = some (s,calls) ∧
      s.alarms.Pairwise (fun a b => (s.alarm a).deadline ≤ (s.alarm b).deadline) ∧ s.alarms.Nodup ∧
      (∀ a ∈ s.alarms, alarmIsScheduled s a) ∧ ∀ i ∈ calls.reduceOption, i.callback.isSome := by
  obtain ⟨s,calls,ran,kept,good⟩ := alarmRun_inv isPeriodic events keeps
  exact ⟨s,calls,ran,kept.sorted,kept.nodup,kept.listed,good⟩

theorem alarm_runs_keep_order_sample :
    (∀ e ∈ ([.alarmSetOnMloop 1 5 2 (some 7) 0,.alarmSet 0 10 1 none 0,.callbackDispatch 5,.messageLoopTask,
        .callbackDispatch 10,.alarmQueueReady] : List (AlarmEvent Nat Nat Nat)), e.KeepsMode fun a => a == 1) ∧
      ∃ s calls, Machine.transduce alarmStep (alarmInit fun a => a == 1)
        ([.alarmSetOnMloop 1 5 2 (some 7) 0,.alarmSet 0 10 1 none 0,.callbackDispatch 5,.messageLoopTask,
          .callbackDispatch 10,.alarmQueueReady] : List (AlarmEvent Nat Nat Nat)) = some (s,calls) ∧
      s.alarms.Pairwise (fun a b => (s.alarm a).deadline ≤ (s.alarm b).deadline) ∧ s.alarms.Nodup ∧
      (∀ a ∈ s.alarms, alarmIsScheduled s a) ∧ ∀ i ∈ calls.reduceOption, i.callback.isSome := by
  have keeps : ∀ e ∈ ([.alarmSetOnMloop 1 5 2 (some 7) 0,.alarmSet 0 10 1 none 0,.callbackDispatch 5,
      .messageLoopTask,.callbackDispatch 10,.alarmQueueReady] : List (AlarmEvent Nat Nat Nat)),
      e.KeepsMode fun a => a == 1 := by
    intro e held
    simp only [List.mem_cons,List.not_mem_nil,or_false] at held
    rcases held with rfl | rfl | rfl | rfl | rfl | rfl <;> trivial
  exact ⟨keeps,alarm_runs_keep_order _ _ _ keeps⟩

-- An alarm set on the default queue, dispatched, and set again on the message
-- loop before the queue is processed.
theorem alarm_mode_switch_calls_null :
    (Machine.transduce alarmStep (alarmInit fun _ => false : AlarmState Nat Nat Nat)
      [.alarmSet 0 100 1 (some 10) 0,.callbackDispatch 100,.alarmSetOnMloop 0 100 2 (some 20) 100,
        .alarmQueueReady,.callbackDispatch 100,.messageLoopTask]).map Prod.snd =
      some [none,none,none,some ⟨0,some 2,some 20⟩,none,some ⟨0,none,none⟩] := by
  decide

theorem callback_of_lastSet {isPeriodic : α → Bool} {hist : List (AlarmEvent α κ δ)}
    {calls : List (Option (Invocation α κ δ))} (ran : Machine.transduce alarmStep (alarmInit isPeriodic) hist = some (s,calls))
    {a : α} {cb : κ} (holds : (s.alarm a).callback = some cb) : lastSet a hist = some (cb,(s.alarm a).data) := by
  have keeps : ∀ (hist : List (AlarmEvent α κ δ)) (t : AlarmState α κ δ) (e : AlarmEvent α κ δ) (t' : AlarmState α κ δ)
      (o : Option (Invocation α κ δ)),
      (∀ a cb, (t.alarm a).callback = some cb → lastSet a hist = some (cb,(t.alarm a).data)) →
      alarmStep t e = some (t',o) →
      ∀ a cb, (t'.alarm a).callback = some cb → lastSet a (hist ++ [e]) = some (cb,(t'.alarm a).data) := by
    intro hist t e t' o before stepped a cb holds
    rw [lastSet_append_singleton]
    rcases alarmStep_callback stepped a with cleared | ⟨unset,same,sameData⟩ | ⟨cb',setTo,written⟩
    · rw [cleared] at holds
      cases holds
    · rw [unset,sameData]
      exact before a cb (same.symm.trans holds)
    · rw [written] at holds
      cases holds
      rw [setTo]
      rfl
  have base : ∀ a cb, ((alarmInit isPeriodic : AlarmState α κ δ).alarm a).callback = some cb →
      lastSet a [] = some (cb,((alarmInit isPeriodic : AlarmState α κ δ).alarm a).data) :=
    fun _ _ held => by cases held
  have after := Machine.transduce_history keeps hist base ran
  rw [List.nil_append] at after
  exact after a cb holds

theorem alarm_call_of_last_set {isPeriodic : α → Bool} {hist : List (AlarmEvent α κ δ)}
    {calls : List (Option (Invocation α κ δ))} {e : AlarmEvent α κ δ} {i : Invocation α κ δ} {cb : κ}
    (ran : Machine.transduce alarmStep (alarmInit isPeriodic) hist = some (s,calls))
    (called : alarmStep s e = some (s',some i)) (nonNull : i.callback = some cb) : lastSet i.alarm hist = some (cb,i.data) := by
  obtain ⟨_,reads,readsData,_⟩ := alarmStep_call called
  rw [readsData]
  exact callback_of_lastSet ran (reads.symm.trans nonNull)

theorem alarm_call_of_last_set_sample : ∃ (s s' : AlarmState Nat Nat Nat) (calls : List (Option (Invocation Nat Nat Nat)))
    (i : Invocation Nat Nat Nat),
    Machine.transduce alarmStep (alarmInit fun _ => false) [.alarmSet 0 100 1 (some 10) 0,.callbackDispatch 100] =
      some (s,calls) ∧ alarmStep s .alarmQueueReady = some (s',some i) ∧ i.callback = some 1 ∧
    lastSet i.alarm [.alarmSet 0 100 1 (some 10) 0,.callbackDispatch 100] = some (1,i.data) := by
  refine ⟨_,_,_,_,rfl,rfl,rfl,?_⟩
  exact @alarm_call_of_last_set Nat Nat Nat _ _ _ (fun _ => false) _ _ .alarmQueueReady _ 1 rfl rfl rfl

theorem alarmRun_isPeriodic {isPeriodic : α → Bool} {hist : List (AlarmEvent α κ δ)}
    {calls : List (Option (Invocation α κ δ))} (ran : Machine.transduce alarmStep (alarmInit isPeriodic) hist = some (s,calls))
    (a : α) : (s.alarm a).isPeriodic = isPeriodic a := by
  have keeps : ∀ (hist : List (AlarmEvent α κ δ)) (t : AlarmState α κ δ) (e : AlarmEvent α κ δ) (t' : AlarmState α κ δ)
      (o : Option (Invocation α κ δ)), (∀ a, (t.alarm a).isPeriodic = isPeriodic a) → alarmStep t e = some (t',o) →
      ∀ a, (t'.alarm a).isPeriodic = isPeriodic a :=
    fun _ _ _ _ _ before stepped a => (alarmStep_isPeriodic stepped a).trans (before a)
  exact @Machine.transduce_history (AlarmState α κ δ) (AlarmEvent α κ δ) (Option (Invocation α κ δ)) alarmStep _ keeps
    hist [] _ _ _ (fun _ => rfl) ran a

theorem alarm_cancel_silences (mode isPeriodic : α → Bool) (a : α) (before after : List (AlarmEvent α κ δ))
    (keeps : ∀ e ∈ before ++ after, e.KeepsMode mode) (unset : ∀ e ∈ after, e.setOf a = none) :
    ∃ s calls calls', Machine.transduce alarmStep (alarmInit isPeriodic) (before ++ .alarmCancel a :: after) =
      some (s,calls ++ none :: calls') ∧ ∀ i ∈ calls'.reduceOption, i.alarm ≠ a := by
  obtain ⟨cancelledFrom,calls,ran,inv,_⟩ :=
    alarmRun_inv isPeriodic before fun e held => keeps e (List.mem_append_left after held)
  obtain ⟨cancelled,_,unscheduled⟩ := alarmCancel_inv inv a
  obtain ⟨s,calls',ranAfter,_,silent⟩ :=
    alarm_stays_quiet cancelled unscheduled after fun e held => ⟨keeps e (List.mem_append_right before held),unset e held⟩
  have cancelStep : alarmStep cancelledFrom (.alarmCancel a) = some ((alarmCancel cancelledFrom a).1,none) := rfl
  refine ⟨s,calls,calls',?_,silent⟩
  simp only [Machine.transduce_append,ran,Option.bind_some,Machine.transduce_cons after cancelStep,ranAfter,
    Option.map_some]

theorem alarm_cancel_silences_sample :
    (∀ e ∈ ([.alarmSet 0 10 1 none 0,.callbackDispatch 10] ++ [.alarmQueueReady,.callbackDispatch 20] :
        List (AlarmEvent Nat Nat Nat)), e.KeepsMode fun _ => false) ∧
    (∀ e ∈ ([.alarmQueueReady,.callbackDispatch 20] : List (AlarmEvent Nat Nat Nat)), e.setOf 0 = none) ∧
    ∃ s calls calls', Machine.transduce alarmStep (alarmInit fun _ => false : AlarmState Nat Nat Nat)
      ([.alarmSet 0 10 1 none 0,.callbackDispatch 10] ++ .alarmCancel 0 :: [.alarmQueueReady,.callbackDispatch 20]) =
      some (s,calls ++ none :: calls') ∧ ∀ i ∈ calls'.reduceOption, i.alarm ≠ 0 := by
  have keeps : ∀ e ∈ ([.alarmSet 0 10 1 none 0,.callbackDispatch 10] ++ [.alarmQueueReady,.callbackDispatch 20] :
      List (AlarmEvent Nat Nat Nat)), e.KeepsMode fun _ => false := by
    intro e held
    simp only [List.cons_append,List.nil_append,List.mem_cons,List.not_mem_nil,or_false] at held
    rcases held with rfl | rfl | rfl | rfl <;> trivial
  have unset : ∀ e ∈ ([.alarmQueueReady,.callbackDispatch 20] : List (AlarmEvent Nat Nat Nat)), e.setOf 0 = none := by
    intro e held
    simp only [List.mem_cons,List.not_mem_nil,or_false] at held
    rcases held with rfl | rfl <;> rfl
  exact ⟨keeps,unset,alarm_cancel_silences _ _ 0 _ _ keeps unset⟩

theorem alarm_one_shot_called_once (mode isPeriodic : α → Bool) (before : List (AlarmEvent α κ δ))
    (e : AlarmEvent α κ δ) {calls : List (Option (Invocation α κ δ))} {i : Invocation α κ δ}
    (keeps : ∀ e' ∈ before ++ [e], e'.KeepsMode mode)
    (ran : Machine.transduce alarmStep (alarmInit isPeriodic) before = some (s,calls))
    (called : alarmStep s e = some (s',some i)) (oneShot : isPeriodic i.alarm = false)
    (after : List (AlarmEvent α κ δ)) (quiet : ∀ e' ∈ after, e'.KeepsMode mode ∧ e'.setOf i.alarm = none) :
    ∃ s'' calls', Machine.transduce alarmStep s' after = some (s'',calls') ∧
      ∀ j ∈ calls'.reduceOption, j.alarm ≠ i.alarm := by
  obtain ⟨t,calls₀,ranT,inv,_⟩ := alarmRun_inv isPeriodic before fun e' held => keeps e' (List.mem_append_left _ held)
  rw [ran] at ranT
  cases ranT
  obtain ⟨t',o,stepped,kept,_⟩ := alarmStep_inv inv (keeps e (List.mem_append_right before (List.mem_singleton_self e)))
  rw [called] at stepped
  cases stepped
  have reset := (alarmStep_call called).2.2.2 ((alarmRun_isPeriodic ran i.alarm).trans oneShot)
  obtain ⟨s'',calls',ranAfter,_,silent⟩ := alarm_stays_quiet kept reset after quiet
  exact ⟨s'',calls',ranAfter,silent⟩

theorem alarm_one_shot_called_once_sample : ∃ (s s' : AlarmState Nat Nat Nat)
    (calls : List (Option (Invocation Nat Nat Nat))) (i : Invocation Nat Nat Nat),
    Machine.transduce alarmStep (alarmInit fun _ => false) [.alarmSet 0 10 1 none 0,.callbackDispatch 10] =
      some (s,calls) ∧ alarmStep s .alarmQueueReady = some (s',some i) ∧
    ∃ s'' calls', Machine.transduce alarmStep s' [.callbackDispatch 20,.alarmQueueReady] = some (s'',calls') ∧
      ∀ j ∈ calls'.reduceOption, j.alarm ≠ i.alarm := by
  refine ⟨_,_,_,_,rfl,rfl,?_⟩
  have keeps : ∀ e ∈ ([.alarmSet 0 10 1 none 0,.callbackDispatch 10] ++ [.alarmQueueReady] :
      List (AlarmEvent Nat Nat Nat)), e.KeepsMode fun _ => false := by
    intro e held
    simp only [List.cons_append,List.nil_append,List.mem_cons,List.not_mem_nil,or_false] at held
    rcases held with rfl | rfl | rfl <;> trivial
  have quiet : ∀ e ∈ ([.callbackDispatch 20,.alarmQueueReady] : List (AlarmEvent Nat Nat Nat)),
      e.KeepsMode (fun _ => false) ∧ e.setOf 0 = none := by
    intro e held
    simp only [List.mem_cons,List.not_mem_nil,or_false] at held
    rcases held with rfl | rfl <;> exact ⟨trivial,rfl⟩
  exact alarm_one_shot_called_once (fun _ => false) (fun _ => false) _ .alarmQueueReady keeps rfl rfl rfl _ quiet

end Runs

end BluetoothStack.Osi
