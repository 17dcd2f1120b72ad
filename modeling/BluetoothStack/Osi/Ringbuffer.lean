import BluetoothStack.Lib.Ring
import BluetoothStack.Lib.Machine

namespace BluetoothStack.Osi

open Machine (transduce)

-- ringbuffer_t, with head and tail held as offsets from base.
structure Ringbuffer where
  total : Nat
  available : Nat
  base : List UInt8
  head : Nat
  tail : Nat

def ringbufferInit (size : Nat) : Ringbuffer := ⟨size,size,List.replicate size 0,0,0⟩

def ringbufferAvailable (rb : Ringbuffer) : Nat := rb.available

def ringbufferSize (rb : Ringbuffer) : Nat := rb.total - rb.available

-- if (++p >= base + total) p = base;
def wrapNext (total b : Nat) : Nat := if total ≤ b + 1 then 0 else b + 1

def insertLoop (total : Nat) : List UInt8 → List UInt8 → Nat → List UInt8 × Nat
  | [],base,tail => (base,tail)
  | c :: p,base,tail => insertLoop total p (base.set tail c) (wrapNext total tail)

-- The caller's buffer p is the list of its length bytes.
def ringbufferInsert (rb : Ringbuffer) (p : List UInt8) : Ringbuffer × Nat :=
  let length := if p.length > ringbufferAvailable rb then ringbufferAvailable rb else p.length
  let copied := insertLoop rb.total (p.take length) rb.base rb.tail
  ({rb with base := copied.1,tail := copied.2,available := rb.available - length},length)

def ringbufferDelete (rb : Ringbuffer) (length : Nat) : Ringbuffer × Nat :=
  let length := if length > ringbufferSize rb then ringbufferSize rb else length
  let head := rb.head + length
  ({rb with head := if rb.total ≤ head then head - rb.total else head,available := rb.available + length},length)

def peekLoop (base : List UInt8) (total : Nat) : Nat → Nat → List UInt8
  | 0,_ => []
  | n + 1,b => base.getD b 0 :: peekLoop base total n (wrapNext total b)

-- A failed CHECK is none. offset + length is a size_t sum.
def ringbufferPeek (rb : Ringbuffer) (offset length : Nat) : Option (Nat × List UInt8) :=
  if offset ≤ ringbufferSize rb then
    let b := (rb.head + offset) % rb.total
    let bytesToCopy := if (offset + length) % 2 ^ 64 > ringbufferSize rb then ringbufferSize rb - offset else length
    some (bytesToCopy,peekLoop rb.base rb.total bytesToCopy b)
  else none

def ringbufferPop (rb : Ringbuffer) (length : Nat) : Option (Ringbuffer × Nat × List UInt8) :=
  (ringbufferPeek rb 0 length).map fun (copied,bytes) =>
    let head := rb.head + copied
    ({rb with head := if rb.total ≤ head then head - rb.total else head,available := rb.available + copied},copied,bytes)

inductive RingbufferCall where
  | insert (p : List UInt8)
  | delete (length : Nat)
  | peek (offset length : Nat)
  | pop (length : Nat)

structure Reply where
  returned : Nat
  copied : List UInt8
deriving DecidableEq

def ringbufferCall (rb : Ringbuffer) : RingbufferCall → Option (Ringbuffer × Reply)
  | .insert p => some ((ringbufferInsert rb p).1,⟨(ringbufferInsert rb p).2,[]⟩)
  | .delete length => some ((ringbufferDelete rb length).1,⟨(ringbufferDelete rb length).2,[]⟩)
  | .peek offset length => (ringbufferPeek rb offset length).map fun (n,bytes) => (rb,⟨n,bytes⟩)
  | .pop length => (ringbufferPop rb length).map fun (rb,n,bytes) => (rb,⟨n,bytes⟩)

section Fifo

-- What the ring buffer is for: a FIFO of bytes bounded by its capacity.
@[ext] structure Fifo where
  capacity : Nat
  contents : List UInt8
  fits : contents.length ≤ capacity

def Fifo.empty (capacity : Nat) : Fifo := ⟨capacity,[],Nat.zero_le _⟩

def Fifo.call (q : Fifo) : RingbufferCall → Option (Fifo × Reply)
  | .insert p =>
    let n := min p.length (q.capacity - q.contents.length)
    some (⟨q.capacity,q.contents ++ p.take n,by simp; have := q.fits; omega⟩,⟨n,[]⟩)
  | .delete length =>
    let n := min length q.contents.length
    some (⟨q.capacity,q.contents.drop n,by simp; have := q.fits; omega⟩,⟨n,[]⟩)
  | .peek offset length =>
    if offset ≤ q.contents.length then some (q,⟨min length (q.contents.length - offset),(q.contents.drop offset).take length⟩)
    else none
  | .pop length =>
    let n := min length q.contents.length
    some (⟨q.capacity,q.contents.drop n,by simp; have := q.fits; omega⟩,⟨n,q.contents.take n⟩)

end Fifo

section Refinement

-- The bytes the buffer holds: ringbuffer_size of them from head on.
def Ringbuffer.contents (rb : Ringbuffer) : List UInt8 := Ring.read rb.base rb.head (ringbufferSize rb)

def Ringbuffer.view (rb : Ringbuffer) : Fifo :=
  ⟨rb.total,rb.contents,by simp [Ringbuffer.contents,ringbufferSize]⟩

structure Ringbuffer.Wf (rb : Ringbuffer) : Prop where
  sized : rb.base.length = rb.total
  positive : 0 < rb.total
  availableLe : rb.available ≤ rb.total
  headLt : rb.head < rb.total
  tailAt : rb.tail = (rb.head + ringbufferSize rb) % rb.total

-- Every size_t sum of a call stays below 2^64.
def RingbufferCall.Fits : RingbufferCall → Prop
  | .peek offset length => offset + length < 2 ^ 64
  | .pop length => length < 2 ^ 64
  | .insert _ | .delete _ => True

instance (call : RingbufferCall) : Decidable call.Fits :=
  match call with
  | .peek offset length => inferInstanceAs (Decidable (offset + length < 2 ^ 64))
  | .pop length => inferInstanceAs (Decidable (length < 2 ^ 64))
  | .insert _ => inferInstanceAs (Decidable True)
  | .delete _ => inferInstanceAs (Decidable True)

theorem ringbufferInit_wf {n : Nat} (positive : 0 < n) : (ringbufferInit n).Wf :=
  ⟨by simp [ringbufferInit],positive,le_refl n,positive,by simp [ringbufferInit,ringbufferSize]⟩

theorem ringbufferInit_view (n : Nat) : (ringbufferInit n).view = Fifo.empty n := by
  ext1
  · rfl
  · simp [Ringbuffer.view,Ringbuffer.contents,ringbufferSize,ringbufferInit,Fifo.empty,Ring.read_zero]

variable {rb : Ringbuffer}

theorem Ringbuffer.Wf.size_add (wf : rb.Wf) : ringbufferAvailable rb + ringbufferSize rb = rb.total := by
  have := wf.availableLe
  simp only [ringbufferAvailable,ringbufferSize]
  omega

theorem Ringbuffer.Wf.tailLt (wf : rb.Wf) : rb.tail < rb.total := by
  rw [wf.tailAt]
  exact Nat.mod_lt _ wf.positive

theorem wrapNext_eq {total b : Nat} (lt : b < total) : wrapNext total b = (b + 1) % total :=
  Ring.succ_wrap lt

theorem peekLoop_eq_read {base : List UInt8} {total : Nat} (sized : base.length = total) :
    ∀ (n : Nat) {b : Nat}, b < total → peekLoop base total n b = Ring.read base b n
  | 0,_,_ => rfl
  | n + 1,b,lt => by
    have next : wrapNext total b < total := by
      rw [wrapNext_eq lt]
      exact Nat.mod_lt _ (by omega)
    rw [peekLoop,peekLoop_eq_read sized n next,Ring.read_succ_left,wrapNext_eq lt,sized,Nat.mod_eq_of_lt lt]
    rfl

theorem length_insertLoop (total : Nat) :
    ∀ (p base : List UInt8) (tail : Nat), (insertLoop total p base tail).1.length = base.length
  | [],_,_ => rfl
  | c :: p,base,tail => by
    rw [insertLoop,length_insertLoop total p,List.length_set]

theorem insertLoop_read {total head : Nat} (positive : 0 < total) :
    ∀ (p base : List UInt8) (n : Nat), base.length = total → n + p.length ≤ total →
      Ring.read (insertLoop total p base ((head + n) % total)).1 head (n + p.length) = Ring.read base head n ++ p ∧
        (insertLoop total p base ((head + n) % total)).2 = (head + n + p.length) % total
  | [],base,n,_,_ => by simp [insertLoop]
  | c :: p,base,n,sized,room => by
    have next : wrapNext total ((head + n) % total) = (head + (n + 1)) % total := by
      rw [wrapNext_eq (Nat.mod_lt _ positive),Nat.mod_add_mod,Nat.add_assoc]
    have rest := @insertLoop_read total head positive p (base.set ((head + n) % total) c) (n + 1) (by simpa using sized)
      (by simp at room; omega)
    rw [insertLoop,next]
    rw [← sized] at rest ⊢
    rw [Ring.read_set_next base head n c (by simp at room; omega)] at rest
    simp only [List.length_cons] at rest ⊢
    refine ⟨?_,?_⟩
    · rw [show n + (p.length + 1) = n + 1 + p.length by omega,rest.1,List.append_assoc,List.singleton_append]
    · rw [rest.2]
      congr 1
      omega

theorem ringbufferInsert_eq (rb : Ringbuffer) (p : List UInt8) :
    ringbufferInsert rb p =
      (⟨rb.total,rb.available - min p.length rb.available,
          (insertLoop rb.total (p.take (min p.length rb.available)) rb.base rb.tail).1,rb.head,
          (insertLoop rb.total (p.take (min p.length rb.available)) rb.base rb.tail).2⟩,min p.length rb.available) := by
  unfold ringbufferInsert ringbufferAvailable
  dsimp only
  split
  · rw [min_eq_right (by omega)]
  · rw [min_eq_left (by omega)]

theorem ringbufferSize_mk (total available : Nat) (base : List UInt8) (head tail : Nat) :
    ringbufferSize ⟨total,available,base,head,tail⟩ = total - available := rfl

theorem ringbufferInsert_spec (wf : rb.Wf) (p : List UInt8) :
    (ringbufferInsert rb p).1.Wf ∧
      (ringbufferInsert rb p).1.contents = rb.contents ++ p.take (min p.length rb.available) := by
  obtain ⟨sized,positive,availableLe,headLt,tailAt⟩ := wf
  rw [ringbufferInsert_eq]
  generalize clamped : min p.length rb.available = n
  have fits : n ≤ rb.available := clamped ▸ min_le_right _ _
  have taken : (p.take n).length = n := by
    simp only [List.length_take]
    omega
  have size : rb.total - (rb.available - n) = ringbufferSize rb + n := by
    simp only [ringbufferSize]
    omega
  have loop := @insertLoop_read rb.total rb.head positive (p.take n) rb.base (ringbufferSize rb) sized
    (by rw [taken,ringbufferSize]; omega)
  rw [← tailAt,taken] at loop
  refine ⟨⟨?_,positive,?_,headLt,?_⟩,?_⟩
  · exact (length_insertLoop _ _ _ _).trans sized
  · exact Nat.le_trans (Nat.sub_le _ _) availableLe
  · rw [ringbufferSize_mk,size,loop.2,Nat.add_assoc]
  · rw [Ringbuffer.contents,ringbufferSize_mk,size,loop.1]
    rfl

theorem Ringbuffer.Wf.consume (wf : rb.Wf) {m : Nat} (le : m ≤ ringbufferSize rb) :
    (⟨rb.total,rb.available + m,rb.base,(rb.head + m) % rb.total,rb.tail⟩ : Ringbuffer).Wf ∧
      (⟨rb.total,rb.available + m,rb.base,(rb.head + m) % rb.total,rb.tail⟩ : Ringbuffer).contents =
        rb.contents.drop m := by
  obtain ⟨sized,positive,availableLe,headLt,tailAt⟩ := wf
  have size : rb.total - (rb.available + m) = ringbufferSize rb - m := by
    simp only [ringbufferSize]
    omega
  refine ⟨⟨sized,positive,show rb.available + m ≤ rb.total by simp only [ringbufferSize] at le; omega,
    Nat.mod_lt _ positive,?_⟩,?_⟩
  · show rb.tail = ((rb.head + m) % rb.total + (rb.total - (rb.available + m))) % rb.total
    rw [size,Nat.mod_add_mod,Nat.add_assoc,Nat.add_sub_cancel' le,tailAt]
  · show Ring.read rb.base ((rb.head + m) % rb.total) (rb.total - (rb.available + m)) = _
    rw [size,Ringbuffer.contents,Ring.read_drop,sized]

theorem ringbufferDelete_eq (wf : rb.Wf) (length : Nat) :
    ringbufferDelete rb length =
      (⟨rb.total,rb.available + min length (ringbufferSize rb),rb.base,
          (rb.head + min length (ringbufferSize rb)) % rb.total,rb.tail⟩,min length (ringbufferSize rb)) := by
  have clamped : (if length > ringbufferSize rb then ringbufferSize rb else length) = min length (ringbufferSize rb) := by
    split <;> omega
  have wrapped := Ring.add_wrap wf.headLt (show min length (ringbufferSize rb) ≤ rb.total by
    simp only [ringbufferSize]; omega)
  simp only [ringbufferDelete,clamped,wrapped]

theorem ringbufferPeek_eq (wf : rb.Wf) {offset length : Nat} (fits : offset + length < 2 ^ 64)
    (within : offset ≤ ringbufferSize rb) :
    ringbufferPeek rb offset length =
      some (min length (ringbufferSize rb - offset),(rb.contents.drop offset).take length) := by
  have clamped : (if offset + length > ringbufferSize rb then ringbufferSize rb - offset else length) =
      min length (ringbufferSize rb - offset) := by
    split <;> omega
  have start : (rb.head + offset) % rb.total < rb.total := Nat.mod_lt _ wf.positive
  rw [ringbufferPeek,if_pos within]
  dsimp only
  rw [Nat.mod_eq_of_lt fits,clamped,peekLoop_eq_read wf.sized _ start,Ringbuffer.contents,Ring.read_drop,Ring.read_take,
    wf.sized]

theorem ringbufferPeek_none {offset : Nat} (length : Nat) (beyond : ¬offset ≤ ringbufferSize rb) :
    ringbufferPeek rb offset length = none := by
  rw [ringbufferPeek,if_neg beyond]

theorem ringbufferPop_eq (wf : rb.Wf) {length : Nat} (fits : length < 2 ^ 64) :
    ringbufferPop rb length =
      some (⟨rb.total,rb.available + min length (ringbufferSize rb),rb.base,
          (rb.head + min length (ringbufferSize rb)) % rb.total,rb.tail⟩,min length (ringbufferSize rb),
        rb.contents.take length) := by
  have wrapped := Ring.add_wrap wf.headLt (show min length (ringbufferSize rb) ≤ rb.total by
    simp only [ringbufferSize]; omega)
  rw [ringbufferPop,ringbufferPeek_eq wf (by simpa using fits) (Nat.zero_le _),Option.map_some]
  simp only [Nat.sub_zero,List.drop_zero,wrapped]

theorem Ringbuffer.length_contents (rb : Ringbuffer) : rb.contents.length = ringbufferSize rb := by
  simp [Ringbuffer.contents]

@[simp] theorem Ringbuffer.view_capacity (rb : Ringbuffer) : rb.view.capacity = rb.total := rfl

@[simp] theorem Ringbuffer.view_contents (rb : Ringbuffer) : rb.view.contents = rb.contents := rfl

theorem Ringbuffer.Wf.room (wf : rb.Wf) : rb.view.capacity - rb.view.contents.length = rb.available := by
  have := wf.availableLe
  simp only [Ringbuffer.view,Ringbuffer.length_contents,ringbufferSize]
  omega

theorem ringbufferCall_wf (wf : rb.Wf) {call : RingbufferCall} (fits : call.Fits) {rb' : Ringbuffer} {reply : Reply}
    (answered : ringbufferCall rb call = some (rb',reply)) : rb'.Wf ∧ rb'.total = rb.total := by
  cases call with
  | insert p =>
    cases answered
    refine ⟨(ringbufferInsert_spec wf p).1,?_⟩
    rw [ringbufferInsert_eq]
  | delete length =>
    simp only [ringbufferCall,Option.some.injEq,Prod.mk.injEq] at answered
    rw [← answered.1,ringbufferDelete_eq wf]
    exact ⟨(wf.consume (min_le_right _ _)).1,rfl⟩
  | peek offset length =>
    obtain ⟨⟨n,bytes⟩,_,done⟩ := Option.map_eq_some_iff.mp answered
    cases done
    exact ⟨wf,rfl⟩
  | pop length =>
    rw [ringbufferCall,ringbufferPop_eq wf fits,Option.map_some,Option.some.injEq,Prod.mk.injEq] at answered
    rw [← answered.1]
    exact ⟨(wf.consume (min_le_right _ _)).1,rfl⟩

theorem ringbufferCall_refines (wf : rb.Wf) {call : RingbufferCall} (fits : call.Fits) :
    (ringbufferCall rb call).map (fun (s,o) => (s.view,o)) = rb.view.call call := by
  cases call with
  | insert p =>
    have returned : (ringbufferInsert rb p).2 = min p.length rb.available := by
      rw [ringbufferInsert_eq]
    simp only [ringbufferCall,Fifo.call,Option.map_some,wf.room,returned,Option.some.injEq,Prod.mk.injEq,and_true]
    ext1
    · rw [ringbufferInsert_eq]
      rfl
    · exact (ringbufferInsert_spec wf p).2
  | delete length =>
    simp only [ringbufferCall,Fifo.call,Option.map_some,ringbufferDelete_eq wf,Option.some.injEq,Prod.mk.injEq]
    refine ⟨?_,by rw [Ringbuffer.view_contents,Ringbuffer.length_contents]⟩
    ext1
    · rfl
    · simp only [Ringbuffer.view_contents,(wf.consume (min_le_right _ _)).2,Ringbuffer.length_contents]
  | peek offset length =>
    by_cases within : offset ≤ ringbufferSize rb
    · simp only [ringbufferCall,Fifo.call,ringbufferPeek_eq wf fits within,Option.map_some,
        Ringbuffer.view_contents,Ringbuffer.length_contents,if_pos within]
    · have beyond : ¬offset ≤ rb.view.contents.length := by rwa [Ringbuffer.view,Ringbuffer.length_contents]
      simp only [ringbufferCall,Fifo.call,ringbufferPeek_none length within,Option.map_none,if_neg beyond]
  | pop length =>
    simp only [ringbufferCall,Fifo.call,ringbufferPop_eq wf fits,Option.map_some,Option.some.injEq,Prod.mk.injEq]
    refine ⟨?_,by rw [Ringbuffer.view_contents,Ringbuffer.length_contents,List.take_eq_take_min,Ringbuffer.length_contents]⟩
    ext1
    · rfl
    · simp only [Ringbuffer.view_contents,(wf.consume (min_le_right _ _)).2,Ringbuffer.length_contents]

def Ringbuffer.Inv (n : Nat) (rb : Ringbuffer) : Prop := rb.Wf ∧ rb.total = n

theorem ringbufferCall_inv {n : Nat} (inv : rb.Inv n) {call : RingbufferCall} (fits : call.Fits) {rb' : Ringbuffer}
    {reply : Reply} (answered : ringbufferCall rb call = some (rb',reply)) : rb'.Inv n := by
  obtain ⟨wf',total⟩ := ringbufferCall_wf inv.1 fits answered
  exact ⟨wf',total.trans inv.2⟩

theorem ringbuffer_refines_fifo (n : Nat) (positive : 0 < n) (calls : List RingbufferCall)
    (fits : ∀ call ∈ calls, call.Fits) :
    (transduce ringbufferCall (ringbufferInit n) calls).map (fun (rb,replies) => (rb.view,replies)) =
        transduce Fifo.call (Fifo.empty n) calls ∧
      ∀ rb replies, transduce ringbufferCall (ringbufferInit n) calls = some (rb,replies) →
        ringbufferAvailable rb + ringbufferSize rb = n ∧ rb.head < n ∧ rb.tail < n := by
  have init : (ringbufferInit n).Inv n := ⟨ringbufferInit_wf positive,rfl⟩
  have keeps : ∀ s call s' reply, s.Inv n → call.Fits → ringbufferCall s call = some (s',reply) → s'.Inv n :=
    fun _ _ _ _ inv fits answered => ringbufferCall_inv inv fits answered
  refine ⟨?_,fun rb replies ran => ?_⟩
  · rw [← ringbufferInit_view n]
    exact Machine.transduce_refines Ringbuffer.view keeps (fun _ _ inv fits => ringbufferCall_refines inv.1 fits)
      calls init fits
  · obtain ⟨wf,total⟩ := Machine.transduce_keeps keeps calls init fits ran
    rw [← total]
    exact ⟨wf.size_add,wf.headLt,wf.tailLt⟩

theorem ringbuffer_refines_fifo_sample :
    0 < 4 ∧ (∀ call ∈ [.insert [1,2,3],.peek 1 5,.pop 2,.insert [4,5,6],.delete 1], RingbufferCall.Fits call) ∧
      ((transduce ringbufferCall (ringbufferInit 4) [.insert [1,2,3],.peek 1 5,.pop 2,.insert [4,5,6],.delete 1]).map
          (fun (rb,replies) => (rb.view,replies)) =
        transduce Fifo.call (Fifo.empty 4) [.insert [1,2,3],.peek 1 5,.pop 2,.insert [4,5,6],.delete 1] ∧
      ∀ rb replies,
        transduce ringbufferCall (ringbufferInit 4) [.insert [1,2,3],.peek 1 5,.pop 2,.insert [4,5,6],.delete 1] =
          some (rb,replies) →
        ringbufferAvailable rb + ringbufferSize rb = 4 ∧ rb.head < 4 ∧ rb.tail < 4) :=
  ⟨by decide,by decide,ringbuffer_refines_fifo 4 (by decide) _ (by decide)⟩

-- With offset + length past 2^64 the size_t sum wraps: peek copies length
-- bytes, far past the one byte held and past p, where the FIFO copies none.
theorem ringbuffer_peek_length_wraps :
    (transduce ringbufferCall (ringbufferInit 1) [.insert [7],.peek 1 (2 ^ 64 - 1)]).map
        (fun (_,replies) => replies.map Reply.returned) = some [1,2 ^ 64 - 1] ∧
      (transduce Fifo.call (Fifo.empty 1) [.insert [7],.peek 1 (2 ^ 64 - 1)]).map
        (fun (_,replies) => replies.map Reply.returned) = some [1,0] := by
  decide

end Refinement

end BluetoothStack.Osi
