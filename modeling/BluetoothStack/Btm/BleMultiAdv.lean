import BluetoothStack.Lib.Chunks

namespace BluetoothStack.Btm

-- DivideAndSendDataRecursively binds itself, with the next offset, as the
-- sender's completion callback: the completions drive the recursion.

def extAdvDataLenMax : Nat := 251

def periodicAdvDataLenMax : Nat := 252

inductive Operation where
  | intermediate
  | first
  | last
  | complete
  deriving DecidableEq, Repr

def Operation.code : Operation → UInt8
  | .intermediate => 0x00
  | .first => 0x01
  | .last => 0x02
  | .complete => 0x03

-- (int)data.size(): the size's low 32 bits read as a two's-complement int.
def sizeToInt (n : Nat) : Int :=
  if n % 2 ^ 32 < 2 ^ 31 then ((n % 2 ^ 32 : Nat) : Int) else ((n % 2 ^ 32 : Nat) : Int) - 2 ^ 32

def advDataLengthMax (isPeriodicAdvData : Bool) : Nat :=
  if isPeriodicAdvData then periodicAdvDataLenMax else extAdvDataLenMax

theorem sizeToInt_of_lt {n : Nat} (small : n < 2 ^ 31) : sizeToInt n = n := by
  rw [sizeToInt,Nat.mod_eq_of_lt (by omega),if_pos small]

theorem advDataLengthMax_pos (isPeriodicAdvData : Bool) : 0 < advDataLengthMax isPeriodicAdvData := by
  cases isPeriodicAdvData <;> decide

theorem advDataLengthMax_lt (isPeriodicAdvData : Bool) : advDataLengthMax isPeriodicAdvData < 2 ^ 8 := by
  cases isPeriodicAdvData <;> decide

theorem ofInt_natCast {k : Nat} (lt : k < 2 ^ 8) : UInt8.ofInt (k : Int) = UInt8.ofNat k ∧ (UInt8.ofNat k).toNat = k := by
  have mod : ((k : Int) % 2 ^ 8).toNat = k := by omega
  exact ⟨by rw [UInt8.ofInt,mod],by rw [UInt8.toNat_ofNat',Nat.mod_eq_of_lt lt]⟩

-- One call of DivideAndSendDataRecursively: either done_cb runs, or the
-- sender is given a fragment and the offset the bound callback resumes at.
inductive Step where
  | done (status : UInt8)
  | send (operation : Operation) (length : UInt8) (fragment : List UInt8) (newOffset : Int)
  deriving DecidableEq, Repr

-- The pointer data.data() + offset is taken before data moves into the bound
-- callback: the arguments are evaluated from left to right.
def divideAndSendDataRecursively (isFirst isPeriodicAdvData : Bool) (data : List UInt8) (offset : Int)
    (status : UInt8) : Step :=
  let dataSize := sizeToInt data.length
  if status ≠ 0 ∨ (isFirst = false ∧ offset = dataSize) then .done status
  else
    let moreThanOnePacket := dataSize - offset > advDataLengthMax isPeriodicAdvData
    let operation : Operation :=
      if isFirst then (if moreThanOnePacket then .first else .complete)
      else if moreThanOnePacket then .intermediate else .last
    let length : Int := if moreThanOnePacket then advDataLengthMax isPeriodicAdvData else dataSize - offset
    .send operation (UInt8.ofInt length) ((data.drop offset.toNat).take (UInt8.ofInt length).toNat) (offset + length)

inductive Event where
  | sender (instId : UInt8) (operation : Operation) (length : UInt8) (fragment : List UInt8)
  | doneCb (status : UInt8)
  deriving DecidableEq, Repr

-- Each completion the sender reports runs the callback bound to the fragment
-- before it.
def sendDataFrom (instId : UInt8) (isPeriodicAdvData : Bool) (data : List UInt8) (isFirst : Bool) (offset : Int)
    (status : UInt8) (completions : List UInt8) : List Event :=
  match divideAndSendDataRecursively isFirst isPeriodicAdvData data offset status with
  | .done status => [.doneCb status]
  | .send operation length fragment newOffset =>
    .sender instId operation length fragment :: match completions with
      | [] => []
      | next :: later => sendDataFrom instId isPeriodicAdvData data false newOffset next later

def divideAndSendData (instId : UInt8) (data : List UInt8) (isPeriodicAdvData : Bool) (completions : List UInt8) :
    List Event :=
  sendDataFrom instId isPeriodicAdvData data true 0 0 completions

section Step

variable {isFirst isPeriodicAdvData : Bool} {data : List UInt8}

-- What one call does, for data whose size the int holds.

theorem divideAndSendDataRecursively_failed {offset : Int} {status : UInt8} (failed : status ≠ 0) :
    divideAndSendDataRecursively isFirst isPeriodicAdvData data offset status = .done status := by
  rw [divideAndSendDataRecursively,if_pos (.inl failed)]

theorem divideAndSendDataRecursively_ended (small : data.length < 2 ^ 31) (status : UInt8) :
    divideAndSendDataRecursively false isPeriodicAdvData data data.length status = .done status := by
  rw [divideAndSendDataRecursively,sizeToInt_of_lt small,if_pos (by simp)]

theorem divideAndSendDataRecursively_more (small : data.length < 2 ^ 31) {offset : Nat}
    (more : advDataLengthMax isPeriodicAdvData < (data.drop offset).length) :
    divideAndSendDataRecursively isFirst isPeriodicAdvData data offset 0 =
      .send (if isFirst then .first else .intermediate) (UInt8.ofNat (advDataLengthMax isPeriodicAdvData))
        ((data.drop offset).take (advDataLengthMax isPeriodicAdvData))
        (offset + advDataLengthMax isPeriodicAdvData : Nat) := by
  rw [List.length_drop] at more
  obtain ⟨cast,fits⟩ := ofInt_natCast (advDataLengthMax_lt isPeriodicAdvData)
  have split : (data.length : Int) - offset > advDataLengthMax isPeriodicAdvData := by omega
  rw [divideAndSendDataRecursively,sizeToInt_of_lt small,if_neg (by rintro (bad | ⟨-,ended⟩); exacts [bad rfl,by omega])]
  simp only [split,↓reduceIte,cast,fits,Int.toNat_natCast,Int.natCast_add]

theorem divideAndSendDataRecursively_last (small : data.length < 2 ^ 31) {offset : Nat} (le : offset ≤ data.length)
    (started : isFirst = true ∨ offset < data.length) (within : (data.drop offset).length ≤ advDataLengthMax isPeriodicAdvData) :
    divideAndSendDataRecursively isFirst isPeriodicAdvData data offset 0 =
      .send (if isFirst then .complete else .last) (UInt8.ofNat (data.drop offset).length) (data.drop offset)
        data.length := by
  rw [List.length_drop] at within ⊢
  obtain ⟨cast,fits⟩ := ofInt_natCast (Nat.lt_of_le_of_lt within (advDataLengthMax_lt isPeriodicAdvData))
  have split : ¬(data.length : Int) - offset > advDataLengthMax isPeriodicAdvData := by omega
  have rest : (data.length : Int) - offset = (data.length - offset : Nat) := by omega
  have stays : isFirst = false → (offset : Int) ≠ data.length := by
    intro later
    rcases started with first | lt
    · rw [first] at later
      cases later
    · omega
  rw [divideAndSendDataRecursively,sizeToInt_of_lt small,if_neg (by rintro (bad | ⟨later,ended⟩); exacts [bad rfl,stays later ended])]
  have ends : (offset : Int) + (data.length - offset : Nat) = data.length := by omega
  simp only [split,↓reduceIte]
  rw [rest,cast,fits,Int.toNat_natCast,ends,List.take_of_length_le (Nat.le_of_eq (List.length_drop ..))]

end Step

section Run

variable {instId : UInt8} {isPeriodicAdvData : Bool} {data : List UInt8}

theorem sendDataFrom_done {isFirst : Bool} {offset : Int} {status done : UInt8}
    (stepped : divideAndSendDataRecursively isFirst isPeriodicAdvData data offset status = .done done)
    (completions : List UInt8) :
    sendDataFrom instId isPeriodicAdvData data isFirst offset status completions = [.doneCb done] := by
  rw [sendDataFrom,stepped]

theorem sendDataFrom_sent {isFirst : Bool} {offset newOffset : Int} {status : UInt8} {operation : Operation}
    {length : UInt8} {fragment : List UInt8}
    (stepped : divideAndSendDataRecursively isFirst isPeriodicAdvData data offset status =
      .send operation length fragment newOffset) (next : UInt8) (later : List UInt8) :
    sendDataFrom instId isPeriodicAdvData data isFirst offset status (next :: later) =
      .sender instId operation length fragment :: sendDataFrom instId isPeriodicAdvData data false newOffset next later := by
  rw [sendDataFrom,stepped]

end Run

section Fragments

-- What the fragmentation is for: the data cut into pieces of at most the
-- command's maximum, each sent with the operation that says where it stands.

def fragmentsOf (isPeriodicAdvData : Bool) (data : List UInt8) : List (List UInt8) :=
  Chunks.cut (advDataLengthMax isPeriodicAdvData) data

def laterOperations (k : Nat) : List Operation := List.replicate (k - 1) .intermediate ++ [.last]

def fragmentOperations (k : Nat) : List Operation := if k = 1 then [.complete] else .first :: laterOperations (k - 1)

def sentFragments (instId : UInt8) (isPeriodicAdvData isFirst : Bool) (rest : List UInt8) : List Event :=
  List.zipWith (fun operation fragment => .sender instId operation (UInt8.ofNat fragment.length) fragment)
    ((if isFirst then fragmentOperations else laterOperations) (fragmentsOf isPeriodicAdvData rest).length)
    (fragmentsOf isPeriodicAdvData rest)

theorem operations_succ (isFirst : Bool) {k : Nat} (positive : 0 < k) :
    (if isFirst then fragmentOperations else laterOperations) (k + 1) =
      (if isFirst then .first else .intermediate) :: laterOperations k := by
  obtain ⟨j,rfl⟩ : ∃ j, k = j + 1 := ⟨k - 1,by omega⟩
  cases isFirst
  · rfl
  · simp [fragmentOperations]

theorem operations_one (isFirst : Bool) :
    (if isFirst then fragmentOperations else laterOperations) 1 = [if isFirst then .complete else .last] := by
  cases isFirst <;> rfl

theorem sentFragments_of_more {isPeriodicAdvData : Bool} (instId : UInt8) (isFirst : Bool) {rest : List UInt8}
    (more : advDataLengthMax isPeriodicAdvData < rest.length) :
    sentFragments instId isPeriodicAdvData isFirst rest =
      .sender instId (if isFirst then .first else .intermediate) (UInt8.ofNat (advDataLengthMax isPeriodicAdvData))
          (rest.take (advDataLengthMax isPeriodicAdvData)) ::
        sentFragments instId isPeriodicAdvData false (rest.drop (advDataLengthMax isPeriodicAdvData)) := by
  have several : 0 < (Chunks.cut (advDataLengthMax isPeriodicAdvData) (rest.drop (advDataLengthMax isPeriodicAdvData))).length :=
    List.length_pos_iff.mpr (Chunks.cut_ne_nil _ _)
  have full : (rest.take (advDataLengthMax isPeriodicAdvData)).length = advDataLengthMax isPeriodicAdvData :=
    List.length_take_of_le (Nat.le_of_lt more)
  rw [sentFragments,fragmentsOf,Chunks.cut_of_lt (advDataLengthMax_pos _) more,List.length_cons,
    operations_succ isFirst several,List.zipWith_cons_cons,full]
  rfl

theorem sentFragments_of_le {isPeriodicAdvData : Bool} (instId : UInt8) (isFirst : Bool) {rest : List UInt8}
    (within : rest.length ≤ advDataLengthMax isPeriodicAdvData) :
    sentFragments instId isPeriodicAdvData isFirst rest =
      [.sender instId (if isFirst then .complete else .last) (UInt8.ofNat rest.length) rest] := by
  rw [sentFragments,fragmentsOf,Chunks.cut_of_le within,List.length_singleton,operations_one]
  rfl

end Fragments

section Refinement

variable {instId : UInt8} {isPeriodicAdvData : Bool} {data : List UInt8}

-- Induction on the cut of the rest of the data: each full fragment moves the
-- offset on by the maximum.
theorem sendDataFrom_stops (small : data.length < 2 ^ 31) (rest : List UInt8) :
    ∀ (offset : Nat) (isFirst : Bool), data.drop offset = rest → offset ≤ data.length →
      (isFirst = true ∨ offset < data.length) →
      ∀ (i : Nat) (status : UInt8) (later : List UInt8), i < (fragmentsOf isPeriodicAdvData rest).length →
        (status ≠ 0 ∨ i + 1 = (fragmentsOf isPeriodicAdvData rest).length) →
        sendDataFrom instId isPeriodicAdvData data isFirst offset 0 (List.replicate i 0 ++ status :: later) =
          (sentFragments instId isPeriodicAdvData isFirst rest).take (i + 1) ++ [.doneCb status] := by
  induction rest using Chunks.cut.induct (advDataLengthMax isPeriodicAdvData) with
  | case1 rest split ih =>
    intro offset isFirst dropped le started i status later lt stops
    have more : advDataLengthMax isPeriodicAdvData < (data.drop offset).length := by rw [dropped]; exact split.2
    have moved : data.drop (offset + advDataLengthMax isPeriodicAdvData) = rest.drop (advDataLengthMax isPeriodicAdvData) := by
      rw [← dropped,List.drop_drop]
    have count : (fragmentsOf isPeriodicAdvData rest).length =
        (fragmentsOf isPeriodicAdvData (rest.drop (advDataLengthMax isPeriodicAdvData))).length + 1 := by
      rw [fragmentsOf,fragmentsOf,Chunks.cut_of_lt split.1 split.2,List.length_cons]
    have longer : offset + advDataLengthMax isPeriodicAdvData < data.length := by
      rw [List.length_drop] at more
      omega
    have stepped := @divideAndSendDataRecursively_more isFirst isPeriodicAdvData data small offset more
    rw [dropped] at stepped
    rw [sentFragments_of_more instId isFirst split.2]
    cases i with
    | zero =>
      have several : 0 < (Chunks.cut (advDataLengthMax isPeriodicAdvData) (rest.drop (advDataLengthMax isPeriodicAdvData))).length :=
        List.length_pos_iff.mpr (Chunks.cut_ne_nil _ _)
      have failed : status ≠ 0 := stops.resolve_right (by rw [count]; exact Nat.ne_of_lt (by simpa [fragmentsOf] using several))
      rw [List.replicate_zero,List.nil_append,sendDataFrom_sent stepped,
        sendDataFrom_done (divideAndSendDataRecursively_failed failed)]
      rfl
    | succ i =>
      have rest_stops := ih (offset + advDataLengthMax isPeriodicAdvData) false moved (by omega) (.inr (by omega)) i status later
        (by omega) (stops.imp_right fun last => by omega)
      rw [List.replicate_succ,List.cons_append,sendDataFrom_sent stepped,rest_stops]
      rfl
  | case2 rest whole =>
    intro offset isFirst dropped le started i status later lt stops
    have within : rest.length ≤ advDataLengthMax isPeriodicAdvData := by
      have := advDataLengthMax_pos isPeriodicAdvData
      omega
    have single : (fragmentsOf isPeriodicAdvData rest).length = 1 := by
      rw [fragmentsOf,Chunks.cut_of_le within,List.length_singleton]
    obtain rfl : i = 0 := by omega
    have stepped := @divideAndSendDataRecursively_last isFirst isPeriodicAdvData data small offset le started
      (by rw [dropped]; exact within)
    rw [dropped] at stepped
    rw [List.replicate_zero,List.nil_append,sendDataFrom_sent stepped,
      sendDataFrom_done (divideAndSendDataRecursively_ended small status),sentFragments_of_le instId isFirst within]
    rfl

end Refinement

theorem divideAndSendData_fragments (instId : UInt8) (isPeriodicAdvData : Bool) (data : List UInt8)
    (small : data.length < 2 ^ 31) :
    (fragmentsOf isPeriodicAdvData data).length =
        max 1 ((data.length + advDataLengthMax isPeriodicAdvData - 1) / advDataLengthMax isPeriodicAdvData) ∧
      (fragmentsOf isPeriodicAdvData data).flatten = data ∧
      (∀ fragment ∈ fragmentsOf isPeriodicAdvData data, fragment.length ≤ advDataLengthMax isPeriodicAdvData) ∧
      (∀ fragment ∈ (fragmentsOf isPeriodicAdvData data).dropLast,
        fragment.length = advDataLengthMax isPeriodicAdvData) ∧
      divideAndSendData instId data isPeriodicAdvData (List.replicate (fragmentsOf isPeriodicAdvData data).length 0) =
        sentFragments instId isPeriodicAdvData true data ++ [.doneCb 0] ∧
      ∀ i status later, i < (fragmentsOf isPeriodicAdvData data).length → status ≠ 0 →
        divideAndSendData instId data isPeriodicAdvData (List.replicate i 0 ++ status :: later) =
          (sentFragments instId isPeriodicAdvData true data).take (i + 1) ++ [.doneCb status] := by
  have positive := advDataLengthMax_pos isPeriodicAdvData
  have run := @sendDataFrom_stops instId isPeriodicAdvData data small data 0 true rfl (Nat.zero_le _) (.inl rfl)
  refine ⟨Chunks.length_cut positive data,Chunks.flatten_cut _ data,fun _ => Chunks.length_le_of_mem_cut positive,
    fun _ => Chunks.length_of_mem_dropLast_cut,?_,fun i status later lt failed => run i status later lt (.inl failed)⟩
  obtain ⟨k,sized⟩ : ∃ k, (fragmentsOf isPeriodicAdvData data).length = k + 1 :=
    ⟨_,(Nat.succ_pred_eq_of_pos (List.length_pos_iff.mpr (Chunks.cut_ne_nil _ _))).symm⟩
  have all : (sentFragments instId isPeriodicAdvData true data).length ≤ k + 1 := by
    rw [sentFragments,List.length_zipWith,← sized]
    exact Nat.min_le_right _ _
  rw [sized,List.replicate_succ']
  exact (run k 0 [] (by omega) (.inr sized.symm)).trans (by rw [List.take_of_length_le all])

theorem divideAndSendData_fragments_sample :
    (List.replicate 503 (7 : UInt8)).length < 2 ^ 31 ∧
      (fragmentsOf false (List.replicate 503 7)).length =
          max 1 (((List.replicate 503 (7 : UInt8)).length + advDataLengthMax false - 1) / advDataLengthMax false) ∧
        (fragmentsOf false (List.replicate 503 7)).flatten = List.replicate 503 7 ∧
        (∀ fragment ∈ fragmentsOf false (List.replicate 503 7), fragment.length ≤ advDataLengthMax false) ∧
        (∀ fragment ∈ (fragmentsOf false (List.replicate 503 7)).dropLast, fragment.length = advDataLengthMax false) ∧
        divideAndSendData 1 (List.replicate 503 7) false
            (List.replicate (fragmentsOf false (List.replicate 503 7)).length 0) =
          sentFragments 1 false true (List.replicate 503 7) ++ [.doneCb 0] ∧
        ∀ i status later, i < (fragmentsOf false (List.replicate 503 7)).length → status ≠ 0 →
          divideAndSendData 1 (List.replicate 503 7) false (List.replicate i 0 ++ status :: later) =
            (sentFragments 1 false true (List.replicate 503 7)).take (i + 1) ++ [.doneCb status] := by
  have small : (List.replicate 503 (7 : UInt8)).length < 2 ^ 31 := by
    rw [List.length_replicate]
    decide
  exact ⟨small,divideAndSendData_fragments 1 false (List.replicate 503 7) small⟩

-- Empty data is one complete fragment, with no bytes.
example : divideAndSendData 3 [] true [0] = [.sender 3 .complete 0 [],.doneCb 0] := by decide

-- Past 2^31 bytes the int size is negative: one complete fragment of length
-- (uint8_t)INT_MIN = 0 ends the run.
theorem divideAndSendData_size_wraps :
    divideAndSendData 0 (List.replicate (2 ^ 31) 0) false [0] = [.sender 0 .complete 0 [],.doneCb 0] := by
  -- The size is rewritten before anything is evaluated: the list itself is
  -- never built.
  have size : sizeToInt (List.replicate (2 ^ 31) (0 : UInt8)).length = -2 ^ 31 := by
    rw [List.length_replicate]
    decide
  have negative : ¬(-2 ^ 31 : Int) - 0 > ((advDataLengthMax false : Nat) : Int) := by decide
  have first : divideAndSendDataRecursively true false (List.replicate (2 ^ 31) 0) 0 0 = .send .complete 0 [] (-2 ^ 31) := by
    rw [divideAndSendDataRecursively,size,if_neg (by decide)]
    simp only [negative,↓reduceIte]
    rfl
  have ended : divideAndSendDataRecursively false false (List.replicate (2 ^ 31) 0) (-2 ^ 31) 0 = .done 0 := by
    rw [divideAndSendDataRecursively,size,if_pos (.inr ⟨rfl,rfl⟩)]
  rw [divideAndSendData,sendDataFrom_sent first,sendDataFrom_done ended]

end BluetoothStack.Btm
