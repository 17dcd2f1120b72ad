import BluetoothStack.Gatt.Database
import BluetoothStack.Lib.LowerBound

namespace BluetoothStack.Gatt

open LowerBound

def handleMin : Nat := 0x0001
def handleMax : Nat := 0xffff

-- gatt::DatabaseBuilder. The set services_to_discover is a list kept in the
-- pairs' lexicographic order without repeats.
structure DatabaseBuilder where
  database : Database
  pendingService : Nat × Nat
  pendingCharacteristic : Nat
  servicesToDiscover : List (Nat × Nat)
  descriptorHandlesToRead : List Nat

section Builder

def insertRange (range : Nat × Nat) : List (Nat × Nat) → List (Nat × Nat)
  | [] => [range]
  | other :: rest =>
    if range = other then other :: rest
    else if range.1 < other.1 ∨ range.1 = other.1 ∧ range.2 < other.2 then range :: other :: rest
    else other :: insertRange range rest

-- At the back when the service starts after the last one ends, else before the
-- first that does not end before it (std::lower_bound, vector::emplace).
def addServiceTo (services : List Service) (service : Service) : List Service :=
  match services.getLast? with
  | none => [service]
  | some last =>
    if last.endHandle < service.handle then services ++ [service]
    else
      let pos := lowerBound (fun other => decide (other.endHandle < service.handle)) services
      services.take pos ++ service :: services.drop pos

def DatabaseBuilder.addService (builder : DatabaseBuilder) (handle endHandle : Nat) (uuid : Uuid)
    (isPrimary : Bool) : DatabaseBuilder :=
  {builder with
    database := ⟨addServiceTo builder.database.services ⟨handle,isPrimary,uuid,endHandle,[],[]⟩⟩
    servicesToDiscover := insertRange (handle,endHandle) builder.servicesToDiscover}

-- FindService and a write through the pointer it returns: the first service
-- whose range holds the handle is changed, or none is found.
def modifyService (handle : Nat) (change : Service → Service) : List Service → Option (List Service)
  | [] => none
  | service :: rest =>
    if handleInRange service handle then some (change service :: rest)
    else (modifyService handle change rest).map (service :: ·)

def DatabaseBuilder.addCharacteristic (builder : DatabaseBuilder) (handle valueHandle : Nat) (uuid : Uuid)
    (properties : Nat) : DatabaseBuilder :=
  let add (service : Service) : Service :=
    {service with characteristics := service.characteristics ++ [⟨handle,uuid,valueHandle,properties,[]⟩]}
  match modifyService handle add builder.database.services with
  | none => builder
  | some services => {builder with database := ⟨services⟩}

-- The characteristic AddDescriptor attaches to; the first one even when it is
-- declared after the handle.
def attachDescriptor (handle : Nat) (desc : Descriptor) : List Characteristic → List Characteristic
  | [] => []
  | [charac] => [{charac with descriptors := charac.descriptors ++ [desc]}]
  | charac :: next :: rest =>
    if next.declarationHandle > handle then {charac with descriptors := charac.descriptors ++ [desc]} :: next :: rest
    else charac :: attachDescriptor handle desc (next :: rest)

def DatabaseBuilder.addDescriptor (builder : DatabaseBuilder) (handle : Nat) (uuid : Uuid) : DatabaseBuilder :=
  match findService builder.database.services handle with
  | none => builder
  | some service =>
    if service.characteristics = [] then builder
    else
      let attach (service : Service) : Service :=
        {service with characteristics := attachDescriptor handle ⟨handle,uuid,0⟩ service.characteristics}
      {builder with
        database := ⟨(modifyService handle attach builder.database.services).getD builder.database.services⟩
        descriptorHandlesToRead :=
          if uuid = uuidCharacteristicExtendedProperties then builder.descriptorHandlesToRead ++ [handle]
          else builder.descriptorHandlesToRead}

-- The loop of StartNextServiceExploration over services_to_discover: each
-- range taken is erased, and an empty service declaration is skipped.
def startFrom (builder : DatabaseBuilder) : List (Nat × Nat) → Bool × DatabaseBuilder
  | [] => (false,{builder with servicesToDiscover := []})
  | range :: rest =>
    if range.1 = range.2 then startFrom {builder with pendingService := range} rest
    else (true,{builder with pendingService := range,servicesToDiscover := rest,pendingCharacteristic := handleMin})

def DatabaseBuilder.startNextServiceExploration (builder : DatabaseBuilder) : Bool × DatabaseBuilder :=
  startFrom builder builder.servicesToDiscover

-- end in NextDescriptorRangeToExplore: one before the next characteristic's
-- declaration, in uint16_t, or the service's end.
def rangeEnd (endHandle : Nat) : List Characteristic → Nat
  | next :: _ => (next.declarationHandle + 65535) % 65536
  | [] => endHandle

-- The loop of NextDescriptorRangeToExplore; start = declaration + 2 is in
-- uint16_t.
def nextRange (pending endHandle : Nat) : List Characteristic → Option (Nat × Nat)
  | [] => none
  | charac :: rest =>
    if charac.declarationHandle > pending then
      let start := (charac.declarationHandle + 2) % 65536
      if start > rangeEnd endHandle rest then nextRange pending endHandle rest
      else some (start,rangeEnd endHandle rest)
    else nextRange pending endHandle rest

def DatabaseBuilder.nextDescriptorRangeToExplore (builder : DatabaseBuilder) : (Nat × Nat) × DatabaseBuilder :=
  match findService builder.database.services builder.pendingService.1 with
  | none => ((handleMax,handleMax),builder)
  | some service =>
    if service.characteristics = [] then ((handleMax,handleMax),builder)
    else
      match nextRange builder.pendingCharacteristic service.endHandle service.characteristics with
      | some range => (range,{builder with pendingCharacteristic := range.1})
      | none => ((handleMax,handleMax),{builder with pendingCharacteristic := handleMax})

def DatabaseBuilder.nextDescriptorRanges : Nat → DatabaseBuilder → List (Nat × Nat)
  | 0,_ => []
  | n + 1,builder =>
    let (range,builder) := builder.nextDescriptorRangeToExplore
    range :: nextDescriptorRanges n builder

end Builder

section Sorted

structure ServicesSorted (services : List Service) : Prop where
  ranges : ∀ service ∈ services, service.handle ≤ service.endHandle
  sorted : services.Pairwise fun service later => service.endHandle < later.handle

def Service.Apart (service other : Service) : Prop :=
  service.endHandle < other.handle ∨ other.endHandle < service.handle

theorem Service.Apart.symm {service other : Service} (apart : service.Apart other) : other.Apart service :=
  Or.symm apart

theorem ServicesSorted.partitioned {services : List Service} (keeps : ServicesSorted services) (handle : Nat) :
    Partitioned (fun other => decide (other.endHandle < handle)) services :=
  keeps.sorted.imp_of_mem fun {_ later} _ memLater before ends => by
    have := keeps.ranges later memLater
    simp only [decide_eq_true_eq] at ends ⊢
    omega

theorem addServiceTo_perm (services : List Service) (service : Service) :
    (addServiceTo services service).Perm (service :: services) := by
  unfold addServiceTo
  split
  · rename_i empty
    rw [List.getLast?_eq_none_iff.mp empty]
  · split
    · exact List.perm_append_singleton service services
    · have whole := List.take_append_drop (lowerBound (fun other => decide (other.endHandle < service.handle)) services)
        services
      exact List.perm_middle.trans (by rw [whole])

-- The fast path at the back is the case where every service ends before it.
theorem addServiceTo_eq {services : List Service} (keeps : ServicesSorted services) (service : Service) :
    addServiceTo services service =
      services.takeWhile (fun other => decide (other.endHandle < service.handle)) ++
        service :: services.dropWhile (fun other => decide (other.endHandle < service.handle)) := by
  unfold addServiceTo
  split
  · rename_i empty
    simp [List.getLast?_eq_none_iff.mp empty]
  · rename_i last lastIs
    split
    · rename_i after
      -- every service ends no later than the last one
      have ends : ∀ other ∈ services, decide (other.endHandle < service.handle) = true := by
        obtain ⟨init,rfl⟩ := List.getLast?_eq_some_iff.mp lastIs
        intro other mem
        rcases List.mem_append.mp mem with mem | isLast
        · have before := (List.pairwise_append.mp keeps.sorted).2.2 other mem last (by simp)
          have := keeps.ranges last (by simp)
          simp only [decide_eq_true_eq]
          omega
        · simpa [List.mem_singleton.mp isLast] using after
      rw [List.takeWhile_eq_self_iff.mpr ends,List.dropWhile_eq_nil_iff.mpr ends]
    · exact insert_lowerBound (keeps.partitioned service.handle) service

theorem addServiceTo_sorted {services : List Service} {service : Service} (keeps : ServicesSorted services)
    (range : service.handle ≤ service.endHandle) (apart : ∀ other ∈ services, service.Apart other) :
    ServicesSorted (addServiceTo services service) := by
  refine ⟨fun other mem => ?_,?_⟩
  · rcases List.mem_cons.mp ((addServiceTo_perm services service).mem_iff.mp mem) with rfl | old
    · exact range
    · exact keeps.ranges other old
  · have whole := keeps.sorted
    rw [← List.takeWhile_append_dropWhile (p := fun other => decide (other.endHandle < service.handle))
      (l := services)] at whole
    obtain ⟨before,after,across⟩ := List.pairwise_append.mp whole
    rw [addServiceTo_eq keeps service,List.pairwise_append,List.pairwise_cons]
    refine ⟨before,⟨fun later mem => ?_,after⟩,fun other mem later memLater => ?_⟩
    · -- a service left after the new one does not end before it, so it starts after it
      have fails := (keeps.partitioned service.handle).dropWhile_fails later mem
      simp only [decide_eq_false_iff_not] at fails
      rcases apart later ((List.dropWhile_sublist _).subset mem) with starts | ends
      · exact starts
      · exact absurd ends fails
    · rcases List.mem_cons.mp memLater with rfl | memLater
      · simpa using List.mem_takeWhile_imp mem
      · exact across other mem later memLater

structure AddServiceCall where
  handle : Nat
  endHandle : Nat
  uuid : Uuid
  isPrimary : Bool

def AddServiceCall.service (call : AddServiceCall) : Service := ⟨call.handle,call.isPrimary,call.uuid,call.endHandle,[],[]⟩

def DatabaseBuilder.addServices (builder : DatabaseBuilder) (calls : List AddServiceCall) : DatabaseBuilder :=
  calls.foldl (fun builder call => builder.addService call.handle call.endHandle call.uuid call.isPrimary) builder

-- By induction on the calls, each one an instance of addServiceTo_sorted.
theorem addServices_keeps {builder : DatabaseBuilder} {calls : List AddServiceCall}
    (keeps : ServicesSorted builder.database.services) (ranges : ∀ call ∈ calls, call.handle ≤ call.endHandle)
    (apart : ∀ call ∈ calls, ∀ other ∈ builder.database.services, call.service.Apart other)
    (disjoint : calls.Pairwise fun call later => call.service.Apart later.service) :
    ServicesSorted (builder.addServices calls).database.services := by
  induction calls generalizing builder with
  | nil => exact keeps
  | cons call calls ih =>
    obtain ⟨first,disjoint⟩ := List.pairwise_cons.mp disjoint
    have added : ServicesSorted (addServiceTo builder.database.services call.service) :=
      addServiceTo_sorted keeps (ranges call (by simp)) (apart call (by simp))
    refine ih added (fun later mem => ranges later (by simp [mem])) (fun later mem other memOther => ?_) disjoint
    rcases List.mem_cons.mp ((addServiceTo_perm _ call.service).mem_iff.mp memOther) with rfl | old
    · exact (first later mem).symm
    · exact apart later (by simp [mem]) other old

theorem addServices_sorted (builder : DatabaseBuilder) (calls : List AddServiceCall)
    (fresh : builder.database.services = []) (ranges : ∀ call ∈ calls, call.handle ≤ call.endHandle)
    (disjoint : calls.Pairwise fun call later => call.service.Apart later.service) :
    (builder.addServices calls).database.services.Pairwise fun service later => service.handle < later.handle := by
  have keeps := @addServices_keeps builder calls (by rw [fresh]; exact ⟨by simp,by simp⟩) ranges (by simp [fresh]) disjoint
  exact keeps.sorted.imp_of_mem fun {service _} mem _ ends => Nat.lt_of_le_of_lt (keeps.ranges service mem) ends

theorem addServices_sorted_sample :
    (⟨⟨[]⟩,(0,0),0,[],[]⟩ : DatabaseBuilder).database.services = [] ∧
      (∀ call ∈ [(⟨20,30,Uuid.from16Bit 0x180F,true⟩ : AddServiceCall),⟨1,10,Uuid.from16Bit 0x1800,true⟩],
        call.handle ≤ call.endHandle) ∧
      [(⟨20,30,Uuid.from16Bit 0x180F,true⟩ : AddServiceCall),⟨1,10,Uuid.from16Bit 0x1800,true⟩].Pairwise
        (fun call later => call.service.Apart later.service) ∧
      ((⟨⟨[]⟩,(0,0),0,[],[]⟩ : DatabaseBuilder).addServices
          [⟨20,30,Uuid.from16Bit 0x180F,true⟩,⟨1,10,Uuid.from16Bit 0x1800,true⟩]).database.services.Pairwise
        fun service later => service.handle < later.handle := by
  have fresh : (⟨⟨[]⟩,(0,0),0,[],[]⟩ : DatabaseBuilder).database.services = [] := rfl
  have ranges : ∀ call ∈ [(⟨20,30,Uuid.from16Bit 0x180F,true⟩ : AddServiceCall),⟨1,10,Uuid.from16Bit 0x1800,true⟩],
      call.handle ≤ call.endHandle := by decide
  have disjoint : [(⟨20,30,Uuid.from16Bit 0x180F,true⟩ : AddServiceCall),⟨1,10,Uuid.from16Bit 0x1800,true⟩].Pairwise
      (fun call later => call.service.Apart later.service) := by
    simp [Service.Apart,AddServiceCall.service]
  exact ⟨fresh,ranges,disjoint,addServices_sorted _ _ fresh ranges disjoint⟩

end Sorted

section Explore

-- What descriptor discovery is for: the handles after each characteristic's
-- declaration and value up to the next declaration.
def descriptorGaps (endHandle : Nat) : List Nat → List (Nat × Nat)
  | [] => []
  | [decl] => if decl + 2 ≤ endHandle then [(decl + 2,endHandle)] else []
  | decl :: next :: rest =>
    (if decl + 2 ≤ next - 1 then [(decl + 2,next - 1)] else []) ++ descriptorGaps endHandle (next :: rest)

theorem length_descriptorGaps_le (endHandle : Nat) (decls : List Nat) :
    (descriptorGaps endHandle decls).length ≤ decls.length := by
  induction decls with
  | nil => simp [descriptorGaps]
  | cons decl rest ih =>
    cases rest with
    | nil => unfold descriptorGaps; split <;> simp
    | cons next rest =>
      unfold descriptorGaps
      split <;> simp only [List.length_append,List.length_cons,List.length_nil] at ih ⊢ <;> omega

theorem descriptorGaps_start {endHandle decl : Nat} {rest : List Nat} (increasing : (decl :: rest).Pairwise (· < ·)) :
    ∀ range ∈ descriptorGaps endHandle (decl :: rest), decl + 2 ≤ range.1 := by
  induction rest generalizing decl with
  | nil =>
    intro range mem
    simp only [descriptorGaps] at mem
    split at mem <;> simp_all
  | cons next rest ih =>
    obtain ⟨first,increasing⟩ := List.pairwise_cons.mp increasing
    intro range mem
    simp only [descriptorGaps,List.mem_append] at mem
    rcases mem with here | later
    · split at here <;> simp_all
    · have := ih increasing range later
      have := first next (by simp)
      omega

theorem descriptorGaps_increasing (endHandle : Nat) {decls : List Nat} (increasing : decls.Pairwise (· < ·)) :
    (descriptorGaps endHandle decls).Pairwise fun range later => range.2 < later.1 := by
  induction decls with
  | nil => simp [descriptorGaps]
  | cons decl rest ih =>
    cases rest with
    | nil =>
      simp only [descriptorGaps]
      split <;> simp
    | cons next rest =>
      have tail := (List.pairwise_cons.mp increasing).2
      simp only [descriptorGaps]
      refine List.pairwise_append.mpr ⟨by split <;> simp,ih tail,fun range here later mem => ?_⟩
      split at here
      · have := descriptorGaps_start tail later mem
        simp only [List.mem_singleton] at here
        subst here
        simp only
        omega
      · cases here

def declarations (chars : List Characteristic) : List Nat := chars.map (·.declarationHandle)

@[simp] theorem declarations_nil : declarations [] = [] := rfl

@[simp] theorem declarations_cons (charac : Characteristic) (chars : List Characteristic) :
    declarations (charac :: chars) = charac.declarationHandle :: declarations chars := rfl

theorem mem_declarations {charac : Characteristic} {chars : List Characteristic} (mem : charac ∈ chars) :
    charac.declarationHandle ∈ declarations chars :=
  List.mem_map_of_mem mem

theorem nextRange_append_of_le {pending endHandle : Nat} {pre : List Characteristic} (suf : List Characteristic)
    (before : ∀ charac ∈ pre, charac.declarationHandle ≤ pending) :
    nextRange pending endHandle (pre ++ suf) = nextRange pending endHandle suf := by
  induction pre with
  | nil => rfl
  | cons charac pre ih =>
    have passed : ¬charac.declarationHandle > pending := Nat.not_lt.mpr (before charac (by simp))
    rw [List.cons_append,nextRange,if_neg passed,ih fun other mem => before other (by simp [mem])]

theorem rangeEnd_cons {endHandle : Nat} {next : Characteristic} (rest : List Characteristic)
    (declared : 0 < next.declarationHandle) (below : next.declarationHandle ≤ 0xFFFD) :
    rangeEnd endHandle (next :: rest) = next.declarationHandle - 1 := by
  rw [rangeEnd]
  omega

theorem nextRange_eq_head {pending endHandle : Nat} {chars : List Characteristic}
    (increasing : (declarations chars).Pairwise (· < ·)) (after : ∀ charac ∈ chars, pending < charac.declarationHandle)
    (below : ∀ charac ∈ chars, charac.declarationHandle ≤ 0xFFFD) :
    nextRange pending endHandle chars = (descriptorGaps endHandle (declarations chars)).head? := by
  induction chars with
  | nil => rfl
  | cons charac rest ih =>
    have start : (charac.declarationHandle + 2) % 65536 = charac.declarationHandle + 2 :=
      Nat.mod_eq_of_lt (by have := below charac (by simp); omega)
    rw [nextRange,if_pos (after charac (by simp)),start]
    cases rest with
    | nil =>
      rw [show rangeEnd endHandle [] = endHandle from rfl]
      simp only [declarations_cons,declarations_nil,descriptorGaps]
      by_cases fits : charac.declarationHandle + 2 ≤ endHandle
      · rw [if_neg (show ¬charac.declarationHandle + 2 > endHandle by omega),if_pos fits]
        rfl
      · rw [if_pos (show charac.declarationHandle + 2 > endHandle by omega),if_neg fits]
        rfl
    | cons next rest =>
      obtain ⟨first,increasing⟩ := List.pairwise_cons.mp increasing
      have ordered : charac.declarationHandle < next.declarationHandle := first _ (by simp)
      rw [rangeEnd_cons rest (by omega) (below next (by simp)),
        ih increasing (fun other mem => after other (by simp [mem])) (fun other mem => below other (by simp [mem]))]
      simp only [declarations_cons,descriptorGaps]
      split <;> split <;> first | rfl | omega

theorem descriptorGaps_eq_cons {endHandle : Nat} {chars : List Characteristic} {range : Nat × Nat}
    {rest : List (Nat × Nat)} (increasing : (declarations chars).Pairwise (· < ·))
    (gaps : descriptorGaps endHandle (declarations chars) = range :: rest) :
    ∃ mid later, chars = mid ++ later ∧ mid ≠ [] ∧ (∀ charac ∈ mid, charac.declarationHandle < range.1) ∧
      (∀ charac ∈ later, range.1 < charac.declarationHandle) ∧ descriptorGaps endHandle (declarations later) = rest := by
  induction chars with
  | nil => simp [descriptorGaps] at gaps
  | cons charac chars ih =>
    cases chars with
    | nil =>
      simp only [declarations_cons,declarations_nil,descriptorGaps] at gaps
      split at gaps
      · obtain ⟨rfl,rfl⟩ := List.cons.inj gaps
        exact ⟨[charac],[],by simp,by simp,by simp,by simp,rfl⟩
      · cases gaps
    | cons next chars =>
      rw [declarations_cons] at increasing
      obtain ⟨first,increasing⟩ := List.pairwise_cons.mp increasing
      simp only [declarations_cons,descriptorGaps] at gaps
      split at gaps
      · -- the gap right after this characteristic is not empty: it is the one returned
        rename_i open_
        obtain ⟨rfl,rfl⟩ := List.cons.inj gaps
        refine ⟨[charac],next :: chars,rfl,by simp,by simp,fun other mem => ?_,rfl⟩
        rcases List.mem_cons.mp mem with rfl | mem
        · omega
        · have := first other.declarationHandle (mem_declarations (List.mem_cons_of_mem next mem))
          have : next.declarationHandle < other.declarationHandle :=
            (List.pairwise_cons.mp increasing).1 _ (mem_declarations mem)
          omega
      · -- an empty gap: the one returned is further on
        obtain ⟨mid,later,split,nonempty,before,after,gaps⟩ := ih increasing gaps
        refine ⟨charac :: mid,later,by rw [split]; rfl,by simp,fun other mem => ?_,after,gaps⟩
        rcases List.mem_cons.mp mem with rfl | mem
        · obtain ⟨inner,memInner⟩ := List.exists_mem_of_ne_nil mid nonempty
          have := first inner.declarationHandle (mem_declarations (split ▸ List.mem_append_left later memInner))
          have := before inner memInner
          omega
        · exact before other mem

theorem nextDescriptorRangeToExplore_of_found {builder : DatabaseBuilder} {service : Service}
    (found : findService builder.database.services builder.pendingService.1 = some service) :
    builder.nextDescriptorRangeToExplore =
      match nextRange builder.pendingCharacteristic service.endHandle service.characteristics with
      | some range => (range,{builder with pendingCharacteristic := range.1})
      | none => ((handleMax,handleMax),
          if service.characteristics = [] then builder else {builder with pendingCharacteristic := handleMax}) := by
  rw [DatabaseBuilder.nextDescriptorRangeToExplore,found]
  dsimp only
  split
  · rename_i empty
    simp [empty,nextRange]
  · rename_i nonempty
    split <;> simp

-- By induction on the number of calls; each moves the split past the gap it
-- returns (descriptorGaps_eq_cons).
theorem nextDescriptorRanges_of_split {builder : DatabaseBuilder} {service : Service}
    (found : findService builder.database.services builder.pendingService.1 = some service)
    (increasing : (declarations service.characteristics).Pairwise (· < ·))
    (below : ∀ charac ∈ service.characteristics, charac.declarationHandle ≤ 0xFFFD)
    {pre suf : List Characteristic} (split : service.characteristics = pre ++ suf)
    (before : ∀ charac ∈ pre, charac.declarationHandle ≤ builder.pendingCharacteristic)
    (after : ∀ charac ∈ suf, builder.pendingCharacteristic < charac.declarationHandle) (n : Nat) :
    builder.nextDescriptorRanges n =
      (descriptorGaps service.endHandle (declarations suf)).take n ++
        List.replicate (n - (descriptorGaps service.endHandle (declarations suf)).length) (handleMax,handleMax) := by
  induction n generalizing builder pre suf with
  | zero => simp [DatabaseBuilder.nextDescriptorRanges]
  | succ n ih =>
    have sufIncreasing : (declarations suf).Pairwise (· < ·) := by
      rw [split,declarations,List.map_append] at increasing
      exact (List.pairwise_append.mp increasing).2.1
    have first : nextRange builder.pendingCharacteristic service.endHandle service.characteristics =
        (descriptorGaps service.endHandle (declarations suf)).head? := by
      rw [split,nextRange_append_of_le suf before]
      exact nextRange_eq_head sufIncreasing after fun charac mem => below charac (by simp [split,mem])
    rw [DatabaseBuilder.nextDescriptorRanges,nextDescriptorRangeToExplore_of_found found,first]
    cases gaps : descriptorGaps service.endHandle (declarations suf) with
    | nil =>
      -- no gap left: {HANDLE_MAX, HANDLE_MAX}, now and at every later call
      simp only [List.head?_nil]
      have rest : ∀ next : DatabaseBuilder, next.database = builder.database →
          next.pendingService = builder.pendingService →
          (∀ charac ∈ service.characteristics, charac.declarationHandle ≤ next.pendingCharacteristic) →
          next.nextDescriptorRanges n = List.replicate n (handleMax,handleMax) := by
        intro next database pendingService passed
        have := @ih next (by rw [database,pendingService]; exact found) service.characteristics [] (by simp) passed
          (by simp)
        simpa [descriptorGaps] using this
      split
      · rename_i empty
        rw [rest builder rfl rfl (by simp [empty])]
        simp [List.replicate_succ]
      · rw [rest {builder with pendingCharacteristic := handleMax} rfl rfl fun charac mem => by
          have := below charac mem
          simp only [handleMax]
          omega]
        simp [List.replicate_succ]
    | cons range rest =>
      -- the call returns the first gap and moves the cursor to its start
      obtain ⟨mid,later,splitSuf,nonempty,midBefore,laterAfter,restGaps⟩ := descriptorGaps_eq_cons sufIncreasing gaps
      obtain ⟨inner,memInner⟩ := List.exists_mem_of_ne_nil mid nonempty
      have moved : builder.pendingCharacteristic < range.1 :=
        Nat.lt_trans (after inner (by simp [splitSuf,memInner])) (midBefore inner memInner)
      have := @ih {builder with pendingCharacteristic := range.1} found (pre ++ mid) later
        (by rw [split,splitSuf,List.append_assoc])
        (fun charac mem => by
          rcases List.mem_append.mp mem with old | new
          · exact Nat.le_of_lt (Nat.lt_of_le_of_lt (before charac old) moved)
          · exact Nat.le_of_lt (midBefore charac new))
        laterAfter
      simp only [List.head?_cons]
      rw [this,restGaps]
      simp

theorem startFrom_started {builder next : DatabaseBuilder} {ranges : List (Nat × Nat)}
    (started : startFrom builder ranges = (true,next)) :
    next.pendingCharacteristic = handleMin ∧ next.database = builder.database := by
  induction ranges generalizing builder with
  | nil => simp [startFrom] at started
  | cons range rest ih =>
    rw [startFrom] at started
    split at started
    · -- an empty service declaration is skipped; the database stays
      obtain ⟨pending,database⟩ := ih started
      exact ⟨pending,database⟩
    · cases started
      exact ⟨rfl,rfl⟩

theorem nextDescriptorRanges_eq_gaps {builder explored : DatabaseBuilder} {service : Service}
    (started : builder.startNextServiceExploration = (true,explored))
    (found : findService explored.database.services explored.pendingService.1 = some service)
    (increasing : (declarations service.characteristics).Pairwise (· < ·))
    (after : ∀ charac ∈ service.characteristics, handleMin < charac.declarationHandle)
    (below : ∀ charac ∈ service.characteristics, charac.declarationHandle ≤ 0xFFFD) (n : Nat) :
    explored.nextDescriptorRanges n =
      (descriptorGaps service.endHandle (declarations service.characteristics)).take n ++
        List.replicate (n - (descriptorGaps service.endHandle (declarations service.characteristics)).length)
          (handleMax,handleMax) := by
  have start := (startFrom_started started).1
  exact nextDescriptorRanges_of_split found increasing below (List.nil_append _).symm (by simp)
    (fun charac mem => start ▸ after charac mem) n

-- start = 0xFFFE + 2 is 0 in uint16_t: the calls cycle between two ranges and
-- never return {HANDLE_MAX, HANDLE_MAX}.
theorem nextDescriptorRange_wraps_at_handle_max (pendingService : Nat × Nat) (pendingCharacteristic n : Nat) :
    descriptorGaps 0xFFFF [0xFFF1,0xFFFE] = [(0xFFF3,0xFFFD)] ∧
      ((((DatabaseBuilder.mk ⟨[]⟩ pendingService pendingCharacteristic [] []).addService 0xFFF0 0xFFFF
        (Uuid.from16Bit 0x180F) true).addCharacteristic 0xFFF1 0xFFF2 (Uuid.from16Bit 0x2A19) 0x02).addCharacteristic
          0xFFFE 0xFFFF (Uuid.from16Bit 0x2A19) 0x02).startNextServiceExploration.2.nextDescriptorRanges 3 =
        [(0xFFF3,0xFFFD),(0,0xFFFF),(0xFFF3,0xFFFD)] ∧
      (handleMax,handleMax) ∉ ((((DatabaseBuilder.mk ⟨[]⟩ pendingService pendingCharacteristic [] []).addService
        0xFFF0 0xFFFF (Uuid.from16Bit 0x180F) true).addCharacteristic 0xFFF1 0xFFF2 (Uuid.from16Bit 0x2A19)
          0x02).addCharacteristic 0xFFFE 0xFFFF (Uuid.from16Bit 0x2A19) 0x02).startNextServiceExploration.2.nextDescriptorRanges n := by
  set explored := ((((DatabaseBuilder.mk ⟨[]⟩ pendingService pendingCharacteristic [] []).addService 0xFFF0 0xFFFF
    (Uuid.from16Bit 0x180F) true).addCharacteristic 0xFFF1 0xFFF2 (Uuid.from16Bit 0x2A19) 0x02).addCharacteristic
      0xFFFE 0xFFFF (Uuid.from16Bit 0x2A19) 0x02).startNextServiceExploration.2
  -- the calls move only the cursor, from 0 to 0xFFF3 and back
  have fromZero : ({explored with pendingCharacteristic := 0}).nextDescriptorRangeToExplore =
      ((0xFFF3,0xFFFD),{explored with pendingCharacteristic := 0xFFF3}) := rfl
  have fromMiddle : ({explored with pendingCharacteristic := 0xFFF3}).nextDescriptorRangeToExplore =
      ((0,0xFFFF),{explored with pendingCharacteristic := 0}) := rfl
  have cycle : ∀ n, (handleMax,handleMax) ∉ ({explored with pendingCharacteristic := 0}).nextDescriptorRanges n ∧
      (handleMax,handleMax) ∉ ({explored with pendingCharacteristic := 0xFFF3}).nextDescriptorRanges n := by
    intro n
    induction n with
    | zero => simp [DatabaseBuilder.nextDescriptorRanges]
    | succ n ih =>
      simp only [DatabaseBuilder.nextDescriptorRanges,fromZero,fromMiddle,List.mem_cons,not_or]
      exact ⟨⟨by decide,ih.2⟩,⟨by decide,ih.1⟩⟩
  have fromStart : explored.nextDescriptorRangeToExplore =
      ((0xFFF3,0xFFFD),{explored with pendingCharacteristic := 0xFFF3}) := rfl
  refine ⟨by decide,rfl,?_⟩
  cases n with
  | zero => simp [DatabaseBuilder.nextDescriptorRanges]
  | succ n =>
    simp only [DatabaseBuilder.nextDescriptorRanges,fromStart,List.mem_cons,not_or]
    exact ⟨by decide,(cycle n).2⟩

end Explore

end BluetoothStack.Gatt
