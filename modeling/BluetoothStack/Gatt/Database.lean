import BluetoothStack.Gatt.Hash

namespace BluetoothStack.Gatt

-- A value-initialised Uuid: all sixteen bytes zero, as in Uuid::kEmpty.
def emptyUuid : Uuid := Uuid.kEmpty

def uuidPrimaryService : Uuid := Uuid.from16Bit gattUuidPriService.toUInt16
def uuidSecondaryService : Uuid := Uuid.from16Bit gattUuidSecService.toUInt16
def uuidInclude : Uuid := Uuid.from16Bit gattUuidIncludeService.toUInt16
def uuidCharacteristic : Uuid := Uuid.from16Bit gattUuidCharDeclare.toUInt16
def uuidCharacteristicExtendedProperties : Uuid := Uuid.from16Bit gattUuidCharExtProp.toUInt16

section Stored

-- gatt::StoredAttribute: the union of its value keeps each member; one
-- Serialize does not write is zero.
structure StoredService where
  uuid : Uuid
  endHandle : Nat
deriving DecidableEq

structure StoredIncludedService where
  handle : Nat
  endHandle : Nat
  uuid : Uuid
deriving DecidableEq

structure StoredCharacteristic where
  properties : Nat
  valueHandle : Nat
  uuid : Uuid
deriving DecidableEq

structure StoredValue where
  service : StoredService
  includedService : StoredIncludedService
  characteristic : StoredCharacteristic
  characteristicExtendedProperties : Nat
deriving DecidableEq

structure StoredAttribute where
  handle : Nat
  type : Uuid
  value : StoredValue
deriving DecidableEq

def StoredValue.zero : StoredValue := ⟨⟨emptyUuid,0⟩,⟨0,0,emptyUuid⟩,⟨0,0,emptyUuid⟩,0⟩

end Stored

section Serialize

def Service.storedAttribute (service : Service) : StoredAttribute :=
  ⟨service.handle,if service.isPrimary then uuidPrimaryService else uuidSecondaryService,
    {StoredValue.zero with service := ⟨service.uuid,service.endHandle⟩}⟩

def IncludedService.storedAttribute (included : IncludedService) : StoredAttribute :=
  ⟨included.handle,uuidInclude,
    {StoredValue.zero with includedService := ⟨included.startHandle,included.endHandle,included.uuid⟩}⟩

-- A descriptor is stored under its own UUID as type, with a value only for
-- Characteristic Extended Properties.
def Descriptor.storedAttribute (desc : Descriptor) : StoredAttribute :=
  if desc.uuid = uuidCharacteristicExtendedProperties then
    ⟨desc.handle,desc.uuid,{StoredValue.zero with characteristicExtendedProperties := desc.characteristicExtendedProperties}⟩
  else ⟨desc.handle,desc.uuid,StoredValue.zero⟩

def Characteristic.storedAttribute (charac : Characteristic) : StoredAttribute :=
  ⟨charac.declarationHandle,uuidCharacteristic,
    {StoredValue.zero with characteristic := ⟨charac.properties,charac.valueHandle,charac.uuid⟩}⟩

def Characteristic.storedAttributes (charac : Characteristic) : List StoredAttribute :=
  charac.storedAttribute :: charac.descriptors.map Descriptor.storedAttribute

def Service.storedMembers (service : Service) : List StoredAttribute :=
  service.includedServices.map IncludedService.storedAttribute ++
    service.characteristics.flatMap Characteristic.storedAttributes

-- Database::Serialize: every service first, then per service its included
-- services and its characteristics, each followed by its descriptors.
def Database.serialize (database : Database) : List StoredAttribute :=
  database.services.map Service.storedAttribute ++ database.services.flatMap Service.storedMembers

end Serialize

section Deserialize

def handleInRange (service : Service) (handle : Nat) : Bool := handle ≥ service.handle && handle ≤ service.endHandle

def findService (services : List Service) (handle : Nat) : Option Service := services.find? (handleInRange · handle)

-- How Deserialize ends: with success set to true or false and the database
-- built so far, or in undefined behaviour (back() of an empty vector).
inductive Loaded where
  | undefined
  | done (database : Database) (success : Bool)
deriving DecidableEq

def deserializeServices : List StoredAttribute → List Service × List StoredAttribute
  | [] => ([],[])
  | attr :: rest =>
    if attr.type ≠ uuidPrimaryService ∧ attr.type ≠ uuidSecondaryService then ([],attr :: rest)
    else
      let (services,rest) := deserializeServices rest
      (⟨attr.handle,attr.type = uuidPrimaryService,attr.value.service.uuid,attr.value.service.endHandle,[],[]⟩ :: services,
        rest)

-- The cursor over result.services, as the services before it (nearest first)
-- and those from it on.
def advanceCursor (handle : Nat) : List Service → List Service → List Service × List Service
  | done,[] => (done,[])
  | done,service :: current =>
    if service.endHandle < handle then advanceCursor handle (service :: done) current else (done,service :: current)

inductive LoadStep where
  | filled (service : Service)
  | failed
  | undefined
deriving DecidableEq

def loadMember (services : List Service) (service : Service) (attr : StoredAttribute) : LoadStep :=
  if attr.type = uuidInclude then
    match findService services attr.value.includedService.handle with
    | none => .failed
    | some _ =>
      .filled {service with includedServices := service.includedServices ++
        [⟨attr.handle,attr.value.includedService.uuid,attr.value.includedService.handle,
          attr.value.includedService.endHandle⟩]}
  else if attr.type = uuidCharacteristic then
    .filled {service with characteristics := service.characteristics ++
      [⟨attr.handle,attr.value.characteristic.uuid,attr.value.characteristic.valueHandle,
        attr.value.characteristic.properties,[]⟩]}
  else if service.characteristics = [] then .undefined
  else
    let desc : Descriptor := if attr.type = uuidCharacteristicExtendedProperties then
      ⟨attr.handle,attr.type,attr.value.characteristicExtendedProperties⟩ else ⟨attr.handle,attr.type,0⟩
    .filled {service with characteristics := addToLast service.characteristics desc}

-- The second loop over the remaining attributes; services is what the first
-- loop read, which FindService searches (the loop changes no range).
def deserializeMembers (services : List Service) : List Service → List Service → List StoredAttribute → Loaded
  | done,current,[] => .done ⟨done.reverse ++ current⟩ true
  | done,current,attr :: rest =>
    match advanceCursor attr.handle done current with
    | (done,[]) => .done ⟨done.reverse⟩ false
    | (done,service :: current) =>
      if !handleInRange service attr.handle then .done ⟨done.reverse ++ service :: current⟩ false
      else
        match loadMember services service attr with
        | .filled service => deserializeMembers services done (service :: current) rest
        | .failed => .done ⟨done.reverse ++ service :: current⟩ false
        | .undefined => .undefined

def Database.deserialize (nvAttr : List StoredAttribute) : Loaded :=
  let (services,rest) := deserializeServices nvAttr
  deserializeMembers services [] services rest

end Deserialize

section Cursor

theorem advanceCursor_past (handle : Nat) (done : List Service) {mid post : List Service} {service : Service}
    (before : ∀ t ∈ mid, t.endHandle < handle) (reaches : ¬service.endHandle < handle) :
    advanceCursor handle done (mid ++ service :: post) = (mid.reverse ++ done,service :: post) := by
  induction mid generalizing done with
  | nil => simp [advanceCursor,reaches]
  | cons t mid ih =>
    rw [List.cons_append,advanceCursor,if_pos (before t List.mem_cons_self),
      ih _ (fun t' mem => before t' (List.mem_cons_of_mem _ mem))]
    simp

theorem deserializeMembers_member {services done post : List Service} {service filled : Service}
    {attr : StoredAttribute} (inside : handleInRange service attr.handle = true)
    (loaded : loadMember services service attr = .filled filled) (tail : List StoredAttribute) :
    deserializeMembers services done (service :: post) (attr :: tail) =
      deserializeMembers services done (filled :: post) tail := by
  have stays : ¬service.endHandle < attr.handle := by
    simp only [handleInRange,Bool.and_eq_true,decide_eq_true_eq] at inside
    omega
  have advanced := @advanceCursor_past attr.handle done [] post service (by simp) stays
  simp only [List.nil_append,List.reverse_nil] at advanced
  simp only [deserializeMembers,advanced,inside,Bool.not_true,Bool.false_eq_true,if_false,loaded]

end Cursor

section RoundTrip

def Service.bare (service : Service) : Service := {service with includedServices := [],characteristics := []}

-- The descriptors Serialize stores so that Deserialize reads them back.
structure Descriptor.Plain (desc : Descriptor) : Prop where
  notService : desc.uuid ≠ uuidPrimaryService ∧ desc.uuid ≠ uuidSecondaryService
  notInclude : desc.uuid ≠ uuidInclude
  notCharacteristic : desc.uuid ≠ uuidCharacteristic
  noValue : desc.uuid ≠ uuidCharacteristicExtendedProperties → desc.characteristicExtendedProperties = 0

-- Each service a range holding its members, the services sorted and disjoint.
structure Service.Inside (service : Service) : Prop where
  range : service.handle ≤ service.endHandle
  included : ∀ included ∈ service.includedServices, handleInRange service included.handle = true
  declarations : ∀ charac ∈ service.characteristics, handleInRange service charac.declarationHandle = true
  descriptors : ∀ charac ∈ service.characteristics, ∀ desc ∈ charac.descriptors, handleInRange service desc.handle = true

structure Database.WellFormed (database : Database) : Prop where
  services : ∀ service ∈ database.services, service.Inside
  sorted : database.services.Pairwise fun service later => service.endHandle < later.handle

-- What reading back also asks: every included service starts inside a
-- service, and every descriptor is plain.
structure Database.Storable (database : Database) : Prop where
  wellFormed : database.WellFormed
  included : ∀ service ∈ database.services, ∀ included ∈ service.includedServices,
    (findService database.services included.startHandle).isSome
  plain : ∀ service ∈ database.services, ∀ charac ∈ service.characteristics, ∀ desc ∈ charac.descriptors, desc.Plain

@[simp] theorem Descriptor.storedAttribute_handle (desc : Descriptor) : desc.storedAttribute.handle = desc.handle := by
  unfold Descriptor.storedAttribute
  split <;> rfl

theorem declaration_types :
    uuidPrimaryService ≠ uuidSecondaryService ∧ uuidInclude ≠ uuidPrimaryService ∧ uuidInclude ≠ uuidSecondaryService ∧
      uuidCharacteristic ≠ uuidPrimaryService ∧ uuidCharacteristic ≠ uuidSecondaryService ∧
      uuidCharacteristic ≠ uuidInclude := by
  decide

theorem findService_bare (services : List Service) (handle : Nat) :
    (findService (services.map Service.bare) handle).isSome = (findService services handle).isSome := by
  simp only [findService,List.find?_map,Option.isSome_map]
  rfl

theorem addToLast_append (chars : List Characteristic) (charac : Characteristic) (desc : Descriptor) :
    addToLast (chars ++ [charac]) desc = chars ++ [{charac with descriptors := charac.descriptors ++ [desc]}] := by
  simp [addToLast]

section Members

variable {services done post : List Service}

theorem loadMember_included (service : Service) {included : IncludedService}
    (found : (findService services included.startHandle).isSome) :
    loadMember services service included.storedAttribute =
      .filled {service with includedServices := service.includedServices ++ [included]} := by
  obtain ⟨target,found_eq⟩ := Option.isSome_iff_exists.mp found
  simp [loadMember,IncludedService.storedAttribute,found_eq]

theorem loadMember_characteristic (service : Service) (charac : Characteristic) :
    loadMember services service charac.storedAttribute =
      .filled {service with characteristics := service.characteristics ++ [{charac with descriptors := []}]} := by
  simp [loadMember,Characteristic.storedAttribute,declaration_types.2.2.2.2.2]

theorem loadMember_descriptor (service : Service) {desc : Descriptor} (plain : desc.Plain)
    (nonempty : service.characteristics ≠ []) :
    loadMember services service desc.storedAttribute =
      .filled {service with characteristics := addToLast service.characteristics desc} := by
  have same : (if desc.uuid = uuidCharacteristicExtendedProperties then
      (⟨desc.handle,desc.uuid,desc.characteristicExtendedProperties⟩ : Descriptor) else ⟨desc.handle,desc.uuid,0⟩) = desc := by
    split
    · rfl
    · rename_i other
      rw [← plain.noValue other]
  unfold Descriptor.storedAttribute
  split <;> simp [loadMember,plain.notInclude,plain.notCharacteristic,nonempty] <;> simp_all

theorem deserializeMembers_included (service : Service) (included : List IncludedService)
    (inside : ∀ item ∈ included, handleInRange service item.handle = true)
    (found : ∀ item ∈ included, (findService services item.startHandle).isSome) (tail : List StoredAttribute) :
    deserializeMembers services done (service :: post) (included.map IncludedService.storedAttribute ++ tail) =
      deserializeMembers services done ({service with includedServices := service.includedServices ++ included} :: post) tail := by
  induction included generalizing service with
  | nil => simp
  | cons item included ih =>
    rw [List.map_cons,List.cons_append,
      deserializeMembers_member (inside item List.mem_cons_self) (loadMember_included service (found item List.mem_cons_self)),
      ih {service with includedServices := service.includedServices ++ [item]}
        (fun item' mem => inside item' (List.mem_cons_of_mem _ mem)) (fun item' mem => found item' (List.mem_cons_of_mem _ mem))]
    simp

theorem deserializeMembers_descriptors (service : Service) (chars : List Characteristic) (charac : Characteristic)
    (descs : List Descriptor) (inside : ∀ desc ∈ descs, handleInRange service desc.handle = true)
    (plain : ∀ desc ∈ descs, desc.Plain) (tail : List StoredAttribute) :
    deserializeMembers services done ({service with characteristics := chars ++ [charac]} :: post)
        (descs.map Descriptor.storedAttribute ++ tail) =
      deserializeMembers services done
        ({service with characteristics := chars ++ [{charac with descriptors := charac.descriptors ++ descs}]} :: post) tail := by
  induction descs generalizing charac with
  | nil => simp
  | cons desc descs ih =>
    have loaded := @loadMember_descriptor services {service with characteristics := chars ++ [charac]} desc
      (plain desc List.mem_cons_self) (by simp)
    rw [addToLast_append] at loaded
    have within : handleInRange {service with characteristics := chars ++ [charac]} desc.storedAttribute.handle = true := by
      rw [Descriptor.storedAttribute_handle]
      exact inside desc List.mem_cons_self
    rw [List.map_cons,List.cons_append,deserializeMembers_member within loaded]
    have rest := ih {charac with descriptors := charac.descriptors ++ [desc]}
      (fun desc' mem => inside desc' (List.mem_cons_of_mem _ mem)) (fun desc' mem => plain desc' (List.mem_cons_of_mem _ mem))
    simp only at rest
    rw [rest]
    simp

theorem deserializeMembers_characteristics (service : Service) (chars : List Characteristic)
    (declared : ∀ charac ∈ chars, handleInRange service charac.declarationHandle = true)
    (inside : ∀ charac ∈ chars, ∀ desc ∈ charac.descriptors, handleInRange service desc.handle = true)
    (plain : ∀ charac ∈ chars, ∀ desc ∈ charac.descriptors, desc.Plain) (tail : List StoredAttribute) :
    deserializeMembers services done (service :: post) (chars.flatMap Characteristic.storedAttributes ++ tail) =
      deserializeMembers services done ({service with characteristics := service.characteristics ++ chars} :: post) tail := by
  induction chars generalizing service with
  | nil => simp
  | cons charac chars ih =>
    have first := List.mem_cons_self (a := charac) (l := chars)
    simp only [List.flatMap_cons,Characteristic.storedAttributes,List.cons_append,List.append_assoc]
    rw [deserializeMembers_member (declared charac first) (loadMember_characteristic service charac),
      deserializeMembers_descriptors service service.characteristics _ charac.descriptors (inside charac first)
        (plain charac first)]
    have rest := ih {service with characteristics := service.characteristics ++ [charac]}
      (fun charac' mem => declared charac' (List.mem_cons_of_mem _ mem))
      (fun charac' mem => inside charac' (List.mem_cons_of_mem _ mem))
      (fun charac' mem => plain charac' (List.mem_cons_of_mem _ mem))
    simp only [List.nil_append,List.append_assoc,List.cons_append] at rest ⊢
    exact rest

theorem deserializeMembers_service {service : Service} (inside : service.Inside)
    (found : ∀ included ∈ service.includedServices, (findService services included.startHandle).isSome)
    (plain : ∀ charac ∈ service.characteristics, ∀ desc ∈ charac.descriptors, desc.Plain) (tail : List StoredAttribute) :
    deserializeMembers services done (service.bare :: post) (service.storedMembers ++ tail) =
      deserializeMembers services done (service :: post) tail := by
  rw [Service.storedMembers,List.append_assoc,deserializeMembers_included service.bare _ inside.included found,
    deserializeMembers_characteristics {service.bare with includedServices := service.bare.includedServices ++
      service.includedServices} _ inside.declarations inside.descriptors plain]
  rfl

theorem deserializeMembers_advance {mid : List Service} {service : Service} {attr : StoredAttribute}
    (before : ∀ t ∈ mid, t.endHandle < attr.handle) (reaches : ¬service.endHandle < attr.handle) (tail : List StoredAttribute) :
    deserializeMembers services done (mid ++ service :: post) (attr :: tail) =
      deserializeMembers services (mid.reverse ++ done) (service :: post) (attr :: tail) := by
  have moved := @advanceCursor_past attr.handle done mid post service before reaches
  have stays := @advanceCursor_past attr.handle (mid.reverse ++ done) [] post service (by simp) reaches
  simp only [List.nil_append,List.reverse_nil] at stays
  simp only [deserializeMembers,moved,stays]

theorem Service.Inside.members {service : Service} (inside : service.Inside) :
    ∀ attr ∈ service.storedMembers, handleInRange service attr.handle = true := by
  intro attr mem
  simp only [Service.storedMembers,List.mem_append,List.mem_map,List.mem_flatMap,Characteristic.storedAttributes,
    List.mem_cons] at mem
  rcases mem with ⟨included,mem,rfl⟩ | ⟨charac,mem,rfl | ⟨desc,descMem,rfl⟩⟩
  · exact inside.included included mem
  · exact inside.declarations charac mem
  · rw [Descriptor.storedAttribute_handle]
    exact inside.descriptors charac mem desc descMem

theorem Service.bare_of_storedMembers_nil {service : Service} (empty : service.storedMembers = []) :
    service.bare = service := by
  simp only [Service.storedMembers,List.append_eq_nil_iff,List.map_eq_nil_iff,List.flatMap_eq_nil_iff,
    Characteristic.storedAttributes,reduceCtorEq,imp_false] at empty
  obtain ⟨noIncluded,noCharacteristics⟩ := empty
  have none : service.characteristics = [] := List.eq_nil_iff_forall_not_mem.mpr noCharacteristics
  cases service
  simp_all [Service.bare]

theorem deserializeMembers_services (rest : List Service) (inside : ∀ service ∈ rest, service.Inside)
    (sorted : rest.Pairwise fun service later => service.endHandle < later.handle)
    (found : ∀ service ∈ rest, ∀ included ∈ service.includedServices, (findService services included.startHandle).isSome)
    (plain : ∀ service ∈ rest, ∀ charac ∈ service.characteristics, ∀ desc ∈ charac.descriptors, desc.Plain)
    (mid : List Service) (before : ∀ t ∈ mid, ∀ service ∈ rest, t.endHandle < service.handle) :
    deserializeMembers services done (mid ++ rest.map Service.bare) (rest.flatMap Service.storedMembers) =
      .done ⟨done.reverse ++ mid ++ rest⟩ true := by
  induction rest generalizing done mid with
  | nil => simp [deserializeMembers]
  | cons service rest ih =>
    have here := List.mem_cons_self (a := service) (l := rest)
    have later : ∀ t ∈ mid ++ [service], ∀ service' ∈ rest, t.endHandle < service'.handle := by
      intro t mem service' mem'
      rcases List.mem_append.mp mem with mem | single
      · exact before t mem service' (List.mem_cons_of_mem _ mem')
      · rw [List.mem_singleton.mp single]
        exact List.rel_of_pairwise_cons sorted mem'
    have ih' := fun done => @ih done (fun s mem => inside s (List.mem_cons_of_mem _ mem)) sorted.of_cons
      (fun s mem => found s (List.mem_cons_of_mem _ mem)) (fun s mem => plain s (List.mem_cons_of_mem _ mem))
    rw [List.map_cons,List.flatMap_cons]
    cases members : service.storedMembers with
    | nil =>
      rw [List.nil_append,Service.bare_of_storedMembers_nil members,← List.singleton_append,← List.append_assoc,
        ih' done (mid ++ [service]) later]
      simp
    | cons attr attrs =>
      have within := (inside service here).members attr (by rw [members]; exact List.mem_cons_self)
      simp only [handleInRange,Bool.and_eq_true,decide_eq_true_eq] at within
      rw [List.cons_append,deserializeMembers_advance (fun t mem => by have := before t mem service here; omega)
          (by simp only [Service.bare]; omega),
        ← List.cons_append,← members,deserializeMembers_service (inside service here) (found service here)
          (plain service here),← List.singleton_append,
        ih' _ [service] (fun t mem service' mem' => by rw [List.mem_singleton.mp mem]; exact later service (by simp) service' mem')]
      simp

end Members

theorem storedMembers_not_service {service : Service}
    (plain : ∀ charac ∈ service.characteristics, ∀ desc ∈ charac.descriptors, desc.Plain) :
    ∀ attr ∈ service.storedMembers, attr.type ≠ uuidPrimaryService ∧ attr.type ≠ uuidSecondaryService := by
  intro attr mem
  simp only [Service.storedMembers,List.mem_append,List.mem_map,List.mem_flatMap,Characteristic.storedAttributes,
    List.mem_cons] at mem
  rcases mem with ⟨included,-,rfl⟩ | ⟨charac,mem,rfl | ⟨desc,descMem,rfl⟩⟩
  · exact ⟨declaration_types.2.1,declaration_types.2.2.1⟩
  · exact ⟨declaration_types.2.2.2.1,declaration_types.2.2.2.2.1⟩
  · unfold Descriptor.storedAttribute
    split <;> exact (plain charac mem desc descMem).notService

theorem deserializeServices_serialize (services : List Service) (members : List StoredAttribute)
    (stops : ∀ attr ∈ members.head?, attr.type ≠ uuidPrimaryService ∧ attr.type ≠ uuidSecondaryService) :
    deserializeServices (services.map Service.storedAttribute ++ members) = (services.map Service.bare,members) := by
  induction services with
  | nil =>
    cases members with
    | nil => rfl
    | cons attr rest => simp [deserializeServices,stops attr rfl]
  | cons service services ih =>
    have kind : (decide (service.storedAttribute.type = uuidPrimaryService)) = service.isPrimary := by
      cases primary : service.isPrimary <;> simp [Service.storedAttribute,primary,declaration_types.1.symm]
    have isService : ¬(service.storedAttribute.type ≠ uuidPrimaryService ∧
        service.storedAttribute.type ≠ uuidSecondaryService) := by
      cases primary : service.isPrimary <;> simp [Service.storedAttribute,primary]
    rw [List.map_cons,List.cons_append,deserializeServices,if_neg isService,ih]
    simp only [kind,List.map_cons]
    rfl

theorem deserialize_serialize {database : Database} (storable : database.Storable) :
    Database.deserialize database.serialize = .done database true := by
  obtain ⟨⟨inside,sorted⟩,found,plain⟩ := storable
  have stops : ∀ attr ∈ (database.services.flatMap Service.storedMembers).head?,
      attr.type ≠ uuidPrimaryService ∧ attr.type ≠ uuidSecondaryService := by
    intro attr head
    obtain ⟨service,mem,memAttr⟩ := List.mem_flatMap.mp (List.mem_of_mem_head? head)
    exact storedMembers_not_service (plain service mem) attr memAttr
  have foundBare : ∀ service ∈ database.services, ∀ included ∈ service.includedServices,
      (findService (database.services.map Service.bare) included.startHandle).isSome := by
    intro service mem included memIncluded
    rw [findService_bare]
    exact found service mem included memIncluded
  rw [Database.deserialize,Database.serialize,deserializeServices_serialize _ _ stops]
  have run := @deserializeMembers_services (database.services.map Service.bare) [] database.services inside sorted
    foundBare plain [] (by simp)
  simpa using run

theorem deserialize_serialize_sample :
    (⟨[⟨1,true,Uuid.from16Bit 0x180F,5,[],[⟨2,Uuid.from16Bit 0x2A19,3,0x12,[⟨4,Uuid.from16Bit 0x2902,0⟩]⟩]⟩]⟩ :
        Database).Storable ∧
      Database.deserialize
          (⟨[⟨1,true,Uuid.from16Bit 0x180F,5,[],[⟨2,Uuid.from16Bit 0x2A19,3,0x12,[⟨4,Uuid.from16Bit 0x2902,0⟩]⟩]⟩]⟩ :
            Database).serialize =
        .done ⟨[⟨1,true,Uuid.from16Bit 0x180F,5,[],[⟨2,Uuid.from16Bit 0x2A19,3,0x12,[⟨4,Uuid.from16Bit 0x2902,0⟩]⟩]⟩]⟩
          true := by
  have storable : (⟨[⟨1,true,Uuid.from16Bit 0x180F,5,[],
      [⟨2,Uuid.from16Bit 0x2A19,3,0x12,[⟨4,Uuid.from16Bit 0x2902,0⟩]⟩]⟩]⟩ : Database).Storable := by
    refine ⟨⟨fun service mem => ?_,List.pairwise_singleton _ _⟩,fun service mem => ?_,fun service mem => ?_⟩ <;>
      rw [List.mem_singleton.mp mem]
    · exact ⟨by decide,by simp,by decide,by decide⟩
    · simp
    · intro charac held desc within
      rw [List.mem_singleton.mp held] at within
      rw [List.mem_singleton.mp within]
      exact ⟨⟨by decide,by decide⟩,by decide,by decide,fun _ => rfl⟩
  exact ⟨storable,deserialize_serialize storable⟩

-- A descriptor before any characteristic of its service makes Deserialize call
-- back() on an empty vector; one typed 0x2803 comes back as a characteristic.
theorem deserialize_breaks_on_stray_descriptor :
    Database.deserialize [⟨1,uuidPrimaryService,{StoredValue.zero with service := ⟨Uuid.from16Bit 0x180F,10⟩}⟩,
        ⟨2,Uuid.from16Bit 0x2902,StoredValue.zero⟩] = .undefined ∧
      Database.deserialize
          (⟨[⟨1,true,Uuid.from16Bit 0x180F,10,[],[⟨2,Uuid.from16Bit 0x2A19,3,0x12,[⟨4,uuidCharacteristic,0⟩]⟩]⟩]⟩ :
            Database).serialize =
        .done ⟨[⟨1,true,Uuid.from16Bit 0x180F,10,[],[⟨2,Uuid.from16Bit 0x2A19,3,0x12,[]⟩,⟨4,emptyUuid,0,0,[]⟩]⟩]⟩
          true :=
  ⟨by decide,by decide⟩

end RoundTrip

end BluetoothStack.Gatt
