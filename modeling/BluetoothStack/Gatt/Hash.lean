import BluetoothStack.Stream
import BluetoothStack.Types.Uuid
import BluetoothStack.Crypto.AesCmac

namespace BluetoothStack.Gatt

def gattUuidPriService : Nat := 0x2800
def gattUuidSecService : Nat := 0x2801
def gattUuidIncludeService : Nat := 0x2802
def gattUuidCharDeclare : Nat := 0x2803
def gattUuidCharExtProp : Nat := 0x2900

-- The descriptors both hashes take by handle and type: 0x2901 to 0x2905.
def hashedDescriptors : List Nat := [0x2901,0x2902,0x2903,0x2904,0x2905]

-- tGATT_ATTR_VALUE, the member each kind of attribute sets.
inductive AttrValue where
  | uuid (uuid : Uuid)
  | inclHandle (sHandle eHandle : Nat) (serviceType : Uuid)
  | charDecl (property charValHandle : Nat)
  | charExtProp (extProp : Nat)

-- tGATT_ATTR: its handle, its type and p_value, null for none.
structure GattAttr where
  handle : Nat
  uuid : Uuid
  pValue : Option AttrValue

structure SvcDb where
  attrList : List GattAttr
  nextHandle : Nat
  endHandle : Nat

-- allocate_attr_in_db; running out of handles is LOG(FATAL).
def allocateAttrInDb (db : SvcDb) (uuid : Uuid) (pValue : Option AttrValue) : Option SvcDb :=
  if db.nextHandle ≥ db.endHandle then none
  else some {db with attrList := db.attrList ++ [⟨db.nextHandle,uuid,pValue⟩],nextHandle := db.nextHandle + 1}

def gattsInitServiceDb (serviceUuid : Uuid) (isPri : Bool) (sHdl numHandle : Nat) : Option SvcDb :=
  allocateAttrInDb ⟨[],sHdl,sHdl + numHandle⟩
    (Uuid.from16Bit (if isPri then gattUuidPriService else gattUuidSecService).toUInt16) (some (.uuid serviceUuid))

def gattsAddIncludedService (db : SvcDb) (sHandle eHandle : Nat) (service : Uuid) : Option SvcDb :=
  if service.isEmpty ∨ sHandle = 0 ∨ eHandle = 0 then some db
  else allocateAttrInDb db (Uuid.from16Bit gattUuidIncludeService.toUInt16) (some (.inclHandle sHandle eHandle service))

def gattsAddCharacteristic (db : SvcDb) (property : Nat) (charUuid : Uuid) : Option SvcDb :=
  (allocateAttrInDb db (Uuid.from16Bit gattUuidCharDeclare.toUInt16) (some (.charDecl property (db.nextHandle + 1)))).bind
    fun db => allocateAttrInDb db charUuid none

def gattsAddCharExtPropDescr (db : SvcDb) (extendedProperties : Nat) : Option SvcDb :=
  allocateAttrInDb db (Uuid.from16Bit gattUuidCharExtProp.toUInt16) (some (.charExtProp extendedProperties))

def gattsAddCharDescr (db : SvcDb) (descrUuid : Uuid) : Option SvcDb := allocateAttrInDb db descrUuid none

-- The calls a service is built with after gatts_init_service_db.
inductive ServiceOp where
  | includedService (sHandle eHandle : Nat) (service : Uuid)
  | characteristic (property : Nat) (charUuid : Uuid)
  | charDescr (descrUuid : Uuid)
  | charExtPropDescr (extendedProperties : Nat)

def applyServiceOp (db : SvcDb) : ServiceOp → Option SvcDb
  | .includedService sHandle eHandle service => gattsAddIncludedService db sHandle eHandle service
  | .characteristic property charUuid => gattsAddCharacteristic db property charUuid
  | .charDescr descrUuid => gattsAddCharDescr db descrUuid
  | .charExtPropDescr extendedProperties => gattsAddCharExtPropDescr db extendedProperties

structure ServiceSpec where
  uuid : Uuid
  isPrimary : Bool
  sHdl : Nat
  numHandle : Nat
  ops : List ServiceOp

def buildServiceDb (spec : ServiceSpec) : Option SvcDb :=
  (gattsInitServiceDb spec.uuid spec.isPrimary spec.sHdl spec.numHandle).bind fun db => spec.ops.foldlM applyServiceOp db

structure SrvListElem where
  isPrimary : Bool
  pDb : SvcDb

section Server

def gattBuildUuidToStreamLen (uuid : Uuid) : Nat :=
  if uuid.getShortestRepresentationSize = 4 then 16 else uuid.getShortestRepresentationSize

-- A 16-bit UUID in two bytes, any other widened to 128 bits, little-endian; the
-- empty UUID writes nothing.
def gattBuildUuidToStream (uuid : Uuid) : List UInt8 :=
  if uuid.isEmpty then []
  else if uuid.getShortestRepresentationSize = 2 then uint16ToStream uuid.as16Bit
  else uuid.to128BitLE

def isServiceDecl (uuid : Uuid) : Bool :=
  uuid = Uuid.from16Bit gattUuidPriService.toUInt16 ∨ uuid = Uuid.from16Bit gattUuidSecService.toUInt16

def isHashedDescriptor (uuid : Uuid) : Bool := hashedDescriptors.any fun value => uuid = Uuid.from16Bit value.toUInt16

def serviceUuidOf : Option AttrValue → Option Uuid
  | some (.uuid uuid) => some uuid
  | _ => none

def inclHandleOf : Option AttrValue → Option (Nat × Nat × Uuid)
  | some (.inclHandle sHandle eHandle serviceType) => some (sHandle,eHandle,serviceType)
  | _ => none

def charDeclOf : Option AttrValue → Option (Nat × Nat)
  | some (.charDecl property charValHandle) => some (property,charValHandle)
  | _ => none

-- p_value ? p_value->char_ext_prop : 0x0000.
def charExtPropOf : Option AttrValue → Option Nat
  | none => some 0
  | some (.charExtProp extProp) => some extProp
  | some _ => none

-- A characteristic declaration also takes the value after it; one at the end of
-- the list reads past it.
def attrsInfoSize : List GattAttr → Option Nat
  | [] => some 0
  | attr :: rest =>
    if isServiceDecl attr.uuid then
      (serviceUuidOf attr.pValue).bind fun uuid => (attrsInfoSize rest).map (4 + gattBuildUuidToStreamLen uuid + ·)
    else if attr.uuid = Uuid.from16Bit gattUuidIncludeService.toUInt16 then
      (inclHandleOf attr.pValue).bind fun incl => (attrsInfoSize rest).map (8 + gattBuildUuidToStreamLen incl.2.2 + ·)
    else if attr.uuid = Uuid.from16Bit gattUuidCharDeclare.toUInt16 then
      match rest with
      | [] => none
      | value :: rest => (attrsInfoSize rest).map (7 + gattBuildUuidToStreamLen value.uuid + ·)
    else if isHashedDescriptor attr.uuid then (attrsInfoSize rest).map (4 + ·)
    else if attr.uuid = Uuid.from16Bit gattUuidCharExtProp.toUInt16 then (attrsInfoSize rest).map (6 + ·)
    else attrsInfoSize rest

def fillAttrs (isPrimary : Bool) : List GattAttr → Option (List UInt8)
  | [] => some []
  | attr :: rest =>
    if isServiceDecl attr.uuid then
      (serviceUuidOf attr.pValue).bind fun uuid => (fillAttrs isPrimary rest).map fun tail =>
        uint16ToStream attr.handle ++ uint16ToStream (if isPrimary then gattUuidPriService else gattUuidSecService) ++
          gattBuildUuidToStream uuid ++ tail
    else if attr.uuid = Uuid.from16Bit gattUuidIncludeService.toUInt16 then
      (inclHandleOf attr.pValue).bind fun (sHandle,eHandle,serviceType) => (fillAttrs isPrimary rest).map fun tail =>
        uint16ToStream attr.handle ++ uint16ToStream gattUuidIncludeService ++ uint16ToStream sHandle ++
          uint16ToStream eHandle ++ gattBuildUuidToStream serviceType ++ tail
    else if attr.uuid = Uuid.from16Bit gattUuidCharDeclare.toUInt16 then
      match rest with
      | [] => none
      | value :: rest =>
        (charDeclOf attr.pValue).bind fun (property,charValHandle) => (fillAttrs isPrimary rest).map fun tail =>
          uint16ToStream attr.handle ++ uint16ToStream gattUuidCharDeclare ++ [UInt8.ofNat property] ++
            uint16ToStream charValHandle ++ gattBuildUuidToStream value.uuid ++ tail
    else if isHashedDescriptor attr.uuid then
      (fillAttrs isPrimary rest).map fun tail => uint16ToStream attr.handle ++ uint16ToStream attr.uuid.as16Bit ++ tail
    else if attr.uuid = Uuid.from16Bit gattUuidCharExtProp.toUInt16 then
      (charExtPropOf attr.pValue).bind fun extProp => (fillAttrs isPrimary rest).map fun tail =>
        uint16ToStream attr.handle ++ uint16ToStream attr.uuid.as16Bit ++ uint16ToStream extProp ++ tail
    else fillAttrs isPrimary rest

-- Several lemmas below unfold both walks at once; tagging them builds their
-- equation lemmas here, once.
attribute [grind] attrsInfoSize fillAttrs

def calculateDatabaseInfoSize (srvList : List SrvListElem) : Option Nat :=
  srvList.foldlM (fun len srv => (attrsInfoSize srv.pDb.attrList).map (len + ·)) 0

def fillDatabaseInfo (srvList : List SrvListElem) : Option (List UInt8) :=
  srvList.foldlM (fun data srv => (fillAttrs srv.isPrimary srv.pDb.attrList).map (data ++ ·)) []

-- The first pass sizes a zeroed buffer, the second fills it, and the buffer is
-- hashed reversed. Writing past the buffer is none.
def gattsCalculateDatabaseHash {α : Type} (aesCmac : List UInt8 → α) (srvList : List SrvListElem) : Option α :=
  (calculateDatabaseInfoSize srvList).bind fun len => (fillDatabaseInfo srvList).bind fun data =>
    if data.length ≤ len then some (aesCmac (data ++ List.replicate (len - data.length) 0).reverse) else none

-- crypto_toolbox::aes_cmac as gatts_calculate_database_hash calls it, with
-- Octet16{0}; none where it is undefined.
def toolboxAesCmac (aesEncrypt : Crypto.Octet16 → Crypto.Octet16 → Crypto.Octet16) (stale : Nat → UInt8)
    (message : List UInt8) : Option Crypto.Octet16 :=
  Crypto.aesCmac aesEncrypt stale Cmac.Block.zero message

end Server

section Client

-- gatt::Database as the hash reads it.
structure Descriptor where
  handle : Nat
  uuid : Uuid
  characteristicExtendedProperties : Nat
deriving DecidableEq

structure Characteristic where
  declarationHandle : Nat
  uuid : Uuid
  valueHandle : Nat
  properties : Nat
  descriptors : List Descriptor
deriving DecidableEq

structure IncludedService where
  handle : Nat
  uuid : Uuid
  startHandle : Nat
  endHandle : Nat
deriving DecidableEq

structure Service where
  handle : Nat
  isPrimary : Bool
  uuid : Uuid
  endHandle : Nat
  includedServices : List IncludedService
  characteristics : List Characteristic
deriving DecidableEq

structure Database where
  services : List Service
deriving DecidableEq

def uuidSize (uuid : Uuid) : Nat :=
  if uuid.getShortestRepresentationSize = 4 then 16 else uuid.getShortestRepresentationSize

def uuidToStream (uuid : Uuid) : List UInt8 :=
  if uuidSize uuid = 2 then uint16ToStream uuid.as16Bit else uuid.to128BitLE

def Descriptor.infoSize (d : Descriptor) : Nat :=
  if uuidSize d.uuid ≠ 2 then 0
  else if d.uuid.as16Bit ∈ hashedDescriptors then 2 + uuidSize d.uuid
  else if d.uuid.as16Bit = gattUuidCharExtProp then 4 + uuidSize d.uuid
  else 0

def Descriptor.info (d : Descriptor) : List UInt8 :=
  if uuidSize d.uuid ≠ 2 then []
  else if d.uuid.as16Bit ∈ hashedDescriptors then uint16ToStream d.handle ++ uint16ToStream d.uuid.as16Bit
  else if d.uuid.as16Bit = gattUuidCharExtProp then
    uint16ToStream d.handle ++ uint16ToStream d.uuid.as16Bit ++ uint16ToStream d.characteristicExtendedProperties
  else []

def Characteristic.infoSize (c : Characteristic) : Nat := 7 + uuidSize c.uuid + (c.descriptors.map Descriptor.infoSize).sum

def Characteristic.info (c : Characteristic) : List UInt8 :=
  uint16ToStream c.declarationHandle ++ uint16ToStream gattUuidCharDeclare ++ [UInt8.ofNat c.properties] ++
    uint16ToStream c.valueHandle ++ uuidToStream c.uuid ++ c.descriptors.flatMap Descriptor.info

def IncludedService.info (is : IncludedService) : List UInt8 :=
  uint16ToStream is.handle ++ uint16ToStream gattUuidIncludeService ++ uint16ToStream is.startHandle ++
    uint16ToStream is.endHandle ++ uuidToStream is.uuid

def Service.infoSize (s : Service) : Nat :=
  4 + uuidSize s.uuid + (s.includedServices.map fun is => 8 + uuidSize is.uuid).sum +
    (s.characteristics.map Characteristic.infoSize).sum

def Service.info (s : Service) : List UInt8 :=
  uint16ToStream s.handle ++ uint16ToStream (if s.isPrimary then gattUuidPriService else gattUuidSecService) ++
    uuidToStream s.uuid ++ s.includedServices.flatMap IncludedService.info ++ s.characteristics.flatMap Characteristic.info

def Database.hash {α : Type} (aesCmac : List UInt8 → α) (d : Database) : Option α :=
  let len := (d.services.map Service.infoSize).sum
  let data := d.services.flatMap Service.info
  if data.length ≤ len then some (aesCmac (data ++ List.replicate (len - data.length) 0).reverse) else none

-- A client files each descriptor under the characteristic before it; one before
-- any characteristic is dropped.
structure ClientBuild where
  includedServices : List IncludedService
  characteristics : List Characteristic
  nextHandle : Nat

def addToLast (chars : List Characteristic) (d : Descriptor) : List Characteristic :=
  match chars.getLast? with
  | none => chars
  | some c => chars.dropLast ++ [{c with descriptors := c.descriptors ++ [d]}]

def clientOp (b : ClientBuild) : ServiceOp → ClientBuild
  | .includedService sHandle eHandle service =>
    if service.isEmpty ∨ sHandle = 0 ∨ eHandle = 0 then b
    else
      let included : IncludedService := ⟨b.nextHandle,service,sHandle,eHandle⟩
      {b with includedServices := b.includedServices ++ [included],nextHandle := b.nextHandle + 1}
  | .characteristic property charUuid =>
    let char : Characteristic := ⟨b.nextHandle,charUuid,b.nextHandle + 1,property,[]⟩
    {b with characteristics := b.characteristics ++ [char],nextHandle := b.nextHandle + 2}
  | .charDescr descrUuid =>
    {b with characteristics := addToLast b.characteristics ⟨b.nextHandle,descrUuid,0⟩,nextHandle := b.nextHandle + 1}
  | .charExtPropDescr extendedProperties =>
    let descriptor : Descriptor := ⟨b.nextHandle,Uuid.from16Bit gattUuidCharExtProp.toUInt16,extendedProperties⟩
    {b with characteristics := addToLast b.characteristics descriptor,nextHandle := b.nextHandle + 1}

def clientService (spec : ServiceSpec) : Service :=
  let b := spec.ops.foldl clientOp ⟨[],[],spec.sHdl + 1⟩
  ⟨spec.sHdl,spec.isPrimary,spec.uuid,spec.sHdl + spec.numHandle - 1,b.includedServices,b.characteristics⟩

end Client

section Uuids

theorem uuidSize_eq (uuid : Uuid) : uuidSize uuid = gattBuildUuidToStreamLen uuid := rfl

theorem uuidToStream_length (uuid : Uuid) : (uuidToStream uuid).length = uuidSize uuid := by
  rcases Uuid.getShortestRepresentationSize_cases uuid with size | size | size <;>
    simp [uuidToStream,uuidSize,Uuid.to128BitLE,uuid.length,size]

theorem gattBuildUuidToStream_eq {uuid : Uuid} (present : uuid.isEmpty = false) :
    gattBuildUuidToStream uuid = uuidToStream uuid := by
  rcases Uuid.getShortestRepresentationSize_cases uuid with size | size | size <;>
    simp [gattBuildUuidToStream,uuidToStream,uuidSize,present,size]

-- The GATT UUID constants are ints, converted to From16Bit's uint16_t.
theorem eq_from16Bit_iff (uuid : Uuid) {value : Nat} (small : value < 65536) :
    uuid = Uuid.from16Bit value.toUInt16 ↔ uuid.getShortestRepresentationSize = 2 ∧ uuid.as16Bit = value := by
  have kept : value.toUInt16.toNat = value := by simpa using small
  rw [Uuid.eq_from16Bit_iff,kept]

theorem uuidSize_two_iff (uuid : Uuid) : uuidSize uuid = 2 ↔ uuid.getShortestRepresentationSize = 2 := by
  rcases Uuid.getShortestRepresentationSize_cases uuid with size | size | size <;> simp [uuidSize,size]

end Uuids

section Calls

def ServiceOp.skipped : ServiceOp → Bool
  | .includedService sHandle eHandle service => service.isEmpty ∨ sHandle = 0 ∨ eHandle = 0
  | _ => false

def ServiceOp.handles : ServiceOp → Nat
  | .characteristic .. => 2
  | op => if op.skipped then 0 else 1

def ServiceOp.attrs (h : Nat) : ServiceOp → List GattAttr
  | .includedService sHandle eHandle service =>
    if service.isEmpty ∨ sHandle = 0 ∨ eHandle = 0 then []
    else [⟨h,Uuid.from16Bit gattUuidIncludeService.toUInt16,some (.inclHandle sHandle eHandle service)⟩]
  | .characteristic property charUuid =>
    [⟨h,Uuid.from16Bit gattUuidCharDeclare.toUInt16,some (.charDecl property (h + 1))⟩,⟨h + 1,charUuid,none⟩]
  | .charDescr descrUuid => [⟨h,descrUuid,none⟩]
  | .charExtPropDescr extendedProperties =>
    [⟨h,Uuid.from16Bit gattUuidCharExtProp.toUInt16,some (.charExtProp extendedProperties)⟩]

def ServiceOp.info (h : Nat) : ServiceOp → List UInt8
  | .includedService sHandle eHandle service =>
    if service.isEmpty ∨ sHandle = 0 ∨ eHandle = 0 then [] else IncludedService.info ⟨h,service,sHandle,eHandle⟩
  | .characteristic property charUuid => Characteristic.info ⟨h,charUuid,h + 1,property,[]⟩
  | .charDescr descrUuid => Descriptor.info ⟨h,descrUuid,0⟩
  | .charExtPropDescr extendedProperties => Descriptor.info ⟨h,Uuid.from16Bit gattUuidCharExtProp.toUInt16,extendedProperties⟩

def opsAttrs : List ServiceOp → Nat → List GattAttr
  | [],_ => []
  | op :: rest,h => op.attrs h ++ opsAttrs rest (h + op.handles)

def opsInfo : List ServiceOp → Nat → List UInt8
  | [],_ => []
  | op :: rest,h => op.info h ++ opsInfo rest (h + op.handles)

-- UUIDs the walks write are not empty, and a descriptor's type is none of the
-- four declarations the server's walk dispatches on.
def ServiceOp.Hashable : ServiceOp → Prop
  | .includedService .. => True
  | .characteristic _ charUuid => charUuid.isEmpty = false
  | .charDescr descrUuid => ∀ value ∈ [gattUuidPriService,gattUuidSecService,gattUuidIncludeService,
      gattUuidCharDeclare], descrUuid ≠ Uuid.from16Bit value.toUInt16
  | .charExtPropDescr _ => True

theorem allocateAttrInDb_some {db db' : SvcDb} {uuid : Uuid} {pValue : Option AttrValue}
    (allocated : allocateAttrInDb db uuid pValue = some db') :
    db'.attrList = db.attrList ++ [⟨db.nextHandle,uuid,pValue⟩] ∧ db'.nextHandle = db.nextHandle + 1 ∧
      db'.endHandle = db.endHandle := by
  unfold allocateAttrInDb at allocated
  split at allocated
  · cases allocated
  · cases allocated
    exact ⟨rfl,rfl,rfl⟩

theorem applyServiceOp_some {db db' : SvcDb} {op : ServiceOp} (applied : applyServiceOp db op = some db') :
    db'.attrList = db.attrList ++ op.attrs db.nextHandle ∧ db'.nextHandle = db.nextHandle + op.handles := by
  cases op with
  | includedService sHandle eHandle service =>
    simp only [applyServiceOp,gattsAddIncludedService] at applied
    by_cases skip : service.isEmpty = true ∨ sHandle = 0 ∨ eHandle = 0
    · rw [if_pos skip] at applied
      cases applied
      simp [ServiceOp.attrs,ServiceOp.handles,ServiceOp.skipped,skip]
    · rw [if_neg skip] at applied
      obtain ⟨attrs,next,_⟩ := allocateAttrInDb_some applied
      simp [ServiceOp.attrs,ServiceOp.handles,ServiceOp.skipped,skip,attrs,next]
  | characteristic property charUuid =>
    simp only [applyServiceOp,gattsAddCharacteristic] at applied
    obtain ⟨mid,declared,valued⟩ := Option.bind_eq_some_iff.mp applied
    obtain ⟨attrs,next,_⟩ := allocateAttrInDb_some declared
    obtain ⟨attrs',next',_⟩ := allocateAttrInDb_some valued
    simp [ServiceOp.attrs,ServiceOp.handles,attrs,attrs',next,next']
  | charDescr descrUuid =>
    obtain ⟨attrs,next,_⟩ := allocateAttrInDb_some applied
    simp [ServiceOp.attrs,ServiceOp.handles,ServiceOp.skipped,attrs,next]
  | charExtPropDescr extendedProperties =>
    obtain ⟨attrs,next,_⟩ := allocateAttrInDb_some applied
    simp [ServiceOp.attrs,ServiceOp.handles,ServiceOp.skipped,attrs,next]

theorem foldlM_applyServiceOp_some : ∀ (ops : List ServiceOp) {db db' : SvcDb},
    ops.foldlM applyServiceOp db = some db' → db'.attrList = db.attrList ++ opsAttrs ops db.nextHandle
  | [],db,db',built => by
    cases built
    simp [opsAttrs]
  | op :: rest,db,db',built => by
    rw [List.foldlM_cons] at built
    obtain ⟨mid,applied,more⟩ := Option.bind_eq_some_iff.mp built
    obtain ⟨attrs,next⟩ := applyServiceOp_some applied
    rw [foldlM_applyServiceOp_some rest more,attrs,next,opsAttrs,List.append_assoc]

theorem isHashedDescriptor_iff (uuid : Uuid) :
    isHashedDescriptor uuid = true ↔ uuidSize uuid = 2 ∧ uuid.as16Bit ∈ hashedDescriptors := by
  simp only [isHashedDescriptor,List.any_eq_true,decide_eq_true_eq,uuidSize_two_iff]
  constructor
  · rintro ⟨value,mem,same⟩
    have small : value < 65536 := by simp [hashedDescriptors] at mem; omega
    obtain ⟨size,held⟩ := (eq_from16Bit_iff uuid small).mp same
    exact ⟨size,held ▸ mem⟩
  · rintro ⟨size,mem⟩
    have small : uuid.as16Bit < 65536 := by simp [hashedDescriptors] at mem; omega
    exact ⟨uuid.as16Bit,mem,(eq_from16Bit_iff uuid small).mpr ⟨size,rfl⟩⟩

theorem fillAttrs_descriptor (isPrimary : Bool) (h : Nat) {descrUuid : Uuid}
    (notService : isServiceDecl descrUuid = false) (notIncluded : descrUuid ≠ Uuid.from16Bit gattUuidIncludeService.toUInt16)
    (notChar : descrUuid ≠ Uuid.from16Bit gattUuidCharDeclare.toUInt16) (pValue : Option AttrValue) (extProp : Nat)
    (valued : charExtPropOf pValue = some extProp) (more : List GattAttr) :
    fillAttrs isPrimary (⟨h,descrUuid,pValue⟩ :: more) =
      (fillAttrs isPrimary more).map (Descriptor.info ⟨h,descrUuid,extProp⟩ ++ ·) := by
  have extIff := eq_from16Bit_iff descrUuid (show gattUuidCharExtProp < 65536 by decide)
  rw [← uuidSize_two_iff] at extIff
  rw [fillAttrs.eq_def]
  simp only [notService,notIncluded,notChar,Bool.false_eq_true,if_false,Descriptor.info]
  by_cases sized : uuidSize descrUuid = 2
  · by_cases hashed : descrUuid.as16Bit ∈ hashedDescriptors
    · simp [(isHashedDescriptor_iff descrUuid).mpr ⟨sized,hashed⟩,sized,hashed]
    · have notHashed : isHashedDescriptor descrUuid = false :=
        Bool.eq_false_iff.mpr fun held => hashed ((isHashedDescriptor_iff descrUuid).mp held).2
      by_cases ext : descrUuid.as16Bit = gattUuidCharExtProp
      · obtain rfl := extIff.mpr ⟨sized,ext⟩
        have extNotHashed : gattUuidCharExtProp ∉ hashedDescriptors := by decide
        simp [notHashed,sized,ext,extNotHashed,valued]
      · simp [notHashed,sized,hashed,ext,extIff]
  · have notHashed : isHashedDescriptor descrUuid = false :=
      Bool.eq_false_iff.mpr fun held => sized ((isHashedDescriptor_iff descrUuid).mp held).1
    simp [notHashed,sized,extIff]

theorem fillAttrs_op (isPrimary : Bool) (h : Nat) {op : ServiceOp} (hashable : op.Hashable) (more : List GattAttr) :
    fillAttrs isPrimary (op.attrs h ++ more) = (fillAttrs isPrimary more).map (op.info h ++ ·) := by
  cases op with
  | includedService sHandle eHandle service =>
    by_cases skip : service.isEmpty = true ∨ sHandle = 0 ∨ eHandle = 0
    · simp [ServiceOp.attrs,ServiceOp.info,skip]
    · have present : service.isEmpty = false := by simpa using (not_or.mp skip).1
      have notService : isServiceDecl (Uuid.from16Bit gattUuidIncludeService.toUInt16) = false := by decide
      simp only [ServiceOp.attrs,ServiceOp.info,if_neg skip,List.singleton_append]
      rw [fillAttrs.eq_def]
      simp [notService,inclHandleOf,IncludedService.info,gattBuildUuidToStream_eq present]
  | characteristic property charUuid =>
    have notService : isServiceDecl (Uuid.from16Bit gattUuidCharDeclare.toUInt16) = false := by decide
    have notIncluded : Uuid.from16Bit gattUuidCharDeclare.toUInt16 ≠ Uuid.from16Bit gattUuidIncludeService.toUInt16 := by decide
    simp only [ServiceOp.attrs,ServiceOp.info,List.cons_append,List.nil_append]
    rw [fillAttrs.eq_def]
    simp [notService,notIncluded,charDeclOf,Characteristic.info,gattBuildUuidToStream_eq hashable]
  | charDescr descrUuid =>
    simp only [ServiceOp.Hashable,List.mem_cons,List.not_mem_nil,or_false,forall_eq_or_imp,forall_eq] at hashable
    obtain ⟨notPrimary,notSecondary,notIncluded,notChar⟩ := hashable
    exact fillAttrs_descriptor isPrimary h (by simp [isServiceDecl,notPrimary,notSecondary]) notIncluded notChar
      none 0 rfl more
  | charExtPropDescr extendedProperties =>
    exact fillAttrs_descriptor isPrimary h (by decide) (by decide) (by decide) _ extendedProperties rfl more

theorem attrsInfoSize_descriptor (h : Nat) {descrUuid : Uuid}
    (notService : isServiceDecl descrUuid = false) (notIncluded : descrUuid ≠ Uuid.from16Bit gattUuidIncludeService.toUInt16)
    (notChar : descrUuid ≠ Uuid.from16Bit gattUuidCharDeclare.toUInt16) (pValue : Option AttrValue) (extProp : Nat)
    (more : List GattAttr) :
    attrsInfoSize (⟨h,descrUuid,pValue⟩ :: more) =
      (attrsInfoSize more).map ((Descriptor.info ⟨h,descrUuid,extProp⟩).length + ·) := by
  have extIff := eq_from16Bit_iff descrUuid (show gattUuidCharExtProp < 65536 by decide)
  rw [← uuidSize_two_iff] at extIff
  rw [attrsInfoSize.eq_def]
  simp only [notService,notIncluded,notChar,Bool.false_eq_true,if_false,Descriptor.info]
  by_cases sized : uuidSize descrUuid = 2
  · by_cases hashed : descrUuid.as16Bit ∈ hashedDescriptors
    · simp [(isHashedDescriptor_iff descrUuid).mpr ⟨sized,hashed⟩,sized,hashed]
    · have notHashed : isHashedDescriptor descrUuid = false :=
        Bool.eq_false_iff.mpr fun held => hashed ((isHashedDescriptor_iff descrUuid).mp held).2
      by_cases ext : descrUuid.as16Bit = gattUuidCharExtProp
      · obtain rfl := extIff.mpr ⟨sized,ext⟩
        have extNotHashed : gattUuidCharExtProp ∉ hashedDescriptors := by decide
        simp [notHashed,sized,ext,extNotHashed]
      · simp [notHashed,sized,hashed,ext,extIff]
  · have notHashed : isHashedDescriptor descrUuid = false :=
      Bool.eq_false_iff.mpr fun held => sized ((isHashedDescriptor_iff descrUuid).mp held).1
    simp [notHashed,sized,extIff]

theorem attrsInfoSize_op (h : Nat) {op : ServiceOp} (hashable : op.Hashable) (more : List GattAttr) :
    attrsInfoSize (op.attrs h ++ more) = (attrsInfoSize more).map ((op.info h).length + ·) := by
  cases op with
  | includedService sHandle eHandle service =>
    by_cases skip : service.isEmpty = true ∨ sHandle = 0 ∨ eHandle = 0
    · simp [ServiceOp.attrs,ServiceOp.info,skip]
    · have notService : isServiceDecl (Uuid.from16Bit gattUuidIncludeService.toUInt16) = false := by decide
      simp only [ServiceOp.attrs,ServiceOp.info,if_neg skip,List.singleton_append]
      rw [attrsInfoSize.eq_def]
      simp [notService,inclHandleOf,IncludedService.info,uuidToStream_length,uuidSize_eq]
      congr 1
      funext rest
      omega
  | characteristic property charUuid =>
    have notService : isServiceDecl (Uuid.from16Bit gattUuidCharDeclare.toUInt16) = false := by decide
    have notIncluded : Uuid.from16Bit gattUuidCharDeclare.toUInt16 ≠ Uuid.from16Bit gattUuidIncludeService.toUInt16 := by decide
    simp only [ServiceOp.attrs,ServiceOp.info,List.cons_append,List.nil_append]
    rw [attrsInfoSize.eq_def]
    simp [notService,notIncluded,Characteristic.info,uuidToStream_length,uuidSize_eq]
    congr 1
    funext rest
    omega
  | charDescr descrUuid =>
    simp only [ServiceOp.Hashable,List.mem_cons,List.not_mem_nil,or_false,forall_eq_or_imp,forall_eq] at hashable
    obtain ⟨notPrimary,notSecondary,notIncluded,notChar⟩ := hashable
    exact attrsInfoSize_descriptor h (by simp [isServiceDecl,notPrimary,notSecondary]) notIncluded notChar
      none 0 more
  | charExtPropDescr extendedProperties =>
    exact attrsInfoSize_descriptor h (by decide) (by decide) (by decide) _ extendedProperties more

theorem fillAttrs_ops (isPrimary : Bool) :
    ∀ (ops : List ServiceOp) (h : Nat), (∀ op ∈ ops, op.Hashable) →
      fillAttrs isPrimary (opsAttrs ops h) = some (opsInfo ops h)
  | [],_,_ => by simp [opsAttrs,opsInfo,fillAttrs]
  | op :: rest,h,hashable => by
    rw [opsAttrs,fillAttrs_op isPrimary h (hashable op List.mem_cons_self),
      fillAttrs_ops isPrimary rest _ fun op mem => hashable op (List.mem_cons_of_mem _ mem)]
    rfl

theorem attrsInfoSize_ops :
    ∀ (ops : List ServiceOp) (h : Nat), (∀ op ∈ ops, op.Hashable) →
      attrsInfoSize (opsAttrs ops h) = some (opsInfo ops h).length
  | [],_,_ => by simp [opsAttrs,opsInfo,attrsInfoSize]
  | op :: rest,h,hashable => by
    rw [opsAttrs,attrsInfoSize_op h (hashable op List.mem_cons_self),
      attrsInfoSize_ops rest _ fun op mem => hashable op (List.mem_cons_of_mem _ mem)]
    simp [opsInfo]

end Calls

section Services

-- Included services before characteristics, every descriptor after one.
def ServiceOp.isCharacteristic : ServiceOp → Bool
  | .characteristic .. => true
  | _ => false

def ServiceOp.fitsAfter (charSeen : Bool) : ServiceOp → Bool
  | .includedService .. => !charSeen
  | .characteristic .. => true
  | .charDescr _ | .charExtPropDescr _ => charSeen

def opsOrdered (charSeen : Bool) : List ServiceOp → Bool
  | [] => true
  | op :: rest => op.fitsAfter charSeen && opsOrdered (charSeen || op.isCharacteristic) rest

def serviceHeader (handle : Nat) (isPrimary : Bool) : List UInt8 :=
  uint16ToStream handle ++ uint16ToStream (if isPrimary then gattUuidPriService else gattUuidSecService)

def srvListOf (specs : List ServiceSpec) : Option (List SrvListElem) :=
  specs.mapM fun spec => (buildServiceDb spec).map (⟨spec.isPrimary,·⟩)

theorem buildServiceDb_attrs {spec : ServiceSpec} {db : SvcDb} (built : buildServiceDb spec = some db) :
    db.attrList = ⟨spec.sHdl,Uuid.from16Bit (if spec.isPrimary then gattUuidPriService else gattUuidSecService).toUInt16,
      some (.uuid spec.uuid)⟩ :: opsAttrs spec.ops (spec.sHdl + 1) := by
  obtain ⟨first,init,rest⟩ := Option.bind_eq_some_iff.mp built
  obtain ⟨attrs,next,_⟩ := allocateAttrInDb_some init
  rw [foldlM_applyServiceOp_some spec.ops rest,attrs,next]
  rfl

theorem isServiceDecl_declaration (isPrimary : Bool) :
    isServiceDecl (Uuid.from16Bit (if isPrimary then gattUuidPriService else gattUuidSecService).toUInt16) = true := by
  cases isPrimary <;> decide

theorem fillAttrs_built {spec : ServiceSpec} {db : SvcDb} (built : buildServiceDb spec = some db)
    (present : spec.uuid.isEmpty = false) (hashable : ∀ op ∈ spec.ops, op.Hashable) :
    fillAttrs spec.isPrimary db.attrList =
      some (serviceHeader spec.sHdl spec.isPrimary ++ uuidToStream spec.uuid ++ opsInfo spec.ops (spec.sHdl + 1)) := by
  rw [buildServiceDb_attrs built,fillAttrs.eq_def]
  simp [isServiceDecl_declaration,serviceUuidOf,fillAttrs_ops _ _ _ hashable,serviceHeader,
    gattBuildUuidToStream_eq present]

theorem attrsInfoSize_built {spec : ServiceSpec} {db : SvcDb} (built : buildServiceDb spec = some db)
    (hashable : ∀ op ∈ spec.ops, op.Hashable) :
    attrsInfoSize db.attrList =
      some (serviceHeader spec.sHdl spec.isPrimary ++ uuidToStream spec.uuid ++ opsInfo spec.ops (spec.sHdl + 1)).length := by
  rw [buildServiceDb_attrs built,attrsInfoSize.eq_def]
  simp [isServiceDecl_declaration,serviceUuidOf,attrsInfoSize_ops _ _ hashable,serviceHeader,uuidToStream_length,
    uuidSize_eq]
  omega

def ClientBuild.info (b : ClientBuild) : List UInt8 :=
  b.includedServices.flatMap IncludedService.info ++ b.characteristics.flatMap Characteristic.info

theorem addToLast_info {chars : List Characteristic} (held : chars ≠ []) (d : Descriptor) :
    (addToLast chars d).flatMap Characteristic.info = chars.flatMap Characteristic.info ++ d.info := by
  obtain ⟨front,last,rfl⟩ := List.eq_nil_or_concat chars |>.resolve_left held
  simp [addToLast,Characteristic.info]

theorem addToLast_isEmpty {chars : List Characteristic} (held : chars ≠ []) (d : Descriptor) :
    (addToLast chars d).isEmpty = chars.isEmpty := by
  obtain ⟨front,last,rfl⟩ := List.eq_nil_or_concat chars |>.resolve_left held
  simp only [addToLast,List.concat_eq_append,List.getLast?_concat,List.dropLast_concat]
  cases front <;> rfl

theorem clientOp_info (b : ClientBuild) {op : ServiceOp} (fits : op.fitsAfter !b.characteristics.isEmpty) :
    (clientOp b op).info = b.info ++ op.info b.nextHandle ∧ (clientOp b op).nextHandle = b.nextHandle + op.handles ∧
      (clientOp b op).characteristics.isEmpty = (b.characteristics.isEmpty && !op.isCharacteristic) := by
  cases op with
  | includedService sHandle eHandle service =>
    simp only [ServiceOp.fitsAfter,Bool.not_not] at fits
    have none : b.characteristics = [] := List.isEmpty_iff.mp fits
    by_cases skip : service.isEmpty = true ∨ sHandle = 0 ∨ eHandle = 0
    · simp [clientOp,ServiceOp.info,ServiceOp.handles,ServiceOp.skipped,ServiceOp.isCharacteristic,skip]
    · simp [clientOp,ClientBuild.info,ServiceOp.info,ServiceOp.handles,ServiceOp.skipped,ServiceOp.isCharacteristic,
        skip,none]
  | characteristic property charUuid =>
    simp [clientOp,ClientBuild.info,ServiceOp.info,ServiceOp.handles,ServiceOp.isCharacteristic,Characteristic.info]
  | charDescr descrUuid =>
    simp only [ServiceOp.fitsAfter,Bool.not_eq_true',List.isEmpty_eq_false_iff] at fits
    simp [clientOp,ClientBuild.info,ServiceOp.info,ServiceOp.handles,ServiceOp.skipped,ServiceOp.isCharacteristic,
      addToLast_info fits,addToLast_isEmpty fits]
  | charExtPropDescr extendedProperties =>
    simp only [ServiceOp.fitsAfter,Bool.not_eq_true',List.isEmpty_eq_false_iff] at fits
    simp [clientOp,ClientBuild.info,ServiceOp.info,ServiceOp.handles,ServiceOp.skipped,ServiceOp.isCharacteristic,
      addToLast_info fits,addToLast_isEmpty fits]

theorem clientOps_info : ∀ (ops : List ServiceOp) (b : ClientBuild), opsOrdered (!b.characteristics.isEmpty) ops →
    (ops.foldl clientOp b).info = b.info ++ opsInfo ops b.nextHandle
  | [],b,_ => by simp [opsInfo]
  | op :: rest,b,ordered => by
    simp only [opsOrdered,Bool.and_eq_true] at ordered
    obtain ⟨added,next,seen⟩ := clientOp_info b ordered.1
    have restOrdered : opsOrdered (!(clientOp b op).characteristics.isEmpty) rest := by
      rw [seen,Bool.not_and,Bool.not_not]
      exact ordered.2
    rw [List.foldl_cons,clientOps_info rest _ restOrdered,added,next,opsInfo,List.append_assoc]

theorem clientService_info {spec : ServiceSpec} (ordered : opsOrdered false spec.ops) :
    (clientService spec).info =
      serviceHeader spec.sHdl spec.isPrimary ++ uuidToStream spec.uuid ++ opsInfo spec.ops (spec.sHdl + 1) := by
  have filed := clientOps_info spec.ops ⟨[],[],spec.sHdl + 1⟩ ordered
  simp only [ClientBuild.info,List.flatMap_nil,List.append_nil,List.nil_append] at filed
  simp only [Service.info,clientService,serviceHeader,List.append_assoc,← filed]
  rfl

end Services

section Sizes

theorem Descriptor.infoSize_eq : Descriptor.infoSize = fun d => d.info.length := by
  funext d
  unfold Descriptor.infoSize Descriptor.info
  split_ifs <;> simp_all

theorem Characteristic.infoSize_eq : Characteristic.infoSize = fun c => c.info.length := by
  funext c
  simp [Characteristic.infoSize,Characteristic.info,uuidToStream_length,List.length_flatMap,
    Descriptor.infoSize_eq]
  omega

theorem Service.infoSize_eq : Service.infoSize = fun s => s.info.length := by
  funext s
  simp [Service.infoSize,Service.info,IncludedService.info,uuidToStream_length,List.length_flatMap,
    Characteristic.infoSize_eq]
  omega

theorem Database.infoSize_eq (d : Database) :
    (d.services.map Service.infoSize).sum = (d.services.flatMap Service.info).length := by
  simp [List.length_flatMap,Service.infoSize_eq]

end Sizes

section Database

def ServiceSpec.info (spec : ServiceSpec) : List UInt8 :=
  serviceHeader spec.sHdl spec.isPrimary ++ uuidToStream spec.uuid ++ opsInfo spec.ops (spec.sHdl + 1)

structure ServiceSpec.Hashable (spec : ServiceSpec) : Prop where
  present : spec.uuid.isEmpty = false
  calls : ∀ op ∈ spec.ops, op.Hashable

theorem srvListOf_cons {spec : ServiceSpec} {rest : List ServiceSpec} {srvList : List SrvListElem}
    (built : srvListOf (spec :: rest) = some srvList) :
    ∃ db tail, buildServiceDb spec = some db ∧ srvListOf rest = some tail ∧ srvList = ⟨spec.isPrimary,db⟩ :: tail := by
  simp only [srvListOf,List.mapM_cons,Option.bind_eq_bind,Option.pure_def,Option.bind_eq_some_iff,
    Option.map_eq_some_iff,Option.some.injEq] at built
  obtain ⟨elem,⟨db,found,rfl⟩,tail,more,rfl⟩ := built
  exact ⟨db,tail,found,more,rfl⟩

theorem server_passes : ∀ (specs : List ServiceSpec) {srvList : List SrvListElem} (len : Nat) (data : List UInt8),
    srvListOf specs = some srvList → (∀ spec ∈ specs, spec.Hashable) →
      srvList.foldlM (fun len srv => (attrsInfoSize srv.pDb.attrList).map (len + ·)) len =
          some (len + (specs.flatMap ServiceSpec.info).length) ∧
        srvList.foldlM (fun data srv => (fillAttrs srv.isPrimary srv.pDb.attrList).map (data ++ ·)) data =
          some (data ++ specs.flatMap ServiceSpec.info)
  | [],srvList,len,data,built,_ => by
    simp only [srvListOf,List.mapM_nil,Option.pure_def,Option.some.injEq] at built
    subst built
    simp
  | spec :: rest,srvList,len,data,built,hashable => by
    obtain ⟨db,tail,found,more,rfl⟩ := srvListOf_cons built
    have specHashable := hashable spec List.mem_cons_self
    obtain ⟨sized,filled⟩ := server_passes rest (len + spec.info.length) (data ++ spec.info) more
      fun spec mem => hashable spec (List.mem_cons_of_mem _ mem)
    simp only [List.foldlM_cons,attrsInfoSize_built found specHashable.calls,
      fillAttrs_built found specHashable.present specHashable.calls,Option.map_some,Option.bind_eq_bind,
      Option.bind_some]
    rw [ServiceSpec.info] at sized filled
    rw [sized,filled]
    simp only [List.flatMap_cons,List.length_append,ServiceSpec.info,List.append_assoc,Nat.add_assoc,and_self]

theorem Database.hash_eq {α : Type} (aesCmac : List UInt8 → α) (d : Database) :
    d.hash aesCmac = some (aesCmac (d.services.flatMap Service.info).reverse) := by
  simp [Database.hash,Database.infoSize_eq]

theorem gattsCalculateDatabaseHash_built {α : Type} (aesCmac : List UInt8 → α) {specs : List ServiceSpec}
    {srvList : List SrvListElem} (built : srvListOf specs = some srvList) (hashable : ∀ spec ∈ specs, spec.Hashable) :
    gattsCalculateDatabaseHash aesCmac srvList = some (aesCmac (specs.flatMap ServiceSpec.info).reverse) := by
  obtain ⟨sized,filled⟩ := server_passes specs 0 [] built hashable
  simp only [Nat.zero_add,List.nil_append] at sized filled
  simp [gattsCalculateDatabaseHash,calculateDatabaseInfoSize,fillDatabaseInfo,sized,filled]

theorem clientServices_info {specs : List ServiceSpec} (ordered : ∀ spec ∈ specs, opsOrdered false spec.ops = true) :
    (specs.map clientService).flatMap Service.info = specs.flatMap ServiceSpec.info := by
  rw [List.flatMap_map]
  exact List.flatMap_congr fun spec mem => clientService_info (ordered spec mem)

theorem database_hash_agrees {α : Type} (aesCmac : List UInt8 → α) (specs : List ServiceSpec)
    {srvList : List SrvListElem} (built : srvListOf specs = some srvList)
    (hashable : ∀ spec ∈ specs, spec.Hashable) (ordered : ∀ spec ∈ specs, opsOrdered false spec.ops = true) :
    (∃ data, fillDatabaseInfo srvList = some data ∧ calculateDatabaseInfoSize srvList = some data.length) ∧
      (∀ d : Database, (d.services.map Service.infoSize).sum = (d.services.flatMap Service.info).length) ∧
      gattsCalculateDatabaseHash aesCmac srvList = Database.hash aesCmac ⟨specs.map clientService⟩ ∧
      gattsCalculateDatabaseHash aesCmac srvList = some (aesCmac (specs.flatMap ServiceSpec.info).reverse) := by
  obtain ⟨sized,filled⟩ := server_passes specs 0 [] built hashable
  simp only [Nat.zero_add,List.nil_append] at sized filled
  refine ⟨⟨_,filled,sized⟩,Database.infoSize_eq,?_,gattsCalculateDatabaseHash_built aesCmac built hashable⟩
  rw [gattsCalculateDatabaseHash_built aesCmac built hashable,Database.hash_eq,clientServices_info ordered]

def gapService : ServiceSpec :=
  ⟨Uuid.from16Bit 0x1800,true,1,8,
    [.characteristic 0x02 (Uuid.from16Bit 0x2A00),.charDescr (Uuid.from16Bit 0x2902),.charExtPropDescr 1]⟩

theorem database_hash_agrees_gap :
    ∃ srvList, srvListOf [gapService] = some srvList ∧ (∀ spec ∈ [gapService], spec.Hashable) ∧
      (∀ spec ∈ [gapService], opsOrdered false spec.ops = true) ∧
      (∃ data, fillDatabaseInfo srvList = some data ∧ calculateDatabaseInfoSize srvList = some data.length) ∧
      (∀ d : Database, (d.services.map Service.infoSize).sum = (d.services.flatMap Service.info).length) ∧
      gattsCalculateDatabaseHash (toolboxAesCmac (fun _ block => block) fun _ => 0) srvList =
        Database.hash (toolboxAesCmac (fun _ block => block) fun _ => 0) ⟨[gapService].map clientService⟩ ∧
      gattsCalculateDatabaseHash (toolboxAesCmac (fun _ block => block) fun _ => 0) srvList =
        some (toolboxAesCmac (fun _ block => block) (fun _ => 0) ([gapService].flatMap ServiceSpec.info).reverse) := by
  obtain ⟨srvList,built⟩ : ∃ srvList, srvListOf [gapService] = some srvList := ⟨_,rfl⟩
  have hashable : ∀ spec ∈ [gapService], spec.Hashable := by
    simp only [List.mem_singleton,forall_eq]
    exact ⟨by decide,by simp [gapService,ServiceOp.Hashable]; decide⟩
  have ordered : ∀ spec ∈ [gapService], opsOrdered false spec.ops = true := by
    simp only [List.mem_singleton,forall_eq]
    rfl
  exact ⟨srvList,built,hashable,ordered,
    database_hash_agrees (toolboxAesCmac (fun _ block => block) fun _ => 0) [gapService] built hashable ordered⟩

-- The server writes the include after the characteristic, the client files it
-- ahead of all characteristics.
def includeAfterCharacteristic : ServiceSpec :=
  ⟨Uuid.from16Bit 0x1800,true,1,4,[.characteristic 0x02 (Uuid.from16Bit 0x2A00),.includedService 5 7 (Uuid.from16Bit 0x1801)]⟩

theorem include_after_characteristic_hash_differs :
    ∃ srvList, srvListOf [includeAfterCharacteristic] = some srvList ∧ includeAfterCharacteristic.Hashable ∧
      ∀ aesCmac : List UInt8 → List UInt8,
        gattsCalculateDatabaseHash aesCmac srvList =
          some (aesCmac [1,0,0,0x28,0,0x18,2,0,3,0x28,2,3,0,0,0x2A,4,0,2,0x28,5,0,7,0,1,0x18].reverse) ∧
        Database.hash aesCmac ⟨[clientService includeAfterCharacteristic]⟩ =
          some (aesCmac [1,0,0,0x28,0,0x18,4,0,2,0x28,5,0,7,0,1,0x18,2,0,3,0x28,2,3,0,0,0x2A].reverse) ∧
        (aesCmac.Injective →
          gattsCalculateDatabaseHash aesCmac srvList ≠ Database.hash aesCmac ⟨[clientService includeAfterCharacteristic]⟩) := by
  obtain ⟨srvList,built⟩ : ∃ srvList, srvListOf [includeAfterCharacteristic] = some srvList := ⟨_,rfl⟩
  have hashable : includeAfterCharacteristic.Hashable :=
    ⟨by decide,by simp [includeAfterCharacteristic,ServiceOp.Hashable]; decide⟩
  refine ⟨srvList,built,hashable,fun aesCmac => ?_⟩
  have server := gattsCalculateDatabaseHash_built aesCmac built (by simpa using hashable)
  have client := Database.hash_eq aesCmac ⟨[clientService includeAfterCharacteristic]⟩
  have serverBytes : [includeAfterCharacteristic].flatMap ServiceSpec.info =
      [1,0,0,0x28,0,0x18,2,0,3,0x28,2,3,0,0,0x2A,4,0,2,0x28,5,0,7,0,1,0x18] := by decide
  have clientBytes : [clientService includeAfterCharacteristic].flatMap Service.info =
      [1,0,0,0x28,0,0x18,4,0,2,0x28,5,0,7,0,1,0x18,2,0,3,0x28,2,3,0,0,0x2A] := by decide
  rw [serverBytes] at server
  rw [clientBytes] at client
  refine ⟨server,client,fun injective same => ?_⟩
  rw [server,client,Option.some.injEq] at same
  exact absurd (injective same) (by decide)

end Database

end BluetoothStack.Gatt
