import Mathlib
import BluetoothStack.Lib.Machine

namespace BluetoothStack.Gatt

-- The LE scan parameters btm_cb.ble_ctr_cb holds: still undefined, the slow
-- ones or the fast ones.
inductive ScanMode where
  | undef
  | slow
  | fast
deriving DecidableEq, Repr

def btmSetLeConnectionModeToFast : ScanMode → ScanMode × Bool
  | .undef | .slow => (.fast,true)
  | .fast => (.fast,false)

def btmSetLeConnectionModeToSlow : ScanMode → ScanMode
  | .undef | .fast => .slow
  | .slow => .slow

-- tAPPS_CONNECTING; the alarm of each direct connection is left out.
structure AppsConnecting where
  doingBgConn : Finset Nat
  doingDirectConn : Finset Nat
deriving DecidableEq

def AppsConnecting.empty : AppsConnecting := ⟨∅,∅⟩

def anyoneConnecting (apps : AppsConnecting) : Bool :=
  decide (apps.doingBgConn.Nonempty ∨ apps.doingDirectConn.Nonempty)

-- bgconn_dev as the addresses it maps and what it maps each to, with the
-- controller's white list of white_list_size entries and the scan mode.
structure ConnManager (Addr : Type) where
  bgconnDev : Finset Addr
  apps : Addr → AppsConnecting
  whiteList : Finset Addr
  whiteListSize : Nat
  mode : ScanMode

variable {Addr : Type} [DecidableEq Addr]

namespace ConnManager

def entry (m : ConnManager Addr) (address : Addr) : AppsConnecting :=
  if address ∈ m.bgconnDev then m.apps address else .empty

def put (m : ConnManager Addr) (address : Addr) (apps : AppsConnecting) : ConnManager Addr :=
  {m with bgconnDev := insert address m.bgconnDev,apps := Function.update m.apps address apps}

def erase (m : ConnManager Addr) (address : Addr) : ConnManager Addr :=
  {m with bgconnDev := m.bgconnDev.erase address}

end ConnManager

-- BTM_WhiteListAdd as a bounded set insert: it fails once the list holds
-- white_list_size devices.
def btmWhiteListAdd (m : ConnManager Addr) (address : Addr) : Option (ConnManager Addr) :=
  if m.whiteList.card = m.whiteListSize then none else some {m with whiteList := insert address m.whiteList}

def btmWhiteListRemove (m : ConnManager Addr) (address : Addr) : ConnManager Addr :=
  {m with whiteList := m.whiteList.erase address}

def anyDirectConnectLeft (m : ConnManager Addr) : Bool :=
  decide (∃ address ∈ m.bgconnDev, (m.apps address).doingDirectConn.Nonempty)

-- background_connect_add. A direct connection of the same app is turned
-- into a background one without asking any_direct_connect_left.
def backgroundConnectAdd (m : ConnManager Addr) (appId : Nat) (address : Addr) : ConnManager Addr × Bool :=
  if address ∈ m.bgconnDev ∧ appId ∈ (m.apps address).doingBgConn then (m,true)
  else
    let inWhiteList := address ∈ m.bgconnDev ∧ anyoneConnecting (m.apps address) = true
    let m := if address ∈ m.bgconnDev ∧ appId ∈ (m.apps address).doingDirectConn then
        m.put address {m.apps address with doingDirectConn := (m.apps address).doingDirectConn.erase appId}
      else m
    match if inWhiteList then some m else btmWhiteListAdd m address with
    | none => (m,false)
    | some m => (m.put address {m.entry address with doingBgConn := insert appId (m.entry address).doingBgConn},true)

def removeUnconditional (m : ConnManager Addr) (address : Addr) : ConnManager Addr × Bool :=
  if address ∈ m.bgconnDev then ((btmWhiteListRemove m address).erase address,true) else (m,false)

def backgroundConnectRemove (m : ConnManager Addr) (appId : Nat) (address : Addr) : ConnManager Addr × Bool :=
  if address ∈ m.bgconnDev ∧ appId ∈ (m.apps address).doingBgConn then
    let apps := {m.apps address with doingBgConn := (m.apps address).doingBgConn.erase appId}
    let m := m.put address apps
    if anyoneConnecting apps then (m,true) else ((btmWhiteListRemove m address).erase address,true)
  else (m,false)

-- The app's direct connections are cancelled without a look at the scan mode.
def onAppDeregistered (m : ConnManager Addr) (appId : Nat) : ConnManager Addr :=
  let apps := fun address => if address ∈ m.bgconnDev then
      (⟨(m.apps address).doingBgConn.erase appId,(m.apps address).doingDirectConn.erase appId⟩ : AppsConnecting)
    else m.apps address
  let left := m.bgconnDev.filter fun address => anyoneConnecting (apps address)
  {m with apps,bgconnDev := left,whiteList := m.whiteList \ (m.bgconnDev \ left)}

-- direct_connect_add. The scan goes fast first and back to slow only if this
-- call changed it and the white list is full.
def directConnectAdd (m : ConnManager Addr) (appId : Nat) (address : Addr) : ConnManager Addr × Bool :=
  if address ∈ m.bgconnDev ∧ appId ∈ (m.apps address).doingDirectConn then (m,false)
  else
    let inWhiteList := address ∈ m.bgconnDev ∧ anyoneConnecting (m.apps address) = true
    let fast := btmSetLeConnectionModeToFast m.mode
    let m := {m with mode := fast.1}
    match if inWhiteList then some m else btmWhiteListAdd m address with
    | none => ({m with mode := if fast.2 then btmSetLeConnectionModeToSlow m.mode else m.mode},false)
    | some m =>
      (m.put address {m.entry address with doingDirectConn := insert appId (m.entry address).doingDirectConn},true)

-- direct_connect_remove, and the timeout that calls it.
def directConnectRemove (m : ConnManager Addr) (appId : Nat) (address : Addr) : ConnManager Addr × Bool :=
  if address ∈ m.bgconnDev ∧ appId ∈ (m.apps address).doingDirectConn then
    let apps := {m.apps address with doingDirectConn := (m.apps address).doingDirectConn.erase appId}
    let m := m.put address apps
    let m := if anyDirectConnectLeft m then m else {m with mode := btmSetLeConnectionModeToSlow m.mode}
    if anyoneConnecting apps then (m,true) else ((btmWhiteListRemove m address).erase address,true)
  else (m,false)

-- on_connection_complete: direct_connect_remove for each app doing a direct
-- connection to the address, lowest id first as std::map begins.
def onConnectionComplete (m : ConnManager Addr) (address : Addr) : ConnManager Addr :=
  ((m.entry address).doingDirectConn.sort).foldl (fun m appId => (directConnectRemove m appId address).1) m

-- reset. Either way the controller's white list ends empty: after_reset
-- skips BTM_WhiteListClear because the controller reset emptied it.
def reset (m : ConnManager Addr) (_afterReset : Bool) : ConnManager Addr :=
  {m with bgconnDev := ∅,whiteList := ∅}

inductive CmEvent (Addr : Type) where
  | backgroundConnectAdd (appId : Nat) (address : Addr)
  | backgroundConnectRemove (appId : Nat) (address : Addr)
  | directConnectAdd (appId : Nat) (address : Addr)
  | directConnectRemove (appId : Nat) (address : Addr)
  | directConnectTimeout (appId : Nat) (address : Addr)
  | onAppDeregistered (appId : Nat)
  | onConnectionComplete (address : Addr)
  | removeUnconditional (address : Addr)
  | reset (afterReset : Bool)

-- Each entry point with what it returns; none for the void ones.
def cmStep (m : ConnManager Addr) : CmEvent Addr → ConnManager Addr × Option Bool
  | .backgroundConnectAdd appId address => (backgroundConnectAdd m appId address).map id some
  | .backgroundConnectRemove appId address => (backgroundConnectRemove m appId address).map id some
  | .directConnectAdd appId address => (directConnectAdd m appId address).map id some
  | .directConnectRemove appId address
  | .directConnectTimeout appId address => (directConnectRemove m appId address).map id some
  | .onAppDeregistered appId => (onAppDeregistered m appId,none)
  | .onConnectionComplete address => (onConnectionComplete m address,none)
  | .removeUnconditional address => (removeUnconditional m address).map id some
  | .reset afterReset => (reset m afterReset,none)

def cmRun : ConnManager Addr → List (CmEvent Addr) → Option (ConnManager Addr × List (Option Bool)) :=
  Machine.transduce fun m e => some (cmStep m e)

def cmInit (whiteListSize : Nat) : ConnManager Addr := ⟨∅,fun _ => .empty,∅,whiteListSize,.undef⟩

-- Nobody's entry stays in the map, the white list is the map's addresses, and a
-- direct connection keeps the scan fast; the converse fails.
structure CmInv (m : ConnManager Addr) : Prop where
  connecting : ∀ address ∈ m.bgconnDev, anyoneConnecting (m.apps address) = true
  whiteListed : m.whiteList = m.bgconnDev
  fastIfDirect : anyDirectConnectLeft m = true → m.mode = .fast

section Invariant

variable {m : ConnManager Addr} {address : Addr} {apps : AppsConnecting}

@[simp] theorem put_bgconnDev : (m.put address apps).bgconnDev = insert address m.bgconnDev := rfl
@[simp] theorem put_whiteList : (m.put address apps).whiteList = m.whiteList := rfl
@[simp] theorem put_mode : (m.put address apps).mode = m.mode := rfl

omit [DecidableEq Addr] in
theorem anyDirectConnectLeft_iff :
    anyDirectConnectLeft m = true ↔ ∃ a ∈ m.bgconnDev, (m.apps a).doingDirectConn.Nonempty := by
  simp [anyDirectConnectLeft]

def DirectWithin (m' m : ConnManager Addr) : Prop :=
  ∀ a ∈ m'.bgconnDev, (m'.apps a).doingDirectConn.Nonempty → a ∈ m.bgconnDev ∧ (m.apps a).doingDirectConn.Nonempty

omit [DecidableEq Addr] in
theorem DirectWithin.refl (m : ConnManager Addr) : DirectWithin m m := fun _ mem direct => ⟨mem,direct⟩

omit [DecidableEq Addr] in
theorem DirectWithin.left {m' : ConnManager Addr} (within : DirectWithin m' m)
    (left : anyDirectConnectLeft m' = true) : anyDirectConnectLeft m = true := by
  obtain ⟨a,mem,direct⟩ := anyDirectConnectLeft_iff.mp left
  exact anyDirectConnectLeft_iff.mpr ⟨a,within a mem direct⟩

omit [DecidableEq Addr] in
theorem DirectWithin.trans {m'' m' : ConnManager Addr} (outer : DirectWithin m'' m') (inner : DirectWithin m' m) :
    DirectWithin m'' m := fun a mem direct =>
  let ⟨mem',direct'⟩ := outer a mem direct
  inner a mem' direct'

theorem CmInv.listed (inv : CmInv m) (present : address ∈ m.bgconnDev) : m.whiteList = insert address m.bgconnDev := by
  rw [inv.whiteListed,Finset.insert_eq_of_mem present]

omit [DecidableEq Addr] in
theorem CmInv.absent (inv : CmInv m) (outside : ¬ (address ∈ m.bgconnDev ∧ anyoneConnecting (m.apps address) = true)) :
    address ∉ m.bgconnDev :=
  fun present => outside ⟨present,inv.connecting address present⟩

end Invariant

-- The direct connection becomes a background one, and the scan stays fast with
-- no direct connection left.
theorem direct_to_background_stays_fast :
    ((cmRun (cmInit 8 : ConnManager Nat) [.directConnectAdd 1 0,.backgroundConnectAdd 1 0]).map fun (m,answers) =>
      (answers,m.mode,anyDirectConnectLeft m,(cmStep m (.directConnectRemove 1 0)).2,
        (cmStep m (.directConnectRemove 1 0)).1.mode)) =
      some ([some true,some true],.fast,false,some false,.fast) := by
  decide

end BluetoothStack.Gatt
