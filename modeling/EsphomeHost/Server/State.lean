import EsphomeHost.Ble.Advertising
import Mathlib.Logic.Function.Basic

/-!
# `BLEGattServer`

The GATT server's view of its services: the tree it exports on the bus, the commands the main thread
queues for the worker, and the registration of its advertisement.  Objects the user creates are
named by their addresses, of some type `κ`; what is said to BlueZ is a list of `BusCall`s in the
order of the calls.

* `buildTree` numbers and records the tree, `findChar` looks a path up in it.
* `workerProcessCommands` is one pass of the worker.
* `registerAdvertisement`, `unregisterAdvertisement`, `onRegisterAdvReply`, `advRelease` and
  `powerCycleAdapter` are all that writes `advRegistered`.
-/

namespace EsphomeHost

/-! ## What the user builds -/

structure BLEDescriptor where
  uuid : ESPBTUUID

/-- `self` is the address of the object. -/
structure BLECharacteristic (κ : Type) where
  self : κ
  uuid : ESPBTUUID
  properties : UInt32
  value : List UInt8
  descriptors : List BLEDescriptor

structure BLEService (κ : Type) where
  uuid : ESPBTUUID
  characteristics : List (BLECharacteristic κ)

/-! ## What is exported -/

structure ExportedService (κ : Type) where
  svc : BLEService κ
  path : List Char
  uuidStr : List Char
  primary : Bool

structure ExportedChar (κ : Type) where
  chr : BLECharacteristic κ
  path : List Char
  servicePath : List Char
  uuidStr : List Char
  properties : UInt32
  cachedValue : List UInt8
  notifying : Bool := false

structure ExportedDesc where
  desc : BLEDescriptor
  path : List Char
  charPath : List Char
  uuidStr : List Char

/-- Only `notify` is ever queued. -/
inductive ServerCommand.Kind
  | start
  | notify
deriving DecidableEq

structure ServerCommand where
  kind : ServerCommand.Kind
  charPath : List Char
  value : List UInt8

/-- What is called on the bus.  `registerApplication` and `registerAdvertisement` are asynchronous,
the other calls of BlueZ are waited for. -/
inductive BusCall
  | registerApplication
  | valueChanged (path : List Char)
  | registerAdvertisement
  | unregisterAdvertisement
  | setPowered (on : Bool)
deriving DecidableEq

/-- How the calls of the bus library turn out: whether the bus opens, the object manager and the
advertisement are exported, and the two asynchronous calls are sent. -/
structure BusOutcome where
  opened : Bool := true
  managed : Bool := true
  appSent : Bool := true
  exported : Bool := true
  sent : Bool := true
deriving DecidableEq

/-- `busOpen` is `bus_ != nullptr`, `advSlot` is `adv_slot_ != nullptr`, and `objectPath` has the
`object_path_` of every characteristic. -/
structure BLEGattServer (κ : Type) where
  services : List (ExportedService κ) := []
  chars : List (ExportedChar κ) := []
  descs : List ExportedDesc := []
  objectPath : κ → List Char := fun _ => []
  startRequested : Bool := false
  started : Bool := false
  busOpen : Bool := false
  commands : List ServerCommand := []
  pendingAdv : HostAdvertisement := {}
  advPending : Bool := false
  advRegistered : Bool := false
  advSlot : Bool := false
  readvTimer : Bool := false
  readvPowerCycled : Bool := false

/-- The lowercase dashed string of a UUID. -/
def uuidToBluezStr (uuid : ESPBTUUID) : List Char := uuid.toStr.map Char.toLower

/-- The string of a UUID is in lower case already. -/
theorem uuidToBluezStr_eq (uuid : ESPBTUUID) : uuidToBluezStr uuid = uuid.toStr := by
  rw [uuidToBluezStr, ESPBTUUID.toStr, ESPBTUUID.canonical]
  simp only [List.map_append, List.map_cons, ESPBTUUID.map_toLower_hexBytes]
  rfl

namespace BLEGattServer

def appRoot : List Char := "/org/esphome/host/ble/gatt".toList

/-- `/tag` and a number, as `std::to_string` prints it. -/
def numbered (parent : List Char) (tag : String) (n : Nat) : List Char :=
  parent ++ tag.toList ++ Nat.toDigits 10 n

variable {κ : Type} [DecidableEq κ]

/-! ## The tree -/

/-- The loop over the descriptors of a characteristic.  BlueZ has the CCCD itself. -/
def exportDescs (charPath : List Char) :
    List BLEDescriptor → Nat → BLEGattServer κ → BLEGattServer κ
  | [], _, s => s
  | desc :: rest, descIdx, s =>
      if desc.uuid == ESPBTUUID.fromUint16 0x2902 then exportDescs charPath rest descIdx s
      else
        exportDescs charPath rest (descIdx + 1)
          { s with
            descs := s.descs ++ [{
              desc := desc
              path := numbered charPath "/desc" descIdx
              charPath := charPath
              uuidStr := uuidToBluezStr desc.uuid }] }

/-- The loop over the characteristics of a service. -/
def exportChars (servicePath : List Char) :
    List (BLECharacteristic κ) → Nat → BLEGattServer κ → BLEGattServer κ
  | [], _, s => s
  | chr :: rest, chrIdx, s =>
      let path := numbered servicePath "/char" chrIdx
      let s := { s with objectPath := Function.update s.objectPath chr.self path }
      let s := exportDescs path chr.descriptors 0 s
      exportChars servicePath rest (chrIdx + 1)
        { s with
          chars := s.chars ++ [{
            chr := chr
            path := path
            servicePath := servicePath
            uuidStr := uuidToBluezStr chr.uuid
            properties := chr.properties
            cachedValue := chr.value }] }

/-- The loop over the services. -/
def exportServices : List (BLEService κ) → Nat → BLEGattServer κ → BLEGattServer κ
  | [], _, s => s
  | svc :: rest, svcIdx, s =>
      let path := numbered appRoot "/service" svcIdx
      let s := exportChars path svc.characteristics 0 s
      exportServices rest (svcIdx + 1)
        { s with
          services := s.services ++ [{
            svc := svc
            path := path
            uuidStr := uuidToBluezStr svc.uuid
            primary := true }] }

/-- `build_tree_`. -/
def buildTree (services : List (BLEService κ)) (s : BLEGattServer κ) : BLEGattServer κ :=
  exportServices services 0 s

def start (services : List (BLEService κ)) (s : BLEGattServer κ) : BLEGattServer κ :=
  { buildTree services s with startRequested := true }

/-- `find_char_`: the place of the first node with this path. -/
def findChar (s : BLEGattServer κ) (path : List Char) : Option Nat :=
  s.chars.findIdx? fun c => decide (c.path = path)

/-! ## The advertisement -/

def onAdvertisingChanged (adv : HostAdvertisement) (s : BLEGattServer κ) : BLEGattServer κ :=
  if !adv.active then s else { s with pendingAdv := adv, advPending := true }

/-- `unregister_advertisement_`; the reply is not looked at. -/
def unregisterAdvertisement (s : BLEGattServer κ) : BLEGattServer κ × List BusCall :=
  if !s.advRegistered || !s.busOpen then (s, [])
  else ({ s with advRegistered := false }, [.unregisterAdvertisement])

/-- `register_advertisement_` from where a duplicate is out of the way. -/
def exportAdvertisement (env : BusOutcome) (s : BLEGattServer κ) :
    BLEGattServer κ × List BusCall :=
  if !s.advSlot && !env.exported then (s, [])
  else
    let s := { s with advSlot := true }
    if !env.sent then (s, [])
    else ({ s with advRegistered := true }, [.registerAdvertisement])

/-- `register_advertisement_`; what is advertised is read from `pendingAdv` later. -/
def registerAdvertisement (env : BusOutcome) (s : BLEGattServer κ) :
    BLEGattServer κ × List BusCall :=
  if !s.busOpen then (s, [])
  else
    let (s, first) := if s.advRegistered then s.unregisterAdvertisement else (s, [])
    let (s, second) := s.exportAdvertisement env
    (s, first ++ second)

/-- `power_cycle_adapter_`. -/
def powerCycleAdapter (env : BusOutcome) (s : BLEGattServer κ) :
    BLEGattServer κ × List BusCall :=
  if !s.busOpen then (s, [])
  else
    let s := { s with advSlot := false, advRegistered := false }
    let (s, calls) := s.registerAdvertisement env
    (s, [.setPowered false, .setPowered true] ++ calls)

/-- `on_register_adv_reply_`. -/
def onRegisterAdvReply (ok : Bool) (env : BusOutcome) (s : BLEGattServer κ) :
    BLEGattServer κ × List BusCall :=
  if !ok then
    let s := { s with advRegistered := false }
    if !s.readvPowerCycled then { s with readvPowerCycled := true }.powerCycleAdapter env
    else (s, [])
  else ({ s with readvPowerCycled := false }, [])

/-- `adv_release_`. -/
def advRelease (s : BLEGattServer κ) : BLEGattServer κ := { s with advRegistered := false }

/-- `schedule_readvertise_`. -/
def scheduleReadvertise (s : BLEGattServer κ) : BLEGattServer κ := { s with readvTimer := true }

/-- `on_readvertise_timer_`; the timer is a one-shot. -/
def onReadvertiseTimer (env : BusOutcome) (s : BLEGattServer κ) :
    BLEGattServer κ × List BusCall :=
  { s with readvTimer := false }.registerAdvertisement env

/-! ## The worker -/

def notifyCharacteristic (chr : κ) (value : List UInt8) (s : BLEGattServer κ) :
    BLEGattServer κ :=
  if s.objectPath chr = [] then s
  else { s with commands := s.commands ++ [⟨.notify, s.objectPath chr, value⟩] }

/-- `do_start_`. -/
def doStart (env : BusOutcome) (s : BLEGattServer κ) : BLEGattServer κ × List BusCall :=
  if s.started then (s, [])
  else
    let s := { s with started := true }
    if !s.busOpen && !env.opened then (s, [])
    else
      let s := { s with busOpen := true }
      if !env.managed then (s, [])
      else if !env.appSent then (s, [])
      else (s, [.registerApplication])

/-- `do_notify_`. -/
def doNotify (charPath : List Char) (value : List UInt8) (s : BLEGattServer κ) :
    BLEGattServer κ × List BusCall :=
  match s.findChar charPath with
  | none => (s, [])
  | some i =>
      ({ s with chars := s.chars.modify i fun c => { c with cachedValue := value } },
        if s.busOpen then [.valueChanged charPath] else [])

/-- The loop over the drained commands. -/
def doCommands : List ServerCommand → BLEGattServer κ → BLEGattServer κ × List BusCall
  | [], s => (s, [])
  | c :: cmds, s =>
      let (s, first) := if c.kind = .notify then s.doNotify c.charPath c.value else (s, [])
      let (s, others) := doCommands cmds s
      (s, first ++ others)

/-- Bringing the server up, before the commands are looked at. -/
def applyStart (requested : Bool) (env : BusOutcome) (s : BLEGattServer κ) :
    BLEGattServer κ × List BusCall :=
  if requested then s.doStart env else (s, [])

/-- Registering a pending advertisement, after the commands. -/
def applyPending (env : BusOutcome) (s : BLEGattServer κ) : BLEGattServer κ × List BusCall :=
  if s.advPending then { s with advPending := false }.registerAdvertisement env else (s, [])

def workerProcessCommands (env : BusOutcome) (s : BLEGattServer κ) :
    BLEGattServer κ × List BusCall :=
  let startRequested := s.startRequested
  let cmds := s.commands
  let s := { s with startRequested := false, commands := [] }
  let (s, first) := s.applyStart startRequested env
  let (s, second) := s.doCommands cmds
  let (s, third) := s.applyPending env
  (s, first ++ second ++ third)

end BLEGattServer

end EsphomeHost
