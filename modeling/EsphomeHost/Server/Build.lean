import EsphomeHost.Server.Tree
import Mathlib.Data.List.Flatten
import Mathlib.Data.List.Perm.Subperm

/-!
# Building the services

`BLEServer` allocates every service and characteristic that its tree is made of; an address is a
number that has not been given out before.  Each operation keeps the addresses apart, so that what
`BLEServer::setup` passes to `BLEGattServer::start` is always a `GattTable`.
-/

namespace EsphomeHost

structure ServiceEntry where
  address : Nat
  uuid : ESPBTUUID
  instId : UInt8
  service : BLEService Nat

/-- The addresses of the characteristics. -/
def charAddresses (entries : List ServiceEntry) : List Nat :=
  (entries.flatMap (·.service.characteristics)).map (·.self)

/-- A server that is being built.  No two objects share an address, and none has one that is still
to be given out. -/
structure BLEServer where
  services : List ServiceEntry
  deviceInformationService : Option Nat
  allocated : Nat
  apart : (services.map (·.address)).Nodup
  charsApart : (charAddresses services).Nodup
  old : ∀ a ∈ services.map (·.address) ++ charAddresses services, a < allocated

namespace BLEServer

def empty : BLEServer :=
  ⟨[], none, 0, List.nodup_nil, List.nodup_nil, nofun⟩

/-! ## Services -/

def getService (server : BLEServer) (uuid : ESPBTUUID) (instId : UInt8) : Option Nat :=
  (server.services.find? fun e => e.uuid == uuid && e.instId == instId).map (·.address)

/-- The first instance number that is free for a UUID; the last is never used. -/
def freeInstId (server : BLEServer) (uuid : ESPBTUUID) : Option UInt8 :=
  ((List.range 0xFF).map UInt8.ofNat).find? fun i => (server.getService uuid i).isNone

/-- The push of `create_service`. -/
def pushService (server : BLEServer) (uuid : ESPBTUUID) (instId : UInt8) : BLEServer where
  services := server.services ++ [⟨server.allocated, uuid, instId, ⟨uuid, []⟩⟩]
  deviceInformationService := server.deviceInformationService
  allocated := server.allocated + 1
  apart := by
    rw [List.map_append]
    refine List.nodup_append.mpr ⟨server.apart, List.nodup_singleton _, ?_⟩
    intro a mem b new same
    have given := server.old a (List.mem_append_left _ mem)
    rw [same, List.mem_singleton.mp new] at given
    exact Nat.lt_irrefl _ given
  charsApart := by simpa [charAddresses] using server.charsApart
  old := by
    have old := server.old
    simp only [charAddresses, List.map_append, List.flatMap_append, List.map_cons, List.map_nil,
      List.flatMap_cons, List.flatMap_nil, List.append_nil, List.mem_append, List.mem_singleton]
      at old ⊢
    rintro a ((mem | rfl) | mem)
    · exact Nat.lt_succ_of_lt (old a (.inl mem))
    · exact Nat.lt_succ_self _
    · exact Nat.lt_succ_of_lt (old a (.inr mem))

/-- The service, unless the UUID has too many instances. -/
def createService (server : BLEServer) (uuid : ESPBTUUID) : BLEServer × Option Nat :=
  match server.freeInstId uuid with
  | none => (server, none)
  | some instId => (server.pushService uuid instId, some server.allocated)

def setDeviceInformationService (server : BLEServer) (address : Nat) : BLEServer :=
  { server with deviceInformationService := some address }

/-! ## Characteristics -/

/-- `set_property_bit_`. -/
def setPropertyBit (properties bit : UInt32) (value : Bool) : UInt32 :=
  if value then properties ||| bit else properties &&& ~~~bit

/-- The properties a new characteristic has of those it is asked for: broadcast, indicate, notify,
read, write and write without response. -/
def newProperties (properties : UInt32) : UInt32 :=
  [8, 16, 4, 1, 2, 32].foldl (fun p bit => setPropertyBit p bit (properties &&& bit != 0)) 0

def addChar (address : Nat) (chr : BLECharacteristic Nat) (e : ServiceEntry) : ServiceEntry :=
  if e.address = address then
    { e with service := { e.service with characteristics := e.service.characteristics ++ [chr] } }
  else e

theorem map_addChar_address (address : Nat) (chr : BLECharacteristic Nat)
    (entries : List ServiceEntry) :
    (entries.map (addChar address chr)).map (·.address) = entries.map (·.address) := by
  rw [List.map_map]
  refine List.map_congr_left fun e _ => ?_
  rw [Function.comp_apply, addChar]
  split <;> rfl

theorem charAddresses_cons (e : ServiceEntry) (entries : List ServiceEntry) :
    charAddresses (e :: entries) =
      e.service.characteristics.map (·.self) ++ charAddresses entries := by
  rw [charAddresses, List.flatMap_cons, List.map_append, charAddresses]

theorem charAddresses_of_not_mem {address : Nat} (chr : BLECharacteristic Nat)
    {entries : List ServiceEntry} (absent : address ∉ entries.map (·.address)) :
    entries.map (addChar address chr) = entries :=
  Keyed.map_of_fresh _ absent

/-- One characteristic more, at most. -/
theorem charAddresses_addChar {address : Nat} (chr : BLECharacteristic Nat)
    {entries : List ServiceEntry} (apart : (entries.map (·.address)).Nodup) :
    (charAddresses (entries.map (addChar address chr))).Subperm
      (chr.self :: charAddresses entries) := by
  induction entries with
  | nil => exact List.nil_subperm
  | cons e entries ih =>
      obtain ⟨fresh, apart⟩ := List.nodup_cons.mp apart
      rw [List.map_cons, charAddresses_cons, charAddresses_cons]
      by_cases here : e.address = address
      · rw [charAddresses_of_not_mem chr (here ▸ fresh), addChar, if_pos here, List.map_append,
          List.append_assoc]
        exact (List.perm_middle).subperm
      · rw [addChar, if_neg here]
        have rest :=
          (List.subperm_append_left (e.service.characteristics.map (·.self))).mpr (ih apart)
        exact rest.trans List.perm_middle.subperm

/-- `create_characteristic` of the service at `address`. -/
def createCharacteristic (server : BLEServer) (address : Nat) (uuid : ESPBTUUID)
    (properties : UInt32) : BLEServer where
  services := server.services.map
    (addChar address ⟨server.allocated, uuid, newProperties properties, [], []⟩)
  deviceInformationService := server.deviceInformationService
  allocated := server.allocated + 1
  apart := by
    rw [map_addChar_address]
    exact server.apart
  charsApart := by
    have fresh : server.allocated ∉ charAddresses server.services := fun mem =>
      Nat.lt_irrefl _ (server.old _ (List.mem_append_right _ mem))
    obtain ⟨l, same, sub⟩ := charAddresses_addChar
      ⟨server.allocated, uuid, newProperties properties, [], []⟩ server.apart
    exact same.nodup_iff.mp ((List.nodup_cons.mpr ⟨fresh, server.charsApart⟩).sublist sub)
  old := by
    intro a mem
    rw [map_addChar_address] at mem
    rcases List.mem_append.mp mem with service | char
    · exact Nat.lt_succ_of_lt (server.old a (List.mem_append_left _ service))
    · rcases List.mem_cons.mp ((charAddresses_addChar _ server.apart).subset char) with rfl | char
      · exact Nat.lt_succ_self _
      · exact Nat.lt_succ_of_lt (server.old a (List.mem_append_right _ char))

/-- A change to the characteristic at `address` that leaves it where it is. -/
def changeChar (address : Nat) (f : BLECharacteristic Nat → BLECharacteristic Nat)
    (e : ServiceEntry) : ServiceEntry :=
  { e with service := { e.service with
      characteristics := e.service.characteristics.map fun c =>
        if c.self = address then { f c with self := c.self } else c } }

theorem map_changeChar_address (address : Nat) (f : BLECharacteristic Nat → BLECharacteristic Nat)
    (entries : List ServiceEntry) :
    (entries.map (changeChar address f)).map (·.address) = entries.map (·.address) := by
  rw [List.map_map]
  rfl

theorem charAddresses_changeChar (address : Nat)
    (f : BLECharacteristic Nat → BLECharacteristic Nat) (entries : List ServiceEntry) :
    charAddresses (entries.map (changeChar address f)) = charAddresses entries := by
  induction entries with
  | nil => rfl
  | cons e entries ih =>
      rw [List.map_cons, charAddresses_cons, charAddresses_cons, ih, changeChar, List.map_map]
      refine congrArg (· ++ _) (List.map_congr_left fun c _ => ?_)
      rw [Function.comp_apply]
      split <;> rfl

def changeCharacteristic (server : BLEServer) (address : Nat)
    (f : BLECharacteristic Nat → BLECharacteristic Nat) : BLEServer where
  services := server.services.map (changeChar address f)
  deviceInformationService := server.deviceInformationService
  allocated := server.allocated
  apart := by
    rw [map_changeChar_address]
    exact server.apart
  charsApart := by
    rw [charAddresses_changeChar]
    exact server.charsApart
  old := by
    rw [map_changeChar_address, charAddresses_changeChar]
    exact server.old

def addDescriptor (server : BLEServer) (address : Nat) (desc : BLEDescriptor) : BLEServer :=
  server.changeCharacteristic address fun c => { c with descriptors := c.descriptors ++ [desc] }

/-- `set_value` of the characteristic at `address`. -/
def setValue (server : BLEServer) (address : Nat) (value : List UInt8) : BLEServer :=
  server.changeCharacteristic address fun c => { c with value := value }

/-! ## `setup` -/

/-- The list `all` of `setup`: the device information service goes first. -/
def all (server : BLEServer) : List ServiceEntry :=
  match server.deviceInformationService with
  | none => server.services
  | some dis =>
      (server.services.find? fun e => decide (e.address = dis)).toList ++
        server.services.filter fun e => !decide (e.address = dis)

/-- `setup` passes every service on. -/
theorem all_perm (server : BLEServer) : server.all.Perm server.services := by
  unfold all
  split
  · exact .refl _
  · next dis _ =>
      rw [Keyed.toList_find? server.apart dis]
      exact List.filter_append_perm _ _

/-- **What `setup` starts the GATT server with.** -/
def table (server : BLEServer) : GattTable Nat where
  services := server.all.map (·.service)
  distinct := by
    rw [List.flatMap_map]
    exact ((server.all_perm.flatMap_right _).map _).nodup_iff.mpr server.charsApart

end BLEServer

end EsphomeHost
