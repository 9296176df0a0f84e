import EsphomeHost.Ble.Broadcast
import EsphomeHost.Bthome.Encoder
import EsphomeHost.Server.Advertisement
import EsphomeHost.Tracker.Agreement

/-!
# Measurements on the air

`BTHomeAdvertiser` puts its measurements into the service data of a broadcast.  BlueZ reads it back
through the properties of the `LEAdvertisement1` object and transmits it, and the scanner of another
host, whichever backend it has, stores it with the UUID it stood under.

* `Transmits`: what is relied on of BlueZ.
* `Hears`: the measurements in the service data of a received device.
* `measurements_received`: **whatever is on the air at any point of a run, both backends of a
  receiver hear the measurements from it**.
-/

namespace EsphomeHost

open StableSort

/-! ## The properties -/

def BTHOME_SERVICE_UUID : List Char := "0000fcd2-0000-1000-8000-00805f9b34fb".toList

structure BTHomeAdvertiser where
  measurements : List BTHomeObject := []
  encrypted : Bool := false

namespace BTHomeAdvertiser

variable (a : BTHomeAdvertiser)

/-- `payload_`, as `setup` builds it. -/
def builtPayload (R : LLRound) : List UInt8 := buildBthomePayload R a.measurements a.encrypted

def advGetServiceUuids : List (List Char) := [BTHOME_SERVICE_UUID]

def advGetServiceData (payload : List UInt8) : List (List Char × List UInt8) :=
  [(BTHOME_SERVICE_UUID, payload)]

/-- The `adv_get_*` functions; the vtable has no other properties. -/
def advertisement (payload : List UInt8) : LEAdvertisement1 where
  type := "broadcast".toList
  localName := []
  serviceUuids := advGetServiceUuids
  manufacturerData := []
  serviceData := advGetServiceData payload
  appearance := 0
  includes := []

end BTHomeAdvertiser

/-! ## Transmission and reception -/

/-- The service UUIDs and the service data of the properties are on the air, each UUID at a length
that BlueZ chooses. -/
structure LEAdvertisement1.Transmits (p : LEAdvertisement1) (structures : List AdStructure) :
    Prop where
  uuids : (structures.flatMap AdStructure.serviceUuids).map ESPBTUUID.as128bit =
    p.serviceUuids.map ESPBTUUID.fromUuidStr
  datas :
    (structures.flatMap AdStructure.serviceDatas).map (fun sd => (sd.uuid.as128bit, sd.data)) =
      p.serviceData.map fun e => (ESPBTUUID.fromUuidStr e.1, e.2)

def BTHOME_UUID : ESPBTUUID := .fromUint16 0xFCD2

/-- The device lists the UUID and has service data under it alone, and in there are the
measurements, in the order of a stable sort. -/
structure BTHomeAdvertiser.Hears (a : BTHomeAdvertiser) (d : ESPBTDevice) : Prop where
  listed : d.serviceUuids.map ESPBTUUID.as128bit = [BTHOME_UUID.as128bit]
  decodes : ∃ sd sorted, d.serviceDatas = [sd] ∧ sd.uuid.as128bit = BTHOME_UUID.as128bit ∧
    StablySorted (·.objectId) a.measurements sorted ∧
      decodePayload sd.data =
        some (if a.encrypted then 0x41 else 0x40, sorted.filterMap rawObject)

/-! ## What is received -/

theorem fromUuidStr_service : ESPBTUUID.fromUuidStr BTHOME_SERVICE_UUID = BTHOME_UUID.as128bit := by
  decide

section Reception

variable {a : BTHomeAdvertiser}

/-- The payload of the advertiser is read back. -/
theorem decodePayload_built (R : LLRound) (rounds : ∀ o ∈ a.measurements, Rounds o) :
    ∃ sorted, StablySorted (·.objectId) a.measurements sorted ∧
      decodePayload (a.builtPayload R) =
        some (if a.encrypted then 0x41 else 0x40, sorted.filterMap rawObject) := by
  have sorted := stablySorted_mergeSort (fun o : BTHomeObject => o.objectId) a.measurements
  refine ⟨_, sorted, ?_⟩
  rw [BTHomeAdvertiser.builtPayload, buildBthomePayload, decodePayload,
    decodeObjects_flatMap fun o mem => rounds o (sorted.perm.mem_iff.mp mem)]
  cases a.encrypted <;> rfl

/-- Service UUIDs and data that expand to those of the advertisement are heard. -/
theorem hears_of_expands (R : LLRound) (rounds : ∀ o ∈ a.measurements, Rounds o) {d : ESPBTDevice}
    (uuids : d.serviceUuids.map ESPBTUUID.as128bit =
      (BTHomeAdvertiser.advertisement (a.builtPayload R)).serviceUuids.map ESPBTUUID.fromUuidStr)
    (datas : d.serviceDatas.map (fun sd => (sd.uuid.as128bit, sd.data)) =
      (BTHomeAdvertiser.advertisement (a.builtPayload R)).serviceData.map
        fun e => (ESPBTUUID.fromUuidStr e.1, e.2)) : a.Hears d := by
  refine ⟨uuids.trans (congrArg (fun u => [u]) fromUuidStr_service), ?_⟩
  obtain ⟨sd, only, same⟩ := List.map_eq_singleton_iff.mp datas
  obtain ⟨uuid, data⟩ := Prod.mk.inj same
  obtain ⟨sorted, stable, decoded⟩ := decodePayload_built R rounds
  exact ⟨sd, sorted, only, uuid.trans fromUuidStr_service, stable, data.symm ▸ decoded⟩

end Reception

/-- **The measurements are received**: whatever is on the air at any point of a run, and among
whatever other reports it comes, both backends hear the measurements from it. -/
theorem measurements_received (R : LLRound) (a : BTHomeAdvertiser)
    (rounds : ∀ o ∈ a.measurements, Rounds o) {s : Broadcast}
    (reachable : (Broadcast.machine (a.builtPayload R) true).Reachable s) {payload : List UInt8}
    (onAir : s.air = some payload) {adv : Advertisement}
    (transmits : (BTHomeAdvertiser.advertisement payload).Transmits adv.structures) :
    (∀ before after : List LeReport, ∀ r, r.advertisement = adv →
        (before ++ r :: after).length ≤ 255 →
        (∀ q ∈ before ++ r :: after, q.advertisement.payload.length ≤ 255) →
        ∃ front d back, handleLeMetaEvent (leEvent (before ++ r :: after)) = front ++ d :: back ∧
          front.length = before.length ∧ a.Hears d) ∧
      ∀ props, adv.Reported props → a.Hears (parseDevice1Props props {}).2 := by
  have air := (Broadcast.inv_of_reachable reachable).sound.onAir
  obtain ⟨-, same⟩ := Option.ite_none_right_eq_some.mp (air.symm.trans onAir)
  cases same
  constructor
  · intro before after r same count fits
    subst same
    have mine := fits r (List.mem_append_right _ List.mem_cons_self)
    refine ⟨before.map fun q => q.advertisement.rawDevice, r.advertisement.rawDevice,
      after.map fun q => q.advertisement.rawDevice, ?_, List.length_map _, ?_⟩
    · rw [handleLeMetaEvent_encode count fits, List.map_append, List.map_cons]
    · have raw := rawDevice_accumulates mine
      refine hears_of_expands R rounds ?_ ?_
      · rw [raw.serviceUuids]
        exact transmits.uuids
      · rw [raw.serviceDatas]
        exact transmits.datas
  · intro props reported
    obtain ⟨appearance, parsed⟩ := parseDevice1Props_reported reported
    rw [parsed]
    refine hears_of_expands R rounds ?_ ?_
    · rw [← transmits.uuids, List.map_map]
      exact List.map_congr_left fun u _ => ESPBTUUID.as128bit_idem u
    · rw [← transmits.datas, List.map_map]
      exact List.map_congr_left fun sd _ => congrArg (·, sd.data) (ESPBTUUID.as128bit_idem sd.uuid)

/-- A battery level, in an advertisement of its own. -/
def batteryAdvertiser : BTHomeAdvertiser := { measurements := [⟨0x01, .ofRat 93⟩] }

def batteryReport : LeReport where
  eventType := 3
  addressType := 0
  advertisement :=
    { address := .replicate 6 0xC0, rssi := -60
      structures := [.flags 6, .uuids16 true [0xFCD2], .serviceData16 0xFCD2 [0x40, 0x01, 0x5d]] }

theorem builtPayload_battery : batteryAdvertiser.builtPayload unbounded = [0x40, 0x01, 0x5d] := by
  rw [BTHomeAdvertiser.builtPayload, buildBthomePayload, batteryAdvertiser,
    List.mergeSort_singleton]
  decide +kernel

theorem measurements_received_battery :
    (∃ front d back, handleLeMetaEvent (leEvent [batteryReport]) = front ++ d :: back ∧
      front.length = 0 ∧ batteryAdvertiser.Hears d) ∧
    batteryAdvertiser.Hears
      (parseDevice1Props batteryReport.advertisement.properties {}).2 := by
  have rounds : ∀ o ∈ batteryAdvertiser.measurements, Rounds o := by
    unfold Rounds
    decide +kernel
  have run : ∃ s, (Broadcast.machine [0x40, 0x01, 0x5d] true).run {}
      [.setup, .copy, .pass ⟨true, true, true, true⟩, .process true] = some s ∧
        s.air = some [0x40, 0x01, 0x5d] := ⟨_, rfl, rfl⟩
  obtain ⟨s, ran, onAir⟩ := run
  rw [← builtPayload_battery] at ran
  have transmits : (BTHomeAdvertiser.advertisement [0x40, 0x01, 0x5d]).Transmits
      batteryReport.advertisement.structures := ⟨by decide, by decide⟩
  have received := measurements_received unbounded batteryAdvertiser rounds
    ⟨_, rfl, Machine.run_reach ran⟩ onAir transmits
  exact ⟨received.1 [] [] batteryReport rfl (by decide) (by decide),
    received.2 _ ⟨by decide, [], by simp⟩⟩

end EsphomeHost
