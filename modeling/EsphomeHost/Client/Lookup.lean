import EsphomeHost.Gatt.Routing

/-!
# Lookups by UUID

`get_service`, `get_characteristic`, `get_descriptor` and `get_config_descriptor` go through the
tree of the client with `operator==`, which tells a 16-bit UUID from its 128-bit expansion.  A tree
that was discovered holds expansions, but for the synthetic GAP service.

* `firstService`, `firstCharacteristic`, `firstDescriptor`: what a path of UUIDs denotes.
* `lookups_iff`: **a lookup finds what its UUIDs denote exactly if that is stored in the lengths
  the lookup was given**, and below the first service and characteristic it finds in them.
* `discovered_len`: a discovered tree stores 128-bit UUIDs, so that a 16-bit UUID finds the
  synthetic service at most (`getService16_discovered`) and `get_config_descriptor` nothing
  (`getConfigDescriptor_discovered`).
* `not_found_discovered`: a battery service that is there and is not found by 0x180F, and a 0x2902
  that `get_config_descriptor` misses.
-/

namespace EsphomeHost

/-! ## The functions of the source -/

/-- `BLEService::get_characteristic`. -/
def DiscoveredService.getCharacteristic (svc : DiscoveredService) (uuid : ESPBTUUID) :
    Option DiscoveredCharacteristic := svc.characteristics.find? (·.uuid == uuid)

/-- `BLECharacteristic::get_descriptor`. -/
def DiscoveredCharacteristic.getDescriptor (chr : DiscoveredCharacteristic) (uuid : ESPBTUUID) :
    Option DiscoveredDescriptor := chr.descriptors.find? (·.uuid == uuid)

/-- `BLECharacteristic::get_descriptor` for 16-bit UUIDs. -/
def DiscoveredCharacteristic.getDescriptor16 (chr : DiscoveredCharacteristic) (uuid : UInt16) :
    Option DiscoveredDescriptor := chr.getDescriptor (ESPBTUUID.fromUint16 uuid)

namespace BLEClientBase

variable {τ : Type} (b : BLEClientBase τ)

def getService (uuid : ESPBTUUID) : Option DiscoveredService := b.services.find? (·.uuid == uuid)

/-- The overloads of `get_service` and `get_characteristic` for 16-bit UUIDs. -/
def getService16 (uuid : UInt16) : Option DiscoveredService :=
  b.getService (ESPBTUUID.fromUint16 uuid)

/-- `get_characteristic` by UUIDs, with the service that the result points back to. -/
def getCharacteristicOf (service chr : ESPBTUUID) :
    Option (DiscoveredService × DiscoveredCharacteristic) :=
  (b.getService service).bind fun svc => (svc.getCharacteristic chr).map (svc, ·)

def getCharacteristicOf16 (service chr : UInt16) :
    Option (DiscoveredService × DiscoveredCharacteristic) :=
  b.getCharacteristicOf (ESPBTUUID.fromUint16 service) (ESPBTUUID.fromUint16 chr)

/-- `get_descriptor` by UUIDs, with what it was found under. -/
def getDescriptorOf (service chr descr : ESPBTUUID) :
    Option ((DiscoveredService × DiscoveredCharacteristic) × DiscoveredDescriptor) :=
  (b.getCharacteristicOf service chr).bind fun p => (p.2.getDescriptor descr).map (p, ·)

def getConfigDescriptor (handle : UInt16) : Option DiscoveredDescriptor :=
  (b.getCharacteristic handle).bind (·.getDescriptor (ESPBTUUID.fromUint16 0x2902))

end BLEClientBase

/-! ## What a path of UUIDs denotes -/

def firstService (tree : List DiscoveredService) (uuid : ESPBTUUID) : Option DiscoveredService :=
  tree.find? (·.uuid.denotes uuid)

/-- The characteristics of a tree, each with its service. -/
def characteristicsOf (tree : List DiscoveredService) :
    List (DiscoveredService × DiscoveredCharacteristic) :=
  tree.flatMap fun svc => svc.characteristics.map (svc, ·)

/-- The descriptors of a tree, each with its characteristic. -/
def descriptorsOf (tree : List DiscoveredService) :
    List ((DiscoveredService × DiscoveredCharacteristic) × DiscoveredDescriptor) :=
  (characteristicsOf tree).flatMap fun p => p.2.descriptors.map (p, ·)

def firstCharacteristic (tree : List DiscoveredService) (service chr : ESPBTUUID) :
    Option (DiscoveredService × DiscoveredCharacteristic) :=
  (characteristicsOf tree).find? fun p => p.1.uuid.denotes service && p.2.uuid.denotes chr

def firstDescriptor (tree : List DiscoveredService) (service chr descr : ESPBTUUID) :
    Option ((DiscoveredService × DiscoveredCharacteristic) × DiscoveredDescriptor) :=
  (descriptorsOf tree).find? fun p =>
    (p.1.1.uuid.denotes service && p.1.2.uuid.denotes chr) && p.2.uuid.denotes descr

/-- The descriptor of a characteristic that a UUID denotes. -/
def DiscoveredCharacteristic.firstDescriptor (chr : DiscoveredCharacteristic) (uuid : ESPBTUUID) :
    Option DiscoveredDescriptor := chr.descriptors.find? (·.uuid.denotes uuid)

/-- `x` is stored with a UUID of the length of `u`, and before it there is none of that length that
denotes the same. -/
def StoredFirst {α : Type} (uuid : α → ESPBTUUID) (l : List α) (u : ESPBTUUID) (x : α) : Prop :=
  (uuid x).len = u.len ∧ ∃ before after, l = before ++ x :: after ∧
    ∀ y ∈ before, ¬ ((uuid y).denotes u = true ∧ (uuid y).len = u.len)

/-! ## Lookups in a list -/

section Lists

variable {α : Type} {uuid : α → ESPBTUUID} {l : List α} {u : ESPBTUUID} {x : α}

/-- What a lookup finds. -/
theorem find?_beq_iff (sized : u.Sized) : l.find? (fun y => uuid y == u) = some x ↔
    (uuid x).denotes u = true ∧ StoredFirst uuid l u x := by
  have compared (y : α) : (uuid y == u) = true ↔ (uuid y).denotes u = true ∧
      (uuid y).len = u.len := ESPBTUUID.beq_iff_denotes sized
  rw [List.find?_eq_some_iff_append, compared, StoredFirst, and_assoc]
  refine and_congr Iff.rfl (and_congr Iff.rfl (exists_congr fun before => exists_congr fun after =>
    and_congr Iff.rfl (forall₂_congr fun y mem => ?_)))
  rw [← compared y, Bool.not_eq_true, Bool.not_eq_true']

/-- The first that is denoted is found if its length is the one asked for. -/
theorem find?_beq_of_denoted (sized : u.Sized) {q : α → Bool} (found : l.find? q = some x)
    (weaker : ∀ y, (uuid y).denotes u = true → q y = true)
    (denoted : (uuid x).denotes u = true) (length : (uuid x).len = u.len) :
    l.find? (fun y => uuid y == u) = some x := by
  obtain ⟨-, before, after, split, earlier⟩ := List.find?_eq_some_iff_append.mp found
  refine (find?_beq_iff sized).mpr ⟨denoted, length, before, after, split, fun y mem both => ?_⟩
  have skipped := earlier y mem
  rw [weaker y both.1] at skipped
  cases skipped

/-- **A lookup in one list** finds the first that is denoted exactly if that is stored in the
length of the UUID. -/
theorem find?_beq_eq_iff (sized : u.Sized) :
    l.find? (fun y => uuid y == u) = l.find? (fun y => (uuid y).denotes u) ↔
      ∀ x ∈ l.find? (fun y => (uuid y).denotes u), (uuid x).len = u.len := by
  constructor
  · intro same x first
    exact ((find?_beq_iff sized).mp (same.trans first)).2.1
  · intro stored
    cases first : l.find? (fun y => (uuid y).denotes u) with
    | some x =>
        have denoted := List.find?_some (p := fun y => (uuid y).denotes u) first
        exact find?_beq_of_denoted sized first (fun _ => id) denoted (stored x first)
    | none =>
        rw [List.find?_eq_none] at first ⊢
        exact fun y mem found => first y mem ((ESPBTUUID.beq_iff_denotes sized).mp found).1

end Lists

/-! ## Lookups in a tree -/

section Trees

variable {τ : Type} {b : BLEClientBase τ} {s c d : ESPBTUUID}

theorem mem_characteristicsOf {tree : List DiscoveredService}
    {p : DiscoveredService × DiscoveredCharacteristic} :
    p ∈ characteristicsOf tree ↔ p.1 ∈ tree ∧ p.2 ∈ p.1.characteristics := by
  constructor
  · intro mem
    obtain ⟨svc, listed, mem⟩ := List.mem_flatMap.mp mem
    obtain ⟨chr, child, rfl⟩ := List.mem_map.mp mem
    exact ⟨listed, child⟩
  · rintro ⟨listed, child⟩
    exact List.mem_flatMap.mpr ⟨p.1, listed, List.mem_map.mpr ⟨p.2, child, rfl⟩⟩

/-- What `get_characteristic` finds. -/
theorem getCharacteristicOf_iff (sized : s.Sized) (sized' : c.Sized)
    {p : DiscoveredService × DiscoveredCharacteristic} :
    b.getCharacteristicOf s c = some p ↔
      (p.1.uuid.denotes s = true ∧ StoredFirst (·.uuid) b.services s p.1) ∧
        p.2.uuid.denotes c = true ∧ StoredFirst (·.uuid) p.1.characteristics c p.2 := by
  rw [← find?_beq_iff sized, ← find?_beq_iff sized']
  constructor
  · intro found
    obtain ⟨svc, service, found⟩ := Option.bind_eq_some_iff.mp found
    obtain ⟨chr, characteristic, rfl⟩ := Option.map_eq_some_iff.mp found
    exact ⟨service, characteristic⟩
  · rintro ⟨service, characteristic⟩
    exact Option.bind_eq_some_iff.mpr ⟨p.1, service,
      Option.map_eq_some_iff.mpr ⟨p.2, characteristic, rfl⟩⟩

theorem getService_iff (sized : s.Sized) : b.getService s = firstService b.services s ↔
    ∀ svc ∈ firstService b.services s, svc.uuid.len = s.len := find?_beq_eq_iff sized

/-- The first path in its service. -/
theorem firstCharacteristic_child {tree : List DiscoveredService}
    {p : DiscoveredService × DiscoveredCharacteristic}
    (first : firstCharacteristic tree s c = some p) :
    p.1.characteristics.find? (fun chr => p.1.uuid.denotes s && chr.uuid.denotes c) =
      some p.2 := by
  rw [firstCharacteristic, characteristicsOf, List.find?_flatMap] at first
  obtain ⟨svc, -, found⟩ := List.exists_of_findSome?_eq_some first
  rw [List.find?_map] at found
  obtain ⟨chr, child, rfl⟩ := Option.map_eq_some_iff.mp found
  exact child

/-- **`get_characteristic`** finds what the path denotes exactly if that is stored in the lengths of
the two UUIDs, in the first service that is. -/
theorem getCharacteristicOf_eq_iff (sized : s.Sized) (sized' : c.Sized) :
    b.getCharacteristicOf s c = firstCharacteristic b.services s c ↔
      ∀ p ∈ firstCharacteristic b.services s c,
        StoredFirst (·.uuid) b.services s p.1 ∧ p.2.uuid.len = c.len := by
  constructor
  · intro same p first
    obtain ⟨⟨-, service⟩, -, characteristic⟩ :=
      (getCharacteristicOf_iff sized sized').mp (same.trans first)
    exact ⟨service, characteristic.1⟩
  · intro stored
    cases first : firstCharacteristic b.services s c with
    | some p =>
        obtain ⟨service, length⟩ := stored p first
        have denoted := List.find?_some first
        obtain ⟨ofService, ofChr⟩ := Bool.and_eq_true_iff.mp denoted
        have found : p.1.characteristics.find? (fun chr => chr.uuid == c) = some p.2 :=
          find?_beq_of_denoted sized' (firstCharacteristic_child first)
          (fun chr denotes => by rw [ofService, denotes]; rfl) ofChr length
        exact (getCharacteristicOf_iff sized sized').mpr
          ⟨⟨ofService, service⟩, (find?_beq_iff sized').mp found⟩
    | none =>
        cases found : b.getCharacteristicOf s c with
        | none => rfl
        | some p =>
            obtain ⟨⟨ofService, -, before, after, split, -⟩, ofChr, -, before', after', split',
              -⟩ := (getCharacteristicOf_iff sized sized').mp found
            have listed : p ∈ characteristicsOf b.services :=
              mem_characteristicsOf.mpr ⟨by rw [split]; simp, by rw [split']; simp⟩
            have skipped := List.find?_eq_none.mp first p listed
            rw [ofService, ofChr] at skipped
            exact absurd rfl skipped

/-- What `get_descriptor` finds. -/
theorem getDescriptorOf_iff (sized : s.Sized) (sized' : c.Sized) (sized'' : d.Sized)
    {p : (DiscoveredService × DiscoveredCharacteristic) × DiscoveredDescriptor} :
    b.getDescriptorOf s c d = some p ↔
      ((p.1.1.uuid.denotes s = true ∧ StoredFirst (·.uuid) b.services s p.1.1) ∧
        p.1.2.uuid.denotes c = true ∧ StoredFirst (·.uuid) p.1.1.characteristics c p.1.2) ∧
      p.2.uuid.denotes d = true ∧ StoredFirst (·.uuid) p.1.2.descriptors d p.2 := by
  rw [← getCharacteristicOf_iff sized sized', ← find?_beq_iff sized'']
  constructor
  · intro found
    obtain ⟨chr, characteristic, found⟩ := Option.bind_eq_some_iff.mp found
    obtain ⟨descr, descriptor, rfl⟩ := Option.map_eq_some_iff.mp found
    exact ⟨characteristic, descriptor⟩
  · rintro ⟨characteristic, descriptor⟩
    exact Option.bind_eq_some_iff.mpr ⟨p.1, characteristic,
      Option.map_eq_some_iff.mpr ⟨p.2, descriptor, rfl⟩⟩

theorem firstDescriptor_child {tree : List DiscoveredService}
    {p : (DiscoveredService × DiscoveredCharacteristic) × DiscoveredDescriptor}
    (first : firstDescriptor tree s c d = some p) :
    p.1.2.descriptors.find? (fun descr =>
      (p.1.1.uuid.denotes s && p.1.2.uuid.denotes c) && descr.uuid.denotes d) = some p.2 := by
  rw [firstDescriptor, descriptorsOf, List.find?_flatMap] at first
  obtain ⟨chr, -, found⟩ := List.exists_of_findSome?_eq_some first
  rw [List.find?_map] at found
  obtain ⟨descr, child, rfl⟩ := Option.map_eq_some_iff.mp found
  exact child

/-- **`get_descriptor`** finds what the path denotes exactly if that is stored in the lengths of the
three UUIDs, in the first service and characteristic that are. -/
theorem getDescriptorOf_eq_iff (sized : s.Sized) (sized' : c.Sized) (sized'' : d.Sized) :
    b.getDescriptorOf s c d = firstDescriptor b.services s c d ↔
      ∀ p ∈ firstDescriptor b.services s c d, StoredFirst (·.uuid) b.services s p.1.1 ∧
        StoredFirst (·.uuid) p.1.1.characteristics c p.1.2 ∧ p.2.uuid.len = d.len := by
  constructor
  · intro same p first
    obtain ⟨⟨⟨-, service⟩, -, characteristic⟩, -, descriptor⟩ :=
      (getDescriptorOf_iff sized sized' sized'').mp (same.trans first)
    exact ⟨service, characteristic, descriptor.1⟩
  · intro stored
    cases first : firstDescriptor b.services s c d with
    | some p =>
        obtain ⟨service, characteristic, length⟩ := stored p first
        have denoted := List.find?_some first
        obtain ⟨above, ofDescr⟩ := Bool.and_eq_true_iff.mp denoted
        obtain ⟨ofService, ofChr⟩ := Bool.and_eq_true_iff.mp above
        have found : p.1.2.descriptors.find? (fun descr => descr.uuid == d) = some p.2 :=
          find?_beq_of_denoted sized'' (firstDescriptor_child first)
          (fun descr denotes => by rw [ofService, ofChr, denotes]; rfl) ofDescr length
        exact (getDescriptorOf_iff sized sized' sized'').mpr
          ⟨⟨⟨ofService, service⟩, ofChr, characteristic⟩, (find?_beq_iff sized'').mp found⟩
    | none =>
        cases found : b.getDescriptorOf s c d with
        | none => rfl
        | some p =>
            obtain ⟨⟨⟨ofService, -, before, after, split, -⟩, ofChr, -, before', after', split', -⟩,
              ofDescr, -, before'', after'', split'', -⟩ :=
              (getDescriptorOf_iff sized sized' sized'').mp found
            have listed : p.1 ∈ characteristicsOf b.services :=
              mem_characteristicsOf.mpr ⟨by rw [split]; simp, by rw [split']; simp⟩
            have below : p ∈ descriptorsOf b.services :=
              List.mem_flatMap.mpr ⟨p.1, listed, List.mem_map.mpr ⟨p.2, by rw [split'']; simp, rfl⟩⟩
            have skipped := List.find?_eq_none.mp first p below
            rw [ofService, ofChr, ofDescr] at skipped
            exact absurd rfl skipped

/-- `get_config_descriptor` finds the 0x2902 of the characteristic exactly if it is stored as a
16-bit UUID. -/
theorem getConfigDescriptor_eq_iff (handle : UInt16) :
    b.getConfigDescriptor handle = (b.getCharacteristic handle).bind
        (·.firstDescriptor (ESPBTUUID.fromUint16 0x2902)) ↔
      ∀ chr ∈ b.getCharacteristic handle,
        ∀ d ∈ chr.firstDescriptor (ESPBTUUID.fromUint16 0x2902), d.uuid.len = 2 := by
  unfold BLEClientBase.getConfigDescriptor
  cases b.getCharacteristic handle with
  | none => simp
  | some chr =>
      simp only [Option.bind_some, Option.mem_some_iff, forall_eq']
      exact find?_beq_eq_iff (ESPBTUUID.sized_fromUint16 0x2902)

/-- **A lookup finds the first that its UUIDs denote exactly if that is stored in the lengths of the
UUIDs**, and the service and characteristic it is looked up in are the first of theirs. -/
theorem lookups_iff {s c d : ESPBTUUID} (sized : s.Sized) (sized' : c.Sized) (sized'' : d.Sized)
    (s₁₆ c₁₆ d₁₆ handle : UInt16) :
    (b.getService s = firstService b.services s ↔
      ∀ svc ∈ firstService b.services s, svc.uuid.len = s.len) ∧
    (b.getService16 s₁₆ = firstService b.services (ESPBTUUID.fromUint16 s₁₆) ↔
      ∀ svc ∈ firstService b.services (ESPBTUUID.fromUint16 s₁₆), svc.uuid.len = 2) ∧
    (b.getCharacteristicOf s c = firstCharacteristic b.services s c ↔
      ∀ p ∈ firstCharacteristic b.services s c,
        StoredFirst (·.uuid) b.services s p.1 ∧ p.2.uuid.len = c.len) ∧
    (b.getCharacteristicOf16 s₁₆ c₁₆ = firstCharacteristic b.services (ESPBTUUID.fromUint16 s₁₆)
        (ESPBTUUID.fromUint16 c₁₆) ↔
      ∀ p ∈ firstCharacteristic b.services (ESPBTUUID.fromUint16 s₁₆) (ESPBTUUID.fromUint16 c₁₆),
        StoredFirst (·.uuid) b.services (ESPBTUUID.fromUint16 s₁₆) p.1 ∧ p.2.uuid.len = 2) ∧
    (b.getDescriptorOf s c d = firstDescriptor b.services s c d ↔
      ∀ p ∈ firstDescriptor b.services s c d, StoredFirst (·.uuid) b.services s p.1.1 ∧
        StoredFirst (·.uuid) p.1.1.characteristics c p.1.2 ∧ p.2.uuid.len = d.len) ∧
    (∀ chr : DiscoveredCharacteristic, (chr.getDescriptor d = chr.firstDescriptor d ↔
        ∀ descr ∈ chr.firstDescriptor d, descr.uuid.len = d.len) ∧
      (chr.getDescriptor16 d₁₆ = chr.firstDescriptor (ESPBTUUID.fromUint16 d₁₆) ↔
        ∀ descr ∈ chr.firstDescriptor (ESPBTUUID.fromUint16 d₁₆), descr.uuid.len = 2)) ∧
    (b.getConfigDescriptor handle = (b.getCharacteristic handle).bind
        (·.firstDescriptor (ESPBTUUID.fromUint16 0x2902)) ↔
      ∀ chr ∈ b.getCharacteristic handle,
        ∀ descr ∈ chr.firstDescriptor (ESPBTUUID.fromUint16 0x2902), descr.uuid.len = 2) :=
  ⟨getService_iff sized, getService_iff (ESPBTUUID.sized_fromUint16 s₁₆),
    getCharacteristicOf_eq_iff sized sized',
    getCharacteristicOf_eq_iff (ESPBTUUID.sized_fromUint16 s₁₆) (ESPBTUUID.sized_fromUint16 c₁₆),
    getDescriptorOf_eq_iff sized sized' sized'',
    fun _ => ⟨find?_beq_eq_iff sized'', find?_beq_eq_iff (ESPBTUUID.sized_fromUint16 d₁₆)⟩,
    getConfigDescriptor_eq_iff handle⟩

end Trees

/-! ## Discovered trees -/

section Discovered

variable {devicePath : List Char} {reply : List ManagedObject}

/-- Every GATT object has the canonical string of a UUID. -/
def CanonicalUuids (reply : List ManagedObject) : Prop :=
  ∀ o ∈ reply, o.kind ≠ .other → ∃ u : ESPBTUUID, o.uuid = ESPBTUUID.fromUuidStr u.toStr

theorem CanonicalUuids.len (canonical : CanonicalUuids reply) {o : ManagedObject}
    (mem : o ∈ reply) (gatt : o.kind ≠ .other) : o.uuid.len = 16 := by
  obtain ⟨u, printed⟩ := canonical o mem gatt
  rw [printed, ESPBTUUID.fromUuidStr_toStr, ESPBTUUID.as128bit_len]

/-- **A discovered tree stores 128-bit UUIDs.** -/
theorem discovered_len (canonical : CanonicalUuids reply) :
    ∀ svc ∈ describedServices devicePath reply, svc.uuid.len = 16 ∧
      ∀ chr ∈ svc.characteristics, chr.uuid.len = 16 ∧
        ∀ d ∈ chr.descriptors, d.uuid.len = 16 := by
  intro svc listed
  obtain ⟨s, mem, rfl⟩ := List.mem_map.mp listed
  obtain ⟨there, -, kind⟩ : s ∈ reply ∧ _ ∧ s.kind = .service := by
    obtain ⟨there, holds⟩ := List.mem_filter.mp mem
    exact ⟨there, of_decide_eq_true holds⟩
  refine ⟨canonical.len there (by rw [kind]; decide), fun chr child => ?_⟩
  obtain ⟨c, mem, rfl⟩ := List.mem_map.mp child
  have there := (List.mem_filter.mp mem).1
  have kind := (attribute_of_characteristic mem).2
  refine ⟨canonical.len there (by rw [kind]; decide), fun d grandchild => ?_⟩
  obtain ⟨e, mem, rfl⟩ := List.mem_map.mp grandchild
  have there := (List.mem_filter.mp mem).1
  have kind := (attribute_of_descriptor mem).2
  exact canonical.len there (by rw [kind]; decide)

/-- A GAP service that BlueZ exports is not recognized. -/
theorem exportsGap_discovered (canonical : CanonicalUuids reply) :
    exportsGap (describedServices devicePath reply) = false := by
  refine List.any_eq_false.mpr fun svc mem => ?_
  rw [ESPBTUUID.beq_of_len_ne]
  · exact Bool.false_ne_true
  · rw [(discovered_len canonical svc mem).1]
    decide

variable {τ : Type} {b : BLEClientBase τ}

/-- A 16-bit UUID finds the synthetic service at most. -/
theorem getService16_discovered (canonical : CanonicalUuids reply)
    (tree : b.services = emittedTree devicePath reply) {uuid : UInt16} {svc : DiscoveredService}
    (found : b.getService16 uuid = some svc) : svc = gapService := by
  have searched : b.services.find? (fun svc => svc.uuid == ESPBTUUID.fromUint16 uuid) = some svc :=
    found
  have equal := List.find?_some searched
  have listed := List.mem_of_find?_eq_some searched
  rw [tree, emittedTree, exportsGap_discovered canonical] at listed
  rcases List.mem_append.mp listed with real | synthetic
  · rw [ESPBTUUID.beq_of_len_ne] at equal
    · cases equal
    · rw [(discovered_len canonical svc real).1, ESPBTUUID.fromUint16_len]
      decide
  · exact List.mem_singleton.mp synthetic

/-- **`get_config_descriptor` finds nothing in a discovered tree.** -/
theorem getConfigDescriptor_discovered (canonical : CanonicalUuids reply)
    (tree : b.services = emittedTree devicePath reply) (handle : UInt16) :
    b.getConfigDescriptor handle = none := by
  refine Option.bind_eq_none_iff.mpr fun chr found => List.find?_eq_none.mpr fun d mem => ?_
  rw [ESPBTUUID.beq_of_len_ne]
  · exact Bool.false_ne_true
  obtain ⟨svc, listed, child⟩ : ∃ svc ∈ b.services, chr ∈ svc.characteristics := by
    obtain ⟨svc, listed, found⟩ := List.exists_of_findSome?_eq_some found
    exact ⟨svc, listed, List.mem_of_find?_eq_some found⟩
  rw [tree, emittedTree, exportsGap_discovered canonical] at listed
  rcases List.mem_append.mp listed with real | synthetic
  · rw [((discovered_len canonical svc real).2 chr child).2 d mem]
    decide
  · obtain rfl := List.mem_singleton.mp synthetic
    have bare : ∀ chr ∈ gapService.characteristics, chr.descriptors = [] := by decide
    rw [bare chr child] at mem
    cases mem

end Discovered

/-- A device with a battery service, whose level can be subscribed to. -/
def batteryReply : List ManagedObject :=
  [⟨"/d/s".toList, [(.service1, [.uuid "0000180f-0000-1000-8000-00805f9b34fb".toList,
      .handle 1])]⟩,
    ⟨"/d/s/c".toList, [(.characteristic1, [.uuid "00002a19-0000-1000-8000-00805f9b34fb".toList,
      .handle 2, .service "/d/s".toList])]⟩,
    ⟨"/d/s/c/e".toList, [(.descriptor1, [.uuid "00002902-0000-1000-8000-00805f9b34fb".toList,
      .handle 3, .characteristic "/d/s/c".toList])]⟩]

def batteryClient : BLEClientBase Unit :=
  { stamp := (), services := emittedTree "/d".toList batteryReply }

/-- The service is found by its 128-bit UUID. -/
theorem lookups_battery :
    batteryClient.getService (ESPBTUUID.fromUint16 0x180F).as128bit =
      firstService batteryClient.services (ESPBTUUID.fromUint16 0x180F).as128bit :=
  (lookups_iff (ESPBTUUID.sized_of_len16 (ESPBTUUID.as128bit_len _))
    (ESPBTUUID.sized_fromUint16 0x2A19) (ESPBTUUID.sized_fromUint16 0x2902) 0x180F 0x2A19 0x2902
      2).1.mpr (by decide)

/-- The service and the descriptor are there and are not found. -/
theorem not_found_discovered :
    (firstService batteryClient.services (ESPBTUUID.fromUint16 0x180F)).map (·.startHandle) =
        some 1 ∧
      batteryClient.getService16 0x180F = none ∧
      ((batteryClient.getCharacteristic 2).bind
        (·.firstDescriptor (ESPBTUUID.fromUint16 0x2902))).map (·.handle) = some 3 ∧
      batteryClient.getConfigDescriptor 2 = none := by
  decide

end EsphomeHost
