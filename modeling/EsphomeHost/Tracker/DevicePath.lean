import EsphomeHost.Lib.CString
import EsphomeHost.Tracker.Bdaddr
import EsphomeHost.Tracker.Signals

/-!
# The object path of a device

`on_properties_changed_` takes the address of a device from fixed places behind the first `/dev_`
of an object path.  It looks neither at the length of the path nor at the separators, so here the
path stands in memory, with whatever follows it.

* `inside_iff`: the handler stays inside the path exactly if sixteen characters follow `/dev_`.
* `result_onPropertiesChangedAt`: inside the path, it delivers what `onPropertiesChanged` makes of
  the text.
* `heedsPath_iff_namesDevice`: **when the handler stays inside the path and delivers a device only
  for a name, with the address that the name spells**.
-/

namespace EsphomeHost

/-! ## Names of devices -/

/-- A name begins with six pairs of digits with underscores between them, the most significant
byte first. -/
def NamesAddress (name : List Char) (bytes : List UInt8) : Prop :=
  ∃ pairs last, pairs.length = 5 ∧ List.Forall₂ Spells (pairs ++ [last]) bytes ∧
    joined '_' pairs last <+: name

/-- **A name is read as the address it spells**, least significant byte first. -/
theorem parseBdaddr_of_names {name : List Char} {bytes : List UInt8}
    (names : NamesAddress name bytes) : parseBdaddr (macText name) = some bytes.reverse := by
  obtain ⟨pairs, last, five, spelled, behind, rfl⟩ := names
  obtain ⟨p₀, p₁, p₂, p₃, p₄, rfl⟩ : ∃ p₀ p₁ p₂ p₃ p₄, pairs = [p₀, p₁, p₂, p₃, p₄] := by
    match pairs, five with
    | [p₀, p₁, p₂, p₃, p₄], _ => exact ⟨p₀, p₁, p₂, p₃, p₄, rfl⟩
  have text : macText (joined '_' [p₀, p₁, p₂, p₃, p₄] last ++ behind) =
      joined ':' [p₀, p₁, p₂, p₃, p₄] last := rfl
  rw [text, parseBdaddr_joined five spelled]

/-- What stands in the places of the digits is taken for an address. -/
def TakenForAddress (name : List Char) : Prop :=
  let c (i : Nat) : Char := name.getD i (Char.ofNat 0)
  (∀ k < 5, Taken (c (3 * k)) (c (3 * k + 1))) ∧ TakenLast (c 15) (c 16)

theorem parseBdaddr_macText_isSome (name : List Char) :
    (parseBdaddr (macText name)).isSome ↔ TakenForAddress name := by
  let c (i : Nat) : Char := name.getD i (Char.ofNat 0)
  have text : macText name =
      joined ':' ((List.range 5).map fun k => (c (3 * k), c (3 * k + 1))) (c 15, c 16) := rfl
  have fields := scanFields_isSome
    ((List.range 5).map fun k => (c (3 * k), c (3 * k + 1))) (c 15, c 16)
  rw [List.forall_mem_map] at fields
  simp only [List.mem_range] at fields
  rw [text, parseBdaddr_eq, Option.isSome_map]
  exact fields

/-! ## The handler on a path in memory -/

/-- The text `on_properties_changed_` makes of fixed places behind `dev`. -/
def macbuf (path : CString) (dev : Nat) : Reads (List Char) := do
  let c (i : Nat) : Reads Char := path.peek (dev + i)
  return [← c 5, ← c 6, ':', ← c 8, ← c 9, ':', ← c 11, ← c 12, ':', ← c 14, ← c 15, ':',
    ← c 17, ← c 18, ':', ← c 20, ← c 21]

/-- `on_properties_changed_`: the device it delivers, and what it reads of the path. -/
def onPropertiesChangedAt (iface : List Char) (path : CString) (changed : List Device1Prop) :
    Reads (Option ESPBTDevice) := do
  if iface = DEVICE1 then
    match ← path.strstr "/dev_".toList with
    | none => return none
    | some dev =>
        match parseBdaddr (← macbuf path dev) with
        | none => return none
        | some bd => return some (parseDevice1Props changed (ESPBTDevice.setAddress {} bd)).2
  else return none

/-- The component behind the first `/dev_`. -/
def component (rest : List Char) : List Char := rest.takeWhile (· ≠ '/')

section Path

variable {path : CString} {changed : List Device1Prop} {before rest : List Char}

theorem offsets_macbuf (dev : Nat) : (macbuf path dev).offsets =
    [5, 6, 8, 9, 11, 12, 14, 15, 17, 18, 20, 21].map (dev + ·) := rfl

theorem onPropertiesChangedAt_none (missing : Cut.cut "/dev_".toList path.text = none) :
    onPropertiesChangedAt DEVICE1 path changed = ⟨none, List.range (path.text.length + 1)⟩ := by
  have search := CString.strstr_none missing
  ext1
  · simp only [onPropertiesChangedAt, if_true, Reads.result_bind, search, Reads.result_pure]
  · simp only [onPropertiesChangedAt, if_true, Reads.offsets_bind, search, Reads.offsets_pure,
      List.append_nil]

theorem onPropertiesChangedAt_some
    (found : Cut.cut "/dev_".toList path.text = some (before, rest)) :
    onPropertiesChangedAt DEVICE1 path changed =
      ⟨(parseBdaddr (macbuf path before.length).result).map fun bd =>
          (parseDevice1Props changed (ESPBTDevice.setAddress {} bd)).2,
        List.range (path.text.length + 1) ++ (macbuf path before.length).offsets⟩ := by
  have search := CString.strstr_some found
  ext1
  · simp only [onPropertiesChangedAt, if_true, Reads.result_bind, search]
    cases parseBdaddr (macbuf path before.length).result <;> rfl
  · simp only [onPropertiesChangedAt, if_true, Reads.offsets_bind, search]
    cases parseBdaddr (macbuf path before.length).result <;> simp

/-- **The handler stays inside the path exactly if sixteen characters follow `/dev_`**: the last
place is then at most that of the terminator. -/
theorem inside_iff (found : Cut.cut "/dev_".toList path.text = some (before, rest)) :
    (onPropertiesChangedAt DEVICE1 path changed).Inside path ↔ 16 ≤ rest.length := by
  have whole : path.text.length = before.length + 5 + rest.length := Cut.length_of_cut found
  rw [onPropertiesChangedAt_some found, Reads.Inside, offsets_macbuf]
  constructor
  · intro inside
    have last := inside (before.length + 21) (by simp)
    omega
  · intro long i mem
    simp only [List.mem_append, List.mem_range, List.map_cons, List.map_nil, List.mem_cons,
      List.not_mem_nil, or_false] at mem
    omega

/-- Inside the path, the text is made of the characters behind `/dev_`. -/
theorem result_macbuf (found : Cut.cut "/dev_".toList path.text = some (before, rest))
    (long : 16 ≤ rest.length) : (macbuf path before.length).result = macText rest := by
  have parts := Cut.eq_of_cut found
  have behind (i : Nat) (inside : i ≤ 16) :
      path.char (before.length + (5 + i)) = rest.getD i (Char.ofNat 0) := by
    have dev := CString.char_behind parts (inside.trans long)
    rwa [List.length_append, Nat.add_assoc] at dev
  simp only [macText, ← behind, Nat.reduceLeDiff]
  rfl

theorem result_of_long (found : Cut.cut "/dev_".toList path.text = some (before, rest))
    (long : 16 ≤ rest.length) :
    (onPropertiesChangedAt DEVICE1 path changed).result =
      (parseBdaddr (macText rest)).map fun bd =>
        (parseDevice1Props changed (ESPBTDevice.setAddress {} bd)).2 := by
  rw [onPropertiesChangedAt_some found, result_macbuf found long]

/-- **Inside the path, what stands behind it does not matter**: the handler delivers what it
makes of the text. -/
theorem result_onPropertiesChangedAt (iface : List Char)
    (inside : (onPropertiesChangedAt iface path changed).Inside path) :
    (onPropertiesChangedAt iface path changed).result =
      onPropertiesChanged iface path.text changed := by
  by_cases device : iface = DEVICE1
  · subst device
    rw [onPropertiesChanged, if_pos rfl, addressOfPath]
    cases found : Cut.cut "/dev_".toList path.text with
    | none =>
        rw [onPropertiesChangedAt_none found]
        rfl
    | some parts =>
        obtain ⟨before, rest⟩ := parts
        exact result_of_long found ((inside_iff found).mp inside)
  · simp [onPropertiesChangedAt, onPropertiesChanged, device]

/-! ## Paths that are heeded -/

/-- The handler stays inside the path, and delivers a device only if the component behind the
first `/dev_` names its address. -/
structure HeedsPath (path : CString) (changed : List Device1Prop) : Prop where
  inside : (onPropertiesChangedAt DEVICE1 path changed).Inside path
  named : ∀ d, (onPropertiesChangedAt DEVICE1 path changed).result = some d →
    ∃ before rest bytes, Cut.cut "/dev_".toList path.text = some (before, rest) ∧
      NamesAddress (component rest) bytes ∧ d.address.toList = bytes.reverse

/-- Sixteen characters or more follow the first `/dev_`, if there is one, and what is taken for
an address is a name, whose address no entry of the dictionary replaces. -/
def NamesDevice (path : List Char) (changed : List Device1Prop) : Prop :=
  ∀ before rest, Cut.cut "/dev_".toList path = some (before, rest) →
    16 ≤ rest.length ∧ (TakenForAddress rest → ∃ bytes, NamesAddress (component rest) bytes ∧
      ∀ bd, lastAddress changed = some bd → bd = bytes.reverse)

theorem setAddress_toList (d : ESPBTDevice) {bd : List UInt8} (six : bd.length = 6) :
    (d.setAddress bd).address.toList = bd := by
  match bd, six with
  | [_, _, _, _, _, _], _ => rfl

theorem length_of_lastAddress {bd : List UInt8} (last : lastAddress changed = some bd) :
    bd.length = 6 := by
  obtain ⟨p, -, address⟩ := List.mem_filterMap.mp (List.mem_of_getLast? last)
  cases p with
  | address value => exact length_of_parseBdaddr address
  | _ => cases address

/-- The address of a device that is delivered for a path. -/
theorem address_of_path {bd : List UInt8} (six : bd.length = 6) :
    (parseDevice1Props changed (ESPBTDevice.setAddress {} bd)).2.address.toList =
      (lastAddress changed).getD bd := by
  rw [(parseDevice1Props_address changed _).2]
  cases last : lastAddress changed with
  | none => exact setAddress_toList {} six
  | some bd' => exact setAddress_toList _ (length_of_lastAddress last)

/-- Digits and underscores do not end the component. -/
theorem namesAddress_component {bytes : List UInt8} :
    NamesAddress (component rest) bytes ↔ NamesAddress rest bytes := by
  constructor
  · rintro ⟨pairs, last, five, spelled, here⟩
    exact ⟨pairs, last, five, spelled, here.trans (List.takeWhile_prefix _)⟩
  · rintro ⟨pairs, last, five, spelled, behind, rfl⟩
    refine ⟨pairs, last, five, spelled, ?_⟩
    rw [component, List.takeWhile_append_of_pos fun c mem => decide_eq_true ?_]
    · exact List.prefix_append _ _
    · exact ne_of_mem_joined spelled rfl (by decide) mem

theorem heedsPath_of_namesDevice (condition : NamesDevice path.text changed) :
    HeedsPath path changed := by
  cases found : Cut.cut "/dev_".toList path.text with
  | none =>
      have nothing : onPropertiesChangedAt DEVICE1 path changed = ⟨none, _⟩ :=
        onPropertiesChangedAt_none found
      refine ⟨fun i mem => ?_, fun d delivered => ?_⟩
      · rw [nothing, List.mem_range] at mem
        omega
      · rw [nothing] at delivered
        cases delivered
  | some parts =>
      obtain ⟨before, rest⟩ := parts
      obtain ⟨long, takes⟩ := condition before rest found
      refine ⟨(inside_iff found).mpr long, fun d delivered => ?_⟩
      rw [result_of_long found long] at delivered
      obtain ⟨bd, read, rfl⟩ := Option.map_eq_some_iff.mp delivered
      obtain ⟨bytes, names, silent⟩ :=
        takes ((parseBdaddr_macText_isSome rest).mp (Option.isSome_of_eq_some read))
      refine ⟨before, rest, bytes, found, names, ?_⟩
      rw [address_of_path (length_of_parseBdaddr read)]
      cases last : lastAddress changed with
      | some bd' => exact silent bd' last
      | none =>
          rw [parseBdaddr_of_names (namesAddress_component.mp names)] at read
          exact (Option.some.inj read).symm

theorem namesDevice_of_heedsPath (heeds : HeedsPath path changed) :
    NamesDevice path.text changed := by
  intro before rest found
  have long := (inside_iff found).mp heeds.inside
  refine ⟨long, fun taken => ?_⟩
  obtain ⟨bd, read⟩ := Option.isSome_iff_exists.mp ((parseBdaddr_macText_isSome rest).mpr taken)
  have delivered : (onPropertiesChangedAt DEVICE1 path changed).result =
      some (parseDevice1Props changed (ESPBTDevice.setAddress {} bd)).2 := by
    rw [result_of_long found long, read]
    rfl
  obtain ⟨before', rest', bytes, found', names, address⟩ := heeds.named _ delivered
  rw [found] at found'
  cases found'
  refine ⟨bytes, names, fun bd' last => ?_⟩
  rw [address_of_path (length_of_parseBdaddr read), last] at address
  exact address

/-- **The handler heeds a path exactly if it names a device.** -/
theorem heedsPath_iff_namesDevice (path : CString) (changed : List Device1Prop) :
    HeedsPath path changed ↔ NamesDevice path.text changed :=
  ⟨namesDevice_of_heedsPath, heedsPath_of_namesDevice⟩

end Path

/-- A path that ends behind two digits, and what may follow it in the message. -/
def truncatedPath : CString where
  text := "/org/bluez/hci0/dev_AA".toList
  beyond i := "BB_CC_DD_EE_FF".toList.getD i (Char.ofNat 0)
  terminated := by decide +kernel

/-- A path without underscores. -/
def unseparatedPath : CString where
  text := "/org/bluez/hci0/dev_AAxBBxCCxDDxEExFF".toList
  beyond _ := Char.ofNat 0
  terminated := by decide +kernel

/-- The first path is left, and what stands behind it is delivered as the address of a device;
the second is not, and delivers an address that it does not name. -/
theorem not_heedsPath :
    (¬ HeedsPath truncatedPath [] ∧
      (onPropertiesChangedAt DEVICE1 truncatedPath []).result.map ESPBTDevice.addressUint64 =
        some 0xAABBCCDDEEFF) ∧
    ¬ HeedsPath unseparatedPath [] := by
  refine ⟨⟨fun heeds => ?_, by decide +kernel⟩, fun heeds => ?_⟩
  · have found : Cut.cut "/dev_".toList truncatedPath.text =
        some ("/org/bluez/hci0".toList, "AA".toList) := by decide +kernel
    exact absurd ((inside_iff found).mp heeds.inside) (by decide)
  · have found : Cut.cut "/dev_".toList unseparatedPath.text =
        some ("/org/bluez/hci0".toList, "AAxBBxCCxDDxEExFF".toList) := by decide +kernel
    have delivered : (onPropertiesChangedAt DEVICE1 unseparatedPath []).result.isSome := by
      decide +kernel
    obtain ⟨d, delivered⟩ := Option.isSome_iff_exists.mp delivered
    obtain ⟨before, rest, bytes, found', names, -⟩ := heeds.named d delivered
    rw [found] at found'
    cases found'
    obtain ⟨pairs, last, five, -, behind, same⟩ := namesAddress_component.mp names
    match pairs, five with
    | p :: pairs, _ =>
        have third : some '_' = some 'x' := congrArg (fun l : List Char => l[2]?) same
        cases third

end EsphomeHost
