import EsphomeHost.Lib.OffsetStore
import EsphomeHost.Server.Centrals
import EsphomeHost.Server.State

/-!
# `ReadValue` and `WriteValue`

BlueZ passes the reads and writes of a central on with options, one of which is an offset.  The read
methods return the value from there on and refuse an offset past the end.

* `chrReadValue`, `chrWriteValue`, `descReadValue`, `descWriteValue`: the methods, with whatever the
  callbacks of the application do to the value.
* `chrStore_overwrites`, `descStore_overwrites`: the write methods parse the offset and do not use
  it.
* `conforms_iff_of_values`: **a long write reads back exactly if the callbacks make the value of its
  last chunk, without callbacks exactly if the chunks before the last are empty; a write past the
  end is never refused**.
* `not_readsBack_two_chunks`: two bytes in two chunks.
-/

namespace EsphomeHost

open OffsetStore

/-! ## The options -/

/-- An entry of the dictionary: a `q`, an `o`, or something that is skipped. -/
inductive GattOption
  | offset (value : UInt16)
  | device (path : List Char)
  | other (key : List Char)

/-- `parse_options_`. -/
def parseOptions (options : List GattOption) : UInt16 × Option (List Char) :=
  options.foldl (fun (offset, device) entry =>
    match entry with
    | .offset value => (value, device)
    | .device path => (offset, some path)
    | .other _ => (offset, device)) (0, none)

/-- The options of a central: the offset, if there is one, and what else BlueZ says. -/
def optionsOf (device : Option (List Char)) (others : List (List Char)) (offset : Option UInt16) :
    List GattOption :=
  offset.toList.map .offset ++ (device.toList.map .device ++ others.map .other)

theorem parseOptions_optionsOf (device : Option (List Char)) (others : List (List Char))
    (offset : Option UInt16) :
    parseOptions (optionsOf device others offset) = (offset.getD 0, device) := by
  have skipped (r : UInt16 × Option (List Char)) :
      (others.map GattOption.other).foldl (fun (offset, device) entry =>
        match entry with
        | .offset value => (value, device)
        | .device path => (offset, some path)
        | .other _ => (offset, device)) r = r := by
    induction others with
    | nil => rfl
    | cons key others ih => exact ih
  rw [parseOptions, optionsOf, List.foldl_append, List.foldl_append, skipped]
  cases offset <;> cases device <;> rfl

/-! ## Replies -/

inductive GattReply
  | value (bytes : List UInt8)
  | done
  | error (name message : String)
deriving DecidableEq

def invalidOffset : GattReply := .error "org.bluez.Error.InvalidOffset" "offset past end"

/-- The end of the read methods. -/
def readSlice (offset : UInt16) (value : List UInt8) : GattReply :=
  if offset.toNat < value.length then .value (value.drop offset.toNat)
  else if value.length < offset.toNat then invalidOffset
  else .value []

theorem readSlice_eq (offset : UInt16) (value : List UInt8) :
    readSlice offset value =
      if value.length < offset.toNat then invalidOffset
      else .value (value.drop offset.toNat) := by
  rw [readSlice]
  rcases Nat.lt_trichotomy offset.toNat value.length with inside | same | past
  · rw [if_pos inside, if_neg (by omega)]
  · rw [if_neg (by omega), if_neg (by omega), if_neg (by omega), List.drop_of_length_le (by omega)]
  · rw [if_neg (by omega), if_pos past, if_pos past]

/-! ## The methods -/

/-- The callbacks: they can set the value, and have a state of their own. -/
structure GattCallbacks (σ : Type) where
  onRead : Option (UInt16 → List UInt8 × σ → List UInt8 × σ) := none
  onWrite : Option (List UInt8 → UInt16 → List UInt8 × σ → List UInt8 × σ) := none

/-- An exported characteristic, the application and the connection ids of the server. -/
structure CharState (κ σ : Type) where
  node : ExportedChar κ
  app : σ
  central : Central

structure DescState (σ : Type) where
  value : List UInt8
  app : σ
  central : Central

/-- `intern_device_`, where no device is named too. -/
def Central.connIdOf (s : Central) : Option (List Char) → UInt16 × Central
  | none => (0, s)
  | some device => s.internDevice device

section Methods

variable {κ σ : Type} (callbacks : GattCallbacks σ)

/-- `host_on_read`, from the value and the application as they are. -/
def hostOnRead (connId : UInt16) (p : List UInt8 × σ) : List UInt8 × σ :=
  match callbacks.onRead with
  | none => p
  | some onRead => onRead connId p

/-- `host_on_write`, of characteristics and descriptors. -/
def hostOnWrite (data : List UInt8) (connId : UInt16) (app : σ) : List UInt8 × σ :=
  match callbacks.onWrite with
  | none => (data, app)
  | some onWrite => onWrite data connId (data, app)

def chrReadValue (options : List GattOption) (s : CharState κ σ) : GattReply × CharState κ σ :=
  let (offset, device) := parseOptions options
  let (connId, central) := s.central.connIdOf device
  let (value, app) := hostOnRead callbacks connId (s.node.chr.value, s.app)
  let node := { s.node with chr := { s.node.chr with value := value }, cachedValue := value }
  (readSlice offset value, ⟨node, app, central⟩)

def chrWriteValue (data : List UInt8) (options : List GattOption) (s : CharState κ σ) :
    GattReply × CharState κ σ :=
  let (_, device) := parseOptions options
  let (connId, central) := s.central.connIdOf device
  let (value, app) := hostOnWrite callbacks data connId s.app
  let node := { s.node with chr := { s.node.chr with value := value }, cachedValue := data }
  (.done, ⟨node, app, central⟩)

/-- A descriptor has no `on_read`, and the device is not asked for. -/
def descReadValue (options : List GattOption) (s : DescState σ) : GattReply × DescState σ :=
  (readSlice (parseOptions options).1 s.value, s)

def descWriteValue (data : List UInt8) (options : List GattOption) (s : DescState σ) :
    GattReply × DescState σ :=
  let (_, device) := parseOptions options
  let (connId, central) := s.central.connIdOf device
  let (value, app) := hostOnWrite callbacks data connId s.app
  (.done, ⟨value, app, central⟩)

/-! ## What a central sees -/

variable (device : Option (List Char)) (others : List (List Char))

/-- A characteristic as one central accesses it. -/
def chrStore : Store UInt8 UInt16 (CharState κ σ) GattReply where
  ofNat := UInt16.ofNat
  toNat := UInt16.toNat
  value s := s.node.chr.value
  read offset := chrReadValue callbacks (optionsOf device others (some offset))
  write offset data := chrWriteValue callbacks data (optionsOf device others offset)
  served := .value
  written := .done
  pastEnd := invalidOffset

/-- A descriptor as one central accesses it. -/
def descStore : Store UInt8 UInt16 (DescState σ) GattReply where
  ofNat := UInt16.ofNat
  toNat := UInt16.toNat
  value s := s.value
  read offset := descReadValue (optionsOf device others (some offset))
  write offset data := descWriteValue callbacks data (optionsOf device others offset)
  served := .value
  written := .done
  pastEnd := invalidOffset

/-! ## The writes overwrite -/

/-- A device keeps its connection id. -/
theorem connIdOf_again (s : Central) :
    ((s.connIdOf device).2.connIdOf device).1 = (s.connIdOf device).1 := by
  cases device with
  | none => rfl
  | some path =>
      rcases known : s.deviceConnIds.lookup path with _ | connId
      · simp only [Central.connIdOf, Central.internDevice, known, List.lookup_cons_self]
      · simp only [Central.connIdOf, Central.internDevice, known]

/-- `host_on_write` for a connection, beside the state of the application. -/
def writeHook (data : List UInt8) (a : σ × UInt16) : List UInt8 × σ × UInt16 :=
  let (value, app) := hostOnWrite callbacks data a.2 a.1
  (value, app, a.2)

def readHook (p : List UInt8 × σ × UInt16) : List UInt8 × σ × UInt16 :=
  let (value, app) := hostOnRead callbacks p.2.2 (p.1, p.2.1)
  (value, app, p.2.2)

/-- The application, and the connection id that the central has or will get. -/
def chrView (s : CharState κ σ) : σ × UInt16 := (s.app, (s.central.connIdOf device).1)

def descView (s : DescState σ) : σ × UInt16 := (s.app, (s.central.connIdOf device).1)

theorem chrStore_overwrites :
    Overwrites (chrStore (κ := κ) callbacks device others) (chrView device) (writeHook callbacks)
      (readHook callbacks) where
  zero := rfl
  distinct := nofun
  injective _ _ same := GattReply.value.inj same
  write_reply _ _ _ := rfl
  write_state offset data s := by
    simp only [chrStore, chrView, writeHook, chrWriteValue, parseOptions_optionsOf, connIdOf_again]
  read_reply offset s := by
    simp only [chrStore, chrReadValue, parseOptions_optionsOf, Option.getD_some]
    exact readSlice_eq _ _
  read_state offset s := by
    simp only [chrStore, chrView, readHook, chrReadValue, parseOptions_optionsOf, connIdOf_again]

theorem descStore_overwrites :
    Overwrites (descStore callbacks device others) (descView device) (writeHook callbacks) id where
  zero := rfl
  distinct := nofun
  injective _ _ same := GattReply.value.inj same
  write_reply _ _ _ := rfl
  write_state offset data s := by
    simp only [descStore, descView, writeHook, descWriteValue, parseOptions_optionsOf,
      connIdOf_again]
  read_reply offset s := by
    simp only [descStore, descReadValue, parseOptions_optionsOf, Option.getD_some]
    exact readSlice_eq _ _
  read_state _ _ := rfl

/-- The callbacks do not set the value. -/
structure GattCallbacks.KeepValue : Prop where
  write : ∀ data connId app, (hostOnWrite callbacks data connId app).1 = data
  read : ∀ connId p, (hostOnRead callbacks connId p).1 = p.1

/-- **What a central can rely on.**  The callbacks have to make the value of the last chunk and to
leave that of a single write, whose offset must not be past the end; callbacks that do not set the
value do so if nothing was in the chunks before. -/
theorem conforms_iff_of_values (earlier : List (List UInt8)) (last : List UInt8) (offset : UInt16)
    (data : List UInt8) :
    (∀ s : CharState κ σ, (chrStore callbacks device others).Conforms (earlier ++ [last]) offset
      data s ↔
        Yields (writeHook callbacks) (readHook callbacks) earlier last (chrView device s)
            (earlier ++ [last]).flatten ∧
          offset.toNat ≤ s.node.chr.value.length ∧
            (hostOnWrite callbacks data (s.central.connIdOf device).1 s.app).1 = data) ∧
      (∀ s : DescState σ, (descStore callbacks device others).Conforms (earlier ++ [last]) offset
        data s ↔
          Yields (writeHook callbacks) id earlier last (descView device s)
              (earlier ++ [last]).flatten ∧
            offset.toNat ≤ s.value.length ∧
              (hostOnWrite callbacks data (s.central.connIdOf device).1 s.app).1 = data) ∧
      (callbacks.KeepValue → ∀ a,
        (Yields (writeHook callbacks) (readHook callbacks) earlier last a
            (earlier ++ [last]).flatten ↔ ∀ c ∈ earlier, c = []) ∧
          (Yields (writeHook callbacks) id earlier last a (earlier ++ [last]).flatten ↔
            ∀ c ∈ earlier, c = [])) := by
  refine ⟨fun s => ?_, fun s => ?_, fun keep a => ⟨?_, ?_⟩⟩
  · exact (chrStore_overwrites callbacks device others).conforms_iff earlier last offset data s
  · exact (descStore_overwrites callbacks device others).conforms_iff earlier last offset data s
  · exact yields_iff (A := σ × UInt16) (fun data a => keep.write data a.2 a.1)
      (fun p => keep.read p.2.2 (p.1, p.2.1)) earlier last a
  · exact yields_iff (A := σ × UInt16) (fun data a => keep.write data a.2 a.1) (fun _ => rfl)
      earlier last a

end Methods

/-- A characteristic of an application without callbacks reads back the second of two chunks. -/
theorem not_readsBack_two_chunks :
    ¬ ∀ (device : Option (List Char)) (chunks : List (List UInt8)) (s : CharState Unit Unit),
      chunks ≠ [] → (chrStore {} device []).LongWriteReadsBack chunks s := by
  intro all
  have readsBack := all none ([[1]] ++ [[2]])
    ⟨⟨⟨(), ESPBTUUID.fromUint16 0x2A00, 0, [], []⟩, [], [], [], 0, [], false⟩, (),
      { connected := [] }⟩ (List.cons_ne_nil _ _)
  have yields := ((chrStore_overwrites {} none []).longWrite_iff [[1]] [2] _).mp readsBack
  have empty := (yields_iff (A := Unit × UInt16) (fun _ _ => rfl) (fun _ => rfl) _ _ _).mp yields
  exact List.cons_ne_nil _ _ (empty [1] List.mem_cons_self)

end EsphomeHost
