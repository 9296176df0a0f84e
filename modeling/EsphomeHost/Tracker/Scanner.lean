import EsphomeHost.Lib.Lease
import EsphomeHost.Lib.Machine
import EsphomeHost.Lib.Strtol
import EsphomeHost.Tracker.LeMeta

/-!
# The thread of the raw scanner

`scanner_thread_main_` opens an HCI socket, stops whatever scan the controller may still be running,
sets the parameters of its own and starts it, then reads packets until it is told to stop or a read
fails.  A step of the thread is one system call with what the kernel answers, so every failure of
every call is a run.

* `Controller` and `Controller.Obeys`: any controller, and what the Bluetooth specification has it
  do with the commands of a scan.
* `scanStep_cases`: everything a step of the thread can be.
* `scanThread_serves`: **in every run the socket is closed exactly once and not used afterwards;
  while packets are read a controller that obeys scans, with the parameters of the configuration if
  they are in its range; every device of every packet is delivered, in order**.
-/

namespace EsphomeHost

open Strtol LittleEndian AdStructure

/-! ## The code -/

structure ScanConfig where
  hciDeviceName : List UInt8
  scanActive : Bool
  scanIntervalMs : UInt32
  scanWindowMs : UInt32

/-- `std::atoi`: a `long` that is cut off to an `int`. -/
def atoi (s : List UInt8) : Int :=
  (strtol (-9223372036854775808) 9223372036854775807 s).value.bmod 4294967296

namespace ScanConfig

/-- The `dev_id` of `open_hci_`. -/
def devId (cfg : ScanConfig) : Int :=
  if cfg.hciDeviceName.length > 3 ∧ [0x68, 0x63, 0x69] <+: cfg.hciDeviceName then
    atoi (cfg.hciDeviceName.drop 3)
  else -1

end ScanConfig

def hciOpcode (ogf ocf : UInt16) : UInt16 := (ogf <<< 10) ||| (ocf &&& 0x03ff)

/-- Milliseconds in units of 0.625 ms. -/
def scanUnits (ms : UInt32) : UInt16 := (ms * 1000 / 625).toUInt16

/-- The command of `send_le_set_scan_params_`. -/
def leSetScanParams (cfg : ScanConfig) : List UInt8 :=
  0x01 :: bytes16 (hciOpcode 0x08 0x000b) ++ [7, if cfg.scanActive then 0x01 else 0x00] ++
    bytes16 (scanUnits cfg.scanIntervalMs) ++ bytes16 (scanUnits cfg.scanWindowMs) ++ [0x00, 0x00]

/-- The command of `send_le_set_scan_enable_`. -/
def leSetScanEnable (enable : Bool) : List UInt8 :=
  0x01 :: bytes16 (hciOpcode 0x08 0x000c) ++ [2, if enable then 0x01 else 0x00, 0x00]

/-- What `read` returns. -/
inductive HciRead
  | interrupted
  | failed
  | packet (bytes : List UInt8)
  deriving DecidableEq

/-- The system calls with their answers. -/
inductive HciCall
  | socket (fd : Option Nat)
  | setFilter (fd : Nat) (done : Bool)
  | bind (fd : Nat) (dev : UInt16) (done : Bool)
  | write (fd : Nat) (bytes : List UInt8) (n : Int)
  | read (fd : Nat) (result : HciRead)
  | close (fd : Nat)
  deriving DecidableEq

/-- Where the thread is; `fd` is the local variable of `open_hci_`. -/
inductive ScanPc
  | openHci
  | setFilter (fd : Nat)
  | bind (fd : Nat)
  | disable
  | params
  | enable
  | poll
  | read
  | stop
  | ended
  deriving DecidableEq

structure ScanThread where
  pc : ScanPc := .openHci
  hciFd : Option Nat := none
  hciDevId : Int := -1
  hciOk : Bool := false
  calls : List HciCall := []
  delivered : List ESPBTDevice := []

/-- What the thread is answered: by the kernel, and by `stop_thread_`. -/
inductive ScanAnswer
  | fd (fd : Option Nat)
  | done (done : Bool)
  | wrote (n : Int)
  | stop (stop : Bool)
  | got (result : HciRead)
  deriving DecidableEq

namespace ScanThread

variable (t : ScanThread)

def call (c : HciCall) : ScanThread := { t with calls := t.calls ++ [c] }

/-- `close_hci_`, and the thread returns. -/
def closeHci : ScanThread :=
  match t.hciFd with
  | none => { t with pc := .ended }
  | some fd => { t.call (.close fd) with hciFd := none, pc := .ended }

/-- A `write` of a command with what it returned, and whether that was all of it. -/
def send (fd : Nat) (cmd : List UInt8) (n : Int) : ScanThread × Bool :=
  (t.call (.write fd cmd n), n == cmd.length)

end ScanThread

/-- One call of `scanner_thread_main_`. -/
def scanStep (cfg : ScanConfig) (t : ScanThread) (a : ScanAnswer) : Option ScanThread :=
  match t.pc, t.hciFd, a with
  | .openHci, _, .fd fd =>
      -- Without a device there is no socket at all.
      if cfg.devId < 0 then some { t with pc := .ended }
      else
        match fd with
        | none => some { t.call (.socket none) with pc := .ended }
        | some fd => some { t.call (.socket (some fd)) with pc := .setFilter fd }
  | .setFilter fd, _, .done done =>
      let t := t.call (.setFilter fd done)
      if done then some { t with pc := .bind fd }
      else some { t.call (.close fd) with pc := .ended }
  | .bind fd, _, .done done =>
      let t := t.call (.bind fd (UInt16.ofInt cfg.devId) done)
      if done then some { t with hciFd := some fd, hciDevId := cfg.devId, pc := .disable }
      else some { t.call (.close fd) with pc := .ended }
  | .disable, some fd, .wrote n =>
      some { (t.send fd (leSetScanEnable false) n).1 with pc := .params }
  | .params, some fd, .wrote n =>
      let r := t.send fd (leSetScanParams cfg) n
      if r.2 then some { r.1 with pc := .enable } else some r.1.closeHci
  | .enable, some fd, .wrote n =>
      let r := t.send fd (leSetScanEnable true) n
      if r.2 then some { r.1 with hciOk := true, pc := .poll } else some r.1.closeHci
  | .poll, _, .stop stop => some { t with pc := if stop then .stop else .read }
  | .read, some fd, .got result =>
      let t := t.call (.read fd result)
      match result with
      | .interrupted => some { t with pc := .poll }
      | .failed => some { t with pc := .stop }
      | .packet bytes =>
          (readHciPacket bytes).map fun devices =>
            { t with pc := .poll, delivered := t.delivered ++ devices }
  | .stop, some fd, .wrote n => some (t.send fd (leSetScanEnable false) n).1.closeHci
  | _, _, _ => none

/-- The threads of a configuration. -/
def scanThread (cfg : ScanConfig) : Machine ScanThread ScanAnswer where
  init t := t = {}
  step := scanStep cfg

/-! ## What a step is -/

variable {cfg : ScanConfig} {t t' : ScanThread}

/-- The devices of a packet: those of the event, when the packet is an LE meta event that is there
as a whole. -/
def packetDevices : List UInt8 → List ESPBTDevice
  | type :: code :: plen :: rest =>
      if type = 0x04 ∧ code = 0x3e ∧ plen.toNat ≤ rest.length then
        handleLeMetaEvent (rest.take plen.toNat)
      else []
  | _ => []

def HciRead.devices : HciRead → List ESPBTDevice
  | .interrupted => []
  | .failed => []
  | .packet bytes => packetDevices bytes

theorem readHciPacket_eq (bytes : List UInt8) :
    readHciPacket bytes = some (packetDevices bytes) := by
  match bytes with
  | [] => rfl
  | [_] => exact if_pos (by simp)
  | [_, _] => exact if_pos (by simp)
  | type :: code :: plen :: rest =>
      have size : (type :: code :: plen :: rest).length = 3 + rest.length := by
        rw [List.length_cons, List.length_cons, List.length_cons]
        omega
      rw [readHciPacket, if_neg (by omega), packetDevices]
      simp only [List.getElem?_cons_zero, List.getElem?_cons_succ, Option.bind_eq_bind,
        Option.bind_some]
      by_cases event : type = 0x04
      · rw [if_neg (not_not.mpr event)]
        by_cases whole : plen.toNat ≤ rest.length
        · rw [if_neg (by omega)]
          by_cases leMeta : code = 0x3e
          · rw [if_pos leMeta, if_pos ⟨event, leMeta, whole⟩, bytesAt_of_le (by omega)]
            exact readLeMetaEvent_eq _
          · rw [if_neg leMeta, if_neg fun all => leMeta all.2.1]
        · rw [if_pos (by omega), if_neg fun all => whole all.2.2]
      · rw [if_pos event, if_neg fun all => event all.1]

/-- The steps, each with the thread it leaves behind. -/
inductive ScanStep (cfg : ScanConfig) (t : ScanThread) : ScanThread → Prop
  | noDevice : t.pc = .openHci → ScanStep cfg t { t with pc := .ended }
  | noSocket : t.pc = .openHci → ScanStep cfg t { t.call (.socket none) with pc := .ended }
  | socket (fd : Nat) : t.pc = .openHci →
      ScanStep cfg t { t.call (.socket (some fd)) with pc := .setFilter fd }
  | filtered (fd : Nat) : t.pc = .setFilter fd →
      ScanStep cfg t { t.call (.setFilter fd true) with pc := .bind fd }
  | notFiltered (fd : Nat) : t.pc = .setFilter fd →
      ScanStep cfg t { (t.call (.setFilter fd false)).call (.close fd) with pc := .ended }
  | bound (fd : Nat) : t.pc = .bind fd →
      ScanStep cfg t { t.call (.bind fd (UInt16.ofInt cfg.devId) true) with
        hciFd := some fd, hciDevId := cfg.devId, pc := .disable }
  | notBound (fd : Nat) : t.pc = .bind fd →
      ScanStep cfg t { (t.call (.bind fd (UInt16.ofInt cfg.devId) false)).call (.close fd) with
        pc := .ended }
  | disabled (fd : Nat) (n : Int) : t.pc = .disable → t.hciFd = some fd →
      ScanStep cfg t { t.call (.write fd (leSetScanEnable false) n) with pc := .params }
  | parametrized (fd : Nat) : t.pc = .params → t.hciFd = some fd →
      ScanStep cfg t { t.call (.write fd (leSetScanParams cfg) (leSetScanParams cfg).length) with
        pc := .enable }
  | enabled (fd : Nat) : t.pc = .enable → t.hciFd = some fd →
      ScanStep cfg t { t.call (.write fd (leSetScanEnable true) (leSetScanEnable true).length) with
        hciOk := true, pc := .poll }
  | refused (fd : Nat) (cmd : List UInt8) (n : Int) : t.pc = .params ∨ t.pc = .enable →
      t.hciFd = some fd → n ≠ cmd.length →
      ScanStep cfg t { (t.call (.write fd cmd n)).call (.close fd) with
        hciFd := none, pc := .ended }
  | polled (stop : Bool) : t.pc = .poll →
      ScanStep cfg t { t with pc := if stop then .stop else .read }
  | received (fd : Nat) (result : HciRead) (pc : ScanPc) : t.pc = .read → t.hciFd = some fd →
      pc = .poll ∨ pc = .stop →
      ScanStep cfg t { t.call (.read fd result) with
        pc := pc, delivered := t.delivered ++ result.devices }
  | stopped (fd : Nat) (n : Int) : t.pc = .stop → t.hciFd = some fd →
      ScanStep cfg t { (t.call (.write fd (leSetScanEnable false) n)).call (.close fd) with
        hciFd := none, pc := .ended }

theorem closeHci_of_open {fd : Nat} (opened : t.hciFd = some fd) :
    t.closeHci = { t.call (.close fd) with hciFd := none, pc := .ended } := by
  rw [ScanThread.closeHci, opened]

theorem scanStep_cases {a : ScanAnswer} (step : scanStep cfg t a = some t') :
    ScanStep cfg t t' := by
  unfold scanStep at step
  split at step
  case h_1 _ _ _ fd here =>
    split at step
    · cases step
      exact .noDevice here
    · cases fd <;> cases step
      · exact .noSocket here
      · exact .socket _ here
  case h_2 _ _ _ fd done here =>
    cases done <;> cases step
    · exact .notFiltered fd here
    · exact .filtered fd here
  case h_3 _ _ _ fd done here =>
    cases done <;> cases step
    · exact .notBound fd here
    · exact .bound fd here
  case h_4 _ _ _ fd n here opened =>
    cases step
    exact .disabled fd n here opened
  case h_5 _ _ _ fd n here opened =>
    dsimp only [ScanThread.send] at step
    split at step
    case isTrue whole =>
      cases beq_iff_eq.mp whole
      cases step
      exact .parametrized fd here opened
    case isFalse short =>
      rw [closeHci_of_open (t := t.call _) opened] at step
      cases step
      exact .refused fd _ n (.inl here) opened fun same => short (beq_iff_eq.mpr same)
  case h_6 _ _ _ fd n here opened =>
    dsimp only [ScanThread.send] at step
    split at step
    case isTrue whole =>
      cases beq_iff_eq.mp whole
      cases step
      exact .enabled fd here opened
    case isFalse short =>
      rw [closeHci_of_open (t := t.call _) opened] at step
      cases step
      exact .refused fd _ n (.inr here) opened fun same => short (beq_iff_eq.mpr same)
  case h_7 _ _ _ stop here =>
    cases step
    exact .polled stop here
  case h_8 _ _ _ fd result here opened =>
    cases result with
    | interrupted =>
        cases step
        have kept := @ScanStep.received cfg t fd .interrupted .poll here opened (.inl rfl)
        rwa [HciRead.devices, List.append_nil] at kept
    | failed =>
        cases step
        have kept := @ScanStep.received cfg t fd .failed .stop here opened (.inr rfl)
        rwa [HciRead.devices, List.append_nil] at kept
    | packet bytes =>
        dsimp only at step
        rw [readHciPacket_eq, Option.map_some] at step
        cases step
        exact .received fd (.packet bytes) .poll here opened (.inl rfl)
  case h_9 _ _ _ fd n here opened =>
    rw [ScanThread.send, closeHci_of_open (t := t.call _) opened] at step
    cases step
    exact .stopped fd n here opened
  case h_10 => cases step

/-! ## The socket -/

/-- What a call does to the socket. -/
def HciCall.lease : HciCall → List (Lease.Event Nat)
  | .socket none => []
  | .socket (some fd) => [.acquire fd]
  | .setFilter fd _ => [.use fd]
  | .bind fd _ _ => [.use fd]
  | .write fd _ _ => [.use fd]
  | .read fd _ => [.use fd]
  | .close fd => [.release fd]

namespace ScanThread

/-- The calls so far have opened the sockets `fds` and closed every other. -/
def Holds (t : ScanThread) (fds : List Nat) : Prop :=
  Lease.hold [] (t.calls.flatMap HciCall.lease) = some fds

/-- The socket that is open is the local one of `open_hci_`, then `hci_fd_`. -/
def Leased (t : ScanThread) : Prop :=
  match t.pc with
  | .openHci => t.hciFd = none ∧ t.Holds []
  | .setFilter fd => t.hciFd = none ∧ t.Holds [fd]
  | .bind fd => t.hciFd = none ∧ t.Holds [fd]
  | .ended => t.hciFd = none ∧ t.Holds []
  | _ => ∃ fd, t.hciFd = some fd ∧ t.Holds [fd]

theorem Holds.call {fds fds' : List Nat} {c : HciCall} (before : t.Holds fds)
    (after : Lease.hold fds c.lease = some fds') : (t.call c).Holds fds' :=
  Lease.hold_concat before after

theorem Holds.use {fd : Nat} {c : HciCall} (own : t.Holds [fd]) (uses : c.lease = [.use fd]) :
    (t.call c).Holds [fd] :=
  own.call (uses ▸ Lease.hold_uses
    (List.forall_mem_singleton.mpr ⟨fd, List.mem_singleton_self fd, rfl⟩))

theorem Holds.close {fd : Nat} (own : t.Holds [fd]) : (t.call (.close fd)).Holds [] := by
  refine own.call ?_
  rw [HciCall.lease, Lease.hold, Lease.holdOne, if_pos (List.mem_singleton_self fd),
    List.erase_cons_head]
  rfl

/-- A running thread has its socket open. -/
theorem Leased.running {fd : Nat} (leased : t.Leased) (opened : t.hciFd = some fd) :
    t.Holds [fd] := by
  unfold Leased at leased
  split at leased
  iterate 4 exact absurd opened (leased.1 ▸ nofun)
  obtain ⟨fd', same, own⟩ := leased
  cases same.symm.trans opened
  exact own

end ScanThread

theorem leased_step (leased : t.Leased) (step : ScanStep cfg t t') : t'.Leased := by
  cases step with
  | noDevice here =>
      rw [ScanThread.Leased, here] at leased
      exact leased
  | noSocket here =>
      rw [ScanThread.Leased, here] at leased
      exact ⟨leased.1, leased.2.call rfl⟩
  | socket fd here =>
      rw [ScanThread.Leased, here] at leased
      exact ⟨leased.1, leased.2.call rfl⟩
  | filtered fd here =>
      rw [ScanThread.Leased, here] at leased
      exact ⟨leased.1, leased.2.use rfl⟩
  | notFiltered fd here =>
      rw [ScanThread.Leased, here] at leased
      exact ⟨leased.1, (leased.2.use rfl).close⟩
  | bound fd here =>
      rw [ScanThread.Leased, here] at leased
      exact ⟨fd, rfl, leased.2.use rfl⟩
  | notBound fd here =>
      rw [ScanThread.Leased, here] at leased
      exact ⟨leased.1, (leased.2.use rfl).close⟩
  | disabled fd n here opened => exact ⟨fd, opened, (leased.running opened).use rfl⟩
  | parametrized fd here opened => exact ⟨fd, opened, (leased.running opened).use rfl⟩
  | enabled fd here opened => exact ⟨fd, opened, (leased.running opened).use rfl⟩
  | refused fd cmd n here opened short => exact ⟨rfl, ((leased.running opened).use rfl).close⟩
  | polled stop here =>
      rw [ScanThread.Leased, here] at leased
      cases stop <;> exact leased
  | received fd result pc here opened next =>
      have own := (leased.running opened).use (c := .read fd result) rfl
      rcases next with rfl | rfl
      · exact ⟨fd, opened, own⟩
      · exact ⟨fd, opened, own⟩
  | stopped fd n here opened => exact ⟨rfl, ((leased.running opened).use rfl).close⟩

/-! ## The controller -/

structure ScanParams where
  scanType : UInt8
  interval : UInt16
  window : UInt16
  ownAddr : UInt8
  filter : UInt8
  deriving DecidableEq

/-- The range of the parameters, in units of 0.625 ms. -/
def ScanParams.InRange (p : ScanParams) : Prop :=
  4 ≤ p.window.toNat ∧ p.window.toNat ≤ p.interval.toNat ∧ p.interval.toNat ≤ 0x4000

instance (p : ScanParams) : Decidable p.InRange := inferInstanceAs (Decidable (_ ∧ _ ∧ _))

/-- The packet of the command `LE_Set_Scan_Parameters`. -/
def ScanParams.command (p : ScanParams) : List UInt8 :=
  [0x01, 0x0b, 0x20, 7, p.scanType] ++ bytes16 p.interval ++ bytes16 p.window ++
    [p.ownAddr, p.filter]

/-- The packet of the command `LE_Set_Scan_Enable`. -/
def scanEnableCommand (enable filterDup : UInt8) : List UInt8 :=
  [0x01, 0x0c, 0x20, 2, enable, filterDup]

/-- A controller is no part of the code: what a packet from the host makes of it, and what of it
matters here, whether it scans and with which parameters. -/
structure Controller (κ : Type) where
  receive : κ → List UInt8 → κ
  scanning : κ → Bool
  params : κ → ScanParams

/-- What is taken for granted of a controller.  The scan is started and stopped with the parameters
that are set; these are taken while it is stopped, if they are in range. -/
structure Controller.Obeys {κ : Type} (k : Controller κ) : Prop where
  stops : ∀ c filterDup, k.scanning (k.receive c (scanEnableCommand 0x00 filterDup)) = false
  starts : ∀ c filterDup, k.scanning (k.receive c (scanEnableCommand 0x01 filterDup)) = true
  keeps : ∀ c enable filterDup,
    k.params (k.receive c (scanEnableCommand enable filterDup)) = k.params c
  sets : ∀ c p, k.scanning c = false → p.InRange → k.params (k.receive c p.command) = p

/-- What a call sends to the controller: a packet that was written as a whole. -/
def HciCall.sent : HciCall → Option (List UInt8)
  | .write _ bytes n => if n = bytes.length then some bytes else none
  | _ => none

/-- A controller after the calls. -/
def Controller.after {κ : Type} (k : Controller κ) (c : κ) (calls : List HciCall) : κ :=
  (calls.filterMap HciCall.sent).foldl k.receive c

/-- The parameters that the configuration asks for. -/
def ScanConfig.params (cfg : ScanConfig) : ScanParams :=
  ⟨if cfg.scanActive then 0x01 else 0x00, scanUnits cfg.scanIntervalMs, scanUnits cfg.scanWindowMs,
    0x00, 0x00⟩

section Commands

variable {κ : Type} {k : Controller κ} {c : κ}

theorem after_append (calls calls' : List HciCall) :
    k.after c (calls ++ calls') = k.after (k.after c calls) calls' := by
  rw [Controller.after, List.filterMap_append, List.foldl_append]
  rfl

/-- A call that sends nothing. -/
theorem after_unsent {calls : List HciCall} {call : HciCall} (unsent : call.sent = none) :
    k.after c (calls ++ [call]) = k.after c calls := by
  rw [after_append, Controller.after, List.filterMap_cons_none unsent]
  rfl

theorem after_sent {calls : List HciCall} {call : HciCall} {bytes : List UInt8}
    (sent : call.sent = some bytes) :
    k.after c (calls ++ [call]) = k.receive (k.after c calls) bytes := by
  rw [after_append, Controller.after, List.filterMap_cons_some sent]
  rfl

theorem sent_whole (fd : Nat) (bytes : List UInt8) {n : Int} (whole : n = bytes.length) :
    (HciCall.write fd bytes n).sent = some bytes :=
  if_pos whole

theorem sent_short (fd : Nat) {bytes : List UInt8} {n : Int} (short : n ≠ bytes.length) :
    (HciCall.write fd bytes n).sent = none :=
  if_neg short

/-- The scanner's commands are those of the specification. -/
theorem leSetScanEnable_eq (enable : Bool) :
    leSetScanEnable enable = scanEnableCommand (if enable then 0x01 else 0x00) 0x00 := by
  cases enable <;> rfl

theorem leSetScanParams_eq : leSetScanParams cfg = cfg.params.command := rfl

theorem Controller.Obeys.scanning_enable (obeys : k.Obeys) (enable : Bool) :
    k.scanning (k.receive c (leSetScanEnable enable)) = enable := by
  rw [leSetScanEnable_eq]
  cases enable with
  | false => exact obeys.stops c 0x00
  | true => exact obeys.starts c 0x00

theorem Controller.Obeys.params_enable (obeys : k.Obeys) (enable : Bool) :
    k.params (k.receive c (leSetScanEnable enable)) = k.params c := by
  rw [leSetScanEnable_eq]
  exact obeys.keeps c _ 0x00

end Commands

/-- The times for which a controller can scan. -/
def ScanConfig.InRange (cfg : ScanConfig) : Prop :=
  3 ≤ cfg.scanWindowMs.toNat ∧ cfg.scanWindowMs.toNat ≤ cfg.scanIntervalMs.toNat ∧
    cfg.scanIntervalMs.toNat ≤ 10240

theorem toNat_scanUnits {ms : UInt32} (short : ms.toNat ≤ 10240) :
    (scanUnits ms).toNat = ms.toNat * 8 / 5 := by
  have product : (ms * 1000).toNat = ms.toNat * 1000 := by
    rw [UInt32.toNat_mul]
    exact Nat.mod_eq_of_lt (Nat.lt_of_le_of_lt (Nat.mul_le_mul_right _ short) (by decide))
  rw [scanUnits, UInt32.toNat_toUInt16, UInt32.toNat_div, product]
  have quotient : ms.toNat * 1000 / 625 = ms.toNat * 8 / 5 := by omega
  rw [show (625 : UInt32).toNat = 625 from rfl, quotient]
  omega

theorem params_inRange (inRange : cfg.InRange) : cfg.params.InRange := by
  obtain ⟨positive, within, short⟩ := inRange
  rw [ScanParams.InRange, ScanConfig.params, toNat_scanUnits short,
    toNat_scanUnits (within.trans short)]
  omega

/-! ## The commands of a run -/

namespace Controller

variable {κ : Type} (k : Controller κ) (cfg : ScanConfig) (c₀ : κ) (calls : List HciCall)

/-- The controller did not scan, or it was sent the command to stop. -/
def Quiet : Prop :=
  k.scanning c₀ = false ∨ ∃ c ∈ calls, c.sent = some (leSetScanEnable false)

/-- What the controller is set to, if it could be set and the times are in its range. -/
def Configured : Prop :=
  k.Quiet c₀ calls → cfg.InRange → k.params (k.after c₀ calls) = cfg.params

/-- It scans as configured. -/
def Scans : Prop := k.scanning (k.after c₀ calls) = true ∧ k.Configured cfg c₀ calls

/-- The last that a scan ends with: the command to stop it, and the socket. -/
def Stopped : Prop :=
  ∃ front fd n, calls = front ++ [.write fd (leSetScanEnable false) n] ++ [.close fd] ∧
    (n = 6 → k.scanning (k.after c₀ calls) = false)

end Controller

/-- How far the controller is. -/
def ScanThread.Commanded {κ : Type} (k : Controller κ) (cfg : ScanConfig) (c₀ : κ)
    (t : ScanThread) : Prop :=
  match t.pc with
  | .params => t.hciOk = false ∧ (k.Quiet c₀ t.calls → k.scanning (k.after c₀ t.calls) = false)
  | .enable => t.hciOk = false ∧ k.Configured cfg c₀ t.calls
  | .poll => t.hciOk = true ∧ k.Scans cfg c₀ t.calls
  | .read => t.hciOk = true ∧ k.Scans cfg c₀ t.calls
  | .stop => t.hciOk = true ∧ k.Scans cfg c₀ t.calls
  | .ended => t.hciOk = true → k.Stopped c₀ t.calls
  | _ => t.hciOk = false ∧ ∀ c ∈ t.calls, c.sent = none

section Runs

variable {κ : Type} {k : Controller κ} {c₀ : κ}

theorem quiet_append_iff {calls : List HciCall} {call : HciCall}
    (other : call.sent ≠ some (leSetScanEnable false)) :
    k.Quiet c₀ (calls ++ [call]) ↔ k.Quiet c₀ calls := by
  refine or_congr_right ⟨?_, ?_⟩
  · rintro ⟨c, mem, sent⟩
    rcases List.mem_append.mp mem with mem | mem
    · exact ⟨c, mem, sent⟩
    · exact absurd (List.mem_singleton.mp mem ▸ sent) other
  · rintro ⟨c, mem, sent⟩
    exact ⟨c, List.mem_append_left _ mem, sent⟩

theorem forall_sent_append {calls : List HciCall} {call : HciCall}
    (before : ∀ c ∈ calls, c.sent = none) (unsent : call.sent = none) :
    ∀ c ∈ calls ++ [call], c.sent = none :=
  List.forall_mem_append.mpr ⟨before, List.forall_mem_singleton.mpr unsent⟩

theorem after_eq_self {calls : List HciCall} (unsent : ∀ c ∈ calls, c.sent = none) :
    k.after c₀ calls = c₀ := by
  rw [Controller.after, List.filterMap_eq_nil_iff.mpr unsent]
  rfl

/-- A call that sends nothing leaves the controller as it is configured. -/
theorem configured_unsent {calls : List HciCall} {call : HciCall} (unsent : call.sent = none)
    (before : k.Configured cfg c₀ calls) : k.Configured cfg c₀ (calls ++ [call]) := by
  intro quiet inRange
  rw [after_unsent unsent]
  exact before ((quiet_append_iff (by rw [unsent]; nofun)).mp quiet) inRange

/-- A thread that ends before its scan has begun. -/
theorem commanded_of_failed (ended : t.pc = .ended) (failed : t.hciOk = false) :
    t.Commanded k cfg c₀ := by
  rw [ScanThread.Commanded, ended]
  exact fun ok => Bool.noConfusion (failed.symm.trans ok)

theorem commanded_step (obeys : k.Obeys) (commanded : t.Commanded k cfg c₀)
    (step : ScanStep cfg t t') : t'.Commanded k cfg c₀ := by
  cases step with
  | noDevice here =>
      rw [ScanThread.Commanded, here] at commanded
      exact commanded_of_failed rfl commanded.1
  | noSocket here =>
      rw [ScanThread.Commanded, here] at commanded
      exact commanded_of_failed rfl commanded.1
  | socket fd here =>
      rw [ScanThread.Commanded, here] at commanded
      exact ⟨commanded.1, forall_sent_append commanded.2 rfl⟩
  | filtered fd here =>
      rw [ScanThread.Commanded, here] at commanded
      exact ⟨commanded.1, forall_sent_append commanded.2 rfl⟩
  | notFiltered fd here =>
      rw [ScanThread.Commanded, here] at commanded
      exact commanded_of_failed rfl commanded.1
  | bound fd here =>
      rw [ScanThread.Commanded, here] at commanded
      exact ⟨commanded.1, forall_sent_append commanded.2 rfl⟩
  | notBound fd here =>
      rw [ScanThread.Commanded, here] at commanded
      exact commanded_of_failed rfl commanded.1
  | disabled fd n here opened =>
      rw [ScanThread.Commanded, here] at commanded
      refine ⟨commanded.1, fun quiet => ?_⟩
      have before : k.after c₀ t.calls = c₀ := after_eq_self commanded.2
      by_cases whole : n = (leSetScanEnable false).length
      · have sent := sent_whole fd _ whole
        exact (congrArg k.scanning (after_sent sent)).trans (obeys.scanning_enable false)
      · have unsent := sent_short fd whole
        rcases (quiet_append_iff (by rw [unsent]; nofun)).mp quiet with off | ⟨c, mem, sent⟩
        · exact (congrArg k.scanning ((after_unsent unsent).trans before)).trans off
        · exact absurd ((commanded.2 c mem).symm.trans sent) nofun
  | parametrized fd here opened =>
      rw [ScanThread.Commanded, here] at commanded
      have sent := sent_whole fd (leSetScanParams cfg) rfl
      have other : leSetScanParams cfg ≠ leSetScanEnable false :=
        fun same => absurd (congrArg List.length same) (show (11 : Nat) ≠ 6 by decide)
      refine ⟨commanded.1, fun quiet inRange => ?_⟩
      have off := commanded.2 ((quiet_append_iff
        (sent ▸ fun same => other (Option.some.inj same))).mp quiet)
      exact (congrArg k.params (after_sent sent)).trans
        (obeys.sets _ cfg.params off (params_inRange inRange))
  | enabled fd here opened =>
      rw [ScanThread.Commanded, here] at commanded
      have sent := sent_whole fd (leSetScanEnable true) rfl
      refine ⟨rfl, (congrArg k.scanning (after_sent sent)).trans (obeys.scanning_enable true),
        fun quiet inRange => ?_⟩
      have before := commanded.2 ((quiet_append_iff (by rw [sent]; decide)).mp quiet) inRange
      exact ((congrArg k.params (after_sent sent)).trans (obeys.params_enable true)).trans before
  | refused fd cmd n here opened short =>
      rcases here with here | here
      · rw [ScanThread.Commanded, here] at commanded
        exact commanded_of_failed rfl commanded.1
      · rw [ScanThread.Commanded, here] at commanded
        exact commanded_of_failed rfl commanded.1
  | polled stop here =>
      rw [ScanThread.Commanded, here] at commanded
      cases stop <;> exact commanded
  | received fd result pc here opened next =>
      rw [ScanThread.Commanded, here] at commanded
      obtain ⟨ok, scanning, configured⟩ := commanded
      have unsent : (HciCall.read fd result).sent = none := rfl
      have kept : k.scanning (k.after c₀ (t.calls ++ [.read fd result])) = true :=
        (congrArg k.scanning (after_unsent unsent)).trans scanning
      rcases next with rfl | rfl
      · exact ⟨ok, kept, configured_unsent unsent configured⟩
      · exact ⟨ok, kept, configured_unsent unsent configured⟩
  | stopped fd n here opened =>
      refine fun _ => ⟨t.calls, fd, n, rfl, fun whole => ?_⟩
      have sent := sent_whole fd (leSetScanEnable false) whole
      have closed : (HciCall.close fd).sent = none := rfl
      exact (congrArg k.scanning ((after_unsent closed).trans (after_sent sent))).trans
        (obeys.scanning_enable false)

end Runs

/-! ## The devices of a run -/

def HciCall.received : HciCall → Option HciRead
  | .read _ result => some result
  | _ => none

/-- What was read is what is delivered. -/
def ScanThread.Delivers (t : ScanThread) : Prop :=
  t.delivered = (t.calls.filterMap HciCall.received).flatMap HciRead.devices

theorem ScanThread.Delivers.call {c : HciCall} (delivers : t.Delivers) (other : c.received = none) :
    (t.call c).Delivers := by
  rw [ScanThread.Delivers, ScanThread.call, List.filterMap_append, List.filterMap_cons_none other]
  exact delivers.trans (congrArg _ (List.append_nil _).symm)

theorem delivers_step (delivers : t.Delivers) (step : ScanStep cfg t t') : t'.Delivers := by
  cases step with
  | noDevice here => exact delivers
  | noSocket here => exact delivers.call rfl
  | socket fd here => exact delivers.call (c := .socket (some fd)) rfl
  | filtered fd here => exact delivers.call (c := .setFilter fd true) rfl
  | notFiltered fd here =>
      exact (delivers.call (c := .setFilter fd false) rfl).call (c := .close fd) rfl
  | bound fd here => exact delivers.call (c := .bind fd _ true) rfl
  | notBound fd here => exact (delivers.call (c := .bind fd _ false) rfl).call (c := .close fd) rfl
  | disabled fd n here opened => exact delivers.call (c := .write fd _ n) rfl
  | parametrized fd here opened => exact delivers.call (c := .write fd _ _) rfl
  | enabled fd here opened => exact delivers.call (c := .write fd _ _) rfl
  | refused fd cmd n here opened short =>
      exact (delivers.call (c := .write fd cmd n) rfl).call (c := .close fd) rfl
  | polled stop here => exact delivers
  | received fd result pc here opened next =>
      have all : t.delivered ++ result.devices =
          ((t.calls ++ [HciCall.read fd result]).filterMap HciCall.received).flatMap
            HciRead.devices := by
        rw [List.filterMap_append, List.flatMap_append, ← delivers]
        exact congrArg (t.delivered ++ ·) (List.append_nil _).symm
      exact all
  | stopped fd n here opened =>
      exact (delivers.call (c := .write fd _ n) rfl).call (c := .close fd) rfl

/-! ## The runs -/

/-- What holds of a thread at every point of its run. -/
structure ScanThread.Serves {κ : Type} (k : Controller κ) (cfg : ScanConfig) (c₀ : κ)
    (t : ScanThread) : Prop where
  /-- The socket is not used unless it is open, and not opened twice. -/
  holds : ∃ fds, t.Holds fds
  /-- At the end it is closed as often as it was opened. -/
  closed : t.pc = .ended → ∀ fd, (t.calls.flatMap HciCall.lease).count (.release fd) =
    (t.calls.flatMap HciCall.lease).count (.acquire fd)
  delivers : t.Delivers
  scanning : t.pc = .poll ∨ t.pc = .read ∨ t.pc = .stop → k.Scans cfg c₀ t.calls
  stopped : t.pc = .ended → t.hciOk = true → k.Stopped c₀ t.calls

/-- **The thread of the raw scanner**, with a controller that obeys, whatever it was doing
before. -/
theorem scanThread_serves {κ : Type} (k : Controller κ) (obeys : k.Obeys) (c₀ : κ)
    (reachable : (scanThread cfg).Reachable t) : t.Serves k cfg c₀ := by
  have all : t.Leased ∧ t.Commanded k cfg c₀ ∧ t.Delivers := by
    refine reachable.invariant (I := fun t => t.Leased ∧ t.Commanded k cfg c₀ ∧ t.Delivers) ?_ ?_
    · rintro _ rfl
      exact ⟨⟨rfl, rfl⟩, ⟨rfl, nofun⟩, rfl⟩
    · rintro s a s' ⟨leased, commanded, delivers⟩ - step
      have cases := scanStep_cases step
      exact ⟨leased_step leased cases, commanded_step obeys commanded cases,
        delivers_step delivers cases⟩
  obtain ⟨leased, commanded, delivers⟩ := all
  refine ⟨?_, fun ended fd => ?_, delivers, fun serving => ?_, fun ended ok => ?_⟩
  · unfold ScanThread.Leased at leased
    split at leased
    iterate 4 exact ⟨_, leased.2⟩
    obtain ⟨fd, -, own⟩ := leased
    exact ⟨_, own⟩
  · rw [ScanThread.Leased, ended] at leased
    have balance := Lease.count_hold leased.2 fd
    rwa [List.count_nil, Nat.zero_add, Nat.zero_add] at balance
  · rcases serving with here | here | here <;>
    · rw [ScanThread.Commanded, here] at commanded
      exact commanded.2
  · rw [ScanThread.Commanded, ended] at commanded
    exact commanded ok

/-- A controller with its parameters, which has neither other commands nor a radio. -/
structure SampleController where
  scanning : Bool
  params : ScanParams

/-- While it scans, and for times out of range, it refuses new parameters. -/
def SampleController.setScanParams (c : SampleController) (p : ScanParams) : SampleController :=
  if c.scanning ∨ ¬p.InRange then c else { c with params := p }

def SampleController.receive (c : SampleController) : List UInt8 → SampleController
  | [0x01, 0x0b, 0x20, 7, type, i, i', w, w', own, filter] =>
      c.setScanParams ⟨type, le16 i i', le16 w w', own, filter⟩
  | [0x01, 0x0c, 0x20, 2, enable, _] =>
      if enable = 0x00 then { c with scanning := false }
      else if enable = 0x01 then { c with scanning := true }
      else c
  | _ => c

def sampleController : Controller SampleController where
  receive := SampleController.receive
  scanning := SampleController.scanning
  params := SampleController.params

theorem obeys_sample : sampleController.Obeys where
  stops _ _ := rfl
  starts _ _ := rfl
  keeps c enable filterDup := by
    show (if enable = 0x00 then { c with scanning := false }
      else if enable = 0x01 then { c with scanning := true } else c).params = c.params
    split
    · rfl
    · split <;> rfl
  sets c p stopped inRange := by
    have taken : c.receive p.command = c.setScanParams p := by
      have parts : p.command = [0x01, 0x0b, 0x20, 7, p.scanType, byte16 p.interval 0,
          byte16 p.interval 1, byte16 p.window 0, byte16 p.window 1, p.ownAddr, p.filter] := rfl
      rw [parts, SampleController.receive, le16_bytes, le16_bytes]
    have stopped : c.scanning = false := stopped
    have accepted : ¬(c.scanning = true ∨ ¬p.InRange) := by
      rw [stopped]
      exact not_or.mpr ⟨Bool.false_ne_true, not_not.mpr inRange⟩
    show (c.receive p.command).params = p
    rw [taken, SampleController.setScanParams, if_neg accepted]

/-- A scan of another owner is stopped, and one of three reads brings an event. -/
def sampleScan : ScanConfig := ⟨[0x68, 0x63, 0x69, 0x30], true, 320, 30⟩

def sampleAnswers : List ScanAnswer :=
  [.fd (some 7), .done true, .done true, .wrote 6, .wrote 11, .wrote 6, .stop false,
    .got .interrupted, .stop false, .got (.packet [0x04, 0x0e, 0x01, 0x00]), .stop false,
    .got .failed, .wrote 6]

theorem scanThread_serves_sample : ∃ t, (scanThread sampleScan).run {} sampleAnswers = some t ∧
    t.pc = .ended ∧ t.Serves sampleController sampleScan ⟨true, ⟨0, 16, 16, 0, 0⟩⟩ := by
  obtain ⟨t, ran, ended⟩ : ∃ t, (scanThread sampleScan).run {} sampleAnswers = some t ∧
      t.pc = .ended := ⟨_, rfl, rfl⟩
  have reachable : (scanThread sampleScan).Reachable t := ⟨_, rfl, Machine.run_reach ran⟩
  exact ⟨t, ran, ended, scanThread_serves sampleController obeys_sample _ reachable⟩

end EsphomeHost
