import Mathlib.Data.List.Sort
import Mathlib.Data.String.Basic
import EsphomeHost.Lib.Edits
import EsphomeHost.Lib.Replace

/-!
# The patch script of the build

Before a build `patch_web_server.py` edits the sources that have been copied into the project: it
adds stubs of two headers that the host lacks, and host branches to files written for other
platforms.  Every function that patches a file is an edit of that file.

Directories are those of the files in them.
-/

namespace EsphomeHost.PatchWebServer

open Edits Replace

abbrev Path := List String
abbrev Text := List Char
abbrev Files := Store Path Text

/-- A text that is written in the script, as its lines. -/
abbrev Literal := List String

def text : Literal → Text
  | [] => []
  | [l] => l.toList
  | l :: ls => l.toList ++ '\n' :: text ls

/-- `RuntimeError`, raised with this file and fragment. -/
structure PatchError where
  path : Path
  fragment : Literal
deriving DecidableEq

def PatchError.message (e : PatchError) : String :=
  "patch_web_server: expected fragment not found in " ++ "/".intercalate e.path ++ ":\n" ++
    "\n".intercalate e.fragment

/-- What a text mode read makes of the line ends; `afterCr` is whether an LF belongs to the last. -/
def newlinesFrom : Bool → Text → Text
  | _, [] => []
  | afterCr, c :: s =>
      if c = '\r' then '\n' :: newlinesFrom true s
      else if c = '\n' ∧ afterCr then newlinesFrom false s
      else c :: newlinesFrom false s

/-- `Path.read_text` of a file with this content. -/
def readText (content : Text) : Text := newlinesFrom false content

/-- A function that reads a file, if it exists, and may write it. -/
def onFile (path : Path) (f : Text → Except PatchError (Option Text)) :
    Edit Path Text PatchError where
  key := path
  apply
    | none => .ok none
    | some content => f (readText content)

/-- The loop of `_patch` over its replacements. -/
def replacing (path : Path) : List (Literal × Literal) → Text → Except PatchError Text
  | [], new => .ok new
  | (old, repl) :: replacements, new =>
      if contains (text old) new then
        replacing path replacements (replaceAll (text old) (text repl) new)
      else .error ⟨path, old⟩

def marked (new : Text) (marker : String) : Text := new ++ '\n' :: text [marker, ""]

def patch (path : Path) (marker : String) (replacements : List (Literal × Literal)) :
    Edit Path Text PatchError :=
  onFile path fun src =>
    if contains marker.toList src then .ok none
    else (replacing path replacements src).map fun new => some (marked new marker)

def BLE_MARKER : String := "// PI_HOST_PATCHED_BLE"
def BLE_GUARD : String := "#ifdef USE_ESP32"
def BLE_HOST_GUARD : String := "#if defined(USE_ESP32) || defined(USE_HOST)"

def patchBleGuard (path : Path) : Edit Path Text PatchError :=
  onFile path fun src =>
    if contains BLE_MARKER.toList src then .ok none
    else
      let new := replaceAll BLE_GUARD.toList BLE_HOST_GUARD.toList src
      if new = src then .ok none else .ok (some (marked new BLE_MARKER))

/-- A file that is written unless it has this content. -/
def ensure (path : Path) (content : Literal) : Edit Path Text PatchError where
  key := path
  apply old := .ok (if old.map readText = some (text content) then none else some (text content))

def LWIP_DNS_H : Literal :=
  ["#pragma once",
    "// Host stub for lwip/dns.h. The MQTT component compiles a DNS resolution path",
    "// that calls into lwip; on host we defer DNS to libmosquitto so this stub",
    "// pretends every lookup succeeds immediately. mqtt_client.cpp then bypasses",
    "// its asynchronous resolution state and calls start_connect_() with the",
    "// hostname string verbatim.",
    "",
    "#include <cstdint>",
    "#include \"lwip/err.h\"",
    "#include \"esphome/components/network/ip_address.h\"  // brings ip_addr_t = in_addr",
    "",
    "namespace esphome::network \x7b",
    "struct IPAddress;",
    "\x7d",
    "",
    "using dns_found_callback = void (*)(const char *name, const ip_addr_t *ipaddr, void *callback_arg);",
    "",
    "inline err_t dns_gethostbyname_addrtype(const char *name, ip_addr_t *addr, dns_found_callback /*cb*/, void * /*arg*/,",
    "                                        int /*addrtype*/) \x7b",
    "  if (addr != nullptr)",
    "    addr->s_addr = 0;",
    "  return 0;  // ERR_OK — caller proceeds straight to start_connect_().",
    "\x7d",
    "",
    "#define LWIP_DNS_ADDRTYPE_IPV4 0",
    "#define LWIP_DNS_ADDRTYPE_IPV6_IPV4 1",
    ""]

def LWIP_ERR_H : Literal :=
  ["#pragma once",
    "// Host stub for lwip/err.h.",
    "",
    "#include <cstdint>",
    "",
    "using err_t = int8_t;",
    "#define ERR_OK 0",
    "#define ERR_INPROGRESS -5",
    "#define ERR_ARG -16",
    ""]

def ESP_IDF_VERSION_H : Literal :=
  ["#pragma once",
    "// Host stub for <esp_idf_version.h>. There is no ESP-IDF on the host build, but",
    "// components like xiaomi_ble include this for version-gated code paths. We",
    "// report a version < 6.0.0 so they take the mbedtls (not PSA/ESP-IDF) branch,",
    "// which builds natively on Linux.",
    "",
    "#define ESP_IDF_VERSION_VAL(major, minor, patch) ((major) * 10000 + (minor) * 100 + (patch))",
    "#define ESP_IDF_VERSION_MAJOR 5",
    "#define ESP_IDF_VERSION_MINOR 5",
    "#define ESP_IDF_VERSION_PATCH 4",
    "#define ESP_IDF_VERSION ESP_IDF_VERSION_VAL(5, 5, 4)",
    ""]

def ensureLwipStubs (projectDir : Path) : List (Edit Path Text PatchError) :=
  [("dns.h", LWIP_DNS_H), ("err.h", LWIP_ERR_H)].map fun (name, content) =>
    ensure (projectDir ++ ["src", "lwip", name]) content

def ensureEspIdfVersionStub (projectDir : Path) : Edit Path Text PatchError :=
  ensure (projectDir ++ ["src", "esp_idf_version.h"]) ESP_IDF_VERSION_H

/-- A fragment is replaced once, by one that has the marker in it; other files are left alone. -/
def inserting (path : Path) (marker : String) (needle repl : Literal) :
    Edit Path Text PatchError :=
  onFile path fun src =>
    if contains marker.toList src then .ok none
    else if contains (text needle) src then .ok (some (replaceFirst (text needle) (text repl) src))
    else .ok none

def IP_MARKER : String := "// PI_HOST_IP_HELPERS"

def IP_NEEDLE : String := "  IPAddress(const ip_addr_t *other_ip) \x7b ip_addr_ = *other_ip; \x7d"

def patchHostIpAddress (path : Path) : Edit Path Text PatchError :=
  inserting path IP_MARKER [IP_NEEDLE]
    [IP_NEEDLE,
      "  bool is_set() const \x7b return this->ip_addr_.s_addr != 0; \x7d",
      "  bool is_ip4() const \x7b return true; \x7d",
      "  bool is_ip6() const \x7b return false; \x7d",
      "  bool is_multicast() const \x7b return false; \x7d",
      "  " ++ IP_MARKER]

def SEESAW_MARKER : String := "// PI_HOST_PATCHED_SEESAW"

def patchSeesawReadbuf (path : Path) : Edit Path Text PatchError :=
  inserting path SEESAW_MARKER
    ["  i2c::ErrorCode err = this->write(sendbuf, 2);",
      "  if (err != i2c::ERROR_OK)",
      "    return err;",
      "  return this->read(buf, len);"]
    ["  i2c::ErrorCode err = this->write(sendbuf, 2);",
      "  if (err != i2c::ERROR_OK)",
      "    return err;",
      "  delayMicroseconds(250);  " ++ SEESAW_MARKER,
      "  return this->read(buf, len);"]

/-! ## The component directories -/

def bleConsumerDirs : List String :=
  ["ble_presence", "ble_rssi", "ble_scanner", "xiaomi_ble", "ruuvi_ble", "ruuvitag", "mopeka_ble",
    "airthings_ble", "thermopro_ble", "atc_mithermometer", "pvvx_mithermometer",
    "bthome_mithermometer", "b_parasite", "xiaomi_lywsd03mmc", "xiaomi_lywsdcgq", "xiaomi_lywsd02",
    "xiaomi_cgg1", "xiaomi_cgd1", "xiaomi_cgdk2", "xiaomi_gcls002", "xiaomi_hhccjcy01",
    "xiaomi_hhccpot002", "xiaomi_jqjcy01ym", "xiaomi_mhoc303", "xiaomi_mhoc401", "xiaomi_mjyd02yla",
    "xiaomi_mue4094rt", "xiaomi_wx08zm", "xiaomi_rtcgq02lm"]

/-- The names of the files in a directory. -/
def names (t : Files) (dir : Path) : List String :=
  t.keys.filterMap fun path => if path.dropLast = dir then path.getLast? else none

/-- `sorted(dir.glob("*" + suffix))` -/
def sortedGlob (t : Files) (dir : Path) (suffix : String) : List Path :=
  (((names t dir).filter fun name => decide (suffix.toList <:+ name.toList)).insertionSort
    (· ≤ ·)).map fun name => dir ++ [name]

def consumerFiles (t : Files) (dir : Path) : List Path :=
  sortedGlob t dir ".h" ++ sortedGlob t dir ".cpp"

/-- The loop over the directories of the consumers. -/
def patchConsumers (componentsRoot : Path) : List String → Files → Files × Option PatchError
  | [], t => (t, none)
  | d :: dirs, t =>
      andThen (performAll ((consumerFiles t (componentsRoot ++ [d])).map patchBleGuard) t)
        (patchConsumers componentsRoot dirs)

/-! ## The fragments of `_patch` -/

def MQTT_MARKER : String := "// PI_HOST_PATCHED_MQTT"
def MARKER : String := "// PI_HOST_PATCHED"

/-- A fragment and the one with its guard accepting the host too. -/
def widened (before behind : Literal) : Literal × Literal :=
  (before ++ "#ifdef USE_ESP32" :: behind,
    before ++ "#if defined(USE_ESP32) || defined(USE_HOST)" :: behind)

/-- A list of branches and the one with a branch of the host before them. -/
def hostFirst (host : String) (branches : Literal) : Literal × Literal :=
  ("#if defined(USE_ESP32)" :: branches,
    "#if defined(USE_HOST)" :: host :: "#elif defined(USE_ESP32)" :: branches)

def notOnHost (line : String) : Literal × Literal :=
  ([line], ["#if !defined(USE_HOST)", line, "#endif"])

def mqttClientH : List (Literal × Literal) :=
  [hostFirst "#include \"mqtt_backend_host.h\""
      ["#include \"mqtt_backend_esp32.h\"",
        "#elif defined(USE_ESP8266)",
        "#include \"mqtt_backend_esp8266.h\"",
        "#elif defined(USE_LIBRETINY)",
        "#include \"mqtt_backend_libretiny.h\"",
        "#endif"],
    hostFirst "  MQTTBackendHost mqtt_backend_;"
      ["  MQTTBackendESP32 mqtt_backend_;",
        "#elif defined(USE_ESP8266)",
        "  MQTTBackendESP8266 mqtt_backend_;",
        "#elif defined(USE_LIBRETINY)",
        "  MQTTBackendLibreTiny mqtt_backend_;",
        "#endif"],
    notOnHost "#include \"lwip/ip_addr.h\""]

def webServerCpp : List (Literal × Literal) :=
  [widened [] ["  this->base_->add_handler(&this->events_);", "#endif"]]

def webServerH : List (Literal × Literal) :=
  [widened []
    ["  AsyncEventSource events_\x7b\"/events\", this\x7d;",
      "#elif USE_ARDUINO",
      "  DeferredUpdateEventSourceList events_;",
      "#endif"]]

def listEntitiesH : List (Literal × Literal) :=
  [widened ["namespace esphome::web_server_idf \x7b"]
      ["class AsyncEventSource;",
        "#endif",
        "\x7d  // namespace esphome::web_server_idf"],
    widened []
      ["  ListEntitiesIterator(const WebServer *ws, esphome::web_server_idf::AsyncEventSource *es);",
        "#elif defined(USE_ARDUINO)",
        "  ListEntitiesIterator(const WebServer *ws, DeferredUpdateEventSource *es);",
        "#endif"],
    widened []
      ["  esphome::web_server_idf::AsyncEventSource *events_;",
        "#elif USE_ARDUINO",
        "  DeferredUpdateEventSource *events_;",
        "#endif"]]

def listEntitiesCpp : List (Literal × Literal) :=
  [widened []
    ["ListEntitiesIterator::ListEntitiesIterator(const WebServer *ws, AsyncEventSource *es) : web_server_(ws), events_(es) \x7b\x7d",
      "#elif USE_ARDUINO",
      "ListEntitiesIterator::ListEntitiesIterator(const WebServer *ws, DeferredUpdateEventSource *es)",
      "    : web_server_(ws), events_(es) \x7b\x7d",
      "#endif"]]

/-! ## The script -/

def componentsRoot (projectDir : Path) : Path := projectDir ++ ["src", "esphome", "components"]

def firstEdits (projectDir : Path) : List (Edit Path Text PatchError) :=
  ensureLwipStubs projectDir ++
    [ensureEspIdfVersionStub projectDir,
      patchHostIpAddress (componentsRoot projectDir ++ ["network", "ip_address.h"]),
      patchSeesawReadbuf (componentsRoot projectDir ++ ["seesaw", "seesaw.cpp"])]

def lastEdits (projectDir : Path) : List (Edit Path Text PatchError) :=
  let srcRoot := componentsRoot projectDir ++ ["web_server"]
  let mqttRoot := componentsRoot projectDir ++ ["mqtt"]
  [patch (mqttRoot ++ ["mqtt_client.h"]) MQTT_MARKER mqttClientH,
    patch (srcRoot ++ ["web_server.cpp"]) MARKER webServerCpp,
    patch (srcRoot ++ ["web_server.h"]) MARKER webServerH,
    patch (srcRoot ++ ["list_entities.h"]) MARKER listEntitiesH,
    patch (srcRoot ++ ["list_entities.cpp"]) MARKER listEntitiesCpp]

def patchAll (projectDir : Path) (t : Files) : Files × Option PatchError :=
  andThen (performAll (firstEdits projectDir) t) fun t =>
    andThen (patchConsumers (componentsRoot projectDir) bleConsumerDirs t)
      (performAll (lastEdits projectDir))

end EsphomeHost.PatchWebServer
