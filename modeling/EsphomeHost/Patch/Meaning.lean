import EsphomeHost.Lib.Conditional
import EsphomeHost.Patch.Runs

/-!
# What the patched sources mean

The preprocessor reads the conditional directives of a source with the macros of the platform it is
built for.  The fragments of the script are found as substrings; in sources that have them on lines
of their own (`Tidy`) they are directives.

* `Same`: a fragment and what is written for it execute alike from every state of the preprocessor.
* `patchAll_elsewhere`: **a platform that is not the host is built from the same lines as before.**
* `patchAll_consumer`: **every platform is built from the lines of a consumer that it would be built
  from if the guard of the consumer accepted the host.**
-/

namespace EsphomeHost.PatchWebServer

open Conditional Cut Edits Replace

def USE_HOST : List Char := "USE_HOST".toList
def USE_ESP32 : List Char := "USE_ESP32".toList

def definedOf (a : List Char) : List Char := "defined(".toList ++ a ++ ")".toList

def IsName (a : List Char) : Prop := ∀ c ∈ a, (c.isAlphanum || decide (c = '_')) = true

/-- The macros of a platform: which names are defined, and the conditions that hold. -/
structure Macros where
  isDefined : List Char → Bool
  holds : List Char → Bool
  holds_defined : ∀ a, IsName a → holds (definedOf a) = isDefined a
  holds_not : ∀ a, IsName a → holds ('!' :: definedOf a) = !isDefined a
  holds_or : ∀ a b, IsName a → IsName b →
    holds (definedOf a ++ " || ".toList ++ definedOf b) = (isDefined a || isDefined b)

def isBlank (c : Char) : Bool := c = ' ' ∨ c = '\t'

def trim (s : List Char) : List Char :=
  ((s.dropWhile isBlank).reverse.dropWhile isBlank).reverse

/-- The name of a directive and what stands behind it. -/
def directive (line : Line) : Option (String × List Char) :=
  match line.dropWhile isBlank with
  | '#' :: rest =>
      let word := rest.dropWhile isBlank
      some (String.ofList (word.takeWhile Char.isAlpha), trim (word.dropWhile Char.isAlpha))
  | _ => none

/-- A line of a source; the lines that are no conditional directives are the text. -/
def Macros.read (m : Macros) (line : Line) : Item :=
  match directive line with
  | some ("if", condition) => .opens (m.holds condition)
  | some ("ifdef", name) => .opens (m.isDefined name)
  | some ("ifndef", name) => .opens (!m.isDefined name)
  | some ("elif", condition) => .elif (m.holds condition)
  | some ("else", _) => .otherwise
  | some ("endif", _) => .closes
  | _ => .text

/-- The guard of the ESP32 as one that accepts the host too. -/
def Macros.readWidened (m : Macros) (line : Line) : Item :=
  if line = BLE_GUARD.toList then .opens (m.isDefined USE_ESP32 || m.isDefined USE_HOST)
  else m.read line

variable {m : Macros}

theorem isName_host : IsName USE_HOST := List.all_eq_true.mp (by decide)

theorem isName_esp32 : IsName USE_ESP32 := List.all_eq_true.mp (by decide)

/-! ## The lines of the fragments -/

theorem read_guard : m.read BLE_GUARD.toList = .opens (m.isDefined USE_ESP32) := by
  have parsed : directive BLE_GUARD.toList = some ("ifdef", USE_ESP32) := by decide
  simp only [Macros.read, parsed]

theorem read_hostGuard : m.read BLE_HOST_GUARD.toList =
    .opens (m.isDefined USE_ESP32 || m.isDefined USE_HOST) := by
  have parsed : directive BLE_HOST_GUARD.toList =
      some ("if", definedOf USE_ESP32 ++ " || ".toList ++ definedOf USE_HOST) := by decide
  simp only [Macros.read, parsed, m.holds_or _ _ isName_esp32 isName_host]

theorem read_if_esp32 : m.read "#if defined(USE_ESP32)".toList =
    .opens (m.isDefined USE_ESP32) := by
  have parsed : directive "#if defined(USE_ESP32)".toList = some ("if", definedOf USE_ESP32) := by
    decide
  simp only [Macros.read, parsed, m.holds_defined _ isName_esp32]

theorem read_elif_esp32 : m.read "#elif defined(USE_ESP32)".toList =
    .elif (m.isDefined USE_ESP32) := by
  have parsed : directive "#elif defined(USE_ESP32)".toList =
      some ("elif", definedOf USE_ESP32) := by decide
  simp only [Macros.read, parsed, m.holds_defined _ isName_esp32]

theorem read_if_host : m.read "#if defined(USE_HOST)".toList =
    .opens (m.isDefined USE_HOST) := by
  have parsed : directive "#if defined(USE_HOST)".toList = some ("if", definedOf USE_HOST) := by
    decide
  simp only [Macros.read, parsed, m.holds_defined _ isName_host]

theorem read_if_not_host : m.read "#if !defined(USE_HOST)".toList =
    .opens (!m.isDefined USE_HOST) := by
  have parsed : directive "#if !defined(USE_HOST)".toList =
      some ("if", '!' :: definedOf USE_HOST) := by decide
  simp only [Macros.read, parsed, m.holds_not _ isName_host]

theorem read_endif : m.read "#endif".toList = .closes := by
  have parsed : directive "#endif".toList = some ("endif", []) := by decide
  simp only [Macros.read, parsed]

theorem read_text {line : Line} (ordinary : directive line = none ∨
      ∃ arg, directive line = some ("include", arg)) : m.read line = .text := by
  rcases ordinary with parsed | ⟨arg, parsed⟩ <;>
  simp [Macros.read, parsed]

/-- The lines of a text that is written as lines. -/
theorem lines_text {ls : Literal} (some : ls ≠ []) :
    lines (text ls) = ls.flatMap fun l => lines l.toList := by
  induction ls with
  | nil => exact absurd rfl some
  | cons l ls ih =>
      cases ls with
      | nil => exact (List.append_nil _).symm
      | cons l' ls =>
          have first : text (l :: l' :: ls) = l.toList ++ '\n' :: text (l' :: ls) := rfl
          rw [first, lines_append, ih (List.cons_ne_nil _ _)]
          rfl

theorem lines_of_not_mem {l : List Char} (fresh : '\n' ∉ l) : lines l = [l] := by
  induction l with
  | nil => rfl
  | cons c l ih =>
      obtain ⟨other, fresh⟩ := List.ne_and_not_mem_of_not_mem_cons fresh
      rw [lines, if_neg other.symm, ih fresh]

/-! ## The fragments -/

/-- A fragment and what is written for it execute alike. -/
def Same (read read' : Reading) (r : Literal × Literal) : Prop :=
  ∀ fs, exec read fs (lines (text r.2)) = exec read' fs (lines (text r.1))

theorem exec_opens {read read' : Reading} {l l' : Line} {holds : Bool}
    (here : read l = .opens holds) (there : read' l' = .opens holds) (fs : List Conditional.Frame) :
    exec read fs [l] = exec read' fs [l'] := by
  simp only [exec, step, here, there, advance]

theorem lines_guards : lines BLE_GUARD.toList = [BLE_GUARD.toList] ∧
    lines BLE_HOST_GUARD.toList = [BLE_HOST_GUARD.toList] := by
  decide

/-- The guard alone, on every platform. -/
theorem same_bleGuard : Same m.read m.readWidened (widened [] []) := by
  intro fs
  have there : m.readWidened BLE_GUARD.toList =
      .opens (m.isDefined USE_ESP32 || m.isDefined USE_HOST) := if_pos rfl
  exact lines_guards.1 ▸ lines_guards.2 ▸ exec_opens read_hostGuard there fs

/-- A guard somewhere in a fragment, where there is no host. -/
theorem same_widened (host : m.isDefined USE_HOST = false) (before behind : Literal) :
    Same m.read m.read (widened before behind) := by
  intro fs
  have wide : m.read BLE_HOST_GUARD.toList = .opens (m.isDefined USE_ESP32) := by
    rw [read_hostGuard, host, Bool.or_false]
  rw [widened, lines_text (by simp), lines_text (by simp), List.flatMap_append,
    List.flatMap_append, List.flatMap_cons, List.flatMap_cons]
  refine exec_append_congr (fun _ => rfl) (exec_append_congr (fun fs => ?_) fun _ => rfl) fs
  exact lines_guards.1 ▸ lines_guards.2 ▸ exec_opens wide read_guard fs

theorem same_hostFirst (host : m.isDefined USE_HOST = false) {line : String}
    (ordinary : m.read line.toList = .text) (alone : '\n' ∉ line.toList) (branches : Literal) :
    Same m.read m.read (hostFirst line branches) := by
  intro fs
  have plain : lines "#if defined(USE_HOST)".toList = ["#if defined(USE_HOST)".toList] ∧
      lines "#elif defined(USE_ESP32)".toList = ["#elif defined(USE_ESP32)".toList] ∧
      lines "#if defined(USE_ESP32)".toList = ["#if defined(USE_ESP32)".toList] := by
    decide
  obtain ⟨first, second, third⟩ := plain
  have wide : m.read "#if defined(USE_HOST)".toList = .opens false := by
    rw [read_if_host, host]
  simp only [hostFirst]
  rw [lines_text (List.cons_ne_nil _ _), lines_text (List.cons_ne_nil _ _), List.flatMap_cons,
    List.flatMap_cons, List.flatMap_cons, List.flatMap_cons, first, second, third,
    lines_of_not_mem alone, ← List.append_assoc, ← List.append_assoc]
  refine exec_append_congr (fun fs => ?_) (fun _ => rfl) fs
  simp only [List.cons_append, List.nil_append, exec, step, wide, ordinary, read_elif_esp32,
    read_if_esp32, advance]
  simp [live]

theorem same_notOnHost (host : m.isDefined USE_HOST = false) {line : String}
    (ordinary : m.read line.toList = .text) (alone : '\n' ∉ line.toList) :
    Same m.read m.read (notOnHost line) := by
  intro fs
  have plain : lines "#if !defined(USE_HOST)".toList = ["#if !defined(USE_HOST)".toList] ∧
      lines "#endif".toList = ["#endif".toList] := by decide
  have open_ : m.read "#if !defined(USE_HOST)".toList = .opens true := by
    rw [read_if_not_host, host]
    rfl
  simp only [notOnHost]
  rw [lines_text (List.cons_ne_nil _ _), lines_text (List.cons_ne_nil _ _)]
  simp only [List.flatMap_cons, List.flatMap_nil, plain.1, plain.2, lines_of_not_mem alone,
    List.cons_append, List.nil_append, List.append_nil, exec, step, open_, ordinary, read_endif,
    advance]
  cases fs with
  | nil => rfl
  | cons f fs => cases kept : f.live <;> simp [live, kept]

/-! ## The files -/

variable {path : Path} {marker : String} {replacements : List (Literal × Literal)}
variable {src new content : Text}

/-- The fragments take whole lines wherever the loop finds them. -/
def Whole : List (Literal × Literal) → Text → Prop
  | [], _ => True
  | (old, repl) :: replacements, new =>
      aligned (text old) true new = true ∧
        Whole replacements (replaceAll (text old) (text repl) new)

/-- Fragments that do not begin with an empty line. -/
def Visible (r : Literal × Literal) : Prop := ∀ s, ¬ text r.1 <+: '\n' :: s

theorem visible_cons {c : Char} (l : List Char) {ls repl : Literal} (other : c ≠ '\n') :
    Visible (String.ofList (c :: l) :: ls, repl) := by
  intro s here
  have start : String.toList (String.ofList (c :: l)) <+: '\n' :: s := by
    refine List.IsPrefix.trans ?_ here
    cases ls with
    | nil => exact List.prefix_rfl
    | cons l' ls => exact List.prefix_append _ _
  rw [String.toList_ofList] at start
  exact other (List.cons_prefix_cons.mp start).1

/-- Fragments that execute alike may be replaced one after the other. -/
theorem exec_replacing (same : ∀ r ∈ replacements, Same m.read m.read r)
    (visible : ∀ r ∈ replacements, Visible r) (whole : Whole replacements src)
    (done : replacing path replacements src = .ok new) (fs : List Conditional.Frame) :
    exec m.read fs (lines new) = exec m.read fs (lines src) := by
  induction replacements generalizing src with
  | nil =>
      cases done
      rfl
  | cons r replacements ih =>
      obtain ⟨here, later⟩ := List.forall_mem_cons.mp same
      obtain ⟨seen, others⟩ := List.forall_mem_cons.mp visible
      rw [replacing] at done
      split at done
      · rw [ih later others whole.2 done]
        exact exec_replaceAll seen here (fun _ _ => rfl) whole.1 fs
      · cases done

/-- The lines of the marker are text. -/
theorem preprocess_marked {read : Reading} (ordinary : read marker.toList = .text)
    (blank : read [] = .text) (alone : '\n' ∉ marker.toList) :
    preprocess read (marked new marker) =
      (preprocess read new).map (· ++ [marker.toList, []]) := by
  refine preprocess_append_text _ ?_ ?_
  · exact List.forall_mem_cons.mpr ⟨ordinary, List.forall_mem_singleton.mpr blank⟩
  · rw [lines_text (List.cons_ne_nil _ _)]
    simp only [List.flatMap_cons, List.flatMap_nil, lines_of_not_mem alone]
    rfl

theorem read_blank : m.read [] = .text := read_text (.inl rfl)

theorem read_marker (ordinary : directive marker.toList = none) : m.read marker.toList = .text :=
  read_text (.inl ordinary)

/-- A marker is a comment on a line of its own. -/
def Comment (marker : String) : Prop :=
  directive marker.toList = none ∧ '\n' ∉ marker.toList ∧ '\r' ∉ marker.toList

/-- The file that `_patch` writes, where there is no host. -/
theorem patch_meaning (same : ∀ r ∈ replacements, Same m.read m.read r)
    (visible : ∀ r ∈ replacements, Visible r) (plain : ∀ r ∈ replacements, Plain r)
    (comment : Comment marker) (whole : Whole replacements (readText content))
    (written : (patch path marker replacements).apply (some content) = .ok (some new)) :
    preprocess m.read (readText new) =
      (preprocess m.read (readText content)).map (· ++ [marker.toList, []]) := by
  obtain ⟨ordinary, alone, unmarked⟩ := comment
  have outcome : (if contains marker.toList (readText content) then .ok none
      else (replacing path replacements (readText content)).map fun new =>
        some (marked new marker)) = Except.ok (some new) := written
  split at outcome
  · cases outcome
  · cases done : replacing path replacements (readText content) with
    | error x =>
        rw [done] at outcome
        cases outcome
    | ok replaced =>
        rw [done] at outcome
        cases outcome
        have clean := not_mem_replacing plain (not_mem_newlinesFrom _ _) done
        rw [readText_of_not_mem (not_mem_marked clean unmarked),
          preprocess_marked (read_marker ordinary) read_blank alone, preprocess,
          exec_replacing same visible whole done, preprocess]

/-- The guards of a consumer, on every platform. -/
theorem exec_guards (whole : aligned BLE_GUARD.toList true src = true) :
    exec m.read [] (lines (replaceAll BLE_GUARD.toList BLE_HOST_GUARD.toList src)) =
      exec m.readWidened [] (lines src) := by
  have visible : Visible (widened [] []) := visible_cons _ (by decide)
  refine exec_replaceAll visible same_bleGuard (fun l other => ?_) whole []
  have apart : l ≠ BLE_GUARD.toList := fun same => other (same ▸ List.infix_rfl)
  exact (if_neg apart).symm

/-- A consumer's file: with its guards widened, unless there are none. -/
theorem patchBleGuard_meaning (m : Macros) (path : Path)
    (whole : aligned BLE_GUARD.toList true (readText content) = true)
    (pristine : contains BLE_MARKER.toList (readText content) = false) :
    ((patchBleGuard path).apply (some content) = .ok none ∧
        preprocess m.read (readText content) = preprocess m.readWidened (readText content)) ∨
      ∃ new, (patchBleGuard path).apply (some content) = .ok (some new) ∧
        preprocess m.read (readText new) = (preprocess m.readWidened (readText content)).map
          (· ++ [BLE_MARKER.toList, []]) := by
  have outcome : (patchBleGuard path).apply (some content) =
      if replaceAll BLE_GUARD.toList BLE_HOST_GUARD.toList (readText content) =
        readText content then .ok none
      else .ok (some (marked (replaceAll BLE_GUARD.toList BLE_HOST_GUARD.toList (readText content))
        BLE_MARKER)) := if_neg (by rw [pristine]; exact nofun)
  have alike := exec_guards (m := m) whole
  by_cases same : replaceAll BLE_GUARD.toList BLE_HOST_GUARD.toList (readText content) =
      readText content
  · rw [if_pos same] at outcome
    rw [same] at alike
    refine .inl ⟨outcome, ?_⟩
    rw [preprocess, alike, preprocess]
  · rw [if_neg same] at outcome
    refine .inr ⟨_, outcome, ?_⟩
    have clean : '\r' ∉ replaceAll BLE_GUARD.toList BLE_HOST_GUARD.toList (readText content) :=
      not_mem_replaceAll (by decide) (by decide) (readText content)
        (not_mem_newlinesFrom _ _)
    rw [readText_of_not_mem (not_mem_marked clean (by decide)),
      preprocess_marked (read_marker (by decide)) read_blank (by decide),
      preprocess, alike, preprocess]

/-! ## A run -/

variable {projectDir p : Path} {t : Files}

/-- The files that `_patch` is called for. -/
def guardedFiles (projectDir : Path) : List (Path × List (Literal × Literal)) :=
  let srcRoot := componentsRoot projectDir ++ ["web_server"]
  [(componentsRoot projectDir ++ ["mqtt"] ++ ["mqtt_client.h"], mqttClientH),
    (srcRoot ++ ["web_server.cpp"], webServerCpp), (srcRoot ++ ["web_server.h"], webServerH),
    (srcRoot ++ ["list_entities.h"], listEntitiesH),
    (srcRoot ++ ["list_entities.cpp"], listEntitiesCpp)]

/-- Sources that have the fragments on lines of their own. -/
structure Tidy (projectDir : Path) (t : Files) : Prop where
  consumers : ∀ d ∈ bleConsumerDirs, ∀ p ∈ consumerFiles t (componentsRoot projectDir ++ [d]),
    ∀ content, t.read p = some content → aligned BLE_GUARD.toList true (readText content) = true
  guarded : ∀ f ∈ guardedFiles projectDir, ∀ content, t.read f.1 = some content →
    Whole f.2 (readText content)

theorem mem_lastEdits {e : Edit Path Text PatchError} (mem : e ∈ lastEdits projectDir) :
    ∃ f ∈ guardedFiles projectDir, ∃ marker ∈ [MQTT_MARKER, MARKER],
      e = patch f.1 marker f.2 := by
  simp only [lastEdits, List.mem_cons, List.not_mem_nil, or_false] at mem
  rcases mem with rfl | rfl | rfl | rfl | rfl
  · exact ⟨_, .head _, _, .head _, rfl⟩
  · exact ⟨_, .tail _ (.head _), _, .tail _ (.head _), rfl⟩
  · exact ⟨_, .tail _ (.tail _ (.head _)), _, .tail _ (.head _), rfl⟩
  · exact ⟨_, .tail _ (.tail _ (.tail _ (.head _))), _, .tail _ (.head _), rfl⟩
  · exact ⟨_, .tail _ (.tail _ (.tail _ (.tail _ (.head _)))), _, .tail _ (.head _), rfl⟩

theorem same_mqttClientH (host : m.isDefined USE_HOST = false) :
    ∀ r ∈ mqttClientH, Same m.read m.read r := by
  refine List.forall_mem_cons.mpr ⟨same_hostFirst host (read_text (.inr ?_)) (by decide) _,
    List.forall_mem_cons.mpr ⟨same_hostFirst host (read_text (.inl ?_)) (by decide) _,
      List.forall_mem_singleton.mpr (same_notOnHost host (read_text (.inr ?_)) ?_)⟩⟩
  · exact ⟨"\"mqtt_backend_host.h\"".toList, by decide⟩
  · decide
  · exact ⟨"\"lwip/ip_addr.h\"".toList, by decide⟩
  · decide

theorem same_guarded (host : m.isDefined USE_HOST = false) :
    ∀ f ∈ guardedFiles projectDir, ∀ r ∈ f.2, Same m.read m.read r := by
  simp only [guardedFiles, webServerCpp, webServerH, listEntitiesH, listEntitiesCpp,
    List.forall_mem_cons, List.not_mem_nil, false_imp_iff, implies_true, and_true]
  have guard := same_widened host
  exact ⟨same_mqttClientH host, guard _ _, guard _ _, ⟨guard _ _, guard _ _, guard _ _⟩, guard _ _⟩

theorem visible_guarded : ∀ f ∈ guardedFiles projectDir, ∀ r ∈ f.2, Visible r := by
  simp only [guardedFiles, mqttClientH, webServerCpp, webServerH, listEntitiesH, listEntitiesCpp,
    List.forall_mem_cons, List.not_mem_nil, false_imp_iff, implies_true, and_true]
  have guard : ∀ behind, Visible (widened [] behind) := fun _ => visible_cons _ (by decide)
  have branches : ∀ host behind, Visible (hostFirst host behind) :=
    fun _ _ => visible_cons _ (by decide)
  exact ⟨⟨branches _ _, branches _ _, visible_cons _ (by decide)⟩, guard _, guard _,
    ⟨visible_cons _ (by decide), guard _, guard _⟩, guard _⟩

theorem plain_guarded : ∀ f ∈ guardedFiles projectDir, ∀ r ∈ f.2, Plain r := by
  obtain ⟨⟨⟨cpp, header⟩, entities⟩, list⟩ := by
    simpa only [List.forall_mem_append] using plain_webServer
  simp only [guardedFiles, List.forall_mem_cons, List.not_mem_nil, false_imp_iff, implies_true,
    and_true]
  exact ⟨plain_mqttClientH, cpp, header, entities, list⟩

theorem comment_marker : ∀ marker ∈ [MQTT_MARKER, MARKER], Comment marker := by
  unfold Comment
  decide

/-- What a run may leave behind a source. -/
def trailers : List (List Line) :=
  [] :: [BLE_MARKER, MQTT_MARKER, MARKER].map fun marker => [marker.toList, []]

theorem readWidened_of_not_host (host : m.isDefined USE_HOST = false) : m.readWidened = m.read := by
  funext line
  unfold Macros.readWidened
  split
  · next same => rw [same, read_guard, host, Bool.or_false]
  · rfl

/-- What a guarded consumer is written as, where there is no host. -/
theorem patchBleGuard_elsewhere {path : Path} (host : m.isDefined USE_HOST = false)
    {content new : Text}
    (whole : aligned BLE_GUARD.toList true (readText content) = true)
    (written : (patchBleGuard path).apply (some content) = .ok (some new)) :
    preprocess m.read (readText new) =
      (preprocess m.read (readText content)).map (· ++ [BLE_MARKER.toList, []]) := by
  have pristine : contains BLE_MARKER.toList (readText content) = false := by
    refine Bool.eq_false_iff.mpr fun marked => ?_
    have alone : (patchBleGuard path).apply (some content) = .ok none := if_pos marked
    rw [alone] at written
    cases written
  rcases patchBleGuard_meaning m path whole pristine with ⟨alone, -⟩ | ⟨new', written', meaning⟩
  · rw [alone] at written
    cases written
  · rw [written'] at written
    cases written
    rwa [readWidened_of_not_host host] at meaning

/-- What an edit writes means what was there, where there is no host. -/
theorem edit_meaning (host : m.isDefined USE_HOST = false) (tidy : Tidy projectDir t)
    {e : Edit Path Text PatchError} (mem : e ∈ edits projectDir t)
    (later : e ∉ firstEdits projectDir) {content new : Text}
    (found : t.read e.key = some content) (written : e.apply (some content) = .ok (some new)) :
    ∃ trailer ∈ trailers, preprocess m.read (readText new) =
      (preprocess m.read (readText content)).map (· ++ trailer) := by
  rcases List.mem_append.mp mem with first | mem
  · exact absurd first later
  rcases List.mem_append.mp mem with consumer | last
  · obtain ⟨d, inside, path, listed, rfl⟩ := mem_consumerEdits consumer
    have whole := tidy.consumers d inside path listed content found
    exact ⟨_, .tail _ (.head _), patchBleGuard_elsewhere host whole written⟩
  · obtain ⟨f, guarded, marker, mark, rfl⟩ := mem_lastEdits last
    refine ⟨[marker.toList, []], ?_, patch_meaning (same_guarded host f guarded)
      (visible_guarded f guarded) (plain_guarded f guarded) (comment_marker marker mark)
      (tidy.guarded f guarded content found) written⟩
    rcases List.mem_cons.mp mark with rfl | mark
    · exact .tail _ (.tail _ (.head _))
    · cases List.mem_singleton.mp mark
      exact .tail _ (.tail _ (.tail _ (.head _)))

/-- **Where there is no host every source means what it did**, whether the run succeeds or not, but
for the two components that get additions and the stubs. -/
theorem patchAll_elsewhere (projectDir : Path) (t : Files) (m : Macros)
    (host : m.isDefined USE_HOST = false) (tidy : Tidy projectDir t) {p : Path} {content : Text}
    (found : t.read p = some content) (other : p ∉ (firstEdits projectDir).map Edit.key) :
    ∃ new, (patchAll projectDir t).1.read p = some new ∧ ∃ trailer ∈ trailers,
      preprocess m.read (readText new) =
        (preprocess m.read (readText content)).map (· ++ trailer) := by
  have unchanged : (patchAll projectDir t).1.read p = t.read p →
      ∃ new, (patchAll projectDir t).1.read p = some new ∧ ∃ trailer ∈ trailers,
        preprocess m.read (readText new) =
          (preprocess m.read (readText content)).map (· ++ trailer) := by
    intro same
    refine ⟨content, same.trans found, [], .head _, ?_⟩
    simp only [List.append_nil, Option.map_id']
  rw [patchAll_eq] at unchanged ⊢
  by_cases edited : p ∈ (edits projectDir t).map Edit.key
  · obtain ⟨e, mem, rfl⟩ := List.mem_map.mp edited
    rcases read_performAll_key nodup_edits mem with same | ⟨new, written, result⟩
    · exact unchanged same
    · rw [found] at written
      have later : e ∉ firstEdits projectDir := fun first => other (List.mem_map_of_mem first)
      exact ⟨new, result, edit_meaning host tidy mem later found written⟩
  · exact unchanged (read_performAll edited)

/-- The edits before those of `_patch` never fail. -/
theorem early_fine : ∀ e ∈ firstEdits projectDir ++
      consumerEdits (componentsRoot projectDir) bleConsumerDirs t,
    ∀ old, ∃ r, e.apply old = .ok r := by
  have inserts : ∀ path marker needle repl old, ∃ r,
      (inserting path marker needle repl).apply old = .ok r := by
    intro path marker needle repl old
    cases old with
    | none => exact ⟨_, rfl⟩
    | some content =>
        simp only [inserting, onFile]
        split
        · exact ⟨_, rfl⟩
        · split <;> exact ⟨_, rfl⟩
  intro e mem old
  rcases List.mem_append.mp mem with first | consumer
  · simp only [firstEdits, ensureLwipStubs, List.map_cons, List.map_nil, List.cons_append,
      List.nil_append, List.mem_cons, List.not_mem_nil, or_false] at first
    rcases first with rfl | rfl | rfl | rfl | rfl
    · exact ⟨_, rfl⟩
    · exact ⟨_, rfl⟩
    · exact ⟨_, rfl⟩
    · exact inserts _ _ _ _ old
    · exact inserts _ _ _ _ old
  · obtain ⟨d, -, path, -, rfl⟩ := mem_consumerEdits consumer
    cases old with
    | none => exact ⟨_, rfl⟩
    | some content =>
        simp only [patchBleGuard, onFile]
        split
        · exact ⟨_, rfl⟩
        · split <;> exact ⟨_, rfl⟩

/-- A platform that defines nothing. -/
def bare : Macros where
  isDefined _ := false
  holds condition := condition.head? = some '!'
  holds_defined _ _ := rfl
  holds_not _ _ := rfl
  holds_or _ _ _ _ := rfl

theorem aligned_sampleSource : aligned BLE_GUARD.toList true (readText sampleSource) = true := by
  decide

def serverPath : Path := componentsRoot ["p"] ++ ["web_server"] ++ ["web_server.cpp"]

/-- A source of the web server that has the fragment on lines of its own. -/
def serverSource : Text :=
  text ["#ifdef USE_ESP32", "  this->base_->add_handler(&this->events_);", "#endif", "\x7d", ""]

/-- That source beside the headers of the consumer. -/
def serverSample : Files where
  entries := (serverPath, serverSource) :: sample.entries
  distinct := by decide

theorem read_serverSample {content : Text} (found : serverSample.read p = some content) :
    p = serverPath ∧ content = serverSource ∨ content = sampleSource := by
  obtain ⟨e, first, rfl⟩ := Option.map_eq_some_iff.mp found
  have here : e.1 = p := by simpa using List.find?_some first
  have mem := List.mem_of_find?_eq_some first
  simp only [serverSample, sample, List.mem_cons, List.not_mem_nil, or_false] at mem
  rcases mem with rfl | rfl | rfl
  · exact .inl ⟨here.symm, rfl⟩
  · exact .inr rfl
  · exact .inr rfl

theorem whole_serverSource : Whole webServerCpp (readText serverSource) :=
  ⟨by decide, trivial⟩

theorem aligned_serverSource : aligned BLE_GUARD.toList true (readText serverSource) = true := by
  decide

theorem tidy_serverSample : Tidy ["p"] serverSample where
  consumers _ _ _ _ _ found := by
    rcases read_serverSample found with ⟨-, rfl⟩ | rfl
    · exact aligned_serverSource
    · exact aligned_sampleSource
  guarded f listed content found := by
    have missing : ∀ f ∈ guardedFiles ["p"],
        serverSample.read f.1 = none ∨ f = (serverPath, webServerCpp) := by
      decide
    rcases missing f listed with absent | rfl
    · rw [absent] at found
      cases found
    · rw [Option.some.inj found.symm]
      exact whole_serverSource

theorem patchAll_elsewhere_sample : ∃ new,
    (patchAll ["p"] serverSample).1.read serverPath = some new ∧ ∃ trailer ∈ trailers,
      preprocess bare.read (readText new) =
        (preprocess bare.read (readText serverSource)).map (· ++ trailer) :=
  patchAll_elsewhere ["p"] serverSample bare rfl tidy_serverSample (by decide) (by decide)

/-- **On every platform a consumer means what it would with its guards accepting the host**, also
after a run that failed. -/
theorem patchAll_consumer (projectDir : Path) (t : Files) (m : Macros) {d : String}
    (consumer : d ∈ bleConsumerDirs) {p : Path}
    (listed : p ∈ consumerFiles t (componentsRoot projectDir ++ [d])) {content : Text}
    (found : t.read p = some content)
    (pristine : contains BLE_MARKER.toList (readText content) = false)
    (whole : aligned BLE_GUARD.toList true (readText content) = true) :
    ∃ new, (patchAll projectDir t).1.read p = some new ∧
      ∃ trailer ∈ [[], [BLE_MARKER.toList, []]], preprocess m.read (readText new) =
        (preprocess m.readWidened (readText content)).map (· ++ trailer) := by
  have mem : patchBleGuard p ∈ firstEdits projectDir ++
      consumerEdits (componentsRoot projectDir) bleConsumerDirs t :=
    List.mem_append_right _ (List.mem_flatMap.mpr ⟨d, consumer, List.mem_map_of_mem listed⟩)
  have distinct : ((edits projectDir t).map Edit.key).Nodup := nodup_edits
  rw [edits, ← List.append_assoc, List.map_append] at distinct
  obtain ⟨early, -, apart⟩ := List.nodup_append.mp distinct
  have untouched : p ∉ (lastEdits projectDir).map Edit.key :=
    fun late => apart p (List.mem_map_of_mem mem) p late rfl
  have same : (patchAll projectDir t).1.read p = (performAll (firstEdits projectDir ++
      consumerEdits (componentsRoot projectDir) bleConsumerDirs t) t).1.read p := by
    rw [patchAll_eq, edits, ← List.append_assoc, performAll_append, andThen,
      performAll_fine early_fine]
    exact read_performAll untouched
  rw [same]
  rcases patchBleGuard_meaning m p whole pristine with
    ⟨alone, meaning⟩ | ⟨new, written, meaning⟩
  · refine ⟨content, ?_, [], .head _, ?_⟩
    · rcases read_performAll_key early mem with kept | ⟨new, written, -⟩
      · exact kept.trans found
      · have twice : (patchBleGuard p).apply (some content) = .ok (some new) := found ▸ written
        rw [alone] at twice
        cases twice
    · rw [meaning]
      simp only [List.append_nil, Option.map_id']
  · exact ⟨new, read_performAll_done early early_fine mem (found ▸ written), _, .tail _ (.head _),
      meaning⟩

theorem patchAll_consumer_sample : ∃ new,
    (patchAll ["p"] sample).1.read (sampleDir ++ ["a.h"]) = some new ∧
      ∃ trailer ∈ [[], [BLE_MARKER.toList, []]], preprocess bare.read (readText new) =
        (preprocess bare.readWidened (readText sampleSource)).map (· ++ trailer) :=
  patchAll_consumer (d := "ble_rssi") ["p"] sample bare (by decide) (by decide)
    (by decide) (by decide) aligned_sampleSource

end EsphomeHost.PatchWebServer
