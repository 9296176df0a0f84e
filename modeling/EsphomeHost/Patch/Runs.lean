import EsphomeHost.Patch.Script

/-!
# Running the patch script again

The files of a project are copied again when they have changed, and the script is run before every
build: on files that it has patched and on files that it has not.

* `patchAll_eq`: the script is a list of edits of different files.
* `stable_of_mem_edits`: a file that an edit has written it leaves alone.
* `patchAll_mixed`: **a run on any mixture of copied and patched files ends with the files, and with
  the error if there is one, of a run on the copies.**
-/

namespace EsphomeHost.PatchWebServer

open Edits Replace

variable {path : Path} {s src new : Text} {marker : String} {needle repl content : Literal}
variable {replacements : List (Literal × Literal)}

/-! ## Edits that are made once -/

theorem not_mem_newlinesFrom (afterCr : Bool) (s : Text) : '\r' ∉ newlinesFrom afterCr s := by
  induction s generalizing afterCr with
  | nil => exact List.not_mem_nil
  | cons c s ih =>
      rw [newlinesFrom]
      split
      · exact List.not_mem_cons_of_ne_of_not_mem (by decide) (ih true)
      · next other =>
          split
          · exact ih false
          · exact List.not_mem_cons_of_ne_of_not_mem (Ne.symm other) (ih false)

theorem readText_of_not_mem (clean : '\r' ∉ s) : readText s = s := by
  rw [readText]
  induction s with
  | nil => rfl
  | cons c s ih =>
      obtain ⟨other, clean⟩ := List.ne_and_not_mem_of_not_mem_cons clean
      rw [newlinesFrom, if_neg other.symm, if_neg fun h => Bool.false_ne_true h.2, ih clean]

/-- A function of the text read that would not change what it has written. -/
theorem onFile_stable {f : Text → Except PatchError (Option Text)}
    (settled : ∀ src new, '\r' ∉ src → f src = .ok (some new) → '\r' ∉ new ∧ f new = .ok none) :
    (onFile path f).Stable := by
  intro old new written
  cases old with
  | none => cases written
  | some content =>
      obtain ⟨clean, again⟩ := settled (readText content) new (not_mem_newlinesFrom _ _) written
      exact (congrArg f (readText_of_not_mem clean)).trans again

/-- What is in a line is in the text. -/
theorem infix_text {l : String} {part : Text} (mem : l ∈ content) (inside : part <:+: l.toList) :
    part <:+: text content := by
  induction content with
  | nil => cases mem
  | cons m ls ih =>
      cases ls with
      | nil =>
          obtain rfl := List.mem_singleton.mp mem
          exact inside
      | cons m' ls =>
          rw [text]
          rcases List.mem_cons.mp mem with rfl | mem
          · exact inside.trans (List.prefix_append _ _).isInfix
          · exact (ih mem).trans
              ((List.suffix_cons _ _).trans (List.suffix_append _ _)).isInfix
          · exact nofun

theorem contains_marked : contains marker.toList (marked new marker) = true := by
  have inside : marker.toList <:+: text [marker, ""] :=
    infix_text List.mem_cons_self List.infix_rfl
  exact contains_iff.mpr (inside.trans
    ((List.suffix_cons _ _).trans (List.suffix_append _ _)).isInfix)

/-- Lines that a text mode read would not change. -/
def Fresh (content : Literal) : Prop := ∀ l ∈ content, '\r' ∉ l.toList

theorem fresh_cons {l : List Char} (first : '\r' ∉ l) (rest : Fresh content) :
    Fresh (String.ofList l :: content) := by
  refine List.forall_mem_cons.mpr ⟨?_, rest⟩
  rwa [String.toList_ofList]

theorem Fresh.not_mem (fresh : Fresh content) : '\r' ∉ text content := by
  induction content with
  | nil => exact List.not_mem_nil
  | cons l ls ih =>
      obtain ⟨first, rest⟩ := List.forall_mem_cons.mp fresh
      cases ls with
      | nil => exact first
      | cons m ls =>
          rw [text, List.mem_append, List.mem_cons, not_or, not_or]
          · exact ⟨first, by decide, ih rest⟩
          · exact nofun

theorem not_mem_marked (clean : '\r' ∉ new) (plain : '\r' ∉ marker.toList) :
    '\r' ∉ marked new marker := by
  rw [marked, List.mem_append, List.mem_cons, not_or, not_or]
  have fresh : Fresh [marker, ""] :=
    List.forall_mem_cons.mpr ⟨plain, fresh_cons List.not_mem_nil nofun⟩
  exact ⟨clean, by decide, fresh.not_mem⟩

/-- A fragment that is not empty, and one that can be written for it. -/
def Plain (r : Literal × Literal) : Prop := text r.1 ≠ [] ∧ Fresh r.2

theorem not_mem_replacing (plain : ∀ r ∈ replacements, Plain r) (clean : '\r' ∉ src)
    (done : replacing path replacements src = .ok new) : '\r' ∉ new := by
  induction replacements generalizing src with
  | nil =>
      cases done
      exact clean
  | cons r replacements ih =>
      obtain ⟨nonempty, fresh⟩ := plain r List.mem_cons_self
      rw [replacing] at done
      split at done
      · exact ih (fun r mem => plain r (List.mem_cons_of_mem _ mem))
          (not_mem_replaceAll nonempty fresh.not_mem src clean) done
      · cases done

theorem patch_stable (plain : ∀ r ∈ replacements, Plain r) (unmarked : '\r' ∉ marker.toList) :
    (patch path marker replacements).Stable := by
  refine onFile_stable fun src new clean written => ?_
  split at written
  · cases written
  · obtain ⟨text, done, same⟩ : ∃ text, replacing path replacements src = .ok text ∧
        marked text marker = new := by
      cases done : replacing path replacements src with
      | error x =>
          rw [done] at written
          cases written
      | ok text =>
          rw [done] at written
          exact ⟨text, rfl, Option.some.inj (Except.ok.inj written)⟩
    subst same
    exact ⟨not_mem_marked (not_mem_replacing plain clean done) unmarked, if_pos contains_marked⟩

theorem patchBleGuard_stable : (patchBleGuard path).Stable := by
  refine onFile_stable fun src new clean written => ?_
  dsimp only at written ⊢
  split at written
  · cases written
  · split at written
    · cases written
    · have same := Option.some.inj (Except.ok.inj written)
      subst same
      have replaced : '\r' ∉ replaceAll BLE_GUARD.toList BLE_HOST_GUARD.toList src :=
        not_mem_replaceAll (by decide) (by decide) src clean
      exact ⟨not_mem_marked replaced (by decide), if_pos contains_marked⟩

theorem ensure_stable (fresh : Fresh content) :
    (ensure path content).Stable := by
  intro old new written
  have writes := Except.ok.inj written
  split at writes
  · cases writes
  · cases writes
    exact congrArg Except.ok (if_pos (congrArg some (readText_of_not_mem fresh.not_mem)))

theorem inserting_stable (inside : marker.toList <:+: text repl) (fresh : Fresh repl) :
    (inserting path marker needle repl).Stable := by
  refine onFile_stable fun src new clean written => ?_
  split at written
  · cases written
  · split at written
    · next found =>
        have same := Option.some.inj (Except.ok.inj written)
        subst same
        exact ⟨not_mem_replaceFirst fresh.not_mem clean,
          if_pos (contains_replaceFirst found inside)⟩
    · cases written

/-! ## The directories of the consumers -/

variable {t t' : Files} {dir p : Path} {name suffix : String} {root projectDir : Path}

/-- The name of a file in the directory. -/
theorem eq_of_names_eq (named : (if p.dropLast = dir then p.getLast? else none) = some name) :
    p = dir ++ [name] := by
  obtain ⟨same, last⟩ := Option.ite_none_right_eq_some.mp named
  obtain ⟨ys, rfl⟩ := List.getLast?_eq_some_iff.mp last
  rw [← same, List.dropLast_concat]

theorem mem_names : name ∈ names t dir ↔ dir ++ [name] ∈ t.keys := by
  rw [names, List.mem_filterMap]
  constructor
  · rintro ⟨path, mem, named⟩
    exact eq_of_names_eq named ▸ mem
  · intro mem
    refine ⟨dir ++ [name], mem, ?_⟩
    rw [List.dropLast_concat, if_pos rfl, List.getLast?_append]
    rfl

theorem nodup_names : (names t dir).Nodup :=
  t.distinct.filterMap fun _ _ _ named named' =>
    (eq_of_names_eq named).trans (eq_of_names_eq named').symm

theorem nodup_sortedGlob : (sortedGlob t dir suffix).Nodup := by
  refine List.Nodup.map (fun a b same => ?_)
    ((List.perm_insertionSort _ _).nodup_iff.mpr (nodup_names.filter _))
  cases List.append_cancel_left same
  rfl

theorem mem_sortedGlob (mem : p ∈ sortedGlob t dir suffix) :
    ∃ name, p = dir ++ [name] ∧ suffix.toList <:+ name.toList := by
  obtain ⟨name, listed, rfl⟩ := List.mem_map.mp mem
  rw [List.mem_insertionSort, List.mem_filter] at listed
  exact ⟨name, rfl, of_decide_eq_true listed.2⟩

/-- No name ends in both suffixes. -/
theorem nodup_consumerFiles : (consumerFiles t dir).Nodup := by
  refine nodup_sortedGlob.append nodup_sortedGlob fun p header source => ?_
  obtain ⟨name, rfl, h⟩ := mem_sortedGlob header
  obtain ⟨name', same, cpp⟩ := mem_sortedGlob source
  cases List.append_cancel_left same
  have shorter : ".h".toList <:+ ".cpp".toList :=
    List.suffix_of_suffix_length_le h cpp (by decide)
  exact absurd shorter (by decide)

theorem dropLast_of_mem_consumerFiles (mem : p ∈ consumerFiles t dir) : p.dropLast = dir := by
  rcases List.mem_append.mp mem with mem | mem <;>
  · obtain ⟨name, rfl, -⟩ := mem_sortedGlob mem
    exact List.dropLast_concat

/-- The listing depends on what files there are, not on their order or content. -/
theorem consumerFiles_congr (same : ∀ name, dir ++ [name] ∈ t.keys ↔ dir ++ [name] ∈ t'.keys) :
    consumerFiles t dir = consumerFiles t' dir := by
  have perm : (names t dir).Perm (names t' dir) :=
    (List.perm_ext_iff_of_nodup nodup_names nodup_names).mpr fun name =>
      mem_names.trans ((same name).trans mem_names.symm)
  have listed : ∀ suffix, sortedGlob t dir suffix = sortedGlob t' dir suffix := by
    intro suffix
    have both := (List.perm_insertionSort (· ≤ ·) _).trans ((perm.filter
      fun name => decide (suffix.toList <:+ name.toList)).trans
        (List.perm_insertionSort (· ≤ ·) _).symm)
    exact congrArg _ (both.eq_of_pairwise' (List.pairwise_insertionSort _ _)
      (List.pairwise_insertionSort _ _))
  rw [consumerFiles, consumerFiles, listed, listed]

/-- The edits of the loop over the directories. -/
def consumerEdits (root : Path) (dirs : List String) (t : Files) :
    List (Edit Path Text PatchError) :=
  dirs.flatMap fun d => (consumerFiles t (root ++ [d])).map patchBleGuard

theorem patchConsumers_eq {dirs : List String}
    (same : ∀ d ∈ dirs, ∀ name, root ++ [d] ++ [name] ∈ t.keys ↔ root ++ [d] ++ [name] ∈ t'.keys) :
    patchConsumers root dirs t = performAll (consumerEdits root dirs t') t := by
  induction dirs generalizing t with
  | nil => rfl
  | cons d dirs ih =>
      rw [patchConsumers, consumerEdits, List.flatMap_cons, performAll_append,
        consumerFiles_congr (same d List.mem_cons_self)]
      have later : patchConsumers root dirs
          (performAll ((consumerFiles t' (root ++ [d])).map patchBleGuard) t).1 =
          performAll (consumerEdits root dirs t')
            (performAll ((consumerFiles t' (root ++ [d])).map patchBleGuard) t).1 := by
        refine ih fun e mem name => (Store.mem_keys_iff.trans ?_).trans
          (same e (List.mem_cons_of_mem _ mem) name)
        rw [Store.mem_keys_iff]
        refine not_congr (read_performAll_eq_none_iff fun f listed _ => ?_)
        obtain ⟨path, -, rfl⟩ := List.mem_map.mp listed
        rfl
      unfold andThen
      split
      · exact later
      · rfl

/-! ## The script as a list of edits -/

def edits (projectDir : Path) (t : Files) : List (Edit Path Text PatchError) :=
  firstEdits projectDir ++ (consumerEdits (componentsRoot projectDir) bleConsumerDirs t ++
    lastEdits projectDir)

/-- The files that are named in the script. -/
def namedFiles : List Path :=
  [["src", "lwip", "dns.h"], ["src", "lwip", "err.h"], ["src", "esp_idf_version.h"],
    ["src", "esphome", "components", "network", "ip_address.h"],
    ["src", "esphome", "components", "seesaw", "seesaw.cpp"],
    ["src", "esphome", "components", "mqtt", "mqtt_client.h"],
    ["src", "esphome", "components", "web_server", "web_server.cpp"],
    ["src", "esphome", "components", "web_server", "web_server.h"],
    ["src", "esphome", "components", "web_server", "list_entities.h"],
    ["src", "esphome", "components", "web_server", "list_entities.cpp"]]

theorem keys_named (projectDir : Path) :
    (firstEdits projectDir ++ lastEdits projectDir).map Edit.key =
      namedFiles.map (projectDir ++ ·) := by
  simp only [firstEdits, lastEdits, ensureLwipStubs, ensureEspIdfVersionStub, patchHostIpAddress,
    patchSeesawReadbuf, inserting, patch, onFile, ensure, componentsRoot, namedFiles,
    List.append_assoc, List.map_cons, List.map_nil, List.cons_append, List.nil_append]

theorem not_named {d : String} (consumer : d ∈ bleConsumerDirs) (name : String) :
    componentsRoot projectDir ++ [d] ++ [name] ∉ namedFiles.map (projectDir ++ ·) := by
  intro mem
  obtain ⟨rel, listed, same⟩ := List.mem_map.mp mem
  rw [componentsRoot, List.append_assoc, List.append_assoc] at same
  have apart : ∀ rel ∈ namedFiles, ∀ d ∈ bleConsumerDirs,
      rel.dropLast ≠ ["src", "esphome", "components", d] := by decide
  refine apart rel listed d consumer ?_
  rw [List.append_cancel_left same]
  rfl

theorem mem_consumerEdits {e : Edit Path Text PatchError} {dirs : List String}
    (mem : e ∈ consumerEdits root dirs t) :
    ∃ d ∈ dirs, ∃ path ∈ consumerFiles t (root ++ [d]), e = patchBleGuard path := by
  obtain ⟨d, inside, mem⟩ := List.mem_flatMap.mp mem
  obtain ⟨path, listed, same⟩ := List.mem_map.mp mem
  exact ⟨d, inside, path, listed, same.symm⟩

theorem nodup_consumerEdits (dirs : List String) (distinct : dirs.Nodup) :
    ((consumerEdits root dirs t).map Edit.key).Nodup := by
  have keys : (consumerEdits root dirs t).map Edit.key =
      dirs.flatMap fun d => consumerFiles t (root ++ [d]) := by
    rw [consumerEdits, List.map_flatMap]
    refine congrArg (dirs.flatMap ·) (funext fun d => ?_)
    rw [List.map_map]
    exact List.map_id _
  rw [keys, List.nodup_flatMap]
  refine ⟨fun d _ => nodup_consumerFiles, distinct.imp fun {d e} apart path first second => ?_⟩
  have same := (dropLast_of_mem_consumerFiles first).symm.trans
    (dropLast_of_mem_consumerFiles second)
  exact apart (List.singleton_injective (List.append_cancel_left same))

theorem nodup_edits : ((edits projectDir t).map Edit.key).Nodup := by
  have named : ((firstEdits projectDir ++ lastEdits projectDir).map Edit.key).Nodup := by
    rw [keys_named]
    exact List.Nodup.map (fun _ _ same => List.append_cancel_left same) (by decide)
  have consumers : ((consumerEdits (componentsRoot projectDir) bleConsumerDirs t).map
      Edit.key).Nodup := nodup_consumerEdits bleConsumerDirs (by decide)
  have perm := (List.perm_append_comm_assoc (firstEdits projectDir)
    (consumerEdits (componentsRoot projectDir) bleConsumerDirs t)
      (lastEdits projectDir)).map Edit.key
  rw [edits, perm.nodup_iff, List.map_append]
  refine consumers.append named fun k first second => ?_
  obtain ⟨e, mem, rfl⟩ := List.mem_map.mp first
  obtain ⟨d, consumer, path, listed, rfl⟩ := mem_consumerEdits mem
  obtain ⟨name, same⟩ : ∃ name, path = componentsRoot projectDir ++ [d] ++ [name] := by
    rcases List.mem_append.mp listed with listed | listed <;>
    · obtain ⟨name, same, -⟩ := mem_sortedGlob listed
      exact ⟨name, same⟩
  rw [keys_named] at second
  subst same
  exact not_named consumer name second

theorem fresh_stubs : Fresh LWIP_DNS_H ∧ Fresh LWIP_ERR_H ∧ Fresh ESP_IDF_VERSION_H := by
  refine ⟨?_, ?_, ?_⟩ <;>
  · repeat refine fresh_cons (by decide) ?_
    exact nofun

theorem text_ne_nil {l : String} (some : l ≠ "") (ls : Literal) : text (l :: ls) ≠ [] := by
  cases ls with
  | nil => exact mt String.toList_eq_nil_iff.mp some
  | cons m ls => exact List.append_ne_nil_of_right_ne_nil _ nofun

theorem plain_widened {before behind : Literal} (first : Fresh before) (rest : Fresh behind)
    (some : before.head? ≠ some "") : Plain (widened before behind) := by
  refine ⟨?_, List.forall_mem_append.mpr ⟨first, fresh_cons (by decide) rest⟩⟩
  cases before with
  | nil => exact text_ne_nil (by decide) _
  | cons l ls => exact text_ne_nil (fun empty => some (congrArg _ empty)) _

theorem plain_hostFirst {host : List Char} {branches : Literal} (own : '\r' ∉ host)
    (rest : Fresh branches) : Plain (hostFirst (String.ofList host) branches) :=
  ⟨text_ne_nil (by decide) _, fresh_cons (by decide) (fresh_cons own
    (fresh_cons (by decide) rest))⟩

theorem plain_notOnHost {line : List Char} (some : line ≠ []) (own : '\r' ∉ line) :
    Plain (notOnHost (String.ofList line)) := by
  refine ⟨text_ne_nil (fun empty => some ?_) _, fresh_cons (by decide) (fresh_cons own
    (fresh_cons (by decide) nofun))⟩
  rw [← String.toList_ofList (l := line), empty]
  rfl

theorem plain_mqttClientH : ∀ r ∈ mqttClientH, Plain r := by
  refine List.forall_mem_cons.mpr ⟨plain_hostFirst (by decide) ?_,
    List.forall_mem_cons.mpr ⟨plain_hostFirst (by decide) ?_,
      List.forall_mem_cons.mpr ⟨plain_notOnHost (by decide) (by decide), nofun⟩⟩⟩ <;>
  · repeat refine fresh_cons (by decide) ?_
    exact nofun

set_option maxRecDepth 1000 in
theorem plain_webServer : ∀ r ∈ webServerCpp ++ webServerH ++ listEntitiesH ++ listEntitiesCpp,
    Plain r := by
  simp only [webServerCpp, webServerH, listEntitiesH, listEntitiesCpp, List.cons_append,
    List.nil_append, List.forall_mem_cons]
  refine ⟨?_, ?_, ?_, ?_, ?_, ?_, nofun⟩ <;>
  · refine plain_widened ?_ ?_ (by decide) <;>
    · repeat refine fresh_cons (by decide) ?_
      exact nofun

theorem patchHostIpAddress_stable : (patchHostIpAddress path).Stable := by
  refine inserting_stable (infix_text (l := "  " ++ IP_MARKER) ?_ ?_) ?_
  · simp only [List.mem_cons, true_or, or_true]
  · rw [String.toList_append]
    exact (List.suffix_append _ _).isInfix
  · repeat refine fresh_cons (by decide) ?_
    exact List.forall_mem_singleton.mpr (by decide)

theorem patchSeesawReadbuf_stable : (patchSeesawReadbuf path).Stable := by
  refine inserting_stable
    (infix_text (l := "  delayMicroseconds(250);  " ++ SEESAW_MARKER) ?_ ?_) ?_
  · simp only [List.mem_cons, true_or, or_true]
  · rw [String.toList_append]
    exact (List.suffix_append _ _).isInfix
  · refine fresh_cons (by decide) (fresh_cons (by decide)
      (fresh_cons (by decide) (List.forall_mem_cons.mpr ⟨by decide,
        fresh_cons (by decide) nofun⟩)))

theorem firstEdits_stable : ∀ e ∈ firstEdits projectDir, e.Stable := by
  obtain ⟨dns, err, version⟩ := fresh_stubs
  simp only [firstEdits, ensureLwipStubs, List.map_cons, List.map_nil, List.cons_append,
    List.nil_append, List.forall_mem_cons]
  exact ⟨ensure_stable dns, ensure_stable err, ensure_stable version, patchHostIpAddress_stable,
    patchSeesawReadbuf_stable, nofun⟩

theorem lastEdits_stable : ∀ e ∈ lastEdits projectDir, e.Stable := by
  have unmarked : '\r' ∉ MQTT_MARKER.toList ∧ '\r' ∉ MARKER.toList := by decide
  obtain ⟨⟨⟨cpp, header⟩, entities⟩, list⟩ := by
    simpa only [List.forall_mem_append] using plain_webServer
  simp only [lastEdits, List.forall_mem_cons]
  exact ⟨patch_stable plain_mqttClientH unmarked.1, patch_stable cpp unmarked.2,
    patch_stable header unmarked.2, patch_stable entities unmarked.2, patch_stable list unmarked.2,
    nofun⟩

theorem stable_of_mem_edits {e : Edit Path Text PatchError} (mem : e ∈ edits projectDir t) :
    e.Stable := by
  rcases List.mem_append.mp mem with first | mem
  · exact firstEdits_stable e first
  · rcases List.mem_append.mp mem with consumer | last
    · obtain ⟨d, -, path, -, rfl⟩ := mem_consumerEdits consumer
      exact patchBleGuard_stable
    · exact lastEdits_stable e last

/-- The first edits create no file of a consumer. -/
theorem firstEdits_keys {d : String} (consumer : d ∈ bleConsumerDirs) (name : String) :
    componentsRoot projectDir ++ [d] ++ [name] ∈ (performAll (firstEdits projectDir) t).1.keys ↔
      componentsRoot projectDir ++ [d] ++ [name] ∈ t.keys := by
  have foreign : componentsRoot projectDir ++ [d] ++ [name] ∉
      (firstEdits projectDir).map Edit.key := by
    intro mem
    refine absurd ?_ (@not_named projectDir d consumer name)
    rw [← keys_named, List.map_append]
    exact List.mem_append_left _ mem
  rw [Store.mem_keys_iff, Store.mem_keys_iff, read_performAll foreign]

theorem patchAll_eq : patchAll projectDir t = performAll (edits projectDir t) t := by
  have middle : patchConsumers (componentsRoot projectDir) bleConsumerDirs
      (performAll (firstEdits projectDir) t).1 = _ :=
    patchConsumers_eq fun d consumer name => firstEdits_keys consumer name
  rw [patchAll, edits, performAll_append]
  refine andThen_congr ?_
  rw [performAll_append, middle]

/-- A run creates no file of a consumer. -/
theorem consumer_keys {d : String} (consumer : d ∈ bleConsumerDirs) (name : String) :
    (patchAll projectDir t).1.read (componentsRoot projectDir ++ [d] ++ [name]) = none ↔
      t.read (componentsRoot projectDir ++ [d] ++ [name]) = none := by
  rw [patchAll_eq]
  refine read_performAll_eq_none_iff fun e mem here => ?_
  have named : e ∉ firstEdits projectDir ++ lastEdits projectDir := by
    intro listed
    refine absurd ?_ (@not_named projectDir d consumer name)
    rw [← keys_named, ← here]
    exact List.mem_map_of_mem listed
  simp only [edits, List.mem_append, not_or] at mem named
  rcases mem with first | middle | last
  · exact absurd first named.1
  · obtain ⟨-, -, path, -, rfl⟩ := mem_consumerEdits middle
    rfl
  · exact absurd last named.2

/-- **However many of the files have been copied again**, a run ends with the same content in every
file, and with the same error, as the run on the copies did. -/
theorem patchAll_mixed (projectDir : Path) (t t' : Files)
    (mixed : ∀ p, t'.read p = t.read p ∨ t'.read p = (patchAll projectDir t).1.read p) :
    (patchAll projectDir t').2 = (patchAll projectDir t).2 ∧
      ∀ p, (patchAll projectDir t').1.read p = (patchAll projectDir t).1.read p := by
  have listing : consumerEdits (componentsRoot projectDir) bleConsumerDirs t' =
      consumerEdits (componentsRoot projectDir) bleConsumerDirs t := by
    refine List.flatMap_congr fun d consumer => ?_
    refine congrArg _ (consumerFiles_congr fun name => ?_)
    rw [Store.mem_keys_iff, Store.mem_keys_iff]
    rcases mixed (componentsRoot projectDir ++ [d] ++ [name]) with same | done
    · rw [same]
    · rw [done]
      exact not_congr (consumer_keys consumer name)
  have same : edits projectDir t' = edits projectDir t := by
    rw [edits, listing, edits]
  rw [patchAll_eq] at mixed ⊢
  rw [patchAll_eq, same]
  exact performAll_mixed nodup_edits (fun e mem => stable_of_mem_edits mem) mixed

/-- Two headers of a consumer, and the whole-line guard of both. -/
def sampleDir : Path := ["p", "src", "esphome", "components", "ble_rssi"]

def sampleSource : Text := text ["#ifdef USE_ESP32", "int x;", "#endif", ""]

def sample : Files where
  entries := [(sampleDir ++ ["b.h"], sampleSource), (sampleDir ++ ["a.h"], sampleSource)]
  distinct := by decide

theorem patchAll_mixed_sample :
    let copied := (patchAll ["p"] sample).1.write (sampleDir ++ ["a.h"]) sampleSource
    (patchAll ["p"] copied).2 = (patchAll ["p"] sample).2 ∧
      ∀ p, (patchAll ["p"] copied).1.read p = (patchAll ["p"] sample).1.read p := by
  intro copied
  refine patchAll_mixed ["p"] sample copied fun p => ?_
  by_cases here : p = sampleDir ++ ["a.h"]
  · rw [here]
    exact .inl Store.read_write_self
  · exact .inr (Store.read_write_ne here)

end EsphomeHost.PatchWebServer
