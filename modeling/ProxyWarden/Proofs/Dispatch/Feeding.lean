import ProxyWarden.Dispatch.Run
import ProxyWarden.Proofs.Document.Rendering
import ProxyWarden.Proofs.Json.Grammar

/-!
# The document that is fed to the core

The core is fed the stored document with three objects of the program in place of whatever stood
under their keys, so only the other fields can make the rendering fail, and what is fed is read back
with these objects and with every other field as it was (`feeds_stored_document`).
-/
namespace ProxyWarden

open Json (trimText)

namespace Document

variable {d : Document} {key level : String}

/-- The keys under which the program puts its own objects. -/
def runtimeKeys : List String := ["log", "stats", "api"]

/-- The object that sets up the log of the core, which knows four levels. -/
def logText (level : String) : String :=
  "\x7b\"access\":\"\",\"error\":\"\",\"loglevel\":\"" ++
    (if level ∈ ["debug", "info", "warning", "error"] then level else "info") ++
    "\",\"dnsLog\":false,\"maskAddress\":\"\"\x7d"

def statsText : String := "\x7b\x7d"

def apiText : String :=
  "\x7b\"tag\":\"api\",\"listen\":\"127.0.0.1:3000\",\"services\":" ++
    "[\"HandlerService\",\"LoggerService\",\"StatsService\",\"RoutingService\"]\x7d"

def runtimeText? (level key : String) : Option String :=
  if key = "log" then some (logText level)
  else if key = "stats" then some statsText
  else if key = "api" then some apiText
  else none

/-! ## The objects as they are written -/

theorem coreLogLevel_eq (level : String) : coreLogLevel level =
    if level ∈ ["debug", "info", "warning", "error"] then level else "info" := by
  simp [coreLogLevel, coreLogLevels]

theorem coreLogLevel_mem (level : String) :
    coreLogLevel level ∈ ["debug", "info", "warning", "error"] := by
  rw [coreLogLevel_eq]
  split_ifs with h
  · exact h
  · decide

theorem logObject_coreLogLevel (level : String) : logObject (coreLogLevel level) = logObject level := by
  have hsame : coreLogLevel (coreLogLevel level) = coreLogLevel level := by
    rw [coreLogLevel_eq (coreLogLevel level), if_pos (coreLogLevel_mem level)]
  unfold logObject
  rw [hsame]

theorem logText_coreLogLevel (level : String) : logText (coreLogLevel level) = logText level := by
  unfold logText
  rw [if_pos (coreLogLevel_mem level), coreLogLevel_eq]

/-- Only four levels are ever written. -/
theorem write_logObject (level : String) : String.ofList (logObject level).write = logText level := by
  have hwritten : ∀ chosen ∈ ["debug", "info", "warning", "error"],
      String.ofList (logObject chosen).write = logText chosen := by decide +kernel
  rw [← logObject_coreLogLevel, ← logText_coreLogLevel]
  exact hwritten _ (coreLogLevel_mem level)

theorem write_statsObject : String.ofList statsObject.write = statsText := by
  decide +kernel

theorem write_apiObject : String.ofList apiObject.write = apiText := by
  decide +kernel

/-- Under its own keys the program puts its objects, and leaves the others alone. -/
theorem get?_inject (d : Document) (level key : String) :
    (d.inject level).get? key = (runtimeText? level key).or (d.get? key) := by
  unfold inject set runtimeText? apiTag
  rw [write_logObject, write_statsObject, write_apiObject]
  by_cases hapi : key = "api"
  · subst hapi
    exact NameMap.get?_insert_self _
  rw [NameMap.get?_insert_of_ne _ hapi]
  by_cases hstats : key = "stats"
  · subst hstats
    exact NameMap.get?_insert_self _
  rw [NameMap.get?_insert_of_ne _ hstats]
  by_cases hlog : key = "log"
  · subst hlog
    exact NameMap.get?_insert_self _
  rw [NameMap.get?_insert_of_ne _ hlog]
  simp [hapi, hstats, hlog]

theorem runtimeText?_eq_none_iff : runtimeText? level key = none ↔ key ∉ runtimeKeys := by
  unfold runtimeText? runtimeKeys
  split_ifs <;> simp_all

theorem bare_runtimeText {raw : String} (h : runtimeText? level key = some raw) :
    Json.Bare (Utf8.encode raw) := by
  unfold runtimeText? at h
  split_ifs at h
  · cases h
    rw [← write_logObject]
    exact Json.bare_write _
  · cases h
    rw [← write_statsObject]
    exact Json.bare_write _
  · cases h
    rw [← write_apiObject]
    exact Json.bare_write _

/-- What stood under the keys of the program does not matter. -/
theorem inject_congr {d' : Document} (h : ∀ key, key ∉ runtimeKeys → d'.get? key = d.get? key)
    (level : String) : d'.inject level = d.inject level := by
  apply NameMap.ext_get?
  intro key
  rw [get?_inject, get?_inject]
  cases htext : runtimeText? level key with
  | none => rw [h key (runtimeText?_eq_none_iff.1 htext)]
  | some raw => rfl

theorem inject_inject (d : Document) (level level' : String) :
    (d.inject level).inject level' = d.inject level' := by
  apply inject_congr
  intro key hkey
  rw [get?_inject, runtimeText?_eq_none_iff.2 hkey]
  rfl

/-! ## Validity -/

theorem isValid_iff_get? : d.IsValid ↔
    ∀ key raw, d.get? key = some raw → Json.isValue (Utf8.encode raw) = true := by
  simp only [NameMap.get?_eq_some_iff]
  constructor
  · intro h key raw hmem
    exact h (key, raw) hmem
  · intro h e he
    exact h e.1 e.2 he

/-- Only the fields that are not replaced can be faulty. -/
theorem isValid_inject_iff : (d.inject level).IsValid ↔ ∀ key raw, key ∉ runtimeKeys →
    d.get? key = some raw → Json.isValue (Utf8.encode raw) = true := by
  rw [isValid_iff_get?]
  constructor
  · intro h key raw hkey hraw
    apply h key raw
    rw [get?_inject, runtimeText?_eq_none_iff.2 hkey]
    exact hraw
  · intro h key raw hraw
    rw [get?_inject] at hraw
    cases htext : runtimeText? level key with
    | none =>
        rw [htext] at hraw
        exact h key raw (runtimeText?_eq_none_iff.1 htext) hraw
    | some text =>
        rw [htext] at hraw
        cases hraw
        exact (bare_runtimeText htext).isValue_eq

theorem get?_trim_inject (d : Document) (level key : String) :
    (d.inject level).trim.get? key = (runtimeText? level key).or ((d.get? key).map trimText) := by
  rw [trim, NameMap.get?_map, get?_inject]
  cases htext : runtimeText? level key with
  | none => rfl
  | some raw => exact congrArg some (bare_runtimeText htext).trimText_eq

end Document

namespace Dispatch

open Document

variable {d : Document} {level : String}

/-- What the core is told: the objects of the program, and every other field as it was. -/
structure Fed (d : Document) (level : String) (d' : Document) : Prop where
  log : d'.get? "log" = some (logText level)
  stats : d'.get? "stats" = some statsText
  api : d'.get? "api" = some apiText
  others : ∀ key, key ∉ runtimeKeys → d'.get? key = (d.get? key).map trimText

theorem fed_trim_inject (d : Document) (level : String) : Fed d level (d.inject level).trim where
  log := get?_trim_inject d level "log"
  stats := get?_trim_inject d level "stats"
  api := get?_trim_inject d level "api"
  others := by
    intro key hkey
    rw [get?_trim_inject, runtimeText?_eq_none_iff.2 hkey]
    rfl

theorem rendered_of_compact {text : Bytes} (h : (d.inject level).compact = .ok text) :
    rendered d level = .ok text := by
  rw [rendered, h]

theorem exists_rendered_eq_error_iff :
    (∃ e, rendered d level = .error e) ↔ ¬ (d.inject level).IsValid := by
  constructor
  · intro h hvalid
    obtain ⟨e, he⟩ := h
    rw [rendered_of_compact hvalid.compact_eq] at he
    cases he
  · intro h
    unfold IsValid at h
    push Not at h
    obtain ⟨e, he, hfault⟩ := h
    obtain ⟨key, -, herror⟩ := exists_rendered_eq_error (d.inject level).ascending
      ⟨e, he, Bool.eq_false_iff.2 hfault⟩
    refine ⟨.config (.invalidField key), ?_⟩
    rw [rendered, compact, herror]
    rfl

/-- Rendering fails exactly if a field that is not replaced is no JSON value. Otherwise what is fed is
read back with the objects of the program and with every other field, apart from white space around
it. What stood in place of the objects does not matter, and only the last level counts. -/
theorem feeds_stored_document (d : Document) (level : String) :
    ((∃ e, rendered d level = .error e) ↔ ∃ key raw, key ∉ runtimeKeys ∧ d.get? key = some raw ∧
      ¬ Json.SpacedText (Utf8.encode raw)) ∧
    (∀ text, rendered d level = .ok text → ∃ d', Document.ofBytes text = .ok d' ∧ Fed d level d') ∧
    (∀ d', (∀ key, key ∉ runtimeKeys → d'.get? key = d.get? key) →
      rendered d' level = rendered d level) ∧
    ∀ earlier, (d.inject earlier).inject level = d.inject level := by
  refine ⟨?_, ?_, ?_, fun earlier => inject_inject d earlier level⟩
  · rw [exists_rendered_eq_error_iff, isValid_inject_iff]
    simp only [Json.isValue_iff_spacedText]
    push Not
    rfl
  · intro text htext
    have hvalid : (d.inject level).IsValid := by
      by_contra hfault
      obtain ⟨e, he⟩ := exists_rendered_eq_error_iff.2 hfault
      cases he.symm.trans htext
    obtain ⟨fed, -, hcompact, -, hread, -⟩ := hvalid.readsBack
    cases (rendered_of_compact hcompact).symm.trans htext
    exact ⟨_, hread, fed_trim_inject d level⟩
  · intro d' h
    rw [rendered, rendered, inject_congr h]

/-- A document with white space around a list, and with an unfinished object where the log is set up. -/
def sampleSettings : Document := NameMap.ofList [("inbounds", " [] "), ("log", "\x7b")]

/-- The unfinished object is replaced, and its absence makes no difference. -/
theorem feeds_stored_document_brokenLog :
    (∃ text, rendered sampleSettings "trace" = .ok text ∧
      ∃ d', Document.ofBytes text = .ok d' ∧ Fed sampleSettings "trace" d') ∧
    rendered (NameMap.ofList [("inbounds", " [] ")]) "trace" = rendered sampleSettings "trace" := by
  have hentries : sampleSettings.entries = [("inbounds", " [] "), ("log", "\x7b")] := by
    decide +kernel
  have hlist : Json.SpacedText (Utf8.encode " [] ") :=
    ⟨[0x20], Bytes.ofAscii "[]", [0x20], by decide, .empty .list Json.blank_nil, by decide, rfl⟩
  constructor
  · cases hrendered : rendered sampleSettings "trace" with
    | ok text => exact ⟨text, rfl, (feeds_stored_document _ _).2.1 text hrendered⟩
    | error e =>
        obtain ⟨key, raw, hkey, hraw, hfault⟩ := (feeds_stored_document _ _).1.1 ⟨e, hrendered⟩
        rw [NameMap.get?_eq_some_iff, hentries, List.mem_cons, List.mem_singleton] at hraw
        rcases hraw with hraw | hraw
        · cases hraw
          exact absurd hlist hfault
        · cases hraw
          exact absurd (by decide) hkey
  · apply (feeds_stored_document _ _).2.2.1
    intro key hkey
    have hlog : key ≠ "log" := by
      rintro rfl
      exact hkey (by decide)
    have hinsert : sampleSettings =
        NameMap.insert (NameMap.ofList [("inbounds", " [] ")]) "log" "\x7b" :=
      NameMap.ofList_concat [_] _
    rw [hinsert, NameMap.get?_insert_of_ne _ hlog]

end Dispatch

end ProxyWarden
