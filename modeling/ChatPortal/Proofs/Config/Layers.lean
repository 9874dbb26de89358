import ChatPortal.Config.Basic
import ChatPortal.Proofs.Json.Agreement
import ChatPortal.Proofs.Json.Parts
import ChatPortal.Proofs.Json.Values

/-!
# The layers of a configuration

A configuration is read from the text of an object if it is the one that stands there, where every
field that is left out has its first setting (`Config.decode_eq_ok`).  The program goes by what its
environment says, then by its file, then by the first settings (`Config.load_layers`).
-/

namespace ChatPortal

open Json

namespace StoreKind

/-- A kind of store has one name. -/
theorem lookup_names {name : String} {kind : StoreKind} :
  names.lookup name = some kind ↔ name = kind.name
  := by
  constructor
  · intro h
    have hmem : (name, kind) ∈ names := by
      have := List.lookup_eq_some_iff.mp h
      grind
    simp only [names, List.mem_cons, Prod.mk.injEq, List.not_mem_nil, or_false] at hmem
    rcases hmem with ⟨rfl, rfl⟩ | ⟨rfl, rfl⟩ | ⟨rfl, rfl⟩
    · rfl
    · rfl
    · rfl
  · rintro rfl
    cases kind with
    | file | keychain | memory => rfl

theorem choice_ofValue {v : Json} {kind : StoreKind} (h : ∀ members, v ≠ .object members) :
  (Decoder.choice names).ofValue v = .ok kind ↔ v = .string kind.name
  := by
  simp only [Decoder.choice_ofValue h, lookup_names, exists_eq_right]

end StoreKind

namespace Config

/-! ### What stands in a file -/

/-- The parts of a configuration. -/
def parts : List (RecordPart Config) :=
  [ .optional "base_url" [] .string baseUrl fun baseUrl config => { config with baseUrl },
    .optional "timeout_secs" [] .nat64 timeoutSecs
      fun timeoutSecs config => { config with timeoutSecs },
    .optional "locale" [] .string locale fun locale config => { config with locale },
    .optional "token_store" [] (.choice StoreKind.names) storeKind
      fun storeKind config => { config with storeKind } ]

theorem decoder_eq :
  decoder = .record "Config" {} (parts.map RecordPart.field)
  := rfl

/-- The parts make up a configuration. -/
theorem isWhole_parts :
  IsWhole parts
  where
  get_put := by simp [parts, RecordPart.optional]
  apart := by simp [parts, RecordPart.optional, RecordPart.IsApart]
  nodup := by decide
  ext := by
    intro old new h
    cases old
    cases new
    simpa [parts, RecordPart.optional] using h

/-- The members of the JSON of a configuration. -/
def settings (config : Config) : List (String × Json) :=
  [ ("base_url", .string config.baseUrl),
    ("locale", .string config.locale),
    ("timeout_secs", .int config.timeoutSecs),
    ("token_store", .string config.storeKind.name) ]

/-- Under a key stands a value alone, or nothing, where it goes without saying. -/
def Stands (key : String) (v : Json) (members : List (String × Json)) (silently : Prop) : Prop :=
  valuesOf key members = [v] ∨ (valuesOf key members = [] ∧ silently)

/-- The settings of a configuration stand among some members, where the first settings may be left
out. -/
structure StandsIn (config : Config) (members : List (String × Json)) : Prop where
  baseUrl : Stands "base_url" (.string config.baseUrl) members
    (config.baseUrl = "http://localhost:8000")
  timeoutSecs : Stands "timeout_secs" (.int config.timeoutSecs) members (config.timeoutSecs = 5)
  locale : Stands "locale" (.string config.locale) members (config.locale = "zh")
  storeKind : Stands "token_store" (.string config.storeKind.name) members
    (config.storeKind = .file)
  isNat64 : config.timeoutSecs ≤ 0xFFFFFFFFFFFFFFFF

/-- A number of at most 64 bits is taken from what it is. -/
theorem nat64_ofValue {v : Json} {n : Nat} :
  Decoder.nat64.ofValue v = .ok n ↔ v = .int n ∧ n ≤ 0xFFFFFFFFFFFFFFFF
  := by
  rw [Decoder.nat64, Decoder.map_ofValue_eq_ok]
  simp only [Decoder.integer_ofValue]
  constructor
  · rintro ⟨i, ⟨rfl, hlow, hhigh⟩, rfl⟩
    rw [Int.toNat_of_nonneg hlow]
    exact ⟨rfl, by omega⟩
  · rintro ⟨rfl, hhigh⟩
    exact ⟨n, ⟨rfl, by omega, by omega⟩, rfl⟩

/-- A number of at most 64 bits is taken from what stands alone. -/
theorem sole_nat64 {values : List Json} {n : Nat} :
  (∃ v, values = [v] ∧ Decoder.nat64.ofValue v = .ok n)
    ↔ values = [.int n] ∧ n ≤ 0xFFFFFFFFFFFFFFFF
  := by
  simp only [nat64_ofValue]
  constructor
  · rintro ⟨v, hvalue, rfl, hbound⟩
    exact ⟨hvalue, hbound⟩
  · rintro ⟨hvalue, hbound⟩
    exact ⟨_, hvalue, rfl, hbound⟩

/-- A kind of store is taken from what stands alone, if that is no object. -/
theorem sole_storeKind {values : List Json} {kind : StoreKind}
    (h : ∀ v ∈ values, ∀ inner, v ≠ .object inner) :
  (∃ v, values = [v] ∧ (Decoder.choice StoreKind.names).ofValue v = .ok kind)
    ↔ values = [.string kind.name]
  := by
  constructor
  · rintro ⟨v, rfl, hvalue⟩
    rw [(StoreKind.choice_ofValue (h v (List.mem_singleton_self v))).mp hvalue]
  · rintro rfl
    exact ⟨_, rfl, (StoreKind.choice_ofValue (h _ (List.mem_singleton_self _))).mpr rfl⟩

/-- Every part is filled if the settings stand among the members, unless the kind of store is
written as an object. -/
theorem isFilled_parts {members : List (String × Json)} {config : Config}
    (hkind : ∀ v ∈ valuesOf "token_store" members, ∀ inner, v ≠ .object inner) :
  (∀ part ∈ parts, part.IsFilled [] {} members config) ↔ config.StandsIn members
  := by
  simp only [parts, List.forall_mem_cons, List.not_mem_nil, false_imp_iff, implies_true, and_true,
    RecordPart.isFilled_optional, valuesUnder_singleton, Decoder.string_ofValue, exists_eq_right,
    sole_nat64, sole_storeKind hkind]
  constructor
  · rintro ⟨hbaseUrl, htimeout, hlocale, hstore⟩
    rcases htimeout with ⟨htimeout, hbound⟩ | ⟨hnone, hfirst⟩
    · exact ⟨hbaseUrl, .inl htimeout, hlocale, hstore, hbound⟩
    · exact ⟨hbaseUrl, .inr ⟨hnone, hfirst⟩, hlocale, hstore, by rw [hfirst]; decide⟩
  · rintro ⟨hbaseUrl, htimeout, hlocale, hstore, hbound⟩
    exact ⟨hbaseUrl, htimeout.imp_left fun h => ⟨h, hbound⟩, hlocale, hstore⟩

/-- A part is read as it is taken, unless the kind of store is written as an object. -/
theorem agreesOn_parts {members : List (String × Json)}
    (hkind : ∀ v ∈ valuesOf "token_store" members, ∀ inner, v ≠ .object inner)
    {m : String × Json} (hm : m ∈ members) :
  ∀ part ∈ parts, m.1 ∈ part.names → part.decoder.AgreesOn m.2
  := by
  have hstore (hname : m.1 ∈ ["token_store"]) : (Decoder.choice StoreKind.names).AgreesOn m.2 := by
    have hkey : m.1 = "token_store" := List.mem_singleton.mp hname
    have hvalue : m.2 ∈ valuesOf "token_store" members :=
      List.mem_map_of_mem (List.mem_filter.mpr ⟨hm, beq_iff_eq.mpr hkey⟩)
    intro levels text rest
    exact Decoder.choice_agreesOn (hkind m.2 hvalue)
  simp only [parts, List.forall_mem_cons, List.not_mem_nil, false_imp_iff, implies_true, and_true]
  exact ⟨fun _ => Decoder.Agrees.on Decoder.string_agrees m.2,
    fun _ => Decoder.Agrees.on Decoder.nat64_agrees m.2,
    fun _ => Decoder.Agrees.on Decoder.string_agrees m.2, hstore⟩

theorem decode_eq_ok {text : Bytes} {members : List (String × Json)} {config : Config}
    (h : IsObject text members)
    (hkind : ∀ v ∈ valuesOf "token_store" members, ∀ inner, v ≠ .object inner) :
  decoder.decode text = .ok config ↔ config.StandsIn members
  := by
  rw [decoder_eq, isWhole_parts.decode_eq_ok (fun _ => agreesOn_parts hkind) h,
    isFilled_parts hkind]

/-! ### What prevails -/

/-- What a setting is in the end: what the environment says, or else, where it says nothing or the
empty text, what was set before. -/
inductive Prevails (said : Option String) (before : String) : String → Prop
  | said {value : String} (hsaid : said = some value) (hvalue : value ≠ "") :
      Prevails said before value
  | before (hsaid : said = none ∨ said = some "") : Prevails said before before

/-- One setting prevails. -/
theorem prevails_iff {environment : Environment} {name before value : String} :
  Prevails (environment.get? name) before value ↔ value = overridden environment name before
  := by
  rw [overridden]
  constructor
  · rintro (⟨hsaid, hvalue⟩ | ⟨hsaid | hsaid⟩)
    · rw [hsaid, Option.filter_some_pos (by simpa using hvalue)]
      rfl
    · rw [hsaid]
      rfl
    · rw [hsaid]
      rfl
  · rintro rfl
    rcases hsaid : environment.get? name with - | said
    · exact .before (.inl rfl)
    · by_cases hempty : said = ""
      · subst hempty
        exact .before (.inr rfl)
      · rw [Option.filter_some_pos (by simpa using hempty)]
        exact .said rfl hempty

/-- What the environment says twice is said once. -/
theorem override_override (environment : Environment) (config : Config) :
  override environment (override environment config) = override environment config
  := by
  have htwice (name value : String) : overridden environment name
      (overridden environment name value) = overridden environment name value := by
    rw [overridden, overridden]
    cases (environment.get? name).filter (· != "") with
    | none => rfl
    | some _ => rfl
  simp only [override, htwice]

/-! ### What is loaded -/

/-- The configuration with some of the settings of another one, and the first settings
otherwise. -/
def only (given : List String) (config : Config) : Config where
  baseUrl := if "base_url" ∈ given then config.baseUrl else "http://localhost:8000"
  timeoutSecs := if "timeout_secs" ∈ given then config.timeoutSecs else 5
  locale := if "locale" ∈ given then config.locale else "zh"
  storeKind := if "token_store" ∈ given then config.storeKind else .file

/-- Among the members stand some of the settings of a configuration, each once, and anything under
other keys. -/
def HasOnly (given : List String) (config : Config) (members : List (String × Json)) : Prop :=
  ∀ setting ∈ config.settings,
    valuesOf setting.1 members = if setting.1 ∈ given then [setting.2] else []

/-- A value that is given stands under its key, and where it is not, the first one goes without
saying. -/
theorem stands_of_given {α : Type} (toJson : α → Json) {key : String} {given : List String}
    {value first : α} {members : List (String × Json)}
    (h : valuesOf key members = if key ∈ given then [toJson value] else []) :
  Stands key (toJson (if key ∈ given then value else first)) members
    ((if key ∈ given then value else first) = first)
  := by
  by_cases hgiven : key ∈ given
  · rw [if_pos hgiven] at h
    rw [if_pos hgiven]
    exact .inl h
  · rw [if_neg hgiven] at h
    rw [if_neg hgiven]
    exact .inr ⟨h, rfl⟩

/-- Where some settings stand, the others are the first ones. -/
theorem HasOnly.standsIn {given : List String} {config : Config} {members : List (String × Json)}
    (h : config.HasOnly given members) (hbound : config.timeoutSecs ≤ 0xFFFFFFFFFFFFFFFF) :
  (config.only given).StandsIn members
  := by
  simp only [HasOnly, settings, List.forall_mem_cons] at h
  obtain ⟨hbaseUrl, hlocale, htimeout, hstore, -⟩ := h
  refine ⟨stands_of_given .string hbaseUrl, stands_of_given (fun n : Nat => .int n) htimeout,
    stands_of_given .string hlocale,
    stands_of_given (fun kind : StoreKind => .string kind.name) hstore, ?_⟩
  show (if "timeout_secs" ∈ given then config.timeoutSecs else 5) ≤ _
  split
  · exact hbound
  · decide

/-- What is given under the key of the store is no object. -/
theorem HasOnly.not_object {given : List String} {config : Config}
    {members : List (String × Json)} (h : config.HasOnly given members) :
  ∀ v ∈ valuesOf "token_store" members, ∀ inner, v ≠ .object inner
  := by
  intro v hv inner
  rw [h ("token_store", .string config.storeKind.name) (by simp [settings])] at hv
  split at hv
  · rw [List.mem_singleton.mp hv]
    nofun
  · cases hv

/-- A configuration is read from a file if it is read from its text. -/
theorem read_content {path : String} {text : Bytes} {config : Config}
    (htext : (textOf? text).isSome = true) :
  read path (.content text) = .ok config ↔ decoder.decode text = .ok config
  := by
  rw [read, Place.text, if_pos htext]
  simp only
  cases decoder.decode text with
  | error _ => simp
  | ok _ => simp

/-- What is loaded from a configuration that is the one in the file, or the first one where there is
no file. -/
theorem load_eq_ok {path : String} {place : Place} {base : Config}
    (h : if place.isTaken = true then read path place = .ok base else base = {})
    (environment : Environment) :
  load path place environment = .ok (override environment base)
  := by
  rw [load]
  split at h
  · next htaken =>
    rw [if_pos htaken, h]
    rfl
  · next hfree => rw [if_neg hfree, h]

/-- From the text of an object that has some settings of a configuration, in any order and among
anything else, these are read, and the first settings otherwise; a configuration is read from an
object only if it stands there.  The environment prevails over what is read from the file, and that
over the first settings, for the address and for the locale, each on its own; the number of seconds
and the kind of store do not depend on the environment.  What the environment says twice is said
once.  Where no configuration is read from what is there, loading fails in the same way whatever the
environment says. -/
theorem load_layers (path : String) :
  (∀ (config : Config) (given : List String) (members : List (String × Json)) (text : Bytes),
      config.timeoutSecs ≤ 0xFFFFFFFFFFFFFFFF → config.HasOnly given members →
      IsObject text members → (textOf? text).isSome = true →
      read path (.content text) = .ok (config.only given))
    ∧ (∀ (members : List (String × Json)) (text : Bytes), IsObject text members →
      (textOf? text).isSome = true →
      (∀ v ∈ valuesOf "token_store" members, ∀ inner, v ≠ .object inner) →
      ∀ config, read path (.content text) = .ok config ↔ config.StandsIn members)
    ∧ (∀ (place : Place) (base : Config) (environment : Environment),
      (if place.isTaken = true then read path place = .ok base else base = {}) →
      ∃ config, load path place environment = .ok config
        ∧ Prevails (environment.get? "BANKBOT_API") base.baseUrl config.baseUrl
        ∧ Prevails (environment.get? "BANKBOT_LOCALE") base.locale config.locale
        ∧ config.timeoutSecs = base.timeoutSecs
        ∧ config.storeKind = base.storeKind)
    ∧ (∀ (environment : Environment) (config : Config),
      override environment (override environment config) = override environment config)
    ∧ (∀ place : Place, place.isTaken = true → (∀ config, read path place ≠ .ok config) →
      ∃ trouble, read path place = .error trouble
        ∧ ∀ environment, load path place environment = .error trouble)
  := by
  refine ⟨?given, ?valid, ?prevails, override_override, ?refused⟩
  case given =>
    intro config given members text hbound hgiven hobject htext
    exact (read_content htext).mpr
      ((decode_eq_ok hobject hgiven.not_object).mpr (hgiven.standsIn hbound))
  case valid =>
    intro members text hobject htext hkind config
    exact (read_content htext).trans (decode_eq_ok hobject hkind)
  case prevails =>
    intro place base environment h
    exact ⟨_, load_eq_ok h environment, prevails_iff.mpr rfl, prevails_iff.mpr rfl, rfl, rfl⟩
  case refused =>
    intro place htaken hrefused
    cases hread : read path place with
    | ok config => exact absurd hread (hrefused config)
    | error trouble =>
      refine ⟨trouble, rfl, fun environment => ?_⟩
      rw [load, if_pos htaken, hread]
      rfl

/-- A file with two settings in another order and something else, whose locale the environment
overrides while its address is empty there, and a file with a text for a number. -/
theorem load_layers_of_two_settings :
  let file := bytesOf (Json.object [("timeout_secs", .int 0xFFFFFFFFFFFFFFFF),
    ("theme", .array [.string "dark"]), ("base_url", .string "https://bank.example")]).text
  let broken := bytesOf (Json.object [("timeout_secs", .string "5")]).text
  let environment : Environment := [("BANKBOT_API", ""), ("BANKBOT_LOCALE", "en-US")]
  let config : Config :=
    { baseUrl := "https://bank.example", timeoutSecs := 0xFFFFFFFFFFFFFFFF }
  read "config.json" (.content file) = .ok config
    ∧ load "config.json" (.content file) environment = .ok { config with locale := "en-US" }
    ∧ ∃ trouble, ∀ environment, load "config.json" (.content broken) environment = .error trouble
  := by
  intro file broken environment config
  obtain ⟨hgiven, hvalid, hprevails, -, hrefused⟩ := load_layers "config.json"
  have hread : read "config.json" (.content file) = .ok config := by
    refine hgiven config ["base_url", "timeout_secs"] _ file (by decide) ?_ (isObject_text ?_)
      (by rw [textOf?_bytesOf]; rfl)
    · simp [HasOnly, settings, valuesOf, config]
    · simp only [List.forall_mem_cons, List.not_mem_nil, false_imp_iff, implies_true, and_true]
      refine ⟨⟨.int (by decide) (by decide), by decide⟩, ⟨.array ?_, by decide⟩, .string _,
        by decide⟩
      simpa using IsExact.string "dark"
  refine ⟨hread, ?_, ?_⟩
  · obtain ⟨loaded, hloaded, hbaseUrl, hlocale, htimeout, hstore⟩ :=
      hprevails (.content file) config environment hread
    have hbefore : loaded.baseUrl = "https://bank.example" := prevails_iff.mp hbaseUrl
    have hsaid : loaded.locale = "en-US" := prevails_iff.mp hlocale
    rw [hloaded]
    cases loaded
    cases hbefore
    cases hsaid
    cases htimeout
    cases hstore
    rfl
  · have hnone : ∀ config, read "config.json" (.content broken) ≠ .ok config := by
      intro config hconfig
      have hobject : IsObject broken [("timeout_secs", .string "5")] :=
        isObject_text (by simpa using ⟨IsExact.string "5", by decide⟩)
      have hstands := ((hvalid _ broken hobject (by rw [textOf?_bytesOf]; rfl)
        (by simp [valuesOf])) config).mp hconfig
      have hnumber : Json.string "5" = .int config.timeoutSecs := by
        simpa [Stands, valuesOf] using hstands.timeoutSecs
      cases hnumber
    obtain ⟨trouble, -, hload⟩ := hrefused (.content broken) rfl hnone
    exact ⟨trouble, hload⟩

end Config

end ChatPortal
