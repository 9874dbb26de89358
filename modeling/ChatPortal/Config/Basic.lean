import ChatPortal.Config.Environment
import ChatPortal.Session.Basic

/-!
# The configuration

A `Config` says where the server is, how long to wait for it, in which locale to speak and
where to keep the credential.  `Config.decoder` reads it from a file in which each field
may be left out, and `Config.override` puts what the environment says in place of it.
-/

namespace ChatPortal

/-- Where the credential is kept. -/
inductive StoreKind where
  | file
  | keychain
  | memory
deriving DecidableEq, Repr

/-- The names of the places for a credential. -/
def StoreKind.names : List (String × StoreKind) :=
  [("file", .file), ("keyring", .keychain), ("memory", .memory)]

/-- The name of a place for a credential. -/
def StoreKind.name : StoreKind → String
  | .file => "file"
  | .keychain => "keyring"
  | .memory => "memory"

/-- The store in which a credential is kept, where `place` is the one of its file. -/
def StoreKind.store (place : Place) : StoreKind → Store
  | .file => .file place
  | .keychain => .keychain
  | .memory => .memory none {}

/-- A configuration, which begins with the settings of somebody who tries things out. -/
structure Config where
  baseUrl : String := "http://localhost:8000"
  timeoutSecs : Nat := 5
  locale : String := defaultLocale
  storeKind : StoreKind := .file
deriving DecidableEq, Repr, Inhabited

namespace Config

/-- A configuration in JSON; the fields that are left out have their first settings. -/
def decoder : Json.Decoder Config :=
  .record "Config" {}
    [ .optional "base_url" .string fun baseUrl config => { config with baseUrl },
      .optional "timeout_secs" .nat64 fun timeoutSecs config => { config with timeoutSecs },
      .optional "locale" .string fun locale config => { config with locale },
      .optional "token_store" (.choice StoreKind.names)
        fun storeKind config => { config with storeKind } ]

/-- The JSON of a configuration. -/
def toJson (config : Config) : Json :=
  .object
    [ ("base_url", .string config.baseUrl),
      ("locale", .string config.locale),
      ("timeout_secs", .int config.timeoutSecs),
      ("token_store", .string config.storeKind.name) ]

/-- The milliseconds after which a call is given up. -/
def timeoutMillis (config : Config) : Nat := config.timeoutSecs * 1000

/-- The name that overrides the address of the server. -/
def baseUrlName : String := "BANKBOT_API"

/-- The name that overrides the locale. -/
def localeName : String := "BANKBOT_LOCALE"

/-- The value that a name puts in place of another one; the empty one does not. -/
def overridden (environment : Environment) (name value : String) : String :=
  ((environment.get? name).filter (· != "")).getD value

/-- The configuration with what the environment says. -/
def override (environment : Environment) (config : Config) : Config :=
  { config with
    baseUrl := overridden environment baseUrlName config.baseUrl
    locale := overridden environment localeName config.locale }

/-! ### Files -/

/-- Reads the configuration in the file at a place; `path` is its name. -/
def read (path : String) (place : Place) : Except Trouble Config :=
  match place.text with
  | .error trouble => .error (trouble.within ("Failed to read config file " ++ path))
  | .ok text =>
    match decoder.decode text with
    | .error failure =>
      .error ⟨"Failed to parse config file " ++ path, [failure.message text]⟩
    | .ok config => .ok config

/-- The configuration of the program: the one in its file, if there is one, with what the
environment says. -/
def load (path : String) (place : Place) (environment : Environment) : Except Trouble Config :=
  if place.isTaken then (read path place).map (override environment)
  else .ok (override environment {})

end Config

end ChatPortal
