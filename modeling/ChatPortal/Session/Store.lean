import ChatPortal.Calendar.Instant
import ChatPortal.Json.Decoder
import ChatPortal.Json.Printer
import ChatPortal.Place

/-!
# Stores for a credential

A `Store` keeps a credential while no session is running: in memory, in a file, or in a
keychain that forgets it.  `Store.load`, `Store.save` and `Store.remove` are what a
session does with it; an operation that fails changes nothing, and a credential that is
empty counts as none.
-/

namespace ChatPortal

/-- A credential as a file holds it, with the time at which it was written. -/
structure SavedToken where
  token : String
  savedAt : Calendar.Instant
deriving DecidableEq, Repr

namespace SavedToken

/-- A point of time in JSON. -/
def timeDecoder : Json.Decoder Calendar.Instant :=
  .parsed "an RFC 3339 formatted date and time string" fun text =>
    (Calendar.Instant.parse text.toList).mapError (·.message)

/-- What stands in a saved credential. -/
def fields : List (Json.Field SavedToken) :=
  [ .needed "token" .string fun token saved => { saved with token },
    .needed "saved_at" timeDecoder fun savedAt saved => { saved with savedAt } ]

/-- A saved credential in JSON. -/
def decoder : Json.Decoder SavedToken :=
  .record "StoredToken" ⟨"", ⟨0, 0, 0⟩⟩ fields

/-- The JSON of a saved credential. -/
def toJson (saved : SavedToken) : Json :=
  .object
    [ ("token", .string saved.token),
      ("saved_at", .string (String.ofList saved.savedAt.render)) ]

/-- The content of the file for a saved credential. -/
def file (saved : SavedToken) : Bytes :=
  Utf8.encode (Json.renderIndented 0 saved.toJson)

end SavedToken

namespace TokenFile

/-- Reads the credential in the text of a file. -/
def read (text : Bytes) : Except Trouble String :=
  match SavedToken.decoder.decode text with
  | .error failure => .error ⟨"Failed to parse token file", [failure.message text]⟩
  | .ok saved => .ok saved.token

/-- The credential in the file at a place, if something stands there. -/
def load (place : Place) : Except Trouble (Option String) :=
  if place.isTaken then
    match place.text with
    | .error trouble => .error (trouble.within "Failed to read token file")
    | .ok text => (read text).map some
  else
    .ok none

/-- The place after a credential was written to the file there. -/
def save (now : Calendar.Instant) (token : String) : Place → Except Trouble Place
  | .blocked => .error Place.fileExists
  | .directory => .error (Place.isDirectory.within "Failed to write token file")
  | .closed trouble => .error (trouble.within "Failed to write token file")
  | _ => .ok (.content (SavedToken.file ⟨token, now⟩))

/-- The place after the file was removed. -/
def remove : Place → Except Trouble Place
  | .directory => .error Place.isDirectory
  | .blocked => .ok .blocked
  | _ => .ok .absent

end TokenFile

/-- The operations of a store that fail. -/
structure Faults where
  load : Bool := false
  save : Bool := false
  remove : Bool := false
deriving DecidableEq, Repr

/-- A place where a credential outlives its session. -/
inductive Store where
  | memory (content : Option String) (faults : Faults)
  | keychain
  | file (place : Place)
deriving DecidableEq, Repr

namespace Store

/-- The credential, unless it is empty. -/
def nonempty (token : Option String) : Option String :=
  token.filter (· != "")

/-- The credential in the store. -/
def load : Store → Except Trouble (Option String)
  | .memory content faults =>
    if faults.load then .error ⟨"load failed", []⟩ else .ok (nonempty content)
  | .keychain => .ok none
  | .file place => (TokenFile.load place).map nonempty

/-- The store with another credential. -/
def save (now : Calendar.Instant) (token : String) : Store → Except Trouble Store
  | .memory _ faults =>
    if faults.save then .error ⟨"save failed", []⟩ else .ok (.memory (some token) faults)
  | .keychain => .ok .keychain
  | .file place => (TokenFile.save now token place).map .file

/-- The store without its credential. -/
def remove : Store → Except Trouble Store
  | .memory _ faults =>
    if faults.remove then .error ⟨"remove failed", []⟩ else .ok (.memory none faults)
  | .keychain => .ok .keychain
  | .file place => (TokenFile.remove place).map .file

/-- Saves a credential, or removes it if it is the empty one. -/
def write (now : Calendar.Instant) (token : String) (store : Store) : Except Trouble Store :=
  if token = "" then store.remove else store.save now token

/-- The store after somebody tried to write a credential to it. -/
def attempt (now : Calendar.Instant) (token : String) (store : Store) : Store :=
  match store.write now token with
  | .ok store => store
  | .error _ => store

end Store

end ChatPortal
