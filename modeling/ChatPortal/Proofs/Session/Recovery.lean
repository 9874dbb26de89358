import ChatPortal.Proofs.Json.Parts
import ChatPortal.Proofs.Session.Store

/-!
# What a file gives back

A place `Holds` a saved credential if the file there can be read as one, whoever wrote it
(`SavedToken.decode_eq_ok`).  Whatever stands at a place that can be written, a credential that is
saved there is loaded again, and a session that begins there and sets its credential leaves a file
that holds it (`Store.file_recovers`).
-/

namespace ChatPortal

open Json

namespace SavedToken

theorem timeDecoder_ofValue {v : Json} {t : Calendar.Instant} :
  timeDecoder.ofValue v = .ok t
    ↔ ∃ text : String, v = .string text ∧ Calendar.Instant.parse text.toList = .ok t
  := by
  rw [timeDecoder, Decoder.parsed_ofValue]
  simp only [Decoder.mapError_eq_ok]

/-- A point of time is taken as it is read. -/
theorem timeDecoder_agrees :
  timeDecoder.Agrees
  := by
  apply Decoder.leaf_agrees
  · intro items
    rfl
  · intro members
    rfl

/-- The parts of a saved credential. -/
def parts : List (RecordPart SavedToken) :=
  [ .needed "token" .string token fun token saved => { saved with token },
    .needed "saved_at" timeDecoder savedAt fun savedAt saved => { saved with savedAt } ]

theorem fields_eq :
  fields = parts.map RecordPart.field
  := rfl

/-- The parts make up a saved credential. -/
theorem isWhole_parts :
  IsWhole parts
  where
  get_put := by simp [parts, RecordPart.needed]
  apart := by simp [parts, RecordPart.needed, RecordPart.IsApart]
  nodup := by decide
  ext := by
    intro old new h
    cases old
    cases new
    simpa [parts, RecordPart.needed] using h

theorem parts_agree :
  ∀ part ∈ parts, part.decoder.Agrees
  := by
  simp only [parts, List.forall_mem_cons, RecordPart.agrees_needed, Decoder.string_agrees,
    timeDecoder_agrees, List.not_mem_nil, false_imp_iff, implies_true, and_true]

/-- The credential in the text of an object is the one that stands there. -/
theorem decode_eq_ok {text : Bytes} {members : List (String × Json)} {saved : SavedToken}
    (h : IsObject text members) :
  decoder.decode text = .ok saved
    ↔ valuesOf "token" members = [.string saved.token]
      ∧ ∃ time : String, valuesOf "saved_at" members = [.string time]
        ∧ Calendar.Instant.parse time.toList = .ok saved.savedAt
  := by
  rw [decoder, fields_eq, isWhole_parts.decode_eq_ok_of_agrees parts_agree h]
  simp only [parts, List.forall_mem_cons, List.not_mem_nil, false_imp_iff, implies_true, and_true,
    RecordPart.isFilled_needed, Decoder.string_ofValue, exists_eq_right, timeDecoder_ofValue]
  refine and_congr_right fun _ => ?_
  constructor
  · rintro ⟨v, hvalue, time, rfl, hparse⟩
    exact ⟨time, hvalue, hparse⟩
  · rintro ⟨time, hvalue, hparse⟩
    exact ⟨_, hvalue, time, rfl, hparse⟩

end SavedToken

/-- The file at a place is a saved credential in UTF-8. -/
inductive Place.Holds : Place → SavedToken → Prop
  | intro {content : Bytes} {saved : SavedToken} (htext : (textOf? content).isSome = true)
      (hdecode : SavedToken.decoder.decode content = .ok saved) :
      Place.Holds (.content content) saved

namespace TokenFile

/-- The credential at a place is the one in the file there. -/
theorem load_of_holds {place : Place} {saved : SavedToken} (h : place.Holds saved) :
  load place = .ok (some saved.token)
  := by
  obtain ⟨htext, hdecode⟩ := h
  simp only [load, Place.isTaken, Place.text, htext, read, hdecode, if_true]
  rfl

/-- A credential that is loaded from a place is in the file there. -/
theorem exists_holds {place : Place} {token : String} (h : load place = .ok (some token)) :
  ∃ saved, place.Holds saved ∧ saved.token = token
  := by
  cases place with
  | absent | closed _ | directory | blocked => cases h
  | content content =>
    cases htext : (textOf? content).isSome with
    | false => simp [load, Place.isTaken, Place.text, htext] at h
    | true =>
      cases hdecode : SavedToken.decoder.decode content with
      | error failure =>
        simp [load, Place.isTaken, Place.text, htext, read, hdecode, Except.map] at h
      | ok saved =>
        refine ⟨saved, .intro htext hdecode, ?_⟩
        simpa [load, Place.isTaken, Place.text, htext, read, hdecode, Except.map] using h

/-- A file holds what was saved to it. -/
theorem holds_file {now : Calendar.Instant} (h : now.IsTold) (token : String) :
  (Place.content (SavedToken.file ⟨token, now⟩)).Holds ⟨token, now⟩
  := .intro (by simp [textOf?, SavedToken.file]) (SavedToken.decode_file h)

end TokenFile

namespace Store

theorem initial_of_holds {place : Place} {saved : SavedToken} (h : place.Holds saved) :
  (file place).initial = saved.token
  := by
  rw [initial_eq_heldToken rfl, heldToken, held, TokenFile.load_of_holds h]

/-- A session begins with nothing if the file at a place holds no credential. -/
theorem initial_of_not_holds {place : Place} (h : ∀ saved, ¬ place.Holds saved) :
  (file place).initial = ""
  := by
  rw [initial_eq_heldToken rfl, heldToken, held]
  split
  · next hload =>
    obtain ⟨saved, hholds, -⟩ := TokenFile.exists_holds hload
    exact absurd hholds (h saved)
  · rfl

/-- Whatever stands at a place that can be written, a credential that was saved there is loaded by
every store at that place, and counts as none if it is empty; once removed there is none, also if
it is removed again.  A session that begins there has the credential that the file holds, and none
if the file holds none; when it sets another one the file holds that, or is gone if that is empty.
A file that is the text of an object holds the credential that stands there once, next to the time
at which it was saved. -/
theorem file_recovers (place : Place) (hplace : place.isUsable = true) (now : Calendar.Instant)
    (hnow : now.IsTold) (token : String) :
  (∃ content, (file place).save now token = .ok (file (.content content))
      ∧ (Place.content content).Holds ⟨token, now⟩
      ∧ (file (.content content)).load = .ok (if token = "" then none else some token))
    ∧ (file place).remove = .ok (file .absent)
    ∧ (file .absent).load = .ok none
    ∧ (file .absent).remove = .ok (file .absent)
    ∧ (∀ locale saved, place.Holds saved →
        (Account.onStore (file place) locale).session.credential = saved.token)
    ∧ (∀ locale, (∀ saved, ¬ place.Holds saved) →
        (Account.onStore (file place) locale).session.credential = "")
    ∧ (∀ account : Account, account.store = some (file place) →
        (account.setCredential now token).session.credential = token
          ∧ (token = "" → (account.setCredential now token).store = some (file .absent))
          ∧ (token ≠ "" → ∃ content,
            (account.setCredential now token).store = some (file (.content content))
              ∧ (Place.content content).Holds ⟨token, now⟩))
    ∧ (∀ (content : Bytes) (members : List (String × Json)) (saved : SavedToken),
        IsObject content members → (textOf? content).isSome = true →
        ((Place.content content).Holds saved
          ↔ valuesOf "token" members = [.string saved.token]
            ∧ ∃ time : String, valuesOf "saved_at" members = [.string time]
              ∧ Calendar.Instant.parse time.toList = .ok saved.savedAt))
  := by
  have hsave : (file place).save now token
      = .ok (file (.content (SavedToken.file ⟨token, now⟩))) := by
    cases place with
    | absent | content _ => rfl
    | closed _ | directory | blocked => cases hplace
  have hremove : (file place).remove = .ok (file .absent) := by
    cases place with
    | absent | content _ => rfl
    | closed _ | directory | blocked => cases hplace
  have hholds := TokenFile.holds_file hnow token
  refine ⟨⟨_, hsave, hholds, ?loaded⟩, hremove, rfl, rfl, ?held, ?unheld, ?sets, ?documents⟩
  case loaded =>
    rw [load, TokenFile.load_of_holds hholds]
    by_cases hempty : token = ""
    · subst hempty
      rfl
    · rw [if_neg hempty, Except.map, nonempty_some hempty]
  case held =>
    intro locale saved h
    exact initial_of_holds h
  case unheld =>
    intro locale h
    exact initial_of_not_holds h
  case sets =>
    intro account hstore
    refine ⟨rfl, ?_, ?_⟩
    · intro hempty
      rw [Account.setCredential, hstore, Option.map_some, attempt, write, if_pos hempty, hremove]
    · intro hempty
      refine ⟨_, ?_, hholds⟩
      rw [Account.setCredential, hstore, Option.map_some, attempt, write, if_neg hempty, hsave]
  case documents =>
    intro content members saved hobject htext
    rw [← SavedToken.decode_eq_ok hobject]
    constructor
    · rintro ⟨-, hdecode⟩
      exact hdecode
    · intro hdecode
      exact .intro htext hdecode

/-- A credential with a quote, a control character and a letter beyond the first plane, at a place
with a broken file. -/
theorem file_recovers_broken :
  let place : Place := .content [0x7B, 0xFF]
  let token := "\"\u0001😀"
  (∃ content, (file place).save ⟨0, 0, 0⟩ token = .ok (file (.content content))
      ∧ (file (.content content)).load = .ok (some token))
    ∧ (Account.onStore (file place) "en").session.credential = ""
    ∧ ∃ content, ((Account.onStore (file place) "en").setCredential ⟨0, 0, 0⟩ token).store
        = some (file (.content content))
      ∧ (Account.onStore (file (.content content)) "en").session.credential = token
  := by
  intro place token
  have hnow : Calendar.Instant.IsTold ⟨0, 0, 0⟩ := by decide
  obtain ⟨⟨content, hsave, hholds, hload⟩, -, -, -, -, hunheld, hsets, -⟩ :=
    file_recovers place rfl ⟨0, 0, 0⟩ hnow token
  have hbroken (saved : SavedToken) : ¬ (Place.content [0x7B, 0xFF]).Holds saved := by
    rintro ⟨htext, -⟩
    exact absurd htext (by decide +kernel)
  obtain ⟨-, -, hset⟩ := hsets (Account.onStore (file place) "en") rfl
  obtain ⟨written, hstore, hwritten⟩ := hset (by decide)
  obtain ⟨-, -, -, -, hheld, -⟩ := file_recovers (.content written) rfl ⟨0, 0, 0⟩ hnow token
  refine ⟨⟨content, hsave, ?_⟩, hunheld "en" hbroken, written, hstore, hheld "en" _ hwritten⟩
  rw [hload, if_neg (by decide)]

end Store

end ChatPortal
