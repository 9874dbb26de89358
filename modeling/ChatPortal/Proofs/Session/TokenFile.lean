import ChatPortal.Proofs.Calendar.Instant
import ChatPortal.Proofs.Json.Records
import ChatPortal.Session.Store

/-!
# Credentials are read back from their file

`TokenFile.read` finds the credential in what was written for it, whatever credential it is and
whenever it was written (`TokenFile.read_file`), so a place to which a credential was saved
holds that credential (`TokenFile.load_file`).
-/

namespace ChatPortal

open Json

/-- The content of the file, line by line. -/
theorem SavedToken.file_eq (saved : SavedToken) :
  saved.file
    = Byte.openBrace :: (Utf8.encode (newLine 1) ++ (Utf8.encode (quote "token".toList)
      ++ Byte.colon :: 0x20 :: (Utf8.encode (quote saved.token.toList)
      ++ Byte.comma :: (Utf8.encode (newLine 1) ++ (Utf8.encode (quote "saved_at".toList)
      ++ Byte.colon :: 0x20 ::
        (Utf8.encode (quote (String.ofList saved.savedAt.render).toList)
      ++ (Utf8.encode (newLine 0) ++ [Byte.closeBrace])))))))
  := by
  simp only [file, toJson, renderIndented, renderMoreMembersIndented, Utf8.encode_cons,
    Utf8.encode_append, Utf8.encode_nil, List.append_assoc, List.cons_append, List.nil_append,
    List.append_nil, Nat.zero_add]
  rfl

/-- The time at which a credential was saved is read. -/
theorem SavedToken.timeDecoder_read {t : Calendar.Instant} (h : t.IsTold) (levels : Nat)
    (rest : Bytes) :
  (timeDecoder.read levels).run
      (0x20 :: (Utf8.encode (quote (String.ofList t.render).toList) ++ rest))
    = .ok (t, rest)
  := by
  apply Decoder.leaf_read_quote
  simp only [Decoder.accepted, String.toList_ofList, Calendar.Instant.parse_render h]
  rfl

/-- The file is decoded as what was saved. -/
theorem SavedToken.decode_file {saved : SavedToken} (h : saved.savedAt.IsTold) :
  decoder.decode saved.file = .ok saved
  := by
  have hend : skipBlanks (Utf8.encode (newLine 0) ++ [Byte.closeBrace]) = [Byte.closeBrace] := rfl
  have hread : (decoder.read maxLevels).run saved.file = .ok (saved, []) := by
    rw [file_eq]
    apply Decoder.record_read rfl ?members ?finish (closeObject_closeBrace hend)
    case members =>
      refine Eq.trans (Decoder.readKeyed_cons (nextKey_first (skipBlanks_line _ _ _))
        (readString_quote _ _) (readColon_colon _) rfl rfl
        (Decoder.map_read (Decoder.leaf_read_quote rfl _ _))) ?_
      refine Eq.trans (Decoder.readKeyed_cons (nextKey_comma (skipBlanks_line _ _ _))
        (readString_quote _ _) (readColon_colon _) rfl rfl
        (Decoder.map_read (timeDecoder_read h _ _))) ?_
      exact Decoder.readKeyed_nil (nextKey_closeBrace hend)
    case finish => rfl
  exact Reader.document_of_run hread rfl

namespace TokenFile

theorem read_file {now : Calendar.Instant} (h : now.IsTold) (token : String) :
  read (SavedToken.file ⟨token, now⟩) = .ok token
  := by
  rw [read, SavedToken.decode_file h]

/-- The credential at a place is the one that was saved there. -/
theorem load_file {now : Calendar.Instant} (h : now.IsTold) (token : String) :
  load (.content (SavedToken.file ⟨token, now⟩)) = .ok (some token)
  := by
  have htext : (textOf? (SavedToken.file ⟨token, now⟩)).isSome = true := by
    simp [textOf?, SavedToken.file]
  simp only [load, Place.isTaken, Place.text, htext, read_file h, if_true]
  rfl

end TokenFile

end ChatPortal
