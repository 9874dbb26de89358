import ChatPortal.Proofs.Client.Credential
import ChatPortal.Proofs.Text.Utf8

/-!
# Values that are read can be sent

A credential that a reply grants is visible ASCII, so it consists of the bytes of the header
field that it was read from (`Http.bytesOf_of_legible`), and it can be sent in a header field
again (`Client.isSendable_of_grant`).
-/

namespace ChatPortal

namespace Http

/-- Each byte of the text is a tab, or at least 32 and not 127. -/
def Sendable (text : String) : Prop :=
  ∀ byte ∈ bytesOf text, byte = 9 ∨ 32 ≤ byte ∧ byte ≠ 127

/-- A text can be sent in a header field if all its bytes can. -/
theorem isSendable_iff {text : String} :
  isSendable text = true ↔ Sendable text
  := by
  rw [isSendable, List.all_eq_true, Sendable]
  apply forall₂_congr
  intro byte _
  rw [isSendableByte, Bool.or_eq_true, Bool.and_eq_true, decide_eq_true_iff, bne_iff_ne,
    beq_iff_eq, or_comm]

theorem all_isLegibleByte {value : Bytes} :
  value.all isLegibleByte = true ↔ ∀ byte ∈ value, byte = 9 ∨ 32 ≤ byte ∧ byte < 127
  := by
  rw [List.all_eq_true]
  apply forall₂_congr
  intro byte _
  rw [isLegibleByte, Bool.or_eq_true, Bool.and_eq_true, decide_eq_true_iff, decide_eq_true_iff,
    beq_iff_eq, or_comm]

/-- A legible byte is ASCII, and it can be sent. -/
theorem isSendableByte_of_legible {b : UInt8} (h : isLegibleByte b = true) :
  b.toNat < 0x80 ∧ isSendableByte b = true
  := by
  have hnat : (0x20 ≤ b.toNat ∧ b.toNat < 0x7F) ∨ b.toNat = 0x09 := by
    simpa [isLegibleByte, UInt8.le_iff_toNat_le, UInt8.lt_iff_toNat_lt, ← UInt8.toNat_inj] using h
  refine ⟨by omega, ?_⟩
  have hsends : (0x20 ≤ b.toNat ∧ b.toNat ≠ 0x7F) ∨ b.toNat = 0x09 := by omega
  simpa [isSendableByte, UInt8.le_iff_toNat_le, ← UInt8.toNat_inj] using hsends

/-- The text of a legible value consists of the bytes of the value. -/
theorem bytesOf_of_legible {value : Bytes} {text : String} (h : legible? value = some text) :
  bytesOf text = value
  := by
  rw [legible?] at h
  split at h
  · next hlegible =>
    obtain rfl := Option.some.inj h
    have hbyte (b : UInt8) (hb : b ∈ value) :
        String.utf8EncodeChar (Char.ofNat b.toNat) = [b] := by
      obtain ⟨hascii, -⟩ := isSendableByte_of_legible (List.all_eq_true.mp hlegible b hb)
      have hnat : (Char.ofNat b.toNat).toNat = b.toNat := by
        rw [Char.ofNat, dif_pos (.inl (by omega))]
        rfl
      rw [Utf8.utf8EncodeChar_ascii (by omega), hnat, UInt8.ofNat_toNat]
    rw [bytesOf, String.toList_ofList, Utf8.encode, List.flatMap_map]
    rw [List.flatMap_def, List.map_congr_left hbyte, ← List.flatMap_def, List.flatMap_singleton']
  · cases h

/-- A legible value can be sent. -/
theorem isSendable_of_legible {value : Bytes} {text : String} (h : legible? value = some text) :
  isSendable text = true
  := by
  rw [isSendable, bytesOf_of_legible h, List.all_eq_true]
  intro b hb
  rw [legible?] at h
  split at h
  · next hlegible => exact (isSendableByte_of_legible (List.all_eq_true.mp hlegible b hb)).2
  · cases h

end Http

/-- A credential that a reply grants can be sent. -/
theorem Client.isSendable_of_grant {arrival : Gateway.Arrival} {token : String}
    (h : Client.grant? arrival = some token) :
  Http.isSendable token = true
  := by
  obtain ⟨-, -, value, -, -, -, -, hlegible, -⟩ := grant?_eq_some.mp h
  exact Http.isSendable_of_legible hlegible

end ChatPortal
