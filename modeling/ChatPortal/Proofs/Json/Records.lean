import ChatPortal.Json.Decoder
import ChatPortal.Proofs.Json.Strings

/-!
# Records are read back

What the reader of a record does on the text of an object, one member after the other
(`Decoder.readKeyed_cons`), and what it makes of the whole object (`Decoder.record_read`).
-/

namespace ChatPortal.Json

/-! ### Between the members -/

theorem skipBlanks_cons {b : UInt8} (h : Byte.isBlank b = false) (rest : Bytes) :
  skipBlanks (b :: rest) = b :: rest
  := List.dropWhile_cons_of_neg (by simp [h])

/-- A new line and its indentation are skipped. -/
theorem skipBlanks_newLine (indent : Nat) (rest : Bytes) :
  skipBlanks (Utf8.encode (newLine indent) ++ rest) = skipBlanks rest
  := by
  have hblanks (n : Nat) : skipBlanks (Utf8.encode (List.replicate n ' ') ++ rest)
      = skipBlanks rest := by
    induction n with
    | zero => rfl
    | succ n ih => exact ih
  exact hblanks (2 * indent)

theorem encode_quote (text : List Char) :
  Utf8.encode (quote text) = Byte.quote :: Utf8.encode (text.flatMap escape ++ ['"'])
  := rfl

theorem skipBlanks_line (indent : Nat) (text : String) (rest : Bytes) :
  skipBlanks (Utf8.encode (newLine indent) ++ (Utf8.encode (quote text.toList) ++ rest))
    = Byte.quote :: (Utf8.encode (text.toList.flatMap escape ++ ['"']) ++ rest)
  := by
  rw [skipBlanks_newLine, encode_quote, List.cons_append, skipBlanks_cons rfl]

theorem nextKey_first {text rest : Bytes} (h : skipBlanks text = Byte.quote :: rest) :
  nextKey true text = .ok (some rest)
  := by
  rw [nextKey, h]
  exact if_pos rfl

/-- Any other key stands behind a comma and blanks. -/
theorem nextKey_comma {text rest : Bytes} (h : skipBlanks text = Byte.quote :: rest) :
  nextKey false (Byte.comma :: text) = .ok (some rest)
  := by
  rw [nextKey, skipBlanks_cons rfl]
  split
  · next heq => cases heq
  · next heq => exact absurd (List.cons.inj heq).1 (by decide)
  · next heq =>
    obtain ⟨rfl, rfl⟩ := List.cons.inj heq
    rw [if_neg Bool.false_ne_true, if_pos rfl, h]
    rfl

theorem nextKey_closeBrace {first : Bool} {text rest : Bytes}
    (h : skipBlanks text = Byte.closeBrace :: rest) :
  nextKey first text = .ok none
  := by
  rw [nextKey, h]
  rfl

theorem closeObject_closeBrace {text rest : Bytes}
    (h : skipBlanks text = Byte.closeBrace :: rest) :
  closeObject text = (none, rest)
  := by
  rw [closeObject, h]
  rfl

theorem readColon_colon (rest : Bytes) :
  readColon (Byte.colon :: rest) = .ok rest
  := by
  rw [readColon, skipBlanks_cons rfl]
  rfl

/-! ### Values -/

/-- A string is a scalar. -/
theorem readScalar_quote (text : String) (rest : Bytes) :
  readScalar Byte.quote (Utf8.encode (text.toList.flatMap escape ++ ['"']) ++ rest)
    = some (.ok (.string text, rest))
  := by
  have hscalar (more : Bytes) : readScalar Byte.quote more
      = some ((readString more).map fun r => (.string r.1, r.2)) := rfl
  rw [hscalar, readString_quote]
  rfl

namespace Decoder

variable {α σ : Type}

/-- A scalar is read if it is accepted. -/
theorem leaf_read {expected : String} {accept : Acceptance α} {text rest left : Bytes}
    {b : UInt8} {v : Json} {a : α} (hblanks : skipBlanks text = b :: rest)
    (hscalar : readScalar b rest = some (.ok (v, left)))
    (haccept : accepted expected accept v = .ok a) (levels : Nat) :
  ((leaf expected accept).read levels).run text = .ok (a, left)
  := by
  rw [Reader.run, leaf]
  simp only
  split
  · next heq => cases hblanks.symm.trans heq
  · next heq =>
    cases hblanks.symm.trans heq
    split
    · next heq =>
      cases hscalar.symm.trans heq
      split
      · next heq =>
        cases haccept.symm.trans heq
        rfl
      · next heq => cases haccept.symm.trans heq
    · next hne => exact absurd hscalar (hne v left)

theorem leaf_read_quote {expected : String} {accept : Acceptance α} {text : String} {a : α}
    (haccept : accepted expected accept (.string text) = .ok a) (levels : Nat) (rest : Bytes) :
  ((leaf expected accept).read levels).run (0x20 :: (Utf8.encode (quote text.toList) ++ rest))
    = .ok (a, rest)
  := leaf_read (b := Byte.quote) rfl (readScalar_quote text rest) haccept levels

theorem map_read {β : Type} {f : α → β} {decoder : Decoder α} {levels : Nat} {text rest : Bytes}
    {a : α} (h : (decoder.read levels).run text = .ok (a, rest)) :
  ((decoder.map f).read levels).run text = .ok (f a, rest)
  := by
  obtain ⟨⟨r, hr⟩, hread, rfl⟩ := map_eq_ok h
  simp only [map, Reader.run, Reader.map, hread]
  rfl

/-- A member of an object is read into the field of its name. -/
theorem readKeyed_cons {fields : List (Field σ)} {levels : Nat} {first : Bool} {draft : Draft σ}
    {text start colon value left : Bytes} {key : String} {field : Field σ} {put : σ → σ}
    (hnext : nextKey first text = .ok (some start)) (hkey : readString start = .ok (key, colon))
    (hcolon : readColon colon = .ok value) (hfield : fields.find? (·.isNamed key) = some field)
    (hnew : draft.found.contains field.name = false)
    (hvalue : (field.value.read levels).run value = .ok (put, left)) :
  (readKeyed fields levels first draft text).map (·.val)
    = (readKeyed fields levels false (addField draft field put) left).map (·.val)
  := by
  obtain ⟨⟨r, hr⟩, hread, rfl⟩ := map_eq_ok hvalue
  rw [readKeyed]
  split
  · next heq => cases hnext.symm.trans heq
  · next heq => cases hnext.symm.trans heq
  · next heq =>
    cases hnext.symm.trans heq
    split
    · next heq => cases hkey.symm.trans heq
    · next heq =>
      cases hkey.symm.trans heq
      simp only [hfield, hnew]
      rw [if_neg Bool.false_ne_true]
      split
      · next heq => cases hcolon.symm.trans heq
      · next heq =>
        cases hcolon.symm.trans heq
        simp only [hread]
        cases readKeyed fields levels false (addField draft field put) left with
        | error failure => rfl
        | ok result => rfl

/-- The draft is as it was where an object ends. -/
theorem readKeyed_nil {fields : List (Field σ)} {levels : Nat} {first : Bool} {draft : Draft σ}
    {text : Bytes} (hnext : nextKey first text = .ok none) :
  (readKeyed fields levels first draft text).map (·.val) = .ok (draft, text)
  := by
  rw [readKeyed]
  split
  · next heq => cases hnext.symm.trans heq
  · rfl
  · next heq => cases hnext.symm.trans heq

/-- An object is read as the record of its members. -/
theorem record_read {type : String} {initial value : σ} {fields : List (Field σ)} {levels : Nat}
    {text rest after left : Bytes} {draft : Draft σ}
    (hopen : skipBlanks text = Byte.openBrace :: rest)
    (hmembers : (readKeyed fields levels true ⟨initial, []⟩ rest).map (·.val)
      = .ok (draft, after))
    (hfinish : finish fields draft = .ok value) (hclose : closeObject after = (none, left)) :
  ((record type initial fields).read (levels + 1)).run text = .ok (value, left)
  := by
  obtain ⟨⟨r, hr⟩, hread, rfl⟩ := map_eq_ok hmembers
  rw [Reader.run, record]
  simp only
  split
  · next heq => exact absurd (List.cons.inj (hopen.symm.trans heq)).1 (by decide)
  · next heq =>
    obtain ⟨-, rfl⟩ := List.cons.inj (hopen.symm.trans heq)
    simp only [hread]
    split
    · next hissue _ => cases hfinish.symm.trans hissue
    · next heq => cases hclose.symm.trans heq
    · next hvalue heq =>
      cases hfinish.symm.trans hvalue
      cases hclose.symm.trans heq
      rfl
  · next hne => exact absurd hopen (hne rest)

end Decoder

theorem Reader.document_of_run {α : Type} {reader : Reader α} {text rest : Bytes} {a : α}
    (h : reader.run text = .ok (a, rest)) (hrest : skipBlanks rest = []) :
  reader.document text = .ok a
  := by
  obtain ⟨⟨r, hr⟩, hread, rfl⟩ := map_eq_ok h
  simp only [document, hread, hrest]

end ChatPortal.Json
