import ChatPortal.Proofs.Json.Integers
import ChatPortal.Proofs.Json.Reading
import Mathlib.Data.List.DropRight

/-!
# What is read can be passed over

Where the reader of values takes a value, `skipValue` passes over the same bytes
(`skipValue_of_read`), so members that nobody asks for do not get in the way of the others.
`skipValue` keeps the arrays and objects that it is in on a stack of its own; what it does within
one of them is proved for any stack below.
-/

namespace ChatPortal.Json

/-! ### Strings and numbers -/

/-- A backslash and what stands behind it are passed over. -/
theorem skipQuoted_backslash {text more : Bytes} (h : skipEscape text = .ok more) :
  skipQuoted (Byte.backslash :: text) = skipQuoted more
  := by
  rw [skipQuoted, if_neg (by decide), if_pos rfl]
  split
  · next heq => cases h.symm.trans heq
  · next heq => cases h.symm.trans heq; rfl

/-- A character given by its number can be passed over; of a pair of surrogates first one half
is, and then the other. -/
theorem skipQuoted_of_readNumbered {text out rest : Bytes}
    (h : readNumbered text = .ok (out, rest)) :
  skipQuoted (Byte.backslash :: Byte.letter 'u' :: text) = skipQuoted rest
  := by
  have hskip {text rest : Bytes} {code : Nat} (h : readHex text = .ok (code, rest)) :
      skipQuoted (Byte.backslash :: Byte.letter 'u' :: text) = skipQuoted rest := by
    apply skipQuoted_backslash
    rw [skipEscape, h]
    rfl
  rw [readNumbered] at h
  split at h
  · cases h
  · next hfirst =>
    rw [hskip hfirst]
    split at h
    · cases h
    · split at h
      · cases h
        rfl
      · split at h
        · cases h
        · next hlow =>
          cases h
          rw [readLowSurrogate.eq_def] at hlow
          split at hlow
          · cases hlow
          · split at hlow
            · cases hlow
            · next hslash =>
              split at hlow
              · cases hlow
              · split at hlow
                · cases hlow
                · next hletter =>
                  split at hlow
                  · cases hlow
                  · next hsecond =>
                    split at hlow
                    · cases hlow
                    · cases hlow
                      rw [Classical.not_not.mp hslash, Classical.not_not.mp hletter]
                      exact hskip hsecond

/-- An escape that is read can be passed over. -/
theorem skipQuoted_of_readEscape {text out rest : Bytes} (h : readEscape text = .ok (out, rest)) :
  skipQuoted (Byte.backslash :: text) = skipQuoted rest
  := by
  rw [readEscape.eq_def] at h
  split at h
  · cases h
  · split at h
    · next hletter =>
      cases h
      apply skipQuoted_backslash
      rw [skipEscape, hletter]
      rfl
    · split at h
      · next hu =>
        subst hu
        exact skipQuoted_of_readNumbered h
      · cases h

/-- A string that is read can be passed over. -/
theorem skipQuoted_of_readQuoted {text out rest : Bytes} (h : readQuoted text = .ok (out, rest)) :
  skipQuoted text = .ok rest
  := by
  fun_induction readQuoted text generalizing out rest with
  | case1 => cases h
  | case2 text =>
    cases h
    rw [skipQuoted, if_pos rfl]
  | case3 => cases h
  | case4 => cases h
  | case5 text out left hescape more rest hmore hslash ih =>
    cases h
    rw [skipQuoted_of_readEscape hescape, ih hmore]
  | case6 => cases h
  | case7 => cases h
  | case8 b text hquote hslash hcontrol more left hmore ih =>
    cases h
    rw [skipQuoted, if_neg hquote, if_neg hslash, if_neg hcontrol, ih hmore]

/-- The sign of a numeral does not matter for what stands behind it. -/
theorem readNumeral_unsigned {negative : Bool} {text rest : Bytes} {numeral : Numeral}
    (h : readNumeral negative text = .ok (numeral, rest)) :
  ∃ unsigned, readNumeral false text = .ok (unsigned, rest)
  := by
  rw [readNumeral] at h
  split at h
  · cases h
  · next hwhole =>
    split at h
    · cases h
    · next hfraction =>
      split at h
      · cases h
      · next hexponent =>
        cases h
        simp only [readNumeral, hwhole, hfraction, hexponent]
        exact ⟨_, rfl⟩

/-- A number that is read can be passed over. -/
theorem skipNumeral_of_readNumber {negative : Bool} {text rest : Bytes} {n : JsonNumber}
    (h : readNumber negative text = .ok (n, rest)) :
  skipNumeral text = .ok rest
  := by
  rw [readNumber] at h
  split at h
  · cases h
  · next hread =>
    split at h
    · cases h
    · cases h
      obtain ⟨unsigned, hunsigned⟩ := readNumeral_unsigned hread
      rw [skipNumeral, hunsigned]

/-- A scalar that is read can be passed over. -/
theorem skipScalar_of_scalarRead {b : UInt8} {rest left : Bytes} {v : Json}
    (h : ScalarRead b rest left v) :
  skipScalar b rest = some (.ok left)
  := by
  cases h with
  | null hb h | true hb h | false hb h =>
    subst hb
    exact congrArg some h
  | negative hb h =>
    subst hb
    exact congrArg some (skipNumeral_of_readNumber h)
  | number hb h =>
    rw [skipScalar, if_neg (ne_of_digit hb rfl), if_neg (ne_of_digit hb rfl),
      if_neg (ne_of_digit hb rfl), if_neg (ne_of_digit hb rfl), if_pos hb,
      skipNumeral_of_readNumber h]
  | string hb h =>
    subst hb
    rw [readString] at h
    split at h
    · cases h
    · next hread =>
      split at h
      · cases h
        exact congrArg some (skipQuoted_of_readQuoted hread)
      · cases h

/-! ### Steps on the stack -/

theorem skipBlanks_skipBlanks (text : Bytes) :
  skipBlanks (skipBlanks text) = skipBlanks text
  := List.dropWhile_idempotent _ _

theorem skipIn_skipBlanks (frames : List Frame) (text : Bytes) :
  skipIn frames (skipBlanks text) = skipIn frames text
  := by
  rw [skipIn, skipIn.eq_def frames text, skipBlanks_skipBlanks]

section Frames

variable {frame : Frame} {text rest more : Bytes} (outer : List Frame)

/-- A scalar is passed over in one step. -/
theorem skipIn_scalar {b : UInt8} (h : skipBlanks text = b :: rest)
    (hscalar : skipScalar b rest = some (.ok more)) :
  skipIn outer text = skipOut outer true more
  := by
  rw [skipIn]
  split
  · next heq => cases h.symm.trans heq
  · next heq =>
    cases h.symm.trans heq
    split
    · next heq => cases hscalar.symm.trans heq
    · next heq =>
      cases hscalar.symm.trans heq
      rfl
    · next heq => cases hscalar.symm.trans heq

/-- A bracket opens a frame. -/
theorem skipIn_openBracket (h : skipBlanks text = Byte.openBracket :: rest) :
  skipIn outer text = skipOut (.array :: outer) false rest
  := by
  rw [skipIn]
  split
  · next heq => cases h.symm.trans heq
  · next heq =>
    cases h.symm.trans heq
    rfl

/-- A brace opens a frame. -/
theorem skipIn_openBrace (h : skipBlanks text = Byte.openBrace :: rest) :
  skipIn outer text = skipOut (.object :: outer) false rest
  := by
  rw [skipIn]
  split
  · next heq => cases h.symm.trans heq
  · next heq =>
    cases h.symm.trans heq
    rfl

theorem Frame.close_ne_comma (frame : Frame) :
  frame.close ≠ Byte.comma
  := by
  cases frame with
  | array | object => decide

/-- A frame is left where it closes. -/
theorem skipOut_close (h : skipBlanks text = frame.close :: rest) (complete : Bool) :
  skipOut (frame :: outer) complete text = skipOut outer true rest
  := by
  rw [skipOut]
  split
  · next heq => cases h.symm.trans heq
  · next heq =>
    cases h.symm.trans heq
    rw [if_neg fun hcomma => frame.close_ne_comma hcomma.2, if_pos rfl]

/-- The first value of a frame stands behind its key, if it has one. -/
theorem skipOut_first {b : UInt8} (h : skipBlanks text = b :: rest) (hclose : b ≠ frame.close)
    (hkey : frame.skipKey (b :: rest) = .ok more) :
  skipOut (frame :: outer) false text = skipIn (frame :: outer) more
  := by
  rw [skipOut]
  split
  · next heq => cases h.symm.trans heq
  · next heq =>
    cases h.symm.trans heq
    rw [if_neg fun hcomma => Bool.false_ne_true hcomma.1, if_neg hclose,
      if_neg Bool.false_ne_true]
    split
    · next heq => cases hkey.symm.trans heq
    · next heq =>
      cases hkey.symm.trans heq
      rfl

/-- Any other value of a frame stands behind a comma and its key, if it has one. -/
theorem skipOut_comma (h : skipBlanks text = Byte.comma :: rest)
    (hkey : frame.skipKey rest = .ok more) :
  skipOut (frame :: outer) true text = skipIn (frame :: outer) more
  := by
  rw [skipOut]
  split
  · next heq => cases h.symm.trans heq
  · next heq =>
    cases h.symm.trans heq
    rw [if_pos ⟨rfl, rfl⟩]
    split
    · next heq => cases hkey.symm.trans heq
    · next heq =>
      cases hkey.symm.trans heq
      rfl

/-- The key of a member is passed over with its colon. -/
theorem Frame.skipKey_object {start colon : Bytes} {key : String}
    (h : skipBlanks text = Byte.quote :: start) (hkey : readString start = .ok (key, colon))
    (hcolon : readColon colon = .ok more) :
  Frame.object.skipKey text = .ok more
  := by
  rw [readString] at hkey
  split at hkey
  · cases hkey
  · next hquoted =>
    split at hkey
    · cases hkey
      simp only [skipKey, h, if_true, skipQuoted_of_readQuoted hquoted, hcolon]
    · cases hkey

end Frames

/-! ### Arrays and objects -/

/-- What a reader takes is passed over, whatever is around it. -/
def Reader.Skips {α : Type} (reader : Reader α) : Prop :=
  ∀ {text rest : Bytes} {a : α}, reader.run text = .ok (a, rest) →
    ∀ frames, skipIn frames text = skipOut frames true rest

section Lists

variable {α : Type} {reader : Reader α} {first : Bool} {text after left : Bytes}

/-- The items that are left of an array are passed over. -/
theorem skipOut_array (hskips : reader.Skips) {items : List α}
    (hitems : ItemsRead reader first text items after) (hclose : closeArray after = (none, left))
    (frames : List Frame) :
  skipOut (.array :: frames) (!first) text = skipOut frames true left
  := by
  induction hitems with
  | nil hnext =>
    obtain ⟨rest, hblanks⟩ := nextItem_eq_none hnext
    cases (closeArray_closeBracket hblanks).symm.trans hclose
    exact skipOut_close frames hblanks _
  | cons hnext hitem _ ih =>
    rw [← ih hclose, Bool.not_false, ← hskips hitem]
    rcases nextItem_cases hnext with ⟨b, rest, hblanks, hb, rfl, rfl⟩ | ⟨rest, hblanks, rfl, rfl⟩
    · exact skipOut_first frames hblanks hb rfl
    · rw [skipIn_skipBlanks]
      exact skipOut_comma frames hblanks rfl

/-- The members that are left of an object are passed over. -/
theorem skipOut_object (hskips : reader.Skips) {members : List (String × α)}
    (hmembers : MembersRead reader first text members after)
    (hclose : closeObject after = (none, left)) (frames : List Frame) :
  skipOut (.object :: frames) (!first) text = skipOut frames true left
  := by
  induction hmembers with
  | nil hnext =>
    obtain ⟨rest, hblanks⟩ := nextKey_eq_none hnext
    cases (closeObject_closeBrace hblanks).symm.trans hclose
    exact skipOut_close frames hblanks _
  | cons hnext hkey hcolon hvalue _ ih =>
    rw [← ih hclose, Bool.not_false, ← hskips hvalue]
    rcases nextKey_cases hnext with ⟨hblanks, rfl⟩ | ⟨rest, hblanks, rfl, hquote⟩
    · exact skipOut_first frames hblanks (by decide)
        (Frame.skipKey_object (skipBlanks_cons rfl _) hkey hcolon)
    · exact skipOut_comma frames hblanks (Frame.skipKey_object hquote hkey hcolon)

end Lists

/-- What the reader of values takes is passed over. -/
theorem readValue_skips (levels : Nat) :
  (readValue levels).Skips
  := by
  induction levels using Nat.strongRecOn with
  | _ levels ih =>
    intro text rest v hread frames
    cases readValue_iff.mp hread with
    | scalar hblanks hscalar =>
      exact skipIn_scalar frames hblanks (skipScalar_of_scalarRead (.of_readScalar hscalar))
    | array hblanks hitems hclose =>
      rw [skipIn_openBracket frames hblanks]
      exact skipOut_array (ih _ (Nat.lt_succ_self _)) hitems hclose frames
    | object hblanks hmembers hclose =>
      rw [skipIn_openBrace frames hblanks]
      exact skipOut_object (ih _ (Nat.lt_succ_self _)) hmembers hclose frames

/-- A value that is read can be passed over. -/
theorem skipValue_of_read {levels : Nat} {text rest : Bytes} {v : Json}
    (h : (readValue levels).run text = .ok (v, rest)) :
  skipValue text = .ok rest
  := by
  rw [skipValue, readValue_skips levels h, skipOut]

end ChatPortal.Json
