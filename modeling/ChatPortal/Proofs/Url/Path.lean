import ChatPortal.Proofs.Url.Form
import ChatPortal.Url.Path

/-!
# Normal paths

A segment `Path.IsNormal` when it leads to a place of its own and none of its characters needs
an escape or would end it.  The segments that a text stands for are normal
(`Path.isNormal_of_mem_ofText`), and normal segments are read back from their text
(`Path.ofText_text`), so a path in normal form is read as it stands
(`Path.text_ofText_normal`).
-/

namespace ChatPortal.Url

/-! ### Escapes -/

/-- The characters of escapes stand for themselves in a path, and they end no segment. -/
theorem inPath_of_isFormChar {c : Char} (h : isFormChar c = true) :
  inPath c = false ∧ Kind.web.isSlash c = false
  := by
  obtain ⟨hlow, hhigh⟩ := isFormChar_bounds h
  have hnot : c ∉ " \"<>`?\x7b\x7d#/\\".toList := by
    have hall : " \"<>`?\x7b\x7d#/\\".toList.all (isFormChar · = false) = true := by decide
    intro hmem
    have hform := List.all_eq_true.mp hall c hmem
    simp [h] at hform
  have hprintable : isOutsidePrintable c = false := by
    simp [isOutsidePrintable]
    omega
  obtain ⟨hspace, hquote, hless, hgreater, hgrave, hmark, hopen, hclose, hhash, hslash, hback⟩ :
      c ≠ ' ' ∧ c ≠ '"' ∧ c ≠ '<' ∧ c ≠ '>' ∧ c ≠ '`' ∧ c ≠ '?' ∧ c ≠ '\x7b' ∧ c ≠ '\x7d'
        ∧ c ≠ '#' ∧ c ≠ '/' ∧ c ≠ '\\' := by simpa using hnot
  constructor
  · simp [inPath, inFragment, hprintable, hspace, hquote, hless, hgreater, hgrave, hmark, hopen,
      hclose, hhash]
  · simp [Kind.isSlash, hslash, hback]

/-- An escaped text holds characters of the text that need no escape, and those of escapes. -/
theorem mem_escapeWhere {set : Char → Bool} {text : List Char} {c : Char}
    (h : c ∈ escapeWhere set text) :
  (c ∈ text ∧ set c = false) ∨ isFormChar c = true
  := by
  obtain ⟨d, hd, hc⟩ := List.mem_flatMap.mp h
  split at hc
  · obtain ⟨b, -, hb⟩ := List.mem_flatMap.mp hc
    exact .inr (isFormChar_of_mem_escapeByte hb)
  · next hset =>
    obtain rfl := List.mem_singleton.mp hc
    exact .inl ⟨hd, Bool.eq_false_iff.mpr hset⟩

/-! ### Pieces -/

/-- No piece of a text holds a separator. -/
theorem isSeparator_of_mem_pieces {isSeparator : Char → Bool} {text piece : List Char}
    (h : piece ∈ pieces isSeparator text) :
  ∀ c ∈ piece, isSeparator c = false
  := by
  induction text generalizing piece with
  | nil =>
    obtain rfl := List.mem_singleton.mp h
    nofun
  | cons c text ih =>
    rw [pieces] at h
    split at h
    · rcases List.mem_cons.mp h with rfl | h
      · nofun
      · exact ih h
    · next hc =>
      have hfirst : isSeparator c = false := Bool.eq_false_iff.mpr hc
      split at h
      · obtain rfl := List.mem_singleton.mp h
        simpa using hfirst
      · next first more heq =>
        rw [heq, List.forall_mem_cons] at ih
        rcases List.mem_cons.mp h with rfl | h
        · exact List.forall_mem_cons.mpr ⟨hfirst, ih.1⟩
        · exact ih.2 piece h

theorem pieces_ne_nil (isSeparator : Char → Bool) (text : List Char) :
  pieces isSeparator text ≠ []
  := by
  cases text with
  | nil => exact List.cons_ne_nil _ _
  | cons c text =>
    rw [pieces]
    split
    · exact List.cons_ne_nil _ _
    · split
      · exact List.cons_ne_nil _ _
      · exact List.cons_ne_nil _ _

namespace Path

/-! ### Segments -/

/-- A segment leads to a place of its own, and its characters stand for themselves. -/
structure IsNormal (segment : List Char) : Prop where
  notUp : isUp segment = false
  notHere : isHere segment = false
  plain : ∀ c ∈ segment, inPath c = false ∧ Kind.web.isSlash c = false

theorem isNormal_nil :
  IsNormal []
  := ⟨rfl, rfl, nofun⟩

theorem mem_of_mem_up {segment : List Char} {visited : List (List Char)}
    (h : segment ∈ up visited) :
  segment ∈ visited
  := by
  cases visited with
  | nil => exact h
  | cons last visited =>
    rw [up] at h
    split at h
    · exact h
    · exact List.mem_cons_of_mem last h

/-- Normal segments are followed to normal ones, if the characters of all stand for
themselves. -/
theorem isNormal_of_mem_follow {visited segments : List (List Char)}
    (hvisited : ∀ segment ∈ visited, IsNormal segment)
    (hplain : ∀ segment ∈ segments, ∀ c ∈ segment, inPath c = false ∧ Kind.web.isSlash c = false) :
  ∀ segment ∈ follow .web visited segments, IsNormal segment
  := by
  have hdown {last : List Char} {visited : List (List Char)}
      (hvisited : ∀ segment ∈ visited, IsNormal segment) (hup : ¬ isUp last = true)
      (hhere : ¬ isHere last = true)
      (hplain : ∀ c ∈ last, inPath c = false ∧ Kind.web.isSlash c = false) :
      ∀ segment ∈ down .web last visited, IsNormal segment :=
    List.forall_mem_cons.mpr
      ⟨⟨Bool.eq_false_iff.mpr hup, Bool.eq_false_iff.mpr hhere, hplain⟩, hvisited⟩
  fun_induction follow Kind.web visited segments with
  | case1 visited => simpa using hvisited
  | case2 visited last =>
    have hleft : ∀ segment ∈ [] :: up visited, IsNormal segment :=
      List.forall_mem_cons.mpr ⟨isNormal_nil, fun segment h => hvisited segment (mem_of_mem_up h)⟩
    exact fun segment h => hleft segment (List.mem_reverse.mp h)
  | case3 visited last =>
    have hstays : ∀ segment ∈ [] :: visited, IsNormal segment :=
      List.forall_mem_cons.mpr ⟨isNormal_nil, hvisited⟩
    exact fun segment h => hstays segment (List.mem_reverse.mp h)
  | case4 visited last hup hhere =>
    have hgoes := hdown hvisited hup hhere (hplain last List.mem_cons_self)
    exact fun segment h => hgoes segment (List.mem_reverse.mp h)
  | case5 visited first more _ _ ih =>
    exact ih (fun segment h => hvisited segment (mem_of_mem_up h))
      (List.forall_mem_cons.mp hplain).2
  | case6 visited first more _ _ _ ih => exact ih hvisited (List.forall_mem_cons.mp hplain).2
  | case7 visited first more _ hup hhere ih =>
    obtain ⟨hfirst, hmore⟩ := List.forall_mem_cons.mp hplain
    exact ih (hdown hvisited hup hhere hfirst) hmore

/-- Normal segments are followed as they are. -/
theorem follow_of_isNormal {visited segments : List (List Char)}
    (h : ∀ segment ∈ segments, IsNormal segment) :
  follow .web visited segments = visited.reverse ++ segments
  := by
  fun_induction follow Kind.web visited segments with
  | case1 visited => simp
  | case2 visited last hup => simp [(h last List.mem_cons_self).notUp] at hup
  | case3 visited last _ hhere => simp [(h last List.mem_cons_self).notHere] at hhere
  | case4 visited last => simp [down]
  | case5 visited first more _ hup => simp [(h first List.mem_cons_self).notUp] at hup
  | case6 visited first more _ _ hhere => simp [(h first List.mem_cons_self).notHere] at hhere
  | case7 visited first more _ _ _ ih =>
    rw [ih (List.forall_mem_cons.mp h).2]
    simp [down]

/-- A way that leads along some segments leads somewhere. -/
theorem follow_ne_nil {visited segments : List (List Char)} (h : segments ≠ []) :
  follow .web visited segments ≠ []
  := by
  fun_induction follow Kind.web visited segments with
  | case1 visited => exact absurd rfl h
  | case2 | case3 | case4 => simp [down]
  | case5 visited first more hmore _ ih => exact ih fun hnil => hmore (by rw [hnil])
  | case6 visited first more hmore _ _ ih => exact ih fun hnil => hmore (by rw [hnil])
  | case7 visited first more hmore _ _ ih => exact ih fun hnil => hmore (by rw [hnil])

/-! ### Paths -/

/-- The segments that a text stands for are normal. -/
theorem isNormal_of_mem_ofText (given : List Char) :
  ∀ segment ∈ ofText .web given, IsNormal segment
  := by
  apply isNormal_of_mem_follow (List.forall_mem_nil _)
  intro segment hsegment c hc
  obtain ⟨piece, hpiece, rfl⟩ := List.mem_map.mp hsegment
  rcases mem_escapeWhere hc with ⟨hmem, hplain⟩ | hform
  · exact ⟨hplain, isSeparator_of_mem_pieces hpiece c hmem⟩
  · exact inPath_of_isFormChar hform

theorem ofText_ne_nil (given : List Char) :
  ofText .web given ≠ []
  := by
  apply follow_ne_nil
  rw [ne_eq, List.map_eq_nil_iff]
  apply pieces_ne_nil

/-- The text of a path is that of its segments with slashes between and in front of them. -/
theorem text_eq_intercalate {segments : List (List Char)} (h : segments ≠ []) :
  text segments = '/' :: ['/'].intercalate segments
  := by
  induction segments with
  | nil => exact absurd rfl h
  | cons segment more ih =>
    cases more with
    | nil => simp [text]
    | cons next more =>
      rw [List.intercalate_cons_cons, List.append_assoc, List.singleton_append,
        ← ih (List.cons_ne_nil _ _)]
      rfl

/-- Normal segments are read back from their text. -/
theorem ofText_text {segments : List (List Char)} (hne : segments ≠ [])
    (h : ∀ segment ∈ segments, IsNormal segment) :
  ofText .web (text segments) = segments
  := by
  have hpieces : pieces Kind.web.isSlash (['/'].intercalate segments) = segments :=
    pieces_intercalate rfl hne fun segment hsegment c hc => ((h segment hsegment).plain c hc).2
  have hescaped : segments.map (escapeWhere inPath) = segments := by
    rw [List.map_congr_left (g := id), List.map_id]
    exact fun segment hsegment =>
      escapeWhere_of_forall fun c hc => ((h segment hsegment).plain c hc).1
  have hslash : dropSlash .web (text segments) = ['/'].intercalate segments := by
    rw [text_eq_intercalate hne]
    rfl
  rw [ofText, hslash, hpieces, resolve, hescaped, follow_of_isNormal h]
  rfl

/-- A path in normal form is read as it stands. -/
theorem text_ofText_normal (given : List Char) :
  text (ofText .web (normal given)) = normal given
  := by
  rw [normal, ofText_text (ofText_ne_nil _) (isNormal_of_mem_ofText _)]

theorem exists_normal_eq_cons (given : List Char) :
  ∃ path, normal given = '/' :: path
  := ⟨_, text_eq_intercalate (ofText_ne_nil _)⟩

/-- The characters of the segments that a text stands for count, and none is one of those that end
a path. -/
theorem bounds_of_mem_text {given : List Char} {c : Char} (h : c ∈ text (ofText .web given)) :
  0x20 < c.toNat ∧ c ≠ '?' ∧ c ≠ '#' ∧ c ≠ '\\'
  := by
  obtain ⟨segment, hsegment, hc⟩ := List.mem_flatMap.mp h
  rcases List.mem_cons.mp hc with rfl | hc
  · decide
  · obtain ⟨hplain, hslash⟩ := (isNormal_of_mem_ofText _ segment hsegment).plain c hc
    obtain ⟨⟨⟨hlow, -⟩, hspace, -⟩, hmark, -, -, hhash⟩ :
        ((0x20 ≤ c.toNat ∧ c.toNat < 0x7F) ∧ c ≠ ' ' ∧ c ≠ '"' ∧ c ≠ '<' ∧ c ≠ '>' ∧ c ≠ '`')
          ∧ c ≠ '?' ∧ c ≠ '\x7b' ∧ c ≠ '\x7d' ∧ c ≠ '#' := by
      simpa [inPath, inFragment, isOutsidePrintable] using hplain
    have hback : c ≠ '\\' := by
      rintro rfl
      cases hslash
    have hnat : c.toNat ≠ 0x20 := fun heq => hspace (Char.toNat_inj.mp heq)
    exact ⟨by omega, hmark, hhash, hback⟩

theorem bounds_of_mem_normal {given : List Char} {c : Char} (h : c ∈ normal given) :
  0x20 < c.toNat ∧ c ≠ '?' ∧ c ≠ '#' ∧ c ≠ '\\'
  := bounds_of_mem_text h

end Path

end ChatPortal.Url
