import ChatPortal.Proofs.Url.Form
import ChatPortal.Url.Reference

/-!
# Paths as references

A path that begins with one slash, with or without a query, is read on any page of the web
as that path and that query on the host of the page (`join?_path`): nothing of the query
gets into the path or becomes a fragment.
-/

namespace ChatPortal.Url

/-- A text without blanks and control characters counts as a whole. -/
theorem cleaned_of_forall {text : List Char} (h : ∀ c ∈ text, 0x20 < c.toNat) :
  cleaned text = text
  := by
  have hedge {text : List Char} (h : ∀ c ∈ text, 0x20 < c.toNat) :
      text.dropWhile isEdge = text := by
    cases text with
    | nil => rfl
    | cons c text =>
      apply List.dropWhile_cons_of_neg
      simpa [isEdge] using h c List.mem_cons_self
  have hreverse : ∀ c ∈ text.reverse, 0x20 < c.toNat := by simpa using h
  have hcounts : ∀ c ∈ text, (!Path.isIgnored c) = true := by
    intro c hc
    have hlarge := h c hc
    rw [Bool.not_eq_true', Path.isIgnored, Bool.or_eq_false_iff, Bool.or_eq_false_iff]
    and_intros
    all_goals
      rw [beq_eq_false_iff_ne]
      rintro rfl
      revert hlarge
      decide
  rw [cleaned, hedge h, hedge hreverse, List.reverse_reverse, List.filter_eq_self.mpr hcounts]

/-- What counts of a text is a part of it. -/
theorem mem_of_mem_cleaned {text : List Char} {c : Char} (h : c ∈ cleaned text) :
  c ∈ text
  := by
  have hback := List.mem_reverse.mp (List.mem_filter.mp h).1
  have hfront := List.mem_reverse.mp (List.dropWhile_subset _ hback)
  exact List.dropWhile_subset _ hfront

/-- The end of a text is trimmed behind any character that counts. -/
theorem trimmed_append_cons {c : Char} (hc : isEdge c = false) (front tail : List Char) :
  ((front ++ c :: tail).reverse.dropWhile isEdge).reverse
    = front ++ c :: (tail.reverse.dropWhile isEdge).reverse
  := by
  have hstop : ((c :: front.reverse).dropWhile isEdge) = c :: front.reverse :=
    List.dropWhile_cons_of_neg (by simp [hc])
  have hend : (tail.reverse ++ c :: front.reverse).dropWhile isEdge
      = tail.reverse.dropWhile isEdge ++ c :: front.reverse := by
    rw [List.dropWhile_append]
    split
    · next hempty => rw [List.isEmpty_iff.mp hempty, hstop, List.nil_append]
    · rfl
  rw [List.reverse_append, List.reverse_cons, List.append_assoc, List.singleton_append, hend,
    List.reverse_append, List.reverse_cons, List.reverse_reverse, List.append_assoc,
    List.singleton_append]

theorem cleaned_cons {c : Char} (hc : isEdge c = false) (tail : List Char) :
  cleaned (c :: tail)
    = (c :: (tail.reverse.dropWhile isEdge).reverse).filter (!Path.isIgnored ·)
  := by
  rw [cleaned, List.dropWhile_cons_of_neg (by simp [hc])]
  exact congrArg _ (trimmed_append_cons hc [] tail)

/-- The front of a text counts but for what counts nowhere, and the rest for itself. -/
theorem cleaned_append_cons {front : List Char} {c : Char}
    (hfront : ∀ d ∈ front.head?, isEdge d = false) (hc : isEdge c = false) (tail : List Char) :
  cleaned (front ++ c :: tail) = front.filter (!Path.isIgnored ·) ++ cleaned (c :: tail)
  := by
  have hbegin : (front ++ c :: tail).dropWhile isEdge = front ++ c :: tail := by
    cases front with
    | nil => exact List.dropWhile_cons_of_neg (by simp [hc])
    | cons d front => exact List.dropWhile_cons_of_neg (by simp [hfront d rfl])
  rw [cleaned, hbegin, trimmed_append_cons hc, cleaned_cons hc, List.filter_append]

/-- A text without signs for a query or a fragment leads somewhere as a whole. -/
theorem Sections.ofText_append_part {lead : List Char} (hlead : ∀ c ∈ lead, c ≠ '?' ∧ c ≠ '#')
    {query : Option (List Char)} (hquery : ∀ text ∈ query, '#' ∉ text) :
  Sections.ofText (lead ++ part '?' query) = ⟨lead, query, none⟩
  := by
  have hmark : '?' ∉ lead := fun h => (hlead _ h).1 rfl
  have hhash : '#' ∉ lead := fun h => (hlead _ h).2 rfl
  cases query with
  | none => simp [ofText, part, Text.cut_of_not_mem hhash, Text.cut_of_not_mem hmark]
  | some text =>
    have hall : '#' ∉ lead ++ '?' :: text := by simpa [hhash] using hquery text rfl
    simp [ofText, part, Text.cut_of_not_mem hall, Text.cut_append_cons hmark]

/-- A path with a query is read on any page of the web. -/
theorem join?_path (base : Url) {path : List Char} (hslash : slashes ('/' :: path) = 1)
    (hpath : ∀ c ∈ path, 0x20 < c.toNat ∧ c ≠ '?' ∧ c ≠ '#') {query : Option (List Char)}
    (hquery : ∀ text ∈ query, ∀ c ∈ text, 0x20 < c.toNat ∧ c ≠ '#') :
  join? base ('/' :: path ++ part '?' query)
    = some
      { base with
        place := .path (Path.ofText .web ('/' :: path))
        query := query.map (escapeWhere (inQuery (Kind.ofScheme base.scheme).isSpecial))
        fragment := none }
  := by
  have hlead : ∀ c ∈ '/' :: path, 0x20 < c.toNat ∧ c ≠ '?' ∧ c ≠ '#' :=
    List.forall_mem_cons.mpr ⟨by decide, hpath⟩
  have hclean : cleaned ('/' :: path ++ part '?' query) = '/' :: path ++ part '?' query := by
    apply cleaned_of_forall
    intro c hc
    rcases List.mem_append.mp hc with hc | hc
    · exact (hlead c hc).1
    · cases query with
      | none => cases hc
      | some text =>
        rcases List.mem_cons.mp hc with rfl | hc
        · decide
        · exact (hquery text rfl c hc).1
  have hsections : Sections.ofText ('/' :: path ++ part '?' query)
      = ⟨'/' :: path, query, none⟩ :=
    Sections.ofText_append_part (fun c hc => (hlead c hc).2)
      fun text htext hmem => (hquery text htext _ hmem).2 rfl
  have hrelative : relative? base ('/' :: path)
      = some { base with place := .path (Path.ofText .web ('/' :: path)) } := by
    rw [relative?, if_neg (by omega), if_pos hslash]
  have hscheme : scheme? ('/' :: path) = none := rfl
  simp only [join?, hclean, hsections, hscheme, joined?, hrelative, Option.map_some,
    finish]
  simp

/-- The characters of a query count and need no escapes. -/
theorem bounds_of_mem_formEncode {pairs : List (String × String)} {c : Char}
    (h : c ∈ formEncode pairs) (special : Bool) :
  0x20 < c.toNat ∧ c ≠ '#' ∧ inQuery special c = false
  := by
  have hform : isFormChar c = true ∨ c = '=' ∨ c = '&' := isFormChar_of_mem_formEncode h
  have hbounds : 0x20 < c.toNat ∧ c.toNat < 0x7F := by
    rcases hform with hform | rfl | rfl
    · exact isFormChar_bounds hform
    · decide
    · decide
  have hnot : c ∉ " \"#<>'".toList := by
    have hall : " \"#<>'".toList.all
        (fun d => ¬ (isFormChar d = true ∨ d = '=' ∨ d = '&')) = true := by
      decide
    exact fun hmem => decide_eq_true_eq.mp (List.all_eq_true.mp hall c hmem) hform
  have hprintable : isOutsidePrintable c = false := by
    simp [isOutsidePrintable]
    omega
  obtain ⟨hspace, hquote, hhash, hless, hgreater, hapostrophe⟩ :
      c ≠ ' ' ∧ c ≠ '"' ∧ c ≠ '#' ∧ c ≠ '<' ∧ c ≠ '>' ∧ c ≠ '\'' := by simpa using hnot
  refine ⟨hbounds.1, hhash, ?_⟩
  simp [inQuery, hprintable, hspace, hquote, hhash, hless, hgreater, hapostrophe]

theorem escapeWhere_formEncode (special : Bool) (pairs : List (String × String)) :
  escapeWhere (inQuery special) (formEncode pairs) = formEncode pairs
  := escapeWhere_of_forall fun _ hc => (bounds_of_mem_formEncode hc special).2.2

end ChatPortal.Url
