import ChatPortal.Proofs.Url.Path
import ChatPortal.Proofs.Url.Reference

/-!
# Whole URLs

A URL with a host and a path is read as that host and that path (`parse?_http`).
-/

namespace ChatPortal.Url

/-! ### Hosts -/

/-- The text before the first sign is a front of the text. -/
theorem cut_fst_prefix (c : Char) (text : List Char) :
  (Text.cut c text).1 <+: text
  := by
  induction text with
  | nil => exact List.prefix_rfl
  | cons d text ih =>
    rw [Text.cut]
    split
    · exact List.nil_prefix
    · exact List.cons_prefix_cons.mpr ⟨rfl, ih⟩

/-- The text behind a name and password is the end of the text. -/
theorem cutUser_snd_suffix (text : List Char) :
  (cutUser text).2 <:+ text
  := by
  have h := cut_fst_prefix '@' text.reverse
  rw [cutUser]
  split
  · next host heq =>
    rw [heq] at h
    exact List.reverse_prefix.mp (by rwa [List.reverse_reverse])
  · next host user heq =>
    rw [heq] at h
    exact List.reverse_prefix.mp (by rwa [List.reverse_reverse])

/-- The text behind a port is the end of the text. -/
theorem cutPort_snd_suffix {inside : Bool} {text port : List Char}
    (h : (cutPort inside text).2 = some port) :
  port <:+ text
  := by
  induction text generalizing inside with
  | nil => cases h
  | cons c text ih =>
    rw [cutPort] at h
    split at h
    · obtain rfl := Option.some.inj h
      exact List.suffix_cons c text
    · exact (ih h).trans (List.suffix_cons c text)

/-- On the web there is a host, and nothing follows it in a text without backslashes. -/
theorem authority?_http {text rest : List Char} {authority : Authority} (hback : '\\' ∉ text)
    (h : authority? "http".toList text = some (authority, rest)) :
  authority.host.isSome = true ∧ rest = []
  := by
  have hport : ∀ c ∈ (cutPort false (cutUser text).2).2.getD [], c ∈ text := by
    intro c hc
    cases hcut : (cutPort false (cutUser text).2).2 with
    | none => simp [hcut] at hc
    | some port =>
      rw [hcut, Option.getD_some] at hc
      exact (cutUser_snd_suffix text).subset ((cutPort_snd_suffix hcut).subset hc)
  rw [authority?] at h
  simp only at h
  split at h
  · cases h
  · next hrest =>
    have hnone := (Decidable.not_not.mp hrest).resolve_right fun hhead => hback
      (hport _ (List.dropWhile_subset _ (List.mem_of_head? hhead)))
    rw [hnone] at h
    split at h
    · split at h
      · cases h
      · next hspecial => exact absurd (.inl rfl) hspecial
    · split at h
      · cases h
        exact ⟨rfl, rfl⟩
      · cases h

/-! ### Paths on hosts -/

/-- The characters of a text that count anywhere. -/
abbrev counted (text : List Char) : List Char := text.filter (!Path.isIgnored ·)

/-- The text may name a host: it holds no sign that ends the name. -/
def IsName (name : List Char) : Prop := ∀ c ∈ name, c ∉ "/\\?#".toList

instance (name : List Char) : Decidable (IsName name) :=
  List.decidableBAll (· ∉ "/\\?#".toList) name

section Names

variable {name : List Char} {c : Char}

theorem IsName.counted (h : IsName name) :
  IsName (counted name)
  := fun c hc => h c (List.mem_filter.mp hc).1

/-- A name holds none of the signs, each taken for itself. -/
theorem IsName.bounds (h : IsName name) (hc : c ∈ name) :
  c ≠ '?' ∧ c ≠ '#' ∧ c ≠ '\\' ∧ c ≠ '/'
  := by
  obtain ⟨hslash, hback, hmark, hhash⟩ : c ≠ '/' ∧ c ≠ '\\' ∧ c ≠ '?' ∧ c ≠ '#' := by
    simpa using h c hc
  exact ⟨hmark, hhash, hback, hslash⟩

theorem IsName.isSlash (h : IsName name) (hc : c ∈ name) :
  Kind.web.isSlash c = false
  := by
  obtain ⟨-, -, hback, hslash⟩ := h.bounds hc
  simp [Kind.isSlash, hback, hslash]

/-- What counts of a URL is what counts of its name and of its path. -/
theorem cleaned_http (name tail : List Char) :
  cleaned ("http://".toList ++ (name ++ '/' :: tail))
    = "http://".toList ++ (Url.counted name ++ cleaned ('/' :: tail))
  := by
  have hfirst : ∀ d ∈ ("http://".toList ++ name).head?, isEdge d = false := by
    rintro d ⟨⟩
    rfl
  rw [← List.append_assoc, cleaned_append_cons hfirst rfl, List.filter_append, List.append_assoc]
  rfl

/-- The host ends where the path begins. -/
theorem absolute?_http (hname : IsName name) (hne : name ≠ []) (path : List Char) :
  absolute? "http".toList ('/' :: '/' :: (name ++ '/' :: path))
    = (authority? "http".toList name).map fun found =>
        { scheme := "http".toList
          authority := some found.1
          place := .path (Path.ofText .web (found.2 ++ '/' :: path)) }
  := by
  have hkind : Kind.ofScheme "http".toList = .web := by decide
  have hbegin : ('/' :: '/' :: (name ++ '/' :: path)).dropWhile Kind.web.isSlash
      = name ++ '/' :: path := by
    obtain ⟨c, rest, rfl⟩ := List.exists_cons_of_ne_nil hne
    have hc := hname.isSlash (List.mem_cons_self ..)
    rw [List.dropWhile_cons_of_pos rfl, List.dropWhile_cons_of_pos rfl, List.cons_append,
      List.dropWhile_cons_of_neg (by simp [hc])]
  have hplain : ∀ c ∈ name, (!Kind.web.isSlash c) = true := by
    intro c hc
    rw [hname.isSlash hc]
    rfl
  have htake : (name ++ '/' :: path).takeWhile (!Kind.web.isSlash ·) = name := by
    rw [List.takeWhile_append_of_pos hplain]
    exact List.append_nil name
  have hdrop : (name ++ '/' :: path).dropWhile (!Kind.web.isSlash ·) = '/' :: path := by
    rw [List.dropWhile_append_of_pos hplain]
    rfl
  simp only [absolute?, hkind, hbegin, withHost?, htake, hdrop]
  cases authority? "http".toList name with
  | none => rfl
  | some _ => rfl

/-- A URL of the web is read as its host and its path. -/
theorem parse?_http {tail : List Char} (hname : IsName name) (hne : Url.counted name ≠ [])
    (htail : ∀ c ∈ tail, c ≠ '?' ∧ c ≠ '#') :
  parse? ("http://".toList ++ (name ++ '/' :: tail))
    = (authority? "http".toList (Url.counted name)).map fun found =>
        { scheme := "http".toList
          authority := some found.1
          place := .path (Path.ofText .web (found.2 ++ cleaned ('/' :: tail))) }
  := by
  have hlead : ∀ c ∈ "http://".toList ++ (Url.counted name ++ cleaned ('/' :: tail)),
      c ≠ '?' ∧ c ≠ '#' := by
    simp only [List.forall_mem_append]
    refine ⟨by simp, fun c hc => ?_, fun c hc => ?_⟩
    · obtain ⟨hmark, hhash, -⟩ := hname.counted.bounds hc
      exact ⟨hmark, hhash⟩
    · rcases List.mem_cons.mp (mem_of_mem_cleaned hc) with rfl | hc
      · decide
      · exact htail c hc
  have hsections : Sections.ofText ("http://".toList ++ (Url.counted name ++ cleaned ('/' :: tail)))
      = ⟨"http://".toList ++ (Url.counted name ++ cleaned ('/' :: tail)), none, none⟩ := by
    rw [← Sections.ofText_append_part hlead (by nofun : ∀ text ∈ none, '#' ∉ text), part,
      List.append_nil]
  have hscheme (text : List Char) :
      scheme? ("http://".toList ++ text) = some ("http".toList, '/' :: '/' :: text) := rfl
  obtain ⟨path, hpath⟩ : ∃ path, cleaned ('/' :: tail) = '/' :: path := ⟨_, cleaned_cons rfl tail⟩
  simp only [parse?, cleaned_http, hsections, hscheme]
  rw [hpath, absolute?_http hname.counted hne]
  cases authority? "http".toList (Url.counted name) with
  | none => rfl
  | some _ => rfl

theorem counted_ne_nil {home : Url}
    (h : parse? ("http://".toList ++ (name ++ ['/'])) = some home) :
  Url.counted name ≠ []
  := by
  intro hnil
  rw [parse?, cleaned_http, hnil] at h
  cases h

end Names

end ChatPortal.Url
