import ChatPortal.Proofs.Json.Records

/-!
# What a reader takes

`ItemsRead` and `MembersRead` say what the readers of an array and of an object take, one item
and one member after the other, and `ValueRead` what the reader of values takes
(`readValue_iff`).  A text `IsArray` if it is parsed as one (`isArray_iff`), and `IsObject` with
its members in the order in which they stand there, which no value keeps (`IsObject.parse`,
`exists_isObject`).
-/

namespace ChatPortal.Json

/-! ### Between the items -/

/-- There is no item where an array ends. -/
theorem nextItem_eq_none {first : Bool} {text : Bytes} (h : nextItem first text = .ok none) :
  ∃ rest, skipBlanks text = Byte.closeBracket :: rest
  := by
  rw [nextItem] at h
  split at h
  · cases h
  · next hblanks => exact ⟨_, hblanks⟩
  · split at h
    · cases h
    · split at h
      · split at h
        · cases h
        · cases h
        · cases h
      · cases h

/-- The first item stands behind blanks, and any other behind a comma and blanks. -/
theorem nextItem_cases {first : Bool} {text start : Bytes}
    (h : nextItem first text = .ok (some start)) :
  (∃ b rest, skipBlanks text = b :: rest ∧ b ≠ Byte.closeBracket ∧ first = true
      ∧ start = b :: rest)
    ∨ (∃ rest, skipBlanks text = Byte.comma :: rest ∧ first = false ∧ start = skipBlanks rest)
  := by
  rw [nextItem] at h
  split at h
  · cases h
  · cases h
  · next b rest hend hblanks =>
    split at h
    · next hfirst =>
      cases h
      exact .inl ⟨b, rest, hblanks, hend, hfirst, rfl⟩
    · next hfirst =>
      split at h
      · next hcomma =>
        subst hcomma
        split at h
        · cases h
        · cases h
        · cases h
          exact .inr ⟨rest, hblanks, Bool.eq_false_iff.mpr hfirst, rfl⟩
      · cases h

/-- There is no key where an object ends. -/
theorem nextKey_eq_none {first : Bool} {text : Bytes} (h : nextKey first text = .ok none) :
  ∃ rest, skipBlanks text = Byte.closeBrace :: rest
  := by
  rw [nextKey] at h
  split at h
  · cases h
  · next hblanks => exact ⟨_, hblanks⟩
  · split at h
    · split at h
      · cases h
      · cases h
    · split at h
      · split at h
        · cases h
        · cases h
        · cases h
        · cases h
      · cases h

/-- The first key stands behind blanks, and any other behind a comma and blanks. -/
theorem nextKey_cases {first : Bool} {text start : Bytes}
    (h : nextKey first text = .ok (some start)) :
  (skipBlanks text = Byte.quote :: start ∧ first = true)
    ∨ (∃ rest, skipBlanks text = Byte.comma :: rest ∧ first = false
      ∧ skipBlanks rest = Byte.quote :: start)
  := by
  rw [nextKey] at h
  split at h
  · cases h
  · cases h
  · next hblanks =>
    split at h
    · next hfirst =>
      split at h
      · next hquote =>
        subst hquote
        cases h
        exact .inl ⟨hblanks, hfirst⟩
      · cases h
    · next hfirst =>
      split at h
      · next hcomma =>
        subst hcomma
        split at h
        · cases h
        · next hquote =>
          cases h
          exact .inr ⟨_, hblanks, Bool.eq_false_iff.mpr hfirst, hquote⟩
        · cases h
        · cases h
      · cases h

theorem closeArray_closeBracket {text rest : Bytes}
    (h : skipBlanks text = Byte.closeBracket :: rest) :
  closeArray text = (none, rest)
  := by
  rw [closeArray, h]
  rfl

/-! ### Arrays and objects -/

/-- The items up to the end of an array, and where that is. -/
inductive ItemsRead {α : Type} (item : Reader α) : (first : Bool) → Bytes → List α → Bytes → Prop
  | nil {first : Bool} {text : Bytes} (h : nextItem first text = .ok none) :
      ItemsRead item first text [] text
  | cons {first : Bool} {text start rest left : Bytes} {a : α} {more : List α}
      (hnext : nextItem first text = .ok (some start)) (hitem : item.run start = .ok (a, rest))
      (hmore : ItemsRead item false rest more left) :
      ItemsRead item first text (a :: more) left

/-- The members up to the end of an object, and where that is. -/
inductive MembersRead {α : Type} (value : Reader α) :
    (first : Bool) → Bytes → List (String × α) → Bytes → Prop
  | nil {first : Bool} {text : Bytes} (h : nextKey first text = .ok none) :
      MembersRead value first text [] text
  | cons {first : Bool} {text start colon after rest left : Bytes} {key : String} {a : α}
      {more : List (String × α)} (hnext : nextKey first text = .ok (some start))
      (hkey : readString start = .ok (key, colon)) (hcolon : readColon colon = .ok after)
      (hvalue : value.run after = .ok (a, rest)) (hmore : MembersRead value false rest more left) :
      MembersRead value first text ((key, a) :: more) left

section Lists

variable {α : Type} {reader : Reader α} {first : Bool} {text left : Bytes}

/-- The reader of items takes what there is to take. -/
theorem ItemsRead.readItems {items : List α} (h : ItemsRead reader first text items left) :
  (readItems reader first text).map (·.val) = .ok (items, left)
  := by
  induction h with
  | nil hnext =>
    rw [Json.readItems]
    split
    · next heq => cases hnext.symm.trans heq
    · rfl
    · next heq => cases hnext.symm.trans heq
  | cons hnext hitem _ ih =>
    obtain ⟨⟨r, hr⟩, hread, rfl⟩ := map_eq_ok hitem
    obtain ⟨⟨s, hs⟩, hrest, rfl⟩ := map_eq_ok ih
    rw [Json.readItems]
    split
    · next heq => cases hnext.symm.trans heq
    · next heq => cases hnext.symm.trans heq
    · next heq =>
      cases hnext.symm.trans heq
      simp only [hread, hrest]
      rfl

/-- What the reader of items takes is there to take. -/
theorem ItemsRead.of_readItems {items : List α}
    (h : (Json.readItems reader first text).map (·.val) = .ok (items, left)) :
  ItemsRead reader first text items left
  := by
  fun_induction Json.readItems reader first text generalizing items left with
  | case1 => cases h
  | case2 first text hnext =>
    cases h
    exact .nil hnext
  | case3 => cases h
  | case4 => cases h
  | case5 first text start hnext hs a rest hr hitem hl more left hm hmore ih =>
    cases h
    refine .cons hnext ?_ (ih ?_)
    · rw [Reader.run, hitem]
      rfl
    · rw [hmore]
      rfl

/-- The reader of members takes what there is to take. -/
theorem MembersRead.readMembers {members : List (String × α)}
    (h : MembersRead reader first text members left) :
  (readMembers reader first text).map (·.val) = .ok (members, left)
  := by
  induction h with
  | nil hnext =>
    rw [Json.readMembers]
    split
    · next heq => cases hnext.symm.trans heq
    · rfl
    · next heq => cases hnext.symm.trans heq
  | cons hnext hkey hcolon hvalue _ ih =>
    obtain ⟨⟨r, hr⟩, hread, rfl⟩ := map_eq_ok hvalue
    obtain ⟨⟨s, hs⟩, hrest, rfl⟩ := map_eq_ok ih
    rw [Json.readMembers]
    split
    · next heq => cases hnext.symm.trans heq
    · next heq => cases hnext.symm.trans heq
    · next heq =>
      cases hnext.symm.trans heq
      split
      · next heq => cases hkey.symm.trans heq
      · next heq =>
        cases hkey.symm.trans heq
        split
        · next heq => cases hcolon.symm.trans heq
        · next heq =>
          cases hcolon.symm.trans heq
          simp only [hread, hrest]
          rfl

/-- What the reader of members takes is there to take. -/
theorem MembersRead.of_readMembers {members : List (String × α)}
    (h : (Json.readMembers reader first text).map (·.val) = .ok (members, left)) :
  MembersRead reader first text members left
  := by
  fun_induction Json.readMembers reader first text generalizing members left with
  | case1 => cases h
  | case2 first text hnext =>
    cases h
    exact .nil hnext
  | case3 => cases h
  | case4 => cases h
  | case5 => cases h
  | case6 => cases h
  | case7 first text start hnext hs key colon hkey hk after hcolon hc a rest hr hvalue hl more left
      hm hmore ih =>
    cases h
    refine .cons hnext hkey hcolon ?_ (ih ?_)
    · rw [Reader.run, hvalue]
      rfl
    · rw [hmore]
      rfl

/-- An array is read as its items if nothing is wrong with its end. -/
theorem readArray_iff {items : List α} :
  (readArray reader text).map (·.val) = .ok (items, left)
    ↔ ∃ after, ItemsRead reader true text items after ∧ closeArray after = (none, left)
  := by
  constructor
  · intro h
    obtain ⟨⟨r, hr⟩, hread, rfl⟩ := map_eq_ok h
    rw [readArray] at hread
    split at hread
    · cases hread
    · next items after hle hitems =>
      split at hread
      · cases hread
      · next hclose =>
        cases hread
        exact ⟨after, .of_readItems (by rw [hitems]; rfl), hclose⟩
  · rintro ⟨after, hitems, hclose⟩
    obtain ⟨⟨r, hr⟩, hread, rfl⟩ := map_eq_ok hitems.readItems
    rw [readArray]
    simp only [hread]
    split
    · next heq => cases hclose.symm.trans heq
    · next heq =>
      cases hclose.symm.trans heq
      rfl

/-- An object is read as its members if nothing is wrong with its end. -/
theorem readObject_iff {members : List (String × α)} :
  (readObject reader text).map (·.val) = .ok (members, left)
    ↔ ∃ after, MembersRead reader true text members after ∧ closeObject after = (none, left)
  := by
  constructor
  · intro h
    obtain ⟨⟨r, hr⟩, hread, rfl⟩ := map_eq_ok h
    rw [readObject] at hread
    split at hread
    · cases hread
    · next members after hle hmembers =>
      split at hread
      · cases hread
      · next hclose =>
        cases hread
        exact ⟨after, .of_readMembers (by rw [hmembers]; rfl), hclose⟩
  · rintro ⟨after, hmembers, hclose⟩
    obtain ⟨⟨r, hr⟩, hread, rfl⟩ := map_eq_ok hmembers.readMembers
    rw [readObject]
    simp only [hread]
    split
    · next heq => cases hclose.symm.trans heq
    · next heq =>
      cases hclose.symm.trans heq
      rfl

end Lists

/-! ### Scalars -/

/-- A scalar is read that begins with the byte `b`: one of three words, a number or a string. -/
inductive ScalarRead (b : UInt8) (rest left : Bytes) : Json → Prop
  | null (hb : b = Byte.letter 'n') (h : readWord (afterFirst "null") rest = .ok left) :
      ScalarRead b rest left .null
  | true (hb : b = Byte.letter 't') (h : readWord (afterFirst "true") rest = .ok left) :
      ScalarRead b rest left (.bool true)
  | false (hb : b = Byte.letter 'f') (h : readWord (afterFirst "false") rest = .ok left) :
      ScalarRead b rest left (.bool false)
  | negative {n : JsonNumber} (hb : b = Byte.minus) (h : readNumber true rest = .ok (n, left)) :
      ScalarRead b rest left (.number n)
  | number {n : JsonNumber} (hb : (Byte.digit? b).isSome = true)
      (h : readNumber false (b :: rest) = .ok (n, left)) :
      ScalarRead b rest left (.number n)
  | string {s : String} (hb : b = Byte.quote) (h : readString rest = .ok (s, left)) :
      ScalarRead b rest left (.string s)

/-- What the reader of scalars takes is a scalar. -/
theorem ScalarRead.of_readScalar {b : UInt8} {rest left : Bytes} {v : Json}
    (h : readScalar b rest = some (.ok (v, left))) :
  ScalarRead b rest left v
  := by
  unfold readScalar at h
  split at h
  · next hb =>
    obtain ⟨_, hread, heq⟩ := map_eq_ok (Option.some.inj h)
    cases heq
    exact .null hb hread
  · split at h
    · next hb =>
      obtain ⟨_, hread, heq⟩ := map_eq_ok (Option.some.inj h)
      cases heq
      exact .true hb hread
    · split at h
      · next hb =>
        obtain ⟨_, hread, heq⟩ := map_eq_ok (Option.some.inj h)
        cases heq
        exact .false hb hread
      · split at h
        · next hb =>
          obtain ⟨_, hread, heq⟩ := map_eq_ok (Option.some.inj h)
          cases heq
          exact .negative hb hread
        · split at h
          · next hb =>
            obtain ⟨_, hread, heq⟩ := map_eq_ok (Option.some.inj h)
            cases heq
            exact .number hb hread
          · split at h
            · next hb =>
              obtain ⟨_, hread, heq⟩ := map_eq_ok (Option.some.inj h)
              cases heq
              exact .string hb hread
            · cases h

/-! ### Values -/

/-- A value is read from a text: a scalar, an array or an object behind blanks. -/
inductive ValueRead : (levels : Nat) → Bytes → Json → Bytes → Prop
  | scalar {levels : Nat} {text rest left : Bytes} {b : UInt8} {v : Json}
      (hblanks : skipBlanks text = b :: rest)
      (hscalar : readScalar b rest = some (.ok (v, left))) :
      ValueRead levels text v left
  | array {levels : Nat} {text rest after left : Bytes} {items : List Json}
      (hblanks : skipBlanks text = Byte.openBracket :: rest)
      (hitems : ItemsRead (readValue levels) true rest items after)
      (hclose : closeArray after = (none, left)) :
      ValueRead (levels + 1) text (.array items) left
  | object {levels : Nat} {text rest after left : Bytes} {members : List (String × Json)}
      (hblanks : skipBlanks text = Byte.openBrace :: rest)
      (hmembers : MembersRead (readValue levels) true rest members after)
      (hclose : closeObject after = (none, left)) :
      ValueRead (levels + 1) text (.ofMembers members) left

/-- The reader of values takes a value where there is one. -/
theorem readValue_iff {levels : Nat} {text left : Bytes} {v : Json} :
  (readValue levels).run text = .ok (v, left) ↔ ValueRead levels text v left
  := by
  constructor
  · intro h
    obtain ⟨⟨r, hr⟩, hread, rfl⟩ := map_eq_ok h
    rw [readValue] at hread
    split at hread
    · cases hread
    · next b rest hblanks =>
      simp only at hread
      split at hread
      · cases hread
      · next hscalar =>
        cases hread
        exact .scalar hblanks hscalar
      · split at hread
        · next hopen =>
          subst hopen
          cases levels with
          | zero => cases hread
          | succ levels =>
            simp only at hread
            split at hread
            · cases hread
            · next harray =>
              cases hread
              obtain ⟨after, hitems, hclose⟩ := readArray_iff.mp (by rw [harray]; rfl)
              exact .array hblanks hitems hclose
        · split at hread
          · next hopen =>
            subst hopen
            cases levels with
            | zero => cases hread
            | succ levels =>
              simp only at hread
              split at hread
              · cases hread
              · next hobject =>
                cases hread
                obtain ⟨after, hmembers, hclose⟩ := readObject_iff.mp (by rw [hobject]; rfl)
                exact .object hblanks hmembers hclose
          · cases hread
  · intro h
    rw [Reader.run, readValue]
    cases h with
    | scalar hblanks hscalar =>
      split
      · next heq => cases hblanks.symm.trans heq
      · next heq =>
        cases hblanks.symm.trans heq
        simp only
        split
        · next heq => cases hscalar.symm.trans heq
        · next heq =>
          cases hscalar.symm.trans heq
          rfl
        · next heq => cases hscalar.symm.trans heq
    | array hblanks hitems hclose =>
      obtain ⟨⟨r, hr⟩, hread, rfl⟩ := map_eq_ok (readArray_iff.mpr ⟨_, hitems, hclose⟩)
      split
      · next heq => cases hblanks.symm.trans heq
      · next heq =>
        cases hblanks.symm.trans heq
        simp only
        split
        · next heq => cases heq
        · next heq => cases heq
        · simp only [if_true, hread]
          rfl
    | object hblanks hmembers hclose =>
      obtain ⟨⟨r, hr⟩, hread, rfl⟩ := map_eq_ok (readObject_iff.mpr ⟨_, hmembers, hclose⟩)
      split
      · next heq => cases hblanks.symm.trans heq
      · next heq =>
        cases hblanks.symm.trans heq
        simp only
        split
        · next heq => cases heq
        · next heq => cases heq
        · rw [if_neg (by decide)]
          simp only [if_true, hread]
          rfl

/-! ### Whole texts -/

/-- A whole text is read exactly if nothing is left but blanks. -/
theorem Reader.document_iff {α : Type} {reader : Reader α} {text : Bytes} {a : α} :
  reader.document text = .ok a ↔ ∃ rest, reader.run text = .ok (a, rest) ∧ skipBlanks rest = []
  := by
  constructor
  · intro h
    rw [document] at h
    split at h
    · cases h
    · next rest hr hread =>
      split at h
      · next hblanks =>
        cases h
        refine ⟨rest, ?_, hblanks⟩
        rw [run, hread]
        rfl
      · cases h
  · rintro ⟨rest, hread, hblanks⟩
    exact document_of_run hread hblanks

/-- The levels that are left inside of an array or an object that is a whole text. -/
abbrev innerLevels : Nat := maxLevels - 1

/-- The text is an array with the given items. -/
inductive IsArray : Bytes → List Json → Prop
  | intro {text rest after left : Bytes} {items : List Json}
      (hblanks : skipBlanks text = Byte.openBracket :: rest)
      (hitems : ItemsRead (readValue innerLevels) true rest items after)
      (hclose : closeArray after = (none, left)) (hend : skipBlanks left = []) :
      IsArray text items

/-- The text is an object in which the given members stand, in this order; a key may stand in
it several times. -/
inductive IsObject : Bytes → List (String × Json) → Prop
  | intro {text rest after left : Bytes} {members : List (String × Json)}
      (hblanks : skipBlanks text = Byte.openBrace :: rest)
      (hmembers : MembersRead (readValue innerLevels) true rest members after)
      (hclose : closeObject after = (none, left)) (hend : skipBlanks left = []) :
      IsObject text members

/-- A text is an array if it is parsed as one. -/
theorem isArray_iff {text : Bytes} {items : List Json} :
  IsArray text items ↔ parse text = .ok (.array items)
  := by
  constructor
  · rintro ⟨hblanks, hitems, hclose, hend⟩
    exact Reader.document_iff.mpr ⟨_, readValue_iff.mpr (.array hblanks hitems hclose), hend⟩
  · intro h
    obtain ⟨left, hread, hend⟩ := Reader.document_iff.mp h
    cases readValue_iff.mp hread with
    | scalar _ hscalar => cases ScalarRead.of_readScalar hscalar
    | array hblanks hitems hclose => exact .intro hblanks hitems hclose hend

/-- A text that is an object is parsed as its members. -/
theorem IsObject.parse {text : Bytes} {members : List (String × Json)}
    (h : IsObject text members) :
  parse text = .ok (.ofMembers members)
  := by
  obtain ⟨hblanks, hmembers, hclose, hend⟩ := h
  exact Reader.document_iff.mpr ⟨_, readValue_iff.mpr (.object hblanks hmembers hclose), hend⟩

/-- A text that is parsed as an object is one, with members that make it. -/
theorem exists_isObject {text : Bytes} {found : List (String × Json)}
    (h : parse text = .ok (.object found)) :
  ∃ members, IsObject text members ∧ ofMembers members = .object found
  := by
  obtain ⟨left, hread, hend⟩ := Reader.document_iff.mp h
  have hvalue (v : Json) (hv : ValueRead maxLevels text v left) (hfound : v = .object found) :
      ∃ members, IsObject text members ∧ ofMembers members = .object found := by
    cases hv with
    | scalar _ hscalar =>
      subst hfound
      cases ScalarRead.of_readScalar hscalar
    | array => cases hfound
    | object hblanks hmembers hclose => exact ⟨_, .intro hblanks hmembers hclose hend, hfound⟩
  exact hvalue _ (readValue_iff.mp hread) rfl

end ChatPortal.Json
