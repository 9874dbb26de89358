import ChatPortal.Proofs.App.Acting

/-!
# What the user has chosen

`Chosen schema journal` says that a schema was chosen last: by the number that stands for it
in the list that was shown then (`Listed`, `Picks`).  Every scene of a run knows what was
listed and chosen before it (`Scene.Knows`), so whatever is asked for a schema is asked for
the one that was chosen last (`chosen_of_sent`).
-/

namespace ChatPortal.App

open Client Gateway Http Portal Reauth Terminal

/-! ### Numbers -/

/-- Some words are the decimal digits of a number; a plus sign may stand before them, and any
zeros. -/
def IsNumeral (words : String) (n : Nat) : Prop :=
  ∃ sign digits, words.toList = sign ++ digits ∧ (sign = [] ∨ sign = ['+']) ∧ digits ≠ []
    ∧ (∀ c ∈ digits, c.isDigit = true) ∧ n = Nat.ofDigitChars 10 digits 0

/-- Some words pick an option: they are its number in the list, counted from one. -/
def Picks (options : List SchemaOption) (words : String) (option : SchemaOption) : Prop :=
  ∃ n, IsNumeral words n ∧ 1 ≤ n ∧ options[n - 1]? = some option

/-- The digits behind the plus sign, if there is one, make the number. -/
theorem number?_of_digits {text digits : List Char}
    (h : text = '+' :: digits ∨ text = digits ∧ ∀ rest, text ≠ '+' :: rest) {n : Nat} :
  number? text = some n
    ↔ digits ≠ [] ∧ (∀ c ∈ digits, c.isDigit = true) ∧ n = Nat.ofDigitChars 10 digits 0
  := by
  have hnumber : number? text
      = if digits ≠ [] ∧ digits.all Char.isDigit = true then
          some (Nat.ofDigitChars 10 digits 0)
        else none := by
    rcases h with rfl | ⟨rfl, hplain⟩
    · rfl
    · simp only [number?]
      rfl
  rw [hnumber, Option.ite_none_right_eq_some, List.all_eq_true, and_assoc, Option.some.injEq,
    eq_comm]

/-- The program reads numbers. -/
theorem number?_eq_some {words : String} {n : Nat} :
  number? words.toList = some n ↔ IsNumeral words n
  := by
  have hplus : ¬ '+'.isDigit = true := by decide
  by_cases hsigned : ∃ digits, words.toList = '+' :: digits
  · obtain ⟨digits, htext⟩ := hsigned
    rw [number?_of_digits (.inl htext), IsNumeral, htext]
    constructor
    · intro h
      exact ⟨['+'], digits, rfl, .inr rfl, h⟩
    · rintro ⟨sign, digits', hsplit, rfl | rfl, hsome, hall, hn⟩
      · obtain rfl : '+' :: digits = digits' := hsplit
        exact absurd (hall '+' (by simp)) hplus
      · obtain rfl : digits = digits' := List.tail_eq_of_cons_eq hsplit
        exact ⟨hsome, hall, hn⟩
  · have hplain : ∀ rest, words.toList ≠ '+' :: rest := fun rest heq => hsigned ⟨rest, heq⟩
    rw [number?_of_digits (.inr ⟨rfl, hplain⟩), IsNumeral]
    constructor
    · intro h
      exact ⟨[], _, rfl, .inl rfl, h⟩
    · rintro ⟨sign, digits, hsplit, rfl | rfl, h⟩
      · rw [hsplit]
        exact h
      · exact absurd hsplit (hplain digits)

/-- The program picks the option with a number. -/
theorem pick?_eq_some {options : List SchemaOption} {words : String} {option : SchemaOption} :
  pick? options words = some option ↔ Picks options words option
  := by
  rw [pick?]
  constructor
  · intro h
    split at h
    · next index hnumber => exact ⟨index + 1, number?_eq_some.mp hnumber, by omega, h⟩
    · cases h
  · rintro ⟨n, hnumeral, hpositive, hget⟩
    obtain ⟨index, rfl⟩ : ∃ index, n = index + 1 := ⟨n - 1, by omega⟩
    rw [number?_eq_some.mpr hnumeral]
    exact hget

theorem pick?_eq_none {options : List SchemaOption} {words : String} :
  pick? options words = none ↔ ∀ option, ¬ Picks options words option
  := by
  rw [Option.eq_none_iff_forall_ne_some]
  exact forall_congr' fun option => not_congr pick?_eq_some

/-! ### What was listed and chosen -/

/-- Words at the list that neither end the program nor pick an option. -/
def IsRejected (options : List SchemaOption) (words : String) : Prop :=
  words ≠ "q" ∧ ∀ option, ¬ Picks options words option

/-- The options were listed last: by the reply to the last request, and no choice has been
made since. -/
def Listed (options : List SchemaOption) (journal : Journal) : Prop :=
  ∃ before call arrival after, journal = before ++ .sent call :: .received arrival :: after
    ∧ call.path = optionPath ∧ judge (.list SchemaOption.decoder) arrival = .ok options
    ∧ Journal.sent after = []
    ∧ ∀ words, .read .choice (.text words) ∈ after → IsRejected options words

/-- The schema was chosen last, from the options that were listed then. -/
def Chosen (schema : String) (journal : Journal) : Prop :=
  ∃ before words after options option, journal = before ++ .read .choice (.text words) :: after
    ∧ Listed options before ∧ Picks options words option ∧ option.schema = schema
    ∧ ∀ line, .read .choice line ∉ after

variable {options : List SchemaOption} {schema : String} {journal : Journal} {entry : Entry}

/-- What is neither a request nor a choice leaves the list. -/
theorem Listed.concat (h : Listed options journal) (hsent : Journal.sent [entry] = [])
    (hread : ∀ words, entry = .read .choice (.text words) → IsRejected options words) :
  Listed options (journal ++ [entry])
  := by
  obtain ⟨before, call, arrival, after, rfl, hpath, hjudge, hnone, hrejected⟩ := h
  refine ⟨before, call, arrival, after ++ [entry], by simp, hpath, hjudge, ?_, fun words hmem => ?_⟩
  · rw [Journal.sent_append, hnone, hsent, List.nil_append]
  · rcases List.mem_append.mp hmem with hmem | hmem
    · exact hrejected words hmem
    · exact hread words (List.mem_singleton.mp hmem).symm

/-- What is no line at the list leaves the choice. -/
theorem Chosen.concat (h : Chosen schema journal) (hread : ∀ line, entry ≠ .read .choice line) :
  Chosen schema (journal ++ [entry])
  := by
  obtain ⟨before, words, after, options, option, rfl, hlisted, hpicks, hschema, hlast⟩ := h
  refine ⟨before, words, after ++ [entry], options, option, by simp, hlisted, hpicks, hschema,
    fun line hmem => ?_⟩
  rcases List.mem_append.mp hmem with hmem | hmem
  · exact hlast line hmem
  · exact hread line (List.mem_singleton.mp hmem).symm

/-! ### What a scene knows -/

/-- The schema that a request is about. -/
def Request.schema? : Request → Option String
  | .detail schema | .beginChat schema | .say schema _ => some schema
  | _ => none

/-- The schema that a view is about. -/
def View.schema? : View → Option String
  | .chat schema => some schema
  | _ => none

namespace Scene

/-- The schema that a scene is about. -/
def schema? : Scene → Option String
  | .printing _ _ next => next.schema?
  | .entering view | .asking (.retry view) => view.schema?
  | .asking (.message schema) => some schema
  | .calling request | .awaiting request | .notifying _ request | .failed request =>
    request.schema?
  | _ => none

/-- The options from which the user is to choose. -/
def options? : Scene → Option (List SchemaOption)
  | .printing _ _ next => next.options?
  | .asking (.choice options) => some options
  | _ => none

/-- The reply to the request for the options is awaited. -/
def awaitsOptions : Scene → Bool
  | .printing _ _ next => next.awaitsOptions
  | .awaiting .options => true
  | _ => false

/-- A scene about a schema is about the one that was chosen last, the options from which the
user is to choose were listed last, and the options are awaited right after they were asked
for. -/
structure Knows (journal : Journal) (scene : Scene) : Prop where
  chosen : ∀ schema ∈ scene.schema?, Chosen schema journal
  listed : ∀ options ∈ scene.options?, Listed options journal
  asked : scene.awaitsOptions = true → scene = .awaiting .options
    ∧ ∃ before call, journal = before ++ [.sent call] ∧ call.path = optionPath

variable {silent : Prop} {start next scene : Scene}

/-- The schema of a scene is the one of the scene before, or it was chosen from the options
right then. -/
theorem Follows.schema? (h : Follows start entry next) {schema : String}
    (hschema : schema ∈ next.schema?) :
  (schema ∈ start.schema? ∧ ∀ line, entry ≠ .read .choice line)
    ∨ ∃ options words option, start = .asking (.choice options)
      ∧ entry = .read .choice (.text words) ∧ Picks options words option
      ∧ option.schema = schema
  := by
  cases h with
  | answers hleads =>
    cases hleads with
    | picks _ hpick =>
      exact .inr ⟨_, _, _, rfl, rfl, pick?_eq_some.mp hpick, Option.some.inj hschema⟩
    | retries view => exact .inl ⟨hschema, nofun⟩
    | blank | setsLocale | speaks => exact .inl ⟨hschema, nofun⟩
    | _ => cases hschema
  | receives hbrings =>
    cases hbrings with
    | describes | begins | saysNothing | replies => exact .inl ⟨hschema, nofun⟩
    | _ => cases hschema
  | @waits request entry haside =>
    refine .inl ⟨hschema, ?_⟩
    rintro line rfl
    cases haside
  | ends => cases hschema
  | _ => first | exact .inl ⟨hschema, nofun⟩ | cases hschema

/-- The options from which the user is to choose were there before, and were not chosen from,
or the reply has listed them. -/
theorem Follows.options? (h : Follows start entry next)
    (hoptions : options ∈ next.options?) :
  (options ∈ start.options? ∧ Journal.sent [entry] = []
      ∧ ∀ words, entry = .read .choice (.text words) → IsRejected options words)
    ∨ ∃ arrival, start = .awaiting .options ∧ entry = .received arrival
      ∧ judge (.list SchemaOption.decoder) arrival = .ok options
  := by
  cases h with
  | prints => exact .inl ⟨hoptions, rfl, nofun⟩
  | answers hleads =>
    cases hleads with
    | rejects hstays hpick =>
      obtain rfl := Option.some.inj hoptions
      refine .inl ⟨rfl, rfl, ?_⟩
      rintro _ ⟨⟩
      exact ⟨hstays, pick?_eq_none.mp hpick⟩
    | _ => cases hoptions
  | receives hbrings =>
    cases hbrings with
    | lists hjudge =>
      obtain rfl := Option.some.inj hoptions
      exact .inr ⟨_, rfl, rfl, hjudge⟩
    | _ => cases hoptions
  | _ => cases hoptions

/-- There is nothing to know at the first view. -/
theorem Knows.first (credential : String) :
  Knows [] (.entering (firstView credential))
  := by
  rw [firstView]
  constructor
  · split
    · simp [Scene.schema?, View.schema?]
    · simp [Scene.schema?, View.schema?]
  · simp [Scene.options?]
  · simp [awaitsOptions]

/-- A scene knows what the one before knew, and what was seen between them. -/
theorem Knows.follow (h : Knows journal start) (hfollows : Follows start entry next) :
  Knows (journal ++ [entry]) next
  := by
  refine ⟨fun schema hschema => ?_, fun options hoptions => ?_, ?_⟩
  · rcases hfollows.schema? hschema with
      ⟨hkept, hread⟩ | ⟨options, words, option, rfl, rfl, hpicks, hoption⟩
    · exact (h.chosen schema hkept).concat hread
    · exact ⟨journal, words, [], options, option, rfl, h.listed options rfl, hpicks, hoption,
        nofun⟩
  · rcases hfollows.options? hoptions with ⟨hkept, hsent, hread⟩ | ⟨arrival, rfl, rfl, hjudge⟩
    · exact (h.listed options hkept).concat hsent hread
    · obtain ⟨-, before, call, rfl, hpath⟩ := h.asked rfl
      exact ⟨before, call, arrival, [], by simp, hpath, hjudge, rfl, nofun⟩
  · intro hawaits
    cases hfollows with
    | prints => cases (h.asked hawaits).1
    | @sends request call hcall =>
      cases request with
      | options => exact ⟨rfl, journal, _, rfl, congrArg Call.path hcall⟩
      | _ => cases hawaits
    | receives hbrings =>
      cases hbrings with
      | _ => cases hawaits
    | answers hleads =>
      cases hleads with
      | _ => cases hawaits
    | _ => cases hawaits

/-- A scene knows what the one before knew. -/
theorem Knows.slip (h : Knows journal start) (hslips : Slips silent start next) :
  Knows journal next
  := by
  cases hslips with
  | goesOn request =>
    refine ⟨fun schema hschema => h.chosen schema ?_, ?_, ?_⟩
    · cases request with
      | signIn | options => cases hschema
      | _ => exact hschema
    · cases request with
      | signIn | options | detail | beginChat | say => nofun
    · cases request with
      | signIn | options | detail | beginChat | say => nofun
  | givesUp _ request => exact ⟨h.chosen, nofun, nofun⟩
  | stops => exact ⟨nofun, nofun, nofun⟩

/-- Every scene of a journal knows what was seen before it. -/
theorem Passes.knows (h : Passes silent start journal scene) {before : Journal}
    (hstart : Knows before start) :
  Knows (before ++ journal) scene
  := by
  induction h generalizing before with
  | nil scene =>
    rw [List.append_nil]
    exact hstart
  | slip hslips _ ih => exact ih (hstart.slip hslips)
  | @cons start next scene entry journal hentry _ ih =>
    have hnext : Knows (before ++ [entry] ++ journal) scene := ih (hstart.follow hentry)
    rw [List.append_assoc] at hnext
    exact hnext

end Scene

end ChatPortal.App
