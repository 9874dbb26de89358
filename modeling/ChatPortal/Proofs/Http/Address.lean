import ChatPortal.Http.Exchange
import ChatPortal.Proofs.Url.Whole

/-!
# Addresses

The URL of a call is put together from the base of a server and the path of the call, with one slash
between them however many there were, and its query says what the call says
(`Http.address_of_parts`).
-/

namespace ChatPortal

/-! ### Slashes -/

namespace Text

variable {c : Char} {front text : List Char}

/-- It does not matter how often a character stands at the front of a text. -/
theorem dropFront_replicate_append (c : Char) (n : Nat) (text : List Char) :
  dropFront c (List.replicate n c ++ text) = dropFront c text
  := by
  apply List.dropWhile_append_of_pos
  intro d hd
  rw [List.eq_of_mem_replicate hd, beq_self_eq_true]

theorem dropBack_append_replicate (c : Char) (n : Nat) (text : List Char) :
  dropBack c (text ++ List.replicate n c) = dropBack c text
  := by
  rw [dropBack, List.reverse_append, List.reverse_replicate]
  exact congrArg List.reverse (dropFront_replicate_append c n text.reverse)

/-- The character does not stand at the front any more. -/
theorem head?_dropFront_ne (c : Char) (text : List Char) :
  (dropFront c text).head? ≠ some c
  := by
  intro h
  have hnot := List.head?_dropWhile_not (· == c) text
  rw [dropFront] at h
  rw [h] at hnot
  simp at hnot

theorem getLast?_dropBack_ne (c : Char) (text : List Char) :
  (dropBack c text).getLast? ≠ some c
  := by
  rw [dropBack, List.getLast?_reverse]
  exact head?_dropFront_ne c text.reverse

/-- Behind a word without the character the end of a text is trimmed. -/
theorem dropBack_append {c : Char} {word : List Char} (hne : word ≠ []) (h : c ∉ word)
    (front text : List Char) :
  dropBack c (front ++ (word ++ text)) = front ++ (word ++ dropBack c text)
  := by
  have hstop : (word.reverse ++ front.reverse).dropWhile (· == c)
      = word.reverse ++ front.reverse := by
    obtain ⟨d, rest, hcons⟩ := List.exists_cons_of_ne_nil (List.reverse_ne_nil_iff.mpr hne)
    have hd : d ≠ c := by
      rintro rfl
      exact h (List.mem_reverse.mp (hcons ▸ List.mem_cons_self ..))
    rw [hcons]
    exact List.dropWhile_cons_of_neg (by simpa using hd)
  rw [dropBack, List.reverse_append, List.reverse_append, List.append_assoc, List.dropWhile_append]
  split
  · next hempty =>
    rw [dropBack, List.isEmpty_iff.mp hempty, hstop]
    simp
  · simp [dropBack]

end Text

namespace Http

open Gateway

theorem addressText_replicate (base path : List Char) (n m : Nat) :
  addressText (String.ofList (base ++ List.replicate n '/'))
      (String.ofList (List.replicate m '/' ++ path))
    = Text.dropBack '/' base ++ '/' :: Text.dropFront '/' path
  := by
  rw [addressText, String.toList_ofList, String.toList_ofList, Text.dropBack_append_replicate,
    Text.dropFront_replicate_append]

/-! ### The URL of a call -/

/-- The URL of a call to a host, with a path and a query. -/
def callUrl (home : Url) (path : List Char) (query : List (String × String)) : Url :=
  { home.anonymous with
    place := .path (Url.Path.ofText .web path)
    query := if query = [] then none else some (Url.formEncode query)
    fragment := none }

section CallUrl

variable (home : Url) (path : List Char) (query : List (String × String))

/-- The query of the URL of a call says what the call says. -/
theorem pairs_callUrl :
  (callUrl home path query).pairs = query
  := by
  rw [Url.pairs, callUrl]
  simp only
  split
  · next hnone =>
    rw [hnone]
    rfl
  · exact Url.formDecode_formEncode query

/-- A server finds the path and the query of the URL of a call where it cuts what it gets to see. -/
theorem cut_target_callUrl :
  Text.cut '?' (callUrl home path query).target
    = ((callUrl home path query).place.text, (callUrl home path query).query)
  := by
  have hmark : '?' ∉ Url.Path.text (Url.Path.ofText .web path) :=
    fun h => (Url.Path.bounds_of_mem_text h).2.1 rfl
  by_cases hnone : query = []
  · rw [Url.target, callUrl, if_pos hnone, Url.part, List.append_nil]
    exact Text.cut_of_not_mem hmark
  · rw [Url.target, callUrl, if_neg hnone, Url.part]
    exact Text.cut_append_cons hmark _

/-- There is no fragment in what a server gets to see. -/
theorem not_mem_target_callUrl :
  '#' ∉ (callUrl home path query).target
  := by
  have hpath : '#' ∉ Url.Path.text (Url.Path.ofText .web path) :=
    fun h => (Url.Path.bounds_of_mem_text h).2.2.1 rfl
  rw [Url.target, List.mem_append, not_or]
  refine ⟨hpath, ?_⟩
  by_cases hnone : query = []
  · rw [callUrl, if_pos hnone]
    nofun
  · rw [callUrl, if_neg hnone, Url.part, List.mem_cons, not_or]
    exact ⟨by decide, fun h => (Url.bounds_of_mem_formEncode h true).2.1 rfl⟩

end CallUrl

/-- A URL without a path is read as its host. -/
theorem exists_authority {name : List Char} {home : Url} (hname : Url.IsName name)
    (hhome : Url.parse? ("http://".toList ++ (name ++ ['/'])) = some home) :
  ∃ authority : Url.Authority, authority.host.isSome = true
    ∧ Url.authority? "http".toList (Url.counted name) = some (authority, [])
    ∧ home = { scheme := "http".toList, authority, place := .path (Url.Path.ofText .web ['/']) }
  := by
  have hparse := Url.parse?_http hname (Url.counted_ne_nil hhome) (List.forall_mem_nil _)
  obtain ⟨⟨authority, rest⟩, hfound, heq⟩ := Option.map_eq_some_iff.mp (hparse.symm.trans hhome)
  have hback : '\\' ∉ Url.counted name := fun h => (hname.counted.bounds h).2.2.1 rfl
  obtain ⟨hhost, rfl⟩ := Url.authority?_http hback hfound
  exact ⟨authority, hhost, hfound, heq.symm⟩

/-- A call whose address is that of a host with a path goes there, if calls can be made to it. -/
theorem address_eq {name tail : List Char} {home : Url} (hname : Url.IsName name)
    (hhome : Url.parse? ("http://".toList ++ (name ++ ['/'])) = some home)
    (htail : ∀ c ∈ tail, c ≠ '?' ∧ c ≠ '#') {base : String} {call : Call}
    (htext : addressText base call.path = "http://".toList ++ (name ++ '/' :: tail)) :
  address base call
    = let url := callUrl home (Url.cleaned ('/' :: tail)) call.query
      if isCallable url = true then .ok url else .error (unbuildable url)
  := by
  obtain ⟨authority, hhost, hfound, rfl⟩ := exists_authority hname hhome
  have hparse := Url.parse?_http hname (Url.counted_ne_nil hhome) htail
  rw [hfound] at hparse
  have hhas (place : Url.Place) :
      Url.hasHost { scheme := "http".toList, authority := some authority, place } = true := hhost
  have hpairs (path : List Char) (place : Url.Place) :
      (Url.anonymous ⟨"http".toList, some authority, .path (Url.Path.ofText .web path), none,
          none⟩).addPairs call.query
        = callUrl ⟨"http".toList, some authority, place, none, none⟩ path call.query := by
    by_cases hnone : call.query = []
    · rw [Url.addPairs, if_pos hnone, callUrl, if_pos hnone]
      rfl
    · rw [Url.addPairs, if_neg hnone, callUrl, if_neg hnone]
      rfl
  rw [address, htext, hparse]
  simp only [Option.map_some, List.nil_append, hhas, Bool.not_true, Bool.false_eq_true, if_false,
    hpairs _ (.path (Url.Path.ofText .web ['/']))]

/-- A trimmed path with another one behind a slash begins with a slash. -/
theorem exists_tail {mount path : List Char} (hmount : mount = [] ∨ mount.head? = some '/')
    (hplain : ∀ c ∈ mount ++ path, c ≠ '?' ∧ c ≠ '#') :
  ∃ tail, Text.dropBack '/' mount ++ '/' :: Text.dropFront '/' path = '/' :: tail
    ∧ ∀ c ∈ tail, c ≠ '?' ∧ c ≠ '#'
  := by
  rw [List.forall_mem_append] at hplain
  have hpath : ∀ c ∈ Text.dropFront '/' path, c ≠ '?' ∧ c ≠ '#' :=
    fun c hc => hplain.2 c (List.dropWhile_subset _ hc)
  have hfront : Text.dropBack '/' mount <+: mount :=
    List.reverse_suffix.mp (by simpa [Text.dropBack] using List.dropWhile_suffix _)
  cases htrimmed : Text.dropBack '/' mount with
  | nil => exact ⟨_, rfl, hpath⟩
  | cons c front =>
    rw [htrimmed] at hfront
    obtain ⟨rest, rfl⟩ := hfront
    obtain rfl : c = '/' := by simpa using hmount
    refine ⟨front ++ '/' :: Text.dropFront '/' path, rfl, ?_⟩
    have hrest := fun d hd => hplain.1 d
      (List.mem_append_left rest (List.mem_cons_of_mem '/' hd))
    exact List.forall_mem_append.mpr ⟨hrest, List.forall_mem_cons.mpr ⟨by decide, hpath⟩⟩

/-- The host stays without the name and password before it. -/
theorem host_anonymous (authority : Url.Authority) :
  authority.anonymous.host = authority.host
  := by
  rw [Url.Authority.anonymous]
  split
  · rfl
  · rfl

/-- A call can be made to a host whose name has only characters that calls may have, if the URL is
not too long. -/
theorem isCallable_callUrl {authority : Url.Authority} {home : Url}
    (hscheme : home.scheme = "http".toList) (hauthority : home.authority = some authority)
    {path : List Char} {query : List (String × String)} :
  isCallable (callUrl home path query) = true
    ↔ (∀ host ∈ authority.host, host.text.any isUncallable = false)
      ∧ (Utf8.encode (callUrl home path query).text).length ≤ 65534
  := by
  have hcall : isCallScheme (callUrl home path query).scheme = true := by
    rw [callUrl, Url.anonymous, hscheme]
    rfl
  have hhost : (callUrl home path query).authority.bind (·.host) = authority.host := by
    rw [callUrl, Url.anonymous, hauthority]
    exact host_anonymous authority
  rw [isCallable, hcall, hhost, Bool.true_and, Bool.and_eq_true, decide_eq_true_iff,
    maxAddressLength]
  apply and_congr_left'
  cases authority.host with
  | none => simp
  | some _ => simp

/-- However many slashes stand at the end of a base and at the front of a path, one stands between
them in the address, and it is read as one and the same URL: the host of the base, the segments of
its path and of the path of the call, and no fragment.  Its query says exactly what the call says,
and there is none where the call says nothing; so a server finds the path and the query where it
cuts what it gets to see.  The call goes there unless the name of the host has a character that no
call can be made to or the URL is too long. -/
theorem address_of_parts {name mount path : List Char} {home : Url} (hname : Url.IsName name)
    (hhome : Url.parse? ("http://".toList ++ (name ++ ['/'])) = some home)
    (hmount : mount = [] ∨ mount.head? = some '/')
    (hplain : ∀ c ∈ mount ++ path, c ≠ '?' ∧ c ≠ '#') (call : Call) :
  ∃ (front back : List Char) (url : Url),
    (∀ n m : Nat,
      let base := String.ofList ("http://".toList ++ (name ++ mount) ++ List.replicate n '/')
      let given := { call with path := String.ofList (List.replicate m '/' ++ path) }
      addressText base given.path = front ++ '/' :: back
        ∧ address base given = if isCallable url = true then .ok url else .error (unbuildable url))
    ∧ front.getLast? ≠ some '/' ∧ back.head? ≠ some '/'
    ∧ front = "http://".toList ++ (name ++ Text.dropBack '/' mount)
    ∧ back = Text.dropFront '/' path
    ∧ url = { home.anonymous with
      place := .path (Url.Path.ofText .web (Url.cleaned (Text.dropBack '/' mount ++ '/' :: back)))
      query := if call.query = [] then none else some (Url.formEncode call.query)
      fragment := none }
    ∧ url.pairs = call.query
    ∧ Text.cut '?' (Request.ofCall url call).target.toList = (url.place.text, url.query)
    ∧ '#' ∉ (Request.ofCall url call).target.toList
    ∧ (isCallable url = true
      ↔ (∀ host ∈ home.authority.bind (·.host), host.text.any isUncallable = false)
        ∧ (Utf8.encode url.text).length ≤ 65534)
  := by
  obtain ⟨tail, htail, hcounts⟩ := exists_tail hmount hplain
  obtain ⟨authority, -, -, hauthority⟩ := exists_authority hname hhome
  have hne : name ≠ [] := by
    rintro rfl
    exact Url.counted_ne_nil hhome rfl
  have htrim : Text.dropBack '/' ("http://".toList ++ (name ++ mount))
      = "http://".toList ++ (name ++ Text.dropBack '/' mount) :=
    Text.dropBack_append hne (fun h => (hname.bounds h).2.2.2 rfl) _ _
  refine ⟨_, _, callUrl home (Url.cleaned ('/' :: tail)) call.query, fun n m => ⟨?seam, ?url⟩,
    ?front, Text.head?_dropFront_ne '/' path, rfl, rfl, ?spelled, pairs_callUrl .., ?cut, ?marks,
    ?sent⟩
  case seam =>
    rw [addressText_replicate, htrim]
  case url =>
    apply address_eq hname hhome hcounts
    rw [addressText_replicate, htrim, ← htail, List.append_assoc, List.append_assoc]
  case front =>
    rw [← htrim]
    exact Text.getLast?_dropBack_ne '/' _
  case spelled =>
    rw [htail]
    rfl
  case cut =>
    rw [Request.ofCall, String.toList_ofList]
    exact cut_target_callUrl ..
  case marks =>
    rw [Request.ofCall, String.toList_ofList]
    exact not_mem_target_callUrl _ _ _
  case sent =>
    subst hauthority
    exact isCallable_callUrl rfl rfl

/-- Two slashes at the end of a base and three at the front of a path, or none, with pairs that hold
the signs of a query and a pair without a key and a value. -/
theorem address_of_parts_slashes :
  let call (path : String) : Call :=
    { method := "GET", path, query := [("q", "a&b=c#+%é"), ("", "")] }
  ∃ url, address "http://localhost:8000/v1//" (call "///api/x y") = .ok url
    ∧ address "http://localhost:8000/v1" (call "api/x y") = .ok url
    ∧ url.text = "http://localhost:8000/v1/api/x%20y?q=a%26b%3Dc%23%2B%25%C3%A9&=".toList
    ∧ url.pairs = [("q", "a&b=c#+%é"), ("", "")]
  := by
  intro call
  let home : Url :=
    { scheme := "http".toList
      authority := some { host := some (.domain "localhost".toList), port := some 8000 }
      place := .path [[]] }
  have hname : Url.IsName "localhost:8000".toList := by decide
  have hhome : Url.parse? ("http://".toList ++ ("localhost:8000".toList ++ ['/'])) = some home := by
    decide +kernel
  have hmount : "/v1".toList = [] ∨ "/v1".toList.head? = some '/' := .inr rfl
  have hplain : ∀ c ∈ "/v1".toList ++ "api/x y".toList, c ≠ '?' ∧ c ≠ '#' := by simp
  obtain ⟨front, back, url, haddress, -, -, -, hback, hurl, hpairs, -, -, hcallable⟩ :=
    address_of_parts hname hhome hmount hplain (call "")
  have htext : url.text
      = "http://localhost:8000/v1/api/x%20y?q=a%26b%3Dc%23%2B%25%C3%A9&=".toList := by
    rw [hurl, hback]
    decide +kernel
  have hok : isCallable url = true := by
    refine hcallable.mpr ⟨?_, ?_⟩
    · rintro host ⟨⟩
      rfl
    · rw [htext]
      decide +kernel
  have hsent (n m : Nat) := (haddress n m).2
  simp only [if_pos hok] at hsent
  exact ⟨url, hsent 2 3, hsent 0 0, htext, hpairs⟩

end Http

end ChatPortal
