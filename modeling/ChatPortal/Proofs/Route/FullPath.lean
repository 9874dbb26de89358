import ChatPortal.Proofs.Url.Path
import ChatPortal.Proofs.Url.Reference
import ChatPortal.Route.Table

/-!
# Full paths are read back

The full path of a target is its path in normal form with its pairs as the query, and nothing of
one part gets into another (`Target.sections_fullPath`).  So a full path leads to the first route
whose path is that normal form, with all pairs of the query (`RouteTable.resolve?_fullPath`), and
it leads back to its own target exactly when that is the route of the target
(`RouteTable.fullPath_leads_back`).
-/

namespace ChatPortal

open Url

namespace Target

variable {target : Target}

/-- The query as the full path has it. -/
def writtenQuery (target : Target) : Option (List Char) :=
  if target.query = [] then none else some (formEncode target.query)

theorem toList_fullPath (target : Target) :
  target.fullPath.toList = Path.normal target.path.toList ++ part '?' target.writtenQuery
  := String.toList_ofList

theorem eq_of_mem_writtenQuery {text : List Char} (h : text ∈ target.writtenQuery) :
  text = formEncode target.query
  := by
  rw [writtenQuery] at h
  split at h
  · cases h
  · exact (Option.some.inj h).symm

/-- All pairs are read back from the query. -/
theorem formDecode_writtenQuery (target : Target) :
  formDecode (target.writtenQuery.getD []) = target.query
  := by
  rw [writtenQuery]
  split
  · next hempty => rw [hempty]; rfl
  · exact formDecode_formEncode target.query

/-- A full path is cut into the path in normal form and the query. -/
theorem sections_fullPath (target : Target) :
  Sections.ofText target.fullPath.toList
    = ⟨Path.normal target.path.toList, target.writtenQuery, none⟩
  := by
  rw [toList_fullPath]
  apply Sections.ofText_append_part
  · intro c hc
    obtain ⟨-, hmark, hhash, -⟩ := Path.bounds_of_mem_normal hc
    exact ⟨hmark, hhash⟩
  · intro text htext hmem
    rw [eq_of_mem_writtenQuery htext] at hmem
    exact (bounds_of_mem_formEncode hmem true).2.1 rfl

/-- On a page of the web a full path that begins with one slash leads to its path in normal form
and its query on the host of the page. -/
theorem join?_fullPath (base : Url) (h : ¬ ['/', '/'] <+: Path.normal target.path.toList) :
  join? base target.fullPath.toList
    = some
      { base with
        place := .path (Path.ofText .web (Path.normal target.path.toList))
        query := target.writtenQuery
        fragment := none }
  := by
  obtain ⟨path, hnormal⟩ := Path.exists_normal_eq_cons target.path.toList
  have hbounds {c : Char} (hc : c ∈ path) : 0x20 < c.toNat ∧ c ≠ '?' ∧ c ≠ '#' ∧ c ≠ '\\' :=
    Path.bounds_of_mem_normal (hnormal ▸ List.mem_cons_of_mem _ hc)
  have hslashes : slashes ('/' :: path) = 1 := by
    cases path with
    | nil => rfl
    | cons c path =>
      obtain ⟨-, -, -, hback⟩ := hbounds List.mem_cons_self
      have hslash : c ≠ '/' := by
        rintro rfl
        exact h (hnormal ▸ List.prefix_append ['/', '/'] path)
      simp [slashes, Kind.isSlash, Kind.isSpecial, hslash, hback]
  have hcounts : ∀ text ∈ target.writtenQuery, ∀ c ∈ text, 0x20 < c.toNat ∧ c ≠ '#' := by
    intro text htext c hc
    rw [eq_of_mem_writtenQuery htext] at hc
    obtain ⟨hlarge, hhash, -⟩ := bounds_of_mem_formEncode hc true
    exact ⟨hlarge, hhash⟩
  have hstands (special : Bool) :
      target.writtenQuery.map (escapeWhere (inQuery special)) = target.writtenQuery := by
    cases hquery : target.writtenQuery with
    | none => rfl
    | some text => rw [eq_of_mem_writtenQuery hquery, Option.map_some, escapeWhere_formEncode]
  have hjoin := join?_path base hslashes
    (fun c hc => ⟨(hbounds hc).1, (hbounds hc).2.1, (hbounds hc).2.2.1⟩) hcounts
  rw [hstands] at hjoin
  rw [toList_fullPath, hnormal]
  exact hjoin

end Target

namespace RouteTable

/-- A full path leads to the first route with its path in normal form, with all pairs of the
query. -/
theorem resolve?_fullPath (table : RouteTable) {target : Target}
    (h : ¬ ['/', '/'] <+: Path.normal target.path.toList) :
  table.resolve? target.fullPath
    = (table.routes.find? (·.path.toList == Path.normal target.path.toList)).map
        fun route => { route.target with query := target.query }
  := by
  simp only [resolve?, Target.join?_fullPath origin h, pairs, Target.formDecode_writtenQuery,
    Url.Place.text, Path.text_ofText_normal]

/-- Whatever the routes of a table are, and whatever a target is, of a route of the table or not,
with any pairs of a query: if its path in normal form does not begin with two slashes, its full
path leads back to the very target exactly when the path is in normal form already and the first
route of the table with that path has the name of the target and the same need for a session.
In any case nothing of the query gets into the path or becomes a fragment: the full path is cut
into the path in normal form and the query, and what is read of it is that path and all pairs in
their order. -/
theorem fullPath_leads_back (table : RouteTable) (target : Target)
    (h : ¬ ['/', '/'] <+: Path.normal target.path.toList) :
  (table.resolve? target.fullPath = some target
      ↔ Path.normal target.path.toList = target.path.toList
        ∧ ∃ first, table.routes.find? (·.path = target.path) = some first
          ∧ first.name = target.name ∧ first.needsSession = target.needsSession)
    ∧ Sections.ofText target.fullPath.toList
      = ⟨Path.normal target.path.toList,
        if target.query = [] then none else some (formEncode target.query), none⟩
    ∧ ∃ url, join? origin target.fullPath.toList = some url
      ∧ url.place.text = Path.normal target.path.toList ∧ url.pairs = target.query
      ∧ url.fragment = none
  := by
  have hresolve := table.resolve?_fullPath h
  have hfirst (hnormal : Path.normal target.path.toList = target.path.toList) :
      table.routes.find? (·.path.toList == Path.normal target.path.toList)
        = table.routes.find? (·.path = target.path) := by
    have hsame : (fun route : Route => route.path.toList == target.path.toList)
        = fun route => decide (route.path = target.path) := by
      funext route
      rw [Bool.eq_iff_iff, beq_iff_eq, String.toList_inj, decide_eq_true_iff]
    rw [hnormal, hsame]
  refine ⟨⟨?back, ?there⟩, target.sections_fullPath, _, target.join?_fullPath origin h,
    Path.text_ofText_normal _, target.formDecode_writtenQuery, rfl⟩
  case back =>
    intro hback
    obtain ⟨first, hfind, heq⟩ := Option.map_eq_some_iff.mp (hresolve.symm.trans hback)
    have hnormal : Path.normal target.path.toList = target.path.toList := by
      have hread : first.path.toList = Path.normal target.path.toList := by
        simpa using List.find?_some hfind
      rw [← hread, ← heq]
      rfl
    refine ⟨hnormal, first, (hfirst hnormal).symm.trans hfind, ?_⟩
    rw [← heq]
    exact ⟨rfl, rfl⟩
  case there =>
    rintro ⟨hnormal, first, hfind, hname, hneeds⟩
    have hpath : first.path = target.path := by simpa using List.find?_some hfind
    rw [hresolve, hfirst hnormal, hfind, Option.map_some]
    simp [Route.target, hname, hpath, hneeds]

/-- Of two routes with a path, the first has its full path read back with signs that set pairs
apart, and the second has not; a path that needs escapes is not read back either. -/
theorem escaped_path_is_read_back :
  let first : Route := ⟨"first", "/caf%C3%A9/a%20b", false⟩
  let second : Route := { first with name := "second" }
  let raw : Route := ⟨"raw", "/café/./a b", false⟩
  let table : RouteTable := ⟨[raw, first, second], first, raw⟩
  let query := [("a&b", "=+%#? é€😀"), ("", ""), ("#", "/../?")]
  let asked (route : Route) : Target := { route.target with query }
  (¬ ['/', '/'] <+: Path.normal (asked first).path.toList)
    ∧ table.resolve? (asked first).fullPath = some (asked first)
    ∧ table.resolve? (asked second).fullPath ≠ some (asked second)
    ∧ table.resolve? (asked raw).fullPath ≠ some (asked raw)
  := by
  intro first second raw table query asked
  have hslashes : ¬ ['/', '/'] <+: Path.normal (asked first).path.toList := by decide +kernel
  have hraw : ¬ ['/', '/'] <+: Path.normal (asked raw).path.toList := by decide +kernel
  obtain ⟨hfirst, -⟩ := fullPath_leads_back table (asked first) hslashes
  obtain ⟨hsecond, -⟩ := fullPath_leads_back table (asked second) hslashes
  obtain ⟨hescaped, -⟩ := fullPath_leads_back table (asked raw) hraw
  refine ⟨hslashes, hfirst.mpr ⟨by decide +kernel, first, by decide +kernel, rfl, rfl⟩, ?_, ?_⟩
  · rw [ne_eq, hsecond]
    rintro ⟨-, found, hfind, hname, -⟩
    have hfound : table.routes.find? (·.path = second.path) = some first := by decide +kernel
    obtain rfl : found = first := Option.some.inj (hfind.symm.trans hfound)
    revert hname
    decide
  · rw [ne_eq, hescaped]
    rintro ⟨hnormal, -⟩
    revert hnormal
    decide +kernel

end RouteTable

end ChatPortal
