import ChatPortal.Proofs.App.Acting

/-!
# Between two lines

Every scene has a number of requests and a number of views that the program makes at most
before it reads the next line (`Scene.requests`, `Scene.views`), and neither is above two.  A
request uses up one, a view uses up one, and nothing but a line brings new ones
(`Follows.budget`).  So however a run goes, it ends, and between two lines it sends two
requests and enters two views at most (`run_ends`).
-/

namespace ChatPortal

open Client Gateway Http Portal Reauth Terminal

/-- The targets of the views that were entered. -/
def Client.Journal.viewed (journal : Journal) : List Target :=
  journal.filterMap fun
    | .viewed target => some target
    | _ => none

namespace App

/-- The requests from this one on before the next line. -/
def Request.requests : Request → Nat
  | .signIn _ _ | .detail _ => 2
  | _ => 1

/-- The views from this request on before the next line: the view to sign in after a restart,
and after signing in the portal before that. -/
def Request.views : Request → Nat
  | .signIn _ _ => 2
  | _ => 1

namespace Scene

/-- The requests before the next line. -/
def requests : Scene → Nat
  | .printing _ _ next => next.requests
  | .entering .signIn => 0
  | .entering .home => 1
  | .entering (.chat _) => 2
  | .greeting _ | .password _ => 2
  | .calling request => request.requests
  | .awaiting request => request.requests - 1
  | _ => 0

/-- The views before the next line. -/
def views : Scene → Nat
  | .printing _ _ next => next.views
  | .entering .signIn => 1
  | .entering _ => 2
  | .greeting _ | .password _ => 2
  | .calling request | .awaiting request => request.views
  | .notifying _ _ | .failed _ => 1
  | _ => 0

/-- No scene has more than two requests and two views before the next line. -/
theorem budget_le (scene : Scene) :
  scene.requests ≤ 2 ∧ scene.views ≤ 2
  := by
  induction scene with
  | printing stream text next ih => exact ih
  | entering view =>
    cases view with
    | signIn | home | chat => simp [requests, views]
  | calling request | awaiting request =>
    cases request with
    | signIn | options | detail | beginChat | say =>
      simp [requests, views, Request.requests, Request.views]
  | _ => simp [requests, views]

variable {silent : Prop} {start next scene : Scene} {entry : Entry} {journal : Journal}

theorem Brings.budget {request : Request} {arrival : Arrival}
    (h : request.Brings arrival next) :
  next.requests ≤ request.requests - 1 ∧ next.views ≤ request.views
  := by
  cases h with
  | accepted | refused | lists | listsNone | describes | begins | saysNothing | replies =>
    simp [requests, views, putting, Request.requests, Request.views]

/-- Whatever is seen but a line uses up what it is. -/
theorem Follows.budget (h : Follows start entry next) (hread : entry.reading? = none) :
  (Journal.sent [entry]).length + next.requests ≤ start.requests
    ∧ (Journal.viewed [entry]).length + next.views ≤ start.views
  := by
  cases h with
  | receives hbrings =>
    simpa [Journal.sent, Journal.viewed, requests, views] using Brings.budget hbrings
  | @sends request call _ =>
    cases request with
    | signIn | options | detail | beginChat | say =>
      simp [Journal.sent, Journal.viewed, requests, views, Request.requests]
  | @fails request _ _ _ =>
    cases request with
    | signIn | options | detail | beginChat | say =>
      simp [Journal.sent, Journal.viewed, requests, views, Request.views]
  | @waits request entry haside =>
    cases entry with
    | triggered _ | prompted _ | closed _ => exact ⟨Nat.le_refl 0, Nat.le_refl 1⟩
    | read ask line => cases hread
    | _ => cases haside
  | ends => cases hread
  | answers => cases hread
  | _ =>
    simp [Journal.sent, Journal.viewed, requests, views, putting, Request.requests,
      Request.views]

/-- What the program does without anything to be seen brings no more requests or views. -/
theorem Slips.budget (h : Slips silent start next) :
  next.requests ≤ start.requests ∧ next.views ≤ start.views
  := by
  cases h with
  | goesOn request =>
    cases request with
    | signIn | options | detail | beginChat | say => simp [goingOn, putting, requests, views]
  | givesUp _ request =>
    cases request with
    | signIn | options | detail | beginChat | say => simp [requests, views, Request.views]
  | stops username => simp [requests, views]

/-- What is seen between two lines uses up what it is. -/
theorem Passes.budget (h : Passes silent start journal scene)
    (hread : ∀ entry ∈ journal, entry.reading? = none) :
  journal.sent.length + scene.requests ≤ start.requests
    ∧ journal.viewed.length + scene.views ≤ start.views
  := by
  induction h with
  | nil scene => simp [Journal.sent, Journal.viewed]
  | slip hslips _ ih =>
    obtain ⟨hrequests, hviews⟩ := hslips.budget
    obtain ⟨hsent, hviewed⟩ := ih hread
    omega
  | @cons start next scene entry journal hentry _ ih =>
    obtain ⟨hfirst, hrest⟩ := List.forall_mem_cons.mp hread
    obtain ⟨hrequests, hviews⟩ := hentry.budget hfirst
    obtain ⟨hsent, hviewed⟩ := ih hrest
    have hsentCons : Journal.sent (entry :: journal) = Journal.sent [entry] ++ journal.sent :=
      Journal.sent_append [entry] journal
    have hviewedCons : Journal.viewed (entry :: journal)
        = Journal.viewed [entry] ++ journal.viewed := List.filterMap_append (l := [entry])
    rw [hsentCons, hviewedCons, List.length_append, List.length_append]
    omega

end Scene

/-- Every run of the program ends, as the user wants or because of some trouble, and between
two lines that it reads one after the other, before the first and after the last one, it
sends two requests at most and enters two views at most. -/
theorem run_ends
    (account : Account) (link : Link) (now : Calendar.Instant) (prompter : Prompter)
    (script : Script) :
  let app := ((App.start (Client.fresh account link now) prompter).run script).1
  (∃ result, app.stage = .ended result)
    ∧ ∀ before middle after, app.client.journal = before ++ middle ++ after →
      (∀ ask line, .read ask line ∉ middle) →
        middle.sent.length ≤ 2 ∧ middle.viewed.length ≤ 2
  := by
  intro app
  refine ⟨(Ended.run account link now prompter script).stage, ?_⟩
  intro before middle after heq hread
  have hquiet : ∀ entry ∈ middle, entry.reading? = none := by
    intro entry hentry
    cases entry with
    | read ask line => exact absurd hentry (hread ask line)
    | _ => rfl
  obtain ⟨hpasses, -⟩ := run_passes account link now prompter script (.inl True.intro)
  rw [heq] at hpasses
  obtain ⟨second, hfirst, -⟩ := hpasses.split
  obtain ⟨first, -, hmiddle⟩ := hfirst.split
  obtain ⟨hsent, hviewed⟩ := hmiddle.budget hquiet
  obtain ⟨hrequests, hviews⟩ := first.budget_le
  omega

end App

end ChatPortal
