import ChatPortal.Proofs.App.Choosing

/-!
# What is said to the bot

What the user says in the chat is what the program posts to the bot: every line that is said
once and in its order, and nothing else (`Passes.said_eq`).  What is asked for a schema is
asked for the one that was chosen last, and what is no choice is rejected and asked again
(`run_converses`).
-/

namespace ChatPortal

open Client Gateway Http Portal Reauth Terminal

/-- The words that were said in the chat: the lines that are neither empty nor a command. -/
def Client.Journal.said (journal : Journal) : List String :=
  journal.readings.filterMap fun
    | (.message, .text words) => if App.IsSaid words then some words else none
    | _ => none

/-- The method, the query and the body of what was sent to the bot. -/
def Client.Journal.posted (journal : Journal) :
    List (String × List (String × String) × Option Json) :=
  (journal.sent.filter (·.path = chatMessagePath)).map fun call =>
    (call.method, call.query, call.body)

/-- The words that were said in two parts of a journal are said one after the other. -/
theorem Client.Journal.said_append (journal entries : Journal) :
  (journal ++ entries).said = journal.said ++ entries.said
  := by
  rw [said, readings, List.filterMap_append, List.filterMap_append]
  rfl

/-- What was posted in two parts of a journal is posted one after the other. -/
theorem Client.Journal.posted_append (journal entries : Journal) :
  (journal ++ entries).posted = journal.posted ++ entries.posted
  := by
  rw [posted, Journal.sent_append, List.filter_append, List.map_append]
  rfl

namespace App

/-- What is posted to the bot to say some words. -/
def post (words : String) : String × List (String × String) × Option Json :=
  ("POST", [], some (.object [("content", .string words)]))

/-- The words that a request is to say. -/
def Request.owed : Request → List String
  | .say _ words => [words]
  | _ => []

/-- The words that were said and not yet posted. -/
def Scene.owed : Scene → List String
  | .printing _ _ next => next.owed
  | .calling request => request.owed
  | _ => []

namespace Scene

variable {start next scene : Scene} {entry : Entry} {journal : Journal}

/-- The call of a request posts the words that it is to say, and no other does. -/
theorem posted_sent {request : Request} {call : Call}
    (h : call = { request.call with headers := call.headers }) :
  Journal.posted [.sent call] = request.owed.map post
  := by
  rw [h]
  cases request with
  | signIn | options | detail | beginChat | say => rfl

/-- Words for the bot are said in the chat. -/
theorem said_message (words : String) :
  Journal.said [.read .message (.text words)] = if IsSaid words then [words] else []
  := by
  by_cases hsaid : IsSaid words
  · simp [Journal.said, Journal.readings, Entry.reading?, hsaid]
  · simp [Journal.said, Journal.readings, Entry.reading?, hsaid]

/-- A line that ends the program is not said. -/
theorem said_of_endsOn {inquiry : Inquiry} {line : Line} (h : inquiry.EndsOn line) :
  Journal.said [.read inquiry.question.ask line] = []
  := by
  cases line with
  | text words =>
    cases inquiry with
    | message schema =>
      obtain rfl := Option.some.inj h
      apply (said_message _).trans (if_neg (by decide))
    | _ => rfl
  | _ =>
    cases inquiry with
    | name | choice | message | retry => rfl

/-- Words that answer a question are said if they lead to a request that is to say them. -/
theorem said_of_leads {inquiry : Inquiry} {words : String} (h : inquiry.Leads words next) :
  Journal.said [.read inquiry.question.ask (.text words)] = next.owed
  := by
  cases h with
  | speaks schema hsaid => apply (said_message words).trans (if_pos hsaid)
  | setsLocale schema hcommand =>
    apply (said_message words).trans (if_neg fun hsaid => hsaid.2.2.2 hcommand)
  | _ => rfl

/-- What is said is posted next. -/
theorem Follows.said_eq (h : Follows start entry next) :
  (start.owed ++ Journal.said [entry]).map post = Journal.posted [entry] ++ next.owed.map post
  := by
  cases h with
  | prints stream text next =>
    have hnone : Journal.said [.printed stream text] = [] := rfl
    rw [hnone, List.append_nil]
    rfl
  | @signsIn username password call hcall =>
    rw [@posted_sent (.signIn username password) call hcall]
    rfl
  | @sends request call hcall =>
    have hnone : Journal.said [.sent call] = [] := rfl
    rw [hnone, List.append_nil, posted_sent hcall]
    exact (List.append_nil _).symm
  | receives hbrings =>
    cases hbrings with
    | _ => rfl
  | ends hends =>
    rw [said_of_endsOn hends]
    rfl
  | answers hleads =>
    rw [said_of_leads hleads]
    rfl
  | @waits request entry haside =>
    cases entry with
    | read ask line =>
      obtain rfl : ask = .consent := by simpa [isAside] using haside
      rfl
    | triggered | prompted | closed => rfl
    | _ => cases haside
  | _ => rfl

/-- What is said is posted, each line once and in its order, unless it still is to be
posted. -/
theorem Passes.said_eq (h : Passes False start journal scene) :
  (start.owed ++ journal.said).map post = journal.posted ++ scene.owed.map post
  := by
  induction h with
  | nil scene => simp [Journal.said, Journal.posted, Journal.readings, Journal.sent]
  | @slip start next scene journal hslips _ ih =>
    have howed : start.owed = next.owed := by
      cases hslips with
      | goesOn request =>
        cases request with
        | signIn | options | detail | beginChat | say => rfl
      | givesUp h => cases h
      | stops => rfl
    rw [howed]
    exact ih
  | @cons start next scene entry journal hentry _ ih =>
    rw [← List.singleton_append, Journal.said_append, Journal.posted_append, ← List.append_assoc,
      List.map_append, hentry.said_eq, List.append_assoc, ← List.map_append, ih,
      List.append_assoc]

end Scene

/-- What a line at a list of options leads to: the end on the word for it, at the end of all
lines and on bytes that are no text; the view of the option that is picked; and for anything
else a hint and the same question again. -/
inductive Answered (options : List SchemaOption) : Line → Journal → Prop where
  | quits : Answered options (.text "q") []
  | ended : Answered options .ended []
  | garbled : Answered options .garbled []
  | picked {words : String} {option : SchemaOption} (h : Picks options words option)
      (after : Journal) :
      Answered options (.text words) (.viewed (chatTarget option.schema) :: after)
  | rejected {words : String} (h : IsRejected options words) (line : Line) (after : Journal) :
      Answered options (.text words)
        (.printed .err (choiceHint options) :: .printed .out "> " :: .read .choice line :: after)

namespace Scene

variable {silent : Prop} {start : Scene} {before after : Journal}

/-- What is asked for a schema is asked in a request that is about it. -/
theorem schema?_of_path {request : Request} {call : Call}
    (hcall : call = { request.call with headers := call.headers })
    (hpath : call.path = detailPath ∨ call.path = chatInitPath) :
  ∃ schema ∈ request.schema?, call.method = "POST" ∧ call.query = []
    ∧ call.body = some (.object [("schema", .string schema)])
  := by
  have hsign : ¬ (signPath = detailPath ∨ signPath = chatInitPath) := by decide
  have hoption : ¬ (optionPath = detailPath ∨ optionPath = chatInitPath) := by decide
  have hmessage : ¬ (chatMessagePath = detailPath ∨ chatMessagePath = chatInitPath) := by decide
  rw [hcall] at hpath ⊢
  cases request with
  | signIn username password => exact absurd hpath hsign
  | options => exact absurd hpath hoption
  | say schema words => exact absurd hpath hmessage
  | detail schema => exact ⟨schema, rfl, rfl, rfl, rfl⟩
  | beginChat schema => exact ⟨schema, rfl, rfl, rfl, rfl⟩

/-- Whatever is asked for a schema is asked for the one that was chosen last. -/
theorem Passes.chosen {call : Call} (hstart : Knows [] start)
    (h : Passes silent start (before ++ .sent call :: after) .finished)
    (hpath : call.path = detailPath ∨ call.path = chatInitPath) :
  ∃ schema, Chosen schema before ∧ call.method = "POST" ∧ call.query = []
    ∧ call.body = some (.object [("schema", .string schema)])
  := by
  obtain ⟨scene, next, hbefore, hfollows, -⟩ := h.at_entry
  have hknows : Knows before scene := hbefore.knows hstart
  cases hfollows with
  | @signsIn username password _ hcall =>
    obtain ⟨schema, hschema, -⟩ := @schema?_of_path (.signIn username password) call hcall hpath
    cases hschema
  | sends hcall =>
    obtain ⟨schema, hschema, hposted⟩ := schema?_of_path hcall hpath
    exact ⟨schema, hknows.chosen schema hschema, hposted⟩
  | waits _ haside => cases haside

/-- Every line at a list is answered. -/
theorem Passes.choice {line : Line} (hstart : Knows [] start)
    (h : Passes silent start (before ++ .read .choice line :: after) .finished) :
  ∃ options, Listed options before ∧ Answered options line after
  := by
  obtain ⟨scene, next, hbefore, hfollows, hafter⟩ := h.at_entry
  obtain ⟨options, rfl, hanswer⟩ := hfollows.of_choice
  have hlisted : Listed options before := (hbefore.knows hstart).listed options rfl
  refine ⟨options, hlisted, ?_⟩
  rcases hanswer with ⟨hends, rfl⟩ | ⟨words, rfl, hleads⟩
  · rw [hafter.nothing]
    cases line with
    | text words =>
      obtain rfl := Option.some.inj hends
      exact .quits
    | garbled => exact .garbled
    | ended => exact .ended
  · cases hleads with
    | picks hstays hpick =>
      obtain ⟨rest, rfl⟩ := hafter.entered
      exact .picked (pick?_eq_some.mp hpick) rest
    | rejects hstays hpick =>
      obtain ⟨_, rfl, hprompt⟩ := hafter.printed
      obtain ⟨_, rfl, hasks⟩ := hprompt.printed
      obtain ⟨line, rest, rfl⟩ := hasks.answered
      exact .rejected ⟨hstays, pick?_eq_none.mp hpick⟩ line rest

end Scene

/-- In every run of the program that begins with no credential or with one that can be sent,
the lines are read in the order of the script, and what was posted to the bot are the words
that were said in the chat, each once and in their order, however the bot replies.  What is
asked for a schema is asked for the one that was chosen last: the one that its number stands
for in the list that was listed last.  A line at the list that is neither the word to end
the program nor the number of an option is rejected, and the question is put again; at the
end of all lines and on bytes that are no text the run ends. -/
theorem run_converses
    (account : Account) (link : Link) (now : Calendar.Instant) (prompter : Prompter)
    (script : Script)
    (hsendable : account.session.credential = "" ∨ isSendable account.session.credential = true) :
  let result := (App.start (Client.fresh account link now) prompter).run script
  let journal := result.1.client.journal
  (∃ taken count, script.lines = taken ++ result.2 ∧ count ≤ 2
      ∧ journal.readings.map Prod.snd
        = taken.map Line.ofBytes ++ List.replicate count .ended)
    ∧ journal.posted = journal.said.map post
    ∧ (∀ before call after, journal = before ++ .sent call :: after →
      call.path = detailPath ∨ call.path = chatInitPath →
        ∃ schema, Chosen schema before ∧ call.method = "POST" ∧ call.query = []
          ∧ call.body = some (.object [("schema", .string schema)]))
    ∧ ∀ before line after, journal = before ++ .read .choice line :: after →
      ∃ options, Listed options before ∧ Answered options line after
  := by
  intro result journal
  have hsends : isSendable account.session.credential = true := by
    rcases hsendable with hempty | hsends
    · rw [hempty]
      rfl
    · exact hsends
  obtain ⟨hpasses, hlines⟩ : Scene.Passes False
      (.entering (firstView account.session.credential)) journal .finished ∧ _ :=
    run_passes account link now prompter script (.inr hsends)
  have hstart := Scene.Knows.first account.session.credential
  refine ⟨hlines, ?_, fun before call after heq hpath => ?_, fun before line after heq => ?_⟩
  · have hsaid := Scene.Passes.said_eq hpasses
    have howed (view : View) : (Scene.entering view).owed = [] := rfl
    simpa [howed, Scene.owed] using hsaid.symm
  · rw [heq] at hpasses
    exact hpasses.chosen hstart hpath
  · rw [heq] at hpasses
    exact hpasses.choice hstart

/-- A server that offers one schema and does not answer in the chat. -/
def silentBot : Link :=
  .ready
    [ (optionPath, .envelope 0 "success" (.array [SchemaOption.toJson ⟨"bot", "Bot"⟩])),
      (detailPath, .envelope 0 "success" (.object [])),
      (chatInitPath, .envelope 0 "success" (.array [])) ]

/-- Somebody picks the only schema, after a number that is too large, and chats. -/
def monologue : Script :=
  ⟨["7", " +01 ", "", " hello", "/lang en-US", "world", "/quit"].map bytesOf, []⟩

/-- The two lines that are said are posted, although the bot answers neither. -/
theorem monologue_is_posted :
  let account : Account := ⟨{ credential := "token" }, none⟩
  let result := (App.start (Client.fresh account silentBot ⟨0, 0, 0⟩) .terminal).run monologue
  (account.session.credential = "" ∨ isSendable account.session.credential = true)
    ∧ result.1.client.journal.posted = [post "hello", post "world"]
  := by
  intro account result
  have hsendable : account.session.credential = ""
      ∨ isSendable account.session.credential = true := .inr (by decide)
  have hsaid : result.1.client.journal.said = ["hello", "world"] := by decide +kernel
  obtain ⟨-, hposted, -⟩ :=
    run_converses account silentBot ⟨0, 0, 0⟩ .terminal monologue hsendable
  refine ⟨hsendable, ?_⟩
  calc result.1.client.journal.posted
      = result.1.client.journal.said.map post := hposted
    _ = [post "hello", post "world"] := by rw [hsaid]; rfl

end App

end ChatPortal
