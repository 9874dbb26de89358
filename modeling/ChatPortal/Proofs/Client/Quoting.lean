import ChatPortal.Proofs.Client.Envelopes
import ChatPortal.Proofs.Text.Boundary

/-!
# What is quoted of a body

A call that is answered by an error status and no envelope fails with a message that quotes the
text of the body: all of it, or its longest front of whole characters that is not too long
(`Client.refusal_quotes_body`).
-/

namespace ChatPortal

open Gateway Http

namespace Gateway.GatewayError

theorem shorten_of_le {body : List Char} (h : (Utf8.encode body).length ≤ 500) :
  shorten body = body
  := if_pos h

/-- Of a long body the longest front that is not too long is quoted, with the length of the
body. -/
theorem exists_shorten {body : List Char} (h : 500 < (Utf8.encode body).length) :
  ∃ n front, Utf8.boundary? (Utf8.encode body) 500 = some n
    ∧ Utf8.slice? (Utf8.encode body) n = some front
    ∧ (Utf8.encode front).length = n ∧ 497 ≤ n ∧ n ≤ 500
    ∧ Utf8.IsLongestFront 500 body front
    ∧ shorten body = front ++ ("... (truncated, " ++ toString (Utf8.encode body).length
      ++ " total bytes)").toList
  := by
  obtain ⟨n, front, hsearch, hslice, rfl, hlongest⟩ := Utf8.exists_slice? (Nat.le_of_lt h)
  have hlow := hlongest.lt_add_four h
  refine ⟨_, front, hsearch, hslice, rfl, by omega, hlongest.fits, hlongest, ?_⟩
  rw [shorten, maxQuoted, if_neg (Nat.not_le.mpr h), quoted?, maxQuoted, hsearch,
    Option.bind_some, hslice, Option.getD_some]

end Gateway.GatewayError

namespace Client

variable {α : Type}

/-- A call fails with a message that quotes the text of the body if it is answered by an error
status and no envelope, and the user is notified of it once.  A text of at most 500 bytes is
quoted as it is.  Of any other the longest front of whole characters with at most 500 bytes is
quoted, which has 497 of them at least, with the number of bytes of the text.  The search for the
end of this front always ends at a place, and the text is cut there without splitting a
character. -/
theorem refusal_quotes_body (decoder : Json.Decoder α) (response : Response)
    (hstatus : ¬ (200 ≤ response.status.code ∧ response.status.code < 300))
    (hbody : ∀ envelope, Envelope.parse response.body ≠ .ok envelope) :
  let text := Utf8.decodeLossy response.body
  let size := (Utf8.encode text).length
  ∃ quoted : List Char,
    (∀ (client : Client) (call : Call) (reply : Reply),
      (client.send call).1 = .ok reply → reply.arrival = .ok response →
      ∃ e, (client.call decoder call).1 = .error e
        ∧ e.message = "Status " ++ response.status.text ++ ": " ++ String.ofList quoted
        ∧ (client.call decoder call).2.journal.notified
          = client.journal.notified ++ [.error e.message])
    ∧ (size ≤ 500 → quoted = text)
    ∧ (500 < size → ∃ n front, Utf8.boundary? (Utf8.encode text) 500 = some n
      ∧ Utf8.slice? (Utf8.encode text) n = some front
      ∧ (Utf8.encode front).length = n ∧ 497 ≤ n ∧ n ≤ 500
      ∧ Utf8.IsLongestFront 500 text front
      ∧ quoted = front ++ ("... (truncated, " ++ toString size ++ " total bytes)").toList)
  := by
  intro text size
  refine ⟨GatewayError.shorten text, ?fails, GatewayError.shorten_of_le,
    GatewayError.exists_shorten⟩
  case fails =>
    intro client call reply hsend harrival
    cases hparse : Envelope.parse response.body with
    | ok envelope => exact absurd hparse (hbody envelope)
    | error failure =>
      have hjudge : judge decoder (.ok response) = _ := (Says.refused hparse hstatus).judge_eq
      refine ⟨.transport _, ?_, rfl, ?_⟩
      · rw [call_fst_of_send hsend, harrival, hjudge]
      · rw [notified_call decoder hsend, harrival, hjudge]
        rfl

/-- A body of a byte that begins no character, many characters of three bytes and one of four, in
which the limit falls. -/
theorem refusal_quotes_body_up_to_last_character :
  let text : List Char := '\uFFFD' :: List.replicate 165 '错' ++ ['😀']
  let response : Response :=
    { status := ⟨502, by decide, by decide⟩
      body := 0xFF :: Utf8.encode (List.replicate 165 '错' ++ ['😀']) }
  let client : Client :=
    Client.fresh ⟨{}, none⟩ (.ready [("/models", .ofResponse response)]) ⟨0, 0, 0⟩
  let message := "Status 502 Bad Gateway: " ++ String.ofList ('\uFFFD' :: List.replicate 165 '错'
    ++ "... (truncated, 502 total bytes)".toList)
  Utf8.decodeLossy response.body = text
    ∧ Utf8.boundary? (Utf8.encode text) 500 = some 498
    ∧ (∃ e, (client.call .json (.get "/models")).1 = .error e ∧ e.message = message)
    ∧ (client.call .json (.get "/models")).2.journal.notified = [.error message]
  := by
  intro text response client message
  have hlossy : Utf8.decodeLossy response.body = text := by
    have hbroken (rest : Bytes) : Utf8.front 0xFF rest = (none, rest) := rfl
    have hmap (cs : List Char) : (cs.map some).map (·.getD '\uFFFD') = cs := by simp
    show (Utf8.scan (0xFF :: _)).map _ = _
    rw [Utf8.scan, hbroken, Utf8.scan_encode, List.map_cons, hmap]
    rfl
  have hsize : (Utf8.encode text).length = 502 := by decide +kernel
  have hrefused (envelope : Envelope) : Envelope.parse response.body ≠ .ok envelope := by
    intro hparse
    cases hdecode : Envelope.Raw.decoder.decode response.body with
    | error failure =>
      rw [Envelope.parse, hdecode] at hparse
      cases hparse
    | ok raw =>
      obtain ⟨b, rest, hopen, hb⟩ := Json.Decoder.opens_of_record_decode hdecode
      rw [Json.skipBlanks_cons rfl] at hopen
      obtain ⟨rfl, -⟩ := List.cons.inj hopen
      rcases hb with hb | hb
      · cases hb
      · cases hb
  have hsearch : Utf8.boundary? (Utf8.encode text) 500 = some 498 := by decide +kernel
  obtain ⟨quoted, hcall, -, hlong⟩ :=
    refusal_quotes_body .json response (by decide) hrefused
  rw [hlossy, hsize] at hlong
  obtain ⟨n, front, hn, -, hbytes, -, -, hfront, hquoted⟩ := hlong (by decide)
  obtain rfl : 498 = n := Option.some.inj (hsearch.symm.trans hn)
  have hshown : ('\uFFFD' :: List.replicate 165 '错') <+: text := List.prefix_append _ _
  have hsame : (Utf8.encode ('\uFFFD' :: List.replicate 165 '错')).length = 498 := by
    decide +kernel
  have heq : front = '\uFFFD' :: List.replicate 165 '错' :=
    (Utf8.front_of_length_le hfront.isFront hshown (by rw [hbytes, hsame])).eq_of_length_le
      (Utf8.front_of_length_le hshown hfront.isFront (by rw [hbytes, hsame])).length_le
  obtain ⟨e, herror, hmessage, hnotified⟩ := hcall client (.get "/models") _ rfl rfl
  have hstatus : "Status " ++ response.status.text ++ ": " = "Status 502 Bad Gateway: " := by decide
  have hlength : "... (truncated, " ++ toString 502 ++ " total bytes)"
      = "... (truncated, 502 total bytes)" := by decide
  have hwords : e.message = message := by rw [hmessage, hquoted, heq, hstatus, hlength]
  exact ⟨hlossy, hsearch, ⟨e, herror, hwords⟩, by rw [hnotified, hwords]; rfl⟩

end Client

end ChatPortal
