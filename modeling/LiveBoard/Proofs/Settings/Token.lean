import LiveBoard.Proofs.Relay.Token

/-!
# The token in an address

The address of a socket carries the token in its query. Whatever query the address of the relay came
with is gone, a fragment stays behind the new one, and nothing in front of it cuts the text too
early. So the text of the address, the request for it and the relay that answers all have the same
query, with the token as its only field, and a form reader gets the token back without the blanks at
its ends.

## Main results

* `Settings.exists_token`: the token that is presented is one of the settings, trimmed.
* `Settings.token_survives_address`: the only field of the query is the token.
-/

namespace LiveBoard

namespace Settings

open Http Url

variable {s : Settings} {a : Address} {token : String}

theorem exists_token (h : s.bearerToken = some token) :
    ∃ given, s.token = some given ∧ Text.trim given = token := by
  obtain ⟨htrim, -⟩ := Option.filter_eq_some_iff.mp h
  exact Option.map_eq_some_iff.mp htrim

/-- **The token survives the address.** If there is an address for the socket, the settings have a
token, and the query of the address, of its text and of the request for it holds this token and
nothing else, without the blanks at its ends, for a form reader as for a relay. -/
theorem token_survives_address (h : s.socketAddress = .ok a) :
    ∃ given query, s.token = some given ∧ s.bearerToken = some (Text.trim given) ∧
      a.query = some query ∧ queryPart a.print.toList = some query ∧
      (Relay.socketRequest (String.ofList a.target)).query = query ∧
      formPairs query = [("token", Text.trim given)] ∧
      queryToken query = some (some (Text.trim given)) := by
  obtain ⟨-, token, -, -, htoken, -⟩ := socketAddress_eq_ok h
  obtain ⟨given, hgiven, rfl⟩ := exists_token htoken
  have hquery := query_socketAddress h htoken
  refine ⟨given, _, hgiven, htoken, hquery, ?_, query_socketRequest h htoken,
    formPairs_field "token" _, queryToken_field _⟩
  rw [Address.print, String.toList_ofList]
  exact (isPlain_socketAddress h).queryPart_chars hquery (hash_notMem_field "token" _)

/-- A relay with a query and a fragment, and a token with signs that are escaped, a control
character and letters beyond ASCII. -/
theorem token_survives_address_of_signs :
    let s : Settings := { standard with
      apiUrl := "https://u:p@[::1]:8443/a/?token=no&x=1#frag", boardId := "b"
      token := some " +%2B&token=a#b=c d?\u0001\u00e9\u6f22\n" }
    let print := "wss://u:p@[::1]:8443/a/ws/board/b/sync" ++
      "?token=%2B%252B%26token%3Da%23b%3Dc+d%3F%01%C3%A9%E6%BC%A2#frag"
    s.socketAddress.map Address.print = .ok print ∧
      ∃ query, queryPart print.toList = some query ∧
        formPairs query = [("token", "+%2B&token=a#b=c d?\u0001\u00e9\u6f22")] := by
  intro s print
  have hprint : s.socketAddress.map Address.print = .ok print := by decide +kernel
  refine ⟨hprint, ?_⟩
  obtain ⟨a, ha, haprint⟩ := Json.map_eq_ok hprint
  obtain ⟨given, query, hgiven, -, -, hquery, -, hpairs, -⟩ := token_survives_address ha
  obtain rfl := Option.some.inj hgiven
  have htrim : Text.trim " +%2B&token=a#b=c d?\u0001\u00e9\u6f22\n" =
      "+%2B&token=a#b=c d?\u0001\u00e9\u6f22" := by decide +kernel
  exact ⟨query, haprint ▸ hquery, htrim ▸ hpairs⟩

end Settings

end LiveBoard
