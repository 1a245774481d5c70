import LiveBoard.Proofs.Relay.Call
import LiveBoard.Proofs.Relay.History
import LiveBoard.Proofs.Text.Boundary
import LiveBoard.Settings.Basic

/-!
# Who is admitted

A relay is started with a list of tokens, which never changes. A token that is presented is trimmed
before it is looked up, and settings trim theirs before they present it, but the list is taken as it
was given. So a token that is on both sides opens a board exactly if the list holds it without
blanks at its ends. Two texts that differ by more than such blanks are never taken for each other.

## Main results

* `Relay.isAuthorized_some_iff`: which token is accepted.
* `Relay.tokens_run`: nothing that happens changes the list.
* `Relay.admits_iff_listed`: a token that was given to both sides.
* `Relay.not_admitted_of_blank`: a token that was given to both sides, and opens nothing.
-/

namespace LiveBoard

open Text (trim isBlankText)

/-- Settings present their token without the blanks at its ends, if anything else is in it. -/
theorem Settings.bearerToken_eq {s : Settings} {t : String} (h : s.token = some t)
    (hblank : isBlankText t = false) : s.bearerToken = some (trim t) := by
  have htrim : trim t ≠ "" := fun hempty =>
    Bool.eq_false_iff.mp hblank (Text.trim_eq_empty_iff.mp hempty)
  rw [bearerToken, h, Option.map_some, Option.filter_some, if_pos (decide_eq_true htrim)]

namespace Relay

variable {r : Relay} {t : String}

/-! ### Accepted tokens -/

/-- **Which token is accepted**: one that is not blank, and of a list that is not empty. -/
theorem isAuthorized_some_iff :
    r.isAuthorized (some t) = true ↔
      isBlankText t = false ∧ (r.tokens = [] ∨ trim t ∈ r.tokens) := by
  rw [isAuthorized, Option.map_some, Option.filter_some, ← Bool.not_eq_true,
    ← Text.trim_eq_empty_iff]
  by_cases hempty : trim t = ""
  · simp [hempty]
  · simp [hempty]

/-- Blanks at the ends of a token that is presented do not count. -/
theorem isAuthorized_trim (r : Relay) (t : String) :
    r.isAuthorized (some (trim t)) = r.isAuthorized (some t) := by
  rw [isAuthorized, isAuthorized, Option.map_some, Option.map_some, Text.trim_trim]

/-- Who has an accepted token can join a board that exists, and nobody else can. -/
theorem exists_join_iff {board : String} {room : Room} (h : r.room? board = some room)
    (token : Option String) (now : String) :
    (∃ joined, r.join board token now = .ok joined) ↔ r.isAuthorized token = true := by
  rw [join, h]
  cases r.isAuthorized token <;> simp

theorem join_of_not_isAuthorized {token : Option String} (h : r.isAuthorized token = false)
    (board now : String) : r.join board token now = .error .unauthorized := by
  rw [join, h, if_neg Bool.false_ne_true]

/-! ### Over time -/

/-- An action leaves the accepted tokens alone. -/
theorem tokens_act (a : Action) (r : Relay) : (r.act a).tokens = r.tokens := by
  cases a with
  | operate board op now => exact (agreesElsewhere_perform op board now r).tokens
  | join board token now =>
    rw [act]
    split
    · next hjoin =>
      obtain ⟨-, -, rfl⟩ := join_eq_ok hjoin
      rfl
    · rfl
  | leave who => rfl
  | drain who =>
    rw [act, drain]
    split <;> rfl

/-- **Nothing that happens changes the accepted tokens.** -/
theorem tokens_run (as : List Action) (r : Relay) : (r.run as).tokens = r.tokens := by
  induction as generalizing r with
  | nil => rfl
  | cons a as ih => rw [run_cons, ih, tokens_act]

/-! ### Both sides -/

/-- **A token that was given to both sides** admits exactly if the relay was given it without blanks
at its ends, too. Whatever tokens a relay was started with and whatever has happened since: each of
them that is not blank is accepted if so, settings with it present a token that is accepted if so,
and join every board that exists. With tokens to accept, a token that differs from all of them by
more than blanks at the ends is refused, and opens no board. -/
theorem admits_iff_listed (tokens : List String) (history : List Action) :
    let r := (ofTokens tokens).run history
    (∀ t ∈ tokens, isBlankText t = false →
      (r.isAuthorized (some t) = true ↔ trim t ∈ tokens) ∧
      ∀ s : Settings, s.token = some t →
        s.bearerToken = some (trim t) ∧
        (r.isAuthorized s.bearerToken = true ↔ trim t ∈ tokens) ∧
        ∀ board now, r.room? board ≠ none →
          ((∃ joined, r.join board s.bearerToken now = .ok joined) ↔ trim t ∈ tokens)) ∧
    (tokens ≠ [] → ∀ presented, (∀ t ∈ tokens, trim t ≠ trim presented) →
      r.isAuthorized (some presented) = false ∧
        ∀ board now, r.join board (some presented) now = .error .unauthorized) := by
  intro r
  have htokens : r.tokens = tokens := tokens_run history (ofTokens tokens)
  constructor
  · intro t ht hblank
    have hauth : r.isAuthorized (some t) = true ↔ trim t ∈ tokens := by
      rw [isAuthorized_some_iff, htokens]
      exact ⟨fun h => h.2.resolve_left (List.ne_nil_of_mem ht), fun h => ⟨hblank, .inr h⟩⟩
    refine ⟨hauth, fun s hs => ?_⟩
    have hbearer : s.bearerToken = some (trim t) := Settings.bearerToken_eq hs hblank
    have hpresented : r.isAuthorized s.bearerToken = true ↔ trim t ∈ tokens := by
      rw [hbearer, isAuthorized_trim, hauth]
    refine ⟨hbearer, hpresented, fun board now hboard => ?_⟩
    obtain ⟨room, hroom⟩ := Option.ne_none_iff_exists'.mp hboard
    rw [exists_join_iff hroom, hpresented]
  · intro hsome presented hother
    have hrefused : r.isAuthorized (some presented) = false := by
      refine Bool.eq_false_iff.mpr fun hauth => ?_
      obtain ⟨-, hlisted⟩ := isAuthorized_some_iff.mp hauth
      rw [htokens] at hlisted
      exact hother _ (hlisted.resolve_left hsome) (Text.trim_trim presented)
    exact ⟨hrefused, join_of_not_isAuthorized hrefused⟩

/-- A token with blanks around it that is listed without them as well, among a blank one and another
one that is listed twice. -/
theorem admits_iff_listed_of_both :
    let tokens := ["l", "\u3000k\n", " ", "l", "k"]
    let history : List Action := [.operate "b" (.put []) "t0"]
    let r := (ofTokens tokens).run history
    let s : Settings := { Settings.standard with token := some "\u3000k\n" }
    isBlankText "\u3000k\n" = false ∧ r.isAuthorized (some "\u3000k\n") = true ∧
      s.bearerToken = some "k" ∧ (∃ joined, r.join "b" s.bearerToken "t1" = .ok joined) ∧
      r.join "b" (some " K ") "t1" = .error .unauthorized := by
  intro tokens history r s
  obtain ⟨hlisted, hothers⟩ := admits_iff_listed tokens history
  have hblank : isBlankText "\u3000k\n" = false := by decide +kernel
  have htrim : trim "\u3000k\n" = "k" := by decide +kernel
  have hmem : trim "\u3000k\n" ∈ tokens := by decide +kernel
  obtain ⟨hauth, hsettings⟩ := hlisted "\u3000k\n" (by decide) hblank
  obtain ⟨hbearer, -, hjoin⟩ := hsettings s rfl
  obtain ⟨-, hrefused⟩ := hothers (by decide) " K " (by decide +kernel)
  exact ⟨hblank, hauth.mpr hmem, hbearer.trans (congrArg some htrim),
    (hjoin "b" "t1" (by decide +kernel)).mpr hmem, hrefused "b" "t1"⟩

/-- The only token that a relay was given has a blank in front of it. It is not accepted, with the
blank or without, and settings with the same token join no board. -/
theorem not_admitted_of_blank :
    let tokens := [" t"]
    let r := (ofTokens tokens).run [.operate "b" (.put []) "t0"]
    let s : Settings := { Settings.standard with token := some " t" }
    " t" ∈ tokens ∧ isBlankText " t" = false ∧ (r.room? "b").isSome = true ∧
      s.bearerToken = some "t" ∧ r.isAuthorized (some " t") = false ∧
      r.isAuthorized s.bearerToken = false ∧
      r.join "b" s.bearerToken "t1" = .error .unauthorized := by
  decide +kernel

end Relay

end LiveBoard
