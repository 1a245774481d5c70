import LiveBoard.CommandLine.Run
import LiveBoard.Proofs.Settings.Written

/-!
# Showing settings

The program can show its settings as the file that would hold them, with a mask in place of the
token. What it shows is such a file: it is read back as the settings with the mask. So the text
tells whether there is a token, and nothing else about it.

## Main definitions

* `Settings.masked`: the settings that are shown.

## Main results

* `Terminal.render_lines`: plain lines are written as they are.
* `CommandLine.exists_lines_of_run`: what is shown.
* `CommandLine.shown_settings_reload`: it is read back, and does not depend on the token.
-/

namespace LiveBoard

open Terminal

/-- The settings with a mask in place of the token. -/
def Settings.masked (s : Settings) : Settings :=
  { s with token := s.token.map fun _ => "********" }

/-- Two tokens cannot be told apart behind the mask, but no token can be told from one. -/
theorem Settings.masked_eq_iff (s : Settings) (token : Option String) :
    { s with token := token }.masked = s.masked ↔ token.isSome = s.token.isSome := by
  simp only [masked, mk.injEq, true_and, and_true]
  cases token <;> cases s.token <;> simp

/-- Plain lines are written as they are, with colours or without. -/
theorem Terminal.render_lines (hasColour : Bool) (ls : List String) :
    render hasColour (ls.map line) = String.join (ls.map (· ++ "\n")) := by
  have hline (l : String) : Line.render hasColour (line l) = l ++ "\n" := by
    simp [Line.render, line, Span.render, plain]
  rw [render, List.map_map]
  exact congrArg String.join (List.map_congr_left fun l _ => hline l)

namespace CommandLine

variable {i : Invocation} {w : Surroundings} {s : Settings}

/-- **What is shown** are the lines of a file with the masked settings. -/
theorem exists_lines_of_run (hrequest : i.request = .showSettings true)
    (h : resolveSettings i.overrides w = .ok s) :
    ∃ lines, s.masked.tomlLines? = some lines ∧ run i w = w.done (lines.map line) := by
  have hwritable := Settings.isWritable_of_resolveSettings h
  have hmasked : s.masked.IsWritable := ⟨hwritable.heartbeat, hwritable.base, hwritable.limit⟩
  refine ⟨_, Settings.tomlLines?_eq hmasked, ?_⟩
  rw [run, h]
  dsimp only
  rw [hrequest, Request.run, showToml]
  exact Settings.tomlLines?_eq hmasked ▸ rfl

/-- **What is shown is read back**, with colours or without. -/
theorem ofToml_run (hrequest : i.request = .showSettings true)
    (h : resolveSettings i.overrides w = .ok s) (hasColour : Bool) :
    Settings.ofToml (render hasColour (run i w).lines) = .ok s.masked := by
  obtain ⟨lines, hlines, hrun⟩ := exists_lines_of_run hrequest h
  have hpatient := Settings.isPatient_of_resolveSettings h
  rw [hrun, Surroundings.done, render_lines]
  exact Settings.ofToml_of_tomlLines? hlines ⟨hpatient.heartbeat, hpatient.base, hpatient.limit⟩

/-- **Shown settings reload.** Wherever the settings of a command line come from, showing them as a
file succeeds, and the text, with colours or without, is a file that is read back as these settings
with the mask in place of a token. Another command line whose settings differ only in the token
shows the same text if both have a token or none of them has, and otherwise another one. -/
theorem shown_settings_reload (hrequest : i.request = .showSettings true)
    (h : resolveSettings i.overrides w = .ok s) :
    (run i w).ending = .done ∧
    (∀ hasColour, Settings.ofToml (render hasColour (run i w).lines) =
      .ok { s with token := s.token.map fun _ => "********" }) ∧
    ∀ (j : Invocation) (w' : Surroundings) (token : Option String),
      j.request = .showSettings true → resolveSettings j.overrides w' = .ok { s with token } →
        ∀ hasColour, render hasColour (run j w').lines = render hasColour (run i w).lines ↔
          token.isSome = s.token.isSome := by
  obtain ⟨lines, hlines, hrun⟩ := exists_lines_of_run hrequest h
  refine ⟨hrun ▸ rfl, ofToml_run hrequest h, fun j w' token hj h' hasColour => ?_⟩
  rw [← s.masked_eq_iff]
  constructor
  · intro htext
    have hread := ofToml_run hj h' hasColour
    rw [htext, ofToml_run hrequest h] at hread
    exact (Except.ok.inj hread).symm
  · intro hmasked
    obtain ⟨lines', hlines', hrun'⟩ := exists_lines_of_run hj h'
    rw [hmasked, hlines] at hlines'
    rw [hrun, hrun', Option.some.inj hlines']
    rfl

/-- A limit of 63 bits in a file, and a board with all that has to be escaped. -/
theorem shown_settings_reload_of_limit :
    let text := "token = 'lamp'\n[backoff]\nmax_ms = 9223372036854775807\n"
    let w : Surroundings := ⟨fun _ => none, ⟨fun _ => true, fun _ => .ok text⟩,
      ⟨⟨false, .domain "r".toList, 80⟩, .ofTokens [], true⟩, ⟨"t", "1", "c"⟩⟩
    let i : Invocation :=
      ⟨⟨false, some "f", none, none, some "é\"\\\n\u0001'''", none⟩, .showSettings true⟩
    let j : Invocation := { i with overrides := { i.overrides with token := some "" } }
    let s : Settings := { Settings.standard with
      token := some "lamp", boardId := "é\"\\\n\u0001'''",
      backoff := ⟨1000, 2, 9223372036854775807⟩ }
    resolveSettings i.overrides w = .ok s ∧
      resolveSettings j.overrides w = .ok { s with token := some "" } ∧
      (run i w).ending = .done ∧
      Settings.ofToml (render true (run i w).lines) = .ok { s with token := some "********" } ∧
      render true (run j w).lines = render true (run i w).lines := by
  intro text w i j s
  have hi : resolveSettings i.overrides w = .ok s := by decide +kernel
  have hj : resolveSettings j.overrides w = .ok { s with token := some "" } := by decide +kernel
  obtain ⟨hending, hread, htoken⟩ := shown_settings_reload (i := i) rfl hi
  exact ⟨hi, hj, hending, hread true, (htoken j w (some "") rfl hj true).mpr rfl⟩

end CommandLine

end LiveBoard
