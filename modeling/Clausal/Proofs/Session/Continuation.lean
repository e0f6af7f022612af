import Clausal.Proofs.Session.Declarations

/-!
# Bindings in a program and at the prompt

A binding means the same whether it stands at the end of a program or is entered as a line once
the program is loaded. The loader completes the function that it is reading, evaluates the
expression and then looks whether the name is bound; a session has complete functions only, and
looks before it evaluates. Which of two faults is reported can differ, but not whether there is
one, nor what a success leaves behind.

Main statement:
* `load_continued`: a program with bindings added at its end loads exactly if the program loads
  and the bindings can be entered one by one, and the two ways lead to the same session.
-/

namespace Clausal

/-- A line that holds nothing declares nothing. -/
theorem Line.declaration?_of_isBlank {line : Line} (h : line.isBlank = true) :
    line.declaration? = none := by
  cases line with
  | blank => rfl
  | _ => simp [Line.isBlank] at h

namespace Session

section Bindings

variable [WordClass] {session : Session}

/-- A line that holds nothing is entered without effect. -/
theorem perform_enter_of_isBlank {line : String}
    (h : (Line.classify session.config.commentMarker line).isBlank = true) :
    session.perform (.enter line) = (session, .entered (.ok "")) := by
  have hline : Line.classify session.config.commentMarker line = .blank := by
    cases hclass : Line.classify session.config.commentMarker line with
    | blank => rfl
    | _ => simp [hclass, Line.isBlank] at h
  have hanswer : session.answer line = .ok (session, "") := by simp only [answer, hline]
  rw [perform, enter_of_ok hanswer]

/-- A binding is taken in by a loader and entered into a session with the same functions and
variables, and they are the same again, or the two refuse it. -/
theorem declare_and_enter {loading : Loading} {line name expression : String}
    (same : loading.complete = session.interpreter)
    (hline : Line.classify session.config.commentMarker line = .binding name expression) :
    (∃ next, loading.declare (.binding name expression) = .ok next ∧
      (session.event (.enter line)).outcome.failed = false ∧
      next.complete = (session.perform (.enter line)).1.interpreter) ∨
    (∃ error, loading.declare (.binding name expression) = .error error) ∧
      (session.event (.enter line)).outcome.failed = true := by
  -- The line is entered, or refused for one of the two faults.
  rcases enter_binding hline with ⟨value, unbound, hvalue, henter⟩ | ⟨error, henter⟩
  · refine .inl ⟨_, Loading.addBinding_eq_ok_iff.mpr ⟨value, ?_, ?_, rfl⟩, ?_, ?_⟩
    · rw [same, hvalue]
    · rw [same, unbound]
    · simp [event, perform, henter, Outcome.failed, Except.toBool]
    · rw [perform, henter]
      exact congrArg (fun interp : Interpreter =>
        { interp with globals := interp.globals.insert name value }) same
  · refine .inr ⟨?_, by simp [event, perform, henter, Outcome.failed, Except.toBool]⟩
    cases hadd : loading.addBinding name expression with
    | error error => exact ⟨error, hadd⟩
    | ok next =>
      -- What the loader takes in can be entered.
      obtain ⟨value, hvalue, unbound, -⟩ := Loading.addBinding_eq_ok_iff.mp hadd
      rw [same] at hvalue unbound
      have hbind := bindLine_eq_ok_iff.mpr ⟨unbound, value, hvalue, rfl, rfl⟩
      have hanswer : session.answer line = session.bindLine name expression := by
        simp only [answer, hline]
      rw [enter_of_ok (hanswer.trans hbind)] at henter
      simp at henter

/-- Bindings are all taken in by a loader and all entered into a session with the same functions
and variables, and they are the same again, or the two refuse one of them. -/
theorem declareAll_and_enter {loading : Loading} {lines : List String}
    (same : loading.complete = session.interpreter)
    (hlines : ∀ line ∈ lines,
      (Line.classify session.config.commentMarker line).isBinding = true ∨
        (Line.classify session.config.commentMarker line).isBlank = true) :
    (∃ last, loading.declareAll (declarationsOn session.config.commentMarker lines) = .ok last ∧
      (∀ event ∈ session.events (lines.map .enter), event.outcome.failed = false) ∧
      last.complete = (session.after (lines.map .enter)).interpreter) ∨
    (∃ error,
        loading.declareAll (declarationsOn session.config.commentMarker lines) = .error error) ∧
      ∃ event ∈ session.events (lines.map .enter), event.outcome.failed = true := by
  induction lines generalizing loading session with
  | nil => exact .inl ⟨loading, rfl, by simp [events], same⟩
  | cons line lines ih =>
    rw [List.forall_mem_cons] at hlines
    rw [List.map_cons, events, after_cons]
    rcases hlines.1 with binding | blank
    · cases hline : Line.classify session.config.commentMarker line with
      | binding name expression =>
        have declared : (Line.classify session.config.commentMarker line).declaration? =
            some (.binding name expression) := by rw [hline]; rfl
        rw [declarationsOn_cons_some declared, Loading.declareAll, List.foldlM_cons]
        rcases declare_and_enter same hline with
          ⟨next, hnext, ok, same'⟩ | ⟨⟨error, herror⟩, failed⟩
        -- The lines that follow are classified by the same settings.
        · have hconfig : (session.perform (.enter line)).1.config = session.config :=
            config_perform _
          have hrest := ih same' (by rw [hconfig]; exact hlines.2)
          rw [hconfig] at hrest
          rw [hnext]
          rcases hrest with ⟨last, hlast, oks, hsame⟩ | ⟨herror, event, mem, failed⟩
          · exact .inl ⟨last, hlast, List.forall_mem_cons.mpr ⟨ok, oks⟩, hsame⟩
          · exact .inr ⟨herror, event, List.mem_cons_of_mem _ mem, failed⟩
        · -- Both refuse this binding, so the others do not matter.
          rw [herror]
          exact .inr ⟨⟨error, rfl⟩, _, List.mem_cons_self, failed⟩
      | _ => simp [hline, Line.isBinding] at binding
    · -- A line that holds nothing passes through both.
      have hperform := perform_enter_of_isBlank blank
      have ok : (session.event (.enter line)).outcome.failed = false := by
        simp [event, hperform, Outcome.failed, Except.toBool]
      rw [declarationsOn_cons_none (Line.declaration?_of_isBlank blank), hperform]
      rcases ih same hlines.2 with ⟨last, hlast, oks, hsame⟩ | ⟨herror, event, mem, failed⟩
      · exact .inl ⟨last, hlast, List.forall_mem_cons.mpr ⟨ok, oks⟩, hsame⟩
      · exact .inr ⟨herror, event, List.mem_cons_of_mem _ mem, failed⟩

/-- **The loader and the prompt agree on bindings.**

A program with bindings added at its end loads exactly if the program loads and the bindings can
all be entered, one by one, into the session that it makes. If so, both ways lead to the same
session: the same functions with the same clauses in the same order, and the same variables with
the same values. -/
theorem load_continued (session : Session) (program : String) (lines : List String)
    (hlines : ∀ line ∈ lines, '\n' ∉ line.toList ∧
      ((Line.classify session.config.commentMarker line).isBinding = true ∨
        (Line.classify session.config.commentMarker line).isBlank = true)) :
    let whole := session.load (Text.continued program lines)
    let first := session.load program
    (whole.2.isOk = true ↔ first.2.isOk = true ∧
      ∀ event ∈ first.1.events (lines.map .enter), event.outcome.failed = false) ∧
    (whole.2.isOk = true → whole.1 = first.1.after (lines.map .enter)) := by
  intro whole first
  let marker := session.config.commentMarker
  let start := Loading.start session.interpreter.registry session.config.maxDepth
  -- The lines add their declarations to those of the program.
  have hdeclared : start.declareAll (declarations marker (Text.continued program lines)) =
      start.declareAll (declarations marker program) >>= fun loading =>
        loading.declareAll (declarationsOn marker lines) := by
    rw [declarations_continued program fun line mem => (hlines line mem).1,
      Loading.declareAll_append]
  cases hload : start.declareAll (declarations marker program) with
  | error error =>
    -- The program fails already, with or without the lines.
    rw [hload] at hdeclared
    have hwhole : whole = (session, .error error) := load_of_declareAll_eq_error hdeclared
    have hfirst : first = (session, .error error) := load_of_declareAll_eq_error hload
    rw [hwhole, hfirst]
    simp [Except.toBool]
  | ok loading =>
    rw [hload] at hdeclared
    let loaded : Session := { session with interpreter := loading.complete }
    have hfirst : first = (loaded, .ok loaded.report) := load_of_declareAll_eq_ok hload
    rw [hfirst]
    -- From here on the loader and the session hold the same.
    have same : loading.complete = loaded.interpreter := rfl
    rcases declareAll_and_enter same fun line mem => (hlines line mem).2 with
      ⟨last, hlast, oks, hsame⟩ | ⟨⟨error, herror⟩, event, mem, failed⟩
    · have hwhole : whole = _ := load_of_declareAll_eq_ok (hdeclared.trans hlast)
      have hconfig : (loaded.after (lines.map .enter)).config = session.config :=
        config_after loaded _
      rw [hwhole]
      refine ⟨iff_of_true rfl ⟨rfl, oks⟩, fun _ => ?_⟩
      show (⟨session.config, last.complete⟩ : Session) = loaded.after (lines.map .enter)
      rw [hsame, ← hconfig]
    · have hwhole : whole = (session, .error error) :=
        load_of_declareAll_eq_error (hdeclared.trans herror)
      rw [hwhole]
      refine ⟨iff_of_false Bool.false_ne_true ?_, fun ok => absurd ok Bool.false_ne_true⟩
      -- One of the lines was refused, so not all of them were entered.
      rintro ⟨-, oks⟩
      exact Bool.false_ne_true ((oks event mem).symm.trans failed)

end Bindings

/-- Bindings at the end of a program, with a line that holds nothing between them. -/
def bindingLines : List String :=
  ["y = twice not True", "", "z = not y"]

theorem classify_bindingLines : ∀ line ∈ bindingLines, '\n' ∉ line.toList ∧
    ((Line.classify "--" line).isBinding = true ∨ (Line.classify "--" line).isBlank = true) := by
  -- A line is a binding if nothing but a name stands before the first lone `=`.
  have first : Line.classify "--" "y = twice not True" = .binding "y" "twice not True" := by
    have split : Line.splitDefinition? "y = twice not True".toList =
        some ("y ".toList, " twice not True".toList) := by decide +kernel
    have trimmed : Text.trim "y = twice not True".toList = "y = twice not True".toList := by decide
    rw [Line.classify, trimmed, Line.ofTrimmed, if_neg (by decide), if_neg (by decide), split]
    rfl
  have second : Line.classify "--" "" = .blank := rfl
  have third : Line.classify "--" "z = not y" = .binding "z" "not y" := by
    have split : Line.splitDefinition? "z = not y".toList =
        some ("z ".toList, " not y".toList) := by decide +kernel
    have trimmed : Text.trim "z = not y".toList = "z = not y".toList := by decide
    rw [Line.classify, trimmed, Line.ofTrimmed, if_neg (by decide), if_neg (by decide), split]
    rfl
  intro line mem
  simp only [bindingLines, List.mem_cons, List.not_mem_nil, or_false] at mem
  rcases mem with rfl | rfl | rfl
  · exact ⟨by decide, .inl (by rw [first]; rfl)⟩
  · exact ⟨by decide, .inr (by rw [second]; rfl)⟩
  · exact ⟨by decide, .inl (by rw [third]; rfl)⟩

/-- The bindings after a program whose function is not complete before the first of them. -/
theorem load_continued_twice :
    (∀ line ∈ bindingLines, '\n' ∉ line.toList ∧
      ((Line.classify "--" line).isBinding = true ∨ (Line.classify "--" line).isBlank = true)) ∧
    Text.continued "twice f x = f (f x)" bindingLines =
      "twice f x = f (f x)\ny = twice not True\n\nz = not y" ∧
    let whole := (new Config.standard).load (Text.continued "twice f x = f (f x)" bindingLines)
    let first := (new Config.standard).load "twice f x = f (f x)"
    (whole.2.isOk = true ↔ first.2.isOk = true ∧
      ∀ event ∈ first.1.events (bindingLines.map .enter), event.outcome.failed = false) ∧
    (whole.2.isOk = true → whole.1 = first.1.after (bindingLines.map .enter)) :=
  ⟨classify_bindingLines, by decide, load_continued _ _ _ classify_bindingLines⟩

end Session

end Clausal
