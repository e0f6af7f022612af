import Clausal.Proofs.Grammar.Single
import Clausal.Proofs.Line
import Clausal.Proofs.Session.Meaning
import Clausal.Proofs.Session.Trace

/-!
# Reading a variable back

A variable that was bound, by a line or by a program, is read back by evaluating its name: the name
is read as an expression and looked up. A name that is read as the variable of this name yields the
bound value from then on, until a program is loaded. The spellings of truth values can be bound,
but are read as truth values, and a name with a character that continues no identifier is read as
something else.

Main statements:
* `Line.parse_definedName_iff`: which of the names that lines define are read as variables;
* `Binds.value_of_binding`: what a binding of a program has bound;
* `Session.evaluate_bound_name`: what the name of a binding evaluates to.
-/

namespace Clausal

open Clausal.Expr

/-! ## Names of definitions -/

/-- The name that a line defines is read as the variable of this name exactly when it is
readable. -/
theorem Line.parse_definedName_iff [WordClass] [LawfulWordClass] {marker line name : String}
    (h : (Line.classify marker line).definedName? = some name) :
    Expr.parse name = .ok (.variable name) ↔ Readable name := by
  obtain ⟨c, rest, -, start, hname⟩ := definedName?_classify h
  exact parse_eq_variable_iff hname (Text.isIdentifierStart_of_isHeadStart start)

/-- The name that a line defines is readable, if it is ASCII and no spelling of a truth value. -/
theorem Line.readable_definedName_iff [WordClass] [LawfulWordClass]
    {marker line name : String}
    (h : (Line.classify marker line).definedName? = some name)
    (ascii : ∀ c ∈ name.toList, Text.isAscii c = true) :
    Readable name ↔ truthName? name = none := by
  obtain ⟨c, rest, -, start, hname⟩ := definedName?_classify h
  -- On ASCII the two classes agree, so the characters of the name are no obstacle.
  refine and_iff_right fun d mem => ?_
  rw [← Text.isHeadChar_eq_isIdentifierChar (ascii d mem)]
  rw [hname] at mem
  rcases List.mem_cons.mp mem with rfl | mem
  · rw [Text.isHeadChar_eq_isIdentifierChar (Text.isAscii_of_isHeadStart start)]
    exact Text.isIdentifierChar_of_isIdentifierStart (Text.isIdentifierStart_of_isHeadStart start)
  · exact List.mem_takeWhile_imp mem

/-! ## Looking a name up -/

namespace Interpreter

variable {interp : Interpreter} {text name : String} {expr : Expr} {value : Value}

theorem evaluate_of_parse (h : Expr.parse text = .ok expr) :
    interp.evaluate text = interp.eval expr Names.empty := by
  rw [evaluate, h]
  rfl

/-- A name that is read as a variable evaluates to what it is bound to, whatever functions there
are. -/
theorem evaluate_of_bound (h : Expr.parse name = .ok (.variable name))
    (bound : interp.globals.get? name = some value) : interp.evaluate name = .ok value := by
  -- There is no frame, so the variable is looked up among the globals.
  have seen : (interp.scope Names.empty).value? name = some value := by
    simp only [scope, bound]
    rfl
  rw [evaluate_of_parse h, eval, evalIn, Scope.lookup, seen]

/-- The spelling of a truth value evaluates to the truth value, whatever it is bound to. -/
theorem evaluate_truthName {truth : Bool} (h : truthName? name = some truth) :
    interp.evaluate name = .ok (.bool truth) := by
  rw [evaluate_of_parse (parse_truthName h), eval, evalIn]

end Interpreter

/-! ## What a program has bound -/

/-- A binding of a program binds its name to the value of its expression in what the declarations
before it define. -/
theorem Binds.value_of_binding {registry : Registry} {maxDepth : Nat}
    {before after : List Declaration}
    {name expression : String} {values : List (String × Value)}
    (h : Binds registry maxDepth (before ++ .binding name expression :: after) values) :
    ∃ earlier value, ∃ interp : Interpreter, Binds registry maxDepth before earlier ∧
      interp.Holds registry maxDepth before earlier ∧ interp.evaluate expression = .ok value ∧
      values.lookup name = some value := by
  generalize hall : before ++ .binding name expression :: after = declarations at h
  induction h generalizing after with
  | nil => simp at hall
  | clause other added h ih =>
    -- The last declaration is a clause, so the binding stands before it.
    -- The declarations are taken in one by one from the end, so what follows is taken apart there.
    rcases List.eq_nil_or_concat after with rfl | ⟨init, last, rfl⟩
    · simpa using (List.append_inj' hall rfl).2
    · rw [List.concat_eq_append, ← List.cons_append, ← List.append_assoc] at hall
      exact ih (List.append_inj' hall rfl).1
  | @binding declarations values interp other text value h holds hvalue fresh ih =>
    rcases List.eq_nil_or_concat after with rfl | ⟨init, last, rfl⟩
    · obtain ⟨rfl, hlast⟩ := List.append_inj' hall rfl
      cases hlast
      refine ⟨values, value, interp, h, holds, hvalue, ?_⟩
      -- The name is bound by no earlier binding, so the last one is the one that is found.
      have absent : values.lookup name = none := by
        rw [List.lookup_eq_none_iff]
        rintro part mem
        rw [bne_iff_ne]
        rintro rfl
        exact fresh (h.map_fst ▸ List.mem_map_of_mem mem)
      simp [List.lookup_append, absent]
    · rw [List.concat_eq_append, ← List.cons_append, ← List.append_assoc] at hall
      obtain ⟨earlier, bound, state, hbefore, hstate, hbound, hlookup⟩ :=
        ih (List.append_inj' hall rfl).1
      exact ⟨earlier, bound, state, hbefore, hstate, hbound, by simp [List.lookup_append, hlookup]⟩

/-! ## Reading back -/

namespace Session

section Bound

variable [WordClass] {session : Session} {name : String} {value : Value}

/-- `session.Yields name value`: from now on, until a program is loaded, the name evaluates to the
value. -/
def Yields (session : Session) (name : String) (value : Value) : Prop :=
  ∀ operations, (∀ event ∈ session.events operations, event.loads = false) →
    (session.after operations).evaluate name = .ok value

/-- A readable name yields the value that it is bound to. -/
theorem yields_of_bound (h : Expr.parse name = .ok (.variable name))
    (bound : session.interpreter.globals.get? name = some value) : session.Yields name value :=
  fun _ noLoad => Interpreter.evaluate_of_bound h (get?_after_of_no_load noLoad bound)

/-- The spelling of a truth value always yields the truth value. -/
theorem yields_truthName {truth : Bool} (h : truthName? name = some truth) :
    session.Yields name (.bool truth) :=
  fun _ _ => Interpreter.evaluate_truthName h

/-- A line that binds a variable leaves it bound to the value of its expression. -/
theorem get?_enter_binding {line expression : String}
    (hline : Line.classify session.config.commentMarker line = .binding name expression)
    (ok : (session.enter line).2.isOk = true) :
    ∃ value, session.evaluate expression = .ok value ∧
      (session.enter line).1.interpreter.globals.get? name = some value := by
  -- A line that has not failed has bound the variable.
  rcases enter_binding hline with ⟨value, -, hvalue, henter⟩ | ⟨error, henter⟩
  · refine ⟨value, hvalue, ?_⟩
    rw [henter]
    simp
  · simp [henter, Except.isOk, Except.toBool] at ok

/-- A program that loads leaves the variable of each binding bound to the value of its expression
in what the lines above it define. -/
theorem get?_load_binding {program line expression : String} {above below : List String}
    (hlines : Text.lines program = above ++ line :: below)
    (hline : Line.classify session.config.commentMarker line = .binding name expression)
    (ok : (session.load program).2.isOk = true) :
    ∃ earlier value, ∃ interp : Interpreter,
      Binds session.interpreter.registry session.config.maxDepth
        (declarationsOn session.config.commentMarker above) earlier ∧
      interp.Holds session.interpreter.registry session.config.maxDepth
        (declarationsOn session.config.commentMarker above) earlier ∧
      interp.evaluate expression = .ok value ∧
      (session.load program).1.interpreter.globals.get? name = some value := by
  have declared : declarations session.config.commentMarker program =
      declarationsOn session.config.commentMarker above ++
        .binding name expression :: declarationsOn session.config.commentMarker below := by
    rw [declarations, hlines, declarationsOn, List.filterMap_append]
    exact congrArg _ (declarationsOn_cons_some (by rw [hline]; rfl))
  rcases binds_or_firstFailure session.interpreter.registry session.config.maxDepth
    (declarations session.config.commentMarker program) with ⟨values, hvalues⟩ | ⟨error, h⟩
  -- The program has loaded, so all bindings have succeeded, this one among them.
  · obtain ⟨interpreter, holds, hload⟩ := load_of_binds hvalues
    rw [declared] at hvalues
    obtain ⟨earlier, value, interp, hbefore, hstate, hvalue, hlookup⟩ := hvalues.value_of_binding
    refine ⟨earlier, value, interp, hbefore, hstate, hvalue, ?_⟩
    rw [hload]
    exact (holds.globals name).trans hlookup
  · simp [load_of_firstFailure h, Except.isOk, Except.toBool] at ok

/-- **A binding can be read back under its name, if the name is readable.**

The expression of a line that has bound a variable has a value, and if the name is readable, it
evaluates to this value from then on, until a program is loaded. The same holds of every binding of
a program that was loaded, whose expression is evaluated in what the lines above it define. The name
that a line defines is readable exactly if it is read as the variable of this name; of ASCII names
those are all but the spellings of truth values, which evaluate to the truth values, whatever they
are bound to. -/
theorem evaluate_bound_name [LawfulWordClass] (session : Session) :
    let marker := session.config.commentMarker
    let registry := session.interpreter.registry
    let maxDepth := session.config.maxDepth
    -- Lines
    (∀ line name expression, Line.classify marker line = .binding name expression →
      (session.enter line).2.isOk = true →
      ∃ value, session.evaluate expression = .ok value ∧
        (Readable name → (session.enter line).1.Yields name value)) ∧
    -- Programs
    (∀ program above line below name expression, Text.lines program = above ++ line :: below →
      Line.classify marker line = .binding name expression →
      (session.load program).2.isOk = true →
      ∃ earlier value, ∃ interp : Interpreter,
        Binds registry maxDepth (declarationsOn marker above) earlier ∧
        interp.Holds registry maxDepth (declarationsOn marker above) earlier ∧
        interp.evaluate expression = .ok value ∧
        (Readable name → (session.load program).1.Yields name value)) ∧
    -- Names
    (∀ line name, (Line.classify marker line).definedName? = some name →
      (Expr.parse name = .ok (.variable name) ↔ Readable name) ∧
      ((∀ c ∈ name.toList, Text.isAscii c = true) → (Readable name ↔ truthName? name = none))) ∧
    -- Spellings of truth values
    ∀ name truth, truthName? name = some truth → session.Yields name (.bool truth) := by
  intro marker registry maxDepth
  have readable {line name expression : String}
      (hline : Line.classify marker line = .binding name expression) (h : Readable name) :
      Expr.parse name = .ok (.variable name) :=
    (Line.parse_definedName_iff (by rw [hline]; rfl)).mpr h
  refine ⟨?lines, ?programs, ?names, fun name truth h => yields_truthName h⟩
  case lines =>
    intro line name expression hline ok
    obtain ⟨value, hvalue, bound⟩ := get?_enter_binding hline ok
    exact ⟨value, hvalue, fun h => yields_of_bound (readable hline h) bound⟩
  case programs =>
    intro program above line below name expression hlines hline ok
    obtain ⟨earlier, value, interp, hbefore, hstate, hvalue, bound⟩ :=
      get?_load_binding hlines hline ok
    exact ⟨earlier, value, interp, hbefore, hstate, hvalue,
      fun h => yields_of_bound (readable hline h) bound⟩
  case names =>
    intro line name h
    exact ⟨Line.parse_definedName_iff h, Line.readable_definedName_iff h⟩

end Bound

/-- A program with a function that tells truth values apart and a variable whose name is not
ASCII. -/
def pickProgram : String :=
  "flag = True\npick True x _ = x\ngröße = pick flag \"a\" \"b\"\n"

/-- A variable of a loaded program is read back, and so is a variable that is bound to it by a
line. -/
theorem evaluate_bound_name_pick :
    let session := new Config.standard
    let loaded := (session.load pickProgram).1
    (session.load pickProgram).2.isOk = true ∧ Readable "größe" ∧
    (∃ value, loaded.Yields "größe" value) ∧
    (loaded.enter "  kopie' = größe").2.isOk = true ∧ Readable "kopie'" ∧
    (∃ value, loaded.evaluate "größe" = .ok value ∧
      (loaded.enter "  kopie' = größe").1.Yields "kopie'" value) ∧
    (Expr.parse "kopie'" = .ok (.variable "kopie'") ↔ Readable "kopie'") ∧
    loaded.Yields "True" (.bool true) := by
  intro session loaded
  have lines : Text.lines pickProgram =
      ["flag = True", "pick True x _ = x"] ++ "größe = pick flag \"a\" \"b\"" :: [] := by
    decide +kernel
  have third : Line.classify "--" "größe = pick flag \"a\" \"b\"" =
      .binding "größe" "pick flag \"a\" \"b\"" :=
    Line.binding?_eq_some_iff.mp (by decide +kernel)
  have copy : Line.classify loaded.config.commentMarker "  kopie' = größe" =
      .binding "kopie'" "größe" :=
    Line.binding?_eq_some_iff.mp (by decide +kernel)
  have hload : (session.load pickProgram).2.isOk = true := by decide +kernel
  have henter : (loaded.enter "  kopie' = größe").2.isOk = true := by decide +kernel
  have size : Readable "größe" := by decide +kernel
  have name : Readable "kopie'" := by decide +kernel
  obtain ⟨-, programs, -, -⟩ := evaluate_bound_name session
  obtain ⟨entered, -, names, truths⟩ := evaluate_bound_name loaded
  obtain ⟨-, value, -, -, -, -, hyields⟩ := programs _ _ _ _ _ _ lines third hload
  obtain ⟨copied, hvalue, hcopied⟩ := entered _ _ _ copy henter
  exact ⟨hload, size, ⟨value, hyields size⟩, henter, name, ⟨copied, hvalue, hcopied name⟩,
    (names _ _ (by rw [copy]; rfl)).1, truths "True" true rfl⟩

/-- The line `True = False` binds `True` to a value that is not read back. -/
theorem not_forall_binding_read_back :
    ¬ ∀ (session : Session) (line name expression : String) (value : Value),
      Line.classify session.config.commentMarker line = .binding name expression →
      (session.enter line).2.isOk = true → session.evaluate expression = .ok value →
      (session.enter line).1.evaluate name = .ok value := by
  intro claim
  have line : Line.classify "--" "True = False" = .binding "True" "False" :=
    Line.binding?_eq_some_iff.mp (by decide +kernel)
  have value : (new Config.standard).evaluate "False" = .ok (.bool false) :=
    Interpreter.evaluate_truthName rfl
  -- The claim wants `False`, and the name reads as `true`.
  have back := claim (new Config.standard) _ _ _ _ line (by decide +kernel) value
  rw [evaluate, Interpreter.evaluate_truthName rfl] at back
  exact absurd (Value.bool.inj (Except.ok.inj back)) (by decide)

end Session

end Clausal
