import Clausal.Proofs.Session.Run
import Clausal.Proofs.Text.Blank
import Clausal.Proofs.Text.Lines

/-!
# The declarations of a program

Of a program only the clauses and the bindings count, in the order in which they stand. The other
lines are skipped and separate nothing, so loading is a matter of declarations. The declarations
of a text that is put together from lines are those of the lines.

Main statements:
* `ofProgram_eq_declareAll`: a program is loaded declaration by declaration;
* `complete_addClause`, `addBinding_eq_ok_iff`: what a clause and a binding do to the functions and
  the variables;
* `declarations_continued`: lines added at the end of a program add their declarations.
-/

namespace Clausal

/-- A line of a program that counts. -/
inductive Declaration where
  /-- A clause of a function. -/
  | clause (name : String) (clause : Clause)
  /-- The binding of a variable. -/
  | binding (name : String) (expression : String)

/-- The declaration on a line, if there is one. -/
def Line.declaration? : Line → Option Declaration
  | .clause name added => some (.clause name added)
  | .binding name expression => some (.binding name expression)
  | .blank | .guard | .malformed _ => none

section Lines

variable [WordClass]

/-- The declarations on some lines, in the order in which they stand. -/
def declarationsOn (marker : String) (lines : List String) : List Declaration :=
  lines.filterMap fun line => (Line.classify marker line).declaration?

/-- The declarations of a program. -/
def declarations (marker program : String) : List Declaration :=
  declarationsOn marker (Text.lines program)

theorem declarationsOn_cons_none {marker line : String} {lines : List String}
    (h : (Line.classify marker line).declaration? = none) :
    declarationsOn marker (line :: lines) = declarationsOn marker lines :=
  List.filterMap_cons_none h

theorem declarationsOn_cons_some {marker line : String} {lines : List String}
    {declaration : Declaration} (h : (Line.classify marker line).declaration? = some declaration) :
    declarationsOn marker (line :: lines) = declaration :: declarationsOn marker lines :=
  List.filterMap_cons_some h

end Lines

/-! ## Loading declarations -/

namespace Loading

/-- Takes in one declaration. -/
def declare (loading : Loading) : Declaration → Except Error Loading
  | .clause name clause => .ok (loading.addClause name clause)
  | .binding name expression => loading.addBinding name expression

/-- Takes in declarations one after the other. -/
def declareAll (loading : Loading) (declarations : List Declaration) : Except Error Loading :=
  declarations.foldlM declare loading

/-- A line that declares nothing is skipped. -/
theorem add_of_declaration?_eq_none {line : Line} (h : line.declaration? = none)
    (loading : Loading) : loading.add line = .ok loading := by
  cases line with
  | clause | binding => simp [Line.declaration?] at h
  | blank | guard | malformed => rfl

theorem add_of_declaration?_eq_some {line : Line} {declaration : Declaration}
    (h : line.declaration? = some declaration) (loading : Loading) :
    loading.add line = loading.declare declaration := by
  cases line with
  | clause | binding =>
    cases h
    rfl
  | blank | guard | malformed => simp [Line.declaration?] at h

/-- Lines are loaded by their declarations. -/
theorem addAll_eq_declareAll (loading : Loading) (lines : List Line) :
    loading.addAll lines = loading.declareAll (lines.filterMap Line.declaration?) := by
  unfold addAll declareAll
  -- Line by line, over the loader that the lines before have left
  induction lines generalizing loading with
  | nil => rfl
  | cons line lines ih =>
    rw [List.foldlM_cons]
    cases h : line.declaration? with
    | none =>
      rw [List.filterMap_cons_none h, add_of_declaration?_eq_none h, ← ih loading]
      rfl
    | some declaration =>
      rw [List.filterMap_cons_some h, List.foldlM_cons, add_of_declaration?_eq_some h]
      exact congrArg _ (funext ih)

theorem declareAll_append (loading : Loading) (first second : List Declaration) :
    loading.declareAll (first ++ second) =
      loading.declareAll first >>= fun next => next.declareAll second :=
  List.foldlM_append

/-- What every declaration keeps is kept by all of them together. -/
theorem declareAll_induction {P : Loading → Prop} {declarations : List Declaration}
    (step : ∀ loading next : Loading, ∀ declaration, P loading →
      loading.declare declaration = .ok next → P next)
    {loading last : Loading} (h : P loading) (hlast : loading.declareAll declarations = .ok last) :
    P last := by
  induction declarations generalizing loading with
  | nil => exact Except.ok.inj hlast ▸ h
  | cons declaration declarations ih =>
    -- All are taken in, so the first is, and the rest is taken in after it.
    rw [declareAll, List.foldlM_cons] at hlast
    cases hnext : loading.declare declaration with
    | error error => simp [hnext, bind, Except.bind] at hlast
    | ok next =>
      rw [hnext] at hlast
      exact ih (step loading next declaration h hnext) hlast

/-- The clauses of the function that is not complete yet, if it has this name. -/
def pendingOf (loading : Loading) (name : String) : List Clause :=
  match loading.pending with
  | some (current, clauses) => if current = name then clauses else []
  | none => []

section AddClause

variable (loading : Loading) (name other : String) (added : Clause)

theorem pendingOf_addClause :
    (loading.addClause name added).pendingOf other =
      if other = name then loading.pendingOf name ++ [added] else [] := by
  unfold addClause pendingOf
  cases loading.pending with
  | none => simp [eq_comm]
  | some pending =>
    obtain ⟨current, clauses⟩ := pending
    by_cases h : current = name
    · simp [h, eq_comm]
    · simp [h, eq_comm]

/-- The pending function is complete once a clause of another name comes, so only the function of
that name changes. -/
theorem complete_addClause :
    (loading.addClause name added).complete.maxDepth = loading.complete.maxDepth ∧
      (loading.addClause name added).complete.registry = loading.complete.registry ∧
      (loading.addClause name added).complete.globals = loading.complete.globals ∧
      (loading.addClause name added).complete.definitions.get? other =
        if other = name then some (loading.pendingOf name ++ [added])
        else loading.complete.definitions.get? other := by
  -- Nothing pending, a clause of the same name, or a clause of another name
  unfold addClause pendingOf complete
  cases loading.pending with
  | none => simp [Interpreter.defineFunction]
  | some pending =>
    obtain ⟨current, clauses⟩ := pending
    by_cases h : current = name
    · subst h
      by_cases same : other = current
      · simp [same, Interpreter.defineFunction]
      · simp [same, Interpreter.defineFunction]
    · simp [h, Interpreter.defineFunction]

end AddClause

/-- A binding is taken in exactly if the expression has a value and the name is not bound. -/
theorem addBinding_eq_ok_iff {loading next : Loading} {name expression : String} :
    loading.addBinding name expression = .ok next ↔
      ∃ value, loading.complete.evaluate expression = .ok value ∧
        loading.complete.globals.get? name = none ∧
        next = ⟨{ loading.complete with
          globals := loading.complete.globals.insert name value }, none⟩ := by
  unfold addBinding Interpreter.defineVariable Names.contains
  -- The expression is evaluated first, and its error comes before that of a bound name.
  cases hvalue : loading.complete.evaluate expression with
  | error error => simp [hvalue, bind, Except.bind]
  | ok value =>
    cases hbound : loading.complete.globals.get? name with
    | some current => simp [hvalue, hbound, bind, Except.bind]
    | none => simp [hvalue, hbound, bind, Except.bind, pure, Except.pure, eq_comm]

end Loading

/-- A program is loaded declaration by declaration. -/
theorem Interpreter.ofProgram_eq_declareAll [WordClass] (registry : Registry)
    (marker : String) (maxDepth : Nat) (program : String) :
    Interpreter.ofProgram registry marker maxDepth program =
      ((Loading.start registry maxDepth).declareAll (declarations marker program)).map
        Loading.complete := by
  have hlines : ((Text.lines program).map (Line.classify marker)).filterMap Line.declaration? =
      declarations marker program := List.filterMap_map
  rw [ofProgram, Loading.addAll_eq_declareAll, hlines]
  cases (Loading.start registry maxDepth).declareAll (declarations marker program) <;> rfl

namespace Interpreter

section OfProgram

variable [WordClass] {registry : Registry} {marker program : String} {maxDepth : Nat}
  {interp : Interpreter}

/-- A program that loads has had all of its declarations taken in. -/
theorem exists_declareAll_of_ofProgram_eq_ok
    (h : ofProgram registry marker maxDepth program = .ok interp) :
    ∃ last, (Loading.start registry maxDepth).declareAll (declarations marker program) = .ok last ∧
      last.complete = interp := by
  rw [ofProgram_eq_declareAll] at h
  cases hload : (Loading.start registry maxDepth).declareAll (declarations marker program) with
  | error error => simp [hload, Except.map] at h
  | ok last =>
    rw [hload] at h
    exact ⟨last, rfl, Except.ok.inj h⟩

/-- A program finds the tools that it is loaded with. -/
theorem registry_ofProgram (h : ofProgram registry marker maxDepth program = .ok interp) :
    interp.registry = registry := by
  obtain ⟨last, hload, rfl⟩ := exists_declareAll_of_ofProgram_eq_ok h
  refine Loading.declareAll_induction (P := fun loading => loading.complete.registry = registry)
    ?_ rfl hload
  -- Neither sort of declaration touches the tools.
  intro loading next declaration same hnext
  cases declaration with
  | clause name added =>
    obtain rfl := Except.ok.inj hnext
    exact (loading.complete_addClause name "" added).2.1.trans same
  | binding name expression =>
    obtain ⟨value, -, -, rfl⟩ := Loading.addBinding_eq_ok_iff.mp hnext
    exact same

end OfProgram

end Interpreter

namespace Session

variable [WordClass] {session : Session} {program : String}

/-- A program loads if all of its declarations are taken in. -/
theorem load_of_declareAll_eq_ok {last : Loading}
    (h : (Loading.start session.interpreter.registry session.config.maxDepth).declareAll
      (declarations session.config.commentMarker program) = .ok last) :
    session.load program = ({ session with interpreter := last.complete },
      .ok { session with interpreter := last.complete : Session }.report) :=
  load_of_ok ((Interpreter.ofProgram_eq_declareAll _ _ _ program).trans
    (congrArg (Except.map Loading.complete) h))

/-- A program fails with the declaration that is not taken in. -/
theorem load_of_declareAll_eq_error {error : Error}
    (h : (Loading.start session.interpreter.registry session.config.maxDepth).declareAll
      (declarations session.config.commentMarker program) = .error error) :
    session.load program = (session, .error error) :=
  load_of_error ((Interpreter.ofProgram_eq_declareAll _ _ _ program).trans
    (congrArg (Except.map Loading.complete) h))

/-- No operation changes the tools. -/
theorem registry_perform (session : Session) (operation : Operation) :
    (session.perform operation).1.interpreter.registry = session.interpreter.registry := by
  rcases perform_cases session operation with
    ⟨unchanged, -⟩ | ⟨program, interpreter, -, hprogram, loaded, -⟩ |
    ⟨line, name, expression, value, -, -, -, -, bound, -⟩
  -- A program is loaded with the tools of the session, and a binding adds a variable only.
  · rw [unchanged]
  · rw [loaded]
    exact Interpreter.registry_ofProgram hprogram
  · rw [bound]

theorem registry_after (session : Session) (operations : List Operation) :
    (session.after operations).interpreter.registry = session.interpreter.registry := by
  induction operations generalizing session with
  | nil => rfl
  | cons operation operations ih =>
    exact (ih (session.perform operation).1).trans (registry_perform session operation)

end Session

/-! ## Texts put together from lines -/

namespace Text

/-- A text whose last line, if it has one, is ended by a line feed. -/
def ended (text : List Char) : List Char :=
  if text.getLast?.all (· == '\n') then text else text ++ ['\n']

/-- A program followed by further lines, each of which is a line of its own. -/
def continued (program : String) (lines : List String) : String :=
  String.ofList (ended program.toList) ++ "\n".intercalate lines

/-- The carriage return before a line feed makes no difference to a trimmed line. -/
theorem trim_withoutReturn (line : List Char) : trim (withoutReturn line) = trim line := by
  unfold withoutReturn
  split
  · rename_i last
    -- A carriage return is blank, so it is trimmed with the end.
    obtain ⟨init, rfl⟩ := List.getLast?_eq_some_iff.mp last
    rw [List.dropLast_concat, trim_append_blanks (List.all_eq_true.mp (by decide))]
  · rfl

end Text

/-- The declaration on a line that is given by its characters. -/
def declarationOn? [WordClass] (marker : String) (line : List Char) : Option Declaration :=
  (Line.classify marker (String.ofList line)).declaration?

section Texts

open Text

variable [WordClass] {marker : String}

theorem declarations_eq (marker program : String) :
    declarations marker program =
      (linesFrom [] program.toList).filterMap (declarationOn? marker) := by
  unfold declarations declarationsOn lines
  rw [List.filterMap_map]
  rfl

theorem declarationOn?_toList (marker line : String) :
    declarationOn? marker line.toList = (Line.classify marker line).declaration? := by
  rw [declarationOn?, String.ofList_toList]

theorem declarationOn?_nil : declarationOn? marker [] = none := by
  simp [declarationOn?, Line.classify, Line.ofTrimmed, trim, trimStart, trimEnd,
    Line.declaration?]

/-- A line is the same declaration with and without a carriage return at its end. -/
theorem declarationOn?_withoutReturn (line : List Char) :
    declarationOn? marker (withoutReturn line) = declarationOn? marker line := by
  simp only [declarationOn?, Line.classify, String.toList_ofList, trim_withoutReturn]

/-- Ending the last line of a text adds no declaration. -/
theorem filterMap_linesFrom_concat (line text : List Char) :
    (linesFrom line (text ++ ['\n'])).filterMap (declarationOn? marker) =
      (linesFrom line text).filterMap (declarationOn? marker) := by
  -- What matters is whether the line that is being read is empty when the text ends.
  induction text generalizing line with
  | nil =>
    cases line with
    | nil => simp [linesFrom, declarationOn?_withoutReturn, declarationOn?_nil]
    | cons c line => simp [linesFrom, List.filterMap_cons, declarationOn?_withoutReturn]
  | cons c text ih =>
    by_cases h : c = '\n'
    · subst h
      simp only [List.cons_append, linesFrom, List.filterMap_cons, ih]
    · simp only [List.cons_append, linesFrom, ih]

/-- What follows a text whose last line is ended adds its own declarations. -/
theorem filterMap_linesFrom_ended (text rest : List Char) :
    (linesFrom [] (ended text ++ rest)).filterMap (declarationOn? marker) =
      (linesFrom [] text).filterMap (declarationOn? marker) ++
        (linesFrom [] rest).filterMap (declarationOn? marker) := by
  unfold ended
  split
  · rename_i complete
    -- The text is empty or ends with a line feed, and in neither case is a line still being read.
    rcases List.eq_nil_or_concat text with rfl | ⟨init, c, rfl⟩
    · rfl
    · obtain rfl : c = '\n' := by simpa using complete
      rw [List.concat_eq_append, List.append_assoc, List.singleton_append, linesFrom_append,
        List.filterMap_append]
  · rw [List.append_assoc, List.singleton_append, linesFrom_append, List.filterMap_append,
      filterMap_linesFrom_concat]

/-- Lines that are joined are declarations one by one. -/
theorem filterMap_linesFrom_intercalate {texts : List (List Char)}
    (h : ∀ text ∈ texts, '\n' ∉ text) :
    (linesFrom [] (['\n'].intercalate texts)).filterMap (declarationOn? marker) =
      texts.filterMap (declarationOn? marker) := by
  induction texts with
  | nil => rfl
  | cons text texts ih =>
    rw [List.forall_mem_cons] at h
    cases texts with
    | nil =>
      -- The last line is not ended.
      have hlast := @linesFrom_of_not_mem [] text h.1 []
      rw [List.append_nil, List.append_nil] at hlast
      rw [List.intercalate_singleton, hlast]
      cases text with
      | nil => simp [linesFrom, declarationOn?_nil]
      | cons c text => simp [linesFrom]
    | cons second texts =>
      rw [List.intercalate_cons_cons, List.append_assoc, linesFrom_of_not_mem h.1,
        List.singleton_append, linesFrom, List.append_nil, List.reverse_reverse,
        List.filterMap_cons, List.filterMap_cons, declarationOn?_withoutReturn, ih h.2]

/-- Lines that are added at the end of a program add their declarations. -/
theorem declarations_continued (program : String) {added : List String}
    (h : ∀ line ∈ added, '\n' ∉ line.toList) :
    declarations marker (continued program added) =
      declarations marker program ++ declarationsOn marker added := by
  have hadded : (added.map String.toList).filterMap (declarationOn? marker) =
      declarationsOn marker added := by
    simp only [List.filterMap_map, Function.comp_def, declarationOn?_toList, declarationsOn]
  have hlines : ∀ text ∈ added.map String.toList, '\n' ∉ text := by
    simpa using h
  rw [declarations_eq, declarations_eq, continued, String.toList_append, String.toList_ofList,
    String.toList_intercalate, filterMap_linesFrom_ended]
  show _ ++ List.filterMap _ (linesFrom [] (['\n'].intercalate _)) = _
  rw [filterMap_linesFrom_intercalate hlines, hadded]

end Texts

end Clausal
