import Clausal.Proofs.Evaluation.Agreement
import Clausal.Proofs.Names
import Clausal.Proofs.Session.Declarations
import Mathlib.Data.List.DropRight
import Mathlib.Data.List.Induction

/-!
# What a program means

Consecutive clauses of one name are a group, and a function consists of the last group of its
name. A binding is evaluated with the functions and the variables that are complete where it
stands. This file says so without a loader that reads line by line, and shows that loading a
program is just that.

Main statements:
* `exists_lastGroup`: the last group of a name is a maximal run of its clauses;
* `declareAll_of_binds`, `declareAll_of_firstFailure`: the loader yields what the declarations mean;
* `load_meaning`: a program loads exactly if its bindings succeed, and defines what it means.
-/

namespace Clausal

/-! ## Names and groups -/

namespace Declaration

/-- The function that a declaration is about. -/
def functionName? : Declaration → Option String
  | clause name _ => some name
  | binding _ _ => none

/-- The variable that a declaration is about. -/
def variableName? : Declaration → Option String
  | clause _ _ => none
  | binding name _ => some name

/-- The clause that a declaration gives to the function of this name. -/
def clauseOf? (name : String) : Declaration → Option Clause
  | clause other added => if other = name then some added else none
  | binding _ _ => none

end Declaration

open Declaration

/-- The names of the clauses, in the order in which they stand. -/
def functionNames (declarations : List Declaration) : List String :=
  declarations.filterMap functionName?

/-- The names of the bindings, in the order in which they stand. -/
def variableNames (declarations : List Declaration) : List String :=
  declarations.filterMap variableName?

section Concat

variable (declarations : List Declaration) (name expression : String) (added : Clause)

@[simp]
theorem functionNames_concat_clause :
    functionNames (declarations ++ [.clause name added]) = functionNames declarations ++ [name] :=
  List.filterMap_append

@[simp]
theorem functionNames_concat_binding :
    functionNames (declarations ++ [.binding name expression]) = functionNames declarations :=
  List.filterMap_append.trans (List.append_nil _)

@[simp]
theorem variableNames_concat_clause :
    variableNames (declarations ++ [.clause name added]) = variableNames declarations :=
  List.filterMap_append.trans (List.append_nil _)

@[simp]
theorem variableNames_concat_binding :
    variableNames (declarations ++ [.binding name expression]) =
      variableNames declarations ++ [name] :=
  List.filterMap_append

end Concat

/-- The clauses of a name at the very end, back to the first declaration of another sort. -/
def finalGroup (name : String) (declarations : List Declaration) : List Clause :=
  (declarations.rtakeWhile fun declaration => (declaration.clauseOf? name).isSome).filterMap
    (clauseOf? name)

/-- The last group of a name: the clauses at the end, once everything that follows the last
clause of the name is dropped. -/
def lastGroup (name : String) (declarations : List Declaration) : List Clause :=
  finalGroup name
    (declarations.rdropWhile fun declaration => (declaration.clauseOf? name).isNone)

section Groups

variable {name : String} {declarations : List Declaration} {declaration : Declaration}

theorem clauseOf?_clause_self (name : String) (added : Clause) :
    (Declaration.clause name added).clauseOf? name = some added :=
  if_pos rfl

theorem clauseOf?_clause_of_ne {other : String} (h : other ≠ name) (added : Clause) :
    (Declaration.clause other added).clauseOf? name = none :=
  if_neg h

theorem finalGroup_concat_of_none (h : declaration.clauseOf? name = none) :
    finalGroup name (declarations ++ [declaration]) = [] := by
  rw [finalGroup, List.rtakeWhile_concat_neg _ _ _ (by simp [h]), List.filterMap_nil]

theorem finalGroup_concat_of_some {added : Clause} (h : declaration.clauseOf? name = some added) :
    finalGroup name (declarations ++ [declaration]) = finalGroup name declarations ++ [added] := by
  rw [finalGroup, List.rtakeWhile_concat_pos _ _ _ (by simp [h]), List.filterMap_append]
  simp [finalGroup, h]

theorem lastGroup_concat_of_none (h : declaration.clauseOf? name = none) :
    lastGroup name (declarations ++ [declaration]) = lastGroup name declarations := by
  rw [lastGroup, List.rdropWhile_concat_pos _ _ _ (by simp [h]), lastGroup]

theorem lastGroup_concat_of_some {added : Clause} (h : declaration.clauseOf? name = some added) :
    lastGroup name (declarations ++ [declaration]) = finalGroup name declarations ++ [added] := by
  rw [lastGroup, List.rdropWhile_concat_neg _ _ _ (by simp [h]), finalGroup_concat_of_some h]

theorem clauseOf?_eq_some_iff {added : Clause} :
    declaration.clauseOf? name = some added ↔ declaration = .clause name added := by
  cases declaration with
  | clause other clause =>
    simp only [clauseOf?]
    split <;> simp_all
  | binding => simp [clauseOf?]

/-- Declarations that are all clauses of a name are made up of their clauses. -/
theorem map_filterMap_clauseOf? (h : ∀ declaration ∈ declarations,
      (declaration.clauseOf? name).isSome = true) :
    (declarations.filterMap (clauseOf? name)).map (.clause name) = declarations := by
  induction declarations with
  | nil => rfl
  | cons first rest ih =>
    rw [List.forall_mem_cons] at h
    obtain ⟨added, hadded⟩ := Option.isSome_iff_exists.mp h.1
    rw [List.filterMap_cons_some hadded, List.map_cons, ih h.2, ← clauseOf?_eq_some_iff.mp hadded]

/-- The clauses at the end, written as declarations. -/
theorem map_finalGroup (name : String) (declarations : List Declaration) :
    (finalGroup name declarations).map (.clause name) =
      declarations.rtakeWhile fun declaration => (declaration.clauseOf? name).isSome :=
  map_filterMap_clauseOf? fun _ mem => by simpa using List.mem_rtakeWhile_imp mem

/-- A name is the name of a function exactly if one of the declarations is a clause of it. -/
theorem mem_functionNames_iff :
    name ∈ functionNames declarations ↔
      ∃ declaration ∈ declarations, (declaration.clauseOf? name).isSome = true := by
  unfold functionNames
  rw [List.mem_filterMap]
  refine exists_congr fun declaration => and_congr_right fun _ => ?_
  cases declaration with
  | clause other added =>
    simp only [functionName?, clauseOf?, Option.some.injEq]
    split <;> simp_all
  | binding => simp [functionName?, clauseOf?]

/-- The last group of a name is a maximal run of its clauses, and no clause of the name follows
it. -/
theorem exists_lastGroup (h : name ∈ functionNames declarations) :
    ∃ before after,
      declarations = before ++ (lastGroup name declarations).map (.clause name) ++ after ∧
      lastGroup name declarations ≠ [] ∧
      (∀ declaration ∈ before.getLast?, declaration.clauseOf? name = none) ∧
      (∀ declaration ∈ after, declaration.clauseOf? name = none) := by
  let isNone (declaration : Declaration) : Bool := (declaration.clauseOf? name).isNone
  let isSome (declaration : Declaration) : Bool := (declaration.clauseOf? name).isSome
  -- What stands up to the last clause of the name, and in it what stands before the group
  let kept := declarations.rdropWhile isNone
  refine ⟨kept.rdropWhile isSome, declarations.rtakeWhile isNone, ?_, ?_, ?_, ?_⟩
  -- Put together, the three parts are the declarations again.
  · rw [lastGroup, map_finalGroup]
    show _ = kept.rdropWhile isSome ++ kept.rtakeWhile isSome ++ _
    rw [List.rdropWhile_append_rtakeWhile, List.rdropWhile_append_rtakeWhile]
  · intro empty
    -- A clause of the name is kept, and the last thing kept is such a clause.
    have hkept : kept ≠ [] := by
      obtain ⟨declaration, mem, clause⟩ := mem_functionNames_iff.mp h
      intro hnil
      have hnone := List.rdropWhile_eq_nil_iff.mp hnil declaration mem
      simp_all [isNone]
    have hlast := List.rdropWhile_last_not isNone declarations hkept
    have hrun : kept.rtakeWhile isSome = [] :=
      (map_finalGroup name kept).symm.trans (congrArg (List.map (Declaration.clause name)) empty)
    have hnot := List.rtakeWhile_eq_nil_iff.mp hrun hkept
    simp_all [isNone, isSome, kept]
  -- What stands before the group does not end with a clause of the name, or the group were longer.
  · intro declaration mem
    obtain ⟨hne, rfl⟩ := List.mem_getLast?_eq_getLast mem
    simpa [isSome] using List.rdropWhile_last_not isSome kept hne
  · intro declaration mem
    simpa [isNone] using List.mem_rtakeWhile_imp mem

end Groups

/-! ## The meaning of declarations -/

/-- An interpreter that holds what some declarations define: of each function the last group, and
the variables with the given values. Its tools and its limit are the given ones. -/
structure Interpreter.Holds (interp : Interpreter) (registry : Registry) (maxDepth : Nat)
    (declarations : List Declaration) (values : List (String × Value)) : Prop where
  maxDepth : interp.maxDepth = maxDepth
  registry : interp.registry = registry
  functions : ∀ name, interp.definitions.get? name =
    if name ∈ functionNames declarations then some (lastGroup name declarations) else none
  globals : ∀ name, interp.globals.get? name = values.lookup name

/-- `Binds registry maxDepth declarations values`: with these tools and this limit, all bindings
among the declarations succeed, and bind these names to these values. A binding succeeds if its
expression has a value in what the declarations before it define, and if none of them binds its
name. -/
inductive Binds (registry : Registry) (maxDepth : Nat) :
    List Declaration → List (String × Value) → Prop where
  | nil : Binds registry maxDepth [] []
  | clause {declarations : List Declaration} {values : List (String × Value)} (name : String)
      (added : Clause) :
      Binds registry maxDepth declarations values →
      Binds registry maxDepth (declarations ++ [.clause name added]) values
  | binding {declarations : List Declaration} {values : List (String × Value)}
      {interp : Interpreter} {name expression : String} {value : Value} :
      Binds registry maxDepth declarations values →
      interp.Holds registry maxDepth declarations values →
      interp.evaluate expression = .ok value →
      name ∉ variableNames declarations →
      Binds registry maxDepth (declarations ++ [.binding name expression])
        (values ++ [(name, value)])

/-- The first binding that fails does so with this error: its expression has no value, or it has
one and the name is bound already. -/
def FirstFailure (registry : Registry) (maxDepth : Nat) (declarations : List Declaration)
    (error : Error) : Prop :=
  ∃ before name expression after values, ∃ interp : Interpreter,
    declarations = before ++ .binding name expression :: after ∧
    Binds registry maxDepth before values ∧ interp.Holds registry maxDepth before values ∧
    (interp.evaluate expression = .error error ∨
      ∃ value, interp.evaluate expression = .ok value ∧ name ∈ variableNames before ∧
        error = .immutableReassignment name)

section Meaning

variable {registry : Registry} {maxDepth : Nat} {declarations : List Declaration}
  {values : List (String × Value)}

/-- What is held is all that evaluation can see. -/
theorem Interpreter.Holds.alike {interp other : Interpreter}
    (h : interp.Holds registry maxDepth declarations values)
    (h' : other.Holds registry maxDepth declarations values) : interp.Alike other where
  maxDepth := h.maxDepth.trans h'.maxDepth.symm
  registry := h.registry.trans h'.registry.symm
  definitions name := (h.functions name).trans (h'.functions name).symm
  globals name := (h.globals name).trans (h'.globals name).symm

/-- The bound names are those of the bindings. -/
theorem Binds.map_fst (h : Binds registry maxDepth declarations values) :
    values.map Prod.fst = variableNames declarations := by
  induction h with
  | nil => rfl
  | clause name added _ ih => rw [variableNames_concat_clause, ih]
  | binding _ _ _ _ ih => rw [variableNames_concat_binding, List.map_append, ih]; rfl

/-- No name is bound twice. -/
theorem Binds.nodup (h : Binds registry maxDepth declarations values) :
    (variableNames declarations).Nodup := by
  induction h with
  | nil => exact List.nodup_nil
  | clause name added _ ih => rwa [variableNames_concat_clause]
  | binding _ _ _ fresh ih =>
    rw [variableNames_concat_binding, ← List.concat_eq_append]
    exact ih.concat fresh

/-- A name is bound exactly if one of the bindings has it. -/
theorem Interpreter.Holds.bound_iff {interp : Interpreter}
    (h : interp.Holds registry maxDepth declarations values)
    (hvalues : Binds registry maxDepth declarations values) (name : String) :
    (interp.globals.get? name).isSome = true ↔ name ∈ variableNames declarations := by
  rw [h.globals, List.lookup_isSome_iff, ← hvalues.map_fst, List.mem_map]
  exact exists_congr fun part => and_congr_right fun _ => by rw [beq_iff_eq, eq_comm]

end Meaning

/-! ## The loader -/

namespace Loading

/-- A loader that has taken in some declarations: it holds what they define, and is reading the
group at their end. -/
structure HasRead (loading : Loading) (registry : Registry) (maxDepth : Nat)
    (declarations : List Declaration) (values : List (String × Value)) : Prop where
  holds : loading.complete.Holds registry maxDepth declarations values
  pending : ∀ name, loading.pendingOf name = finalGroup name declarations

variable {loading : Loading} {registry : Registry} {maxDepth : Nat}
  {declarations : List Declaration} {values : List (String × Value)} {name : String}

theorem hasRead_start (registry : Registry) (maxDepth : Nat) :
    (start registry maxDepth).HasRead registry maxDepth [] [] where
  holds := ⟨rfl, rfl, fun _ => rfl, fun _ => rfl⟩
  pending _ := rfl

/-- A clause continues the group at the end, or starts a new one. -/
theorem HasRead.addClause (h : loading.HasRead registry maxDepth declarations values)
    (name : String) (added : Clause) :
    (loading.addClause name added).HasRead registry maxDepth
      (declarations ++ [.clause name added]) values where
  holds := by
    refine ⟨?_, ?_, fun other => ?_, fun other => ?_⟩
    · rw [(complete_addClause loading name "" added).1, h.holds.maxDepth]
    · rw [(complete_addClause loading name "" added).2.1, h.holds.registry]
    · rw [(complete_addClause loading name other added).2.2.2, functionNames_concat_clause]
      by_cases same : other = name
      · -- The group at the end becomes the last one of its name, however short it still is.
        subst same
        rw [if_pos rfl, if_pos (by simp),
          lastGroup_concat_of_some (clauseOf?_clause_self other added), h.pending]
      · rw [if_neg same, h.holds.functions,
          lastGroup_concat_of_none (clauseOf?_clause_of_ne (Ne.symm same) added)]
        simp [same]
    -- A clause binds no variable.
    · rw [(complete_addClause loading name "" added).2.2.1, h.holds.globals]
  pending other := by
    rw [pendingOf_addClause]
    by_cases same : other = name
    · subst same
      rw [if_pos rfl, finalGroup_concat_of_some (clauseOf?_clause_self other added), h.pending]
    · rw [if_neg same, finalGroup_concat_of_none (clauseOf?_clause_of_ne (Ne.symm same) added)]

/-- A binding ends the group before it and adds its variable. -/
theorem HasRead.addBinding (h : loading.HasRead registry maxDepth declarations values)
    (fresh : loading.complete.globals.get? name = none) (expression : String) (value : Value) :
    (⟨{ loading.complete with globals := loading.complete.globals.insert name value },
      none⟩ : Loading).HasRead registry maxDepth (declarations ++ [.binding name expression])
        (values ++ [(name, value)]) where
  holds := by
    -- No function changes, and one variable is added.
    refine ⟨h.holds.maxDepth, h.holds.registry, fun other => ?_, fun other => ?_⟩
    · rw [functionNames_concat_binding, lastGroup_concat_of_none rfl]
      exact h.holds.functions other
    · show (loading.complete.globals.insert name value).get? other = _
      rw [h.holds.globals] at fresh
      rw [Names.get?_insert, h.holds.globals, List.lookup_append]
      by_cases same : other = name
      · subst same
        simp [fresh]
      · simp [same, List.lookup_cons, beq_eq_false_iff_ne.mpr same]
  pending other := (finalGroup_concat_of_none rfl).symm

end Loading

open Loading

section Loader

variable {registry : Registry} {maxDepth : Nat} {declarations : List Declaration}
  {values : List (String × Value)}

theorem declareAll_concat (loading : Loading) (declarations : List Declaration)
    (declaration : Declaration) :
    loading.declareAll (declarations ++ [declaration]) =
      loading.declareAll declarations >>= fun next => next.declare declaration := by
  rw [declareAll_append]
  exact congrArg _ (funext fun next => by simp [declareAll])

/-- If all bindings succeed, the loader takes in all declarations and holds what they define. -/
theorem declareAll_of_binds (h : Binds registry maxDepth declarations values) :
    ∃ last, (start registry maxDepth).declareAll declarations = .ok last ∧
      last.HasRead registry maxDepth declarations values := by
  induction h with
  | nil => exact ⟨start registry maxDepth, rfl, hasRead_start registry maxDepth⟩
  | @clause declarations values name added _ ih =>
    obtain ⟨last, hlast, read⟩ := ih
    refine ⟨last.addClause name added, ?_, read.addClause name added⟩
    rw [declareAll_concat, hlast]
    rfl
  | @binding declarations values interp name expression value hbefore hinterp hvalue fresh ih =>
    obtain ⟨last, hlast, read⟩ := ih
    -- The loader and the interpreter of the rule hold the same, so the one evaluates as the other.
    have unbound : last.complete.globals.get? name = none := by
      rw [← Option.not_isSome_iff_eq_none, read.holds.bound_iff hbefore]
      exact fresh
    rw [← (read.holds.alike hinterp).evaluate_eq] at hvalue
    refine ⟨_, ?_, read.addBinding unbound expression value⟩
    rw [declareAll_concat, hlast]
    exact addBinding_eq_ok_iff.mpr ⟨value, hvalue, unbound, rfl⟩

/-- If a binding fails, the loader stops with the error of the first one. -/
theorem declareAll_of_firstFailure {error : Error}
    (h : FirstFailure registry maxDepth declarations error) :
    (start registry maxDepth).declareAll declarations = .error error := by
  -- What stands after the failing binding is never read.
  obtain ⟨before, name, expression, after, values, interp, rfl, hbefore, hinterp, failure⟩ := h
  obtain ⟨last, hlast, read⟩ := declareAll_of_binds hbefore
  -- The loader sees what the declarations before the binding define, so it fails alike.
  have stops : last.addBinding name expression = .error error := by
    rw [← (read.holds.alike hinterp).evaluate_eq] at failure
    unfold addBinding Interpreter.defineVariable
    rcases failure with herror | ⟨value, hvalue, bound, rfl⟩
    · simp only [herror]
      rfl
    · rw [← read.holds.bound_iff hbefore] at bound
      have hcontains : last.complete.globals.contains name = true := bound
      simp only [hvalue, hcontains, ↓reduceIte]
      rfl
  rw [declareAll_append, hlast]
  show last.declareAll (.binding name expression :: after) = _
  rw [declareAll, List.foldlM_cons]
  show (last.addBinding name expression >>= _) = _
  rw [stops]
  rfl

theorem FirstFailure.concat {error : Error} (h : FirstFailure registry maxDepth declarations error)
    (declaration : Declaration) :
    FirstFailure registry maxDepth (declarations ++ [declaration]) error := by
  obtain ⟨before, name, expression, after, values, interp, rfl, rest⟩ := h
  exact ⟨before, name, expression, after ++ [declaration], values, interp, by simp, rest⟩

/-- Either all bindings succeed or there is a first one that fails. -/
theorem binds_or_firstFailure (registry : Registry) (maxDepth : Nat)
    (declarations : List Declaration) :
    (∃ values, Binds registry maxDepth declarations values) ∨
      ∃ error, FirstFailure registry maxDepth declarations error := by
  induction declarations using List.reverseRecOn with
  | nil => exact .inl ⟨[], .nil⟩
  | append_singleton declarations declaration ih =>
    rcases ih with ⟨values, h⟩ | ⟨error, h⟩
    · -- All bindings have succeeded so far, and the last declaration decides.
      cases declaration with
      | clause name added => exact .inl ⟨values, h.clause name added⟩
      | binding name expression =>
        obtain ⟨last, -, read⟩ := declareAll_of_binds h
        cases hvalue : last.complete.evaluate expression with
        | error error =>
          exact .inr ⟨error, declarations, name, expression, [], values, last.complete, rfl, h,
            read.holds, .inl hvalue⟩
        | ok value =>
          by_cases bound : name ∈ variableNames declarations
          · exact .inr ⟨.immutableReassignment name, declarations, name, expression, [], values,
              last.complete, rfl, h, read.holds, .inr ⟨value, hvalue, bound, rfl⟩⟩
          · exact .inl ⟨_, h.binding read.holds hvalue bound⟩
    · exact .inr ⟨error, h.concat declaration⟩

/-- How much an interpreter holds, counted by names and by clauses of last groups. -/
theorem report_of_holds {session : Session}
    (h : session.interpreter.Holds registry maxDepth declarations values)
    (hvalues : Binds registry maxDepth declarations values) :
    session.report = ⟨(functionNames declarations).dedup.length,
      ((functionNames declarations).dedup.map fun name => (lastGroup name declarations).length).sum,
      (variableNames declarations).length⟩ := by
  -- All that is counted is determined by what is looked up, whatever the order of the names is.
  have functions (name : String) :
      (session.interpreter.definitions.get? name).isSome = true ↔
        name ∈ functionNames declarations := by
    rw [h.functions]
    split <;> simp_all
  have clauses (name : String) (current : List Clause)
      (stored : session.interpreter.definitions.get? name = some current) :
      current = lastGroup name declarations := by
    rw [h.functions] at stored
    split at stored
    · exact (Option.some.inj stored).symm
    · contradiction
  have hfunctions : session.interpreter.functionCount = (functionNames declarations).dedup.length :=
    Names.size_eq functions
  have hclauses : session.interpreter.clauseCount = ((functionNames declarations).dedup.map
      fun name => (lastGroup name declarations).length).sum := by
    rw [Interpreter.clauseCount, ← List.sum_eq_foldl_nat]
    exact Names.sum_values_eq functions clauses
  -- No name is bound twice, so there are as many variables as bindings.
  have hglobals : session.interpreter.globalCount = (variableNames declarations).length := by
    rw [← hvalues.nodup.dedup]
    exact Names.size_eq (h.bound_iff hvalues)
  rw [Session.report, hfunctions, hclauses, hglobals]

end Loader

section Load

variable [WordClass] {session : Session} {program : String}

/-- If all bindings of a program succeed, it loads and leaves behind what it means. -/
theorem load_of_binds {values : List (String × Value)}
    (h : Binds session.interpreter.registry session.config.maxDepth
      (declarations session.config.commentMarker program) values) :
    ∃ interpreter : Interpreter,
      interpreter.Holds session.interpreter.registry session.config.maxDepth
        (declarations session.config.commentMarker program) values ∧
      session.load program = ({ session with interpreter := interpreter },
        .ok { session with interpreter := interpreter : Session }.report) := by
  obtain ⟨last, hlast, read⟩ := declareAll_of_binds h
  exact ⟨last.complete, read.holds, Session.load_of_declareAll_eq_ok hlast⟩

/-- If a binding of a program fails, nothing is loaded. -/
theorem load_of_firstFailure {error : Error}
    (h : FirstFailure session.interpreter.registry session.config.maxDepth
      (declarations session.config.commentMarker program) error) :
    session.load program = (session, .error error) :=
  Session.load_of_declareAll_eq_error (declareAll_of_firstFailure h)

end Load

/-- **Loading a program yields what its declarations mean.**

A program loads exactly if every binding succeeds with what the declarations before it define:
its expression has a value and its name is not bound. Otherwise the first binding that fails is
reported, a failing expression before a bound name. A program that loads defines of each function
the last group of its name, and of each variable the value of its binding; and it is counted by
the names of its functions, the clauses in their last groups, and its bindings. The last group of
a name is a maximal run of its clauses. -/
theorem load_meaning [WordClass] (session : Session) (program : String) :
    let declared := declarations session.config.commentMarker program
    let registry := session.interpreter.registry
    let maxDepth := session.config.maxDepth
    -- Success
    ((session.load program).2.isOk = true ↔ ∃ values, Binds registry maxDepth declared values) ∧
    -- Failure
    (∀ error, (session.load program).2 = .error error ↔
      FirstFailure registry maxDepth declared error) ∧
    -- What a program that loads leaves behind
    (∀ values, Binds registry maxDepth declared values →
      values.map Prod.fst = variableNames declared ∧
      (session.load program).1.interpreter.Holds registry maxDepth declared values ∧
      (session.load program).2 = .ok ⟨(functionNames declared).dedup.length,
        ((functionNames declared).dedup.map fun name => (lastGroup name declared).length).sum,
        (variableNames declared).length⟩) ∧
    -- Last groups
    (∀ name ∈ functionNames declared, ∃ before after,
      declared = before ++ (lastGroup name declared).map (.clause name) ++ after ∧
      lastGroup name declared ≠ [] ∧
      (∀ declaration ∈ before.getLast?, declaration.clauseOf? name = none) ∧
      (∀ declaration ∈ after, declaration.clauseOf? name = none)) := by
  intro declared registry maxDepth
  have either := binds_or_firstFailure registry maxDepth declared
  refine ⟨⟨fun ok => ?_, fun h => ?_⟩, fun error => ⟨fun herror => ?_, fun h => ?_⟩,
    fun values h => ?_, fun name mem => exists_lastGroup mem⟩
  -- A program that loads has no first failure, so all of its bindings succeed.
  · refine either.resolve_right fun h => ?_
    obtain ⟨error, h⟩ := h
    simp [load_of_firstFailure h, Except.toBool] at ok
  · obtain ⟨values, h⟩ := h
    obtain ⟨interpreter, -, hload⟩ := load_of_binds h
    rw [hload]
    rfl
  · -- The error is that of the first failure, since a program that binds all does not fail.
    rcases either with ⟨values, h⟩ | ⟨first, h⟩
    · obtain ⟨interpreter, -, hload⟩ := load_of_binds h
      simp [hload] at herror
    · rw [load_of_firstFailure h] at herror
      cases herror
      exact h
  · rw [load_of_firstFailure h]
  · obtain ⟨interpreter, holds, hload⟩ := load_of_binds h
    refine ⟨h.map_fst, ?_, ?_⟩
    · rw [hload]
      exact holds
    · rw [hload, report_of_holds holds h]

end Clausal
