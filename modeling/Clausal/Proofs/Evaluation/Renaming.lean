import Clausal.Proofs.Evaluation.Layers
import Clausal.Proofs.Matching.Bindings

/-!
# Renaming parameters

The names that the patterns of a clause bind do not matter. If they are renamed consistently in
the patterns and in the body, to names that occur nowhere in the clause, no evaluation changes.

A parameter is looked up in the bindings of its clause before anything else, so it never shows
in an error and never becomes the name of a function value. Two expressions therefore evaluate
alike when each name of the one has the value that the renamed name has for the other, and the
names without a value are the same.

Main statements:
* `evalIn_rename`: a renamed expression evaluates alike under the renamed bindings;
* `Renaming.eval_match?`: a renamed clause matches alike, and its body has the same values;
* `answer_rename`: renaming the parameters of a stored clause changes no answer.
-/

namespace Clausal

/-! ## Expressions -/

mutual

/-- The names that an expression mentions, as variables and as heads of applications. -/
def Expr.names : Expr → List String
  | .number _ | .string _ | .bool _ | .bareSection _ => []
  | .list items => Expr.namesAll items
  | .variable name => [name]
  | .binary _ left right => left.names ++ right.names
  | .application name arguments => name :: Expr.namesAll arguments
  | .leftSection operand _ | .rightSection _ operand => operand.names

/-- The names that some expressions mention. -/
def Expr.namesAll : List Expr → List String
  | [] => []
  | expr :: exprs => expr.names ++ Expr.namesAll exprs

end

mutual

/-- An expression with every name replaced. -/
def Expr.rename (σ : String → String) : Expr → Expr
  | .number value => .number value
  | .string text => .string text
  | .bool value => .bool value
  | .list items => .list (Expr.renameAll σ items)
  | .variable name => .variable (σ name)
  | .binary op left right => .binary op (left.rename σ) (right.rename σ)
  | .application name arguments => .application (σ name) (Expr.renameAll σ arguments)
  | .bareSection op => .bareSection op
  | .leftSection operand op => .leftSection (operand.rename σ) op
  | .rightSection op operand => .rightSection op (operand.rename σ)

/-- Expressions with every name replaced. -/
def Expr.renameAll (σ : String → String) : List Expr → List Expr
  | [] => []
  | expr :: exprs => expr.rename σ :: Expr.renameAll σ exprs

end

/-- Two scopes agree on a name and its replacement: both have the same value, and a name
without a value is not replaced. -/
def Scope.AgreeOn (σ : String → String) (scope renamed : Scope) (name : String) : Prop :=
  renamed.value? (σ name) = scope.value? name ∧ (scope.value? name = none → σ name = name)

section Expressions

variable {σ : String → String} {scope renamed : Scope} {apply : Application}

theorem lookup_rename (functions : renamed.isFunction = scope.isFunction) {name : String}
    (agree : Scope.AgreeOn σ scope renamed name) :
    renamed.lookup (σ name) = scope.lookup name := by
  unfold Scope.lookup
  rw [agree.1, functions]
  -- A name without a value is looked up as a function, and then it must be the same name.
  cases found : scope.value? name with
  | none => rw [agree.2 found]
  | some => rfl

theorem applyHead_rename {name : String} (agree : Scope.AgreeOn σ scope renamed name)
    (arguments : List Value) :
    renamed.applyHead apply (σ name) arguments = scope.applyHead apply name arguments := by
  unfold Scope.applyHead
  rw [agree.1]
  cases found : scope.value? name with
  | none => rw [agree.2 found]
  | some value => cases value <;> rfl

mutual

/-- A renamed expression evaluates alike in a scope that agrees on all of its names. -/
theorem evalIn_rename (functions : renamed.isFunction = scope.isFunction) :
    (expr : Expr) → (∀ name ∈ expr.names, Scope.AgreeOn σ scope renamed name) →
      (expr.rename σ).evalIn renamed apply = expr.evalIn scope apply
  | .number _, _ | .string _, _ | .bool _, _ | .bareSection _, _ => rfl
  | .variable name, agree => lookup_rename functions (agree name List.mem_cons_self)
  | .list items, agree => by
    rw [Expr.rename, Expr.evalIn, Expr.evalIn, evalAllIn_rename functions items agree]
  | .binary op left right, agree => by
    rw [Expr.names, List.forall_mem_append] at agree
    rw [Expr.rename, Expr.evalIn, Expr.evalIn, evalIn_rename functions left agree.1,
      evalIn_rename functions right agree.2]
  | .application name arguments, agree => by
    rw [Expr.names, List.forall_mem_cons] at agree
    rw [Expr.rename, Expr.evalIn, Expr.evalIn, evalAllIn_rename functions arguments agree.2]
    -- The head is looked up like a variable, after the arguments.
    simp only [applyHead_rename agree.1]
  | .leftSection operand op, agree => by
    rw [Expr.rename, Expr.evalIn, Expr.evalIn, evalIn_rename functions operand agree]
  | .rightSection op operand, agree => by
    rw [Expr.rename, Expr.evalIn, Expr.evalIn, evalIn_rename functions operand agree]

/-- Renamed expressions evaluate alike in a scope that agrees on all of their names. -/
theorem evalAllIn_rename (functions : renamed.isFunction = scope.isFunction) :
    (exprs : List Expr) → (∀ name ∈ Expr.namesAll exprs, Scope.AgreeOn σ scope renamed name) →
      Expr.evalAllIn renamed apply (Expr.renameAll σ exprs) = Expr.evalAllIn scope apply exprs
  | [], _ => rfl
  | expr :: exprs, agree => by
    rw [Expr.namesAll, List.forall_mem_append] at agree
    rw [Expr.renameAll, Expr.evalAllIn, Expr.evalAllIn, evalIn_rename functions expr agree.1,
      evalAllIn_rename functions exprs agree.2]

end

end Expressions

/-! ## Clauses -/

/-- A pattern with every name replaced. -/
def Pattern.rename (σ : String → String) : Pattern → Pattern
  | .cons head tail => .cons (σ head) (σ tail)
  | .elements names => .elements (names.map σ)
  | .variable name => .variable (σ name)
  | .emptyList => .emptyList
  | .wildcard => .wildcard
  | .literal value => .literal value

/-- A renamed pattern takes a value apart alike. -/
theorem Pattern.parts?_rename (σ : String → String) (pattern : Pattern) (value : Value) :
    (pattern.rename σ).parts? value =
      (pattern.parts? value).map fun parts => parts.map (Prod.map σ id) := by
  cases pattern with
  | elements names =>
    cases value with
    | list items =>
      -- Renaming keeps the number of names, and with it the length that is asked for.
      simp only [rename, parts?, List.length_map]
      split
      · rw [Option.map_some, List.zip_map_left]
      · rfl
    | _ => rfl
  | literal constant =>
    simp only [rename, parts?]
    split <;> rfl
  -- Whether a list is empty is all that these two ask.
  | emptyList | cons =>
    rcases value with _ | _ | _ | (_ | _) | _ <;> rfl
  | _ => rfl

theorem Pattern.partsAll?_rename (σ : String → String) (patterns : List Pattern)
    (arguments : List Value) :
    partsAll? (patterns.map (rename σ)) arguments =
      (partsAll? patterns arguments).map fun parts => parts.map (Prod.map σ id) := by
  induction patterns generalizing arguments with
  | nil => cases arguments <;> rfl
  | cons pattern patterns ih =>
    cases arguments with
    | nil => rfl
    | cons argument arguments =>
      rw [List.map_cons, partsAll?, partsAll?, parts?_rename, ih]
      -- The clause fails alike if any of its patterns does.
      cases pattern.parts? argument with
      | none => rfl
      | some first =>
        cases partsAll? patterns arguments with
        | none => rfl
        | some others => simp

namespace Clause

/-- The names that the patterns of a clause mention. -/
def patternNames (clause : Clause) : List String :=
  clause.parameters.flatMap Pattern.names

/-- The names that a clause binds. -/
def Binds (clause : Clause) (name : String) : Prop :=
  name ∈ clause.patternNames ∧ name ≠ "_"

instance (clause : Clause) (name : String) : Decidable (clause.Binds name) :=
  inferInstanceAs (Decidable (_ ∧ _))

/-- The replacement of the names that a clause binds. Other names stay. -/
def replacement (clause : Clause) (ρ : String → String) (name : String) : String :=
  if clause.Binds name then ρ name else name

/-- A clause with the names that it binds replaced in its patterns and in its body. -/
def rename (clause : Clause) (ρ : String → String) : Clause where
  parameters := clause.parameters.map (Pattern.rename (clause.replacement ρ))
  body := clause.body.rename (clause.replacement ρ)

/-- The bound names are replaced by different names, none of them `_`, and no other name of the
body is captured. Names that occur nowhere in the clause capture none. -/
structure Renaming (clause : Clause) (ρ : String → String) : Prop where
  injective : ∀ name other, clause.Binds name → clause.Binds other → ρ name = ρ other →
    name = other
  named : ∀ name, clause.Binds name → ρ name ≠ "_"
  avoids : ∀ name, clause.Binds name → ρ name ∈ clause.body.names → clause.Binds (ρ name)

variable {clause : Clause} {ρ : String → String}

theorem replacement_of_binds {name : String} (h : clause.Binds name) :
    clause.replacement ρ name = ρ name :=
  if_pos h

theorem replacement_of_not_binds {name : String} (h : ¬ clause.Binds name) :
    clause.replacement ρ name = name :=
  if_neg h

/-- A name of the body is replaced like a bound name only if it is that name. -/
theorem Renaming.replacement_eq_iff (hρ : clause.Renaming ρ) {name bound : String}
    (mentioned : name ∈ clause.body.names) (binds : clause.Binds bound) :
    clause.replacement ρ name = clause.replacement ρ bound ↔ name = bound := by
  refine ⟨fun same => ?_, fun same => by rw [same]⟩
  -- The interesting direction: equal replacements come from equal names.
  rw [replacement_of_binds binds] at same
  by_cases h : clause.Binds name
  · -- Two bound names
    rw [replacement_of_binds h] at same
    exact hρ.injective name bound h binds same
  · -- A name that is not bound would be captured.
    rw [replacement_of_not_binds h] at same
    subst same
    exact absurd (hρ.avoids bound binds mentioned) h

theorem Renaming.replacement_eq_blank_iff (hρ : clause.Renaming ρ) {name : String} :
    clause.replacement ρ name = "_" ↔ name = "_" := by
  by_cases h : clause.Binds name
  · rw [replacement_of_binds h]
    exact iff_of_false (hρ.named name h) h.2
  · rw [replacement_of_not_binds h]

/-- Binding renamed parts gives the names of the body the values they had. -/
theorem Renaming.get?_ofParts (hρ : clause.Renaming ρ) {name : String}
    (mentioned : name ∈ clause.body.names) {parts : List (String × Value)}
    (hparts : ∀ part ∈ parts, part.1 ∈ clause.patternNames) :
    (Bindings.ofParts (parts.map (Prod.map (clause.replacement ρ) id))).get?
      (clause.replacement ρ name) = (Bindings.ofParts parts).get? name := by
  -- Later parts override earlier ones, so the induction takes the last part off.
  induction parts using List.reverseRecOn with
  | nil => rfl
  | append_singleton parts part ih =>
    rw [List.forall_mem_append, List.forall_mem_singleton] at hparts
    rw [List.map_append, List.map_singleton, Bindings.ofParts_concat, Bindings.ofParts_concat,
      Bindings.get?_bind, Bindings.get?_bind, ih hparts.1]
    by_cases blank : part.1 = "_"
    · -- The name `_` is neither bound nor replaced.
      have blank' := hρ.replacement_eq_blank_iff.mpr blank
      rw [if_neg fun h => h.2 blank', if_neg fun h => h.2 blank]
    · have same := hρ.replacement_eq_iff mentioned ⟨hparts.2, blank⟩
      simp [same, hρ.replacement_eq_blank_iff]

/-- Under the bindings of a match, and under those of the renamed clause, the names of the body
have the same values. -/
theorem Renaming.agreeOn (hρ : clause.Renaming ρ) (interp : Interpreter)
    {arguments : List Value} {parts : List (String × Value)}
    (hparts : Pattern.partsAll? clause.parameters arguments = some parts) {name : String}
    (mentioned : name ∈ clause.body.names) :
    Scope.AgreeOn (clause.replacement ρ) (interp.scope (.ofParts parts))
      (interp.scope (.ofParts (parts.map (Prod.map (clause.replacement ρ) id)))) name := by
  have hnames : ∀ part ∈ parts, part.1 ∈ clause.patternNames := by
    intro part mem
    -- A part has a name of its pattern.
    rw [patternNames, ← Pattern.fst_partsAll? hparts]
    exact List.mem_map_of_mem mem
  have same := hρ.get?_ofParts mentioned hnames
  by_cases h : clause.Binds name
  · -- A bound name has a value, so nothing behind the bindings is looked at.
    have hmatch : clause.match? arguments = some (.ofParts parts) := by rw [match?, hparts]; rfl
    obtain ⟨value, hvalue⟩ := Option.isSome_iff_exists.mp (get?_isSome_of_match? hmatch h.1 h.2)
    refine ⟨?_, ?_⟩
    · show Option.or _ _ = Option.or _ _
      rw [same, hvalue]
      rfl
    · intro absent
      have present : (interp.scope (.ofParts parts)).value? name = some value := by
        show Option.or _ _ = _
        rw [hvalue]
        rfl
      rw [absent] at present
      contradiction
  · -- Any other name stays as it is.
    rw [replacement_of_not_binds h] at same
    refine ⟨?_, fun _ => replacement_of_not_binds h⟩
    rw [replacement_of_not_binds h]
    show Option.or _ _ = Option.or _ _
    rw [same]

/-- The body of a renamed clause, under the bindings of a match, evaluates alike. -/
theorem Renaming.eval_match? (hρ : clause.Renaming ρ) (interp : Interpreter)
    (apply : Application) (arguments : List Value) :
    ((clause.rename ρ).match? arguments).map
        (fun bindings => (clause.rename ρ).body.evalIn (interp.scope bindings) apply) =
      (clause.match? arguments).map
        (fun bindings => clause.body.evalIn (interp.scope bindings) apply) := by
  -- The renamed clause matches the same arguments, with renamed parts.
  rw [match?, match?, rename, Pattern.partsAll?_rename]
  cases hparts : Pattern.partsAll? clause.parameters arguments with
  | none => rfl
  | some parts =>
    refine congrArg some (evalIn_rename ?_ clause.body fun name mentioned =>
      hρ.agreeOn interp hparts mentioned)
    rfl

end Clause

/-! ## Interpreters -/

/-- What the first matching clause evaluates to, if there is one. -/
def firstResult? (interp : Interpreter) (apply : Application) (clauses : List Clause)
    (arguments : List Value) : Option Result :=
  (firstMatch? clauses arguments).map fun selected =>
    selected.1.evalIn (interp.scope selected.2) apply

theorem firstResult?_cons (interp : Interpreter) (apply : Application) (clause : Clause)
    (clauses : List Clause) (arguments : List Value) :
    firstResult? interp apply (clause :: clauses) arguments =
      ((clause.match? arguments).map fun bindings =>
        clause.body.evalIn (interp.scope bindings) apply).or
        (firstResult? interp apply clauses arguments) := by
  rw [firstResult?, firstMatch?, List.findSome?_cons]
  cases clause.match? arguments <;> rfl

/-- Renaming one of the clauses changes neither which of them matches nor what it evaluates
to. -/
theorem firstResult?_rename (interp : Interpreter) (apply : Application) {clauses : List Clause}
    {index : Nat} {clause : Clause} {ρ : String → String} (selected : clauses[index]? = some clause)
    (hρ : clause.Renaming ρ) (arguments : List Value) :
    firstResult? interp apply (clauses.set index (clause.rename ρ)) arguments =
      firstResult? interp apply clauses arguments := by
  induction clauses generalizing index with
  | nil => rfl
  | cons first others ih =>
    cases index with
    | zero =>
      -- The renamed clause comes first: it matches as before.
      obtain rfl := Option.some.inj selected
      rw [List.set_cons_zero, firstResult?_cons, firstResult?_cons, hρ.eval_match?]
    | succ index =>
      -- The first clause is the same on both sides, and the hypothesis is about the others.
      rw [List.set_cons_succ, firstResult?_cons, firstResult?_cons, ih selected]

/-- A user function yields what its first matching clause evaluates to. -/
theorem applyUser_succ (interp : Interpreter) (depth : Nat) {name : String}
    {arguments : List Value} {clauses : List Clause}
    (stored : interp.definitions.get? name = some clauses) :
    interp.applyUser (depth + 1) name arguments =
      (firstResult? interp (applyName interp.registry (interp.applyUser depth)) clauses
        arguments).getD (.error (.noClauseMatched name (arguments.map Value.text))) := by
  cases selected : firstMatch? clauses arguments with
  | none =>
    rw [interp.applyUser_unmatched stored selected, firstResult?, selected]
    rfl
  | some selection =>
    rw [interp.applyUser_matched stored selected, firstResult?, selected]
    rfl

/-- Of the interpreter, only what expressions can see matters to the result of a clause. -/
theorem firstResult?_congr {interp other : Interpreter} (same : other.scope = interp.scope)
    (apply : Application) (clauses : List Clause) (arguments : List Value) :
    firstResult? other apply clauses arguments = firstResult? interp apply clauses arguments := by
  rw [firstResult?, firstResult?, same]

/-- Replacing the clauses of a stored function changes no scope. -/
theorem scope_defineFunction {interp : Interpreter} {function : String}
    {clauses replaced : List Clause}
    (stored : interp.definitions.get? function = some clauses) :
    (interp.defineFunction function replaced).scope = interp.scope := by
  have functions : (interp.defineFunction function replaced).isFunction = interp.isFunction := by
    funext name
    show (_ || _ || Option.isSome _) = (_ || _ || Option.isSome _)
    rw [Interpreter.get?_defineFunction]
    split
    · rename_i same
      rw [same, stored]
      rfl
    · rfl
  funext frame
  -- A scope is made of variables and of the names of functions, and both are as before.
  rw [Interpreter.scope, functions]
  rfl

section Renamed

variable {interp : Interpreter} {function : String} {clauses : List Clause} {index : Nat}
  {clause : Clause} {ρ : String → String}

/-- Renaming the parameters of a stored clause changes no user function, at any depth. -/
theorem applyUser_rename (stored : interp.definitions.get? function = some clauses)
    (selected : clauses[index]? = some clause) (hρ : clause.Renaming ρ) (depth : Nat) :
    (interp.defineFunction function (clauses.set index (clause.rename ρ))).applyUser depth =
      interp.applyUser depth := by
  have definitions := interp.get?_defineFunction function (clauses.set index (clause.rename ρ))
  -- A clause may apply its own function again, but only with less depth left.
  induction depth with
  | zero =>
    funext name arguments
    by_cases same : name = function
    · subst same
      rw [Interpreter.applyUser_zero _ ((definitions name).trans (if_pos rfl)),
        Interpreter.applyUser_zero _ stored]
      rfl
    -- Another function has its clauses as before.
    · have unchanged := (definitions name).trans (if_neg same)
      cases found : interp.definitions.get? name with
      | none =>
        rw [Interpreter.applyUser_undefined _ (unchanged.trans found),
          Interpreter.applyUser_undefined _ found]
      | some others =>
        rw [Interpreter.applyUser_zero _ (unchanged.trans found),
          Interpreter.applyUser_zero _ found]
        rfl
  | succ depth ih =>
    funext name arguments
    by_cases same : name = function
    · subst same
      -- By the hypothesis, the bodies are evaluated with the same applications of names.
      rw [applyUser_succ _ depth ((definitions name).trans (if_pos rfl)),
        applyUser_succ _ depth stored, ih, Interpreter.registry_defineFunction,
        firstResult?_congr (scope_defineFunction stored),
        firstResult?_rename interp _ selected hρ]
    · have unchanged := (definitions name).trans (if_neg same)
      cases found : interp.definitions.get? name with
      | none =>
        rw [Interpreter.applyUser_undefined _ (unchanged.trans found),
          Interpreter.applyUser_undefined _ found]
      | some others =>
        rw [applyUser_succ _ depth (unchanged.trans found), applyUser_succ _ depth found, ih,
          Interpreter.registry_defineFunction, firstResult?_congr (scope_defineFunction stored)]

/-- **Parameter names do not matter.** Renaming the names that a stored clause binds changes no
answer to any request, as long as different names stay different and no other name of the body
is captured. -/
theorem answer_rename (stored : interp.definitions.get? function = some clauses)
    (selected : clauses[index]? = some clause) (hρ : clause.Renaming ρ) (request : Request) :
    (interp.defineFunction function (clauses.set index (clause.rename ρ))).answer request =
      interp.answer request := by
  rw [Interpreter.answer_eq_answerWith, Interpreter.answer_eq_answerWith,
    scope_defineFunction stored]
  show request.answerWith interp.scope
    (applyName interp.registry (Interpreter.applyUser _ interp.maxDepth)) = _
  rw [applyUser_rename stored selected hρ]

end Renamed

/-- The second clause of `each f [] = []` and `each f (h:t) = (f h) : (each f t)`. -/
def eachStep : Clause where
  parameters := [.variable "f", .cons "h" "t"]
  body := .binary .cons (.application "f" [.variable "h"])
    (.application "each" [.variable "f", .variable "t"])

/-- The clauses of `each`. -/
def eachClauses : List Clause :=
  [⟨[.variable "f", .emptyList], .list []⟩, eachStep]

/-- An interpreter that knows the function `each`. -/
def eachInterpreter : Interpreter :=
  (Interpreter.empty 100).defineFunction "each" eachClauses

/-- Other names for the parameters of `each`. -/
def eachNames (name : String) : String :=
  if name = "f" then "g" else if name = "h" then "x" else "xs"

theorem renaming_eachStep : eachStep.Renaming eachNames := by
  -- The clause binds three names, so everything about them is finite.
  have bound : ∀ name, eachStep.Binds name → name = "f" ∨ name = "h" ∨ name = "t" := by
    intro name binds
    simpa [Clause.patternNames, eachStep, Pattern.names] using binds.1
  refine ⟨?_, ?_, ?_⟩
  · intro name other binds binds'
    rcases bound name binds with rfl | rfl | rfl <;>
      rcases bound other binds' with rfl | rfl | rfl <;> decide
  · intro name binds
    rcases bound name binds with rfl | rfl | rfl <;> decide
  · intro name binds
    rcases bound name binds with rfl | rfl | rfl <;> decide

/-- With other names in its second clause, `each` answers alike. -/
theorem answer_rename_each :
    eachInterpreter.definitions.get? "each" = some eachClauses ∧
      eachClauses[1]? = some eachStep ∧ eachStep.Renaming eachNames ∧
      (eachInterpreter.defineFunction "each"
        (eachClauses.set 1 (eachStep.rename eachNames))).answer
          (.evaluate "each not [true, false]") =
        eachInterpreter.answer (.evaluate "each not [true, false]") :=
  ⟨rfl, rfl, renaming_eachStep, answer_rename rfl rfl renaming_eachStep _⟩

end Clausal
