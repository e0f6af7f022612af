import Clausal.Proofs.Evaluation.Layers
import Clausal.Proofs.Grammar.Parser
import Clausal.Proofs.Matching.Bindings

/-!
# The names in function values

A function value may be no more than a name, and the function of that name is looked for only when
the value is called. This file follows the names through evaluation: which names the function
values inside a result can have, and which names can be reported as undefined functions.

What evaluation starts from says which names are known and which are missing. A known name stands
for a function, or else for a missing one. Then every result is confined: its value has known
names only, and the function that it reports as undefined is a missing one.

Main statements:
* `confined_eval`, `confined_applyName`, `confined_applyUser`: the layers of evaluation are
  confined;
* `confined_answer`: the answer to a request is confined, if all that it is made of is.
-/

namespace Clausal

/-! ## Names inside values and expressions -/

mutual

/-- The names of the functions inside a value, in lists and in operands of sections too. -/
def Value.functionNames : Value → List String
  | .number _ | .bool _ | .string _ => []
  | .list items => Value.functionNamesAll items
  | .function callable => callable.functionNames

/-- The names of the functions inside values. -/
def Value.functionNamesAll : List Value → List String
  | [] => []
  | item :: items => item.functionNames ++ Value.functionNamesAll items

/-- The names of the functions inside a function value. -/
def Callable.functionNames : Callable → List String
  | .named name => [name]
  | .operator _ => []
  | .left operand _ | .right _ operand => operand.functionNames

end

mutual

/-- The names that an expression applies to arguments. -/
def Expr.heads : Expr → List String
  | .number _ | .string _ | .bool _ | .variable _ | .bareSection _ => []
  | .list items => Expr.headsAll items
  | .binary _ left right => left.heads ++ right.heads
  | .application name arguments => name :: Expr.headsAll arguments
  | .leftSection operand _ | .rightSection _ operand => operand.heads

/-- The names that expressions apply to arguments. -/
def Expr.headsAll : List Expr → List String
  | [] => []
  | expr :: exprs => expr.heads ++ Expr.headsAll exprs

end

/-- A value whose functions have known names only. -/
def Value.Knows (known : String → Prop) (value : Value) : Prop :=
  ∀ name ∈ value.functionNames, known name

/-- A function value in which all names are known. -/
def Callable.Knows (known : String → Prop) (callable : Callable) : Prop :=
  ∀ name ∈ callable.functionNames, known name

theorem mem_functionNamesAll_iff {name : String} {values : List Value} :
    name ∈ Value.functionNamesAll values ↔ ∃ value ∈ values, name ∈ value.functionNames := by
  induction values with
  | nil => simp [Value.functionNamesAll]
  | cons value values ih => simp [Value.functionNamesAll, ih]

theorem Value.knows_list_iff {known : String → Prop} {items : List Value} :
    (Value.list items).Knows known ↔ ∀ item ∈ items, item.Knows known := by
  simp only [Value.Knows, Value.functionNames, mem_functionNamesAll_iff]
  exact ⟨fun h item mem name inside => h name ⟨item, mem, inside⟩,
    fun h name ⟨item, mem, inside⟩ => h item mem name inside⟩

/-! ## Confined results -/

/-- A result that is confined: its value is of the given sort, and if it reports an undefined
function, that is a missing one. -/
structure Confined {α : Type} (sort : α → Prop) (missing : String → Prop)
    (result : Except Error α) : Prop where
  value : ∀ value, result = .ok value → sort value
  undefined : ∀ name, result = .error (.undefinedFunction name) → missing name

namespace Confined

variable {α β : Type} {sort : α → Prop} {sort' : β → Prop} {missing : String → Prop}

theorem ok {value : α} (h : sort value) : Confined sort missing (.ok value) where
  value _ same := Except.ok.inj same ▸ h
  undefined _ same := nomatch same

theorem error {error : Error} (h : ∀ name, error = .undefinedFunction name → missing name) :
    Confined sort missing (.error error) where
  value _ same := nomatch same
  undefined name same := h name (Except.error.inj same)

/-- A sequence is confined if its steps are. -/
theorem bind {result : Except Error α} {next : α → Except Error β}
    (h : Confined sort missing result)
    (hnext : ∀ value, sort value → Confined sort' missing (next value)) :
    Confined sort' missing (result >>= next) := by
  cases result with
  -- The next step is not taken, so the report is that of the first one.
  | error error => exact .error fun name same => h.undefined name (congrArg _ same)
  | ok value => exact hnext value (h.value value rfl)

end Confined

section Values

variable {known missing : String → Prop}

theorem confined_asNumber (value : Value) :
    Confined (fun _ => True) missing value.asNumber := by
  cases value with
  | number => exact .ok trivial
  | _ => exact .error (by simp)

theorem confined_asBool (value : Value) : Confined (fun _ => True) missing value.asBool := by
  cases value with
  | bool => exact .ok trivial
  | _ => exact .error (by simp)

theorem confined_asList {value : Value} (h : value.Knows known) :
    Confined (fun items => ∀ item ∈ items, item.Knows known) missing value.asList := by
  cases value with
  | list items => exact .ok (Value.knows_list_iff.mp h)
  | _ => exact .error (by simp)

theorem confined_asCallable {value : Value} (h : value.Knows known) :
    Confined (Callable.Knows known) missing value.asCallable := by
  cases value with
  | function callable => exact .ok h
  | _ => exact .error (by simp)

theorem knows_number (number : Float) : (Value.number number).Knows known :=
  fun _ inside => absurd inside List.not_mem_nil

theorem knows_bool (truth : Bool) : (Value.bool truth).Knows known :=
  fun _ inside => absurd inside List.not_mem_nil

theorem knows_string (text : String) : (Value.string text).Knows known :=
  fun _ inside => absurd inside List.not_mem_nil

theorem confined_arithmetic (operation : Float → Float → Float) (left right : Value) :
    Confined (Value.Knows known) missing (Operator.arithmetic operation left right) := by
  refine (confined_asNumber left).bind fun a _ => ?_
  refine (confined_asNumber right).bind fun b _ => ?_
  exact .ok (knows_number _)

theorem confined_comparison (numbers : Float → Float → Bool) (strings : String → String → Bool)
    (left right : Value) :
    Confined (Value.Knows known) missing (Operator.comparison numbers strings left right) := by
  unfold Operator.comparison
  split
  · exact .ok (knows_bool _)
  · exact .ok (knows_bool _)
  · exact .error (by simp)
  · exact .error (by simp)
  · exact .error (by simp)

theorem knows_construct {head tail : Value} (hhead : head.Knows known) (htail : tail.Knows known) :
    (Operator.construct head tail).Knows known := by
  unfold Operator.construct
  -- A tail that is a list grows by the head, and any other tail makes a list of two.
  split
  · rw [Value.knows_list_iff, List.forall_mem_cons]
    exact ⟨hhead, Value.knows_list_iff.mp htail⟩
  · rw [Value.knows_list_iff, List.forall_mem_cons, List.forall_mem_singleton]
    exact ⟨hhead, htail⟩

/-- Operators make no function values, they only put an element into a list. -/
theorem confined_operator (op : Operator) {left right : Value} (hleft : left.Knows known)
    (hright : right.Knows known) : Confined (Value.Knows known) missing (op.apply left right) := by
  cases op with
  | add | sub | mul | div => exact confined_arithmetic _ left right
  | lt | gt | le | ge => exact confined_comparison _ _ left right
  | eq | ne => exact .ok (knows_bool _)
  | cons => exact .ok (knows_construct hleft hright)

/-! ## Primitives -/

section Primitives

variable (primitive : Primitive) {arguments : List Value}

theorem confined_argument (h : ∀ argument ∈ arguments, argument.Knows known) (index : Nat) :
    Confined (Value.Knows known) missing (primitive.argument arguments index) := by
  unfold Primitive.argument
  split
  · rename_i value found
    exact .ok (h value (List.mem_of_getElem? found))
  · exact .error (by simp)

theorem confined_nonempty {value : Value} (h : value.Knows known) :
    Confined (fun parts : Value × List Value =>
      parts.1.Knows known ∧ ∀ item ∈ parts.2, item.Knows known) missing
        (primitive.nonempty value) := by
  unfold Primitive.nonempty
  split
  · rw [Value.knows_list_iff, List.forall_mem_cons] at h
    exact .ok h
  · exact .error (by simp)

theorem confined_operands (h : ∀ argument ∈ arguments, argument.Knows known) :
    Confined (fun _ => True) missing (primitive.operands arguments) := by
  refine (confined_argument primitive h 0).bind fun dividend _ => ?_
  refine (confined_asNumber dividend).bind fun a _ => ?_
  refine (confined_argument primitive h 1).bind fun divisor _ => ?_
  refine (confined_asNumber divisor).bind fun b _ => ?_
  -- Both operands are numbers by now, and only then is the divisor compared with zero.
  split
  · exact .error (by simp)
  · exact .ok trivial

theorem confined_total : (items : List Value) → (start : Float) →
    Confined (fun _ => True) missing (Primitive.total start items)
  | [], _ => .ok trivial
  | item :: items, _ => (confined_asNumber item).bind fun _ _ => confined_total items _

/-- Primitives make no function values, they only take lists apart. -/
theorem confined_primitive (h : ∀ argument ∈ arguments, argument.Knows known) :
    Confined (Value.Knows known) missing (primitive.execute arguments) := by
  have hfirst (other : Primitive) : Confined (Value.Knows known) missing
      (other.argument arguments 0) := confined_argument other h 0
  cases primitive with
  | div | mod => exact (confined_operands _ h).bind fun operands _ => .ok (knows_number _)
  | not =>
    refine (hfirst .not).bind fun value _ => ?_
    exact (confined_asBool value).bind fun truth _ => .ok (knows_bool _)
  | head =>
    refine (hfirst .head).bind fun value hvalue => ?_
    exact (confined_nonempty .head hvalue).bind fun parts hparts => .ok hparts.1
  | tail =>
    refine (hfirst .tail).bind fun value hvalue => ?_
    exact (confined_nonempty .tail hvalue).bind fun parts hparts =>
      .ok (Value.knows_list_iff.mpr hparts.2)
  | length =>
    refine (hfirst .length).bind fun value hvalue => ?_
    exact (confined_asList hvalue).bind fun items _ => .ok (knows_number _)
  | null =>
    refine (hfirst .null).bind fun value hvalue => ?_
    exact (confined_asList hvalue).bind fun items _ => .ok (knows_bool _)
  | reverse =>
    refine (hfirst .reverse).bind fun value hvalue => ?_
    refine (confined_asList hvalue).bind fun items hitems => .ok (Value.knows_list_iff.mpr ?_)
    exact fun item mem => hitems item (List.mem_reverse.mp mem)
  | sum =>
    refine (hfirst .sum).bind fun value hvalue => ?_
    refine (confined_asList hvalue).bind fun items _ => ?_
    exact (confined_total items 0).bind fun total _ => .ok (knows_number _)

end Primitives

/-! ## Tools -/

/-- A tool that makes no function values of its own, and reports no function as undefined. -/
def Tool.Plain (tool : Tool) : Prop :=
  ∀ arguments, Confined (Value.Knows fun name => name ∈ Value.functionNamesAll arguments)
    (fun _ => False) (tool.execute arguments)

/-- A registry without other tools than plain ones. -/
def Registry.Plain (registry : Registry) : Prop :=
  ∀ name tool, registry.get? name = some tool → tool.Plain

/-- The standard tools are plain. -/
theorem Registry.plain_standard : standard.Plain := by
  intro name tool found
  obtain ⟨primitive, rfl⟩ := exists_primitive_of_get?_standard found
  intro arguments
  exact confined_primitive primitive fun argument mem inner inside =>
    mem_functionNamesAll_iff.mpr ⟨argument, mem, inside⟩

/-- What a plain tool yields is confined as its arguments are. -/
theorem Tool.Plain.confined_apply {tool : Tool} (h : tool.Plain) (name : String)
    {arguments : List Value} (harguments : ∀ argument ∈ arguments, argument.Knows known) :
    Confined (Value.Knows known) missing (tool.apply name arguments) := by
  have executed : Confined (Value.Knows known) missing (tool.execute arguments) := by
    -- `h` speaks of the names in these arguments and of no missing name, so both parts weaken.
    refine ⟨fun value same inner inside => ?_, fun undefined same => ?_⟩
    · -- The name was in an argument, so it is known.
      obtain ⟨argument, mem, inside⟩ :=
        mem_functionNamesAll_iff.mp ((h arguments).value value same inner inside)
      exact harguments argument mem inner inside
    · exact ((h arguments).undefined undefined same).elim
  unfold Tool.apply
  split
  · split
    · exact executed
    · -- With another number of arguments nothing is looked at.
      exact .error (by simp)
  · exact executed

/-! ## Callbacks -/

open HigherOrder in
theorem confined_mapItems {f : Value → Result}
    (h : ∀ item : Value, item.Knows known → Confined (Value.Knows known) missing (f item)) :
    (items : List Value) → (∀ item ∈ items, item.Knows known) →
      Confined (fun results => ∀ result ∈ results, result.Knows known) missing (mapItems f items)
  | [], _ => .ok (List.forall_mem_nil _)
  | item :: items, hitems => by
    rw [List.forall_mem_cons] at hitems
    refine (h item hitems.1).bind fun result hresult => ?_
    refine (confined_mapItems h items hitems.2).bind fun results hresults => ?_
    exact .ok (List.forall_mem_cons.mpr ⟨hresult, hresults⟩)

open HigherOrder in
/-- What is kept was there before, so the verdicts do not matter. -/
theorem confined_filterItems {f : Value → Result}
    (h : ∀ item : Value, item.Knows known → Confined (Value.Knows known) missing (f item)) :
    (items : List Value) → (∀ item ∈ items, item.Knows known) →
      Confined (fun kept => ∀ item ∈ kept, item.Knows known) missing (filterItems f items)
  | [], _ => .ok (List.forall_mem_nil _)
  | item :: items, hitems => by
    rw [List.forall_mem_cons] at hitems
    refine (h item hitems.1).bind fun verdict _ => ?_
    refine (confined_filterItems h items hitems.2).bind fun kept hkept => .ok ?_
    split
    · exact List.forall_mem_cons.mpr ⟨hitems.1, hkept⟩
    · exact hkept

open HigherOrder in
theorem confined_foldItems {f : Value → Value → Result}
    (h : ∀ acc item : Value, acc.Knows known → item.Knows known →
      Confined (Value.Knows known) missing (f acc item)) :
    (items : List Value) → (∀ item ∈ items, item.Knows known) →
      ∀ start : Value, start.Knows known →
        Confined (Value.Knows known) missing (foldItems f start items)
  | [], _, _, hstart => .ok hstart
  | item :: items, hitems, start, hstart => by
    rw [List.forall_mem_cons] at hitems
    -- The accumulator is whatever the callback has answered so far, and that is known.
    exact (h start item hstart hitems.1).bind fun next hnext =>
      confined_foldItems h items hitems.2 next hnext

open HigherOrder in
/-- A builtin is confined if its callbacks are, and these have fewer arguments than the builtin. -/
theorem confined_run {call : Callable → List Value → Result} {arguments : List Value}
    (hcall : ∀ callable fewer, fewer.length < arguments.length → callable.Knows known →
      (∀ argument ∈ fewer, argument.Knows known) →
      Confined (Value.Knows known) missing (call callable fewer))
    (h : ∀ argument ∈ arguments, argument.Knows known) (builtin : HigherOrder) :
    Confined (Value.Knows known) missing
      (builtin.run arguments fun callable fewer _ => call callable fewer) := by
  by_cases harity : arguments.length = builtin.arity
  · -- The function and the list are arguments, so a callback is given names that are known.
    obtain ⟨rfl, function, list, rfl⟩ | ⟨rfl, function, list, rfl⟩ |
      ⟨rfl, function, start, list, rfl⟩ := exists_arguments harity
    · refine (confined_asCallable (h function (by simp))).bind fun callable hcallable => ?_
      refine (confined_asList (h list (by simp))).bind fun items hitems => ?_
      -- One argument for the callback, two for the builtin, as the bound of `hcall` asks.
      have hcallback (item : Value) (hitem : item.Knows known) :=
        hcall callable [item] (by simp) hcallable (List.forall_mem_singleton.mpr hitem)
      exact (confined_mapItems hcallback items hitems).bind fun results hresults =>
        .ok (Value.knows_list_iff.mpr hresults)
    · refine (confined_asCallable (h function (by simp))).bind fun callable hcallable => ?_
      refine (confined_asList (h list (by simp))).bind fun items hitems => ?_
      have hcallback (item : Value) (hitem : item.Knows known) :=
        hcall callable [item] (by simp) hcallable (List.forall_mem_singleton.mpr hitem)
      exact (confined_filterItems hcallback items hitems).bind fun kept hkept =>
        .ok (Value.knows_list_iff.mpr hkept)
    · refine (confined_asCallable (h function (by simp))).bind fun callable hcallable => ?_
      refine (confined_asList (h list (by simp))).bind fun items hitems => ?_
      -- Here a callback has two arguments, which is still fewer than the three of the builtin.
      have hcallback (acc item : Value) (hacc : acc.Knows known) (hitem : item.Knows known) :=
        hcall callable [acc, item] (by simp) hcallable
          (List.forall_mem_cons.mpr ⟨hacc, List.forall_mem_singleton.mpr hitem⟩)
      exact confined_foldItems hcallback items hitems start (h start (by simp))
  · -- Given another number of arguments, a builtin does not call back.
    rw [run_of_length_ne _ harity]
    exact .error (by simp)

/-- Calling a function value applies one of its own names, if it has one. -/
theorem confined_call {apply : Application} {arguments : List Value}
    (happly : ∀ name, known name → Confined (Value.Knows known) missing (apply name arguments))
    (h : ∀ argument ∈ arguments, argument.Knows known) {callable : Callable}
    (hcallable : callable.Knows known) :
    Confined (Value.Knows known) missing (callable.call apply arguments) := by
  cases callable with
  -- The only function value whose call can be reported as undefined.
  | named name => exact happly name (hcallable name (List.mem_singleton_self name))
  | operator op =>
    by_cases harity : arguments.length = 2
    · obtain ⟨first, second, rfl⟩ := List.length_eq_two.1 harity
      exact confined_operator op (h first (by simp)) (h second (by simp))
    · rw [Callable.call_operator_of_length_ne harity]
      exact .error (by simp)
  | left operand op =>
    by_cases harity : arguments.length = 1
    · obtain ⟨argument, rfl⟩ := List.length_eq_one_iff.1 harity
      exact confined_operator op hcallable (h argument (by simp))
    · rw [Callable.call_left_of_length_ne harity]
      exact .error (by simp)
  | right op operand =>
    by_cases harity : arguments.length = 1
    · obtain ⟨argument, rfl⟩ := List.length_eq_one_iff.1 harity
      exact confined_operator op (h argument (by simp)) hcallable
    · rw [Callable.call_right_of_length_ne harity]
      exact .error (by simp)

end Values

/-! ## Matching -/

/-- The parts of a value have the names of the value only. -/
theorem Pattern.knows_parts? {known : String → Prop} {pattern : Pattern} {value : Value}
    {parts : List (String × Value)} (h : pattern.parts? value = some parts)
    (hvalue : value.Knows known) : ∀ part ∈ parts, part.2.Knows known := by
  revert h
  fun_cases Pattern.parts? pattern value with
  | case2 head tail item items =>
    rintro ⟨⟩
    have hitems := Value.knows_list_iff.mp hvalue
    rw [List.forall_mem_cons] at hitems
    rw [List.forall_mem_cons, List.forall_mem_singleton]
    exact ⟨hitems.1, Value.knows_list_iff.mpr hitems.2⟩
  | case3 names items =>
    -- A name is paired with an element of the list, and that is all that matters here.
    rintro ⟨⟩
    exact fun part mem => Value.knows_list_iff.mp hvalue part.2 (List.of_mem_zip mem).2
  | case5 name =>
    rintro ⟨⟩
    exact List.forall_mem_singleton.mpr hvalue
  | case1 | case6 | case7 =>
    -- The empty list, the wildcard and the literals have no parts.
    rintro ⟨⟩
    exact List.forall_mem_nil _
  | _ => rintro ⟨⟩

theorem Pattern.knows_partsAll? {known : String → Prop} {patterns : List Pattern}
    {arguments : List Value} {parts : List (String × Value)}
    (h : partsAll? patterns arguments = some parts)
    (harguments : ∀ argument ∈ arguments, argument.Knows known) :
    ∀ part ∈ parts, part.2.Knows known := by
  fun_induction partsAll? patterns arguments generalizing parts with
  | case1 =>
    obtain rfl := Option.some.inj h
    exact List.forall_mem_nil _
  | case2 pattern patterns argument arguments first others hothers hfirst ih =>
    -- The parts of the first argument come before those of the others.
    obtain rfl := Option.some.inj h
    rw [List.forall_mem_cons] at harguments
    exact List.forall_mem_append.mpr ⟨knows_parts? hfirst harguments.1, ih hothers harguments.2⟩
  | _ => contradiction

/-- The clause that is selected, and what it binds. -/
theorem knows_of_firstMatch? {known : String → Prop} {clauses : List Clause}
    {arguments : List Value} {body : Expr} {bindings : Bindings}
    (h : firstMatch? clauses arguments = some (body, bindings))
    (harguments : ∀ argument ∈ arguments, argument.Knows known) :
    (∃ clause ∈ clauses, clause.body = body) ∧
      ∀ name value, bindings.get? name = some value → value.Knows known := by
  -- The clause that is found is one of those searched, and its bindings are its parts inserted in
  -- order.
  obtain ⟨clause, mem, selected⟩ := List.exists_of_findSome?_eq_some h
  obtain ⟨bound, matched, same⟩ := Option.map_eq_some_iff.mp selected
  obtain ⟨rfl, rfl⟩ := Prod.mk.inj same
  obtain ⟨parts, hparts, rfl⟩ := Option.map_eq_some_iff.mp matched
  exact ⟨⟨clause, mem, rfl⟩, fun name value found =>
    Pattern.knows_partsAll? hparts harguments _ (Bindings.mem_of_get?_ofParts found)⟩

/-! ## Expressions and names -/

/-- What an expression is evaluated with: all values in sight have known names, the functions are
known, and a known name is one of the names that can be applied. -/
structure Surroundings (scope : Scope) (apply : Application)
    (known applicable missing : String → Prop) : Prop where
  values : ∀ name value, scope.value? name = some value → value.Knows known
  functions : ∀ name, scope.isFunction name = true → known name
  names : ∀ name, known name → applicable name
  confined : ∀ name arguments, applicable name → (∀ argument ∈ arguments, argument.Knows known) →
    Confined (Value.Knows known) missing (apply name arguments)

section Expressions

variable {scope : Scope} {apply : Application} {known applicable missing : String → Prop}

/-- A name that stands alone is no application, so it is never reported as a function. -/
theorem confined_lookup (h : Surroundings scope apply known applicable missing) (name : String) :
    Confined (Value.Knows known) missing (scope.lookup name) := by
  unfold Scope.lookup
  -- A value in sight, else a function of that name, else an unknown variable.
  split
  · rename_i value found
    exact .ok (h.values name value found)
  · split
    · rename_i function
      exact .ok fun _ inside => List.mem_singleton.mp inside ▸ h.functions name function
    · exact .error (by simp)

theorem confined_applyHead (h : Surroundings scope apply known applicable missing) {name : String}
    (hname : scope.value? name = none → applicable name) {arguments : List Value}
    (harguments : ∀ argument ∈ arguments, argument.Knows known) :
    Confined (Value.Knows known) missing (scope.applyHead apply name arguments) := by
  unfold Scope.applyHead
  -- A variable may hold a function under another name, so the name that is applied in the end is
  -- one inside its value, and known.
  split
  · rename_i callable found
    refine confined_call (fun inner hinner => ?_) harguments (h.values name _ found)
    exact h.confined inner arguments (h.names inner hinner) harguments
  · exact .error (by simp)
  · rename_i absent
    exact h.confined name arguments (hname absent) harguments

mutual

/-- An expression is confined, by recursion on the expression, if the heads that are no values in
sight can be applied. -/
theorem confined_eval (h : Surroundings scope apply known applicable missing) :
    (expr : Expr) → (∀ name ∈ expr.heads, scope.value? name = none → applicable name) →
      Confined (Value.Knows known) missing (expr.evalIn scope apply)
  | .number value, _ => .ok (knows_number value)
  | .string text, _ => .ok (knows_string text)
  | .bool value, _ => .ok (knows_bool value)
  | .list items, heads =>
    (confined_evalAll h items heads).bind fun _ hvalues => .ok (Value.knows_list_iff.mpr hvalues)
  | .variable name, _ => confined_lookup h name
  | .binary op left right, heads => by
    rw [Expr.heads, List.forall_mem_append] at heads
    refine (confined_eval h left heads.1).bind fun leftValue hleft => ?_
    refine (confined_eval h right heads.2).bind fun rightValue hright => ?_
    exact confined_operator op hleft hright
  | .application name arguments, heads => by
    rw [Expr.heads, List.forall_mem_cons] at heads
    exact (confined_evalAll h arguments heads.2).bind fun values hvalues =>
      confined_applyHead h heads.1 hvalues
  | .bareSection op, _ => .ok fun _ inside => absurd inside List.not_mem_nil
  | .leftSection operand op, heads =>
    (confined_eval h operand heads).bind fun _ hvalue => .ok hvalue
  | .rightSection op operand, heads =>
    (confined_eval h operand heads).bind fun _ hvalue => .ok hvalue

theorem confined_evalAll (h : Surroundings scope apply known applicable missing) :
    (exprs : List Expr) →
      (∀ name ∈ Expr.headsAll exprs, scope.value? name = none → applicable name) →
      Confined (fun values => ∀ value ∈ values, value.Knows known) missing
        (Expr.evalAllIn scope apply exprs)
  | [], _ => .ok (List.forall_mem_nil _)
  | expr :: exprs, heads => by
    rw [Expr.headsAll, List.forall_mem_append] at heads
    refine (confined_eval h expr heads.1).bind fun value hvalue => ?_
    refine (confined_evalAll h exprs heads.2).bind fun values hvalues => ?_
    exact .ok (List.forall_mem_cons.mpr ⟨hvalue, hvalues⟩)

end

/-- With plain tools, a name is confined if user functions are, by recursion on the number of
arguments. -/
theorem confined_applyName {registry : Registry} {user : Application} (tools : registry.Plain)
    (hnames : ∀ name, known name → applicable name)
    (huser : ∀ name arguments, HigherOrder.ofName? name = none →
      registry.get? name = none → applicable name →
      (∀ argument ∈ arguments, argument.Knows known) →
      Confined (Value.Knows known) missing (user name arguments))
    (name : String) (arguments : List Value) (hname : applicable name)
    (harguments : ∀ argument ∈ arguments, argument.Knows known) :
    Confined (Value.Knows known) missing (applyName registry user name arguments) := by
  -- A callback of a builtin gets fewer arguments than the builtin, and that is the recursion here.
  induction name, arguments using applyName.induct registry with
  | case1 name arguments builtin hb ih =>
    rw [applyName_higherOrder hb]
    -- The names in a callback were in the arguments, so they can be applied.
    refine confined_run (fun callable fewer hfewer hcallable hknown => ?_) harguments builtin
    exact confined_call (fun inner hinner => ih fewer hfewer inner (hnames inner hinner) hknown)
      hknown hcallable
  | case2 name arguments hb tool ht =>
    rw [applyName_tool hb ht]
    exact (tools name tool ht).confined_apply name harguments
  | case3 name arguments hb ht =>
    rw [applyName_user hb ht]
    exact huser name arguments hb ht hname harguments

end Expressions

/-! ## User functions and requests -/

/-- Whether a name stands for a function or for a missing one. -/
def Interpreter.Accounts (interp : Interpreter) (missing : String → Prop) (name : String) : Prop :=
  interp.isFunction name = true ∨ missing name

/-- An interpreter in which every name is accounted for: its tools are plain, functions are known,
known names are functions or missing, and so are the heads in clauses, if they are no variables. -/
structure Interpreter.Closed (interp : Interpreter) (known missing : String → Prop) : Prop where
  tools : interp.registry.Plain
  functions : ∀ name, interp.isFunction name = true → known name
  names : ∀ name, known name → interp.Accounts missing name
  globals : ∀ name value, interp.globals.get? name = some value → value.Knows known
  heads : ∀ name clauses, interp.definitions.get? name = some clauses → ∀ clause ∈ clauses,
    ∀ head ∈ clause.body.heads, interp.globals.get? head = none → interp.Accounts missing head

/-- A request in which every name is accounted for. -/
def Request.Closed (interp : Interpreter) (known missing : String → Prop) : Request → Prop
  | .evaluate text => ∀ expr, Expr.parse text = .ok expr → ∀ head ∈ expr.heads,
    interp.globals.get? head = none → interp.Accounts missing head
  | .eval expr frame => (∀ name value, frame.get? name = some value → value.Knows known) ∧
    ∀ head ∈ expr.heads, (interp.scope frame).value? head = none → interp.Accounts missing head
  | .apply name arguments => interp.Accounts missing name ∧
    ∀ argument ∈ arguments, argument.Knows known
  | .call callable arguments => callable.Knows known ∧ ∀ argument ∈ arguments, argument.Knows known

section Requests

variable {interp : Interpreter} {known missing : String → Prop}

/-- A name that is accounted for and turns out to be undefined is a missing one. -/
theorem confined_undefined {name : String} (hname : interp.Accounts missing name)
    (hb : HigherOrder.ofName? name = none) (ht : interp.registry.get? name = none)
    (hd : interp.definitions.get? name = none) :
    Confined (Value.Knows known) missing (.error (.undefinedFunction name)) := by
  have hmissing : missing name := by
    refine hname.resolve_left fun function => ?_
    rw [Interpreter.isFunction_eq_false_iff.mpr ⟨hb, ht, hd⟩] at function
    contradiction
  exact .error fun reported same => Error.undefinedFunction.inj same ▸ hmissing

/-- The bindings of a clause come before the variables. -/
theorem surroundings_scope (h : interp.Closed known missing) {frame : Bindings}
    (hframe : ∀ name value, frame.get? name = some value → value.Knows known) {apply : Application}
    (happly : ∀ name arguments, interp.Accounts missing name →
      (∀ argument ∈ arguments, argument.Knows known) →
      Confined (Value.Knows known) missing (apply name arguments)) :
    Surroundings (interp.scope frame) apply known (interp.Accounts missing) missing where
  values name value found := by
    rcases Option.or_eq_some_iff.mp found with bound | ⟨-, bound⟩
    · exact hframe name value bound
    · exact h.globals name value bound
  functions := h.functions
  names := h.names
  confined := happly

theorem get?_globals_of_scope {frame : Bindings} {name : String}
    (h : (interp.scope frame).value? name = none) : interp.globals.get? name = none :=
  (Option.or_eq_none_iff.mp h).2

/-- User functions are confined, by induction on the depth that is left. -/
theorem confined_applyUser (h : interp.Closed known missing) (depth : Nat) (name : String)
    (arguments : List Value) (hb : HigherOrder.ofName? name = none)
    (ht : interp.registry.get? name = none) (hname : interp.Accounts missing name)
    (harguments : ∀ argument ∈ arguments, argument.Knows known) :
    Confined (Value.Knows known) missing (interp.applyUser depth name arguments) := by
  -- The induction hypothesis is about the applications inside the body, one level deeper.
  induction depth generalizing name arguments with
  | zero =>
    cases hd : interp.definitions.get? name with
    | none =>
      rw [interp.applyUser_undefined hd]
      exact confined_undefined hname hb ht hd
    | some clauses =>
      -- The limit is reported before any clause is tried.
      rw [interp.applyUser_zero hd]
      exact .error (by simp)
  | succ depth ih =>
    cases hd : interp.definitions.get? name with
    | none =>
      rw [interp.applyUser_undefined hd]
      exact confined_undefined hname hb ht hd
    | some clauses =>
      cases hm : firstMatch? clauses arguments with
      | none =>
        rw [interp.applyUser_unmatched hd hm]
        exact .error (by simp)
      | some selected =>
        obtain ⟨body, bindings⟩ := selected
        obtain ⟨⟨clause, stored, rfl⟩, hbindings⟩ := knows_of_firstMatch? hm harguments
        rw [interp.applyUser_matched hd hm]
        -- The body is stored, and what its names are bound to was given as an argument.
        refine confined_eval (surroundings_scope h hbindings ?_) clause.body
          fun head mem absent => ?_
        · exact confined_applyName h.tools h.names ih
        · exact h.heads name clauses hd clause stored head mem (get?_globals_of_scope absent)

theorem confined_apply (h : interp.Closed known missing) (name : String) (arguments : List Value)
    (hname : interp.Accounts missing name)
    (harguments : ∀ argument ∈ arguments, argument.Knows known) :
    Confined (Value.Knows known) missing (interp.apply name arguments) :=
  confined_applyName h.tools h.names (confined_applyUser h interp.maxDepth) name arguments hname
    harguments

/-- **What is asked with names that are accounted for is answered with known names, and no function
but a missing one is reported as undefined.** -/
theorem confined_answer (h : interp.Closed known missing) {request : Request}
    (hrequest : request.Closed interp known missing) :
    Confined (Value.Knows known) missing (interp.answer request) := by
  -- Evaluating a text is evaluating the expression in an empty frame.
  have heval (expr : Expr) (frame : Bindings)
      (hframe : ∀ name value, frame.get? name = some value → value.Knows known)
      (heads : ∀ head ∈ expr.heads, (interp.scope frame).value? head = none →
        interp.Accounts missing head) :
      Confined (Value.Knows known) missing (interp.eval expr frame) :=
    confined_eval (surroundings_scope h hframe (confined_apply h)) expr heads
  cases request with
  | evaluate text =>
    show Confined _ _ (interp.evaluate text)
    unfold Interpreter.evaluate
    cases hparse : Expr.parse text with
    | error error =>
      -- A text that is no expression is reported as such.
      obtain ⟨shown, rfl⟩ := (Grammar.decides_ofChars text.toList).2 error hparse
      exact .error (by simp)
    | ok expr =>
      exact heval expr Names.empty (by simp) fun head mem absent =>
        hrequest expr hparse head mem (get?_globals_of_scope absent)
  | eval expr frame => exact heval expr frame hrequest.1 hrequest.2
  | apply name arguments => exact confined_apply h name arguments hrequest.1 hrequest.2
  | call callable arguments =>
    refine confined_call (fun inner hinner => ?_) hrequest.2 hrequest.1
    exact confined_apply h inner arguments (h.names inner hinner) hrequest.2

end Requests

end Clausal
