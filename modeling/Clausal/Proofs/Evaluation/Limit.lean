import Clausal.Proofs.Evaluation.Adequacy
import Clausal.Proofs.Evaluation.Counted
import Clausal.Proofs.Grammar.Parser

/-!
# The recursion limit

Evaluation under a limit agrees with the derivations that know no limit, up to the height that
the limit allows. As long as no tool reports a limit of its own, no derivation ends in such a
report, so an answer is either the report of the limit or derived, and never both.

Main statements:
- `Registry.silent_standard`: no standard tool reports a limit;
- `not_reportsLimit_of_derives`: with such tools, no derivation ends in the report of a limit;
- `recursionLimit_exact`: the limit is exact, and otherwise it cannot be noticed.
-/

namespace Clausal

/-! ## Reports of a limit -/

/-- Whether a result reports that a limit was exceeded. -/
def ReportsLimit {α : Type} (result : Except Error α) : Prop :=
  ∃ limit, result = .error (.recursionLimit limit)

section ReportsLimit

variable {α β : Type}

@[simp]
theorem not_reportsLimit_ok (value : α) : ¬ ReportsLimit (.ok value : Except Error α) := by
  intro h
  rcases h with ⟨limit, h⟩
  cases h

@[simp]
theorem reportsLimit_error {error : Error} :
    ReportsLimit (.error error : Except Error α) ↔ ∃ limit, error = .recursionLimit limit := by
  simp [ReportsLimit]

/-- A sequence reports a limit only if one of its steps does. -/
theorem not_reportsLimit_bind {result : Except Error α} {next : α → Except Error β}
    (h : ¬ ReportsLimit result) (hnext : ∀ value, ¬ ReportsLimit (next value)) :
    ¬ ReportsLimit (result >>= next) := by
  cases result with
  | error error => simpa [ReportsLimit, bind, Except.bind] using h
  | ok value => exact hnext value

theorem not_reportsLimit_asNumber (value : Value) : ¬ ReportsLimit value.asNumber := by
  cases value <;> simp [Value.asNumber]

theorem not_reportsLimit_asBool (value : Value) : ¬ ReportsLimit value.asBool := by
  cases value <;> simp [Value.asBool]

theorem not_reportsLimit_asList (value : Value) : ¬ ReportsLimit value.asList := by
  cases value <;> simp [Value.asList]

theorem not_reportsLimit_asCallable (value : Value) : ¬ ReportsLimit value.asCallable := by
  cases value <;> simp [Value.asCallable]

theorem not_reportsLimit_operator (op : Operator) (left right : Value) :
    ¬ ReportsLimit (op.apply left right) := by
  -- An operation on numbers fails only if an operand is no number.
  have harith (operation : Float → Float → Float) :
      ¬ ReportsLimit (Operator.arithmetic operation left right) := by
    refine not_reportsLimit_bind (not_reportsLimit_asNumber left) fun a => ?_
    refine not_reportsLimit_bind (not_reportsLimit_asNumber right) fun b => ?_
    exact not_reportsLimit_ok _
  have hcompare (numbers : Float → Float → Bool) (strings : String → String → Bool) :
      ¬ ReportsLimit (Operator.comparison numbers strings left right) := by
    unfold Operator.comparison
    split <;> simp
  -- Equality and `:` take any values, and report nothing.
  cases op with
  | add | sub | mul | div => exact harith _
  | lt | gt | le | ge => exact hcompare _ _
  | eq | ne | cons => exact not_reportsLimit_ok _

theorem not_reportsLimit_primitive (primitive : Primitive) (arguments : List Value) :
    ¬ ReportsLimit (primitive.execute arguments) := by
  -- The parts that primitives are made of, each with its own reports, none of them a limit.
  have hargument (index : Nat) : ¬ ReportsLimit (primitive.argument arguments index) := by
    unfold Primitive.argument
    split <;> simp
  have hnonempty (value : Value) : ¬ ReportsLimit (primitive.nonempty value) := by
    unfold Primitive.nonempty
    split <;> simp
  have hoperands : ¬ ReportsLimit (primitive.operands arguments) := by
    refine not_reportsLimit_bind (hargument 0) fun dividend => ?_
    refine not_reportsLimit_bind (not_reportsLimit_asNumber dividend) fun a => ?_
    refine not_reportsLimit_bind (hargument 1) fun divisor => ?_
    refine not_reportsLimit_bind (not_reportsLimit_asNumber divisor) fun b => ?_
    split <;> simp [pure, Except.pure]
  have htotal (items : List Value) : ∀ start, ¬ ReportsLimit (Primitive.total start items) := by
    induction items with
    | nil => exact fun start => not_reportsLimit_ok start
    | cons item items ih =>
      exact fun start => not_reportsLimit_bind (not_reportsLimit_asNumber item) fun n => ih _
  cases primitive with
  | div | mod => exact not_reportsLimit_bind hoperands fun operands => not_reportsLimit_ok _
  | not =>
    refine not_reportsLimit_bind (hargument 0) fun value => ?_
    exact not_reportsLimit_bind (not_reportsLimit_asBool value) fun b => not_reportsLimit_ok _
  | head | tail =>
    refine not_reportsLimit_bind (hargument 0) fun value => ?_
    exact not_reportsLimit_bind (hnonempty value) fun parts => not_reportsLimit_ok _
  | length | null | reverse =>
    refine not_reportsLimit_bind (hargument 0) fun value => ?_
    exact not_reportsLimit_bind (not_reportsLimit_asList value) fun items => not_reportsLimit_ok _
  | sum =>
    refine not_reportsLimit_bind (hargument 0) fun value => ?_
    refine not_reportsLimit_bind (not_reportsLimit_asList value) fun items => ?_
    exact not_reportsLimit_bind (htotal items 0) fun total => not_reportsLimit_ok _

/-- A registry in which no tool reports a limit. -/
def Registry.Silent (registry : Registry) : Prop :=
  ∀ name tool, registry.get? name = some tool → ∀ arguments, ¬ ReportsLimit (tool.execute arguments)

/-- No standard tool reports a limit. -/
theorem Registry.silent_standard : standard.Silent := by
  intro name tool found
  obtain ⟨primitive, rfl⟩ := exists_primitive_of_get?_standard found
  exact not_reportsLimit_primitive primitive

/-- The wrong number of arguments is reported as such. -/
theorem Tool.not_reportsLimit_apply {tool : Tool} {arguments : List Value}
    (h : ¬ ReportsLimit (tool.execute arguments)) (name : String) :
    ¬ ReportsLimit (tool.apply name arguments) := by
  unfold Tool.apply
  split
  · split
    · exact h
    · simp
  · exact h

theorem not_reportsLimit_lookup (scope : Scope) (name : String) :
    ¬ ReportsLimit (scope.lookup name) := by
  unfold Scope.lookup
  split
  · exact not_reportsLimit_ok _
  · split <;> simp

/-- Without a tool that reports one, no derivation ends in the report of a limit. -/
theorem not_reportsLimit_of_derives {interp : Interpreter} (tools : interp.registry.Silent)
    {task : Task} {result : Result} {height : Nat} (h : Derives interp task result height) :
    ¬ ReportsLimit result := by
  -- On the last rule of the derivation: it yields a value, reports an error of its own, or passes
  -- on the result of a premise.
  induction h with
  | lookup => exact not_reportsLimit_lookup _ _
  | binary | operator | left | right => exact not_reportsLimit_operator _ _ _
  | tool _ ht => exact Tool.not_reportsLimit_apply (tools _ _ ht _) _
  | @builtinFunction _ _ _ function _ _ _ _ hf =>
    -- The error of a premise about values is the error here, only of another type.
    have hcallable := not_reportsLimit_asCallable function
    rw [hf, reportsLimit_error] at hcallable
    rwa [reportsLimit_error]
  | @builtinList _ _ _ _ list _ _ _ _ _ _ _ hl =>
    have hlist := not_reportsLimit_asList list
    rw [hl, reportsLimit_error] at hlist
    rwa [reportsLimit_error]
  | number | string | bool | bareSection | leftSection | rightSection | evalNil | evalCons
    | mapNil | mapCons | filterNil | filterCons | foldNil => exact not_reportsLimit_ok _
  | headMismatch | builtinArity | undefined | unmatched | operatorArity | leftArity
    | rightArity => simp
  -- The rest pass on the result of a premise.
  | _ => assumption

end ReportsLimit

/-! ## Requests -/

/-- The task of a request, unless the request is a text that is no expression. -/
def Request.task : Request → Except Error Task
  | .evaluate text => (Expr.parse text).map fun expr => .eval expr Names.empty
  | .eval expr frame => .ok (.eval expr frame)
  | .apply name arguments => .ok (.apply name arguments)
  | .call callable arguments => .ok (.call callable arguments)

/-- `request.Derives interp result height`: without a limit, the request has this answer, by a
derivation of this height. -/
def Request.Derives (interp : Interpreter) (request : Request) (result : Result) (height : Nat) :
    Prop :=
  match request.task with
  | .error error => result = .error error ∧ height = 0
  | .ok task => Clausal.Derives interp task result height

/-- Under a limit, a request is answered by running its task with all levels left. -/
theorem answer_withLimit (interp : Interpreter) (limit : Nat) (request : Request) :
    (interp.withLimit limit).answer request =
      request.task >>= fun task => task.run interp (interp.applyAt limit limit) := by
  rw [Interpreter.answer_eq_answerWith]
  cases request with
  | evaluate text =>
    rw [Request.answerWith, Request.task]
    cases Expr.parse text <;> rfl
  | eval | apply | call => rfl

section Exact

variable {interp : Interpreter} {limit height : Nat} {request : Request} {result : Result}

/-- A request whose derivation is within the limit has the derived answer. -/
theorem answer_of_derives (h : request.Derives interp result height) (hle : height ≤ limit) :
    (interp.withLimit limit).answer request = result := by
  rw [answer_withLimit]
  unfold Request.Derives at h
  -- A text that is no expression has no task, and its report does not depend on the limit.
  cases htask : request.task with
  | error error =>
    rw [htask] at h
    exact h.1.symm
  | ok task =>
    rw [htask] at h
    exact run_of_derives h hle

/-- An answer under a limit is the report of the limit or derived within it. -/
theorem limit_or_derives_answer (interp : Interpreter) (limit : Nat) (request : Request) :
    (interp.withLimit limit).answer request = .error (.recursionLimit limit) ∨
      ∃ height, height ≤ limit ∧
        request.Derives interp ((interp.withLimit limit).answer request) height := by
  rw [answer_withLimit]
  unfold Request.Derives
  cases request.task with
  | error error => exact .inr ⟨0, Nat.zero_le limit, rfl, rfl⟩
  | ok task => exact limitOrDerives_task task

/-- A request that is no task is a text that is no expression. -/
theorem not_reportsLimit_task (request : Request) : ¬ ReportsLimit request.task := by
  cases request with
  | evaluate text =>
    rw [Request.task]
    cases hparse : Expr.parse text with
    | error error =>
      -- The parser has one kind of error only.
      obtain ⟨shown, rfl⟩ := (Grammar.decides_ofChars text.toList).2 error hparse
      simp [Except.map]
    | ok expr => exact not_reportsLimit_ok _
  | eval | apply | call => exact not_reportsLimit_ok _

theorem not_reportsLimit_of_request_derives (tools : interp.registry.Silent)
    (h : request.Derives interp result height) : ¬ ReportsLimit result := by
  unfold Request.Derives at h
  cases htask : request.task with
  | error error =>
    rw [htask] at h
    have hreport := not_reportsLimit_task request
    rw [htask, reportsLimit_error] at hreport
    rwa [h.1, reportsLimit_error]
  | ok task =>
    rw [htask] at h
    exact not_reportsLimit_of_derives tools h

end Exact

/-- **The recursion limit is exact, and otherwise it cannot be noticed.**

Under a limit, the answers other than its report are those derived without a limit by
derivations no higher than the limit, and in every other case the limit is reported. Raising
the limit changes nothing but that report. All of this holds for each request in a sequence of
requests on one counter, whatever the answers before it were.

The tools may be any. Only a tool that reports a limit by itself, which none of the standard ones
does, could be taken for the limit of the interpreter. -/
theorem recursionLimit_exact (interp : Interpreter) :
    -- A result other than the report of a limit is that of a derivation within the limit.
    (∀ limit request result, ¬ ReportsLimit result →
      ((interp.withLimit limit).answer request = result ↔
        ∃ height, height ≤ limit ∧ request.Derives interp result height)) ∧
    -- In every other case the limit is reported.
    (interp.registry.Silent → ∀ limit request,
      (interp.withLimit limit).answer request = .error (.recursionLimit limit) ↔
        ¬ ∃ result height, height ≤ limit ∧ request.Derives interp result height) ∧
    -- A higher limit changes no result but that report.
    (∀ limit limit' request, limit ≤ limit' →
      ¬ ReportsLimit ((interp.withLimit limit).answer request) →
      (interp.withLimit limit').answer request = (interp.withLimit limit).answer request) ∧
    -- Requests on one counter do not notice each other.
    (∀ limit requests, ∃ enough, ∀ fuel, enough ≤ fuel →
      ((interp.withLimit limit).answersCounted fuel requests).run 0 =
        some (requests.map (interp.withLimit limit).answer, 0)) := by
  have hexact (limit : Nat) (request : Request) (result : Result)
      (hresult : ¬ ReportsLimit result) :
      (interp.withLimit limit).answer request = result ↔
        ∃ height, height ≤ limit ∧ request.Derives interp result height := by
    -- An answer is the report or derived, and this one is not the report.
    refine ⟨?_, ?_⟩
    · rintro rfl
      rcases limit_or_derives_answer interp limit request with h | h
      · exact absurd ⟨limit, h⟩ hresult
      · exact h
    · intro h
      rcases h with ⟨height, hle, h⟩
      exact answer_of_derives h hle
  refine ⟨hexact, ?_, ?_, ?_⟩
  · intro tools limit request
    refine ⟨?_, ?_⟩
    -- A derivation within the limit would end in the report itself, which silent tools exclude.
    · rintro hlimit ⟨result, height, hle, h⟩
      have hanswer := (answer_of_derives h hle).symm.trans hlimit
      exact not_reportsLimit_of_request_derives tools h ⟨limit, hanswer⟩
    · intro hnone
      rcases limit_or_derives_answer interp limit request with h | ⟨height, hle, h⟩
      · exact h
      · exact absurd ⟨_, height, hle, h⟩ hnone
  · intro limit limit' request hle hresult
    -- The derivation does not mention the limit, so it is within the higher one as well.
    obtain ⟨height, hheight, h⟩ := (hexact limit request _ hresult).1 rfl
    exact answer_of_derives h (Nat.le_trans hheight hle)
  · intro limit requests
    exact Filter.eventually_atTop.1 (Counted.settles_answers (interp.withLimit limit) requests)

/-- An interpreter with the function `again x = again x`, which calls itself forever. -/
def againInterpreter : Interpreter :=
  (Interpreter.empty 100).defineFunction "again"
    [⟨[.variable "x"], .application "again" [.variable "x"]⟩]

/-- However many levels are left, `again` takes them all. -/
theorem applyUser_again (limit depth : Nat) (value : Value) :
    (againInterpreter.withLimit limit).applyUser depth "again" [value] =
      .error (.recursionLimit limit) := by
  -- With one level more, the body is the same call with one level less.
  induction depth with
  | zero => rfl
  | succ depth ih => exact (applyName_user (by decide) rfl).trans ih

/-- Under every limit `again` is stopped by it, so no derivation of any height ends. -/
theorem recursionLimit_exact_again :
    againInterpreter.registry.Silent ∧
    (∀ limit, (againInterpreter.withLimit limit).answer (.apply "again" [.bool true]) =
      .error (.recursionLimit limit)) ∧
    ∀ limit, ¬ ∃ result height, height ≤ limit ∧
      (Request.apply "again" [.bool true]).Derives againInterpreter result height := by
  have stopped (limit : Nat) : (againInterpreter.withLimit limit).answer
      (.apply "again" [.bool true]) = .error (.recursionLimit limit) :=
    (applyName_user (by decide) rfl).trans (applyUser_again limit limit (.bool true))
  obtain ⟨-, reported, -⟩ := recursionLimit_exact againInterpreter
  exact ⟨Registry.silent_standard, stopped, fun limit =>
    (reported Registry.silent_standard limit _).mp (stopped limit)⟩

end Clausal
