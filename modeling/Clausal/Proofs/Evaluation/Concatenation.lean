import Clausal.Proofs.Evaluation.Counted

/-!
# Higher-order builtins on lists that are put together

The builtins that call back go through a list from the left, and every callback starts from the
same number of user functions in progress, wherever its element stands. A list that is put together
from two can therefore be gone through part by part, and the first part that fails decides.

Main statements:
* `HigherOrder.mapItems_append`, `HigherOrder.filterItems_append`, `HigherOrder.foldItems_append`:
  the three loops on a list that is put together;
* `HigherOrder.filterItems_kept`: what was kept once is kept again;
* `higherOrder_append`: what this means for the builtins, applied from any count.
-/

namespace Clausal

/-! ## Loops -/

namespace HigherOrder

/-- The results for two lists are those for the first and then those for the second. -/
theorem mapItems_append (f : Value → Result) (xs ys : List Value) :
    mapItems f (xs ++ ys) = (do
      let first ← mapItems f xs
      let second ← mapItems f ys
      return first ++ second) := by
  induction xs with
  | nil => cases h : mapItems f ys <;> exact h
  | cons x xs ih =>
    rw [List.cons_append, mapItems, mapItems, ih]
    -- An error of the first element is the result on both sides.
    cases f x with
    | error => rfl
    | ok => cases mapItems f xs <;> cases mapItems f ys <;> rfl

/-- What is kept of two lists is what is kept of the first and then what is kept of the second. -/
theorem filterItems_append (f : Value → Result) (xs ys : List Value) :
    filterItems f (xs ++ ys) = (do
      let first ← filterItems f xs
      let second ← filterItems f ys
      return first ++ second) := by
  induction xs with
  | nil => cases h : filterItems f ys <;> exact h
  | cons x xs ih =>
    rw [List.cons_append, filterItems, filterItems, ih]
    -- An error on the way is the same on both sides, whichever part it comes from.
    cases f x with
    | error => rfl
    | ok verdict =>
      cases filterItems f xs with
      | error => rfl
      | ok first =>
        cases filterItems f ys with
        | error => rfl
        | ok second =>
          show Except.ok _ = Except.ok _
          split <;> rfl

/-- Two lists are combined by combining the second with what the first has come to. -/
theorem foldItems_append (f : Value → Value → Result) (start : Value) (xs ys : List Value) :
    foldItems f start (xs ++ ys) = (do
      let next ← foldItems f start xs
      foldItems f next ys) := by
  induction xs generalizing start with
  | nil => rfl
  | cons x xs ih =>
    -- The first part may come to anything, so the induction is over every start value.
    rw [List.cons_append, foldItems, foldItems, bind_assoc]
    exact bind_congr fun next => ih next

section Success

variable {f : Value → Result} {item : Value} {items results kept : List Value}

theorem mapItems_cons_eq_ok_iff : mapItems f (item :: items) = .ok results ↔
    ∃ result others, f item = .ok result ∧ mapItems f items = .ok others ∧
      results = result :: others := by
  rw [mapItems]
  simp only [bind_eq_ok_iff, pure, Except.pure, Except.ok.injEq]
  grind

theorem filterItems_cons_eq_ok_iff : filterItems f (item :: items) = .ok kept ↔
    ∃ verdict others, f item = .ok verdict ∧ filterItems f items = .ok others ∧
      kept = if verdict.isTruthy then item :: others else others := by
  rw [filterItems]
  simp only [bind_eq_ok_iff, pure, Except.pure, Except.ok.injEq]
  grind

theorem length_of_mapItems_eq_ok (h : mapItems f items = .ok results) :
    results.length = items.length := by
  induction items generalizing results with
  | nil =>
    obtain rfl := Except.ok.inj h
    rfl
  | cons item items ih =>
    obtain ⟨result, others, -, hothers, rfl⟩ := mapItems_cons_eq_ok_iff.mp h
    rw [List.length_cons, List.length_cons, ih hothers]

/-- What is kept are elements of the list, in the same order. -/
theorem sublist_of_filterItems_eq_ok (h : filterItems f items = .ok kept) : kept.Sublist items := by
  induction items generalizing kept with
  | nil =>
    obtain rfl := Except.ok.inj h
    exact .slnil
  | cons item items ih =>
    -- The verdict decides only whether the first element is in.
    obtain ⟨verdict, others, -, hothers, rfl⟩ := filterItems_cons_eq_ok_iff.mp h
    split
    · exact (ih hothers).cons_cons item
    · exact (ih hothers).cons item

/-- What was kept once is kept again. -/
theorem filterItems_kept (h : filterItems f items = .ok kept) : filterItems f kept = .ok kept := by
  induction items generalizing kept with
  | nil =>
    obtain rfl := Except.ok.inj h
    rfl
  | cons item items ih =>
    obtain ⟨verdict, others, hverdict, hothers, rfl⟩ := filterItems_cons_eq_ok_iff.mp h
    split
    · rename_i holds
      -- The function gives the same verdict again.
      refine filterItems_cons_eq_ok_iff.mpr ⟨verdict, others, hverdict, ih hothers, ?_⟩
      rw [if_pos holds]
    · exact ih hothers

end Success

end HigherOrder

/-! ## Builtins by name -/

/-- `map f items`, names being applied as given. -/
def Application.map (apply : Application) (f : Callable) (items : List Value) : Result :=
  apply "map" [.function f, .list items]

/-- `filter f items`, names being applied as given. -/
def Application.filter (apply : Application) (f : Callable) (items : List Value) : Result :=
  apply "filter" [.function f, .list items]

/-- `fold f start items`, names being applied as given. -/
def Application.fold (apply : Application) (f : Callable) (start : Value) (items : List Value) :
    Result :=
  apply "fold" [.function f, start, .list items]

section ByName

open HigherOrder

variable {registry : Registry} {user : Application} {f : Callable} {start : Value}
  {items : List Value}

theorem map_applyName : Application.map (applyName registry user) f items =
    (mapItems (fun item => f.call (applyName registry user) [item]) items).map .list :=
  (applyName_higherOrder (show ofName? "map" = some .map by decide)).trans (run_map _ rfl rfl)

theorem filter_applyName : Application.filter (applyName registry user) f items =
    (filterItems (fun item => f.call (applyName registry user) [item]) items).map .list :=
  (applyName_higherOrder (show ofName? "filter" = some .filter by decide)).trans
    (run_filter _ rfl rfl)

theorem fold_applyName : Application.fold (applyName registry user) f start items =
    foldItems (fun acc item => f.call (applyName registry user) [acc, item]) start items :=
  (applyName_higherOrder (show ofName? "fold" = some .fold by decide)).trans (run_fold _ rfl rfl)

/-- As values, two lists are put together by looking at the first and then at the second. -/
theorem map_list_append (first second : Except Error (List Value)) :
    (do
      let xs ← first
      let ys ← second
      return xs ++ ys).map Value.list = (do
      let xs ← (← first.map Value.list).asList
      let ys ← (← second.map Value.list).asList
      return .list (xs ++ ys)) := by
  cases first <;> cases second <;> rfl

/-- A successful `map` yields a list, as long as the one that it was given. -/
theorem length_of_map_eq_ok {result : Value}
    (h : Application.map (applyName registry user) f items = .ok result) :
    ∃ results, result = .list results ∧ results.length = items.length := by
  rw [map_applyName, map_list_eq_ok_iff] at h
  obtain ⟨results, hresults, rfl⟩ := h
  exact ⟨results, rfl, length_of_mapItems_eq_ok hresults⟩

/-- A successful `filter` yields a list of elements of the one that it was given, and it changes
nothing when it is applied to that list. -/
theorem kept_of_filter_eq_ok {result : Value}
    (h : Application.filter (applyName registry user) f items = .ok result) :
    ∃ kept, result = .list kept ∧ kept.Sublist items ∧
      Application.filter (applyName registry user) f kept = .ok result := by
  rw [filter_applyName, map_list_eq_ok_iff] at h
  obtain ⟨kept, hkept, rfl⟩ := h
  refine ⟨kept, rfl, sublist_of_filterItems_eq_ok hkept, ?_⟩
  rw [filter_applyName, filterItems_kept hkept]
  rfl

end ByName

/-! ## Interpreters -/

/-- How an interpreter applies names while `count` user functions are in progress. -/
def Interpreter.applyFrom (interp : Interpreter) (count : Nat) : Application :=
  applyName interp.registry (interp.applyUser (interp.maxDepth - count))

/-- **Higher-order builtins go through a list part by part.**

Let any number of user functions be in progress, counted by one counter that all callbacks share.
On a list that is put together from two, `map` yields the results for the first and then those for
the second, `filter` keeps what it keeps of the first and then what it keeps of the second, and
`fold` goes on with the second from what the first has come to. If the first part fails, its error
is the result of the whole, and otherwise that of the second part if this one fails. A successful
`map` yields as many results as there are elements, and a successful `filter` yields some of the
elements in their order, on which `filter` succeeds and changes nothing. -/
theorem higherOrder_append (interp : Interpreter) (count : Nat) (f : Callable) (start : Value)
    (xs ys : List Value) :
    interp.applyFrom 0 = interp.apply ∧
    -- A counter that stands at this count gives these results, and is left as it was.
    (∀ name arguments, Counted.Settles (fun fuel => interp.applyCounted fuel name arguments) count
      (interp.applyFrom count name arguments)) ∧
    (interp.applyFrom count).map f (xs ++ ys) = (do
      let first ← (← (interp.applyFrom count).map f xs).asList
      let second ← (← (interp.applyFrom count).map f ys).asList
      return .list (first ++ second)) ∧
    (interp.applyFrom count).filter f (xs ++ ys) = (do
      let first ← (← (interp.applyFrom count).filter f xs).asList
      let second ← (← (interp.applyFrom count).filter f ys).asList
      return .list (first ++ second)) ∧
    (interp.applyFrom count).fold f start (xs ++ ys) = (do
      let next ← (interp.applyFrom count).fold f start xs
      (interp.applyFrom count).fold f next ys) ∧
    (∀ result, (interp.applyFrom count).map f xs = .ok result →
      ∃ results, result = .list results ∧ results.length = xs.length) ∧
    ∀ result, (interp.applyFrom count).filter f xs = .ok result →
      ∃ kept, result = .list kept ∧ kept.Sublist xs ∧
        (interp.applyFrom count).filter f kept = .ok result := by
  -- The loops are run with one application of names, so the laws of the loops carry over.
  refine ⟨rfl, fun name arguments => Counted.settles_apply rfl name arguments, ?_, ?_, ?_,
    fun result => length_of_map_eq_ok, fun result => kept_of_filter_eq_ok⟩
  · simp only [Interpreter.applyFrom, map_applyName, HigherOrder.mapItems_append, map_list_append]
  · simp only [Interpreter.applyFrom, filter_applyName, HigherOrder.filterItems_append,
      map_list_append]
  · simp only [Interpreter.applyFrom, fold_applyName, HigherOrder.foldItems_append]

/-- An interpreter that knows the function `filled [] = False` and `filled (_:_) = True`. -/
def filledInterpreter : Interpreter :=
  (Interpreter.empty 100).defineFunction "filled"
    [⟨[.emptyList], .bool false⟩, ⟨[.cons "_" "_"], .bool true⟩]

/-- Three lists, of which the second has an element. -/
def mixedLists : List Value :=
  [.list [], .list [.string "a"], .list []]

/-- With another user function in progress, the list with an element is kept, and kept again. -/
theorem higherOrder_append_filled :
    (filledInterpreter.applyFrom 1).map (.named "filled") mixedLists =
      .ok (.list [.bool false, .bool true, .bool false]) ∧
    (filledInterpreter.applyFrom 1).filter (.named "filled") mixedLists =
      .ok (.list [.list [.string "a"]]) ∧
    (∃ results, Value.list [.bool false, .bool true, .bool false] = .list results ∧
      results.length = mixedLists.length) ∧
    ∃ kept, Value.list [.list [.string "a"]] = .list kept ∧ kept.Sublist mixedLists ∧
      (filledInterpreter.applyFrom 1).filter (.named "filled") kept =
        .ok (.list [.list [.string "a"]]) := by
  -- From one function in progress, 99 of the 100 levels are left for the callbacks.
  have hcall (item : Value) : (Callable.named "filled").call
      (applyName filledInterpreter.registry (filledInterpreter.applyUser 99)) [item] =
        filledInterpreter.applyUser 99 "filled" [item] :=
    applyName_user (by decide) rfl
  have mapped : (filledInterpreter.applyFrom 1).map (.named "filled") mixedLists =
      .ok (.list [.bool false, .bool true, .bool false]) := by
    refine map_applyName.trans ?_
    simp only [show filledInterpreter.maxDepth - 1 = 99 from rfl, hcall]
    rfl
  have filtered : (filledInterpreter.applyFrom 1).filter (.named "filled") mixedLists =
      .ok (.list [.list [.string "a"]]) := by
    refine filter_applyName.trans ?_
    simp only [show filledInterpreter.maxDepth - 1 = 99 from rfl, hcall]
    rfl
  -- The two facts about successful calls are taken for the first part of `mixedLists ++ []`.
  obtain ⟨-, -, -, -, -, length, kept⟩ :=
    higherOrder_append filledInterpreter 1 (.named "filled") (.bool true) mixedLists []
  exact ⟨mapped, filtered, length _ mapped, kept _ filtered⟩

end Clausal
