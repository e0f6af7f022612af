import Clausal.Proofs.Definition
import Clausal.Proofs.Text.Blank

/-!
# The name that a line defines

A line defines the longest run of head characters that it starts with. An expression refers to it
by the identifier that is scanned there, which is a run of identifier characters. The two are the
same name exactly when the two classes agree on the name and on the character after it; on ASCII
lines they always do.

Main statements:
* `Line.eq_append_of_splitDefinition?`: a definition is cut at a character `=`;
* `Line.definedName?_classify`: the name that is defined is a run at the start of the line;
* `Line.scan_of_defined`: how the name lies to the identifier that is scanned.
-/

namespace Clausal.Line

open Text Token

/-- The name that a line defines. -/
def definedName? : Line → Option String
  | .clause name _ => some name
  | .binding name _ => some name
  | _ => none

/-- The name and the expression of a line that binds a variable. -/
def binding? : Line → Option (String × String)
  | .binding name expression => some (name, expression)
  | _ => none

theorem binding?_eq_some_iff {line : Line} {name expression : String} :
    line.binding? = some (name, expression) ↔ line = .binding name expression := by
  cases line <;> simp [binding?]

/-! ## The left-hand side -/

/-- A definition is cut at a character `=`. -/
theorem eq_append_of_splitDefinition? {line left right : List Char}
    (h : splitDefinition? line = some (left, right)) : line = left ++ '=' :: right :=
  (scan_of_splitDefinition? h).1.symm

/-- The head of a definition is a run of head characters, the first of which starts it. -/
theorem eq_cons_of_splitHead? [WordClass] {text name parameters : List Char}
    (h : splitHead? text = some (name, parameters)) :
    ∃ c rest, text = c :: rest ∧ isHeadStart c = true ∧ name = c :: rest.takeWhile isHeadChar := by
  revert h
  fun_cases splitHead? text with
  | case2 c rest start =>
    rintro ⟨⟩
    rw [Bool.and_eq_true] at start
    exact ⟨c, rest, rfl, start.1, rfl⟩
  | _ => rintro ⟨⟩

theorem definedName?_ofClause {name defined : String} {parameters body : List Char}
    (h : (ofClause name parameters body).definedName? = some defined) : defined = name := by
  revert h
  fun_cases ofClause name parameters body with
  | case4 =>
    -- The parameters and the body are read, or the line would be malformed.
    rintro ⟨⟩
    rfl
  | _ => rintro ⟨⟩

/-- A line defines the head of what stands before the cut. -/
theorem definedName?_ofTrimmed [WordClass] {marker line : List Char} {name : String}
    (h : (ofTrimmed marker line).definedName? = some name) :
    ∃ left right parameters, splitDefinition? line = some (left, right) ∧
      splitHead? (trim left) = some (name.toList, parameters) := by
  revert h
  -- Only a binding and a clause define a name, and both have passed the same checks before.
  fun_cases ofTrimmed marker line with
  | case6 _ _ left right cut _ head parameters hhead =>
    rintro ⟨⟩
    exact ⟨left, right, parameters, cut, by rw [hhead, String.toList_ofList]⟩
  | case7 _ _ left right cut _ head parameters hhead =>
    intro h
    rw [definedName?_ofClause h]
    exact ⟨left, right, parameters, cut, by rw [hhead, String.toList_ofList]⟩
  | _ => rintro ⟨⟩

/-- What follows the left-hand side without its blanks does not continue the name. -/
theorem takeWhile_isHeadChar_append [WordClass] [LawfulWordClass] {blanks : List Char}
    (h : ∀ c ∈ blanks, isBlank c = true) (rest right : List Char) :
    (rest ++ (blanks ++ '=' :: right)).takeWhile isHeadChar = rest.takeWhile isHeadChar := by
  -- Neither a blank nor the `=` continues a name.
  have stop : (blanks ++ '=' :: right).takeWhile isHeadChar = [] := by
    cases blanks with
    | nil =>
      have equals : isHeadChar '=' = false :=
        (isHeadChar_eq_isIdentifierChar (by decide)).trans (by decide)
      exact List.takeWhile_cons_of_neg (by simp [equals])
    | cons c blanks =>
      have blank := not_isHeadChar_of_isBlank (h c List.mem_cons_self)
      exact List.takeWhile_cons_of_neg (by simp [blank])
  rw [List.takeWhile_append, stop, List.append_nil]
  split
  · rename_i all
    exact ((List.takeWhile_prefix isHeadChar).eq_of_length all).symm
  · rfl

/-- **A line defines the longest run of head characters that it starts with.** -/
theorem definedName?_classify [WordClass] [LawfulWordClass] {marker line name : String}
    (h : (classify marker line).definedName? = some name) :
    ∃ c rest, trim line.toList = c :: rest ∧ isHeadStart c = true ∧
      name.toList = c :: rest.takeWhile isHeadChar := by
  obtain ⟨left, right, parameters, hcut, hhead⟩ := definedName?_ofTrimmed h
  obtain ⟨c, rest, hleft, start, hname⟩ := eq_cons_of_splitHead? hhead
  have hline := eq_append_of_splitDefinition? hcut
  -- The left-hand side starts where the trimmed line starts, so it has no blank there either.
  have unblank (d : Char) (hd : left.head? = some d) : isBlank d = false := by
    have first : (trim line.toList).head? = some d := by
      rw [hline, List.head?_append, hd, Option.some_or]
    exact not_isBlank_head?_trim first
  obtain ⟨blanks, hblanks, blank⟩ := exists_trim_append unblank
  refine ⟨c, rest ++ (blanks ++ '=' :: right), ?_, start, ?_⟩
  · rw [hline, hblanks, hleft, List.append_assoc, List.cons_append]
  · rw [hname, takeWhile_isHeadChar_append blank]

/-! ## The identifier that is scanned -/

/-- Two runs at the start of a list are the same exactly when the classes agree on the elements of
one of them and on the element after it. -/
theorem takeWhile_eq_takeWhile_iff {α : Type} {p q : α → Bool} {as : List α} :
    as.takeWhile q = as.takeWhile p ↔
      ∀ a ∈ as.take ((as.takeWhile p).length + 1), p a = q a := by
  -- Where the two classes first differ, one of the runs ends and the other goes on.
  induction as with
  | nil => simp
  | cons a as ih => cases hp : p a <;> cases hq : q a <;> simp [hp, hq, ih]

/-- **The name that a line defines and the identifier that is scanned from it are the same exactly
when they end at the same place.**

Scanning the line begins with an identifier. It is the name that is defined if and only if the
characters of that name, and the character after it, are head characters exactly when they are
identifier characters. On ASCII lines it always is, whichever lawful class of word characters is
used. -/
theorem scan_of_defined [WordClass] [LawfulWordClass] {marker line name : String}
    (h : (classify marker line).definedName? = some name) :
    ∃ identifier others,
      scan (trim line.toList) = ⟨.identifier identifier, identifier.toList, 0⟩ :: others ∧
      (identifier = name ↔
        ∀ c ∈ (trim line.toList).take (name.length + 1), isHeadChar c = isIdentifierChar c) ∧
      ((∀ c ∈ trim line.toList, isAscii c = true) → identifier = name) := by
  obtain ⟨c, rest, hline, start, hname⟩ := definedName?_classify h
  have begins := isIdentifierStart_of_isHeadStart start
  obtain ⟨others, hscan⟩ := scan_identifier begins rest
  -- A name starts with an ASCII character, on which the two classes agree.
  have agree : isHeadChar c = isIdentifierChar c :=
    isHeadChar_eq_isIdentifierChar (isAscii_of_isHeadStart start)
  have same : String.ofList (c :: rest.takeWhile isIdentifierChar) = name ↔
      ∀ c ∈ (trim line.toList).take (name.length + 1), isHeadChar c = isIdentifierChar c := by
    rw [← String.toList_inj, String.toList_ofList, hname, List.cons_inj_right,
      takeWhile_eq_takeWhile_iff, hline, ← String.length_toList, hname, List.length_cons,
      List.take_succ_cons, List.forall_mem_cons, and_iff_right agree]
  refine ⟨_, others, ?_, same, ?_⟩
  · rw [hline, hscan, String.toList_ofList]
  · intro ascii
    exact same.mpr fun d mem => isHeadChar_eq_isIdentifierChar (ascii d (List.mem_of_mem_take mem))

/-- The name `größe'` is defined by a line and scanned from it, though it is not ASCII. -/
theorem scan_of_defined_size :
    (classify "--" "  größe'(x:_) = x").definedName? = some "größe'" ∧
    ∃ others, scan (trim "  größe'(x:_) = x".toList) =
      ⟨.identifier "größe'", "größe'".toList, 0⟩ :: others := by
  have defined : (classify "--" "  größe'(x:_) = x").definedName? = some "größe'" := by
    decide +kernel
  obtain ⟨identifier, others, hscan, same, -⟩ := scan_of_defined defined
  have agree : ((trim "  größe'(x:_) = x".toList).take 7).all
      (fun c => isHeadChar c == isIdentifierChar c) = true := by decide +kernel
  obtain rfl := same.mpr fun c mem => beq_iff_eq.mp (List.all_eq_true.mp agree c mem)
  exact ⟨defined, others, hscan⟩

/-- The line `x²y = 5` defines `x`, but starts with the identifier `x²y`. -/
theorem not_forall_scan_of_defined :
    ¬ ∀ marker line name, (classify marker line).definedName? = some name →
      ∃ others, scan (trim line.toList) = ⟨.identifier name, name.toList, 0⟩ :: others := by
  intro claim
  obtain ⟨others, hscan⟩ := claim "--" "x²y = 5" "x" (by decide +kernel)
  have first : (scan (trim "x²y = 5".toList)).head?.map Token.kind = some (.identifier "x²y") := by
    decide +kernel
  rw [hscan] at first
  exact absurd (Kind.identifier.inj (Option.some.inj first)) (by decide)

end Clausal.Line
