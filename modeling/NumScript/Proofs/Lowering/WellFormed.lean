import NumScript.Proofs.Lowering.Inversion

/-!
# The programs that are lowered

Which programs have a module is said here without the lowering (`Program.WellFormed`). Most of it is
about names: of functions, of exports, of parameters and variables. The rest is about the statements
that are LIVE, that is, neither preceded by a `return` in their own list nor inside a condition that
is not live (`Live`). Only these have to make sense; but the variables of a function are declared by
all its statements, live or not (`Declares`).

The lowering visits statements in the order of the text and stops at the first thing that is wrong.
The main statement, `exists_lower_iff_wellFormed`, is that it stops exactly at programs that are not
well-formed, so the order does not matter and nothing else is ever refused.
-/

namespace NumScript

/-! ## 1. Where statements stand -/

/-- The variables that a body declares, in whatever block. The body of a function inside is no block
    of this one. -/
inductive Declares : List Statement → String → Prop
  | here {body : List Statement} {name : String} {init : Option Expression}
      (mem : .variableDeclaration name init ∈ body) : Declares body name
  | consequent {body consequent alternate : List Statement} {test : Expression} {name : String}
      (mem : .ifElse test consequent alternate ∈ body) (inner : Declares consequent name) :
      Declares body name
  | alternate {body consequent alternate : List Statement} {test : Expression} {name : String}
      (mem : .ifElse test consequent alternate ∈ body) (inner : Declares alternate name) :
      Declares body name

/-- The statements of a body that can be run: no `return` stands before them in their own list, and
    the conditions around them are live. -/
inductive Live : List Statement → Statement → Prop
  | here {before after : List Statement} {statement : Statement}
      (goesOn : ∀ value, .returnValue value ∉ before) : Live (before ++ statement :: after) statement
  | consequent {body consequent alternate : List Statement} {test : Expression}
      {statement : Statement} (choice : Live body (.ifElse test consequent alternate))
      (inner : Live consequent statement) : Live body statement
  | alternate {body consequent alternate : List Statement} {test : Expression}
      {statement : Statement} (choice : Live body (.ifElse test consequent alternate))
      (inner : Live alternate statement) : Live body statement

/-- The live statements inside a statement, if it is a condition. -/
inductive LiveInside : Statement → Statement → Prop
  | consequent {test : Expression} {consequent alternate : List Statement} {statement : Statement}
      (live : Live consequent statement) : LiveInside (.ifElse test consequent alternate) statement
  | alternate {test : Expression} {consequent alternate : List Statement} {statement : Statement}
      (live : Live alternate statement) : LiveInside (.ifElse test consequent alternate) statement

theorem mem_varNamesOf {name : String} {body : List Statement} :
    name ∈ varNamesOf body ↔ ∃ statement ∈ body, name ∈ statement.varNames := by
  induction body with
  | nil => simp [varNamesOf]
  | cons first rest ih => rw [varNamesOf, List.mem_append, ih, List.exists_mem_cons_iff]

theorem Declares.mem_varNamesOf {body : List Statement} {name : String} (h : Declares body name) :
    name ∈ varNamesOf body := by
  induction h with
  | here mem =>
    refine NumScript.mem_varNamesOf.mpr ⟨_, mem, ?_⟩
    rw [Statement.varNames]
    exact List.mem_singleton_self _
  | consequent mem inner ih =>
    refine NumScript.mem_varNamesOf.mpr ⟨_, mem, ?_⟩
    rw [Statement.varNames]
    exact List.mem_append_left _ ih
  | alternate mem inner ih =>
    refine NumScript.mem_varNamesOf.mpr ⟨_, mem, ?_⟩
    rw [Statement.varNames]
    exact List.mem_append_right _ ih

mutual
theorem declares_of_mem_varNames {name : String} {body : List Statement} :
    ∀ statement ∈ body, name ∈ statement.varNames → Declares body name
  | .variableDeclaration other init, mem, declared => by
    rw [Statement.varNames, List.mem_singleton] at declared
    subst declared
    exact .here mem
  | .ifElse test consequent alternate, mem, declared => by
    rw [Statement.varNames, List.mem_append] at declared
    rcases declared with declared | declared
    · exact .consequent mem (declares_of_mem_varNamesOf consequent (fun _ mem => mem) declared)
    · exact .alternate mem (declares_of_mem_varNamesOf alternate (fun _ mem => mem) declared)
  | .function _ _ _, _, declared | .expression _, _, declared | .returnValue _, _, declared
  | .exportFunction _ _ _, _, declared | .exportSpecifiers _, _, declared => by
    simp [Statement.varNames] at declared

theorem declares_of_mem_varNamesOf {name : String} {body : List Statement} :
    ∀ part : List Statement, (∀ statement ∈ part, statement ∈ body) → name ∈ varNamesOf part →
      Declares body name
  | [], _, declared => by simp [varNamesOf] at declared
  | first :: rest, within, declared => by
    rw [varNamesOf, List.mem_append] at declared
    obtain ⟨here, later⟩ := List.forall_mem_cons.mp within
    rcases declared with declared | declared
    · exact declares_of_mem_varNames first here declared
    · exact declares_of_mem_varNamesOf rest later declared
end

/-- **The variables that are collected are those that the body declares.** -/
theorem mem_varNamesOf_iff_declares {name : String} {body : List Statement} :
    name ∈ varNamesOf body ↔ Declares body name :=
  ⟨declares_of_mem_varNamesOf body fun _ mem => mem, Declares.mem_varNamesOf⟩

theorem not_live_nil {statement : Statement} : ¬ Live [] statement := by
  intro h
  generalize nil : ([] : List Statement) = body at h
  induction h with
  | here goesOn => simp at nil
  | consequent choice inner ih => exact ih nil
  | alternate choice inner ih => exact ih nil

theorem live_head (first : Statement) (rest : List Statement) : Live (first :: rest) first :=
  @Live.here [] rest first fun _ => List.not_mem_nil

theorem Live.cons {first statement : Statement} {rest : List Statement} (h : Live rest statement)
    (goesOn : first.isReturn = false) : Live (first :: rest) statement := by
  induction h with
  | @here before after statement earlier =>
    refine @Live.here (first :: before) after statement fun value mem => ?_
    rcases List.mem_cons.mp mem with same | mem
    · rw [← same] at goesOn
      cases goesOn
    · exact earlier value mem
  | consequent choice inner ih => exact .consequent ih inner
  | alternate choice inner ih => exact .alternate ih inner

/-- The live statements of a list: the first one, what is live inside it, and, unless it is a
    `return`, what is live in the others. -/
theorem live_cons {first statement : Statement} {rest : List Statement} :
    Live (first :: rest) statement ↔
      statement = first ∨ LiveInside first statement ∨
        (first.isReturn = false ∧ Live rest statement) := by
  constructor
  · intro h
    generalize eq : first :: rest = body at h
    induction h generalizing first rest with
    | @here before after statement goesOn =>
      cases before with
      | nil =>
        cases eq
        exact .inl rfl
      | cons earlier before =>
        cases eq
        refine .inr (.inr ⟨?_, .here fun value mem => goesOn value (List.mem_cons_of_mem _ mem)⟩)
        cases first with
        | returnValue value => exact absurd List.mem_cons_self (goesOn value)
        | _ => rfl
    | consequent choice inner ih =>
      rcases ih eq with rfl | inside | ⟨goesOn, later⟩
      · exact .inr (.inl (.consequent inner))
      · refine .inr (.inl ?_)
        cases inside with
        | consequent live => exact .consequent (.consequent live inner)
        | alternate live => exact .alternate (.consequent live inner)
      · exact .inr (.inr ⟨goesOn, .consequent later inner⟩)
    | alternate choice inner ih =>
      rcases ih eq with rfl | inside | ⟨goesOn, later⟩
      · exact .inr (.inl (.alternate inner))
      · refine .inr (.inl ?_)
        cases inside with
        | consequent live => exact .consequent (.alternate live inner)
        | alternate live => exact .alternate (.alternate live inner)
      · exact .inr (.inr ⟨goesOn, .alternate later inner⟩)
  · intro h
    have head := live_head first rest
    rcases h with rfl | inside | ⟨goesOn, later⟩
    · exact head
    · cases inside with
      | consequent live => exact .consequent head live
      | alternate live => exact .alternate head live
    · exact later.cons goesOn

/-! ## 2. What makes sense -/

section Sense

variable (functions : List FunctionDeclaration) (InScope : String → Prop)

/-- The expressions that have a number as their value, where these functions can be called and these
    variables be read. A comparison, an assignment and a fault have none. -/
inductive HasValue : Expression → Prop
  | number (value : Binary64) : HasValue (.number value)
  | var {name : String} (known : InScope name) : HasValue (.var name)
  | binary {op : BinaryOperator} {left right : Expression} (arithmetic : op.isRelational = false)
      (onLeft : HasValue left) (onRight : HasValue right) : HasValue (.binary op left right)
  | unary {op : UnaryOperator} {operand : Expression} (inner : HasValue operand) :
      HasValue (.unary op operand)
  | root {argument : Expression} (inner : HasValue argument) :
      HasValue (.call sqrtFunction [argument])
  | call {function : FunctionDeclaration} {arguments : List Expression}
      (declared : function ∈ functions) (arity : arguments.length = function.params.length)
      (each : ∀ argument ∈ arguments, HasValue argument) : HasValue (.call function.name arguments)

/-- The statements that make sense inside a function. What stands in the blocks of a condition is not
    looked at here. -/
inductive Sensible : Statement → Prop
  | result {argument : Expression} (value : HasValue functions InScope argument) :
      Sensible (.returnValue argument)
  | comparison {op : BinaryOperator} {left right : Expression}
      {consequent alternate : List Statement} (relational : op.isRelational = true)
      (onLeft : HasValue functions InScope left) (onRight : HasValue functions InScope right) :
      Sensible (.ifElse (.binary op left right) consequent alternate)
  | nonzero {test : Expression} {consequent alternate : List Statement}
      (value : HasValue functions InScope test) : Sensible (.ifElse test consequent alternate)
  | declaration (name : String) : Sensible (.variableDeclaration name none)
  | initialized {name : String} {init : Expression} (value : HasValue functions InScope init) :
      Sensible (.variableDeclaration name (some init))
  | assignment {target : String} {source : Expression} (known : InScope target)
      (value : HasValue functions InScope source) : Sensible (.expression (.assign target source))
  | fault : Sensible (.expression (.call faultFunction []))
  | evaluation {value : Expression} (hasValue : HasValue functions InScope value) :
      Sensible (.expression value)

end Sense

/-- The names that a body may read and assign. -/
def FunctionDeclaration.InScope (function : FunctionDeclaration) (name : String) : Prop :=
  name ∈ function.params ∨ Declares function.body name

/-- A function that makes sense among these functions. -/
structure FunctionDeclaration.WellFormed (functions : List FunctionDeclaration)
    (function : FunctionDeclaration) : Prop where
  /-- The parameters have different names. -/
  params : function.params.Nodup
  /-- No parameter is the result slot. -/
  freeParams : Wat.resultSlot ∉ function.params
  /-- No variable is the result slot, whether its declaration is live or not. -/
  freeVariables : ¬ Declares function.body Wat.resultSlot
  /-- What is live makes sense. -/
  live : ∀ statement, Live function.body statement →
    Sensible functions function.InScope statement

/-- The statements that may stand outside of all functions. -/
inductive Statement.AtModuleLevel : Statement → Prop
  | function (name : String) (params : List String) (body : List Statement) :
      AtModuleLevel (.function name params body)
  | exportFunction (name : String) (params : List String) (body : List Statement) :
      AtModuleLevel (.exportFunction name params body)
  | exportSpecifiers (specifiers : List ExportSpecifier) :
      AtModuleLevel (.exportSpecifiers specifiers)

/-- A program that makes sense. -/
structure Program.WellFormed (program : Program) : Prop where
  /-- Outside of functions there are only functions and exports. -/
  items : ∀ statement ∈ program.body, statement.AtModuleLevel
  /-- The functions have different names. -/
  distinct : (program.declarations.map FunctionDeclaration.name).Nodup
  /-- No function has the name of one that is always there. -/
  free : ∀ function ∈ program.declarations,
    function.name ∉ [Wat.logFunction, faultFunction, sqrtFunction]
  /-- The exports of the whole program have different names. -/
  exportNames : (program.exports.map Wat.Export.name).Nodup
  /-- What is exported by a list is a function of the program, wherever that stands. -/
  exported : ∀ specifiers, .exportSpecifiers specifiers ∈ program.body →
    ∀ specifier ∈ specifiers, ∃ function ∈ program.declarations,
      function.name = specifier.localName
  /-- Each function makes sense. -/
  functions : ∀ function ∈ program.declarations, function.WellFormed program.declarations

/-! ## 3. Bodies -/

theorem lookup_signature_iff {functions : List FunctionDeclaration} {callee : String} {arity : Nat}
    (distinct : (functions.map FunctionDeclaration.name).Nodup) :
    (functions.map FunctionDeclaration.signature).lookup callee = some arity ↔
      ∃ function ∈ functions, function.name = callee ∧ function.params.length = arity := by
  rw [lookup_signature, Option.map_eq_some_iff]
  constructor
  · intro h
    obtain ⟨function, found, arity⟩ := h
    have named := List.find?_some found
    rw [decide_eq_true_eq] at named
    exact ⟨function, List.mem_of_find?_eq_some found, named, arity⟩
  · intro h
    obtain ⟨function, mem, rfl, arity⟩ := h
    exact ⟨function, find_of_mem distinct mem, arity⟩

/-- A scope that holds these functions and these variables. -/
structure Describes (scope : Scope) (functions : List FunctionDeclaration)
    (InScope : String → Prop) : Prop where
  /-- What can be read and assigned. -/
  slots : ∀ name, name ∈ scope.slots ↔ InScope name
  /-- What can be called for its value. -/
  callees : ∀ callee arity, callee ≠ faultFunction ∧ scope.arity? callee = some arity ↔
    (callee = sqrtFunction ∧ arity = 1) ∨
      ∃ function ∈ functions, function.name = callee ∧ function.params.length = arity

/-- The scope of a function holds its names, if the names of the functions are not ambiguous. -/
theorem describes_scope {functions : List FunctionDeclaration} (function : FunctionDeclaration)
    (distinct : (functions.map FunctionDeclaration.name).Nodup)
    (free : ∀ function ∈ functions, function.name ∉ reservedFunctions) :
    Describes (function.scope (functions.map FunctionDeclaration.signature)) functions
      function.InScope where
  slots name := by
    rw [mem_scope_slots, mem_varNamesOf_iff_declares]
    rfl
  callees callee arity := by
    have apart : sqrtFunction ≠ faultFunction := by decide
    by_cases root : callee = sqrtFunction
    · subst root
      have only : ¬ ∃ function ∈ functions, function.name = sqrtFunction ∧
          function.params.length = arity := by
        intro h
        obtain ⟨other, mem, named, -⟩ := h
        refine free other mem ?_
        rw [named]
        decide
      simp only [Scope.arity?, if_true, Option.some.injEq, ne_eq, apart, not_false_eq_true, true_and,
        only, or_false]
      exact eq_comm
    · simp only [Scope.arity?, root, if_false, false_and, false_or, FunctionDeclaration.scope,
        lookup_signature_iff distinct]
      refine and_iff_right_of_imp ?_
      rintro ⟨other, mem, rfl, -⟩ fault
      refine free other mem ?_
      rw [fault]
      decide

section Bodies

variable {scope : Scope} {functions : List FunctionDeclaration} {InScope : String → Prop}

mutual
/-- **An expression is lowered just when it has a value.** -/
theorem exists_lowerExpression_iff (describes : Describes scope functions InScope) :
    ∀ value : Expression,
    (∃ code, lowerExpression scope value = .ok code) ↔ HasValue functions InScope value
  | .number value => iff_of_true ⟨_, lowerExpression_number.mpr rfl⟩ (.number value)
  | .var name => by
    simp only [lowerExpression_var, describes.slots]
    constructor
    · intro h
      obtain ⟨_, known, -⟩ := h
      exact .var known
    · intro h
      cases h with
      | var known => exact ⟨_, known, rfl⟩
  | .binary op left right => by
    have onLeft := exists_lowerExpression_iff describes left
    have onRight := exists_lowerExpression_iff describes right
    simp only [lowerExpression_binary]
    constructor
    · intro h
      obtain ⟨_, arithmetic, first, second, lowered, lowered', -⟩ := h
      exact .binary arithmetic (onLeft.mp ⟨first, lowered⟩) (onRight.mp ⟨second, lowered'⟩)
    · intro h
      cases h with
      | binary arithmetic hasLeft hasRight =>
        obtain ⟨first, lowered⟩ := onLeft.mpr hasLeft
        obtain ⟨second, lowered'⟩ := onRight.mpr hasRight
        exact ⟨_, arithmetic, first, second, lowered, lowered', rfl⟩
  | .unary op operand => by
    have inner := exists_lowerExpression_iff describes operand
    simp only [lowerExpression_unary]
    constructor
    · intro h
      obtain ⟨_, code, lowered, -⟩ := h
      exact .unary (inner.mp ⟨code, lowered⟩)
    · intro h
      cases h with
      | unary hasOperand =>
        obtain ⟨code, lowered⟩ := inner.mpr hasOperand
        exact ⟨_, code, lowered, rfl⟩
  | .call callee arguments => by
    have each := exists_lowerArguments_iff describes arguments
    simp only [lowerExpression_call]
    constructor
    · intro h
      obtain ⟨_, notFault, arity, code, lowered, -⟩ := h
      have values := each.mp ⟨code, lowered⟩
      rcases (describes.callees _ _).mp ⟨notFault, arity⟩ with ⟨rfl, one⟩ | ⟨_, mem, rfl, length⟩
      · obtain ⟨argument, rfl⟩ := List.length_eq_one_iff.mp one
        exact .root (values argument List.mem_cons_self)
      · exact .call mem length.symm values
    · intro h
      cases h with
      | @root argument hasValue =>
        obtain ⟨notFault, arity⟩ := (describes.callees sqrtFunction 1).mpr (.inl ⟨rfl, rfl⟩)
        obtain ⟨code, lowered⟩ := each.mpr (List.forall_mem_singleton.mpr hasValue)
        exact ⟨_, notFault, arity, code, lowered, rfl⟩
      | call declared arity values =>
        obtain ⟨notFault, arity⟩ :=
          (describes.callees _ _).mpr (.inr ⟨_, declared, rfl, arity.symm⟩)
        obtain ⟨code, lowered⟩ := each.mpr values
        exact ⟨_, notFault, arity, code, lowered, rfl⟩
  | .assign target value => by
    refine iff_of_false (fun h => ?_) (fun h => nomatch h)
    obtain ⟨code, lowered⟩ := h
    exact lowerExpression_assign lowered

theorem exists_lowerArguments_iff (describes : Describes scope functions InScope) :
    ∀ arguments : List Expression,
    (∃ code, lowerArguments scope arguments = .ok code) ↔
      ∀ argument ∈ arguments, HasValue functions InScope argument
  | [] => iff_of_true ⟨_, lowerArguments_nil.mpr rfl⟩ (fun _ mem => nomatch mem)
  | argument :: rest => by
    have onFirst := exists_lowerExpression_iff describes argument
    have onRest := exists_lowerArguments_iff describes rest
    simp only [lowerArguments_cons, List.forall_mem_cons]
    constructor
    · intro h
      obtain ⟨_, first, others, lowered, lowered', -⟩ := h
      exact ⟨onFirst.mp ⟨first, lowered⟩, onRest.mp ⟨others, lowered'⟩⟩
    · intro h
      obtain ⟨first, lowered⟩ := onFirst.mpr h.1
      obtain ⟨others, lowered'⟩ := onRest.mpr h.2
      exact ⟨_, first, others, lowered, lowered', rfl⟩
end

/-- A test is lowered when it is a comparison of two values, or has a value. -/
theorem exists_lowerCondition_iff (describes : Describes scope functions InScope)
    (test : Expression) (consequent alternate : List Statement) :
    (∃ code, lowerCondition scope test = .ok code) ↔
      Sensible functions InScope (.ifElse test consequent alternate) := by
  simp only [lowerCondition_eq_ok]
  constructor
  · intro h
    obtain ⟨_, ⟨op, left, right, first, second, rfl, relational, lowered, lowered', -⟩ |
      ⟨inner, lowered, -⟩⟩ := h
    · exact .comparison relational ((exists_lowerExpression_iff describes left).mp ⟨first, lowered⟩)
        ((exists_lowerExpression_iff describes right).mp ⟨second, lowered'⟩)
    · exact .nonzero ((exists_lowerExpression_iff describes test).mp ⟨inner, lowered⟩)
  · intro h
    cases h with
    | comparison relational onLeft onRight =>
      obtain ⟨first, lowered⟩ := (exists_lowerExpression_iff describes _).mpr onLeft
      obtain ⟨second, lowered'⟩ := (exists_lowerExpression_iff describes _).mpr onRight
      exact ⟨_, .inl ⟨_, _, _, first, second, rfl, relational, lowered, lowered', rfl⟩⟩
    | nonzero value =>
      obtain ⟨inner, lowered⟩ := (exists_lowerExpression_iff describes _).mpr value
      exact ⟨_, .inr ⟨inner, lowered, rfl⟩⟩

theorem exists_lowerEffect_iff (describes : Describes scope functions InScope)
    (value : Expression) :
    (∃ code, lowerEffect scope value = .ok code) ↔
      Sensible functions InScope (.expression value) := by
  simp only [lowerEffect_eq_ok, describes.slots]
  constructor
  · intro h
    obtain ⟨_, ⟨target, source, inner, rfl, lowered, known, -⟩ | ⟨rfl, -⟩ | ⟨inner, lowered, -⟩⟩ := h
    · exact .assignment known ((exists_lowerExpression_iff describes source).mp ⟨inner, lowered⟩)
    · exact .fault
    · exact .evaluation ((exists_lowerExpression_iff describes value).mp ⟨inner, lowered⟩)
  · intro h
    cases h with
    | assignment known hasValue =>
      obtain ⟨inner, lowered⟩ := (exists_lowerExpression_iff describes _).mpr hasValue
      exact ⟨_, .inl ⟨_, _, inner, rfl, lowered, known, rfl⟩⟩
    | fault => exact ⟨_, .inr (.inl ⟨rfl, rfl⟩)⟩
    | evaluation hasValue =>
      obtain ⟨inner, lowered⟩ := (exists_lowerExpression_iff describes _).mpr hasValue
      exact ⟨_, .inr (.inr ⟨inner, lowered, rfl⟩)⟩

mutual
theorem exists_lowerStatement_iff (describes : Describes scope functions InScope) :
    ∀ (statement : Statement) (tail : Bool),
    (∃ code, lowerStatement scope tail statement = .ok code) ↔
      Sensible functions InScope statement ∧
        ∀ inner, LiveInside statement inner → Sensible functions InScope inner
  | .returnValue argument, tail => by
    rw [and_iff_left fun _ inside => nomatch inside]
    simp only [lowerStatement_return]
    constructor
    · intro h
      obtain ⟨_, inner, lowered, -⟩ := h
      exact .result ((exists_lowerExpression_iff describes argument).mp ⟨inner, lowered⟩)
    · intro h
      cases h with
      | result value =>
        obtain ⟨inner, lowered⟩ := (exists_lowerExpression_iff describes _).mpr value
        exact ⟨_, inner, lowered, rfl⟩
  | .ifElse test consequent alternate, tail => by
    have onTest := exists_lowerCondition_iff describes test consequent alternate
    have onFirst := exists_lowerStatements_iff describes consequent tail
    have onSecond := exists_lowerStatements_iff describes alternate tail
    simp only [lowerStatement_ifElse]
    constructor
    · intro h
      obtain ⟨_, code, first, second, lowered, lowered', lowered'', -⟩ := h
      refine ⟨onTest.mp ⟨code, lowered⟩, fun inner inside => ?_⟩
      cases inside with
      | consequent live => exact onFirst.mp ⟨first, lowered'⟩ inner live
      | alternate live => exact onSecond.mp ⟨second, lowered''⟩ inner live
    · intro h
      obtain ⟨code, lowered⟩ := onTest.mpr h.1
      obtain ⟨first, lowered'⟩ := onFirst.mpr fun inner live => h.2 inner (.consequent live)
      obtain ⟨second, lowered''⟩ := onSecond.mpr fun inner live => h.2 inner (.alternate live)
      exact ⟨_, code, first, second, lowered, lowered', lowered'', rfl⟩
  | .variableDeclaration name none, tail =>
    iff_of_true ⟨_, lowerStatement_declaration.mpr rfl⟩
      ⟨.declaration name, fun _ inside => nomatch inside⟩
  | .variableDeclaration name (some init), tail => by
    rw [and_iff_left fun _ inside => nomatch inside]
    simp only [lowerStatement_initialized]
    constructor
    · intro h
      obtain ⟨_, inner, lowered, -⟩ := h
      exact .initialized ((exists_lowerExpression_iff describes init).mp ⟨inner, lowered⟩)
    · intro h
      cases h with
      | initialized value =>
        obtain ⟨inner, lowered⟩ := (exists_lowerExpression_iff describes _).mpr value
        exact ⟨_, inner, lowered, rfl⟩
  | .expression value, tail => by
    rw [and_iff_left fun _ inside => nomatch inside]
    simp only [lowerStatement_expression]
    exact exists_lowerEffect_iff describes value
  | .function _ _ _, tail =>
    iff_of_false (fun h => h.elim fun _ lowered => lowerStatement_function lowered)
      (fun h => nomatch h.1)
  | .exportFunction _ _ _, tail =>
    iff_of_false (fun h => h.elim fun _ lowered => lowerStatement_exportFunction lowered)
      (fun h => nomatch h.1)
  | .exportSpecifiers _, tail =>
    iff_of_false (fun h => h.elim fun _ lowered => lowerStatement_exportSpecifiers lowered)
      (fun h => nomatch h.1)

/-- **A list of statements is lowered just when all that is live in it makes sense.** -/
theorem exists_lowerStatements_iff (describes : Describes scope functions InScope) :
    ∀ (body : List Statement) (tail : Bool),
    (∃ code, lowerStatements scope tail body = .ok code) ↔
      ∀ statement, Live body statement → Sensible functions InScope statement
  | [], tail => iff_of_true ⟨_, lowerStatements_nil.mpr rfl⟩ fun _ live => absurd live not_live_nil
  | first :: rest, tail => by
    simp only [live_cons, or_imp, forall_and, forall_eq]
    cases ends : first.isReturn with
    | true =>
      have onFirst := exists_lowerStatement_iff describes first tail
      obtain ⟨argument, rfl⟩ := exists_of_isReturn ends
      simp only [lowerStatements_return, onFirst, Bool.true_eq_false, false_and, false_implies,
        implies_true, and_true]
    | false =>
      have onFirst := exists_lowerStatement_iff describes first (tail && rest.isEmpty)
      have onRest := exists_lowerStatements_iff describes rest tail
      simp only [lowerStatements_cons ends, true_and]
      rw [← and_assoc, ← onFirst, ← onRest]
      constructor
      · intro h
        obtain ⟨_, code, others, lowered, lowered', -⟩ := h
        exact ⟨⟨code, lowered⟩, others, lowered'⟩
      · intro h
        obtain ⟨⟨code, lowered⟩, others, lowered'⟩ := h
        exact ⟨_, code, others, lowered, lowered', rfl⟩
end

end Bodies

/-! ## 4. Programs -/

/-- A function is lowered just when it makes sense. -/
theorem exists_lowerFunction_iff {functions : List FunctionDeclaration}
    (distinct : (functions.map FunctionDeclaration.name).Nodup)
    (free : ∀ function ∈ functions, function.name ∉ reservedFunctions)
    (function : FunctionDeclaration) :
    (∃ lowered, lowerFunction (functions.map FunctionDeclaration.signature) function = .ok lowered) ↔
      function.WellFormed functions := by
  have body := exists_lowerStatements_iff (describes_scope function distinct free) function.body true
  simp only [lowerFunction_eq_ok, mem_varNamesOf_iff_declares]
  constructor
  · intro h
    obtain ⟨_, freeParams, params, freeVariables, code, lowered, -⟩ := h
    exact ⟨params, freeParams, freeVariables, body.mp ⟨code, lowered⟩⟩
  · intro h
    obtain ⟨code, lowered⟩ := body.mpr h.live
    exact ⟨_, h.freeParams, h.params, h.freeVariables, code, lowered, rfl⟩

theorem Exportable.of_append {signatures : List (String × Nat)} {taken : List String}
    {first second : List Wat.Export} (h : Exportable signatures taken (first ++ second)) :
    Exportable signatures taken first ∧
      Exportable signatures (first.map Wat.Export.name ++ taken) second := by
  obtain ⟨distinct, fresh, known⟩ := h
  rw [List.map_append, List.nodup_append] at distinct
  rw [List.forall_mem_append] at fresh known
  refine ⟨⟨distinct.1, fresh.1, known.1⟩, distinct.2.1, fun item mem taken => ?_, known.2⟩
  rcases List.mem_append.mp taken with taken | taken
  · exact distinct.2.2 _ taken _ (List.mem_map_of_mem mem) rfl
  · exact fresh.2 item mem taken

theorem lowerSpecifiers_of_exportable {signatures : List (String × Nat)} :
    ∀ {specifiers : List ExportSpecifier} {taken : List String},
    Exportable signatures taken (specifiers.map ExportSpecifier.toExport) →
      lowerSpecifiers signatures taken specifiers = .ok (specifiers.map ExportSpecifier.toExport)
  | [], taken, _ => rfl
  | specifier :: rest, taken, h => by
    rw [List.map_cons, ← List.singleton_append] at h
    obtain ⟨single, others⟩ := h.of_append
    have known := single.known _ (List.mem_singleton_self _)
    have fresh := single.fresh _ (List.mem_singleton_self _)
    rw [lowerSpecifiers]
    split
    · rename_i unknown
      rw [Option.isNone_iff_eq_none] at unknown
      rw [ExportSpecifier.toExport, unknown] at known
      cases known
    · simp only [except_bind_eq_ok, except_pure_eq_ok, lowerExport_eq_ok]
      exact ⟨_, ⟨fresh, rfl⟩, _, lowerSpecifiers_of_exportable others, rfl⟩

section Items

variable {signatures : List (String × Nat)}

theorem atModuleLevel_of_lowerItem {taken : List String} {statement : Statement}
    {items : ModuleItems} (h : lowerItem signatures taken statement = .ok items) :
    statement.AtModuleLevel := by
  cases statement with
  | function name params body => exact .function name params body
  | exportFunction name params body => exact .exportFunction name params body
  | exportSpecifiers specifiers => exact .exportSpecifiers specifiers
  | _ => cases h

theorem atModuleLevel_of_lowerItems : ∀ {body : List Statement} {taken : List String}
    {items : ModuleItems}, lowerItems signatures taken body = .ok items →
    ∀ statement ∈ body, statement.AtModuleLevel
  | [], _, _, _ => fun _ mem => nomatch mem
  | first :: rest, taken, items, h => by
    simp only [lowerItems, except_bind_eq_ok, except_pure_eq_ok] at h
    obtain ⟨_, onFirst, _, onRest, -⟩ := h
    exact List.forall_mem_cons.mpr
      ⟨atModuleLevel_of_lowerItem onFirst, atModuleLevel_of_lowerItems onRest⟩

/-- A statement outside of all functions is lowered when its function is and its names are free. -/
theorem exists_lowerItem {taken : List String} {statement : Statement}
    (item : statement.AtModuleLevel)
    (functions : ∀ function, statement.declared? = some function →
      ∃ lowered, lowerFunction signatures function = .ok lowered)
    (exportable : Exportable signatures taken statement.exports) :
    ∃ items, lowerItem signatures taken statement = .ok items ∧
      items.exports = statement.exports := by
  cases item with
  | function name params body =>
    obtain ⟨lowered, eq⟩ := functions _ rfl
    simp only [lowerItem, except_bind_eq_ok, except_pure_eq_ok]
    exact ⟨_, ⟨lowered, eq, rfl⟩, rfl⟩
  | exportFunction name params body =>
    obtain ⟨lowered, eq⟩ := functions _ rfl
    have fresh : name ∉ taken := exportable.fresh ⟨name, name⟩ List.mem_cons_self
    simp only [lowerItem, except_bind_eq_ok, except_pure_eq_ok, lowerExport_eq_ok]
    exact ⟨_, ⟨_, ⟨fresh, rfl⟩, lowered, eq, rfl⟩, rfl⟩
  | exportSpecifiers specifiers =>
    simp only [lowerItem, except_bind_eq_ok, except_pure_eq_ok]
    exact ⟨_, ⟨_, lowerSpecifiers_of_exportable exportable, rfl⟩, rfl⟩

theorem exists_lowerItems : ∀ {body : List Statement} {taken : List String},
    (∀ statement ∈ body, statement.AtModuleLevel) →
    (∀ function ∈ body.filterMap Statement.declared?,
      ∃ lowered, lowerFunction signatures function = .ok lowered) →
    Exportable signatures taken (body.flatMap Statement.exports) →
    ∃ items, lowerItems signatures taken body = .ok items
  | [], _, _, _, _ => ⟨_, rfl⟩
  | first :: rest, taken, items, functions, exportable => by
    rw [List.flatMap_cons] at exportable
    obtain ⟨here, later⟩ := exportable.of_append
    obtain ⟨item, others⟩ := List.forall_mem_cons.mp items
    obtain ⟨found, lowered, exports⟩ := exists_lowerItem item (fun function declared =>
      functions function (List.mem_filterMap.mpr ⟨first, List.mem_cons_self, declared⟩)) here
    rw [← exports] at later
    obtain ⟨more, lowered'⟩ := exists_lowerItems others (fun function mem => by
      obtain ⟨statement, mem, declared⟩ := List.mem_filterMap.mp mem
      exact functions function
        (List.mem_filterMap.mpr ⟨statement, List.mem_cons_of_mem _ mem, declared⟩)) later
    simp only [lowerItems, except_bind_eq_ok, except_pure_eq_ok]
    exact ⟨_, found, lowered, more, lowered', rfl⟩

end Items

/-- Whatever a well-formed program exports is one of its functions. -/
theorem Program.WellFormed.exists_exported {program : Program} (h : program.WellFormed)
    {item : Wat.Export} (mem : item ∈ program.exports) :
    ∃ function ∈ program.declarations, function.name = item.function := by
  obtain ⟨statement, inBody, mem⟩ := List.mem_flatMap.mp mem
  cases statement with
  | exportFunction name params body =>
    rw [Statement.exports, List.mem_singleton] at mem
    subst mem
    exact ⟨_, List.mem_filterMap.mpr ⟨_, inBody, rfl⟩, rfl⟩
  | exportSpecifiers specifiers =>
    obtain ⟨specifier, listed, rfl⟩ := List.mem_map.mp mem
    exact h.exported specifiers inBody specifier listed
  | _ => cases mem

theorem wellFormed_of_lower {width : Wat.FloatWidth} {program : Program} {module : Wat.Module}
    (h : lower width program = .ok module) : program.WellFormed := by
  obtain ⟨distinct, free, functions, exports, exportable⟩ := lower_eq_ok h
  rw [exports] at exportable
  refine ⟨?_, distinct, free, exportable.distinct, ?_, ?_⟩
  · rw [lower_eq] at h
    simp only [lowerProgram, except_bind_eq_ok] at h
    obtain ⟨_, -, _, lowered, -⟩ := h
    exact atModuleLevel_of_lowerItems lowered
  · intro specifiers inBody specifier mem
    have exported : specifier.toExport ∈ program.exports :=
      List.mem_flatMap.mpr ⟨_, inBody, List.mem_map_of_mem mem⟩
    obtain ⟨arity, known⟩ := Option.isSome_iff_exists.mp (exportable.known _ exported)
    obtain ⟨function, declared, named, -⟩ := (lookup_signature_iff distinct).mp known
    exact ⟨function, declared, named⟩
  · intro function declared
    obtain ⟨lowered, -, eq⟩ := find_lowered functions (find_of_mem distinct declared)
    exact (exists_lowerFunction_iff distinct free function).mp ⟨lowered, eq⟩

theorem exists_lower_of_wellFormed (width : Wat.FloatWidth) {program : Program}
    (h : program.WellFormed) : ∃ module, lower width program = .ok module := by
  have collected := signatures_eq_ok.mpr
    ⟨rfl, h.distinct, fun function mem => ⟨h.free function mem, List.not_mem_nil⟩⟩
  have exportable : Exportable (program.declarations.map FunctionDeclaration.signature) []
      program.exports := by
    refine ⟨h.exportNames, fun _ _ => List.not_mem_nil, fun item mem => ?_⟩
    obtain ⟨function, declared, named⟩ := h.exists_exported mem
    rw [(lookup_signature_iff h.distinct).mpr ⟨function, declared, named, rfl⟩]
    rfl
  obtain ⟨items, lowered⟩ := exists_lowerItems h.items (fun function declared =>
    (exists_lowerFunction_iff h.distinct h.free function).mpr (h.functions function declared))
    exportable
  simp only [lower_eq, lowerProgram, except_bind_eq_ok, except_pure_eq_ok]
  exact ⟨_, _, collected, items, lowered, rfl⟩

/-- **A program is lowered exactly when it is well-formed**, for both widths. -/
theorem exists_lower_iff_wellFormed (width : Wat.FloatWidth) (program : Program) :
    (∃ module, lower width program = .ok module) ↔ program.WellFormed :=
  ⟨fun h => h.elim fun _ lowered => wellFormed_of_lower lowered,
    exists_lower_of_wellFormed width⟩

/-- After a `return` nothing has to make sense, but a variable that is declared there is declared. -/
example : (lower .f64 ⟨[.function "f" [] [.expression (.assign "x" (.number .one)),
    .returnValue (.var "x"), .variableDeclaration "x" (some (.call "nowhere" []))]]⟩).isOk = true := by
  rw [lower_eq]
  rfl

end NumScript
