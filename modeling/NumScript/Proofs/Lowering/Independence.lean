import Mathlib.Data.Option.Basic
import NumScript.Proofs.Lowering.Validity
import NumScript.Proofs.Lowering.WellFormed

/-!
# Functions are lowered one by one

One emitter goes through all functions of a program, and when it comes to a function it still has the
scope of the one before, whatever is in the buffer, and whether something branched there. None of this
is seen in the function: of the state that the emitter is in, only which functions can be called, and
with how many arguments, makes a difference (`Emitter.added_congr`). So a function becomes the same
wherever it stands and whatever the bodies of the others are (`lowerFunction_congr`), and what a
statement adds to the module depends on nothing but the statement (`lower_eq_flatMap`).

The main statement, `lower_independent`, draws the consequences: nothing of the emitter's state leaks
into a function, the functions and the exports of a module are those of the program in their order, two
programs with the same signatures agree on the functions they share, and statements in another order
give the same functions and exports in that order.
-/

namespace NumScript

/-! ## 1. What a body sees of the program -/

/-- Two scopes with the same variables, in which the same calls can be made. -/
structure Scope.Agrees (first second : Scope) : Prop where
  /-- The same names can be read and assigned. -/
  slots : first.slots = second.slots
  /-- The same functions can be called, with as many arguments. -/
  callees : ∀ callee, first.signatures.lookup callee = second.signatures.lookup callee

section Agreement

variable {first second : Scope}

theorem Scope.Agrees.resolve (agrees : first.Agrees second) (name : String) :
    first.resolve name = second.resolve name := by
  simp only [Scope.resolve, agrees.slots]

theorem Scope.Agrees.checkCall (agrees : first.Agrees second) (callee : String) (given : Nat) :
    first.checkCall callee given = second.checkCall callee given := by
  simp only [Scope.checkCall, Scope.arity?, agrees.callees]

mutual
theorem lowerExpression_congr (agrees : first.Agrees second) :
    ∀ value : Expression, lowerExpression first value = lowerExpression second value
  | .number value => by rw [lowerExpression, lowerExpression]
  | .var name => by rw [lowerExpression, lowerExpression, agrees.resolve]
  | .binary op left right => by
    rw [lowerExpression, lowerExpression, lowerExpression_congr agrees left,
      lowerExpression_congr agrees right]
  | .unary op operand => by
    rw [lowerExpression, lowerExpression, lowerExpression_congr agrees operand]
  | .call callee arguments => by
    rw [lowerExpression, lowerExpression, agrees.checkCall,
      lowerArguments_congr agrees arguments]
  | .assign target value => by rw [lowerExpression, lowerExpression]

theorem lowerArguments_congr (agrees : first.Agrees second) :
    ∀ arguments : List Expression, lowerArguments first arguments = lowerArguments second arguments
  | [] => by rw [lowerArguments, lowerArguments]
  | argument :: rest => by
    rw [lowerArguments, lowerArguments, lowerExpression_congr agrees argument,
      lowerArguments_congr agrees rest]
end

theorem lowerCondition_congr (agrees : first.Agrees second) (test : Expression) :
    lowerCondition first test = lowerCondition second test := by
  simp only [lowerCondition, lowerExpression_congr agrees]

theorem lowerEffect_congr (agrees : first.Agrees second) (value : Expression) :
    lowerEffect first value = lowerEffect second value := by
  simp only [lowerEffect, lowerExpression_congr agrees, agrees.resolve]

mutual
theorem lowerStatement_congr (agrees : first.Agrees second) :
    ∀ (statement : Statement) (tail : Bool),
    lowerStatement first tail statement = lowerStatement second tail statement
  | .returnValue argument, tail => by
    rw [lowerStatement, lowerStatement, lowerExpression_congr agrees]
  | .ifElse test consequent alternate, tail => by
    rw [lowerStatement, lowerStatement, lowerCondition_congr agrees,
      lowerStatements_congr agrees consequent, lowerStatements_congr agrees alternate]
  | .variableDeclaration name none, tail => by rw [lowerStatement, lowerStatement]
  | .variableDeclaration name (some init), tail => by
    rw [lowerStatement, lowerStatement, lowerExpression_congr agrees]
  | .expression value, tail => by rw [lowerStatement, lowerStatement, lowerEffect_congr agrees]
  | .function _ _ _, tail | .exportFunction _ _ _, tail | .exportSpecifiers _, tail => by
    rw [lowerStatement, lowerStatement]

/-- A body is lowered alike, errors included, in scopes that agree. -/
theorem lowerStatements_congr (agrees : first.Agrees second) :
    ∀ (body : List Statement) (tail : Bool),
    lowerStatements first tail body = lowerStatements second tail body
  | [], tail => by rw [lowerStatements, lowerStatements]
  | statement :: rest, tail => by
    simp only [lowerStatements, lowerStatement_congr agrees statement,
      lowerStatements_congr agrees rest]
end

end Agreement

/-- **A function is lowered alike among all functions that look the same to a caller.** -/
theorem lowerFunction_congr {first second : List (String × Nat)}
    (callees : ∀ callee, first.lookup callee = second.lookup callee)
    (function : FunctionDeclaration) :
    lowerFunction first function = lowerFunction second function := by
  have body := @lowerStatements_congr ⟨first, function.params ++ function.locals⟩
    ⟨second, function.params ++ function.locals⟩ ⟨rfl, callees⟩ function.body true
  rw [FunctionDeclaration.locals] at body
  simp only [lowerFunction, body]

/-- Two programs that declare functions with the same names and numbers of parameters. -/
def Program.SameSignatures (first second : Program) : Prop :=
  ∀ signature, signature ∈ first.declarations.map FunctionDeclaration.signature ↔
    signature ∈ second.declarations.map FunctionDeclaration.signature

theorem mem_signatures_iff {functions : List FunctionDeclaration} {name : String} {arity : Nat} :
    (name, arity) ∈ functions.map FunctionDeclaration.signature ↔
      ∃ function ∈ functions, function.name = name ∧ function.params.length = arity := by
  simp [FunctionDeclaration.signature]

/-- What can be called is the same in programs with the same signatures, if the names of their
    functions are not ambiguous. -/
theorem Program.SameSignatures.lookup {first second : Program} (same : first.SameSignatures second)
    (distinct : (first.declarations.map FunctionDeclaration.name).Nodup)
    (distinct' : (second.declarations.map FunctionDeclaration.name).Nodup) (callee : String) :
    (first.declarations.map FunctionDeclaration.signature).lookup callee =
      (second.declarations.map FunctionDeclaration.signature).lookup callee := by
  refine Option.ext fun arity => ?_
  rw [lookup_signature_iff distinct, lookup_signature_iff distinct', ← mem_signatures_iff,
    ← mem_signatures_iff]
  exact same (callee, arity)

/-! ## 2. What a statement adds to the module -/

/-- The function of the module that a declaration becomes, if it can be lowered. -/
def FunctionDeclaration.lowered? (signatures : List (String × Nat))
    (function : FunctionDeclaration) : Option Wat.Function :=
  (lowerFunction signatures function).toOption

/-- The functions that a statement adds to the module: one, if it declares one. -/
def Statement.functions (signatures : List (String × Nat)) (statement : Statement) :
    List Wat.Function :=
  (statement.declared?.bind (FunctionDeclaration.lowered? signatures)).toList

theorem lowered?_congr {first second : List (String × Nat)}
    (callees : ∀ callee, first.lookup callee = second.lookup callee) :
    FunctionDeclaration.lowered? first = FunctionDeclaration.lowered? second := by
  funext function
  rw [FunctionDeclaration.lowered?, FunctionDeclaration.lowered?, lowerFunction_congr callees]

theorem flatMap_functions (signatures : List (String × Nat)) (body : List Statement) :
    body.flatMap (Statement.functions signatures) =
      (body.filterMap Statement.declared?).filterMap (FunctionDeclaration.lowered? signatures) := by
  rw [List.filterMap_filterMap, List.filterMap_eq_flatMap_toList]
  rfl

/-- Each declaration becomes the function at its place. -/
theorem map_lowered {signatures : List (String × Nat)} :
    ∀ {functions : List FunctionDeclaration} {lowered : List Wat.Function},
    List.Forall₂ (fun function lowered => lowerFunction signatures function = .ok lowered)
      functions lowered →
    functions.map (FunctionDeclaration.lowered? signatures) = lowered.map some
  | _, _, .nil => rfl
  | function :: _, lowered :: _, .cons eq rest => by
    have found : function.lowered? signatures = some lowered := by
      rw [FunctionDeclaration.lowered?, eq]
      rfl
    rw [List.map_cons, List.map_cons, found, map_lowered rest]

/-- **What a module consists of, statement by statement.** -/
theorem lower_eq_flatMap {width : Wat.FloatWidth} {program : Program} {module : Wat.Module}
    (h : lower width program = .ok module) :
    module = ⟨width, program.body.flatMap
        (Statement.functions (program.declarations.map FunctionDeclaration.signature)),
      program.exports⟩ := by
  obtain ⟨_, _, functions, exports, _⟩ := lower_eq_ok h
  have lowered : program.declarations.filterMap (FunctionDeclaration.lowered?
      (program.declarations.map FunctionDeclaration.signature)) = module.functions := by
    have flattened := congrArg (List.filterMap id) (map_lowered functions)
    rw [List.filterMap_map, List.filterMap_map] at flattened
    simpa using flattened
  have sameWidth : module.width = width := by
    rw [lower_eq] at h
    simp only [lowerProgram, except_bind_eq_ok, except_pure_eq_ok] at h
    obtain ⟨_, _, _, _, rfl⟩ := h
    rfl
  rw [flatMap_functions, ← sameWidth, ← exports, ← Program.declarations, lowered]

/-! ## 3. Statements in another order -/

section Order

variable {width : Wat.FloatWidth} {program : Program} {module : Wat.Module} {body : List Statement}

theorem sameSignatures_of_perm (order : body.Perm program.body) :
    Program.SameSignatures ⟨body⟩ program :=
  fun _ => ((order.filterMap Statement.declared?).map FunctionDeclaration.signature).mem_iff

theorem exportable_congr {first second : List (String × Nat)} {exports exports' : List Wat.Export}
    (h : Exportable first [] exports)
    (callees : ∀ callee, first.lookup callee = second.lookup callee)
    (order : exports'.Perm exports) : Exportable second [] exports' where
  distinct := (order.map Wat.Export.name).nodup_iff.mpr h.distinct
  fresh _ _ := List.not_mem_nil
  known item mem := by
    rw [← callees]
    exact h.known item (order.mem_iff.mp mem)

/-- Nothing is refused for where it stands. -/
theorem exists_lower_of_perm (h : lower width program = .ok module)
    (order : body.Perm program.body) : ∃ module', lower width ⟨body⟩ = .ok module' := by
  obtain ⟨distinct, free, functions, exports, exportable⟩ := lower_eq_ok h
  have declared := order.filterMap Statement.declared?
  have distinct' : ((body.filterMap Statement.declared?).map FunctionDeclaration.name).Nodup :=
    (declared.map FunctionDeclaration.name).nodup_iff.mpr distinct
  have callees := (sameSignatures_of_perm order).lookup distinct' distinct
  have collected := signatures_eq_ok.mpr ⟨rfl, distinct', fun function mem =>
    ⟨free function (declared.mem_iff.mp mem), List.not_mem_nil⟩⟩
  rw [exports] at exportable
  obtain ⟨items, lowered⟩ := exists_lowerItems
    (fun statement mem => (wellFormed_of_lower h).items statement (order.mem_iff.mp mem))
    (fun function mem => by
      have found := find_of_mem distinct (declared.mem_iff.mp mem)
      obtain ⟨lowered, -, eq⟩ := find_lowered functions found
      exact ⟨lowered, (lowerFunction_congr callees function).trans eq⟩)
    (exportable_congr exportable (fun callee => (callees callee).symm)
      (order.flatMap_right Statement.exports))
  simp only [lower_eq, lowerProgram, except_bind_eq_ok, except_pure_eq_ok]
  exact ⟨_, _, collected, items, lowered, rfl⟩

/-- **Statements in another order give the same functions and exports, in that order.** -/
theorem lower_of_perm (h : lower width program = .ok module) (order : body.Perm program.body) :
    lower width ⟨body⟩ = .ok ⟨width, body.flatMap
        (Statement.functions (program.declarations.map FunctionDeclaration.signature)),
      body.flatMap Statement.exports⟩ := by
  obtain ⟨module', lowered⟩ := exists_lower_of_perm h order
  obtain ⟨distinct, _⟩ := lower_eq_ok h
  obtain ⟨distinct', _⟩ := lower_eq_ok lowered
  have callees := (sameSignatures_of_perm order).lookup distinct' distinct
  have alike : Statement.functions ((Program.declarations ⟨body⟩).map FunctionDeclaration.signature)
      = Statement.functions (program.declarations.map FunctionDeclaration.signature) := by
    funext statement
    rw [Statement.functions, Statement.functions, lowered?_congr callees]
  rw [lowered, lower_eq_flatMap lowered, alike]
  rfl

end Order

/-! ## 4. The state in which the emitter comes to a function -/

/-- The functions that the emitter adds to the module for a declaration, from the state it is in. -/
def Emitter.added (emitter : Emitter) (function : FunctionDeclaration) :
    Except LowerError (List Wat.Function) := do
  let result ← (emitFunction function).run emitter
  pure (result.2.functions.drop emitter.functions.length)

theorem Emitter.added_eq (emitter : Emitter) (function : FunctionDeclaration) :
    emitter.added function =
      (lowerFunction emitter.signatures function).map fun lowered => [lowered] := by
  rw [Emitter.added, run_emitFunction]
  cases lowerFunction emitter.signatures function with
  | error error => rfl
  | ok lowered => exact congrArg Except.ok List.drop_left

/-- **The scope, the buffer and the branch that a function leaves behind do not reach the next one.**
    Neither do the functions and the exports of before. -/
theorem Emitter.added_congr {emitter emitter' : Emitter}
    (callees : ∀ callee, emitter.signatures.lookup callee = emitter'.signatures.lookup callee)
    (function : FunctionDeclaration) : emitter.added function = emitter'.added function := by
  rw [Emitter.added_eq, Emitter.added_eq, lowerFunction_congr callees]

theorem getElem_lowered {signatures : List (String × Nat)} :
    ∀ {functions : List FunctionDeclaration} {results : List Wat.Function},
    List.Forall₂ (fun function lowered => lowerFunction signatures function = .ok lowered)
      functions results →
    ∀ {i : Nat} {function : FunctionDeclaration}, functions[i]? = some function →
    ∃ lowered, results[i]? = some lowered ∧ lowerFunction signatures function = .ok lowered
  | _, _, .nil, _, _, found => by simp at found
  | _ :: _, lowered :: _, .cons eq _, 0, _, rfl => ⟨lowered, rfl, eq⟩
  | _ :: _, _ :: _, .cons _ rest, _ + 1, _, found => getElem_lowered rest found

/-- From any state the emitter adds the function of the module, and changes nothing else that lasts. -/
theorem grows_of_lowerFunction {signatures : List (String × Nat)} {function : FunctionDeclaration}
    {lowered : Wat.Function} (h : lowerFunction signatures function = .ok lowered) {emitter : Emitter}
    (callees : ∀ callee, emitter.signatures.lookup callee = signatures.lookup callee) :
    ∃ after, (emitFunction function).run emitter = .ok ((), after) ∧
      emitter.Grows ⟨[lowered], []⟩ after := by
  refine ⟨emitter.finish lowered, ?_, rfl, rfl, rfl, (List.append_nil _).symm⟩
  rw [run_emitFunction, lowerFunction_congr callees, h]
  rfl

/-! ## 5. Independence -/

theorem map_name_functions {signatures : List (String × Nat)} {statement : Statement}
    (lowers : ∀ function, statement.declared? = some function →
      ∃ lowered, lowerFunction signatures function = .ok lowered) :
    (statement.functions signatures).map Wat.Function.name =
      statement.declared?.toList.map FunctionDeclaration.name := by
  cases declared : statement.declared? with
  | none => rw [Statement.functions, declared]; rfl
  | some function =>
    obtain ⟨lowered, eq⟩ := lowers function declared
    have named := (name_of_lowerFunction eq).1
    rw [Statement.functions, declared, Option.bind_some, FunctionDeclaration.lowered?, eq]
    simp [named, Except.toOption]

/-- **Functions are lowered independently, and nothing leaks from one into another.** Whether a
    program is lowered does not depend on the order of its statements; the emitter gives the same
    function, or the same error, in whatever state it comes to a declaration; what a declaration
    becomes depends on the declaration and on the signatures of the program; and each statement has its
    own share of the module, which it takes along when the statements are reordered. -/
theorem lower_independent (width : Wat.FloatWidth) (program : Program) :
    (∀ body : List Statement, body.Perm program.body →
      ((∃ module, lower width ⟨body⟩ = .ok module) ↔ ∃ module, lower width program = .ok module)) ∧
    -- of the emitter's state only the signatures make a difference
    (∀ (emitter emitter' : Emitter) function,
      (∀ callee, emitter.signatures.lookup callee = emitter'.signatures.lookup callee) →
      emitter.added function = emitter'.added function) ∧
    ∀ module, lower width program = .ok module →
      -- the declared functions, each once, in their order
      (module.functions.map Wat.Function.name = program.declarations.map FunctionDeclaration.name ∧
        (module.functions.map Wat.Function.name).Nodup) ∧
      -- a function of the module is what the emitter adds to it, in whatever state it is
      (∀ (i : Nat) function, program.declarations[i]? = some function → ∀ emitter : Emitter,
        (∀ callee, emitter.signatures.lookup callee =
          (program.declarations.map FunctionDeclaration.signature).lookup callee) →
        ∃ lowered after, module.functions[i]? = some lowered ∧
          (emitFunction function).run emitter = .ok ((), after) ∧
          emitter.Grows ⟨[lowered], []⟩ after) ∧
      -- what one declaration becomes does not depend on the others
      (∀ width' other module', lower width' other = .ok module' → program.SameSignatures other →
        ∀ i j : Nat, program.declarations[i]? = other.declarations[j]? →
          module.functions[i]? = module'.functions[j]?) ∧
      module.exports = program.exports ∧
      -- the statements in another order
      ∃ functions : Statement → List Wat.Function,
        (∀ statement ∈ program.body, (functions statement).map Wat.Function.name =
          statement.declared?.toList.map FunctionDeclaration.name) ∧
        module = ⟨width, program.body.flatMap functions, program.body.flatMap Statement.exports⟩ ∧
        ∀ body : List Statement, body.Perm program.body → lower width ⟨body⟩ =
          .ok ⟨width, body.flatMap functions, body.flatMap Statement.exports⟩ := by
  refine ⟨?_, ?_, ?_⟩
  · intro body order
    constructor
    · rintro ⟨module, lowered⟩
      exact exists_lower_of_perm lowered order.symm
    · rintro ⟨module, lowered⟩
      exact exists_lower_of_perm lowered order
  · intro emitter emitter' function callees
    exact Emitter.added_congr callees function
  · intro module lowered
    obtain ⟨distinct, _, functions, exports, _⟩ := lower_eq_ok lowered
    have named := names_lowered functions
    refine ⟨⟨named, named ▸ distinct⟩, ?_, ?_, exports,
      Statement.functions (program.declarations.map FunctionDeclaration.signature), ?_,
      lower_eq_flatMap lowered, fun body order => lower_of_perm lowered order⟩
    · intro i function declared emitter callees
      obtain ⟨lowered, place, eq⟩ := getElem_lowered functions declared
      obtain ⟨after, runs, grows⟩ := grows_of_lowerFunction eq callees
      exact ⟨lowered, after, place, runs, grows⟩
    · intro width' other module' lowered' same i j declared
      obtain ⟨distinct', _, functions', _⟩ := lower_eq_ok lowered'
      have alike := lowered?_congr (same.lookup distinct distinct')
      have place := congrArg (·[i]?) (map_lowered functions)
      have place' := congrArg (·[j]?) (map_lowered functions')
      simp only [List.getElem?_map] at place place'
      rw [alike, declared, place'] at place
      exact Option.map_injective (Option.some_injective _) place.symm
    · intro statement mem
      refine map_name_functions fun function declared => ?_
      have inProgram : function ∈ program.declarations :=
        List.mem_filterMap.mpr ⟨statement, mem, declared⟩
      obtain ⟨result, -, eq⟩ := find_lowered functions (find_of_mem distinct inProgram)
      exact ⟨result, eq⟩

/-- A function that is exported where it stands, and one that is exported and called before it is
    declared. -/
def quarterProgram : Program where
  body :=
    [.exportSpecifiers [⟨"half", "halve"⟩],
      .exportFunction "quarter" ["x"] [.returnValue (.call "half" [.call "half" [.var "x"]])],
      .function "half" ["x"]
        [.returnValue (.binary .divide (.var "x") (.binary .add (.number .one) (.number .one)))]]

/-- The same signatures in another order, one of the functions with another body. -/
def roundedQuarterProgram : Program where
  body :=
    [.function "half" ["y"] [.ifElse (.binary .less (.var "y") (.number .one))
        [.returnValue (.number .zero)] []],
      .function "quarter" ["x"] [.returnValue (.call "half" [.call "half" [.var "x"]])]]

/-- An emitter with leftovers of another function: its scope, an instruction in the buffer, and that
    something branched. -/
def untidyEmitter : Emitter where
  width := .f32
  signatures := quarterProgram.declarations.map FunctionDeclaration.signature
  functions := [⟨"half", ["x"], [], []⟩]
  exports := [⟨"quarter", "half"⟩]
  scope := ["x", "left"]
  code := [.br Wat.exitLabel]
  exits := true

theorem lower_independent_quarter : ∃ module module',
    lower .f64 quarterProgram = .ok module ∧ lower .f32 roundedQuarterProgram = .ok module' ∧
    (∃ lowered after, module.functions[0]? = some lowered ∧
      (emitFunction ⟨"quarter", ["x"],
        [.returnValue (.call "half" [.call "half" [.var "x"]])]⟩).run untidyEmitter =
        .ok ((), after) ∧ after.functions = [⟨"half", ["x"], [], []⟩, lowered]) ∧
    module.functions[0]? = module'.functions[1]? ∧
    module.exports = [⟨"halve", "half"⟩, ⟨"quarter", "quarter"⟩] ∧
    ∃ functions : Statement → List Wat.Function,
      module.functions = quarterProgram.body.flatMap functions ∧
      lower .f64 ⟨quarterProgram.body.reverse⟩ =
        .ok ⟨.f64, quarterProgram.body.reverse.flatMap functions,
          [⟨"quarter", "quarter"⟩, ⟨"halve", "half"⟩]⟩ := by
  obtain ⟨module, lowered⟩ : ∃ module, lower .f64 quarterProgram = .ok module :=
    ⟨_, (lower_eq ..).trans rfl⟩
  obtain ⟨module', lowered'⟩ : ∃ module, lower .f32 roundedQuarterProgram = .ok module :=
    ⟨_, (lower_eq ..).trans rfl⟩
  have same : quarterProgram.SameSignatures roundedQuarterProgram :=
    fun _ => (List.Perm.swap ("half", 1) ("quarter", 1) []).mem_iff
  obtain ⟨-, tidied, shared, exports, functions, -, eq, order⟩ :=
    (lower_independent .f64 quarterProgram).2.2 module lowered
  obtain ⟨quarter, after, place, runs, grows⟩ := tidied 0 _ rfl untidyEmitter fun _ => rfl
  exact ⟨module, module', lowered, lowered', ⟨quarter, after, place, runs, grows.functions⟩,
    shared .f32 _ module' lowered' same 0 1 rfl, exports, functions, by rw [eq],
    order _ (List.reverse_perm _)⟩

end NumScript
