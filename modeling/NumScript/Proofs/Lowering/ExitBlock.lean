import NumScript.Proofs.Lowering.Validity
import NumScript.Proofs.Lowering.WellFormed

/-!
# How a body is left early

A `return` that is not at the tail stores its value and branches out of the body, which then stands in
a block. This file says where that happens, and that nothing else is different: without the branches
and the block, the body is what a lowering makes of it that only stores results (`storeStatements`).

Whether the body is put in a block is decided by what the emitter remembers, not by a look at the
instructions: the branch that it remembers was emitted somewhere in the body, in the buffer of
whatever block (`exits_iff_branching`).

What the code of a list of statements looks like is said once (`Becomes`), as a relation that forgets
how the code of expressions is made and keeps that there is nothing in it that matters here. The rest
are inductions over this relation. The main statement is `exitPlaced_of_lower`.
-/

namespace NumScript

open Wat (Instruction)

/-! ## 1. Inside a body -/

/-- Where a list of instructions stands in a body. -/
inductive Site where
  /-- It is the whole body. -/
  | body
  /-- It is an arm of a choice. -/
  | arm
  /-- It is in a block. -/
  | block

/-- The lists of instructions that make up a body, and where they stand. -/
inductive Inside (body : List Instruction) : Site → List Instruction → Prop
  | whole : Inside body .body body
  | consequent {site : Site} {outer first second : List Instruction} (around : Inside body site outer)
      (mem : .ifElse first second ∈ outer) : Inside body .arm first
  | alternate {site : Site} {outer first second : List Instruction} (around : Inside body site outer)
      (mem : .ifElse first second ∈ outer) : Inside body .arm second
  | block {site : Site} {outer inner : List Instruction} {label : String}
      (around : Inside body site outer) (mem : .block label inner ∈ outer) : Inside body .block inner

/-- There is a branch somewhere in the body. -/
def Branching (body : List Instruction) : Prop :=
  ∃ site code label, Inside body site code ∧ .br label ∈ code

/-- There is no block anywhere in the body. -/
def Blockless (body : List Instruction) : Prop :=
  ∀ site code label inner, Inside body site code → .block label inner ∉ code

mutual
theorem branching_of_branches {body outer : List Instruction} {site : Site}
    (around : Inside body site outer) : ∀ instruction ∈ outer, instruction.branches = true →
    Branching body
  | .br label, mem, _ => ⟨site, outer, label, around, mem⟩
  | .ifElse first second, mem, branches => by
    rw [Instruction.branches, Bool.or_eq_true] at branches
    rcases branches with branches | branches
    · exact branching_of_anyBranches (.consequent around mem) first (fun _ mem => mem) branches
    · exact branching_of_anyBranches (.alternate around mem) second (fun _ mem => mem) branches
  | .block label inner, mem, branches => by
    rw [Instruction.branches] at branches
    exact branching_of_anyBranches (.block around mem) inner (fun _ mem => mem) branches
  | .const _, _, branches | .i32Const _, _, branches | .localGet _, _, branches
  | .localSet _, _, branches | .float _, _, branches | .call _, _, branches | .drop, _, branches => by
    simp [Instruction.branches] at branches

theorem branching_of_anyBranches {body outer : List Instruction} {site : Site}
    (around : Inside body site outer) : ∀ part : List Instruction,
    (∀ instruction ∈ part, instruction ∈ outer) → Wat.anyBranches part = true → Branching body
  | [], _, branches => by simp [Wat.anyBranches] at branches
  | first :: rest, within, branches => by
    obtain ⟨here, later⟩ := List.forall_mem_cons.mp within
    rw [Wat.anyBranches, Bool.or_eq_true] at branches
    rcases branches with branches | branches
    · exact branching_of_branches around first here branches
    · exact branching_of_anyBranches around rest later branches
end

theorem anyBranches_of_mem {instruction : Instruction} {code : List Instruction}
    (mem : instruction ∈ code) (branches : instruction.branches = true) :
    Wat.anyBranches code = true := by
  obtain ⟨before, after, rfl⟩ := List.append_of_mem mem
  rw [anyBranches_append, Wat.anyBranches, branches, Bool.true_or, Bool.or_true]

theorem Inside.anyBranches {body code : List Instruction} {site : Site} (h : Inside body site code)
    (branches : Wat.anyBranches code = true) : Wat.anyBranches body = true := by
  induction h with
  | whole => exact branches
  | consequent around mem ih =>
    refine ih (anyBranches_of_mem mem ?_)
    rw [Instruction.branches, branches, Bool.true_or]
  | alternate around mem ih =>
    refine ih (anyBranches_of_mem mem ?_)
    rw [Instruction.branches, branches, Bool.or_true]
  | block around mem ih =>
    refine ih (anyBranches_of_mem mem ?_)
    rw [Instruction.branches, branches]

/-- **The search for a branch finds one wherever it is.** -/
theorem anyBranches_iff_branching {body : List Instruction} :
    Wat.anyBranches body = true ↔ Branching body := by
  constructor
  · exact branching_of_anyBranches .whole body fun _ mem => mem
  · rintro ⟨site, code, label, inside, mem⟩
    exact inside.anyBranches (anyBranches_of_mem mem rfl)

/-! ## 2. Bodies without exits -/

mutual
/-- What is left of an instruction without branches and without blocks that they leave. -/
def Wat.Instruction.withoutExits : Instruction → List Instruction
  | .br _ => []
  | .block label body =>
    if label = Wat.exitLabel then withoutExits body else [.block label (withoutExits body)]
  | .ifElse first second => [.ifElse (withoutExits first) (withoutExits second)]
  | instruction => [instruction]

/-- What is left of a body without branches and without blocks that they leave. -/
def withoutExits : List Instruction → List Instruction
  | [] => []
  | instruction :: rest => instruction.withoutExits ++ withoutExits rest
end

mutual
/-- The instructions of one statement, where a `return` only stores its value. -/
def storeStatement (scope : Scope) : Statement → Except LowerError (List Instruction)
  | .returnValue argument => do
    let code ← lowerExpression scope argument
    pure (code ++ [.localSet Wat.resultSlot])
  | .ifElse test consequent alternate => do
    let code ← lowerCondition scope test
    let first ← storeStatements scope consequent
    let second ← storeStatements scope alternate
    pure (code ++ [.ifElse first second])
  | .variableDeclaration _ none => .ok []
  | .variableDeclaration name (some init) => do
    let code ← lowerExpression scope init
    pure (code ++ [.localSet name])
  | .expression value => lowerEffect scope value
  | .function name _ _ => .error (.nestedFunction name)
  | .exportFunction _ _ _ => .error .nestedExport
  | .exportSpecifiers _ => .error .nestedExport

/-- The instructions of a list of statements up to the first `return`, where a `return` only stores
    its value. -/
def storeStatements (scope : Scope) : List Statement → Except LowerError (List Instruction)
  | [] => .ok []
  | statement :: rest =>
    if statement.isReturn then storeStatement scope statement
    else do
      let code ← storeStatement scope statement
      let others ← storeStatements scope rest
      pure (code ++ others)
end

theorem withoutExits_append (first second : List Instruction) :
    withoutExits (first ++ second) = withoutExits first ++ withoutExits second := by
  induction first with
  | nil => rfl
  | cons instruction rest ih =>
    rw [List.cons_append, withoutExits, withoutExits, ih, List.append_assoc]

/-! ## 3. Results that are stored -/

/-- Whether a branch comes first. -/
def branchesNext : List Instruction → Bool
  | .br _ :: _ => true
  | _ => false

mutual
/-- For each store of a result in an instruction, in order, whether a branch comes next; `following`
    is what stands behind the instruction. -/
def Wat.Instruction.resultStores (following : List Instruction) : Instruction → List Bool
  | .localSet slot => if slot = Wat.resultSlot then [branchesNext following] else []
  | .ifElse first second => resultStores first ++ resultStores second
  | .block _ body => resultStores body
  | _ => []

/-- For each store of a result in a body, in order, whether a branch comes next. -/
def resultStores : List Instruction → List Bool
  | [] => []
  | instruction :: rest => instruction.resultStores rest ++ resultStores rest
end

/-- A `return` that can be run. -/
structure LiveReturn where
  /-- Its argument. -/
  argument : Expression
  /-- The conditions around it from the outside in: whether each is the last statement of its list. -/
  enclosing : List Bool

/-- The same `return` in one more condition, which is the last of its list or not. -/
def LiveReturn.within (last : Bool) (live : LiveReturn) : LiveReturn :=
  ⟨live.argument, last :: live.enclosing⟩

mutual
/-- The returns in a statement that can be run, in order. -/
def Statement.liveReturns : Statement → List LiveReturn
  | .returnValue argument => [⟨argument, []⟩]
  | .ifElse _ consequent alternate => liveReturnsOf consequent ++ liveReturnsOf alternate
  | _ => []

/-- The returns in a list of statements that can be run, in order. -/
def liveReturnsOf : List Statement → List LiveReturn
  | [] => []
  | statement :: rest =>
    if statement.isReturn then statement.liveReturns
    else statement.liveReturns.map (.within rest.isEmpty) ++ liveReturnsOf rest
end

mutual
theorem mem_liveReturns {argument : Expression} : ∀ statement : Statement,
    argument ∈ statement.liveReturns.map LiveReturn.argument ↔
      .returnValue argument = statement ∨ LiveInside statement (.returnValue argument)
  | .returnValue other => by
    simp only [Statement.liveReturns, List.map_cons, List.map_nil, List.mem_singleton,
      Statement.returnValue.injEq]
    refine (or_iff_left ?_).symm
    rintro ⟨⟩
  | .ifElse test consequent alternate => by
    rw [Statement.liveReturns, List.map_append, List.mem_append, mem_liveReturnsOf consequent,
      mem_liveReturnsOf alternate]
    constructor
    · rintro (live | live)
      · exact .inr (.consequent live)
      · exact .inr (.alternate live)
    · rintro (same | inside)
      · cases same
      · cases inside with
        | consequent live => exact .inl live
        | alternate live => exact .inr live
  | .function _ _ _ | .variableDeclaration _ _ | .expression _ | .exportFunction _ _ _
  | .exportSpecifiers _ => by
    simp only [Statement.liveReturns, List.map_nil, List.not_mem_nil, reduceCtorEq, false_or,
      false_iff]
    rintro ⟨⟩

/-- **The returns that are listed are those that are live.** -/
theorem mem_liveReturnsOf {argument : Expression} : ∀ body : List Statement,
    argument ∈ (liveReturnsOf body).map LiveReturn.argument ↔ Live body (.returnValue argument)
  | [] => by
    rw [liveReturnsOf, List.map_nil]
    exact iff_of_false List.not_mem_nil not_live_nil
  | statement :: rest => by
    rw [live_cons, ← or_assoc, ← mem_liveReturns statement, liveReturnsOf]
    cases ends : statement.isReturn with
    | true => simp
    | false =>
      rw [if_neg Bool.false_ne_true, List.map_append, List.mem_append, List.map_map,
        mem_liveReturnsOf rest]
      simp [Function.comp_def, LiveReturn.within]
end

theorem branchesNext_append {second : List Instruction} (ended : branchesNext second = false) :
    ∀ first : List Instruction, branchesNext (first ++ second) = branchesNext first
  | [] => ended
  | instruction :: rest => by cases instruction <;> rfl

theorem resultStores_append {second : List Instruction} (ended : branchesNext second = false)
    (first : List Instruction) :
    resultStores (first ++ second) = resultStores first ++ resultStores second := by
  induction first with
  | nil => rfl
  | cons instruction rest ih =>
    have here : instruction.resultStores (rest ++ second) = instruction.resultStores rest := by
      cases instruction <;> simp only [Instruction.resultStores, branchesNext_append ended]
    rw [List.cons_append, resultStores, resultStores, ih, here, List.append_assoc]

/-! ## 4. Plain code -/

/-- No choice, block or branch, and no store of a result. -/
def Wat.Instruction.Plain : Instruction → Prop
  | .localSet slot => slot ≠ Wat.resultSlot
  | .ifElse _ _ | .block _ _ | .br _ => False
  | _ => True

/-- Only such instructions. -/
def PlainCode (code : List Instruction) : Prop := ∀ instruction ∈ code, instruction.Plain

@[simp] theorem plainCode_nil : PlainCode [] := nofun

@[simp] theorem plainCode_cons {instruction : Instruction} {code : List Instruction} :
    PlainCode (instruction :: code) ↔ instruction.Plain ∧ PlainCode code := List.forall_mem_cons

@[simp] theorem plainCode_append {first second : List Instruction} :
    PlainCode (first ++ second) ↔ PlainCode first ∧ PlainCode second := List.forall_mem_append

@[simp] theorem plain_float (operation : Wat.FloatOperation) :
    (Instruction.float operation).Plain := trivial

@[simp] theorem plain_const (value : Binary64) : (Instruction.const value).Plain := trivial

@[simp] theorem plain_callInstruction (callee : String) : (callInstruction callee).Plain := by
  unfold callInstruction
  split
  · exact trivial
  · exact trivial

@[simp] theorem plain_unaryInstructions (op : UnaryOperator) : PlainCode (unaryInstructions op) := by
  cases op <;> simp [unaryInstructions]

section Plain

variable {scope : Scope} {code : List Instruction}

mutual
theorem plain_lowerExpression : ∀ (value : Expression) {code : List Instruction},
    lowerExpression scope value = .ok code → PlainCode code
  | .number value, code, h => by
    rw [lowerExpression_number] at h
    simp [h]
  | .var name, code, h => by
    obtain ⟨_, rfl⟩ := lowerExpression_var.mp h
    simp [Instruction.Plain]
  | .binary op left right, code, h => by
    obtain ⟨_, first, second, onLeft, onRight, rfl⟩ := lowerExpression_binary.mp h
    simp [plain_lowerExpression left onLeft, plain_lowerExpression right onRight]
  | .unary op operand, code, h => by
    obtain ⟨inner, lowered, rfl⟩ := lowerExpression_unary.mp h
    simp [plain_lowerExpression operand lowered]
  | .call callee arguments, code, h => by
    obtain ⟨_, _, inner, lowered, rfl⟩ := lowerExpression_call.mp h
    simp [plain_lowerArguments arguments lowered]
  | .assign _ _, code, h => absurd h lowerExpression_assign

theorem plain_lowerArguments : ∀ (arguments : List Expression) {code : List Instruction},
    lowerArguments scope arguments = .ok code → PlainCode code
  | [], code, h => by
    rw [lowerArguments_nil] at h
    simp [h]
  | argument :: rest, code, h => by
    obtain ⟨first, others, onFirst, onRest, rfl⟩ := lowerArguments_cons.mp h
    simp [plain_lowerExpression argument onFirst, plain_lowerArguments rest onRest]
end

theorem plain_lowerCondition {test : Expression} (h : lowerCondition scope test = .ok code) :
    PlainCode code := by
  obtain ⟨op, left, right, first, second, rfl, _, onLeft, onRight, rfl⟩ | ⟨inner, lowered, rfl⟩ :=
    lowerCondition_eq_ok.mp h
  · simp [plain_lowerExpression left onLeft, plain_lowerExpression right onRight]
  · simp [plain_lowerExpression test lowered]

/-- An assignment is never to the result slot, because that is no variable. -/
theorem plain_lowerEffect (reserved : Wat.resultSlot ∉ scope.slots) {value : Expression}
    (h : lowerEffect scope value = .ok code) : PlainCode code := by
  obtain ⟨target, source, inner, rfl, lowered, mem, rfl⟩ | ⟨rfl, rfl⟩ | ⟨inner, lowered, rfl⟩ :=
    lowerEffect_eq_ok.mp h
  · have other : target ≠ Wat.resultSlot := fun same => reserved (same ▸ mem)
    simp [plain_lowerExpression source lowered, Instruction.Plain, other]
  · simp [faultInstructions, Instruction.Plain]
  · simp [plain_lowerExpression value lowered, Instruction.Plain]

end Plain

/-- Plain code has no exits. -/
theorem PlainCode.withoutExits {code : List Instruction} (h : PlainCode code) :
    withoutExits code = code := by
  induction code with
  | nil => rfl
  | cons instruction rest ih =>
    obtain ⟨plain, others⟩ := List.forall_mem_cons.mp h
    rw [NumScript.withoutExits, ih others]
    cases instruction with
    | ifElse | block | br => exact plain.elim
    | _ => rfl

theorem PlainCode.resultStores {code : List Instruction} (h : PlainCode code) :
    resultStores code = [] := by
  induction code with
  | nil => rfl
  | cons instruction rest ih =>
    obtain ⟨plain, others⟩ := List.forall_mem_cons.mp h
    rw [NumScript.resultStores, ih others]
    cases instruction with
    | localSet slot => rw [Instruction.resultStores, if_neg plain, List.nil_append]
    | ifElse | block | br => exact plain.elim
    | _ => rfl

theorem PlainCode.anyBranches {code : List Instruction} (h : PlainCode code) :
    Wat.anyBranches code = false := by
  induction code with
  | nil => rfl
  | cons instruction rest ih =>
    obtain ⟨plain, others⟩ := List.forall_mem_cons.mp h
    rw [Wat.anyBranches, ih others]
    cases instruction with
    | ifElse | block | br => exact plain.elim
    | _ => rfl

theorem PlainCode.branchesNext {code rest : List Instruction} (h : PlainCode code)
    (ended : branchesNext rest = false) : branchesNext (code ++ rest) = false := by
  rw [branchesNext_append ended]
  cases code with
  | nil => rfl
  | cons instruction code =>
    obtain ⟨plain, _⟩ := plainCode_cons.mp h
    cases instruction with
    | br => exact plain.elim
    | _ => rfl

/-- A branch behind plain code is in what follows it. -/
theorem PlainCode.split_at_branch {code rest before after : List Instruction} {label : String}
    (h : PlainCode code) (split : code ++ rest = before ++ .br label :: after) :
    ∃ more, before = code ++ more ∧ rest = more ++ .br label :: after := by
  obtain ⟨more, rfl, later⟩ | ⟨more, rfl, later⟩ := List.append_eq_append_iff.mp split
  · exact ⟨more, rfl, later⟩
  · cases more with
    | nil => exact ⟨[], by simp, later.symm⟩
    | cons _ more =>
      obtain ⟨rfl, -⟩ := List.cons.inj later
      exact (h (.br label) (by simp)).elim

/-! ## 5. The code of statements -/

/-- What a list of statements becomes, at the tail or not. A `return` ends its list; a choice becomes
    a choice between what its blocks become, which stand at the tail if it does and nothing follows
    it; everything else becomes plain code. -/
inductive Becomes (scope : Scope) : Bool → List Statement → List Instruction → Prop
  | nil {tail : Bool} : Becomes scope tail [] []
  | result {tail : Bool} {argument : Expression} {rest : List Statement} {inner : List Instruction}
      (lowered : lowerExpression scope argument = .ok inner) (plain : PlainCode inner) :
      Becomes scope tail (.returnValue argument :: rest)
        (inner ++ .localSet Wat.resultSlot :: if tail then [] else [.br Wat.exitLabel])
  | choice {tail : Bool} {test : Expression} {consequent alternate rest : List Statement}
      {inner first second others : List Instruction}
      (lowered : lowerCondition scope test = .ok inner) (plain : PlainCode inner)
      (onFirst : Becomes scope (tail && rest.isEmpty) consequent first)
      (onSecond : Becomes scope (tail && rest.isEmpty) alternate second)
      (onRest : Becomes scope tail rest others) :
      Becomes scope tail (.ifElse test consequent alternate :: rest)
        (inner ++ .ifElse first second :: others)
  | simple {tail : Bool} {statement : Statement} {rest : List Statement}
      {code others : List Instruction} (stored : storeStatement scope statement = .ok code)
      (plain : PlainCode code) (goesOn : statement.isReturn = false)
      (noReturn : statement.liveReturns = []) (onRest : Becomes scope tail rest others) :
      Becomes scope tail (statement :: rest) (code ++ others)

/-- **Statements become what they are lowered to.** No variable has the name of the result slot, so
    only a `return` stores a result. -/
theorem becomes_of_lowerStatements {scope : Scope} (reserved : Wat.resultSlot ∉ scope.slots) :
    ∀ (body : List Statement) {tail : Bool} {code : List Instruction},
    lowerStatements scope tail body = .ok code → Wat.resultSlot ∉ varNamesOf body →
    Becomes scope tail body code
  | [], tail, code, h, _ => by
    rw [lowerStatements_nil] at h
    subst h
    exact .nil
  | .returnValue argument :: rest, tail, code, h, _ => by
    obtain ⟨inner, lowered, rfl⟩ := lowerStatement_return.mp (lowerStatements_return.mp h)
    exact .result lowered (plain_lowerExpression argument lowered)
  | .ifElse test consequent alternate :: rest, tail, code, h, free => by
    obtain ⟨_, others, onChoice, onRest, rfl⟩ := (lowerStatements_cons rfl).mp h
    obtain ⟨inner, first, second, onTest, onFirst, onSecond, rfl⟩ := lowerStatement_ifElse.mp onChoice
    simp only [varNamesOf, Statement.varNames, List.mem_append, not_or] at free
    rw [List.append_assoc]
    exact .choice onTest (plain_lowerCondition onTest)
      (becomes_of_lowerStatements reserved consequent onFirst free.1.1)
      (becomes_of_lowerStatements reserved alternate onSecond free.1.2)
      (becomes_of_lowerStatements reserved rest onRest free.2)
  | .variableDeclaration name init :: rest, tail, code, h, free => by
    obtain ⟨first, others, onFirst, onRest, rfl⟩ := (lowerStatements_cons rfl).mp h
    simp only [varNamesOf, Statement.varNames, List.mem_append, List.mem_singleton, not_or] at free
    have later := becomes_of_lowerStatements reserved rest onRest free.2
    cases init with
    | none =>
      rw [lowerStatement_declaration] at onFirst
      subst onFirst
      exact .simple rfl plainCode_nil rfl rfl later
    | some init =>
      obtain ⟨inner, lowered, rfl⟩ := lowerStatement_initialized.mp onFirst
      refine .simple ?_ ?_ rfl rfl later
      · rw [storeStatement, lowered]
        rfl
      · simp [plain_lowerExpression init lowered, Instruction.Plain, Ne.symm free.1]
  | .expression value :: rest, tail, code, h, free => by
    obtain ⟨first, others, onFirst, onRest, rfl⟩ := (lowerStatements_cons rfl).mp h
    rw [lowerStatement_expression] at onFirst
    rw [varNamesOf, List.mem_append, not_or] at free
    refine .simple ?_ (plain_lowerEffect reserved onFirst) rfl rfl
      (becomes_of_lowerStatements reserved rest onRest free.2)
    rw [storeStatement, onFirst]
  | .function _ _ _ :: rest, tail, code, h, _ => by
    obtain ⟨_, _, onFirst, _⟩ := (lowerStatements_cons rfl).mp h
    exact absurd onFirst lowerStatement_function
  | .exportFunction _ _ _ :: rest, tail, code, h, _ => by
    obtain ⟨_, _, onFirst, _⟩ := (lowerStatements_cons rfl).mp h
    exact absurd onFirst lowerStatement_exportFunction
  | .exportSpecifiers _ :: rest, tail, code, h, _ => by
    obtain ⟨_, _, onFirst, _⟩ := (lowerStatements_cons rfl).mp h
    exact absurd onFirst lowerStatement_exportSpecifiers

namespace Becomes

variable {scope : Scope} {tail : Bool} {body : List Statement} {code : List Instruction}

/-- **Without its exits the code only stores results.** -/
theorem stored (h : Becomes scope tail body code) :
    storeStatements scope body = .ok (withoutExits code) := by
  induction h with
  | nil => rfl
  | @result tail argument rest inner lowered plain =>
    have exits : withoutExits (.localSet Wat.resultSlot :: if tail then [] else [.br Wat.exitLabel]) =
        [.localSet Wat.resultSlot] := by
      cases tail <;> rfl
    rw [withoutExits_append, plain.withoutExits, exits, storeStatements, Statement.isReturn,
      if_pos rfl, storeStatement, lowered]
    rfl
  | @choice tail test consequent alternate _ _ _ _ _ lowered plain _ _ _ ihFirst ihSecond ihRest =>
    have goesOn : (Statement.ifElse test consequent alternate).isReturn = false := rfl
    rw [withoutExits_append, plain.withoutExits, withoutExits, Instruction.withoutExits,
      storeStatements, goesOn, if_neg Bool.false_ne_true, storeStatement, lowered, ihFirst, ihSecond,
      ihRest, ← List.append_assoc]
    rfl
  | simple stored plain goesOn noReturn onRest ih =>
    rw [withoutExits_append, plain.withoutExits, storeStatements, goesOn,
      if_neg Bool.false_ne_true, stored, ih]
    rfl

theorem branchesNext (h : Becomes scope tail body code) : branchesNext code = false := by
  induction h with
  | nil => rfl
  | result lowered plain => exact plain.branchesNext rfl
  | choice lowered plain => exact plain.branchesNext rfl
  | simple stored plain goesOn noReturn onRest ih => exact plain.branchesNext ih

/-- **The results are stored in the order of the returns**, and a branch comes next for those not at
    the tail. -/
theorem resultStores (h : Becomes scope tail body code) :
    resultStores code =
      (liveReturnsOf body).map fun live => !tail || live.enclosing.contains false := by
  induction h with
  | nil => rfl
  | @result tail argument rest inner lowered plain =>
    rw [resultStores_append rfl, plain.resultStores]
    cases tail <;> rfl
  | @choice tail test consequent alternate rest inner first second others lowered plain onFirst
      onSecond onRest ihFirst ihSecond ihRest =>
    have goesOn : (Statement.ifElse test consequent alternate).isReturn = false := rfl
    rw [resultStores_append rfl, plain.resultStores, NumScript.resultStores, Instruction.resultStores,
      ihFirst, ihSecond, ihRest, liveReturnsOf, goesOn, if_neg Bool.false_ne_true,
      Statement.liveReturns]
    -- an arm is at the tail if the choice is and comes last, which is one more condition to be last
    have inArm : (fun live : LiveReturn =>
          !(tail && rest.isEmpty) || live.enclosing.contains false) =
        (fun live => !tail || live.enclosing.contains false) ∘ LiveReturn.within rest.isEmpty := by
      funext live
      cases tail <;> cases rest.isEmpty <;> simp [LiveReturn.within]
    rw [inArm, List.map_append, List.map_append, List.map_append, List.map_map, List.map_map]
    rfl
  | simple stored plain goesOn noReturn onRest ih =>
    rw [resultStores_append onRest.branchesNext, plain.resultStores, ih, liveReturnsOf, goesOn,
      if_neg Bool.false_ne_true, noReturn]
    rfl

/-- **What stands in the code of statements**: plain instructions, stores of a result, branches out of
    the body unless the statements are at the tail, and choices between such code. -/
theorem cases_of_mem (h : Becomes scope tail body code) {instruction : Instruction}
    (mem : instruction ∈ code) :
    instruction.Plain ∨ instruction = .localSet Wat.resultSlot ∨
      (tail = false ∧ instruction = .br Wat.exitLabel) ∨
      ∃ inner consequent alternate first second, instruction = .ifElse first second ∧
        Becomes scope inner consequent first ∧ Becomes scope inner alternate second := by
  induction h with
  | nil => cases mem
  | @result tail argument rest inner lowered plain =>
    rcases List.mem_append.mp mem with mem | mem
    · exact .inl (plain _ mem)
    · cases tail with
      | true => exact .inr (.inl (List.mem_singleton.mp mem))
      | false =>
        rcases List.mem_cons.mp mem with same | mem
        · exact .inr (.inl same)
        · exact .inr (.inr (.inl ⟨rfl, List.mem_singleton.mp mem⟩))
  | choice lowered plain onFirst onSecond onRest ihFirst ihSecond ihRest =>
    rcases List.mem_append.mp mem with mem | mem
    · exact .inl (plain _ mem)
    · rcases List.mem_cons.mp mem with same | mem
      · exact .inr (.inr (.inr ⟨_, _, _, _, _, same, onFirst, onSecond⟩))
      · exact ihRest mem
  | simple stored plain goesOn noReturn onRest ih =>
    rcases List.mem_append.mp mem with mem | mem
    · exact .inl (plain _ mem)
    · exact ih mem

/-- The arms of a choice are what lists of statements become. -/
theorem arms (h : Becomes scope tail body code) {first second : List Instruction}
    (mem : .ifElse first second ∈ code) :
    (∃ tail body, Becomes scope tail body first) ∧ ∃ tail body, Becomes scope tail body second := by
  obtain plain | same | ⟨_, same⟩ | ⟨inner, consequent, alternate, _, _, same, onFirst, onSecond⟩ :=
    h.cases_of_mem mem
  · exact plain.elim
  · cases same
  · cases same
  · cases same
    exact ⟨⟨inner, consequent, onFirst⟩, inner, alternate, onSecond⟩

theorem not_mem_block (h : Becomes scope tail body code) (label : String)
    (inner : List Instruction) : .block label inner ∉ code := by
  intro mem
  obtain plain | same | ⟨_, same⟩ | ⟨_, _, _, _, _, same, _⟩ := h.cases_of_mem mem
  · exact plain
  · cases same
  · cases same
  · cases same

theorem not_mem_br (h : Becomes scope true body code) (label : String) : .br label ∉ code := by
  intro mem
  obtain plain | same | ⟨tail, _⟩ | ⟨_, _, _, _, _, same, _⟩ := h.cases_of_mem mem
  · exact plain
  · cases same
  · cases tail
  · cases same

/-- **A branch comes last, behind the store of a result.** -/
theorem branch_last (h : Becomes scope tail body code) {label : String}
    {before after : List Instruction} (split : code = before ++ .br label :: after) :
    label = Wat.exitLabel ∧ after = [] ∧ ∃ start, before = start ++ [.localSet Wat.resultSlot] := by
  induction h generalizing before with
  | nil => simp at split
  | @result tail argument rest inner lowered plain =>
    obtain ⟨more, rfl, later⟩ := plain.split_at_branch split
    cases more with
    | nil => cases later
    | cons store more =>
      obtain ⟨rfl, behind⟩ := List.cons.inj later
      cases tail with
      | true => simp at behind
      | false =>
        obtain ⟨rfl, same⟩ | ⟨-, none⟩ := List.append_eq_singleton_iff.mp behind.symm
        · cases same
          exact ⟨rfl, rfl, inner, rfl⟩
        · cases none
  | @choice _ _ _ _ _ inner _ _ _ lowered plain onFirst onSecond onRest ihFirst ihSecond ihRest =>
    obtain ⟨more, rfl, later⟩ := plain.split_at_branch split
    cases more with
    | nil => cases later
    | cons choice more =>
      obtain ⟨-, behind⟩ := List.cons.inj later
      obtain ⟨isExit, ended, start, rfl⟩ := ihRest behind
      exact ⟨isExit, ended, inner ++ choice :: start, by simp⟩
  | simple stored plain goesOn noReturn onRest ih =>
    obtain ⟨more, rfl, later⟩ := plain.split_at_branch split
    obtain ⟨isExit, ended, start, rfl⟩ := ih later
    exact ⟨isExit, ended, _ ++ start, (List.append_assoc _ _ _).symm⟩

/-- Something branches if a branch comes next behind the store of some result. -/
theorem anyBranches (h : Becomes scope tail body code) :
    Wat.anyBranches code = (NumScript.resultStores code).contains true := by
  induction h with
  | nil => rfl
  | @result tail argument rest inner lowered plain =>
    rw [anyBranches_append, plain.anyBranches, resultStores_append rfl, plain.resultStores]
    cases tail <;> rfl
  | choice lowered plain onFirst onSecond onRest ihFirst ihSecond ihRest =>
    rw [anyBranches_append, plain.anyBranches, Wat.anyBranches, Instruction.branches, ihFirst,
      ihSecond, ihRest, resultStores_append rfl, plain.resultStores, NumScript.resultStores,
      Instruction.resultStores]
    simp [Bool.or_assoc]
  | simple stored plain goesOn noReturn onRest ih =>
    rw [anyBranches_append, plain.anyBranches, ih, resultStores_append onRest.branchesNext,
      plain.resultStores]
    rfl

/-- What is inside the code of statements is the code of statements. -/
theorem inside (h : Becomes scope tail body code) {site : Site} {inner : List Instruction}
    (within : Inside code site inner) : ∃ tail body, Becomes scope tail body inner := by
  induction within with
  | whole => exact ⟨tail, body, h⟩
  | consequent around mem ih =>
    obtain ⟨_, _, outer⟩ := ih
    exact (outer.arms mem).1
  | alternate around mem ih =>
    obtain ⟨_, _, outer⟩ := ih
    exact (outer.arms mem).2
  | block around mem ih =>
    obtain ⟨_, _, outer⟩ := ih
    exact absurd mem (outer.not_mem_block _ _)

theorem blockless (h : Becomes scope tail body code) : Blockless code := by
  intro site inner label part within
  obtain ⟨_, _, part⟩ := h.inside within
  exact part.not_mem_block _ _

end Becomes

/-! ## 6. The closed body -/

section Closed

variable {scope : Scope} {body : List Statement} {code : List Instruction}

theorem withoutExits_closeBody :
    withoutExits (closeBody code) = withoutExits code ++ [.localGet Wat.resultSlot] := by
  cases branches : Wat.anyBranches code with
  | true =>
    rw [closeBody_of_branches branches, withoutExits, Instruction.withoutExits, if_pos rfl]
    rfl
  | false =>
    rw [closeBody_of_not_branches branches, withoutExits_append]
    rfl

theorem resultStores_closeBody : resultStores (closeBody code) = resultStores code := by
  cases branches : Wat.anyBranches code with
  | true =>
    rw [closeBody_of_branches branches, resultStores, Instruction.resultStores]
    exact List.append_nil _
  | false =>
    rw [closeBody_of_not_branches branches, resultStores_append rfl]
    exact List.append_nil _

theorem mem_closeBody {instruction : Instruction} (mem : instruction ∈ closeBody code) :
    instruction = .localGet Wat.resultSlot ∨ instruction ∈ code ∨
      (Wat.anyBranches code = true ∧ instruction = .block Wat.exitLabel code) := by
  cases branches : Wat.anyBranches code with
  | true =>
    rw [closeBody_of_branches branches, List.mem_cons, List.mem_singleton] at mem
    rcases mem with same | same
    · exact .inr (.inr ⟨rfl, same⟩)
    · exact .inl same
  | false =>
    rw [closeBody_of_not_branches branches, List.mem_append, List.mem_singleton] at mem
    rcases mem with mem | same
    · exact .inr (.inl mem)
    · exact .inl same

/-- What may stand inside a closed body: the body itself, the code in the block around it, and arms
    that are the code of statements. -/
inductive ClosedPart (scope : Scope) (code : List Instruction) : Site → List Instruction → Prop
  | body : ClosedPart scope code .body (closeBody code)
  | block (branches : Wat.anyBranches code = true) : ClosedPart scope code .block code
  | arm {tail : Bool} {part : List Statement} {inner : List Instruction}
      (becomes : Becomes scope tail part inner) : ClosedPart scope code .arm inner

namespace ClosedPart

variable {site : Site} {outer : List Instruction}

/-- The arms of a choice in a part are parts too. -/
theorem arms (part : ClosedPart scope code site outer) (h : Becomes scope true body code)
    {first second : List Instruction} (mem : .ifElse first second ∈ outer) :
    ClosedPart scope code .arm first ∧ ClosedPart scope code .arm second := by
  have choice : ∃ tail body outer, Becomes scope tail body outer ∧ .ifElse first second ∈ outer := by
    cases part with
    | body =>
      obtain same | mem | ⟨-, same⟩ := mem_closeBody mem
      · cases same
      · exact ⟨true, body, code, h, mem⟩
      · cases same
    | block => exact ⟨true, body, code, h, mem⟩
    | arm becomes => exact ⟨_, _, outer, becomes, mem⟩
  obtain ⟨_, _, outer, becomes, mem⟩ := choice
  obtain ⟨⟨_, _, onFirst⟩, _, _, onSecond⟩ := becomes.arms mem
  exact ⟨.arm onFirst, .arm onSecond⟩

/-- The only block is the one around the code. -/
theorem mem_block (part : ClosedPart scope code site outer) (h : Becomes scope true body code)
    {label : String} {inner : List Instruction} (mem : .block label inner ∈ outer) :
    inner = code ∧ Wat.anyBranches code = true := by
  cases part with
  | body =>
    obtain same | mem | ⟨branches, same⟩ := mem_closeBody mem
    · cases same
    · exact absurd mem (h.not_mem_block label inner)
    · cases same
      exact ⟨rfl, branches⟩
  | block => exact absurd mem (h.not_mem_block label inner)
  | arm becomes => exact absurd mem (becomes.not_mem_block label inner)

/-- A branch is in an arm. -/
theorem mem_br (part : ClosedPart scope code site outer) (h : Becomes scope true body code)
    {label : String} (mem : .br label ∈ outer) :
    site = .arm ∧ ∃ tail part, Becomes scope tail part outer := by
  cases part with
  | body =>
    obtain same | mem | ⟨-, same⟩ := mem_closeBody mem
    · cases same
    · exact absurd mem (h.not_mem_br label)
    · cases same
  | block => exact absurd mem (h.not_mem_br label)
  | arm becomes => exact ⟨rfl, _, _, becomes⟩

end ClosedPart

/-- **Nothing else is inside a closed body.** -/
theorem closedPart_of_inside (h : Becomes scope true body code) {site : Site}
    {inner : List Instruction} (within : Inside (closeBody code) site inner) :
    ClosedPart scope code site inner := by
  induction within with
  | whole => exact .body
  | consequent around mem ih => exact (ih.arms h mem).1
  | alternate around mem ih => exact (ih.arms h mem).2
  | block around mem ih =>
    obtain ⟨rfl, branches⟩ := ih.mem_block h mem
    exact .block branches

end Closed

/-! ## 7. What the emitter remembers -/

/-- **What is remembered at the end of a body is that there is a branch in it.** -/
theorem exits_iff_branching {statements : List Statement} {emitter after : Emitter}
    (h : (emitStatements true statements).run emitter.atBody = .ok ((), after)) :
    after.exits = true ↔ Branching after.code := by
  rw [run_statements_atBody] at h
  cases lowered : lowerStatements emitter.visible true statements with
  | error error =>
    rw [lowered] at h
    cases h
  | ok code =>
    rw [lowered] at h
    cases h
    exact anyBranches_iff_branching

theorem Inside.of_read {code inner : List Instruction} {name : String} {site : Site}
    (h : Inside (code ++ [.localGet name]) site inner) :
    inner = code ++ [.localGet name] ∨ Inside code site inner := by
  induction h with
  | whole => exact .inl rfl
  | consequent around mem ih =>
    rcases ih with rfl | within
    · exact .inr (.consequent .whole (by simpa using mem))
    · exact .inr (.consequent within mem)
  | alternate around mem ih =>
    rcases ih with rfl | within
    · exact .inr (.alternate .whole (by simpa using mem))
    · exact .inr (.alternate within mem)
  | block around mem ih =>
    rcases ih with rfl | within
    · exact .inr (.block .whole (by simpa using mem))
    · exact .inr (.block within mem)

theorem Blockless.read {code : List Instruction} (h : Blockless code) (name : String) :
    Blockless (code ++ [.localGet name]) := by
  intro site inner label part within mem
  rcases within.of_read with rfl | within
  · exact h .body code label part .whole (by simpa using mem)
  · exact h site inner label part within mem

/-! ## 8. Functions -/

/-- How the body of a function is left, if these are its statements. -/
structure ExitPlaced (scope : Scope) (statements : List Statement) (body : List Instruction) :
    Prop where
  /-- Without branches and the block that they leave, the statements only store results, and then the
      result is read. -/
  stored : ∃ code, storeStatements scope statements = .ok code ∧
    withoutExits body = code ++ [.localGet Wat.resultSlot]
  /-- A branch is the last instruction of an arm, comes directly behind the store of a result, and
      leaves the block around the body. -/
  branch : ∀ site code before label after, Inside body site code →
    code = before ++ .br label :: after → site = .arm ∧ label = Wat.exitLabel ∧ after = [] ∧
      ∃ start, before = start ++ [.localSet Wat.resultSlot]
  /-- The returns that can be run are those that are live. -/
  live : ∀ argument, argument ∈ (liveReturnsOf statements).map LiveReturn.argument ↔
    Live statements (.returnValue argument)
  /-- There is one store of a result for each of them, in the same order, and a branch behind it
      exactly if some condition around the `return` is not the last statement of its list. -/
  returns : resultStores body =
    (liveReturnsOf statements).map fun live => live.enclosing.contains false
  /-- There is a branch exactly if there is such a `return`. -/
  needed : Branching body ↔ ∃ live ∈ liveReturnsOf statements, false ∈ live.enclosing
  /-- Whatever the emitter held before it came to the body: what it remembers when the statements are
      emitted is that there is a branch in the body, and by this it is decided on the block. -/
  remembered : ∀ emitter : Emitter, emitter.visible = scope → ∃ after,
    (emitStatements true statements).run emitter.atBody = .ok ((), after) ∧
    (after.exits = true ↔ Branching body) ∧
    (body = if after.exits then [.block Wat.exitLabel after.code, .localGet Wat.resultSlot]
      else after.code ++ [.localGet Wat.resultSlot]) ∧
    (emitBody statements).run emitter = .ok (body, { after with code := [] })
  /-- If there is a branch, a block with no block in it stands around everything but the last
      instruction. -/
  enclosed : Branching body → ∃ code,
    body = [.block Wat.exitLabel code, .localGet Wat.resultSlot] ∧ Blockless code
  /-- If there is no branch, there is no block. -/
  blockless : ¬ Branching body → Blockless body

theorem branching_closeBody {code : List Instruction} :
    Branching (closeBody code) ↔ Branching code := by
  rw [← anyBranches_iff_branching, ← anyBranches_iff_branching, anyBranches_closeBody]

/-- The emitter comes to the closed body by what it remembers. -/
theorem remembered_of_lowerStatements {scope : Scope} {statements : List Statement}
    {code : List Instruction} (h : lowerStatements scope true statements = .ok code)
    (emitter : Emitter) (sees : emitter.visible = scope) : ∃ after,
    (emitStatements true statements).run emitter.atBody = .ok ((), after) ∧ after.code = code ∧
    (after.exits = true ↔ Branching (closeBody code)) ∧
    (closeBody code = if after.exits then [.block Wat.exitLabel after.code, .localGet Wat.resultSlot]
      else after.code ++ [.localGet Wat.resultSlot]) ∧
    (emitBody statements).run emitter = .ok (closeBody code, { after with code := [] }) := by
  have runs := run_statements_atBody statements emitter
  have closes := run_emitBody statements emitter
  rw [sees, h] at runs closes
  have decided := closes.symm.trans (run_emitBody_of_run runs)
  exact ⟨_, runs, rfl, (exits_iff_branching runs).trans branching_closeBody.symm,
    congrArg Prod.fst (Except.ok.inj decided), closes⟩

/-- **A closed body is left only where a `return` needs it.** -/
theorem exitPlaced_closeBody {scope : Scope} {statements : List Statement} {code : List Instruction}
    (lowered : lowerStatements scope true statements = .ok code)
    (h : Becomes scope true statements code) : ExitPlaced scope statements (closeBody code) := by
  have stores : resultStores code =
      (liveReturnsOf statements).map fun live => live.enclosing.contains false := by
    simpa using h.resultStores
  have remembered := remembered_of_lowerStatements lowered
  -- what is remembered does not depend on the emitter, so a new one with this scope will do
  obtain ⟨after, -, rfl, flag, decided, -⟩ :=
    remembered ⟨.f64, scope.signatures, [], [], scope.slots, [], false⟩ rfl
  refine ⟨⟨_, h.stored, withoutExits_closeBody⟩, ?_, fun _ => mem_liveReturnsOf statements,
    resultStores_closeBody.trans stores, ?_, ?_, ?_, ?_⟩
  · intro site inner before label after within split
    have mem : .br label ∈ inner := by simp [split]
    obtain ⟨isArm, _, _, becomes⟩ := (closedPart_of_inside h within).mem_br h mem
    exact ⟨isArm, becomes.branch_last split⟩
  · rw [branching_closeBody, ← anyBranches_iff_branching, h.anyBranches, stores]
    simp
  · intro emitter sees
    obtain ⟨after, runs, -, flag, decided, closes⟩ := remembered emitter sees
    exact ⟨after, runs, flag, decided, closes⟩
  · intro branching
    rw [if_pos (flag.mpr branching)] at decided
    exact ⟨after.code, decided, h.blockless⟩
  · intro straight
    rw [if_neg fun exits => straight (flag.mp exits)] at decided
    rw [decided]
    exact h.blockless.read _

/-- **In every lowered function the body is left early exactly where it has to be.** -/
theorem exitPlaced_of_lower {width : Wat.FloatWidth} {program : Program} {module : Wat.Module}
    (h : lower width program = .ok module) :
    List.Forall₂ (fun function lowered => ExitPlaced
        (function.scope (program.declarations.map FunctionDeclaration.signature)) function.body
        lowered.body)
      program.declarations module.functions := by
  obtain ⟨_, _, functions, _⟩ := lower_eq_ok h
  refine functions.imp fun function lowered eq => ?_
  obtain ⟨notParam, _, notVar, code, body, rfl⟩ := lowerFunction_eq_ok.mp eq
  refine exitPlaced_closeBody body (becomes_of_lowerStatements ?_ function.body body notVar)
  rw [mem_scope_slots]
  exact not_or.mpr ⟨notParam, notVar⟩

/-- A function with two returns that leave its body early and one at the tail, before a statement that
    is never run. -/
def threeReturns : Program where
  body :=
    [.function "f" ["x"]
      [.variableDeclaration "y" none,
        .ifElse (.var "x") [.returnValue (.var "x")]
          [.ifElse (.var "y") [] [.returnValue (.number Binary64.zero)]],
        .ifElse (.var "x") [.returnValue (.var "y"), .expression (.call "g" [])] []]]

theorem exitPlaced_threeReturns : ∃ function lowered, threeReturns.declarations = [function] ∧
    lower .f32 threeReturns = .ok ⟨.f32, [lowered], []⟩ ∧
    (liveReturnsOf function.body).map LiveReturn.enclosing = [[false], [false, true], [true]] ∧
    ExitPlaced (function.scope [("f", 1)]) function.body lowered.body := by
  obtain ⟨lowered, eq⟩ : ∃ lowered, lower .f32 threeReturns = .ok ⟨.f32, [lowered], []⟩ :=
    ⟨_, (lower_eq ..).trans rfl⟩
  have placed := exitPlaced_of_lower eq
  cases placed with
  | cons placed _ => exact ⟨_, lowered, rfl, eq, rfl, placed⟩

end NumScript
