import NumScript.Proofs.Lowering.WellFormed

/-!
# The slots of a function

A lowered function has the parameters of its declaration, and one local for each variable of its body
that is no parameter. Which locals these are, and in which order they stand, is said here from the
text of the body alone: its statements are listed in the order of the text, those in the blocks of a
condition behind it and those behind a `return` like all others (`statementsIn`), and of the
declarations among them each name is taken where it comes first.

The main statement is `slotsPlaced_of_lower`.
-/

namespace NumScript

/-! ## 1. The statements of a body in order -/

mutual
/-- A statement, and behind it the statements in its blocks. -/
def Statement.listed : Statement → List Statement
  | .ifElse test consequent alternate =>
    .ifElse test consequent alternate :: (statementsIn consequent ++ statementsIn alternate)
  | statement => [statement]

/-- The statements of a body and of all blocks in it, in the order of the text. -/
def statementsIn : List Statement → List Statement
  | [] => []
  | statement :: rest => statement.listed ++ statementsIn rest
end

/-- The variable that a statement declares itself, if it is a declaration. -/
def Statement.variable? : Statement → Option String
  | .variableDeclaration name _ => some name
  | _ => none

/-- The variables of a body in the order of the text, one for each declaration. -/
def variablesIn (body : List Statement) : List String :=
  (statementsIn body).filterMap Statement.variable?

mutual
theorem filterMap_listed : ∀ statement : Statement,
    statement.listed.filterMap Statement.variable? = statement.varNames
  | .ifElse test consequent alternate => by
    have first := variablesIn_eq_varNamesOf consequent
    have second := variablesIn_eq_varNamesOf alternate
    rw [variablesIn] at first second
    rw [Statement.listed, List.filterMap_cons_none rfl, List.filterMap_append, first, second,
      Statement.varNames]
  | .function _ _ _ | .variableDeclaration _ _ | .expression _ | .returnValue _
  | .exportFunction _ _ _ | .exportSpecifiers _ => by
    simp [Statement.listed, Statement.variable?, Statement.varNames]

/-- **The variables are collected in the order of the text.** -/
theorem variablesIn_eq_varNamesOf : ∀ body : List Statement, variablesIn body = varNamesOf body
  | [] => by rw [variablesIn, statementsIn, varNamesOf, List.filterMap_nil]
  | statement :: rest => by
    have later := variablesIn_eq_varNamesOf rest
    rw [variablesIn] at later
    rw [variablesIn, statementsIn, List.filterMap_append, filterMap_listed statement, later,
      varNamesOf]
end

/-! ## 2. Each name where it comes first -/

/-- Names that are not kept can be left out before or after. -/
theorem firstOccurrences_filter (keep : String → Bool) : ∀ names : List String,
    firstOccurrences (names.filter keep) = (firstOccurrences names).filter keep
  | [] => rfl
  | first :: rest => by
    have ih := firstOccurrences_filter keep rest
    by_cases kept : keep first = true
    · rw [List.filter_cons_of_pos kept, firstOccurrences, firstOccurrences, ih,
        List.filter_cons_of_pos kept, List.filter_filter, List.filter_filter]
      simp only [Bool.and_comm]
    · rw [List.filter_cons_of_neg kept, ih, firstOccurrences, List.filter_cons_of_neg kept,
        List.filter_filter]
      refine List.filter_congr fun name _ => ?_
      by_cases same : name = first
      · simp [same, kept]
      · simp [same]

theorem firstOccurrences_eq_eraseDups (names : List String) :
    firstOccurrences names = names.eraseDups := by
  -- the length goes down, not the list itself: what is left of its tail is filtered
  generalize length : names.length = n
  induction n using Nat.strongRecOn generalizing names with
  | ind n ih =>
    cases names with
    | nil => rfl
    | cons first rest =>
      have shorter : (rest.filter (· != first)).length < n := by
        have le := List.length_filter_le (· != first) rest
        rw [← length, List.length_cons]
        omega
      rw [firstOccurrences, List.eraseDups_cons, ← firstOccurrences_filter]
      exact congrArg (first :: ·) (ih _ shorter _ rfl)

/-- The names stand in the order in which they come first. -/
theorem pairwise_firstOccurrences : ∀ names : List String,
    (firstOccurrences names).Pairwise fun one other => names.idxOf one < names.idxOf other
  | [] => .nil
  | first :: rest => by
    have ih := pairwise_firstOccurrences rest
    rw [firstOccurrences, List.pairwise_cons]
    have later : ∀ name ∈ (firstOccurrences rest).filter (· != first),
        (first :: rest).idxOf name = rest.idxOf name + 1 := by
      intro name mem
      have other : name ≠ first := by simpa using (List.mem_filter.mp mem).2
      exact List.idxOf_cons_ne rest other.symm
    constructor
    · intro name mem
      rw [List.idxOf_cons_self, later name mem]
      exact Nat.succ_pos _
    · refine List.Pairwise.imp_of_mem ?_ (ih.filter _)
      intro one other inOne inOther before
      rw [later one inOne, later other inOther]
      exact Nat.succ_lt_succ before

/-! ## 3. Functions -/

/-- The slots of a lowered function, as its declaration says them. -/
structure SlotsPlaced (function : FunctionDeclaration) (lowered : Wat.Function) : Prop where
  /-- The parameters are kept in order. -/
  params : lowered.params = function.params
  /-- The locals are the variables in the order of the text, without parameters and repetitions. -/
  locals : lowered.locals =
    ((variablesIn function.body).filter fun name => name ∉ function.params).eraseDups
  /-- They are all the variables that the body declares anywhere and that are no parameters. -/
  declared : ∀ name, name ∈ lowered.locals ↔
    Declares function.body name ∧ name ∉ function.params
  /-- Of two locals the one stands before the other that is declared before it. -/
  order : lowered.locals.Pairwise fun one other =>
    (variablesIn function.body).idxOf one < (variablesIn function.body).idxOf other

theorem locals_eq_eraseDups (function : FunctionDeclaration) : function.locals =
    ((variablesIn function.body).filter fun name => name ∉ function.params).eraseDups := by
  have keep : (fun name => !function.params.contains name) =
      fun name => decide (name ∉ function.params) := by
    funext name
    simp
  rw [FunctionDeclaration.locals, keep, ← firstOccurrences_filter, firstOccurrences_eq_eraseDups,
    variablesIn_eq_varNamesOf]

/-- **In every lowered function the slots are exactly the parameters and the distinct variables.** -/
theorem slotsPlaced_of_lower {width : Wat.FloatWidth} {program : Program} {module : Wat.Module}
    (h : lower width program = .ok module) :
    List.Forall₂ SlotsPlaced program.declarations module.functions := by
  obtain ⟨_, _, functions, _⟩ := lower_eq_ok h
  refine functions.imp fun function lowered eq => ?_
  obtain ⟨_, _, _, code, _, rfl⟩ := lowerFunction_eq_ok.mp eq
  refine ⟨rfl, locals_eq_eraseDups function, ?_, ?_⟩
  · intro name
    rw [mem_locals, mem_varNamesOf_iff_declares]
  · have ordered := pairwise_firstOccurrences (varNamesOf function.body)
    rw [variablesIn_eq_varNamesOf]
    exact ordered.filter _

/-- A function that declares `a` twice, its parameter once more, and `d` where it is never run. -/
def scatteredVariables : Program where
  body :=
    [.function "f" ["n"]
      [.variableDeclaration "a" (some (.var "n")),
        .ifElse (.var "d")
          [.variableDeclaration "b" none, .variableDeclaration "a" none, .returnValue (.var "a"),
            .variableDeclaration "d" none]
          [.variableDeclaration "n" (some (.var "c")), .variableDeclaration "c" none]]]

theorem slotsPlaced_scatteredVariables : ∃ function lowered,
    scatteredVariables.declarations = [function] ∧
    lower .f64 scatteredVariables = .ok ⟨.f64, [lowered], []⟩ ∧
    variablesIn function.body = ["a", "b", "a", "d", "n", "c"] ∧
    lowered.locals = ["a", "b", "d", "c"] ∧ SlotsPlaced function lowered := by
  obtain ⟨lowered, eq, locals⟩ : ∃ lowered,
      lower .f64 scatteredVariables = .ok ⟨.f64, [lowered], []⟩ ∧
      lowered.locals = ["a", "b", "d", "c"] := ⟨_, (lower_eq ..).trans rfl, rfl⟩
  have placed := slotsPlaced_of_lower eq
  cases placed with
  | cons placed _ => exact ⟨_, lowered, rfl, eq, rfl, locals, placed⟩

end NumScript
