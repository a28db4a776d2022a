import NumScript.Automaton.Weight

/-!
# Running the automaton

The automaton goes through STAGES. Either it looks at the next token, or it has just built a node and
looks where that node belongs (`Stage`). In each stage it looks up one entry of the table, and one
step does what the entry says (`Stage.step`).

`Stage.run` repeats the step until it halts; no bound on the number of steps is needed, because the
weight falls at each (`weight_step_lt`). `Stage.lookups` lists the entries that the same run looks up.
The main statement is `length_lookups_le`: a run looks up at most its weight and one more, so the
number of steps is linear in the number of tokens.
-/

namespace NumScript.Automaton

/-! ## 1. Stages and steps -/

/-- What the automaton is about to do. -/
inductive Stage where
  /-- To look at the next token. -/
  | reading (config : Config)
  /-- To place a node that was just built. -/
  | placing (config : Config) (node : Node)

/-- What a step leads to. -/
inductive Step where
  /-- Another stage. -/
  | next (stage : Stage)
  /-- The end of the run. -/
  | halt (result : Except ParseError Program)

/-- A pair that is looked up in the table. -/
structure Lookup where
  /-- The state on the top of the stack. -/
  state : State
  /-- The kind of the symbol. -/
  kind : Kind
deriving DecidableEq

/-- The line that a trace writes for a look-up. -/
def Lookup.line (lookup : Lookup) : String :=
  let found := match action? lookup.state lookup.kind with
    | none => "None"
    | some action => "Some(" ++ action.name ++ ")"
  lookup.state.name ++ " -> " ++ found ++ " (" ++ lookup.kind.shown ++ ")"

/-- The statement that a symbol is, if it is one. -/
def Symbol.statement? : Symbol → Option Statement
  | .node (.statement value) => some value
  | _ => none

/-- The statements on a stack, the lowest first; there are none if anything else lies there. -/
def statements? (stack : List Entry) : Option (List Statement) :=
  stack.reverse.mapM fun entry => entry.symbol.statement?

/-- The program, when the input has ended: there may be nothing but statements on the stack. -/
def Config.finish (config : Config) : Except ParseError Program :=
  match statements? config.stack with
  | some body => .ok ⟨body⟩
  | none => .error (.unexpectedEnd config.state)

namespace Stage

/-- What the stage looks up, unless the input has ended. -/
def lookup? : Stage → Option Lookup
  | .reading config =>
    match config.input.tokens with
    | [] => none
    | token :: _ => some ⟨config.state, tokenKind token⟩
  | .placing config node => some ⟨config.state, node.kind⟩

/-- Goes on with the result of a move. -/
def andThen {α : Type} (result : Except ParseError (α × Config)) (next : α → Config → Stage) : Step :=
  match result with
  | .ok (value, config) => .next (next value config)
  | .error error => .halt (.error error)

/-- One step of the automaton. -/
def step : Stage → Step
  | .reading config =>
    match config.input.tokens with
    | [] => .halt config.finish
    | token :: _ =>
      match action? config.state (tokenKind token) with
      | none => .halt (.error (.unexpected config.state (tokenKind token)))
      | some (.shift next) =>
        andThen (Move.advance config) fun token after => .reading (after.push next (.token token))
      | some (.reduce reduction) =>
        andThen (reduction.build none config) fun node after => .placing after node
  | .placing config node =>
    match action? config.state node.kind with
    | none => .halt (.error (.unexpected config.state node.kind))
    | some (.shift next) => .next (.reading (config.push next (.node node)))
    | some (.reduce reduction) =>
      andThen (reduction.build (some node) config) fun node after => .placing after node

/-! ## 2. The weight falls -/

/-- The weight of a stage: a node that has to be placed weighs one more than it does on the stack. -/
def weight : Stage → Nat
  | .reading config => config.weight
  | .placing config node => config.weight + node.weight + 1

theorem andThen_eq_next {α : Type} {result : Except ParseError (α × Config)}
    {next : α → Config → Stage} {stage : Stage} (h : andThen result next = .next stage) :
    ∃ value config, result = .ok (value, config) ∧ next value config = stage := by
  unfold andThen at h
  split at h
  · cases h
    exact ⟨_, _, rfl, rfl⟩
  · cases h

/-- **Every step loses weight.** -/
theorem weight_step_lt {stage after : Stage} (h : stage.step = .next after) :
    after.weight < stage.weight := by
  cases stage with
  | reading config =>
    simp only [step] at h
    split at h
    · cases h
    · split at h
      · cases h
      · obtain ⟨token, between, eq, rfl⟩ := andThen_eq_next h
        have spent := spends_advance config token between eq
        have light := tokenWeight_le token
        simp only [weight, Config.push, Config.weight, stackWeight, Symbol.weight] at spent ⊢
        omega
      · obtain ⟨node, between, eq, rfl⟩ := andThen_eq_next h
        have built := builds_of_token _ config node between eq
        simp only [weight]
        omega
  | placing config node =>
    simp only [step] at h
    split at h
    · cases h
    · cases h
      simp only [weight, Config.push, Config.weight, stackWeight, Symbol.weight]
      omega
    · obtain ⟨built, between, eq, rfl⟩ := andThen_eq_next h
      have spent := builds_of_node _ node config built between eq
      simp only [weight]
      omega

/-! ## 3. Runs -/

set_option linter.unusedVariables false in
/-- The result of the run from a stage on. -/
def run (stage : Stage) : Except ParseError Program :=
  match h : stage.step with
  | .halt result => result
  | .next after => after.run
termination_by stage.weight
decreasing_by exact weight_step_lt h

set_option linter.unusedVariables false in
/-- What the run from a stage on looks up, in order. -/
def lookups (stage : Stage) : List Lookup :=
  match h : stage.step with
  | .halt _ => stage.lookup?.toList
  | .next after => stage.lookup?.toList ++ after.lookups
termination_by stage.weight
decreasing_by exact weight_step_lt h

/-- The first stage for a script, unless its first character is already out of place. -/
def start (scan : Scan) : Except ParseError Stage :=
  match scan.tokens, scan.stop with
  | [], some error => .error (.scan error)
  | _, _ => .ok (.reading ⟨[], scan⟩)

theorem length_toList_le_one {α : Type} (value : Option α) : value.toList.length ≤ 1 := by
  cases value <;> simp

/-- **A run looks up its weight and one more at most.** -/
theorem length_lookups_le (stage : Stage) : stage.lookups.length ≤ stage.weight + 1 := by
  fun_induction lookups stage with
  | case1 stage result h =>
    have := length_toList_le_one stage.lookup?
    omega
  | case2 stage after h ih =>
    have one := length_toList_le_one stage.lookup?
    have less := weight_step_lt h
    rw [List.length_append]
    omega

end Stage

end NumScript.Automaton
