import Mathlib
import NumScript.Parse
import NumScript.Proofs.Automaton.Reachable

/-!
# Why a script is refused

The code of the automaton can fail in many places: a look-up without an entry, a reduction that gets
no node or a wrong one, an empty stack, a symbol that is not what a reduction takes. Most of these
are out of reach, because every stage of a run is sound. What is left are four causes (`Cause`), each
said as a property of the stage in which the run halts (`Fault`):

- `unlisted`: the table has no entry for the next token;
- `unclosed`: the token that has to close a phrase is another one;
- `unopened`: a `}` for which there is no `{`;
- `uncallable`: a call of something that is no name.

The main statement is `refused_by_one_cause`.
-/

namespace NumScript.Automaton

/-! ## 1. Causes -/

/-- Why a script is refused at a token. -/
inductive Cause where
  | unlisted
  | unclosed
  | unopened
  | uncallable

/-- The reductions that a node calls for and that take a token, and the kind of this token. -/
def closings : List (Reduction × Kind) :=
  [(.parenthesized, .mark .rightParen), (.variableDeclaration, .mark .semicolon),
    (.returnStatement, .mark .semicolon)]

/-- A stage in which the script is refused for this cause, and the state and the kind in the error. -/
inductive Fault : Cause → Stage → State → Kind → Prop
  | unlisted {stack : List Entry} {token : Token} {tokens : List Token} {stop : Option ScanError}
      (noEntry : action? (stateOf stack) (tokenKind token) = none) :
      Fault .unlisted (.reading ⟨stack, ⟨token :: tokens, stop⟩⟩) (stateOf stack) (tokenKind token)
  | unclosed {stack : List Entry} {token : Token} {tokens : List Token} {stop : Option ScanError}
      {node : Node} {reduction : Reduction} {closing : Kind}
      (takes : (reduction, closing) ∈ closings)
      (reduces : action? (stateOf stack) node.kind = some (.reduce reduction))
      (other : tokenKind token ≠ closing) :
      Fault .unclosed (.placing ⟨stack, ⟨token :: tokens, stop⟩⟩ node) (stateOf stack)
        (tokenKind token)
  | unfinished {stack : List Entry} {token : Token} {tokens : List Token} {stop : Option ScanError}
      (reduces : action? (stateOf stack) (.mark .rightBrace) = some (.reduce .exportSpecifiers))
      (other : tokenKind token ≠ .mark .semicolon) :
      Fault .unclosed (.reading ⟨stack, ⟨.mark .rightBrace :: token :: tokens, stop⟩⟩)
        (stateOf stack) (tokenKind token)
  | unopened {stack : List Entry} {tokens : List Token} {stop : Option ScanError}
      (first : stateOf stack = .beforeStatement)
      (noBrace : ∀ entry ∈ stack, entry.symbol ≠ .token (.mark .leftBrace))
      (readable : tokens = [] → stop = none) :
      Fault .unopened (.reading ⟨stack, ⟨.mark .rightBrace :: tokens, stop⟩⟩) .beforeStatement
        (.mark .rightBrace)
  | uncallable {more : Bool} {above rest : List Entry} {arguments : List Expression}
      {state : State} {symbol : Symbol} {value : Expression} {tokens : List Token}
      {stop : Option ScanError} (list : Listed argumentList more above arguments)
      (operand : Operand symbol value) (unnamed : ∀ name, value ≠ .var name)
      (readable : tokens = [] → stop = none) :
      Fault .uncallable
        (.reading ⟨above ++ ⟨.beforeArgument, .token (.mark .leftParen)⟩ :: ⟨state, symbol⟩ :: rest,
          ⟨.mark .rightParen :: tokens, stop⟩⟩) (stateOf rest) (expressionKind value)

/-- The cause that the action of a stage points to. -/
def Cause.ofAction : Option Action → Cause
  | none => .unlisted
  | some (.reduce .block) => .unopened
  | some (.reduce .callExpression) => .uncallable
  | _ => .unclosed

/-- The action that a stage finds in the table. -/
def Stage.found? (stage : Stage) : Option Action :=
  stage.lookup?.bind fun lookup => action? lookup.state lookup.kind

/-- A closing parenthesis after arguments calls for the reduction of a call. -/
theorem Listed.action?_rightParen {more : Bool} {above : List Entry} {arguments : List Expression}
    (list : Listed argumentList more above arguments) (rest : List Entry) :
    action? (stateOf (above ++ ⟨.beforeArgument, .token (.mark .leftParen)⟩ :: rest))
      (.mark .rightParen) = some (.reduce .callExpression) :=
  list.action?_append _ _ rfl rfl

theorem Fault.cause_eq {cause : Cause} {stage : Stage} {state : State} {kind : Kind}
    (h : Fault cause stage state kind) : cause = Cause.ofAction stage.found? := by
  cases h with
  | unlisted noEntry =>
    simp only [Stage.found?, Stage.lookup?, Config.state_eq, Option.bind_some, noEntry,
      Cause.ofAction]
  | unclosed takes reduces other =>
    simp only [Stage.found?, Stage.lookup?, Config.state_eq, Option.bind_some, reduces]
    simp only [closings, List.mem_cons, Prod.mk.injEq, List.not_mem_nil, or_false] at takes
    rcases takes with ⟨rfl, -⟩ | ⟨rfl, -⟩ | ⟨rfl, -⟩ <;> rfl
  | unfinished reduces other =>
    simp only [Stage.found?, Stage.lookup?, Config.state_eq, Option.bind_some, tokenKind, reduces,
      Cause.ofAction]
  | unopened first noBrace readable =>
    simp only [Stage.found?, Stage.lookup?, Config.state_eq, Option.bind_some, first]
    rfl
  | uncallable list operand unnamed readable =>
    simp only [Stage.found?, Stage.lookup?, Config.state_eq, Option.bind_some, tokenKind,
      list.action?_rightParen, Cause.ofAction]

/-! ## 2. Tokens that are refused -/

section Refusal

variable {stack : List Entry} {tokens : List Token} {stop : Option ScanError} {state : State}
  {kind : Kind}

/-- Taking a token never refuses it. -/
theorem advance_ne_unexpected (config : Config) :
    Move.advance config ≠ .error (.unexpected state kind) := by
  intro h
  unfold Move.advance at h
  split at h <;> cases h

theorem expect_eq_unexpected_iff {wanted : Kind} {token : Token} :
    Move.expect wanted ⟨stack, ⟨token :: tokens, stop⟩⟩ = .error (.unexpected state kind) ↔
      tokenKind token ≠ wanted ∧ state = stateOf stack ∧ kind = tokenKind token := by
  by_cases same : tokenKind token = wanted
  · rw [expect_cons same]
    exact ⟨fun h => absurd h (advance_ne_unexpected _), fun h => absurd same h.1⟩
  · have refuses : Move.expect wanted ⟨stack, ⟨token :: tokens, stop⟩⟩ =
        .error (.unexpected (stateOf stack) (tokenKind token)) := by
      unfold Move.expect
      simp only [same, if_false, Config.state_eq]
    rw [refuses]
    constructor
    · intro h
      cases h
      exact ⟨same, rfl, rfl⟩
    · intro h
      obtain ⟨-, rfl, rfl⟩ := h
      rfl

theorem expect_nil {wanted : Kind} :
    Move.expect wanted ⟨stack, ⟨[], stop⟩⟩ = .error (.unexpectedEnd (stateOf stack)) := by
  unfold Move.expect
  simp only [Config.state_eq]

/-- One token is taken: it is refused when it is of another kind. -/
theorem absorb_one_eq_unexpected_iff {wanted : Kind} :
    absorb [wanted] ⟨stack, ⟨tokens, stop⟩⟩ = .error (.unexpected state kind) ↔
      ∃ token rest, tokens = token :: rest ∧ tokenKind token ≠ wanted ∧ state = stateOf stack ∧
        kind = tokenKind token := by
  have one : absorb [wanted] ⟨stack, ⟨tokens, stop⟩⟩ =
      (Move.expect wanted ⟨stack, ⟨tokens, stop⟩⟩).map fun after => ((), after.2) := rfl
  rw [one]
  cases tokens with
  | nil =>
    rw [expect_nil]
    constructor
    · intro h
      cases h
    · intro h
      obtain ⟨token, rest, eq, -⟩ := h
      cases eq
  | cons token rest =>
    have error : (Move.expect wanted ⟨stack, ⟨token :: rest, stop⟩⟩).map
        (fun after => ((), after.2)) = .error (.unexpected state kind) ↔
        Move.expect wanted ⟨stack, ⟨token :: rest, stop⟩⟩ = .error (.unexpected state kind) := by
      cases Move.expect wanted ⟨stack, ⟨token :: rest, stop⟩⟩ <;> simp [Except.map]
    rw [error, expect_eq_unexpected_iff]
    constructor
    · intro h
      exact ⟨token, rest, rfl, h⟩
    · intro h
      obtain ⟨token', rest', eq, h⟩ := h
      cases eq
      exact h

/-- A first token of the right kind is taken, and the rest decides. -/
theorem absorb_cons_eq_unexpected_iff {kinds : List Kind} {token : Token} :
    absorb (tokenKind token :: kinds) ⟨stack, ⟨token :: tokens, stop⟩⟩ =
        .error (.unexpected state kind) ↔
      (tokens = [] → stop = none) ∧
        absorb kinds ⟨stack, ⟨tokens, stop⟩⟩ = .error (.unexpected state kind) := by
  have first : absorb (tokenKind token :: kinds) ⟨stack, ⟨token :: tokens, stop⟩⟩ =
      (Move.advance ⟨stack, ⟨token :: tokens, stop⟩⟩ >>= fun after => absorb kinds after.2) := by
    rw [← expect_cons rfl]
    rfl
  rw [first]
  by_cases readable : tokens = [] → stop = none
  · rw [advance_cons readable]
    exact ⟨fun h => ⟨readable, h⟩, fun h => h.2⟩
  · constructor
    · intro h
      cases advanced : Move.advance ⟨stack, ⟨token :: tokens, stop⟩⟩ with
      | error error =>
        rw [advanced] at h
        cases h
        exact absurd advanced (advance_ne_unexpected _)
      | ok after =>
        obtain ⟨readable', eq⟩ := advance_eq_ok advanced
        cases eq
        exact absurd readable' readable
    · intro h
      exact absurd h.1 readable

end Refusal

/-! ## 3. Steps that refuse a symbol -/

/-- A token that calls for a reduction is the first token that the reduction takes, if it takes any. -/
theorem absorbed_of_token {state : State} {token : Token} {reduction : Reduction}
    (reduces : action? state (tokenKind token) = some (.reduce reduction)) :
    reduction.absorbed = [] ∨ reduction.absorbed = [tokenKind token] ∨
      (reduction = .exportSpecifiers ∧ tokenKind token = .mark .rightBrace) := by
  have points := action?_eq_some_iff.1 reduces
  have all : ∀ point ∈ actionPoints (.reduce reduction), ∀ state ∈ point.1, ∀ kind ∈ point.2,
      kind.isToken = true → reduction.absorbed = [] ∨ reduction.absorbed = [kind] ∨
        (reduction = .exportSpecifiers ∧ kind = .mark .rightBrace) := by
    cases reduction <;> decide
  exact points.imp _ all (isToken_tokenKind token)

/-- A reduction that a node calls for takes no token, or the one that closes its phrase. -/
theorem absorbed_of_node {state : State} {node : Node} {reduction : Reduction}
    (reduces : action? state node.kind = some (.reduce reduction)) :
    reduction.absorbed = [] ∨
      ∃ closing, (reduction, closing) ∈ closings ∧ reduction.absorbed = [closing] := by
  have points := action?_eq_some_iff.1 reduces
  have all : ∀ point ∈ actionPoints (.reduce reduction), ∀ state ∈ point.1, ∀ kind ∈ point.2,
      kind.isNode = true → reduction.absorbed = [] ∨
        ∃ pair ∈ closings, reduction = pair.1 ∧ reduction.absorbed = [pair.2] := by
    cases reduction <;> decide
  rcases points.imp _ all node.isNode_kind with none | ⟨⟨_, closing⟩, mem, rfl, absorbed⟩
  · exact .inl none
  · exact .inr ⟨closing, mem, absorbed⟩

namespace Stage

variable {stack : List Entry} {state : State} {kind : Kind}

theorem andThen_eq_error {α : Type} {result : Except ParseError (α × Config)}
    {next : α → Config → Stage} {error : ParseError} :
    andThen result next = .halt (.error error) ↔ result = .error error := by
  cases result with
  | error error' => simp [andThen]
  | ok pair => simp [andThen]

/-- An error of a reduction is one of the tokens it takes, or the misfit it meets. -/
theorem error_of_build {reduction : Reduction} {input : Scan} {error : ParseError} (symbol : Symbol)
    (linked : Linked stack) (fits : Fits (stateOf stack) symbol)
    (reduces : action? (stateOf stack) symbol.kind = some (.reduce reduction))
    (fails : reduction.build symbol.node? ⟨stack, input⟩ = .error error) :
    absorb reduction.absorbed ⟨stack, input⟩ = .error error ∨
      (Misfit reduction stack error ∧ symbol.node? = none ∧
        ∃ left, Absorbs reduction.absorbed input left) := by
  obtain ⟨outcome, closes, found⟩ := closes_of_reduces symbol linked fits reduces
  rw [closes input] at fails
  cases absorbed : absorb reduction.absorbed ⟨stack, input⟩ with
  | error error' =>
    rw [absorbed] at fails
    cases fails
    exact .inl rfl
  | ok after =>
    rw [absorbed] at fails
    rcases found with ⟨node, rest, handle, rfl⟩ | ⟨error', misfit, none, rfl⟩
    · cases fails
    · cases fails
      exact .inr ⟨misfit, none, _, (absorbs_of_absorb absorbed).2⟩

/-- Only the second token of an export can be refused by a reduction that a token calls for. -/
theorem fault_of_absorb {token : Token} {tokens : List Token} {stop : Option ScanError}
    {reduction : Reduction}
    (reduces : action? (stateOf stack) (tokenKind token) = some (.reduce reduction))
    (fails : absorb reduction.absorbed ⟨stack, ⟨token :: tokens, stop⟩⟩ =
      .error (.unexpected state kind)) :
    Fault .unclosed (.reading ⟨stack, ⟨token :: tokens, stop⟩⟩) state kind := by
  rcases absorbed_of_token reduces with none | one | ⟨rfl, brace⟩
  · rw [none] at fails
    cases fails
  · rw [one] at fails
    cases (absorb_cons_eq_unexpected_iff.1 fails).2
  · obtain rfl := Symbol.eq_mark brace
    have second := (absorb_cons_eq_unexpected_iff.1 fails).2
    obtain ⟨token, rest, rfl, other, rfl, rfl⟩ := absorb_one_eq_unexpected_iff.1 second
    exact .unfinished reduces other

/-- A misfit is one of two faults. -/
theorem fault_of_misfit {token : Token} {tokens : List Token} {stop : Option ScanError}
    {left : Scan} {reduction : Reduction}
    (reduces : action? (stateOf stack) (tokenKind token) = some (.reduce reduction))
    (misfit : Misfit reduction stack (.unexpected state kind))
    (absorbs : Absorbs reduction.absorbed ⟨token :: tokens, stop⟩ left) :
    ∃ cause, Fault cause (.reading ⟨stack, ⟨token :: tokens, stop⟩⟩) state kind := by
  have points := action?_eq_some_iff.1 reduces
  cases misfit with
  | unopened body =>
    obtain ⟨first, brace⟩ := points.imp
      (fun state kind => state = .beforeStatement ∧ kind = .mark .rightBrace) (by decide)
    obtain rfl := Symbol.eq_mark brace
    obtain _ | ⟨-, readable, -⟩ := absorbs
    refine ⟨_, .unopened first ?_ readable⟩
    intro entry mem eq
    have noBrace := isTokenOf_statementEntries (.mark .leftBrace) body entry mem
    rw [eq] at noBrace
    cases noBrace
  | uncallable list operand unnamed =>
    have paren := points.imp (fun _ kind => kind = .mark .rightParen) (by decide)
    obtain rfl := Symbol.eq_mark paren
    obtain _ | ⟨-, readable, -⟩ := absorbs
    exact ⟨_, .uncallable list operand unnamed readable⟩

/-- **A step that refuses a symbol has one of the causes.** -/
theorem fault_of_step {stage : Stage} (sound : stage.Sound)
    (h : stage.step = .halt (.error (.unexpected state kind))) :
    ∃ cause, Fault cause stage state kind := by
  rcases stage with ⟨stack, ⟨tokens, stop⟩⟩ | ⟨⟨stack, ⟨tokens, stop⟩⟩, node⟩
  · cases tokens with
    | nil =>
      have finish : Config.finish ⟨stack, ⟨[], stop⟩⟩ = .error (.unexpected state kind) :=
        Step.halt.inj h
      unfold Config.finish at finish
      split at finish <;> cases finish
    | cons token tokens =>
      rw [step_reading] at h
      split at h
      · rename_i noEntry
        cases h
        exact ⟨_, .unlisted noEntry⟩
      · exact absurd (andThen_eq_error.1 h) (advance_ne_unexpected _)
      · rename_i reduction reduces
        rcases error_of_build (.token token) sound (fits_token _ _) reduces (andThen_eq_error.1 h)
          with fails | ⟨misfit, -, left, absorbs⟩
        · exact ⟨_, fault_of_absorb reduces fails⟩
        · exact fault_of_misfit reduces misfit absorbs
  · rw [step_placing] at h
    split at h
    · -- the table always has an entry for a node that was just built
      rename_i noEntry
      have lookup := sound.2.lookup
      rw [noEntry] at lookup
      cases lookup
    · cases h
    · rename_i reduction reduces
      rcases error_of_build (.node node) sound.1 sound.2.fits reduces (andThen_eq_error.1 h)
        with fails | ⟨-, isToken, -⟩
      · rcases absorbed_of_node reduces with none | ⟨closing, takes, absorbed⟩
        · rw [none] at fails
          cases fails
        · rw [absorbed] at fails
          obtain ⟨token, rest, rfl, other, rfl, rfl⟩ := absorb_one_eq_unexpected_iff.1 fails
          exact ⟨_, .unclosed takes reduces other⟩
      · cases isToken

/-- A reduction fails where the tokens it takes are refused. -/
theorem build_eq_error {reduction : Reduction} {input : Scan} {error : ParseError} (symbol : Symbol)
    (linked : Linked stack) (fits : Fits (stateOf stack) symbol)
    (reduces : action? (stateOf stack) symbol.kind = some (.reduce reduction))
    (fails : absorb reduction.absorbed ⟨stack, input⟩ = .error error) :
    reduction.build symbol.node? ⟨stack, input⟩ = .error error := by
  obtain ⟨outcome, closes, -⟩ := closes_of_reduces symbol linked fits reduces
  rw [closes input, fails]
  rfl

/-- A reduction that finds its tokens and meets a misfit reports it. -/
theorem build_of_misfit {reduction : Reduction} {input left : Scan} {error : ParseError}
    (misfit : Misfit reduction stack error) (absorbs : Absorbs reduction.absorbed input left) :
    reduction.build none ⟨stack, input⟩ = .error error := by
  rw [misfit.closes input, absorbs.absorb stack]
  rfl

/-- In a stage with a fault the step refuses a symbol. -/
theorem step_of_fault {stage : Stage} {cause : Cause} (sound : stage.Sound)
    (h : Fault cause stage state kind) : stage.step = .halt (.error (.unexpected state kind)) := by
  cases h with
  | unlisted noEntry => rw [step_reading, noEntry]
  | @unclosed stack token tokens stop node reduction closing takes reduces other =>
    have absorbed : ∀ pair ∈ closings, pair.1.absorbed = [pair.2] := by decide
    rw [step_placing, reduces]
    refine andThen_eq_error.2 (build_eq_error (.node node) sound.1 sound.2.fits reduces ?_)
    rw [absorbed _ takes]
    exact absorb_one_eq_unexpected_iff.2 ⟨token, tokens, rfl, other, rfl, rfl⟩
  | @unfinished stack token tokens stop reduces other =>
    rw [step_reading, show tokenKind (.mark .rightBrace) = .mark .rightBrace from rfl, reduces]
    refine andThen_eq_error.2
      (build_eq_error (.token (.mark .rightBrace)) sound (fits_token _ _) reduces ?_)
    refine absorb_cons_eq_unexpected_iff.2 ⟨fun last => (nomatch last), ?_⟩
    exact absorb_one_eq_unexpected_iff.2 ⟨token, tokens, rfl, other, rfl, rfl⟩
  | @unopened stack tokens stop first noBrace readable =>
    rw [step_reading, first]
    rcases Linked.exists_statementEntries sound first with ⟨body, rfl⟩ | ⟨body, rest, rfl, -⟩
    · exact andThen_eq_error.2 (build_of_misfit (.unopened body) (.cons rfl readable (.nil _)))
    · refine absurd rfl (noBrace ⟨.beforeStatement, .token (.mark .leftBrace)⟩ ?_)
      exact List.mem_append_right _ (List.mem_cons_self ..)
  | @uncallable more above rest arguments state symbol value tokens stop list operand unnamed
      readable =>
    rw [step_reading, show tokenKind (.mark .rightParen) = .mark .rightParen from rfl,
      list.action?_rightParen]
    exact andThen_eq_error.2 (build_of_misfit (.uncallable list operand unnamed)
      (.cons rfl readable (.nil _)))

/-- The configuration of a stage. -/
def config : Stage → Config
  | .reading config => config
  | .placing config _ => config

/-- The symbol that a stage looks at, unless the input has ended. -/
def symbol? : Stage → Option Symbol
  | .reading config => config.input.tokens.head?.map .token
  | .placing _ node => some (.node node)

theorem Sound.linked {stage : Stage} (h : stage.Sound) : Linked stage.config.stack := by
  cases stage with
  | reading config => exact h
  | placing config node => exact h.1

theorem Sound.fits {stage : Stage} {symbol : Symbol} (h : stage.Sound)
    (looks : stage.symbol? = some symbol) : Fits (stateOf stage.config.stack) symbol := by
  cases stage with
  | reading config =>
    obtain ⟨token, -, rfl⟩ := Option.map_eq_some_iff.1 looks
    exact fits_token _ _
  | placing config node =>
    cases looks
    exact h.2.fits

theorem found?_eq {stage : Stage} {symbol : Symbol} (looks : stage.symbol? = some symbol) :
    stage.found? = action? (stateOf stage.config.stack) symbol.kind := by
  rcases stage with ⟨stack, ⟨tokens, stop⟩⟩ | ⟨⟨stack, input⟩, node⟩
  · cases tokens with
    | nil => cases looks
    | cons token tokens =>
      cases looks
      simp only [found?, lookup?, Config.state_eq, Option.bind_some]
      rfl
  · cases looks
    simp only [found?, lookup?, Config.state_eq, Option.bind_some]
    rfl

end Stage

/-! ## 4. The run of a script -/

/-- A stage in the run of a script. -/
def Reached (source : String) (stage : Stage) : Prop :=
  ∃ first, Stage.start (scan source) = .ok first ∧ first.Reaches stage

theorem Reached.sound {source : String} {stage : Stage} (h : Reached source stage) :
    stage.Sound := by
  obtain ⟨first, started, reaches⟩ := h
  obtain rfl := Stage.start_eq_ok started
  exact reaches.sound Linked.nil

/-- An error of the table is an error of a stage that is reached. -/
theorem exists_reached {source : String} {state : State} {kind : Kind}
    (h : parse source = .error (.unexpected state kind)) :
    ∃ stage, Reached source stage ∧ stage.step = .halt (.error (.unexpected state kind)) := by
  unfold parse parseScan at h
  cases started : Stage.start (scan source) with
  | error error =>
    rw [started] at h
    unfold Stage.start at started
    split at started <;> cases started
    cases h
  | ok first =>
    rw [started] at h
    obtain ⟨stage, reaches, halts⟩ := first.exists_halt
    have result : first.run = .error (.unexpected state kind) := h
    exact ⟨stage, ⟨first, started, reaches⟩, result ▸ halts⟩

/-- **Every stack is a path through the table, and a script is refused for one cause.**

In each stage of a run, every entry was put on the stack by a shift from the state under it; the
lowest state, which no entry holds, is the one before a statement. The table has an entry for each
node that was just built. A reduction that is called for finds its handle, and then only a token that
it takes can be refused; or it meets one of the two misfits. So a step refuses a symbol just where
there is a fault, and the script is refused for exactly one of the four causes. -/
theorem refused_by_one_cause (source : String) :
    (∀ stage, Reached source stage →
      (∀ above entry rest, stage.config.stack = above ++ entry :: rest →
        action? (stateOf rest) entry.symbol.kind = some (.shift entry.state)) ∧
      (∀ config node, stage = .placing config node → (action? config.state node.kind).isSome) ∧
      (∀ symbol reduction, stage.symbol? = some symbol → stage.found? = some (.reduce reduction) →
        (∃ node rest, Handle reduction symbol.node? stage.config.stack node rest ∧
          Closes reduction.absorbed (reduction.build symbol.node?) stage.config.stack
            (.ok (node, rest))) ∨
        ∃ error, Misfit reduction stage.config.stack error ∧
          Closes reduction.absorbed (reduction.build symbol.node?) stage.config.stack
            (.error error)) ∧
      ∀ state kind, stage.step = .halt (.error (.unexpected state kind)) ↔
        ∃ cause, Fault cause stage state kind) ∧
    ∀ state kind, parse source = .error (.unexpected state kind) →
      ∃ stage, Reached source stage ∧ stage.step = .halt (.error (.unexpected state kind)) ∧
        ∃! cause, Fault cause stage state kind := by
  constructor
  · intro stage reached
    have sound := reached.sound
    refine ⟨?_, ?_, ?_, fun state kind => ⟨Stage.fault_of_step sound, ?_⟩⟩
    · intro above entry rest eq
      have linked := sound.linked
      rw [eq] at linked
      exact linked.of_append.shift_of_cons
    · rintro config node rfl
      rw [Config.state_eq]
      exact sound.2.lookup
    · intro symbol reduction looks found
      rw [Stage.found?_eq looks] at found
      obtain ⟨outcome, closes, ⟨node, rest, handle, rfl⟩ | ⟨error, misfit, -, rfl⟩⟩ :=
        Stage.closes_of_reduces symbol sound.linked (sound.fits looks) found
      · exact .inl ⟨node, rest, handle, closes⟩
      · exact .inr ⟨error, misfit, closes⟩
    · intro h
      obtain ⟨cause, fault⟩ := h
      exact Stage.step_of_fault sound fault
  · intro state kind refused
    obtain ⟨stage, reached, halts⟩ := exists_reached refused
    obtain ⟨cause, fault⟩ := Stage.fault_of_step reached.sound halts
    refine ⟨stage, reached, halts, cause, fault, ?_⟩
    intro cause' fault'
    rw [fault.cause_eq, fault'.cause_eq]

set_option maxRecDepth 4096 in
/-- The result of a call is no name, so `f(a)(b);` is refused. -/
theorem refused_second_call :
    parse "f(a)(b);" = .error (.unexpected .beforeStatement .callExpression) ∧
      ∃ stage, Reached "f(a)(b);" stage ∧
        stage.step = .halt (.error (.unexpected .beforeStatement .callExpression)) ∧
        ∃! cause, Fault cause stage .beforeStatement .callExpression := by
  have refused : parse "f(a)(b);" = .error (.unexpected .beforeStatement .callExpression) := by cbv
  exact ⟨refused, (refused_by_one_cause "f(a)(b);").2 _ _ refused⟩

end NumScript.Automaton
