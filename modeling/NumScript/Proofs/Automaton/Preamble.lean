import Mathlib
import NumScript.Proofs.Automaton.Lookahead

/-!
# Parsing one script after another

When the automaton comes to the end of a program, its stack holds the statements of the program and
nothing else. If another script follows, the run goes on above these statements, and they stay what
they are: the state above them is the first state again, no reduction takes any of them, and the
search for an opening brace, which goes through them, finds none. So the rest of the run is the run of
the second script alone, with the statements at the bottom of each stack and the offsets moved
(`Preamble.step_stage`, `Preamble.run_stage`), in its errors as much as in its success.

With the scan of two scripts this gives `parse_append`.
-/

namespace NumScript.Automaton

/-! ## 1. What stands before a script -/

/-- What stands before a script in a longer one: the statements that are already read, and how many
    bytes they were written with. -/
structure Preamble where
  /-- The statements. -/
  body : List Statement
  /-- The number of bytes. -/
  bytes : Nat

namespace Preamble

/-- The stack of the longer script. -/
def stack (before : Preamble) (above : List Entry) : List Entry :=
  above ++ statementEntries before.body

/-- The configuration of the longer script. -/
def config (before : Preamble) (config : Config) : Config :=
  ⟨before.stack config.stack, config.input.after before.bytes⟩

/-- The stage of the longer script. -/
def stage (before : Preamble) : Stage → Stage
  | .reading config => .reading (before.config config)
  | .placing config node => .placing (before.config config) node

/-- The error of the longer script. -/
def error (before : Preamble) : ParseError → ParseError
  | .scan error => .scan (error.after before.bytes)
  | .unexpected state kind => .unexpected state kind
  | .unexpectedEnd state => .unexpectedEnd state

/-- The result of the longer script. -/
def result (before : Preamble) : Except ParseError Program → Except ParseError Program
  | .ok program => .ok ⟨before.body ++ program.body⟩
  | .error error => .error (before.error error)

/-- What a move leads to in the longer script. -/
def outcome {α : Type} (before : Preamble) :
    Except ParseError (α × Config) → Except ParseError (α × Config)
  | .ok (value, config) => .ok (value, before.config config)
  | .error error => .error (before.error error)

/-- What a reduction builds and leaves in the longer script. -/
def built (before : Preamble) :
    Except ParseError (Node × List Entry) → Except ParseError (Node × List Entry)
  | .ok (node, rest) => .ok (node, before.stack rest)
  | .error error => .error (before.error error)

/-- What a step leads to in the longer script. -/
def step (before : Preamble) : Step → Step
  | .next stage => .next (before.stage stage)
  | .halt result => .halt (before.result result)

/-! ## 2. The stack -/

variable (before : Preamble)

theorem stateOf_stack (above : List Entry) : stateOf (before.stack above) = stateOf above := by
  cases above with
  | nil =>
    unfold stack statementEntries
    cases before.body.reverse <;> rfl
  | cons entry above => rfl

theorem linked_statements (statements : List Statement) :
    Linked (statements.map fun statement => ⟨.beforeStatement, .node (.statement statement)⟩) := by
  induction statements with
  | nil => exact .nil
  | cons statement statements ih =>
    have under : stateOf (statements.map fun statement =>
        ⟨.beforeStatement, .node (.statement statement)⟩) = .beforeStatement := by
      cases statements <;> rfl
    have shifts : action? .beforeStatement (statementKind statement) =
        some (.shift .beforeStatement) := by
      cases statement <;> rfl
    refine .cons ?_ ?_ ih
    · rw [under]
      exact shifts
    · rw [under]
      exact (Placeable.statement statement).fits

theorem linked_stack {above : List Entry} (linked : Linked above) : Linked (before.stack above) := by
  induction linked with
  | nil => exact linked_statements before.body.reverse
  | @cons entry rest shift fits linked ih =>
    rw [← before.stateOf_stack rest] at shift fits
    exact .cons shift fits ih

/-- A handle lies above the statements. -/
theorem handle_stack {reduction : Reduction} {incoming : Option Node} {above rest : List Entry}
    {node : Node} (h : Handle reduction incoming above node rest) :
    Handle reduction incoming (before.stack above) node (before.stack rest) := by
  have same := before.stateOf_stack rest
  cases h with
  | term onLeft multiplicative onRight after under =>
    exact .term onLeft multiplicative onRight after (same ▸ under)
  | fullExpression sum under =>
    rw [stack, List.append_assoc]
    exact .fullExpression sum (same ▸ under)
  | parenthesized operand under => exact .parenthesized operand (same ▸ under)
  | unaryExpression on additive under => exact .unaryExpression on additive (same ▸ under)
  | callExpression list named after under =>
    rw [stack, List.append_assoc]
    exact .callExpression list named after (same ▸ under)
  | assignmentExpression named under => exact .assignmentExpression named (same ▸ under)
  | expressionStatement under => exact .expressionStatement (same ▸ under)
  | variableDeclaration under => exact .variableDeclaration (same ▸ under)
  | initialized under => exact .initialized (same ▸ under)
  | params list under =>
    rw [stack, List.append_assoc]
    exact .params list (same ▸ under)
  | functionDeclaration under => exact .functionDeclaration (same ▸ under)
  | test onLeft relational onRight under => exact .test onLeft relational onRight (same ▸ under)
  | ifStatement under => exact .ifStatement (same ▸ under)
  | returnStatement under => exact .returnStatement (same ▸ under)
  | block under =>
    rw [stack, List.append_assoc]
    exact .block (same ▸ under)
  | exportSpecifier under => exact .exportSpecifier (same ▸ under)
  | renamed under => exact .renamed (same ▸ under)
  | exportSpecifiers list under =>
    rw [stack, List.append_assoc]
    exact .exportSpecifiers list (same ▸ under)
  | exportFunction under => exact .exportFunction (same ▸ under)
  | exportList under => exact .exportList (same ▸ under)

/-- So does a misfit: the search for a brace goes through the statements in vain. -/
theorem misfit_stack {reduction : Reduction} {above : List Entry} {error : ParseError}
    (h : Misfit reduction above error) :
    Misfit reduction (before.stack above) (before.error error) := by
  cases h with
  | unopened body =>
    have entries : before.stack (statementEntries body) = statementEntries (before.body ++ body) := by
      simp [stack, statementEntries]
    rw [entries]
    exact .unopened (before.body ++ body)
  | @uncallable more above arguments symbol value state rest list operand unnamed =>
    rw [error, ← before.stateOf_stack rest, stack, List.append_assoc]
    exact .uncallable list operand unnamed

/-! ## 3. Moves that take tokens -/

theorem state_config (config : Config) : (before.config config).state = config.state := by
  rw [Config.state_eq, Config.state_eq]
  exact before.stateOf_stack config.stack

theorem advance_config (config : Config) :
    Move.advance (before.config config) = before.outcome (Move.advance config) := by
  have state := before.state_config config
  obtain ⟨above, ⟨tokens, stop⟩⟩ := config
  cases tokens with
  | nil =>
    show Except.error (ParseError.unexpectedEnd (before.config _).state) = _
    rw [state]
    rfl
  | cons token tokens =>
    cases tokens with
    | nil => cases stop <;> rfl
    | cons next tokens => rfl

theorem expect_config (kind : Kind) (config : Config) :
    Move.expect kind (before.config config) = before.outcome (Move.expect kind config) := by
  obtain ⟨above, ⟨tokens, stop⟩⟩ := config
  have state := before.stateOf_stack above
  cases tokens with
  | nil =>
    have ended : Move.expect kind (before.config ⟨above, ⟨[], stop⟩⟩) =
        .error (.unexpectedEnd (stateOf (before.stack above))) := expect_nil
    rw [ended, state, expect_nil]
    rfl
  | cons token tokens =>
    by_cases same : tokenKind token = kind
    · rw [expect_cons same, ← advance_config]
      exact expect_cons same
    · have refused : Move.expect kind (before.config ⟨above, ⟨token :: tokens, stop⟩⟩) =
          .error (.unexpected (stateOf (before.stack above)) (tokenKind token)) :=
        expect_eq_unexpected_iff.2 ⟨same, rfl, rfl⟩
      rw [refused, state, expect_eq_unexpected_iff.2 ⟨same, rfl, rfl⟩]
      rfl

theorem absorb_config (kinds : List Kind) (config : Config) :
    absorb kinds (before.config config) = before.outcome (absorb kinds config) := by
  induction kinds generalizing config with
  | nil => rfl
  | cons kind kinds ih =>
    show (Move.expect kind (before.config config) >>= fun after => absorb kinds after.2) =
      before.outcome (Move.expect kind config >>= fun after => absorb kinds after.2)
    rw [expect_config]
    cases Move.expect kind config with
    | error error => rfl
    | ok after => exact ih after.2

/-! ## 4. Steps and runs -/

/-- A reduction that is called for does the same above the statements. -/
theorem build_config {reduction : Reduction} {config : Config} (symbol : Symbol)
    (linked : Linked config.stack) (fits : Fits (stateOf config.stack) symbol)
    (reduces : action? (stateOf config.stack) symbol.kind = some (.reduce reduction)) :
    reduction.build symbol.node? (before.config config) =
      before.outcome (reduction.build symbol.node? config) := by
  obtain ⟨outcome, closes, found⟩ := Stage.closes_of_reduces symbol linked fits reduces
  have closes' : Closes reduction.absorbed (reduction.build symbol.node?)
      (before.stack config.stack) (before.built outcome) := by
    rcases found with ⟨node, rest, handle, rfl⟩ | ⟨error, misfit, none, rfl⟩
    · exact (before.handle_stack handle).closes (before.linked_stack (handle.linked linked))
    · rw [none]
      exact (before.misfit_stack misfit).closes
  have absorbs : absorb reduction.absorbed
      ⟨before.stack config.stack, config.input.after before.bytes⟩ = _ :=
    before.absorb_config reduction.absorbed config
  refine (closes' (config.input.after before.bytes)).trans ?_
  rw [absorbs, closes config.input]
  cases absorb reduction.absorbed config with
  | error error => rfl
  | ok after => cases outcome <;> rfl

theorem statements?_stack (above : List Entry) :
    statements? (before.stack above) = (statements? above).map (before.body ++ ·) := by
  have below := statements?_statementEntries before.body
  unfold statements? at below ⊢
  rw [stack, List.reverse_append, List.mapM_append, below]
  cases above.reverse.mapM fun entry => entry.symbol.statement? <;> rfl

theorem finish_config (config : Config) :
    (before.config config).finish = before.result config.finish := by
  unfold Config.finish
  rw [state_config, show (before.config config).stack = before.stack config.stack from rfl,
    statements?_stack]
  cases statements? config.stack <;> rfl

theorem andThen_outcome {α : Type} {next : α → Config → Stage}
    {result result' : Except ParseError (α × Config)} (eq : result' = before.outcome result)
    (same : ∀ value config, next value (before.config config) = before.stage (next value config)) :
    Stage.andThen result' next = before.step (Stage.andThen result next) := by
  subst eq
  cases result with
  | error error => rfl
  | ok pair => exact congrArg Step.next (same _ _)

/-- **A step above the statements does what it does without them.** -/
theorem step_stage {stage : Stage} (sound : stage.Sound) :
    (before.stage stage).step = before.step stage.step := by
  rcases stage with ⟨above, ⟨tokens, stop⟩⟩ | ⟨⟨above, input⟩, node⟩
  · cases tokens with
    | nil => exact congrArg Step.halt (before.finish_config ⟨above, ⟨[], stop⟩⟩)
    | cons token tokens =>
      have step : (before.stage (.reading ⟨above, ⟨token :: tokens, stop⟩⟩)).step = _ :=
        Stage.step_reading (before.stack above) token tokens (stop.map (.after before.bytes))
      rw [step, Stage.step_reading, stateOf_stack]
      split
      · rfl
      · exact before.andThen_outcome (before.advance_config ⟨above, ⟨token :: tokens, stop⟩⟩)
          fun _ _ => rfl
      · rename_i reduction reduces
        exact before.andThen_outcome
          (before.build_config (.token token) sound (fits_token _ _) reduces) fun _ _ => rfl
  · have step : (before.stage (.placing ⟨above, input⟩ node)).step = _ :=
      Stage.step_placing (before.stack above) (input.after before.bytes) node
    rw [step, Stage.step_placing, stateOf_stack]
    split
    · rfl
    · rfl
    · rename_i reduction reduces
      exact before.andThen_outcome
        (before.build_config (.node node) sound.1 sound.2.fits reduces) fun _ _ => rfl

/-- **A run above the statements does what it does without them.** -/
theorem run_stage {stage : Stage} (sound : stage.Sound) :
    (before.stage stage).run = before.result stage.run := by
  fun_induction Stage.run stage with
  | case1 stage result halts =>
    refine Stage.run_of_halt ?_
    rw [before.step_stage sound, halts]
    rfl
  | case2 stage after steps ih =>
    have steps' : (before.stage stage).step = .next (before.stage after) := by
      rw [before.step_stage sound, steps]
      rfl
    rw [Stage.run_of_next steps', ih ((Stage.moves_of_step sound steps).sound sound)]

end Preamble

/-! ## 5. Two scripts -/

theorem getLast?_block {body : List Statement} {words : List Token}
    (h : Derives (.block body) words) : words.getLast? = some (.mark .rightBrace) := by
  cases h with
  | block each => exact List.getLast?_concat

theorem getLast?_function {declaration : FunctionDeclaration} {words : List Token}
    (h : Derives (.function declaration) words) : words.getLast? = some (.mark .rightBrace) := by
  cases h with
  | function list block => simp [List.getLast?_append, List.getLast?_cons, getLast?_block block]

/-- A statement ends with a semicolon or with a closing brace. -/
theorem exists_getLast?_statement {statement : Statement} {words : List Token}
    (h : Derives (.statement statement) words) :
    ∃ token, words.getLast? = some token ∧ token.Closing := by
  cases h with
  | declaration function => exact ⟨_, getLast?_function function, .inr rfl⟩
  | uninitialized name => exact ⟨_, rfl, .inl rfl⟩
  | initialized init => exact ⟨_, List.getLast?_concat, .inl rfl⟩
  | evaluation inner => exact ⟨_, List.getLast?_concat, .inl rfl⟩
  | assignment named inner => exact ⟨_, List.getLast?_concat, .inl rfl⟩
  | choice onLeft relational onRight first second =>
    refine ⟨.mark .rightBrace, ?_, .inr rfl⟩
    simp [List.getLast?_append, List.getLast?_cons, getLast?_block second]
  | result inner => exact ⟨_, List.getLast?_concat, .inl rfl⟩
  | exportFunction function =>
    refine ⟨.mark .rightBrace, ?_, .inr rfl⟩
    simp [List.getLast?_cons, getLast?_function function]
  | exportList each list => exact ⟨_, List.getLast?_append, .inl rfl⟩

/-- The last token of a program closes a statement. -/
theorem closing_of_derivedFrom {program : Program} {tokens : List Token}
    (h : program.DerivedFrom tokens) : ∀ token ∈ tokens.getLast?, token.Closing := by
  obtain ⟨each⟩ := h
  rename_i statements
  induction statements with
  | nil =>
    intro token last
    cases last
  | cons statement statements ih =>
    intro token last
    rw [List.map_cons, List.flatten_cons, Option.mem_def, List.getLast?_append,
      Option.or_eq_some_iff] at last
    rcases last with later | ⟨-, here⟩
    · exact ih (fun statement mem => each statement (List.mem_cons_of_mem _ mem)) token later
    · obtain ⟨token', last, closing⟩ :=
        exists_getLast?_statement (each statement List.mem_cons_self)
      cases last.symm.trans here
      exact closing

theorem readable_after {input : Scan} (readable : input.Readable) (bytes : Nat) :
    (input.after bytes).Readable := by
  intro last
  rw [Scan.after, readable last]
  rfl

/-- **The tokens of a program and then other input**: the run goes on above the program. -/
theorem parseScan_append {program : Program} {tokens : List Token}
    (h : parseScan ⟨tokens, none⟩ = .ok program) (bytes : Nat) (more : Scan) :
    parseScan (.append tokens (more.after bytes)) =
      (Preamble.mk program.body bytes).result (parseScan more) := by
  by_cases readable : more.Readable
  · have readable' := readable_after readable bytes
    have reaches : (Stage.reading ⟨[], .append tokens (more.after bytes)⟩).Reaches
        ((Preamble.mk program.body bytes).stage (.reading ⟨[], more⟩)) :=
      (reaches_of_derivedFrom (derivedFrom_of_parseScan h)).followedBy Linked.nil (fun _ => rfl)
        fun _ => readable'
    rw [parseScan_of_readable (Scan.readable_append (fun _ => rfl) fun _ => readable'),
      reaches.run_eq, parseScan_of_readable readable]
    exact Preamble.run_stage _ Linked.nil
  · -- the first character of the other input is out of place
    obtain ⟨error, rfl⟩ := eq_of_not_readable readable
    cases parsed : parseScan (.append tokens (Scan.after bytes ⟨[], some error⟩)) with
    | ok program' => cases (ended_of_parseScan parsed).1
    | error error' =>
      have explains := explains_of_parseScan parsed
      cases explains with
      | scan => rfl
      | unexpected state kind =>
        -- then the program itself would have been refused
        have refused := @parseScan_append_of_unexpected _ ⟨[], none⟩ _ _ parsed nofun
        have alone : Scan.append (Scan.append tokens (Scan.after bytes ⟨[], some error⟩)).tokens
            ⟨[], none⟩ = ⟨tokens, none⟩ := by
          simp [Scan.append, Scan.after]
        rw [alone, h] at refused
        cases refused

end NumScript.Automaton

namespace NumScript

open Automaton

/-- **Scripts are parsed one after the other.** A script that follows a program directly, with nothing
    between them, is parsed as if it stood alone: its statements come after those of the program, the
    character that stops it is further on by the length of the program in bytes, and all its other
    errors are the same. -/
theorem parse_append (first second : String) (program : Program)
    (h : parse first = .ok program) :
    (∀ more, parse second = .ok more →
      parse (first ++ second) = .ok ⟨program.body ++ more.body⟩) ∧
    (∀ offset character, parse second = .error (.scan ⟨offset, character⟩) →
      parse (first ++ second) = .error (.scan ⟨first.utf8ByteSize + offset, character⟩)) ∧
    (∀ state kind, parse second = .error (.unexpected state kind) →
      parse (first ++ second) = .error (.unexpected state kind)) ∧
    ∀ state, parse second = .error (.unexpectedEnd state) →
      parse (first ++ second) = .error (.unexpectedEnd state) := by
  have scanned : scan first = ⟨(scan first).tokens, none⟩ := by rw [← (ended_of_parseScan h).1]
  have parsed : parseScan ⟨(scan first).tokens, none⟩ = .ok program := scanned ▸ h
  have closing := closing_of_derivedFrom (derivedFrom_of_parseScan parsed)
  have whole : parse (first ++ second) =
      (Preamble.mk program.body first.utf8ByteSize).result (parse second) := by
    rw [parse, scan_append scanned closing, parseScan_append parsed, parse]
  refine ⟨?_, ?_, ?_, ?_⟩
  · intro more parsed'
    rw [whole, parsed']
    rfl
  · intro offset character refused
    rw [whole, refused]
    rfl
  · intro state kind refused
    rw [whole, refused]
    rfl
  · intro state refused
    rw [whole, refused]
    rfl

set_option maxRecDepth 8192 in
/-- A call of seven bytes, the first two of which are a blank, and what may follow it: another call, a
    character that is out of place, a brace that closes nothing, and a declaration that breaks off. -/
theorem parse_call_append :
    parse "\u00a0f(a);" = .ok ⟨[.expression (.call "f" [.var "a"])]⟩ ∧
    parse ("\u00a0f(a);" ++ "g(b);") =
      .ok ⟨[.expression (.call "f" [.var "a"]), .expression (.call "g" [.var "b"])]⟩ ∧
    parse ("\u00a0f(a);" ++ "é") = .error (.scan ⟨7, 'é'⟩) ∧
    parse ("\u00a0f(a);" ++ "\x7d") = .error (.unexpected .beforeStatement (.mark .rightBrace)) ∧
    parse ("\u00a0f(a);" ++ "var b") = .error (.unexpectedEnd .afterVariableName) := by
  have first : parse "\u00a0f(a);" = .ok ⟨[.expression (.call "f" [.var "a"])]⟩ := by cbv
  have second : parse "g(b);" = .ok ⟨[.expression (.call "g" [.var "b"])]⟩ := by cbv
  have stopped : parse "é" = .error (.scan ⟨0, 'é'⟩) := by cbv
  have refused : parse "\x7d" = .error (.unexpected .beforeStatement (.mark .rightBrace)) := by cbv
  have ended : parse "var b" = .error (.unexpectedEnd .afterVariableName) := by cbv
  exact ⟨first, (parse_append _ _ _ first).1 _ second, (parse_append _ _ _ first).2.1 _ _ stopped,
    (parse_append _ _ _ first).2.2.1 _ _ refused, (parse_append _ _ _ first).2.2.2 _ ended⟩

end NumScript
