import Mathlib.Logic.Relation
import NumScript.Proofs.Automaton.Shape

/-!
# What holds in every stage of a run

From the first stage on the stack is linked, and a node that was just built can be placed (`Sound`).
In such a stage a step is one of four moves (`Moves`): a token or a node is put on the stack, or a
handle is replaced by its node, with a token or with a node as what calls for it. Each move keeps the
stage sound, so every stage of a run is (`Reaches.sound`).
-/

namespace NumScript.Automaton

/-! ## 1. Tokens that are taken -/

/-- Tokens of these kinds stand at the beginning of the input and can be taken; then the other input
    is left. The last token before a character that no lexeme begins with can not. -/
inductive Absorbs : List Kind → Scan → Scan → Prop
  | nil (input : Scan) : Absorbs [] input input
  | cons {kind : Kind} {kinds : List Kind} {token : Token} {tokens : List Token}
      {stop : Option ScanError} {left : Scan} (same : tokenKind token = kind)
      (readable : tokens = [] → stop = none) (rest : Absorbs kinds ⟨tokens, stop⟩ left) :
      Absorbs (kind :: kinds) ⟨token :: tokens, stop⟩ left

theorem Absorbs.absorb {kinds : List Kind} {input left : Scan} (h : Absorbs kinds input left)
    (stack : List Entry) : absorb kinds ⟨stack, input⟩ = .ok ((), ⟨stack, left⟩) := by
  induction h with
  | nil input => rfl
  | @cons kind kinds token tokens stop left same readable rest ih =>
    show (Move.expect kind _ >>= fun after => Automaton.absorb kinds after.2) = _
    rw [expect_cons same, advance_cons readable]
    exact ih

theorem absorbs_of_absorb {kinds : List Kind} {config after : Config}
    (h : absorb kinds config = .ok ((), after)) :
    after.stack = config.stack ∧ Absorbs kinds config.input after.input := by
  induction kinds generalizing config with
  | nil =>
    cases h
    exact ⟨rfl, .nil _⟩
  | cons kind kinds ih =>
    obtain ⟨token, between, first, second⟩ := bind_eq_ok h
    obtain ⟨rfl, advanced⟩ := expect_eq_ok first
    obtain ⟨readable, rfl⟩ := advance_eq_ok advanced
    obtain ⟨same, rest⟩ := ih second
    exact ⟨same, .cons rfl readable rest⟩

/-! ## 2. Moves -/

namespace Stage

/-- The stack is linked, and a node that was just built can be placed. -/
def Sound : Stage → Prop
  | .reading config => Linked config.stack
  | .placing config node => Linked config.stack ∧ Placeable (stateOf config.stack) node

/-- What a step does when it does not fail. -/
inductive Moves : Stage → Stage → Prop
  | shift {stack : List Entry} {token : Token} {tokens : List Token} {stop : Option ScanError}
      {next : State} (shifts : action? (stateOf stack) (tokenKind token) = some (.shift next))
      (readable : tokens = [] → stop = none) :
      Moves (.reading ⟨stack, ⟨token :: tokens, stop⟩⟩)
        (.reading ⟨⟨next, .token token⟩ :: stack, ⟨tokens, stop⟩⟩)
  | place {stack : List Entry} {input : Scan} {node : Node} {next : State}
      (shifts : action? (stateOf stack) node.kind = some (.shift next)) :
      Moves (.placing ⟨stack, input⟩ node) (.reading ⟨⟨next, .node node⟩ :: stack, input⟩)
  | reduce {stack rest : List Entry} {token : Token} {tokens : List Token}
      {stop : Option ScanError} {left : Scan} {reduction : Reduction} {node : Node}
      (reduces : action? (stateOf stack) (tokenKind token) = some (.reduce reduction))
      (handle : Handle reduction none stack node rest)
      (absorbs : Absorbs reduction.absorbed ⟨token :: tokens, stop⟩ left) :
      Moves (.reading ⟨stack, ⟨token :: tokens, stop⟩⟩) (.placing ⟨rest, left⟩ node)
  | join {stack rest : List Entry} {input left : Scan} {reduction : Reduction}
      {incoming node : Node}
      (reduces : action? (stateOf stack) incoming.kind = some (.reduce reduction))
      (handle : Handle reduction (some incoming) stack node rest)
      (absorbs : Absorbs reduction.absorbed input left) :
      Moves (.placing ⟨stack, input⟩ incoming) (.placing ⟨rest, left⟩ node)

/-- A move keeps a stage sound. -/
theorem Moves.sound {stage after : Stage} (h : Moves stage after) (sound : stage.Sound) :
    after.Sound := by
  cases h with
  | shift shifts readable => exact .cons shifts (fits_token _ _) sound
  | place shifts => exact .cons shifts sound.2.fits sound.1
  | reduce reduces handle absorbs => exact ⟨handle.linked sound, handle.placeable⟩
  | join reduces handle absorbs => exact ⟨handle.linked sound.1, handle.placeable⟩

/-- A reduction that finds its handle and its tokens. -/
theorem build_eq_ok {reduction : Reduction} {incoming : Option Node} {stack rest : List Entry}
    {input left : Scan} {node : Node} (handle : Handle reduction incoming stack node rest)
    (linked : Linked stack) (absorbs : Absorbs reduction.absorbed input left) :
    reduction.build incoming ⟨stack, input⟩ = .ok (node, ⟨rest, left⟩) := by
  rw [handle.closes (handle.linked linked) input, absorbs.absorb]
  rfl

/-- A reduction that is called for finds its handle or meets a misfit, and takes its tokens first. -/
theorem closes_of_reduces {reduction : Reduction} {stack : List Entry} (symbol : Symbol)
    (linked : Linked stack) (fits : Fits (stateOf stack) symbol)
    (reduces : action? (stateOf stack) symbol.kind = some (.reduce reduction)) :
    ∃ outcome, Closes reduction.absorbed (reduction.build symbol.node?) stack outcome ∧
      ((∃ node rest, Handle reduction symbol.node? stack node rest ∧ outcome = .ok (node, rest)) ∨
        ∃ error, Misfit reduction stack error ∧ symbol.node? = none ∧ outcome = .error error) := by
  rcases exists_handle linked fits reduces with ⟨node, rest, handle⟩ | ⟨error, misfit, none⟩
  · exact ⟨_, handle.closes (handle.linked linked), .inl ⟨node, rest, handle, rfl⟩⟩
  · rw [none]
    exact ⟨_, misfit.closes, .inr ⟨error, misfit, rfl, rfl⟩⟩

/-- A reduction that succeeds has found its handle and its tokens. -/
theorem handle_of_build {reduction : Reduction} {config after : Config} {node : Node}
    (symbol : Symbol) (linked : Linked config.stack) (fits : Fits (stateOf config.stack) symbol)
    (reduces : action? (stateOf config.stack) symbol.kind = some (.reduce reduction))
    (built : reduction.build symbol.node? config = .ok (node, after)) :
    Handle reduction symbol.node? config.stack node after.stack ∧
      Absorbs reduction.absorbed config.input after.input := by
  obtain ⟨outcome, closes, found⟩ := closes_of_reduces symbol linked fits reduces
  rw [closes config.input] at built
  cases absorbed : absorb reduction.absorbed config with
  | error error =>
    rw [absorbed] at built
    cases built
  | ok between =>
    rw [absorbed] at built
    rcases found with ⟨node', rest, handle, rfl⟩ | ⟨error, misfit, none, rfl⟩
    · cases built
      exact ⟨handle, (absorbs_of_absorb absorbed).2⟩
    · cases built

theorem step_reading (stack : List Entry) (token : Token) (tokens : List Token)
    (stop : Option ScanError) :
    (reading ⟨stack, ⟨token :: tokens, stop⟩⟩).step =
      match action? (stateOf stack) (tokenKind token) with
      | none => .halt (.error (.unexpected (stateOf stack) (tokenKind token)))
      | some (.shift next) =>
        andThen (Move.advance ⟨stack, ⟨token :: tokens, stop⟩⟩) fun token after =>
          .reading (after.push next (.token token))
      | some (.reduce reduction) =>
        andThen (reduction.build none ⟨stack, ⟨token :: tokens, stop⟩⟩) fun node after =>
          .placing after node := by
  have state : Config.state ⟨stack, ⟨token :: tokens, stop⟩⟩ = stateOf stack := Config.state_eq _
  rw [← state]
  rfl

theorem step_placing (stack : List Entry) (input : Scan) (node : Node) :
    (placing ⟨stack, input⟩ node).step =
      match action? (stateOf stack) node.kind with
      | none => .halt (.error (.unexpected (stateOf stack) node.kind))
      | some (.shift next) => .next (.reading ⟨⟨next, .node node⟩ :: stack, input⟩)
      | some (.reduce reduction) =>
        andThen (reduction.build (some node) ⟨stack, input⟩) fun node after =>
          .placing after node := by
  have state : Config.state ⟨stack, input⟩ = stateOf stack := Config.state_eq _
  rw [← state]
  rfl

theorem moves_of_step {stage after : Stage} (sound : stage.Sound) (h : stage.step = .next after) :
    Moves stage after := by
  rcases stage with ⟨stack, ⟨tokens, stop⟩⟩ | ⟨⟨stack, input⟩, incoming⟩
  · cases tokens with
    | nil => cases h
    | cons token tokens =>
      rw [step_reading] at h
      split at h
      · cases h
      · rename_i next shifts
        obtain ⟨token', between, advanced, rfl⟩ := andThen_eq_next h
        obtain ⟨readable, eq⟩ := advance_eq_ok advanced
        cases eq
        exact .shift shifts readable
      · rename_i reduction reduces
        obtain ⟨node, between, built, rfl⟩ := andThen_eq_next h
        obtain ⟨handle, absorbs⟩ :=
          handle_of_build (.token token) sound (fits_token _ _) reduces built
        exact .reduce reduces handle absorbs
  · rw [step_placing] at h
    split at h
    · cases h
    · rename_i next shifts
      cases h
      exact .place shifts
    · rename_i reduction reduces
      obtain ⟨node, between, built, rfl⟩ := andThen_eq_next h
      obtain ⟨handle, absorbs⟩ :=
        handle_of_build (.node incoming) sound.1 sound.2.fits reduces built
      exact .join reduces handle absorbs

theorem Moves.step {stage after : Stage} (h : Moves stage after) (sound : stage.Sound) :
    stage.step = .next after := by
  cases h with
  | shift shifts readable =>
    rw [step_reading, shifts]
    simp only [advance_cons readable]
    rfl
  | place shifts => rw [step_placing, shifts]
  | reduce reduces handle absorbs =>
    rw [step_reading, reduces]
    simp only [build_eq_ok handle sound absorbs]
    rfl
  | join reduces handle absorbs =>
    rw [step_placing, reduces]
    simp only [build_eq_ok handle sound.1 absorbs]
    rfl

/-- **In a sound stage the steps are the moves.** -/
theorem step_eq_next_iff {stage after : Stage} (sound : stage.Sound) :
    stage.step = .next after ↔ Moves stage after :=
  ⟨moves_of_step sound, fun moves => moves.step sound⟩

/-! ## 3. Runs -/

/-- Another stage is reached from a stage, in any number of steps. -/
def Reaches : Stage → Stage → Prop := Relation.ReflTransGen fun stage after => stage.step = .next after

theorem Reaches.refl (stage : Stage) : Reaches stage stage := Relation.ReflTransGen.refl

theorem Reaches.trans {first second third : Stage} (h : Reaches first second)
    (h' : Reaches second third) : Reaches first third := Relation.ReflTransGen.trans h h'

theorem Reaches.of_moves {stage after : Stage} (h : Moves stage after) (sound : stage.Sound) :
    Reaches stage after := Relation.ReflTransGen.single ((step_eq_next_iff sound).2 h)

/-- Every stage that is reached from a sound one is sound. -/
theorem Reaches.sound {first stage : Stage} (h : Reaches first stage) (sound : first.Sound) :
    stage.Sound := by
  induction h with
  | refl => exact sound
  | tail reaches step ih => exact ((step_eq_next_iff ih).1 step).sound ih

theorem run_of_next {stage after : Stage} (h : stage.step = .next after) : stage.run = after.run := by
  rw [run]
  split
  · rename_i result halts
    rw [h] at halts
    cases halts
  · rename_i next steps
    rw [h] at steps
    cases steps
    rfl

theorem run_of_halt {stage : Stage} {result : Except ParseError Program}
    (h : stage.step = .halt result) : stage.run = result := by
  rw [run]
  split
  · rename_i result' halts
    rw [h] at halts
    cases halts
    rfl
  · rename_i next steps
    rw [h] at steps
    cases steps

/-- A run gives the same result from every stage it reaches. -/
theorem Reaches.run_eq {first stage : Stage} (h : Reaches first stage) : first.run = stage.run := by
  induction h with
  | refl => rfl
  | tail reaches step ih => rw [ih, run_of_next step]

/-- Every run reaches a stage in which it halts. -/
theorem exists_halt (stage : Stage) : ∃ last, Reaches stage last ∧ last.step = .halt stage.run := by
  fun_induction run stage with
  | case1 stage result halts => exact ⟨stage, .refl stage, halts⟩
  | case2 stage after steps ih =>
    obtain ⟨last, reaches, halts⟩ := ih
    exact ⟨last, Relation.ReflTransGen.head steps reaches, halts⟩

/-- The first stage for a script. -/
theorem start_eq_ok {scan : Scan} {first : Stage} (h : start scan = .ok first) :
    first = .reading ⟨[], scan⟩ := by
  unfold start at h
  split at h <;> cases h
  rfl

end Stage

end NumScript.Automaton
