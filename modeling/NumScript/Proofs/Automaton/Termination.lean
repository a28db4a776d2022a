import Mathlib
import NumScript.Proofs.Automaton.Faults

/-!
# Every run comes to its end

The weight of a stage is counted from the tokens that are not taken yet, the symbols on the stack and
the node in hand, and it falls at every step. So no run goes on for ever: the stages that it goes
through are a finite list, its COURSE, and the result stands at the end of it (`exists_course`). From
one token that is looked at to the next the node in hand plays no part, and what falls is the weight
of the configuration alone (`weight_lt_of_transGen`).

The number of tokens that are left would not do as a measure, because some reductions take none
(`input_of_absorbed_eq_nil`), and the height of the stack would not either. The main statement is
`parse_halts_linearly`.
-/

namespace NumScript.Automaton

namespace Stage

/-! ## 1. Courses -/

/-- The stages of a run, from this one to the one in which it halts with this result. -/
inductive Course : Stage → List Stage → Except ParseError Program → Prop
  | halt {stage : Stage} {result : Except ParseError Program} (halts : stage.step = .halt result) :
      Course stage [stage] result
  | next {stage after : Stage} {stages : List Stage} {result : Except ParseError Program}
      (steps : stage.step = .next after) (more : Course after stages result) :
      Course stage (stage :: stages) result

/-- **Every run has a course**, and it ends with the result of the run. -/
theorem exists_course (stage : Stage) : ∃ stages, stage.Course stages stage.run := by
  fun_induction run stage with
  | case1 stage result halts => exact ⟨[stage], .halt halts⟩
  | case2 stage after steps ih =>
    obtain ⟨stages, course⟩ := ih
    exact ⟨stage :: stages, .next steps course⟩

theorem lookups_of_next {stage after : Stage} (h : stage.step = .next after) :
    stage.lookups = stage.lookup?.toList ++ after.lookups := by
  rw [lookups]
  split
  · rename_i result halts
    rw [h] at halts
    cases halts
  · rename_i next steps
    rw [h] at steps
    cases steps
    rfl

theorem lookups_of_halt {stage : Stage} {result : Except ParseError Program}
    (h : stage.step = .halt result) : stage.lookups = stage.lookup?.toList := by
  rw [lookups]
  split
  · rfl
  · rename_i next steps
    rw [h] at steps
    cases steps

/-- A run looks up what the stages of its course look up. -/
theorem Course.lookups_eq {stage : Stage} {stages : List Stage}
    {result : Except ParseError Program} (h : stage.Course stages result) :
    stage.lookups = stages.filterMap lookup? := by
  rw [List.filterMap_eq_flatMap_toList]
  induction h with
  | halt halts => rw [lookups_of_halt halts, List.flatMap_singleton]
  | next steps more ih => rw [lookups_of_next steps, ih, List.flatMap_cons]

/-! ## 2. What falls, and what does not -/

/-- From a stage on, in one step or more, the weight falls. -/
theorem weight_lt_of_transGen {stage after : Stage}
    (h : Relation.TransGen (fun stage after => stage.step = .next after) stage after) :
    after.weight < stage.weight := by
  induction h with
  | single steps => exact weight_step_lt steps
  | tail _ steps ih => exact (weight_step_lt steps).trans ih

/-- A reduction that takes no token leaves the input as it is. -/
theorem input_of_absorbed_eq_nil {stage after : Stage} {reduction : Reduction}
    (sound : stage.Sound) (steps : stage.step = .next after)
    (reduces : stage.found? = some (.reduce reduction)) (takesNone : reduction.absorbed = []) :
    after.config.input = stage.config.input := by
  -- only the two moves that build a node look up a reduction
  cases moves_of_step sound steps with
  | shift shifts readable =>
    simp only [found?, lookup?, Config.state_eq, Option.bind_some, shifts] at reduces
    cases reduces
  | place shifts =>
    simp only [found?, lookup?, Config.state_eq, Option.bind_some, shifts] at reduces
    cases reduces
  | reduce found handle absorbs =>
    simp only [found?, lookup?, Config.state_eq, Option.bind_some, found] at reduces
    cases reduces
    rw [takesNone] at absorbs
    cases absorbs
    rfl
  | join found handle absorbs =>
    simp only [found?, lookup?, Config.state_eq, Option.bind_some, found] at reduces
    cases reduces
    rw [takesNone] at absorbs
    cases absorbs
    rfl

end Stage

/-! ## 3. Scripts -/

/-- The reductions that build a node from the stack alone, whatever the next token is. -/
def tokenlessReductions : List Reduction :=
  [.term, .unaryExpression, .fullExpression, .exportSpecifier]

/-- The first stage of a script weighs six for each of its tokens. -/
theorem weight_start {scan : Scan} {first : Stage} (h : Stage.start scan = .ok first) :
    first.weight = 6 * scan.tokens.length := by
  rw [Stage.start_eq_ok h]
  rfl

/-- **A script of `n` tokens needs `6 n + 1` look-ups at most.** -/
theorem length_trace_le (source : String) :
    (trace source).length ≤ 6 * (scan source).tokens.length + 1 := by
  unfold trace traceScan
  cases started : Stage.start (scan source) with
  | error error => exact Nat.zero_le _
  | ok first =>
    rw [← weight_start started]
    exact first.length_lookups_le

/-- **The parser halts on every script, after a number of look-ups that is linear in its tokens.**

The weight falls at every step, whether a symbol is put on the stack or a node is built, and between
two tokens that are looked at it is the weight of the unread tokens and the stack; this although some
reductions leave the unread tokens as they are. So the run of a script, if its first character is not
out of place already, has a finite course that ends with the result, and no bound is put on it. -/
theorem parse_halts_linearly :
    (∀ stage after : Stage, stage.step = .next after → after.weight < stage.weight) ∧
    (∀ config config' : Config,
      Relation.TransGen (fun stage after : Stage => stage.step = .next after)
        (.reading config) (.reading config') →
      6 * config'.input.tokens.length + stackWeight config'.stack <
        6 * config.input.tokens.length + stackWeight config.stack) ∧
    (∀ source stage after, Reached source stage → stage.step = .next after →
      ∀ reduction ∈ tokenlessReductions, stage.found? = some (.reduce reduction) →
        after.config.input = stage.config.input) ∧
    ∀ source : String,
      (∀ error, Stage.start (scan source) = .error error →
        parse source = .error error ∧ trace source = []) ∧
      (∀ first, Stage.start (scan source) = .ok first →
        ∃ stages, first.Course stages (parse source) ∧
          trace source = stages.filterMap Stage.lookup?) ∧
      (trace source).length ≤ 6 * (scan source).tokens.length + 1 := by
  refine ⟨fun stage after steps => Stage.weight_step_lt steps,
    fun config config' leads => Stage.weight_lt_of_transGen leads, ?_, ?_⟩
  · intro source stage after reached steps reduction mem reduces
    have takesNone : ∀ reduction ∈ tokenlessReductions, reduction.absorbed = [] := by decide
    exact Stage.input_of_absorbed_eq_nil reached.sound steps reduces (takesNone reduction mem)
  · intro source
    refine ⟨?_, ?_, length_trace_le source⟩
    · intro error stopped
      unfold parse parseScan trace traceScan
      rw [stopped]
      exact ⟨rfl, rfl⟩
    · intro first started
      obtain ⟨stages, course⟩ := first.exists_course
      have parsed : parse source = first.run := by
        unfold parse parseScan
        rw [started]
        rfl
      have traced : trace source = first.lookups := by
        unfold trace traceScan
        rw [started]
      refine ⟨stages, ?_, ?_⟩
      · rw [parsed]
        exact course
      · rw [traced, course.lookups_eq]

set_option maxRecDepth 4096 in
/-- The sum that consists of `a` alone is complete at the semicolon: one entry has become one node, no
    token was taken, and the stage is lighter. The script has two tokens and is read with five
    look-ups. -/
theorem halts_after_single_operand :
    ∃ stage after : Stage, stage.step = .next after ∧ after.weight < stage.weight ∧
      stage.config.input = after.config.input ∧ stage.config.stack.length = 1 ∧
      after.config.stack.length = 0 ∧
      ∃ stages, (Stage.reading ⟨[], scan "a;"⟩).Course stages (.ok ⟨[.expression (.var "a")]⟩) ∧
        stages.filterMap Stage.lookup? = trace "a;" ∧ (trace "a;").length = 5 := by
  have started : Stage.start (scan "a;") = .ok (.reading ⟨[], scan "a;"⟩) := by cbv
  have parsed : parse "a;" = .ok ⟨[.expression (.var "a")]⟩ := by cbv
  have steps : (Stage.reading ⟨[⟨.afterIdentifier, .token (.identifier "a")⟩],
      ⟨[.mark .semicolon], none⟩⟩).step =
      .next (.placing ⟨[], ⟨[.mark .semicolon], none⟩⟩ (.expression (.var "a") true)) := rfl
  obtain ⟨falls, -, -, scripts⟩ := parse_halts_linearly
  obtain ⟨stages, course, traced⟩ := (scripts "a;").2.1 _ started
  rw [parsed] at course
  exact ⟨_, _, steps, falls _ _ steps, rfl, rfl, rfl, stages, course, traced.symm, by cbv⟩

end NumScript.Automaton
