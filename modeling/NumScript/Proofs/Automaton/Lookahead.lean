import Mathlib
import NumScript.Proofs.Automaton.Faults
import NumScript.Proofs.Grammar.Exact
import NumScript.Proofs.Token.Concatenation

/-!
# One token ahead

The automaton always knows the next token. So it meets the character at which the scan stopped when
it takes the last token before it, and the end of the input only if the scan did not stop: an input
from which nothing more can be taken never has a character left behind it (`Scan.Readable`). All
stages of a run keep this, and with it an error of a run always fits the way the input ends
(`Explains`).

What a run does depends only on the tokens that it has seen. More input behind the last token changes
nothing, neither in the moves nor in a fault (`Moves.followedBy`, `Fault.followedBy`). The main
statement is `parse_agrees_with_tokenize`.
-/

namespace NumScript

/-- The first character that is out of place, if there is one, stands behind a token that is not taken
    yet. -/
def Scan.Readable (input : Scan) : Prop := input.tokens = [] → input.stop = none

theorem Scan.readable_append {tokens : List Token} {stop : Option ScanError} {more : Scan}
    (readable : tokens = [] → stop = none) (joins : stop = none → more.Readable) :
    (Scan.append tokens more).Readable := by
  intro last
  obtain ⟨none, none'⟩ := List.append_eq_nil_iff.1 last
  exact joins (readable none) none'

end NumScript

namespace NumScript.Automaton

/-! ## 1. The rest of the input -/

section Rest

variable {kinds : List Kind} {input left : Scan}

theorem Absorbs.stop_eq (h : Absorbs kinds input left) : left.stop = input.stop := by
  induction h with
  | nil input => rfl
  | cons same readable rest ih => exact ih

theorem Absorbs.readable (h : Absorbs kinds input left) (readable : input.Readable) :
    left.Readable := by
  induction h with
  | nil input => exact readable
  | cons same readable' rest ih => exact ih readable'

/-- Tokens that can be taken can be taken before more input. -/
theorem Absorbs.append (h : Absorbs kinds input left) {more : Scan}
    (joins : input.stop = none → more.Readable) :
    Absorbs kinds (.append input.tokens more) (.append left.tokens more) := by
  induction h with
  | nil input => exact .nil _
  | cons same readable rest ih => exact .cons same (Scan.readable_append readable joins) (ih joins)

end Rest

namespace Stage

/-- The input is readable, and ends in this way. -/
def Awaits (stop : Option ScanError) (stage : Stage) : Prop :=
  stage.config.input.stop = stop ∧ stage.config.input.Readable

/-- A move keeps the way the input ends. -/
theorem Moves.awaits {stop : Option ScanError} {stage after : Stage} (h : Moves stage after)
    (awaits : stage.Awaits stop) : after.Awaits stop := by
  obtain ⟨same, readable⟩ := awaits
  cases h with
  | shift shifts readable' => exact ⟨same, readable'⟩
  | place shifts => exact ⟨same, readable⟩
  | reduce reduces handle absorbs =>
    exact ⟨absorbs.stop_eq.trans same, absorbs.readable readable⟩
  | join reduces handle absorbs =>
    exact ⟨absorbs.stop_eq.trans same, absorbs.readable readable⟩

theorem Reaches.awaits {stop : Option ScanError} {first stage : Stage} (h : first.Reaches stage)
    (sound : first.Sound) (awaits : first.Awaits stop) : stage.Awaits stop := by
  induction h with
  | refl => exact awaits
  | tail reaches step ih => exact (moves_of_step (Reaches.sound reaches sound) step).awaits ih

end Stage

/-! ## 2. Errors -/

/-- The errors that can be met in an input that ends in this way: a symbol that does not fit, the
    character at which the scan stopped, or the end, if the scan did not stop. -/
inductive Explains : Option ScanError → ParseError → Prop
  | unexpected {stop : Option ScanError} (state : State) (kind : Kind) :
      Explains stop (.unexpected state kind)
  | scan (error : ScanError) : Explains (some error) (.scan error)
  | ended (state : State) : Explains none (.unexpectedEnd state)

section Errors

variable {stack : List Entry} {input : Scan} {error : ParseError}

theorem explains_of_advance (readable : input.Readable)
    (h : Move.advance ⟨stack, input⟩ = .error error) : Explains input.stop error := by
  obtain ⟨tokens, stop⟩ := input
  unfold Move.advance at h
  split at h
  · rename_i last
    cases h
    rw [readable last]
    exact .ended _
  · rename_i token error' last stopped
    cases h
    rw [stopped]
    exact .scan error'
  · cases h

theorem explains_of_expect {kind : Kind} (readable : input.Readable)
    (h : Move.expect kind ⟨stack, input⟩ = .error error) : Explains input.stop error := by
  obtain ⟨tokens, stop⟩ := input
  unfold Move.expect at h
  split at h
  · rename_i last
    cases h
    rw [readable last]
    exact .ended _
  · split at h
    · exact explains_of_advance readable h
    · cases h
      exact .unexpected _ _

theorem explains_of_absorb {kinds : List Kind} (readable : input.Readable)
    (h : absorb kinds ⟨stack, input⟩ = .error error) : Explains input.stop error := by
  induction kinds generalizing input with
  | nil => cases h
  | cons kind kinds ih =>
    have first : absorb (kind :: kinds) ⟨stack, input⟩ =
        (Move.expect kind ⟨stack, input⟩ >>= fun after => absorb kinds after.2) := rfl
    rw [first] at h
    cases taken : Move.expect kind ⟨stack, input⟩ with
    | error error' =>
      rw [taken] at h
      cases h
      exact explains_of_expect readable taken
    | ok after =>
      rw [taken] at h
      obtain ⟨token, ⟨stack', left⟩⟩ := after
      obtain ⟨readable', eq⟩ := advance_eq_ok (expect_eq_ok taken).2
      cases eq
      exact @ih left readable' h

/-- The error of a reduction fits the way the input ends. -/
theorem explains_of_build {reduction : Reduction} (symbol : Symbol) (linked : Linked stack)
    (fits : Fits (stateOf stack) symbol)
    (reduces : action? (stateOf stack) symbol.kind = some (.reduce reduction))
    (readable : input.Readable)
    (h : reduction.build symbol.node? ⟨stack, input⟩ = .error error) : Explains input.stop error := by
  rcases Stage.error_of_build symbol linked fits reduces h with fails | ⟨misfit, -, -⟩
  · exact explains_of_absorb readable fails
  · cases misfit with
    | unopened body => exact .unexpected _ _
    | uncallable list operand unnamed => exact .unexpected _ _

end Errors

namespace Stage

/-- **The error of a step fits the way the input ends.** -/
theorem explains_of_step {stop : Option ScanError} {stage : Stage} {error : ParseError}
    (sound : stage.Sound) (awaits : stage.Awaits stop) (h : stage.step = .halt (.error error)) :
    Explains stop error := by
  obtain ⟨rfl, readable⟩ := awaits
  rcases stage with ⟨stack, ⟨tokens, stop⟩⟩ | ⟨⟨stack, input⟩, node⟩
  · cases tokens with
    | nil =>
      have finish : Config.finish ⟨stack, ⟨[], stop⟩⟩ = .error error := Step.halt.inj h
      unfold Config.finish at finish
      split at finish
      · cases finish
      · cases finish
        have ended : stop = none := readable rfl
        subst ended
        exact .ended _
    | cons token tokens =>
      rw [step_reading] at h
      split at h
      · cases h
        exact .unexpected _ _
      · exact explains_of_advance readable (andThen_eq_error.1 h)
      · rename_i reduction reduces
        exact explains_of_build (.token token) sound (fits_token _ _) reduces readable
          (andThen_eq_error.1 h)
  · rw [step_placing] at h
    split at h
    · cases h
      exact .unexpected _ _
    · cases h
    · rename_i reduction reduces
      exact explains_of_build (.node node) sound.1 sound.2.fits reduces readable
        (andThen_eq_error.1 h)

/-- The stage in which a script begins. -/
theorem start_of_readable {scan : Scan} (readable : scan.Readable) :
    start scan = .ok (.reading ⟨[], scan⟩) := by
  unfold start
  split
  · rename_i last stopped
    have ended := readable last
    rw [stopped] at ended
    cases ended
  · rfl

end Stage

theorem parseScan_of_readable {scan : Scan} (readable : scan.Readable) :
    parseScan scan = (Stage.reading ⟨[], scan⟩).run := by
  unfold parseScan
  rw [Stage.start_of_readable readable]
  rfl

/-- An input that is not readable ends before its first token. -/
theorem eq_of_not_readable {scan : Scan} (h : ¬ scan.Readable) :
    ∃ error, scan = ⟨[], some error⟩ := by
  obtain ⟨tokens, stop⟩ := scan
  unfold Scan.Readable at h
  obtain ⟨rfl, stopped⟩ := Classical.not_imp.1 h
  cases stop with
  | none => exact absurd rfl stopped
  | some error => exact ⟨error, rfl⟩

/-- **The error of a script fits the way its tokens end.** -/
theorem explains_of_parseScan {scan : Scan} {error : ParseError}
    (h : parseScan scan = .error error) : Explains scan.stop error := by
  by_cases readable : scan.Readable
  · rw [parseScan_of_readable readable] at h
    obtain ⟨last, reaches, halts⟩ := (Stage.reading ⟨[], scan⟩).exists_halt
    rw [h] at halts
    exact Stage.explains_of_step (reaches.sound Linked.nil)
      (reaches.awaits Linked.nil ⟨rfl, readable⟩) halts
  · obtain ⟨error', rfl⟩ := eq_of_not_readable readable
    cases h
    exact .scan error'

/-- **A script that is parsed was scanned to its end**, and its run has taken all its tokens. -/
theorem ended_of_parseScan {scan : Scan} {program : Program} (h : parseScan scan = .ok program) :
    scan.stop = none ∧ ∃ stack, (Stage.reading ⟨[], scan⟩).Reaches (.reading ⟨stack, ⟨[], none⟩⟩) ∧
      statements? stack = some program.body := by
  by_cases readable : scan.Readable
  · rw [parseScan_of_readable readable] at h
    obtain ⟨last, reaches, halts⟩ := (Stage.reading ⟨[], scan⟩).exists_halt
    rw [h] at halts
    obtain ⟨stack, stop, rfl, found⟩ := Stage.eq_reading_of_ok halts
    obtain ⟨same, readable'⟩ := reaches.awaits Linked.nil ⟨rfl, readable⟩
    have ended : stop = none := readable' rfl
    subst ended
    exact ⟨same.symm, stack, reaches, found⟩
  · obtain ⟨error', rfl⟩ := eq_of_not_readable readable
    cases h

/-! ## 3. More input -/

/-- The same configuration with more input behind its tokens. -/
def Config.followedBy (more : Scan) (config : Config) : Config :=
  ⟨config.stack, .append config.input.tokens more⟩

namespace Stage

/-- The same stage with more input behind its tokens. -/
def followedBy (more : Scan) : Stage → Stage
  | .reading config => .reading (config.followedBy more)
  | .placing config node => .placing (config.followedBy more) node

variable {more : Scan} {stage after : Stage}

/-- A move does not depend on what stands behind the tokens. -/
theorem Moves.followedBy (h : Moves stage after)
    (joins : stage.config.input.stop = none → more.Readable) :
    Moves (stage.followedBy more) (after.followedBy more) := by
  cases h with
  | shift shifts readable => exact .shift shifts (Scan.readable_append readable joins)
  | place shifts => exact .place shifts
  | reduce reduces handle absorbs => exact .reduce reduces handle (absorbs.append joins)
  | join reduces handle absorbs => exact .join reduces handle (absorbs.append joins)

theorem Sound.followedBy (h : stage.Sound) (more : Scan) : (stage.followedBy more).Sound := by
  cases stage with
  | reading config => exact h
  | placing config node => exact h

/-- A run does not depend on what stands behind the tokens that it takes. -/
theorem Reaches.followedBy {first : Stage} (h : first.Reaches stage) (sound : first.Sound)
    (readable : first.config.input.Readable)
    (joins : first.config.input.stop = none → more.Readable) :
    (first.followedBy more).Reaches (stage.followedBy more) := by
  induction h with
  | refl => exact .refl _
  | @tail between next reaches step ih =>
    have sound' : between.Sound := Reaches.sound reaches sound
    have same : between.config.input.stop = first.config.input.stop :=
      (Reaches.awaits reaches sound ⟨rfl, readable⟩).1
    have moves : Moves (between.followedBy more) (next.followedBy more) :=
      (moves_of_step sound' step).followedBy (same ▸ joins)
    exact ih.trans (.of_moves moves (sound'.followedBy more))

end Stage

/-- A fault does not depend on what stands behind the tokens. -/
theorem Fault.followedBy {cause : Cause} {stage : Stage} {state : State} {kind : Kind} {more : Scan}
    (h : Fault cause stage state kind) (joins : stage.config.input.stop = none → more.Readable) :
    Fault cause (stage.followedBy more) state kind := by
  cases h with
  | unlisted noEntry => exact .unlisted noEntry
  | unclosed takes reduces other => exact .unclosed takes reduces other
  | unfinished reduces other => exact .unfinished reduces other
  | unopened first noBrace readable =>
    exact .unopened first noBrace (Scan.readable_append readable joins)
  | uncallable list operand unnamed readable =>
    exact .uncallable list operand unnamed (Scan.readable_append readable joins)

/-- **A script that is refused at a token is refused there whatever follows its tokens.** -/
theorem parseScan_append_of_unexpected {scan more : Scan} {state : State} {kind : Kind}
    (h : parseScan scan = .error (.unexpected state kind))
    (joins : scan.stop = none → more.Readable) :
    parseScan (.append scan.tokens more) = .error (.unexpected state kind) := by
  have readable : scan.Readable := by
    by_contra unreadable
    obtain ⟨error, rfl⟩ := eq_of_not_readable unreadable
    cases h
  rw [parseScan_of_readable readable] at h
  obtain ⟨last, reaches, halts⟩ := (Stage.reading ⟨[], scan⟩).exists_halt
  rw [h] at halts
  have sound : last.Sound := reaches.sound Linked.nil
  obtain ⟨same, -⟩ := reaches.awaits Linked.nil ⟨rfl, readable⟩
  obtain ⟨cause, fault⟩ := Stage.fault_of_step sound halts
  have refuses := Stage.step_of_fault (sound.followedBy more) (fault.followedBy (same ▸ joins))
  have reaches' : (Stage.reading ⟨[], .append scan.tokens more⟩).Reaches (last.followedBy more) :=
    reaches.followedBy Linked.nil readable joins
  rw [parseScan_of_readable (Scan.readable_append readable joins), reaches'.run_eq,
    Stage.run_of_halt refuses]

/-! ## 4. Scripts -/

/-- **The automaton, which takes one token at a time, agrees with a scan of the whole script.**

If the script consists of tokens, no error of the parser names a character. If the scan stops at a
character, the script is not parsed, and its end is never met: the error is this character, or a
symbol that did not fit before it; and then every script whose tokens begin with the same tokens is
refused with the same error. A script that is parsed was scanned as a whole, and the run ends with
nothing left of its tokens, all of which are in the program. -/
theorem parse_agrees_with_tokenize (source : String) :
    (∀ tokens, tokenize source = .ok tokens → ∀ error, parse source ≠ .error (.scan error)) ∧
    (∀ error, tokenize source = .error error →
      parse source = .error (.scan error) ∨
        ∃ state kind, parse source = .error (.unexpected state kind) ∧
          ∀ other, (scan source).tokens <+: (scan other).tokens →
            parse other = .error (.unexpected state kind)) ∧
    ∀ program, parse source = .ok program →
      ∃ tokens stack, tokenize source = .ok tokens ∧ program.DerivedFrom tokens ∧
        Reached source (.reading ⟨stack, ⟨[], none⟩⟩) ∧ statements? stack = some program.body := by
  refine ⟨?_, ?_, ?_⟩
  · intro tokens tokenized error refused
    have explains := explains_of_parseScan refused
    rw [tokenize_eq_ok_iff.mp tokenized] at explains
    cases explains
  · intro error failed
    have stopped := tokenize_eq_error_iff.mp failed
    cases parsed : parse source with
    | ok program =>
      rw [(ended_of_parseScan parsed).1] at stopped
      cases stopped
    | error error' =>
      have explains := explains_of_parseScan parsed
      rw [stopped] at explains
      cases explains with
      | scan => exact .inl rfl
      | unexpected state kind =>
        refine .inr ⟨state, kind, rfl, fun other ⟨behind, eq⟩ => ?_⟩
        have refused := @parseScan_append_of_unexpected (scan source) ⟨behind, (scan other).stop⟩
          state kind parsed fun ended => by
            rw [stopped] at ended
            cases ended
        have same : Scan.append (scan source).tokens ⟨behind, (scan other).stop⟩ = scan other := by
          rw [Scan.append, eq]
        rw [same] at refused
        exact refused
  · intro program parsed
    obtain ⟨ended, stack, reaches, found⟩ := ended_of_parseScan parsed
    have scanned : scan source = ⟨(scan source).tokens, none⟩ := by rw [← ended]
    refine ⟨(scan source).tokens, stack, tokenize_eq_ok_iff.mpr scanned, ?_, ?_, found⟩
    · refine derivedFrom_of_parseScan ?_
      rw [← scanned]
      exact parsed
    · exact ⟨_, Stage.start_of_readable fun _ => ended, reaches⟩

set_option maxRecDepth 8192 in
/-- In `var = a #` the parser does not come as far as the `#`, so every script that goes on in another
    way behind the `a` has the same error; `f(x);` is parsed to its end. -/
theorem refused_before_character :
    tokenize "var = a #" = .error ⟨8, '#'⟩ ∧
      (∀ other, (scan "var = a #").tokens <+: (scan other).tokens →
        parse other = .error (.unexpected .afterVariableKeyword (.mark .assign))) ∧
      ∃ tokens stack, tokenize "f(x);" = .ok tokens ∧
        Reached "f(x);" (.reading ⟨stack, ⟨[], none⟩⟩) ∧
        statements? stack = some [.expression (.call "f" [.var "x"])] := by
  have failed : tokenize "var = a #" = .error ⟨8, '#'⟩ := by cbv
  have refused : parse "var = a #" = .error (.unexpected .afterVariableKeyword (.mark .assign)) := by
    cbv
  have parsed : parse "f(x);" = .ok ⟨[.expression (.call "f" [.var "x"])]⟩ := by cbv
  refine ⟨failed, ?_, ?_⟩
  · rcases (parse_agrees_with_tokenize "var = a #").2.1 _ failed with met | ⟨state, kind, same, all⟩
    · rw [refused] at met
      cases met
    · rw [refused] at same
      cases same
      exact all
  · obtain ⟨tokens, stack, tokenized, -, reached, found⟩ :=
      (parse_agrees_with_tokenize "f(x);").2.2 _ parsed
    exact ⟨tokens, stack, tokenized, reached, found⟩

end NumScript.Automaton
