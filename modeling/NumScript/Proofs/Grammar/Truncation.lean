import Mathlib
import NumScript.Proofs.Automaton.Preamble

/-!
# Programs that break off

A script whose tokens are the first ones of a program may break off anywhere: inside an expression,
after an opening brace, or between the two tokens that close an export. The automaton has seen nothing
there that it has not seen in the whole program, so it cannot refuse a symbol
(`parseScan_ne_unexpected`); all that it can miss is the end.

It misses nothing exactly when the script breaks off between two statements. That each statement of a
program has its own share of the tokens is said by `Program.Parts`. There is no choice in it: the
tokens of the first statements are the same however the program was derived
(`Program.DerivedFrom.eq_of_beginning`), because tokens that could be added to them without adding a
statement are none.
-/

namespace NumScript

open Automaton

/-! ## 1. The statements of a program and their tokens -/

/-- The statements of a program, each with the tokens that it is written with. -/
structure Program.Parts (program : Program) (tokens : List Token)
    (parts : List (Statement × List Token)) : Prop where
  /-- Each statement is written with its tokens. -/
  each : ∀ part ∈ parts, Derives (.statement part.1) part.2
  /-- They are the statements of the program, in order. -/
  body : program.body = parts.map Prod.fst
  /-- The tokens of one follow those of the other. -/
  words : tokens = (parts.map Prod.snd).flatten

section Parts

variable {program front : Program} {tokens taken rest : List Token}
  {parts : List (Statement × List Token)}

theorem Program.DerivedFrom.exists_parts (h : program.DerivedFrom tokens) :
    ∃ parts, program.Parts tokens parts := by
  obtain ⟨each⟩ := h
  exact ⟨_, each, rfl, rfl⟩

theorem Program.Parts.derivedFrom (h : program.Parts tokens parts) : program.DerivedFrom tokens := by
  obtain ⟨each, body, rfl⟩ := h
  obtain ⟨statements⟩ := program
  obtain rfl : statements = parts.map Prod.fst := body
  exact .statements each

/-- The first statements of a program are a program of their own. -/
theorem Program.Parts.take (h : program.Parts tokens parts) (count : Nat) :
    Program.Parts ⟨program.body.take count⟩ ((parts.take count).map Prod.snd).flatten
      (parts.take count) := by
  refine ⟨fun part mem => h.each part (List.mem_of_mem_take mem), ?_, rfl⟩
  show program.body.take count = _
  rw [h.body, List.map_take]

/-- The tokens of the first statements are the first tokens. -/
theorem Program.Parts.words_take (h : program.Parts tokens parts) (count : Nat) :
    tokens = ((parts.take count).map Prod.snd).flatten ++
      ((parts.drop count).map Prod.snd).flatten := by
  rw [h.words, ← List.flatten_append, ← List.map_append, List.take_append_drop]

/-- Without statements there are no tokens. -/
theorem Program.DerivedFrom.eq_nil (h : program.DerivedFrom tokens) (empty : program.body = []) :
    tokens = [] := by
  obtain ⟨parts, -, body, rfl⟩ := h.exists_parts
  rw [empty] at body
  rw [List.map_eq_nil_iff.mp body.symm]
  rfl

/-- **What follows a program in a longer one is a program.** -/
theorem Program.DerivedFrom.of_append (first : front.DerivedFrom taken)
    (whole : program.DerivedFrom (taken ++ rest)) :
    ∃ back : Program, back.DerivedFrom rest ∧ program.body = front.body ++ back.body := by
  have parsed := parseScan_of_derivedFrom whole
  have seam := parseScan_append (parseScan_of_derivedFrom first) 0 ⟨rest, none⟩
  rw [show Scan.append taken (Scan.after 0 ⟨rest, none⟩) = ⟨taken ++ rest, none⟩ from rfl,
    parsed] at seam
  cases behind : parseScan ⟨rest, none⟩ with
  | error error =>
    rw [behind] at seam
    cases seam
  | ok back =>
    rw [behind] at seam
    cases seam
    exact ⟨back, derivedFrom_of_parseScan behind, rfl⟩

/-- No tokens can be added to a program without a statement more. -/
theorem Program.DerivedFrom.eq_nil_of_append (first : program.DerivedFrom taken)
    (whole : program.DerivedFrom (taken ++ rest)) : rest = [] := by
  obtain ⟨back, derived, body⟩ := first.of_append whole
  exact derived.eq_nil (List.append_right_eq_self.mp body.symm)

/-- **A program is written with only one of the beginnings of a row of tokens.** -/
theorem Program.DerivedFrom.eq_of_beginning {other : List Token} (first : program.DerivedFrom taken)
    (second : program.DerivedFrom other) (begins : taken <+: tokens) (begins' : other <+: tokens) :
    taken = other := by
  rcases List.prefix_or_prefix_of_prefix begins begins' with ⟨more, rfl⟩ | ⟨more, rfl⟩
  · rw [first.eq_nil_of_append second, List.append_nil]
  · rw [second.eq_nil_of_append first, List.append_nil]

/-! ## 2. Runs -/

/-- **In the first tokens of a program no symbol is out of place.** -/
theorem parseScan_ne_unexpected (whole : program.DerivedFrom tokens) (begins : taken <+: tokens)
    (state : State) (kind : Kind) : parseScan ⟨taken, none⟩ ≠ .error (.unexpected state kind) := by
  intro refused
  obtain ⟨rest, rfl⟩ := begins
  -- the whole program would be refused at the same symbol
  have refused' := @parseScan_append_of_unexpected ⟨taken, none⟩ ⟨rest, none⟩ _ _ refused
    fun _ _ => rfl
  rw [show Scan.append taken ⟨rest, none⟩ = ⟨taken ++ rest, none⟩ from rfl,
    parseScan_of_derivedFrom whole] at refused'
  cases refused'

/-- The first tokens of a program are parsed as its first statements, or the end is met. -/
theorem parseScan_of_beginning (whole : program.DerivedFrom tokens) (begins : taken <+: tokens) :
    (∃ state, parseScan ⟨taken, none⟩ = .error (.unexpectedEnd state)) ∨
      ∃ front, parseScan ⟨taken, none⟩ = .ok front ∧ front.body <+: program.body := by
  cases parsed : parseScan ⟨taken, none⟩ with
  | ok front =>
    obtain ⟨rest, rfl⟩ := begins
    obtain ⟨back, -, body⟩ := (derivedFrom_of_parseScan parsed).of_append whole
    exact .inr ⟨front, rfl, back.body, body.symm⟩
  | error error =>
    have explains := explains_of_parseScan parsed
    cases explains with
    | unexpected state kind => exact absurd parsed (parseScan_ne_unexpected whole begins state kind)
    | ended state => exact .inl ⟨state, rfl⟩

/-- **The first tokens of a program are parsed just when they are those of its first statements.** -/
theorem parseScan_beginning_eq_ok_iff (h : program.Parts tokens parts) (begins : taken <+: tokens) :
    parseScan ⟨taken, none⟩ = .ok front ↔ ∃ count, front.body = program.body.take count ∧
      taken = ((parts.take count).map Prod.snd).flatten := by
  constructor
  · intro parsed
    have derived := derivedFrom_of_parseScan parsed
    have ⟨rest, eq⟩ := begins
    obtain ⟨back, -, body⟩ := derived.of_append (eq ▸ h.derivedFrom)
    have taken' : program.body.take front.body.length = front.body := by
      rw [body, List.take_left]
    -- the tokens of as many statements are a beginning too, and of the same program
    have same := (h.take front.body.length).derivedFrom
    rw [taken'] at same
    exact ⟨front.body.length, taken'.symm,
      derived.eq_of_beginning same begins ⟨_, (h.words_take _).symm⟩⟩
  · rintro ⟨count, body, rfl⟩
    obtain ⟨statements⟩ := front
    obtain rfl : statements = program.body.take count := body
    exact parseScan_of_derivedFrom (h.take count).derivedFrom

end Parts

/-! ## 3. Scripts -/

/-- **A program that breaks off is reported as an unexpected end, and never as a wrong symbol.** A
    script whose tokens are the first ones of a program is parsed as the first statements of that
    program, or the end of it is unexpected. It is parsed just when its tokens are the tokens of some
    number of the first statements. -/
theorem parse_of_truncated (whole part : String) (program : Program) (tokens taken : List Token)
    (parsed : parse whole = .ok program) (scanned : tokenize whole = .ok tokens)
    (truncated : tokenize part = .ok taken) (begins : taken <+: tokens) :
    ((∃ state, parse part = .error (.unexpectedEnd state)) ∨
      ∃ front, parse part = .ok front ∧ front.body <+: program.body) ∧
    (∀ state kind, parse part ≠ .error (.unexpected state kind)) ∧
    (∃ parts, program.Parts tokens parts) ∧
    ∀ parts, program.Parts tokens parts → ∀ front : Program,
      parse part = .ok front ↔ ∃ count, front.body = program.body.take count ∧
        taken = ((parts.take count).map Prod.snd).flatten := by
  rw [parse, scan_of_tokenize scanned] at parsed
  rw [parse, scan_of_tokenize truncated]
  have derived := derivedFrom_of_parseScan parsed
  exact ⟨parseScan_of_beginning derived begins, parseScan_ne_unexpected derived begins,
    derived.exists_parts, fun parts h front => parseScan_beginning_eq_ok_iff h begins⟩

set_option maxRecDepth 8192 in
/-- A call and a declaration. Broken off in the declaration the script ends unexpectedly; broken off
    before it, its tokens are those of some of the first statements, and it is parsed as the call. -/
theorem parse_truncated_declaration :
    ∃ tokens taken, tokenize "f(a);var b;" = .ok tokens ∧ tokenize "f(a);" = .ok taken ∧
      parse "f(a);var b;" =
        .ok ⟨[.expression (.call "f" [.var "a"]), .variableDeclaration "b" none]⟩ ∧
      (∃ state, parse "f(a);var" = .error (.unexpectedEnd state)) ∧
      parse "f(a);" = .ok ⟨[.expression (.call "f" [.var "a"])]⟩ ∧
      ∃ parts count, Program.Parts
          ⟨[.expression (.call "f" [.var "a"]), .variableDeclaration "b" none]⟩ tokens parts ∧
        taken = ((parts.take count).map Prod.snd).flatten := by
  have parsed : parse "f(a);var b;" =
      .ok ⟨[.expression (.call "f" [.var "a"]), .variableDeclaration "b" none]⟩ := by cbv
  have scanned : tokenize "f(a);var b;" = .ok [.identifier "f", .mark .leftParen, .identifier "a",
      .mark .rightParen, .mark .semicolon, .keyword .varKeyword, .identifier "b",
      .mark .semicolon] := by cbv
  have inside : tokenize "f(a);var" = .ok [.identifier "f", .mark .leftParen, .identifier "a",
      .mark .rightParen, .mark .semicolon, .keyword .varKeyword] := by cbv
  have between : tokenize "f(a);" = .ok [.identifier "f", .mark .leftParen, .identifier "a",
      .mark .rightParen, .mark .semicolon] := by cbv
  have ended : parse "f(a);var" = .error (.unexpectedEnd .afterVariableKeyword) := by cbv
  have front : parse "f(a);" = .ok ⟨[.expression (.call "f" [.var "a"])]⟩ := by cbv
  obtain ⟨ends | ⟨other, parsed', -⟩, -⟩ :=
    parse_of_truncated _ _ _ _ _ parsed scanned inside ⟨_, rfl⟩
  · obtain ⟨-, -, ⟨parts, h⟩, iff⟩ :=
      parse_of_truncated _ _ _ _ _ parsed scanned between ⟨_, rfl⟩
    obtain ⟨count, -, words⟩ := (iff parts h _).mp front
    exact ⟨_, _, scanned, between, parsed, ends, front, parts, count, h, words⟩
  · cases ended.symm.trans parsed'

end NumScript
