import NumScript.Proofs.Lowering.Runs

/-!
# A lowered program means what the program means

A function of a lowered module begins with the slots of the function it was made from, one more for
the result (`start_eq_initial`), so it gives the same result as long as the functions it calls do
(`apply_lowerFunction`). The calls are closed by induction on how deep they are nested: for every
depth the module gives what the program gives (`invoke_eq_apply`). The main statement,
`returns_iff_returns`, says it for functions that end at all.
-/

namespace NumScript

/-! ## 1. One function -/

section Function

variable {α : Type} {A : Arithmetic α} {signatures : List (String × Nat)}
  {function : FunctionDeclaration} {lowered : Wat.Function}

theorem lookup_map_zero (names : List String) (name : String) :
    (names.map fun name => (name, A.zero)).lookup name =
      if name ∈ names then some A.zero else none := by
  induction names with
  | nil => rfl
  | cons first rest ih =>
    rw [List.map_cons, List.lookup_cons, ih]
    by_cases same : name = first
    · simp [same]
    · simp [same, beq_eq_false_iff_ne.mpr same]

/-- An argument is found under exactly the names of the parameters. -/
theorem lookup_zip_isSome {params : List String} {args : List α}
    (arity : args.length = params.length) (name : String) :
    ((params.zip args).lookup name).isSome = true ↔ name ∈ params := by
  have names : (params.zip args).map Prod.fst = params :=
    List.map_fst_zip (Nat.le_of_eq arity.symm)
  rw [← Bool.not_eq_false, Option.isSome_eq_false_iff, Option.isNone_iff_eq_none,
    List.lookup_eq_none_iff, ← names, List.mem_map, names]
  constructor
  · intro absent
    by_contra none
    refine absent fun pair mem => bne_iff_ne.mpr ?_
    rintro rfl
    exact none ⟨pair, mem, rfl⟩
  · rintro ⟨pair, mem, rfl⟩ absent
    exact bne_iff_ne.mp (absent pair mem) rfl

/-- A lowered function begins with the slots of the function and zero in the result slot. -/
theorem start_eq_initial (h : lowerFunction signatures function = .ok lowered) {args : List α}
    (arity : args.length = function.params.length) :
    lowered.start A args = (Slots.initial A function.params (varNamesOf function.body) args).insert
      Wat.resultSlot A.zero := by
  obtain ⟨_, distinct, _, code, _, rfl⟩ := lowerFunction_eq_ok.mp h
  have params : ((function.params.zip args).map Prod.fst).Nodup := by
    rw [List.map_fst_zip (Nat.le_of_eq arity.symm)]
    exact distinct
  have locals : ((function.locals.map fun name => (name, A.zero)).map Prod.fst).Nodup := by
    rw [List.map_map]
    show (function.locals.map id).Nodup
    rw [List.map_id]
    exact (nodup_firstOccurrences _).filter _
  unfold Wat.Function.start
  congr 1
  funext name
  rw [Slots.insertAll_apply _ _ locals, Slots.insertAll_apply _ _ params, lookup_map_zero,
    Slots.initial]
  have isParam := lookup_zip_isSome arity name
  cases found : (function.params.zip args).lookup name with
  | none =>
    rw [found, Option.isSome_none] at isParam
    have other : name ∉ function.params := fun mem => Bool.false_ne_true (isParam.mpr mem)
    simp [mem_locals, other, Slots.empty]
  | some value =>
    rw [found, Option.isSome_some] at isParam
    simp [mem_locals, isParam.mp rfl]

/-- **A lowered function gives the result of the function**, if the functions it calls do. -/
theorem apply_lowerFunction {call : String → List α → Effect α}
    {function? : String → Option Wat.Function} {invoke : Wat.Function → List α → Effect α}
    (h : lowerFunction signatures function = .ok lowered)
    (calls : CallsAgree (function.scope signatures) call function? invoke) (args : List α) :
    lowered.apply A function? invoke args = function.apply A call args := by
  obtain ⟨notParam, _, notVar, code, body, same⟩ := lowerFunction_eq_ok.mp h
  have params : lowered.params = function.params := by rw [same]
  have closed : lowered.body = closeBody code := by rw [same]
  have apart : Wat.resultSlot ∉ (function.scope signatures).slots := by
    rw [mem_scope_slots]
    intro h
    rcases h with mem | mem
    · exact notParam mem
    · exact notVar mem
  unfold Wat.Function.apply FunctionDeclaration.apply
  rw [params]
  split
  · rename_i arity
    have covers : (Slots.initial A function.params (varNamesOf function.body) args).Covers
        (function.scope signatures).slots := by
      intro name mem
      rw [Slots.initial, Option.isSome_or, Bool.or_eq_true, lookup_zip_isSome arity]
      refine (mem_scope_slots.mp mem).imp_right fun isVar => ?_
      rw [if_pos isVar, Option.isSome_some]
    rw [start_eq_initial h arity, closed, run_closeBody calls apart body
      (fun name mem => mem_scope_slots.mpr (.inr mem)) covers, bind_assoc]
    refine bind_congr fun outcome => ?_
    rw [pure_bind]
  · rfl

end Function

/-! ## 2. All functions -/

section Module

variable {width : Wat.FloatWidth} {program : Program} {module : Wat.Module}

/-- **The module gives what the program gives**, however deep calls are nested. -/
theorem invoke_eq_apply {α : Type} (A : Arithmetic α) (h : lower width program = .ok module) :
    ∀ (depth : Nat) {function : FunctionDeclaration} {lowered : Wat.Function},
    lowerFunction (program.declarations.map FunctionDeclaration.signature) function = .ok lowered →
    ∀ args : List α, module.invoke A depth lowered args = program.apply A depth function args
  | 0, _, _, _, _ => rfl
  | depth + 1, function, lowered, eq, args => by
    refine apply_lowerFunction eq ?_ args
    intro name arity known
    obtain ⟨notLog, callee, target, found, found', eq', params⟩ := exists_lowered h known
    refine ⟨notLog, target, found', params, fun values => ?_⟩
    rw [invoke_eq_apply A h depth eq' values]
    simp only [found, Effect.ofOption_some, pure_bind]

end Module

/-- **Lowering keeps the meaning of a program.** Whatever numbers are and whatever is done with them:
    a function of the program ends with a value and a log exactly when the function of the module with
    its name does. With too many or too few arguments neither of them ends. -/
theorem returns_iff_returns {α : Type} (A : Arithmetic α) {width : Wat.FloatWidth}
    {program : Program} {module : Wat.Module} (h : lower width program = .ok module)
    {function : FunctionDeclaration} (declared : function ∈ program.declarations) (args : List α)
    (value : α) (log : List String) :
    program.Returns A function args value log ↔
      module.Returns A function.name args value log := by
  obtain ⟨distinct, _, functions, _⟩ := lower_eq_ok h
  obtain ⟨lowered, found, eq⟩ := find_lowered functions (find_of_mem distinct declared)
  constructor
  · intro h
    obtain ⟨depth, ends⟩ := h
    refine ⟨lowered, depth, found, ?_⟩
    rw [invoke_eq_apply A h depth eq]
    exact ends
  · intro h
    obtain ⟨other, depth, found', ends⟩ := h
    rw [Wat.Module.function?, found, Option.some.injEq] at found'
    subst found'
    refine ⟨depth, ?_⟩
    rw [← invoke_eq_apply A h depth eq]
    exact ends

/-- Whole numbers; of a constant only the whole part counts, and square roots are left alone. -/
def wholeNumbers : Arithmetic Int where
  const c := match c.magnitude with
    | .finite significand scale => ((significand * twoTo scale / twoTo 1074 : Nat) : Int)
    | _ => 0
  add := (· + ·)
  sub := (· - ·)
  mul := (· * ·)
  div := (· / ·)
  neg x := -x
  sqrt x := x
  lt x y := decide (x < y)
  gt x y := decide (y < x)
  le x y := decide (x ≤ y)
  ge x y := decide (y ≤ x)
  eq x y := decide (x = y)
  ne x y := decide (x ≠ y)

/-- A function that returns out of the middle of its body, and one that it calls otherwise. -/
def clampProgram : Program where
  body :=
    [.exportFunction "clamp" ["x"]
      [.ifElse (.binary .less (.var "x") (.number .zero))
        [.expression (.call faultFunction []), .returnValue (.number .one)]
        [.variableDeclaration "y" (some (.var "x"))],
        .expression (.assign "y" (.call "twice" [.var "y"])),
        .returnValue (.binary .add (.var "y") (.number .one))],
      .function "twice" ["z"] [.returnValue (.binary .add (.var "z") (.var "z"))]]

theorem returns_clamp : ∃ module, lower .f64 clampProgram = .ok module ∧
    module.Returns wholeNumbers "clamp" [-3] 1 ["ERROR"] ∧
    module.Returns wholeNumbers "clamp" [3] 7 [] := by
  obtain ⟨module, lowered⟩ : ∃ module, lower .f64 clampProgram = .ok module :=
    ⟨_, (lower_eq ..).trans rfl⟩
  have declared : clampProgram.declarations[0] ∈ clampProgram.declarations := List.getElem_mem _
  refine ⟨module, lowered, ?_, ?_⟩
  · exact (returns_iff_returns wholeNumbers lowered declared [-3] 1 ["ERROR"]).mp
      ⟨1, by decide +kernel⟩
  · exact (returns_iff_returns wholeNumbers lowered declared [3] 7 []).mp ⟨2, by decide +kernel⟩

end NumScript
