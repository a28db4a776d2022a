import Mathlib
import NumScript.Proofs.Wat.Reading

/-!
# The text of a module loses nothing

Two values that are not numbers may differ in their bits and are written alike. Up to such constants
(`Instruction.Alike`, `Function.Alike`) a module can be told from its list, and so from its text: the
word at the head of a list says what it stands for, and parameters, locals and instructions of a
function are told apart by their words too.

The main statement, `read_print`, is that the text of a module is read as the list of the module, and
that modules with the same text are the same up to constants that are written alike.
-/

namespace NumScript.Wat

/-! ## 1. Parts that are written alike -/

/-- Two instructions that are the same up to float constants with the same text. -/
inductive Instruction.Alike : Instruction → Instruction → Prop
  | same (instruction : Instruction) : Alike instruction instruction
  | const {value value' : Binary64} (text : floatStyle.render value = floatStyle.render value') :
      Alike (.const value) (.const value')
  | ifElse {consequent consequent' alternate alternate' : List Instruction}
      (first : List.Forall₂ Alike consequent consequent')
      (second : List.Forall₂ Alike alternate alternate') :
      Alike (.ifElse consequent alternate) (.ifElse consequent' alternate')
  | block (label : String) {body body' : List Instruction} (inner : List.Forall₂ Alike body body') :
      Alike (.block label body) (.block label body')

/-- Two functions that are the same up to float constants with the same text. -/
structure Function.Alike (first second : Function) : Prop where
  /-- The same name. -/
  name : first.name = second.name
  /-- The same parameters. -/
  params : first.params = second.params
  /-- The same locals. -/
  locals : first.locals = second.locals
  /-- Bodies that are the same up to constants. -/
  body : List.Forall₂ Instruction.Alike first.body second.body

/-! ## 2. Words -/

theorem identifier_inj {name name' : String} : identifier name = identifier name' ↔ name = name' :=
  String.append_right_inj "$"

theorem words_inj {words words' : List String} :
    Sexp.words words = Sexp.words words' ↔ words = words' := by
  rw [Sexp.words, Sexp.words, Sexp.list.injEq]
  exact (List.map_injective_iff.mpr fun _ _ => Sexp.atom.inj).eq_iff

theorem named_inj {word name name' : String}
    (h : Sexp.words [word, identifier name] = Sexp.words [word, identifier name']) :
    name = name' := by
  simp only [words_inj, List.cons.injEq, true_and, and_true] at h
  exact identifier_inj.mp h

theorem typeName_inj {width width' : FloatWidth} (h : width.typeName = width'.typeName) :
    width = width' := by
  cases width with
  | f32 =>
    cases width' with
    | f32 => rfl
    | f64 => exact absurd h (by decide)
  | f64 =>
    cases width' with
    | f32 => exact absurd h (by decide)
    | f64 => rfl

theorem mnemonic_inj {operation operation' : FloatOperation}
    (h : operation.mnemonic = operation'.mnemonic) : operation = operation' := by
  have distinct : ∀ first ∈ FloatOperation.all, ∀ second ∈ FloatOperation.all,
      first.mnemonic = second.mnemonic → first = second := by decide
  exact distinct operation (FloatOperation.mem_all _) operation' (FloatOperation.mem_all _) h

/-! ## 3. Lists -/

-- A list of another kind has another word at its head or another length. Only the words of an
-- operation and of `drop` are compared one by one, because both are lists of one word.
mutual
theorem alike_of_sexp {width : FloatWidth} : ∀ {first second : Instruction},
    first.sexp width = second.sexp width → first.Alike second
  | .const value, second, h => by
    cases second with
    | const value' =>
      simp only [Instruction.sexp, words_inj, List.cons.injEq, true_and, and_true] at h
      exact .const h
    | _ => cases width <;> simp [Instruction.sexp, Sexp.words, FloatWidth.typeName] at h
  | .i32Const value, second, h => by
    cases second with
    | i32Const value' =>
      simp only [Instruction.sexp, words_inj, List.cons.injEq, true_and, and_true] at h
      rw [Int32.toInt_inj.mp (Int.repr_inj.mp h)]
      exact .same _
    | _ => cases width <;> simp [Instruction.sexp, Sexp.words, FloatWidth.typeName] at h
  | .localGet name, second, h => by
    cases second with
    | localGet name' =>
      rw [Instruction.sexp, Instruction.sexp] at h
      rw [named_inj h]
      exact .same _
    | _ => cases width <;> simp [Instruction.sexp, Sexp.words, FloatWidth.typeName] at h
  | .localSet name, second, h => by
    cases second with
    | localSet name' =>
      rw [Instruction.sexp, Instruction.sexp] at h
      rw [named_inj h]
      exact .same _
    | _ => cases width <;> simp [Instruction.sexp, Sexp.words, FloatWidth.typeName] at h
  | .call name, second, h => by
    cases second with
    | call name' =>
      rw [Instruction.sexp, Instruction.sexp] at h
      rw [named_inj h]
      exact .same _
    | _ => cases width <;> simp [Instruction.sexp, Sexp.words, FloatWidth.typeName] at h
  | .br label, second, h => by
    cases second with
    | br label' =>
      rw [Instruction.sexp, Instruction.sexp] at h
      rw [named_inj h]
      exact .same _
    | _ => cases width <;> simp [Instruction.sexp, Sexp.words, FloatWidth.typeName] at h
  | .drop, second, h => by
    cases second with
    | drop => exact .same _
    | float operation =>
      cases width <;> cases operation <;>
        simp [Instruction.sexp, words_inj, FloatWidth.typeName, FloatOperation.mnemonic] at h
    | _ => cases width <;> simp [Instruction.sexp, Sexp.words, FloatWidth.typeName] at h
  | .float operation, second, h => by
    cases second with
    | float operation' =>
      simp only [Instruction.sexp, words_inj, List.cons.injEq, and_true] at h
      rw [mnemonic_inj ((String.append_right_inj _).mp h)]
      exact .same _
    | drop =>
      cases width <;> cases operation <;>
        simp [Instruction.sexp, words_inj, FloatWidth.typeName, FloatOperation.mnemonic] at h
    | _ => cases width <;> simp [Instruction.sexp, Sexp.words, FloatWidth.typeName] at h
  | .ifElse consequent alternate, second, h => by
    cases second with
    | ifElse consequent' alternate' =>
      simp only [Instruction.sexp, Sexp.list.injEq, List.cons.injEq, true_and, and_true] at h
      exact .ifElse (alike_of_sexps h.1) (alike_of_sexps h.2)
    | _ => cases width <;> simp [Instruction.sexp, Sexp.words, FloatWidth.typeName] at h
  | .block label body, second, h => by
    cases second with
    | block label' body' =>
      simp only [Instruction.sexp, Sexp.list.injEq, List.cons.injEq, Sexp.atom.injEq,
        true_and] at h
      rw [identifier_inj.mp h.1]
      exact .block label' (alike_of_sexps h.2)
    | _ => cases width <;> simp [Instruction.sexp, Sexp.words, FloatWidth.typeName] at h

theorem alike_of_sexps {width : FloatWidth} : ∀ {first second : List Instruction},
    bodySexps width first = bodySexps width second → List.Forall₂ Instruction.Alike first second
  | [], [], _ => .nil
  | [], _ :: _, h => by cases h
  | _ :: _, [], h => by cases h
  | _ :: _, _ :: _, h => by
    rw [bodySexps, bodySexps, List.cons.injEq] at h
    exact .cons (alike_of_sexp h.1) (alike_of_sexps h.2)
end

/-- Whether an item is a list that begins with this word. -/
def Sexp.isForm (word : String) : Sexp → Bool
  | .list (.atom head :: _) => head = word
  | _ => false

/-- Lists of forms, each followed by something else, are the same piece by piece. -/
theorem forms_inj (word : String) {first second rest rest' : List Sexp}
    (h : first ++ rest = second ++ rest') (forms : ∀ item ∈ first, item.isForm word = true)
    (forms' : ∀ item ∈ second, item.isForm word = true)
    (others : ∀ item ∈ rest, item.isForm word = false)
    (others' : ∀ item ∈ rest', item.isForm word = false) : first = second ∧ rest = rest' := by
  simp only [← Bool.not_eq_true] at others others'
  have kept := congrArg (List.filter (Sexp.isForm word)) h
  rw [List.filter_append, List.filter_append, List.filter_eq_self.mpr forms,
    List.filter_eq_self.mpr forms', List.filter_eq_nil_iff.mpr others,
    List.filter_eq_nil_iff.mpr others', List.append_nil, List.append_nil] at kept
  subst kept
  exact ⟨rfl, List.append_cancel_left h⟩

theorem bodySexps_eq_map (width : FloatWidth) (body : List Instruction) :
    bodySexps width body = body.map (Instruction.sexp width) := by
  induction body with
  | nil => rfl
  | cons instruction rest ih => rw [bodySexps, ih, List.map_cons]

/-- No instruction looks like a parameter or a local. -/
theorem isForm_sexp {width : FloatWidth} {word : String} (keyword : word ∈ ["param", "local"])
    (instruction : Instruction) : (instruction.sexp width).isForm word = false := by
  rw [List.mem_cons, List.mem_singleton] at keyword
  cases instruction with
  | float operation =>
    rcases keyword with rfl | rfl <;> cases width <;> cases operation <;> decide
  | _ =>
    rcases keyword with rfl | rfl <;> cases width <;>
      simp [Instruction.sexp, Sexp.words, Sexp.isForm, FloatWidth.typeName]

theorem isForm_words (head word : String) (rest : List String) :
    (Sexp.words (head :: rest)).isForm word = decide (head = word) := rfl

theorem isForm_typedSexp (head word : String) (width : FloatWidth) (name : String) :
    (typedSexp head width name).isForm word = decide (head = word) := rfl

theorem map_typedSexp_inj {word : String} {width : FloatWidth} {names names' : List String}
    (h : names.map (typedSexp word width) = names'.map (typedSexp word width)) : names = names' := by
  refine List.map_injective_iff.mpr ?_ h
  intro name name' same
  simp only [typedSexp, words_inj, List.cons.injEq, identifier_inj, true_and, and_true] at same
  exact same

/-- The parameters of a function end at its result, and its locals where the instructions begin. -/
theorem alike_of_functionSexp {width width' : FloatWidth} {first second : Function}
    (h : first.sexp width = second.sexp width') : width = width' ∧ first.Alike second := by
  simp only [Function.sexp, Sexp.list.injEq, List.cons.injEq, Sexp.atom.injEq, true_and,
    identifier_inj, bodySexps_eq_map] at h
  obtain ⟨named, h⟩ := h
  obtain ⟨params, h⟩ := forms_inj "param" h
    (by simp [isForm_typedSexp]) (by simp [isForm_typedSexp])
    (by simp [isForm_words, isForm_typedSexp, isForm_sexp, or_imp, forall_and])
    (by simp [isForm_words, isForm_typedSexp, isForm_sexp, or_imp, forall_and])
  simp only [List.cons.injEq, words_inj, and_true, true_and] at h
  obtain ⟨sameType, -, h⟩ := h
  obtain rfl := typeName_inj sameType
  obtain ⟨locals, body⟩ := forms_inj "local" h
    (by simp [isForm_typedSexp]) (by simp [isForm_typedSexp])
    (by simp [isForm_sexp]) (by simp [isForm_sexp])
  rw [← bodySexps_eq_map, ← bodySexps_eq_map] at body
  exact ⟨rfl, named, map_typedSexp_inj params, map_typedSexp_inj locals, alike_of_sexps body⟩

theorem exportSexp_inj {item item' : Export} (h : item.sexp = item'.sexp) : item = item' := by
  obtain ⟨name, function⟩ := item
  obtain ⟨name', function'⟩ := item'
  simp only [Export.sexp, Sexp.list.injEq, List.cons.injEq, Sexp.quoted.injEq, words_inj,
    identifier_inj, true_and, and_true] at h
  rw [h.1, h.2]

/-- **What two modules with the same list have in common.** -/
theorem alike_of_moduleSexp {first second : Module} (h : first.sexp = second.sexp) :
    List.Forall₂ Function.Alike first.functions second.functions ∧
      first.exports = second.exports ∧
      (first.functions ≠ [] → first.width = second.width) := by
  obtain ⟨width, functions, exports⟩ := first
  obtain ⟨width', functions', exports'⟩ := second
  simp only [Module.sexp, Sexp.list.injEq, List.cons.injEq, true_and, List.append_assoc,
    List.append_cancel_left_eq] at h
  obtain ⟨sameFunctions, sameExports⟩ := forms_inj "func" h
    (by simp [Function.sexp, Sexp.isForm]) (by simp [Function.sexp, Sexp.isForm])
    (by simp [Export.sexp, Sexp.isForm]) (by simp [Export.sexp, Sexp.isForm])
  rw [← List.forall₂_eq_eq_eq, List.forall₂_map_left_iff, List.forall₂_map_right_iff]
    at sameFunctions
  refine ⟨sameFunctions.imp fun _ _ same => (alike_of_functionSexp same).2,
    List.map_injective_iff.mpr (fun _ _ => exportSexp_inj) sameExports, ?_⟩
  intro nonempty
  cases sameFunctions with
  | nil => exact absurd rfl nonempty
  | cons same rest => exact (alike_of_functionSexp same).1

/-! ## 4. Modules with the same text -/

/-- **The text of a module is well formed and loses nothing.** It is read as one list, which is the
    module piece by piece; so modules with the same text are the same up to float constants that are
    written alike, and up to their width if they have no function. -/
theorem read_print {module : Module} (plain : ∀ name ∈ module.names, IsPlain name) :
    Sexp.read module.print = some [module.sexp] ∧
    ∀ other : Module, (∀ name ∈ other.names, IsPlain name) → other.print = module.print →
      List.Forall₂ Function.Alike other.functions module.functions ∧
      other.exports = module.exports ∧ (other.functions ≠ [] → other.width = module.width) := by
  have reads := read_of_reads (reads_module plain)
  refine ⟨reads, fun other plain' sameText => ?_⟩
  have reads' := read_of_reads (reads_module plain')
  rw [sameText, reads, Option.some.injEq, List.cons.injEq] at reads'
  exact alike_of_moduleSexp reads'.1.symm

/-- Conditions with an empty arm and blocks side by side, behind a constant. -/
def nestedModule (value : Binary64) : Module where
  width := .f64
  functions :=
    [⟨"f", ["x", "π"], ["y"],
      [.block exitLabel [.localGet "x", .const value, .float .lt,
          .ifElse [] [.block "a" [], .block "a" [.i32Const (-1), .ifElse [.br exitLabel] []]]],
        .localGet resultSlot]⟩,
      ⟨"", [], [], []⟩]
  exports := [⟨"f", "f"⟩, ⟨"", "f"⟩]

/-- The constants are two values that are not numbers, which are written alike. -/
theorem read_print_nested :
    Sexp.read (nestedModule (.ofBits (2047 * twoTo 52 + 1))).print =
      some [(nestedModule (.ofBits (2047 * twoTo 52 + 1))).sexp] ∧
    List.Forall₂ Function.Alike (nestedModule (.ofBits (2047 * twoTo 52 + 2))).functions
      (nestedModule (.ofBits (2047 * twoTo 52 + 1))).functions := by
  have plain : ∀ name ∈ (nestedModule .zero).names, IsPlain name := by decide
  have sameText : (nestedModule (.ofBits (2047 * twoTo 52 + 2))).print =
      (nestedModule (.ofBits (2047 * twoTo 52 + 1))).print := by decide +kernel
  obtain ⟨reads, injective⟩ := @read_print (nestedModule (.ofBits (2047 * twoTo 52 + 1))) plain
  exact ⟨reads, (injective (nestedModule (.ofBits (2047 * twoTo 52 + 2))) plain sameText).1⟩

end NumScript.Wat
