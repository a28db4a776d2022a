import NumScript.Proofs.Wat.Sexp

/-!
# The text of a module is one list

Every part of a module stands for a list (`Instruction.sexp`, `Function.sexp`, `Export.sexp`,
`Module.sexp`): a word, the names and numbers it is about, and the lists of what is inside it. The
printer writes such a list over many lines, its opening and its closing parenthesis far apart; the
main statement, `reads_module`, is that the text of a module is nevertheless read as just its list.

Names are written as they are, so this needs names that are PLAIN (`IsPlain`): without blanks,
parentheses, quotes, backslashes and semicolons. Numbers never hold any of these.
-/

namespace NumScript.Wat

/-! ## 1. Numbers -/

theorem isDelimiter_of_isDigit {c : Char} (digit : c.isDigit = true) : isDelimiter c = false := by
  rw [← Bool.not_eq_true]
  intro delimiter
  simp only [isDelimiter, Char.isWhitespace, Bool.or_eq_true, decide_eq_true_eq,
    List.contains_iff_mem, List.mem_cons, List.not_mem_nil, or_false] at delimiter
  rcases delimiter with (((rfl | rfl) | rfl) | rfl) | rfl | rfl | rfl | rfl <;> cases digit

/-- Some of the digits of a number. -/
theorem undelimited_digits {n : Nat} {digits : List Char}
    (among : ∀ c ∈ digits, c ∈ Nat.toDigits 10 n) : Undelimited (String.ofList digits) := by
  intro c mem
  rw [String.toList_ofList] at mem
  have digit : c.isDigit = true := Nat.isDigit_of_mem_toDigits (by omega) (by omega) (among c mem)
  exact isDelimiter_of_isDigit digit

theorem isAtom_toDigits (n : Nat) : IsAtom (String.ofList (Nat.toDigits 10 n)) := by
  refine ⟨fun empty => ?_, undelimited_digits fun _ mem => mem⟩
  rw [← String.toList_eq_nil_iff, String.toList_ofList] at empty
  exact Nat.toDigits_ne_nil empty

theorem undelimited_zeros (count : Nat) : Undelimited (zeros count) := by
  intro c mem
  rw [zeros, String.toList_ofList] at mem
  rw [List.eq_of_mem_replicate mem]
  rfl

theorem isAtom_int (n : Int) : IsAtom (toString n) := by
  cases n with
  | ofNat n => exact isAtom_toDigits n
  | negSucc n => exact @Undelimited.append_atom "-" _ (by decide) (isAtom_toDigits (n + 1))

theorem isAtom_plain (d : Decimal) : IsAtom (d.plain false) := by
  have digits := isAtom_toDigits d.digits
  simp only [Decimal.plain, Bool.false_eq_true, if_false]
  split
  · exact (digits.append (undelimited_zeros _)).append (by decide)
  · split
    · refine IsAtom.append (Undelimited.append_atom ?_ (by decide)) ?_
      · exact undelimited_digits fun _ mem => List.mem_of_mem_take mem
      · exact undelimited_digits fun _ mem => List.mem_of_mem_drop mem
    · exact Undelimited.append_atom (.append (by decide) (undelimited_zeros _)) digits

theorem isAtom_render (value : Binary64) : IsAtom (floatStyle.render value) := by
  unfold NumberStyle.render
  split
  · decide
  · split <;> decide
  · rename_i significand scale _
    have sign : Undelimited (if value.isNegative then "-" else "") := by split <;> decide
    have magnitude : IsAtom (floatStyle.renderFinite significand scale) := by
      unfold NumberStyle.renderFinite
      split
      · decide
      · exact isAtom_plain _
    exact sign.append_atom magnitude

/-! ## 2. Names -/

/-- A name that does not disturb the text around it. -/
def IsPlain (name : String) : Prop :=
  ∀ c ∈ name.toList, c.isWhitespace = false ∧ c ∉ ['(', ')', '"', '\\', ';']

instance (name : String) : Decidable (IsPlain name) := List.decidableBAll _ _

mutual
/-- The names that an instruction refers to, and the labels inside it. -/
def Instruction.names : Instruction → List String
  | .localGet name | .localSet name | .call name | .br name => [name]
  | .ifElse consequent alternate => bodyNames consequent ++ bodyNames alternate
  | .block label body => label :: bodyNames body
  | _ => []

/-- The names in a body. -/
def bodyNames : List Instruction → List String
  | [] => []
  | instruction :: rest => instruction.names ++ bodyNames rest
end

/-- The names in a function. -/
def Function.names (function : Function) : List String :=
  function.name :: (function.params ++ function.locals ++ bodyNames function.body)

/-- The names in a module. -/
def Module.names (module : Module) : List String :=
  module.functions.flatMap Function.names ++
    module.exports.flatMap fun item => [item.name, item.function]

/-- A name as it stands in instructions. -/
def identifier (name : String) : String := "$" ++ name

theorem isAtom_identifier {name : String} (plain : IsPlain name) : IsAtom (identifier name) := by
  refine @IsAtom.append "$" name (by decide) fun c mem => ?_
  obtain ⟨blank, special⟩ := plain c mem
  simp_all [isDelimiter]

/-! ## 3. Modules as nested lists -/

/-- A list of words. -/
def Sexp.words (words : List String) : Sexp := .list (words.map .atom)

mutual
/-- The list that an instruction stands for. -/
def Instruction.sexp (width : FloatWidth) : Instruction → Sexp
  | .const value => .words [width.typeName ++ ".const", floatStyle.render value]
  | .i32Const value => .words ["i32.const", toString value.toInt]
  | .localGet name => .words ["local.get", identifier name]
  | .localSet name => .words ["local.set", identifier name]
  | .float operation => .words [width.typeName ++ "." ++ operation.mnemonic]
  | .call name => .words ["call", identifier name]
  | .drop => .words ["drop"]
  | .ifElse consequent alternate =>
    .list [.atom "if", .list (.atom "then" :: bodySexps width consequent),
      .list (.atom "else" :: bodySexps width alternate)]
  | .block label body =>
    .list (.atom "block" :: .atom (identifier label) :: bodySexps width body)
  | .br label => .words ["br", identifier label]

/-- The lists that a body stands for. -/
def bodySexps (width : FloatWidth) : List Instruction → List Sexp
  | [] => []
  | instruction :: rest => instruction.sexp width :: bodySexps width rest
end

/-- A local or a parameter with its type. -/
def typedSexp (word : String) (width : FloatWidth) (name : String) : Sexp :=
  .words [word, identifier name, width.typeName]

/-- The list that a function stands for. -/
def Function.sexp (width : FloatWidth) (function : Function) : Sexp :=
  .list (.atom "func" :: .atom (identifier function.name) ::
    (function.params.map (typedSexp "param" width) ++ .words ["result", width.typeName] ::
      typedSexp "local" width resultSlot ::
      (function.locals.map (typedSexp "local" width) ++ bodySexps width function.body)))

/-- The list that an export stands for. -/
def Export.sexp (item : Export) : Sexp :=
  .list [.atom "export", .quoted item.name, .words ["func", identifier item.function]]

/-- The two imports and the message, which stand at the beginning of every module. -/
def preambleSexps : List Sexp :=
  [.list [.atom "import", .quoted "js", .quoted logFunction,
      .list [.atom "func", .atom (identifier logFunction), .words ["param", "i32"],
        .words ["param", "i32"]]],
    .list [.atom "import", .quoted "js", .quoted "mem", .words ["memory", "1"]],
    .list [.atom "data", .words ["i32.const", "0"], .quoted faultMessage]]

/-- The list that a module stands for. -/
def Module.sexp (module : Module) : Sexp :=
  .list (.atom "module" :: (preambleSexps ++ module.functions.map (Function.sexp module.width) ++
    module.exports.map Export.sexp))

/-! ## 4. Printed modules are read as these lists -/

/-- Words with blanks between them. -/
def spaced : List String → String
  | [] => ""
  | [word] => word
  | word :: rest => word ++ " " ++ spaced rest

theorem readsDelimited_spaced : ∀ {words : List String}, (∀ word ∈ words, IsAtom word) →
    ReadsDelimited (spaced words) (words.map .atom)
  | [], _ => Reads.nil.delimited
  | [word], atoms => readsDelimited_atom word (atoms word List.mem_cons_self)
  | word :: next :: rest, atoms => by
    obtain ⟨here, later⟩ := List.forall_mem_cons.mp atoms
    exact (readsDelimited_atom word here).spaced (readsDelimited_spaced later)

theorem reads_words {words : List String} (atoms : ∀ word ∈ words, IsAtom word) :
    Reads ("(" ++ spaced words ++ ")") [.words words] :=
  (readsDelimited_spaced atoms).list

/-- An instruction of one word. -/
theorem reads_word (depth : Nat) {word : String} (atom : IsAtom word) :
    Reads (line depth ("(" ++ word ++ ")")) [.words [word]] :=
  reads_line depth (reads_words (List.forall_mem_singleton.mpr atom)).delimited

/-- An instruction of two words. -/
theorem reads_pair (depth : Nat) {word operand : String} (atom : IsAtom word)
    (atom' : IsAtom operand) :
    Reads (line depth ("(" ++ (word ++ " " ++ operand) ++ ")")) [.words [word, operand]] := by
  have atoms : ∀ text ∈ [word, operand], IsAtom text := by
    rw [List.forall_mem_cons, List.forall_mem_singleton]
    exact ⟨atom, atom'⟩
  exact reads_line depth (reads_words atoms).delimited

/-- An instruction with a name. -/
theorem reads_named (depth : Nat) {start word name : String} (opened : start = "(" ++ word ++ " $")
    (atom : IsAtom word) (plain : IsPlain name) :
    Reads (line depth (start ++ name ++ ")")) [.words [word, identifier name]] := by
  have text : start ++ name ++ ")" = "(" ++ (word ++ " " ++ identifier name) ++ ")" :=
    String.toList_inj.mp (by simp [opened, identifier])
  rw [text]
  exact reads_pair depth atom (isAtom_identifier plain)

theorem isAtom_typeName (width : FloatWidth) : IsAtom width.typeName := by
  cases width <;> decide

theorem undelimited_mnemonic (operation : FloatOperation) : Undelimited operation.mnemonic := by
  cases operation <;> decide

-- The depth only moves lines to the right, so it is free here and the induction is on the tree.
mutual
theorem reads_print (width : FloatWidth) : ∀ (instruction : Instruction) (depth : Nat),
    (∀ name ∈ instruction.names, IsPlain name) →
    Reads (instruction.print width depth) [instruction.sexp width]
  | .const value, depth, _ => by
    have text : "(" ++ width.typeName ++ ".const " ++ floatStyle.render value ++ ")" =
        "(" ++ (width.typeName ++ ".const" ++ " " ++ floatStyle.render value) ++ ")" :=
      String.toList_inj.mp (by simp)
    rw [Instruction.print, text]
    exact reads_pair depth ((isAtom_typeName width).append (by decide)) (isAtom_render value)
  | .i32Const value, depth, _ => by
    have text : "(i32.const " ++ toString value.toInt ++ ")" =
        "(" ++ ("i32.const" ++ " " ++ toString value.toInt) ++ ")" :=
      String.toList_inj.mp (by simp)
    rw [Instruction.print, text]
    exact reads_pair depth (by decide) (isAtom_int _)
  | .localGet name, depth, plain => by
    rw [Instruction.print, Instruction.sexp]
    exact reads_named depth rfl (by decide) (plain name List.mem_cons_self)
  | .localSet name, depth, plain => by
    rw [Instruction.print, Instruction.sexp]
    exact reads_named depth rfl (by decide) (plain name List.mem_cons_self)
  | .call name, depth, plain => by
    rw [Instruction.print, Instruction.sexp]
    exact reads_named depth rfl (by decide) (plain name List.mem_cons_self)
  | .br label, depth, plain => by
    rw [Instruction.print, Instruction.sexp]
    exact reads_named depth rfl (by decide) (plain label List.mem_cons_self)
  | .float operation, depth, _ => by
    have atom : IsAtom (width.typeName ++ "." ++ operation.mnemonic) :=
      ((isAtom_typeName width).append (by decide)).append (undelimited_mnemonic operation)
    have reads := reads_word depth atom
    simp only [← String.append_assoc] at reads
    rw [Instruction.print, Instruction.sexp]
    exact reads
  | .drop, depth, _ => by
    have text : "(drop)" = "(" ++ "drop" ++ ")" := rfl
    rw [Instruction.print, text]
    exact reads_word depth (by decide)
  | .ifElse consequent alternate, depth, plain => by
    rw [Instruction.names, List.forall_mem_append] at plain
    have first := reads_form (depth + 1) (readsDelimited_atom "then" (by decide))
      (reads_printBody width consequent (depth + 2) plain.1)
    have second := reads_form (depth + 1) (readsDelimited_atom "else" (by decide))
      (reads_printBody width alternate (depth + 2) plain.2)
    have whole := reads_form depth (readsDelimited_atom "if" (by decide)) (first.append second)
    have text : "(if" = "(" ++ "if" := rfl
    have text' : "(then" = "(" ++ "then" := rfl
    have text'' : "(else" = "(" ++ "else" := rfl
    rw [Instruction.print, Instruction.sexp, text, text', text'']
    simpa only [String.append_assoc, List.cons_append, List.nil_append] using whole
  | .block label body, depth, plain => by
    rw [Instruction.names, List.forall_mem_cons] at plain
    have head := (readsDelimited_atom "block" (by decide)).spaced
      (readsDelimited_atom _ (isAtom_identifier plain.1))
    have whole := reads_form depth head (reads_printBody width body (depth + 1) plain.2)
    have text : "(block $" ++ label = "(" ++ ("block" ++ " " ++ identifier label) :=
      String.toList_inj.mp (by simp [identifier])
    rw [Instruction.print, text]
    exact whole

theorem reads_printBody (width : FloatWidth) : ∀ (body : List Instruction) (depth : Nat),
    (∀ name ∈ bodyNames body, IsPlain name) →
    Reads (printBody width depth body) (bodySexps width body)
  | [], depth, _ => .nil
  | instruction :: rest, depth, plain => by
    rw [bodyNames, List.forall_mem_append] at plain
    rw [printBody, bodySexps]
    exact (reads_print width instruction depth plain.1).append
      (reads_printBody width rest depth plain.2)
end

theorem reads_typedName (word : String) (atom : IsAtom word) (width : FloatWidth) {name : String}
    (plain : IsPlain name) : Reads (typedName word width name) [typedSexp word width name] := by
  have atoms : ∀ text ∈ [word, identifier name, width.typeName], IsAtom text := by
    rw [List.forall_mem_cons, List.forall_mem_cons, List.forall_mem_singleton]
    exact ⟨atom, isAtom_identifier plain, isAtom_typeName width⟩
  have text : typedName word width name =
      "(" ++ spaced [word, identifier name, width.typeName] ++ ")" :=
    String.toList_inj.mp (by simp [typedName, spaced, identifier])
  rw [text]
  exact reads_words atoms

/-- A text and others after it, each after a blank. -/
theorem ReadsDelimited.spaced_join {α : Type} {print : α → String} {sexp : α → Sexp} :
    ∀ {values : List α} {text : String} {items : List Sexp}, ReadsDelimited text items →
    (∀ value ∈ values, Reads (print value) [sexp value]) →
    ReadsDelimited (text ++ String.join (values.map fun value => " " ++ print value))
      (items ++ values.map sexp)
  | [], text, items, h, _ => by
    simpa using h
  | value :: rest, text, items, h, each => by
    obtain ⟨here, later⟩ := List.forall_mem_cons.mp each
    have onward := (h.spaced here.delimited).spaced_join later
    rw [List.map_cons, List.map_cons, String.join_cons]
    simpa [String.append_assoc] using onward

theorem reads_function (width : FloatWidth) {function : Function}
    (plain : ∀ name ∈ function.names, IsPlain name) :
    Reads (function.print width) [function.sexp width] := by
  rw [Function.names, List.forall_mem_cons, List.forall_mem_append, List.forall_mem_append] at plain
  obtain ⟨named, ⟨params, locals⟩, body⟩ := plain
  have atoms : ∀ text ∈ ["result", width.typeName], IsAtom text := by
    rw [List.forall_mem_cons, List.forall_mem_singleton]
    exact ⟨by decide, isAtom_typeName width⟩
  have head := (((readsDelimited_atom "func" (by decide)).spaced
    (readsDelimited_atom _ (isAtom_identifier named))).spaced_join fun param mem =>
      reads_typedName "param" (by decide) width (params param mem)).spaced
    (reads_words atoms).delimited
  have resultPlain : IsPlain resultSlot := by decide
  have slot := reads_line 2 (reads_typedName "local" (by decide) width resultPlain).delimited
  have slots := reads_join fun name mem => reads_line 2
    (reads_typedName "local" (by decide) width (locals name mem)).delimited
  have whole := reads_form 1 head ((slot.append slots).append (reads_printBody width _ 2 body))
  have text : "(func $" ++ function.name ++ String.join (function.params.map fun param => " " ++
        typedName "param" width param) ++ " (result " ++ width.typeName ++ ")" =
      "(" ++ ("func" ++ " " ++ identifier function.name ++ String.join (function.params.map
        fun param => " " ++ typedName "param" width param) ++ " " ++
        ("(" ++ spaced ["result", width.typeName] ++ ")")) :=
    String.toList_inj.mp (by simp [identifier, spaced])
  rw [Function.print, text]
  simpa [Function.sexp, String.append_assoc] using whole

theorem reads_export {item : Export} (plain : IsPlain item.name) (plain' : IsPlain item.function) :
    Reads item.print [item.sexp] := by
  have quoted : ∀ c ∈ item.name.toList, c ≠ '"' ∧ c ≠ '\\' := by
    intro c mem
    have special := (plain c mem).2
    simp_all
  have atoms : ∀ text ∈ ["func", identifier item.function], IsAtom text := by
    rw [List.forall_mem_cons, List.forall_mem_singleton]
    exact ⟨by decide, isAtom_identifier plain'⟩
  have inner := ((readsDelimited_atom "export" (by decide)).spaced
    (reads_quoted quoted).delimited).spaced (reads_words atoms).delimited
  have text : "(export \"" ++ item.name ++ "\" (func $" ++ item.function ++ "))" =
      "(" ++ ("export" ++ " " ++ ("\"" ++ item.name ++ "\"") ++ " " ++
        ("(" ++ spaced ["func", identifier item.function] ++ ")")) ++ ")" :=
    String.toList_inj.mp (by simp [identifier, spaced])
  rw [Export.print, text]
  exact reads_line 1 inner.list.delimited

/-- Each of these lines is fixed, so the reader is run on it. -/
theorem reads_preamble :
    Reads (line 1 ("(import \"js\" \"" ++ logFunction ++ "\" (func $" ++ logFunction ++
      " (param i32) (param i32)))") ++ line 1 "(import \"js\" \"mem\" (memory 1))" ++
      line 1 ("(data (i32.const 0) \"" ++ faultMessage ++ "\")")) preambleSexps := by
  show Reads _ ([_] ++ [_] ++ [_])
  refine .append (.append ?_ ?_) ?_
  · exact fun before outer => rfl
  · exact fun before outer => rfl
  · exact fun before outer => rfl

/-- **The text of a module is one list, which says what the module is.** -/
theorem reads_module {module : Module} (plain : ∀ name ∈ module.names, IsPlain name) :
    Reads module.print [module.sexp] := by
  rw [Module.names, List.forall_mem_append] at plain
  obtain ⟨inFunctions, inExports⟩ := plain
  have functions := reads_join fun function mem => reads_function module.width
    fun name inFunction => inFunctions name (List.mem_flatMap.mpr ⟨function, mem, inFunction⟩)
  have exports := reads_join fun item mem => reads_export
    (inExports item.name (List.mem_flatMap.mpr ⟨item, mem, List.mem_cons_self⟩))
    (inExports item.function
      (List.mem_flatMap.mpr ⟨item, mem, List.mem_cons_of_mem _ List.mem_cons_self⟩))
  have whole := reads_form 0 (readsDelimited_atom "module" (by decide))
    ((reads_preamble.append functions).append exports)
  have text : "(module" = "(" ++ "module" := rfl
  rw [Module.print, preamble, Module.sexp, text]
  simpa only [String.append_assoc, List.cons_append, List.nil_append] using whole

end NumScript.Wat
