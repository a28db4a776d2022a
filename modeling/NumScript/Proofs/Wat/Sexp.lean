import NumScript.Wat.Printer

/-!
# Nested lists

The text of a module is made of atoms, quoted strings and lists in parentheses. `Sexp.read` is a
reader for such texts that knows nothing of modules. It goes through the text once: its state
(`Reader`) holds what stands in the innermost list that is open, what stands in the lists around it
so far, and the atom or string at hand.

A printed text is made of pieces that end anywhere, so what is said about pieces has two forms. A
piece READS as some items when the reader adds just these, wherever the piece stands between items
(`Reads`). It reads so BEFORE A DELIMITER when its last atom may still be open (`ReadsDelimited`);
a blank or a parenthesis after the piece then ends the atom.
-/

namespace NumScript.Wat

/-! ## 1. The reader -/

/-- What a text is made of. -/
inductive Sexp where
  /-- A word. -/
  | atom (text : String)
  /-- A string in quotes. -/
  | quoted (text : String)
  /-- A list in parentheses. -/
  | list (items : List Sexp)

/-- The characters that end an atom: the blanks of the text format, and what begins something else. -/
def isDelimiter (c : Char) : Bool := c.isWhitespace || ['(', ')', '"', ';'].contains c

/-- What a reader is in the middle of. -/
inductive ReadMode where
  /-- Nothing. -/
  | between
  /-- An atom that begins with these characters. -/
  | atom (text : List Char)
  /-- A string that begins with these characters. -/
  | quoted (text : List Char)
  /-- A string that begins with these characters, after a backslash. -/
  | escaped (text : List Char)
  /-- A comment, which goes to the end of the line. -/
  | comment

/-- How far a text has been read. -/
structure Reader where
  /-- What the reader is in the middle of. -/
  mode : ReadMode
  /-- The items of the innermost open list so far. -/
  items : List Sexp
  /-- The items of the lists around it so far, from the inside out. -/
  outer : List (List Sexp)

namespace Reader

/-- The end of an atom, if the reader is in the middle of one. -/
def flush (reader : Reader) : Reader :=
  match reader.mode with
  | .atom text => ⟨.between, reader.items ++ [.atom (String.ofList text)], reader.outer⟩
  | _ => reader

/-- One more character of an atom, or the first one. -/
def extend (reader : Reader) (c : Char) : Reader :=
  match reader.mode with
  | .atom text => { reader with mode := .atom (text ++ [c]) }
  | _ => { reader with mode := .atom [c] }

/-- A delimiter between items. A closing parenthesis needs a list that is open. -/
def delimit (reader : Reader) (c : Char) : Option Reader :=
  if c = '(' then some ⟨.between, [], reader.items :: reader.outer⟩
  else if c = ')' then
    match reader.outer with
    | [] => none
    | items :: outer => some ⟨.between, items ++ [.list reader.items], outer⟩
  else if c = '"' then some { reader with mode := .quoted [] }
  else if c = ';' then some { reader with mode := .comment }
  else some reader

/-- The next character. -/
def step (reader : Reader) (c : Char) : Option Reader :=
  match reader.mode with
  | .quoted text =>
    if c = '"' then
      some ⟨.between, reader.items ++ [.quoted (String.ofList text)], reader.outer⟩
    else if c = '\\' then some { reader with mode := .escaped text }
    else some { reader with mode := .quoted (text ++ [c]) }
  | .escaped text => some { reader with mode := .quoted (text ++ [c]) }
  | .comment => some (if c = '\n' then { reader with mode := .between } else reader)
  | _ => if isDelimiter c then reader.flush.delimit c else some (reader.extend c)

/-- A run over a text. -/
def run (reader : Reader) (text : List Char) : Option Reader := text.foldlM step reader

/-- The items of a text that ends here, where no list and no string may be open. -/
def finish (reader : Reader) : Option (List Sexp) :=
  match reader.flush with
  | ⟨.between, items, []⟩ | ⟨.comment, items, []⟩ => some items
  | _ => none

end Reader

/-- The items of a whole text, if it can be read. -/
def Sexp.read (text : String) : Option (List Sexp) := do
  let reader ← Reader.run ⟨.between, [], []⟩ text.toList
  reader.finish

/-! ## 2. Pieces of a text -/

/-- A text that is read as these items, wherever it stands between items. -/
def Reads (text : String) (items : List Sexp) : Prop :=
  ∀ (before : List Sexp) (outer : List (List Sexp)),
    Reader.run ⟨.between, before, outer⟩ text.toList = some ⟨.between, before ++ items, outer⟩

/-- A text that is read as these items when a delimiter follows. -/
def ReadsDelimited (text : String) (items : List Sexp) : Prop :=
  ∀ (before : List Sexp) (outer : List (List Sexp)), ∃ reader,
    Reader.run ⟨.between, before, outer⟩ text.toList = some reader ∧
      reader.flush = ⟨.between, before ++ items, outer⟩

section Pieces

variable {first second text : String} {items more : List Sexp}

theorem run_append (reader : Reader) (first second : String) :
    reader.run (first ++ second).toList =
      (reader.run first.toList).bind fun middle => middle.run second.toList := by
  rw [String.toList_append, Reader.run, List.foldlM_append]
  rfl

theorem Reads.delimited (h : Reads text items) : ReadsDelimited text items :=
  fun before outer => ⟨_, h before outer, rfl⟩

theorem Reads.nil : Reads "" [] := by
  intro before outer
  rw [List.append_nil]
  rfl

theorem Reads.append (h : Reads first items) (h' : Reads second more) :
    Reads (first ++ second) (items ++ more) := by
  intro before outer
  rw [run_append, h before outer, Option.bind_some, h' (before ++ items) outer, List.append_assoc]

theorem Reads.append_delimited (h : Reads first items) (h' : ReadsDelimited second more) :
    ReadsDelimited (first ++ second) (items ++ more) := by
  intro before outer
  obtain ⟨reader, ran, flushed⟩ := h' (before ++ items) outer
  refine ⟨reader, ?_, by rw [flushed, List.append_assoc]⟩
  rw [run_append, h before outer, Option.bind_some, ran]

/-- A delimiter ends the atom before it. -/
theorem step_of_flush {reader : Reader} {c : Char} {before : List Sexp} {outer : List (List Sexp)}
    (flushed : reader.flush = ⟨.between, before, outer⟩) (delimiter : isDelimiter c = true) :
    reader.step c = Reader.delimit ⟨.between, before, outer⟩ c := by
  obtain ⟨mode, items, outer'⟩ := reader
  cases mode with
  | between | atom text =>
    rw [← flushed]
    exact if_pos delimiter
  | quoted text | escaped text | comment => cases flushed

theorem run_single (reader : Reader) (c : Char) : reader.run [c] = reader.step c := by
  rw [Reader.run, List.foldlM_cons]
  cases reader.step c with
  | none => rfl
  | some next => rfl

/-- A blank after a text ends its last atom. -/
theorem ReadsDelimited.blank (h : ReadsDelimited text items) {c : Char}
    (blank : c.isWhitespace = true) : Reads (text ++ String.ofList [c]) items := by
  intro before outer
  obtain ⟨reader, ran, flushed⟩ := h before outer
  have delimiter : isDelimiter c = true := by simp [isDelimiter, blank]
  have kept : Reader.delimit ⟨.between, before ++ items, outer⟩ c =
      some ⟨.between, before ++ items, outer⟩ := by
    simp only [Char.isWhitespace, Bool.or_eq_true, decide_eq_true_eq] at blank
    rcases blank with ((rfl | rfl) | rfl) | rfl <;> rfl
  rw [run_append, ran, Option.bind_some, String.toList_ofList, run_single,
    step_of_flush flushed delimiter, kept]

/-- Two texts with a blank between them. -/
theorem ReadsDelimited.spaced (h : ReadsDelimited first items) (h' : ReadsDelimited second more) :
    ReadsDelimited (first ++ " " ++ second) (items ++ more) :=
  (h.blank (c := ' ') rfl).append_delimited h'

/-- **Parentheses around a text make one list of it.** -/
theorem ReadsDelimited.list (h : ReadsDelimited text items) :
    Reads ("(" ++ text ++ ")") [.list items] := by
  intro before outer
  obtain ⟨reader, ran, flushed⟩ := h [] (before :: outer)
  have opened : Reader.run ⟨.between, before, outer⟩ "(".toList =
      some ⟨.between, [], before :: outer⟩ := rfl
  have closed : reader.run ")".toList = some ⟨.between, before ++ [.list items], outer⟩ :=
    (run_single reader ')').trans (step_of_flush flushed rfl)
  rw [run_append, run_append, opened, Option.bind_some, ran, Option.bind_some, closed]

/-- A mode that every character of a text extends ends with the whole text. -/
theorem run_grows {mode : List Char → ReadMode} {before : List Sexp} {outer : List (List Sexp)} :
    ∀ (rest start : List Char), (∀ c ∈ rest, ∀ start, Reader.step ⟨mode start, before, outer⟩ c =
      some ⟨mode (start ++ [c]), before, outer⟩) →
    Reader.run ⟨mode start, before, outer⟩ rest = some ⟨mode (start ++ rest), before, outer⟩
  | [], start, _ => by rw [List.append_nil]; rfl
  | c :: rest, start, grows => by
    obtain ⟨here, later⟩ := List.forall_mem_cons.mp grows
    have onward := run_grows rest (start ++ [c]) later
    rw [List.append_assoc] at onward
    rw [Reader.run, List.foldlM_cons, here start]
    exact onward

/-- A text without delimiters. -/
def Undelimited (text : String) : Prop := ∀ c ∈ text.toList, isDelimiter c = false

instance (text : String) : Decidable (Undelimited text) :=
  List.decidableBAll (isDelimiter · = false) text.toList

/-- A text that can be an atom. -/
def IsAtom (text : String) : Prop := text ≠ "" ∧ Undelimited text

instance (text : String) : Decidable (IsAtom text) := inferInstanceAs (Decidable (_ ∧ _))

theorem Undelimited.append (h : Undelimited first) (h' : Undelimited second) :
    Undelimited (first ++ second) := by
  rw [Undelimited, String.toList_append]
  exact List.forall_mem_append.mpr ⟨h, h'⟩

theorem IsAtom.append (h : IsAtom first) (h' : Undelimited second) : IsAtom (first ++ second) := by
  refine ⟨fun empty => ?_, h.2.append h'⟩
  exact h.1 (String.append_eq_empty_iff.mp empty).1

theorem Undelimited.append_atom (h : Undelimited first) (h' : IsAtom second) :
    IsAtom (first ++ second) := by
  refine ⟨fun empty => ?_, h.append h'.2⟩
  exact h'.1 (String.append_eq_empty_iff.mp empty).2

theorem readsDelimited_atom (text : String) (h : IsAtom text) :
    ReadsDelimited text [.atom text] := by
  intro before outer
  obtain ⟨nonempty, plain⟩ := h
  have flushed : Reader.flush ⟨.atom text.toList, before, outer⟩ =
      ⟨.between, before ++ [.atom (String.ofList text.toList)], outer⟩ := rfl
  rw [String.ofList_toList] at flushed
  refine ⟨_, ?_, flushed⟩
  cases eq : text.toList with
  | nil => exact absurd (String.toList_eq_nil_iff.mp eq) nonempty
  | cons c rest =>
    simp only [Undelimited, eq, ← Bool.not_eq_true, List.forall_mem_cons] at plain
    have begun : Reader.step ⟨.between, before, outer⟩ c = some ⟨.atom [c], before, outer⟩ :=
      if_neg plain.1
    rw [Reader.run, List.foldlM_cons, begun]
    exact run_grows rest [c] fun c mem start => if_neg (plain.2 c mem)

theorem reads_quoted (plain : ∀ c ∈ text.toList, c ≠ '"' ∧ c ≠ '\\') :
    Reads ("\"" ++ text ++ "\"") [.quoted text] := by
  intro before outer
  have opened : Reader.run ⟨.between, before, outer⟩ "\"".toList =
      some ⟨.quoted [], before, outer⟩ := rfl
  have grown : Reader.run ⟨.quoted [], before, outer⟩ text.toList =
      some ⟨.quoted text.toList, before, outer⟩ := by
    refine run_grows text.toList [] fun c mem start => ?_
    simp only [Reader.step, if_neg (plain c mem).1, if_neg (plain c mem).2]
  have closed : Reader.run ⟨.quoted text.toList, before, outer⟩ "\"".toList =
      some ⟨.between, before ++ [.quoted (String.ofList text.toList)], outer⟩ := rfl
  rw [String.ofList_toList] at closed
  rw [run_append, run_append, opened, Option.bind_some, grown, Option.bind_some, closed]

/-! ## 3. Lines -/

theorem reads_blanks (count : Nat) : Reads (String.ofList (List.replicate count ' ')) [] := by
  induction count with
  | zero => exact .nil
  | succ count ih =>
    have one := ih.delimited.blank (c := ' ') rfl
    rw [← String.ofList_append, ← List.replicate_succ'] at one
    exact one

theorem reads_line (depth : Nat) (h : ReadsDelimited text items) : Reads (line depth text) items :=
  ((reads_blanks (2 * depth)).append_delimited h).blank (c := '\n') rfl

/-- **Lines with a parenthesis that opens before and closes after other lines are one list.** -/
theorem reads_form (depth : Nat) (h : ReadsDelimited first items) (h' : Reads second more) :
    Reads (line depth ("(" ++ first) ++ second ++ line depth ")") [.list (items ++ more)] := by
  have inner := ((h.blank (c := '\n') rfl).append h').append (reads_blanks (2 * depth))
  have form := (reads_blanks (2 * depth)).append_delimited inner.delimited.list.delimited
  have lines := form.blank (c := '\n') rfl
  rw [List.nil_append, List.append_nil] at lines
  have text : line depth ("(" ++ first) ++ second ++ line depth ")" =
      String.ofList (List.replicate (2 * depth) ' ') ++ ("(" ++ (first ++ "\n" ++ second ++
        String.ofList (List.replicate (2 * depth) ' ')) ++ ")") ++ "\n" := by
    simp only [line, String.append_assoc]
  rw [text]
  exact lines

theorem reads_join {α : Type} {print : α → String} {sexp : α → Sexp} :
    ∀ {values : List α}, (∀ value ∈ values, Reads (print value) [sexp value]) →
    Reads (String.join (values.map print)) (values.map sexp)
  | [], _ => .nil
  | value :: rest, h => by
    obtain ⟨here, later⟩ := List.forall_mem_cons.mp h
    rw [List.map_cons, List.map_cons, String.join_cons]
    exact here.append (reads_join later)

/-- A text that is read as these items has no others. -/
theorem read_of_reads (h : Reads text items) : Sexp.read text = some items := by
  rw [Sexp.read, h [] []]
  rfl

end Pieces

end NumScript.Wat
