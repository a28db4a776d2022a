import NumScript.Number.Binary64

/-!
# What programs compute with

What a program means does not hang on what its numbers are. This file fixes what the meaning of a
script and the meaning of a module share:

* an ARITHMETIC interprets the constants, the operations and the comparisons in a type of numbers
  (`Arithmetic`); nothing is asked of it;
* a function keeps its numbers in named SLOTS (`Slots`); a slot that is not there can neither be read
  nor be given a new value;
* what is computed may append to the log of messages, and may fail (`Effect`).
-/

namespace NumScript

/-! ## 1. Numbers -/

/-- An interpretation of numbers, of the operations on them and of their comparisons. -/
structure Arithmetic (α : Type) where
  /-- The number that a constant stands for. -/
  const : Binary64 → α
  /-- The sum. -/
  add : α → α → α
  /-- The difference. -/
  sub : α → α → α
  /-- The product. -/
  mul : α → α → α
  /-- The quotient. -/
  div : α → α → α
  /-- The number with the other sign. -/
  neg : α → α
  /-- The square root. -/
  sqrt : α → α
  /-- Whether the first number is less than the second. -/
  lt : α → α → Bool
  /-- Whether the first number is greater than the second. -/
  gt : α → α → Bool
  /-- Whether the first number is the second or less. -/
  le : α → α → Bool
  /-- Whether the first number is the second or greater. -/
  ge : α → α → Bool
  /-- Whether two numbers are equal. -/
  eq : α → α → Bool
  /-- Whether two numbers differ. -/
  ne : α → α → Bool

/-- The number that the constant zero stands for. -/
def Arithmetic.zero {α : Type} (A : Arithmetic α) : α := A.const Binary64.zero

/-! ## 2. Slots -/

/-- The numbers of a function by their names. -/
def Slots (α : Type) := String → Option α

namespace Slots

variable {α : Type}

/-- No slots at all. -/
def empty : Slots α := fun _ => none

/-- The slots with this one set, whether it was there or not. -/
def insert (slots : Slots α) (name : String) (value : α) : Slots α := fun other =>
  if other = name then some value else slots other

/-- The slots with a new value for this one, which has to be there. -/
def assign (slots : Slots α) (name : String) (value : α) : Option (Slots α) :=
  if (slots name).isSome then some (slots.insert name value) else none

/-- The slots with several set, one after the other. -/
def insertAll (slots : Slots α) : List (String × α) → Slots α
  | [] => slots
  | (name, value) :: rest => (slots.insert name value).insertAll rest

@[simp] theorem insert_same (slots : Slots α) (name : String) (value : α) :
    slots.insert name value name = some value := if_pos rfl

theorem insert_other (slots : Slots α) {name other : String} (value : α) (h : other ≠ name) :
    slots.insert name value other = slots other := if_neg h

theorem insert_insert (slots : Slots α) (name : String) (first second : α) :
    (slots.insert name first).insert name second = slots.insert name second := by
  funext other
  by_cases h : other = name
  · subst h
    rw [insert_same, insert_same]
  · rw [insert_other _ _ h, insert_other _ _ h, insert_other _ _ h]

theorem insert_comm (slots : Slots α) {name name' : String} (value value' : α) (h : name ≠ name') :
    (slots.insert name value).insert name' value' = (slots.insert name' value').insert name value := by
  funext other
  by_cases h₁ : other = name
  · subst h₁
    rw [insert_other _ _ h, insert_same, insert_same]
  · rw [insert_other (slots.insert name' value') _ h₁]
    by_cases h₂ : other = name'
    · subst h₂
      rw [insert_same, insert_same]
    · rw [insert_other _ _ h₂, insert_other _ _ h₂, insert_other _ _ h₁]

theorem assign_of_isSome {slots : Slots α} {name : String} (value : α)
    (h : (slots name).isSome = true) : slots.assign name value = some (slots.insert name value) :=
  if_pos h

theorem isSome_insert {slots : Slots α} {other : String} (name : String) (value : α)
    (h : (slots other).isSome = true) : (slots.insert name value other).isSome = true := by
  by_cases same : other = name
  · subst same
    rw [insert_same, Option.isSome_some]
  · rw [insert_other _ _ same]
    exact h

/-- Where no name occurs twice, the order in which slots are set does not matter. -/
theorem insertAll_apply : ∀ {pairs : List (String × α)} (slots : Slots α) (name : String),
    (pairs.map Prod.fst).Nodup → slots.insertAll pairs name = (pairs.lookup name).or (slots name)
  | [], _, _, _ => rfl
  | (first, value) :: rest, slots, name, distinct => by
    rw [List.map_cons, List.nodup_cons] at distinct
    rw [insertAll, insertAll_apply _ _ distinct.2, List.lookup_cons]
    by_cases same : name = first
    · subst same
      have absent : rest.lookup name = none := by
        rw [List.lookup_eq_none_iff]
        intro pair mem
        rw [bne_iff_ne]
        rintro rfl
        exact distinct.1 (List.mem_map.mpr ⟨pair, mem, rfl⟩)
      rw [absent, insert_same, beq_self_eq_true]
      rfl
    · rw [insert_other _ _ same, beq_eq_false_iff_ne.mpr same]

end Slots

/-! ## 3. Effects -/

/-- A computation that may append to the log of messages and may fail. -/
abbrev Effect (β : Type) := StateT (List String) Option β

namespace Effect

/-- The computation that fails. -/
def fail {β : Type} : Effect β := fun _ => none

/-- The computation that gives the value, if there is one. -/
def ofOption {β : Type} : Option β → Effect β
  | some value => pure value
  | none => fail

/-- Appends a message to the log. -/
def say (message : String) : Effect Unit := fun log => some ((), log ++ [message])

@[simp] theorem ofOption_some {β : Type} (value : β) : ofOption (some value) = pure value := rfl

theorem ofOption_map_bind {β γ δ : Type} (value : Option β) (f : β → γ) (next : γ → Effect δ) :
    (ofOption (value.map f) >>= next) = (ofOption value >>= fun x => next (f x)) := by
  cases value <;> rfl

/-- Whatever the computation gives has this property. -/
def Ensures {β : Type} (effect : Effect β) (property : β → Prop) : Prop :=
  ∀ log value log', effect log = some (value, log') → property value

theorem ensures_pure {β : Type} {value : β} {property : β → Prop} (h : property value) :
    (pure value : Effect β).Ensures property := by
  intro log _ _ eq
  cases eq
  exact h

theorem ensures_fail {β : Type} {property : β → Prop} : (fail : Effect β).Ensures property :=
  nofun

theorem ensures_ofOption {β : Type} {found : Option β} {property : β → Prop}
    (h : ∀ value, found = some value → property value) : (ofOption found).Ensures property := by
  cases found with
  | none => exact ensures_fail
  | some value => exact ensures_pure (h value rfl)

theorem bind_eq_some {β γ : Type} {first : Effect β} {next : β → Effect γ} {log : List String}
    {result : γ × List String} (h : (first >>= next) log = some result) :
    ∃ value between, first log = some (value, between) ∧ next value between = some result := by
  obtain ⟨⟨value, between⟩, eq, eq'⟩ := Option.bind_eq_some_iff.mp h
  exact ⟨value, between, eq, eq'⟩

theorem Ensures.bind {β γ : Type} {first : Effect β} {next : β → Effect γ} {middle : β → Prop}
    {property : γ → Prop} (h : first.Ensures middle)
    (k : ∀ value, middle value → (next value).Ensures property) :
    (first >>= next).Ensures property := by
  intro log value log' eq
  obtain ⟨between, log'', eq₁, eq₂⟩ := bind_eq_some eq
  exact k between (h log between log'' eq₁) log'' value log' eq₂

theorem ensures_bind {β γ : Type} {first : Effect β} {next : β → Effect γ} {property : γ → Prop}
    (k : ∀ value, (next value).Ensures property) : (first >>= next).Ensures property := by
  have anything : first.Ensures fun _ => True := fun _ _ _ _ => trivial
  exact anything.bind fun value _ => k value

/-- What follows a computation only has to agree on what the computation can give. -/
theorem Ensures.bind_congr {β γ : Type} {first : Effect β} {next next' : β → Effect γ}
    {property : β → Prop} (h : first.Ensures property)
    (eq : ∀ value, property value → next value = next' value) :
    (first >>= next) = (first >>= next') := by
  funext log
  show (first log).bind _ = (first log).bind _
  cases found : first log with
  | none => rfl
  | some pair =>
    obtain ⟨value, log'⟩ := pair
    show next value log' = next' value log'
    rw [eq value (h log value log' found)]

end Effect

end NumScript
