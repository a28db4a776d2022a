import NumScript.Wat.Module

/-!
# Comparing modules

Two bodies are the same when they hold the same instructions in the same order. `same` compares them,
and the facts after it say that this is equality; so equality of modules can be decided.
-/

namespace NumScript.Wat

mutual
/-- Whether two instructions are the same. -/
def Instruction.same : Instruction → Instruction → Bool
  | .const value, .const value' => value == value'
  | .i32Const value, .i32Const value' => value == value'
  | .localGet name, .localGet name' => name == name'
  | .localSet name, .localSet name' => name == name'
  | .float operation, .float operation' => operation == operation'
  | .call name, .call name' => name == name'
  | .drop, .drop => true
  | .ifElse consequent alternate, .ifElse consequent' alternate' =>
    Instruction.allSame consequent consequent' && Instruction.allSame alternate alternate'
  | .block label body, .block label' body' => label == label' && Instruction.allSame body body'
  | .br label, .br label' => label == label'
  | _, _ => false

/-- Whether two bodies are the same. -/
def Instruction.allSame : List Instruction → List Instruction → Bool
  | [], [] => true
  | instruction :: rest, instruction' :: rest' =>
    instruction.same instruction' && Instruction.allSame rest rest'
  | _, _ => false
end

mutual
theorem Instruction.same_self : ∀ instruction : Instruction, instruction.same instruction = true
  | .const _ => by simp [Instruction.same]
  | .i32Const _ => by simp [Instruction.same]
  | .localGet _ => by simp [Instruction.same]
  | .localSet _ => by simp [Instruction.same]
  | .float _ => by simp [Instruction.same]
  | .call _ => by simp [Instruction.same]
  | .drop => by simp [Instruction.same]
  | .ifElse consequent alternate => by
    simp [Instruction.same, Instruction.allSame_self consequent, Instruction.allSame_self alternate]
  | .block _ body => by simp [Instruction.same, Instruction.allSame_self body]
  | .br _ => by simp [Instruction.same]

theorem Instruction.allSame_self : ∀ body : List Instruction, Instruction.allSame body body = true
  | [] => rfl
  | instruction :: rest => by
    simp [Instruction.allSame, instruction.same_self, Instruction.allSame_self rest]
end

mutual
theorem Instruction.eq_of_same : ∀ {first second : Instruction},
    first.same second = true → first = second
  | .const _, second, h => by
    cases second <;> simp only [Instruction.same, beq_iff_eq, Bool.false_eq_true] at h
    rw [h]
  | .i32Const _, second, h => by
    cases second <;> simp only [Instruction.same, beq_iff_eq, Bool.false_eq_true] at h
    rw [h]
  | .localGet _, second, h => by
    cases second <;> simp only [Instruction.same, beq_iff_eq, Bool.false_eq_true] at h
    rw [h]
  | .localSet _, second, h => by
    cases second <;> simp only [Instruction.same, beq_iff_eq, Bool.false_eq_true] at h
    rw [h]
  | .float _, second, h => by
    cases second <;> simp only [Instruction.same, beq_iff_eq, Bool.false_eq_true] at h
    rw [h]
  | .call _, second, h => by
    cases second <;> simp only [Instruction.same, beq_iff_eq, Bool.false_eq_true] at h
    rw [h]
  | .drop, second, h => by
    cases second <;> simp only [Instruction.same, Bool.false_eq_true] at h
    rfl
  | .ifElse consequent alternate, second, h => by
    cases second <;> simp only [Instruction.same, Bool.and_eq_true, Bool.false_eq_true] at h
    rw [Instruction.eq_of_allSame h.1, Instruction.eq_of_allSame h.2]
  | .block _ body, second, h => by
    cases second <;>
      simp only [Instruction.same, beq_iff_eq, Bool.and_eq_true, Bool.false_eq_true] at h
    rw [h.1, Instruction.eq_of_allSame h.2]
  | .br _, second, h => by
    cases second <;> simp only [Instruction.same, beq_iff_eq, Bool.false_eq_true] at h
    rw [h]

theorem Instruction.eq_of_allSame : ∀ {first second : List Instruction},
    Instruction.allSame first second = true → first = second
  | [], second, h => by
    cases second <;> simp only [Instruction.allSame, Bool.false_eq_true] at h
    rfl
  | instruction :: rest, second, h => by
    cases second <;> simp only [Instruction.allSame, Bool.and_eq_true, Bool.false_eq_true] at h
    rw [Instruction.eq_of_same h.1, Instruction.eq_of_allSame h.2]
end

instance : DecidableEq Instruction := fun first second =>
  decidable_of_iff (first.same second = true)
    ⟨Instruction.eq_of_same, fun h => h ▸ first.same_self⟩

deriving instance DecidableEq for Function, Module

end NumScript.Wat
