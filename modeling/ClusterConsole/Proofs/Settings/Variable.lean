import ClusterConsole.Proofs.Number.Decimal
import ClusterConsole.Settings.Environment

/-! # Values of variables

Which texts are truth values and which are numbers of milliseconds. Blanks around them do not count, nor does the case
of the letters of a truth value. -/

namespace ClusterConsole.Settings

/-- The words for a truth value. -/
def wordsFor : Bool → List String
  | true => ["1", "true", "yes"]
  | false => ["0", "false", "no"]

/-- A text says a truth value: without the blanks around it, and in lower case, it is a word for it. -/
def SaysTruth (text : String) (b : Bool) : Prop :=
  String.ofList (lowerCase (Blank.trim text.toList)) ∈ wordsFor b

theorem not_mem_wordsFor {word : String} (h : word ∈ wordsFor true) : word ∉ wordsFor false := by
  simp only [wordsFor, List.mem_cons, List.not_mem_nil, or_false] at h
  rcases h with rfl | rfl | rfl <;> decide

theorem word?_eq_some_iff {text : String} {b : Bool} : word? text = some b ↔ SaysTruth text b := by
  unfold word? SaysTruth
  generalize String.ofList (lowerCase (Blank.trim text.toList)) = word
  show (if word ∈ wordsFor true then some true else if word ∈ wordsFor false then some false else none) = some b ↔ _
  by_cases htrue : word ∈ wordsFor true
  · rw [if_pos htrue]
    cases b with
    | true => exact iff_of_true rfl htrue
    | false => exact iff_of_false nofun (not_mem_wordsFor htrue)
  · rw [if_neg htrue]
    by_cases hfalse : word ∈ wordsFor false
    · rw [if_pos hfalse]
      cases b with
      | true => exact iff_of_false nofun htrue
      | false => exact iff_of_true rfl hfalse
    · rw [if_neg hfalse]
      cases b with
      | true => exact iff_of_false nofun htrue
      | false => exact iff_of_false nofun hfalse

/-- A text says a number: without the blanks around it, it is a plus or nothing, and then digits of that value. -/
def SaysNumber (text : String) (n : Nat) : Prop :=
  ∃ plus digits, Blank.trim text.toList = plus ++ digits ∧ (plus = [] ∨ plus = ['+']) ∧ digits ≠ [] ∧
    (∀ c ∈ digits, c.isDigit) ∧ Nat.ofDigitChars 10 digits 0 = n

theorem millis?_eq_some_iff {text : String} {n : UInt64} : millis? text = some n ↔ SaysNumber text n.toNat :=
  Decimal.word?_eq_some_iff

end ClusterConsole.Settings
