import ClusterConsole.Json.Reader
import ClusterConsole.Proofs.Text.Reading
import ClusterConsole.Proofs.Text.Utf8

/-! # Reading what is written

A reader reads a text as a value if it does so wherever the text stands and a value may end: before a comma, a closing
bracket or brace, a blank, or the end of the document. It stops right behind the text. -/

namespace ClusterConsole.Json
open Ascii

/-- What may follow a value. -/
inductive AtBreak : Input → Prop where
  | nil : AtBreak []
  | cons {c : Char} (h : c = ',' ∨ c = ']' ∨ c = '\x7d' ∨ c = ' ' ∨ c = '\n' ∨ c = '\t' ∨ c = '\r') (rest : Input) :
    AtBreak (byte c :: rest)

/-- Wherever a value may end, the reader reads the text as this value. -/
def Reads {α : Type} (read : Input → Except Fault (α × Input)) (text : List Char) (x : α) : Prop :=
  ∀ rest, AtBreak rest → read (Utf8.encode text ++ rest) = .ok (x, rest)

/-- Wherever a value may end, the reader refuses the text for this cause. -/
def Refuses {α : Type} (read : Input → Except Fault (α × Input)) (text : List Char) (cause : Cause) : Prop :=
  ∀ rest, AtBreak rest → ∃ left, read (Utf8.encode text ++ rest) = .error ⟨cause, .settled left⟩

theorem skipSpace_cons {b : UInt8} (h : isSpace b = false) (rest : Input) : skipSpace (b :: rest) = b :: rest := by
  rw [skipSpace, List.dropWhile_cons_of_neg (by simp [h])]

end ClusterConsole.Json
