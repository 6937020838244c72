import ClusterConsole.Json.Value
import ClusterConsole.Proofs.Json.Number

/-! # What readers give

A property of the values that a reader gives, whatever the document, passes to the readers that are made of it. Of an
object it is kept as an invariant, from one member to the next. -/

namespace ClusterConsole.Json
open Ascii

/-- All values that the reader gives have the property. -/
def Gives {α : Type} (P : α → Prop) (read : Input → Except Fault (α × Input)) : Prop :=
  ∀ input, Yields (P ·.1) (read input)

namespace Gives
variable {α : Type} {P : α → Prop} {read : Input → Except Fault (α × Input)}

/-- Of nothing, anything holds. -/
theorem optional (h : Gives P read) : Gives (fun found => ∀ x, found = some x → P x) (optional read) := by
  intro input
  unfold Json.optional
  split
  · exact .error _
  · split
    · exact .after fun _ => .ok nofun
    · refine (h _).bind fun ⟨x, rest⟩ hx => .ok ?_
      rintro y ⟨⟩
      exact hx

theorem once (h : Gives P read) (name : String) (sofar : Option α) : Gives P (once name sofar read) := by
  intro input
  unfold Json.once
  split
  · exact .error _
  · exact .after fun rest => h rest

theorem element? (h : Gives P read) (first : Bool) :
    Gives (fun found => ∀ x, found = some x → P x) (element? read first) := by
  intro input
  unfold Json.element?
  refine .after fun next => ?_
  split
  · exact .ok nofun
  · refine (h _).bind fun ⟨x, rest⟩ hx => .ok ?_
    rintro y ⟨⟩
    exact hx

theorem enclosed {close : Input → Except Fault Input} {leave : Input → Input} (h : Gives P read) :
    Gives P (enclosed read close leave) := by
  intro input
  unfold Json.enclosed
  split
  · exact .error _
  · rename_i x rest hread
    split
    · exact .error _
    · exact .ok (h _ (x, rest) hread)

theorem elements (h : Gives P read) : Gives (fun xs => ∀ x ∈ xs, P x) (elements read) := by
  have within : ∀ limit first, Gives (fun xs => ∀ x ∈ xs, P x) (elementsWithin read limit first) := by
    intro limit
    induction limit with
    | zero => exact fun _ input => .error _
    | succ limit ih =>
      intro first input
      unfold elementsWithin
      refine .after fun next => ?_
      split
      · exact .ok nofun
      · refine (h _).bind fun ⟨x, rest⟩ hx => (ih false rest).bind fun ⟨xs, rest⟩ hxs => .ok ?_
        exact List.forall_mem_cons.mpr ⟨hx, hxs⟩
  exact fun input => within _ true input

theorem array {element : Nat → Input → Except Fault (α × Input)} (levels : Nat)
    (h : ∀ levels, Gives P (element levels)) : Gives (fun xs => ∀ x ∈ xs, P x) (array levels element) := by
  intro input
  unfold Json.array
  split
  · exact .error _
  · split
    · cases levels with
      | zero => exact .error _
      | succ levels => exact (h levels).elements.enclosed _
    · exact .error _

/-- What holds at the start and is kept by every member holds at the end. -/
theorem members {member : α → String → Input → Except Fault (α × Input)} {start : α} (hstart : P start)
    (hmember : ∀ s name, P s → Gives P (member s name)) : Gives P (members member start) := by
  have within : ∀ limit first s, P s → Gives P (membersWithin member limit first s) := by
    intro limit
    induction limit with
    | zero => exact fun _ _ _ input => .error _
    | succ limit ih =>
      intro first s hs input
      unfold membersWithin
      refine .after fun next => ?_
      split
      · exact .ok hs
      · refine .after fun ⟨name, rest⟩ => ?_
        exact (hmember s name hs rest).bind fun ⟨s', rest'⟩ hs' => ih false s' hs' rest'
  exact fun input => within _ true start hstart input

theorem record {ofElements ofMembers : Nat → Input → Except Fault (α × Input)} (name : String) (levels : Nat)
    (helements : ∀ levels, Gives P (ofElements levels)) (hmembers : ∀ levels, Gives P (ofMembers levels)) :
    Gives P (record name levels ofElements ofMembers) := by
  intro input
  unfold Json.record
  split
  · exact .error _
  · cases levels with
    | zero =>
      split
      · exact .error _
      · split <;> exact .error _
    | succ levels =>
      split
      · exact (helements levels).enclosed _
      · split
        · exact (hmembers levels).enclosed _
        · exact .error _

theorem document (h : Gives P read) (input : Input) : Yields P (document read input) := by
  have honly : Yields P (only read input) := by
    refine (h input).bind fun ⟨x, rest⟩ hx => ?_
    dsimp only
    split
    · exact .ok hx
    · exact .error _
  intro x hx
  unfold Json.document at hx
  cases hread : only read input with
  | error fault =>
    rw [hread] at hx
    cases hx
  | ok y =>
    rw [hread] at hx
    obtain rfl := Except.ok.inj hx
    exact honly y hread

end Gives

/-- A number that is read fits a word or is finite. -/
def Value.Bounded : Value → Prop
  | .number n => n.Bounded
  | _ => True

theorem value_gives (levels : Nat) : Gives Value.Bounded (value levels) := by
  intro input
  rw [value.eq_def]
  split
  · exact .error _
  split
  · exact .after fun _ => .ok trivial
  split
  · exact .after fun _ => .ok trivial
  split
  · exact .after fun _ => .ok trivial
  split
  · exact (number_yields _).bind fun ⟨n, rest⟩ hn => .ok hn
  split
  · exact .after fun _ => .ok trivial
  split
  · split
    · exact .error _
    · exact .after fun _ => .ok trivial
  split
  · split
    · exact .error _
    · exact .after fun _ => .ok trivial
  · exact .error _

end ClusterConsole.Json
