/-! # What reading gives

A property of all that is accepted follows the steps of a reader: what a step gives has it if what the steps before
give has what it takes. -/

namespace ClusterConsole

theorem ok_bind {ε α β : Type} (x : α) (next : α → Except ε β) : (Except.ok x >>= next) = next x := rfl

theorem toOption_bind {ε α β : Type} {read : Except ε α} {next : α → Except ε β} :
    (read >>= next).toOption = read.toOption.bind fun x => (next x).toOption := by
  cases read <;> rfl

theorem toOption_eq_some_iff {ε α : Type} {read : Except ε α} {x : α} : read.toOption = some x ↔ read = .ok x := by
  cases read with
  | error fault => exact ⟨nofun, nofun⟩
  | ok y => exact ⟨fun h => congrArg Except.ok (Option.some.inj h), fun h => congrArg some (Except.ok.inj h)⟩

theorem toOption_eq_none_iff {ε α : Type} {read : Except ε α} : read.toOption = none ↔ ∃ fault, read = .error fault := by
  cases read with
  | error fault => exact ⟨fun _ => ⟨fault, rfl⟩, fun _ => rfl⟩
  | ok x => exact ⟨nofun, nofun⟩

/-- All that is accepted has the property. -/
def Yields {ε α : Type} (P : α → Prop) (read : Except ε α) : Prop :=
  ∀ x, read = .ok x → P x

namespace Yields
variable {ε α β : Type} {P : α → Prop} {Q : β → Prop}

theorem ok {x : α} (h : P x) : Yields P (.ok x : Except ε α) := by
  intro y hy
  cases hy
  exact h

theorem error (fault : ε) : Yields P (.error fault) := by
  intro x hx
  cases hx

theorem bind {read : Except ε α} {next : α → Except ε β} (hread : Yields P read)
    (hnext : ∀ x, P x → Yields Q (next x)) : Yields Q (read >>= next) := by
  intro y hy
  cases read with
  | error fault => cases hy
  | ok x => exact hnext x (hread x rfl) y hy

/-- A step of which nothing needs to be known. -/
theorem after {read : Except ε α} {next : α → Except ε β} (hnext : ∀ x, Yields Q (next x)) :
    Yields Q (read >>= next) :=
  bind (P := fun _ => True) (fun _ _ => trivial) fun x _ => hnext x

theorem mono {R : α → Prop} {read : Except ε α} (h : Yields P read) (himp : ∀ x, P x → R x) : Yields R read :=
  fun x hx => himp x (h x hx)

end Yields
end ClusterConsole
