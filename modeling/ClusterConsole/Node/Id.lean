import ClusterConsole.Number.Notation
import ClusterConsole.Text.Utf8

/-! # Identifiers of nodes

The registry identifies a node by a number or a text. Numbers keep the form in which they were given: a
signed word, an unsigned word beyond the signed ones, or binary floating point.

Numbers come before texts. They are ordered by their value in binary floating point, those of equal value
by their form and then exactly, so no two different identifiers are equal. Texts are ordered by their
bytes. -/

namespace ClusterConsole

/-- The identifier of a node. -/
inductive NodeId where
  | numeric (value : Int64)
  | unsigned (value : UInt64)
  | fractional (value : Binary64)
  | text (value : String)
deriving DecidableEq, Repr

namespace NodeId

/-- The place of the form of an identifier. -/
def form : NodeId → Nat
  | .numeric _ => 0
  | .unsigned _ => 1
  | .fractional _ => 2
  | .text _ => 3

/-- The value of a number in binary floating point. -/
def rounded? : NodeId → Option Binary64
  | .numeric n => some (.ofInt n.toInt)
  | .unsigned n => some (.ofNat n.toNat)
  | .fractional x => some x
  | .text _ => none

/-- The order of two numbers by their values in binary floating point. -/
def compareRounded (a b : NodeId) : Ordering :=
  match a.rounded?, b.rounded? with
  | some x, some y => x.compareTotal y
  | _, _ => .eq

/-- The order of two numbers of one form. -/
def compareExact : NodeId → NodeId → Ordering
  | .numeric a, .numeric b => Ord.compare a.toInt b.toInt
  | .unsigned a, .unsigned b => Ord.compare a.toNat b.toNat
  | .fractional a, .fractional b => a.compareTotal b
  | _, _ => .eq

/-- The order of identifiers. -/
def compare : NodeId → NodeId → Ordering
  | .text a, .text b => List.compareLex Ord.compare (Utf8.ofString a) (Utf8.ofString b)
  | .text _, _ => .gt
  | _, .text _ => .lt
  | a, b => (compareRounded a b).then ((Ord.compare a.form b.form).then (compareExact a b))

instance : Ord NodeId := ⟨compare⟩

/-- The order of identifiers for those who allow that two of them have none. -/
def compare? (a b : NodeId) : Option Ordering :=
  some (compare a b)

instance : LT NodeId := ⟨fun a b => a.compare? b = some .lt⟩

instance : LE NodeId := ⟨fun a b => a.compare? b = some .lt ∨ a.compare? b = some .eq⟩

/-- Identifiers are equal when neither comes before the other. -/
instance : BEq NodeId := ⟨fun a b => compare a b == .eq⟩

/-- What identifiers are told apart by without comparing them: the form, the word and the text. -/
def fingerprint : NodeId → Nat × UInt64 × String
  | .numeric n => (0, n.toUInt64, "")
  | .unsigned n => (1, n, "")
  | .fractional x => (2, x.bits, "")
  | .text s => (3, 0, s)

instance : Hashable NodeId := ⟨fun id => hash id.fingerprint⟩

/-- The identifier as people read it. -/
def display : NodeId → String
  | .numeric n => String.ofList (Decimal.integer n.toInt)
  | .unsigned n => String.ofList (Decimal.digits n.toNat)
  | .fractional x => String.ofList x.display
  | .text s => s

end NodeId

end ClusterConsole
