import Switchboard.Record

/-!
Values with tags, and the ways to hold one.

A type is `Tagged` when each of its values has a tag, and `Declaring` when it also
lists the tags that its values may have. A reference to a value and a box around
it have the value's tag. References keep the declared tags, boxes do not. `Held`
puts a value under any stack of the two (`Held.tag_hold`).
-/

namespace Switchboard

/-- Each value has a tag, the name of its variant. -/
class Tagged (V : Type) where
  tag : V → String

/-- The tags of all variants are declared. -/
class Declaring (V : Type) extends Tagged V where
  declared : List String

instance : Tagged Record := ⟨Record.tag⟩

/-! ### References and boxes -/

/-- A reference to a value. -/
structure Ref (V : Type) where
  target : V

/-- A value in a box of its own. -/
structure Boxed (V : Type) where
  content : V

section Layers

variable {V : Type}

instance [Tagged V] : Tagged (Ref V) := ⟨fun r => Tagged.tag r.target⟩

instance [Tagged V] : Tagged (Boxed V) := ⟨fun b => Tagged.tag b.content⟩

instance [Declaring V] : Declaring (Ref V) := ⟨Declaring.declared V⟩

theorem Ref.declared_eq [Declaring V] : Declaring.declared (Ref V) = Declaring.declared V := rfl

end Layers

/-! ### Stacks of layers -/

inductive Layer where
  | reference
  | box
deriving DecidableEq, Repr

/-- A value under layers, the outermost first. -/
def Held : List Layer → Type → Type
  | [], V => V
  | .reference :: layers, V => Ref (Held layers V)
  | .box :: layers, V => Boxed (Held layers V)

namespace Held

variable {V : Type}

/-- Put a value under the layers. -/
def hold : (layers : List Layer) → V → Held layers V
  | [], value => value
  | .reference :: layers, value => Ref.mk (hold layers value)
  | .box :: layers, value => Boxed.mk (hold layers value)

/-- Take the value from under the layers. -/
def release : (layers : List Layer) → Held layers V → V
  | [], held => held
  | .reference :: layers, held => release layers (Ref.target held)
  | .box :: layers, held => release layers (Boxed.content held)

/-- Each layer passes on the tag of what it holds. -/
@[reducible] def taggedUnder [tagged : Tagged V] : (layers : List Layer) → Tagged (Held layers V)
  | [] => tagged
  | .reference :: layers =>
    have := taggedUnder layers
    inferInstanceAs (Tagged (Ref (Held layers V)))
  | .box :: layers =>
    have := taggedUnder layers
    inferInstanceAs (Tagged (Boxed (Held layers V)))

instance [Tagged V] (layers : List Layer) : Tagged (Held layers V) := taggedUnder layers

@[simp] theorem release_hold (layers : List Layer) (value : V) :
    release layers (hold layers value) = value := by
  induction layers with
  | nil => rfl
  | cons layer rest ih => cases layer <;> exact ih

@[simp] theorem tag_hold [Tagged V] (layers : List Layer) (value : V) :
    Tagged.tag (hold layers value) = Tagged.tag value := by
  induction layers with
  | nil => rfl
  | cons layer rest ih => cases layer <;> exact ih

/-- References upon references keep the declared tags. -/
@[reducible] def declaringUnder [declaring : Declaring V] :
    (depth : Nat) → Declaring (Held (List.replicate depth .reference) V)
  | 0 => declaring
  | depth + 1 =>
    have := declaringUnder depth
    inferInstanceAs (Declaring (Ref (Held (List.replicate depth .reference) V)))

end Held

/-! ### Records of a declared set -/

/-- A record taken as a value of a type that declares the given tags. Nothing checks that the
record's tag is among them. -/
structure Variant (tags : List String) where
  record : Record

instance (tags : List String) : Declaring (Variant tags) where
  tag variant := variant.record.tag
  declared := tags

end Switchboard
