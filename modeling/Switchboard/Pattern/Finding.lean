/-!
Outcomes that hold a value or none, and how they are read as options.

A decoder may answer with any type of this kind: an option, a result whose error
is dropped, or a `Finding`, which says only whether there is a value.
-/

namespace Switchboard

/-- Members of `F` hold a value of type `A` or none. -/
class OptionLike (F : Type) (A : outParam Type) where
  toOption : F → Option A

/-- A value, or the statement that there is none. -/
inductive Finding (A : Type) where
  | present (value : A)
  | absent
deriving DecidableEq, Repr

variable {A E : Type}

def Finding.toOption : Finding A → Option A
  | present value => some value
  | absent => none

def Finding.ofOption : Option A → Finding A
  | some value => present value
  | none => absent

instance : OptionLike (Option A) A := ⟨id⟩

instance : OptionLike (Except E A) A := ⟨Except.toOption⟩

instance : OptionLike (Finding A) A := ⟨Finding.toOption⟩

@[simp] theorem toOption_option (a : Option A) : OptionLike.toOption a = a := rfl

@[simp] theorem toOption_ok (value : A) :
    OptionLike.toOption (Except.ok value : Except E A) = some value := rfl

@[simp] theorem toOption_error (error : E) :
    OptionLike.toOption (Except.error error : Except E A) = none := rfl

@[simp] theorem toOption_ofOption (a : Option A) :
    OptionLike.toOption (Finding.ofOption a) = a := by
  cases a <;> rfl

end Switchboard
