/-! # Methods that may throw

A method that throws keeps what it did to its object: a result is a value, or the object
the exception left.  `Ends E Q r` says that a returned value satisfies `Q` and an object
left by an exception satisfies `E`; it is proved along the steps of the method
(`Ends.bind`).
-/
namespace Throwing

variable {σ α β : Type}

/-- The object a method leaves, whether it returns or throws. -/
def left : Except σ σ → σ
  | .ok s => s
  | .error s => s

def Ends (E : σ → Prop) (Q : α → Prop) : Except σ α → Prop
  | .ok a => Q a
  | .error s => E s

variable {E E' : σ → Prop} {Q Q' : α → Prop} {R : β → Prop} {r : Except σ α}

/-- **A method goes on from what its first step returns.** -/
theorem Ends.bind {f : α → Except σ β} (h : Ends E Q r) (hf : ∀ a, Q a → Ends E R (f a)) :
    Ends E R (r >>= f) := by
  cases r with
  | ok a => exact hf a h
  | error s => exact h

theorem Ends.mono (h : Ends E Q r) (herror : ∀ s, E s → E' s) (hok : ∀ a, Q a → Q' a) :
    Ends E' Q' r := by
  cases r with
  | ok a => exact hok a h
  | error s => exact herror s h

/-- What holds of the object however the method ends. -/
theorem Ends.left {r : Except σ σ} {P : σ → Prop} (h : Ends P P r) : P (left r) := by
  cases r with
  | ok s => exact h
  | error s => exact h

end Throwing
