/-
Marginalia.Traced — values with a log of how they came about.

A step that takes place as a side remark of a computation (a quote was
recognised, a node was dropped) is noted in a log. `Traced ε α` is a value
with the events noted while it was computed, in order; sequencing two such
computations puts their logs one behind the other.

Main statements: `value_bind`, `log_bind`.
-/

namespace Marginalia

/-- A value and the events noted on the way to it. -/
structure Traced (ε α : Type) where
  /-- The value. -/
  value : α
  /-- The events, in order. -/
  log : List ε
  deriving Inhabited

namespace Traced

variable {ε α β : Type}

/-- Notes one event. -/
def note (e : ε) : Traced ε Unit := ⟨(), [e]⟩

/-- Notes events that were noted before. -/
def notes (es : List ε) : Traced ε Unit := ⟨(), es⟩

instance : Monad (Traced ε) where
  pure a := ⟨a, []⟩
  bind x f := ⟨(f x.value).value, x.log ++ (f x.value).log⟩

@[simp] theorem value_pure (a : α) : (pure a : Traced ε α).value = a := rfl
@[simp] theorem log_pure (a : α) : (pure a : Traced ε α).log = [] := rfl

@[simp] theorem value_bind (x : Traced ε α) (f : α → Traced ε β) :
    (x >>= f).value = (f x.value).value := rfl

@[simp] theorem log_bind (x : Traced ε α) (f : α → Traced ε β) :
    (x >>= f).log = x.log ++ (f x.value).log := rfl

end Traced

end Marginalia
