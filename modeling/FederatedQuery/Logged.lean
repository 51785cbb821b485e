/-
  Results with a log.

  * `Logged ε α`: a value of type `α` with the entries of type `ε` made on the way to it;
  * `Logged.note`: one entry and nothing else; steps in sequence append their entries;
  * `Logged.relabel`: the same value with every entry seen as an entry of another kind.
-/

namespace FederatedQuery

/-- A value with the entries made on the way to it, in order. -/
structure Logged (ε α : Type) where
  value : α
  log : List ε := []
  deriving Repr

namespace Logged

variable {ε δ α β : Type}

@[ext] theorem ext {x y : Logged ε α} (hvalue : x.value = y.value) (hlog : x.log = y.log) :
    x = y := by
  cases x
  cases y
  congr

/-- A single entry. -/
def note (entry : ε) : Logged ε Unit := ⟨(), [entry]⟩

instance : Monad (Logged ε) where
  pure value := ⟨value, []⟩
  bind first next :=
    let second := next first.value
    ⟨second.value, first.log ++ second.log⟩

@[simp] theorem value_pure (a : α) : (pure a : Logged ε α).value = a := rfl

@[simp] theorem log_pure (a : α) : (pure a : Logged ε α).log = [] := rfl

@[simp] theorem value_bind (x : Logged ε α) (f : α → Logged ε β) :
    (x >>= f).value = (f x.value).value := rfl

@[simp] theorem log_bind (x : Logged ε α) (f : α → Logged ε β) :
    (x >>= f).log = x.log ++ (f x.value).log := rfl

/-- The same value, every entry seen as an entry of another kind. -/
def relabel (f : ε → δ) (x : Logged ε α) : Logged δ α := ⟨x.value, x.log.map f⟩

end Logged

end FederatedQuery
