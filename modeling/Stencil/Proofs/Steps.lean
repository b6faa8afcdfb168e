/-!
# Steps with a state

Reading, evaluation and the engine are made of steps that have a state, answer or fail, and leave a
state either way. What they do one after the other is said here, so that no later proof opens them.
-/

namespace Stencil

section
variable {ε σ α β : Type} {p : EStateM ε σ α} {f : α → EStateM ε σ β} {s s' m : σ} {a : α} {b : β}

/-- A first step that succeeds hands over to the second. -/
theorem bind_of_ok (h : p s = .ok a m) : (p >>= f) s = f a m := by
  show EStateM.bind p f s = _
  rw [EStateM.bind, h]

/-- A first step that fails is all there is. -/
theorem bind_of_error {e : ε} (h : p s = .error e m) : (p >>= f) s = .error e m := by
  show EStateM.bind p f s = _
  rw [EStateM.bind, h]

/-- First steps that come to the same are followed by the same. -/
theorem bind_of_eq {q : EStateM ε σ α} (h : p s = q m) : (p >>= f) s = (q >>= f) m := by
  show EStateM.bind p f s = EStateM.bind q f m
  unfold EStateM.bind
  rw [h]

/-- Two steps succeed when the second succeeds where the first has led. -/
theorem bind_eq_ok :
    (p >>= f) s = .ok b s' ↔ ∃ a m, p s = .ok a m ∧ f a m = .ok b s' := by
  cases hp : p s with
  | ok a m =>
    rw [bind_of_ok hp]
    simp only [EStateM.Result.ok.injEq, and_assoc, exists_and_left, exists_eq_left']
  | error e m =>
    rw [bind_of_error hp]
    simp only [reduceCtorEq, false_and, exists_false]

/-- To read the state leaves it as it is. -/
theorem get_run (s : σ) : (get : EStateM ε σ σ) s = .ok s s := rfl

/-- A value returned changes nothing. -/
theorem pure_eq_ok {a' : α} : (pure a : EStateM ε σ α) s = .ok a' s' ↔ a = a' ∧ s = s' := by
  show EStateM.Result.ok a s = _ ↔ _
  rw [EStateM.Result.ok.injEq]

/-- What a step answers. -/
def answer : EStateM.Result ε σ α → Except ε α
  | .ok a _ => .ok a
  | .error e _ => .error e

/-- What an answer fails with, if it fails. -/
def failure? : Except ε α → Option ε
  | .ok _ => none
  | .error e => some e

/-- An answer that fails with an error is that error. -/
theorem failure?_eq_some {result : Except ε α} {e : ε} :
    failure? result = some e ↔ result = .error e := by
  cases result with
  | ok a => simp only [failure?, reduceCtorEq]
  | error e' => rw [failure?, Option.some.injEq, Except.error.injEq]

/-- A step that fails leaves a state nevertheless. -/
theorem answer_eq_error {r : EStateM.Result ε σ α} {e : ε} :
    answer r = .error e ↔ ∃ s, r = .error e s := by
  cases r with
  | ok a s => simp only [answer, reduceCtorEq, exists_false]
  | error e' s =>
    simp only [answer, Except.error.injEq, EStateM.Result.error.injEq, exists_and_left, exists_eq',
      and_true]

/-- The state that a step leaves. -/
def left : EStateM.Result ε σ α → σ
  | .ok _ s | .error _ s => s

/-- Steps that change nothing change nothing together. -/
theorem left_bind (hp : left (p s) = s) (hf : ∀ a, left (f a s) = s) : left ((p >>= f) s) = s := by
  cases h : p s with
  | ok a m =>
    rw [h] at hp
    obtain rfl : m = s := hp
    rw [bind_of_ok h, hf]
  | error e m =>
    rw [h] at hp
    rw [bind_of_error h]
    exact hp

end

end Stencil
