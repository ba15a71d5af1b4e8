import FoodDelivery.Lib.Program

universe u v

namespace Except

variable {ε : Type u} {α β γ δ : Type v}

/-- Two computations end alike: in the same error, or in related results. -/
inductive Related (R : α → β → Prop) : Except ε α → Except ε β → Prop
  | ok {a b} : R a b → Related R (.ok a) (.ok b)
  | error (e : ε) : Related R (.error e) (.error e)

namespace Related

variable {R : α → β → Prop} {S : γ → δ → Prop} {x : Except ε α} {y : Except ε β}

theorem mono {R' : α → β → Prop} (related : Related R x y) (weaker : ∀ a b, R a b → R' a b) : Related R' x y := by
  cases related with
  | ok results => exact .ok (weaker _ _ results)
  | error e => exact .error e

theorem ok_left {a : α} (related : Related R (.ok a) y) : ∃ b, y = .ok b ∧ R a b := by
  cases related with
  | ok results => exact ⟨_, rfl, results⟩

theorem ok_right {b : β} (related : Related R x (.ok b)) : ∃ a, x = .ok a ∧ R a b := by
  cases related with
  | ok results => exact ⟨_, rfl, results⟩

theorem bind {f : α → Except ε γ} {g : β → Except ε δ} (related : Related R x y)
    (next : ∀ a b, R a b → Related S (f a) (g b)) : Related S (x >>= f) (y >>= g) := by
  cases related with
  | ok results => exact next _ _ results
  | error e => exact .error e

/-- The same, for a continuation that needs to know where its inputs come from. -/
theorem bind_of_eq {f : α → Except ε γ} {g : β → Except ε δ} (related : Related R x y)
    (next : ∀ a b, x = .ok a → y = .ok b → R a b → Related S (f a) (g b)) : Related S (x >>= f) (y >>= g) := by
  cases related with
  | ok results => exact next _ _ rfl rfl results
  | error e => exact .error e

/-- What comes first is one and the same computation. -/
theorem bind_same (x : Except ε α) {f : α → Except ε γ} {g : α → Except ε δ}
    (next : ∀ a, x = .ok a → Related S (f a) (g a)) : Related S (x >>= f) (x >>= g) := by
  cases x with
  | ok a => exact next a rfl
  | error e => exact .error e

end Related

end Except

namespace Program

variable {Q : Type} {R : Q → Type} {E A B S : Type} {sends : Q → Prop} {step : (statement : Q) → S → R statement × S}

/-- Programs that send statements of one kind only, whatever they are answered. -/
inductive Sends (sends : Q → Prop) : Program Q R E A → Prop
  | done (result : A) : Sends sends (done result)
  | fail (error : E) : Sends sends (fail error)
  | query {statement : Q} {next : R statement → Program Q R E A} : sends statement →
      (∀ answer, Sends sends (next answer)) → Sends sends (query statement next)

namespace Sends

theorem send_bind {statement : Q} {f : R statement → Program Q R E A} (kind : sends statement)
    (next : ∀ answer, Sends sends (f answer)) : Sends sends (send statement >>= f) :=
  .query kind next

theorem check_bind (checked : Except E A) {f : A → Program Q R E B} (next : ∀ a, checked = .ok a → Sends sends (f a)) :
    Sends sends (check checked >>= f) := by
  cases checked with
  | ok a => exact next a rfl
  | error e => exact .fail e

theorem bind {p : Program Q R E A} {f : A → Program Q R E B} (first : Sends sends p) (next : ∀ a, Sends sends (f a)) :
    Sends sends (p >>= f) := by
  induction first with
  | done result => exact next result
  | fail error => exact .fail error
  | query kind _ ih => exact .query kind ih

/-- A program ends alike on two stores that answer its statements alike. -/
theorem run_related {p : Program Q R E A} {T : S → S → Prop} (only : Sends sends p)
    (simulates : ∀ statement s t, sends statement → T s t →
      (step statement s).1 = (step statement t).1 ∧ T (step statement s).2 (step statement t).2)
    {s t : S} (related : T s t) : Except.Related (fun a b => a.1 = b.1 ∧ T a.2 b.2) (p.run step s) (p.run step t) := by
  induction only generalizing s t with
  | done result => exact .ok ⟨rfl, related⟩
  | fail error => exact .error error
  | query kind _ ih =>
    obtain ⟨answers, states⟩ := simulates _ s t kind related
    rw [run, run, answers]
    exact ih _ states

end Sends

end Program
