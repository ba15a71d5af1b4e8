import FoodDelivery.Lib.Except

/-- Programs that talk to a store in statements: each ends with a result, fails,
or sends one statement and goes on with its answer. -/
inductive Program (Q : Type) (R : Q → Type) (E A : Type)
  | done (result : A)
  | fail (error : E)
  | query (statement : Q) (next : R statement → Program Q R E A)

namespace Program

variable {Q : Type} {R : Q → Type} {E A B S : Type}

def bind : Program Q R E A → (A → Program Q R E B) → Program Q R E B
  | done result, f => f result
  | fail error, _ => fail error
  | query statement next, f => query statement fun answer => (next answer).bind f

instance : Monad (Program Q R E) where
  pure := done
  bind := bind

/-- One statement as a program. -/
def send (statement : Q) : Program Q R E (R statement) := query statement done

/-- What involves no statement: a check that may fail. -/
def check : Except E A → Program Q R E A
  | .ok result => done result
  | .error error => fail error

/-- The program alone on a store whose answers and next states a function
gives. A failure leaves no state: the transaction is rolled back. -/
def run (step : (statement : Q) → S → R statement × S) : Program Q R E A → S → Except E (A × S)
  | done result, s => .ok (result, s)
  | fail error, _ => .error error
  | query statement next, s => (next (step statement s).1).run step (step statement s).2

variable {step : (statement : Q) → S → R statement × S}

@[simp] theorem run_send_bind (statement : Q) (f : R statement → Program Q R E A) (s : S) :
    (send statement >>= f).run step s = (f (step statement s).1).run step (step statement s).2 := rfl

@[simp] theorem run_check_bind (checked : Except E A) (f : A → Program Q R E B) (s : S) :
    (check checked >>= f).run step s = checked >>= fun result => (f result).run step s := by
  cases checked <;> rfl

theorem run_bind (p : Program Q R E A) (f : A → Program Q R E B) (s : S) :
    (p >>= f).run step s = p.run step s >>= fun result => (f result.1).run step result.2 := by
  induction p generalizing s with
  | done result => rfl
  | fail error => rfl
  | query statement next ih => exact ih (step statement s).1 (step statement s).2

end Program
