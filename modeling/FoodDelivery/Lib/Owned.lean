import FoodDelivery.Lib.Table

namespace Table

variable {K R O : Type*} {key : R → K} {owner : R → O} {a : O}

/-- Nobody else has a row under the key. -/
def HeldBy (owner : R → O) (t : Table key) (a : O) (k : K) : Prop := ∀ row, t.find k = some row → owner row = a

/-- Who has the row under a key is the only one to have one there. -/
theorem HeldBy.of_find {t : Table key} {k : K} {row row' : R} (found : t.find k = some row) (mine : owner row = a)
    (same : key row' = key row) : t.HeldBy owner a (key row') := by
  intro other stands
  rw [same, t.keyed k row found, found] at stands
  cases stands
  exact mine

variable [DecidableEq O]

/-- Two tables hold the same rows of one owner. -/
def Shares (owner : R → O) (a : O) (t t' : Table key) : Prop :=
  ∀ k, (t.find k).filter (fun row => owner row = a) = (t'.find k).filter fun row => owner row = a

theorem Shares.refl (t : Table key) : Shares owner a t t := fun _ => rfl

variable {t t' t'' : Table key} {k : K} {row : R}

theorem Shares.trans (first : Shares owner a t t') (last : Shares owner a t' t'') : Shares owner a t t'' :=
  fun k => (first k).trans (last k)

/-- A lookup that asks for the owner and for more. -/
theorem Shares.filter (shares : Shares owner a t t') (k : K) (p : R → Prop) [DecidablePred p] :
    (t.find k).filter (fun row => owner row = a ∧ p row) = (t'.find k).filter fun row => owner row = a ∧ p row := by
  have asks (found : Option R) : found.filter (fun row => owner row = a ∧ p row) =
      (found.filter fun row => owner row = a).filter fun row => p row := by
    rw [Option.filter_filter]
    simp only [Bool.decide_and]
  rw [asks, asks, shares k]

/-- A lookup that asks for the key alone, where nobody else can be met. -/
theorem Shares.find (shares : Shares owner a t t') (held : t.HeldBy owner a k) (held' : t'.HeldBy owner a k) :
    t.find k = t'.find k := by
  have all {found : Option R} (mine : ∀ row, found = some row → owner row = a) :
      (found.filter fun row => owner row = a) = found := by
    cases found with
    | none => rfl
    | some row => exact if_pos (decide_eq_true (mine row rfl))
  rw [← all held, ← all held']
  exact shares k

variable [DecidableEq K]

theorem Shares.put (shares : Shares owner a t t') (row : R) : Shares owner a (t.put row) (t'.put row) := by
  intro k
  rw [find_put, find_put]
  split
  · rfl
  · exact shares k

/-- A write of one owner's row is not seen by the others. -/
theorem Shares.put_other {b : O} (held : t.HeldBy owner b (key row)) (mine : owner row = b) (other : a ≠ b) :
    Shares owner a t (t.put row) := by
  intro k
  rw [find_put]
  split
  · rename_i same
    have unseen {row : R} (owned : owner row = b) : ((some row).filter fun row => owner row = a) = none :=
      if_neg (by simpa using fun same => other (same.symm.trans owned))
    rw [unseen mine, same]
    cases found : t.find (key row) with
    | none => rfl
    | some old => exact unseen (held old found)
  · rfl

end Table

/-- Two states that agree on one owner's part, each with the parts of all
others as its base has them. -/
structure Apart {O S : Type*} (same : O → S → S → Prop) (a : O) (base base' s s' : S) : Prop where
  own : same a s s'
  others : ∀ b, b ≠ a → same b base s
  others' : ∀ b, b ≠ a → same b base' s'

namespace Apart

variable {O S : Type*} {same : O → S → S → Prop} {a : O} {base base' s s' u u' : S}

theorem start (refl : ∀ b s, same b s s) (own : same a s s') : Apart same a s s' s s' :=
  ⟨own, fun b _ => refl b s, fun b _ => refl b s'⟩

/-- Both states move on, and nobody else notices. -/
theorem move (apart : Apart same a base base' s s') (trans : ∀ b s t u, same b s t → same b t u → same b s u)
    (own : same a s s' → same a u u') (others : ∀ b, b ≠ a → same b s u) (others' : ∀ b, b ≠ a → same b s' u') :
    Apart same a base base' u u' :=
  ⟨own apart.own, fun b other => trans b _ _ _ (apart.others b other) (others b other),
    fun b other => trans b _ _ _ (apart.others' b other) (others' b other)⟩

end Apart

/-- Two logs have grown by the same entries, all of one owner. -/
def Grown {O E : Type*} (owner : E → O) (a : O) (base base' log log' : List E) : Prop :=
  ∃ entries, log = base ++ entries ∧ log' = base' ++ entries ∧ ∀ entry ∈ entries, owner entry = a

namespace Grown

variable {O E : Type*} {owner : E → O} {a : O} {base base' log log' : List E}

theorem refl (log log' : List E) : Grown owner a log log' log log' :=
  ⟨[], (List.append_nil log).symm, (List.append_nil log').symm, fun _ absent => absurd absent List.not_mem_nil⟩

theorem append (grown : Grown owner a base base' log log') {entry : E} (mine : owner entry = a) :
    Grown owner a base base' (log ++ [entry]) (log' ++ [entry]) := by
  obtain ⟨entries, before, before', all⟩ := grown
  refine ⟨entries ++ [entry], ?_, ?_, ?_⟩
  · rw [before, List.append_assoc]
  · rw [before', List.append_assoc]
  · intro new member
    rcases List.mem_append.mp member with old | last
    · exact all new old
    · rw [List.mem_singleton.mp last]
      exact mine

end Grown
