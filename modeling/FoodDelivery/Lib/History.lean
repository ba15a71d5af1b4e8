import Mathlib.Tactic.Common

namespace CommitLog

variable {S A : Type*}

/-- One committed transaction of a store: the state it committed on, what
was executed and the state it left behind. -/
structure Commit (S A : Type*) where
  before : S
  act : A
  after : S

/-- The states of a run so far, any of which a reader may have seen: the
current one and every one an earlier commit started from. -/
def Seen (log : List (Commit S A)) (current : S) (state : S) : Prop :=
  state = current ∨ ∃ c ∈ log, state = c.before

/-- The runs of a store whose transactions read at any earlier moment and
write at one, newest commit first. A transaction without stale reads simply
ignores its first argument. -/
inductive History (init : S → Prop) (commits : (S → Prop) → A → S → S → Prop) :
    List (Commit S A) → S → Prop
  | start {s} : init s → History init commits [] s
  | commit {log s a s'} : History init commits log s → commits (Seen log s) a s s' →
      History init commits (⟨s, a, s'⟩ :: log) s'

variable {init : S → Prop} {commits : (S → Prop) → A → S → S → Prop} {log : List (Commit S A)} {s : S}

theorem Seen.current : Seen log s s := Or.inl rfl

/-- What has been seen before a commit stays seen after it. -/
theorem Seen.commit {p s' : S} {a : A} (seen : Seen log s p) : Seen (⟨s, a, s'⟩ :: log) s' p := by
  rcases seen with rfl | ⟨c, member, rfl⟩
  · exact Or.inr ⟨_, List.mem_cons_self .., rfl⟩
  · exact Or.inr ⟨c, List.mem_cons_of_mem _ member, rfl⟩

theorem Seen.cases_commit {p s' : S} {a : A} (seen : Seen (⟨s, a, s'⟩ :: log) s' p) :
    p = s' ∨ Seen log s p := by
  rcases seen with rfl | ⟨c, member, rfl⟩
  · exact Or.inl rfl
  · rcases List.mem_cons.mp member with rfl | old
    · exact Or.inr (Or.inl rfl)
    · exact Or.inr (Or.inr ⟨c, old, rfl⟩)

namespace History

/-- An invariant that every commit preserves holds in the last state. -/
theorem invariant {I : S → Prop} (history : History init commits log s) (start : ∀ s, init s → I s)
    (step : ∀ seen a s s', commits seen a s s' → I s → I s') : I s := by
  induction history with
  | start first => exact start _ first
  | commit _ run ih => exact step _ _ _ _ run ih

/-- An invariant that every commit of a kind preserves, and an order that it
respects, in a run of such commits: both may be used of all that a reader may
have seen, which is how stale reads come to bear. -/
theorem invariant_le {I : S → Prop} {R : S → S → Prop} {ok : Commit S A → Prop} (history : History init commits log s)
    (start : ∀ s, init s → I s) (refl : ∀ s, R s s) (trans : ∀ a b c, R a b → R b c → R a c)
    (step : ∀ seen a s s', (∀ p, seen p → I p ∧ R p s) → commits seen a s s' → ok ⟨s, a, s'⟩ → I s → I s' ∧ R s s')
    (all : ∀ c ∈ log, ok c) : ∀ p, Seen log s p → I p ∧ R p s := by
  induction history with
  | start first =>
    rintro p (rfl | ⟨c, member, _⟩)
    · exact ⟨start _ first, refl _⟩
    · cases member
  | @commit log s a s' previous run ih =>
    obtain ⟨now, earlier⟩ := List.forall_mem_cons.mp all
    obtain ⟨kept, later⟩ := step _ _ _ _ (ih earlier) run now (ih earlier s Seen.current).1
    intro p seen
    rcases seen.cases_commit with rfl | old
    · exact ⟨kept, refl _⟩
    · obtain ⟨before, behind⟩ := ih earlier p old
      exact ⟨before, trans _ _ _ behind later⟩

/-- An invariant that every commit of a kind preserves holds in all states of
a run of such commits. -/
theorem invariant_of {I : S → Prop} {ok : Commit S A → Prop} (history : History init commits log s)
    (start : ∀ s, init s → I s) (step : ∀ seen a s s', commits seen a s s' → ok ⟨s, a, s'⟩ → I s → I s')
    (all : ∀ c ∈ log, ok c) (p : S) (seen : Seen log s p) : I p := by
  refine (history.invariant_le (R := fun _ _ => True) start (fun _ => trivial) (fun _ _ _ _ _ => trivial) ?_ all p seen).1
  intro seen a s s' _ run now before
  exact ⟨step _ _ _ _ run now before, trivial⟩

/-- An invariant that every commit preserves holds in all states of a run. -/
theorem invariant_seen {I : S → Prop} (history : History init commits log s) (start : ∀ s, init s → I s)
    (step : ∀ seen a s s', commits seen a s s' → I s → I s') (p : S) (seen : Seen log s p) : I p := by
  have all : ∀ c ∈ log, (fun _ => True) c := fun _ _ => trivial
  exact history.invariant_of start (fun seen a s s' run _ => step seen a s s' run) all p seen

/-- An order that every commit respects holds between everything a reader
may have seen and the current state. The premise may use the history so far,
which is how a guard on a stale read comes to bear. -/
theorem seen_le {R : S → S → Prop} (history : History init commits log s)
    (refl : ∀ s, R s s) (trans : ∀ a b c, R a b → R b c → R a c)
    (step : ∀ log s a s', History init commits log s → (∀ p, Seen log s p → R p s) →
      commits (Seen log s) a s s' → R s s') :
    ∀ p, Seen log s p → R p s := by
  induction history with
  | start =>
    rintro p (rfl | ⟨c, member, _⟩)
    · exact refl _
    · simp at member
  | @commit log s a s' previous run ih =>
    intro p seen
    rcases seen.cases_commit with rfl | old
    · exact refl _
    · exact trans _ _ _ (ih p old) (step _ _ _ _ previous ih run)

/-- What every run establishes of its next commit is true of all commits of a run. -/
theorem forall_commits {P : Commit S A → Prop} (history : History init commits log s)
    (step : ∀ log s a s', History init commits log s → commits (Seen log s) a s s' → P ⟨s, a, s'⟩) :
    ∀ c ∈ log, P c := by
  induction history with
  | start => simp
  | commit previous run ih => exact List.forall_mem_cons.mpr ⟨step _ _ _ _ previous run, ih⟩

/-- Where one commit keeps a property exactly when it meets a condition,
a whole run keeps it in every state exactly when all its commits meet the
condition. -/
theorem forall_iff {I : S → Prop} {ok : Commit S A → Prop} (history : History init commits log s)
    (start : ∀ s, init s → I s)
    (step : ∀ log s a s', History init commits log s → commits (Seen log s) a s s' → I s →
      (I s' ↔ ok ⟨s, a, s'⟩)) :
    (∀ p, Seen log s p → I p) ↔ ∀ c ∈ log, ok c := by
  induction history with
  | start first =>
    constructor
    · simp
    · rintro - p (rfl | ⟨c, member, _⟩)
      · exact start _ first
      · simp at member
  | @commit log s a s' previous run ih =>
    rw [List.forall_mem_cons, ← ih]
    constructor
    · intro all
      have earlier : ∀ p, Seen log s p → I p := fun p seen => all p seen.commit
      exact ⟨(step _ _ _ _ previous run (earlier s Seen.current)).mp (all s' Seen.current), earlier⟩
    · rintro ⟨now, earlier⟩ p seen
      rcases seen.cases_commit with rfl | old
      · exact (step _ _ _ _ previous run (earlier s Seen.current)).mpr now
      · exact earlier p old

/-- A property that follows from an invariant, where every commit that meets a
condition keeps the invariant and every one that leaves the property behind
meets it: a run has the property in all its states exactly when all its
commits meet the condition. -/
theorem forall_iff_of_invariant {I P : S → Prop} {ok : Commit S A → Prop} (history : History init commits log s)
    (start : ∀ s, init s → I s) (property : ∀ s, I s → P s)
    (step : ∀ seen a s s', commits seen a s s' → ok ⟨s, a, s'⟩ → I s → I s')
    (only : ∀ seen a s s', commits seen a s s' → I s → P s' → ok ⟨s, a, s'⟩) :
    (∀ p, Seen log s p → P p) ↔ ∀ c ∈ log, ok c := by
  constructor
  · intro all
    have both : (∀ c ∈ log, ok c) ∧ I s := by
      induction history with
      | start first => exact ⟨by simp, start _ first⟩
      | commit previous run ih =>
        obtain ⟨earlier, before⟩ := ih fun p seen => all p seen.commit
        have now := only _ _ _ _ run before (all _ Seen.current)
        exact ⟨List.forall_mem_cons.mpr ⟨now, earlier⟩, step _ _ _ _ run now before⟩
    exact both.1
  · intro ok p seen
    exact property p (history.invariant_of start step ok p seen)

/-- The runs of a store whose step is a function: a list of actions that it
carries out one after the other continues a run. -/
theorem continued {step : S → A → Option S} {s' : S} (acts : List A)
    (history : History init (fun _ a s s' => step s a = some s') log s) (run : acts.foldlM step s = some s') :
    ∃ log', History init (fun _ a s s' => step s a = some s') log' s' := by
  induction acts generalizing log s with
  | nil =>
    cases run
    exact ⟨log, history⟩
  | cons act acts ih =>
    rw [List.foldlM_cons] at run
    obtain ⟨next, first, rest⟩ := Option.bind_eq_some_iff.mp run
    exact ih (history.commit first) rest

/-- A list of actions carried out from a possible start is a run. -/
theorem carried {step : S → A → Option S} {first : S} (begins : init first) (acts : List A) {P : S → Prop}
    (ends : ∃ s, acts.foldlM step first = some s ∧ P s) :
    ∃ log s, History init (fun _ a s s' => step s a = some s') log s ∧ P s := by
  obtain ⟨s, run, holds⟩ := ends
  have start : History init (fun _ a s s' => step s a = some s') [] first := .start begins
  obtain ⟨log, history⟩ := start.continued acts run
  exact ⟨log, s, history, holds⟩

theorem replayed {step : S → A → Option S} {first : S} (acts : List A) {P : S → Prop}
    (ends : ∃ s, acts.foldlM step first = some s ∧ P s) :
    ∃ log s, History (· = first) (fun _ a s s' => step s a = some s') log s ∧ P s :=
  @carried S A (· = first) step first rfl acts P ends

/-- Actions of which each is checked before it is carried out. -/
theorem checked {step : S → A → Option S} {check : S → A → Bool} {first : S} (begins : init first) (acts : List A)
    {P : S → Prop} (ends : ∃ s, acts.foldlM (fun s a => if check s a then step s a else none) first = some s ∧ P s) :
    ∃ log s, History init (fun _ a s s' => step s a = some s') log s ∧ (∀ c ∈ log, check c.before c.act = true) ∧ P s := by
  obtain ⟨log, s, guarded, holds⟩ := carried begins acts ends
  have both : History init (fun _ a s s' => step s a = some s') log s ∧ ∀ c ∈ log, check c.before c.act = true := by
    clear holds
    induction guarded with
    | start begins => exact ⟨.start begins, List.forall_mem_nil _⟩
    | @commit log s a s' previous run ih =>
      by_cases passes : check s a = true
      · rw [if_pos passes] at run
        exact ⟨ih.1.commit run, List.forall_mem_cons.mpr ⟨passes, ih.2⟩⟩
      · rw [if_neg passes] at run
        cases run
  exact ⟨log, s, both.1, both.2, holds⟩

end History

end CommitLog
