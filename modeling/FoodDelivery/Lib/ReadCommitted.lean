import Mathlib.Logic.Function.Basic
import Mathlib.Logic.Relation
import Mathlib.Order.Basic
import FoodDelivery.Lib.Program

namespace ReadCommitted

/-- A store under concurrent transactions: what a statement may answer on
what its transaction sees, what it writes there and which locks it has to wait
for; how a write changes a state, and which locks it holds until the
transaction ends. -/
structure Store (Q : Type) (R : Q → Type) (S W L : Type) where
  Answers : (statement : Q) → S → R statement → Prop
  writes : Q → S → List W
  Needs : Q → S → L → Prop
  apply : W → S → S
  Locks : W → L → Prop

variable {Q : Type} {R : Q → Type} {E A B S W L : Type} (store : Store Q R S W L)

/-- A transaction sees its own writes on the committed state. -/
def Store.view (writes : List W) (s : S) : S := writes.foldl (fun s w => store.apply w s) s

/-- A transaction under way: what is left of its program, and its writes. -/
structure Session (Q : Type) (R : Q → Type) (E A W : Type) where
  program : Program Q R E A
  writes : List W

def Session.Holds (session : Session Q R E A W) (l : L) : Prop := ∃ w ∈ session.writes, store.Locks w l

structure State (Q : Type) (R : Q → Type) (E A S W : Type) where
  committed : S
  sessions : Nat → Option (Session Q R E A W)

variable {store}

def State.set (state : State Q R E A S W) (i : Nat) (session : Option (Session Q R E A W)) : State Q R E A S W :=
  { state with sessions := Function.update state.sessions i session }

variable (store)

/-- The steps of any number of transactions. A statement waits while another
transaction holds a lock it needs; a transaction may be rolled back at any
moment, and one that has failed can only be rolled back. -/
inductive Step (Starts : Program Q R E A → Prop) : State Q R E A S W → State Q R E A S W → Prop
  | start {state program} (i : Nat) : state.sessions i = none → Starts program →
      Step Starts state (state.set i (some ⟨program, []⟩))
  | query {state writes statement next answer} (i : Nat) : state.sessions i = some ⟨.query statement next, writes⟩ →
      (∀ j other, j ≠ i → state.sessions j = some other →
        ∀ l, store.Needs statement (store.view writes state.committed) l → ¬ other.Holds store l) →
      store.Answers statement (store.view writes state.committed) answer →
      Step Starts state
        (state.set i (some ⟨next answer, writes ++ store.writes statement (store.view writes state.committed)⟩))
  | commit {state writes result} (i : Nat) : state.sessions i = some ⟨.done result, writes⟩ →
      Step Starts state { state.set i none with committed := store.view writes state.committed }
  | rollback {state session} (i : Nat) : state.sessions i = some session → Step Starts state (state.set i none)

def State.start (s : S) : State Q R E A S W where
  committed := s
  sessions _ := none

abbrev Reachable (Starts : Program Q R E A → Prop) (s : S) : State Q R E A S W → Prop :=
  Relation.ReflTransGen (Step store Starts) (State.start s)

/-- Which writes are legal on a state, and when two states agree on what a
lock protects. -/
structure Resources (S W L : Type) where
  Legal : W → S → Prop
  Agree : L → S → S → Prop

variable (resources : Resources S W L)

/-- Writes are local: whether one is legal and what it does depends only on
what its own locks protect, it changes nothing else, and its statement has
waited for those locks. -/
structure Local : Prop where
  refl : ∀ l s, resources.Agree l s s
  trans : ∀ {l a b c}, resources.Agree l a b → resources.Agree l b c → resources.Agree l a c
  symm : ∀ {l a b}, resources.Agree l a b → resources.Agree l b a
  legal : ∀ {w s s'}, (∀ l, store.Locks w l → resources.Agree l s s') → resources.Legal w s → resources.Legal w s'
  frame : ∀ {w l} s, ¬ store.Locks w l → resources.Agree l s (store.apply w s)
  inside : ∀ {w s s'} l, (∀ l, store.Locks w l → resources.Agree l s s') → store.Locks w l →
    resources.Agree l (store.apply w s) (store.apply w s')
  needed : ∀ {statement s w l}, w ∈ store.writes statement s → store.Locks w l → store.Needs statement s l

/-- Each write is legal on the state the earlier ones lead to. -/
def Fits : List W → S → Prop
  | [], _ => True
  | w :: ws, s => resources.Legal w s ∧ Fits ws (store.apply w s)

/-- The weakest precondition of a program that has made some writes. It asks
for legal writes and for the postcondition on all later committed states, for
those of others may be committed at any time. -/
def WP [LE S] (Inv : S → Prop) (Post : S → List W → A → Prop) : Program Q R E A → S → List W → Prop
  | .done result, s, writes => ∀ s', s ≤ s' → Inv s' → Fits store resources writes s' → Post s' writes result
  | .fail _, _, _ => True
  | .query statement next, s, writes => ∀ s', s ≤ s' → Inv s' → Fits store resources writes s' →
      ∀ answer, store.Answers statement (store.view writes s') answer →
        Fits store resources (store.writes statement (store.view writes s')) (store.view writes s') ∧
        WP Inv Post (next answer) s' (writes ++ store.writes statement (store.view writes s'))

variable {store resources}

@[simp] theorem Store.view_nil (s : S) : store.view [] s = s := rfl

theorem Store.view_append (first second : List W) (s : S) :
    store.view (first ++ second) s = store.view second (store.view first s) := List.foldl_append

theorem fits_append {first second : List W} {s : S} : Fits store resources (first ++ second) s ↔
    Fits store resources first s ∧ Fits store resources second (store.view first s) := by
  induction first generalizing s with
  | nil => exact ⟨fun fits => ⟨trivial, fits⟩, fun fits => fits.2⟩
  | cons w ws ih =>
    constructor
    · rintro ⟨legal, rest⟩
      obtain ⟨left, right⟩ := ih.mp rest
      exact ⟨⟨legal, left⟩, right⟩
    · rintro ⟨⟨legal, left⟩, right⟩
      exact ⟨legal, ih.mpr ⟨left, right⟩⟩

/-- A property that legal writes preserve holds of all that a transaction sees. -/
theorem Fits.view {I : S → Prop} (step : ∀ w s, resources.Legal w s → I s → I (store.apply w s)) {writes : List W}
    {s : S} (fits : Fits store resources writes s) (holds : I s) : I (store.view writes s) := by
  induction writes generalizing s with
  | nil => exact holds
  | cons w ws ih => exact ih fits.2 (step w s fits.1 holds)

theorem State.set_sessions {state : State Q R E A S W} {i j : Nat} {new : Option (Session Q R E A W)}
    {session : Session Q R E A W} (found : (state.set i new).sessions j = some session) :
    j = i ∧ new = some session ∨ j ≠ i ∧ state.sessions j = some session := by
  simp only [State.set, Function.update_apply] at found
  split at found
  · exact Or.inl ⟨‹_›, found⟩
  · exact Or.inr ⟨‹_›, found⟩

/-- A transaction on its own. -/
inductive Runs (store : Store Q R S W L) : Program Q R E A → S → S → Prop
  | done {result s} : Runs store (.done result) s s
  | query {statement next s s'} (answer : R statement) : store.Answers statement s answer →
      Runs store (next answer) (store.view (store.writes statement s) s) s' → Runs store (.query statement next) s s'

theorem State.set_set (state : State Q R E A S W) (i : Nat) (first second : Option (Session Q R E A W)) :
    (state.set i first).set i second = state.set i second := by
  simp only [State.set, Function.update_idem]

/-- Where no other transaction is under way, one that has started can end. -/
theorem Runs.reachable {Starts : Program Q R E A → Prop} {program : Program Q R E A} {s seen s' : S} {writes : List W}
    {i : Nat} (runs : Runs store program seen s') (view : store.view writes s = seen) :
    Relation.ReflTransGen (Step store Starts) ((State.start s).set i (some ⟨program, writes⟩)) (State.start s') := by
  have running {program : Program Q R E A} {writes : List W} :
      ((State.start s).set i (some ⟨program, writes⟩)).sessions i = some ⟨program, writes⟩ := Function.update_self ..
  induction runs generalizing writes with
  | @done result seen =>
    have committed : Step store Starts ((State.start s).set i (some ⟨.done result, writes⟩)) _ := .commit i running
    have ended : ({ ((State.start s).set i (some ⟨.done result, writes⟩)).set i none with
        committed := store.view writes s } : State Q R E A S W) = State.start seen := by
      rw [State.set_set, State.set, view]
      exact congrArg (State.mk seen) (Function.update_eq_self i _)
    exact .single (ended ▸ committed)
  | @query statement next seen s' answer answers _ ih =>
    subst view
    have alone : ∀ j other, j ≠ i →
        ((State.start s).set i (some ⟨.query statement next, writes⟩)).sessions j = some other → ∀ l,
        store.Needs statement (store.view writes s) l → ¬ other.Holds store l := by
      intro j other different found
      have absent : ((State.start s).set i (some ⟨.query statement next, writes⟩)).sessions j = none :=
        Function.update_of_ne different ..
      rw [absent] at found
      cases found
    have step : Step store Starts ((State.start s).set i (some ⟨.query statement next, writes⟩)) _ :=
      .query i running alone answers
    rw [State.set_set] at step
    exact .head step (ih (store.view_append writes _ s))

section laws

variable (laws : Local store resources)

include laws

/-- A transaction leaves alone what it holds no lock on. -/
theorem Local.view_frame {writes : List W} {l : L} (s : S) (free : ∀ w ∈ writes, ¬ store.Locks w l) :
    resources.Agree l s (store.view writes s) := by
  induction writes generalizing s with
  | nil => exact laws.refl l s
  | cons w ws ih =>
    have one := laws.frame s (free w (List.mem_cons_self ..))
    exact laws.trans one (ih (store.apply w s) fun other member => free other (List.mem_cons_of_mem _ member))

/-- Writes that fit one state fit every other that agrees with it on their locks. -/
theorem Local.fits_of_agree {writes : List W} {s s' : S}
    (agree : ∀ w ∈ writes, ∀ l, store.Locks w l → resources.Agree l s s') (fits : Fits store resources writes s) :
    Fits store resources writes s' := by
  induction writes generalizing s s' with
  | nil => trivial
  | cons w ws ih =>
    have own := agree w (List.mem_cons_self ..)
    refine ⟨laws.legal own fits.1, ih ?_ fits.2⟩
    intro other member l locks
    by_cases mine : store.Locks w l
    · exact laws.inside l own mine
    · have agreed := agree other (List.mem_cons_of_mem _ member) l locks
      exact laws.trans (laws.symm (laws.frame s mine)) (laws.trans agreed (laws.frame s' mine))

/-- The writes of two transactions without a common lock do not get in each
other's way. -/
theorem Local.fits_beside {first second : List W} {s : S}
    (apart : ∀ w ∈ first, ∀ w' ∈ second, ∀ l, store.Locks w l → ¬ store.Locks w' l)
    (fits : Fits store resources second s) : Fits store resources second (store.view first s) := by
  refine laws.fits_of_agree ?_ fits
  intro w' member l locks
  exact laws.view_frame s fun w own mine => apart w own w' member l mine locks

end laws

section wp

variable [Preorder S] {Inv : S → Prop} {Post : S → List W → A → Prop}

/-- What is enough now is enough later. -/
theorem WP.later {program : Program Q R E A} {s s' : S} {writes : List W} (later : s ≤ s')
    (wp : WP store resources Inv Post program s writes) : WP store resources Inv Post program s' writes := by
  cases program with
  | done result => exact fun t grows => wp t (later.trans grows)
  | fail error => trivial
  | query statement next => exact fun t grows => wp t (later.trans grows)

/-- A precondition may rely on the invariant and on its writes being legal. -/
theorem WP.assuming {program : Program Q R E A} {s : S} {writes : List W}
    (rest : ∀ s', s ≤ s' → Inv s' → Fits store resources writes s' →
      WP store resources Inv Post program s' writes) : WP store resources Inv Post program s writes := by
  cases program with
  | done result => exact fun s' grows inv fits => rest s' grows inv fits s' le_rfl inv fits
  | fail error => trivial
  | query statement next => exact fun s' grows inv fits => rest s' grows inv fits s' le_rfl inv fits

theorem WP.pure {result : A} {s : S} {writes : List W} (post : ∀ s', s ≤ s' → Inv s' → Post s' writes result) :
    WP store resources Inv Post (pure result : Program Q R E A) s writes :=
  fun s' grows inv _ => post s' grows inv

/-- A check that passes has no effect. -/
theorem WP.check {checked : Except E B} {f : B → Program Q R E A} {s : S} {writes : List W}
    (rest : ∀ result, checked = .ok result → WP store resources Inv Post (f result) s writes) :
    WP store resources Inv Post (Program.check checked >>= f) s writes := by
  cases checked with
  | ok result => exact rest result rfl
  | error error => trivial

theorem WP.send {statement : Q} {f : R statement → Program Q R E A} {s : S} {writes : List W}
    (rest : ∀ s', s ≤ s' → Inv s' → Fits store resources writes s' →
      ∀ answer, store.Answers statement (store.view writes s') answer →
        Fits store resources (store.writes statement (store.view writes s')) (store.view writes s') ∧
        WP store resources Inv Post (f answer) s' (writes ++ store.writes statement (store.view writes s'))) :
    WP store resources Inv Post (Program.send statement >>= f) s writes :=
  rest

theorem WP.bind {program : Program Q R E B} {f : B → Program Q R E A} {s : S} {writes : List W}
    (wp : WP store resources Inv (fun s writes result => WP store resources Inv Post (f result) s writes) program s
      writes) : WP store resources Inv Post (program >>= f) s writes := by
  induction program generalizing s writes with
  | done result => exact WP.assuming wp
  | fail error => trivial
  | query statement next ih =>
    intro s' grows inv fits answer answers
    obtain ⟨legal, rest⟩ := wp s' grows inv fits answer answers
    exact ⟨legal, ih answer rest⟩

/-- What holds between the steps: the committed state is sound, the writes of
every transaction fit it, no two hold the same lock, and what is left of every
program is enough. -/
structure Sound (store : Store Q R S W L) (resources : Resources S W L) (Inv : S → Prop)
    (Post : S → List W → A → Prop) (state : State Q R E A S W) : Prop where
  inv : Inv state.committed
  fits : ∀ i session, state.sessions i = some session → Fits store resources session.writes state.committed
  wp : ∀ i session, state.sessions i = some session →
    WP store resources Inv Post session.program state.committed session.writes
  apart : ∀ i j a b, i ≠ j → state.sessions i = some a → state.sessions j = some b →
    ∀ l, a.Holds store l → ¬ b.Holds store l

/-- Ending a transaction leaves the others as they are. -/
theorem Sound.close {state : State Q R E A S W} (sound : Sound store resources Inv Post state) (i : Nat) :
    Sound store resources Inv Post (state.set i none) := by
  have other {j : Nat} {session : Session Q R E A W} (found : (state.set i none).sessions j = some session) :
      state.sessions j = some session := by
    rcases State.set_sessions found with ⟨-, absurd⟩ | ⟨-, old⟩
    · cases absurd
    · exact old
  exact ⟨sound.inv, fun j session found => sound.fits j session (other found),
    fun j session found => sound.wp j session (other found),
    fun j k a b different foundA foundB => sound.apart j k a b different (other foundA) (other foundB)⟩

/-- A new or changed transaction that holds no lock of another. -/
theorem Sound.put {state : State Q R E A S W} (sound : Sound store resources Inv Post state) {i : Nat}
    {session : Session Q R E A W} (fits : Fits store resources session.writes state.committed)
    (wp : WP store resources Inv Post session.program state.committed session.writes)
    (free : ∀ j other, j ≠ i → state.sessions j = some other → ∀ l, session.Holds store l → ¬ other.Holds store l) :
    Sound store resources Inv Post (state.set i (some session)) := by
  refine ⟨sound.inv, ?_, ?_, ?_⟩
  · intro j other found
    rcases State.set_sessions found with ⟨rfl, new⟩ | ⟨-, old⟩
    · cases new
      exact fits
    · exact sound.fits j other old
  · intro j other found
    rcases State.set_sessions found with ⟨rfl, new⟩ | ⟨-, old⟩
    · cases new
      exact wp
    · exact sound.wp j other old
  · intro j k a b different foundA foundB l holdsA holdsB
    rcases State.set_sessions foundA with ⟨rfl, newA⟩ | ⟨_, oldA⟩
    · rcases State.set_sessions foundB with ⟨same, _⟩ | ⟨other, oldB⟩
      · exact different same.symm
      · cases newA
        exact free k b other oldB l holdsA holdsB
    · rcases State.set_sessions foundB with ⟨same, newB⟩ | ⟨_, oldB⟩
      · subst same
        cases newB
        exact free j a different oldA l holdsB holdsA
      · exact sound.apart j k a b different oldA oldB l holdsA holdsB

/-- Programs that are enough on their own are enough together, where the
postcondition of one leads from a sound state to a sound and later one. -/
theorem Sound.step {Starts : Program Q R E A → Prop} {state state' : State Q R E A S W} (laws : Local store resources)
    (starts : ∀ program, Starts program → ∀ s, WP store resources Inv Post program s [])
    (commits : ∀ s writes result, Inv s → Fits store resources writes s → Post s writes result →
      Inv (store.view writes s) ∧ s ≤ store.view writes s)
    (step : Step store Starts state state') (sound : Sound store resources Inv Post state) :
    Sound store resources Inv Post state' := by
  cases step with
  | start i absent starting =>
    refine sound.put trivial (starts _ starting _) ?_
    rintro j other - - l ⟨w, member, -⟩
    cases member
  | @query writes statement next answer i running free answers =>
    obtain ⟨legal, rest⟩ := sound.wp i _ running _ le_rfl sound.inv (sound.fits i _ running) answer answers
    refine sound.put (fits_append.mpr ⟨sound.fits i _ running, legal⟩) rest ?_
    rintro j other different found l ⟨w, member, locks⟩
    rcases List.mem_append.mp member with old | new
    · exact sound.apart i j _ other (Ne.symm different) running found l ⟨w, old, locks⟩
    · exact free j other different found l (laws.needed new locks)
  | @commit writes result i running =>
    have fits := sound.fits i _ running
    have post := sound.wp i _ running _ le_rfl sound.inv fits
    obtain ⟨inv, later⟩ := commits _ _ _ sound.inv fits post
    have closed := sound.close i
    have other {j : Nat} {session : Session Q R E A W} (found : (state.set i none).sessions j = some session) :
        j ≠ i ∧ state.sessions j = some session := by
      rcases State.set_sessions found with ⟨-, absurd⟩ | old
      · cases absurd
      · exact old
    refine ⟨inv, ?_, fun j session found => (closed.wp j session found).later later, closed.apart⟩
    intro j session found
    obtain ⟨different, stands⟩ := other found
    refine laws.fits_beside ?_ (closed.fits j session found)
    intro w mine w' theirs l locks locks'
    exact sound.apart i j _ session (Ne.symm different) running stands l ⟨w, mine, locks⟩ ⟨w', theirs, locks'⟩
  | rollback i running => exact sound.close i

/-- The rule for whole runs. -/
theorem Reachable.sound {Starts : Program Q R E A → Prop} {s : S} {state : State Q R E A S W}
    (laws : Local store resources) (inv : Inv s)
    (starts : ∀ program, Starts program → ∀ s, WP store resources Inv Post program s [])
    (commits : ∀ s writes result, Inv s → Fits store resources writes s → Post s writes result →
      Inv (store.view writes s) ∧ s ≤ store.view writes s)
    (reachable : Reachable store Starts s state) : Sound store resources Inv Post state := by
  induction reachable with
  | refl =>
    refine ⟨inv, ?_, ?_, ?_⟩
    · intro i session absent
      cases absent
    · intro i session absent
      cases absent
    · intro i j a b different absent
      cases absent
  | tail _ step ih => exact ih.step laws starts commits step

end wp

end ReadCommitted
