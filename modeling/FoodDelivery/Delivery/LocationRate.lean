import FoodDelivery.Delivery.Online

namespace FoodDelivery.Delivery

open Tenancy (VerifiedIdentity)

/-- A location message of a socket and when the gateway handles it. -/
structure LocationMessage where
  nowMs : Int
  lat : Option Rat
  lng : Option Rat

namespace DeliverySocket

def receive (socket : DeliverySocket) (messages : List LocationMessage) : DeliverySocket :=
  messages.foldl (fun socket message => socket.onLocation message.nowMs message.lat message.lng) socket

/-- When the messages that lead to a `push` are handled. -/
def pushes (socket : DeliverySocket) : List LocationMessage → List Int
  | [] => []
  | message :: rest =>
    let next := socket.onLocation message.nowMs message.lat message.lng
    if next.outstanding = socket.outstanding then next.pushes rest else message.nowMs :: next.pushes rest

end DeliverySocket

namespace DeliverySocket

variable {socket : DeliverySocket} {message : LocationMessage} {messages : List LocationMessage}

/-- What the limiter makes of a message: it counts it in its window, or in a
new one, or nothing is pushed and at most the window is a new one. -/
theorem onLocation_limit (socket : DeliverySocket) (message : LocationMessage) :
    (socket.onLocation message.nowMs message.lat message.lng).rateLimiter = socket.rateLimiter ∧
      (socket.onLocation message.nowMs message.lat message.lng).outstanding = socket.outstanding ∨
    (message.nowMs - socket.rateLimiter.windowStartMs < 1000 ∧ socket.rateLimiter.count < socket.rateLimiter.maxPerSec ∧
      (socket.onLocation message.nowMs message.lat message.lng).rateLimiter =
        { socket.rateLimiter with count := socket.rateLimiter.count + 1 }) ∨
    (1000 ≤ message.nowMs - socket.rateLimiter.windowStartMs ∧ 0 < socket.rateLimiter.maxPerSec ∧
      (socket.onLocation message.nowMs message.lat message.lng).rateLimiter =
        { socket.rateLimiter with windowStartMs := message.nowMs, count := 1 }) ∨
    (1000 ≤ message.nowMs - socket.rateLimiter.windowStartMs ∧ socket.rateLimiter.maxPerSec = 0 ∧
      (socket.onLocation message.nowMs message.lat message.lng).rateLimiter =
        { socket.rateLimiter with windowStartMs := message.nowMs, count := 0 } ∧
      (socket.onLocation message.nowMs message.lat message.lng).outstanding = socket.outstanding) := by
  by_cases driver : driverRole ∈ socket.identity.roles
  · have after (pass : Bool) (limiter : LocationRateLimiter)
        (allows : socket.rateLimiter.allow message.nowMs = (pass, limiter)) :
        (socket.onLocation message.nowMs message.lat message.lng).rateLimiter = limiter ∧ (pass = false →
          (socket.onLocation message.nowMs message.lat message.lng).outstanding = socket.outstanding) := by
      simp only [onLocation, not_not.mpr driver, if_false, allows]
      cases pass with
      | false => exact ⟨rfl, fun _ => rfl⟩
      | true => cases createLocation message.lat message.lng <;> exact ⟨rfl, nofun⟩
    by_cases inside : message.nowMs - socket.rateLimiter.windowStartMs < 1000
    · have same : ¬ 1000 ≤ message.nowMs - socket.rateLimiter.windowStartMs := by omega
      by_cases full : socket.rateLimiter.maxPerSec ≤ socket.rateLimiter.count
      · obtain ⟨limiter, outstanding⟩ := after false socket.rateLimiter (by
          simp only [LocationRateLimiter.allow, if_neg same, if_pos full])
        exact Or.inl ⟨limiter, outstanding rfl⟩
      · obtain ⟨limiter, -⟩ := after true { socket.rateLimiter with count := socket.rateLimiter.count + 1 } (by
          simp only [LocationRateLimiter.allow, if_neg same, if_neg full])
        exact Or.inr (Or.inl ⟨inside, Nat.lt_of_not_le full, limiter⟩)
    · have outside : 1000 ≤ message.nowMs - socket.rateLimiter.windowStartMs := by omega
      by_cases closed : socket.rateLimiter.maxPerSec = 0
      · obtain ⟨limiter, outstanding⟩ := after false { socket.rateLimiter with windowStartMs := message.nowMs, count := 0 } (by
          simp only [LocationRateLimiter.allow, if_pos outside, closed, Nat.le_refl, if_true])
        exact Or.inr (Or.inr (Or.inr ⟨outside, closed, limiter, outstanding rfl⟩))
      · obtain ⟨limiter, -⟩ := after true { socket.rateLimiter with windowStartMs := message.nowMs, count := 1 } (by
          simp only [LocationRateLimiter.allow, if_pos outside, Nat.le_zero, closed, if_false])
        exact Or.inr (Or.inr (Or.inl ⟨outside, Nat.pos_of_ne_zero closed, limiter⟩))
  · have ignored : socket.onLocation message.nowMs message.lat message.lng = socket := by
      simp only [onLocation, driver, not_false_eq_true, if_true]
    exact Or.inl (by simp only [ignored, and_self])

theorem pushes_sublist (socket : DeliverySocket) (messages : List LocationMessage) :
    (socket.pushes messages).Sublist (messages.map (·.nowMs)) := by
  induction messages generalizing socket with
  | nil => exact List.Sublist.refl _
  | cons message rest ih =>
    simp only [pushes, List.map_cons]
    split
    · exact (ih _).cons _
    · exact (ih _).cons_cons _

/-- Every `push` has its command. -/
theorem receive_outstanding (socket : DeliverySocket) (messages : List LocationMessage) :
    (socket.receive messages).outstanding.length = socket.outstanding.length + (socket.pushes messages).length := by
  induction messages generalizing socket with
  | nil => rfl
  | cons message rest ih =>
    rw [receive, List.foldl_cons, ← receive, ih]
    simp only [pushes]
    split
    · rename_i same
      rw [same]
    · rename_i grown
      rcases socket.onLocation_cases message.nowMs message.lat message.lng with ⟨limiter, kept⟩ | ⟨limiter, location, -, -, issued⟩
      · rw [kept] at grown
        exact absurd rfl grown
      · rw [issued, List.length_cons]
        simp only [issue, List.length_append, List.length_singleton]
        omega

/-- Pushes before some time, of a socket that handles its messages in the order of their times. -/
def before (socket : DeliverySocket) (messages : List LocationMessage) (time : Int) : Nat :=
  (socket.pushes messages).countP (· < time)

theorem before_late {time : Int} (late : ∀ message ∈ messages, time ≤ message.nowMs) : socket.before messages time = 0 := by
  refine List.countP_eq_zero.mpr fun pushed member => ?_
  obtain ⟨message, listed, rfl⟩ := List.mem_map.mp ((socket.pushes_sublist messages).subset member)
  have bound := late message listed
  simp only [decide_eq_true_eq]
  omega

theorem before_cons_le (time : Int) : socket.before (message :: messages) time ≤
    (if (socket.onLocation message.nowMs message.lat message.lng).outstanding = socket.outstanding then 0 else 1) +
      (socket.onLocation message.nowMs message.lat message.lng).before messages time := by
  simp only [before, pushes]
  split
  · omega
  · rw [List.countP_cons]
    split <;> omega

/-- Within the limiter's window there is room for what it has not yet counted. -/
theorem before_window {time : Int} (sorted : messages.Pairwise fun first later => first.nowMs ≤ later.nowMs)
    (bounded : socket.rateLimiter.count ≤ socket.rateLimiter.maxPerSec)
    (within : time ≤ socket.rateLimiter.windowStartMs + 1000) :
    socket.before messages time + socket.rateLimiter.count ≤ socket.rateLimiter.maxPerSec := by
  induction messages generalizing socket with
  | nil =>
    rw [before_late (by simp)]
    omega
  | cons message rest ih =>
    obtain ⟨first, sortedRest⟩ := List.pairwise_cons.mp sorted
    by_cases late : time ≤ message.nowMs
    · rw [before_late (List.forall_mem_cons.mpr ⟨late, fun later member => late.trans (first later member)⟩)]
      omega
    · have step := @before_cons_le socket message rest time
      have next := @ih (socket.onLocation message.nowMs message.lat message.lng) sortedRest
      rcases socket.onLocation_limit message with ⟨limiter, same⟩ | ⟨-, room, limiter⟩ | ⟨outside, -⟩ | ⟨outside, -⟩
      · rw [limiter] at next
        rw [if_pos same] at step
        have fits := next bounded within
        omega
      · rw [limiter] at next
        have fits := next room within
        simp only at fits
        split at step <;> omega
      · omega
      · omega

/-- Two windows hold two times as much. -/
theorem before_windows {time : Int} (sorted : messages.Pairwise fun first later => first.nowMs ≤ later.nowMs)
    (bounded : socket.rateLimiter.count ≤ socket.rateLimiter.maxPerSec)
    (within : time ≤ socket.rateLimiter.windowStartMs + 2000) :
    socket.before messages time + socket.rateLimiter.count ≤ 2 * socket.rateLimiter.maxPerSec := by
  induction messages generalizing socket with
  | nil =>
    rw [before_late (by simp)]
    omega
  | cons message rest ih =>
    obtain ⟨-, sortedRest⟩ := List.pairwise_cons.mp sorted
    have step := @before_cons_le socket message rest time
    have next := @ih (socket.onLocation message.nowMs message.lat message.lng) sortedRest
    have fresh := @before_window (socket.onLocation message.nowMs message.lat message.lng) rest time sortedRest
    rcases socket.onLocation_limit message with ⟨limiter, same⟩ | ⟨-, room, limiter⟩ | ⟨outside, open_, limiter⟩ |
      ⟨outside, closed, limiter, same⟩
    · rw [limiter] at next
      rw [if_pos same] at step
      have fits := next bounded within
      omega
    · rw [limiter] at next
      have fits := next room within
      simp only at fits
      split at step <;> omega
    · rw [limiter] at fresh
      have fits := fresh open_ (by simp only; omega)
      simp only at fits
      split at step <;> omega
    · rw [if_pos same] at step
      rw [limiter] at fresh
      have fits := fresh (Nat.zero_le _) (by simp only; omega)
      simp only at fits
      omega

/-- The pushes of the second from some time on. -/
def within (socket : DeliverySocket) (messages : List LocationMessage) (start : Int) : Nat :=
  (socket.pushes messages).countP fun time => start ≤ time ∧ time < start + 1000

theorem within_le_before (start : Int) : socket.within messages start ≤ socket.before messages (start + 1000) := by
  refine List.countP_mono_left fun time _ inside => ?_
  simp only [decide_eq_true_eq] at inside ⊢
  exact inside.2

theorem within_cons_early {start : Int} (early : message.nowMs < start) : socket.within (message :: messages) start =
    (socket.onLocation message.nowMs message.lat message.lng).within messages start := by
  simp only [within, pushes]
  split
  · rfl
  · rw [List.countP_cons_of_neg]
    simp only [decide_eq_true_eq]
    omega

theorem within_cons_silent {start : Int}
    (silent : (socket.onLocation message.nowMs message.lat message.lng).outstanding = socket.outstanding) :
    socket.within (message :: messages) start =
      (socket.onLocation message.nowMs message.lat message.lng).within messages start := by
  simp only [within, pushes, if_pos silent]

/-- The window began with a message, or the next one begins a new one. -/
def Begun (socket : DeliverySocket) (messages : List LocationMessage) : Prop :=
  socket.rateLimiter.maxPerSec = 0 ∨ 0 < socket.rateLimiter.count ∨
    ∀ message ∈ messages, socket.rateLimiter.windowStartMs + 1000 ≤ message.nowMs

theorem Begun.next (begun : socket.Begun (message :: messages)) :
    (socket.onLocation message.nowMs message.lat message.lng).Begun messages := by
  unfold Begun
  rcases socket.onLocation_limit message with ⟨limiter, -⟩ | ⟨-, -, limiter⟩ | ⟨-, -, limiter⟩ | ⟨-, closed, limiter, -⟩
  · rw [limiter]
    exact begun.imp_right fun counts => counts.imp_right fun late => (List.forall_mem_cons.mp late).2
  · rw [limiter]
    exact Or.inr (Or.inl (Nat.succ_pos _))
  · rw [limiter]
    exact Or.inr (Or.inl Nat.one_pos)
  · rw [limiter]
    exact Or.inl closed

theorem onLocation_bounded (bounded : socket.rateLimiter.count ≤ socket.rateLimiter.maxPerSec) :
    (socket.onLocation message.nowMs message.lat message.lng).rateLimiter.maxPerSec = socket.rateLimiter.maxPerSec ∧
      (socket.onLocation message.nowMs message.lat message.lng).rateLimiter.count ≤ socket.rateLimiter.maxPerSec := by
  rcases socket.onLocation_limit message with ⟨limiter, -⟩ | ⟨-, room, limiter⟩ | ⟨-, open_, limiter⟩ | ⟨-, -, limiter, -⟩
  · rw [limiter]
    exact ⟨rfl, bounded⟩
  · rw [limiter]
    exact ⟨rfl, room⟩
  · rw [limiter]
    exact ⟨rfl, open_⟩
  · rw [limiter]
    exact ⟨rfl, Nat.zero_le _⟩

/-- In no second are there more pushes than the window before and the window
after hold, less the message that began the window before. -/
theorem within_bounded (sorted : messages.Pairwise fun first later => first.nowMs ≤ later.nowMs)
    (bounded : socket.rateLimiter.count ≤ socket.rateLimiter.maxPerSec) (begun : socket.Begun messages) (start : Int) :
    socket.within messages start ≤ 2 * socket.rateLimiter.maxPerSec - 1 := by
  induction messages generalizing socket with
  | nil => exact Nat.zero_le _
  | cons message rest ih =>
    obtain ⟨max, room⟩ := @onLocation_bounded socket message bounded
    have later := @ih (socket.onLocation message.nowMs message.lat message.lng) (List.pairwise_cons.mp sorted).2
      (max ▸ room) begun.next
    rw [max] at later
    by_cases early : message.nowMs < start
    · rw [within_cons_early early]
      exact later
    · have all := @within_le_before socket (message :: rest) start
      have step := @before_cons_le socket message rest (start + 1000)
      have fresh := @before_window (socket.onLocation message.nowMs message.lat message.lng) rest (start + 1000)
        (List.pairwise_cons.mp sorted).2 (max ▸ room)
      rcases socket.onLocation_limit message with ⟨-, silent⟩ | ⟨inside, -, -⟩ | ⟨-, open_, limiter⟩ | ⟨-, -, -, silent⟩
      · rw [within_cons_silent silent]
        exact later
      · have fits := before_windows sorted bounded (show start + 1000 ≤ socket.rateLimiter.windowStartMs + 2000 by omega)
        rcases begun with closed | counts | late
        · omega
        · omega
        · have outside := late message (List.mem_cons_self ..)
          omega
      · rw [limiter] at fresh
        have fits := fresh (by simp only; omega)
        simp only at fits
        split at step <;> omega
      · rw [within_cons_silent silent]
        exact later

/-- What the limiter has counted came in its window. -/
structure Counts (socket : DeliverySocket) (rateLimitPerSec : Nat) (earlier : List LocationMessage) : Prop where
  max : socket.rateLimiter.maxPerSec = rateLimitPerSec
  counted : socket.rateLimiter.count ≤ earlier.countP fun message => socket.rateLimiter.windowStartMs ≤ message.nowMs
  start : socket.rateLimiter.windowStartMs = 0 ∨ ∃ message ∈ earlier, socket.rateLimiter.windowStartMs = message.nowMs

theorem Counts.next {rateLimitPerSec : Nat} {earlier : List LocationMessage} (counts : socket.Counts rateLimitPerSec earlier)
    (past : 0 ≤ message.nowMs ∧ ∀ other ∈ earlier, other.nowMs ≤ message.nowMs) :
    (socket.onLocation message.nowMs message.lat message.lng).Counts rateLimitPerSec (earlier ++ [message]) := by
  obtain ⟨max, counted, start⟩ := counts
  have begun : socket.rateLimiter.windowStartMs ≤ message.nowMs := by
    rcases start with zero | ⟨other, listed, same⟩
    · rw [zero]
      exact past.1
    · rw [same]
      exact past.2 other listed
  have one (time : Int) (here : time ≤ message.nowMs) :
      (earlier ++ [message]).countP (fun message => time ≤ message.nowMs) =
        earlier.countP (fun message => time ≤ message.nowMs) + 1 := by
    rw [List.countP_append, List.countP_singleton, if_pos (decide_eq_true here)]
  rcases socket.onLocation_limit message with ⟨limiter, -⟩ | ⟨-, -, limiter⟩ | ⟨-, -, limiter⟩ | ⟨-, -, limiter, -⟩
  · constructor
    · rw [limiter, max]
    · rw [limiter, one _ begun]
      omega
    · rw [limiter]
      exact start.imp_right fun ⟨other, listed, same⟩ => ⟨other, List.mem_append_left _ listed, same⟩
  · constructor
    · rw [limiter, max]
    · rw [limiter, one _ begun]
      exact Nat.succ_le_succ counted
    · rw [limiter]
      exact start.imp_right fun ⟨other, listed, same⟩ => ⟨other, List.mem_append_left _ listed, same⟩
  · constructor
    · rw [limiter, max]
    · rw [limiter, one _ le_rfl]
      exact Nat.succ_le_succ (Nat.zero_le _)
    · rw [limiter]
      exact Or.inr ⟨message, List.mem_append_right _ (List.mem_singleton_self _), rfl⟩
  · constructor
    · rw [limiter, max]
    · rw [limiter]
      exact Nat.zero_le _
    · rw [limiter]
      exact Or.inr ⟨message, List.mem_append_right _ (List.mem_singleton_self _), rfl⟩

theorem onLocation_identity (socket : DeliverySocket) (nowMs : Int) (lat lng : Option Rat) :
    (socket.onLocation nowMs lat lng).identity = socket.identity := by
  rcases socket.onLocation_cases nowMs lat lng with ⟨rateLimiter, same⟩ | ⟨rateLimiter, location, -, -, same⟩
  · rw [same]
  · rw [same]
    rfl

theorem receive_append (socket : DeliverySocket) (earlier : List LocationMessage) (message : LocationMessage) :
    socket.receive (earlier ++ [message]) =
      (socket.receive earlier).onLocation message.nowMs message.lat message.lng := by
  rw [receive, List.foldl_append]
  rfl

theorem receive_identity (socket : DeliverySocket) (messages : List LocationMessage) :
    (socket.receive messages).identity = socket.identity := by
  induction messages using List.reverseRecOn with
  | nil => rfl
  | append_singleton earlier message ih => rw [receive_append, onLocation_identity, ih]

/-- The times at which the messages are handled are those of a clock that is
not set back. -/
def Clocked (messages : List LocationMessage) : Prop := (0 :: messages.map (·.nowMs)).Pairwise (· ≤ ·)

theorem Counts.receive {identity : VerifiedIdentity} {rateLimitPerSec : Nat} {earlier : List LocationMessage}
    (clocked : Clocked earlier) :
    ((DeliverySocket.open identity rateLimitPerSec).receive earlier).Counts rateLimitPerSec earlier := by
  induction earlier using List.reverseRecOn with
  | nil => exact ⟨rfl, Nat.zero_le _, Or.inl rfl⟩
  | append_singleton earlier message ih =>
    rw [Clocked, List.map_append, ← List.cons_append, List.pairwise_append] at clocked
    obtain ⟨before, -, across⟩ := clocked
    have late (time : Int) (listed : time ∈ 0 :: earlier.map (·.nowMs)) : time ≤ message.nowMs :=
      across time listed message.nowMs (List.mem_singleton_self _)
    rw [receive_append]
    refine (ih before).next ⟨late 0 (List.mem_cons_self ..), fun other listed => ?_⟩
    exact late other.nowMs (List.mem_cons_of_mem _ (List.mem_map_of_mem listed))

/-- While fewer messages than the limit came within a second, a valid one is
pushed. -/
theorem Counts.pushed {rateLimitPerSec : Nat} {earlier : List LocationMessage} {location : Location}
    (counts : socket.Counts rateLimitPerSec earlier) (driver : driverRole ∈ socket.identity.roles)
    (created : createLocation message.lat message.lng = .ok location)
    (sparse : (earlier.countP fun other => message.nowMs - 1000 < other.nowMs) < rateLimitPerSec) :
    (socket.onLocation message.nowMs message.lat message.lng).outstanding = socket.outstanding ++ [.geoadd location] := by
  obtain ⟨max, counted, -⟩ := counts
  have passes : ∃ limiter, socket.rateLimiter.allow message.nowMs = (true, limiter) := by
    by_cases inside : message.nowMs - socket.rateLimiter.windowStartMs < 1000
    · have same : ¬ 1000 ≤ message.nowMs - socket.rateLimiter.windowStartMs := by omega
      have fewer : earlier.countP (fun other => socket.rateLimiter.windowStartMs ≤ other.nowMs) ≤
          earlier.countP fun other => message.nowMs - 1000 < other.nowMs := by
        refine List.countP_mono_left fun other _ later => ?_
        simp only [decide_eq_true_eq] at later ⊢
        omega
      have room : ¬ socket.rateLimiter.maxPerSec ≤ socket.rateLimiter.count := by omega
      simp only [LocationRateLimiter.allow, if_neg same, if_neg room]
      exact ⟨_, rfl⟩
    · have outside : 1000 ≤ message.nowMs - socket.rateLimiter.windowStartMs := by omega
      have open_ : ¬ socket.rateLimiter.maxPerSec ≤ 0 := by omega
      simp only [LocationRateLimiter.allow, if_pos outside, if_neg open_]
      exact ⟨_, rfl⟩
  obtain ⟨limiter, allowed⟩ := passes
  simp only [onLocation, not_not.mpr driver, if_false, allowed, created]
  rfl

end DeliverySocket

/-- However fast a client sends, a socket issues fewer than twice the limit of
`GEOADD` commands in any second; and a driver's valid location is pushed
whenever fewer messages than the limit came in the second before. -/
theorem DeliverySocket.location_rate (identity : VerifiedIdentity) (rateLimitPerSec : Nat) (messages : List LocationMessage)
    (clocked : Clocked messages) :
    ((∀ message ∈ messages, 1000 ≤ message.nowMs) →
      ∀ start, (DeliverySocket.open identity rateLimitPerSec).within messages start ≤ 2 * rateLimitPerSec - 1) ∧
    ∀ earlier message later location, messages = earlier ++ message :: later → driverRole ∈ identity.roles →
      createLocation message.lat message.lng = .ok location →
      (earlier.countP fun other => message.nowMs - 1000 < other.nowMs) < rateLimitPerSec →
      ((DeliverySocket.open identity rateLimitPerSec).receive (earlier ++ [message])).outstanding =
        ((DeliverySocket.open identity rateLimitPerSec).receive earlier).outstanding ++ [.geoadd location] := by
  constructor
  · intro late start
    have sorted := List.pairwise_map.mp (List.pairwise_cons.mp clocked).2
    refine within_bounded sorted (Nat.zero_le _) (Or.inr (Or.inr fun message listed => ?_)) start
    rw [DeliverySocket.open, LocationRateLimiter.create]
    have bound := late message listed
    simp only
    omega
  · rintro earlier message later location rfl driver created sparse
    have before : Clocked earlier := by
      rw [Clocked, List.map_append, ← List.cons_append] at clocked
      exact (List.pairwise_append.mp clocked).1
    rw [receive_append]
    refine (Counts.receive before).pushed ?_ created sparse
    rw [receive_identity]
    exact driver

/-- Three messages pass about the turn of a window of two. -/
def sampleMessages : List LocationMessage :=
  [⟨1000, some 1, some 2⟩, ⟨1999, some 1, some 2⟩, ⟨2000, some 1, some 2⟩, ⟨2001, some 1, some 2⟩]

theorem location_rate_of_sample : (DeliverySocket.open sampleDriver 2).within sampleMessages 1500 = 3 ∧
    ∀ start, (DeliverySocket.open sampleDriver 2).within sampleMessages start ≤ 2 * 2 - 1 :=
  ⟨by decide, (DeliverySocket.location_rate sampleDriver 2 sampleMessages (by unfold DeliverySocket.Clocked; decide)).1 (by decide)⟩

end FoodDelivery.Delivery
