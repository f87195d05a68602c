import Multifrost.Lib.Feed
import Multifrost.Router.Safety.Step

/-!
# Control frames at the router

The websocket library yields pings and pongs from the stream like any other message.  The message
loop of `handle_connection` passes over them; the read of the first message does not, and takes
them for a message that is not binary.  So the router serves its connections as if the control
frames were not there exactly when none of them comes first.
-/

namespace Multifrost.Router

open TransitionSystem

variable {m : RmpSerde}

/-! ### Streams of messages -/

/-- A ping or a pong. -/
def isControl {α : Type} : Option (Except α Message) → Bool
  | some (.ok .ping) => true
  | some (.ok .pong) => true
  | _ => false

theorem cases_of_isControl {α : Type} {x : Option (Except α Message)} (h : isControl x = true) :
    x = some (.ok .ping) ∨ x = some (.ok .pong) := by
  unfold isControl at h
  split at h
  · exact .inl rfl
  · exact .inr rfl
  · cases h

/-- The first message is a control frame. -/
def startsWithControl {α : Type} : List (Option (Except α Message)) → Bool
  | [] => false
  | x :: _ => isControl x

theorem startsWithControl_cons {α : Type} {x : Option (Except α Message)}
    {xs : List (Option (Except α Message))} (h : startsWithControl (x :: xs) = false) :
    ¬ isControl x = true := by
  rw [Bool.not_eq_true]
  exact h

/-- A stream without its control frames. -/
def data {α : Type} (l : List (Option (Except α Message))) : List (Option (Except α Message)) :=
  l.filter fun x => ¬ isControl x = true

theorem data_cons_of_isControl {α : Type} {x : Option (Except α Message)}
    (xs : List (Option (Except α Message))) (hx : isControl x = true) :
    data (x :: xs) = data xs := by
  apply List.filter_cons_of_neg
  simpa using hx

theorem data_cons {α : Type} {x : Option (Except α Message)}
    (xs : List (Option (Except α Message))) (hx : isControl x = false) :
    data (x :: xs) = x :: data xs := by
  apply List.filter_cons_of_pos
  simp [hx]

/-- A system has the same runs on these streams as on those from which some of the control frames
are taken out, whichever these are. -/
def Transparent {σ ι ε κ α : Type} [DecidableEq κ] (T : TransitionSystem σ ι ε)
    (R : Reads σ ι κ (Option (Except α Message)))
    (S' : κ → List (Option (Except α Message))) : Prop :=
  ∀ S, (∀ k, Inserted (fun x => isControl x = true) (S' k) (S k)) →
    T.SameRuns R (fun x => isControl x = true) S' S

/-- What is reached on streams is then reached on their data. -/
theorem Transparent.data {σ ι ε κ α : Type} [DecidableEq κ] {T : TransitionSystem σ ι ε}
    {R : Reads σ ι κ (Option (Except α Message))} {S' F' : κ → List (Option (Except α Message))}
    {s : σ} {tr : List ε} (h : Transparent T R S') (hF' : (T.fed R S').Reachable (s, F') tr) :
    (T.fed R fun k => Router.data (S' k)).Reachable (s, fun k => Router.data (F' k)) tr :=
  (h _ fun k => inserted_filter (S' k)).left_eq_filter hF'

/-! ### The reads of the router -/

/-- A connection reads where it awaits its first message, and in the message loop. -/
def Pc.isReading : Pc m → Bool
  | .first => true
  | .loop _ => true
  | _ => false

def reads (m : RmpSerde) : Reads (State m) Input ConnId Next where
  stream s i := if (s.conns i.conn).isReading then some i.conn else none
  put x i := { i with next := x }

theorem isReading_of_stream {s : State m} {i : Input} {c : ConnId}
    (h : (reads m).stream s i = some c) : c = i.conn ∧ (s.conns c).isReading = true := by
  simp only [reads] at h
  split_ifs at h with hreading
  obtain rfl := Option.some.inj h
  exact ⟨rfl, hreading⟩

/-- In the message loop a control frame changes nothing. -/
theorem step_control {s : State m} {i : Input} {me : Session} {x : Next}
    (hpc : s.conns i.conn = .loop me) (hx : isControl x = true) :
    (serve m).step { i with next := x } s = some (s, []) := by
  have hnext : onNext m i.now me x = .loop me ∧ receivedEvent m i.conn x = [] := by
    rcases cases_of_isControl hx with rfl | rfl
    · exact ⟨rfl, rfl⟩
    · exact ⟨rfl, rfl⟩
  simp only [serve, hpc, connStep, hnext, Option.map_some]
  rw [← hpc, Function.update_eq_self]

/-! ### Connections of which nothing has been read -/

/-- The connection has yet to read its first message. -/
def Pc.isWaiting : Pc m → Bool
  | .accept => true
  | .first => true
  | _ => false

/-- The awaits at which no message has been read: the connection waits for the first one, or its
handshake has failed. -/
def Pc.isUnread : Pc m → Bool
  | .returned (.error .webSocket) => true
  | pc => pc.isWaiting

theorem isWaiting_of_quiet {me : Session} {pc : Pc m} (h : Quiet me pc) : pc.isWaiting = false := by
  cases h <;> rfl

/-- A connection waits for its first message once. -/
theorem Step.isWaiting {i : Input} {reg reg' : PeerRegistry} {pc pc' : Pc m}
    {evs : List (Event m)} (h : Step m i reg pc reg' pc' evs) (hpc : pc ≠ .accept) :
    pc'.isWaiting = false := by
  cases h with
  | handshake => exact absurd rfl hpc
  | first hpc' => obtain ⟨e, b, rfl⟩ | ⟨f, rfl⟩ | ⟨res, rfl⟩ := hpc' <;> rfl
  | inserted _ hpc' => obtain ⟨f, rfl, -, -⟩ | ⟨e, rfl⟩ := hpc' <;> rfl
  | duplicate hpc' => obtain ⟨f, rfl⟩ | ⟨res, rfl⟩ := hpc' <;> rfl
  | routed _ hr => obtain ⟨rfl, -⟩ | ⟨rfl, -⟩ | ⟨rfl, -⟩ := hr <;> rfl
  | replied hpc' => obtain ⟨-, rfl⟩ | ⟨-, rfl⟩ := hpc' <;> rfl
  | disconnected hpc' => obtain ⟨f, rfl⟩ | ⟨res, rfl⟩ := hpc' <;> rfl
  | message hq | evicted hq => exact isWaiting_of_quiet hq
  | answered _ hq => exact isWaiting_of_quiet hq
  | _ => rfl

/-- A connection that has read nothing and does not read has read nothing. -/
theorem isUnread_of_connStep {i : Input} {reg reg' : PeerRegistry} {pc pc' : Pc m}
    {evs : List (Event m)} (h : connStep m i reg pc = some (reg', pc', evs))
    (hread : pc.isReading = false) (hpc : pc.isUnread = true) : pc'.isUnread = true := by
  cases pc with
  | accept =>
    cases h
    cases i.ok <;> rfl
  | first => cases hread
  | returned result => cases h
  | _ => cases hpc

/-- What the steps of the router do to one connection. -/
theorem conns_of_step {i : Input} {s s' : State m} {evs : List (Event m)}
    (h : (serve m).step i s = some (s', evs)) (c : ConnId) :
    c ≠ i.conn ∧ s'.conns c = s.conns c ∨
      c = i.conn ∧ ∃ reg', connStep m i s.registry (s.conns c) = some (reg', s'.conns c, evs) := by
  obtain ⟨⟨reg, pc, evs'⟩, hconn, heq⟩ := Option.map_eq_some_iff.mp h
  cases heq
  by_cases hc : c = i.conn
  · subst hc
    dsimp only
    rw [Function.update_self]
    exact .inr ⟨rfl, reg, hconn⟩
  · exact .inl ⟨hc, Function.update_of_ne hc ..⟩

/-- In every run, of the stream of a connection nothing has been read, or it no longer waits for
its first message. -/
theorem conn_unread_or_read {S F : ConnId → List Next} {s : State m} {tr : List (Event m)}
    (h : ((serve m).fed (reads m) S).Reachable (s, F) tr) (c : ConnId) :
    (s.conns c).isUnread = true ∧ F c = S c ∨
      (s.conns c).isWaiting = false ∧ (F c).length < (S c).length := by
  refine unread_or_read (fun s c => (s.conns c).isUnread) (fun s c => (s.conns c).isWaiting)
    (fun _ => rfl) ?_ ?_ ?_ ?_ h c
  · intro s s' i evs c hr hs hunread
    rcases conns_of_step hs c with ⟨-, hsame⟩ | ⟨rfl, reg', hconn⟩
    · rwa [hsame]
    · refine isUnread_of_connStep hconn ?_ hunread
      simp only [reads] at hr
      split_ifs at hr with hreading
      rwa [Bool.not_eq_true] at hreading
  · intro s s' i x evs c c' hr hne hs
    obtain ⟨rfl, -⟩ := isReading_of_stream hr
    rcases conns_of_step hs c with ⟨-, hsame⟩ | ⟨heq, -⟩
    · rw [hsame]
      exact ⟨rfl, rfl⟩
    · exact absurd heq hne
  · intro s s' i evs c hs hwaiting
    rcases conns_of_step hs c with ⟨-, hsame⟩ | ⟨rfl, reg', hconn⟩
    · rwa [hsame]
    · refine (step_of_connStep hconn).isWaiting ?_
      intro haccept
      rw [haccept] at hwaiting
      cases hwaiting
  · intro s s' i x evs c hr hs
    obtain ⟨rfl, hreading⟩ := isReading_of_stream hr
    rcases conns_of_step hs i.conn with ⟨hne, -⟩ | ⟨-, reg', hconn⟩
    · exact absurd rfl hne
    · refine (step_of_connStep hconn).isWaiting ?_
      intro haccept
      rw [haccept] at hreading
      cases hreading

/-! ### Transparency -/

/-- As the first message a control frame is not binary. -/
theorem onFirst_control {c : ConnId} {x : Next} (now : Float64) (hx : isControl x = true) :
    onFirst m now x = .returned (.error .nonBinaryMessage) ∧ receivedEvent m c x = [] := by
  rcases cases_of_isControl hx with rfl | rfl
  · exact ⟨rfl, rfl⟩
  · exact ⟨rfl, rfl⟩

/-- A control frame that comes first ends the connection. -/
theorem exists_returned_of_control {S : ConnId → List Next} {c : ConnId} {x : Next} {xs : List Next}
    (hx : isControl x = true) (hS : S c = x :: xs) :
    ∃ s, ((serve m).fed (reads m) S).Reachable (s, Function.update S c xs) [] ∧
      s.conns c = .returned (.error .nonBinaryMessage) := by
  let s₀ : State m := ⟨PeerRegistry.new, Function.update (fun _ => .accept) c .first⟩
  let s₁ : State m := ⟨PeerRegistry.new,
    Function.update s₀.conns c (.returned (.error .nonBinaryMessage))⟩
  have haccepts : (serve m).step { conn := c } (serve m).init = some (s₀, []) := rfl
  have hfirst : s₀.conns c = .first := by simp [s₀]
  have hreads : (reads m).stream s₀ { conn := c } = some c := by
    simp only [reads, hfirst, Pc.isReading, if_true]
  have hends : (serve m).step { conn := c, next := x } s₀ = some (s₁, []) := by
    obtain ⟨hpc, hevs⟩ := onFirst_control (m := m) (c := c) .one hx
    simp only [serve, hfirst, connStep, Option.map_some, hpc, hevs]
    rfl
  have hrun₀ : ((serve m).fed (reads m) S).Reachable (s₀, S) [] :=
    Run.step Run.init trivial (step_fed_of_none rfl haccepts)
  have hrun₁ : ((serve m).fed (reads m) S).Reachable (s₁, Function.update S c xs) [] :=
    Run.step hrun₀ trivial (step_fed_of_some hreads hS hends)
  exact ⟨s₁, hrun₁, Function.update_self ..⟩

/-- Control frames are transparent to the router exactly when no stream starts with one. -/
theorem transparent_serve_iff (m : RmpSerde) (S' : ConnId → List Next) :
    Transparent (serve m) (reads m) S' ↔ ∀ c, startsWithControl (S' c) = false := by
  constructor
  · intro h c
    cases hS : S' c with
    | nil => rfl
    | cons x xs =>
      rw [startsWithControl, ← Bool.not_eq_true]
      intro hx
      -- without any control frames, the same end is reached before anything is read
      obtain ⟨s, hreach, hreturned⟩ := exists_returned_of_control (m := m) hx hS
      rcases conn_unread_or_read (h.data hreach) c with ⟨hunread, -⟩ | ⟨-, hlength⟩
      · rw [hreturned] at hunread
        cases hunread
      · rw [Function.update_self, hS, data_cons_of_isControl xs hx] at hlength
        exact lt_irrefl _ hlength
  · intro h S hS
    refine sameRuns_of_skips hS ?_
    intro s F' tr i c x xs hreach hr hF hx
    obtain ⟨rfl, hreading⟩ := isReading_of_stream hr
    cases hpc : s.conns i.conn with
    | first =>
      rcases conn_unread_or_read hreach i.conn with ⟨-, hunread⟩ | ⟨hwaiting, -⟩
      · have hstarts := h i.conn
        rw [← hunread, hF] at hstarts
        exact absurd hx (startsWithControl_cons hstarts)
      · rw [hpc] at hwaiting
        cases hwaiting
    | loop me => exact step_control hpc hx
    | _ =>
      rw [hpc] at hreading
      cases hreading

end Multifrost.Router
