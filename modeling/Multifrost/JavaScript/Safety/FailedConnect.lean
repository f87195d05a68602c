import Multifrost.JavaScript.Connect
import Multifrost.JavaScript.Safety.Startup

/-!
# What a failed `connect` leaves behind

`connect` does not close its socket when it fails.  Where the socket failed that does not matter.
But after a timeout, a failed send, or a reply that is not the accepted acknowledgement, the socket
is open, nobody has it, and the peer id may be taken: the router may have accepted the register
frame by then.  And where the socket fails before `open` is fulfilled, nobody awaits `registerAck`,
which is rejected as well, and the process ends.
-/

namespace Multifrost.JavaScript.Connect

open Router (PeerClass)
open Service (BodyCodec PromiseState onMessage settle_fulfilled)

variable {m : Msgpack} {codec : BodyCodec} {peerId : String} {peerClass : PeerClass}
  {msgId : ConnectId → String}

/-! ### What is left -/

section Statement

variable (m codec peerId peerClass msgId)

structure LeavesNothing (s : State) : Prop where
  /-- The socket of a `connect` that has failed is closed, or is being closed. -/
  socketOver : ∀ k, (s.connects k).pc = .rejected → (s.connects k).readyState.isOver = true
  /-- The router has seen the end of its connection, or can see it. -/
  removed : ∀ k, (s.connects k).pc = .rejected → (s.connects k).router = .ended ∨
    ∃ s', (connect m codec peerId peerClass msgId).step (.routerEnds k) s = some (s', [])
  /-- When the router has seen the ends of all others, another registration is accepted. -/
  retried : ∀ k now, (∀ q, q ≠ k → (s.connects q).pc = .unstarted ∨
      (s.connects q).pc = .rejected ∧ (s.connects q).router = .ended) →
    (s.connects k).written = true → (s.connects k).router = .waiting →
    ∃ s', (connect m codec peerId peerClass msgId).step (.routerReads k now) s = some (s', []) ∧
      (s'.connects k).router = .registered
  /-- Another call of `connect` can be made. -/
  again : ∀ k, (s.connects k).pc = .unstarted →
    ∃ s', (connect m codec peerId peerClass msgId).step (.connect k) s = some (s', [])

/-- The registration does not time out, and the send of the register frame does not fail on a socket
that is neither closed nor being closed.  As long as the registration is open, no reply comes but the
accepted acknowledgement, and the socket does not fail before `open` is fulfilled. -/
def Accepts (s : State) : Input → Prop
  | .sent k ok => ok = false → (s.connects k).readyState.isOver = true
  | .timeout k => (s.connects k).registerAck ≠ .pending
  | .message k incoming => (s.connects k).listening = true → (s.connects k).registerAck = .pending →
      onMessage m codec (msgId k) incoming = .fulfilled
  | .socketError k | .socketClosed k =>
      (s.connects k).listening = true → (s.connects k).registerAck = .pending →
        (s.connects k).opened = .fulfilled
  | .connect _ | .opened _ | .microtask _ | .unhandledRejection _ | .close _
  | .routerReads .. | .routerEnds _ | .routerFails _ => True

instance (s : State) : ∀ i, Decidable (Accepts m codec msgId s i)
  | .sent _ _ => inferInstanceAs (Decidable (_ = _ → _ = _))
  | .timeout _ => inferInstanceAs (Decidable (_ ≠ _))
  | .message _ _ => inferInstanceAs (Decidable (_ = _ → _ = _ → _ = _))
  | .socketError _ | .socketClosed _ => inferInstanceAs (Decidable (_ = _ → _ = _ → _ = _))
  | .connect _ | .opened _ | .microtask _ | .unhandledRejection _ | .close _
  | .routerReads .. | .routerEnds _ | .routerFails _ => inferInstanceAs (Decidable True)

end Statement

/-! ### Promises and sockets -/

/-- What is rejected was rejected by the socket. -/
def Connecting.Safe (c : Connecting) : Prop :=
  c.opened = .rejected ∨ c.registerAck = .rejected ∨ c.pc = .rejected →
    c.readyState.isOver = true

theorem settle_eq_rejected {before after : PromiseState} (h : before.settle after = .rejected) :
    before = .rejected ∨ before = .pending ∧ after = .rejected := by
  cases before with
  | pending => exact Or.inr ⟨rfl, h⟩
  | fulfilled => cases h
  | rejected => exact Or.inl rfl

/-- A socket that is closed, or is being closed. -/
theorem Connecting.Safe.of_isOver {c : Connecting} (h : c.readyState.isOver = true) : c.Safe :=
  fun _ => h

theorem Connecting.Safe.settleAck {c : Connecting} (h : c.Safe) {ack : PromiseState}
    (hack : c.registerAck = .pending → ack = .rejected → c.readyState.isOver = true) :
    (c.settleAck ack).Safe := by
  intro hrejected
  rcases hrejected with hopened | hrejected | hpc
  · exact h (Or.inl hopened)
  · rcases settle_eq_rejected hrejected with hbefore | ⟨hbefore, hafter⟩
    · exact h (Or.inr (Or.inl hbefore))
    · exact hack hbefore hafter
  · exact h (Or.inr (Or.inr hpc))

theorem Connecting.Safe.message {c : Connecting} (h : c.Safe) {registerMsgId : String}
    {incoming : Service.Incoming}
    (hc : c.listening = true → c.registerAck = .pending →
      onMessage m codec registerMsgId incoming = .fulfilled) :
    (c.message m codec registerMsgId incoming).Safe := by
  unfold Connecting.message
  by_cases hlistening : c.listening = true
  · rw [if_pos hlistening]
    have hsettled : ∀ ack, onMessage m codec registerMsgId incoming = ack →
        (c.settleAck ack).Safe := by
      intro ack hmessage
      refine h.settleAck fun hpending hack => ?_
      have hfulfilled := hc hlistening hpending
      rw [hmessage, hack] at hfulfilled
      cases hfulfilled
    cases hmessage : onMessage m codec registerMsgId incoming with
    | pending => exact hsettled _ hmessage
    | fulfilled => exact hsettled _ hmessage
    | rejected => exact hsettled _ hmessage
  · rw [if_neg hlistening]
    exact h

theorem Connecting.isOver_socketError (c : Connecting) :
    c.socketError.readyState.isOver = true := by
  unfold Connecting.socketError
  dsimp only
  split_ifs <;> rfl

theorem Connecting.isOver_socketClosed (c : Connecting) :
    c.socketClosed.readyState.isOver = true := by
  unfold Connecting.socketClosed
  dsimp only
  split_ifs <;> rfl

/-- A continuation moves the call on; it fails only after a rejected promise. -/
theorem Connecting.microtask_cases {c c' : Connecting} (hs : c.microtask = some c') :
    ∃ pc, c' = { c with pc := pc } ∧ pc ≠ .unstarted ∧
      (pc = .rejected → c.opened = .rejected ∨ c.registerAck = .rejected) := by
  obtain ⟨pc, opened, registerAck⟩ := c
  cases pc with
  | awaitOpen =>
    cases opened with
    | pending => cases hs
    | rejected =>
      cases hs
      exact ⟨_, rfl, by rintro ⟨⟩, fun _ => Or.inl rfl⟩
    | fulfilled =>
      cases hs
      exact ⟨_, rfl, by rintro ⟨⟩, by rintro ⟨⟩⟩
  | awaitAck =>
    cases registerAck with
    | pending => cases hs
    | rejected =>
      cases hs
      exact ⟨_, rfl, by rintro ⟨⟩, fun _ => Or.inr rfl⟩
    | fulfilled =>
      cases hs
      exact ⟨_, rfl, by rintro ⟨⟩, by rintro ⟨⟩⟩
  | attached =>
    cases hs
    exact ⟨_, rfl, by rintro ⟨⟩, by rintro ⟨⟩⟩
  | unstarted => cases hs
  | returned => cases hs
  | rejected => cases hs

theorem Connecting.Safe.microtask {c c' : Connecting} (h : c.Safe) (hs : c.microtask = some c') :
    c'.Safe := by
  obtain ⟨pc, rfl, -, hpc⟩ := Connecting.microtask_cases hs
  intro hrejected
  rcases hrejected with hopened | hack | hrejected
  · exact h (Or.inl hopened)
  · exact h (Or.inr (Or.inl hack))
  · rcases hpc hrejected with hopened | hack
    · exact h (Or.inl hopened)
    · exact h (Or.inr (Or.inl hack))

/-! ### Rejections -/

/-- A rejected `registerAck` is awaited. -/
def Connecting.Awaited (c : Connecting) : Prop := c.registerAck = .rejected → c.opened = .fulfilled

theorem Connecting.Awaited.not_unhandled {c : Connecting} (h : c.Awaited) :
    ¬ c.unhandled = true := by
  intro hunhandled
  obtain ⟨hrejected, hopened, -⟩ := of_decide_eq_true hunhandled
  exact hopened (h hrejected)

theorem Connecting.Awaited.settleAck {c : Connecting} (h : c.Awaited) {ack : PromiseState}
    (hack : c.registerAck = .pending → ack = .rejected → c.opened = .fulfilled) :
    (c.settleAck ack).Awaited := by
  intro hrejected
  rcases settle_eq_rejected hrejected with hbefore | ⟨hbefore, hafter⟩
  · exact h hbefore
  · exact hack hbefore hafter

theorem Connecting.Awaited.message {c : Connecting} (h : c.Awaited) {registerMsgId : String}
    {incoming : Service.Incoming}
    (hc : c.listening = true → c.registerAck = .pending →
      onMessage m codec registerMsgId incoming = .fulfilled) :
    (c.message m codec registerMsgId incoming).Awaited := by
  unfold Connecting.message
  by_cases hlistening : c.listening = true
  · rw [if_pos hlistening]
    have hsettled : ∀ ack, onMessage m codec registerMsgId incoming = ack →
        (c.settleAck ack).Awaited := by
      intro ack hmessage
      refine h.settleAck fun hpending hack => ?_
      have hfulfilled := hc hlistening hpending
      rw [hmessage, hack] at hfulfilled
      cases hfulfilled
    cases hmessage : onMessage m codec registerMsgId incoming with
    | pending => exact hsettled _ hmessage
    | fulfilled => exact hsettled _ hmessage
    | rejected => exact hsettled _ hmessage
  · rw [if_neg hlistening]
    exact h

theorem Connecting.Awaited.socketError {c : Connecting} (h : c.Awaited)
    (hc : c.listening = true → c.registerAck = .pending → c.opened = .fulfilled) :
    c.socketError.Awaited := by
  have hopened : ({ c with
      opened := c.opened.settle .rejected, readyState := .closing } : Connecting).Awaited :=
    fun hrejected => settle_fulfilled (h hrejected)
  unfold Connecting.socketError
  dsimp only
  split_ifs with hlistening
  · exact hopened.settleAck fun hpending _ => settle_fulfilled (hc hlistening hpending)
  · exact hopened

theorem Connecting.Awaited.socketClosed {c : Connecting} (h : c.Awaited)
    (hc : c.listening = true → c.registerAck = .pending → c.opened = .fulfilled) :
    c.socketClosed.Awaited := by
  have hclosed : ({ c with readyState := .closed } : Connecting).Awaited := h
  unfold Connecting.socketClosed
  dsimp only
  split_ifs with hlistening
  · exact hclosed.settleAck fun hpending _ => hc hlistening hpending
  · exact hclosed

/-! ### Steps -/

/-- What an event of the client makes of its call of `connect`. -/
inductive ClientStep (m : Msgpack) (codec : BodyCodec) (msgId : ConnectId → String)
    (c : Connecting) : ConnectId → Input → Connecting → Prop
  | connect {k : ConnectId} (h : c.pc = .unstarted) :
      ClientStep m codec msgId c k (.connect k)
        { c with pc := .awaitOpen, timer := true, listening := true }
  | opened {k : ConnectId} (hpc : c.pc ≠ .unstarted) (h : c.readyState = .connecting) :
      ClientStep m codec msgId c k (.opened k)
        { c with readyState := .open, sending := true, written := true }
  | sent {k : ConnectId} {ok : Bool} :
      ClientStep m codec msgId c k (.sent k ok)
        { c with
          opened := c.opened.settle (if ok then .fulfilled else .rejected)
          sending := false }
  | message {k : ConnectId} {incoming : Service.Incoming} :
      ClientStep m codec msgId c k (.message k incoming) (c.message m codec (msgId k) incoming)
  | socketError {k : ConnectId} (hpc : c.pc ≠ .unstarted) :
      ClientStep m codec msgId c k (.socketError k) c.socketError
  | socketClosed {k : ConnectId} (hpc : c.pc ≠ .unstarted) :
      ClientStep m codec msgId c k (.socketClosed k) c.socketClosed
  | timeout {k : ConnectId} : ClientStep m codec msgId c k (.timeout k) (c.settleAck .rejected)
  | microtask {k : ConnectId} {c' : Connecting} (h : c.microtask = some c') :
      ClientStep m codec msgId c k (.microtask k) c'
  | close {k : ConnectId} (hpc : c.pc = .attached ∨ c.pc = .returned) :
      ClientStep m codec msgId c k (.close k) { c with readyState := .closing }

inductive Step (m : Msgpack) (codec : BodyCodec) (peerId : String) (peerClass : PeerClass)
    (msgId : ConnectId → String) (s : State) : Input → State → Prop
  | client {k : ConnectId} {i : Input} {c : Connecting}
      (h : ClientStep m codec msgId (s.connects k) k i c) :
      Step m codec peerId peerClass msgId s i (s.set k c)
  | registers {k : ConnectId} {now : Router.Instant} {registry : Router.PeerRegistry}
      (hwritten : (s.connects k).written = true)
      (h : s.registry.insertLivePeer peerId peerClass k now = .ok registry) :
      Step m codec peerId peerClass msgId s (.routerReads k now)
        { s.set k { s.connects k with router := .registered } with registry := registry }
  | refuses {k : ConnectId} {now : Router.Instant} (hwritten : (s.connects k).written = true)
      (h : (s.connects k).router = .waiting) :
      Step m codec peerId peerClass msgId s (.routerReads k now)
        (s.set k { s.connects k with router := .ended })
  | leaves {k : ConnectId} {i : Input}
      (h : (s.connects k).readyState.isOver = true ∨ (s.connects k).pc ≠ .unstarted) :
      Step m codec peerId peerClass msgId s i (s.leave peerId k)

/-- A process that runs does what its inputs say. -/
theorem step_of_running {s : State} (h : s.exited = false) (i : Input) :
    (connect m codec peerId peerClass msgId).step i s = step m codec peerId peerClass msgId i s :=
  if_neg fun hexited => absurd hexited.1 (by rw [h]; exact Bool.false_ne_true)

/-- No rejection ends the process if all are awaited. -/
theorem step_of_connect {i : Input} {s s' : State} {evs : List Empty}
    (hawaited : ∀ k, (s.connects k).Awaited)
    (hs : step m codec peerId peerClass msgId i s = some (s', evs)) :
    Step m codec peerId peerClass msgId s i s' := by
  cases i with
  | connect k =>
    simp only [step] at hs
    split_ifs at hs with hpc
    cases hs
    exact .client (.connect hpc)
  | opened k =>
    simp only [step] at hs
    split_ifs at hs with hstate
    cases hs
    exact .client (.opened hstate.1 hstate.2)
  | sent k ok =>
    by_cases hsending : (s.connects k).sending = true
    · simp only [step, if_pos hsending] at hs
      cases hs
      exact .client .sent
    · simp only [step, if_neg hsending] at hs
      cases hs
  | message k incoming =>
    simp only [step] at hs
    split_ifs at hs with hstate
    cases hs
    exact .client .message
  | socketError k =>
    simp only [step] at hs
    split_ifs at hs with hstate
    cases hs
    exact .client (.socketError hstate.1)
  | socketClosed k =>
    simp only [step] at hs
    split_ifs at hs with hstate
    cases hs
    exact .client (.socketClosed hstate.1)
  | timeout k =>
    simp only [step] at hs
    split_ifs at hs with htimer
    cases hs
    exact .client .timeout
  | microtask k =>
    obtain ⟨c, hc, heq⟩ := Option.map_eq_some_iff.mp hs
    cases heq
    exact .client (.microtask hc)
  | unhandledRejection k =>
    simp only [step] at hs
    split_ifs at hs with hunhandled
    exact absurd hunhandled (hawaited k).not_unhandled
  | close k =>
    simp only [step] at hs
    split_ifs at hs with hstate
    cases hs
    exact .client (.close hstate.1)
  | routerReads k now =>
    simp only [step] at hs
    split_ifs at hs with hstate
    cases hinsert : s.registry.insertLivePeer peerId peerClass k now with
    | ok registry =>
      rw [hinsert] at hs
      cases hs
      exact .registers hstate.1 hinsert
    | error err =>
      rw [hinsert] at hs
      cases hs
      exact .refuses hstate.1 hstate.2
  | routerEnds k =>
    simp only [step] at hs
    split_ifs at hs with hstate
    cases hs
    exact .leaves (Or.inl hstate.1)
  | routerFails k =>
    simp only [step] at hs
    split_ifs at hs with hstate
    cases hs
    exact .leaves (Or.inr hstate.1)

theorem ClientStep.safe {k : ConnectId} {i : Input} {s : State} {c : Connecting}
    (hs : ClientStep m codec msgId (s.connects k) k i c) (h : (s.connects k).Safe)
    (hc : Accepts m codec msgId s i) : c.Safe := by
  cases hs with
  | connect =>
    intro hrejected
    rcases hrejected with hopened | hack | hpc
    · exact h (Or.inl hopened)
    · exact h (Or.inr (Or.inl hack))
    · cases hpc
  | opened _ hstate =>
    intro hrejected
    have hover := h hrejected
    rw [hstate] at hover
    cases hover
  | @sent ok =>
    intro hrejected
    rcases hrejected with hopened | hack | hpc
    · rcases settle_eq_rejected hopened with hbefore | ⟨-, hafter⟩
      · exact h (Or.inl hbefore)
      · split_ifs at hafter with hok
        exact hc (eq_false_of_ne_true hok)
    · exact h (Or.inr (Or.inl hack))
    · exact h (Or.inr (Or.inr hpc))
  | message => exact h.message hc
  | socketError => exact .of_isOver (Connecting.isOver_socketError _)
  | socketClosed => exact .of_isOver (Connecting.isOver_socketClosed _)
  | timeout => exact h.settleAck fun hpending _ => absurd hpending hc
  | microtask hc' => exact h.microtask hc'
  | close => exact .of_isOver rfl

theorem ClientStep.awaited {k : ConnectId} {i : Input} {s : State} {c : Connecting}
    (hs : ClientStep m codec msgId (s.connects k) k i c) (h : (s.connects k).Awaited)
    (hc : Accepts m codec msgId s i) : c.Awaited := by
  cases hs with
  | connect => exact h
  | opened => exact h
  | sent => exact fun hrejected => settle_fulfilled (h hrejected)
  | message => exact h.message hc
  | socketError => exact h.socketError hc
  | socketClosed => exact h.socketClosed hc
  | timeout => exact h.settleAck fun hpending _ => absurd hpending hc
  | microtask hc' =>
    obtain ⟨pc, rfl, -, -⟩ := Connecting.microtask_cases hc'
    exact h
  | close => exact h

/-- The client does not act for the router. -/
theorem ClientStep.router {k : ConnectId} {i : Input} {c c' : Connecting}
    (hs : ClientStep m codec msgId c k i c') : c'.router = c.router := by
  cases hs with
  | message =>
    unfold Connecting.message
    split_ifs
    · split <;> rfl
    · rfl
  | socketError =>
    unfold Connecting.socketError
    dsimp only
    split_ifs <;> rfl
  | socketClosed =>
    unfold Connecting.socketClosed
    dsimp only
    split_ifs <;> rfl
  | microtask h =>
    obtain ⟨pc, rfl, -, -⟩ := Connecting.microtask_cases h
    rfl
  | _ => rfl

theorem connects_set {P : Connecting → Prop} {s : State} {k : ConnectId} {c : Connecting}
    (h : ∀ q, P (s.connects q)) (hc : P c) : ∀ q, P ((s.set k c).connects q) := by
  intro q
  dsimp only [State.set]
  by_cases hq : q = k
  · subst hq
    rw [Function.update_self]
    exact hc
  · rw [Function.update_of_ne hq]
    exact h q

/-- What is rejected anywhere was rejected by the socket. -/
theorem Step.safe {i : Input} {s s' : State} (hs : Step m codec peerId peerClass msgId s i s')
    (h : ∀ k, (s.connects k).Safe) (hc : Accepts m codec msgId s i) :
    ∀ k, (s'.connects k).Safe := by
  cases hs with
  | @client k _ _ hclient => exact connects_set h (hclient.safe (h k) hc)
  | @registers k => exact connects_set h (h k)
  | @refuses k => exact connects_set h (h k)
  | @leaves k => exact connects_set h (h k)

theorem Step.awaited {i : Input} {s s' : State} (hs : Step m codec peerId peerClass msgId s i s')
    (h : ∀ k, (s.connects k).Awaited) (hc : Accepts m codec msgId s i) :
    ∀ k, (s'.connects k).Awaited := by
  cases hs with
  | @client k _ _ hclient => exact connects_set h (hclient.awaited (h k) hc)
  | @registers k => exact connects_set h (h k)
  | @refuses k => exact connects_set h (h k)
  | @leaves k => exact connects_set h (h k)

/-- The process goes on. -/
theorem Step.exited {i : Input} {s s' : State} (hs : Step m codec peerId peerClass msgId s i s') :
    s'.exited = s.exited := by
  cases hs <;> rfl

/-- The peer id is taken by a connection that the router has not seen the end of. -/
def Taken (peerId : String) (s : State) : Prop :=
  ∀ record, s.registry.peers peerId = some record →
    (s.connects record.sender).router = .registered

theorem Taken.step {i : Input} {s s' : State} (h : Taken peerId s)
    (hs : Step m codec peerId peerClass msgId s i s') : Taken peerId s' := by
  intro record hrecord
  cases hs with
  | @client k _ c hclient =>
    dsimp only [State.set] at hrecord ⊢
    by_cases hk : record.sender = k
    · rw [hk, Function.update_self, hclient.router, ← hk]
      exact h record hrecord
    · rw [Function.update_of_ne hk]
      exact h record hrecord
  | @registers k now registry _ hinsert =>
    obtain ⟨-, rfl⟩ := Router.PeerRegistry.insertLivePeer_eq_ok.mp hinsert
    dsimp only [State.set] at hrecord ⊢
    rw [Function.update_self] at hrecord
    cases hrecord
    rw [Function.update_self]
  | @refuses k now _ hwaiting =>
    have htaken := h record hrecord
    dsimp only [State.set] at hrecord ⊢
    by_cases hk : record.sender = k
    · rw [hk, hwaiting] at htaken
      cases htaken
    · rw [Function.update_of_ne hk]
      exact htaken
  | @leaves k =>
    dsimp only [State.leave, State.set] at hrecord ⊢
    split_ifs at hrecord with hregistered
    · rw [Router.PeerRegistry.removeByPeerId_peers, if_pos rfl] at hrecord
      cases hrecord
    · have htaken := h record hrecord
      have hk : record.sender ≠ k := by
        rintro rfl
        exact hregistered htaken
      rw [Function.update_of_ne hk]
      exact htaken

/-- Nothing has happened to a call that has not been made. -/
def Connecting.Begun (c : Connecting) : Prop :=
  c.pc = .unstarted → c.written = false ∧ c.readyState = .connecting ∧ c.router = .waiting

/-- The listener of the handshake touches the promise and the timer only. -/
theorem Connecting.Begun.message {c : Connecting} (h : c.Begun) (registerMsgId : String)
    (incoming : Service.Incoming) : (c.message m codec registerMsgId incoming).Begun := by
  unfold Connecting.message
  split_ifs
  · split
    · exact h
    · exact h
  · exact h

theorem ClientStep.begun {k : ConnectId} {i : Input} {c c' : Connecting}
    (hs : ClientStep m codec msgId c k i c') (h : c.Begun) : c'.Begun := by
  cases hs with
  | connect => rintro ⟨⟩
  | opened hpc => exact fun hunstarted => absurd hunstarted hpc
  | sent => exact h
  | message => exact h.message _ _
  | socketError hpc =>
    intro hunstarted
    refine absurd ?_ hpc
    unfold Connecting.socketError at hunstarted
    dsimp only at hunstarted
    split_ifs at hunstarted <;> exact hunstarted
  | socketClosed hpc =>
    intro hunstarted
    refine absurd ?_ hpc
    unfold Connecting.socketClosed at hunstarted
    dsimp only at hunstarted
    split_ifs at hunstarted <;> exact hunstarted
  | timeout => exact h
  | microtask hc =>
    obtain ⟨pc, rfl, hpc, -⟩ := Connecting.microtask_cases hc
    exact fun hunstarted => absurd hunstarted hpc
  | close hpc =>
    intro hunstarted
    have hunstarted : c.pc = .unstarted := hunstarted
    rw [hunstarted] at hpc
    rcases hpc with hpc | hpc <;> cases hpc

theorem Step.begun {i : Input} {s s' : State} (hs : Step m codec peerId peerClass msgId s i s')
    (h : ∀ k, (s.connects k).Begun) : ∀ k, (s'.connects k).Begun := by
  cases hs with
  | @client k _ _ hclient => exact connects_set h (hclient.begun (h k))
  | @registers k _ _ hwritten =>
    refine connects_set h fun hunstarted => ?_
    rw [(h k hunstarted).1] at hwritten
    cases hwritten
  | @refuses k _ hwritten =>
    refine connects_set h fun hunstarted => ?_
    rw [(h k hunstarted).1] at hwritten
    cases hwritten
  | @leaves k _ hover =>
    refine connects_set h fun hunstarted => ?_
    rcases hover with hover | hpc
    · rw [(h k hunstarted).2.1] at hover
      cases hover
    · exact absurd hunstarted hpc

/-! ### Runs -/

structure Inv (peerId : String) (s : State) : Prop where
  running : s.exited = false
  awaited : ∀ k, (s.connects k).Awaited
  safe : ∀ k, (s.connects k).Safe
  begun : ∀ k, (s.connects k).Begun
  taken : Taken peerId s

theorem Inv.leavesNothing {s : State} (h : Inv peerId s) :
    LeavesNothing m codec peerId peerClass msgId s := by
  have hover : ∀ k, (s.connects k).pc = .rejected → (s.connects k).readyState.isOver = true :=
    fun k hpc => h.safe k (Or.inr (Or.inr hpc))
  refine ⟨hover, fun k hpc => ?_, fun k now hothers hwritten hwaiting => ?_, fun k hpc => ?_⟩
  · by_cases hended : (s.connects k).router = .ended
    · exact Or.inl hended
    · right
      refine ⟨s.leave peerId k, ?_⟩
      rw [step_of_running h.running]
      simp only [step, hover k hpc]
      rw [if_pos ⟨trivial, hended⟩]
  · -- nobody has the peer id
    have hfree : s.registry.peers peerId = none := by
      by_contra hsome
      obtain ⟨record, hrecord⟩ := Option.ne_none_iff_exists'.mp hsome
      have htaken := h.taken record hrecord
      by_cases hk : record.sender = k
      · rw [hk, hwaiting] at htaken
        cases htaken
      · rcases hothers record.sender hk with hunstarted | ⟨-, hended⟩
        · rw [(h.begun record.sender hunstarted).2.2] at htaken
          cases htaken
        · rw [hended] at htaken
          cases htaken
    obtain ⟨registry, hinsert⟩ : ∃ registry,
        s.registry.insertLivePeer peerId peerClass k now = .ok registry :=
      ⟨_, Router.PeerRegistry.insertLivePeer_eq_ok.mpr ⟨hfree, rfl⟩⟩
    refine ⟨{ s.set k { s.connects k with router := .registered } with registry := registry },
      ?_, ?_⟩
    · rw [step_of_running h.running]
      simp only [step]
      rw [if_pos ⟨hwritten, hwaiting⟩, hinsert]
    · dsimp only [State.set]
      rw [Function.update_self]
  · refine ⟨s.set k { s.connects k with pc := .awaitOpen, timer := true, listening := true }, ?_⟩
    rw [step_of_running h.running]
    exact if_pos hpc

/-- **A failed `connect` leaves nothing behind** in a run in which no registration times out, no
send of a register frame fails on an open socket, no reply other than the accepted acknowledgement
comes, and no socket fails before its `open` is fulfilled. -/
theorem failed_connect_leaves_nothing {s : State} {tr : List Empty}
    (h : (connect m codec peerId peerClass msgId).Run
      (fun s _ i => Accepts m codec msgId s i) s tr) :
    LeavesNothing m codec peerId peerClass msgId s := by
  have hinv : Inv peerId s := by
    refine TransitionSystem.Run.invariant (P := fun s _ => Inv peerId s) ?_ ?_ h
    · refine ⟨rfl, fun k hrejected => ?_, fun k hrejected => ?_, fun k _ => ⟨rfl, rfl, rfl⟩,
        fun record hrecord => ?_⟩
      · cases hrejected
      · rcases hrejected with hrejected | hrejected | hrejected <;> cases hrejected
      · cases hrecord
    · intro s s' tr evs i _ hc hs ih
      rw [step_of_running ih.running] at hs
      have hstep := step_of_connect ih.awaited hs
      exact ⟨hstep.exited.trans ih.running, hstep.awaited ih.awaited hc, hstep.safe ih.safe hc,
        hstep.begun ih.begun, ih.taken.step hstep⟩
  exact hinv.leavesNothing

section Sample

open Router (msgPackSerde)
open Service (valueCodec)

def localConnect : TransitionSystem State Input Empty :=
  connect (Bindings.rmpMsgpack msgPackSerde) valueCodec "caller" .caller fun _ => "r"

def LocalAccepts (s : State) (i : Input) : Prop :=
  Accepts (Bindings.rmpMsgpack msgPackSerde) valueCodec (fun _ => "r") s i

instance (s : State) (i : Input) : Decidable (LocalAccepts s i) :=
  inferInstanceAs (Decidable (Accepts _ _ _ s i))

/-- The call `k` sends its register frame, and the router accepts it. -/
def registers (k : ConnectId) : List Input :=
  [.connect k, .opened k, .sent k true, .routerReads k 0, .microtask k]

/-- The accepted acknowledgement. -/
def acked : Service.Incoming :=
  .binary (Router.frameBytes (Router.buildEnvelope Router.kindResponse "r" "router" "caller" .one)
    (MsgPack.encode (Router.RegisterAckBody.toValue ⟨true, none⟩)))

/-- The socket of the first call fails before the acknowledgement comes, and the second call
succeeds. -/
theorem failed_connect_leaves_nothing_retried : ∃ s tr,
    localConnect.Run (fun s _ i => LocalAccepts s i) s tr ∧ (s.connects 0).pc = .rejected ∧
    (s.connects 1).pc = .returned ∧
    LeavesNothing (Bindings.rmpMsgpack msgPackSerde) valueCodec "caller" .caller (fun _ => "r")
      s := by
  obtain ⟨s, tr, hrun, hp⟩ := localConnect.exists_run_of_exec (fun s _ i => LocalAccepts s i)
    (registers 0 ++ [.socketError 0, .microtask 0, .routerEnds 0] ++ registers 1 ++
      [.message 1 acked, .microtask 1, .microtask 1])
    (fun s _ => (s.connects 0).pc = .rejected ∧ (s.connects 1).pc = .returned) (by decide +kernel)
  obtain ⟨hrejected, hreturned⟩ := of_decide_eq_true hp
  exact ⟨s, tr, hrun, hrejected, hreturned, failed_connect_leaves_nothing hrun⟩

/-- The acknowledgement does not come in time: `connect` fails, and its socket is open. -/
theorem left_open_by_timeout :
    ¬ ∀ s tr, localConnect.Reachable s tr →
      LeavesNothing (Bindings.rmpMsgpack msgPackSerde) valueCodec "caller" .caller (fun _ => "r")
        s := by
  obtain ⟨s, tr, hrun, hp⟩ := localConnect.exists_reachable_of_exec
    (registers 0 ++ [.timeout 0, .microtask 0])
    (fun s _ => (s.connects 0).pc = .rejected ∧ (s.connects 0).readyState = .open)
    (by decide +kernel)
  obtain ⟨hrejected, hopen⟩ := of_decide_eq_true hp
  intro h
  have hover := (h s tr hrun).socketOver 0 hrejected
  rw [hopen] at hover
  cases hover

end Sample

end Multifrost.JavaScript.Connect
