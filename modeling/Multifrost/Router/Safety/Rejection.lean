import Multifrost.Router.Safety.Reply

/-!
# Rejecting a frame

A first frame that is not accepted, and a query whose body does not decode, call for an error frame
with the id of the frame.  `handle_connection` sends one where it calls `send_error_and_close` or
`send_peer_error`, and none where it leaves by the `?` operator: for a register frame whose body
does not decode or does not match its envelope, and for the body of a query
(`rejection_explicit_iff`).
-/

namespace Multifrost.Router

open TransitionSystem

variable {m : RmpSerde}

/-! ### Frames that are rejected -/

/-- The task of `c` reads the bytes `raw` in the state `s`, and has got to `s'` without reading
again. -/
def Reads (c : ConnId) (raw : Bytes) (s : State m) (tr : List (Event m)) (s' : State m) : Prop :=
  ∃ i s₁ evs is tr', i.conn = c ∧ i.next = some (.ok (.binary raw)) ∧
    (serve m).step i s = some (s₁, evs) ∧ (serve m).Path (Undisturbed c) s₁ is tr' s' ∧
    tr = evs ++ tr'

/-- The first frame of `c` decodes and does not lead to a registration; the connection is closed. -/
def FirstRejected (c : ConnId) (parts : FrameParts) (s : State m) (tr : List (Event m))
    (s' : State m) : Prop :=
  s.conns c = .first ∧ (∃ raw, decodeFrame m raw = .ok parts ∧ Reads c raw s tr s') ∧
    (s'.conns c).isReturned = true ∧ ∀ e b, .registered c e b ∉ tr

/-- A registered peer sends a query with a body that does not decode; the router closes the
connection or is about to read on. -/
def QueryRejected (c : ConnId) (me : Session) (parts : FrameParts) (s : State m)
    (tr : List (Event m)) (s' : State m) : Prop :=
  s.conns c = .loop me ∧ (∃ raw, decodeFrame m raw = .ok parts ∧ Reads c raw s tr s') ∧
    parts.envelope.kind = kindQuery ∧ (∃ e, decodeQueryBody m parts.bodyBytes = .error e) ∧
    ((s'.conns c).isReturned = true ∨ s'.conns c = .loop me)

/-- The task of `c` has sent its peer an error with the given id. -/
def ErrorSent (c : ConnId) (msgId : String) (tr : List (Event m)) : Prop :=
  ∃ f, (c, .generated f) ∈ writesBy c tr ∧ f.envelope.kind = kindError ∧ f.envelope.msgId = msgId

variable (m) in
/-- The first frame is no register frame, or one that `insert_live_peer` is asked for. -/
def Registrable (parts : FrameParts) : Prop :=
  parts.envelope.kind ≠ kindRegister ∨ ∃ register,
    decodeRegisterBody m parts.bodyBytes = .ok register ∧
      validateRegisterEnvelope parts.envelope register = .ok ()

theorem not_errorSent_of_nil {c : ConnId} {msgId : String} {tr : List (Event m)}
    (h : writesBy c tr = []) : ¬ ErrorSent c msgId tr := by
  rintro ⟨f, hmem, -⟩
  rw [h] at hmem
  cases hmem

theorem ErrorSent.append {c : ConnId} {msgId : String} {tr : List (Event m)}
    (h : ErrorSent c msgId tr) (evs : List (Event m)) : ErrorSent c msgId (tr ++ evs) := by
  obtain ⟨f, hmem, hf⟩ := h
  refine ⟨f, ?_, hf⟩
  rw [writesBy_append]
  exact List.mem_append_left _ hmem

/-! ### Connections that are turned away -/

/-- The connection is about to be told of the error, or has been and is closed. -/
def TurningAway (c : ConnId) (msgId : String) (tr : List (Event m)) (pc : Pc m) : Prop :=
  (∃ f, pc = .reject f ∧ f.envelope.kind = kindError ∧ f.envelope.msgId = msgId) ∨
    pc.isReturned = true ∧ ErrorSent c msgId tr

theorem TurningAway.step {i : Input} {msgId : String} {tr evs : List (Event m)} {pc pc' : Pc m}
    {reg reg' : PeerRegistry} (h : TurningAway i.conn msgId tr pc)
    (hok : pc.answering = true → i.ok = true)
    (hstep : connStep m i reg pc = some (reg', pc', evs)) :
    TurningAway i.conn msgId (tr ++ evs) pc' := by
  rcases h with ⟨f, rfl, hf⟩ | ⟨hreturned, -⟩
  · simp only [connStep, hok rfl, if_true, Option.some.injEq, Prod.mk.injEq] at hstep
    obtain ⟨rfl, rfl, rfl⟩ := hstep
    refine Or.inr ⟨rfl, f, ?_, hf⟩
    rw [writesBy_append, writesBy_wrote]
    exact List.mem_append_right _ (List.mem_singleton.mpr rfl)
  · cases pc <;> cases hreturned
    cases hstep

/-- `send_error_and_close` turns the connection away. -/
theorem turningAway_sendError (hencodes : m.Encodes) {c : ConnId} (tr : List (Event m))
    (now : Float64) (msgId code message : String) :
    TurningAway c msgId tr (orLeave m none do
      let f ← sendErrorAndClose m now msgId code message
      .ok (.reject f)) := by
  rcases builds_sendError (m := m) now msgId code message with ⟨f, hf, henvelope⟩ | ⟨hno, -⟩
  · refine Or.inl ⟨f, ?_, ?_, ?_⟩
    · unfold sendErrorAndClose
      rw [hf]
      rfl
    · rw [henvelope]
      rfl
    · rw [henvelope]
      rfl
  · exact absurd hencodes hno

theorem TurningAway.append {c : ConnId} {msgId : String} {tr : List (Event m)} {pc : Pc m}
    (h : TurningAway c msgId tr pc) (evs : List (Event m)) :
    TurningAway c msgId (tr ++ evs) pc := by
  rcases h with hreject | ⟨hreturned, hsent⟩
  · exact Or.inl hreject
  · exact Or.inr ⟨hreturned, hsent.append evs⟩

/-- The connection is about to register, has done so, or is turned away. -/
def Registering (c : ConnId) (envelope : Envelope) (register : RegisterBody)
    (tr : List (Event m)) (pc : Pc m) : Prop :=
  pc = .insert envelope register ∨ TurningAway c envelope.msgId tr pc ∨
    ∃ e b, .registered c e b ∈ tr

theorem Registering.step (hencodes : m.Encodes) {i : Input} {envelope : Envelope}
    {register : RegisterBody} {tr evs : List (Event m)} {pc pc' : Pc m} {reg reg' : PeerRegistry}
    (h : Registering i.conn envelope register tr pc) (hok : pc.answering = true → i.ok = true)
    (hstep : connStep m i reg pc = some (reg', pc', evs)) :
    Registering i.conn envelope register (tr ++ evs) pc' := by
  rcases h with rfl | haway | ⟨e, b, hmem⟩
  · simp only [connStep, PeerRegistry.insertLivePeer] at hstep
    by_cases hlive : (reg.peers register.peerId).isSome = true
    · rw [if_pos hlive] at hstep
      simp only [Option.some.injEq, Prod.mk.injEq] at hstep
      obtain ⟨rfl, rfl, rfl⟩ := hstep
      exact Or.inr (Or.inl (turningAway_sendError hencodes ..))
    · rw [if_neg hlive] at hstep
      simp only [Option.some.injEq, Prod.mk.injEq] at hstep
      obtain ⟨rfl, rfl, rfl⟩ := hstep
      exact Or.inr (Or.inr ⟨envelope, register, by simp⟩)
  · exact Or.inr (Or.inl (haway.step hok hstep))
  · exact Or.inr (Or.inr ⟨e, b, List.mem_append_left _ hmem⟩)

/-! ### The first frame -/

/-- What the read of the first frame leads to. -/
theorem onFirst_frame (hencodes : m.Encodes) {raw : Bytes} {parts : FrameParts}
    (hdecoded : decodeFrame m raw = .ok parts) (now : Float64) (c : ConnId)
    (tr : List (Event m)) :
    (parts.envelope.kind ≠ kindRegister ∧
        TurningAway c parts.envelope.msgId tr (onFirst m now (some (.ok (.binary raw))))) ∨
      (∃ register, decodeRegisterBody m parts.bodyBytes = .ok register ∧
        validateRegisterEnvelope parts.envelope register = .ok () ∧
        onFirst m now (some (.ok (.binary raw))) = .insert parts.envelope register) ∨
      ¬ Registrable m parts ∧ (onFirst m now (some (.ok (.binary raw)))).isReturned = true := by
  have honFirst : onFirst m now (some (.ok (.binary raw))) = orLeave m none (
      if parts.envelope.kind ≠ kindRegister then do
        let f ← sendErrorAndClose m now parts.envelope.msgId "register.required"
          "first message must be register"
        .ok (.reject f)
      else do
        let register ← decodeRegisterBody m parts.bodyBytes
        validateRegisterEnvelope parts.envelope register
        .ok (.insert parts.envelope register)) := by
    unfold onFirst onFirstMessage ensureBinaryWsMessage
    simp only [bind, Except.bind, hdecoded]
  rw [honFirst]
  split_ifs with hkind
  · exact Or.inl ⟨hkind, turningAway_sendError hencodes ..⟩
  · right
    have hregistrable : Registrable m parts ↔ ∃ register,
        decodeRegisterBody m parts.bodyBytes = .ok register ∧
          validateRegisterEnvelope parts.envelope register = .ok () := or_iff_right hkind
    rw [hregistrable]
    cases hregister : decodeRegisterBody m parts.bodyBytes with
    | error e =>
      refine Or.inr ⟨?_, rfl⟩
      rintro ⟨register, h, -⟩
      cases h
    | ok register =>
      cases hvalid : validateRegisterEnvelope parts.envelope register with
      | error e =>
        refine Or.inr ⟨?_, ?_⟩
        · rintro ⟨register', h, hok⟩
          obtain rfl := Except.ok.inj h
          rw [hvalid] at hok
          cases hok
        · simp only [bind, Except.bind, hvalid]
          rfl
      | ok u =>
        refine Or.inl ⟨register, rfl, hvalid, ?_⟩
        simp only [bind, Except.bind, hvalid]
        rfl

theorem TurningAway.errorSent {c : ConnId} {msgId : String} {tr : List (Event m)} {pc : Pc m}
    (h : TurningAway c msgId tr pc) (hreturned : pc.isReturned = true) : ErrorSent c msgId tr := by
  rcases h with ⟨f, rfl, -⟩ | ⟨-, hsent⟩
  · cases hreturned
  · exact hsent

/-- A task that has nothing to write before it reads again writes nothing. -/
theorem writesBy_of_leaving {c : ConnId} {s s' : State m} {is : List Input}
    {tr₀ tr : List (Event m)} (hpc : (s.conns c).leaving = true) (hnone : writesBy c tr₀ = [])
    (hpath : (serve m).Path (Undisturbed c) s is tr s') :
    (s'.conns c).leaving = true ∧ writesBy c (tr₀ ++ tr) = [] := by
  refine task_invariant (Q := fun tr pc => pc.leaving = true ∧ writesBy c tr = []) ?_ ?_
    ⟨hpc, hnone⟩ hpath
  · rintro tr evs pc hevs ⟨hleaving, hws⟩
    refine ⟨hleaving, ?_⟩
    rw [writesBy_append, hws, writesBy_eq_nil hevs]
    rfl
  · rintro tr evs pc pc' i reg reg' rfl - - hstep ⟨hleaving, hws⟩
    obtain ⟨hleaving', hevs⟩ := leaving_of_connStep hleaving hstep
    refine ⟨hleaving', ?_⟩
    rw [writesBy_append, hws, hevs]
    rfl

/-- A first frame that is rejected is answered iff it is no register frame, or a sound one. -/
theorem errorSent_first_iff (hencodes : m.Encodes) {c : ConnId} {parts : FrameParts}
    {s s' : State m} {tr : List (Event m)} (h : FirstRejected c parts s tr s') :
    ErrorSent c parts.envelope.msgId tr ↔ Registrable m parts := by
  obtain ⟨hfirst, ⟨raw, hdecoded, i, s₁, evs, is, tr, rfl, hnext, hs, hpath, rfl⟩, hreturned,
    hunregistered⟩ := h
  have hstep := connStep_of_serve hs
  rw [hfirst] at hstep
  simp only [connStep, hnext, Option.some.injEq, Prod.mk.injEq] at hstep
  obtain ⟨-, hpc, hevs⟩ := hstep
  rcases onFirst_frame hencodes hdecoded i.now i.conn evs with
    ⟨hkind, haway⟩ | ⟨register, hregister, hvalid, hinsert⟩ | ⟨hbad, hclosed⟩
  -- no register frame: `send_error_and_close`
  · rw [hpc] at haway
    have hend : TurningAway i.conn parts.envelope.msgId (evs ++ tr) (s'.conns i.conn) :=
      task_invariant (Q := TurningAway i.conn parts.envelope.msgId)
        (fun _ h => h.append _) (fun hc _ hok hstep h => hc ▸ (hc ▸ h).step hok hstep) haway hpath
    exact ⟨fun _ => Or.inl hkind, fun _ => hend.errorSent hreturned⟩
  -- a sound register frame, which the registry does not take: the same
  · rw [hpc] at hinsert
    have hend : Registering i.conn parts.envelope register (evs ++ tr) (s'.conns i.conn) := by
      refine task_invariant (Q := Registering i.conn parts.envelope register) ?_ ?_
        (Or.inl hinsert) hpath
      · rintro tr evs pc - (hpc | haway | ⟨e, b, hmem⟩)
        · exact Or.inl hpc
        · exact Or.inr (Or.inl (haway.append evs))
        · exact Or.inr (Or.inr ⟨e, b, List.mem_append_left _ hmem⟩)
      · exact fun hc _ hok hstep h => hc ▸ (hc ▸ h).step hencodes hok hstep
    refine ⟨fun _ => Or.inr ⟨register, hregister, hvalid⟩, fun _ => ?_⟩
    rcases hend with hinsert | haway | ⟨e, b, hmem⟩
    · rw [hinsert] at hreturned
      cases hreturned
    · exact haway.errorSent hreturned
    · exact absurd hmem (hunregistered e b)
  -- the `?` operator has ended the connection
  · have hleaving : (s₁.conns i.conn).leaving = true := by
      rw [← hpc]
      cases hcase : onFirst m i.now (some (.ok (.binary raw))) <;> rw [hcase] at hclosed <;>
        first | rfl | cases hclosed
    have hnone : writesBy i.conn evs = [] := by
      rw [← hevs]
      exact writesBy_receivedEvent ..
    have hend := (writesBy_of_leaving hleaving hnone hpath).2
    exact ⟨fun h => absurd h (not_errorSent_of_nil hend), fun h => absurd h hbad⟩

/-! ### Queries -/

/-- An error that is about to be sent is sent before the task reads again. -/
theorem reply_or_errorSent {c : ConnId} {me : Session} {f : RouterFrame m} {msgId : String}
    (hkind : f.envelope.kind = kindError) (hid : f.envelope.msgId = msgId) {s s' : State m}
    {is : List Input} {tr : List (Event m)} (evs : List (Event m))
    (hpc : s.conns c = .reply me f .loop) (hpath : (serve m).Path (Undisturbed c) s is tr s') :
    s'.conns c = .reply me f .loop ∨ ErrorSent c msgId (evs ++ tr) := by
  refine task_invariant (Q := fun tr pc => pc = .reply me f .loop ∨ ErrorSent c msgId tr) ?_ ?_
    (Or.inl hpc) hpath
  · rintro tr evs pc - (hpending | hsent)
    · exact Or.inl hpending
    · exact Or.inr (hsent.append evs)
  · rintro tr evs pc pc' i reg reg' rfl - hok hstep (rfl | hsent)
    · simp only [connStep, hok rfl, if_true, Option.some.injEq, Prod.mk.injEq] at hstep
      obtain ⟨rfl, rfl, rfl⟩ := hstep
      refine Or.inr ⟨f, ?_, hkind, hid⟩
      rw [writesBy_append, writesBy_wrote]
      exact List.mem_append_right _ (List.mem_singleton.mpr rfl)
    · exact Or.inr (hsent.append evs)

/-- A query that cannot be read is answered iff it is rejected for its origin, before its body is
looked at. -/
theorem errorSent_query_iff (hencodes : m.Encodes) {c : ConnId} {me : Session}
    {parts : FrameParts} {s s' : State m} {tr : List (Event m)}
    (h : QueryRejected c me parts s tr s') :
    ErrorSent c parts.envelope.msgId tr ↔ parts.envelope.fromPeer ≠ me.peerId := by
  obtain ⟨hloop, ⟨raw, hdecoded, i, s₁, evs, is, tr, rfl, hnext, hs, hpath, rfl⟩, hkind,
    ⟨e, hbody⟩, hend⟩ := h
  obtain ⟨hpc, hnone⟩ := conns_of_read hloop hnext hdecoded hs
  unfold onFrame at hpc
  dsimp only at hpc
  by_cases hfrom : parts.envelope.fromPeer = me.peerId
  -- the body is read by `handle_query`, which leaves by `?`
  · rw [if_neg (not_not.mpr hfrom), if_pos hkind] at hpc
    unfold handleQuery at hpc
    rw [hbody] at hpc
    have hleaving : (s₁.conns i.conn).leaving = true := by
      rw [hpc]
      rfl
    have hws := (writesBy_of_leaving hleaving hnone hpath).2
    exact ⟨fun h => absurd h (not_errorSent_of_nil hws), fun h => absurd hfrom h⟩
  -- the origin is tested before the kind
  · rw [if_pos hfrom] at hpc
    obtain ⟨f, hreply, henvelope⟩ := (replies_replyError (m := m) i.now me parts.envelope.msgId
      "invalid_source" "envelope.from does not match registered peer").reply hencodes
    rw [← hpc] at hreply
    have hkind' : f.envelope.kind = kindError := by
      rw [henvelope]
      rfl
    have hid : f.envelope.msgId = parts.envelope.msgId := by
      rw [henvelope]
      rfl
    refine ⟨fun _ => hfrom, fun _ => ?_⟩
    rcases reply_or_errorSent hkind' hid evs hreply hpath with hpending | hsent
    · rw [hpending] at hend
      rcases hend with hreturned | hloop
      · cases hreturned
      · cases hloop
    · exact hsent

/-! ### Both -/

/-- **When a rejection is explicit.**  A first frame that does not lead to a registration is answered
with an error, before the connection is closed, iff it is no register frame or a register frame
whose body decodes and matches its envelope, so that its id was in use.  A query whose body does
not decode is answered iff it has a foreign origin and is rejected for that. -/
theorem rejection_explicit_iff (hencodes : m.Encodes) :
    (∀ (c : ConnId) (parts : FrameParts) (s s' : State m) (tr : List (Event m)),
      FirstRejected c parts s tr s' →
        (ErrorSent c parts.envelope.msgId tr ↔ Registrable m parts)) ∧
    ∀ (c : ConnId) (me : Session) (parts : FrameParts) (s s' : State m) (tr : List (Event m)),
      QueryRejected c me parts s tr s' →
        (ErrorSent c parts.envelope.msgId tr ↔ parts.envelope.fromPeer ≠ me.peerId) := by
  constructor
  · intro c parts s s' tr h
    exact errorSent_first_iff hencodes h
  · intro c me parts s s' tr h
    exact errorSent_query_iff hencodes h

/-- The trace has no registration. -/
def unregistered (tr : List (Event m)) : Bool :=
  tr.all fun
    | .registered .. => false
    | _ => true

theorem not_mem_of_unregistered {tr : List (Event m)} (h : unregistered tr = true) (c : ConnId)
    (e : Envelope) (b : RegisterBody) : .registered c e b ∉ tr := by
  intro hmem
  cases List.all_eq_true.mp h _ hmem

/-- All connections wait for their first frame. -/
def allFirst : State msgPackSerde := ⟨PeerRegistry.new, fun _ => .first⟩

/-- A call for the first frame is answered with an error. -/
theorem rejection_explicit_of_call : ∃ s' tr parts,
    FirstRejected 0 parts allFirst tr s' ∧ parts.envelope.kind = kindCall ∧
    ErrorSent 0 parts.envelope.msgId tr := by
  obtain ⟨s₁, evs, s₂, tr, hs, hpath, hp⟩ := exists_path_of_exec (T := serve msgPackSerde)
    (C := Undisturbed 0) (recv 0 (callBytes "a" "b")) [go 1, go 0] (s := allFirst)
    (fun s tr => (s.conns 0).isReturned && unregistered tr) (by decide +kernel)
  simp only [Bool.and_eq_true] at hp
  have hdecoded : decodeFrame msgPackSerde (callBytes "a" "b") =
      .ok ⟨buildEnvelope kindCall "n" "a" "b" .one, MsgPack.encode (.map
        [(.str "function", .str "f"), (.str "args", .array [])])⟩ := by decide +kernel
  have hrejected : FirstRejected 0 _ allFirst (evs ++ tr) s₂ :=
    ⟨rfl, ⟨_, hdecoded, _, s₁, evs, _, tr, rfl, rfl, hs, hpath, rfl⟩, hp.1,
      not_mem_of_unregistered hp.2 0⟩
  refine ⟨s₂, evs ++ tr, _, hrejected, rfl, ?_⟩
  exact ((rejection_explicit_iff encodes_msgPackSerde).1 _ _ _ _ _ hrejected).mpr
    (Or.inl (by decide))

/-- A register frame from `"a"` whose body has the id `"b"`. -/
def mismatchedBytes : Bytes :=
  frameBytes (buildEnvelope kindRegister "r" "a" routerPeerId .one)
    (MsgPack.encode (RegisterBody.toValue ⟨"b", .service⟩))

/-- That frame is rejected without an answer. -/
theorem rejection_without_error :
    ¬ ((∀ (c : ConnId) (parts : FrameParts) (s s' : State msgPackSerde)
        (tr : List (Event msgPackSerde)), FirstRejected c parts s tr s' →
          ErrorSent c parts.envelope.msgId tr) ∧
      ∀ (c : ConnId) (me : Session) (parts : FrameParts) (s s' : State msgPackSerde)
        (tr : List (Event msgPackSerde)), QueryRejected c me parts s tr s' →
          ErrorSent c parts.envelope.msgId tr) := by
  obtain ⟨s₁, evs, s₂, tr, hs, hpath, hp⟩ := exists_path_of_exec (T := serve msgPackSerde)
    (C := Undisturbed 0) (recv 0 mismatchedBytes) [go 1] (s := allFirst)
    (fun s tr => (s.conns 0).isReturned && unregistered tr && (writesBy 0 tr).isEmpty)
    (by decide +kernel)
  simp only [Bool.and_eq_true, List.isEmpty_iff] at hp
  have hdecoded : decodeFrame msgPackSerde mismatchedBytes =
      .ok ⟨buildEnvelope kindRegister "r" "a" routerPeerId .one,
        MsgPack.encode (RegisterBody.toValue ⟨"b", .service⟩)⟩ := by decide +kernel
  rintro ⟨hfirst, -⟩
  refine not_errorSent_of_nil hp.2 (hfirst 0 _ allFirst s₂ (evs ++ tr) ⟨rfl, ⟨_, hdecoded, _, s₁,
    evs, _, tr, rfl, rfl, hs, hpath, rfl⟩, hp.1.1, not_mem_of_unregistered hp.1.2 0⟩)

end Multifrost.Router
