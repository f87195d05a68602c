import Multifrost.Router.Safety.Addressing
import Multifrost.Router.Safety.Agreement

/-!
# Frames are disposed of in order

What the task of a connection writes disposes of a frame: it is the frame itself, forwarded, or a frame
of the router under its id.  Over a whole run, whatever the other connections do, the ids of what a
task writes are a subsequence of the ids of what it has received (`disposed_in_order`).  So a frame is
answered in its turn and once at most, and a frame that is answered is not forwarded as well.

A message that is no frame is answered under the id `"unknown"`; such an answer disposes of nothing.
-/

namespace Multifrost.Router

open TransitionSystem

variable {m : RmpSerde}

/-! ### Ids -/

/-- The id of a frame, unless it is the one under which messages that are no frames are answered. -/
def known (msgId : String) : Option String := if msgId = "unknown" then none else some msgId

/-- The id of the frame in a binary message. -/
def idIn (m : RmpSerde) (raw : Bytes) : Option String :=
  match decodeFrame m raw with
  | .ok parts => known parts.envelope.msgId
  | .error _ => none

/-- The ids of the frames received on a connection, in order. -/
def receivedIds (c : ConnId) (tr : List (Event m)) : List String :=
  (receivedOn c tr).filterMap (idIn m)

def Outbound.msgId : Outbound m → Option String
  | .generated f => known f.envelope.msgId
  | .forwarded raw => idIn m raw

/-- The ids of the frames that the task of a connection has disposed of, in order. -/
def disposedIds (c : ConnId) (tr : List (Event m)) : List String :=
  (writesBy c tr).filterMap fun w => w.2.msgId

theorem receivedIds_append (c : ConnId) (tr evs : List (Event m)) :
    receivedIds c (tr ++ evs) = receivedIds c tr ++ receivedIds c evs := by
  rw [receivedIds, receivedOn_append, List.filterMap_append]
  rfl

theorem disposedIds_append (c : ConnId) (tr evs : List (Event m)) :
    disposedIds c (tr ++ evs) = disposedIds c tr ++ disposedIds c evs := by
  rw [disposedIds, writesBy_append, List.filterMap_append]
  rfl

theorem disposedIds_wrote (c : ConnId) (sink : PeerSender) (out : Outbound m) :
    disposedIds c [.wrote c sink out] = out.msgId.toList := by
  rw [disposedIds, writesBy_wrote]
  cases h : out.msgId <;> simp [h]

theorem idIn_of_decodeFrame {raw : Bytes} {parts : FrameParts} (h : decodeFrame m raw = .ok parts) :
    idIn m raw = known parts.envelope.msgId := by
  rw [idIn, h]

theorem idIn_eq_some {raw : Bytes} {msgId : String} (h : idIn m raw = some msgId) :
    ∃ parts, decodeFrame m raw = .ok parts ∧ parts.envelope.msgId = msgId := by
  unfold idIn known at h
  cases hdecoded : decodeFrame m raw with
  | error e =>
    rw [hdecoded] at h
    cases h
  | ok parts =>
    rw [hdecoded] at h
    dsimp only at h
    split_ifs at h
    exact ⟨parts, rfl, Option.some.inj h⟩

/-! ### The frame that a task is busy with -/

/-- The id of the frame that the task of a connection is about to dispose of. -/
def Pc.busyWith : Pc m → Option String
  | .insert envelope _ | .lookup _ envelope _ | .disconnect _ envelope => known envelope.msgId
  | .reject f | .ack _ f | .reply _ f _ => known f.envelope.msgId
  | .markHeartbeat r | .heartbeatTarget r | .targetClass r | .targetExists r | .targetSender r
  | .forward r _ | .evict r _ => known r.envelope.msgId
  | .accept | .first | .loop _ | .cleanup .. | .returned _ => none

/-- The frame of the router that is about to be written. -/
def Pc.frame : Pc m → Option (RouterFrame m)
  | .reject f | .ack _ f | .reply _ f _ => some f
  | _ => none

/-- The body of an error of the router is one of its error bodies. -/
def RouterFrame.Refuses (f : RouterFrame m) : Prop :=
  f.envelope.kind = kindError →
    ∃ code message, encodeErrorBody m (buildErrorBody code message) = .ok f.body

/-- The task is done, or busy with a frame of this id. -/
structure Pc.Serves (msgId : String) (pc : Pc m) : Prop where
  busyWith : pc.busyWith.toList.Sublist (known msgId).toList
  refuses : ∀ f, pc.frame = some f → f.Refuses

section Serves

variable {msgId : String} {me : Session} {pc : Pc m}

theorem Pc.Serves.of_busyWith (h : pc.busyWith = known msgId) (hframe : pc.frame = none) :
    pc.Serves msgId := by
  refine ⟨h ▸ List.Sublist.refl _, fun f hf => ?_⟩
  rw [hframe] at hf
  cases hf

theorem Pc.Serves.of_idle (h : pc.busyWith = none) (hframe : pc.frame = none) : pc.Serves msgId := by
  refine ⟨h ▸ List.nil_sublist _, fun f hf => ?_⟩
  rw [hframe] at hf
  cases hf

/-- The task is about to write a frame under this id. -/
theorem Pc.Serves.of_frame {f : RouterFrame m} (hbusy : pc.busyWith = known f.envelope.msgId)
    (hframe : pc.frame = some f) (hid : f.envelope.msgId = msgId) (hf : f.Refuses) :
    pc.Serves msgId := by
  subst hid
  refine ⟨hbusy ▸ List.Sublist.refl _, fun f' hf' => ?_⟩
  obtain rfl := Option.some.inj (hframe.symm.trans hf')
  exact hf

/-- An answer that is no error. -/
theorem serves_of_replies {after : After} {envelope : Envelope} (h : Replies me after envelope pc)
    (hid : envelope.msgId = msgId) (hkind : envelope.kind ≠ kindError) : pc.Serves msgId := by
  rcases h with ⟨f, rfl, rfl⟩ | ⟨-, e, rfl⟩
  · exact .of_frame rfl rfl hid fun herror => absurd herror hkind
  · exact .of_idle rfl rfl

/-- The frames of `send_error`. -/
theorem refuses_of_sendError {now : Float64} {code message : String} {f : RouterFrame m}
    (h : sendError m now msgId code message = .ok f) : f.envelope.msgId = msgId ∧ f.Refuses := by
  unfold sendError at h
  obtain ⟨body, hbody, hsend⟩ := bind_eq_ok.mp h
  constructor
  · rw [envelope_of_sendFrame hsend]
    rfl
  · intro _
    rw [body_of_sendFrame hsend]
    exact ⟨code, message, hbody⟩

theorem serves_error (now : Float64) (me : Session) (msgId code message : String) (after : After) :
    (orLeave m (some me) (do
      let f ← sendPeerError m now msgId code message
      .ok (.reply me f after))).Serves msgId := by
  unfold sendPeerError
  cases h : sendError m now msgId code message with
  | error e => exact .of_idle rfl rfl
  | ok f =>
    obtain ⟨hid, hf⟩ := refuses_of_sendError h
    exact .of_frame rfl rfl hid hf

theorem serves_replyError (now : Float64) (me : Session) (msgId code message : String) :
    (orLeave m (some me) (replyError m now me msgId code message)).Serves msgId :=
  serves_error now me msgId code message .loop

theorem serves_reject (now : Float64) (msgId code message : String) :
    (orLeave m none (do
      let f ← sendErrorAndClose m now msgId code message
      .ok (.reject f))).Serves msgId := by
  unfold sendErrorAndClose
  cases h : sendError m now msgId code message with
  | error e => exact .of_idle rfl rfl
  | ok f =>
    obtain ⟨hid, hf⟩ := refuses_of_sendError h
    exact .of_frame rfl rfl hid hf

/-- What the message loop does with a frame. -/
theorem serves_onFrame (now : Float64) (me : Session) (raw : Bytes) (parts : FrameParts) :
    (orLeave m (some me) (onFrame m now me raw parts)).Serves parts.envelope.msgId := by
  unfold onFrame
  dsimp only
  split_ifs with hfrom hquery hcall hresponse herror hheartbeat hdisconnect
  · exact serves_replyError ..
  · unfold handleQuery
    cases decodeQueryBody m parts.bodyBytes with
    | error e => exact .of_idle rfl rfl
    | ok body => exact .of_busyWith rfl rfl
  · unfold handleCall
    split_ifs
    · exact serves_replyError ..
    · exact .of_busyWith rfl rfl
  · unfold handleResponse
    split_ifs
    · exact serves_replyError ..
    · exact .of_busyWith rfl rfl
  · unfold handleError
    split_ifs
    · exact serves_replyError ..
    · exact .of_busyWith rfl rfl
  · exact .of_busyWith rfl rfl
  · exact .of_busyWith rfl rfl
  · exact serves_replyError ..

theorem serves_onInserted (now : Float64) (envelope : Envelope) (register : RegisterBody) :
    (onInserted m now envelope register).Serves envelope.msgId := by
  rcases onInserted_cases (m := m) now envelope register with ⟨f, hpc, hkind, hid⟩ | ⟨e, hpc⟩
  · rw [hpc]
    refine .of_frame rfl rfl hid fun herror => ?_
    rw [hkind] at herror
    exact absurd herror (by decide)
  · rw [hpc]
    exact .of_idle rfl rfl

end Serves

/-! ### One await -/

/-- What an await does to the frames of its connection: it disposes of the one that the task was busy
with, takes it on or drops it, or receives another. -/
structure Turn (c : ConnId) (pc pc' : Pc m) (evs : List (Event m)) : Prop where
  ids : (disposedIds c evs ++ pc'.busyWith.toList).Sublist
    (pc.busyWith.toList ++ receivedIds c evs)
  refuses : ∀ f, pc'.frame = some f → f.Refuses

section Turn

variable {c : ConnId} {pc pc' : Pc m} {evs : List (Event m)}

/-- The task takes the frame on, or answers it. -/
theorem Turn.takeOn {msgId : String} (h : pc'.Serves msgId) (hbusy : pc.busyWith = known msgId)
    (hdisposed : disposedIds c evs = []) : Turn c pc pc' evs := by
  refine ⟨?_, h.refuses⟩
  rw [hdisposed, List.nil_append, hbusy]
  exact h.busyWith.trans (List.sublist_append_left _ _)

/-- The task goes on with the frame, and has nothing of its own to write. -/
theorem Turn.goOn (hbusy : pc'.busyWith = pc.busyWith) (hframe : pc'.frame = none)
    (hdisposed : disposedIds c evs = []) : Turn c pc pc' evs := by
  refine ⟨?_, fun f hf => ?_⟩
  · rw [hdisposed, List.nil_append, hbusy]
    exact List.sublist_append_left _ _
  · rw [hframe] at hf
    cases hf

/-- The task is done with the frame, and has written what disposes of it or nothing. -/
theorem Turn.done (hbusy : pc'.busyWith = none) (hframe : pc'.frame = none)
    (hdisposed : (disposedIds c evs).Sublist pc.busyWith.toList) : Turn c pc pc' evs := by
  refine ⟨?_, fun f hf => ?_⟩
  · rw [hbusy, Option.toList_none, List.append_nil]
    exact hdisposed.trans (List.sublist_append_left _ _)
  · rw [hframe] at hf
    cases hf

theorem disposedIds_receivedEvent (c c' : ConnId) (next : Next) :
    disposedIds c (receivedEvent m c' next) = [] := by
  rw [disposedIds, writesBy_receivedEvent]
  rfl

/-- The task reads a message. -/
theorem Turn.read {next : Next} (hbusy : pc'.busyWith.toList.Sublist
      (receivedIds c (receivedEvent m c next)))
    (hrefuses : ∀ f, pc'.frame = some f → f.Refuses) :
    Turn c pc pc' (receivedEvent m c next) := by
  refine ⟨?_, hrefuses⟩
  rw [disposedIds_receivedEvent, List.nil_append]
  exact hbusy.trans (List.sublist_append_right _ _)

/-- The task reads a frame. -/
theorem Turn.readFrame {raw : Bytes} {parts : FrameParts} (hdecoded : decodeFrame m raw = .ok parts)
    (h : pc'.Serves parts.envelope.msgId) :
    Turn c pc pc' (receivedEvent m c (some (.ok (.binary raw)))) := by
  refine .read ?_ h.refuses
  have hids : receivedIds c (receivedEvent m c (some (.ok (.binary raw)))) =
      (known parts.envelope.msgId).toList := by
    have hreceived : receivedOn c (receivedEvent m c (some (.ok (.binary raw)))) = [raw] := by
      simp [receivedOn, receivedEvent]
    rw [receivedIds, hreceived, ← idIn_of_decodeFrame hdecoded]
    cases hid : idIn m raw <;> simp [hid]
  rw [hids]
  exact h.busyWith

/-- The task reads what is no frame. -/
theorem Turn.readOther {next : Next} (h : pc'.Serves "unknown") :
    Turn c pc pc' (receivedEvent m c next) :=
  .read (h.busyWith.trans (List.nil_sublist _)) h.refuses

theorem turn_onNext (now : Float64) (me : Session) (next : Next) :
    Turn c (.loop me) (onNext m now me next) (receivedEvent m c next) := by
  unfold onNext
  split
  · exact .readOther (.of_idle rfl rfl)
  · exact .readOther (.of_idle rfl rfl)
  · rename_i raw
    unfold onBinary
    cases hdecoded : decodeFrame m raw with
    | error e => exact .readOther (.of_idle rfl rfl)
    | ok parts => exact .readFrame hdecoded (serves_onFrame now me raw parts)
  · exact .readOther (.of_idle rfl rfl)
  · exact .readOther (.of_idle rfl rfl)
  · exact .readOther (.of_idle rfl rfl)
  · exact .readOther (serves_error ..)
  · exact .readOther (serves_error ..)

theorem turn_onFirst (now : Float64) (next : Next) :
    Turn c .first (onFirst m now next) (receivedEvent m c next) := by
  unfold onFirst
  split
  · rename_i message
    unfold onFirstMessage
    cases message with
    | binary raw =>
      show Turn c .first (orLeave m none (decodeFrame m raw >>= _)) _
      cases hdecoded : decodeFrame m raw with
      | error e => exact .readOther (.of_idle rfl rfl)
      | ok parts =>
        refine .readFrame hdecoded ?_
        show (orLeave m none (if parts.envelope.kind ≠ kindRegister then _ else _)).Serves _
        split_ifs
        · exact serves_reject ..
        · show (orLeave m none (decodeRegisterBody m parts.bodyBytes >>= _)).Serves _
          cases decodeRegisterBody m parts.bodyBytes with
          | error e => exact .of_idle rfl rfl
          | ok register =>
            show (orLeave m none (validateRegisterEnvelope parts.envelope register >>= _)).Serves _
            cases validateRegisterEnvelope parts.envelope register with
            | error e => exact .of_idle rfl rfl
            | ok u => exact .of_busyWith rfl rfl
    | _ => exact .readOther (.of_idle rfl rfl)
  · exact .readOther (.of_idle rfl rfl)
  · exact .readOther (.of_idle rfl rfl)

/-- **One await of a connection.** -/
theorem turn_of_connStep {i : Input} {reg reg' : PeerRegistry}
    (hsound : ∀ r, pc.route = some r → r.Sound m)
    (hstep : connStep m i reg pc = some (reg', pc', evs)) : Turn i.conn pc pc' evs := by
  cases pc with
  | accept =>
    simp only [connStep, Option.some.injEq, Prod.mk.injEq] at hstep
    obtain ⟨-, rfl, rfl⟩ := hstep
    split_ifs <;> exact .done rfl rfl (List.nil_sublist _)
  | first =>
    simp only [connStep, Option.some.injEq, Prod.mk.injEq] at hstep
    obtain ⟨-, rfl, rfl⟩ := hstep
    exact turn_onFirst ..
  | insert envelope register =>
    simp only [connStep] at hstep
    split at hstep
    · simp only [Option.some.injEq, Prod.mk.injEq] at hstep
      obtain ⟨-, rfl, rfl⟩ := hstep
      exact .takeOn (serves_onInserted ..) rfl rfl
    · simp only [Option.some.injEq, Prod.mk.injEq] at hstep
      obtain ⟨-, rfl, rfl⟩ := hstep
      exact .takeOn (serves_reject ..) rfl rfl
    · simp only [Option.some.injEq, Prod.mk.injEq] at hstep
      obtain ⟨-, rfl, rfl⟩ := hstep
      exact .done rfl rfl (List.nil_sublist _)
  | reject f | ack me f =>
    simp only [connStep] at hstep
    split_ifs at hstep
    · cases hstep
      refine .done rfl rfl ?_
      rw [disposedIds_wrote]
      exact List.Sublist.refl _
    · cases hstep
      exact .done rfl rfl (List.nil_sublist _)
  | loop me =>
    simp only [connStep, Option.some.injEq, Prod.mk.injEq] at hstep
    obtain ⟨-, rfl, rfl⟩ := hstep
    exact turn_onNext ..
  | reply me f after =>
    simp only [connStep] at hstep
    split_ifs at hstep
    · cases hstep
      have hdisposed : (disposedIds i.conn [.wrote i.conn i.conn (.generated f)]).Sublist
          (known f.envelope.msgId).toList := by
        rw [disposedIds_wrote]
        exact List.Sublist.refl _
      cases after <;> exact .done rfl rfl hdisposed
    · cases hstep
      exact .done rfl rfl (List.nil_sublist _)
  | lookup me envelope body =>
    simp only [connStep, Option.some.injEq, Prod.mk.injEq] at hstep
    obtain ⟨-, rfl, rfl⟩ := hstep
    refine .takeOn (serves_of_replies (replies_onLookup me envelope body _) rfl ?_) rfl rfl
    exact (by decide : kindResponse ≠ kindError)
  | markHeartbeat r =>
    simp only [connStep, Option.some.injEq, Prod.mk.injEq] at hstep
    obtain ⟨-, rfl, rfl⟩ := hstep
    exact .goOn rfl rfl rfl
  | heartbeatTarget r =>
    simp only [connStep, Option.some.injEq, Prod.mk.injEq] at hstep
    obtain ⟨-, rfl, rfl⟩ := hstep
    cases reg.snapshotPeerExists r.envelope.toPeer with
    | true => exact .goOn rfl rfl rfl
    | false =>
      refine .takeOn (serves_of_replies (replies_onHeartbeatTarget r) rfl ?_) rfl rfl
      exact (by decide : kindHeartbeat ≠ kindError)
  | targetClass r =>
    simp only [connStep, Option.some.injEq, Prod.mk.injEq] at hstep
    obtain ⟨-, rfl, rfl⟩ := hstep
    unfold onTargetClass
    split
    · exact .goOn rfl rfl rfl
    · exact .takeOn (serves_replyError ..) rfl rfl
  | targetExists r =>
    simp only [connStep, Option.some.injEq, Prod.mk.injEq] at hstep
    obtain ⟨-, rfl, rfl⟩ := hstep
    unfold onTargetExists
    split_ifs
    · exact .goOn rfl rfl rfl
    · exact .takeOn (serves_replyError ..) rfl rfl
  | targetSender r =>
    simp only [connStep, Option.some.injEq, Prod.mk.injEq] at hstep
    obtain ⟨-, rfl, rfl⟩ := hstep
    cases reg.senderByPeerId r.envelope.toPeer with
    | some sink => exact .goOn rfl rfl rfl
    | none => exact .takeOn (serves_replyError ..) rfl rfl
  | forward r target =>
    simp only [connStep] at hstep
    split_ifs at hstep
    · cases hstep
      refine .done rfl rfl ?_
      obtain ⟨bodyBytes, hdecoded⟩ := (hsound r rfl).decoded
      rw [disposedIds_wrote, Outbound.msgId, idIn_of_decodeFrame hdecoded]
      exact List.Sublist.refl _
    · cases hstep
      exact .goOn rfl rfl rfl
  | evict r target =>
    simp only [connStep, Option.some.injEq, Prod.mk.injEq] at hstep
    obtain ⟨-, rfl, rfl⟩ := hstep
    exact .takeOn (serves_replyError ..) rfl rfl
  | disconnect me envelope =>
    simp only [connStep, Option.some.injEq, Prod.mk.injEq] at hstep
    obtain ⟨-, rfl, rfl⟩ := hstep
    refine .takeOn (serves_of_replies (replies_onDisconnected me envelope) rfl ?_) rfl rfl
    exact (by decide : kindResponse ≠ kindError)
  | cleanup me result =>
    cases hstep
    exact .done rfl rfl (List.nil_sublist _)
  | returned result => cases hstep

end Turn

/-! ### Runs -/

theorem receivedIds_eq_nil {c : ConnId} {evs : List (Event m)} (h : ∀ e ∈ evs, e.conn ≠ c) :
    receivedIds c evs = [] := by
  rw [receivedIds, receivedOn_eq_nil h]
  rfl

theorem disposedIds_eq_nil {c : ConnId} {evs : List (Event m)} (h : ∀ e ∈ evs, e.conn ≠ c) :
    disposedIds c evs = [] := by
  rw [disposedIds, writesBy_eq_nil h]
  rfl

/-- What has been disposed of, and then the frame that the task is busy with. -/
theorem disposed_and_busy {s : State m} {tr : List (Event m)} (h : (serve m).Reachable s tr) :
    ∀ c, (disposedIds c tr ++ (s.conns c).busyWith.toList).Sublist (receivedIds c tr) := by
  refine h.invariant (P := fun s tr => ∀ c, (disposedIds c tr ++
    (s.conns c).busyWith.toList).Sublist (receivedIds c tr)) (fun c => List.Sublist.refl _) ?_
  intro s s' tr evs i hreach hs ih c
  rw [disposedIds_append, receivedIds_append]
  by_cases hc : i.conn = c
  · subst hc
    have hturn := turn_of_connStep (routesSound hreach i.conn) (connStep_of_serve hs)
    rw [List.append_assoc]
    calc (disposedIds i.conn tr ++ (disposedIds i.conn evs ++ (s'.conns i.conn).busyWith.toList)).Sublist
          (disposedIds i.conn tr ++ ((s.conns i.conn).busyWith.toList ++ receivedIds i.conn evs)) :=
        List.Sublist.append (List.Sublist.refl _) hturn.ids
      List.Sublist _ (receivedIds i.conn tr ++ receivedIds i.conn evs) := by
        rw [← List.append_assoc]
        exact List.Sublist.append (ih i.conn) (List.Sublist.refl _)
  · obtain ⟨pc, hstep, -⟩ := step_of_serve hs
    have hne : ∀ e ∈ evs, e.conn ≠ c := by
      intro e he
      rw [hstep.conn_eq e he]
      exact hc
    rw [disposedIds_eq_nil hne, receivedIds_eq_nil hne, List.append_nil, List.append_nil,
      (step_of_ne hs hc).1]
    exact ih c

theorem disposedIds_sublist {s : State m} {tr : List (Event m)} (h : (serve m).Reachable s tr)
    (c : ConnId) : (disposedIds c tr).Sublist (receivedIds c tr) :=
  (List.sublist_append_left _ _).trans (disposed_and_busy h c)

/-- Two elements with one image count twice. -/
theorem two_le_count_filterMap {α : Type} {l : List α} {f : α → Option String} {a b : α} {x : String}
    (ha : a ∈ l) (hb : b ∈ l) (hne : a ≠ b) (hfa : f a = some x) (hfb : f b = some x) :
    2 ≤ (l.filterMap f).count x := by
  obtain ⟨before, after, rfl⟩ := List.append_of_mem ha
  have hrest : b ∈ before ++ after := by
    rcases List.mem_append.mp hb with hb | hb
    · exact List.mem_append_left _ hb
    · rcases List.mem_cons.mp hb with rfl | hb
      · exact absurd rfl hne
      · exact List.mem_append_right _ hb
  have hone : 0 < ((before ++ after).filterMap f).count x :=
    List.count_pos_iff.mpr (List.mem_filterMap.mpr ⟨b, hrest, hfb⟩)
  have hself : ((a :: after).filterMap f).count x = (after.filterMap f).count x + 1 := by
    rw [List.filterMap_cons_some hfa, List.count_cons_self]
  rw [List.filterMap_append, List.count_append] at hone ⊢
  omega

theorem mem_writesBy {c : ConnId} {tr : List (Event m)} {sink : PeerSender} {out : Outbound m} :
    (sink, out) ∈ writesBy c tr ↔ .wrote c sink out ∈ tr := by
  unfold writesBy
  rw [List.mem_filterMap]
  constructor
  · rintro ⟨e, he, h⟩
    cases e <;> simp only [reduceCtorEq, Option.ite_none_right_eq_some, Option.some.injEq,
      Prod.mk.injEq] at h
    obtain ⟨rfl, rfl, rfl⟩ := h
    exact he
  · intro h
    exact ⟨_, h, by simp⟩

/-- What is both forwarded and answered was received twice. -/
theorem two_le_count_of_wrote {s : State m} {tr : List (Event m)} (h : (serve m).Reachable s tr)
    {c : ConnId} {sink : PeerSender} {raw : Bytes} {parts : FrameParts} {f : RouterFrame m}
    (hforwarded : .wrote c sink (.forwarded raw) ∈ tr) (hdecoded : decodeFrame m raw = .ok parts)
    (hanswered : .wrote c c (.generated f) ∈ tr) (hid : f.envelope.msgId = parts.envelope.msgId) :
    f.envelope.msgId = "unknown" ∨ 2 ≤ (receivedIds c tr).count f.envelope.msgId := by
  by_cases hunknown : f.envelope.msgId = "unknown"
  · exact Or.inl hunknown
  · right
    have hknown : known f.envelope.msgId = some f.envelope.msgId := if_neg hunknown
    have hraw : idIn m raw = some f.envelope.msgId := by
      rw [idIn_of_decodeFrame hdecoded, ← hid, hknown]
    calc 2 ≤ (disposedIds c tr).count f.envelope.msgId :=
          two_le_count_filterMap (mem_writesBy.mpr hforwarded) (mem_writesBy.mpr hanswered)
            (by simp) hraw hknown
      _ ≤ (receivedIds c tr).count f.envelope.msgId := (disposedIds_sublist h c).count_le _

/-- **The errors of the router** have its error bodies. -/
theorem refuses_of_wrote {s : State m} {tr : List (Event m)} (h : (serve m).Reachable s tr)
    {c : ConnId} {sink : PeerSender} {f : RouterFrame m} (hmem : .wrote c sink (.generated f) ∈ tr) :
    f.Refuses := by
  have hframes : ∀ {s : State m} {tr : List (Event m)}, (serve m).Reachable s tr →
      ∀ c f, (s.conns c).frame = some f → f.Refuses := by
    intro s tr h
    refine h.invariant (P := fun s _ => ∀ c f, (s.conns c).frame = some f → f.Refuses)
      (fun c f hf => by cases hf) ?_
    intro s s' tr evs i hreach hs ih c f hf
    by_cases hc : i.conn = c
    · subst hc
      exact (turn_of_connStep (routesSound hreach i.conn) (connStep_of_serve hs)).refuses f hf
    · rw [(step_of_ne hs hc).1] at hf
      exact ih c f hf
  refine h.forall_mem (Q := fun e => e = .wrote c sink (.generated f) → f.Refuses) ?_ _ hmem rfl
  rintro s s' tr evs i hreach - hs e he rfl
  obtain ⟨pc, hstep, -⟩ := step_of_serve hs
  obtain ⟨-, -, hreject | ⟨me, -, hanswer⟩⟩ := hstep.generated_cases he
  · exact hframes hreach i.conn f (by rw [hreject]; rfl)
  · refine hframes hreach i.conn f ?_
    cases hconn : s.conns i.conn with
    | ack me' f' | reply me' f' after =>
      rw [hconn] at hanswer
      exact congrArg (Option.map Prod.snd) hanswer
    | _ =>
      rw [hconn] at hanswer
      cases hanswer

/-- **Every frame in its turn.**  The ids of what the task of a connection writes, forwarded frames and
answers alike, are a subsequence of the ids of the frames it has received.  So where a frame is forwarded
and another of the router goes out under the same id, two frames with this id were received. -/
theorem disposed_in_order {s : State m} {tr : List (Event m)} (h : (serve m).Reachable s tr) (c : ConnId) :
    (disposedIds c tr).Sublist (receivedIds c tr) ∧
      ∀ sink raw parts f, .wrote c sink (.forwarded raw) ∈ tr → decodeFrame m raw = .ok parts →
        .wrote c c (.generated f) ∈ tr → f.envelope.msgId = parts.envelope.msgId →
        f.envelope.msgId = "unknown" ∨ 2 ≤ (receivedIds c tr).count f.envelope.msgId :=
  ⟨disposedIds_sublist h c, fun _ _ _ _ => two_le_count_of_wrote h⟩

/-- A call that is forwarded, a call to nobody and a query are disposed of in this order. -/
theorem disposed_in_order_three : ∃ s tr, (serve msgPackSerde).Reachable s tr ∧
    disposedIds 0 tr = ["r", "n", "m", "q"] ∧ (disposedIds 0 tr).Sublist (receivedIds 0 tr) := by
  obtain ⟨s, tr, hrun, hp⟩ := (serve msgPackSerde).exists_reachable_of_exec
    (join 0 "a" .caller ++ join 1 "b" .service ++
      [recv 0 (callBytes "a" "b"), go 0, go 0, go 0, go 0, recv 0 (plainBytes "call" "a" "c"), go 0, go 0,
        recv 0 (frameBytes (buildEnvelope kindQuery "q" "a" routerPeerId .one) (MsgPack.encode (.map
          [(.str "query", .str "peer.exists"), (.str "peer_id", .str "b")]))), go 0, go 0])
    (fun _ tr => disposedIds 0 tr == ["r", "n", "m", "q"]) (by decide +kernel)
  exact ⟨s, tr, hrun, beq_iff_eq.mp hp, (disposed_in_order hrun 0).1⟩

end Multifrost.Router
