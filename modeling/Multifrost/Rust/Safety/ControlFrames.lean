import Mathlib.Data.List.TakeWhile
import Multifrost.Router.Safety.ControlFrames
import Multifrost.Router.Sample
import Multifrost.Rust.Registration
import Multifrost.Rust.Safety.CallerStep
import Multifrost.Rust.Safety.ServiceReplies

/-!
# Control frames at the Rust binding

The loop of a service passes over pings and pongs, as the message loop of the router does.  The
registration takes the next message for the reply, whatever it is, and the `inbound_loop` of a
caller ends at the first message that is not binary: there a control frame fails the registration,
or all requests that are pending.  The two ends run as if the control frames were not there exactly
when none is read in these places.
-/

namespace Multifrost.Rust

open Router (Message RmpSerde Transparent cases_of_isControl data data_cons data_cons_of_isControl
  isControl startsWithControl startsWithControl_cons)
open TransitionSystem

/-- What a stream yields. -/
abbrev Next := Option (Except String Message)

variable {m : RmpSerde} {r : RegisterSerde} {debug : Message → String}

/-! ### The registration -/

/-- A register frame that is not built fails with an error of the encoding. -/
theorem serializeError_of_registerFrame {peerId msgId : String} {peerClass : Router.PeerClass}
    {ts : Float64} {err : MultifrostError}
    (h : registerFrame m r peerId peerClass msgId ts = .error err) :
    ∃ text, err = .serializeError text := by
  unfold registerFrame encodeRegisterBody at h
  cases hbody : r.registerBodyToVecNamed ⟨peerId, peerClass⟩ with
  | error text =>
    rw [hbody] at h
    cases h
    exact ⟨text, rfl⟩
  | ok body =>
    rw [hbody] at h
    cases henvelope : m.envelopeToVecNamed (buildRegisterEnvelope peerId msgId ts) with
    | error text =>
      have herr : encodeFrame m (buildRegisterEnvelope peerId msgId ts) body =
          .error (.serializeError text) := by
        simp only [encodeFrame, encodeEnvelope, henvelope]
        rfl
      cases herr.symm.trans h
      exact ⟨text, rfl⟩
    | ok envelope =>
      have hok : ∃ frame, encodeFrame m (buildRegisterEnvelope peerId msgId ts) body =
          .ok frame := by
        simp only [encodeFrame, encodeEnvelope, henvelope]
        exact ⟨_, rfl⟩
      obtain ⟨frame, hframe⟩ := hok
      cases hframe.symm.trans h

theorem exists_registerFrame (hm : ∀ e, ∃ bytes, m.envelopeToVecNamed e = .ok bytes)
    (hr : ∀ b, ∃ bytes, r.registerBodyToVecNamed b = .ok bytes) (peerId msgId : String)
    (peerClass : Router.PeerClass) (ts : Float64) :
    ∃ frame, registerFrame m r peerId peerClass msgId ts = .ok frame := by
  obtain ⟨body, hbody⟩ := hr ⟨peerId, peerClass⟩
  obtain ⟨envelope, henvelope⟩ := hm (buildRegisterEnvelope peerId msgId ts)
  simp only [registerFrame, encodeRegisterBody, hbody, encodeFrame, encodeEnvelope]
  change ∃ frame, (do
    let envelopeBytes ← (m.envelopeToVecNamed (buildRegisterEnvelope peerId msgId ts)).mapError
      MultifrostError.serializeError
    .ok (Bytes.toBE 4 (envelopeBytes.length % 2 ^ 32) ++ envelopeBytes ++ body)) = .ok frame
  rw [henvelope]
  exact ⟨_, rfl⟩

/-- A control frame is no reply. -/
theorem registerReply_control {rejected : String} {x : Next} (hx : isControl x = true) :
    ∃ text, registerReply m r debug rejected x = .error (.registerRejected text) := by
  rcases cases_of_isControl hx with rfl | rfl
  · exact ⟨_, rfl⟩
  · exact ⟨_, rfl⟩

/-- A reply that is accepted is binary. -/
theorem isBinary_of_registerReply {rejected : String} {x : Next}
    (h : registerReply m r debug rejected x = .ok ()) :
    ∃ bytes, x = some (.ok (.binary bytes)) := by
  unfold registerReply at h
  split at h
  · exact ⟨_, rfl⟩
  · cases h
  · cases h
  · cases h

/-! ### The caller -/

namespace CallerTransport

variable {config : Config} {request : ReqId → Request}

/-- A binary message. -/
def isBinary : Next → Bool
  | some (.ok (.binary _)) => true
  | _ => false

theorem eq_binary_of_isBinary {x : Next} (h : isBinary x = true) :
    ∃ bytes, x = some (.ok (.binary bytes)) := by
  unfold isBinary at h
  split at h
  · exact ⟨_, rfl⟩
  · cases h

/-- `connect` reads the reply, and `inbound_loop` the messages after it. -/
def reads : Reads Connection ConnectionInput Unit Next where
  stream
    | .reply, .connect .. => some ()
    | .connected s, .transport (.inbound ..) => if s.inbound = .next then some () else none
    | _, _ => none
  put
    | x, .connect msgId ts sent _ => .connect msgId ts sent x
    | x, .transport (.inbound _ pick) => .transport (.inbound x pick)
    | _, i => i

/-- `inbound_loop` is at a read, or on its way to the next one. -/
def InboundPc.isOpen : InboundPc → Bool
  | .next => true
  | .deliver _ => true
  | _ => false

/-- `inbound_loop` has left the loop. -/
def InboundPc.isEnded : InboundPc → Bool
  | .close => true
  | .drain => true
  | .fail _ => true
  | .returned => true
  | _ => false

/-- Only a binary message keeps the loop going. -/
theorem InboundStep.next {message : Next} {closed closed' : Bool} {pending pending' : Pending}
    {pc : InboundPc} {evs : List Event}
    (h : InboundStep m config message closed pending .next closed' pending' pc evs) :
    isBinary message = true ∧ pc.isOpen = true ∧ pc.isEnded = false ∨
      isBinary message = false ∧ pc.isOpen = false ∧ pc.isEnded = true := by
  cases h with
  | decoded hmessage => exact .inl ⟨by rw [hmessage]; rfl, rfl, rfl⟩
  | skipped hmessage => exact .inl ⟨by rw [hmessage]; rfl, rfl, rfl⟩
  | ended hmessage =>
    refine .inr ⟨?_, rfl, rfl⟩
    unfold isBinary
    split
    · rename_i bytes
      exact absurd rfl (hmessage bytes)
    · rfl

/-- A step that does not read keeps the loop where it is, in the loop or out of it. -/
theorem Step.inbound_of_not_read {s s' : State} {i : Input} {evs : List Event}
    (h : Step m config request s i s' evs)
    (hread : ∀ message pick, i = .inbound message pick → s.inbound ≠ .next) :
    (s'.inbound.isOpen = true → s.inbound.isOpen = true) ∧
      (s'.inbound.isEnded = true → s.inbound.isEnded = true) := by
  cases h with
  | request hstep => exact ⟨id, id⟩
  | disconnect hstep => exact ⟨id, id⟩
  | abort => exact ⟨fun h => absurd h Bool.false_ne_true, fun h => absurd h Bool.false_ne_true⟩
  | inbound hstep =>
    have hnext := hread _ _ rfl
    dsimp only
    generalize s.inbound = pc at hstep hnext
    cases hstep with
    | decoded => exact absurd rfl hnext
    | skipped => exact absurd rfl hnext
    | ended => exact absurd rfl hnext
    | delivered => exact ⟨fun _ => rfl, fun h => absurd h Bool.false_ne_true⟩
    | unmatched => exact ⟨fun _ => rfl, fun h => absurd h Bool.false_ne_true⟩
    | _ => exact ⟨fun h => absurd h Bool.false_ne_true, fun _ => rfl⟩

/-- What has been read of the stream of a caller, by where it is. -/
inductive Progress (m : RmpSerde) (r : RegisterSerde) (debug : Message → String) (S : List Next) :
    Connection → List Next → Prop
  | register : Progress m r debug S .register S
  | reply : Progress m r debug S .reply S
  | notSent {err : MultifrostError} (h : ∀ text, err ≠ .registerRejected text) :
      Progress m r debug S (.failed err) S
  | notAccepted {err : MultifrostError} {x : Next} {xs : List Next} (h : S = x :: xs) :
      Progress m r debug S (.failed err) xs
  | connected {s : State} {x : Next} {consumed F : List Next} (h : S = x :: (consumed ++ F))
      (hreply : connectReply m r debug x = .ok ())
      (hopen : s.inbound.isOpen = true → ∀ y ∈ consumed, isBinary y = true)
      (hended : s.inbound.isEnded = true → ∃ y ∈ consumed, isBinary y = false) :
      Progress m r debug S (.connected s) F

theorem progress_connect {S F : List Next} {s s' : Connection} {msgId : String} {ts : Float64}
    {sent : Except String Unit} {next : Next} {evs : List Event}
    (h : connect m r debug config request msgId ts sent next s = some (s', evs))
    (hs : s ≠ .reply) (hF : Progress m r debug S s F) : Progress m r debug S s' F := by
  cases hF with
  | register =>
    cases hframe : registerFrame m r config.peerId .caller msgId ts with
    | error err =>
      simp only [connect, hframe] at h
      cases h
      refine .notSent ?_
      rintro text rfl
      obtain ⟨text', heq⟩ := serializeError_of_registerFrame hframe
      cases heq
    | ok frame =>
      simp only [connect, hframe] at h
      cases sent with
      | ok =>
        cases h
        exact .reply
      | error text =>
        cases h
        exact .notSent fun text => by rintro ⟨⟩
  | reply => exact absurd rfl hs
  | notSent => cases h
  | notAccepted => cases h
  | connected => cases h

/-- `inbound_loop` reads a message. -/
theorem progress_inbound {S xs : List Next} {s s' : State} {x : Next} {pick : Nat}
    {evs : List Event} (h : Step m config request s (.inbound x pick) s' evs)
    (hnext : s.inbound = .next) (hF : Progress m r debug S (.connected s) (x :: xs)) :
    Progress m r debug S (.connected s') xs := by
  cases hF with
  | @connected _ reply consumed _ hS hreply hopen hended =>
    have hS' : S = reply :: ((consumed ++ [x]) ++ xs) := by
      rw [hS, List.append_assoc, List.singleton_append]
    have hconsumed : ∀ y ∈ consumed, isBinary y = true := by
      apply hopen
      rw [hnext]
      rfl
    cases h with
    | inbound hstep =>
      rw [hnext] at hstep
      rcases hstep.next with ⟨hbinary, -, hended'⟩ | ⟨hbinary, hopen', -⟩
      · refine .connected hS' hreply ?_ ?_
        · intro _ y hy
          rcases List.mem_append.mp hy with hy | hy
          · exact hconsumed y hy
          · rwa [List.mem_singleton.mp hy]
        · intro h
          rw [hended'] at h
          cases h
      · refine .connected hS' hreply ?_ ?_
        · intro h
          rw [hopen'] at h
          cases h
        · intro _
          exact ⟨x, List.mem_append_right _ (List.mem_singleton_self x), hbinary⟩

/-- In every run of a caller what is left of its stream fits where the caller is. -/
theorem progress {S : List Next} {F : Unit → List Next} {s : Connection} {tr : List Event}
    (h : ((connection m r debug config request).fed reads fun _ => S).Reachable (s, F) tr) :
    Progress m r debug S s (F ()) := by
  refine fed_invariant (P := fun s F => Progress m r debug S s (F ())) .register ?_ ?_ h
  · intro s s' F i evs hr hs ih
    cases i with
    | connect msgId ts sent next =>
      refine progress_connect hs ?_ ih
      rintro rfl
      cases hr
    | transport i =>
      cases s with
      | connected s =>
        obtain ⟨⟨s₁, evs₁⟩, hstep, heq⟩ := Option.map_eq_some_iff.mp hs
        cases heq
        have hread : ∀ message pick, i = .inbound message pick → s.inbound ≠ .next := by
          rintro message pick rfl hnext
          simp only [reads, hnext, if_true] at hr
          cases hr
        obtain ⟨ho, he⟩ := (step_of_callerTransport hstep).inbound_of_not_read hread
        cases ih with
        | connected hS hreply hopen hended =>
          exact .connected hS hreply (fun h => hopen (ho h)) fun h => hended (he h)
      | _ => cases hs
  · intro s s' F i k x xs evs hr hF hs ih
    rw [Function.update_self]
    rw [hF] at ih
    cases s with
    | register => cases i <;> cases hr
    | failed err => cases i <;> cases hr
    | reply =>
      cases ih
      cases i with
      | transport i => cases hr
      | connect msgId ts sent next =>
        cases hreply : connectReply m r debug x with
        | ok =>
          simp only [connection, reads, connect, hreply] at hs
          cases hs
          refine .connected (show x :: xs = x :: ([] ++ xs) from rfl) hreply ?_ ?_
          · intro _ y hy
            cases hy
          · intro hended
            cases hended
        | error err =>
          simp only [connection, reads, connect, hreply] at hs
          cases hs
          exact .notAccepted rfl
    | connected s =>
      cases i with
      | connect msgId ts sent next => cases hr
      | transport i =>
        cases i with
        | inbound message pick =>
          simp only [reads] at hr
          split_ifs at hr with hnext
          obtain ⟨⟨s₁, evs₁⟩, hstep, heq⟩ := Option.map_eq_some_iff.mp hs
          cases heq
          exact progress_inbound (step_of_callerTransport hstep) hnext ih
        | _ => cases hr

/-! ### Runs of a caller -/

theorem update_unit {α : Type} (F : Unit → α) (a : α) : Function.update F () a = fun _ => a := by
  funext u
  exact Function.update_self ..

/-- A caller gets to the read of the reply. -/
theorem exists_reply (hm : ∀ e, ∃ bytes, m.envelopeToVecNamed e = .ok bytes)
    (hr : ∀ b, ∃ bytes, r.registerBodyToVecNamed b = .ok bytes) (S : List Next) :
    ∃ tr, ((connection m r debug config request).fed reads fun _ => S).Reachable
      (.reply, fun _ => S) tr := by
  obtain ⟨frame, hframe⟩ := exists_registerFrame hm hr config.peerId "" .caller .one
  have hsent : (connection m r debug config request).step (.connect "" .one (.ok ()) none)
      .register = some (.reply, [.sent frame]) := by
    simp only [connection, connect, hframe]
  exact ⟨_, Run.step Run.init trivial (step_fed_of_none rfl hsent)⟩

/-- A caller reads the reply. -/
theorem exists_read_reply (hm : ∀ e, ∃ bytes, m.envelopeToVecNamed e = .ok bytes)
    (hr : ∀ b, ∃ bytes, r.registerBodyToVecNamed b = .ok bytes) {x : Next} {xs : List Next}
    {s : Connection}
    (hs : connect m r debug config request "" .one (.ok ()) x .reply = some (s, [])) :
    ∃ tr, ((connection m r debug config request).fed reads fun _ => x :: xs).Reachable
      (s, fun _ => xs) tr := by
  obtain ⟨tr, hreply⟩ : ∃ tr, ((connection m r debug config request).fed reads
    fun _ => x :: xs).Reachable (.reply, fun _ => x :: xs) tr := exists_reply hm hr _
  have hstep : (connection m r debug config request).step
      (reads.put x (.connect "" .one (.ok ()) none)) .reply = some (s, []) := hs
  have hread := step_fed_of_some (R := reads) (S := fun _ => x :: xs) (F := fun _ => x :: xs)
    (k := ()) rfl rfl hstep
  rw [update_unit] at hread
  exact ⟨_, Run.step hreply trivial hread⟩

/-- The loop of a caller reads a message. -/
theorem exists_read_binary {S : List Next} {s : State} {x : Next} {xs : List Next} {tr : List Event}
    (h : ((connection m r debug config request).fed reads fun _ => S).Reachable
      (.connected s, fun _ => x :: xs) tr) (hnext : s.inbound = .next) {s' : State}
    (hs : (callerTransport m config request).step (.inbound x 0) s = some (s', [])) :
    ((connection m r debug config request).fed reads fun _ => S).Reachable
      (.connected s', fun _ => xs) tr := by
  have hstep : (connection m r debug config request).step (.transport (.inbound x 0))
      (.connected s) = some (.connected s', []) := by
    simp only [connection, hs, Option.map_some]
  have hstream : reads.stream (.connected s) (.transport (.inbound none 0)) = some () := by
    simp only [reads, hnext, if_true]
  have hread := step_fed_of_some (R := reads) (S := fun _ => S) (F := fun _ => x :: xs) hstream rfl
    hstep
  rw [update_unit] at hread
  have hreach := Run.step h trivial hread
  rwa [List.append_nil] at hreach

/-- A frame that was read is delivered, or dropped. -/
theorem exists_delivered {s : State} {frame : Router.FrameParts}
    (h : s.inbound = .deliver frame) :
    ∃ s' evs, (callerTransport m config request).step (.inbound none 0) s = some (s', evs) ∧
      s'.inbound = .next := by
  simp only [callerTransport, inboundLoop, h]
  cases s.pending.take frame.envelope.msgId with
  | none => exact ⟨_, _, rfl, rfl⟩
  | some taken => exact ⟨_, _, rfl, rfl⟩

/-- The loop of a caller gets over binary messages. -/
theorem exists_read_binaries {S xs : List Next} :
    ∀ {bins : List Next} {s : State} {tr : List Event},
    (∀ x ∈ bins, isBinary x = true) → s.inbound = .next →
    ((connection m r debug config request).fed reads fun _ => S).Reachable
      (.connected s, fun _ => bins ++ xs) tr →
    ∃ s' tr', s'.inbound = .next ∧
      ((connection m r debug config request).fed reads fun _ => S).Reachable
        (.connected s', fun _ => xs) tr'
  | [], s, tr, _, hnext, h => ⟨s, tr, hnext, h⟩
  | x :: bins, s, tr, hbins, hnext, h => by
    obtain ⟨bytes, rfl⟩ := eq_binary_of_isBinary (hbins x List.mem_cons_self)
    have hrest : ∀ y ∈ bins, isBinary y = true := fun y hy => hbins y (List.mem_cons_of_mem _ hy)
    cases hd : decodeFrame m bytes with
    | error err =>
      have hskip : (callerTransport m config request).step
          (.inbound (some (.ok (.binary bytes))) 0) s = some (s, []) := by
        simp only [callerTransport, inboundLoop, hnext, hd, Option.map_some]
        rw [← hnext]
      exact exists_read_binaries hrest hnext (exists_read_binary h hnext hskip)
    | ok frame =>
      have hdecoded : (callerTransport m config request).step
          (.inbound (some (.ok (.binary bytes))) 0) s =
            some ({ s with inbound := .deliver frame }, []) := by
        simp only [callerTransport, inboundLoop, hnext, hd, Option.map_some]
      have hdeliver := exists_read_binary h hnext hdecoded
      obtain ⟨s', evs, hs, hnext'⟩ : ∃ s' evs, (callerTransport m config request).step
          (.inbound none 0) { s with inbound := .deliver frame } = some (s', evs) ∧
            s'.inbound = .next := exists_delivered rfl
      have hstep : (connection m r debug config request).step (.transport (.inbound none 0))
          (.connected { s with inbound := .deliver frame }) = some (.connected s', evs) := by
        simp only [connection, hs, Option.map_some]
      exact exists_read_binaries hrest hnext'
        (Run.step hdeliver trivial (step_fed_of_none rfl hstep))

/-! ### Transparency to the caller -/

theorem isControl_of_isBinary {x : Next} (hx : isBinary x = true) : isControl x = false := by
  obtain ⟨bytes, rfl⟩ := eq_binary_of_isBinary hx
  rfl

/-- Binary messages are data. -/
theorem data_append_of_binary {bins : List Next} (xs : List Next)
    (h : ∀ x ∈ bins, isBinary x = true) : data (bins ++ xs) = bins ++ data xs := by
  induction bins with
  | nil => rfl
  | cons x bins ih =>
    rw [List.cons_append, data_cons _ (isControl_of_isBinary (h x List.mem_cons_self)),
      ih fun y hy => h y (List.mem_cons_of_mem x hy), List.cons_append]

/-- A control frame that `inbound_loop` can read is not transparent. -/
theorem not_control_of_transparent (hm : ∀ e, ∃ bytes, m.envelopeToVecNamed e = .ok bytes)
    (hr : ∀ b, ∃ bytes, r.registerBodyToVecNamed b = .ok bytes) {reply y : Next}
    {bins ys : List Next} (hbins : ∀ x ∈ bins, isBinary x = true)
    (hreply : connectReply m r debug reply = .ok ())
    (h : Transparent (connection m r debug config request) reads
      fun _ => reply :: (bins ++ y :: ys)) : isControl y = false := by
  rw [← Bool.not_eq_true]
  intro hy
  have hconnected : connect m r debug config request "" .one (.ok ()) reply .reply =
      some (.connected (callerTransport m config request).init, []) := by
    simp only [connect, hreply]
  obtain ⟨tr, hreach⟩ : ∃ tr, ((connection m r debug config request).fed reads
    fun _ => reply :: (bins ++ y :: ys)).Reachable
      (.connected (callerTransport m config request).init, fun _ => bins ++ y :: ys) tr :=
    exists_read_reply hm hr hconnected
  obtain ⟨s, tr', hnext, hreach⟩ := exists_read_binaries hbins rfl hreach
  have hends : (callerTransport m config request).step (.inbound y 0) s =
      some ({ s with inbound := .close }, []) := by
    rcases cases_of_isControl hy with rfl | rfl
    · simp only [callerTransport, inboundLoop, hnext, Option.map_some]
    · simp only [callerTransport, inboundLoop, hnext, Option.map_some]
  -- without the control frames the loop has ended with all that it has read binary
  have hdata := progress (h.data (exists_read_binary hreach hnext hends))
  obtain ⟨bytes, rfl⟩ := isBinary_of_registerReply hreply
  rw [data_cons _ rfl, data_append_of_binary _ hbins, data_cons_of_isControl ys hy] at hdata
  cases hdata with
  | connected hS _ _ hended =>
    obtain ⟨-, hS⟩ := List.cons.inj hS
    obtain rfl := List.append_cancel_right hS
    obtain ⟨z, hz, hnot⟩ := hended rfl
    rw [hbins z hz] at hnot
    cases hnot

/-- A control frame that comes as the reply is not transparent. -/
theorem not_startsWithControl_of_transparent
    (hm : ∀ e, ∃ bytes, m.envelopeToVecNamed e = .ok bytes)
    (hr : ∀ b, ∃ bytes, r.registerBodyToVecNamed b = .ok bytes) {S' : List Next}
    (h : Transparent (connection m r debug config request) reads fun _ => S') :
    startsWithControl S' = false := by
  cases S' with
  | nil => rfl
  | cons x xs =>
    rw [startsWithControl, ← Bool.not_eq_true]
    intro hx
    obtain ⟨text, hreply⟩ : ∃ text,
        connectReply m r debug x = .error (.registerRejected text) := registerReply_control hx
    have hfails : connect m r debug config request "" .one (.ok ()) x .reply =
        some (.failed (.registerRejected text), []) := by
      simp only [connect, hreply]
    obtain ⟨tr, hreach⟩ : ∃ tr, ((connection m r debug config request).fed reads
      fun _ => x :: xs).Reachable (.failed (.registerRejected text), fun _ => xs) tr :=
      exists_read_reply hm hr hfails
    -- without the control frames a rejection comes from a message that was read
    have hdata := progress (h.data hreach)
    rw [data_cons_of_isControl xs hx] at hdata
    generalize data xs = left at hdata
    cases hdata with
    | notSent hnot => exact hnot text rfl
    | notAccepted heq =>
      have hlength := congrArg List.length heq
      rw [List.length_cons] at hlength
      omega

theorem inbound_of_stream {s : State} {i : ConnectionInput}
    (h : reads.stream (.connected s) i = some ()) : s.inbound = .next := by
  cases i with
  | connect msgId ts sent next => cases h
  | transport i =>
    cases i with
    | inbound message pick =>
      simp only [reads] at h
      split_ifs at h with hnext
      exact hnext
    | _ => cases h

/-- A caller whose stream has its control frames late reads none. -/
theorem not_control_of_read {S' xs : List Next} {s : Connection} {i : ConnectionInput} {x : Next}
    (hstarts : startsWithControl S' = false)
    (hloop : ∀ reply rest, S' = reply :: rest → connectReply m r debug reply = .ok () →
      startsWithControl (rest.dropWhile isBinary) = false)
    (hprogress : Progress m r debug S' s (x :: xs)) (hread : reads.stream s i = some ()) :
    ¬ isControl x = true := by
  cases hprogress with
  | register => cases i <;> cases hread
  | notSent => cases i <;> cases hread
  | notAccepted => cases i <;> cases hread
  | reply => exact startsWithControl_cons hstarts
  | @connected s reply consumed _ heq hreply hopen hended =>
    intro hx
    have hconsumed : ∀ y ∈ consumed, isBinary y = true := by
      apply hopen
      rw [inbound_of_stream hread]
      rfl
    have hnot : ¬ isBinary x = true := by
      intro hbinary
      rw [isControl_of_isBinary hbinary] at hx
      cases hx
    -- what follows the binary messages is the control frame
    have hrest := hloop reply _ heq hreply
    rw [List.dropWhile_append_of_pos hconsumed, List.dropWhile_cons_of_neg hnot] at hrest
    exact startsWithControl_cons hrest hx

/-- Control frames are transparent to a caller exactly when none is read as the reply to its
registration, and none in its loop. -/
theorem transparent_connection_iff (hm : ∀ e, ∃ bytes, m.envelopeToVecNamed e = .ok bytes)
    (hr : ∀ b, ∃ bytes, r.registerBodyToVecNamed b = .ok bytes) (S' : List Next) :
    Transparent (connection m r debug config request) reads (fun _ => S') ↔
      startsWithControl S' = false ∧ ∀ reply rest, S' = reply :: rest →
        connectReply m r debug reply = .ok () →
          startsWithControl (rest.dropWhile isBinary) = false := by
  constructor
  · intro h
    refine ⟨not_startsWithControl_of_transparent hm hr h, ?_⟩
    rintro reply rest rfl hreply
    cases hdrop : rest.dropWhile isBinary with
    | nil => rfl
    | cons y ys =>
      have hrest : rest = rest.takeWhile isBinary ++ y :: ys := by
        rw [← hdrop, List.takeWhile_append_dropWhile]
      rw [hrest] at h
      exact not_control_of_transparent hm hr (fun x hx => List.mem_takeWhile_imp hx) hreply h
  · rintro ⟨hstarts, hloop⟩ S hS
    refine sameRuns_of_skips hS ?_
    intro s F' tr i k x xs hreach hread hF hx
    have hprogress := progress hreach
    rw [hF] at hprogress
    exact absurd hx (not_control_of_read hstarts hloop hprogress hread)

end CallerTransport

/-! ### The service -/

namespace Service

variable {V ω : Type} {c : CallSerde V} {handleCall : String → List V → ω → Except String V × ω}
  {peerId : String} {worker : ω}

/-- A service reads the reply to its registration, and the messages of its loop. -/
def Pc.isReading : Pc → Bool
  | .reply => true
  | .loop => true
  | _ => false

def reads : Reads (State ω) Input Unit Next where
  stream s _ := if s.pc.isReading then some () else none
  put x i := { i with next := x }

/-- The service has yet to read the reply. -/
def Pc.isWaiting : Pc → Bool
  | .register => true
  | .reply => true
  | _ => false

/-- The service waits for the reply, or the register frame did not go out. -/
def Pc.isUnread : Pc → Bool
  | .returned (.error (.serializeError _)) => true
  | .returned (.error (.webSocketError _)) => true
  | pc => pc.isWaiting

/-- In the loop a control frame changes nothing. -/
theorem step_control {s : State ω} {i : Input} {x : Next} (hpc : s.pc = .loop)
    (hx : isControl x = true) :
    (service m r c debug handleCall peerId worker).step { i with next := x } s = some (s, []) := by
  obtain ⟨pc, w⟩ := s
  dsimp only at hpc
  subst hpc
  rcases cases_of_isControl hx with rfl | rfl
  · rfl
  · rfl

/-- The register frame goes out, or the service returns with the error. -/
theorem isUnread_of_register {i : Input} {w : World ω} {s : State ω}
    (h : serviceStep m r c debug handleCall peerId i w .register = some s) :
    s.pc.isUnread = true := by
  unfold serviceStep at h
  cases hframe : registerFrame m r peerId .service i.newMsgId i.now with
  | error err =>
    obtain ⟨text, rfl⟩ := serializeError_of_registerFrame hframe
    simp only [hframe, sendBuilt] at h
    obtain rfl := Option.some.inj h
    rfl
  | ok frame =>
    simp only [hframe, sendBuilt, sendWsFrame, Input.environment] at h
    cases hsent : i.sent with
    | ok =>
      simp only [hsent] at h
      obtain rfl := Option.some.inj h
      rfl
    | error text =>
      simp only [hsent] at h
      obtain rfl := Option.some.inj h
      rfl

/-- The reply is awaited once. -/
theorem isWaiting_of_serviceStep {i : Input} {w : World ω} {pc : Pc} {s : State ω}
    (h : serviceStep m r c debug handleCall peerId i w pc = some s) (hpc : pc ≠ .register) :
    s.pc.isWaiting = false := by
  cases pc with
  | register => exact absurd rfl hpc
  | reply =>
    cases hreply : serviceReply m r debug i.next with
    | ok =>
      simp only [serviceStep, hreply] at h
      obtain rfl := Option.some.inj h
      rfl
    | error err =>
      simp only [serviceStep, hreply] at h
      obtain rfl := Option.some.inj h
      rfl
  | loop =>
    cases hnext : i.next with
    | none =>
      simp only [serviceStep, hnext] at h
      obtain rfl := Option.some.inj h
      rfl
    | some message =>
      simp only [serviceStep, hnext] at h
      cases hflow : handleMessage m c (i.environment handleCall) peerId message w with
      | mk flow w' =>
        rw [hflow] at h
        cases flow with
        | continues =>
          obtain rfl := Option.some.inj h
          rfl
        | breaks =>
          obtain rfl := Option.some.inj h
          rfl
  | disconnect =>
    obtain rfl := Option.some.inj h
    rfl
  | returned result => cases h

/-- In every run of a service, nothing has been read, or the reply is not awaited any more. -/
theorem service_unread_or_read {S : List Next} {F : Unit → List Next} {s : State ω}
    {tr : List Empty}
    (h : ((service m r c debug handleCall peerId worker).fed reads fun _ => S).Reachable
      (s, F) tr) :
    s.pc.isUnread = true ∧ F () = S ∨ s.pc.isWaiting = false ∧ (F ()).length < S.length := by
  refine unread_or_read (fun s _ => s.pc.isUnread) (fun s _ => s.pc.isWaiting) (fun _ => rfl)
    ?_ ?_ ?_ ?_ h ()
  · intro s s' i evs k hr hs hunread
    obtain ⟨s₁, hstep, heq⟩ := Option.map_eq_some_iff.mp hs
    cases heq
    cases hpc : s.pc with
    | register =>
      rw [hpc] at hstep
      exact isUnread_of_register hstep
    | returned result =>
      rw [hpc] at hstep
      cases hstep
    | reply =>
      simp only [reads, hpc, Pc.isReading, if_true] at hr
      cases hr
    | _ =>
      rw [hpc] at hunread
      cases hunread
  · intro s s' i x evs k k' hr hne hs
    exact absurd (Subsingleton.elim k k') hne
  · intro s s' i evs k hs hwaiting
    obtain ⟨s₁, hstep, heq⟩ := Option.map_eq_some_iff.mp hs
    cases heq
    refine isWaiting_of_serviceStep hstep ?_
    intro hpc
    rw [hpc] at hwaiting
    cases hwaiting
  · intro s s' i x evs k hr hs
    obtain ⟨s₁, hstep, heq⟩ := Option.map_eq_some_iff.mp hs
    cases heq
    refine isWaiting_of_serviceStep hstep ?_
    intro hpc
    simp only [reads, hpc, Pc.isReading] at hr
    cases hr

/-- A control frame that comes first ends the service. -/
theorem exists_rejected_of_control (hm : ∀ e, ∃ bytes, m.envelopeToVecNamed e = .ok bytes)
    (hr : ∀ b, ∃ bytes, r.registerBodyToVecNamed b = .ok bytes) {x : Next} {xs : List Next}
    (hx : isControl x = true) :
    ∃ w text tr,
      ((service m r c debug handleCall peerId worker).fed reads fun _ => x :: xs).Reachable
        (⟨.returned (.error (.registerRejected text)), w⟩, fun _ => xs) tr := by
  obtain ⟨frame, hframe⟩ := exists_registerFrame hm hr peerId "" .service .one
  obtain ⟨text, hreply⟩ : ∃ text, serviceReply m r debug x = .error (.registerRejected text) :=
    registerReply_control hx
  have hsent : (service m r c debug handleCall peerId worker).step {}
      (service m r c debug handleCall peerId worker).init =
        some (⟨.reply, ⟨worker, 0, [frame], []⟩⟩, []) := by
    simp only [service, serviceStep, hframe, sendBuilt, sendWsFrame, Input.environment,
      Option.map_some, List.nil_append]
  have hrejected : (service m r c debug handleCall peerId worker).step { next := x }
      ⟨.reply, ⟨worker, 0, [frame], []⟩⟩ =
        some (⟨.returned (.error (.registerRejected text)), ⟨worker, 0, [frame], []⟩⟩, []) := by
    simp only [service, serviceStep, hreply, Option.map_some]
  have hread := step_fed_of_some (R := reads) (S := fun _ => x :: xs) (F := fun _ => x :: xs)
    (i := {}) (k := ()) rfl rfl hrejected
  rw [CallerTransport.update_unit] at hread
  exact ⟨_, text, _,
    Run.step (Run.step Run.init trivial (step_fed_of_none rfl hsent)) trivial hread⟩

/-- Control frames are transparent to a service exactly when none is read as the reply to its
registration. -/
theorem transparent_service_iff (hm : ∀ e, ∃ bytes, m.envelopeToVecNamed e = .ok bytes)
    (hr : ∀ b, ∃ bytes, r.registerBodyToVecNamed b = .ok bytes) (S' : List Next) :
    Transparent (service m r c debug handleCall peerId worker) reads (fun _ => S') ↔
      startsWithControl S' = false := by
  constructor
  · intro h
    cases S' with
    | nil => rfl
    | cons x xs =>
      rw [startsWithControl, ← Bool.not_eq_true]
      intro hx
      obtain ⟨w, text, tr, hreach⟩ : ∃ w text tr,
        ((service m r c debug handleCall peerId worker).fed reads fun _ => x :: xs).Reachable
          (⟨.returned (.error (.registerRejected text)), w⟩, fun _ => xs) tr :=
        exists_rejected_of_control hm hr hx
      rcases service_unread_or_read (h.data hreach) with ⟨hunread, -⟩ | ⟨-, hlength⟩
      · cases hunread
      · rw [data_cons_of_isControl xs hx] at hlength
        exact lt_irrefl _ hlength
  · intro hstarts S hS
    refine sameRuns_of_skips hS ?_
    intro s F' tr i k x xs hreach hr hF hx
    cases hpc : s.pc with
    | reply =>
      rcases service_unread_or_read hreach with ⟨-, hunread⟩ | ⟨hwaiting, -⟩
      · rw [← hunread, hF] at hstarts
        exact absurd hx (startsWithControl_cons hstarts)
      · rw [hpc] at hwaiting
        cases hwaiting
    | loop => exact step_control hpc hx
    | _ =>
      simp only [reads, hpc, Pc.isReading] at hr
      cases hr

end Service

/-! ### The frames of a registration -/

def ackOfValue (v : MsgPack.Value) : Option Router.RegisterAckBody := do
  let accepted ← match v.field "accepted" with
    | some (.bool b) => some b
    | _ => none
  pure ⟨accepted, (v.field "reason").bind Router.strValue⟩

def registerSerde : RegisterSerde where
  registerBodyToVecNamed b := .ok (MsgPack.encode b.toValue)
  registerAckBodyFromSlice := Router.fromSliceWith ackOfValue

/-- The frame with which the router accepts the caller `"caller"`. -/
def ackBytes : Bytes :=
  Router.frameBytes
    (Router.buildEnvelope Router.kindResponse "r" Router.routerPeerId "caller" .one)
    (MsgPack.encode (Router.RegisterAckBody.toValue ⟨true, none⟩))

def ackMessage : Next := some (.ok (.binary ackBytes))

def pingMessage {α : Type} : Option (Except α Message) := some (.ok .ping)

/-! ### All read sites -/

/-- **Control frames are transparent** to the router, to a caller and to a service exactly when none
is read in a place that does not pass over them: the first message of a connection to the router,
the reply to a registration, and the loop of a caller.  `hm` and `hr` are what `rmp_serde` does with
envelopes and register bodies: it writes all of them. -/
theorem control_frames_transparent_iff {V ω : Type} (m : RmpSerde) (r : RegisterSerde)
    (c : Service.CallSerde V) (debug : Message → String) (config : CallerTransport.Config)
    (request : CallerTransport.ReqId → CallerTransport.Request)
    (handleCall : String → List V → ω → Except String V × ω) (peerId : String) (worker : ω)
    (hm : ∀ e, ∃ bytes, m.envelopeToVecNamed e = .ok bytes)
    (hr : ∀ b, ∃ bytes, r.registerBodyToVecNamed b = .ok bytes) :
    (∀ streams : Router.ConnId → List Router.Next,
      Transparent (Router.serve m) (Router.reads m) streams ↔
        ∀ k, startsWithControl (streams k) = false) ∧
    (∀ stream : List Next,
      Transparent (CallerTransport.connection m r debug config request) CallerTransport.reads
        (fun _ => stream) ↔
        startsWithControl stream = false ∧ ∀ reply rest, stream = reply :: rest →
          CallerTransport.connectReply m r debug reply = .ok () →
            startsWithControl (rest.dropWhile CallerTransport.isBinary) = false) ∧
    ∀ stream : List Next,
      Transparent (Service.service m r c debug handleCall peerId worker) Service.reads
        (fun _ => stream) ↔ startsWithControl stream = false :=
  ⟨Router.transparent_serve_iff m, CallerTransport.transparent_connection_iff hm hr,
    Service.transparent_service_iff hm hr⟩

/-- The local router, caller and service get over control frames that come late enough. -/
theorem control_frames_transparent_late :
    Transparent (Router.serve Router.msgPackSerde) (Router.reads Router.msgPackSerde)
      (fun _ => [some (.ok (.binary (Router.registerBytes "caller" .caller))), pingMessage]) ∧
    Transparent (CallerTransport.connection Router.msgPackSerde registerSerde (fun _ => "Ping")
        ⟨"caller", "ws://127.0.0.1:9981", none⟩ fun _ => ⟨[], "q"⟩) CallerTransport.reads
      (fun _ => [ackMessage, some (.ok .close), pingMessage]) ∧
    Transparent (Service.service Router.msgPackSerde registerSerde Service.msgPackCallSerde
        (fun _ => "Ping") Service.quietEnvironment.handleCall "service" ()) Service.reads
      (fun _ => [ackMessage, pingMessage]) := by
  obtain ⟨hrouter, hcaller, hservice⟩ := control_frames_transparent_iff Router.msgPackSerde
    registerSerde Service.msgPackCallSerde (fun _ => "Ping") ⟨"caller", "ws://127.0.0.1:9981", none⟩
    (fun _ => ⟨[], "q"⟩) Service.quietEnvironment.handleCall "service" () (fun e => ⟨_, rfl⟩)
    fun b => ⟨_, rfl⟩
  refine ⟨(hrouter _).mpr fun _ => rfl, (hcaller _).mpr ⟨rfl, ?_⟩, (hservice _).mpr rfl⟩
  rintro reply rest heq -
  obtain ⟨-, rfl⟩ := List.cons.inj heq
  rfl

/-! ### A caller and its router -/

namespace CallerTransport

/-- A caller with requests that all have the id `"q"`. -/
def pingedCaller : TransitionSystem Connection ConnectionInput Event :=
  connection Router.msgPackSerde registerSerde (fun _ => "Ping")
    ⟨"caller", "ws://127.0.0.1:9981", none⟩ fun _ => ⟨Router.plainBytes Router.kindQuery "caller" Router.routerPeerId, "q"⟩

/-- `inbound_loop` has returned. -/
def Connection.loopReturned : Connection → Bool
  | .connected s => s.inbound = .returned
  | _ => false

/-- A request has returned because the router is unavailable. -/
def Connection.requestFailed (id : ReqId) : Connection → Bool
  | .connected s =>
    s.requests id = .returned (.error (.routerUnavailable "ws://127.0.0.1:9981"))
  | _ => false

/-- The caller registers and makes a request, and its loop runs to the end. -/
def pingSchedule : List ConnectionInput :=
  [.connect "r" .one (.ok ()) none, .connect "" .one (.ok ()) none] ++
    List.replicate 3 (.transport (.request 0 (.ok ()) false)) ++
    List.replicate 5 (.transport (.inbound none 0)) ++ [.transport (.request 0 (.ok ()) false)]

/-- The router accepts the caller and later sends a ping: the loop of the caller ends, and the
request that is pending fails.  Without the ping the loop never ends. -/
theorem loop_ended_by_ping :
    Inserted (fun x => isControl x = true) [ackMessage, pingMessage] [ackMessage] ∧
      (∃ q tr, (pingedCaller.fed reads fun _ => [ackMessage, pingMessage]).Reachable q tr ∧
        (q.1.loopReturned && q.1.requestFailed 0) = true) ∧
      ∀ q tr, (pingedCaller.fed reads fun _ => [ackMessage]).Reachable q tr →
        q.1.loopReturned = false := by
  refine ⟨.keep _ (.insert rfl .nil), ?_, ?_⟩
  · exact exists_reachable_of_exec (pingedCaller.fed reads fun _ => [ackMessage, pingMessage])
      pingSchedule (fun q _ => q.1.loopReturned && q.1.requestFailed 0) (by decide +kernel)
  · rintro ⟨s, F⟩ tr h
    have hprogress := progress h
    generalize F () = left at hprogress
    rw [← Bool.not_eq_true]
    intro hreturned
    cases hprogress with
    | connected hS hreply hopen hended =>
      have hconsumed := (List.append_eq_nil_iff.mp (List.cons.inj hS).2.symm).1
      have hpc := of_decide_eq_true hreturned
      obtain ⟨y, hy, -⟩ := hended (by rw [hpc]; rfl)
      rw [hconsumed] at hy
      cases hy
    | _ => cases hreturned

end CallerTransport

end Multifrost.Rust
