import Mathlib.Data.List.Count
import Mathlib.Logic.Function.Basic
import Multifrost.Lib.TransitionSystem

/-!
# A hub and its leaves

`star w hub leaf` is a hub and any number of leaves that take steps in any order.  A leaf has a link
to the hub and a link from it, each a queue that is read in the order in which it was written.  The
`Wiring` says which message a step takes from a link and which message an event puts on one; what a
step does otherwise is the hub's or the leaf's own affair.  A message that the links do not carry
stays at the head of its queue, so that nothing comes after it.

A run of a star is a run of the hub and a run of every leaf (`Run.hub`, `Run.leaf`), and what has
been taken from a link, followed by what is left on it, is what was put on it (`links`).
-/

namespace TransitionSystem

variable {σ ι ε τ ν φ κ μ : Type*}

/-! ### Links -/

section Link

variable [DecidableEq κ]

/-- Take a message from the head of a link. -/
def pop [DecidableEq μ] (carries : μ → Bool) (q : κ → List μ) (p : κ × μ) : Option (κ → List μ) :=
  match q p.1 with
  | [] => none
  | x :: xs => if x = p.2 ∧ carries x = true then some (Function.update q p.1 xs) else none

/-- Take a message, if one is taken. -/
def popIf [DecidableEq μ] (carries : μ → Bool) (q : κ → List μ) :
    Option (κ × μ) → Option (κ → List μ)
  | none => some q
  | some p => pop carries q p

/-- The part of some messages that goes over one link. -/
def onLink (k : κ) (out : List (κ × μ)) : List μ := (out.filter fun p => p.1 = k).map Prod.snd

/-- Put messages on their links. -/
def push (q : κ → List μ) (out : List (κ × μ)) : κ → List μ := fun k => q k ++ onLink k out

@[simp] theorem onLink_append (k : κ) (out out' : List (κ × μ)) :
    onLink k (out ++ out') = onLink k out ++ onLink k out' := by
  rw [onLink, List.filter_append, List.map_append]
  rfl

@[simp] theorem onLink_nil (k : κ) : onLink k ([] : List (κ × μ)) = [] := rfl

theorem onLink_singleton (k k' : κ) (x : μ) :
    onLink k [(k', x)] = if k' = k then [x] else [] := by
  by_cases hk : k' = k <;> simp [onLink, hk]

theorem mem_onLink {k : κ} {out : List (κ × μ)} {x : μ} : x ∈ onLink k out ↔ (k, x) ∈ out := by
  simp [onLink]

omit [DecidableEq κ] in
/-- A message that goes out once goes over one link. -/
theorem eq_of_count_le [BEq μ] [LawfulBEq μ] {k k' : κ} {out : List (κ × μ)} {x : μ}
    (h : (out.map Prod.snd).count x ≤ 1) (hk : (k, x) ∈ out) (hk' : (k', x) ∈ out) : k = k' := by
  obtain ⟨before, after, rfl⟩ := List.append_of_mem hk
  have hcount : ((before ++ (k, x) :: after).map Prod.snd).count x =
      (before.map Prod.snd).count x + ((after.map Prod.snd).count x + 1) := by
    simp
  have hpos : ∀ l : List (κ × μ), (k', x) ∈ l → 0 < (l.map Prod.snd).count x := by
    intro l hmem
    exact List.count_pos_iff.mpr (List.mem_map_of_mem hmem)
  rcases List.mem_append.mp hk' with hmem | hmem
  · have hbefore := hpos before hmem
    omega
  · rcases List.mem_cons.mp hmem with heq | hmem
    · exact (Prod.mk.inj heq).1.symm
    · have hafter := hpos after hmem
      omega

theorem count_onLink_le [BEq μ] (k : κ) (out : List (κ × μ)) (x : μ) :
    (onLink k out).count x ≤ (out.map Prod.snd).count x :=
  (List.filter_sublist.map Prod.snd).count_le x

variable [DecidableEq μ] {carries : μ → Bool} {q q' : κ → List μ}

/-- What is taken comes from the head, and the links do carry it. -/
theorem popIf_eq_some {p : Option (κ × μ)} (h : popIf carries q p = some q') :
    (∀ k, q k = onLink k p.toList ++ q' k) ∧ ∀ x ∈ p, carries x.2 = true := by
  cases p with
  | none =>
    obtain rfl := Option.some.inj h
    exact ⟨fun k => rfl, fun x hx => by cases hx⟩
  | some p =>
    obtain ⟨k', x⟩ := p
    simp only [popIf, pop] at h
    cases hq : q k' with
    | nil =>
      rw [hq] at h
      cases h
    | cons y ys =>
      simp only [hq] at h
      split_ifs at h with hy
      obtain rfl := Option.some.inj h
      obtain ⟨rfl, hcarries⟩ := hy
      refine ⟨fun k => ?_, fun z hz => ?_⟩
      · rw [Option.toList_some, onLink_singleton]
        by_cases hk : k' = k
        · subst hk
          rw [if_pos rfl, Function.update_self, hq]
          rfl
        · rw [if_neg hk, Function.update_of_ne (Ne.symm hk)]
          rfl
      · obtain rfl := Option.some.inj hz
        exact hcarries

end Link

/-! ### Stars -/

/-- How the systems are wired to the links: the message that a step takes, and the message that an
event puts. -/
structure Wiring (σ ι ε τ ν φ κ μ : Type*) where
  hubTakes : σ → ι → Option (κ × μ)
  hubPuts : ε → Option (κ × μ)
  leafTakes : τ → ν → Option μ
  leafPuts : φ → Option μ
  carries : μ → Bool

structure StarState (σ τ κ μ : Type*) where
  hub : σ
  leaf : κ → τ
  /-- the links to the hub -/
  up : κ → List μ
  /-- the links from the hub -/
  down : κ → List μ

/-- Who moves. -/
inductive StarInput (ι ν κ : Type*)
  | hub (i : ι)
  | leaf (k : κ) (j : ν)

/-- The events of the hub and of the leaves, and what each of them has taken. -/
inductive StarEvent (ε φ κ μ : Type*)
  | hub (e : ε)
  | leaf (k : κ) (f : φ)
  | taken (k : κ) (x : μ)
  | given (k : κ) (x : μ)

/-! ### Traces -/

section HubTrace

/-- The events of the hub. -/
def hubTrace (tr : List (StarEvent ε φ κ μ)) : List ε :=
  tr.filterMap fun
    | .hub e => some e
    | _ => none

/-- The events of a step of the hub. -/
def hubEvents (p : Option (κ × μ)) (evs : List ε) : List (StarEvent ε φ κ μ) :=
  p.toList.map (fun p => .taken p.1 p.2) ++ evs.map .hub

/-- The events of a step of the leaf `k`. -/
def leafEvents (k : κ) (x : Option μ) (evs : List φ) : List (StarEvent ε φ κ μ) :=
  x.toList.map (.given k) ++ evs.map (.leaf k)

@[simp] theorem hubTrace_append (tr evs : List (StarEvent ε φ κ μ)) :
    hubTrace (tr ++ evs) = hubTrace tr ++ hubTrace evs := List.filterMap_append

@[simp] theorem hubTrace_hubEvents (p : Option (κ × μ)) (evs : List ε) :
    hubTrace (hubEvents p evs : List (StarEvent ε φ κ μ)) = evs := by
  cases p <;> simp [hubEvents, hubTrace, List.filterMap_map]

@[simp] theorem hubTrace_leafEvents (k : κ) (x : Option μ) (evs : List φ) :
    hubTrace (leafEvents k x evs : List (StarEvent ε φ κ μ)) = [] := by
  cases x <;> simp [leafEvents, hubTrace]

end HubTrace

section Trace

variable [DecidableEq κ] (w : Wiring σ ι ε τ ν φ κ μ)

/-- The events of one leaf. -/
def leafTrace (k : κ) (tr : List (StarEvent ε φ κ μ)) : List φ :=
  tr.filterMap fun
    | .leaf k' f => if k' = k then some f else none
    | _ => none

/-- What the hub has taken from a leaf. -/
def takenFrom (k : κ) (tr : List (StarEvent ε φ κ μ)) : List μ :=
  tr.filterMap fun
    | .taken k' x => if k' = k then some x else none
    | _ => none

/-- What a leaf has taken from the hub. -/
def givenTo (k : κ) (tr : List (StarEvent ε φ κ μ)) : List μ :=
  tr.filterMap fun
    | .given k' x => if k' = k then some x else none
    | _ => none

/-- What a leaf has put on its link. -/
def putBy (k : κ) (tr : List (StarEvent ε φ κ μ)) : List μ :=
  (leafTrace k tr).filterMap w.leafPuts

/-- What the hub has put on the link to a leaf. -/
def putFor (k : κ) (tr : List (StarEvent ε φ κ μ)) : List μ :=
  onLink k ((hubTrace tr).filterMap w.hubPuts)

variable (k k' : κ) (tr evs : List (StarEvent ε φ κ μ))

@[simp] theorem leafTrace_append :
    leafTrace k (tr ++ evs) = leafTrace k tr ++ leafTrace k evs := List.filterMap_append

@[simp] theorem takenFrom_append :
    takenFrom k (tr ++ evs) = takenFrom k tr ++ takenFrom k evs := List.filterMap_append

@[simp] theorem givenTo_append :
    givenTo k (tr ++ evs) = givenTo k tr ++ givenTo k evs := List.filterMap_append

@[simp] theorem putBy_append : putBy w k (tr ++ evs) = putBy w k tr ++ putBy w k evs := by
  rw [putBy, leafTrace_append, List.filterMap_append]
  rfl

@[simp] theorem putFor_append : putFor w k (tr ++ evs) = putFor w k tr ++ putFor w k evs := by
  rw [putFor, hubTrace_append, List.filterMap_append, onLink_append]
  rfl

section HubEvents

variable (p : Option (κ × μ)) (evs : List ε)

@[simp] theorem leafTrace_hubEvents :
    leafTrace k (hubEvents p evs : List (StarEvent ε φ κ μ)) = [] := by
  cases p <;> simp [hubEvents, leafTrace]

@[simp] theorem takenFrom_hubEvents :
    takenFrom k (hubEvents p evs : List (StarEvent ε φ κ μ)) = onLink k p.toList := by
  cases p with
  | none => simp [hubEvents, takenFrom]
  | some p => by_cases hk : p.1 = k <;> simp [hubEvents, takenFrom, onLink, hk]

@[simp] theorem givenTo_hubEvents :
    givenTo k (hubEvents p evs : List (StarEvent ε φ κ μ)) = [] := by
  cases p <;> simp [hubEvents, givenTo]

end HubEvents

section LeafEvents

variable (x : Option μ) (evs : List φ)

theorem leafTrace_leafEvents : leafTrace k' (leafEvents k x evs : List (StarEvent ε φ κ μ)) =
    if k = k' then evs else [] := by
  by_cases hk : k = k' <;> cases x <;> simp [leafEvents, leafTrace, hk, List.filterMap_map]

@[simp] theorem takenFrom_leafEvents :
    takenFrom k' (leafEvents k x evs : List (StarEvent ε φ κ μ)) = [] := by
  cases x <;> simp [leafEvents, takenFrom]

@[simp] theorem givenTo_leafEvents :
    givenTo k' (leafEvents k x evs : List (StarEvent ε φ κ μ)) =
      onLink k' (x.map fun x => (k, x)).toList := by
  cases x with
  | none => simp [leafEvents, givenTo]
  | some x => by_cases hk : k = k' <;> simp [leafEvents, givenTo, onLink, hk]

theorem onLink_map (xs : List μ) :
    onLink k' (xs.map fun x => (k, x)) = if k = k' then xs else [] := by
  induction xs with
  | nil => simp
  | cons x xs ih =>
    have hcons : (x :: xs).map (fun x => (k, x)) = [(k, x)] ++ xs.map fun x => (k, x) := rfl
    rw [hcons, onLink_append, ih, onLink_singleton]
    by_cases hk : k = k' <;> simp [hk]

theorem putBy_leafEvents :
    putBy w k' (leafEvents k x evs) =
      onLink k' ((evs.filterMap w.leafPuts).map fun x => (k, x)) := by
  rw [putBy, leafTrace_leafEvents, onLink_map]
  by_cases hk : k = k' <;> simp [hk]

end LeafEvents

end Trace

section Star

variable [DecidableEq κ] [DecidableEq μ] (w : Wiring σ ι ε τ ν φ κ μ)
  (H : TransitionSystem σ ι ε) (L : κ → TransitionSystem τ ν φ)

def star : TransitionSystem (StarState σ τ κ μ) (StarInput ι ν κ) (StarEvent ε φ κ μ) where
  init := ⟨H.init, fun k => (L k).init, fun _ => [], fun _ => []⟩
  step
    | .hub i, s =>
      (popIf w.carries s.up (w.hubTakes s.hub i)).bind fun up =>
        (H.step i s.hub).map fun r =>
          (⟨r.1, s.leaf, up, push s.down (r.2.filterMap w.hubPuts)⟩,
            (w.hubTakes s.hub i).toList.map (fun p => .taken p.1 p.2) ++ r.2.map .hub)
    | .leaf k j, s =>
      (popIf w.carries s.down ((w.leafTakes (s.leaf k) j).map fun x => (k, x))).bind fun down =>
        ((L k).step j (s.leaf k)).map fun r =>
          (⟨s.hub, Function.update s.leaf k r.1,
              push s.up ((r.2.filterMap w.leafPuts).map fun x => (k, x)), down⟩,
            (w.leafTakes (s.leaf k) j).toList.map (.given k) ++ r.2.map (.leaf k))

/-! ### The steps -/

/-- One step of a star. -/
inductive StarStep (s : StarState σ τ κ μ) :
    StarInput ι ν κ → StarState σ τ κ μ → List (StarEvent ε φ κ μ) → Prop
  | hub {i : ι} {h : σ} {up : κ → List μ} {evs : List ε} (hs : H.step i s.hub = some (h, evs))
      (hup : popIf w.carries s.up (w.hubTakes s.hub i) = some up) :
      StarStep s (.hub i) ⟨h, s.leaf, up, push s.down (evs.filterMap w.hubPuts)⟩
        (hubEvents (w.hubTakes s.hub i) evs)
  | leaf {k : κ} {j : ν} {l : τ} {down : κ → List μ} {evs : List φ}
      (hs : (L k).step j (s.leaf k) = some (l, evs))
      (hdown : popIf w.carries s.down ((w.leafTakes (s.leaf k) j).map fun x => (k, x)) =
        some down) :
      StarStep s (.leaf k j) ⟨s.hub, Function.update s.leaf k l,
          push s.up ((evs.filterMap w.leafPuts).map fun x => (k, x)), down⟩
        (leafEvents k (w.leafTakes (s.leaf k) j) evs)

variable {w H L} {C : StarState σ τ κ μ → List (StarEvent ε φ κ μ) → StarInput ι ν κ → Prop}
  {s s' : StarState σ τ κ μ} {i : StarInput ι ν κ} {tr evs : List (StarEvent ε φ κ μ)}

/-- **Inversion**: a step of a star is a step of the hub or of a leaf. -/
theorem step_of_star (h : (star w H L).step i s = some (s', evs)) :
    StarStep w H L s i s' evs := by
  cases i with
  | hub i =>
    obtain ⟨up, hup, h⟩ := Option.bind_eq_some_iff.mp h
    obtain ⟨⟨h', evs'⟩, hs, heq⟩ := Option.map_eq_some_iff.mp h
    obtain ⟨rfl, rfl⟩ := Prod.mk.inj heq
    exact .hub hs hup
  | leaf k j =>
    obtain ⟨down, hdown, h⟩ := Option.bind_eq_some_iff.mp h
    obtain ⟨⟨l, evs'⟩, hs, heq⟩ := Option.map_eq_some_iff.mp h
    obtain ⟨rfl, rfl⟩ := Prod.mk.inj heq
    exact .leaf hs hdown

/-! ### The parts of a run -/

/-- A run of a star is a run of its hub. -/
theorem Run.hub (h : (star w H L).Run C s tr) : H.Reachable s.hub (hubTrace tr) := by
  refine h.invariant (P := fun s tr => H.Reachable s.hub (hubTrace tr)) ?_ ?_
  · exact Run.init
  · intro s s' tr evs i _ _ hs ih
    rw [hubTrace_append]
    cases step_of_star hs with
    | hub hs' hup =>
      rw [hubTrace_hubEvents]
      exact Run.step ih trivial hs'
    | leaf hs' hdown =>
      rw [hubTrace_leafEvents, List.append_nil]
      exact ih

/-- A run of a star is a run of each leaf, under the conditions on its inputs. -/
theorem Run.leaf {D : κ → ν → Prop} (h : (star w H L).Run C s tr)
    (hD : ∀ s tr k j, C s tr (.leaf k j) → D k j) (k : κ) :
    (L k).Run (fun _ _ j => D k j) (s.leaf k) (leafTrace k tr) := by
  refine h.invariant (P := fun s tr =>
    (L k).Run (fun _ _ j => D k j) (s.leaf k) (leafTrace k tr)) Run.init ?_
  intro s s' tr evs i _ hguard hs ih
  rw [leafTrace_append]
  cases step_of_star hs with
  | hub hs' hup =>
    rw [leafTrace_hubEvents, List.append_nil]
    exact ih
  | @leaf k' j l down evs hs' hdown =>
    rw [leafTrace_leafEvents]
    dsimp only
    by_cases hk : k' = k
    · subst hk
      rw [if_pos rfl, Function.update_self]
      exact Run.step ih (hD _ _ _ _ hguard) hs'
    · rw [if_neg hk, List.append_nil, Function.update_of_ne (Ne.symm hk)]
      exact ih

/-- The links of a star: what was put on a link was taken from it or is still on it. -/
structure Links (w : Wiring σ ι ε τ ν φ κ μ) (s : StarState σ τ κ μ)
    (tr : List (StarEvent ε φ κ μ)) : Prop where
  up : ∀ k, putBy w k tr = takenFrom k tr ++ s.up k
  down : ∀ k, putFor w k tr = givenTo k tr ++ s.down k

/-- **What is read from a link is what was written to it**, in the order in which it was written. -/
theorem links (h : (star w H L).Run C s tr) : Links w s tr := by
  refine h.invariant (P := fun s tr => Links w s tr) ⟨fun k => rfl, fun k => rfl⟩ ?_
  intro s s' tr evs i _ _ hs ih
  cases step_of_star hs with
  | @hub i h' up evs hs' hup =>
    obtain ⟨hq, -⟩ := popIf_eq_some hup
    constructor
    · intro k
      have hnone : putBy w k (hubEvents (w.hubTakes s.hub i) evs) = [] := by
        rw [putBy, leafTrace_hubEvents]
        rfl
      rw [putBy_append, hnone, List.append_nil, takenFrom_append, takenFrom_hubEvents, ih.up k,
        hq k, List.append_assoc]
    · intro k
      have hput : putFor w k (hubEvents (w.hubTakes s.hub i) evs) =
          onLink k (evs.filterMap w.hubPuts) := by
        rw [putFor, hubTrace_hubEvents]
      rw [putFor_append, hput, givenTo_append, givenTo_hubEvents, List.append_nil, ih.down k,
        List.append_assoc]
      rfl
  | @leaf k' j l down evs hs' hdown =>
    obtain ⟨hq, -⟩ := popIf_eq_some hdown
    constructor
    · intro k
      rw [putBy_append, putBy_leafEvents, takenFrom_append, takenFrom_leafEvents, List.append_nil,
        ih.up k, List.append_assoc]
      rfl
    · intro k
      have hnone : putFor w k (leafEvents k' (w.leafTakes (s.leaf k') j) evs) = [] := by
        rw [putFor, hubTrace_leafEvents]
        rfl
      rw [putFor_append, hnone, List.append_nil, givenTo_append, givenTo_leafEvents, ih.down k,
        hq k, List.append_assoc]

theorem takenFrom_initial (h : (star w H L).Run C s tr) (k : κ) :
    takenFrom k tr <+: putBy w k tr := ⟨s.up k, ((links h).up k).symm⟩

theorem givenTo_initial (h : (star w H L).Run C s tr) (k : κ) :
    givenTo k tr <+: putFor w k tr := ⟨s.down k, ((links h).down k).symm⟩

/-- Only what the links carry is read from them. -/
theorem carries_of_taken (h : (star w H L).Run C s tr) (k : κ) :
    ∀ x ∈ takenFrom k tr, w.carries x = true := by
  refine h.invariant (P := fun _ tr => ∀ x ∈ takenFrom k tr, w.carries x = true)
    (fun _ hx => by cases hx) ?_
  intro s s' tr evs i _ _ hs ih x hx
  rw [takenFrom_append] at hx
  rcases List.mem_append.mp hx with hold | hnew
  · exact ih x hold
  · cases step_of_star hs with
    | hub hs' hup =>
      rw [takenFrom_hubEvents, mem_onLink, Option.mem_toList] at hnew
      exact (popIf_eq_some hup).2 (k, x) hnew
    | leaf hs' hdown =>
      rw [takenFrom_leafEvents] at hnew
      cases hnew

/-- A leaf takes what the hub has put on its link before, and what the links carry. -/
theorem mem_putFor_of_takes (h : (star w H L).Run C s tr) {k : κ} {j : ν} {x : μ}
    (hs : (star w H L).step (.leaf k j) s = some (s', evs))
    (hx : w.leafTakes (s.leaf k) j = some x) : x ∈ putFor w k tr ∧ w.carries x = true := by
  cases step_of_star hs with
  | leaf hs' hdown =>
    rw [hx] at hdown
    obtain ⟨hq, hcarries⟩ := popIf_eq_some hdown
    refine ⟨?_, hcarries (k, x) rfl⟩
    rw [(links h).down k, hq k]
    simp [onLink]

end Star

end TransitionSystem
