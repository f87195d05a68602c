import Mathlib.Data.List.AList
import Mathlib.Data.List.Nodup
import Mathlib.Logic.Function.Basic
import Mathlib.Tactic.Common

/-!
# Maps of futures

A request that waits for an answer puts a future into a map, under the key by which its answer will
be recognised.  `FutureMap κ ρ α ε` is such a map together with the futures: the keys are `κ`, a
future is named by its request `r : ρ`, `α` is a result and `ε` an exception.

Unlike the channels of a `PendingMap`, a future lives on without the map: an entry that is taken away
and not settled leaves its future pending.  To settle a future twice is an error (`invalidState`).

`Watched key t r` says that the future of `r` is done, or can still be reached through the map, under
the key of `r`.  `Once future evs` says that the futures settled in `evs` are done, and none was
settled twice.  `Quiet t t'` says that no entry and no result is new, which is so of every operation
but `insert` and `resolve`.
-/

/-- A future; it may be cancelled by whoever waits for it. -/
inductive Future (α ε : Type*)
  | pending
  | result (a : α)
  | exception (e : ε)
  | cancelled

namespace Future

variable {α ε : Type*}

def done : Future α ε → Bool
  | .pending => false
  | _ => true

/-- A future that is done stays as it is. -/
def cancel : Future α ε → Future α ε
  | .pending => .cancelled
  | f => f

theorem done_cancel (f : Future α ε) : f.cancel.done = true := by
  cases f <;> rfl

end Future

/-- What is done to a future: it is settled, or an attempt to settle it fails since it is done. -/
inductive FutureEvent (ρ : Type*)
  | settled (r : ρ)
  | invalidState (r : ρ)
deriving DecidableEq

/-- The settled future, if there is one. -/
def FutureEvent.settled? {ρ : Type*} : FutureEvent ρ → Option ρ
  | .settled r => some r
  | .invalidState _ => none

/-- The futures that were settled, in order. -/
def settled {ρ : Type*} (evs : List (FutureEvent ρ)) : List ρ := evs.filterMap FutureEvent.settled?

/-- The entries of the map, and the futures of all requests. -/
structure FutureMap (κ ρ α ε : Type*) where
  entries : AList fun _ : κ => ρ
  future : ρ → Future α ε

namespace FutureMap

variable {κ ρ α ε : Type*} [DecidableEq κ] [DecidableEq ρ]

/-- No request has been made. -/
def empty : FutureMap κ ρ α ε := ⟨∅, fun _ => .pending⟩

/-- Put the future of `r` under `k`. -/
def insert (t : FutureMap κ ρ α ε) (k : κ) (r : ρ) : FutureMap κ ρ α ε :=
  { t with entries := t.entries.insert k r }

/-- Take an entry away. -/
def discard (t : FutureMap κ ρ α ε) (k : κ) : FutureMap κ ρ α ε :=
  { t with entries := t.entries.erase k }

/-- `r` no longer waits. -/
def cancel (t : FutureMap κ ρ α ε) (r : ρ) : FutureMap κ ρ α ε :=
  { t with future := Function.update t.future r (t.future r).cancel }

/-- Give a future its result or its exception. -/
def settle (future : ρ → Future α ε) (r : ρ) (f : Future α ε) :
    (ρ → Future α ε) × List (FutureEvent ρ) :=
  if (future r).done then (future, [.invalidState r])
  else (Function.update future r f, [.settled r])

/-- The same for a future that may be done. -/
def settleUndone (future : ρ → Future α ε) (r : ρ) (f : Future α ε) :
    (ρ → Future α ε) × List (FutureEvent ρ) :=
  if !(future r).done then settle future r f else (future, [])

/-- Take the entry under `k` away and settle its future with `a`. -/
def resolve (t : FutureMap κ ρ α ε) (k : κ) (a : α) :
    Option (FutureMap κ ρ α ε × List (FutureEvent ρ)) :=
  (t.entries.lookup k).map fun r =>
    let o := settleUndone t.future r (.result a)
    (⟨t.entries.erase k, o.1⟩, o.2)

/-- Settle the futures of a list with an exception, one after the other. -/
def settleEach (e : ε) : List ρ → (ρ → Future α ε) → (ρ → Future α ε) × List (FutureEvent ρ)
  | [], future => (future, [])
  | r :: rs, future =>
    let first := settleUndone future r (.exception e)
    let rest := settleEach e rs first.1
    (rest.1, first.2 ++ rest.2)

/-- Settle all futures of the map with an exception, and empty it. -/
def failAll (t : FutureMap κ ρ α ε) (e : ε) : FutureMap κ ρ α ε × List (FutureEvent ρ) :=
  let o := settleEach e (t.entries.entries.map Sigma.snd) t.future
  (⟨∅, o.1⟩, o.2)

/-! ### Settling -/

section Settle

variable {future : ρ → Future α ε} {q r : ρ} {f : Future α ε} {e : ε}

omit [DecidableEq κ]

theorem settleUndone_of_done (h : (future r).done = true) :
    settleUndone future r f = (future, []) := by
  simp only [settleUndone, h, Bool.not_true, Bool.false_eq_true, if_false]

theorem settleUndone_of_pending (h : (future r).done = false) :
    settleUndone future r f = (Function.update future r f, [.settled r]) := by
  simp only [settleUndone, settle, h, Bool.not_false, if_true, Bool.false_eq_true, if_false]

theorem done_settleUndone_self (hf : f.done = true) :
    ((settleUndone future r f).1 r).done = true := by
  cases h : (future r).done with
  | true =>
    rw [settleUndone_of_done h]
    exact h
  | false =>
    rw [settleUndone_of_pending h]
    dsimp only
    rw [Function.update_self]
    exact hf

/-- A future that is done is left alone. -/
theorem settleUndone_of_ne_or_done (h : q ≠ r ∨ (future q).done = true) :
    (settleUndone future r f).1 q = future q := by
  cases hr : (future r).done with
  | true => rw [settleUndone_of_done hr]
  | false =>
    rw [settleUndone_of_pending hr]
    refine Function.update_of_ne ?_ ..
    rintro rfl
    rcases h with h | h
    · exact h rfl
    · rw [h] at hr
      cases hr

theorem done_settleUndone (hq : (future q).done = true) :
    ((settleUndone future r f).1 q).done = true := by
  rw [settleUndone_of_ne_or_done (Or.inr hq)]
  exact hq

theorem done_settleEach (rs : List ρ) :
    ∀ {future : ρ → Future α ε}, q ∈ rs ∨ (future q).done = true →
      ((settleEach e rs future).1 q).done = true := by
  induction rs with
  | nil =>
    intro future h
    exact h.resolve_left List.not_mem_nil
  | cons r rs ih =>
    intro future h
    refine ih ?_
    rcases h with h | h
    · rcases List.mem_cons.mp h with rfl | h
      · exact Or.inr (done_settleUndone_self rfl)
      · exact Or.inl h
    · exact Or.inr (done_settleUndone h)

end Settle

/-! ### Futures that are settled once -/

omit [DecidableEq κ] [DecidableEq ρ] in
/-- No future is settled twice, and the settled ones are done. -/
def Once (future : ρ → Future α ε) (evs : List (FutureEvent ρ)) : Prop :=
  (∀ r, FutureEvent.invalidState r ∉ evs) ∧ (settled evs).Nodup ∧
    ∀ r ∈ settled evs, (future r).done = true

section Once

variable {future future' : ρ → Future α ε} {evs evs' : List (FutureEvent ρ)} {r : ρ}

omit [DecidableEq κ]

omit [DecidableEq ρ] in
theorem once_nil : Once future ([] : List (FutureEvent ρ)) :=
  ⟨fun _ => List.not_mem_nil, List.nodup_nil, fun _ h => absurd h List.not_mem_nil⟩

omit [DecidableEq ρ] in
/-- More futures are done. -/
theorem Once.mono (h : Once future evs)
    (hdone : ∀ r, (future r).done = true → (future' r).done = true) : Once future' evs :=
  ⟨h.1, h.2.1, fun r hr => hdone r (h.2.2 r hr)⟩

omit [DecidableEq ρ] in
theorem settled_append (evs evs' : List (FutureEvent ρ)) :
    settled (evs ++ evs') = settled evs ++ settled evs' := List.filterMap_append

theorem Once.settleUndone {f : Future α ε} (h : Once future evs) (hf : f.done = true) :
    Once (settleUndone future r f).1 (evs ++ (settleUndone future r f).2) := by
  cases hr : (future r).done with
  | true =>
    rw [settleUndone_of_done hr, List.append_nil]
    exact h
  | false =>
    have hnew : r ∉ settled evs := by
      intro hmem
      rw [h.2.2 r hmem] at hr
      cases hr
    refine ⟨fun q hq => ?_, ?_, fun q hq => ?_⟩
    · rw [settleUndone_of_pending hr] at hq
      rcases List.mem_append.mp hq with hq | hq
      · exact h.1 q hq
      · simp at hq
    · rw [settleUndone_of_pending hr, settled_append]
      refine List.Nodup.append h.2.1 (List.nodup_singleton r) fun q hq hqr => ?_
      exact hnew (List.mem_singleton.mp hqr ▸ hq)
    · rw [settled_append] at hq
      rcases List.mem_append.mp hq with hq | hq
      · exact done_settleUndone (h.2.2 q hq)
      · rw [settleUndone_of_pending hr] at hq
        rw [List.mem_singleton.mp hq]
        exact done_settleUndone_self hf

theorem Once.settleEach {e : ε} (rs : List ρ) :
    ∀ {future : ρ → Future α ε} {evs : List (FutureEvent ρ)}, Once future evs →
      Once (settleEach e rs future).1 (evs ++ (settleEach e rs future).2) := by
  induction rs with
  | nil =>
    intro future evs h
    simpa [FutureMap.settleEach] using h
  | cons r rs ih =>
    intro future evs h
    simp only [FutureMap.settleEach, ← List.append_assoc]
    exact ih (h.settleUndone rfl)

end Once

/-! ### Futures that can be reached -/

/-- A future is done, or in the map. -/
def Watched (key : ρ → κ) (t : FutureMap κ ρ α ε) (r : ρ) : Prop :=
  (t.future r).done = true ∨ t.entries.lookup (key r) = some r

section Watched

variable {key : ρ → κ} {t t' : FutureMap κ ρ α ε} {k : κ} {q r : ρ} {evs evs' : List (FutureEvent ρ)}

omit [DecidableEq ρ] in
theorem Watched.insert (h : Watched key t q ∨ q = r) (hkey : Function.Injective key) :
    Watched key (t.insert (key r) r) q := by
  by_cases hq : q = r
  · subst hq
    exact Or.inr (AList.lookup_insert _)
  · rcases h with h | h
    · refine h.imp_right fun hlookup => ?_
      rw [FutureMap.insert, AList.lookup_insert_ne fun heq => hq (hkey heq)]
      exact hlookup
    · exact absurd h hq

omit [DecidableEq ρ] in
/-- An entry that is taken away is its own. -/
theorem Watched.discard (h : Watched key t q) (hq : key q ≠ k) : Watched key (t.discard k) q := by
  refine h.imp_right fun hlookup => ?_
  rw [FutureMap.discard, AList.lookup_erase_ne hq]
  exact hlookup

omit [DecidableEq κ] in
theorem done_cancel_self : ((t.cancel r).future r).done = true := by
  dsimp only [FutureMap.cancel]
  rw [Function.update_self]
  exact Future.done_cancel _

omit [DecidableEq κ] in
theorem done_cancel (h : (t.future q).done = true) : ((t.cancel r).future q).done = true := by
  by_cases hq : q = r
  · subst hq
    exact done_cancel_self
  · dsimp only [FutureMap.cancel]
    rw [Function.update_of_ne hq]
    exact h

theorem Watched.cancel (h : Watched key t q) : Watched key (t.cancel r) q :=
  h.imp_left done_cancel

/-- Whoever loses its entry gets its result. -/
theorem Watched.resolve {a : α} (h : Watched key t q) (hs : t.resolve k a = some (t', evs)) :
    Watched key t' q := by
  obtain ⟨r, hlookup, heq⟩ := Option.map_eq_some_iff.mp hs
  cases heq
  rcases h with hdone | hq
  · exact Or.inl (done_settleUndone hdone)
  · by_cases hk : key q = k
    · subst hk
      obtain rfl := Option.some.inj (hlookup.symm.trans hq)
      exact Or.inl (done_settleUndone_self rfl)
    · refine Or.inr ?_
      rw [AList.lookup_erase_ne hk]
      exact hq

theorem Once.resolve {a : α} (h : Once t.future evs) (hs : t.resolve k a = some (t', evs')) :
    Once t'.future (evs ++ evs') := by
  obtain ⟨r, -, heq⟩ := Option.map_eq_some_iff.mp hs
  cases heq
  exact h.settleUndone rfl

/-- When the map is emptied, everybody is served. -/
theorem done_failAll {e : ε} (h : Watched key t q) :
    ((t.failAll e).1.future q).done = true := by
  refine done_settleEach _ ?_
  rcases h with hdone | hq
  · exact Or.inr hdone
  · exact Or.inl (List.mem_map_of_mem (AList.mem_lookup_iff.mp hq))

omit [DecidableEq κ] in
theorem Once.failAll {e : ε} (h : Once t.future evs) :
    Once (t.failAll e).1.future (evs ++ (t.failAll e).2) := h.settleEach _

end Watched

/-! ### Results -/

/-- Nothing is added: every entry and every result was there before.  A future that was done is as
it was. -/
structure Quiet (t t' : FutureMap κ ρ α ε) : Prop where
  entries : ∀ k r, t'.entries.lookup k = some r → t.entries.lookup k = some r
  results : ∀ r a, t'.future r = .result a → t.future r = .result a
  done : ∀ r, (t.future r).done = true → t'.future r = t.future r

section Quiet

variable {t t' t'' : FutureMap κ ρ α ε} {k : κ} {q r : ρ} {a : α} {e : ε}
  {evs : List (FutureEvent ρ)}

omit [DecidableEq ρ] in
theorem Quiet.rfl : Quiet t t := ⟨fun _ _ => id, fun _ _ => id, fun _ _ => Eq.refl _⟩

omit [DecidableEq ρ] in
theorem lookup_of_lookup_erase {k' : κ} (h : (t.entries.erase k).lookup k' = some r) :
    t.entries.lookup k' = some r := by
  by_cases hk : k' = k
  · subst hk
    rw [AList.lookup_erase] at h
    cases h
  · rwa [AList.lookup_erase_ne hk] at h

omit [DecidableEq ρ] in
theorem quiet_discard : Quiet t (t.discard k) :=
  ⟨fun _ _ => lookup_of_lookup_erase, fun _ _ => id, fun _ _ => rfl⟩

theorem quiet_cancel : Quiet t (t.cancel r) := by
  have hcancel : ∀ f : Future α ε, (∀ a, f.cancel = .result a → f = .result a) ∧
      (f.done = true → f.cancel = f) := by
    intro f
    cases f with
    | pending => exact ⟨nofun, nofun⟩
    | _ => exact ⟨fun _ => id, fun _ => rfl⟩
  have hother : ∀ q, q ≠ r → (t.cancel r).future q = t.future q :=
    fun q hq => Function.update_of_ne hq ..
  have hself : (t.cancel r).future r = (t.future r).cancel := Function.update_self ..
  refine ⟨fun _ _ => id, fun q a hq => ?_, fun q hq => ?_⟩
  · by_cases hqr : q = r
    · subst hqr
      rw [hself] at hq
      exact (hcancel _).1 a hq
    · rwa [hother q hqr] at hq
  · by_cases hqr : q = r
    · subst hqr
      rw [hself]
      exact (hcancel _).2 hq
    · exact hother q hqr

omit [DecidableEq κ] in
/-- What settling a future leaves as a result was one before, or is the new one. -/
theorem result_of_settleUndone {future : ρ → Future α ε} {f : Future α ε}
    (h : (settleUndone future r f).1 q = .result a) :
    future q = .result a ∨ q = r ∧ f = .result a := by
  cases hr : (future r).done with
  | true =>
    rw [settleUndone_of_done hr] at h
    exact Or.inl h
  | false =>
    rw [settleUndone_of_pending hr] at h
    dsimp only at h
    by_cases hq : q = r
    · subst hq
      rw [Function.update_self] at h
      exact Or.inr ⟨rfl, h⟩
    · rw [Function.update_of_ne hq] at h
      exact Or.inl h

omit [DecidableEq κ] in
theorem result_of_settleEach (rs : List ρ) :
    ∀ {future : ρ → Future α ε}, (settleEach e rs future).1 q = .result a →
      future q = .result a := by
  induction rs with
  | nil => exact id
  | cons r rs ih =>
    intro future h
    rcases result_of_settleUndone (ih h) with hq | ⟨-, hf⟩
    · exact hq
    · cases hf

omit [DecidableEq κ] in
theorem settleEach_of_done (rs : List ρ) :
    ∀ {future : ρ → Future α ε}, (future q).done = true →
      (settleEach e rs future).1 q = future q := by
  induction rs with
  | nil => exact fun _ => rfl
  | cons r rs ih =>
    intro future hq
    exact (ih (done_settleUndone hq)).trans (settleUndone_of_ne_or_done (Or.inr hq))

theorem quiet_failAll : Quiet t (t.failAll e).1 := by
  refine ⟨fun k r h => ?_, fun _ _ => result_of_settleEach _, fun _ => settleEach_of_done _⟩
  dsimp only [FutureMap.failAll] at h
  rw [AList.lookup_empty] at h
  cases h

omit [DecidableEq ρ] in
theorem lookup_insert_cases {k' : κ} (h : (t.insert k r).entries.lookup k' = some q) :
    k' = k ∧ q = r ∨ t.entries.lookup k' = some q := by
  by_cases hk : k' = k
  · subst hk
    rw [FutureMap.insert, AList.lookup_insert] at h
    exact Or.inl ⟨rfl, (Option.some.inj h).symm⟩
  · rw [FutureMap.insert, AList.lookup_insert_ne hk] at h
    exact Or.inr h

/-- Only the future under the key gets the result. -/
theorem resolve_cases (h : t.resolve k a = some (t', evs)) :
    ∃ r, t.entries.lookup k = some r ∧
      (∀ k' q, t'.entries.lookup k' = some q → t.entries.lookup k' = some q) ∧
      (∀ q b, t'.future q = .result b → t.future q = .result b ∨ q = r ∧ b = a) ∧
      ∀ q, (t.future q).done = true → t'.future q = t.future q := by
  obtain ⟨r, hlookup, heq⟩ := Option.map_eq_some_iff.mp h
  cases heq
  refine ⟨r, hlookup, fun _ _ => lookup_of_lookup_erase, fun q b hq => ?_, fun q hq => ?_⟩
  · rcases result_of_settleUndone hq with hq | ⟨rfl, hf⟩
    · exact Or.inl hq
    · cases hf
      exact Or.inr ⟨rfl, rfl⟩
  · exact settleUndone_of_ne_or_done (Or.inr hq)

/-- A future that waits under the key gets the result. -/
theorem future_resolve (hpending : (t.future r).done = false)
    (hlookup : t.entries.lookup k = some r) :
    ∃ t' evs, t.resolve k a = some (t', evs) ∧ t'.future r = .result a := by
  refine ⟨_, _, by rw [resolve, hlookup]; rfl, ?_⟩
  dsimp only
  rw [settleUndone_of_pending hpending]
  exact Function.update_self ..

end Quiet

end FutureMap
