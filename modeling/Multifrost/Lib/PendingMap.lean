import Mathlib.Data.Finset.Card
import Mathlib.Data.List.AList
import Mathlib.Logic.Function.Basic
import Mathlib.Tactic.Common

/-!
# Maps of pending requests

A request that waits for an answer leaves the sending end of a one-shot channel in a map, under the
key by which its answer will be recognised.  `PendingMap κ ρ α` is such a map together with the
channels: the keys are `κ`, a channel is named by its request `r : ρ`, and `α` is what is sent.

Whoever takes a sender out of the map uses it or drops it.  A channel is opened by `insert` and
filled by `send`; everything else that happens to the map lets it fade (`Oneshot.Fades`).

`Keyed key t` says that the senders are under the keys of their requests.  `Owned key taken t` says
that no sender is lost: the sender of every open channel is in the map, under the key of its
request, or among the senders `taken` out of it.  Every operation keeps both.
-/

/-- A one-shot channel, seen from its receiver.  `closed` is also a channel whose receiver is gone,
or that does not exist yet: nothing can arrive. -/
inductive Oneshot (α : Type*)
  | pending
  | sent (a : α)
  | closed
deriving DecidableEq

namespace Oneshot

variable {α : Type*}

/-- A message is sent once, and only to a receiver that is still there. -/
def send (c : Oneshot α) (a : α) : Oneshot α :=
  match c with
  | .pending => .sent a
  | c => c

/-- The sender goes away; a message that was sent stays. -/
def drop (c : Oneshot α) : Oneshot α :=
  match c with
  | .pending => .closed
  | c => c

theorem send_ne_pending (c : Oneshot α) (a : α) : c.send a ≠ .pending := by
  cases c <;> simp [send]

theorem drop_ne_pending (c : Oneshot α) : c.drop ≠ .pending := by
  cases c <;> simp [drop]

/-- Nothing has happened to a channel, or one of its ends is gone. -/
def Fades (c c' : Oneshot α) : Prop := c' = c ∨ c' = c.drop

theorem Fades.rfl {c : Oneshot α} : c.Fades c := Or.inl (Eq.refl c)

theorem drop_drop (c : Oneshot α) : c.drop.drop = c.drop := by
  cases c <;> simp [drop]

theorem Fades.trans {c₁ c₂ c₃ : Oneshot α} (h : c₁.Fades c₂) (h' : c₂.Fades c₃) : c₁.Fades c₃ := by
  rcases h with rfl | rfl
  · exact h'
  · rcases h' with rfl | rfl
    · exact Or.inr (Eq.refl _)
    · exact Or.inr (drop_drop _)

/-- A channel that fades is not opened by it. -/
theorem Fades.pending {c c' : Oneshot α} (h : c.Fades c') (hc : c' = .pending) : c = .pending := by
  rcases h with rfl | rfl
  · exact hc
  · exact absurd hc (drop_ne_pending c)

theorem Fades.sent {c c' : Oneshot α} {a : α} (h : c.Fades c') (hc : c' = .sent a) :
    c = .sent a := by
  rcases h with rfl | rfl
  · exact hc
  · cases c with
    | pending => cases hc
    | sent b => exact hc
    | closed => cases hc

theorem Fades.closed {c c' : Oneshot α} (h : c.Fades c') (hc : c = .closed) : c' = .closed := by
  subst hc
  rcases h with rfl | rfl <;> exact Eq.refl _

end Oneshot

/-- The senders in the map, and the channels of all requests. -/
structure PendingMap (κ ρ α : Type*) where
  /-- Whose sender is under a key. -/
  entries : AList fun _ : κ => ρ
  /-- The channels. -/
  chan : ρ → Oneshot α

namespace PendingMap

variable {κ ρ α : Type*} [DecidableEq κ]

/-- No request has been made. -/
def empty : PendingMap κ ρ α := ⟨∅, fun _ => .closed⟩

/-- Use a sender. -/
def send [DecidableEq ρ] (t : PendingMap κ ρ α) (r : ρ) (a : α) : PendingMap κ ρ α :=
  { t with chan := Function.update t.chan r ((t.chan r).send a) }

/-- Drop a sender, or the receiver. -/
def drop [DecidableEq ρ] (t : PendingMap κ ρ α) (r : ρ) : PendingMap κ ρ α :=
  { t with chan := Function.update t.chan r (t.chan r).drop }

/-- Take the sender under `k` out of the map. -/
def take (t : PendingMap κ ρ α) (k : κ) : Option (ρ × PendingMap κ ρ α) :=
  (t.entries.lookup k).map fun r => (r, { t with entries := t.entries.erase k })

/-- Take the sender under `k` out of the map and drop it. -/
def remove [DecidableEq ρ] (t : PendingMap κ ρ α) (k : κ) : PendingMap κ ρ α :=
  match t.take k with
  | some (r, t') => t'.drop r
  | none => t

/-- Open the channel of `r` and put its sender under `k`, in the place of one that was there. -/
def insert [DecidableEq ρ] (t : PendingMap κ ρ α) (k : κ) (r : ρ) : PendingMap κ ρ α :=
  let t' := t.remove k
  ⟨t'.entries.insert k r, Function.update t'.chan r .pending⟩

/-- All senders of the map. -/
def senders (t : PendingMap κ ρ α) : List ρ := t.entries.entries.map Sigma.snd

/-- Empty the map; the senders are whoever's that asked for them. -/
def drain (t : PendingMap κ ρ α) : PendingMap κ ρ α := { t with entries := ∅ }

/-! ### Lookups -/

section Lookup

variable {t t' : PendingMap κ ρ α} {k k' : κ} {r r' : ρ}

theorem take_eq_some :
    t.take k = some (r, t') ↔
      t.entries.lookup k = some r ∧ t' = ⟨t.entries.erase k, t.chan⟩ := by
  unfold take
  constructor
  · intro h
    obtain ⟨r', hr, heq⟩ := Option.map_eq_some_iff.mp h
    obtain ⟨rfl, rfl⟩ := Prod.mk.inj heq
    exact ⟨hr, rfl⟩
  · rintro ⟨hr, rfl⟩
    rw [hr]
    rfl

theorem take_eq_none : t.take k = none ↔ t.entries.lookup k = none := Option.map_eq_none_iff

/-- Erasing a key adds no entry. -/
theorem lookup_of_lookup_erase (h : (t.entries.erase k).lookup k' = some r) :
    t.entries.lookup k' = some r := by
  by_cases hk : k' = k
  · subst hk
    rw [AList.lookup_erase] at h
    cases h
  · rwa [AList.lookup_erase_ne hk] at h

theorem lookup_of_lookup_remove [DecidableEq ρ]
    (h : (t.remove k).entries.lookup k' = some r) :
    t.entries.lookup k' = some r := by
  unfold remove at h
  split at h
  · rename_i r' t' heq
    obtain ⟨-, rfl⟩ := take_eq_some.mp heq
    exact lookup_of_lookup_erase h
  · exact h

theorem lookup_remove_self [DecidableEq ρ] : (t.remove k).entries.lookup k = none := by
  unfold remove
  split
  · rename_i r' t' heq
    obtain ⟨-, rfl⟩ := take_eq_some.mp heq
    exact AList.lookup_erase k t.entries
  · rename_i heq
    exact take_eq_none.mp heq

/-- What `insert` leaves under a key is the new sender, or was there before. -/
theorem lookup_of_lookup_insert [DecidableEq ρ]
    (h : (t.insert k r).entries.lookup k' = some r') :
    r' = r ∨ t.entries.lookup k' = some r' := by
  by_cases hk : k' = k
  · subst hk
    left
    rw [insert, AList.lookup_insert] at h
    exact (Option.some.inj h).symm
  · right
    rw [insert, AList.lookup_insert_ne hk] at h
    exact lookup_of_lookup_remove h

theorem mem_senders_of_lookup (h : t.entries.lookup k = some r) : r ∈ t.senders :=
  List.mem_map_of_mem (AList.mem_lookup_iff.mp h)

end Lookup

/-! ### Channels -/

section Chan

variable [DecidableEq ρ] {t : PendingMap κ ρ α} {k : κ} {r q : ρ} {a : α}

omit [DecidableEq κ] in
theorem fades_drop : (t.chan q).Fades ((t.drop r).chan q) := by
  by_cases hq : q = r
  · subst hq
    exact Or.inr (Function.update_self ..)
  · exact Or.inl (Function.update_of_ne hq ..)

theorem fades_remove : (t.chan q).Fades ((t.remove k).chan q) := by
  unfold remove
  split
  · rename_i r' t' heq
    obtain ⟨-, rfl⟩ := take_eq_some.mp heq
    exact fades_drop
  · exact Oneshot.Fades.rfl

theorem chan_insert_self : (t.insert k r).chan r = .pending := Function.update_self ..

theorem fades_insert (hq : q ≠ r) : (t.chan q).Fades ((t.insert k r).chan q) := by
  have hchan : (t.insert k r).chan q = (t.remove k).chan q := Function.update_of_ne hq ..
  rw [hchan]
  exact fades_remove

/-- A sender that is not under the key is not dropped. -/
theorem chan_remove_of_lookup_ne (h : t.entries.lookup k ≠ some q) :
    (t.remove k).chan q = t.chan q := by
  unfold remove
  split
  · rename_i r' t' heq
    obtain ⟨hk, rfl⟩ := take_eq_some.mp heq
    have hq : q ≠ r' := by
      intro hq
      rw [hq] at h
      exact h hk
    exact Function.update_of_ne hq ..
  · rfl

theorem chan_insert_of_lookup_ne (hq : q ≠ r) (h : t.entries.lookup k ≠ some q) :
    (t.insert k r).chan q = t.chan q := by
  have hchan : (t.insert k r).chan q = (t.remove k).chan q := Function.update_of_ne hq ..
  rw [hchan]
  exact chan_remove_of_lookup_ne h

omit [DecidableEq κ] in
theorem chan_drop_of_ne (hq : q ≠ r) : (t.drop r).chan q = t.chan q := Function.update_of_ne hq ..

omit [DecidableEq κ] in
theorem chan_send_of_ne (hq : q ≠ r) : (t.send r a).chan q = t.chan q :=
  Function.update_of_ne hq ..

omit [DecidableEq κ] in
theorem chan_send_self : (t.send r a).chan r = (t.chan r).send a := Function.update_self ..

end Chan

/-! ### Entries under their keys -/

/-- Every sender of the map is under the key of its request. -/
def Keyed (key : ρ → κ) (t : PendingMap κ ρ α) : Prop :=
  ∀ k r, t.entries.lookup k = some r → k = key r

section Keyed

variable {key : ρ → κ} {t t' : PendingMap κ ρ α} {k : κ} {r : ρ}

theorem keyed_empty : Keyed key (empty : PendingMap κ ρ α) := by
  intro k r h
  rw [empty, AList.lookup_empty] at h
  cases h

theorem Keyed.take (h : Keyed key t) (ht : t.take k = some (r, t')) : Keyed key t' := by
  obtain ⟨-, rfl⟩ := take_eq_some.mp ht
  intro k' r' hlookup
  exact h k' r' (lookup_of_lookup_erase hlookup)

theorem Keyed.send [DecidableEq ρ] {a : α} (h : Keyed key t) : Keyed key (t.send r a) := h

theorem Keyed.remove [DecidableEq ρ] (h : Keyed key t) : Keyed key (t.remove k) :=
  fun k' r' hlookup => h k' r' (lookup_of_lookup_remove hlookup)

theorem Keyed.insert [DecidableEq ρ] (h : Keyed key t) : Keyed key (t.insert (key r) r) := by
  intro k' r' hlookup
  by_cases hk : k' = key r
  · subst hk
    rw [PendingMap.insert, AList.lookup_insert] at hlookup
    rw [Option.some.inj hlookup]
  · rw [PendingMap.insert, AList.lookup_insert_ne hk] at hlookup
    exact h k' r' (lookup_of_lookup_remove hlookup)

theorem Keyed.drain : Keyed key t.drain := by
  intro k r h
  rw [PendingMap.drain, AList.lookup_empty] at h
  cases h

/-- A request has one entry at most. -/
theorem Keyed.senders_nodup (h : Keyed key t) : t.senders.Nodup := by
  have hkeys : t.senders.map key = t.entries.keys := by
    unfold senders
    rw [List.map_map]
    refine List.map_congr_left fun e he => ?_
    exact (h e.1 e.2 (AList.mem_lookup_iff.mpr he)).symm
  exact List.Nodup.of_map key (hkeys ▸ t.entries.keys_nodup)

/-- The map is no larger than a set of requests that has all of its senders. -/
theorem Keyed.length_keys_le [DecidableEq ρ] (h : Keyed key t) {requests : Finset ρ}
    (hmem : ∀ k r, t.entries.lookup k = some r → r ∈ requests) :
    t.entries.keys.length ≤ requests.card := by
  have hlength : t.entries.keys.length = t.senders.length := by
    unfold senders AList.keys List.keys
    rw [List.length_map, List.length_map]
  have hsubset : t.senders.toFinset ⊆ requests := by
    intro r hr
    obtain ⟨e, he, rfl⟩ := List.mem_map.mp (List.mem_toFinset.mp hr)
    exact hmem e.1 e.2 (AList.mem_lookup_iff.mpr he)
  calc t.entries.keys.length = t.senders.length := hlength
    _ = t.senders.toFinset.card := (List.toFinset_card_of_nodup h.senders_nodup).symm
    _ ≤ requests.card := Finset.card_le_card hsubset

end Keyed

/-! ### No sender is lost -/

/-- The sender of every open channel is in the map or among `taken`. -/
def Owned (key : ρ → κ) (taken : List ρ) (t : PendingMap κ ρ α) : Prop :=
  ∀ r, t.chan r = .pending → t.entries.lookup (key r) = some r ∨ r ∈ taken

section Owned

variable {key : ρ → κ} {taken : List ρ} {t t' : PendingMap κ ρ α} {k : κ} {r : ρ} {a : α}

theorem owned_empty : Owned key taken (empty : PendingMap κ ρ α) := by
  intro r h
  cases h

/-- The sender of a channel that is no longer open need not be kept. -/
theorem Owned.settle [DecidableEq ρ] {c : Oneshot α} (h : Owned key (r :: taken) t)
    (hc : c ≠ .pending) : Owned key taken ⟨t.entries, Function.update t.chan r c⟩ := by
  intro q hq
  by_cases hqr : q = r
  · subst hqr
    exact absurd ((Function.update_self ..).symm.trans hq) hc
  · have hchan : t.chan q = .pending := (Function.update_of_ne hqr ..).symm.trans hq
    exact (h q hchan).imp_right fun hmem => (List.mem_cons.mp hmem).resolve_left hqr

theorem Owned.send [DecidableEq ρ] (h : Owned key (r :: taken) t) : Owned key taken (t.send r a) :=
  h.settle (Oneshot.send_ne_pending _ _)

theorem Owned.drop [DecidableEq ρ] (h : Owned key (r :: taken) t) : Owned key taken (t.drop r) :=
  h.settle (Oneshot.drop_ne_pending _)

theorem Owned.mono {more : List ρ} (h : Owned key taken t) (hsub : taken ⊆ more) :
    Owned key more t :=
  fun q hq => (h q hq).imp_right fun hmem => hsub hmem

theorem Owned.take (h : Owned key taken t) (ht : t.take k = some (r, t')) :
    Owned key (r :: taken) t' := by
  obtain ⟨hk, rfl⟩ := take_eq_some.mp ht
  intro q hq
  rcases h q hq with hlookup | hmem
  · by_cases hqk : key q = k
    · subst hqk
      right
      rw [Option.some.inj (hlookup.symm.trans hk)]
      exact List.mem_cons_self
    · left
      rw [AList.lookup_erase_ne hqk]
      exact hlookup
  · exact Or.inr (List.mem_cons_of_mem r hmem)

theorem Owned.remove [DecidableEq ρ] (h : Owned key taken t) : Owned key taken (t.remove k) := by
  unfold PendingMap.remove
  split
  · rename_i r t' ht
    exact (h.take ht).drop
  · exact h

theorem Owned.insert [DecidableEq ρ] (h : Owned key taken t) : Owned key taken (t.insert (key r) r) := by
  intro q hq
  by_cases hqr : q = r
  · subst hqr
    left
    exact AList.lookup_insert _
  · have hchan : (t.remove (key r)).chan q = .pending :=
      (Function.update_of_ne hqr ..).symm.trans hq
    rcases h.remove q hchan with hlookup | hmem
    · left
      have hkey : key q ≠ key r := by
        -- `remove` has taken the entry under the key of `r` away
        intro heq
        rw [heq, lookup_remove_self] at hlookup
        cases hlookup
      exact (AList.lookup_insert_ne hkey).trans hlookup
    · exact Or.inr hmem

/-- The senders of a map that is emptied are all taken. -/
theorem Owned.drain (h : Owned key [] t) : Owned key t.senders t.drain := by
  intro q hq
  rcases h q hq with hlookup | hmem
  · exact Or.inr (mem_senders_of_lookup hlookup)
  · cases hmem

end Owned

end PendingMap
