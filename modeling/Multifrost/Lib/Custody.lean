import Mathlib.Tactic.Common

/-!
# Resources that pass through a slot

Parties acquire resources, hand them over through a slot that has room for one, and close them.  A
`Custody τ π` is what matters of a state of such a system: which resources there are, which of them
are closed, which one is in the slot and which ones a party has in hand.

`Owned` says that no resource is lost.  A step keeps it if every resource that was in the slot or in
a hand is afterwards closed, in the slot, or in a hand (`Owned.step`).
-/

structure Custody (τ π : Type*) where
  acquired : τ → Prop
  closed : τ → Prop
  slot : Option τ
  holds : π → τ → Prop

namespace Custody

variable {τ π : Type*} {c c' : Custody τ π}

/-- A resource is closed, in the slot, or in a hand. -/
def Kept (c : Custody τ π) (t : τ) : Prop := c.closed t ∨ c.slot = some t ∨ ∃ p, c.holds p t

/-- No resource is lost. -/
def Owned (c : Custody τ π) : Prop := ∀ t, c.acquired t → c.Kept t

theorem Owned.step (h : c.Owned) (hacquired : ∀ t, c'.acquired t → c.acquired t ∨ c'.Kept t)
    (hclosed : ∀ t, c.closed t → c'.closed t) (hslot : ∀ t, c.slot = some t → c'.Kept t)
    (hholds : ∀ p t, c.holds p t → c'.Kept t) : c'.Owned := by
  intro t ht
  rcases hacquired t ht with hold | hkept
  · rcases h t hold with hclosed' | hslot' | ⟨p, hp⟩
    · exact Or.inl (hclosed t hclosed')
    · exact hslot t hslot'
    · exact hholds p t hp
  · exact hkept

/-- When every hand is empty, what is open is in the slot. -/
theorem Owned.of_idle (h : c.Owned) (hidle : ∀ p t, ¬ c.holds p t) {t : τ} (ht : c.acquired t) :
    c.closed t ∨ c.slot = some t := by
  rcases h t ht with hclosed | hslot | ⟨p, hp⟩
  · exact Or.inl hclosed
  · exact Or.inr hslot
  · exact absurd hp (hidle p t)

/-- When the slot is empty, what is open is in a hand. -/
theorem Owned.of_slot_eq_none (h : c.Owned) (hslot : c.slot = none) {t : τ} (ht : c.acquired t) :
    c.closed t ∨ ∃ p, c.holds p t := by
  rcases h t ht with hclosed | hsome | hholds
  · exact Or.inl hclosed
  · rw [hslot] at hsome
    cases hsome
  · exact Or.inr hholds

end Custody
