import Responsive.Tier

/-!
# Sets of tiers

A set of tiers as a byte of flags. Six bits of the byte name no tier; a set read from text may carry
them, and they are kept, so that reading and writing lose nothing.
-/

set_option autoImplicit false
set_option relaxedAutoImplicit false

namespace Responsive

/-- A set of tiers, with the six unnamed bits of its byte. -/
structure TierSet where
  tablet : Bool := false
  mobile : Bool := false
  unnamed : Fin 64 := 0
deriving DecidableEq, Repr, Inhabited

namespace TierSet

instance : EmptyCollection TierSet where
  emptyCollection := {}

/-- The set that holds one tier. -/
def single : Tier → TierSet
  | .tablet => { tablet := true }
  | .mobile => { mobile := true }

/-- Whether a tier is in the set. -/
def contains (s : TierSet) : Tier → Bool
  | .tablet => s.tablet
  | .mobile => s.mobile

instance : Membership Tier TierSet where
  mem s t := s.contains t = true

instance (t : Tier) (s : TierSet) : Decidable (t ∈ s) :=
  inferInstanceAs (Decidable (s.contains t = true))

/-- The set with one more tier. -/
def insert (s : TierSet) : Tier → TierSet
  | .tablet => { s with tablet := true }
  | .mobile => { s with mobile := true }

/-- The set of all tiers that satisfy a test. -/
def filter (keep : Tier → Bool) : TierSet where
  tablet := keep .tablet
  mobile := keep .mobile

/-- No bit at all is set. -/
def isEmpty (s : TierSet) : Bool :=
  !s.tablet && !s.mobile && s.unnamed == 0

/-- Every tier is in the set; the unnamed bits do not matter. -/
def isFull (s : TierSet) : Bool :=
  s.tablet && s.mobile

/-- The tiers of the set, the wider one first. -/
def toList (s : TierSet) : List Tier :=
  Tier.all.filter s.contains

/-- The byte: bit 0 for the tablet, bit 1 for the mobile, the unnamed bits above. -/
def bits (s : TierSet) : Nat :=
  s.tablet.toNat + 2 * s.mobile.toNat + 4 * s.unnamed.val

/-- The set with the given bits; a bit beyond the byte is dropped. -/
def ofBits (n : Nat) : TierSet where
  tablet := n.testBit 0
  mobile := n.testBit 1
  unnamed := ⟨n / 4 % 64, Nat.mod_lt _ (by decide)⟩

/-- The union of two sets. -/
def union (s t : TierSet) : TierSet where
  tablet := s.tablet || t.tablet
  mobile := s.mobile || t.mobile
  unnamed := s.unnamed ||| t.unnamed

@[simp] theorem contains_filter (keep : Tier → Bool) (t : Tier) :
    (filter keep).contains t = keep t := by
  cases t <;> rfl

@[simp] theorem mem_filter {keep : Tier → Bool} {t : Tier} : t ∈ filter keep ↔ keep t = true := by
  simp [Membership.mem]

@[simp] theorem contains_insert (s : TierSet) (t u : Tier) :
    (s.insert t).contains u = (decide (u = t) || s.contains u) := by
  cases t <;> cases u <;> rfl

theorem ofBits_bits (s : TierSet) : ofBits s.bits = s := by
  obtain ⟨tablet, mobile, unnamed⟩ := s
  revert unnamed
  cases tablet <;> cases mobile <;> decide

end TierSet

end Responsive
