/-!
# Device tiers

The two tiers below the desktop layout, the widths that stylesheets are written with, and the
shorthand queries an author may write in place of a concrete one.
-/

set_option autoImplicit false
set_option relaxedAutoImplicit false

namespace Responsive

/-- A class of devices narrower than the desktop. -/
inductive Tier
  | tablet
  | mobile
deriving DecidableEq, Repr, Inhabited

namespace Tier

/-- Both tiers, the wider one first. -/
def all : List Tier :=
  [tablet, mobile]

/-- The lower-case name of a tier. -/
def name : Tier → String
  | tablet => "tablet"
  | mobile => "mobile"

/-- The pixel width that stylesheets hard-code for a tier. -/
def builtinWidth : Tier → Nat
  | tablet => 1024
  | mobile => 768

/-- The decimal text of the built-in width. -/
def builtinText : Tier → String
  | tablet => "1024"
  | mobile => "768"

/-- The placeholder accepted in place of a concrete media query. -/
def placeholder : Tier → String
  | tablet => "@media tablet"
  | mobile => "@media mobile"

/-- The media query that a placeholder stands for, always at the built-in width. -/
def query : Tier → String
  | tablet => "@media only screen and (max-width: 1024px)"
  | mobile => "@media only screen and (max-width: 768px)"

/-- The tier of that name, in lower case. -/
def ofName? (name : String) : Option Tier :=
  all.find? (·.name == name)

theorem mem_all (t : Tier) : t ∈ all := by
  cases t <;> simp [all]

/-- What the tiers that pass a check yield together. -/
theorem mem_flatMap_all_iff {α : Type} {check : Tier → Prop} [DecidablePred check]
    {yield : Tier → List α} {a : α} :
    a ∈ all.flatMap (fun t ↦ if check t then yield t else []) ↔ ∃ t, check t ∧ a ∈ yield t := by
  rw [List.mem_flatMap]
  constructor
  · rintro ⟨t, -, hmem⟩
    split at hmem
    next hcheck => exact ⟨t, hcheck, hmem⟩
    next => contradiction
  · rintro ⟨t, hcheck, hmem⟩
    exact ⟨t, t.mem_all, by rwa [if_pos hcheck]⟩

theorem ofName?_name (t : Tier) : ofName? t.name = some t := by
  cases t <;> decide

theorem eq_of_name_eq {t u : Tier} (h : t.name = u.name) : t = u := by
  have hname := congrArg ofName? h
  rw [ofName?_name, ofName?_name] at hname
  exact Option.some.inj hname

end Tier

end Responsive
