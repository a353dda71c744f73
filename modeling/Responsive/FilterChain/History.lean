import Responsive.FilterChain

/-!
# Changes of filter chains

Filters are added to a chain and removed from it by their name. A name may be taken several times; a
removal drops all filters of its name, and answers whether there was one.
-/

set_option autoImplicit false
set_option relaxedAutoImplicit false

namespace Responsive.FilterChain

/-- A change of a chain. -/
inductive Change (α γ : Type)
  | add (f : Filter α γ)
  | remove (name : String)

variable {α γ : Type}

/-- Makes a change. A removal answers whether it leaves another number of filters than before. -/
def change (chain : FilterChain α γ) : Change α γ → Option Bool × FilterChain α γ
  | .add f => (none, chain.add f)
  | .remove name =>
    let left := chain.remove name
    (some (chain.size != left.size), left)

/-- Makes changes one after the other. -/
def changeAll (chain : FilterChain α γ) (changes : List (Change α γ)) : FilterChain α γ :=
  changes.foldl (fun chain c ↦ (chain.change c).2) chain

end Responsive.FilterChain
