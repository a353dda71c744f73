import Responsive.Text.Decimal
import Responsive.Text.Quoted

/-!
# Filter chains

An ordered list of named transformations of a value, each of which also sees a context. Lower
priorities run first, and equal priorities keep the order of registration.
-/

set_option autoImplicit false
set_option relaxedAutoImplicit false

namespace Responsive

/-- A transformation of `α` in the context `γ`, with its place in the order. -/
structure Filter (α γ : Type) where
  priority : Int
  name : String
  run : γ → α → α

/-- The registered filters, in the order in which they run. -/
structure FilterChain (α γ : Type) where
  filters : List (Filter α γ) := []

/-- The priority of a filter that asks for none. -/
def defaultPriority : Int := 10

namespace FilterChain

variable {α γ : Type}

instance : EmptyCollection (FilterChain α γ) where
  emptyCollection := {}

instance : Inhabited (FilterChain α γ) := ⟨∅⟩

/-- Registers a filter behind every filter of the same or a lower priority. -/
def add (chain : FilterChain α γ) (f : Filter α γ) : FilterChain α γ where
  filters :=
    let early (g : Filter α γ) := decide (g.priority ≤ f.priority)
    chain.filters.takeWhile early ++ f :: chain.filters.dropWhile early

/-- Whether some filter is registered under that name. -/
def contains (chain : FilterChain α γ) (name : String) : Bool :=
  chain.filters.any (·.name == name)

/-- Drops every filter registered under that name. -/
def remove (chain : FilterChain α γ) (name : String) : FilterChain α γ where
  filters := chain.filters.filter (·.name != name)

/-- Sends a value through all filters in order. -/
def apply (chain : FilterChain α γ) (context : γ) (value : α) : α :=
  chain.filters.foldl (fun value f ↦ f.run context value) value

/-- Priorities and names in running order. -/
def entries (chain : FilterChain α γ) : List (Int × String) :=
  chain.filters.map fun f ↦ (f.priority, f.name)

/-- The entries as one line of text, for diagnosis. -/
def describe (chain : FilterChain α γ) : String :=
  let entry (e : Int × String) : String :=
    "(" ++ .ofList (Text.decimal e.1) ++ ", " ++ Text.quoted e.2 ++ ")"
  "[" ++ ", ".intercalate (chain.entries.map entry) ++ "]"

/-- The number of registered filters. -/
def size (chain : FilterChain α γ) : Nat :=
  chain.filters.length

@[simp] theorem apply_empty (context : γ) (value : α) :
    (∅ : FilterChain α γ).apply context value = value := rfl

theorem filters_remove (chain : FilterChain α γ) (name : String) :
    (chain.remove name).filters = chain.filters.filter (·.name != name) := rfl

end FilterChain

end Responsive
