import Responsive.ErrorEnum.Token

/-!
# Angle brackets

Between angle brackets stand the arguments of a type, separated by commas, lifetimes and others in
any order. In the canonical order lifetimes come first. Every argument keeps the comma behind it,
so that a comma can end up at the very end, and one is added where the last lifetime has none.

* `canonicalOrder_of_no_lifetime`: arguments without a lifetime stay as they are.
-/

set_option autoImplicit false
set_option relaxedAutoImplicit false

namespace Responsive.ErrorEnum

/-- The token between arguments. -/
def comma : Token := .punct ","

/-- Whether a token is a comma. -/
def isComma : Token → Bool
  | .punct "," => true
  | _ => false

/-- Cuts tokens at the commas that are not between angle brackets; there is no piece behind a comma
at the very end. -/
def pieces (depth : Nat) : List Token → List (List Token)
  | [] => []
  | .punct "," :: rest =>
    if depth = 0 then [] :: pieces 0 rest
    else extend (.punct ",") (pieces depth rest)
  | .punct "<" :: rest => extend (.punct "<") (pieces (depth + 1) rest)
  | .punct ">" :: rest => extend (.punct ">") (pieces (depth - 1) rest)
  | t :: rest => extend t (pieces depth rest)
where
  /-- Puts a token in front of the first piece. -/
  extend (t : Token) : List (List Token) → List (List Token)
    | [] => [[t]]
    | piece :: more => (t :: piece) :: more

/-- Reads up to the angle bracket that closes the current one. -/
def angle? : Nat → List Token → Option (List Token × List Token)
  | _, [] => none
  | 0, .punct ">" :: rest => some ([], rest)
  | depth + 1, .punct ">" :: rest =>
    (angle? depth rest).map fun found ↦ (.punct ">" :: found.1, found.2)
  | depth, .punct "<" :: rest =>
    (angle? (depth + 1) rest).map fun found ↦ (.punct "<" :: found.1, found.2)
  | depth, t :: rest => (angle? depth rest).map fun found ↦ (t :: found.1, found.2)

/-- An argument, and whether a comma follows it. -/
structure Argument where
  tokens : List Token
  endsInComma : Bool
deriving Repr

namespace Argument

/-- The arguments between brackets. -/
def ofTokens (inner : List Token) : List Argument :=
  let found := pieces 0 inner
  let last := inner.getLast?.any isComma
  found.mapIdx fun i tokens ↦ ⟨tokens, i + 1 < found.length || last⟩

/-- The tokens of arguments with their commas. -/
def spelled (arguments : List Argument) : List Token :=
  arguments.flatMap fun a ↦ a.tokens ++ if a.endsInComma then [comma] else []

/-- Whether an argument or a parameter is a lifetime, whose attributes and bounds do not matter. -/
def isLifetime (a : Argument) : Bool :=
  match a.tokens.filter fun | .punct "#" | .group .. => false | _ => true with
  | .lifetime _ :: rest => rest.isEmpty || rest.head?.any fun | .punct ":" => true | _ => false
  | _ => false

/-- The tokens of arguments, lifetimes first. -/
def canonicalOrder (arguments : List Argument) : List Token :=
  let lifetimes := arguments.filter isLifetime
  let others := arguments.filter (!·.isLifetime)
  let gap := if !others.isEmpty && lifetimes.getLast?.any (!·.endsInComma) then [comma] else []
  spelled lifetimes ++ gap ++ spelled others

/-- Arguments without a lifetime stay as they are. -/
theorem canonicalOrder_of_no_lifetime {arguments : List Argument}
    (h : ∀ a ∈ arguments, a.isLifetime = false) : canonicalOrder arguments = spelled arguments := by
  have hl : arguments.filter isLifetime = [] := by
    simpa [List.filter_eq_nil_iff] using h
  have ho : arguments.filter (!·.isLifetime) = arguments := by
    simpa [List.filter_eq_self] using h
  simp [canonicalOrder, hl, ho, spelled]

end Argument

mutual

/-- The number of tokens in a token, itself included. -/
def Token.count : Token → Nat
  | .group _ inner => Token.counts inner + 1
  | _ => 1

/-- The number of tokens in a list of them. -/
def Token.counts : List Token → Nat
  | [] => 0
  | t :: rest => t.count + Token.counts rest

end

/-- Whether a token introduces a list of lifetimes, which stays as it is. -/
def isQuantifier : Token → Bool
  | .word "for" => true
  | _ => false

/-- Tokens with all arguments in canonical order. What stands in attributes and in calls of macros
is not looked into. The fuel bounds the steps. -/
def orderedWithin : Nat → Bool → List Token → List Token
  | 0, _, tokens => tokens
  | fuel + 1, quantified, tokens =>
    match tokens with
    | [] => []
    | .punct "<" :: rest =>
      match angle? 0 rest with
      | none => .punct "<" :: orderedWithin fuel false rest
      | some (inner, behind) =>
        let found := (Argument.ofTokens inner).map fun a ↦
          { a with tokens := orderedWithin fuel false a.tokens }
        let body := if quantified then Argument.spelled found else Argument.canonicalOrder found
        .punct "<" :: body ++ .punct ">" :: orderedWithin fuel false behind
    | .punct "!" :: .group d inner :: rest =>
      .punct "!" :: .group d inner :: orderedWithin fuel false rest
    | .punct "#" :: .group d inner :: rest =>
      .punct "#" :: .group d inner :: orderedWithin fuel false rest
    | .group d inner :: rest =>
      .group d (orderedWithin fuel false inner) :: orderedWithin fuel false rest
    | t :: rest => t :: orderedWithin fuel (isQuantifier t) rest

/-- Tokens with all arguments in canonical order. -/
def ordered (tokens : List Token) : List Token :=
  orderedWithin (Token.counts tokens + 1) false tokens

end Responsive.ErrorEnum
