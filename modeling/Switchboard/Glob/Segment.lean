namespace Switchboard.Glob

/-!
# Patterns for one name

In a pattern `*` stands for any run of characters, also none, `?` for exactly one, and every
other character for itself.  `Fits` says so, and scanning a name decides it.
-/

/-- One sign of a pattern. -/
inductive Piece where
  | run
  | one
  | exactly (char : Char)
  deriving Repr, DecidableEq

/-- The sign that a character of a pattern is. -/
def Piece.ofChar (char : Char) : Piece :=
  if char = '*' then .run else if char = '?' then .one else .exactly char

/-- The signs of a pattern. -/
def pieces (pattern : String) : List Piece :=
  pattern.toList.map Piece.ofChar

/-- The name can be cut into consecutive parts, one for each sign of the pattern. -/
inductive Fits : List Piece → List Char → Prop where
  | nil : Fits [] []
  | run {rest : List Piece} {name : List Char} (part : List Char) :
      Fits rest name → Fits (.run :: rest) (part ++ name)
  | one {rest : List Piece} {name : List Char} (char : Char) :
      Fits rest name → Fits (.one :: rest) (char :: name)
  | exactly {rest : List Piece} {name : List Char} (char : Char) :
      Fits rest name → Fits (.exactly char :: rest) (char :: name)

/-- A sign that stands for one character takes this one. -/
inductive Piece.Takes : Piece → Char → Prop where
  | one (char : Char) : Takes .one char
  | exactly (char : Char) : Takes (.exactly char) char

/-- Whether a pattern has a sign that stands for more than itself. -/
def hasWildcard (pattern : String) : Bool :=
  pattern.toList.any fun char => char = '*' || char = '?'

end Switchboard.Glob
