import Mathlib.Data.Rat.Defs

/-!
# Texts built from literals and values

A formatted string is kept as the pieces it is built from: literal text, and the numbers and
instants written into it. How a number prints is left open; which numbers a text carries is not.
-/

namespace TradeResearch

abbrev Time := ℚ

inductive Piece where
  | str (s : String)
  | num (q : ℚ)
  | time (t : Time)
  /-- The first `n` characters of a text. -/
  | cut (n : Nat) (t : List Piece)

abbrev Text := List Piece

namespace Text

def lit (s : String) : Text := if s = "" then [] else [.str s]

def num (q : ℚ) : Text := [.num q]

def num? : Option ℚ → Text
  | some q => num q
  | none => lit "None"

def time? : Option Time → Text
  | some t => [.time t]
  | none => lit "None"

def take (n : Nat) (t : Text) : Text := if t.isEmpty then [] else [.cut n t]

def orElse (t other : Text) : Text := if t.isEmpty then other else t

def join (separator : String) (texts : List Text) : Text :=
  (texts.intersperse (lit separator)).flatten

end Text

def commaList (names : List String) : String := String.intercalate ", " names

def nameOrEmpty (name : Option String) : String := name.getD ""

end TradeResearch
