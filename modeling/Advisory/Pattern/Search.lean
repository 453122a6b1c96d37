import Advisory.Pattern.Regex

/-!
# Searching a text

All matches of an expression are followed at once. A set of places is a natural number whose binary
digits say which places are in it, and an expression maps the places where a match may begin to those
where it may end. An atom becomes a number, too, before the search begins: the places from which it
leads on, and whether it leads to the same place or to the next.

A repetition adds places until none is new. A text of `n` characters has `n + 1` places, so that many
rounds are enough, and the search ends whatever the expression.
-/

namespace Advisory.Pattern

/-- A set of places: place `i` is in it if binary digit `i` is one. -/
abbrev Places := Nat

namespace Places

/-- The places up to `n` that satisfy a condition. -/
def upTo (n : Nat) (p : Nat → Bool) : Places :=
  (List.range (n + 1)).foldl (fun s i => if p i then s ||| 1 <<< i else s) 0

end Places

/-- An atom as it is for one text. -/
inductive Move where
  /-- On to the next place from each of some places. -/
  | advance (places : Places)
  /-- Nowhere else, and only at some places. -/
  | stay (places : Places)
deriving DecidableEq, Repr

/-- The places that a move leads to. -/
def Move.apply (s : Places) : Move → Places
  | advance places => (s &&& places) <<< 1
  | stay places => s &&& places

/-- What an atom does in a text. -/
def Atom.move (text : Array Char) : Atom → Move
  | char s => .advance (Places.upTo text.size fun i => text[i]?.any fun c => s.mem c)
  | look l => .stay (Places.upTo text.size (l.holds text))

/-- Applies a step a number of times, but stops as soon as it changes nothing. -/
def times (step : Places → Places) : Nat → Places → Places
  | 0, s => s
  | n + 1, s =>
    let s' := step s
    if s' = s then s else times step n s'

/-- Adds to `reached` what a step leads to, a number of times or until nothing is new. -/
def spread (step : Places → Places) : Nat → Places → Places
  | 0, reached => reached
  | n + 1, reached =>
    let reached' := reached ||| step reached
    if reached' = reached then reached else spread step n reached'

/-- The places where a match may end, given those where it may begin. -/
def Regex.ends (rounds : Nat) : Regex Move → Places → Places
  | empty, s => s
  | atom m, s => m.apply s
  | seq r t, s => t.ends rounds (r.ends rounds s)
  | alt r t, s => r.ends rounds s ||| t.ends rounds s
  | repeated r min max, s =>
    let start := times (r.ends rounds) min s
    spread (r.ends rounds) ((max.map (· - min)).getD rounds) start

/-- Whether an expression matches some stretch of a text. -/
def Regex.occursIn (r : Regex Atom) (s : String) : Bool :=
  let text := s.toList.toArray
  let everywhere := Places.upTo text.size fun _ => true
  (r.map (Atom.move text)).ends (text.size + 1) everywhere ≠ 0

end Advisory.Pattern
