import Advisory.Pattern.Token

/-!
# Bracketed classes

A class lists characters, ranges, other classes and named sets; what stands side by side is united.
Between two such lists an operator may stand, and operators are carried out from left to right. A
class may be negated as a whole.

The reader keeps a stack of the classes that are open. Each has the list of what stands before it in
the class around it, and the operator that waits for its right side.
-/

namespace Advisory.Pattern

/-! ## Sets with their depth -/

/-- A set and how deep the class that describes it is nested. -/
structure NestedSet where
  set : CharSet
  depth : Nat
deriving Repr

/-- The union of what stands side by side, the last one first. One set alone is not nested for it. -/
def NestedSet.ofUnion : List NestedSet → NestedSet
  | [] => ⟨.empty, 0⟩
  | [s] => s
  | sets => ⟨.unionAll (sets.map (·.set)), 1 + (sets.map (·.depth)).foldl max 0⟩

/-- An operator between two lists of a class. -/
inductive SetOperator where
  | inter
  | diff
  | symmDiff
deriving DecidableEq, Repr

/-- Carries out an operator. Both sides are closed under case first, if case is ignored. -/
def SetOperator.apply (flags : Flags) (op : SetOperator) (left right : NestedSet) : NestedSet :=
  let s := flags.fold left.set
  let t := flags.fold right.set
  let result :=
    match op with
    | inter => CharSet.inter s t
    | diff => CharSet.diff s t
    | symmDiff => CharSet.symmDiff s t
  ⟨result, 1 + max left.depth right.depth⟩

structure OpenClass where
  negated : Bool
  /-- What stands before it in the class around it, the last one first. -/
  before : List NestedSet
  /-- The left side of an operator that has been read. -/
  waiting : Option (NestedSet × SetOperator)
deriving Repr

namespace OpenClass

/-- What the class holds so far, given the list that has been read last. -/
def content (flags : Flags) (c : OpenClass) (union : List NestedSet) : NestedSet :=
  let right := NestedSet.ofUnion union
  match c.waiting with
  | some (left, op) => op.apply flags left right
  | none => right

/-- The set that a class describes when it is closed. -/
def close (flags : Flags) (c : OpenClass) (union : List NestedSet) : Except Fault NestedSet := do
  let inner := c.content flags union
  let s ← flags.complementIf c.negated (flags.fold inner.set)
  return ⟨s, 1 + inner.depth⟩

end OpenClass

/-! ## Items -/

/-- A set that stands in a class by itself. -/
def NestedSet.leaf (s : CharSet) : NestedSet := ⟨s, 0⟩

/-- Takes one character or escape of a class. -/
def readClassPrimitive (flags : Flags) (cs : Chars) : Except Fault (Primitive × Chars) :=
  match cs with
  | [] => throw .unclosedClass
  | c :: r => if c = '\\' then readEscape flags r else return (.literal ⟨c, false⟩, r)

/-- A character that stands in a class. Matched by byte, it has to be ASCII. -/
def classLiteral (flags : Flags) (l : Literal) : Except Fault Char :=
  if !flags.unicode && l.char.toNat > 0x7F then throw .splitsCharacters else return l.char

/-- The set that a character or escape stands for in a class. -/
def Primitive.inClass (flags : Flags) : Primitive → Except Fault CharSet
  | literal l => return .single (← classLiteral flags l)
  | set s => return s
  | look _ => throw .notASet

/-- The character at one end of a range. -/
def Primitive.rangeEnd (flags : Flags) : Primitive → Except Fault Char
  | literal l => classLiteral flags l
  | _ => throw .badRange

/-- Reads the second half of a range. -/
def readRangeEnd (flags : Flags) (first : Primitive) (cs : Chars) :
    Except Fault (CharSet × Chars) := do
  let (last, rest) ← readClassPrimitive flags (flags.skip cs)
  let a ← first.rangeEnd flags
  let b ← last.rangeEnd flags
  if a ≤ b then return (.range a b, rest) else throw .badRange

/-- Reads what makes a character or escape a range, if a dash and more follow. A dash begins the second
half of a range unless the class ends behind it or it is the first of two. -/
def readRange (flags : Flags) (first : Primitive) (cs : Chars) : Except Fault (CharSet × Chars) := do
  match after? '-' cs with
  | some r =>
    if flags.next? r = some ']' ∨ flags.next? r = some '-' then return (← first.inClass flags, cs)
    else readRangeEnd flags first r
  | none =>
    if cs = [] then throw .unclosedClass else return (← first.inClass flags, cs)

/-- Reads one character, escape or range. -/
def readClassItem (flags : Flags) (cs : Chars) : Except Fault (CharSet × Chars) := do
  let (first, rest) ← readClassPrimitive flags cs
  readRange flags first (flags.skip rest)

/-- Takes the sign of negation, if it comes next. -/
def takeNegation (cs : Chars) : Bool × Chars :=
  match after? '^' cs with
  | some r => (true, r)
  | none => (false, cs)

/-- Reads an ASCII class by name, if there is one behind the opening bracket. -/
def readNamedClass? (flags : Flags) (cs : Chars) : Option (Except Fault CharSet × Chars) := do
  let (negated, r) := takeNegation (← after? ':' cs)
  let rest ← after? ']' (← after? ':' (r.dropWhile (· ≠ ':')))
  let s ← CharSet.named? (String.ofList (r.takeWhile (· ≠ ':')))
  return (flags.complementIf negated (flags.fold s), rest)

/-- Reads a sign of negation and passes over what does not count behind it. -/
def readNegation (flags : Flags) (cs : Chars) : Except Fault (Bool × Chars) :=
  return ((takeNegation cs).1, flags.skip (takeNegation cs).2)

/-- Reads the dashes at the beginning of a class, which stand for themselves. The number bounds how
many there can be. -/
def readDashes (flags : Flags) :
    Nat → List NestedSet → Chars → Except Fault (List NestedSet × Chars)
  | 0, union, cs => return (union, cs)
  | n + 1, union, cs =>
    match after? '-' cs with
    | some r => readDashes flags n (.leaf (.single '-') :: union) (flags.skip r)
    | none => return (union, cs)

/-- Reads a closing bracket that stands for itself because nothing stands before it. -/
def readFirstBracket (flags : Flags) (union : List NestedSet) (cs : Chars) :
    Except Fault (List NestedSet × Chars) :=
  match union with
  | [] =>
    match after? ']' cs with
    | some r => return ([.leaf (.single ']')], flags.skip r)
    | none => return ([], cs)
  | _ :: _ => return (union, cs)

/-- Reads what stands for itself at the beginning of a class. -/
def readFirstItems (flags : Flags) (cs : Chars) : Except Fault (List NestedSet × Chars) := do
  let (dashes, cs) ← readDashes flags cs.length [] cs
  let (union, cs) ← readFirstBracket flags dashes cs
  if cs = [] then throw .unclosedClass else return (union, cs)

/-- Reads the beginning of a class behind its bracket: a sign of negation, dashes, and a closing
bracket that stands for itself because it comes first. -/
def readClassStart (flags : Flags) (cs : Chars) :
    Except Fault ((Bool × List NestedSet) × Chars) := do
  let (negated, rest) ← readNegation flags (flags.skip cs)
  let (union, rest) ← readFirstItems flags rest
  return ((negated, union), rest)

/-! ## Classes -/

/-- The operator with a sign. -/
def SetOperator.ofSign? : Char → Option SetOperator
  | '&' => some inter
  | '-' => some diff
  | '~' => some symmDiff
  | _ => none

/-- Takes an operator, if one comes next: its sign, twice. -/
def takeOperator? : Chars → Option (SetOperator × Chars)
  | c :: d :: r => if c = d then (SetOperator.ofSign? c).map (·, r) else none
  | _ => none

/-- Reads on in a class: `current` is the innermost open one, `around` are the others, and `union` is
what stands in it since the last operator. The number bounds the steps; each takes a character. -/
def readClassRest (flags : Flags) :
    Nat → OpenClass → List OpenClass → List NestedSet → Chars →
      Except Fault (NestedSet × Chars)
  | 0, _, _, _, _ => throw .unclosedClass
  | n + 1, current, around, union, cs =>
    match flags.skip cs with
    | [] => throw .unclosedClass
    | c :: r =>
      if c = '[' then
        match readNamedClass? flags r with
        | some (s, rest) => do
          readClassRest flags n current around (.leaf (← s) :: union) rest
        | none => do
          let ((negated, inner), rest) ← readClassStart flags r
          readClassRest flags n ⟨negated, union, none⟩ (current :: around) inner rest
      else if c = ']' then do
        let closed ← current.close flags union
        match around with
        | [] => return (closed, r)
        | outer :: others => readClassRest flags n outer others (closed :: current.before) r
      else
        match takeOperator? (c :: r) with
        | some (op, rest) =>
          let left := current.content flags union
          readClassRest flags n { current with waiting := some (left, op) } around [] rest
        | none => do
          let (s, rest) ← readClassItem flags (c :: r)
          readClassRest flags n current around (.leaf s :: union) rest

def readClass (flags : Flags) (cs : Chars) : Except Fault (NestedSet × Chars) := do
  let ((negated, union), rest) ← readClassStart flags cs
  readClassRest flags (rest.length + 1) ⟨negated, [], none⟩ [] union rest

end Advisory.Pattern
