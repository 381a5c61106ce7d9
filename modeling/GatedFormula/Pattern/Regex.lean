/-
  Regular expressions after reading: flags are resolved, so a leaf is a set of characters or a condition
  on a place in the text.
  - `Regex` is the tree, `Condition` a test of a place.
  - `Regex.simplified` drops trivial repetitions.
  - `Regex.cost` estimates what a regular expression takes when it runs; there is a limit on it.
-/
import GatedFormula.Number.Power
import GatedFormula.Text.Case

namespace GatedFormula

/-- A test of a place between characters. -/
inductive Condition where
  | textStart
  | textEnd
  /-- After a line feed, or also after a carriage return that no line feed follows. -/
  | lineStart (carriageReturns : Bool)
  | lineEnd (carriageReturns : Bool)
  /-- Between a word character and another or the text's end; `ascii` words hold ASCII characters only. -/
  | boundary (ascii : Bool)
  | noBoundary (ascii : Bool)
  | wordStart (ascii : Bool)
  | wordEnd (ascii : Bool)
  | halfWordStart (ascii : Bool)
  | halfWordEnd (ascii : Bool)
  deriving Repr, DecidableEq, Inhabited

/-- A regular expression. -/
inductive Regex where
  | empty
  /-- One character of a set. -/
  | one (set : CharSet)
  | condition (c : Condition)
  /-- A group that is captured under a number. -/
  | capture (index : Nat) (body : Regex)
  /-- A group that only brackets. -/
  | bracket (body : Regex)
  /-- At least `min` and at most `max` times; a greedy repetition prefers more. -/
  | repetition (body : Regex) (min : Nat) (max : Option Nat) (greedy : Bool)
  | concat (parts : List Regex)
  | either (branches : List Regex)
  deriving Repr, Inhabited

namespace Regex

mutual
/-- The length of the longest match, none if there is no bound. -/
def longest? : Regex → Option Nat
  | .empty | .condition _ => some 0
  | .one _ => some 1
  | .capture _ body | .bracket body => longest? body
  | .repetition body _ max _ =>
    match longest? body, max with
    | some 0, _ => some 0
    | some n, some k => some (n * k)
    | _, some 0 => some 0
    | _, _ => none
  | .concat parts => longestSum? parts
  | .either branches => longestMax? branches

/-- The sum of the longest lengths. -/
def longestSum? : List Regex → Option Nat
  | [] => some 0
  | r :: rest =>
    match longest? r, longestSum? rest with
    | some m, some n => some (m + n)
    | _, _ => none

/-- The largest of the longest lengths. -/
def longestMax? : List Regex → Option Nat
  | [] => some 0
  | r :: rest =>
    match longest? r, longestMax? rest with
    | some m, some n => some (max m n)
    | _, _ => none
end

mutual
/-- May it match without taking a character? -/
def nullable : Regex → Bool
  | .empty | .condition _ => true
  | .one _ => false
  | .capture _ body | .bracket body => nullable body
  | .repetition body min _ _ => min == 0 || nullable body
  | .concat parts => allNullable parts
  | .either branches => anyNullable branches

/-- May all parts match without taking a character? -/
def allNullable : List Regex → Bool
  | [] => true
  | r :: rest => nullable r && allNullable rest

/-- May one of the branches match without taking a character? -/
def anyNullable : List Regex → Bool
  | [] => false
  | r :: rest => nullable r || anyNullable rest
end

mutual
/-- How deep groups, repetitions, sequences and choices are nested. -/
def depth : Regex → Nat
  | .empty | .one _ | .condition _ => 0
  | .capture _ body | .bracket body | .repetition body _ _ _ => depth body + 1
  | .concat parts => depthMax parts + 1
  | .either branches => depthMax branches + 1

/-- The largest depth. -/
def depthMax : List Regex → Nat
  | [] => 0
  | r :: rest => max (depth r) (depthMax rest)
end

/-- What a run of code points costs: the more, the longer the encodings it reaches over. -/
def runCost (lo hi : Nat) : Nat :=
  let reaching := fun (first last cost : Nat) => if lo ≤ last ∧ first ≤ hi then cost else 0
  reaching 0 0x7f 8 + reaching 0x80 0x7ff 40 + reaching 0x800 0xffff 60 + reaching 0x10000 0x10ffff 80

/-- What a set of characters costs. A single character costs one unit for each byte of its encoding. -/
def setCost (s : CharSet) : Nat :=
  match s.runs with
  | [(lo, hi)] => if lo = hi then 32 * (Char.ofNat lo).utf8Size else 64 + runCost lo hi
  | runs => runs.foldl (fun n r => n + runCost r.1 r.2) 64

mutual
/-- What it costs to run, in bytes; a step takes 32 of them and a fork eight more. -/
def cost : Regex → Nat
  | .empty | .condition _ => 32
  | .one s => setCost s
  | .capture _ body => cost body + 64
  | .bracket body => cost body
  | .repetition body min max _ =>
    match max with
    | some max => cost body * max + 40 * (max - min) + 32
    | none => cost body * Nat.max 1 min + 40
  | .concat parts => costSum parts
  | .either branches => costSum branches + 64

/-- The sum of costs. -/
def costSum : List Regex → Nat
  | [] => 0
  | r :: rest => cost r + costSum rest
end

/-- The cost above which a regular expression is refused. -/
def costLimit : Nat := 10 * twoTo 20

/-- The depth above which a regular expression is refused. -/
def depthLimit : Nat := 250

mutual
/-- The same without trivial repetitions: what never takes a character repeats once at most, nothing
repeats zero times, and what repeats exactly once stands alone. -/
def simplified : Regex → Regex
  | .empty => .empty
  | .one s => .one s
  | .condition c => .condition c
  | .capture i body => .capture i (simplified body)
  | .bracket body => simplified body
  | .repetition body min max greedy =>
    let sub := simplified body
    let (min, max) :=
      if longest? sub = some 0 then (Nat.min min 1, some ((max.map (Nat.min · 1)).getD 1)) else (min, max)
    if min = 0 ∧ max = some 0 then .empty
    else if min = 1 ∧ max = some 1 then sub
    else .repetition sub min max greedy
  | .concat parts => .concat (simplifiedAll parts)
  | .either branches => .either (simplifiedAll branches)

/-- Simplifies each. -/
def simplifiedAll : List Regex → List Regex
  | [] => []
  | r :: rest => simplified r :: simplifiedAll rest
end

mutual
/-- The largest number of a captured group. -/
def lastCapture : Regex → Nat
  | .empty | .one _ | .condition _ => 0
  | .capture i body => max i (lastCapture body)
  | .bracket body | .repetition body _ _ _ => lastCapture body
  | .concat parts => lastCaptureOf parts
  | .either branches => lastCaptureOf branches

/-- The largest number of a captured group in any. -/
def lastCaptureOf : List Regex → Nat
  | [] => 0
  | r :: rest => max (lastCapture r) (lastCaptureOf rest)
end

mutual
/-- Is a group of this number captured? -/
def captures (n : Nat) : Regex → Bool
  | .empty | .one _ | .condition _ => false
  | .capture i body => i == n || captures n body
  | .bracket body | .repetition body _ _ _ => captures n body
  | .concat parts => capturesIn n parts
  | .either branches => capturesIn n branches

/-- Does any of them capture a group of this number? -/
def capturesIn (n : Nat) : List Regex → Bool
  | [] => false
  | r :: rest => captures n r || capturesIn n rest
end

end Regex

end GatedFormula
