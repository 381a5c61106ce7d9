/-
  Programs for matching.
  - `Step` is one instruction, `Program.ofRegex` compiles a regular expression into steps, from its
    end to its start, so that every part knows the step that follows it.
  - `Program.find?` runs a program from a place on: it keeps the ways that a match may go on in the order
    of preference, moves all of them over one character at a time, and never keeps two ways at one step.
    So the match found is the leftmost one, and of these the preferred one.
-/
import GatedFormula.Pattern.Regex

namespace GatedFormula

/-- One instruction; numbers are those of the steps that follow. -/
inductive Step where
  /-- Takes one character of a set. -/
  | take (set : CharSet) (next : Nat)
  | test (c : Condition) (next : Nat)
  /-- Notes the place in a slot. -/
  | note (slot : Nat) (next : Nat)
  /-- Goes on in two ways, the first one preferred. -/
  | fork (first second : Nat)
  | accept
  deriving Repr, Inhabited

/-- Steps and the one to start with. A group of number `n` has the slots `2 n` and `2 n + 1`. -/
structure Program where
  steps : Array Step
  start : Nat
  slots : Nat
  deriving Repr, Inhabited

/-- A match: the places where it starts and ends, and those of its groups, the whole match included. -/
structure Match where
  start : Nat
  stop : Nat
  groups : List (Option (Nat × Nat))
  deriving Repr, DecidableEq, Inhabited

namespace Program

/-! ## Compiling -/

/-- Adds a step; the result is its number. -/
def emit (steps : Array Step) (s : Step) : Nat × Array Step := (steps.size, steps.push s)

/-- Goes on in two ways, the preferred one first. -/
def fork (greedy : Bool) (more less : Nat) : Step := if greedy then .fork more less else .fork less more

/-- Compiles `count` copies in a row. -/
def copies (body : Nat → Array Step → Nat × Array Step) :
    Nat → Nat → Array Step → Nat × Array Step
  | 0, next, steps => (next, steps)
  | count + 1, next, steps =>
    let (entry, steps) := body next steps
    copies body count entry steps

/-- Compiles up to `count` copies, each within the one before it; `done` follows all of them. -/
def nested (body : Nat → Array Step → Nat × Array Step) (greedy : Bool) (done : Nat) :
    Nat → Array Step → Nat × Array Step
  | 0, steps => (done, steps)
  | count + 1, steps =>
    let (inner, steps) := nested body greedy done count steps
    let (entry, steps) := body inner steps
    emit steps (fork greedy entry done)

/-- Compiles one or more copies: after each one, the fork decides on another. The results are the
first copy and the fork. -/
def looped (body : Nat → Array Step → Nat × Array Step) (greedy : Bool) (next : Nat)
    (steps : Array Step) : Nat × Nat × Array Step :=
  let (again, steps) := emit steps .accept
  let (entry, steps) := body again steps
  (entry, again, steps.setIfInBounds again (fork greedy entry next))

/-- Compiles a repetition. Where the body may match nothing, none or more copies are compiled as an
optional run of one or more, which keeps the order of preference. -/
def repeated (body : Nat → Array Step → Nat × Array Step) (nullable : Bool) (min : Nat)
    (max : Option Nat) (greedy : Bool) (next : Nat) (steps : Array Step) : Nat × Array Step :=
  match max with
  | some max =>
    let (entry, steps) := nested body greedy next (max - min) steps
    copies body min entry steps
  | none =>
    let (entry, again, steps) := looped body greedy next steps
    if min = 0 then
      if nullable then emit steps (fork greedy entry next) else (again, steps)
    else copies body (min - 1) entry steps

mutual
/-- Compiles a regular expression that the step `next` follows; the result is its first step. -/
def compile : Regex → Nat → Array Step → Nat × Array Step
  | .empty, next, steps => (next, steps)
  | .one s, next, steps => emit steps (.take s next)
  | .condition c, next, steps => emit steps (.test c next)
  | .capture i body, next, steps =>
    let (stop, steps) := emit steps (.note (2 * i + 1) next)
    let (entry, steps) := compile body stop steps
    emit steps (.note (2 * i) entry)
  | .bracket body, next, steps => compile body next steps
  | .repetition body min max greedy, next, steps =>
    repeated (compile body) body.nullable min max greedy next steps
  | .concat parts, next, steps => compileAll parts next steps
  | .either branches, next, steps => compileEither branches next steps

/-- Compiles parts that follow each other. -/
def compileAll : List Regex → Nat → Array Step → Nat × Array Step
  | [], next, steps => (next, steps)
  | r :: rest, next, steps =>
    let (entry, steps) := compileAll rest next steps
    compile r entry steps

/-- Compiles branches, the first one preferred. -/
def compileEither : List Regex → Nat → Array Step → Nat × Array Step
  | [], next, steps => (next, steps)
  | [r], next, steps => compile r next steps
  | r :: rest, next, steps =>
    let (second, steps) := compileEither rest next steps
    let (first, steps) := compile r next steps
    emit steps (.fork first second)
end

/-- The program of a regular expression, which notes the whole match as group zero. -/
def ofRegex (r : Regex) : Program :=
  let (start, steps) := compile (.capture 0 r) 0 #[.accept]
  ⟨steps, start, 2 * (r.lastCapture + 1)⟩

/-! ## Conditions -/

/-- Is the character at a place one of words? -/
def wordAt (ascii : Bool) (text : Array Char) (place : Nat) : Bool :=
  match text[place]? with
  | none => false
  | some c => if ascii then c.isAlphanum || c == '_' else Text.wordCharacters.contains c

/-- Is the character before a place one of words? -/
def wordBefore (ascii : Bool) (text : Array Char) (place : Nat) : Bool :=
  place != 0 && wordAt ascii text (place - 1)

/-- Does a condition hold at a place? -/
def holdsAt (text : Array Char) (place : Nat) : Condition → Bool
  | .textStart => place == 0
  | .textEnd => place == text.size
  | .lineStart returns =>
    place == 0 || text[place - 1]? == some '\n' ||
      (returns && text[place - 1]? == some '\r' && text[place]? != some '\n')
  | .lineEnd returns =>
    place == text.size ||
      if returns then
        text[place]? == some '\r' ||
          (text[place]? == some '\n' && (place == 0 || text[place - 1]? != some '\r'))
      else text[place]? == some '\n'
  | .boundary ascii => wordBefore ascii text place != wordAt ascii text place
  | .noBoundary ascii => wordBefore ascii text place == wordAt ascii text place
  | .wordStart ascii => !wordBefore ascii text place && wordAt ascii text place
  | .wordEnd ascii => wordBefore ascii text place && !wordAt ascii text place
  | .halfWordStart ascii => !wordBefore ascii text place
  | .halfWordEnd ascii => !wordAt ascii text place

/-! ## Running -/

/-- A way a match may go on: the step it waits at and the places noted so far. -/
structure Way where
  step : Nat
  slots : Array (Option Nat)

/-- The ways at one place, in the order of preference, last one first, and the steps already met there. -/
structure Ways where
  ways : List Way
  met : Array Bool

/-- No ways. -/
def Ways.none (p : Program) : Ways := ⟨[], Array.replicate p.steps.size false⟩

/-- Follows the steps that take no character, from the ways still to be followed on, first one first.
A step met before is not followed again, so each step adds at most two ways to follow. -/
def follow (p : Program) (text : Array Char) (place : Nat) : (fuel : Nat) → List Way → Ways → Ways
  | 0, _, found => found
  | _ + 1, [], found => found
  | fuel + 1, w :: todo, found =>
    if found.met.getD w.step true then follow p text place fuel todo found
    else
      let found := { found with met := found.met.setIfInBounds w.step true }
      match p.steps[w.step]? with
      | none => follow p text place fuel todo found
      | some (.test c next) =>
        if holdsAt text place c then follow p text place fuel ({ w with step := next } :: todo) found
        else follow p text place fuel todo found
      | some (.note slot next) =>
        follow p text place fuel (⟨next, w.slots.setIfInBounds slot (some place)⟩ :: todo) found
      | some (.fork first second) =>
        follow p text place fuel ({ w with step := first } :: { w with step := second } :: todo) found
      | some (.take ..) | some .accept => follow p text place fuel todo { found with ways := w :: found.ways }

/-- Adds the ways that a way leads to at a place. Each step is met once and adds at most two. -/
def Ways.add (p : Program) (text : Array Char) (place : Nat) (w : Way) (found : Ways) : Ways :=
  follow p text place (2 * p.steps.size + 2) [w] found

/-- Moves ways over the character at a place, the preferred one first. The ways after one that accepts
are given up; the places noted by that one are the second result. -/
def advance (p : Program) (text : Array Char) (place : Nat) :
    List Way → Ways → Ways × Option (Array (Option Nat))
  | [], moved => (moved, .none)
  | w :: rest, moved =>
    match p.steps[w.step]? with
    | some .accept => (moved, some w.slots)
    | some (.take s next) =>
      match text[place]? with
      | some c =>
        if s.contains c then advance p text place rest (moved.add p text (place + 1) { w with step := next })
        else advance p text place rest moved
      | none => advance p text place rest moved
    | _ => advance p text place rest moved

/-- Runs from a place on, with `left` places to come. As long as nothing has matched, a new way starts
at every place, with the least preference. -/
def runFrom (p : Program) (text : Array Char) (place : Nat) (now : Ways)
    (best : Option (Array (Option Nat))) : (left : Nat) → Option (Array (Option Nat))
  | 0 => best
  | left + 1 =>
    let now := if best.isNone then now.add p text place ⟨p.start, Array.replicate p.slots .none⟩ else now
    if now.ways.isEmpty && best.isSome then best
    else
      let (moved, accepted) := advance p text place now.ways.reverse (Ways.none p)
      runFrom p text (place + 1) moved (accepted <|> best) left

/-- The places of group `n`. -/
def groupOf (slots : Array (Option Nat)) (n : Nat) : Option (Nat × Nat) :=
  match slots[2 * n]?, slots[2 * n + 1]? with
  | some (some a), some (some b) => some (a, b)
  | _, _ => none

/-- The leftmost match from a place on. -/
def find? (p : Program) (text : Array Char) (place : Nat) : Option Match :=
  if text.size < place then none
  else do
    let slots ← runFrom p text place (Ways.none p) none (text.size + 1 - place)
    let (start, stop) ← groupOf slots 0
    some ⟨start, stop, (List.range (p.slots / 2)).map (groupOf slots)⟩

/-- All matches from a place on, apart from each other. An empty match right after the match before it
does not count; the search goes on one character later. -/
def findAllFrom (p : Program) (text : Array Char) (last : Option Nat) (place : Nat) :
    (fuel : Nat) → List Match
  | 0 => []
  | fuel + 1 =>
    match p.find? text place with
    | none => []
    | some m =>
      if m.start = m.stop ∧ last = some m.stop then
        match p.find? text (place + 1) with
        | none => []
        | some m => m :: findAllFrom p text (some m.stop) m.stop fuel
      else m :: findAllFrom p text (some m.stop) m.stop fuel

/-- All matches. After two matches at least one character has been passed. -/
def findAll (p : Program) (text : Array Char) : List Match :=
  findAllFrom p text none 0 (2 * text.size + 2)

end Program

end GatedFormula
