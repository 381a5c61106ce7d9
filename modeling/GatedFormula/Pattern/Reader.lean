/-
  Reading the source of a pattern.
  - `Modes` are the switches that `(?i)` and the like turn; a group keeps its own.
  - `Reader.escape?` reads what follows a backslash, `Reader.bracket?` a class in brackets.
  - `Reader.step?` reads one item of a sequence; `Regex.ofSource?` repeats it to the end of the source.
  Every reader gives nothing for a source that is not well formed.
-/
import GatedFormula.Pattern.Regex
import GatedFormula.Text.Blank
import GatedFormula.Text.Script
import GatedFormula.Text.Search

namespace GatedFormula

/-- The switches under which a part of a source is read. -/
structure Modes where
  /-- `i`: letters match in disregard of case. -/
  ignoreCase : Bool := false
  /-- `m`: line starts and ends count. -/
  multiline : Bool := false
  /-- `s`: a point takes line feeds too. -/
  pointTakesAll : Bool := false
  /-- `U`: plain repetitions are lazy, marked ones greedy. -/
  swapGreed : Bool := false
  /-- `u`: classes know all characters, not only ASCII. -/
  unicode : Bool := true
  /-- `R`: a carriage return ends a line too. -/
  carriageReturns : Bool := false
  /-- `x`: blanks and comments between items are skipped. -/
  spaced : Bool := false
  deriving Repr, DecidableEq, Inhabited

namespace Modes

/-- Turns the switch of a letter. -/
def turn? (m : Modes) (letter : Char) (on : Bool) : Option Modes :=
  if letter = 'i' then some { m with ignoreCase := on }
  else if letter = 'm' then some { m with multiline := on }
  else if letter = 's' then some { m with pointTakesAll := on }
  else if letter = 'U' then some { m with swapGreed := on }
  else if letter = 'u' then some { m with unicode := on }
  else if letter = 'R' then some { m with carriageReturns := on }
  else if letter = 'x' then some { m with spaced := on }
  else none

end Modes

namespace Reader

/-- Drops blanks and comments; a comment goes from `#` to the end of its line. -/
def dropSpace (inComment : Bool) : List Char → List Char
  | [] => []
  | c :: rest =>
    if inComment then dropSpace (c != '\n') rest
    else if Text.isBlank c then dropSpace false rest
    else if c = '#' then dropSpace true rest
    else c :: rest

/-- What comes next, after the space that the modes let a source hold. -/
def next (m : Modes) (cs : List Char) : List Char := if m.spaced then dropSpace false cs else cs

/-! ## Sets under the modes -/

/-- All characters that classes may speak of: without `u` these are bytes. -/
def allOf (m : Modes) : CharSet := if m.unicode then CharSet.full else CharSet.ofRuns [(0, 0xff)]

/-- The ASCII letters that match a member in disregard of case, and the members. -/
def asciiClosure (s : CharSet) : CharSet :=
  let upper := s.inter (CharSet.range 'A' 'Z')
  let lower := s.inter (CharSet.range 'a' 'z')
  s.union ⟨upper.runs.map (fun r => (r.1 + 32, r.2 + 32)) ++ lower.runs.map fun r => (r.1 - 32, r.2 - 32)⟩

/-- Closes a set under change of case where the modes ask for it. -/
def closed (m : Modes) (s : CharSet) : CharSet :=
  if m.ignoreCase then (if m.unicode then s.caseClosure else asciiClosure s) else s

/-- The characters outside a set. -/
def outside (m : Modes) (s : CharSet) : CharSet := (allOf m).diff s

/-- Closes a set and turns it inside out if it is negated. -/
def finished (m : Modes) (negated : Bool) (s : CharSet) : CharSet :=
  if negated then outside m (closed m s) else closed m s

/-- A set as an item of its own. Without `u` it must be one of whole characters, that is of ASCII. -/
def item? (m : Modes) (s : CharSet) : Option Regex :=
  if m.unicode || s.runs.all fun r => r.2 < 0x80 then some (.one s) else none

/-- One character as an item. -/
def charItem (m : Modes) (c : Char) : Regex := .one (closed m (CharSet.single c))

/-! ## Named sets -/

/-- The ASCII digits. -/
def asciiDigits : CharSet := CharSet.range '0' '9'

/-- The ASCII letters and digits. -/
def asciiAlphanumeric : CharSet :=
  CharSet.ofRuns [('0'.toNat, '9'.toNat), ('A'.toNat, 'Z'.toNat), ('a'.toNat, 'z'.toNat)]

/-- The ASCII characters of words. -/
def asciiWord : CharSet := asciiAlphanumeric.union (CharSet.single '_')

/-- The ASCII blanks. -/
def asciiBlanks : CharSet := CharSet.ofRuns [(9, 13), (32, 32)]

/-- The set of a letter after a backslash: digits, blanks, word characters. -/
def lettered? (m : Modes) (letter : Char) : Option CharSet :=
  if letter = 'd' then some (if m.unicode then Text.Category.decimalDigits else asciiDigits)
  else if letter = 's' then some (if m.unicode then Text.blanks else asciiBlanks)
  else if letter = 'w' then some (if m.unicode then Text.wordCharacters else asciiWord)
  else if letter = 'D' then some (outside m (if m.unicode then Text.Category.decimalDigits else asciiDigits))
  else if letter = 'S' then some (outside m (if m.unicode then Text.blanks else asciiBlanks))
  else if letter = 'W' then some (outside m (if m.unicode then Text.wordCharacters else asciiWord))
  else none

/-- The ASCII class of a name in `[:name:]`. -/
def asciiClass? (name : String) : Option CharSet :=
  let runs := fun rs => some (CharSet.ofRuns rs)
  match name with
  | "alnum" => some asciiAlphanumeric
  | "alpha" => runs [(0x41, 0x5a), (0x61, 0x7a)]
  | "ascii" => runs [(0, 0x7f)]
  | "blank" => runs [(9, 9), (32, 32)]
  | "cntrl" => runs [(0, 0x1f), (0x7f, 0x7f)]
  | "digit" => some asciiDigits
  | "graph" => runs [(0x21, 0x7e)]
  | "lower" => runs [(0x61, 0x7a)]
  | "print" => runs [(0x20, 0x7e)]
  | "punct" => runs [(0x21, 0x2f), (0x3a, 0x40), (0x5b, 0x60), (0x7b, 0x7e)]
  | "space" => some asciiBlanks
  | "upper" => runs [(0x41, 0x5a)]
  | "word" => some asciiWord
  | "xdigit" => runs [(0x30, 0x39), (0x41, 0x46), (0x61, 0x66)]
  | _ => none

/-- A name of a property without what does not count in it: case, separators and a leading `is`. -/
def plainName (name : List Char) : String :=
  let lower := name.map Char.toLower
  let isMarked := lower.take 2 == ['i', 's']
  let body := (if isMarked then lower.drop 2 else lower).filter fun c =>
    c != ' ' && c != '_' && c != '-' && c.toNat < 0x80
  if isMarked && body == ['c'] then "isc" else String.ofList body

/-- The sets of properties by their names. -/
def property? (name : String) : Option CharSet :=
  match name with
  | "alphabetic" | "alpha" => some Text.alphabetic
  | "uppercase" | "upper" => some Text.uppercase
  | "lowercase" | "lower" => some Text.lowercase
  | "whitespace" | "wspace" | "space" => some Text.blanks
  | "cased" => some Text.cased
  | "caseignorable" | "ci" => some Text.caseIgnorable
  | "graphemeextend" | "grext" => some Text.extending
  | "joincontrol" | "joinc" => some Text.joinControls
  | "asciihexdigit" | "ahex" => asciiClass? "xdigit"
  | _ => none

/-- The set of a general category by its name; three names stand for sets that are no categories. -/
def category? (name : String) : Option CharSet :=
  match name with
  | "any" => some CharSet.full
  | "assigned" => some Text.Category.unassigned.complement
  | "ascii" => asciiClass? "ascii"
  | _ => Text.Category.named? name

/-- The set that a name in `\p` stands for: a property, a category or a script. Three short names are
those of categories and of properties alike, and mean the category. -/
def named? (name : String) : Option CharSet :=
  let first := if name = "cf" ∨ name = "sc" ∨ name = "lc" then none else property? name
  first <|> category? name <|> Text.Script.named? name

/-- The set of a property with a value. -/
def valued? (property value : String) : Option CharSet :=
  match property with
  | "gc" | "generalcategory" => category? value
  | "sc" | "script" | "scx" | "scriptextensions" => Text.Script.named? value
  | _ => none

/-- Cuts a list at the first member that passes a test. -/
def cutAt? (test : Char → Bool) (cs : List Char) : Option (List Char × List Char) :=
  match cs.dropWhile fun c => !test c with
  | [] => none
  | _ :: rest => some (cs.takeWhile fun c => !test c, rest)

/-- The set of the text between the braces of `\p`; `!=` negates. -/
def braced? (cs : List Char) : Option (Bool × CharSet) :=
  match Text.first? ['!', '='] cs with
  | some k => (valued? (plainName (cs.take k)) (plainName (cs.drop (k + 2)))).map (true, ·)
  | none =>
    match cutAt? (· == ':') cs <|> cutAt? (· == '=') cs with
    | some (name, value) => (valued? (plainName name) (plainName value)).map (false, ·)
    | none => (named? (plainName cs)).map (false, ·)

/-! ## Escapes -/

/-- What a backslash and the characters after it stand for. -/
inductive Escape where
  | char (c : Char)
  | set (s : CharSet)
  | condition (c : Condition)

/-- The character with a code point. -/
def charOf? (n : Nat) : Option Char := if n.isValidChar then some (Char.ofNat n) else none

/-- A character by its number: two, four or eight hexadecimal digits, or any in braces. Without `u`, two
digits mean a byte, and only an ASCII one is a character. -/
def byNumber? (m : Modes) (width : Nat) (cs : List Char) : Option (Escape × List Char) :=
  match next m cs with
  | '\x7b' :: rest => do
    let (digits, rest) ← cutAt? (· == '\x7d') rest
    let digits := if m.spaced then digits.filter fun c => !Text.isBlank c else digits
    let c ← charOf? (← Text.digits? 16 digits)
    some (.char c, rest)
  | digits => do
    guard (width ≤ digits.length)
    let c ← charOf? (← Text.digits? 16 (digits.take width))
    guard (m.unicode || width != 2 || c.toNat < 0x80)
    some (.char c, digits.drop width)

/-- The set of `\p` or `\P`, by a letter or by a text in braces. -/
def byProperty? (m : Modes) (negated : Bool) (cs : List Char) : Option (Escape × List Char) := do
  guard m.unicode
  match next m cs with
  | '\x7b' :: rest =>
    let (name, rest) ← cutAt? (· == '\x7d') rest
    let (unequal, s) ← braced? name
    some (.set (finished m (negated != unequal) s), rest)
  | c :: rest =>
    guard (c != '\\')
    let s ← named? (plainName [c])
    some (.set (finished m negated s), rest)
  | [] => none

/-- The condition that a name in braces after `\b` asks for. -/
def namedBoundary? (m : Modes) (name : String) : Option Condition :=
  match name with
  | "start" => some (.wordStart !m.unicode)
  | "end" => some (.wordEnd !m.unicode)
  | "start-half" => some (.halfWordStart !m.unicode)
  | "end-half" => some (.halfWordEnd !m.unicode)
  | _ => none

/-- A word boundary. A brace after it opens a name if a letter or a dash follows, else a count. -/
def boundary? (m : Modes) (cs : List Char) : Option (Escape × List Char) :=
  let isNamed : Char → Bool := fun c =>
    ('a' ≤ c && c ≤ 'z') || ('A' ≤ c && c ≤ 'Z') || c == '-'
  match cs with
  | '\x7b' :: rest => do
    match next m rest with
    | [] => none
    | c :: more =>
      if isNamed c then
        let (name, rest) ← cutAt? (fun c => !isNamed c && !(m.spaced && Text.isBlank c)) (c :: more)
        guard ((c :: more).drop name.length |>.head? |> (· == some '\x7d'))
        let kind ← namedBoundary? m (String.ofList (name.filter isNamed))
        some (.condition kind, rest)
      else some (.condition (.boundary !m.unicode), cs)
  | _ => some (.condition (.boundary !m.unicode), cs)

/-- The characters that have a meaning of their own. -/
def hasMeaning (c : Char) : Bool :=
  ['\\', '.', '+', '*', '?', '(', ')', '|', '[', ']', '\x7b', '\x7d', '^', '$', '#', '&', '-', '~'].contains c

/-- May a backslash stand in front of the character to take it literally? -/
def mayEscape (c : Char) : Bool :=
  hasMeaning c || (c.toNat < 0x80 && !c.isAlphanum && c != '<' && c != '>')

/-- Reads what follows a backslash. -/
def escape? (m : Modes) : List Char → Option (Escape × List Char)
  | [] => none
  | c :: rest =>
    match lettered? m c with
    | some s => some (.set s, rest)
    | none =>
      if c = 'x' then byNumber? m 2 rest
      else if c = 'u' then byNumber? m 4 rest
      else if c = 'U' then byNumber? m 8 rest
      else if c = 'p' then byProperty? m false rest
      else if c = 'P' then byProperty? m true rest
      else if mayEscape c then some (.char c, rest)
      else if c = 'a' then some (.char (Char.ofNat 7), rest)
      else if c = 'f' then some (.char (Char.ofNat 12), rest)
      else if c = 't' then some (.char '\t', rest)
      else if c = 'n' then some (.char '\n', rest)
      else if c = 'r' then some (.char '\r', rest)
      else if c = 'v' then some (.char (Char.ofNat 11), rest)
      else if c = 'A' then some (.condition .textStart, rest)
      else if c = 'z' then some (.condition .textEnd, rest)
      else if c = 'b' then boundary? m rest
      else if c = 'B' then some (.condition (.noBoundary !m.unicode), rest)
      else if c = '<' then some (.condition (.wordStart !m.unicode), rest)
      else if c = '>' then some (.condition (.wordEnd !m.unicode), rest)
      else none

/-! ## Classes in brackets -/

/-- An operation between sets in brackets. -/
inductive SetOp where
  | inter
  | diff
  | symmDiff

/-- A class that is open: what its members are so far, and the operation that waits for its right side. -/
structure OpenClass where
  negated : Bool
  runs : List (Nat × Nat)
  pending : Option (SetOp × CharSet)

/-- The members so far, the waiting operation carried out. -/
def OpenClass.settled (m : Modes) (k : OpenClass) : CharSet :=
  let right := CharSet.ofRuns k.runs
  match k.pending with
  | none => right
  | some (.inter, left) => (closed m left).inter (closed m right)
  | some (.diff, left) => (closed m left).diff (closed m right)
  | some (.symmDiff, left) => (closed m left).symmDiff (closed m right)

/-- Adds the members of a set. -/
def OpenClass.add (k : OpenClass) (s : CharSet) : OpenClass := { k with runs := s.runs ++ k.runs }

/-- Carries out the waiting operation and lets another one wait. -/
def OpenClass.operate (m : Modes) (k : OpenClass) (op : SetOp) : OpenClass :=
  { k with runs := [], pending := some (op, k.settled m) }

/-- One member of a class: a character or a set. -/
def member? (m : Modes) : List Char → Option (Escape × List Char)
  | [] => none
  | '\\' :: rest => escape? m rest
  | c :: rest => some (.char c, rest)

/-- Without `u`, a class speaks of ASCII characters only. -/
def memberSet? (m : Modes) : Escape → Option CharSet
  | .char c => if m.unicode || c.toNat < 0x80 then some (CharSet.single c) else none
  | .set s => some s
  | .condition _ => none

/-- A member or a range of members. A dash before a closing bracket or another dash makes no range. -/
def members? (m : Modes) (cs : List Char) : Option (CharSet × List Char) := do
  let (first, rest) ← member? m cs
  let single := (memberSet? m first).map (·, next m rest)
  match next m rest with
  | [] => none
  | '-' :: more =>
    match next m more with
    | [] => none
    | c :: _ =>
      if c = ']' ∨ c = '-' then single
      else
        let (second, rest) ← member? m (next m more)
        match first, second with
        | .char lo, .char hi =>
          guard (lo ≤ hi && (m.unicode || hi.toNat < 0x80))
          some (CharSet.range lo hi, rest)
        | _, _ => none
  | _ => single

/-- A class such as `[:alpha:]` inside brackets. -/
def asciiClassAt? (m : Modes) (cs : List Char) : Option (CharSet × List Char) :=
  match cs with
  | '[' :: ':' :: rest => do
    let (negated, body) := match rest with
      | '^' :: body => (true, body)
      | _ => (false, rest)
    let (name, rest) ← cutAt? (· == ':') body
    match rest with
    | ']' :: rest =>
      let s ← asciiClass? (String.ofList name)
      some (finished m negated s, rest)
    | _ => none
  | _ => none

/-- The dashes in front of a class, which stand for themselves, and the rest. -/
def leadingDashes (m : Modes) : List Char → Nat → List Char × Nat
  | [], n => ([], n)
  | c :: rest, n =>
    if c = '-' then leadingDashes m rest (n + 1)
    else if n > 0 ∧ m.spaced ∧ Text.isBlank c then leadingDashes m rest n
    else (c :: rest, n)

/-- Opens a class after its bracket: a negation, then dashes or one closing bracket that stand for
themselves. -/
def openClass? (m : Modes) (cs : List Char) : Option (OpenClass × List Char) :=
  let (negated, cs) := match next m cs with
    | '^' :: rest => (true, next m rest)
    | cs => (false, cs)
  let (cs, dashes) := leadingDashes m cs 0
  let runs := if dashes = 0 then [] else (CharSet.single '-').runs
  match next m cs with
  | [] => none
  | ']' :: rest =>
    if dashes = 0 then
      if rest = [] then none else some (⟨negated, (CharSet.single ']').runs, none⟩, rest)
    else some (⟨negated, runs, none⟩, ']' :: rest)
  | cs => some (⟨negated, runs, none⟩, cs)

/-- Reads a class in brackets from inside the innermost open one; `outer` are the classes around it. -/
def bracket? (m : Modes) (cs : List Char) (k : OpenClass) (outer : List OpenClass) :
    Option (CharSet × List Char) :=
  let go (rest : List Char) (k : OpenClass) (outer : List OpenClass) :=
    if _h : rest.length < cs.length then bracket? m rest k outer else none
  match next m cs with
  | [] => none
  | '[' :: rest =>
    match asciiClassAt? m ('[' :: rest) with
    | some (s, rest) => go rest (k.add s) outer
    | none => do
      let (inner, rest) ← openClass? m rest
      go rest inner (k :: outer)
  | ']' :: rest =>
    let s := finished m k.negated (k.settled m)
    match outer with
    | [] => some (s, rest)
    | around :: outer => go rest (around.add s) outer
  | '&' :: '&' :: rest => go rest (k.operate m .inter) outer
  | '-' :: '-' :: rest => go rest (k.operate m .diff) outer
  | '~' :: '~' :: rest => go rest (k.operate m .symmDiff) outer
  | cs' => do
    let (s, rest) ← members? m cs'
    go rest (k.add s) outer
termination_by cs.length

/-! ## Sequences and groups -/

/-- A group that is open: what stands before it, and the modes to come back to. -/
structure OpenGroup where
  index : Option Nat
  parts : List Regex
  branches : List Regex
  modes : Modes

/-- What has been read: the parts of the sequence and the branches before it, last ones first, and
the open groups around them. -/
structure Progress where
  rest : List Char
  modes : Modes
  parts : List Regex
  branches : List Regex
  groups : List OpenGroup
  captured : Nat
  names : List (String × Nat)

/-- The parts, last one first, as one regular expression. -/
def sequence (parts : List Regex) : Regex :=
  match parts.reverse with
  | [] => .empty
  | [r] => r
  | rs => .concat rs

/-- The branches and the parts of the last one, all last ones first, as one regular expression. -/
def choice (branches parts : List Regex) : Regex :=
  match branches with
  | [] => sequence parts
  | _ => .either (sequence parts :: branches).reverse

/-- Adds an item to the sequence. -/
def Progress.push (p : Progress) (r : Regex) (rest : List Char) : Progress :=
  { p with parts := r :: p.parts, rest }

/-- Repeats the last item. Nothing in front, or only switches, cannot repeat. -/
def Progress.repeatLast? (p : Progress) (min : Nat) (max : Option Nat) (rest : List Char) : Option Progress :=
  let (marked, rest) := match rest with
    | '?' :: rest => (true, rest)
    | _ => (false, rest)
  match p.parts with
  | [] => none
  | .empty :: _ => none
  | r :: parts =>
    some { p with parts := .repetition r min max (marked == p.modes.swapGreed) :: parts, rest }

/-- A count, with blanks around its digits. -/
def count? (m : Modes) (cs : List Char) : Option (Nat × List Char) := do
  let cs := cs.dropWhile Text.isBlank
  let digits := cs.takeWhile fun c => c.isDigit || (m.spaced && Text.isBlank c)
  let n ← Text.digits? 10 (digits.filter Char.isDigit)
  guard (n < twoTo 32)
  some (n, next m ((cs.drop digits.length).dropWhile Text.isBlank))

/-- Repeats the last item as a count in braces says, read after the opening brace. -/
def Progress.repeatCounted? (p : Progress) (cs : List Char) : Option Progress := do
  let (min, rest) ← count? p.modes (next p.modes cs)
  let close? (max : Option Nat) (rest : List Char) : Option Progress :=
    match rest with
    | '\x7d' :: rest => p.repeatLast? min max (next p.modes rest)
    | _ => none
  match rest with
  | ',' :: rest =>
    match next p.modes rest with
    | '\x7d' :: rest => close? none ('\x7d' :: rest)
    | rest =>
      let (max, rest) ← count? p.modes rest
      guard (min ≤ max)
      close? (some max) rest
  | rest => close? (some min) rest

/-- The letters of switches up to a colon or a closing bracket; after a dash they are turned off. No
letter and no second dash may come twice, and a dash needs a letter after it. -/
def switches? (m : Modes) (seen : List Char) (afterDash : Bool) :
    List Char → Option (Modes × List Char × List Char)
  | [] => none
  | c :: rest =>
    if c = ':' ∨ c = ')' then
      if seen.head? = some '-' then none else some (m, seen, c :: rest)
    else if c ∈ seen then none
    else if c = '-' then switches? m ('-' :: seen) true rest
    else do switches? (← m.turn? c (!afterDash)) (c :: seen) afterDash rest

/-- A name of a group up to its closing bracket: a letter or an underscore first, then also digits,
points and square brackets. -/
def groupName? (cs : List Char) : Option (String × List Char) := do
  let (name, rest) ← cutAt? (· == '>') cs
  let starts := fun c : Char => c == '_' || Text.alphabetic.contains c
  let continues := fun c : Char =>
    starts c || c == '.' || c == '[' || c == ']' || Text.Category.numbers.contains c
  match name with
  | [] => none
  | c :: more => if starts c && more.all continues then some (String.ofList name, rest) else none

/-- Opens a group under the modes `inner`. -/
def Progress.openGroup (p : Progress) (index : Option Nat) (inner : Modes) (rest : List Char) : Progress :=
  { p with
    rest, modes := inner, parts := [], branches := []
    groups := ⟨index, p.parts, p.branches, p.modes⟩ :: p.groups }

/-- Opens a group that is captured under the next number. -/
def Progress.openCapture (p : Progress) (rest : List Char) : Progress :=
  { p.openGroup (some (p.captured + 1)) p.modes rest with captured := p.captured + 1 }

/-- Opens a group that is captured under a name that no other group has. -/
def Progress.openNamed? (p : Progress) (cs : List Char) : Option Progress := do
  let (name, rest) ← groupName? cs
  guard ((p.names.lookup name).isNone)
  some { p.openCapture rest with names := (name, p.captured + 1) :: p.names }

/-- Reads what follows an opening bracket: a name, switches or the group's body. Looking ahead or behind
is not allowed. -/
def Progress.openBracket? (p : Progress) (cs : List Char) : Option Progress :=
  match next p.modes cs with
  | '?' :: '=' :: _ | '?' :: '!' :: _ | '?' :: '<' :: '=' :: _ | '?' :: '<' :: '!' :: _ => none
  | '?' :: 'P' :: '<' :: rest => p.openNamed? rest
  | '?' :: '<' :: rest => p.openNamed? rest
  | '?' :: rest => do
    let (modes, seen, rest) ← switches? p.modes [] false rest
    match rest with
    | ':' :: rest => some (p.openGroup none modes rest)
    | ')' :: rest => if seen = [] then none else some { p.push .empty rest with modes }
    | _ => none
  | rest => some (p.openCapture rest)

/-- Closes the innermost group. -/
def Progress.closeBracket? (p : Progress) (rest : List Char) : Option Progress :=
  match p.groups with
  | [] => none
  | g :: groups =>
    let body := choice p.branches p.parts
    let r := match g.index with
      | some i => Regex.capture i body
      | none => .bracket body
    some { p with rest, modes := g.modes, parts := r :: g.parts, branches := g.branches, groups }

/-- The item of a point. -/
def point? (m : Modes) : Option Regex :=
  if m.unicode then
    let ends := if m.carriageReturns then [(10, 10), (13, 13)] else [(10, 10)]
    some (.one (if m.pointTakesAll then CharSet.full else (CharSet.ofRuns ends).complement))
  else none

/-- Reads one item that begins with the character `c`. -/
def step? (p : Progress) (c : Char) (rest : List Char) : Option Progress :=
  let m := p.modes
  if c = '(' then p.openBracket? rest
  else if c = ')' then p.closeBracket? rest
  else if c = '|' then some { p with rest, parts := [], branches := sequence p.parts :: p.branches }
  else if c = '[' then do
    let (k, inside) ← openClass? m rest
    let (s, rest) ← bracket? m inside k []
    some (p.push (← item? m s) rest)
  else if c = '?' then p.repeatLast? 0 (some 1) rest
  else if c = '*' then p.repeatLast? 0 none rest
  else if c = '+' then p.repeatLast? 1 none rest
  else if c = '\x7b' then p.repeatCounted? rest
  else if c = '.' then do some (p.push (← point? m) rest)
  else if c = '^' then
    some (p.push (.condition (if m.multiline then .lineStart m.carriageReturns else .textStart)) rest)
  else if c = '$' then
    some (p.push (.condition (if m.multiline then .lineEnd m.carriageReturns else .textEnd)) rest)
  else if c = '\\' then do
    match ← escape? m rest with
    | (.char c, rest) => some (p.push (charItem m c) rest)
    | (.set s, rest) => some (p.push (← item? m s) rest)
    | (.condition k, rest) => some (p.push (.condition k) rest)
  else some (p.push (charItem m c) rest)

/-- Reads to the end of the source; all groups must be closed then. -/
def toEnd? (p : Progress) : Option (Regex × List (String × Nat)) :=
  match next p.modes p.rest with
  | [] => if p.groups.isEmpty then some (choice p.branches p.parts, p.names) else none
  | c :: rest => do
    let after ← step? p c rest
    if _h : after.rest.length < p.rest.length then toEnd? after else none
termination_by p.rest.length

end Reader

/-- Reads a source under some modes, with the names of its groups. A source that nests too deep or costs
too much is refused. -/
def Regex.ofSource? (m : Modes) (source : List Char) : Option (Regex × List (String × Nat)) := do
  let (raw, names) ← Reader.toEnd? ⟨source, m, [], [], [], 0, []⟩
  guard (raw.depth ≤ depthLimit)
  let r := raw.simplified
  guard (r.cost ≤ costLimit)
  some (r, names.filter fun entry => r.captures entry.2)

end GatedFormula
