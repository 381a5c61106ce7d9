/-
  Patterns: a regular expression with its source and flags.
  - `Pattern.make` checks the flags before it looks at the source.
  - `Pattern.literal` is the pattern that matches a text as it stands.
  - `Pattern.first?`, `Pattern.all` and `Pattern.split` match a text.
-/
import GatedFormula.Pattern.Flags
import GatedFormula.Pattern.Reader
import GatedFormula.Pattern.Program

namespace GatedFormula

/-- A pattern: its source and flags as given, the program that matches, and the names of its groups. -/
structure Pattern where
  source : String
  flags : String
  program : Program
  names : List (String × Nat)
  deriving Inhabited

namespace Pattern

/-- The modes that flags ask for. The other flags do not change how a text is matched. -/
def modesOf (flags : List Char) : Modes :=
  { ignoreCase := flags.contains 'i', multiline := flags.contains 'm', pointTakesAll := flags.contains 's' }

/-- The pattern of a source and flags. -/
def make (source flags : String) : Except PatternFault Pattern :=
  match Flags.fault? flags.toList with
  | some fault => .error fault
  | none =>
    match Regex.ofSource? (modesOf flags.toList) source.toList with
    | none => .error .malformed
    | some (r, names) => .ok ⟨source, flags, Program.ofRegex r, names⟩

/-- The source that stands for a text as it is: a backslash before every character that has a meaning. -/
def escaped (s : List Char) : List Char := s.flatMap fun c => if Reader.hasMeaning c then ['\\', c] else [c]

/-- The pattern that matches a text as it stands. A text may be too long for a pattern. -/
def literal (s : String) : Except PatternFault Pattern := make (String.ofList (escaped s.toList)) ""

/-- Does the pattern work on every match? -/
def isGlobal (p : Pattern) : Bool := p.flags.toList.contains 'g'

/-- The pattern as it is written, `/source/flags`. -/
def text (p : Pattern) : String := "/" ++ p.source ++ "/" ++ p.flags

/-- Two patterns are alike if their sources and flags are. -/
def alike (p q : Pattern) : Bool := p.source == q.source && p.flags == q.flags

/-- The leftmost match in a text. -/
def first? (p : Pattern) (s : List Char) : Option Match := p.program.find? s.toArray 0

/-- All matches in a text. -/
def all (p : Pattern) (s : List Char) : List Match := p.program.findAll s.toArray

/-- Does the pattern match somewhere in a text? -/
def occursIn (p : Pattern) (s : List Char) : Bool := (p.first? s).isSome

/-- The part of a text between two places. -/
def part (s : List Char) (start stop : Nat) : List Char := (s.drop start).take (stop - start)

/-- The parts of a text between matches, from a place on. -/
def between (s : List Char) (place : Nat) : List Match → List (List Char)
  | [] => [s.drop place]
  | m :: rest => part s place m.start :: between s m.stop rest

/-- Cuts a text at every match. -/
def split (p : Pattern) (s : List Char) : List (List Char) := between s 0 (p.all s)

end Pattern

end GatedFormula
