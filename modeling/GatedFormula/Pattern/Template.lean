/-
  Replacement texts.
  A `$` in front of a group's number or name stands for what the group matched; braces may mark where the
  name ends, and `$$` stands for one `$`. A group that matched nothing, or that does not exist, leaves
  nothing.
-/
import GatedFormula.Pattern.Basic

namespace GatedFormula.Pattern

/-- The characters of a name that stands without braces. -/
def isNameChar (c : Char) : Bool := c.isAlphanum || c == '_'

/-- A piece of a replacement text. -/
inductive Piece where
  | char (c : Char)
  | group (name : String)
  deriving Repr, DecidableEq, Inhabited

/-- The reference after a `$`: its name and the rest of the text. -/
def reference? : List Char → Option (String × List Char)
  | '\x7b' :: rest =>
    match rest.dropWhile (· != '\x7d') with
    | [] => none
    | _ :: after => some (String.ofList (rest.takeWhile (· != '\x7d')), after)
  | cs =>
    let name := cs.takeWhile isNameChar
    if name.isEmpty then none else some (String.ofList name, cs.drop name.length)

/-- The rest after a reference is shorter than what stands after its `$`. -/
theorem reference?_length {cs rest : List Char} {name : String} (h : reference? cs = some (name, rest)) :
    rest.length < cs.length := by
  unfold reference? at h
  split at h
  · rename_i inner
    split at h
    · simp at h
    · rename_i c after heq
      simp only [Option.some.injEq, Prod.mk.injEq] at h
      have hle := (List.dropWhile_sublist (p := (· != '\x7d')) (l := inner)).length_le
      rw [heq] at hle
      rw [← h.2]
      simp only [List.length_cons] at hle ⊢
      omega
  · simp only at h
    split at h
    · simp at h
    · rename_i hne
      simp only [Option.some.injEq, Prod.mk.injEq] at h
      have hpos : 0 < (cs.takeWhile isNameChar).length := by
        cases hn : cs.takeWhile isNameChar with
        | nil => simp [hn] at hne
        | cons => simp
      have hle := (List.takeWhile_sublist (p := isNameChar) (l := cs)).length_le
      rw [← h.2, List.length_drop]
      omega

/-- The pieces of a replacement text. -/
def pieces : List Char → List Piece
  | [] => []
  | '$' :: '$' :: rest => .char '$' :: pieces rest
  | '$' :: rest =>
    match _h : reference? rest with
    | some (name, after) => .group name :: pieces after
    | none => .char '$' :: pieces rest
  | c :: rest => .char c :: pieces rest
termination_by cs => cs.length
decreasing_by
  all_goals simp only [List.length_cons]
  · omega
  · have := reference?_length _h
    omega
  · omega
  · omega

/-- A replacement text in which nothing stands for anything else. -/
def verbatim (s : List Char) : List Piece := s.map .char

/-- The number of a group by the name it has in a replacement text: a number, which may have a plus sign
in front, or the name of a group. -/
def groupNumber? (p : Pattern) (name : String) : Option Nat :=
  let digits := match name.toList with
    | '+' :: rest => rest
    | cs => cs
  match (Text.digits? 10 digits).filter (· < twoTo 64) with
  | some n => some n
  | none => p.names.lookup name

/-- What a group of a match took from the text. -/
def taken (s : List Char) (m : Match) (n : Nat) : List Char :=
  match m.groups[n]? with
  | some (some (start, stop)) => part s start stop
  | _ => []

/-- The replacement of one match. -/
def expand (p : Pattern) (s : List Char) (m : Match) (template : List Piece) : List Char :=
  template.flatMap fun
    | .char c => [c]
    | .group name =>
      match p.groupNumber? name with
      | some n => taken s m n
      | none => []

/-- The text with each of some matches replaced, from a place on. -/
def replaceFrom (p : Pattern) (s : List Char) (template : List Piece) (place : Nat) : List Match → List Char
  | [] => s.drop place
  | m :: rest => part s place m.start ++ expand p s m template ++ replaceFrom p s template m.stop rest

/-- The text with its first match replaced. -/
def replaceFirst (p : Pattern) (s : List Char) (template : List Piece) : List Char :=
  replaceFrom p s template 0 (p.first? s).toList

/-- The text with every match replaced. -/
def replaceAll (p : Pattern) (s : List Char) (template : List Piece) : List Char :=
  replaceFrom p s template 0 (p.all s)

end GatedFormula.Pattern
