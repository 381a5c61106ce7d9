/-
  The flags of a pattern.
  - `Flags.fault?` finds the first character that is no flag or stands there twice.
  - `PatternFault` says why a text is no pattern, and `PatternFault.message` words it.
-/

namespace GatedFormula

/-- Why a source and its flags make no pattern. -/
inductive PatternFault where
  | unknownFlag (c : Char)
  | repeatedFlag (c : Char)
  /-- The source is not written as a pattern must be. -/
  | malformed
  deriving Repr, DecidableEq, Inhabited

/-- The wording of a fault. -/
def PatternFault.message : PatternFault → String
  | .unknownFlag c => "invalid flag '" ++ String.singleton c ++ "'"
  | .repeatedFlag c => "duplicate flag '" ++ String.singleton c ++ "'"
  | .malformed => "invalid pattern"

namespace Flags

/-- The letters a pattern takes as flags. -/
def known : List Char := ['d', 'g', 'i', 'm', 's', 'u', 'v', 'y']

/-- The first fault among flags that come after those already seen. -/
def faultAfter? (seen : List Char) : List Char → Option PatternFault
  | [] => none
  | c :: rest =>
    if c ∉ known then some (.unknownFlag c)
    else if c ∈ seen then some (.repeatedFlag c)
    else faultAfter? (c :: seen) rest

/-- The first fault of some flags. -/
def fault? (flags : List Char) : Option PatternFault := faultAfter? [] flags

end Flags

end GatedFormula
