/-
  The methods of texts.
  `TextMethod.apply` gives the result of a method for a text and arguments; what is made anew takes the
  identity `site`. Positions and lengths count characters.
-/
import GatedFormula.Method.Argument
import GatedFormula.Text.Cut
import GatedFormula.Text.Search
import GatedFormula.Text.Blank

namespace GatedFormula

namespace TextMethod

open Argument

/-- A text as a value. -/
def ofChars (s : List Char) : Value := .text (String.ofList s)

/-- A place as a value; minus one where there is none. -/
def ofPlace (k : Option Nat) : Value :=
  match k with
  | some k => .number (Number.ofWhole k)
  | none => .number (Number.ofWhole (-1))

/-- Pads a text to a length with copies of another text, before or after it. -/
def padTo (m : TextMethod) (s fill : List Char) (target : Position) (atStart : Bool) : Except Fault Value :=
  match target with
  | .before => .ok (ofChars s)
  | .index i =>
    if i ≤ s.length ∨ fill = [] then .ok (ofChars s)
    else if (Text.longest : Int) < i then .error (.failed m.name (.badLength target))
    else
      let more := Text.padding fill (i.toNat - s.length)
      .ok (ofChars (if atStart then more ++ s else s ++ more))
  | .beyond => if fill = [] then .ok (ofChars s) else .error (.failed m.name (.badLength target))

/-- Pads a text as arguments say: the length first, then the text to pad with, a space if it is missing. -/
def pad (m : TextMethod) (s : List Char) (args : List Value) (atStart : Bool) : Except Fault Value := do
  let target ← position m.name args 0 (.index 0)
  let fill ← textOr m.name args 1 [' ']
  padTo m s fill target atStart

/-- Repeats a text. -/
def repeatTimes (m : TextMethod) (s : List Char) (count : Position) : Except Fault Value :=
  match count with
  | .index i =>
    if i < 0 ∨ (Text.longest : Int) < i * s.length then .error (.failed m.name (.badCount count))
    else .ok (ofChars (Text.copies s i.toNat))
  | _ => .error (.failed m.name (.badCount count))

/-- The groups of a match, the whole match first, as values. -/
def groupValues (s : List Char) (m : Match) : List Value :=
  m.groups.map fun
    | some (start, stop) => ofChars (Pattern.part s start stop)
    | none => .undefined

/-- What matching gives: all matches for a pattern that works on every match, else the first match with
its groups, and nothing where there is no match. -/
def matchValue (site : Place) (s : List Char) (p : Pattern) : Value :=
  if p.isGlobal then
    match p.all s with
    | [] => .undefined
    | found => .array site (found.map fun m => ofChars (Pattern.part s m.start m.stop))
  else
    match p.first? s with
    | some m => .array site (groupValues s m)
    | none => .undefined

/-- How many parts a split keeps; all of them for a negative limit. -/
def partLimit : Position → Option Nat
  | .index i => if i < 0 then none else some i.toNat
  | .before | .beyond => none

/-- The parts of a split. -/
def parts (s : List Char) (args : List Value) : Except Fault (List (List Char)) :=
  match get args 0 with
  | .undefined => .ok [s]
  | .text p => .ok (Text.pieces p.toList s)
  | .pattern _ p => .ok (p.split s)
  | _ => .error (bad "split" args 0 .textOrPattern)

/-- Splits a text. The limit is looked at before the separator. -/
def splitValue (site : Place) (s : List Char) (args : List Value) : Except Fault Value := do
  let limit ← position "split" args 1 .beyond
  let all ← parts s args
  let kept := match partLimit limit with
    | some n => all.take n
    | none => all
  .ok (.array site (kept.map ofChars))

/-- Replaces the first match, or every match of a pattern that works on all. -/
def replaceValue (s : List Char) (args : List Value) : Except Fault Value := do
  let n ← needle "replace" args 0
  let r ← Argument.text "replace" args 1
  let replaced := if n.pattern.isGlobal then n.pattern.replaceAll else n.pattern.replaceFirst
  .ok (ofChars (replaced s (n.template r)))

/-- Replaces every match; a pattern that is given has to work on all. -/
def replaceAllValue (s : List Char) (args : List Value) : Except Fault Value := do
  let n ← needle "replaceAll" args 0
  let r ← Argument.text "replaceAll" args 1
  if n.isText || n.pattern.isGlobal then .ok (ofChars (n.pattern.replaceAll s (n.template r)))
  else .error (.failed "replaceAll" .notGlobal)

/-- The result of a method for a text. -/
def apply (m : TextMethod) (s : List Char) (args : List Value) (site : Place) : Except Fault Value :=
  let len : Position := .index s.length
  match m with
  | .charAt => do .ok (ofChars (Text.charAt s (← position m.name args 0 (.index 0))))
  | .concat => .ok (ofChars (s ++ args.flatMap fun v => v.toText.toList))
  | .endsWith => do
    let p ← Argument.text m.name args 0
    let stop ← position m.name args 1 len
    .ok (.boolean (Text.ends p (s.take (stop.clamped s.length))))
  | .includes => do
    let p ← Argument.text m.name args 0
    let start ← position m.name args 1 (.index 0)
    .ok (.boolean (Text.includesFrom p s (start.clamped s.length)))
  | .indexOf => do
    let p ← Argument.text m.name args 0
    let start ← position m.name args 1 (.index 0)
    .ok (ofPlace (Text.indexFrom? p s (start.clamped s.length)))
  | .lastIndexOf => do .ok (ofPlace (Text.lastIndex? (← Argument.text m.name args 0) s))
  | .matched => do .ok (matchValue site s (← needle m.name args 0).pattern)
  | .padEnd => pad m s args false
  | .padStart => pad m s args true
  | .repeated => do repeatTimes m s (← position m.name args 0 (.index 0))
  | .replace => replaceValue s args
  | .replaceAll => replaceAllValue s args
  | .search => do
    let n ← needle m.name args 0
    .ok (ofPlace ((n.pattern.first? s).map Match.start))
  | .slice => do
    let start ← position m.name args 0 (.index 0)
    let stop ← position m.name args 1 len
    .ok (ofChars (Text.slice s start stop))
  | .split => splitValue site s args
  | .startsWith => do
    let p ← Argument.text m.name args 0
    let start ← position m.name args 1 (.index 0)
    .ok (.boolean (Text.startsAt p s (start.clamped s.length)))
  | .substring => do
    let a ← position m.name args 0 (.index 0)
    let b ← position m.name args 1 len
    .ok (ofChars (Text.substring s a b))
  | .toLower => .ok (ofChars (Text.toLower s))
  | .toUpper => .ok (ofChars (Text.toUpper s))
  | .trim => .ok (ofChars (Text.trim s))
  | .trimEnd => .ok (ofChars (Text.trimEnd s))
  | .trimStart => .ok (ofChars (Text.trimStart s))

/-- Invokes a method, which has to be bound to a text. -/
def invoke (m : TextMethod) (receiver : Option Value) (args : List Value) (site : Place) :
    Except Fault Value :=
  match receiver with
  | some (.text s) => m.apply s.toList args site
  | some v => .error (.failed m.name (.receiver v.typeName))
  | none => .error (.failed m.name (.receiver .undefined))

end TextMethod

end GatedFormula
