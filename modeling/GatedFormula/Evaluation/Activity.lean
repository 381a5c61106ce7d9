/-
  Activities: evaluations under way.
  - `Activity` is what is left to do: results, waiting, steps one after the other, and members side by side.
  - `Activity.advance` makes one pass at an instant, from the left, and does all that can be done then.
  - `Activity.nextDue?` is the next instant at which more can be done.
  - `Activity.run` passes from instant to instant to the end.
-/
import GatedFormula.Evaluation.Host

namespace GatedFormula

/-- The value of a formula and what it took: nodes visited and functions called. -/
structure Outcome where
  value : Value
  nodes : Nat
  calls : Nat
  deriving Inhabited

namespace Outcome

/-- The outcome of a node without parts. -/
def leaf (v : Value) : Outcome := ⟨v, 1, 0⟩

/-- The outcome of a node with parts, which counts as one node itself. -/
def node (v : Value) (parts : List Outcome) : Outcome :=
  ⟨v, parts.foldr (fun o n => o.nodes + n) 1, parts.foldr (fun o n => o.calls + n) 0⟩

end Outcome

/-- A result with the time at which it is there. -/
structure Timed (α : Type) where
  time : Nat
  result : Except Fault α

/-- A call of a function: where in the formula, of what, on what and with what. -/
structure Invocation where
  site : Place
  function : Function
  receiver : Option Value
  arguments : List Value
  deriving Inhabited

/-- The journal entry of a call. -/
def Invocation.entry (c : Invocation) : Entry := .calling c.function.name c.arguments.length

/-- What happens during an evaluation, apart from its result. -/
inductive Event where
  | noted (entry : Entry)
  /-- A function has been called. -/
  | invoked (call : Invocation)
  /-- A function has given its result, at some time. -/
  | completed (f : Function) (time : Nat)
  deriving Inhabited

namespace Event

/-- The journal entry of what happens, if it is kept in the journal. -/
def entry? : Event → Option Entry
  | .noted entry => some entry
  | .invoked call => some call.entry
  | .completed .. => none

/-- The call, if that is what happens. -/
def call? : Event → Option Invocation
  | .invoked call => some call
  | _ => none

end Event

/-- How members side by side fail together. -/
inductive Joint where
  /-- The first failure that a pass meets is the failure of all. -/
  | eager
  /-- A failure counts when all members before it have their results. -/
  | inOrder
  deriving Repr, DecidableEq, Inhabited

/-- The largest number of list members that fail eagerly. -/
def Joint.eagerLimit : Nat := 30

/-- How the members of a list fail together. -/
def Joint.ofSize (n : Nat) : Joint := if n ≤ eagerLimit then .eager else .inOrder

/-- What is left to do. -/
inductive Activity where
  /-- Nothing: the outcomes are there. -/
  | settled (outcomes : List Outcome)
  | failed (fault : Fault)
  /-- Something happens, then the rest goes on. -/
  | telling (event : Event) (rest : Activity)
  /-- The rest goes on at some time. -/
  | waiting (due : Nat) (rest : Activity)
  /-- What comes next depends on the time and the outcomes of the first. -/
  | sequel (first : Activity) (next : Nat → List Outcome → Activity)
  /-- The members go on side by side; their outcomes are put together in order. -/
  | joined (joint : Joint) (members : List Activity)

namespace Activity

/-- The activity that a result leaves. -/
def ofResult : Except Fault Outcome → Activity
  | .ok o => .settled [o]
  | .error f => .failed f

/-- Is there nothing left to do but to take the outcomes? -/
def isSettled : Activity → Bool
  | .settled _ => true
  | _ => false

/-- The fault, if the activity has failed. -/
def fault? : Activity → Option Fault
  | .failed f => some f
  | _ => none

/-- The outcomes of members if all have theirs. -/
def outcomes? : List Activity → Option (List Outcome)
  | [] => some []
  | .settled outs :: rest => (outcomes? rest).map (outs ++ ·)
  | _ :: _ => none

/-- The fault that members have together: of members that fail in order, only the first one without its
outcomes can have it. -/
def commonFault? : Joint → List Activity → Option Fault
  | .eager, members => members.findSome? fault?
  | .inOrder, members => (members.find? fun m => !m.isSettled).bind fault?

/-- Members side by side, as the result they have together if there is one. -/
def rejoined (joint : Joint) (members : List Activity) : Activity :=
  match commonFault? joint members with
  | some f => .failed f
  | none =>
    match outcomes? members with
    | some outs => .settled outs
    | none => .joined joint members

mutual
/-- One pass at an instant. -/
def advance (now : Nat) : Activity → List Event × Activity
  | .settled outs => ([], .settled outs)
  | .failed f => ([], .failed f)
  | .telling e rest =>
    let (events, rest) := advance now rest
    (e :: events, rest)
  | .waiting due rest => if due ≤ now then advance now rest else ([], .waiting due rest)
  | .sequel first next =>
    match advance now first with
    | (events, .settled outs) =>
      let (more, rest) := advance now (next now outs)
      (events ++ more, rest)
    | (events, .failed f) => (events, .failed f)
    | (events, first) => (events, .sequel first next)
  | .joined joint members =>
    let (events, members) := advanceAll now joint true members
    (events, rejoined joint members)

/-- One pass over members from the left. A failure that counts ends it: members after it are not looked
at. `clear` says that all members before have their outcomes. -/
def advanceAll (now : Nat) (joint : Joint) (clear : Bool) : List Activity → List Event × List Activity
  | [] => ([], [])
  | m :: rest =>
    let (events, m) := advance now m
    if m.fault?.isSome && (joint == .eager || clear) then (events, m :: rest)
    else
      let (more, rest) := advanceAll now joint (clear && m.isSettled) rest
      (events ++ more, m :: rest)
end

/-- The earlier of two times, where there is one. -/
def earlier? : Option Nat → Option Nat → Option Nat
  | some s, some t => some (min s t)
  | some s, none => some s
  | none, t => t

mutual
/-- The time at which the activity can next go on. -/
def nextDue? : Activity → Option Nat
  | .settled _ | .failed _ => none
  | .telling _ rest => nextDue? rest
  | .waiting due _ => some due
  | .sequel first _ => nextDue? first
  | .joined _ members => nextDueAll? members

/-- The time at which one of them can next go on. -/
def nextDueAll? : List Activity → Option Nat
  | [] => none
  | m :: rest => earlier? (nextDue? m) (nextDueAll? rest)
end

/-- The result, if the activity has one. -/
def result? : Activity → Option (Except Fault (List Outcome))
  | .settled outs => some (.ok outs)
  | .failed f => some (.error f)
  | _ => none

/-- Passes from instant to instant, from `now` on, until there is a result, with at most `waits` jumps in
time. Gives what happened, and the result with its time unless more jumps were needed. -/
def run : (waits : Nat) → (now : Nat) → Activity → List Event × Option (Timed (List Outcome))
  | 0, now, a =>
    let (events, a) := advance now a
    (events, a.result?.map (⟨now, ·⟩))
  | waits + 1, now, a =>
    let (events, a) := advance now a
    match a.result?, a.nextDue? with
    | none, some due =>
      let (more, ending) := run waits due a
      (events ++ more, ending)
    | result, _ => (events, result.map (⟨now, ·⟩))

end Activity

end GatedFormula
