/-
  Cutting and building texts by positions.
  - `slice` counts negative positions from the end, `substring` takes its two positions in either order.
  - `padding` and `copies` build what padding and repeating add.
-/
import GatedFormula.Number.Position

namespace GatedFormula.Text

/-- The part of a text between two places; nothing if the second is not after the first. -/
def between (s : List Char) (start stop : Nat) : List Char := (s.drop start).take (stop - start)

/-- The part from one position to another; negative positions count from the end. -/
def slice (s : List Char) (start stop : Position) : List Char :=
  between s (start.relative s.length) (stop.relative s.length)

/-- The part between two positions, in whichever order they are given. -/
def substring (s : List Char) (a b : Position) : List Char :=
  let a := a.clamped s.length
  let b := b.clamped s.length
  between s (min a b) (max a b)

/-- The character at a position, as a text; the empty text where there is none. -/
def charAt (s : List Char) : Position → List Char
  | .index i => if i < 0 then [] else s[i.toNat]?.toList
  | .before | .beyond => []

/-- The first `count` characters of a text that is repeated without end. -/
def padding (fill : List Char) (count : Nat) : List Char :=
  (List.range count).filterMap fun i => fill[i % fill.length]?

/-- A text a number of times. The empty text stays empty at once, however often it is repeated. -/
def copies (s : List Char) (count : Nat) : List Char :=
  if s.isEmpty then [] else (List.replicate count s).flatten

/-- The number of characters that padding and repeating may build. -/
def longest : Nat := twoTo 29

end GatedFormula.Text
