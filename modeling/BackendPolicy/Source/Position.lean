/-!
This module contains places in source text: `Pos` is a point, `Span` a stretch of bytes and `Range` a
stretch of a named file with both ends as points.
-/

namespace BackendPolicy

/--
A point of a source text. Lines and columns count from one, bytes from zero.
-/
structure Pos where
  line : Nat
  column : Nat
  byte : Nat
deriving DecidableEq, Repr, Inhabited

namespace Pos

def compare (p q : Pos) : Ordering :=
  (Ord.compare p.line q.line).then ((Ord.compare p.column q.column).then (Ord.compare p.byte q.byte))

instance : Ord Pos := ⟨compare⟩

instance : LE Pos := ⟨fun p q => compare p q ≠ .gt⟩

instance (p q : Pos) : Decidable (p ≤ q) := inferInstanceAs (Decidable (_ ≠ _))

/--
The greater of two points. Of two that compare equal it is the second.
-/
def max (p q : Pos) : Pos :=
  if p ≤ q then q else p

end Pos

/--
A stretch of bytes, from `start` up to but without `stop`.
-/
structure Span where
  start : Nat
  stop : Nat
deriving DecidableEq, Repr, Inhabited

structure Range where
  filename : String
  start : Pos
  stop : Pos
deriving DecidableEq, Repr

namespace Range

def nowhere : Range := ⟨"", ⟨0, 0, 0⟩, ⟨0, 0, 0⟩⟩

instance : Inhabited Range := ⟨nowhere⟩

def through (r s : Range) : Range :=
  { r with stop := s.stop }

def display (r : Range) : String :=
  s!"{r.filename}:{r.start.line},{r.start.column}-{r.stop.line},{r.stop.column}"

end Range

end BackendPolicy
