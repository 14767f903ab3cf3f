import BinaryQuadratic.Span

/-!
# Coverage of the index space

A record of the spans that were scanned. Spans are kept merged: ascending, apart from each other, and with a gap
between any two. Each span that is added is absorbed together with those it touches, and the record counts how often an
added span held an index that was covered before. A scan of all indices below a bound is exhaustive when it covered
them once each.
-/

namespace BinaryQuadratic

/-- The union of the spans added so far, and the number of additions that met covered indices. -/
structure Coverage where
  spans : List Span
  overlaps : Nat
  deriving DecidableEq

namespace Coverage

/-- Nothing is covered. -/
def empty : Coverage := ⟨[], 0⟩

/-- What comes of adding a span to merged spans: the spans afterwards, and whether no index came twice. -/
structure Absorbed where
  spans : List Span
  fresh : Bool

/-- Adds a span to merged spans. Those that end before it stay in front, those that start after it stay behind, and it
grows over all others, one after the other. -/
def absorb (added : Span) : List Span → Absorbed
  | [] => ⟨[added], true⟩
  | s :: rest =>
    if s.stop < added.start then
      let after := absorb added rest
      ⟨s :: after.spans, after.fresh⟩
    else if added.stop < s.start then ⟨added :: s :: rest, true⟩
    else
      let after := absorb ⟨min added.start s.start, max added.stop s.stop⟩ rest
      ⟨after.spans, after.fresh && !added.overlaps s⟩

/-- Whether adding the span meets no covered index. -/
def isFree (c : Coverage) (s : Span) : Bool := s.isEmpty || (absorb s c.spans).fresh

/-- The coverage after the span was scanned. An empty span changes nothing. -/
def insert (c : Coverage) (s : Span) : Coverage :=
  if s.isEmpty then c
  else
    let after := absorb s c.spans
    ⟨after.spans, if after.fresh then c.overlaps else c.overlaps + 1⟩

/-- Adds several spans, in order. -/
def insertAll (c : Coverage) (spans : List Span) : Coverage := spans.foldl insert c

/-- Whether the indices below `stop` were covered, no others, and none of them twice. -/
def isExhaustive (c : Coverage) (stop : Index) : Bool :=
  c.overlaps == 0 && c.spans == [⟨0, stop⟩]

end Coverage

end BinaryQuadratic
