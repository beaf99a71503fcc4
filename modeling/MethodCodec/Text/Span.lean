/-!
Sets of code points given as evenly spaced spans, the form in which the
character tables of this library are written down.
-/

namespace MethodCodec.Text

/-- The code points `first`, `first + step`, … up to `last`. -/
structure Span where
  first : Nat
  last : Nat
  step : Nat

namespace Span

/-- Whether a code point is one of the span. -/
def contains (span : Span) (code : Nat) : Bool :=
  span.first ≤ code && code ≤ span.last && (code - span.first) % span.step == 0

end Span

/-- Whether one of the spans holds the code point. -/
def inSpans (spans : List Span) (code : Nat) : Bool :=
  spans.any fun span => span.contains code

/-- The one hundred and twenty-eight characters that take one byte in UTF-8.
The tables list the others only. -/
def isAscii (c : Char) : Bool :=
  c.toNat < 128

end MethodCodec.Text
