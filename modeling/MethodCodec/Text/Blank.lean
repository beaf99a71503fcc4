import MethodCodec.Text.Span

/-!
White space by the Unicode property `White_Space`.
-/

namespace MethodCodec.Text

private def blankSpans : List Span :=
  [⟨0x85, 0x85, 1⟩, ⟨0xA0, 0xA0, 1⟩, ⟨0x1680, 0x1680, 1⟩, ⟨0x2000, 0x200A, 1⟩, ⟨0x2028, 0x2029, 1⟩,
   ⟨0x202F, 0x202F, 1⟩, ⟨0x205F, 0x205F, 1⟩, ⟨0x3000, 0x3000, 1⟩]

/-- Space, the controls from tab to carriage return, and the spaces and line
ends of other scripts. -/
def isBlank (c : Char) : Bool :=
  if isAscii c then
    c == ' ' || (9 ≤ c.toNat && c.toNat ≤ 13)
  else
    inSpans blankSpans c.toNat

end MethodCodec.Text
