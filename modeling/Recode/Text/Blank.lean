/-! White space, and texts that hold nothing else. -/

namespace Recode.Text

/-- The characters with the White_Space property. -/
def isBlank (char : Char) : Bool :=
  let code := char.toNat
  (9 ≤ code && code ≤ 13) || code == 0x20 || code == 0x85 || code == 0xA0 || code == 0x1680
    || (0x2000 ≤ code && code ≤ 0x200A) || code == 0x2028 || code == 0x2029 || code == 0x202F
    || code == 0x205F || code == 0x3000

def isBlankText (text : String) : Bool := text.toList.all isBlank

theorem isBlank_of_isWhitespace (char : Char) (blank : char.isWhitespace = true) :
    isBlank char = true := by
  simp [Char.isWhitespace] at blank
  rcases blank with ((rfl | rfl) | rfl) | rfl <;> decide

end Recode.Text
