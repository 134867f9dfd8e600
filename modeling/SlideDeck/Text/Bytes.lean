/-! Positions in bytes of UTF-8. A position inside a character counts as the place before it. -/

namespace SlideDeck.Text

def bytesIn : List Char → Nat
  | [] => 0
  | c :: cs => c.utf8Size + bytesIn cs

@[simp] theorem bytesIn_nil : bytesIn [] = 0 := rfl

@[simp] theorem bytesIn_cons (c : Char) (cs : List Char) :
    bytesIn (c :: cs) = c.utf8Size + bytesIn cs := rfl

@[simp] theorem bytesIn_append (a b : List Char) : bytesIn (a ++ b) = bytesIn a + bytesIn b := by
  induction a with
  | nil => simp
  | cons c a ih => simp [ih, Nat.add_assoc]

/-- Splits at the last place between characters that is at most `n` bytes from the start. -/
def splitBytes (n : Nat) : List Char → List Char × List Char
  | [] => ([], [])
  | c :: cs =>
    if c.utf8Size ≤ n then
      let (before, after) := splitBytes (n - c.utf8Size) cs
      (c :: before, after)
    else ([], c :: cs)

end SlideDeck.Text
