/-!
Text as a list of characters.

Offsets count characters. The few positions that are bytes count the bytes of the UTF-8
form, and `byteOffset` leads from one measure to the other. Classes of characters are lists of
ranges of code points; the first of them is white space.
-/

namespace CitationNotes

abbrev Text := List Char

namespace Text

/-- The length of the UTF-8 form. -/
def byteLength : Text → Nat
  | [] => 0
  | c :: t => c.utf8Size + byteLength t

@[simp] theorem byteLength_nil : byteLength [] = 0 := rfl
@[simp] theorem byteLength_cons (c : Char) (t : Text) :
    byteLength (c :: t) = c.utf8Size + byteLength t := rfl

theorem byteLength_append (s t : Text) : byteLength (s ++ t) = byteLength s + byteLength t := by
  induction s with
  | nil => simp
  | cons c s ih => simp [ih, Nat.add_assoc]

/-- The byte at which the character numbered `k` starts, and the end of a text that has no such
character. -/
def byteOffset : Text → Nat → Nat
  | _, 0 => 0
  | [], _ + 1 => 0
  | c :: t, k + 1 => c.utf8Size + byteOffset t k

@[simp] theorem byteOffset_zero (t : Text) : byteOffset t 0 = 0 := by cases t <;> rfl
@[simp] theorem byteOffset_nil (k : Nat) : byteOffset [] k = 0 := by cases k <;> rfl
@[simp] theorem byteOffset_cons_succ (c : Char) (t : Text) (k : Nat) :
    byteOffset (c :: t) (k + 1) = c.utf8Size + byteOffset t k := rfl

/-- Texts one after the other, with `sep` between neighbours. -/
def join (sep : Text) : List Text → Text
  | [] => []
  | [t] => t
  | t :: u :: ts => t ++ sep ++ join sep (u :: ts)

@[simp] theorem join_nil (sep : Text) : join sep [] = [] := rfl
@[simp] theorem join_singleton (sep t : Text) : join sep [t] = t := rfl
@[simp] theorem join_cons_cons (sep t u : Text) (ts : List Text) :
    join sep (t :: u :: ts) = t ++ sep ++ join sep (u :: ts) := rfl

/-! ### Classes of characters -/

/-- The first and the last code point of each stretch of a class. -/
abbrev Ranges := List (Nat × Nat)

def Ranges.has (rs : Ranges) (c : Char) : Bool :=
  rs.any fun r => r.1 ≤ c.toNat && c.toNat ≤ r.2

/-- White space, as the `White_Space` property of Unicode has it. -/
def blanks : Ranges :=
  [(0x9, 0xD), (0x20, 0x20), (0x85, 0x85), (0xA0, 0xA0), (0x1680, 0x1680), (0x2000, 0x200A),
   (0x2028, 0x2029), (0x202F, 0x202F), (0x205F, 0x205F), (0x3000, 0x3000)]

def isBlank (c : Char) : Bool := blanks.has c

/-- Without the white space in front. -/
def trimStart (t : Text) : Text := t.dropWhile isBlank

/-- Without the white space at the end. -/
def trimEnd (t : Text) : Text := (trimStart t.reverse).reverse

def trim (t : Text) : Text := trimStart (trimEnd t)

end Text

end CitationNotes
