/-!
# Blank characters and lines

White space in the sense of Unicode, trimming of it, and the lines of a text. A line ends at a line
feed, which takes a carriage return before it along; the last line needs no end.
-/
namespace SchemaSdk.Text

/-- Whether a character is white space. -/
def isBlank (c : Char) : Bool :=
  let n := c.toNat
  (0x09 ≤ n && n ≤ 0x0d) || n == 0x20 || n == 0x85 || n == 0xa0 || n == 0x1680 ||
    (0x2000 ≤ n && n ≤ 0x200a) || n == 0x2028 || n == 0x2029 || n == 0x202f || n == 0x205f ||
    n == 0x3000

/-- A text without its leading blanks. -/
def trimStart (s : List Char) : List Char :=
  s.dropWhile isBlank

/-- A text without its trailing blanks. -/
def trimEnd : List Char → List Char
  | [] => []
  | c :: r => match trimEnd r with
    | [] => if isBlank c then [] else [c]
    | d :: r => c :: d :: r

/-- A text without the blanks around it. -/
def trim (s : List Char) : List Char :=
  trimEnd (trimStart s)

/-- The lines of a text, without what ends them. -/
def lines : List Char → List (List Char)
  | [] => []
  | '\n' :: r => [] :: lines r
  | '\r' :: '\n' :: r => [] :: lines r
  | c :: r => match lines r with
    | [] => [[c]]
    | l :: ls => (c :: l) :: ls

/-- Lines written one after the other, each ended by a line feed. -/
def unlines (ls : List (List Char)) : List Char :=
  ls.flatMap (· ++ ['\n'])

@[simp] theorem trimEnd_nil : trimEnd [] = [] := rfl

theorem trimEnd_cons (c : Char) (r : List Char) :
    trimEnd (c :: r) =
      if trimEnd r = [] then if isBlank c then [] else [c] else c :: trimEnd r := by
  cases h : trimEnd r <;> simp [trimEnd, h]

/-- What is left after trimming is empty or ends in a visible character. -/
theorem isBlank_getLast_trimEnd (s : List Char) :
    ∀ c ∈ (trimEnd s).getLast?, isBlank c = false := by
  induction s with
  | nil => simp
  | cons c r ih =>
    rw [trimEnd_cons]
    split
    · split <;> simp_all
    · rename_i h
      rwa [List.getLast?_cons_of_ne_nil h]

end SchemaSdk.Text
