/-!
# White space

The blank characters of Unicode: the ASCII tab, newline, vertical tab, form feed, carriage
return and space, U+0085 and U+00A0, and the spaces and separators U+1680, U+2000 to U+200A,
U+2028, U+2029, U+202F, U+205F and U+3000. The zero-width space U+200B and the byte order mark
U+FEFF are not blank.

* `isSpace`: membership in that set;
* `trimSpace`: a text without its leading and trailing blanks;
* `isBlank`: a text with nothing else, `isBlank_iff_trimSpace` ties it to `trimSpace`.
-/

namespace BillOfMaterials.Text

/-- Whether a character is Unicode white space. -/
def isSpace (c : Char) : Bool :=
  let n := c.toNat
  if n < 0x80 then n = 0x20 || (0x09 ≤ n && n ≤ 0x0D)
  else n = 0x85 || n = 0xA0 || n = 0x1680 || (0x2000 ≤ n && n ≤ 0x200A) || n = 0x2028 ||
    n = 0x2029 || n = 0x202F || n = 0x205F || n = 0x3000

/-- A text without its leading and trailing white space. -/
def trimSpace (s : String) : String :=
  String.ofList ((s.toList.dropWhile isSpace).reverse.dropWhile isSpace).reverse

/-- Whether a text is empty or white space only. -/
def isBlank (s : String) : Bool := s.toList.all isSpace

theorem dropWhile_eq_nil_of_all {p : Char → Bool} :
    ∀ {l : List Char}, (∀ x ∈ l, p x = true) → l.dropWhile p = []
  | [], _ => rfl
  | x :: xs, h => by
    rw [List.dropWhile_cons_of_pos (h x (by simp))]
    exact dropWhile_eq_nil_of_all fun y hy => h y (by simp [hy])

theorem mem_dropWhile_of_not {p : Char → Bool} {c : Char} (hc : p c = false) :
    ∀ {l : List Char}, c ∈ l → c ∈ l.dropWhile p
  | [], h => by simp at h
  | x :: xs, h => by
    by_cases hx : p x = true
    · rw [List.dropWhile_cons_of_pos hx]
      rcases List.mem_cons.1 h with rfl | h
      · rw [hc] at hx; cases hx
      · exact mem_dropWhile_of_not hc h
    · rw [List.dropWhile_cons_of_neg hx]; exact h

theorem isBlank_iff_trimSpace (s : String) : isBlank s = true ↔ trimSpace s = "" := by
  unfold isBlank trimSpace
  rw [List.all_eq_true]
  constructor
  · intro h
    rw [dropWhile_eq_nil_of_all h]
    rfl
  · intro h c hc
    cases hsp : isSpace c
    · have h1 := congrArg String.toList h
      simp only [String.toList_ofList, String.toList_empty, List.reverse_eq_nil_iff] at h1
      have hmem := mem_dropWhile_of_not hsp (List.mem_reverse.2 (mem_dropWhile_of_not hsp hc))
      rw [h1] at hmem
      cases hmem
    · rfl

example : isBlank " \t\n" = true ∧ isBlank "​" = false ∧ trimSpace "  a b " = "a b" := by
  decide

end BillOfMaterials.Text
