/-!
# White space

The characters that separate fields, and the fields of a text. `words_eq_nil_iff` says that a text
has no field exactly if all its characters are white space.
-/

namespace BatteryTelemetry.Text

/-- The characters with the Unicode property White_Space. -/
def isBlank (c : Char) : Bool :=
  let n := c.toNat
  (9 ≤ n && n ≤ 13) || n == 0x20 || n == 0x85 || n == 0xa0 || n == 0x1680 ||
    (0x2000 ≤ n && n ≤ 0x200a) || n == 0x2028 || n == 0x2029 || n == 0x202f || n == 0x205f ||
    n == 0x3000

/-- The maximal runs of characters that are not white space. -/
def words (text : List Char) : List (List Char) :=
  (text.splitOnP isBlank).filter fun word ↦ !word.isEmpty

theorem words_nil : words [] = [] := by
  simp [words]

theorem words_cons_blank {c : Char} (rest : List Char) (h : isBlank c) :
    words (c :: rest) = words rest := by
  simp [words, List.splitOnP_cons_eq_if_modifyHead, h]

theorem words_cons_ne_nil {c : Char} (rest : List Char) (h : isBlank c = false) :
    words (c :: rest) ≠ [] := by
  obtain ⟨word, others, hsplit⟩ := List.exists_cons_of_ne_nil (List.splitOnP_ne_nil isBlank rest)
  simp [words, List.splitOnP_cons_eq_if_modifyHead, h, hsplit]

/-- Only blank texts have no words. -/
theorem words_eq_nil_iff {text : List Char} : words text = [] ↔ ∀ c ∈ text, isBlank c := by
  induction text with
  | nil => simp [words_nil]
  | cons c rest ih =>
    cases h : isBlank c
    · simp [words_cons_ne_nil rest h, h]
    · simp [words_cons_blank rest h, h, ih]

end BatteryTelemetry.Text
