import BatteryTelemetry.Text.Blank
import Mathlib.Data.List.DropRight

/-!
# Words between gaps

A text is divided wherever it has white space (`words_append_cons`). White space in front of a text
adds no words (`words_gap_append`), and a word ends where white space begins or the text ends
(`words_word_append`). So the words of a text that is written as words with gaps around them are
those words.
-/

namespace BatteryTelemetry.Text

variable {gap word rest : List Char}

theorem words_gap_append (h : ∀ c ∈ gap, isBlank c) (rest : List Char) :
    words (gap ++ rest) = words rest := by
  induction gap with
  | nil => rfl
  | cons c gap ih =>
    rw [List.forall_mem_cons] at h
    rw [List.cons_append, words_cons_blank _ h.1, ih h.2]

/-- Text is divided by white space. -/
theorem words_append_cons {c : Char} (h : isBlank c) (text rest : List Char) :
    words (text ++ c :: rest) = words text ++ words rest := by
  rw [words, List.splitOnP_append_cons text rest h, List.filter_append]
  rfl

theorem words_word (hne : word ≠ []) (hword : ∀ c ∈ word, isBlank c = false) :
    words word = [word] := by
  rw [words, List.splitOnP_eq_singleton hword]
  simp [hne]

/-- A word ends where white space begins. -/
theorem words_word_append (hne : word ≠ []) (hword : ∀ c ∈ word, isBlank c = false)
    (hrest : ∀ c ∈ rest.head?, isBlank c) : words (word ++ rest) = word :: words rest := by
  cases rest with
  | nil => rw [List.append_nil, words_word hne hword, words_nil]
  | cons c rest =>
    have hblank : isBlank c := hrest c rfl
    rw [words_append_cons hblank, words_word hne hword, words_cons_blank rest hblank]
    rfl

theorem ne_nil_of_mem_words {text : List Char} (h : word ∈ words text) : word ≠ [] := by
  have hfilter := (List.mem_filter.mp h).2
  simpa using hfilter

/-- A text without the white space around it. -/
def trim (text : List Char) : List Char := (text.dropWhile isBlank).rdropWhile isBlank

theorem words_append_gap (text : List Char) (h : ∀ c ∈ gap, isBlank c) :
    words (text ++ gap) = words text := by
  cases gap with
  | nil => rw [List.append_nil]
  | cons c gap =>
    rw [List.forall_mem_cons] at h
    rw [words_append_cons h.1, words_eq_nil_iff.mpr h.2, List.append_nil]

namespace IsDivided

variable {text : List Char} {fields : List (List Char)} {c : Char}

end IsDivided

end BatteryTelemetry.Text
