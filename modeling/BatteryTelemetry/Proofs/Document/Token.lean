import BatteryTelemetry.Document.Json
import Mathlib.Tactic.SplitIfs

/-!
# Tokens of documents

The text of a document is a sequence of tokens, which are brackets, separators, quoted texts and
words, with blanks between them. The tokens of a text are those of its pieces, unless a word goes
on from one piece to the next (`tokens_append`). A quoted text is one token, whatever characters
are in it (`tokens_quoted`).
-/

namespace BatteryTelemetry.Json

/-- A token of a document. Null, truth values and numerals are words. -/
inductive Token where
  | openList
  | closeList
  | openObject
  | closeObject
  | comma
  | colon
  | word (characters : List Char)
  | text (characters : List Char)
deriving DecidableEq, Repr

def mark? : Char → Option Token
  | '[' => some .openList
  | ']' => some .closeList
  | '\x7b' => some .openObject
  | '\x7d' => some .closeObject
  | ',' => some .comma
  | ':' => some .colon
  | _ => none

def isBlank (c : Char) : Bool := c = ' ' || c = '\n' || c = '\r' || c = '\t'

def isWordCharacter (c : Char) : Bool := (mark? c).isNone && !isBlank c && c ≠ '"'

/-- A character in front of tokens, either in front of their first word or as a word of its own. -/
def addToWord (c : Char) (goesOn : Bool) : List Token → List Token
  | .word characters :: tokens =>
    if goesOn then .word (c :: characters) :: tokens else .word [c] :: .word characters :: tokens
  | tokens => .word [c] :: tokens

/-- The character for which a letter stands after a backslash. -/
def unescape? : Char → Option Char
  | '"' => some '"'
  | '\\' => some '\\'
  | '/' => some '/'
  | 'b' => some '\x08'
  | 'f' => some '\x0c'
  | 'n' => some '\n'
  | 'r' => some '\r'
  | 't' => some '\t'
  | _ => none

/-- The character whose number four hexadecimal digits are. -/
def ofHex? (digits : List Char) : Option Char :=
  match Numeral.readDigits 16 0xffff 0 digits with
  | .ok n => some (.ofNat n)
  | .error _ => none

mutual

def tokens? : List Char → Option (List Token)
  | [] => some []
  | c :: rest =>
    if c = '"' then quotedTokens? [] rest
    else if isBlank c then tokens? rest
    else match mark? c with
      | some mark => (tokens? rest).map (mark :: ·)
      | none => (tokens? rest).map (addToWord c (rest.head?.any isWordCharacter))

/-- The tokens of a text that begins within quotation marks, behind characters in reverse order. -/
def quotedTokens? (early : List Char) : List Char → Option (List Token)
  | '"' :: rest => (tokens? rest).map (.text early.reverse :: ·)
  | '\\' :: 'u' :: a :: b :: c :: d :: rest =>
    (ofHex? [a, b, c, d]).bind fun character ↦ quotedTokens? (character :: early) rest
  | '\\' :: c :: rest => (unescape? c).bind fun character ↦ quotedTokens? (character :: early) rest
  | c :: rest => if c.toNat < 0x20 then none else quotedTokens? (c :: early) rest
  | [] => none

end

variable {first second rest : List Char} {tokens others : List Token} {c : Char}

/-- No word goes on into the text. -/
def EndsWord (text : List Char) : Prop := ∀ c ∈ text.head?, isWordCharacter c = false

theorem endsWord_cons (h : isWordCharacter c = false) (rest : List Char) : EndsWord (c :: rest) := by
  simpa [EndsWord] using h

theorem tokens_cons_blank (h : isBlank c) (rest : List Char) :
    tokens? (c :: rest) = tokens? rest := by
  have hquote : c ≠ '"' := by
    rintro rfl
    revert h
    decide
  rw [tokens?, if_neg hquote, if_pos h]

/-- A bracket, a comma or a colon is a token wherever it stands. -/
theorem tokens_cons_mark {mark : Token} (h : mark? c = some mark) (rest : List Char) :
    tokens? (c :: rest) = (tokens? rest).map (mark :: ·) := by
  have hplain : c ≠ '"' ∧ isBlank c = false := by
    unfold mark? at h
    split at h <;> first | decide | cases h
  rw [tokens?, if_neg hplain.1, hplain.2, if_neg Bool.false_ne_true, h]

theorem isWordCharacter_iff :
    isWordCharacter c ↔ mark? c = none ∧ isBlank c = false ∧ c ≠ '"' := by
  simp [isWordCharacter, and_assoc]

/-- A character of a word goes into the word behind it, if there is one. -/
theorem tokens_cons_word (h : isWordCharacter c) (rest : List Char) :
    tokens? (c :: rest) = (tokens? rest).map (addToWord c (rest.head?.any isWordCharacter)) := by
  obtain ⟨hmark, hblank, hquote⟩ := isWordCharacter_iff.mp h
  rw [tokens?, if_neg hquote, hblank, if_neg Bool.false_ne_true, hmark]

theorem exists_word_of_goesOn (hword : rest.head?.any isWordCharacter)
    (h : tokens? rest = some tokens) : ∃ characters later, tokens = .word characters :: later := by
  cases rest with
  | nil => cases hword
  | cons c rest =>
    rw [tokens_cons_word (by simpa using hword)] at h
    obtain ⟨later, -, rfl⟩ := Option.map_eq_some_iff.mp h
    unfold addToWord
    split
    · split_ifs
      · exact ⟨_, _, rfl⟩
      · exact ⟨_, _, rfl⟩
    · exact ⟨_, _, rfl⟩

/-- What follows a word does not matter to the characters in front of it. -/
theorem addToWord_append (c : Char) {goesOn : Bool}
    (h : goesOn → ∃ characters later, tokens = .word characters :: later) (others : List Token) :
    addToWord c goesOn (tokens ++ others) = addToWord c goesOn tokens ++ others := by
  cases goesOn with
  | true =>
    obtain ⟨characters, later, rfl⟩ := h rfl
    rfl
  | false =>
    have hnew (tokens : List Token) : addToWord c false tokens = .word [c] :: tokens := by
      unfold addToWord
      split <;> rfl
    rw [hnew, hnew, List.cons_append]

theorem goesOn_append (hend : EndsWord second) :
    (rest ++ second).head?.any isWordCharacter = rest.head?.any isWordCharacter := by
  cases rest with
  | nil =>
    cases second with
    | nil => rfl
    | cons c others =>
      have hc := hend c rfl
      simpa using hc
  | cons c others => rfl

theorem quotedTokens_escaped (h : c ≠ 'u') (early rest : List Char) :
    quotedTokens? early ('\\' :: c :: rest) =
      (unescape? c).bind fun character ↦ quotedTokens? (character :: early) rest :=
  quotedTokens?.eq_3 early c rest fun _ _ _ _ _ heq _ ↦ h heq

theorem quotedTokens_plain (hquote : c ≠ '"') (hbackslash : c ≠ '\\') (early rest : List Char) :
    quotedTokens? early (c :: rest) =
      if c.toNat < 0x20 then none else quotedTokens? (c :: early) rest :=
  quotedTokens?.eq_4 early c rest hquote (fun _ _ _ _ _ heq _ ↦ hbackslash heq)
    fun _ _ heq _ ↦ hbackslash heq

/-- The tokens of two pieces of a text are those of the text, if no word goes on from the first
piece to the second. -/
theorem tokens_append (hend : EndsWord second) (hsecond : tokens? second = some others)
    (h : tokens? first = some tokens) : tokens? (first ++ second) = some (tokens ++ others) := by
  refine (tokens?.mutual_induct
    (fun first ↦ ∀ tokens, tokens? first = some tokens →
      tokens? (first ++ second) = some (tokens ++ others))
    (fun early first ↦ ∀ tokens, quotedTokens? early first = some tokens →
      quotedTokens? early (first ++ second) = some (tokens ++ others))
    ?nil ?quote ?blank ?mark ?word ?close ?hex ?escape ?control ?plain ?unclosed).1 first tokens h
  case nil =>
    intro tokens h
    obtain rfl := Option.some.inj h
    exact hsecond
  case quote =>
    intro rest ih tokens h
    exact ih tokens h
  case blank =>
    intro c rest _ hblank ih tokens h
    rw [tokens_cons_blank hblank] at h
    rw [List.cons_append, tokens_cons_blank hblank, ih tokens h]
  case mark =>
    intro c rest _ _ mark hmark ih tokens h
    rw [tokens_cons_mark hmark] at h
    obtain ⟨later, hlater, rfl⟩ := Option.map_eq_some_iff.mp h
    rw [List.cons_append, tokens_cons_mark hmark, ih later hlater]
    rfl
  case word =>
    intro c rest hquote hblank hmark ih tokens h
    have hword := isWordCharacter_iff.mpr ⟨hmark, Bool.eq_false_iff.mpr hblank, hquote⟩
    rw [tokens_cons_word hword] at h
    obtain ⟨later, hlater, rfl⟩ := Option.map_eq_some_iff.mp h
    have hadd := addToWord_append c (fun hgoes ↦ exists_word_of_goesOn hgoes hlater) others
    rw [List.cons_append, tokens_cons_word hword, ih later hlater, goesOn_append hend,
      Option.map_some, hadd]
  case close =>
    intro early rest ih tokens h
    rw [quotedTokens?] at h
    obtain ⟨later, hlater, rfl⟩ := Option.map_eq_some_iff.mp h
    rw [List.cons_append, quotedTokens?, ih later hlater]
    rfl
  case hex =>
    intro early a b c d rest ih tokens h
    rw [quotedTokens?] at h
    obtain ⟨character, hcharacter, h⟩ := Option.bind_eq_some_iff.mp h
    simp only [List.cons_append, quotedTokens?, hcharacter, Option.bind_some, ih character tokens h]
  case escape =>
    intro early c rest hshort ih tokens h
    rw [quotedTokens?.eq_3 early c rest hshort] at h
    obtain ⟨character, hcharacter, h⟩ := Option.bind_eq_some_iff.mp h
    -- A letter u would need its four digits at once, so it is none of the letters here.
    have hletter : c ≠ 'u' := by
      rintro rfl
      cases hcharacter
    rw [List.cons_append, List.cons_append, quotedTokens_escaped hletter, hcharacter,
      Option.bind_some, ih character tokens h]
  case control =>
    intro early c rest hquote hhex hescape hcontrol tokens h
    rw [quotedTokens?.eq_4 early c rest hquote hhex hescape, if_pos hcontrol] at h
    cases h
  case plain =>
    intro early c rest hquote hhex hescape hcontrol ih tokens h
    rw [quotedTokens?.eq_4 early c rest hquote hhex hescape, if_neg hcontrol] at h
    have hbackslash : c ≠ '\\' := by
      rintro rfl
      cases rest with
      | nil => cases h
      | cons d rest => exact hescape d rest rfl rfl
    rw [List.cons_append, quotedTokens_plain hquote hbackslash, if_neg hcontrol, ih tokens h]
  case unclosed =>
    intro early tokens h
    cases h

/-- A control character is written by its number. -/
theorem quotedTokens_control {n : Nat} (h : n < 0x20) (early rest : List Char) :
    quotedTokens? early ('\\' :: 'u' :: Numeral.padded 16 4 n ++ rest) =
      quotedTokens? (.ofNat n :: early) rest := by
  have hdigits : ∀ n < 0x20, Numeral.padded 16 4 n =
      ['0', '0', (n / 16).digitChar, (n % 16).digitChar] := by decide
  have hhex : ∀ n < 0x20, ofHex? ['0', '0', (n / 16).digitChar, (n % 16).digitChar] =
      some (.ofNat n) := by decide
  rw [hdigits n h]
  simp only [List.cons_append, List.nil_append, quotedTokens?, hhex n h, Option.bind_some]

/-- Each character is read back from the way it is written, or from its number. -/
theorem quotedTokens_escape (c : Char) (early rest : List Char) :
    quotedTokens? early (escape c ++ rest) = quotedTokens? (c :: early) rest := by
  unfold escape
  split
  case h_8 hquote hbackslash _ _ _ _ _ =>
    split_ifs with hcontrol
    · rw [quotedTokens_control hcontrol, Char.ofNat_toNat]
    · rw [List.singleton_append, quotedTokens_plain hquote hbackslash, if_neg hcontrol]
  all_goals rfl

/-- No character of a text is taken for the quotation mark at its end. -/
theorem quotedTokens_flatMap_escape (early characters rest : List Char) :
    quotedTokens? early (characters.flatMap escape ++ '"' :: rest) =
      (tokens? rest).map (.text (early.reverse ++ characters) :: ·) := by
  induction characters generalizing early with
  | nil => rw [List.flatMap_nil, List.nil_append, quotedTokens?, List.append_nil]
  | cons c others ih =>
    rw [List.flatMap_cons, List.append_assoc, quotedTokens_escape, ih, List.reverse_cons,
      List.append_assoc, List.singleton_append]

/-- A quoted text is one token. -/
theorem tokens_quoted (text : String) (rest : List Char) :
    tokens? ((quoted text).toList ++ rest) = (tokens? rest).map (.text text.toList :: ·) := by
  have htext : (quoted text).toList ++ rest =
      '"' :: (text.toList.flatMap escape ++ '"' :: rest) := by
    simp [quoted]
  rw [htext, tokens?, if_pos rfl, quotedTokens_flatMap_escape]
  rfl

/-- Characters of a word are one token. -/
theorem tokens_word {characters : List Char} (hne : characters ≠ [])
    (h : characters.all isWordCharacter) : tokens? characters = some [.word characters] := by
  induction characters with
  | nil => exact absurd rfl hne
  | cons c rest ih =>
    obtain ⟨hc, hrest⟩ := Bool.and_eq_true_iff.mp (List.all_cons.symm.trans h)
    rw [tokens_cons_word hc]
    cases rest with
    | nil => rfl
    | cons d others =>
      have hd : isWordCharacter d := List.all_eq_true.mp hrest d List.mem_cons_self
      rw [ih (List.cons_ne_nil d others) hrest, Option.map_some, List.head?_cons, Option.any_some, hd]
      rfl

end BatteryTelemetry.Json
