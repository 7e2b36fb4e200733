import BatteryTelemetry.Proofs.Document.Token
import BatteryTelemetry.Proofs.Number.Text

/-!
# Documents are read back

A document is read from the tokens of its text by descending into lists and objects (`read?`). A
document whose numbers are finite is read back from its own tokens (`readValue_tokens`): a style
that keeps the fractions of whole numbers tells them from naturals, and the other words are told
apart by their letters.
-/

namespace BatteryTelemetry.Json

/-- The document that a word stands for. A numeral without a fraction and an exponent is a natural. -/
def ofWord? (format : BinaryFormat) (word : List Char) : Option Json :=
  if word = "null".toList then some null
  else if word = "true".toList then some (flag true)
  else if word = "false".toList then some (flag false)
  else if word.all Char.isDigit then
    if Decimal.isWhole word then some (natural (Decimal.ofDigits word)) else none
  else (Single.ofText? format word).map number

mutual

/-- Reads a document and gives the tokens behind it. Each step down takes one unit of fuel. -/
def readValue? (format : BinaryFormat) : ℕ → List Token → Option (Json × List Token)
  | _ + 1, .word word :: rest => (ofWord? format word).map (·, rest)
  | _ + 1, .text characters :: rest => some (text (.ofList characters), rest)
  | _ + 1, .openList :: .closeList :: rest => some (list [], rest)
  | fuel + 1, .openList :: rest =>
    (readItems? format fuel rest).map fun (items, rest) ↦ (list items, rest)
  | _ + 1, .openObject :: .closeObject :: rest => some (object [], rest)
  | fuel + 1, .openObject :: rest =>
    (readFields? format fuel rest).map fun (fields, rest) ↦ (object fields, rest)
  | _, _ => none

/-- Reads one or more items up to the end of their list. -/
def readItems? (format : BinaryFormat) : ℕ → List Token → Option (List Json × List Token)
  | fuel + 1, tokens =>
    match readValue? format fuel tokens with
    | some (item, .comma :: rest) =>
      (readItems? format fuel rest).map fun (items, rest) ↦ (item :: items, rest)
    | some (item, .closeList :: rest) => some ([item], rest)
    | _ => none
  | 0, _ => none

/-- Reads one or more fields up to the end of their object. -/
def readFields? (format : BinaryFormat) : ℕ → List Token → Option (List (String × Json) × List Token)
  | fuel + 1, .text name :: .colon :: tokens =>
    match readValue? format fuel tokens with
    | some (value, .comma :: rest) =>
      (readFields? format fuel rest).map fun (fields, rest) ↦
        ((.ofList name, value) :: fields, rest)
    | some (value, .closeObject :: rest) => some ([(.ofList name, value)], rest)
    | _ => none
  | _, _ => none

end

/-- The document that a text stands for, its numbers by way of a format. -/
def read? (format : BinaryFormat) (text : String) : Option Json :=
  (tokens? text.toList).bind fun tokens ↦
    match readValue? format tokens.length tokens with
    | some (document, []) => some document
    | _ => none

mutual

def IsFinite : Json → Prop
  | number x => x.isFinite
  | list items => ItemsAreFinite items
  | object fields => FieldsAreFinite fields
  | _ => True

def ItemsAreFinite : List Json → Prop
  | [] => True
  | item :: rest => IsFinite item ∧ ItemsAreFinite rest

def FieldsAreFinite : List (String × Json) → Prop
  | [] => True
  | (_, value) :: rest => IsFinite value ∧ FieldsAreFinite rest

end

theorem itemsAreFinite_iff {items : List Json} :
    ItemsAreFinite items ↔ ∀ item ∈ items, item.IsFinite := by
  induction items with
  | nil => simp [ItemsAreFinite]
  | cons item rest ih => rw [ItemsAreFinite, List.forall_mem_cons, ih]

theorem fieldsAreFinite_iff {fields : List (String × Json)} :
    FieldsAreFinite fields ↔ ∀ field ∈ fields, field.2.IsFinite := by
  induction fields with
  | nil => simp [FieldsAreFinite]
  | cons field rest ih => rw [FieldsAreFinite, List.forall_mem_cons, ih]

theorem isFinite_ofSingle (x : Single) : (ofSingle x).IsFinite := by
  unfold ofSingle
  split_ifs with h
  · exact h
  · trivial

theorem isFinite_ofOption (slot : Option Single) : (ofOption slot).IsFinite := by
  cases slot with
  | none => trivial
  | some x => exact isFinite_ofSingle x

mutual

def tokens (style : NumberStyle) : Json → List Token
  | list items => .openList :: [Token.comma].intercalate (itemTokens style items) ++ [.closeList]
  | object fields =>
    .openObject :: [Token.comma].intercalate (fieldTokens style fields) ++ [.closeObject]
  | text s => [.text s.toList]
  | leaf => [.word (leaf.leaf style).toList]

def itemTokens (style : NumberStyle) : List Json → List (List Token)
  | [] => []
  | item :: rest => tokens style item :: itemTokens style rest

def fieldTokens (style : NumberStyle) : List (String × Json) → List (List Token)
  | [] => []
  | (name, value) :: rest =>
    (.text name.toList :: .colon :: tokens style value) :: fieldTokens style rest

end

variable {style : NumberStyle} {document : Json}

/-- A number has a character that is no digit, and none of its characters begins another word. -/
theorem ofWord_number (hstyle : style.IsReadable) {x : Single} (hx : x.isFinite) :
    ofWord? style.format (style.text x).toList = some (number x) := by
  have hcharacters := Single.isCharacter_of_mem_text hstyle.isTextual hx
  obtain ⟨mark, hmark, hdigit⟩ := Single.exists_not_isDigit_mem_text hstyle.keepsFraction hx
  have hne {word : String} (h : ∃ c ∈ word.toList, Decimal.isCharacter c = false) :
      (style.text x).toList ≠ word.toList := by
    intro heq
    obtain ⟨c, hc, hcharacter⟩ := h
    rw [hcharacters c (heq ▸ hc)] at hcharacter
    cases hcharacter
  have hdigits : ¬(style.text x).toList.all Char.isDigit := by
    intro h
    rw [List.all_eq_true.mp h mark hmark] at hdigit
    cases hdigit
  rw [ofWord?, if_neg (hne ⟨'n', by decide, by decide⟩), if_neg (hne ⟨'t', by decide, by decide⟩),
    if_neg (hne ⟨'f', by decide, by decide⟩), if_neg hdigits,
    Single.ofText_text hstyle.isTextual hx, Option.map_some]

theorem ofWord_natural (format : BinaryFormat) (n : ℕ) :
    ofWord? format (toString n).toList = some (natural n) := by
  have hlist : (toString n).toList = Nat.toDigits 10 n := by
    rw [Nat.toString_eq_ofList_toDigits, String.toList_ofList]
  have hdigits := Decimal.isDigit_toDigits n
  have hne {word : String} (h : ∃ c ∈ word.toList, c.isDigit = false) :
      Nat.toDigits 10 n ≠ word.toList := by
    intro heq
    obtain ⟨c, hc, hdigit⟩ := h
    rw [List.all_eq_true.mp hdigits c (heq ▸ hc)] at hdigit
    cases hdigit
  rw [hlist, ofWord?, if_neg (hne ⟨'n', by decide, by decide⟩),
    if_neg (hne ⟨'t', by decide, by decide⟩), if_neg (hne ⟨'f', by decide, by decide⟩),
    if_pos hdigits, if_pos (Decimal.isWhole_toDigits n), Decimal.ofDigits_toDigits]

theorem readValue_word {word : List Char} {format : BinaryFormat}
    (h : ofWord? format word = some document) (fuel : ℕ) (rest : List Token) :
    readValue? format (fuel + 1) ([.word word] ++ rest) = some (document, rest) := by
  change (ofWord? format word).map _ = _
  rw [h]
  rfl

/-- No document begins with the end of a list. -/
theorem exists_tokens_eq_cons (style : NumberStyle) (document : Json) :
    ∃ first rest, document.tokens style = first :: rest ∧ first ≠ .closeList := by
  cases document <;> exact ⟨_, _, rfl, by simp⟩

/-- A list that does not end at once has items. -/
theorem readValue_openList {fuel : ℕ} {tokens : List Token} {format : BinaryFormat}
    (h : tokens.head? ≠ some .closeList) :
    readValue? format (fuel + 1) (.openList :: tokens) =
      (readItems? format fuel tokens).map fun (items, rest) ↦ (list items, rest) := by
  rw [readValue?]
  intro rest heq
  exact h (by rw [heq]; rfl)

theorem readValue_openObject {fuel : ℕ} {tokens : List Token} {format : BinaryFormat}
    (h : tokens.head? ≠ some .closeObject) :
    readValue? format (fuel + 1) (.openObject :: tokens) =
      (readFields? format fuel tokens).map fun (fields, rest) ↦ (object fields, rest) := by
  rw [readValue?]
  intro rest heq
  exact h (by rw [heq]; rfl)

theorem intercalate_cons_cons (first second : List Token) (rest : List (List Token)) :
    [Token.comma].intercalate (first :: second :: rest) =
      first ++ .comma :: [Token.comma].intercalate (second :: rest) := by
  rw [List.intercalate_cons_cons, List.append_assoc, List.singleton_append]

mutual

/-- Enough fuel for all tokens is enough to read them. -/
theorem readValue_tokens (hstyle : style.IsReadable) : ∀ (document : Json) (fuel : ℕ)
    (rest : List Token), document.IsFinite → (document.tokens style).length ≤ fuel →
      readValue? style.format fuel (document.tokens style ++ rest) = some (document, rest)
  | _, 0, _, _, hfuel => by
    obtain ⟨first, later, htokens, -⟩ := exists_tokens_eq_cons style (by assumption)
    simp [htokens] at hfuel
  | null, fuel + 1, rest, _, _ => readValue_word (by simp [ofWord?, leaf]) fuel rest
  | flag true, fuel + 1, rest, _, _ => readValue_word (by simp [ofWord?, leaf]) fuel rest
  | flag false, fuel + 1, rest, _, _ => readValue_word (by simp [ofWord?, leaf]) fuel rest
  | natural n, fuel + 1, rest, _, _ => readValue_word (ofWord_natural style.format n) fuel rest
  | number x, fuel + 1, rest, hfinite, _ => by
    have hx : x.isFinite := hfinite
    have hleaf : (number x).leaf style = style.text x := if_pos hx
    have hword := ofWord_number hstyle hx
    rw [← hleaf] at hword
    exact readValue_word hword fuel rest
  | text s, fuel + 1, rest, _, _ => by
    change some (text (.ofList s.toList), rest) = _
    rw [String.ofList_toList]
  | list [], fuel + 1, rest, _, _ => rfl
  | object [], fuel + 1, rest, _, _ => rfl
  | list (item :: items), fuel + 1, rest, hfinite, hfuel => by
    have hlength : ([Token.comma].intercalate (itemTokens style (item :: items))).length <
        fuel := by
      simp only [tokens, List.length_append, List.length_cons] at hfuel
      omega
    have hitems := readItems_tokens hstyle (item :: items) fuel rest (List.cons_ne_nil _ _) hfinite
      hlength
    have hhead : ([Token.comma].intercalate (itemTokens style (item :: items)) ++
        .closeList :: rest).head? ≠ some .closeList := by
      obtain ⟨first, later, htokens, hfirst⟩ := exists_tokens_eq_cons style item
      cases items <;> simp [itemTokens, htokens, hfirst]
    rw [tokens, List.append_assoc, List.singleton_append, List.cons_append,
      readValue_openList hhead, hitems, Option.map_some]
  | object ((name, value) :: fields), fuel + 1, rest, hfinite, hfuel => by
    have hlength : ([Token.comma].intercalate (fieldTokens style ((name, value) :: fields))).length <
        fuel := by
      simp only [tokens, List.length_append, List.length_cons] at hfuel
      omega
    have hfields := readFields_tokens hstyle ((name, value) :: fields) fuel rest
      (List.cons_ne_nil _ _) hfinite hlength
    have hhead : ([Token.comma].intercalate (fieldTokens style ((name, value) :: fields)) ++
        .closeObject :: rest).head? ≠ some .closeObject := by
      cases fields <;> simp [fieldTokens]
    rw [tokens, List.append_assoc, List.singleton_append, List.cons_append,
      readValue_openObject hhead, hfields, Option.map_some]

/-- The bracket behind the items takes one more unit of fuel. -/
theorem readItems_tokens (hstyle : style.IsReadable) : ∀ (items : List Json) (fuel : ℕ)
    (rest : List Token), items ≠ [] → ItemsAreFinite items →
      ([Token.comma].intercalate (itemTokens style items)).length < fuel →
        readItems? style.format fuel
          ([Token.comma].intercalate (itemTokens style items) ++ .closeList :: rest) =
            some (items, rest)
  | [], _, _, hne, _, _ => absurd rfl hne
  | _, 0, _, _, _, hfuel => absurd hfuel (Nat.not_lt_zero _)
  | [item], fuel + 1, rest, _, hfinite, hfuel => by
    have hlength : (item.tokens style).length ≤ fuel := by
      simpa [itemTokens, Nat.lt_succ_iff] using hfuel
    have hitem := readValue_tokens hstyle item fuel (.closeList :: rest) hfinite.1 hlength
    simp only [itemTokens, List.intercalate_singleton, readItems?, hitem]
  | item :: next :: items, fuel + 1, rest, _, hfinite, hfuel => by
    rw [itemTokens, itemTokens, intercalate_cons_cons, ← itemTokens] at hfuel ⊢
    rw [List.length_append, List.length_cons] at hfuel
    rw [List.append_assoc, List.cons_append]
    have hitem := readValue_tokens hstyle item fuel (.comma ::
      ([Token.comma].intercalate (itemTokens style (next :: items)) ++ .closeList :: rest))
      hfinite.1 (by omega)
    have hitems := readItems_tokens hstyle (next :: items) fuel rest (List.cons_ne_nil _ _)
      hfinite.2 (by omega)
    simp only [readItems?, hitem, hitems, Option.map_some]

theorem readFields_tokens (hstyle : style.IsReadable) : ∀ (fields : List (String × Json)) (fuel : ℕ)
    (rest : List Token), fields ≠ [] → FieldsAreFinite fields →
      ([Token.comma].intercalate (fieldTokens style fields)).length < fuel →
        readFields? style.format fuel
          ([Token.comma].intercalate (fieldTokens style fields) ++ .closeObject :: rest) =
            some (fields, rest)
  | [], _, _, hne, _, _ => absurd rfl hne
  | _, 0, _, _, _, hfuel => absurd hfuel (Nat.not_lt_zero _)
  | [(name, value)], fuel + 1, rest, _, hfinite, hfuel => by
    rw [fieldTokens, fieldTokens, List.intercalate_singleton] at hfuel ⊢
    rw [List.length_cons, List.length_cons] at hfuel
    have hvalue := readValue_tokens hstyle value fuel (.closeObject :: rest) hfinite.1 (by omega)
    rw [List.cons_append, List.cons_append]
    simp only [readFields?, hvalue, String.ofList_toList]
  | (name, value) :: (nextName, nextValue) :: fields, fuel + 1, rest, _, hfinite, hfuel => by
    rw [fieldTokens, fieldTokens, intercalate_cons_cons, ← fieldTokens] at hfuel ⊢
    rw [List.length_append, List.length_cons, List.length_cons, List.length_cons] at hfuel
    have hvalue := readValue_tokens hstyle value fuel (.comma ::
      ([Token.comma].intercalate (fieldTokens style ((nextName, nextValue) :: fields)) ++
        .closeObject :: rest)) hfinite.1 (by omega)
    have hfields := readFields_tokens hstyle ((nextName, nextValue) :: fields) fuel rest
      (List.cons_ne_nil _ _) hfinite.2 (by omega)
    rw [List.append_assoc, List.cons_append, List.cons_append, List.cons_append]
    simp only [readFields?, hvalue, hfields, Option.map_some, String.ofList_toList]

end

end BatteryTelemetry.Json
