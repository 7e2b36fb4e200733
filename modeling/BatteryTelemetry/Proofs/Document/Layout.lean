import BatteryTelemetry.Proofs.Document.Reader

/-!
# Both layouts are read back

On one line the tokens of a document follow each other. Over several lines each line has tokens of
its own, since no token is broken by a line feed, and the indentation is blank. In both layouts the
text has the tokens of the document, so the document is read back (`read_compact`, `read_lines`).
-/

namespace BatteryTelemetry.Json

variable {style : NumberStyle}

theorem endsWord_mark {c : Char} {mark : Token} (h : mark? c = some mark) (rest : List Char) :
    EndsWord (c :: rest) := by
  apply endsWord_cons
  simp [isWordCharacter, h]

theorem isWordCharacter_of_isCharacter {c : Char} (h : Decimal.isCharacter c) :
    isWordCharacter c := by
  refine isWordCharacter_iff.mpr ⟨?_, ?_, ?_⟩
  · unfold mark?
    split <;> first | rfl | exact absurd h (by decide)
  · by_contra hblank
    simp only [isBlank, Bool.not_eq_false, Bool.or_eq_true, decide_eq_true_eq] at hblank
    rcases hblank with ((rfl | rfl) | rfl) | rfl <;> exact absurd h (by decide)
  · rintro rfl
    exact absurd h (by decide)

/-- The text of a number has no mark, blank or quotation mark in it. -/
theorem tokens_number (hstyle : style.IsReadable) {x : Single} (hx : x.isFinite) :
    tokens? (style.text x).toList = some [.word (style.text x).toList] := by
  apply tokens_word
  · intro hnil
    have hread := Single.ofText_text hstyle.isTextual hx
    rw [hnil] at hread
    cases hread
  · exact List.all_eq_true.mpr fun c hc ↦ isWordCharacter_of_isCharacter
      (Single.isCharacter_of_mem_text hstyle.isTextual hx c hc)

theorem tokens_natural (n : ℕ) :
    tokens? (toString n).toList = some [.word (toString n).toList] := by
  have hlist : (toString n).toList = Nat.toDigits 10 n := by
    rw [Nat.toString_eq_ofList_toDigits, String.toList_ofList]
  rw [hlist]
  refine tokens_word Nat.toDigits_ne_nil (List.all_eq_true.mpr fun c hc ↦ ?_)
  apply isWordCharacter_of_isCharacter
  exact Decimal.isCharacter_of_isDigit (Nat.isDigit_of_mem_toDigits (by decide) (by decide) hc)

/-! ## One line -/

theorem tokens_mark_append {c : Char} {mark : Token} (h : mark? c = some mark) {rest : List Char}
    {tokens : List Token} (hrest : tokens? rest = some tokens) :
    tokens? (c :: rest) = some (mark :: tokens) := by
  rw [tokens_cons_mark h, hrest, Option.map_some]

def HasTokens (text : String) (tokens : List Token) : Prop := tokens? text.toList = some tokens

/-- Texts with commas between them have the tokens of the texts and the commas. -/
theorem tokens_intercalate_comma {texts : List String} {parts : List (List Token)}
    (h : List.Forall₂ HasTokens texts parts) :
    HasTokens (String.intercalate "," texts) ([Token.comma].intercalate parts) := by
  induction h with
  | nil => rfl
  | @cons text tokens texts parts hfirst hrest ih =>
    cases hrest with
    | nil => rwa [String.intercalate_singleton, List.intercalate_singleton]
    | @cons next nextTokens others otherParts hnext hothers =>
      rw [HasTokens, String.intercalate_cons_cons, intercalate_cons_cons, String.toList_append,
        String.toList_append, List.append_assoc]
      exact tokens_append (endsWord_mark rfl _) (tokens_mark_append rfl ih) hfirst

/-- Texts within brackets have the tokens of the brackets around theirs. -/
theorem tokens_brackets {opening closing : String} {first last : Token} {c d : Char}
    (hopening : opening.toList = [c]) (hclosing : closing.toList = [d]) (hc : mark? c = some first)
    (hd : mark? d = some last) {texts : List String} {parts : List (List Token)}
    (h : List.Forall₂ HasTokens texts parts) :
    HasTokens (opening ++ String.intercalate "," texts ++ closing)
      (first :: [Token.comma].intercalate parts ++ [last]) := by
  rw [HasTokens, String.toList_append, String.toList_append, hopening, hclosing, List.append_assoc,
    List.singleton_append]
  apply tokens_mark_append hc
  apply tokens_append (endsWord_mark hd _) _ (tokens_intercalate_comma h)
  exact tokens_mark_append hd rfl

theorem tokens_null : tokens? "null".toList = some [.word "null".toList] :=
  tokens_word (by decide) (by decide)

theorem tokens_flag : ∀ b : Bool, tokens? ((flag b).compact style).toList =
    some ((flag b).tokens style)
  | true => (tokens_word (by decide) (by decide) : tokens? "true".toList = _)
  | false => (tokens_word (by decide) (by decide) : tokens? "false".toList = _)

theorem leaf_number {x : Single} (hx : x.isFinite) : (number x).leaf style = style.text x :=
  if_pos hx

theorem tokens_leaf_number (hstyle : style.IsReadable) {x : Single} (hx : x.isFinite) :
    tokens? ((number x).leaf style).toList = some ((number x).tokens style) := by
  rw [tokens, leaf_number hx]
  · exact tokens_number hstyle hx
  all_goals simp

/-- A name, a colon and a value, with or without a blank behind the colon. -/
theorem tokens_field (name : String) {value : List Char} {later : List Token}
    (hvalue : tokens? value = some later) (blanks : List Char)
    (hblanks : blanks.all isBlank) :
    tokens? ((quoted name).toList ++ ':' :: (blanks ++ value)) =
      some (.text name.toList :: .colon :: later) := by
  have hskipped : tokens? (blanks ++ value) = some later := by
    induction blanks with
    | nil => exact hvalue
    | cons c rest ih =>
      obtain ⟨hc, hrest⟩ := Bool.and_eq_true_iff.mp (List.all_cons.symm.trans hblanks)
      rw [List.cons_append, tokens_cons_blank hc]
      exact ih hrest
  rw [tokens_quoted, tokens_mark_append rfl hskipped, Option.map_some]

mutual

/-- By recursion on the document, the names and values of its fields alike. -/
theorem tokens_compact (hstyle : style.IsReadable) : ∀ document : Json, document.IsFinite →
    HasTokens (document.compact style) (document.tokens style)
  | null, _ => tokens_null
  | flag b, _ => tokens_flag b
  | natural n, _ => tokens_natural n
  | number _, hfinite => tokens_leaf_number hstyle hfinite
  | text s, _ => by
    have hquoted := tokens_quoted s []
    rw [List.append_nil] at hquoted
    exact hquoted
  | list items, hfinite =>
    tokens_brackets rfl rfl rfl rfl (tokens_compactItems hstyle items hfinite)
  | object fields, hfinite =>
    tokens_brackets rfl rfl rfl rfl (tokens_compactFields hstyle fields hfinite)

theorem tokens_compactItems (hstyle : style.IsReadable) : ∀ items : List Json,
    ItemsAreFinite items →
      List.Forall₂ HasTokens (compactItems style items) (itemTokens style items)
  | [], _ => .nil
  | item :: rest, hfinite =>
    .cons (tokens_compact hstyle item hfinite.1) (tokens_compactItems hstyle rest hfinite.2)

theorem tokens_compactFields (hstyle : style.IsReadable) : ∀ fields : List (String × Json),
    FieldsAreFinite fields →
      List.Forall₂ HasTokens (compactFields style fields) (fieldTokens style fields)
  | [], _ => .nil
  | (name, value) :: rest, hfinite => by
    refine .cons ?_ (tokens_compactFields hstyle rest hfinite.2)
    have hfield := tokens_field name (tokens_compact hstyle value hfinite.1) [] rfl
    simpa [HasTokens] using hfield

end

/-- A text is read as the document that has its tokens. -/
theorem read_of_tokens (hstyle : style.IsReadable) {document : Json} (hfinite : document.IsFinite)
    {text : String} (h : HasTokens text (document.tokens style)) :
    read? style.format text = some document := by
  have hread := readValue_tokens hstyle document _ [] hfinite le_rfl
  rw [List.append_nil] at hread
  rw [read?, h, Option.bind_some, hread]

/-- A document on one line is read back. -/
theorem read_compact (hstyle : style.IsReadable) {document : Json} (hfinite : document.IsFinite) :
    read? style.format (document.compact style) = some document :=
  read_of_tokens hstyle hfinite (tokens_compact hstyle document hfinite)

/-! ## Several lines -/

/-- Lines have tokens one after the other, each line its own. -/
inductive HaveTokens : List String → List Token → Prop where
  | nil : HaveTokens [] []
  | cons {line : String} {tokens later : List Token} {lines : List String}
      (hline : HasTokens line tokens) (hlines : HaveTokens lines later) :
      HaveTokens (line :: lines) (tokens ++ later)

theorem HaveTokens.singleton {line : String} {tokens : List Token} (h : HasTokens line tokens) :
    HaveTokens [line] tokens := by
  have hlines := HaveTokens.cons h .nil
  rwa [List.append_nil] at hlines

section HaveTokens

variable {lines others : List String} {tokens later : List Token}

theorem HaveTokens.append (h : HaveTokens lines tokens) (hothers : HaveTokens others later) :
    HaveTokens (lines ++ others) (tokens ++ later) := by
  induction h with
  | nil => exact hothers
  | cons hline _ ih =>
    rw [List.cons_append, List.append_assoc]
    exact .cons hline ih

/-- Indentation does not matter. -/
theorem HaveTokens.indent (h : HaveTokens lines tokens) :
    HaveTokens (lines.map ("  " ++ ·)) tokens := by
  induction h with
  | nil => exact .nil
  | cons hline _ ih =>
    refine .cons ?_ ih
    rw [HasTokens, String.toList_append]
    exact (tokens_cons_blank rfl _).trans ((tokens_cons_blank rfl _).trans hline)

def endWith (mark : String) (lines : List String) : List String :=
  lines.dropLast ++ [lines.getLastD "" ++ mark]

/-- A comma behind the last line is a token behind the others. -/
theorem HaveTokens.endWith_comma (h : HaveTokens lines tokens) (hne : lines ≠ []) :
    HaveTokens (endWith "," lines) (tokens ++ [.comma]) := by
  induction h with
  | nil => exact absurd rfl hne
  | @cons line tokens later lines hline hlines ih =>
    cases hlines with
    | nil =>
      rw [List.append_nil]
      refine .singleton ?_
      have hcomma : tokens? [','] = some [.comma] := rfl
      simpa [HasTokens] using tokens_append (endsWord_mark rfl []) hcomma hline
    | cons hnext hothers =>
      rw [List.append_assoc]
      exact .cons hline (ih (List.cons_ne_nil _ _))

/-- A name in front of the first line is two tokens in front of the others. -/
theorem HaveTokens.withLabel (name : String) (h : HaveTokens lines tokens) (hne : lines ≠ []) :
    HaveTokens (withLabel name lines) (.text name.toList :: .colon :: tokens) := by
  cases h with
  | nil => exact absurd rfl hne
  | @cons line tokens later lines hline hlines =>
    change HaveTokens ((quoted name ++ ": " ++ line) :: lines)
      ((.text name.toList :: .colon :: tokens) ++ later)
    refine .cons ?_ hlines
    have hfield := tokens_field name hline [' '] rfl
    simpa [HasTokens] using hfield

/-- Lines with line feeds between them have the tokens of the lines. -/
theorem HaveTokens.join (h : HaveTokens lines tokens) :
    HasTokens (String.intercalate "\n" lines) tokens := by
  induction h with
  | nil => rfl
  | @cons line tokens later lines hline hlines ih =>
    cases hlines with
    | nil => rwa [String.intercalate_singleton, List.append_nil]
    | cons hnext hothers =>
      rw [HasTokens, String.intercalate_cons_cons, String.toList_append, String.toList_append,
        List.append_assoc]
      exact tokens_append (endsWord_cons rfl _) ((tokens_cons_blank rfl _).trans ih) hline

end HaveTokens

def separate : List (List String) → List (List String)
  | [] => []
  | [part] => [part]
  | part :: next :: rest => endWith "," part :: separate (next :: rest)

/-- Separating the parts one by one instead of by their numbers. -/
theorem bracket_eq (opening closing : String) (parts : List (List String)) :
    bracket opening closing parts =
      opening :: (separate parts).flatten.map ("  " ++ ·) ++ [closing] := by
  have hseparate : parts.mapIdx (fun index part ↦
      if index + 1 = parts.length then part
      else part.dropLast ++ [part.getLastD "" ++ ","]) = separate parts := by
    induction parts with
    | nil => rfl
    | cons part rest ih =>
      cases rest with
      | nil => rfl
      | cons next rest =>
        rw [List.mapIdx_cons, separate, ← ih]
        simp [endWith]
  rw [bracket, hseparate]

theorem haveTokens_separate {parts : List (List String)} {tokens : List (List Token)}
    (h : List.Forall₂ HaveTokens parts tokens) (hne : ∀ part ∈ parts, part ≠ []) :
    HaveTokens (separate parts).flatten ([Token.comma].intercalate tokens) := by
  induction h with
  | nil => exact .nil
  | @cons part partTokens rest restTokens hpart hrest ih =>
    obtain ⟨hpartNe, hrestNe⟩ := List.forall_mem_cons.mp hne
    cases hrest with
    | nil => simpa [separate] using hpart
    | cons hnext hothers =>
      rw [separate, List.flatten_cons, intercalate_cons_cons, List.append_cons]
      exact (hpart.endWith_comma hpartNe).append (ih hrestNe)

/-- Brackets on lines of their own are tokens around those of the parts. -/
theorem haveTokens_bracket {opening closing : String} {first last : Token}
    (hopening : tokens? opening.toList = some [first])
    (hclosing : tokens? closing.toList = some [last]) {parts : List (List String)}
    {tokens : List (List Token)} (h : List.Forall₂ HaveTokens parts tokens)
    (hne : ∀ part ∈ parts, part ≠ []) :
    HaveTokens (bracket opening closing parts)
      (first :: [Token.comma].intercalate tokens ++ [last]) := by
  rw [bracket_eq]
  exact (HaveTokens.cons hopening (haveTokens_separate h hne).indent).append (.singleton hclosing)

theorem withLabel_ne_nil (name : String) {lines : List String} (h : lines ≠ []) :
    withLabel name lines ≠ [] := by
  cases lines with
  | nil => exact absurd rfl h
  | cons first rest => exact List.cons_ne_nil _ _

theorem bracket_ne_nil (opening closing : String) (parts : List (List String)) :
    bracket opening closing parts ≠ [] := by
  rw [bracket_eq]
  exact List.cons_ne_nil _ _

/-- Every document has a line, so a name and a comma find their place. -/
theorem lines_ne_nil (style : NumberStyle) : ∀ document : Json, document.lines style ≠ []
  | list (_ :: _) => bracket_ne_nil _ _ _
  | object (_ :: _) => bracket_ne_nil _ _ _
  | null | flag _ | natural _ | number _ | text _ | list [] | object [] => List.cons_ne_nil _ _

theorem itemLines_ne_nil (style : NumberStyle) : ∀ items : List Json,
    ∀ part ∈ itemLines style items, part ≠ []
  | [] => by simp [itemLines]
  | item :: rest => List.forall_mem_cons.mpr ⟨lines_ne_nil style item, itemLines_ne_nil style rest⟩

theorem fieldLines_ne_nil (style : NumberStyle) : ∀ fields : List (String × Json),
    ∀ part ∈ fieldLines style fields, part ≠ []
  | [] => by simp [fieldLines]
  | (name, value) :: rest => List.forall_mem_cons.mpr
    ⟨withLabel_ne_nil name (lines_ne_nil style value), fieldLines_ne_nil style rest⟩

mutual

/-- By recursion on the document, as on one line. -/
theorem haveTokens_lines (hstyle : style.IsReadable) : ∀ document : Json, document.IsFinite →
    HaveTokens (document.lines style) (document.tokens style)
  | null, _ => .singleton tokens_null
  | flag b, _ => .singleton (tokens_flag b)
  | natural n, _ => .singleton (tokens_natural n)
  | number _, hfinite => .singleton (tokens_leaf_number hstyle hfinite)
  | text s, hfinite => .singleton (tokens_compact hstyle (text s) hfinite)
  | list [], hfinite => .singleton (tokens_compact hstyle (list []) hfinite)
  | object [], hfinite => .singleton (tokens_compact hstyle (object []) hfinite)
  | list (item :: rest), hfinite =>
    haveTokens_bracket rfl rfl (haveTokens_itemLines hstyle (item :: rest) hfinite)
      (itemLines_ne_nil style (item :: rest))
  | object ((name, value) :: rest), hfinite =>
    haveTokens_bracket rfl rfl (haveTokens_fieldLines hstyle ((name, value) :: rest) hfinite)
      (fieldLines_ne_nil style ((name, value) :: rest))

theorem haveTokens_itemLines (hstyle : style.IsReadable) : ∀ items : List Json,
    ItemsAreFinite items →
      List.Forall₂ HaveTokens (itemLines style items) (itemTokens style items)
  | [], _ => .nil
  | item :: rest, hfinite =>
    .cons (haveTokens_lines hstyle item hfinite.1) (haveTokens_itemLines hstyle rest hfinite.2)

theorem haveTokens_fieldLines (hstyle : style.IsReadable) : ∀ fields : List (String × Json),
    FieldsAreFinite fields →
      List.Forall₂ HaveTokens (fieldLines style fields) (fieldTokens style fields)
  | [], _ => .nil
  | (name, value) :: rest, hfinite =>
    .cons ((haveTokens_lines hstyle value hfinite.1).withLabel name (lines_ne_nil style value))
      (haveTokens_fieldLines hstyle rest hfinite.2)

end

/-- A document over several lines is read back from the lines with line feeds between them. -/
theorem read_lines (hstyle : style.IsReadable) {document : Json} (hfinite : document.IsFinite) :
    read? style.format (String.intercalate "\n" (document.lines style)) = some document :=
  read_of_tokens hstyle hfinite (haveTokens_lines hstyle document hfinite).join

end BatteryTelemetry.Json
