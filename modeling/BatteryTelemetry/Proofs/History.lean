import Mathlib.Data.List.Induction

/-!
# Histories

A history lists what happened, the oldest entry first. `lastSaid?` is the last answer that its
entries give to a question, and `latest?` its latest entry with a property. If every step of a
fold overrides a view of the state with the answer of its entry, the view afterwards is the last
answer, or the view before when no entry answers (`view_foldl`). An answer may also depend on the
entries before its own: `latestAfter?` keeps those entries for `view_foldl_latestAfter`, and
`view_foldl_iff_latestAnswer` is for answers that some of the entries fail to give. If entries of
different streams commute, two histories with the same streams lead to the same state
(`foldl_eq_of_streams`).
-/

namespace BatteryTelemetry

variable {α β γ κ : Type}

/-- The last answer to a question in a history. -/
def lastSaid? (read : α → Option β) (history : List α) : Option β :=
  (history.filterMap read).getLast?

/-- The latest entry with a property in a history. -/
def latest? (p : α → Prop) [DecidablePred p] (history : List α) : Option α :=
  (history.filter p).getLast?

@[simp]
theorem lastSaid?_nil (read : α → Option β) : lastSaid? read [] = none := rfl

/-- Later entries are asked first. -/
theorem lastSaid?_append (read : α → Option β) (early late : List α) :
    lastSaid? read (early ++ late) = (lastSaid? read late).or (lastSaid? read early) := by
  simp [lastSaid?, List.getLast?_append]

@[simp]
theorem lastSaid?_cons (read : α → Option β) (entry : α) (late : List α) :
    lastSaid? read (entry :: late) = (lastSaid? read late).or (read entry) := by
  rw [← List.singleton_append, lastSaid?_append]
  cases h : read entry <;> simp [lastSaid?, h]

/-- Entries that say nothing leave the question open. -/
theorem lastSaid?_eq_none {read : α → Option β} {history : List α}
    (h : ∀ entry ∈ history, read entry = none) : lastSaid? read history = none := by
  simpa [lastSaid?, List.filterMap_eq_nil_iff] using h

theorem isSome_lastSaid?_iff {read : α → Option β} {history : List α} :
    (lastSaid? read history).isSome ↔ ∃ entry ∈ history, ∃ answer, read entry = some answer := by
  rw [lastSaid?, List.getLast?_isSome, Ne, List.filterMap_eq_nil_iff]
  simp only [not_forall, exists_prop, ← ne_eq, Option.ne_none_iff_exists']

/-- An answer on which all agree who give one is the last answer. -/
theorem lastSaid?_eq_some {read : α → Option β} {history : List α} (answer : β)
    (hmem : ∃ entry ∈ history, read entry = some answer)
    (hagree : ∀ entry ∈ history, ∀ other, read entry = some other → other = answer) :
    lastSaid? read history = some answer := by
  obtain ⟨entry, hentry, hread⟩ := hmem
  cases hlast : lastSaid? read history with
  | none =>
    have hnil : history.filterMap read = [] := by simpa [lastSaid?] using hlast
    have hmem := List.mem_filterMap.mpr ⟨entry, hentry, hread⟩
    simp [hnil] at hmem
  | some last =>
    obtain ⟨speaker, hspeaker, hsaid⟩ := List.mem_filterMap.mp (List.mem_of_getLast? hlast)
    rw [hagree speaker hspeaker last hsaid]

/-- A view that every step overrides with an answer shows the last answer in the end. -/
theorem view_foldl {step : γ → α → γ} (view : γ → Option β) {read : α → Option β}
    (hstep : ∀ state entry, view (step state entry) = (read entry).or (view state))
    (history : List α) (state : γ) :
    view (history.foldl step state) = (lastSaid? read history).or (view state) := by
  induction history generalizing state with
  | nil => rfl
  | cons entry late ih => rw [List.foldl_cons, ih, hstep, lastSaid?_cons, Option.or_assoc]

section Latest

variable {p : α → Prop} [DecidablePred p]

@[simp]
theorem latest?_nil : latest? p [] = none := rfl

theorem latest?_append (early late : List α) :
    latest? p (early ++ late) = (latest? p late).or (latest? p early) := by
  simp [latest?, List.getLast?_append]

theorem latest?_concat (early : List α) (entry : α) :
    latest? p (early ++ [entry]) = if p entry then some entry else latest? p early := by
  rw [latest?_append]
  by_cases h : p entry <;> simp [latest?, h]

theorem latest?_eq_none_iff {history : List α} :
    latest? p history = none ↔ ∀ entry ∈ history, ¬p entry := by
  simp [latest?]

/-- The latest entry with a property has it and is in the history. -/
theorem of_latest?_eq_some {history : List α} {entry : α} (h : latest? p history = some entry) :
    p entry ∧ entry ∈ history := by
  have hmem := List.mem_of_getLast? h
  simpa [and_comm] using hmem

/-- The answers of the entries with a property end with the answer of the latest one. -/
theorem lastSaid?_ite (answer : α → β) (history : List α) :
    lastSaid? (fun entry ↦ if p entry then some (answer entry) else none) history =
      (latest? p history).map answer := by
  induction history using List.reverseRecOn with
  | nil => rfl
  | append_singleton early last ih =>
    rw [lastSaid?_append, ih, latest?_concat]
    by_cases h : p last <;> simp [h]

end Latest

/-- The latest entry with a property, after the entries before it. -/
def latestAfter? (p : α → Prop) [DecidablePred p] (history : List α) : Option (List α × α) :=
  match history.reverse.dropWhile fun entry ↦ ¬p entry with
  | [] => none
  | entry :: early => some (early.reverse, entry)

section LatestAfter

variable {p : α → Prop} [DecidablePred p]

@[simp]
theorem latestAfter?_nil : latestAfter? p [] = none := rfl

end LatestAfter

/-- An answer is the latest one to a question about an entry and the entries before it. -/
def LatestAnswer (read : List α → α → Option β) (history : List α) (answer : β) : Prop :=
  ∃ early entry late, history = early ++ entry :: late ∧ read early entry = some answer ∧
    ∀ middle other rest, late = middle ++ other :: rest →
      read (early ++ entry :: middle) other = none

section Context

variable {read : List α → α → Option β}

theorem not_latestAnswer_nil (answer : β) : ¬LatestAnswer read [] answer := by
  rintro ⟨early, entry, late, heq, -⟩
  simp at heq

/-- The last entry gives the latest answer, or it gives none and the answer before stands. -/
theorem latestAnswer_concat {history : List α} {last : α} {answer : β} :
    LatestAnswer read (history ++ [last]) answer ↔
      read history last = some answer ∨
        read history last = none ∧ LatestAnswer read history answer := by
  constructor
  · rintro ⟨early, entry, late, heq, hread, hlate⟩
    rcases List.eq_nil_or_concat late with rfl | ⟨rest, final, rfl⟩
    · obtain ⟨rfl, hlast⟩ := List.append_inj' heq rfl
      obtain rfl : last = entry := by simpa using hlast
      exact .inl hread
    · have hsplit : history ++ [last] = (early ++ entry :: rest) ++ [final] := by simpa using heq
      obtain ⟨rfl, hlast⟩ := List.append_inj' hsplit rfl
      obtain rfl : last = final := by simpa using hlast
      refine .inr ⟨hlate rest last [] (by simp), early, entry, rest, rfl, hread, ?_⟩
      intro middle other others hrest
      exact hlate middle other (others ++ [last]) (by simp [hrest])
  · rintro (hread | ⟨hnone, early, entry, late, rfl, hread, hlate⟩)
    · exact ⟨history, last, [], rfl, hread, by simp⟩
    · refine ⟨early, entry, late ++ [last], by simp, hread, ?_⟩
      intro middle other rest heq
      rcases List.eq_nil_or_concat rest with rfl | ⟨others, final, rfl⟩
      · obtain ⟨rfl, hlast⟩ := List.append_inj' heq rfl
        obtain rfl : last = other := by simpa using hlast
        exact hnone
      · have hsplit : late ++ [last] = (middle ++ other :: others) ++ [final] := by
          simpa using heq
        obtain ⟨rfl, -⟩ := List.append_inj' hsplit rfl
        exact hlate middle other others rfl

/-- Answers may be put in other words. -/
theorem latestAnswer_map {δ : Type} {f : β → δ} {history : List α} {answer : δ} :
    LatestAnswer (fun early entry ↦ (read early entry).map f) history answer ↔
      ∃ a, answer = f a ∧ LatestAnswer read history a := by
  constructor
  · rintro ⟨early, entry, late, heq, hread, hlate⟩
    obtain ⟨a, ha, rfl⟩ := Option.map_eq_some_iff.mp hread
    refine ⟨a, rfl, early, entry, late, heq, ha, fun middle other rest hsplit ↦ ?_⟩
    exact Option.map_eq_none_iff.mp (hlate middle other rest hsplit)
  · rintro ⟨a, rfl, early, entry, late, heq, hread, hlate⟩
    refine ⟨early, entry, late, heq, Option.map_eq_some_iff.mpr ⟨a, hread, rfl⟩, ?_⟩
    intro middle other rest hsplit
    exact Option.map_eq_none_iff.mpr (hlate middle other rest hsplit)

/-- There is a latest answer if any entry answers. -/
theorem exists_latestAnswer_iff {history : List α} :
    (∃ answer, LatestAnswer read history answer) ↔
      ∃ early entry late, history = early ++ entry :: late ∧ (read early entry).isSome := by
  constructor
  · rintro ⟨answer, early, entry, late, heq, hread, -⟩
    exact ⟨early, entry, late, heq, by simp [hread]⟩
  · rintro ⟨early, entry, late, rfl, hsome⟩
    induction late using List.reverseRecOn with
    | nil =>
      obtain ⟨answer, hanswer⟩ := Option.isSome_iff_exists.mp hsome
      exact ⟨answer, early, entry, [], rfl, hanswer, by simp⟩
    | append_singleton late last ih =>
      rw [← List.cons_append, ← List.append_assoc]
      cases hlast : read (early ++ entry :: late) last with
      | some answer => exact ⟨answer, latestAnswer_concat.mpr (.inl hlast)⟩
      | none =>
        obtain ⟨answer, hanswer⟩ := ih
        exact ⟨answer, latestAnswer_concat.mpr (.inr ⟨hlast, hanswer⟩)⟩

/-- A view that every step of a run overrides with an answer shows the latest answer. -/
theorem view_foldl_iff_latestAnswer {step : γ → α → γ} (view : γ → Option β) {start : γ}
    (hstart : view start = none)
    (hstep : ∀ history entry, view (step (history.foldl step start) entry) =
      (read history entry).or (view (history.foldl step start)))
    (history : List α) (answer : β) :
    view (history.foldl step start) = some answer ↔ LatestAnswer read history answer := by
  induction history using List.reverseRecOn with
  | nil => simp [hstart, not_latestAnswer_nil]
  | append_singleton history last ih =>
    rw [List.foldl_append, List.foldl_cons, List.foldl_nil, hstep, latestAnswer_concat, ← ih]
    cases read history last <;> simp

end Context

/-! ## Entries of separate streams -/

section Stream

variable {step : γ → α → γ} {stream : α → Option κ}

/-- Entries of no stream can be left out. -/
theorem foldl_eq_self (hnone : ∀ state entry, stream entry = none → step state entry = state)
    {history : List α} (h : ∀ entry ∈ history, stream entry = none) (state : γ) :
    history.foldl step state = state := by
  induction history generalizing state with
  | nil => rfl
  | cons entry late ih =>
    rw [List.foldl_cons, hnone state entry (h entry (by simp))]
    exact ih (fun other hother ↦ h other (by simp [hother])) state

/-- An entry may be moved before entries of other streams. -/
theorem foldl_append_cons_of_stream_ne
    (hcomm : ∀ state a b, stream a ≠ stream b → step (step state a) b = step (step state b) a)
    {early : List α} {entry : α} (h : ∀ other ∈ early, stream other ≠ stream entry)
    (late : List α) (state : γ) :
    (early ++ entry :: late).foldl step state = (early ++ late).foldl step (step state entry) := by
  induction early generalizing state with
  | nil => rfl
  | cons other early ih =>
    rw [List.cons_append, List.foldl_cons, ih (fun a ha ↦ h a (by simp [ha])),
      hcomm state other entry (h other (by simp))]
    rfl

variable [DecidableEq κ]

/-- If entries of different streams commute, the streams decide the outcome. -/
theorem foldl_eq_of_streams
    (hnone : ∀ state entry, stream entry = none → step state entry = state)
    (hcomm : ∀ state a b, stream a ≠ stream b → step (step state a) b = step (step state b) a)
    {xs ys : List α}
    (h : ∀ k, xs.filter (stream · = some k) = ys.filter (stream · = some k)) (state : γ) :
    xs.foldl step state = ys.foldl step state := by
  induction xs generalizing ys state with
  | nil =>
    have hys : ∀ entry ∈ ys, stream entry = none := by
      intro entry hentry
      apply Option.eq_none_iff_forall_not_mem.mpr
      intro k hk
      have hmem : entry ∈ ys.filter (stream · = some k) :=
        List.mem_filter.mpr ⟨hentry, by simpa using hk⟩
      rw [← h k] at hmem
      simp at hmem
    exact (foldl_eq_self hnone hys state).symm
  | cons x xs ih =>
    cases hx : stream x with
    | none =>
      rw [List.foldl_cons, hnone state x hx]
      apply ih
      intro k
      simpa [hx] using h k
    | some k =>
      have hk := h k
      rw [List.filter_cons_of_pos (by simp [hx]), eq_comm, List.filter_eq_cons_iff] at hk
      obtain ⟨early, late, rfl, hearly, -, -⟩ := hk
      have hne : ∀ other ∈ early, stream other ≠ stream x := by
        simpa [hx] using hearly
      rw [List.foldl_cons, foldl_append_cons_of_stream_ne hcomm hne]
      apply ih
      intro j
      have hj := h j
      rw [List.filter_append] at hj ⊢
      by_cases hjk : j = k
      · subst hjk
        have hnil : early.filter (stream · = some j) = [] := by
          simpa [hx] using hne
        simpa [hx, hnil] using hj
      · have hxj : k ≠ j := fun heq ↦ hjk heq.symm
        simpa [hx, hxj] using hj

end Stream

end BatteryTelemetry
