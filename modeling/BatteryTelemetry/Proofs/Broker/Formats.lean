import BatteryTelemetry.Broker.Message
import BatteryTelemetry.Proofs.Decoder.Range
import BatteryTelemetry.Proofs.Document.Layout
import BatteryTelemetry.Proofs.Document.Listing
import Mathlib.Data.List.Basic

/-!
# Both formats tell the same values

In separate messages and in one document a broker is told the same values. Reachable stores hold
finite numbers only, so the leaves of the document that are not null are the values of the store,
and there is one message for each of them, in ascending order of names and blocks
(`formats_agree`). Names of metrics and digits of blocks have no separator and no wildcard in them,
so the topics differ, and whether one of them can be published to depends on the topic above them.
-/

namespace BatteryTelemetry.Broker

/-! ## Topics -/

def placeTopic (topic : String) (place : Place) : String :=
  String.intercalate "/" (topic :: place.path)

def placeText : Place → List Char
  | .scalar metric => metric.name.toList
  | .block metric index => metric.name.toList ++ '/' :: Nat.toDigits 10 index

theorem toList_placeTopic (topic : String) (place : Place) :
    (placeTopic topic place).toList = topic.toList ++ '/' :: placeText place := by
  cases place <;> simp [placeTopic, Place.path, placeText]

/-- Names have neither the separator nor a wildcard in them. -/
theorem notMem_name (place : Place) : '/' ∉ place.name.toList ∧ '+' ∉ place.name.toList ∧
    '#' ∉ place.name.toList := by
  cases place with
  | scalar metric => cases metric <;> decide
  | block metric index =>
    change '/' ∉ metric.name.toList ∧ '+' ∉ metric.name.toList ∧ '#' ∉ metric.name.toList
    cases metric <;> decide

/-- Digits are none of these characters either. -/
theorem notMem_toDigits (index : Nat) : '/' ∉ Nat.toDigits 10 index ∧
    '+' ∉ Nat.toDigits 10 index ∧ '#' ∉ Nat.toDigits 10 index := by
  have hdigit (c : Char) (hc : c.isDigit = false) : c ∉ Nat.toDigits 10 index := by
    intro hmem
    rw [Nat.isDigit_of_mem_toDigits (by decide) (by decide) hmem] at hc
    cases hc
  exact ⟨hdigit '/' (by decide), hdigit '+' (by decide), hdigit '#' (by decide)⟩

theorem isPublishable_iff {topic : String} :
    isPublishable topic ↔ '+' ∉ topic.toList ∧ '#' ∉ topic.toList := by
  simp only [isPublishable, List.all_eq_true, Bool.and_eq_true, decide_eq_true_eq]
  constructor
  · exact fun h ↦ ⟨fun hplus ↦ (h _ hplus).1 rfl, fun hhash ↦ (h _ hhash).2 rfl⟩
  · rintro ⟨hplus, hhash⟩ c hc
    constructor <;> rintro rfl
    · exact hplus hc
    · exact hhash hc

/-- What is below a topic can be published to if and only if the topic can. -/
theorem isPublishable_placeTopic (topic : String) (place : Place) :
    isPublishable (placeTopic topic place) = isPublishable topic := by
  have hname := notMem_name place
  have htext : '+' ∉ placeText place ∧ '#' ∉ placeText place := by
    cases place with
    | scalar metric => exact hname.2
    | block metric index =>
      have hdigits := notMem_toDigits index
      change '+' ∉ metric.name.toList ++ _ ∧ '#' ∉ metric.name.toList ++ _
      simp only [List.mem_append, List.mem_cons, not_or]
      exact ⟨⟨hname.2.1, by decide, hdigits.2.1⟩, hname.2.2, by decide, hdigits.2.2⟩
  rw [Bool.eq_iff_iff, isPublishable_iff, isPublishable_iff, toList_placeTopic]
  simp [htext]

/-- No two places have one topic. -/
theorem placeTopic_injective {topic : String} {p q : Place}
    (h : placeTopic topic p = placeTopic topic q) : p = q := by
  have htext : placeText p = placeText q := by
    have hlist := congrArg String.toList h
    rw [toList_placeTopic, toList_placeTopic] at hlist
    exact (List.cons.inj (List.append_cancel_left hlist)).2
  have hseparator (place : Place) : '/' ∉ place.name.toList := (notMem_name place).1
  cases p with
  | scalar m =>
    cases q with
    | scalar n => rw [Metric.name_injective (String.toList_inj.mp htext)]
    | block n j =>
      refine absurd ?_ (hseparator (.scalar m))
      change '/' ∈ placeText (.scalar m)
      rw [htext]
      simp [placeText]
  | block m i =>
    cases q with
    | scalar n =>
      refine absurd ?_ (hseparator (.scalar n))
      change '/' ∈ placeText (.scalar n)
      rw [← htext]
      simp [placeText]
    | block n j =>
      obtain ⟨hname, -, hdigits⟩ := (List.append_cons_inj_of_notMem (hseparator (.block m i))
        (notMem_toDigits i).1).mp htext
      have hindex : i = j := by
        calc
          i = Nat.ofDigitChars 10 (Nat.toDigits 10 i) 0 := Nat.ofDigitChars_ten_toDigits.symm
          _ = Nat.ofDigitChars 10 (Nat.toDigits 10 j) 0 := by rw [hdigits]
          _ = j := Nat.ofDigitChars_ten_toDigits
      rw [CellMetric.name_injective (String.toList_inj.mp hname), hindex]

/-- A leaf as a payload: a text without quotes, anything else as JSON. -/
def leafText : Json → String
  | .text s => s
  | leaf => leaf.compact .wide

theorem leafMessage?_eq (topic : String) (leaf : Json.Path × Json) :
    leafMessage? topic leaf =
      if leaf.2.isNull then none
      else some ⟨String.intercalate "/" (topic :: leaf.1), leafText leaf.2⟩ := by
  obtain ⟨path, value⟩ := leaf
  cases value <;> rfl

/-- There is a message for each leaf that is not null. -/
theorem filterMap_leafMessage? (topic : String) (leaves : List (Json.Path × Json)) :
    leaves.filterMap (leafMessage? topic) =
      (leaves.filter fun leaf ↦ !leaf.2.isNull).map fun leaf ↦
        ⟨String.intercalate "/" (topic :: leaf.1), leafText leaf.2⟩ := by
  induction leaves with
  | nil => rfl
  | cons leaf rest ih =>
    cases hnull : leaf.2.isNull <;> simp [leafMessage?_eq, hnull, ← ih]

def placeMessage (topic : String) (entry : Place × Value) : Message :=
  ⟨placeTopic topic entry.1, leafText entry.2.json⟩

/-! ## Agreement -/

def fieldsOf : Json → List (String × Json)
  | .object fields => fields
  | _ => []

/-- A topic that cannot be published to. -/
def HasWildcard (topic : String) : Prop := '+' ∈ topic.toList ∨ '#' ∈ topic.toList

instance (topic : String) : Decidable (HasWildcard topic) := inferInstanceAs (Decidable (_ ∨ _))

theorem isPublishable_iff_not_hasWildcard {topic : String} :
    isPublishable topic ↔ ¬HasWildcard topic := by
  rw [isPublishable_iff, HasWildcard, not_or]

/-- How a value stands in a message: a number and a truth value as in JSON, a label by itself. -/
def IsPayload (payload : String) : Value → Prop
  | .number x => Json.read? .double payload = some (.number x)
  | .flag b => payload = if b then "true" else "false"
  | .label text => payload = text

/-- The two formats tell the entries, which are the values of the store, and nothing else. -/
structure FormatsAgree (topic time : String) (store : Store) (entries : List (Place × Value)) :
    Prop where
  listing : store.IsListing entries
  /-- The document has a field for its time and for each published metric. -/
  fields_perm : (fieldsOf (document time store)).Perm
    (("timestamp", .text time) ::
      (store.written.map (fun entry ↦ (entry.1.name, entry.2.leaf)) ++
        store.writtenRows.map fun entry ↦ (entry.1.name, .list (entry.2.slots.map slotLeaf))))
  names_ascending : Json.Ascending (fieldsOf (document time store))
  /-- Without its time the document tells the values, besides which blocks are unknown. -/
  leaves_eq : (Json.leaves ((document time store).without "timestamp")).filter
    (fun leaf ↦ !leaf.2.isNull) = entries.map fun entry ↦ (entry.1.path, entry.2.leaf)
  /-- No two values have one topic. -/
  topics_nodup : (entries.map fun entry ↦ placeTopic topic entry.1).Nodup
  /-- Separate messages are those of the entries, in their order. -/
  simple : ∃ published, messages .simple topic time store = .ok published ∧
    if HasWildcard topic then published = []
    else published = entries.map (placeMessage topic) ∧
      List.Forall₂ (fun entry message ↦ message.topic = placeTopic topic entry.1 ∧
        IsPayload message.payload entry.2) entries published
  /-- One message is the text of the document, which can be read back from it. -/
  json : if HasWildcard topic then messages .json topic time store = .error ⟨topic⟩
    else ∃ payload, messages .json topic time store = .ok [⟨topic, payload⟩] ∧
      payload = (document time store).compact .wide ∧
      Json.read? .double payload = some (document time store)

theorem timestamp_notMem_metricNames : timestamp ∉ metricNames := by decide

theorem timestamp_ne {store : Store} : ∀ field ∈ store.snapshot, timestamp ≠ field.1 := by
  intro field hfield heq
  exact timestamp_notMem_metricNames (heq ▸ store.fst_mem_metricNames hfield)

/-- The time is no metric, so leaving it out leaves the snapshot. -/
theorem without_timestamp (time : String) (store : Store) :
    (document time store).without timestamp = .object store.snapshot := by
  rw [document, Json.without, Json.filter_insertField]
  exact fun field hfield heq ↦ timestamp_ne field hfield heq.symm

/-- The messages are passed over all together or not at all. -/
theorem filter_placeMessage (topic : String) (entries : List (Place × Value)) :
    (entries.map (placeMessage topic)).filter (isPublishable ·.topic) =
      if isPublishable topic then entries.map (placeMessage topic) else [] := by
  have hall : ∀ message ∈ entries.map (placeMessage topic),
      isPublishable message.topic = isPublishable topic := by
    intro message hmessage
    obtain ⟨entry, -, rfl⟩ := List.mem_map.mp hmessage
    exact isPublishable_placeTopic topic entry.1
  split_ifs with h
  · exact List.filter_eq_self.mpr fun message hmessage ↦ (hall message hmessage).trans h
  · refine List.filter_eq_nil_iff.mpr fun message hmessage ↦ ?_
    rwa [hall message hmessage]

/-- Entries in ascending order have topics of their own. -/
theorem nodup_topics {store : Store} {entries : List (Place × Value)} (h : store.IsListing entries)
    (topic : String) : (entries.map fun entry ↦ placeTopic topic entry.1).Nodup := by
  refine List.pairwise_map.mpr (h.ascending.imp fun {a b} hbefore heq ↦ ?_)
  have hplace := placeTopic_injective heq
  rw [hplace] at hbefore
  rcases hbefore with hname | ⟨-, hindex⟩
  · exact lt_irrefl _ hname
  · exact lt_irrefl _ hindex

/-- A payload can be read as the JSON of its number. -/
theorem isPayload_leafText {value : Value} (h : value.IsFinite) :
    IsPayload (leafText value.json) value := by
  rw [Value.json_eq_leaf h]
  cases value with
  | number x =>
    have hdocument : (Json.number x).IsFinite := h
    exact Json.read_compact NumberStyle.isReadable_wide hdocument
  | flag b => cases b <;> rfl
  | label text => rfl

theorem isFinite_document (time : String) (store : Store) : (document time store).IsFinite := by
  refine Json.fieldsAreFinite_iff.mpr fun field hfield ↦ ?_
  rcases Json.eq_or_mem_of_mem_insertField hfield with rfl | hmem
  · trivial
  · exact Store.isFinite_of_mem_snapshot hmem

/-- What a broker is told of a reachable state does not depend on the format. -/
theorem formats_agree {decoder : Decoder} (h : decoder.Reachable) (topic time : String) :
    ∃ entries, FormatsAgree topic time decoder.store entries := by
  have hfinite := isFinite_of_inRange h.inRange
  obtain ⟨entries, hlisting, hleaves⟩ := Store.exists_listing hfinite
  have hentry (entry : Place × Value) (hmem : entry ∈ entries) : entry.2.IsFinite :=
    hfinite entry.1 entry.2 ((hlisting.mem_iff _ _).mp hmem)
  have hmessages : simpleMessages topic decoder.store =
      if isPublishable topic then entries.map (placeMessage topic) else [] := by
    rw [simpleMessages, filterMap_leafMessage?, hleaves, List.map_map]
    exact filter_placeMessage topic entries
  refine ⟨entries, hlisting, ?_, ?_, ?_, nodup_topics hlisting topic, ?_, ?_⟩
  · have hperm := (Json.insertField_perm (.text time) timestamp_ne).trans
      (decoder.store.snapshot_perm.cons _)
    rwa [Store.map_field_parts hfinite] at hperm
  · exact (Json.ascending_sortFields _).insertField timestamp (.text time)
  · have hleaf : entries.map snapshotLeaf =
        entries.map fun entry ↦ (entry.1.path, entry.2.leaf) :=
      List.map_congr_left fun entry hmem ↦ by
        rw [snapshotLeaf, Value.json_eq_leaf (hentry entry hmem)]
    rw [← hleaf, ← hleaves, ← without_timestamp time]
    rfl
  · refine ⟨_, rfl, ?_⟩
    rw [hmessages]
    split_ifs with hwildcard hpublishable hpublishable
    · exact absurd hwildcard (isPublishable_iff_not_hasWildcard.mp hpublishable)
    · rfl
    · refine ⟨rfl, List.forall₂_map_right_iff.mpr (List.forall₂_same.mpr fun entry hmem ↦ ?_)⟩
      exact ⟨rfl, isPayload_leafText (hentry entry hmem)⟩
    · exact absurd (isPublishable_iff_not_hasWildcard.mpr hwildcard) hpublishable
  · have hread := Json.read_compact NumberStyle.isReadable_wide
      (isFinite_document time decoder.store)
    split_ifs with hwildcard
    · rw [messages, if_neg (mt isPublishable_iff_not_hasWildcard.mp (not_not_intro hwildcard))]
    · refine ⟨_, ?_, rfl, hread⟩
      rw [messages, if_pos (isPublishable_iff_not_hasWildcard.mpr hwildcard)]

/-- Of a row with a hole before its one known block only this block is told. -/
theorem formats_agree_with_hole :
    let decoder := (Decoder.start .unset .empty).run [⟨0xb0e2, 1, [0x13, 0x88, 0x13]⟩]
    (∃ entries, FormatsAgree "car" "now" decoder.store entries ∧
      (.block .leastVoltage 1, .number (Reading.cellVolts 0x1388)) ∈ entries ∧
      ∀ value, (.block .leastVoltage 0, value) ∉ entries) ∧
    messages .simple "car" "now" decoder.store =
      .ok [⟨"car/bat_cell_vmin/1", "3.5"⟩, ⟨"car/bat_pack_vmin", "3.5"⟩] ∧
    messages .json "car" "now" decoder.store = .ok [⟨"car",
      "\x7b\"bat_cell_vmin\":[null,3.5],\"bat_pack_vmin\":3.5,\"timestamp\":\"now\"\x7d"⟩] := by
  intro decoder
  have hreachable : decoder.Reachable := (Decoder.Reachable.start .unset).run _
  obtain ⟨entries, hagree⟩ := formats_agree hreachable "car" "now"
  have hknown : decoder.store.value? (.block .leastVoltage 1) =
      some (.number (Reading.cellVolts 0x1388)) := by decide
  have hunknown : decoder.store.value? (.block .leastVoltage 0) = none := by decide
  refine ⟨⟨entries, hagree, (hagree.listing.mem_iff _ _).mpr hknown, fun value hmem ↦ ?_⟩,
    by decide +kernel, by decide +kernel⟩
  have hvalue := (hagree.listing.mem_iff _ _).mp hmem
  rw [hunknown] at hvalue
  cases hvalue

end BatteryTelemetry.Broker
