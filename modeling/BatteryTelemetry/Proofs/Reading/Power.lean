import BatteryTelemetry.Proofs.Bus.Range
import BatteryTelemetry.Proofs.Decoder.Reachable
import BatteryTelemetry.Proofs.Number.Sign
import BatteryTelemetry.Proofs.Reading.History

/-!
# The sign of the power

The power has the opposite sign to the current, and it is zero only if the current or the voltage
is (`Reachable.power_follows_current`). For this no power may be rounded to zero. A voltage that is
not zero is at least a quarter of a volt: in every reachable state the bus voltage is a number of
quarters, because while the bus is off it is taken over from the pack, which shows a number of
quarters too (`Reachable.holdsQuarters`). A current that is not zero is at least a fortieth of an
ampere before it is rounded. Product and quotient of the two stay far from both ends of the format.
-/

namespace BatteryTelemetry

namespace Reading

open Single

theorem signed_quarterVolts (raw : UInt16) :
    (quarterVolts raw).Signed raw.toNat (1 / 4) 16383.75 := by
  have hlt := raw.toNat_lt
  obtain ⟨magnitude, hle, hge, hraw⟩ :=
    exists_eq_sign_mul raw.toNat 65535 (by omega) (by decide)
  have hvolts := denotes_quarterVolts raw
  refine ⟨hvolts.isFinite, magnitude / 4, by linarith, ?_, ?_⟩
  · push_cast at hge
    linarith
  · rw [hvolts.value_eq, ← mul_div_assoc, ← hraw, Int.cast_natCast]

/-- Away from the raw number 40000 a current is at least a sixty-fourth of an ampere. -/
theorem signed_amperes (raw : UInt16) :
    (amperes raw).Signed (raw.toNat - 40000) (1 / 64) 1000 := by
  have hlt := raw.toNat_lt
  obtain ⟨magnitude, hle, hge, hraw⟩ :=
    exists_eq_sign_mul (raw.toNat - 40000) 40000 (by omega) (by decide)
  have hnearest := isNearest_amperes raw
  have hvalue : ((raw.toNat - 40000) / 40 : ℚ) =
      ((raw.toNat - 40000 : ℤ).sign : ℚ) * (magnitude / 40) := by
    rw [← mul_div_assoc, ← hraw]
    push_cast
    rfl
  rw [hvalue] at hnearest
  push_cast at hge
  apply hnearest.signed
  · exact representable_of_mul_two_pow (n := 1) 6 (by norm_num) (by decide) (by decide)
  · exact representable_ofNat 1000 (by decide)
  · linarith
  · linarith

/-- The product of two readings that are not zero is too large to be rounded to zero. -/
theorem signed_kilowatts {volts current : Single} {m n : ℤ}
    (hvolts : volts.Signed m (1 / 4) 16383.75) (hcurrent : current.Signed n (1 / 64) 1000) :
    (kilowatts volts current).Signed (-(m * n)) (1 / 2 ^ 18) 16384 := by
  have hproduct : (volts * current).Signed (m * n) (1 / 2 ^ 8) 16384000 := by
    apply hvolts.mul hcurrent (by norm_num) (by norm_num)
    · exact representable_of_mul_two_pow (n := 1) 8 (by norm_num) (by decide) (by decide)
    · exact representable_ofNat 16384000 (by decide)
    · norm_num
    · norm_num
  apply hproduct.neg.div (denotes_literal 1000 (by decide)) (by norm_num)
  · exact representable_of_mul_two_pow (n := 1) 18 (by norm_num) (by decide) (by decide)
  · exact representable_ofNat 16384 (by decide)
  · norm_num
  · norm_num

end Reading

theorem Store.number_congr {s t : Store} {metric : Metric} (h : s.get metric = t.get metric) :
    s.number metric = t.number metric := by
  rw [number, number, number?, number?, h]

/-- Both voltages of the battery, zero if not written, are numbers of quarters of a volt. -/
structure Store.HoldsQuarters (store : Store) : Prop where
  packVoltage : ∃ raw, store.number .packVoltage = Reading.quarterVolts raw
  busVoltage : ∃ raw, store.number .busVoltage = Reading.quarterVolts raw

namespace Decoder

variable {decoder : Decoder}

/-- A bus voltage is a number of quarters, its own or that of the pack. -/
theorem holdsQuarters_receive (h : decoder.store.HoldsQuarters) (message : Message) :
    (decoder.receive message).store.HoldsQuarters := by
  have hsame (metric : Metric) (hmetric : metric ∉ message.metrics) :
      (decoder.receive message).store.number metric = decoder.store.number metric :=
    Store.number_congr (get_receive_of_notMem hmetric)
  cases message with
  | busVoltage raw =>
    refine ⟨?_, ?_⟩
    · rw [hsame .packVoltage (by simp [Message.metrics])]
      exact h.packVoltage
    · rw [Store.number_of_get_eq_some (get_receive_busVoltage decoder raw)]
      split_ifs
      · exact h.packVoltage
      · exact ⟨raw, rfl⟩
  | packVoltage raw =>
    refine ⟨⟨raw, ?_⟩, ?_⟩
    · apply Store.number_of_get_eq_some
      simp [get_receive, messageEffects]
    · rw [hsame .busVoltage (by simp [Message.metrics])]
      exact h.busVoltage
  | _ =>
    refine ⟨?_, ?_⟩
    · rw [hsame .packVoltage (by simp [Message.metrics])]
      exact h.packVoltage
    · rw [hsame .busVoltage (by simp [Message.metrics])]
      exact h.busVoltage

theorem Reachable.holdsQuarters (h : Reachable decoder) : decoder.store.HoldsQuarters := by
  have hempty (metric : Metric) : Store.empty.number metric = Reading.quarterVolts 0 := by
    rw [Store.number_of_get_eq_none (Store.get_empty metric)]
    decide
  exact h.store_invariant ⟨⟨0, hempty _⟩, ⟨0, hempty _⟩⟩ fun _ message hquarters ↦
    holdsQuarters_receive hquarters message

end Decoder

namespace Store

/-- A store shows the signs of a raw voltage, of a raw current and of the power of both. -/
structure HasSigns (store : Store) (volts raw : UInt16) : Prop where
  busVoltage : (store.number .busVoltage).Signed volts.toNat (1 / 4) 16383.75
  current : (store.number .current).Signed (raw.toNat - 40000) (1 / 64) 1000
  power : (store.number .power).Signed (-(volts.toNat * (raw.toNat - 40000))) (1 / 2 ^ 18) 16384

/-- The signs of a store follow a raw current: the power is zero exactly if the current or the bus
voltage is, and otherwise its sign is opposite to that of the current. -/
structure FollowsCurrent (store : Store) (raw : UInt16) : Prop where
  isZero_iff : (store.number .power).IsZero ↔ raw = 40000 ∨ (store.number .busVoltage).IsZero
  zero_lt_iff : 0 < store.number .power ↔ raw < 40000 ∧ ¬(store.number .busVoltage).IsZero
  lt_zero_iff : store.number .power < 0 ↔ 40000 < raw ∧ ¬(store.number .busVoltage).IsZero
  isZero_of_eq : raw = 40000 → (store.number .current).IsZero ∧ (store.number .power).IsZero

/-- The current and the power of a charge are shown and have one sign. -/
structure ShowsCharge (store : Store) : Prop where
  current : ∃ amperes, store.get .chargeCurrent = some (.number amperes)
  power : ∃ kilowatts, store.get .chargePower = some (.number kilowatts)
  sameSign : (store.number .chargePower).SameSign (store.number .chargeCurrent)

namespace HasSigns

variable {store : Store} {volts raw : UInt16}

theorem isZero_busVoltage_iff (h : store.HasSigns volts raw) :
    (store.number .busVoltage).IsZero ↔ volts.toNat = 0 := by
  rw [h.busVoltage.isZero_iff (by norm_num), Int.natCast_eq_zero]

/-- No current or no voltage, and nothing else, makes the power zero. -/
theorem isZero_power_iff (h : store.HasSigns volts raw) :
    (store.number .power).IsZero ↔ raw = 40000 ∨ (store.number .busVoltage).IsZero := by
  have heq : raw = 40000 ↔ raw.toNat = 40000 := UInt16.toNat_inj.symm
  rw [h.power.isZero_iff (by norm_num), h.isZero_busVoltage_iff, heq, neg_eq_zero, mul_eq_zero]
  omega

theorem followsCurrent (h : store.HasSigns volts raw) : store.FollowsCurrent raw where
  isZero_iff := h.isZero_power_iff
  zero_lt_iff := by
    have hlt : raw < 40000 ↔ raw.toNat < 40000 := UInt16.lt_iff_toNat_lt
    rw [h.power.zero_lt_iff (by norm_num), h.isZero_busVoltage_iff, hlt, neg_pos, mul_neg_iff]
    omega
  lt_zero_iff := by
    have hgt : 40000 < raw ↔ 40000 < raw.toNat := UInt16.lt_iff_toNat_lt
    rw [h.power.lt_zero_iff (by norm_num), h.isZero_busVoltage_iff, hgt, neg_lt_zero, mul_pos_iff]
    omega
  isZero_of_eq hraw := by
    refine ⟨?_, h.isZero_power_iff.mpr (.inl hraw)⟩
    rw [h.current.isZero_iff (by norm_num), hraw]
    decide

end HasSigns

end Store

namespace Decoder

variable {decoder : Decoder} {frame status : Frame}

theorem dispatch_of_current (h : frame.Answers .current) :
    decoder.dispatch frame = decoder.receive (.current frame.word) :=
  dispatch_of_ok decoder (Message.ofFrame_of_answers h)

/-- A frame of the current leaves the voltage that its power is taken with. -/
theorem busVoltage_dispatch_of_current (decoder : Decoder) (h : frame.Answers .current) :
    (decoder.dispatch frame).store.get .busVoltage = decoder.store.get .busVoltage := by
  rw [dispatch_of_current h]
  exact get_receive_of_notMem (by simp [Message.metrics])

/-- Signs carry over from raw numbers to readings and from these to the power. -/
theorem hasSigns_dispatch {volts : UInt16} (h : frame.Answers .current)
    (hvolts : decoder.store.number .busVoltage = Reading.quarterVolts volts) :
    (decoder.dispatch frame).store.HasSigns volts frame.word := by
  have hsame := Store.number_congr (busVoltage_dispatch_of_current decoder h)
  have hbusVoltage := Reading.signed_quarterVolts volts
  have hcurrent := Reading.signed_amperes frame.word
  have hpower := Reading.signed_kilowatts hbusVoltage hcurrent
  rw [← hvolts] at hbusVoltage hpower
  refine ⟨?_, ?_, ?_⟩
  · rwa [hsame]
  · rwa [dispatch_of_current h, Store.number_of_get_eq_some (get_receive_current decoder _)]
  · rwa [dispatch_of_current h, Store.number_of_get_eq_some (power_receive_current decoder _)]

/-- A rapid charge turns the sign of the current, so under a voltage it has the sign of the
power. -/
theorem showsCharge_dispatch {volts raw : UInt16} (h : decoder.store.HasSigns volts raw)
    (hstatus : status.IsRapid) (hzero : ¬(decoder.store.number .busVoltage).IsZero) :
    (decoder.dispatch status).store.ShowsCharge := by
  have hcurrent : (decoder.dispatch status).store.get .chargeCurrent =
      some (.number (-decoder.store.number .current)) :=
    (get_dispatch_of_takenOver decoder (fun _ ↦ rfl) status).trans (if_pos hstatus)
  have hpower : (decoder.dispatch status).store.get .chargePower =
      some (.number (decoder.store.number .power)) :=
    (get_dispatch_of_takenOver decoder (fun _ ↦ rfl) status).trans (if_pos hstatus)
  have hpos : (0 : ℤ) < volts.toNat := by
    rw [h.isZero_busVoltage_iff] at hzero
    omega
  refine ⟨⟨_, hcurrent⟩, ⟨_, hpower⟩, ?_⟩
  rw [Store.number_of_get_eq_some hcurrent, Store.number_of_get_eq_some hpower]
  apply h.power.sameSign h.current.neg (by norm_num) (by norm_num)
  rw [← mul_neg, Int.sign_mul, Int.sign_eq_one_of_pos hpos, one_mul]

/-- In every reachable state a current frame shows its current and a power of the opposite sign,
which is zero exactly if the current or the bus voltage is. A rapid charge that follows shows a
power and a current of one sign. -/
theorem Reachable.power_follows_current (h : Reachable decoder) (hframe : frame.Answers .current) :
    (decoder.dispatch frame).store.get .busVoltage = decoder.store.get .busVoltage ∧
      (decoder.dispatch frame).store.get .current = some (.number (Reading.amperes frame.word)) ∧
      (∃ kilowatts, (decoder.dispatch frame).store.get .power = some (.number kilowatts)) ∧
      (decoder.dispatch frame).store.FollowsCurrent frame.word ∧
      ∀ status : Frame, status.IsRapid → ¬(decoder.store.number .busVoltage).IsZero →
        ((decoder.dispatch frame).dispatch status).store.ShowsCharge := by
  obtain ⟨volts, hvolts⟩ := h.holdsQuarters.busVoltage
  have hsigns := hasSigns_dispatch hframe hvolts
  have hsame := busVoltage_dispatch_of_current decoder hframe
  refine ⟨hsame, ?_, ?_, hsigns.followsCurrent, fun status hstatus hzero ↦ ?_⟩
  · rw [dispatch_of_current hframe, get_receive_current]
  · rw [dispatch_of_current hframe]
    exact ⟨_, power_receive_current decoder _⟩
  · rw [← Store.number_congr hsame] at hzero
    exact showsCharge_dispatch hsigns hstatus hzero

/-- The bus is off, and its voltage is taken over from the pack before a charging current. -/
theorem power_follows_current_while_busOff :
    let decoder := (start .unset .empty).run
      [⟨0xb042, 0, [0x06, 0x5c]⟩, ⟨0xb041, 0, [0xff, 0xfe]⟩]
    let frame : Frame := ⟨0xb043, 0, [0x9c, 0x3f]⟩
    (decoder.dispatch frame).store.FollowsCurrent 39999 ∧
      ((decoder.dispatch frame).dispatch ⟨0xb048, 0, [0x07]⟩).store.ShowsCharge := by
  intro decoder frame
  have hreachable : Reachable decoder := (Reachable.start .unset).run _
  have hframe : frame.Answers .current := by decide
  obtain ⟨-, -, -, hfollows, hcharge⟩ := Reachable.power_follows_current hreachable hframe
  have hword : frame.word = 39999 := by decide
  have hvolts : ¬(decoder.store.number .busVoltage).IsZero := by decide
  rw [hword] at hfollows
  exact ⟨hfollows, hcharge _ (by decide) hvolts⟩

end Decoder

end BatteryTelemetry
