import PropertyStore.Filetime
import PropertyStore.Proofs.Moment

/-!
# Instants and their text

The counts of an instant have room in their words, and the calendar has a date for the last of them,
so every instant is a moment (`moment?_eq`), and its text is the text of that moment. Read back, it
tells the same count of ticks, so an instant is known by its text (`eq_of_text`).
-/

namespace PropertyStore.Filetime

variable (t : Filetime)

/-- Whole seconds have room. -/
theorem signed?_seconds :
    signed? (t.ticks / .ofNat ticksPerSecond) = some (.ofNat t.seconds) := by
  have exact : (t.ticks / .ofNat ticksPerSecond).toNat = t.seconds := UInt64.toNat_div _ _
  have := t.ticks.toNat_lt
  rw [signed?, exact, if_pos]
  rw [seconds, ticksPerSecond]
  omega

/-- The ticks past them have room. -/
theorem narrow?_ticks :
    narrow? (t.ticks % .ofNat ticksPerSecond) =
      some (.ofNat (t.ticks.toNat % ticksPerSecond)) := by
  have exact : (t.ticks % .ofNat ticksPerSecond).toNat = t.ticks.toNat % ticksPerSecond :=
    UInt64.toNat_mod _ _
  rw [narrow?, exact, if_pos]
  rw [ticksPerSecond]
  omega

/-- Seconds since 1970 have room. -/
theorem toInt_seconds :
    (Int64.ofNat t.seconds - .ofNat secondsTo1970).toInt = t.secondsSince1970 := by
  have := t.ticks.toNat_lt
  have room : t.seconds < 2 ^ 63 := by
    rw [seconds, ticksPerSecond]
    omega
  have epoch : (Int64.ofNat secondsTo1970).toInt = secondsTo1970 :=
    Int64.toInt_ofNat_of_lt (by decide)
  rw [Int64.toInt_sub, Int64.toInt_ofNat_of_lt room, epoch, secondsSince1970]
  rw [seconds, ticksPerSecond] at room ⊢
  rw [secondsTo1970]
  exact Int.bmod_eq_of_le (by omega) (by omega)

/-- Billionths of a second have room. -/
theorem toNat_nanoseconds :
    (UInt32.ofNat (t.ticks.toNat % ticksPerSecond) * 100).toNat = t.nanoseconds := by
  rw [UInt32.toNat_mul, nanoseconds, ticksPerSecond, UInt32.toNat_ofNat]
  show _ % _ * 100 % _ = _
  omega

theorem nanoseconds_lt : t.nanoseconds < 1000000000 := by
  rw [nanoseconds, ticksPerSecond]
  omega

/-- The moment that an instant is. -/
def moment : Moment where
  seconds := .ofNat t.seconds - .ofNat secondsTo1970
  nanoseconds := .ofNat (t.ticks.toNat % ticksPerSecond) * 100
  nanoseconds_lt := by
    rw [t.toNat_nanoseconds]
    exact t.nanoseconds_lt

/-- From 1601 on there are some 58000 years of ticks. -/
theorem year_moment_bounds : 1601 ≤ t.moment.date.year ∧ t.moment.date.year < 61601 := by
  have := t.ticks.toNat_lt
  have day : 0 ≤ t.secondsSince1970 / Moment.secondsPerDay + Moment.daysTo1970 ∧
      t.secondsSince1970 / Moment.secondsPerDay + Moment.daysTo1970 < 365 * (60000 : Nat) := by
    rw [secondsSince1970, seconds, ticksPerSecond, secondsTo1970, Moment.secondsPerDay,
      Moment.daysTo1970]
    omega
  rw [← toInt_seconds] at day
  exact Date.year_ofDay_bounds day.1 day.2

/-- **Every instant is a moment.** -/
theorem moment?_eq : t.moment? = some t.moment := by
  have years := t.year_moment_bounds
  rw [moment?, signed?_seconds, narrow?_ticks]
  apply Moment.ofTimestamp?_self (m := t.moment)
  rw [Moment.years]
  omega

theorem text_eq : t.text = t.moment.text := by rw [text, moment?_eq]

/-- The moment of an instant is as many billionths of a second from the first of January 1601 as
there are in its ticks. -/
theorem instant_moment : t.moment.instant = 100 * t.ticks.toNat := by
  have seconds_eq : t.moment.seconds.toInt = t.secondsSince1970 := t.toInt_seconds
  have nanoseconds_eq : t.moment.nanoseconds.toNat = t.nanoseconds := t.toNat_nanoseconds
  rw [Moment.instant, Moment.toDay_1970, seconds_eq, nanoseconds_eq, secondsSince1970, seconds,
    nanoseconds]
  simp only [Moment.daysTo1970, Moment.secondsPerDay, secondsTo1970, ticksPerSecond]
  omega

/-- An instant is known by its text. -/
theorem eq_of_text {t t' : Filetime} (h : t.text = t'.text) : t = t' := by
  rw [text_eq, text_eq] at h
  have instants := Moment.instant_eq_of_text h
  rw [instant_moment, instant_moment] at instants
  obtain ⟨ticks⟩ := t
  obtain ⟨ticks'⟩ := t'
  dsimp only at instants
  have same : ticks = ticks' := UInt64.toNat_inj.mp (by omega)
  rw [same]

/-- **The text of an instant is exact.** Its counts have room in their words, and it is shown as the
moment that it is. Read back by the calendar, the text tells the ticks of the instant and of no
other; the fraction has no more digits than it takes, and a year has a plus sign from 10000 on. -/
theorem text_exact (t : Filetime) :
    (∃ m, t.moment? = some m ∧ m.seconds.toInt = t.secondsSince1970 ∧
      m.nanoseconds.toNat = t.nanoseconds ∧ m.nanoseconds.toNat < 1000000000 ∧
      m.instant = 100 * t.ticks.toNat ∧ t.text = m.text) ∧
    (∃ s, Stamp.read? t.text = some s ∧ s.Valid ∧ s.instant = 100 * t.ticks.toNat ∧ s.Fewest ∧
      s.sign = if 9999 < s.date.year then some '+' else none) ∧
    ∀ t' : Filetime, t'.text = t.text ↔ t' = t := by
  refine ⟨⟨t.moment, t.moment?_eq, t.toInt_seconds, t.toNat_nanoseconds, t.moment.nanoseconds_lt,
    t.instant_moment, t.text_eq⟩, ⟨t.moment.stamp, ?_, t.moment.valid_stamp, ?_,
    t.moment.fewest_stamp, ?_⟩, ?_⟩
  · rw [text_eq, Moment.read?_text]
  · rw [Moment.instant_stamp, instant_moment]
  · have since : ¬ t.moment.date.year < 0 := by
      have := t.year_moment_bounds.1
      omega
    exact if_neg since
  · intro t'
    constructor
    · exact eq_of_text
    · rintro rfl
      rfl

example : (Filetime.mk 0xffffffffffffffff).text = "+60056-05-28T05:36:10.955161500Z" := by cbv

end PropertyStore.Filetime
