import HeatingHub.Proofs.Calendar.DateReading

/-!
# Moments read back

The text of a moment is read as that moment if it is the beginning of a second on a date of the
calendar's range (`Moment.read?_text`): fractions of a second are not shown.
-/

namespace HeatingHub.Calendar

open Number (padded)

/-- Two digits are enough for hours, minutes and seconds. -/
theorem length_padded_pair {n : Nat} (h : n < 100) : (padded 2 n).length ≤ 2 :=
  (Number.length_padded (by decide) h).le

theorem ClockTime.ofParts?_parts {t : ClockTime} (whole : t.nano = 0) :
    ClockTime.ofParts? t.hour t.minute t.shownSecond 0 = some t := by
  obtain ⟨second, nano, second_lt, _⟩ := t
  obtain rfl : nano = 0 := whole
  have parts : second / 3600 < 24 ∧ second / 60 % 60 < 60 ∧ second % 60 ≤ 60 ∧ 0 < 1000000000 := by
    omega
  have place : 3600 * (second / 3600) + 60 * (second / 60 % 60) + second % 60 = second := by omega
  unfold ClockTime.ofParts? ClockTime.hour ClockTime.minute ClockTime.shownSecond
  dsimp only
  rw [Nat.zero_div, Nat.add_zero, dif_pos parts, dif_neg (by omega)]
  simp only [place]

theorem Moment.toList_text (m : Moment) : m.text.toList = m.date.civil.text ++
    'T' :: (padded 2 m.time.hour ++
      ':' :: (padded 2 m.time.minute ++ ':' :: padded 2 m.time.shownSecond)) := by
  simp [Moment.text, Date.text, ClockTime.text]

theorem Moment.read?_text {m : Moment} (range : m.date.inRange = true) (whole : m.time.nano = 0) :
    Moment.read? m.text = some m := by
  have late := m.time.second_lt
  have hour : (padded 2 m.time.hour).length ≤ 2 :=
    length_padded_pair (by unfold ClockTime.hour; omega)
  have minute : (padded 2 m.time.minute).length ≤ 2 :=
    length_padded_pair (by unfold ClockTime.minute; omega)
  have second : (padded 2 m.time.shownSecond).length ≤ 2 :=
    length_padded_pair (by unfold ClockTime.shownSecond; omega)
  have last : readPair? (padded 2 m.time.shownSecond ++ []) = _ := readPair?_padded second nofun
  rw [List.append_nil] at last
  have date := @readCivil?_text id (fun _ => rfl) m.date
  unfold Moment.read?
  rw [toList_text]
  simp only [date (stops_cons (c := 'T') rfl _), readPair?_padded hour (stops_cons (c := ':') rfl _),
    readPair?_padded minute (stops_cons (c := ':') rfl _), last, ofCivil?_civil range, expect?,
    readFraction?, ClockTime.ofParts?_parts whole, Option.bind_eq_bind, Option.bind_some, if_true]
  rfl

end HeatingHub.Calendar
