import Caseflow.Proofs.Time.Calendar
import Caseflow.Time.Timestamp

/-!
# Time that has passed

Whole seconds are counted toward zero. They tell exactly what has passed from the first second on,
but not on which side of it an instant lies that is less than a second away.
-/
namespace Caseflow.Time.Timestamp

variable {since now due : Timestamp} {seconds : Nat}

/-- Whether so many seconds have passed from one instant to another, to the nanosecond. They are
counted by `nanosBetween`, from which the order of the instants differs by a second if one of them
is in a leap second and the other on another day. -/
def hasPassed (since : Timestamp) (seconds : Nat) (now : Timestamp) : Bool :=
  (seconds * nanosPerSecond : Int) ≤ nanosBetween since now

/-- Between instants that are no leap seconds, so many seconds have passed if the earlier instant
and the seconds come to no more than the later one. -/
theorem hasPassed_iff (hsince : since.isLeapSecond = false) (hnow : now.isLeapSecond = false) :
    since.hasPassed seconds now = true ↔
      (since.seconds + seconds) * nanosPerSecond + since.nanos ≤
        now.seconds * nanosPerSecond + now.nanos := by
  simp only [hasPassed, nanosBetween, hsince, hnow, Bool.false_eq_true, and_false, if_false,
    decide_eq_true_eq, nanosPerSecond]
  omega

/-- Where at least a second has to pass, whole seconds tell what has passed. Where nothing has to,
they do not tell it of the second before. -/
theorem le_secondsBetween_iff :
    (seconds : Int) ≤ secondsBetween since now ↔ since.hasPassed seconds now = true ∨
      seconds = 0 ∧ -(nanosPerSecond : Int) < nanosBetween since now := by
  simp only [secondsBetween, hasPassed, decide_eq_true_eq]
  generalize nanosBetween since now = nanos
  obtain hlate | hearly := Int.le_total 0 nanos
  · rw [Int.tdiv_eq_ediv_of_nonneg hlate]
    simp only [nanosPerSecond]
    omega
  · have hcount : nanos.tdiv nanosPerSecond = -(-nanos / nanosPerSecond) := by
      rw [← Int.tdiv_eq_ediv_of_nonneg (by omega), Int.neg_tdiv, Int.neg_neg]
    rw [hcount]
    simp only [nanosPerSecond]
    omega

theorem nanos_lt_kept (h : seconds = 0 ∨ since.nanos < nanosPerSecond) (hmoved : ¬ seconds = 0) :
    since.nanos < nanosPerSecond ∨
      since.nanos < 2 * nanosPerSecond ∧ (since.seconds + seconds) % 60 = 59 :=
  .inl (h.resolve_left hmoved)

theorem nanos_lt_left (h : ¬ (seconds = 0 ∨ since.nanos < nanosPerSecond)) :
    since.nanos - nanosPerSecond < nanosPerSecond ∨
      since.nanos - nanosPerSecond < 2 * nanosPerSecond ∧ (since.seconds + seconds) % 60 = 59 := by
  have hlt := since.nanos_lt
  simp only [nanosPerSecond] at *
  omega

/-- The instant so many seconds later, whether or not it can be written. -/
def later (since : Timestamp) (seconds : Nat) : Timestamp :=
  if h : seconds = 0 ∨ since.nanos < nanosPerSecond then
    if hmoved : seconds = 0 then since
    else ⟨since.seconds + seconds, since.nanos, nanos_lt_kept h hmoved⟩
  else ⟨since.seconds + seconds, since.nanos - nanosPerSecond, nanos_lt_left h⟩

theorem addSeconds?_eq_some_iff :
    since.addSeconds? seconds = some due ↔
      (Date.ofNumber (since.later seconds).day).year ≤ Date.lastYear ∧
        since.later seconds = due := by
  change (if _ then some (since.later seconds) else none) = _ ↔ _
  rw [Option.ite_none_right_eq_some, Option.some.injEq]
  rfl

@[simp] theorem seconds_later (since : Timestamp) (seconds : Nat) :
    (since.later seconds).seconds = since.seconds + seconds := by
  unfold later
  split
  · split
    · rename_i hnone
      simp [hnone]
    · rfl
  · rfl

theorem nanos_later (since : Timestamp) (seconds : Nat) :
    (since.later seconds).nanos =
      if seconds = 0 ∨ since.nanos < nanosPerSecond then since.nanos
      else since.nanos - nanosPerSecond := by
  unfold later
  split
  · split
    · rfl
    · rfl
  · rfl

/-- If an instant can be written, so can those before it. -/
theorem exists_addSeconds?_of_le {fewer : Nat} (hle : fewer ≤ seconds)
    (h : since.addSeconds? seconds = some due) :
    ∃ earlier, since.addSeconds? fewer = some earlier := by
  obtain ⟨hyear, -⟩ := addSeconds?_eq_some_iff.1 h
  refine ⟨_, addSeconds?_eq_some_iff.2 ⟨Int.le_trans (Date.year_mono ?_) hyear, rfl⟩⟩
  rw [day, day, seconds_later, seconds_later]
  exact Int.ediv_le_ediv (by decide) (by omega)

/-- A leap second that one starts from is not counted twice. -/
theorem nanosBetween_later_le :
    nanosBetween since (since.later seconds) ≤ seconds * nanosPerSecond := by
  have hnanos := nanos_later since seconds
  unfold nanosBetween
  rw [seconds_later]
  split
  · rename_i hleap
    have hmoved : seconds ≠ 0 := by
      rintro rfl
      exact absurd hleap.1 (Int.lt_irrefl _)
    have hlong := of_decide_eq_true hleap.2
    rw [if_neg (by omega)] at hnanos
    simp only [nanosPerSecond] at *
    omega
  · split at hnanos
    all_goals
      simp only [nanosPerSecond] at *
      split
      all_goals omega

/-- To the instant so many seconds later it is no more than so many seconds. -/
theorem secondsBetween_le (h : since.addSeconds? seconds = some due) :
    secondsBetween since due ≤ seconds := by
  obtain ⟨-, rfl⟩ := addSeconds?_eq_some_iff.1 h
  refine Int.not_lt.1 fun hless => ?_
  have hle : nanosBetween since (since.later seconds) ≤ seconds * nanosPerSecond :=
    nanosBetween_later_le
  have hmore : ((seconds + 1 : Nat) : Int) ≤ secondsBetween since (since.later seconds) := hless
  obtain hpassed | ⟨hnone, -⟩ := le_secondsBetween_iff.1 hmore
  · have hlonger := of_decide_eq_true hpassed
    simp only [nanosPerSecond] at *
    omega
  · cases hnone

/-- From an instant that is no leap second to the one so many seconds later it is so many seconds.
-/
theorem secondsBetween_of_addSeconds? (hsince : since.isLeapSecond = false)
    (h : since.addSeconds? seconds = some due) : secondsBetween since due = seconds := by
  refine Int.le_antisymm (secondsBetween_le h) (le_secondsBetween_iff.2 (.inl ?_))
  obtain ⟨-, rfl⟩ := addSeconds?_eq_some_iff.1 h
  have hordinary : since.nanos < nanosPerSecond := Nat.not_le.1 (of_decide_eq_false hsince)
  have hnanos := nanos_later since seconds
  rw [if_pos (.inr hordinary)] at hnanos
  have hdue : (since.later seconds).isLeapSecond = false := by
    rw [isLeapSecond, hnanos]
    exact hsince
  refine (hasPassed_iff hsince hdue).2 (Int.le_of_eq ?_)
  rw [seconds_later, hnanos]

end Caseflow.Time.Timestamp
