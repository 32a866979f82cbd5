/-!
The clock, against which cookies expire. It is read anew each time, so what it shows is a
sequence of readings.
-/

namespace MmsHttp

/-- One reading of the clock: the seconds since the beginning of 1970, and the year in the
calendar of the place. -/
structure Instant where
  seconds : Int
  year : Int
  deriving DecidableEq, Repr

/-- What the clock shows each time that it is read. -/
abbrev Clock := Nat → Instant

namespace Clock

def still (instant : Instant) : Clock :=
  fun _ => instant

def unset : Clock :=
  still ⟨0, 1970⟩

/-- The clock after so many readings. -/
def after (clock : Clock) (readings : Nat) : Clock :=
  fun n => clock (readings + n)

@[simp] theorem after_apply (clock : Clock) (readings n : Nat) :
    clock.after readings n = clock (readings + n) := rfl

@[simp] theorem after_zero (clock : Clock) : clock.after 0 = clock := by
  funext n
  rw [after_apply, Nat.zero_add]

theorem after_after (clock : Clock) (readings more : Nat) :
    (clock.after readings).after more = clock.after (readings + more) := by
  funext n
  simp only [after_apply, Nat.add_assoc]

end Clock

end MmsHttp
