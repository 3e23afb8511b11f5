import Mathlib.Algebra.Order.Group.Unbundled.Int

/-! # Instants and durations

An instant is the integer number of nanoseconds since the zero time, 1 January
of year 1 in UTC, so `time.Time{}` is zero and earlier instants are negative.
Durations are integers of nanoseconds. Where a result has 64 bits, `Sub`
saturates and `UnixMicro` wraps around.
-/

namespace AiopsSystem.Go

def microsecond : Int := 1000

def second : Int := 1000000000

def minute : Int := 60 * second

def hour : Int := 60 * minute

def unixEpoch : Int := 62135596800 * second

/-- The largest duration, `1<<63 - 1` nanoseconds. -/
def maxDuration : Int := 9223372036854775807

def minDuration : Int := -9223372036854775808

/-- `left.Sub(right)`: the difference, clamped to the range of a duration. -/
def timeSub (left right : Int) : Int := max minDuration (min maxDuration (left - right))

theorem timeSub_le {left right : Int} (h : right ≤ left) : timeSub left right ≤ left - right := by
  unfold timeSub minDuration
  omega

/-- `UnixMicro`: whole microseconds since the Unix epoch, rounded down, as a 64-bit integer. -/
def unixMicro (value : Int) : Int := ((value - unixEpoch) / microsecond).bmod 18446744073709551616

/-- `time.UnixMicro` -/
def ofUnixMicro (value : Int) : Int := unixEpoch + value * microsecond

/-- The first instant whose `UnixMicro` fits into 64 bits, some 292277 years before the Unix epoch. -/
def earliestUnixMicro : Int := unixEpoch - 2 ^ 63 * microsecond

-- Past the last instant that fits, the microseconds wrap around to smaller ones.
theorem unixMicro_le {value : Int} (h : earliestUnixMicro ≤ value) :
    unixMicro value ≤ (value - unixEpoch) / microsecond := by
  unfold earliestUnixMicro microsecond at h
  rw [unixMicro, microsecond, Int.bmod_def]
  split <;> omega

theorem ofUnixMicro_unixMicro_le {value : Int} (h : earliestUnixMicro ≤ value) :
    ofUnixMicro (unixMicro value) ≤ value := by
  have hMicro := unixMicro_le h
  unfold microsecond at hMicro
  unfold ofUnixMicro microsecond
  omega

structure ZonedTime where
  instant : Int
  offset : Int
deriving DecidableEq

theorem tdiv_mul_le {value quantum : Int} (hValue : 0 ≤ value) (hQuantum : 0 < quantum) :
    value.tdiv quantum * quantum ≤ value := by
  rw [Int.tdiv_eq_ediv_of_nonneg hValue]
  exact Int.ediv_mul_le value hQuantum.ne'

theorem tdiv_mul_nonpos {value quantum : Int} (hValue : value < 0) (hQuantum : 0 < quantum) :
    value.tdiv quantum * quantum ≤ 0 := by
  have hOpposite := Int.tdiv_nonneg (by omega : 0 ≤ -value) hQuantum.le
  rw [Int.neg_tdiv] at hOpposite
  exact Int.mul_nonpos_of_nonpos_of_nonneg (by omega) hQuantum.le

end AiopsSystem.Go
