import Mathlib
import BillOfMaterials.Config
import BillOfMaterials.Proofs.Except

/-!
# Reading the durations

The save delay and the shutdown timeout are read as counts, of milliseconds and of seconds, and
turned into nanoseconds by a product in a signed 64-bit word. The product wraps: it is the count
times the unit, brought into `[-2^63, 2^63)` modulo `2^64`. The checks then look at the wrapped
value, so a large count can come out negative and be refused, and a large negative one can come
out as a valid delay.

* `leadingInt?_bounds`: a count that is read fits in a signed 64-bit word;
* `toInt_ofInt_mul`: the nanoseconds of a count, as the wrapped product;
* `validate_with_saveDebounce`, `validate_with_shutdownTimeout`: on settings that pass, changing
  one duration leaves only its own check to decide;
* `load_reads_durations`: over any environment that loads, setting one of the two variables to
  a text with a count gives the wrapped product, refused exactly when that is out of range; it is
  the count times the unit exactly when that product fits the word.
-/

namespace BillOfMaterials

theorem Environment.get?_cons_self {e : Environment} {name v : String} (hv : v.isEmpty = false) :
    Environment.get? ((name, v) :: e) name = some v := by
  simp [Environment.get?, List.lookup, hv]

theorem Environment.get?_cons_of_ne {e : Environment} {key name v : String} (h : name ≠ key) :
    Environment.get? ((key, v) :: e) name = Environment.get? e name := by
  have hne : (name == key) = false := by simpa using h
  simp only [Environment.get?, List.lookup, hne]

theorem leadingInt?_isEmpty {v : String} {n : Int} (h : leadingInt? v = some n) :
    v.isEmpty = false := by
  cases hv : v.isEmpty
  · rfl
  · have : v = "" := by simpa using hv
    subst this
    simp [leadingInt?] at h

theorem leadingInt?_bounds {v : String} {n : Int} (h : leadingInt? v = some n) :
    -9223372036854775808 ≤ n ∧ n < 9223372036854775808 := by
  unfold leadingInt? at h
  simp only [Bool.and_eq_true, decide_eq_true_eq] at h
  split_ifs at h with hdigits hneg hrange hrange
  · cases h
    exact hrange
  · cases h
    exact hrange

/-- A count that fits the word, times a unit in the word: the product brought into the word's
range modulo `2^64`. -/
theorem toInt_ofInt_mul {n : Int} (hlo : -9223372036854775808 ≤ n) (hhi : n < 9223372036854775808)
    (u : Int64) : (Int64.ofInt n * u).toInt = Int.bmod (n * u.toInt) 18446744073709551616 := by
  have hn : (Int64.ofInt n).toInt = n := by
    rw [Int64.toInt_ofInt]
    exact Int.bmod_eq_of_le_mul_two (by simp [Int64.size]; omega) (by simp [Int64.size]; omega)
  rw [Int64.toInt_mul, hn]

namespace Config

theorem validate_with_saveDebounce {c : Config} (hc : c.validate = .ok ()) (d : Int64) :
    { c with saveDebounce := d }.validate =
      if d < 0 then .error (.configInvalid "SAVE_DEBOUNCE_MS" "must not be negative") else .ok () := by
  unfold validate at hc ⊢
  by_cases hp : c.port.isEmpty = true
  · simp [hp] at hc
  by_cases hs : c.saveDebounce < 0
  · simp [hp, hs] at hc
  by_cases hd : d < 0
  · simp [hp, hd]
  · simp only [hp, hd, hs] at hc ⊢
    simpa using hc

theorem validate_with_shutdownTimeout {c : Config} (hc : c.validate = .ok ()) (d : Int64) :
    { c with shutdownTimeout := d }.validate =
      if d ≤ 0 then .error (.configInvalid "SHUTDOWN_TIMEOUT_SEC" "must be positive") else .ok () := by
  unfold validate at hc ⊢
  by_cases hp : c.port.isEmpty = true
  · simp [hp] at hc
  by_cases hs : c.saveDebounce < 0
  · simp [hp, hs] at hc
  by_cases ht : c.shutdownTimeout ≤ 0
  · simp [hp, hs, ht] at hc
  by_cases hd : d ≤ 0
  · simp [hp, hs, hd]
  · simp only [hp, hd, hs, ht] at hc ⊢
    simpa using hc

theorem ofEnvironment_cons_saveDebounce {e : Environment} {v : String} {n : Int}
    (hn : leadingInt? v = some n) :
    ofEnvironment (("SAVE_DEBOUNCE_MS", v) :: e) =
      { ofEnvironment e with saveDebounce := Int64.ofInt n * millisecond } := by
  simp [ofEnvironment, Environment.get?_cons_of_ne,
    Environment.get?_cons_self (leadingInt?_isEmpty hn), hn]

theorem ofEnvironment_cons_shutdownTimeout {e : Environment} {v : String} {n : Int}
    (hn : leadingInt? v = some n) :
    ofEnvironment (("SHUTDOWN_TIMEOUT_SEC", v) :: e) =
      { ofEnvironment e with shutdownTimeout := Int64.ofInt n * second } := by
  simp [ofEnvironment, Environment.get?_cons_of_ne,
    Environment.get?_cons_self (leadingInt?_isEmpty hn), hn]

theorem load_eq_ok {e : Environment} {c : Config} (h : load e = .ok c) :
    c = ofEnvironment e ∧ (ofEnvironment e).validate = .ok () := by
  simp only [load] at h
  split at h
  · cases h
    exact ⟨rfl, ‹_›⟩
  · cases h

theorem load_cons_saveDebounce {e : Environment} {c : Config} (he : load e = .ok c) {v : String}
    {n : Int} (hn : leadingInt? v = some n) :
    load (("SAVE_DEBOUNCE_MS", v) :: e) =
      if Int64.ofInt n * millisecond < 0 then
        .error (.labelled "config validation failed"
          (.configInvalid "SAVE_DEBOUNCE_MS" "must not be negative"))
      else .ok { c with saveDebounce := Int64.ofInt n * millisecond } := by
  obtain ⟨rfl, hv⟩ := load_eq_ok he
  simp only [load, ofEnvironment_cons_saveDebounce hn, validate_with_saveDebounce hv]
  by_cases hd : Int64.ofInt n * millisecond < 0
  · rw [if_pos hd, if_pos hd]
  · rw [if_neg hd, if_neg hd]

theorem load_cons_shutdownTimeout {e : Environment} {c : Config} (he : load e = .ok c) {v : String}
    {n : Int} (hn : leadingInt? v = some n) :
    load (("SHUTDOWN_TIMEOUT_SEC", v) :: e) =
      if Int64.ofInt n * second ≤ 0 then
        .error (.labelled "config validation failed"
          (.configInvalid "SHUTDOWN_TIMEOUT_SEC" "must be positive"))
      else .ok { c with shutdownTimeout := Int64.ofInt n * second } := by
  obtain ⟨rfl, hv⟩ := load_eq_ok he
  simp only [load, ofEnvironment_cons_shutdownTimeout hn, validate_with_shutdownTimeout hv]
  by_cases hd : Int64.ofInt n * second ≤ 0
  · rw [if_pos hd, if_pos hd]
  · rw [if_neg hd, if_neg hd]

/-- Over any environment that loads, a count `n` given to the save delay or to the shutdown
timeout is turned into nanoseconds by the wrapped product, `n * 10^6` or `n * 10^9` brought into
`[-2^63, 2^63)` modulo `2^64`, and the configuration is refused exactly when that value is
negative, for the delay, or not positive, for the timeout. The product is exact when it fits the
word: for counts up to 9223372036854 milliseconds or 9223372036 seconds either way. -/
theorem load_reads_durations {e : Environment} {c : Config} (he : load e = .ok c) {v : String}
    {n : Int} (hn : leadingInt? v = some n) :
    (Int64.ofInt n * millisecond).toInt = Int.bmod (n * 1000000) 18446744073709551616 ∧
    load (("SAVE_DEBOUNCE_MS", v) :: e) =
      (if Int.bmod (n * 1000000) 18446744073709551616 < 0 then
        .error (.labelled "config validation failed"
          (.configInvalid "SAVE_DEBOUNCE_MS" "must not be negative"))
      else .ok { c with saveDebounce := Int64.ofInt n * millisecond }) ∧
    (-9223372036854 ≤ n → n ≤ 9223372036854 →
      Int.bmod (n * 1000000) 18446744073709551616 = n * 1000000) ∧
    (Int64.ofInt n * second).toInt = Int.bmod (n * 1000000000) 18446744073709551616 ∧
    load (("SHUTDOWN_TIMEOUT_SEC", v) :: e) =
      (if Int.bmod (n * 1000000000) 18446744073709551616 ≤ 0 then
        .error (.labelled "config validation failed"
          (.configInvalid "SHUTDOWN_TIMEOUT_SEC" "must be positive"))
      else .ok { c with shutdownTimeout := Int64.ofInt n * second }) ∧
    (-9223372036 ≤ n → n ≤ 9223372036 →
      Int.bmod (n * 1000000000) 18446744073709551616 = n * 1000000000) := by
  obtain ⟨hlo, hhi⟩ := leadingInt?_bounds hn
  have hms : (Int64.ofInt n * millisecond).toInt = Int.bmod (n * 1000000) 18446744073709551616 :=
    toInt_ofInt_mul hlo hhi millisecond
  have hsec : (Int64.ofInt n * second).toInt = Int.bmod (n * 1000000000) 18446744073709551616 :=
    toInt_ofInt_mul hlo hhi second
  refine ⟨hms, ?_, fun h1 h2 => Int.bmod_eq_of_le_mul_two (by omega) (by omega), hsec, ?_,
    fun h1 h2 => Int.bmod_eq_of_le_mul_two (by omega) (by omega)⟩
  · rw [load_cons_saveDebounce he hn]
    simp only [Int64.lt_iff_toInt_lt, hms, Int64.toInt_zero]
  · rw [load_cons_shutdownTimeout he hn]
    simp only [Int64.le_iff_toInt_le, hsec, Int64.toInt_zero]

/-- A save delay of 9223372036855 milliseconds over the defaults: the product wraps to a negative
number of nanoseconds, and the configuration is refused. -/
theorem load_reads_durations_of_large_count :
    load [] = .ok (ofEnvironment []) ∧ leadingInt? "9223372036855" = some 9223372036855 ∧
    (Int64.ofInt 9223372036855 * millisecond).toInt =
      Int.bmod (9223372036855 * 1000000) 18446744073709551616 ∧
    load [("SAVE_DEBOUNCE_MS", "9223372036855")] =
      (if Int.bmod (9223372036855 * 1000000) 18446744073709551616 < 0 then
        .error (.labelled "config validation failed"
          (.configInvalid "SAVE_DEBOUNCE_MS" "must not be negative"))
      else .ok { ofEnvironment [] with saveDebounce := Int64.ofInt 9223372036855 * millisecond }) ∧
    (-9223372036854 ≤ (9223372036855 : Int) → (9223372036855 : Int) ≤ 9223372036854 →
      Int.bmod (9223372036855 * 1000000) 18446744073709551616 = 9223372036855 * 1000000) ∧
    (Int64.ofInt 9223372036855 * second).toInt =
      Int.bmod (9223372036855 * 1000000000) 18446744073709551616 ∧
    load [("SHUTDOWN_TIMEOUT_SEC", "9223372036855")] =
      (if Int.bmod (9223372036855 * 1000000000) 18446744073709551616 ≤ 0 then
        .error (.labelled "config validation failed"
          (.configInvalid "SHUTDOWN_TIMEOUT_SEC" "must be positive"))
      else .ok { ofEnvironment [] with shutdownTimeout := Int64.ofInt 9223372036855 * second }) ∧
    (-9223372036 ≤ (9223372036855 : Int) → (9223372036855 : Int) ≤ 9223372036 →
      Int.bmod (9223372036855 * 1000000000) 18446744073709551616 = 9223372036855 * 1000000000) := by
  have hload : load [] = .ok (ofEnvironment []) := by cbv
  have hn : leadingInt? "9223372036855" = some 9223372036855 := by decide
  exact ⟨hload, hn, load_reads_durations hload hn⟩

/-- The wrapped product breaks the sign check both ways over the defaults: a save delay of
9223372036855 milliseconds, a count that is not negative, is refused as negative; one of
-9223372036855 milliseconds is accepted, as 9223372036854551616 nanoseconds. -/
theorem saveDebounce_sign_check_wraps :
    load [] = .ok (ofEnvironment []) ∧
    leadingInt? "9223372036855" = some 9223372036855 ∧
    load [("SAVE_DEBOUNCE_MS", "9223372036855")] =
      .error (.labelled "config validation failed"
        (.configInvalid "SAVE_DEBOUNCE_MS" "must not be negative")) ∧
    leadingInt? "-9223372036855" = some (-9223372036855) ∧
    (load [("SAVE_DEBOUNCE_MS", "-9223372036855")]).map (·.saveDebounce.toInt) =
      .ok 9223372036854551616 := by
  refine ⟨by cbv, by decide, by cbv, by decide, ?_⟩
  cbv

end Config

end BillOfMaterials
