import Mathlib.Algebra.Order.Ring.Rat
import Mathlib.Data.List.DropRight
import Mathlib.Tactic.FieldSimp
import Mathlib.Tactic.Ring

namespace Decimal

def readDigits (digits : List Char) : Option Nat :=
  if !digits.isEmpty && digits.all Char.isDigit then some (Nat.ofDigitChars 10 digits 0) else none

def readFraction : List Char → Option ℚ
  | [] => some 0
  | _ :: digits => (readDigits digits).map fun n : Nat => (n : ℚ) / 10 ^ digits.length

def read (cs : List Char) : Option ℚ :=
  (readDigits (cs.takeWhile (· ≠ '.'))).bind fun whole =>
    (readFraction (cs.dropWhile (· ≠ '.'))).map fun fraction => (whole : ℚ) + fraction

def padded (places n : Nat) : List Char := (Nat.toDigits 10 n).leftpad places '0'

def trimmed (digits : List Char) : List Char := digits.rdropWhile (· = '0')

def fixedPoint (places n : Nat) : List Char :=
  if n % 10 ^ places = 0 then Nat.toDigits 10 (n / 10 ^ places)
  else Nat.toDigits 10 (n / 10 ^ places) ++ '.' :: trimmed (padded places (n % 10 ^ places))

variable {places n : Nat} {digits : List Char}

theorem readDigits_of_digits (hne : digits ≠ []) (hdigits : ∀ c ∈ digits, c.isDigit) :
    readDigits digits = some (Nat.ofDigitChars 10 digits 0) := by
  have hall : digits.all Char.isDigit = true := List.all_eq_true.2 hdigits
  rw [readDigits, List.isEmpty_eq_false_iff.2 hne, hall]
  rfl

theorem isDigit_of_mem_toDigits {c : Char} (h : c ∈ Nat.toDigits 10 n) : c.isDigit :=
  Nat.isDigit_of_mem_toDigits (by decide) (by decide) h

theorem readDigits_toDigits (n : Nat) : readDigits (Nat.toDigits 10 n) = some n := by
  rw [readDigits_of_digits Nat.toDigits_ne_nil fun c hc => isDigit_of_mem_toDigits hc,
    Nat.ofDigitChars_ten_toDigits]

theorem toDigits_injective : Function.Injective (Nat.toDigits 10) := by
  intro n m h
  have hread := readDigits_toDigits n
  rw [h, readDigits_toDigits, Option.some.injEq] at hread
  exact hread.symm

theorem ne_point_of_isDigit {c : Char} (h : c.isDigit) : c ≠ '.' := by
  rintro rfl
  exact absurd h (by decide)

theorem read_of_whole (hdigits : ∀ c ∈ digits, c.isDigit) :
    read digits = (readDigits digits).map (Nat.cast : Nat → ℚ) := by
  have hpoint : ∀ c ∈ digits, decide (c ≠ '.') = true := fun c hc =>
    decide_eq_true (ne_point_of_isDigit (hdigits c hc))
  rw [read, List.takeWhile_eq_self_iff.2 hpoint, List.dropWhile_eq_nil_iff.2 hpoint]
  cases readDigits digits with
  | none => rfl
  | some whole => simp [readFraction]

theorem read_of_point {whole fraction : List Char} (hdigits : ∀ c ∈ whole, c.isDigit) :
    read (whole ++ '.' :: fraction) = (readDigits whole).bind fun n =>
      (readDigits fraction).map fun m : Nat => (n : ℚ) + (m : ℚ) / 10 ^ fraction.length := by
  have hpoint : ∀ c ∈ whole, decide (c ≠ '.') = true := fun c hc =>
    decide_eq_true (ne_point_of_isDigit (hdigits c hc))
  rw [read, List.takeWhile_append_of_pos hpoint, List.dropWhile_append_of_pos hpoint]
  have htake : List.takeWhile (fun c => decide (c ≠ '.')) ('.' :: fraction) = [] := rfl
  have hdrop : List.dropWhile (fun c => decide (c ≠ '.')) ('.' :: fraction) = '.' :: fraction := rfl
  rw [htake, hdrop, List.append_nil, readFraction]
  simp only [Option.map_map, Function.comp_def]

theorem trimmed_append (digits : List Char) :
    ∃ zeros, digits = trimmed digits ++ List.replicate zeros '0' := by
  refine ⟨(digits.rtakeWhile (· = '0')).length, ?_⟩
  have hsplit := List.rdropWhile_append_rtakeWhile (p := (· = '0')) (l := digits)
  rw [← List.eq_replicate_iff.2 ⟨rfl, fun c hc => by simpa using List.mem_rtakeWhile_imp hc⟩]
  exact hsplit.symm

theorem ofDigitChars_trimmed (digits : List Char) :
    (Nat.ofDigitChars 10 (trimmed digits) 0 : ℚ) / 10 ^ (trimmed digits).length =
      (Nat.ofDigitChars 10 digits 0 : ℚ) / 10 ^ digits.length := by
  obtain ⟨zeros, hzeros⟩ := trimmed_append digits
  have hvalue : Nat.ofDigitChars 10 digits 0 =
      10 ^ zeros * Nat.ofDigitChars 10 (trimmed digits) 0 := by
    conv_lhs => rw [hzeros, Nat.ofDigitChars_append, Nat.ofDigitChars_replicate_zero]
  have hlength : digits.length = (trimmed digits).length + zeros := by
    conv_lhs => rw [hzeros, List.length_append, List.length_replicate]
  rw [hvalue, hlength, pow_add]
  push_cast
  field_simp

theorem ofDigitChars_padded (places n : Nat) :
    Nat.ofDigitChars 10 (padded places n) 0 = n := by
  rw [padded, List.leftpad, Nat.ofDigitChars_append, Nat.ofDigitChars_replicate_zero,
    Nat.mul_zero, Nat.ofDigitChars_ten_toDigits]

theorem isDigit_of_mem_padded {c : Char} (h : c ∈ padded places n) : c.isDigit := by
  rw [padded, List.leftpad, List.mem_append] at h
  rcases h with hzero | hdigit
  · rw [List.eq_of_mem_replicate hzero]
    decide
  · exact isDigit_of_mem_toDigits hdigit

theorem length_padded (hplaces : 0 < places) (hn : n < 10 ^ places) :
    (padded places n).length = places := by
  have hlength := (Nat.length_toDigits_le_iff (by decide : 1 < 10) hplaces).2 hn
  rw [padded, List.length_leftpad]
  omega

theorem trimmed_ne_nil (hn : Nat.ofDigitChars 10 digits 0 ≠ 0) : trimmed digits ≠ [] := by
  intro hnil
  obtain ⟨zeros, hzeros⟩ := trimmed_append digits
  rw [hzeros, hnil, List.nil_append, Nat.ofDigitChars_replicate_zero, Nat.mul_zero] at hn
  exact hn rfl

theorem read_fixedPoint (places n : Nat) :
    read (fixedPoint places n) = some ((n : ℚ) / 10 ^ places) := by
  have hsplit : (n : ℚ) =
      (10 : ℚ) ^ places * (n / 10 ^ places : Nat) + (n % 10 ^ places : Nat) := by
    exact_mod_cast (Nat.div_add_mod n (10 ^ places)).symm
  have hdigits : ∀ c ∈ Nat.toDigits 10 (n / 10 ^ places), c.isDigit := fun c hc =>
    isDigit_of_mem_toDigits hc
  rw [fixedPoint]
  split
  · rename_i hwhole
    rw [read_of_whole hdigits, readDigits_toDigits, Option.map_some, hsplit, hwhole]
    field_simp
    simp
  · rename_i hfraction
    have hplaces : 0 < places := by
      refine Nat.pos_of_ne_zero fun hzero => hfraction ?_
      rw [hzero, Nat.pow_zero, Nat.mod_one]
    have hne : trimmed (padded places (n % 10 ^ places)) ≠ [] :=
      trimmed_ne_nil (by rwa [ofDigitChars_padded])
    have hfractionDigits : ∀ c ∈ trimmed (padded places (n % 10 ^ places)), c.isDigit :=
      fun c hc => isDigit_of_mem_padded ((List.rdropWhile_prefix _ _).subset hc)
    have hlength := length_padded hplaces (Nat.mod_lt n (Nat.pow_pos (by decide : 0 < 10)))
    rw [read_of_point hdigits, readDigits_toDigits, readDigits_of_digits hne hfractionDigits,
      Option.bind_some, Option.map_some, ofDigitChars_trimmed, ofDigitChars_padded, hlength]
    conv_rhs => rw [hsplit]
    field_simp

theorem fixedPoint_injective (places : Nat) : Function.Injective (fixedPoint places) := by
  intro n m h
  have hread := read_fixedPoint places n
  have hscale : (10 : ℚ) ^ places ≠ 0 := pow_ne_zero _ (by norm_num)
  rw [h, read_fixedPoint places m, Option.some.injEq, div_left_inj' hscale] at hread
  exact_mod_cast hread.symm

end Decimal
