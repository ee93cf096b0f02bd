import Mathlib.Tactic.IntervalCases
import Gleaner.Proofs.Text.Normal
import Gleaner.Text.Natural

/-! Words and numbers that a text says, whatever blanks stand around them. A number may have a plus sign and
leading zeros; it is read as the number that its digits stand for, or not at all. -/
namespace Gleaner.Text

/-- The text is the word with nothing but blanks around it. -/
def Padded (word text : List Char) : Prop :=
  ∃ before after, text = before ++ (word ++ after) ∧ (∀ c ∈ before, isBlank c = true) ∧
    ∀ c ∈ after, isBlank c = true

theorem padded_dropWhile (text : List Char) :
    ∃ before, text = before ++ text.dropWhile isBlank ∧ ∀ c ∈ before, isBlank c = true :=
  ⟨text.takeWhile isBlank, (List.takeWhile_append_dropWhile ..).symm, fun _ => List.mem_takeWhile_imp⟩

theorem padded_trim (text : List Char) : Padded (trim text) text := by
  obtain ⟨before, hbefore, hblank⟩ := padded_dropWhile text
  obtain ⟨after, hafter, hblank'⟩ := padded_dropWhile (text.dropWhile isBlank).reverse
  refine ⟨before, after.reverse, ?_, hblank, fun c hc => hblank' c (List.mem_reverse.1 hc)⟩
  rw [trim, trimEnd, ← List.reverse_append, ← hafter, List.reverse_reverse]
  exact hbefore

theorem trimEnd_of_blank {s : List Char} (hs : ∀ c ∈ s, isBlank c = true) : trimEnd s = [] := by
  rw [trimEnd, List.reverse_eq_nil_iff, List.dropWhile_eq_nil_iff]
  exact fun c hc => hs c (List.mem_reverse.1 hc)

theorem Padded.trim_eq {word text : List Char} (h : Padded word text)
    (hword : ∀ c ∈ word, isBlank c = false) : trim text = word := by
  obtain ⟨before, after, rfl, hbefore, hafter⟩ := h
  have hends : EndsSolid word := fun c hc => hword c (List.mem_of_getLast? hc)
  rw [trim, List.dropWhile_append_of_pos hbefore]
  cases word with
  | nil =>
    rw [List.nil_append, List.dropWhile_eq_nil_iff.2 hafter]
    rfl
  | cons c rest =>
    have hc : isBlank c = false := hword c List.mem_cons_self
    rw [List.cons_append, dropWhile_of_starts (startsSolid_cons.2 hc), ← List.cons_append,
      trimEnd_append_of_ends hends, trimEnd_of_blank hafter, List.append_nil]

/-- No blank is an upper case letter, so the case of its letters does not matter for a word without blanks. -/
theorem toLower_of_isBlank {c : Char} (h : isBlank c = true) : c.toLower = c := by
  unfold Char.toLower
  refine dif_neg fun hupper => ?_
  have hrange : 65 ≤ c.toNat ∧ c.toNat ≤ 90 := hupper
  simp only [isBlank, Bool.or_eq_true, Bool.and_eq_true, decide_eq_true_eq, beq_iff_eq] at h
  omega

theorem solid_of_map_toLower {word : List Char}
    (h : ∀ c ∈ word.map Char.toLower, isBlank c = false) : ∀ c ∈ word, isBlank c = false := by
  intro c hc
  rw [Bool.eq_false_iff]
  intro hblank
  have hlower := h _ (List.mem_map_of_mem hc)
  rw [toLower_of_isBlank hblank, hblank] at hlower
  cases hlower

/-- Decimal digits that stand for `n`. -/
structure Digits (n : Nat) (digits : List Char) : Prop where
  ne_nil : digits ≠ []
  isDigit : ∀ c ∈ digits, c.isDigit = true
  value : Nat.ofDigitChars 10 digits 0 = n

/-- The digits of a number without a zero in front. -/
structure Canonical (n : Nat) (digits : List Char) : Prop extends Digits n digits where
  start : ∀ rest, digits = '0' :: rest → rest = []

/-- Digits with or without a plus sign in front. -/
def Numeral (n : Nat) (word : List Char) : Prop :=
  ∃ digits, Digits n digits ∧ (word = digits ∨ word = '+' :: digits)

theorem isBlank_of_isDigit {c : Char} (h : c.isDigit = true) : isBlank c = false := by
  have hrange : 48 ≤ c.toNat ∧ c.toNat ≤ 57 := Char.isDigit_iff_toNat.1 h
  rw [Bool.eq_false_iff]
  intro hblank
  simp only [isBlank, Bool.or_eq_true, Bool.and_eq_true, decide_eq_true_eq, beq_iff_eq] at hblank
  omega

theorem Numeral.solid {n : Nat} {word : List Char} (h : Numeral n word) :
    ∀ c ∈ word, isBlank c = false := by
  obtain ⟨digits, hdigits, rfl | rfl⟩ := h
  · exact fun c hc => isBlank_of_isDigit (hdigits.isDigit c hc)
  · exact List.forall_mem_cons.2 ⟨rfl, fun c hc => isBlank_of_isDigit (hdigits.isDigit c hc)⟩

theorem le_ofDigitChars (n : Nat) (s : List Char) : n ≤ Nat.ofDigitChars 10 s n := by
  induction s generalizing n with
  | nil => exact Nat.le_refl n
  | cons c rest ih =>
    rw [Nat.ofDigitChars_cons]
    have hrest := ih (10 * n + (c.toNat - '0'.toNat))
    omega

/-- A number that has become too large stays so, whatever digits follow. -/
theorem naturalFrom_eq_ok_iff {max n m : Nat} {s : List Char} (hn : n ≤ max) :
    naturalFrom max n s = .ok m ↔
      (∀ c ∈ s, c.isDigit = true) ∧ Nat.ofDigitChars 10 s n = m ∧ m ≤ max := by
  induction s generalizing n with
  | nil =>
    simp only [naturalFrom, Except.ok.injEq, List.not_mem_nil, false_implies, implies_true, true_and]
    exact ⟨fun h => ⟨h, h ▸ hn⟩, fun h => h.1⟩
  | cons c rest ih =>
    rw [naturalFrom, Nat.ofDigitChars_cons, List.forall_mem_cons]
    by_cases hc : c.isDigit = true
    · rw [if_neg (by simp [hc]), Nat.mul_comm 10 n]
      by_cases hlarge : max < n * 10 + (c.toNat - '0'.toNat)
      · have hgrows := le_ofDigitChars (n * 10 + (c.toNat - '0'.toNat)) rest
        rw [if_pos hlarge]
        simp only [reduceCtorEq, false_iff, not_and]
        intro _ hm
        omega
      · rw [if_neg hlarge, ih (Nat.not_lt.1 hlarge)]
        simp only [hc, true_and]
    · rw [if_pos (by simp [hc])]
      simp [hc]

theorem naturalFrom_zero_eq_ok_iff {max n : Nat} {s : List Char} (hs : s ≠ []) :
    naturalFrom max 0 s = .ok n ↔ Digits n s ∧ n ≤ max := by
  rw [naturalFrom_eq_ok_iff (Nat.zero_le max)]
  exact ⟨fun ⟨hdigit, hvalue, hn⟩ => ⟨⟨hs, hdigit, hvalue⟩, hn⟩,
    fun ⟨h, hn⟩ => ⟨h.isDigit, h.value, hn⟩⟩

theorem not_digits_nil {n : Nat} : ¬Digits n [] := fun h => h.ne_nil rfl

theorem not_digits_plus {n : Nat} {rest : List Char} : ¬Digits n ('+' :: rest) :=
  fun h => absurd (h.isDigit '+' List.mem_cons_self) (by decide)

theorem numeral_plus_iff {n : Nat} {rest : List Char} : Numeral n ('+' :: rest) ↔ Digits n rest := by
  constructor
  · rintro ⟨digits, h, rfl | heq⟩
    · exact absurd h not_digits_plus
    · exact (List.cons.inj heq).2 ▸ h
  · exact fun h => ⟨rest, h, .inr rfl⟩

theorem numeral_iff_of_ne_plus {n : Nat} {word : List Char} (hword : ∀ rest, word ≠ '+' :: rest) :
    Numeral n word ↔ Digits n word := by
  constructor
  · rintro ⟨digits, h, rfl | rfl⟩
    · exact h
    · exact absurd rfl (hword digits)
  · exact fun h => ⟨word, h, .inl rfl⟩

/-- What is read is the number of a numeral; none above the bound is read. -/
theorem natural_eq_ok_iff {max n : Nat} {word : List Char} :
    natural max word = .ok n ↔ Numeral n word ∧ n ≤ max := by
  rw [natural.eq_def]
  split
  · simp [numeral_iff_of_ne_plus, not_digits_nil]
  · simp [numeral_plus_iff, not_digits_nil]
  · next rest hrest =>
    have hne : rest ≠ [] := fun h => hrest (h ▸ rfl)
    rw [naturalFrom_zero_eq_ok_iff hne, numeral_plus_iff]
  · next hnil _ hplus =>
    rw [naturalFrom_zero_eq_ok_iff hnil, numeral_iff_of_ne_plus hplus]

/-! The digits of a number without a zero in front are those that a number is written with. -/

theorem digits_toString (n : Nat) : Digits n (toString n).toList := by
  rw [Nat.toString_eq_repr, Nat.toList_repr]
  exact ⟨Nat.toDigits_ne_nil, fun c => Nat.isDigit_of_mem_toDigits (by decide) (by decide),
    Nat.ofDigitChars_toDigits (by decide) (by decide)⟩

theorem digitChar_of_isDigit {c : Char} (h : c.isDigit = true) :
    c.toNat - '0'.toNat < 10 ∧ (c.toNat - '0'.toNat).digitChar = c := by
  obtain ⟨hlow, hhigh⟩ := Char.isDigit_iff_toNat.1 h
  have hc : c = Char.ofNat c.toNat := (Char.ofNat_toNat c).symm
  generalize c.toNat = k at hc hlow hhigh
  subst hc
  have hlow : 48 ≤ k := hlow
  have hhigh : k ≤ 57 := hhigh
  interval_cases k <;> decide

/-- A zero in front of more digits is in front of what all but the last digit say as well. -/
theorem toDigits_start {n : Nat} {rest : List Char} (h : Nat.toDigits 10 n = '0' :: rest) :
    rest = [] := by
  induction n using Nat.strongRecOn generalizing rest with
  | ind n ih =>
    by_cases hn : n < 10
    · rw [Nat.toDigits_of_lt_base hn] at h
      exact (List.cons.inj h).2.symm
    · rw [Nat.toDigits_of_base_le (by decide) (Nat.not_lt.1 hn)] at h
      obtain ⟨hfront, -⟩ | ⟨front, hfront, -⟩ := List.append_eq_cons_iff.1 h
      · exact absurd hfront Nat.toDigits_ne_nil
      · have hzero : n / 10 = 0 := by
          have hvalue := Nat.ofDigitChars_toDigits (b := 10) (n := n / 10) (by decide) (by decide)
          rw [hfront, ih (n / 10) (by omega) hfront] at hvalue
          exact hvalue.symm
        omega

/-- A digit behind a number that is not zero makes the next longer number. -/
theorem Canonical.eq_toDigits {n : Nat} {digits : List Char} (h : Canonical n digits) :
    digits = Nat.toDigits 10 n := by
  induction digits using List.reverseRecOn generalizing n with
  | nil => exact absurd h.toDigits not_digits_nil
  | append_singleton front c ih =>
    obtain ⟨hd, hc⟩ := digitChar_of_isDigit (h.isDigit c (by simp))
    have hvalue := h.value
    rw [Nat.ofDigitChars_append, Nat.ofDigitChars_cons, Nat.ofDigitChars_nil] at hvalue
    rcases eq_or_ne front [] with rfl | hfront
    · rw [Nat.ofDigitChars_nil, Nat.mul_zero, Nat.zero_add] at hvalue
      rw [← hvalue, Nat.toDigits_of_lt_base hd, hc, List.nil_append]
    · have hstart : ∀ rest, front ≠ '0' :: rest := by
        rintro rest rfl
        exact absurd (h.start (rest ++ [c]) rfl) (by simp)
      have hdigits : Digits (Nat.ofDigitChars 10 front 0) front :=
        ⟨hfront, fun d hd => h.isDigit d (List.mem_append_left _ hd), rfl⟩
      have ih := ih ⟨hdigits, fun rest hrest => absurd hrest (hstart rest)⟩
      generalize Nat.ofDigitChars 10 front 0 = k at hvalue ih
      have hk : k ≠ 0 := by
        rintro rfl
        exact hstart [] ih
      have happend := Nat.toDigits_append_toDigits (by decide : 1 < 10) (Nat.pos_of_ne_zero hk) hd
      rwa [Nat.toDigits_of_lt_base hd, hc, ← ih, hvalue] at happend

theorem canonical_iff {n : Nat} {digits : List Char} :
    Canonical n digits ↔ digits = (toString n).toList := by
  constructor
  · intro h
    rw [h.eq_toDigits, Nat.toString_eq_repr, Nat.toList_repr]
  · rintro rfl
    refine ⟨digits_toString n, fun rest h => ?_⟩
    rw [Nat.toString_eq_repr, Nat.toList_repr] at h
    exact toDigits_start h

end Gleaner.Text
