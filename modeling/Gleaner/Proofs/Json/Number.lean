import Gleaner.Proofs.Json.Numeral
import Gleaner.Proofs.Json.Reader

/-! The reader of numbers takes the numbers of the grammar and refuses those that are out of range, whatever
follows them, as long as that cannot be taken for a part of the number. -/
namespace Gleaner.Json

/-- What may follow a number: nothing, a blank, a comma or a closing bracket. -/
def endsNumber (b : UInt8) : Bool := isBlankByte b || b == 0x2C || b == 0x5D || b == 0x7D

def Delimited (s : List UInt8) : Prop := ∀ b, s.head? = some b → endsNumber b = true

theorem Delimited.nil : Delimited [] := fun _ h => by cases h

theorem Delimited.cons {b : UInt8} {s : List UInt8} (h : endsNumber b = true) :
    Delimited (b :: s) := by
  intro d hd
  cases hd
  exact h

namespace Reader

/-- No byte of a number comes next. -/
structure Stop (b : Option UInt8) : Prop where
  notDigit : digit? b = none
  notPoint : (b == some 0x2E) = false
  notExponent : isExponent b = false

theorem stop_head {s : List UInt8} (h : Delimited s) : Stop s.head? := by
  cases s with
  | nil => exact ⟨rfl, rfl, rfl⟩
  | cons b s =>
    have hb := h b rfl
    simp only [endsNumber, isBlankByte, Bool.or_eq_true, beq_iff_eq] at hb
    rcases hb with (((((rfl | rfl) | rfl) | rfl) | rfl) | rfl) | rfl <;> exact ⟨rfl, rfl, rfl⟩

theorem digit?_eq_some {b : UInt8} (h : IsDigit b) : digit? (some b) = some (digitValue b) := by
  unfold digitValue
  exact if_pos h

theorem digit?_eq_none_iff {b : UInt8} : digit? (some b) = none ↔ ¬ IsDigit b := by
  by_cases h : IsDigit b
  · simp [digit?_eq_some h, h]
  · exact ⟨fun _ => h, fun _ => if_neg h⟩

/-- A text begins with as many digits as there are. -/
theorem exists_digits_append (s : List UInt8) :
    ∃ ds m, s = ds ++ m ∧ Digits ds ∧ digit? m.head? = none := by
  refine ⟨s.takeWhile (IsDigit ·), s.dropWhile (IsDigit ·), List.takeWhile_append_dropWhile.symm, ?_, ?_⟩
  · intro b hb
    have hdigit := List.mem_takeWhile_imp hb
    exact of_decide_eq_true hdigit
  · have h := List.head?_dropWhile_not (fun b => decide (IsDigit b)) s
    cases hhead : (s.dropWhile (IsDigit ·)).head? with
    | none => rfl
    | some b =>
      rw [hhead] at h
      exact digit?_eq_none_iff.2 (by simpa using h)

variable {s m ds : List UInt8} {b : UInt8} {positive : Bool} {k n : Nat} {e : Int}

/-! Loops over digits, each with its bound. -/

theorem Takes.skipDigits (hds : Digits ds) (hs : digit? s.head? = none) (hn : ds.length ≤ n) :
    Takes (Reader.skipDigits n) (ds ++ s) () s := by
  induction ds generalizing n with
  | nil =>
    cases n with
    | zero => exact .pure () s
    | succ n =>
      refine (Takes.peek s).bind ?_
      rw [hs, if_neg (by simp)]
      exact .pure () s
  | cons b ds ih =>
    obtain ⟨n, rfl⟩ := Nat.exists_eq_succ_of_ne_zero (Nat.ne_zero_of_lt hn)
    obtain ⟨hb, hds⟩ := List.forall_mem_cons.1 hds
    refine (Takes.peek _).bind ?_
    rw [List.cons_append, List.head?_cons, digit?_eq_some hb, if_pos Option.isSome_some]
    exact (Takes.advance _ _).bind (ih hds (Nat.le_of_succ_le_succ hn))

theorem Takes.exponentDigits (hds : Digits ds) (hs : digit? s.head? = none) (hn : ds.length ≤ n)
    (hk : digitsValue k ds ≤ exponentBound) :
    Takes (Reader.exponentDigits k n) (ds ++ s) (some (digitsValue k ds)) s := by
  induction ds generalizing k n with
  | nil =>
    cases n with
    | zero => exact .pure _ s
    | succ n =>
      refine (Takes.peek s).bind ?_
      rw [hs]
      exact .pure _ s
  | cons b ds ih =>
    obtain ⟨n, rfl⟩ := Nat.exists_eq_succ_of_ne_zero (Nat.ne_zero_of_lt hn)
    obtain ⟨hb, hds⟩ := List.forall_mem_cons.1 hds
    rw [digitsValue] at hk ⊢
    have hle := le_digitsValue (k * 10 + digitValue b) ds
    refine (Takes.peek _).bind ?_
    rw [List.cons_append, List.head?_cons, digit?_eq_some hb]
    refine (Takes.advance _ _).bind ?_
    rw [if_neg (by omega)]
    exact ih hds (Nat.le_of_succ_le_succ hn) hk

/-- Digits are counted until the exponent is out of bounds. -/
theorem Takes.exponentDigits_none (hds : Digits ds) (hn : ds.length ≤ n) (hk : k ≤ exponentBound)
    (hlt : exponentBound < digitsValue k ds) :
    ∃ rest, Digits rest ∧ Takes (Reader.exponentDigits k n) (ds ++ s) none (rest ++ s) := by
  induction ds generalizing k n with
  | nil => exact absurd hlt (Nat.not_lt.2 hk)
  | cons b ds ih =>
    obtain ⟨n, rfl⟩ := Nat.exists_eq_succ_of_ne_zero (Nat.ne_zero_of_lt hn)
    obtain ⟨hb, hds⟩ := List.forall_mem_cons.1 hds
    have hstep : Leads (Reader.exponentDigits k (n + 1))
        (if exponentBound < k * 10 + digitValue b then Pure.pure none
          else Reader.exponentDigits (k * 10 + digitValue b) n) (b :: ds ++ s) (ds ++ s) := by
      refine ((Takes.peek _).leads _).trans ?_
      rw [List.cons_append, List.head?_cons, digit?_eq_some hb]
      exact (Takes.advance _ _).leads _
    by_cases hbound : exponentBound < k * 10 + digitValue b
    · rw [if_pos hbound] at hstep
      exact ⟨ds, hds, hstep.takes (.pure none _)⟩
    · rw [if_neg hbound] at hstep
      obtain ⟨rest, hrest, htakes⟩ :=
        ih hds (Nat.le_of_succ_le_succ hn) (Nat.not_lt.1 hbound) (by rwa [digitsValue] at hlt)
      exact ⟨rest, hrest, hstep.takes htakes⟩

/-- The digits that no longer count are skipped before they are taken one by one. -/
theorem Takes.fractionDigits (hds : Digits ds) (hs : digit? s.head? = none) (hn : ds.length < n) :
    Takes (Reader.fractionDigits k e n) (ds ++ s)
      ((takeDigits k ds).1, e - ds.length + (takeDigits k ds).2) s := by
  induction ds generalizing k e n with
  | nil =>
    obtain ⟨n, rfl⟩ := Nat.exists_eq_succ_of_ne_zero (Nat.ne_zero_of_lt hn)
    refine (Takes.peek s).bind ?_
    rw [hs]
    simpa [takeDigits] using Takes.pure (k, e) s
  | cons b ds ih =>
    obtain ⟨n, rfl⟩ := Nat.exists_eq_succ_of_ne_zero (Nat.ne_zero_of_lt hn)
    have hlength := Nat.lt_of_succ_lt_succ hn
    refine (Takes.peek _).bind ?_
    obtain ⟨hb, hrest⟩ := List.forall_mem_cons.1 hds
    rw [List.cons_append, List.head?_cons, digit?_eq_some hb, takeDigits]
    dsimp only
    by_cases hlarge : 0x10000000000000000 ≤ k * 10 + digitValue b
    · rw [if_pos hlarge, if_pos hlarge]
      have hsame : e - ((b :: ds).length : Int) + ((ds.length + 1 : Nat) : Int) = e := by
        rw [List.length_cons]
        omega
      rw [hsame]
      exact (Takes.skipDigits hds hs hlength).bind (.pure _ _)
    · rw [if_neg hlarge, if_neg hlarge]
      have hshift : e - ((b :: ds).length : Int) = e - 1 - ds.length := by
        rw [List.length_cons]
        omega
      rw [hshift]
      exact (Takes.advance _ _).bind (ih hrest hlength)

theorem longInteger_leads (hds : Digits ds) (hs : digit? s.head? = none) (hn : ds.length ≤ n) :
    Leads (longInteger positive k e n)
      (wholeEnd (double? positive k (e + ds.length)) positive k (e + ds.length)) (ds ++ s) s := by
  induction ds generalizing e n with
  | nil =>
    rw [List.length_nil, Int.natCast_zero, Int.add_zero]
    cases n with
    | zero => exact .refl _ s
    | succ n =>
      refine ((Takes.peek s).leads _).trans ?_
      rw [hs, if_neg (by simp)]
      exact .refl _ s
  | cons b ds ih =>
    obtain ⟨n, rfl⟩ := Nat.exists_eq_succ_of_ne_zero (Nat.ne_zero_of_lt hn)
    obtain ⟨hb, hds⟩ := List.forall_mem_cons.1 hds
    have hshift : e + ((b :: ds).length : Int) = e + 1 + ds.length := by
      rw [List.length_cons]
      omega
    refine ((Takes.peek _).leads _).trans ?_
    rw [List.cons_append, List.head?_cons, digit?_eq_some hb,
      if_pos Option.isSome_some, hshift]
    exact ((Takes.advance _ _).leads _).trans (ih hds (Nat.le_of_succ_le_succ hn))

theorem integerDigits_leads (hds : Digits ds) (hs : digit? s.head? = none) (hn : ds.length ≤ n) :
    Leads (integerDigits positive k n)
      (wholeEnd (plain? positive (takeDigits k ds).1 (takeDigits k ds).2) positive (takeDigits k ds).1
        (takeDigits k ds).2) (ds ++ s) s := by
  induction ds generalizing k n with
  | nil =>
    cases n with
    | zero => exact .refl _ s
    | succ n =>
      refine ((Takes.peek s).leads _).trans ?_
      rw [hs]
      exact .refl _ s
  | cons b ds ih =>
    obtain ⟨n, rfl⟩ := Nat.exists_eq_succ_of_ne_zero (Nat.ne_zero_of_lt hn)
    refine ((Takes.peek _).leads _).trans ?_
    obtain ⟨hb, hrest⟩ := List.forall_mem_cons.1 hds
    rw [takeDigits, List.cons_append, List.head?_cons, digit?_eq_some hb]
    dsimp only
    by_cases hlarge : 0x10000000000000000 ≤ k * 10 + digitValue b
    · rw [if_pos hlarge, if_pos hlarge]
      have hlong : Leads (longInteger positive k 0 (n + 1)) _ (b :: ds ++ s) s :=
        longInteger_leads hds hs hn
      rwa [Int.zero_add] at hlong
    · rw [if_neg hlarge, if_neg hlarge]
      exact ((Takes.advance _ _).leads _).trans (ih hrest (Nat.le_of_succ_le_succ hn))

/-! What the parts of a number come to. -/

/-- The reader gives the number and leaves the rest or, if there is none, refuses the text as too large. -/
def Concludes (r : Reader Number) (s m : List UInt8) : Option Number → Prop
  | some n => Takes r s n m
  | none => Refuses r s .numberTooLarge

variable {o : Option Number} {r r' : Reader Number} {v : Number}

theorem Leads.concludes (h : Leads r r' s m) {l : List UInt8} (hr : Concludes r' m l o) :
    Concludes r s l o := by
  cases o with
  | some n => exact h.takes hr
  | none => exact h.refuses hr

theorem Concludes.unique {m' : List UInt8} (h : Concludes r s m o) (h' : Gives r s v m') :
    o = some v ∧ m' = m := by
  cases o with
  | some n =>
    obtain ⟨rfl, rfl⟩ := Takes.unique h h'
    exact ⟨rfl, rfl⟩
  | none => exact absurd h' (Refuses.not_gives h)

theorem concludes_inRange (o : Option Number) (s : List UInt8) : Concludes (inRange o) s s o := by
  cases o with
  | some n => exact Takes.pure n s
  | none => exact refuses_fail s _

theorem concludes_exponentValue {up : Bool} (hds : Digits (b :: ds)) (hs : digit? s.head? = none) :
    Concludes (exponentValue positive k e up) (b :: ds ++ s) s
      (powered? positive k e up (digitsValue 0 (b :: ds))) := by
  obtain ⟨hb, hds⟩ := List.forall_mem_cons.1 hds
  have hfirst := digitValue_lt hb
  refine ((Takes.next b (ds ++ s)).leads _).concludes ?_
  dsimp only
  rw [digit?_eq_some hb, digitsValue, Nat.zero_mul, Nat.zero_add, powered?]
  refine ((Takes.remaining _).leads _).concludes ?_
  have hlength : ds.length ≤ (ds ++ s).length := by simp
  by_cases hbound : digitsValue (digitValue b) ds ≤ exponentBound
  · rw [if_pos hbound]
    exact ((Takes.exponentDigits hds hs hlength hbound).leads _).concludes (concludes_inRange _ s)
  · rw [if_neg hbound]
    obtain ⟨rest, hrest, htakes⟩ := Takes.exponentDigits_none (s := s) hds hlength
      (le_trans hfirst.le (by decide)) (Nat.not_le.1 hbound)
    refine (htakes.leads _).concludes ?_
    dsimp only
    by_cases hzero : (up && k != 0) = true
    · rw [if_pos hzero, if_pos hzero]
      exact refuses_fail _ _
    · rw [if_neg hzero, if_neg hzero]
      have hskip := Takes.skipDigits hrest hs (by simp : rest.length ≤ (rest ++ s).length)
      exact (Takes.remaining _).bind (hskip.bind (.pure _ s))

theorem Gives.exponentValue {up : Bool} (h : Gives (Reader.exponentValue positive k e up) s v m) :
    ∃ ds, ds ≠ [] ∧ Digits ds ∧ s = ds ++ m ∧
      powered? positive k e up (digitsValue 0 ds) = some v := by
  obtain ⟨o, l, hnext, hrest⟩ := id h.bind
  obtain ⟨rfl, -⟩ := hnext.next
  cases s with
  | nil => exact hrest.fail.elim
  | cons b s =>
    by_cases hb : IsDigit b
    · obtain ⟨ds, t, rfl, hds, ht⟩ := exists_digits_append s
      have hall : Digits (b :: ds) := List.forall_mem_cons.2 ⟨hb, hds⟩
      obtain ⟨hvalue, rfl⟩ := (concludes_exponentValue hall ht).unique h
      exact ⟨b :: ds, List.cons_ne_nil b ds, hall, rfl, hvalue⟩
    · simp only [List.head?_cons, digit?_eq_none_iff.2 hb] at hrest
      exact hrest.fail.elim

theorem exponentPart_leads {t : List UInt8} (b : UInt8) (hs : s = [0x2B] ∨ s = [0x2D]) :
    Leads (exponentPart positive k e) (exponentValue positive k e (s != [0x2D])) (b :: s ++ t) t := by
  refine ((Takes.advance b _).leads _).trans ?_
  rcases hs with rfl | rfl
  · exact ((Takes.peek _).leads _).trans ((Takes.advance _ t).leads _)
  · exact ((Takes.peek _).leads _).trans ((Takes.advance _ t).leads _)

theorem exponentPart_leads_digits {t : List UInt8} (b : UInt8)
    (ht : (t.head? == some 0x2B || t.head? == some 0x2D) = false) :
    Leads (exponentPart positive k e) (exponentValue positive k e true) (b :: t) t := by
  refine ((Takes.advance b _).leads _).trans (((Takes.peek _).leads _).trans ?_)
  rw [if_neg (by simp [ht])]
  exact .refl _ t

theorem not_sign_of_isDigit (h : IsDigit b) : (some b == some 0x2B || some b == some 0x2D) = false := by
  simp only [Bool.or_eq_false_iff, beq_eq_false_iff_ne, ne_eq, Option.some.injEq]
  constructor
  · rintro rfl
    exact absurd h (by decide)
  · rintro rfl
    exact absurd h (by decide)

theorem concludes_exponentPart (x : Exponent) (hs : digit? s.head? = none) :
    Concludes (exponentPart positive k e) (x.text ++ s) s (scaled? positive k e (some x)) := by
  obtain ⟨letter, sign, digits, hletter, hsign, hdigits, hne⟩ := x
  obtain ⟨b, ds, rfl⟩ := List.exists_cons_of_ne_nil hne
  have hvalue : ∀ up, Concludes (exponentValue positive k e up) (b :: ds ++ s) s
      (powered? positive k e up (digitsValue 0 (b :: ds))) :=
    fun up => concludes_exponentValue hdigits hs
  have hb := not_sign_of_isDigit (hdigits b List.mem_cons_self)
  rcases hsign with rfl | hsign
  · exact (exponentPart_leads_digits (t := b :: ds ++ s) letter hb).concludes (hvalue true)
  · have hpart := (exponentPart_leads letter hsign).concludes (hvalue (sign != [0x2D]))
    rw [Exponent.text, List.cons_append, List.append_assoc]
    exact hpart

theorem Gives.exponentPart (h : Gives (Reader.exponentPart positive k e) (b :: s) v m)
    (hb : isExponent (some b)) :
    ∃ x : Exponent, b :: s = x.text ++ m ∧ scaled? positive k e (some x) = some v := by
  have hletter : b = 0x65 ∨ b = 0x45 := by simpa [isExponent] using hb
  cases hsign : s.head? == some 0x2B || s.head? == some 0x2D with
  | false =>
    obtain ⟨ds, hne, hds, rfl, hvalue⟩ := ((exponentPart_leads_digits b hsign).gives h).exponentValue
    exact ⟨⟨b, [], ds, hletter, .inl rfl, hds, hne⟩, rfl, hvalue⟩
  | true =>
    obtain ⟨a, t, rfl, ha⟩ : ∃ a t, s = a :: t ∧ ([a] = [0x2B] ∨ [a] = [0x2D]) := by
      cases s with
      | nil => cases hsign
      | cons a t => exact ⟨a, t, rfl, by simpa using hsign⟩
    obtain ⟨ds, hne, hds, rfl, hvalue⟩ := ((exponentPart_leads b ha).gives h).exponentValue
    exact ⟨⟨b, [a], ds, hletter, .inr ha, hds, hne⟩, rfl, hvalue⟩

/-! An exponent is known by its letter. -/

theorem head?_exponentText (x : Exponent) (s : List UInt8) :
    (exponentText (some x) ++ s).head? = some x.letter := rfl

theorem isExponent_letter (x : Exponent) : isExponent (some x.letter) = true := by
  rcases x.isLetter with h | h <;> rw [h] <;> rfl

theorem digit?_letter (x : Exponent) : digit? (some x.letter) = none := by
  rcases x.isLetter with h | h <;> rw [h] <;> rfl

theorem letter_beq_point (x : Exponent) : (some x.letter == some 0x2E) = false := by
  rcases x.isLetter with h | h <;> rw [h] <;> rfl

theorem digit?_exponentText (x : Option Exponent) (hs : digit? s.head? = none) :
    digit? (exponentText x ++ s).head? = none := by
  cases x with
  | none => exact hs
  | some x => exact digit?_letter x

theorem concludes_fractionEnd (x : Option Exponent) (hs : Stop s.head?) :
    Concludes (fractionEnd positive k e) (exponentText x ++ s) s (scaled? positive k e x) := by
  refine ((Takes.peek _).leads _).concludes ?_
  cases x with
  | none =>
    rw [exponentText, List.nil_append, if_neg (by simp [hs.notExponent])]
    exact concludes_inRange _ s
  | some x =>
    rw [head?_exponentText, if_pos (isExponent_letter x)]
    exact concludes_exponentPart x hs.notDigit

theorem Gives.fractionEnd (h : Gives (Reader.fractionEnd positive k e) s v m) :
    ∃ x, s = exponentText x ++ m ∧ scaled? positive k e x = some v := by
  obtain ⟨o, l, hpeek, hrest⟩ := h.bind
  obtain ⟨rfl, rfl⟩ := hpeek.peek
  split_ifs at hrest with hletter
  · cases l with
    | nil => cases hletter
    | cons b t =>
      obtain ⟨x, hx, hvalue⟩ := hrest.exponentPart hletter
      exact ⟨some x, hx, hvalue⟩
  · obtain ⟨hvalue, rfl⟩ := (concludes_inRange _ l).unique hrest
    exact ⟨none, rfl, hvalue⟩

/-- A fraction with what stands behind it. -/
theorem fractionPart_leads (hds : Digits (b :: ds)) (hs : digit? s.head? = none) :
    Leads (fractionPart positive k e)
      (fractionEnd positive (takeDigits k (b :: ds)).1
        (e - (b :: ds).length + (takeDigits k (b :: ds)).2)) (0x2E :: (b :: ds ++ s)) s := by
  have hb := (List.forall_mem_cons.1 hds).1
  refine ((Takes.advance _ _).leads _).trans (((Takes.peek _).leads _).trans ?_)
  rw [List.cons_append, List.head?_cons, digit?_eq_some hb]
  refine ((Takes.remaining _).leads _).trans ?_
  refine (Takes.fractionDigits hds hs ?_).leads _
  simp only [List.length_cons, List.length_append]
  omega

theorem Gives.fractionPart (h : Gives (Reader.fractionPart positive k e) (0x2E :: s) v m) :
    ∃ ds x, ds ≠ [] ∧ Digits ds ∧ s = ds ++ (exponentText x ++ m) ∧
      scaled? positive (takeDigits k ds).1 (e - ds.length + (takeDigits k ds).2) x = some v := by
  obtain ⟨ds, t, rfl, hds, ht⟩ := exists_digits_append s
  cases ds with
  | nil =>
    have hrest := ((Takes.advance _ _).leads _).gives h
    obtain ⟨o, l, hpeek, hrest⟩ := hrest.bind
    obtain ⟨rfl, rfl⟩ := hpeek.peek
    rw [List.nil_append] at hrest
    simp only [ht] at hrest
    obtain ⟨o, l, -, hrest⟩ := hrest.bind
    split_ifs at hrest
    · exact hrest.failNext.elim
    · exact hrest.failNext.elim
  | cons b ds =>
    obtain ⟨x, rfl, hvalue⟩ := ((fractionPart_leads hds ht).gives h).fractionEnd
    exact ⟨b :: ds, x, List.cons_ne_nil b ds, hds, rfl, hvalue⟩

theorem concludes_wholeEnd (plain : Option Number) (x : Option Exponent) (hds : Digits ds)
    (hs : Stop s.head?) :
    Concludes (wholeEnd plain positive k e) (fractionText ds ++ (exponentText x ++ s)) s
      (ended? plain positive k e ds x) := by
  refine ((Takes.peek _).leads _).concludes ?_
  cases ds with
  | nil =>
    cases x with
    | none =>
      rw [fractionText, if_pos rfl, exponentText, List.nil_append, List.nil_append,
        if_neg (by simp [hs.notPoint]), if_neg (by simp [hs.notExponent])]
      exact concludes_inRange plain s
    | some x =>
      have hvalue : ended? plain positive k e [] (some x) = scaled? positive k e (some x) := by
        simp [ended?, takeDigits]
      rw [hvalue, fractionText, if_pos rfl, List.nil_append, head?_exponentText,
        if_neg (Bool.eq_false_iff.1 (letter_beq_point x)), if_pos (isExponent_letter x)]
      exact concludes_exponentPart x hs.notDigit
  | cons b ds =>
    have hvalue : ended? plain positive k e (b :: ds) x =
        scaled? positive (takeDigits k (b :: ds)).1
          (e - (b :: ds).length + (takeDigits k (b :: ds)).2) x := if_neg (by simp)
    rw [hvalue, fractionText, if_neg (List.cons_ne_nil b ds), List.cons_append, List.head?_cons,
      if_pos (beq_self_eq_true _)]
    exact (fractionPart_leads hds (digit?_exponentText x hs.notDigit)).concludes
      (concludes_fractionEnd x hs)

theorem Gives.wholeEnd {plain : Option Number} (h : Gives (Reader.wholeEnd plain positive k e) s v m) :
    ∃ ds x, Digits ds ∧ s = fractionText ds ++ (exponentText x ++ m) ∧
      ended? plain positive k e ds x = some v := by
  obtain ⟨o, l, hpeek, hrest⟩ := h.bind
  obtain ⟨rfl, rfl⟩ := hpeek.peek
  split_ifs at hrest with hpoint hletter
  · cases l with
    | nil => cases hpoint
    | cons b t =>
      obtain rfl : b = 0x2E := by simpa using hpoint
      obtain ⟨ds, x, hne, hds, rfl, hvalue⟩ := hrest.fractionPart
      refine ⟨ds, x, hds, by rw [fractionText, if_neg hne, List.cons_append], ?_⟩
      rw [ended?, if_neg (fun h => hne h.1)]
      exact hvalue
  · cases l with
    | nil => cases hletter
    | cons b t =>
      obtain ⟨x, hx, hvalue⟩ := hrest.exponentPart hletter
      refine ⟨[], some x, by simp [Digits], hx, ?_⟩
      simpa [ended?, takeDigits] using hvalue
  · obtain ⟨hvalue, rfl⟩ := (concludes_inRange _ l).unique hrest
    exact ⟨[], none, by simp [Digits], rfl, by simpa [ended?] using hvalue⟩

/-! Whole numbers with what stands behind them. -/

/-- The reader that the digits of a whole number lead to. -/
def afterWhole (positive : Bool) (ds : List UInt8) : Reader Number :=
  let (k, left) := takeDigits 0 ds
  Reader.wholeEnd (plain? positive k left) positive k left

theorem number_leads (hds : Digits (b :: ds)) (hzero : b = 0x30 → ds = [])
    (hs : digit? s.head? = none) :
    Leads (Reader.number positive) (afterWhole positive (b :: ds)) (b :: ds ++ s) s := by
  obtain ⟨hb, hrest⟩ := List.forall_mem_cons.1 hds
  rw [List.cons_append]
  refine ((Takes.next b (ds ++ s)).leads _).trans ?_
  dsimp only
  by_cases hb₀ : b = 0x30
  · obtain rfl := hzero hb₀
    subst hb₀
    refine ((Takes.peek _).leads _).trans ?_
    rw [List.nil_append, hs, afterWhole, takeDigits_zero]
    exact .refl _ s
  · have hvalue := digitValue_lt hb
    obtain ⟨d, hd⟩ := Nat.exists_eq_succ_of_ne_zero (digitValue_ne_zero hb hb₀)
    have htake : takeDigits 0 (b :: ds) = takeDigits (d + 1) ds := by
      rw [takeDigits, if_neg (by omega), Nat.zero_mul, Nat.zero_add, hd]
    rw [digit?_eq_some hb, hd, afterWhole, htake]
    refine ((Takes.remaining _).leads _).trans (integerDigits_leads hrest hs ?_)
    rw [List.length_append]
    omega

theorem digit?_fractionText (ds : List UInt8) (x : Option Exponent) (hs : digit? s.head? = none) :
    digit? (fractionText ds ++ (exponentText x ++ s)).head? = none := by
  rw [fractionText]
  split_ifs with h
  · exact digit?_exponentText x hs
  · rfl

/-- A number is taken or, if it is out of range, refused as such. -/
theorem concludes_number (d : Numeral) (hs : Stop s.head?) :
    Concludes (Reader.number positive) (d.text ++ s) s (d.number? positive) := by
  obtain ⟨b, ds, hwhole, hb, hds⟩ := d.exists_whole
  have hzero : b = 0x30 → ds = [] := by
    rintro rfl
    have hall := d.zero (by rw [hwhole]; rfl)
    rw [hwhole] at hall
    exact (List.cons.inj hall).2
  rw [Numeral.text, Numeral.number?, hwhole, List.append_assoc, List.append_assoc]
  exact (number_leads (List.forall_mem_cons.2 ⟨hb, hds⟩) hzero
    (digit?_fractionText _ _ hs.notDigit)).concludes (concludes_wholeEnd _ _ d.isFraction hs)

theorem Gives.number (h : Gives (Reader.number positive) s v m) :
    ∃ t, s = t ++ m ∧ DigitsText positive t v := by
  obtain ⟨o, l, hnext, hrest⟩ := id h.bind
  obtain ⟨rfl, rfl⟩ := hnext.next
  cases s with
  | nil => exact hrest.fail.elim
  | cons b s =>
    by_cases hb : IsDigit b
    · obtain ⟨ds, t, rfl, hds, ht⟩ := exists_digits_append s
      have hall : Digits (b :: ds) := List.forall_mem_cons.2 ⟨hb, hds⟩
      have hzero : b = 0x30 → ds = [] := by
        rintro rfl
        cases ds with
        | nil => rfl
        | cons a ds =>
          have ha : digit? (some a) = some (digitValue a) := digit?_eq_some (hds a List.mem_cons_self)
          obtain ⟨o, l, hpeek, hrest⟩ := hrest.bind
          obtain ⟨rfl, rfl⟩ := hpeek.peek
          simp only [List.tail_cons, List.cons_append, List.head?_cons, ha, Option.isSome_some,
            if_true] at hrest
          exact hrest.failNext.elim
      obtain ⟨fs, x, hfs, rfl, hvalue⟩ := ((number_leads hall hzero ht).gives h).wholeEnd
      refine ⟨_, ?_, ⟨b :: ds, fs, x, hall, List.cons_ne_nil b ds, ?_, hfs⟩, rfl, hvalue⟩
      · simp [Numeral.text]
      · intro hhead
        rw [hzero (Option.some.inj hhead), Option.some.inj hhead]
    · simp only [List.head?_cons, digit?_eq_none_iff.2 hb] at hrest
      exact hrest.fail.elim

theorem Takes.number {t : List UInt8} (h : DigitsText positive t v) (hs : Delimited s) :
    Takes (Reader.number positive) (t ++ s) v s := by
  obtain ⟨d, rfl, hd⟩ := h
  have hnumber : Concludes (Reader.number positive) (d.text ++ s) s (d.number? positive) :=
    concludes_number d (stop_head hs)
  rwa [hd] at hnumber

theorem refuses_number (d : Numeral) (h : d.number? positive = none) (hs : Delimited s) :
    Refuses (Reader.number positive) (d.text ++ s) .numberTooLarge := by
  have hnumber : Concludes (Reader.number positive) (d.text ++ s) s (d.number? positive) :=
    concludes_number d (stop_head hs)
  rwa [h] at hnumber

end Reader

end Gleaner.Json
