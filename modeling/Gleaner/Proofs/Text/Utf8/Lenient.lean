import Gleaner.Proofs.Text.Utf8.Decode

/-! The lenient reading of bytes. A byte below 0x80 ends whatever is open before it and begins nothing, and no
other byte makes an ASCII character. So the ASCII characters of the text stand where their bytes do, however
malformed the bytes around them are. -/
namespace Gleaner.Text.Utf8

/-! What one byte does. -/

theorem Opening.le_low {u : List UInt8} {need low high point : Nat}
    (h : Opening u (.tail need low high point)) : 0x80 ≤ low := by
  cases h with
  | three => unfold low₃; split_ifs <;> omega
  | four => unfold low₄; split_ifs <;> omega
  | _ => exact le_rfl

theorem feed_ascii {u : List UInt8} {p : Pending} (h : Opening u p) {b : UInt8}
    (hb : b.toNat < 0x80) : feed p b = (.idle, close p ++ [some (Char.ofNat b.toNat)]) := by
  cases p with
  | idle => exact lead_one hb
  | tail need low high point =>
    have hlow := h.le_low
    rw [feed_out (by omega), lead_one hb]
    rfl

/-- Out of the bounds of what is open, a byte does what it does on its own. -/
theorem feed_cases {u : List UInt8} {p : Pending} (h : Opening u p) (b : UInt8) :
    (∃ q, Opening (u ++ [b]) q ∧ feed p b = (q, [])) ∨
      (∃ c, String.utf8EncodeChar c = u ++ [b] ∧ feed p b = (.idle, [some c])) ∨
      feed p b = ((lead b.toNat).1, close p ++ (lead b.toNat).2) := by
  cases p with
  | idle => exact .inr (.inr rfl)
  | tail need low high point =>
    by_cases hb : low ≤ b.toNat ∧ b.toNat ≤ high
    · have hfed := feed_fed h b
      have hmarks : (feed (.tail need low high point) b).2.head? ≠ some none := by
        simp only [feed, if_pos hb]
        split_ifs <;> simp
      generalize feed (.tail need low high point) b = r at hfed hmarks
      cases hfed with
      | more hopen => exact .inl ⟨_, hopen, rfl⟩
      | full hc => exact .inr (.inl ⟨_, hc, rfl⟩)
      | broken => exact absurd rfl hmarks
    · exact .inr (.inr (feed_out hb))

/-- What a byte leaves open is again the beginning of a character. -/
theorem feed_opening {u : List UInt8} {p : Pending} (h : Opening u p) (b : UInt8) :
    ∃ v, Opening v (feed p b).1 := by
  rcases feed_cases h b with ⟨q, hq, heq⟩ | ⟨c, -, heq⟩ | heq <;> rw [heq]
  · exact ⟨_, hq⟩
  · exact ⟨[], .none⟩
  · rcases lead_cases b with ⟨q, hq, hlead⟩ | ⟨-, hlead⟩ | hlead <;> rw [hlead]
    · exact ⟨_, hq⟩
    · exact ⟨[], .none⟩
    · exact ⟨[], .none⟩

theorem not_mem_close (p : Pending) (c : Char) : some c ∉ close p := by
  cases p <;> simp [close]

theorem le_of_encodeChar {u : List UInt8} {b : UInt8} {c : Char}
    (h : String.utf8EncodeChar c = u ++ [b]) (hb : 0x80 ≤ b.toNat) : 0x80 ≤ c.toNat := by
  have hspells := spells_encodeChar c
  rw [h] at hspells
  generalize hu : u ++ [b] = v at hspells
  cases hspells with
  | one ha hn =>
    obtain ⟨-, ⟨⟩⟩ := List.append_inj' (hu.trans (List.nil_append _).symm) rfl
    omega
  | _ => simp only [IsTail] at *; omega

/-- Only its own byte makes an ASCII character. -/
theorem le_of_mem_feed {u : List UInt8} {p : Pending} (h : Opening u p) {b : UInt8}
    (hb : 0x80 ≤ b.toNat) {c : Char} (hc : some c ∈ (feed p b).2) : 0x80 ≤ c.toNat := by
  rcases feed_cases h b with ⟨q, -, heq⟩ | ⟨d, hd, heq⟩ | heq
  · simp [heq] at hc
  · obtain rfl : c = d := by simpa [heq] using hc
    exact le_of_encodeChar hd hb
  · rw [heq] at hc
    have hlead := (List.mem_append.1 hc).resolve_left (not_mem_close p c)
    rcases lead_cases b with ⟨q, -, heq⟩ | ⟨hlt, -⟩ | heq
    · simp [heq] at hlead
    · omega
    · simp [heq] at hlead

/-! The scan from a state on. -/

/-- The marks of a scan that begins with `p` open. -/
def marksFrom (p : Pending) : List UInt8 → List (Option Char)
  | [] => close p
  | b :: bytes => (feed p b).2 ++ marksFrom (feed p b).1 bytes

theorem reverse_scan (bytes : List UInt8) (p : Pending) (marks : List (Option Char)) :
    (close (bytes.foldl scanByte (p, marks)).1 ++ (bytes.foldl scanByte (p, marks)).2).reverse =
      marks.reverse ++ marksFrom p bytes := by
  induction bytes generalizing p marks with
  | nil => cases p <;> simp [marksFrom, close]
  | cons b bytes ih =>
    rw [List.foldl_cons, scanByte, ih]
    simp [marksFrom]

theorem scan_eq_marksFrom (bytes : List UInt8) : scan bytes = marksFrom .idle bytes :=
  reverse_scan bytes .idle []

theorem marksFrom_append_cons {u : List UInt8} {p : Pending} (h : Opening u p) (v w : List UInt8)
    {b : UInt8} (hb : b.toNat < 0x80) :
    marksFrom p (v ++ b :: w) = marksFrom p v ++ some (Char.ofNat b.toNat) :: marksFrom .idle w := by
  induction v generalizing u p with
  | nil => simp [marksFrom, feed_ascii h hb]
  | cons a v ih =>
    obtain ⟨u', h'⟩ := feed_opening h a
    simp [marksFrom, ih h']

/-- An item that is none of a first part stands in the second one. -/
theorem split_behind {α : Type} {a b s t : List α} {x : α} (hx : x ∉ a)
    (h : a ++ b = s ++ x :: t) : ∃ s', s = a ++ s' ∧ b = s' ++ x :: t := by
  rcases List.append_eq_append_iff.1 h with ⟨s', hs, hb⟩ | ⟨_ | ⟨y, s'⟩, ha, hb⟩
  · exact ⟨s', hs, hb⟩
  · exact ⟨[], by simpa using ha.symm, hb.symm⟩
  · obtain ⟨rfl, -⟩ := List.cons.inj hb
    exact absurd (ha ▸ List.mem_append_cons_self) hx

/-- An ASCII character among the marks has a byte, and the scan begins anew behind it. -/
theorem exists_of_marksFrom_eq {u bytes : List UInt8} {p : Pending} (h : Opening u p)
    {s t : List (Option Char)} {c : Char} (hc : c.toNat < 0x80)
    (heq : marksFrom p bytes = s ++ some c :: t) :
    ∃ v b w, bytes = v ++ b :: w ∧ b.toNat = c.toNat ∧ marksFrom p v = s ∧
      marksFrom .idle w = t := by
  induction bytes generalizing u p s with
  | nil =>
    have hmem : some c ∈ close p := by
      rw [marksFrom] at heq
      exact heq ▸ List.mem_append_cons_self
    exact absurd hmem (not_mem_close p c)
  | cons a bytes ih =>
    by_cases ha : a.toNat < 0x80
    · have hcut := marksFrom_append_cons h [] bytes ha
      rw [List.nil_append] at hcut
      rw [hcut] at heq
      obtain ⟨_ | ⟨m, s'⟩, rfl, hrest⟩ := split_behind (not_mem_close p c) heq
      · obtain ⟨hac, rfl⟩ := List.cons.inj hrest
        have hnat : a.toNat = c.toNat := by
          rw [← Option.some.inj hac, Char.ofNat, dif_pos (.inl (by omega))]
          rfl
        exact ⟨[], a, bytes, rfl, hnat, by simp [marksFrom], rfl⟩
      · rw [List.cons_append] at hrest
        obtain ⟨rfl, htail⟩ := List.cons.inj hrest
        obtain ⟨v, b, w, rfl, hb, rfl, rfl⟩ := ih .none htail
        exact ⟨a :: v, b, w, rfl, hb, marksFrom_append_cons h [] v ha, rfl⟩
    · have hnone : some c ∉ (feed p a).2 := by
        intro hmem
        have := le_of_mem_feed h (Nat.le_of_not_lt ha) hmem
        omega
      obtain ⟨s', rfl, hrest⟩ := split_behind hnone heq
      obtain ⟨u', h'⟩ := feed_opening h a
      obtain ⟨v, b, w, rfl, hb, rfl, rfl⟩ := ih h' hrest
      exact ⟨a :: v, b, w, rfl, hb, rfl, rfl⟩

/-! The text. -/

theorem decodeLenient_eq (bytes : List UInt8) :
    decodeLenient bytes = (marksFrom .idle bytes).map (·.getD '\uFFFD') := by
  rw [decodeLenient, scan_eq_marksFrom]

/-- A byte below 0x80 cuts a text in two. -/
theorem decodeLenient_append_cons (u w : List UInt8) {b : UInt8} (hb : b.toNat < 0x80) :
    decodeLenient (u ++ b :: w) =
      decodeLenient u ++ Char.ofNat b.toNat :: decodeLenient w := by
  simp [decodeLenient_eq, marksFrom_append_cons .none u w hb]

/-- Where an ASCII character of the text stands, its byte cuts the bytes in two. -/
theorem exists_of_decodeLenient_eq {bytes : List UInt8} {s t : List Char} {c : Char}
    (hc : c.toNat < 0x80) (h : decodeLenient bytes = s ++ c :: t) :
    ∃ u b w, bytes = u ++ b :: w ∧ b.toNat = c.toNat ∧ decodeLenient u = s ∧
      decodeLenient w = t := by
  rw [decodeLenient_eq, List.map_eq_append_iff] at h
  obtain ⟨before, rest, hmarks, rfl, hrest⟩ := h
  obtain ⟨m, after, rfl, hm, rfl⟩ := List.map_eq_cons_iff.1 hrest
  obtain rfl : m = some c := by
    cases m with
    | some d => rw [← hm, Option.getD_some]
    | none =>
      rw [← hm] at hc
      exact absurd hc (by decide)
  obtain ⟨u, b, w, rfl, hb, rfl, rfl⟩ := exists_of_marksFrom_eq .none hc hmarks
  exact ⟨u, b, w, rfl, hb, decodeLenient_eq u, decodeLenient_eq w⟩

theorem not_mem_decodeLenient {bytes : List UInt8} {b : UInt8} {c : Char} (hc : c.toNat < 0x80)
    (hbc : b.toNat = c.toNat) (h : b ∉ bytes) : c ∉ decodeLenient bytes := by
  intro hmem
  obtain ⟨s, t, hst⟩ := List.append_of_mem hmem
  obtain ⟨u, b', w, rfl, hb', -, -⟩ := exists_of_decodeLenient_eq hc hst
  obtain rfl : b' = b := UInt8.toNat_inj.1 (hb'.trans hbc.symm)
  exact h List.mem_append_cons_self

theorem marksFrom_tail_ne_nil (need low high point : Nat) (bytes : List UInt8) :
    marksFrom (.tail need low high point) bytes ≠ [] := by
  induction bytes generalizing need low high point with
  | nil => simp [marksFrom, close]
  | cons b bytes ih =>
    rw [marksFrom, feed]
    split_ifs
    · simp
    · exact ih _ _ _ _
    · simp

/-- Whatever the bytes are, something is read. -/
theorem eq_nil_of_decodeLenient {bytes : List UInt8} (h : decodeLenient bytes = []) : bytes = [] := by
  rw [decodeLenient_eq, List.map_eq_nil_iff] at h
  cases bytes with
  | nil => rfl
  | cons b bytes =>
    obtain ⟨hmarks, hrest⟩ := List.append_eq_nil_iff.1 h
    rcases lead_cases b with ⟨q, hq, hlead⟩ | ⟨-, hlead⟩ | hlead
    · rw [feed, hlead] at hrest
      cases hq <;> exact absurd hrest (marksFrom_tail_ne_nil _ _ _ _ _)
    · simp [feed, hlead] at hmarks
    · simp [feed, hlead] at hmarks

theorem decodeLenient_encode (s : List Char) : decodeLenient (encode s) = s := by
  simp [decodeLenient, scan_encode, Function.comp_def]

end Gleaner.Text.Utf8
