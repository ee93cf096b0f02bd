import Gleaner.Proofs.Text.Utf8
import Mathlib.Data.List.Induction

/-! Bytes as the UTF-8 form of a text. The scan marks nothing exactly if there is such a text, and then it
gives that text; and the bytes of a text say with which character it begins. -/
namespace Gleaner.Text.Utf8

/-! The scan. -/

/-- One byte of a scan, which gathers the marks from the last to the first. -/
def scanByte (r : Pending × List (Option Char)) (b : UInt8) : Pending × List (Option Char) :=
  ((feed r.1 b).1, (feed r.1 b).2.reverse ++ r.2)

theorem scan_eq (bytes : List UInt8) :
    scan bytes =
      (close (bytes.foldl scanByte (.idle, [])).1 ++ (bytes.foldl scanByte (.idle, [])).2).reverse :=
  rfl

theorem foldl_pends {p q : Pending} {u : List UInt8} (h : Pends p u q) (marks : List (Option Char)) :
    u.foldl scanByte (p, marks) = (q, marks) := by
  induction h with
  | nil p => rfl
  | cons hb _ ih =>
    rw [List.foldl_cons, scanByte, hb]
    exact ih

theorem foldl_encodeChar (c : Char) (marks : List (Option Char)) :
    (String.utf8EncodeChar c).foldl scanByte (.idle, marks) = (.idle, some c :: marks) := by
  obtain ⟨u, b, p, hbytes, hu, hb⟩ := encodeChar_pends c
  rw [hbytes, List.foldl_append, foldl_pends hu, List.foldl_cons, List.foldl_nil, scanByte, hb]
  rfl

theorem foldl_encode (s : List Char) (marks : List (Option Char)) :
    (encode s).foldl scanByte (.idle, marks) = (.idle, (s.map some).reverse ++ marks) := by
  induction s generalizing marks with
  | nil => rfl
  | cons c s ih => simp [encode_cons, foldl_encodeChar, ih]

/-- The scan of the bytes of a text gives its characters. -/
theorem scan_encode (s : List Char) : scan (encode s) = s.map some := by
  simp [scan_eq, foldl_encode, close]

/-- A part of a text and the beginning of its next character, which the scan has gone over. -/
structure Scanned (bytes : List UInt8) (p : Pending) (marks : List (Option Char)) (s : List Char)
    (u : List UInt8) : Prop where
  opening : Opening u p
  bytes : bytes = encode s ++ u
  marks : marks.reverse = s.map some

theorem scanned_step {bytes : List UInt8} {p : Pending} {marks : List (Option Char)} {s : List Char}
    {u : List UInt8} (h : Scanned bytes p marks s u) (b : UInt8)
    (hmarks : ∀ m ∈ (scanByte (p, marks) b).2, m ≠ none) :
    ∃ s' u', Scanned (bytes ++ [b]) (scanByte (p, marks) b).1 (scanByte (p, marks) b).2 s' u' := by
  have hfed := feed_fed h.opening b
  simp only [scanByte] at hmarks ⊢
  generalize feed p b = r at hfed hmarks ⊢
  cases hfed with
  | more hopen => exact ⟨s, u ++ [b], hopen, by simp [h.bytes], h.marks⟩
  | @full c hc =>
    refine ⟨s ++ [c], [], .none, ?_, ?_⟩
    · simp [h.bytes, encode, hc]
    · simp [h.marks]
  | broken => exact absurd rfl (hmarks none (by simp))

theorem scanned_of_marks {bytes : List UInt8}
    (hmarks : ∀ m ∈ (bytes.foldl scanByte (.idle, [])).2, m ≠ none) :
    ∃ s u, Scanned bytes (bytes.foldl scanByte (.idle, [])).1
      (bytes.foldl scanByte (.idle, [])).2 s u := by
  induction bytes using List.reverseRecOn with
  | nil => exact ⟨[], [], .none, rfl, rfl⟩
  | append_singleton bytes b ih =>
    simp only [List.foldl_append, List.foldl_cons, List.foldl_nil] at hmarks ⊢
    obtain ⟨s, u, h⟩ := ih fun m hm => hmarks m (List.mem_append_right _ hm)
    exact scanned_step h b hmarks

/-- Without a mark for something malformed the bytes are those of the text that the scan gives. -/
theorem encode_of_scan {bytes : List UInt8} (h : ∀ m ∈ scan bytes, m ≠ none) :
    ∃ s, bytes = encode s := by
  simp only [scan_eq, List.mem_reverse, List.forall_mem_append] at h
  obtain ⟨s, u, hscanned⟩ := scanned_of_marks h.2
  have hidle : (bytes.foldl scanByte (.idle, [])).1 = .idle := by
    cases hp : (bytes.foldl scanByte (.idle, [])).1 with
    | idle => rfl
    | tail need low high point => exact absurd rfl (h.1 none (by simp [hp, close]))
  have hopen := hscanned.opening
  rw [hidle] at hopen
  cases hopen
  exact ⟨s, by simpa using hscanned.bytes⟩

/-- The strict reading gives a text exactly if the bytes are its UTF-8 form. -/
theorem decode?_eq_some_iff {bytes : List UInt8} {s : List Char} :
    decode? bytes = some s ↔ bytes = encode s := by
  have hencode : ∀ t, decode? (encode t) = some t := by
    intro t
    simp [decode?, scan_encode]
  refine ⟨fun h => ?_, fun h => h ▸ hencode s⟩
  have hmarks : ∀ m ∈ scan bytes, m ≠ none := by
    intro m hm hnone
    have hall : (scan bytes).all Option.isSome = true := by
      by_contra hall
      simp [decode?, hall] at h
    have := List.all_eq_true.1 hall m hm
    simp [hnone] at this
  obtain ⟨t, rfl⟩ := encode_of_scan hmarks
  rw [Option.some.inj (h.symm.trans (hencode t))]

theorem decode?_isSome_iff {bytes : List UInt8} :
    (decode? bytes).isSome = true ↔ ∃ s, bytes = encode s := by
  simp only [Option.isSome_iff_exists, decode?_eq_some_iff]

/-! First characters. -/

/-- No code of a character begins another one. -/
theorem eq_of_encodeChar_append {c d : Char} {s t : List UInt8}
    (h : String.utf8EncodeChar c ++ s = String.utf8EncodeChar d ++ t) : c = d := by
  rcases lt_trichotomy c.toNat d.toNat with hlt | heq | hgt
  · have := (spells_encodeChar c).append_lt (spells_encodeChar d) hlt s t
    exact absurd (h ▸ this) (List.lt_irrefl _)
  · rw [← Char.ofNat_toNat c, heq, Char.ofNat_toNat]
  · have := (spells_encodeChar d).append_lt (spells_encodeChar c) hgt t s
    exact absurd (h ▸ this) (List.lt_irrefl _)

theorem head?_of_encode {s : List Char} {c : Char} {rest : List UInt8}
    (h : encode s = String.utf8EncodeChar c ++ rest) : s.head? = some c := by
  cases s with
  | nil => exact absurd (List.append_eq_nil_iff.1 h.symm).1 String.utf8EncodeChar_ne_nil
  | cons d s => rw [List.head?_cons, eq_of_encodeChar_append h]

/-- The first byte of a character is below 0xF5. -/
theorem Spells.lead_lt {n : Nat} {b : UInt8} {u : List UInt8} (h : Spells n (b :: u)) :
    b.toNat < 0xF5 := by
  cases h <;> omega

theorem lead_lt_of_encode {s : List Char} {b : UInt8} {rest : List UInt8}
    (h : encode s = b :: rest) : b.toNat < 0xF5 := by
  cases s with
  | nil => cases h
  | cons c s =>
    have hspells := spells_encodeChar c
    rw [encode_cons] at h
    generalize String.utf8EncodeChar c = u at hspells h
    cases u with
    | nil => cases hspells
    | cons a u =>
      obtain ⟨rfl, -⟩ := List.cons.inj h
      exact hspells.lead_lt

end Gleaner.Text.Utf8
