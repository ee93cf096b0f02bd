import Gleaner.Service.Upload
import Mathlib.Data.List.Induction

/-! Forms as lists of parts, and the files that an upload finds in them. The names of the parts in order
say whether a file comes twice, and which one is the first to do so; only a form without such a file is
read to its end. -/
namespace Gleaner

namespace Http

abbrev Part := PartHead × List UInt8

namespace Form

/-- A form that is complete. -/
def ofParts : List Part → Form
  | [] => .closed
  | p :: parts => .part p.1 p.2 (ofParts parts)

/-- The parts whose data are known. -/
def parts : Form → List Part
  | .closed | .broken _ | .cut _ => []
  | .part head data rest => (head, data) :: rest.parts

/-- The names of the parts whose heads are known. -/
def names : Form → List (Option String)
  | .closed | .broken _ => []
  | .cut head => [head.name]
  | .part head _ rest => head.name :: rest.names

/-- What is wrong with the end of the form. -/
def fault? : Form → Option FormFault
  | .closed => none
  | .broken fault => some fault
  | .cut head => some (.incompletePart head.name)
  | .part _ _ rest => rest.fault?

@[simp] theorem parts_ofParts (ps : List Part) : (ofParts ps).parts = ps := by
  induction ps with
  | nil => rfl
  | cons p ps ih => rw [ofParts, parts, ih]

@[simp] theorem names_ofParts (ps : List Part) : (ofParts ps).names = ps.map (·.1.name) := by
  induction ps with
  | nil => rfl
  | cons p ps ih => rw [ofParts, names, ih, List.map_cons]

@[simp] theorem fault?_ofParts (ps : List Part) : (ofParts ps).fault? = none := by
  induction ps with
  | nil => rfl
  | cons p ps ih => rw [ofParts, fault?, ih]

theorem eq_ofParts {form : Form} (h : form.fault? = none) : form = ofParts form.parts := by
  induction form with
  | closed => rfl
  | broken | cut => cases h
  | part head data rest ih =>
    rw [parts, ofParts]
    exact congrArg (part head data) (ih h)

end Form

/-- The parts of that name. -/
def partsNamed (name : String) (parts : List Part) : List Part :=
  parts.filter fun p => p.1.name = some name

theorem partsNamed_cons_of_eq {name : String} {p : Part} {parts : List Part}
    (h : p.1.name = some name) : partsNamed name (p :: parts) = p :: partsNamed name parts :=
  List.filter_cons_of_pos (by simp [h])

theorem partsNamed_cons_of_ne {name : String} {p : Part} {parts : List Part}
    (h : p.1.name ≠ some name) : partsNamed name (p :: parts) = partsNamed name parts :=
  List.filter_cons_of_neg (by simp [h])

theorem length_partsNamed (name : String) (parts : List Part) :
    (partsNamed name parts).length = (parts.map (·.1.name)).count (some name) := by
  rw [partsNamed, List.count_eq_countP, List.countP_map, List.countP_eq_length_filter]
  congr 2
  funext p
  simp [Bool.beq_eq_decide_eq]

end Http

namespace Upload

open Http (Form Part PartHead partsNamed partsNamed_cons_of_eq partsNamed_cons_of_ne)

def fileNames : List String := [htmlName, specName]

/-- The file of that name has been found. -/
def has (u : Upload) (name : String) : Bool :=
  (name == htmlName && u.html.isSome) || (name == specName && u.spec.isSome)

/-- Of the files, counting those that have been found, none comes twice. -/
def Once (u : Upload) (names : List (Option String)) : Prop :=
  ∀ name ∈ fileNames, (u.has name).toNat + names.count (some name) ≤ 1

/-- The second file of that name is the first file to come for the second time. -/
structure FirstRepeated (names : List (Option String)) (name : String) : Prop where
  isFile : name ∈ fileNames
  place : ∃ before after, names = before ++ some name :: after ∧ some name ∈ before ∧
    ∀ other ∈ fileNames, before.count (some other) ≤ 1

section Names

variable {u : Upload} {name : String} {names : List (Option String)}

@[simp] theorem has_htmlName (u : Upload) : u.has htmlName = u.html.isSome := by
  have hne : htmlName ≠ specName := by decide
  simp [has, hne]

@[simp] theorem has_specName (u : Upload) : u.has specName = u.spec.isSome := by
  have hne : specName ≠ htmlName := by decide
  simp [has, hne]

theorem has_empty (name : String) : ({} : Upload).has name = false := by simp [has]

theorem once_empty_iff : Once {} names ↔ ∀ name ∈ fileNames, names.count (some name) ≤ 1 := by
  simp [Once, has_empty]

theorem mem_fileNames_of_has (h : u.has name = true) : name ∈ fileNames := by
  simp only [has, Bool.or_eq_true, Bool.and_eq_true, beq_iff_eq] at h
  rcases h with ⟨rfl, -⟩ | ⟨rfl, -⟩ <;> simp [fileNames]

theorem taken?_eq (u : Upload) (n : Option String) : u.taken? n = n.filter u.has := by
  cases n with
  | none => simp [taken?]
  | some name =>
    rw [taken?, Option.filter_some, has]
    by_cases hhtml : name = htmlName
    · subst hhtml
      have hne : htmlName ≠ specName := by decide
      cases u.html <;> simp [hne]
    · by_cases hspec : name = specName
      · subst hspec
        cases u.spec <;> simp [hhtml]
      · simp [hhtml, hspec]

theorem taken?_of_once {n : Option String} (h : Once u (n :: names)) : u.taken? n = none := by
  rw [taken?_eq, Option.filter_eq_none_iff]
  rintro name rfl hname
  have hle := h name (mem_fileNames_of_has hname)
  rw [hname, List.count_cons_self, Bool.toNat_true] at hle
  omega

theorem has_add (head : PartHead) (data : List UInt8) (hname : name ∈ fileNames) :
    (u.add head data).has name = (u.has name || head.name == some name) := by
  have hne : htmlName ≠ specName := by decide
  simp only [fileNames, List.mem_cons, List.not_mem_nil, or_false] at hname
  unfold add
  rcases hname with rfl | rfl
  · by_cases h : head.name = some htmlName
    · simp [h]
    · rw [if_neg h, beq_false_of_ne h, Bool.or_false]
      split <;> simp
  · by_cases h : head.name = some specName
    · simp [h, hne.symm]
    · rw [if_neg h, beq_false_of_ne h, Bool.or_false]
      split <;> simp

theorem once_add {head : PartHead} (data : List UInt8) (h : Once u (head.name :: names)) :
    Once (u.add head data) names := by
  intro name hname
  have hle := h name hname
  rw [List.count_cons] at hle
  rw [has_add head data hname]
  cases hhead : head.name == some name with
  | false => simpa [hhead] using hle
  | true =>
    rw [hhead, if_pos rfl] at hle
    rw [Bool.or_true, Bool.toNat_true]
    omega

/-- A list of names in which no file comes twice, or one that has a file to come first for the second
time. -/
theorem exists_firstRepeated_or_once (names : List (Option String)) :
    (∃ name, FirstRepeated names name) ∨ Once {} names := by
  rw [once_empty_iff]
  induction names using List.reverseRecOn with
  | nil => exact .inr fun _ _ => Nat.zero_le 1
  | append_singleton names last ih =>
    rcases ih with ⟨name, hfile, before, after, rfl, hmem, honce⟩ | honce
    · exact .inl ⟨name, hfile, before, after ++ [last], by simp, hmem, honce⟩
    · by_cases hlast : ∃ name ∈ fileNames, last = some name ∧ some name ∈ names
      · obtain ⟨name, hfile, rfl, hmem⟩ := hlast
        exact .inl ⟨name, hfile, names, [], rfl, hmem, honce⟩
      · refine .inr fun name hfile => ?_
        rw [List.count_append, List.count_singleton]
        split
        · rename_i heq
          have hnot : some name ∉ names := fun hmem => hlast ⟨name, hfile, by simpa using heq, hmem⟩
          have hzero := List.count_eq_zero_of_not_mem hnot
          omega
        · exact honce name hfile

theorem FirstRepeated.two_le_count (h : FirstRepeated names name) : 2 ≤ names.count (some name) := by
  obtain ⟨-, before, after, rfl, hmem, -⟩ := h
  have hbefore : 0 < before.count (some name) := List.count_pos_iff.2 hmem
  rw [List.count_append, List.count_cons_self]
  omega

theorem exists_firstRepeated_iff :
    (∃ name, FirstRepeated names name) ↔ ∃ name ∈ fileNames, 2 ≤ names.count (some name) := by
  constructor
  · rintro ⟨name, h⟩
    exact ⟨name, h.isFile, h.two_le_count⟩
  · rintro ⟨name, hname, htwice⟩
    refine (exists_firstRepeated_or_once names).resolve_right fun honce => ?_
    have hle := once_empty_iff.1 honce name hname
    omega

end Names

section Forms

variable {u : Upload} {name : String}

theorem ofForm_part {head : PartHead} {data : List UInt8} {rest : Form}
    (h : u.taken? head.name = none) :
    ofForm u (.part head data rest) = ofForm (u.add head data) rest := by
  rw [ofForm, h]

/-- The first file to come for the second time is refused, whatever else the form holds. -/
theorem ofForm_repeated {form : Form} {before after : List (Option String)}
    (hnames : form.names = before ++ some name :: after) (hfile : name ∈ fileNames)
    (hagain : u.has name = true ∨ some name ∈ before) (honce : Once u before) :
    ofForm u form = .error (.duplicateFile name) := by
  have htaken (h : before = []) : u.taken? (some name) = some name := by
    rw [taken?_eq, Option.filter_some, if_pos]
    exact hagain.resolve_right (by simp [h])
  induction form generalizing u before with
  | closed => simp [Form.names] at hnames
  | broken fault => simp [Form.names] at hnames
  | cut head =>
    obtain ⟨rfl, hname, -⟩ : before = [] ∧ some name = head.name ∧ after = [] := by
      simpa [Form.names, List.singleton_eq_append_iff] using hnames
    rw [ofForm, ← hname, htaken rfl]
  | part head data rest ih =>
    cases before with
    | nil =>
      obtain ⟨hname, -⟩ := List.cons.inj hnames
      rw [ofForm, hname, htaken rfl]
    | cons first before =>
      obtain ⟨rfl, hrest⟩ := List.cons.inj hnames
      rw [ofForm_part (taken?_of_once honce)]
      have hagain' : (u.add head data).has name = true ∨ some name ∈ before := by
        rw [has_add head data hfile]
        rcases hagain with h | h
        · simp [h]
        · rcases List.mem_cons.1 h with h | h
          · simp [h]
          · exact .inr h
      refine ih hrest hagain' (once_add data honce) fun hnil => ?_
      rw [taken?_eq, Option.filter_some, if_pos (hagain'.resolve_right (by simp [hnil]))]

theorem ofForm_firstRepeated {form : Form} (h : FirstRepeated form.names name) :
    ofForm {} form = .error (.duplicateFile name) := by
  obtain ⟨hfile, before, after, hnames, hmem, honce⟩ := h
  exact ofForm_repeated hnames hfile (.inr hmem) (once_empty_iff.2 honce)

/-- The files found so far and the first ones of the parts. -/
def withParts (u : Upload) (parts : List Part) : Upload where
  html := u.html.or ((partsNamed htmlName parts).head?.map fun p => (p.2, p.1.contentType))
  spec := u.spec.or ((partsNamed specName parts).head?.map (·.2))

theorem add_withParts {head : PartHead} {data : List UInt8} (h : u.taken? head.name = none)
    (parts : List Part) : (u.add head data).withParts parts = u.withParts ((head, data) :: parts) := by
  have hne : htmlName ≠ specName := by decide
  rw [taken?_eq, Option.filter_eq_none_iff] at h
  unfold withParts add
  by_cases hhtml : head.name = some htmlName
  · have hnone : u.html = none := by simpa using h htmlName hhtml
    have hother : head.name ≠ some specName := by simp [hhtml, hne]
    rw [if_pos hhtml, partsNamed_cons_of_eq hhtml, partsNamed_cons_of_ne hother, hnone]
    rfl
  · rw [if_neg hhtml, partsNamed_cons_of_ne hhtml]
    by_cases hspec : head.name = some specName
    · have hnone : u.spec = none := by simpa using h specName hspec
      rw [if_pos hspec, partsNamed_cons_of_eq hspec, hnone]
      rfl
    · rw [if_neg hspec, partsNamed_cons_of_ne hspec]

/-- A form in which no file comes twice is read to its end. -/
theorem ofForm_once {form : Form} (h : Once u form.names) :
    ofForm u form = match form.fault? with
      | some fault => .error (unreadable fault)
      | none => .ok (u.withParts form.parts) := by
  induction form generalizing u with
  | closed => simp [ofForm, Form.fault?, withParts, Form.parts, partsNamed]
  | broken fault => rfl
  | cut head => rw [ofForm, taken?_of_once h, Form.fault?]
  | part head data rest ih =>
    have htaken := taken?_of_once h
    rw [ofForm_part htaken, ih (once_add data h), Form.fault?, Form.parts, add_withParts htaken]

/-- A form is refused because a file comes twice or because it cannot be read. -/
theorem refusal_of_ofForm {form : Form} {r : Refusal} (h : ofForm u form = .error r) :
    (∃ name, r = .duplicateFile name) ∨ ∃ fault, r = unreadable fault := by
  induction form generalizing u with
  | closed => cases h
  | broken fault =>
    cases h
    exact .inr ⟨fault, rfl⟩
  | cut head =>
    rw [ofForm] at h
    split at h <;> cases h
    · exact .inl ⟨_, rfl⟩
    · exact .inr ⟨_, rfl⟩
  | part head data rest ih =>
    rw [ofForm] at h
    split at h
    · cases h
      exact .inl ⟨_, rfl⟩
    · exact ih h

/-- A complete form with exactly one file of each kind. -/
theorem ofForm_two {parts : List Part} {html spec : Part} (hhtml : partsNamed htmlName parts = [html])
    (hspec : partsNamed specName parts = [spec]) :
    ofForm {} (.ofParts parts) = .ok ⟨some (html.2, html.1.contentType), some spec.2⟩ := by
  have honce : Once {} (Form.ofParts parts).names := by
    rw [once_empty_iff, Form.names_ofParts]
    simp [fileNames, ← Http.length_partsNamed, hhtml, hspec]
  rw [ofForm_once honce]
  simp [withParts, hhtml, hspec]

end Forms

end Upload

end Gleaner
