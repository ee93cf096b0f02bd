import Gleaner.Proofs.Service.Agreement
import Gleaner.Proofs.Service.Requests

/-! What the parts of a form decide. Only the parts that are files count: one that comes twice is refused
before anything else is looked at, one that does not come at all is missed, and otherwise the two files
are extracted from, in whatever order they stand and whatever stands between them. -/
namespace Gleaner

namespace Upload

open Http (Form Part partsNamed)

/-- The part is one of the files. -/
def isFile (p : Part) : Bool := p.1.name.any fileNames.contains

def filesOf (parts : List Part) : List Part := parts.filter isFile

theorem isFile_iff {p : Part} : isFile p = true ↔ ∃ name ∈ fileNames, p.1.name = some name := by
  simp only [isFile, Option.any_eq_true, List.contains_eq_mem, decide_eq_true_eq]
  exact ⟨fun ⟨name, hname, hfile⟩ => ⟨name, hfile, hname⟩, fun ⟨name, hfile, hname⟩ => ⟨name, hname, hfile⟩⟩

theorem taken?_of_not_isFile {p : Part} (h : isFile p = false) (u : Upload) :
    u.taken? p.1.name = none := by
  rw [taken?_eq, Option.filter_eq_none_iff]
  intro name hname hhas
  rw [isFile_iff.2 ⟨name, mem_fileNames_of_has hhas, hname⟩] at h
  cases h

theorem add_of_not_isFile {p : Part} (h : isFile p = false) (u : Upload) : u.add p.1 p.2 = u := by
  have hother : ∀ name ∈ fileNames, p.1.name ≠ some name := by
    intro name hname heq
    rw [isFile_iff.2 ⟨name, hname, heq⟩] at h
    cases h
  rw [add, if_neg (hother htmlName (by decide)), if_neg (hother specName (by decide))]

/-- The other parts of a form are passed over. -/
theorem ofForm_filesOf (u : Upload) (parts : List Part) :
    ofForm u (.ofParts (filesOf parts)) = ofForm u (.ofParts parts) := by
  induction parts generalizing u with
  | nil => rfl
  | cons p parts ih =>
    cases h : isFile p with
    | true =>
      rw [filesOf, List.filter_cons_of_pos h]
      simp only [Form.ofParts, ofForm]
      rw [← filesOf, ih]
    | false =>
      rw [filesOf, List.filter_cons_of_neg (by simp [h]), ← filesOf, ih, Form.ofParts,
        ofForm_part (taken?_of_not_isFile h u), add_of_not_isFile h u]

theorem firstRepeated_pair {name : String} (h : name ∈ fileNames) :
    FirstRepeated [some name, some name] name := by
  refine ⟨h, [some name], [], rfl, List.mem_singleton_self _, fun other _ => ?_⟩
  rw [List.count_singleton]
  split <;> omega

theorem once_pair {m n : Option String} (h : m ≠ n) : Once {} [m, n] := by
  intro name _
  rw [has_empty, List.count_cons, List.count_singleton]
  split <;> split <;> simp_all

/-- Two files are the same upload in either order. -/
theorem ofForm_swap {a b : Part} (ha : isFile a = true) :
    ofForm {} (.ofParts [a, b]) = ofForm {} (.ofParts [b, a]) := by
  obtain ⟨name, hname, haname⟩ := isFile_iff.1 ha
  by_cases hsame : a.1.name = b.1.name
  · have hbname := hsame.symm.trans haname
    have hrepeated : ∀ form : Form, form.names = [some name, some name] →
        ofForm {} form = .error (.duplicateFile name) := by
      intro form hform
      exact ofForm_firstRepeated (hform ▸ firstRepeated_pair hname)
    rw [hrepeated _ (by simp [haname, hbname]), hrepeated _ (by simp [haname, hbname])]
  · rw [ofForm_once (by simpa using once_pair hsame), ofForm_once (by simpa using once_pair (Ne.symm hsame))]
    have hparts : ∀ name, partsNamed name [a, b] = partsNamed name [b, a] := by
      intro name
      by_cases hb : b.1.name = some name
      · have hother : a.1.name ≠ some name := fun h => hsame (h.trans hb.symm)
        simp [partsNamed, hb, hother]
      · simp [partsNamed, List.filter_cons, hb]
    simp only [Form.fault?_ofParts, Form.parts_ofParts, withParts, hparts]

/-- A form without one of the files. -/
theorem extract_of_missing [Charset.Detector] {parts : List Part} {mode : ExtractionMode}
    (h : ∃ name ∈ fileNames, partsNamed name parts = []) :
    (withParts {} parts).extract mode = .error .missingFiles := by
  obtain ⟨name, hname, hnone⟩ := h
  simp only [fileNames, List.mem_cons, List.not_mem_nil, or_false] at hname
  rcases hname with rfl | rfl
  · rw [withParts, hnone]
    rfl
  · rw [withParts, hnone]
    cases (partsNamed htmlName parts).head? <;> rfl

end Upload

namespace Service

open Http (Form Part Request Response partsNamed)
open Upload (FirstRepeated filesOf fileNames htmlName specName)

/-- A request for an extraction from a form, which is not longer than allowed. -/
structure Uploads (limit : Nat) (r : Request) (form : Form) : Prop extends ToForm r where
  size : r.body.length ≤ limit
  form : ∃ boundary, SaysForm r boundary ∧ Form.read boundary r.body = form

section Uploads

variable {s : ServiceState} {limit : Nat} {r : Request} {form : Form} {choice : ModeChoice}

theorem Uploads.upload [Charset.Detector] (h : Uploads limit r form)
    (hquery : ModeChoice.ofQuery r.query = .ok choice) :
    upload s limit r = (do
      let files ← Upload.ofForm {} form
      files.extract (modeOf s choice)) := by
  obtain ⟨boundary, hboundary, rfl⟩ := h.form
  exact upload_of_form hquery hboundary h.size

/-- Forms with the same files are answered alike. -/
theorem Uploads.same [Charset.Detector] {limit' : Nat} {r' : Request} {form' : Form}
    (h : Uploads limit r form) (h' : Uploads limit' r' form') (hquery : ModeChoice.ofQuery r.query = .ok choice)
    (hquery' : ModeChoice.ofQuery r'.query = .ok choice)
    (hfiles : Upload.ofForm {} form = Upload.ofForm {} form') :
    (respond s limit r).SameAs (respond s limit' r') := by
  have hupload : Service.upload s limit r = Service.upload s limit' r' := by
    rw [h.upload hquery, h'.upload hquery', hfiles]
  have hanswers' := h'.toToForm.respond s limit'
  rw [← hupload] at hanswers'
  exact (h.toToForm.respond s limit).same hanswers'

end Uploads

/-- How a form is answered depends on its files only: on which of them comes twice first, else on which of
them is not there, else on what can be extracted from them. -/
theorem files_decide [Charset.Detector] (s : ServiceState) (limit : Nat) (r : Request) (parts : List Part)
    (choice : ModeChoice) (h : Uploads limit r (.ofParts parts))
    (hquery : ModeChoice.ofQuery r.query = .ok choice) :
    ((∃ name ∈ fileNames, 2 ≤ (partsNamed name parts).length) ↔
      ∃ name, FirstRepeated (parts.map (·.1.name)) name) ∧
    (∀ name, FirstRepeated (parts.map (·.1.name)) name → (respond s limit r).Reports
      ⟨400, "only one '" ++ name ++ "' part is allowed", some "invalid_upload", some name⟩) ∧
    ((∀ name ∈ fileNames, (partsNamed name parts).length ≤ 1) →
      (∃ name ∈ fileNames, partsNamed name parts = []) →
      (respond s limit r).Reports ⟨400, "no files available.", some "invalid_upload", none⟩) ∧
    (∀ html spec, partsNamed htmlName parts = [html] → partsNamed specName parts = [spec] →
      (respond s limit r).Answers
        ((extractBytes html.2 html.1.contentType spec.2 (modeOf s choice)).mapError .extraction)) ∧
    ∀ limit' r' parts', Uploads limit' r' (.ofParts parts') →
      ModeChoice.ofQuery r'.query = .ok choice →
      (filesOf parts = filesOf parts' ∨
        ∃ a b, filesOf parts = [a, b] ∧ filesOf parts' = [b, a]) →
      (respond s limit r).SameAs (respond s limit' r') := by
  have hanswers := h.toToForm.respond s limit
  rw [h.upload hquery] at hanswers
  refine ⟨?_, ?_, ?_, ?_, ?_⟩
  · simp only [Http.length_partsNamed]
    exact Upload.exists_firstRepeated_iff.symm
  · intro name hname
    rwa [Upload.ofForm_firstRepeated (by rwa [Form.names_ofParts])] at hanswers
  · rintro honce ⟨name, hname, hnone⟩
    have honce' : Upload.Once {} (Form.ofParts parts).names := by
      rw [Upload.once_empty_iff, Form.names_ofParts]
      exact fun name hname => Http.length_partsNamed name parts ▸ honce name hname
    rw [Upload.ofForm_once honce', Form.fault?_ofParts, Form.parts_ofParts] at hanswers
    change (respond s limit r).Answers ((Upload.withParts {} parts).extract _) at hanswers
    rwa [Upload.extract_of_missing ⟨name, hname, hnone⟩] at hanswers
  · intro html spec hhtml hspec
    rwa [Upload.ofForm_two hhtml hspec] at hanswers
  · intro limit' r' parts' h' hquery' hfiles
    refine h.same h' hquery hquery' ?_
    rw [← Upload.ofForm_filesOf {} parts, ← Upload.ofForm_filesOf {} parts']
    rcases hfiles with hsame | ⟨a, b, hab, hba⟩
    · rw [hsame]
    · rw [hab, hba]
      have ha : a ∈ filesOf parts := by simp [hab]
      exact Upload.ofForm_swap (List.of_mem_filter ha)

/-- The lines as the body of a form with the boundary `cut`. -/
def linesForm (lines : List String) : Request :=
  { titleForm with
    body := lines.flatMap fun line => Text.Utf8.encode line.toList ++ Http.lineEnd }

/-- Both files come twice, the document before the specification. -/
def twiceLines : List String :=
  ["--cut", "Content-Disposition: form-data; name=htmlFile", "", "<p>",
    "--cut", "Content-Disposition: form-data; name=jsonFile", "", "5",
    "--cut", "Content-Disposition: form-data; name=htmlFile", "", "<p>",
    "--cut", "Content-Disposition: form-data; name=jsonFile", "", "5", "--cut--"]

theorem files_decide_twice :
    (respond default 1000 (linesForm twiceLines)).Reports
      ⟨400, "only one 'htmlFile' part is allowed", some "invalid_upload", some "htmlFile"⟩ := by
  have hparts : Form.read "cut" (linesForm twiceLines).body = .ofParts
      [(⟨some htmlName, none⟩, Text.Utf8.encode "<p>".toList), (⟨some specName, none⟩, [0x35]),
        (⟨some htmlName, none⟩, Text.Utf8.encode "<p>".toList), (⟨some specName, none⟩, [0x35])] := by
    decide +kernel
  have huploads : Uploads 1000 (linesForm twiceLines) (.ofParts _) :=
    ⟨⟨rfl, rfl⟩, by decide +kernel, "cut", Option.bind_eq_some_iff.1 (by decide +kernel), hparts⟩
  refine (files_decide default 1000 _ _ ⟨some .strict, none⟩ huploads (by decide +kernel)).2.1 htmlName ?_
  exact ⟨by decide, [some htmlName, some specName], [some specName], rfl, by decide, by decide⟩

end Service

end Gleaner
