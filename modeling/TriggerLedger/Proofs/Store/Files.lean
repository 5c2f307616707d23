import Mathlib.Tactic.SplitIfs
import TriggerLedger.Proofs.Store.Entries
import TriggerLedger.Store.Directory
/-!
# Putting a log into its file

When the file name is short enough, a log is put into place: its file has its
text, the temporary file is gone, and nothing else changes.
-/

namespace TriggerLedger.Directory

/-- The temporary name is no longer than the file name. -/
theorem isUsableName_temporaryName {sessionId : String}
    (usable : isUsableName (fileName sessionId) = true) :
    isUsableName (temporaryName sessionId) = true := by
  rw [temporaryName]
  split_ifs with none
  · decide
  · simp only [isUsableName, fileName, String.utf8ByteSize_append, decide_eq_true_eq] at usable ⊢
    have extensions : ".tmp".utf8ByteSize = 4 ∧ ".json".utf8ByteSize = 5 := by decide
    omega

/-- The files after a log was put into place. -/
def filesWith (log : Log) (files : List (String × String)) : List (String × String) :=
  Entries.replace (fileName log.sessionId) log.render
    (Entries.erase (temporaryName log.sessionId) files)

/-- A log is put into place if its file name is short enough. -/
theorem putLog_eq (directory : Directory) {log : Log}
    (usable : isUsableName (fileName log.sessionId) = true) :
    directory.putLog log = (⟨filesWith log directory.files⟩, .ok ()) := by
  have temporary := isUsableName_temporaryName usable
  simp [putLog, putSteps, performAll, perform, usable, temporary, write, remove, read?, filesWith]

theorem read?_putLog (directory : Directory) {log : Log}
    (usable : isUsableName (fileName log.sessionId) = true) :
    (directory.putLog log).1.read? (fileName log.sessionId) = some log.render := by
  rw [putLog_eq directory usable]
  exact Entries.lookup_replace_self _ _ _

end TriggerLedger.Directory
