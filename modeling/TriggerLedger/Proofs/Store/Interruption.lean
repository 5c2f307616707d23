import TriggerLedger.Proofs.Store.Appending
/-!
# Puts that are cut off

A log is put into place by writing a temporary file and renaming it.  Wherever
that is cut off, a reader finds the old logs until the file is renamed, and the
new log in its place from then on.  A temporary file that is left behind is read
by nobody: whatever is called later is answered as if it were not there.
-/

namespace TriggerLedger

namespace Directory

/-- Changes of a directory that are cut off after the first `count` of them.  A file that was just
being written has some beginning of its text; a file is renamed at once. -/
inductive CutOff : Directory → List FileStep → Nat → Directory → Prop where
  | between (directory : Directory) (steps : List FileStep) : CutOff directory steps 0 directory
  | writing {directory : Directory} {name contents part : String} {steps : List FileStep}
      (usable : isUsableName name = true) (beginning : part.toList <+: contents.toList) :
      CutOff directory (.write name contents :: steps) 0 (directory.write name part)
  | next {directory changed left : Directory} {step : FileStep} {steps : List FileStep}
      {count : Nat} (performed : directory.perform step = .ok changed)
      (rest : CutOff changed steps count left) : CutOff directory (step :: steps) (count + 1) left

variable {directory left : Directory} {steps : List FileStep} {count : Nat}

/-- Changes that are made up to the first one that fails are cut off there. -/
theorem cutOff_performAll (steps : List FileStep) (directory : Directory) :
    ∃ count, CutOff directory steps count (directory.performAll steps).1 ∧
      ((directory.performAll steps).2 = .ok () ↔ count = steps.length) := by
  induction steps generalizing directory with
  | nil => exact ⟨0, .between directory [], by simp [performAll]⟩
  | cons step steps induction =>
      rw [performAll]
      cases performed : directory.perform step with
      | error fault => exact ⟨0, .between directory _, by simp⟩
      | ok changed =>
          obtain ⟨count, cut, ok_iff⟩ := induction changed
          exact ⟨count + 1, .next performed cut, by simpa using ok_iff⟩

/-- Changes that were not cut off before the end have all been made. -/
theorem performAll_of_cutOff (cut : CutOff directory steps count left)
    (all : steps.length ≤ count) : directory.performAll steps = (left, .ok ()) := by
  induction cut with
  | between directory steps =>
      obtain rfl := List.length_eq_zero_iff.mp (Nat.le_zero.mp all)
      rfl
  | writing => simp at all
  | next performed _ induction =>
      rw [performAll, performed]
      exact induction (by simpa using all)

/-- Whether a file name has the extension of temporary files. -/
def isTemporary (name : String) : Bool := ['.', 't', 'm', 'p'].isSuffixOf name.toList

theorem isTemporary_iff {name : String} :
    isTemporary name = true ↔ ∃ body, name.toList = body ++ ['.', 't', 'm', 'p'] := by
  rw [isTemporary, List.isSuffixOf_iff_suffix]
  exact exists_congr fun body => eq_comm

theorem isTemporary_temporaryName (sessionId : String) :
    isTemporary (temporaryName sessionId) = true := by
  rw [isTemporary_iff, toList_temporaryName]
  split
  · exact ⟨['.', 'j', 's', 'o', 'n'], rfl⟩
  · exact ⟨_, rfl⟩

theorem isTemporary_fileName (sessionId : String) : isTemporary (fileName sessionId) = false := by
  rw [Bool.eq_false_iff, ne_eq, isTemporary_iff]
  rintro ⟨body, same⟩
  have last := congrArg List.getLast? same
  simp [toList_fileName] at last

theorem isLogName_of_isTemporary {name : String} (temporary : isTemporary name = true) :
    isLogName name = false := by
  obtain ⟨body, characters⟩ := isTemporary_iff.mp temporary
  simp [isLogName, characters]

/-- A directory without its temporary files. -/
def settled (directory : Directory) : Directory :=
  ⟨directory.files.filter fun entry => !isTemporary entry.1⟩

variable {sessionId text : String} {log : Log}

theorem read?_settled (directory : Directory) (sessionId : String) :
    directory.settled.read? (fileName sessionId) = directory.read? (fileName sessionId) :=
  Entries.lookup_filter (fun name => !isTemporary name)
    (by simp [isTemporary_fileName])

theorem readableLogs_settled (directory : Directory) :
    directory.settled.readableLogs = directory.readableLogs := by
  rw [readableLogs, settled, List.filterMap_filter]
  refine List.filterMap_congr fun entry _ => ?_
  cases temporary : isTemporary entry.1 with
  | true => simp [isLogName_of_isTemporary temporary]
  | false => rfl

theorem settled_write_temporary (directory : Directory) (sessionId text : String) :
    (directory.write (temporaryName sessionId) text).settled = directory.settled :=
  congrArg Directory.mk <| Entries.filter_replace_of_dropped (fun name => !isTemporary name)
    (by simp [isTemporary_temporaryName])

theorem settled_remove_temporary (directory : Directory) (sessionId : String) :
    (directory.remove (temporaryName sessionId)).settled = directory.settled :=
  congrArg Directory.mk <| Entries.filter_erase_of_dropped (fun name => !isTemporary name)
    (by simp [isTemporary_temporaryName])

theorem settled_write_file (directory : Directory) (sessionId text : String) :
    (directory.write (fileName sessionId) text).settled =
      directory.settled.write (fileName sessionId) text :=
  congrArg Directory.mk <| Entries.filter_replace_of_kept (fun name => !isTemporary name)
    (by simp [isTemporary_fileName])

theorem settled_remove (directory : Directory) (name : String) :
    (directory.remove name).settled = directory.settled.remove name :=
  congrArg Directory.mk <| Entries.filter_erase_comm (fun name => !isTemporary name) _ _

/-- Until its file is renamed, a put that is cut off leaves all files but the temporary ones. -/
theorem settled_of_cutOff (cut : CutOff directory (putSteps log) count left) (early : count < 2) :
    left.settled = directory.settled := by
  cases cut with
  | between => rfl
  | writing => exact settled_write_temporary directory _ _
  | next written rest =>
      simp only [perform] at written
      split at written
      case isFalse => cases written
      case isTrue =>
        obtain rfl := Except.ok.inj written
        cases rest with
        | between => exact settled_write_temporary directory _ _
        | next => omega

theorem settled_putLog (directory : Directory) (log : Log) :
    (directory.putLog log).1.settled =
        (if isUsableName (fileName log.sessionId)
          then directory.settled.write (fileName log.sessionId) log.render
          else directory.settled) ∧
      (directory.putLog log).2 =
        if isUsableName (fileName log.sessionId) then .ok () else .error (.file .invalidName) := by
  split
  case isTrue usable =>
    rw [putLog_eq directory usable]
    refine ⟨?_, rfl⟩
    change ((directory.remove _).write _ _).settled = _
    rw [settled_write_file, settled_remove_temporary]
  case isFalse unusable =>
    -- Either the temporary file cannot be written, or it is written and stays.
    simp only [putLog, putSteps, performAll]
    by_cases temporary : isUsableName (temporaryName log.sessionId) = true
    · simp [perform, temporary, unusable, settled_write_temporary]
    · simp [perform, temporary]

/-- Whatever is called, one directory answers as the other. -/
def AnswersAlike (first second : Directory) : Prop :=
  ∀ (calls : List Call) (call : Call),
    (call.perform (Call.run calls first)).2 = (call.perform (Call.run calls second)).2

variable {first second : Directory}

theorem getLog_of_settled (same : first.settled = second.settled) (sessionId : String) :
    first.getLog sessionId = second.getLog sessionId := by
  apply getLog_congr
  rw [← read?_settled first, same, read?_settled]

theorem listLogs_of_settled (same : first.settled = second.settled) (limit : Nat) :
    first.listLogs limit = second.listLogs limit := by
  rw [listLogs, listLogs, ← readableLogs_settled first, same, readableLogs_settled]

theorem putLog_of_settled (same : first.settled = second.settled) (log : Log) :
    (first.putLog log).1.settled = (second.putLog log).1.settled ∧
      (first.putLog log).2 = (second.putLog log).2 := by
  obtain ⟨firstFiles, firstResult⟩ := settled_putLog first log
  obtain ⟨secondFiles, secondResult⟩ := settled_putLog second log
  rw [firstFiles, secondFiles, same, firstResult, secondResult]
  exact ⟨rfl, rfl⟩

/-- No call depends on the temporary files of a directory. -/
theorem perform_of_settled (same : first.settled = second.settled) (call : Call) :
    (call.perform first).1.settled = (call.perform second).1.settled ∧
      (call.perform first).2 = (call.perform second).2 := by
  cases call with
  | record stamp event =>
      have stored := getLog_of_settled same event.key
      simp only [Call.perform]
      cases found : second.getLog event.key with
      | error fault =>
          rw [record_of_getLog_error found, record_of_getLog_error (stored.trans found)]
          exact ⟨same, rfl⟩
      | ok found? =>
          rw [record_of_getLog found, record_of_getLog (stored.trans found)]
          obtain ⟨files, result⟩ := putLog_of_settled same (Log.pushTo found? stamp event)
          exact ⟨files, congrArg (Except.map _) result⟩
  | put log =>
      obtain ⟨files, result⟩ := putLog_of_settled same log
      exact ⟨files, congrArg (Except.map _) result⟩
  | get sessionId => exact ⟨same, congrArg (Except.map _) (getLog_of_settled same sessionId)⟩
  | list limit =>
      refine ⟨same, ?_⟩
      change Except.ok (Answer.listing (first.listLogs limit)) = _
      rw [listLogs_of_settled same]
      rfl
  | delete sessionId =>
      refine ⟨?_, rfl⟩
      change (first.remove _).settled = (second.remove _).settled
      rw [settled_remove, settled_remove, same]

theorem answersAlike_of_settled (same : first.settled = second.settled) :
    first.AnswersAlike second := by
  intro calls call
  refine (perform_of_settled ?_ call).2
  induction calls generalizing first second with
  | nil => exact same
  | cons earlier calls induction => exact induction (perform_of_settled same earlier).1

/-- A put ends after both of its changes, or it fails and is cut off before.  Wherever it is cut off,
other sessions and other files are read as before.  Until the file is renamed every call is answered
as if nothing had been put, and from then on the new log is found.  Temporary files that are left
behind, whatever they hold, have no influence on any call. -/
theorem put_takes_effect_when_renamed (directory : Directory) (log : Log) :
    (∃ count, CutOff directory (putSteps log) count (directory.putLog log).1 ∧
      ((directory.putLog log).2 = .ok () ↔ count = 2)) ∧
    ∀ left count, CutOff directory (putSteps log) count left →
      let file := fileName log.sessionId
      (∀ other, fileName other ≠ file → left.getLog other = directory.getLog other) ∧
      (∀ limit, (left.remove file).listLogs limit = (directory.remove file).listLogs limit) ∧
      (count < 2 → left.getLog log.sessionId = directory.getLog log.sessionId ∧
        left.AnswersAlike directory) ∧
      (2 ≤ count → directory.putLog log = (left, .ok ()) ∧
        (Log.parse log.render = .ok log → left.getLog log.sessionId = .ok (some log))) ∧
      ∀ owner text, (left.write (temporaryName owner) text).AnswersAlike left := by
  refine ⟨cutOff_performAll (putSteps log) directory, ?_⟩
  intro left count cut file
  have leftovers (owner text : String) : (left.write (temporaryName owner) text).AnswersAlike left :=
    answersAlike_of_settled (settled_write_temporary left owner text)
  rcases Nat.lt_or_ge count 2 with early | late
  · have same := settled_of_cutOff cut early
    refine ⟨fun other _ => getLog_of_settled same other, fun limit => ?_, fun _ =>
      ⟨getLog_of_settled same _, answersAlike_of_settled same⟩, fun late => by omega, leftovers⟩
    apply listLogs_of_settled
    rw [settled_remove, settled_remove, same]
  · have whole : directory.putLog log = (left, .ok ()) := performAll_of_cutOff cut late
    have usable : isUsableName file = true := putLog_ok_iff.mp (congrArg Prod.snd whole)
    obtain rfl : (directory.putLog log).1 = left := congrArg Prod.fst whole
    refine ⟨fun other different => ?_, fun limit => ?_, fun early => by omega, fun _ =>
      ⟨whole, fun decodes => getLog_of_parse (read?_putLog directory usable) decodes⟩, leftovers⟩
    · exact getLog_putLog_of_ne fun same => different (fileName_eq_iff.mpr same.symm)
    · apply listLogs_of_settled
      have files := (settled_putLog directory log).1
      rw [if_pos usable] at files
      rw [settled_remove, settled_remove, files]
      exact congrArg Directory.mk (Entries.erase_replace _ _ _)

/-- A log is still found after the put of another one in its place was cut off within its text, and
the other one once it is put again. -/
theorem old_log_found_beside_torn_text :
    let directory := (Directory.empty.putLog .acceptedOne).1
    let emptied : Log := { Log.acceptedOne with events := [] }
    let left := directory.write (temporaryName "session") "\x7b\n  \"session"
    CutOff directory (putSteps emptied) 0 left ∧
      left.getLog "session" = .ok (some .acceptedOne) ∧
      ((Call.get "session").perform (Call.run [.put emptied] left)).2 =
        .ok (.log (some emptied)) := by
  intro directory emptied left
  have writable : isUsableName (temporaryName "session") = true := by decide +kernel
  have beginning : "\x7b\n  \"session".toList <+: emptied.render.toList := by decide +kernel
  have cut : CutOff directory (putSteps emptied) 0 left := .writing writable beginning
  have noEvents (recorded : RecordedEvent) : recorded ∉ emptied.events := List.not_mem_nil
  have fits : emptied.Fits :=
    ⟨fun recorded member => absurd member (noEvents recorded), Log.acceptedOne_fits.createdAt,
      Log.acceptedOne_fits.updatedAt⟩
  have reals : emptied.RealsReadBack := fun recorded member => absurd member (noEvents recorded)
  have usable : isUsableName (fileName "session") = true := by decide +kernel
  have old : directory.getLog "session" = .ok (some .acceptedOne) :=
    getLog_of_read? Log.acceptedOne_fits Log.acceptedOne_realsReadBack (read?_putLog .empty usable)
  obtain ⟨-, anywhere⟩ := put_takes_effect_when_renamed directory emptied
  obtain ⟨-, -, early, -, -⟩ := anywhere left 0 cut
  obtain ⟨same, alike⟩ := early (by decide)
  have named : emptied.sessionId = "session" := rfl
  rw [named, old] at same
  refine ⟨cut, same, ?_⟩
  have new : (directory.putLog emptied).1.getLog "session" = .ok (some emptied) :=
    getLog_putLog_self usable fits reals rfl
  have answered (files : Directory) : ((Call.get "session").perform files).2 =
      (files.getLog "session").map Answer.log := rfl
  rw [alike [.put emptied] (.get "session"), Call.run_put, answered, new]
  rfl

end Directory
end TriggerLedger
