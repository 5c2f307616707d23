import TriggerLedger.Proofs.Store.Decoded
import TriggerLedger.Proofs.Store.Separation
/-!
# Recording in any directory

An event is recorded by reading the log of its session, appending to it and
putting it back.  The log is read from the file of the session but put into the
file of the id that it has itself.  So the event arrives in the log of its session
unless another log lies in its file: then it goes to the file of that log, and the
log of the session stays as it was.  Nothing else changes, whatever the other files
hold, and recording that fails changes no log at all.
-/

namespace TriggerLedger

namespace Directory

variable {directory : Directory} {sessionId other : String} {log : Log} {found : Option Log}
  {stamp : Stamp} {event : Event}

theorem getLog_congr {changed : Directory}
    (same : changed.read? (fileName sessionId) = directory.read? (fileName sessionId)) :
    changed.getLog sessionId = directory.getLog sessionId := by
  rw [getLog, getLog, same]

theorem getLog_of_parse {contents : String}
    (file : directory.read? (fileName sessionId) = some contents)
    (parsed : Log.parse contents = .ok log) : directory.getLog sessionId = .ok (some log) := by
  simp only [getLog, file, parsed]

theorem getLog_eq_of_stem_eq (directory : Directory) (same : stem sessionId = stem other) :
    directory.getLog sessionId = directory.getLog other := by
  rw [getLog, getLog, fileName_eq_iff.mpr same]

theorem fits_of_getLog (stored : directory.getLog sessionId = .ok found) :
    ∀ log ∈ found, log.Fits := by
  rintro log ⟨rfl⟩
  simp only [getLog] at stored
  split at stored
  · cases stored
  · split at stored
    case h_1 => cases stored
    case h_2 parsed =>
      cases stored
      exact Log.fits_of_parse parsed

theorem putLog_ok_iff :
    (directory.putLog log).2 = .ok () ↔ isUsableName (fileName log.sessionId) = true := by
  constructor
  · intro ok
    by_contra unusable
    rw [Bool.not_eq_true] at unusable
    -- Either no file is written, or the temporary file cannot be given its last name.
    simp only [putLog, putSteps, performAll] at ok
    by_cases temporary : isUsableName (temporaryName log.sessionId) = true
    · simp [perform, temporary, unusable] at ok
    · simp [perform, temporary] at ok
  · intro usable
    rw [putLog_eq directory usable]

theorem getLog_putLog_of_ne (different : stem log.sessionId ≠ stem sessionId) :
    (directory.putLog log).1.getLog sessionId = directory.getLog sessionId :=
  getLog_congr (read?_putLog_of_ne different)

/-- A log that was put is found with the classifier values that its text is read with. -/
theorem getLog_putLog_of_readsAs {read : Log}
    (usable : isUsableName (fileName log.sessionId) = true) (fits : log.Fits)
    (reals : log.RealsReadAs read) (same : stem sessionId = stem log.sessionId) :
    (directory.putLog log).1.getLog sessionId = .ok (some read) := by
  rw [getLog_eq_of_stem_eq _ same]
  exact getLog_of_parse (read?_putLog directory usable) (Log.parse_render_readsAs fits reals)

theorem getLog_putLog_self (usable : isUsableName (fileName log.sessionId) = true)
    (fits : log.Fits) (reals : log.RealsReadBack) (same : stem sessionId = stem log.sessionId) :
    (directory.putLog log).1.getLog sessionId = .ok (some log) :=
  getLog_putLog_of_readsAs usable fits reals.readsAs same

/-- A log that could not be put leaves all logs as they were. -/
theorem getLog_putLog_of_not_ok (failed : (directory.putLog log).2 ≠ .ok ()) (sessionId : String) :
    (directory.putLog log).1.getLog sessionId = directory.getLog sessionId := by
  by_cases same : stem log.sessionId = stem sessionId
  · have unusable : ¬ isUsableName (fileName log.sessionId) = true := mt putLog_ok_iff.mpr failed
    have kept := read?_putLog_self directory log
    rw [if_neg unusable] at kept
    rw [← getLog_eq_of_stem_eq _ same, ← getLog_eq_of_stem_eq _ same]
    exact getLog_congr kept
  · exact getLog_putLog_of_ne same

theorem record_of_getLog (stored : directory.getLog event.key = .ok found) :
    Store.record directory stamp event = directory.putLog (Log.pushTo found stamp event) := by
  change Store.recordByPut getLog putLog directory stamp event = _
  rw [Store.recordByPut, stored]

theorem record_of_getLog_error {fault : StoreFault}
    (failed : directory.getLog event.key = .error fault) :
    Store.record directory stamp event = (directory, .error fault) := by
  change Store.recordByPut getLog putLog directory stamp event = _
  rw [Store.recordByPut, failed]

theorem record_ok_iff :
    (Store.record directory stamp event).2 = .ok () ↔
      ∃ found, directory.getLog event.key = .ok found ∧
        isUsableName (fileName (Log.pushTo found stamp event).sessionId) = true := by
  cases stored : directory.getLog event.key with
  | error fault => simp [record_of_getLog_error stored]
  | ok found => simp [record_of_getLog stored, putLog_ok_iff]

theorem getLog_record_of_not_ok (failed : (Store.record directory stamp event).2 ≠ .ok ())
    (sessionId : String) :
    (Store.record directory stamp event).1.getLog sessionId = directory.getLog sessionId := by
  cases stored : directory.getLog event.key with
  | error fault => rw [record_of_getLog_error stored]
  | ok found =>
      rw [record_of_getLog stored] at failed ⊢
      exact getLog_putLog_of_not_ok failed sessionId

end Directory

theorem Log.pushTo_ne (found : Option Log) (stamp : Stamp) (event : Event) :
    some (pushTo found stamp event) ≠ found := by
  rintro same
  have lengths :=
    congrArg (fun found => (found.getD (opened event.key stamp.opened)).events.length) same
  simp [pushTo, push] at lengths

open Directory

/-- Recording succeeds exactly if the log of the event's session is absent or can be read, and the
file of the id in it has a name that is not too long.  If it fails, no log changes.  If it
succeeds, only the log in that file changes: it is the log found with the event appended, as far
as its values survive their text, and the log of the session is that one exactly if the id in it
is filed as the session is. -/
theorem record_appends_unless_misfiled (directory : Directory) (stamp : Stamp) (event : Event) :
    let recorded := Store.record directory stamp event
    (recorded.2 = .ok () ↔ ∃ found, directory.getLog event.key = .ok found ∧
      isUsableName (fileName (Log.pushTo found stamp event).sessionId) = true) ∧
    (recorded.2 ≠ .ok () →
      ∀ sessionId, recorded.1.getLog sessionId = directory.getLog sessionId) ∧
    ∀ found, directory.getLog event.key = .ok found → recorded.2 = .ok () →
      let appended := Log.pushTo found stamp event
      (∀ other, fileName other ≠ fileName appended.sessionId →
        recorded.1.getLog other = directory.getLog other) ∧
      ((∀ log ∈ found, log.RealsReadBack) → (Call.record stamp event).Survives →
        recorded.1.getLog appended.sessionId = .ok (some appended) ∧
        (recorded.1.getLog event.key = .ok (some appended) ↔
          fileName appended.sessionId = fileName event.key)) := by
  intro recorded
  refine ⟨record_ok_iff, getLog_record_of_not_ok, ?_⟩
  intro found stored ok appended
  have put : recorded = directory.putLog appended := record_of_getLog stored
  rw [put] at ok ⊢
  have usable := putLog_ok_iff.mp ok
  have others : ∀ other, fileName other ≠ fileName appended.sessionId →
      (directory.putLog appended).1.getLog other = directory.getLog other := by
    intro other different
    exact getLog_putLog_of_ne fun same => different (fileName_eq_iff.mpr same).symm
  refine ⟨others, fun reals survives => ?_⟩
  have readBack {sessionId : String} (same : stem sessionId = stem appended.sessionId) :
      (directory.putLog appended).1.getLog sessionId = .ok (some appended) :=
    getLog_putLog_self usable (.pushTo (fits_of_getLog stored) survives.fits)
      (.pushTo reals survives.reals) same
  refine ⟨readBack rfl, ?_, fun same => readBack (fileName_eq_iff.mp same).symm⟩
  intro read
  by_contra different
  -- The file of the session was left alone, and what it held lacks the event.
  rw [others event.key (Ne.symm different), stored] at read
  exact Log.pushTo_ne found stamp event (Except.ok.inj read).symm

theorem survives_record_acceptedOne (eventId : String) :
    (Call.record ⟨eventId, .earliest, .latest⟩ (.trigger .acceptedOne)).Survives where
  fits := ⟨Log.acceptedOne_fits.createdAt, Log.acceptedOne_fits.updatedAt,
    TriggerRecord.acceptedOne_fits⟩
  reals := TriggerRecord.acceptedOne_realsReadBack

/-- An event is appended to a log that some other writer left without indentation, beside a file
that cannot be read. -/
theorem event_appended_to_compact_log :
    let directory : Directory :=
      ⟨[("notes.json", "\x7b"), ("session.json", (Log.codec.encode .acceptedOne).compact)]⟩
    let stamp : Stamp := ⟨"next", .earliest, .latest⟩
    let event : Event := .trigger .acceptedOne
    (Store.record directory stamp event).2 = .ok () ∧
      (Store.record directory stamp event).1.getLog "session" =
        .ok (some (Log.acceptedOne.push stamp event)) ∧
      (Store.record directory stamp event).1.getLog "notes" = directory.getLog "notes" := by
  intro directory stamp event
  have parsed : Log.parse (Log.codec.encode .acceptedOne).compact = .ok .acceptedOne :=
    (Log.codec_readsBack 0 Log.acceptedOne_fits Log.acceptedOne_realsReadBack).run_compact
      (by decide)
  have file : directory.read? (fileName "session") =
      some (Log.codec.encode .acceptedOne).compact := rfl
  have stored : directory.getLog event.key = .ok (some .acceptedOne) :=
    getLog_of_parse file parsed
  have reals : ∀ log ∈ some Log.acceptedOne, log.RealsReadBack := by
    rintro _ ⟨rfl⟩
    exact Log.acceptedOne_realsReadBack
  obtain ⟨succeeds, -, appends⟩ := record_appends_unless_misfiled directory stamp event
  have ok := succeeds.mpr ⟨_, stored, by decide +kernel⟩
  obtain ⟨others, appended⟩ := appends _ stored ok
  exact ⟨ok, (appended reals (survives_record_acceptedOne _)).1, others "notes" (by decide +kernel)⟩

/-- Where the file of a session holds the log of another, the event goes to the file of the other:
the session's log is read as before, and a log appears for a session that had none. -/
theorem event_lost_to_misfiled_log :
    let misfiled : Log := { Log.acceptedOne with sessionId := "other" }
    let directory : Directory := ⟨[("session.json", misfiled.render)]⟩
    let stamp : Stamp := ⟨"next", .earliest, .latest⟩
    let event : Event := .trigger .acceptedOne
    event.key = "session" ∧ fileName "other" ≠ fileName "session" ∧
      (Store.record directory stamp event).2 = .ok () ∧
      directory.getLog "session" = .ok (some misfiled) ∧
      (Store.record directory stamp event).1.getLog "session" = .ok (some misfiled) ∧
      directory.getLog "other" = .ok none ∧
      (Store.record directory stamp event).1.getLog "other" =
        .ok (some (misfiled.push stamp event)) := by
  intro misfiled directory stamp event
  have fits : misfiled.Fits :=
    ⟨Log.acceptedOne_fits.events, Log.acceptedOne_fits.createdAt, Log.acceptedOne_fits.updatedAt⟩
  have reals : ∀ log ∈ some misfiled, log.RealsReadBack := by
    rintro _ ⟨rfl⟩
    exact Log.acceptedOne_realsReadBack
  have key : event.key = "session" := rfl
  have file : directory.read? (fileName "session") = some misfiled.render := rfl
  have stored : directory.getLog "session" = .ok (some misfiled) :=
    getLog_of_parse file (Log.parse_render fits Log.acceptedOne_realsReadBack)
  have absent : directory.getLog "other" = .ok none := by
    have noFile : directory.read? (fileName "other") = none := rfl
    simp only [getLog, noFile]
  have put : Store.record directory stamp event =
      directory.putLog (Log.pushTo (some misfiled) stamp event) :=
    record_of_getLog stored
  have usable : isUsableName (fileName "other") = true := by decide +kernel
  have different : stem "other" ≠ stem "session" := by decide +kernel
  have names : fileName "other" ≠ fileName "session" := mt fileName_eq_iff.mp different
  refine ⟨key, names, ?_, stored, ?_, absent, ?_⟩
  · rw [put]
    exact putLog_ok_iff.mpr usable
  · rw [put, getLog_putLog_of_ne different, stored]
  · have survives := survives_record_acceptedOne "next"
    rw [put]
    exact getLog_putLog_self usable (.pushTo (fits_of_getLog stored) survives.fits)
      (.pushTo reals survives.reals) rfl

/-- A classifier result whose digits are read as the value next to it: the event that is found has
that value. -/
theorem classifier_result_changed_by_its_digits :
    let result : Binary64 := ⟨false, 4607030987219898608, by decide⟩
    let next : Binary64 := ⟨false, 4607030987219898609, by decide⟩
    let event (result : Binary64) : Event :=
      .trigger { TriggerRecord.acceptedOne with classifierResult := some result }
    let stamp : Stamp := ⟨"next", .earliest, .latest⟩
    let recorded := Store.record Directory.empty stamp (event result)
    (event result).key = "session" ∧ Directory.empty.getLog "session" = .ok none ∧
      recorded.2 = .ok () ∧
      recorded.1.getLog "session" = .ok (some (Log.pushTo none stamp (event next))) ∧
      Log.pushTo none stamp (event next) ≠ Log.pushTo none stamp (event result) := by
  intro result next event stamp recorded
  have key : (event result).key = "session" := rfl
  have absent : Directory.empty.getLog "session" = .ok none := rfl
  have put : recorded = Directory.empty.putLog (Log.pushTo none stamp (event result)) :=
    record_of_getLog absent
  have usable : isUsableName (fileName "session") = true := by decide +kernel
  have fits : (Log.pushTo none stamp (event result)).Fits := by
    have survives := survives_record_acceptedOne "next"
    refine .pushTo (fits_of_getLog absent) ⟨survives.fits.1, survives.fits.2.1, ?_⟩
    exact { TriggerRecord.acceptedOne_fits with }
  have digits : result.ReadsAs next :=
    ⟨⟨false, ['0'], "9831877173096739".toList, none⟩, by decide +kernel, by decide +kernel⟩
  have reals : (Log.pushTo none stamp (event result)).RealsReadAs
      (Log.pushTo none stamp (event next)) :=
    .read (.cons (.read (.trigger (.read (.some digits) .none))) .nil)
  refine ⟨key, absent, ?_, ?_, by decide +kernel⟩
  · rw [put]
    exact putLog_ok_iff.mpr usable
  · rw [put]
    exact getLog_putLog_of_readsAs usable fits reals rfl

end TriggerLedger
