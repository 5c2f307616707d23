import Mathlib.Data.List.Induction
import TriggerLedger.Proofs.Store.Names
/-!
# Sessions kept apart

A directory that was only ever called as a store holds texts of logs under their
own names.  A call about a session then changes no file but those of the session,
so the log of a session is what the calls about it lead to, whatever calls about
sessions of other names come in between.
-/

namespace TriggerLedger

namespace Directory

variable {directory : Directory} {sessionId : String}

/-- The names that a change of a directory writes or removes. -/
def namesOf : FileStep → List String
  | .write name _ => [name]
  | .rename source target => [source, target]

theorem read?_write_of_ne {name other contents : String} (different : other ≠ name) :
    (directory.write name contents).read? other = directory.read? other :=
  Entries.lookup_replace_of_ne different

theorem read?_remove_of_ne {name other : String} (different : other ≠ name) :
    (directory.remove name).read? other = directory.read? other :=
  Entries.lookup_erase_of_ne different

theorem read?_perform {step : FileStep} {next : Directory} {name : String}
    (untouched : name ∉ namesOf step) (performed : directory.perform step = .ok next) :
    next.read? name = directory.read? name := by
  cases step with
  | write written contents =>
      have different : name ≠ written := by simpa [namesOf] using untouched
      simp only [perform] at performed
      split at performed
      · obtain rfl := Except.ok.inj performed
        exact read?_write_of_ne different
      · cases performed
  | rename source target =>
      have different : name ≠ source ∧ name ≠ target := by simpa [namesOf] using untouched
      simp only [perform] at performed
      split at performed
      · cases performed
      · split at performed
        · cases performed
        · obtain rfl := Except.ok.inj performed
          rw [read?_write_of_ne different.2, read?_remove_of_ne different.1]

theorem read?_performAll {steps : List FileStep} {name : String}
    (untouched : ∀ step ∈ steps, name ∉ namesOf step) :
    (directory.performAll steps).1.read? name = directory.read? name := by
  induction steps generalizing directory with
  | nil => rfl
  | cons step steps induction =>
      rw [performAll]
      cases performed : directory.perform step with
      | error fault => rfl
      | ok next =>
          have rest : (next.performAll steps).1.read? name = next.read? name :=
            induction fun later member => untouched later (List.mem_cons_of_mem step member)
          exact rest.trans (read?_perform (untouched step List.mem_cons_self) performed)

theorem read?_putLog_of_ne {log : Log} (different : stem log.sessionId ≠ stem sessionId) :
    (directory.putLog log).1.read? (fileName sessionId) =
      directory.read? (fileName sessionId) := by
  apply read?_performAll
  intro step member
  have notTemporary := fileName_ne_temporaryName sessionId log.sessionId
  have notFile : fileName sessionId ≠ fileName log.sessionId :=
    fun same => different (fileName_eq_iff.mp same).symm
  simp only [putSteps, List.mem_cons, List.not_mem_nil, or_false] at member
  rcases member with rfl | rfl <;> simp [namesOf, notTemporary, notFile]

/-- The file of a log that was put: its text, or what it was if its name is too long. -/
theorem read?_putLog_self (directory : Directory) (log : Log) :
    (directory.putLog log).1.read? (fileName log.sessionId) =
      if isUsableName (fileName log.sessionId) then some log.render
      else directory.read? (fileName log.sessionId) := by
  split
  case isTrue usable => exact read?_putLog directory usable
  case isFalse unusable =>
    have notTemporary := fileName_ne_temporaryName log.sessionId log.sessionId
    simp only [putLog, putSteps, performAll]
    by_cases temporary : isUsableName (temporaryName log.sessionId) = true
    · simp [perform, temporary, unusable, read?_write_of_ne notTemporary]
    · simp [perform, temporary]

/-- Every file named after a session has the text of a log of that name, which comes back. -/
def KeepsLogs (directory : Directory) : Prop :=
  ∀ sessionId contents, directory.read? (fileName sessionId) = some contents →
    ∃ log : Log, contents = log.render ∧ stem log.sessionId = stem sessionId ∧
      log.Fits ∧ log.RealsReadBack

theorem KeepsLogs.empty : KeepsLogs .empty := by
  intro sessionId contents found
  cases found

theorem KeepsLogs.getLog (keeps : KeepsLogs directory) (sessionId : String) :
    ∃ found : Option Log, directory.getLog sessionId = .ok found ∧
      ∀ log ∈ found, stem log.sessionId = stem sessionId ∧ log.Fits ∧ log.RealsReadBack := by
  cases stored : directory.read? (fileName sessionId) with
  | none => exact ⟨none, by simp [Directory.getLog, stored], by simp⟩
  | some contents =>
      obtain ⟨log, rfl, named, fits, reals⟩ := keeps sessionId contents stored
      refine ⟨some log, getLog_of_read? fits reals stored, ?_⟩
      rintro _ ⟨rfl⟩
      exact ⟨named, fits, reals⟩

/-- What a call does to the files of a directory. -/
inductive Change where
  | nothing
  | put (log : Log)
  | delete (sessionId : String)

def Change.apply (directory : Directory) : Change → Directory
  | .nothing => directory
  | .put log => (directory.putLog log).1
  | .delete sessionId => directory.deleteLog sessionId

end Directory

open Directory

/-- What a call does if it finds a log for its session. -/
def Call.change (found : Option Log) : Call → Change
  | .record stamp event => .put (Log.pushTo found stamp event)
  | .put log => .put log
  | .get _ => .nothing
  | .list _ => .nothing
  | .delete sessionId => .delete sessionId

/-- A call whose values come back from their text. -/
structure Call.Survives (call : Call) : Prop where
  fits : call.Fits
  reals : call.RealsReadBack

theorem Call.perform_eq_change {call : Call} {directory : Directory} {found : Option Log}
    (stored : ∀ sessionId ∈ call.sessionId?, directory.getLog sessionId = .ok found) :
    (call.perform directory).1 = (call.change found).apply directory := by
  cases call with
  | record stamp event =>
      change (Store.recordByPut getLog putLog directory stamp event).1 = _
      rw [Store.recordByPut, stored event.key rfl]
      rfl
  | put log => rfl
  | get sessionId => rfl
  | list limit => rfl
  | delete sessionId => rfl

namespace Directory.Change

variable {directory : Directory} {sessionId : String}

def sessionId? : Change → Option String
  | .nothing => none
  | .put log => some log.sessionId
  | .delete sessionId => some sessionId

def Survives : Change → Prop
  | .put log => log.Fits ∧ log.RealsReadBack
  | _ => True

theorem read?_apply_of_ne {change : Change}
    (different : ∀ changed ∈ change.sessionId?, stem changed ≠ stem sessionId) :
    (change.apply directory).read? (fileName sessionId) =
      directory.read? (fileName sessionId) := by
  cases change with
  | nothing => rfl
  | put log => exact read?_putLog_of_ne (different log.sessionId rfl)
  | delete deleted =>
      have notFile : fileName sessionId ≠ fileName deleted :=
        fun same => different deleted rfl (fileName_eq_iff.mp same).symm
      exact read?_remove_of_ne notFile

/-- What a change makes of the file of its session depends on that file only. -/
theorem read?_apply_congr {change : Change} {first second : Directory}
    (own : ∀ changed ∈ change.sessionId?, stem changed = stem sessionId)
    (same : first.read? (fileName sessionId) = second.read? (fileName sessionId)) :
    (change.apply first).read? (fileName sessionId) =
      (change.apply second).read? (fileName sessionId) := by
  cases change with
  | nothing => exact same
  | put log =>
      have named : fileName log.sessionId = fileName sessionId :=
        fileName_eq_iff.mpr (own log.sessionId rfl)
      rw [← named] at same ⊢
      rw [apply, apply, read?_putLog_self, read?_putLog_self, same]
  | delete deleted =>
      have named : fileName deleted = fileName sessionId := fileName_eq_iff.mpr (own deleted rfl)
      have gone (directory : Directory) :
          (directory.deleteLog deleted).read? (fileName sessionId) = none := by
        rw [deleteLog, named]
        exact Entries.lookup_erase_self _ _
      rw [apply, apply, gone, gone]

theorem keepsLogs_apply {change : Change} (keeps : KeepsLogs directory)
    (survives : change.Survives) : KeepsLogs (change.apply directory) := by
  intro sessionId contents stored
  -- Only in the file of its own session can a change leave a new text, that of the log it puts.
  by_cases own : ∀ changed ∈ change.sessionId?, stem changed = stem sessionId
  · cases change with
    | nothing => exact keeps sessionId contents stored
    | put log =>
        have named : fileName log.sessionId = fileName sessionId :=
          fileName_eq_iff.mpr (own log.sessionId rfl)
        rw [← named, apply, read?_putLog_self] at stored
        split at stored
        · exact ⟨log, (Option.some.inj stored).symm, own log.sessionId rfl, survives⟩
        · exact keeps sessionId contents (named ▸ stored)
    | delete deleted =>
        have named : fileName deleted = fileName sessionId := fileName_eq_iff.mpr (own deleted rfl)
        rw [apply, deleteLog, named] at stored
        have gone := Entries.lookup_erase_self (fileName sessionId) directory.files
        exact absurd (gone.symm.trans stored) (by simp)
  · have different : ∀ changed ∈ change.sessionId?, stem changed ≠ stem sessionId := by
      intro changed about same
      refine own fun other otherAbout => ?_
      obtain rfl := Option.some.inj (about.symm.trans otherAbout)
      exact same
    rw [read?_apply_of_ne different] at stored
    exact keeps sessionId contents stored

end Directory.Change

namespace Call

/-- A call about a session, or about none, on a directory that keeps logs: the change that it
makes is about a session of the same name, and keeps logs. -/
theorem exists_change {call : Call} {directory : Directory} (keeps : KeepsLogs directory)
    (survives : call.Survives) :
    ∃ found, (∀ sessionId ∈ call.sessionId?, directory.getLog sessionId = .ok found) ∧
      (∀ changed ∈ (call.change found).sessionId?, ∃ sessionId ∈ call.sessionId?,
        stem changed = stem sessionId) ∧
      (call.change found).Survives := by
  cases call with
  | record stamp event =>
      -- The log that is put back is the one found, under whatever id it has, or a new one.
      obtain ⟨found, stored, logs⟩ := keeps.getLog event.key
      refine ⟨found, ?_, ?_, ?_⟩
      · rintro _ ⟨rfl⟩
        exact stored
      · rintro _ ⟨rfl⟩
        refine ⟨event.key, rfl, ?_⟩
        cases found with
        | none => rfl
        | some log => exact (logs log rfl).1
      · exact ⟨.pushTo (fun log present => (logs log present).2.1) survives.fits,
          .pushTo (fun log present => (logs log present).2.2) survives.reals⟩
  | put log =>
      obtain ⟨found, stored, -⟩ := keeps.getLog log.sessionId
      refine ⟨found, ?_, ?_, survives.fits, survives.reals⟩
      · rintro _ ⟨rfl⟩
        exact stored
      · rintro _ ⟨rfl⟩
        exact ⟨log.sessionId, rfl, rfl⟩
  | get sessionId =>
      obtain ⟨found, stored, -⟩ := keeps.getLog sessionId
      refine ⟨found, ?_, nofun, trivial⟩
      rintro _ ⟨rfl⟩
      exact stored
  | list limit => exact ⟨none, nofun, nofun, trivial⟩
  | delete deleted =>
      obtain ⟨found, stored, -⟩ := keeps.getLog deleted
      refine ⟨found, ?_, ?_, trivial⟩
      · rintro _ ⟨rfl⟩
        exact stored
      · rintro _ ⟨rfl⟩
        exact ⟨deleted, rfl, rfl⟩

def run {σ : Type} [Store σ] (calls : List Call) (store : σ) : σ :=
  calls.foldl (fun store call => (call.perform store).1) store

theorem run_concat {σ : Type} [Store σ] (calls : List Call) (call : Call) (store : σ) :
    run (calls ++ [call]) store = (call.perform (run calls store)).1 := by
  simp [run]

theorem run_put (log : Log) (directory : Directory) :
    run [.put log] directory = (directory.putLog log).1 :=
  rfl

theorem perform_delete (sessionId : String) (directory : Directory) :
    ((Call.delete sessionId).perform directory).1 = directory.deleteLog sessionId :=
  rfl

def isAbout (sessionId : String) (call : Call) : Bool := call.sessionId? == some sessionId

theorem keepsLogs_perform {call : Call} {directory : Directory} (keeps : KeepsLogs directory)
    (survives : call.Survives) : KeepsLogs (call.perform directory).1 := by
  obtain ⟨found, stored, -, logs⟩ := exists_change keeps survives
  rw [perform_eq_change stored]
  exact Change.keepsLogs_apply keeps logs

theorem keepsLogs_run {calls : List Call} (survive : ∀ call ∈ calls, call.Survives) :
    KeepsLogs (run calls .empty) := by
  induction calls using List.reverseRecOn with
  | nil => exact .empty
  | append_singleton calls call induction =>
      rw [run_concat]
      exact keepsLogs_perform
        (induction fun earlier member => survive earlier (List.mem_append_left _ member))
        (survive call (by simp))

theorem read?_perform_of_ne {call : Call} {directory : Directory} {sessionId : String}
    (keeps : KeepsLogs directory) (survives : call.Survives)
    (different : ∀ other ∈ call.sessionId?, stem other ≠ stem sessionId) :
    (call.perform directory).1.read? (fileName sessionId) =
      directory.read? (fileName sessionId) := by
  obtain ⟨found, stored, about, -⟩ := exists_change keeps survives
  rw [perform_eq_change stored]
  apply Change.read?_apply_of_ne
  intro changed member
  obtain ⟨other, called, same⟩ := about changed member
  rw [same]
  exact different other called

theorem read?_perform_congr {call : Call} {first second : Directory} {sessionId : String}
    (keeps : KeepsLogs first) (survives : call.Survives)
    (own : call.sessionId? = some sessionId)
    (same : first.read? (fileName sessionId) = second.read? (fileName sessionId)) :
    (call.perform first).1.read? (fileName sessionId) =
      (call.perform second).1.read? (fileName sessionId) := by
  obtain ⟨found, stored, about, -⟩ := exists_change keeps survives
  have secondStored : ∀ other ∈ call.sessionId?, second.getLog other = .ok found := by
    intro other called
    obtain rfl := Option.some.inj (own.symm.trans called)
    rw [← stored sessionId own, getLog, getLog, same]
  rw [perform_eq_change stored, perform_eq_change secondStored]
  refine Change.read?_apply_congr ?_ same
  intro changed member
  obtain ⟨other, called, named⟩ := about changed member
  obtain rfl := Option.some.inj (own.symm.trans called)
  exact named

/-- The log of a session is what the calls about it lead to, if the calls in between are about
sessions of other names. -/
theorem read?_run_eq_filter {calls : List Call} {sessionId : String}
    (survive : ∀ call ∈ calls, call.Survives)
    (apart : ∀ call ∈ calls, ∀ other ∈ call.sessionId?, other ≠ sessionId →
      stem other ≠ stem sessionId) :
    (run calls Directory.empty).read? (fileName sessionId) =
      (run (calls.filter (isAbout sessionId)) Directory.empty).read? (fileName sessionId) := by
  -- The last call meets the same log in both runs, or is left out in one and about other names.
  induction calls using List.reverseRecOn with
  | nil => rfl
  | append_singleton calls call induction =>
      have earlierSurvive : ∀ earlier ∈ calls, earlier.Survives :=
        fun earlier member => survive earlier (List.mem_append_left _ member)
      have before := induction earlierSurvive
        fun earlier member => apart earlier (List.mem_append_left _ member)
      have keeps := keepsLogs_run earlierSurvive
      have survives := survive call (by simp)
      rw [run_concat]
      cases about : isAbout sessionId call with
      | true =>
          have own : call.sessionId? = some sessionId := by simpa [isAbout] using about
          rw [List.filter_append, List.filter_singleton, about, cond_true, run_concat]
          exact read?_perform_congr keeps survives own before
      | false =>
          have notOwn : call.sessionId? ≠ some sessionId := by simpa [isAbout] using about
          rw [List.filter_append, List.filter_singleton, about, cond_false, List.append_nil,
            ← before]
          refine read?_perform_of_ne keeps survives fun other called => ?_
          refine apart call (by simp) other called ?_
          rintro rfl
          exact notOwn called

end Call

/-- Two different ids have the same file names exactly if one of them shadows the other, as far as
the digests of rewritten ids differ.  Otherwise they have no file in common, and after any calls
about the two the log of each is what its own calls lead to. -/
theorem sessions_apart_unless_shadowed {sessionId other : String} (different : sessionId ≠ other)
    (digests : ¬ IsSafeId sessionId → ¬ IsSafeId other →
      Digest.fingerprint 8 sessionId ≠ Digest.fingerprint 8 other) :
    (stem sessionId = stem other ↔ Shadows sessionId other ∨ Shadows other sessionId) ∧
    (¬ (Shadows sessionId other ∨ Shadows other sessionId) →
      (filesOf sessionId).Disjoint (filesOf other) ∧
      ∀ calls : List Call, (∀ call ∈ calls, call.Survives) →
        (∀ call ∈ calls, ∀ called ∈ call.sessionId?, called = sessionId ∨ called = other) →
        ∀ owner ∈ [sessionId, other],
          (Call.run calls Directory.empty).getLog owner =
            (Call.run (calls.filter (Call.isAbout owner)) Directory.empty).getLog owner) := by
  have same_iff := stem_eq_iff different digests
  refine ⟨same_iff, fun unshadowed => ?_⟩
  have apart : stem sessionId ≠ stem other := mt same_iff.mp unshadowed
  refine ⟨disjoint_filesOf_iff.mpr apart, ?_⟩
  intro calls survive about owner member
  have ownersApart : ∀ call ∈ calls, ∀ called ∈ call.sessionId?, called ≠ owner →
      stem called ≠ stem owner := by
    intro call present called isCalled notOwner
    rcases List.mem_pair.mp member with rfl | rfl <;>
      rcases about call present called isCalled with rfl | rfl
    · exact absurd rfl notOwner
    · exact apart.symm
    · exact apart
    · exact absurd rfl notOwner
  have text := Call.read?_run_eq_filter survive ownersApart
  rw [getLog, getLog, text]

/-- A log put for one of two rewritten ids is still there after the other one's was deleted. -/
theorem log_kept_beside_rewritten_id :
    let log : Log := { Log.acceptedOne with sessionId := "a/b" }
    let calls : List Call := [.put log, .delete "a:b"]
    stem "a/b" ≠ stem "a:b" ∧
      (filesOf "a/b").Disjoint (filesOf "a:b") ∧
      (Call.run calls Directory.empty).getLog "a/b" = .ok (some log) := by
  intro log calls
  have fits : log.Fits :=
    ⟨Log.acceptedOne_fits.events, Log.acceptedOne_fits.createdAt, Log.acceptedOne_fits.updatedAt⟩
  have reals : log.RealsReadBack := Log.acceptedOne_realsReadBack
  have digests : Digest.fingerprint 8 "a/b" ≠ Digest.fingerprint 8 "a:b" := by decide +kernel
  obtain ⟨same_iff, apart⟩ :=
    sessions_apart_unless_shadowed (by decide : "a/b" ≠ "a:b") fun _ _ => digests
  have unshadowed : ¬ (Shadows "a/b" "a:b" ∨ Shadows "a:b" "a/b") := by
    rintro (shadows | shadows)
    · exact absurd (congrArg List.length shadows.spelled) (by decide +kernel)
    · exact absurd (congrArg List.length shadows.spelled) (by decide +kernel)
  obtain ⟨disjoint, kept⟩ := apart unshadowed
  refine ⟨mt same_iff.mp unshadowed, disjoint, ?_⟩
  have survive : ∀ call ∈ calls, call.Survives := by
    intro call member
    rcases List.mem_pair.mp member with rfl | rfl
    · exact ⟨fits, reals⟩
    · exact ⟨trivial, trivial⟩
  have about : ∀ call ∈ calls, ∀ called ∈ call.sessionId?, called = "a/b" ∨ called = "a:b" := by
    intro call member called isCalled
    rcases List.mem_pair.mp member with rfl | rfl
    · exact .inl (Option.some.inj isCalled).symm
    · exact .inr (Option.some.inj isCalled).symm
  have own : calls.filter (Call.isAbout "a/b") = [.put log] := rfl
  have stored : (Directory.empty.putLog log).1.read? (fileName "a/b") = some log.render :=
    read?_putLog .empty (by decide +kernel)
  rw [kept calls survive about "a/b" (by simp), own, Call.run_put]
  exact getLog_of_read? fits reals stored

/-- The id `a_b-c14cddc033f64b9d` shadows `a/b`: what is put for one is found for the other, and
deleting the one deletes it. -/
theorem log_shared_with_shadow :
    let shadow := "a_b-c14cddc033f64b9d"
    let log : Log := { Log.acceptedOne with sessionId := "a/b" }
    "a/b" ≠ shadow ∧ IsSafeId shadow ∧ stem "a/b" = stem shadow ∧
      (Call.run [.put log] Directory.empty).getLog shadow = .ok (some log) ∧
      (Call.run [.put log, .delete shadow] Directory.empty).getLog "a/b" = .ok none := by
  intro shadow log
  have fits : log.Fits :=
    ⟨Log.acceptedOne_fits.events, Log.acceptedOne_fits.createdAt, Log.acceptedOne_fits.updatedAt⟩
  have same : stem "a/b" = stem shadow := by decide +kernel
  have file : fileName shadow = fileName "a/b" := fileName_eq_iff.mpr same.symm
  have stored : (Directory.empty.putLog log).1.read? (fileName "a/b") = some log.render :=
    read?_putLog .empty (by decide +kernel)
  refine ⟨by decide, by decide +kernel, same, ?_, ?_⟩
  · have found : (Directory.empty.putLog log).1.read? (fileName shadow) = some log.render := by
      rw [file, stored]
    rw [Call.run_put]
    exact getLog_of_read? fits Log.acceptedOne_realsReadBack found
  · have put : [Call.put log, .delete shadow] = [.put log] ++ [.delete shadow] := rfl
    have gone : ((Directory.empty.putLog log).1.deleteLog shadow).read? (fileName "a/b") = none := by
      rw [deleteLog, file]
      exact Entries.lookup_erase_self _ _
    rw [put, Call.run_concat, Call.run_put, Call.perform_delete, getLog, gone]

end TriggerLedger
