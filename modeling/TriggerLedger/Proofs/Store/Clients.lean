import Mathlib.Logic.Function.Basic
import TriggerLedger.Proofs.Store.Appending
/-!
# Clients of a shared directory

Clients record events in one directory, each call in two steps: it reads the log of
its session, and puts it back with the event appended.  The steps of different
clients come in any order.
-/

namespace TriggerLedger

structure Recording where
  stamp : Stamp
  event : Event

/-- The event as it is kept. -/
def Recording.kept (call : Recording) : RecordedEvent :=
  ⟨call.stamp.eventId, call.stamp.recorded, call.event⟩

def Recording.Survives (call : Recording) : Prop :=
  (Call.record call.stamp call.event).Survives

structure Client where
  /-- The call that has read its log, with what it found. -/
  current : Option (Recording × Option Log)
  /-- The calls not begun. -/
  waiting : List Recording

structure Return (ι : Type) where
  client : ι
  call : Recording
  result : Except StoreFault Unit

structure Shared (ι : Type) where
  directory : Directory
  clients : ι → Client
  /-- The calls that have returned, in that order. -/
  returned : List (Return ι)

namespace Shared

variable {ι : Type} [DecidableEq ι]

/-- Clients that have not begun yet. -/
def start (directory : Directory) (calls : ι → List Recording) : Shared ι :=
  ⟨directory, fun client => ⟨none, calls client⟩, []⟩

/-- A call of a client returns, and its next call comes up. -/
def finish (shared : Shared ι) (client : ι) (call : Recording) (waiting : List Recording)
    (left : Directory × Except StoreFault Unit) : Shared ι where
  directory := left.1
  clients := Function.update shared.clients client ⟨none, waiting⟩
  returned := shared.returned ++ [⟨client, call, left.2⟩]

section Finish

variable (shared : Shared ι) (client : ι) (call : Recording) (waiting : List Recording)
  (left : Directory × Except StoreFault Unit)

@[simp]
theorem finish_directory : (shared.finish client call waiting left).directory = left.1 := rfl

@[simp]
theorem finish_clients :
    (shared.finish client call waiting left).clients =
      Function.update shared.clients client ⟨none, waiting⟩ := rfl

@[simp]
theorem finish_returned :
    (shared.finish client call waiting left).returned =
      shared.returned ++ [⟨client, call, left.2⟩] := rfl

end Finish

def step (shared : Shared ι) (client : ι) : Shared ι :=
  match shared.clients client with
  | ⟨none, []⟩ => shared
  | ⟨none, call :: waiting⟩ =>
    match shared.directory.getLog call.event.key with
    | .error fault => shared.finish client call waiting (shared.directory, .error fault)
    | .ok found =>
      { shared with
        clients := Function.update shared.clients client ⟨some (call, found), waiting⟩ }
  | ⟨some (call, found), waiting⟩ =>
    shared.finish client call waiting
      (shared.directory.putLog (Log.pushTo found call.stamp call.event))

def run (shared : Shared ι) (schedule : List ι) : Shared ι := schedule.foldl step shared

theorem run_concat (shared : Shared ι) (schedule : List ι) (client : ι) :
    shared.run (schedule ++ [client]) = (shared.run schedule).step client := by
  simp [run]

theorem run_append (shared : Shared ι) (earlier later : List ι) :
    shared.run (earlier ++ later) = (shared.run earlier).run later :=
  List.foldl_append

theorem step_of_waiting {shared : Shared ι} {client : ι} {call : Recording}
    {waiting : List Recording} {found : Option Log}
    (next : shared.clients client = ⟨none, call :: waiting⟩)
    (stored : shared.directory.getLog call.event.key = .ok found) :
    shared.step client = { shared with
      clients := Function.update shared.clients client ⟨some (call, found), waiting⟩ } := by
  simp only [step, next, stored]

theorem step_of_current {shared : Shared ι} {client : ι} {call : Recording}
    {waiting : List Recording} {found : Option Log}
    (held : shared.clients client = ⟨some (call, found), waiting⟩) :
    shared.step client = shared.finish client call waiting
      (shared.directory.putLog (Log.pushTo found call.stamp call.event)) := by
  simp only [step, held]

/-- A call that is not interrupted returns as a call of the store does. -/
theorem run_turn {shared : Shared ι} {client : ι} {call : Recording}
    {waiting : List Recording} {found : Option Log}
    (next : shared.clients client = ⟨none, call :: waiting⟩)
    (stored : shared.directory.getLog call.event.key = .ok found) :
    shared.run [client, client] = shared.finish client call waiting
      (Store.record shared.directory call.stamp call.event) := by
  change (shared.step client).step client = _
  rw [Directory.record_of_getLog stored, step_of_waiting next stored,
    step_of_current (Function.update_self _ _ _)]
  simp [finish]

theorem clients_step_of_ne (shared : Shared ι) {client other : ι} (different : other ≠ client) :
    (shared.step client).clients other = shared.clients other := by
  simp only [step]
  split
  · rfl
  · split <;> simp [different]
  · simp [different]

end Shared

open Directory

/-- A log in the file of a session: it has that file by its own id, and survives its text. -/
structure FiledFor (sessionId : String) (log : Log) : Prop where
  named : stem log.sessionId = stem sessionId
  fits : log.Fits
  reals : log.RealsReadBack

/-- Every log can be read, has the file it lies in by its own id, and survives its text. -/
def Directory.IsWellFiled (directory : Directory) : Prop :=
  ∀ sessionId, ∃ found, directory.getLog sessionId = .ok found ∧
    ∀ log ∈ found, stem log.sessionId = stem sessionId ∧ log.RealsReadBack

/-- What a call may have read: nothing, or a log in the file of its session. -/
structure Recording.MayHold (call : Recording) (found : Option Log) : Prop where
  survives : call.Survives
  filed : ∀ log ∈ found, FiledFor call.event.key log

def Recording.putBack (call : Recording) (found : Option Log) : Log :=
  Log.pushTo found call.stamp call.event

def Log.eventsIn (found : Option Log) : List RecordedEvent := (found.map (·.events)).getD []

namespace Recording

variable {call : Recording} {found : Option Log}

theorem eventsIn_putBack (call : Recording) (found : Option Log) :
    Log.eventsIn (some (call.putBack found)) = Log.eventsIn found ++ [call.kept] := by
  cases found with
  | none => rfl
  | some log => rfl

theorem MayHold.filedFor_putBack (holds : call.MayHold found) :
    FiledFor call.event.key (call.putBack found) where
  named := by
    cases found with
    | none => rfl
    | some log => exact (holds.filed log rfl).named
  fits := .pushTo (fun log present => (holds.filed log present).fits) holds.survives.fits
  reals := .pushTo (fun log present => (holds.filed log present).reals) holds.survives.reals

end Recording

namespace Directory

variable {directory : Directory} {sessionId other : String} {log : Log}

/-- A put log is found for all sessions of its file, unless its name is too long. -/
theorem getLog_putLog (filed : FiledFor other log) (sessionId : String) :
    (directory.putLog log).1.getLog sessionId =
      if stem other = stem sessionId ∧ (directory.putLog log).2 = .ok () then .ok (some log)
      else directory.getLog sessionId := by
  split
  case isTrue here =>
    exact getLog_putLog_self (putLog_ok_iff.mp here.2) filed.fits filed.reals
      (here.1.symm.trans filed.named.symm)
  case isFalse notHere =>
    by_cases same : stem other = stem sessionId
    · exact getLog_putLog_of_not_ok (fun ok => notHere ⟨same, ok⟩) sessionId
    · exact getLog_putLog_of_ne fun named => same (filed.named.symm.trans named)

theorem IsWellFiled.getLog (wellFiled : directory.IsWellFiled) (sessionId : String) :
    ∃ found, directory.getLog sessionId = .ok found ∧ ∀ log ∈ found, FiledFor sessionId log := by
  obtain ⟨found, stored, filed⟩ := wellFiled sessionId
  refine ⟨found, stored, fun log present => ?_⟩
  exact ⟨(filed log present).1, fits_of_getLog stored log present, (filed log present).2⟩

theorem IsWellFiled.putLog (wellFiled : directory.IsWellFiled) (filed : FiledFor other log) :
    (directory.putLog log).1.IsWellFiled := by
  intro sessionId
  rw [getLog_putLog filed]
  split
  case isTrue here =>
    refine ⟨some log, rfl, ?_⟩
    rintro _ ⟨rfl⟩
    exact ⟨filed.named.trans here.1, filed.reals⟩
  case isFalse => exact wellFiled sessionId

end Directory

namespace Shared

variable {ι : Type} [DecidableEq ι] {shared : Shared ι} {client : ι}

/-- What a step of a client may do where every log can be read. -/
inductive Moves (shared : Shared ι) (client : ι) : Shared ι → Prop where
  | rest : Moves shared client shared
  | read {call : Recording} {waiting : List Recording} {found : Option Log}
      (before : shared.clients client = ⟨none, call :: waiting⟩)
      (stored : shared.directory.getLog call.event.key = .ok found) :
      Moves shared client { shared with
        clients := Function.update shared.clients client ⟨some (call, found), waiting⟩ }
  | put {call : Recording} {waiting : List Recording} {found : Option Log}
      (before : shared.clients client = ⟨some (call, found), waiting⟩) :
      Moves shared client (shared.finish client call waiting
        (shared.directory.putLog (call.putBack found)))

theorem moves_step (wellFiled : shared.directory.IsWellFiled) (client : ι) :
    Moves shared client (shared.step client) := by
  cases before : shared.clients client with
  | mk current waiting =>
      cases current with
      | some held =>
          rw [step_of_current before]
          exact .put before
      | none =>
          cases waiting with
          | nil =>
              have rest : shared.step client = shared := by simp only [step, before]
              rw [rest]
              exact .rest
          | cons call waiting =>
              obtain ⟨found, stored, -⟩ := wellFiled call.event.key
              rw [step_of_waiting before stored]
              exact .read before stored

end Shared

/-- The calls of a client that have not returned. -/
def Client.outstanding (client : Client) : List Recording :=
  (client.current.map Prod.fst).toList ++ client.waiting

/-- The calls of a client survive, and the one under way may hold what it holds. -/
structure Client.Sound (client : Client) : Prop where
  held : ∀ call found, client.current = some (call, found) → call.MayHold found
  survive : ∀ call ∈ client.waiting, call.Survives

namespace Shared

variable {ι : Type} {shared next : Shared ι}

structure Sound (shared : Shared ι) : Prop where
  wellFiled : shared.directory.IsWellFiled
  clients : ∀ client, (shared.clients client).Sound

theorem Sound.start {directory : Directory} {calls : ι → List Recording}
    (wellFiled : directory.IsWellFiled)
    (survive : ∀ client, ∀ call ∈ calls client, call.Survives) : (start directory calls).Sound where
  wellFiled := wellFiled
  clients client := ⟨by simp [Shared.start], survive client⟩

variable [DecidableEq ι] {client : ι}

theorem Sound.update {directory : Directory} {returned : List (Return ι)} {state : Client}
    (sound : shared.Sound) (wellFiled : directory.IsWellFiled) (own : state.Sound) :
    Sound ⟨directory, Function.update shared.clients client state, returned⟩ where
  wellFiled := wellFiled
  clients := (Function.forall_update_iff _ fun _ => Client.Sound).mpr
    ⟨own, fun other _ => sound.clients other⟩

theorem Sound.moves (sound : shared.Sound) (moves : Moves shared client next) : next.Sound := by
  have own := sound.clients client
  cases moves with
  | rest => exact sound
  | @read call waiting found before stored =>
      rw [before] at own
      refine sound.update sound.wellFiled
        ⟨?_, fun later member => own.survive later (List.mem_cons_of_mem call member)⟩
      rintro _ _ ⟨rfl⟩
      obtain ⟨log, same, filed⟩ := sound.wellFiled.getLog call.event.key
      obtain rfl := Except.ok.inj (stored.symm.trans same)
      exact ⟨own.survive call List.mem_cons_self, filed⟩
  | @put call waiting found before =>
      rw [before] at own
      have filed := (own.held call found rfl).filedFor_putBack
      have returned : Client.Sound ⟨none, waiting⟩ := ⟨by simp, own.survive⟩
      exact sound.update (sound.wellFiled.putLog filed) returned

theorem Sound.step (sound : shared.Sound) (client : ι) : (shared.step client).Sound :=
  sound.moves (moves_step sound.wellFiled client)

theorem Sound.run (sound : shared.Sound) (schedule : List ι) : (shared.run schedule).Sound := by
  induction schedule using List.reverseRecOn with
  | nil => exact sound
  | append_singleton schedule client induction =>
      rw [run_concat]
      exact induction.step client

def returnedBy (shared : Shared ι) (client : ι) : List Recording :=
  (shared.returned.filter fun entry => entry.client = client).map (·.call)

/-- No call of a client gets lost, or returns twice. -/
theorem accounted_moves (moves : Moves shared client next) (owner : ι) :
    next.returnedBy owner ++ (next.clients owner).outstanding =
      shared.returnedBy owner ++ (shared.clients owner).outstanding := by
  cases moves with
  | rest => rfl
  | @read call waiting found before stored =>
      by_cases own : owner = client
      · subst own
        simp [returnedBy, Client.outstanding, before]
      · simp [returnedBy, own]
  | @put call waiting found before =>
      by_cases own : owner = client
      · subst own
        simp [returnedBy, Client.outstanding, before]
      · simp [returnedBy, own, Ne.symm own]

theorem accounted_run {directory : Directory} {calls : ι → List Recording}
    (sound : (start directory calls).Sound) (schedule : List ι) (owner : ι) :
    ((start directory calls).run schedule).returnedBy owner ++
      (((start directory calls).run schedule).clients owner).outstanding = calls owner := by
  induction schedule using List.reverseRecOn with
  | nil => simp [run, start, returnedBy, Client.outstanding]
  | append_singleton schedule client induction =>
      have moves := moves_step (sound.run schedule).wellFiled client
      rw [run_concat, accounted_moves moves owner, induction]

end Shared
end TriggerLedger
