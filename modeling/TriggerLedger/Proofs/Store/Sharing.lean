import TriggerLedger.Proofs.Store.Clients
import TriggerLedger.Proofs.Store.Tally
/-!
# Updates kept and lost

When all calls of the clients of a directory have returned, every event that they
recorded is in the log of its session exactly if no two clients ever held the log
of one file at the same time.  If two did, the one that puts the log back last
takes away what the other appended, and from then on the file, or a log that is
still held, has fewer events than were recorded.
-/

namespace TriggerLedger

open Directory

def Directory.eventsOf (directory : Directory) (sessionId : String) : List RecordedEvent :=
  match directory.getLog sessionId with
  | .ok found => Log.eventsIn found
  | .error _ => []

/-- What a client holds is what is found in the directory. -/
def Client.IsFresh (directory : Directory) (client : Client) : Prop :=
  ∀ held ∈ client.current, directory.getLog held.1.event.key = .ok held.2

/-- The name of the file whose log a client holds. -/
def Client.holds? (client : Client) : Option String :=
  client.current.map fun held => stem held.1.event.key

namespace Shared

variable {ι : Type}

/-- The events recorded so far for the file of a session. -/
def recordedFor (shared : Shared ι) (sessionId : String) : List RecordedEvent :=
  ((shared.returned.map (·.call)).filter
    fun call => stem call.event.key = stem sessionId).map (·.kept)

/-- Every log has the events that it had at first and those recorded for its file, each once. -/
def KeepsAll (initial : Directory) (shared : Shared ι) : Prop :=
  ∀ sessionId, (shared.directory.eventsOf sessionId).Perm
    (initial.eventsOf sessionId ++ shared.recordedFor sessionId)

/-- Two clients hold the log of one file. -/
def Overlaps (shared : Shared ι) : Prop :=
  ∃ first second name, first ≠ second ∧
    (shared.clients first).holds? = some name ∧ (shared.clients second).holds? = some name

def AllOk (shared : Shared ι) : Prop := ∀ entry ∈ shared.returned, entry.result = .ok ()

end Shared

namespace Directory

variable {call : Recording} {found : Option Log} {sessionId : String}

theorem eventsOf_of_getLog {directory : Directory}
    (stored : directory.getLog call.event.key = .ok found)
    (same : stem call.event.key = stem sessionId) :
    directory.eventsOf sessionId = Log.eventsIn found := by
  rw [eventsOf, ← getLog_eq_of_stem_eq directory same, stored]

theorem eventsOf_putLog (directory : Directory) (holds : call.MayHold found)
    (sessionId : String) :
    (directory.putLog (call.putBack found)).1.eventsOf sessionId =
      if stem call.event.key = stem sessionId ∧ (directory.putLog (call.putBack found)).2 = .ok ()
      then Log.eventsIn found ++ [call.kept] else directory.eventsOf sessionId := by
  rw [eventsOf, getLog_putLog holds.filedFor_putBack]
  by_cases here : stem call.event.key = stem sessionId ∧
      (directory.putLog (call.putBack found)).2 = .ok ()
  · rw [if_pos here, if_pos here]
    exact Recording.eventsIn_putBack call found
  · rw [if_neg here, if_neg here, eventsOf]

end Directory

namespace Shared

variable {ι : Type} {shared next : Shared ι} {client : ι} {initial : Directory}

/-- Nothing is lost yet, and no client will take anything away. -/
structure InStep (initial : Directory) (shared : Shared ι) : Prop where
  fresh : ∀ client, (shared.clients client).IsFresh shared.directory
  keepsAll : shared.KeepsAll initial

theorem InStep.start (directory : Directory) (calls : ι → List Recording) :
    InStep directory (start directory calls) where
  fresh := by simp [Shared.start, Client.IsFresh]
  keepsAll sessionId := by simp [Shared.start, recordedFor]

/-- A client that puts a log back leaves alone what the others hold. -/
theorem InStep.isFresh_putLog {call : Recording} {found : Option Log} {other : ι}
    (inStep : InStep initial shared) (apart : ¬ shared.Overlaps) (holds : call.MayHold found)
    (held : (shared.clients client).current = some (call, found)) (different : other ≠ client) :
    (shared.clients other).IsFresh (shared.directory.putLog (call.putBack found)).1 := by
  intro otherHeld present
  have named : stem call.event.key ≠ stem otherHeld.1.event.key := by
    intro same
    refine apart ⟨client, other, stem call.event.key, different.symm, ?_, ?_⟩
    · rw [Client.holds?, held, Option.map_some]
    · rw [Client.holds?, present, Option.map_some, same]
  rw [getLog_putLog holds.filedFor_putBack, if_neg fun here => named here.1]
  exact inStep.fresh other otherHeld present

variable [DecidableEq ι]

theorem recordedFor_finish (shared : Shared ι) (client : ι) (call : Recording)
    (waiting : List Recording) (left : Directory × Except StoreFault Unit) (sessionId : String) :
    (shared.finish client call waiting left).recordedFor sessionId =
      shared.recordedFor sessionId ++
        if stem call.event.key = stem sessionId then [call.kept] else [] := by
  by_cases same : stem call.event.key = stem sessionId
  · simp [recordedFor, same]
  · simp [recordedFor, same]

theorem InStep.moves (inStep : InStep initial shared) (sound : shared.Sound)
    (apart : ¬ shared.Overlaps) (moves : Moves shared client next) (allOk : next.AllOk) :
    InStep initial next := by
  cases moves with
  | rest => exact inStep
  | @read call waiting found before stored =>
      refine ⟨(Function.forall_update_iff _ fun _ => Client.IsFresh shared.directory).mpr
        ⟨?_, fun other _ => inStep.fresh other⟩, inStep.keepsAll⟩
      rintro _ ⟨rfl⟩
      exact stored
  | @put call waiting found before =>
      have held : (shared.clients client).current = some (call, found) := by rw [before]
      have holds := (sound.clients client).held call found held
      have ok : (shared.directory.putLog (call.putBack found)).2 = .ok () :=
        allOk ⟨client, call, _⟩ (by simp)
      refine ⟨(Function.forall_update_iff _ fun _ => Client.IsFresh _).mpr
        ⟨by simp [Client.IsFresh], fun other different =>
          inStep.isFresh_putLog apart holds held different⟩, ?_⟩
      intro sessionId
      have kept := inStep.keepsAll sessionId
      rw [recordedFor_finish, finish_directory, eventsOf_putLog _ holds]
      by_cases same : stem call.event.key = stem sessionId
      · -- What was read is still there, so that nothing is overridden.
        have stored := inStep.fresh client (call, found) held
        rw [eventsOf_of_getLog stored same] at kept
        rw [if_pos ⟨same, ok⟩, if_pos same, ← List.append_assoc]
        exact kept.append_right _
      · rw [if_neg fun here => same here.1, if_neg same, List.append_nil]
        exact kept

end Shared

/-- The events in the copy of the log of a session that a client holds. -/
def Client.copied (sessionId : String) (client : Client) : Option Nat :=
  client.current.bind fun held =>
    if stem held.1.event.key = stem sessionId then some (Log.eventsIn held.2).length else none

namespace Shared

variable {ι : Type}

def tally (initial : Directory) (sessionId : String) (shared : Shared ι) : Tally ι where
  file := (shared.directory.eventsOf sessionId).length
  held := Client.copied sessionId ∘ shared.clients
  due := (initial.eventsOf sessionId).length + (shared.recordedFor sessionId).length

theorem under_start (directory : Directory) (calls : ι → List Recording) (sessionId : String) :
    ((start directory calls).tally directory sessionId).Under
      (((start directory calls).tally directory sessionId).due + 1) := by
  constructor
  · exact Nat.lt_succ_of_le (Nat.le_add_right _ _)
  · simp [tally, start, Client.copied]

variable {shared next : Shared ι} {client : ι} {initial : Directory}

theorem exists_short_of_overlaps (overlaps : shared.Overlaps) (initial : Directory) :
    ∃ sessionId, (shared.tally initial sessionId).Short := by
  obtain ⟨first, second, name, different, one, other⟩ := overlaps
  obtain ⟨held, present, rfl⟩ := Option.map_eq_some_iff.mp one
  obtain ⟨otherHeld, otherPresent, same⟩ := Option.map_eq_some_iff.mp other
  refine ⟨held.1.event.key, .two different ?_ ?_⟩
  · simp [tally, Client.copied, present]
  · simp [tally, Client.copied, otherPresent, same]

def IsDone (shared : Shared ι) : Prop := ∀ client, (shared.clients client).outstanding = []

theorem not_short_of_isDone {sessionId : String} (done : shared.IsDone)
    (keepsAll : shared.KeepsAll initial) : ¬ (shared.tally initial sessionId).Short := by
  have idle (client : ι) : (shared.tally initial sessionId).held client = none := by
    have nothing : (shared.clients client).current = none := by
      simpa [Client.outstanding] using (List.append_eq_nil_iff.mp (done client)).1
    simp [tally, Client.copied, nothing]
  intro short
  cases short with
  | @two first second different one other => exact one (idle first)
  | @holder client count held few => simp [idle] at held
  | all under =>
      have counted := (keepsAll sessionId).length_eq
      have few := under.file
      simp only [tally, List.length_append] at counted few
      omega

variable [DecidableEq ι]

theorem copied_update {state : Client} {sessionId : String}
    (same : state.copied sessionId = (shared.clients client).copied sessionId) :
    Client.copied sessionId ∘ Function.update shared.clients client state =
      Client.copied sessionId ∘ shared.clients := by
  rw [Function.comp_update, same]
  exact Function.update_eq_self client _

theorem tally_read {call : Recording} {waiting : List Recording} {found : Option Log}
    (before : shared.clients client = ⟨none, call :: waiting⟩)
    (stored : shared.directory.getLog call.event.key = .ok found) (sessionId : String) :
    (shared.tally initial sessionId).Moves (tally initial sessionId { shared with
      clients := Function.update shared.clients client ⟨some (call, found), waiting⟩ }) := by
  have idle : (shared.tally initial sessionId).held client = none := by
    simp [tally, Client.copied, before]
  by_cases same : stem call.event.key = stem sessionId
  · have file := eventsOf_of_getLog stored same
    have read := Tally.Moves.read idle
    simp only [tally, Tally.read, file] at read ⊢
    rw [Function.comp_update, Client.copied, Option.bind_some, if_pos same]
    exact read
  · have nothing : Client.copied sessionId ⟨some (call, found), waiting⟩ = none := by
      simp [Client.copied, same]
    have kept := copied_update (nothing.trans idle.symm)
    simp only [tally, kept]
    exact .stay

theorem tally_put {call : Recording} {waiting : List Recording} {found : Option Log}
    (holds : call.MayHold found) (before : shared.clients client = ⟨some (call, found), waiting⟩)
    (sessionId : String) :
    (shared.tally initial sessionId).Moves (tally initial sessionId (shared.finish client call
      waiting (shared.directory.putLog (call.putBack found)))) := by
  have nothing : Client.copied sessionId ⟨none, waiting⟩ = none := rfl
  have left := eventsOf_putLog shared.directory holds sessionId
  have due := shared.recordedFor_finish client call waiting
    (shared.directory.putLog (call.putBack found)) sessionId
  by_cases same : stem call.event.key = stem sessionId
  · have held : (shared.tally initial sessionId).held client =
        some (Log.eventsIn found).length := by
      simp [tally, Client.copied, before, same]
    have put : (shared.tally initial sessionId).Moves ((shared.tally initial sessionId).put client
        ((shared.directory.putLog (call.putBack found)).1.eventsOf sessionId).length) := by
      refine .put held ?_
      rw [left]
      by_cases here : stem call.event.key = stem sessionId ∧
          (shared.directory.putLog (call.putBack found)).2 = .ok ()
      · left
        simp [here]
      · right
        simp [here, tally]
    rw [if_pos same] at due
    simp only [tally, Tally.put, due, List.length_append, List.length_singleton, ← Nat.add_assoc,
      finish_directory, finish_clients, Function.comp_update, nothing] at put ⊢
    exact put
  · have elsewhere : (shared.clients client).copied sessionId = none := by
      simp [Client.copied, before, same]
    have kept := copied_update (nothing.trans elsewhere.symm)
    rw [if_neg fun here => same here.1] at left
    rw [if_neg same, List.append_nil] at due
    simp only [tally, due, finish_directory, finish_clients, left, kept]
    exact .stay

theorem tally_moves (sound : shared.Sound) (moves : Moves shared client next) (sessionId : String) :
    (shared.tally initial sessionId).Moves (next.tally initial sessionId) := by
  cases moves with
  | rest => exact .stay
  | read before stored => exact tally_read before stored sessionId
  | @put call waiting found before =>
      have holds := (sound.clients client).held call found (by rw [before])
      exact tally_put holds before sessionId

theorem returned_prefix_of_moves (moves : Moves shared client next) :
    shared.returned <+: next.returned := by
  cases moves with
  | rest => exact List.prefix_refl _
  | read => exact List.prefix_refl _
  | put => exact List.prefix_append _ _

theorem InStep.run {schedule : List ι} (inStep : InStep initial shared) (sound : shared.Sound)
    (apart : ∀ earlier, earlier <+: schedule → ¬ (shared.run earlier).Overlaps)
    (allOk : (shared.run schedule).AllOk) : InStep initial (shared.run schedule) := by
  induction schedule using List.reverseRecOn with
  | nil => exact inStep
  | append_singleton schedule client induction =>
      have soundBefore := sound.run schedule
      have moves := moves_step soundBefore.wellFiled client
      rw [run_concat] at allOk ⊢
      have okBefore : (shared.run schedule).AllOk :=
        fun entry member => allOk entry ((returned_prefix_of_moves moves).subset member)
      have before := induction
        (fun earlier earlierPrefix => apart earlier (earlierPrefix.trans (List.prefix_append _ _)))
        okBefore
      exact before.moves soundBefore (apart schedule (List.prefix_append _ _)) moves allOk

theorem under_run (sound : shared.Sound) {sessionId : String}
    (under : (shared.tally initial sessionId).Under ((shared.tally initial sessionId).due + 1))
    (schedule : List ι) : ((shared.run schedule).tally initial sessionId).Under
      (((shared.run schedule).tally initial sessionId).due + 1) := by
  induction schedule using List.reverseRecOn with
  | nil => exact under
  | append_singleton schedule client induction =>
      have soundBefore := sound.run schedule
      rw [run_concat]
      exact induction.moves
        (tally_moves soundBefore (moves_step soundBefore.wellFiled client) sessionId)

theorem short_run (sound : shared.Sound) {sessionId : String}
    (under : (shared.tally initial sessionId).Under ((shared.tally initial sessionId).due + 1))
    (short : (shared.tally initial sessionId).Short) (schedule : List ι) :
    ((shared.run schedule).tally initial sessionId).Short := by
  induction schedule using List.reverseRecOn with
  | nil => exact short
  | append_singleton schedule client induction =>
      have soundBefore := sound.run schedule
      rw [run_concat]
      exact induction.moves (under_run sound under schedule)
        (tally_moves soundBefore (moves_step soundBefore.wellFiled client) sessionId)

/-- Where all clients but one are idle, none overlaps another. -/
theorem not_overlaps_of_idle (client : ι)
    (idle : ∀ other ≠ client, (shared.clients other).current = none) : ¬ shared.Overlaps := by
  rintro ⟨first, second, name, different, one, other⟩
  have busy {holder : ι} (holds : (shared.clients holder).holds? = some name) : holder = client := by
    by_contra notClient
    simp [Client.holds?, idle holder notClient] at holds
  exact different ((busy one).trans (busy other).symm)

/-- No client is in the middle of a call. -/
def Idle (shared : Shared ι) : Prop := ∀ client, (shared.clients client).current = none

theorem Idle.not_overlaps (idle : shared.Idle) : ¬ shared.Overlaps := by
  intro overlaps
  exact not_overlaps_of_idle overlaps.choose (fun other _ => idle other) overlaps

theorem Idle.run_turn (idle : shared.Idle) (sound : shared.Sound) (client : ι) :
    (shared.run [client, client]).Idle := by
  cases before : shared.clients client with
  | mk current waiting =>
      obtain rfl : current = none := by simpa [before] using idle client
      cases waiting with
      | nil =>
          have rest : shared.step client = shared := by simp only [step, before]
          change ((shared.step client).step client).Idle
          rw [rest, rest]
          exact idle
      | cons call waiting =>
          obtain ⟨found, stored, -⟩ := sound.wellFiled call.event.key
          rw [Shared.run_turn before stored]
          exact (Function.forall_update_iff _ fun _ (state : Client) => state.current = none).mpr
            ⟨rfl, fun other _ => idle other⟩

/-- The steps of one whole call after the other. -/
def turns (clients : List ι) : List ι := clients.flatMap fun client => [client, client]

/-- Clients that take turns never hold a log at the same time. -/
theorem not_overlaps_of_turns (sound : shared.Sound) (idle : shared.Idle) (clients : List ι) :
    ∀ earlier, earlier <+: turns clients → ¬ (shared.run earlier).Overlaps := by
  induction clients generalizing shared with
  | nil =>
      intro earlier earlierPrefix
      obtain rfl := List.prefix_nil.mp earlierPrefix
      exact idle.not_overlaps
  | cons client clients induction =>
      intro earlier earlierPrefix
      change earlier <+: client :: client :: turns clients at earlierPrefix
      rcases List.prefix_cons_iff.mp earlierPrefix with rfl | ⟨rest, rfl, restPrefix⟩
      · exact idle.not_overlaps
      rcases List.prefix_cons_iff.mp restPrefix with rfl | ⟨later, rfl, laterPrefix⟩
      · refine not_overlaps_of_idle client fun other different => ?_
        change ((shared.step client).clients other).current = none
        rw [clients_step_of_ne _ different]
        exact idle other
      · exact induction (sound.run [client, client]) (idle.run_turn sound client) later laterPrefix

/-- Once all calls have succeeded, every log has the events that were recorded for its file, each
once and beside those that it had before, exactly if no two clients held the log of one file at
the same time. -/
theorem updates_kept_iff_never_overlapping {directory : Directory} {calls : ι → List Recording}
    {schedule : List ι} (wellFiled : directory.IsWellFiled)
    (survive : ∀ client, ∀ call ∈ calls client, call.Survives)
    (done : ((start directory calls).run schedule).IsDone)
    (allOk : ((start directory calls).run schedule).AllOk) :
    (∀ client, ((start directory calls).run schedule).returnedBy client = calls client) ∧
    ((start directory calls).run schedule).directory.IsWellFiled ∧
    (((start directory calls).run schedule).KeepsAll directory ↔
      ∀ earlier, earlier <+: schedule → ¬ ((start directory calls).run earlier).Overlaps) := by
  have sound := Sound.start wellFiled survive
  refine ⟨?_, (sound.run schedule).wellFiled, ?_, ?_⟩
  · intro client
    have accounted := accounted_run sound schedule client
    rw [done client, List.append_nil] at accounted
    exact accounted
  · -- From the moment of the overlap on an event is missing, and at the end no copy can hide it.
    rintro keepsAll earlier ⟨later, rfl⟩ overlaps
    rw [run_append] at done keepsAll
    obtain ⟨sessionId, short⟩ := exists_short_of_overlaps overlaps directory
    have under := under_run sound (under_start directory calls sessionId) earlier
    exact not_short_of_isDone done keepsAll (short_run (sound.run earlier) under short later)
  · intro apart
    exact ((InStep.start directory calls).run sound apart allOk).keepsAll

end Shared

theorem Directory.IsWellFiled.empty : IsWellFiled .empty :=
  fun _ => ⟨none, rfl, by simp⟩

/-- A call that records an event under `session`. -/
def Recording.acceptedOne (eventId : String) : Recording :=
  ⟨⟨eventId, .earliest, .latest⟩, .trigger .acceptedOne⟩

/-- A log under `session` is put into its file and found there. -/
theorem Recording.put_acceptedOne (eventId : String) (found : Option Log) (directory : Directory)
    (filed : ∀ log ∈ found, FiledFor "session" log) :
    FiledFor "session" ((acceptedOne eventId).putBack found) ∧
      (directory.putLog ((acceptedOne eventId).putBack found)).2 = .ok () ∧
      (directory.putLog ((acceptedOne eventId).putBack found)).1.getLog "session" =
        .ok (some ((acceptedOne eventId).putBack found)) := by
  have holds : (acceptedOne eventId).MayHold found := ⟨survives_record_acceptedOne eventId, filed⟩
  have put : FiledFor "session" ((acceptedOne eventId).putBack found) := holds.filedFor_putBack
  have usable : isUsableName (fileName "session") = true := by decide +kernel
  have ok : (directory.putLog ((acceptedOne eventId).putBack found)).2 = .ok () := by
    rw [putLog_ok_iff, fileName_eq_iff.mpr put.named]
    exact usable
  exact ⟨put, ok, by rw [getLog_putLog put, if_pos ⟨rfl, ok⟩]⟩

def acceptedByTwo (client : Bool) : List Recording :=
  [.acceptedOne (cond client "second" "first")]

/-- The log of `session` after the first of them has recorded alone. -/
def firstLog : Log := (Recording.acceptedOne "first").putBack none

def afterFirst : Shared Bool :=
  (Shared.start .empty acceptedByTwo).finish false (.acceptedOne "first") []
    (Directory.empty.putLog firstLog)

theorem run_first_turn :
    (Shared.start .empty acceptedByTwo).run [false, false] = afterFirst := by
  have absent : Directory.empty.getLog (Recording.acceptedOne "first").event.key = .ok none := rfl
  have next : (Shared.start .empty acceptedByTwo).clients false =
      ⟨none, [.acceptedOne "first"]⟩ := rfl
  rw [Shared.run_turn next absent]
  exact congrArg _ (record_of_getLog absent)

/-- Two clients that take turns never hold a log at the same time. -/
theorem both_events_kept_in_turns :
    let final := (Shared.start .empty acceptedByTwo).run [false, false, true, true]
    final.IsDone ∧ final.AllOk ∧
      (final.directory.eventsOf "session").Perm
        [(Recording.acceptedOne "first").kept, (Recording.acceptedOne "second").kept] := by
  intro final
  obtain ⟨filed, okFirst, stored⟩ := Recording.put_acceptedOne "first" none .empty (by simp)
  have found : afterFirst.directory.getLog "session" = .ok (some firstLog) := stored
  obtain ⟨-, okSecond, -⟩ := Recording.put_acceptedOne "second" (some firstLog)
    afterFirst.directory (by simpa [firstLog] using filed)
  have run : final = afterFirst.finish true (.acceptedOne "second") []
      (afterFirst.directory.putLog ((Recording.acceptedOne "second").putBack (some firstLog))) := by
    have turns : [false, false, true, true] = [false, false] ++ [true, true] := rfl
    have next : afterFirst.clients true = ⟨none, [.acceptedOne "second"]⟩ := rfl
    change (Shared.start .empty acceptedByTwo).run _ = _
    rw [turns, Shared.run_append, run_first_turn, Shared.run_turn next found]
    exact congrArg _ (record_of_getLog found)
  have done : final.IsDone := by
    rw [run]
    intro client
    cases client <;> rfl
  have allOk : final.AllOk := by
    rw [run]
    intro entry member
    rcases List.mem_pair.mp member with rfl | rfl
    · exact okFirst
    · exact okSecond
  have survive : ∀ client, ∀ call ∈ acceptedByTwo client, call.Survives := by
    intro client call member
    obtain rfl := List.mem_singleton.mp member
    exact survives_record_acceptedOne _
  have apart := Shared.not_overlaps_of_turns (.start .empty survive) (fun _ => rfl) [false, true]
  have recorded : final.recordedFor "session" =
      [(Recording.acceptedOne "first").kept, (Recording.acceptedOne "second").kept] := by
    rw [run, Shared.recordedFor_finish, afterFirst, Shared.recordedFor_finish]
    rfl
  have kept := (Shared.updates_kept_iff_never_overlapping .empty survive done allOk).2.2.mpr apart
  have events := kept "session"
  rw [recorded] at events
  exact ⟨done, allOk, events⟩

/-- Both clients have read before either has put its log back. -/
def bothReading : Shared Bool where
  directory := .empty
  clients client := ⟨some (.acceptedOne (cond client "second" "first"), none), []⟩
  returned := []

theorem run_both_read : (Shared.start .empty acceptedByTwo).run [false, true] = bothReading := by
  have absent (eventId : String) :
      Directory.empty.getLog (Recording.acceptedOne eventId).event.key = .ok none := rfl
  have first : (Shared.start .empty acceptedByTwo).step false = _ :=
    Shared.step_of_waiting rfl (absent "first")
  have second : ((Shared.start .empty acceptedByTwo).step false).step true = _ :=
    Shared.step_of_waiting (by rw [first]; rfl) (by rw [first]; exact absent "second")
  change ((Shared.start .empty acceptedByTwo).step false).step true = _
  rw [second, first]
  refine congrArg (Shared.mk _ · _) (funext fun client => ?_)
  cases client <;> rfl

/-- The client that puts its log back last takes away the event of the other. -/
theorem first_event_lost_between_reads :
    let final := (Shared.start .empty acceptedByTwo).run [false, true, false, true]
    IsWellFiled .empty ∧ final.IsDone ∧ final.AllOk ∧
      final.returnedBy false = [.acceptedOne "first"] ∧
      (Recording.acceptedOne "first").event.key = "session" ∧
      (Recording.acceptedOne "first").kept ∉ final.directory.eventsOf "session" := by
  intro final
  obtain ⟨-, okFirst, -⟩ := Recording.put_acceptedOne "first" none .empty (by simp)
  obtain ⟨-, okSecond, stored⟩ := Recording.put_acceptedOne "second" none
    (Directory.empty.putLog firstLog).1 (by simp)
  have run : final = (bothReading.finish false (.acceptedOne "first") []
      (Directory.empty.putLog firstLog)).finish true (.acceptedOne "second") []
        ((Directory.empty.putLog firstLog).1.putLog
          ((Recording.acceptedOne "second").putBack none)) := by
    have turns : [false, true, false, true] = [false, true] ++ [false, true] := rfl
    have first : bothReading.step false = bothReading.finish false (.acceptedOne "first") []
        (Directory.empty.putLog firstLog) := Shared.step_of_current rfl
    change (Shared.start .empty acceptedByTwo).run _ = _
    rw [turns, Shared.run_append, run_both_read]
    change (bothReading.step false).step true = _
    rw [first]
    exact Shared.step_of_current rfl
  have events : final.directory.eventsOf "session" = [(Recording.acceptedOne "second").kept] := by
    rw [run, Shared.finish_directory, eventsOf, stored]
    rfl
  refine ⟨.empty, ?_, ?_, ?_, rfl, ?_⟩
  · rw [run]
    intro client
    cases client <;> rfl
  · rw [run]
    intro entry member
    rcases List.mem_pair.mp member with rfl | rfl
    · exact okFirst
    · exact okSecond
  · rw [run]
    rfl
  · rw [events, List.mem_singleton]
    intro same
    exact absurd (congrArg RecordedEvent.id same) (by decide)

end TriggerLedger
