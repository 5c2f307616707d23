import TriggerLedger.Proofs.Replay.Times
/-!
# The order of marks in a replay

The marks of a session come in order, with one exception: the credential fetch is
marked whenever its step comes, also at a time after the first call has started.
The marks are out of order exactly after such a step, until they are started over.
-/

namespace TriggerLedger

namespace LatencyMarks

variable {marks : LatencyMarks} {now : Instant}

/-- Every mark that is set comes after those that it follows. -/
structure InOrder (marks : LatencyMarks) : Prop where
  started : ∀ mark, Precedes marks.invocationStart (marks.get mark)
  fetched : Precedes marks.credentialFetchStart marks.apiCallStart
  response : Precedes marks.apiCallStart marks.apiCallEnd
  pages : Precedes marks.apiCallEnd marks.allPaginationEnd
  shown : Precedes marks.apiCallEnd marks.firstSuggestionShown

/-- To mark the credential fetch now would put it after the start of the first call. -/
def IsLateForFetch (now : Instant) (marks : LatencyMarks) : Prop :=
  marks.credentialFetchStart = none ∧ ∃ call ∈ marks.apiCallStart, call < now

theorem precedes_setOnce_left {first second : Option Instant} :
    Precedes (setOnce first true now) second ↔
      Precedes first second ∧ ¬(first = none ∧ ∃ later ∈ second, later < now) := by
  cases first with
  | some earlier => simp [setOnce]
  | none =>
      have order (later : Instant) : now ≤ later ↔ ¬later < now := Int.not_lt.symm
      simp [setOnce, Precedes, order]

/-- A second mark that is set now comes after a first one in the past. -/
theorem precedes_setOnce_right {first second : Option Instant} {ready : Bool}
    (past : ∀ instant ∈ first, instant ≤ now) :
    Precedes first (setOnce second ready now) ↔ Precedes first second := by
  cases second with
  | some later => simp [setOnce]
  | none =>
      cases ready with
      | false => rfl
      | true =>
          refine iff_of_true ?_ (by simp [Precedes])
          rintro earlier isEarlier _ ⟨rfl⟩
          exact past earlier isEarlier

namespace Sound

theorem inOrder_iff (sound : marks.Sound now) :
    marks.InOrder ↔ Precedes marks.credentialFetchStart marks.apiCallStart where
  mp inOrder := inOrder.fetched
  mpr fetched :=
    { started := sound.started
      fetched
      response := sound.awaited .apiCallEnd .apiCallStart rfl
      pages := sound.awaited .allPaginationEnd .apiCallEnd rfl
      shown := sound.awaited .firstSuggestionShown .apiCallEnd rfl }

/-- Of all marks that are set, only a late fetch puts fetch and call out of order. -/
theorem fetched_set_iff (sound : marks.Sound now) (mark : Mark) :
    Precedes (marks.set now mark).credentialFetchStart (marks.set now mark).apiCallStart ↔
      mark = .invocationStart ∨ Precedes marks.credentialFetchStart marks.apiCallStart ∧
        ¬(mark = .credentialFetchStart ∧ marks.IsLateForFetch now) := by
  cases mark with
  | invocationStart => exact iff_of_true nofun (.inl rfl)
  | credentialFetchStart =>
      change Precedes (setOnce marks.credentialFetchStart true now) marks.apiCallStart ↔ _
      simp [precedes_setOnce_left, IsLateForFetch]
  | apiCallStart =>
      change Precedes marks.credentialFetchStart (setOnce marks.apiCallStart true now) ↔ _
      have past : ∀ instant ∈ marks.credentialFetchStart, instant ≤ now :=
        sound.past .credentialFetchStart
      simp [precedes_setOnce_right past]
  | apiCallEnd | allPaginationEnd | firstSuggestionShown =>
      change Precedes marks.credentialFetchStart marks.apiCallStart ↔ _
      simp

end Sound
end LatencyMarks

namespace Session

variable {settings : Settings} {session : Session} {now : Instant} {language : Option String}
  {record : LatencyRecord}

/-- The parts of a latency are not negative, but for a credential fetch that is out of order. -/
theorem nonneg_of_latencyRecord? (sound : session.marks.Sound now)
    (found : session.latencyRecord? settings language = some record) :
    0 ≤ record.firstCompletion ∧ 0 ≤ record.endToEnd ∧ 0 ≤ record.allCompletions ∧
      0 ≤ record.postprocessing ∧ 0 ≤ record.preprocessing ∧
      (session.marks.InOrder → 0 ≤ record.credentialFetch) := by
  have response := sound.awaited .apiCallEnd .apiCallStart rfl
  have pages := sound.awaited .allPaginationEnd .apiCallEnd rfl
  simp only [latencyRecord?] at found
  split at found
  case h_1 shown paginationEnd isShown isEnd =>
    obtain rfl := Option.some.inj found
    have callEnded : session.marks.apiCallEnd.isSome = true :=
      LatencyMarks.isReady_eq_true_iff.mp
        (sound.ready .allPaginationEnd (by simp [LatencyMarks.get, isEnd])) .apiCallEnd rfl
    rw [← isShown, ← isEnd]
    refine ⟨LatencyMarks.span_nonneg response,
      LatencyMarks.span_nonneg (sound.started .firstSuggestionShown),
      LatencyMarks.span_nonneg (response.trans pages fun _ => callEnded),
      LatencyMarks.span_nonneg (sound.awaited .firstSuggestionShown .apiCallEnd rfl),
      LatencyMarks.span_nonneg (sound.started .credentialFetchStart),
      fun inOrder => LatencyMarks.span_nonneg inOrder.fetched⟩
  case h_2 => cases found

end Session

namespace Script

open LatencyMarks

/-- Some step has marked the credential fetch late, and the marks were not started over since. -/
def FetchedLate (settings : Settings) (clock : Instant) (steps : List Step) : Prop :=
  ∃ earlier later, steps = earlier ++ .credentialFetchStart :: later ∧
    .invocationStart ∉ later ∧
    ((Replay.start clock).run settings earlier).session.marks.IsLateForFetch
      ((Replay.start clock).run settings earlier).clock

variable {settings : Settings} {clock : Instant} {steps : List Step} {step : Step}

theorem fetchedLate_concat_iff :
    FetchedLate settings clock (steps ++ [step]) ↔
      step ≠ .invocationStart ∧ FetchedLate settings clock steps ∨
        step = .credentialFetchStart ∧
          ((Replay.start clock).run settings steps).session.marks.IsLateForFetch
            ((Replay.start clock).run settings steps).clock := by
  constructor
  · rintro ⟨earlier, later, split, notStarted, late⟩
    cases later using List.reverseRecOn with
    | nil =>
        obtain ⟨rfl, last⟩ := List.append_inj' split rfl
        exact .inr ⟨List.singleton_inj.mp last, late⟩
    | append_singleton later last =>
        rw [← List.cons_append, ← List.append_assoc] at split
        obtain ⟨rfl, same⟩ := List.append_inj' split rfl
        obtain rfl := List.singleton_inj.mp same
        rw [List.mem_append, List.mem_singleton, not_or] at notStarted
        exact .inl ⟨Ne.symm notStarted.2, earlier, later, rfl, notStarted.1, late⟩
  · rintro (⟨notStart, earlier, later, rfl, notStarted, late⟩ | ⟨rfl, late⟩)
    · refine ⟨earlier, later ++ [step], by simp, ?_, late⟩
      simpa [notStarted] using Ne.symm notStart
    · exact ⟨steps, [], rfl, nofun, late⟩

namespace Replay

theorem fetched_next_iff (settings : Settings) (step : Step) {replay : Replay}
    (timely : replay.Timely) :
    Precedes (replay.next settings step).session.marks.credentialFetchStart
        (replay.next settings step).session.marks.apiCallStart ↔
      step = .invocationStart ∨
        Precedes replay.session.marks.credentialFetchStart replay.session.marks.apiCallStart ∧
          ¬(step = .credentialFetchStart ∧ replay.session.marks.IsLateForFetch replay.clock) := by
  have same := get_marks_gathered settings step replay
  rw [← marks_next] at same
  have fetched := congrFun same .credentialFetchStart
  have called := congrFun same .apiCallStart
  simp only [LatencyMarks.get] at fetched called
  have starts : step = .invocationStart ↔ step.mark? = some .invocationStart := by
    cases step <;> simp [Step.mark?]
  have fetches : step = .credentialFetchStart ↔ step.mark? = some .credentialFetchStart := by
    cases step <;> simp [Step.mark?]
  rw [fetched, called, starts, fetches]
  cases step.mark? with
  | none => simp
  | some mark => simpa using timely.marks.fetched_set_iff mark

/-- Fetch and call are in order exactly while no fetch was marked late. -/
theorem fetched_run_iff (inside : clock.inCalendar = true)
    (forward : ∀ step ∈ steps, 0 ≤ step.advanced) :
    Precedes ((start clock).run settings steps).session.marks.credentialFetchStart
        ((start clock).run settings steps).session.marks.apiCallStart ↔
      ¬FetchedLate settings clock steps := by
  induction steps using List.reverseRecOn with
  | nil => exact iff_of_true nofun (by rintro ⟨earlier, later, split, -⟩; simp at split)
  | append_singleton steps step induction =>
      have before := fun earlier member => forward earlier (List.mem_append_left [step] member)
      rw [run_concat, fetched_next_iff settings step (timely_run inside before),
        induction before, fetchedLate_concat_iff]
      by_cases isStart : step = .invocationStart
      · simp [isStart]
      · simp [isStart, not_or]

theorem exists_of_mem_latencies {replay : Replay} {record : LatencyRecord}
    (member : record ∈ (replay.moment settings step).latencies) :
    ∃ language, replay.session.latencyRecord? settings language = some record := by
  rw [Moment.latencies, moment_events, List.filterMap_append] at member
  cases step with
  | clientLatency language =>
      refine ⟨language, ?_⟩
      simpa [ownEvents, rollup?, List.filterMap_map, Function.comp_def, Event.latency?] using member
  | _ => simp [ownEvents, Event.latency?] at member

end Replay

/-- Wherever a script is started and cut, the marks that are set are in the past, the start of the
invocation before all others and those of a response in order.  The credential fetch is in order
too exactly if it was not marked late.  So no duration of a latency is negative, but for the one of
a credential fetch that was marked late. -/
theorem marks_in_order_iff_not_fetched_late (settings : Settings) {script : String}
    {steps : List Step} (parsed : parse script = .ok steps) {clock : Instant}
    (inside : clock.inCalendar = true) :
    (∀ before later, steps = before ++ later →
      let replay := (Replay.start clock).run settings before
      replay.session.marks.Sound replay.clock ∧
        (replay.session.marks.InOrder ↔ ¬FetchedLate settings clock before)) ∧
    ∀ before step later, steps = before ++ step :: later →
      let replay := (Replay.start clock).run settings before
      ∀ record ∈ (replay.moment settings step).latencies,
        0 ≤ record.firstCompletion ∧ 0 ≤ record.endToEnd ∧ 0 ≤ record.allCompletions ∧
          0 ≤ record.postprocessing ∧ 0 ≤ record.preprocessing ∧
          (¬FetchedLate settings clock before → 0 ≤ record.credentialFetch) := by
  have order (before later : List Step) (split : steps = before ++ later) :
      let replay := (Replay.start clock).run settings before
      replay.session.marks.Sound replay.clock ∧
        (replay.session.marks.InOrder ↔ ¬FetchedLate settings clock before) := by
    have forward (step : Step) (member : step ∈ before) : 0 ≤ step.advanced :=
      (advanced_of_parse parsed step (split ▸ List.mem_append_left later member)).1
    have timely : ((Replay.start clock).run settings before).Timely :=
      Replay.timely_run inside forward
    exact ⟨timely.marks,
      timely.marks.inOrder_iff.trans (Replay.fetched_run_iff inside forward)⟩
  refine ⟨order, ?_⟩
  intro before step later split replay record member
  obtain ⟨sound, inOrder⟩ := order before (step :: later) split
  obtain ⟨language, found⟩ := Replay.exists_of_mem_latencies member
  rw [← inOrder]
  exact Session.nonneg_of_latencyRecord? sound found

/-- The credential fetch is marked five milliseconds after the call has started. -/
theorem fetch_marked_after_call :
    let marks := "\"invocation_start\"\n\"api_call_start\"\n\x7b\"advance\":[5]\x7d\n" ++
      "\"credential_fetch_start\"\n\"api_call_end\"" ++ "\n"
    let latency := "\"all_pagination_end\"\n\"first_suggestion_shown\"\n" ++
      "\x7b\"client_latency\":[\"go\"]\x7d"
    let before : List Step := [.invocationStart, .apiCallStart, .advance 5, .credentialFetchStart,
      .apiCallEnd, .allPaginationEnd, .firstSuggestionShown]
    let reported : Step := .clientLatency (some "go")
    let replay := (Replay.start ⟨0⟩).run plainSettings before
    parse (marks ++ latency) = .ok (before ++ [reported]) ∧
      (⟨0⟩ : Instant).inCalendar = true ∧ ¬replay.session.marks.InOrder ∧
      (replay.moment plainSettings reported).latencies.map (·.credentialFetch) = [-5] := by
  intro marks latency before reported replay
  have parsed : parse (marks ++ latency) = .ok (before ++ [reported]) := by
    have first : parse marks = .ok (before.take 5) := by decide +kernel
    have second : parse latency = .ok (before.drop 5 ++ [reported]) := by decide +kernel
    have whole := parse_append_of_ok (.inr ⟨_, rfl⟩) first second
    exact whole
  refine ⟨parsed, by decide +kernel, ?_, by decide +kernel⟩
  intro inOrder
  have fetched : replay.session.marks.credentialFetchStart = some ⟨5000000⟩ := by decide +kernel
  have called : replay.session.marks.apiCallStart = some ⟨0⟩ := by decide +kernel
  have order : (5000000 : Int) ≤ 0 := inOrder.fetched _ fetched _ called
  exact absurd order (by decide)

/-- A fetch that was marked late is forgotten when the marks are started over. -/
theorem late_fetch_started_over :
    let late := "\"api_call_start\"\n\x7b\"advance\":[5]\x7d\n\"credential_fetch_start\"" ++ "\n"
    let marks := "\"invocation_start\"\n\"credential_fetch_start\"\n\x7b\"advance\":[5]\x7d\n" ++
      "\"api_call_start\"\n\"api_call_end\"" ++ "\n"
    let latency := "\"all_pagination_end\"\n\"first_suggestion_shown\"\n" ++
      "\x7b\"client_latency\":[\"go\"]\x7d"
    let early : List Step := [.apiCallStart, .advance 5, .credentialFetchStart]
    let before : List Step := early ++ [.invocationStart, .credentialFetchStart, .advance 5,
      .apiCallStart, .apiCallEnd, .allPaginationEnd, .firstSuggestionShown]
    let reported : Step := .clientLatency (some "go")
    let marksAfter (steps : List Step) := ((Replay.start ⟨0⟩).run plainSettings steps).session.marks
    let moment := ((Replay.start ⟨0⟩).run plainSettings before).moment plainSettings reported
    (parse (late ++ (marks ++ latency)) = .ok (before ++ [reported]) ∧
      (⟨0⟩ : Instant).inCalendar = true) ∧
      ¬(marksAfter early).InOrder ∧ (marksAfter before).InOrder ∧
      moment.latencies ≠ [] ∧ ∀ record ∈ moment.latencies, 0 ≤ record.credentialFetch := by
  intro late marks latency early before reported marksAfter moment
  have parsed : parse (late ++ (marks ++ latency)) = .ok (before ++ [reported]) := by
    have first : parse late = .ok early := by decide +kernel
    have second : parse marks = .ok ((before.drop 3).take 5) := by decide +kernel
    have third : parse latency = .ok (before.drop 8 ++ [reported]) := by decide +kernel
    have whole := parse_append_of_ok (.inr ⟨_, rfl⟩) first
      (parse_append_of_ok (.inr ⟨_, rfl⟩) second third)
    exact whole
  have isLate : FetchedLate plainSettings ⟨0⟩ early :=
    ⟨early.take 2, [], rfl, nofun, rfl, ⟨0⟩, by decide +kernel, by decide +kernel⟩
  have notLate : ¬FetchedLate plainSettings ⟨0⟩ before := by
    -- The first fetch lies before the new start, and no call has started at the second.
    have uncalled : (marksAfter (early ++ [.invocationStart])).apiCallStart = none := by
      decide +kernel
    rintro ⟨earlier, later, split, notStarted, -, call, called, -⟩
    simp only [before, early, List.cons_append, List.nil_append, List.cons_eq_append_iff,
      List.nil_eq, List.append_eq_nil_iff, List.cons.injEq, reduceCtorEq, true_and, false_and,
      and_false, or_false, false_or, exists_const] at split
    obtain ⟨_, rfl, _, rfl, ⟨rfl, rfl⟩ | ⟨_, rfl, _, rfl, rfl, rfl⟩⟩ := split
    · simp at notStarted
    · exact absurd (uncalled.symm.trans called) nofun
  have inside : (⟨0⟩ : Instant).inCalendar = true := by decide +kernel
  obtain ⟨order, nonneg⟩ := marks_in_order_iff_not_fetched_late plainSettings parsed inside
  refine ⟨⟨parsed, inside⟩, ?_, ?_, by decide +kernel, ?_⟩
  · exact fun inOrder => (order early _ rfl).2.mp inOrder isLate
  · exact (order before [reported] rfl).2.mpr notLate
  · intro record member
    exact (nonneg before reported [] rfl record member).2.2.2.2.2 notLate

end Script
end TriggerLedger
