import TriggerLedger.Proofs.Replay.MarkOrder
/-!
# The parts of a latency

Steps move the clock by whole milliseconds.  So the marks of a session are whole
milliseconds apart, also when the replay was started between two milliseconds, and
no duration of a latency is truncated: its parts add up to the whole.
-/

namespace TriggerLedger

theorem Span.millis_ofMillis (milliseconds : Int) : (ofMillis milliseconds).millis = milliseconds :=
  Int.mul_tdiv_cancel milliseconds (by decide)

namespace Instant

/-- An instant lies a whole number of milliseconds before or after another one. -/
def IsWholeMillisFrom (origin instant : Instant) : Prop :=
  Span.nanosPerMilli ∣ instant.nanoseconds - origin.nanoseconds

variable {origin first second third : Instant}

theorem IsWholeMillisFrom.between (earlier : IsWholeMillisFrom origin first)
    (later : IsWholeMillisFrom origin second) : IsWholeMillisFrom first second := by
  have difference := Int.dvd_sub later earlier
  rwa [sub_sub_sub_cancel_right] at difference

/-- Between instants that are whole milliseconds apart nothing is truncated. -/
theorem IsWholeMillisFrom.since_eq (whole : IsWholeMillisFrom first second) :
    second.since first = .ofMillis (second.millisSince first) :=
  congrArg Span.mk (Int.tdiv_mul_cancel whole).symm

theorem IsWholeMillisFrom.millisSince_eq_add (earlier : IsWholeMillisFrom first second)
    (later : IsWholeMillisFrom second third) :
    third.millisSince first = second.millisSince first + third.millisSince second := by
  have before := congrArg Span.nanoseconds earlier.since_eq
  have after := congrArg Span.nanoseconds later.since_eq
  have sum : third.since first =
      .ofMillis (second.millisSince first + third.millisSince second) := by
    simp only [since, Span.ofMillis, Span.mk.injEq, Int.add_mul] at before after ⊢
    omega
  rw [millisSince, sum, Span.millis_ofMillis]

end Instant

namespace LatencyMarks

variable {marks : LatencyMarks} {origin now : Instant}

/-- All marks that are set lie whole milliseconds from an instant. -/
def AreWholeMillisFrom (origin : Instant) (marks : LatencyMarks) : Prop :=
  ∀ mark, ∀ instant ∈ marks.get mark, Instant.IsWholeMillisFrom origin instant

theorem AreWholeMillisFrom.set (whole : marks.AreWholeMillisFrom origin)
    (present : Instant.IsWholeMillisFrom origin now) (mark : Mark) :
    (marks.set now mark).AreWholeMillisFrom origin := by
  intro other instant found
  by_cases isStart : mark = .invocationStart
  · subst isStart
    exact (mem_get_start found).2 ▸ present
  · rcases mem_get_set isStart found with old | ⟨rfl, -⟩
    · exact whole other instant old
    · exact present

/-- The time between two marks, if both are set, is exactly so many milliseconds. -/
def Takes (marks : LatencyMarks) (first second : Mark) (milliseconds : Int) : Prop :=
  ∀ earlier ∈ marks.get first, ∀ later ∈ marks.get second,
    later.since earlier = .ofMillis milliseconds

theorem AreWholeMillisFrom.takes_span (whole : marks.AreWholeMillisFrom origin)
    (first second : Mark) : marks.Takes first second (span (marks.get second) (marks.get first)) := by
  intro earlier isEarlier later isLater
  rw [isEarlier, isLater]
  exact ((whole first earlier isEarlier).between (whole second later isLater)).since_eq

/-- The time from a mark to another one is the sum of the times to and from a mark between them. -/
theorem AreWholeMillisFrom.span_eq_add (whole : marks.AreWholeMillisFrom origin)
    (first second third : Mark) (firstSet : (marks.get first).isSome = true)
    (secondSet : (marks.get second).isSome = true) (thirdSet : (marks.get third).isSome = true) :
    span (marks.get third) (marks.get first) =
      span (marks.get second) (marks.get first) + span (marks.get third) (marks.get second) := by
  obtain ⟨start, isStart⟩ := Option.isSome_iff_exists.mp firstSet
  obtain ⟨middle, isMiddle⟩ := Option.isSome_iff_exists.mp secondSet
  obtain ⟨finish, isFinish⟩ := Option.isSome_iff_exists.mp thirdSet
  have started := whole first start isStart
  have between := whole second middle isMiddle
  have finished := whole third finish isFinish
  rw [isStart, isMiddle, isFinish]
  exact (started.between between).millisSince_eq_add (between.between finished)

end LatencyMarks

open LatencyMarks (Mark)

/-- The durations of a latency are the exact times between the marks. -/
structure LatencyRecord.IsExact (marks : LatencyMarks) (record : LatencyRecord) : Prop where
  endToEnd : marks.Takes .invocationStart .firstSuggestionShown record.endToEnd
  preprocessing : marks.Takes .invocationStart .credentialFetchStart record.preprocessing
  credentialFetch : marks.Takes .credentialFetchStart .apiCallStart record.credentialFetch
  firstCompletion : marks.Takes .apiCallStart .apiCallEnd record.firstCompletion
  allCompletions : marks.Takes .apiCallStart .allPaginationEnd record.allCompletions
  postprocessing : marks.Takes .apiCallEnd .firstSuggestionShown record.postprocessing

namespace Session

open LatencyMarks

variable {settings : Settings} {session : Session} {now origin : Instant}
  {language : Option String} {record : LatencyRecord}

theorem spans_of_latencyRecord? (found : session.latencyRecord? settings language = some record) :
    (session.marks.get .firstSuggestionShown).isSome = true ∧
    (session.marks.get .allPaginationEnd).isSome = true ∧
    record.endToEnd =
      span (session.marks.get .firstSuggestionShown) (session.marks.get .invocationStart) ∧
    record.preprocessing =
      span (session.marks.get .credentialFetchStart) (session.marks.get .invocationStart) ∧
    record.credentialFetch =
      span (session.marks.get .apiCallStart) (session.marks.get .credentialFetchStart) ∧
    record.firstCompletion =
      span (session.marks.get .apiCallEnd) (session.marks.get .apiCallStart) ∧
    record.allCompletions =
      span (session.marks.get .allPaginationEnd) (session.marks.get .apiCallStart) ∧
    record.postprocessing =
      span (session.marks.get .firstSuggestionShown) (session.marks.get .apiCallEnd) := by
  simp only [latencyRecord?] at found
  split at found
  case h_1 shown paginationEnd isShown isEnd =>
    obtain rfl := Option.some.inj found
    simp [LatencyMarks.get, isShown, isEnd]
  case h_2 => cases found

theorem isExact_of_latencyRecord? (whole : session.marks.AreWholeMillisFrom origin)
    (found : session.latencyRecord? settings language = some record) :
    record.IsExact session.marks := by
  obtain ⟨-, -, endToEnd, preprocessing, fetch, first, all, postprocessing⟩ :=
    spans_of_latencyRecord? found
  exact ⟨endToEnd ▸ whole.takes_span _ _, preprocessing ▸ whole.takes_span _ _,
    fetch ▸ whole.takes_span _ _, first ▸ whole.takes_span _ _, all ▸ whole.takes_span _ _,
    postprocessing ▸ whole.takes_span _ _⟩

/-- A latency is only measured when the first call has started and ended. -/
theorem called_of_latencyRecord? (sound : session.marks.Sound now)
    (found : session.latencyRecord? settings language = some record) :
    (session.marks.get .apiCallStart).isSome = true ∧
      (session.marks.get .apiCallEnd).isSome = true := by
  obtain ⟨shown, -⟩ := spans_of_latencyRecord? found
  have ended := isReady_eq_true_iff.mp (sound.ready .firstSuggestionShown shown) .apiCallEnd rfl
  exact ⟨isReady_eq_true_iff.mp (sound.ready .apiCallEnd ended) .apiCallStart rfl, ended⟩

theorem endToEnd_eq_sum_of_latencyRecord? (sound : session.marks.Sound now)
    (whole : session.marks.AreWholeMillisFrom origin)
    (found : session.latencyRecord? settings language = some record)
    (started : session.marks.invocationStart.isSome = true)
    (fetched : session.marks.credentialFetchStart.isSome = true) :
    record.endToEnd = record.preprocessing + record.credentialFetch + record.firstCompletion +
      record.postprocessing := by
  obtain ⟨called, ended⟩ := called_of_latencyRecord? sound found
  obtain ⟨shown, -, endToEnd, preprocessing, fetch, first, -, postprocessing⟩ :=
    spans_of_latencyRecord? found
  rw [endToEnd, preprocessing, fetch, first, postprocessing,
    ← whole.span_eq_add .invocationStart .credentialFetchStart .apiCallStart started fetched called,
    ← whole.span_eq_add .invocationStart .apiCallStart .apiCallEnd started called ended,
    ← whole.span_eq_add .invocationStart .apiCallEnd .firstSuggestionShown started ended shown]

/-- Completing the other pages takes the time from the end of the first call to that of the last
page. -/
theorem pagination_of_latencyRecord? (sound : session.marks.Sound now)
    (whole : session.marks.AreWholeMillisFrom origin)
    (found : session.latencyRecord? settings language = some record) :
    0 ≤ record.allCompletions - record.firstCompletion ∧
      ∃ callEnd ∈ session.marks.apiCallEnd, ∃ paginationEnd ∈ session.marks.allPaginationEnd,
        paginationEnd.since callEnd =
          .ofMillis (record.allCompletions - record.firstCompletion) := by
  obtain ⟨called, ended⟩ := called_of_latencyRecord? sound found
  obtain ⟨-, paged, -, -, -, first, all, -⟩ := spans_of_latencyRecord? found
  have rest : record.allCompletions - record.firstCompletion =
      span (session.marks.get .allPaginationEnd) (session.marks.get .apiCallEnd) := by
    rw [all, first,
      whole.span_eq_add .apiCallStart .apiCallEnd .allPaginationEnd called ended paged]
    exact add_sub_cancel_left _ _
  rw [rest]
  refine ⟨span_nonneg (sound.awaited .allPaginationEnd .apiCallEnd rfl), ?_⟩
  obtain ⟨callEnd, isCallEnd⟩ := Option.isSome_iff_exists.mp ended
  obtain ⟨paginationEnd, isPaginationEnd⟩ := Option.isSome_iff_exists.mp paged
  exact ⟨callEnd, isCallEnd, paginationEnd, isPaginationEnd,
    whole.takes_span _ _ callEnd isCallEnd paginationEnd isPaginationEnd⟩

/-- A latency is as long, end to end, as the one that closing the session would report. -/
theorem endToEnd_of_latencyRecord? (sound : session.marks.Sound now) (later : Instant)
    (found : session.latencyRecord? settings language = some record) :
    session.marks.endToEnd later = record.endToEnd := by
  obtain ⟨shown, -, endToEnd, -⟩ := spans_of_latencyRecord? found
  obtain ⟨instant, isShown⟩ := Option.isSome_iff_exists.mp shown
  rw [sound.endToEnd_eq_span, endToEnd, isShown, show session.marks.firstSuggestionShown = _ from
    isShown, Option.getD_some]
  rfl

end Session

namespace Script

variable {settings : Settings} {clock : Instant} {steps : List Step}

namespace Replay

/-- The clock has moved by all advances of the steps, unless it stands at the end of the
calendar. -/
theorem nanoseconds_clock_run (inside : clock.inCalendar = true)
    (forward : ∀ step ∈ steps, 0 ≤ step.advanced) :
    ((start clock).run settings steps).clock.nanoseconds =
      min Instant.latest.nanoseconds (clock.nanoseconds + (advancedBy steps).nanoseconds) := by
  induction steps using List.reverseRecOn with
  | nil =>
      have bounds := Instant.inCalendar_iff.mp inside
      have nothing : (advancedBy []).nanoseconds = 0 := rfl
      have still : ((start clock).run settings []).clock = clock := rfl
      rw [nothing, still]
      omega
  | append_singleton steps step induction =>
      have before := fun earlier member => forward earlier (List.mem_append_left [step] member)
      have stepForward : 0 ≤ (Span.ofMillis step.advanced).nanoseconds :=
        Int.mul_nonneg (forward step (by simp)) (by decide)
      have reached : ((start clock).run settings steps).clock.inCalendar = true :=
        (timely_run inside before).inside
      have moved := Instant.nanoseconds_advance reached stepForward
      rw [← clock_apply_eq_advance settings step reached, induction before] at moved
      rw [run_concat, nanoseconds_advancedBy_append, advancedBy_singleton]
      refine moved.trans ?_
      omega

/-- From a clock with room for all steps, all marks lie whole milliseconds from the start. -/
theorem areWholeMillisFrom_run (inside : clock.inCalendar = true)
    (forward : ∀ step ∈ steps, 0 ≤ step.advanced)
    (room : clock.nanoseconds + (advancedBy steps).nanoseconds ≤ Instant.latest.nanoseconds) :
    ((start clock).run settings steps).session.marks.AreWholeMillisFrom clock := by
  induction steps using List.reverseRecOn with
  | nil => intro mark instant found; cases mark <;> cases found
  | append_singleton steps step induction =>
      have before := fun earlier member => forward earlier (List.mem_append_left [step] member)
      have stepForward : 0 ≤ (Span.ofMillis step.advanced).nanoseconds :=
        Int.mul_nonneg (forward step (by simp)) (by decide)
      rw [nanoseconds_advancedBy_append, advancedBy_singleton] at room
      have earlierRoom : clock.nanoseconds + (advancedBy steps).nanoseconds ≤
          Instant.latest.nanoseconds := by omega
      -- The clock has not been stopped yet, so only whole milliseconds were added to it.
      have present : Instant.IsWholeMillisFrom clock ((start clock).run settings steps).clock := by
        rw [Instant.IsWholeMillisFrom, nanoseconds_clock_run inside before,
          Int.min_eq_right earlierRoom, add_sub_cancel_left]
        exact Int.dvd_mul_left _ _
      have marks := induction before earlierRoom
      have same := get_marks_gathered settings step ((start clock).run settings steps)
      rw [← marks_next] at same
      rw [run_concat, LatencyMarks.AreWholeMillisFrom, same]
      cases step.mark? with
      | none => exact marks
      | some mark => exact marks.set present mark

end Replay

/-- Wherever a script is started so that its clock never stops at the end of the calendar, no
duration of a latency is truncated, and the parts add up.  And wherever it is started, a latency
is as long, end to end, as what the endpoint would be told if the session were closed now. -/
theorem latency_parts_add_up (settings : Settings) {script : String} {steps : List Step}
    (parsed : parse script = .ok steps) {clock : Instant} (inside : clock.inCalendar = true) :
    let after (before : List Step) := (Replay.start clock).run settings before
    (clock.nanoseconds + (advancedBy steps).nanoseconds ≤ Instant.latest.nanoseconds →
      ∀ before step later, steps = before ++ step :: later →
        let marks := (after before).session.marks
        ∀ record ∈ ((after before).moment settings step).latencies,
          record.IsExact marks ∧
          (marks.invocationStart.isSome = true → marks.credentialFetchStart.isSome = true →
            record.endToEnd = record.preprocessing + record.credentialFetch +
              record.firstCompletion + record.postprocessing) ∧
          0 ≤ record.allCompletions - record.firstCompletion ∧
          ∃ callEnd ∈ marks.apiCallEnd, ∃ paginationEnd ∈ marks.allPaginationEnd,
            paginationEnd.since callEnd =
              .ofMillis (record.allCompletions - record.firstCompletion)) ∧
    ∀ before step later, steps = before ++ step :: later →
      ∀ record ∈ ((after before).moment settings step).latencies,
        (after before).session.marks.endToEnd (after before).clock = record.endToEnd ∧
        ∀ closing, ∀ report ∈ ((after before).moment settings closing).reports,
          report.latency = record.endToEnd := by
  intro after
  have forward {before later : List Step} (split : steps = before ++ later) :
      ∀ step ∈ before, 0 ≤ step.advanced := fun step member =>
    (advanced_of_parse parsed step (split ▸ List.mem_append_left later member)).1
  constructor
  · intro room before step later split marks record member
    have timely : (after before).Timely := Replay.timely_run inside (forward split)
    have spent : (advancedBy steps).nanoseconds =
        (advancedBy before).nanoseconds + (advancedBy (step :: later)).nanoseconds := by
      rw [split]
      simp only [advancedBy, Span.ofMillis, List.map_append, List.sum_append, Int.add_mul]
    have rest : 0 ≤ (advancedBy (step :: later)).nanoseconds :=
      Replay.advancedBy_nonneg fun other isLater =>
        (advanced_of_parse parsed other (split ▸ List.mem_append_right before isLater)).1
    have whole : marks.AreWholeMillisFrom clock :=
      Replay.areWholeMillisFrom_run inside (forward split) (by omega)
    obtain ⟨language, found⟩ := Replay.exists_of_mem_latencies member
    exact ⟨Session.isExact_of_latencyRecord? whole found,
      Session.endToEnd_eq_sum_of_latencyRecord? timely.marks whole found,
      Session.pagination_of_latencyRecord? timely.marks whole found⟩
  · intro before step later split record member
    have timely : (after before).Timely := Replay.timely_run inside (forward split)
    obtain ⟨language, found⟩ := Replay.exists_of_mem_latencies member
    have same := Session.endToEnd_of_latencyRecord? timely.marks (after before).clock found
    refine ⟨same, ?_⟩
    intro closing report reported
    rw [Replay.moment_reports, Option.mem_toList] at reported
    rw [(timely.latency_of_sessionReport? reported).2, ← timely.marks.endToEnd_eq_span, same]

/-- A latency that is measured a nanosecond before a full millisecond, in a session that could be
closed. -/
theorem latency_parts_add_up_between_millis :
    let request := "\x7b\"invocation\":\x7b\"request_id\":\"r\",\"session_id\":\"s\"," ++
      "\"result\":\"succeeded\",\"language\":\"go\"\x7d\x7d" ++ "\n"
    let decisions := "\x7b\"decisions\":\x7b\"request_id\":\"r\",\"session_id\":\"s\"," ++
      "\"suggestions\":[\x7b\"content\":\"x\"\x7d]\x7d\x7d" ++ "\n"
    let call := "\"invocation_start\"\n\x7b\"advance\":[1]\x7d\n\"credential_fetch_start\"\n" ++
      "\x7b\"advance\":[2]\x7d\n\"api_call_start\"\n\x7b\"advance\":[4]\x7d" ++ "\n"
    let response := "\"api_call_end\"\n\x7b\"advance\":[8]\x7d\n\"all_pagination_end\"\n" ++
      "\x7b\"advance\":[16]\x7d\n\"first_suggestion_shown\"" ++ "\n"
    let latency := "\x7b\"client_latency\":[\"go\"]\x7d"
    let before : List Step := [plainRequest "r", .decisions (plainBatch "r" "x" none),
      .invocationStart, .advance 1, .credentialFetchStart, .advance 2, .apiCallStart, .advance 4,
      .apiCallEnd, .advance 8, .allPaginationEnd, .advance 16, .firstSuggestionShown]
    let reported : Step := .clientLatency (some "go")
    let clock : Instant := ⟨999999⟩
    let replay := (Replay.start clock).run plainSettings before
    let latencies := (replay.moment plainSettings reported).latencies
    let reports := (replay.moment plainSettings (.rollup ⟨"s", ""⟩)).reports
    (parse (request ++ (decisions ++ (call ++ (response ++ latency)))) =
        .ok (before ++ [reported]) ∧ clock.inCalendar = true ∧
      clock.nanoseconds + (advancedBy (before ++ [reported])).nanoseconds ≤
        Instant.latest.nanoseconds) ∧
    latencies.map (fun record => (record.endToEnd, record.allCompletions - record.firstCompletion)) =
      [(31, 8)] ∧
    (∀ record ∈ latencies, record.endToEnd = record.preprocessing + record.credentialFetch +
      record.firstCompletion + record.postprocessing) ∧
    reports ≠ [] ∧ ∀ record ∈ latencies, ∀ report ∈ reports, report.latency = record.endToEnd := by
  intro request decisions call response latency before reported clock replay latencies reports
  have parsed : parse (request ++ (decisions ++ (call ++ (response ++ latency)))) =
      .ok (before ++ [reported]) := by
    have first : parse request = .ok [plainRequest "r"] := by decide +kernel
    have second : parse decisions = .ok [.decisions (plainBatch "r" "x" none)] := by decide +kernel
    have third : parse call = .ok ((before.drop 2).take 6) := by decide +kernel
    have fourth : parse response = .ok (before.drop 8) := by decide +kernel
    have fifth : parse latency = .ok [reported] := by decide +kernel
    have whole := parse_append_of_ok (.inr ⟨_, rfl⟩) first (parse_append_of_ok (.inr ⟨_, rfl⟩) second
      (parse_append_of_ok (.inr ⟨_, rfl⟩) third (parse_append_of_ok (.inr ⟨_, rfl⟩) fourth fifth)))
    exact whole
  have inside : clock.inCalendar = true := by decide +kernel
  have room : clock.nanoseconds + (advancedBy (before ++ [reported])).nanoseconds ≤
      Instant.latest.nanoseconds := by decide +kernel
  obtain ⟨exact, closing⟩ := latency_parts_add_up plainSettings parsed inside
  refine ⟨⟨parsed, inside, room⟩, by decide +kernel, ?_, by decide +kernel, ?_⟩
  · intro record member
    exact (exact room before reported [] rfl record member).2.1 (by decide +kernel)
      (by decide +kernel)
  · intro record member
    exact (closing before reported [] rfl record member).2 (.rollup ⟨"s", ""⟩)

end Script
end TriggerLedger
