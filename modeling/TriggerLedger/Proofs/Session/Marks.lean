import TriggerLedger.Session.Marks
/-!
# The order of latency marks

A mark other than the start of the invocation is set at most once after the start,
to the time at which it is set, and the marks of a response wait for the mark before
them.  So no mark is later than the clock or earlier than the start, and those of a
response are in order.  Only the credential fetch may be marked when the call that
it comes before has already started.
-/

namespace TriggerLedger

namespace Instant

theorem le_refl (instant : Instant) : instant ≤ instant := Int.le_refl _

theorem le_trans {first second third : Instant} (earlier : first ≤ second)
    (later : second ≤ third) : first ≤ third :=
  Int.le_trans earlier later

theorem millisSince_nonneg {earlier later : Instant} (order : earlier ≤ later) :
    0 ≤ later.millisSince earlier :=
  Int.tdiv_nonneg (Int.sub_nonneg_of_le order) (by decide)

end Instant

namespace LatencyMarks

def Mark.all : List Mark :=
  [.invocationStart, .credentialFetchStart, .apiCallStart, .apiCallEnd, .allPaginationEnd,
    .firstSuggestionShown]

variable {marks : LatencyMarks} {now : Instant} {mark other : Mark}

theorem isReady_eq_true_iff :
    marks.isReady mark = true ↔ ∀ first ∈ mark.awaited?, (marks.get first).isSome = true := by
  simp [isReady, Option.all_eq_true]

theorem get_start (now : Instant) (mark : Mark) :
    (start now).get mark = if mark = .invocationStart then some now else none := by
  cases mark <;> rfl

theorem mem_get_start {instant : Instant} (found : instant ∈ (start now).get mark) :
    mark = .invocationStart ∧ instant = now := by
  rw [get_start] at found
  split at found
  case isTrue isStart => exact ⟨isStart, (Option.some.inj found).symm⟩
  case isFalse => cases found

/-- Setting a mark other than the start is an attempt on this mark alone. -/
theorem get_set (notStart : mark ≠ .invocationStart) (other : Mark) :
    (marks.set now mark).get other =
      if other = mark then setOnce (marks.get mark) (marks.isReady mark) now
      else marks.get other := by
  cases mark with
  | invocationStart => exact absurd rfl notStart
  | _ => cases other <;> rfl

theorem setOnce_of_isSome {α : Type} {mark : Option α} (isSet : mark.isSome = true) (ready : Bool)
    (value : α) : setOnce mark ready value = mark := by
  simp [setOnce, isSet]

/-- A mark that is set is frozen until the invocation starts over. -/
theorem get_set_of_isSome (notStart : mark ≠ .invocationStart)
    (isSet : (marks.get other).isSome = true) :
    (marks.set now mark).get other = marks.get other := by
  rw [get_set notStart]
  split
  case isTrue same =>
    subst same
    exact setOnce_of_isSome isSet _ _
  case isFalse => rfl

/-- After an attempt, a mark is what it was, or it is new and set to the present. -/
theorem mem_get_set {instant : Instant} (notStart : mark ≠ .invocationStart)
    (found : instant ∈ (marks.set now mark).get other) :
    instant ∈ marks.get other ∨ instant = now ∧ marks.isReady other = true := by
  cases before : marks.get other with
  | some earlier =>
      rw [get_set_of_isSome notStart (by simp [before]), before] at found
      exact .inl found
  | none =>
      rw [get_set notStart] at found
      split at found
      case isTrue same =>
        subst same
        rw [before, setOnce] at found
        split at found
        case isTrue => cases found
        case isFalse due => exact .inr ⟨(Option.some.inj found).symm, by simpa using due⟩
      case isFalse =>
        rw [before] at found
        cases found

theorem eq_of_get {others : LatencyMarks} (same : others.get = marks.get)
    (sameResponse : others.firstResponse = marks.firstResponse) : others = marks := by
  have sameMark (mark : Mark) : others.get mark = marks.get mark := congrFun same mark
  rw [LatencyMarks.mk.injEq]
  exact ⟨sameMark .invocationStart, sameMark .credentialFetchStart, sameMark .apiCallStart,
    sameMark .apiCallEnd, sameMark .allPaginationEnd, sameMark .firstSuggestionShown, sameResponse⟩

theorem firstResponse_set (notStart : mark ≠ .invocationStart) :
    (marks.set now mark).firstResponse = marks.firstResponse := by
  cases mark with
  | invocationStart => exact absurd rfl notStart
  | _ => rfl

theorem get_markFirstResponse (marks : LatencyMarks) (requestId : String) :
    (marks.markFirstResponse requestId).get = marks.get :=
  funext fun mark => by cases mark <;> rfl

theorem setOnce_eq {α : Type} (mark : Option α) (ready : Bool) (value : α) :
    setOnce mark ready value = if isDue mark ready then some value else mark := by
  cases mark <;> cases ready <;> rfl

theorem isDue_eq_true_iff {α : Type} {mark : Option α} {ready : Bool} :
    isDue mark ready = true ↔ mark = none ∧ ready = true := by
  cases mark <;> simp [isDue]

/-- An attempt to set a mark says that it was set exactly if it has changed the marks. -/
theorem attempt_snd_iff (now : Instant) (marks : LatencyMarks) (notStart : mark ≠ .invocationStart) :
    (marks.attempt now mark).2 = true ↔ (marks.attempt now mark).1 ≠ marks := by
  have answer : (marks.attempt now mark).2 = isDue (marks.get mark) (marks.isReady mark) := by
    simp [attempt, notStart]
  rw [answer]
  constructor
  · intro due same
    have now_set : (marks.set now mark).get mark = some now := by
      rw [get_set notStart, if_pos rfl, setOnce_eq, if_pos due]
    rw [show marks.set now mark = marks from same, (isDue_eq_true_iff.mp due).1] at now_set
    cases now_set
  · intro changed
    refine Decidable.byContradiction fun notDue =>
      changed (eq_of_get (funext fun other => ?_) (firstResponse_set notStart))
    change (marks.set now mark).get other = marks.get other
    rw [get_set notStart, setOnce_eq, if_neg notDue]
    split
    case isTrue same => rw [same]
    case isFalse => rfl

theorem attemptFirstResponse_snd_iff (marks : LatencyMarks) (requestId : String) :
    (marks.attemptFirstResponse requestId).2 = true ↔
      (marks.attemptFirstResponse requestId).1 ≠ marks := by
  change isDue marks.firstResponse true = true ↔ marks.markFirstResponse requestId ≠ marks
  have remembered : (marks.markFirstResponse requestId).firstResponse =
      setOnce marks.firstResponse true requestId := rfl
  rw [setOnce_eq] at remembered
  constructor
  · intro due same
    rw [if_pos due, same, (isDue_eq_true_iff.mp due).1] at remembered
    cases remembered
  · intro changed
    refine Decidable.byContradiction fun notDue => ?_
    rw [if_neg notDue] at remembered
    exact changed (eq_of_get (get_markFirstResponse marks requestId) remembered)

/-- What every mark that is set waited for is set, too. -/
def IsGrounded (marks : LatencyMarks) : Prop :=
  ∀ mark, (marks.get mark).isSome = true → marks.isReady mark = true

namespace IsGrounded

theorem blank : blank.IsGrounded := by
  intro mark isSet
  cases mark <;> cases isSet

theorem of_get {others : LatencyMarks} (same : others.get = marks.get)
    (grounded : marks.IsGrounded) : others.IsGrounded := by
  intro mark isSet
  rw [same] at isSet
  have ready := grounded mark isSet
  rwa [isReady, ← same] at ready

theorem start (now : Instant) : (start now).IsGrounded := by
  intro mark isSet
  obtain ⟨instant, found⟩ := Option.isSome_iff_exists.mp isSet
  rw [(mem_get_start found).1]
  rfl

/-- A mark that is set stays set, and with it what other marks have waited for. -/
theorem set (grounded : marks.IsGrounded) (now : Instant) (mark : Mark) :
    (marks.set now mark).IsGrounded := by
  by_cases isStart : mark = .invocationStart
  · subst isStart
    exact IsGrounded.start now
  · intro other isSet
    obtain ⟨instant, found⟩ := Option.isSome_iff_exists.mp isSet
    have ready : marks.isReady other = true := by
      rcases mem_get_set isStart found with old | ⟨-, ready⟩
      · exact grounded other (Option.isSome_of_mem old)
      · exact ready
    rw [isReady_eq_true_iff] at ready ⊢
    intro first isAwaited
    rw [get_set_of_isSome isStart (ready first isAwaited)]
    exact ready first isAwaited

end IsGrounded

/-- Where both marks are set, the first is not later than the second. -/
def Precedes (first second : Option Instant) : Prop :=
  ∀ earlier ∈ first, ∀ later ∈ second, earlier ≤ later

theorem Precedes.trans {first second third : Option Instant} (earlier : Precedes first second)
    (later : Precedes second third) (between : third.isSome = true → second.isSome = true) :
    Precedes first third := by
  intro start isStart finish isFinish
  obtain ⟨middle, isMiddle⟩ := Option.isSome_iff_exists.mp
    (between (Option.isSome_iff_exists.mpr ⟨finish, isFinish⟩))
  exact Instant.le_trans (earlier start isStart middle isMiddle)
    (later middle isMiddle finish isFinish)

theorem span_nonneg {earlier later : Option Instant} (order : Precedes earlier later) :
    0 ≤ span later earlier := by
  cases later with
  | none => exact Int.le_refl 0
  | some later =>
      cases earlier with
      | none => exact Int.le_refl 0
      | some earlier => exact Instant.millisSince_nonneg (order earlier rfl later rfl)

/-- What holds of marks that are set under a clock that never goes back. -/
structure Sound (now : Instant) (marks : LatencyMarks) : Prop where
  past : ∀ mark, ∀ instant ∈ marks.get mark, instant ≤ now
  started : ∀ mark, Precedes (marks.get .invocationStart) (marks.get mark)
  ready : ∀ mark, (marks.get mark).isSome = true → marks.isReady mark = true
  awaited : ∀ mark, ∀ first ∈ mark.awaited?, Precedes (marks.get first) (marks.get mark)

namespace Sound

theorem blank (now : Instant) : blank.Sound now where
  past mark instant found := by cases mark <;> cases found
  started mark := by cases mark <;> nofun
  ready := IsGrounded.blank
  awaited mark first _ := by cases first <;> nofun

theorem of_get {others : LatencyMarks} (same : others.get = marks.get) (sound : marks.Sound now) :
    others.Sound now := by
  obtain ⟨past, started, ready, awaited⟩ := sound
  constructor
  · rwa [same]
  · rwa [same]
  · exact IsGrounded.of_get same ready
  · rwa [same]

theorem later {next : Instant} (sound : marks.Sound now) (order : now ≤ next) :
    marks.Sound next :=
  { sound with
    past := fun mark instant found => Instant.le_trans (sound.past mark instant found) order }

theorem start (now : Instant) : (start now).Sound now := by
  constructor
  · rintro mark instant found
    rw [(mem_get_start found).2]
    exact now.le_refl
  · intro mark first isFirst second isSecond
    rw [(mem_get_start isFirst).2, (mem_get_start isSecond).2]
    exact now.le_refl
  · exact IsGrounded.start now
  · intro mark first isAwaited earlier _ later isLater
    rw [(mem_get_start isLater).1] at isAwaited
    cases isAwaited

/-- A mark that is set now comes after all others, and one that was set before keeps its place. -/
theorem set (sound : marks.Sound now) (mark : Mark) : (marks.set now mark).Sound now := by
  by_cases isStart : mark = .invocationStart
  · subst isStart
    exact Sound.start now
  have past (other : Mark) : ∀ instant ∈ (marks.set now mark).get other, instant ≤ now := by
    intro instant found
    rcases mem_get_set isStart found with old | ⟨rfl, -⟩
    · exact sound.past other instant old
    · exact instant.le_refl
  have firstKept {other first : Mark} (ready : marks.isReady other = true)
      (isAwaited : first ∈ other.awaited?) :
      (marks.set now mark).get first = marks.get first ∧ (marks.get first).isSome = true := by
    have isSet := isReady_eq_true_iff.mp ready first isAwaited
    exact ⟨get_set_of_isSome isStart isSet, isSet⟩
  refine ⟨past, ?_, ?_, ?_⟩
  · intro other first isFirst second isSecond
    rcases mem_get_set isStart isSecond with old | ⟨rfl, -⟩
    · rw [get_set isStart, if_neg (Ne.symm isStart)] at isFirst
      exact sound.started other first isFirst second old
    · exact past _ first isFirst
  · exact IsGrounded.set sound.ready now mark
  · intro other first isAwaited earlier isEarlier later isLater
    rcases mem_get_set isStart isLater with old | ⟨rfl, -⟩
    · have ready := sound.ready other (Option.isSome_of_mem old)
      rw [(firstKept ready isAwaited).1] at isEarlier
      exact sound.awaited other first isAwaited earlier isEarlier later old
    · exact past _ earlier isEarlier

end Sound

/-- The latency of sound marks ends with the first suggestion shown, or now if there is none. -/
theorem Sound.endToEnd_eq_span (sound : marks.Sound now) (later : Instant) :
    marks.endToEnd later =
      span (some (marks.firstSuggestionShown.getD later)) marks.invocationStart := by
  have order := sound.started .firstSuggestionShown
  simp only [get] at order
  unfold endToEnd span
  cases started : marks.invocationStart with
  | none => rfl
  | some start =>
      cases ended : marks.firstSuggestionShown with
      | none => rfl
      | some shown =>
          have forward := Instant.millisSince_nonneg (order start started shown ended)
          simp [forward]

theorem Sound.endToEnd_nonneg (sound : marks.Sound now) : 0 ≤ marks.endToEnd now := by
  rw [sound.endToEnd_eq_span]
  refine span_nonneg ?_
  intro start isStart finish isFinish
  obtain rfl := Option.some.inj isFinish
  cases ended : marks.firstSuggestionShown with
  | none => exact sound.past .invocationStart start isStart
  | some shown => exact sound.started .firstSuggestionShown start isStart shown ended

end LatencyMarks
end TriggerLedger
