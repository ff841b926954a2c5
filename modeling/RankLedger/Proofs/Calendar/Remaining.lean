import RankLedger.Proofs.Calendar.Live
import RankLedger.Proofs.Calendar.Windows

set_option autoImplicit false

/-! # The time that is left

The time left of an event is told while it is ongoing, in whole seconds. The times of a calendar are
any 64-bit integers, so the difference of two of them may be none; but scores of an ongoing event
freeze later than now, so this takes an instant before 1970
(`LiveEntry.remaining_eq_overflow_iff`). Of all entries of the calendar only the one that is told
counts: `Almanac.time_left_told` says just when the almanac comes to no answer for want of a
difference, and what the seconds are in all answers. -/

namespace RankLedger

open Json (Value)

namespace Word

/-- A positive difference that is no word is too great. -/
theorem sub?_eq_none_iff_of_lt {a b : Int} (h : b < a) : sub? a b = none ↔ greatest < a - b := by
  rw [sub?_eq_none_iff, Fits, least]
  omega

end Word

/-- A list is not read anew from a text with the digest under which it is held. -/
theorem DigestCache.load_of_held {c : DigestCache} {b : Bytes} {items : List Value}
    (h : c.held = some (Sha256.hex b, items)) : (c.load (some b)).1 = .ok items := by
  simp [load, heldUnder?, h, Option.filter]

/-- The times of an entry are words. -/
theorem CalendarEvent.fits_window {v : Value} {event : CalendarEvent}
    (h : CalendarEvent.ofValue? v = some event) : event.window.Fits := by
  unfold ofValue? at h
  split at h
  · obtain ⟨id, -, h⟩ := Option.bind_eq_some_iff.1 h
    obtain ⟨kindName, -, h⟩ := Option.bind_eq_some_iff.1 h
    obtain ⟨start, hstart, h⟩ := Option.bind_eq_some_iff.1 h
    obtain ⟨aggregate, haggregate, h⟩ := Option.bind_eq_some_iff.1 h
    obtain ⟨closed, hclosed, h⟩ := Option.bind_eq_some_iff.1 h
    obtain ⟨assetBundle, -, h⟩ := Option.bind_eq_some_iff.1 h
    obtain rfl := Option.some.inj h
    exact ⟨Value.fits_of_int64? hstart, Value.fits_of_int64? haggregate,
      Value.fits_of_int64? hclosed⟩
  · cases h

namespace LiveEntry

/-- These are the whole seconds from an instant to the freeze of scores. -/
def IsLeft (event : CalendarEvent) (now seconds : Int) : Prop :=
  0 ≤ seconds ∧ 1000 * seconds ≤ event.window.aggregate - now
    ∧ event.window.aggregate - now < 1000 * (seconds + 1)

theorem isLeft_tdiv {event : CalendarEvent} {now : Int} (h : now < event.window.aggregate) :
    IsLeft event now ((event.window.aggregate - now).tdiv 1000) := by
  have hleft : 0 ≤ event.window.aggregate - now := by omega
  rw [Int.tdiv_eq_ediv_of_nonneg hleft]
  unfold IsLeft
  omega

section Remaining

variable {e : LiveEntry} {now : Int}

/-- The time left has no value just if the event is ongoing and its freeze is too far away. -/
theorem remaining_eq_overflow_iff :
    e.remaining now = .error .overflow ↔
      e.phase now = .ongoing ∧ Word.greatest < e.event.window.aggregate - now := by
  unfold remaining
  by_cases hphase : e.phase now = .ongoing
  · have hlt := EventWindow.lt_aggregate_of_ongoing hphase
    rw [if_pos hphase, ← Word.sub?_eq_none_iff_of_lt hlt]
    cases hsub : Word.sub? e.event.window.aggregate now with
    | none => simp [hphase]
    | some left => simp
  · simp [hphase]

/-- Seconds are told just of an ongoing event. -/
theorem remaining_of_ok {remaining : Option Int} (h : e.remaining now = .ok remaining) :
    (remaining.isSome = true ↔ e.phase now = .ongoing)
      ∧ ∀ seconds, remaining = some seconds → IsLeft e.event now seconds := by
  unfold LiveEntry.remaining at h
  by_cases hphase : e.phase now = .ongoing
  · rw [if_pos hphase] at h
    cases hsub : Word.sub? e.event.window.aggregate now with
    | none =>
        rw [hsub] at h
        cases h
    | some left =>
        rw [hsub] at h
        obtain rfl := Except.ok.inj h
        refine ⟨by simp [hphase], ?_⟩
        rintro seconds hseconds
        obtain rfl := Option.some.inj hseconds
        obtain ⟨-, rfl⟩ := Word.sub?_eq_some_iff.1 hsub
        exact isLeft_tdiv (EventWindow.lt_aggregate_of_ongoing hphase)
  · rw [if_neg hphase] at h
    obtain rfl := Except.ok.inj h
    exact ⟨by simp [hphase], fun seconds hseconds => nomatch hseconds⟩

end Remaining

end LiveEntry

namespace Almanac

section Told

variable {a : Almanac} {files : CalendarFiles} {now : Int}

/-- Without an event calendar there is nothing to subtract. -/
theorem current_of_load_error {f : Failure} (h : (a.events.load files.events).1 = .error f) :
    (a.current files now).1 = .error (.failure f) := by
  rw [current_fst, h]
  rfl

/-- The chapter calendar may fail, but there is nothing to subtract in it. -/
theorem lift_map_ne_overflow {β γ : Type} (x : Except Failure β) (f : β → γ) :
    Halt.lift (x.map f) ≠ .error .overflow := by
  cases x <;> simp [Halt.lift, Except.map]

variable {entries : List Value} (hentries : (a.events.load files.events).1 = .ok entries)
include hentries

theorem current_eq_overflow_iff :
    (a.current files now).1 = .error .overflow ↔
      ∃ e, LiveEntry.first? now entries = some e ∧ e.remaining now = .error .overflow := by
  rw [current_of_entries hentries]
  cases hfirst : LiveEntry.first? now entries with
  | none => simp
  | some e =>
      cases hremaining : e.remaining now with
      | error why =>
          obtain rfl := LiveEntry.eq_overflow_of_remaining hremaining
          simp [hremaining]
      | ok remaining =>
          have hnot : ¬ ∃ e', some e = some e' ∧ e'.remaining now = .error .overflow := by
            rintro ⟨e', he, hoverflow⟩
            obtain rfl := Option.some.inj he
            rw [hremaining] at hoverflow
            cases hoverflow
          refine iff_of_false (fun hoverflow => ?_) hnot
          simp only [hremaining] at hoverflow
          split at hoverflow
          · exact lift_map_ne_overflow _ _ hoverflow
          · cases hoverflow

end Told

/-- Whatever an almanac holds, whatever the calendars, and whatever the instant:

* there is no answer for want of a difference just if the entry that is told is that of an ongoing
  event, and its time left, in thousandths of a second, is greater than all words;
* this does not happen since 1970;
* in an answer, the first entry that counts is told, seconds are left just if its phase is ongoing,
  and then they are the whole seconds until scores freeze. -/
theorem time_left_told (a : Almanac) (files : CalendarFiles) (now : Int) :
    ((a.current files now).1 = .error .overflow ↔
      ∃ entries v event kind, (a.events.load files.events).1 = .ok entries
        ∧ LiveEntry.IsFirst now entries v event kind ∧ event.window.phaseAt now = .ongoing
        ∧ Word.greatest < event.window.aggregate - now)
    ∧ (0 ≤ now → (a.current files now).1 ≠ .error .overflow)
    ∧ ∀ s, (a.current files now).1 = .ok (some s) →
      ∃ entries v event kind, (a.events.load files.events).1 = .ok entries
        ∧ LiveEntry.IsFirst now entries v event kind ∧ s.Shows a.region now v event kind
        ∧ (s.remaining.isSome = true ↔ s.phase = .ongoing)
        ∧ ∀ seconds, s.remaining = some seconds → 0 ≤ seconds
          ∧ 1000 * seconds ≤ event.window.aggregate - now
          ∧ event.window.aggregate - now < 1000 * (seconds + 1) := by
  have hoverflow : (a.current files now).1 = .error .overflow ↔
      ∃ entries v event kind, (a.events.load files.events).1 = .ok entries
        ∧ LiveEntry.IsFirst now entries v event kind ∧ event.window.phaseAt now = .ongoing
        ∧ Word.greatest < event.window.aggregate - now := by
    constructor
    · intro h
      cases hentries : (a.events.load files.events).1 with
      | error f =>
          rw [current_of_load_error hentries] at h
          cases h
      | ok entries =>
          obtain ⟨e, hfirst, hremaining⟩ := (current_eq_overflow_iff hentries).1 h
          exact ⟨entries, e.detail, e.event, e.kind, rfl,
            LiveEntry.first?_eq_some_iff.1 hfirst, LiveEntry.remaining_eq_overflow_iff.1 hremaining⟩
    · rintro ⟨entries, v, event, kind, hentries, hfirst, hongoing⟩
      exact (current_eq_overflow_iff hentries).2 ⟨_, LiveEntry.first?_eq_some_iff.2 hfirst,
        LiveEntry.remaining_eq_overflow_iff.2 hongoing⟩
  refine ⟨hoverflow, ?since, ?told⟩
  case since =>
    intro hnow h
    obtain ⟨entries, v, event, kind, -, ⟨_, _, -, -, htells⟩, -, hgreat⟩ := hoverflow.1 h
    have haggregate : event.window.aggregate ≤ Word.greatest :=
      (CalendarEvent.fits_window htells.reads).2.1.2
    omega
  case told =>
    intro s h
    obtain ⟨entries, e, remaining, hentries, hfirst, hremaining, rfl⟩ := exists_first_of_current h
    obtain ⟨hphase, hleft⟩ := LiveEntry.remaining_of_ok hremaining
    exact ⟨entries, e.detail, e.event, e.kind, hentries, LiveEntry.first?_eq_some_iff.1 hfirst,
      a.shows_snapshot now e.detail e.event e.kind remaining _, hphase, hleft⟩

/-- The entry of an event that starts before 1970, and whose scores freeze at the end of time. -/
def endlessEntry : Value :=
  .array [.int 9, .text "marathon", .int (-5), .int Word.greatest, .int Word.greatest, .text "e"]

/-- The event of that entry. -/
def endlessEvent : CalendarEvent := ⟨9, "marathon", ⟨-5, Word.greatest, Word.greatest⟩, "e"⟩

/-- A calendar with a number and that entry. -/
def endlessFiles : CalendarFiles where
  events := some (Bytes.ofText
    "[7,[9,\"marathon\",-5,9223372036854775807,9223372036854775807,\"e\"]]")

/-- An almanac that has taken in that calendar. -/
def endlessAlmanac : Almanac where
  region := .jp
  events :=
    { name := "events.json"
      held := endlessFiles.events.map fun b => (Sha256.hex b, [.int 7, endlessEntry]) }

/-- Just before 1970 the time left is greater than all words; from then on it is told. -/
theorem time_left_told_endless :
    (endlessAlmanac.current endlessFiles (-1)).1 = .error .overflow
      ∧ (endlessAlmanac.current endlessFiles 0).1 ≠ .error .overflow
      ∧ ∃ s, (endlessAlmanac.current endlessFiles 0).1 = .ok (some s)
        ∧ s.remaining = some 9223372036854775 := by
  have hentries : (endlessAlmanac.events.load endlessFiles.events).1
      = .ok [.int 7, endlessEntry] :=
    DigestCache.load_of_held rfl
  have hfirst : ∀ now, endlessEvent.window.isLive now = true →
      LiveEntry.IsFirst now [.int 7, endlessEntry] endlessEntry endlessEvent .marathon := by
    refine fun now hlive => ⟨[.int 7], [], rfl, fun w hw => ?_, ⟨by decide, hlive, by decide⟩⟩
    obtain rfl := List.mem_singleton.1 hw
    exact LiveEntry.ofValue?_eq_none_iff.1 rfl
  obtain ⟨hoverflow, -, -⟩ := time_left_told endlessAlmanac endlessFiles (-1)
  obtain ⟨-, hsince, htold⟩ := time_left_told endlessAlmanac endlessFiles 0
  have hrange := hsince (Int.le_refl 0)
  have hlive := hfirst 0 (by decide)
  obtain ⟨_, hs⟩ := current_of_isFirst hentries hlive hrange
  refine ⟨hoverflow.2 ⟨_, _, _, _, hentries, hfirst (-1) (by decide), by decide, by decide⟩,
    hrange, _, hs, ?_⟩
  obtain ⟨entries, v, event, kind, hentries', hlive', hshows, hsome, hleft⟩ := htold _ hs
  -- The entry that is told is the first that counts.
  obtain rfl := Except.ok.inj (hentries.symm.trans hentries')
  have hsame := (LiveEntry.first?_eq_some_iff.2 hlive).symm.trans
    (LiveEntry.first?_eq_some_iff.2 hlive')
  obtain ⟨rfl, -, -⟩ := LiveEntry.mk.inj (Option.some.inj hsame)
  have hphase := hshows.phase.trans (show endlessEvent.window.phaseAt 0 = .ongoing by decide)
  obtain ⟨seconds, hseconds⟩ := Option.isSome_iff_exists.1 (hsome.2 hphase)
  obtain ⟨-, hle, hlt⟩ := hleft seconds hseconds
  have haggregate : endlessEvent.window.aggregate = 9223372036854775807 := rfl
  rw [hseconds, Option.some.injEq]
  omega

end Almanac

end RankLedger
