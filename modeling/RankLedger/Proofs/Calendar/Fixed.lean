import RankLedger.Calendar.Almanac
import RankLedger.Proofs.Calendar.Chapters

set_option autoImplicit false

/-! # Calendars that stay as they are

While the files of a region stay as they are, looking at them leaves what an almanac tells about
them as it is (`Almanac.agrees_current`): a second look is answered from what the first took in
(`DigestCache.load_load`). So what the calendars say about an instant does not depend on the looks
taken before. -/

namespace RankLedger

open Json (Value)

theorem DigestCache.load_load (c : DigestCache) (file : Option Bytes) :
    (c.load file).2.load file = c.load file := by
  cases file with
  | none => rfl
  | some b =>
      cases hheld : c.heldUnder? (Sha256.hex b) with
      | some items => simp only [load, hheld]
      | none =>
          cases hplain : plain c.name (some b) with
          | error f => simp only [load, hheld, hplain]
          | ok items =>
              -- What the first look took in stands under the digest that the second asks for.
              have hload : c.load (some b) =
                  (.ok items,
                    { c with held := some (Sha256.hex b, items), parses := c.parses + 1 }) := by
                simp only [load, hheld, hplain]
              rw [hload]
              simp only [load, heldUnder?, Option.filter, decide_true, if_true, Option.map_some]

namespace Almanac

/-- The second almanac tells about the files what the first tells. -/
structure Agrees (a b : Almanac) (files : CalendarFiles) : Prop where
  region : b.region = a.region
  events : (b.events.load files.events).1 = (a.events.load files.events).1
  chapters : (b.chapters.load files.chapters).1 = (a.chapters.load files.chapters).1

theorem Agrees.refl (a : Almanac) (files : CalendarFiles) : a.Agrees a files := ⟨rfl, rfl, rfl⟩

theorem Agrees.trans {a b c : Almanac} {files : CalendarFiles} (h : a.Agrees b files)
    (h' : b.Agrees c files) : a.Agrees c files :=
  ⟨h'.region.trans h.region, h'.events.trans h.events, h'.chapters.trans h.chapters⟩

/-- What the calendars say about an instant, by what the files hold. -/
theorem current_fst (a : Almanac) (files : CalendarFiles) (now : Int) :
    (a.current files now).1 =
      match (a.events.load files.events).1.map (LiveEntry.first? now) with
      | .error f => .error f
      | .ok none => .ok none
      | .ok (some e) =>
          match e.remaining now with
          | .error why => .error why
          | .ok remaining =>
              if e.kind.hasChapters then
                Halt.lift ((a.chapters.load files.chapters).1.map fun entries =>
                  some (a.snapshot e now remaining (chapterPhases e.event.id now entries)))
              else .ok (some (a.snapshot e now remaining [])) := by
  simp only [current]
  cases hlive : (a.events.load files.events).1.map (LiveEntry.first? now) with
  | error f => rfl
  | ok live =>
      cases live with
      | none => rfl
      | some e =>
          cases hremaining : e.remaining now with
          | error why => simp only [hremaining]
          | ok remaining =>
              simp only [hremaining]
              cases e.kind.hasChapters with
              | false => rfl
              | true =>
                  cases hload : (a.chapters.load files.chapters).1 with
                  | error f => simp [chaptersAt, hload, Except.map, Halt.lift]
                  | ok entries => simp [chaptersAt, hload, Except.map, Halt.lift, snapshot]

/-- Of an almanac, only the region shows in a snapshot. -/
theorem snapshot_eq_of_region {a b : Almanac} (h : b.region = a.region) :
    b.snapshot = a.snapshot := by
  funext e now remaining chapters
  simp only [snapshot, h]

theorem Agrees.current {a b : Almanac} {files : CalendarFiles} (h : a.Agrees b files)
    (now : Int) : (b.current files now).1 = (a.current files now).1 := by
  rw [current_fst, current_fst, h.events, h.chapters, snapshot_eq_of_region h.region]

theorem agrees_current (a : Almanac) (files : CalendarFiles) (now : Int) :
    a.Agrees (a.current files now).2 files := by
  simp only [current]
  split
  · exact ⟨rfl, congrArg Prod.fst (a.events.load_load files.events), rfl⟩
  · exact ⟨rfl, congrArg Prod.fst (a.events.load_load files.events), rfl⟩
  · split
    · exact ⟨rfl, congrArg Prod.fst (a.events.load_load files.events), rfl⟩
    · split
      · exact ⟨rfl, congrArg Prod.fst (a.events.load_load files.events),
          congrArg Prod.fst (a.chapters.load_load files.chapters)⟩
      · exact ⟨rfl, congrArg Prod.fst (a.events.load_load files.events), rfl⟩

/-- A second look at the calendars at the same instant tells what the first told, and changes
nothing. -/
theorem current_current (a : Almanac) (files : CalendarFiles) (now : Int) :
    (a.current files now).2.current files now = a.current files now := by
  cases hlive : (a.events.load files.events).1.map (LiveEntry.first? now) with
  | error f => simp only [current, hlive, DigestCache.load_load]
  | ok live =>
      cases live with
      | none => simp only [current, hlive, DigestCache.load_load]
      | some e =>
          cases hremaining : e.remaining now with
          | error why => simp only [current, hlive, hremaining, DigestCache.load_load]
          | ok remaining =>
              cases hchapters : e.kind.hasChapters with
              | false =>
                  simp only [current, hlive, hremaining, hchapters, Bool.false_eq_true, if_false,
                    DigestCache.load_load]
              | true =>
                  simp only [current, hlive, hremaining, hchapters, if_true, chaptersAt,
                    DigestCache.load_load]

/-! ## The chapters that a snapshot shows -/

/-- The entries of the chapter calendar; none where it cannot be read. -/
def chapterEntries (a : Almanac) (files : CalendarFiles) : List Value :=
  match (a.chapters.load files.chapters).1 with
  | .ok entries => entries
  | .error _ => []

/-- A snapshot is that of the first live entry, with its time left, and with the chapters that the
chapter calendar gives its event if its kind has chapters. -/
theorem exists_first_of_current {a : Almanac} {files : CalendarFiles} {now : Int} {s : Snapshot}
    (h : (a.current files now).1 = .ok (some s)) :
    ∃ entries e remaining, (a.events.load files.events).1 = .ok entries
      ∧ LiveEntry.first? now entries = some e ∧ e.remaining now = .ok remaining
      ∧ s = a.snapshot e now remaining (if e.kind.hasChapters then
        chapterPhases e.event.id now (a.chapterEntries files) else []) := by
  rw [current_fst] at h
  cases hentries : (a.events.load files.events).1 with
  | error f =>
      rw [hentries] at h
      cases h
  | ok entries =>
      simp only [hentries, Except.map] at h
      split at h
      · cases h
      · cases h
      · rename_i e hlive
        split at h
        · cases h
        · rename_i remaining hremaining
          refine ⟨entries, e, remaining, rfl, Except.ok.inj hlive, hremaining, ?_⟩
          split at h
          · rename_i hkind
            rw [if_pos hkind]
            unfold chapterEntries
            cases hload : (a.chapters.load files.chapters).1 with
            | error f =>
                rw [hload] at h
                cases h
            | ok chapters =>
                rw [hload] at h
                exact (Option.some.inj (Except.ok.inj h)).symm
          · rename_i hkind
            rw [if_neg hkind]
            exact (Option.some.inj (Except.ok.inj h)).symm

/-- A snapshot shows the chapters that the calendar gives its event, if its kind has chapters. -/
theorem chapters_of_current {a : Almanac} {files : CalendarFiles} {now : Int} {s : Snapshot}
    (h : (a.current files now).1 = .ok (some s)) :
    s.chapters = if s.kind.hasChapters then
      chapterPhases s.eventId now (a.chapterEntries files) else [] := by
  obtain ⟨entries, e, remaining, -, -, -, rfl⟩ := exists_first_of_current h
  rfl

section Snapshots

variable {a : Almanac} {files : CalendarFiles} {now : Int} {s : Snapshot}
  (hs : (a.current files now).1 = .ok (some s))
include hs

theorem isAscending_of_current : ChapterPhase.IsAscending s.chapters := by
  rw [chapters_of_current hs]
  split
  · exact isAscending_chapterPhases _ _ _
  · exact List.Pairwise.nil

theorem character_of_current {c : ChapterPhase} (hc : c ∈ s.chapters) :
    c.character ∈ chapterCharacters s.eventId (a.chapterEntries files) := by
  rw [chapters_of_current hs] at hc
  split at hc
  · exact mem_chapterCharacters hc
  · cases hc

/-- Once a snapshot shows a chapter ended, a later one of the event does, if it shows chapters. -/
theorem ended_of_current {now' : Int} {s' : Snapshot}
    (hs' : (a.current files now').1 = .ok (some s')) (hid : s'.eventId = s.eventId)
    (hnow : now ≤ now') (hkind : s'.kind.hasChapters = true) {character : Int}
    (hc : ⟨character, .ended⟩ ∈ s.chapters) : ⟨character, .ended⟩ ∈ s'.chapters := by
  rw [chapters_of_current hs', if_pos hkind, hid]
  rw [chapters_of_current hs] at hc
  split at hc
  · exact ended_chapterPhases hnow hc
  · cases hc

end Snapshots

end Almanac

end RankLedger
