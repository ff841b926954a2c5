import Mathlib
import RankLedger.Proofs.Calendar.Fixed

set_option autoImplicit false

/-! # The event that is told

Of the entries of the event calendar only those count that can be read, are live and have a known
kind (`LiveEntry.Counts`). The first of them is told, and all others could as well not be there: the
look-up comes to the same on the entries that count alone (`LiveEntry.first?_eq_of_filter_eq`).

The chapter calendar comes in only for an event that has chapters. Its entries are taken in one after
another, and each takes the place of an earlier one of its character (`chapterPhases_concat`), so the
last entry of each character stands in the end (`chaptersOf_chapterPhases`). -/

namespace RankLedger

open Json (Value)

/-! ## Entries that count -/

namespace LiveEntry

/-- The entry has the fields of this event, which is live at the instant and of this kind. -/
structure Tells (now : Int) (v : Value) (event : CalendarEvent) (kind : EventKind) : Prop where
  reads : CalendarEvent.ofValue? v = some event
  live : event.window.isLive now = true
  known : EventKind.ofName? event.kindName = some kind

/-- The entry can be read, is live, and has a known kind. -/
def Counts (now : Int) (v : Value) : Prop := ∃ event kind, Tells now v event kind

/-- The first entry that counts is this one, of this event and kind. -/
def IsFirst (now : Int) (entries : List Value) (v : Value) (event : CalendarEvent)
    (kind : EventKind) : Prop :=
  ∃ before after, entries = before ++ v :: after ∧ (∀ w ∈ before, ¬ Counts now w)
    ∧ Tells now v event kind

section Entries

variable {now : Int} {v : Value}

theorem ofValue?_of_tells {event : CalendarEvent} {kind : EventKind}
    (h : Tells now v event kind) : ofValue? now v = some ⟨event, kind, v⟩ := by
  simp [ofValue?, h.reads, h.live, h.known]

theorem tells_of_ofValue? {e : LiveEntry} (h : ofValue? now v = some e) :
    Tells now v e.event e.kind ∧ e.detail = v := by
  unfold ofValue? at h
  obtain ⟨event, hevent, h⟩ := Option.bind_eq_some_iff.1 h
  split at h
  · rename_i hlive
    obtain ⟨kind, hkind, h⟩ := Option.bind_eq_some_iff.1 h
    obtain rfl := Option.some.inj h
    exact ⟨⟨hevent, hlive, hkind⟩, rfl⟩
  · cases h

theorem counts_iff : Counts now v ↔ (ofValue? now v).isSome = true := by
  rw [Option.isSome_iff_exists]
  constructor
  · rintro ⟨event, kind, h⟩
    exact ⟨_, ofValue?_of_tells h⟩
  · rintro ⟨e, he⟩
    exact ⟨e.event, e.kind, (tells_of_ofValue? he).1⟩

theorem ofValue?_eq_none_iff : ofValue? now v = none ↔ ¬ Counts now v := by
  rw [counts_iff, Bool.not_eq_true, Option.isSome_eq_false_iff, Option.isNone_iff_eq_none]

instance : DecidablePred (Counts now) := fun _ => decidable_of_iff _ counts_iff.symm

variable {entries : List Value}

theorem first?_eq_some_iff {event : CalendarEvent} {kind : EventKind} :
    first? now entries = some ⟨event, kind, v⟩ ↔ IsFirst now entries v event kind := by
  unfold first?
  rw [List.findSome?_eq_some_iff]
  constructor
  · rintro ⟨before, w, after, hsplit, hw, hbefore⟩
    obtain ⟨htells, rfl⟩ := tells_of_ofValue? hw
    exact ⟨before, after, hsplit, fun w hw => ofValue?_eq_none_iff.1 (hbefore w hw), htells⟩
  · rintro ⟨before, after, hsplit, hbefore, htells⟩
    exact ⟨before, v, after, hsplit, ofValue?_of_tells htells,
      fun w hw => ofValue?_eq_none_iff.2 (hbefore w hw)⟩

theorem first?_eq_none_iff : first? now entries = none ↔ ∀ w ∈ entries, ¬ Counts now w := by
  unfold first?
  rw [List.findSome?_eq_none_iff]
  exact forall₂_congr fun _ _ => ofValue?_eq_none_iff

theorem first?_filter (entries : List Value) :
    first? now (entries.filter fun w => Counts now w) = first? now entries := by
  unfold first?
  induction entries with
  | nil => rfl
  | cons w entries ih =>
      by_cases hw : Counts now w
      · obtain ⟨e, he⟩ := Option.isSome_iff_exists.1 (counts_iff.1 hw)
        rw [List.filter_cons_of_pos (by simpa using hw), List.findSome?_cons, List.findSome?_cons,
          he]
      · rw [List.filter_cons_of_neg (by simpa using hw), List.findSome?_cons,
          ofValue?_eq_none_iff.2 hw, ih]

/-- Entries that do not count may come and go anywhere. -/
theorem first?_eq_of_filter_eq {entries' : List Value}
    (h : entries'.filter (fun w => Counts now w) = entries.filter fun w => Counts now w) :
    first? now entries' = first? now entries := by
  rw [← first?_filter entries', h, first?_filter]

end Entries

theorem eq_overflow_of_remaining {e : LiveEntry} {now : Int} {why : Halt}
    (h : e.remaining now = .error why) : why = .overflow := by
  unfold remaining at h
  split at h
  · split at h
    · cases h
    · exact (Except.error.inj h).symm
  · cases h

end LiveEntry

theorem EventKind.hasChapters_iff {kind : EventKind} :
    kind.hasChapters = true ↔ kind = .worldBloom := by
  cases kind <;> decide

/-! ## Entries of chapters -/

namespace ChapterPhase

/-- Placed among chapters in ascending order, a chapter replaces the one of its character. -/
theorem mem_place_iff {ds : List ChapterPhase} (h : IsAscending ds)
    {c d : ChapterPhase} : d ∈ place c ds ↔ d = c ∨ d ∈ ds ∧ d.character ≠ c.character := by
  induction ds with
  | nil => simp [place]
  | cons e ds ih =>
      obtain ⟨he, hds⟩ := List.pairwise_cons.1 h
      unfold place
      split
      · rename_i hlt
        -- All that stand behind have greater characters.
        have hne : ∀ d' ∈ e :: ds, d'.character ≠ c.character := by
          intro d' hd'
          rcases List.mem_cons.1 hd' with rfl | hd'
          · omega
          · have hlt' := he d' hd'
            omega
        rw [List.mem_cons]
        exact or_congr_right ⟨fun hd => ⟨hd, hne d hd⟩, And.left⟩
      · split
        · rename_i heq
          have hne : ∀ d' ∈ ds, d'.character ≠ c.character := by
            intro d' hd'
            have hlt' := he d' hd'
            omega
          rw [List.mem_cons, List.mem_cons]
          refine or_congr_right ⟨fun hd => ⟨Or.inr hd, hne d hd⟩, ?_⟩
          rintro ⟨rfl | hd, hd'⟩
          · exact absurd heq.symm hd'
          · exact hd
        · rename_i hlt hne
          rw [List.mem_cons, ih hds, List.mem_cons]
          constructor
          · rintro (rfl | rfl | ⟨hd, hd'⟩)
            · exact Or.inr ⟨Or.inl rfl, Ne.symm hne⟩
            · exact Or.inl rfl
            · exact Or.inr ⟨Or.inr hd, hd'⟩
          · rintro (rfl | ⟨rfl | hd, hd'⟩)
            · exact Or.inr (Or.inl rfl)
            · exact Or.inl rfl
            · exact Or.inr (Or.inr ⟨hd, hd'⟩)

end ChapterPhase

/-- The last entry of the chapter calendar that can be read, and is that of this event and
character. -/
def lastChapter? (eventId character : Int) (entries : List Value) : Option CalendarChapter :=
  ((entries.filterMap CalendarChapter.ofValue?).filter fun c =>
    c.eventId = eventId ∧ c.character = character).getLast?

/-- The chapters are those that entries give the event, in strictly ascending order of characters,
each with the phase of its last entry. -/
structure ChaptersOf (eventId now : Int) (entries : List Value) (cs : List ChapterPhase) :
    Prop where
  ascending : cs.Pairwise fun c d => c.character < d.character
  characters : ∀ character, (∃ p ∈ cs, p.character = character) ↔
    ∃ v ∈ entries, ∃ c, CalendarChapter.ofValue? v = some c ∧ c.eventId = eventId
      ∧ c.character = character
  mem_iff : ∀ p, p ∈ cs ↔
    ∃ c, lastChapter? eventId p.character entries = some c ∧ p.phase = c.window.phaseAt now

section Chapters

variable (eventId now : Int)

theorem lastChapter?_concat (character : Int) (entries : List Value) (v : Value) :
    lastChapter? eventId character (entries ++ [v]) =
      match CalendarChapter.ofValue? v with
      | some c =>
          if c.eventId = eventId ∧ c.character = character then some c
          else lastChapter? eventId character entries
      | none => lastChapter? eventId character entries := by
  unfold lastChapter?
  rw [List.filterMap_append]
  cases hv : CalendarChapter.ofValue? v with
  | none => simp [hv]
  | some c =>
      by_cases hc : c.eventId = eventId ∧ c.character = character
      · simp [hv, hc]
      · simp [hv, hc]

/-- An entry puts a chapter in its place if it is one of the event. -/
theorem chapterPhases_concat (entries : List Value) (v : Value) :
    chapterPhases eventId now (entries ++ [v]) =
      match CalendarChapter.ofValue? v with
      | some c =>
          if c.eventId = eventId then
            ChapterPhase.place ⟨c.character, c.window.phaseAt now⟩
              (chapterPhases eventId now entries)
          else chapterPhases eventId now entries
      | none => chapterPhases eventId now entries := by
  unfold chapterPhases
  simp only [List.filterMap_append, List.filter_append, List.foldl_append]
  cases hv : CalendarChapter.ofValue? v with
  | none => simp [hv]
  | some c =>
      by_cases hc : c.eventId = eventId
      · simp [hv, hc]
      · simp [hv, hc]

theorem mem_chapterPhases_iff (entries : List Value) (p : ChapterPhase) :
    p ∈ chapterPhases eventId now entries ↔
      ∃ c, lastChapter? eventId p.character entries = some c
        ∧ p.phase = c.window.phaseAt now := by
  -- From the end: the last entry is placed last, and is the last of its own character.
  induction entries using List.reverseRecOn with
  | nil => simp [chapterPhases, lastChapter?]
  | append_singleton entries v ih =>
      rw [chapterPhases_concat, lastChapter?_concat]
      cases hv : CalendarChapter.ofValue? v with
      | none => exact ih
      | some c =>
          by_cases hevent : c.eventId = eventId
          · simp only [hevent, if_true, true_and]
            rw [ChapterPhase.mem_place_iff (isAscending_chapterPhases eventId now entries), ih]
            by_cases hcharacter : c.character = p.character
            · have hp : p = ⟨p.character, c.window.phaseAt now⟩ ↔
                  p.phase = c.window.phaseAt now := by
                cases p
                simp
              rw [if_pos hcharacter, hcharacter, hp]
              simp
            · rw [if_neg hcharacter]
              have hp : p ≠ ⟨c.character, c.window.phaseAt now⟩ := by
                rintro rfl
                exact hcharacter rfl
              simp [hp, Ne.symm hcharacter]
          · simp only [hevent, if_false, false_and]
            exact ih

theorem lastChapter?_isSome_iff (character : Int) (entries : List Value) :
    (lastChapter? eventId character entries).isSome = true ↔
      ∃ v ∈ entries, ∃ c, CalendarChapter.ofValue? v = some c ∧ c.eventId = eventId
        ∧ c.character = character := by
  unfold lastChapter?
  rw [List.getLast?_isSome, Ne, List.filter_eq_nil_iff]
  simp only [List.mem_filterMap, decide_eq_true_eq]
  push Not
  constructor
  · rintro ⟨c, ⟨v, hv, hc⟩, hevent, hcharacter⟩
    exact ⟨v, hv, c, hc, hevent, hcharacter⟩
  · rintro ⟨v, hv, c, hc, hevent, hcharacter⟩
    exact ⟨c, ⟨v, hv, hc⟩, hevent, hcharacter⟩

theorem chaptersOf_chapterPhases (entries : List Value) :
    ChaptersOf eventId now entries (chapterPhases eventId now entries) where
  ascending := isAscending_chapterPhases eventId now entries
  characters := by
    intro character
    rw [← lastChapter?_isSome_iff, Option.isSome_iff_exists]
    constructor
    · rintro ⟨p, hp, rfl⟩
      obtain ⟨c, hc, -⟩ := (mem_chapterPhases_iff eventId now entries p).1 hp
      exact ⟨c, hc⟩
    · rintro ⟨c, hc⟩
      exact ⟨⟨character, c.window.phaseAt now⟩,
        (mem_chapterPhases_iff eventId now entries _).2 ⟨c, hc, rfl⟩, rfl⟩
  mem_iff := mem_chapterPhases_iff eventId now entries

end Chapters

/-! ## What is told -/

/-- The snapshot is that of the event of an entry at an instant. -/
structure Snapshot.Shows (s : Snapshot) (region : Region) (now : Int) (v : Value)
    (event : CalendarEvent) (kind : EventKind) : Prop where
  sameRegion : s.region = region
  eventId : s.eventId = event.id
  sameKind : s.kind = kind
  phase : s.phase = event.window.phaseAt now
  assetBundle : s.assetBundle = event.assetBundle
  detail : s.detail = v

theorem DigestCache.load_of_list {name : String} {b : Bytes} {items : List Value}
    (h : Value.listOfBytes? b = some items) :
    (({ name := name } : DigestCache).load (some b)).1 = .ok items := by
  simp [load, heldUnder?, plain, h]

theorem DigestCache.kind_of_load_error {c : DigestCache} {file : Option Bytes} {f : Failure}
    (h : (c.load file).1 = .error f) : f.kind = .masterData := by
  cases file with
  | none =>
      obtain rfl := Except.error.inj h
      rfl
  | some b =>
      simp only [load, plain] at h
      cases hheld : c.heldUnder? (Sha256.hex b) with
      | some items => simp [hheld] at h
      | none =>
          cases hitems : Value.listOfBytes? b with
          | some items => simp [hheld, hitems] at h
          | none =>
              simp only [hheld, hitems] at h
              obtain rfl := Except.error.inj h
              rfl

namespace Almanac

/-- What the calendars say about an instant, by the entries of the event calendar. -/
theorem current_of_entries {a : Almanac} {files : CalendarFiles} {entries : List Value}
    (hentries : (a.events.load files.events).1 = .ok entries) (now : Int) :
    (a.current files now).1 =
      match LiveEntry.first? now entries with
      | none => .ok none
      | some e =>
          match e.remaining now with
          | .error why => .error why
          | .ok remaining =>
              if e.kind.hasChapters then
                Halt.lift ((a.chapters.load files.chapters).1.map fun chapterEntries =>
                  some (a.snapshot e now remaining (chapterPhases e.event.id now chapterEntries)))
              else .ok (some (a.snapshot e now remaining [])) := by
  rw [current_fst, hentries]
  simp only [Except.map]
  cases LiveEntry.first? now entries <;> rfl

theorem shows_snapshot (a : Almanac) (now : Int) (v : Value) (event : CalendarEvent)
    (kind : EventKind) (remaining : Option Int) (chapters : List ChapterPhase) :
    (a.snapshot ⟨event, kind, v⟩ now remaining chapters).Shows a.region now v event kind :=
  ⟨rfl, rfl, rfl, rfl, rfl, rfl⟩

section Told

variable {a : Almanac} {files : CalendarFiles} {now : Int} {entries : List Value}
  (hentries : (a.events.load files.events).1 = .ok entries)
include hentries

/-- No event is told just if no entry counts. -/
theorem current_eq_none_iff :
    (a.current files now).1 = .ok none ↔ ∀ v ∈ entries, ¬ LiveEntry.Counts now v := by
  rw [current_of_entries hentries, ← LiveEntry.first?_eq_none_iff]
  cases hfirst : LiveEntry.first? now entries with
  | none => simp
  | some e =>
      refine ⟨fun hnone => ?_, fun hnone => nomatch hnone⟩
      simp only at hnone
      split at hnone
      · cases hnone
      · split at hnone
        · cases hload : (a.chapters.load files.chapters).1 <;>
            simp [hload, Halt.lift, Except.map] at hnone
        · cases hnone

/-- The first entry that counts is told, with the chapters of its event if events of its kind have
any. -/
theorem current_of_isFirst {v : Value} {event : CalendarEvent} {kind : EventKind}
    (hfirst : LiveEntry.IsFirst now entries v event kind)
    (hrange : (a.current files now).1 ≠ .error .overflow) :
    ∃ remaining, (a.current files now).1 =
      if kind.hasChapters then
        Halt.lift ((a.chapters.load files.chapters).1.map fun chapterEntries =>
          some (a.snapshot ⟨event, kind, v⟩ now remaining
            (chapterPhases event.id now chapterEntries)))
      else .ok (some (a.snapshot ⟨event, kind, v⟩ now remaining [])) := by
  have hcurrent := current_of_entries hentries now
  rw [LiveEntry.first?_eq_some_iff.2 hfirst] at hcurrent
  cases hremaining : (⟨event, kind, v⟩ : LiveEntry).remaining now with
  | error why =>
      obtain rfl := LiveEntry.eq_overflow_of_remaining hremaining
      simp only [hremaining] at hcurrent
      exact absurd hcurrent hrange
  | ok remaining =>
      simp only [hremaining] at hcurrent
      exact ⟨remaining, hcurrent⟩

end Told

/-- Whatever an almanac holds, and the entries that it finds in the event calendar: unless the time
left does not fit into 64 bits,

* no event is told just if no entry counts, that is, can be read, is live, and has a known kind;
* the first entry that counts is told; the chapter calendar is needed just if its kind is that of
  events with chapters, and then a failure to read it is the answer, or else the characters with an
  entry for the event are told in strictly ascending order, each with the phase of its last entry;
* entries that do not count may come and go anywhere in the event calendar;
* a chapter calendar that changes the answer does so for an event with chapters. -/
theorem first_live_event_told (a : Almanac) (files : CalendarFiles) (now : Int)
    {entries : List Value} (hentries : (a.events.load files.events).1 = .ok entries)
    (hrange : (a.current files now).1 ≠ .error .overflow) :
    ((a.current files now).1 = .ok none ↔ ∀ v ∈ entries, ¬ LiveEntry.Counts now v)
    ∧ (∀ v event kind, LiveEntry.IsFirst now entries v event kind →
      (kind ≠ .worldBloom → ∃ s, (a.current files now).1 = .ok (some s)
        ∧ s.Shows a.region now v event kind ∧ s.chapters = [])
      ∧ (kind = .worldBloom →
        (∀ f, (a.chapters.load files.chapters).1 = .error f →
          f.kind = .masterData ∧ (a.current files now).1 = .error (.failure f))
        ∧ ∀ chapterEntries, (a.chapters.load files.chapters).1 = .ok chapterEntries →
          ∃ s, (a.current files now).1 = .ok (some s) ∧ s.Shows a.region now v event kind
            ∧ ChaptersOf event.id now chapterEntries s.chapters))
    ∧ (∀ (b : Almanac) (files' : CalendarFiles) (entries' : List Value), b.region = a.region →
      (b.events.load files'.events).1 = .ok entries' →
      (b.chapters.load files'.chapters).1 = (a.chapters.load files.chapters).1 →
      entries'.filter (fun v => LiveEntry.Counts now v)
        = entries.filter (fun v => LiveEntry.Counts now v) →
      (b.current files' now).1 = (a.current files now).1)
    ∧ ∀ (b : Almanac) (files' : CalendarFiles), b.region = a.region →
      (b.events.load files'.events).1 = .ok entries →
      (b.current files' now).1 ≠ (a.current files now).1 →
        ∃ v event, LiveEntry.IsFirst now entries v event .worldBloom := by
  have hcurrent := current_of_entries hentries now
  refine ⟨current_eq_none_iff hentries, ?first, ?junk, ?chapters⟩
  case first =>
    intro v event kind hfirst
    obtain ⟨remaining, htold⟩ := current_of_isFirst hentries hfirst hrange
    constructor
    · intro hkind
      rw [if_neg (mt EventKind.hasChapters_iff.1 hkind)] at htold
      exact ⟨_, htold, a.shows_snapshot now v event kind remaining [], rfl⟩
    · intro hkind
      rw [if_pos (EventKind.hasChapters_iff.2 hkind)] at htold
      constructor
      · intro f hload
        rw [hload] at htold
        exact ⟨DigestCache.kind_of_load_error hload, htold⟩
      · intro chapterEntries hload
        rw [hload] at htold
        exact ⟨_, htold, a.shows_snapshot now v event kind remaining _,
          chaptersOf_chapterPhases event.id now chapterEntries⟩
  case junk =>
    intro b files' entries' hregion hentries' hload hfilter
    -- Both come to the same first entry, and from there on look at the same chapters.
    rw [hcurrent, current_of_entries hentries' now, LiveEntry.first?_eq_of_filter_eq hfilter, hload,
      snapshot_eq_of_region hregion]
  case chapters =>
    intro b files' hregion hentries' hne
    rw [hcurrent, current_of_entries hentries' now, snapshot_eq_of_region hregion] at hne
    cases hfirst : LiveEntry.first? now entries with
    | none => exact absurd (by rw [hfirst]) hne
    | some e =>
        obtain ⟨event, kind, v⟩ := e
        by_cases hkind : kind = .worldBloom
        · subst hkind
          exact ⟨v, event, LiveEntry.first?_eq_some_iff.1 hfirst⟩
        · have hnot : ¬ kind.hasChapters = true := mt EventKind.hasChapters_iff.1 hkind
          refine absurd ?_ hne
          simp only [hfirst, if_neg hnot]

/-! ### An event behind entries that do not count -/

/-- An entry of an event with chapters. -/
def bloomEntry : Value :=
  .array [.int 9, .text "world_bloom", .int 0, .int 50, .int 90, .text "e"]

/-- A number, and an entry of an unknown kind, before that entry. -/
def mixedEntries : List Value :=
  [.int 7, .array [.int 8, .text "x", .int 0, .int 50, .int 90, .text "x"], bloomEntry]

/-- Two entries of one character, with one of another and a number between them. -/
def mixedChapters : List Value :=
  [.array [.int 9, .int 5, .int 0, .int 1, .int 2], .int 3,
    .array [.int 9, .int 2, .int 0, .int 1, .int 99],
    .array [.int 9, .int 5, .int 0, .int 1, .int 99]]

/-- The calendars with these entries. -/
def mixedFiles : CalendarFiles where
  events := some (Bytes.ofText
    "[7,[8,\"x\",0,50,90,\"x\"],[9,\"world_bloom\",0,50,90,\"e\"]]")
  chapters := some (Bytes.ofText "[[9,5,0,1,2],3,[9,2,0,1,99],[9,5,0,1,99]]")

/-- The calendars without the entries of events that do not count. -/
def cleanFiles : CalendarFiles :=
  { mixedFiles with events := some (Bytes.ofText "[[9,\"world_bloom\",0,50,90,\"e\"]]") }

/-- The event is told, with the last entry of each character, and so it is without the entries that
do not count. -/
theorem first_live_event_told_mixed :
    ((fresh .jp).events.load mixedFiles.events).1 = .ok mixedEntries
      ∧ ((fresh .jp).current mixedFiles 10).1 ≠ .error .overflow
      ∧ LiveEntry.IsFirst 10 mixedEntries bloomEntry ⟨9, "world_bloom", ⟨0, 50, 90⟩, "e"⟩
        .worldBloom
      ∧ (∃ s, ((fresh .jp).current mixedFiles 10).1 = .ok (some s) ∧ s.eventId = 9
        ∧ s.detail = bloomEntry ∧ ⟨5, .aggregating⟩ ∈ s.chapters ∧ ⟨5, .ended⟩ ∉ s.chapters)
      ∧ ((fresh .jp).current cleanFiles 10).1 = ((fresh .jp).current mixedFiles 10).1 := by
  have hentries : ((fresh .jp).events.load mixedFiles.events).1 = .ok mixedEntries :=
    DigestCache.load_of_list (by cbv)
  have hchapters : ((fresh .jp).chapters.load mixedFiles.chapters).1 = .ok mixedChapters :=
    DigestCache.load_of_list (by cbv)
  have hclean : ((fresh .jp).events.load cleanFiles.events).1 = .ok [bloomEntry] :=
    DigestCache.load_of_list (by cbv)
  have hrange : ((fresh .jp).current mixedFiles 10).1 ≠ .error .overflow := by
    have hanswered : ((fresh .jp).current mixedFiles 10).1.toOption.isSome = true := by
      decide +kernel
    intro hoverflow
    rw [hoverflow] at hanswered
    cases hanswered
  have hfirst : LiveEntry.IsFirst 10 mixedEntries bloomEntry
      ⟨9, "world_bloom", ⟨0, 50, 90⟩, "e"⟩ .worldBloom := by
    refine ⟨mixedEntries.take 2, [], rfl, ?_, ⟨rfl, rfl, rfl⟩⟩
    intro w hw
    simp only [mixedEntries, List.take_succ_cons, List.take_zero, List.mem_cons,
      List.not_mem_nil, or_false] at hw
    rcases hw with rfl | rfl <;> decide +kernel
  obtain ⟨-, htold, hjunk, -⟩ := first_live_event_told (fresh .jp) mixedFiles 10 hentries hrange
  obtain ⟨s, hs, hshows, hof⟩ := ((htold _ _ _ hfirst).2 rfl).2 _ hchapters
  have hlast : lastChapter? 9 5 mixedChapters = some ⟨9, 5, ⟨0, 1, 99⟩⟩ := by decide +kernel
  refine ⟨hentries, hrange, hfirst, ⟨s, hs, hshows.eventId, hshows.detail, ?_, ?_⟩,
    hjunk (fresh .jp) cleanFiles _ rfl hclean rfl ?_⟩
  · exact (hof.mem_iff _).2 ⟨_, hlast, rfl⟩
  · intro hended
    obtain ⟨c, hc, hphase⟩ := (hof.mem_iff _).1 hended
    obtain rfl := Option.some.inj (hlast.symm.trans hc)
    exact absurd hphase (by decide)
  · rfl

end Almanac

end RankLedger
