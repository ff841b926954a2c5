import RankLedger.Proofs.Calendar.Fixed

set_option autoImplicit false

/-! # The cache behind an almanac

However the calendar files are written and deleted between the questions, an almanac that keeps what
it has read answers like one that has read nothing (`Usage.cache_is_invisible`). What carries this
is said of one file: a cache is what the texts have left that its loads have taken in
(`DigestCache.HasTaken`), so the list that it holds is the list of the last of these texts, whatever
went wrong since. A load then either finds that very text or reads the file anew, unless two texts
have one digest. The cache understands a text as often as the texts taken in change. -/

namespace RankLedger

open Json (Value)

/-! ## One file -/

namespace DigestCache

/-- How many texts of a sequence are not the same as the text before them. -/
def changes : Option Bytes → List Bytes → Nat
  | _, [] => 0
  | before, b :: bs => (if before = some b then 0 else 1) + changes (some b) bs

/-- The text that a load takes in: that of the file, if the load goes well. -/
def taken (c : DigestCache) (file : Option Bytes) : List Bytes :=
  match (c.load file).1 with
  | .ok _ => file.toList
  | .error _ => []

/-- A cache is what loads that took in these texts have left. -/
structure HasTaken (c : DigestCache) (texts : List Bytes) : Prop where
  /-- It holds the list of the last text under its digest. -/
  held : match texts.getLast? with
    | none => c.held = none
    | some b => ∃ items, Value.listOfBytes? b = some items ∧ c.held = some (Sha256.hex b, items)
  parses : c.parses = changes none texts

theorem changes_concat (before : Option Bytes) (bs : List Bytes) (b : Bytes) :
    changes before (bs ++ [b])
      = changes before bs + if bs.getLast?.or before = some b then 0 else 1 := by
  induction bs generalizing before with
  | nil => by_cases hb : before = some b <;> simp [changes, hb]
  | cons b' bs ih =>
      have hlast : (b' :: bs).getLast?.or before = bs.getLast?.or (some b') := by
        rw [List.getLast?_cons]
        cases bs.getLast? <;> rfl
      rw [List.cons_append, changes, changes, ih, hlast]
      omega

/-! ### Loads -/

section Load

variable {c : DigestCache} {b : Bytes}

theorem load_of_heldUnder? {items : List Value} (h : c.heldUnder? (Sha256.hex b) = some items) :
    c.load (some b) = (.ok items, c) := by
  simp only [load, h]

theorem load_of_heldUnder?_eq_none (h : c.heldUnder? (Sha256.hex b) = none) :
    c.load (some b) =
      match Value.listOfBytes? b with
      | some items =>
          (.ok items, { c with held := some (Sha256.hex b, items), parses := c.parses + 1 })
      | none => (plain c.name (some b), c) := by
  simp only [load, h, plain]
  cases Value.listOfBytes? b <;> rfl

/-- A load that goes wrong leaves what is held. -/
theorem load_of_error {file : Option Bytes} {f : Failure} (h : (c.load file).1 = .error f) :
    (c.load file).2 = c := by
  cases file with
  | none => rfl
  | some b =>
      cases hheld : c.heldUnder? (Sha256.hex b) with
      | some items =>
          rw [load_of_heldUnder? hheld] at h
          cases h
      | none =>
          rw [load_of_heldUnder?_eq_none hheld] at h ⊢
          cases hitems : Value.listOfBytes? b with
          | none => rfl
          | some items =>
              rw [hitems] at h
              cases h

theorem name_load (c : DigestCache) (file : Option Bytes) : (c.load file).2.name = c.name := by
  cases file with
  | none => rfl
  | some b =>
      cases hheld : c.heldUnder? (Sha256.hex b) with
      | some items => rw [load_of_heldUnder? hheld]
      | none =>
          rw [load_of_heldUnder?_eq_none hheld]
          cases Value.listOfBytes? b <;> rfl

end Load

section HasTaken

variable {c : DigestCache} {texts : List Bytes}

theorem hasTaken_nil (name : String) : HasTaken { name := name } [] := ⟨rfl, rfl⟩

/-- What is held under a digest is the list of the last text taken in, if that has the digest. -/
theorem HasTaken.heldUnder?_eq_some (h : c.HasTaken texts) {digest : String} {items : List Value}
    (hheld : c.heldUnder? digest = some items) :
    ∃ b, texts.getLast? = some b ∧ Sha256.hex b = digest ∧ Value.listOfBytes? b = some items := by
  have hlast := h.held
  unfold heldUnder? at hheld
  split at hlast
  · rw [hlast] at hheld
    cases hheld
  · rename_i b hb
    obtain ⟨items', hitems', hsome⟩ := hlast
    rw [hsome, Option.filter_some] at hheld
    split at hheld
    · rename_i hdigest
      obtain rfl := Option.some.inj hheld
      exact ⟨b, hb, of_decide_eq_true hdigest, hitems'⟩
    · cases hheld

/-- The last text taken in is held under its digest. -/
theorem HasTaken.heldUnder?_last (h : c.HasTaken texts) {b : Bytes}
    (hb : texts.getLast? = some b) : (c.heldUnder? (Sha256.hex b)).isSome = true := by
  have hlast := h.held
  rw [hb] at hlast
  obtain ⟨items, -, hsome⟩ := hlast
  unfold heldUnder?
  rw [hsome, Option.filter_some]
  simp

/-- Unless a text taken in has the digest of the file by chance, a load gives what the file holds,
and then the cache has taken in the file as well, if that can be understood. -/
theorem HasTaken.load (h : c.HasTaken texts) {file : Option Bytes}
    (hdigest : ∀ b ∈ texts, ∀ b', file = some b' → Sha256.hex b = Sha256.hex b' → b = b') :
    (c.load file).1 = plain c.name file ∧ (c.load file).2.HasTaken (texts ++ c.taken file) := by
  cases file with
  | none =>
      have htaken : c.taken none = [] := rfl
      rw [htaken, List.append_nil]
      exact ⟨rfl, h⟩
  | some b =>
      cases hheld : c.heldUnder? (Sha256.hex b) with
      | some items =>
          obtain ⟨b', hlast, hsame, hitems⟩ := h.heldUnder?_eq_some hheld
          obtain rfl := hdigest b' (List.mem_of_getLast? hlast) b rfl hsame
          have hload := load_of_heldUnder? hheld
          have htaken : c.taken (some b') = [b'] := by simp only [taken, hload, Option.toList]
          refine ⟨?_, ⟨?_, ?_⟩⟩
          · rw [hload]
            simp only [plain, hitems]
          · have hlast' := h.held
            rw [hlast] at hlast'
            rw [hload, htaken, List.getLast?_concat]
            exact hlast'
          · rw [hload, htaken, changes_concat, hlast, Option.some_or, if_pos rfl]
            exact h.parses
      | none =>
          have hload := load_of_heldUnder?_eq_none hheld
          cases hitems : Value.listOfBytes? b with
          | none =>
              rw [hitems] at hload
              have htaken : c.taken (some b) = [] := by simp only [taken, hload, plain, hitems]
              rw [hload, htaken, List.append_nil]
              exact ⟨rfl, h⟩
          | some items =>
              rw [hitems] at hload
              have htaken : c.taken (some b) = [b] := by simp only [taken, hload, Option.toList]
              -- The last text is held, so it is not the one that is found now.
              have hnew : ¬ texts.getLast? = some b := by
                intro hlast
                have hsome := h.heldUnder?_last hlast
                rw [hheld] at hsome
                cases hsome
              refine ⟨?_, ⟨?_, ?_⟩⟩
              · rw [hload]
                simp only [plain, hitems]
              · rw [htaken, List.getLast?_concat, hload]
                exact ⟨items, hitems, rfl⟩
              · rw [htaken, changes_concat, Option.or_none, if_neg hnew, hload, h.parses]

theorem HasTaken.digest?_eq (h : c.HasTaken texts) :
    c.digest? = texts.getLast?.map Sha256.hex := by
  have hlast := h.held
  unfold digest?
  split at hlast
  · rename_i hnone
    rw [hlast, hnone]
    rfl
  · rename_i b hb
    obtain ⟨items, -, hsome⟩ := hlast
    rw [hsome, hb]
    rfl

end HasTaken

end DigestCache

/-! ## Both files -/

/-- The calendars of a region. -/
inductive Calendar where
  | events
  | chapters
  deriving DecidableEq, Repr

/-- The file of a calendar. -/
def CalendarFiles.file (files : CalendarFiles) : Calendar → Option Bytes
  | .events => files.events
  | .chapters => files.chapters

/-- Write the file of a calendar, or delete it. -/
def CalendarFiles.put (files : CalendarFiles) (c : Calendar) (file : Option Bytes) :
    CalendarFiles :=
  match c with
  | .events => { files with events := file }
  | .chapters => { files with chapters := file }

theorem CalendarFiles.file_put (files : CalendarFiles) (c c' : Calendar) (file : Option Bytes) :
    (files.put c file).file c' = if c = c' then file else files.file c' := by
  cases c <;> cases c' <;> rfl

namespace Almanac

/-- What is held of a calendar. -/
def cache (a : Almanac) : Calendar → DigestCache
  | .events => a.events
  | .chapters => a.chapters

/-- What an almanac is asked. -/
inductive Question where
  /-- The live event at an instant. -/
  | current (now : Int)
  /-- The chapters of an event at an instant. -/
  | chapters (eventId now : Int)
  deriving DecidableEq, Repr

/-- What it answers. -/
inductive Answer where
  | current (found : Except Halt (Option Snapshot))
  | chapters (found : Except Failure (List ChapterPhase))

/-- Answer a question: the answer, and the almanac after it. -/
def answer (a : Almanac) (files : CalendarFiles) : Question → Answer × Almanac
  | .current now => (.current (a.current files now).1, (a.current files now).2)
  | .chapters eventId now =>
      (.chapters (a.chaptersAt files eventId now).1, (a.chaptersAt files eventId now).2)

/-- Whether the file of a calendar is looked at for a question. The live event is looked up among
the events; its chapters are, once the time left is known, if events of its kind have chapters. -/
def looksAt (a : Almanac) (files : CalendarFiles) : Question → Calendar → Bool
  | .current _, .events => true
  | .current now, .chapters =>
      match (a.events.load files.events).1.map (LiveEntry.first? now) with
      | .ok (some e) =>
          match e.remaining now with
          | .ok _ => e.kind.hasChapters
          | .error _ => false
      | _ => false
  | .chapters _ _, .events => false
  | .chapters _ _, .chapters => true

theorem Agrees.answer {a b : Almanac} {files : CalendarFiles} (h : a.Agrees b files)
    (q : Question) : (b.answer files q).1 = (a.answer files q).1 := by
  cases q with
  | current now => exact congrArg Answer.current (h.current now)
  | chapters eventId now =>
      exact congrArg (fun found => Answer.chapters (found.map (chapterPhases eventId now)))
        h.chapters

section Answer

variable (a : Almanac) (files : CalendarFiles) (q : Question)

theorem region_answer : (a.answer files q).2.region = a.region := by
  cases q with
  | current now => exact (a.agrees_current files now).region
  | chapters eventId now => rfl

/-- A question leads to one load of each file that is looked at for it. -/
theorem cache_answer (c : Calendar) :
    (a.answer files q).2.cache c =
      if a.looksAt files q c then ((a.cache c).load (files.file c)).2 else a.cache c := by
  cases q with
  | chapters eventId now => cases c <;> rfl
  | current now =>
      simp only [answer, current]
      cases hlive : (a.events.load files.events).1.map (LiveEntry.first? now) with
      | error f => cases c <;> simp [cache, looksAt, hlive, CalendarFiles.file]
      | ok live =>
          cases live with
          | none => cases c <;> simp [cache, looksAt, hlive, CalendarFiles.file]
          | some e =>
              cases hremaining : e.remaining now with
              | error why =>
                  cases c <;> simp [cache, looksAt, hlive, hremaining, CalendarFiles.file]
              | ok remaining =>
                  cases hkind : e.kind.hasChapters <;> cases c <;>
                    simp [cache, looksAt, hlive, hremaining, hkind, chaptersAt,
                      CalendarFiles.file]

end Answer

end Almanac

/-! ## An almanac in use -/

open Almanac (Question)

/-- An almanac in use, with the files as they are, and the texts that it has taken in of each. -/
structure Usage where
  almanac : Almanac
  files : CalendarFiles
  taken : Calendar → List Bytes := fun _ => []

namespace Usage

/-- A file is written, or deleted, or a question is asked. -/
inductive Move where
  | put (c : Calendar) (file : Option Bytes)
  | ask (q : Question)
  deriving DecidableEq, Repr

def next (u : Usage) : Move → Usage
  | .put c file => { u with files := u.files.put c file }
  | .ask q =>
      { u with
        almanac := (u.almanac.answer u.files q).2
        taken := fun c => u.taken c ++
          if u.almanac.looksAt u.files q c then (u.almanac.cache c).taken (u.files.file c) else [] }

/-- What moves have left, where the almanac held nothing at first. -/
def after (region : Region) (files : CalendarFiles) (moves : List Move) : Usage :=
  moves.foldl next { almanac := .fresh region, files := files }

/-- The texts that the file of a calendar has had: what it held at first, and what was written. -/
def texts (files : CalendarFiles) (moves : List Move) (c : Calendar) : List Bytes :=
  (files.file c).toList ++ moves.flatMap fun
    | .put c' file => if c' = c then file.toList else []
    | .ask _ => []

/-- What holds of an almanac in use, while the files have these texts. -/
structure Sound (region : Region) (all : Calendar → List Bytes) (u : Usage) : Prop where
  sameRegion : u.almanac.region = region
  name : ∀ c, (u.almanac.cache c).name = ((Almanac.fresh region).cache c).name
  hasTaken : ∀ c, (u.almanac.cache c).HasTaken (u.taken c)
  taken_subset : ∀ c, u.taken c ⊆ all c
  file_mem : ∀ c b, u.files.file c = some b → b ∈ all c

section Run

variable {region : Region} {all : Calendar → List Bytes}
  (hdigests : ∀ c, ∀ b ∈ all c, ∀ b' ∈ all c, Sha256.hex b = Sha256.hex b' → b = b')
include hdigests

/-- A load gives what the file holds, and the texts taken in are kept account of. -/
theorem Sound.load {u : Usage} (h : u.Sound region all) (c : Calendar) :
    ((u.almanac.cache c).load (u.files.file c)).1
        = DigestCache.plain (u.almanac.cache c).name (u.files.file c)
      ∧ ((u.almanac.cache c).load (u.files.file c)).2.HasTaken
        (u.taken c ++ (u.almanac.cache c).taken (u.files.file c)) := by
  refine (h.hasTaken c).load fun b hb b' hfile => ?_
  exact hdigests c b (h.taken_subset c hb) b' (h.file_mem c b' hfile)

theorem Sound.load_eq {u : Usage} (h : u.Sound region all) (c : Calendar) :
    ((u.almanac.cache c).load (u.files.file c)).1
      = (((Almanac.fresh region).cache c).load (u.files.file c)).1 := by
  have hfresh : ((Almanac.fresh region).cache c).HasTaken [] := by
    cases c <;> exact DigestCache.hasTaken_nil _
  rw [(h.load hdigests c).1, h.name, (hfresh.load fun b hb => nomatch hb).1]

/-- The almanac tells about the files what one that holds nothing tells. -/
theorem Sound.agrees {u : Usage} (h : u.Sound region all) :
    (Almanac.fresh region).Agrees u.almanac u.files :=
  ⟨h.sameRegion, h.load_eq hdigests .events, h.load_eq hdigests .chapters⟩

theorem Sound.next {u : Usage} (h : u.Sound region all) {m : Move}
    (hm : ∀ c b, m = .put c (some b) → b ∈ all c) : (u.next m).Sound region all := by
  cases m with
  | put c file =>
      refine ⟨h.sameRegion, h.name, h.hasTaken, h.taken_subset, ?_⟩
      intro c' b hfile
      simp only [Usage.next, CalendarFiles.file_put] at hfile
      split at hfile
      · rename_i hc
        subst hc
        exact hm c b (by rw [hfile])
      · exact h.file_mem c' b hfile
  | ask q =>
      refine ⟨(Almanac.region_answer _ _ _).trans h.sameRegion, ?name, ?hasTaken, ?subset, h.file_mem⟩
      case name =>
        intro c
        simp only [Usage.next, Almanac.cache_answer]
        split
        · rw [DigestCache.name_load, h.name]
        · exact h.name c
      case hasTaken =>
        intro c
        -- The file is loaded once or not at all, and what is taken in follows the same case.
        simp only [Usage.next, Almanac.cache_answer]
        split
        · exact (h.load hdigests c).2
        · rw [List.append_nil]
          exact h.hasTaken c
      case subset =>
        intro c b hb
        rcases List.mem_append.1 hb with hb | hb
        · exact h.taken_subset c hb
        · split at hb
          · unfold DigestCache.taken at hb
            split at hb
            · exact h.file_mem c b (Option.mem_toList.1 hb)
            · cases hb
          · cases hb

theorem Sound.foldl {u : Usage} (h : u.Sound region all) {moves : List Move}
    (hmoves : ∀ c b, .put c (some b) ∈ moves → b ∈ all c) :
    (moves.foldl Usage.next u).Sound region all := by
  induction moves generalizing u with
  | nil => exact h
  | cons m moves ih =>
      have hnext : (u.next m).Sound region all :=
        h.next hdigests fun c b heq => hmoves c b (heq ▸ List.mem_cons_self)
      exact ih hnext fun c b hmem => hmoves c b (List.mem_cons_of_mem _ hmem)

theorem sound_after {files : CalendarFiles} {moves : List Move}
    (hfiles : ∀ c b, files.file c = some b → b ∈ all c)
    (hmoves : ∀ c b, .put c (some b) ∈ moves → b ∈ all c) :
    (after region files moves).Sound region all := by
  have hstart : Sound region all { almanac := .fresh region, files := files } := by
    refine ⟨rfl, fun _ => rfl, ?_, fun c b hb => (nomatch hb), hfiles⟩
    intro c
    cases c <;> exact DigestCache.hasTaken_nil _
  exact hstart.foldl hdigests hmoves

end Run

theorem mem_texts_of_file {files : CalendarFiles} {moves : List Move} {c : Calendar} {b : Bytes}
    (h : files.file c = some b) : b ∈ texts files moves c :=
  List.mem_append_left _ (Option.mem_toList.2 h)

theorem mem_texts_of_put {files : CalendarFiles} {moves : List Move} {c : Calendar} {b : Bytes}
    (h : .put c (some b) ∈ moves) : b ∈ texts files moves c := by
  refine List.mem_append_right _ (List.mem_flatMap.2 ⟨_, h, ?_⟩)
  simp

/-- However the files of a region are written and deleted between questions to an almanac that held
nothing at first, and unless two texts that a file has had have one digest by chance:

* each question is answered, with a value or a failure, as by an almanac that holds nothing, from the
  files as they are then;
* a load that goes wrong leaves what is held;
* the digest held is that of the text which the last load that went well has taken in, and texts have
  been understood as often as those taken in were other than the one before, the first included. -/
theorem cache_is_invisible (region : Region) (files : CalendarFiles) (moves : List Move)
    (hdigests : ∀ c, ∀ b ∈ texts files moves c, ∀ b' ∈ texts files moves c,
      Sha256.hex b = Sha256.hex b' → b = b') :
    (∀ before q later, moves = before ++ .ask q :: later →
      let u := after region files before
      (u.almanac.answer u.files q).1 = ((Almanac.fresh region).answer u.files q).1)
    ∧ (∀ (c : DigestCache) (file : Option Bytes) (f : Failure), (c.load file).1 = .error f →
      (c.load file).2 = c)
    ∧ ∀ c, let u := after region files moves
      (u.almanac.cache c).digest? = (u.taken c).getLast?.map Sha256.hex
      ∧ (u.almanac.cache c).parses = DigestCache.changes none (u.taken c) := by
  refine ⟨?answers, fun c file f => DigestCache.load_of_error, ?counts⟩
  case answers =>
    intro before q later hmoves u
    have hsound : u.Sound region (texts files moves) := by
      refine sound_after hdigests (fun c b => mem_texts_of_file) fun c b hmem => ?_
      exact mem_texts_of_put (hmoves ▸ List.mem_append_left _ hmem)
    exact (hsound.agrees hdigests).answer q
  case counts =>
    intro c u
    have hsound : u.Sound region (texts files moves) :=
      sound_after hdigests (fun c b => mem_texts_of_file) fun c b => mem_texts_of_put
    exact ⟨(hsound.hasTaken c).digest?_eq, (hsound.hasTaken c).parses⟩

/-- The calendar of events is written, spoilt, deleted, written as it was, changed, and changed back,
with a question after each of these. -/
def rewrites : List Move :=
  [some "[]", some "[", none, some "[]", some "[1]", some "[]"].flatMap fun text =>
    [.put .events (text.map Bytes.ofText), .ask (.current 5)]

/-- The spoilt calendar is told as such although a list is held, and of four lists that are read the
second is known. -/
theorem cache_is_invisible_rewritten :
    (∀ c, ∀ b ∈ texts {} rewrites c, ∀ b' ∈ texts {} rewrites c,
        Sha256.hex b = Sha256.hex b' → b = b')
      ∧ ((after .jp {} (rewrites.take 3)).almanac.answer (after .jp {} (rewrites.take 3)).files
          (.current 5)).1
        = ((Almanac.fresh .jp).answer { events := some (Bytes.ofText "[") } (.current 5)).1
      ∧ (after .jp {} rewrites).almanac.events.parses = 3 := by
  have hdigests : ∀ c, ∀ b ∈ texts {} rewrites c, ∀ b' ∈ texts {} rewrites c,
      Sha256.hex b = Sha256.hex b' → b = b' := by
    have hdistinct : ((["[]", "[", "[1]"].map Bytes.ofText).map Sha256.hex).Nodup := by
      decide +kernel
    have hmem : ∀ c, ∀ b ∈ texts {} rewrites c, b ∈ ["[]", "[", "[1]"].map Bytes.ofText := by
      intro c
      cases c <;> decide +kernel
    intro c b hb b' hb' hsame
    exact List.inj_on_of_nodup_map hdistinct (hmem c b hb) (hmem c b' hb') hsame
  have htaken : (after .jp {} rewrites).taken .events
      = ["[]", "[]", "[1]", "[]"].map Bytes.ofText := by
    decide +kernel
  obtain ⟨hanswers, -, hcounts⟩ := cache_is_invisible .jp {} rewrites hdigests
  refine ⟨hdigests, hanswers (rewrites.take 3) (.current 5) (rewrites.drop 4) rfl, ?_⟩
  have hparses := (hcounts .events).2
  rw [htaken] at hparses
  exact hparses.trans (by decide +kernel)

end Usage

end RankLedger
