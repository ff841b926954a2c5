import RankLedger.Proofs.Answers.Steady
import RankLedger.Proofs.Store.Calls

set_option autoImplicit false

/-! # Events apart

The tables of all events share one namespace, and still no event is touched by what is done to
another (`Store.events_apart`). A name tells the kind and the event of its table, so a call about
one event leaves the tables of every other as they are (`Store.agreesOn_perform`); and what a plan
comes to that asks about one event only depends on nothing but the tables of that event
(`Store.AgreesOn.run`). A plan reads more than once, so other calls may also come between its
reads: they are no more seen there (`Store.run_pursue`). -/

namespace RankLedger

/-! ## Plans about one event -/

namespace ReadPlan

variable {α β : Type} {e : Int}

/-- Every read of the plan is about this event. -/
def IsAbout (e : Int) : ReadPlan α → Prop
  | .done _ => True
  | .halt _ => True
  | .eventExists e' next => e' = e ∧ ∀ there, (next there).IsAbout e
  | .rankings e' _ _ next => e' = e ∧ ∀ rows, (next rows).IsAbout e
  | .identity e' _ next => e' = e ∧ ∀ player, (next player).IsAbout e

theorem isAbout_bind {p : ReadPlan α} {f : α → ReadPlan β} (hp : p.IsAbout e)
    (hf : ∀ a, (f a).IsAbout e) : (p.bind f).IsAbout e := by
  induction p with
  | done a => exact hf a
  | halt why => trivial
  | eventExists e' next ih => exact ⟨hp.1, fun there => ih there (hp.2 there)⟩
  | rankings e' filter latest next ih => exact ⟨hp.1, fun rows => ih rows (hp.2 rows)⟩
  | identity e' user next ih => exact ⟨hp.1, fun player => ih player (hp.2 player)⟩

theorem isAbout_lines (e : Int) (character : Option Int) (ranks : List Int) :
    (lines e character ranks).IsAbout e := by
  induction ranks with
  | nil => trivial
  | cons rank ranks ih =>
      refine isAbout_bind ⟨rfl, fun _ => trivial⟩ ?_
      intro row
      exact isAbout_bind ih fun _ => trivial

theorem isAbout_growth (e : Int) (character : Option Int) (since : Int) (ranks : List Int) :
    (growth e character since ranks).IsAbout e := by
  induction ranks with
  | nil => trivial
  | cons rank ranks ih =>
      refine isAbout_bind ⟨rfl, fun _ => trivial⟩ ?_
      intro rows
      cases growthOf rank rows with
      | error why => trivial
      | ok g => exact isAbout_bind ih fun _ => trivial

end ReadPlan

namespace Store

/-! ## Stores that agree on an event -/

/-- The second store is open just if the first is, and has the same tables of an event. -/
structure AgreesOn (s s' : Store) (e : Int) : Prop where
  isOpen : s'.isOpen = s.isOpen
  table : ∀ kind, s'.database.table? kind e = s.database.table? kind e

theorem AgreesOn.trans {s s' s'' : Store} {e : Int} (h : s.AgreesOn s' e)
    (h' : s'.AgreesOn s'' e) : s.AgreesOn s'' e := by
  refine ⟨h'.isOpen.trans h.isOpen, ?_⟩
  intro kind
  exact (h'.table kind).trans (h.table kind)

/-- A call is about other events: it makes or fills tables, but none of this event. -/
def Call.IsAway (e : Int) : Call → Prop
  | .provision e' _ => e' ≠ e
  | .record e' _ => e' ≠ e
  | .close => False

section Calls

variable {e : Int}

/-- A call about another event leaves the tables of this one, whether it goes well or not. -/
theorem agreesOn_perform (s : Store) {c : Call} (h : c.IsAway e) : s.AgreesOn (s.perform c) e := by
  cases c with
  | provision e' k =>
      refine ⟨s.isOpen_provision e' k, ?_⟩
      intro kind
      exact s.table?_provision_of_ne k kind h
  | record e' b =>
      refine ⟨s.isOpen_record e' b, ?_⟩
      intro kind
      exact s.table?_record_of_ne b kind h
  | close => exact absurd h id

theorem agreesOn_performAll (s : Store) {calls : List Call} (h : ∀ c ∈ calls, c.IsAway e) :
    s.AgreesOn (s.performAll calls) e := by
  induction calls generalizing s with
  | nil => exact ⟨rfl, fun _ => rfl⟩
  | cons c calls ih =>
      have hstep := s.agreesOn_perform (h c List.mem_cons_self)
      have hrest := ih (s.perform c) fun c' hc' => h c' (List.mem_cons_of_mem _ hc')
      exact hstep.trans hrest

end Calls

/-! ## What is read of the event -/

section Reads

variable {s s' : Store} {e : Int} (h : s.AgreesOn s' e)
include h

theorem AgreesOn.eventExists : s'.eventExists e = s.eventExists e := by
  unfold Store.eventExists Database.hasTable
  rw [h.isOpen, h.table]

theorem AgreesOn.rankings (f : RowFilter) (latestOnly : Bool) :
    s'.rankings e f latestOnly = s.rankings e f latestOnly := by
  unfold Store.rankings rowsFor Database.chapters? Database.rankings?
  simp only [h.isOpen, h.table]

theorem AgreesOn.identity (user : String) : s'.identity e user = s.identity e user := by
  unfold Store.identity Database.identities?
  rw [h.isOpen, h.table]

/-- A plan about the event comes to the same on both stores. -/
theorem AgreesOn.run {α : Type} {p : ReadPlan α} (hp : p.IsAbout e) :
    (s'.run p).1 = (s.run p).1 := by
  induction p generalizing s s' with
  | done a => rfl
  | halt why => rfl
  | eventExists e' next ih =>
      obtain ⟨rfl, hnext⟩ := hp
      simp only [Store.run, h.eventExists]
      split
      · exact ih _ ⟨h.isOpen, h.table⟩ (hnext _)
      · rfl
  | rankings e' filter latest next ih =>
      obtain ⟨rfl, hnext⟩ := hp
      simp only [Store.run, h.rankings]
      split
      · exact ih _ ⟨h.isOpen, h.table⟩ (hnext _)
      · rfl
  | identity e' user next ih =>
      obtain ⟨rfl, hnext⟩ := hp
      simp only [Store.run, h.identity]
      split
      · exact ih _ ⟨h.isOpen, h.table⟩ (hnext _)
      · rfl

end Reads

/-! ## Other calls between the reads -/

/-- What happens next while a plan is followed: its next read is done, or a call comes first. -/
inductive Move where
  | read
  | call (c : Call)

section Moves

variable {α : Type} {e : Int}

/-- What is left of a plan, and the store, after a move. -/
def pursue (left : ReadPlan α × Store) : Move → ReadPlan α × Store
  | .read => left.2.read left.1
  | .call c => (left.1, left.2.perform c)

theorem isAbout_read (s : Store) {p : ReadPlan α} (hp : p.IsAbout e) :
    (s.read p).1.IsAbout e := by
  cases p with
  | done a => trivial
  | halt why => trivial
  | eventExists e' next =>
      simp only [read]
      split
      · exact hp.2 _
      · trivial
  | rankings e' filter latest next =>
      simp only [read]
      split
      · exact hp.2 _
      · trivial
  | identity e' user next =>
      simp only [read]
      split
      · exact hp.2 _
      · trivial

/-- However reads and calls about other events take turns, what is left of a plan about the event
comes to what the plan would have come to at once. -/
theorem run_pursue {moves : List Move} (hmoves : ∀ c, .call c ∈ moves → c.IsAway e) (s : Store)
    {p : ReadPlan α} (hp : p.IsAbout e) :
    ((moves.foldl pursue (p, s)).2.run (moves.foldl pursue (p, s)).1).1 = (s.run p).1 := by
  induction moves generalizing s p with
  | nil => rfl
  | cons m moves ih =>
      have hrest : ∀ c, .call c ∈ moves → c.IsAway e := by
        intro c hc
        exact hmoves c (List.mem_cons_of_mem _ hc)
      cases m with
      | read =>
          have hread := ih hrest (s.read p).2 (s.isAbout_read hp)
          rw [s.run_read p] at hread
          exact hread
      | call c =>
          have hcall := ih hrest (s.perform c) hp
          rw [(s.agreesOn_perform (hmoves c List.mem_cons_self)).run hp] at hcall
          exact hcall

end Moves

/-- Names of tables tell kind and event apart. So whatever calls about other events are made, and
whether they go well or not, the tables of an event stay, and with them all that can be read of it:
whether it is there, its rows, its players, its lines and its growth; these last two also if the
calls come between the reads that they take. -/
theorem events_apart :
    (∀ (kind kind' : TableKind) (e e' : Int),
      kind.tableName e = kind'.tableName e' ↔ kind = kind' ∧ e = e')
    ∧ ∀ (s : Store) (e : Int),
      (∀ calls : List Call, (∀ c ∈ calls, c.IsAway e) →
        (∀ kind, (s.performAll calls).database.table? kind e = s.database.table? kind e)
        ∧ (s.performAll calls).eventExists e = s.eventExists e
        ∧ (∀ f latestOnly,
          (s.performAll calls).rankings e f latestOnly = s.rankings e f latestOnly)
        ∧ ∀ user, (s.performAll calls).identity e user = s.identity e user)
      ∧ ∀ moves : List Move, (∀ c, .call c ∈ moves → c.IsAway e) →
        (∀ character ranks,
          let left := moves.foldl pursue (ReadPlan.lines e character ranks, s)
          (left.2.run left.1).1 = (s.run (ReadPlan.lines e character ranks)).1)
        ∧ ∀ character since ranks,
          let left := moves.foldl pursue (ReadPlan.growth e character since ranks, s)
          (left.2.run left.1).1 = (s.run (ReadPlan.growth e character since ranks)).1 := by
  refine ⟨fun kind kind' e e' => ⟨TableKind.tableName_inj, ?_⟩, fun s e => ⟨?single, ?amid⟩⟩
  · rintro ⟨rfl, rfl⟩
    rfl
  case single =>
    intro calls hcalls
    have hagrees := s.agreesOn_performAll hcalls
    exact ⟨hagrees.table, hagrees.eventExists, hagrees.rankings, hagrees.identity⟩
  case amid =>
    intro moves hmoves
    refine ⟨fun character ranks => ?_, fun character since ranks => ?_⟩
    · exact run_pursue hmoves s (ReadPlan.isAbout_lines e character ranks)
    · exact run_pursue hmoves s (ReadPlan.isAbout_growth e character since ranks)

/-- What a cycle with one player on the main board and in the chapter of character `3` brings. -/
def lonePlayer (user : String) (score : Int) : Batch where
  rankings := [⟨5, user, score, 1, none⟩]
  chapters := [⟨5, user, score, 1, some 3⟩]
  identities := [⟨user, user, none⟩]

/-- A store with rows of event `-1`. -/
def minusOne : Store := after [.provision (-1) .worldBloom, .record (-1) (lonePlayer "u" 70)]

/-- Calls about the events `1` and `11`, of which `11` has no tables. -/
def otherCalls : List Call :=
  [.provision 1 .worldBloom, .record 1 (lonePlayer "v" 90), .record 11 (lonePlayer "w" 90)]

/-- Two reads, each after a call about event `1`. -/
def turns : List Move :=
  [.call (.provision 1 .worldBloom), .read, .call (.record 1 (lonePlayer "v" 90)), .read]

/-- Events whose numbers have their digits in common: of the calls about the others the last fails,
and event `-1` is read as before, after all of them or between them. -/
theorem events_apart_signs :
    (∀ c ∈ otherCalls, c.IsAway (-1)) ∧ (∀ c, Move.call c ∈ turns → c.IsAway (-1))
      ∧ (minusOne.performAll (otherCalls.take 2)).goesWell (.record 11 (lonePlayer "w" 90)) = false
      ∧ (minusOne.performAll otherCalls).rankings (-1) {} true = .ok [⟨5, "u", 70, 1, none⟩]
      ∧ let left := turns.foldl pursue (ReadPlan.lines (-1) (some 3) [1, 2], minusOne)
        (left.2.run left.1).1 = .ok [⟨1, 70, "u", 5⟩] := by
  obtain ⟨hsingle, hamid⟩ := events_apart.2 minusOne (-1)
  have haway : ∀ c ∈ otherCalls, c.IsAway (-1) := by
    simp [otherCalls, Call.IsAway]
  have hturns : ∀ c, Move.call c ∈ turns → c.IsAway (-1) := by
    intro c hc
    simp only [turns, List.mem_cons, Move.call.injEq, reduceCtorEq, List.not_mem_nil, or_false,
      false_or] at hc
    rcases hc with rfl | rfl <;> simp [Call.IsAway]
  obtain ⟨-, -, hrankings, -⟩ := hsingle otherCalls haway
  obtain ⟨hlines, -⟩ := hamid turns hturns
  have hopen : minusOne.isOpen = true := (isOpen_after _).2 (by simp)
  refine ⟨haway, hturns, ?_, (hrankings {} true).trans ?_, (hlines (some 3) [1, 2]).trans ?_⟩
  · decide +kernel
  · have hlast : RowFilter.latest? {} (minusOne.rowsFor (-1) {}) = some ⟨5, "u", 70, 1, none⟩ := by
      decide +kernel
    simp [rankings, hopen, hlast]
  · have hfirst : RowFilter.latest? { rank := some 1, character := some 3 }
        (minusOne.rowsFor (-1) { rank := some 1, character := some 3 })
          = some ⟨5, "u", 70, 1, some 3⟩ := by
      decide +kernel
    have hsecond : RowFilter.latest? { rank := some 2, character := some 3 }
        ((minusOne.ask (-1)).rowsFor (-1) { rank := some 2, character := some 3 }) = none := by
      decide +kernel
    simp [ReadPlan.lines, ReadPlan.readLatest, ReadPlan.bind, bind, pure, run, rankings, hopen,
      hfirst, hsecond]

end Store

end RankLedger
