import RankLedger.Api.Question
import RankLedger.Proofs.Store.Tables

set_option autoImplicit false

/-! # Answers that last

Tables may be made while a question is being answered, and after. `Store.read` does a single read of
a plan, and `Store.Resumes` says that the rest of a plan comes to what the whole plan comes to, on a
store and on all stores that gain tables without content. Reads keep this, except that an event may
appear where none was found; but the plans of the API are steady: they end there, without an
answer. -/

namespace RankLedger

namespace ReadPlan

variable {α β : Type}

/-- The plan halts wherever an event is not there. -/
def IsSteady : ReadPlan α → Prop
  | .done _ => True
  | .halt _ => True
  | .eventExists _ next => (∃ why, next false = .halt why) ∧ (next true).IsSteady
  | .rankings _ _ _ next => ∀ rows, (next rows).IsSteady
  | .identity _ _ next => ∀ i, (next i).IsSteady

theorem isSteady_bind {p : ReadPlan α} {f : α → ReadPlan β} (hp : p.IsSteady)
    (hf : ∀ a, (f a).IsSteady) : (p.bind f).IsSteady := by
  induction p with
  | done a => exact hf a
  | halt why => trivial
  | eventExists e next ih =>
      obtain ⟨⟨why, hwhy⟩, hnext⟩ := hp
      exact ⟨⟨why, congrArg (·.bind f) hwhy⟩, ih true hnext⟩
  | rankings e filter latest next ih => exact fun rows => ih rows (hp rows)
  | identity e user next ih => exact fun i => ih i (hp i)

theorem isSteady_lines (e : Int) (character : Option Int) (ranks : List Int) :
    (lines e character ranks).IsSteady := by
  induction ranks with
  | nil => trivial
  | cons rank ranks ih =>
      exact isSteady_bind (fun _ => trivial) fun row => isSteady_bind ih fun rest => trivial

theorem isSteady_growth (e : Int) (character : Option Int) (since : Int) (ranks : List Int) :
    (growth e character since ranks).IsSteady := by
  induction ranks with
  | nil => trivial
  | cons rank ranks ih =>
      refine isSteady_bind (fun _ => trivial) fun rows => ?_
      split
      · trivial
      · exact isSteady_bind ih fun rest => trivial

end ReadPlan

/-! ## The plans of the API -/

namespace Api

open ReadPlan

theorem isSteady_requireEvent (region : Region) (e : Int) : (requireEvent region e).IsSteady :=
  ⟨⟨_, rfl⟩, trivial⟩

theorem isSteady_readPlayer (e : Int) (user : Option String) : (readPlayer e user).IsSteady := by
  cases user with
  | none => trivial
  | some user => exact fun _ => trivial

theorem isSteady_plan (topic : Topic) (region : Region) (a : Arguments) (now : Int) :
    (plan topic region a now).IsSteady := by
  have hrequire := isSteady_requireEvent region a.eventId
  cases topic with
  | health => trivial
  | latest =>
      refine isSteady_bind hrequire fun _ => isSteady_bind (fun _ => trivial) fun row =>
        isSteady_bind (isSteady_readPlayer _ _) fun player => ?_
      split <;> trivial
  | history =>
      refine isSteady_bind hrequire fun _ => isSteady_bind (fun _ => trivial) fun rows =>
        isSteady_bind (isSteady_readPlayer _ _) fun player => ?_
      split <;> trivial
  | identity =>
      refine isSteady_bind hrequire fun _ => isSteady_bind (fun _ => trivial) fun i => ?_
      cases i <;> trivial
  | lines =>
      refine isSteady_bind hrequire fun _ => isSteady_bind (isSteady_lines _ _ _) fun ls => ?_
      split <;> trivial
  | growth =>
      show (Api.growth region a.eventId a.character a.interval now).IsSteady
      unfold Api.growth
      split
      · trivial
      · refine isSteady_bind hrequire fun _ => isSteady_bind (isSteady_growth _ _ _ _) fun gs => ?_
        split <;> trivial

/-- Only a question about growth looks at the clock. -/
theorem plan_clock {topic : Topic} (h : topic ≠ .growth) (region : Region) (a : Arguments)
    (now now' : Int) : plan topic region a now = plan topic region a now' := by
  cases topic with
  | growth => exact absurd rfl h
  | health => rfl
  | latest => rfl
  | history => rfl
  | identity => rfl
  | lines => rfl

end Api

/-! ## One read at a time -/

namespace Store

variable {α : Type}

/-- Do the next read of a plan. A plan with nothing left to read stays as it is. -/
def read (s : Store) : ReadPlan α → ReadPlan α × Store
  | .done a => (.done a, s)
  | .halt why => (.halt why, s)
  | .eventExists e next =>
      match s.eventExists e with
      | .ok b => (next b, s.ask e)
      | .error f => (.halt f, s.ask e)
  | .rankings e filter latest next =>
      match s.rankings e filter latest with
      | .ok rows => (next rows, s.ask e)
      | .error f => (.halt f, s.ask e)
  | .identity e user next =>
      match s.identity e user with
      | .ok i => (next i, s.ask e)
      | .error f => (.halt f, s.ask e)

/-- To follow a plan through is to read on and on. -/
theorem run_read (s : Store) (p : ReadPlan α) : (s.read p).2.run (s.read p).1 = s.run p := by
  cases p with
  | done a => rfl
  | halt why => rfl
  | eventExists e next => cases hread : s.eventExists e <;> simp only [read, run, hread]
  | rankings e filter latest next =>
      cases hread : s.rankings e filter latest <;> simp only [read, run, hread]
  | identity e user next => cases hread : s.identity e user <;> simp only [read, run, hread]

/-- Reading on and on comes to an end: what holds at the ends, and before a read if it holds after
it, holds of every plan. -/
theorem read_induction {motive : Store → ReadPlan α → Prop} (hdone : ∀ s a, motive s (.done a))
    (hhalt : ∀ s why, motive s (.halt why))
    (hread : ∀ s p, motive (s.read p).2 (s.read p).1 → motive s p) (s : Store) (p : ReadPlan α) :
    motive s p := by
  induction p generalizing s with
  | done a => exact hdone s a
  | halt why => exact hhalt s why
  | eventExists e next ih =>
      apply hread
      simp only [read]
      split
      · exact ih _ _
      · exact hhalt _ _
  | rankings e filter latest next ih =>
      apply hread
      simp only [read]
      split
      · exact ih _ _
      · exact hhalt _ _
  | identity e user next ih =>
      apply hread
      simp only [read]
      split
      · exact ih _ _
      · exact hhalt _ _

/-- A read only notes that the store was asked. -/
theorem read_store (s : Store) (p : ReadPlan α) :
    (s.read p).2.database = s.database ∧ (s.read p).2.isOpen = s.isOpen := by
  cases p with
  | done a => exact ⟨rfl, rfl⟩
  | halt why => exact ⟨rfl, rfl⟩
  | eventExists e next => simp only [read]; split <;> exact ⟨rfl, rfl⟩
  | rankings e filter latest next => simp only [read]; split <;> exact ⟨rfl, rfl⟩
  | identity e user next => simp only [read]; split <;> exact ⟨rfl, rfl⟩

theorem grows_read (s : Store) (p : ReadPlan α) : s.Grows (s.read p).2 :=
  .of_database_eq (s.read_store p).2 (s.read_store p).1

theorem read_grows (s : Store) (p : ReadPlan α) : (s.read p).2.Grows s :=
  .of_database_eq (s.read_store p).2.symm (s.read_store p).1.symm

/-- What a plan comes to does not depend on what the store was asked before. -/
theorem run_congr (p : ReadPlan α) {s s' : Store} (hdb : s'.database = s.database)
    (hopen : s'.isOpen = s.isOpen) : (s'.run p).1 = (s.run p).1 := by
  induction p generalizing s s' with
  | done a => rfl
  | halt why => rfl
  | eventExists e next ih =>
      have hsame : s'.eventExists e = s.eventExists e := by simp only [eventExists, hdb, hopen]
      simp only [run, hsame]
      split
      · exact ih _ hdb hopen
      · rfl
  | rankings e filter latest next ih =>
      have hsame := (Grows.of_database_eq hopen hdb).rankings e filter latest
      simp only [run, hsame]
      split
      · exact ih _ hdb hopen
      · rfl
  | identity e user next ih =>
      have hsame := (Grows.of_database_eq hopen hdb).identity e user
      simp only [run, hsame]
      split
      · exact ih _ hdb hopen
      · rfl

theorem run_ask (s : Store) (e : Int) (p : ReadPlan α) : ((s.ask e).run p).1 = (s.run p).1 :=
  run_congr p rfl rfl

/-! ## What lasts -/

/-- On the store, and on every store that it grows into, the rest of a plan comes to what the whole
plan comes to. -/
def Resumes (s : Store) (p rest : ReadPlan α) : Prop :=
  ∀ s', s.Grows s' → (s'.run rest).1 = (s'.run p).1

theorem Resumes.refl (s : Store) (p : ReadPlan α) : s.Resumes p p := fun _ _ => rfl

theorem Resumes.trans {s : Store} {p q rest : ReadPlan α} (h : s.Resumes p q)
    (h' : s.Resumes q rest) : s.Resumes p rest := fun s' hs => (h' s' hs).trans (h s' hs)

/-- What lasts, lasts on. -/
theorem Resumes.of_grows {s s' : Store} {p rest : ReadPlan α} (h : s.Resumes p rest)
    (hs : s.Grows s') : s'.Resumes p rest := fun s'' hs' => h s'' (hs.trans hs')

/-- An answer that a plan comes to and that lasts is what the store says now. -/
theorem Resumes.run_eq {s : Store} {p : ReadPlan α} {a : α} (h : s.Resumes p (.done a)) :
    (s.run p).1 = .ok a := (h s (.refl s)).symm

/-- A read keeps what is left steady. -/
theorem isSteady_read (s : Store) {p : ReadPlan α} (h : p.IsSteady) : (s.read p).1.IsSteady := by
  cases p with
  | done a => trivial
  | halt why => trivial
  | eventExists e next =>
      obtain ⟨⟨why, hwhy⟩, hnext⟩ := h
      cases hread : s.eventExists e with
      | error f => simp only [read, hread, ReadPlan.IsSteady]
      | ok b =>
          cases b with
          | false => simp only [read, hread, hwhy, ReadPlan.IsSteady]
          | true => simpa only [read, hread] using hnext
  | rankings e filter latest next =>
      cases hread : s.rankings e filter latest with
      | error f => simp only [read, hread, ReadPlan.IsSteady]
      | ok rows => simpa only [read, hread] using h rows
  | identity e user next =>
      cases hread : s.identity e user with
      | error f => simp only [read, hread, ReadPlan.IsSteady]
      | ok i => simpa only [read, hread] using h i

/-- After a read, a steady plan has halted, or its rest still comes to the same. -/
theorem resumes_read (s : Store) {p : ReadPlan α} (h : p.IsSteady) :
    (∃ why, (s.read p).1 = .halt why) ∨ s.Resumes p (s.read p).1 := by
  cases p with
  | done a => exact Or.inr (.refl s _)
  | halt why => exact Or.inl ⟨why, rfl⟩
  | eventExists e next =>
      obtain ⟨⟨why, hwhy⟩, -⟩ := h
      cases hread : s.eventExists e with
      | error f => exact Or.inl ⟨f, by simp only [read, hread]⟩
      | ok b =>
          -- An event that is not there may come to be there, but one that is there stays.
          cases b with
          | false => exact Or.inl ⟨why, by simp only [read, hread, hwhy]⟩
          | true =>
              refine Or.inr fun s' hs => ?_
              simp only [read, run, hread, hs.eventExists hread, run_ask]
  | rankings e filter latest next =>
      cases hread : s.rankings e filter latest with
      | error f => exact Or.inl ⟨f, by simp only [read, hread]⟩
      | ok rows =>
          refine Or.inr fun s' hs => ?_
          simp only [read, run, hs.rankings, hread, run_ask]
  | identity e user next =>
      cases hread : s.identity e user with
      | error f => exact Or.inl ⟨f, by simp only [read, hread]⟩
      | ok i =>
          refine Or.inr fun s' hs => ?_
          simp only [read, run, hs.identity, hread, run_ask]

/-- An answer that a steady plan comes to lasts. -/
theorem resumes_of_run {s : Store} {p : ReadPlan α} (h : p.IsSteady) {a : α}
    (hrun : (s.run p).1 = .ok a) : s.Resumes p (.done a) := by
  induction s, p using read_induction with
  | hdone s b =>
      obtain rfl : b = a := Except.ok.inj hrun
      exact .refl s _
  | hhalt s why => cases hrun
  | hread s p ih =>
      -- The rest comes to the answer for good, and the whole plan to what the rest comes to.
      rw [← run_read] at hrun
      rcases resumes_read s h with ⟨why, hwhy⟩ | hresumes
      · rw [hwhy] at hrun
        cases hrun
      · exact hresumes.trans ((ih (isSteady_read s h) hrun).of_grows (s.read_grows p))

end Store

end RankLedger
