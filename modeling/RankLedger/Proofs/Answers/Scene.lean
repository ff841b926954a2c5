import RankLedger.Proofs.Answers.Kept
import RankLedger.Proofs.Answers.Steady

set_option autoImplicit false

/-! # Requests and cycles, step by step

The requests about a region and its recording cycles, in any order of their single steps. A request
looks for a kept answer, notes the generation, does its reads one by one, and offers what it came
to; a cycle commits its rows and then drops the answers. A request that is left alone is answered as
`Fleet.memoized` answers it (`Scene.memoized_of_lone`), and a cycle that is left alone writes as
`Tracker.carryOut` does (`Scene.carryOut_of_lone`).

`Scene.Served` lists what a request's step can be, and `Scene.leads_move` says what any step leaves
to the requests that stand still. -/

namespace RankLedger

open Api
open Json (Value)

/-! ## Scenes -/

/-- How far a request has come. -/
inductive Stage where
  | arrived
  /-- No answer was kept. -/
  | missed
  /-- The generation is noted, and there is something left to read. -/
  | reading (generation : UInt64) (rest : ReadPlan Value)
  | finished (result : Except Halt Value)

/-- A request about an event, and notes on its course. -/
structure Request where
  key : String
  topic : Topic
  arguments : Arguments
  /-- What the clock shows when the question is put. -/
  second : Int
  stage : Stage := .arrived
  /-- The number of commits before each of the reads. -/
  reads : List Nat := []
  /-- The number of drops before the generation was noted. -/
  notedAt : Nat := 0
  /-- The number of drops before what the request came to was offered. -/
  offeredAt : Option Nat := none

/-- The plan of reads that answers a request. -/
def Request.question (r : Request) (region : Region) : ReadPlan Value :=
  plan r.topic region r.arguments r.second

/-- The requests and the cycles of a region between two steps. -/
structure Scene where
  region : Region
  store : Store
  cache : ResponseCache Value
  /-- A cycle has committed its rows, and is to drop the answers next. -/
  isDue : Bool := false
  /-- How many cycles have committed. -/
  commits : Nat := 0
  /-- How often the answers were dropped. -/
  drops : Nat := 0
  /-- All requests so far, in the order in which they came. -/
  requests : List Request := []

/-- A step. -/
inductive Move where
  | arrive (key : String) (topic : Topic) (arguments : Arguments) (second : Int)
  /-- A request does its next step at an instant. -/
  | proceed (i now : Nat)
  /-- A cycle commits its rows, if the store takes them. -/
  | commit (eventId : Int) (batch : Batch)
  /-- The cycle that has committed drops the answers. -/
  | invalidate
  | provision (eventId : Int) (kind : EventKind)

namespace Scene

/-- The scene of a region that no request has come to. -/
def start (region : Region) (store : Store) (cache : ResponseCache Value) : Scene :=
  { region, store, cache }

/-- A request's next step. -/
def serve (s : Scene) (now : Nat) (r : Request) : Request × Store × ResponseCache Value :=
  match r.stage with
  | .arrived =>
      match s.cache.get now s.region.name r.key with
      | some body => ({ r with stage := .finished (.ok body) }, s.store, s.cache)
      | none => ({ r with stage := .missed }, s.store, s.cache)
  | .missed =>
      ({ r with
          stage := .reading (s.cache.generation s.region.name) (r.question s.region)
          notedAt := s.drops }, s.store, s.cache)
  | .reading generation (.done body) =>
      ({ r with stage := .finished (.ok body), offeredAt := some s.drops }, s.store,
        (s.cache.put now s.region.name r.key body generation).2)
  | .reading _ (.halt why) => ({ r with stage := .finished (.error why) }, s.store, s.cache)
  | .reading generation rest =>
      ({ r with
          stage := .reading generation (s.store.read rest).1
          reads := r.reads ++ [s.commits] }, (s.store.read rest).2, s.cache)
  | .finished _ => (r, s.store, s.cache)

/-- The scene after the next step of a request at a place. -/
def proceed (s : Scene) (i now : Nat) (r : Request) : Scene :=
  { s with
    store := (s.serve now r).2.1
    cache := (s.serve now r).2.2
    requests := s.requests.set i (s.serve now r).1 }

section Serve

variable {s : Scene} {now : Nat} {r : Request}

theorem serve_hit {body : Value} (hstage : r.stage = .arrived)
    (hkept : s.cache.get now s.region.name r.key = some body) :
    s.serve now r = ({ r with stage := .finished (.ok body) }, s.store, s.cache) := by
  simp only [serve, hstage, hkept]

theorem serve_missed (hstage : r.stage = .arrived)
    (hkept : s.cache.get now s.region.name r.key = none) :
    s.serve now r = ({ r with stage := .missed }, s.store, s.cache) := by
  simp only [serve, hstage, hkept]

theorem serve_noted (hstage : r.stage = .missed) :
    s.serve now r =
      ({ r with
          stage := .reading (s.cache.generation s.region.name) (r.question s.region)
          notedAt := s.drops }, s.store, s.cache) := by
  simp only [serve, hstage]

end Serve

/-- What a step makes of a scene. While a drop is due no other cycle commits. -/
def move (s : Scene) : Move → Scene
  | .arrive key topic arguments second =>
      { s with requests := s.requests ++ [{ key, topic, arguments, second }] }
  | .proceed i now =>
      match s.requests[i]? with
      | some r => s.proceed i now r
      | none => s
  | .commit eventId batch =>
      if s.isDue then s
      else
        match s.store.record eventId batch with
        | (.ok _, store) =>
            { s with store := store, isDue := true, commits := s.commits + 1 }
        | (.error _, store) => { s with store := store }
  | .invalidate =>
      if s.isDue then
        { s with
          cache := (s.cache.invalidate s.region.name).2
          isDue := false
          drops := s.drops + 1 }
      else s
  | .provision eventId kind => { s with store := (s.store.provision eventId kind).2 }

/-- Step after step. -/
def run (s : Scene) (moves : List Move) : Scene := moves.foldl move s

/-! ## What the steps add up to -/

/-- The request `r` at a place, left alone with a plan, comes to what the plan comes to. -/
def Concludes (s : Scene) (i now : Nat) (r : Request) (generation : UInt64)
    (rest : ReadPlan Value) : Prop :=
  ∃ n r', r'.stage = .finished (s.store.run rest).1
    ∧ s.run (List.replicate n (.proceed i now)) =
      { s with
        store := (s.store.run rest).2
        cache := Fleet.keeping s.cache now s.region.name r.key generation (s.store.run rest).1
        requests := s.requests.set i r' }

section Alone

variable {s : Scene} {i now : Nat} {r : Request} {generation : UInt64} {rest : ReadPlan Value}
  (hr : s.requests[i]? = some r)
include hr

theorem move_proceed : s.move (.proceed i now) = s.proceed i now r := by
  simp only [move, hr]

theorem getElem?_proceed : (s.proceed i now r).requests[i]? = some (s.serve now r).1 := by
  have hlt : i < s.requests.length := (List.getElem?_eq_some_iff.1 hr).1
  simp only [proceed, List.getElem?_set_self hlt]

/-- The last step of a request. -/
theorem concludes_of_serve {result : Except Halt Value}
    (hrun : s.store.run rest = (result, s.store))
    (hstage : (s.serve now r).1.stage = .finished result) (hstore : (s.serve now r).2.1 = s.store)
    (hcache : (s.serve now r).2.2
      = Fleet.keeping s.cache now s.region.name r.key generation result) :
    s.Concludes i now r generation rest := by
  refine ⟨1, (s.serve now r).1, by rw [hrun, hstage], ?_⟩
  show s.move (.proceed i now) = _
  rw [move_proceed hr, proceed, hrun, hstore, hcache]

/-- A read before the last step. -/
theorem concludes_of_read
    (hserve : s.serve now r =
      ({ r with
          stage := .reading generation (s.store.read rest).1
          reads := r.reads ++ [s.commits] }, (s.store.read rest).2, s.cache))
    (h : (s.proceed i now r).Concludes i now (s.serve now r).1 generation (s.store.read rest).1) :
    s.Concludes i now r generation rest := by
  obtain ⟨n, r', hfinished, hrun⟩ := h
  have hstore : (s.proceed i now r).store = (s.store.read rest).2 := by
    simp only [proceed, hserve]
  rw [hstore, Store.run_read] at hfinished hrun
  refine ⟨n + 1, r', hfinished, ?_⟩
  show (s.move (.proceed i now)).run (List.replicate n (.proceed i now)) = _
  rw [move_proceed hr, hrun]
  simp only [proceed, hserve, List.set_set]

end Alone

/-- A request that is left alone does its reads and comes to what its plan comes to. -/
theorem concludes_of_reading (i now : Nat) {generation : UInt64} (store : Store)
    (rest : ReadPlan Value) : ∀ (s : Scene) (r : Request), s.store = store →
      s.requests[i]? = some r → r.stage = .reading generation rest →
      s.Concludes i now r generation rest := by
  induction store, rest using Store.read_induction with
  | hdone store body =>
      rintro s r rfl hr hstage
      exact concludes_of_serve hr rfl (by simp only [serve, hstage]) (by simp only [serve, hstage])
        (by simp only [serve, hstage, Fleet.keeping])
  | hhalt store why =>
      rintro s r rfl hr hstage
      exact concludes_of_serve hr rfl (by simp only [serve, hstage]) (by simp only [serve, hstage])
        (by simp only [serve, hstage, Fleet.keeping])
  | hread store rest ih =>
      rintro s r rfl hr hstage
      have hread : s.serve now r =
          ({ r with
              stage := .reading generation (s.store.read rest).1
              reads := r.reads ++ [s.commits] }, (s.store.read rest).2, s.cache) →
          s.Concludes i now r generation rest := by
        intro hserve
        exact concludes_of_read hr hserve (ih (s.proceed i now r) (s.serve now r).1
          (by simp only [proceed, hserve]) (getElem?_proceed hr) (by rw [hserve]))
      -- Where nothing is left to read, a read changes nothing.
      cases rest with
      | done body => exact ih s r rfl hr hstage
      | halt why => exact ih s r rfl hr hstage
      | eventExists e next => exact hread (by simp only [serve, hstage])
      | rankings e filter latest next => exact hread (by simp only [serve, hstage])
      | identity e user next => exact hread (by simp only [serve, hstage])

/-- A request that is left alone is answered as `Fleet.memoized` answers it. -/
theorem memoized_of_lone (f : Fleet) {region : Region} {p : Post} (hpost : f.post? region = some p)
    (now : Instant) (key : String) (topic : Topic) (a : Arguments) :
    ∃ n s r result,
      (start region p.store f.cache).run
        (.arrive key topic a now.seconds :: List.replicate n (.proceed 0 now.ticks)) = s
      ∧ s.requests = [r] ∧ r.stage = .finished result
      ∧ (f.memoized region p now key (plan topic region a now.seconds)).1 = Fleet.told result
      ∧ (f.memoized region p now key (plan topic region a now.seconds)).2.cache = s.cache
      ∧ (f.memoized region p now key (plan topic region a now.seconds)).2.post? region
        = some { p with store := s.store } := by
  let r : Request := { key, topic, arguments := a, second := now.seconds }
  let s : Scene := { start region p.store f.cache with requests := [r] }
  let question := plan topic region a now.seconds
  cases hkept : f.cache.get now.ticks region.name key with
  | some body =>
      have hrun : s.move (.proceed 0 now.ticks)
          = { s with requests := [{ r with stage := .finished (.ok body) }] } := by
        show s.proceed 0 now.ticks r = _
        rw [proceed, serve_hit (s := s) (r := r) rfl hkept]
        rfl
      refine ⟨1, _, _, .ok body, hrun, rfl, rfl, ?_⟩
      rw [Fleet.memoized, hkept]
      exact ⟨rfl, rfl, hpost⟩
  | none =>
      let generation := f.cache.generation region.name
      let missed : Request := { r with stage := .missed }
      let noted : Request := { r with stage := .reading generation question }
      have hmissed : s.move (.proceed 0 now.ticks) = { s with requests := [missed] } := by
        show s.proceed 0 now.ticks r = _
        rw [proceed, serve_missed (s := s) (r := r) rfl hkept]
        rfl
      have hnoted : { s with requests := [missed] }.move (.proceed 0 now.ticks)
          = { s with requests := [noted] } := by
        show { s with requests := [missed] }.proceed 0 now.ticks missed = _
        rw [proceed, serve_noted (r := missed) rfl]
        rfl
      obtain ⟨n, r', hfinished, hrun⟩ := concludes_of_reading 0 now.ticks p.store question
        { s with requests := [noted] } noted rfl rfl rfl
      refine ⟨n + 2, _, r', _, Eq.trans ?_ hrun, rfl, hfinished, ?_⟩
      · show ((s.move (.proceed 0 now.ticks)).move (.proceed 0 now.ticks)).run _ = _
        rw [hmissed, hnoted]
      · rw [Fleet.memoized, hkept]
        simp only [Fleet.compute_eq]
        exact ⟨rfl, rfl, Keyed.get?_put_self _ _ _⟩

/-- A cycle that is left alone writes as `Tracker.carryOut` does. -/
theorem carryOut_of_lone {s : Scene} (hdue : s.isDue = false) {t : Tracker}
    (ht : t.region = s.region) (p : Tracker.Plan) :
    (t.carryOut p ⟨s.store, s.cache⟩).2.2
      = ⟨(s.run [.commit t.eventId p.batch, .invalidate]).store,
        (s.run [.commit t.eventId p.batch, .invalidate]).cache⟩ := by
  have hrun : s.run [.commit t.eventId p.batch, .invalidate]
      = (s.move (.commit t.eventId p.batch)).move .invalidate := rfl
  rw [hrun]
  rcases hrecord : s.store.record t.eventId p.batch with ⟨f | w, store⟩
  · simp [Tracker.carryOut, move, hrecord, hdue]
  · simp [Tracker.carryOut, move, hrecord, hdue, ht]

/-! ## What a step does -/

/-- The ways a request's next step can go. -/
inductive Served (s : Scene) (now : Nat) (r : Request) :
    Request × Store × ResponseCache Value → Prop where
  | hit (body : Value) (hstage : r.stage = .arrived)
      (hkept : s.cache.get now s.region.name r.key = some body) :
      Served s now r ({ r with stage := .finished (.ok body) }, s.store, s.cache)
  | missed (hstage : r.stage = .arrived) (hkept : s.cache.get now s.region.name r.key = none) :
      Served s now r ({ r with stage := .missed }, s.store, s.cache)
  | noted (hstage : r.stage = .missed) :
      Served s now r
        ({ r with
            stage := .reading (s.cache.generation s.region.name) (r.question s.region)
            notedAt := s.drops }, s.store, s.cache)
  | offered (generation : UInt64) (body : Value)
      (hstage : r.stage = .reading generation (.done body)) :
      Served s now r
        ({ r with stage := .finished (.ok body), offeredAt := some s.drops }, s.store,
          (s.cache.put now s.region.name r.key body generation).2)
  | failed (generation : UInt64) (why : Halt)
      (hstage : r.stage = .reading generation (.halt why)) :
      Served s now r ({ r with stage := .finished (.error why) }, s.store, s.cache)
  | read (generation : UInt64) (rest : ReadPlan Value)
      (hstage : r.stage = .reading generation rest) :
      Served s now r
        ({ r with
            stage := .reading generation (s.store.read rest).1
            reads := r.reads ++ [s.commits] }, (s.store.read rest).2, s.cache)
  | finished (result : Except Halt Value) (hstage : r.stage = .finished result) :
      Served s now r (r, s.store, s.cache)

theorem served (s : Scene) (now : Nat) (r : Request) : s.Served now r (s.serve now r) := by
  cases hstage : r.stage with
  | arrived =>
      cases hkept : s.cache.get now s.region.name r.key with
      | some body => exact serve_hit hstage hkept ▸ .hit body hstage hkept
      | none => exact serve_missed hstage hkept ▸ .missed hstage hkept
  | missed => exact serve_noted hstage ▸ .noted hstage
  | reading generation rest =>
      cases rest with
      | done body => simpa only [serve, hstage] using .offered generation body hstage
      | halt why => simpa only [serve, hstage] using .failed generation why hstage
      | eventExists e next => simpa only [serve, hstage] using .read generation _ hstage
      | rankings e filter latest next => simpa only [serve, hstage] using .read generation _ hstage
      | identity e user next => simpa only [serve, hstage] using .read generation _ hstage
  | finished result => simpa only [serve, hstage] using .finished result hstage

/-- How a scene goes over into a later one, as far as it matters to requests that stand still. -/
structure Leads (s s' : Scene) : Prop where
  region : s'.region = s.region
  drops : s.drops ≤ s'.drops
  commits : s.commits ≤ s'.commits
  /-- Nothing is committed without a drop that follows. -/
  grows : s'.drops = s.drops → s'.isDue = false → s.isDue = false ∧ s.store.Grows s'.store

theorem Leads.refl (s : Scene) : s.Leads s :=
  ⟨rfl, Nat.le_refl _, Nat.le_refl _, fun _ hdue => ⟨hdue, .refl _⟩⟩

theorem leads_move (s : Scene) (m : Move) : s.Leads (s.move m) := by
  cases m with
  | arrive key topic arguments second =>
      exact ⟨rfl, Nat.le_refl _, Nat.le_refl _, fun _ hdue => ⟨hdue, .refl _⟩⟩
  | proceed i now =>
      simp only [move]
      split
      · rename_i r _
        refine ⟨rfl, Nat.le_refl _, Nat.le_refl _, fun _ hdue => ⟨hdue, ?_⟩⟩
        have hserved := s.served now r
        simp only [proceed]
        generalize s.serve now r = served at hserved ⊢
        cases hserved with
        | hit body hstage hkept => exact .refl _
        | missed hstage hkept => exact .refl _
        | noted hstage => exact .refl _
        | offered generation body hstage => exact .refl _
        | failed generation why hstage => exact .refl _
        | read generation rest hstage => exact s.store.grows_read rest
        | finished result hstage => exact .refl _
      · exact .refl s
  | commit eventId batch =>
      simp only [move]
      split
      · exact .refl s
      · rcases hrecord : s.store.record eventId batch with ⟨f | w, store⟩
        · refine ⟨rfl, Nat.le_refl _, Nat.le_refl _, fun _ hdue => ⟨hdue, ?_⟩⟩
          have hopen := s.store.isOpen_record eventId batch
          rw [hrecord] at hopen
          exact .of_database_eq hopen (Store.database_record_of_error hrecord)
        · -- The rows are in, and the drop that is due stands between.
          exact ⟨rfl, Nat.le_refl _, Nat.le_succ _, fun _ hdue => nomatch hdue⟩
  | invalidate =>
      simp only [move]
      split
      · exact ⟨rfl, Nat.le_succ _, Nat.le_refl _, fun hdrops => absurd hdrops (Nat.succ_ne_self _)⟩
      · exact .refl s
  | provision eventId kind =>
      exact ⟨rfl, Nat.le_refl _, Nat.le_refl _,
        fun _ hdue => ⟨hdue, s.store.grows_provision eventId kind⟩⟩

end Scene

end RankLedger
