import RankLedger.Proofs.Answers.Scene

set_option autoImplicit false

/-! # Answers kept while cycles write

Between cycles an answer that is kept is what its question comes to now, in whatever order requests
and cycles take their steps (`Scene.kept_answers_current`).

The invariant is `Scene.Sound`. Commits and drops are counted: a request that noted the generation
when as many drops had been made as now, and finds no drop due, has done all its reads after the
latest commit, and since then the store has gained nothing but tables without content. -/

namespace RankLedger

open Api
open Json (Value)

/-! ## The invariant -/

section Invariant

variable (start : UInt64) (s : Scene)

/-- What holds of a request, if the generation was `start` at the beginning. -/
structure Request.Sound (r : Request) : Prop where
  noted : r.notedAt ≤ s.drops
  unread : r.stage = .arrived ∨ r.stage = .missed → r.reads = []
  reads : ∀ n ∈ r.reads, r.notedAt ≤ n ∧ n ≤ s.commits
  reading : ∀ generation rest, r.stage = .reading generation rest →
    generation = start + UInt64.ofNat r.notedAt ∧ rest.IsSteady ∧
      (r.notedAt = s.drops → s.isDue = false →
        (∃ why, rest = .halt why) ∨ s.store.Resumes (r.question s.region) rest)

/-- What holds of a request whose answer is kept. -/
structure Request.Holds (r : Request) (key : String) (body : Value) : Prop where
  key : r.key = key
  stage : r.stage = .finished (.ok body)
  offered : r.offeredAt = some s.drops
  generation : start + UInt64.ofNat r.notedAt = start + UInt64.ofNat s.drops
  lasts : r.notedAt = s.drops → s.isDue = false →
    s.store.Resumes (r.question s.region) (.done body)

/-- What holds of a scene at any time. -/
structure Scene.Sound : Prop where
  commits : s.commits = s.drops + s.isDue.toNat
  generation : s.cache.generation s.region.name = start + UInt64.ofNat s.drops
  requests : ∀ r ∈ s.requests, r.Sound start s
  answers : ∀ p ∈ (s.cache.space s.region.name).answers,
    ∃ r ∈ s.requests, r.Holds start s p.1 p.2.value

end Invariant

section Step

variable {start : UInt64} {s s' : Scene}

/-- A request that stands still stays sound. -/
theorem Request.Sound.of_leads {r : Request} (h : r.Sound start s) (hs : s.Leads s') :
    r.Sound start s' := by
  refine ⟨Nat.le_trans h.noted hs.drops, h.unread, fun n hn => ?_, fun generation rest hstage => ?_⟩
  · exact ⟨(h.reads n hn).1, Nat.le_trans (h.reads n hn).2 hs.commits⟩
  · obtain ⟨hgeneration, hsteady, hresumes⟩ := h.reading generation rest hstage
    refine ⟨hgeneration, hsteady, fun hnoted hdue => ?_⟩
    -- The request noted as many drops as there are now, so none came in between.
    have hdrops : s'.drops = s.drops := Nat.le_antisymm (hnoted ▸ h.noted) hs.drops
    obtain ⟨hdue', hgrows⟩ := hs.grows hdrops hdue
    rw [hs.region]
    exact (hresumes (hnoted.trans hdrops) hdue').imp_right (·.of_grows hgrows)

/-- A kept answer that stays is as good as before. -/
theorem Request.Holds.of_leads {r : Request} {key : String} {body : Value}
    (h : r.Holds start s key body) (hs : s.Leads s') (hdrops : s'.drops = s.drops) :
    r.Holds start s' key body := by
  refine ⟨h.key, h.stage, hdrops ▸ h.offered, hdrops ▸ h.generation, fun hnoted hdue => ?_⟩
  obtain ⟨hdue', hgrows⟩ := hs.grows hdrops hdue
  rw [hs.region]
  exact (h.lasts (hnoted.trans hdrops) hdue').of_grows hgrows

/-- A request that finishes is as sound as before. -/
theorem Request.Sound.finish {r r' : Request} (h : r.Sound start s) {result : Except Halt Value}
    (hstage : r'.stage = .finished result) (hnoted : r'.notedAt = r.notedAt)
    (hreads : r'.reads = r.reads) (hdrops : s'.drops = s.drops)
    (hcommits : s'.commits = s.commits) : r'.Sound start s' := by
  refine ⟨?_, fun h => ?_, ?_, fun generation rest h => ?_⟩
  · rw [hnoted, hdrops]
    exact h.noted
  · rw [hstage] at h
    rcases h with h | h <;> cases h
  · rw [hreads, hnoted, hcommits]
    exact h.reads
  · rw [hstage] at h
    cases h

/-- A request's own step keeps it sound. -/
theorem Request.Sound.serve {r : Request} (hr : r.Sound start s) (hs : s.Sound start)
    (i now : Nat) : (s.serve now r).1.Sound start (s.proceed i now r) := by
  have hserved := s.served now r
  simp only [Scene.proceed]
  generalize s.serve now r = served at hserved ⊢
  cases hserved with
  | hit body hstage hkept => exact hr.finish rfl rfl rfl rfl rfl
  | missed hstage hkept =>
      exact ⟨hr.noted, fun _ => hr.unread (Or.inl hstage), hr.reads, fun _ _ h => by cases h⟩
  | noted hstage =>
      have hreads := hr.unread (Or.inr hstage)
      refine ⟨Nat.le_refl _, fun _ => hreads, fun n hn => ?_, fun generation rest h => ?_⟩
      · rw [hreads] at hn
        cases hn
      · obtain ⟨rfl, rfl⟩ := Stage.reading.inj h
        exact ⟨hs.generation, isSteady_plan _ _ _ _, fun _ _ => Or.inr (.refl _ _)⟩
  | offered generation body hstage => exact hr.finish rfl rfl rfl rfl rfl
  | failed generation why hstage => exact hr.finish rfl rfl rfl rfl rfl
  | read generation rest hstage =>
      obtain ⟨hgeneration, hsteady, hresumes⟩ := hr.reading generation rest hstage
      refine ⟨hr.noted, fun h => (by rcases h with h | h <;> cases h), fun n hn => ?_,
        fun generation' rest' h => ?_⟩
      · rcases List.mem_append.1 hn with hn | hn
        · exact hr.reads n hn
        · -- Only the last commit may lack its drop, so there are as many commits as drops at least.
          obtain rfl := List.mem_singleton.1 hn
          have hnoted := hr.noted
          have hcommits := hs.commits
          have hle : r.notedAt ≤ s.commits := by omega
          exact ⟨hle, Nat.le_refl _⟩
      · obtain ⟨rfl, rfl⟩ := Stage.reading.inj h
        refine ⟨hgeneration, s.store.isSteady_read hsteady, fun hnoted hdue => ?_⟩
        rcases hresumes hnoted hdue with ⟨why, rfl⟩ | hresumes
        · exact Or.inl ⟨why, rfl⟩
        · refine (s.store.resumes_read hsteady).imp_right fun hread => ?_
          exact (hresumes.trans hread).of_grows (s.store.grows_read rest)
  | finished result hstage => exact hr.finish hstage rfl rfl rfl rfl

/-- A request that is finished stays among the requests. -/
theorem mem_set_serve {i : Nat} {r r' : Request} {result : Except Halt Value}
    (hr : s.requests[i]? = some r) (hr' : r' ∈ s.requests) (hfinished : r'.stage = .finished result)
    (now : Nat) : r' ∈ s.requests.set i (s.serve now r).1 := by
  obtain ⟨j, hj⟩ := List.mem_iff_getElem?.1 hr'
  refine List.mem_iff_getElem?.2 ⟨j, ?_⟩
  by_cases hij : i = j
  · subst hij
    obtain rfl : r = r' := Option.some.inj (hr.symm.trans hj)
    have hlt : i < s.requests.length := (List.getElem?_eq_some_iff.1 hr).1
    rw [List.getElem?_set_self hlt]
    simp only [Scene.serve, hfinished]
  · rw [List.getElem?_set_ne hij, hj]

/-- What is kept after a request's step was kept before, or is what the request offered under the
generation that it noted. -/
theorem Request.Sound.holds_serve {r : Request} (hr : r.Sound start s) (hs : s.Sound start)
    (i now : Nat) {p : String × KeptAnswer Value}
    (hp : p ∈ ((s.serve now r).2.2.space s.region.name).answers) :
    p ∈ (s.cache.space s.region.name).answers
      ∨ (s.serve now r).1.Holds start (s.proceed i now r) p.1 p.2.value := by
  have hserved := s.served now r
  simp only [Scene.proceed]
  generalize s.serve now r = served at hserved hp ⊢
  cases hserved with
  | hit body hstage hkept => exact Or.inl hp
  | missed hstage hkept => exact Or.inl hp
  | noted hstage => exact Or.inl hp
  | offered generation body hstage =>
      rcases s.cache.mem_answers_put now _ _ hp with hp | ⟨rfl, hgeneration⟩
      · exact Or.inl hp
      · obtain ⟨rfl, -, hresumes⟩ := hr.reading generation (.done body) hstage
        refine Or.inr ⟨rfl, rfl, rfl, hgeneration.symm.trans hs.generation, fun hnoted hdue => ?_⟩
        rcases hresumes hnoted hdue with ⟨why, hwhy⟩ | hresumes
        · cases hwhy
        · exact hresumes
  | failed generation why hstage => exact Or.inl hp
  | read generation rest hstage => exact Or.inl hp
  | finished result hstage => exact Or.inl hp

/-- A request's step leaves the generation. -/
theorem generation_serve (s : Scene) (now : Nat) (r : Request) :
    (s.serve now r).2.2.generation s.region.name = s.cache.generation s.region.name := by
  have hserved := s.served now r
  generalize s.serve now r = served at hserved ⊢
  cases hserved with
  | offered generation body hstage => exact s.cache.generation_put _ _ _ _ _ _
  | hit body hstage hkept => rfl
  | missed hstage hkept => rfl
  | noted hstage => rfl
  | failed generation why hstage => rfl
  | read generation rest hstage => rfl
  | finished result hstage => rfl

/-- A step that leaves the requests and the answers keeps a scene sound. -/
theorem Scene.Sound.of_leads (h : s.Sound start) (hs : s.Leads s')
    (hcommits : s'.commits = s'.drops + s'.isDue.toNat) (hdrops : s'.drops = s.drops)
    (hrequests : s'.requests = s.requests) (hcache : s'.cache = s.cache) : s'.Sound start := by
  refine ⟨hcommits, ?_, fun r hr => ?_, fun p hp => ?_⟩
  · rw [hcache, hs.region, hdrops]
    exact h.generation
  · rw [hrequests] at hr
    exact (h.requests r hr).of_leads hs
  · rw [hcache, hs.region] at hp
    obtain ⟨r, hr, hholds⟩ := h.answers p hp
    exact ⟨r, hrequests ▸ hr, hholds.of_leads hs hdrops⟩

theorem Scene.Sound.arrive (h : s.Sound start) (key : String) (topic : Topic)
    (arguments : Arguments) (second : Int) :
    (s.move (.arrive key topic arguments second)).Sound start := by
  have hleads := s.leads_move (.arrive key topic arguments second)
  refine ⟨h.commits, h.generation, fun r hr => ?_, fun p hp => ?_⟩
  · rcases List.mem_append.1 hr with hr | hr
    · exact (h.requests r hr).of_leads hleads
    · obtain rfl := List.mem_singleton.1 hr
      exact ⟨Nat.zero_le _, fun _ => rfl, fun _ hn => (nomatch hn), fun _ _ h => (nomatch h)⟩
  · obtain ⟨r, hr, hholds⟩ := h.answers p hp
    exact ⟨r, List.mem_append_left _ hr, hholds.of_leads hleads rfl⟩

theorem Scene.Sound.proceed (h : s.Sound start) {i : Nat} {r : Request}
    (hr : s.requests[i]? = some r) (now : Nat) : (s.proceed i now r).Sound start := by
  have hleads : s.Leads (s.proceed i now r) := by
    have hmove := s.leads_move (.proceed i now)
    rwa [move_proceed hr] at hmove
  have hsound := h.requests r (List.mem_of_getElem? hr)
  refine ⟨h.commits, (generation_serve s now r).trans h.generation, fun r' hr' => ?_,
    fun p hp => ?_⟩
  · rcases List.mem_or_eq_of_mem_set hr' with hr' | rfl
    · exact (h.requests r' hr').of_leads hleads
    · exact hsound.serve h i now
  · rcases hsound.holds_serve h i now hp with hp | hholds
    · obtain ⟨r', hr', hholds⟩ := h.answers p hp
      exact ⟨r', mem_set_serve hr hr' hholds.stage now, hholds.of_leads hleads rfl⟩
    · exact ⟨_, List.mem_of_getElem? (getElem?_proceed hr), hholds⟩

/-- With a drop the answers are gone, and the generation moves on. -/
theorem Scene.Sound.invalidate (h : s.Sound start) (hdue : s.isDue = true) :
    (s.move .invalidate).Sound start := by
  have hleads := s.leads_move .invalidate
  simp only [Scene.move, if_pos hdue] at hleads ⊢
  refine ⟨?_, ?_, fun r hr => (h.requests r hr).of_leads hleads, fun p hp => ?_⟩
  · have hcommits := h.commits
    rw [hdue] at hcommits
    exact hcommits
  · rw [ResponseCache.generation_invalidate, h.generation, UInt64.ofNat_add, UInt64.add_assoc]
    rfl
  · rw [ResponseCache.answers_invalidate] at hp
    cases hp

/-- Every step keeps a scene sound. -/
theorem Scene.Sound.move (h : s.Sound start) (m : Move) : (s.move m).Sound start := by
  have hleads := s.leads_move m
  cases m with
  | arrive key topic arguments second => exact h.arrive key topic arguments second
  | proceed i now =>
      cases hr : s.requests[i]? with
      | none => simpa only [Scene.move, hr] using h
      | some r => simpa only [move_proceed hr] using h.proceed hr now
  | commit eventId batch =>
      cases hdue : s.isDue with
      | true => simpa only [Scene.move, hdue, if_true] using h
      | false =>
          have hcommits := h.commits
          rw [hdue] at hcommits
          simp only [Scene.move, hdue, Bool.false_eq_true, if_false] at hleads ⊢
          rcases hrecord : s.store.record eventId batch with ⟨f | w, store⟩
          · rw [hrecord] at hleads
            exact h.of_leads hleads hcommits rfl rfl rfl
          · rw [hrecord] at hleads
            exact h.of_leads hleads (congrArg (· + 1) hcommits) rfl rfl rfl
  | invalidate =>
      cases hdue : s.isDue with
      | true => exact h.invalidate hdue
      | false => simpa only [Scene.move, hdue, Bool.false_eq_true, if_false] using h
  | provision eventId kind => exact h.of_leads hleads h.commits rfl rfl rfl

theorem Scene.Sound.run (h : s.Sound start) (moves : List Move) : (s.run moves).Sound start := by
  induction moves generalizing s with
  | nil => exact h
  | cons m moves ih => exact ih (h.move m)

end Step

/-! ## Kept answers are current -/

namespace Scene

theorem sound_start (region : Region) (store : Store) {cache : ResponseCache Value}
    (h : (cache.space region.name).answers = []) :
    (start region store cache).Sound (cache.generation region.name) := by
  refine ⟨rfl, (UInt64.add_zero _).symm, fun r hr => (nomatch hr), fun p hp => ?_⟩
  have hp' : p ∈ (cache.space region.name).answers := hp
  rw [h] at hp'
  cases hp'

theorem region_run (s : Scene) (moves : List Move) : (s.run moves).region = s.region := by
  induction moves generalizing s with
  | nil => rfl
  | cons m moves ih => exact (ih (s.move m)).trans (s.leads_move m).region

/-- In whatever order requests about a region, its recording cycles and the making of tables take
their steps, whenever no drop is due, each answer that is kept is that of a request which did all
its reads after the latest commit, and it is what the request's question comes to now. This is so
as long as the generation does not come round between the noting of it and the offer. -/
theorem kept_answers_current (region : Region) (store : Store) (cache : ResponseCache Value)
    (hcache : (cache.space region.name).answers = []) (moves : List Move)
    (hdue : ((start region store cache).run moves).isDue = false)
    (hround : ∀ r ∈ ((start region store cache).run moves).requests,
      ∀ n ∈ r.offeredAt, n < r.notedAt + UInt64.size) :
    ∀ p ∈ (((start region store cache).run moves).cache.space region.name).answers,
      ∃ r ∈ ((start region store cache).run moves).requests, r.key = p.1
        ∧ (∀ n ∈ r.reads, n = ((start region store cache).run moves).commits)
        ∧ ∀ second, r.topic ≠ .growth ∨ second = r.second →
          (((start region store cache).run moves).store.run
            (plan r.topic region r.arguments second)).1 = .ok p.2.value := by
  have hsound := (sound_start region store hcache).run moves
  have hregion := region_run (start region store cache) moves
  generalize (start region store cache).run moves = s at hdue hround hsound hregion ⊢
  obtain rfl : s.region = region := hregion
  intro p hp
  obtain ⟨r, hr, hholds⟩ := hsound.answers p hp
  have hrsound := hsound.requests r hr
  -- The offer was taken in, so both counts of drops give one generation.
  have hnoted : r.notedAt = s.drops :=
    ResponseCache.ofNat_inj_of_lt ((UInt64.add_right_inj _).1 hholds.generation) hrsound.noted
      (hround r hr s.drops hholds.offered)
  have hcommits : s.commits = s.drops := by
    have hcount := hsound.commits
    rwa [hdue] at hcount
  refine ⟨r, hr, hholds.key, fun n hn => ?_, fun second hsecond => ?_⟩
  · obtain ⟨hlow, hhigh⟩ := hrsound.reads n hn
    omega
  · have hrun := (hholds.lasts hnoted hdue).run_eq
    rcases hsecond with htopic | rfl
    · rwa [Request.question, plan_clock htopic _ _ _ second] at hrun
    · exact hrun

/-- Two requests that straddle a commit, and a third that comes after the drop. -/
def straddlingMoves : List Move :=
  let ask := fun key rank =>
    Move.arrive key .latest { server := "jp", eventId := 1, rank := some rank } 0
  let proceed := fun i n => List.replicate n (Move.proceed i 0)
  [.provision 1 .marathon, ask "/a" 1, ask "/b" 1] ++ proceed 0 3 ++ proceed 1 3
    ++ [.commit 1 { rankings := [⟨5, "u", 7, 1, none⟩] }] ++ proceed 0 3
    ++ [.invalidate] ++ proceed 1 3 ++ [ask "/c" 1] ++ proceed 2 6

/-- Of the three requests only the last one's answer is kept, and it is current. -/
theorem kept_answers_current_straddling :
    let s := (start .jp {} (.empty 60)).run straddlingMoves
    (s.cache.space "jp").answers.map (·.1) = ["/c"]
      ∧ ∀ p ∈ (s.cache.space "jp").answers, ∃ r ∈ s.requests, r.key = p.1
        ∧ (∀ n ∈ r.reads, n = 1)
        ∧ ∀ second, r.topic ≠ .growth ∨ second = r.second →
          (s.store.run (plan r.topic .jp r.arguments second)).1 = .ok p.2.value := by
  have hdue : ((start .jp {} (.empty 60)).run straddlingMoves).isDue = false := by decide +kernel
  have hround : ∀ r ∈ ((start .jp {} (.empty 60)).run straddlingMoves).requests,
      ∀ n ∈ r.offeredAt, n < r.notedAt + UInt64.size := by decide +kernel
  have hcommits : ((start .jp {} (.empty 60)).run straddlingMoves).commits = 1 := by
    decide +kernel
  refine ⟨by decide +kernel, ?_⟩
  have hcurrent := kept_answers_current .jp {} (.empty 60) rfl straddlingMoves hdue hround
  rwa [hcommits] at hcurrent

end Scene

end RankLedger
