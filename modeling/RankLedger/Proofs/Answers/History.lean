import RankLedger.Proofs.Answers.Kept
import RankLedger.Proofs.Answers.Steady
import RankLedger.Proofs.Tracking.Station

set_option autoImplicit false

/-! # Answers along a history

Along every history of cycles and requests, what is kept never shows: a request is answered as it
would be if nothing were kept (`Fleet.respond_as_if_nothing_kept`). The invariant is `Fleet.Sound`:
each daemon works for the region of its post, and each answer kept under a path is what the path's
question comes to on the store of its region, now and however many tables without content the store
gains. A cycle either drops the answers of its region or does no more to its store than that. -/

namespace RankLedger

open Api
open Json (Value)

namespace Fleet

/-! ## Histories -/

/-- Something that happens to a fleet. -/
inductive Step where
  | cycle (w : World) (region : Region)
  | request (now : Instant) (method path : String)

/-- The fleet after something has happened. -/
def step (f : Fleet) : Step → Fleet
  | .cycle w region => (f.cycle w region).fleet
  | .request now method path => (f.respond now method path).2

/-- The fleet after one thing after another has happened. -/
def after (f : Fleet) (steps : List Step) : Fleet := steps.foldl step f

/-- Every daemon works for the region of its post. -/
def IsPlaced (f : Fleet) : Prop :=
  ∀ region p, f.post? region = some p → p.daemon.WorksFor region

theorem post?_putPost (f : Fleet) (region : Region) (p : Post) (region' : Region) :
    (f.putPost region p).post? region' = if region = region' then some p else f.post? region' :=
  Keyed.get?_put f.posts region p region'

theorem isPlaced_putPost {f : Fleet} {region : Region} {p : Post} (h : f.IsPlaced)
    (hp : p.daemon.WorksFor region) : (f.putPost region p).IsPlaced := by
  intro region' p' hp'
  rw [post?_putPost] at hp'
  split at hp'
  · rename_i hregion
    obtain rfl := Option.some.inj hp'
    exact hregion ▸ hp
  · exact h region' p' hp'

theorem isPlaced_empty (lifetime : Nat) : (empty lifetime).IsPlaced := fun _ _ h => nomatch h

/-- A post that is set up is in its place. -/
theorem isPlaced_register {f f' : Fleet} {region : Region} {store : Store} {isServed : Bool}
    (h : f.IsPlaced) (hf : f.register region store isServed = .ok f') : f'.IsPlaced := by
  unfold register at hf
  split at hf
  · cases hf
  · obtain rfl := Except.ok.inj hf
    exact isPlaced_putPost h (Daemon.worksFor_idle region)

/-! ## The invariant -/

/-- An answer is what the question of a path comes to on the store of a region, now and for good;
answers about growth, which pass with time, are let be. -/
def Vouches (f : Fleet) (region : Region) (path : String) (body : Value) : Prop :=
  ∃ e pieces a p, Endpoint.find? path = some (e, pieces) ∧ Arguments.ofPieces pieces = .ok a
    ∧ f.post? region = some p
    ∧ (e.topic ≠ .growth → ∀ second,
      p.store.Resumes (plan e.topic region a second) (.done body))

/-- Each daemon is in its place, and each answer is vouched for. -/
structure Sound (f : Fleet) : Prop where
  placed : f.IsPlaced
  answers : ∀ (region : Region), ∀ q ∈ (f.cache.space region.name).answers,
    f.Vouches region q.1 q.2.value

/-- What is vouched for stays so while stores gain nothing but tables without content. -/
theorem Vouches.of_grows {f f' : Fleet} {region : Region} {path : String} {body : Value}
    (h : f.Vouches region path body)
    (hf : ∀ p, f.post? region = some p → ∃ p', f'.post? region = some p' ∧ p.store.Grows p'.store) :
    f'.Vouches region path body := by
  obtain ⟨e, pieces, a, p, hfind, hpieces, hpost, hlasts⟩ := h
  obtain ⟨p', hpost', hgrows⟩ := hf p hpost
  exact ⟨e, pieces, a, p', hfind, hpieces, hpost',
    fun htopic second => (hlasts htopic second).of_grows hgrows⟩

/-! ## Requests -/

theorem post?_of_served {f : Fleet} {name : String} {region : Region} {p : Post}
    (h : f.served name = .ok (region, p)) : f.post? region = some p := by
  unfold served at h
  cases hparse : Region.parse name with
  | error e =>
      rw [hparse] at h
      cases h
  | ok r =>
      rw [hparse] at h
      simp only [bind, Except.bind] at h
      split at h
      · rename_i p' hpost
        obtain ⟨rfl, rfl⟩ := Prod.mk.inj (Except.ok.inj h)
        exact (Option.filter_eq_some_iff.1 hpost).1
      · cases h

section Request

variable {f : Fleet} (h : f.Sound)
include h

/-- A post changes. Answers that stay are vouched for as before, if none are of its region or its
store has gained nothing but tables without content; those that come have to be vouched for. -/
theorem Sound.putPost {region : Region} {p p' : Post} {cache : ResponseCache Value}
    (hp : f.post? region = some p) (hdaemon : p'.daemon.WorksFor region)
    (hcache : ∀ (r : Region), ∀ q ∈ (cache.space r.name).answers,
      q ∈ (f.cache.space r.name).answers ∧ (region = r → p.store.Grows p'.store)
        ∨ Vouches { f.putPost region p' with cache := cache } r q.1 q.2.value) :
    Sound { f.putPost region p' with cache := cache } := by
  refine ⟨isPlaced_putPost h.placed hdaemon, fun r q hq => ?_⟩
  rcases hcache r q hq with ⟨hq, hgrows⟩ | hvouches
  · refine (h.answers r q hq).of_grows fun p₁ hp₁ => ?_
    have hput := f.post?_putPost region p' r
    split at hput
    · rename_i hregion
      rw [← hregion, hp] at hp₁
      obtain rfl := Option.some.inj hp₁
      exact ⟨p', hput, hgrows hregion⟩
    · exact ⟨p₁, hput.trans hp₁, .refl _⟩
  · exact hvouches

/-- Answering from the store keeps a fleet sound. -/
theorem Sound.compute {region : Region} {p : Post} (hp : f.post? region = some p) (now : Instant)
    {path : String} {e : Endpoint} {pieces : List (Param × String)} {a : Arguments}
    (hfind : Endpoint.find? path = some (e, pieces)) (ha : Arguments.ofPieces pieces = .ok a) :
    (f.compute region p now path (plan e.topic region a now.seconds)).2.Sound := by
  have hgrows : p.store.Grows (p.store.run (plan e.topic region a now.seconds)).2 :=
    .of_database_eq (Store.isOpen_run _ _) (Store.database_run _ _)
  rw [compute_eq]
  refine h.putPost hp (h.placed region p hp) fun r q hq => ?_
  cases hrun : (p.store.run (plan e.topic region a now.seconds)).1 with
  | error why =>
      rw [hrun] at hq
      exact Or.inl ⟨hq, fun _ => hgrows⟩
  | ok body =>
      simp only [hrun, keeping] at hq ⊢
      by_cases hr : region = r
      · subst hr
        refine (f.cache.mem_answers_put _ _ _ hq).imp (fun hq => ⟨hq, fun _ => hgrows⟩) ?_
        rintro ⟨rfl, -⟩
        refine ⟨e, pieces, a, _, hfind, ha, Keyed.get?_put_self _ _ _, fun htopic second => ?_⟩
        rw [plan_clock htopic region a second now.seconds]
        exact (Store.resumes_of_run (isSteady_plan _ _ _ _) hrun).of_grows hgrows
      · have hname : region.name ≠ r.name := fun hname => hr (Region.name_inj hname)
        rw [ResponseCache.space_put_of_ne _ _ _ _ _ hname] at hq
        exact Or.inl ⟨hq, fun _ => hgrows⟩

theorem Sound.memoized {region : Region} {p : Post} (hp : f.post? region = some p) (now : Instant)
    {path : String} {e : Endpoint} {pieces : List (Param × String)} {a : Arguments}
    (hfind : Endpoint.find? path = some (e, pieces)) (ha : Arguments.ofPieces pieces = .ok a) :
    (f.memoized region p now path (plan e.topic region a now.seconds)).2.Sound := by
  unfold Fleet.memoized
  split
  · exact h
  · exact h.compute hp now hfind ha

theorem Sound.answer (now : Instant) {path : String} {e : Endpoint}
    {pieces : List (Param × String)} (hfind : Endpoint.find? path = some (e, pieces)) :
    (f.answer now path e pieces).2.Sound := by
  unfold Fleet.answer
  split
  · exact h
  · split
    · exact h
    · rename_i a ha
      split
      · exact h
      · rename_i region p hserved
        exact h.memoized (post?_of_served hserved) now hfind ha

/-- Answering a request keeps a fleet sound. -/
theorem Sound.respond (now : Instant) (method path : String) :
    (f.respond now method path).2.Sound := by
  unfold Fleet.respond
  split
  · exact h
  · rename_i e pieces hfind
    split
    · exact h.answer now hfind
    · split
      · exact h.answer now hfind
      · exact h

end Request

/-! ## Cycles -/

/-- A cycle keeps a fleet sound, however it goes. -/
theorem Sound.cycle {f : Fleet} (h : f.Sound) (w : World) (region : Region) :
    (f.cycle w region).fleet.Sound := by
  unfold Fleet.cycle
  split
  · exact h
  · rename_i p hp
    split
    · exact h
    · let o : Occasion := ⟨w.files region, w.feed, ⟨p.store, f.cache⟩, w.now⟩
      have hworks := h.placed region p hp
      have hsink := hworks.sink_meet (o := o)
      show Sound { f.putPost region
          { p with daemon := (p.daemon.meet o).daemon, store := (p.daemon.meet o).sink.store } with
        cache := (p.daemon.meet o).sink.cache }
      refine h.putPost hp hworks.meet fun r q hq => Or.inl ?_
      rcases hsink with ⟨hcache, hgrows⟩ | hcache
      · rw [hcache] at hq
        exact ⟨hq, fun _ => hgrows⟩
      · -- The answers of the region are gone, and those of the others are as they were.
        rw [hcache, ResponseCache.space_invalidate] at hq
        by_cases hr : region = r
        · rw [if_pos (congrArg Region.name hr)] at hq
          cases hq
        · rw [if_neg (fun hname => hr (Region.name_inj hname))] at hq
          exact ⟨hq, fun hr' => absurd hr' hr⟩

theorem Sound.step {f : Fleet} (h : f.Sound) (s : Step) : (f.step s).Sound := by
  cases s with
  | cycle w region => exact h.cycle w region
  | request now method path => exact h.respond now method path

theorem Sound.after {f : Fleet} (h : f.Sound) (steps : List Step) : (f.after steps).Sound := by
  induction steps generalizing f with
  | nil => exact h
  | cons s steps ih => exact ih (h.step s)

/-! ## Nothing shows -/

theorem memoized_of_get_eq_none {f : Fleet} {region : Region} {p : Post} {now : Instant}
    {key : String} {question : ReadPlan Value}
    (h : f.cache.get now.ticks region.name key = none) :
    (f.memoized region p now key question).1 = told (p.store.run question).1 := by
  rw [memoized, h]
  exact congrArg Prod.fst (f.compute_eq region p now key question)

/-- A sound fleet answers with what the store says now, kept or not. -/
theorem Sound.memoized_eq {f : Fleet} (h : f.Sound) {region : Region} {p : Post}
    (hp : f.post? region = some p) (now : Instant) {path : String} {e : Endpoint}
    {pieces : List (Param × String)} {a : Arguments} (htopic : e.topic ≠ .growth)
    (hfind : Endpoint.find? path = some (e, pieces)) (ha : Arguments.ofPieces pieces = .ok a) :
    (f.memoized region p now path (plan e.topic region a now.seconds)).1
      = told (p.store.run (plan e.topic region a now.seconds)).1 := by
  cases hkept : f.cache.get now.ticks region.name path with
  | none => exact memoized_of_get_eq_none hkept
  | some body =>
      obtain ⟨since, hmem⟩ := f.cache.mem_answers_of_get _ _ _ hkept
      obtain ⟨e', pieces', a', p', hfind', ha', hp', hlasts⟩ := h.answers region _ hmem
      -- The path alone tells the endpoint, the arguments and the region.
      obtain ⟨rfl, rfl⟩ := Prod.mk.inj (Option.some.inj (hfind.symm.trans hfind'))
      obtain rfl := Except.ok.inj (ha.symm.trans ha')
      obtain rfl := Option.some.inj (hp.symm.trans hp')
      rw [Fleet.memoized, hkept, (hlasts htopic now.seconds).run_eq]
      rfl

theorem Sound.answer_eq {f : Fleet} (h : f.Sound) (now : Instant) {path : String} {e : Endpoint}
    {pieces : List (Param × String)} (htopic : e.topic ≠ .growth)
    (hfind : Endpoint.find? path = some (e, pieces)) (lifetime : Nat) :
    (f.answer now path e pieces).1
      = ({ f with cache := .empty lifetime }.answer now path e pieces).1 := by
  unfold Fleet.answer
  split
  · rfl
  · split
    · rfl
    · rename_i a ha
      have hserved : { f with cache := .empty lifetime }.served a.server = f.served a.server := rfl
      rw [hserved]
      split
      · rfl
      · rename_i region p hserved
        rw [h.memoized_eq (post?_of_served hserved) now htopic hfind ha]
        exact (memoized_of_get_eq_none rfl).symm

/-- Along every history of cycles and requests, however the cycles go, a request is answered as it
would be on the same stores if no answer were kept; a request about growth alone may differ, which
asks about the time until now. -/
theorem respond_as_if_nothing_kept (f : Fleet) (hplaced : f.IsPlaced)
    (hcache : ∀ region : Region, (f.cache.space region.name).answers = []) (steps : List Step)
    (now : Instant) (method path : String)
    (hpath : ∀ e pieces, Endpoint.find? path = some (e, pieces) → e.topic ≠ .growth)
    (lifetime : Nat) :
    ((f.after steps).respond now method path).1
      = ({ f.after steps with cache := .empty lifetime }.respond now method path).1 := by
  have hsound : (f.after steps).Sound := by
    refine Sound.after ⟨hplaced, fun region q hq => ?_⟩ steps
    rw [hcache region] at hq
    cases hq
  generalize f.after steps = f at hsound ⊢
  unfold respond
  split
  · rfl
  · rename_i e pieces hfind
    have hanswer := hsound.answer_eq now (hpath e pieces hfind) hfind lifetime
    split
    · exact hanswer
    · split
      · exact congrArg (Option.map Reply.head) hanswer
      · rfl

/-- A fleet of one post. -/
def lonePost : Fleet := (empty 60).putPost .jp ⟨.idle .jp, {}, true⟩

/-- Two cycles in the midst of an event, and a question before and after the second. -/
def askedTwice : List Step :=
  let events := Bytes.ofText "[[1,\"marathon\",0,1000000,2000000,\"e\"]]"
  let cycle := fun now score => Step.cycle
    { files := fun _ => { events := some events }
      feed := fun _ => .ok { standings := [⟨"u", 1, score, "U", none, none⟩] }
      held := []
      now := now } .jp
  let ask := Step.request ⟨0, 0⟩ "GET" "/event/jp/1/latest-ranking/rank/1"
  [cycle 1000 50, ask, cycle 2000 60, ask]

/-- The answer to the second question is kept, and is what the store says. -/
theorem respond_as_if_nothing_kept_asked_twice :
    lonePost.IsPlaced ∧ (∀ region : Region, (lonePost.cache.space region.name).answers = [])
      ∧ ((lonePost.after askedTwice).cache.space "jp").answers.map (·.1)
        = ["/event/jp/1/latest-ranking/rank/1"]
      ∧ ((lonePost.after askedTwice).respond ⟨0, 0⟩ "GET" "/event/jp/1/latest-ranking/rank/1").1
        = ({ lonePost.after askedTwice with cache := .empty 60 }.respond ⟨0, 0⟩ "GET"
          "/event/jp/1/latest-ranking/rank/1").1 := by
  have hregister : (empty 60).register .jp {} true = .ok lonePost := rfl
  have hplaced : lonePost.IsPlaced := isPlaced_register (isPlaced_empty 60) hregister
  have hcache : ∀ region : Region, (lonePost.cache.space region.name).answers = [] := fun _ => rfl
  refine ⟨hplaced, hcache, by decide +kernel, ?_⟩
  refine respond_as_if_nothing_kept lonePost hplaced hcache askedTwice _ _ _ ?_ _
  intro e pieces h
  have htopic : (Endpoint.find? "/event/jp/1/latest-ranking/rank/1").map (·.1.topic)
      = some .latest := by decide +kernel
  rw [h] at htopic
  have hlatest : e.topic = .latest := Option.some.inj htopic
  rw [hlatest]
  decide

end Fleet

end RankLedger
