import Mathlib.Data.List.Nodup
import RankLedger.Proofs.Answers.History
import RankLedger.Proofs.Fleet.Shift

set_option autoImplicit false

/-! # Regions keep apart

However the cycles of a tick take turns, each region ends as if its cycle had been the only one
(`Fleet.regions_apart`). The regions share the cache of answers, and nothing else: a step of one
leaves the bench of another as it is, so after any steps the bench of a region has seen its own
steps and no others (`Shift.bench?_run`), and these add up to its cycle on its own. -/

namespace RankLedger

/-! ## A tick in progress -/

/-- A fleet in the midst of a tick. -/
structure Shift where
  fleet : Fleet
  errands : Region → Errand

namespace Shift

/-- All regions are sent off. -/
def start (f : Fleet) : Shift := ⟨f, fun _ => .called⟩

/-- What belongs to a region. -/
def bench? (s : Shift) (region : Region) : Option Bench :=
  (s.fleet.post? region).map fun p =>
    ⟨p, s.fleet.cache.space region.name, s.errands region⟩

/-- The cycle of a region does its next step, at its own post and in the cache of all. -/
def advance (w : Fleet.World) (s : Shift) (region : Region) : Shift :=
  match s.bench? region with
  | none => s
  | some b =>
      let b' := b.next w region
      { fleet := { s.fleet.putPost region b'.toPost with cache := b.errand.settled s.fleet.cache }
        errands := fun r => if r = region then b'.errand else s.errands r }

/-- Step after step. -/
def run (w : Fleet.World) (s : Shift) (steps : List Region) : Shift := steps.foldl (advance w) s

/-- What the tick tells: the outcome of each region, in the order of the regions. -/
def outcomes (s : Shift) : List (Region × CycleOutcome) :=
  s.fleet.regions.filterMap fun r =>
    match s.errands r with
    | .finished outcome => some (r, outcome)
    | _ => none

end Shift

/-! ## Any order of steps -/

namespace Shift

/-- All benches are in their places. -/
def IsPlaced (s : Shift) : Prop := ∀ region b, s.bench? region = some b → b.IsPlaced region

theorem isPlaced_start {f : Fleet} (hf : f.IsPlaced) : (start f).IsPlaced := by
  intro region b hb
  obtain ⟨p, hp, rfl⟩ := Option.map_eq_some_iff.1 hb
  exact ⟨hf region p hp, trivial⟩

section Advance

variable {w : Fleet.World} {s : Shift} (hs : s.IsPlaced) (region : Region)
include hs

/-- A step is a step of one bench, and leaves the others as they are. -/
theorem bench?_advance (region' : Region) :
    (s.advance w region).bench? region' =
      if region = region' then (s.bench? region').map (Bench.next w region)
      else s.bench? region' := by
  cases hb : s.bench? region with
  | none =>
      simp only [advance, hb]
      split
      · rename_i hregion
        rw [← hregion, hb]
        rfl
      · rfl
  | some b =>
      have hplaced := (hs region b hb).errand
      have hpost := s.fleet.post?_putPost region (b.next w region).toPost region'
      simp only [advance, hb]
      obtain ⟨p, hp, rfl⟩ := Option.map_eq_some_iff.1 hb
      by_cases hregion : region = region'
      · subst hregion
        rw [if_pos rfl] at hpost
        rw [if_pos rfl, hb]
        refine (congrArg (Option.map _) hpost).trans ?_
        have hspace := hplaced.space_settled (w := w) rfl
        simp only at hspace
        simp only [Option.map_some, if_true, hspace]
      · rw [if_neg hregion] at hpost
        rw [if_neg hregion]
        refine (congrArg (Option.map _) hpost).trans ?_
        simp only [hplaced.space_settled_of_ne hregion, if_neg (Ne.symm hregion)]
        rfl

/-- Benches stay in their places. -/
theorem isPlaced_advance : (s.advance w region).IsPlaced := by
  intro region' b hb
  rw [bench?_advance hs] at hb
  split at hb
  · rename_i hregion
    subst hregion
    obtain ⟨b', hb', rfl⟩ := Option.map_eq_some_iff.1 hb
    exact (hs region b' hb').next
  · exact hs region' b hb

end Advance

/-- After any steps, a bench has seen the steps of its region and no others. -/
theorem bench?_run {w : Fleet.World} {s : Shift} (hs : s.IsPlaced) (steps : List Region)
    (region : Region) :
    (s.run w steps).bench? region
      = (s.bench? region).map (Bench.after w region (steps.count region)) := by
  induction steps generalizing s with
  | nil =>
      show s.bench? region = _
      cases s.bench? region <;> rfl
  | cons r steps ih =>
      show ((s.advance w r).run w steps).bench? region = _
      rw [ih (isPlaced_advance hs r), bench?_advance hs, List.count_cons]
      by_cases hr : r = region
      · subst hr
        cases s.bench? r <;> simp [Bench.after]
      · simp [hr]

end Shift

/-! ## Ending alone -/

/-- A cycle that runs is not busy. -/
theorem Daemon.outcome_meet_ne_busy (d : Daemon) (o : Occasion) :
    (d.meet o).outcome ≠ .busy := by
  intro h
  have hc := d.course o
  generalize d.meet o = c at hc h
  cases hc with
  | blind outcome hblind =>
      obtain rfl : outcome = .busy := h
      unfold blindOutcome? at hblind
      split at hblind <;> cases hblind
  | wrote s t store task top border w store' hs hp htask htop hborder hw =>
      cases task <;> cases h
  | _ => cases h

namespace Fleet

/-- What belongs to a region is the same in two fleets. -/
structure SameAt (f f' : Fleet) (region : Region) : Prop where
  post : f'.post? region = f.post? region
  space : f'.cache.space region.name = f.cache.space region.name

theorem SameAt.trans {f f' f'' : Fleet} {region : Region} (h : f.SameAt f' region)
    (h' : f'.SameAt f'' region) : f.SameAt f'' region :=
  ⟨h'.post.trans h.post, h'.space.trans h.space⟩

/-- A region ends as if its cycle had been the only one. Where its last cycle still runs, it is busy
and left as it is. -/
structure EndsAlone (f : Fleet) (w : World) (region : Region) (outcome : CycleOutcome)
    (f' : Fleet) : Prop where
  busy : outcome = .busy ↔ region ∈ w.held
  held : region ∈ w.held → f.SameAt f' region
  free : region ∉ w.held → ∀ p, f.post? region = some p →
    let c := p.daemon.meet (w.occasion region ⟨p.store, f.cache⟩)
    outcome = c.outcome
      ∧ f'.post? region = some { p with daemon := c.daemon, store := c.sink.store }
      ∧ f'.cache.space region.name = c.sink.cache.space region.name

section Ends

variable {f : Fleet} {w : World} {region : Region} {p : Post}

/-- A region that is busy ends where it began. -/
theorem endsAlone_busy {f' : Fleet} (hheld : region ∈ w.held) (h : f.SameAt f' region) :
    f.EndsAlone w region .busy f' :=
  ⟨⟨fun _ => hheld, fun _ => rfl⟩, fun _ => h, fun hfree => absurd hheld hfree⟩

theorem endsAlone_of_ofCycle {f' : Fleet} {p' : Post} {outcome : CycleOutcome}
    (hheld : region ∉ w.held) (hp : f.post? region = some p) (hp' : f'.post? region = some p')
    (h : (⟨p', f'.cache.space region.name, .finished outcome⟩ : Bench) = .ofCycle region p
      (p.daemon.meet (w.occasion region ⟨p.store, f.cache⟩))) :
    f.EndsAlone w region outcome f' := by
  have hpost := congrArg Bench.toPost h
  have hspace := congrArg Bench.space h
  have herrand := congrArg Bench.errand h
  have hout : outcome =
      (p.daemon.meet (w.occasion region ⟨p.store, f.cache⟩)).outcome :=
    Errand.finished.inj herrand
  refine ⟨⟨fun hbusy => absurd (hout.symm.trans hbusy) (Daemon.outcome_meet_ne_busy _ _),
    fun hmem => absurd hmem hheld⟩, fun hmem => absurd hmem hheld, fun _ q hq => ?_⟩
  obtain rfl := Option.some.inj (hp.symm.trans hq)
  exact ⟨hout, hp'.trans (congrArg some hpost), hspace⟩

/-- It does not matter what else changes before the cycle of a region, and after it. -/
theorem EndsAlone.of_sameAt (hf : f.IsPlaced) {g g' f' : Fleet} {outcome : CycleOutcome}
    (hbefore : f.SameAt g region) (h : g.EndsAlone w region outcome g')
    (hafter : g'.SameAt f' region) : f.EndsAlone w region outcome f' := by
  refine ⟨h.busy, fun hheld => (hbefore.trans (h.held hheld)).trans hafter, fun hfree q hq => ?_⟩
  obtain ⟨hout, hpost, hspace⟩ := h.free hfree q (hbefore.post.trans hq)
  have hsame := Bench.ofCycle_congr (p := q) (hf region q hq) hfree hbefore.space
  have hpost' := congrArg (some ∘ Bench.toPost) hsame
  have hspace' := congrArg Bench.space hsame
  have herrand := congrArg Bench.errand hsame
  exact ⟨hout.trans (Errand.finished.inj herrand), (hafter.post.trans hpost).trans hpost',
    (hafter.space.trans hspace).trans hspace'⟩

end Ends

/-! ## Steps in any order -/

section Run

variable {f : Fleet} (hf : f.IsPlaced) (w : World) (steps : List Region) {region : Region}
  {p : Post} (hp : f.post? region = some p)
include hf hp

/-- After any steps, what belongs to a region is what its own steps have made of it. -/
theorem run_start_eq : ∃ p', ((Shift.start f).run w steps).fleet.post? region = some p'
    ∧ (⟨p', ((Shift.start f).run w steps).fleet.cache.space region.name,
        ((Shift.start f).run w steps).errands region⟩ : Bench)
      = Bench.after w region (steps.count region) ⟨p, f.cache.space region.name, .called⟩ := by
  have hstart : (Shift.start f).bench? region
      = some ⟨p, f.cache.space region.name, .called⟩ := congrArg (Option.map _) hp
  have hrun := Shift.bench?_run (w := w) (Shift.isPlaced_start hf) steps region
  rw [hstart, Option.map_some] at hrun
  exact Option.map_eq_some_iff.1 hrun

/-- A region is done after six steps of its own. -/
theorem finished_run (hsteps : 6 ≤ steps.count region) :
    ∃ outcome, ((Shift.start f).run w steps).errands region = .finished outcome := by
  obtain ⟨p', -, hbench⟩ := run_start_eq hf w steps hp
  obtain ⟨b, hcomes⟩ := Bench.exists_comesTo (hf region p hp) w f.cache
  obtain ⟨⟨outcome, hfinished⟩, hafter⟩ := hcomes.after_eq
  refine ⟨outcome, ?_⟩
  rw [hafter _ hsteps] at hbench
  exact (congrArg Bench.errand hbench).trans hfinished

/-- A region that is done has ended as if its cycle had been the only one. -/
theorem endsAlone_run {outcome : CycleOutcome}
    (h : ((Shift.start f).run w steps).errands region = .finished outcome) :
    f.EndsAlone w region outcome ((Shift.start f).run w steps).fleet := by
  obtain ⟨p', hp', hbench⟩ := run_start_eq hf w steps hp
  have hfinished := (congrArg Bench.errand hbench).symm.trans h
  rw [h] at hbench
  by_cases hheld : region ∈ w.held
  · have hend := (Bench.comesTo_busy hheld p f.cache).eq_of_finished hfinished
    rw [hend] at hbench
    obtain rfl : outcome = .busy := Errand.finished.inj (congrArg Bench.errand hbench)
    have hpost : p' = p := congrArg Bench.toPost hbench
    exact endsAlone_busy hheld ⟨by rw [hp', hp, hpost], congrArg Bench.space hbench⟩
  · have hend := (Bench.comesTo_meet (hf region p hp) hheld f.cache).eq_of_finished hfinished
    exact endsAlone_of_ofCycle hheld hp hp' (hbench.trans hend)

end Run

/-! ## Whole cycles in any order -/

theorem foldl_andThen (w : World) (t : Tick) (order : List Region) :
    (order.foldl (Tick.andThen w) t).outcomes = t.outcomes ++ (t.fleet.tickIn w order).outcomes
      ∧ (order.foldl (Tick.andThen w) t).fleet = (t.fleet.tickIn w order).fleet := by
  induction order generalizing t with
  | nil => exact ⟨(List.append_nil _).symm, rfl⟩
  | cons region order ih =>
      obtain ⟨hout, hfleet⟩ := ih (t.andThen w region)
      obtain ⟨hout', hfleet'⟩ := ih (Tick.andThen w { fleet := t.fleet } region)
      refine ⟨?_, hfleet.trans hfleet'.symm⟩
      rw [List.foldl_cons, hout]
      show _ = t.outcomes
        ++ (order.foldl (Tick.andThen w) (Tick.andThen w { fleet := t.fleet } region)).outcomes
      rw [hout']
      exact List.append_assoc _ _ _

/-- In an order of cycles, the first is followed by the others. -/
theorem tickIn_cons (f : Fleet) (w : World) (region : Region) (order : List Region) :
    (f.tickIn w (region :: order)).outcomes = (f.cycle w region).outcomes
        ++ ((f.cycle w region).fleet.tickIn w order).outcomes
      ∧ (f.tickIn w (region :: order)).fleet
        = ((f.cycle w region).fleet.tickIn w order).fleet :=
  foldl_andThen w (Tick.andThen w { fleet := f } region) order

section Order

variable {f : Fleet} (w : World)

theorem post?_cycle_of_ne {region region' : Region} (h : region ≠ region') :
    (f.cycle w region).fleet.post? region' = f.post? region' := by
  unfold cycle
  split
  · rfl
  · split
    · rfl
    · exact (f.post?_putPost region _ region').trans (if_neg h)

theorem endsAlone_cycle {region : Region} {p : Post} (hp : f.post? region = some p) :
    ∃ outcome, (f.cycle w region).outcomes = [(region, outcome)]
      ∧ f.EndsAlone w region outcome (f.cycle w region).fleet := by
  unfold cycle
  rw [hp]
  by_cases hheld : region ∈ w.held
  · have hbusy : w.held.contains region = true := by simpa using hheld
    simp only [hbusy, if_true]
    exact ⟨.busy, rfl, endsAlone_busy hheld ⟨rfl, rfl⟩⟩
  · have hfree : w.held.contains region = false := by simpa using hheld
    simp only [hfree]
    refine ⟨_, rfl, endsAlone_of_ofCycle hheld hp ?_ rfl⟩
    exact (f.post?_putPost region _ region).trans (if_pos rfl)

variable (hf : f.IsPlaced)
include hf

theorem isPlaced_cycle (region : Region) : (f.cycle w region).fleet.IsPlaced := by
  unfold cycle
  split
  · exact hf
  · rename_i p hp
    split
    · exact hf
    · have hworks := (hf region p hp).meet
        (o := w.occasion region ⟨p.store, f.cache⟩)
      exact isPlaced_putPost (f := f) hf hworks

/-- A cycle leaves what belongs to other regions as it is. -/
theorem sameAt_cycle {region region' : Region} (h : region ≠ region') :
    f.SameAt (f.cycle w region).fleet region' := by
  refine ⟨post?_cycle_of_ne w h, ?_⟩
  unfold cycle
  split
  · rfl
  · rename_i p hp
    split
    · rfl
    · have hname : region.name ≠ region'.name := fun hname => h (Region.name_inj hname)
      rcases (hf region p hp).sink_meet
        (o := w.occasion region ⟨p.store, f.cache⟩) with ⟨hcache, -⟩ | hcache
      · exact congrArg (·.space region'.name) hcache
      · refine (congrArg (·.space region'.name) hcache).trans ?_
        rw [ResponseCache.space_invalidate, if_neg hname]
        rfl

theorem sameAt_tickIn {order : List Region} {region : Region} (h : region ∉ order) :
    f.SameAt (f.tickIn w order).fleet region := by
  induction order generalizing f with
  | nil => exact ⟨rfl, rfl⟩
  | cons region' order ih =>
      have hne : region' ≠ region := fun heq => h (heq ▸ List.mem_cons_self)
      have hrest : region ∉ order := fun hmem => h (List.mem_cons_of_mem _ hmem)
      rw [(f.tickIn_cons w region' order).2]
      exact (sameAt_cycle w hf hne).trans (ih (isPlaced_cycle w hf region') hrest)

/-- In any order of the regions, each has one outcome, and ends as if its cycle had been the only
one. -/
theorem endsAlone_tickIn {order : List Region} (hnodup : order.Nodup)
    (hposts : ∀ region ∈ order, (f.post? region).isSome = true) :
    (f.tickIn w order).outcomes.map (·.1) = order
      ∧ ∀ x ∈ (f.tickIn w order).outcomes, f.EndsAlone w x.1 x.2 (f.tickIn w order).fleet := by
  induction order generalizing f with
  | nil => exact ⟨rfl, fun x hx => nomatch hx⟩
  | cons region order ih =>
      rw [List.nodup_cons] at hnodup
      obtain ⟨p, hp⟩ := Option.isSome_iff_exists.1 (hposts region List.mem_cons_self)
      obtain ⟨outcome, hout, hends⟩ := endsAlone_cycle w hp
      have hplaced := isPlaced_cycle w hf region
      have hne : ∀ r ∈ order, region ≠ r := fun r hr heq => hnodup.1 (heq ▸ hr)
      obtain ⟨hregions, hrest⟩ := ih hplaced hnodup.2 fun r hr => by
        rw [post?_cycle_of_ne w (hne r hr)]
        exact hposts r (List.mem_cons_of_mem _ hr)
      obtain ⟨houts, hfleet⟩ := f.tickIn_cons w region order
      rw [houts, hout, hfleet]
      refine ⟨by simp [hregions], fun x hx => ?_⟩
      rcases List.mem_append.1 hx with hx | hx
      · -- Nothing that follows touches the region again.
        obtain rfl := List.mem_singleton.1 hx
        exact hends.of_sameAt hf ⟨rfl, rfl⟩ (sameAt_tickIn w hplaced hnodup.1)
      · have hmem : x.1 ∈ order := hregions ▸ List.mem_map_of_mem hx
        exact (hrest x hx).of_sameAt hf (sameAt_cycle w hf (hne _ hmem)) ⟨rfl, rfl⟩

end Order

/-! ## The tick -/

/-- The regions of a fleet are those with a post, in the order of all regions. -/
theorem regions_eq (f : Fleet) :
    f.regions = Region.all.filter fun r => (f.post? r).isSome := by
  unfold regions Region.sorted
  congr 1
  funext r
  exact f.posts.contains_keys r

theorem mem_regions_iff {f : Fleet} {region : Region} :
    region ∈ f.regions ↔ (f.post? region).isSome = true := by
  rw [regions_eq, List.mem_filter]
  exact ⟨fun h => h.2, fun h => ⟨region.mem_all, h⟩⟩

theorem nodup_regions (f : Fleet) : f.regions.Nodup := by
  rw [regions_eq]
  exact List.Nodup.filter _ (by decide)

section Tick

variable {f : Fleet} (hf : f.IsPlaced) (w : World)

theorem EndsAlone.outcome_eq {region : Region} {p : Post} (hp : f.post? region = some p)
    {outcome outcome' : CycleOutcome} {f' f'' : Fleet} (h : f.EndsAlone w region outcome f')
    (h' : f.EndsAlone w region outcome' f'') : outcome = outcome' := by
  by_cases hheld : region ∈ w.held
  · rw [h.busy.2 hheld, h'.busy.2 hheld]
  · exact (h.free hheld p hp).1.trans (h'.free hheld p hp).1.symm

include hf

/-- No post comes or goes in a tick. -/
theorem regions_run (steps : List Region) :
    ((Shift.start f).run w steps).fleet.regions = f.regions := by
  rw [regions_eq, regions_eq]
  congr 1
  funext region
  have hrun := Shift.bench?_run (w := w) (Shift.isPlaced_start hf) steps region
  have hsome := congrArg Option.isSome hrun
  simpa [Shift.bench?, Shift.start] using hsome

/-- Once all regions are done, the tick tells what it tells when they come one after another. -/
theorem outcomes_run (steps : List Region)
    (hdone : ∀ region p, f.post? region = some p →
      ∃ outcome, ((Shift.start f).run w steps).errands region = .finished outcome) :
    ((Shift.start f).run w steps).outcomes = (f.tick w).outcomes := by
  obtain ⟨hregions, hends⟩ := endsAlone_tickIn w hf f.nodup_regions fun r hr => mem_regions_iff.1 hr
  have hsame : ∀ x ∈ (f.tick w).outcomes,
      ((Shift.start f).run w steps).errands x.1 = .finished x.2 := by
    intro x hx
    have hmem : x.1 ∈ f.regions := hregions ▸ List.mem_map_of_mem hx
    obtain ⟨p, hp⟩ := Option.isSome_iff_exists.1 (mem_regions_iff.1 hmem)
    obtain ⟨outcome, hfinished⟩ := hdone x.1 p hp
    rw [hfinished, (endsAlone_run hf w steps hp hfinished).outcome_eq w hp (hends x hx)]
  unfold Shift.outcomes
  rw [regions_run hf, ← hregions, List.filterMap_map]
  refine Eq.trans (List.filterMap_eq_map_iff_forall_eq_some.2 fun x hx => ?_) (List.map_id _)
  simp [hsame x hx]

/-- In every tick of posts of any regions, with any of them still busy with an earlier cycle,
whatever the cycles come to:

* each region with a post has one outcome, in the order of the regions;
* in whatever order the cycles follow one another, each region ends as if its cycle had been the
  only one, and is left as it is just if it is busy;
* so it is where the cycles take turns step by step: a region is done after six steps of its own at
  most, whatever steps of others come between, and what is told in the end is the same. -/
theorem regions_apart :
    ((f.tick w).outcomes.map (·.1) = Region.all.filter fun r => (f.post? r).isSome)
    ∧ (∀ order : List Region, order.Perm f.regions →
      (f.tickIn w order).outcomes.map (·.1) = order
        ∧ ∀ x ∈ (f.tickIn w order).outcomes, f.EndsAlone w x.1 x.2 (f.tickIn w order).fleet)
    ∧ ∀ steps : List Region,
      (∀ region p, f.post? region = some p → 6 ≤ steps.count region →
        ∃ outcome, ((Shift.start f).run w steps).errands region = .finished outcome)
      ∧ (∀ region p outcome, f.post? region = some p →
        ((Shift.start f).run w steps).errands region = .finished outcome →
          f.EndsAlone w region outcome ((Shift.start f).run w steps).fleet)
      ∧ ((∀ region p, f.post? region = some p →
        ∃ outcome, ((Shift.start f).run w steps).errands region = .finished outcome) →
          ((Shift.start f).run w steps).outcomes = (f.tick w).outcomes) := by
  have horder : ∀ order : List Region, order.Perm f.regions →
      (f.tickIn w order).outcomes.map (·.1) = order
        ∧ ∀ x ∈ (f.tickIn w order).outcomes,
          f.EndsAlone w x.1 x.2 (f.tickIn w order).fleet := by
    intro order hperm
    exact endsAlone_tickIn w hf (hperm.nodup_iff.2 f.nodup_regions) fun r hr =>
      mem_regions_iff.1 (hperm.mem_iff.1 hr)
  refine ⟨(horder f.regions (.refl _)).1.trans f.regions_eq, horder, fun steps => ⟨?_, ?_, ?_⟩⟩
  · intro region p hp hsteps
    exact finished_run hf w steps hp hsteps
  · intro region p outcome hp hfinished
    exact endsAlone_run hf w steps hp hfinished
  · exact outcomes_run hf w steps

end Tick

/-! ### Four regions that fare differently -/

def fourPosts : Fleet :=
  [Region.jp, .en, .tw, .kr].foldl (fun f region => f.putPost region ⟨.idle region, {}, true⟩)
    (empty 60)

/-- The feed is down for one region, the time that is left overflows for the next, and the last
cycle of another still runs. -/
def mixedWorld : World where
  files := fun region =>
    { events := some <| Bytes.ofText <| match region with
        | .en => "[[1,\"marathon\",-10,9223372036854775807,9223372036854775807,\"e\"]]"
        | _ => "[[1,\"marathon\",-10,10,20,\"e\"]]" }
  feed := fun q =>
    match q.region with
    | .jp => .error ⟨.feed, "down"⟩
    | _ => .ok { standings := [⟨"u", 1, 50, "U", none, none⟩] }
  held := [.kr]
  now := -1

/-- The cycles take turns after each step. -/
def inTurns : List Region := (List.replicate 6 [Region.tw, .jp, .kr, .en]).flatten

theorem isPlaced_fourPosts : fourPosts.IsPlaced := by
  have hidle : ∀ region : Region, Daemon.WorksFor (.idle region) region := Daemon.worksFor_idle
  exact isPlaced_putPost (isPlaced_putPost (isPlaced_putPost
    (isPlaced_putPost (isPlaced_empty 60) (hidle .jp)) (hidle .en)) (hidle .tw)) (hidle .kr)

/-- One region fails, the next overflows, the third writes, and the last is busy, whether they come
one after another or take turns. -/
theorem regions_apart_mixed :
    fourPosts.IsPlaced
      ∧ (fourPosts.tick mixedWorld).outcomes =
        [(.jp, .failed (Failure.mk .feed "down")), (.en, .failed .overflow),
          (.tw, .recorded ⟨-1, 1, 0, none⟩), (.kr, .busy)]
      ∧ ((Shift.start fourPosts).run mixedWorld inTurns).outcomes
        = (fourPosts.tick mixedWorld).outcomes
      ∧ ∀ region p, fourPosts.post? region = some p → ∃ outcome,
        fourPosts.EndsAlone mixedWorld region outcome
          ((Shift.start fourPosts).run mixedWorld inTurns).fleet := by
  obtain ⟨-, -, hsteps⟩ := regions_apart isPlaced_fourPosts mixedWorld
  obtain ⟨hdone, hends, htold⟩ := hsteps inTurns
  have hfinished : ∀ region p, fourPosts.post? region = some p → ∃ outcome,
      ((Shift.start fourPosts).run mixedWorld inTurns).errands region = .finished outcome := by
    intro region p hp
    refine hdone region p hp ?_
    cases region with
    | cn => cases hp
    | _ => decide
  refine ⟨isPlaced_fourPosts, by decide +kernel, htold hfinished, fun region p hp => ?_⟩
  obtain ⟨outcome, houtcome⟩ := hfinished region p hp
  exact ⟨outcome, hends region p outcome hp houtcome⟩

end Fleet

end RankLedger
