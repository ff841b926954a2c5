import RankLedger.Launch
import RankLedger.Proofs.Fleet.Isolation
import RankLedger.Proofs.Settings.Regions

set_option autoImplicit false

/-! # From a list of servers to posts

The regions of settings are each listed once, so the posts of a launch are all set up where none
was: a launch may fail because a store does not open, but never because of a region that has its
post already (`Launch.run_openStores`). From the text of the list to the posts of the fleet this is
`Launch.listed_regions_posted`. -/

namespace RankLedger

/-! ## Posts -/

namespace Fleet

theorem mem_regions_putPost {f : Fleet} {region region' : Region} {p : Post} :
    region' ∈ (f.putPost region p).regions ↔ region' ∈ f.regions ∨ region' = region := by
  rw [mem_regions_iff, mem_regions_iff, post?_putPost]
  by_cases h : region = region'
  · simp [h]
  · simp [h, Ne.symm h]

@[simp] theorem regions_empty (lifetime : Nat) : (empty lifetime).regions = [] := rfl

/-- A post is set up in a region that has none. -/
theorem register_of_not_mem {f : Fleet} {region : Region} (h : region ∉ f.regions) (store : Store) :
    ∃ f', f.register region store true = .ok f'
      ∧ ∀ region', region' ∈ f'.regions ↔ region' ∈ f.regions ∨ region' = region := by
  have hhas : f.posts.has region = false := by
    rw [Bool.eq_false_iff]
    exact fun hpost => h (mem_regions_iff.2 hpost)
  refine ⟨f.putPost region ⟨.idle region, store, true⟩, ?_, fun _ => mem_regions_putPost⟩
  rw [register, hhas]
  rfl

section Posted

variable {f f' : Fleet} {r : RegionSettings} {posted : List RegionSettings}

/-- With a post more, the regions that are left still have none. -/
theorem not_mem_regions_of_step
    (hstep : ∀ region, region ∈ f'.regions ↔ region ∈ f.regions ∨ region = r.region)
    (hnodup : ((r :: posted).map (·.region)).Nodup)
    (hnew : ∀ r' ∈ r :: posted, r'.region ∉ f.regions) : ∀ r' ∈ posted, r'.region ∉ f'.regions := by
  intro r' hr' hmem
  rw [List.map_cons, List.nodup_cons] at hnodup
  rcases (hstep _).1 hmem with hold | heq
  · exact hnew r' (List.mem_cons_of_mem r hr') hold
  · exact hnodup.1 (heq ▸ List.mem_map_of_mem hr')

/-- With posts in these, there are posts in all. -/
theorem mem_regions_of_steps {region : Region}
    (hstep : ∀ region, region ∈ f'.regions ↔ region ∈ f.regions ∨ region = r.region) :
    region ∈ f'.regions ∨ region ∈ posted.map (·.region) ↔
      region ∈ f.regions ∨ region ∈ (r :: posted).map (·.region) := by
  rw [hstep, List.map_cons, List.mem_cons, or_assoc]

/-- Posts are set up in regions that have none, whatever their stores. -/
theorem foldlM_register (stores : Region → Store) (hnodup : (posted.map (·.region)).Nodup)
    (hnew : ∀ r ∈ posted, r.region ∉ f.regions) :
    ∃ f', posted.foldlM (fun f r => f.register r.region (stores r.region) true) f = .ok f'
      ∧ ∀ region, region ∈ f'.regions ↔ region ∈ f.regions ∨ region ∈ posted.map (·.region) := by
  induction posted generalizing f with
  | nil => exact ⟨f, rfl, by simp⟩
  | cons r posted ih =>
      obtain ⟨f₁, hf₁, hstep⟩ := register_of_not_mem (hnew r List.mem_cons_self) (stores r.region)
      obtain ⟨f', hf', hregions⟩ :=
        ih (List.nodup_cons.1 hnodup).2 (not_mem_regions_of_step hstep hnodup hnew)
      refine ⟨f', ?_, fun region => (hregions region).trans (mem_regions_of_steps hstep)⟩
      rw [List.foldlM_cons, hf₁]
      exact hf'

end Posted

/-- A fleet has its posts in just these regions. -/
theorem regions_perm {f : Fleet} {regions : List Region} (hnodup : regions.Nodup)
    (h : ∀ region, region ∈ f.regions ↔ region ∈ regions) : f.regions.Perm regions :=
  (List.perm_ext_iff_of_nodup f.nodup_regions hnodup).2 h

end Fleet

/-! ## Settings that are taken -/

namespace Settings

variable {lookup : Lookup}

theorem regionsOf_of_ofLookup {settings : Settings} (h : ofLookup lookup = .ok settings) :
    regionsOf lookup ((lookup "TRACKER_SERVERS").getD "jp") = .ok settings.regions := by
  unfold ofLookup at h
  cases haddress : readAddress lookup with
  | error f =>
      rw [haddress] at h
      cases h
  | ok address =>
      cases hformat : readLogFormat lookup with
      | error f =>
          rw [haddress, hformat] at h
          cases h
      | ok format =>
          cases hregions : regionsOf lookup ((lookup "TRACKER_SERVERS").getD "jp") with
          | error f =>
              rw [haddress, hformat, hregions] at h
              cases h
          | ok regions =>
              rw [haddress, hformat, hregions] at h
              obtain rfl := Except.ok.inj h
              rfl

/-- No region is listed twice in settings. -/
theorem nodup_regions {settings : Settings} (h : ofLookup lookup = .ok settings) :
    (settings.regions.map (·.region)).Nodup := by
  obtain ⟨-, regions, hnamed, hfound⟩ := regionsOf_eq_ok_iff.1 (regionsOf_of_ofLookup h)
  have hregions : settings.regions.map (·.region) = regions := by
    rw [hfound, List.map_map]
    exact List.map_id _
  rw [hregions]
  exact hnamed.nodup

end Settings

/-! ## Launches -/

namespace Launch

theorem addPost_of_not_mem {l : Launch} {region : Region} (h : region ∉ l.fleet.regions)
    (store : Store) : ∃ l', l.addPost region (.ok store) = .ok l' ∧ l'.settings = l.settings
      ∧ ∀ region', region' ∈ l'.fleet.regions ↔ region' ∈ l.fleet.regions ∨ region' = region := by
  obtain ⟨f, hf, hregions⟩ := Fleet.register_of_not_mem h store
  refine ⟨{ l with fleet := f }, ?_, rfl, hregions⟩
  simp only [addPost, during, hf, bind, Except.bind]

section Run

variable {σ : Type} (canOpen : String → Access → StateM σ Bool)

/-- The store of a region is opened, and what comes of it decides how to go on. -/
theorem run_openStores_cons (l : Launch) (r : RegionSettings) (posted : List RegionSettings)
    (w : σ) : ∃ opened w', ((openStores canOpen l (r :: posted)).run w).1 =
      match l.addPost r.region opened with
      | .ok l => ((openStores canOpen l posted).run w').1
      | .error f => .error f := by
  obtain ⟨opened, w', hopened⟩ : ∃ opened w',
      (Location.openStore canOpen r.databaseUrl).run w = (opened, w') := ⟨_, _, rfl⟩
  refine ⟨opened, w', ?_⟩
  simp only [openStores, StateT.run_bind, hopened]
  show (StateT.run (match l.addPost r.region opened with
    | .ok l => openStores canOpen l posted
    | .error f => pure (.error f)) w').1 = _
  cases l.addPost r.region opened <;> rfl

/-- Whatever comes of opening stores: posts are set up for all, or some store did not open. -/
theorem run_openStores {posted : List RegionSettings} (hnodup : (posted.map (·.region)).Nodup)
    {l : Launch} (hnew : ∀ r ∈ posted, r.region ∉ l.fleet.regions) (w : σ) :
    (∃ l', ((openStores canOpen l posted).run w).1 = .ok l' ∧ l'.settings = l.settings
        ∧ ∀ region, region ∈ l'.fleet.regions ↔
          region ∈ l.fleet.regions ∨ region ∈ posted.map (·.region))
      ∨ ∃ r ∈ posted, ∃ f, ((openStores canOpen l posted).run w).1
        = .error ⟨some ("opening store for " ++ r.region.name), f⟩ := by
  induction posted generalizing l w with
  | nil => exact Or.inl ⟨l, rfl, rfl, by simp⟩
  | cons r posted ih =>
      obtain ⟨opened, w', hrun⟩ := run_openStores_cons canOpen l r posted w
      cases opened with
      | error f => exact Or.inr ⟨r, List.mem_cons_self, f, hrun⟩
      | ok store =>
          obtain ⟨l₁, hl₁, hsame, hstep⟩ := addPost_of_not_mem (hnew r List.mem_cons_self) store
          rw [hl₁] at hrun
          rcases ih (List.nodup_cons.1 hnodup).2
              (Fleet.not_mem_regions_of_step hstep hnodup hnew) w' with
            ⟨l', hl', hsame', hregions⟩ | ⟨r', hr', f, hf⟩
          · exact Or.inl ⟨l', hrun.trans hl', hsame'.trans hsame,
              fun region => (hregions region).trans (Fleet.mem_regions_of_steps hstep)⟩
          · exact Or.inr ⟨r', List.mem_cons_of_mem r hr', f, hrun.trans hf⟩

variable {lookup : Settings.Lookup} {settings : Settings}
  (h : Settings.ofLookup lookup = .ok settings)
include h

/-- With settings that are taken, the client is made, and then stores are opened. -/
theorem start_eq : start canOpen lookup =
    match FeedClient.create settings.endpoint settings.token with
    | .ok client =>
        openStores canOpen ⟨settings, client, .empty settings.cacheLifetime⟩ settings.regions
    | .error f => pure (.error ⟨some "building upstream client", f⟩) := by
  unfold start prepare
  rw [h]
  unfold during
  simp only [bind, Except.bind]
  cases FeedClient.create settings.endpoint settings.token <;> rfl

/-- A launch sets up posts in just the regions of settings that are taken, unless the client cannot
be made, or some store does not open. -/
theorem run_start (w : σ) :
    (∃ l, ((start canOpen lookup).run w).1 = .ok l ∧ l.settings = settings
        ∧ l.fleet.regions.Perm (settings.regions.map (·.region)))
      ∨ ∃ f, ((start canOpen lookup).run w).1 = .error f
        ∧ (f.step = some "building upstream client"
          ∨ ∃ r ∈ settings.regions, f.step = some ("opening store for " ++ r.region.name)) := by
  have hnodup := Settings.nodup_regions h
  rw [start_eq canOpen h]
  cases FeedClient.create settings.endpoint settings.token with
  | error f => exact Or.inr ⟨_, rfl, Or.inl rfl⟩
  | ok client =>
      have hrun := run_openStores canOpen hnodup
        (l := ⟨settings, client, .empty settings.cacheLifetime⟩) (by simp) w
      rcases hrun with ⟨l, hl, hsame, hregions⟩ | ⟨r, hr, f, hf⟩
      · refine Or.inl ⟨l, hl, hsame, Fleet.regions_perm hnodup fun region => ?_⟩
        simpa using hregions region
      · exact Or.inr ⟨_, hf, Or.inr ⟨r, hr, rfl⟩⟩

end Run

/-- What a list of servers comes to, from its text to the posts of a fleet:

* it is taken just if it has an item, and its items are names of regions, in either case, each of a
  region of its own; then it gives the settings of these regions, in their order;
* otherwise it is refused, for the first item that is no such name or names a region that was named
  before, and if there is no item at all, for that;
* the settings of a region are told by its own two variables;
* settings that are taken have the regions of their list, and setting up a post in each of them goes
  well, whatever the stores are, and gives a fleet of just these regions; and so does a launch,
  unless the client of the feed cannot be made, or some store does not open. -/
theorem listed_regions_posted (lookup : Settings.Lookup) (list : String) :
    (∀ found, Settings.regionsOf lookup list = .ok found ↔
      Settings.items list ≠ [] ∧ ∃ regions, Settings.Named regions (Settings.items list)
        ∧ found = regions.map (Settings.ofRegion lookup))
    ∧ (∀ f, Settings.regionsOf lookup list = .error f ↔
      (Settings.items list = []
        ∧ f = ⟨.configuration, "TRACKER_SERVERS must name at least one server"⟩)
      ∨ ∃ before name after regions, Settings.items list = before ++ name :: after
        ∧ Settings.Named regions before ∧ Settings.Offence regions name f)
    ∧ (∀ (lookup' : Settings.Lookup) (r : Region),
      lookup ("MASTER_DATA_DIR_" ++ r.suffix) = lookup' ("MASTER_DATA_DIR_" ++ r.suffix) →
      lookup ("DATABASE_URL_" ++ r.suffix) = lookup' ("DATABASE_URL_" ++ r.suffix) →
        Settings.ofRegion lookup r = Settings.ofRegion lookup' r)
    ∧ ∀ settings, Settings.ofLookup lookup = .ok settings →
      Settings.regionsOf lookup ((lookup "TRACKER_SERVERS").getD "jp") = .ok settings.regions
      ∧ (∀ stores : Region → Store, ∃ fleet, settings.regions.foldlM
          (fun f r => f.register r.region (stores r.region) true)
          (Fleet.empty settings.cacheLifetime) = .ok fleet
        ∧ fleet.regions.Perm (settings.regions.map (·.region)))
      ∧ ∀ {σ : Type} (canOpen : String → Access → StateM σ Bool) (w : σ),
        (∃ l, ((start canOpen lookup).run w).1 = .ok l ∧ l.settings = settings
          ∧ l.fleet.regions.Perm (settings.regions.map (·.region)))
        ∨ ∃ f, ((start canOpen lookup).run w).1 = .error f
          ∧ (f.step = some "building upstream client"
            ∨ ∃ r ∈ settings.regions, f.step = some ("opening store for " ++ r.region.name)) := by
  refine ⟨fun found => Settings.regionsOf_eq_ok_iff, fun f => Settings.regionsOf_eq_error_iff,
    fun lookup' r => Settings.ofRegion_congr, fun settings h =>
      ⟨Settings.regionsOf_of_ofLookup h, fun stores => ?posts, fun canOpen w => run_start canOpen h w⟩⟩
  have hnodup := Settings.nodup_regions h
  obtain ⟨fleet, hfleet, hregions⟩ := Fleet.foldlM_register stores hnodup
    (f := Fleet.empty settings.cacheLifetime) (by simp)
  refine ⟨fleet, hfleet, Fleet.regions_perm hnodup fun region => ?_⟩
  simpa using hregions region

/-- A list with blanks, an item that is blank, and a name in capitals. -/
def mixedList : String := " EN ,, jp"

/-- Settings with a list of servers, and one region's store in memory. -/
def mixedLookup : Settings.Lookup := fun name =>
  if name = "TRACKER_SERVERS" then some mixedList
  else if name = "DATABASE_URL_EN" then some "sqlite::memory:"
  else none

/-- A list that is taken, and what a launch makes of it; a list in which one region comes twice,
before an item that names none; and one of blank items. -/
theorem listed_regions_posted_mixed :
    Settings.regionsOf mixedLookup mixedList =
        .ok [⟨.en, "./data/master/en", "sqlite::memory:"⟩,
          ⟨.jp, "./data/master/jp", "sqlite://./data/jp_event.db?mode=rwc"⟩]
      ∧ Settings.regionsOf mixedLookup "jp, JP,xx" =
        .error ⟨.configuration, "server listed twice in TRACKER_SERVERS: jp"⟩
      ∧ Settings.regionsOf mixedLookup " ," =
        .error ⟨.configuration, "TRACKER_SERVERS must name at least one server"⟩
      ∧ ∃ settings, Settings.ofLookup mixedLookup = .ok settings
        ∧ ∀ stores : Region → Store, ∃ fleet, settings.regions.foldlM
            (fun f r => f.register r.region (stores r.region) true)
            (Fleet.empty settings.cacheLifetime) = .ok fleet
          ∧ fleet.regions.Perm [.en, .jp] := by
  obtain ⟨htaken, -, -, hposted⟩ := listed_regions_posted mixedLookup mixedList
  obtain ⟨-, htwice, -⟩ := listed_regions_posted mixedLookup "jp, JP,xx"
  obtain ⟨-, hblank, -⟩ := listed_regions_posted mixedLookup " ,"
  have hitems : Settings.items mixedList = ["EN", "jp"] := by decide +kernel
  refine ⟨(htaken _).2 ⟨by simp [hitems], [.en, .jp], ⟨?spelt, by decide⟩, by decide +kernel⟩,
    (htwice _).2 (Or.inr ⟨["jp"], "JP", ["xx"], [.jp], by decide +kernel, ⟨?before, by decide⟩,
      .twice .jp (by decide +kernel) (by decide)⟩),
    (hblank _).2 (Or.inl ⟨by decide +kernel, rfl⟩), ?settings⟩
  case spelt =>
    rw [hitems]
    exact .cons (by decide +kernel) (.cons (by decide +kernel) .nil)
  case before => exact .cons (by decide +kernel) .nil
  case settings =>
    have hregions : (Settings.ofLookup mixedLookup).toOption.map
        (fun settings => settings.regions.map (·.region)) = some [.en, .jp] := by
      decide +kernel
    cases hsettings : Settings.ofLookup mixedLookup with
    | error f =>
        rw [hsettings] at hregions
        cases hregions
    | ok settings =>
        rw [hsettings] at hregions
        refine ⟨settings, rfl, fun stores => ?_⟩
        obtain ⟨fleet, hfleet, hperm⟩ := (hposted settings hsettings).2.1 stores
        exact ⟨fleet, hfleet, Option.some.inj hregions ▸ hperm⟩

end Launch

end RankLedger
