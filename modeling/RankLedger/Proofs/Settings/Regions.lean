import Mathlib.Data.List.DropRight
import Mathlib.Data.List.Forall2
import Mathlib.Data.List.Induction
import RankLedger.Settings

set_option autoImplicit false

/-! # The regions in a list of servers

A list of servers is read item by item, and an item is to be the name of a region, in either case.
Either all items name regions, each its own, or there is a first one that does not
(`Settings.named_or_offence`). In the first case the list is taken, if it has any item at all
(`Settings.regionsOf_eq_ok_iff`); in the second it is refused for that item, whatever comes after it
(`Settings.regionsOf_eq_error_iff`). -/

namespace RankLedger

/-! ## Texts -/

namespace Text

/-- The pieces of a text are those of its characters. -/
theorem splitAt_eq (sep : Char) (s : String) :
    splitAt sep s = (s.toList.splitOn sep).map String.ofList := by
  have hgo : ∀ cs piece, splitAt.go sep cs piece = cs.splitOnPPrepend (· == sep) piece := by
    intro cs
    induction cs with
    | nil => exact fun _ => rfl
    | cons c cs ih =>
        intro piece
        by_cases hc : c = sep <;> simp [splitAt.go, List.splitOnPPrepend, hc, ih]
  exact congrArg _ (hgo s.toList [])

/-- What is trimmed has no blanks at its ends any more. -/
@[simp] theorem trim_trim (s : String) : trim (trim s) = trim s := by
  have htrim : ∀ s : String, (trim s).toList = (s.toList.dropWhile isBlank).rdropWhile isBlank :=
    fun s => String.toList_ofList
  have hfront : (trim s).toList.dropWhile isBlank = (trim s).toList := by
    rw [htrim, List.dropWhile_eq_self_iff]
    intro hlength
    -- The front is that of the text without its leading blanks.
    have hbegins := List.rdropWhile_prefix isBlank (l := s.toList.dropWhile isBlank)
    rw [hbegins.getElem hlength]
    exact List.dropWhile_eq_self_iff.1 (List.dropWhile_idempotent isBlank s.toList) _
  have hback : (trim s).toList.rdropWhile isBlank = (trim s).toList := by
    rw [htrim]
    exact List.rdropWhile_idempotent isBlank _
  rw [← String.toList_inj, htrim, hfront, hback]

end Text

/-! ## Names of regions -/

namespace Region

/-- A name spells a region, in either case. -/
def IsSpelt (r : Region) (name : String) : Prop := Text.lowerAscii name = r.name

instance (r : Region) (name : String) : Decidable (r.IsSpelt name) :=
  inferInstanceAs (Decidable (Text.lowerAscii name = r.name))

/-- A name spells one region at most. -/
theorem IsSpelt.unique {r r' : Region} {name : String} (h : r.IsSpelt name)
    (h' : r'.IsSpelt name) : r = r' := name_inj (h.symm.trans h')

theorem sameLetters_name (r : Region) (name : String) :
    Text.sameLetters r.name name = decide (r.IsSpelt name) := by
  have hlower : Text.lowerAscii r.name = r.name := by cases r <;> decide
  rw [Text.sameLetters, hlower, Bool.eq_iff_iff, beq_iff_eq, decide_eq_true_eq]
  exact eq_comm

theorem parse_of_isSpelt {r : Region} {name : String} (h : r.IsSpelt (Text.trim name)) :
    parse name = .ok r := by
  unfold parse
  cases hfind : all.find? fun r => Text.sameLetters r.name (Text.trim name) with
  | none =>
      have hnot := List.find?_eq_none.1 hfind r r.mem_all
      rw [sameLetters_name] at hnot
      exact absurd (decide_eq_true h) hnot
  | some r' =>
      have hspelt := List.find?_some hfind
      rw [sameLetters_name] at hspelt
      exact congrArg Except.ok ((of_decide_eq_true hspelt).unique h)

theorem parse_of_not_isSpelt {name : String} (h : ∀ r : Region, ¬ r.IsSpelt (Text.trim name)) :
    parse name = .error ⟨.unknownServer, Text.trim name⟩ := by
  have hfind : all.find? (fun r => Text.sameLetters r.name (Text.trim name)) = none := by
    rw [List.find?_eq_none]
    intro r _
    rw [sameLetters_name]
    exact fun hspelt => h r (of_decide_eq_true hspelt)
  rw [parse, hfind]

end Region

/-! ## Items of a list -/

namespace Settings

/-- The items of a list of servers: what stands between commas, without the blanks around it. Items
that are blank do not count. -/
def items (list : String) : List String :=
  ((list.toList.splitOn ',').map fun item => Text.trim (String.ofList item)).filter (· ≠ "")

theorem serverNames_eq (list : String) : serverNames list = items list := by
  have hempty : ∀ name : String, (!name.isEmpty) = decide (name ≠ "") := by
    intro name
    rw [Bool.eq_iff_iff]
    simp
  unfold serverNames items
  rw [Text.splitAt_eq, List.map_map]
  exact List.filter_congr fun name _ => hempty name

theorem trim_of_mem_items {list name : String} (h : name ∈ items list) : Text.trim name = name := by
  obtain ⟨item, -, rfl⟩ := List.mem_map.1 (List.mem_filter.1 h).1
  exact Text.trim_trim _

/-- Names name regions, each its own. -/
structure Named (regions : List Region) (names : List String) : Prop where
  spelt : List.Forall₂ Region.IsSpelt regions names
  nodup : regions.Nodup

/-- What is wrong with a name that comes after names of regions. -/
inductive Offence (before : List Region) (name : String) : Failure → Prop where
  | unknown (h : ∀ r : Region, ¬ r.IsSpelt name) :
      Offence before name ⟨.configuration, "unknown server in TRACKER_SERVERS: " ++ name⟩
  | twice (r : Region) (h : r.IsSpelt name) (hbefore : r ∈ before) :
      Offence before name ⟨.configuration, "server listed twice in TRACKER_SERVERS: " ++ r.name⟩

/-- All names name regions, each its own, or there is a first that does not. -/
theorem named_or_offence (names : List String) :
    (∃ regions, Named regions names)
      ∨ ∃ before name after regions f, names = before ++ name :: after ∧ Named regions before
        ∧ Offence regions name f := by
  induction names using List.reverseRecOn with
  | nil => exact Or.inl ⟨[], .nil, List.nodup_nil⟩
  | append_singleton names name ih =>
      rcases ih with ⟨regions, hnamed⟩ | ⟨before, name', after, regions, f, rfl, hnamed, hf⟩
      · by_cases hspelt : ∃ r : Region, r.IsSpelt name
        · obtain ⟨r, hr⟩ := hspelt
          by_cases htwice : r ∈ regions
          · exact Or.inr ⟨names, name, [], regions, _, rfl, hnamed, .twice r hr htwice⟩
          · refine Or.inl ⟨regions ++ [r], ?spelt, ?nodup⟩
            case spelt => exact List.rel_append hnamed.spelt (.cons hr .nil)
            case nodup =>
              refine List.nodup_append.2 ⟨hnamed.nodup, List.pairwise_singleton _ r, ?_⟩
              rintro r' hr' _ hmem rfl
              exact htwice (List.mem_singleton.1 hmem ▸ hr')
        · have hunknown : ∀ r : Region, ¬ r.IsSpelt name := fun r hr => hspelt ⟨r, hr⟩
          exact Or.inr ⟨names, name, [], regions, _, rfl, hnamed, .unknown hunknown⟩
      · exact Or.inr ⟨before, name', after ++ [name], regions, f, by simp, hnamed, hf⟩

/-! ## Reading the list -/

section Read

variable (lookup : Lookup)

/-- One more name, of a region that was not there. -/
theorem addRegion_of_isSpelt {regions : List Region} {r : Region} {name : String}
    (htrim : Text.trim name = name) (h : r.IsSpelt name) (hnew : r ∉ regions) :
    addRegion lookup (regions.map (ofRegion lookup)) name
      = .ok ((regions ++ [r]).map (ofRegion lookup)) := by
  have hparse := Region.parse_of_isSpelt (htrim.symm ▸ h)
  have hany : (regions.map (ofRegion lookup)).any (·.region = r) = false := by
    rw [List.any_map, List.any_eq_false]
    intro r' hr' heq
    exact hnew (of_decide_eq_true heq ▸ hr')
  simp only [addRegion, hparse, hany]
  simp

/-- One more name, with which something is wrong. -/
theorem addRegion_of_offence {regions : List Region} {name : String} {f : Failure}
    (htrim : Text.trim name = name) (h : Offence regions name f) :
    addRegion lookup (regions.map (ofRegion lookup)) name = .error f := by
  cases h with
  | unknown h =>
      have hparse := Region.parse_of_not_isSpelt fun r => htrim.symm ▸ h r
      simp only [addRegion, hparse]
  | twice r h hbefore =>
      have hparse := Region.parse_of_isSpelt (htrim.symm ▸ h)
      have hany : (regions.map (ofRegion lookup)).any (·.region = r) = true := by
        rw [List.any_map, List.any_eq_true]
        exact ⟨r, hbefore, decide_eq_true rfl⟩
      simp only [addRegion, hparse, hany, if_true]

/-- All names of a list name regions that were not there. -/
theorem foldlM_addRegion {regions : List Region} {names : List String}
    (h : List.Forall₂ Region.IsSpelt regions names) (htrim : ∀ name ∈ names, Text.trim name = name)
    (taken : List Region) (hnodup : (taken ++ regions).Nodup) :
    names.foldlM (addRegion lookup) (taken.map (ofRegion lookup))
      = .ok ((taken ++ regions).map (ofRegion lookup)) := by
  induction h generalizing taken with
  | nil => rw [List.append_nil]; rfl
  | @cons r name regions names hspelt _ ih =>
      rw [List.forall_mem_cons] at htrim
      have hnew : r ∉ taken := fun hr =>
        (List.nodup_append.1 hnodup).2.2 r hr r List.mem_cons_self rfl
      rw [List.append_cons] at hnodup ⊢
      rw [List.foldlM_cons, addRegion_of_isSpelt lookup htrim.1 hspelt hnew]
      exact ih htrim.2 (taken ++ [r]) hnodup

variable {list : String}

theorem foldlM_of_named {regions : List Region} {names : List String} (h : Named regions names)
    (htrim : ∀ name ∈ names, Text.trim name = name) :
    names.foldlM (addRegion lookup) [] = .ok (regions.map (ofRegion lookup)) :=
  foldlM_addRegion lookup h.spelt htrim [] h.nodup

theorem regionsOf_of_named {regions : List Region} (h : Named regions (items list))
    (hne : items list ≠ []) : regionsOf lookup list = .ok (regions.map (ofRegion lookup)) := by
  have hfold := foldlM_of_named lookup h fun _ => trim_of_mem_items
  have hregions : regions ≠ [] := by
    rintro rfl
    exact hne (List.forall₂_nil_left_iff.1 h.spelt)
  unfold regionsOf
  rw [serverNames_eq, hfold]
  exact if_neg (by simpa using hregions)

theorem regionsOf_of_nil (h : items list = []) : regionsOf lookup list =
    .error ⟨.configuration, "TRACKER_SERVERS must name at least one server"⟩ := by
  unfold regionsOf
  rw [serverNames_eq, h]
  rfl

theorem regionsOf_of_offence {before after : List String} {name : String} {regions : List Region}
    {f : Failure} (hitems : items list = before ++ name :: after) (h : Named regions before)
    (hf : Offence regions name f) : regionsOf lookup list = .error f := by
  have htrim : ∀ item ∈ before ++ name :: after, Text.trim item = item :=
    fun item hitem => trim_of_mem_items (hitems ▸ hitem)
  have hbefore := foldlM_of_named lookup h fun item hitem =>
    htrim item (List.mem_append_left _ hitem)
  have hname := addRegion_of_offence lookup (htrim name (by simp)) hf
  have hfold : (items list).foldlM (addRegion lookup) [] = .error f := by
    rw [hitems, List.foldlM_append, hbefore]
    simp only [List.foldlM_cons, bind, Except.bind, hname]
  unfold regionsOf
  rw [serverNames_eq, hfold]
  rfl

variable {lookup}

/-- A list is taken just if it has items and all name regions, each its own. -/
theorem regionsOf_eq_ok_iff {found : List RegionSettings} : regionsOf lookup list = .ok found ↔
    items list ≠ [] ∧ ∃ regions, Named regions (items list)
      ∧ found = regions.map (ofRegion lookup) := by
  constructor
  · intro h
    have hne : items list ≠ [] := by
      intro hnil
      rw [regionsOf_of_nil lookup hnil] at h
      cases h
    refine ⟨hne, ?_⟩
    rcases named_or_offence (items list) with
      ⟨regions, hnamed⟩ | ⟨before, name, after, regions, f, hitems, hnamed, hf⟩
    · rw [regionsOf_of_named lookup hnamed hne] at h
      exact ⟨regions, hnamed, (Except.ok.inj h).symm⟩
    · rw [regionsOf_of_offence lookup hitems hnamed hf] at h
      cases h
  · rintro ⟨hne, regions, hnamed, rfl⟩
    exact regionsOf_of_named lookup hnamed hne

/-- A list is refused just for its first item that does not name a region of its own, or for having
no items. -/
theorem regionsOf_eq_error_iff {f : Failure} : regionsOf lookup list = .error f ↔
    (items list = [] ∧ f = ⟨.configuration, "TRACKER_SERVERS must name at least one server"⟩)
      ∨ ∃ before name after regions, items list = before ++ name :: after
        ∧ Named regions before ∧ Offence regions name f := by
  constructor
  · intro h
    by_cases hnil : items list = []
    · rw [regionsOf_of_nil lookup hnil] at h
      exact Or.inl ⟨hnil, (Except.error.inj h).symm⟩
    · rcases named_or_offence (items list) with
        ⟨regions, hnamed⟩ | ⟨before, name, after, regions, f', hitems, hnamed, hf⟩
      · rw [regionsOf_of_named lookup hnamed hnil] at h
        cases h
      · rw [regionsOf_of_offence lookup hitems hnamed hf] at h
        obtain rfl := Except.error.inj h
        exact Or.inr ⟨before, name, after, regions, hitems, hnamed, hf⟩
  · rintro (⟨hnil, rfl⟩ | ⟨before, name, after, regions, hitems, hnamed, hf⟩)
    · exact regionsOf_of_nil lookup hnil
    · exact regionsOf_of_offence lookup hitems hnamed hf

end Read

/-- The settings of a region are told by its own two variables. -/
theorem ofRegion_congr {lookup lookup' : Lookup} {r : Region}
    (hdirectory :
      lookup ("MASTER_DATA_DIR_" ++ r.suffix) = lookup' ("MASTER_DATA_DIR_" ++ r.suffix))
    (hdatabase : lookup ("DATABASE_URL_" ++ r.suffix) = lookup' ("DATABASE_URL_" ++ r.suffix)) :
    ofRegion lookup r = ofRegion lookup' r := by
  rw [ofRegion, ofRegion, hdirectory, hdatabase]

end Settings

end RankLedger
