import RankLedger.Proofs.Tracking.Border

set_option autoImplicit false

/-! # What calls on a ledger come to

A ledger is asked to stage, to commit and to merge, in any order. What a staging answers is told by
the commits made before it under its key (`BorderLedger.answers_follow_commits`): the ledger is what
these commits have left (`BorderLedger.after_eq_commitAll`), and staging leaves nothing. Where the
keys are those of boards, a ledger so tells whether a border is the one last committed for the very
same board (`Watch.detects_changes`), since a key tells its board, and a digest the places and
scores. -/

namespace RankLedger

namespace BorderLedger

/-! ## Calls -/

/-- Something that is asked of a ledger. -/
inductive Call where
  | stage (top border : List Standing) (key : String)
  | commit (s : StagedBorder)
  | merge (top border : List Standing) (key : String)

/-- What is answered. -/
inductive Answer where
  | staged (m : Merge)
  | committed
  | merged (standings : List Standing)
  deriving DecidableEq, Repr

/-- Answer a call: the answer, and the ledger after it. -/
def perform (l : BorderLedger) : Call → Answer × BorderLedger
  | .stage top border key => (.staged (l.stage top border key), l)
  | .commit s => (.committed, l.commit s)
  | .merge top border key =>
      (.merged (l.merge top border key).1, (l.merge top border key).2)

/-- The ledger after calls. -/
def after (l : BorderLedger) : List Call → BorderLedger
  | [] => l
  | c :: cs => (l.perform c).2.after cs

/-- What calls are answered, one after another. -/
def answers (l : BorderLedger) : List Call → List Answer
  | [] => []
  | c :: cs => (l.perform c).1 :: (l.perform c).2.answers cs

/-- What a call commits. -/
def commitsOf (l : BorderLedger) : Call → List StagedBorder
  | .stage _ _ _ => []
  | .commit s => [s]
  | .merge top border key => (l.stage top border key).staged.toList

/-- What calls commit, in order. -/
def commits (l : BorderLedger) : List Call → List StagedBorder
  | [] => []
  | c :: cs => l.commitsOf c ++ (l.perform c).2.commits cs

/-- The digest committed last under a key. -/
def lastDigest? (ss : List StagedBorder) (key : String) : Option String :=
  (ss.filter (·.key = key)).getLast?.map (·.digest)

theorem lastDigest?_concat (ss : List StagedBorder) (s : StagedBorder) (key : String) :
    lastDigest? (ss ++ [s]) key = if s.key = key then some s.digest else lastDigest? ss key := by
  unfold lastDigest?
  by_cases hkey : s.key = key
  · simp [hkey]
  · simp [hkey]

theorem stage_commit_of_ne (l : BorderLedger) {s : StagedBorder} {key : String} (h : s.key ≠ key)
    (top border : List Standing) : (l.commit s).stage top border key = l.stage top border key := by
  unfold stage
  rw [isUnchanged_commit, if_neg h]

section Runs

variable (l : BorderLedger) (cs cs' : List Call)

theorem after_append : l.after (cs ++ cs') = (l.after cs).after cs' := by
  induction cs generalizing l with
  | nil => rfl
  | cons c cs ih => exact ih (l.perform c).2

theorem answers_append : l.answers (cs ++ cs') = l.answers cs ++ (l.after cs).answers cs' := by
  induction cs generalizing l with
  | nil => rfl
  | cons c cs ih => simp [answers, after, ih]

theorem length_answers : (l.answers cs).length = cs.length := by
  induction cs generalizing l with
  | nil => rfl
  | cons c cs ih => simp [answers, ih]

theorem commits_append : l.commits (cs ++ cs') = l.commits cs ++ (l.after cs).commits cs' := by
  induction cs generalizing l with
  | nil => rfl
  | cons c cs ih => simp [commits, after, ih]

theorem commits_concat (s : StagedBorder) :
    l.commits (cs ++ [.commit s]) = l.commits cs ++ [s] := by
  rw [commits_append]
  rfl

/-- The ledger is what the commits have left. -/
theorem after_eq_commitAll : l.after cs = l.commitAll (l.commits cs) := by
  induction cs generalizing l with
  | nil => rfl
  | cons c cs ih =>
      rw [after, ih, commits, commitAll_append]
      cases c <;> rfl

theorem after_map_commit (ss : List StagedBorder) : l.after (ss.map .commit) = l.commitAll ss := by
  induction ss generalizing l with
  | nil => rfl
  | cons s ss ih => exact ih (l.commit s)

theorem get?_after (key : String) : (({} : BorderLedger).after cs).digests.get? key =
    lastDigest? (({} : BorderLedger).commits cs) key := by
  rw [after_eq_commitAll, get?_commitAll]
  exact Option.or_none

theorem stage_after (top border : List Standing) (key : String) :
    (({} : BorderLedger).after cs).stage top border key =
      if lastDigest? (({} : BorderLedger).commits cs) key = some (Border.digest border) then
        ⟨top, none⟩
      else
        ⟨top ++ border.filter fun s => s.rank ≠ boundaryRank ∧ ∀ p ∈ top, p.rank ≠ s.rank,
          some ⟨key, Border.digest border⟩⟩ := by
  simp only [stage, isUnchanged, get?_after, below_eq, decide_eq_true_eq]

/-- What the other calls are answered is the same without a staging among them. -/
theorem eraseIdx_answers_stage (top border : List Standing) (key : String) :
    (l.answers (cs ++ .stage top border key :: cs')).eraseIdx cs.length
      = l.answers (cs ++ cs') := by
  rw [answers_append, answers_append, answers, ← length_answers l cs,
    List.eraseIdx_append_of_length_le (Nat.le_refl _), Nat.sub_self]
  rfl

theorem after_stage (top border : List Standing) (key : String) :
    l.after (cs ++ .stage top border key :: cs') = l.after (cs ++ cs') := by
  rw [after_append, after_append]
  rfl

end Runs

/-- After any calls on a new ledger, whatever their lists and keys:

* staging leaves the ledger as it is, and answers the whole best hundred first, in order;
* it answers these alone, with nothing to commit, just if the digest of the border is the one
  committed last under the key; otherwise it adds what of the border has neither the place where the
  best hundred end nor one that they have, in order, and asks for the digest to be committed;
* a commit counts for its own key alone;
* a staging whose digest is not committed may be left out: all other answers stay, and the ledger;
* to merge is to stage and then commit what was staged. -/
theorem answers_follow_commits (calls later : List Call) (top border : List Standing)
    (key : String) :
    let l := ({} : BorderLedger).after calls
    let last := lastDigest? (({} : BorderLedger).commits calls) key
    (l.perform (.stage top border key)).2 = l
      ∧ top <+: (l.stage top border key).standings
      ∧ (((l.stage top border key).standings = top ∧ (l.stage top border key).staged = none) ↔
        last = some (Border.digest border))
      ∧ l.stage top border key =
        (if last = some (Border.digest border) then ⟨top, none⟩
        else ⟨top ++ border.filter fun s => s.rank ≠ boundaryRank ∧ ∀ p ∈ top, p.rank ≠ s.rank,
          some ⟨key, Border.digest border⟩⟩)
      ∧ (∀ s, lastDigest? (({} : BorderLedger).commits (calls ++ [.commit s])) key =
          (if s.key = key then some s.digest else last)
        ∧ (s.key = key ∨ (l.commit s).stage top border key = l.stage top border key))
      ∧ (({} : BorderLedger).answers (calls ++ .stage top border key :: later)).eraseIdx
          calls.length
        = ({} : BorderLedger).answers (calls ++ later)
      ∧ ({} : BorderLedger).after (calls ++ .stage top border key :: later)
        = ({} : BorderLedger).after (calls ++ later)
      ∧ l.perform (.merge top border key) = (.merged (l.stage top border key).standings,
        l.after ((l.stage top border key).staged.toList.map .commit)) := by
  intro l last
  have hstage := stage_after calls top border key
  refine ⟨rfl, ?first, ?alone, hstage, ?own, eraseIdx_answers_stage {} calls later top border key,
    after_stage {} calls later top border key, ?merge⟩
  case first =>
    rw [hstage]
    split <;> simp
  case alone =>
    rw [hstage]
    by_cases hlast : lastDigest? (({} : BorderLedger).commits calls) key
        = some (Border.digest border)
    · simp [last, hlast]
    · simp [last, hlast]
  case own =>
    intro s
    constructor
    · rw [commits_concat, lastDigest?_concat]
    · by_cases hkey : s.key = key
      · exact Or.inl hkey
      · exact Or.inr (l.stage_commit_of_ne hkey top border)
  case merge =>
    rw [after_map_commit]
    rfl

end BorderLedger

/-! ## Boards -/

/-- A look at a board: its two views. -/
structure Look where
  board : BoardId
  top : List Standing
  border : List Standing
  deriving DecidableEq, Repr

namespace Look

/-- What staging the look comes to. -/
def stage (x : Look) (l : BorderLedger) : Merge := l.stage x.top x.border x.board.key

/-- What is committed of the look. -/
def digested (x : Look) : StagedBorder := ⟨x.board.key, Border.digest x.border⟩

theorem staged_stage {x : Look} {l : BorderLedger} {s : StagedBorder}
    (h : s ∈ (x.stage l).staged.toList) : s = x.digested := by
  unfold stage at h
  rcases l.stage_cases x.top x.border x.board.key with ⟨-, heq⟩ | ⟨-, heq⟩
  · simp [heq] at h
  · simpa [heq, digested] using h

end Look

/-- A ledger in use for boards: what has been staged and may be committed yet, with the looks that
it is from, and the looks that have been committed, in order. -/
structure Watch where
  ledger : BorderLedger := {}
  held : List (Look × StagedBorder) := []
  committed : List Look := []

namespace Watch

/-- A look is staged, something staged earlier is committed, or both are done at once. -/
inductive Move where
  | stage (x : Look)
  | commit (n : Nat)
  | merge (x : Look)

def next (w : Watch) : Move → Watch
  | .stage x => { w with held := w.held ++ (x.stage w.ledger).staged.toList.map fun s => (x, s) }
  | .commit n =>
      match w.held[n]? with
      | some (x, s) => { w with ledger := w.ledger.commit s, committed := w.committed ++ [x] }
      | none => w
  | .merge x =>
      { w with
        ledger := (w.ledger.merge x.top x.border x.board.key).2
        committed := w.committed ++ (x.stage w.ledger).staged.toList.map fun _ => x }

/-- A new ledger, after moves. -/
def after (moves : List Move) : Watch := moves.foldl next {}

/-- The look committed last for a board. -/
def last? (w : Watch) (i : BoardId) : Option Look :=
  (w.committed.filter (·.board = i)).getLast?

/-- What is held is from its look, and the ledger is what the committed looks have left. -/
structure Sound (w : Watch) : Prop where
  held : ∀ p ∈ w.held, p.2 = p.1.digested
  ledger : w.ledger = ({} : BorderLedger).commitAll (w.committed.map Look.digested)

/-- Looks may be committed. -/
theorem Sound.commitAll {w : Watch} (h : w.Sound) (xs : List Look) :
    Sound { w with
      ledger := w.ledger.commitAll (xs.map Look.digested)
      committed := w.committed ++ xs } := by
  refine ⟨h.held, ?_⟩
  rw [List.map_append, BorderLedger.commitAll_append, ← h.ledger]

theorem Sound.next {w : Watch} (h : w.Sound) (m : Move) : (w.next m).Sound := by
  cases m with
  | stage x =>
      refine ⟨?_, h.ledger⟩
      intro p hp
      rcases List.mem_append.1 hp with hp | hp
      · exact h.held p hp
      · obtain ⟨s, hs, rfl⟩ := List.mem_map.1 hp
        exact Look.staged_stage hs
  | commit n =>
      simp only [Watch.next]
      split
      · rename_i x s hp
        obtain rfl : s = x.digested := h.held (x, s) (List.mem_of_getElem? hp)
        exact h.commitAll [x]
      · exact h
  | merge x =>
      have hmerged : ((x.stage w.ledger).staged.toList.map fun _ => x).map Look.digested
          = (x.stage w.ledger).staged.toList := by
        rw [List.map_map]
        refine (List.map_congr_left ?_).trans (List.map_id _)
        intro s hs
        exact (Look.staged_stage hs).symm
      have hcommit := h.commitAll ((x.stage w.ledger).staged.toList.map fun _ => x)
      rw [hmerged] at hcommit
      exact hcommit

theorem sound_after (moves : List Move) : (after moves).Sound := by
  have hrun : ∀ w : Watch, w.Sound → (moves.foldl Watch.next w).Sound := by
    induction moves with
    | nil => exact fun w h => h
    | cons m moves ih => exact fun w h => ih (w.next m) (h.next m)
  refine hrun {} ⟨?_, rfl⟩
  intro p hp
  cases hp

/-- The ledger has the digest of the border committed last for a board. -/
theorem Sound.get?_key {w : Watch} (h : w.Sound) (i : BoardId) :
    w.ledger.digests.get? i.key = (w.last? i).map fun x => Border.digest x.border := by
  have hsame : (w.committed.map Look.digested).filter (·.key = i.key)
      = (w.committed.filter (·.board = i)).map Look.digested := by
    rw [List.filter_map]
    congr 1
    refine List.filter_congr ?_
    intro x _
    have hkey : x.board.key = i.key ↔ x.board = i := ⟨BoardId.key_inj, congrArg BoardId.key⟩
    simp [Look.digested, hkey]
  rw [h.ledger, BorderLedger.get?_commitAll, hsame, List.getLast?_map]
  unfold last?
  cases (w.committed.filter (·.board = i)).getLast? <;> rfl

/-- After any moves on a new ledger, and unless the digests of two borders are the same by chance:
a border is taken for unchanged just if the border committed last for the very same board has the
same places and scores. Boards have different keys, and who holds a place does not matter. -/
theorem detects_changes (moves : List Move) (i : BoardId) (border : List Standing)
    (hdigests : ∀ x ∈ (after moves).committed,
      Border.digest x.border = Border.digest border →
        Border.canonical x.border = Border.canonical border) :
    ((after moves).ledger.isUnchanged i.key (Border.digest border) = true ↔
      ∃ x, (after moves).last? i = some x ∧ Border.places x.border = Border.places border)
    ∧ (∀ j : BoardId, j.key = i.key ↔ j = i)
    ∧ ∀ border', Border.places border' = Border.places border →
      (after moves).ledger.isUnchanged i.key (Border.digest border')
        = (after moves).ledger.isUnchanged i.key (Border.digest border) := by
  refine ⟨?unchanged, fun j => ⟨BoardId.key_inj, congrArg BoardId.key⟩, ?holders⟩
  case unchanged =>
    have hlast : (after moves).ledger.isUnchanged i.key (Border.digest border) = true ↔
        ∃ x, (after moves).last? i = some x ∧ Border.digest x.border = Border.digest border := by
      unfold BorderLedger.isUnchanged
      rw [(sound_after moves).get?_key, decide_eq_true_eq, Option.map_eq_some_iff]
    rw [hlast]
    refine exists_congr fun x => and_congr_right fun hx => ⟨fun hdigest => ?_, fun hplaces => ?_⟩
    · have hmem : x ∈ (after moves).committed :=
        (List.mem_filter.1 (List.mem_of_getLast? hx)).1
      exact Border.canonical_eq_iff.1 (hdigests x hmem hdigest)
    · exact Border.digest_eq_of_places hplaces
  case holders =>
    intro border' hplaces
    rw [Border.digest_eq_of_places hplaces]

/-- A border of one standing. -/
def oneStanding (user : String) (score : Int) : List Standing :=
  [⟨user, 200, score, user, none, none⟩]

/-- A look at a board of event `1` that has nothing but such a border. -/
def lookAt (character : Option Int) (score : Int) : Look where
  board := ⟨.jp, 1, character⟩
  top := []
  border := oneStanding "a" score

/-- Two boards of one event are staged, and then committed the other way round. -/
def twoBoards : List Move :=
  [.stage (lookAt none 70), .stage (lookAt (some (-2)) 50), .commit 1, .commit 0]

/-- The border of the main board is known, though another player holds the place; as the border of a
chapter's board the same border is news, and so it is for the board whose key has the dashes of the
chapter's key elsewhere. -/
theorem detects_changes_two :
    (∀ x ∈ (after twoBoards).committed,
      Border.digest x.border = Border.digest (oneStanding "b" 70) →
        Border.canonical x.border = Border.canonical (oneStanding "b" 70))
      ∧ (after twoBoards).ledger.isUnchanged (BoardId.key ⟨.jp, 1, none⟩)
        (Border.digest (oneStanding "b" 70)) = true
      ∧ (after twoBoards).ledger.isUnchanged (BoardId.key ⟨.jp, 1, some (-2)⟩)
        (Border.digest (oneStanding "b" 70)) = false
      ∧ (after twoBoards).ledger.isUnchanged (BoardId.key ⟨.jp, -1, some 2⟩)
        (Border.digest (oneStanding "b" 70)) = false := by
  have hcommitted : (after twoBoards).committed = [lookAt (some (-2)) 50, lookAt none 70] := by
    decide +kernel
  have hdigests : ∀ x ∈ (after twoBoards).committed,
      Border.digest x.border = Border.digest (oneStanding "b" 70) →
        Border.canonical x.border = Border.canonical (oneStanding "b" 70) := by
    intro x hx hdigest
    simp only [hcommitted, List.mem_cons, List.not_mem_nil, or_false] at hx
    rcases hx with rfl | rfl
    · exact absurd hdigest (by decide +kernel)
    · decide +kernel
  have hlast : ∀ i, (after twoBoards).last? i =
      ([lookAt (some (-2)) 50, lookAt none 70].filter (·.board = i)).getLast? := by
    intro i
    unfold last?
    rw [hcommitted]
  have hknown := detects_changes twoBoards ⟨.jp, 1, none⟩ _ hdigests
  have hchapter := detects_changes twoBoards ⟨.jp, 1, some (-2)⟩ _ hdigests
  have hother := detects_changes twoBoards ⟨.jp, -1, some 2⟩ _ hdigests
  refine ⟨hdigests, hknown.1.2 ⟨lookAt none 70, ?_, by decide⟩, ?_, ?_⟩
  · rw [hlast]
    decide
  · rw [Bool.eq_false_iff, Ne, hchapter.1, hlast]
    rintro ⟨x, hx, hplaces⟩
    obtain rfl : lookAt (some (-2)) 50 = x := Option.some.inj hx
    exact absurd hplaces (by decide)
  · rw [Bool.eq_false_iff, Ne, hother.1, hlast]
    rintro ⟨x, hx, -⟩
    cases hx

end Watch

end RankLedger
