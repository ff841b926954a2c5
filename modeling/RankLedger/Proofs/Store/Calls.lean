import RankLedger.Proofs.Store.Contents

set_option autoImplicit false

/-! # Call after call

What the tables of a store hold after any calls, told by the calls alone
(`Store.tables_hold_offers`): of all rows that calls have brought under one key the first stays for
good, of all that they have told about a player the last counts, and calls that failed have left
nothing. A call is seen as the batch that it brings to an event, so that a run brings one long batch
(`Store.content_performAll`). The groups in which rows are written leave no trace, whatever their
sizes (`Database.writeGrouped_eq`). -/

namespace RankLedger

/-! ## Groups of any size -/

namespace Database

/-- Write lists of groups, each as it is divided; a group without content is passed over. -/
def writeGroups {α : Type} (write : Writer α) (db : Database) (e : Int) (gs : List (List α)) :
    Except TableKind Database :=
  (gs.filter (!·.isEmpty)).foldlM (fun db g => write db e g) db

/-- Write all that a cycle brings, divided into groups. -/
def writeGrouped (db : Database) (e : Int) (rankings chapters : List (List RankRow))
    (identities : List (List Identity)) : Except TableKind Database := do
  let db ← writeGroups writeRankings db e rankings
  let db ← writeGroups writeChapters db e chapters
  writeGroups writeIdentities db e identities

theorem putTable_putTable (db : Database) (e : Int) {t t' : Table} (h : t'.kind = t.kind) :
    (db.putTable e t).putTable e t' = db.putTable e t' := by
  have htables : ((db.putTable e t).putTable e t').tables = (db.putTable e t').tables := by
    simp only [putTable, h, Keyed.put_put]
  generalize (db.putTable e t).putTable e t' = db₁ at htables
  generalize db.putTable e t' = db₂ at htables
  cases db₁
  cases db₂
  cases htables
  rfl

section Fills

variable {α : Type} {write : Writer α} {kind : TableKind} {part : List α → Batch}
  (hw : Writer.Fills write kind part)
include hw

/-- Written group by group or at once: it is the same to the database. -/
theorem Writer.Fills.foldlM_eq {gs : List (List α)} (hgs : [] ∉ gs) (db : Database) (e : Int) :
    gs.foldlM (fun db g => write db e g) db =
      if gs.flatten = [] then .ok db else write db e gs.flatten := by
  induction gs generalizing db with
  | nil => rfl
  | cons g gs ih =>
      rw [List.mem_cons, not_or] at hgs
      have hg : ¬ (g :: gs).flatten = [] := by
        rw [List.flatten_cons, List.append_eq_nil_iff]
        exact fun h => hgs.1 h.1.symm
      rw [if_neg hg, List.foldlM_cons, List.flatten_cons, hw.write_eq, hw.write_eq]
      cases ht : db.table? kind e with
      | none => rfl
      | some t =>
          show gs.foldlM (fun db g => write db e g) (db.putTable e (t.absorb (part g))) =
            .ok (db.putTable e (t.absorb (part (g ++ gs.flatten))))
          rw [ih hgs.2, hw.absorb_append]
          split
          · rename_i hnil
            rw [hnil, hw.absorb_nil]
          · -- What is put for the rest replaces what was put for the first group.
            have hkind : (t.absorb (part g)).kind = kind :=
              (Table.kind_absorb _ t).trans (kind_of_table? ht)
            have hput : (db.putTable e (t.absorb (part g))).table? kind e
                = some (t.absorb (part g)) := by
              rw [table?_putTable, if_pos ⟨hkind, rfl⟩]
            rw [hw.write_eq, hput]
            exact congrArg Except.ok (putTable_putTable db e (Table.kind_absorb _ _))

theorem Writer.Fills.writeGroups_eq (db : Database) (e : Int) (gs : List (List α)) :
    writeGroups write db e gs = writeAll write db e gs.flatten := by
  have hflatten : (gs.filter (!·.isEmpty)).flatten = gs.flatten := List.flatten_filter_not_isEmpty
  have hgroups : ∀ xs : List α, [] ∉ groups xs := by
    intro xs
    induction xs using groups.induct with
    | case1 => simp [groups]
    | case2 x xs ih => simp [groups, groupSize] at ih ⊢; exact ih
  unfold writeGroups writeAll
  rw [hw.foldlM_eq (by simp), hw.foldlM_eq (hgroups _), hflatten, flatten_groups]

end Fills

/-- It makes no difference how a batch is divided into groups. -/
theorem writeGrouped_eq (db : Database) (e : Int) (rankings chapters : List (List RankRow))
    (identities : List (List Identity)) :
    db.writeGrouped e rankings chapters identities =
      db.write e ⟨rankings.flatten, chapters.flatten, identities.flatten⟩ := by
  unfold writeGrouped write
  simp only [fills_writeRankings.writeGroups_eq, fills_writeChapters.writeGroups_eq,
    fills_writeIdentities.writeGroups_eq]

end Database

/-! ## Calls -/

namespace Store

/-- Something that is done to a store. -/
inductive Call where
  | provision (eventId : Int) (kind : EventKind)
  | record (eventId : Int) (batch : Batch)
  | close
  deriving DecidableEq

namespace Call

/-- What a call brings to an event. -/
def batchFor (e : Int) : Call → Batch
  | .record e' b => if e' = e then b else {}
  | .provision _ _ => {}
  | .close => {}

/-- Whether a call makes a table of an event. -/
def makes (kind : TableKind) (e : Int) : Call → Bool
  | .provision e' k => e' = e && (Schema.kinds k.hasChapters).contains kind
  | .record _ _ => false
  | .close => false

end Call

/-- The store after a call. -/
def perform (s : Store) : Call → Store
  | .provision e kind => (s.provision e kind).2
  | .record e b => (s.record e b).2
  | .close => s.close

/-- Whether a call goes well. -/
def goesWell (s : Store) : Call → Bool
  | .provision e kind => (s.provision e kind).1.isOk
  | .record e b => (s.record e b).1.isOk
  | .close => true

/-- The store after one call after another. -/
def performAll (s : Store) (calls : List Call) : Store := calls.foldl perform s

/-- The calls that go well. -/
def goneWell (s : Store) : List Call → List Call
  | [] => []
  | c :: cs => (if s.goesWell c then [c] else []) ++ (s.perform c).goneWell cs

/-- All that calls bring to an event, in their order. -/
def offered (e : Int) : List Call → Batch
  | [] => {}
  | c :: cs => c.batchFor e ++ offered e cs

@[simp] theorem performAll_append (s : Store) (cs cs' : List Call) :
    s.performAll (cs ++ cs') = (s.performAll cs).performAll cs' := List.foldl_append

theorem offered_append (e : Int) (cs cs' : List Call) :
    offered e (cs ++ cs') = offered e cs ++ offered e cs' := by
  induction cs with
  | nil => rfl
  | cons c cs ih => simp [offered, ih, List.append_assoc]

/-! ## One call -/

section Step

variable (s : Store) (c : Call)

/-- The tables of an event take in what a call brings to it, if it goes well. -/
theorem content_perform (kind : TableKind) (e : Int) :
    (s.perform c).content kind e =
      if s.goesWell c then (s.content kind e).absorb (c.batchFor e) else s.content kind e := by
  cases c with
  | provision e' k =>
      have hsame : (s.perform (.provision e' k)).content kind e = s.content kind e :=
        (s.grows_provision e' k).content kind e
      simp [hsame, Call.batchFor]
  | record e' b =>
      show (s.record e' b).2.content kind e = if (s.record e' b).1.isOk then
        (s.content kind e).absorb (Call.batchFor e (.record e' b)) else s.content kind e
      rcases hr : s.record e' b with ⟨f | w, s'⟩
      · unfold content
        rw [database_record_of_error hr]
        rfl
      · have hwell : Except.isOk (Except.ok w : Except Failure WriteSummary) = true := rfl
        rw [content_record hr, Call.batchFor, if_pos hwell]
        split
        · rfl
        · rw [Table.absorb_empty]
  | close =>
      rw [Call.batchFor, Table.absorb_empty, ite_self]
      rfl

theorem hasTable_perform (kind : TableKind) (e : Int) :
    (s.perform c).database.hasTable kind e =
      (s.database.hasTable kind e || (s.goesWell c && c.makes kind e)) := by
  cases c with
  | provision e' k =>
      simp only [perform, goesWell, Call.makes, provision_eq]
      split
      · simp only [Database.hasTable, Database.table?_provision, Except.isOk, Except.toBool,
          Bool.true_and]
        cases s.database.table? kind e with
        | some t => simp
        | none => split <;> simp_all
      · simp [Except.isOk, Except.toBool]
  | record e' b =>
      have hsame : (s.record e' b).2.database.hasTable kind e = s.database.hasTable kind e := by
        rcases hr : s.record e' b with ⟨f | w, s'⟩
        · rw [database_record_of_error hr]
        · exact (record_ok hr).2.2.hasTable kind e
      simp [perform, Call.makes, hsame]
  | close => simp [perform, close, Call.makes]

theorem isOpen_perform : (s.perform c).isOpen = (s.isOpen && !(c matches .close)) := by
  cases c with
  | provision e k => simp [perform, isOpen_provision]
  | record e b => simp [perform, isOpen_record]
  | close => simp [perform, close]

/-- Tables are made by a store that is open. -/
theorem goesWell_provision_iff (e : Int) (k : EventKind) :
    s.goesWell (.provision e k) = true ↔ s.isOpen = true := by
  show (s.provision e k).1.isOk = true ↔ s.isOpen = true
  rw [provision_eq]
  cases hopen : s.isOpen with
  | true => exact iff_of_true rfl rfl
  | false => exact iff_of_false Bool.false_ne_true Bool.false_ne_true

/-- A batch is taken by a store that is open and has the tables that it needs. -/
theorem goesWell_record_iff (e : Int) (b : Batch) :
    s.goesWell (.record e b) = true ↔
      s.isOpen = true ∧ ∀ kind, b.brings kind = true → s.database.hasTable kind e = true := by
  unfold goesWell
  cases hopen : s.isOpen with
  | false => simp [record_eq, hopen, Except.isOk, Except.toBool]
  | true =>
      rcases record_cases hopen e b with ⟨w, s', hr, -, hlacks, -⟩ | ⟨kind, hr, hlacks⟩
      · simp only [hr, Except.isOk, Except.toBool, true_and, true_iff]
        intro kind hbrings
        simpa [Database.lacks, hbrings] using hlacks kind
      · simp only [hr, Except.isOk, Except.toBool, true_and, Bool.false_eq_true, false_iff]
        intro hall
        rw [Database.lacks, Bool.and_eq_true] at hlacks
        simp [hall kind hlacks.1] at hlacks

end Step

/-! ### Players -/

/-- Put players under their names, one after another. -/
def putPlayers (m : Keyed String Identity) (ps : List Identity) : Keyed String Identity :=
  ps.foldl (fun m p => m.put p.userId p) m

/-- What is put last under a name counts. -/
theorem get?_putPlayers (m : Keyed String Identity) (ps : List Identity) (user : String) :
    (putPlayers m ps).get? user = (ps.filter (·.userId = user)).getLast?.or (m.get? user) := by
  unfold putPlayers
  rw [Keyed.get?_foldl_put Identity.userId (fun p => p), Option.map_id']

theorem nodup_keys_putPlayers {m : Keyed String Identity} (h : (Keyed.keys m).Nodup)
    (ps : List Identity) : (Keyed.keys (putPlayers m ps)).Nodup :=
  Keyed.nodup_keys_foldl_put h ps

/-! ## Many calls -/

section Run

variable (s : Store) (cs : List Call)

/-- The tables of an event take in all that the calls which go well bring to it. -/
theorem content_performAll (kind : TableKind) (e : Int) :
    (s.performAll cs).content kind e = (s.content kind e).absorb (offered e (s.goneWell cs)) := by
  induction cs generalizing s with
  | nil => exact (Table.absorb_empty _).symm
  | cons c cs ih =>
      have hstep : (s.perform c).content kind e = (s.content kind e).absorb
          (offered e (if s.goesWell c then [c] else [])) := by
        rw [content_perform]
        split
        · simp [offered, Batch.append_eq]
        · exact (Table.absorb_empty _).symm
      calc (s.performAll (c :: cs)).content kind e
          = ((s.perform c).content kind e).absorb (offered e ((s.perform c).goneWell cs)) :=
            ih (s.perform c)
        _ = (s.content kind e).absorb (offered e (s.goneWell (c :: cs))) := by
            rw [hstep, ← Table.absorb_append, ← offered_append]
            rfl

theorem hasTable_performAll (kind : TableKind) (e : Int) :
    (s.performAll cs).database.hasTable kind e =
      (s.database.hasTable kind e || (s.goneWell cs).any (·.makes kind e)) := by
  induction cs generalizing s with
  | nil => simp [performAll, goneWell]
  | cons c cs ih =>
      have hrun := ih (s.perform c)
      rw [hasTable_perform] at hrun
      have hrest : (s.goneWell (c :: cs)).any (·.makes kind e) =
          ((s.goesWell c && c.makes kind e)
            || ((s.perform c).goneWell cs).any (·.makes kind e)) := by
        rw [goneWell, List.any_append]
        cases s.goesWell c <;> simp
      rw [hrest, ← Bool.or_assoc]
      exact hrun

theorem isOpen_performAll :
    (s.performAll cs).isOpen = true ↔ s.isOpen = true ∧ Call.close ∉ cs := by
  induction cs generalizing s with
  | nil => simp [performAll]
  | cons c cs ih =>
      have hrun := ih (s.perform c)
      rw [isOpen_perform] at hrun
      refine hrun.trans ?_
      cases c <;> simp [and_comm]

theorem mainRows_performAll (e : Int) :
    (s.performAll cs).mainRows e =
      offerAll Database.mainKey (s.mainRows e) (offered e (s.goneWell cs)).mainRows := by
  rw [mainRows_eq, mainRows_eq, content_performAll, Table.eq_rankings (s.kind_content e .rankings)]
  rfl

theorem chapterRows_performAll (e : Int) :
    (s.performAll cs).chapterRows e =
      offerAll Database.chapterKey (s.chapterRows e) (offered e (s.goneWell cs)).chapterRows := by
  rw [chapterRows_eq, chapterRows_eq, content_performAll,
    Table.eq_chapters (s.kind_content e .chapters)]
  rfl

theorem players_performAll (e : Int) :
    (s.performAll cs).players e =
      putPlayers (s.players e) (offered e (s.goneWell cs)).identities := by
  rw [players_eq, players_eq, content_performAll,
    Table.eq_identities (s.kind_content e .identities)]
  rfl

end Run

/-! ## A new store -/

/-- A store without tables, after calls. -/
def after (calls : List Call) : Store := ({} : Store).performAll calls

/-- The calls that go well on a store without tables. -/
def wellDone (calls : List Call) : List Call := ({} : Store).goneWell calls

section New

variable (calls : List Call) (e : Int)

theorem mainRows_after : (after calls).mainRows e =
    firstBy Database.mainKey (offered e (wellDone calls)).mainRows := mainRows_performAll {} calls e

theorem chapterRows_after : (after calls).chapterRows e =
    firstBy Database.chapterKey (offered e (wellDone calls)).chapterRows :=
  chapterRows_performAll {} calls e

theorem players_after : (after calls).players e =
    putPlayers [] (offered e (wellDone calls)).identities := players_performAll {} calls e

/-- No row is lost or changed by later calls. -/
theorem mainRows_grow (later : List Call) :
    (after calls).mainRows e <+: (after (calls ++ later)).mainRows e := by
  unfold after
  rw [performAll_append, mainRows_performAll (({} : Store).performAll calls)]
  exact prefix_offerAll _ _ _

theorem chapterRows_grow (later : List Call) :
    (after calls).chapterRows e <+: (after (calls ++ later)).chapterRows e := by
  unfold after
  rw [performAll_append, chapterRows_performAll (({} : Store).performAll calls)]
  exact prefix_offerAll _ _ _

theorem nodup_keys_players_after : (Keyed.keys ((after calls).players e)).Nodup := by
  rw [players_after]
  exact nodup_keys_putPlayers (m := []) List.nodup_nil _

/-- Of all that was told about a player the last counts. -/
theorem get?_players_after (user : String) : ((after calls).players e).get? user =
    ((offered e (wellDone calls)).identities.filter (·.userId = user)).getLast? := by
  rw [players_after, get?_putPlayers]
  exact Option.or_none

theorem hasTable_after (kind : TableKind) : (after calls).database.hasTable kind e = true ↔
    ∃ k, Call.provision e k ∈ wellDone calls ∧ kind ∈ Schema.kinds k.hasChapters := by
  have hmade : (after calls).database.hasTable kind e = (wellDone calls).any (·.makes kind e) :=
    hasTable_performAll {} calls kind e
  rw [hmade, List.any_eq_true]
  constructor
  · rintro ⟨c, hc, hmakes⟩
    cases c with
    | provision e' k =>
        obtain ⟨rfl, hkind⟩ : e' = e ∧ kind ∈ Schema.kinds k.hasChapters := by
          simpa [Call.makes] using hmakes
        exact ⟨k, hc, hkind⟩
    | record e' b => cases hmakes
    | close => cases hmakes
  · rintro ⟨k, hk, hkind⟩
    exact ⟨_, hk, by simpa [Call.makes] using hkind⟩

theorem isOpen_after : (after calls).isOpen = true ↔ Call.close ∉ calls :=
  (isOpen_performAll {} calls).trans (and_iff_right rfl)

end New

/-- After any calls on a store that had no tables, whichever of them failed, the tables of each
event are told by the calls that went well:

* they are those that calls have made;
* of the rows brought under a player and second, or a player, second and character, the first
  brought is there, and no other; it stays in its place whatever is called later;
* of what was brought about a player, the last is there, and nothing else;
* further tables are made just if the store was not closed, and a further batch is taken just if
  besides it has the tables for it;
* and the groups in which rows are written may as well be others. -/
theorem tables_hold_offers (calls : List Call) (e : Int) :
    (∀ kind, (after calls).database.hasTable kind e = true ↔
      ∃ k, Call.provision e k ∈ wellDone calls ∧ kind ∈ Schema.kinds k.hasChapters)
    ∧ (∀ key, ((after calls).mainRows e).filter (Database.mainKey · = key) =
      ((offered e (wellDone calls)).mainRows.find? (Database.mainKey · = key)).toList)
    ∧ (∀ key, ((after calls).chapterRows e).filter (Database.chapterKey · = key) =
      ((offered e (wellDone calls)).chapterRows.find? (Database.chapterKey · = key)).toList)
    ∧ (∀ later, (after calls).mainRows e <+: (after (calls ++ later)).mainRows e
      ∧ (after calls).chapterRows e <+: (after (calls ++ later)).chapterRows e)
    ∧ (∀ user, ((after calls).players e).filter (·.1 = user) =
      ((offered e (wellDone calls)).identities.filter (·.userId = user)).getLast?.toList.map
        fun p => (user, p))
    ∧ (∀ k, (after calls).goesWell (.provision e k) = true ↔ Call.close ∉ calls)
    ∧ (∀ b, (after calls).goesWell (.record e b) = true ↔
      Call.close ∉ calls
        ∧ ∀ kind, b.brings kind = true → (after calls).database.hasTable kind e = true)
    ∧ ∀ (db : Database) (rankings chapters : List (List RankRow))
      (identities : List (List Identity)), db.writeGrouped e rankings chapters identities =
        db.write e ⟨rankings.flatten, chapters.flatten, identities.flatten⟩ := by
  refine ⟨hasTable_after calls e, fun key => ?rankings, fun key => ?chapters,
    fun later => ⟨mainRows_grow calls e later, chapterRows_grow calls e later⟩,
    fun user => ?players, fun k => ?made, fun b => ?taken,
    fun db rankings chapters identities => db.writeGrouped_eq e rankings chapters identities⟩
  case rankings =>
    rw [mainRows_after]
    exact filter_firstBy _ _ _
  case chapters =>
    rw [chapterRows_after]
    exact filter_firstBy _ _ _
  case players =>
    rw [Keyed.filter_of_nodup_keys (nodup_keys_players_after calls e), get?_players_after]
  case made => rw [goesWell_provision_iff, isOpen_after]
  case taken => rw [goesWell_record_iff, isOpen_after]

/-- A second of a player, with a score. -/
def scoredBatch (score : Int) (name : String) : Batch where
  rankings := [⟨5, "u", score, 1, none⟩]
  identities := [⟨"u", name, none⟩]

/-- Calls that bring one second of a player twice; the one between has no table to write into, and
the last comes too late. -/
def twiceCalls : List Call :=
  [.provision 1 .marathon, .record 1 (scoredBatch 10 "U"), .record 2 (scoredBatch 15 "X"),
    .record 1 (scoredBatch 20 "V"), .close, .record 1 (scoredBatch 30 "W")]

/-- The first score of a second stays, and the last name before the store was closed. -/
theorem tables_hold_offers_twice :
    ((after twiceCalls).mainRows 1).filter (Database.mainKey · = (5, "u"))
        = [⟨5, "u", 10, 1, none⟩]
      ∧ ((after twiceCalls).players 1).filter (·.1 = "u") = [("u", ⟨"u", "V", none⟩)]
      ∧ (after twiceCalls).database.hasTable .rankings 1 = true
      ∧ (after twiceCalls).database.hasTable .rankings 2 = false
      ∧ (after twiceCalls).goesWell (.provision 2 .marathon) = false := by
  obtain ⟨htables, hrows, -, -, hplayers, -⟩ := tables_hold_offers twiceCalls 1
  obtain ⟨hothers, -, -, -, -, hgoes, -⟩ := tables_hold_offers twiceCalls 2
  have hwell : wellDone twiceCalls = [.provision 1 .marathon, .record 1 (scoredBatch 10 "U"),
      .record 1 (scoredBatch 20 "V"), .close] := by
    decide +kernel
  have hnone : ¬ ∃ k, Call.provision 2 k ∈ wellDone twiceCalls
      ∧ TableKind.rankings ∈ Schema.kinds k.hasChapters := by
    simp [hwell]
  refine ⟨?row, ?player, (htables .rankings).2 ⟨.marathon, by simp [hwell], by decide⟩,
    Bool.eq_false_iff.2 (mt (hothers .rankings).1 hnone), Bool.eq_false_iff.2 ?closed⟩
  case row =>
    rw [hrows, hwell]
    rfl
  case player =>
    rw [hplayers, hwell]
    rfl
  case closed =>
    intro hwould
    exact (hgoes .marathon).1 hwould (by simp [twiceCalls])

end Store

end RankLedger
