import Phrasebook.Project.Exchange
import Phrasebook.Project.Revision
import Phrasebook.Proofs.Observation
import Phrasebook.Proofs.Writing

/-!
# Trials and failures of revisions

A revision reads everything that it needs, computes what it is to write, and
writes only then.  So a revision that fails before has written nothing, and a
trial tells what the revision itself would do, as long as what is computed can
be written.
-/

namespace Phrasebook.Project

open Command
open Text (Source)

/-! ## Commands that only read -/

/-- A command leaves the disk as it was, whether it fails or not. -/
def KeepsDisk {α : Type} (command : Command α) : Prop :=
  ∀ session, (command.run.run session).2.disk = session.disk

section KeepsDisk

variable {ε α β : Type}

theorem run_bind_of_ok {command : Command α} {next : α → Command β} {session between : Session}
    {value : α} (done : command.run.run session = (.ok value, between)) :
    (command >>= next).run.run session = (next value).run.run between := by
  rw [ExceptT.run_bind, StateT.run_bind, done]
  rfl

theorem run_bind_of_error {command : Command α} {next : α → Command β}
    {session between : Session} {failure : Failure}
    (failed : command.run.run session = (.error failure, between)) :
    (command >>= next).run.run session = (.error failure, between) := by
  rw [ExceptT.run_bind, StateT.run_bind, failed]
  rfl

theorem KeepsDisk.disk_eq {command : Command α} (keeps : KeepsDisk command)
    {session last : Session} {outcome : Except Failure α}
    (run : command.run.run session = (outcome, last)) : last.disk = session.disk := by
  have kept := keeps session
  rwa [run] at kept

theorem keepsDisk_pure (value : α) : KeepsDisk (pure value) :=
  fun _ => rfl

theorem keepsDisk_throw (failure : Failure) : KeepsDisk (throw failure : Command α) :=
  fun _ => rfl

theorem keepsDisk_throw_bind (failure : Failure) (next : α → Command β) :
    KeepsDisk (throw failure >>= next) :=
  fun _ => rfl

theorem KeepsDisk.bind {command : Command α} {next : α → Command β} (first : KeepsDisk command)
    (rest : ∀ value, KeepsDisk (next value)) : KeepsDisk (command >>= next) := by
  intro session
  have kept := first session
  rcases run : command.run.run session with ⟨outcome, between⟩
  rw [run] at kept
  cases outcome with
  | error failure => rw [run_bind_of_error run, kept]
  | ok value => rw [run_bind_of_ok run, rest value between, kept]

theorem keepsDisk_disk : KeepsDisk disk :=
  fun _ => rfl

theorem keepsDisk_say (level : Level) (topic message : String) :
    KeepsDisk (say level topic message) :=
  fun _ => rfl

theorem keepsDisk_orFail (failure : ε → Failure) (outcome : Except ε α) :
    KeepsDisk (orFail failure outcome) := by
  cases outcome with
  | error fault => exact keepsDisk_throw (failure fault)
  | ok value => exact keepsDisk_pure value

/-- A loop leaves the disk as it was if each of its rounds does. -/
theorem keepsDisk_forIn {values : List α} {round : α → β → Command (ForInStep β)}
    (rounds : ∀ value state, KeepsDisk (round value state)) (state : β) :
    KeepsDisk (forIn values state round) := by
  induction values generalizing state with
  | nil => exact keepsDisk_pure state
  | cons value values ih =>
      rw [List.forIn_cons]
      refine (rounds value state).bind fun step => ?_
      cases step with
      | done state => exact keepsDisk_pure state
      | yield state => exact ih state

theorem keepsDisk_mapM {values : List α} {command : α → Command β}
    (each : ∀ value, KeepsDisk (command value)) : KeepsDisk (values.mapM command) := by
  induction values with
  | nil => exact keepsDisk_pure []
  | cons value values ih =>
      rw [List.mapM_cons]
      exact (each value).bind fun _ => ih.bind fun _ => keepsDisk_pure _

theorem keepsDisk_readFile (path : Disk.Path) : KeepsDisk (readFile path) :=
  keepsDisk_disk.bind fun _ => keepsDisk_orFail _ _

theorem keepsDisk_readText (path : Disk.Path) : KeepsDisk (readText path) := by
  refine (keepsDisk_readFile path).bind fun source => ?_
  cases source.lines? with
  | none => exact keepsDisk_throw _
  | some text => exact keepsDisk_pure text

theorem keepsDisk_load (environment : Settings.Environment) (path : String) :
    KeepsDisk (load environment path) := by
  unfold load
  refine keepsDisk_disk.bind fun disk => ?_
  dsimp only
  split
  · exact keepsDisk_throw_bind _ _
  · refine (keepsDisk_orFail _ _).bind fun project => ?_
    refine (keepsDisk_forIn (fun _ _ => ?_) _).bind fun _ => keepsDisk_pure _
    exact (keepsDisk_say _ _ _).bind fun _ => keepsDisk_pure _

end KeepsDisk

/-! ## What a revision reads -/

section Reads

variable (project : Project)

theorem keepsDisk_sayObstacles (tag text : String) (isBefore : Nat → Bool) :
    KeepsDisk (sayObstacles tag text isBefore) := by
  unfold sayObstacles
  refine (keepsDisk_forIn (fun obstacle _ => ?_) _).bind fun _ => keepsDisk_pure _
  dsimp only
  split
  · exact (keepsDisk_say _ _ _).bind fun _ => keepsDisk_pure _
  · exact keepsDisk_pure _

theorem keepsDisk_readBook : KeepsDisk project.readBook := by
  refine keepsDisk_disk.bind fun disk => ?_
  dsimp only
  split
  · exact keepsDisk_throw_bind _ _
  · refine (keepsDisk_readText _).bind fun text => ?_
    split
    · refine (keepsDisk_sayObstacles _ _ _).bind fun _ => ?_
      exact (keepsDisk_say _ _ _).bind fun _ => keepsDisk_pure _
    · exact (keepsDisk_sayObstacles _ _ _).bind fun _ => keepsDisk_throw _

theorem keepsDisk_readPlaces : KeepsDisk project.readPlaces := by
  refine keepsDisk_disk.bind fun disk => ?_
  split
  · split
    · exact keepsDisk_pure _
    · exact keepsDisk_throw _
  · split
    · exact keepsDisk_throw _
    · refine (keepsDisk_orFail _ _).bind fun store => ?_
      exact (keepsDisk_say _ _ _).bind fun _ => keepsDisk_pure _

theorem keepsDisk_sourceFiles : KeepsDisk project.sourceFiles := by
  refine keepsDisk_disk.bind fun disk => (keepsDisk_orFail _ _).bind fun files => ?_
  exact (keepsDisk_say _ _ _).bind fun _ => keepsDisk_pure _

theorem keepsDisk_observe (files : List Scan.SourceFile) (version : Int) :
    KeepsDisk (project.observe files version) := by
  refine (keepsDisk_mapM fun file => ?_).bind fun observed => ?_
  · refine KeepsDisk.bind ?_ fun _ => keepsDisk_pure _
    refine (keepsDisk_orFail _ _).bind fun phrases => ?_
    exact (keepsDisk_say _ _ _).bind fun _ => keepsDisk_pure _
  · exact (keepsDisk_say _ _ _).bind fun _ => keepsDisk_pure _

theorem keepsDisk_updateBook (options : Book.UpdateOptions) (observed : Book.Observed)
    (book : Book) : KeepsDisk (project.updateBook options observed book) := by
  refine keepsDisk_disk.bind fun disk => ?_
  refine (keepsDisk_forIn (fun _ _ => ?_) _).bind fun _ => keepsDisk_pure _
  exact (keepsDisk_say _ _ _).bind fun _ => keepsDisk_pure _

/-- A book that was read is in a file that can be read. -/
theorem read_of_readBook {session between : Session} {result : Book × String}
    (done : project.readBook.run.run session = (.ok result, between)) :
    ∃ source, session.disk.read project.bookPath = .ok source := by
  obtain ⟨disk, _, isDisk, done⟩ := Book.run_bind_eq_ok_iff.mp done
  cases isDisk
  dsimp only at done
  split at done
  · cases done
  · obtain ⟨text, _, isText, _⟩ := Book.run_bind_eq_ok_iff.mp done
    obtain ⟨source, _, isSource, _⟩ := Book.run_bind_eq_ok_iff.mp isText
    obtain ⟨disk, _, isDisk, isRead⟩ := Book.run_bind_eq_ok_iff.mp isSource
    cases isDisk
    exact ⟨source, Book.run_orFail_eq_ok isRead⟩

end Reads

/-! ## All or nothing -/

/-- What a revision does that is no trial. -/
def Revision.asReal (revision : Revision) : Revision :=
  { revision with isTrial := false }

/-- A command ends because one file that it writes cannot be written. -/
def IsWriteFailure {α : Type} (outcome : Except Failure α) : Prop :=
  ∃ path source disk fault, (Disk.write path source disk).1 = .error fault ∧
    outcome = .error (.disk fault)

/-- A command that can be tried writes nothing as a trial.  Where the trial fails, the command fails
in the same way and has written nothing either.  Where the trial succeeds, the command does what the
trial tells, unless a file cannot be written or the text of the book has no bytes, which leaves the
disk as it was. -/
structure IsAtomic {α : Type} (session : Session) (asReal : α → α) (command : Bool → Command α) :
    Prop where
  trial : ((command true).run.run session).2.disk = session.disk
  refused : ∀ failure, ((command true).run.run session).1 = .error failure →
    ((command false).run.run session).1 = .error failure ∧
      ((command false).run.run session).2.disk = session.disk
  tried : ∀ value, ((command true).run.run session).1 = .ok value →
    ((command false).run.run session).1 = .ok (asReal value) ∨
      (((command false).run.run session).1 = .error .noEncoding ∧
        ((command false).run.run session).2.disk = session.disk) ∨
      IsWriteFailure ((command false).run.run session).1

section IsAtomic

variable {α β : Type} {session : Session} {asReal : β → β}

theorem isAtomic_throw (failure : Failure) :
    IsAtomic session asReal fun _ => throw failure where
  trial := rfl
  refused _ failed := ⟨failed, rfl⟩
  tried _ succeeded := by contradiction

/-- What is read before does not matter. -/
theorem IsAtomic.bind {command : Command α} {next : Bool → α → Command β}
    (first : KeepsDisk command)
    (rest : ∀ value between, IsAtomic between asReal fun isTrial => next isTrial value) :
    IsAtomic session asReal fun isTrial => command >>= next isTrial := by
  have kept := first session
  rcases run : command.run.run session with ⟨outcome, between⟩
  rw [run] at kept
  dsimp only at kept
  cases outcome with
  | error failure =>
      have fails (isTrial : Bool) :
          (command >>= next isTrial).run.run session = (.error failure, between) :=
        run_bind_of_error run
      constructor
      · rw [fails, kept]
      · intro other failed
        rw [fails] at failed ⊢
        exact ⟨failed, kept⟩
      · intro value succeeded
        rw [fails] at succeeded
        contradiction
  | ok value =>
      have goesOn (isTrial : Bool) :
          (command >>= next isTrial).run.run session = (next isTrial value).run.run between :=
        run_bind_of_ok run
      obtain ⟨trial, refused, tried⟩ := rest value between
      rw [kept] at trial refused tried
      constructor
      · rw [goesOn, trial]
      · intro failure failed
        rw [goesOn] at failed ⊢
        exact refused failure failed
      · intro result succeeded
        rw [goesOn] at succeeded ⊢
        exact tried result succeeded

/-- What is only said afterwards does not matter either. -/
theorem IsAtomic.andThen {command : Bool → Command α} {tail : α → Command β}
    {asRealBefore : α → α} (atomic : IsAtomic session asRealBefore command) (wrap : α → β)
    (finishes : ∀ value between, ∃ last,
      (tail value).run.run between = (.ok (wrap value), last) ∧ last.disk = between.disk)
    (commutes : ∀ value, wrap (asRealBefore value) = asReal (wrap value)) :
    IsAtomic session asReal fun isTrial => command isTrial >>= tail := by
  have ends (isTrial : Bool) :
      ((command isTrial >>= tail).run.run session).1 =
          ((command isTrial).run.run session).1.map wrap ∧
        ((command isTrial >>= tail).run.run session).2.disk =
          ((command isTrial).run.run session).2.disk := by
    rcases run : (command isTrial).run.run session with ⟨outcome, between⟩
    cases outcome with
    | error failure =>
        rw [run_bind_of_error run]
        exact ⟨rfl, rfl⟩
    | ok value =>
        obtain ⟨last, finished, kept⟩ := finishes value between
        rw [run_bind_of_ok run, finished]
        exact ⟨rfl, kept⟩
  constructor
  · rw [(ends true).2, atomic.trial]
  · intro failure failed
    rw [(ends true).1] at failed
    cases outcome : ((command true).run.run session).1 with
    | error other =>
        rw [outcome] at failed
        obtain ⟨fails, kept⟩ := atomic.refused other outcome
        rw [(ends false).1, (ends false).2, fails]
        exact ⟨failed, kept⟩
    | ok value =>
        rw [outcome] at failed
        contradiction
  · intro result succeeded
    rw [(ends true).1] at succeeded
    obtain ⟨value, isValue, rfl⟩ := map_eq_ok_iff.mp succeeded
    rw [(ends false).1, (ends false).2]
    rcases atomic.tried value isValue with done | ⟨failed, kept⟩ | isWriteFailure
    · rw [done]
      exact .inl (congrArg Except.ok (commutes value))
    · rw [failed]
      exact .inr (.inl ⟨rfl, kept⟩)
    · obtain ⟨path, source, disk, fault, isFault, failed⟩ := isWriteFailure
      rw [failed]
      exact .inr (.inr ⟨path, source, disk, fault, isFault, rfl⟩)

end IsAtomic

/-! ## Writing back -/

section Commit

variable {project : Project} {session last : Session}

/-- Writing a text writes it to the disk, and fails if that fails. -/
theorem run_writeText_eq_orFail (session : Session) (path : Disk.Path) (text : String) :
    (writeText path text).run.run session =
      (orFail Failure.disk (session.disk.write path (Source.ofString text)).1).run.run
        { session with disk := (session.disk.write path (Source.ofString text)).2 } :=
  rfl

theorem disk_writeText (session : Session) (path : Disk.Path) (text : String) :
    ((writeText path text).run.run session).2.disk =
      (session.disk.write path (Source.ofString text)).2 := by
  rw [run_writeText_eq_orFail, keepsDisk_orFail]

theorem run_writeText (session : Session) {path : Disk.Path}
    (canWrite : session.disk.CanWrite path) (text : String) :
    (writeText path text).run.run session =
      (.ok (), { session with disk := (session.disk.write path (Source.ofString text)).2 }) := by
  have done := canWrite (Source.ofString text)
  rw [run_writeText_eq_orFail, done]
  rfl

theorem run_inform_bind {α : Type} (session : Session) (message : String)
    (next : Unit → Command α) :
    ∃ records, (inform message >>= next).run.run session =
      (next ()).run.run { session with records } :=
  ⟨_, rfl⟩

/-- Writing a text succeeds, or it fails because the file cannot be written. -/
theorem run_writeText_cases (session : Session) (path : Disk.Path) (text : String) :
    (∃ last, (writeText path text).run.run session = (.ok (), last)) ∨
      ∃ fault last, (session.disk.write path (Source.ofString text)).1 = .error fault ∧
        (writeText path text).run.run session = (.error (.disk fault), last) := by
  rw [run_writeText_eq_orFail]
  cases (session.disk.write path (Source.ofString text)).1 with
  | ok => exact .inl ⟨_, rfl⟩
  | error fault => exact .inr ⟨fault, _, rfl, rfl⟩

/-- A book whose text has bytes is written as any text is. -/
theorem run_writeBook_of_canEncode {book : Book} {text : String}
    (canEncode : book.canEncode text = true) :
    (project.writeBook book text).run.run session =
      (writeText project.bookPath text).run.run session := by
  unfold writeBook
  rw [canEncode]
  rfl

/-- A book whose text has no bytes is not written. -/
theorem run_writeBook_of_not_canEncode {book : Book} {text : String}
    (cannotEncode : book.canEncode text = false) :
    (project.writeBook book text).run.run session = (.error .noEncoding, session) := by
  unfold writeBook
  rw [cannotEncode]
  rfl

theorem run_writeText_of_writeBook {book : Book} {text : String}
    (done : (project.writeBook book text).run.run session = (.ok (), last)) :
    (writeText project.bookPath text).run.run session = (.ok (), last) := by
  cases encodes : book.canEncode text with
  | true => rwa [run_writeBook_of_canEncode encodes] at done
  | false =>
      rw [run_writeBook_of_not_canEncode encodes] at done
      cases done

/-- What follows once the book is written or left: the places are written if they have changed. -/
theorem run_storePlaces_cases (session : Session) (store : PlaceStore) (revision : Revision) :
    let outcome := ((if store.isChanged then (do
        writeText project.placesPath store.render
        return revision) else return revision : Command Revision).run.run session).1
    outcome = .ok revision ∨ IsWriteFailure outcome := by
  dsimp only
  split
  · rcases run_writeText_cases session project.placesPath store.render with
      ⟨last, written⟩ | ⟨fault, last, isFault, failed⟩
    · rw [run_bind_of_ok written]
      exact .inl rfl
    · rw [run_bind_of_error failed]
      exact .inr ⟨_, _, _, fault, isFault, rfl⟩
  · exact .inl rfl

/-- Writing back is all or nothing. -/
theorem isAtomic_commit (former : String) (updated : Book.Updated) (store : PlaceStore) :
    IsAtomic session Revision.asReal (project.commit former updated store) where
  trial := rfl
  refused _ failed := by contradiction
  tried revision succeeded := by
    obtain rfl := Except.ok.inj succeeded
    unfold commit Revision.asReal
    dsimp only
    obtain ⟨records, informed⟩ := run_inform_bind session _ _
    rw [informed, if_neg Bool.false_ne_true]
    split
    · cases encodes : updated.book.canEncode (updated.book.text project.settings.indent) with
      | false =>
          rw [run_bind_of_error (run_writeBook_of_not_canEncode encodes)]
          exact .inr (.inl ⟨rfl, rfl⟩)
      | true =>
          have writes := @run_writeBook_of_canEncode project { session with records } _ _ encodes
          rcases run_writeText_cases { session with records } project.bookPath
            (updated.book.text project.settings.indent) with
            ⟨written, done⟩ | ⟨fault, last, isFault, failed⟩
          · rw [run_bind_of_ok (writes.trans done)]
            obtain ⟨later, informed⟩ := run_inform_bind written _ _
            rw [informed]
            exact (run_storePlaces_cases _ _ _).imp_right .inr
          · rw [run_bind_of_error (writes.trans failed)]
            exact .inr (.inr ⟨_, _, _, fault, isFault, rfl⟩)
    · exact (run_storePlaces_cases _ _ _).imp_right .inr

end Commit

/-! ## Revisions -/

section Revisions

variable (session : Session) (environment : Settings.Environment) (path : String)

theorem isAtomic_update (append? : Option Bool) :
    IsAtomic session Revision.asReal (update environment path append?) := by
  refine .bind (keepsDisk_load environment path) fun project _ => ?_
  refine .bind (keepsDisk_readBook project) fun (book, former) _ => ?_
  refine .bind (keepsDisk_readPlaces project) fun store _ => ?_
  refine .bind (keepsDisk_sourceFiles project) fun files _ => ?_
  refine .bind (keepsDisk_observe project files _) fun observed _ => ?_
  refine .bind (keepsDisk_updateBook project _ observed _) fun updated _ => ?_
  exact isAtomic_commit former updated store

theorem isAtomic_importBook (input : Disk.Path) :
    IsAtomic session Revision.asReal (importBook environment path input) := by
  refine .bind (keepsDisk_load environment path) fun project _ => ?_
  refine .bind (keepsDisk_readText input) fun text _ => ?_
  refine .bind (keepsDisk_orFail _ _) fun document _ => ?_
  refine .bind (keepsDisk_readBook project) fun (book, former) _ => ?_
  refine .bind (keepsDisk_readPlaces project) fun store _ => ?_
  refine .bind (keepsDisk_forIn (fun _ _ => ?_) _) fun _ _ => ?_
  · exact (keepsDisk_say _ _ _).bind fun _ => keepsDisk_pure _
  · dsimp only
    split
    · exact isAtomic_throw _
    · refine .bind (keepsDisk_say _ _ _) fun _ _ => ?_
      refine .bind (keepsDisk_updateBook project _ _ _) fun updated _ => ?_
      exact isAtomic_commit former updated store

theorem isAtomic_rekey (before after : Int) :
    IsAtomic session (fun (keys, revision) => (keys, revision.asReal))
      (rekey environment path before after) := by
  refine .bind (keepsDisk_load environment path) fun project _ => ?_
  refine .bind (keepsDisk_readBook project) fun (book, former) _ => ?_
  refine .bind (keepsDisk_readPlaces project) fun store _ => ?_
  refine .bind (keepsDisk_sourceFiles project) fun files _ => ?_
  refine .bind (keepsDisk_observe project files before) fun old _ => ?_
  refine .bind (keepsDisk_observe project files after) fun new _ => ?_
  refine .bind (keepsDisk_orFail _ _) fun keys _ => ?_
  refine .bind (keepsDisk_orFail _ _) fun (renamed, changes) _ => ?_
  refine .bind (keepsDisk_forIn (fun _ _ => ?_) _) fun _ _ => ?_
  · exact (keepsDisk_say _ _ _).bind fun _ => keepsDisk_pure _
  · refine .bind (keepsDisk_updateBook project _ new _) fun updated _ => ?_
    refine (isAtomic_commit former updated store).andThen
      (fun revision => (changes, revision)) (fun revision between => ?_) fun _ => rfl
    dsimp only
    split
    · exact ⟨_, rfl, rfl⟩
    · exact ⟨_, rfl, rfl⟩

/-- An import that finds a slot too few has changed the flag of the entry by then, and yet it
leaves the disk as it was. -/
example :
    let session : Session := { disk := {
      files := [
        (["p", "src", "jsxlate-translations.js"],
          Source.ofString "export default \x7bb:\x7ben:()=><O/>\x7d\x7d"),
        (["p", "new.json"], Source.ofString
          ("\x7b\"entries\":[\x7b\"key\":\"b\",\"is_new\":true," ++
            "\"translations\":[\x7b\"lang\":\"en\"\x7d]\x7d]\x7d"))]
      directories := [["p"], ["p", "src"]] } }
    let real := (importBook [] "/p" (Disk.Path.ofString "/p/new.json") false).run.run session
    real.1.toOption = none ∧ real.2.disk.files = session.disk.files := by
  decide +kernel

/-- A trial succeeds where the text of the book has no bytes. -/
example :
    let session : Session := { disk := {
      files := [(["p", "src", "jsxlate-translations.js"], Source.ofString
        "export default \x7ba:\x7b_context:\"\\ud83d\\ude00\",en:()=><O/>\x7d\x7d")]
      directories := [["p"], ["p", "src"]] } }
    let run := fun (isTrial : Bool) => (update [] "/p" none isTrial).run.run session
    (run true).1.toOption.isSome = true ∧ (run false).1.toOption = none ∧
      (run false).2.disk.files = session.disk.files := by
  decide +kernel

end Revisions

end Phrasebook.Project
