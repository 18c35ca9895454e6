import Phrasebook.Book.Flaw
import Phrasebook.Book.Rekey
import Phrasebook.Build.Basic
import Phrasebook.Exchange.Import
import Phrasebook.Exchange.Validation
import Phrasebook.PlaceStore
import Phrasebook.Scan.Basic
import Phrasebook.Settings.Reader

/-!
# Failures

Why a command on a project ends early, and what is said about it.
-/

namespace Phrasebook.Project

/-- Why a command ends early. -/
inductive Failure where
  | disk (fault : Disk.Fault)
  | noProject (path : String)
  /-- The file of the book is missing. -/
  | noBook (file : String)
  /-- Both starter files are there already. -/
  | started (bookFile importFile : String)
  | settings (fault : Settings.Fault)
  | scan (fault : Scan.Fault)
  | places (path : Disk.Path) (fault : PlaceStore.Fault)
  | book (path : String) (error : Book.ReadError)
  | phrase (refusal : Phrase.Refusal)
  | slot (fault : Exchange.SlotFault)
  | document (problems : List Exchange.Problem)
  | rekey (fault : Book.RekeyFault)
  | build (error : Build.BuildError)
  /-- Sources are to be built for a language, and the file of the book is missing. -/
  | noBookFor (language file : String)
  /-- The import file cannot name the book. -/
  | noSpecifier
  /-- A file that should be text is not. -/
  | notText
  /-- A text that is to be written to a file holds half of a surrogate pair. -/
  | noEncoding
  /-- A text in a document holds half of a surrogate pair. -/
  | notSerializable

namespace Failure

def refusalMessage? : Phrase.Refusal → Option String
  | .usage error => some error.message
  | .version fault => some fault.message
  | .notText => none

/-- What is said about a failure, if anything is. -/
def message? : Failure → Option String
  | disk fault => some fault.message
  | noProject path => some ("Project path not found: " ++ path)
  | noBook file => some (file ++ " not found. Run \x60jsxlate init\x60 first.")
  | started bookFile importFile => some (bookFile ++ " and " ++ importFile ++ " already exist")
  | settings fault => fault.message?
  | scan fault => fault.message?
  | places _ .noNumber => none
  | places path fault => some (fault.message path.written)
  | book path (.corrupt flaw line?) => some (Book.corruptMessage (some path) flaw line?)
  | book _ _ => none
  | phrase refusal => refusalMessage? refusal
  | slot fault => some fault.message
  | document _ => none
  | rekey fault => some fault.message
  | build (.refused refusal) => refusalMessage? refusal
  | build (.missing miss) => some miss.message
  | build _ => none
  | noBookFor language file =>
    some ("baking with lang " ++ Text.quoted language ++ " requires the translations file " ++
      file ++ " to exist")
  | noSpecifier => none
  | notText => none
  | noEncoding => none
  | notSerializable => none

/-- Whether a failure is that something is missing or in the way. -/
def isAboutPresence : Failure → Bool
  | disk fault => fault.kind == .missing || fault.kind == .occupied
  | noProject _ => true
  | noBook _ => true
  | started _ _ => true
  | scan (.noStart _) => true
  | _ => false

/-- Whether a failure comes from the disk itself. -/
def isOfDisk : Failure → Bool
  | disk _ => true
  | scan _ => true
  | _ => false

end Failure

end Phrasebook.Project
