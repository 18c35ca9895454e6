import Phrasebook.Book.Basic
import Phrasebook.Phrase.Basic

/-!
# Changing keys

Keys change when the normal form of phrases does.  A change of keys is refused
as a whole if any entry has no new key or if two entries would share one.
-/

namespace Phrasebook.Book

/-- Why keys cannot be changed. -/
inductive RekeyFault where
  | notMapped (key : String)
  | sameTarget (first second target : String)
  | taken (key target : String)
  | ambiguous (key first second : String) (place : Place)
deriving DecidableEq, Repr

def RekeyFault.message : RekeyFault → String
  | notMapped key =>
    "key " ++ key ++ " could not be mapped: refusing to continue; " ++
      "did you forget to update translations before this operation?"
  | sameTarget first second target =>
    "cannot map old keys " ++ first ++ " and " ++ second ++ " to the same new key " ++ target
  | taken key target =>
    "cannot map old key (" ++ key ++ ") to new key (" ++ target ++
      ") because the registry already has it"
  | ambiguous key first second place =>
    "key " ++ key ++ " maps to both " ++ first ++ " and " ++ second ++ " (at " ++
      place.toString ++ ")"

/-- Old keys with their new ones. -/
abbrev KeyMap := List (String × String)

/-- The new key for a key; an empty one counts as none. -/
def target? (keys : KeyMap) (key : String) : Option String :=
  (keys.lookup key).filter fun target => !target.isEmpty

/-- The keys of entries that change, in the order of the entries. -/
def renames (keys : KeyMap) : List Entry → KeyMap → Except RekeyFault KeyMap
  | [], changes => .ok changes
  | entry :: entries, changes =>
    if entry.isDeleted then renames keys entries changes
    else
      match target? keys entry.key with
      | none => .error (.notMapped entry.key)
      | some target =>
        if target == entry.key || (changes.lookup entry.key).isSome then
          renames keys entries changes
        else renames keys entries (changes ++ [(entry.key, target)])

/-- Two changes with the same target. -/
def sharedTarget? : KeyMap → KeyMap → Option RekeyFault
  | _, [] => none
  | earlier, (key, target) :: others =>
    match earlier.find? (·.2 == target) with
    | some (first, _) => some (.sameTarget first key target)
    | none => sharedTarget? (earlier ++ [(key, target)]) others

/-- A change whose target is the key of an entry that does not change. -/
def takenTarget? (entries : List Entry) (changes : KeyMap) : Option RekeyFault :=
  let untouched := (entries.map (·.key)).filter fun key => (changes.lookup key).isNone
  (changes.find? fun (_, target) => untouched.contains target).map fun (key, target) =>
    .taken key target

/-- Change the keys of a book; the changes are given as well. -/
def rekey (book : Book) (keys : KeyMap) : Except RekeyFault (Book × KeyMap) := do
  let changes ← renames keys book.entries []
  match sharedTarget? [] changes with
  | some fault => throw fault
  | none =>
    match takenTarget? book.entries changes with
    | some fault => throw fault
    | none =>
      let entries := book.entries.map fun entry =>
        { entry with key := (changes.lookup entry.key).getD entry.key }
      return ({ book with entries }, changes)

/-- Add what pairs of phrases say to the new keys. -/
def matchKeys : List (Phrase × Phrase) → KeyMap → Except RekeyFault KeyMap
  | [], keys => .ok keys
  | (before, after) :: pairs, keys =>
    match keys.lookup before.key with
    | none => matchKeys pairs (keys ++ [(before.key, after.key)])
    | some target =>
      if target == after.key then matchKeys pairs keys
      else .error (.ambiguous before.key target after.key after.place)

/-- The new keys that the same sources give under two versions of the normal form. -/
def keyMapOf (before after : List (String × List Phrase)) : Except RekeyFault KeyMap :=
  matchKeys
    (before.flatMap fun (path, phrases) => phrases.zip ((after.lookup path).getD []))
    []

end Phrasebook.Book
