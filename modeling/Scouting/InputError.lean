/-!
What can be wrong with input documents as a whole.
-/

namespace Scouting

inductive InputError where
  /-- The document does not have the declared members and shapes. -/
  | shape
  | noRecordArray
  | notRecords
  | noRecordDecodes
  | matchWithoutKey (team : Nat)
  | pitWithKey (team : Nat) (matchKey : String)
  | statsNotArray
  deriving DecidableEq

def InputError.complaint? : InputError → Option String
  | .shape => none
  | .noRecordArray => some "No record array found in object"
  | .notRecords => some "Records must be a JSON array or object"
  | .noRecordDecodes => some "All records failed to parse"
  | .matchWithoutKey team => some ("match record for team " ++ toString team ++ " has no match key")
  | .pitWithKey team matchKey =>
    some ("pit record for team " ++ toString team ++ " names match " ++ matchKey)
  | .statsNotArray => some "smart_stats must be an array"

def InputError.message (error : InputError) : String :=
  match error.complaint? with
  | some complaint => "Invalid input format: " ++ complaint
  | none => "JSON deserialization failed"

end Scouting
