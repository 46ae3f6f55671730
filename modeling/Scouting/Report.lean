import Scouting.Ranking

/-!
Tables for people to read: rankings with one team a line, and lists of keys.
-/

namespace Scouting.Report

def repeated (char : Char) (count : Nat) : String := String.ofList (List.replicate count char)

def padRight (width : Nat) (text : String) : String :=
  text ++ repeated ' ' (width - text.toList.length)

def padLeft (width : Nat) (text : String) : String :=
  repeated ' ' (width - text.toList.length) ++ text

/-- A text cut so that it fits, with three points at the end if anything is missing. -/
def fit (width : Nat) (text : String) : String :=
  if width < text.toList.length then String.ofList (text.toList.take (width - 3)) ++ "..." else text

def rule (left middle right : String) : String :=
  "  " ++ left ++
    middle.intercalate ([6, 8, 30, 22].map fun width => repeated '━' width) ++ right

def row (position team name value : String) : String :=
  "  ┃ " ++ padLeft 4 position ++ " ┃ " ++ padLeft 6 team ++ " ┃ " ++ padRight 28 name ++ " ┃ " ++
    padLeft 20 value ++ " ┃"

def teamRow (event : Event) (key : Key) (index : Nat) (entry : RankedTeam) : String :=
  let name := ((event.snapshot.info? entry.team).map TeamInfo.name).getD ""
  row (toString (index + 1)) (toString entry.team) (fit 28 name)
    (fit 20 (event.display key entry.value))

/-- The lines of the table of a ranking, of which only the first teams may be shown. -/
def rankingLines (event : Event) (ranking : Ranking) (most : Option Nat) : List String :=
  let shown := ranking.entries.take (most.getD ranking.entries.length)
  let unshown := ranking.entries.length - shown.length
  ["  " ++ event.displayName ranking.key (some ranking.function) ++
      (if ranking.negative then " (lower is better)" else ""),
    rule "┏" "┳" "┓", row "#" "TEAM" "NAME" "VALUE", rule "┣" "╋" "┫"] ++
    shown.mapIdx (teamRow event ranking.key) ++
    [rule "┗" "┻" "┛"] ++
    (if unshown = 0 then [] else ["  ... " ++ toString unshown ++ " more"])

def ranking (event : Event) (ranking : Ranking) (most : Option Nat) : String :=
  "\n".intercalate (rankingLines event ranking most)

def nameWithOptions (info : KeyInfo) : String :=
  if info.options.isEmpty then info.name
  else info.name ++ " [" ++ ", ".intercalate info.options ++ "]"

/-- The lines of a list of keys. The first column is as wide as the longest key takes bytes. -/
def keyLines (infos : List KeyInfo) : List String :=
  let width := (infos.map fun info => info.key.text.utf8ByteSize).foldl max 3
  let line (key kind name : String) : String :=
    padRight width key ++ "  " ++ padRight 12 kind ++ "  " ++ name
  line "KEY" "KIND" "NAME" ::
    infos.map fun info => line info.key.text info.kind.name (nameWithOptions info)

def keys (infos : List KeyInfo) : String := "\n".intercalate (keyLines infos)

end Scouting.Report
