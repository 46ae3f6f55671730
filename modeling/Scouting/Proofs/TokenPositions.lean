import Scouting.Proofs.Tokens

/-!
Where tokens stand. Scanning takes characters off a text, one or more at a time, and notes the byte
at which they start. So tokens stand further and further back, between two characters each, and so
does what is found to be wrong.
-/

namespace Scouting

/-- Is a position one between two characters of a text, or at either end of it? -/
def IsBoundary (source : String) (position : Nat) : Prop :=
  String.Pos.Raw.IsValid source ⟨position⟩

namespace Token

theorem byteCount_append (front back : List Char) :
    byteCount (front ++ back) = byteCount front + byteCount back := by
  have shifted (start : Nat) : back.foldl (fun total char => total + char.utf8Size) start =
      start + byteCount back := by
    induction back generalizing start with
    | nil => rfl
    | cons char rest ih =>
        rw [byteCount, List.foldl_cons, List.foldl_cons, ih, ih (0 + char.utf8Size)]
        omega
  rw [byteCount, List.foldl_append, shifted]
  rfl

theorem byteCount_singleton (char : Char) : byteCount [char] = char.utf8Size := Nat.zero_add _

theorem byteCount_pos {chars : List Char} (nonempty : chars ≠ []) : 0 < byteCount chars := by
  cases chars with
  | nil => exact absurd rfl nonempty
  | cons char rest =>
      have positive := char.utf8Size_pos
      rw [← List.singleton_append, byteCount_append, byteCount_singleton]
      omega

theorem byteCount_eq (chars : List Char) :
    byteCount chars = (String.ofList chars).utf8ByteSize := by
  induction chars with
  | nil => rfl
  | cons char rest ih =>
      rw [String.ofList_cons, String.utf8ByteSize_append, String.utf8ByteSize_singleton, ← ih,
        ← byteCount_singleton, ← byteCount_append, List.singleton_append]

theorem byteCount_toList (source : String) : byteCount source.toList = source.utf8ByteSize := by
  rw [byteCount_eq, String.ofList_toList]

theorem isBoundary_byteCount (front back : List Char) :
    IsBoundary (String.ofList (front ++ back)) (byteCount front) := by
  refine String.Pos.Raw.isValid_iff_exists_append.mpr
    ⟨String.ofList front, String.ofList back, String.ofList_append, ?_⟩
  rw [byteCount_eq]
  rfl

/-- How a text is scanned, from behind the characters that were taken before. Some more are taken,
and are passed over or noted as a token that starts there, until nothing is left, or until there is
something that cannot be taken. -/
inductive Scans : List Char → List Char → Except ExpressionError (List PlacedToken) → Prop where
  | done {front : List Char} : Scans front [] (.ok [])
  | passes {front taken rest : List Char} {result : Except ExpressionError (List PlacedToken)} :
      taken ≠ [] → Scans (front ++ taken) rest result → Scans front (taken ++ rest) result
  | notes {front taken rest : List Char} {token : Token} {tokens : List PlacedToken} :
      taken ≠ [] → Scans (front ++ taken) rest (.ok tokens) →
        Scans front (taken ++ rest) (.ok (⟨token, byteCount front⟩ :: tokens))
  | fails {front rest : List Char} {fault : ExpressionFault} : rest ≠ [] →
      Scans front rest (.error ⟨fault, byteCount front⟩)

theorem scans_at (front chars : List Char) : Scans front chars (scan (byteCount front) chars) := by
  have run (test : Char → Bool) (char : Char) (rest : List Char) :
      (char :: rest.takeWhile test) ++ rest.dropWhile test = char :: rest := by
    rw [List.cons_append, List.takeWhile_append_dropWhile]
  generalize here : byteCount front = position
  fun_induction scan position chars generalizing front with
  | case1 => exact .done
  | case2 position char rest mark isSign tokens scanned ih =>
      subst here
      have later := ih _ ((byteCount_append front [char]).trans (by rw [byteCount_singleton]))
      rw [scanned] at later
      exact .notes (List.cons_ne_nil char []) later
  | case3 position char rest mark isSign error scanned ih =>
      subst here
      have later := ih _ ((byteCount_append front [char]).trans (by rw [byteCount_singleton]))
      rw [scanned] at later
      exact .passes (List.cons_ne_nil char []) later
  | case4 position char rest noSign blank ih =>
      subst here
      have later := ih _ ((byteCount_append front [char]).trans (by rw [byteCount_singleton]))
      exact .passes (List.cons_ne_nil char []) later
  | case5 position char rest noSign notBlank inside text read =>
      subst here
      exact .fails (List.cons_ne_nil char rest)
  | case6 position char rest noSign notBlank inside text value read tokens scanned ih =>
      subst here
      have later := ih _ (byteCount_append front text)
      rw [scanned] at later
      rw [← run inNumber]
      exact .notes (List.cons_ne_nil char _) later
  | case7 position char rest noSign notBlank inside text value read error scanned ih =>
      subst here
      have later := ih _ (byteCount_append front text)
      rw [scanned] at later
      rw [← run inNumber]
      exact .passes (List.cons_ne_nil char _) later
  | case8 position char rest noSign notBlank notNumber starts text tokens scanned ih =>
      subst here
      have later := ih _ (byteCount_append front text)
      rw [scanned] at later
      rw [← run inName]
      exact .notes (List.cons_ne_nil char _) later
  | case9 position char rest noSign notBlank notNumber starts text error scanned ih =>
      subst here
      have later := ih _ (byteCount_append front text)
      rw [scanned] at later
      rw [← run inName]
      exact .passes (List.cons_ne_nil char _) later
  | case10 position char rest noSign notBlank notNumber notName =>
      subst here
      exact .fails (List.cons_ne_nil char rest)

theorem scans (chars : List Char) : Scans [] chars (scan 0 chars) := scans_at [] chars

section
variable {front chars : List Char}

theorem Scans.placed {tokens : List PlacedToken} (scans : Scans front chars (.ok tokens)) :
    (tokens.map PlacedToken.position).Pairwise (· < ·) ∧ ∀ placed ∈ tokens,
      byteCount front ≤ placed.position ∧ placed.position < byteCount (front ++ chars) ∧
        IsBoundary (String.ofList (front ++ chars)) placed.position := by
  generalize found : Except.ok tokens = result at scans
  induction scans generalizing tokens with
  | done =>
      cases found
      exact ⟨List.Pairwise.nil, nofun⟩
  | @passes front taken rest result nonempty _ ih =>
      obtain ⟨increasing, within⟩ := ih found
      refine ⟨increasing, fun placed member => ?_⟩
      obtain ⟨least, most, boundary⟩ := within placed member
      rw [List.append_assoc] at most boundary
      rw [byteCount_append] at least
      exact ⟨by omega, most, boundary⟩
  | @notes front taken rest token tokens nonempty _ ih =>
      cases found
      obtain ⟨increasing, within⟩ := ih rfl
      have positive := byteCount_pos nonempty
      simp only [byteCount_append, List.append_assoc] at within ⊢
      refine ⟨List.pairwise_cons.mpr ⟨?_, increasing⟩, ?_⟩
      · intro position member
        obtain ⟨placed, listed, rfl⟩ := List.mem_map.mp member
        have least := (within placed listed).1
        change byteCount front < placed.position
        omega
      · intro placed member
        rcases List.mem_cons.mp member with rfl | later
        · have before : byteCount front < byteCount front + (byteCount taken + byteCount rest) := by
            omega
          exact ⟨Nat.le_refl _, before, isBoundary_byteCount front (taken ++ rest)⟩
        · obtain ⟨least, most, boundary⟩ := within placed later
          exact ⟨by omega, most, boundary⟩
  | fails => cases found

theorem Scans.failed {error : ExpressionError} (scans : Scans front chars (.error error)) :
    IsBoundary (String.ofList (front ++ chars)) error.position := by
  generalize found : Except.error error = result at scans
  induction scans with
  | done => cases found
  | passes nonempty _ ih =>
      rw [← List.append_assoc]
      exact ih found
  | notes => cases found
  | @fails front rest fault nonempty =>
      cases found
      exact isBoundary_byteCount front rest

end

theorem scan_positions {source : String} {tokens : List PlacedToken}
    (found : scan 0 source.toList = .ok tokens) :
    (tokens.map PlacedToken.position ++ [source.utf8ByteSize]).Pairwise (· < ·) ∧
      ∀ position ∈ tokens.map PlacedToken.position ++ [source.utf8ByteSize],
        IsBoundary source position := by
  have scans := scans source.toList
  rw [found] at scans
  obtain ⟨increasing, within⟩ := scans.placed
  rw [List.nil_append, String.ofList_toList, byteCount_toList] at within
  constructor
  · refine List.pairwise_append.mpr ⟨increasing, List.pairwise_singleton _ _, ?_⟩
    intro position member stop isStop
    obtain ⟨placed, listed, rfl⟩ := List.mem_map.mp member
    rw [List.mem_singleton.mp isStop]
    exact (within placed listed).2.1
  · intro position member
    rcases List.mem_append.mp member with listed | isStop
    · obtain ⟨placed, isPlaced, rfl⟩ := List.mem_map.mp listed
      exact (within placed isPlaced).2.2
    · rw [List.mem_singleton.mp isStop]
      have whole := isBoundary_byteCount source.toList []
      rw [List.append_nil, String.ofList_toList, byteCount_toList] at whole
      exact whole

theorem scan_error {source : String} {error : ExpressionError}
    (failed : scan 0 source.toList = .error error) : IsBoundary source error.position := by
  have scans := scans source.toList
  rw [failed] at scans
  have boundary := scans.failed
  rw [List.nil_append, String.ofList_toList] at boundary
  exact boundary

end Token

theorem le_of_isBoundary {source : String} {position : Nat}
    (boundary : IsBoundary source position) : position ≤ source.utf8ByteSize :=
  boundary.le_rawEndPos

end Scouting
