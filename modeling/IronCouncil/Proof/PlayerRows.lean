import IronCouncil.Db.Hydration

/-!
# Player rows

The id of a player's row is written from the match's id and the number of the join, and the number is read back from it. So the rows of a match go with different players of the state, and the mapping between the two is never spoilt.
-/

namespace IronCouncil

/-! ### Numbers in hexadecimal -/

theorem hexDigitValue_digitChar {digit : Nat} (h : digit < 16) : hexDigitValue digit.digitChar = some digit := by
  have hall : ∀ digit : Fin 16, hexDigitValue (digit : Nat).digitChar = some (digit : Nat) := by decide
  exact hall ⟨digit, h⟩

/-- Reading one digit more. -/
def readHexDigit (value : Nat) (char : Char) : Option Nat := (hexDigitValue char).map fun digit => 16 * value + digit

theorem foldlM_readHexDigit_zeros (count : Nat) : (List.replicate count '0').foldlM readHexDigit 0 = some 0 := by
  induction count with
  | zero => rfl
  | succ count ih =>
      rw [List.replicate_succ, List.foldlM_cons]
      exact ih

theorem foldlM_readHexDigit_toDigits (number : Nat) : (Nat.toDigits 16 number).foldlM readHexDigit 0 = some number := by
  induction number using Nat.strongRecOn with
  | _ number ih =>
      rw [Nat.toDigits_eq_if (by decide)]
      split
      · rename_i hsmall
        rw [List.foldlM_cons, readHexDigit, hexDigitValue_digitChar hsmall]
        simp
      · rename_i hlarge
        have hless : number / 16 < number := by omega
        rw [List.foldlM_append, ih _ hless, Option.bind_eq_bind, Option.bind_some, List.foldlM_cons, readHexDigit,
          hexDigitValue_digitChar (Nat.mod_lt _ (by decide))]
        simp
        omega

theorem parseHex_padLeft (width number : Nat) : parseHex (padLeft width '0' (Nat.toDigits 16 number)) = some number := by
  have hne : padLeft width '0' (Nat.toDigits 16 number) ≠ [] := by
    unfold padLeft
    rw [Ne, List.append_eq_nil_iff]
    exact fun h => Nat.toDigits_ne_nil h.2
  have hread : (padLeft width '0' (Nat.toDigits 16 number)).foldlM readHexDigit 0 = some number := by
    unfold padLeft
    rw [List.foldlM_append, foldlM_readHexDigit_zeros, Option.bind_eq_bind, Option.bind_some]
    exact foldlM_readHexDigit_toDigits number
  unfold parseHex
  rw [if_neg hne]
  exact hread

/-- What can be read as a number has no hyphen in it. -/
theorem not_hyphen_of_foldlM {chars : List Char} {value number : Nat}
    (h : chars.foldlM readHexDigit value = some number) : '-' ∉ chars := by
  induction chars generalizing value with
  | nil => exact List.not_mem_nil
  | cons char chars ih =>
      rw [List.foldlM_cons, Option.bind_eq_bind] at h
      obtain ⟨next, hchar, hrest⟩ := Option.bind_eq_some_iff.1 h
      intro hmem
      rcases List.mem_cons.1 hmem with rfl | hmem
      · cases hchar
      · exact ih hrest hmem

theorem not_hyphen_of_parseHex {chars : List Char} {number : Nat} (h : parseHex chars = some number) : '-' ∉ chars := by
  unfold parseHex at h
  split at h
  · cases h
  · exact not_hyphen_of_foldlM h

/-! ### Row ids -/

/-- A row id has five segments, and the last one is the number of the join. -/
theorem segments_scoped (matchId : String) (joinIndex : Nat) :
    ∃ first second third fourth, (buildMatchScopedPlayerId matchId joinIndex).toList.splitOn '-' =
      [first, second, third, fourth, padLeft 12 '0' (Nat.toDigits 16 joinIndex)] := by
  have hlast := not_hyphen_of_parseHex (parseHex_padLeft 12 joinIndex)
  have hprefix : ∀ char ∈ padRight 20 'f' ((matchId.toList.filter (· ≠ '-')).take 16 ++
      (matchId.toList.filter (· ≠ '-')).drop ((matchId.toList.filter (· ≠ '-')).length - 4)), char ≠ '-' := by
    intro char hchar
    unfold padRight at hchar
    rcases List.mem_append.1 hchar with hchar | hchar
    · have hcleaned : char ∈ matchId.toList.filter (· ≠ '-') := by
        rcases List.mem_append.1 hchar with hchar | hchar
        · exact List.mem_of_mem_take hchar
        · exact List.mem_of_mem_drop hchar
      simpa using (List.mem_filter.1 hcleaned).2
    · rw [(List.mem_replicate.1 hchar).2]
      decide
  unfold buildMatchScopedPlayerId
  dsimp only
  generalize padRight 20 'f' _ = matchPrefix at hprefix ⊢
  generalize padLeft 12 '0' (Nat.toDigits 16 joinIndex) = last at hlast ⊢
  have hsegment : ∀ start stop, '-' ∉ (matchPrefix.take stop).drop start := by
    intro start stop hmem
    exact hprefix '-' (List.mem_of_mem_take (List.mem_of_mem_drop hmem)) rfl
  have hsplit : ∀ first second third fourth : List Char, '-' ∉ first → '-' ∉ second → '-' ∉ third → '-' ∉ fourth →
      (first ++ '-' :: second ++ '-' :: third ++ '-' :: fourth ++ '-' :: last).splitOn '-' =
        [first, second, third, fourth, last] := by
    intro first second third fourth hfirst hsecond hthird hfourth
    simp only [List.append_assoc, List.cons_append]
    rw [List.splitOn_append_cons_self_of_not_mem hfirst, List.splitOn_append_cons_self_of_not_mem hsecond,
      List.splitOn_append_cons_self_of_not_mem hthird, List.splitOn_append_cons_self_of_not_mem hfourth,
      List.splitOn_eq_singleton hlast]
  rw [String.toList_ofList]
  exact ⟨_, _, _, _, hsplit _ _ _ _ (hsegment 0 8) (hsegment 8 12) (hsegment 12 16) (hsegment 16 20)⟩

/-- The number of the join is read back. -/
theorem canonicalPlayerId_of_scoped (matchId : String) (joinIndex : Nat) (canonicalPlayerIds : List String) :
    canonicalPlayerIdFromPersistedPlayerId (buildMatchScopedPlayerId matchId joinIndex) canonicalPlayerIds =
      if canonicalPlayerId joinIndex ∈ canonicalPlayerIds then some (canonicalPlayerId joinIndex) else none := by
  obtain ⟨first, second, third, fourth, hsegments⟩ := segments_scoped matchId joinIndex
  unfold canonicalPlayerIdFromPersistedPlayerId
  simp only [hsegments, List.length_cons, List.length_nil, Nat.reduceAdd, ne_eq, not_true, if_false,
    List.getLastD_cons, List.getLastD_nil, parseHex_padLeft, Option.bind_some]

/-- No row goes by the name of a player in the state. -/
theorem scoped_ne_canonicalPlayerId (matchId : String) (joinIndex n : Nat) :
    buildMatchScopedPlayerId matchId joinIndex ≠ canonicalPlayerId n := by
  intro h
  obtain ⟨first, second, third, fourth, hsegments⟩ := segments_scoped matchId joinIndex
  have htext : (canonicalPlayerId n).toList = "player".toList ++ '-' :: Nat.toDigits 10 n := by
    unfold canonicalPlayerId numberedName
    simp [toString, String.toList_append, Nat.toList_repr]
  have hdigits : '-' ∉ Nat.toDigits 10 n := by
    intro hmem
    have hdigit := Nat.isDigit_of_mem_toDigits (by decide) (by decide) hmem
    exact absurd hdigit (by decide)
  rw [h, htext, List.splitOn_append_cons_self_of_not_mem (by decide), List.splitOn_eq_singleton hdigits] at hsegments
  simp at hsegments

/-! ### The mapping -/

section Mapping

variable {matchId : String} {canonicalPlayerIds : List String}

/-- The rows of a match, each under an id of its own that counts a join of the match. -/
structure ScopedRows (matchId : String) (players : List PlayerRow) : Prop where
  numbered : ∀ player ∈ players, ∃ joinIndex, player.id = buildMatchScopedPlayerId matchId joinIndex
  distinct : (players.map (·.id)).Nodup

theorem eq_of_canonicalPlayerId {players : List PlayerRow}
    (hscoped : ∀ player ∈ players, ∃ joinIndex, player.id = buildMatchScopedPlayerId matchId joinIndex)
    {first second : PlayerRow} (hfirst : first ∈ players) (hsecond : second ∈ players) {canonical : String}
    (h : canonicalPlayerIdFromPersistedPlayerId first.id canonicalPlayerIds = some canonical)
    (h' : canonicalPlayerIdFromPersistedPlayerId second.id canonicalPlayerIds = some canonical) :
    first.id = second.id := by
  obtain ⟨m, hm⟩ := hscoped first hfirst
  obtain ⟨n, hn⟩ := hscoped second hsecond
  rw [hm, canonicalPlayerId_of_scoped] at h
  rw [hn, canonicalPlayerId_of_scoped] at h'
  split at h
  · split at h'
    · have hsame : canonicalPlayerId m = canonicalPlayerId n := Option.some.inj (h.trans h'.symm)
      rw [hm, hn, numberedName_injective _ hsame]
    · cases h'
  · cases h

/-- Rows under ids of their own are all mapped, each by the number in its id. -/
theorem get?_buildPersistedPlayerMapping {players : List PlayerRow} (h : ScopedRows matchId players)
    (persistedId canonical : String) :
    (buildPersistedPlayerMapping canonicalPlayerIds players).get? persistedId = some canonical ↔
      ∃ player ∈ players, player.id = persistedId ∧
        canonicalPlayerIdFromPersistedPlayerId player.id canonicalPlayerIds = some canonical := by
  have hmapped : ∃ mapping, players.foldlM (mapPersistedPlayer canonicalPlayerIds) OrdDict.empty = some mapping ∧
      ∀ persistedId canonical, mapping.get? persistedId = some canonical ↔ ∃ player ∈ players,
        player.id = persistedId ∧
          canonicalPlayerIdFromPersistedPlayerId player.id canonicalPlayerIds = some canonical := by
    induction players using List.reverseRecOn with
    | nil => exact ⟨OrdDict.empty, rfl, fun persistedId canonical => by simp⟩
    | append_singleton players player ih =>
        have hdistinct := h.distinct
        rw [List.map_append, List.nodup_append] at hdistinct
        obtain ⟨mapping, hfold, hget⟩ := ih
          ⟨fun earlier hmem => h.numbered earlier (List.mem_append_left _ hmem), hdistinct.1⟩
        rw [List.foldlM_append, hfold, Option.bind_eq_bind, Option.bind_some, List.foldlM_cons, mapPersistedPlayer]
        cases hcanonical : canonicalPlayerIdFromPersistedPlayerId player.id canonicalPlayerIds with
        | none =>
            refine ⟨mapping, rfl, fun persistedId canonical => ?_⟩
            rw [hget]
            constructor
            · rintro ⟨earlier, hmem, hrest⟩
              exact ⟨earlier, List.mem_append_left _ hmem, hrest⟩
            · rintro ⟨earlier, hmem, hid, hsome⟩
              rcases List.mem_append.1 hmem with hmem | hmem
              · exact ⟨earlier, hmem, hid, hsome⟩
              · rw [List.mem_singleton.1 hmem, hcanonical] at hsome
                cases hsome
        | some found =>
            have hfresh : found ∉ mapping.values := by
              intro hmem
              obtain ⟨persistedId, hpersisted⟩ := OrdDict.mem_values.1 hmem
              obtain ⟨earlier, hearlier, -, hsome⟩ := (hget persistedId found).1 hpersisted
              have hsame := eq_of_canonicalPlayerId h.numbered (List.mem_append_left _ hearlier)
                (List.mem_append_right _ (List.mem_singleton_self player)) hsome hcanonical
              exact hdistinct.2.2 _ (List.mem_map_of_mem hearlier) player.id (by simp) hsame
            simp only [hfresh, if_false]
            refine ⟨mapping.insert player.id found, rfl, fun persistedId canonical => ?_⟩
            rw [OrdDict.get?_insert]
            by_cases hid : persistedId = player.id
            · rw [if_pos hid]
              constructor
              · intro heq
                exact ⟨player, by simp, hid.symm, hcanonical.trans heq⟩
              · rintro ⟨earlier, hmem, hearlier, hsome⟩
                have hsame : earlier.id = player.id := hearlier.trans hid
                rw [hsame, hcanonical] at hsome
                exact hsome
            · rw [if_neg hid, hget]
              constructor
              · rintro ⟨earlier, hmem, hrest⟩
                exact ⟨earlier, List.mem_append_left _ hmem, hrest⟩
              · rintro ⟨earlier, hmem, hearlier, hsome⟩
                rcases List.mem_append.1 hmem with hmem | hmem
                · exact ⟨earlier, hmem, hearlier, hsome⟩
                · rw [List.mem_singleton.1 hmem] at hearlier
                  exact absurd hearlier.symm hid
  obtain ⟨mapping, hfold, hget⟩ := hmapped
  unfold buildPersistedPlayerMapping
  rw [hfold, Option.getD_some]
  exact hget persistedId canonical

end Mapping

end IronCouncil
