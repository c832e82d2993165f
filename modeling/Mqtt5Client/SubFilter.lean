import Mqtt5Client.Run

/-!
# Mqtt5Client — topic filter validation

`verifySubFilter` walks over a NUL-terminated string twice, over the share name and over the whole
string. The second walk counts in `unsigned` and keeps the position of the last separator in an `int`.
The first section follows its reads and its integers; the grammar comes after it.
-/

namespace Mqtt5

variable {env : Env} {s : Client} {filter : Str} {wildcards sharedSubs : Bool} {pos p idx fuel : Nat}
  {lastSep : Int}

/-! ## The reads -/

def nul : Char := Char.ofNat 0

/-- A read of a string with its terminator; there is none behind it. -/
def cstrAt (str : Str) (idx : Nat) : Option Char := (str ++ [nul])[idx]?

/-- `static_cast<int>` of an `unsigned`. -/
def toInt32 (n : Nat) : Int := if n < 2 ^ 31 then n else n - 2 ^ 32

/-- `++pos` on an `unsigned`. -/
def incPos (pos : Nat) : Nat := (pos + 1) % 2 ^ 32

/-- The end of a walk, if it has one. -/
inductive Scan where
  | verdict (ok : Bool)
  | pastEnd
  | unfinished
  deriving DecidableEq, Repr

/-- The loop of `Op::isSharedTopicFilter` from a position of the prefix on. -/
def sharePrefixRead (filter : Str) : Nat → Str → Option Bool
  | _, [] => some true
  | idx, ch :: rest =>
    (cstrAt filter idx).bind fun c =>
      if c = nul then some false
      else if ch ≠ c then some false
      else sharePrefixRead filter (idx + 1) rest

/-- The share name loop of `Op::verifySubFilterInternal` and the check behind it. `nextIdx` is a
`size_t`, and no string is longer than that. -/
def shareNameRead (filter : Str) : Nat → Nat → Option Bool
  | 0, _ => none
  | fuel + 1, nextIdx =>
    (cstrAt filter nextIdx).bind fun ch =>
      if ch = '/' then (cstrAt filter (nextIdx + 1)).map fun ch => decide (ch ≠ nul)
      else if ch = nul then some false
      else if ch = '#' ∨ ch = '+' then some false
      else shareNameRead filter fuel (nextIdx + 1)

/-- The `do { } while (false)` block: whether the walk goes on. -/
def shareRead (sharedSubs : Bool) (filter : Str) : Option Bool :=
  (sharePrefixRead filter 0 "$share/".toList).bind fun shared =>
    if !shared then some true
    else if !sharedSubs then some false
    else
      (cstrAt filter 7).bind fun ch =>
        if ch = nul ∨ ch = '/' then some false
        else shareNameRead filter filter.length 7

/-- The character loop of `Op::verifySubFilterInternal`. -/
def wildcardScan (wildcards : Bool) (filter : Str) : Nat → Nat → Int → Scan
  | 0, _, _ => .unfinished
  | fuel + 1, pos, lastSep =>
    match cstrAt filter pos with
    | none => .pastEnd
    | some ch =>
      if ch = nul then .verdict true
      else if ch = '/' then wildcardScan wildcards filter fuel (incPos pos) (toInt32 pos)
      else if ch = '#' then
        if !wildcards then .verdict false
        else
          match cstrAt filter (incPos pos) with
          | none => .pastEnd
          | some nextCh =>
            if nextCh ≠ nul then .verdict false
            else if pos = 0 then .verdict true
            else if lastSep < 0 ∨ toInt32 (pos - 1) ≠ lastSep then .verdict false
            else .verdict true
      else if ch ≠ '+' then wildcardScan wildcards filter fuel (incPos pos) lastSep
      else if !wildcards then .verdict false
      else
        match cstrAt filter (incPos pos) with
        | none => .pastEnd
        | some nextCh =>
          if nextCh ≠ nul ∧ nextCh ≠ '/' then .verdict false
          else if pos = 0 then wildcardScan wildcards filter fuel (incPos pos) lastSep
          else if lastSep < 0 ∨ toInt32 (pos - 1) ≠ lastSep then .verdict false
          else wildcardScan wildcards filter fuel (incPos pos) lastSep

/-- `Op::verifySubFilter` with its reads and its integers. -/
def Client.verifySubFilterRead (env : Env) (fuel : Nat) (filter : Str) (s : Client) : Scan :=
  if !env.cfg.hasTopicFormatVerification || !s.configState.verifyOutgoingTopic then .verdict true
  else if cstrAt filter 0 = some nul then .verdict false
  else
    match shareRead s.sessionState.sharedSubsAvailable filter with
    | none => .pastEnd
    | some false => .verdict false
    | some true => wildcardScan s.sessionState.wildcardSubAvailable filter fuel 0 (-1)

/-! ## The grammar -/

/-- The character stands between separators or ends of the filter. -/
def WholeLevel (filter : Str) (p : Nat) : Prop :=
  (p = 0 ∨ filter[p - 1]? = some '/') ∧ (p + 1 = filter.length ∨ filter[p + 1]? = some '/')

/-- There is a filter behind a share name without wildcards. -/
def SharedPart (rest : Str) : Prop :=
  ∃ name sub, rest = name ++ '/' :: sub ∧ '/' ∉ name ∧ name ≠ [] ∧ '+' ∉ name ∧ '#' ∉ name ∧ sub ≠ []

structure WellFormedFilter (wildcards sharedSubs : Bool) (filter : Str) : Prop where
  nonempty : filter ≠ []
  plus : ∀ p, filter[p]? = some '+' → WholeLevel filter p
  hash : ∀ p, filter[p]? = some '#' → WholeLevel filter p ∧ p + 1 = filter.length
  available : ∀ ch ∈ filter, ch = '+' ∨ ch = '#' → wildcards = true
  shared : ∀ rest, filter = "$share/".toList ++ rest → sharedSubs = true ∧ SharedPart rest

def IsWildcard (filter : Str) (p : Nat) : Prop := filter[p]? = some '+' ∨ filter[p]? = some '#'

/-- A wildcard the grammar does not allow where it is. -/
def Misplaced (wildcards : Bool) (filter : Str) (p : Nat) : Prop :=
  IsWildcard filter p ∧
    (wildcards = true → WholeLevel filter p → filter[p]? = some '#' ∧ p + 1 ≠ filter.length)

/-- The share prefix is in order. -/
def ShareOk (sharedSubs : Bool) (filter : Str) : Prop :=
  ∀ rest, filter = "$share/".toList ++ rest → sharedSubs = true ∧ SharedPart rest

/-- The grammar, with the wildcards stated by their misplaced ones. -/
theorem wellFormedFilter_iff : WellFormedFilter wildcards sharedSubs filter ↔
    filter ≠ [] ∧ ShareOk sharedSubs filter ∧ ∀ p, ¬Misplaced wildcards filter p := by
  constructor
  · intro h
    refine ⟨h.nonempty, h.shared, ?_⟩
    rintro p ⟨hwild, hmis⟩
    have havail : wildcards = true := by
      rcases hwild with hp | hp
      · exact h.available _ (List.mem_of_getElem? hp) (Or.inl rfl)
      · exact h.available _ (List.mem_of_getElem? hp) (Or.inr rfl)
    rcases hwild with hp | hp
    · have hhash := (hmis havail (h.plus p hp)).1
      rw [hp] at hhash
      cases hhash
    · exact (hmis havail (h.hash p hp).1).2 (h.hash p hp).2
  · rintro ⟨hne, hshare, hmis⟩
    have hok : ∀ p, IsWildcard filter p → wildcards = true ∧ WholeLevel filter p ∧
        (filter[p]? = some '#' → p + 1 = filter.length) := by
      intro p hp
      have h := hmis p
      unfold Misplaced at h
      rw [not_and] at h
      have h := h hp
      rw [Classical.not_imp, Classical.not_imp] at h
      refine ⟨h.1, h.2.1, fun hhash => ?_⟩
      by_contra hlen
      exact h.2.2 ⟨hhash, hlen⟩
    refine ⟨hne, fun p hp => (hok p (Or.inl hp)).2.1,
      fun p hp => ⟨(hok p (Or.inr hp)).2.1, (hok p (Or.inr hp)).2.2 hp⟩, ?_, hshare⟩
    intro ch hmem hch
    obtain ⟨p, hp⟩ := List.mem_iff_getElem?.mp hmem
    refine (hok p ?_).1
    rcases hch with rfl | rfl
    · exact Or.inl hp
    · exact Or.inr hp

/-! ## The share name -/

theorem cstrAt_lt (h : idx < filter.length) : cstrAt filter idx = some filter[idx] := by
  unfold cstrAt
  rw [List.getElem?_append_left h, List.getElem?_eq_getElem h]

/-- The byte behind the last character is the terminator. -/
theorem cstrAt_length (filter : Str) : cstrAt filter filter.length = some nul := by
  unfold cstrAt
  exact List.getElem?_concat_length

theorem ne_nul (hnul : nul ∉ filter) (h : idx < filter.length) : filter[idx] ≠ nul :=
  fun heq => hnul (heq ▸ List.getElem_mem h)

/-- Without a NUL inside, the comparison with the prefix reads what there is of the filter. -/
theorem sharePrefixRead_eq {pre : Str} (hnul : nul ∉ filter) (h : idx ≤ filter.length) :
    sharePrefixRead filter idx pre = some (pre.isPrefixOf (filter.drop idx)) := by
  induction pre generalizing idx with
  | nil => rfl
  | cons ch pre ih =>
    unfold sharePrefixRead
    rcases Nat.lt_or_eq_of_le h with hlt | rfl
    · rw [cstrAt_lt hlt, Option.bind_some, if_neg (ne_nul hnul hlt), List.drop_eq_getElem_cons hlt]
      by_cases hch : ch = filter[idx]
      · rw [if_neg (not_not.mpr hch), ih hlt, hch, List.isPrefixOf_cons_cons]
        simp
      · rw [if_pos hch, List.isPrefixOf_cons_cons]
        simp [hch]
    · rw [cstrAt_length, Option.bind_some, if_pos rfl, List.drop_length]
      rfl

/-- With enough fuel, the search for the end of the share name finds what the specification asks for. -/
theorem shareNameRead_eq (fuel : Nat) (hnul : nul ∉ filter) (h : idx ≤ filter.length)
    (hfuel : filter.length < fuel + idx) :
    shareNameRead filter fuel idx = some (sharedNameError (filter.drop idx)).isNone := by
  induction fuel generalizing idx with
  | zero => omega
  | succ fuel ih =>
    unfold shareNameRead
    rcases Nat.lt_or_eq_of_le h with hlt | rfl
    · rw [cstrAt_lt hlt, Option.bind_some, List.drop_eq_getElem_cons hlt]
      unfold sharedNameError
      by_cases hsep : filter[idx] = '/'
      · rw [if_pos hsep, if_pos hsep]
        rcases Nat.lt_or_eq_of_le (show idx + 1 ≤ filter.length from hlt) with hnext | hlast
        · have hne : filter.drop (idx + 1) ≠ [] := by
            rw [List.drop_eq_getElem_cons hnext]
            exact List.cons_ne_nil _ _
          rw [cstrAt_lt hnext, if_neg hne]
          have hch := ne_nul hnul hnext
          simp [hch]
        · have hnil : filter.drop (idx + 1) = [] := by
            rw [List.drop_eq_nil_iff]
            omega
          rw [hlast] at hnil ⊢
          rw [cstrAt_length, if_pos hnil]
          simp
      · rw [if_neg hsep, if_neg hsep, if_neg (ne_nul hnul hlt)]
        by_cases hwild : filter[idx] = '#' ∨ filter[idx] = '+'
        · rw [if_pos hwild, if_pos hwild]
          rfl
        · rw [if_neg hwild, if_neg hwild]
          exact ih hlt (by omega)
    · have hsep : nul ≠ '/' := by decide
      rw [cstrAt_length, Option.bind_some, if_neg hsep, if_pos rfl, List.drop_length]
      rfl

/-- The share name loop accepts a share name with a filter behind it. -/
theorem sharedNameError_eq_none {rest : Str} : sharedNameError rest = none ↔
    ∃ name sub, rest = name ++ '/' :: sub ∧ '/' ∉ name ∧ '+' ∉ name ∧ '#' ∉ name ∧ sub ≠ [] := by
  induction rest with
  | nil => simp [sharedNameError]
  | cons ch rest ih =>
    unfold sharedNameError
    by_cases hsep : ch = '/'
    · subst hsep
      rw [if_pos rfl]
      constructor
      · intro h
        by_cases hrest : rest = []
        · rw [if_pos hrest] at h
          cases h
        · exact ⟨[], rest, rfl, by simp, by simp, by simp, hrest⟩
      · rintro ⟨name, sub, heq, hname, -, -, hsub⟩
        cases name with
        | nil =>
          rw [List.nil_append, List.cons.injEq] at heq
          rw [if_neg (heq.2 ▸ hsub)]
        | cons c name =>
          rw [List.cons_append, List.cons.injEq] at heq
          rw [← heq.1] at hname
          simp at hname
    · rw [if_neg hsep]
      by_cases hwild : ch = '#' ∨ ch = '+'
      · rw [if_pos hwild]
        refine ⟨fun h => (nomatch h), ?_⟩
        rintro ⟨name, sub, heq, -, hplus, hhash, -⟩
        cases name with
        | nil =>
          rw [List.nil_append, List.cons.injEq] at heq
          exact absurd heq.1 hsep
        | cons c name =>
          rw [List.cons_append, List.cons.injEq] at heq
          rw [← heq.1] at hplus hhash
          rcases hwild with rfl | rfl
          · simp at hhash
          · simp at hplus
      · rw [if_neg hwild, ih]
        rw [not_or] at hwild
        constructor
        · rintro ⟨name, sub, rfl, hname, hplus, hhash, hsub⟩
          refine ⟨ch :: name, sub, rfl, ?_, ?_, ?_, hsub⟩
          · simp [Ne.symm hsep, hname]
          · simp [Ne.symm hwild.2, hplus]
          · simp [Ne.symm hwild.1, hhash]
        · rintro ⟨name, sub, heq, hname, hplus, hhash, hsub⟩
          cases name with
          | nil =>
            rw [List.nil_append, List.cons.injEq] at heq
            exact absurd heq.1 hsep
          | cons c name =>
            rw [List.cons_append, List.cons.injEq] at heq
            rw [List.mem_cons, not_or] at hname hplus hhash
            exact ⟨name, sub, heq.2, hname.2, hplus.2, hhash.2, hsub⟩

/-- A filter is shared when it begins with `$share/`. -/
theorem isSharedTopicFilter_iff :
    isSharedTopicFilter filter = true ↔ ∃ rest, filter = "$share/".toList ++ rest := by
  unfold isSharedTopicFilter
  rw [List.isPrefixOf_iff_prefix]
  exact ⟨fun ⟨rest, h⟩ => ⟨rest, h.symm⟩, fun ⟨rest, h⟩ => ⟨rest, h.symm⟩⟩

/-- What has to follow the prefix, as the code asks for it. -/
theorem sharedPart_iff {rest : Str} : SharedPart rest ↔
    ¬(rest = [] ∨ rest.head? = some '/') ∧ sharedNameError rest = none := by
  rw [sharedNameError_eq_none]
  constructor
  · rintro ⟨name, sub, rfl, hname, hne, hplus, hhash, hsub⟩
    refine ⟨?_, name, sub, rfl, hname, hplus, hhash, hsub⟩
    cases name with
    | nil => exact absurd rfl hne
    | cons ch name =>
      rw [List.mem_cons, not_or] at hname
      simpa using Ne.symm hname.1
  · rintro ⟨hhead, name, sub, rfl, hname, hplus, hhash, hsub⟩
    refine ⟨name, sub, rfl, hname, ?_, hplus, hhash, hsub⟩
    rintro rfl
    exact hhead (Or.inr rfl)

/-- No error is found exactly in the filters whose share is allowed. -/
theorem sharedFilterError_eq_none {sharedSubs : Bool} {filter : Str} :
    sharedFilterError sharedSubs filter = none ↔ ShareOk sharedSubs filter := by
  unfold sharedFilterError ShareOk
  by_cases hshared : isSharedTopicFilter filter = true
  · obtain ⟨rest, rfl⟩ := isSharedTopicFilter_iff.mp hshared
    have hdrop : ("$share/".toList ++ rest).drop 7 = rest := List.drop_left' rfl
    have hall : (∀ rest', "$share/".toList ++ rest = "$share/".toList ++ rest' →
        sharedSubs = true ∧ SharedPart rest') ↔ sharedSubs = true ∧ SharedPart rest :=
      ⟨fun h => h rest rfl, fun h rest' heq => List.append_cancel_left heq ▸ h⟩
    rw [hall, hshared, sharedPart_iff]
    dsimp only
    rw [hdrop]
    cases sharedSubs with
    | false => simp
    | true =>
      by_cases hhead : rest = [] ∨ rest.head? = some '/'
      · simp [hhead]
      · simp [hhead]
  · have hnone : ∀ rest, filter ≠ "$share/".toList ++ rest :=
      fun rest h => hshared (isSharedTopicFilter_iff.mpr ⟨rest, h⟩)
    rw [Bool.not_eq_true] at hshared
    rw [hshared]
    simp only [Bool.not_false, if_true, true_iff]
    exact fun rest h => absurd h (hnone rest)

/-- The walk over the share name stays inside the string, and tells whether the prefix is in order. -/
theorem shareRead_eq (hnul : nul ∉ filter) :
    shareRead sharedSubs filter = some (sharedFilterError sharedSubs filter).isNone := by
  unfold shareRead sharedFilterError
  rw [sharePrefixRead_eq hnul (Nat.zero_le _), Option.bind_some, List.drop_zero]
  change (if !isSharedTopicFilter filter then _ else _) = _
  by_cases hshared : isSharedTopicFilter filter = true
  · rw [hshared]
    obtain ⟨rest, rfl⟩ := isSharedTopicFilter_iff.mp hshared
    have hdrop : ("$share/".toList ++ rest).drop 7 = rest := List.drop_left' rfl
    have hlen : ("$share/".toList ++ rest).length = 7 + rest.length := by
      rw [List.length_append]
      rfl
    cases sharedSubs with
    | false => rfl
    | true =>
      simp only [Bool.not_true, Bool.false_eq_true, if_false]
      have hread := shareNameRead_eq ("$share/".toList ++ rest).length hnul
        (Nat.le.intro hlen.symm) (by omega)
      rw [hread, hdrop]
      cases rest with
      | nil => rfl
      | cons ch rest =>
        have hlt : 7 < ("$share/".toList ++ ch :: rest).length := by
          rw [hlen, List.length_cons]
          omega
        have hget : ("$share/".toList ++ ch :: rest)[7] = ch := by simp
        rw [cstrAt_lt hlt, hget, Option.bind_some]
        have hch : ch ≠ nul := fun heq => hnul (by simp [heq])
        by_cases hsep : ch = '/'
        · simp [hsep]
        · simp [hsep, hch]
  · rw [Bool.not_eq_true] at hshared
    rw [hshared]
    rfl

/-! ## The character loop -/

/-- A wildcard the loop rejects: also one whose separator has no `int` position. -/
def Rejected (wildcards : Bool) (filter : Str) (p : Nat) : Prop :=
  IsWildcard filter p ∧ (Misplaced wildcards filter p ∨ 2 ^ 31 < p)

/-- What the loop remembers: the place of a separator, and of the one it has just passed. -/
structure SepOk (filter : Str) (pos : Nat) (lastSep : Int) : Prop where
  place : lastSep = -1 ∨ ∃ q, q < 2 ^ 32 ∧ filter[q]? = some '/' ∧ lastSep = toInt32 q
  just : 0 < pos → filter[pos - 1]? = some '/' → lastSep = toInt32 (pos - 1)

/-- Positions of 32 bits stay apart as signed ones. -/
theorem toInt32_inj {m n : Nat} (hm : m < 2 ^ 32) (hn : n < 2 ^ 32) (h : toInt32 m = toInt32 n) :
    m = n := by
  unfold toInt32 at h
  split at h <;> split at h <;> omega

/-- A position is negative as a signed one from `2 ^ 31` on. -/
theorem toInt32_nonneg {n : Nat} (hn : n < 2 ^ 32) : 0 ≤ toInt32 n ↔ n < 2 ^ 31 := by
  unfold toInt32
  split <;> omega

/-- The look behind: there is a separator, and its position is an `int`. -/
theorem SepOk.behind (h : SepOk filter pos lastSep) (hpos : pos < 2 ^ 32) (h0 : pos ≠ 0) :
    (lastSep < 0 ∨ toInt32 (pos - 1) ≠ lastSep) ↔
      ¬(filter[pos - 1]? = some '/' ∧ pos ≤ 2 ^ 31) := by
  have hlt : pos - 1 < 2 ^ 32 := by omega
  have hnonneg := toInt32_nonneg hlt
  constructor
  · rintro hfail ⟨hsep, hle⟩
    have hlast := h.just (by omega) hsep
    rcases hfail with hneg | hne
    · rw [hlast] at hneg
      have hge := hnonneg.mpr (by omega)
      omega
    · exact hne hlast.symm
  · intro hnot
    by_contra hok
    rw [not_or, Int.not_lt, not_not] at hok
    obtain ⟨hge, heq⟩ := hok
    rcases h.place with hnone | ⟨q, hq, hsep, hlast⟩
    · omega
    · have hqpos := toInt32_inj hlt hq (heq.trans hlast)
      refine hnot ⟨hqpos ▸ hsep, ?_⟩
      have hsmall := hnonneg.mp (heq ▸ hge)
      omega

/-- A character that is no separator leaves the last one where it is. -/
theorem SepOk.inc (h : SepOk filter pos lastSep) (hpos : pos < 2 ^ 32)
    (hch : filter[pos]? ≠ some '/') : SepOk filter (incPos pos) lastSep := by
  refine ⟨h.place, fun h0 hsep => ?_⟩
  unfold incPos at h0 hsep
  have hnext : (pos + 1) % 2 ^ 32 - 1 = pos := by omega
  rw [hnext] at hsep
  exact absurd hsep hch

/-- A separator becomes the last one. -/
theorem SepOk.sep (hpos : pos < 2 ^ 32) (hch : filter[pos]? = some '/') :
    SepOk filter (incPos pos) (toInt32 pos) := by
  refine ⟨Or.inr ⟨pos, hpos, hch, rfl⟩, fun h0 _ => ?_⟩
  unfold incPos at h0 ⊢
  have hnext : (pos + 1) % 2 ^ 32 - 1 = pos := by omega
  rw [hnext]

/-- The walk starts without a separator. -/
theorem SepOk.start (filter : Str) : SepOk filter 0 (-1) := ⟨Or.inl rfl, fun h0 => by omega⟩

/-- The positions the walk counts. -/
theorem incPos_le (hpos : pos < 2 ^ 32) (h : pos < filter.length) :
    incPos pos < 2 ^ 32 ∧ incPos pos ≤ filter.length ∧ (pos + 1 < 2 ^ 32 → incPos pos = pos + 1) := by
  unfold incPos
  refine ⟨Nat.mod_lt _ (by omega), ?_, fun hlt => Nat.mod_eq_of_lt hlt⟩
  omega

/-- The look ahead at a position the walk may be at. -/
theorem next_read (hnul : nul ∉ filter) (hpos : pos < 2 ^ 32) (h : pos < filter.length) :
    ∃ ch, cstrAt filter (incPos pos) = some ch ∧
      (pos ≤ 2 ^ 31 → (ch = nul ↔ pos + 1 = filter.length) ∧
        (ch = '/' ↔ filter[pos + 1]? = some '/')) := by
  obtain ⟨-, hle, hnext⟩ := incPos_le hpos h
  rcases Nat.lt_or_eq_of_le hle with hlt | heq
  · refine ⟨filter[incPos pos], cstrAt_lt hlt, fun hsmall => ?_⟩
    have hch := ne_nul hnul hlt
    have hinc := hnext (by omega)
    simp only [hinc] at hch hlt ⊢
    refine ⟨⟨fun h => absurd h hch, fun h => by omega⟩, ?_⟩
    rw [List.getElem?_eq_getElem hlt, Option.some.injEq]
  · refine ⟨nul, heq ▸ cstrAt_length filter, fun hsmall => ?_⟩
    have hinc := hnext (by omega)
    rw [hinc] at heq
    refine ⟨⟨fun _ => heq, fun _ => rfl⟩, ⟨fun h => absurd h (by decide), fun h => ?_⟩⟩
    rw [List.getElem?_eq_none (by omega)] at h
    cases h

theorem not_isWildcard {ch : Char} (hget : filter[p]? = some ch) (hplus : ch ≠ '+')
    (hhash : ch ≠ '#') : ¬IsWildcard filter p := by
  rintro (hp | hp)
  · exact hplus (Option.some.inj (hget.symm.trans hp))
  · exact hhash (Option.some.inj (hget.symm.trans hp))

/-- What one round comes to. -/
inductive Round (wildcards : Bool) (filter : Str) (pos : Nat) (lastSep : Int) : Prop where
  | rejects (hrej : Rejected wildcards filter pos)
      (heq : ∀ fuel, wildcardScan wildcards filter (fuel + 1) pos lastSep = .verdict false)
  | accepts (hok : ¬Rejected wildcards filter pos) (hlast : pos + 1 = filter.length)
      (hle : pos ≤ 2 ^ 31)
      (heq : ∀ fuel, wildcardScan wildcards filter (fuel + 1) pos lastSep = .verdict true)
  | next (lastSep' : Int) (hok : ¬Rejected wildcards filter pos)
      (hsep : SepOk filter (incPos pos) lastSep')
      (heq : ∀ fuel, wildcardScan wildcards filter (fuel + 1) pos lastSep =
        wildcardScan wildcards filter fuel (incPos pos) lastSep')

/-- A '#' has to be the last level, alone. -/
theorem misplaced_iff_hash (wildcards : Bool) (hget : filter[pos]? = some '#') : Misplaced wildcards filter pos ↔
    ¬(wildcards = true ∧ pos + 1 = filter.length ∧ (pos = 0 ∨ filter[pos - 1]? = some '/')) := by
  unfold Misplaced IsWildcard WholeLevel
  rw [hget]
  by_cases hw : wildcards = true
  · by_cases hl : pos + 1 = filter.length
    · by_cases hb : pos = 0 ∨ filter[pos - 1]? = some '/' <;> simp [hw, hl, hb]
    · simp [hw, hl]
  · simp [hw]

/-- A '+' has to be a level alone. -/
theorem misplaced_iff_plus (wildcards : Bool) (hget : filter[pos]? = some '+') : Misplaced wildcards filter pos ↔
    ¬(wildcards = true ∧ (pos + 1 = filter.length ∨ filter[pos + 1]? = some '/') ∧
      (pos = 0 ∨ filter[pos - 1]? = some '/')) := by
  unfold Misplaced IsWildcard WholeLevel
  rw [hget]
  by_cases hw : wildcards = true
  · by_cases ha : pos + 1 = filter.length ∨ filter[pos + 1]? = some '/'
    · by_cases hb : pos = 0 ∨ filter[pos - 1]? = some '/' <;> simp [hw, ha, hb]
    · simp [hw, ha]
  · simp [hw]

/-- The loop accepts a wildcard when it is in place and not too far behind. -/
theorem rejected_iff (wildcards : Bool) (hwild : IsWildcard filter pos) :
    Rejected wildcards filter pos ↔ ¬(¬Misplaced wildcards filter pos ∧ pos ≤ 2 ^ 31) := by
  unfold Rejected
  rw [not_and_or, not_not, Nat.not_le]
  exact and_iff_right hwild

/-- One round of the loop on a character of the filter. -/
theorem wildcardScan_round (wildcards : Bool) (hnul : nul ∉ filter) (h : pos < filter.length) (hpos : pos < 2 ^ 32)
    (hsep : SepOk filter pos lastSep) : Round wildcards filter pos lastSep := by
  have hget : filter[pos]? = some filter[pos] := List.getElem?_eq_getElem h
  obtain ⟨nextCh, hread, hnext⟩ := next_read hnul hpos h
  have hne := ne_nul hnul h
  have hround : ∀ fuel, wildcardScan wildcards filter (fuel + 1) pos lastSep =
      wildcardScan wildcards filter (fuel + 1) pos lastSep := fun _ => rfl
  conv at hround =>
    intro fuel
    rhs
    unfold wildcardScan
  simp only [cstrAt_lt h, if_neg hne, hread] at hround
  by_cases hslash : filter[pos] = '/'
  · simp only [if_pos hslash] at hround
    have hplain : ¬IsWildcard filter pos :=
      not_isWildcard hget (by rw [hslash]; decide) (by rw [hslash]; decide)
    exact .next _ (fun hrej => hplain hrej.1) (SepOk.sep hpos (hslash ▸ hget)) hround
  simp only [if_neg hslash] at hround
  have hstay := hsep.inc hpos (by rw [hget]; simpa using hslash)
  -- '#' is the last character and follows a separator, or is refused
  by_cases hhash : filter[pos] = '#'
  · simp only [if_pos hhash] at hround
    have hmis := misplaced_iff_hash wildcards (hhash ▸ hget)
    have hrej := rejected_iff wildcards (Or.inr (hhash ▸ hget))
    rw [hmis, not_not, and_assoc, and_assoc] at hrej
    cases hw : wildcards with
    | false =>
      subst hw
      exact .rejects (hrej.mpr fun h => nomatch h.1) hround
    | true =>
      subst hw
      simp only [Bool.not_true, Bool.false_eq_true, if_false] at hround
      by_cases hend : nextCh = nul
      · simp only [if_neg (not_not.mpr hend)] at hround
        by_cases h0 : pos = 0
        · simp only [if_pos h0] at hround
          have hlast := (hnext (by omega)).1.mp hend
          refine .accepts ?_ hlast (by omega) hround
          rw [hrej, not_not]
          exact ⟨rfl, hlast, Or.inl h0, by omega⟩
        · simp only [if_neg h0, hsep.behind hpos h0] at hround
          by_cases hbehind : filter[pos - 1]? = some '/' ∧ pos ≤ 2 ^ 31
          · simp only [if_neg (not_not.mpr hbehind)] at hround
            have hlast := (hnext hbehind.2).1.mp hend
            refine .accepts ?_ hlast hbehind.2 hround
            rw [hrej, not_not]
            exact ⟨rfl, hlast, Or.inr hbehind.1, hbehind.2⟩
          · simp only [if_pos hbehind] at hround
            refine .rejects (hrej.mpr ?_) hround
            rintro ⟨-, -, hb | hb, hle⟩
            · exact h0 hb
            · exact hbehind ⟨hb, hle⟩
      · simp only [if_pos hend] at hround
        refine .rejects (hrej.mpr ?_) hround
        rintro ⟨-, hlast, -, hle⟩
        exact hend ((hnext hle).1.mpr hlast)
  simp only [if_neg hhash] at hround
  -- '+' stands between separators, or is refused
  by_cases hplus : filter[pos] = '+'
  · simp only [if_neg (not_not.mpr hplus)] at hround
    have hmis := misplaced_iff_plus wildcards (hplus ▸ hget)
    have hrej := rejected_iff wildcards (Or.inl (hplus ▸ hget))
    rw [hmis, not_not, and_assoc, and_assoc] at hrej
    cases hw : wildcards with
    | false =>
      subst hw
      exact .rejects (hrej.mpr fun h => nomatch h.1) hround
    | true =>
      subst hw
      simp only [Bool.not_true, Bool.false_eq_true, if_false] at hround
      by_cases hend : nextCh ≠ nul ∧ nextCh ≠ '/'
      · simp only [if_pos hend] at hround
        refine .rejects (hrej.mpr ?_) hround
        rintro ⟨-, hlast | hlast, -, hle⟩
        · exact hend.1 ((hnext hle).1.mpr hlast)
        · exact hend.2 ((hnext hle).2.mpr hlast)
      · simp only [if_neg hend] at hround
        rw [not_and_or, not_not, not_not] at hend
        have hahead : pos ≤ 2 ^ 31 → pos + 1 = filter.length ∨ filter[pos + 1]? = some '/' :=
          fun hle => hend.imp (hnext hle).1.mp (hnext hle).2.mp
        by_cases h0 : pos = 0
        · simp only [if_pos h0] at hround
          refine .next _ ?_ hstay hround
          rw [hrej, not_not]
          exact ⟨rfl, hahead (by omega), Or.inl h0, by omega⟩
        · simp only [if_neg h0, hsep.behind hpos h0] at hround
          by_cases hbehind : filter[pos - 1]? = some '/' ∧ pos ≤ 2 ^ 31
          · simp only [if_neg (not_not.mpr hbehind)] at hround
            refine .next _ ?_ hstay hround
            rw [hrej, not_not]
            exact ⟨rfl, hahead hbehind.2, Or.inr hbehind.1, hbehind.2⟩
          · simp only [if_pos hbehind] at hround
            refine .rejects (hrej.mpr ?_) hround
            rintro ⟨-, -, hb | hb, hle⟩
            · exact h0 hb
            · exact hbehind ⟨hb, hle⟩
  · simp only [if_pos hplus] at hround
    exact .next _ (fun hrej => not_isWildcard hget hplus hhash hrej.1) hstay hround

theorem IsWildcard.lt (h : IsWildcard filter p) : p < filter.length := by
  rcases h with h | h
  · exact (List.getElem?_eq_some_iff.mp h).1
  · exact (List.getElem?_eq_some_iff.mp h).1

/-- The loop ends with the filter. -/
theorem wildcardScan_end (h : pos = filter.length) :
    wildcardScan wildcards filter (fuel + 1) pos lastSep = .verdict true := by
  subst h
  unfold wildcardScan
  rw [cstrAt_length]
  rfl

/-- The walk never reads behind the terminator. -/
theorem wildcardScan_inside (wildcards : Bool) (fuel : Nat) (hnul : nul ∉ filter) (hpos : pos < 2 ^ 32)
    (h : pos ≤ filter.length) (hsep : SepOk filter pos lastSep) : wildcardScan wildcards filter fuel pos lastSep ≠ .pastEnd := by
  induction fuel generalizing pos lastSep with
  | zero => exact fun h => nomatch h
  | succ fuel ih =>
    rcases Nat.lt_or_eq_of_le h with hlt | heq
    · obtain ⟨hpos', hle', -⟩ := incPos_le hpos hlt
      cases wildcardScan_round wildcards hnul hlt hpos hsep with
      | rejects _ heq => exact heq fuel ▸ fun h => nomatch h
      | accepts _ _ _ heq => exact heq fuel ▸ fun h => nomatch h
      | next lastSep' _ hsep' heq => exact heq fuel ▸ ih hpos' hle' hsep'
    · exact wildcardScan_end heq ▸ fun h => nomatch h

/-- The walk over a string whose positions are all counted. -/
theorem wildcardScan_short (wildcards : Bool) (hnul : nul ∉ filter) (hlen : filter.length < 2 ^ 32)
    (h : pos ≤ filter.length) (hsep : SepOk filter pos lastSep) :
    ∃ ok, (ok = true ↔ ∀ p, pos ≤ p → ¬Rejected wildcards filter p) ∧
      ∀ fuel, filter.length - pos < fuel →
        wildcardScan wildcards filter fuel pos lastSep = .verdict ok := by
  -- the induction is on what is left of the string
  induction hleft : filter.length - pos generalizing pos lastSep with
  | zero =>
    refine ⟨true, iff_of_true rfl fun p hp hrej => ?_, fun fuel hfuel => ?_⟩
    · have hlt := hrej.1.lt
      omega
    · obtain ⟨fuel, rfl⟩ : ∃ n, fuel = n + 1 := ⟨fuel - 1, by omega⟩
      exact wildcardScan_end (by omega)
  | succ left ih =>
    have hlt : pos < filter.length := by omega
    have hpos : pos < 2 ^ 32 := by omega
    cases wildcardScan_round wildcards hnul hlt hpos hsep with
    | rejects hrej heq =>
      refine ⟨false, iff_of_false (by simp) fun hall => hall pos (Nat.le_refl _) hrej, ?_⟩
      intro fuel hfuel
      obtain ⟨fuel, rfl⟩ : ∃ n, fuel = n + 1 := ⟨fuel - 1, by omega⟩
      exact heq fuel
    | accepts hok hlast _ heq =>
      refine ⟨true, iff_of_true rfl fun p hp hrej => ?_, fun fuel hfuel => ?_⟩
      · have hlt := hrej.1.lt
        obtain rfl : p = pos := by omega
        exact hok hrej
      · obtain ⟨fuel, rfl⟩ : ∃ n, fuel = n + 1 := ⟨fuel - 1, by omega⟩
        exact heq fuel
    | next lastSep' hok hsep' heq =>
      obtain ⟨-, hle', hinc⟩ := incPos_le hpos hlt
      rw [hinc (by omega)] at hle' hsep' heq
      obtain ⟨ok, hiff, hrun⟩ := ih hle' hsep' (by omega)
      refine ⟨ok, hiff.trans ⟨fun hall p hp hrej => ?_, fun hall p hp => hall p (by omega)⟩, ?_⟩
      · rcases Nat.lt_or_eq_of_le hp with hgt | rfl
        · exact hall p hgt hrej
        · exact hok hrej
      · intro fuel hfuel
        obtain ⟨fuel, rfl⟩ : ∃ n, fuel = n + 1 := ⟨fuel - 1, by omega⟩
        rw [heq fuel]
        exact hrun fuel (by omega)

/-- A rejected wildcard the walk comes to ends it. -/
theorem wildcardScan_rejects (fuel : Nat) (hnul : nul ∉ filter) (hrej : Rejected wildcards filter p)
    (hp : p < 2 ^ 32) (h : pos ≤ p) (hsep : SepOk filter pos lastSep) (hfuel : p < fuel + pos) :
    wildcardScan wildcards filter fuel pos lastSep = .verdict false := by
  have hlen := hrej.1.lt
  induction fuel generalizing pos lastSep with
  | zero => omega
  | succ fuel ih =>
    cases wildcardScan_round wildcards hnul (show pos < _ by omega) (by omega) hsep with
    | rejects _ heq => exact heq fuel
    | accepts hok hlast _ heq =>
      obtain rfl : p = pos := by omega
      exact absurd hrej hok
    | next lastSep' hok hsep' heq =>
      have hne : p ≠ pos := by
        rintro rfl
        exact hok hrej
      obtain ⟨-, -, hinc⟩ := incPos_le (show pos < 2 ^ 32 by omega) (show pos < filter.length by omega)
      rw [hinc (by omega)] at hsep' heq
      rw [heq fuel]
      exact ih (by omega) hsep' (by omega)

/-- A string with more characters than the walk can count: without a rejection it goes round for ever. -/
theorem wildcardScan_endless (fuel : Nat) (hnul : nul ∉ filter) (hlen : 2 ^ 32 ≤ filter.length)
    (hok : ∀ p, p < 2 ^ 32 → ¬Rejected wildcards filter p) (hpos : pos < 2 ^ 32)
    (hsep : SepOk filter pos lastSep) :
    wildcardScan wildcards filter fuel pos lastSep = .unfinished := by
  induction fuel generalizing pos lastSep with
  | zero => rfl
  | succ fuel ih =>
    have hlt : pos < filter.length := by omega
    cases wildcardScan_round wildcards hnul hlt hpos hsep with
    | rejects hrej _ => exact absurd hrej (hok pos hpos)
    | accepts _ hlast hle _ => omega
    | next lastSep' _ hsep' heq =>
      rw [heq fuel]
      exact ih (incPos_le hpos hlt).1 hsep'

/-! ## The validation and the grammar -/

/-- The validation reads only the string and its terminator, ends, and accepts what the grammar does. -/
def ValidatesFilter (env : Env) (filter : Str) (s : Client) : Prop :=
  (∀ fuel, s.verifySubFilterRead env fuel filter ≠ .pastEnd) ∧
    ∃ ok, (ok = true ↔ WellFormedFilter s.sessionState.wildcardSubAvailable
      s.sessionState.sharedSubsAvailable filter) ∧
      ∃ enough, ∀ fuel, enough ≤ fuel → s.verifySubFilterRead env fuel filter = .verdict ok

/-- The share part decides, or the character loop does. -/
theorem verifySubFilterRead_eq (fuel : Nat) (hnul : nul ∉ filter)
    (hcfg : env.cfg.hasTopicFormatVerification = true)
    (hverify : s.configState.verifyOutgoingTopic = true) (hne : filter ≠ []) :
    s.verifySubFilterRead env fuel filter =
      if (sharedFilterError s.sessionState.sharedSubsAvailable filter).isNone then
        wildcardScan s.sessionState.wildcardSubAvailable filter fuel 0 (-1)
      else .verdict false := by
  have hpos : 0 < filter.length := List.length_pos_iff.mpr hne
  have hfirst : cstrAt filter 0 ≠ some nul := by
    rw [cstrAt_lt hpos]
    exact fun h => ne_nul hnul hpos (Option.some.inj h)
  unfold Client.verifySubFilterRead
  rw [hcfg, hverify, shareRead_eq hnul, if_neg hfirst]
  cases (sharedFilterError s.sessionState.sharedSubsAvailable filter).isNone <;> rfl

/-- `verifySubFilter` meets the grammar unless its integers come in the way: its walk has to end, and a
well-formed filter must not have a wildcard whose separator has no `int` position. -/
theorem verifySubFilter_exact (hnul : nul ∉ filter)
    (hcfg : env.cfg.hasTopicFormatVerification = true)
    (hverify : s.configState.verifyOutgoingTopic = true) :
    ValidatesFilter env filter s ↔
      (filter.length < 2 ^ 32 ∨ ¬ShareOk s.sessionState.sharedSubsAvailable filter ∨
        ∃ p, p < 2 ^ 32 ∧ Rejected s.sessionState.wildcardSubAvailable filter p) ∧
      (WellFormedFilter s.sessionState.wildcardSubAvailable s.sessionState.sharedSubsAvailable filter →
        ∀ p, IsWildcard filter p → p ≤ 2 ^ 31) := by
  by_cases hne : filter = []
  · subst hne
    have hrun : ∀ fuel, s.verifySubFilterRead env fuel [] = .verdict false := fun fuel => by
      unfold Client.verifySubFilterRead
      rw [hcfg, hverify]
      rfl
    have hbad : ¬WellFormedFilter s.sessionState.wildcardSubAvailable
        s.sessionState.sharedSubsAvailable [] := fun h => h.nonempty rfl
    refine iff_of_true ⟨fun fuel => ?_, false, iff_of_false (by simp) hbad, 0, fun fuel _ => hrun fuel⟩
      ⟨Or.inl (by simp), fun h => absurd h hbad⟩
    rw [hrun fuel]
    exact fun h => nomatch h
  unfold ValidatesFilter
  simp only [verifySubFilterRead_eq _ hnul hcfg hverify hne]
  by_cases hshare : ShareOk s.sessionState.sharedSubsAvailable filter
  · rw [sharedFilterError_eq_none.mpr hshare]
    simp only [Option.isNone_none, if_true]
    have hwell : WellFormedFilter s.sessionState.wildcardSubAvailable
        s.sessionState.sharedSubsAvailable filter ↔
          ∀ p, ¬Misplaced s.sessionState.wildcardSubAvailable filter p := by
      rw [wellFormedFilter_iff]
      exact ⟨fun h => h.2.2, fun h => ⟨hne, hshare, h⟩⟩
    have hrange : (∀ p, ¬Misplaced s.sessionState.wildcardSubAvailable filter p) →
        ((∀ p, IsWildcard filter p → p ≤ 2 ^ 31) ↔
          ∀ p, ¬Rejected s.sessionState.wildcardSubAvailable filter p) := by
      refine fun hmis => forall_congr' fun p => ⟨fun h hrej => ?_, fun h hwild => ?_⟩
      · rcases hrej.2 with hbad | hfar
        · exact hmis p hbad
        · have hle := h hrej.1
          omega
      · by_contra hfar
        exact h ⟨hwild, Or.inr (by omega)⟩
    have hstart := SepOk.start filter
    have hinside := fun fuel => wildcardScan_inside s.sessionState.wildcardSubAvailable fuel hnul
      (by decide) (Nat.zero_le _) hstart
    rw [and_iff_right hinside]
    by_cases hlen : filter.length < 2 ^ 32
    · obtain ⟨ok, hiff, hrun⟩ := wildcardScan_short
        s.sessionState.wildcardSubAvailable hnul hlen (Nat.zero_le _) hstart
      rw [and_iff_right (Or.inl hlen), hwell]
      constructor
      · rintro ⟨ok', hok', enough, hrun'⟩ hmis
        -- both runs come to the same verdict
        have h₁ := hrun (filter.length + 1 + enough) (by omega)
        rw [hrun' (filter.length + 1 + enough) (by omega)] at h₁
        obtain rfl := Scan.verdict.inj h₁
        rw [hrange hmis]
        exact fun p => hiff.mp (hok'.mpr hmis) p (Nat.zero_le _)
      · intro hfar
        refine ⟨ok, hiff.trans ⟨fun h p hmis => h p (Nat.zero_le _) ⟨hmis.1, Or.inl hmis⟩, ?_⟩,
          filter.length + 1, fun fuel hfuel => hrun fuel (by omega)⟩
        exact fun hmis p _ => (hrange hmis).mp (hfar hmis) p
    · by_cases hrej : ∃ p, p < 2 ^ 32 ∧ Rejected s.sessionState.wildcardSubAvailable filter p
      · rw [and_iff_right (Or.inr (Or.inr hrej)), hwell]
        obtain ⟨p, hp, hrej⟩ := hrej
        have hrun := fun fuel (hfuel : p + 1 ≤ fuel) =>
          wildcardScan_rejects fuel hnul hrej hp (Nat.zero_le _) hstart (by omega)
        constructor
        · rintro ⟨ok, hok, enough, hrun'⟩ hmis
          have h₁ := hrun (p + 1 + enough) (by omega)
          rw [hrun' (p + 1 + enough) (by omega)] at h₁
          obtain rfl := Scan.verdict.inj h₁
          cases hok.mpr hmis
        · intro hfar
          refine ⟨false, iff_of_false (by simp) fun hmis => ?_, p + 1, hrun⟩
          exact (hrange hmis).mp (hfar hmis) p hrej
      · have hok : ∀ p, p < 2 ^ 32 → ¬Rejected s.sessionState.wildcardSubAvailable filter p :=
          fun p hp h => hrej ⟨p, hp, h⟩
        refine iff_of_false ?_ ?_
        · rintro ⟨ok, -, enough, hrun⟩
          have h₁ := wildcardScan_endless enough hnul (by omega) hok (by decide) hstart
          rw [hrun enough (Nat.le_refl _)] at h₁
          cases h₁
        · rintro ⟨h | h | h, -⟩
          · exact hlen h
          · exact h hshare
          · exact hrej h
  · have hsome : (sharedFilterError s.sessionState.sharedSubsAvailable filter).isNone = false := by
      rw [← Bool.not_eq_true, Option.isNone_iff_eq_none, sharedFilterError_eq_none]
      exact hshare
    have hbad : ¬WellFormedFilter s.sessionState.wildcardSubAvailable
        s.sessionState.sharedSubsAvailable filter := fun h => hshare h.shared
    rw [hsome]
    refine iff_of_true ⟨fun _ h => (nomatch h), false, iff_of_false (by simp) hbad, 0, fun _ _ => rfl⟩
      ⟨Or.inr (Or.inl hshare), fun h => absurd h hbad⟩

/-- A client of a broker that offers wildcard subscriptions. -/
def Client.withWildcards : Client := { sessionState := { wildcardSubAvailable := true } }

theorem verifySubFilter_exact_wildcards :
    ValidatesFilter .dynamic ['a', '/', '+', '/', '#'] .withWildcards := by
  refine (verifySubFilter_exact (by decide) rfl rfl).mpr ⟨Or.inl (by decide), fun _ p hp => ?_⟩
  have hlt : p < 5 := hp.lt
  omega

/-- The filter `aa…a/+`. -/
def farFilter (k : Nat) : Str := List.replicate k 'a' ++ ['/', '+']

theorem farFilter_getElem? {k : Nat} : (farFilter k)[k]? = some '/' ∧ (farFilter k)[k + 1]? = some '+' ∧
    (farFilter k).length = k + 2 := by
  unfold farFilter
  refine ⟨?_, ?_, ?_⟩
  · rw [List.getElem?_append_right (Nat.le_of_eq List.length_replicate), List.length_replicate,
      Nat.sub_self]
    rfl
  · rw [List.getElem?_append_right (by rw [List.length_replicate]; omega), List.length_replicate,
      Nat.add_sub_cancel_left]
    rfl
  · rw [List.length_append, List.length_replicate]
    rfl

theorem mem_farFilter {k : Nat} {ch : Char} (h : ch ∈ farFilter k) : ch = 'a' ∨ ch = '/' ∨ ch = '+' := by
  unfold farFilter at h
  rw [List.mem_append] at h
  rcases h with h | h
  · exact Or.inl (List.eq_of_mem_replicate h)
  · simpa using Or.inr h

/-- The filter has one wildcard. -/
theorem farFilter_wildcard {k : Nat} (h : IsWildcard (farFilter k) p) : p = k + 1 := by
  have hlt := h.lt
  rw [farFilter_getElem?.2.2] at hlt
  rcases Nat.lt_trichotomy p k with hless | rfl | hgt
  · have ha : (farFilter k)[p]? = some 'a' := by
      unfold farFilter
      rw [List.getElem?_append_left (by rw [List.length_replicate]; exact hless),
        List.getElem?_replicate_of_lt hless]
    exact absurd h (not_isWildcard ha (by decide) (by decide))
  · exact absurd h (not_isWildcard farFilter_getElem?.1 (by decide) (by decide))
  · omega

/-- The filter is one of the grammar, however long it is. -/
theorem farFilter_wellFormed (sharedSubs : Bool) {k : Nat} : WellFormedFilter true sharedSubs (farFilter k) := by
  obtain ⟨hsep, hplus, hlen⟩ := farFilter_getElem? (k := k)
  have hne : farFilter k ≠ [] := fun h => by
    rw [h] at hlen
    cases hlen
  refine ⟨hne, fun p hp => ?_, fun p hp => ?_, fun _ _ _ => rfl, fun rest heq => ?_⟩
  · obtain rfl := farFilter_wildcard (Or.inl hp)
    exact ⟨Or.inr hsep, Or.inl hlen.symm⟩
  · obtain rfl := farFilter_wildcard (Or.inr hp)
    rw [hplus] at hp
    cases hp
  · have hmem : '$' ∈ farFilter k := by
      rw [heq]
      simp
    rcases mem_farFilter hmem with h | h | h <;> cases h

/-- A filter of `2^31` characters and `/+` is well formed, and is rejected: the position of its separator
is negative as an `int`. -/
theorem verifySubFilter_rejects_far :
    WellFormedFilter true false (farFilter (2 ^ 31)) ∧
      Client.withWildcards.verifySubFilterRead .dynamic (2 ^ 31 + 2) (farFilter (2 ^ 31)) =
        .verdict false ∧
      ¬ValidatesFilter .dynamic (farFilter (2 ^ 31)) .withWildcards := by
  have hnul : nul ∉ farFilter (2 ^ 31) := fun h => by
    rcases mem_farFilter h with h | h | h <;> cases h
  have hwell := farFilter_wellFormed false (k := 2 ^ 31)
  have hrej : Rejected true (farFilter (2 ^ 31)) (2 ^ 31 + 1) :=
    ⟨Or.inl farFilter_getElem?.2.1, Or.inr (Nat.lt_succ_self _)⟩
  have hrun : ∀ fuel, 2 ^ 31 + 1 < fuel →
      Client.withWildcards.verifySubFilterRead .dynamic fuel (farFilter (2 ^ 31)) =
        .verdict false := fun fuel hfuel => by
    rw [verifySubFilterRead_eq _ hnul rfl rfl hwell.nonempty]
    split
    · exact wildcardScan_rejects _ hnul hrej (by decide) (Nat.zero_le _) (SepOk.start _) hfuel
    · rfl
  refine ⟨hwell, hrun _ (Nat.lt_succ_self _), ?_⟩
  rintro ⟨-, ok, hok, enough, hrun'⟩
  have h₁ := hrun (2 ^ 31 + 2 + enough) (by omega)
  rw [hrun' _ (by omega)] at h₁
  obtain rfl := Scan.verdict.inj h₁
  cases hok.mpr hwell

/-! ## The validation as the requests use it -/

/-- What the character loop sees behind it. -/
theorem behind_iff (pre rest : Str) :
    (pre.getLast?.isSome && pre.getLast? != some '/') = true ↔
      ¬(pre.length = 0 ∨ (pre ++ rest)[pre.length - 1]? = some '/') := by
  rcases List.eq_nil_or_concat pre with rfl | ⟨pre, ch, rfl⟩
  · simp
  · have hget : (pre ++ [ch] ++ rest)[pre.length]? = some ch := by
      rw [List.append_assoc, List.getElem?_append_right (Nat.le_refl _), Nat.sub_self]
      rfl
    rw [List.concat_eq_append, List.length_append, List.length_singleton, Nat.add_sub_cancel, hget,
      List.getLast?_concat]
    simp

/-- The loop without its integers finds no error where no wildcard is misplaced. -/
theorem wildcardError_eq_none (wildcards : Bool) (pre rest : Str) :
    wildcardError wildcards pre.getLast? rest = none ↔
      ∀ p, pre.length ≤ p → ¬Misplaced wildcards (pre ++ rest) p := by
  induction rest generalizing pre with
  | nil =>
    refine iff_of_true rfl fun p hp hmis => ?_
    have hlt := hmis.1.lt
    rw [List.append_nil] at hlt
    omega
  | cons ch rest ih =>
    have hget : (pre ++ ch :: rest)[pre.length]? = some ch := by
      rw [List.getElem?_append_right (Nat.le_refl _), Nat.sub_self]
      rfl
    have hlen : pre.length + 1 = (pre ++ ch :: rest).length ↔ rest = [] := by
      rw [List.length_append, List.length_cons, ← List.length_eq_zero_iff]
      omega
    have hnext : (pre ++ ch :: rest)[pre.length + 1]? = rest.head? := by
      rw [List.getElem?_append_right (by omega), Nat.add_sub_cancel_left, List.getElem?_cons_succ,
        List.head?_eq_getElem?]
    have hstep : wildcardError wildcards (some ch) rest = none ↔
        ∀ p, pre.length + 1 ≤ p → ¬Misplaced wildcards (pre ++ ch :: rest) p := by
      have h := ih (pre ++ [ch])
      rw [List.getLast?_concat, List.length_append, List.length_singleton, List.append_assoc] at h
      exact h
    -- the first position, and the ones behind it
    have hsplit : (∀ p, pre.length ≤ p → ¬Misplaced wildcards (pre ++ ch :: rest) p) ↔
        ¬Misplaced wildcards (pre ++ ch :: rest) pre.length ∧
          wildcardError wildcards (some ch) rest = none := by
      rw [hstep]
      refine ⟨fun h => ⟨h _ (Nat.le_refl _), fun p hp => h p (by omega)⟩, fun h p hp => ?_⟩
      rcases Nat.lt_or_eq_of_le hp with hlt | rfl
      · exact h.2 p hlt
      · exact h.1
    have hbehind := behind_iff pre (ch :: rest)
    rw [hsplit]
    conv_lhs => unfold wildcardError
    by_cases hhash : ch = '#'
    · subst hhash
      rw [if_pos rfl, misplaced_iff_hash wildcards hget, not_not, hlen]
      cases wildcards with
      | false => simp
      | true =>
        by_cases hrest : rest = []
        · subst hrest
          by_cases hb : pre.length = 0 ∨ (pre ++ ['#'])[pre.length - 1]? = some '/'
          · have hoff := Bool.not_eq_true _ ▸ mt hbehind.mp (not_not.mpr hb)
            simp only [hoff]
            simpa [wildcardError] using hb
          · have hon := hbehind.mpr hb
            simp only [hon]
            simpa [wildcardError] using hb
        · simp [hrest]
    · rw [if_neg hhash]
      by_cases hplus : ch = '+'
      · subst hplus
        rw [if_pos rfl, misplaced_iff_plus wildcards hget, not_not, hlen, hnext]
        cases wildcards with
        | false => simp
        | true =>
          by_cases ha : rest = [] ∨ rest.head? = some '/'
          · have hahead : ¬(rest ≠ [] ∧ rest.head? ≠ some '/') := fun h => ha.elim h.1 h.2
            rw [if_neg (by simp), if_neg hahead]
            by_cases hb : pre.length = 0 ∨ (pre ++ '+' :: rest)[pre.length - 1]? = some '/'
            · rw [if_neg (mt hbehind.mp (not_not.mpr hb))]
              exact ⟨fun h => ⟨⟨rfl, ha, hb⟩, h⟩, fun h => h.2⟩
            · rw [if_pos (hbehind.mpr hb)]
              exact ⟨fun h => (nomatch h), fun h => absurd h.1.2.2 hb⟩
          · have hahead : rest ≠ [] ∧ rest.head? ≠ some '/' := not_or.mp ha
            rw [if_neg (by simp), if_pos hahead]
            exact ⟨fun h => (nomatch h), fun h => absurd h.1.2.1 ha⟩
      · rw [if_neg hplus]
        have hok : ¬Misplaced wildcards (pre ++ ch :: rest) pre.length :=
          fun hmis => not_isWildcard hget hplus hhash hmis.1
        exact (and_iff_right hok).symm

/-- `verifySubFilter` without its integers accepts exactly the grammar. -/
theorem verifySubFilter_iff (filter : Str) (hcfg : env.cfg.hasTopicFormatVerification = true)
    (hverify : s.configState.verifyOutgoingTopic = true) :
    (s.verifySubFilter env filter).2 = true ↔
      WellFormedFilter s.sessionState.wildcardSubAvailable s.sessionState.sharedSubsAvailable
        filter := by
  have hscan := wildcardError_eq_none s.sessionState.wildcardSubAvailable [] filter
  have hshare : sharedFilterError s.sessionState.sharedSubsAvailable filter = none ↔
      ShareOk s.sessionState.sharedSubsAvailable filter := sharedFilterError_eq_none
  have hall : (∀ p, ([] : Str).length ≤ p →
      ¬Misplaced s.sessionState.wildcardSubAvailable ([] ++ filter) p) ↔
        ∀ p, ¬Misplaced s.sessionState.wildcardSubAvailable filter p :=
    ⟨fun h p => h p (Nat.zero_le _), fun h p _ => h p⟩
  rw [hall] at hscan
  rw [wellFormedFilter_iff, ← hshare, ← hscan]
  unfold Client.verifySubFilter
  rw [hcfg, hverify]
  simp only [Bool.not_true, Bool.or_self, Bool.false_eq_true, if_false]
  by_cases hne : filter = []
  · simp [hne]
  · rw [if_neg hne]
    cases herr : sharedFilterError s.sessionState.sharedSubsAvailable filter with
    | some text => simp
    | none =>
      cases hwild : wildcardError s.sessionState.wildcardSubAvailable none filter with
      | some text => simp [hwild]
      | none => simp [hwild, hne]

/-- For a filter whose positions are all `int`s the two are the same. -/
theorem verifySubFilterRead_short (hnul : nul ∉ filter)
    (hcfg : env.cfg.hasTopicFormatVerification = true)
    (hverify : s.configState.verifyOutgoingTopic = true) (hlen : filter.length ≤ 2 ^ 31) :
    ∃ enough, ∀ fuel, enough ≤ fuel →
      s.verifySubFilterRead env fuel filter = .verdict (s.verifySubFilter env filter).2 := by
  by_cases hne : filter = []
  · subst hne
    refine ⟨0, fun fuel _ => ?_⟩
    unfold Client.verifySubFilterRead Client.verifySubFilter
    rw [hcfg, hverify]
    rfl
  have heq := fun fuel => verifySubFilterRead_eq fuel hnul hcfg hverify hne
  have hiff := verifySubFilter_iff filter hcfg hverify
  rw [wellFormedFilter_iff] at hiff
  by_cases hshare : ShareOk s.sessionState.sharedSubsAvailable filter
  · obtain ⟨ok, hok, hrun⟩ := wildcardScan_short s.sessionState.wildcardSubAvailable
      hnul (by omega) (Nat.zero_le _) (SepOk.start filter)
    refine ⟨filter.length + 1, fun fuel hfuel => ?_⟩
    rw [heq, sharedFilterError_eq_none.mpr hshare]
    simp only [Option.isNone_none, if_true]
    rw [hrun fuel (by omega)]
    congr 1
    rw [Bool.eq_iff_iff, hok, hiff]
    refine ⟨fun h => ⟨hne, hshare, fun p hmis => h p (Nat.zero_le _) ⟨hmis.1, Or.inl hmis⟩⟩, ?_⟩
    rintro ⟨-, -, h⟩ p - ⟨hwild, hmis | hfar⟩
    · exact h p hmis
    · have hlt := hwild.lt
      omega
  · refine ⟨0, fun fuel _ => ?_⟩
    have hsome := mt sharedFilterError_eq_none.mp hshare
    rw [← Option.isNone_iff_eq_none] at hsome
    rw [heq, if_neg hsome]
    congr 1
    rw [eq_comm, ← Bool.not_eq_true, hiff]
    exact fun h => hshare h.2.1

end Mqtt5
