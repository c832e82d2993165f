import Mathlib.Data.List.TakeWhile
import Mqtt5Client.Run

/-!
# Mqtt5Client — topic matching

A filter matches a topic level by level. `isTopicMatch` compares the two as strings, cutting off a level
of each in every round, and takes the empty string both for a topic without further levels and for one
empty level; it also looks at the first character of a filter that has none left. The first section
follows its reads one by one.
-/

namespace Mqtt5

variable {filter topic : Str} {fs ts : List Str}

/-! ## The reads -/

/-- `find_first_of("/")`. -/
def findSep (s : Str) : Option Nat := s.findIdx? (· == '/')

/-- `isTopicMatch` on string views with its reads; `none` when a character behind the end is read. Each
round drops a level of the filter, so the length of the filter is enough fuel. -/
def isTopicMatchRead : Nat → Str → Str → Option Bool
  | 0, _, _ => none
  | fuel + 1, filter, topic =>
    if filter.length = 1 ∧ filter[0]? = some '#' then some true
    else if topic.isEmpty then some filter.isEmpty
    else
      match findSep filter, findSep topic with
      | none, some _ => some false
      | some f, some t =>
        filter[0]?.bind fun ch =>
          if (ch = '+' ∧ f = 1) ∨ filter.take f = topic.take t then
            isTopicMatchRead fuel (filter.drop (f + 1)) (topic.drop (t + 1))
          else some false
      | some f, none =>
        if filter.length ≤ f + 1 then some false
        else
          filter[0]?.bind fun ch =>
            if (ch = '+' ∧ f = 1) ∨ filter.take f = topic then
              isTopicMatchRead fuel (filter.drop (f + 1)) []
            else some false
      | none, none =>
        filter[0]?.bind fun ch =>
          some (decide ((ch = '+' ∧ filter.length = 1) ∨ filter = topic))

/-- `isTopicMatch` with its assertions; `none` also when one of them fails. -/
def isTopicMatchChecked (filter topic : Str) : Option Bool :=
  if filter.isEmpty || topic.isEmpty then none
  else isTopicMatchRead (filter.length + 1) filter topic

/-! ## Levels -/

/-- The levels of a filter or a topic. -/
def levels (s : Str) : List Str := s.splitOn '/'

/-- A filter matches level by level: `+` stands for any one level, a final `#` for all that are left. -/
def matchLevels : List Str → List Str → Bool
  | [], ts => ts.isEmpty
  | f :: fs, ts =>
    if f = ['#'] ∧ fs = [] then true
    else
      match ts with
      | [] => false
      | t :: ts => (f = ['+'] || f = t) && matchLevels fs ts

/-- The last level of the topic is empty, and the filter goes on with `+`, `+/#` or an empty level and
`#` there. -/
def missesEmptyLevel : List Str → List Str → Bool
  | f :: fs, [t] =>
    t.isEmpty && (f = ['+'] && (fs = [] || fs = [['#']]) || f.isEmpty && decide (fs = [['#']]))
  | f :: fs, t :: ts => (f = ['+'] || f = t) && missesEmptyLevel fs ts
  | _, _ => false

/-- The last level of the filter is empty, and the topic has its last level there, which is not. -/
def readsPastEnd : List Str → List Str → Bool
  | [f], [t] => f.isEmpty && !t.isEmpty
  | f :: fs, t :: ts => (f = ['+'] || f = t) && readsPastEnd fs ts
  | _, _ => false

theorem findSep_eq_none (h : '/' ∉ filter) : findSep filter = none := by
  unfold findSep
  rw [List.findIdx?_eq_none_iff]
  intro x hx
  have hne : x ≠ '/' := fun heq => h (heq ▸ hx)
  simpa using hne

/-- The first separator ends the first level. -/
theorem findSep_append {l rest : Str} (h : '/' ∉ l) : findSep (l ++ '/' :: rest) = some l.length := by
  induction l with
  | nil => rfl
  | cons ch l ih =>
    rw [List.mem_cons, not_or] at h
    have hne : (ch == '/') = false := by simpa using Ne.symm h.1
    have hl := ih h.2
    unfold findSep at hl ⊢
    rw [List.cons_append, List.findIdx?_cons, hne, hl]
    rfl

/-- A string is one level, or a level and the rest behind a separator. -/
theorem levels_cases (s : Str) :
    ('/' ∉ s ∧ levels s = [s]) ∨
      ∃ l rest, '/' ∉ l ∧ s = l ++ '/' :: rest ∧ levels s = l :: levels rest := by
  by_cases h : '/' ∈ s
  · obtain ⟨l, rest, rfl, hl⟩ := List.eq_append_cons_of_mem h
    exact Or.inr ⟨l, rest, hl, rfl, List.splitOn_append_cons_self_of_not_mem hl rest⟩
  · exact Or.inl ⟨h, List.splitOn_eq_singleton h⟩

theorem levels_ne_nil (s : Str) : levels s ≠ [] := List.splitOn_ne_nil _ _

/-- A string is determined by its levels. -/
theorem levels_eq_iff {s t : Str} : levels s = levels t ↔ s = t := by
  refine ⟨fun h => ?_, fun h => h ▸ rfl⟩
  have hs : ['/'].intercalate (levels s) = s := List.intercalate_splitOn '/'
  rw [h] at hs
  exact hs.symm.trans (List.intercalate_splitOn '/')

/-- A text of one level has no separator. -/
theorem levels_eq_singleton {s t : Str} (ht : '/' ∉ t) : levels s = [t] ↔ s = t := by
  rw [← levels_eq_iff, show levels t = [t] from List.splitOn_eq_singleton ht]

/-! ## The result of the reads -/

/-- A topic without further levels: only `#` is left to match. -/
theorem matchLevels_nil (filter : Str) :
    matchLevels (levels filter) [] = decide (filter = ['#']) := by
  obtain ⟨f, fs, hlevels⟩ := List.exists_cons_of_ne_nil (levels_ne_nil filter)
  have hiff : (f = ['#'] ∧ fs = []) ↔ filter = ['#'] := by
    rw [← levels_eq_singleton (s := filter) (by decide), hlevels, List.cons.injEq]
  rw [hlevels]
  unfold matchLevels
  by_cases h : f = ['#'] ∧ fs = []
  · rw [if_pos h, decide_eq_true (hiff.mp h)]
  · rw [if_neg h, decide_eq_false (mt hiff.mpr h)]

/-- The first check of a round is for `#`. -/
theorem not_hash (h : filter ≠ ['#']) : ¬(filter.length = 1 ∧ filter[0]? = some '#') := by
  rintro ⟨hlen, hget⟩
  obtain ⟨ch, rfl⟩ := List.length_eq_one_iff.mp hlen
  simp at hget
  exact h (by rw [hget])

theorem isTopicMatchRead_nil {fuel : Nat} (hne : filter ≠ []) :
    isTopicMatchRead (fuel + 1) filter [] = some (matchLevels (levels filter) []) := by
  rw [matchLevels_nil]
  unfold isTopicMatchRead
  by_cases h : filter = ['#']
  · subst h
    rfl
  · rw [if_neg (not_hash h), decide_eq_false h]
    simpa using hne

/-- The first character tells whether a level is `+`. -/
theorem head_of_level (l rest : Str) :
    ∃ ch, (l ++ '/' :: rest)[0]? = some ch ∧ ((ch = '+' ∧ l.length = 1) ↔ l = ['+']) := by
  cases l with
  | nil => exact ⟨'/', rfl, by simp⟩
  | cons ch l =>
    refine ⟨ch, rfl, ?_⟩
    rw [List.length_cons, List.cons.injEq]
    simp

/-- One round on a filter that goes on behind a separator. -/
theorem level_round (l rest topic : Str) (t : Nat) (next : Option Bool) :
    ((l ++ '/' :: rest)[0]?.bind fun ch =>
      if (ch = '+' ∧ l.length = 1) ∨ (l ++ '/' :: rest).take l.length = topic.take t then next
      else some false) = if l = ['+'] ∨ l = topic.take t then next else some false := by
  obtain ⟨ch, hget, hiff⟩ := head_of_level l rest
  rw [hget, Option.bind_some, List.take_left]
  by_cases h : l = ['+'] ∨ l = topic.take t
  · rw [if_pos h, if_pos (h.imp_left hiff.mpr)]
  · rw [if_neg h, if_neg fun h' => h (h'.imp_left hiff.mp)]

/-! ### The last level of the filter or the topic -/

theorem readsPastEnd_nil (fs : List Str) : readsPastEnd fs [] = false := by
  cases fs with
  | nil => rfl
  | cons f fs => cases fs <;> rfl

/-- Equal levels in front do not matter for what is read behind the end. -/
theorem readsPastEnd_cons {f t : Str} (h : fs ≠ [] ∨ ts ≠ []) :
    readsPastEnd (f :: fs) (t :: ts) = ((f = ['+'] || f = t) && readsPastEnd fs ts) := by
  cases fs with
  | nil =>
    cases ts with
    | nil => simp at h
    | cons t' ts => rfl
  | cons f' fs =>
    cases ts with
    | nil => rfl
    | cons t' ts => rfl

/-- Nor for a missed empty level. -/
theorem missesEmptyLevel_cons {f t : Str} (h : ts ≠ []) :
    missesEmptyLevel (f :: fs) (t :: ts) = ((f = ['+'] || f = t) && missesEmptyLevel fs ts) := by
  cases ts with
  | nil => exact absurd rfl h
  | cons t' ts => rfl

/-- The match goes level by level. -/
theorem matchLevels_cons {f t : Str} (h : ¬(f = ['#'] ∧ fs = [])) :
    matchLevels (f :: fs) (t :: ts) = ((f = ['+'] || f = t) && matchLevels fs ts) := by
  conv_lhs => unfold matchLevels
  rw [if_neg h]

theorem not_hash_level (l rest : Str) : ¬(l = ['#'] ∧ levels rest = []) :=
  fun h => levels_ne_nil rest h.2

/-- The topic is one empty level. -/
theorem isTopicMatch_emptyLevel (hhash : filter ≠ ['#']) :
    readsPastEnd (levels filter) [[]] = false ∧
      (matchLevels (levels filter) [[]] && !missesEmptyLevel (levels filter) [[]]) =
        filter.isEmpty := by
  rcases levels_cases filter with ⟨hsep, hlevels⟩ | ⟨l, rest, hsep, rfl, hlevels⟩
  · rw [hlevels]
    have hlast : ¬(filter = ['#'] ∧ ([] : List Str) = []) := fun h => hhash h.1
    refine ⟨by simp [readsPastEnd], ?_⟩
    rw [matchLevels_cons hlast]
    by_cases hplus : filter = ['+']
    · subst hplus
      rfl
    · cases filter with
      | nil => rfl
      | cons ch filter => simp [hplus]
  · rw [hlevels]
    refine ⟨?_, ?_⟩
    · rw [readsPastEnd_cons (Or.inl (levels_ne_nil rest)), readsPastEnd_nil, Bool.and_false]
    · rw [matchLevels_cons (not_hash_level l rest)]
      -- what is left of the filter has to be `#`, and these are the cases that are missed
      have hrest : matchLevels (levels rest) [] = decide (levels rest = [['#']]) := by
        rw [matchLevels_nil, decide_eq_decide, levels_eq_singleton (by decide)]
      have hempty : (l ++ '/' :: rest).isEmpty = false := by simp
      rw [hrest, hempty]
      unfold missesEmptyLevel
      by_cases hhash : levels rest = [['#']]
      · by_cases hplus : l = ['+']
        · simp [hhash, hplus]
        · cases l with
          | nil => simp
          | cons ch l => simp [hplus]
      · simp [hhash]

/-! ### One round -/

/-- What the reads come to, level by level. -/
def readLevels (fs ts : List Str) : Option Bool :=
  if readsPastEnd fs ts then none else some (matchLevels fs ts && !missesEmptyLevel fs ts)

section Round

variable {fuel : Nat} {l rest m more : Str}

/-- The last levels of both. -/
theorem isTopicMatchRead_last (hhash : filter ≠ ['#']) (hne : topic ≠ []) (hsep : '/' ∉ filter)
    (htsep : '/' ∉ topic) :
    isTopicMatchRead (fuel + 1) filter topic = readLevels [filter] [topic] := by
  have hlast : ¬(filter = ['#'] ∧ ([] : List Str) = []) := fun h => hhash h.1
  have hempty : topic.isEmpty = false := List.isEmpty_eq_false_iff.mpr hne
  unfold isTopicMatchRead readLevels
  rw [if_neg (not_hash hhash), hempty, if_neg Bool.false_ne_true, findSep_eq_none hsep,
    findSep_eq_none htsep, matchLevels_cons hlast]
  cases filter with
  | nil => simp [readsPastEnd, hempty]
  | cons ch filter =>
    have hplus : (ch = '+' ∧ (ch :: filter).length = 1) ↔ ch :: filter = ['+'] := by
      rw [List.length_cons, List.cons.injEq]
      simp
    have hget : (ch :: filter)[0]? = some ch := rfl
    simp only [hget, Option.bind_some, hplus]
    simp [readsPastEnd, missesEmptyLevel, matchLevels, hempty]

/-- The topic goes on behind the last level of the filter. -/
theorem isTopicMatchRead_topic (hhash : filter ≠ ['#']) (hsep : '/' ∉ filter) (htsep : '/' ∉ m) :
    isTopicMatchRead (fuel + 1) filter (m ++ '/' :: more) =
      readLevels [filter] (m :: levels more) := by
  have hlast : ¬(filter = ['#'] ∧ ([] : List Str) = []) := fun h => hhash h.1
  have hmore := levels_ne_nil more
  have hleft : matchLevels [] (levels more) = false := by
    unfold matchLevels
    simpa using hmore
  unfold isTopicMatchRead readLevels
  rw [if_neg (not_hash hhash), if_neg (by simp), findSep_eq_none hsep, findSep_append htsep,
    matchLevels_cons hlast, hleft, readsPastEnd_cons (Or.inr hmore)]
  simp [readsPastEnd]

theorem not_hash_append (l rest : Str) : l ++ '/' :: rest ≠ ['#'] := by
  intro h
  have hmem : '/' ∈ ['#'] := h ▸ List.mem_append_right l List.mem_cons_self
  exact absurd hmem (by decide)

/-- The filter goes on behind the last level of the topic. -/
theorem isTopicMatchRead_filter (hne : topic ≠ []) (hsep : '/' ∉ l) (htsep : '/' ∉ topic) :
    isTopicMatchRead (fuel + 2) (l ++ '/' :: rest) topic =
      readLevels (l :: levels rest) [topic] := by
  have hempty : topic.isEmpty = false := List.isEmpty_eq_false_iff.mpr hne
  have hnil : missesEmptyLevel (l :: levels rest) [topic] = false := by
    unfold missesEmptyLevel
    rw [hempty, Bool.false_and]
  have hround := level_round l rest topic topic.length (isTopicMatchRead (fuel + 1) rest [])
  rw [List.take_length] at hround
  unfold isTopicMatchRead readLevels
  rw [if_neg (not_hash (not_hash_append l rest)), hempty, if_neg Bool.false_ne_true, findSep_append hsep,
    findSep_eq_none htsep, matchLevels_cons (not_hash_level l rest), hnil,
    readsPastEnd_cons (Or.inl (levels_ne_nil rest)), readsPastEnd_nil]
  by_cases hrest : rest = []
  · have hleft : matchLevels (levels rest) [] = false := by
      rw [matchLevels_nil, hrest]
      rfl
    rw [hleft]
    simp [hrest]
  · have hlong : ¬(l ++ '/' :: rest).length ≤ l.length + 1 := by
      have hpos := List.length_pos_iff.mpr hrest
      rw [List.length_append, List.length_cons]
      omega
    have hdrop : (l ++ '/' :: rest).drop (l.length + 1) = rest := by simp
    dsimp only
    rw [if_neg hlong, hdrop, hround, isTopicMatchRead_nil hrest]
    by_cases h : l = ['+'] ∨ l = topic
    · rw [if_pos h]
      simp [h]
    · rw [if_neg h]
      simp [h]

/-- Both go on. -/
theorem isTopicMatchRead_both (hsep : '/' ∉ l) (htsep : '/' ∉ m)
    (ih : isTopicMatchRead fuel rest more = readLevels (levels rest) (levels more)) :
    isTopicMatchRead (fuel + 1) (l ++ '/' :: rest) (m ++ '/' :: more) =
      readLevels (l :: levels rest) (m :: levels more) := by
  have hround := level_round l rest (m ++ '/' :: more) m.length (isTopicMatchRead fuel rest more)
  have htake : (m ++ '/' :: more).take m.length = m := by simp
  have hdrop : (l ++ '/' :: rest).drop (l.length + 1) = rest := by simp
  have hdrop' : (m ++ '/' :: more).drop (m.length + 1) = more := by simp
  rw [htake] at hround
  unfold isTopicMatchRead readLevels
  rw [if_neg (not_hash (not_hash_append l rest)), if_neg (by simp), findSep_append hsep,
    findSep_append htsep, matchLevels_cons (not_hash_level l rest),
    readsPastEnd_cons (Or.inl (levels_ne_nil rest)), missesEmptyLevel_cons (levels_ne_nil more)]
  dsimp only
  rw [hdrop, hdrop', htake, hround, ih]
  unfold readLevels
  by_cases h : l = ['+'] ∨ l = m
  · have hl : (decide (l = ['+']) || decide (l = m)) = true := by simpa using h
    rw [if_pos h, hl, Bool.true_and, Bool.true_and, Bool.true_and]
  · rw [if_neg h]
    simp [h]

end Round

/-- The reads of `isTopicMatch` in terms of the levels. -/
theorem isTopicMatchRead_eq {fuel : Nat} (hfuel : filter.length < fuel) :
    isTopicMatchRead fuel filter topic = readLevels (levels filter) (levels topic) := by
  induction fuel generalizing filter topic with
  | zero => omega
  | succ fuel ih =>
    by_cases hhash : filter = ['#']
    · subst hhash
      obtain ⟨t, ts, hts⟩ := List.exists_cons_of_ne_nil (levels_ne_nil topic)
      rw [hts, show levels ['#'] = [['#']] from rfl]
      unfold readLevels
      cases ts <;> simp [isTopicMatchRead, readsPastEnd, missesEmptyLevel, matchLevels]
    by_cases hne : topic = []
    · subst hne
      obtain ⟨hread, hmatch⟩ := isTopicMatch_emptyLevel hhash
      unfold isTopicMatchRead readLevels
      rw [if_neg (not_hash hhash), show levels ([] : Str) = [[]] from rfl, hread, hmatch]
      rfl
    -- a level of the filter is dropped in each round
    rcases levels_cases filter with ⟨hsep, hf⟩ | ⟨l, rest, hsep, rfl, hf⟩
    · rcases levels_cases topic with ⟨htsep, ht⟩ | ⟨m, more, htsep, rfl, ht⟩
      · rw [hf, ht]
        exact isTopicMatchRead_last hhash hne hsep htsep
      · rw [hf, ht]
        exact isTopicMatchRead_topic hhash hsep htsep
    · have hlen : rest.length < fuel := by
        simp at hfuel
        omega
      rcases levels_cases topic with ⟨htsep, ht⟩ | ⟨m, more, htsep, rfl, ht⟩
      · obtain ⟨fuel, rfl⟩ : ∃ n, fuel = n + 1 := ⟨fuel - 1, by omega⟩
        rw [hf, ht]
        exact isTopicMatchRead_filter hne hsep htsep
      · rw [hf, ht]
        exact isTopicMatchRead_both hsep htsep (ih hlen)

/-! ## The specification -/

/-- What is missed would match. -/
theorem matchLevels_of_misses (h : missesEmptyLevel fs ts = true) : matchLevels fs ts = true := by
  induction fs generalizing ts with
  | nil => cases ts <;> cases h
  | cons f fs ih =>
    by_cases hhash : f = ['#'] ∧ fs = []
    · unfold matchLevels
      rw [if_pos hhash]
    cases ts with
    | nil => cases h
    | cons t ts =>
      rw [matchLevels_cons hhash]
      by_cases hts : ts = []
      · subst hts
        unfold missesEmptyLevel at h
        rw [Bool.and_eq_true, Bool.or_eq_true, Bool.and_eq_true, Bool.and_eq_true, List.isEmpty_iff,
          List.isEmpty_iff, Bool.or_eq_true, decide_eq_true_eq, decide_eq_true_eq, decide_eq_true_eq]
          at h
        rcases h with ⟨rfl, ⟨rfl, rfl | rfl⟩ | ⟨rfl, rfl⟩⟩ <;> rfl
      · rw [missesEmptyLevel_cons hts, Bool.and_eq_true] at h
        rw [h.1, ih h.2]
        rfl

/-- `isTopicMatch` reads only characters of its strings and tells whether the filter matches level by
level, unless an empty last level comes in its way: one of the topic that `+`, `+/#` or `/#` of the
filter would match, or one of the filter where the topic has its last level. -/
theorem isTopicMatch_exact (hfilter : filter ≠ []) (htopic : topic ≠ []) :
    isTopicMatchChecked filter topic = some (matchLevels (levels filter) (levels topic)) ↔
      missesEmptyLevel (levels filter) (levels topic) = false ∧
        readsPastEnd (levels filter) (levels topic) = false := by
  have hempty : (filter.isEmpty || topic.isEmpty) = false := by
    rw [Bool.or_eq_false_iff, List.isEmpty_eq_false_iff, List.isEmpty_eq_false_iff]
    exact ⟨hfilter, htopic⟩
  unfold isTopicMatchChecked
  rw [hempty, if_neg (by simp), isTopicMatchRead_eq (Nat.lt_succ_self _)]
  unfold readLevels
  cases hread : readsPastEnd (levels filter) (levels topic) with
  | true => simp
  | false =>
    cases hmiss : missesEmptyLevel (levels filter) (levels topic) with
    | true => simp [matchLevels_of_misses hmiss]
    | false => simp

theorem isTopicMatch_exact_levels :
    isTopicMatchChecked ['a', '/', '+', '/', '#'] ['a', '/', '/', 'b'] =
      some (matchLevels (levels ['a', '/', '+', '/', '#']) (levels ['a', '/', '/', 'b'])) :=
  (isTopicMatch_exact (by decide) (by decide)).mpr (by decide)

/-- The filter `a/+` does not match the topic `a/`, and the filter `a/` is read past its end for the
topic `a/b`. -/
theorem isTopicMatch_misses :
    isTopicMatchChecked ['a', '/', '+'] ['a', '/'] = some false ∧
      matchLevels (levels ['a', '/', '+']) (levels ['a', '/']) = true ∧
      isTopicMatchChecked ['a', '/'] ['a', '/', 'b'] = none := by decide

/-! ## The match as the reception uses it -/

theorem splitTopic_eq_none {s : Str} (h : '/' ∉ s) : splitTopic s = none := by
  unfold splitTopic
  have hdrop : s.dropWhile (· != '/') = [] := by
    rw [List.dropWhile_eq_nil_iff]
    intro x hx
    have hne : x ≠ '/' := fun heq => h (heq ▸ hx)
    simpa using hne
  rw [hdrop]

/-- The text is split at the first separator. -/
theorem splitTopic_append {l rest : Str} (h : '/' ∉ l) :
    splitTopic (l ++ '/' :: rest) = some (l, rest) := by
  have hall : ∀ x ∈ l, (x != '/') = true := fun x hx => by
    have hne : x ≠ '/' := fun heq => h (heq ▸ hx)
    simpa using hne
  unfold splitTopic
  rw [List.dropWhile_append_of_pos hall, List.takeWhile_append_of_pos hall]
  simp

/-- The result is that of the reads; a read behind the end finds the terminator. -/
theorem isTopicMatchFrom_eq (fuel : Nat) (filter topic : Str) :
    isTopicMatchFrom fuel filter topic = (isTopicMatchRead fuel filter topic).getD false := by
  induction fuel generalizing filter topic with
  | zero => rfl
  | succ fuel ih =>
    unfold isTopicMatchFrom isTopicMatchRead
    by_cases hhash : filter = ['#']
    · subst hhash
      rfl
    have hhead : ¬(filter.length = 1 ∧ filter[0]? = some '#') := by
      rintro ⟨hlen, hget⟩
      obtain ⟨ch, rfl⟩ := List.length_eq_one_iff.mp hlen
      simp at hget
      exact hhash (by rw [hget])
    rw [if_neg hhash, if_neg hhead]
    -- no topic is left
    by_cases hempty : topic = []
    · subst hempty
      cases filter <;> rfl
    have htopic : ¬topic.isEmpty = true := by simpa using hempty
    rw [if_neg hempty, if_neg htopic]
    -- four cases: the filter or the topic may be in its last level
    rcases levels_cases filter with ⟨hsep, -⟩ | ⟨l, rest, hsep, hfilter, -⟩
    · rw [findSep_eq_none hsep, splitTopic_eq_none hsep]
      rcases levels_cases topic with ⟨htsep, -⟩ | ⟨m, more, htsep, hm, -⟩
      · rw [findSep_eq_none htsep, splitTopic_eq_none htsep]
        cases filter with
        | nil =>
          have hne : ([] : Str) ≠ topic := Ne.symm hempty
          simp [hne]
        | cons ch filter =>
          have hplus : (ch = '+' ∧ (ch :: filter).length = 1) ↔ ch :: filter = ['+'] := by
            rw [List.length_cons, List.cons.injEq]
            simp
          have hget : (ch :: filter)[0]? = some ch := rfl
          simp only [hget, Option.bind_some, hplus, Option.getD_some]
          simp
      · rw [hm, findSep_append htsep, splitTopic_append htsep]
        rfl
    · rw [hfilter, findSep_append hsep, splitTopic_append hsep]
      have hdrop : (l ++ '/' :: rest).drop (l.length + 1) = rest := by simp
      rcases levels_cases topic with ⟨htsep, -⟩ | ⟨m, more, htsep, hm, -⟩
      · rw [findSep_eq_none htsep, splitTopic_eq_none htsep]
        have hround := level_round l rest topic topic.length (isTopicMatchRead fuel rest [])
        rw [List.take_length] at hround
        have hlong : (l ++ '/' :: rest).length ≤ l.length + 1 ↔ rest = [] := by
          rw [List.length_append, List.length_cons, ← List.length_eq_zero_iff]
          omega
        dsimp only
        rw [hdrop, hround, ih]
        by_cases hrest : rest = []
        · rw [if_pos hrest, if_pos (hlong.mpr hrest)]
          rfl
        · rw [if_neg hrest, if_neg (mt hlong.mp hrest)]
          by_cases h : l = ['+'] ∨ l = topic
          · rw [if_pos h, if_pos (by simpa using h)]
          · rw [if_neg h, if_neg (by simpa using h)]
            rfl
      · have hround := level_round l rest topic m.length (isTopicMatchRead fuel rest more)
        have htake : topic.take m.length = m := by
          rw [hm]
          simp
        have hdrop' : topic.drop (m.length + 1) = more := by
          rw [hm]
          simp
        rw [htake] at hround
        rw [hm, findSep_append htsep, splitTopic_append htsep, ← hm]
        dsimp only
        rw [hdrop, hdrop', htake, hround, ih]
        by_cases h : l = ['+'] ∨ l = m
        · rw [if_pos h, if_pos (by simpa using h)]
        · rw [if_neg h, if_neg (by simpa using h)]
          rfl

/-- What is read behind the end would not match. -/
theorem not_matchLevels_of_reads (h : readsPastEnd fs ts = true) : matchLevels fs ts = false := by
  induction fs generalizing ts with
  | nil => cases ts <;> cases h
  | cons f fs ih =>
    cases ts with
    | nil =>
      rw [readsPastEnd_nil] at h
      cases h
    | cons t ts =>
      by_cases hlast : fs ≠ [] ∨ ts ≠ []
      · rw [readsPastEnd_cons hlast, Bool.and_eq_true] at h
        have hhash : ¬(f = ['#'] ∧ fs = []) := by
          rintro ⟨-, rfl⟩
          cases ts <;> cases h.2
        rw [matchLevels_cons hhash, ih h.2, Bool.and_false]
      · rw [not_or, not_not, not_not] at hlast
        obtain ⟨rfl, rfl⟩ := hlast
        have h : f.isEmpty = true ∧ (!t.isEmpty) = true := Bool.and_eq_true_iff.mp h
        rw [List.isEmpty_iff] at h
        obtain ⟨rfl, ht⟩ := h
        have hne : ([] : Str) ≠ t := fun heq => by
          rw [← heq] at ht
          cases ht
        rw [matchLevels_cons (by simp)]
        simp [hne]

/-- The match in terms of the levels. -/
theorem isTopicMatch_eq (filter topic : Str) :
    isTopicMatch filter topic = (matchLevels (levels filter) (levels topic) &&
      !missesEmptyLevel (levels filter) (levels topic)) := by
  unfold isTopicMatch
  rw [isTopicMatchFrom_eq, isTopicMatchRead_eq (Nat.lt_succ_self _)]
  unfold readLevels
  cases hread : readsPastEnd (levels filter) (levels topic) with
  | true =>
    rw [not_matchLevels_of_reads hread]
    rfl
  | false => rfl

end Mqtt5
