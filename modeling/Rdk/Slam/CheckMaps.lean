import Rdk.Rtkutils.Ntrip

namespace Rdk.Go

open Rdk.Rtkutils

-- `strings.Index(s, substr)`: the byte offset of the first instance of `substr` in `s`, or -1.
def Strings.index (s substr : GoString) : Int :=
  match s with
  | [] => if substr = [] then 0 else -1
  | c :: rest =>
    if substr.isPrefixOf (c :: rest) then 0
    else
      let i := Strings.index rest substr
      if i < 0 then -1 else i + 1

-- The slice expression `s[lo:hi]`, or `none` where Go panics: unless `0 ≤ lo ≤ hi ≤ len(s)`.
def slice (s : GoString) (lo hi : Int) : Option GoString :=
  if 0 ≤ lo ∧ lo ≤ hi ∧ hi ≤ s.length then some ((s.drop lo.toNat).take (hi - lo).toNat)
  else none

-- `filepath.Ext` on the reversed path: the bytes after the last `.` of the last element.
def Filepath.extRev : GoString → GoString → GoString
  | [], _ => []
  | c :: rest, acc => if c = 47 then [] else if c = 46 then c :: acc else extRev rest (c :: acc)

-- `filepath.Ext(path)`: the suffix from the final dot of the final element, or empty.
def Filepath.ext (path : GoString) : GoString := Filepath.extRev path.reverse []

theorem slice_eq_none {s : GoString} {lo hi : Int} (h : hi < lo) : slice s lo hi = none :=
  if_neg fun ⟨_, hle, _⟩ => absurd hle (Int.not_le.mpr h)

theorem slice_append (a b c : GoString) : slice (a ++ b ++ c) a.length (a ++ b).length = some b := by
  have hlen : ((a ++ b).length - a.length : Int).toNat = b.length := by simp
  rw [slice, if_pos (by simp only [List.length_append, Nat.cast_add]; omega), hlen,
    Int.toNat_natCast, List.append_assoc, List.drop_left, List.take_left]

-- Where `substr` occurs in `s`, it is no longer than `s`.
theorem Strings.length_le_of_index_nonneg {s substr : GoString} (h : 0 ≤ Strings.index s substr) :
    substr.length ≤ s.length := by
  induction s with
  | nil =>
    unfold Strings.index at h
    split at h
    · simp_all
    · omega
  | cons c s ih =>
    unfold Strings.index at h
    split at h
    · exact (List.isPrefixOf_iff_prefix.mp ‹_›).length_le
    · dsimp only at h
      split at h
      · omega
      · exact (ih (by omega)).trans (Nat.le_succ _)

-- The first instance of `substr` within `s` stays the first once `s` is extended.
theorem Strings.index_append_of_nonneg {s substr : GoString} (t : GoString)
    (h : 0 ≤ Strings.index s substr) : Strings.index (s ++ t) substr = Strings.index s substr := by
  induction s with
  | nil =>
    have hnil : substr = [] := by
      unfold Strings.index at h
      split at h
      · assumption
      · omega
    subst hnil
    cases t <;> simp [Strings.index]
  | cons c s ih =>
    by_cases hp : substr <+: c :: s
    · have hp' : substr <+: c :: (s ++ t) := hp.trans (List.prefix_append _ _)
      simp [Strings.index, hp, hp']
    · have hs : 0 ≤ Strings.index s substr := by
        simp only [Strings.index, List.isPrefixOf_iff_prefix, hp, if_false] at h
        split at h <;> omega
      have hp' : ¬substr <+: c :: (s ++ t) := by
        have hlen := Strings.length_le_of_index_nonneg hs
        rw [List.prefix_iff_eq_take] at hp ⊢
        rwa [← List.cons_append, List.take_append_of_le_length (by simp; omega)]
      simp [Strings.index, hp, hp', ih hs]

-- An instance first found past a prefix `a` is the first instance in what follows `a`.
theorem Strings.index_of_index_append {a b substr : GoString} {k : Int} (hk : 0 ≤ k)
    (h : Strings.index (a ++ b) substr = a.length + k) : Strings.index b substr = k := by
  induction a with
  | nil => simpa using h
  | cons c a ih =>
    apply ih
    simp only [List.cons_append, Strings.index, List.length_cons, List.append_eq] at h
    split at h
    · omega
    · split at h <;> omega

end Rdk.Go

namespace Rdk.Slam

open Rdk.Go Rdk.Rtkutils

-- A `fs.DirEntry` as the callback reads it.
structure DirEntry where
  name : GoString
  isDir : Bool

-- One call `filepath.WalkDir` makes of the callback: the path, the entry (`none` for a nil
-- entry, as for a root that cannot be read), and the error it reports.
structure Visit where
  path : GoString
  entry : Option DirEntry
  err : Option String

-- The `time` functions `checkMaps` uses on timestamps of type `T`: `time.Time{}`, `IsZero`,
-- `After`, `time.Parse(slamTimeFormat, ·)` and `UTC().Format(slamTimeFormat)`.
structure Clock (T : Type) where
  zero : T
  isZero : T → Bool
  after : T → T → Bool
  parse : GoString → Option T
  format : T → GoString

def mapExt : GoString := ascii ".osa"

section

variable {T : Type} (clock : Clock T)

-- The callback of `checkMaps` on `(mapTimestamp, mapPath)`; `none` where it panics. It never
-- returns an error, whatever error `WalkDir` reports.
def walkFn (st : T × GoString) (v : Visit) : Option (T × GoString) :=
  match v.entry with
  | none => none
  | some entry =>
    if !entry.isDir && Filepath.ext v.path = mapExt then
      let timestampLoc := Strings.index entry.name (ascii "_data_") + 6
      if timestampLoc ≠ -1 + 6 then
        match slice entry.name timestampLoc (Strings.index entry.name mapExt) with
        | none => none
        | some stamp =>
          match clock.parse stamp with
          | none => some st
          | some timestamp =>
            if clock.after timestamp st.1 then
              (slice v.path 0 (Strings.index v.path mapExt)).map fun mapPath => (timestamp, mapPath)
            else some st
      else some st
    else some st

-- `slamService.checkMaps` over the calls `WalkDir` makes of its callback, or `none` where it
-- panics. As the callback never returns an error, neither does `WalkDir`, and the result is the
-- timestamp and the map path.
def checkMaps (visits : List Visit) : Option (GoString × GoString) :=
  (visits.foldlM (walkFn clock) (clock.zero, [])).map fun (mapTimestamp, mapPath) =>
    if clock.isZero mapTimestamp then ([], []) else (clock.format mapTimestamp, mapPath)

-- A panic stops the walk: nothing after it runs.
theorem foldlM_walkFn_panic {pre post : List Visit} {v : Visit}
    (hv : ∀ st, walkFn clock st v = none) (st : T × GoString) :
    (pre ++ v :: post).foldlM (walkFn clock) st = none := by
  induction pre generalizing st with
  | nil => simp [hv]
  | cons w pre ih =>
    simp only [List.cons_append, List.foldlM_cons]
    cases walkFn clock st w with
    | none => rfl
    | some st' => exact ih st'

-- What a visit offers the walk when it does not panic: the timestamp and the map path of a map
-- file whose name holds `_data_` and a timestamp that parses.
def mapCandidate (v : Visit) : Option (T × GoString) :=
  match v.entry with
  | none => none
  | some entry =>
    if !entry.isDir && Filepath.ext v.path = mapExt then
      let timestampLoc := Strings.index entry.name (ascii "_data_") + 6
      if timestampLoc ≠ -1 + 6 then
        (slice entry.name timestampLoc (Strings.index entry.name mapExt)).bind fun stamp =>
          (clock.parse stamp).bind fun timestamp =>
            (slice v.path 0 (Strings.index v.path mapExt)).map fun mapPath => (timestamp, mapPath)
      else none
    else none

-- The comparison of the callback: a candidate replaces the map found so far only when it is
-- strictly after it.
def laterMap (st : T × GoString) (c : T × GoString) : T × GoString :=
  if clock.after c.1 st.1 then c else st

-- Where the callback does not panic, it is the comparison against what the visit offers.
theorem walkFn_of_ne_none {st : T × GoString} {v : Visit} (h : walkFn clock st v ≠ none) :
    walkFn clock st v = some ((mapCandidate clock v).elim st (laterMap clock st)) := by
  unfold walkFn at h ⊢
  unfold mapCandidate
  rcases v with ⟨path, _ | ⟨name, isDir⟩, err⟩
  · exact absurd rfl h
  dsimp only at h ⊢
  by_cases hmap : (!isDir && decide (Filepath.ext path = mapExt)) = true
  · by_cases hdata : Strings.index name (ascii "_data_") + 6 ≠ -1 + 6
    · simp only [hmap, hdata, ne_eq, not_false_eq_true, if_true] at h ⊢
      cases hstamp : slice name (Strings.index name (ascii "_data_") + 6)
          (Strings.index name mapExt) with
      | none => simp [hstamp] at h
      | some stamp =>
        simp only [hstamp, Option.some_bind] at h ⊢
        cases hparse : clock.parse stamp with
        | none => rfl
        | some timestamp =>
          simp only [hparse, Option.some_bind] at h ⊢
          -- the map path is only cut when the candidate is later
          by_cases hafter : clock.after timestamp st.1 = true
          · cases hpath : slice path 0 (Strings.index path mapExt) with
            | none => simp [hpath, hafter] at h
            | some mapPath => simp [laterMap, hafter]
          · cases slice path 0 (Strings.index path mapExt) <;> simp [laterMap, hafter]
    · simp only [hmap, hdata, if_true, if_false, Option.elim_none]
  · simp only [hmap, if_false, Bool.false_eq_true, Option.elim_none]

-- A walk in which no visit panics ends on the comparison folded over the candidates, in order.
theorem foldlM_walkFn {visits : List Visit} (h : ∀ v ∈ visits, ∀ st, walkFn clock st v ≠ none)
    (st : T × GoString) :
    visits.foldlM (walkFn clock) st =
      some ((visits.filterMap (mapCandidate clock)).foldl (laterMap clock) st) := by
  induction visits generalizing st with
  | nil => rfl
  | cons v visits ih =>
    rw [List.foldlM_cons, walkFn_of_ne_none clock (h v (List.mem_cons_self _ _) st),
      Option.bind_eq_bind, Option.some_bind, ih (fun w hw => h w (List.mem_cons_of_mem _ hw))]
    cases hc : mapCandidate clock v <;> simp [List.filterMap_cons, hc]

-- With `After` a strict order of the instants `rank` gives, the comparison folded from `st` ends
-- on `st`, when no candidate is after it, or on the first candidate of the latest instant.
theorem foldl_laterMap {rank : T → Int} (hafter : ∀ a b, clock.after a b = decide (rank b < rank a))
    (cands : List (T × GoString)) (st : T × GoString) :
    (cands.foldl (laterMap clock) st = st ∧ ∀ c ∈ cands, rank c.1 ≤ rank st.1) ∨
    ∃ pre c post, cands = pre ++ c :: post ∧ rank st.1 < rank c.1 ∧
      (∀ d ∈ pre, rank d.1 < rank c.1) ∧ (∀ d ∈ post, rank d.1 ≤ rank c.1) ∧
      cands.foldl (laterMap clock) st = c := by
  induction cands generalizing st with
  | nil => exact .inl ⟨rfl, nofun⟩
  | cons c₀ rest ih =>
    simp only [List.foldl_cons, laterMap, hafter, decide_eq_true_eq]
    by_cases hlater : rank st.1 < rank c₀.1
    · -- `c₀` replaces `st`; the rest of the fold starts from it
      simp only [hlater, if_true]
      rcases ih c₀ with ⟨hfold, hall⟩ | ⟨pre, c, post, rfl, hlt, hpre, hpost, hfold⟩
      · exact .inr ⟨[], c₀, rest, rfl, hlater, nofun, hall, hfold⟩
      · exact .inr ⟨c₀ :: pre, c, post, rfl, by omega,
          fun d hd => (List.mem_cons.mp hd).elim (· ▸ hlt) (hpre d), hpost, hfold⟩
    · simp only [hlater, if_false]
      rcases ih st with ⟨hfold, hall⟩ | ⟨pre, c, post, rfl, hlt, hpre, hpost, hfold⟩
      · exact .inl ⟨hfold, fun d hd => (List.mem_cons.mp hd).elim (· ▸ by omega) (hall d)⟩
      · exact .inr ⟨c₀ :: pre, c, post, rfl, hlt,
          fun d hd => (List.mem_cons.mp hd).elim (· ▸ by omega) (hpre d), hpost, hfold⟩

-- A candidate strictly later than the start and than every other candidate is where the
-- comparison ends.
theorem foldl_laterMap_of_latest {rank : T → Int}
    (hafter : ∀ a b, clock.after a b = decide (rank b < rank a)) {pre post : List (T × GoString)}
    {c st : T × GoString} (hst : rank st.1 < rank c.1)
    (hothers : ∀ d ∈ pre ++ post, rank d.1 < rank c.1) :
    (pre ++ c :: post).foldl (laterMap clock) st = c := by
  rcases foldl_laterMap clock hafter (pre ++ c :: post) st with
    ⟨-, hall⟩ | ⟨pre', c', post', hc, -, hpre, hpost, hfold⟩
  · exact absurd (hall c (by simp)) (by omega)
  · rw [hfold]
    by_contra hne
    -- `c'` is one of the others, so it is before `c`; yet `c` is not after `c'`
    have hc' : c' ∈ pre ++ post := by
      have hmem : c' ∈ pre ++ c :: post := by rw [hc]; simp
      simp only [List.mem_append, List.mem_cons] at hmem ⊢
      rcases hmem with h | h | h
      exacts [.inl h, absurd h hne, .inr h]
    have hlt := hothers c' hc'
    have hmem : c ∈ pre' ++ c' :: post' := by rw [← hc]; simp
    simp only [List.mem_append, List.mem_cons] at hmem
    rcases hmem with h | h | h
    · exact absurd (hpre c h) (by omega)
    · exact hne h.symm
    · exact absurd (hpost c h) (by omega)

-- On a walk in which no visit panics, `checkMaps` reads the comparison folded over the
-- candidates from the zero time.
theorem checkMaps_of_walkFn_ne_none {visits : List Visit}
    (h : ∀ v ∈ visits, ∀ st, walkFn clock st v ≠ none) :
    checkMaps clock visits =
      some (if clock.isZero ((visits.filterMap (mapCandidate clock)).foldl (laterMap clock)
          (clock.zero, [])).1 then ([], [])
        else (clock.format ((visits.filterMap (mapCandidate clock)).foldl (laterMap clock)
            (clock.zero, [])).1,
          ((visits.filterMap (mapCandidate clock)).foldl (laterMap clock) (clock.zero, [])).2)) := by
  simp only [checkMaps, foldlM_walkFn clock h, Option.map_some']

-- Take `After` to compare instants, ranked by `rank`, and `IsZero` to hold of the zero time and
-- of no later instant. On a walk in which no visit panics, `checkMaps` returns no map when no map
-- file's timestamp is after the zero time, and otherwise the timestamp and path of the first map
-- file, in the walk's order, whose timestamp is the latest.
theorem checkMaps_latest {rank : T → Int}
    (hafter : ∀ a b, clock.after a b = decide (rank b < rank a))
    (hzero : clock.isZero clock.zero = true)
    (hnonzero : ∀ t, rank clock.zero < rank t → clock.isZero t = false)
    {visits : List Visit} (h : ∀ v ∈ visits, ∀ st, walkFn clock st v ≠ none) :
    let cands := visits.filterMap (mapCandidate clock)
    (checkMaps clock visits = some ([], []) ∧ ∀ c ∈ cands, rank c.1 ≤ rank clock.zero) ∨
    ∃ pre c post, cands = pre ++ c :: post ∧ rank clock.zero < rank c.1 ∧
      (∀ d ∈ pre, rank d.1 < rank c.1) ∧ (∀ d ∈ post, rank d.1 ≤ rank c.1) ∧
      checkMaps clock visits = some (clock.format c.1, c.2) := by
  intro cands
  have hcheck := checkMaps_of_walkFn_ne_none clock h
  rcases foldl_laterMap clock hafter cands (clock.zero, []) with
    ⟨hst, hall⟩ | ⟨pre, c, post, hc, hlt, hpre, hpost, hst⟩
  · exact .inl ⟨by rw [hcheck, hst]; simp [hzero], hall⟩
  · exact .inr ⟨pre, c, post, hc, hlt, hpre, hpost, by rw [hcheck, hst]; simp [hnonzero _ hlt]⟩

end

theorem ascii_prefixed :
    ascii "x.osa_data_" = [120, 46, 111, 115, 97, 95, 100, 97, 116, 97, 95] := by
  decide

theorem ascii_mapExt : mapExt = [46, 111, 115, 97] := by decide

theorem ascii_data : ascii "_data_" = [95, 100, 97, 116, 97, 95] := by decide

-- The file `x.osa_data_<ts>.osa`: its first `.osa` comes before its timestamp.
theorem walkFn_early_osa {T : Type} (clock : Clock T) (dir ts : GoString) (err : Option String)
    (st : T × GoString) :
    let name := ascii "x.osa_data_" ++ ts ++ mapExt
    walkFn clock st ⟨dir ++ ascii "/" ++ name, some ⟨name, false⟩, err⟩ = none := by
  have hext :
      Filepath.ext (dir ++ ascii "/" ++ (ascii "x.osa_data_" ++ ts ++ mapExt)) = mapExt := by
    rw [ascii_mapExt]
    simp [Filepath.ext, Filepath.extRev]
  have hdata : Strings.index (ascii "x.osa_data_" ++ ts ++ mapExt) (ascii "_data_") = 5 := by
    rw [ascii_prefixed, ascii_mapExt, ascii_data]
    simp [Strings.index, List.isPrefixOf]
  have hosa : Strings.index (ascii "x.osa_data_" ++ ts ++ mapExt) mapExt = 1 := by
    rw [ascii_prefixed, ascii_mapExt]
    simp [Strings.index, List.isPrefixOf]
  simp only [walkFn, hext, hdata, hosa, slice_eq_none (by decide : (1 : Int) < 5 + 6)]
  simp

-- `checkMaps` panics on a walk that reaches the file `x.osa_data_<ts>.osa` in any directory,
-- whatever the timestamp, and on a walk whose root cannot be read, where `WalkDir` hands the
-- callback a nil entry.
theorem checkMaps_panics {T : Type} (clock : Clock T) (pre post : List Visit) (dir ts : GoString)
    (err : Option String) (root : GoString) (rootErr : String) :
    checkMaps clock (pre ++ ⟨dir ++ ascii "/" ++ (ascii "x.osa_data_" ++ ts ++ mapExt),
      some ⟨ascii "x.osa_data_" ++ ts ++ mapExt, false⟩, err⟩ :: post) = none ∧
    checkMaps clock [⟨root, none, some rootErr⟩] = none := by
  refine ⟨?_, rfl⟩
  rw [checkMaps, foldlM_walkFn_panic clock (walkFn_early_osa clock dir ts err)]
  rfl

-- Timestamps written as decimal numbers.
def decimalClock : Clock Nat :=
  ⟨0, fun t => t == 0, fun a b => decide (b < a), digitsValue, fun _ => ascii "t"⟩

-- In a map directory whose own name holds `.osa`, the map path is cut at that directory.
theorem checkMaps_osa_directory :
    checkMaps decimalClock
      [⟨ascii "/d/m.osa.d/x_data_7.osa", some ⟨ascii "x_data_7.osa", false⟩, none⟩] =
      some (ascii "t", ascii "/d/m") := by
  decide

-- Two maps of one camera: the one saved at 7 is the latest.
def twoMaps : List Visit :=
  [⟨ascii "/m/a_data_3.osa", some ⟨ascii "a_data_3.osa", false⟩, none⟩,
    ⟨ascii "/m/a_data_7.osa", some ⟨ascii "a_data_7.osa", false⟩, none⟩]

theorem checkMaps_latest_twoMaps :
    (∀ a b, decimalClock.after a b = decide ((b : Int) < a)) ∧
    decimalClock.isZero decimalClock.zero = true ∧
    (∀ t : Nat, ((decimalClock.zero : Nat) : Int) < t → decimalClock.isZero t = false) ∧
    (∀ v ∈ twoMaps, ∀ st, walkFn decimalClock st v ≠ none) ∧
    let cands := twoMaps.filterMap (mapCandidate decimalClock)
    ((checkMaps decimalClock twoMaps = some ([], []) ∧
        ∀ c ∈ cands, (c.1 : Int) ≤ (decimalClock.zero : Nat)) ∨
      ∃ pre c post, cands = pre ++ c :: post ∧ ((decimalClock.zero : Nat) : Int) < c.1 ∧
        (∀ d ∈ pre, (d.1 : Int) < c.1) ∧ (∀ d ∈ post, (d.1 : Int) ≤ c.1) ∧
        checkMaps decimalClock twoMaps = some (decimalClock.format c.1, c.2)) :=
  have hafter : ∀ a b, decimalClock.after a b = decide ((b : Int) < a) := fun a b => by
    simp [decimalClock]
  have hnonzero : ∀ t : Nat, ((decimalClock.zero : Nat) : Int) < t →
      decimalClock.isZero t = false := fun t ht => by
    simp only [decimalClock] at ht ⊢
    simpa using (by omega : t ≠ 0)
  -- each map file offers its timestamp, whatever the walk found before it
  have hvisit : ∀ v ∈ twoMaps, ∀ st, walkFn decimalClock st v ≠ none := by
    intro v hv st
    simp only [twoMaps, List.mem_cons, List.mem_singleton, List.not_mem_nil, or_false] at hv
    rcases hv with rfl | rfl
    · have hv : walkFn decimalClock st
          ⟨ascii "/m/a_data_3.osa", some ⟨ascii "a_data_3.osa", false⟩, none⟩ =
          if decide (st.1 < 3) = true then some (3, ascii "/m/a_data_3") else some st := rfl
      rw [hv]; split <;> simp
    · have hv : walkFn decimalClock st
          ⟨ascii "/m/a_data_7.osa", some ⟨ascii "a_data_7.osa", false⟩, none⟩ =
          if decide (st.1 < 7) = true then some (7, ascii "/m/a_data_7") else some st := rfl
      rw [hv]; split <;> simp
  ⟨hafter, rfl, hnonzero, hvisit, checkMaps_latest decimalClock hafter rfl hnonzero hvisit⟩

end Rdk.Slam
